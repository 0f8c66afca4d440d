import NodeNet.Discovery.Rows

/-!
# The discovery session

The loop of a discovery session: in each iteration every query has its turn (`turn`), in which an expired query
settles its lease, a query that wants to send takes a lease and sends when the pacer allows it, and a query that
waits for responses reads up to eight datagrams and adds their rows to those of the session.

Everything the loop learns from outside is an input: the instants it reads, whether the session is paused or
cancelled, whether a datagram could be sent, and what is received.  The parsers of the protocols are inputs too: a
`Parsed` is whatever they may answer to a datagram, including what they leave in the context of the query.
-/

namespace NodeNet.Discovery

open Engine (checkedAdd saturatingAdd saturatingMul u64Max u128Max IpAddress)

def maxReceivedDatagrams : Nat := 65536
def maxReceivedBytes : Nat := 64 * 1024 * 1024
def maxRipv1DatagramsPerQuery : Nat := 10
def maxRipv1BytesPerQuery : Nat := 10 * 504
/-- The bound of a session on its physical queries. -/
def maximumPhysicalQueries : Nat := 1024

/-! ### Operations -/

structure DiscoveryOperationDescriptor where
  id : Nat
  destinationPort : Nat
  maximumResponseBytes : Nat
  maximumEntitiesPerQuery : Nat
  maximumMetadataBytesPerQuery : Nat
  responseWindowMs : Nat
deriving DecidableEq

def discoveryOperationRegistry : List DiscoveryOperationDescriptor := [
  ⟨1, 5353, 9000, 512, 1048576, 3000⟩,
  ⟨3, 3702, 4096, 512, 1048576, 5000⟩,
  ⟨4, 5355, 1500, 64, 65536, 2000⟩,
  ⟨5, 5351, 12, 1, 1024, 2000⟩,
  ⟨6, 1434, 65507, 129, 1048576, 3000⟩,
  ⟨7, 111, 4096, 32, 65536, 3000⟩,
  ⟨8, 69, 4096, 1, 4096, 3000⟩,
  ⟨9, 443, 4096, 1, 4096, 2000⟩,
  ⟨10, 520, 504, 250, 32768, 3000⟩]

inductive ScannerError where
  | operationDisappeared
  | settlement (error : DiscoveryBudgetError)
  /-- An accepted identity became invalid. -/
  | invalidIdentity
  /-- The index of a row is out of bounds. -/
  | rowMissing
deriving DecidableEq

def findDescriptor (id : Nat) : Option DiscoveryOperationDescriptor :=
  discoveryOperationRegistry.find? fun entry => entry.id = id

def descriptor {σ : Type} (id : Nat) : EStateM ScannerError σ DiscoveryOperationDescriptor :=
  match findDescriptor id with
  | some operation => pure operation
  | none => throw .operationDisappeared

/-! ### Queries -/

structure SocketAddr where
  ip : IpAddress
  port : Nat
deriving DecidableEq

inductive OutboundKind where
  | initialQuery
  | adaptiveQuery
  | cleanup
deriving DecidableEq

structure OutboundDatagram where
  bytes : Bytes
  destination : SocketAddr
  kind : OutboundKind
deriving DecidableEq

/-- What the loop itself reads of the context of a query. -/
inductive QueryContext where
  | mdns (queued : List OutboundDatagram)
  /-- With the port from which the answer to the derived request is expected. -/
  | rpcbind (awaitingNfs : Option Nat)
  | tftp
  | ripV1 (receivedDatagrams receivedBytes : Nat) (exhausted : Bool)
  | other
deriving DecidableEq

structure Query where
  operation : Nat
  interfaceIndex : Option Nat
  expectedTarget : Option IpAddress
  context : QueryContext
  pendingOutbound : Option OutboundDatagram
  responseDeadline : Option Nat := none
  retainedEntities : Nat := 0
  retainedMetadataBytes : Nat := 0
  lease : Option DiscoveryQueryLease := none
  settled : Bool := false
deriving DecidableEq

structure ReceivedDatagram where
  length : Nat
  source : SocketAddr
  /-- The source address as text. -/
  responder : Bytes
  interfaceIndex : Option Nat
deriving DecidableEq

/-- What the parser of an operation answers to a datagram, and what it adds to the context. -/
structure Parsed where
  result : Option (List NativeDiscoveryRow × Option OutboundDatagram)
  scheduled : List OutboundDatagram := []
  nfsPort : Option Nat := none
deriving DecidableEq

def QueryContext.parsed (context : QueryContext) (parsed : Parsed) : QueryContext :=
  match context with
  | .mdns queued => .mdns (queued ++ parsed.scheduled)
  | .rpcbind none => .rpcbind parsed.nfsPort
  | context => context

def sourcePortMatches (query : Query) (sourcePort : Nat) : Bool :=
  match query.context with
  | .tftp => sourcePort ≠ 0
  | .rpcbind (some port) => sourcePort = port
  | _ => (findDescriptor query.operation).any fun operation => sourcePort = operation.destinationPort

/-- Charges a response before it is parsed.  Answers whether it is the last one, or nothing if there is no room for
it. -/
def chargeQueryResponse (context : QueryContext) (length : Nat) : QueryContext × Option Bool :=
  match context with
  | .ripV1 receivedDatagrams receivedBytes exhausted =>
    if exhausted ∨ receivedDatagrams ≥ maxRipv1DatagramsPerQuery ∨
        (checkedAdd usizeMax receivedBytes length).all (· > maxRipv1BytesPerQuery) then
      (.ripV1 receivedDatagrams receivedBytes true, none)
    else
      let reached := receivedDatagrams + 1 = maxRipv1DatagramsPerQuery ∨ receivedBytes + length =
        maxRipv1BytesPerQuery
      (.ripV1 (receivedDatagrams + 1) (receivedBytes + length) reached, some reached)
  | context => (context, some false)

def markQueryRowsTruncated (rows : List NativeDiscoveryRow) (query : Query) (responder : Bytes) :
    List NativeDiscoveryRow :=
  rows.map fun row =>
    if row.operationId = query.operation ∧ row.responder = responder ∧
        (query.interfaceIndex.isNone ∨ row.interfaceIndex = query.interfaceIndex) then row.markTruncated
    else row

/-! ### Pacing -/

structure DiscoveryPacer where
  packetsPerSecond : Nat
  capacity : Nat
  tokens : Nat
  updated : Nat
deriving DecidableEq

def unitsPerPacket : Nat := 1000000000

def DiscoveryPacer.new (packetsPerSecond burst now : Nat) : DiscoveryPacer where
  packetsPerSecond := packetsPerSecond
  capacity := burst * unitsPerPacket
  tokens := burst * unitsPerPacket
  updated := now

def DiscoveryPacer.tryTake (pacer : DiscoveryPacer) (now : Nat) : DiscoveryPacer × Bool :=
  let replenished := saturatingMul u128Max (now - pacer.updated) pacer.packetsPerSecond
  let tokens := min (saturatingAdd u128Max pacer.tokens replenished) pacer.capacity
  if tokens < unitsPerPacket then ({ pacer with tokens := tokens, updated := now }, false)
  else ({ pacer with tokens := tokens - unitsPerPacket, updated := now }, true)

/-! ### The state of a session -/

structure DiscoveryPlan where
  limits : DiscoveryLimits
  packetsPerSecond : Nat
  burst : Nat
deriving DecidableEq

structure Counters where
  queries : Nat := 0
  sent : Nat := 0
  received : Nat := 0
  receivedBytes : Nat := 0
  accepted : Nat := 0
  duplicate : Nat := 0
  rejected : Nat := 0
  truncated : Nat := 0
  cleanupSent : Nat := 0
deriving DecidableEq

structure Shared where
  rows : List NativeDiscoveryRow
  retainedMetadataBytes : Nat
  budget : DiscoveryBudget
  identities : OrdMap NativeDiscoveryRow.Key Nat
  pacer : DiscoveryPacer
  counters : Counters

structure Work where
  query : Query
  shared : Shared

abbrev Turn := EStateM ScannerError Work

namespace Work

variable (w : Work)

def setQuery (query : Query) : Work := { w with query }

def setCounters (counters : Counters) : Work := { w with shared := { w.shared with counters } }

def setBudget (budget : DiscoveryBudget) : Work := { w with shared := { w.shared with budget } }

def setRows (rows : List NativeDiscoveryRow) : Work := { w with shared := { w.shared with rows } }

def countRejected : Work := w.setCounters { w.shared.counters with rejected := w.shared.counters.rejected + 1 }

def countTruncated : Work := w.setCounters { w.shared.counters with truncated := w.shared.counters.truncated + 1 }

end Work

/-! ### Rows -/

def staysWithin (total additional maximum : Nat) : Bool := (checkedAdd usizeMax total additional).any (· ≤ maximum)

variable (plan : DiscoveryPlan)

variable (operation : DiscoveryOperationDescriptor)

/-- Retains the first sighting of an entity, if its bytes fit. -/
def admitRow (row : NativeDiscoveryRow) (w : Work) : Work :=
  let bytes := discoveryRowMetadataBytes row
  if ¬ staysWithin w.query.retainedMetadataBytes bytes operation.maximumMetadataBytesPerQuery then w.countTruncated
  else if ¬ staysWithin w.shared.retainedMetadataBytes bytes plan.limits.maxMetadataBytes then w.countTruncated
  else
    let retainedEntities := w.query.retainedEntities + 1
    let counters := { w.shared.counters with
      accepted := w.shared.counters.accepted + 1
      truncated := w.shared.counters.truncated + if row.truncated then 1 else 0 }
    { query := { w.query with
        retainedMetadataBytes := w.query.retainedMetadataBytes + bytes
        retainedEntities
        responseDeadline :=
          if retainedEntities ≥ operation.maximumEntitiesPerQuery ∧ w.query.pendingOutbound.isNone then none
          else w.query.responseDeadline }
      shared := { w.shared with
        rows := w.shared.rows ++ [{ row with entityId := decimal (w.shared.rows.length + 1) }]
        retainedMetadataBytes := w.shared.retainedMetadataBytes + bytes
        identities := w.shared.identities.insert row.key w.shared.rows.length
        counters } }

/-- Replaces the row of an entity by one with what another sighting adds, if the additional bytes fit, and marks it
otherwise. -/
def growRow (index : Nat) (existing merged : NativeDiscoveryRow) (w : Work) : Work :=
  let additional := discoveryRowMetadataBytes merged - discoveryRowMetadataBytes existing
  if ¬ staysWithin w.query.retainedMetadataBytes additional operation.maximumMetadataBytesPerQuery then
    (w.setRows (w.shared.rows.set index existing.markTruncated)).countTruncated
  else if staysWithin w.shared.retainedMetadataBytes additional plan.limits.maxMetadataBytes then
    { query := { w.query with retainedMetadataBytes := w.query.retainedMetadataBytes + additional }
      shared := { w.shared with
        rows := w.shared.rows.set index merged
        retainedMetadataBytes := w.shared.retainedMetadataBytes + additional
        counters := { w.shared.counters with
          truncated := w.shared.counters.truncated + if merged.truncated ∧ ¬ existing.truncated then 1 else 0 } } }
  else (w.setRows (w.shared.rows.set index existing.markTruncated)).countTruncated

def aggregateRow (row : NativeDiscoveryRow) : Turn Unit := do
  let w ← get
  if w.shared.rows.length ≥ plan.limits.maxResults then set w.countTruncated
  else
    match w.shared.identities.get? row.key with
    | none =>
      if w.query.retainedEntities ≥ operation.maximumEntitiesPerQuery then set w.countTruncated
      else set (admitRow plan operation row w)
    | some index =>
      let w := w.setCounters { w.shared.counters with duplicate := w.shared.counters.duplicate + 1 }
      match w.shared.rows[index]? with
      | none => throw .rowMissing
      | some existing =>
        match boundedRow (mergeRow existing row) with
        | none => throw .invalidIdentity
        | some merged => set (growRow plan operation index existing merged w)

/-! ### Datagrams -/

inductive Receipt where
  | datagram (received : ReceivedDatagram) (handledAt : Nat) (parsed : Parsed)
  | nothing
  | interrupted
  | failed

/-- Takes over what the parser left in the context. -/
def takeContext (parsed : Parsed) (w : Work) : Work :=
  w.setQuery { w.query with context := w.query.context.parsed parsed }

/-- Takes over what the parser wants to be sent. -/
def takeOutbound (deadline handledAt : Nat) (outbound : Option OutboundDatagram) (w : Work) : Work :=
  if handledAt < deadline ∧ w.query.pendingOutbound.isNone then
    w.setQuery { w.query with pendingOutbound := outbound }
  else w

variable (deadline : Nat)

/-- Takes over what the parser answered. -/
def acceptParsed (operation : DiscoveryOperationDescriptor) (handledAt : Nat) (parsed : Parsed) : Turn Unit := do
  modify (takeContext parsed)
  match parsed.result with
  | none => modify Work.countRejected
  | some (rows, outbound) =>
    modify (takeOutbound deadline handledAt outbound)
    rows.forM (aggregateRow plan operation)

/-- Ends a query whose responses have used up its budget. -/
def exhaustQuery (responder : Bytes) (w : Work) : Work :=
  let w := (w.setRows (markQueryRowsTruncated w.shared.rows w.query responder)).countTruncated
  w.setQuery { w.query with responseDeadline := none }

/-- What is done with a datagram before it is charged. -/
inductive Screening where
  | stop
  | skip
  | accept (operation : DiscoveryOperationDescriptor)

/-- Counts a datagram and compares it with what the query expects. -/
def screenDatagram (received : ReceivedDatagram) : Turn Screening := do
  modify fun w => w.setCounters { w.shared.counters with
    received := w.shared.counters.received + 1
    receivedBytes := saturatingAdd u64Max w.shared.counters.receivedBytes received.length }
  let w ← get
  if w.shared.counters.received > maxReceivedDatagrams ∨ w.shared.counters.receivedBytes > maxReceivedBytes then do
    set w.countTruncated
    pure .stop
  else if w.query.expectedTarget.any (· ≠ received.source.ip) then do
    set w.countRejected
    pure .skip
  else if w.query.interfaceIndex.isSome ∧ received.interfaceIndex ≠ w.query.interfaceIndex then do
    set w.countRejected
    pure .skip
  else do
    let operation ← descriptor w.query.operation
    if received.length > operation.maximumResponseBytes ∨ ¬ sourcePortMatches w.query received.source.port then do
      set w.countRejected
      pure .skip
    else pure (.accept operation)

/-- Charges an expected datagram and takes over what it says.  Answers whether the next one is read. -/
def respond (operation : DiscoveryOperationDescriptor)
    (received : ReceivedDatagram) (handledAt : Nat) (parsed : Parsed) : Turn Bool := do
  let w ← get
  let charged := chargeQueryResponse w.query.context received.length
  set (w.setQuery { w.query with context := charged.1 })
  match charged.2 with
  | none => do
    modify (exhaustQuery received.responder)
    pure false
  | some budgetReached => do
    acceptParsed plan deadline operation handledAt parsed
    if budgetReached then do
      modify (exhaustQuery received.responder)
      pure false
    else pure true

/-- Handles a datagram.  Answers whether the next one is read. -/
def handleDatagram (received : ReceivedDatagram) (handledAt : Nat) (parsed : Parsed) : Turn Bool := do
  match ← screenDatagram received with
  | .stop => pure false
  | .skip => pure true
  | .accept operation => respond plan deadline operation received handledAt parsed

/-- Reads a socket until there is nothing left or as often as is allowed. -/
def receive (plan : DiscoveryPlan) (deadline : Nat) : Nat → List Receipt → Turn Unit
  | 0, _ => pure ()
  | _ + 1, [] => pure ()
  | reads + 1, receipt :: receipts =>
    match receipt with
    | .datagram received handledAt parsed => do
      let again ← handleDatagram plan deadline received handledAt parsed
      if again then receive plan deadline reads receipts else pure ()
    | .nothing => pure ()
    | .interrupted => receive plan deadline reads receipts
    | .failed => modify Work.countRejected

/-! ### Turns -/

/-- What a query learns from outside in its turn. -/
structure TurnInput where
  openAt : Nat := 0
  settleAt : Nat := 0
  running : Bool := true
  paceAt : Nat := 0
  sent : Bool := true
  sentAt : Nat := 0
  listenAt : Nat := 0
  receipts : List Receipt := []

/-- Settles the lease of a query whose responses are no longer awaited. -/
def settleExpired (settleAt : Nat) : Turn Unit := do
  let w ← get
  if w.query.responseDeadline.any (settleAt ≥ ·) ∧ w.query.pendingOutbound.isNone ∧ ¬ w.query.settled then
    match w.query.lease with
    | none => set (w.setQuery { w.query with settled := true, responseDeadline := none })
    | some lease =>
      match DiscoveryBudget.settle w.query.retainedEntities w.query.retainedMetadataBytes
        (w.shared.budget, lease) with
      | .error error (budget, _) => do
        set ((w.setBudget budget).setQuery { w.query with lease := none })
        throw (.settlement error)
      | .ok _ (budget, _) =>
        set ((w.setBudget budget).setQuery { w.query with
          lease := none, settled := true, responseDeadline := none })
  else pure ()

/-- Drops an adaptive query once the session has sent as many as it may. -/
def limitAdaptive (w : Work) : Work :=
  if w.query.pendingOutbound.any (fun outbound => outbound.kind = .adaptiveQuery) ∧
      w.shared.counters.queries ≥ maximumPhysicalQueries then
    (w.setQuery { w.query with pendingOutbound := none }).countTruncated
  else w

def sendAllowed (running : Bool) (query : Query) : Bool :=
  query.pendingOutbound.any fun outbound => outbound.kind = .cleanup || running

/-- Leases the worst case of the operation, if the budget allows it. -/
def takeLease : Turn Unit := do
  let w ← get
  if w.query.lease.isNone ∧ ¬ w.query.settled then do
    let operation ← descriptor w.query.operation
    match DiscoveryBudget.tryLease operation.maximumEntitiesPerQuery operation.maximumMetadataBytesPerQuery
        w.shared.budget with
    | .ok lease budget => set ((w.setBudget budget).setQuery { w.query with lease := some lease })
    | .error _ budget => set (w.setBudget budget)
  else pure ()

/-- Books a datagram that was handed to the socket. -/
def bookSent (deadline sentAt : Nat) (outbound : OutboundDatagram) : Turn Unit := do
  modify fun w => w.setCounters { w.shared.counters with sent := w.shared.counters.sent + 1 }
  if outbound.kind = .cleanup then
    modify fun w =>
      (w.setCounters { w.shared.counters with cleanupSent := w.shared.counters.cleanupSent + 1 }).setQuery
      { w.query with responseDeadline := none }
  else do
    modify fun w =>
      if outbound.kind = .adaptiveQuery then
        w.setCounters { w.shared.counters with queries := saturatingAdd u64Max w.shared.counters.queries 1 }
      else w
    let w ← get
    let operation ← descriptor w.query.operation
    set (w.setQuery { w.query with
      responseDeadline := some (min (sentAt + operation.responseWindowMs * 1000000) deadline) })

variable (input : TurnInput)

/-- Sends what is pending, if the pacer allows it. -/
def sendPending : Turn Unit := do
  let w ← get
  if w.query.lease.isSome then do
    let taken := w.shared.pacer.tryTake input.paceAt
    let w := { w with shared := { w.shared with pacer := taken.1 } }
    match taken.2, w.query.pendingOutbound with
    | true, some outbound => do
      let w := w.setQuery { w.query with pendingOutbound := none }
      if input.sent then do
        set w
        bookSent deadline input.sentAt outbound
      else set (w.countRejected.setQuery { w.query with responseDeadline := none })
    | _, _ => set w
  else pure ()

/-- Makes the next queued datagram the pending one. -/
def popQueued (w : Work) : Work :=
  match w.query.pendingOutbound, w.query.context with
  | none, .mdns (outbound :: queued) =>
    w.setQuery { w.query with pendingOutbound := some outbound, context := .mdns queued }
  | _, _ => w

def emit : Turn Unit := do
  let w ← get
  if sendAllowed input.running w.query then do
    takeLease
    sendPending deadline input
  else pure ()

def listen : Turn Unit := do
  let w ← get
  if w.query.responseDeadline.all (input.listenAt ≥ ·) then pure ()
  else do
    receive plan deadline 8 input.receipts
    modify popQueued

def turn : Turn Unit := do
  settleExpired input.settleAt
  modify limitAdaptive
  emit deadline input
  listen plan deadline input

/-! ### The loop -/

structure DiscoverySession where
  queries : List Query
  shared : Shared

def turnOf (query : Query) : EStateM ScannerError Shared Query := fun shared =>
  match turn plan deadline input ⟨query, shared⟩ with
  | .ok _ w => .ok w.query w.shared
  | .error error w => .error error w.shared

def sweep (plan : DiscoveryPlan) (deadline : Nat) : List TurnInput → List Query →
    EStateM ScannerError Shared (List Query)
  | _, [] => pure []
  | inputs, query :: queries => do
    let query ← turnOf plan deadline (inputs.headD {}) query
    let queries ← sweep plan deadline inputs.tail queries
    pure (query :: queries)

/-- Some query waits for responses or has something to send. -/
def isOpen : List TurnInput → List Query → Bool
  | _, [] => false
  | inputs, query :: queries =>
    query.responseDeadline.any ((inputs.headD {}).openAt < ·) || query.pendingOutbound.isSome ||
      isOpen inputs.tail queries

structure Iteration where
  now : Nat := 0
  cancelling : Bool := false
  turns : List TurnInput := []

def entersIteration (iteration : Iteration) (session : DiscoverySession) : Bool :=
  iteration.now < deadline && isOpen iteration.turns session.queries && !iteration.cancelling

/-- An iteration of the loop.  Answers whether there may be another one. -/
def iterate (iteration : Iteration) : EStateM ScannerError DiscoverySession Bool := fun session =>
  if entersIteration deadline iteration session then
    match sweep plan deadline iteration.turns session.queries session.shared with
    | .error error shared => .error error { session with shared }
    | .ok queries shared =>
      .ok (¬ (shared.counters.received > maxReceivedDatagrams ∨ shared.counters.receivedBytes > maxReceivedBytes))
        ⟨queries, shared⟩
  else .ok false session

def runLoop (iterations : List Iteration) : EStateM ScannerError DiscoverySession Unit :=
  forUntil (iterate plan deadline) iterations

structure Product where
  operation : Nat
  interfaceIndex : Option Nat
  expectedTarget : Option IpAddress
  context : QueryContext
  request : Bytes
  destination : SocketAddr
deriving DecidableEq

def prepareQuery (product : Product) : Query where
  operation := product.operation
  interfaceIndex := product.interfaceIndex
  expectedTarget := product.expectedTarget
  context := product.context
  pendingOutbound := some ⟨product.request, product.destination, .initialQuery⟩

def startDiscovery (products : List Product) (now : Nat) : DiscoverySession where
  queries := products.map prepareQuery
  shared :=
    { rows := []
      retainedMetadataBytes := 0
      budget := DiscoveryBudget.new plan.limits
      identities := ∅
      pacer := DiscoveryPacer.new plan.packetsPerSecond plan.burst now
      counters := { queries := products.length } }

end NodeNet.Discovery
