import NodeNet.Discovery.Retention

/-!
# Leases that are given back

A lease is settled when the response deadline of its query has passed.  A query whose deadline is taken away before
keeps its lease for the rest of the session.  The loop does that when a datagram cannot be sent, after a cleanup,
when a query has retained its last entity, when the budget of its responses is used up, and when its next datagram
is dropped; the predicates below (`sendKeeps`, `rowKeeps`, ...) say of the state in front of each of these steps
that it does not.  If they hold along a run, every query with a lease has something to send or waits for responses
(`leases_attended`).
-/

namespace NodeNet.Discovery

open List

/-- The query has something to send or waits for responses. -/
def Query.isLive (query : Query) : Bool := query.pendingOutbound.isSome || query.responseDeadline.isSome

/-- A lease is not left behind by a query that has ended. -/
def Query.Attended (query : Query) : Prop := query.lease.isSome = true → query.isLive = true

def QueryContext.hasQueued : QueryContext → Bool
  | .mdns (_ :: _) => true
  | _ => false

/-- The query is live, or will be once its next queued datagram is pending. -/
def Query.continues (query : Query) : Bool := query.isLive || query.context.hasQueued

/-! ### Steps that end a query -/

/-- The predicate holds in the state in which the program ends normally. -/
def after {ε σ α : Type} (m : EStateM ε σ α) (w : σ) (p : α → σ → Bool) : Bool :=
  match m w with
  | .ok a w' => p a w'
  | .error _ _ => true

theorem after_iff {ε σ α : Type} {m : EStateM ε σ α} {w : σ} {p : α → σ → Bool} :
    after m w p = true ↔ Ends m w (fun a w' => p a w' = true) (fun _ _ => True) := by
  unfold after Ends
  cases m w <;> simp

/-- No adaptive query is dropped on which the query depends. -/
def adaptiveKeeps (w : Work) : Bool :=
  !(w.query.pendingOutbound.any (fun outbound => outbound.kind = .adaptiveQuery) &&
      w.shared.counters.queries ≥ maximumPhysicalQueries) ||
    w.query.responseDeadline.isSome || w.query.lease.isNone

/-- What is sent can be sent, and is not a cleanup. -/
def sendKeeps (input : TurnInput) (w : Work) : Bool :=
  !(w.query.lease.isSome && (w.shared.pacer.tryTake input.paceAt).2) ||
    w.query.pendingOutbound.all fun outbound => input.sent && outbound.kind ≠ .cleanup

def emitKeeps (input : TurnInput) (w : Work) : Bool :=
  !sendAllowed input.running w.query || after takeLease w fun _ w => sendKeeps input w

section Receiving

variable (plan : DiscoveryPlan) (deadline : Nat) (operation : DiscoveryOperationDescriptor)

/-- The row is retained as that of a new entity. -/
def admits (row : NativeDiscoveryRow) (w : Work) : Bool :=
  w.shared.rows.length < plan.limits.maxResults && (w.shared.identities.get? row.key).isNone &&
    w.query.retainedEntities < operation.maximumEntitiesPerQuery &&
    staysWithin w.query.retainedMetadataBytes (discoveryRowMetadataBytes row)
      operation.maximumMetadataBytesPerQuery &&
    staysWithin w.shared.retainedMetadataBytes (discoveryRowMetadataBytes row) plan.limits.maxMetadataBytes

/-- The row is not the last one of a query that has nothing more to send. -/
def rowKeeps (row : NativeDiscoveryRow) (w : Work) : Bool :=
  !(admits plan operation row w && w.query.retainedEntities + 1 ≥ operation.maximumEntitiesPerQuery) ||
    w.query.pendingOutbound.isSome || w.query.context.hasQueued

def rowsKeep : List NativeDiscoveryRow → Work → Bool
  | [], _ => true
  | row :: rows, w =>
    rowKeeps plan operation row w && after (aggregateRow plan operation row) w fun _ w => rowsKeep rows w

def parsedKeeps (handledAt : Nat) (parsed : Parsed) (w : Work) : Bool :=
  match parsed.result with
  | none => true
  | some (rows, outbound) =>
    rowsKeep plan operation rows (takeOutbound deadline handledAt outbound (takeContext parsed w))

/-- The response leaves some of the budget of the query. -/
def responseKeeps (received : ReceivedDatagram) (handledAt : Nat) (parsed : Parsed) (w : Work) : Bool :=
  let charged := chargeQueryResponse w.query.context received.length
  charged.2 = some false &&
    parsedKeeps plan deadline operation handledAt parsed (w.setQuery { w.query with context := charged.1 })

def datagramKeeps (received : ReceivedDatagram) (handledAt : Nat) (parsed : Parsed) (w : Work) : Bool :=
  after (screenDatagram received) w fun screening w =>
    match screening with
    | .accept operation => responseKeeps plan deadline operation received handledAt parsed w
    | _ => true

def receiptsKeep : Nat → List Receipt → Work → Bool
  | reads + 1, .datagram received handledAt parsed :: receipts, w =>
    datagramKeeps plan deadline received handledAt parsed w &&
      after (handleDatagram plan deadline received handledAt parsed) w fun again w => !again ||
        receiptsKeep reads receipts w
  | reads + 1, .interrupted :: receipts, w => receiptsKeep reads receipts w
  | _, _, _ => true

def listenKeeps (input : TurnInput) (w : Work) : Bool :=
  w.query.responseDeadline.all (input.listenAt ≥ ·) || receiptsKeep plan deadline 8 input.receipts w

def turnKeeps (input : TurnInput) (w : Work) : Bool :=
  after (settleExpired input.settleAt) w fun _ w =>
    adaptiveKeeps w && emitKeeps input (limitAdaptive w) &&
      after (emit deadline input) (limitAdaptive w) fun _ w => listenKeeps plan deadline input w

def sweepKeeps : List TurnInput → List Query → Shared → Bool
  | _, [], _ => true
  | inputs, query :: queries, shared =>
    turnKeeps plan deadline (inputs.headD {}) ⟨query, shared⟩ &&
      after (turnOf plan deadline (inputs.headD {}) query) shared fun _ shared =>
        sweepKeeps inputs.tail queries shared

/-- No step of a run ends a query that holds a lease. -/
def runKeeps : List Iteration → DiscoverySession → Bool
  | [], _ => true
  | iteration :: iterations, session =>
    (!entersIteration deadline iteration session ||
        sweepKeeps plan deadline iteration.turns session.queries session.shared) &&
      after (iterate plan deadline iteration) session fun again session => !again || runKeeps iterations session

end Receiving

variable {plan : DiscoveryPlan} {deadline : Nat} {operation : DiscoveryOperationDescriptor} {w : Work}

/-! ### Sending -/

theorem settleExpired_attended (h : w.query.Attended) (settleAt : Nat) :
    Ends (settleExpired settleAt) w (fun _ w' => w'.query.Attended) (fun _ _ => True) := by
  unfold settleExpired
  rw [ends_bind, ends_get]
  refine ends_ite.2 ⟨fun _ => ?_, fun _ => h⟩
  cases hlease : w.query.lease with
  | none =>
    simp only [ends_set]
    intro hsome
    rw [Work.setQuery, hlease] at hsome
    cases hsome
  | some lease =>
    cases hsettle : DiscoveryBudget.settle w.query.retainedEntities w.query.retainedMetadataBytes
        (w.shared.budget, lease) with
    | error error settled =>
      simp only [hsettle, ends_bind, ends_set, ends_throw]
    | ok _ settled =>
      simp only [hsettle, ends_set]
      intro hsome
      cases hsome

theorem limitAdaptive_attended (h : w.query.Attended) (hkeeps : adaptiveKeeps w = true) :
    (limitAdaptive w).query.Attended := by
  unfold limitAdaptive
  split
  · next hdrop =>
    intro hlease
    -- the query holds a lease, so it must be waiting for responses
    have hleased : w.query.lease.isNone = false := by
      rw [← Option.not_isSome]
      exact congrArg not hlease
    simp only [adaptiveKeeps, hdrop.1, hleased, decide_eq_true hdrop.2] at hkeeps
    simp only [Query.isLive, Work.countTruncated, Work.setCounters, Work.setQuery]
    simpa using hkeeps
  · exact h

private theorem takeLease_pending (w : Work) :
    Ends takeLease w (fun _ w' => w'.query.pendingOutbound = w.query.pendingOutbound) (fun _ _ => True) := by
  unfold takeLease
  rw [ends_bind, ends_get]
  refine ends_ite.2 ⟨fun _ => ?_, fun _ => rfl⟩
  rw [ends_bind]
  refine ends_descriptor (fun operation _ => ?_) trivial
  split <;> rfl

private theorem bookSent_live (sentAt : Nat) {outbound : OutboundDatagram} (hkind : outbound.kind ≠ .cleanup) :
    Ends (bookSent deadline sentAt outbound) w (fun _ w' => w'.query.isLive = true) (fun _ _ => True) := by
  unfold bookSent
  rw [ends_bind, ends_modify]
  refine ends_ite.2 ⟨fun hcleanup => absurd hcleanup hkind, fun _ => ?_⟩
  simp only [ends_bind, ends_modify, ends_get]
  refine ends_descriptor (fun operation _ => ?_) trivial
  simp [ends_set, Query.isLive, Work.setQuery]

variable {input : TurnInput}

theorem sendPending_live (hpending : w.query.pendingOutbound.isSome = true) (hkeeps : sendKeeps input w = true) :
    Ends (sendPending deadline input) w (fun _ w' => w'.query.isLive = true) (fun _ _ => True) := by
  unfold sendPending
  rw [ends_bind, ends_get]
  have hlive : w.query.isLive = true := by rw [Query.isLive, hpending, Bool.true_or]
  refine ends_ite.2 ⟨fun hlease => ?_, fun _ => hlive⟩
  simp only
  split
  · next outbound htaken houtbound =>
    simp only [sendKeeps, hlease, htaken, houtbound, Bool.and_self, Bool.not_true, Bool.false_or, Option.all_some,
      Bool.and_eq_true, decide_eq_true_eq] at hkeeps
    refine ends_ite.2 ⟨fun _ => ?_, fun hfailed => absurd hkeeps.1 hfailed⟩
    rw [ends_bind, ends_set]
    exact bookSent_live _ hkeeps.2
  · exact hlive

theorem emit_attended (h : w.query.Attended) (hkeeps : emitKeeps input w = true) :
    Ends (emit deadline input) w (fun _ w' => w'.query.Attended) (fun _ _ => True) := by
  unfold emit
  rw [ends_bind, ends_get]
  refine ends_ite.2 ⟨fun hallowed => ?_, fun _ => h⟩
  have hpending : w.query.pendingOutbound.isSome = true := by
    unfold sendAllowed at hallowed
    cases hcase : w.query.pendingOutbound with
    | none => rw [hcase] at hallowed; cases hallowed
    | some outbound => rfl
  simp only [emitKeeps, hallowed, Bool.not_true, Bool.false_or] at hkeeps
  rw [ends_bind]
  refine ((after_iff.1 hkeeps).and (takeLease_pending w)).safe ?_
  rintro _ w' ⟨hsend, hsame⟩
  exact (sendPending_live (hsame ▸ hpending) hsend).safe (fun _ _ hlive _ => hlive)

/-! ### Receiving -/

/-- A retained row ends its query only if it is the last one and there is nothing more to send. -/
theorem admitRow_continues (h : w.query.continues = true) {row : NativeDiscoveryRow}
    (hroom : w.shared.rows.length < plan.limits.maxResults) (hnew : w.shared.identities.get? row.key = none)
    (hentities : w.query.retainedEntities < operation.maximumEntitiesPerQuery)
    (hkeeps : rowKeeps plan operation row w = true) : (admitRow plan operation row w).query.continues = true := by
  unfold admitRow
  simp only
  split
  · exact h
  next hquery =>
  split
  · exact h
  next hsession =>
  simp only [Query.continues, Query.isLive]
  split
  · next hlast =>
    have hadmits : admits plan operation row w = true := by
      simp only [admits, hnew, Option.isNone_none, decide_eq_true hroom, decide_eq_true hentities,
        not_not.1 hquery, not_not.1 hsession, Bool.and_self]
    simp only [rowKeeps, hadmits, decide_eq_true hlast.1, Bool.and_self, Bool.not_true, Bool.false_or] at hkeeps
    simpa using hkeeps
  · exact h

private theorem growRow_query (plan : DiscoveryPlan) (operation : DiscoveryOperationDescriptor) (index : Nat)
    (existing merged : NativeDiscoveryRow) (w : Work) :
    (growRow plan operation index existing merged w).query.continues = w.query.continues := by
  unfold growRow
  simp only
  split
  · rfl
  · split <;> rfl

theorem aggregateRow_continues (h : w.query.continues = true) {row : NativeDiscoveryRow}
    (hkeeps : rowKeeps plan operation row w = true) :
    Ends (aggregateRow plan operation row) w (fun _ w' => w'.query.continues = true) (fun _ _ => True) := by
  unfold aggregateRow
  rw [ends_bind, ends_get]
  refine ends_ite.2 ⟨fun _ => h, fun hroom => ?_⟩
  cases hkey : w.shared.identities.get? row.key with
  | none =>
    refine ends_ite.2 ⟨fun _ => h, fun hentities => ?_⟩
    exact admitRow_continues h (Nat.not_le.1 hroom) hkey (Nat.not_le.1 hentities) hkeeps
  | some index =>
    simp only
    split
    · trivial
    split
    · trivial
    · rw [ends_set, growRow_query]
      exact h

theorem rows_continue {rows : List NativeDiscoveryRow} (h : w.query.continues = true)
    (hkeeps : rowsKeep plan operation rows w = true) :
    Ends (rows.forM (aggregateRow plan operation)) w (fun _ w' => w'.query.continues = true)
    (fun _ _ => True) := by
  have hloop :=
    Ends.forM (I := fun rows (w : Work) => w.query.continues = true ∧ rowsKeep plan operation rows w = true)
    (g := aggregateRow plan operation) (E := fun _ _ => True) ⟨h, hkeeps⟩ fun row rows w hw => by
      have hrow := Bool.and_eq_true_iff.1 hw.2
      exact (aggregateRow_continues hw.1 hrow.1).and (after_iff.1 hrow.2)
        |>.safe fun _ _ hboth => hboth
  exact hloop.safe (fun _ _ hdone => hdone.1)

private theorem takeContext_continues (h : w.query.continues = true) (parsed : Parsed) :
    (takeContext parsed w).query.continues = true := by
  have hqueued : w.query.context.hasQueued = true → (w.query.context.parsed parsed).hasQueued = true := by
    cases w.query.context with
    | mdns queued =>
      cases queued with
      | nil => exact fun hnone => by cases hnone
      | cons outbound queued => exact fun _ => rfl
    | rpcbind awaitingNfs | tftp | ripV1 | other => exact fun hnone => by cases hnone
  have hcases := Bool.or_eq_true_iff.1 h
  exact Bool.or_eq_true_iff.2 (hcases.imp id hqueued)

private theorem takeOutbound_continues (h : w.query.continues = true) (handledAt : Nat)
    (outbound : Option OutboundDatagram) :
    (takeOutbound deadline handledAt outbound w).query.continues = true := by
  unfold takeOutbound
  split
  · next hnone =>
    have hpending : w.query.pendingOutbound.isSome = false := by simpa using hnone.2
    simp only [Query.continues, Query.isLive, hpending, Bool.false_or] at h
    simp only [Query.continues, Query.isLive, Work.setQuery]
    rw [Bool.or_assoc, h, Bool.or_true]
  · exact h

variable {handledAt : Nat} {parsed : Parsed}

theorem acceptParsed_continues (h : w.query.continues = true)
    (hkeeps : parsedKeeps plan deadline operation handledAt parsed w = true) :
    Ends (acceptParsed plan deadline operation handledAt parsed) w (fun _ w' => w'.query.continues = true)
      (fun _ _ => True) := by
  have htaken := takeContext_continues h parsed
  unfold acceptParsed
  unfold parsedKeeps at hkeeps
  rw [ends_bind, ends_modify]
  cases hresult : parsed.result with
  | none => exact htaken
  | some result =>
    obtain ⟨rows, outbound⟩ := result
    rw [hresult] at hkeeps
    simp only [ends_bind, ends_modify]
    exact rows_continue (takeOutbound_continues htaken handledAt outbound) hkeeps

private theorem hasQueued_charge (context : QueryContext) (length : Nat) :
    (chargeQueryResponse context length).1.hasQueued = context.hasQueued := by
  cases context with
  | ripV1 receivedDatagrams receivedBytes exhausted =>
    unfold chargeQueryResponse
    simp only
    split <;> rfl
  | mdns | rpcbind | tftp | other => rfl

theorem respond_continues (h : w.query.continues = true) {received : ReceivedDatagram}
    (hkeeps : responseKeeps plan deadline operation received handledAt parsed w = true) :
    Ends (respond plan deadline operation received handledAt parsed) w (fun _ w' => w'.query.continues = true)
      (fun _ _ => True) := by
  obtain ⟨hcharge, hparsed⟩ := Bool.and_eq_true_iff.1 hkeeps
  have hcharge := of_decide_eq_true hcharge
  unfold respond
  simp only [ends_bind, ends_get, ends_set, hcharge]
  refine (acceptParsed_continues ?_ hparsed).safe (fun _ w' h' => ?_)
  · simp only [Query.continues, Query.isLive, Work.setQuery, hasQueued_charge]
    exact h
  · exact h'

private theorem screenDatagram_query (received : ReceivedDatagram) (w : Work) :
    Ends (screenDatagram received) w (fun _ w' => w'.query = w.query) (fun _ _ => True) := by
  unfold screenDatagram
  simp only [ends_bind, ends_modify, ends_get]
  refine ends_ite.2 ⟨fun _ => rfl, fun _ =>
    ends_ite.2 ⟨fun _ => rfl, fun _ => ends_ite.2 ⟨fun _ => rfl, fun _ => ?_⟩⟩⟩
  rw [ends_bind]
  refine ends_descriptor (fun operation _ => ?_) trivial
  exact ends_ite.2 ⟨fun _ => rfl, fun _ => rfl⟩

theorem handleDatagram_continues (h : w.query.continues = true) {received : ReceivedDatagram}
    (hkeeps : datagramKeeps plan deadline received handledAt parsed w = true) :
    Ends (handleDatagram plan deadline received handledAt parsed) w (fun _ w' => w'.query.continues = true)
      (fun _ _ => True) := by
  unfold handleDatagram
  rw [ends_bind]
  refine ((after_iff.1 hkeeps).and (screenDatagram_query received w)).safe ?_
  rintro screening w' ⟨hresponse, hsame⟩
  have h' : w'.query.continues = true := hsame ▸ h
  cases screening with
  | stop => exact h'
  | skip => exact h'
  | accept operation => exact respond_continues h' hresponse

theorem receive_continues (reads : Nat) (receipts : List Receipt) (h : w.query.continues = true)
    (hkeeps : receiptsKeep plan deadline reads receipts w = true) :
    Ends (receive plan deadline reads receipts) w (fun _ w' => w'.query.continues = true) (fun _ _ => True) := by
  induction reads generalizing w receipts with
  | zero => exact h
  | succ reads ih =>
    cases receipts with
    | nil => exact h
    | cons receipt receipts =>
      cases receipt with
      | datagram received handledAt parsed =>
        obtain ⟨hdatagram, hrest⟩ := Bool.and_eq_true_iff.1 hkeeps
        simp only [receive, ends_bind]
        refine ((handleDatagram_continues h hdatagram).and (after_iff.1 hrest)).safe ?_
        rintro again w' ⟨h', hnext⟩
        refine ends_ite.2 ⟨fun hagain => ih receipts h' ?_, fun _ => h'⟩
        rw [hagain] at hnext
        simpa using hnext
      | nothing => exact h
      | interrupted => exact ih receipts h hkeeps
      | failed => exact h

private theorem popQueued_live (h : w.query.continues = true) : (popQueued w).query.isLive = true := by
  unfold popQueued
  split
  · rfl
  next hno =>
  rcases Bool.or_eq_true_iff.1 h with hlive | hqueued
  · exact hlive
  -- something is queued, so something is pending already
  cases hpending : w.query.pendingOutbound with
  | some outbound => rw [Query.isLive, hpending]; rfl
  | none =>
    cases hcontext : w.query.context with
    | mdns queued =>
      cases queued with
      | nil => rw [hcontext] at hqueued; cases hqueued
      | cons outbound queued => exact absurd hcontext (hno outbound queued hpending)
    | rpcbind | tftp | ripV1 | other => rw [hcontext] at hqueued; cases hqueued

theorem listen_attended (h : w.query.Attended) (hkeeps : listenKeeps plan deadline input w = true) :
    Ends (listen plan deadline input) w (fun _ w' => w'.query.Attended) (fun _ _ => True) := by
  unfold listen
  rw [ends_bind, ends_get]
  refine ends_ite.2 ⟨fun _ => h, fun hopen => ?_⟩
  have hcontinues : w.query.continues = true := by
    cases hdeadline : w.query.responseDeadline with
    | none => rw [hdeadline] at hopen; exact absurd rfl hopen
    | some value => simp only [Query.continues, Query.isLive, hdeadline, Option.isSome_some,
      Bool.or_true, Bool.true_or]
  rw [listenKeeps, Bool.eq_false_of_not_eq_true hopen, Bool.false_or] at hkeeps
  rw [ends_bind]
  exact (receive_continues 8 input.receipts hcontinues hkeeps).safe (fun _ _ h' _ => popQueued_live h')

/-! ### Runs -/

theorem turn_attended (h : w.query.Attended) (hkeeps : turnKeeps plan deadline input w = true) :
    Ends (turn plan deadline input) w (fun _ w' => w'.query.Attended) (fun _ _ => True) := by
  unfold turn
  rw [ends_bind]
  refine ((settleExpired_attended h input.settleAt).and (after_iff.1 hkeeps)).safe ?_
  rintro _ settled ⟨hsettled, hrest⟩
  obtain ⟨hsend, hlisten⟩ := Bool.and_eq_true_iff.1 hrest
  obtain ⟨hadaptive, hemit⟩ := Bool.and_eq_true_iff.1 hsend
  rw [ends_bind, ends_modify, ends_bind]
  refine ((emit_attended (limitAdaptive_attended hsettled hadaptive) hemit).and (after_iff.1 hlisten)).safe ?_
  rintro _ emitted ⟨hemitted, hlisten⟩
  exact listen_attended hemitted hlisten

private theorem sweep_attended (inputs : List TurnInput) {queries : List Query} {shared : Shared}
    (h : ∀ query ∈ queries, query.Attended) (hkeeps : sweepKeeps plan deadline inputs queries shared = true) :
    Ends (sweep plan deadline inputs queries) shared (fun queries' _ => ∀ query ∈ queries', query.Attended)
      (fun _ _ => True) := by
  induction queries generalizing inputs shared with
  | nil => exact h
  | cons query queries ih =>
    obtain ⟨hturn, hrest⟩ := Bool.and_eq_true_iff.1 hkeeps
    have hquery : Ends (turnOf plan deadline (inputs.headD {}) query) shared (fun query' _ => query'.Attended)
        (fun _ _ => True) := by
      have hends := turn_attended (h query (mem_cons_self ..)) hturn
      unfold Ends turnOf at *
      cases hrun : turn plan deadline (inputs.headD {}) ⟨query, shared⟩ with
      | ok _ w => rw [hrun] at hends; exact hends
      | error error w => trivial
    simp only [sweep, ends_bind, ends_pure]
    refine (hquery.and (after_iff.1 hrest)).safe ?_
    rintro query' shared' ⟨hattended, hkeeps'⟩
    refine (ih inputs.tail (forall_mem_cons.1 h).2 hkeeps').safe (fun queries' _ hqueries => ?_)
    exact forall_mem_cons.2 ⟨hattended, hqueries⟩

private theorem iterate_attended {session : DiscoverySession} (h : ∀ query ∈ session.queries, query.Attended)
    {iteration : Iteration} (hkeeps : entersIteration deadline iteration session = true →
      sweepKeeps plan deadline iteration.turns session.queries session.shared = true) :
    Ends (iterate plan deadline iteration) session (fun _ session' => ∀ query ∈ session'.queries, query.Attended)
      (fun _ _ => True) := by
  by_cases hgo : entersIteration deadline iteration session = true
  · have hsweep := sweep_attended iteration.turns h (hkeeps hgo)
    unfold Ends iterate at *
    simp only [if_pos hgo]
    cases hrun : sweep plan deadline iteration.turns session.queries session.shared with
    | ok queries shared => rw [hrun] at hsweep; exact hsweep
    | error error shared => trivial
  unfold Ends iterate
  simp only [if_neg hgo]
  exact h

private theorem runLoop_attended (iterations : List Iteration) {session : DiscoverySession}
    (h : ∀ query ∈ session.queries, query.Attended) (hkeeps : runKeeps plan deadline iterations session = true) :
    Ends (runLoop plan deadline iterations) session (fun _ session' => ∀ query ∈ session'.queries, query.Attended)
      (fun _ _ => True) := by
  refine Ends.forUntil (I := fun iterations (session : DiscoverySession) =>
    (∀ query ∈ session.queries, query.Attended) ∧ runKeeps plan deadline iterations session = true) ⟨h, hkeeps⟩ ?_
    fun _ hend => hend.1
  rintro iteration iterations session ⟨hattended, hrun⟩
  obtain ⟨hsweep, hrest⟩ := Bool.and_eq_true_iff.1 hrun
  have hentered : entersIteration deadline iteration session = true →
      sweepKeeps plan deadline iteration.turns session.queries session.shared = true := by
    intro henters
    rwa [henters, Bool.not_true, Bool.false_or] at hsweep
  refine ((iterate_attended hattended hentered).and (after_iff.1 hrest)).safe ?_
  rintro again session' ⟨h', hnext⟩
  cases again with
  | false => exact h'
  | true => exact ⟨h', by simpa using hnext⟩

/-- Queries that have ended hold no lease, so that those that are live hold all of them. -/
private theorem heldBy_live {queries : List Query} (h : ∀ query ∈ queries, query.Attended)
    (amount : DiscoveryQueryLease → Nat) : heldBy queries amount = heldBy
    (queries.filter Query.isLive) amount := by
  induction queries with
  | nil => rfl
  | cons query queries ih =>
    have hrest := ih (forall_mem_cons.1 h).2
    by_cases hlive : query.isLive = true
    · rw [filter_cons_of_pos hlive]
      simp only [heldBy, map_cons, sum_cons] at hrest ⊢
      rw [hrest]
    have hlease : query.lease = none := by
      cases hcase : query.lease with
      | none => rfl
      | some lease => exact absurd (h query (mem_cons_self ..) (by rw [hcase]; rfl)) hlive
    rw [filter_cons_of_neg hlive]
    simp only [heldBy, Query.held, map_cons, sum_cons, hlease, Option.map_none, Option.getD_none,
      Nat.zero_add] at hrest ⊢
    exact hrest

/-- In every run without a step that ends a query with a lease, each query with a lease is live after every
iteration, and what is leased is what the live queries have leased. -/
theorem leases_attended (plan : DiscoveryPlan) (deadline : Nat) (products : List Product) (now : Nat)
    (iterations : List Iteration) (session : DiscoverySession)
    (hkeeps : runKeeps plan deadline iterations (startDiscovery plan products now) = true)
    (hrun : runLoop plan deadline iterations (startDiscovery plan products now) = .ok () session) :
    (∀ query ∈ session.queries, query.lease.isSome = true →
      query.pendingOutbound.isSome = true ∨ query.responseDeadline.isSome = true) ∧
    session.shared.budget.leasedRows = heldBy (session.queries.filter Query.isLive) DiscoveryQueryLease.rows ∧
    session.shared.budget.leasedMetadataBytes =
      heldBy (session.queries.filter Query.isLive) DiscoveryQueryLease.metadataBytes := by
  have hstart : ∀ query ∈ (startDiscovery plan products now).queries, query.Attended := by
    intro query hquery
    obtain ⟨product, -, rfl⟩ := mem_map.1 hquery
    exact fun _ => rfl
  have hattended := (runLoop_attended iterations hstart hkeeps).of_ok hrun
  have hsound := (runLoop_sound plan deadline products now iterations).of_ok hrun
  refine ⟨fun query hquery hlease => Bool.or_eq_true_iff.1 (hattended query hquery hlease), ?_⟩
  rw [← heldBy_live hattended, ← heldBy_live hattended]
  exact ⟨hsound.funded.rows, hsound.funded.metadataBytes⟩

/-- A plan whose budget covers one query for the address of a gateway. -/
def gatewayPlan : DiscoveryPlan := ⟨⟨1, 1024⟩, 1000, 10⟩

/-- The query for the external address of a gateway. -/
def gatewayProduct (gateway : BitVec 32) : Product where
  operation := 5
  interfaceIndex := none
  expectedTarget := some (.v4 gateway)
  context := .other
  request := [0, 0]
  destination := ⟨.v4 gateway, 5351⟩

/-- What a session looks like from outside: which queries hold a lease, have something to send, wait for responses.
-/
def DiscoverySession.standing (session : DiscoverySession) : List (Bool × Bool × Bool) :=
  session.queries.map fun query =>
    (query.lease.isSome, query.pendingOutbound.isSome, query.responseDeadline.isSome)

/-- Two iterations: nothing is received, and then the deadline of the first query has passed. -/
def unanswered : List Iteration := [{}, { now := 3000000000, turns := [{ settleAt := 3000000000 }, {}] }]

/-- A query that is not answered gives its lease back, and the next one is sent. -/
theorem leases_attended_unanswered :
    Ends (runLoop gatewayPlan 10000000000 unanswered)
    (startDiscovery gatewayPlan [gatewayProduct 1, gatewayProduct 2] 0)
        (fun _ session => session.standing = [(false, false, false), (true, false, true)]) (fun _ _ => False) ∧
      ∀ session, runLoop gatewayPlan 10000000000 unanswered
          (startDiscovery gatewayPlan [gatewayProduct 1, gatewayProduct 2] 0) = .ok () session →
        ∀ query ∈ session.queries, query.lease.isSome = true →
          query.pendingOutbound.isSome = true ∨ query.responseDeadline.isSome = true :=
  ⟨by decide +kernel, fun session hrun => (leases_attended gatewayPlan 10000000000
    [gatewayProduct 1, gatewayProduct 2] 0 unanswered session (by decide +kernel) hrun).1⟩

/-- The row for the answer of a gateway. -/
def gatewayRow : NativeDiscoveryRow where
  operationId := 5
  outcome := .complete
  responder := [49]
  responderPort := 5351
  interfaceIndex := none
  identity := [49]
  addresses := [[49]]
  metadata := []
  truncated := false

/-- The turn in which the first gateway answers. -/
def answeredTurn : TurnInput where
  receipts := [.datagram ⟨12, ⟨.v4 1, 5351⟩, [49], none⟩ 0 { result := some ([gatewayRow], none) }]

/-- A query that could not be sent, and one that was answered, keep their leases although they have ended; the
other query waits for a lease in every later iteration. -/
theorem lease_stranded :
    (∀ later ∈ [[], unanswered],
      Ends (runLoop gatewayPlan 10000000000 ({ turns := [{ sent := false }, {}] } :: later))
        (startDiscovery gatewayPlan [gatewayProduct 1, gatewayProduct 2] 0)
        (fun _ session => session.standing = [(true, false, false), (false, true, false)]) (fun _ _ => False)) ∧
    (∀ later ∈ [[], unanswered],
      Ends (runLoop gatewayPlan 10000000000 ({ turns := [answeredTurn, {}] } :: later))
        (startDiscovery gatewayPlan [gatewayProduct 1, gatewayProduct 2] 0)
        (fun _ session => session.standing = [(true, false, false), (false, true, false)])
          (fun _ _ => False)) := by
  decide +kernel

end NodeNet.Discovery
