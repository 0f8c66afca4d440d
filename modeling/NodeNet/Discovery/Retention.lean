import NodeNet.Discovery.Session

/-!
# What a session retains

The rows of a session are charged twice: to the session, and to the query that adds to them, which need not be the
one that created the row.  Both accounts stay upper bounds although rows are merged and cut again (`Shared.Kept`,
`Query.Within`).  A lease is the worst case of the operation of its query, so that what the query has retained can
always be settled (`Query.settle_succeeds`).
-/

namespace NodeNet.Discovery

open List

/-! ### Accounts -/

/-- The account of the session. -/
structure Shared.Kept (plan : DiscoveryPlan) (shared : Shared) : Prop where
  rowsFit : shared.rows.length ≤ plan.limits.maxResults
  bytesCounted : totalMetadataBytes shared.rows ≤ shared.retainedMetadataBytes
  bytesFit : shared.retainedMetadataBytes ≤ plan.limits.maxMetadataBytes

/-- The account of a query, whose lease is the worst case of its operation. -/
structure Query.Within (query : Query) : Prop where
  entities : ∀ operation, findDescriptor query.operation = some operation →
    query.retainedEntities ≤ operation.maximumEntitiesPerQuery
  metadataBytes : ∀ operation, findDescriptor query.operation = some operation →
    query.retainedMetadataBytes ≤ operation.maximumMetadataBytesPerQuery
  lease : ∀ lease, query.lease = some lease → ∃ operation, findDescriptor query.operation = some operation ∧
    lease = ⟨operation.maximumEntitiesPerQuery, operation.maximumMetadataBytesPerQuery, false⟩

def Query.held (query : Query) (amount : DiscoveryQueryLease → Nat) : Nat := (query.lease.map amount).getD 0

/-- The budget has leased the given amounts, and its counters are in the range of their type. -/
structure Funded (rows bytes : Nat) (budget : DiscoveryBudget) : Prop where
  rows : budget.leasedRows = rows
  metadataBytes : budget.leasedMetadataBytes = bytes
  rowsMachine : budget.leasedRows + budget.committedRows ≤ usizeMax
  metadataBytesMachine : budget.leasedMetadataBytes + budget.committedMetadataBytes ≤ usizeMax

/-- The accounts during the turn of a query, with the amounts that the other queries have leased. -/
structure Work.Sound (plan : DiscoveryPlan) (id rows bytes : Nat) (w : Work) : Prop where
  operation : w.query.operation = id
  kept : w.shared.Kept plan
  within : w.query.Within
  funded :
    Funded (rows + w.query.held DiscoveryQueryLease.rows) (bytes + w.query.held DiscoveryQueryLease.metadataBytes)
    w.shared.budget

/-- An error other than a failed settlement. -/
def ScannerError.Unsettling (error : ScannerError) : Prop := ∀ cause, error ≠ .settlement cause

variable {plan : DiscoveryPlan} {id rows bytes deadline : Nat} {w w' : Work}
    {operation : DiscoveryOperationDescriptor}

/-- What the accounts depend on. -/
def Work.accounts (w : Work) :
    List NativeDiscoveryRow × Nat × DiscoveryBudget × Nat × Nat × Nat × Option DiscoveryQueryLease :=
  (w.shared.rows, w.shared.retainedMetadataBytes, w.shared.budget, w.query.operation, w.query.retainedEntities,
    w.query.retainedMetadataBytes, w.query.lease)

theorem Work.Sound.of_eq (h : w.Sound plan id rows bytes) (heq : w'.accounts = w.accounts) :
    w'.Sound plan id rows bytes := by
  simp only [Work.accounts, Prod.mk.injEq] at heq
  obtain ⟨hrows, hretained, hbudget, hoperation, hentities, hbytes, hlease⟩ := heq
  refine
    { operation := hoperation.trans h.operation
      kept := ⟨hrows ▸ h.kept.rowsFit, by rw [hrows, hretained]; exact h.kept.bytesCounted, hretained ▸
        h.kept.bytesFit⟩
      within := ⟨?_, ?_, ?_⟩
      funded := ?_ }
  · rw [hoperation, hentities]
    exact h.within.entities
  · rw [hoperation, hbytes]
    exact h.within.metadataBytes
  · rw [hoperation, hlease]
    exact h.within.lease
  · rw [Query.held, Query.held, hlease, hbudget]
    exact h.funded

theorem Work.Sound.countTruncated (h : w.Sound plan id rows bytes) : w.countTruncated.Sound plan id rows bytes :=
  h.of_eq rfl

theorem Work.Sound.countRejected (h : w.Sound plan id rows bytes) : w.countRejected.Sound plan id rows bytes :=
  h.of_eq rfl

/-- A part of a turn keeps the accounts, and does not fail at a settlement. -/
def Keeps (plan : DiscoveryPlan) (id : Nat) {α : Type} (m : Turn α) : Prop :=
  ∀ ⦃rows bytes w⦄, w.Sound plan id rows bytes →
    Ends m w (fun _ w' => w'.Sound plan id rows bytes) (fun error _ => error.Unsettling)

theorem Keeps.bind {α β : Type} {m : Turn α} {f : α → Turn β} (hm : Keeps plan id m)
    (hf : ∀ a, Keeps plan id (f a)) :
    Keeps plan id (m >>= f) := fun _ _ _ h => Ends.seq (hm h) (fun a _ h' => hf a h')

theorem Keeps.modify {f : Work → Work}
    (hf : ∀ {rows bytes w}, w.Sound plan id rows bytes → (f w).Sound plan id rows bytes) :
    Keeps plan id (modify f) := fun _ _ _ h => hf h

/-! ### Leases -/

/-- What a query has retained can be settled with its lease. -/
theorem Query.settle_succeeds {query : Query} {budget : DiscoveryBudget} {lease : DiscoveryQueryLease}
    (rows bytes : Nat) (hwithin : query.Within) (hfunded : Funded (rows + query.held DiscoveryQueryLease.rows)
      (bytes + query.held DiscoveryQueryLease.metadataBytes) budget) (hlease : query.lease = some lease) :
    Ends (DiscoveryBudget.settle query.retainedEntities query.retainedMetadataBytes) (budget, lease)
      (fun _ settled => Funded rows bytes settled.1) (fun _ _ => False) := by
  obtain ⟨operation, hoperation, rfl⟩ := hwithin.lease lease hlease
  have hentities := hwithin.entities operation hoperation
  have hmetadata := hwithin.metadataBytes operation hoperation
  simp only [Query.held, hlease, Option.map_some, Option.getD_some] at hfunded
  obtain ⟨hrows, hbytes, hmachine, hmachine'⟩ := hfunded
  refine (DiscoveryBudget.settle_ends (fun _ => by simp only; omega) (fun _ => by simp only; omega) hmachine
    hmachine' _ _).mono ?_ ?_
  · rintro _ _ ⟨-, -, -, rfl⟩
    constructor <;> simp only <;> omega
  rintro _ _ ⟨-, hsettled | hover | hover⟩
  · cases hsettled
  · exact absurd hentities (Nat.not_le.2 hover)
  · exact absurd hmetadata (Nat.not_le.2 hover)

theorem settleExpired_sound (settleAt : Nat) : Keeps plan id (settleExpired settleAt) := by
  intro rows bytes w h
  unfold settleExpired
  rw [ends_bind, ends_get]
  refine ends_ite.2 ⟨fun _ => ?_, fun _ => h⟩
  cases hlease : w.query.lease with
  | none => exact h.of_eq rfl
  | some lease =>
    have hends := w.query.settle_succeeds rows bytes h.within h.funded hlease
    cases hsettle : DiscoveryBudget.settle w.query.retainedEntities w.query.retainedMetadataBytes
        (w.shared.budget, lease) with
    | error error settled => exact (hends.of_error hsettle).elim
    | ok _ settled =>
      have hfunded := hends.of_ok hsettle
      simp only [hsettle, ends_set]
      exact
        { operation := h.operation
          kept := ⟨h.kept.rowsFit, h.kept.bytesCounted, h.kept.bytesFit⟩
          within := ⟨h.within.entities, h.within.metadataBytes, fun _ hnone => by cases hnone⟩
          funded := hfunded }

theorem ends_descriptor {σ : Type} {id : Nat} {s : σ} {Q : DiscoveryOperationDescriptor → σ → Prop}
    {E : ScannerError → σ → Prop} (hfound : ∀ operation, findDescriptor id = some operation → Q operation s)
    (hmissing : E .operationDisappeared s) : Ends (descriptor id) s Q E := by
  unfold descriptor
  cases hfind : findDescriptor id with
  | none => exact hmissing
  | some operation => exact hfound operation hfind

private theorem disappeared_unsettling : ScannerError.operationDisappeared.Unsettling := fun _ h => by cases h

theorem takeLease_sound : Keeps plan id takeLease := by
  intro rows bytes w h
  unfold takeLease
  rw [ends_bind, ends_get]
  refine ends_ite.2 ⟨fun hnew => ?_, fun _ => h⟩
  have hnone : w.query.lease = none := Option.isNone_iff_eq_none.1 hnew.1
  rw [ends_bind]
  refine ends_descriptor (fun operation hoperation => ?_) disappeared_unsettling
  have hends := DiscoveryBudget.tryLease_ends w.shared.budget operation.maximumEntitiesPerQuery
    operation.maximumMetadataBytesPerQuery
  cases hlease : DiscoveryBudget.tryLease operation.maximumEntitiesPerQuery operation.maximumMetadataBytesPerQuery
      w.shared.budget with
  | error error budget =>
    obtain rfl := hends.of_error hlease
    exact h.of_eq rfl
  | ok lease budget =>
    obtain ⟨rfl, hrows, hbytes, rfl⟩ := hends.of_ok hlease
    obtain ⟨hleased, hleased', -, -⟩ := h.funded
    simp only [Query.held, hnone, Option.map_none, Option.getD_none] at hleased hleased'
    refine
      { operation := h.operation
        kept := ⟨h.kept.rowsFit, h.kept.bytesCounted, h.kept.bytesFit⟩
        within := ⟨h.within.entities, h.within.metadataBytes, fun lease heq => ?_⟩
        funded := ?_ }
    · cases heq
      exact ⟨operation, hoperation, rfl⟩
    · constructor <;>
        simp only [Query.held, Work.setQuery, Work.setBudget, Option.map_some, Option.getD_some] <;> omega

/-! ### Sending -/

theorem limitAdaptive_sound (h : w.Sound plan id rows bytes) : (limitAdaptive w).Sound plan id rows bytes := by
  unfold limitAdaptive
  split
  · exact h.of_eq rfl
  · exact h

theorem bookSent_sound (sentAt : Nat) (outbound : OutboundDatagram) :
    Keeps plan id (bookSent deadline sentAt outbound) := by
  intro rows bytes w h
  unfold bookSent
  rw [ends_bind, ends_modify]
  refine ends_ite.2 ⟨fun _ => ?_, fun _ => ?_⟩
  · exact h.of_eq rfl
  simp only [ends_modify, ends_bind, ends_get]
  refine ends_descriptor (fun operation _ => ?_) disappeared_unsettling
  split
  · exact h.of_eq rfl
  · exact h.of_eq rfl

variable (input : TurnInput)

theorem sendPending_sound : Keeps plan id (sendPending deadline input) := by
  intro rows bytes w h
  unfold sendPending
  rw [ends_bind, ends_get]
  refine ends_ite.2 ⟨fun _ => ?_, fun _ => h⟩
  simp only
  split
  · refine ends_ite.2 ⟨fun _ => ?_, fun _ => ?_⟩
    · rw [ends_bind, ends_set]
      exact bookSent_sound _ _ (h.of_eq rfl)
    · exact h.of_eq rfl
  · exact h.of_eq rfl

theorem emit_sound : Keeps plan id (emit deadline input) := by
  intro rows bytes w h
  unfold emit
  rw [ends_bind, ends_get]
  exact ends_ite.2 ⟨fun _ => (takeLease_sound.bind fun _ => sendPending_sound input) h, fun _ => h⟩

/-! ### Rows -/

theorem le_of_staysWithin {total additional maximum : Nat} (h : staysWithin total additional maximum = true) :
    total + additional ≤ maximum := by
  unfold staysWithin Engine.checkedAdd at h
  split at h
  · simpa using h
  · cases h

private theorem sum_map_set {α : Type} (weight : α → Nat) {l : List α} {index : Nat} {a : α} (b : α)
    (h : l[index]? = some a) : ((l.set index b).map weight).sum + weight a = (l.map weight).sum + weight b := by
  induction l generalizing index with
  | nil => cases h
  | cons c l ih =>
    cases index with
    | zero =>
      rw [getElem?_cons_zero, Option.some.injEq] at h
      subst h
      simp only [set_cons_zero, map_cons, sum_cons]
      omega
    | succ index =>
      have hrest := ih h
      simp only [set_cons_succ, map_cons, sum_cons]
      omega

theorem admitRow_sound (h : w.Sound plan id rows bytes) (hoperation : findDescriptor id = some operation)
    (row : NativeDiscoveryRow) (hroom : w.shared.rows.length < plan.limits.maxResults)
    (hentities : w.query.retainedEntities < operation.maximumEntitiesPerQuery) :
    (admitRow plan operation row w).Sound plan id rows bytes := by
  unfold admitRow
  simp only
  split
  · exact h.countTruncated
  next hquery =>
  split
  · exact h.countTruncated
  next hsession =>
  have hquery := le_of_staysWithin (not_not.1 hquery)
  have hsession := le_of_staysWithin (not_not.1 hsession)
  -- the operation of the query is the one whose bounds were checked
  have hself : ∀ operation', findDescriptor w.query.operation = some operation' → operation' = operation := by
    intro operation' hfind
    rw [h.operation, hoperation] at hfind
    exact (Option.some.inj hfind).symm
  have hcounted := h.kept.bytesCounted
  refine
    { operation := h.operation
      kept := ⟨?_, ?_, hsession⟩
      within := ⟨fun operation' hfind => ?_, fun operation' hfind => ?_, h.within.lease⟩
      funded := h.funded }
  · simp only [length_append, length_singleton]
    omega
  · simp only [totalMetadataBytes, map_append, sum_append, map_singleton, sum_singleton] at hcounted ⊢
    exact Nat.add_le_add hcounted (Nat.le_refl _)
  · rw [hself operation' hfind]
    exact hentities
  · rw [hself operation' hfind]
    exact hquery

theorem growRow_sound (h : w.Sound plan id rows bytes) (hoperation : findDescriptor id = some operation)
    {index : Nat} {existing : NativeDiscoveryRow} (merged : NativeDiscoveryRow)
    (hindex : w.shared.rows[index]? = some existing) :
    (growRow plan operation index existing merged w).Sound plan id rows bytes := by
  have hcounted := h.kept.bytesCounted
  unfold totalMetadataBytes at hcounted
  -- marking the row changes no sizes
  have hmark :
    ((w.setRows (w.shared.rows.set index existing.markTruncated)).countTruncated).Sound plan id rows bytes := by
    have hsum := sum_map_set discoveryRowMetadataBytes existing.markTruncated hindex
    rw [discoveryRowMetadataBytes_markTruncated] at hsum
    refine { operation := h.operation, kept := ⟨?_, ?_, h.kept.bytesFit⟩, within := h.within, funded := h.funded }
    · simp only [Work.setRows, Work.countTruncated, Work.setCounters, length_set]
      exact h.kept.rowsFit
    · simp only [Work.setRows, Work.countTruncated, Work.setCounters, totalMetadataBytes]
      omega
  unfold growRow
  simp only
  split
  · exact hmark
  next hquery =>
  split
  · next hsession =>
    have hquery := le_of_staysWithin (not_not.1 hquery)
    have hsession := le_of_staysWithin hsession
    have hsum := sum_map_set discoveryRowMetadataBytes merged hindex
    refine
      { operation := h.operation
        kept := ⟨?_, ?_, hsession⟩
        within := ⟨h.within.entities, fun operation' hfind => ?_, h.within.lease⟩
        funded := h.funded }
    · simp only [length_set]
      exact h.kept.rowsFit
    · simp only [totalMetadataBytes]
      omega
    · rw [h.operation, hoperation] at hfind
      exact Option.some.inj hfind ▸ hquery
  · exact hmark

theorem aggregateRow_sound (hoperation : findDescriptor id = some operation) (row : NativeDiscoveryRow) :
    Keeps plan id (aggregateRow plan operation row) := by
  intro rows bytes w h
  unfold aggregateRow
  rw [ends_bind, ends_get]
  refine ends_ite.2 ⟨fun _ => h.countTruncated, fun hroom => ?_⟩
  cases w.shared.identities.get? row.key with
  | none =>
    refine ends_ite.2 ⟨fun _ => h.countTruncated, fun hentities => ?_⟩
    exact admitRow_sound h hoperation row (Nat.not_le.1 hroom) (Nat.not_le.1 hentities)
  | some index =>
    have h' :
      (w.setCounters { w.shared.counters with duplicate := w.shared.counters.duplicate + 1 }).Sound plan id rows
        bytes := h.of_eq rfl
    simp only
    cases hindex : (w.setCounters { w.shared.counters with
        duplicate := w.shared.counters.duplicate + 1 }).shared.rows[index]? with
    | none => exact fun _ herror => by cases herror
    | some existing =>
      simp only
      cases boundedRow (mergeRow existing row) with
      | none => exact fun _ herror => by cases herror
      | some merged => exact growRow_sound h' hoperation merged hindex

/-! ### Datagrams -/

theorem takeContext_sound (h : w.Sound plan id rows bytes) (parsed : Parsed) :
    (takeContext parsed w).Sound plan id rows bytes :=
  h.of_eq rfl

theorem takeOutbound_sound (h : w.Sound plan id rows bytes) (handledAt : Nat)
    (outbound : Option OutboundDatagram) :
    (takeOutbound deadline handledAt outbound w).Sound plan id rows bytes := by
  unfold takeOutbound
  split
  · exact h.of_eq rfl
  · exact h

theorem acceptParsed_sound (hoperation : findDescriptor id = some operation) (handledAt : Nat) (parsed : Parsed) :
    Keeps plan id (acceptParsed plan deadline operation handledAt parsed) := by
  intro rows bytes w h
  unfold acceptParsed
  rw [ends_bind, ends_modify]
  cases parsed.result with
  | none => exact (takeContext_sound h parsed).countRejected
  | some result =>
    obtain ⟨parsedRows, outbound⟩ := result
    simp only [ends_bind, ends_modify]
    exact Ends.forM (I := fun _ (w' : Work) => w'.Sound plan id rows bytes)
      (takeOutbound_sound (takeContext_sound h parsed) handledAt outbound)
      fun row _ w' h' => aggregateRow_sound hoperation row h'

theorem exhaustQuery_sound (h : w.Sound plan id rows bytes) (responder : Bytes) :
    (exhaustQuery responder w).Sound plan id rows bytes := by
  have hsame : totalMetadataBytes (markQueryRowsTruncated w.shared.rows w.query responder) =
      totalMetadataBytes w.shared.rows := by
    rw [totalMetadataBytes, markQueryRowsTruncated, map_map]
    refine congrArg List.sum (map_congr_left fun row _ => ?_)
    rw [Function.comp_apply]
    split <;> rfl
  refine { operation := h.operation, kept := ⟨?_, ?_, h.kept.bytesFit⟩, within := ?_, funded := h.funded }
  · exact (length_map _).trans_le h.kept.rowsFit
  · exact hsame.trans_le h.kept.bytesCounted
  · exact ⟨h.within.entities, h.within.metadataBytes, h.within.lease⟩

theorem screenDatagram_sound (h : w.Sound plan id rows bytes) (received : ReceivedDatagram) :
    Ends (screenDatagram received) w
      (fun screening w' => w'.Sound plan id rows bytes ∧
        ∀ operation, screening = .accept operation → findDescriptor id = some operation)
      (fun error _ => error.Unsettling) := by
  unfold screenDatagram
  simp only [ends_bind, ends_modify, ends_get]
  set counted := w.setCounters _ with hcounted
  have h' : counted.Sound plan id rows bytes := h.of_eq rfl
  refine ends_ite.2 ⟨fun _ => ?_, fun _ =>
    ends_ite.2 ⟨fun _ => ?_, fun _ => ends_ite.2 ⟨fun _ => ?_, fun _ => ?_⟩⟩⟩
  · exact ⟨h'.countTruncated, fun _ haccept => by cases haccept⟩
  · exact ⟨h'.countRejected, fun _ haccept => by cases haccept⟩
  · exact ⟨h'.countRejected, fun _ haccept => by cases haccept⟩
  rw [ends_bind]
  refine ends_descriptor (fun operation hoperation => ?_) disappeared_unsettling
  rw [h'.operation] at hoperation
  refine ends_ite.2 ⟨fun _ => ⟨h'.countRejected, fun _ haccept => by cases haccept⟩, fun _ => ⟨h', ?_⟩⟩
  rintro _ ⟨⟩
  exact hoperation

theorem respond_sound (hoperation : findDescriptor id = some operation) (received : ReceivedDatagram)
    (handledAt : Nat) (parsed : Parsed) :
    Keeps plan id (respond plan deadline operation received handledAt parsed) := by
  intro rows bytes w h
  unfold respond
  simp only [ends_bind, ends_get, ends_set]
  set charged := w.setQuery _ with hcharged
  have hsound : charged.Sound plan id rows bytes := h.of_eq rfl
  cases (chargeQueryResponse w.query.context received.length).2 with
  | none => exact exhaustQuery_sound hsound received.responder
  | some budgetReached =>
    simp only [ends_bind]
    refine (acceptParsed_sound hoperation handledAt parsed hsound).imp (fun _ w' hw' => ?_)
    exact ends_ite.2 ⟨fun _ => exhaustQuery_sound hw' received.responder, fun _ => hw'⟩

theorem handleDatagram_sound (received : ReceivedDatagram) (handledAt : Nat) (parsed : Parsed) :
    Keeps plan id (handleDatagram plan deadline received handledAt parsed) := by
  intro rows bytes w h
  unfold handleDatagram
  rw [ends_bind]
  refine (screenDatagram_sound h received).imp ?_
  rintro screening w' ⟨h', hoperation⟩
  cases screening with
  | stop => exact h'
  | skip => exact h'
  | accept operation => exact respond_sound (hoperation operation rfl) received handledAt parsed h'

theorem receive_sound (reads : Nat) (receipts : List Receipt) :
    Keeps plan id (receive plan deadline reads receipts) := by
  induction reads generalizing receipts with
  | zero => exact fun _ _ _ h => h
  | succ reads ih =>
    cases receipts with
    | nil => exact fun _ _ _ h => h
    | cons receipt receipts =>
      cases receipt with
      | datagram received handledAt parsed =>
        refine (handleDatagram_sound received handledAt parsed).bind fun again rows bytes w h => ?_
        exact ends_ite.2 ⟨fun _ => ih receipts h, fun _ => h⟩
      | nothing => exact fun _ _ _ h => h
      | interrupted => exact ih receipts
      | failed => exact fun _ _ _ h => h.countRejected

theorem popQueued_sound (h : w.Sound plan id rows bytes) : (popQueued w).Sound plan id rows bytes := by
  unfold popQueued
  split
  · exact h.of_eq rfl
  · exact h

theorem listen_sound : Keeps plan id (listen plan deadline input) := by
  intro rows bytes w h
  unfold listen
  rw [ends_bind, ends_get]
  refine ends_ite.2 ⟨fun _ => h, fun _ => ?_⟩
  exact ((receive_sound 8 input.receipts).bind fun _ => .modify popQueued_sound) h

theorem turn_sound : Keeps plan id (turn plan deadline input) :=
  (settleExpired_sound input.settleAt).bind fun _ => (Keeps.modify limitAdaptive_sound).bind fun _ =>
    (emit_sound input).bind fun _ => listen_sound input

/-! ### Sessions -/

def heldBy (queries : List Query) (amount : DiscoveryQueryLease → Nat) : Nat :=
  (queries.map fun query => query.held amount).sum

/-- The accounts of a session between two turns. -/
structure DiscoverySession.Sound (plan : DiscoveryPlan) (session : DiscoverySession) : Prop where
  kept : session.shared.Kept plan
  within : ∀ query ∈ session.queries, query.Within
  funded : Funded (heldBy session.queries DiscoveryQueryLease.rows)
    (heldBy session.queries DiscoveryQueryLease.metadataBytes) session.shared.budget

/-- The queries that have had their turn and those that wait for it lease together what the budget has leased. -/
private theorem sweep_sound (deadline rows bytes : Nat) (inputs : List TurnInput) (queries : List Query)
    {shared : Shared} (hkept : shared.Kept plan)
    (hwithin : ∀ query ∈ queries, query.Within)
    (hfunded : Funded (rows + heldBy queries DiscoveryQueryLease.rows)
      (bytes + heldBy queries DiscoveryQueryLease.metadataBytes) shared.budget) :
    Ends (sweep plan deadline inputs queries) shared
      (fun queries' shared' => shared'.Kept plan ∧ (∀ query ∈ queries', query.Within) ∧
        Funded (rows + heldBy queries' DiscoveryQueryLease.rows)
          (bytes + heldBy queries' DiscoveryQueryLease.metadataBytes) shared'.budget)
      (fun error _ => error.Unsettling) := by
  induction queries generalizing inputs rows bytes shared with
  | nil => exact ⟨hkept, hwithin, hfunded⟩
  | cons query queries ih =>
    simp only [sweep, ends_bind, ends_pure]
    have hsound : Work.Sound plan query.operation (rows + heldBy queries DiscoveryQueryLease.rows)
        (bytes + heldBy queries DiscoveryQueryLease.metadataBytes) ⟨query, shared⟩ :=
      { operation := rfl
        kept := hkept
        within := hwithin query (mem_cons_self ..)
        funded := by
          simp only [heldBy, map_cons, sum_cons] at hfunded ⊢
          convert hfunded using 1 <;> omega }
    have hturn : Ends (turn plan deadline (inputs.headD {})) ⟨query, shared⟩ _ _ :=
      turn_sound (inputs.headD {}) hsound
    have hquery : Ends (turnOf plan deadline (inputs.headD {}) query) shared
        (fun query' shared' => Work.Sound plan query.operation (rows + heldBy queries DiscoveryQueryLease.rows)
          (bytes + heldBy queries DiscoveryQueryLease.metadataBytes) ⟨query', shared'⟩)
        (fun error _ => error.Unsettling) := by
      unfold Ends turnOf at *
      cases hrun : turn plan deadline (inputs.headD {}) ⟨query, shared⟩ with
      | ok _ w | error error w => rw [hrun] at hturn; exact hturn
    refine hquery.imp (fun query' shared' h' => ?_)
    have hrest := ih (rows + query'.held DiscoveryQueryLease.rows)
      (bytes + query'.held DiscoveryQueryLease.metadataBytes) inputs.tail h'.kept
      (forall_mem_cons.1 hwithin).2 (by
        convert h'.funded using 1 <;> simp only [] <;> omega)
    refine hrest.imp ?_
    rintro queries' shared'' ⟨hkept', hwithin', hfunded'⟩
    refine ⟨hkept', forall_mem_cons.2 ⟨h'.within, hwithin'⟩, ?_⟩
    simp only [heldBy, map_cons, sum_cons] at hfunded' ⊢
    convert hfunded' using 1 <;> omega

theorem iterate_sound {session : DiscoverySession} (h : session.Sound plan) (iteration : Iteration) :
    Ends (iterate plan deadline iteration) session (fun _ session' => session'.Sound plan)
      (fun error _ => error.Unsettling) := by
  have hsweep := sweep_sound deadline 0 0 iteration.turns session.queries h.kept h.within
    (by simpa only [Nat.zero_add] using h.funded)
  simp only [Nat.zero_add] at hsweep
  unfold Ends iterate at *
  by_cases hgo : entersIteration deadline iteration session = true
  · simp only [if_pos hgo]
    cases hrun : sweep plan deadline iteration.turns session.queries session.shared with
    | ok queries shared =>
      rw [hrun] at hsweep
      exact ⟨hsweep.1, hsweep.2.1, hsweep.2.2⟩
    | error error shared =>
      rw [hrun] at hsweep
      exact hsweep
  · simp only [if_neg hgo]
    exact h

theorem startDiscovery_sound (plan : DiscoveryPlan) (products : List Product) (now : Nat) :
    (startDiscovery plan products now).Sound plan where
  kept := ⟨Nat.zero_le _, Nat.zero_le _, Nat.zero_le _⟩
  within := by
    intro query hquery
    obtain ⟨product, -, rfl⟩ := mem_map.1 hquery
    exact ⟨fun _ _ => Nat.zero_le _, fun _ _ => Nat.zero_le _, fun _ hlease => by cases hlease⟩
  funded := by
    have hnone : ∀ amount, heldBy (products.map prepareQuery) amount = 0 := by
      intro amount
      rw [heldBy, map_map]
      exact sum_eq_zero fun _ hmem => by
        obtain ⟨product, -, rfl⟩ := mem_map.1 hmem
        rfl
    exact ⟨(hnone _).symm, (hnone _).symm, Nat.zero_le _, Nat.zero_le _⟩

theorem runLoop_sound (plan : DiscoveryPlan) (deadline : Nat) (products : List Product) (now : Nat)
    (iterations : List Iteration) :
    Ends (runLoop plan deadline iterations) (startDiscovery plan products now)
      (fun _ session => session.Sound plan) (fun error _ => error.Unsettling) :=
  Ends.forUntil (I := fun _ session => session.Sound plan) (startDiscovery_sound plan products now)
    (fun iteration _ _ h => (iterate_sound h iteration).imp (fun again _ h' => by cases again <;> exact h'))
    fun _ h => h

/-- Whatever rows the parsers answer, in every run: no settlement fails, the rows are within the limits of the
session, before and after they are put in order, and each query is within the bounds of its operation, so that its
lease can be settled. -/
theorem retention_within_limits (plan : DiscoveryPlan) (deadline : Nat) (products : List Product) (now : Nat)
    (iterations : List Iteration) :
    Ends (runLoop plan deadline iterations) (startDiscovery plan products now)
      (fun _ session =>
        session.shared.rows.length ≤ plan.limits.maxResults ∧
        totalMetadataBytes session.shared.rows ≤ session.shared.retainedMetadataBytes ∧
        session.shared.retainedMetadataBytes ≤ plan.limits.maxMetadataBytes ∧
        (finishRows session.shared.rows).length ≤ plan.limits.maxResults ∧
        totalMetadataBytes (finishRows session.shared.rows) ≤ session.shared.retainedMetadataBytes ∧
        ∀ query ∈ session.queries,
          (∀ operation, findDescriptor query.operation = some operation →
            query.retainedEntities ≤ operation.maximumEntitiesPerQuery ∧
            query.retainedMetadataBytes ≤ operation.maximumMetadataBytesPerQuery) ∧
          ∀ lease, query.lease = some lease → ∃ settled,
            DiscoveryBudget.settle query.retainedEntities query.retainedMetadataBytes
              (session.shared.budget, lease) = .ok () settled)
      (fun error _ => ∀ cause, error ≠ .settlement cause) := by
  refine (runLoop_sound plan deadline products now iterations).imp (fun _ session h => ?_)
  refine ⟨h.kept.rowsFit, h.kept.bytesCounted, h.kept.bytesFit, (length_finishRows_le _).trans h.kept.rowsFit,
    (sum_finishRows_le _).trans h.kept.bytesCounted, fun query hquery =>
      ⟨fun operation hfind => ?_, fun lease hlease => ?_⟩⟩
  · exact ⟨(h.within query hquery).entities operation hfind, (h.within query hquery).metadataBytes operation hfind⟩
  -- the lease of the query is among those the budget has leased
  obtain ⟨before, after, hsplit⟩ := append_of_mem hquery
  have hfunded := h.funded
  have hends := query.settle_succeeds (heldBy (before ++ after) DiscoveryQueryLease.rows)
    (heldBy (before ++ after) DiscoveryQueryLease.metadataBytes) (h.within query hquery) (by
      rw [hsplit] at hfunded
      simp only [heldBy, map_append, map_cons, sum_append, sum_cons] at hfunded ⊢
      convert hfunded using 1 <;> omega) hlease
  cases hsettle : DiscoveryBudget.settle query.retainedEntities query.retainedMetadataBytes
      (session.shared.budget, lease) with
  | ok _ settled => exact ⟨settled, rfl⟩
  | error error settled => exact (hends.of_error hsettle).elim

end NodeNet.Discovery
