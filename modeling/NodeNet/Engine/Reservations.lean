import NodeNet.Engine.Life
import NodeNet.Engine.Walk.Operations

/-!
# Reservations

The sink reserves a place for a probe when the probe is admitted, and at no other time.  `Reserved` says how many
places a probe has in each phase of its life, and `Warranted` that every frame was sent for a probe that had one
and whose result was not committed yet.
-/

namespace NodeNet.Engine

open ScanScheduler

variable {κ : Kind} {c c' : Core} {id : Nat}

/-! ### What adds a reservation -/

variable {e : Event}

variable {history : List Event}

theorem reservations_cons_of_not (h : e.grants = false) :
    reservations id (e :: history) = reservations id history := successions_cons_of_not history h

/-- A place is reserved for the probe whose context was resolved right before, and for no other one. -/
theorem reservations_grant {p : LogicalProbe} {context : ResolvedContext} (he : e.grants = true)
    (hhead : history.head? = some (.resolve p (.ok (.ready context)))) :
    reservations id (e :: history) = reservations id history + if p.logicalId = id then 1 else 0 := by
  have hreadies : Event.readies id (.resolve p (.ok (.ready context))) = decide (p.logicalId = id) := rfl
  simp only [reservations, successions, he, hhead, Option.any_some, Bool.true_and, hreadies, decide_eq_true_iff]
  exact Nat.add_comm ..

/-- A step reserves a place for a probe only if it admits the probe that is looked at. -/
theorem Step.reserves (h : Step κ c c') (id : Nat) :
    reservations id c'.history = reservations id c.history ∨
      (reservations id c'.history = reservations id c.history + 1 ∧ (∃ p, c.hand = some p ∧ p.logicalId = id) ∧
        (c'.scheduler.active.get? id ≠ none ∨ c'.scheduler.programmes.get? id ≠ none)) := by
  cases h with
  | called neutral =>
    exact Or.inl (reservations_cons_of_not (Event.neutral_elim neutral rfl (fun _ => rfl) (fun _ => rfl)
      fun _ _ _ _ => rfl))
  | resolved | stopInitiated | terminalized | commitRefused | sent | lost | expired =>
    exact Or.inl (reservations_cons_of_not rfl)
  | released releases =>
    exact Or.inl (reservations_cons_of_not (Event.releases_elim releases (fun _ _ => rfl) fun _ _ _ => rfl))
  | rejected rejects =>
    cases rejects with
    | unresolved | unreserved => exact Or.inl (reservations_cons_of_not rfl)
  | @admitted s h p a probe fresh room target prefixes resolution =>
    have hcount := @reservations_grant id (.tryReserve (.ok .reserved)) _ _ _ rfl resolution
    by_cases hid : p.logicalId = id
    · rw [if_pos hid] at hcount
      refine Or.inr ⟨hcount, ⟨p, rfl, hid⟩, Or.inl ?_⟩
      simp [← hid, OrdMap.get?_insert_self]
    · rw [if_neg hid] at hcount
      exact Or.inl hcount
  | @opened s h p l bytes probe planned active grace fresh room resolution =>
    have hcount := @reservations_grant id (.tryReserveWithBytes bytes (.ok .reserved)) _ _ _ rfl resolution
    by_cases hid : p.logicalId = id
    · rw [if_pos hid] at hcount
      refine Or.inr ⟨hcount, ⟨p, rfl, hid⟩, Or.inr ?_⟩
      simp [← hid, setProgramme, OrdMap.get?_insert_self]
    · rw [if_neg hid] at hcount
      exact Or.inl hcount
  | tallied | untallied | settled | settleRefused | aborted =>
    exact Or.inl ((reservations_cons_of_not rfl).trans (reservations_cons_of_not rfl))
  | _ => exact Or.inl rfl

/-! ### Reservations in each phase -/

/-- No place is reserved for a probe that waits, and one for a probe that is admitted. -/
def Phase.Reserves (n : Nat) : Phase → Prop
  | waiting => n = 0
  | plain _ => n = 1
  | programme _ => n = 1
  | gone => n ≤ 1

theorem Phase.Reserves.le_one {n : Nat} {phase : Phase} (h : phase.Reserves n) : n ≤ 1 := by
  cases phase with
  | waiting => exact h.trans_le (Nat.zero_le 1)
  | plain a | programme l => exact h.le
  | gone => exact h

/-- The places reserved for the probes are those of their phases, and there is none for an id outside the plan. -/
structure Reserved (c : Core) : Prop where
  phase : ∀ id, (c.phase id).Reserves (reservations id c.history)
  planned : ∀ id, c.scheduler.plan.logicalProbeCount ≤ id → reservations id c.history = 0

theorem Reserved.fresh (plan : ScanPlan) (config : SchedulerConfig) (permutation : SeededPermutation) :
    Reserved ⟨ScanScheduler.fresh plan config permutation, [], none⟩ := by
  refine ⟨fun id => ?_, fun id _ => rfl⟩
  have hphase : (⟨ScanScheduler.fresh plan config permutation, [], none⟩ : Core).phase id = .waiting ∨
      (⟨ScanScheduler.fresh plan config permutation, [], none⟩ : Core).phase id = .gone := by
    by_cases hw : (⟨ScanScheduler.fresh plan config permutation, [], none⟩ : Core).Awaits id
    · exact Or.inl (if_pos hw)
    · exact Or.inr (if_neg hw)
  rcases hphase with h | h
  · rw [h]
    exact (rfl : reservations id [] = 0)
  · rw [h]
    exact Nat.zero_le 1

private theorem Turn.reserves {n : Nat} (h : Turn id κ c c') (hsame : reservations id c'.history = n)
    (hbefore : reservations id c.history = n) (hr : (c.phase id).Reserves n) : (c'.phase id).Reserves n := by
  cases h with
  | idle phase => rw [phase]; exact hr
  | dropped after | terminalized before after | settled before after | aborted before after | lost before after =>
    rw [after]; exact hr.le_one
  | admitted before after probe unsent resolution history =>
    -- an admission reserves a place
    rw [history, reservations_grant rfl resolution, if_pos probe] at hsame
    omega
  | opened before after probe unsent unobserved resolution history =>
    rw [history, reservations_grant rfl resolution, if_pos probe] at hsame
    omega
  | restaged before after | sent before after | revised before after | observed before after
  | tallied before after | untallied before after =>
    rw [before] at hr; rw [after]; exact hr

theorem Step.reserved (h : Step κ c c') (hi : Inv c) (hr : Reserved c) : Reserved c' := by
  refine ⟨fun id => ?_, fun id hid => ?_⟩
  · rcases h.reserves id with hsame | ⟨hmore, ⟨p, hhand, hp⟩, hheld⟩
    · rw [hsame]
      exact (h.turn hi id).reserves hsame rfl (hr.phase id)
    have hwaits : c.phase id = .waiting := by
      refine Core.phase_waiting hi.ledger (Or.inr (Or.inr ?_))
      rw [hhand]
      exact List.mem_singleton.2 hp.symm
    have hnone := hr.phase id
    rw [hwaits] at hnone
    have hone : reservations id c'.history = 1 := by
      rw [hmore, hnone]
    rw [hone]
    -- the probe is admitted now
    unfold Core.phase
    cases ha : c'.scheduler.active.get? id with
    | some a => exact rfl
    | none =>
      cases hl : c'.scheduler.programmes.get? id with
      | some l => exact rfl
      | none => exact absurd hheld (by simp [ha, hl])
  rw [h.frame.1] at hid
  rcases h.reserves id with hsame | ⟨-, ⟨p, hhand, hp⟩, -⟩
  · rw [hsame]
    exact hr.planned id hid
  have horigin := hi.origins.queued (Or.inr hhand)
  have hlt := (ScanPlan.logicalProbeAt_ok _ horigin).1
  omega

/-! ### Frames and reservations -/

/-- Every frame was sent for a probe for which the sink had reserved a place, and whose result was not committed.
-/
def Warranted (history : List Event) : Prop :=
  ∀ newer emission answer older, history = newer ++ .emit emission answer :: older →
    reservations emission.probe.logicalId older = 1 ∧ emission.probe.logicalId ∉ committed older

theorem Warranted.nil : Warranted [] := by
  intro newer emission answer older h
  cases newer <;> cases h

theorem Warranted.cons (h : Warranted history) (he : e.emits = false) : Warranted (e :: history) := by
  intro newer emission answer older hsplit
  cases newer with
  | nil =>
    cases hsplit
    cases he
  | cons e' newer => exact h newer emission answer older (List.cons.inj hsplit).2

theorem Warranted.emit {emission : ProbeEmission} {answer : Except TransportFailure Unit} (h : Warranted history)
    (hreserved : reservations emission.probe.logicalId history = 1)
    (huncommitted : emission.probe.logicalId ∉ committed history) :
    Warranted (.emit emission answer :: history) := by
  intro newer emission' answer' older hsplit
  cases newer with
  | nil =>
    cases hsplit
    exact ⟨hreserved, huncommitted⟩
  | cons e' newer => exact h newer emission' answer' older (List.cons.inj hsplit).2

/-- A frame of a request is recorded after the mark of its emission. -/
private theorem Warranted.request {wireId now : Nat} {s : ScanScheduler} {h : List Event} {p : ProgrammePhysical}
    {l : ProgrammeLogical} {emission : ProbeEmission} {answer : Except TransportFailure Unit} {r : MutableReport}
    (hi : Inv ⟨s, h, none⟩) (hr : Reserved ⟨s, h, none⟩) (hw : Warranted h)
    (held : s.programmes.get? p.logicalId = some l) (frame : p.Frame wireId l emission) :
    Warranted (.emit emission answer :: .reached (.emission wireId now) s r :: h) := by
  have hid : emission.probe.logicalId = p.logicalId := by
    rw [frame.probe]
    exact hi.origins.programme_id held
  obtain ⟨hnone, huncommitted, -⟩ := hi.ledger.only_programme held
  refine (hw.cons (e := .reached (.emission wireId now) s r) rfl).emit ?_ ?_
  · have hphase := hr.phase p.logicalId
    rw [Core.phase_programme hnone held] at hphase
    rw [hid, reservations_cons_of_not rfl]
    exact hphase
  · rw [hid, committed_cons_none rfl]
    exact huncommitted

theorem Step.warranted (h : Step κ c c') (hi : Inv c) (hr : Reserved c) (hw : Warranted c.history) :
    Warranted c'.history := by
  cases h with
  | called neutral => exact hw.cons (Event.neutral_elim neutral rfl (fun _ => rfl) (fun _ => rfl)
    fun _ _ _ _ => rfl)
  | resolved | stopInitiated | terminalized | commitRefused | lost | admitted | opened | expired =>
    exact hw.cons rfl
  | released releases => exact hw.cons (Event.releases_elim releases (fun _ _ => rfl) fun _ _ _ => rfl)
  | @sent s h id a emission answer held clear frame =>
    have hid : emission.probe.logicalId = id := by
      rw [frame.probe]
      exact hi.origins.active_id held
    have hphase := hr.phase id
    rw [Core.phase_plain held] at hphase
    refine hw.emit ?_ ?_ <;> rw [hid]
    · exact hphase
    · exact (hi.ledger.only_active held).2.1
  | rejected rejects =>
    cases rejects with
    | unresolved | unreserved => exact hw.cons rfl
  | tallied request held revises clear frame | untallied request held clear frame =>
    exact .request hi hr hw held frame
  | settled | settleRefused | aborted => exact (hw.cons (e := .reached ..) rfl).cons rfl
  | _ => exact hw

section Runs

variable {τ ρ σ : Type} [ProbeTransport τ] [ContextResolver ρ] [ResultSink σ] {w : Session τ ρ σ}

theorem Reachable.reserved (h : Reachable w) : Reserved (w.core none) ∧ Warranted w.history :=
  h.invariant (I := fun c => Reserved c ∧ Warranted c.history)
    (fun plan config permutation => ⟨Reserved.fresh plan config permutation, Warranted.nil⟩)
    fun _ _ _ hi hI hs => ⟨hs.reserved hi hI.1, hs.warranted hi hI.1 hI.2⟩

/-- In every session the sink reserves at most one place for a probe, and none for an id outside the plan. -/
theorem Reachable.reservations_le (h : Reachable w) (id : Nat) :
    reservations id w.history ≤ 1 ∧ (w.scheduler.plan.logicalProbeCount ≤ id → reservations id w.history = 0) :=
  ⟨(h.reserved.1.phase id).le_one, h.reserved.1.planned id⟩

end Runs

end NodeNet.Engine
