import NodeNet.Engine.Walk

/-!
# Settling, stopping and timing out

The methods that end probes and programmes follow steps.
-/

namespace NodeNet.Engine

open List OrdMap ScanScheduler

variable {τ ρ σ : Type} {w : Session τ ρ σ}

theorem Lands.core {s : ScanScheduler} {r : MutableReport} {h : List Event} (hw : Lands w s r h)
    (k : Option LogicalProbe) : w.core k = ⟨s, h, k⟩ := Session.core_eq hw.scheduler hw.history k

/-- Of the programmes only the one under `id` may have changed, the queue and the plain probes have not, and no
stop or invalidation has begun or ended. -/
structure OnlyProgramme (id : Nat) (w w' : Session τ ρ σ) : Prop where
  stop : w'.scheduler.stop = w.scheduler.stop
  invalidating : w'.scheduler.invalidatingGeneration = w.scheduler.invalidatingGeneration
  deferred : w'.scheduler.deferred = w.scheduler.deferred
  active : w'.scheduler.active = w.scheduler.active
  programmes : ∀ i, i ≠ id → w'.scheduler.programmes.get? i = w.scheduler.programmes.get? i

theorem OnlyProgramme.trans {id : Nat} {w w' w'' : Session τ ρ σ} (h : OnlyProgramme id w w')
    (h' : OnlyProgramme id w' w'') : OnlyProgramme id w w'' where
  stop := h'.stop.trans h.stop
  invalidating := h'.invalidating.trans h.invalidating
  deferred := h'.deferred.trans h.deferred
  active := h'.active.trans h.active
  programmes i hne := (h'.programmes i hne).trans (h.programmes i hne)

/-- Of the plain probes only the one under `id` may have changed, and no stop or invalidation has begun or ended.
-/
structure OnlyActive (id : Nat) (w w' : Session τ ρ σ) : Prop where
  stop : w'.scheduler.stop = w.scheduler.stop
  invalidating : w'.scheduler.invalidatingGeneration = w.scheduler.invalidatingGeneration
  programmes : w'.scheduler.programmes = w.scheduler.programmes
  active : ∀ i, i ≠ id → w'.scheduler.active.get? i = w.scheduler.active.get? i

/-! ### Dropping records -/

section Drops

variable {α β : Type} {view : ScanScheduler → OrdMap Nat α} {other : ScanScheduler → β} {ids : List Nat}

/-- The records under `ids` are dropped, each for one transition.  The other records and what `other` shows stay,
and no stop or invalidation begins or ends. -/
structure Drops (view : ScanScheduler → OrdMap Nat α) (other : ScanScheduler → β) (ids : List Nat)
    (w w' : Session τ ρ σ) : Prop where
  stop : w'.scheduler.stop = w.scheduler.stop
  invalidating : w'.scheduler.invalidatingGeneration = w.scheduler.invalidatingGeneration
  transitions : w'.report.transitions = w.report.transitions + ids.length
  records : ∀ i, (view w'.scheduler).get? i = if i ∈ ids then none else (view w.scheduler).get? i
  rest : other w'.scheduler = other w.scheduler

theorem Drops.cons {id : Nat} {w w' w'' : Session τ ρ σ} (h : Drops view other [id] w w')
    (h' : Drops view other ids w' w'') : Drops view other (id :: ids) w w'' where
  stop := h'.stop.trans h.stop
  invalidating := h'.invalidating.trans h.invalidating
  transitions := by
    have hfirst := h.transitions
    have hmore := h'.transitions
    simp only [length_cons, length_nil] at hfirst ⊢
    omega
  records i := by
    rw [h'.records, h.records]
    by_cases hid : i = id <;> by_cases hmem : i ∈ ids <;> simp [hid, hmem]
  rest := h'.rest.trans h.rest

theorem Walks.dropEach {g : Nat → Method τ ρ σ Unit} (hi : w.Inv) (hnodup : ids.Nodup)
    (hids : ∀ id ∈ ids, ∃ x, (view w.scheduler).get? id = some x)
    (hstep : ∀ id x (w : Session τ ρ σ), w.Inv → (view w.scheduler).get? id = some x →
      Roams (g id) w fun _ w' => Drops view other [id] w w') :
    Roams (ForM.forM ids g) w fun _ w' => Drops view other ids w w' := by
  induction ids generalizing w with
  | nil => exact walks_pure.2 ⟨rfl, rfl, rfl, fun i => by simp, rfl⟩
  | cons id ids ih =>
    rw [nodup_cons] at hnodup
    obtain ⟨x, hx⟩ := hids id (mem_cons_self ..)
    rw [forM_cons]
    refine Walks.bind hi (hstep id x w hi hx) fun _ w1 hi1 hw1 => ?_
    refine (ih hi1 hnodup.2 fun i hmem => ?_).mono fun _ w2 hw2 => hw1.cons hw2
    have hne : i ≠ id := fun he => hnodup.1 (he ▸ hmem)
    rw [hw1.records, if_neg (by simpa using hne)]
    exact hids i (mem_cons_of_mem _ hmem)

/-- If there is budget left after as many records were dropped as the budget allows, then all were dropped. -/
theorem Drops.exhaustive {l : List Nat} {p : Nat → α → Bool} {w w' : Session τ ρ σ}
    (h : Drops view other (l.take (maxTransitionsPerDrive - w.report.transitions)) w w')
    (hl : ∀ {i x}, (view w.scheduler).get? i = some x → p i x = true → i ∈ l)
    (hleft : w'.report.transitions < maxTransitionsPerDrive) {i : Nat} {x : α}
    (hx : (view w'.scheduler).get? i = some x) : p i x = false := by
  have hlength := h.transitions
  rw [length_take] at hlength
  have hall : l.take (maxTransitionsPerDrive - w.report.transitions) = l := take_of_length_le (by omega)
  rw [h.records, hall] at hx
  by_contra hp
  by_cases hmem : i ∈ l
  · rw [if_pos hmem] at hx
    cases hx
  · rw [if_neg hmem] at hx
    exact hmem (hl hx (Bool.eq_true_of_not_eq_false hp))

end Drops

/-! ### Programmes -/

variable {l : ProgrammeLogical}

theorem finishProgrammeCorrelations_walks {id : Nat} {normalizeDecisive : Bool} (hi : w.Inv)
    (held : w.scheduler.programmes.get? id = some l) :
    Roams (finishProgrammeCorrelations id normalizeDecisive) w
      fun _ w' => (OnlyProgramme id w w' ∧ w'.report = w.report) ∧
        w'.scheduler.programmes.get? id = some (l.finish normalizeDecisive) := by
  refine Walks.of_step ((finishProgrammeCorrelations_ends hi held).imp ?_)
  rintro - w' ⟨perTarget, perPrefix, ht, hp, rfl⟩
  have revises : (l.finish normalizeDecisive).Revises l := ⟨rfl, rfl, rfl, (hi.origins.programmes held).2.next⟩
  refine ⟨Step.finished held revises rfl rfl ht hp ⟨rfl, rfl⟩, ⟨⟨rfl, rfl, rfl, rfl, fun i hne => ?_⟩, rfl⟩, ?_⟩
  · exact get?_insert_of_ne _ _ hne
  · exact get?_insert_self ..

variable {wireId : Nat}

theorem expireProgrammeGrace_walks [ProbeTransport τ] {g : ProgrammeGrace} (hi : w.Inv)
    (kept : w.scheduler.programmeGrace.get? wireId = some g) :
    Roams (expireProgrammeGrace wireId) w fun _ w' =>
      w'.scheduler.programmeGrace = w.scheduler.programmeGrace.erase wireId := by
  obtain ⟨-, l, held⟩ := hi.lanes.kept kept
  refine Walks.of_step ((expireProgrammeGrace_ends hi kept held).imp ?_)
  rintro - w' ⟨hpos, hw'⟩
  have revises : ProgrammeLogical.Revises { l with grace := l.grace - 1 } l :=
    ⟨rfl, rfl, rfl, (hi.origins.programmes held).2.next⟩
  rw [hw'.core, hw'.scheduler]
  exact ⟨Step.expired kept held revises rfl (Nat.sub_add_cancel hpos) ⟨rfl, rfl⟩, rfl⟩

theorem initiateStop_walks {stop : StopState} (live : w.scheduler.lifecycle.live = true) (proper : stop.Proper) :
    Roams (initiateStop stop) w fun _ w' => w'.scheduler.stop = some stop ∧
      w'.scheduler.invalidatingGeneration = none :=
  ⟨Path.single rfl (Step.stopInitiated stop w.report live proper), rfl, rfl⟩

section Sink

/-- A programme is dropped and everything else that settling looks at stays. -/
structure DropsProgramme (id : Nat) (w w' : Session τ ρ σ) : Prop extends OnlyProgramme id w w' where
  gone : w'.scheduler.programmes.get? id = none
  transitions : w'.report.transitions = w.report.transitions + 1

variable {id : Nat} {w w' : Session τ ρ σ}

theorem DropsProgramme.drops (h : DropsProgramme id w w') : Drops programmes active [id] w w' where
  stop := h.stop
  invalidating := h.invalidating
  transitions := h.transitions
  records i := by
    by_cases hid : i = id
    · rw [if_pos (mem_singleton.2 hid), hid, h.gone]
    · rw [if_neg (fun hmem => hid (mem_singleton.1 hmem)), h.programmes i hid]
  rest := h.active

variable {l : ProgrammeLogical} {now : Nat}

variable {outcome : ProbeOutcome} {reason : TerminalReason}

/-- Frames may be sent: no stop is pending, and no invalidation is unfinished unless evidence got past it. -/
structure Session.Free (w : Session τ ρ σ) : Prop where
  stop : w.scheduler.stop = none
  invalidating : w.scheduler.invalidatingGeneration = none ∨ Breached w.history

theorem Session.Free.clear (h : w.Free) (generation : Nat) : w.scheduler.Clear w.history generation := by
  refine ⟨h.stop, h.invalidating.imp (fun hnone => ?_) id⟩
  rw [invalidates, hnone]
  rfl

theorem Session.Free.mono (h : w.Free) (hstop : w'.scheduler.stop = w.scheduler.stop)
    (hinvalidating : w'.scheduler.invalidatingGeneration = w.scheduler.invalidatingGeneration)
    (hhistory : w.history ⊆ w'.history) : w'.Free := by
  refine ⟨hstop.trans h.stop, h.invalidating.imp hinvalidating.trans ?_⟩
  rintro ⟨e, he, hb⟩
  exact ⟨e, hhistory he, hb⟩

def Session.Spent (w : Session τ ρ σ) : Prop := maxTransitionsPerDrive ≤ w.report.transitions

/-- Frames may be sent, or the budget for them is used up. -/
def Session.Open (w : Session τ ρ σ) : Prop := w.Spent ∨ w.Free

theorem Session.Open.mono (h : w.Open) (hstop : w'.scheduler.stop = w.scheduler.stop)
    (hinvalidating : w'.scheduler.invalidatingGeneration = w.scheduler.invalidatingGeneration)
    (htransitions : w.report.transitions ≤ w'.report.transitions) (hhistory : w.history ⊆ w'.history) : w'.Open :=
  h.imp (fun hspent => le_trans hspent htransitions) (fun hfree => hfree.mono hstop hinvalidating hhistory)

theorem Session.Open.effect {p : Event → Bool} {n : Nat} (h : w.Open) (he : Effect p n w w') : w'.Open := by
  refine h.mono he.stop he.invalidating he.low ?_
  obtain ⟨added, hadded, -⟩ := he.history
  rw [hadded]
  exact subset_append_right ..

variable [ResultSink σ]

theorem settleProgramme_walks (held : w.scheduler.programmes.get? id = some l) (active : l.active = 0)
    (grace : l.grace = 0) :
    Roams (settleProgramme id now) w fun _ w' => DropsProgramme id w w' := by
  refine Walks.of_step ((settleProgramme_ends held).mono (fun _ w' hw' => ?_) ?_)
  · have hstep : Step .kept (w.core none) (w'.core none) := by
      rw [hw'.core]
      exact Step.settled held active grace rfl ⟨now, rfl⟩
    obtain ⟨⟩ := w'
    obtain ⟨rfl, rfl, rfl⟩ := hw'
    refine ⟨hstep, ?_⟩
    rw [pruneAdaptiveTargetState_eq]
    exact ⟨⟨rfl, rfl, rfl, rfl, fun i hne => get?_erase_of_ne _ hne⟩, get?_erase_self .., rfl⟩
  rintro e w' ⟨failure, rfl, hw'⟩
  rw [hw'.core]
  exact Stops.step (Step.settleRefused held active grace rfl) rfl (by simp)

theorem abortProgramme_walks (hi : w.Inv) (held : w.scheduler.programmes.get? id = some l)
    (plain : ∀ state, outcome ≠ .network state) :
    Roams (abortProgramme id now outcome reason) w fun _ w' => DropsProgramme id w w' := by
  have reports : ∃ now' outcome' reason', l.aborted now outcome reason = l.aborted now' outcome' reason' ∧
      ∀ state, outcome' ≠ .network state := ⟨now, outcome, reason, rfl, plain⟩
  refine Walks.of_step ((abortProgramme_ends hi held).mono ?_ ?_)
  · rintro - ⟨⟩ ⟨perTarget, perPrefix, ht, hp, rfl, rfl, rfl⟩
    exact ⟨@Step.aborted _ _ _ _ _ (.ok ()) _ _ _ _ held rfl ht hp reports,
      ⟨rfl, rfl, rfl, rfl, fun i hne => get?_erase_of_ne _ hne⟩, get?_erase_self .., rfl⟩
  rintro e w' ⟨failure, rfl, perTarget, perPrefix, ht, hp, hw'⟩
  rw [hw'.core]
  exact Stops.step (@Step.aborted _ _ _ _ _ (.error failure) _ _ _ _ held rfl ht hp reports) rfl (by simp)

theorem drainProgramme_walks (hi : w.Inv) (held : w.scheduler.programmes.get? id = some l)
    (plain : ∀ state, outcome ≠ .network state) :
    Roams (drainProgramme id now outcome reason) w fun _ w' => DropsProgramme id w w' := by
  simp only [drainProgramme, walks_scheduler, walks_ite]
  refine ⟨fun _ => ?_, fun _ => abortProgramme_walks hi held plain⟩
  refine Walks.bind hi (finishProgrammeCorrelations_walks hi held) ?_
  rintro - w1 hi1 ⟨⟨honly, hreport⟩, hget⟩
  refine (settleProgramme_walks hget rfl rfl).mono fun _ w' hw' =>
    ⟨honly.trans hw'.toOnlyProgramme, hw'.gone, ?_⟩
  rw [hw'.transitions, hreport]

/-- The programme under `id` is there and nothing is sent or awaited for it. -/
private def Idle (id : Nat) (w : Session τ ρ σ) : Prop :=
  ∃ l, w.scheduler.programmes.get? id = some l ∧ l.active = 0 ∧ l.grace = 0

theorem settleReadyProgrammes_walks (hi : w.Inv) : Roams (settleReadyProgrammes now) w fun _ _ => True := by
  simp only [settleReadyProgrammes, walks_scheduler, walks_remaining]
  refine (Walks.forEach (P := Idle) (S := fun _ => True) hi ((keysWhere_nodup _ _).sublist (take_sublist _ _)) ?_
    trivial ?_).mono (fun _ _ h => h)
  · intro id hid
    obtain ⟨l, hl, hready⟩ := mem_keysWhere.1 (mem_of_mem_take hid)
    simp only [readyToSettle, Bool.and_eq_true, beq_iff_eq] at hready
    exact ⟨l, hl, hready.1.2, hready.2⟩
  rintro id w hi ⟨l, hl, hactive, hgrace⟩ -
  refine (settleProgramme_walks hl hactive hgrace).mono fun _ w' hw' => ⟨trivial, fun i hne hidle => ?_⟩
  rwa [Idle, hw'.programmes i hne]

theorem pruneProgrammeGrace_walks [ProbeTransport τ] (hi : w.Inv) :
    Roams (pruneProgrammeGrace now) w fun _ _ => True := by
  simp only [pruneProgrammeGrace, walks_scheduler, walks_remaining]
  refine Walks.bind hi (Walks.forEach (P := fun id w => ∃ g, w.scheduler.programmeGrace.get? id = some g)
    (S := fun _ => True) hi ((keysWhere_nodup _ _).sublist (take_sublist _ _)) (fun _ =>
      exists_of_mem_take) trivial
    ?_) (fun _ w' hi' _ => settleReadyProgrammes_walks hi')
  rintro id w hi ⟨g, hg⟩ -
  refine (expireProgrammeGrace_walks hi hg).mono fun _ w' hw' => ⟨trivial, fun i hne hkept => ?_⟩
  rwa [hw', get?_erase_of_ne _ hne]

/-! ### Plain probes -/

/-- A terminal with a network outcome is reached by silence, or by evidence that nothing holds back. -/
def PendingTerminal.Due (terminal : PendingTerminal) (w : Session τ ρ σ) (a : ActiveProbe) : Prop :=
  ∀ state, terminal.outcome = .network state →
    terminal.reason = .timeout ∨ w.scheduler.Clear w.history a.context.generation

theorem terminalize_walks {terminal : PendingTerminal} {charged : Bool} {a : ActiveProbe} (hi : w.Inv)
    (held : w.scheduler.active.get? id = some a) (due : terminal.Due w a) :
    Roams (terminalize id now terminal charged) w fun _ w' => OnlyActive id w w' ∧
      w'.scheduler.active.get? id = none ∧
      w'.report.transitions = w.report.transitions + if charged then 1 else 0 := by
  refine Walks.of_step ((terminalize_ends hi held).mono ?_ ?_)
  · rintro - ⟨⟩ ⟨expires, perTarget, perPrefix, -, ht, hp, rfl, rfl, rfl⟩
    refine ⟨Step.terminalized held rfl (hi.ledger.grace_of_active held) ht hp ⟨now, terminal, rfl, due⟩,
      ⟨rfl, rfl, rfl, fun i hne => get?_erase_of_ne _ hne⟩, get?_erase_self .., ?_⟩
    cases charged <;> rfl
  rintro e w' (⟨rfl, rfl, -⟩ | ⟨failure, rfl, hw'⟩)
  · exact Stops.now (by simp)
  · rw [hw'.core]
    exact Stops.step (Step.commitRefused held rfl) rfl (by simp)

theorem timeoutOne_walks {a : ActiveProbe} (hi : w.Inv) (held : w.scheduler.active.get? id = some a) :
    Roams (timeoutOne id now) w fun _ w' => OnlyActive id w w' := by
  refine Walks.activeAt held ?_
  cases hstage : a.stage with
  | waiting purpose deadline =>
    simp only [walks_scheduler, walks_ite]
    refine ⟨fun _ => ?_, fun _ => (terminalize_walks hi held fun _ _ => Or.inl rfl).mono fun _ _ hw' => hw'.1⟩
    refine Walks.bind hi (Walks.reviseActive held rfl rfl rfl) fun _ w' hi' hw' => ?_
    subst hw'
    rw [walks_charge]
    exact ⟨rfl, rfl, rfl, fun i hne => get?_insert_of_ne _ _ hne⟩
  | pending purpose | pendingCleanup terminal => exact walks_pure.2 ⟨rfl, rfl, rfl, fun _ _ => rfl⟩

/-! ### Stop and invalidation -/

private theorem terminalizeAll_walks {ids : List Nat} {terminal : PendingTerminal} (hi : w.Inv)
    (hnodup : ids.Nodup) (hids : ∀ id ∈ ids, ∃ a, w.scheduler.active.get? id = some a)
    (plain : ∀ state, terminal.outcome ≠ .network state) :
    Roams (forM ids fun id => terminalize id now terminal true) w fun _ w' =>
      Drops active programmes ids w w' := by
  refine Walks.dropEach hi hnodup hids fun id a w hi held => ?_
  refine (terminalize_walks hi held fun state h => absurd h (plain state)).mono ?_
  rintro - w' ⟨honly, hgone, hcharged⟩
  refine ⟨honly.stop, honly.invalidating, hcharged, fun i => ?_, honly.programmes⟩
  by_cases hid : i = id
  · rw [if_pos (mem_singleton.2 hid), hid, hgone]
  · rw [if_neg (fun hmem => hid (mem_singleton.1 hmem)), honly.active i hid]

private theorem drainAll_walks {ids : List Nat} (hi : w.Inv) (hnodup : ids.Nodup)
    (hids : ∀ id ∈ ids, ∃ l, w.scheduler.programmes.get? id = some l) (plain : ∀ state, outcome ≠ .network state) :
    Roams (forM ids fun id => drainProgramme id now outcome reason) w fun _ w' =>
      Drops programmes active ids w w' :=
  Walks.dropEach hi hnodup hids fun _ _ _ hi held =>
    (drainProgramme_walks hi held plain).mono fun _ _ hw' => hw'.drops

/-- A stop is carried out, or it uses up the budget. -/
theorem settleStop_walks {stop : StopState} (hi : w.Inv) (pending : w.scheduler.stop = some stop) :
    Roams (settleStop now) w fun _ w' => w'.Spent ∨ w'.scheduler.stop = none ∧
      w'.scheduler.invalidatingGeneration = w.scheduler.invalidatingGeneration := by
  have proper : stop.Proper := hi.disposal.proper pending
  simp only [settleStop, walks_scheduler]
  refine Walks.ensure (fun stop' hstop' => ?_) (fun h => by rw [pending] at h; cases h)
  rw [pending, Option.some.injEq] at hstop'
  subst hstop'
  simp only [walks_remaining]
  refine Walks.bind hi (terminalizeAll_walks hi ((keys_nodup _).sublist (take_sublist _ _))
    (fun id hid => mem_keys.1 (mem_of_mem_take hid)) proper.outcome) fun _ w1 hi1 hw1 => ?_
  simp only [walks_scheduler, walks_remaining]
  refine Walks.bind hi1 (drainAll_walks hi1 ((keys_nodup _).sublist (take_sublist _ _))
    (fun id hid => mem_keys.1 (mem_of_mem_take hid)) proper.outcome) fun _ w2 hi2 hw2 => ?_
  refine Walks.whenever (fun hempty => Walks.update_last ?_ (Or.inr ⟨rfl, ?_⟩)) (fun hleft => Or.inl ?_)
  · simp only [Bool.and_eq_true, beq_iff_eq] at hempty
    exact Step.stopped (by rw [hw2.stop, hw1.stop, pending]) hempty.1 hempty.2
  · exact hw2.invalidating.trans hw1.invalidating
  -- with budget left both loops would have visited everything
  by_contra hspent
  have hspent : w2.report.transitions < maxTransitionsPerDrive := Nat.lt_of_not_le hspent
  have hmore := hw2.transitions
  have hactive : w2.scheduler.active.size = 0 := by
    rw [hw2.rest]
    refine size_eq_zero_of_get? fun i => ?_
    cases hx : w1.scheduler.active.get? i with
    | none => rfl
    | some x =>
      cases hw1.exhaustive (p := fun _ _ => true) (fun h _ => mem_keys_of_get? h) (by omega) hx
  have hprogrammes : w2.scheduler.programmes.size = 0 := by
    refine size_eq_zero_of_get? fun i => ?_
    cases hx : w2.scheduler.programmes.get? i with
    | none => rfl
    | some x =>
      cases hw2.exhaustive (p := fun _ _ => true) (fun h _ => mem_keys_of_get? h) hspent hx
  simp [hactive, hprogrammes] at hleft

theorem failTransport_walks {code : Nat} (hi : w.Inv) (live : w.scheduler.lifecycle.live = true) :
    Roams (failTransport now code) w fun _ w' => w'.Open := by
  refine Walks.bind hi (initiateStop_walks live ⟨rfl, by simp⟩) fun _ w1 hi1 ⟨hstop, hnone⟩ => ?_
  refine (settleStop_walks hi1 hstop).mono ?_
  rintro - w' (hspent | ⟨hstop', hsame⟩)
  · exact Or.inl hspent
  · exact Or.inr ⟨hstop', Or.inl (hsame.trans hnone)⟩

/-- An invalidation is carried out, or it uses up the budget. -/
theorem settleContextInvalidation_walks {filter : GenerationFilter} (hi : w.Inv)
    (pending : w.scheduler.invalidatingGeneration = some filter) :
    Roams (settleContextInvalidation now) w fun _ w' =>
      w'.scheduler.stop = w.scheduler.stop ∧ (w'.scheduler.invalidatingGeneration = none ∨
          w'.Spent ∧ w'.scheduler.invalidatingGeneration = some filter) ∧
        (∀ {i a}, w'.scheduler.active.get? i = some a → w.scheduler.active.get? i = some a) := by
  simp only [settleContextInvalidation, walks_scheduler]
  refine Walks.ensure (fun filter' hfilter' => ?_) (fun h => by rw [pending] at h; cases h)
  rw [pending, Option.some.injEq] at hfilter'
  subst hfilter'
  simp only [walks_remaining]
  refine Walks.bind hi (terminalizeAll_walks hi ((keysWhere_nodup _ _).sublist (take_sublist _ _))
    (fun _ => exists_of_mem_take) (by simp)) fun _ w1 hi1 hw1 => ?_
  simp only [walks_scheduler, walks_remaining]
  refine Walks.bind hi1 (drainAll_walks hi1 ((keysWhere_nodup _ _).sublist (take_sublist _ _))
    (fun _ => exists_of_mem_take) (by simp)) fun _ w2 hi2 hw2 => ?_
  have hpending : w2.scheduler.invalidatingGeneration = some filter :=
    hw2.invalidating.trans (hw1.invalidating.trans pending)
  have hstop : w2.scheduler.stop = w.scheduler.stop := hw2.stop.trans hw1.stop
  have hkept : ∀ {i a}, w2.scheduler.active.get? i = some a → w.scheduler.active.get? i = some a := by
    intro i a ha
    rw [hw2.rest, hw1.records] at ha
    split at ha
    · cases ha
    · exact ha
  have hinvalidates : ∀ generation, w2.scheduler.invalidates generation = filter.matches generation :=
    fun generation => by
    rw [invalidates, hpending]
    rfl
  refine Walks.whenever (fun hdone => Walks.update_last (Step.invalidated ?_ ?_) ⟨hstop, Or.inl rfl, hkept⟩)
    (fun hleft => ⟨hstop, Or.inr ⟨?_, hpending⟩, hkept⟩)
  · intro id a ha
    rw [hinvalidates]
    simp only [Bool.and_eq_true, Bool.not_eq_true', any_eq_false] at hdone
    simpa using hdone.1 a (mem_values.2 ⟨id, ha⟩)
  · intro id l hl
    rw [hinvalidates]
    simp only [Bool.and_eq_true, Bool.not_eq_true', any_eq_false] at hdone
    simpa using hdone.2 l (mem_values.2 ⟨id, hl⟩)
  by_contra hspent
  have hspent : w2.report.transitions < maxTransitionsPerDrive := Nat.lt_of_not_le hspent
  have hmore := hw2.transitions
  have hactive : ∀ {i a}, w2.scheduler.active.get? i = some a → filter.matches a.context.generation = false := by
    intro i a ha
    rw [hw2.rest] at ha
    exact hw1.exhaustive (p := fun _ a => filter.matches a.context.generation)
      (fun h hp => mem_keysWhere.2 ⟨_, h, hp⟩) (by omega) ha
  have hprogrammes : ∀ {i l}, w2.scheduler.programmes.get? i = some l →
    filter.matches l.context.generation = false :=
    fun hl => hw2.exhaustive (p := fun _ l => filter.matches l.context.generation)
      (fun h hp => mem_keysWhere.2 ⟨_, h, hp⟩) hspent hl
  rw [Bool.and_eq_false_iff, Bool.not_eq_false', Bool.not_eq_false', any_eq_true, any_eq_true] at hleft
  rcases hleft with ⟨a, ha, hmatches⟩ | ⟨l, hl, hmatches⟩
  · obtain ⟨i, ha⟩ := mem_values.1 ha
    rw [hactive ha] at hmatches
    cases hmatches
  obtain ⟨i, hl⟩ := mem_values.1 hl
  rw [hprogrammes hl] at hmatches
  cases hmatches

end Sink

/-! ### Timeouts -/

/-- Of the requests only the one under `wireId` may have changed.  Its programme `id` is still there with the same
context, and if it is kept for its grace then for that programme. -/
structure OnlyRequest (wireId id : Nat) (w w' : Session τ ρ σ) : Prop where
  physical : ∀ i, i ≠ wireId → w'.scheduler.physical.get? i = w.scheduler.physical.get? i
  grace : ∀ {g}, w'.scheduler.programmeGrace.get? wireId = some g → g.logicalId = id
  programme : ∀ {l}, w.scheduler.programmes.get? id = some l →
    ∃ l', w'.scheduler.programmes.get? id = some l' ∧ l'.context = l.context

variable {now : Nat}

theorem retirePhysical_walks {p : ProgrammePhysical} (hi : w.Inv)
    (sent : w.scheduler.physical.get? wireId = some p) :
    Roams (retirePhysical wireId now) w fun _ w' => OnlyRequest wireId p.logicalId w w' := by
  obtain ⟨-, -, l, held⟩ := hi.lanes.wire sent
  refine (retirePhysical_ends hi sent held).mono ?_ ?_
  · rintro - ⟨⟩ ⟨expires, perTarget, perPrefix, -, hpos, ht, hp, rfl, rfl, rfl⟩
    have revises : ProgrammeLogical.Revises { l with active := l.active - 1, grace := l.grace + 1 } l :=
      ⟨rfl, rfl, rfl, (hi.origins.programmes held).2.next⟩
    refine ⟨Path.tail
      (Path.single rfl (Step.retired (g := ⟨p.logicalId, expires, p.variant, p.lastSentAt⟩) sent held rfl
      revises (Nat.sub_add_cancel hpos) rfl ht hp ⟨rfl, rfl⟩)) rfl (Step.quiet ..),
      fun i hne => get?_erase_of_ne _ hne, fun hg => ?_, fun hl => ?_⟩
    · simp only [get?_insert_self, Option.some.injEq] at hg
      rw [← hg]
    obtain rfl := Option.some.inj (held.symm.trans hl)
    exact ⟨_, get?_insert_self .., rfl⟩
  · rintro e w' ⟨rfl, -, rfl⟩
    exact Stops.step (Step.leaked sent) rfl (by simp)

theorem paceTarget_walks {logicalId : Nat} (hi : w.Inv)
    (held : w.scheduler.programmes.get? logicalId = some l) :
    Roams (paceTarget logicalId now) w fun _ w' =>
      w'.scheduler.physical = w.scheduler.physical ∧
        ∃ l', w'.scheduler.programmes.get? logicalId = some l' ∧ l'.context = l.context := by
  refine Walks.programmeStrategy hi held fun strategy => ?_
  simp only [walks_ite, walks_pure]
  refine ⟨fun _ => ?_, fun _ => ⟨trivial, l, held, rfl⟩⟩
  refine Walks.programme held ?_
  simp only [walks_scheduler, walks_ite, walks_pure]
  refine ⟨fun _ => ?_, fun _ => ⟨trivial, l, held, rfl⟩⟩
  exact Walks.ensure (fun deadline _ => Walks.update (Step.paced held) (Walks.diagnose ⟨rfl, l, held, rfl⟩))
    (by simp)

theorem noteSilence_walks {logicalId : Nat} {purpose : EmissionPurpose} (hi : w.Inv)
    (held : w.scheduler.programmes.get? logicalId = some l) :
    Roams (noteSilence logicalId now purpose) w fun _ w' =>
      w'.scheduler.physical = w.scheduler.physical ∧
        ∃ l', w'.scheduler.programmes.get? logicalId = some l' ∧ l'.context = l.context := by
  have hnext := (hi.origins.programmes held).2.next
  cases purpose with
  | neighborSetup setup =>
    refine (Walks.reviseProgramme held ⟨rfl, rfl, rfl, hnext⟩ rfl rfl ⟨rfl, rfl⟩).mono ?_
    rintro - w' rfl
    exact ⟨rfl, _, get?_insert_self .., rfl⟩
  | probe | tcpResetCleanup => exact paceTarget_walks hi held

theorem timeoutProgrammeOne_walks {p : ProgrammePhysical} (hi : w.Inv)
    (sent : w.scheduler.physical.get? wireId = some p) :
    Roams (timeoutProgrammeOne wireId now) w fun _ w' => OnlyRequest wireId p.logicalId w w' := by
  obtain ⟨-, hnone, l, held⟩ := hi.lanes.wire sent
  have hnone : w.scheduler.programmeGrace.get? wireId = none := hnone
  have hsame : OnlyRequest wireId p.logicalId w w :=
    ⟨fun _ _ => rfl, fun hg => (by rw [hnone] at hg; cases hg), fun hl => ⟨_, hl, rfl⟩⟩
  refine Walks.physicalAt sent ?_
  cases hstage : p.stage with
  | waiting purpose deadline =>
    simp only [walks_scheduler, walks_ite]
    refine ⟨fun _ => ?_, fun _ => ?_⟩
    · refine Walks.bind hi (Walks.revisePhysical sent rfl) fun _ w' hi' hw' => ?_
      subst hw'
      rw [walks_charge]
      exact ⟨fun i hne => get?_insert_of_ne _ _ hne, hsame.grace, hsame.programme⟩
    refine Walks.bind hi (noteSilence_walks hi held) ?_
    rintro - w1 hi1 ⟨hw1, l1, held1, hcontext⟩
    refine (retirePhysical_walks hi1 (by rw [hw1, sent])).mono fun _ w' hw' =>
      ⟨fun i hne => by rw [hw'.physical i hne, hw1], hw'.grace, fun hl => ?_⟩
    obtain rfl := Option.some.inj (held.symm.trans hl)
    obtain ⟨l', held', hcontext'⟩ := hw'.programme held1
    exact ⟨l', held', hcontext'.trans hcontext⟩
  | pending purpose | pendingCleanup terminal => exact walks_pure.2 hsame

theorem processTimeouts_walks [ResultSink σ] (hi : w.Inv) : Roams (processTimeouts now) w fun _ _ => True := by
  simp only [processTimeouts, walks_scheduler, walks_remaining]
  refine Walks.bind hi (Walks.forEach (P := fun id w => ∃ p, w.scheduler.physical.get? id = some p)
    (S := fun _ => True) hi ((keysWhere_nodup _ _).sublist (take_sublist _ _)) (fun _ =>
      exists_of_mem_take) trivial
    ?_) fun _ w1 hi1 _ => ?_
  · rintro id w hi ⟨p, hp⟩ -
    refine (timeoutProgrammeOne_walks hi hp).mono fun _ w' hw' => ⟨trivial, fun i hne hsent => ?_⟩
    rwa [hw'.physical i hne]
  simp only [walks_scheduler, walks_remaining]
  refine Walks.eachUntil (P := fun id w => ∃ a, w.scheduler.active.get? id = some a) (S := fun _ => True)
    (J := fun _ => True) hi1 ((keysWhere_nodup _ _).sublist (take_sublist _ _)) (fun _ =>
      exists_of_mem_take) trivial
    ?_ (fun _ _ => trivial)
  rintro id w hi ⟨a, ha⟩ -
  rw [Roams, walks_remaining, walks_ite]
  refine ⟨fun _ => walks_pure.2 trivial, fun _ => ?_⟩
  refine Walks.bind hi (timeoutOne_walks hi ha) fun _ w' hi' hw' => walks_pure.2 ⟨trivial, ?_⟩
  rintro i hne ⟨a', ha'⟩
  exact ⟨a', by rw [hw'.active i hne, ha']⟩

end NodeNet.Engine
