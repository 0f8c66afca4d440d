import NodeNet.Engine.Allowance

/-!
# What methods may do

`Effect p n` relates the sessions before and after a method that records events in `p` only, charges at most `n`
transitions and does not set a halted session running.  `Budgeted p` is the same for a method that minds the
transition budget of a drive: it goes over the budget only at a step that charges more than it has looked at, and
such a step marks the history (`Event.overcharges`).

A relation is `Lenient` if it allows for what methods do without sending a frame.  Every method that does not
transmit is bounded here by all such relations.
-/

namespace NodeNet.Engine

open ScanScheduler

/-! ### Events and marks -/

/-- How many transitions the marked step charges. -/
def Point.cost : Point → Option Nat
  | pause => some 1
  | cleanup _ => some 2
  | emptyProgramme _ => some 2
  | _ => none

namespace Event

/-- A marked step charges more transitions than the budget has left. -/
def overcharges : Event → Bool
  | reached point _ before => point.cost.any fun cost =>
    decide (maxTransitionsPerDrive < before.transitions + cost)
  | _ => false

/-- A frame other than a reset frame is sent. -/
def ordinary : Event → Bool
  | emit emission _ => emission.purpose != .tcpResetCleanup
  | _ => false

/-- Neither a frame that a pause holds back nor a charge over the budget. -/
def mild (e : Event) : Bool := !e.ordinary && !e.overcharges

def any (_ : Event) : Bool := true

def modest (e : Event) : Bool := !e.overcharges

theorem modest_of_mild {e : Event} (h : e.mild = true) : e.modest = true := (Bool.and_eq_true _ _ ▸ h).2

end Event

/-- The session is not running, and no pending stop ends it running. -/
def ScanScheduler.Halted (s : ScanScheduler) : Prop :=
  s.lifecycle ≠ .running ∧ ∀ stop, s.stop = some stop → stop.finalLifecycle ≠ .running

/-! ### Bounds -/

variable {τ ρ σ α β : Type} {p q : Event → Bool} {n a b : Nat} {w w' w'' : Session τ ρ σ}

/-- Only events in `p` are recorded, and a halted session stays halted. -/
structure Still (p : Event → Bool) (w w' : Session τ ρ σ) : Prop where
  history : ∃ added, w'.history = added ++ w.history ∧ ∀ e ∈ added, p e = true
  halted : w.scheduler.Halted → w'.scheduler.Halted

theorem Still.refl (w : Session τ ρ σ) : Still p w w := ⟨⟨[], rfl, fun _ h => by cases h⟩, id⟩

theorem Still.trans (h : Still p w w') (h' : Still p w' w'') : Still p w w'' := by
  obtain ⟨added, hadded, hp⟩ := h.history
  obtain ⟨more, hmore, hp'⟩ := h'.history
  refine ⟨⟨more ++ added, by rw [hmore, hadded, List.append_assoc], fun e he => ?_⟩, h'.halted ∘ h.halted⟩
  rcases List.mem_append.1 he with he | he
  · exact hp' e he
  · exact hp e he

theorem Still.mono (h : Still p w w') (hpq : ∀ e, p e = true → q e = true) : Still q w w' := by
  obtain ⟨added, hadded, hp⟩ := h.history
  exact ⟨⟨added, hadded, fun e he => hpq e (hp e he)⟩, h.halted⟩

/-- Only events in `p` are recorded, at most `n` transitions are charged, and the lifecycle stays. -/
structure Effect (p : Event → Bool) (n : Nat) (w w' : Session τ ρ σ) : Prop where
  history : ∃ added, w'.history = added ++ w.history ∧ ∀ e ∈ added, p e = true
  lifecycle : w'.scheduler.lifecycle = w.scheduler.lifecycle
  stop : w'.scheduler.stop = w.scheduler.stop
  invalidating : w'.scheduler.invalidatingGeneration = w.scheduler.invalidatingGeneration
  low : w.report.transitions ≤ w'.report.transitions
  high : w'.report.transitions ≤ w.report.transitions + n

theorem Effect.still (h : Effect p n w w') : Still p w w' :=
  ⟨h.history, fun hh => ⟨h.lifecycle ▸ hh.1, fun stop hs => hh.2 stop (h.stop ▸ hs)⟩⟩

instance Effect.graded : Graded (Effect (τ := τ) (ρ := ρ) (σ := σ) p) where
  refl w := ⟨⟨[], rfl, fun _ h => by cases h⟩, rfl, rfl, rfl, le_refl _, le_refl _⟩
  trans h h' :=
    { history := (h.still.trans h'.still).history
      lifecycle := h'.lifecycle.trans h.lifecycle
      stop := h'.stop.trans h.stop
      invalidating := h'.invalidating.trans h.invalidating
      low := h.low.trans h'.low
      high := by have := h.high; have := h'.high; omega }
  mono hle h := { h with high := h.high.trans (Nat.add_le_add_left hle _) }

abbrev Costs (p : Event → Bool) (n : Nat) (m : Method τ ρ σ α) : Prop := Within (Effect p n) m

variable {m m' : Method τ ρ σ α} {f : α → Method τ ρ σ β} {g : ScanScheduler → ScanScheduler}

/-- How far the session is. -/
def ScanScheduler.course (s : ScanScheduler) : SessionLifecycle × Option StopState × Option GenerationFilter :=
  (s.lifecycle, s.stop, s.invalidatingGeneration)

private theorem Effect.update {s : ScanScheduler} (h : s.course = w.scheduler.course) :
    Effect p n w { w with scheduler := s } := by
  obtain ⟨hlifecycle, hrest⟩ := Prod.mk.inj h
  obtain ⟨hstop, hinvalidating⟩ := Prod.mk.inj hrest
  exact ⟨⟨[], rfl, fun _ h => by cases h⟩, hlifecycle, hstop, hinvalidating, le_refl _, Nat.le_add_right ..⟩

private theorem Effect.event {e : Event} (hp : p e = true) (hhistory : w'.history = e :: w.history)
    (hscheduler : w'.scheduler = w.scheduler) (hreport : w'.report = w.report) : Effect p n w w' := by
  refine ⟨⟨[e], hhistory, fun e' he' => ?_⟩, by rw [hscheduler], by rw [hscheduler], by rw [hscheduler],
    by rw [hreport], ?_⟩
  · rw [List.mem_singleton] at he'
    exact he' ▸ hp
  · rw [hreport]
    exact Nat.le_add_right ..

/-! ### Lenient relations -/

/-- The relation allows for what methods do without sending a frame: updates that leave the course of the session
alone and let no probe send more, charges, and events that are neither frames nor charges over the budget. -/
class Lenient (r : Nat → Session τ ρ σ → Session τ ρ σ → Prop) : Prop extends Graded r where
  update : ∀ {w : Session τ ρ σ} {s : ScanScheduler}, (w.scheduler.Orderly → w.scheduler.Thinner s) →
    s.course = w.scheduler.course → r 0 w { w with scheduler := s }
  charge : ∀ (w : Session τ ρ σ) (transitions emissions results : Nat), r transitions w { w with
    report := ⟨w.report.transitions + transitions, w.report.emissions + emissions, w.report.results + results⟩ }
  event : ∀ {w w' : Session τ ρ σ} {e : Event}, e.mild = true → e.emits = false → w'.history = e :: w.history →
    w'.scheduler = w.scheduler → w'.report = w.report → r 0 w w'

theorem Effect.lenient (hp : ∀ e, e.mild = true → p e = true) : Lenient (Effect (τ := τ) (ρ := ρ) (σ := σ) p) where
  update _ hcourse := .update hcourse
  charge _ _ _ _ := ⟨⟨[], rfl, fun _ h => by cases h⟩, rfl, rfl, rfl, Nat.le_add_right .., le_refl _⟩
  event hmild _ := .event (hp _ hmild)

instance : Lenient (Effect (τ := τ) (ρ := ρ) (σ := σ) Event.mild) := Effect.lenient fun _ => id

instance : Lenient (Effect (τ := τ) (ρ := ρ) (σ := σ) Event.modest) := Effect.lenient fun _ => Event.modest_of_mild

/-- An effect at whatever cost. -/
def Calm (_ : Nat) (w w' : Session τ ρ σ) : Prop := ∃ n, Effect Event.mild n w w'

instance : Lenient (Calm (τ := τ) (ρ := ρ) (σ := σ)) where
  refl w := ⟨0, Graded.refl w⟩
  trans := fun ⟨n, h⟩ ⟨n', h'⟩ => ⟨n + n', Graded.trans h h'⟩
  mono _ h := h
  update _ hcourse := ⟨0, .update hcourse⟩
  charge w t e c := ⟨t, Lenient.charge w t e c⟩
  event hmild hemits hhistory hscheduler hreport := ⟨0, Lenient.event hmild hemits hhistory hscheduler hreport⟩

/-! ### Primitive methods -/

section Lenient

variable {r : Nat → Session τ ρ σ → Session τ ρ σ → Prop} [Lenient r]

theorem pure_within {x : α} : Within (r n) (pure x : Method τ ρ σ α) := Within.pure x

theorem fail_within {e : EngineError} : Within (r n) (fail e : Method τ ρ σ α) := Within.throw _

theorem scheduler_within : Within (r n) scheduler := fun w => Graded.zero w

theorem report_within : Within (r n) report := fun w => Graded.zero w

theorem remaining_within : Within (r n) remaining := report_within.first fun _ => pure_within

theorem update_within (hthin : ∀ s : ScanScheduler, s.Orderly → s.Thinner (g s))
    (hcourse : ∀ s, (g s).course = s.course) : Within (r n) (update g) :=
  fun w => Graded.mono (Nat.zero_le n) (Lenient.update (hthin w.scheduler) (hcourse w.scheduler))

/-- What the course of the session and the allowance depend on. -/
def ScanScheduler.bearings (s : ScanScheduler) := (s.invalidatingGeneration, s.stakes)

theorem update_within_of_same (hg : ∀ s, (g s).bearings = s.bearings) : Within (r n) (update g) := by
  refine update_within (fun s ho => .of_same ho (Prod.mk.inj (hg s)).2) fun s => ?_
  have h := hg s
  simp only [bearings, stakes, Prod.mk.injEq] at h
  simp only [course, h]

/-- The same, and then the rest. -/
theorem update_first {k : Unit → Method τ ρ σ α} (hg : ∀ s, (g s).bearings = s.bearings)
    (hk : ∀ x, Within (r n) (k x)) : Within (r n) (update g >>= k) :=
  (update_within_of_same hg).first hk

theorem charge_within {t e c : Nat} : Within (r t) (charge t e c) := fun w => Lenient.charge w t e c

private theorem Lenient.call {e : Event} (he : e.mild = true) (hemits : e.emits = false)
    (hhistory : w'.history = e :: w.history) (hscheduler : w'.scheduler = w.scheduler)
    (hreport : w'.report = w.report) :
    r n w w' := Graded.mono (Nat.zero_le n) (Lenient.event he hemits hhistory hscheduler hreport)

theorem reach_within {point : Point} (hmild : ∀ s b, (Event.reached point s b).mild = true) :
    Within (r n) (reach point) := fun _ => Lenient.call (hmild _ _) rfl rfl rfl rfl

theorem ensure_within {o : Option α} {e : EngineError} : Within (r n) (ensure o e) := by
  cases o with
  | none => exact fail_within
  | some x => exact pure_within

theorem expect_within {o : Option α} {message : String} : Within (r n) (expect o message) := by
  cases o with
  | none => exact Within.throw _
  | some x => exact pure_within

theorem lift_within {x : Except EngineError α} : Within (r n) (lift x) := by
  cases x with
  | error e => exact fail_within
  | ok x => exact pure_within

variable {id : Nat}

theorem programme_within : Within (r n) (programme id) := scheduler_within.first fun _ => ensure_within

theorem physicalAt_within : Within (r n) (physicalAt id) := scheduler_within.first fun _ => ensure_within

theorem activeAt_within : Within (r n) (activeAt id) := scheduler_within.first fun _ => ensure_within

theorem reviseProgramme_within {f : ProgrammeLogical → ProgrammeLogical} : Within (r n) (reviseProgramme id f) :=
  programme_within.first fun _ => update_within_of_same fun _ => rfl

theorem diagnose_within {f : DiagnosticCounters → DiagnosticCounters} :
    Within (r n) (diagnose f) := update_within_of_same fun _ => rfl

theorem decrementCounters_within {target : ScanTarget} {key : PrefixKey} :
    Within (r n) (decrementCounters target key) :=
  scheduler_within.first fun _ => ensure_within.first fun _ => update_first (fun _ => rfl) fun _ =>
    ensure_within.first fun _ => update_within_of_same fun _ => rfl

theorem programmeStrategy_within : Within (r n) (programmeStrategy id) :=
  programme_within.first fun _ => scheduler_within.first fun _ => ensure_within.first fun _ => pure_within

/-! ### Calls -/

theorem retire_within [ProbeTransport τ] : Within (r n) (retire id) :=
  fun _ => ends_retire fun _ => Lenient.call rfl rfl rfl rfl rfl

variable {probe : LogicalProbe}

theorem resolve_within [ContextResolver ρ] : Within (r n) (resolve probe) :=
  fun _ => ends_resolve fun _ _ => Lenient.call rfl rfl rfl rfl rfl

section Sink

variable [ResultSink σ]

theorem tryReserve_within : Within (r n) tryReserve :=
  fun _ => ends_tryReserve fun _ _ => Lenient.call rfl rfl rfl rfl rfl

theorem tryReserveWithBytes_within {bytes : Nat} : Within (r n) (tryReserveWithBytes bytes) :=
  fun _ => ends_tryReserveWithBytes fun _ _ => Lenient.call rfl rfl rfl rfl rfl

theorem commitReserved_within {result : ScanResult} : Within (r n) (commitReserved result) :=
  fun _ => ends_commitReserved (fun _ => Lenient.call rfl rfl rfl rfl rfl) (fun _ _ =>
    Lenient.call rfl rfl rfl rfl rfl)

theorem commitReservedWithBytes_within {result : ScanResult} {actual reserved : Nat} :
    Within (r n) (commitReservedWithBytes result actual reserved) :=
  fun _ => ends_commitReservedWithBytes (fun _ => Lenient.call rfl rfl rfl rfl rfl)
    (fun _ _ => Lenient.call rfl rfl rfl rfl rfl)

theorem releaseReserved_within {count : Nat} : Within (r n) (releaseReserved count) :=
  fun _ => ends_releaseReserved (fun _ => Lenient.call rfl rfl rfl rfl rfl) (fun _ _ =>
    Lenient.call rfl rfl rfl rfl rfl)

theorem releaseReservedWithBytes_within {count bytes : Nat} :
    Within (r n) (releaseReservedWithBytes count bytes) :=
  fun _ => ends_releaseReservedWithBytes (fun _ => Lenient.call rfl rfl rfl rfl rfl)
    (fun _ _ => Lenient.call rfl rfl rfl rfl rfl)

end Sink

/-! ### Timeouts and scheduling -/

variable {now : Nat}

theorem retirePhysical_within {wireId : Nat} : Within (r 1) (retirePhysical wireId now) :=
  physicalAt_within.first fun _ => (update_within (fun _ ho => .erasePhysical ho _) fun _ => rfl).first fun _ =>
    scheduler_within.first fun _ => ensure_within.first fun _ => programme_within.first fun _ =>
    ensure_within.first fun _ => update_first (fun _ => rfl) fun _ => decrementCounters_within.first fun _ =>
    update_first (fun _ => rfl) fun _ => charge_within

theorem paceTarget_within : Within (r n) (paceTarget id now) := by
  refine programmeStrategy_within.first fun _ => Within.ite (fun _ => ?_) (fun _ => pure_within)
  refine programme_within.first fun _ => scheduler_within.first fun _ =>
    Within.ite (fun _ => ?_) (fun _ => pure_within)
  exact ensure_within.first fun _ => update_first (fun _ => rfl) fun _ => diagnose_within

theorem noteSilence_within {purpose : EmissionPurpose} : Within (r n) (noteSilence id now purpose) := by
  cases purpose with
  | neighborSetup setup => exact reviseProgramme_within
  | _ => exact paceTarget_within

theorem timeoutProgrammeOne_within {wireId : Nat} : Within (r 1) (timeoutProgrammeOne wireId now) := by
  intro w
  rw [timeoutProgrammeOne, ends_bind, ends_physicalAt]
  refine ⟨fun p hp => ?_, fun _ => Graded.zero w⟩
  cases hstage : p.stage with
  | waiting purpose deadline =>
    dsimp only
    rw [ends_bind, ends_scheduler, ends_ite]
    refine ⟨fun hretry => ?_, fun _ => (noteSilence_within.first fun _ => retirePhysical_within) w⟩
    rw [ends_bind, ends_revisePhysical, found_iff hp]
    refine charge_within.after (Lenient.update (fun ho => .setPhysical ho hp ?_) rfl)
    rw [hstage]
    exact ActiveStage.shrinks_retry hretry
  | pending purpose | pendingCleanup terminal => exact Graded.zero w

theorem placeVariant_within {index maximum : Nat} {variant : UdpProbeVariant} {purpose : EmissionPurpose}
    (hpurpose : purpose ≠ .tcpResetCleanup) :
    Within (r 1) (placeVariant id index variant maximum purpose) := by
  intro w
  rw [placeVariant, ends_bind, ends_scheduler, ends_bind, ends_ensure]
  refine ⟨fun next hnext => ?_, fun _ => Graded.zero w⟩
  obtain rfl : next = w.scheduler.nextWireId + 1 := by
    simp only [checkedAdd, Option.ite_none_right_eq_some, Option.some.injEq] at hnext
    exact hnext.2.symm
  rw [ends_bind, ends_update, ends_bind, ends_update]
  refine Within.after ?_ (Lenient.update (w := w) (fun ho => .place ho
    (p := ⟨id, variant, .pending purpose, 0, none⟩) ⟨hpurpose, Nat.zero_le _⟩ rfl) rfl)
  refine Within.ite (fun _ => fail_within) (fun _ => ?_)
  refine programme_within.first fun _ => update_first (fun _ => rfl) fun _ => update_first (fun _ => rfl) fun _ =>
    Within.ite (fun _ => ?_) (fun _ => ?_)
  · exact update_first (fun _ => rfl) fun _ => charge_within.last fun _ => pure_within
  · exact charge_within.last fun _ => pure_within

theorem scheduleVariant_within {index maximum : Nat} {l : ProgrammeLogical} {variant : UdpProbeVariant} :
    Within (r 1) (scheduleVariant id l index variant maximum) :=
  Within.ite (fun _ => placeVariant_within (by simp))
    (fun _ => ensure_within.first fun _ => placeVariant_within (by simp))

theorem scheduleTurn_within : Within (r 1) (scheduleTurn now id) := by
  refine scheduler_within.first fun s => ?_
  cases s.programmes.get? id with
  | none => exact pure_within
  | some l =>
    refine Within.ite (fun _ => pure_within) (fun _ => ensure_within.first fun programme => ?_)
    refine Within.ite (fun _ => update_first (fun _ => rfl) fun _ => pure_within) (fun _ => ?_)
    refine Within.ite (fun _ => update_first (fun _ => rfl) fun _ => pure_within) (fun _ =>
      expect_within.first fun port => ?_)
    split
    · exact reviseProgramme_within.first fun _ => pure_within
    · exact scheduleVariant_within

theorem scheduleLoop_within {fuel turns : Nat} : Within (r fuel) (scheduleLoop now fuel turns) := by
  induction fuel generalizing turns with
  | zero => exact pure_within
  | succ fuel ih =>
    rw [scheduleLoop, Nat.add_comm fuel 1]
    refine scheduler_within.first fun s => remaining_within.first fun _ =>
      Within.ite (fun _ => ?_) (fun _ => pure_within)
    cases s.programmeReady with
    | nil => exact pure_within
    | cons id rest => exact update_first (fun _ => rfl) fun _ => scheduleTurn_within.bind fun _ => ih

theorem defer_within : Within (r n) (defer probe) :=
  scheduler_within.first fun _ => Within.ite (fun _ => fail_within) (fun _ => update_within_of_same fun _ => rfl)

theorem requeueFront_within : Within (r n) (requeueFront probe) :=
  scheduler_within.first fun _ => Within.ite (fun _ => fail_within) (fun _ => update_within_of_same fun _ => rfl)

theorem udpShapeOf_within : Within (r n) (udpShapeOf probe) := by
  refine scheduler_within.first fun s => ?_
  split
  · exact pure_within
  · exact expect_within.first fun _ => pure_within

theorem udpVariantOf_within : Within (r n) (udpVariantOf probe) := by
  refine scheduler_within.first fun s => ?_
  split
  · exact pure_within
  · exact expect_within.first fun _ => pure_within

theorem nextCandidate_within {deferredRemaining : Nat} : Within (r n) (nextCandidate deferredRemaining) := by
  refine scheduler_within.first fun s => Within.ite (fun _ => update_first (fun _ => rfl) fun _ =>
    pure_within) (fun _ => ?_)
  refine Within.ite (fun _ => pure_within) (fun _ => ensure_within.first fun id =>
    update_first (fun _ => rfl) fun _ => ?_)
  split
  · exact pure_within
  · exact fail_within

/-! ### Settlement -/

theorem finishProgrammeCorrelations_within {normalizeDecisive : Bool} :
    Within (r n) (finishProgrammeCorrelations id normalizeDecisive) := by
  refine programme_within.first fun l => scheduler_within.first fun s => Within.first ?_ fun _ =>
    update_first (fun _ => rfl) fun _ => reviseProgramme_within
  refine Within.forM (n := 0) (fun _ => ?_) _
  exact (update_within (fun _ ho => .erasePhysical ho _) fun _ => rfl).first fun _ => decrementCounters_within

theorem expireProgrammeGrace_within [ProbeTransport τ] {wireId : Nat} :
    Within (r 1) (expireProgrammeGrace wireId) :=
  scheduler_within.first fun _ => ensure_within.first fun _ => update_first (fun _ => rfl) fun _ =>
    retire_within.first fun _ => programme_within.first fun _ => ensure_within.first fun _ =>
    update_first (fun _ => rfl) fun _ => charge_within

variable [ResultSink σ]

theorem settleProgramme_within : Within (r 1) (settleProgramme id now) := by
  refine (reach_within fun _ _ => rfl).first fun _ => programme_within.first fun l =>
    update_first (fun _ => rfl) fun _ =>
    commitReservedWithBytes_within.first fun _ => update_first (fun s => ?_) fun _ => charge_within
  rw [pruneAdaptiveTargetState_eq]
  rfl

theorem abortProgramme_within {outcome : ProbeOutcome} {reason : TerminalReason} :
    Within (r 1) (abortProgramme id now outcome reason) := by
  refine (reach_within fun _ _ => rfl).first fun _ => programme_within.first fun l =>
    update_first (fun _ => rfl) fun _ =>
    scheduler_within.first fun s => Within.first ?_ fun _ => update_first (fun _ => rfl) fun _ =>
    commitReservedWithBytes_within.first fun _ => charge_within
  refine Within.forM (n := 0) (fun _ => ?_) _
  exact physicalAt_within.first fun _ =>
    (update_within (fun _ ho => .erasePhysical ho _) fun _ => rfl).first fun _ => decrementCounters_within

theorem terminalize_within {terminal : PendingTerminal} {charged : Bool} :
    Within (r 1) (terminalize id now terminal charged) := by
  refine activeAt_within.first fun _ => scheduler_within.first fun _ =>
    Within.ite (fun _ => fail_within) (fun _ => ?_)
  refine ensure_within.first fun _ => commitReserved_within.first fun _ => activeAt_within.first fun _ =>
    (update_within (fun _ ho => .eraseActive ho _) fun _ => rfl).first fun _ =>
      decrementCounters_within.first fun _ =>
    update_first (fun _ => rfl) fun _ => ?_
  exact Within.ite (fun _ => charge_within) (fun _ => pure_within)

theorem timeoutOne_within : Within (r 1) (timeoutOne id now) := by
  intro w
  rw [timeoutOne, ends_bind, ends_activeAt]
  refine ⟨fun a ha => ?_, fun _ => Graded.zero w⟩
  cases hstage : a.stage with
  | waiting purpose deadline =>
    dsimp only
    rw [ends_bind, ends_scheduler, ends_ite]
    refine ⟨fun hretry => ?_, fun _ => terminalize_within w⟩
    rw [ends_bind, ends_reviseActive, found_iff ha]
    refine charge_within.after (Lenient.update (fun ho => .setActive ho ha ?_) rfl)
    rw [hstage]
    exact ActiveStage.shrinks_retry hretry
  | pending purpose | pendingCleanup terminal => exact Graded.zero w

theorem drainProgramme_within {outcome : ProbeOutcome} {reason : TerminalReason} :
    Within (r 1) (drainProgramme id now outcome reason) :=
  scheduler_within.first fun _ => Within.ite
    (fun _ => finishProgrammeCorrelations_within.first fun _ => settleProgramme_within) (fun _ =>
      abortProgramme_within)

/-- As many timeouts as the budget allows, where the cost does not matter. -/
theorem processTimeouts_within (hfree : ∀ n (w w' : Session τ ρ σ), r n w w' → r 0 w w') :
    Within (r 0) (processTimeouts now) := by
  refine scheduler_within.first fun _ => remaining_within.first fun _ =>
    (Within.mono (Within.forM (fun _ => timeoutProgrammeOne_within) _) (hfree _)).first fun _ =>
    scheduler_within.first fun _ => remaining_within.first fun _ =>
    Within.mono (Within.forUntil (n := 1) (fun _ => remaining_within.first fun _ => ?_) _) (hfree _)
  exact Within.ite (fun _ => pure_within) (fun _ => timeoutOne_within.last fun _ => pure_within)

end Lenient

/-! ### Costs of other methods -/

theorem update_costs (hg : ∀ s, (g s).course = s.course) : Costs p n (update g : Method τ ρ σ Unit) :=
  fun w => .update (hg w.scheduler)

/-- An update that leaves the course of the session alone, and then the rest. -/
theorem Costs.update {k : Unit → Method τ ρ σ α} (hg : ∀ s, (g s).course = s.course) (hk : ∀ x, Costs p n (k x)) :
    Costs p n (Engine.update g >>= k) := Within.first (update_costs hg) hk

variable {id now : Nat}

theorem revisePhysical_costs {f : ProgrammePhysical → ProgrammePhysical} :
    Costs Event.modest n (revisePhysical id f : Method τ ρ σ Unit) :=
  physicalAt_within.first fun _ => update_costs fun _ => rfl

theorem reviseActive_costs {f : ActiveProbe → ActiveProbe} :
    Costs Event.modest n (reviseActive id f : Method τ ρ σ Unit) :=
  activeAt_within.first fun _ => update_costs fun _ => rfl

theorem tryTake_costs : Costs Event.modest n (tryTake now : Method τ ρ σ Bool) :=
  scheduler_within.first fun _ => ensure_within.first fun _ => lift_within.first fun _ =>
    Costs.update (fun _ => rfl) fun _ => pure_within

theorem emit_costs [ProbeTransport τ] {emission : ProbeEmission}
    (hp : ∀ answer, p (.emit emission answer) = true) :
    Costs p n (emit emission : Method τ ρ σ (Except TransportFailure Unit)) :=
  fun _ => ends_emit fun answer _ => Effect.event (hp answer) rfl rfl rfl

/-! ### The transition budget -/

def Session.marks (w : Session τ ρ σ) : Nat := w.history.countP Event.overcharges

theorem Still.marks_le (h : Still p w w') : w.marks ≤ w'.marks := by
  obtain ⟨added, hadded, -⟩ := h.history
  rw [Session.marks, Session.marks, hadded, List.countP_append]
  exact Nat.le_add_left ..

theorem Still.marks_eq (h : Still p w w') (hp : ∀ e, p e = true → e.modest = true) : w'.marks = w.marks := by
  obtain ⟨added, hadded, hall⟩ := h.history
  have hnone : added.countP Event.overcharges = 0 := by
    rw [List.countP_eq_zero]
    intro e he
    have := hp e (hall e he)
    simpa [Event.modest] using this
  rw [Session.marks, Session.marks, hadded, List.countP_append, hnone, Nat.zero_add]

/-- The budget is kept unless a step overcharges it, and a step that does so leaves it used up. -/
structure Budgeted (p : Event → Bool) (w w' : Session τ ρ σ) : Prop extends Still p w w' where
  low : w.report.transitions ≤ w'.report.transitions
  bounded : w'.marks = w.marks → w'.report.transitions ≤ max w.report.transitions maxTransitionsPerDrive
  marked : w.marks < w'.marks → maxTransitionsPerDrive < w'.report.transitions

theorem Budgeted.refl (w : Session τ ρ σ) : Budgeted p w w :=
  ⟨Still.refl w, le_refl _, fun _ => le_max_left .., fun h => absurd h (Nat.lt_irrefl _)⟩

theorem Budgeted.trans (h : Budgeted p w w') (h' : Budgeted p w' w'') : Budgeted p w w'' := by
  have hle := h.toStill.marks_le
  have hle' := h'.toStill.marks_le
  refine ⟨h.toStill.trans h'.toStill, h.low.trans h'.low, fun heq => ?_, fun hlt => ?_⟩
  · have hfirst := h.bounded (by omega)
    have hsecond := h'.bounded (by omega)
    omega
  -- the budget was overcharged in the first part or in the second one
  · by_cases hmore : w.marks < w'.marks
    · exact lt_of_lt_of_le (h.marked hmore) h'.low
    · exact h'.marked (by omega)

instance Budgeted.graded : Graded fun _ => Budgeted (τ := τ) (ρ := ρ) (σ := σ) p :=
  .of_preorder Budgeted.refl Budgeted.trans

theorem Budgeted.mono (h : Budgeted p w w') (hpq : ∀ e, p e = true → q e = true) : Budgeted q w w' :=
  ⟨h.toStill.mono hpq, h.low, h.bounded, h.marked⟩

/-- A part whose cost was looked at before. -/
theorem Effect.budgeted (h : Effect p n w w') (hp : ∀ e, p e = true → e.modest = true)
    (hn : n ≤ maxTransitionsPerDrive - w.report.transitions) : Budgeted p w w' := by
  have hmarks := h.still.marks_eq hp
  have hhigh := h.high
  refine ⟨h.still, h.low, fun _ => ?_, fun hlt => ?_⟩
  · omega
  · omega

abbrev Minds (p : Event → Bool) (m : Method τ ρ σ α) : Prop := Within (Budgeted p) m

theorem Minds.bind (h : Minds p m) (hf : ∀ x, Minds p (f x)) : Minds p (m >>= f) :=
  Within.bind (r := fun _ => Budgeted p) (a := 0) (b := 0) h hf

theorem Minds.mono (h : Minds p m) (hpq : ∀ e, p e = true → q e = true) : Minds q m :=
  Within.mono h fun _ _ hb => hb.mono hpq

/-- What costs nothing. -/
theorem Costs.minds (h : Costs Event.mild 0 m) : Minds Event.mild m :=
  Within.mono h fun _ _ he => he.budgeted (fun _ => Event.modest_of_mild) (Nat.zero_le _)

theorem whenever_minds {c : ScanScheduler → Bool} {m : Method τ ρ σ Unit} (h : Minds p m) :
    Minds p (whenever c m) := by
  intro w
  rw [ends_whenever]
  exact ⟨fun _ => h w, fun _ => Budgeted.refl w⟩

/-- A part that costs no more than the budget has left, and then the rest. -/
theorem Costs.within_budget (h : Costs p n m) (hp : ∀ e, p e = true → e.modest = true)
    (hn : n ≤ maxTransitionsPerDrive - w.report.transitions) (hf : ∀ x, Minds p (f x)) :
    Ends (m >>= f) w (fun _ w' => Budgeted p w w') (fun _ w' => Budgeted p w w') := by
  refine Ends.bind (h w) (fun x w' hw' => ?_) (fun _ w' hw' => hw'.budgeted hp hn)
  have hfirst := hw'.budgeted hp hn
  exact (hf x w').mono (fun _ _ h => hfirst.trans h) (fun _ _ h => hfirst.trans h)

/-- One transition after a look at the budget. -/
theorem Minds.guarded {x : β} (h : Costs Event.mild 1 m) (hf : ∀ x, Minds Event.mild (f x)) :
    Minds Event.mild (remaining >>= fun left => if left = 0 then pure x else m >>= f) := by
  intro w
  simp only [ends_bind, ends_remaining, ends_ite, ends_pure]
  refine ⟨fun _ => Budgeted.refl w, fun hleft => ?_⟩
  rw [← ends_bind]
  exact h.within_budget (fun _ => Event.modest_of_mild) (by omega) hf

theorem Minds.forUntil {g : Nat → Method τ ρ σ Bool} {l : List Nat} (hg : ∀ i, Minds p (g i)) :
    Minds p (NodeNet.forUntil g l) :=
  Within.forUntil (r := fun _ => Budgeted p) (n := 0) hg l

/-- A loop with as many rounds of cost one as the budget has left. -/
theorem Minds.forM_take {g : Nat → Method τ ρ σ Unit} (l : List Nat) {k : Unit → Method τ ρ σ α}
    (hg : ∀ i, Costs Event.mild 1 (g i)) (hk : ∀ x, Minds Event.mild (k x)) :
    Minds Event.mild (remaining >>= fun budget => forM (l.take budget) g >>= k) := by
  intro w
  rw [ends_bind, ends_remaining]
  have hlength := List.length_take_le (maxTransitionsPerDrive - w.report.transitions) l
  exact Costs.within_budget (Within.forM hg _) (fun _ => Event.modest_of_mild) (by omega) hk

/-- The same at the end of a method. -/
theorem Minds.forM_take_last {g : Nat → Method τ ρ σ Unit} (l : List Nat) (hg : ∀ i, Costs Event.mild 1 (g i)) :
    Minds Event.mild (remaining >>= fun budget => forM (l.take budget) g) := by
  have h := Minds.forM_take l hg (k := pure) fun _ => Costs.minds pure_within
  simpa only [bind_pure] using h

/-! ### Stopping and scheduling -/

/-- Every turn is taken after a look at the budget. -/
theorem scheduleLoop_minds {fuel turns : Nat} :
    Minds Event.mild (scheduleLoop now fuel turns : Method τ ρ σ Unit) := by
  induction fuel generalizing turns with
  | zero => exact fun w => Budgeted.refl w
  | succ fuel ih =>
    intro w
    simp only [scheduleLoop, ends_bind, ends_scheduler, ends_remaining, ends_ite, ends_pure]
    refine ⟨fun hturn => ?_, fun _ => Budgeted.refl w⟩
    split
    · exact Budgeted.refl w
    rw [← bind_assoc]
    exact Costs.within_budget (update_first (fun _ => rfl) fun _ => scheduleTurn_within)
      (fun _ => Event.modest_of_mild) hturn.2.2 fun _ => ih

theorem scheduleProgrammeVariants_minds : Minds Event.mild (scheduleProgrammeVariants now : Method τ ρ σ Unit) :=
  (Costs.minds scheduler_within).bind fun _ => (Costs.minds remaining_within).bind fun _ => scheduleLoop_minds

/-- An update after which a halted session is still halted. -/
theorem update_minds (hg : ∀ s, s.Halted → (g s).Halted) : Minds p (update g : Method τ ρ σ Unit) :=
  fun w => ⟨⟨⟨[], rfl, fun _ h => by cases h⟩, hg w.scheduler⟩, le_refl _, fun _ => le_max_left ..,
    fun h => absurd h (Nat.lt_irrefl _)⟩

theorem completeIfFinished_minds : Minds p (completeIfFinished : Method τ ρ σ Unit) :=
  whenever_minds (update_minds fun _ h => ⟨by simp, h.2⟩)

theorem initiateStop_minds {stop : StopState} (hfinal : stop.finalLifecycle ≠ .running) :
    Minds Event.mild (initiateStop stop : Method τ ρ σ Unit) := by
  refine (Costs.minds (reach_within fun _ _ => rfl)).bind fun _ => update_minds fun s _ =>
    ⟨by simp, fun stop' hstop => ?_⟩
  cases hstop
  exact hfinal

/-! ### Settlement and stopping -/

section Settlement

variable {id now : Nat}

private theorem forM_take_ends {g : Nat → Method τ ρ σ Unit} (l : List Nat) (hg : ∀ i, Costs Event.mild 1 (g i)) :
    Ends (forM (l.take (maxTransitionsPerDrive - w.report.transitions)) g) w
      (fun _ w' => Budgeted Event.mild w w' ∧ w'.scheduler.stop = w.scheduler.stop)
      (fun _ w' => Budgeted Event.mild w w') := by
  have hlength := List.length_take_le (maxTransitionsPerDrive - w.report.transitions) l
  refine (Within.forM hg _ w).mono (fun _ w' he => ?_) (fun _ w' he => ?_)
  · exact ⟨he.budgeted (fun _ => Event.modest_of_mild) (by omega), he.stop⟩
  · exact he.budgeted (fun _ => Event.modest_of_mild) (by omega)

variable [ResultSink σ]

theorem settleReadyProgrammes_minds : Minds Event.mild (settleReadyProgrammes now : Method τ ρ σ Unit) :=
  (Costs.minds scheduler_within).bind fun _ => Minds.forM_take_last _ fun _ => settleProgramme_within

theorem pruneProgrammeGrace_minds [ProbeTransport τ] :
    Minds Event.mild (pruneProgrammeGrace now : Method τ ρ σ Unit) :=
  (Costs.minds scheduler_within).bind fun _ => Minds.forM_take _ (fun _ => expireProgrammeGrace_within) fun _ =>
    settleReadyProgrammes_minds

theorem processTimeouts_minds : Minds Event.mild (processTimeouts now : Method τ ρ σ Unit) := by
  refine (Costs.minds scheduler_within).bind fun _ =>
    Minds.forM_take _ (fun _ => timeoutProgrammeOne_within) fun _ =>
    (Costs.minds scheduler_within).bind fun _ => (Costs.minds remaining_within).bind fun budget => ?_
  exact Minds.forUntil fun id => Minds.guarded timeoutOne_within fun _ => Costs.minds pure_within

theorem settleStop_minds : Minds Event.mild (settleStop now : Method τ ρ σ Unit) := by
  intro w
  rw [settleStop, ends_bind, ends_scheduler, ends_bind, ends_ensure]
  refine ⟨fun stop hstop => ?_, fun _ => Budgeted.refl w⟩
  rw [ends_bind, ends_remaining]
  refine Ends.seq (forM_take_ends _ fun _ => terminalize_within) (fun _ w1 h1 => ?_)
  rw [ends_bind, ends_scheduler, ends_bind, ends_remaining]
  refine Ends.bind (forM_take_ends _ fun _ => drainProgramme_within) (fun _ w2 h2 => ?_)
    (fun _ _ h => h1.1.trans h)
  have hloops := h1.1.trans h2.1
  rw [ends_whenever, ends_update]
  refine ⟨fun _ => ?_, fun _ => hloops⟩
  -- the loops have left the pending stop alone, so a halted session ends as that stop says
  refine ⟨⟨hloops.history, fun hhalted => ⟨hhalted.2 stop hstop, fun _ h => by cases h⟩⟩,
    hloops.low, hloops.bounded, hloops.marked⟩

theorem failTransport_minds {code : Nat} : Minds Event.mild (failTransport now code : Method τ ρ σ Unit) :=
  (initiateStop_minds (by simp)).bind fun _ => settleStop_minds

theorem settleContextInvalidation_minds : Minds Event.mild (settleContextInvalidation now : Method τ ρ σ Unit) :=
  (Costs.minds scheduler_within).bind fun _ => (Costs.minds ensure_within).bind fun _ =>
    Minds.forM_take _ (fun _ => terminalize_within)
    fun _ => (Costs.minds scheduler_within).bind fun _ =>
      Minds.forM_take _ (fun _ => drainProgramme_within) fun _ =>
    whenever_minds (update_minds fun _ h => h)

end Settlement

end NodeNet.Engine
