import NodeNet.Engine.Scripted

/-!
# The transition budget

A drive minds its budget of transitions in all its loops.  Three steps charge more than they have looked at: a
pause that takes effect, a reset frame that ends its probe, and a programme without eligible variants.  A drive
stays within its budget exactly if none of them starts with too little of it left (`drive_within_budget`).
-/

namespace NodeNet.Engine

open OrdMap ScanScheduler

variable {τ ρ σ α β : Type} {n : Nat} {w w' : Session τ ρ σ} {m : Method τ ρ σ α} {f : α → Method τ ρ σ β}

def Fits (m : Method τ ρ σ α) : Prop :=
  ∀ w, w.report.transitions < maxTransitionsPerDrive →
    Ends m w (fun _ w' => Budgeted Event.any w w') (fun _ w' => Budgeted Event.any w w')

private theorem Effect.spends (h : Effect Event.modest n w w')
    (hn : n ≤ maxTransitionsPerDrive - w.report.transitions) : Budgeted Event.any w w' :=
  (h.budgeted (fun _ => id) hn).mono fun _ _ => rfl

theorem Fits.of_costs (h : Costs Event.modest 1 m) : Fits m := by
  intro w hleft
  exact (h w).mono (fun _ _ he => he.spends (by omega)) (fun _ _ he => he.spends (by omega))

/-- A part without cost leaves the transition to the rest. -/
theorem Fits.first (h : Costs Event.modest 0 m) (hf : ∀ x, Fits (f x)) : Fits (m >>= f) := by
  intro w hleft
  refine Ends.bind (h w) (fun x w' hw' => ?_) (fun _ _ he => he.spends (Nat.zero_le _))
  have hfirst : Budgeted Event.any w w' := hw'.spends (Nat.zero_le _)
  have hreport : w'.report.transitions = w.report.transitions := le_antisymm hw'.high hw'.low
  exact (hf x w' (hreport ▸ hleft)).mono (fun _ _ h => hfirst.trans h) (fun _ _ h => hfirst.trans h)

theorem Fits.bind (h : Fits m) (hf : ∀ x, Minds Event.any (f x)) : Fits (m >>= f) := by
  intro w hleft
  refine Ends.seq (h w hleft) (fun x w' hw' => ?_)
  exact (hf x w').mono (fun _ _ h => hw'.trans h) (fun _ _ h => hw'.trans h)

theorem Fits.ite {c : Prop} [Decidable c] {m' : Method τ ρ σ α} (h : c → Fits m) (h' : ¬ c → Fits m') :
    Fits (if c then m else m') := by
  by_cases hc : c
  · rw [if_pos hc]
    exact h hc
  · rw [if_neg hc]
    exact h' hc

/-! ### Steps that charge more than they have looked at -/

private theorem Budgeted.of_mark {s : ScanScheduler} {before : MutableReport} {point : Point} {cost : Nat}
    (hcost : point.cost = some cost) (h : Still Event.modest w w')
    (hexact : w'.report.transitions = w.report.transitions + cost) (hbefore : before = w.report) :
    Budgeted Event.any w { w' with history := .reached point s before :: w'.history } := by
  have hmarks := h.marks_eq (fun _ => id)
  have hover : (Event.reached point s before).overcharges =
      decide (maxTransitionsPerDrive < w.report.transitions + cost) := by
    simp [Event.overcharges, hcost, hbefore]
  obtain ⟨added, hadded, -⟩ := h.history
  have hhistory : ∃ more, Event.reached point s before :: w'.history = more ++ w.history ∧
      ∀ e ∈ more, Event.any e = true := ⟨_ :: added, by rw [hadded]; rfl, fun _ _ => rfl⟩
  refine ⟨⟨hhistory, h.halted⟩, hexact ▸ Nat.le_add_right .., fun heq => ?_, fun hlt => ?_⟩
  · simp only [Session.marks, List.countP_cons, hover, decide_eq_true_eq] at heq hmarks
    simp only
    split at heq <;> omega
  simp only [Session.marks, List.countP_cons, hover, decide_eq_true_eq] at hlt hmarks
  simp only
  split at hlt <;> omega

section Sink

variable [ResultSink σ]

/-- Only a terminal result that is committed is charged. -/
theorem terminalize_charges {id now : Nat} {terminal : PendingTerminal} :
    Ends (terminalize id now terminal true) w
      (fun _ w' => w'.report.transitions = w.report.transitions + 1)
      (fun _ w' => w'.report.transitions = w.report.transitions) := by
  simp only [terminalize, ends_bind, ends_activeAt, ends_scheduler, ends_ite, ends_fail, ends_ensure, implies_true,
    and_true, true_and]
  intro active _ _ expires _
  refine ends_commitReserved (fun sink => ?_) (fun _ _ => rfl)
  simp [decrementCounters]

/-- Only a programme that is committed is charged. -/
theorem settleProgramme_charges {id now : Nat} :
    Ends (settleProgramme id now) w
      (fun _ w' => w'.report.transitions = w.report.transitions + 1)
      (fun _ w' => w'.report.transitions = w.report.transitions) := by
  simp only [settleProgramme, ends_bind, ends_reach, ends_programme, ends_update, implies_true, and_true]
  intro l _
  refine ends_commitReservedWithBytes (fun sink => ?_) (fun _ _ => rfl)
  simp

end Sink

theorem enterPause_minds : Minds Event.any (enterPause : Method τ ρ σ Unit) := by
  intro w
  simp only [enterPause, ends_bind, ends_report, ends_scheduler, ends_update, ends_charge, ends_record]
  have hpaused : Still Event.modest w { w with
      scheduler := { w.scheduler with lifecycle := .paused }
      report := ⟨w.report.transitions + 1, w.report.emissions + 0, w.report.results + 0⟩ } :=
    ⟨⟨[], rfl, fun _ h => by cases h⟩, fun h => ⟨by simp, h.2⟩⟩
  exact Budgeted.of_mark rfl hpaused rfl rfl

/-! ### Admission -/

section Admission

variable [ResultSink σ]

variable {now : Nat}

private theorem openProgramme_ends {id variantCount : Nat} {s : ScanScheduler} {before : MutableReport}
    (hleft : w.report.transitions < maxTransitionsPerDrive) (hbefore : before = w.report) :
    Ends (openProgramme id now variantCount s before) w (fun _ w' => Budgeted Event.any w w')
      (fun _ w' => Budgeted Event.any w w') := by
  rw [openProgramme, ends_ite]
  refine ⟨fun _ => ?_, fun _ => ?_⟩
  · refine Ends.bind ((settleProgramme_within (r := Effect Event.mild) w).and settleProgramme_charges)
      (fun _ w1 hw1 => ?_) (fun _ w1 hw1 => ?_)
    · obtain ⟨heffect, hexact⟩ := hw1
      simp only [ends_bind, ends_update, ends_charge, ends_record, ends_pure]
      have hstill : Still Event.modest w { w1 with
          scheduler := { w1.scheduler with contextWaiting := false }
          report := ⟨w1.report.transitions + 1, w1.report.emissions + 0, w1.report.results + 0⟩ } :=
        ⟨(heffect.still.mono fun _ => Event.modest_of_mild).history, heffect.still.halted⟩
      exact Budgeted.of_mark rfl hstill (by simp only [hexact]) hbefore
    · exact (hw1.1.budgeted (fun _ => Event.modest_of_mild) (by omega)).mono fun _ _ => rfl
  have hqueue : Costs Event.modest 1 (update (τ := τ) (ρ := ρ) (σ := σ)
      (fun s => { s with programmeReady := s.programmeReady ++ [id], contextWaiting := false }) >>= fun _ =>
      charge 1 0 0 >>= fun _ => pure true) :=
    Costs.update (fun _ => rfl) fun _ => charge_within.last fun _ => pure_within
  exact (hqueue w).mono (fun _ _ he => he.spends (by omega)) (fun _ _ he => he.spends (by omega))

variable {context : ResolvedContext} {probe : LogicalProbe}

theorem admitProgramme_fits {variantCount bytes : Nat} :
    Fits (admitProgramme now probe context variantCount bytes : Method τ ρ σ Bool) := by
  refine Fits.first tryReserveWithBytes_within fun answer => ?_
  match answer with
  | .error failure => exact Fits.of_costs fail_within
  | .ok .saturated =>
    exact Fits.of_costs (Costs.update (fun _ => rfl) fun _ => charge_within.last fun _ => pure_within)
  | .ok .reserved =>
    intro w hleft
    simp only [ends_bind, ends_scheduler, ends_report, ends_update, ends_ite, ends_fail]
    -- the new programme costs nothing yet
    have hopened : ∀ l, Budgeted Event.any w { w with scheduler := w.scheduler.setProgramme probe.logicalId l } :=
      fun l => ((update_costs (g := fun s => s.setProgramme probe.logicalId l) fun _ => rfl) w).spends
        (n := 0) (Nat.zero_le _)
    refine ⟨fun _ => hopened _, fun _ => ?_⟩
    refine (openProgramme_ends ?_ rfl).mono (fun _ _ h => (hopened _).trans h) (fun _ _ h => (hopened _).trans h)
    exact hleft

theorem admitPlain_costs : Costs Event.modest 1 (admitPlain probe context : Method τ ρ σ Bool) := by
  refine tryReserve_within.first fun answer => ?_
  match answer with
  | .error failure => exact requeueFront_within.first fun _ => fail_within
  | .ok .saturated => exact Costs.update (fun _ => rfl) fun _ => charge_within.last fun _ => pure_within
  | .ok .reserved =>
    refine scheduler_within.first fun s => Costs.update (fun _ => rfl) fun _ =>
      Within.ite (fun _ => fail_within) (fun _ => ?_)
    exact Costs.update (fun _ => rfl) fun _ => charge_within.last fun _ => pure_within

theorem admitReady_fits : Fits (admitReady now probe context : Method τ ρ σ Bool) := by
  refine Fits.first scheduler_within fun s =>
    Fits.ite (fun _ => ?_) (fun _ => Fits.ite (fun _ => ?_) (fun _ => ?_))
  · exact Fits.of_costs (requeueFront_within.first fun _ => fail_within)
  · exact Fits.of_costs (defer_within.first fun _ => charge_within.last fun _ => pure_within)
  refine Fits.first udpShapeOf_within fun shape => ?_
  match shape with
  | some (variantCount, bytes, true) => exact admitProgramme_fits
  | some (_, _, false) => exact Fits.of_costs admitPlain_costs
  | none => exact Fits.of_costs admitPlain_costs

variable [ContextResolver ρ]

theorem admitOne_fits : Fits (admitOne now probe : Method τ ρ σ Bool) := by
  refine Fits.first scheduler_within fun s => Fits.ite (fun _ => ?_) (fun _ => ?_)
  · exact Fits.of_costs (defer_within.first fun _ => charge_within.last fun _ => pure_within)
  refine Fits.first resolve_within fun resolution => ?_
  match resolution with
  | .error failure => exact Fits.of_costs (requeueFront_within.first fun _ => fail_within)
  | .ok .pending =>
    exact Fits.of_costs (Costs.update (fun _ => rfl) fun _ => charge_within.last fun _ => pure_within)
  | .ok (.invalidated _) =>
    exact Fits.of_costs (Costs.update (fun _ => rfl) fun _ => diagnose_within.first fun _ =>
      charge_within.last fun _ =>
      pure_within)
  | .ok (.ready context) => exact admitReady_fits

/-- Every candidate is looked at with a transition left. -/
theorem admitLoop_minds {left deferredRemaining : Nat} :
    Minds Event.any (admitLoop now left deferredRemaining : Method τ ρ σ Unit) := by
  induction left generalizing deferredRemaining with
  | zero => exact fun w => Budgeted.refl w
  | succ left ih =>
    intro w
    rw [admitLoop, ends_bind, ends_scheduler, ends_bind, ends_remaining, ends_ite]
    refine ⟨fun hroom => Fits.first nextCandidate_within (fun x => ?_) w (by omega), fun _ => Budgeted.refl w⟩
    rcases x with ⟨_ | probe, deferred⟩
    · exact Fits.of_costs pure_within
    · exact admitOne_fits.bind fun _ => Within.ite (fun _ => ih) (fun _ => fun w => Budgeted.refl w)

theorem admitCandidates_minds : Minds Event.any (admitCandidates now : Method τ ρ σ Unit) := by
  intro w
  rw [admitCandidates, ends_bind, ends_scheduler]
  exact admitLoop_minds w

end Admission

/-! ### Emission -/

section Emission

/-- A round of an emission loop: it costs one transition if the loop goes on. -/
def Turns (m : Method τ ρ σ Bool) : Prop :=
  ∀ w, w.report.transitions < maxTransitionsPerDrive →
    Ends m w (fun again w' => Budgeted Event.any w w' ∧
      (again = true → w'.report.transitions ≤ w.report.transitions + 1)) (fun _ w' => Budgeted Event.any w w')

theorem Turns.of_costs {m : Method τ ρ σ Bool} (h : Costs Event.modest 1 m) : Turns m := by
  intro w hleft
  exact (h w).mono (fun _ _ he => ⟨he.spends (by omega), fun _ => he.high⟩) (fun _ _ he => he.spends (by omega))

theorem Turns.first {f : α → Method τ ρ σ Bool} (h : Costs Event.modest 0 m) (hf : ∀ x, Turns (f x)) :
    Turns (m >>= f) := by
  intro w hleft
  refine Ends.bind (h w) (fun x w' hw' => ?_) (fun _ _ he => he.spends (Nat.zero_le _))
  have hfirst : Budgeted Event.any w w' := hw'.spends (Nat.zero_le _)
  have hreport : w'.report.transitions = w.report.transitions := le_antisymm hw'.high hw'.low
  refine (hf x w' (hreport ▸ hleft)).mono (fun _ _ h => ⟨hfirst.trans h.1, ?_⟩) (fun _ _ h => hfirst.trans h)
  exact hreport ▸ h.2

/-- The loop has as many rounds as the budget has transitions left. -/
theorem Turns.loop {g : Nat → Method τ ρ σ Bool} (hg : ∀ i, Turns (g i)) (l : List Nat) :
    Minds Event.any (remaining >>= fun budget => forUntil g (l.take budget)) := by
  intro w
  rw [ends_bind, ends_remaining]
  -- while the loop goes on, every round that is left has a transition left
  refine Ends.forUntil (I := fun l w' => Budgeted Event.any w w' ∧
    l.length ≤ maxTransitionsPerDrive - w'.report.transitions)
    (J := fun w' => Budgeted Event.any w w') ⟨Budgeted.refl w, List.length_take_le ..⟩ ?_ (fun _ h => h.1)
  rintro i rest w1 ⟨hbudgeted, hlength⟩
  rw [List.length_cons] at hlength
  refine (hg i w1 (by omega)).mono (fun again w2 h => ?_) (fun _ _ h => hbudgeted.trans h)
  cases again with
  | false => exact hbudgeted.trans h.1
  | true =>
    have hcost := h.2 rfl
    exact ⟨hbudgeted.trans h.1, by omega⟩

variable {now : Nat}

variable {purpose : EmissionPurpose}

private theorem trackPhysical_costs {wireId : Nat} {physical : ProgrammePhysical} :
    Costs Event.modest 1 (trackPhysical now wireId physical purpose : Method τ ρ σ Bool) := by
  refine scheduler_within.first fun _ => lift_within.first fun _ => ensure_within.first fun _ =>
    revisePhysical_costs.first fun _ => Within.ite (fun _ => ?_) (fun _ => ?_)
  · exact programme_within.first fun _ => ensure_within.first fun _ => Costs.update (fun _ => rfl) fun _ =>
      charge_within.last fun _ => pure_within
  · exact charge_within.last fun _ => pure_within

variable [ProbeTransport τ] [ResultSink σ]

omit [ProbeTransport τ] in
private theorem failTransport_turns {code : Nat} :
    Turns (failTransport now code >>= fun _ => (pure false : Method τ ρ σ Bool)) := by
  intro w _
  refine Ends.bind (failTransport_minds w) (fun _ w' h => ?_) (fun _ _ h => h.mono fun _ _ => rfl)
  exact ⟨h.mono fun _ _ => rfl, fun h => by cases h⟩

theorem emitPhysical_turns {wireId : Nat} : Turns (emitPhysical now wireId : Method τ ρ σ Bool) := by
  refine Turns.first tryTake_costs fun taken => ?_
  cases taken with
  | false => exact Turns.of_costs pure_within
  | true =>
    refine Turns.first physicalAt_within fun physical => ?_
    split
    · refine Turns.first programme_within fun l => Turns.first (reach_within fun _ _ => rfl) fun _ =>
        Turns.first (emit_costs fun _ => rfl) fun answer => ?_
      cases answer with
      | error failure => exact failTransport_turns
      | ok u => exact Turns.of_costs trackPhysical_costs
    · exact Turns.of_costs pure_within

theorem emitProgrammePending_minds : Minds Event.any (emitProgrammePending now : Method τ ρ σ Unit) := by
  intro w
  rw [emitProgrammePending, ends_bind, ends_scheduler]
  exact Turns.loop (fun _ => emitPhysical_turns) _ w

variable {id : Nat}

omit [ProbeTransport τ] in
/-- A reset frame is charged once for the frame and once for the result. -/
private theorem trackSent_fits {active : ActiveProbe} {terminal : Option PendingTerminal} :
    Fits (report >>= fun before => charge 1 1 0 >>= fun _ =>
      (trackSent now id active purpose terminal before : Method τ ρ σ Bool)) := by
  cases terminal with
  | none =>
    refine Fits.of_costs (report_within.first fun _ => charge_within.last fun _ => ?_)
    exact scheduler_within.first fun _ => lift_within.first fun _ => ensure_within.first fun _ =>
      reviseActive_costs.first fun _ => pure_within
  | some terminal =>
    intro w hleft
    rw [ends_bind, ends_report, ends_bind, ends_charge, trackSent, ends_bind, ends_scheduler]
    have hcharged : Effect Event.mild 1 w { w with report :=
        ⟨w.report.transitions + 1, w.report.emissions + 1, w.report.results + 0⟩ } := charge_within w
    refine Ends.bind ((terminalize_within (r := Effect Event.mild) _).and terminalize_charges) (fun _ w1 hw1 => ?_)
      (fun _ w1 hw1 => ?_)
    · have hboth := Effect.graded.trans hcharged hw1.1
      exact Budgeted.of_mark rfl (hboth.still.mono fun _ => Event.modest_of_mild) hw1.2 rfl
    -- a commit that fails is not charged
    · have hboth := Effect.graded.trans hcharged hw1.1
      have hone : Effect Event.mild 1 w w1 := { hboth with high := le_of_eq hw1.2 }
      exact (hone.budgeted (fun _ => Event.modest_of_mild) (by omega)).mono fun _ _ => rfl

theorem emitFrame_fits {active : ActiveProbe} {terminal : Option PendingTerminal} :
    Fits (emitFrame now id active purpose terminal : Method τ ρ σ Bool) := by
  refine Fits.first tryTake_costs fun taken => ?_
  cases taken with
  | false => exact Fits.of_costs pure_within
  | true =>
    refine Fits.first udpVariantOf_within fun variant => Fits.first reviseActive_costs fun _ =>
      Fits.first (emit_costs fun _ => rfl) fun answer => ?_
    cases answer with
    | ok u => exact trackSent_fits
    | error failure =>
      have hstop :
        Minds Event.any (failTransport now failure.code >>= fun _ => (pure false : Method τ ρ σ Bool)) :=
        (failTransport_minds.bind fun _ => Costs.minds pure_within).mono fun _ _ => rfl
      cases terminal with
      | none => exact fun w _ => hstop w
      | some terminal => exact (Fits.of_costs terminalize_within).bind fun _ => hstop

theorem emitActive_minds : Minds Event.any (emitActive now id : Method τ ρ σ Bool) := by
  intro w
  rw [emitActive, ends_bind, ends_remaining, ends_ite]
  refine ⟨fun _ => Budgeted.refl w, fun hleft => ?_⟩
  rw [ends_bind, ends_scheduler]
  split
  · exact Budgeted.refl w
  split
  · exact emitFrame_fits w (by omega)
  · exact emitFrame_fits w (by omega)
  · exact Budgeted.refl w

theorem emitPending_minds : Minds Event.any (emitPending now : Method τ ρ σ Unit) := by
  refine (scheduleProgrammeVariants_minds.mono fun _ _ => rfl).bind fun _ =>
    emitProgrammePending_minds.bind fun _ => ?_
  refine Minds.bind ((Costs.minds scheduler_within).mono fun _ _ => rfl) fun _ => ?_
  refine Minds.bind ((Costs.minds remaining_within).mono fun _ _ => rfl) fun _ => ?_
  exact Minds.forUntil fun _ => emitActive_minds

end Emission

/-! ### The drive -/

theorem nextReady_costs {now : Nat} : Costs Event.mild n (nextReady now : Method τ ρ σ Nat) :=
  scheduler_within.first fun _ => ensure_within.first fun _ => Costs.update (fun _ => rfl) fun _ => lift_within

/-- The report of a drive has the transitions that were charged. -/
theorem makeReport_ends {now : Nat} :
    Ends (makeReport now) w (fun r w' => Effect Event.mild 0 w w' ∧ r.transitions = w'.report.transitions)
      (fun _ w' => Effect Event.mild 0 w w') := by
  rw [makeReport, ends_bind, ends_scheduler, ends_bind, ends_report, ends_ite, ends_ite]
  refine ⟨fun _ => ⟨Effect.graded.refl w, rfl⟩, fun _ => ⟨fun _ => ?_, fun _ => ⟨Effect.graded.refl w, rfl⟩⟩⟩
  refine Ends.seq (nextReady_costs w) (fun ready w' h => ⟨h, ?_⟩)
  exact le_antisymm h.low h.high

section Drive

variable [ProbeTransport τ] [ContextResolver ρ] [ResultSink σ]

variable {now : Nat}

theorem transmit_minds : Minds Event.any (transmit now : Method τ ρ σ Unit) :=
  emitPending_minds.bind fun _ => (whenever_minds admitCandidates_minds).bind fun _ => emitPending_minds

omit [ContextResolver ρ] in
theorem catchUp_minds : Minds Event.any (catchUp now : Method τ ρ σ Unit) := by
  have lift : ∀ {m : Method τ ρ σ Unit}, Minds Event.mild m → Minds Event.any m := fun h => h.mono fun _ _ => rfl
  refine (lift pruneProgrammeGrace_minds).bind fun _ =>
    Minds.bind (lift (Costs.minds (update_costs fun _ => rfl))) fun _ => ?_
  refine (whenever_minds enterPause_minds).bind fun _ => ?_
  refine (lift (whenever_minds (initiateStop_minds (by simp [deadlineStop])))).bind fun _ => ?_
  refine (lift (whenever_minds settleStop_minds)).bind fun _ => ?_
  refine (lift (whenever_minds settleContextInvalidation_minds)).bind fun _ => ?_
  exact lift (whenever_minds processTimeouts_minds)

theorem advance_minds : Minds Event.any (advance now : Method τ ρ σ Unit) :=
  catchUp_minds.bind fun _ => (whenever_minds transmit_minds).bind fun _ => completeIfFinished_minds

theorem drive_ends :
    Ends (drive now) w
      (fun r w' => ∃ w₀ : Session τ ρ σ, w₀.history = w.history ∧ w₀.report.transitions = 0 ∧
        Budgeted Event.any w₀ w' ∧ r.transitions = w'.report.transitions) (fun _ _ => True) := by
  rw [drive, ends_bind, ends_scheduler, ends_ite]
  refine ⟨fun _ => trivial, fun _ => ?_⟩
  simp only [observeNow, pruneGrace, ends_bind, ends_scheduler, ends_ite, ends_fail, ends_update, ends_freshReport,
    implies_true, true_and]
  intro _
  refine (advance_minds _).safe (fun _ w1 h1 => ?_)
  refine makeReport_ends.safe (fun r w2 h2 => ?_)
  have hreport : Budgeted Event.any w1 w2 :=
    (h2.1.budgeted (fun _ => Event.modest_of_mild) (Nat.zero_le _)).mono fun _ _ => rfl
  exact ⟨{ w with scheduler := _, report := {} }, rfl, rfl, h1.trans hreport, h2.2⟩

private theorem drive_within_iff {r : DriveReport} (h : drive now w = .ok r w') :
    r.transitions ≤ maxTransitionsPerDrive ↔ ∀ e ∈ w.added w', e.overcharges = false := by
  obtain ⟨w₀, hhistory, hzero, hbudgeted, htransitions⟩ := drive_ends.of_ok h
  obtain ⟨added, hadded, -⟩ := hbudgeted.history
  rw [hhistory] at hadded
  have hmarks : w'.marks = added.countP Event.overcharges + w₀.marks := by
    rw [Session.marks, Session.marks, hadded, hhistory, List.countP_append]
  have hnone : (∀ e ∈ added, e.overcharges = false) ↔ added.countP Event.overcharges = 0 := by
    simp [List.countP_eq_zero]
  rw [Session.added_eq hadded, hnone, htransitions]
  constructor
  · intro hle
    by_contra hne
    have := hbudgeted.marked (by omega)
    omega
  intro heq
  have := hbudgeted.bounded (by omega)
  omega

/-- A drive stays within its budget of transitions exactly if no pause, no reset frame and no programme without
variants starts with less of the budget left than it charges, in particular if there is none of these. -/
theorem drive_within_budget (now : Nat) {r : DriveReport} (h : drive now w = .ok r w') :
    (r.transitions ≤ maxTransitionsPerDrive ↔ ∀ e ∈ w.added w', e.overcharges = false) ∧
      ((∀ point s before, Event.reached point s before ∈ w.added w' → point.cost = none) →
        r.transitions ≤ maxTransitionsPerDrive) := by
  refine ⟨drive_within_iff h, fun hplain => (drive_within_iff h).2 fun e he => ?_⟩
  cases e with
  | reached point s before => simp [Event.overcharges, hplain point s before he]
  | _ => rfl

end Drive

/-! ### Programmes without variants -/

section Empty

variable {w : ScriptedSession} {Q : α → ScriptedSession → Prop} {E : Fault → ScriptedSession → Prop}

/-- The candidate with this ordinal is for a UDP port without eligible variants. -/
def ScanScheduler.EmptyAt (s : ScanScheduler) (ordinal : Nat) : Prop :=
  ∃ id ∈ s.permutation.permute ordinal, ∃ p ∈ (s.plan.logicalProbeAt id).toOption,
    ∃ programme ∈ s.plan.udpProgrammeFor p, ∃ port ∈ p.port, programme.eligible p.target.address port = []

instance (s : ScanScheduler) (ordinal : Nat) : Decidable (s.EmptyAt ordinal) := by
  unfold ScanScheduler.EmptyAt
  infer_instance

/-- Nothing is admitted, and the candidates that are left have no eligible variants. -/
structure Draining (s : ScanScheduler) (left : Nat) : Prop where
  running : s.lifecycle = .running
  deferred : s.deferred = []
  active : s.active.size = 0
  physical : s.physical.size = 0
  programmes : s.programmes.size = 0
  ready : s.programmeReady = []
  perTarget : s.perTarget.size = 0
  perPrefix : s.perPrefix.size = 0
  room : s.hasRoom = true
  target : 0 < s.config.maxPerTarget
  prefixes : 0 < s.config.maxPerPrefix
  cursor : s.cursor + left = s.plan.logicalProbeCount
  empty : ∀ i, s.cursor ≤ i → i < s.plan.logicalProbeCount → s.EmptyAt i

/-- The resolver knows every context, and the sink takes every result. -/
structure Willing (w : ScriptedSession) (left : Nat) : Prop extends Draining w.scheduler left where
  resolver : w.resolver = {}
  sink : w.sink = {}

variable {now left : Nat}

/-- A candidate without variants is settled at once, for two transitions. -/
private theorem admitOne_empty {p : LogicalProbe} {programme : UdpProbeProgramme} {port : ProbePort}
    (h : Willing w left) (hprogramme : w.scheduler.plan.udpProgrammeFor p = some programme)
    (hport : p.port = some port) (hempty : programme.eligible p.target.address port = []) :
    Ends (admitOne now p) w
      (fun again w' => again = true ∧ Willing w' left ∧ w'.report.transitions = w.report.transitions + 2)
      (fun _ _ => False) := by
  have hcount : programme.variantCountFor p.target.address port = 0 := by
    simp [UdpProbeProgramme.variantCountFor, hempty]
  have hlogical : programme.requiresLogicalProgramme p.target.address port = true := by
    simp [UdpProbeProgramme.requiresLogicalProgramme, hempty]
  obtain ⟨s, r, history, transport, resolver, sink⟩ := w
  obtain rfl : resolver = {} := h.resolver
  obtain rfl : sink = {} := h.sink
  have hfresh := get?_of_size_eq_zero h.programmes p.logicalId
  have htarget : 0 < s.config.maxPerTarget := h.target
  have hprefixes : 0 < s.config.maxPerPrefix := h.prefixes
  have htally : tally s.perTarget p.target = 0 := by
    rw [tally, get?_of_size_eq_zero h.perTarget]
    rfl
  have htally' : tally s.perPrefix (PrefixKey.defaultFor p.target) = 0 := by
    rw [tally, get?_of_size_eq_zero h.perPrefix]
    rfl
  have hvalid : validNeighborSetup p none = true := by
    unfold validNeighborSetup
    cases p.target.address <;> rfl
  rw [admitOne, ends_bind, ends_scheduler, ends_ite]
  dsimp only
  refine ⟨fun h => by omega, fun _ => ?_⟩
  rw [ends_bind]
  refine Iff.mpr (ends_of_ok (a := .ok (.ready ⟨1, PrefixKey.defaultFor p.target, none⟩)) rfl) ?_
  simp only [admitReady, udpShapeOf, ends_bind, ends_scheduler, hvalid, hprogramme, hport, hcount, hlogical,
    ends_ite, htally', expect, ends_pure]
  refine ⟨by simp, fun _ => ⟨fun h => by omega, fun _ => ?_⟩⟩
  rw [admitProgramme, ends_bind]
  refine Iff.mpr (ends_of_ok (a := .ok .reserved) rfl) ?_
  simp only [ends_bind, ends_scheduler, ends_report, ends_update, ends_ite, contains, hfresh, openProgramme,
    settleProgramme, ends_reach, ends_programme]
  refine ⟨by simp, fun _ => ⟨fun _ => ⟨fun l hl => ?_, fun h => ?_⟩, by simp⟩⟩
  · refine Iff.mpr (ends_of_ok rfl) ?_
    rw [pruneAdaptiveTargetState_eq _ l.probe.target]
    have herase := size_erase hl
    have hroom := hasRoom_iff.1 h.room
    have hprogrammes := h.programmes
    simp only [setProgramme, size_insert _ hfresh, hprogrammes] at herase
    refine ⟨rfl, { h with programmes := ?_, room := ?_ }, rfl⟩
    · simp only [setProgramme]
      omega
    · rw [hasRoom_iff]
      simp only [setProgramme] at hroom ⊢
      omega
  · simp [setProgramme] at h

/-- The loop settles all candidates that are left, also with the last transition of the budget. -/
private theorem admitLoop_draining {fuel : Nat} (h : Willing w left)
    (hbudget : w.report.transitions + 2 * left ≤ maxTransitionsPerDrive + 1) (hfuel : left ≤ fuel) :
    Ends (admitLoop now fuel 0) w (fun _ w' => Willing w' 0 ∧
      w'.report.transitions = w.report.transitions + 2 * left) (fun _ _ => False) := by
  induction left generalizing w fuel with
  | zero =>
    cases fuel with
    | zero => exact ⟨h, rfl⟩
    | succ fuel =>
      have hcursor : w.scheduler.cursor ≥ w.scheduler.plan.logicalProbeCount := le_of_eq h.cursor.symm
      simp only [admitLoop, nextCandidate, ends_bind, ends_scheduler, ends_remaining, hcursor, ends_ite, ends_pure,
        true_implies, not_true, false_implies, and_true]
      exact ⟨fun _ => ⟨by simp, fun _ => ⟨h, rfl⟩⟩, fun _ => ⟨h, rfl⟩⟩
  | succ left ih =>
    obtain ⟨fuel, rfl⟩ : ∃ n, fuel = n + 1 := ⟨fuel - 1, by omega⟩
    have hcursor := h.cursor
    obtain ⟨id, hid, p, hp, programme, hprogramme, port, hport, hempty⟩ :=
      h.empty w.scheduler.cursor (le_refl _) (by omega)
    replace hp : w.scheduler.plan.logicalProbeAt id = .ok p := toOption_eq_some_iff.1 hp
    have hbefore : ¬ w.scheduler.cursor ≥ w.scheduler.plan.logicalProbeCount := by omega
    have hleft : maxTransitionsPerDrive - w.report.transitions ≠ 0 := by omega
    simp only [admitLoop, nextCandidate, ends_bind, ends_scheduler, ends_remaining, h.room, hbefore, hleft,
      ends_ite, ends_ensure_some hid, ends_update, hp, ends_pure, gt_iff_lt, lt_irrefl, ne_eq, not_true,
      not_false_iff, true_implies, false_implies, and_true, true_and]
    have hnext : Willing { w with scheduler := { w.scheduler with cursor := w.scheduler.cursor + 1 } } left :=
      { h with
        cursor := by simp only; omega
        empty := fun i hi hlt => h.empty i (by simp only at hi; omega) hlt }
    refine (admitOne_empty hnext hprogramme hport hempty).imp ?_
    rintro again w1 ⟨rfl, h1, htransitions⟩
    refine ⟨fun _ => ?_, by simp⟩
    simp only at htransitions
    refine (ih h1 (by omega) (by omega)).imp (fun _ w2 h2 => ⟨h2.1, ?_⟩)
    have := h2.2
    omega

private theorem ends_emitPending_idle {Q : Unit → ScriptedSession → Prop} (h : Willing w left) :
    Ends (emitPending now) w Q E ↔ Q () w := by
  have hphysical : w.scheduler.physical.entries = [] := List.eq_nil_of_length_eq_zero h.physical
  have hactive : w.scheduler.active.entries = [] := List.eq_nil_of_length_eq_zero h.active
  have hloop : ∀ fuel (Q : Unit → ScriptedSession → Prop), Ends (scheduleLoop now fuel 0) w Q E ↔ Q () w := by
    intro fuel Q
    cases fuel with
    | zero => exact Iff.rfl
    | succ fuel => simp [scheduleLoop]
  simp only [emitPending, scheduleProgrammeVariants, emitProgrammePending, ends_bind, ends_scheduler,
    ends_remaining, h.ready, List.length_nil, hloop, keysWhere, hphysical, hactive, List.filter_nil, List.map_nil,
    List.take_nil, forUntil, ends_pure]

private theorem transmit_draining (h : Willing w left) (hwaiting : w.scheduler.contextWaiting = false)
    (hbudget : w.report.transitions + 2 * left ≤ maxTransitionsPerDrive + 1) :
    Ends (transmit now) w (fun _ w' => Willing w' 0 ∧
      w'.report.transitions = w.report.transitions + 2 * left) (fun _ _ => False) := by
  rw [transmit, ends_bind, ends_emitPending_idle h, ends_bind, ends_whenever]
  refine ⟨fun _ => ?_, fun hw => by simp [hwaiting] at hw⟩
  rw [admitCandidates, ends_bind, ends_scheduler, h.deferred]
  refine (admitLoop_draining h hbudget (by omega)).imp (fun _ w1 h1 => ?_)
  rw [ends_emitPending_idle h1.1]
  exact h1

/-- A drive from the transmission on. -/
private def finale (now : Nat) : Method ScriptedTransport ScriptedResolver ScriptedSink DriveReport := do
  whenever (fun s => s.lifecycle == .running) (transmit now)
  completeIfFinished
  makeReport now

private theorem drive_draining {w1 : ScriptedSession}
    (hlifecycle : ¬ (w.scheduler.lifecycle = .created ∨ w.scheduler.lifecycle = .closed))
    (hprepared : prepare now w = .ok () w1) (h : Willing w1 left) (hwaiting : w1.scheduler.contextWaiting = false)
    (hbudget : w1.report.transitions + 2 * left ≤ maxTransitionsPerDrive + 1) :
    ∃ r w', drive now w = .ok r w' ∧ r.transitions = w1.report.transitions + 2 * left := by
  have hends : Ends (drive now) w (fun r _ => r.transitions = w1.report.transitions + 2 * left)
    (fun _ _ => False) := by
    have hfinish : Ends (finale now) w1 (fun r _ => r.transitions = w1.report.transitions + 2 * left)
        (fun _ _ => False) := by
      rw [finale, ends_bind, ends_whenever]
      refine ⟨fun _ => ?_, fun hr => by simp [h.running] at hr⟩
      refine (transmit_draining h hwaiting hbudget).imp (fun _ w2 h2 => ?_)
      -- everything is settled, so the session is completed and the report needs no token
      have hdone := h2.1
      have hcursor : w2.scheduler.cursor = w2.scheduler.plan.logicalProbeCount := hdone.cursor
      rw [ends_bind, completeIfFinished, ends_whenever]
      refine ⟨fun _ => ?_, fun hopen => ?_⟩
      · rw [ends_update, makeReport, ends_bind, ends_scheduler, ends_bind, ends_report, ends_ite]
        exact ⟨fun _ => h2.2, fun hopen => by simp [isTerminal] at hopen⟩
      · simp [hdone.running, hdone.deferred, hdone.active, hdone.programmes, hdone.physical, hcursor] at hopen
    have hdrive : Ends (prepare now >>= fun _ => finale now) w
        (fun r _ => r.transitions = w1.report.transitions + 2 * left) (fun _ _ => False) := by
      rw [ends_bind]
      exact (ends_of_ok hprepared).2 hfinish
    rw [drive, ends_bind, ends_scheduler, ends_ite]
    refine ⟨fun hl => absurd hl hlifecycle, fun _ => ?_⟩
    simpa only [prepare, finale, advance, ends_bind] using hdrive
  cases hm : drive now w with
  | ok r w' => exact ⟨r, w', rfl, hends.of_ok hm⟩
  | error e w' => exact (hends.of_error hm).elim

/-- A scan of a UDP port of 2048 hosts, for which there are no variants, and of one host with a variant; the seed
puts that one first. -/
def manyHosts : ScanInputs where
  targets := [.range ⟨⟨.v4 0x0a000000, none⟩, ⟨.v4 0x0a0007ff, none⟩⟩, .address ⟨.v6 1, none⟩]
  definitions := [udpScan [dnsPort] [] [⟨none, 0, 10, none, .anyPort⟩] .exhaustive]
  config := { SchedulerConfig.sample with burst := 1, maxOutstanding := 1, maxPerTarget := 1, maxPerPrefix := 1 }
  seed := .explicit 2951

/-- The probe of the last host was sent, and is about to time out. -/
def manyHostsSession : ScriptedSession := (manyHosts.session.get (by decide +kernel)).after [.start 0, .drive 1]

/-- The same scan of two hosts without variants. -/
def fewHosts : ScanInputs :=
  { manyHosts with targets := [.range ⟨⟨.v4 0x0a000000, none⟩, ⟨.v4 0x0a000001, none⟩⟩, .address ⟨.v6 1, none⟩] }

def fewHostsSession : ScriptedSession := (fewHosts.session.get (by decide +kernel)).after [.start 0, .drive 1]

theorem drive_within_budget_fewHosts :
    (fewHostsSession.added (perform (.drive 2000000) fewHostsSession)).any
      (fun e => e matches .reached (.emptyProgramme _) _ _) = true ∧
    ∃ r, drive 2000000 fewHostsSession = .ok r (perform (.drive 2000000) fewHostsSession) ∧
      r.transitions ≤ maxTransitionsPerDrive := by
  have hmodest : ∀ e ∈ fewHostsSession.added (perform (.drive 2000000) fewHostsSession),
    e.overcharges = false := by
    decide +kernel
  have hdrive : ∃ r, drive 2000000 fewHostsSession = .ok r (perform (.drive 2000000) fewHostsSession) :=
    drive_of_succeeds (by decide +kernel)
  obtain ⟨r, hdrive⟩ := hdrive
  exact ⟨by decide +kernel, r, hdrive, (drive_within_budget 2000000 hdrive).1.2 hmodest⟩

/-- The probe has timed out, for one transition. -/
private def manyHostsDue : ScriptedSession := endState (prepare 2000000) manyHostsSession

private theorem manyHosts_idle : Willing manyHostsDue 2048 := by
  have hcount : manyHostsDue.scheduler.plan.logicalProbeCount = 2049 := by decide +kernel
  have hcursor : manyHostsDue.scheduler.cursor = 1 := by decide +kernel
  have hall : ∀ i < 2049, 1 ≤ i → manyHostsDue.scheduler.EmptyAt i := by decide +kernel
  refine ⟨⟨?_, ?_, ?_, ?_, ?_, ?_, ?_, ?_, ?_, ?_, ?_, ?_, fun i hi hlt => hall i (hcount ▸ hlt) (hcursor ▸ hi)⟩,
    ?_, ?_⟩ <;> decide +kernel

/-- The drive makes 4097 transitions: one for the timeout, and two for each host without variants. -/
theorem drive_over_budget : Reachable manyHostsSession ∧ manyHostsSession.scheduler.lifecycle = .running ∧
    ∃ r w', drive 2000000 manyHostsSession = .ok r w' ∧ maxTransitionsPerDrive < r.transitions := by
  have htransitions : manyHostsDue.report.transitions = 1 := by decide +kernel
  have hrunning : manyHostsSession.scheduler.lifecycle = .running := by decide +kernel
  have hprepared : prepare 2000000 manyHostsSession = .ok () manyHostsDue := eq_ok_endState _ _ (by decide +kernel)
  obtain ⟨r, w', hdrive, hr⟩ := drive_draining (by simp [hrunning]) hprepared manyHosts_idle
    (by decide +kernel) (by rw [htransitions]; decide)
  refine ⟨ScanInputs.reachable _ _, hrunning, r, w', hdrive, ?_⟩
  rw [hr, htransitions]
  decide

end Empty

end NodeNet.Engine
