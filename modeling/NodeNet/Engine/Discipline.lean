import NodeNet.Engine.Emissions
import NodeNet.Engine.Reservations

/-!
# Transmission discipline

Every operation is rationed, so what holds of one operation holds of a whole run: the frames in a window of time
are paid for with tokens (`Session.Paced`), and the frames of one probe or wire id are those that its stages allow
(`attempts_le`).  Together with the reservations of the sink this is the discipline of a session
(`transmissions_disciplined`).  What waits after a run waits since a frame of the run (`deadlines_between`).

Two frames escape the count of their stage.  A frame whose deadline would lie beyond the clock is handed to the
transport first and fails afterwards, and a reset frame whose result the sink refuses leaves its probe where it
was; both are pending again in the next drive.
-/

namespace NodeNet.Engine

open List ScanScheduler

variable {τ ρ σ : Type} {now : Nat} {w w1 w2 : Session τ ρ σ}

/-! ### Admission -/

section Admission

variable {context : ResolvedContext} {p : LogicalProbe}

/-- A plain probe for which the sink has reserved a place may send what any probe may. -/
private theorem Rationed.reserve {a : ActiveProbe}
    (hhead : w.history.head? = some (.resolve p (.ok (.ready context)))) {purpose : EmissionPurpose}
    (hmeasured : ∀ limit, a.stage.Measured limit a.stageTransmissions) (hstage : a.stage = .pending purpose)
    (hscheduler : w1.scheduler = w.scheduler.setActive p.logicalId a)
    (hhistory : w1.history = .tryReserve (.ok .reserved) :: w.history) : Rationed now w w1 := by
  intro ho
  refine ⟨by rw [hscheduler]; rfl, ?_, by rw [hscheduler]; exact id, by rw [hhistory]; exact suffix_cons .., ?_,
    Or.inl ⟨by rw [hscheduler]; rfl, by rw [hhistory]; exact frames_cons_of_not rfl⟩, ?_, fun x hx => ?_,
    fun _ key kind => ?_⟩
  · rw [hscheduler]
    exact ho.setActive (hmeasured _)
  · rw [hscheduler]
    rfl
  · rw [hhistory, hscheduler, frames_cons_of_not rfl]
    exact le_refl _
  · rw [hscheduler] at hx
    rcases waits_setActive hx with hx | ⟨-, hwaiting, -⟩
    · exact Or.inl hx
    · cases hstage.symm.trans hwaiting
  have hsent : sent key kind w1.history = sent key kind w.history := by
    rw [hhistory]
    exact sent_cons_of_not rfl
  have hrefusals : refusals key w1.history = refusals key w.history := by
    rw [hhistory]
    exact successions_cons_of_not _ rfl
  rw [hsent, hrefusals, hscheduler]
  -- the reservation pays for everything that the new stage allows
  have hreserved : reservations key w.history + (if key = p.logicalId then 1 else 0) ≤
    reservations key w1.history := by
    rw [hhistory]
    split_ifs with hkey
    · exact (successions_cons rfl hhead (by simp [Event.readies, hkey])).ge
    · exact successions_le_cons ..
  have hadded : (w.scheduler.setActive p.logicalId a).allowance key kind ≤ w.scheduler.allowance key kind +
      (if key = p.logicalId then kind.full w.scheduler.config.maxRetransmissions else 0) := by
    have hfull := ActiveStage.left_le_full w.scheduler.config.maxRetransmissions a.stageTransmissions a.stage kind
    have hwire : (w.scheduler.setActive p.logicalId a).wireLeft key kind = w.scheduler.wireLeft key kind := rfl
    have hsame : (w.scheduler.setActive p.logicalId a).lifecycle = w.scheduler.lifecycle := rfl
    rw [allowance, allowance, plainLeft_setActive, hwire, hsame]
    split_ifs <;> omega
  have hmul := Nat.mul_le_mul_right (kind.full w.scheduler.config.maxRetransmissions) hreserved
  rw [Nat.add_mul] at hmul
  split at hadded
  · next hkey =>
    rw [if_pos hkey, Nat.one_mul] at hmul
    omega
  · omega

variable {t : Nat}

private theorem udpShapeOf_ends {probe : LogicalProbe} :
    Ends (udpShapeOf probe : Method τ ρ σ (Option (Nat × Nat × Bool))) w (fun _ w' => w' = w)
    (fun _ w' => w' = w) := by
  rw [udpShapeOf, ends_bind, ends_scheduler]
  split
  · exact ends_pure.2 rfl
  · rw [ends_bind, ends_expect]
    exact ⟨fun _ _ => ends_pure.2 rfl, fun _ => rfl⟩

variable [ResultSink σ]

theorem admitPlain_rations (hhead : w.history.head? = some (.resolve p (.ok (.ready context)))) :
    RationsFrom now w w (admitPlain p context) := by
  rw [RationsFrom, admitPlain, ends_bind]
  refine ends_tryReserve fun answer sink => ?_
  have hasked : Rationed now w { w with sink := sink, history := .tryReserve answer :: w.history } :=
    .event rfl rfl rfl
  cases answer with
  | error failure => exact Ends.rationed hasked (requeueFront_within.first fun _ => fail_within)
  | ok reservation =>
    cases reservation with
    | saturated =>
      exact Ends.rationed hasked (update_first (fun _ => rfl) fun _ => charge_last)
    | reserved =>
      dsimp only
      rw [ends_bind, ends_scheduler, ends_bind, ends_update]
      have hpurpose : (context.neighborSetup.map EmissionPurpose.neighborSetup).getD .probe ≠
        .tcpResetCleanup := by
        cases context.neighborSetup <;> simp
      have hadmitted : Rationed now w { w with
          scheduler := w.scheduler.setActive p.logicalId
            ⟨p, context, .pending ((context.neighborSetup.map EmissionPurpose.neighborSetup).getD .probe),
              0, 0, none⟩
          sink := sink
          history := .tryReserve (.ok .reserved) :: w.history } :=
        Rationed.reserve (a := ⟨p, context, .pending _, 0, 0, none⟩) hhead (fun limit =>
          ⟨hpurpose, Nat.zero_le _⟩) rfl rfl rfl
      refine Ends.rationed hadmitted (Within.ite (fun _ => fail_within) (fun _ => ?_))
      exact update_first (fun _ => rfl) fun _ => charge_last

theorem openProgramme_rations {id variantCount : Nat} {s : ScanScheduler} {before : MutableReport} :
    Rations now (openProgramme id t variantCount s before : Method τ ρ σ Bool) := by
  refine Within.ite (fun _ => ?_) (fun _ => update_first (fun _ => rfl) fun _ => charge_last)
  exact (rations_of settleProgramme_within).first fun _ => update_first (fun _ => rfl) fun _ =>
    charge_rations.first fun _ =>
    (record_rations rfl).first fun _ => pure_within

theorem admitProgramme_rations {variantCount bytes : Nat} :
    Rations now (admitProgramme t p context variantCount bytes : Method τ ρ σ Bool) := by
  refine tryReserveWithBytes_within.first fun answer => ?_
  cases answer with
  | error failure => exact fail_within
  | ok reservation =>
    cases reservation with
    | saturated => exact update_first (fun _ => rfl) fun _ => charge_last
    | reserved =>
      refine scheduler_within.first fun _ => report_within.first fun _ => update_first (fun _ => rfl) fun _ => ?_
      exact Within.ite (fun _ => fail_within) (fun _ => openProgramme_rations)

theorem admitReady_rations (hhead : w.history.head? = some (.resolve p (.ok (.ready context)))) :
    RationsFrom now w w (admitReady t p context) := by
  rw [RationsFrom, admitReady, ends_bind, ends_scheduler, ends_ite, ends_ite]
  refine ⟨fun _ => (requeueFront_within.first fun _ => fail_within) w, fun _ =>
    ⟨fun _ => (defer_within.first fun _ => charge_last) w, fun _ => ?_⟩⟩
  refine Ends.bind udpShapeOf_ends ?_ (fun _ w' h => by rw [h]; exact Rationed.refl w)
  rintro shape w' rfl
  split
  · exact admitProgramme_rations w'
  · exact admitPlain_rations hhead

variable [ContextResolver ρ]

theorem admitOne_rations : Rations now (admitOne t p : Method τ ρ σ Bool) := by
  refine scheduler_within.first fun s => Within.ite
    (fun _ => defer_within.first fun _ => charge_last) (fun _ w => ?_)
  rw [ends_bind]
  refine ends_resolve fun answer resolver => ?_
  have hasked : Rationed now w { w with resolver := resolver, history := .resolve p answer :: w.history } :=
    .event rfl rfl rfl
  cases answer with
  | error failure => exact Ends.rationed hasked (requeueFront_within.first fun _ => fail_within)
  | ok resolution =>
    cases resolution with
    | pending =>
      exact Ends.rationed hasked (update_first (fun _ => rfl) fun _ => charge_last)
    | invalidated generation =>
      exact Ends.rationed hasked (update_first (fun _ => rfl) fun _ => diagnose_within.first fun _ => charge_last)
    | ready context =>
      exact (admitReady_rations rfl).mono (fun _ _ h => hasked.trans h) (fun _ _ h => hasked.trans h)

theorem admitLoop_rations {left deferredRemaining : Nat} :
    Rations now (admitLoop t left deferredRemaining : Method τ ρ σ Unit) := by
  induction left generalizing deferredRemaining with
  | zero => exact pure_within
  | succ left ih =>
    refine scheduler_within.first fun _ => remaining_within.first fun _ =>
      Within.ite (fun _ => nextCandidate_within.first fun x => ?_) (fun _ => pure_within)
    rcases x with ⟨_ | probe, deferred⟩
    · exact pure_within
    · exact admitOne_rations.first fun again => Within.ite (fun _ => ih) (fun _ => pure_within)

theorem admitCandidates_rations : Rations now (admitCandidates t : Method τ ρ σ Unit) :=
  scheduler_within.first fun _ => admitLoop_rations

end Admission

/-! ### Evidence -/

section Evidence

theorem concludeEvidence_rations {id : Nat} {adaptiveStop decisive : Bool} :
    Rations now (concludeEvidence id adaptiveStop decisive : Method τ ρ σ Unit) :=
  Within.ite (fun _ => reviseProgramme_within) (fun _ => Within.ite (fun _ => finishProgrammeCorrelations_within)
    (fun _ => pure_within))

variable {event : EvidenceEvent} {t : Nat}

variable {deadline : Nat}

theorem handleSetupEvidence_rations {p q : ProgrammePhysical} {setup : ProbeFamily}
    (request : w.scheduler.physical.get? event.probeId = some p)
    (hstage : p.stage = .waiting (.neighborSetup setup) deadline) :
    RationsFrom now w w (handleSetupEvidence event q setup) := by
  rw [RationsFrom, handleSetupEvidence, ends_ite]
  refine ⟨fun _ => diagnose_within w, fun _ => ?_⟩
  rw [ends_bind, ends_revisePhysical, found_iff request]
  refine Ends.rationed (Rationed.of_thinner (fun ho => .setPhysical ho request ?_) rfl)
    (reviseProgramme_within.first fun _ => update_rations fun s ho => ?_)
  · rw [hstage]
    exact ActiveStage.shrinks_resolved
  · split <;> exact .of_same ho rfl

theorem noteIcmp_rations {id : Nat} : Rations now (noteIcmp id : Method τ ρ σ Unit) :=
  programme_within.first fun _ => update_within_of_same fun _ => rfl

variable [ResultSink σ]

theorem handleGraceEvidence_rations {grace : ProgrammeGrace} :
    Rations now (handleGraceEvidence t event grace : Method τ ρ σ Unit) := by
  refine diagnose_within.first fun _ => Within.ite (fun _ => ?_) (fun _ => ?_)
  · split
    · exact programmeStrategy_within.first fun _ => Within.ite (fun _ => reviseProgramme_within)
        (fun _ => pure_within)
    · exact diagnose_within
  split
  · refine programmeStrategy_within.first fun _ => reviseProgramme_within.first fun _ =>
      concludeEvidence_rations.first fun _ => Within.ite (fun _ => ?_) (fun _ => pure_within)
    exact freshReport_rations.first fun _ => settleReadyProgrammes_rations
  · exact Within.ite (fun _ => diagnose_within) (fun _ => pure_within)

theorem handleExpiredEvidence_rations : Rations now (handleExpiredEvidence t event : Method τ ρ σ Unit) := by
  refine freshReport_rations.first fun _ => (rations_of timeoutProgrammeOne_within).first fun _ =>
    diagnose_within.first fun _ =>
    scheduler_within.first fun s => ?_
  split
  · exact pure_within
  split
  · exact pure_within
  · exact programmeStrategy_within.first fun _ => reviseProgramme_within.first fun _ =>
      concludeEvidence_rations.first fun _ => Within.ite (fun _ => settleReadyProgrammes_rations)
        (fun _ => pure_within)

theorem handleActiveEvidence_rations {p : ProgrammePhysical} :
    Rations now (handleActiveEvidence t event p : Method τ ρ σ Unit) := by
  refine Within.ite (fun _ => ?_) (fun _ => ?_)
  · split
    · exact diagnose_within
    refine programmeStrategy_within.first fun _ => Within.first
      (Within.ite (fun _ => reviseProgramme_within) (fun _ => pure_within)) fun _ => ?_
    exact freshReport_rations.first fun _ => (rations_of retirePhysical_within).first fun _ =>
      settleReadyProgrammes_rations
  split
  · exact Within.ite (fun _ => diagnose_within) (fun _ => pure_within)
  refine programmeStrategy_within.first fun _ => Within.first
    (Within.ite (fun _ => noteIcmp_rations) (fun _ => pure_within)) fun _ => ?_
  exact reviseProgramme_within.first fun _ => freshReport_rations.first fun _ =>
    (rations_of retirePhysical_within).first fun _ =>
    concludeEvidence_rations.first fun _ => settleReadyProgrammes_rations

theorem handleProgrammeEvidence_rations : Rations now (handleProgrammeEvidence t event : Method τ ρ σ Unit) := by
  intro w
  rw [handleProgrammeEvidence, ends_bind, ends_scheduler]
  split
  · exact handleGraceEvidence_rations w
  rw [ends_bind, ends_physicalAt]
  refine ⟨fun p hp => ?_, fun _ => Rationed.refl w⟩
  cases hstage : p.stage with
  | waiting purpose deadline =>
    dsimp only
    rw [ends_ite]
    refine ⟨fun _ => handleExpiredEvidence_rations w, fun _ => ?_⟩
    cases purpose with
    | neighborSetup setup => exact handleSetupEvidence_rations hp hstage
    | probe | tcpResetCleanup => exact handleActiveEvidence_rations w
  | pending purpose | pendingCleanup terminal => exact diagnose_within w

variable {a : ActiveProbe} {purpose : EmissionPurpose}

theorem settleInvalidatedEvent_rations : Rations now (settleInvalidatedEvent t event : Method τ ρ σ Bool) := by
  refine scheduler_within.first fun _ => Within.ite (fun _ => ?_) (fun _ => pure_within)
  exact freshReport_rations.first fun _ => settleContextInvalidation_rations.first fun _ =>
    scheduler_within.first fun _ => pure_within

private theorem beginStop_rations {stop : StopState} (hfinal : stop.finalLifecycle.live = false) : Rations now (do
      initiateStop stop
      freshReport
      settleStop t : Method τ ρ σ Unit) :=
  (initiateStop_rations hfinal).first fun _ => freshReport_rations.first fun _ => settleStop_rations

variable [ProbeTransport τ]

/-- A classified answer runs the emission queue at most for a reset frame. -/
theorem concludeProbe_rations {terminal : PendingTerminal} (hi : w.Inv) (hstop : w.scheduler.stop = none)
    (held : w.scheduler.active.get? event.probeId = some a) (hstage : a.stage = .waiting purpose deadline) :
    RationsFrom now w w (concludeProbe now event a terminal) := by
  rw [RationsFrom, concludeProbe, ends_bind, ends_scheduler, ends_ite]
  refine ⟨fun _ => ?_, fun _ => (rations_of terminalize_within) w⟩
  have hrestaged : RationsFrom now w w (reviseActive event.probeId fun active =>
      { active with stage := .pendingCleanup terminal, stageTransmissions := 0 }) := by
    rw [RationsFrom, ends_reviseActive, found_iff held]
    refine Rationed.of_thinner (fun ho => .setActive ho held ?_) rfl
    rw [hstage]
    exact ActiveStage.shrinks_cleanup
  refine Ends.rationed_bind hi (Walks.reviseActive held rfl rfl rfl) hrestaged fun _ w1 hi1 hw1 => ?_
  have hi2 : Inv (Session.core { w1 with
      report := {}
      history := .reached (.resetCleanup event.probeId now) w1.scheduler w1.report :: w1.history } none) :=
    (Step.called rfl).inv hi1
  have hmarked : Rationed now w1 { w1 with
      report := {}
      history := .reached (.resetCleanup event.probeId now) w1.scheduler w1.report :: w1.history } :=
    .event rfl rfl rfl
  rw [RationsFrom, ends_bind, ends_reach, ends_bind, ends_freshReport]
  refine (emitPending_rations hi2 (Or.inr ⟨?_, ?_⟩)).mono (fun _ _ h => hmarked.trans h) (fun _ _ h =>
    hmarked.trans h)
  · rw [hw1]
    exact hstop
  cases hfilter : w1.scheduler.invalidatingGeneration with
  | none => exact Or.inl rfl
  | some filter => exact Or.inr ⟨_, mem_cons_self .., by simp [Event.breaches, hfilter]⟩

theorem handleProbeEvidence_rations (hi : w.Inv) (hstop : w.scheduler.stop = none)
    (held : w.scheduler.active.get? event.probeId = some a) (hstage : a.stage = .waiting purpose deadline) :
    RationsFrom now w w (handleProbeEvidence now event a) := by
  unfold handleProbeEvidence
  cases classifyTerminal a.probe event with
  | error e => exact diagnose_within w
  | ok terminal =>
    refine Ends.rationed_bind (Q := fun _ w' => w'.scheduler.stop = none ∧
        w'.scheduler.active.get? event.probeId = some a) hi (Walks.update_last (Step.quiet ..) ⟨hstop, held⟩)
      (update_rations (fun s ho => by exact .of_same ho rfl) w) fun _ w1 hi1 ⟨hstop1, held1⟩ => ?_
    exact Ends.seq (concludeProbe_rations hi1 hstop1 held1 hstage) (fun _ w' h =>
      Ends.rationed h completeIfFinished_rations)

theorem handleWaitingEvidence_rations (hi : w.Inv) (hstop : w.scheduler.stop = none)
    (held : w.scheduler.active.get? event.probeId = some a) (hstage : a.stage = .waiting purpose deadline) :
    RationsFrom now w w (handleWaitingEvidence now event a purpose deadline) := by
  unfold RationsFrom handleWaitingEvidence
  rw [ends_ite]
  refine ⟨fun _ => (freshReport_rations.first fun _ => (rations_of timeoutOne_within).first fun _ =>
    diagnose_within) w, fun _ => ?_⟩
  cases purpose with
  | neighborSetup setup =>
    dsimp only
    rw [ends_ite, ends_reviseActive, found_iff held]
    refine ⟨fun _ => diagnose_within w, fun _ => ?_⟩
    refine Rationed.of_thinner (fun ho => .setActive ho held ?_) rfl
    rw [hstage]
    exact ActiveStage.shrinks_resolved
  | probe | tcpResetCleanup => exact handleProbeEvidence_rations hi hstop held hstage

theorem handleCorrelatedEvidence_rations (hi : w.Inv) (hstop : w.scheduler.stop = none) :
    RationsFrom now w w (handleCorrelatedEvidence now event) := by
  rw [RationsFrom, handleCorrelatedEvidence, ends_bind, ends_scheduler, ends_ite, ends_ite]
  refine ⟨fun _ => (reach_rations.first fun _ => handleProgrammeEvidence_rations.first fun _ =>
    completeIfFinished_rations) w, fun _ => ⟨fun _ => diagnose_within w, fun _ => ?_⟩⟩
  cases held : w.scheduler.active.get? event.probeId with
  | none => exact diagnose_within w
  | some a =>
    dsimp only
    cases hstage : a.stage with
    | waiting purpose deadline => exact handleWaitingEvidence_rations hi hstop held hstage
    | pending purpose | pendingCleanup terminal => exact diagnose_within w

theorem handleEvidence_rations (hi : w.Inv) : RationsFrom now w w (handleEvidence now event) := by
  refine Ends.rationed_bind hi observeNow_walks (observeNow_rations w) fun _ w1 hi1 _ => ?_
  refine Ends.rationed_bind hi1 pruneGrace_walks (pruneGrace_rations w1) fun _ w2 hi2 _ => ?_
  refine Ends.rationed_bind hi2 (Q := fun _ _ => True) ⟨Path.refl, trivial⟩ (freshReport_rations w2)
    fun _ w3 hi3 _ => ?_
  refine Ends.rationed_bind hi3 (pruneProgrammeGrace_walks hi3) (pruneProgrammeGrace_rations w3)
    fun _ w4 hi4 _ => ?_
  refine Ends.rationed_bind hi4 (Q := fun _ _ => True) (Walks.whenever (fun hdue => beginStop_walks hi4
    (hi4.live_of_due hdue) deadlineStop_proper) (fun _ => trivial)) (whenever_rations (beginStop_rations rfl) w4)
    fun _ w5 hi5 _ => ?_
  rw [RationsFrom, ends_bind, ends_scheduler, ends_ite]
  refine ⟨fun _ => diagnose_within w5, fun hstop => ?_⟩
  refine Ends.rationed_bind hi5 (settleInvalidatedEvent_walks hi5) (settleInvalidatedEvent_rations w5)
    fun discarded w6 hi6 h => ?_
  rw [RationsFrom, ends_ite]
  exact ⟨fun _ => diagnose_within w6, fun _ =>
    handleCorrelatedEvidence_rations hi6 (h.1.trans (Option.not_isSome_iff_eq_none.1 hstop))⟩

end Evidence

/-! ### Drive -/

theorem makeReport_rations : Rations now (makeReport now : Method τ ρ σ DriveReport) := by
  refine scheduler_within.first fun _ => report_within.first fun _ =>
    Within.ite (fun _ => pure_within) (fun _ => ?_)
  exact Within.ite (fun _ => nextReady_rations.first fun _ => pure_within) (fun _ => pure_within)

theorem enterPause_rations :
    Rations now (whenever (fun s => s.lifecycle == .pausing) enterPause : Method τ ρ σ Unit) := by
  intro w
  rw [ends_whenever]
  refine ⟨fun hpausing => ?_, fun _ => Rationed.refl w⟩
  rw [enterPause, ends_bind, ends_report, ends_bind, ends_scheduler, ends_bind, ends_update]
  refine Ends.rationed (Rationed.of_thinner (fun ho => ?_) rfl) (charge_rations.first fun _ => record_rations rfl)
  refine .move ho (fun _ => ?_) (by simp) ho.stop
  rw [beq_iff_eq.1 hpausing]
  rfl

section Drive

variable [ProbeTransport τ] [ContextResolver ρ] [ResultSink σ]

theorem transmit_rations (hi : w.Inv) (alive : w.scheduler.lifecycle ≠ .closed) (hopen : w.Open) :
    RationsFrom now w w (transmit now) := by
  refine Ends.rationed_bind hi ((emitPending_walks hi hopen).alive hi alive) (emitPending_rations hi hopen)
    fun _ w1 hi1 ⟨alive1, hopen1⟩ => ?_
  refine Ends.rationed_bind hi1 (Walks.whenever (fun _ => admitCandidates_walks hi1 alive1 hopen1)
    (fun _ => hopen1)) (whenever_rations admitCandidates_rations w1) fun _ w2 hi2 hopen2 => ?_
  exact emitPending_rations hi2 hopen2

omit [ContextResolver ρ] in
theorem catchUp_rations {t : Nat} : Rations now (catchUp t : Method τ ρ σ Unit) :=
  pruneProgrammeGrace_rations.first fun _ => update_first (fun _ => rfl) fun _ => enterPause_rations.first fun _ =>
    (whenever_rations (initiateStop_rations rfl)).first fun _ =>
      (whenever_rations settleStop_rations).first fun _ =>
    (whenever_rations settleContextInvalidation_rations).first fun _ =>
      whenever_rations (processTimeouts_within fun _ _ _ h => h)

theorem advance_rations (hi : w.Inv) : RationsFrom now w w (advance now) := by
  refine Ends.rationed_bind hi (catchUp_walks hi) (catchUp_rations w) fun _ w1 hi1 hopen => ?_
  refine Ends.seq ?_ (fun _ w' h => Ends.rationed h completeIfFinished_rations)
  rw [ends_whenever]
  refine ⟨fun hr => ?_, fun _ => Rationed.refl w1⟩
  rw [beq_iff_eq] at hr
  exact transmit_rations hi1 (by simp [hr]) (hopen hr)

theorem drive_rations (hi : w.Inv) : RationsFrom now w w (drive now) := by
  rw [RationsFrom, drive, ends_bind, ends_scheduler, ends_ite]
  refine ⟨fun _ => Rationed.refl w, fun _ => ?_⟩
  refine Ends.rationed_bind hi observeNow_walks (observeNow_rations w) fun _ w1 hi1 _ => ?_
  refine Ends.rationed_bind hi1 pruneGrace_walks (pruneGrace_rations w1) fun _ w2 hi2 _ => ?_
  refine Ends.rationed_bind hi2 (Q := fun _ _ => True) ⟨Path.refl, trivial⟩ (freshReport_rations w2)
    fun _ w3 hi3 _ => ?_
  exact Ends.seq (advance_rations hi3) (fun _ w' h => Ends.rationed h makeReport_rations)

end Drive

/-! ### Operations -/

private theorem turn_rations {present next : SessionLifecycle} {e : EngineError}
    (hlive : next.live = true → present.live = true) (hnext : next ≠ .created) : Rations now (do
      let s ← scheduler
      if s.lifecycle ≠ present then fail e else update fun s => { s with lifecycle := next } :
        Method τ ρ σ Unit) := by
  intro w
  rw [ends_bind, ends_scheduler, ends_ite]
  refine ⟨fun _ => fail_within w, fun hnow => Rationed.of_thinner (fun ho => .move ho ?_ hnext ho.stop) rfl⟩
  rwa [not_not.1 hnow]

theorem requestPause_rations : Rations now (requestPause : Method τ ρ σ Unit) :=
    turn_rations (fun _ => rfl) (by simp)

theorem resume_rations : Rations now (resume : Method τ ρ σ Unit) := turn_rations (fun _ => rfl) (by simp)

theorem contextRestored_rations : Rations now (contextRestored : Method τ ρ σ Unit) :=
  whenever_rations (update_within_of_same fun _ => rfl)

theorem recordDiagnostic_rations {kind : DiagnosticKind} :
    Rations now (recordDiagnostic kind : Method τ ρ σ Unit) := diagnose_within

section Stops

variable [ResultSink σ]

variable {t : Nat}

theorem invalidateContext_rations {generation : Option Nat} :
    Rations now (invalidateContext t generation : Method τ ρ σ Unit) :=
  observeNow_rations.first fun _ => update_first (fun _ => rfl) fun _ => diagnose_within.first fun _ =>
    scheduler_within.first fun _ => Within.ite (fun _ => fail_within) fun _ =>
    (update_rations fun _ ho => by exact .of_same ho rfl).first fun _ => freshReport_rations.first fun _ =>
    settleContextInvalidation_rations

theorem cancel_rations : Rations now (cancel t : Method τ ρ σ Unit) :=
  scheduler_within.first fun _ => Within.ite
    (fun _ => observeNow_rations.first fun _ => beginStop_rations rfl) (fun _ => fail_within)

theorem transportFailed_rations {code : Nat} : Rations now (transportFailed t code : Method τ ρ σ Unit) :=
  scheduler_within.first fun _ => Within.ite (fun _ => pure_within) fun _ => observeNow_rations.first fun _ =>
    freshReport_rations.first fun _ => failTransport_rations

theorem contextFailed_rations : Rations now (contextFailed t : Method τ ρ σ Unit) :=
  scheduler_within.first fun _ => Within.ite (fun _ => pure_within) fun _ => observeNow_rations.first fun _ =>
    beginStop_rations rfl

theorem close_rations : Rations now (close : Method τ ρ σ Unit) :=
  scheduler_within.first fun _ => Within.ite (fun _ => pure_within) fun _ => releaseReserved_within.first fun _ =>
    ensure_within.first fun _ => releaseReservedWithBytes_within.first fun _ =>
    update_rations fun _ ho => .disposed ho

end Stops

/-- The bucket is filled when a session starts, and nothing is sent. -/
structure Begun (now : Nat) (w w' : Session τ ρ σ) : Prop where
  history : w'.history = w.history
  config : w'.scheduler.config = w.scheduler.config
  orderly : w.scheduler.Orderly → w'.scheduler.Orderly
  allowance : w'.scheduler.allowance = w.scheduler.allowance
  waits : ∀ x, w'.scheduler.Waits x → w.scheduler.Waits x
  bucket : (w'.scheduler.bucket = w.scheduler.bucket ∧ w'.scheduler.lifecycle = w.scheduler.lifecycle) ∨
    (w.scheduler.lifecycle = .created ∧ w'.scheduler.lifecycle = .running ∧
      w'.scheduler.pace = some (w.scheduler.config.ratePerSecond, w.scheduler.config.burst * tokenScale))

theorem start_ends : Ends (start now : Method τ ρ σ Unit) w (fun _ w' => Begun now w w')
    (fun _ w' => Begun now w w') := by
  have hnothing : ∀ lastNow sessionDeadline, Begun now w { w with
      scheduler := { w.scheduler with
        lastNow := lastNow
        sessionDeadline := sessionDeadline } } := fun _ _ =>
    ⟨rfl, rfl, fun ho => ⟨ho.config, ho.stop, ho.active, ho.physical⟩, rfl, fun _ h => h, Or.inl ⟨rfl, rfl⟩⟩
  rw [start, ends_bind, ends_scheduler, ends_ite]
  refine ⟨fun _ => hnothing _ _, fun hcreated => ?_⟩
  rw [observeNow, ends_bind, ends_bind, ends_scheduler, ends_ite]
  refine ⟨fun _ => hnothing _ _, fun _ => ?_⟩
  rw [ends_update, ends_bind, ends_ensure]
  refine ⟨fun deadline _ => ?_, fun _ => hnothing _ _⟩
  rw [ends_bind, ends_update]
  cases hnew : TokenBucket.new w.scheduler.config.ratePerSecond w.scheduler.config.burst now with
  | error e => exact hnothing _ _
  | ok bucket =>
    dsimp only
    rw [ends_update]
    refine ⟨rfl, rfl, fun ho => ⟨ho.config, ho.stop, ho.active, ho.physical⟩, ?_, fun _ h => h,
      Or.inr ⟨not_not.1 hcreated, rfl, ?_⟩⟩
    · funext key kind
      rw [allowance_of_live rfl, allowance_of_live (by rw [not_not.1 hcreated]; rfl)]
      rfl
    simp only [TokenBucket.new, ite_error_eq_ok] at hnew
    obtain ⟨-, -, hnew⟩ := hnew
    cases hnew
    rfl

section Runs

/-! ### Windows -/

def Event.frame : Event → Option ProbeEmission
  | emit emission _ => some emission
  | _ => none

theorem frames_append (added history : List Event) :
    frames (added ++ history) = (added.filterMap Event.frame).length + frames history := by
  induction added with
  | nil => simp
  | cons e added ih =>
    cases e with
    | emit emission answer =>
      have hframe : Event.frame (.emit emission answer) = some emission := rfl
      rw [cons_append, frames_emit, ih, filterMap_cons_some hframe, length_cons]
      omega
    | _ =>
      rw [cons_append, frames_cons_of_not rfl, ih, filterMap_cons_none rfl]

/-- The bucket of a session has the rate and the capacity of its configuration, and there is none before the start.
-/
structure Stocked (config : SchedulerConfig) (w : Session τ ρ σ) : Prop where
  same : w.scheduler.config = config
  orderly : w.scheduler.Orderly
  created : w.scheduler.lifecycle = .created → w.scheduler.pace = none
  pace : ∀ pace, w.scheduler.pace = some pace → pace = (config.ratePerSecond, config.burst * tokenScale)

variable {config : SchedulerConfig} {a b n m : Nat}

theorem Stocked.spares (hs : Stocked config w) {debt : Nat → FrameKind → Nat} (h : Spares now debt w w1) :
    Stocked config w1 where
  same := h.config.trans hs.same
  orderly := h.orderly
  created hcreated := h.pace.trans (hs.created (h.created hcreated))
  pace pace hpace := hs.pace pace (h.pace ▸ hpace)

theorem Stocked.begun (hs : Stocked config w) (h : Begun now w w1) : Stocked config w1 := by
  refine ⟨h.config.trans hs.same, h.orderly hs.orderly, fun hcreated => ?_, fun pace hpace => ?_⟩
  · rcases h.bucket with ⟨hbucket, hlifecycle⟩ | ⟨-, hrunning, -⟩
    · rw [ScanScheduler.pace, hbucket]
      exact hs.created (hlifecycle ▸ hcreated)
    · rw [hrunning] at hcreated
      cases hcreated
  rcases h.bucket with ⟨hbucket, -⟩ | ⟨-, -, hfilled⟩
  · rw [ScanScheduler.pace, hbucket] at hpace
    exact hs.pace pace hpace
  · rw [hfilled, hs.same] at hpace
    exact (Option.some.inj hpace).symm

/-- So many frames were sent between `a` and `b`: no more than the window allows, and from the last refill on the
tokens that are left count as well. -/
def Session.Paced (config : SchedulerConfig) (a b n : Nat) (w : Session τ ρ σ) : Prop :=
  n * tokenScale ≤ config.burst * tokenScale + (b - a) * config.ratePerSecond ∧
    (n = 0 ∨ ∃ bucket, w.scheduler.bucket = some bucket ∧ a ≤ bucket.lastRefill ∧
      ∀ t, bucket.lastRefill ≤ t → t ≤ b →
        n * tokenScale + bucket.level t ≤ config.burst * tokenScale + (t - a) * config.ratePerSecond)

/-- A start fills the bucket before the first frame. -/
theorem Session.Paced.begun (hs : Stocked config w) (hp : w.Paced config a b n) (h : Begun now w w1) :
    w1.Paced config a b n := by
  refine ⟨hp.1, ?_⟩
  rcases hp.2 with hzero | ⟨bucket, hbucket, hwindow⟩
  · exact Or.inl hzero
  rcases h.bucket with ⟨hsame, -⟩ | ⟨hcreated, -⟩
  · exact Or.inr ⟨bucket, hsame.trans hbucket, hwindow⟩
  have hnone := hs.created hcreated
  rw [pace, hbucket] at hnone
  cases hnone

/-- An operation at `now` that sends `m` frames takes `m` tokens, and a bucket fills no faster than its rate. -/
theorem Session.Paced.spares (hs : Stocked config w) (hp : w.Paced config a b n) {debt : Nat → FrameKind → Nat}
    (h : Spares now debt w w1) (hm : frames w1.history = frames w.history + m) :
    w1.Paced config a b (n + if a ≤ now ∧ now ≤ b then m else 0) := by
  rcases h.filled with ⟨hbucket, hframes⟩ | ⟨⟨bucket, hbucket, hby⟩, bucket1, hbucket1, hat⟩
  · have hnone : m = 0 := by omega
    rw [hnone, ite_self, Nat.add_zero]
    exact ⟨hp.1, hp.2.imp_right fun ⟨bucket, hb, hwindow⟩ => ⟨bucket, hbucket.trans hb, hwindow⟩⟩
  have hpace := hs.pace (bucket.ratePerSecond, bucket.capacityScaled) (by rw [pace, hbucket]; rfl)
  have hpace1 := (hs.spares h).pace (bucket1.ratePerSecond, bucket1.capacityScaled) (by rw [pace, hbucket1]; rfl)
  simp only [Prod.mk.injEq] at hpace hpace1
  have htaken : m * tokenScale + bucket1.level now ≤ bucket.level now := by
    have htokens := h.tokens
    simp only [tokens, hbucket, hbucket1, hm, Nat.add_mul] at htokens
    omega
  have hcapacity : bucket.level now ≤ config.burst * tokenScale := by
    rw [← hpace.2]
    exact bucket.level_le_capacity now
  by_cases hin : a ≤ now ∧ now ≤ b
  · rw [if_pos hin]
    -- at `now`, the frames of the window and the tokens left are within bounds
    have hnow : n * tokenScale + bucket.level now ≤ config.burst * tokenScale +
      (now - a) * config.ratePerSecond := by
      rcases hp.2 with rfl | ⟨bucket', hb, -, hwindow⟩
      · rw [Nat.zero_mul, Nat.zero_add]
        exact le_trans hcapacity (Nat.le_add_right ..)
      · obtain rfl := Option.some.inj (hbucket.symm.trans hb)
        exact hwindow now hby hin.2
    have hlater : ∀ t, now ≤ t → (n + m) * tokenScale + bucket1.level t ≤
        config.burst * tokenScale + (t - a) * config.ratePerSecond := by
      intro t ht
      have hfill := bucket1.level_le_add ht
      have hsplit : (t - a) * config.ratePerSecond =
          (now - a) * config.ratePerSecond + (t - now) * config.ratePerSecond := by
        rw [← Nat.add_mul]
        congr 1
        omega
      rw [hpace1.1] at hfill
      rw [Nat.add_mul, hsplit]
      omega
    refine ⟨?_, Or.inr ⟨bucket1, hbucket1, hat ▸ hin.1, fun t ht _ => hlater t (hat ▸ ht)⟩⟩
    have hend := hlater b hin.2
    omega
  rw [if_neg hin, Nat.add_zero]
  refine ⟨hp.1, ?_⟩
  rcases hp.2 with hzero | ⟨bucket', hb, hfrom, -⟩
  · exact Or.inl hzero
  -- the window is over
  obtain rfl := Option.some.inj (hbucket.symm.trans hb)
  refine Or.inr ⟨bucket1, hbucket1, by omega, fun t ht hle => ?_⟩
  exact absurd ⟨le_trans hfrom hby, by omega⟩ hin

def inWindow (a b : Nat) (entry : Nat × ProbeEmission) : Bool := decide (a ≤ entry.1 ∧ entry.1 ≤ b)

private theorem countP_inWindow (emissions : List ProbeEmission) :
    (emissions.reverse.map (Prod.mk now)).countP (inWindow a b) =
      if a ≤ now ∧ now ≤ b then emissions.length else 0 := by
  have hconst : inWindow a b ∘ Prod.mk now = fun _ : ProbeEmission => decide (a ≤ now ∧ now ≤ b) := rfl
  rw [countP_map, hconst]
  by_cases hin : a ≤ now ∧ now ≤ b
  · simp [hin]
  · rw [if_neg hin, countP_eq_zero]
    simp [hin]

private theorem misfits_append {added history : List Event}
    (hfits : ∀ emission ∈ added.filterMap Event.frame, config.fits now emission.purpose = true) :
    misfits config now (added ++ history) = misfits config now history := by
  have hnone : added.countP (Event.misfits config now) = 0 := by
    rw [countP_eq_zero]
    intro e he
    cases e with
    | emit emission answer =>
      have hfit := hfits emission (mem_filterMap.2 ⟨_, he, rfl⟩)
      simp [Event.misfits, hfit]
    | _ => simp [Event.misfits]
  rw [misfits, misfits, countP_append, hnone, Nat.zero_add]

theorem Initial.stocked (h : Initial w) : Stocked w.scheduler.config w := by
  obtain ⟨plan, config, permutation, hvalid, -, hscheduler⟩ := h.fresh
  refine ⟨rfl, ?_, fun _ => ?_, fun pace hpace => ?_⟩
  · rw [hscheduler]
    exact ⟨hvalid, fun _ h => (by cases h), fun h => (by cases h), fun h => (by cases h)⟩
  · rw [hscheduler]
    rfl
  · rw [hscheduler] at hpace
    cases hpace

/-- Before the start, frames are allowed for the wire ids only, all of which are still to be given out. -/
theorem Initial.allowance (h : Initial w) (key : Nat) (kind : FrameKind) :
    w.scheduler.allowance key kind =
      if w.scheduler.plan.logicalProbeCount ≤ key then kind.full w.scheduler.config.maxRetransmissions else 0 := by
  obtain ⟨plan, config, permutation, -, -, hscheduler⟩ := h.fresh
  rw [hscheduler, allowance_of_live rfl]
  exact Nat.zero_add _

variable [ProbeTransport τ] [ContextResolver ρ] [ResultSink σ]

/-! ### The timeline -/

/-- What the clock shows in an operation; the operations without a clock do not send anything. -/
def Op.clock : Op → Nat
  | start now => now
  | drive now => now
  | handleEvidence now _ => now
  | invalidateContext now _ => now
  | cancel now => now
  | transportFailed now _ => now
  | contextFailed now => now
  | requestPause | resume | contextRestored | recordDiagnostic _ | close => 0

theorem Op.begins_or_rations (op : Op) (hi : w.Inv) :
    Begun op.clock w (perform op w) ∨ Rationed op.clock w (perform op w) := by
  have hends : Ends op.method w
      (fun _ w' => Begun op.clock w w' ∨ Rationed op.clock w w')
      (fun _ w' => Begun op.clock w w' ∨ Rationed op.clock w w') := by
    have hrations : ∀ {m : Method τ ρ σ Unit} {now : Nat},
        RationsFrom now w w m →
        Ends m w (fun _ w' => Begun now w w' ∨ Rationed now w w') (fun _ w' => Begun now w w' ∨
          Rationed now w w') :=
      fun h => h.mono (fun _ _ h => Or.inr h) (fun _ _ h => Or.inr h)
    cases op with
    | start now => exact start_ends.mono (fun _ _ h => Or.inl h) (fun _ _ h => Or.inl h)
    | requestPause => exact hrations (requestPause_rations w)
    | resume => exact hrations (resume_rations w)
    | contextRestored => exact hrations (contextRestored_rations w)
    | drive now =>
      unfold Op.method
      rw [ends_map]
      exact (drive_rations hi).mono (fun _ _ h => Or.inr h) (fun _ _ h => Or.inr h)
    | handleEvidence now event => exact hrations (handleEvidence_rations hi)
    | recordDiagnostic kind => exact hrations (recordDiagnostic_rations w)
    | invalidateContext now generation => exact hrations (invalidateContext_rations w)
    | cancel now => exact hrations (cancel_rations w)
    | transportFailed now code => exact hrations (transportFailed_rations w)
    | contextFailed now => exact hrations (contextFailed_rations w)
    | close => exact hrations (close_rations w)
  exact Ends.perform hends

/-- The frames that a list of operations hands to the transport, each with the time of its operation. -/
def Session.timeline (w : Session τ ρ σ) : List Op → List (Nat × ProbeEmission)
  | [] => []
  | op :: ops =>
    ((w.added (perform op w)).filterMap Event.frame).reverse.map (Prod.mk op.clock) ++ (perform op w).timeline ops

/-- In any window of time, a run sends no more frames than the bucket holds and the rate adds. -/
theorem timeline_paced (ops : List Op) (hi : w.Inv) (hs : Stocked config w) (hp : w.Paced config a b n) :
    (n + (w.timeline ops).countP (inWindow a b)) * tokenScale ≤
      config.burst * tokenScale + (b - a) * config.ratePerSecond := by
  induction ops generalizing w n with
  | nil => exact hp.1
  | cons op ops ih =>
    rw [Session.timeline, countP_append, countP_inWindow, ← Nat.add_assoc]
    rcases op.begins_or_rations hi with hbegun | hrationed
    · have hnothing : w.added (perform op w) = [] := Session.added_eq hbegun.history
      rw [hnothing, filterMap_nil, length_nil, ite_self, Nat.add_zero]
      exact ih (hi.perform op) (hs.begun hbegun) (hp.begun hs hbegun)
    have hspares := hrationed hs.orderly
    obtain ⟨added, hadded⟩ := hspares.history
    have hframes : frames (perform op w).history =
        frames w.history + ((w.added (perform op w)).filterMap Event.frame).length := by
      rw [Session.added_eq hadded.symm, ← hadded, frames_append]
      omega
    exact ih (hi.perform op) (hs.spares hspares) (hp.spares hs hspares hframes)

/-! ### Attempts -/

/-- If every frame has a deadline on the clock, what was sent and what may still be sent do not grow together,
except by reservations and by refused results. -/
theorem attempts_le (ops : List Op) (hi : w.Inv) (ho : w.scheduler.Orderly)
    (hfits : ∀ entry ∈ w.timeline ops, w.scheduler.config.fits entry.1 entry.2.purpose = true) (key : Nat)
    (kind : FrameKind) :
    sent key kind (w.after ops).history + (w.after ops).scheduler.allowance key kind +
        reservations key w.history * kind.full w.scheduler.config.maxRetransmissions + refusals key w.history ≤
      sent key kind w.history + w.scheduler.allowance key kind +
        reservations key (w.after ops).history * kind.full w.scheduler.config.maxRetransmissions +
        refusals key (w.after ops).history := by
  induction ops generalizing w with
  | nil => exact le_refl _
  | cons op ops ih =>
    rw [Session.timeline] at hfits
    have hlater : ∀ entry ∈ (perform op w).timeline ops, w.scheduler.config.fits entry.1 entry.2.purpose = true :=
      fun entry hentry => hfits entry (mem_append_right _ hentry)
    rw [Session.after]
    rcases op.begins_or_rations hi with hbegun | hrationed
    · have hrest := ih (hi.perform op) (hbegun.orderly ho) (by rw [hbegun.config]; exact hlater)
      rw [hbegun.history, hbegun.config, hbegun.allowance] at hrest
      exact hrest
    have hspares := hrationed ho
    have hrest := ih (hi.perform op) hspares.orderly (by rw [hspares.config]; exact hlater)
    obtain ⟨added, hadded⟩ := hspares.history
    have hfirst := hspares.allowance ?_ key kind
    · rw [hspares.config] at hrest
      omega
    rw [← hadded]
    refine misfits_append fun emission hemission => hfits (op.clock, emission) (mem_append_left _ ?_)
    rw [Session.added_eq hadded.symm]
    exact mem_map.2 ⟨emission, mem_reverse.2 hemission, rfl⟩

/-! ### The discipline of a run -/

theorem Session.after_plan (ops : List Op) (hi : w.Inv) : (w.after ops).scheduler.plan = w.scheduler.plan := by
  induction ops generalizing w with
  | nil => rfl
  | cons op ops ih =>
    have hsame : (perform op w).scheduler.plan = w.scheduler.plan :=
      perform_invariant (I := fun c => c.scheduler.plan = w.scheduler.plan) op hi rfl
        fun _ _ _ _ hplan hs => hs.frame.1.trans hplan
    rw [Session.after, ih (hi.perform op), hsame]

/-- The discipline of every run.  A frame is sent only for a probe for which the sink has reserved a place and
whose result it has not got yet, and the frames in a window of time are paid for by the burst and the rate.  If
moreover every frame has a deadline on the clock and no result that a reset frame leads to is refused, each probe
and each wire id sends at most one frame more than the retries, in either stage, and at most one reset frame. -/
theorem transmissions_disciplined (h₀ : Initial w) (ops : List Op) :
    (∀ newer emission answer older, (w.after ops).history = newer ++ .emit emission answer :: older →
      0 < reservations emission.probe.logicalId older ∧ emission.probe.logicalId ∉ committed older) ∧
    (∀ a b, (w.timeline ops).countP (inWindow a b) ≤
      w.scheduler.config.burst + w.scheduler.config.ratePerSecond * (b - a) / 1000000) ∧
    ((∀ entry ∈ w.timeline ops, w.scheduler.config.fits entry.1 entry.2.purpose = true) →
      (∀ id, refusals id (w.after ops).history = 0) → ∀ key,
        sent key .setup (w.after ops).history ≤ w.scheduler.config.maxRetransmissions + 1 ∧
        sent key .probe (w.after ops).history ≤ w.scheduler.config.maxRetransmissions + 1 ∧
        sent key .cleanup (w.after ops).history ≤ 1) := by
  have hreach : Reachable (w.after ops) := h₀.reachable_after ops
  refine ⟨fun newer emission answer older hsplit => ?_, fun a b => ?_, fun hfits hrefused key => ?_⟩
  · obtain ⟨hreserved, huncommitted⟩ := hreach.reserved.2 newer emission answer older hsplit
    exact ⟨by omega, huncommitted⟩
  · have hstart : w.Paced w.scheduler.config a b 0 := ⟨by rw [Nat.zero_mul]; exact Nat.zero_le _, Or.inl rfl⟩
    have hpaced := timeline_paced ops h₀.inv h₀.stocked hstart
    rw [Nat.zero_add, Nat.mul_comm (b - a)] at hpaced
    have hscale : 0 < tokenScale := by decide
    have hdivided := Nat.div_le_div_right (c := tokenScale) hpaced
    rw [Nat.mul_div_cancel _ hscale, Nat.add_comm, Nat.add_mul_div_right _ _ hscale, Nat.add_comm] at hdivided
    exact hdivided
  have hbound : ∀ kind, sent key kind (w.after ops).history ≤ kind.full w.scheduler.config.maxRetransmissions := by
    intro kind
    have hle := attempts_le ops h₀.inv h₀.stocked.orderly hfits key kind
    have hplan : (w.after ops).scheduler.plan = w.scheduler.plan := w.after_plan ops h₀.inv
    obtain ⟨hone, hoff⟩ := hreach.reservations_le key
    rw [hplan] at hoff
    rw [h₀.history, h₀.allowance, hrefused key] at hle
    -- a plain probe has at most one reservation, and a wire id none
    have hshare : (if w.scheduler.plan.logicalProbeCount ≤ key then kind.full w.scheduler.config.maxRetransmissions
        else 0) + reservations key (w.after ops).history * kind.full w.scheduler.config.maxRetransmissions ≤
          kind.full w.scheduler.config.maxRetransmissions := by
      by_cases hkey : w.scheduler.plan.logicalProbeCount ≤ key
      · rw [if_pos hkey, hoff hkey, Nat.zero_mul]
        exact le_refl _
      · rw [if_neg hkey, Nat.zero_add]
        exact (Nat.mul_le_mul_right _ hone).trans (Nat.one_mul _).le
    have hnothing : sent key kind [] = 0 := rfl
    omega
  exact ⟨hbound .setup, hbound .probe, hbound .cleanup⟩

end Runs

/-! ### Retries, and frames that escape the count -/

/-- A scan of a TCP port of a host with one retry. -/
def retriedPort : ScanInputs := { onePort with config := { SchedulerConfig.sample with maxRetransmissions := 1 } }

def retriedPortSession : ScriptedSession := retriedPort.session.get (by decide +kernel)

/-- The probe is sent, sent again after a second, and times out. -/
def retriedPortOps : List Op := [.start 0, .drive 1, .drive 1000001, .drive 3000001]

theorem transmissions_disciplined_retriedPort :
    sent 0 .probe (retriedPortSession.after retriedPortOps).history = 2 ∧
    (retriedPortSession.timeline retriedPortOps).map Prod.fst = [1, 1000001] ∧
    sent 0 .probe (retriedPortSession.after retriedPortOps).history ≤
      retriedPortSession.scheduler.config.maxRetransmissions + 1 ∧
    (retriedPortSession.timeline retriedPortOps).countP (inWindow 0 1000001) ≤
      retriedPortSession.scheduler.config.burst +
        retriedPortSession.scheduler.config.ratePerSecond * (1000001 - 0) / 1000000 := by
  have hfits : ∀ entry ∈ retriedPortSession.timeline retriedPortOps,
      retriedPortSession.scheduler.config.fits entry.1 entry.2.purpose = true := by decide +kernel
  have hnone : ∀ e ∈ (retriedPortSession.after retriedPortOps).history, e.declines = false := by decide +kernel
  have hdisciplined := transmissions_disciplined (w := retriedPortSession) (ScanInputs.initial _) retriedPortOps
  exact ⟨by decide +kernel, by decide +kernel,
    (hdisciplined.2.2 hfits (fun id => successions_eq_zero hnone) 0).2.1, hdisciplined.2.1 0 1000001⟩

/-- A scan without retries and with a session deadline of a millisecond. -/
def latePort : ScanInputs :=
  { retriedPort with config := { SchedulerConfig.sample with sessionDeadline := 1000 } }

def latePortSession : ScriptedSession := latePort.session.get (by decide +kernel)

/-- The session starts two milliseconds before the clock ends, and is driven twice. -/
def latePortOps : List Op := [.start (u64Max - 2000), .drive (u64Max - 1900), .drive (u64Max - 1800)]

/-- A scan of a TCP port that is reset after its answer, with a sink that refuses its first result. -/
def resetPort : ScanInputs :=
  { retriedPort with
    config := { SchedulerConfig.sample with tcpResetCleanup := true }
    sink := { commit := ⟨[.error ⟨7⟩], .ok ()⟩ } }

def resetPortSession : ScriptedSession := resetPort.session.get (by decide +kernel)

/-- The probe is answered, and the session is driven once more. -/
def resetPortOps : List Op :=
  [.start 0, .drive 1, .handleEvidence 2 ⟨0, .tcpSynAcknowledgment, .strongTcpSequence32, none, none⟩, .drive 3]

/-- Without any retry, a probe whose timeout is not on the clock any more is sent in each of two drives, which fail
afterwards.  A reset frame whose result the sink refuses is sent again as well. -/
theorem frames_sent_twice :
    (Initial latePortSession ∧ latePortSession.scheduler.config.maxRetransmissions = 0 ∧
      sent 0 .probe (latePortSession.after latePortOps).history = 2) ∧
    Initial resetPortSession ∧ sent 0 .cleanup (resetPortSession.after resetPortOps).history = 2 :=
  ⟨⟨ScanInputs.initial _, by decide +kernel, by decide +kernel⟩, ScanInputs.initial _, by decide +kernel⟩

/-! ### Deadlines -/

private theorem Session.Sends.mem_added {e : ProbeEmission} (h : w.Sends w1 e) :
    e ∈ (w.added w1).filterMap Event.frame := by
  obtain ⟨answer, newer, older, hsplit, added, rfl⟩ := h
  have hadded : w.added w1 = newer ++ .emit e answer :: added := Session.added_eq (by rw [hsplit]; simp)
  rw [hadded]
  exact mem_filterMap.2 ⟨.emit e answer, by simp, rfl⟩

variable [ProbeTransport τ] [ContextResolver ρ] [ResultSink σ]

/-- What is waited for after a run was waited for before, or is waited for since a frame of the run. -/
theorem timeline_waits (ops : List Op) (hi : w.Inv) (ho : w.scheduler.Orderly) {x : Wait}
    (hx : (w.after ops).scheduler.Waits x) :
    w.scheduler.Waits x ∨ ∃ entry ∈ w.timeline ops, entry.2.Starts w.scheduler.config entry.1 x := by
  induction ops generalizing w with
  | nil => exact Or.inl hx
  | cons op ops ih =>
    rw [Session.timeline]
    rcases op.begins_or_rations hi with hbegun | hrationed
    · rcases ih (hi.perform op) (hbegun.orderly ho) hx with hx | ⟨entry, hentry, hstarts⟩
      · exact Or.inl (hbegun.waits x hx)
      · exact Or.inr ⟨entry, mem_append_right _ hentry, hbegun.config ▸ hstarts⟩
    have hspares := hrationed ho
    rcases ih (hi.perform op) hspares.orderly hx with hx | ⟨entry, hentry, hstarts⟩
    · refine (hspares.waits x hx).imp_right fun ⟨e, hsends, hstarts⟩ => ⟨(op.clock, e), ?_, hstarts⟩
      exact mem_append_left _ (mem_map.2 ⟨e, mem_reverse.2 hsends.mem_added, rfl⟩)
    · exact Or.inr ⟨entry, mem_append_right _ hentry, hspares.config ▸ hstarts⟩

/-- Every probe and every request that waits after a run does so since a frame of the run. -/
theorem Initial.waits (h₀ : Initial w) (ops : List Op) {x : Wait} (hx : (w.after ops).scheduler.Waits x) :
    ∃ entry ∈ w.timeline ops, entry.2.Starts w.scheduler.config entry.1 x := by
  refine (timeline_waits ops h₀.inv h₀.stocked.orderly hx).resolve_left fun hbefore => ?_
  obtain ⟨plan, config, permutation, -, -, hscheduler⟩ := h₀.fresh
  rw [hscheduler] at hbefore
  rcases hbefore with ⟨_, h, -⟩ | ⟨_, h, -⟩ <;> cases h

/-- Once something is measured, the estimate is between the least and the greatest sample.  The timeouts are
between the limits of the configuration and do not shrink with the transmissions made, and whatever waits after a
run waits for such a time since a frame of its own. -/
theorem deadlines_between :
    (∀ (samples : List Nat) (low high : Nat), high < 2 ^ 60 →
      (∀ sample ∈ samples, sample ≠ 0 → low ≤ sample ∧ sample ≤ high) →
        (samples.foldl RttEstimator.observe {}).Between low high ∧
          ((samples.foldl RttEstimator.observe {}).smoothed.isSome = true ↔ ∃ sample ∈ samples, sample ≠ 0)) ∧
    ∀ w : Session τ ρ σ, Initial w → w.scheduler.config.maximumTimeout ≤ u64Max →
      (∀ s : ScanScheduler, s.config = w.scheduler.config → ∃ timeout : Nat → Nat, Monotone timeout ∧ ∀ n,
        s.timeoutFor n = .ok (timeout n) ∧ s.config.minimumTimeout ≤ timeout n ∧
          timeout n ≤ s.config.maximumTimeout) ∧
      ∀ ops x, (w.after ops).scheduler.Waits x → ∃ entry ∈ w.timeline ops,
        entry.2.Starts w.scheduler.config entry.1 x ∧ entry.1 + w.scheduler.config.minimumTimeout ≤ x.deadline ∧
          x.deadline ≤ entry.1 + w.scheduler.config.maximumTimeout := by
  refine ⟨fun samples low high hhigh hsamples => ⟨.foldl hhigh hsamples,
    (RttEstimator.isSome_smoothed_foldl {} samples).trans (by simp)⟩, fun w h₀ hwidth => ?_⟩
  have htimeouts : ∀ s : ScanScheduler, s.config = w.scheduler.config → ∃ timeout : Nat → Nat, Monotone timeout ∧
      ∀ n, s.timeoutFor n = .ok (timeout n) ∧ s.config.minimumTimeout ≤ timeout n ∧
        timeout n ≤ s.config.maximumTimeout := by
    intro s hs
    obtain ⟨timeout, hmono, htimeout⟩ := exists_timeoutFor (hs ▸ h₀.stocked.orderly.config)
    exact ⟨timeout, hmono, fun n => ⟨(htimeout n).1, (htimeout n).2.2 (hs ▸ hwidth), (htimeout n).2.1⟩⟩
  refine ⟨htimeouts, fun ops x hx => ?_⟩
  obtain ⟨entry, hentry, hstarts⟩ := h₀.waits ops hx
  refine ⟨entry, hentry, hstarts, ?_⟩
  obtain ⟨s, span, hs, hspan, hdeadline⟩ := hstarts.deadline
  obtain ⟨timeout, -, htimeout⟩ := htimeouts s hs
  obtain ⟨hfor, hlow, hhigh⟩ := htimeout (x.transmissions - 1)
  obtain rfl := Except.ok.inj (hspan.symm.trans hfor)
  rw [hs] at hlow hhigh
  omega

/-- A scan of a TCP port of a host with one retry and timeouts of half a second up to four. -/
def patientPort : ScanInputs :=
  { onePort with
    config := { SchedulerConfig.sample with
      maxRetransmissions := 1
      minimumTimeout := 500000
      maximumTimeout := 4000000
      timingMode := .adaptive } }

def patientPortSession : ScriptedSession := patientPort.session.get (by decide +kernel)

def patientPortOps : List Op := [.start 0, .drive 1, .drive 1000001]

/-- Three samples, and a probe that waits twice as long after its second frame. -/
theorem deadlines_between_patientPort :
    (∃ value ∈ (List.foldl RttEstimator.observe {} [3000, 0, 5000]).smoothed, 3000 ≤ value ∧ value ≤ 5000) ∧
    (patientPortSession.after patientPortOps).scheduler.Waits ⟨0, .probe, 2, 3000001⟩ ∧
    ∃ entry ∈ patientPortSession.timeline patientPortOps, entry.2.transmission = 2 ∧
      entry.1 + patientPortSession.scheduler.config.minimumTimeout ≤ 3000001 ∧
      3000001 ≤ entry.1 + patientPortSession.scheduler.config.maximumTimeout := by
  obtain ⟨hestimates, hruns⟩ := deadlines_between (τ := ScriptedTransport) (ρ :=
    ScriptedResolver) (σ := ScriptedSink)
  obtain ⟨hbetween, hsome⟩ := hestimates [3000, 0, 5000] 3000 5000 (by decide) (by decide)
  obtain ⟨value, hvalue⟩ := Option.isSome_iff_exists.1 (hsome.2 ⟨3000, by decide, by decide⟩)
  have hwaits : (patientPortSession.after patientPortOps).scheduler.Waits ⟨0, .probe, 2, 3000001⟩ := by
    decide +kernel
  obtain ⟨entry, hentry, hstarts, hdeadline⟩ :=
    (hruns patientPortSession (ScanInputs.initial _) (by decide +kernel)).2 patientPortOps _ hwaits
  exact ⟨⟨value, hvalue, hbetween.smoothed value hvalue⟩, hwaits, entry, hentry, hstarts.transmission, hdeadline⟩

end NodeNet.Engine
