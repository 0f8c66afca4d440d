import NodeNet.Engine.Walk.Admit

/-!
# Every operation follows steps

Evidence, drives and the remaining public operations, and with them the invariant of every session that can be
reached.
-/

namespace NodeNet.Engine

open OrdMap ScanScheduler

variable {τ ρ σ : Type} {w : Session τ ρ σ} {k : Option LogicalProbe}

theorem diagnose_walks {f : DiagnosticCounters → DiagnosticCounters} :
    Walks k (diagnose f) w (fun _ => k) fun _ w' =>
      ∃ d, w' = w.withScheduler { w.scheduler with diagnostics := d } :=
  Walks.diagnose ⟨_, rfl⟩

private theorem countForged_walks : Roams countForged w fun _ _ => True := diagnose_walks.done

/-! ### Evidence for programmes -/

section ProgrammeEvidence

/-- Evidence may be passed on to the programme under `id`. -/
def Session.Receives (w : Session τ ρ σ) (id : Nat) : Prop :=
  ∀ {l}, w.scheduler.programmes.get? id = some l → w.scheduler.Clear w.history l.context.generation

variable {id : Nat} {l : ProgrammeLogical}

theorem updateProgrammeBest_walks {best : ProgrammeBest} (hi : w.Inv)
    (held : w.scheduler.programmes.get? id = some l) (receives : w.Receives id) :
    Roams (updateProgrammeBest id best) w fun _ w' =>
      w' = w.withScheduler (w.scheduler.setProgramme id (l.observe best)) := by
  have revises : (l.observe best).Revises l := ⟨rfl, rfl, rfl, (hi.origins.programmes held).2.next⟩
  exact Walks.programme held (Walks.update_last (Step.observed held revises (receives held)) rfl)

theorem concludeEvidence_walks {adaptiveStop decisive : Bool} (hi : w.Inv)
    (held : w.scheduler.programmes.get? id = some l) :
    Roams (concludeEvidence id adaptiveStop decisive) w fun _ _ => True := by
  simp only [concludeEvidence, walks_ite, walks_pure, implies_true, and_true]
  refine ⟨fun _ => ?_, fun _ _ => ?_⟩
  · exact (Walks.reviseProgramme held ⟨rfl, rfl, rfl, (hi.origins.programmes held).2.next⟩ rfl rfl ⟨rfl, rfl⟩).done
  · exact (finishProgrammeCorrelations_walks hi held).done

variable {event : EvidenceEvent} {now : Nat}

variable {p : ProgrammePhysical}

theorem handleSetupEvidence_walks {setup : ProbeFamily} (hi : w.Inv)
    (sent : w.scheduler.physical.get? event.probeId = some p) :
    Roams (handleSetupEvidence event p setup) w fun _ _ => True := by
  obtain ⟨-, -, l, held⟩ := hi.lanes.wire sent
  simp only [handleSetupEvidence, walks_ite]
  refine ⟨fun _ => diagnose_walks.done, fun _ => ?_⟩
  refine Walks.bind hi (Walks.revisePhysical sent rfl) fun _ w1 hi1 hw1 => ?_
  subst hw1
  refine Walks.bind hi1 (Walks.reviseProgramme (by exact held)
    ⟨rfl, rfl, rfl, (hi.origins.programmes held).2.next⟩ rfl rfl ⟨rfl, rfl⟩) fun _ w2 hi2 _ => ?_
  refine Walks.update_last ?_ trivial
  split <;> exact Step.quiet ..

theorem noteIcmp_walks (held : w.scheduler.programmes.get? id = some l) (receives : w.Receives id) :
    Roams (noteIcmp id) w fun _ w' =>
      w'.scheduler.physical = w.scheduler.physical ∧ w'.Receives id :=
  Walks.programme held (Walks.update_last (Step.icmpNoted held) ⟨rfl, receives⟩)

variable [ResultSink σ]

theorem handleGraceEvidence_walks {grace : ProgrammeGrace} {wireId : Nat} (hi : w.Inv)
    (kept : w.scheduler.programmeGrace.get? wireId = some grace) (receives : w.Receives grace.logicalId) :
    Roams (handleGraceEvidence now event grace) w fun _ _ => True := by
  refine Walks.bind hi diagnose_walks ?_
  rintro - w1 hi1 ⟨d, rfl⟩
  obtain ⟨-, l, held⟩ := hi1.lanes.kept (by exact kept)
  rw [walks_ite]
  constructor
  · intro _
    cases event.udpService with
    | none => exact countForged_walks
    | some service =>
      refine Walks.programmeStrategy hi1 held fun strategy => ?_
      simp only [walks_ite, walks_pure, implies_true, and_true]
      exact fun _ => (Walks.reviseProgramme held ⟨rfl, rfl, rfl, (hi1.origins.programmes held).2.next⟩ rfl rfl
        ⟨rfl, rfl⟩).done
  intro _
  split
  · refine Walks.programmeStrategy hi1 held fun strategy => ?_
    refine Walks.bind hi1 (updateProgrammeBest_walks hi1 held (by exact receives)) fun _ w2 hi2 hw2 => ?_
    subst hw2
    refine Walks.bind hi2 (concludeEvidence_walks hi2 (get?_insert_self ..)) fun _ w3 hi3 _ => ?_
    simp only [walks_ite, walks_freshReport, walks_pure, implies_true, and_true]
    exact fun _ => settleReadyProgrammes_walks hi3
  · simp only [walks_ite, walks_pure, implies_true, and_true]
    exact fun _ => countForged_walks

theorem handleExpiredEvidence_walks (hi : w.Inv) (sent : w.scheduler.physical.get? event.probeId = some p)
    (receives : w.Receives p.logicalId) :
    Roams (handleExpiredEvidence now event) w fun _ _ => True := by
  obtain ⟨-, -, l0, held0⟩ := hi.lanes.wire sent
  simp only [handleExpiredEvidence, walks_freshReport]
  refine Walks.bind (by exact hi) ((timeoutProgrammeOne_walks (p := p) (by exact hi) (by exact sent)).and
    (timeoutProgrammeOne_within (r := Effect Event.mild) _)) ?_
  rintro - w1 hi1 ⟨honly, heffect⟩
  -- the request may have been given up for its grace, but its programme is still the same
  have receives1 : w1.Receives p.logicalId := by
    intro l hl
    obtain ⟨l', held', hcontext⟩ := honly.programme held0
    obtain rfl := Option.some.inj (held'.symm.trans hl)
    obtain ⟨added, hadded, -⟩ := heffect.history
    rw [hcontext]
    exact (receives held0).mono heffect.stop heffect.invalidating
      (by rw [hadded]; exact List.subset_append_right ..)
  refine Walks.bind hi1 diagnose_walks ?_
  rintro - w2 hi2 ⟨d, rfl⟩
  rw [walks_scheduler]
  split
  · exact walks_pure.2 trivial
  next grace kept =>
  obtain ⟨-, l, held⟩ := hi2.lanes.kept kept
  split
  · exact walks_pure.2 trivial
  have hname : grace.logicalId = p.logicalId := honly.grace kept
  refine Walks.programmeStrategy hi2 held fun strategy => ?_
  refine Walks.bind hi2 (updateProgrammeBest_walks hi2 held (by rw [hname]; exact receives1))
    fun _ w3 hi3 hw3 => ?_
  subst hw3
  refine Walks.bind hi3 (concludeEvidence_walks hi3 (get?_insert_self ..)) fun _ w4 hi4 _ => ?_
  simp only [walks_ite, walks_pure, implies_true, and_true]
  exact fun _ => settleReadyProgrammes_walks hi4

theorem handleActiveEvidence_walks (hi : w.Inv) (sent : w.scheduler.physical.get? event.probeId = some p)
    (receives : w.Receives p.logicalId) :
    Roams (handleActiveEvidence now event p) w fun _ _ => True := by
  obtain ⟨-, -, l, held⟩ := hi.lanes.wire sent
  unfold handleActiveEvidence
  rw [Roams, walks_ite]
  constructor
  · intro _
    cases event.udpService with
    | none => exact countForged_walks
    | some service =>
      refine Walks.programmeStrategy hi held fun strategy => ?_
      refine Walks.bind (j := fun _ => none)
        (Q := fun _ w' => w'.scheduler.physical.get? event.probeId = some p) hi ?_ fun _ w1 hi1 sent1 => ?_
      · rw [walks_ite]
        refine ⟨fun _ => ?_, fun _ => walks_pure.2 sent⟩
        refine (Walks.reviseProgramme held ⟨rfl, rfl, rfl, (hi.origins.programmes held).2.next⟩ rfl rfl
          ⟨rfl, rfl⟩).mono ?_
        rintro - w' rfl
        exact sent
      rw [walks_freshReport]
      exact Walks.bind (by exact hi1) (retirePhysical_walks (by exact hi1) (by exact sent1)) fun _ w2 hi2 _ =>
        settleReadyProgrammes_walks hi2
  intro _
  split
  · simp only [walks_ite, walks_pure, implies_true, and_true]
    exact fun _ => countForged_walks
  refine Walks.programmeStrategy hi held fun strategy => ?_
  refine Walks.bind (j := fun _ => none)
    (Q := fun _ w' => w'.scheduler.physical.get? event.probeId = some p ∧ w'.Receives p.logicalId) hi ?_
    fun _ w1 hi1 h1 => ?_
  · rw [walks_ite]
    refine ⟨fun _ => ?_, fun _ => walks_pure.2 ⟨sent, receives⟩⟩
    exact (noteIcmp_walks held receives).mono fun _ w' hw' => ⟨by rw [hw'.1, sent], hw'.2⟩
  obtain ⟨sent1, receives1⟩ := h1
  obtain ⟨-, -, l1, held1⟩ := hi1.lanes.wire sent1
  refine Walks.bind hi1 (updateProgrammeBest_walks hi1 held1 receives1) fun _ w2 hi2 hw2 => ?_
  subst hw2
  rw [walks_freshReport]
  refine Walks.bind (by exact hi2) (retirePhysical_walks (by exact hi2) (by exact sent1)) ?_
  rintro - w3 hi3 honly
  obtain ⟨l3, held3, -⟩ := honly.programme (get?_insert_self ..)
  exact Walks.bind hi3 (concludeEvidence_walks hi3 held3) fun _ w4 hi4 _ => settleReadyProgrammes_walks hi4

theorem handleProgrammeEvidence_walks (hi : w.Inv)
    (known : (w.scheduler.physical.contains event.probeId || w.scheduler.programmeGrace.contains event.probeId) =
    true)
    (receives : ∀ id, w.scheduler.programmeOf event.probeId = some id → w.Receives id) :
    Roams (handleProgrammeEvidence now event) w fun _ _ => True := by
  simp only [handleProgrammeEvidence, walks_scheduler]
  cases hkept : w.scheduler.programmeGrace.get? event.probeId with
  | some grace =>
    exact handleGraceEvidence_walks hi hkept (receives _ (by rw [programmeOf, hkept]; rfl))
  | none =>
    simp only [contains, hkept, Option.isSome_none, Bool.or_false] at known
    obtain ⟨p, sent⟩ := Option.isSome_iff_exists.1 known
    have receives : w.Receives p.logicalId := receives _ (by rw [programmeOf, hkept, sent]; rfl)
    refine Walks.physicalAt sent ?_
    cases hstage : p.stage with
    | waiting purpose deadline =>
      dsimp only
      rw [walks_ite]
      refine ⟨fun _ => handleExpiredEvidence_walks hi sent receives, fun _ => ?_⟩
      cases purpose with
      | neighborSetup setup => exact handleSetupEvidence_walks hi sent
      | probe | tcpResetCleanup => exact handleActiveEvidence_walks hi sent receives
    | pending purpose | pendingCleanup terminal => exact diagnose_walks.done

end ProgrammeEvidence

/-! ### Evidence -/

variable {now : Nat}

theorem observeNow_walks : Roams (observeNow now) w fun _ w' =>
    w' = w.withScheduler { w.scheduler with lastNow := some now } := by
  simp only [observeNow, walks_scheduler, walks_ite, walks_fail]
  exact ⟨fun _ => by simp, fun _ => Walks.update_last (Step.quiet ..) rfl⟩

theorem pruneGrace_walks : Roams (pruneGrace now) w fun _ _ => True := Walks.update_last (Step.pruned _) trivial

theorem completeIfFinished_walks : Roams completeIfFinished w fun _ _ => True := by
  refine Walks.whenever (fun hdone => Walks.update_last ?_ trivial) (fun _ => trivial)
  simp only [Bool.and_eq_true, beq_iff_eq, List.isEmpty_iff] at hdone
  obtain ⟨⟨⟨⟨⟨hrunning, hcursor⟩, hdeferred⟩, hactive⟩, hprogrammes⟩, -⟩ := hdone
  exact Step.completed hrunning hcursor hdeferred hactive hprogrammes

section Evidence

variable {a : ActiveProbe} {event : EvidenceEvent} {now : Nat}

/-- A session that has not ended and is not being stopped is live. -/
theorem Disposal.live {c : Core} (h : Disposal c) (hterminal : c.scheduler.isTerminal = false)
    (hstop : c.scheduler.stop.isSome = false) : c.scheduler.lifecycle.live = true := by
  have hcancelling := h.cancelling
  cases hlifecycle : c.scheduler.lifecycle <;>
    simp_all [isTerminal, SessionLifecycle.live]

theorem Inv.live_of_due (hi : w.Inv)
    (h : (w.scheduler.deadlineReached now && !w.scheduler.isTerminal && w.scheduler.stop.isNone) = true) :
    w.scheduler.lifecycle.live = true := by
  simp only [Bool.and_eq_true, Bool.not_eq_true', Option.isNone_iff_eq_none] at h
  exact hi.disposal.live h.1.2 (by rw [Session.core_scheduler, h.2]; rfl)

variable [ProbeTransport τ] [ResultSink σ]

theorem concludeProbe_walks {terminal : PendingTerminal} (hi : w.Inv)
    (held : w.scheduler.active.get? event.probeId = some a)
    (clear : w.scheduler.Clear w.history a.context.generation) :
    Roams (concludeProbe now event a terminal) w fun _ _ => True := by
  simp only [concludeProbe, walks_scheduler, walks_ite]
  refine ⟨fun _ => ?_, fun _ => (terminalize_walks hi held fun _ _ => Or.inr clear).done⟩
  refine Walks.bind hi (Walks.reviseActive held rfl rfl rfl) fun _ w1 hi1 hw1 => ?_
  refine Walks.reach rfl ?_
  rw [walks_freshReport]
  refine Walks.mono (emitPending_walks ((Step.called rfl).inv hi1) (Or.inr ⟨?_, ?_⟩)) fun _ _ _ => trivial
  · rw [hw1]
    exact clear.1
  -- if an invalidation is unfinished then the mark says that the reset frame gets past it
  cases hfilter : w1.scheduler.invalidatingGeneration with
  | none => exact Or.inl rfl
  | some filter => exact Or.inr ⟨_, List.mem_cons_self .., by simp [Event.breaches, hfilter]⟩

theorem handleProbeEvidence_walks (hi : w.Inv) (held : w.scheduler.active.get? event.probeId = some a)
    (clear : w.scheduler.Clear w.history a.context.generation) :
    Roams (handleProbeEvidence now event a) w fun _ _ => True := by
  unfold handleProbeEvidence
  cases classifyTerminal a.probe event with
  | error e => exact diagnose_walks.done
  | ok terminal =>
    refine Walks.update_bind hi (Step.quiet ..) fun hi1 => ?_
    exact Walks.bind hi1 (concludeProbe_walks hi1 held clear) fun _ _ _ _ => completeIfFinished_walks

theorem handleWaitingEvidence_walks {purpose : EmissionPurpose} {deadline : Nat} (hi : w.Inv)
    (held : w.scheduler.active.get? event.probeId = some a)
    (clear : w.scheduler.Clear w.history a.context.generation) :
    Roams (handleWaitingEvidence now event a purpose deadline) w fun _ _ => True := by
  unfold handleWaitingEvidence
  rw [Roams, walks_ite]
  constructor
  · intro _
    rw [walks_freshReport]
    exact Walks.bind (by exact hi) (timeoutOne_walks (by exact hi) (by exact held)) fun _ _ _ _ =>
      diagnose_walks.done
  intro _
  cases purpose with
  | neighborSetup setup =>
    dsimp only
    rw [walks_ite]
    exact ⟨fun _ => diagnose_walks.done, fun _ => (Walks.reviseActive held rfl rfl rfl).done⟩
  | probe | tcpResetCleanup => exact handleProbeEvidence_walks hi held clear

theorem handleCorrelatedEvidence_walks (hi : w.Inv) (hstop : w.scheduler.stop = none)
    (current : ∀ {a}, w.scheduler.active.get? event.probeId = some a →
      w.scheduler.invalidates a.context.generation = false) :
    Roams (handleCorrelatedEvidence now event) w fun _ _ => True := by
  simp only [handleCorrelatedEvidence, walks_scheduler, walks_ite]
  refine ⟨fun hknown => ?_, fun _ => ⟨fun _ => diagnose_walks.done, fun _ => ?_⟩⟩
  · refine Walks.reach rfl (Walks.bind ((Step.called rfl).inv hi) (handleProgrammeEvidence_walks
      ((Step.called rfl).inv hi) (by exact hknown) fun id hid l hl => ⟨hstop, ?_⟩) fun _ _ _ _ =>
        completeIfFinished_walks)
    -- if the programme is being invalidated then the mark says that evidence gets to it all the same
    by_cases hinvalidated : w.scheduler.requestInvalidated event.probeId = true
    · exact Or.inr ⟨_, List.mem_cons_self .., hinvalidated⟩
    have hid : w.scheduler.programmeOf event.probeId = some id := hid
    have hl : w.scheduler.programmes.get? id = some l := hl
    simp only [requestInvalidated, hid, Option.bind_some, hl, Option.any_some, Bool.not_eq_true]
      at hinvalidated
    exact Or.inl hinvalidated
  cases held : w.scheduler.active.get? event.probeId with
  | none => exact diagnose_walks.done
  | some a =>
    dsimp only
    cases hstage : a.stage with
    | waiting purpose deadline => exact handleWaitingEvidence_walks hi held ⟨hstop, Or.inl (current held)⟩
    | pending purpose | pendingCleanup terminal => exact diagnose_walks.done

omit [ProbeTransport τ] in
/-- Evidence that is not discarded is for a probe that is not being invalidated. -/
theorem settleInvalidatedEvent_walks (hi : w.Inv) :
    Roams (settleInvalidatedEvent now event) w fun discarded w' =>
      w'.scheduler.stop = w.scheduler.stop ∧ (discarded = false → ∀ {a},
        w'.scheduler.active.get? event.probeId = some a →
          w'.scheduler.invalidates a.context.generation = false) := by
  simp only [settleInvalidatedEvent, walks_scheduler, walks_ite, walks_pure]
  refine ⟨fun hsome => ?_, fun hnone => ⟨trivial, fun _ a _ => ?_⟩⟩
  · obtain ⟨filter, hfilter⟩ := Option.isSome_iff_exists.1 hsome
    rw [walks_freshReport]
    refine Walks.bind (by exact hi) (settleContextInvalidation_walks (by exact hi) (by exact hfilter)) ?_
    rintro - w1 hi1 ⟨hstop, hinvalidating, hkept⟩
    refine walks_scheduler.2 (walks_pure.2 ⟨hstop, fun hdiscarded a ha => ?_⟩)
    have hevent : w.scheduler.eventInvalidated event = false := by
      simpa [OrdMap.contains, ha] using hdiscarded
    simp only [ScanScheduler.eventInvalidated, show w.scheduler.active.get? event.probeId = some a from hkept ha,
      hfilter] at hevent
    rcases hinvalidating with hnone | ⟨-, hsame⟩
    · rw [ScanScheduler.invalidates, hnone]
      rfl
    · rw [ScanScheduler.invalidates, hsame]
      exact hevent
  · rw [ScanScheduler.invalidates, Option.not_isSome_iff_eq_none.1 hnone]
    rfl

omit [ProbeTransport τ] in
/-- A stop is initiated and its first part is carried out. -/
theorem beginStop_walks {stop : StopState} (hi : w.Inv) (live : w.scheduler.lifecycle.live = true)
    (proper : stop.Proper) : Roams (do
      initiateStop stop
      freshReport
      settleStop now) w fun _ _ => True := by
  refine Walks.bind hi (initiateStop_walks live proper) fun _ w1 hi1 hstop => ?_
  rw [walks_freshReport]
  exact (settleStop_walks (by exact hi1) (by exact hstop.1)).done

theorem deadlineStop_proper : deadlineStop.Proper := ⟨rfl, by simp [deadlineStop]⟩

theorem handleEvidence_walks (hi : w.Inv) : Roams (handleEvidence now event) w fun _ _ => True := by
  refine Walks.bind hi observeNow_walks fun _ w1 hi1 _ => ?_
  refine Walks.bind hi1 pruneGrace_walks fun _ w2 hi2 _ => ?_
  rw [walks_freshReport]
  refine Walks.bind (by exact hi2) (pruneProgrammeGrace_walks (by exact hi2)) fun _ w3 hi3 _ => ?_
  refine Walks.bind hi3
    (Walks.whenever (fun hdue => beginStop_walks hi3 (hi3.live_of_due hdue) deadlineStop_proper)
    (fun _ => trivial)) fun _ w4 hi4 _ => ?_
  simp only [walks_scheduler, walks_ite]
  refine ⟨fun _ => diagnose_walks.done, fun hstop => ?_⟩
  refine Walks.bind hi4 (settleInvalidatedEvent_walks hi4) ?_
  rintro discarded w5 hi5 ⟨hsame, hcurrent⟩
  rw [walks_ite]
  refine ⟨fun _ => diagnose_walks.done, fun hkept => ?_⟩
  exact handleCorrelatedEvidence_walks hi5 (hsame.trans (Option.not_isSome_iff_eq_none.1 hstop))
    (hcurrent (Bool.eq_false_of_not_eq_true hkept))

end Evidence

/-! ### Drive -/

theorem nextReady_walks : Roams (nextReady now) w fun _ _ => True := by
  simp only [nextReady, walks_scheduler]
  refine Walks.ensure (fun bucket _ => Walks.update (Step.quiet ..) ?_) (by simp)
  unfold Walks
  rw [ends_lift]
  refine ⟨fun ready _ => ⟨Path.refl, trivial⟩, fun e he => Stops.now ?_⟩
  rcases TokenBucket.nextReady_error he with rfl | rfl <;> simp

theorem makeReport_walks (hi : w.Inv) : Roams (makeReport now) w fun _ _ => True := by
  simp only [makeReport, walks_scheduler, walks_report, walks_ite, walks_pure, implies_true, and_true, true_and]
  exact fun _ _ => Walks.bind hi nextReady_walks fun _ _ _ _ => walks_pure.2 trivial

theorem enterPause_walks (pausing : w.scheduler.lifecycle = .pausing) : Roams enterPause w fun _ _ => True := by
  simp only [enterPause, walks_report, walks_scheduler]
  refine Walks.update (Step.moved (by rw [pausing]; rfl) rfl) ?_
  rw [walks_charge_bind]
  exact ⟨Path.single rfl (Step.called rfl), trivial⟩

section Drive

variable [ProbeTransport τ] [ContextResolver ρ] [ResultSink σ]

variable {now : Nat}

theorem transmit_walks (hi : w.Inv) (alive : w.scheduler.lifecycle ≠ .closed) (hopen : w.Open) :
    Roams (transmit now) w fun _ _ => True := by
  refine Walks.bind hi ((emitPending_walks hi hopen).alive hi alive) fun _ w1 hi1 ⟨alive1, hopen1⟩ => ?_
  refine Walks.bind hi1 (Walks.whenever (fun _ => admitCandidates_walks hi1 alive1 hopen1) (fun _ => hopen1))
    fun _ w2 hi2 hopen2 => ?_
  exact (emitPending_walks hi2 hopen2).done

omit [ContextResolver ρ] in
/-- If the session is running once everything due is done then no stop and no invalidation is left, unless the
budget is used up. -/
theorem catchUp_walks (hi : w.Inv) :
    Roams (catchUp now) w fun _ w' => w'.scheduler.lifecycle = .running → w'.Open := by
  refine Walks.bind hi (pruneProgrammeGrace_walks hi) fun _ w3 hi3 _ => ?_
  refine Walks.update_bind hi3 (Step.quiet ..) fun hi4 => ?_
  refine Walks.bind hi4 (Walks.whenever (fun hp => enterPause_walks ?_) (fun _ => trivial)) fun _ w5 hi5 _ => ?_
  · simp only [beq_iff_eq] at hp
    simp [hp]
  refine Walks.bind hi5 (Walks.whenever (fun hdue => (initiateStop_walks (hi5.live_of_due hdue)
    deadlineStop_proper).done) (fun _ => trivial)) fun _ w6 hi6 _ => ?_
  refine Walks.bind (Q := fun _ _ => True) hi6 (Walks.whenever (fun hstop => ?_) (fun _ => trivial))
    fun _ w7 hi7 _ => ?_
  · obtain ⟨stop, hstop⟩ := Option.isSome_iff_exists.1 hstop
    exact (settleStop_walks hi6 hstop).done
  refine Walks.bind (Q := fun _ w' => w'.scheduler.stop = none → w'.Open) hi7
    (Walks.whenever (fun hfilter => ?_) (fun hidle hstop => ?_)) fun _ w8 hi8 hopen8 => ?_
  · rw [Bool.and_eq_true] at hfilter
    obtain ⟨filter, hfilter⟩ := Option.isSome_iff_exists.1 hfilter.2
    refine (settleContextInvalidation_walks hi7 hfilter).mono ?_
    rintro - w' ⟨-, hnone | ⟨hspent, -⟩, -⟩ hstop
    · exact Or.inr ⟨hstop, Or.inl hnone⟩
    · exact Or.inl hspent
  · rw [hstop] at hidle
    exact Or.inr ⟨hstop, Or.inl (Option.not_isSome_iff_eq_none.1 (by simpa using hidle))⟩
  have hrunning : ∀ {w : Session τ ρ σ}, w.Inv → w.scheduler.lifecycle = .running → w.scheduler.stop = none := by
    intro w hi hr
    by_contra hsome
    have hcancelling := hi.disposal.stopping (Option.isSome_iff_ne_none.2 hsome)
    rw [Session.core_scheduler, hr] at hcancelling
    cases hcancelling
  refine Walks.whenever (fun hidle => ?_) (fun _ hr => hopen8 (hrunning hi8 hr))
  simp only [Bool.and_eq_true, Option.isNone_iff_eq_none] at hidle
  refine ((processTimeouts_walks hi8).and (processTimeouts_within (r := Calm) (fun _ _ _ h => h) w8)).mono ?_
  rintro - w' ⟨-, n, heffect⟩ -
  exact (hopen8 hidle.1.2).effect heffect

theorem advance_walks (hi : w.Inv) : Roams (advance now) w fun _ _ => True := by
  refine Walks.bind hi (catchUp_walks hi) fun _ w1 hi1 hopen => ?_
  refine Walks.bind (Q := fun _ _ => True) hi1 (Walks.whenever (fun hr => ?_) (fun _ => trivial))
    fun _ w2 hi2 _ => ?_
  · simp only [beq_iff_eq] at hr
    exact transmit_walks hi1 (by simp [hr]) (hopen hr)
  exact completeIfFinished_walks

theorem drive_walks (hi : w.Inv) : Roams (drive now) w fun _ _ => True := by
  simp only [drive, walks_scheduler, walks_ite, walks_fail]
  refine ⟨fun _ => by simp, fun _ => ?_⟩
  refine Walks.bind hi observeNow_walks fun _ w1 hi1 _ => ?_
  refine Walks.bind hi1 pruneGrace_walks fun _ w2 hi2 _ => ?_
  rw [walks_freshReport]
  exact Walks.bind (by exact hi2) (advance_walks (by exact hi2)) fun _ w3 hi3 _ => makeReport_walks hi3

end Drive

/-! ### Other operations -/

theorem start_walks (hi : w.Inv) : Roams (start now) w fun _ _ => True := by
  simp only [start, walks_scheduler, walks_ite, walks_fail]
  refine ⟨fun _ => by simp, fun hcreated => ?_⟩
  refine Walks.bind hi observeNow_walks fun _ w1 hi1 hw1 => ?_
  have created : w1.scheduler.lifecycle = .created := by
    rw [hw1]
    exact not_not.1 hcreated
  refine Walks.ensure (fun deadline _ => Walks.update (Step.quiet ..) ?_) (by simp)
  split
  · exact walks_fail.2 (by simp)
  refine ⟨Path.tail (Path.single rfl (@Step.moved _ _ .running ?_ rfl)) rfl ?_, trivial⟩
  · show w1.scheduler.lifecycle.live = true
    rw [created]
    rfl
  · exact Step.quiet ..

theorem requestPause_walks : Roams requestPause w fun _ _ => True := by
  simp only [requestPause, walks_scheduler, walks_ite, walks_fail]
  exact ⟨fun _ => by simp, fun h => Walks.update_last (Step.moved (by rw [not_not.1 h]; rfl) rfl) trivial⟩

theorem resume_walks : Roams resume w fun _ _ => True := by
  simp only [resume, walks_scheduler, walks_ite, walks_fail]
  exact ⟨fun _ => by simp, fun h => Walks.update_last (Step.moved (by rw [not_not.1 h]; rfl) rfl) trivial⟩

theorem contextRestored_walks : Roams contextRestored w fun _ _ => True :=
  Walks.whenever (fun _ => Walks.update_last (Step.quiet ..) trivial) (fun _ => trivial)

theorem recordDiagnostic_walks {kind : DiagnosticKind} : Roams (recordDiagnostic kind) w fun _ _ => True :=
  diagnose_walks.done

section Stopping

variable {now : Nat}

private theorem Inv.live_of_not_terminal (hi : w.Inv)
    (h : ¬ (w.scheduler.isTerminal || w.scheduler.stop.isSome) = true) : w.scheduler.lifecycle.live = true := by
  rw [Bool.not_eq_true, Bool.or_eq_false_iff] at h
  exact hi.disposal.live h.1 h.2

variable [ResultSink σ]

theorem invalidateContext_walks {generation : Option Nat} (hi : w.Inv) :
    Roams (invalidateContext now generation) w fun _ _ => True := by
  refine Walks.bind hi observeNow_walks fun _ w1 hi1 _ => ?_
  refine Walks.update_bind hi1 (Step.quiet ..) fun hi2 => ?_
  refine Walks.bind hi2 diagnose_walks fun _ w3 hi3 _ => ?_
  simp only [walks_scheduler, walks_ite, walks_fail]
  refine ⟨fun _ => by simp, fun hfree => ?_⟩
  refine Walks.update_bind hi3 (Step.invalidating fun f hf => ?_) fun hi4 => ?_
  · simpa [hf] using hfree
  rw [walks_freshReport]
  exact (settleContextInvalidation_walks (by exact hi4) rfl).done

theorem cancel_walks (hi : w.Inv) : Roams (cancel now) w fun _ _ => True := by
  simp only [cancel, walks_scheduler, walks_ite, walks_fail]
  refine ⟨fun halive => ?_, fun _ => by simp⟩
  refine Walks.bind hi observeNow_walks fun _ w1 hi1 hw1 => beginStop_walks hi1 ?_ ⟨rfl, by simp⟩
  rw [hw1]
  show w.scheduler.lifecycle.live = true
  rcases halive with h | h | h <;> rw [h] <;> rfl

theorem transportFailed_walks {code : Nat} (hi : w.Inv) : Roams (transportFailed now code) w fun _ _ => True := by
  simp only [transportFailed, walks_scheduler, walks_ite, walks_pure, implies_true, true_and]
  intro hrunning
  refine Walks.bind hi observeNow_walks fun _ w1 hi1 hw1 => ?_
  rw [walks_freshReport]
  refine (failTransport_walks (by exact hi1) ?_).done
  rw [hw1]
  exact hi.live_of_not_terminal hrunning

theorem contextFailed_walks (hi : w.Inv) : Roams (contextFailed now) w fun _ _ => True := by
  simp only [contextFailed, walks_scheduler, walks_ite, walks_pure, implies_true, true_and]
  intro hrunning
  refine Walks.bind hi observeNow_walks fun _ w1 hi1 hw1 => beginStop_walks hi1 ?_ ⟨rfl, by simp⟩
  rw [hw1]
  exact hi.live_of_not_terminal hrunning

/-- Closing disposes of the session with its last step. -/
theorem close_ends : Ends close w
    (fun _ w' => Path Step (fun κ => κ.error = none) (w.core none) (w'.core none))
    (fun e w' => Stops (w.core none) (w'.core none) e) := by
  simp only [close, ends_bind, ends_scheduler, ends_ite, ends_pure]
  refine ⟨fun _ => Path.refl, fun _ => ?_⟩
  refine ends_releaseReserved (fun sink => ?_) (fun failure sink => ?_)
  · rw [ends_ensure]
    have hfirst : Path Step (· = .kept) (w.core none)
        ⟨w.scheduler, .releaseReserved w.scheduler.active.size (.ok ()) :: w.history, none⟩ :=
      Path.single rfl (Step.released (e := .releaseReserved w.scheduler.active.size (.ok ())) rfl)
    refine ⟨fun bytes _ => ?_, fun _ => (Stops.now (by simp)).after hfirst⟩
    refine ends_releaseReservedWithBytes (fun sink => ?_) (fun failure sink => ?_)
    · have hsecond := hfirst.tail rfl (Step.released
        (e := .releaseReservedWithBytes w.scheduler.programmes.size bytes (.ok ())) rfl)
      exact (hsecond.mono fun κ hκ => by rw [hκ]; rfl).tail rfl (Step.closed ⟨_, List.mem_cons_self .., rfl⟩)
    exact (Stops.step (Step.released
      (e := .releaseReservedWithBytes w.scheduler.programmes.size bytes (.error failure)) rfl) rfl (by simp)).after
      hfirst
  · exact Stops.step (Step.released (e := .releaseReserved w.scheduler.active.size (.error failure)) rfl) rfl
      (by simp)

end Stopping

/-! ### Runs -/

theorem Initial.fresh (h : Initial w) : ∃ plan config permutation, config.validate = .ok config ∧
    permutation.length = plan.logicalProbeCount ∧ w.scheduler = fresh plan config permutation := by
  obtain ⟨plan, config, permutation, hnew⟩ := h.built
  unfold new at hnew
  split at hnew
  · cases hnew
  next config' hvalid =>
  have hconfig := SchedulerConfig.validate_ok hvalid
  subst hconfig
  split at hnew
  · cases hnew
  · next hlength =>
    exact ⟨plan, config', permutation, hvalid, not_not.1 hlength, (Except.ok.inj hnew).symm⟩

theorem Initial.inv (h : Initial w) : w.Inv := by
  obtain ⟨plan, config, permutation, hvalid, hlength, hscheduler⟩ := h.fresh
  have hcore : w.core none = ⟨ScanScheduler.fresh plan config permutation, [], none⟩ := by
    rw [Session.core, hscheduler, h.history]
  have hholders : ∀ id, (⟨ScanScheduler.fresh plan config permutation, [], none⟩ : Core).holders id =
      if id < plan.logicalProbeCount then 1 else 0 := by
    intro id
    have hcount := (permutation.unissued_zero_perm.count_eq id)
    simp only [Core.holders, ScanScheduler.fresh, OrdMap.keys_empty, List.map_nil, List.count_nil, committed,
      List.filterMap_nil, Option.toList_none, hcount, hlength]
    rw [List.nodup_range.count]
    simp
  rw [Session.Inv, hcore]
  exact {
    setup := ⟨hvalid, hlength, Nat.zero_le _⟩
    origins := {
      active := fun h => by cases h
      programmes := fun h => by cases h
      queued := fun h => by simp [ScanScheduler.fresh] at h }
    lanes := Lanes.empty rfl rfl rfl
    targets := fun _ => le_refl _
    prefixes := fun _ => le_refl _
    limits := ⟨fun _ => Nat.zero_le _, fun _ => Nat.zero_le _, Nat.zero_le _, Nat.zero_le _, Nat.zero_le _⟩
    ledger := {
      unique := fun id => by rw [hholders]; split <;> omega
      complete := fun _ id => hholders id
      queue := Nat.zero_le _
      grace := fun h => by cases h
      stopping := fun h => by cases h }
    disposal := {
      stopping := fun h => by cases h
      cancelling := fun h => by cases h
      proper := fun h => by cases h
      drained := fun h => by cases h
      rest := fun h => by cases h
      closed := fun h => by cases h } }

section Runs

variable [ProbeTransport τ] [ContextResolver ρ] [ResultSink σ]

/-- Every public operation but closing follows steps. -/
theorem Op.walks {op : Op} (hop : op ≠ .close) (hi : w.Inv) :
    Roams (op.method (τ := τ) (ρ := ρ) (σ := σ)) w fun _ _ => True := by
  cases op with
  | start now => exact start_walks hi
  | requestPause => exact requestPause_walks
  | resume => exact resume_walks
  | contextRestored => exact contextRestored_walks
  | drive now =>
    unfold Roams Walks Op.method
    rw [ends_map]
    exact drive_walks hi
  | handleEvidence now event => exact handleEvidence_walks hi
  | recordDiagnostic kind => exact recordDiagnostic_walks
  | invalidateContext now generation => exact invalidateContext_walks hi
  | cancel now => exact cancel_walks hi
  | transportFailed now code => exact transportFailed_walks hi
  | contextFailed now => exact contextFailed_walks hi
  | close => exact absurd rfl hop

/-- What the method of an operation leads to, whether it fails or not. -/
theorem Ends.perform {op : Op} {P : Session τ ρ σ → Prop}
    (h : Ends op.method w (fun _ w' => P w') (fun _ w' => P w')) : P (Engine.perform op w) := by
  unfold Engine.perform
  cases hm : op.method w with
  | ok a w' => exact h.of_ok hm
  | error e w' => exact h.of_error hm

/-- An operation either goes on to its end or stops with an error. -/
theorem perform_cases (op : Op) (hi : w.Inv) :
    (Succeeds op w ∧ Path Step (fun κ => κ.error = none) (w.core none) ((perform op w).core none)) ∨
      ∃ fault, op.method w = .error fault (perform op w) ∧
        Stops (w.core none) ((perform op w).core none) fault := by
  have hends : Ends op.method w (fun _ w' => Path Step (fun κ => κ.error = none) (w.core none) (w'.core none))
      (fun e w' => Stops (w.core none) (w'.core none) e) := by
    by_cases hop : op = .close
    · subst hop
      exact close_ends
    · exact Ends.imp (Op.walks hop hi) (fun _ w' hw' => hw'.1.mono fun κ hκ => by rw [hκ]; rfl)
  unfold Succeeds perform
  cases hm : op.method w with
  | ok a w' => exact Or.inl ⟨trivial, hends.of_ok hm⟩
  | error fault w' => exact Or.inr ⟨fault, rfl, hends.of_error hm⟩

variable {I : Core → Prop}

/-- Every operation keeps what each of its steps keeps; only a step of a close disposes of the session. -/
theorem perform_invariant_of (op : Op) (hi : w.Inv) (hI : I (w.core none))
    (hstep : ∀ κ c c', (κ = .disposed → op = .close) → Inv c → I c → Step κ c c' → I c') :
    I ((perform op w).core none) := by
  have hboth : ∀ κ c c', (κ = .disposed → op = .close) → Inv c ∧ I c → Step κ c c' → Inv c' ∧ I c' :=
    fun κ c c' hκ hc hs => ⟨hs.inv hc.1, hstep κ c c' hκ hc.1 hc.2 hs⟩
  by_cases hop : op = .close
  · rcases perform_cases op hi with ⟨-, h⟩ | ⟨fault, -, h⟩
    all_goals exact (h.invariant ⟨hi, hI⟩ fun κ c c' _ => hboth κ c c' fun _ => hop).2
  refine Ends.perform (P := fun w => I (w.core none)) (Ends.mono (Op.walks hop hi) (fun _ _ h => ?_)
    fun _ _ h => ?_)
  · exact (h.1.invariant ⟨hi, hI⟩ fun κ c c' hκ => hboth κ c c' (by simp [hκ])).2
  · exact (h.invariant ⟨hi, hI⟩ fun κ c c' hκ => hboth κ c c' fun h => absurd h hκ).2

theorem perform_invariant (op : Op) (hi : w.Inv) (hI : I (w.core none))
    (hstep : ∀ κ c c', Inv c → I c → Step κ c c' → I c') : I ((perform op w).core none) :=
  perform_invariant_of op hi hI fun κ c c' _ => hstep κ c c'

theorem Inv.perform (op : Op) (hi : w.Inv) : Inv ((perform op w).core none) :=
  perform_invariant op hi hi fun _ _ _ _ hi hs => hs.inv hi

/-- What holds at first and is kept by every allowed operation holds at the end of a run. -/
theorem Run.invariant {C : Session τ ρ σ → Op → Prop} {I : Session τ ρ σ → Prop} {w' : Session τ ρ σ}
    (h : Run C w w') (hI : I w) (hstep : ∀ w op, C w op → I w → I (Engine.perform op w)) : I w' := by
  induction h with
  | refl => exact hI
  | step _ op hop ih => exact hstep _ op hop ih

theorem Run.inv {C : Session τ ρ σ → Op → Prop} {w' : Session τ ρ σ} (h : Run C w w') (h0 : Initial w) : w'.Inv :=
  h.invariant (I := fun w => w.Inv) h0.inv fun _ op _ hi => hi.perform op

theorem Reachable.inv (h : Reachable w) : w.Inv := by
  obtain ⟨w0, h0, hrun⟩ := h
  exact hrun.inv h0

/-- What holds of a new scheduler and is kept by every step holds of every session that can be reached. -/
theorem Reachable.invariant (h : Reachable w)
    (hfresh : ∀ plan config permutation, I ⟨fresh plan config permutation, [], none⟩)
    (hstep : ∀ κ c c', Inv c → I c → Step κ c c' → I c') : I (w.core none) := by
  obtain ⟨w0, h0, hrun⟩ := h
  refine (hrun.invariant (I := fun w => w.Inv ∧ I (w.core none)) ⟨h0.inv, ?_⟩ ?_).2
  · obtain ⟨plan, config, permutation, -, -, hscheduler⟩ := h0.fresh
    rw [Session.core, hscheduler, h0.history]
    exact hfresh plan config permutation
  · exact fun w op _ hw => ⟨hw.1.perform op, perform_invariant op hw.1 hw.2 hstep⟩

end Runs

end NodeNet.Engine
