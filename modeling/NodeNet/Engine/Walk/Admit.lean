import NodeNet.Engine.Walk.Send

/-!
# Admission

While a candidate is examined it is in the hand.  Admission takes it back, admits it, or loses it to a failed
reservation for a programme.  The queue of deferred candidates never overflows: one call examines at most as many
candidates as fit into it, the deferred ones first.
-/

namespace NodeNet.Engine

variable {τ ρ σ : Type} {w : Session τ ρ σ} {p : LogicalProbe}

/-- A candidate that is in the hand fits into the queue. -/
theorem Inv.queue_of_hand (hi : Inv (w.core (some p))) : w.scheduler.deferred.length < maxDeferredCandidates :=
  lt_of_lt_of_le (b := maxTransitionsPerDrive) hi.ledger.queue (by decide)

theorem ends_defer {Q : Unit → Session τ ρ σ → Prop} {E : Fault → Session τ ρ σ → Prop}
    (hroom : w.scheduler.deferred.length < maxDeferredCandidates) :
    Ends (defer p) w Q E ↔ Q ()
    { w with scheduler := { w.scheduler with deferred := w.scheduler.deferred ++ [p] } } := by
  simp only [defer, ends_bind, ends_scheduler, if_neg hroom.ne, ends_update]

theorem ends_requeueFront {Q : Unit → Session τ ρ σ → Prop} {E : Fault → Session τ ρ σ → Prop}
    (hroom : w.scheduler.deferred.length < maxDeferredCandidates) :
    Ends (requeueFront p) w Q E ↔ Q ()
    { w with scheduler := { w.scheduler with deferred := p :: w.scheduler.deferred } } := by
  simp only [requeueFront, ends_bind, ends_scheduler, if_neg hroom.ne, ends_update]

/-- If the method fails for want of capacity then the queue is full. -/
def Blames {α : Type} (m : Method τ ρ σ α) : Prop :=
  ∀ w, Ends m w (fun _ _ => True)
    (fun e w' => e = .error .stateCapacityExceeded → w'.scheduler.deferred.length = maxDeferredCandidates)

theorem Blames.bind {α β : Type} {m : Method τ ρ σ α} {f : α → Method τ ρ σ β} (hm : Blames m)
    (hf : ∀ a, Blames (f a)) : Blames (m >>= f) := fun w => Ends.seq (hm w) fun a w' _ => hf a w'

theorem defer_blames : Blames (do
    defer p
    charge 1 0 0
    pure true : Method τ ρ σ Bool) := by
  intro w
  simp [defer, ends_ite]

theorem requeueFront_blames {e : EngineError} (he : e ≠ .stateCapacityExceeded) : Blames (do
    requeueFront p
    fail e : Method τ ρ σ Bool) := by
  intro w
  simp [requeueFront, ends_ite, he]

/-- What examining a candidate does to the queue: the candidate is put back or not. -/
def QueueKept (w w' : Session τ ρ σ) : Prop :=
  w.scheduler.deferred.length ≤ w'.scheduler.deferred.length ∧
    w'.scheduler.deferred.length ≤ w.scheduler.deferred.length + 1

/-- How the examination of a candidate ends: frames may be sent as before, and if admission goes on then the queue
has room for what may come. -/
structure Examined (w : Session τ ρ σ) (again : Bool) (w' : Session τ ρ σ) : Prop where
  open_ : w.Open → w'.Open
  queue : again = true → QueueKept w w'

theorem defer_walks (hi : Inv (w.core (some p))) :
    Walks (some p) (do
      defer p
      charge 1 0 0
      pure true : Method τ ρ σ Bool) w (fun _ => none) fun again w' => Examined w again w' := by
  unfold Walks
  simp only [ends_bind, ends_defer hi.queue_of_hand, ends_charge, ends_pure]
  refine ⟨Path.single rfl Step.deferred, fun h => ?_, fun _ => by simp [QueueKept]⟩
  exact h.mono rfl rfl (Nat.le_add_right ..) (List.Subset.refl _)

/-- After a call that does not settle the matter the candidate goes back to the front of the queue. -/
theorem Path.putBack {s : ScanScheduler} {h : List Event} {e : Event}
    (he : Step .kept ⟨s, h, some p⟩ ⟨s, e :: h, some p⟩) (contextWaiting sinkBackpressured : Bool)
    (diagnostics : DiagnosticCounters) :
    Path Step (· = .kept) ⟨s, h, some p⟩ ⟨{ s with
      deferred := p :: s.deferred
      contextWaiting := contextWaiting
      sinkBackpressured := sinkBackpressured
      diagnostics := diagnostics }, e :: h, none⟩ :=
  Path.tail (Path.tail (Path.single rfl he) rfl Step.requeued) rfl (Step.quiet ..)

section Sink

variable [ResultSink σ]

variable {context : ResolvedContext} {h : List Event}

theorem admitPlain_walks (hi : Inv (w.core (some p)))
    (hhistory : w.history = .resolve p (.ok (.ready context)) :: h) (room : w.scheduler.hasRoom = true)
    (target : tally w.scheduler.perTarget p.target < w.scheduler.config.maxPerTarget)
    (prefixes : tally w.scheduler.perPrefix context.prefixKey < w.scheduler.config.maxPerPrefix) :
    Walks (some p) (admitPlain p context) w (fun _ => none) fun again w' => Examined w again w' := by
  have fresh : w.scheduler.active.get? p.logicalId = none := (hi.ledger.fresh_of_hand rfl).1
  unfold Walks admitPlain
  rw [ends_bind]
  refine ends_tryReserve fun answer sink => ?_
  match answer with
  | .error failure =>
    simp only [ends_bind, ends_requeueFront (w := { w with sink := sink, history := _ }) hi.queue_of_hand,
      ends_fail]
    refine Stops.step (Step.rejected (h := w.history) ?_) rfl (by simp)
    rw [hhistory]
    exact Rejects.unreserved
  | .ok .saturated =>
    simp only [ends_bind, ends_update, ends_charge, ends_pure]
    refine ⟨Path.putBack (Step.called rfl) _ _ _, fun h => ?_, by simp⟩
    exact h.mono rfl rfl (Nat.le_add_right ..) (List.subset_cons_self _ _)
  | .ok .reserved =>
    simp only [ends_bind, ends_scheduler, ends_update, OrdMap.contains, fresh, Option.isSome_none,
      Bool.false_eq_true, ↓reduceIte, ends_charge, ends_pure]
    refine ⟨?_, fun h => ?_, fun _ => by simp [QueueKept, ScanScheduler.setActive]⟩
    · exact Path.tail
        (Path.single rfl (Step.admitted (a := ⟨p, context, _, 0, 0, none⟩) rfl fresh room target prefixes
        (by rw [hhistory]; rfl) rfl)) rfl (Step.quiet ..)
    · exact h.mono rfl rfl (Nat.le_add_right ..) (List.subset_cons_self _ _)

theorem admitPlain_blames : Blames (admitPlain p context : Method τ ρ σ Bool) := by
  refine Blames.bind (fun w => ends_tryReserve fun _ _ => trivial) fun answer => ?_
  rcases answer with failure | reservation
  · exact requeueFront_blames (by simp)
  · cases reservation <;> intro w <;> simp [ends_ite]

variable {now : Nat}

theorem admitProgramme_blames {variantCount bytes : Nat} :
    Blames (admitProgramme now p context variantCount bytes : Method τ ρ σ Bool) := by
  refine Blames.bind (fun w => ends_tryReserveWithBytes fun _ _ => trivial) fun answer w => ?_
  have hsettle : ∀ id, Blames (settleProgramme id now : Method τ ρ σ Unit) := by
    intro id w
    simp only [settleProgramme, ends_bind, ends_reach, ends_programme, ends_update]
    exact ⟨fun _ _ => ends_commitReservedWithBytes (fun _ => trivial) (by simp), by simp⟩
  rcases answer with failure | reservation
  · simp
  cases reservation with
  | saturated => simp
  | reserved =>
    simp only [ends_bind, ends_scheduler, ends_report, ends_update, ends_ite, ends_fail, openProgramme]
    exact ⟨by simp, fun _ => ⟨fun _ => (hsettle _ _).imp fun _ _ _ => trivial, fun _ => trivial⟩⟩

theorem openProgramme_walks {id variantCount : Nat} {l : ProgrammeLogical} {s : ScanScheduler}
    {before : MutableReport} (hi : w.Inv) (held : w.scheduler.programmes.get? id = some l)
    (active : l.active = 0) (grace : l.grace = 0) :
    Roams (openProgramme id now variantCount s before) w fun _ w' =>
      (w.Open → w'.Open) ∧ w'.scheduler.deferred = w.scheduler.deferred := by
  unfold openProgramme
  rw [Roams, walks_ite]
  constructor
  · intro _
    refine Walks.bind hi ((settleProgramme_walks held active grace).and (settleProgramme_within (r :=
      Effect Event.mild) w)) ?_
    rintro - w1 hi1 ⟨honly, heffect⟩
    refine Walks.update (Step.quiet ..) ?_
    rw [walks_charge_bind]
    refine Walks.event rfl (walks_pure.2 ⟨fun h => ?_, honly.deferred⟩)
    exact (h.effect heffect).mono rfl rfl (Nat.le_add_right ..) (List.subset_cons_self _ _)
  intro _
  refine Walks.update (Step.quiet ..) ?_
  rw [walks_charge_bind]
  exact walks_pure.2 ⟨fun h => h.mono rfl rfl (Nat.le_add_right ..) (List.Subset.refl _), rfl⟩

theorem admitProgramme_walks {variantCount bytes : Nat} {programme : UdpProbeProgramme} {port : ProbePort}
    (hi : Inv (w.core (some p))) (hhistory : w.history = .resolve p (.ok (.ready context)) :: h)
    (room : w.scheduler.hasRoom = true) (hprogramme : w.scheduler.plan.udpProgrammeFor p = some programme)
    (hport : p.port = some port) (hcount : variantCount = programme.variantCountFor p.target.address port) :
    Walks (some p) (admitProgramme now p context variantCount bytes) w (fun _ => none) fun again w' =>
      Examined w again w' := by
  have fresh : w.scheduler.programmes.get? p.logicalId = none := (hi.ledger.fresh_of_hand rfl).2
  unfold Walks admitProgramme
  rw [ends_bind]
  refine ends_tryReserveWithBytes fun answer sink => ?_
  match answer with
  | .error failure =>
    rw [ends_fail]
    refine Stops.step (κ := .failed (.sink failure)) ?_ rfl (by simp)
    simp only [Session.core, hhistory]
    exact Step.lost
  | .ok .saturated =>
    simp only [ends_bind, ends_update, ends_charge, ends_pure]
    refine ⟨Path.putBack (Step.called rfl) _ _ _, fun h => ?_, by simp⟩
    exact h.mono rfl rfl (Nat.le_add_right ..) (List.subset_cons_self _ _)
  | .ok .reserved =>
    have planned : ProgrammeLogical.Planned w.scheduler.plan ⟨p, context, variantCount, 0, 0, 0, 0, 0, 0,
      none, bytes, context.neighborSetup.isNone, false, none⟩ :=
      ⟨⟨programme, port, hprogramme, hport, hcount⟩, Nat.zero_le _⟩
    have hstep : Step .kept (w.core (some p)) ⟨_, _, none⟩ :=
      @Step.opened _ _ _ _ bytes rfl planned rfl rfl fresh room (by rw [hhistory]; rfl) rfl rfl
    simp only [ends_bind, ends_scheduler, ends_report, ends_update, OrdMap.contains, fresh, Option.isSome_none,
      Bool.false_eq_true, ↓reduceIte]
    refine (openProgramme_walks (w := { w with
        scheduler := w.scheduler.setProgramme p.logicalId _, sink := sink, history := _ :: w.history })
      (hstep.inv hi) (OrdMap.get?_insert_self ..) rfl rfl).mono (fun again w' hw' => ?_) |>.after hstep
    refine ⟨fun h => hw'.1 (h.mono rfl rfl (le_refl _) (List.subset_cons_self _ _)), fun _ => ?_⟩
    exact ⟨by rw [hw'.2]; exact le_refl _, by rw [hw'.2]; exact Nat.le_succ _⟩

theorem admitReady_walks (hi : Inv (w.core (some p)))
    (hhistory : w.history = .resolve p (.ok (.ready context)) :: h)
    (valid : validNeighborSetup p context.neighborSetup = true) (room : w.scheduler.hasRoom = true)
    (target : tally w.scheduler.perTarget p.target < w.scheduler.config.maxPerTarget) :
    Walks (some p) (admitReady now p context) w (fun _ => none) fun again w' => Examined w again w' := by
  have hprobe : w.scheduler.plan.logicalProbeAt p.logicalId = .ok p := hi.origins.queued (Or.inr rfl)
  simp only [admitReady, walks_scheduler, valid, Bool.not_true, Bool.false_eq_true, ↓reduceIte, walks_ite]
  refine ⟨fun _ => defer_walks hi, fun hroomPrefix => ?_⟩
  have hroomPrefix := Nat.lt_of_not_le hroomPrefix
  simp only [udpShapeOf, bind_assoc, walks_scheduler]
  cases hprogramme : w.scheduler.plan.udpProgrammeFor p with
  | none => exact admitPlain_walks hi hhistory room target hroomPrefix
  | some programme =>
    obtain ⟨port, hport⟩ := w.scheduler.plan.port_of_udp hprobe hprogramme
    simp only [hport, expect, pure_bind]
    cases programme.requiresLogicalProgramme p.target.address port with
    | false => exact admitPlain_walks hi hhistory room target hroomPrefix
    | true => exact admitProgramme_walks hi hhistory room hprogramme hport rfl

end Sink

section Admission

variable [ContextResolver ρ] [ResultSink σ]

variable {now : Nat}

omit [ContextResolver ρ] in
private theorem admitReady_misfit {context : ResolvedContext} {Q : Bool → Session τ ρ σ → Prop}
    {E : Fault → Session τ ρ σ → Prop} (hroom : w.scheduler.deferred.length < maxDeferredCandidates)
    (invalid : validNeighborSetup p context.neighborSetup = false) :
    Ends (admitReady now p context) w Q E ↔ E (.error .invalidContext)
      { w with scheduler := { w.scheduler with deferred := p :: w.scheduler.deferred } } := by
  simp [admitReady, ends_bind, ends_scheduler, invalid, ends_requeueFront hroom, ends_fail]

theorem admitOne_walks (hi : Inv (w.core (some p))) (room : w.scheduler.hasRoom = true) :
    Walks (some p) (admitOne now p) w (fun _ => none) fun again w' => Examined w again w' := by
  simp only [admitOne, walks_scheduler, walks_ite]
  refine ⟨fun _ => defer_walks hi, fun htarget => ?_⟩
  unfold Walks
  rw [ends_bind]
  refine ends_resolve fun answer resolver => ?_
  cases answer with
  | error failure =>
    simp only [ends_bind, ends_requeueFront (w := { w with resolver := resolver, history := _ }) hi.queue_of_hand,
      ends_fail]
    exact Stops.step (Step.rejected (h := w.history) (Rejects.unresolved (e := .context failure) rfl)) rfl
      (by simp)
  | ok resolution =>
    cases resolution with
    | pending =>
      simp only [ends_bind, ends_update, ends_charge, ends_pure]
      refine ⟨Path.putBack (Step.resolved rfl) _ _ _, fun h => ?_, by simp⟩
      exact h.mono rfl rfl (Nat.le_add_right ..) (List.subset_cons_self _ _)
    | invalidated generation =>
      simp only [ends_bind, ends_update, ends_diagnose, ends_charge, ends_pure]
      refine ⟨Path.putBack (Step.resolved rfl) _ _ _, fun h => ?_, by simp⟩
      exact h.mono rfl rfl (Nat.le_add_right ..) (List.subset_cons_self _ _)
    | ready context =>
      cases hvalid : validNeighborSetup p context.neighborSetup with
      | false =>
        rw [admitReady_misfit (w := { w with resolver := resolver, history := _ }) hi.queue_of_hand hvalid]
        refine Stops.step (Step.rejected (h := w.history) (Rejects.unresolved (e := .invalidContext) ?_)) rfl
          (by simp)
        simp [Event.kind, hvalid]
      | true =>
        have hstep : Step .kept (w.core (some p))
            ⟨w.scheduler, .resolve p (.ok (.ready context)) :: w.history, some p⟩ :=
          Step.resolved (by simp [Event.kind, hvalid])
        refine (admitReady_walks (w := { w with resolver := resolver, history := _ })
          (hstep.inv hi) rfl hvalid room (Nat.lt_of_not_le htarget)).mono (fun again w' hw' => ?_) |>.after hstep
        exact ⟨fun h => hw'.open_ (h.mono rfl rfl (le_refl _) (List.subset_cons_self _ _)), hw'.queue⟩

theorem admitOne_blames : Blames (admitOne now p : Method τ ρ σ Bool) := by
  have hready : ∀ context, Blames (admitReady now p context : Method τ ρ σ Bool) := by
    intro context
    refine Blames.bind (fun _ => trivial) fun s w =>
      ends_ite.2 ⟨fun _ => requeueFront_blames (by simp) w, fun _ => ?_⟩
    refine ends_ite.2 ⟨fun _ => defer_blames w, fun _ => Blames.bind (fun w => ?_) (fun shape => ?_) w⟩
    · simp only [udpShapeOf, ends_bind, ends_scheduler]
      cases w.scheduler.plan.udpProgrammeFor p <;> simp
    · split
      · exact admitProgramme_blames
      · exact admitPlain_blames
  refine Blames.bind (fun _ => trivial) fun s w => ends_ite.2 ⟨fun _ => defer_blames w, fun _ => ?_⟩
  refine Blames.bind (fun w => ends_resolve fun _ _ => trivial) (fun answer => ?_) w
  rcases answer with failure | resolution
  · exact requeueFront_blames (by simp)
  cases resolution with
  | ready context => exact hready context
  | pending | invalidated => exact fun _ => trivial

theorem admitLoop_blames (left deferredRemaining : Nat) :
    Blames (admitLoop now left deferredRemaining : Method τ ρ σ Unit) := by
  induction left generalizing deferredRemaining with
  | zero => exact fun _ => trivial
  | succ left ih =>
    refine Blames.bind (fun _ => trivial) fun s => Blames.bind (fun _ => trivial) fun budget w => ?_
    refine ends_ite.2 ⟨fun _ => ?_, fun _ => trivial⟩
    refine Blames.bind (fun w => ?_) (fun next => ?_) w
    · simp only [nextCandidate, ends_bind, ends_scheduler, ends_ite, ends_update, ends_pure, ends_ensure]
      refine ⟨fun _ => trivial, fun _ => ⟨fun _ => trivial, fun _ => ⟨fun id _ => ?_, by simp⟩⟩⟩
      cases w.scheduler.plan.logicalProbeAt id <;> simp
    · obtain ⟨candidate, deferredRemaining⟩ := next
      cases candidate with
      | none => exact fun _ => trivial
      | some p =>
        exact admitOne_blames.bind fun _ w => ends_ite.2 ⟨fun _ => ih deferredRemaining w, fun _ => trivial⟩

omit [ContextResolver ρ] [ResultSink σ] in
/-- The next candidate comes from the queue or from the permutation, which does not run out before the cursor does.
-/
theorem nextCandidate_walks {left : Nat} (hi : w.Inv) (alive : w.scheduler.lifecycle ≠ .closed)
    (hleft : left ≤ w.scheduler.deferred.length)
    (hroom : left = 0 → w.scheduler.deferred.length < maxTransitionsPerDrive) :
    Walks none (nextCandidate left) w (fun r => r.1) fun r w' => (w.Open → w'.Open) ∧
      w'.scheduler.hasRoom = w.scheduler.hasRoom ∧ r.2 = left - 1 ∧
      w'.scheduler.deferred.length = w.scheduler.deferred.length - min left 1 := by
  simp only [nextCandidate, walks_scheduler, walks_ite]
  refine ⟨fun hpos => ?_, fun hzero => ⟨fun _ => ?_, fun hcursor => ?_⟩⟩
  · obtain ⟨p, rest, hqueue⟩ := List.exists_cons_of_length_pos (lt_of_lt_of_le hpos hleft)
    refine ⟨?_, fun h => h.mono rfl rfl (le_refl _) (List.Subset.refl _), rfl, rfl, ?_⟩
    · have live : w.scheduler.lifecycle.live = true := by
        by_contra hlive
        have hempty := (hi.disposal.drained (Bool.eq_false_of_not_eq_true hlive) alive).2.1
        rw [Session.core_scheduler, hqueue] at hempty
        cases hempty
      have hstep := Step.taken (h := w.history) live hqueue
      simp only [hqueue] at hstep ⊢
      exact Path.single rfl hstep
    show w.scheduler.deferred.tail.length = _
    rw [List.length_tail]
    omega
  · exact ⟨Path.refl, fun h => h, rfl, by show left = left - 1; omega, by omega⟩
  have live : w.scheduler.lifecycle.live = true := by
    by_contra hlive
    exact hcursor (hi.disposal.drained (Bool.eq_false_of_not_eq_true hlive) alive).1.ge
  have hlength : w.scheduler.permutation.length = w.scheduler.plan.logicalProbeCount := hi.setup.length
  obtain ⟨id, hpermute, hid⟩ :=
    w.scheduler.permutation.permute_total (h := by rw [hlength]; exact lt_of_not_ge hcursor)
  obtain ⟨probe, hprobe, -⟩ := w.scheduler.plan.logicalProbeAt_total (hlength ▸ hid)
  simp only [hpermute, ensure, pure_bind, hprobe]
  refine ⟨Path.single rfl (Step.issued live (hroom (by omega)) hpermute hprobe), fun h => ?_, rfl,
    by show left = left - 1; omega, by show w.scheduler.deferred.length = _; omega⟩
  exact h.mono rfl rfl (le_refl _) (List.Subset.refl _)

theorem admitLoop_walks {left deferredRemaining : Nat} (hi : w.Inv)
    (alive : w.scheduler.lifecycle ≠ .closed) (hopen : w.Open)
    (hremaining : deferredRemaining ≤ w.scheduler.deferred.length)
    (hbound : w.scheduler.deferred.length + left ≤ deferredRemaining + maxTransitionsPerDrive) :
    Roams (admitLoop now left deferredRemaining) w fun _ w' => w'.Open := by
  induction left generalizing w deferredRemaining with
  | zero => exact walks_pure.2 hopen
  | succ left ih =>
    simp only [admitLoop, walks_scheduler, walks_remaining, walks_ite, walks_pure]
    refine ⟨?_, fun _ => hopen⟩
    rintro ⟨room, -⟩
    refine Walks.bind hi ((nextCandidate_walks hi alive hremaining (by omega)).alive hi alive) ?_
    rintro ⟨candidate, remaining'⟩ w1 hi1 ⟨alive1, hopen1, hroom1, rfl, hlength1⟩
    cases candidate with
    | none => exact walks_pure.2 (hopen1 hopen)
    | some p =>
      refine Walks.bind hi1 ((admitOne_walks hi1 (hroom1.trans room)).alive hi1 alive1) ?_
      rintro again w2 hi2 ⟨alive2, hexamined⟩
      have hopen2 := hexamined.open_ (hopen1 hopen)
      rw [walks_ite]
      refine ⟨fun hagain => ?_, fun _ => walks_pure.2 hopen2⟩
      have hkept := hexamined.queue hagain
      unfold QueueKept at hkept
      exact ih hi2 alive2 hopen2 (by omega) (by omega)

theorem admitCandidates_walks (hi : w.Inv) (alive : w.scheduler.lifecycle ≠ .closed) (hopen : w.Open) :
    Roams (admitCandidates now) w fun _ w' => w'.Open := by
  simp only [admitCandidates, walks_scheduler]
  exact admitLoop_walks hi alive hopen (le_refl _) (le_refl _)

end Admission

end NodeNet.Engine
