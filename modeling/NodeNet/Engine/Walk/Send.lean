import NodeNet.Engine.Walk.Settle

/-!
# Scheduling and sending

The methods that give variants a wire id and that send frames follow steps.
-/

namespace NodeNet.Engine

open OrdMap ScanScheduler

variable {τ ρ σ : Type} {w : Session τ ρ σ}

/-! ### Scheduling -/

theorem selectVariant_some {family : Option Nat} {variants : List UdpProbeVariant} {index i : Nat}
    {v : UdpProbeVariant}
    (h : selectVariant family variants index = some (i, v)) : index ≤ i ∧ i < index + variants.length := by
  induction variants generalizing index with
  | nil => cases h
  | cons candidate rest ih =>
    simp only [selectVariant] at h
    split at h
    · cases h
      simp
    have := ih h
    simp only [List.length_cons]
    omega

/-- The programme takes another turn after one of its variants was scheduled. -/
def ProgrammeLogical.again (l : ProgrammeLogical) (selectedIndex maximumConcurrent : Nat) : Bool :=
  l.neighborReady && decide (selectedIndex + 1 < l.variantCount) && decide (l.active + 1 < maximumConcurrent)

/-- The scheduler after a variant of the programme `id` got a wire id. -/
def ScanScheduler.placed (s : ScanScheduler) (id : Nat) (l : ProgrammeLogical) (selectedIndex : Nat)
    (physical : ProgrammePhysical) (again : Bool) : ScanScheduler :=
  { s with
    nextWireId := s.nextWireId + 1
    physical := s.physical.insert s.nextWireId physical
    programmes := s.programmes.insert id { l with nextVariant := selectedIndex + 1, active := l.active + 1 }
    perTarget := increment s.perTarget l.probe.target
    perPrefix := increment s.perPrefix l.context.prefixKey
    programmeReady := if again then s.programmeReady ++ [id] else s.programmeReady }

variable {id : Nat}

theorem placeVariant_ends {selectedIndex maximumConcurrent : Nat} {variant : UdpProbeVariant}
    {purpose : EmissionPurpose} {l : ProgrammeLogical} (hi : w.Inv)
    (held : w.scheduler.programmes.get? id = some l) :
    Ends (placeVariant id selectedIndex variant maximumConcurrent purpose) w
      (fun again w' => again = l.again selectedIndex maximumConcurrent ∧ Lands w'
        (w.scheduler.placed id l selectedIndex ⟨id, variant, .pending purpose, 0, none⟩ again)
        (w.report.charged 1 0 0) w.history)
      (fun e w' => w' = w ∧ e = .error .stateCapacityExceeded) := by
  have fresh : w.scheduler.physical.get? w.scheduler.nextWireId = none := hi.lanes.fresh
  simp only [placeVariant, ends_bind, ends_scheduler, ends_ensure]
  refine ⟨fun next hnext => ?_, fun _ => ⟨trivial, trivial⟩⟩
  have hnext : w.scheduler.nextWireId + 1 = next := by
    simp only [checkedAdd, Option.ite_none_right_eq_some, Option.some.injEq] at hnext
    exact hnext.2
  simp only [ends_update, setPhysical, contains, fresh, Option.isSome_none, Bool.false_eq_true,
    ↓reduceIte, ends_bind, ends_programme, found_iff held,
    setProgramme, ends_ite, ends_charge, ends_pure]
  subst hnext
  refine ⟨fun hagain => ⟨hagain.symm, rfl, rfl, rfl⟩, fun hagain => ⟨?_, rfl, rfl, rfl⟩⟩
  exact (Bool.eq_false_of_not_eq_true hagain).symm

/-- A variant is scheduled for a programme that has room for it. -/
theorem scheduleVariant_walks {selectedIndex maximumConcurrent : Nat} {variant : UdpProbeVariant}
    {l : ProgrammeLogical} (hi : w.Inv) (held : w.scheduler.programmes.get? id = some l)
    (hindex : selectedIndex + 1 ≤ l.variantCount) (room : w.scheduler.laneFree = true)
    (hfree : w.scheduler.congested l maximumConcurrent = false) :
    Roams (scheduleVariant id l selectedIndex variant maximumConcurrent) w fun _ _ => True := by
  simp only [congested, Bool.or_eq_false_iff, decide_eq_false_iff_not, not_le] at hfree
  have hplace : ∀ purpose, Roams (placeVariant id selectedIndex variant maximumConcurrent purpose) w fun _ _ =>
    True := by
    intro purpose
    refine (placeVariant_ends hi held).mono ?_ ?_
    · rintro again w' ⟨-, hw'⟩
      have revises : ProgrammeLogical.Revises
          { l with nextVariant := selectedIndex + 1, active := l.active + 1 } l :=
        ⟨rfl, rfl, rfl, hindex⟩
      rw [hw'.core]
      refine ⟨Path.tail
        (Path.single rfl (@Step.scheduled _ _ ⟨id, variant, .pending purpose, 0, none⟩ _ _ held revises
        rfl rfl room hfree.1.2 hfree.2 ⟨rfl, rfl⟩)) rfl (Step.quiet ..), trivial⟩
    · rintro e w' ⟨rfl, rfl⟩
      exact Stops.now (by simp)
  unfold scheduleVariant
  rw [Roams, walks_ite]
  exact ⟨fun _ => hplace _, fun _ => Walks.ensure (fun setup _ => hplace _) (by simp)⟩

variable {now : Nat}

theorem scheduleTurn_walks (hi : w.Inv) (room : w.scheduler.laneFree = true) :
    Roams (scheduleTurn now id) w fun _ _ => True := by
  simp only [scheduleTurn, walks_scheduler]
  cases held : w.scheduler.programmes.get? id with
  | none => exact walks_pure.2 trivial
  | some l =>
    obtain ⟨p, port, hp, hport, hcount⟩ := (hi.origins.programmes held).2.shape
    have hp : w.scheduler.plan.udpProgrammeFor l.probe = some p := hp
    have hrequeue : Roams (do
        update fun s => { s with programmeReady := s.programmeReady ++ [id] }
        pure false) w fun _ _ => True :=
      Walks.update (Step.quiet ..) (walks_pure.2 trivial)
    simp only [walks_ite, walks_pure, implies_true, true_and, hp, ensure, pure_bind, hport, expect]
    intro hunsent
    refine ⟨fun _ => hrequeue, fun _ => ⟨fun _ => hrequeue, fun hfree => ?_⟩⟩
    split
    · exact Walks.bind hi (Walks.reviseProgramme held ⟨rfl, rfl, rfl, le_refl _⟩ rfl rfl ⟨rfl, rfl⟩)
        fun _ _ _ _ => walks_pure.2 trivial
    next index v hselect =>
    refine scheduleVariant_walks hi held ?_ room (Bool.eq_false_of_not_eq_true hfree)
    have := (selectVariant_some hselect).2
    simp only [Bool.or_eq_true, decide_eq_true_eq, not_or, List.length_drop] at *
    simp only [UdpProbeProgramme.variantCountFor] at hcount
    omega

theorem scheduleLoop_walks {fuel turns : Nat} (hi : w.Inv) :
    Roams (scheduleLoop now fuel turns) w fun _ _ => True := by
  induction fuel generalizing w turns with
  | zero => exact walks_pure.2 trivial
  | succ fuel ih =>
    simp only [scheduleLoop, walks_scheduler, walks_remaining, walks_ite, walks_pure, implies_true, and_true]
    rintro ⟨-, room, -⟩
    cases hready : w.scheduler.programmeReady with
    | nil => exact walks_pure.2 trivial
    | cons id rest =>
      refine Walks.update_bind hi (Step.quiet ..) fun hi' => ?_
      exact Walks.bind hi' (scheduleTurn_walks hi' room) fun again w' hi'' _ => ih hi''

theorem scheduleProgrammeVariants_walks (hi : w.Inv) (hopen : w.Open) :
    Roams (scheduleProgrammeVariants now) w fun _ w' => w'.Open := by
  simp only [scheduleProgrammeVariants, walks_scheduler, walks_remaining]
  exact ((scheduleLoop_walks hi).and (scheduleLoop_within (r := Effect Event.mild) w)).mono fun _ w' hw' =>
    hopen.effect hw'.2

/-! ### Sending -/

theorem tryTake_walks : Roams (tryTake now) w fun _ w' =>
      ∃ bucket, w' = w.withScheduler { w.scheduler with bucket := bucket } := by
  simp only [tryTake, walks_scheduler]
  refine Walks.ensure (fun bucket _ => ?_) (by simp)
  refine Walks.lift (fun taken _ => ?_) (fun e he => ?_)
  · exact Walks.update (Step.quiet ..) (walks_pure.2 ⟨_, rfl⟩)
  · rw [TokenBucket.tryTake_error he]
    simp

theorem ScanScheduler.timeoutFor_error {s : ScanScheduler} {n : Nat} {e : EngineError}
    (h : s.timeoutFor n = .error e) : e ≠ .reservationInvariant := by
  simp only [ScanScheduler.timeoutFor] at h
  split at h
  · cases h
    simp
  · cases h

theorem ScanPlan.port_of_udp (plan : ScanPlan) {probe : LogicalProbe} {p : UdpProbeProgramme}
    (h : plan.logicalProbeAt id = .ok probe) (hp : plan.udpProgrammeFor probe = some p) :
    ∃ port, probe.port = some port := by
  refine Option.isSome_iff_exists.1 ((plan.logicalProbeAt_ok h).2.2 ?_)
  rw [RawPlan.udpProgrammeFor_udp hp]
  rfl

theorem Walks.udpVariantOf {β : Type} {probe : LogicalProbe} {f : Option UdpProbeVariant → Method τ ρ σ β}
    {k' : β → Option LogicalProbe} {R : β → Session τ ρ σ → Prop}
    (hprobe : w.scheduler.plan.logicalProbeAt id = .ok probe) (h : ∀ variant, Walks none (f variant) w k' R) :
    Walks none (Engine.udpVariantOf probe >>= f) w k' R := by
  simp only [Engine.udpVariantOf, bind_assoc, walks_scheduler]
  cases hp : w.scheduler.plan.udpProgrammeFor probe with
  | none => exact h none
  | some p =>
    obtain ⟨port, hport⟩ := w.scheduler.plan.port_of_udp hprobe hp
    simp [hport, expect, h]

section Emission

variable {l : ProgrammeLogical} {now wireId : Nat} {p : ProgrammePhysical} {purpose : EmissionPurpose}

private def ProgrammePhysical.awaiting (p : ProgrammePhysical) (now deadline : Nat) (purpose : EmissionPurpose) :
    ProgrammePhysical :=
  { p with
    transmissions := saturatingAdd u8Max p.transmissions 1
    stage := .waiting purpose deadline
    lastSentAt := if purpose = .probe then some now else p.lastSentAt }

/-- A request that was sent waits for its answer; it is counted if it can be. -/
theorem trackPhysical_ends (sent : w.scheduler.physical.get? wireId = some p)
    (held : w.scheduler.programmes.get? p.logicalId = some l) :
    Ends (trackPhysical now wireId p purpose) w
      (fun again w' => again = true ∧ w'.history = w.history ∧ ∃ p' : ProgrammePhysical,
        p'.logicalId = p.logicalId ∧
        ((purpose = .probe ∧ w.scheduler.counts wireId now (.ok ()) = true ∧ w'.scheduler =
            (w.scheduler.setPhysical wireId p').setProgramme p.logicalId (l.counting p.transmissions)) ∨
          (purpose ≠ .probe ∧ w'.scheduler = w.scheduler.setPhysical wireId p')))
      (fun e w' => ∃ error, e = .error error ∧ error ≠ .reservationInvariant ∧ w'.history = w.history ∧
        w.scheduler.counts wireId now (.ok ()) = false ∧ (w'.scheduler = w.scheduler ∨
          ∃ p' : ProgrammePhysical, p'.logicalId = p.logicalId ∧
            w'.scheduler = w.scheduler.setPhysical wireId p')) := by
  have hcounts : ∀ {timeout}, w.scheduler.timeoutFor p.transmissions = .ok timeout →
      w.scheduler.counts wireId now (.ok ()) = ((MonotonicTime.checkedAdd now timeout).isSome &&
        (checkedAdd u32Max l.transmissions 1).isSome) := by
    intro timeout htimeout
    simp [counts, countable, sent, htimeout, held]
  simp only [trackPhysical, ends_bind, ends_scheduler, ends_lift]
  refine ⟨fun timeout htimeout => ?_, fun e he => ?_⟩
  · rw [ends_ensure]
    refine ⟨fun deadline hdeadline => ?_, fun hnone => ?_⟩
    · rw [ends_revisePhysical, sent]
      refine ⟨fun p' hp' => ?_, fun h => by cases h⟩
      rw [← Option.some.inj hp', ends_ite]
      constructor
      · intro hpurpose
        simp only [ends_bind, ends_programme, setPhysical, held]
        refine ⟨fun l' hl' => ?_, fun h => by cases h⟩
        rw [← Option.some.inj hl', ends_ensure]
        refine ⟨fun transmissions hadd => ?_, fun hfull => ?_⟩
        · simp only [ends_update, ends_charge, ends_pure]
          refine ⟨trivial, trivial, p.awaiting now deadline purpose, rfl, Or.inl ⟨hpurpose, ?_, ?_⟩⟩
          · rw [hcounts htimeout, hdeadline, hadd]
            rfl
          have htransmissions : l.transmissions + 1 = transmissions := by
            simp only [checkedAdd, Option.ite_none_right_eq_some, Option.some.injEq] at hadd
            exact hadd.2
          rw [ProgrammeLogical.counting, htransmissions]
          rfl
        refine ⟨_, rfl, by simp, rfl, ?_, Or.inr ⟨p.awaiting now deadline purpose, rfl, rfl⟩⟩
        rw [hcounts htimeout, hfull]
        exact Bool.and_false _
      intro hpurpose
      simp only [ends_bind, ends_charge, ends_pure]
      exact ⟨trivial, trivial, p.awaiting now deadline purpose, rfl, Or.inr ⟨hpurpose, rfl⟩⟩
    refine ⟨_, rfl, by simp, rfl, ?_, Or.inl rfl⟩
    rw [hcounts htimeout, hnone]
    rfl
  · refine ⟨e, rfl, timeoutFor_error he, trivial, ?_, Or.inl trivial⟩
    simp only [counts, countable, sent, he]

/-- What sending a request leaves: the other requests, and the session free to go on, or open at least. -/
private def Session.Leaves (w : Session τ ρ σ) (wireId : Nat) (again : Bool) (w' : Session τ ρ σ) : Prop :=
  if again then w'.Free ∧ ∀ i, i ≠ wireId → w'.scheduler.physical.get? i = w.scheduler.physical.get? i else w'.Open

private theorem trackPhysical_walks {emission : ProbeEmission} {transport : τ} {r : MutableReport}
    (hi : w.Inv) (hfree : w.Free) (sent : w.scheduler.physical.get? wireId = some p)
    (held : w.scheduler.programmes.get? p.logicalId = some l) (frame : p.Frame wireId l emission) :
    Ends (trackPhysical now wireId p emission.purpose)
      { w with
        transport := transport
        history := .emit emission (.ok ()) :: .reached (.emission wireId now) w.scheduler r :: w.history }
      (fun again w' => Path Step (· = .kept) (w.core none) (w'.core none) ∧ w.Leaves wireId again w')
      (fun e w' => Stops (w.core none) (w'.core none) e) := by
  have clear := hfree.clear l.context.generation
  have hsubset : w.history ⊆
      .emit emission (.ok ()) :: .reached (.emission wireId now) w.scheduler r :: w.history :=
    fun e he => List.mem_cons_of_mem _ (List.mem_cons_of_mem _ he)
  refine (trackPhysical_ends (by exact sent) (by exact held)).mono ?_ ?_
  · rintro again ⟨⟩ ⟨rfl, rfl, p', hname, ⟨hpurpose, hcounts, rfl⟩ | ⟨hpurpose, rfl⟩⟩
    · have revises : (l.counting p.transmissions).Revises l := ⟨rfl, rfl, rfl, (hi.origins.programmes held).2.next⟩
      have tallied : Step .kept (w.core none) ⟨_, _, none⟩ :=
        Step.tallied (r := r) sent held revises clear frame hpurpose hcounts
      exact ⟨Path.tail (Path.single rfl tallied) rfl (Step.resent (by exact sent) hname),
        hfree.mono rfl rfl hsubset, fun i hne => get?_insert_of_ne _ _ hne⟩
    have untallied : Step .kept (w.core none) ⟨_, _, none⟩ :=
      @Step.untallied _ _ _ now _ _ _ (.ok ()) r sent held clear frame fun h => absurd h hpurpose
    exact ⟨Path.tail (Path.single rfl untallied) rfl (Step.resent sent hname), hfree.mono rfl rfl hsubset,
      fun i hne => get?_insert_of_ne _ _ hne⟩
  rintro e w' ⟨error, rfl, herror, hhistory, hcounts, hscheduler⟩
  have untallied : Step .kept (w.core none) ⟨_, _, none⟩ :=
    @Step.untallied _ _ _ now _ _ _ (.ok ()) r sent held clear frame fun _ => hcounts
  refine ⟨error, rfl, herror, w'.core none, ?_, Or.inl rfl⟩
  rcases hscheduler with hscheduler | ⟨p', hname, hscheduler⟩ <;> rw [Session.core_eq hscheduler hhistory]
  · exact Path.single rfl untallied
  · exact Path.tail (Path.single rfl untallied) rfl (Step.resent sent hname)

variable [ProbeTransport τ] [ResultSink σ]

omit [ProbeTransport τ] in
private theorem failedPhysical_walks {emission : ProbeEmission} {failure : TransportFailure} {transport : τ}
    {r : MutableReport} (hi : w.Inv) (hfree : w.Free) (sent : w.scheduler.physical.get? wireId = some p)
    (held : w.scheduler.programmes.get? p.logicalId = some l) (frame : p.Frame wireId l emission) :
    Ends (do
        failTransport now failure.code
        pure false)
      { w with
        transport := transport
        history := .emit emission (.error failure) :: .reached (.emission wireId now) w.scheduler r :: w.history }
      (fun again w' => Path Step (· = .kept) (w.core none) (w'.core none) ∧ w.Leaves wireId again w')
      (fun e w' => Stops (w.core none) (w'.core none) e) := by
  have untallied : Step .kept (w.core none) ⟨_, _, none⟩ :=
    @Step.untallied _ _ _ now _ _ _ (.error failure) r sent held (hfree.clear _) frame fun _ => rfl
  have hi' : Inv (Session.core { w with
      transport := transport
      history := .emit emission (.error failure) :: .reached (.emission wireId now) w.scheduler r :: w.history }
        none) :=
    untallied.inv hi
  have live := hi.disposal.live_of_programme hfree.stop held
  exact (Walks.bind hi' (failTransport_walks hi' live) fun _ _ _ hopen => walks_pure.2 hopen).after untallied

theorem emitPhysical_walks (hi : w.Inv) (hfree : w.Free)
    (sent : w.scheduler.physical.get? wireId = some p) : Roams (emitPhysical now wireId) w (w.Leaves wireId) := by
  refine Walks.bind hi tryTake_walks ?_
  rintro taken w1 hi1 ⟨bucket, rfl⟩
  have hfree1 : (w.withScheduler { w.scheduler with bucket := bucket }).Free := ⟨hfree.stop, hfree.invalidating⟩
  have sent1 : (w.withScheduler { w.scheduler with bucket := bucket }).scheduler.physical.get? wireId = some p :=
    sent
  rw [walks_ite]
  refine ⟨fun _ => walks_pure.2 (Or.inr hfree1), fun _ => Walks.physicalAt sent1 ?_⟩
  obtain ⟨-, -, l, held⟩ := hi1.lanes.wire sent1
  cases hstage : p.stage with
  | waiting purpose deadline | pendingCleanup terminal => exact walks_pure.2 ⟨hfree1, fun i _ => rfl⟩
  | pending purpose =>
    have frame : p.Frame wireId l ⟨wireId, l.probe, l.context.generation, purpose,
      saturatingAdd u8Max p.transmissions 1, some p.variant⟩ := ⟨rfl, rfl, rfl, hstage⟩
    refine Walks.programme held ?_
    unfold Walks
    rw [ends_bind, ends_reach, ends_bind]
    refine ends_emit fun answer transport => ?_
    cases answer with
    | error failure => exact failedPhysical_walks hi1 hfree1 sent1 held frame
    | ok u => exact trackPhysical_walks hi1 hfree1 sent1 held frame

theorem emitProgrammePending_walks (hi : w.Inv) (hopen : w.Open) :
    Roams (emitProgrammePending now) w fun _ w' => w'.Open := by
  simp only [emitProgrammePending, walks_scheduler, walks_remaining]
  rcases hopen with hspent | hfree
  · rw [Nat.sub_eq_zero_of_le hspent, List.take_zero]
    exact walks_pure.2 (Or.inl hspent)
  refine Walks.eachUntil (P := fun id w => ∃ p, w.scheduler.physical.get? id = some p) (S := Session.Free)
    (J := Session.Open) hi ((keysWhere_nodup _ _).sublist (List.take_sublist _ _)) (fun _ => exists_of_mem_take)
    hfree ?_ (fun _ h => Or.inr h)
  rintro id w hi ⟨p, hp⟩ hfree
  refine (emitPhysical_walks hi hfree hp).mono fun again w' hw' => ?_
  cases again with
  | false => exact hw'
  | true =>
    refine ⟨hw'.1, fun i hne hi => ?_⟩
    rwa [hw'.2 i hne]

variable {id : Nat}

omit [ProbeTransport τ] in
theorem trackSent_walks {a active : ActiveProbe} {terminal : Option PendingTerminal} {before : MutableReport}
    (hi : w.Inv) (hfree : w.Free) (held : w.scheduler.active.get? id = some a) :
    Roams (trackSent now id active purpose terminal before) w fun _ w' => w'.Open := by
  cases terminal with
  | some terminal =>
    simp only [trackSent, walks_scheduler]
    refine Walks.bind hi ((terminalize_walks hi held fun _ _ => Or.inr (hfree.clear _)).and
      (terminalize_within (r := Effect Event.mild) w)) ?_
    rintro - w1 hi1 ⟨-, heffect⟩
    refine Walks.event rfl (walks_pure.2 ?_)
    exact (Session.Open.effect (Or.inr hfree) heffect).imp_right fun h =>
      h.mono rfl rfl (List.subset_cons_self _ _)
  | none =>
    simp only [trackSent, walks_scheduler]
    refine Walks.lift (fun timeout _ => ?_) (fun e he => ScanScheduler.timeoutFor_error he)
    refine Walks.ensure (fun deadline _ => ?_) (by simp)
    refine Walks.bind hi (Walks.reviseActive held rfl rfl rfl) fun _ w1 _ hw1 => walks_pure.2 (Or.inr ?_)
    subst hw1
    exact ⟨hfree.stop, hfree.invalidating⟩

theorem emitFrame_walks {a : ActiveProbe} {terminal : Option PendingTerminal} (hi : w.Inv)
    (hfree : w.Free) (held : w.scheduler.active.get? id = some a)
    (pending : a.stage = .pending purpose ∨ ∃ terminal, a.stage = .pendingCleanup terminal ∧
    purpose = .tcpResetCleanup) :
    Roams (emitFrame now id a purpose terminal) w fun _ w' => w'.Open := by
  refine Walks.bind hi tryTake_walks ?_
  rintro taken w1 hi1 ⟨bucket, rfl⟩
  have hfree1 : (w.withScheduler { w.scheduler with bucket := bucket }).Free := ⟨hfree.stop, hfree.invalidating⟩
  rw [walks_ite]
  refine ⟨fun _ => walks_pure.2 (Or.inr hfree1), fun _ => ?_⟩
  have held : (w.withScheduler { w.scheduler with bucket := bucket }).scheduler.active.get? id = some a := held
  refine Walks.udpVariantOf (hi1.origins.active held) fun variant => ?_
  refine Walks.send hi1 held (hfree1.clear _) ⟨rfl, rfl, rfl, pending⟩ rfl
    fun answer w2 hi2 hscheduler hhistory => ?_
  have held2 : w2.scheduler.active.get? id = some (a.counting purpose) := by
    rw [hscheduler]
    exact get?_insert_self ..
  have hfree2 : w2.Free := by
    refine hfree1.mono (by rw [hscheduler]; rfl) (by rw [hscheduler]; rfl) ?_
    rw [hhistory]
    exact List.subset_cons_self _ _
  cases answer with
  | error failure =>
    cases terminal with
    | some terminal =>
      refine Walks.bind hi2 ((terminalize_walks hi2 held2 fun _ _ => Or.inr (hfree2.clear _)).and
        (terminalize_within (r := Effect Event.mild) _)) ?_
      rintro - w3 hi3 ⟨-, heffect⟩
      have live : w3.scheduler.lifecycle.live = true := by
        rw [heffect.lifecycle]
        exact hi2.disposal.live_of_active hfree2.stop held2
      exact Walks.bind hi3 (failTransport_walks hi3 live) fun _ _ _ hopen => walks_pure.2 hopen
    | none =>
      have live := hi2.disposal.live_of_active hfree2.stop held2
      exact Walks.bind hi2 (failTransport_walks hi2 live) fun _ _ _ hopen => walks_pure.2 hopen
  | ok u =>
    simp only [walks_report, walks_charge_bind]
    exact trackSent_walks hi2 ⟨hfree2.stop, hfree2.invalidating⟩ held2

theorem emitActive_walks (hi : w.Inv) (hopen : w.Open) : Roams (emitActive now id) w fun _ w' => w'.Open := by
  simp only [emitActive, walks_remaining, walks_ite, walks_scheduler, walks_pure]
  refine ⟨fun _ => hopen, fun hleft => ?_⟩
  have hfree : w.Free := hopen.resolve_left fun hspent => hleft (Nat.sub_eq_zero_of_le hspent)
  cases held : w.scheduler.active.get? id with
  | none => exact walks_pure.2 hopen
  | some a =>
    dsimp only
    cases hstage : a.stage with
    | pending purpose => exact emitFrame_walks hi hfree held (Or.inl hstage)
    | pendingCleanup terminal => exact emitFrame_walks hi hfree held (Or.inr ⟨terminal, hstage, rfl⟩)
    | waiting purpose deadline => exact walks_pure.2 hopen

theorem emitPending_walks (hi : w.Inv) (hopen : w.Open) : Roams (emitPending now) w fun _ w' => w'.Open := by
  refine Walks.bind hi (scheduleProgrammeVariants_walks hi hopen) fun _ w1 hi1 hopen1 => ?_
  refine Walks.bind hi1 (emitProgrammePending_walks hi1 hopen1) fun _ w2 hi2 hopen2 => ?_
  simp only [walks_scheduler, walks_remaining]
  refine Walks.forUntil (I := fun _ => Session.Open) (J := Session.Open) hi2 hopen2 (fun id l w hi hopen => ?_)
    (fun _ h => h)
  refine (emitActive_walks hi hopen).mono fun again w' hw' => ?_
  cases again <;> exact hw'

end Emission

end NodeNet.Engine
