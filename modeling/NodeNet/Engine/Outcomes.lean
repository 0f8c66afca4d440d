import NodeNet.Engine.Invariant

/-!
# Outcomes of the settling methods

In a state that satisfies the invariant, the methods that settle, abort, finish, expire and retire end in a state
that is given exactly, up to the answers of the sink.  No lookup fails and no counter runs out.
-/

namespace NodeNet.Engine

open OrdMap

variable {τ ρ σ : Type} {w : Session τ ρ σ}

/-- The state of a session that the steps see. -/
def Session.core (w : Session τ ρ σ) (hand : Option LogicalProbe) : Core := ⟨w.scheduler, w.history, hand⟩

@[simp] theorem Session.core_scheduler (k : Option LogicalProbe) : (w.core k).scheduler = w.scheduler := rfl

@[simp] theorem Session.core_history (k : Option LogicalProbe) : (w.core k).history = w.history := rfl

/-- The invariant between two operations, when no candidate is in the hand. -/
abbrev Session.Inv (w : Session τ ρ σ) : Prop := Engine.Inv (w.core none)

variable {s : ScanScheduler}

theorem Session.core_eq {h : List Event} (hs : w.scheduler = s) (hh : w.history = h) (k : Option LogicalProbe) :
    w.core k = ⟨s, h, k⟩ := by
  rw [Session.core, hs, hh]

def Session.withScheduler (w : Session τ ρ σ) (s : ScanScheduler) : Session τ ρ σ := { w with scheduler := s }

/-- What a session has become, apart from the states of the collaborators. -/
structure Lands (w : Session τ ρ σ) (s : ScanScheduler) (r : MutableReport) (h : List Event) : Prop where
  scheduler : w.scheduler = s
  report : w.report = r
  history : w.history = h

def MutableReport.charged (r : MutableReport) (transitions emissions results : Nat) : MutableReport :=
  ⟨r.transitions + transitions, r.emissions + emissions, r.results + results⟩

/-! ### Counters that are not empty -/

section Positive

variable {κ : Type} [LinearOrder κ] {m : Meter κ} {s : ScanScheduler}

theorem Meter.Balanced.pos_of_active (h : m.Balanced (· ≤ ·) s) {id : Nat} {a : ActiveProbe}
    (ha : s.active.get? id = some a) : 0 < tally (m.counts s) (m.key a.probe a.context) := by
  have hload := h (m.key a.probe a.context)
  have hactive := Meter.activeLoad_erase (m := m) ha (m.key a.probe a.context)
  rw [if_pos rfl] at hactive
  simp only [Meter.load] at hload
  omega

theorem Meter.Balanced.lanes_le (h : m.Balanced (· ≤ ·) s) {id : Nat} {l : ProgrammeLogical}
    (hl : s.programmes.get? id = some l) : s.lanes id ≤ tally (m.counts s) (m.key l.probe l.context) := by
  have hload := h (m.key l.probe l.context)
  have hlanes := Meter.laneLoad_retain (m := m) hl (m.key l.probe l.context)
  rw [if_pos rfl] at hlanes
  simp only [Meter.load] at hload
  omega

end Positive

variable {wireId : Nat}

theorem lanes_pos {p : ProgrammePhysical} (h : s.physical.get? wireId = some p) :
    0 < s.lanes p.logicalId := count_pos_iff.2 ⟨wireId, p, h, by simp⟩

/-! ### Counters going down -/

variable {E : Fault → Session τ ρ σ → Prop} {prefixKey : PrefixKey} {target : ScanTarget}

theorem decrementCounters_ends (ht : 0 < tally w.scheduler.perTarget target)
    (hp : 0 < tally w.scheduler.perPrefix prefixKey) :
    Ends (decrementCounters target prefixKey) w (fun _ w' => ∃ perTarget perPrefix,
      Lowered w.scheduler.perTarget perTarget target 1 ∧ Lowered w.scheduler.perPrefix perPrefix prefixKey 1 ∧
      w' = { w with scheduler := { w.scheduler with perTarget := perTarget, perPrefix := perPrefix } }) E := by
  obtain ⟨perTarget, hpt, hlt⟩ := decrement_eq_some ht
  obtain ⟨perPrefix, hpp, hlp⟩ := decrement_eq_some hp
  simp only [decrementCounters, ends_bind, ends_scheduler, ends_update, ends_ensure_some hpt, ends_ensure_some hpp]
  exact ⟨perTarget, perPrefix, hlt, hlp, rfl⟩

/-- `drop` forgets one request in flight and lowers the tallies of its target and prefix. -/
private def DropsLane (drop : Nat → Method τ ρ σ Unit) (target : ScanTarget)
    (prefixKey : PrefixKey) (E : Fault → Session τ ρ σ → Prop) : Prop :=
  ∀ id (w : Session τ ρ σ), (∃ p, w.scheduler.physical.get? id = some p) →
    0 < tally w.scheduler.perTarget target → 0 < tally w.scheduler.perPrefix prefixKey →
    Ends (drop id) w (fun _ w' => ∃ perTarget perPrefix,
      Lowered w.scheduler.perTarget perTarget target 1 ∧ Lowered w.scheduler.perPrefix perPrefix prefixKey 1 ∧
      w' = { w with scheduler := { w.scheduler with
        physical := w.scheduler.physical.erase id, perTarget := perTarget, perPrefix := perPrefix } }) E

private theorem dropLanes_ends {drop : Nat → Method τ ρ σ Unit} {ids : List Nat}
    (hdrop : DropsLane drop target prefixKey E) (hnodup : ids.Nodup)
    (hids : ∀ id ∈ ids, ∃ p, w.scheduler.physical.get? id = some p)
    (ht : ids.length ≤ tally w.scheduler.perTarget target)
    (hp : ids.length ≤ tally w.scheduler.perPrefix prefixKey) :
    Ends (forM ids drop) w (fun _ w' => ∃ physical perTarget perPrefix,
      (∀ i, physical.get? i = if i ∈ ids then none else w.scheduler.physical.get? i) ∧
      Lowered w.scheduler.perTarget perTarget target ids.length ∧
      Lowered w.scheduler.perPrefix perPrefix prefixKey ids.length ∧
      w' = { w with scheduler := { w.scheduler with
        physical := physical, perTarget := perTarget, perPrefix := perPrefix } }) E := by
  induction ids generalizing w with
  | nil => exact ⟨w.scheduler.physical, _, _, fun i => by simp, Lowered.refl, Lowered.refl, rfl⟩
  | cons id ids ih =>
    rw [List.nodup_cons] at hnodup
    simp only [List.length_cons] at ht hp
    rw [List.forM_cons]
    refine Ends.seq (hdrop id w (hids id (List.mem_cons_self ..)) (by omega) (by omega)) ?_
    rintro - w1 ⟨perTarget, perPrefix, hlt, hlp, rfl⟩
    have hlt' := hlt target
    have hlp' := hlp prefixKey
    rw [if_pos rfl] at hlt' hlp'
    refine (ih hnodup.2 (fun i hi => ?_) (by simp only; omega) (by simp only; omega)).imp ?_
    · have hne : i ≠ id := fun he => hnodup.1 (he ▸ hi)
      simp only [get?_erase_of_ne _ hne]
      exact hids i (List.mem_cons_of_mem _ hi)
    rintro - w2 ⟨physical, perTarget', perPrefix', hget, hlt2, hlp2, rfl⟩
    refine ⟨physical, perTarget', perPrefix', fun i => ?_, ?_, ?_, rfl⟩
    · rw [hget i]
      simp only [get?_erase, List.mem_cons]
      by_cases h1 : i = id <;> by_cases h2 : i ∈ ids <;> simp [h1, h2]
    · rw [List.length_cons, Nat.add_comm]
      exact hlt.trans hlt2
    · rw [List.length_cons, Nat.add_comm]
      exact hlp.trans hlp2

private theorem physical_retain_eq {logicalId : Nat} {physical : OrdMap Nat ProgrammePhysical}
    (h : ∀ i, physical.get? i =
      if i ∈ s.physical.keysWhere (fun _ p => p.logicalId == logicalId) then none else s.physical.get? i) :
    physical = s.physical.retain fun _ p => p.logicalId != logicalId := by
  apply ext_get?
  intro i
  rw [h i, get?_retain]
  cases hp : s.physical.get? i with
  | none => simp
  | some p =>
    have hmem : i ∈ s.physical.keysWhere (fun _ p => p.logicalId == logicalId) ↔ p.logicalId = logicalId := by
      rw [mem_keysWhere]
      constructor
      · rintro ⟨p', hp', hname⟩
        rw [hp, Option.some.injEq] at hp'
        subst hp'
        simpa using hname
      · exact fun hname => ⟨p, hp, by simp [hname]⟩
    by_cases hname : p.logicalId = logicalId
    · rw [if_pos (hmem.2 hname)]
      simp [hname, Option.filter]
    · rw [if_neg (fun hi => hname (hmem.1 hi))]
      simp [hname, Option.filter]

private theorem dropAll_ends {drop : Nat → Method τ ρ σ Unit} {logicalId : Nat}
    (hdrop : DropsLane drop target prefixKey E)
    (ht : w.scheduler.lanes logicalId ≤ tally w.scheduler.perTarget target)
    (hp : w.scheduler.lanes logicalId ≤ tally w.scheduler.perPrefix prefixKey) :
    Ends (forM (w.scheduler.physical.keysWhere fun _ p => p.logicalId == logicalId) drop) w
      (fun _ w' => ∃ perTarget perPrefix,
        Lowered w.scheduler.perTarget perTarget target (w.scheduler.lanes logicalId) ∧
        Lowered w.scheduler.perPrefix perPrefix prefixKey (w.scheduler.lanes logicalId) ∧
        w' = { w with scheduler := { w.scheduler with
          physical := w.scheduler.physical.retain fun _ p => p.logicalId != logicalId
          perTarget := perTarget
          perPrefix := perPrefix } }) E := by
  have hlength : (w.scheduler.physical.keysWhere fun _ p => p.logicalId == logicalId).length =
      w.scheduler.lanes logicalId := keysWhere_length _ _
  refine (dropLanes_ends hdrop (keysWhere_nodup _ _) (fun id hid => ?_) (hlength ▸ ht) (hlength ▸ hp)).imp ?_
  · obtain ⟨p, hget, -⟩ := mem_keysWhere.1 hid
    exact ⟨p, hget⟩
  rintro - w' ⟨physical, perTarget, perPrefix, hget, hlt, hlp, rfl⟩
  rw [hlength] at hlt hlp
  exact ⟨perTarget, perPrefix, hlt, hlp, by rw [physical_retain_eq hget]⟩

/-! ### Settling, aborting, finishing -/

variable {id now : Nat} {l : ProgrammeLogical}

theorem settleProgramme_ends [ResultSink σ] (held : w.scheduler.programmes.get? id = some l) :
    Ends (settleProgramme id now) w
      (fun _ w' => Lands w'
        (ScanScheduler.pruneAdaptiveTargetState
          { w.scheduler with programmes := w.scheduler.programmes.erase id } l.probe.target)
        (w.report.charged 1 0 1)
        (.commitReservedWithBytes (l.settlement now) l.metadataBytes l.reservationBytes (.ok ()) ::
          .reached (.settleProgramme id) w.scheduler w.report :: w.history))
      (fun e w' => ∃ failure, e = .error (.sink failure) ∧ Lands w'
        { w.scheduler with programmes := w.scheduler.programmes.erase id } w.report
        (.commitReservedWithBytes (l.settlement now) l.metadataBytes l.reservationBytes (.error failure) ::
          .reached (.settleProgramme id) w.scheduler w.report :: w.history)) := by
  simp only [settleProgramme, ends_bind, ends_reach, ends_programme, found_iff held, ends_update]
  refine ends_commitReservedWithBytes (fun sink => ?_) (fun failure sink => ⟨failure, rfl, rfl, rfl, rfl⟩)
  simp only [ends_charge]
  exact ⟨rfl, rfl, rfl⟩

theorem finishProgrammeCorrelations_ends {normalizeDecisive : Bool} (hi : w.Inv)
    (held : w.scheduler.programmes.get? id = some l) :
    Ends (finishProgrammeCorrelations id normalizeDecisive) w (fun _ w' => ∃ perTarget perPrefix,
      Lowered w.scheduler.perTarget perTarget l.probe.target (w.scheduler.lanes id) ∧
      Lowered w.scheduler.perPrefix perPrefix l.context.prefixKey (w.scheduler.lanes id) ∧
      w' = w.withScheduler
        ((w.scheduler.withoutLanes id (w.scheduler.programmeReady.filter fun i => i != id) perTarget
        perPrefix).setProgramme id (l.finish normalizeDecisive))) E := by
  simp only [finishProgrammeCorrelations, ends_bind, ends_programme, found_iff held, ends_scheduler]
  refine (dropAll_ends (fun i w hget ht hp => ?_) (hi.targets.lanes_le held) (hi.prefixes.lanes_le held)).imp ?_
  · simp only [ends_bind, ends_update]
    exact (decrementCounters_ends (by exact ht) (by exact hp)).imp (fun _ w' hw' => hw')
  rintro - w' ⟨perTarget, perPrefix, hlt, hlp, rfl⟩
  simp only [ends_update, ends_reviseProgramme, ScanScheduler.forgetProgramme, found_iff held]
  exact ⟨perTarget, perPrefix, hlt, hlp, rfl⟩

/-- An aborted programme is gone with its lanes, whatever the sink answers to its result. -/
def Session.Aborts (w : Session τ ρ σ) (id : Nat) (l : ProgrammeLogical) (report : MutableReport)
    (result : ScanResult) (answer : Except SinkFailure Unit) (w' : Session τ ρ σ) : Prop :=
  ∃ perTarget perPrefix, Lowered w.scheduler.perTarget perTarget l.probe.target (w.scheduler.lanes id) ∧
    Lowered w.scheduler.perPrefix perPrefix l.context.prefixKey (w.scheduler.lanes id) ∧
    Lands w'
      { w.scheduler.withoutLanes id (w.scheduler.programmeReady.filter fun i => i != id)
        perTarget perPrefix with programmes := w.scheduler.programmes.erase id }
      report (.commitReservedWithBytes result 0 l.reservationBytes answer ::
        .reached (.abortProgramme id) w.scheduler w.report :: w.history)

theorem abortProgramme_ends [ResultSink σ] {outcome : ProbeOutcome} {reason : TerminalReason} (hi : w.Inv)
    (held : w.scheduler.programmes.get? id = some l) :
    Ends (abortProgramme id now outcome reason) w
      (fun _ => w.Aborts id l (w.report.charged 1 0 1) (l.aborted now outcome reason) (.ok ()))
      (fun e w' => ∃ failure, e = .error (.sink failure) ∧
        w.Aborts id l w.report (l.aborted now outcome reason) (.error failure) w') := by
  simp only [abortProgramme, ends_bind, ends_reach, ends_programme, found_iff held, ends_update, ends_scheduler]
  refine (dropAll_ends (w := { w with
      scheduler := { w.scheduler with programmes := w.scheduler.programmes.erase id }
      history := .reached (.abortProgramme id) w.scheduler w.report :: w.history }) (fun i w hget ht hp => ?_)
    (hi.targets.lanes_le held) (hi.prefixes.lanes_le held)).imp ?_
  · obtain ⟨p, hp'⟩ := hget
    simp only [ends_bind, ends_physicalAt, found_iff hp', ends_update]
    exact (decrementCounters_ends (by exact ht) (by exact hp)).imp (fun _ w' hw' => hw')
  rintro - w' ⟨perTarget, perPrefix, hlt, hlp, rfl⟩
  refine ends_commitReservedWithBytes (fun sink => ?_)
    (fun failure sink => ⟨failure, rfl, perTarget, perPrefix, hlt, hlp, rfl, rfl, rfl⟩)
  simp only [ends_charge]
  exact ⟨perTarget, perPrefix, hlt, hlp, rfl, rfl, rfl⟩

/-! ### Grace -/

theorem expireProgrammeGrace_ends [ProbeTransport τ] {g : ProgrammeGrace} (hi : w.Inv)
    (kept : w.scheduler.programmeGrace.get? wireId = some g)
    (held : w.scheduler.programmes.get? g.logicalId = some l) :
    Ends (expireProgrammeGrace wireId) w
      (fun _ w' => 0 < l.grace ∧ Lands w'
        { w.scheduler with
          programmeGrace := w.scheduler.programmeGrace.erase wireId
          programmes := w.scheduler.programmes.insert g.logicalId { l with grace := l.grace - 1 } }
        (w.report.charged 1 0 0) (.retire wireId :: w.history)) E := by
  have hpos : 0 < l.grace := by
    have hlanes : 0 < w.scheduler.graceLanes g.logicalId := count_pos_iff.2 ⟨wireId, g, kept, by simp⟩
    exact lt_of_lt_of_le hlanes (hi.lanes.grace held)
  have hsub : checkedSub l.grace 1 = some (l.grace - 1) := if_pos hpos
  simp only [expireProgrammeGrace, ends_bind, ends_scheduler, ends_ensure_some kept, ends_update]
  refine ends_retire fun transport => ?_
  simp only [ends_programme, found_iff held, ends_ensure_some hsub, ends_charge]
  exact ⟨hpos, rfl, rfl, rfl⟩

/-- The ready queue after a request of the programme left the wire. -/
def ScanScheduler.readyAfterRetire (s : ScanScheduler) (id : Nat) (l : ProgrammeLogical) : List Nat :=
  if !l.stopUnsent && decide (l.nextVariant < l.variantCount) && !s.programmeReady.contains id then
    s.programmeReady ++ [id]
  else s.programmeReady

theorem retirePhysical_ends {p : ProgrammePhysical} (hi : w.Inv)
    (sent : w.scheduler.physical.get? wireId = some p) (held : w.scheduler.programmes.get? p.logicalId = some l) :
    Ends (retirePhysical wireId now) w
      (fun _ w' => ∃ expires perTarget perPrefix,
        MonotonicTime.checkedAdd now w.scheduler.config.lateGrace = some expires ∧ 0 < l.active ∧
        Lowered w.scheduler.perTarget perTarget l.probe.target 1 ∧
        Lowered w.scheduler.perPrefix perPrefix l.context.prefixKey 1 ∧
        Lands w'
          { w.scheduler with
            physical := w.scheduler.physical.erase wireId
            programmes := w.scheduler.programmes.insert p.logicalId
              { l with active := l.active - 1, grace := l.grace + 1 }
            perTarget := perTarget
            perPrefix := perPrefix
            programmeGrace :=
              w.scheduler.programmeGrace.insert wireId ⟨p.logicalId, expires, p.variant, p.lastSentAt⟩
            programmeReady := w.scheduler.readyAfterRetire p.logicalId l }
          (w.report.charged 1 0 0) w.history)
      (fun e w' => e = .error .deadlineOverflow ∧
        MonotonicTime.checkedAdd now w.scheduler.config.lateGrace = none ∧
        w' = w.withScheduler { w.scheduler with physical := w.scheduler.physical.erase wireId }) := by
  have hlanes := lanes_pos sent
  have hpos : 0 < l.active := lt_of_lt_of_le hlanes (hi.lanes.active held)
  have hsub : checkedSub l.active 1 = some (l.active - 1) := if_pos hpos
  simp only [retirePhysical, ends_bind, ends_physicalAt, found_iff sent, ends_update, ends_scheduler, ends_ensure]
  refine ⟨fun expires hexpires => ?_, fun hnone => ⟨trivial, hnone, rfl⟩⟩
  simp only [ends_programme, found_iff held, found_iff hsub]
  have ht : 0 < tally w.scheduler.perTarget l.probe.target := lt_of_lt_of_le hlanes (hi.targets.lanes_le held)
  have hp : 0 < tally w.scheduler.perPrefix l.context.prefixKey :=
    lt_of_lt_of_le hlanes (hi.prefixes.lanes_le held)
  refine (decrementCounters_ends (by exact ht) (by exact hp)).imp ?_
  rintro - w' ⟨perTarget, perPrefix, hlt, hlp, rfl⟩
  exact ⟨expires, perTarget, perPrefix, hexpires, hpos, hlt, hlp, rfl, rfl, rfl⟩

/-! ### Plain probes -/

theorem terminalize_ends [ResultSink σ] {terminal : PendingTerminal} {charged : Bool} {a : ActiveProbe}
    (hi : w.Inv) (held : w.scheduler.active.get? id = some a) :
    Ends (terminalize id now terminal charged) w
      (fun _ w' => ∃ expires perTarget perPrefix,
        MonotonicTime.checkedAdd now w.scheduler.config.lateGrace = some expires ∧
        Lowered w.scheduler.perTarget perTarget a.probe.target 1 ∧
        Lowered w.scheduler.perPrefix perPrefix a.context.prefixKey 1 ∧
        Lands w'
          { w.scheduler with
            active := w.scheduler.active.erase id
            perTarget := perTarget
            perPrefix := perPrefix
            grace := w.scheduler.grace.insert id expires }
          (if charged then w.report.charged 1 0 1 else w.report)
          (.commitReserved (a.result now terminal) (.ok ()) :: w.history))
      (fun e w' => (e = .error .deadlineOverflow ∧ w' = w ∧
          MonotonicTime.checkedAdd now w.scheduler.config.lateGrace = none) ∨ ∃ failure,
            e = .error (.sink failure) ∧
        Lands w' w.scheduler w.report (.commitReserved (a.result now terminal) (.error failure) ::
          w.history)) := by
  have ht : 0 < tally w.scheduler.perTarget a.probe.target := hi.targets.pos_of_active held
  have hp : 0 < tally w.scheduler.perPrefix a.context.prefixKey := hi.prefixes.pos_of_active held
  have hgrace : w.scheduler.grace.get? id = none := hi.ledger.grace_of_active held
  have hcheck : (w.scheduler.grace.contains id || tally w.scheduler.perTarget a.probe.target == 0 ||
      tally w.scheduler.perPrefix a.context.prefixKey == 0) = false := by
    simp only [contains, hgrace, Option.isSome_none, Bool.false_or, Bool.or_eq_false_iff, beq_eq_false_iff_ne]
    omega
  simp only [terminalize, ends_bind, ends_activeAt, found_iff held, ends_scheduler, hcheck, Bool.false_eq_true,
    ↓reduceIte, ends_ensure]
  refine ⟨fun expires hexpires => ?_, fun hnone => Or.inl ⟨trivial, trivial, hnone⟩⟩
  refine ends_commitReserved (fun sink => ?_) (fun failure sink => Or.inr ⟨failure, rfl, rfl, rfl, rfl⟩)
  simp only [found_iff held, ends_update]
  refine (decrementCounters_ends (by exact ht) (by exact hp)).imp ?_
  rintro - w' ⟨perTarget, perPrefix, hlt, hlp, rfl⟩
  cases charged with
  | true | false => exact ⟨expires, perTarget, perPrefix, hexpires, hlt, hlp, rfl, rfl, rfl⟩

end NodeNet.Engine
