import NodeNet.Engine.Invariant

/-!
# The life of a probe

Seen from one logical id, a session is a small machine: the probe waits, is admitted as a plain probe or as a
programme, and is gone once its result is committed or it is lost.  `Core.phase` is this view of a session, and
`Turn` lists what a step can do to it.  Every step is a turn of every id (`Step.turn`), so a property of one probe
is proved from its turns.
-/

namespace NodeNet.Engine

open List OrdMap

inductive Phase where
  | waiting
  | plain (a : ActiveProbe)
  | programme (l : ProgrammeLogical)
  | gone

def Core.phase (c : Core) (id : Nat) : Phase :=
  match c.scheduler.active.get? id with
  | some a => .plain a
  | none =>
    match c.scheduler.programmes.get? id with
    | some l => .programme l
    | none => if c.Awaits id then .waiting else .gone

/-- A frame is sent for the probe, or the probe leaves with its result. -/
def Event.concerns (id : Nat) : Event → Bool
  | emit emission _ => emission.probe.logicalId == id
  | commitReserved result (.ok _) => result.probe.logicalId == id
  | commitReservedWithBytes result _ _ _ => result.probe.logicalId == id
  | _ => false

/-- Nothing that concerns the probe is recorded. -/
def Silent (id : Nat) (c c' : Core) : Prop :=
  ∃ added, c'.history = added ++ c.history ∧ ∀ e ∈ added, e.concerns id = false

/-- What a step does to one probe. -/
inductive Turn (id : Nat) (κ : Kind) (c c' : Core) : Prop where
  | idle (phase : c'.phase id = c.phase id) (silent : Silent id c c')
  /-- The probe is given up without a result, before it is admitted or by a close. -/
  | dropped (after : c'.phase id = .gone) (silent : Silent id c c') (cause : c.phase id = .waiting ∨ κ = .disposed)
  | admitted {a : ActiveProbe} (before : c.phase id = .waiting) (after : c'.phase id = .plain a)
      (probe : a.probe.logicalId = id) (unsent : a.totalTransmissions = 0)
      (resolution : c.history.head? = some (.resolve a.probe (.ok (.ready a.context))))
      (history : c'.history = .tryReserve (.ok .reserved) :: c.history)
  | opened {l : ProgrammeLogical} {bytes : Nat} (before : c.phase id = .waiting)
    (after : c'.phase id = .programme l)
      (probe : l.probe.logicalId = id) (unsent : l.transmissions = 0) (unobserved : l.best = none)
      (resolution : c.history.head? = some (.resolve l.probe (.ok (.ready l.context))))
      (history : c'.history = .tryReserveWithBytes bytes (.ok .reserved) :: c.history)
  -- Plain probes
  | restaged {a a' : ActiveProbe} (before : c.phase id = .plain a) (after : c'.phase id = .plain a')
      (probe : a'.probe = a.probe) (context : a'.context = a.context)
      (transmissions : a'.totalTransmissions = a.totalTransmissions) (history : c'.history = c.history)
  | sent {a : ActiveProbe} {emission : ProbeEmission} {answer : Except TransportFailure Unit}
      (before : c.phase id = .plain a) (after : c'.phase id = .plain (a.counting emission.purpose))
      (clear : c.scheduler.Clear c.history a.context.generation) (frame : a.Frame id emission)
      (history : c'.history = .emit emission answer :: c.history)
  | terminalized {a : ActiveProbe} {result : ScanResult} (before : c.phase id = .plain a)
    (after : c'.phase id = .gone)
      (reports : ∃ now terminal, result = a.result now terminal ∧ ∀ state, terminal.outcome = .network state →
        terminal.reason = .timeout ∨ c.scheduler.Clear c.history a.context.generation)
      (history : c'.history = .commitReserved result (.ok ()) :: c.history)
  -- Programmes
  | revised {l l' : ProgrammeLogical} (before : c.phase id = .programme l) (after : c'.phase id = .programme l')
      (revises : l'.Revises l) (keeps : l'.Keeps l) (silent : Silent id c c')
  | observed {l : ProgrammeLogical} {candidate : ProgrammeBest} (before : c.phase id = .programme l)
      (after : c'.phase id = .programme (l.observe candidate))
        (clear : c.scheduler.Clear c.history l.context.generation)
      (history : c'.history = c.history)
  | tallied {l : ProgrammeLogical} {wireId now sent : Nat} {emission : ProbeEmission}
      {answer : Except TransportFailure Unit} {r : MutableReport} (before : c.phase id = .programme l)
      (after : c'.phase id = .programme (l.counting sent))
        (clear : c.scheduler.Clear c.history l.context.generation)
      (probe : emission.probe = l.probe) (generation : emission.routeGeneration = l.context.generation)
      (purpose : emission.purpose = .probe) (counts : c.scheduler.counts wireId now answer = true)
      (history : c'.history = .emit emission answer :: .reached (.emission wireId now) c.scheduler r :: c.history)
  | untallied {l : ProgrammeLogical} {wireId now : Nat} {emission : ProbeEmission}
      {answer : Except TransportFailure Unit} {r : MutableReport} (before : c.phase id = .programme l)
      (after : c'.phase id = .programme l) (clear : c.scheduler.Clear c.history l.context.generation)
      (probe : emission.probe = l.probe) (generation : emission.routeGeneration = l.context.generation)
      (counts : emission.purpose = .probe → c.scheduler.counts wireId now answer = false)
      (history : c'.history = .emit emission answer :: .reached (.emission wireId now) c.scheduler r :: c.history)
  | settled {l : ProgrammeLogical} {result : ScanResult} {actual : Nat} {r : MutableReport}
      (before : c.phase id = .programme l) (after : c'.phase id = .gone) (reports : ∃ now,
        result = l.settlement now)
      (history : c'.history = .commitReservedWithBytes result actual l.reservationBytes (.ok ()) ::
        .reached (.settleProgramme id) c.scheduler r :: c.history)
  | aborted {l : ProgrammeLogical} {result : ScanResult} {r : MutableReport} (before : c.phase id = .programme l)
      (after : c'.phase id = .gone)
      (reports : ∃ now outcome reason, result = l.aborted now outcome reason ∧ ∀ state, outcome ≠ .network state)
      (history : c'.history = .commitReservedWithBytes result 0 l.reservationBytes (.ok ()) ::
        .reached (.abortProgramme id) c.scheduler r :: c.history)
  /-- The programme leaves although its commit fails. -/
  | lost {l : ProgrammeLogical} {result : ScanResult} {actual : Nat} {failure : SinkFailure} {point : Point}
      {r : MutableReport} (before : c.phase id = .programme l) (after : c'.phase id = .gone)
      (probe : result.probe.logicalId = id)
      (history : c'.history = .commitReservedWithBytes result actual l.reservationBytes (.error failure) ::
        .reached point c.scheduler r :: c.history)

variable {κ : Kind} {c c' : Core} {id : Nat}

/-! ### Phases -/

variable {a : ActiveProbe} {l : ProgrammeLogical}

theorem Core.phase_plain (h : c.scheduler.active.get? id = some a) : c.phase id = .plain a := by
  rw [Core.phase, h]

theorem Core.phase_programme (ha : c.scheduler.active.get? id = none)
    (hl : c.scheduler.programmes.get? id = some l) : c.phase id = .programme l := by
  rw [Core.phase, ha, hl]

theorem Core.phase_waiting (hl : Ledger c) (hw : c.Awaits id) : c.phase id = .waiting := by
  obtain ⟨ha, hp, -⟩ := hl.not_held_of_awaits hw
  rw [Core.phase, ha, hp]
  exact if_pos hw

theorem Core.phase_gone (ha : c.scheduler.active.get? id = none) (hl : c.scheduler.programmes.get? id = none)
    (hw : ¬ c.Awaits id) : c.phase id = .gone := by
  rw [Core.phase, ha, hl]
  exact if_neg hw

/-- What is committed is gone. -/
theorem Ledger.gone_of_committed (h : Ledger c) (hc : id ∈ committed c.history) : c.phase id = .gone := by
  refine Core.phase_gone ?_ ?_ fun hw => (h.not_held_of_awaits hw).2.2 hc
  · cases ha : c.scheduler.active.get? id with
    | none => rfl
    | some a => exact absurd hc (h.only_active ha).2.1
  cases hl : c.scheduler.programmes.get? id with
  | none => rfl
  | some l => exact absurd hc (h.only_programme hl).2.1

theorem Core.phase_congr (ha : c'.scheduler.active.get? id = c.scheduler.active.get? id)
    (hl : c'.scheduler.programmes.get? id = c.scheduler.programmes.get? id) (hw : c'.Awaits id ↔ c.Awaits id) :
    c'.phase id = c.phase id := by
  rw [Core.phase, Core.phase, ha, hl]
  simp only [hw]

theorem Core.plain_of_phase (h : c.phase id = .plain a) : c.scheduler.active.get? id = some a := by
  unfold Core.phase at h
  split at h
  · cases h
    assumption
  split at h
  · cases h
  · split at h <;> cases h

theorem Core.programme_of_phase (h : c.phase id = .programme l) : c.scheduler.programmes.get? id = some l := by
  unfold Core.phase at h
  split at h
  · cases h
  split at h
  · cases h
    assumption
  · split at h <;> cases h

/-! ### Silence -/

theorem Silent.same (h : c'.history = c.history) : Silent id c c' := adds_none h

variable {e : Event}

theorem Silent.one (he : e.concerns id = false) (h : c'.history = e :: c.history) : Silent id c c' := adds_one he h

theorem Silent.two {e' : Event} (he : e.concerns id = false) (he' : e'.concerns id = false)
    (h : c'.history = e :: e' :: c.history) : Silent id c c' := adds_two he he' h

/-! ### Turns -/

private theorem Turn.of_same (ha : c'.scheduler.active.get? id = c.scheduler.active.get? id)
    (hl : c'.scheduler.programmes.get? id = c.scheduler.programmes.get? id) (hw : c'.Awaits id ↔ c.Awaits id)
    (silent : Silent id c c') : Turn id κ c c' :=
  .idle (Core.phase_congr ha hl hw) silent

/-- The probe is as before, unless it waited and does so no longer. -/
private theorem Turn.of_fewer (ha : c'.scheduler.active.get? id = c.scheduler.active.get? id)
    (hl : c'.scheduler.programmes.get? id = c.scheduler.programmes.get? id) (hw : c'.Awaits id → c.Awaits id)
    (hledger : Ledger c) (silent : Silent id c c') : Turn id κ c c' := by
  by_cases hc : c.Awaits id
  · by_cases hc' : c'.Awaits id
    · exact .of_same ha hl (iff_of_true hc' hc) silent
    obtain ⟨hactive, hprogramme, -⟩ := hledger.not_held_of_awaits hc
    exact .dropped (Core.phase_gone (ha.trans hactive) (hl.trans hprogramme) hc') silent
      (Or.inl (Core.phase_waiting hledger hc))
  · exact .of_same ha hl (iff_of_false (fun h => hc (hw h)) hc) silent

variable {i : Nat}

private theorem Turn.of_revise {l' : ProgrammeLogical} (hledger : Ledger c)
    (held : c.scheduler.programmes.get? i = some l) (hactive : c'.scheduler.active = c.scheduler.active)
    (hprogrammes : c'.scheduler.programmes = c.scheduler.programmes.insert i l') (hw : c'.Awaits id ↔ c.Awaits id)
    (silent : id ≠ i → Silent id c c')
    (hself : id = i → c.phase id = .programme l → c'.phase id = .programme l' → Turn id κ c c') :
    Turn id κ c c' := by
  by_cases hid : id = i
  · have hnone := (hledger.only_programme held).1
    refine hself hid (Core.phase_programme (hid ▸ hnone) (hid ▸ held)) (Core.phase_programme ?_ ?_)
    · rw [hactive, hid, hnone]
    · rw [hprogrammes, hid, get?_insert_self]
  · refine .of_same (by rw [hactive]) ?_ hw (silent hid)
    rw [hprogrammes, get?_insert_of_ne _ _ hid]

private theorem Turn.of_erase (hledger : Ledger c) (held : c.scheduler.programmes.get? i = some l)
    (hactive : c'.scheduler.active = c.scheduler.active)
    (hprogrammes : c'.scheduler.programmes = c.scheduler.programmes.erase i) (hw : c'.Awaits id ↔ c.Awaits id)
    (silent : id ≠ i → Silent id c c')
    (hself : id = i → c.phase id = .programme l → c'.phase id = .gone → Turn id κ c c') : Turn id κ c c' := by
  by_cases hid : id = i
  · subst hid
    obtain ⟨hnone, -, hfree⟩ := hledger.only_programme held
    refine hself rfl (Core.phase_programme hnone held) (Core.phase_gone ?_ ?_ fun h => hfree (hw.1 h))
    · rw [hactive, hnone]
    · rw [hprogrammes, get?_erase_self]
  · refine .of_same (by rw [hactive]) ?_ hw (silent hid)
    rw [hprogrammes, get?_erase_of_ne _ hid]

private theorem concerns_of_ne {p : LogicalProbe} (hp : p.logicalId = i) (hid : id ≠ i) :
    (p.logicalId == id) = false := by
  rw [hp, beq_eq_false_iff_ne]
  exact hid.symm

/-- Every step is a turn of every probe. -/
theorem Step.turn (h : Step κ c c') (hi : Inv c) (id : Nat) : Turn id κ c c' := by
  cases h with
  | called neutral =>
    refine .of_same rfl rfl Iff.rfl (.one ?_ rfl)
    exact Event.neutral_elim neutral rfl (fun _ => rfl) (fun _ => rfl) fun _ _ _ _ => rfl
  | resolved | commitRefused => exact .of_same rfl rfl Iff.rfl (.one rfl rfl)
  | released releases =>
    refine .of_same rfl rfl Iff.rfl (.one ?_ rfl)
    exact Event.releases_elim releases (fun _ _ => rfl) fun _ _ _ => rfl
  | stopInitiated =>
    refine .of_fewer rfl rfl (fun hw => ?_) hi.ledger (.one rfl rfl)
    rcases hw with hw | hw | hw
    · obtain ⟨ordinal, hge, hid⟩ := SeededPermutation.mem_unissued.1 hw
      exact Or.inl (SeededPermutation.mem_unissued.2 ⟨ordinal, hi.setup.cursor.trans hge, hid⟩)
    · cases hw
    · cases hw
  | @closed s h released =>
    by_cases hw : Core.Awaits ⟨s.disposed, h, none⟩ id
    · -- what is still to come stays so when the session is closed
      have hw' : Core.Awaits ⟨s, h, none⟩ id := by
        rcases hw with hw | hw | hw
        · exact Or.inl hw
        · cases hw
        · cases hw
      obtain ⟨hactive, hprogramme, -⟩ := hi.ledger.not_held_of_awaits hw'
      exact .of_same hactive.symm hprogramme.symm (iff_of_true hw hw') (.same rfl)
    · exact .dropped (Core.phase_gone rfl rfl hw) (.same rfl) (Or.inr rfl)
  | @terminalized s h i expires a result perTarget perPrefix held probe fresh target prefixes reports =>
    by_cases hid : id = i
    · subst hid
      obtain ⟨hnone, -, hfree⟩ := hi.ledger.only_active held
      exact .terminalized (Core.phase_plain held) (Core.phase_gone (get?_erase_self ..) hnone hfree) reports rfl
    · refine .of_same (get?_erase_of_ne _ hid) rfl Iff.rfl (.one ?_ rfl)
      exact concerns_of_ne (probe ▸ hi.origins.active_id held) hid
  | @restaged s h i a a' held probe context transmissions =>
    by_cases hid : id = i
    · subst hid
      exact .restaged (Core.phase_plain held) (Core.phase_plain (get?_insert_self ..)) probe context transmissions
        rfl
    · exact .of_same (get?_insert_of_ne _ _ hid) rfl Iff.rfl (.same rfl)
  | @sent s h i a emission answer held clear frame =>
    by_cases hid : id = i
    · subst hid
      exact .sent (Core.phase_plain held) (Core.phase_plain (get?_insert_self ..)) clear frame rfl
    · refine .of_same (get?_insert_of_ne _ _ hid) rfl Iff.rfl (.one ?_ rfl)
      exact concerns_of_ne (frame.probe ▸ hi.origins.active_id held) hid
  | taken live queued =>
    refine .of_same rfl rfl ?_ (.same rfl)
    simp only [Core.Awaits, queued, map_cons, mem_cons, Option.toList_some, Option.toList_none, map_nil,
      not_mem_nil, or_false]
    rw [or_comm (a := id = _)]
  | issued live room permuted decoded =>
    have hnamed := (ScanPlan.logicalProbeAt_ok _ decoded).2.1
    refine .of_same rfl rfl ?_ (.same rfl)
    simp only [Core.Awaits, SeededPermutation.unissued_cons permuted, mem_cons, Option.toList_some,
      Option.toList_none, map_cons, map_nil, not_mem_nil, or_false, hnamed]
    tauto
  | deferred =>
    refine .of_same rfl rfl ?_ (.same rfl)
    simp [Core.Awaits]
  | requeued =>
    refine .of_same rfl rfl ?_ (.same rfl)
    simp only [Core.Awaits, map_cons, mem_cons, Option.toList_some, Option.toList_none, map_nil,
      not_mem_nil, or_false]
    tauto
  | rejected rejects =>
    refine .of_same rfl rfl ?_ ?_
    · simp only [Core.Awaits, map_cons, mem_cons, Option.toList_some, Option.toList_none, map_nil,
        not_mem_nil, or_false]
      tauto
    · cases rejects <;> exact .one rfl rfl
  | lost =>
    refine .of_fewer rfl rfl (fun hw => ?_) hi.ledger (.one rfl rfl)
    rcases hw with hw | hw | hw
    · exact Or.inl hw
    · exact Or.inr (Or.inl hw)
    · cases hw
  | @admitted s h p a probe fresh room target prefixes resolution unsent =>
    by_cases hid : id = p.logicalId
    · subst hid
      refine .admitted (Core.phase_waiting hi.ledger (Or.inr (Or.inr ?_))) (Core.phase_plain (get?_insert_self ..))
        (by rw [probe]) unsent (by rw [probe]; exact resolution) rfl
      exact mem_singleton_self _
    · refine .of_same (get?_insert_of_ne _ _ hid) rfl ?_ (.one rfl rfl)
      simp [Core.Awaits, hid]
  | @opened s h p l bytes probe planned active grace fresh room resolution unsent unobserved =>
    by_cases hid : id = p.logicalId
    · subst hid
      have hw : Core.Awaits ⟨s, h, some p⟩ p.logicalId := Or.inr (Or.inr (mem_singleton_self _))
      have hnone := (hi.ledger.not_held_of_awaits hw).1
      exact .opened (Core.phase_waiting hi.ledger hw) (Core.phase_programme hnone (get?_insert_self ..))
        (by rw [probe]) unsent unobserved (by rw [probe]; exact resolution) rfl
    · refine .of_same rfl (get?_insert_of_ne _ _ hid) ?_ (.one rfl rfl)
      simp [Core.Awaits, ScanScheduler.setProgramme, hid]
  | scheduled held revises active grace room target prefixes keeps
  | retired sent held names revises active grace target prefixes keeps | revised held revises active grace keeps
  | finished held revises active grace target prefixes keeps =>
    exact .of_revise hi.ledger held rfl rfl Iff.rfl (fun _ => .same rfl) fun _ before after =>
      .revised before after revises keeps (.same rfl)
  | expired kept held revises active grace keeps =>
    exact .of_revise hi.ledger held rfl rfl Iff.rfl (fun _ => .one rfl rfl) fun _ before after =>
      .revised before after revises keeps (.one rfl rfl)
  | observed held revises clear =>
    exact .of_revise hi.ledger held rfl rfl Iff.rfl (fun _ => .same rfl) fun _ before after =>
      .observed before after clear rfl
  | tallied request held revises clear frame purpose counts =>
    refine .of_revise hi.ledger held rfl rfl Iff.rfl (fun hid => .two ?_ rfl rfl) fun _ before after =>
      .tallied before after clear frame.probe frame.generation purpose counts rfl
    exact concerns_of_ne (frame.probe ▸ hi.origins.programme_id held) hid
  | @untallied s h wireId now p l emission answer r request held clear frame counts =>
    by_cases hid : id = p.logicalId
    · subst hid
      have hnone := (hi.ledger.only_programme held).1
      exact .untallied (Core.phase_programme hnone held) (Core.phase_programme hnone held) clear frame.probe
        frame.generation counts rfl
    · refine .of_same rfl rfl Iff.rfl (.two ?_ rfl rfl)
      exact concerns_of_ne (frame.probe ▸ hi.origins.programme_id held) hid
  | @settled s h i actual l result r held active grace probe reports =>
    rw [pruneAdaptiveTargetState_eq]
    refine .of_erase hi.ledger held rfl rfl Iff.rfl (fun hid => .two ?_ rfl rfl) fun hid before after =>
      .settled before after reports (by rw [hid])
    exact concerns_of_ne (probe ▸ hi.origins.programme_id held) hid
  | @settleRefused s h i actual l result failure r held active grace probe =>
    refine .of_erase hi.ledger held rfl rfl Iff.rfl (fun hid => .two ?_ rfl rfl) fun hid before after =>
      .lost before after (hid ▸ probe ▸ hi.origins.programme_id held) rfl
    exact concerns_of_ne (probe ▸ hi.origins.programme_id held) hid
  | @aborted s h i l result answer r programmeReady perTarget perPrefix held probe target prefixes reports =>
    refine .of_erase hi.ledger held rfl rfl Iff.rfl (fun hid => .two ?_ rfl rfl) fun hid before after => ?_
    · exact concerns_of_ne (probe ▸ hi.origins.programme_id held) hid
    cases answer with
    | ok u => exact .aborted before after reports (by rw [hid])
    | error failure => exact .lost before after (hid ▸ probe ▸ hi.origins.programme_id held) rfl
  | _ => exact .of_same rfl rfl Iff.rfl (.same rfl)

end NodeNet.Engine
