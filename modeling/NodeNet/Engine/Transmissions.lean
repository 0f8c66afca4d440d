import NodeNet.Engine.Life
import NodeNet.Engine.Scripted

/-!
# Counting frames

The frames that a committed result reports, compared with the frames that were handed to the transport.  A plain
probe counts a frame before it is sent, and its counter saturates; a programme counts a frame after the transport
took it.
-/

namespace NodeNet.Engine

open List

/-- The event hands a frame of the probe to the transport that its result reports: for UDP the probe frames,
otherwise every frame. -/
def Event.reportable (id : Nat) (family : ProbeFamily) : Event → Bool
  | emit emission _ => emission.probe.logicalId == id && (family != .udp || emission.purpose == .probe)
  | _ => false

def emissions (id : Nat) (family : ProbeFamily) (history : List Event) : Nat :=
    history.countP (Event.reportable id family)

/-- The event hands a probe frame of the programme to the transport that the programme does not count, because the
transport refuses it or because it cannot be counted in the state that was marked just before. -/
def Event.missed (id : Nat) (e : Event) (before : Option Event) : Bool :=
  match e, before with
  | emit emission answer, some (.reached (.emission wireId now) s _) =>
    emission.probe.logicalId == id && emission.purpose == .probe && !s.counts wireId now answer
  | _, _ => false

def misses (id : Nat) : List Event → Nat
  | [] => 0
  | e :: history => (e.missed id history.head?).toNat + misses id history

/-- The results that were committed for plain probes, newest first. -/
def plainResults (history : List Event) : List ScanResult :=
  history.filterMap fun
    | .commitReserved result (.ok _) => some result
    | _ => none

/-- The results that were committed for programmes, newest first. -/
def programmeResults (history : List Event) : List ScanResult :=
  history.filterMap fun
    | .commitReservedWithBytes result _ _ (.ok _) => some result
    | _ => none

variable {history : List Event}

theorem mem_plainResults {r : ScanResult} : r ∈ plainResults history ↔ .commitReserved r (.ok ()) ∈ history := by
  rw [plainResults, mem_filterMap]
  constructor
  · rintro ⟨e, he, hr⟩
    split at hr <;> cases hr
    exact he
  · exact fun he => ⟨_, he, rfl⟩

theorem mem_programmeResults {r : ScanResult} :
    r ∈ programmeResults history ↔ ∃ actual reserved, .commitReservedWithBytes r actual reserved
    (.ok ()) ∈ history := by
  rw [programmeResults, mem_filterMap]
  constructor
  · rintro ⟨e, he, hr⟩
    split at hr <;> cases hr
    exact ⟨_, _, he⟩
  · rintro ⟨actual, reserved, he⟩
    exact ⟨_, he, rfl⟩

variable {κ : Kind} {c c' : Core} {id : Nat} {family : ProbeFamily}

/-! ### Counting -/

theorem emissions_cons (e : Event) (history : List Event) :
    emissions id family (e :: history) = (e.reportable id family).toNat + emissions id family history := by
  rw [emissions, countP_cons, emissions]
  cases e.reportable id family <;> simp [Nat.add_comm]

variable {e : Event}

private theorem Event.reportable_of_concerns (h : e.concerns id = false) : e.reportable id family = false := by
  cases e with
  | emit emission answer =>
    have hne : (emission.probe.logicalId == id) = false := h
    simp only [reportable, hne, Bool.false_and]
  | _ => rfl

private theorem Event.missed_of_concerns (h : e.concerns id = false) (before : Option Event) :
    e.missed id before = false := by
  cases e with
  | emit emission answer =>
    have hne : (emission.probe.logicalId == id) = false := h
    unfold missed
    split
    · simp_all
    · rfl
  | _ => rfl

private theorem emissions_append {added : List Event} (h : ∀ e ∈ added, e.concerns id = false)
    (history : List Event) : emissions id family (added ++ history) = emissions id family history := by
  rw [emissions, emissions, countP_append, countP_eq_zero.2, Nat.zero_add]
  intro e he
  rw [Event.reportable_of_concerns (h e he)]
  simp

private theorem misses_append {added : List Event} (h : ∀ e ∈ added, e.concerns id = false)
    (history : List Event) : misses id (added ++ history) = misses id history := by
  induction added with
  | nil => rfl
  | cons e added ih =>
    have hmissed := Event.missed_of_concerns (h e (mem_cons_self ..)) (added ++ history).head?
    rw [cons_append, misses, hmissed, ih (forall_mem_cons.1 h).2]
    exact Nat.zero_add _

private theorem emissions_eq_zero (h : ∀ e ∈ history, e.concerns id = false) :
    emissions id family history = 0 := by
  rw [← append_nil history, emissions_append h]
  rfl

private theorem misses_eq_zero (h : ∀ e ∈ history, e.concerns id = false) : misses id history = 0 := by
  rw [← append_nil history, misses_append h]
  rfl

/-! ### The counters -/

/-- The counter of a probe agrees with the frames that were sent for it. -/
def Reports (id : Nat) (history : List Event) : Phase → Prop
  | .waiting => ∀ e ∈ history, e.concerns id = false
  | .plain a => a.totalTransmissions = min u32Max (emissions id a.probe.family history)
  | .programme l => l.transmissions + misses id history = emissions id l.probe.family history
  | .gone =>
    (∀ r, .commitReserved r (.ok ()) ∈ history → r.probe.logicalId = id →
      r.transmissions = min u32Max (emissions id r.probe.family history)) ∧
    (∀ r actual reserved, .commitReservedWithBytes r actual reserved (.ok ()) ∈ history → r.probe.logicalId = id →
      r.transmissions + misses id history = emissions id r.probe.family history)

/-- What does not concern the probe changes nothing. -/
theorem Reports.silent {p : Phase} (h : Reports id c.history p) (hs : Silent id c c') :
    Reports id c'.history p := by
  obtain ⟨added, hadded, hall⟩ := hs
  rw [hadded]
  cases p with
  | waiting =>
    intro e he
    rcases mem_append.1 he with he | he
    · exact hall e he
    · exact h e he
  | plain a =>
    rw [Reports, emissions_append hall]
    exact h
  | programme l =>
    rw [Reports, emissions_append hall, misses_append hall]
    exact h
  | gone =>
    -- a commit for the probe is among the older events
    refine ⟨fun r he hr => ?_, fun r actual reserved he hr => ?_⟩
    · rw [emissions_append hall]
      refine h.1 r ((mem_append.1 he).resolve_left fun hnew => ?_) hr
      have := hall _ hnew
      simp [Event.concerns, hr] at this
    rw [emissions_append hall, misses_append hall]
    refine h.2 r actual reserved ((mem_append.1 he).resolve_left fun hnew => ?_) hr
    have := hall _ hnew
    simp [Event.concerns, hr] at this

private theorem Inv.uncommitted (hi : Inv c) (h : c.phase id ≠ .gone) (he : e ∈ c.history) :
    e.committedId ≠ some id := fun hid =>
  h (hi.ledger.gone_of_committed (mem_filterMap.2 ⟨e, he, hid⟩))

private theorem Reports.gone (h : ∀ e ∈ history, e.committedId ≠ some id) : Reports id history .gone :=
  ⟨fun _ he hr => absurd (congrArg some hr) (h _ he), fun _ _ _ he hr => absurd (congrArg some hr) (h _ he)⟩

private theorem min_saturatingAdd (n : Nat) : saturatingAdd u32Max (min u32Max n) 1 = min u32Max (1 + n) := by
  unfold saturatingAdd
  omega

private theorem Reports.settle {l : ProgrammeLogical} {result : ScanResult} {actual reserved : Nat} {point : Point}
    {s : ScanScheduler} {r : MutableReport} (ha : Reports id history (.programme l))
    (hnone : ∀ e ∈ history, e.committedId ≠ some id) (hprobe : result.probe = l.probe)
    (htransmissions : result.transmissions = l.transmissions) :
    Reports id (.commitReservedWithBytes result actual reserved (.ok ()) :: .reached point s r :: history)
    .gone := by
  rw [Reports] at ha
  refine ⟨fun r he hr => ?_, fun r actual reserved he hr => ?_⟩
  · rcases mem_cons.1 he with he | he
    · cases he
    rcases mem_cons.1 he with he | he
    · cases he
    · exact absurd (congrArg some hr) (hnone _ he)
  rcases mem_cons.1 he with he | he
  · cases he
    rw [emissions_cons, emissions_cons, misses, misses, htransmissions, hprobe]
    simpa [Event.reportable, Event.missed] using ha
  rcases mem_cons.1 he with he | he
  · cases he
  · exact absurd (congrArg some hr) (hnone _ he)

/-- A turn keeps the counter of its probe in agreement. -/
theorem Turn.reports (h : Turn id κ c c') (hi : Inv c) (ha : Reports id c.history (c.phase id)) :
    Reports id c'.history (c'.phase id) := by
  cases h with
  | idle phase silent =>
    rw [phase]
    exact ha.silent silent
  | dropped after silent cause =>
    rw [after]
    refine Reports.silent (c := c) ?_ silent
    by_cases hgone : c.phase id = .gone
    · rw [hgone] at ha
      exact ha
    · exact Reports.gone fun e he => hi.uncommitted hgone he
  | @admitted a before after probe unsent resolution history =>
    rw [before] at ha
    rw [after]
    refine Reports.silent (c := c) ?_ (.one rfl history)
    have hzero : emissions id a.probe.family c.history = 0 := emissions_eq_zero ha
    rw [Reports, unsent, hzero]
    rfl
  | @opened l bytes before after probe unsent unobserved resolution history =>
    rw [before] at ha
    rw [after]
    refine Reports.silent (c := c) ?_ (.one rfl history)
    rw [Reports, unsent, emissions_eq_zero ha, misses_eq_zero ha]
  | restaged before after probe context transmissions history =>
    rw [before, Reports] at ha
    rw [after, Reports, transmissions, probe, history]
    exact ha
  | @sent a emission answer before after clear frame history =>
    have hnamed := hi.origins.active_id (Core.plain_of_phase before)
    rw [before, Reports] at ha
    rw [after, history, Reports, emissions_cons]
    simp only [ActiveProbe.counting, Event.reportable, frame.probe, hnamed, beq_self_eq_true, Bool.true_and]
    by_cases hcounts : a.probe.family ≠ .udp ∨ emission.purpose = .probe
    · have hreported : (a.probe.family != .udp || emission.purpose == .probe) = true := by simpa using hcounts
      rw [if_pos hcounts, hreported, ha, min_saturatingAdd]
      rfl
    · have hreported : (a.probe.family != .udp || emission.purpose == .probe) = false := by simpa using hcounts
      rw [if_neg hcounts, hreported, ha, Bool.toNat_false, Nat.zero_add]
  | @terminalized a result before after reports history =>
    obtain ⟨now, terminal, rfl, -⟩ := reports
    have hnone : ∀ e ∈ c.history, e.committedId ≠ some id := fun e he => hi.uncommitted (by rw [before]; simp) he
    rw [before, Reports] at ha
    rw [after, history]
    refine ⟨fun r he hr => ?_, fun r actual reserved he hr => ?_⟩
    · rcases mem_cons.1 he with he | he
      · cases he
        rw [emissions_cons]
        simpa [Event.reportable, ActiveProbe.result] using ha
      · exact absurd (congrArg some hr) (hnone _ he)
    rcases mem_cons.1 he with he | he
    · cases he
    · exact absurd (congrArg some hr) (hnone _ he)
  | revised before after revises keeps silent =>
    rw [before] at ha
    have ha' := ha.silent silent
    rw [Reports] at ha'
    rw [after, Reports, keeps.transmissions, revises.probe]
    exact ha'
  | observed before after clear history =>
    rw [before, Reports] at ha
    rw [after, history]
    exact ha
  | @tallied l wireId now sent emission answer r before after clear probe generation purpose counts history =>
    have hnamed := hi.origins.programme_id (Core.programme_of_phase before)
    rw [before, Reports] at ha
    rw [after, history, Reports, emissions_cons, emissions_cons, misses, misses]
    simp only [ProgrammeLogical.counting, Event.reportable, Event.missed, head?_cons, probe, hnamed, purpose,
      counts, beq_self_eq_true, Bool.or_true, Bool.and_self, Bool.not_true, Bool.and_false, Bool.toNat_true,
      Bool.toNat_false]
    omega
  | @untallied l wireId now emission answer r before after clear probe generation counts history =>
    have held := Core.programme_of_phase before
    have hnamed := hi.origins.programme_id held
    obtain ⟨programme, -, hprogramme, -⟩ := (hi.origins.programmes held).2.shape
    have hfamily := RawPlan.udpProgrammeFor_udp hprogramme
    rw [before, Reports] at ha
    rw [after, history, Reports, emissions_cons, emissions_cons, misses, misses]
    simp only [Event.reportable, Event.missed, head?_cons, probe, hnamed, hfamily, beq_self_eq_true,
      bne_self_eq_false, Bool.true_and, Bool.false_or, Bool.toNat_false] at ha ⊢
    by_cases hpurpose : emission.purpose = .probe
    · simp only [hpurpose, counts hpurpose, beq_self_eq_true, Bool.not_false, Bool.and_self, Bool.toNat_true]
      omega
    have hother : (emission.purpose == .probe) = false := by simpa using hpurpose
    simp only [hother, Bool.false_and, Bool.toNat_false]
    omega
  | @settled l result actual r before after reports history =>
    obtain ⟨now, rfl⟩ := reports
    rw [before] at ha
    rw [after, history]
    exact Reports.settle ha (fun e he => hi.uncommitted (by rw [before]; simp) he) rfl rfl
  | @aborted l result r before after reports history =>
    obtain ⟨now, outcome, reason, rfl, -⟩ := reports
    rw [before] at ha
    rw [after, history]
    exact Reports.settle ha (fun e he => hi.uncommitted (by rw [before]; simp) he) rfl rfl
  | lost before after probe history =>
    rw [after, history]
    refine Reports.gone (forall_mem_cons.2 ⟨by simp [Event.committedId], forall_mem_cons.2 ⟨?_, ?_⟩⟩)
    · simp [Event.committedId]
    · exact fun e he => hi.uncommitted (by rw [before]; simp) he

section Runs

variable {τ ρ σ : Type} [ProbeTransport τ] [ContextResolver ρ] [ResultSink σ] {w : Session τ ρ σ}

/-- In every session that can be reached the counters agree with the frames that were sent. -/
theorem Reachable.reports (h : Reachable w) (id : Nat) : Reports id w.history ((w.core none).phase id) := by
  refine h.invariant (I := fun c => Reports id c.history (c.phase id)) (fun plan config permutation => ?_)
    fun κ c c' hi ha hs => (hs.turn hi id).reports hi ha
  have hnone : ∀ e ∈ ([] : List Event), e.concerns id = false := fun _ h => by cases h
  -- a new scheduler holds no probe
  by_cases hw : Core.Awaits ⟨ScanScheduler.fresh plan config permutation, [], none⟩ id
  · have hphase : Core.phase ⟨ScanScheduler.fresh plan config permutation, [], none⟩ id = .waiting := if_pos hw
    rw [hphase]
    exact hnone
  · rw [Core.phase_gone rfl rfl hw]
    exact Reports.gone fun _ h => by cases h

/-- A committed result of a plain probe reports the frames that were handed to the transport for it exactly if they
fit its counter; one of a programme reports them exactly if the transport took every probe frame, in a state in
which the frame has a deadline and the counter has room for it. -/
theorem committed_transmissions (h : Reachable w) :
    (∀ r ∈ plainResults w.history,
      (r.transmissions = emissions r.probe.logicalId r.probe.family w.history ↔
        emissions r.probe.logicalId r.probe.family w.history ≤ u32Max)) ∧
    (∀ r ∈ programmeResults w.history,
      (r.transmissions = emissions r.probe.logicalId r.probe.family w.history ↔
        misses r.probe.logicalId w.history = 0)) := by
  have hgone : ∀ {e : Event} {id : Nat}, e ∈ w.history → e.committedId = some id → Reports id w.history .gone := by
    intro e id he hid
    have hphase : (w.core none).phase id = .gone := h.inv.ledger.gone_of_committed (mem_filterMap.2 ⟨e, he, hid⟩)
    exact hphase ▸ h.reports id
  refine ⟨fun r hr => ?_, fun r hr => ?_⟩
  · have he := mem_plainResults.1 hr
    have hcounter := (hgone he rfl).1 r he rfl
    omega
  obtain ⟨actual, reserved, he⟩ := mem_programmeResults.1 hr
  have hcounter := (hgone he rfl).2 r actual reserved he rfl
  omega

end Runs

/-! ### Transport failures -/

/-- A scan of a TCP port of a host; the transport refuses the first frame. -/
def refusedPort : ScanInputs := { onePort with transport := { emit := ⟨[.error ⟨5⟩], .ok ()⟩ } }

/-- The same with a UDP port that has two variants. -/
def refusedProgramme : ScanInputs := { refusedPort with definitions := oneProgramme }

def refusedPortSession : ScriptedSession :=
    (refusedPort.session.get (by decide +kernel)).after [.start 0, .drive 1]

def refusedProgrammeSession : ScriptedSession :=
  (refusedProgramme.session.get (by decide +kernel)).after [.start 0, .drive 1]

/-- The programme with a transport that takes every frame, until the grace of its requests has ended. -/
def silentProgrammeSession : ScriptedSession :=
  (ScanInputs.session { refusedProgramme with transport := {} } |>.get (by decide +kernel)).after
    [.start 0, .drive 1, .drive 2000000, .drive 8000000]

/-- The plain probe reports the frame that the transport refused, and the programme the two frames that it took. -/
theorem committed_transmissions_refusedPort :
    (∃ r ∈ plainResults refusedPortSession.history,
      r.transmissions = emissions r.probe.logicalId r.probe.family refusedPortSession.history) ∧
    (∃ r ∈ programmeResults silentProgrammeSession.history,
      r.transmissions = emissions r.probe.logicalId r.probe.family silentProgrammeSession.history) := by
  constructor
  · have hplain : ((plainResults refusedPortSession.history).any fun r => decide
        (emissions r.probe.logicalId r.probe.family refusedPortSession.history ≤ u32Max)) = true := by
          decide +kernel
    obtain ⟨r, hr, hfits⟩ := any_eq_true.1 hplain
    exact ⟨r, hr, ((committed_transmissions (ScanInputs.reachable _ _)).1 r hr).2 (of_decide_eq_true hfits)⟩
  have hprogramme : ((programmeResults silentProgrammeSession.history).any fun r => decide
      (misses r.probe.logicalId silentProgrammeSession.history = 0)) = true := by decide +kernel
  obtain ⟨r, hr, hnone⟩ := any_eq_true.1 hprogramme
  exact ⟨r, hr, ((committed_transmissions (ScanInputs.reachable _ _)).2 r hr).2 (of_decide_eq_true hnone)⟩

/-- The frame that the transport refused was handed to it, but the programme does not report it. -/
theorem refused_frame_unreported : Reachable refusedProgrammeSession ∧
    refusedProgrammeSession.scheduler.lifecycle = .failed ∧
    ∃ r ∈ programmeResults refusedProgrammeSession.history, r.transmissions = 0 ∧
      emissions r.probe.logicalId r.probe.family refusedProgrammeSession.history = 1 := by
  have hany : ((programmeResults refusedProgrammeSession.history).any fun r => decide (r.transmissions = 0 ∧
      emissions r.probe.logicalId r.probe.family refusedProgrammeSession.history = 1)) = true := by decide +kernel
  refine ⟨ScanInputs.reachable _ _, by decide +kernel, ?_⟩
  obtain ⟨r, hr, hcounts⟩ := any_eq_true.1 hany
  exact ⟨r, hr, of_decide_eq_true hcounts⟩

end NodeNet.Engine
