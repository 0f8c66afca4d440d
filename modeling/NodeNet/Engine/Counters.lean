import NodeNet.Engine.Steps

/-!
# Counters and the lanes they count

The per-target and per-prefix counters and the `active` and `grace` fields of a programme are kept by hand.  Every
step but one changes a counter by as much as what it counts changes, so a comparison that only depends on the
difference (`Comparison`) is kept: equality along runs without the leaking step, and `≤` along all runs.
-/

namespace NodeNet.Engine

open OrdMap ScanScheduler

/-! ### Tallies -/

section Tally

variable {κ : Type} [LinearOrder κ] {counts counts' counts'' : OrdMap κ Nat} {key : κ}

theorem tally_insert (n : Nat) (k : κ) : tally (counts.insert key n) k = if k = key then n else
    tally counts k := by
  unfold tally
  rw [get?_insert]
  split <;> rfl

theorem tally_increment (k : κ) : tally (increment counts key) k = tally counts k + if k = key then 1 else 0 := by
  rw [increment, tally_insert]
  split
  · next h => rw [h]
  · rfl

theorem Lowered.refl : Lowered counts counts key 0 := by
  intro k
  split <;> rfl

theorem Lowered.trans {n m : Nat} (h : Lowered counts counts' key n) (h' : Lowered counts' counts'' key m) :
    Lowered counts counts'' key (n + m) := by
  intro k
  have := h k
  have := h' k
  split_ifs at * <;> omega

theorem Lowered.tally_le {n : Nat} (h : Lowered counts counts' key n) (k : κ) :
    tally counts' k ≤ tally counts k := by
  have := h k
  omega

/-- A counter that is not zero can be decremented. -/
theorem decrement_eq_some (h : 0 < tally counts key) :
    ∃ counts', decrement counts key = some counts' ∧ Lowered counts counts' key 1 := by
  unfold tally at h
  unfold decrement
  cases hget : counts.get? key with
  | none => simp [hget] at h
  | some n =>
    cases n with
    | zero => simp [hget] at h
    | succ n =>
      refine ⟨_, rfl, fun k => ?_⟩
      by_cases hn : n = 0
      · simp only [hn, ↓reduceIte, tally, get?_erase]
        by_cases hk : k = key
        · simp [hk, hget, hn]
        · simp [hk]
      rw [if_neg hn, tally_insert]
      by_cases hk : k = key
      · simp [hk, tally, hget]
      · simp [hk]

end Tally

/-! ### Comparisons -/

/-- A comparison of two numbers that depends on their difference only. -/
structure Comparison (R : Nat → Nat → Prop) : Prop where
  shift : ∀ {a b a' b' : Nat}, a' + b = a + b' → R a b → R a' b'
  zero : R 0 0

theorem Comparison.le : Comparison (· ≤ ·) := ⟨fun h h' => by omega, le_refl 0⟩

theorem Comparison.eq : Comparison (· = ·) := ⟨fun h h' => by omega, rfl⟩

/-! ### Lanes of programmes -/

/-- Requests under way and requests kept for their grace name live programmes, under different wire ids that were
given out, and a programme's fields compare with the number of its requests. -/
structure Lanes (R : Nat → Nat → Prop) (s : ScanScheduler) : Prop where
  wire : ∀ {wireId p}, s.physical.get? wireId = some p →
    wireId < s.nextWireId ∧ s.programmeGrace.get? wireId = none ∧ ∃ l, s.programmes.get? p.logicalId = some l
  kept : ∀ {wireId g}, s.programmeGrace.get? wireId = some g →
    wireId < s.nextWireId ∧ ∃ l, s.programmes.get? g.logicalId = some l
  active : ∀ {id l}, s.programmes.get? id = some l → R (s.lanes id) l.active
  grace : ∀ {id l}, s.programmes.get? id = some l → R (s.graceLanes id) l.grace

variable {R : Nat → Nat → Prop} {s : ScanScheduler}

variable {id : Nat} {l l' : ProgrammeLogical}

private theorem live_insert {m : OrdMap Nat ProgrammeLogical} {id' : Nat} (h : m.get? id' = some l) :
    ∃ k, (m.insert id l').get? id' = some k := by
  rw [get?_insert]
  split
  · exact ⟨l', rfl⟩
  · exact ⟨l, h⟩

private theorem live_erase {m : OrdMap Nat ProgrammeLogical} {id' : Nat} (h : m.get? id' = some l)
    (hne : id' ≠ id) : ∃ k, (m.erase id).get? id' = some k :=
  ⟨l, by rw [get?_erase_of_ne _ hne, h]⟩

variable {p : ProgrammePhysical} {wireId : Nat}

/-- Without requests under way, no request names the programme. -/
theorem Lanes.ne_of_lanes_eq_zero (h : s.lanes id = 0) (hp : s.physical.get? wireId = some p) :
    p.logicalId ≠ id := by
  intro he
  have : 0 < s.lanes id := count_pos_iff.2 ⟨wireId, p, hp, by simp [he]⟩
  omega

variable {g : ProgrammeGrace}

theorem Lanes.ne_of_graceLanes_eq_zero (h : s.graceLanes id = 0) (hg : s.programmeGrace.get? wireId = some g) :
    g.logicalId ≠ id := by
  intro he
  have : 0 < s.graceLanes id := count_pos_iff.2 ⟨wireId, g, hg, by simp [he]⟩
  omega

theorem Lanes.lanes_of_none (h : Lanes R s) (hid : s.programmes.get? id = none) :
    s.lanes id = 0 ∧ s.graceLanes id = 0 := by
  constructor
  · by_contra hne
    obtain ⟨w, p, hp, hname⟩ := count_pos_iff.1 (Nat.pos_of_ne_zero hne)
    obtain ⟨-, -, l, hl⟩ := h.wire hp
    rw [beq_iff_eq.1 hname, hid] at hl
    cases hl
  by_contra hne
  obtain ⟨w, g, hg, hname⟩ := count_pos_iff.1 (Nat.pos_of_ne_zero hne)
  obtain ⟨-, l, hl⟩ := h.kept hg
  rw [beq_iff_eq.1 hname, hid] at hl
  cases hl

private theorem count_retain_ne {β : Type} (f : β → Nat) (m : OrdMap Nat β) (id i : Nat) :
    (m.retain fun _ v => f v != id).count (fun _ v => f v == i) = if i = id then 0 else
    m.count fun _ v => f v == i := by
  rw [count_retain]
  split
  · next h =>
    subst h
    rw [← Nat.le_zero, ← not_lt, count_pos_iff]
    rintro ⟨w, v, -, hp⟩
    simp at hp
  next h =>
  apply count_congr
  intro w v _
  by_cases hp : f v = i
  · subst hp; simp [h]
  · simp [hp]

theorem Lanes.setProgramme (h : Lanes R s) (hactive : R (s.lanes id) l'.active)
    (hgrace : R (s.graceLanes id) l'.grace) : Lanes R (s.setProgramme id l') where
  wire := fun hp => by
    obtain ⟨hlt, hnone, k, hk⟩ := h.wire hp
    exact ⟨hlt, hnone, live_insert hk⟩
  kept := fun hg => by
    obtain ⟨hlt, k, hk⟩ := h.kept hg
    exact ⟨hlt, live_insert hk⟩
  active := fun hk => by
    rcases of_get?_insert hk with ⟨rfl, rfl⟩ | ⟨-, hk⟩
    · exact hactive
    · exact h.active hk
  grace := fun hk => by
    rcases of_get?_insert hk with ⟨rfl, rfl⟩ | ⟨-, hk⟩
    · exact hgrace
    · exact h.grace hk

theorem Lanes.openProgramme (hR : Comparison R) (h : Lanes R s) (fresh : s.programmes.get? id = none)
    (hactive : l.active = 0) (hgrace : l.grace = 0) : Lanes R (s.setProgramme id l) := by
  obtain ⟨hlanes, hgraceLanes⟩ := h.lanes_of_none fresh
  refine h.setProgramme ?_ ?_
  · rw [hlanes, hactive]
    exact hR.zero
  · rw [hgraceLanes, hgrace]
    exact hR.zero

/-- A programme leaves together with all of its requests. -/
theorem Lanes.eraseProgramme (h : Lanes R s) (hlanes : s.lanes id = 0) (hgrace : s.graceLanes id = 0) :
    Lanes R { s with programmes := s.programmes.erase id } where
  wire := fun hp => by
    obtain ⟨hlt, hnone, k, hk⟩ := h.wire hp
    exact ⟨hlt, hnone, live_erase hk (ne_of_lanes_eq_zero hlanes hp)⟩
  kept := fun hg => by
    obtain ⟨hlt, k, hk⟩ := h.kept hg
    exact ⟨hlt, live_erase hk (ne_of_graceLanes_eq_zero hgrace hg)⟩
  active := fun hk => h.active (of_get?_erase hk).2
  grace := fun hk => h.grace (of_get?_erase hk).2

/-- Dropping the requests of a programme leaves the others as they are; its own record is put right later. -/
theorem withoutLanes_lanes (id i : Nat) (ready : List Nat) (perTarget : OrdMap ScanTarget Nat)
    (perPrefix : OrdMap PrefixKey Nat) :
    (s.withoutLanes id ready perTarget perPrefix).lanes i = (if i = id then 0 else s.lanes i) ∧
    (s.withoutLanes id ready perTarget perPrefix).graceLanes i = if i = id then 0 else s.graceLanes i :=
  ⟨count_retain_ne _ s.physical id i, count_retain_ne _ s.programmeGrace id i⟩

private theorem Lanes.withoutLanes_wire (h : Lanes R s) {w : Nat}
    (hp : (s.physical.retain fun _ p => p.logicalId != id).get? w = some p) :
    w < s.nextWireId ∧ (s.programmeGrace.retain fun _ g => g.logicalId != id).get? w = none ∧ p.logicalId ≠ id ∧
      ∃ l, s.programmes.get? p.logicalId = some l := by
  obtain ⟨hp, hne⟩ := get?_retain_eq_some.1 hp
  obtain ⟨hlt, hnone, hl⟩ := h.wire hp
  refine ⟨hlt, ?_, by simpa using hne, hl⟩
  rw [get?_retain, hnone]
  rfl

private theorem Lanes.withoutLanes_kept (h : Lanes R s) {w : Nat}
    (hg : (s.programmeGrace.retain fun _ g => g.logicalId != id).get? w = some g) :
    w < s.nextWireId ∧ g.logicalId ≠ id ∧ ∃ l, s.programmes.get? g.logicalId = some l := by
  obtain ⟨hg, hne⟩ := get?_retain_eq_some.1 hg
  obtain ⟨hlt, hl⟩ := h.kept hg
  exact ⟨hlt, by simpa using hne, hl⟩

variable {perPrefix : OrdMap PrefixKey Nat} {perTarget : OrdMap ScanTarget Nat}

/-- Finishing a programme: its requests go and its fields are cleared. -/
theorem Lanes.finishProgramme {ready : List Nat} (hR : Comparison R) (h : Lanes R s) (hactive : l'.active = 0)
    (hgrace : l'.grace = 0) : Lanes R ((s.withoutLanes id ready perTarget perPrefix).setProgramme id l') where
  wire := fun hp => by
    obtain ⟨hlt, hnone, -, k, hk⟩ := h.withoutLanes_wire hp
    exact ⟨hlt, hnone, live_insert hk⟩
  kept := fun hg => by
    obtain ⟨hlt, -, k, hk⟩ := h.withoutLanes_kept hg
    exact ⟨hlt, live_insert hk⟩
  active := fun {i k} hk => by
    show R ((s.withoutLanes id ready perTarget perPrefix).lanes i) _
    rw [(withoutLanes_lanes id i ready perTarget perPrefix).1]
    rcases of_get?_insert hk with ⟨rfl, rfl⟩ | ⟨hne, hk⟩
    · rw [if_pos rfl, hactive]
      exact hR.zero
    · rw [if_neg hne]
      exact h.active hk
  grace := fun {i k} hk => by
    show R ((s.withoutLanes id ready perTarget perPrefix).graceLanes i) _
    rw [(withoutLanes_lanes id i ready perTarget perPrefix).2]
    rcases of_get?_insert hk with ⟨rfl, rfl⟩ | ⟨hne, hk⟩
    · rw [if_pos rfl, hgrace]
      exact hR.zero
    · rw [if_neg hne]
      exact h.grace hk

/-- Aborting a programme: it goes together with its requests. -/
theorem Lanes.abortProgramme {ready : List Nat} (h : Lanes R s) :
    Lanes R { s.withoutLanes id ready perTarget perPrefix with programmes := s.programmes.erase id } where
  wire := fun hp => by
    obtain ⟨hlt, hnone, hne, k, hk⟩ := h.withoutLanes_wire hp
    exact ⟨hlt, hnone, live_erase hk hne⟩
  kept := fun hg => by
    obtain ⟨hlt, hne, k, hk⟩ := h.withoutLanes_kept hg
    exact ⟨hlt, live_erase hk hne⟩
  active := fun {i k} hk => by
    show R ((s.withoutLanes id ready perTarget perPrefix).lanes i) _
    obtain ⟨hne, hk⟩ := of_get?_erase hk
    rw [(withoutLanes_lanes id i ready perTarget perPrefix).1, if_neg hne]
    exact h.active hk
  grace := fun {i k} hk => by
    show R ((s.withoutLanes id ready perTarget perPrefix).graceLanes i) _
    obtain ⟨hne, hk⟩ := of_get?_erase hk
    rw [(withoutLanes_lanes id i ready perTarget perPrefix).2, if_neg hne]
    exact h.grace hk

theorem Lanes.fresh (h : Lanes R s) : s.physical.get? s.nextWireId = none := by
  rw [Option.eq_none_iff_forall_ne_some]
  intro p hp
  exact absurd (h.wire hp).1 (lt_irrefl _)

/-- The record of one programme is replaced: what its field counts goes up by `up` and down by `down`, like the
field. -/
private theorem Comparison.replace {m : OrdMap Nat ProgrammeLogical} {field : ProgrammeLogical → Nat}
    {count count' : Nat → Nat} (hR : Comparison R) (up down : Nat) (held : m.get? id = some l)
    (h : ∀ {i k}, m.get? i = some k → R (count i) (field k)) (hfield : field l' + down = field l + up)
    (hcount : ∀ i, (count' i + if id == i then down else 0) = count i + if id == i then up else 0) {i : Nat}
    {k : ProgrammeLogical} (hk : (m.insert id l').get? i = some k) : R (count' i) (field k) := by
  have hi := hcount i
  rcases of_get?_insert hk with ⟨rfl, rfl⟩ | ⟨hne, hk⟩
  · rw [beq_self_eq_true, if_pos rfl, if_pos rfl] at hi
    exact hR.shift (by omega) (h held)
  · rw [if_neg (by simpa using hne.symm), if_neg (by simpa using hne.symm)] at hi
    exact hR.shift (by omega) (h hk)

theorem Lanes.schedule {physical : ProgrammePhysical} (hR : Comparison R) (h : Lanes R s)
    (held : s.programmes.get? physical.logicalId = some l) (hactive : l'.active = l.active + 1)
    (hgrace : l'.grace = l.grace) : Lanes R { s with
      nextWireId := s.nextWireId + 1
      physical := s.physical.insert s.nextWireId physical
      programmes := s.programmes.insert physical.logicalId l'
      perTarget := perTarget
      perPrefix := perPrefix } := by
  have fresh := h.fresh
  have freshGrace : s.programmeGrace.get? s.nextWireId = none := by
    rw [Option.eq_none_iff_forall_ne_some]
    intro g hg
    exact absurd (h.kept hg).1 (lt_irrefl _)
  refine ⟨fun {w p} hp => ?_, fun {w g} hg => ?_, fun {i k} hk => ?_, fun {i k} hk => ?_⟩
  · rcases of_get?_insert hp with ⟨rfl, rfl⟩ | ⟨-, hp⟩
    · exact ⟨Nat.lt_succ_self _, freshGrace, live_insert held⟩
    · obtain ⟨hlt, hnone, k, hk⟩ := h.wire hp
      exact ⟨Nat.lt_succ_of_lt hlt, hnone, live_insert hk⟩
  · obtain ⟨hlt, k, hk⟩ := h.kept hg
    exact ⟨Nat.lt_succ_of_lt hlt, live_insert hk⟩
  · refine hR.replace 1 0 held h.active hactive (fun i => ?_) hk
    rw [ite_self]
    exact count_insert physical fresh fun _ p => p.logicalId == i
  · exact hR.replace 0 0 held h.grace hgrace (fun _ => rfl) hk

/-- A request leaves the wire and is kept for its grace. -/
theorem Lanes.retire (hR : Comparison R) (h : Lanes R s) (sent : s.physical.get? wireId = some p)
    (held : s.programmes.get? p.logicalId = some l) (names : g.logicalId = p.logicalId)
    (hactive : l'.active + 1 = l.active) (hgrace : l'.grace = l.grace + 1) : Lanes R { s with
      physical := s.physical.erase wireId
      programmes := s.programmes.insert p.logicalId l'
      perTarget := perTarget
      perPrefix := perPrefix
      programmeGrace := s.programmeGrace.insert wireId g } := by
  obtain ⟨hwire, fresh, -⟩ := h.wire sent
  refine ⟨fun {w q} hq => ?_, fun {w q} hq => ?_, fun {i k} hk => ?_, fun {i k} hk => ?_⟩
  · obtain ⟨hne, hq⟩ := of_get?_erase hq
    obtain ⟨hlt, hnone, k, hk⟩ := h.wire hq
    refine ⟨hlt, ?_, live_insert hk⟩
    rw [get?_insert_of_ne _ _ hne]
    exact hnone
  · rcases of_get?_insert hq with ⟨rfl, rfl⟩ | ⟨-, hq⟩
    · rw [names]
      exact ⟨hwire, live_insert held⟩
    · obtain ⟨hlt, k, hk⟩ := h.kept hq
      exact ⟨hlt, live_insert hk⟩
  · refine hR.replace 0 1 held h.active hactive (fun i => ?_) hk
    rw [ite_self]
    exact (count_erase sent _).symm
  · refine hR.replace 1 0 held h.grace hgrace (fun i => ?_) hk
    rw [ite_self, ← names]
    exact count_insert g fresh fun _ g => g.logicalId == i

theorem Lanes.expire (hR : Comparison R) (h : Lanes R s) (kept : s.programmeGrace.get? wireId = some g)
    (held : s.programmes.get? g.logicalId = some l) (hactive : l'.active = l.active)
    (hgrace : l'.grace + 1 = l.grace) :
    Lanes R { s with
      programmeGrace := s.programmeGrace.erase wireId
      programmes := s.programmes.insert g.logicalId l' } := by
  refine ⟨fun {w q} hq => ?_, fun {w q} hq => ?_, fun {i k} hk => ?_, fun {i k} hk => ?_⟩
  · obtain ⟨hlt, hnone, k, hk⟩ := h.wire hq
    refine ⟨hlt, ?_, live_insert hk⟩
    rw [get?_erase]
    split
    · rfl
    · exact hnone
  · obtain ⟨hlt, k, hk⟩ := h.kept (of_get?_erase hq).2
    exact ⟨hlt, live_insert hk⟩
  · exact hR.replace 0 0 held h.active hactive (fun _ => rfl) hk
  · refine hR.replace 0 1 held h.grace hgrace (fun i => ?_) hk
    rw [ite_self]
    exact (count_erase kept _).symm

theorem Lanes.setPhysical {p' : ProgrammePhysical} (h : Lanes R s) (sent : s.physical.get? wireId = some p)
    (names : p'.logicalId = p.logicalId) : Lanes R (s.setPhysical wireId p') := by
  refine ⟨fun {w q} hq => ?_, h.kept, fun {i k} hk => ?_, h.grace⟩
  · rcases of_get?_insert hq with ⟨rfl, rfl⟩ | ⟨-, hq⟩
    · rw [names]
      exact h.wire sent
    · exact h.wire hq
  have hcount : (s.physical.insert wireId p').count (fun _ p => p.logicalId == i) = s.lanes i :=
    count_insert_of_get? sent _ (by rw [names])
  show R ((s.physical.insert wireId p').count fun _ p => p.logicalId == i) _
  rw [hcount]
  exact h.active hk

/-- A lost lane leaves its programme's field too high. -/
theorem Lanes.leak (h : Lanes (· ≤ ·) s) (sent : s.physical.get? wireId = some p) :
    Lanes (· ≤ ·) { s with physical := s.physical.erase wireId } := by
  refine ⟨fun {w q} hq => h.wire (of_get?_erase hq).2, h.kept, fun {i k} hk => ?_, h.grace⟩
  have hcount := count_erase sent fun _ p => p.logicalId == i
  have := h.active hk
  simp only [lanes] at *
  omega

theorem Lanes.empty (hphysical : s.physical = ∅) (hgrace : s.programmeGrace = ∅) (hprogrammes : s.programmes = ∅) :
    Lanes R s := by
  refine ⟨fun hp => ?_, fun hg => ?_, fun hk => ?_, fun hk => ?_⟩
  · rw [hphysical] at hp; cases hp
  · rw [hgrace] at hg; cases hg
  · rw [hprogrammes] at hk; cases hk
  · rw [hprogrammes] at hk; cases hk

/-- Every step that does not leak keeps the comparison of the programmes' fields with their requests. -/
theorem Step.lanes {κ : Kind} {c c' : Core} (hR : Comparison R) (h : Step κ c c') (hκ : κ ≠ .leaked)
    (hle : Lanes (· ≤ ·) c.scheduler) (hl : Lanes R c.scheduler) : Lanes R c'.scheduler := by
  cases h with
  | leaked => exact absurd rfl hκ
  | closed => exact Lanes.empty rfl rfl rfl
  | opened _ _ active grace fresh => exact hl.openProgramme hR fresh active grace
  | scheduled held revises active grace => exact hl.schedule hR held active grace
  | retired sent held names revises active grace => exact hl.retire hR sent held names active grace
  | resent sent names => exact hl.setPhysical sent names
  | revised held revises active grace =>
    exact hl.setProgramme (active ▸ hl.active held) (grace ▸ hl.grace held)
  | observed held | tallied request held =>
    have hactive := hl.active held
    have hgrace := hl.grace held
    exact hl.setProgramme hactive hgrace
  | expired kept held revises active grace => exact hl.expire hR kept held active grace
  | finished held revises active grace => exact hl.finishProgramme hR active grace
  | settled held active grace =>
    have hlanes := hle.active held
    have hgraces := hle.grace held
    rw [pruneAdaptiveTargetState_eq]
    have hs := hl.eraseProgramme (Nat.le_zero.1 (active ▸ hlanes)) (Nat.le_zero.1 (grace ▸ hgraces))
    exact ⟨hs.wire, hs.kept, hs.active, hs.grace⟩
  | settleRefused held active grace =>
    have hlanes := hle.active held
    have hgraces := hle.grace held
    exact hl.eraseProgramme (Nat.le_zero.1 (active ▸ hlanes)) (Nat.le_zero.1 (grace ▸ hgraces))
  | aborted => exact hl.abortProgramme
  | _ => exact ⟨hl.wire, hl.kept, hl.active, hl.grace⟩

end NodeNet.Engine
