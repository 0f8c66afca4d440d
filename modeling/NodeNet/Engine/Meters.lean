import NodeNet.Engine.Counters

/-!
# The per-target and per-prefix counters

Both counters count the same things, plain probes and requests under way, by different keys.  A `Meter` is such a
key with the laws that tie it to the counter; the results are proved for a meter and hold for both.
-/

namespace NodeNet.Engine

open OrdMap ScanScheduler

/-- A way to count plain probes and requests by a key of their probe and context. -/
structure Meter (κ : Type) [LinearOrder κ] where
  key : LogicalProbe → ResolvedContext → κ
  select : OrdMap ScanTarget Nat → OrdMap PrefixKey Nat → OrdMap κ Nat
  lowered : ∀ {pt pt' : OrdMap ScanTarget Nat} {pp pp' : OrdMap PrefixKey Nat} {p : LogicalProbe}
    {c : ResolvedContext} {n : Nat}, Lowered pt pt' p.target n → Lowered pp pp' c.prefixKey n →
      Lowered (select pt pp) (select pt' pp') (key p c) n
  raised : ∀ (pt : OrdMap ScanTarget Nat) (pp : OrdMap PrefixKey Nat) (p : LogicalProbe) (c : ResolvedContext),
    select (increment pt p.target) (increment pp c.prefixKey) = increment (select pt pp) (key p c)
  empty : select ∅ ∅ = ∅

def targetMeter : Meter ScanTarget where
  key p _ := p.target
  select pt _ := pt
  lowered h _ := h
  raised _ _ _ _ := rfl
  empty := rfl

def prefixMeter : Meter PrefixKey where
  key _ c := c.prefixKey
  select _ pp := pp
  lowered _ h := h
  raised _ _ _ _ := rfl
  empty := rfl

section Load

variable {κ : Type} [LinearOrder κ] (m : Meter κ)

/-- The key of a live programme. -/
def Meter.keyOf (programmes : OrdMap Nat ProgrammeLogical) (id : Nat) : Option κ :=
  (programmes.get? id).map fun l => m.key l.probe l.context

def Meter.activeLoad (active : OrdMap Nat ActiveProbe) (k : κ) : Nat :=
  active.count fun _ a => decide (m.key a.probe a.context = k)

def Meter.laneLoad (programmes : OrdMap Nat ProgrammeLogical) (physical : OrdMap Nat ProgrammePhysical)
    (k : κ) : Nat :=
  physical.count fun _ p => decide (m.keyOf programmes p.logicalId = some k)

def Meter.load (s : ScanScheduler) (k : κ) : Nat := m.activeLoad s.active k + m.laneLoad s.programmes s.physical k

def Meter.counts (s : ScanScheduler) : OrdMap κ Nat := m.select s.perTarget s.perPrefix

def Meter.Balanced (R : Nat → Nat → Prop) (s : ScanScheduler) : Prop := ∀ k, R (m.load s k) (tally (m.counts s) k)

/-- Loads and counters change by the same amounts. -/
def Meter.Shift (s s' : ScanScheduler) : Prop :=
  ∀ k, m.load s' k + tally (m.counts s) k = m.load s k + tally (m.counts s') k

variable {m}

variable {s : ScanScheduler}

theorem Meter.Balanced.shift {R : Nat → Nat → Prop} {s' : ScanScheduler} (hR : Comparison R) (h : m.Balanced R s)
    (hs : m.Shift s s') : m.Balanced R s' := fun k => hR.shift (hs k) (h k)

/-! ### How loads change -/

variable {a : ActiveProbe} {active : OrdMap Nat ActiveProbe} {id : Nat}

theorem Meter.activeLoad_erase (h : active.get? id = some a) (k : κ) :
    m.activeLoad active k = m.activeLoad (active.erase id) k + if k = m.key a.probe a.context then 1 else 0 := by
  rw [activeLoad, count_erase h]
  simp only [decide_eq_true_eq, eq_comm (a := k)]
  rfl

theorem Meter.activeLoad_insert (h : active.get? id = none) (k : κ) :
    m.activeLoad (active.insert id a) k =
      m.activeLoad active k + if k = m.key a.probe a.context then 1 else 0 := by
  rw [activeLoad, count_insert a h]
  simp only [decide_eq_true_eq, eq_comm (a := k)]
  rfl

theorem Meter.activeLoad_restage {a' : ActiveProbe} (h : active.get? id = some a) (hprobe : a'.probe = a.probe)
    (hcontext : a'.context = a.context) (k : κ) : m.activeLoad (active.insert id a') k = m.activeLoad active k :=
  count_insert_of_get? h _ (by rw [hprobe, hcontext])

variable {physical : OrdMap Nat ProgrammePhysical} {programmes : OrdMap Nat ProgrammeLogical}

/-- The load of the requests depends on the keys of the programmes they name. -/
theorem Meter.laneLoad_congr {programmes' : OrdMap Nat ProgrammeLogical}
    (h : ∀ w p, physical.get? w = some p → m.keyOf programmes' p.logicalId = m.keyOf programmes p.logicalId)
    (k : κ) :
    m.laneLoad programmes' physical k = m.laneLoad programmes physical k :=
  count_congr fun w p hp => by rw [h w p hp]

variable {l : ProgrammeLogical}

theorem Meter.keyOf_insert {l' : ProgrammeLogical} (held : programmes.get? id = some l)
    (hl : l'.Revises l) (i : Nat) : m.keyOf (programmes.insert id l') i = m.keyOf programmes i := by
  unfold keyOf
  rw [get?_insert]
  split
  · next h => rw [h, held, Option.map_some, Option.map_some, hl.probe, hl.context]
  · rfl

theorem Meter.laneLoad_revise {l' : ProgrammeLogical} (held : programmes.get? id = some l) (hl : l'.Revises l)
    (k : κ) :
    m.laneLoad (programmes.insert id l') physical k = m.laneLoad programmes physical k :=
  Meter.laneLoad_congr (fun _ p _ => Meter.keyOf_insert held hl p.logicalId) k

theorem Meter.laneLoad_open {R : Nat → Nat → Prop} (h : Lanes R s) (fresh : s.programmes.get? id = none) (k : κ) :
    m.laneLoad (s.programmes.insert id l) s.physical k = m.laneLoad s.programmes s.physical k := by
  refine Meter.laneLoad_congr (fun w p hp => ?_) k
  have hne := Lanes.ne_of_lanes_eq_zero (h.lanes_of_none fresh).1 hp
  unfold Meter.keyOf
  rw [get?_insert_of_ne _ _ hne]

theorem Meter.laneLoad_eraseProgramme (h : ∀ {w p}, physical.get? w = some p → p.logicalId ≠ id) (k : κ) :
    m.laneLoad (programmes.erase id) physical k = m.laneLoad programmes physical k := by
  refine Meter.laneLoad_congr (fun w p hp => ?_) k
  unfold Meter.keyOf
  rw [get?_erase_of_ne _ (h hp)]

variable {p : ProgrammePhysical} {w : Nat}

theorem Meter.laneLoad_erase (h : physical.get? w = some p) (held : programmes.get? p.logicalId = some l) (k : κ) :
    m.laneLoad programmes physical k =
      m.laneLoad programmes (physical.erase w) k + if k = m.key l.probe l.context then 1 else 0 := by
  rw [laneLoad, count_erase h]
  simp only [keyOf, held, Option.map_some, Option.some.injEq, decide_eq_true_eq, eq_comm (a := k)]
  rfl

theorem Meter.laneLoad_insert (h : physical.get? w = none) (held : programmes.get? p.logicalId = some l) (k : κ) :
    m.laneLoad programmes (physical.insert w p) k =
      m.laneLoad programmes physical k + if k = m.key l.probe l.context then 1 else 0 := by
  rw [laneLoad, count_insert p h]
  simp only [keyOf, held, Option.map_some, Option.some.injEq, decide_eq_true_eq, eq_comm (a := k)]
  rfl

theorem Meter.laneLoad_resend {p' : ProgrammePhysical} (h : physical.get? w = some p)
    (hp : p'.logicalId = p.logicalId) (k : κ) :
    m.laneLoad programmes (physical.insert w p') k = m.laneLoad programmes physical k :=
  count_insert_of_get? h _ (by rw [hp])

/-- Without the requests of one programme, the load of its key is lower by their number. -/
theorem Meter.laneLoad_retain (held : s.programmes.get? id = some l) (k : κ) :
    m.laneLoad s.programmes s.physical k =
      m.laneLoad s.programmes (s.physical.retain fun _ p => p.logicalId != id) k +
        if k = m.key l.probe l.context then s.lanes id else 0 := by
  unfold laneLoad lanes count retain
  simp only
  -- one request at a time: it is dropped exactly when it names the programme
  generalize s.physical.entries = entries
  induction entries with
  | nil => simp
  | cons e rest ih =>
    by_cases he : e.2.logicalId = id
    · have hkey : m.keyOf s.programmes e.2.logicalId = some (m.key l.probe l.context) := by
        rw [he, keyOf, held]
        rfl
      rw [List.filter_cons_of_neg (by simp [he]), List.countP_cons, List.countP_cons, ih, hkey]
      simp only [Option.some.injEq, decide_eq_true_eq, he, beq_self_eq_true, ↓reduceIte, eq_comm (a := k)]
      split <;> omega
    rw [List.filter_cons_of_pos (by simp [he]), List.countP_cons, List.countP_cons, List.countP_cons, ih]
    simp only [beq_iff_eq, he, ↓reduceIte, Nat.add_zero]
    omega

end Load

/-! ### Steps -/

variable {κ : Type}

/-- Every step that does not leak changes loads and counters alike, unless it clears them. -/
theorem Step.shift [LinearOrder κ] (m : Meter κ) {k : Kind} {c c' : Core} (h : Step k c c') (hk : k ≠ .leaked)
    (hle : Lanes (· ≤ ·) c.scheduler) :
    m.Shift c.scheduler c'.scheduler ∨ ∀ k, m.load c'.scheduler k = 0 ∧ tally (m.counts c'.scheduler) k = 0 := by
  cases h with
  | leaked => exact absurd rfl hk
  | closed => exact Or.inr fun k => ⟨rfl, by rw [Meter.counts, disposed, m.empty]; rfl⟩
  | terminalized held probe fresh target prefixes =>
    refine Or.inl fun k => ?_
    have := m.lowered target prefixes k
    have := Meter.activeLoad_erase (m := m) held k
    simp only [Meter.load, Meter.counts] at *
    omega
  | restaged held probe context =>
    refine Or.inl fun k => ?_
    simp only [Meter.load, Meter.counts, setActive, Meter.activeLoad_restage held probe context]
  | @sent s h id a emission answer held =>
    refine Or.inl fun k => ?_
    have hprobe : (a.counting emission.purpose).probe = a.probe := rfl
    have hload := Meter.activeLoad_restage (m := m) held hprobe rfl k
    simp only [Meter.load, Meter.counts, setActive, hload]
  | admitted probe fresh room target prefixes =>
    refine Or.inl fun k => ?_
    subst probe
    simp only [Meter.load, Meter.counts, Meter.activeLoad_insert fresh, m.raised, tally_increment]
    omega
  | opened probe planned active grace fresh =>
    refine Or.inl fun k => ?_
    simp only [Meter.load, Meter.counts, setProgramme, Meter.laneLoad_open hle fresh]
  | scheduled held revises active grace =>
    refine Or.inl fun k => ?_
    have fresh := hle.fresh
    simp only [Meter.load, Meter.counts, Meter.laneLoad_revise held revises, Meter.laneLoad_insert fresh held,
      m.raised, tally_increment]
    omega
  | retired sent held names revises active grace target prefixes =>
    refine Or.inl fun k => ?_
    have := m.lowered target prefixes k
    have := Meter.laneLoad_erase (m := m) sent held k
    simp only [Meter.load, Meter.counts, Meter.laneLoad_revise held revises] at *
    omega
  | resent sent names =>
    refine Or.inl fun k => ?_
    simp only [Meter.load, Meter.counts, setPhysical, Meter.laneLoad_resend sent names]
  | revised held revises | observed held revises | tallied _ held revises | expired _ held revises =>
    refine Or.inl fun k => ?_
    simp only [Meter.load, Meter.counts, setProgramme, Meter.laneLoad_revise held revises]
  | finished held revises active grace target prefixes =>
    refine Or.inl fun k => ?_
    have := m.lowered target prefixes k
    have := Meter.laneLoad_retain (m := m) held k
    simp only [Meter.load, Meter.counts, withoutLanes, setProgramme, Meter.laneLoad_revise held revises] at *
    omega
  | settled held active =>
    refine Or.inl fun k => ?_
    have hlanes := Nat.le_zero.1 (active ▸ hle.active held)
    rw [pruneAdaptiveTargetState_eq]
    simp only [Meter.load, Meter.counts, Meter.laneLoad_eraseProgramme (Lanes.ne_of_lanes_eq_zero hlanes)]
  | settleRefused held active =>
    refine Or.inl fun k => ?_
    have hlanes := Nat.le_zero.1 (active ▸ hle.active held)
    simp only [Meter.load, Meter.counts, Meter.laneLoad_eraseProgramme (Lanes.ne_of_lanes_eq_zero hlanes)]
  | @aborted s h id l result answer r ready perTarget perPrefix held probe target prefixes =>
    refine Or.inl fun k => ?_
    have hlowered := m.lowered target prefixes k
    have hretain := Meter.laneLoad_retain (m := m) held k
    -- the requests that stay name other programmes
    have hne : ∀ {w p}, (s.physical.retain fun _ p => p.logicalId != id).get? w = some p → p.logicalId ≠ id :=
      fun hp => by simpa using (get?_retain_eq_some.1 hp).2
    simp only [Meter.load, Meter.counts, withoutLanes, Meter.laneLoad_eraseProgramme hne]
    omega
  | _ => exact Or.inl fun k => rfl

theorem Step.balanced [LinearOrder κ] {m : Meter κ} {R : Nat → Nat → Prop} {k : Kind} {c c' : Core}
    (hR : Comparison R) (h : Step k c c') (hk : k ≠ .leaked) (hle : Lanes (· ≤ ·) c.scheduler)
    (hb : m.Balanced R c.scheduler) : m.Balanced R c'.scheduler := by
  rcases h.shift m hk hle with hs | hz
  · exact hb.shift hR hs
  intro k
  rw [(hz k).1, (hz k).2]
  exact hR.zero

/-- A lost lane leaves the counters too high. -/
theorem Meter.Balanced.leak [LinearOrder κ] {m : Meter κ} {s : ScanScheduler} {wireId : Nat}
    {p : ProgrammePhysical} (hle : Lanes (· ≤ ·) s) (hb : m.Balanced (· ≤ ·) s)
    (sent : s.physical.get? wireId = some p) :
    m.Balanced (· ≤ ·) { s with physical := s.physical.erase wireId } := by
  intro k
  obtain ⟨-, -, l, held⟩ := hle.wire sent
  have := Meter.laneLoad_erase (m := m) sent held k
  have := hb k
  simp only [Meter.load, Meter.counts] at *
  omega

end NodeNet.Engine
