import NodeNet.Engine.Meters

/-!
# The invariant of the scheduler

Where every logical id is (`Ledger`), that probes are those of the plan (`Origins`), that the limits are kept
(`Limits`), and the comparison of counters with what they count.  Every step keeps all of it (`Step.inv`).
-/

namespace NodeNet.Engine

open List OrdMap ScanScheduler

/-! ### Parts -/

structure Setup (s : ScanScheduler) : Prop where
  config : s.config.validate = .ok s.config
  length : s.permutation.length = s.plan.logicalProbeCount
  cursor : s.cursor ≤ s.plan.logicalProbeCount

/-- Every probe that is queued, held or admitted is the one that the plan has under its id. -/
structure Origins (c : Core) : Prop where
  active : ∀ {id a}, c.scheduler.active.get? id = some a → c.scheduler.plan.logicalProbeAt id = .ok a.probe
  programmes : ∀ {id l}, c.scheduler.programmes.get? id = some l →
    c.scheduler.plan.logicalProbeAt id = .ok l.probe ∧ l.Planned c.scheduler.plan
  queued : ∀ {p}, p ∈ c.scheduler.deferred ∨ c.hand = some p → c.scheduler.plan.logicalProbeAt p.logicalId = .ok p

structure Limits (s : ScanScheduler) : Prop where
  target : ∀ t, tally s.perTarget t ≤ s.config.maxPerTarget
  prefixes : ∀ k, tally s.perPrefix k ≤ s.config.maxPerPrefix
  outstanding : s.active.size + s.physical.size ≤ s.config.maxOutstanding
  work : s.active.size + s.programmes.size ≤ s.config.maxOutstanding
  correlation : s.totalCorrelationEntries ≤ s.config.maxGraceEntries

/-- How often an id is still to come, queued, held, admitted or committed. -/
def Core.holders (c : Core) (id : Nat) : Nat :=
  (c.scheduler.permutation.unissued c.scheduler.cursor).count id +
    (c.scheduler.deferred.map LogicalProbe.logicalId).count id +
    (c.hand.toList.map LogicalProbe.logicalId).count id + c.scheduler.active.keys.count id +
    c.scheduler.programmes.keys.count id + (committed c.history).count id

structure Ledger (c : Core) : Prop where
  unique : ∀ id, c.holders id ≤ 1
  complete : Undisturbed c.history → ∀ id, c.holders id = if id < c.scheduler.plan.logicalProbeCount then 1 else 0
  queue : c.scheduler.deferred.length + c.hand.toList.length ≤ maxTransitionsPerDrive
  grace : ∀ {id t}, c.scheduler.grace.get? id = some t → id ∈ committed c.history
  stopping : c.scheduler.stop.isSome = true → ∃ e ∈ c.history, e.stops = true

/-- Nothing is left to do for any probe. -/
structure Emptied (c : Core) : Prop where
  active : c.scheduler.active.size = 0
  programmes : c.scheduler.programmes.size = 0
  physical : c.scheduler.physical.size = 0
  programmeGrace : c.scheduler.programmeGrace.size = 0
  deferred : c.scheduler.deferred = []
  hand : c.hand = none
  stop : c.scheduler.stop = none

/-- A session that is being stopped is cancelling.  Once a session was stopped or has ended there are no candidates
left, once it has ended no probe is held, and a closed session is empty. -/
structure Disposal (c : Core) : Prop where
  stopping : c.scheduler.stop.isSome = true → c.scheduler.lifecycle = .cancelling
  cancelling : c.scheduler.lifecycle = .cancelling → c.scheduler.stop.isSome = true
  proper : ∀ {stop}, c.scheduler.stop = some stop → stop.Proper
  drained : c.scheduler.lifecycle.live = false → c.scheduler.lifecycle ≠ .closed →
    c.scheduler.cursor = c.scheduler.plan.logicalProbeCount ∧ c.scheduler.deferred = [] ∧ c.hand = none
  rest : c.scheduler.lifecycle.ended = true → c.scheduler.active.size = 0 ∧ c.scheduler.programmes.size = 0
  closed : c.scheduler.lifecycle = .closed → Emptied c

structure Inv (c : Core) : Prop where
  setup : Setup c.scheduler
  origins : Origins c
  lanes : Lanes (· ≤ ·) c.scheduler
  targets : targetMeter.Balanced (· ≤ ·) c.scheduler
  prefixes : prefixMeter.Balanced (· ≤ ·) c.scheduler
  limits : Limits c.scheduler
  ledger : Ledger c
  disposal : Disposal c

variable {κ : Kind} {c c' : Core}

/-! ### What a step never changes -/

theorem Step.frame (h : Step κ c c') :
    c'.scheduler.plan = c.scheduler.plan ∧ c'.scheduler.config = c.scheduler.config ∧
      c'.scheduler.permutation = c.scheduler.permutation := by
  cases h with
  | settled =>
    rw [pruneAdaptiveTargetState_eq]
    exact ⟨rfl, rfl, rfl⟩
  | _ => exact ⟨rfl, rfl, rfl⟩

theorem Step.setup (h : Step κ c c') (hs : Setup c.scheduler) : Setup c'.scheduler := by
  obtain ⟨hplan, hconfig, hperm⟩ := h.frame
  refine ⟨by rw [hconfig]; exact hs.config, by rw [hperm, hplan]; exact hs.length, ?_⟩
  rw [hplan]
  cases h with
  | stopInitiated => exact le_refl _
  | issued live room permuted =>
    have := (SeededPermutation.permute_lt permuted).1
    have := hs.length
    simp only at *
    omega
  | settled =>
    rw [pruneAdaptiveTargetState_eq]
    exact hs.cursor
  | _ => exact hs.cursor

/-! ### Origins -/

variable {l : ProgrammeLogical}

theorem ProgrammeLogical.Planned.revises {plan : ScanPlan} {l' : ProgrammeLogical} (h : l.Planned plan)
    (hl : l'.Revises l) : l'.Planned plan := by
  refine ⟨?_, hl.variantCount ▸ hl.next⟩
  rw [hl.probe, hl.variantCount]
  exact h.shape

variable {id : Nat}

private theorem Origins.setProgramme {plan : ScanPlan} {programmes : OrdMap Nat ProgrammeLogical} {i : Nat}
    {l' : ProgrammeLogical}
    (h : ∀ {id l}, programmes.get? id = some l → plan.logicalProbeAt id = .ok l.probe ∧ l.Planned plan)
    (held : programmes.get? i = some l) (hl : l'.Revises l) {k : ProgrammeLogical}
    (hk : (programmes.insert i l').get? id = some k) : plan.logicalProbeAt id = .ok k.probe ∧ k.Planned plan := by
  rcases of_get?_insert hk with ⟨rfl, rfl⟩ | ⟨-, hk⟩
  · rw [hl.probe]
    exact ⟨(h held).1, (h held).2.revises hl⟩
  · exact h hk

theorem Step.origins (h : Step κ c c') (ho : Origins c) : Origins c' := by
  cases h with
  | stopInitiated => exact ⟨ho.active, ho.programmes, fun hp => by simp [stopping] at hp⟩
  | closed =>
    refine ⟨fun ha => ?_, fun hl => ?_, fun hp => ?_⟩
    · cases ha
    · cases hl
    · simp [disposed] at hp
  | terminalized held =>
    exact ⟨fun ha => ho.active (of_get?_erase ha).2, ho.programmes, ho.queued⟩
  | restaged held probe =>
    refine ⟨fun ha => ?_, ho.programmes, ho.queued⟩
    rcases of_get?_insert ha with ⟨rfl, rfl⟩ | ⟨-, ha⟩
    · rw [probe]
      exact ho.active held
    · exact ho.active ha
  | sent held =>
    have horigin := ho.active held
    refine ⟨fun ha => ?_, ho.programmes, ho.queued⟩
    rcases of_get?_insert ha with ⟨rfl, rfl⟩ | ⟨-, ha⟩
    · exact horigin
    · exact ho.active ha
  | taken _ queued =>
    refine ⟨ho.active, ho.programmes, fun hp => ho.queued (Or.inl ?_)⟩
    simp only at hp ⊢
    rw [queued, mem_cons]
    rcases hp with hp | hp
    · exact Or.inr hp
    · exact Or.inl (Option.some.inj hp).symm
  | @issued s h id p live room permuted decoded =>
    refine ⟨ho.active, ho.programmes, fun hp => ?_⟩
    rcases hp with hp | hp
    · exact ho.queued (Or.inl hp)
    cases hp
    have hid := (s.plan.logicalProbeAt_ok decoded).2.1
    rw [← hid] at decoded
    exact decoded
  | deferred =>
    refine ⟨ho.active, ho.programmes, fun hp => ho.queued ?_⟩
    rcases hp with hp | hp
    · rcases mem_append.1 hp with hp | hp
      · exact Or.inl hp
      · exact Or.inr (mem_singleton.1 hp ▸ rfl)
    · cases hp
  | requeued | rejected =>
    refine ⟨ho.active, ho.programmes, fun hp => ho.queued ?_⟩
    rcases hp with hp | hp
    · rcases mem_cons.1 hp with rfl | hp
      · exact Or.inr rfl
      · exact Or.inl hp
    · cases hp
  | lost => exact ⟨ho.active, ho.programmes, fun hp => ho.queued (Or.inl (hp.resolve_right (by simp)))⟩
  | admitted probe =>
    refine ⟨fun ha => ?_, ho.programmes, fun hp => ho.queued (Or.inl (hp.resolve_right (by simp)))⟩
    rcases of_get?_insert ha with ⟨rfl, rfl⟩ | ⟨-, ha⟩
    · rw [probe]
      exact ho.queued (Or.inr rfl)
    · exact ho.active ha
  | opened probe planned =>
    refine ⟨ho.active, fun hl => ?_, fun hp => ho.queued (Or.inl (hp.resolve_right (by simp)))⟩
    rcases of_get?_insert hl with ⟨rfl, rfl⟩ | ⟨-, hl⟩
    · rw [probe]
      exact ⟨ho.queued (Or.inr rfl), planned⟩
    · exact ho.programmes hl
  | scheduled held revises | revised held revises | observed held revises | finished held revises
  | retired _ held _ revises | tallied _ held revises | expired _ held revises =>
    exact ⟨ho.active, Origins.setProgramme ho.programmes held revises, ho.queued⟩
  | settled =>
    rw [pruneAdaptiveTargetState_eq]
    exact ⟨ho.active, fun hl => ho.programmes (of_get?_erase hl).2, ho.queued⟩
  | settleRefused | aborted => exact ⟨ho.active, fun hl => ho.programmes (of_get?_erase hl).2, ho.queued⟩
  | _ => exact ⟨ho.active, ho.programmes, ho.queued⟩

/-! ### Limits -/

private theorem increment_le {κ : Type} [LinearOrder κ] {counts : OrdMap κ Nat} {key : κ} {bound : Nat}
    (h : ∀ k, tally counts k ≤ bound) (hlt : tally counts key < bound) (k : κ) :
    tally (increment counts key) k ≤ bound := by
  rw [tally_increment]
  have := h k
  split
  · next he => subst he; omega
  · omega

theorem Step.limits (h : Step κ c c') (hlanes : Lanes (· ≤ ·) c.scheduler) (hl : Limits c.scheduler) :
    Limits c'.scheduler := by
  obtain ⟨ht, hp, ho, hw, hc⟩ := hl
  unfold totalCorrelationEntries at hc
  cases h with
  | @pruned s h p =>
    refine ⟨ht, hp, ho, hw, ?_⟩
    have := s.grace.size_retain_le p
    simp only [totalCorrelationEntries] at *
    omega
  | closed => exact ⟨fun _ => Nat.zero_le _, fun _ => Nat.zero_le _, Nat.zero_le _, Nat.zero_le _, Nat.zero_le _⟩
  | terminalized held probe fresh target prefixes =>
    have hactive := size_erase held
    refine ⟨fun t => (target.tally_le t).trans (ht t), fun k => (prefixes.tally_le k).trans (hp k), ?_, ?_, ?_⟩ <;>
      simp only [totalCorrelationEntries, size_insert _ fresh] at * <;> omega
  | restaged held | sent held =>
    refine ⟨ht, hp, ?_, ?_, ?_⟩ <;>
      simpa only [totalCorrelationEntries, setActive, size_insert_of_get? held]
  | admitted probe fresh room target prefixes =>
    rw [hasRoom_iff] at room
    refine ⟨increment_le ht target, increment_le hp prefixes, ?_, ?_, ?_⟩ <;>
      simp only [totalCorrelationEntries, size_insert _ fresh] at * <;> omega
  | opened probe planned active grace fresh room =>
    rw [hasRoom_iff] at room
    refine ⟨ht, hp, ho, ?_, hc⟩
    simp only [setProgramme, size_insert _ fresh] at *
    omega
  | scheduled held revises active grace room target prefixes =>
    rw [laneFree_iff] at room
    have fresh := hlanes.fresh
    refine ⟨increment_le ht target, increment_le hp prefixes, ?_, ?_, ?_⟩ <;>
      simp only [totalCorrelationEntries, size_insert _ fresh, size_insert_of_get? held] at * <;> omega
  | retired sent held names revises active grace target prefixes =>
    have hphysical := size_erase sent
    have fresh := (hlanes.wire sent).2.1
    refine ⟨fun t => (target.tally_le t).trans (ht t), fun k => (prefixes.tally_le k).trans (hp k), ?_, ?_, ?_⟩ <;>
      simp only [totalCorrelationEntries, size_insert _ fresh, size_insert_of_get? held] at * <;> omega
  | leaked sent =>
    have hphysical := size_erase sent
    refine ⟨ht, hp, ?_, hw, ?_⟩ <;> simp only [totalCorrelationEntries] at * <;> omega
  | resent sent =>
    refine ⟨ht, hp, ?_, hw, ?_⟩ <;>
      simpa only [totalCorrelationEntries, setPhysical, size_insert_of_get? sent]
  | revised held | observed held | tallied _ held =>
    refine ⟨ht, hp, ho, ?_, hc⟩
    simpa only [setProgramme, size_insert_of_get? held]
  | expired kept held =>
    have hgrace := size_erase kept
    refine ⟨ht, hp, ho, ?_, ?_⟩ <;>
      simp only [totalCorrelationEntries, size_insert_of_get? held] at * <;> omega
  | @finished s h id l l' ready perTarget perPrefix held revises active grace target prefixes =>
    have hphysical := s.physical.size_retain_le fun _ p => p.logicalId != id
    have hgrace := s.programmeGrace.size_retain_le fun _ g => g.logicalId != id
    refine ⟨fun t => (target.tally_le t).trans (ht t), fun k => (prefixes.tally_le k).trans (hp k), ?_, ?_, ?_⟩ <;>
      simp only [totalCorrelationEntries, setProgramme, withoutLanes, size_insert_of_get? held] at * <;> omega
  | settled held =>
    have := size_erase held
    rw [pruneAdaptiveTargetState_eq]
    refine ⟨ht, hp, ho, ?_, hc⟩
    simp only at *
    omega
  | settleRefused held =>
    have := size_erase held
    refine ⟨ht, hp, ho, ?_, hc⟩
    simp only at *
    omega
  | @aborted s h id l result answer r ready perTarget perPrefix held probe target prefixes =>
    have hprogrammes := size_erase held
    have hphysical := s.physical.size_retain_le fun _ p => p.logicalId != id
    have hgrace := s.programmeGrace.size_retain_le fun _ g => g.logicalId != id
    refine ⟨fun t => (target.tally_le t).trans (ht t), fun k => (prefixes.tally_le k).trans (hp k), ?_, ?_, ?_⟩ <;>
      simp only [totalCorrelationEntries, withoutLanes] at * <;> omega
  | _ => exact ⟨ht, hp, ho, hw, hc⟩

/-! ### The ledger -/

variable {e : Event}

variable {h : List Event}

theorem committed_cons_none (he : e.committedId = none) :
    committed (e :: h) = committed h := filterMap_cons_none he

theorem committed_cons_some (he : e.committedId = some id) :
    committed (e :: h) = id :: committed h := filterMap_cons_some he

theorem Undisturbed.head (hu : Undisturbed (e :: h)) : e.disrupts = false := hu e (mem_cons_self ..)

variable {h' : List Event} {p : LogicalProbe}

theorem Rejects.committed {e : EngineError} (hr : Rejects p h h' e) :
    Engine.committed h' = Engine.committed h := by
  cases hr with
  | unresolved => rfl
  | unreserved => rfl

private theorem count_committed_cons (e : Event) (h : List Event) (id : Nat) :
    (committed (e :: h)).count id = (committed h).count id + e.committedId.toList.count id := by
  unfold committed
  cases he : e.committedId <;> simp [he, count_cons]

variable {a : ActiveProbe}

/-- The probe that the plan has under an id carries that id. -/
theorem Origins.active_id (ho : Origins c) (h : c.scheduler.active.get? id = some a) :
    a.probe.logicalId = id := (c.scheduler.plan.logicalProbeAt_ok (ho.active h)).2.1

theorem Origins.programme_id (ho : Origins c) (h : c.scheduler.programmes.get? id = some l) :
    l.probe.logicalId = id :=
  (c.scheduler.plan.logicalProbeAt_ok (ho.programmes h).1).2.1

private theorem keep_or_drop {a b : Nat} (he : a = b) : a ≤ b ∧ (Undisturbed h → a = b) := ⟨he.le, fun _ => he⟩

/-- A step never adds a holder of an id, and takes one away only when it disrupts the session. -/
theorem Step.holders (h : Step κ c c') (hs : Setup c.scheduler) (ho : Origins c) (id : Nat) :
    c'.holders id ≤ c.holders id ∧ (Undisturbed c'.history → c'.holders id = c.holders id) := by
  cases h with
  | called neutral =>
    apply keep_or_drop
    exact Event.neutral_elim neutral rfl (fun _ => rfl) (fun _ => rfl) fun _ _ _ _ => rfl
  | sent held =>
    apply keep_or_drop
    simp only [Core.holders, setActive, count_keys_insert_of_get? held]
    rfl
  | released releases =>
    apply keep_or_drop
    exact Event.releases_elim releases (fun _ _ => rfl) fun _ _ _ => rfl
  | @stopInitiated s h stop r =>
    have hunissued : s.permutation.unissued s.plan.logicalProbeCount = [] := by
      have hlength : s.permutation.length = s.plan.logicalProbeCount := hs.length
      rw [← hlength, SeededPermutation.unissued_length]
    refine ⟨?_, fun hu => absurd hu.head (by simp [Event.disrupts, Event.stops])⟩
    simp only [Core.holders, stopping, count_committed_cons, Event.committedId, hunissued, Option.toList_none,
      count_nil, map_nil]
    omega
  | @closed s h released =>
    obtain ⟨e, he, hr⟩ := released
    refine ⟨?_, fun hu => absurd (hu e he) (by simp [Event.disrupts, hr])⟩
    simp only [Core.holders, disposed, keys_empty, count_nil, map_nil]
    omega
  | @terminalized s h i expires a result _ _ held probe =>
    have := count_keys_erase held id
    apply keep_or_drop
    simp only [Core.holders, count_committed_cons, Event.committedId, probe, ho.active_id held, Option.toList_some,
      count_cons, count_nil, beq_iff_eq, eq_comm (a := i)]
    omega
  | restaged held =>
    apply keep_or_drop
    simp only [Core.holders, setActive, count_keys_insert_of_get? held]
  | taken _ queued =>
    apply keep_or_drop
    simp only [Core.holders, queued, map_cons, count_cons, Option.toList_some, Option.toList_none,
      map_nil, count_nil]
    omega
  | @issued s h i p live room permuted decoded =>
    apply keep_or_drop
    simp only [Core.holders, SeededPermutation.unissued_cons permuted, count_cons, Option.toList_some,
      Option.toList_none, map_cons, map_nil, count_nil, (s.plan.logicalProbeAt_ok decoded).2.1]
    omega
  | deferred | requeued =>
    apply keep_or_drop
    simp only [Core.holders, map_append, count_append, map_cons, count_cons, Option.toList_some,
      Option.toList_none, map_nil, count_nil]
    omega
  | rejected rejects =>
    apply keep_or_drop
    simp only [Core.holders, rejects.committed, map_cons, count_cons, Option.toList_some, Option.toList_none,
      map_nil, count_nil]
    omega
  | lost =>
    refine ⟨?_, fun hu => absurd hu.head (by simp [Event.disrupts, Event.sinkFails])⟩
    simp only [Core.holders, count_committed_cons, Event.committedId, Option.toList_none, map_nil, count_nil]
    omega
  | @admitted s h p _ _ fresh | @opened s h p _ _ _ _ _ _ fresh =>
    apply keep_or_drop
    simp only [Core.holders, setProgramme, count_committed_cons, Event.committedId, count_keys_insert _ fresh,
      Option.toList_some, Option.toList_none, map_cons, map_nil, count_cons, count_nil,
      beq_iff_eq, eq_comm (a := p.logicalId)]
    omega
  | scheduled held | retired _ held | revised held | observed held | finished held =>
    apply keep_or_drop
    simp only [Core.holders, setProgramme, withoutLanes, count_keys_insert_of_get? held]
  | tallied _ held | expired _ held =>
    apply keep_or_drop
    simp only [Core.holders, setProgramme, count_keys_insert_of_get? held]
    rfl
  | @settled s h i actual l result r held active grace probe =>
    have := count_keys_erase held id
    apply keep_or_drop
    rw [pruneAdaptiveTargetState_eq]
    simp only [Core.holders, count_committed_cons, Event.committedId, probe, ho.programme_id held,
      Option.toList_some, Option.toList_none, count_cons, count_nil, beq_iff_eq, eq_comm (a := i)]
    omega
  | settleRefused held =>
    have := count_keys_erase held id
    refine ⟨?_, fun hu => absurd hu.head (by simp [Event.disrupts, Event.sinkFails])⟩
    simp only [Core.holders, count_committed_cons, Event.committedId, Option.toList_none, count_nil]
    omega
  | @aborted s h i l result answer r ready perTarget perPrefix held probe =>
    have hkeys := count_keys_erase held id
    cases answer with
    | ok u =>
      apply keep_or_drop
      simp only [Core.holders, withoutLanes, count_committed_cons, Event.committedId, probe, ho.programme_id held,
        Option.toList_some, Option.toList_none, count_cons, count_nil, beq_iff_eq, eq_comm (a := i)]
      omega
    | error failure =>
      refine ⟨?_, fun hu => absurd hu.head (by simp [Event.disrupts, Event.sinkFails])⟩
      simp only [Core.holders, withoutLanes, count_committed_cons, Event.committedId, Option.toList_none,
        count_nil]
      omega
  | _ => exact keep_or_drop rfl

/-- The probe is still to come, queued, or in the hand. -/
def Core.Awaits (c : Core) (id : Nat) : Prop :=
  id ∈ c.scheduler.permutation.unissued c.scheduler.cursor ∨ id ∈ c.scheduler.deferred.map LogicalProbe.logicalId ∨
    id ∈ c.hand.toList.map LogicalProbe.logicalId

instance (c : Core) (id : Nat) : Decidable (c.Awaits id) := inferInstanceAs (Decidable (_ ∨ _ ∨ _))

/-- A probe that waits is neither admitted nor committed. -/
theorem Ledger.not_held_of_awaits (h : Ledger c) (hw : c.Awaits id) :
    c.scheduler.active.get? id = none ∧ c.scheduler.programmes.get? id = none ∧ id ∉ committed c.history := by
  have hunique := h.unique id
  have hwaits : 0 < (c.scheduler.permutation.unissued c.scheduler.cursor).count id +
      (c.scheduler.deferred.map LogicalProbe.logicalId).count id +
      (c.hand.toList.map LogicalProbe.logicalId).count id := by
    rcases hw with hw | hw | hw <;> have := List.count_pos_iff.2 hw <;> omega
  unfold Core.holders at hunique
  rw [← not_mem_keys, ← not_mem_keys, ← count_eq_zero, ← count_eq_zero, ← count_eq_zero]
  omega

theorem Ledger.only_active (h : Ledger c) (ha : c.scheduler.active.get? id = some a) :
    c.scheduler.programmes.get? id = none ∧ id ∉ committed c.history ∧ ¬ c.Awaits id := by
  have hunique := h.unique id
  have hactive := count_keys_pos ha
  unfold Core.holders at hunique
  rw [← not_mem_keys, ← count_eq_zero, ← count_eq_zero]
  refine ⟨by omega, by omega, fun hw => ?_⟩
  rw [(h.not_held_of_awaits hw).1] at ha
  cases ha

theorem Ledger.only_programme (h : Ledger c) (hl : c.scheduler.programmes.get? id = some l) :
    c.scheduler.active.get? id = none ∧ id ∉ committed c.history ∧ ¬ c.Awaits id := by
  have hunique := h.unique id
  have hprogrammes := count_keys_pos hl
  unfold Core.holders at hunique
  rw [← not_mem_keys, ← count_eq_zero, ← count_eq_zero]
  refine ⟨by omega, by omega, fun hw => ?_⟩
  rw [(h.not_held_of_awaits hw).2.1] at hl
  cases hl

/-- A plain probe was never committed, so it has no grace entry. -/
theorem Ledger.grace_of_active (hl : Ledger c) (h : c.scheduler.active.get? id = some a) :
    c.scheduler.grace.get? id = none :=
  Option.eq_none_iff_forall_ne_some.2 fun _ ht => (hl.only_active h).2.1 (hl.grace ht)

theorem Ledger.fresh_of_hand (hl : Ledger c) (h : c.hand = some p) :
    c.scheduler.active.get? p.logicalId = none ∧ c.scheduler.programmes.get? p.logicalId = none := by
  have hw : c.Awaits p.logicalId := Or.inr (Or.inr (by simp [h]))
  obtain ⟨hactive, hprogramme, -⟩ := hl.not_held_of_awaits hw
  exact ⟨hactive, hprogramme⟩

/-- Committed ids stay committed, and a grace entry is made for a committed id. -/
private theorem Step.ledger_grace (h : Step κ c c') (ho : Origins c)
    (hg : ∀ {id t}, c.scheduler.grace.get? id = some t → id ∈ committed c.history) {t : Nat}
    (ht : c'.scheduler.grace.get? id = some t) : id ∈ committed c'.history := by
  have hkept : ∀ {t}, c.scheduler.grace.get? id = some t → id ∈ committed c'.history := fun ht =>
    filterMap_subset _ h.history_subset (hg ht)
  cases h with
  | pruned p => exact hkept (get?_retain_eq_some.1 ht).1
  | closed => cases ht
  | @terminalized s h i expires a result _ _ held probe =>
    rcases of_get?_insert ht with ⟨rfl, -⟩ | ⟨-, ht⟩
    · have hid : (Event.commitReserved result (.ok ())).committedId = some id := by
        rw [Event.committedId, probe, ho.active_id held]
      rw [committed_cons_some hid]
      exact mem_cons_self ..
    · exact hkept ht
  | settled =>
    rw [pruneAdaptiveTargetState_eq] at ht
    exact hkept ht
  | _ => exact hkept ht

private theorem Step.ledger_queue (h : Step κ c c')
    (hq : c.scheduler.deferred.length + c.hand.toList.length ≤ maxTransitionsPerDrive) :
    c'.scheduler.deferred.length + c'.hand.toList.length ≤ maxTransitionsPerDrive := by
  cases h with
  | stopInitiated | closed => exact Nat.zero_le _
  | taken _ queued => simpa [queued] using hq
  | issued _ room => exact room
  | deferred | requeued | rejected => simpa using hq
  | lost | admitted | opened => exact le_trans (Nat.le_add_right _ _) hq
  | settled =>
    rw [pruneAdaptiveTargetState_eq]
    exact hq
  | _ => exact hq

private theorem Step.ledger_stopping (h : Step κ c c')
    (hs : c.scheduler.stop.isSome = true → ∃ e ∈ c.history, e.stops = true) :
    c'.scheduler.stop.isSome = true → ∃ e ∈ c'.history, e.stops = true := by
  have hkept : c.scheduler.stop.isSome = true → ∃ e ∈ c'.history, e.stops = true := fun hstop => by
    obtain ⟨e, he, hstops⟩ := hs hstop
    exact ⟨e, h.history_subset he, hstops⟩
  cases h with
  | stopInitiated stop r => exact fun _ => ⟨_, mem_cons_self .., rfl⟩
  | stopped | closed => exact fun h => by cases h
  | settled =>
    rw [pruneAdaptiveTargetState_eq]
    exact hkept
  | _ => exact hkept

theorem Step.undisturbed (h : Step κ c c') (hu : Undisturbed c'.history) : Undisturbed c.history :=
  fun e he => hu e (h.history_subset he)

theorem Step.ledger (h : Step κ c c') (hs : Setup c.scheduler) (ho : Origins c) (hl : Ledger c) : Ledger c' where
  unique id := (h.holders hs ho id).1.trans (hl.unique id)
  complete hu id := by
    rw [(h.holders hs ho id).2 hu, h.frame.1]
    exact hl.complete (h.undisturbed hu) id
  queue := h.ledger_queue hl.queue
  grace := h.ledger_grace ho hl.grace
  stopping := h.ledger_stopping hl.stopping

/-! ### Disposal -/

variable {lifecycle : SessionLifecycle}

theorem SessionLifecycle.alive_of_live (h : lifecycle.live = true) : lifecycle ≠ .closed := by
  rintro rfl
  cases h

theorem SessionLifecycle.alive_of_ended (h : lifecycle.ended = true) : lifecycle ≠ .closed := by
  rintro rfl
  cases h

/-- Only the disposing step closes a session. -/
theorem Step.alive (h : Step κ c c') (hκ : κ ≠ .disposed) (hd : Disposal c)
    (hc : c.scheduler.lifecycle ≠ .closed) : c'.scheduler.lifecycle ≠ .closed := by
  cases h with
  | moved _ next => exact SessionLifecycle.alive_of_live next
  | completed => simp
  | stopInitiated => simp [stopping]
  | stopped pending => exact SessionLifecycle.alive_of_ended (hd.proper pending).final
  | closed => exact absurd rfl hκ
  | settled =>
    rw [pruneAdaptiveTargetState_eq]
    exact hc
  | _ => exact hc

private theorem Emptied.absurd_hand {p : Prop} (h : Emptied c) {q : LogicalProbe} (hq : c.hand = some q) : p := by
  rw [h.hand] at hq
  cases hq

/-- In an empty session nothing can be done for a probe. -/
private theorem Step.emptied (h : Step κ c c') (hc : c.scheduler.lifecycle = .closed) (he : Emptied c) :
    Emptied c' := by
  cases h with
  | quiet | invalidating | invalidated | called | released | pruned | commitRefused | icmpNoted | paced =>
    exact ⟨he.active, he.programmes, he.physical, he.programmeGrace, he.deferred, he.hand, he.stop⟩
  | moved live | stopInitiated _ _ live | issued live => exact absurd hc (SessionLifecycle.alive_of_live live)
  | completed running =>
    rw [hc] at running
    cases running
  | stopped pending =>
    have := he.stop
    rw [pending] at this
    cases this
  | closed => exact ⟨rfl, rfl, rfl, rfl, rfl, rfl, rfl⟩
  | terminalized held | restaged held | sent held => exact absurd held (get?_ne_some he.active)
  | taken _ queued =>
    have := he.deferred
    rw [queued] at this
    cases this
  | resolved | deferred | requeued | rejected | lost | admitted | opened => exact he.absurd_hand rfl
  | leaked sent | resent sent => exact absurd sent (get?_ne_some he.physical)
  | scheduled held | revised held | observed held | finished held | settled held | settleRefused held
  | aborted held | retired _ held | tallied _ held | untallied _ held | expired _ held =>
    exact absurd held (get?_ne_some he.programmes)

/-- A pending stop is kept until it is carried out or the session is closed. -/
private theorem Step.disposal_stopping (h : Step κ c c') (hd : Disposal c)
    (hstop : c'.scheduler.stop.isSome = true) : c'.scheduler.lifecycle = .cancelling := by
  cases h with
  | moved live =>
    rw [hd.stopping hstop] at live
    cases live
  | completed running =>
    have hcancelling := hd.stopping hstop
    rw [running] at hcancelling
    cases hcancelling
  | stopInitiated => rfl
  | stopped | closed => cases hstop
  | settled =>
    rw [pruneAdaptiveTargetState_eq] at hstop ⊢
    exact hd.stopping hstop
  | _ => exact hd.stopping hstop

/-- Only a stop cancels a session, and what it ends in is not cancelling any more. -/
private theorem Step.disposal_cancelling (h : Step κ c c') (hd : Disposal c)
    (hc : c'.scheduler.lifecycle = .cancelling) : c'.scheduler.stop.isSome = true := by
  cases h with
  | moved _ next =>
    simp only at hc
    rw [hc] at next
    cases next
  | completed => cases hc
  | stopInitiated => rfl
  | stopped pending =>
    have hfinal := (hd.proper pending).final
    simp only at hc
    rw [hc] at hfinal
    cases hfinal
  | closed => cases hc
  | settled =>
    rw [pruneAdaptiveTargetState_eq] at hc ⊢
    exact hd.cancelling hc
  | _ => exact hd.cancelling hc

/-- Candidates are taken in a live session only, so none come back to a session that was stopped. -/
private theorem Step.disposal_drained (h : Step κ c c') (hd : Disposal c)
    (hlive : c'.scheduler.lifecycle.live = false) (hc : c'.scheduler.lifecycle ≠ .closed) :
    c'.scheduler.cursor = c'.scheduler.plan.logicalProbeCount ∧ c'.scheduler.deferred = [] ∧ c'.hand = none := by
  cases h with
  | moved _ next =>
    rw [next] at hlive
    cases hlive
  | completed _ cursor deferred => exact ⟨cursor, deferred, rfl⟩
  | stopInitiated => exact ⟨rfl, rfl, rfl⟩
  | stopped pending =>
    have hcancelling := hd.stopping (by rw [pending]; rfl)
    exact hd.drained (by rw [hcancelling]; rfl) (by rw [hcancelling]; simp)
  | closed => exact absurd rfl hc
  | taken live | issued live =>
    rw [live] at hlive
    cases hlive
  | deferred | requeued | rejected | lost | admitted | opened => cases (hd.drained hlive hc).2.2
  | settled =>
    rw [pruneAdaptiveTargetState_eq] at hlive hc ⊢
    exact hd.drained hlive hc
  | _ => exact hd.drained hlive hc

theorem SessionLifecycle.not_live_of_ended (h : lifecycle.ended = true) : lifecycle.live = false := by
  cases lifecycle with
  | completed => rfl
  | failed => rfl
  | _ => cases h

/-- Probes are admitted from the hand only, which is empty once a session has ended. -/
private theorem Step.disposal_rest (h : Step κ c c') (hd : Disposal c)
    (hend : c'.scheduler.lifecycle.ended = true) :
    c'.scheduler.active.size = 0 ∧ c'.scheduler.programmes.size = 0 := by
  have empty_hand : c.scheduler.lifecycle.ended = true → c.hand = none := fun hend =>
    (hd.drained (SessionLifecycle.not_live_of_ended hend) (SessionLifecycle.alive_of_ended hend)).2.2
  cases h with
  | moved _ next =>
    rw [SessionLifecycle.not_live_of_ended hend] at next
    cases next
  | completed _ _ _ active programmes | stopped _ active programmes => exact ⟨active, programmes⟩
  | stopInitiated | closed => cases hend
  | terminalized held | restaged held | sent held => exact absurd held (get?_ne_some (hd.rest hend).1)
  | admitted | opened => cases empty_hand hend
  | scheduled held | revised held | observed held | finished held | settleRefused held | aborted held
  | retired _ held | expired _ held | tallied _ held | untallied _ held =>
    exact absurd held (get?_ne_some (hd.rest hend).2)
  | settled held =>
    rw [pruneAdaptiveTargetState_eq] at hend
    exact absurd held (get?_ne_some (hd.rest hend).2)
  | _ => exact hd.rest hend

theorem Step.disposal (h : Step κ c c') (hd : Disposal c) : Disposal c' where
  stopping := h.disposal_stopping hd
  cancelling := h.disposal_cancelling hd
  drained := h.disposal_drained hd
  rest := h.disposal_rest hd
  proper hstop := by
    cases h with
    | stopInitiated _ _ _ proper => cases hstop; exact proper
    | stopped | closed => cases hstop
    | settled =>
      rw [pruneAdaptiveTargetState_eq] at hstop
      exact hd.proper hstop
    | _ => exact hd.proper hstop
  closed hc := by
    by_cases hκ : κ = .disposed
    · obtain ⟨s, history, -, rfl, rfl⟩ := h.of_disposed hκ
      exact ⟨rfl, rfl, rfl, rfl, rfl, rfl, rfl⟩
    have hclosed : c.scheduler.lifecycle = .closed := by
      by_contra halive
      exact h.alive hκ hd halive hc
    exact h.emptied hclosed (hd.closed hclosed)

/-- How far a session has come: it is live, it is being stopped, it has ended, or it is closed. -/
def SessionLifecycle.stage : SessionLifecycle → Nat
  | created | running | pausing | paused => 0
  | cancelling => 1
  | completed | failed => 2
  | closed => 3

theorem SessionLifecycle.stage_eq_zero : lifecycle.stage = 0 ↔ lifecycle.live = true := by
  cases lifecycle <;> simp [stage, live]

theorem SessionLifecycle.stage_eq_three : 3 ≤ lifecycle.stage ↔ lifecycle = .closed := by
  cases lifecycle <;> simp [stage]

theorem SessionLifecycle.stage_le_three (lifecycle : SessionLifecycle) : lifecycle.stage ≤ 3 := by
  cases lifecycle <;> simp [stage]

/-- A session never goes back. -/
theorem Step.stage_le (h : Step κ c c') (hd : Disposal c) :
    c.scheduler.lifecycle.stage ≤ c'.scheduler.lifecycle.stage := by
  cases h with
  | completed running => exact (SessionLifecycle.stage_eq_zero.2 (by rw [running]; rfl)).le.trans (Nat.zero_le _)
  | moved live | stopInitiated _ _ live => exact (SessionLifecycle.stage_eq_zero.2 live).le.trans (Nat.zero_le _)
  | @stopped s h stop pending =>
    have hcancelling := hd.stopping (by rw [pending]; rfl)
    have hended := (hd.proper pending).final
    rw [hcancelling]
    show 1 ≤ stop.finalLifecycle.stage
    cases hfinal : stop.finalLifecycle <;> simp_all [SessionLifecycle.stage, SessionLifecycle.ended]
  | closed => exact SessionLifecycle.stage_le_three _
  | settled =>
    rw [pruneAdaptiveTargetState_eq]
  | _ => exact le_refl _

theorem Step.absorbing (h : Step κ c c') (hd : Disposal c) (hc : c.scheduler.lifecycle = .closed) :
    c'.scheduler.lifecycle = .closed :=
  SessionLifecycle.stage_eq_three.1 ((SessionLifecycle.stage_eq_three.2 hc).trans (h.stage_le hd))

private theorem Disposal.live_of_held (hd : Disposal c) (free : c.scheduler.stop = none)
    (hrest : c.scheduler.lifecycle.ended = true → False) (hclosed : c.scheduler.lifecycle = .closed → False) :
    c.scheduler.lifecycle.live = true := by
  cases hl : c.scheduler.lifecycle with
  | cancelling =>
    have hstop := hd.cancelling hl
    rw [free] at hstop
    cases hstop
  | completed | failed => exact (hrest (by rw [hl]; rfl)).elim
  | closed => exact (hclosed hl).elim
  | _ => rfl

theorem Disposal.live_of_active (hd : Disposal c) (free : c.scheduler.stop = none)
    (ha : c.scheduler.active.get? id = some a) : c.scheduler.lifecycle.live = true := by
  exact hd.live_of_held free (fun hend => get?_ne_some (hd.rest hend).1 ha)
    fun hc => get?_ne_some (hd.closed hc).active ha

theorem Disposal.live_of_programme (hd : Disposal c) (free : c.scheduler.stop = none)
    (hl : c.scheduler.programmes.get? id = some l) : c.scheduler.lifecycle.live = true := by
  exact hd.live_of_held free (fun hend => get?_ne_some (hd.rest hend).2 hl)
    fun hc => get?_ne_some (hd.closed hc).programmes hl

/-! ### The invariant -/

theorem Step.inv (h : Step κ c c') (hi : Inv c) : Inv c' := by
  have hlanes : Lanes (· ≤ ·) c'.scheduler := by
    by_cases hκ : κ = .leaked
    · obtain ⟨s, history, wireId, p, sent, rfl, rfl⟩ := h.of_leaked hκ
      exact hi.lanes.leak sent
    · exact h.lanes Comparison.le hκ hi.lanes hi.lanes
  have hmeter : ∀ {κ' : Type} [LinearOrder κ'] (m : Meter κ'), m.Balanced (· ≤ ·) c.scheduler →
      m.Balanced (· ≤ ·) c'.scheduler := by
    intro κ' _ m hm
    by_cases hκ : κ = .leaked
    · obtain ⟨s, history, wireId, p, sent, rfl, rfl⟩ := h.of_leaked hκ
      exact hm.leak hi.lanes sent
    · exact h.balanced Comparison.le hκ hi.lanes hm
  exact {
    setup := h.setup hi.setup
    origins := h.origins hi.origins
    lanes := hlanes
    targets := hmeter targetMeter hi.targets
    prefixes := hmeter prefixMeter hi.prefixes
    limits := h.limits hi.lanes hi.limits
    ledger := h.ledger hi.setup hi.origins hi.ledger
    disposal := h.disposal hi.disposal }

end NodeNet.Engine
