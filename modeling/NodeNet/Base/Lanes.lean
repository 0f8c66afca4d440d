import Mathlib.Data.Finset.Card
import Mathlib.Data.Fintype.EquivFin
import Mathlib.Data.Nat.ModEq
import NodeNet.Base.OrdMap

/-!
# Lane pools

A pool lends the numbers below its size to owners, one each.  It keeps the map from owners to lanes and the set of
lanes that are occupied, and looks for a free lane from a cursor on, with wrap-around, as many times as there are
occupied lanes and once more.  A pool in which the map and the set agree (`Lanes.Valid`) stays so, an owner keeps
its lane, and the search fails only if every lane is occupied (`Lanes.Valid.full_of_allocate_none`).
-/

namespace NodeNet

structure Lanes where
  held : OrdMap Nat Nat
  occupied : Finset Nat
  next : Nat

namespace Lanes

def empty : Lanes := ⟨∅, ∅, 0⟩

/-- Looks for a free lane at the cursor and behind it, at most `tries` times; the cursor ends behind the last lane
that was looked at. -/
def search (size : Nat) (occupied : Finset Nat) : Nat → Nat → Option Nat × Nat
  | 0, next => (none, next)
  | tries + 1, next =>
    let candidate := next % size
    let next := (candidate + 1) % size
    if candidate ∈ occupied then search size occupied tries next else (some candidate, next)

/-- The lane of an owner, which keeps the one it has. -/
def allocate (l : Lanes) (size owner : Nat) : Option Nat × Lanes :=
  match l.held.get? owner with
  | some lane => (some lane, l)
  | none =>
    match search size l.occupied (l.occupied.card + 1) l.next with
    | (none, next) => (none, { l with next := next })
    | (some lane, next) => (some lane, ⟨l.held.insert owner lane, insert lane l.occupied, next⟩)

/-- Takes back the lane of an owner, if it has one. -/
def release (l : Lanes) (owner : Nat) : Lanes :=
  match l.held.get? owner with
  | none => l
  | some lane => { l with held := l.held.erase owner, occupied := l.occupied.erase lane }

/-- The map and the set agree, no lane has two owners, and all lanes lie below the size. -/
structure Valid (size : Nat) (l : Lanes) : Prop where
  occupied : ∀ lane, lane ∈ l.occupied ↔ ∃ owner, l.held.get? owner = some lane
  distinct : ∀ owner owner' lane, l.held.get? owner = some lane → l.held.get? owner' = some lane → owner = owner'
  bounded : ∀ owner lane, l.held.get? owner = some lane → lane < size

variable {size : Nat} {l : Lanes}

theorem empty_valid : Valid size empty :=
    ⟨fun lane => by simp [empty], fun _ _ _ h => (nomatch h), fun _ _ h => (nomatch h)⟩

theorem search_some {occupied : Finset Nat} {tries next lane : Nat} (hsize : 0 < size)
    (h : (search size occupied tries next).1 = some lane) : lane ∉ occupied ∧ lane < size := by
  induction tries generalizing next with
  | zero => cases h
  | succ tries ih =>
    simp only [search] at h
    split at h
    · exact ih h
    next hfree =>
    cases h
    exact ⟨hfree, Nat.mod_lt _ hsize⟩

theorem search_none {occupied : Finset Nat} {tries next : Nat} (h : (search size occupied tries next).1 = none) :
    ∀ i < tries, (next + i) % size ∈ occupied := by
  induction tries generalizing next with
  | zero => intro i hi; omega
  | succ tries ih =>
    simp only [search] at h
    split at h
    · next hoccupied =>
      intro i hi
      cases i with
      | zero => exact hoccupied
      | succ i =>
        have hlater := ih h i (by omega)
        rwa [Nat.mod_add_mod, Nat.add_assoc, Nat.mod_add_mod, Nat.add_comm 1] at hlater
    · cases h

namespace Valid

theorem search_full (hl : Valid size l) {next : Nat}
    (h : (search size l.occupied (l.occupied.card + 1) next).1 = none) : l.occupied = Finset.range size := by
  have hsub : l.occupied ⊆ Finset.range size := by
    intro lane hlane
    obtain ⟨owner, howner⟩ := (hl.occupied lane).1 hlane
    exact Finset.mem_range.2 (hl.bounded owner lane howner)
  have hseen := search_none h
  by_contra hne
  have hcard : l.occupied.card < size := by
    have hlt := Finset.card_lt_card (Finset.ssubset_iff_subset_ne.2 ⟨hsub, hne⟩)
    rwa [Finset.card_range] at hlt
  -- fewer tries than lanes look at different lanes, one more than are occupied
  have hinj : Set.InjOn (fun i => (next + i) % size) (Finset.range (l.occupied.card + 1)) := by
    intro i hi j hj hij
    rw [Finset.coe_range, Set.mem_Iio] at hi hj
    have hmod : i ≡ j [MOD size] := Nat.ModEq.add_left_cancel' next hij
    exact Nat.ModEq.eq_of_lt_of_lt hmod (by omega) (by omega)
  have himage : (Finset.range (l.occupied.card + 1)).image (fun i => (next + i) % size) ⊆ l.occupied := by
    intro lane hlane
    obtain ⟨i, hi, rfl⟩ := Finset.mem_image.1 hlane
    exact hseen i (Finset.mem_range.1 hi)
  have hcount := Finset.card_le_card himage
  rw [Finset.card_image_of_injOn hinj, Finset.card_range] at hcount
  omega

theorem allocate (hl : Valid size l) (hsize : 0 < size) (owner : Nat) : Valid size (l.allocate size owner).2 := by
  unfold Lanes.allocate
  split
  · exact hl
  next hnone =>
  split
  · exact ⟨hl.occupied, hl.distinct, hl.bounded⟩
  next lane next hfound =>
  obtain ⟨hfree, hlt⟩ := search_some hsize (congrArg Prod.fst hfound)
  have hunowned : ∀ other, l.held.get? other ≠ some lane := fun other h => hfree ((hl.occupied lane).2 ⟨other, h⟩)
  refine ⟨fun other => ?_, fun a b other ha hb => ?_, fun a other ha => ?_⟩
  · simp only [Finset.mem_insert]
    constructor
    · rintro (rfl | hmem)
      · exact ⟨owner, OrdMap.get?_insert_self ..⟩
      obtain ⟨a, ha⟩ := (hl.occupied other).1 hmem
      have hne : a ≠ owner := by rintro rfl; rw [hnone] at ha; cases ha
      exact ⟨a, by rw [OrdMap.get?_insert_of_ne _ _ hne, ha]⟩
    rintro ⟨a, ha⟩
    rcases OrdMap.of_get?_insert ha with ⟨-, hlane⟩ | ⟨-, ha⟩
    · exact Or.inl hlane
    · exact Or.inr ((hl.occupied other).2 ⟨a, ha⟩)
  · rcases OrdMap.of_get?_insert ha with ⟨haowner, hlane⟩ | ⟨-, ha'⟩ <;>
      rcases OrdMap.of_get?_insert hb with ⟨hbowner, hlane'⟩ | ⟨-, hb'⟩
    · rw [haowner, hbowner]
    · exact absurd (hlane ▸ hb') (hunowned b)
    · exact absurd (hlane' ▸ ha') (hunowned a)
    · exact hl.distinct a b other ha' hb'
  rcases OrdMap.of_get?_insert ha with ⟨-, hlane⟩ | ⟨-, ha⟩
  · exact hlane ▸ hlt
  · exact hl.bounded a other ha

theorem release (hl : Valid size l) (owner : Nat) : Valid size (l.release owner) := by
  unfold Lanes.release
  split
  · exact hl
  next lane hlane =>
  refine ⟨fun other => ?_, fun a b other ha hb => ?_, fun a other ha => ?_⟩
  · rw [Finset.mem_erase, hl.occupied other]
    constructor
    · rintro ⟨hne, a, ha⟩
      have haowner : a ≠ owner := by
        rintro rfl
        rw [hlane] at ha
        exact hne (Option.some.inj ha).symm
      exact ⟨a, by rw [OrdMap.get?_erase_of_ne _ haowner, ha]⟩
    rintro ⟨a, ha⟩
    obtain ⟨hne, ha'⟩ := OrdMap.of_get?_erase ha
    refine ⟨?_, a, ha'⟩
    rintro rfl
    exact hne (hl.distinct a owner other ha' hlane)
  · exact hl.distinct a b other (OrdMap.of_get?_erase ha).2 (OrdMap.of_get?_erase hb).2
  · exact hl.bounded a other (OrdMap.of_get?_erase ha).2

/-- The search fails only if every lane is occupied. -/
theorem full_of_allocate_none (hl : Valid size l) {owner : Nat}
    (h : (l.allocate size owner).1 = none) : l.occupied = Finset.range size := by
  unfold Lanes.allocate at h
  split at h
  · cases h
  split at h
  · next hfound => exact hl.search_full (congrArg Prod.fst hfound)
  · cases h

/-- A lane that is lent to a new owner is one more. -/
theorem card_allocate (hsize : 0 < size) {owner lane : Nat} (hfresh : l.held.get? owner = none)
    (h : (l.allocate size owner).1 = some lane) :
    (l.allocate size owner).2.occupied.card = l.occupied.card + 1 := by
  simp only [Lanes.allocate, hfresh] at h ⊢
  split at h
  · cases h
  next hfound =>
  exact Finset.card_insert_of_notMem (search_some hsize (congrArg Prod.fst hfound)).1

/-- Every lane is lent to somebody after enough new owners. -/
theorem exists_held (hl : Valid size l) {lane : Nat} (hlane : lane < size) : ∃ (owners : List Nat) (owner : Nat),
    (owners.foldl (fun l owner => (l.allocate size owner).2) l).held.get? owner = some lane := by
  have hsize : 0 < size := by omega
  -- each new owner takes one of the lanes that are free
  induction hfree : size - l.occupied.card generalizing l with
  | zero =>
    have hsub : l.occupied ⊆ Finset.range size := fun lane hmem => by
      obtain ⟨owner, howner⟩ := (hl.occupied lane).1 hmem
      exact Finset.mem_range.2 (hl.bounded owner lane howner)
    have hfull := Finset.eq_of_subset_of_card_le hsub (by rw [Finset.card_range]; omega)
    exact ⟨[], (hl.occupied lane).1 (hfull ▸ Finset.mem_range.2 hlane)⟩
  | succ free ih =>
    obtain ⟨owner, hfresh⟩ := Infinite.exists_notMem_finset l.held.keys.toFinset
    rw [List.mem_toFinset, OrdMap.not_mem_keys] at hfresh
    cases hallocate : (l.allocate size owner).1 with
    | none =>
      have hcard := congrArg Finset.card (hl.full_of_allocate_none hallocate)
      rw [Finset.card_range] at hcard
      omega
    | some lent =>
      have hcard := card_allocate hsize hfresh hallocate
      obtain ⟨owners, last, hlast⟩ := ih (hl.allocate hsize owner) (by omega)
      exact ⟨owner :: owners, last, hlast⟩

end Valid

theorem allocate_of_held {owner lane : Nat} (h : l.held.get? owner = some lane) :
    l.allocate size owner = (some lane, l) := by
  simp [Lanes.allocate, h]

theorem held_of_allocate {owner lane : Nat} (h : (l.allocate size owner).1 = some lane) :
    (l.allocate size owner).2.held.get? owner = some lane := by
  unfold Lanes.allocate at h ⊢
  split
  · next hheld => simpa only [hheld] using h
  next hnone =>
  simp only [hnone] at h
  split
  · next hfound => simp [hfound] at h
  next hfound =>
  simp only [hfound] at h
  rw [OrdMap.get?_insert_self, h]

theorem allocate_held_of_ne {owner other : Nat} (h : other ≠ owner) :
    (l.allocate size owner).2.held.get? other = l.held.get? other := by
  unfold Lanes.allocate
  split
  · rfl
  split
  · rfl
  · exact OrdMap.get?_insert_of_ne _ _ h

/-- Nobody loses a lane to a new owner. -/
theorem allocate_keeps {owner other lane : Nat} (h : l.held.get? other = some lane) :
    (l.allocate size owner).2.held.get? other = some lane := by
  by_cases heq : other = owner
  · subst heq
    rw [allocate_of_held h]
    exact h
  · rw [allocate_held_of_ne heq, h]

theorem release_held (owner other : Nat) :
    (l.release owner).held.get? other = if other = owner then none else l.held.get? other := by
  unfold Lanes.release
  split
  · next h =>
    split
    · next heq => rw [heq, h]
    · rfl
  · exact OrdMap.get?_erase ..

end Lanes

end NodeNet
