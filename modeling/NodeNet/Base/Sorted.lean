import Mathlib.Algebra.Order.Ring.Nat
import Mathlib.Data.List.Destutter
import Mathlib.Data.List.Sort
import Mathlib.Data.Prod.Lex

/-!
# Sorted lists without repetitions

Sorting a list and dropping the elements that equal their neighbour leaves the list of its members in increasing
order (`sortDedup`): the result depends on the members only, not on their order or multiplicity.  `OrdSet` is a
finite set kept as such a list; it is determined by its members (`OrdSet.ext_mem`).
-/

namespace NodeNet

open List

variable {α : Type} [LinearOrder α]

instance instLinearOrderUInt8 : LinearOrder UInt8 := LinearOrder.lift' UInt8.toNat fun _ _ h => UInt8.toNat_inj.1 h

/-- Sorts a list and keeps one of each run of equal elements. -/
def sortDedup (l : List α) : List α := (l.insertionSort (· ≤ ·)).destutter (· ≠ ·)

variable {l : List α}

private theorem destutter_pairwise_lt (h : l.Pairwise (· ≤ ·)) : (l.destutter (· ≠ ·)).Pairwise (· < ·) := by
  have hle : (l.destutter (· ≠ ·)).Pairwise (· ≤ ·) := h.sublist (l.destutter_sublist _)
  have hlt : (l.destutter (· ≠ ·)).IsChain (· < ·) := by
    rw [isChain_iff_getElem]
    intro i hi
    have hne := isChain_iff_getElem.1 (l.isChain_destutter (· ≠ ·)) i hi
    exact lt_of_le_of_ne (isChain_iff_getElem.1 hle.isChain i hi) hne
  exact isChain_iff_pairwise.1 hlt

private theorem mem_destutter'_ne {a b : α} (l : List α) : b ∈ l.destutter' (· ≠ ·) a ↔ b = a ∨ b ∈ l := by
  induction l generalizing a with
  | nil => simp
  | cons c l ih =>
    by_cases hac : a ≠ c
    · rw [destutter'_cons_pos _ hac, mem_cons, ih, mem_cons]
    have hac : a = c := not_not.1 hac
    subst hac
    rw [destutter'_cons_neg _ (by simp), ih, mem_cons]
    tauto

theorem sortDedup_sorted (l : List α) : (sortDedup l).Pairwise (· < ·) :=
  destutter_pairwise_lt (l.pairwise_insertionSort (· ≤ ·))

@[simp]
theorem mem_sortDedup {a : α} : a ∈ sortDedup l ↔ a ∈ l := by
  have hmem : ∀ l' : List α, a ∈ l'.destutter (· ≠ ·) ↔ a ∈ l' := by
    intro l'
    cases l' with
    | nil => simp
    | cons b l' => rw [destutter_cons', mem_destutter'_ne, mem_cons]
  rw [sortDedup, hmem, mem_insertionSort]

theorem length_sortDedup_le (l : List α) : (sortDedup l).length ≤ l.length := by
  have hle := (destutter_sublist (· ≠ ·) (l.insertionSort (· ≤ ·))).length_le
  rwa [length_insertionSort] at hle

theorem sortDedup_congr {l' : List α} (hmem : ∀ a, a ∈ l ↔ a ∈ l') : sortDedup l = sortDedup l' :=
  (sortDedup_sorted l).eq_of_mem_iff (sortDedup_sorted l') fun a => by
    rw [mem_sortDedup, mem_sortDedup, hmem]

/-- An optional value for comparison: an absent one comes first. -/
def optionKey {α : Type} [Inhabited α] (value : Option α) : Bool ×ₗ α := toLex (value.isSome, value.getD default)

theorem optionKey_injective {α : Type} [Inhabited α] : Function.Injective (optionKey : Option α → Bool ×ₗ α) :=
  fun a b h => by cases a <;> cases b <;> simp_all [optionKey]

/-! ### Finite sets in order -/

/-- A finite set: its elements in strictly increasing order. -/
structure OrdSet (α : Type) [LinearOrder α] where
  elements : List α
  sorted : elements.Pairwise (· < ·)
deriving DecidableEq

namespace OrdSet

instance : Membership α (OrdSet α) := ⟨fun s a => a ∈ s.elements⟩

variable {a : α} {s : OrdSet α}

theorem mem_def : a ∈ s ↔ a ∈ s.elements := Iff.rfl

instance (a : α) (s : OrdSet α) : Decidable (a ∈ s) := inferInstanceAs (Decidable (a ∈ s.elements))

theorem ext_mem {t : OrdSet α} (h : ∀ a, a ∈ s ↔ a ∈ t) : s = t := by
  obtain ⟨l, hl⟩ := s
  obtain ⟨l', hl'⟩ := t
  obtain rfl : l = l' := hl.eq_of_mem_iff hl' h
  rfl

def empty : OrdSet α := ⟨[], List.Pairwise.nil⟩

instance : Inhabited (OrdSet α) := ⟨empty⟩

@[simp]
theorem not_mem_empty (a : α) : a ∉ (empty : OrdSet α) := not_mem_nil

def put (a : α) (l : List α) : List α :=
  if a ∈ l then l else l.orderedInsert (· ≤ ·) a

theorem put_sorted {l : List α} (h : l.Pairwise (· < ·)) : (put a l).Pairwise (· < ·) := by
  unfold put
  split
  · exact h
  next hnew =>
  have hle : (l.orderedInsert (· ≤ ·) a).Pairwise (· ≤ ·) := List.Pairwise.orderedInsert a l (h.imp le_of_lt)
  have hnodup : (l.orderedInsert (· ≤ ·) a).Nodup :=
    (perm_orderedInsert _ a l).nodup_iff.2 (nodup_cons.2 ⟨hnew, h.imp ne_of_lt⟩)
  exact (hle.and hnodup).imp fun hab => lt_of_le_of_ne hab.1 hab.2

def insert (s : OrdSet α) (a : α) : OrdSet α := ⟨put a s.elements, put_sorted s.sorted⟩

@[simp]
theorem mem_insert {b : α} : b ∈ s.insert a ↔ b = a ∨ b ∈ s := by
  simp only [mem_def, insert, put]
  split
  · next h =>
    constructor
    · exact Or.inr
    rintro (rfl | hb)
    · exact h
    · exact hb
  · rw [mem_orderedInsert]

theorem mem_foldl_insert {l : List α} : a ∈ l.foldl insert s ↔ a ∈ s ∨ a ∈ l := by
  induction l generalizing s with
  | nil => simp
  | cons b l ih =>
    rw [foldl_cons, ih, mem_insert, mem_cons]
    tauto

theorem insert_perm (h : a ∉ s) : (s.insert a).elements.Perm (a :: s.elements) := by
  have hput : (s.insert a).elements = s.elements.orderedInsert (· ≤ ·) a := if_neg h
  rw [hput]
  exact perm_orderedInsert _ a s.elements

end OrdSet

end NodeNet
