import Mathlib.Algebra.Order.Ring.Nat
import Mathlib.Data.List.Induction
import Mathlib.Data.List.Sort

/-!
# Stable sorting by a key

A stable sort keeps the elements of one key in their order (`filter_sortByKey`), and that determines it: two lists
in the order of their keys are equal as soon as they have the same elements of each key, in the same order
(`eq_of_filter_key`). `distinct` keeps the first occurrence of each element.
-/

namespace NodeNet

open List

variable {α K : Type} [LinearOrder K] {key : α → K}

/-- Sorts a list by a key, keeping elements of equal keys in their order. -/
def sortByKey (key : α → K) (l : List α) : List α := l.insertionSort fun a b => key a ≤ key b

def KeySorted (key : α → K) (l : List α) : Prop := l.Pairwise fun a b => key a ≤ key b

theorem sortByKey_perm (key : α → K) (l : List α) : (sortByKey key l).Perm l := perm_insertionSort _ l

@[simp]
theorem mem_sortByKey {a : α} {l : List α} : a ∈ sortByKey key l ↔ a ∈ l := (sortByKey_perm key l).mem_iff

theorem sortByKey_sorted (key : α → K) (l : List α) : KeySorted key (sortByKey key l) := by
  have htotal : Std.Total fun a b : α => key a ≤ key b := ⟨fun a b => le_total (key a) (key b)⟩
  have htrans : IsTrans α fun a b : α => key a ≤ key b := ⟨fun _ _ _ => le_trans⟩
  exact pairwise_insertionSort _ l

private theorem filter_orderedInsert (a : α) {l : List α} (h : KeySorted key l) (k : K) :
    (l.orderedInsert (fun a b => key a ≤ key b) a).filter (fun b => key b = k) =
      if key a = k then a :: l.filter (fun b => key b = k) else l.filter fun b => key b = k := by
  induction l with
  | nil => by_cases hk : key a = k <;> simp [hk]
  | cons b l ih =>
    have hsorted := pairwise_cons.1 h
    by_cases hab : key a ≤ key b
    · rw [List.orderedInsert, if_pos hab, filter_cons]
      simp
    -- `b` stays in front, so its key is smaller than that of `a`
    rw [List.orderedInsert, if_neg hab, filter_cons, filter_cons, ih hsorted.2]
    by_cases hk : key a = k
    · have hb : key b ≠ k := fun hb => hab (le_of_eq (hk.trans hb.symm))
      simp [hk, hb]
    · simp [hk]

/-- Sorting keeps the elements of one key in their order. -/
theorem filter_sortByKey (key : α → K) (l : List α) (k : K) :
    (sortByKey key l).filter (fun b => key b = k) = l.filter fun b => key b = k := by
  induction l with
  | nil => rfl
  | cons a l ih =>
    have hcons : sortByKey key (a :: l) = (sortByKey key l).orderedInsert (fun a b => key a ≤ key b) a := rfl
    rw [hcons, filter_orderedInsert a (sortByKey_sorted key l), ih, filter_cons]
    simp

private theorem mem_of_filter_key {l l' : List α} {a : α}
    (heq : ∀ k, l.filter (fun b => key b = k) = l'.filter fun b => key b = k) (ha : a ∈ l) : a ∈ l' := by
  have hkey : a ∈ l.filter fun b => key b = key a := by simp [ha]
  rw [heq] at hkey
  exact (mem_filter.1 hkey).1

/-- A sorted list is determined by its elements of each key. -/
theorem eq_of_filter_key {l l' : List α} (h : KeySorted key l) (h' : KeySorted key l')
    (heq : ∀ k, l.filter (fun b => key b = k) = l'.filter fun b => key b = k) : l = l' := by
  induction l generalizing l' with
  | nil =>
    cases l' with
    | nil => rfl
    | cons b l' => cases mem_of_filter_key (fun k => (heq k).symm) (mem_cons_self ..)
  | cons a l ih =>
    cases l' with
    | nil => cases mem_of_filter_key heq (mem_cons_self ..)
    | cons b l' =>
      have hsorted := pairwise_cons.1 h
      have hsorted' := pairwise_cons.1 h'
      have hkey : key a = key b := by
        apply le_antisymm
        · rcases mem_cons.1 (mem_of_filter_key (fun k => (heq k).symm) (mem_cons_self ..)) with rfl | hb
          · exact le_refl _
          · exact hsorted.1 b hb
        rcases mem_cons.1 (mem_of_filter_key heq (mem_cons_self ..)) with rfl | ha
        · exact le_refl _
        · exact hsorted'.1 a ha
      have hhead := heq (key a)
      rw [filter_cons_of_pos (by simp), filter_cons_of_pos (by simp [hkey])] at hhead
      obtain ⟨rfl, -⟩ := List.cons.inj hhead
      rw [ih hsorted.2 hsorted'.2 fun k => ?_]
      have hall := heq k
      by_cases hk : key a = k
      · rw [filter_cons_of_pos (by simp [hk]), filter_cons_of_pos (by simp [hk])] at hall
        exact (List.cons.inj hall).2
      · rwa [filter_cons_of_neg (by simp [hk]), filter_cons_of_neg (by simp [hk])] at hall

/-- Sorting a sorted list together with more elements is sorting all of them. -/
theorem sortByKey_append_right (key : α → K) (l l' : List α) :
    sortByKey key (sortByKey key l ++ l') = sortByKey key (l ++ l') := by
  refine eq_of_filter_key (sortByKey_sorted _ _) (sortByKey_sorted _ _) fun k => ?_
  rw [filter_sortByKey, filter_sortByKey, filter_append, filter_append, filter_sortByKey]

theorem sortByKey_sortByKey (key : α → K) (l : List α) : sortByKey key (sortByKey key l) = sortByKey key l := by
  have h := sortByKey_append_right key l []
  rwa [append_nil, append_nil] at h

/-- Without ties, the order of the elements does not matter. -/
theorem sortByKey_congr {l l' : List α} (hperm : l.Perm l') (hties : ∀ a ∈ l, ∀ b ∈ l, key a = key b → a = b) :
    sortByKey key l = sortByKey key l' := by
  have hsorts := (sortByKey_perm key l).trans (hperm.trans (sortByKey_perm key l').symm)
  refine hsorts.eq_of_pairwise (fun a b ha hb hab hba => ?_) (sortByKey_sorted _ _) (sortByKey_sorted _ _)
  exact hties a (mem_sortByKey.1 ha) b (hperm.mem_iff.2 (mem_sortByKey.1 hb)) (le_antisymm hab hba)

/-! ### First occurrences -/

section Distinct

variable [DecidableEq α]

/-- Adds an element at the end unless it is there. -/
def addDistinct (l : List α) (a : α) : List α := if a ∈ l then l else l ++ [a]

/-- The elements of a list in the order of their first occurrence. -/
def distinct (l : List α) : List α := l.foldl addDistinct []

theorem distinct_append (l : List α) (a : α) : distinct (l ++ [a]) = addDistinct (distinct l) a := by
  rw [distinct, distinct, foldl_append]
  rfl

@[simp]
theorem mem_distinct {a : α} {l : List α} : a ∈ distinct l ↔ a ∈ l := by
  induction l using List.reverseRecOn with
  | nil => simp [distinct]
  | append_singleton l b ih =>
    rw [distinct_append, addDistinct, mem_append, mem_singleton]
    split
    · next hb =>
      rw [ih]
      constructor
      · exact Or.inl
      rintro (ha | rfl)
      · exact ha
      · exact ih.1 hb
    · rw [mem_append, ih, mem_singleton]

theorem distinct_cons_head? (a : α) (l : List α) : (distinct (a :: l)).head? = some a := by
  induction l using List.reverseRecOn with
  | nil => simp [distinct, addDistinct]
  | append_singleton l b ih =>
    rw [← cons_append, distinct_append, addDistinct]
    split
    · exact ih
    · rw [head?_append, ih]
      rfl

theorem distinct_nodup (l : List α) : (distinct l).Nodup := by
  induction l using List.reverseRecOn with
  | nil => exact nodup_nil
  | append_singleton l b ih =>
    rw [distinct_append, addDistinct]
    split
    · exact ih
    next hb => exact nodup_append.2 ⟨ih, nodup_singleton b, fun a ha b' hb' => by
      rw [mem_singleton] at hb'
      exact fun heq => hb (hb' ▸ heq ▸ ha)⟩

theorem distinct_perm {l l' : List α} (h : l.Perm l') : (distinct l).Perm (distinct l') := by
  rw [perm_ext_iff_of_nodup (distinct_nodup l) (distinct_nodup l')]
  intro a
  rw [mem_distinct, mem_distinct, h.mem_iff]

end Distinct

end NodeNet
