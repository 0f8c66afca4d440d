import Mathlib.Algebra.Order.Ring.Nat
import Mathlib.Data.List.Nodup

/-!
# Consecutive blocks

Blocks that lie one behind the other, each with its recorded end, and the search for the block that holds a number.
`locate` takes the block at the partition point of the ends and the place of the number in it; over consecutive
blocks without repetition it is a bijection between the numbers and the pairs of a block and a place in it.
-/

namespace NodeNet

variable {α β : Type}

def partitionPoint (p : α → Bool) (l : List α) : Nat := (l.takeWhile p).length

theorem partitionPoint_map (p : β → Bool) (f : α → β) (l : List α) :
    partitionPoint p (l.map f) = partitionPoint (fun a => p (f a)) l := by
  unfold partitionPoint
  rw [List.takeWhile_map, List.length_map]
  rfl

/-- The blocks of `l` lie one behind the other from `n` to `total`: each ends its size behind the one before it. -/
def Consecutive (size stop : α → Nat) : Nat → List α → Nat → Prop
  | n, [], total => total = n
  | n, a :: l, total => stop a = n + size a ∧ Consecutive size stop (stop a) l total

/-- The block that holds `i` and the place of `i` in it, the first block starting at `n`. -/
def locate (stop : α → Nat) (l : List α) (n i : Nat) : Option (α × Nat) :=
  let position := partitionPoint (fun a => decide (stop a ≤ i)) l
  l[position]?.map fun a => (a, i - if position = 0 then n else (l[position - 1]?.map stop).getD 0)

private theorem partitionPoint_cons {stop : α → Nat} {a : α} {l : List α} {i : Nat} (h : stop a ≤ i) :
    partitionPoint (fun a => decide (stop a ≤ i)) (a :: l) = partitionPoint
    (fun a => decide (stop a ≤ i)) l + 1 := by
  simp [partitionPoint, h]

theorem locate_cons (stop : α → Nat) (a : α) (l : List α) (n i : Nat) :
    locate stop (a :: l) n i = if stop a ≤ i then locate stop l (stop a) i else some (a, i - n) := by
  by_cases h : stop a ≤ i
  · rw [if_pos h, locate, locate, partitionPoint_cons h]
    cases partitionPoint (fun a => decide (stop a ≤ i)) l with
    | zero => simp
    | succ k => simp
  · simp [locate, partitionPoint, h]

/-- The block before the one that is found ends at or below the number. -/
theorem previous_le (stop : α → Nat) (l : List α) (i : Nat) :
    (if partitionPoint (fun a => decide (stop a ≤ i)) l = 0 then 0
      else (l[partitionPoint (fun a => decide (stop a ≤ i)) l - 1]?.map stop).getD 0) ≤ i := by
  induction l with
  | nil => simp [partitionPoint]
  | cons a l ih =>
    by_cases h : stop a ≤ i
    · rw [partitionPoint_cons h]
      generalize partitionPoint (fun a => decide (stop a ≤ i)) l = position at ih
      cases position with
      | zero => simpa using h
      | succ k => simpa using ih
    · simp [partitionPoint, h]

namespace Consecutive

variable {size stop : α → Nat} {l : List α} {n total : Nat} (h : Consecutive size stop n l total)

include h

theorem append {a : α} (ha : stop a = total + size a) : Consecutive size stop n (l ++ [a]) (stop a) := by
  induction l generalizing n with
  | nil =>
    cases h
    exact ⟨ha, rfl⟩
  | cons b l ih => exact ⟨h.1, ih h.2⟩

theorem le : n ≤ total := by
  induction l generalizing n with
  | nil => cases h; exact Nat.le_refl _
  | cons a l ih =>
    have hstop := h.1
    have hrest := ih h.2
    omega

/-- What `locate` finds is a block and a place in it. -/
theorem of_locate {i place : Nat} {a : α} (hn : n ≤ i)
    (hi : locate stop l n i = some (a, place)) : a ∈ l ∧ place < size a ∧ i < total := by
  induction l generalizing n with
  | nil => cases hi
  | cons b l ih =>
    rw [locate_cons] at hi
    split at hi
    · next hle =>
      obtain ⟨hmem, hplace, hlt⟩ := ih h.2 hle hi
      exact ⟨List.mem_cons_of_mem _ hmem, hplace, hlt⟩
    next hlt =>
    have hstop := h.1
    have hrest := h.2.le
    cases hi
    exact ⟨List.mem_cons_self .., by omega, by omega⟩

theorem locate_isSome {i : Nat} (hn : n ≤ i) : (locate stop l n i).isSome = true ↔ i < total := by
  induction l generalizing n with
  | nil =>
    cases h
    simp [locate, hn]
  | cons a l ih =>
    rw [locate_cons]
    split
    · next hle => exact ih h.2 hle
    have hrest := h.2.le
    simp only [Option.isSome_some, true_iff]
    omega

/-- Every place of every block is found. -/
theorem exists_locate {a : α} (ha : a ∈ l) {place : Nat}
    (hplace : place < size a) : ∃ i, n ≤ i ∧ i < total ∧ locate stop l n i = some (a, place) := by
  induction l generalizing n with
  | nil => cases ha
  | cons b l ih =>
    have hstop := h.1
    have hrest := h.2.le
    rcases List.mem_cons.1 ha with rfl | ha
    · refine ⟨n + place, by omega, by omega, ?_⟩
      rw [locate_cons, if_neg (by omega), Nat.add_sub_cancel_left]
    · obtain ⟨i, hle, hlt, hi⟩ := ih h.2 ha
      exact ⟨i, by omega, hlt, by rw [locate_cons, if_pos hle, hi]⟩

theorem locate_inj (hl : l.Nodup) {i j : Nat} {x : α × Nat} (hi : n ≤ i)
    (hj : n ≤ j) (hix : locate stop l n i = some x) (hjx : locate stop l n j = some x) : i = j := by
  induction l generalizing n with
  | nil => cases hix
  | cons a l ih =>
    obtain ⟨hnotin, hl⟩ := List.nodup_cons.1 hl
    -- a number behind the first block is found in another block
    have hother : ∀ {k place}, stop a ≤ k → locate stop l (stop a) k ≠ some (a, place) :=
      fun hk hfound => hnotin (h.2.of_locate hk hfound).1
    rw [locate_cons] at hix hjx
    split at hix
    · next hle =>
      split at hjx
      · next hle' => exact ih h.2 hl hle hle' hix hjx
      · cases hjx
        exact absurd hix (hother hle)
    split at hjx
    · next hle' =>
      cases hix
      exact absurd hjx (hother hle')
    cases hix
    rw [Option.some.injEq, Prod.mk.injEq] at hjx
    omega

end Consecutive

end NodeNet
