import Mathlib.Algebra.Order.Ring.Nat
import Mathlib.Algebra.Order.BigOperators.Group.List

/-!
# Replaying changes

A `Change` drops the records of a list that satisfy a predicate and may add one at its end.  When every change
drops the record it adds, a sequence of changes can be replayed over a list in which some of them were already
made: the records they added are dropped again before they are added anew (`changed_replay`).  No relation between
the predicates of different changes is needed.
-/

namespace NodeNet

open List

structure Change (α : Type) where
  drops : α → Bool
  adds : Option α

variable {α : Type}

def Change.apply (c : Change α) (l : List α) : List α := l.filter (fun x => !c.drops x) ++ c.adds.toList

/-- A change that drops what it adds. -/
def Change.Renews (c : Change α) : Prop := ∀ x, c.adds = some x → c.drops x = true

variable (cs : List (Change α))

def changed (l : List α) : List α := cs.foldl (fun l c => c.apply l) l

def spared (x : α) : Bool := cs.all fun c => !c.drops x

@[simp] theorem changed_nil (l : List α) : changed [] l = l := rfl

@[simp] theorem changed_cons (c : Change α) (cs : List (Change α)) (l : List α) :
    changed (c :: cs) l = changed cs (c.apply l) := rfl

theorem changed_append (cs ds : List (Change α)) (l : List α) : changed (cs ++ ds) l = changed ds (changed cs l) :=
  foldl_append ..

/-- What is left of the list comes first, and what the changes add does not depend on it. -/
theorem changed_eq (l : List α) : changed cs l = l.filter (spared cs) ++ changed cs [] := by
  induction cs generalizing l with
  | nil =>
    have hall : l.filter (spared []) = l := filter_eq_self.2 fun _ _ => rfl
    rw [hall, changed_nil, changed_nil, append_nil]
  | cons c cs ih =>
    have hspared : (fun x => spared cs x && !c.drops x) = spared (c :: cs) := by
      funext x
      rw [spared, spared, all_cons, Bool.and_comm]
    rw [changed_cons, ih, changed_cons, ih (c.apply [])]
    simp [Change.apply, hspared]

/-- Only what some change adds is added. -/
theorem changed_nil_sublist : (changed cs []).Sublist (cs.filterMap Change.adds) := by
  induction cs with
  | nil => exact List.Sublist.refl _
  | cons c cs ih =>
    have hsplit : (c :: cs).filterMap Change.adds = c.adds.toList ++ cs.filterMap Change.adds := by
      cases hc : c.adds with
      | none => rw [filterMap_cons_none hc]; rfl
      | some x => rw [filterMap_cons_some hc]; rfl
    rw [changed_cons, changed_eq, hsplit]
    exact List.Sublist.append (by simp [Change.apply, filter_sublist]) ih

/-- What the changes add does not survive them once more. -/
theorem filter_spared_changed_nil {cs ds : List (Change α)} (hrenews : ∀ c ∈ cs, c.Renews) (hsubset : cs ⊆ ds) :
    (changed cs []).filter (spared ds) = [] := by
  rw [filter_eq_nil_iff]
  intro x hx
  obtain ⟨c, hc, hadds⟩ := mem_filterMap.1 ((changed_nil_sublist cs).subset hx)
  have hdrops := hrenews c hc x hadds
  rw [spared, all_eq_true]
  intro hall
  have hspares := hall c (hsubset hc)
  rw [hdrops] at hspares
  cases hspares

/-- Changes of which the first ones were already made lead to the same list. -/
theorem changed_replay {before : List (Change α)} (rest : List (Change α)) (hrenews : ∀ c ∈ before, c.Renews)
    (l : List α) : changed (before ++ rest) (changed before l) = changed (before ++ rest) l := by
  have hsubset : before ⊆ before ++ rest := subset_append_left ..
  have hspared : (fun x => spared (before ++ rest) x && spared before x) = spared (before ++ rest) := by
    funext x
    rw [spared, spared, all_append, Bool.and_right_comm, Bool.and_self]
  rw [changed_eq (before ++ rest) (changed before l), changed_eq (before ++ rest) l, changed_eq before l,
    filter_append, filter_spared_changed_nil hrenews hsubset, append_nil, filter_filter, hspared]

/-- While changes are replayed there is never more in the list than at first and all that they add. -/
theorem sum_changed_replay_le (f : α → Nat) {before rest : List (Change α)} (hrenews : ∀ c ∈ before, c.Renews)
    (l : List α) :
    ((changed before (changed (before ++ rest) l)).map f).sum ≤
      (l.map f).sum + (((before ++ rest).filterMap Change.adds).map f).sum := by
  have hle : ∀ {l l' : List α}, l.Sublist l' → (l.map f).sum ≤ (l'.map f).sum := fun h =>
    (h.map f).sum_le_sum fun _ _ => Nat.zero_le _
  -- of what the replayed changes start from, only records of `l` and of the later changes stay
  have hfirst : (((changed before l).filter (spared rest)).filter (spared before)).Sublist l := by
    rw [changed_eq before l, filter_filter, filter_congr (fun x _ => Bool.and_comm ..), ← filter_filter,
      filter_append, filter_spared_changed_nil hrenews (List.Subset.refl _), append_nil]
    exact (filter_sublist.trans filter_sublist).trans filter_sublist
  have hlater := hle ((filter_sublist (p := spared before)).trans (changed_nil_sublist rest))
  have hagain := hle (changed_nil_sublist before)
  have hkept := hle hfirst
  rw [changed_append, changed_eq rest, changed_eq before, filter_append, filterMap_append]
  simp only [map_append, sum_append]
  omega

end NodeNet
