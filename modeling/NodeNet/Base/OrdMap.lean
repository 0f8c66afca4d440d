import Mathlib.Algebra.Order.Ring.Nat
import Mathlib.Data.List.Perm.Basic
import Mathlib.Data.List.Pairwise
import Mathlib.Data.List.Count

/-!
# Ordered finite maps

A finite map as a list of entries with strictly increasing keys, so that the entries are enumerated in key order.
A map is determined by its lookups (`OrdMap.ext_get?`).  The number of entries with a given property
(`OrdMap.count`) is followed through `insert` and `erase`, which is how hand-kept counters are compared with the
map they count.
-/

namespace NodeNet

open List

/-- A finite map: entries with strictly increasing keys. -/
structure OrdMap (α β : Type) [LinearOrder α] where
  entries : List (α × β)
  sorted : entries.Pairwise (fun a b => a.1 < b.1)

namespace OrdMap

variable {α β : Type} [LinearOrder α]

/-! ### Operations on entry lists -/

def find (k : α) : List (α × β) → Option β
  | [] => none
  | (k', v) :: rest => if k = k' then some v else find k rest

/-- Replaces the value under `k`, or adds it at its place in the key order. -/
def put (k : α) (v : β) : List (α × β) → List (α × β)
  | [] => [(k, v)]
  | (k', v') :: rest =>
    if k < k' then (k, v) :: (k', v') :: rest
    else if k = k' then (k, v) :: rest
    else (k', v') :: put k v rest

def drop (k : α) : List (α × β) → List (α × β)
  | [] => []
  | (k', v) :: rest => if k = k' then rest else (k', v) :: drop k rest

variable {k : α} {l : List (α × β)} {v : β}

theorem mem_put {e : α × β} (h : e ∈ put k v l) : e = (k, v) ∨ e ∈ l := by
  induction l with
  | nil => simpa [put] using h
  | cons a l ih =>
    obtain ⟨k', v'⟩ := a
    unfold put at h
    split at h
    · simpa using h
    split at h
    · rcases mem_cons.1 h with h | h
      · exact Or.inl h
      · exact Or.inr (mem_cons_of_mem _ h)
    rcases mem_cons.1 h with h | h
    · exact Or.inr (h ▸ mem_cons_self ..)
    · exact (ih h).imp id (mem_cons_of_mem _)

theorem put_sorted (h : l.Pairwise (fun a b => a.1 < b.1)) : (put k v l).Pairwise (fun a b => a.1 < b.1) := by
  induction l with
  | nil => simp [put]
  | cons a l ih =>
    obtain ⟨k', v'⟩ := a
    rw [pairwise_cons] at h
    unfold put
    split
    · next hk =>
      rw [pairwise_cons, pairwise_cons]
      refine ⟨?_, h⟩
      intro b hb
      rcases mem_cons.1 hb with rfl | hb
      · exact hk
      · exact lt_trans hk (h.1 b hb)
    next hk =>
    split
    · next hk' =>
      subst hk'
      exact pairwise_cons.2 h
    next hk' =>
    rw [pairwise_cons]
    refine ⟨?_, ih h.2⟩
    intro b hb
    rcases mem_put hb with rfl | hb
    · exact lt_of_le_of_ne (not_lt.1 hk) (Ne.symm hk')
    · exact h.1 b hb

theorem drop_sublist (k : α) (l : List (α × β)) : (drop k l).Sublist l := by
  induction l with
  | nil => exact List.Sublist.refl _
  | cons a l ih =>
    obtain ⟨k', v'⟩ := a
    unfold drop
    split
    · exact sublist_cons_self _ _
    · exact ih.cons_cons _

theorem find_none_of_lt (h : ∀ e ∈ l, k < e.1) : find k l = none := by
  induction l with
  | nil => rfl
  | cons a l ih =>
    obtain ⟨k', v'⟩ := a
    have hk : k < k' := h _ (mem_cons_self ..)
    simp only [find, ne_of_lt hk, ↓reduceIte]
    exact ih (forall_mem_cons.1 h).2

theorem find_put (k k' : α) (v : β) (l : List (α × β)) :
    find k' (put k v l) = if k' = k then some v else find k' l := by
  induction l with
  | nil => rfl
  | cons a l ih =>
    obtain ⟨c, w⟩ := a
    unfold put
    split
    · rfl
    split
    · next hc =>
      subst hc
      by_cases h : k' = k <;> simp [find, h]
    next hc =>
    simp only [find, ih]
    by_cases h : k' = k
    · subst h; simp [hc]
    · simp [h]

theorem find_drop (h : l.Pairwise (fun a b => a.1 < b.1)) (k k' : α) :
    find k' (drop k l) = if k' = k then none else find k' l := by
  induction l with
  | nil => simp [drop, find]
  | cons a l ih =>
    obtain ⟨c, w⟩ := a
    rw [pairwise_cons] at h
    unfold drop
    split
    · next hc =>
      subst hc
      by_cases hk : k' = k
      · subst hk
        simp only [↓reduceIte]
        exact find_none_of_lt h.1
      · simp [find, hk]
    next hc =>
    simp only [find, ih h.2]
    by_cases hk : k' = k
    · subst hk; simp [hc]
    · simp [hk]

theorem find_filter (h : l.Pairwise (fun a b => a.1 < b.1)) (p : α → β → Bool) (k : α) :
    find k (l.filter fun e => p e.1 e.2) = (find k l).filter (p k) := by
  induction l with
  | nil => rfl
  | cons a l ih =>
    obtain ⟨c, w⟩ := a
    rw [pairwise_cons] at h
    rw [filter_cons]
    by_cases hk : k = c
    · subst hk
      have hnone : find k (l.filter fun e => p e.1 e.2) = none :=
        find_none_of_lt (fun e he => h.1 e (mem_of_mem_filter he))
      by_cases hp : p k w <;> simp [find, hp, hnone, Option.filter]
    · by_cases hp : p c w <;> simp [find, hp, hk, ih h.2]

theorem find_eq_some_iff (h : l.Pairwise (fun a b => a.1 < b.1)) : find k l = some v ↔ (k, v) ∈ l := by
  induction l with
  | nil => simp [find]
  | cons a l ih =>
    obtain ⟨c, w⟩ := a
    rw [pairwise_cons] at h
    by_cases hk : k = c
    · subst hk
      simp only [find, ↓reduceIte, Option.some.injEq, mem_cons, Prod.mk.injEq, true_and]
      constructor
      · intro hw; exact Or.inl hw.symm
      rintro (hw | hm)
      · exact hw.symm
      · exact absurd (h.1 _ hm) (lt_irrefl _)
    · simp [find, hk, ih h.2]

/-! ### Maps -/

instance : EmptyCollection (OrdMap α β) := ⟨⟨[], List.Pairwise.nil⟩⟩

instance : Inhabited (OrdMap α β) := ⟨∅⟩

instance [DecidableEq β] : DecidableEq (OrdMap α β) := fun m m' =>
  decidable_of_iff (m.entries = m'.entries) (by cases m; cases m'; simp)

variable (m : OrdMap α β)

def get? (k : α) : Option β := find k m.entries

def contains (k : α) : Bool := (m.get? k).isSome

def insert (k : α) (v : β) : OrdMap α β := ⟨put k v m.entries, put_sorted m.sorted⟩

def erase (k : α) : OrdMap α β := ⟨drop k m.entries, m.sorted.sublist (drop_sublist k _)⟩

variable (p : α → β → Bool)

def retain : OrdMap α β := ⟨m.entries.filter fun e => p e.1 e.2, m.sorted.sublist filter_sublist⟩

/-- Changes every value, and no key. -/
def mapValues (f : β → β) : OrdMap α β := ⟨m.entries.map fun e => (e.1, f e.2), pairwise_map.2 m.sorted⟩

def keys : List α := m.entries.map Prod.fst

def values : List β := m.entries.map Prod.snd

def size : Nat := m.entries.length

/-- The keys of the entries that satisfy `p`, in key order. -/
def keysWhere : List α := (m.entries.filter fun e => p e.1 e.2).map Prod.fst

def count : Nat := m.entries.countP fun e => p e.1 e.2

@[simp] theorem get?_empty (k : α) : (∅ : OrdMap α β).get? k = none := rfl

@[simp] theorem keys_empty : (∅ : OrdMap α β).keys = [] := rfl

@[simp] theorem size_empty : (∅ : OrdMap α β).size = 0 := rfl

theorem get?_insert (k k' : α) (v : β) : (m.insert k v).get? k' = if k' = k then some v else m.get? k' :=
  find_put k k' v m.entries

@[simp] theorem get?_insert_self (k : α) (v : β) : (m.insert k v).get? k = some v := by
  rw [get?_insert]; simp

variable {k' : α}

theorem get?_insert_of_ne (v : β) (h : k' ≠ k) : (m.insert k v).get? k' = m.get? k' := by
  rw [get?_insert]; simp [h]

theorem get?_erase (k k' : α) : (m.erase k).get? k' = if k' = k then none else m.get? k' := find_drop m.sorted k k'

@[simp] theorem get?_erase_self (k : α) : (m.erase k).get? k = none := by
  rw [get?_erase]; simp

theorem get?_erase_of_ne (h : k' ≠ k) : (m.erase k).get? k' = m.get? k' := by
  rw [get?_erase]; simp [h]

variable {m : OrdMap α β}

theorem of_get?_insert {v' : β} (h : (m.insert k v).get? k' = some v') :
    k' = k ∧ v' = v ∨ k' ≠ k ∧ m.get? k' = some v' := by
  rw [get?_insert] at h
  split at h
  · next hk => exact Or.inl ⟨hk, (Option.some.inj h).symm⟩
  · next hk => exact Or.inr ⟨hk, h⟩

theorem of_get?_erase (h : (m.erase k).get? k' = some v) : k' ≠ k ∧ m.get? k' = some v := by
  rw [get?_erase] at h
  split at h
  · cases h
  · next hk => exact ⟨hk, h⟩

theorem get?_retain (m : OrdMap α β) (p : α → β → Bool) (k : α) : (m.retain p).get? k = (m.get? k).filter (p k) :=
  find_filter m.sorted p k

theorem get?_mapValues (m : OrdMap α β) (f : β → β) (k : α) : (m.mapValues f).get? k = (m.get? k).map f := by
  obtain ⟨l, hl⟩ := m
  simp only [get?, mapValues]
  clear hl
  induction l with
  | nil => rfl
  | cons e l ih =>
    obtain ⟨k', v⟩ := e
    simp only [map_cons, find]
    split
    · rfl
    · exact ih

variable {p : α → β → Bool}

theorem get?_retain_eq_some : (m.retain p).get? k = some v ↔ m.get? k = some v ∧ p k v = true := by
  rw [get?_retain, Option.filter_eq_some_iff]

theorem get?_eq_some_iff : m.get? k = some v ↔ (k, v) ∈ m.entries := find_eq_some_iff m.sorted

theorem contains_iff : m.contains k = true ↔ ∃ v, m.get? k = some v := by
  rw [contains, Option.isSome_iff_exists]

theorem mem_keys : k ∈ m.keys ↔ ∃ v, m.get? k = some v := by
  simp [keys, get?_eq_some_iff]

theorem mem_keys_of_get? (h : m.get? k = some v) : k ∈ m.keys := mem_keys.2 ⟨v, h⟩

theorem not_mem_keys : k ∉ m.keys ↔ m.get? k = none := by
  rw [mem_keys, Option.eq_none_iff_forall_ne_some]
  simp

theorem mem_values : v ∈ m.values ↔ ∃ k, m.get? k = some v := by
  simp [values, get?_eq_some_iff]

theorem mem_keysWhere : k ∈ m.keysWhere p ↔ ∃ v, m.get? k = some v ∧ p k v = true := by
  simp [keysWhere, get?_eq_some_iff]

theorem exists_of_mem_take {n : Nat} (h : k ∈ (m.keysWhere p).take n) : ∃ v, m.get? k = some v :=
  (mem_keysWhere.1 (mem_of_mem_take h)).imp fun _ hv => hv.1

theorem keys_nodup (m : OrdMap α β) : m.keys.Nodup := by
  rw [keys, List.Nodup, pairwise_map]
  exact m.sorted.imp (fun h => ne_of_lt h)

theorem keysWhere_nodup (m : OrdMap α β) (p : α → β → Bool) : (m.keysWhere p).Nodup :=
  m.keys_nodup.sublist (filter_sublist.map _)

private theorem entries_nodup (m : OrdMap α β) : m.entries.Nodup :=
  m.sorted.imp (fun h heq => absurd (heq ▸ h) (lt_irrefl _))

theorem ext_get? {m' : OrdMap α β} (h : ∀ k, m.get? k = m'.get? k) : m = m' := by
  have hperm : m.entries.Perm m'.entries := by
    rw [perm_ext_iff_of_nodup m.entries_nodup m'.entries_nodup]
    rintro ⟨k, v⟩
    rw [← get?_eq_some_iff, ← get?_eq_some_iff, h]
  have heq : m.entries = m'.entries :=
    hperm.eq_of_pairwise (fun a b _ _ hab hba => absurd hab (not_lt.2 (le_of_lt hba))) m.sorted m'.sorted
  cases m; cases m'; simp_all

/-! ### Keys, sizes and counts after an update -/

@[simp] theorem insert_erase (m : OrdMap α β) (k : α) (v : β) : (m.erase k).insert k v = m.insert k v := by
  apply ext_get?
  intro k'
  rw [get?_insert, get?_insert, get?_erase]
  split <;> rfl

private theorem drop_perm (h : find k l = some v) : ((k, v) :: drop k l).Perm l := by
  induction l with
  | nil => simp [find] at h
  | cons a l ih =>
    obtain ⟨c, w⟩ := a
    by_cases hk : k = c
    · subst hk
      simp only [find, ↓reduceIte, Option.some.injEq] at h
      subst h
      simp [drop]
    simp only [find, hk, ↓reduceIte] at h
    simp only [drop, hk, ↓reduceIte]
    exact (List.Perm.swap _ _ _).trans ((ih h).cons _)

theorem entries_erase_perm (h : m.get? k = some v) : ((k, v) :: (m.erase k).entries).Perm m.entries := drop_perm h

private theorem put_perm (h : find k l = none) : (put k v l).Perm ((k, v) :: l) := by
  induction l with
  | nil => exact List.Perm.refl _
  | cons a l ih =>
    obtain ⟨c, w⟩ := a
    by_cases hk : k = c
    · subst hk; simp [find] at h
    simp only [find, hk, ↓reduceIte] at h
    simp only [put, hk, ↓reduceIte]
    split
    · exact List.Perm.refl _
    · exact ((ih h).cons _).trans (List.Perm.swap _ _ _)

theorem entries_insert_perm (v : β) (h : m.get? k = none) : (m.insert k v).entries.Perm ((k, v) :: m.entries) :=
  put_perm h

theorem keys_erase_perm (h : m.get? k = some v) : (k :: (m.erase k).keys).Perm m.keys :=
  (entries_erase_perm h).map Prod.fst

theorem keys_insert_perm (v : β) (h : m.get? k = none) : (m.insert k v).keys.Perm (k :: m.keys) :=
  (entries_insert_perm v h).map Prod.fst

variable {w : β}

theorem keys_insert_of_get? (h : m.get? k = some v) : (m.insert k w).keys.Perm m.keys := by
  rw [← insert_erase]
  exact (keys_insert_perm w (get?_erase_self m k)).trans (keys_erase_perm h)

theorem count_keys_erase (h : m.get? k = some v) (i : α) :
    m.keys.count i = (m.erase k).keys.count i + if i = k then 1 else 0 := by
  rw [← (keys_erase_perm h).count_eq, count_cons]
  simp only [beq_iff_eq, eq_comm (a := k)]

theorem count_keys_insert (v : β) (h : m.get? k = none) (i : α) :
    (m.insert k v).keys.count i = m.keys.count i + if i = k then 1 else 0 := by
  rw [(keys_insert_perm v h).count_eq, count_cons]
  simp only [beq_iff_eq, eq_comm (a := k)]

theorem count_keys_insert_of_get? (h : m.get? k = some v) (i : α) :
    (m.insert k w).keys.count i = m.keys.count i := (keys_insert_of_get? h).count_eq i

theorem count_keys_pos (h : m.get? k = some v) : 0 < m.keys.count k := List.count_pos_iff.2 (mem_keys_of_get? h)

theorem keys_length (m : OrdMap α β) : m.keys.length = m.size := length_map ..

theorem size_erase (h : m.get? k = some v) : (m.erase k).size + 1 = m.size := (entries_erase_perm h).length_eq

theorem size_insert (v : β) (h : m.get? k = none) :
    (m.insert k v).size = m.size + 1 := (entries_insert_perm v h).length_eq

theorem size_insert_of_get? (h : m.get? k = some v) : (m.insert k w).size = m.size := by
  rw [← keys_length, ← keys_length]
  exact (keys_insert_of_get? h).length_eq

theorem get?_of_size_eq_zero (h : m.size = 0) (k : α) : m.get? k = none := by
  rw [get?, length_eq_zero_iff.1 h]
  rfl

theorem get?_ne_some (h : m.size = 0) : m.get? k ≠ some v := by
  rw [get?_of_size_eq_zero h]
  exact fun hnone => by cases hnone

theorem size_eq_zero_of_get? (h : ∀ k, m.get? k = none) : m.size = 0 := by
  have he : m = ∅ := ext_get? h
  rw [he, size_empty]

theorem keys_of_size_eq_zero (h : m.size = 0) : m.keys = [] := by
  rw [keys, length_eq_zero_iff.1 h]
  rfl

theorem size_retain_le (m : OrdMap α β) (p : α → β → Bool) : (m.retain p).size ≤ m.size := length_filter_le _ _

theorem count_erase (h : m.get? k = some v) (p : α → β → Bool) :
    m.count p = (m.erase k).count p + if p k v then 1 else 0 := by
  rw [count, ← (entries_erase_perm h).countP_eq, countP_cons]
  rfl

theorem count_insert (v : β) (h : m.get? k = none) (p : α → β → Bool) :
    (m.insert k v).count p = m.count p + if p k v then 1 else 0 := by
  rw [count, (entries_insert_perm v h).countP_eq, countP_cons]
  rfl

theorem count_insert_of_get? (h : m.get? k = some v) (p : α → β → Bool) (hp : p k w = p k v) :
    (m.insert k w).count p = m.count p := by
  rw [← insert_erase, count_insert w (get?_erase_self m k), count_erase h p, hp]

theorem count_congr {q : α → β → Bool} (h : ∀ k v, m.get? k = some v → p k v = q k v) : m.count p = m.count q := by
  apply countP_congr
  rintro ⟨k, v⟩ hm
  rw [h k v (get?_eq_some_iff.2 hm)]

theorem count_retain (m : OrdMap α β) (p q : α → β → Bool) :
    (m.retain q).count p = m.count fun k v => p k v && q k v :=
  countP_filter

theorem keysWhere_length (m : OrdMap α β) (p : α → β → Bool) : (m.keysWhere p).length = m.count p := by
  rw [keysWhere, length_map, count, countP_eq_length_filter]

theorem count_pos_iff : 0 < m.count p ↔ ∃ k v, m.get? k = some v ∧ p k v = true := by
  simp [count, countP_pos_iff, get?_eq_some_iff]

end OrdMap

end NodeNet
