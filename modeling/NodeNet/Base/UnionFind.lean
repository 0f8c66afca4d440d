import Mathlib.Logic.Relation
import NodeNet.Base.OrdMap

/-!
# Union-find with the least element as root

Links from keys to smaller keys, kept in a map.  `find` follows the links to a root and shortens the path it took;
`union` links the larger of two roots to the smaller.  The recursion of `find` is bounded by a fuel: `none` means
that it ran out.

`Forest S parents rep` says that the links inside the finite set `S` lead every key to `rep key`, the least element
of its class.  `find` computes `rep` and keeps it, and `union` merges two of its classes, given more fuel than
there are elements in `S`: the links strictly decrease.  After any number of unions the classes are the connected
components of the pairs that were united (`linkAll_spec`).
-/

namespace NodeNet.UnionFind

variable {K : Type} [LinearOrder K]

/-- The root of a value, and the links with the path to it shortened. -/
def find : Nat → K → OrdMap K K → Option (K × OrdMap K K)
  | 0, _, _ => none
  | fuel + 1, value, parents =>
    match parents.get? value with
    | none => some (value, parents.insert value value)
    | some parent =>
      if parent = value then some (parent, parents)
      else (find fuel parent parents).map fun found => (found.1, found.2.insert value found.1)

/-- Links the larger of the roots of two values to the smaller. -/
def union (fuel : Nat) (left right : K) (parents : OrdMap K K) : Option (OrdMap K K) :=
  (find fuel left parents).bind fun (leftRoot, parents) =>
    (find fuel right parents).map fun (rightRoot, parents) =>
      if leftRoot = rightRoot then parents
      else if leftRoot < rightRoot then parents.insert rightRoot leftRoot
      else parents.insert leftRoot rightRoot

def linkAll (fuel : Nat) (pairs : List (K × K)) (parents : OrdMap K K) : Option (OrdMap K K) :=
  pairs.foldlM (fun parents pair => union fuel pair.1 pair.2 parents) parents

/-- The links lead each key to its representative. -/
structure Forest (S : List K) (parents : OrdMap K K) (rep : K → K) : Prop where
  le : ∀ k, rep k ≤ k
  idem : ∀ k, rep (rep k) = rep k
  mem : ∀ k ∈ S, rep k ∈ S
  inside : ∀ k p, parents.get? k = some p → k ∈ S ∧ p ∈ S
  link : ∀ k p, parents.get? k = some p → p ≤ k ∧ rep p = rep k
  root : ∀ k, parents.get? k = some k → rep k = k
  free : ∀ k, parents.get? k = none → rep k = k

/-- The representatives after the classes of two values are united. -/
def merge (rep : K → K) (left right : K) (k : K) : K :=
  if rep k = rep left ∨ rep k = rep right then min (rep left) (rep right) else rep k

variable {S : List K} {parents : OrdMap K K} {rep : K → K}

theorem forest_empty (S : List K) : Forest S ∅ id where
  le _ := le_refl _
  idem _ := rfl
  mem _ h := h
  inside _ _ h := by cases h
  link _ _ h := by cases h
  root _ _ := rfl
  free _ _ := rfl

/-- A link to the representative may be added anywhere. -/
theorem Forest.insert_rep (h : Forest S parents rep) {k : K} (hk : k ∈ S) :
    Forest S (parents.insert k (rep k)) rep where
  le := h.le
  idem := h.idem
  mem := h.mem
  inside k' p hget := by
    rcases OrdMap.of_get?_insert hget with ⟨rfl, rfl⟩ | ⟨-, hget⟩
    · exact ⟨hk, h.mem _ hk⟩
    · exact h.inside k' p hget
  link k' p hget := by
    rcases OrdMap.of_get?_insert hget with ⟨rfl, rfl⟩ | ⟨-, hget⟩
    · exact ⟨h.le _, h.idem _⟩
    · exact h.link k' p hget
  root k' hget := by
    rcases OrdMap.of_get?_insert hget with ⟨rfl, hself⟩ | ⟨-, hget⟩
    · exact hself.symm
    · exact h.root k' hget
  free k' hget := by
    by_cases hne : k' = k
    · rw [hne, OrdMap.get?_insert_self] at hget
      cases hget
    · rw [OrdMap.get?_insert_of_ne _ _ hne] at hget
      exact h.free k' hget

private theorem countP_lt_of_lt {a b : K} (ha : a ∈ S) (hab : a < b) : S.countP (· < a) < S.countP (· < b) := by
  obtain ⟨before, after, rfl⟩ := List.append_of_mem ha
  have hmono : ∀ l : List K, l.countP (· < a) ≤ l.countP (· < b) := fun l =>
    List.countP_mono_left fun x _ hx => by simpa using lt_trans (by simpa using hx) hab
  have hbefore := hmono before
  have hafter := hmono after
  simp only [List.countP_append, List.countP_cons, lt_irrefl, decide_false, hab, decide_true, if_true,
    Bool.false_eq_true, if_false]
  omega

variable {fuel : Nat}

/-- `find` ends with the representative, and keeps all representatives.  Each call is made for a smaller element of
the set, so more fuel than there are such elements is enough. -/
theorem find_spec (h : Forest S parents rep) {value : K} (hvalue : value ∈ S)
    (hfuel : S.countP (· < value) < fuel) :
    ∃ parents', find fuel value parents = some (rep value, parents') ∧ Forest S parents' rep := by
  induction fuel generalizing value with
  | zero => omega
  | succ fuel ih =>
    unfold find
    cases hget : parents.get? value with
    | none =>
      have hroot : rep value = value := h.free value hget
      refine ⟨parents.insert value value, by rw [hroot], ?_⟩
      have hforest := h.insert_rep hvalue
      rwa [hroot] at hforest
    | some parent =>
      simp only
      by_cases hself : parent = value
      · subst hself
        exact ⟨parents, by rw [if_pos rfl, h.root parent hget], h⟩
      obtain ⟨hle, hrep⟩ := h.link value parent hget
      have hparent : parent ∈ S := (h.inside value parent hget).2
      have hfewer := countP_lt_of_lt hparent (lt_of_le_of_ne hle hself)
      obtain ⟨parents', hfind, hforest⟩ := ih hparent (by omega)
      refine ⟨parents'.insert value (rep parent), ?_, ?_⟩
      · rw [if_neg hself, hfind, hrep]
        rfl
      · rw [hrep]
        exact hforest.insert_rep hvalue

/-! ### Union -/

theorem merge_left (rep : K → K) (left right : K) : merge rep left right left = min (rep left) (rep right) :=
  if_pos (Or.inl rfl)

theorem merge_right (rep : K → K) (left right : K) : merge rep left right right = min (rep left) (rep right) :=
  if_pos (Or.inr rfl)

theorem merge_comm (rep : K → K) (left right : K) : merge rep left right = merge rep right left := by
  funext k
  simp only [merge, or_comm, min_comm]

variable {left right : K}

theorem merge_of_eq (heq : rep left = rep right) : merge rep left right = rep := by
  funext k
  unfold merge
  split
  · next hk => rcases hk with hk | hk <;> rw [hk, heq, min_self]
  · rfl

private theorem merge_root {k : K} (hlt : rep left < rep right) (hroot : rep k = k) (hchild : k ≠ rep right) :
    merge rep left right k = k := by
  unfold merge
  split
  · next hk =>
    rcases hk with hk | hk
    · rw [min_eq_left hlt.le, ← hk, hroot]
    · exact absurd (hroot.symm.trans hk) hchild
  · exact hroot

/-- Linking the larger root to the smaller merges the two classes. -/
theorem Forest.insert_root (h : Forest S parents rep) (hleft : left ∈ S) (hright : right ∈ S)
    (hlt : rep left < rep right) : Forest S (parents.insert (rep right) (rep left)) (merge rep left right) where
  le k := by
    unfold merge
    split
    · next hk =>
      rcases hk with hk | hk
      · exact (min_le_left _ _).trans (hk ▸ h.le k)
      · exact (min_le_right _ _).trans (hk ▸ h.le k)
    · exact h.le k
  idem k := by
    have hsmall : merge rep left right (rep left) = rep left := merge_root hlt (h.idem left) (ne_of_lt hlt)
    by_cases hk : rep k = rep left ∨ rep k = rep right
    · have hmin : merge rep left right k = rep left := by rw [merge, if_pos hk, min_eq_left hlt.le]
      rw [hmin, hsmall]
    · have hsame : merge rep left right k = rep k := if_neg hk
      rw [hsame, merge, h.idem, if_neg hk]
  mem k hk := by
    unfold merge
    split
    · rw [min_eq_left hlt.le]
      exact h.mem left hleft
    · exact h.mem k hk
  inside k p hget := by
    rcases OrdMap.of_get?_insert hget with ⟨rfl, rfl⟩ | ⟨-, hget⟩
    · exact ⟨h.mem right hright, h.mem left hleft⟩
    · exact h.inside k p hget
  link k p hget := by
    rcases OrdMap.of_get?_insert hget with ⟨rfl, rfl⟩ | ⟨-, hget⟩
    · refine ⟨hlt.le, ?_⟩
      rw [merge, merge, h.idem, h.idem, if_pos (Or.inl rfl), if_pos (Or.inr rfl)]
    · obtain ⟨hle, hrep⟩ := h.link k p hget
      exact ⟨hle, by rw [merge, merge, hrep]⟩
  root k hget := by
    rcases OrdMap.of_get?_insert hget with ⟨rfl, hself⟩ | ⟨hne, hget⟩
    · exact absurd hself (ne_of_gt hlt)
    · exact merge_root hlt (h.root k hget) hne
  free k hget := by
    by_cases hne : k = rep right
    · rw [hne, OrdMap.get?_insert_self] at hget
      cases hget
    · rw [OrdMap.get?_insert_of_ne _ _ hne] at hget
      exact merge_root hlt (h.free k hget) hne

theorem union_spec (h : Forest S parents rep) (hleft : left ∈ S) (hright : right ∈ S) (hfuel : S.length < fuel) :
    ∃ parents', union fuel left right parents = some parents' ∧ Forest S parents' (merge rep left right) := by
  have hcount : ∀ k, S.countP (· < k) < fuel := fun k => Nat.lt_of_le_of_lt List.countP_le_length hfuel
  obtain ⟨parents1, hfind1, h1⟩ := find_spec h hleft (hcount left)
  obtain ⟨parents2, hfind2, h2⟩ := find_spec h1 hright (hcount right)
  simp only [union, hfind1, hfind2, Option.bind_some, Option.map_some, Option.some.injEq, exists_eq_left']
  by_cases heq : rep left = rep right
  · rw [if_pos heq, merge_of_eq heq]
    exact h2
  rw [if_neg heq]
  by_cases hlt : rep left < rep right
  · rw [if_pos hlt]
    exact h2.insert_root hleft hright hlt
  · rw [if_neg hlt, merge_comm]
    exact h2.insert_root hright hleft (lt_of_le_of_ne (not_lt.1 hlt) (Ne.symm heq))

/-! ### Components -/

open Relation (EqvGen)

/-- An equivalence that holds within the classes and of the pair holds within the classes after their union. -/
private theorem of_merge_eq {E : K → K → Prop} (hE : Equivalence E) (hrep : ∀ a b, rep a = rep b → E a b)
    (hpair : E left right) {a b : K} (hab : merge rep left right a = merge rep left right b) : E a b := by
  -- a value of either class is related to `left`
  have hleft : ∀ k, rep k = rep left ∨ rep k = rep right → E k left := by
    rintro k (hk | hk)
    · exact hrep _ _ hk
    · exact hE.trans (hrep _ _ hk) (hE.symm hpair)
  have hmin : min (rep left) (rep right) = rep left ∨ min (rep left) (rep right) = rep right :=
    (le_total (rep left) (rep right)).imp min_eq_left min_eq_right
  unfold merge at hab
  split at hab
  · next ha =>
    split at hab
    · next hb => exact hE.trans (hleft a ha) (hE.symm (hleft b hb))
    · next hb => exact absurd (hmin.imp hab.symm.trans hab.symm.trans) hb
  next ha =>
  split at hab
  · next hb => exact absurd (hmin.imp hab.trans hab.trans) ha
  · exact hrep _ _ hab

/-- Uniting pairs leaves the least equivalence with the classes before and the pairs. -/
theorem linkAll_spec (h : Forest S parents rep) {pairs : List (K × K)}
    (hpairs : ∀ pair ∈ pairs, pair.1 ∈ S ∧ pair.2 ∈ S) (hfuel : S.length < fuel) :
    ∃ parents' rep', linkAll fuel pairs parents = some parents' ∧ Forest S parents' rep' ∧
      (∀ a b, rep a = rep b → rep' a = rep' b) ∧ (∀ pair ∈ pairs, rep' pair.1 = rep' pair.2) ∧
      ∀ E : K → K → Prop, Equivalence E → (∀ a b, rep a = rep b → E a b) → (∀ pair ∈ pairs, E pair.1 pair.2) →
        ∀ a b, rep' a = rep' b → E a b := by
  induction pairs generalizing parents rep with
  | nil => exact ⟨parents, rep, rfl, h, fun _ _ => id, fun _ hpair => (by cases hpair), fun _ _ hrep _ => hrep⟩
  | cons pair pairs ih =>
    obtain ⟨left, right⟩ := pair
    obtain ⟨hleft, hright⟩ := hpairs _ (List.mem_cons_self ..)
    obtain ⟨parents1, hunion, h1⟩ := union_spec h hleft hright hfuel
    obtain ⟨parents', rep', hlink, h', hmerged, hlinked, hleast⟩ := ih h1 (List.forall_mem_cons.1 hpairs).2
    refine ⟨parents', rep', ?_, h', fun a b hab => hmerged a b (by rw [merge, merge, hab]),
      List.forall_mem_cons.2 ⟨hmerged left right (by rw [merge_left, merge_right]), hlinked⟩,
        fun E hE hrep hall => ?_⟩
    · rw [linkAll, List.foldlM_cons, hunion]
      exact hlink
    · obtain ⟨hpair, hrest⟩ := List.forall_mem_cons.1 hall
      exact hleast E hE (fun a b => of_merge_eq hE hrep hpair) hrest

/-- From no links at all, the classes are the connected components of the pairs. -/
theorem linkAll_empty {pairs : List (K × K)} (hpairs : ∀ pair ∈ pairs, pair.1 ∈ S ∧ pair.2 ∈ S)
    (hfuel : S.length < fuel) : ∃ parents rep, linkAll fuel pairs ∅ = some parents ∧ Forest S parents rep ∧
      ∀ a b, rep a = rep b ↔ EqvGen (fun a b => (a, b) ∈ pairs) a b := by
  obtain ⟨parents, rep, hlink, hforest, -, hlinked, hleast⟩ := linkAll_spec (forest_empty S) hpairs hfuel
  have hequiv : Equivalence fun a b => rep a = rep b := ⟨fun _ => rfl, Eq.symm, Eq.trans⟩
  refine ⟨parents, rep, hlink, hforest, fun a b => ⟨?_, fun hab => ?_⟩⟩
  · refine hleast _ (EqvGen.is_equivalence _) (fun a b hab => ?_) (fun pair hpair => .rel _ _ hpair) a b
    obtain rfl : a = b := hab
    exact .refl a
  · exact hequiv.eqvGen_iff.1 (EqvGen.mono (fun a b => hlinked (a, b)) a b hab)

end NodeNet.UnionFind
