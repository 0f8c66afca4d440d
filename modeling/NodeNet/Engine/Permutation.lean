import Mathlib.Data.Nat.ModEq
import Mathlib.Data.List.Nodup
import Mathlib.Data.List.Perm.Subperm
import NodeNet.Engine.Types

/-!
# Seeded permutations

An affine map `ordinal ↦ multiplier * ordinal + offset` modulo the length, with a multiplier coprime to the length.
It is a bijection of `[0, length)`, so the ordinals from a cursor on name every number that no earlier ordinal
named (`SeededPermutation.unissued_zero_perm`).
-/

namespace NodeNet.Engine

open List

def splitmix64 (state : UInt64) : UInt64 × UInt64 :=
  let state := state + 0x9e3779b97f4a7c15
  let value := (state ^^^ (state >>> 30)) * 0xbf58476d1ce4e5b9
  let value := (value ^^^ (value >>> 27)) * 0x94d049bb133111eb
  (value ^^^ (value >>> 31), state)

/-- Euclid's loop; `fuel` bounds the number of rounds. -/
def gcdLoop : Nat → Nat → Nat → Nat
  | 0, left, _ => left
  | fuel + 1, left, right => if right = 0 then left else gcdLoop fuel right (left % right)

def gcd (left right : Nat) : Nat := gcdLoop (right + 1) left right

private theorem gcdLoop_eq {fuel left right : Nat} (h : right < fuel) :
    gcdLoop fuel left right = Nat.gcd left right := by
  induction fuel generalizing left right with
  | zero => omega
  | succ fuel ih =>
    unfold gcdLoop
    split
    · next hz => simp [hz]
    next hz =>
    have hlt := Nat.mod_lt left (Nat.pos_of_ne_zero hz)
    rw [ih (by omega), Nat.gcd_comm left right, Nat.gcd_comm right, ← Nat.gcd_rec]

theorem gcd_eq (left right : Nat) : gcd left right = Nat.gcd left right := gcdLoop_eq (Nat.lt_succ_self right)

/-- The first multiplier from `multiplier` on that is coprime to the length; `fuel` bounds the search. -/
def coprimeFrom (length : Nat) : Nat → Nat → Nat
  | 0, multiplier => multiplier
  | fuel + 1, multiplier =>
    if gcd multiplier length ≠ 1 then
      coprimeFrom length fuel (if multiplier + 1 = length then 1 else multiplier + 1)
    else multiplier

/-- The loop of the search, started at `multiplier`, tests the numbers `visited` one after another and ends. -/
inductive Searches (length : Nat) : Nat → List Nat → Nat → Prop
  | found {multiplier : Nat} (h : ¬ gcd multiplier length ≠ 1) : Searches length multiplier [multiplier] multiplier
  | next {multiplier result : Nat} {visited : List Nat} (h : gcd multiplier length ≠ 1)
      (rest : Searches length (if multiplier + 1 = length then 1 else multiplier + 1) visited result) :
      Searches length multiplier (multiplier :: visited) result

private theorem Searches.coprime {length multiplier result : Nat} {visited : List Nat}
    (h : Searches length multiplier visited result) : result ∈ visited ∧ Nat.Coprime result length := by
  induction h with
  | found h =>
    rw [gcd_eq, ne_eq, not_not] at h
    exact ⟨mem_singleton_self _, h⟩
  | next _ _ ih => exact ⟨mem_cons_of_mem _ ih.1, ih.2⟩

/-- The search ends before it wraps around, since `length - 1` is coprime to `length`. -/
private theorem coprimeFrom_searches {length fuel multiplier : Nat} (h : multiplier < length)
    (hfuel : length < fuel + 1 + multiplier) :
    ∃ visited, Searches length multiplier visited (coprimeFrom length fuel multiplier) ∧
      visited.Pairwise (· < ·) ∧ ∀ m ∈ visited, multiplier ≤ m ∧ m < length := by
  have hlast : ∀ k, k + 1 = length → Nat.Coprime k length := by
    rintro k rfl
    exact (Nat.coprime_self_add_right (m := k) (n := 1)).2 (Nat.coprime_one_right k)
  induction fuel generalizing multiplier with
  | zero => omega
  | succ fuel ih =>
    unfold coprimeFrom
    split
    · next hgcd =>
      have hne : multiplier + 1 ≠ length := fun he => hgcd ((gcd_eq ..).trans (hlast multiplier he))
      obtain ⟨visited, hsearch, hincreasing, hbounds⟩ := ih (show multiplier + 1 < length by omega) (by omega)
      rw [if_neg hne]
      refine ⟨multiplier :: visited, .next hgcd (by rwa [if_neg hne]), ?_, ?_⟩
      · exact pairwise_cons.2 ⟨fun m hm => (hbounds m hm).1, hincreasing⟩
      · exact forall_mem_cons.2 ⟨⟨le_refl _, h⟩, fun m hm =>
        ⟨by have := (hbounds m hm).1; omega, (hbounds m hm).2⟩⟩
    · next hgcd => exact ⟨[multiplier], .found hgcd, pairwise_singleton .., by simpa using h⟩

private theorem coprimeFrom_coprime {length fuel multiplier : Nat} (h : multiplier < length)
    (hfuel : length < fuel + 1 + multiplier) : Nat.Coprime (coprimeFrom length fuel multiplier) length := by
  obtain ⟨visited, hsearch, -⟩ := coprimeFrom_searches h hfuel
  exact hsearch.coprime.2

/-- A deterministic affine permutation of `[0, length)`. -/
structure SeededPermutation where
  length : Nat
  multiplier : Nat
  offset : Nat
  seed : SchedulingSeed
  pos : 0 < length
  coprime : length = 1 ∨ Nat.Coprime multiplier length

namespace SeededPermutation

def new (length : Nat) (seed : SchedulingSeed) : Except EngineError SeededPermutation :=
  if h : length = 0 then .error (.plan .noProbes)
  else if h₁ : length = 1 then .ok ⟨length, 0, 0, seed, by omega, Or.inl h₁⟩
  else
    let first := splitmix64 seed.value
    let second := splitmix64 first.2
    let offset := first.1.toNat % length
    let drawn := second.1.toNat % length
    let multiplier := if drawn = 0 then 1 else drawn
    .ok {
      length := length
      multiplier := coprimeFrom length length multiplier
      offset := offset
      seed := seed
      pos := by omega
      coprime := by
        have hdrawn : drawn < length := Nat.mod_lt _ (by omega)
        have hmultiplier : 0 < multiplier ∧ multiplier < length := by
          simp only [multiplier]
          split <;> omega
        exact Or.inr (coprimeFrom_coprime hmultiplier.2 (by omega)) }

def firstMultiplier (length : Nat) (seed : SchedulingSeed) : Nat :=
  let drawn := (splitmix64 (splitmix64 seed.value).2).1.toNat % length
  if drawn = 0 then 1 else drawn

/-- The search visits numbers below the length, none twice, and ends with one that is coprime to the length. -/
private theorem new_searches {length : Nat} (hlength : 2 ≤ length) (seed : SchedulingSeed) :
    ∃ p visited, new length seed = .ok p ∧ p.length = length ∧ p.offset < length ∧
      Searches length (firstMultiplier length seed) visited p.multiplier ∧ visited.Nodup ∧
      ∀ m ∈ visited, 1 ≤ m ∧ m < length := by
  have hpos : 0 < length := by omega
  have hdrawn := Nat.mod_lt (splitmix64 (splitmix64 seed.value).2).1.toNat hpos
  have hfirst : 1 ≤ firstMultiplier length seed ∧ firstMultiplier length seed < length := by
    simp only [firstMultiplier]
    split <;> omega
  obtain ⟨visited, hsearch, hincreasing, hbounds⟩ :=
    coprimeFrom_searches hfirst.2 (show length < length + 1 + _ by omega)
  refine ⟨_, visited, by rw [new, dif_neg (by omega), dif_neg (by omega)], rfl, Nat.mod_lt _ hpos, hsearch,
    hincreasing.imp Nat.ne_of_lt, fun m hm => ⟨hfirst.1.trans (hbounds m hm).1, (hbounds m hm).2⟩⟩

/-- The search for a multiplier ends, without overflow: it tests each number below the length at most once, and the
one that it ends with is coprime to the length. -/
theorem multiplier_found {length : Nat} (hlength : 1 ≤ length) (hfits : length ≤ u64Max) (seed : SchedulingSeed) :
    ∃ p, new length seed = .ok p ∧ (2 ≤ length → ∃ visited,
      Searches length (firstMultiplier length seed) visited p.multiplier ∧ visited.Nodup ∧
        (∀ m ∈ visited, 1 ≤ m ∧ m ≤ length - 1 ∧ m + 1 ≤ u64Max) ∧ 1 ≤ p.multiplier ∧ p.multiplier ≤ length - 1 ∧
        Nat.Coprime p.multiplier length) := by
  rcases hlength.eq_or_lt with rfl | htwo
  · exact ⟨_, rfl, fun h => absurd h (by omega)⟩
  obtain ⟨p, visited, hnew, -, -, hsearch, hnodup, hbounds⟩ := new_searches htwo seed
  have hresult := hbounds _ hsearch.coprime.1
  refine ⟨p, hnew, fun _ => ⟨visited, hsearch, hnodup, fun m hm => ?_, hresult.1, by omega, hsearch.coprime.2⟩⟩
  have := hbounds m hm
  omega

theorem multiplier_found_six : ∃ p, new 6 (.explicit 4) = .ok p ∧ Nat.Coprime p.multiplier 6 := by
  obtain ⟨p, hnew, hfound⟩ := multiplier_found (show 1 ≤ 6 by decide) (by decide) (.explicit 4)
  obtain ⟨visited, -, -, -, -, -, hcoprime⟩ := hfound (by decide)
  exact ⟨p, hnew, hcoprime⟩

variable {p : SeededPermutation}

theorem new_bounds {length : Nat} {seed : SchedulingSeed} (h : new length seed = .ok p) :
    p.length = length ∧ p.multiplier < length ∧ p.offset < length := by
  rcases Nat.lt_trichotomy length 1 with hzero | rfl | htwo
  · rw [new, dif_pos (by omega)] at h
    cases h
  · cases h
    exact ⟨rfl, Nat.one_pos, Nat.one_pos⟩
  obtain ⟨q, visited, hnew, hlength, hoffset, hsearch, -, hbounds⟩ := new_searches htwo seed
  obtain rfl := Except.ok.inj (h.symm.trans hnew)
  exact ⟨hlength, (hbounds _ hsearch.coprime.1).2, hoffset⟩

/-- The number named by an ordinal.  The value is below the length, so it fits the machine integer. -/
def permute (p : SeededPermutation) (ordinal : Nat) : Option Nat :=
  if ordinal ≥ p.length then none
  else if p.length = 1 then some 0
  else some ((p.multiplier * ordinal + p.offset) % p.length)

theorem permute_total (p : SeededPermutation) {ordinal : Nat} (h : ordinal < p.length) :
    ∃ id, p.permute ordinal = some id ∧ id < p.length := by
  simp only [permute, ge_iff_le, not_le.2 h, ↓reduceIte]
  split
  · exact ⟨0, rfl, p.pos⟩
  · exact ⟨_, rfl, Nat.mod_lt _ p.pos⟩

variable {id : Nat}

theorem permute_lt {ordinal : Nat} (h : p.permute ordinal = some id) : ordinal < p.length ∧ id < p.length := by
  have hlt : ordinal < p.length := by
    by_contra hge
    simp [permute, not_lt.1 hge] at h
  obtain ⟨id', hid, hlt'⟩ := p.permute_total hlt
  rw [hid, Option.some.injEq] at h
  exact ⟨hlt, h ▸ hlt'⟩

theorem permute_inj {i j : Nat} (hi : p.permute i = some id) (hj : p.permute j = some id) : i = j := by
  have hi' := (permute_lt hi).1
  have hj' := (permute_lt hj).1
  simp only [permute, ge_iff_le, not_le.2 hi', not_le.2 hj', ↓reduceIte] at hi hj
  split at hi
  · omega
  next hone =>
  rw [if_neg hone, Option.some.injEq] at hj
  rw [Option.some.injEq, ← hj] at hi
  have hcoprime : Nat.gcd p.length p.multiplier = 1 := by
    rw [Nat.gcd_comm]
    exact p.coprime.resolve_left hone
  have hmod : p.multiplier * i ≡ p.multiplier * j [MOD p.length] := Nat.ModEq.add_right_cancel' p.offset hi
  exact Nat.ModEq.eq_of_lt_of_lt (hmod.cancel_left_of_coprime hcoprime) hi' hj'

/-! ### Numbers that are still to come -/

/-- The numbers named by the ordinals from `cursor` on. -/
def unissued (p : SeededPermutation) (cursor : Nat) : List Nat :=
  (List.range' cursor (p.length - cursor)).filterMap p.permute

theorem unissued_cons {cursor : Nat} (h : p.permute cursor = some id) :
    p.unissued cursor = id :: p.unissued (cursor + 1) := by
  have hlt := (permute_lt h).1
  have hlen : p.length - cursor = (p.length - (cursor + 1)) + 1 := by omega
  rw [unissued, hlen, range'_succ, filterMap_cons_some h]
  rfl

theorem unissued_length (p : SeededPermutation) : p.unissued p.length = [] := by simp [unissued]

theorem mem_unissued {cursor : Nat} :
    id ∈ p.unissued cursor ↔ ∃ ordinal, cursor ≤ ordinal ∧ p.permute ordinal = some id := by
  simp only [unissued, mem_filterMap, mem_range'_1]
  constructor
  · rintro ⟨ordinal, ⟨hle, -⟩, h⟩
    exact ⟨ordinal, hle, h⟩
  rintro ⟨ordinal, hle, h⟩
  have := (permute_lt h).1
  exact ⟨ordinal, ⟨hle, by omega⟩, h⟩

theorem unissued_nodup (p : SeededPermutation) (cursor : Nat) : (p.unissued cursor).Nodup :=
  List.Nodup.filterMap (fun i j id hi hj => permute_inj hi hj) (nodup_range' ..)

/-- Before the first ordinal is used, every number is still to come. -/
theorem unissued_zero_perm (p : SeededPermutation) : (p.unissued 0).Perm (List.range p.length) := by
  have hlength : (p.unissued 0).length = p.length := by
    have : ∀ n k, k + n ≤ p.length → ((List.range' k n).filterMap p.permute).length = n := by
      intro n
      induction n with
      | zero => simp
      | succ n ih =>
        intro k hk
        obtain ⟨id, hid, -⟩ := p.permute_total (show k < p.length by omega)
        rw [range'_succ, filterMap_cons_some hid, length_cons, ih (k + 1) (by omega)]
    simpa [unissued] using this p.length 0 (by omega)
  have hsub : p.unissued 0 ⊆ List.range p.length := by
    intro id hid
    obtain ⟨ordinal, -, h⟩ := mem_unissued.1 hid
    exact mem_range.2 (permute_lt h).2
  exact (subperm_of_subset (p.unissued_nodup 0) hsub).perm_of_length_le (by simp [hlength])

end SeededPermutation

end NodeNet.Engine
