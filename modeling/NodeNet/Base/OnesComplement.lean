import NodeNet.Base.Bytes

/-!
# One's-complement sums

Sums of 16-bit words with end-around carry.  Adding carries back in changes a sum by a multiple of 65535 only, and
never makes a nonzero sum zero, so a sum with its carries folded in is a function of the plain sum (`onesFold`).  A
word string with the complement of its own sum in a zero word sums to all ones (`onesFold_add_complement`).
-/

namespace NodeNet

/-- Adds the carries beyond 16 bits back into the sum. -/
def carryOnce (sum : Nat) : Nat := sum % 65536 + sum / 65536

/-- The one's-complement representative of a sum: zero only for zero. -/
def onesFold (sum : Nat) : Nat := if sum = 0 then 0 else (sum - 1) % 65535 + 1

/-- The sum of the 16-bit words of a byte string, an odd last byte padded with zero. -/
def wordSum : Bytes → Nat
  | high :: low :: rest => high.toNat * 256 + low.toNat + wordSum rest
  | [high] => high.toNat * 256
  | [] => 0

theorem onesFold_le (sum : Nat) : onesFold sum ≤ 65535 := by
  unfold onesFold
  split <;> omega

/-- One carry is enough for a folded sum and one word. -/
theorem carryOnce_add {a word : Nat} (h : word ≤ 65535) : carryOnce (onesFold a + word) = onesFold (a + word) := by
  unfold carryOnce onesFold
  split <;> split <;> omega

/-- A sum with the complement of its folded value added is all ones, also if all ones stand for a zero complement.
-/
theorem onesFold_add_complement {sum word : Nat}
    (h : word = 65535 - onesFold sum ∨ onesFold sum = 65535 ∧ word = 65535) : onesFold (sum + word) = 65535 := by
  unfold onesFold at *
  split <;> split at h <;> omega

/-- The word that completes a sum to all ones is the complement of the sum, unless that is zero. -/
theorem eq_complement_of_onesFold {sum word : Nat} (hsum : 0 < sum) (hword : word ≤ 65535)
    (h : onesFold (sum + word) = 65535) :
    word = 65535 - onesFold sum ∨ (word = 65535 ∧ onesFold sum = 65535) := by
  unfold onesFold at *
  split at h <;> split <;> omega

/-- What is added to a sum does not change its fold exactly if it is a multiple of 65535. -/
theorem onesFold_add_eq_iff {sum more : Nat} (h : 0 < sum) : onesFold (sum + more) = onesFold sum ↔
    65535 ∣ more := by
  unfold onesFold
  split <;> split <;> omega

theorem word_le (high low : UInt8) : high.toNat * 256 + low.toNat ≤ 65535 := by
  have hhigh := high.toNat_lt
  have hlow := low.toNat_lt
  omega

/-- A string behind another one adds its own sum, shifted by an octet if the first one is odd. -/
theorem wordSum_append_padded (a b : Bytes) :
    wordSum (a ++ b) = wordSum a + wordSum (if a.length % 2 = 0 then b else 0 :: b) := by
  induction a using wordSum.induct with
  | case1 high low rest ih =>
    have hparity : (high :: low :: rest).length % 2 = rest.length % 2 := Nat.add_mod_right _ 2
    rw [hparity, List.cons_append, List.cons_append, wordSum, wordSum, ih]
    omega
  | case2 high => cases b <;> simp [wordSum, Nat.add_assoc]
  | case3 => simp [wordSum]

theorem wordSum_append {a b : Bytes} (ha : a.length % 2 = 0) : wordSum (a ++ b) = wordSum a + wordSum b := by
  rw [wordSum_append_padded, if_pos ha]

/-- The two octets of a 16-bit number add that number. -/
theorem wordSum_beBytes_two {n : Nat} (h : n < 65536) : wordSum (beBytes 2 n) = n := by
  simp only [beBytes, List.nil_append, List.cons_append, wordSum, UInt8.toNat_ofNat']
  omega

end NodeNet
