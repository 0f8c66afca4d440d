import Mathlib.Algebra.Order.Ring.Nat
import Mathlib.Data.List.Basic
import Mathlib.Data.List.Induction
import Mathlib.Data.Nat.Bitwise
import Mathlib.Tactic.Ring

/-!
# Byte strings and big-endian numbers

Byte strings as lists of octets, numbers in network byte order (`beBytes`, `beValue`), and fields read at an
offset. A field that stands behind other fields is found by skipping them (`field_skip`) and read off the front
(`field_head`). Bit fields of one number are added where they do not overlap (`lor_eq_add`) and tested one bit at a
time (`land_two_pow_eq_zero`).
-/

namespace NodeNet

open List

abbrev Bytes := List UInt8

instance Bytes.lawfulBEq : LawfulBEq Bytes := inferInstance

variable (l : Bytes)

/-- The number whose big-endian digits are the given octets. -/
def beValue : Nat := l.foldl (fun value b => value * 256 + b.toNat) 0

/-- The last `width` big-endian octets of a number. -/
def beBytes : Nat → Nat → Bytes
  | 0, _ => []
  | width + 1, n => beBytes width (n / 256) ++ [UInt8.ofNat n]

/-- The `width` octets at `offset`, fewer if the string ends before. -/
def field (offset width : Nat) : Bytes := (l.drop offset).take width

def u8At (offset : Nat) : UInt8 := l.getD offset 0

def u16At (offset : Nat) : UInt16 := UInt16.ofNat (beValue (field l offset 2))

def u32At (offset : Nat) : UInt32 := UInt32.ofNat (beValue (field l offset 4))

def be16 (n : UInt16) : Bytes := beBytes 2 n.toNat

def be32 (n : UInt32) : Bytes := beBytes 4 n.toNat

/-! ### Numbers -/

private theorem foldl_digits (value : Nat) :
    l.foldl (fun value b => value * 256 + b.toNat) value = value * 256 ^ l.length + beValue l := by
  induction l generalizing value with
  | nil => simp [beValue]
  | cons b l ih =>
    have hstep : beValue (b :: l) = b.toNat * 256 ^ l.length + beValue l := by
      unfold beValue
      rw [foldl_cons, ih]
      simp [beValue]
    rw [foldl_cons, ih, hstep, length_cons, Nat.pow_succ]
    ring

theorem beValue_append (a b : Bytes) : beValue (a ++ b) = beValue a * 256 ^ b.length + beValue b := by
  rw [beValue, foldl_append, foldl_digits]
  rfl

@[simp] theorem beBytes_length (width n : Nat) : (beBytes width n).length = width := by
  induction width generalizing n with
  | zero => rfl
  | succ width ih => simp [beBytes, ih]

variable {n width : Nat}

theorem beValue_beBytes (h : n < 256 ^ width) : beValue (beBytes width n) = n := by
  induction width generalizing n with
  | zero => rw [Nat.pow_zero] at h; simp [beBytes, beValue]; omega
  | succ width ih =>
    have hhigh : n / 256 < 256 ^ width := by
      rw [Nat.pow_succ] at h
      omega
    rw [beBytes, beValue_append, ih hhigh]
    simp only [length_singleton, Nat.pow_one, beValue, foldl_cons, foldl_nil, UInt8.toNat_ofNat']
    omega

theorem beValue_lt : beValue l < 256 ^ l.length := by
  induction l using List.reverseRecOn with
  | nil => simp [beValue]
  | append_singleton l b ih =>
    have hb := b.toNat_lt
    rw [beValue_append, length_append, length_singleton, Nat.pow_succ]
    simp only [beValue, foldl_cons, foldl_nil] at ih ⊢
    omega

/-- The digits of a number are the octets it was read from. -/
theorem beBytes_beValue : beBytes l.length (beValue l) = l := by
  induction l using List.reverseRecOn with
  | nil => rfl
  | append_singleton l b ih =>
    have hb := b.toNat_lt
    have hvalue : beValue (l ++ [b]) = beValue l * 256 + b.toNat := by
      rw [beValue_append]
      simp [beValue]
    have hhigh : (beValue l * 256 + b.toNat) / 256 = beValue l := by omega
    have hlow : UInt8.ofNat (beValue l * 256 + b.toNat) = b := by
      rw [← UInt8.toNat_inj, UInt8.toNat_ofNat']
      omega
    rw [length_append, length_singleton, beBytes, hvalue, hhigh, ih, hlow]

@[simp] theorem be16_length (n : UInt16) : (be16 n).length = 2 := beBytes_length ..

@[simp] theorem be32_length (n : UInt32) : (be32 n).length = 4 := beBytes_length ..

theorem ofNat_beValue_be16 (n : UInt16) : UInt16.ofNat (beValue (be16 n)) = n := by
  rw [be16, beValue_beBytes n.toNat_lt]
  exact UInt16.ofNat_toNat

theorem ofNat_beValue_be32 (n : UInt32) : UInt32.ofNat (beValue (be32 n)) = n := by
  rw [be32, beValue_beBytes n.toNat_lt]
  exact UInt32.ofNat_toNat

/-! ### Bit fields -/

/-- A fact about bytes is decided by trying them all. -/
theorem forall_byte {P : UInt8 → Prop} (h : ∀ n < 256, P (UInt8.ofNat n)) (b : UInt8) : P b := by
  have hb := h b.toNat b.toNat_lt
  rwa [UInt8.ofNat_toNat] at hb

/-- Two fields that do not overlap are joined by adding them. -/
theorem lor_eq_add {a b : Nat} (k : Nat) (hb : b < 2 ^ k) (ha : 2 ^ k ∣ a) : a ||| b = a + b := by
  obtain ⟨c, rfl⟩ := ha
  exact (Nat.two_pow_add_eq_or_of_lt hb c).symm

theorem land_two_pow_eq_zero (n k : Nat) : n &&& 2 ^ k = 0 ↔ n / 2 ^ k % 2 = 0 := by
  have hpos := Nat.two_pow_pos k
  rw [Nat.and_two_pow, Nat.testBit_eq_decide_div_mod_eq]
  by_cases h : n / 2 ^ k % 2 = 1
  · simp [h]
  · simp [h]
    omega

theorem u16_and_bit_eq_zero {mask : UInt16} {k : Nat} (hmask : mask.toNat = 2 ^ k) (value : UInt16) :
    value &&& mask = 0 ↔ value.toNat / 2 ^ k % 2 = 0 := by
  rw [← UInt16.toNat_inj, UInt16.toNat_and, hmask]
  exact land_two_pow_eq_zero value.toNat k

theorem u16_and_mask {mask : UInt16} {k : Nat} (hmask : mask.toNat = 2 ^ k - 1) (value : UInt16) :
    (value &&& mask).toNat = value.toNat % 2 ^ k := by
  rw [UInt16.toNat_and, hmask, Nat.and_two_pow_sub_one_eq_mod]

/-! ### Fields -/

variable {a l : Bytes} {offset : Nat}

/-- Behind a string, its length is subtracted from the offset. -/
theorem field_skip (h : a.length ≤ offset) : field (a ++ l) offset width = field l (offset - a.length) width := by
  rw [field, field, drop_append, drop_of_length_le h, nil_append]

theorem field_head (h : a.length = width) : field (a ++ l) 0 width = a := by
  subst h
  rw [field, drop_zero, take_left]

@[simp] theorem u8At_skip (h : a.length ≤ offset) : u8At (a ++ l) offset = u8At l (offset - a.length) := by
  simp only [u8At, getD_eq_getElem?_getD, getElem?_append_right h]

@[simp] theorem u8At_cons_succ (b : UInt8) (l : Bytes) (offset : Nat) :
    u8At (b :: l) (offset + 1) = u8At l offset := rfl

@[simp] theorem u8At_cons_zero (b : UInt8) (l : Bytes) : u8At (b :: l) 0 = b := rfl

@[simp] theorem u16At_skip (h : a.length ≤ offset) : u16At (a ++ l) offset = u16At l (offset - a.length) := by
  rw [u16At, u16At, field_skip h]

@[simp] theorem u16At_cons_succ (b : UInt8) (l : Bytes) (offset : Nat) :
    u16At (b :: l) (offset + 1) = u16At l offset := rfl

@[simp] theorem u16At_head (n : UInt16) (l : Bytes) : u16At (be16 n ++ l) 0 = n := by
  rw [u16At, field_head (be16_length n), ofNat_beValue_be16]

@[simp] theorem u32At_skip (h : a.length ≤ offset) : u32At (a ++ l) offset = u32At l (offset - a.length) := by
  rw [u32At, u32At, field_skip h]

@[simp] theorem u32At_cons_succ (b : UInt8) (l : Bytes) (offset : Nat) :
    u32At (b :: l) (offset + 1) = u32At l offset := rfl

@[simp] theorem u32At_head (n : UInt32) (l : Bytes) : u32At (be32 n ++ l) 0 = n := by
  rw [u32At, field_head (be32_length n), ofNat_beValue_be32]

@[simp] theorem u16At_be16 (n : UInt16) : u16At (be16 n) 0 = n := by
  have hhead := u16At_head n []
  rwa [append_nil] at hhead

@[simp] theorem u32At_be32 (n : UInt32) : u32At (be32 n) 0 = n := by
  have hhead := u32At_head n []
  rwa [append_nil] at hhead

theorem field_take (h : offset + width ≤ n) : field (l.take n) offset width = field l offset width := by
  rw [field, field, drop_take, take_take, Nat.min_eq_left (by omega)]

theorem u8At_take (h : offset < n) : u8At (l.take n) offset = u8At l offset := by
  simp only [u8At, getD_eq_getElem?_getD, getElem?_take_of_lt h]

theorem u16At_take (h : offset + 2 ≤ n) : u16At (l.take n) offset = u16At l offset := by
  rw [u16At, u16At, field_take h]

theorem u32At_take (h : offset + 4 ≤ n) : u32At (l.take n) offset = u32At l offset := by
  rw [u32At, u32At, field_take h]

theorem length_field (h : offset + width ≤ l.length) : (field l offset width).length = width := by
  rw [field, length_take, length_drop]
  omega

theorem field_append_drop (l : Bytes) (offset width : Nat) :
    field l offset width ++ l.drop (offset + width) = l.drop offset := by
  rw [field, ← drop_drop, take_append_drop]

theorem field_add (l : Bytes) (offset a b : Nat) : field l offset (a + b) = field l offset a ++ field l
    (offset + a) b := by
  rw [field, field, field, take_add, drop_drop]

theorem beBytes_beValue_field (h : offset + width ≤ l.length) :
    beBytes width (beValue (field l offset width)) = field l offset width := by
  have hdigits := beBytes_beValue (field l offset width)
  rwa [length_field h] at hdigits

theorem beValue_field_lt (h : offset + width ≤ l.length) : beValue (field l offset width) < 256 ^ width := by
  have hlt := beValue_lt (field l offset width)
  rwa [length_field h] at hlt

theorem be16_u16At (h : offset + 2 ≤ l.length) : be16 (u16At l offset) = field l offset 2 := by
  rw [be16, u16At, UInt16.toNat_ofNat', Nat.mod_eq_of_lt (show _ < 2 ^ 16 from beValue_field_lt h),
    beBytes_beValue_field h]

theorem be32_u32At (h : offset + 4 ≤ l.length) : be32 (u32At l offset) = field l offset 4 := by
  rw [be32, u32At, UInt32.toNat_ofNat', Nat.mod_eq_of_lt (show _ < 2 ^ 32 from beValue_field_lt h),
    beBytes_beValue_field h]

theorem singleton_u8At (h : offset < l.length) : [u8At l offset] = field l offset 1 := by
  rw [field, drop_eq_getElem_cons h, u8At, getD_eq_getElem?_getD, getElem?_eq_getElem h]
  rfl

end NodeNet
