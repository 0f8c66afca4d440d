import NodeNet.Base.OnesComplement
import NodeNet.Protocols.Types

/-!
# Internet checksums

The accumulator keeps the folded sum of the words seen so far and an odd byte that waits for its partner.  The
checksum of a byte string is the complement of its folded word sum (`computeInternetChecksum_eq`), so a string with
its own checksum in place is accepted (`validateInternetChecksum_of_filled`).
-/

namespace NodeNet.Protocols

inductive TransportChecksumContext where
  | ipv4 (source destination : Ipv4Address)
  | ipv6 (source destination : Ipv6Address)
deriving DecidableEq

structure InternetChecksumAccumulator where
  sum : Nat
  pendingHighByte : Option UInt8

namespace InternetChecksumAccumulator

def default : InternetChecksumAccumulator := ⟨0, none⟩

variable (a : InternetChecksumAccumulator)

def addWord (word : Nat) : InternetChecksumAccumulator :=
  { a with sum := carryOnce (a.sum + word) }

/-- The words of a string, and its odd last byte. -/
def addChunks (a : InternetChecksumAccumulator) : Bytes → InternetChecksumAccumulator
  | high :: low :: rest => addChunks (a.addWord (high.toNat * 256 + low.toNat)) rest
  | [last] => { a with pendingHighByte := some last }
  | [] => a

def update (input : Bytes) : InternetChecksumAccumulator :=
  match a.pendingHighByte, input with
  | none, _ => a.addChunks input
  | some _, [] => a
  | some high, low :: rest =>
    addChunks (addWord { a with pendingHighByte := none } (high.toNat * 256 + low.toNat)) rest

/-- Folds until the sum fits 16 bits; a carry makes the sum smaller, so as many rounds as the sum are enough. -/
def foldCarries : Nat → Nat → Nat
  | 0, sum => sum
  | rounds + 1, sum => if sum / 65536 ≠ 0 then foldCarries rounds (carryOnce sum) else sum

def finish : UInt16 :=
  let a := match a.pendingHighByte with
    | some high => a.addWord (high.toNat * 256)
    | none => a
  UInt16.ofNat (65535 - foldCarries a.sum a.sum % 65536)

end InternetChecksumAccumulator

open InternetChecksumAccumulator

def computeInternetChecksum (input : Bytes) : UInt16 := (default.update input).finish

def validateInternetChecksum (input : Bytes) : Bool := computeInternetChecksum input = 0

variable (context : TransportChecksumContext)

variable (protocol : UInt8)

def computeTransportChecksum (segment : Bytes) : Option UInt16 :=
  match context with
  | .ipv4 source destination =>
    if segment.length ≤ 65535 then
      some ((((((default.update (ipv4Octets source)).update (ipv4Octets destination)).update [0, protocol]).update
        (beBytes 2 segment.length)).update segment).finish)
    else none
  | .ipv6 source destination =>
    if segment.length ≤ 4294967295 then
      some ((((((default.update (ipv6Octets source)).update (ipv6Octets destination)).update
        (beBytes 4 segment.length)).update [0, 0, 0, protocol]).update segment).finish)
    else none

def validateTransportChecksum (segment : Bytes) : Bool :=
  computeTransportChecksum context protocol segment = some 0

/-! ### The checksum as a function of the word sum -/

private theorem foldCarries_of_le {rounds sum : Nat} (h : sum ≤ 65535) : foldCarries rounds sum = sum := by
  cases rounds with
  | zero => rfl
  | succ rounds => rw [foldCarries, if_neg (by omega)]

private theorem finish_of_folded {sum : Nat} : finish ⟨onesFold sum, none⟩ = UInt16.ofNat
    (65535 - onesFold sum) := by
  have hle := onesFold_le sum
  simp only [finish, foldCarries_of_le hle, Nat.mod_eq_of_lt (show onesFold sum < 65536 by omega)]

/-- What a string adds to an accumulator between two words. -/
theorem finish_addChunks (sum : Nat) (input : Bytes) :
    (addChunks ⟨onesFold sum, none⟩ input).finish = UInt16.ofNat (65535 - onesFold (sum + wordSum input)) := by
  induction input using wordSum.induct generalizing sum with
  | case1 high low rest ih =>
    simp only [addChunks, addWord, carryOnce_add (word_le high low), ih, wordSum, Nat.add_assoc]
  | case2 high =>
    have hword : high.toNat * 256 ≤ 65535 := by
      have := high.toNat_lt
      omega
    have hfinish : finish ⟨onesFold sum, some high⟩ = finish ⟨onesFold (sum + high.toNat * 256), none⟩ := by
      simp only [finish, addWord, carryOnce_add hword]
    rw [addChunks, hfinish, finish_of_folded, wordSum]
  | case3 => rw [addChunks, finish_of_folded, wordSum, Nat.add_zero]

private theorem sum_addChunks_le (sum : Nat) (input : Bytes) :
    (addChunks ⟨onesFold sum, none⟩ input).sum ≤ 65535 := by
  induction input using wordSum.induct generalizing sum with
  | case1 high low rest ih =>
    rw [addChunks, addWord, carryOnce_add (word_le high low)]
    exact ih _
  | case2 high | case3 => exact onesFold_le sum

private theorem update_addChunks {input : Bytes} (more : Bytes) {a : InternetChecksumAccumulator}
    (ha : a.pendingHighByte = none) : (a.addChunks input).update more = a.addChunks (input ++ more) := by
  obtain ⟨sum, pending⟩ := a
  subst ha
  induction input using wordSum.induct generalizing sum with
  | case1 high low rest ih => exact ih _
  | case2 high => cases more <;> rfl
  | case3 => rfl

/-- One string after another is summed as both in one, wherever the first one ends. -/
private theorem update_update (a : InternetChecksumAccumulator) (input more : Bytes) :
    (a.update input).update more = a.update (input ++ more) := by
  obtain ⟨sum, _ | high⟩ := a
  · exact update_addChunks more rfl
  · cases input with
    | nil => rfl
    | cons low rest => exact update_addChunks more rfl

private theorem foldl_update (a : InternetChecksumAccumulator) (chunks : List Bytes) :
    chunks.foldl update a = a.update chunks.flatten := by
  induction chunks generalizing a with
  | nil => obtain ⟨sum, _ | high⟩ := a <;> rfl
  | cons chunk chunks ih => rw [List.foldl_cons, ih, update_update, List.flatten_cons]

theorem computeInternetChecksum_eq (input : Bytes) :
    computeInternetChecksum input = UInt16.ofNat (65535 - onesFold (wordSum input)) := by
  have h := finish_addChunks 0 input
  rw [Nat.zero_add] at h
  exact h

theorem validateInternetChecksum_iff (input : Bytes) :
    validateInternetChecksum input = true ↔ onesFold (wordSum input) = 65535 := by
  have hle := onesFold_le (wordSum input)
  rw [validateInternetChecksum, decide_eq_true_iff, computeInternetChecksum_eq, ← UInt16.toNat_inj,
    UInt16.toNat_ofNat', UInt16.toNat_zero]
  omega

/-- A string is accepted if the checksum of the string with a zero word stands in place of that word, or all ones
in place of a zero checksum. -/
theorem validateInternetChecksum_of_filled {before after : Bytes} {checksum written : UInt16}
    (hbefore : before.length % 2 = 0) (h : computeInternetChecksum (before ++ ([0, 0] ++ after)) = checksum)
    (hwritten : written = checksum ∨ checksum = 0 ∧ written = 0xffff) :
    validateInternetChecksum (before ++ (be16 written ++ after)) := by
  have hzero : wordSum (before ++ ([0, 0] ++ after)) = wordSum before + wordSum after := by
    rw [wordSum_append hbefore, wordSum_append rfl]
    simp [wordSum]
  have hle := onesFold_le (wordSum before + wordSum after)
  rw [computeInternetChecksum_eq, hzero] at h
  have hchecksum : checksum.toNat = 65535 - onesFold (wordSum before + wordSum after) := by
    rw [← h, UInt16.toNat_ofNat', Nat.mod_eq_of_lt (by omega)]
  have hword : written.toNat = 65535 - onesFold (wordSum before + wordSum after) ∨
      onesFold (wordSum before + wordSum after) = 65535 ∧ written.toNat = 65535 := by
    rcases hwritten with rfl | ⟨rfl, rfl⟩
    · exact .inl hchecksum
    · rw [UInt16.toNat_zero] at hchecksum
      exact .inr ⟨by omega, rfl⟩
  rw [validateInternetChecksum_iff, wordSum_append hbefore, wordSum_append (by simp), be16,
    wordSum_beBytes_two written.toNat_lt, show ∀ a b c : Nat, a + (c + b) = a + b + c by omega]
  exact onesFold_add_complement hword

/-- The checksum in a string that is accepted is the one to be computed, or all ones in place of zero. -/
theorem computeInternetChecksum_of_valid {before after : Bytes} {checksum : UInt16}
    (hbefore : before.length % 2 = 0) (hpos : 0 < wordSum before)
    (h : validateInternetChecksum (before ++ (be16 checksum ++ after)) = true) :
    computeInternetChecksum (before ++ ([0, 0] ++ after)) = checksum ∨
      (checksum = 0xffff ∧ computeInternetChecksum (before ++ ([0, 0] ++ after)) = 0) := by
  have hzero : wordSum (before ++ ([0, 0] ++ after)) = wordSum before + wordSum after := by
    rw [wordSum_append hbefore, wordSum_append rfl]
    simp [wordSum]
  have hlt := checksum.toNat_lt
  rw [validateInternetChecksum_iff, wordSum_append hbefore, wordSum_append (by simp), be16,
    wordSum_beBytes_two hlt, show ∀ a b c : Nat, a + (c + b) = a + b + c by omega] at h
  rw [computeInternetChecksum_eq, hzero]
  rcases eq_complement_of_onesFold (by omega) (by omega) h with heq | ⟨hones, hfold⟩
  · left
    rw [← heq, UInt16.ofNat_toNat]
  right
  refine ⟨UInt16.toNat_inj.mp hones, ?_⟩
  rw [hfold]
  rfl

/-! ### Pseudo-headers -/

/-- The bytes that are summed in front of a segment. -/
def pseudoHeader (length : Nat) : Bytes :=
  match context with
  | .ipv4 source destination => ipv4Octets source ++
    (ipv4Octets destination ++ ([0, protocol] ++ beBytes 2 length))
  | .ipv6 source destination =>
    ipv6Octets source ++ (ipv6Octets destination ++ (beBytes 4 length ++ [0, 0, 0, protocol]))

/-- The longest segment whose length the pseudo-header can hold. -/
def TransportChecksumContext.maximumLength : TransportChecksumContext → Nat
  | .ipv4 .. => 65535
  | .ipv6 .. => 4294967295

private theorem computeTransportChecksum_eq_ite (segment : Bytes) :
    computeTransportChecksum context protocol segment =
      if segment.length ≤ context.maximumLength then
        some (computeInternetChecksum (pseudoHeader context protocol segment.length ++ segment))
      else none := by
  cases context <;>
    simp [computeTransportChecksum, TransportChecksumContext.maximumLength, update_update, computeInternetChecksum,
      pseudoHeader]

theorem computeTransportChecksum_eq {segment : Bytes} (h : segment.length ≤ 65535) :
    computeTransportChecksum context protocol segment =
      some (computeInternetChecksum (pseudoHeader context protocol segment.length ++ segment)) := by
  have hmaximum : 65535 ≤ context.maximumLength := by
    cases context <;> simp [TransportChecksumContext.maximumLength]
  rw [computeTransportChecksum_eq_ite, if_pos (h.trans hmaximum)]

/-- A packet is built once its length is accepted and its checksum is computed. -/
theorem checksummed_eq_ok_iff {required : Except BuildError Nat} {checksum : Option UInt16}
    {encode : UInt16 → Bytes} {error : BuildError} {bytes : Bytes} :
    (match required with
      | .error error => .error error
      | .ok _ => match checksum with
        | none => .error error
        | some checksum => .ok (encode checksum)) = (.ok bytes : Except BuildError Bytes) ↔
      (∃ length, required = .ok length) ∧ ∃ sum, checksum = some sum ∧ bytes = encode sum := by
  cases required <;> cases checksum <;> simp [eq_comm]

private theorem validateTransportChecksum_iff {context : TransportChecksumContext} {protocol : UInt8}
    {segment : Bytes} : validateTransportChecksum context protocol segment = true ↔
      segment.length ≤ context.maximumLength ∧
        validateInternetChecksum (pseudoHeader context protocol segment.length ++ segment) = true := by
  rw [validateTransportChecksum, computeTransportChecksum_eq_ite]
  simp [validateInternetChecksum]

private theorem pseudoHeader_even (length : Nat) : (pseudoHeader context protocol length).length % 2 = 0 := by
  cases context <;> simp [pseudoHeader]

private theorem pseudoHeader_pos {protocol : UInt8} (length : Nat)
    (h : protocol ≠ 0) : 0 < wordSum (pseudoHeader context protocol length) := by
  have hpos : 0 < protocol.toNat := Nat.pos_of_ne_zero fun hzero => h (UInt8.toNat_inj.mp hzero)
  cases context with
  | ipv4 source destination =>
    have hword : wordSum [0, protocol] = protocol.toNat := by simp [wordSum]
    rw [pseudoHeader, wordSum_append (by simp), wordSum_append (by simp), wordSum_append (by simp), hword]
    omega
  | ipv6 source destination =>
    have hword : wordSum [0, 0, 0, protocol] = protocol.toNat := by simp [wordSum]
    rw [pseudoHeader, wordSum_append (by simp), wordSum_append (by simp), wordSum_append (by simp), hword]
    omega

private theorem wordSum_pseudoHeader {length : Nat} (h : length ≤ 65535) :
    wordSum (pseudoHeader context protocol length) = wordSum (pseudoHeader context protocol 0) + length := by
  cases context <;>
    (simp [pseudoHeader, wordSum_append, wordSum, beBytes]
     omega)

section Segments

variable {context : TransportChecksumContext} {protocol : UInt8} {before after : Bytes} {checksum : UInt16}

/-- Bytes behind a segment do not change its checksum exactly if their sum and their number add up to a multiple of
65535. -/
theorem computeTransportChecksum_append_iff {segment behind : Bytes} (hprotocol : protocol ≠ 0)
    (h : (segment ++ behind).length ≤ 65535) :
    computeTransportChecksum context protocol (segment ++ behind) =
    computeTransportChecksum context protocol segment ↔
      65535 ∣ behind.length + wordSum (if segment.length % 2 = 0 then behind else 0 :: behind) := by
  have heven := pseudoHeader_even context protocol
  have hle : segment.length ≤ 65535 := by rw [List.length_append] at h; omega
  obtain ⟨sum, hsum⟩ : ∃ sum, sum = wordSum (pseudoHeader context protocol segment.length ++ segment) := ⟨_, rfl⟩
  obtain ⟨more, hmore⟩ : ∃ more, more =
      behind.length + wordSum (if segment.length % 2 = 0 then behind else 0 :: behind) := ⟨_, rfl⟩
  have hpos : 0 < sum := by
    rw [hsum, wordSum_append (heven _)]
    exact Nat.add_pos_left (pseudoHeader_pos context segment.length hprotocol) _
  have hwhole : wordSum (pseudoHeader context protocol (segment ++ behind).length ++ (segment ++ behind)) =
      sum + more := by
    rw [hsum, hmore, wordSum_append (heven _), wordSum_append (heven _), wordSum_append_padded,
      wordSum_pseudoHeader _ _ h, wordSum_pseudoHeader _ _ hle, List.length_append]
    omega
  have hfold := onesFold_le sum
  have hfold' := onesFold_le (sum + more)
  rw [computeTransportChecksum_eq _ _ h, computeTransportChecksum_eq _ _ hle, Option.some.injEq,
    computeInternetChecksum_eq, computeInternetChecksum_eq, hwhole, ← hsum, ← hmore, ← onesFold_add_eq_iff hpos,
    ← UInt16.toNat_inj, UInt16.toNat_ofNat', UInt16.toNat_ofNat']
  omega

private theorem segment_length (checksum : UInt16) (before after : Bytes) :
    (before ++ (be16 checksum ++ after)).length = (before ++ ([0, 0] ++ after)).length := by
  simp only [List.length_append, be16_length]
  rfl

/-- A segment with its own checksum in place is accepted, also with all ones for a zero checksum. -/
theorem validateTransportChecksum_of_filled {written : UInt16} (hbefore : before.length % 2 = 0)
    (h : computeTransportChecksum context protocol (before ++ ([0, 0] ++ after)) = some checksum)
    (hwritten : written = checksum ∨ checksum = 0 ∧ written = 0xffff) :
    validateTransportChecksum context protocol (before ++ (be16 written ++ after)) = true := by
  rw [computeTransportChecksum_eq_ite, Option.ite_none_right_eq_some, Option.some.injEq] at h
  obtain ⟨hfits, hsum⟩ := h
  rw [validateTransportChecksum_iff, segment_length]
  refine ⟨hfits, ?_⟩
  rw [← List.append_assoc] at hsum ⊢
  refine validateInternetChecksum_of_filled ?_ hsum hwritten
  have heven := pseudoHeader_even context protocol (before ++ ([0, 0] ++ after)).length
  rw [List.length_append]
  omega

/-- The checksum in a segment that is accepted is the one to be computed, except that all ones stand for zero. -/
theorem computeTransportChecksum_of_valid (hbefore : before.length % 2 = 0) (hprotocol : protocol ≠ 0)
    (h : validateTransportChecksum context protocol (before ++ (be16 checksum ++ after)) = true) :
    computeTransportChecksum context protocol (before ++ ([0, 0] ++ after)) =
      some (if checksum = 0xffff then 0 else checksum) := by
  have heven := pseudoHeader_even context protocol (before ++ ([0, 0] ++ after)).length
  have hpos := pseudoHeader_pos context (before ++ ([0, 0] ++ after)).length hprotocol
  have hbefore : (pseudoHeader context protocol (before ++ ([0, 0] ++ after)).length ++
    before).length % 2 = 0 := by
    rw [List.length_append]
    omega
  have hsum : 0 < wordSum (pseudoHeader context protocol (before ++ ([0, 0] ++ after)).length ++ before) := by
    rw [wordSum_append heven]
    omega
  rw [validateTransportChecksum_iff, segment_length] at h
  obtain ⟨hfits, h⟩ := h
  rw [← List.append_assoc] at h
  rw [computeTransportChecksum_eq_ite, if_pos hfits, Option.some.injEq, ← List.append_assoc]
  rcases computeInternetChecksum_of_valid hbefore hsum h with heq | ⟨hones, hzero⟩
  · -- a sum that is not zero has no complement of all ones
    have hne : checksum ≠ 0xffff := by
      intro hones
      have hcomplement := computeInternetChecksum_eq
        (pseudoHeader context protocol (before ++ ([0, 0] ++ after)).length ++ before ++ ([0, 0] ++ after))
      rw [heq, hones, ← UInt16.toNat_inj, UInt16.toNat_ofNat', wordSum_append hbefore] at hcomplement
      change 65535 = _ at hcomplement
      unfold onesFold at hcomplement
      split at hcomplement <;> omega
    rw [heq, if_neg hne]
  · rw [hzero, if_pos hones]

/-- The checksum of a string is the complement of its folded word sum however the string is cut into pieces, and no
sum on the way exceeds 16 bits.  A segment with its checksum filled in is accepted. -/
theorem checksum_of_pieces :
    (∀ pieces : List Bytes, (pieces.foldl update default).sum ≤ 65535 ∧
      (pieces.foldl update default).finish = UInt16.ofNat (65535 - onesFold (wordSum pieces.flatten))) ∧
    ∀ (context : TransportChecksumContext) (protocol : UInt8) (before after : Bytes) (checksum written : UInt16),
      before.length % 2 = 0 → computeTransportChecksum context protocol (before ++ ([0, 0] ++ after)) =
        some checksum → (written = checksum ∨ checksum = 0 ∧ written = 0xffff) →
          validateTransportChecksum context protocol (before ++ (be16 written ++ after)) = true := by
  refine ⟨fun pieces => ?_, fun _ _ _ _ _ _ hbefore h hwritten =>
    validateTransportChecksum_of_filled hbefore h hwritten⟩
  rw [foldl_update]
  exact ⟨sum_addChunks_le 0 _, computeInternetChecksum_eq _⟩

/-- Three octets cut after the first, and a UDP datagram with a payload. -/
theorem checksum_of_pieces_udp :
    (List.foldl update default [[1], [2, 3]]).finish = UInt16.ofNat (65535 - onesFold (wordSum [1, 2, 3])) ∧
      validateTransportChecksum (.ipv4 0x0a000001 0x0a000002) 17
        ([0, 7, 0, 9, 0, 11] ++ (be16 0x2763 ++ [0x61, 0x62, 0x63])) = true :=
  ⟨(checksum_of_pieces.1 [[1], [2, 3]]).2, checksum_of_pieces.2 _ _ _ _ _ _ rfl rfl (.inl rfl)⟩

end Segments

end NodeNet.Protocols
