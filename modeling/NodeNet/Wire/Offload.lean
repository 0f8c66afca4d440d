import NodeNet.Protocols.Tcp
import NodeNet.Protocols.Udp

/-!
# Offloaded checksums

The kernel may hand over a segment whose checksum is still to be filled in.  The session fills it in over all bytes
that it received; a UDP datagram is checked over the length that it declares, so bytes behind the datagram are
summed on one side only (`completed_checksum_accepted_iff`).
-/

namespace NodeNet.Wire

open List Protocols

def withWord (payload : Bytes) (offset : Nat) (word : UInt16) : Bytes :=
  payload.take offset ++ (be16 word ++ payload.drop (offset + 2))

def completeOffloadedChecksum (payload : Bytes) (context : TransportChecksumContext) (protocol : UInt8)
    (checksumNotReady : Bool) : Option Bytes := do
  let offset ←
    if checksumNotReady ∧ protocol = 6 ∧ payload.length ≥ 18 then some 16
    else if checksumNotReady ∧ protocol = 17 ∧ payload.length ≥ 8 then some 6
    else none
  let checksum ← computeTransportChecksum context protocol (withWord payload offset 0)
  return withWord payload offset (if protocol = 17 ∧ checksum = 0 then 0xffff else checksum)

section Statements

variable {α : Type} (parse : Bytes → TransportChecksumContext → Except ParseError α) (offset : Nat)
  (context : TransportChecksumContext) (payload : Bytes)

/-- The parser takes the payload with the right checksum in it. -/
def Structured : Prop :=
  offset + 2 ≤ payload.length ∧ ∃ word r, parse (withWord payload offset word) context = .ok r

/-- The completed payload differs in the checksum only, and the parser takes it. -/
def Completes (protocol : UInt8) : Prop :=
  ∃ word, completeOffloadedChecksum payload context protocol true = some (withWord payload offset word) ∧
    ∃ r, parse (withWord payload offset word) context = .ok r

def behindDatagram : Bytes := payload.drop (u16At payload 4).toNat

/-- What the bytes behind a datagram add to the sum: their words, shifted by an octet if the datagram is odd, and
their number, which the pseudo-header contains. -/
def behindSum : Nat :=
  (behindDatagram payload).length +
    wordSum (if (u16At payload 4).toNat % 2 = 0 then behindDatagram payload else 0 :: behindDatagram payload)

end Statements

variable {context : TransportChecksumContext} {payload : Bytes} {offset n : Nat} {word written checksum : UInt16}

private theorem withWord_append {front behind : Bytes} (h : offset + 2 ≤ front.length) :
    withWord (front ++ behind) offset word = withWord front offset word ++ behind := by
  simp only [withWord, append_assoc]
  rw [take_append_of_le_length (by omega), drop_append_of_le_length h]

section Rewritten

variable (hlength : offset + 2 ≤ payload.length)
include hlength

private theorem length_withWord : (withWord payload offset word).length = payload.length := by
  simp only [withWord, length_append, length_take, be16_length, length_drop]
  omega

private theorem take_withWord_before (h : n ≤ offset) :
    (withWord payload offset word).take n = payload.take n := by
  rw [withWord, take_append_of_le_length (by simp; omega), take_take, min_eq_left h]

private theorem u16At_withWord : u16At (withWord payload offset word) offset = word := by
  rw [withWord, u16At_skip (by simp), length_take_of_le (by omega), Nat.sub_self, u16At_head]

variable {protocol : UInt8} (heven : offset % 2 = 0) (hprotocol : protocol ≠ 0)
include heven hprotocol

private theorem valid_withWord_iff :
    validateTransportChecksum context protocol (withWord payload offset word) = true ↔
      computeTransportChecksum context protocol (withWord payload offset 0) =
        some (if word = 0xffff then 0 else word) := by
  have hbefore : (payload.take offset).length % 2 = 0 := by rwa [length_take_of_le (by omega)]
  exact ⟨computeTransportChecksum_of_valid hbefore hprotocol,
    fun h => validateTransportChecksum_of_filled hbefore h (by grind)⟩

/-- A checksum is never all ones, as the protocol is a part of the sum. -/
private theorem checksum_ne_ones
    (h : computeTransportChecksum context protocol (withWord payload offset 0) = some checksum) :
    checksum ≠ 0xffff := by
  rintro rfl
  have hvalid := validateTransportChecksum_of_filled (by rwa [length_take_of_le (by omega)]) h (.inl rfl)
  cases h.symm.trans ((valid_withWord_iff hlength heven hprotocol).1 hvalid)

end Rewritten

/-! ### TCP -/

/-- The parser reads everything but the checksum elsewhere. -/
private theorem parse_tcp_rewritten (hlength : 18 ≤ payload.length)
    (h : ∃ r, parseTcpSegment (withWord payload 16 word) context = .ok r)
    (hvalid : validateTransportChecksum context tcpProtocol (withWord payload 16 written) = true) :
    ∃ r, parseTcpSegment (withWord payload 16 written) context = .ok r := by
  have hheader : ∀ w, tcpHeaderLength (withWord payload 16 w) = tcpHeaderLength payload := by
    intro w
    rw [tcpHeaderLength, ← u8At_take (show 12 < 16 by decide), take_withWord_before hlength le_rfl,
      u8At_take (by decide), tcpHeaderLength]
  have hfield : ∀ w width, field (withWord payload 16 w) 20 width = field (payload.drop 18) 2 width := by
    intro w width
    rw [withWord, field_skip (by simp), length_take_of_le (by omega), field_skip (by simp), be16_length]
  obtain ⟨r, h⟩ := h
  obtain ⟨⟨hlimit, hoffset, hrest, -⟩, options, conformance, hoptions, -⟩ := parseTcpSegment_eq_ok_iff.1 h
  rw [length_withWord hlength] at hlimit hrest
  rw [hheader] at hoffset hrest hoptions
  rw [hfield] at hoptions
  refine ⟨_, parseTcpSegment_eq_ok_iff.2 ⟨⟨?_, ?_, ?_, hvalid⟩, options, conformance, ?_, rfl⟩⟩
  · rwa [length_withWord hlength]
  · rwa [hheader]
  · rwa [hheader, length_withWord hlength]
  · rwa [hheader, hfield]

private theorem tcp_completes (h : Structured parseTcpSegment 16 context payload) :
    Completes parseTcpSegment 16 context payload 6 := by
  obtain ⟨hlength, word, r, hr⟩ := h
  have hcomputed := (valid_withWord_iff hlength rfl (by decide)).1 (parseTcpSegment_eq_ok_iff.1 hr).1.checksum
  refine ⟨if word = 0xffff then 0 else word, ?_, parse_tcp_rewritten hlength ⟨r, hr⟩
    ((valid_withWord_iff hlength rfl (by decide)).2 (hcomputed.trans (by grind)))⟩
  have hoffset : payload.length ≥ 18 := hlength
  simp [completeOffloadedChecksum, hoffset,
    show computeTransportChecksum context 6 (withWord payload 16 0) = _ from hcomputed]

/-! ### UDP -/

private theorem exists_ok_ite {ε α : Type} {c : Prop} [Decidable c] {error : ε} {k : Except ε α} :
    (∃ r, (if c then .error error else k) = .ok r) ↔ ¬ c ∧ ∃ r, k = .ok r := by
  simp only [ite_error_eq_ok, exists_and_left]

private theorem parse_udp_iff {input : Bytes} : (∃ r, parseUdpDatagram input context = .ok r) ↔
    (input.length ≤ 65535 ∧ 8 ≤ input.length ∧ 8 ≤ (u16At input 4).toNat ∧ (u16At input 4).toNat ≤ input.length) ∧
      if u16At input 6 = 0 then context.isIpv6 = false
      else validateTransportChecksum context udpProtocol (input.take (u16At input 4).toNat) = true := by
  unfold parseUdpDatagram udpMaxDatagramLength udpHeaderLength
  simp only [exists_ok_ite]
  split <;> simp [exists_ok_ite, and_assoc]

private theorem behindSum_of_none (h : behindDatagram payload = []) : behindSum payload = 0 := by
  rw [behindSum, h]
  split <;> rfl

private theorem udp_completes_iff (h : Structured parseUdpDatagram 6 context payload) :
    Completes parseUdpDatagram 6 context payload 17 ↔ behindDatagram payload = [] ∨ 65535 ∣ behindSum payload := by
  obtain ⟨hlength, word, hparse⟩ := h
  have hdeclared : ∀ w, u16At (withWord payload 6 w) 4 = u16At payload 4 := by
    intro w
    rw [← u16At_take (show 4 + 2 ≤ 6 by decide), take_withWord_before hlength le_rfl, u16At_take (by decide)]
  have hbounds := (parse_udp_iff.1 hparse).1
  rw [length_withWord hlength, hdeclared] at hbounds
  obtain ⟨datagram, hdatagram⟩ : ∃ datagram, datagram = payload.take (u16At payload 4).toNat := ⟨_, rfl⟩
  have hdatagramLength : datagram.length = (u16At payload 4).toNat := by
    rw [hdatagram, length_take_of_le hbounds.2.2.2]
  have hfits : 6 + 2 ≤ datagram.length := by omega
  have hsplit : ∀ w, withWord payload 6 w = withWord datagram 6 w ++ behindDatagram payload := by
    intro w
    rw [← withWord_append hfits, hdatagram, behindDatagram, take_append_drop]
  obtain ⟨checksum, hchecksum⟩ :
    ∃ c, computeTransportChecksum context udpProtocol (withWord payload 6 0) = some c :=
    ⟨_, computeTransportChecksum_eq _ _ (by rw [length_withWord hlength]; exact hbounds.1)⟩
  have hones := checksum_ne_ones hlength rfl (by decide) hchecksum
  obtain ⟨written, hwritten⟩ : ∃ w, w = if checksum = 0 then 0xffff else checksum := ⟨_, rfl⟩
  have hstands : (if written = 0xffff then 0 else written) = checksum := by grind
  have hcompleted : completeOffloadedChecksum payload context 17 true = some (withWord payload 6 written) := by
    have hoffset : payload.length ≥ 8 := hlength
    simp [completeOffloadedChecksum, hoffset, hwritten,
      show computeTransportChecksum context 17 (withWord payload 6 0) = _ from hchecksum]
  calc Completes parseUdpDatagram 6 context payload 17
    _ ↔ ∃ r, parseUdpDatagram (withWord payload 6 written) context = .ok r := by
      simp only [Completes, hcompleted, Option.some.injEq]
      exact ⟨fun ⟨_, h, hr⟩ => h ▸ hr, fun hr => ⟨written, rfl, hr⟩⟩
    _ ↔ validateTransportChecksum context udpProtocol (withWord datagram 6 written) = true := by
      rw [parse_udp_iff, length_withWord hlength, hdeclared, u16At_withWord hlength, if_neg (by grind), hsplit,
        take_left' ((length_withWord hfits).trans hdatagramLength)]
      exact and_iff_right hbounds
    _ ↔ computeTransportChecksum context udpProtocol (withWord datagram 6 0 ++ behindDatagram payload) =
        computeTransportChecksum context udpProtocol (withWord datagram 6 0) := by
      rw [valid_withWord_iff hfits rfl (by decide), hstands, ← hchecksum, hsplit, eq_comm]
    _ ↔ 65535 ∣ behindSum payload := by
      rw [computeTransportChecksum_append_iff (by decide)
        (by rw [← hsplit, length_withWord hlength]; exact hbounds.1),
        length_withWord hfits, hdatagramLength, behindSum]
    _ ↔ _ := (or_iff_right_of_imp fun hnone => behindSum_of_none hnone ▸ dvd_zero _).symm

/-- The completed copy is accepted for every TCP segment, and for a UDP datagram if nothing stands behind its
declared length or what stands there adds a multiple of 65535. -/
theorem completed_checksum_accepted_iff (context : TransportChecksumContext) (payload : Bytes) :
    (Structured parseTcpSegment 16 context payload → Completes parseTcpSegment 16 context payload 6) ∧
      (Structured parseUdpDatagram 6 context payload → (Completes parseUdpDatagram 6 context payload 17 ↔
        behindDatagram payload = [] ∨ 65535 ∣ behindSum payload)) :=
  ⟨tcp_completes, udp_completes_iff⟩

/-- A TCP segment and a UDP datagram with a payload, and the datagram with two bytes behind it that the sum does
not notice. -/
theorem completed_checksum_accepted_payloads :
    let context := TransportChecksumContext.ipv4 0x0a000001 0x0a000002
    Completes parseTcpSegment 16 context
    [0, 7, 0, 9, 0, 0, 0, 1, 0, 0, 0, 2, 0x50, 0x18, 16, 0, 0, 0, 0, 0, 0x61, 0x62] 6 ∧
      Completes parseUdpDatagram 6 context [0, 7, 0, 9, 0, 11, 0, 0, 0x61, 0x62, 0x63] 17 ∧
      Completes parseUdpDatagram 6 context [0, 7, 0, 9, 0, 10, 0, 0, 0x61, 0x62, 0xff, 0xfd] 17 :=
  ⟨(completed_checksum_accepted_iff _ _).1 ⟨by decide, 0x2a53, _, rfl⟩,
    ((completed_checksum_accepted_iff _ _).2 ⟨by decide, 0, _, rfl⟩).2 (.inl (by decide)),
    ((completed_checksum_accepted_iff _ _).2 ⟨by decide, 0, _, rfl⟩).2 (.inr (by decide))⟩

/-- An empty datagram with a byte behind it that the checksum covers although the datagram ends before. -/
theorem trailing_byte_rejected :
    let context := TransportChecksumContext.ipv4 0x0a000001 0x0a000002
    Structured parseUdpDatagram 6 context [0, 7, 0, 9, 0, 8, 0, 0, 1] ∧
      ¬ Completes parseUdpDatagram 6 context [0, 7, 0, 9, 0, 8, 0, 0, 1] 17 := by
  have hstructured : Structured parseUdpDatagram 6 (.ipv4 0x0a000001 0x0a000002) [0, 7, 0, 9, 0, 8, 0, 0, 1] :=
    ⟨by decide, 0, _, rfl⟩
  refine ⟨hstructured, fun hcompletes => ?_⟩
  exact absurd ((udp_completes_iff hstructured).1 hcompletes) (by decide)

end NodeNet.Wire
