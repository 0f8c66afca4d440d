import NodeNet.Protocols.Ipv4

/-!
# IPv4 packets, there and back

What is built parses strictly with the fields it was built from, and what parses strictly and canonically is built
again from its fields, up to the two ways to write a zero checksum (`ipv4_round_trip`).
-/

namespace NodeNet.Protocols

open List

/-- The fields that a parsed packet has in common with one to be built. -/
def ParsedIpv4Packet.toPacket (r : ParsedIpv4Packet) : Ipv4Packet where
  dscp := r.dscp
  ecn := r.ecn
  identification := r.identification
  dontFragment := r.dontFragment
  moreFragments := r.moreFragments
  fragmentOffset := r.fragmentOffset
  timeToLive := r.timeToLive
  protocol := r.protocol
  source := r.source
  destination := r.destination
  options := r.options
  payload := r.payload

def Ipv4Packet.fragmentState (p : Ipv4Packet) : FragmentState :=
  if p.fragmentOffset = 0 then if p.moreFragments then .first true else .unfragmented
  else .nonFirst p.fragmentOffset p.moreFragments

/-- The same bytes, but for a checksum of all ones on the one side that is zero on the other. -/
def EqualUpToZeroChecksum (x y : Bytes) : Prop :=
  x = y ∨ ∃ before after : Bytes, before.length = 10 ∧ x = before ++ (be16 0xffff ++ after) ∧
    y = before ++ (be16 0 ++ after)

/-! ### What the builder takes -/

structure Ipv4Packet.Valid (p : Ipv4Packet) : Prop where
  dscp : p.dscp.toNat ≤ 63
  ecn : p.ecn.toNat ≤ 3
  optionsLength : p.options.length ≤ 40
  optionsWords : p.options.length % 4 = 0
  options : ipv4OptionsAreCanonical p.options = true
  offset : p.fragmentOffset.toNat ≤ 8191
  flags : p.dontFragment = true → p.moreFragments = false ∧ p.fragmentOffset = 0
  fragments : p.moreFragments = true → p.payload.length % 8 = 0
  length : 20 + p.options.length + p.payload.length ≤ 65535

theorem Ipv4Packet.validate_eq_ok_iff (p : Ipv4Packet) : p.validate = .ok () ↔ p.Valid := by
  simp only [validate, ite_error_eq_ok, not_or, not_and, not_not, Bool.not_eq_true', Bool.not_eq_false,
    Bool.not_eq_true, Nat.not_lt, UInt8.not_lt, UInt16.not_lt, UInt8.le_iff_toNat_le, UInt16.le_iff_toNat_le,
    ne_eq]
  constructor
  · rintro ⟨hdscp, hecn, ⟨hlong, hwords, hoptions⟩, hoffset, hflags, hfragments, hlength, -⟩
    exact ⟨hdscp, hecn, hlong, hwords, hoptions, hoffset, hflags, hfragments, hlength⟩
  · rintro ⟨hdscp, hecn, hlong, hwords, hoptions, hoffset, hflags, hfragments, hlength⟩
    exact ⟨hdscp, hecn, ⟨hlong, hwords, hoptions⟩, hoffset, hflags, hfragments, hlength, trivial⟩

theorem Ipv4Packet.build_eq_ok_iff {p : Ipv4Packet} {bytes : Bytes} :
    p.build = .ok bytes ↔ p.Valid ∧ bytes = p.encodeIpv4 := by
  rw [← validate_eq_ok_iff, build, requiredLength]
  cases hvalid : p.validate with
  | error error => simp
  | ok _ =>
    have hlength := (p.validate_eq_ok_iff.mp hvalid).length
    have hfits : PacketLength.new (ipv4MinHeaderLength + p.options.length + p.payload.length) .ip =
        .ok (ipv4MinHeaderLength + p.options.length + p.payload.length) := by
      rw [PacketLength.new, if_neg]
      simp only [ipv4MinHeaderLength, PacketKind.maximumLength, maxIpPacketLength]
      omega
    simp only [hfits, true_and, Except.ok.injEq]
    exact eq_comm

/-! ### The bytes of a packet -/

variable {p : Ipv4Packet}

private theorem Ipv4Packet.Valid.flagsFragment_toNat (h : p.Valid) : p.flagsFragment.toNat =
    (if p.dontFragment then 16384 else 0) + (if p.moreFragments then 8192 else 0) + p.fragmentOffset.toNat := by
  have hoffset := h.offset
  have hdont : (if p.dontFragment then (0x4000 : UInt16) else 0).toNat = if p.dontFragment then 16384 else 0 := by
    split <;> rfl
  have hmore : (if p.moreFragments then (0x2000 : UInt16) else 0).toNat = if p.moreFragments then 8192 else 0 := by
    split <;> rfl
  rw [flagsFragment, UInt16.toNat_or, UInt16.toNat_or, hdont, hmore,
    lor_eq_add (a := if p.dontFragment then 16384 else 0) 14 (by split <;> omega) (by split <;> omega),
    lor_eq_add 13 (by omega) (by split <;> split <;> omega)]

private theorem ihl_byte : ∀ k ≤ 10, (0x40 ||| UInt8.ofNat (5 + k)) >>> 4 = 4 ∧
    ((0x40 ||| UInt8.ofNat (5 + k)) &&& 0x0f).toNat = 5 + k := by decide

private theorem dscp_ecn_byte : ∀ d ≤ 63, ∀ e ≤ 3,
    ((UInt8.ofNat d <<< 2) ||| UInt8.ofNat e) >>> 2 = UInt8.ofNat d ∧
    ((UInt8.ofNat d <<< 2) ||| UInt8.ofNat e) &&& 0x03 = UInt8.ofNat e := by decide +kernel

/-- The header of a packet to be built, with any checksum. -/
private def Ipv4Packet.header (p : Ipv4Packet) (checksum : UInt16) : Bytes :=
  p.headerFront ++ (be16 checksum ++ p.headerBack)

private theorem Ipv4Packet.length_headerFront (p : Ipv4Packet) : p.headerFront.length = 10 := by
  simp [headerFront]

private theorem Ipv4Packet.length_header (p : Ipv4Packet) (checksum : UInt16) :
    (p.header checksum).length = 20 + p.options.length := by
  simp only [header, headerBack, length_append, p.length_headerFront, be16_length, ipv4Octets_length]
  omega

/-- What is read off a built header is what was written. -/
private structure Ipv4Packet.Reads (p : Ipv4Packet) (input : Bytes) : Prop where
  version : u8At input 0 >>> 4 = 4
  ihl : (u8At input 0 &&& 0x0f).toNat * 4 = 20 + p.options.length
  dscp : u8At input 1 >>> 2 = p.dscp
  ecn : u8At input 1 &&& 0x03 = p.ecn
  total : (u16At input 2).toNat = 20 + p.options.length + p.payload.length
  identification : u16At input 4 = p.identification
  flagsFragment : u16At input 6 = p.flagsFragment
  timeToLive : u8At input 8 = p.timeToLive
  protocol : u8At input 9 = p.protocol
  source : ipv4At input 12 = p.source
  destination : ipv4At input 16 = p.destination

private theorem Ipv4Packet.Valid.reads (h : p.Valid) (checksum : UInt16) (t : Bytes) :
    p.Reads (p.header checksum ++ t) := by
  obtain ⟨k, hk⟩ : ∃ k, p.options.length = 4 * k := ⟨p.options.length / 4, by have := h.optionsWords; omega⟩
  have hk10 : k ≤ 10 := by
    have := h.optionsLength
    omega
  have hlength := h.length
  have hwords : (20 + p.options.length) / 4 = 5 + k := by omega
  have htotal : (UInt16.ofNat (20 + p.options.length + p.payload.length)).toNat =
      20 + p.options.length + p.payload.length := by
    rw [UInt16.toNat_ofNat']
    exact Nat.mod_eq_of_lt (by omega)
  have hbytes : p.header checksum ++ t = [0x40 ||| UInt8.ofNat (5 + k), (p.dscp <<< 2) ||| p.ecn] ++
      (be16 (UInt16.ofNat (20 + p.options.length + p.payload.length)) ++ (be16 p.identification ++
        (be16 p.flagsFragment ++ ([p.timeToLive, p.protocol] ++ (be16 checksum ++ (ipv4Octets p.source ++
          (ipv4Octets p.destination ++ (p.options ++ t)))))))) := by
    have hfits : ipv4MinHeaderLength + p.options.length + p.payload.length ≤ 65535 := hlength
    have hihl : (ipv4MinHeaderLength + p.options.length) / 4 = 5 + k := hwords
    simp only [header, headerFront, headerBack, hihl, if_pos (show 5 + k ≤ 255 by omega), if_pos hfits,
      append_assoc]
    rfl
  obtain ⟨hversion, hihl⟩ := ihl_byte k hk10
  obtain ⟨hdscp, hecn⟩ := dscp_ecn_byte _ h.dscp _ h.ecn
  rw [UInt8.ofNat_toNat, UInt8.ofNat_toNat] at hdscp hecn
  rw [hbytes]
  simp only [cons_append, nil_append]
  exact {
    version := hversion
    ihl := by
      rw [u8At_cons_zero, hihl]
      omega
    dscp := hdscp
    ecn := hecn
    total := by
      simp only [u16At_cons_succ, u16At_head]
      exact htotal
    identification := by simp
    flagsFragment := by simp
    timeToLive := by simp
    protocol := by simp
    source := by simp
    destination := by simp }

/-! ### From the packet to its bytes and back -/

private theorem Ipv4Packet.Valid.flags_read (h : p.Valid) :
    decide (p.flagsFragment &&& 0x4000 ≠ 0) = p.dontFragment ∧ decide (p.flagsFragment &&& 0x2000 ≠ 0) =
    p.moreFragments ∧
      p.flagsFragment &&& ipv4MaxFragmentOffset = p.fragmentOffset ∧ p.flagsFragment &&& 0x8000 = 0 := by
  have hoffset := h.offset
  have hvalue := h.flagsFragment_toNat
  have hdont : p.flagsFragment &&& 0x4000 = 0 ↔ p.dontFragment = false := by
    rw [u16_and_bit_eq_zero (k := 14) rfl, hvalue]
    cases p.dontFragment <;> cases p.moreFragments <;> simp <;> omega
  have hmore : p.flagsFragment &&& 0x2000 = 0 ↔ p.moreFragments = false := by
    rw [u16_and_bit_eq_zero (k := 13) rfl, hvalue]
    cases p.dontFragment <;> cases p.moreFragments <;> simp <;> omega
  refine ⟨by simp [hdont], by simp [hmore], ?_, ?_⟩
  · rw [← UInt16.toNat_inj, u16_and_mask (k := 13) rfl, hvalue]
    split <;> split <;> omega
  · rw [u16_and_bit_eq_zero (k := 15) rfl, hvalue]
    split <;> split <;> omega

private theorem scanIpv4Options_reserved {left : Nat} {options : Bytes} {conformance : Ipv4Conformance}
    (h : scanIpv4Options left options = .ok conformance) : conformance.reservedFlagSet = false := by
  induction left generalizing options with
  | zero =>
    cases options <;> cases h <;> rfl
  | succ left ih =>
    cases options with
    | nil =>
      cases h
      rfl
    | cons kind rest =>
      rw [scanIpv4Options.eq_def] at h
      dsimp only at h
      split at h
      · cases h
        rfl
      split at h
      · exact ih h
      split at h
      · cases h
      · exact ih (ite_error_eq_ok.mp h).2

private theorem ipv4OptionsAreCanonical_iff (options : Bytes) :
    ipv4OptionsAreCanonical options = true ↔ validateIpv4Options options = .ok ⟨false, false⟩ := by
  unfold ipv4OptionsAreCanonical
  cases h : validateIpv4Options options with
  | error error => simp
  | ok conformance =>
    have hreserved := scanIpv4Options_reserved h
    obtain ⟨reserved, padding⟩ := conformance
    cases hreserved
    cases padding <;> simp [Ipv4Conformance.isCanonical]

theorem Ipv4Packet.Valid.parse_encode (h : p.Valid) :
    ∃ r, parseIpv4Packet p.encodeIpv4 .strict = .ok r ∧ r.toPacket = p ∧ r.fragment = p.fragmentState ∧
      r.conformance.isCanonical = true ∧ r.complete = true ∧ r.trailing = [] := by
  obtain ⟨checksum, hencode, hvalid⟩ : ∃ checksum, p.encodeIpv4 = p.header checksum ++ p.payload ∧
      validateInternetChecksum (p.header checksum) = true :=
    ⟨_, rfl, validateInternetChecksum_of_filled (by rw [p.length_headerFront]) rfl (.inl rfl)⟩
  have hread := h.reads checksum p.payload
  obtain ⟨hdont, hmore, hoffset, hreserved⟩ := h.flags_read
  have hlength := h.length
  have hheader := p.length_header checksum
  rw [hencode]
  generalize hinput : p.header checksum ++ p.payload = input at hread
  have htotal : input.length = 20 + p.options.length + p.payload.length := by
    rw [← hinput, length_append, hheader]
  have hheaderLength : ipv4HeaderLength input = 20 + p.options.length := hread.ihl
  have htotalLength : ipv4TotalLength input = input.length := by rw [htotal]; exact hread.total
  have hcut : input.take (20 + p.options.length) = p.header checksum := by
    rw [← hinput]
    exact take_left' hheader
  have hoptions : ipv4Options input = p.options := by
    rw [ipv4Options, hheaderLength, hcut]
    have hsplit : p.header checksum =
        (p.headerFront ++ (be16 checksum ++ (ipv4Octets p.source ++ ipv4Octets p.destination))) ++ p.options := by
      simp [header, headerBack]
    rw [hsplit]
    exact drop_left' (by simp [p.length_headerFront, ipv4MinHeaderLength])
  have hpayload : (input.take (min input.length (ipv4TotalLength input))).drop (ipv4HeaderLength input) =
    p.payload := by
    rw [htotalLength, Nat.min_self, take_length, hheaderLength, ← hinput]
    exact drop_left' hheader
  have haccepts : Ipv4Accepts input .strict ⟨false, false⟩ := {
    limit := by unfold maxIpPacketLength; omega
    minimum := by unfold ipv4MinHeaderLength; omega
    version := hread.version
    ihl := by have := hread.ihl; omega
    header := by omega
    declared := by omega
    complete := fun _ => Nat.le_of_eq htotalLength
    checksum := by rw [hheaderLength, hcut]; exact hvalid
    options := by rw [hoptions]; exact (ipv4OptionsAreCanonical_iff _).mp h.options
    flags := by
      intro hset
      rw [hread.flagsFragment] at hset ⊢
      obtain ⟨hmore', hoffset'⟩ := h.flags (hdont ▸ decide_eq_true hset)
      rw [hmore'] at hmore
      exact ⟨by simpa using hmore, hoffset.trans hoffset'⟩
    fragments := by
      intro hset
      rw [hread.flagsFragment] at hset
      have hrest := h.fragments (hmore ▸ decide_eq_true hset)
      rw [htotalLength, hheaderLength]
      omega }
  refine ⟨_, parseIpv4Packet_eq_ok_iff.mpr ⟨_, haccepts, rfl⟩, ?_, ?_, ?_, ?_, ?_⟩
  · simp only [ParsedIpv4Packet.toPacket, ipv4Fields, hread.dscp, hread.ecn, hread.identification,
      hread.flagsFragment, hread.timeToLive, hread.protocol, hread.source, hread.destination, hoptions, hpayload,
      hdont, hmore, hoffset]
  · simp only [ipv4Fields, ipv4Fragment, hread.flagsFragment, hmore, hoffset, fragmentState]
  · simp [ipv4Fields, hread.flagsFragment, hreserved, Ipv4Conformance.isCanonical]
  · simp [ipv4Fields, htotalLength]
  · simp [ipv4Fields, htotalLength]

/-! ### From the bytes to the packet and back -/

private theorem rebuilt_first : ∀ b : UInt8, b >>> 4 = 4 → 0x40 ||| UInt8.ofNat ((b &&& 0x0f).toNat * 4 / 4) = b :=
  forall_byte (by decide +kernel)

private theorem rebuilt_second : ∀ b : UInt8, ((b >>> 2) <<< 2) ||| (b &&& 0x03) = b :=
  forall_byte (by decide +kernel)

private theorem dscp_le : ∀ b : UInt8, (b >>> 2).toNat ≤ 63 ∧ (b &&& 0x03).toNat ≤ 3 :=
  forall_byte (by decide +kernel)

private theorem first_pos : ∀ b : UInt8, b >>> 4 = 4 → 0 < b.toNat := forall_byte (by decide +kernel)

/-- The flags and the offset that are read give the field again, if the reserved flag is clear. -/
private theorem rebuilt_flags {v : UInt16} (hreserved : v &&& 0x8000 = 0) :
    (if decide (v &&& 0x4000 ≠ 0) then (0x4000 : UInt16) else 0) |||
      (if decide (v &&& 0x2000 ≠ 0) then 0x2000 else 0) ||| (v &&& ipv4MaxFragmentOffset) = v := by
  have hlt := v.toNat_lt
  rw [u16_and_bit_eq_zero (k := 15) rfl] at hreserved
  simp only [ne_eq, u16_and_bit_eq_zero (show (0x4000 : UInt16).toNat = 2 ^ 14 from rfl),
    u16_and_bit_eq_zero (show (0x2000 : UInt16).toNat = 2 ^ 13 from rfl), decide_eq_true_eq]
  have hdont : (if ¬ v.toNat / 2 ^ 14 % 2 = 0 then (0x4000 : UInt16) else 0).toNat =
    v.toNat / 2 ^ 14 % 2 * 2 ^ 14 := by
    split
    · change 2 ^ 14 = _
      omega
    · change 0 = _
      omega
  have hmore : (if ¬ v.toNat / 2 ^ 13 % 2 = 0 then (0x2000 : UInt16) else 0).toNat =
    v.toNat / 2 ^ 13 % 2 * 2 ^ 13 := by
    split
    · change 2 ^ 13 = _
      omega
    · change 0 = _
      omega
  rw [← UInt16.toNat_inj, UInt16.toNat_or, UInt16.toNat_or, hdont, hmore, u16_and_mask (k := 13) rfl,
    lor_eq_add (a := v.toNat / 2 ^ 14 % 2 * 2 ^ 14) 14 (by omega) (by omega), lor_eq_add 13 (by omega) (by omega)]
  omega

section Rebuild

variable {x : Bytes} {conformance : Ipv4Conformance}

private theorem Ipv4Accepts.header_bounds {mode : ParseMode} (h : Ipv4Accepts x mode conformance) :
    20 ≤ ipv4HeaderLength x ∧ ipv4HeaderLength x ≤ 60 ∧ ipv4HeaderLength x % 4 = 0 := by
  have hfive := h.ihl
  have hihl : (u8At x 0 &&& 0x0f).toNat ≤ 15 := by
    rw [UInt8.toNat_and]
    exact Nat.and_le_right
  unfold ipv4HeaderLength
  omega

private theorem Ipv4Accepts.length_options {mode : ParseMode} (h : Ipv4Accepts x mode conformance) :
    (ipv4Options x).length = ipv4HeaderLength x - 20 := by
  rw [ipv4Options, length_drop, length_take, Nat.min_eq_left h.header]
  rfl

variable (h : Ipv4Accepts x .strict conformance)

include h

private theorem Ipv4Accepts.length_payload :
    (ipv4Fields x conformance).payload.length = ipv4TotalLength x - ipv4HeaderLength x := by
  have hcomplete := h.complete rfl
  simp only [ipv4Fields, length_drop, length_take]
  omega

private theorem Ipv4Accepts.valid (hcanonical : (ipv4Fields x conformance).conformance.isCanonical = true) :
    (ipv4Fields x conformance).toPacket.Valid := by
  obtain ⟨hmin, hmax, hwords⟩ := h.header_bounds
  have hoptions := h.length_options
  have hpayload := h.length_payload
  have hdeclared := h.declared
  have htotal : ipv4TotalLength x < 65536 := (u16At x 2).toNat_lt
  have hconformance : conformance = ⟨false, false⟩ := by
    obtain ⟨reserved, padding⟩ := conformance
    simp [ipv4Fields, Ipv4Conformance.isCanonical] at hcanonical
    simp [hcanonical]
  exact {
    dscp := (dscp_le _).1
    ecn := (dscp_le _).2
    optionsLength := by change (ipv4Options x).length ≤ 40; omega
    optionsWords := by change (ipv4Options x).length % 4 = 0; omega
    options := (ipv4OptionsAreCanonical_iff _).mpr (hconformance ▸ h.options)
    offset := by
      change (u16At x 6 &&& ipv4MaxFragmentOffset).toNat ≤ 8191
      rw [u16_and_mask (k := 13) rfl]
      omega
    flags := by
      intro hdont
      obtain ⟨hmore, hoffset⟩ := h.flags (of_decide_eq_true hdont)
      exact ⟨decide_eq_false (not_not.mpr hmore), hoffset⟩
    fragments := by
      intro hmore
      have hrest := h.fragments (of_decide_eq_true hmore)
      change (ipv4Fields x conformance).payload.length % 8 = 0
      rw [hpayload, hrest]
    length := by
      change 20 + (ipv4Options x).length + (ipv4Fields x conformance).payload.length ≤ 65535
      omega }

private theorem Ipv4Accepts.headerFront_eq (hreserved : u16At x 6 &&& 0x8000 = 0) :
    (ipv4Fields x conformance).toPacket.headerFront = field x 0 10 := by
  have hlong : 20 ≤ x.length := h.minimum
  obtain ⟨hmin, hmax, hwords⟩ := h.header_bounds
  have hoptions := h.length_options
  have hpayload := h.length_payload
  have hdeclared := h.declared
  have htotal : ipv4TotalLength x < 65536 := (u16At x 2).toNat_lt
  have hheaderLength : ipv4MinHeaderLength + (ipv4Fields x conformance).toPacket.options.length =
    ipv4HeaderLength x := by
    change 20 + (ipv4Options x).length = _
    omega
  have htotalLength : ipv4HeaderLength x + (ipv4Fields x conformance).toPacket.payload.length =
    ipv4TotalLength x := by
    change _ + (ipv4Fields x conformance).payload.length = _
    omega
  have hfirst : 0x40 ||| UInt8.ofNat (ipv4HeaderLength x / 4) = u8At x 0 := rebuilt_first _ h.version
  have hlength : UInt16.ofNat (ipv4TotalLength x) = u16At x 2 := UInt16.ofNat_toNat
  have hflags : (ipv4Fields x conformance).toPacket.flagsFragment = u16At x 6 := rebuilt_flags hreserved
  have hsecond : ((ipv4Fields x conformance).toPacket.dscp <<< 2) |||
    (ipv4Fields x conformance).toPacket.ecn = u8At x 1 :=
    rebuilt_second _
  simp only [Ipv4Packet.headerFront, hheaderLength, htotalLength,
    if_pos (show ipv4HeaderLength x / 4 ≤ 255 by omega), if_pos (show ipv4TotalLength x ≤ 65535 by omega), hfirst,
    hlength, hflags, hsecond]
  change [u8At x 0] ++ ([u8At x 1] ++ (be16 (u16At x 2) ++ be16 (u16At x 4) ++ be16 (u16At x 6) ++
    ([u8At x 8] ++ [u8At x 9]))) = _
  simp (disch := omega) only [be16_u16At, singleton_u8At, append_assoc]
  rw [← field_add, ← field_add, ← field_add, ← field_add, ← field_add, ← field_add]

private theorem Ipv4Accepts.headerBack_eq :
    (ipv4Fields x conformance).toPacket.headerBack = field x 12 (ipv4HeaderLength x - 12) := by
  have hlong : 20 ≤ x.length := h.minimum
  obtain ⟨hmin, -, -⟩ := h.header_bounds
  have hoptions : ipv4Options x = field x 20 (ipv4HeaderLength x - 20) := by
    rw [ipv4Options, drop_take]
    rfl
  change ipv4Octets (ipv4At x 12) ++ (ipv4Octets (ipv4At x 16) ++ ipv4Options x) = _
  rw [ipv4Octets_ipv4At (by omega), ipv4Octets_ipv4At (by omega), hoptions,
    show ipv4HeaderLength x - 12 = 4 + (4 + (ipv4HeaderLength x - 20)) by omega, field_add, field_add]

/-- A packet that parses completely and canonically, without bytes behind it, is built again from its fields. -/
private theorem Ipv4Accepts.rebuilt (hcanonical : (ipv4Fields x conformance).conformance.isCanonical = true)
    (htrailing : (ipv4Fields x conformance).trailing = []) :
    EqualUpToZeroChecksum x (ipv4Fields x conformance).toPacket.encodeIpv4 := by
  have hlong : 20 ≤ x.length := h.minimum
  obtain ⟨hmin, -, -⟩ := h.header_bounds
  have hcomplete := h.complete rfl
  have hreserved : u16At x 6 &&& 0x8000 = 0 := by
    simp [ipv4Fields, Ipv4Conformance.isCanonical] at hcanonical
    exact hcanonical.1.2
  have hend : x.length = ipv4TotalLength x := by
    simp only [ipv4Fields, ge_iff_le, hcomplete, decide_true, if_true, drop_eq_nil_iff] at htrailing
    omega
  have hpayload : (ipv4Fields x conformance).toPacket.payload = x.drop (ipv4HeaderLength x) := by
    change (x.take (min x.length (ipv4TotalLength x))).drop _ = _
    rw [← hend, Nat.min_self, take_length]
  have hfront := h.headerFront_eq hreserved
  have hback := h.headerBack_eq
  -- the header around its checksum
  have hheader : x.take (ipv4HeaderLength x) =
      field x 0 10 ++ (be16 (u16At x 10) ++ field x 12 (ipv4HeaderLength x - 12)) := by
    rw [be16_u16At (by omega), ← field_add, show 2 + (ipv4HeaderLength x - 12) = ipv4HeaderLength x - 10 by omega,
      ← field_add x 0 10, show 10 + (ipv4HeaderLength x - 10) = ipv4HeaderLength x by omega]
    rfl
  have hsplit : x = field x 0 10 ++ (be16 (u16At x 10) ++ (field x 12 (ipv4HeaderLength x - 12) ++
      x.drop (ipv4HeaderLength x))) := by
    conv_lhs => rw [← take_append_drop (ipv4HeaderLength x) x, hheader]
    simp
  have hpos : 0 < wordSum (field x 0 10) := by
    have hbyte := first_pos _ h.version
    obtain ⟨a, b, rest, rfl⟩ : ∃ a b rest, x = a :: b :: rest := by
      match x, hlong with
      | a :: b :: rest, _ => exact ⟨a, b, rest, rfl⟩
    change 0 < a.toNat * 256 + b.toNat + wordSum (rest.take 8)
    change 0 < a.toNat at hbyte
    omega
  have hchecksum := h.checksum
  rw [hheader] at hchecksum
  have hlength : (field x 0 10).length = 10 := length_field (by omega)
  have hencode : (ipv4Fields x conformance).toPacket.encodeIpv4 = field x 0 10 ++
      (be16 (computeInternetChecksum (field x 0 10 ++ ([0, 0] ++ field x 12 (ipv4HeaderLength x - 12)))) ++
        (field x 12 (ipv4HeaderLength x - 12) ++ x.drop (ipv4HeaderLength x))) := by
    rw [Ipv4Packet.encodeIpv4, hfront, hback, hpayload]
    simp
  rw [hencode]
  rcases computeInternetChecksum_of_valid (by rw [hlength]) hpos hchecksum with heq | ⟨hones, hzero⟩
  · left
    rw [heq]
    exact hsplit
  right
  rw [hones] at hsplit
  rw [hzero]
  exact ⟨_, _, hlength, hsplit, rfl⟩

end Rebuild

/-- The two directions of the codec: what is built parses back to its fields, and what parses canonically, with
nothing missing and nothing behind it, is built from its fields. -/
theorem ipv4_round_trip :
    (∀ (p : Ipv4Packet) (bytes : Bytes), p.build = .ok bytes →
      ∃ r, parseIpv4Packet bytes .strict = .ok r ∧ r.toPacket = p ∧ r.fragment = p.fragmentState ∧
        r.conformance.isCanonical = true ∧ r.complete = true ∧ r.trailing = []) ∧
    (∀ (x : Bytes) (r : ParsedIpv4Packet), parseIpv4Packet x .strict = .ok r → r.complete = true →
      r.conformance.isCanonical = true → r.trailing = [] →
      ∃ bytes, r.toPacket.build = .ok bytes ∧ EqualUpToZeroChecksum x bytes) := by
  constructor
  · intro p bytes hbuild
    obtain ⟨hvalid, rfl⟩ := Ipv4Packet.build_eq_ok_iff.mp hbuild
    exact hvalid.parse_encode
  intro x r hparse _ hcanonical htrailing
  obtain ⟨conformance, haccepts, rfl⟩ := parseIpv4Packet_eq_ok_iff.mp hparse
  exact ⟨_, Ipv4Packet.build_eq_ok_iff.mpr ⟨haccepts.valid hcanonical, rfl⟩, haccepts.rebuilt hcanonical htrailing⟩

/-- A first fragment with a word of options. -/
def Ipv4Packet.fragmentWithOptions : Ipv4Packet where
  dscp := 10
  ecn := 1
  identification := 0x1234
  dontFragment := false
  moreFragments := true
  fragmentOffset := 0
  timeToLive := 64
  protocol := 17
  source := 0x0a000001
  destination := 0x0a000002
  options := [1, 1, 1, 0]
  payload := [1, 2, 3, 4, 5, 6, 7, 8]

/-- A header whose checksum of zero is written as all ones. -/
def onesChecksumHeader : Bytes :=
  [0x45, 0, 0, 20, 0, 0, 0x40, 0, 0x40, 0x11, 0xff, 0xff, 10, 0, 0, 1, 0x30, 0xd8, 0, 1]

theorem ipv4_round_trip_examples :
    (∃ r, parseIpv4Packet Ipv4Packet.fragmentWithOptions.encodeIpv4 .strict = .ok r ∧
      r.toPacket = Ipv4Packet.fragmentWithOptions ∧ r.fragment = .first true ∧ r.conformance.isCanonical = true ∧
      r.complete = true ∧ r.trailing = []) ∧
    ∃ bytes, (ipv4Fields onesChecksumHeader ⟨false, false⟩).toPacket.build = .ok bytes ∧
      EqualUpToZeroChecksum onesChecksumHeader bytes :=
  ⟨ipv4_round_trip.1 _ _ (by decide +kernel),
    ipv4_round_trip.2 _ (ipv4Fields onesChecksumHeader ⟨false, false⟩) (by decide +kernel) (by decide +kernel)
      (by decide +kernel) (by decide +kernel)⟩

end NodeNet.Protocols
