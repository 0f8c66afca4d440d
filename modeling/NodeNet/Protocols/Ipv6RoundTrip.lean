import NodeNet.Protocols.Truncation

/-!
# IPv6 packets, there and back

The builder names each extension in the header before it, and the parser finds the extensions by these names.  The
bytes of one extension are read back as that extension (`parseExtension_encodeExtension`), and the walk over all of
them ends where the builder put the payload, unless the protocol of the payload names one more extension
(`Ipv6Packet.parsed_as_built_iff`).
-/

namespace NodeNet.Protocols

open List

/-! ### One extension -/

theorem isExtension_protocol (e : Ipv6Extension) : isExtension e.protocol = true := by
  cases e <;> rfl

variable {e : Ipv6Extension} {length : Nat}

private theorem encodedBytes_of_ok (h : e.encodedLength = .ok length) : Ipv6Packet.encodedBytes [e] = length := by
  simp [Ipv6Packet.encodedBytes, h]

private theorem fragment_word {offsetUnits : UInt16} (more : Bool) (h : offsetUnits.toNat ≤ 8191) :
    ((offsetUnits <<< 3) ||| (if more then 1 else 0)).toNat = offsetUnits.toNat * 8 + (if more then 1 else 0) := by
  have hshift : (offsetUnits <<< 3).toNat = offsetUnits.toNat * 8 := by
    rw [UInt16.toNat_shiftLeft, Nat.shiftLeft_eq]
    exact Nat.mod_eq_of_lt (by change _ * 2 ^ 3 < 2 ^ 16; omega)
  have hflag : (if more then (1 : UInt16) else 0).toNat = if more then 1 else 0 := by
    split <;> rfl
  rw [UInt16.toNat_or, hshift, hflag, lor_eq_add 3 (by split <;> omega) (by omega)]

private theorem fragment_read {offsetUnits : UInt16} (more : Bool) (h : offsetUnits.toNat ≤ 8191) :
    ((offsetUnits <<< 3) ||| (if more then 1 else 0)) &&& 0x0006 = 0 ∧
      ((offsetUnits <<< 3) ||| (if more then 1 else 0)) >>> 3 = offsetUnits ∧
      decide (((offsetUnits <<< 3) ||| (if more then 1 else 0)) &&& 1 ≠ 0) = more := by
  have hvalue := fragment_word more h
  generalize (offsetUnits <<< 3) ||| (if more then 1 else 0) = word at hvalue
  refine ⟨?_, ?_, ?_⟩
  · have hlow : word.toNat &&& 6 = (word.toNat % 8) &&& 6 := by
      rw [← Nat.and_two_pow_sub_one_eq_mod word.toNat 3, Nat.and_assoc]
      rfl
    rw [← UInt16.toNat_inj, UInt16.toNat_and]
    change word.toNat &&& 6 = 0
    have hmod : (offsetUnits.toNat * 8 + if more then 1 else 0) % 8 = if more then 1 else 0 := by split <;> omega
    rw [hlow, hvalue, hmod]
    cases more <;> rfl
  · rw [← UInt16.toNat_inj, UInt16.toNat_shiftRight, hvalue, Nat.shiftRight_eq_div_pow]
    change _ / 2 ^ 3 = _
    split <;> omega
  have hzero : word &&& 1 = 0 ↔ more = false := by
    rw [u16_and_bit_eq_zero (k := 0) rfl, hvalue]
    cases more <;> simp <;> omega
  simp [hzero]

/-- The bytes that an extension is written to: as many as it says, behind the protocol that follows it. -/
private theorem encodeExtension_spec (next : UInt8) (h : e.encodedLength = .ok length)
    (hlength : length ≤ maxIpv6ExtensionBytes) :
    (Ipv6Packet.encodeExtension e next).length = length ∧ 2 ≤ length ∧ u8At
    (Ipv6Packet.encodeExtension e next) 0 = next ∧
      extensionLength e.protocol (u8At (Ipv6Packet.encodeExtension e next) 1) = length ∧
      extensionOf e.protocol (Ipv6Packet.encodeExtension e next) = some e := by
  have hbytes := encodedBytes_of_ok h
  unfold maxIpv6ExtensionBytes at hlength
  cases e with
  | hopByHopOptions options | destinationOptions options =>
    obtain ⟨hvalid, h⟩ := ite_error_eq_ok.mp h
    cases h
    simp only [not_or, Bool.not_eq_true', Bool.not_eq_false] at hvalid
    simp only [Ipv6Packet.encodeExtension, hbytes]
    refine ⟨by simp, by omega, rfl, ?_, if_pos hvalid.2.2⟩
    change ((Ipv6Packet.octetOrZero _).toNat + 1) * 8 = _
    rw [Ipv6Packet.octetOrZero_toNat (by omega)]
    omega
  | routing routingType segmentsLeft data =>
    obtain ⟨hvalid, h⟩ := ite_error_eq_ok.mp h
    cases h
    simp only [Ipv6Packet.encodeExtension, hbytes]
    refine ⟨by simp, by omega, rfl, ?_, rfl⟩
    change ((Ipv6Packet.octetOrZero _).toNat + 1) * 8 = _
    rw [Ipv6Packet.octetOrZero_toNat (by omega)]
    omega
  | fragment offsetUnits moreFragments identification =>
    obtain ⟨hvalid, h⟩ := ite_error_eq_ok.mp h
    cases h
    have hoffset : offsetUnits.toNat ≤ 8191 := UInt16.le_iff_toNat_le.mp (UInt16.not_lt.mp hvalid)
    obtain ⟨hreserved, hread, hmore⟩ := fragment_read moreFragments hoffset
    simp only [Ipv6Packet.encodeExtension, cons_append]
    refine ⟨by simp, by omega, rfl, rfl, ?_⟩
    change (if _ then some (Ipv6Extension.fragment _ _ _) else none) = _
    simp only [u8At_cons_succ, u8At_cons_zero, u16At_cons_succ, u16At_head, u32At_cons_succ]
    rw [if_pos ⟨trivial, hreserved⟩, hread, hmore]
    simp
  | authentication securityParametersIndex sequenceNumber authenticationData =>
    obtain ⟨hvalid, h⟩ := ite_error_eq_ok.mp h
    cases h
    simp only [Ipv6Packet.encodeExtension, hbytes, cons_append, append_assoc]
    refine ⟨by simp; omega, by omega, rfl, ?_, ?_⟩
    · change ((Ipv6Packet.octetOrZero _).toNat + 2) * 4 = _
      rw [Ipv6Packet.octetOrZero_toNat (by omega)]
      omega
    simp +decide only [extensionOf, Ipv6Extension.protocol, reduceIte]
    rw [if_pos ⟨by simp; omega, rfl, rfl⟩]
    simp
    rw [← append_assoc]
    exact drop_left' (by simp)

/-- An extension that was written is read back, with what was written behind it. -/
theorem parseExtension_encodeExtension (next : UInt8) (rest : Bytes) (h : e.encodedLength = .ok length)
    (hlength : length ≤ maxIpv6ExtensionBytes) :
    parseExtension e.protocol (Ipv6Packet.encodeExtension e next ++ rest) = .ok (e, next, length) := by
  obtain ⟨hencoded, htwo, hnext, hdeclared, hmeaning⟩ := encodeExtension_spec next h hlength
  have hcut : (Ipv6Packet.encodeExtension e next ++ rest).take length = Ipv6Packet.encodeExtension e next :=
    take_left' hencoded
  have hread : ∀ i < length, u8At (Ipv6Packet.encodeExtension e next ++ rest) i =
    u8At (Ipv6Packet.encodeExtension e next) i := by
    intro i hi
    rw [← u8At_take hi, hcut]
  refine (parseExtension_eq_ok_iff (isExtension_protocol e)).mpr ⟨?_, ?_, ?_, ?_⟩
  · rw [hread 1 (by omega), hdeclared]
  · rw [hread 0 (by omega), hnext]
  · rw [length_append, hencoded]
    omega
  · rw [hcut, hmeaning]

/-! ### Fragment headers among the extensions -/

private theorem ExtensionOrder.observe_fragment (o : ExtensionOrder) (protocol : UInt8) (index : Nat) :
    (o.observe protocol index).fragment = (if protocol = fragmentHeader then o.fragment + 1 else o.fragment) ∧
      (o.observe protocol index).issues.duplicateFragment =
        (o.issues.duplicateFragment || decide (protocol = fragmentHeader ∧ 0 < o.fragment)) := by
  unfold observe
  iterate 4
    split
    next hprotocol => simp +decide [hprotocol]
  next hfragment =>
  split <;> simp [hfragment]

open Ipv6Packet (Survey surveyExtensions encodedBytes encodeExtensions)

/-- The state of the survey behind one more extension. -/
private def surveyStep (index : Nat) (e : Ipv6Extension) (length : Nat) (s : Survey) : Survey where
  order := s.order.observe e.protocol index
  extensionBytes := s.extensionBytes + length
  fragment := match e with
    | .fragment offsetUnits moreFragments _ => some (index, offsetUnits, moreFragments)
    | _ => s.fragment

variable {index : Nat} {s s' : Survey}

private theorem surveyExtensions_cons {rest : List Ipv6Extension}
    (h : surveyExtensions index (e :: rest) s = .ok s') :
    ∃ length, e.encodedLength = .ok length ∧ s.extensionBytes + length ≤ maxIpv6ExtensionBytes ∧
      surveyExtensions (index + 1) rest (surveyStep index e length s) = .ok s' := by
  unfold surveyExtensions at h
  dsimp only at h
  split at h
  · cases h
  next length hlength =>
  obtain ⟨hbytes, h⟩ := ite_error_eq_ok.mp h
  exact ⟨length, hlength, Nat.le_of_not_lt hbytes, h⟩

variable {extensions : List Ipv6Extension}

/-- A second fragment header is never forgotten. -/
private theorem surveyExtensions_duplicate (h : surveyExtensions index extensions s = .ok s')
    (hs : s.order.issues.duplicateFragment = true) : s'.order.issues.duplicateFragment = true := by
  induction extensions generalizing index s with
  | nil =>
    cases h
    exact hs
  | cons e rest ih =>
    obtain ⟨length, -, -, hrest⟩ := surveyExtensions_cons h
    refine ih hrest ?_
    change (s.order.observe e.protocol index).issues.duplicateFragment = true
    rw [(ExtensionOrder.observe_fragment ..).2, hs, Bool.true_or]

/-- Behind a fragment header, no other one follows in a canonical order. -/
private theorem surveyExtensions_fragment (h : surveyExtensions index extensions s = .ok s')
    (hs : 0 < s.order.fragment) (hcanonical : s'.order.issues.duplicateFragment = false) :
    s'.fragment = s.fragment := by
  induction extensions generalizing index s with
  | nil =>
    cases h
    rfl
  | cons e rest ih =>
    obtain ⟨length, -, -, hrest⟩ := surveyExtensions_cons h
    have hobserve := ExtensionOrder.observe_fragment s.order e.protocol index
    by_cases hfragment : e.protocol = fragmentHeader
    · have hduplicate : (surveyStep index e length s).order.issues.duplicateFragment = true := by
        change (s.order.observe e.protocol index).issues.duplicateFragment = true
        rw [hobserve.2, decide_eq_true ⟨hfragment, hs⟩, Bool.or_true]
      rw [surveyExtensions_duplicate hrest hduplicate] at hcanonical
      cases hcanonical
    have hstep : 0 < (surveyStep index e length s).order.fragment := by
      change 0 < (s.order.observe e.protocol index).fragment
      rw [hobserve.1, if_neg hfragment]
      exact hs
    rw [ih hrest hstep]
    cases e with
    | fragment => exact absurd rfl hfragment
    | _ => rfl

/-! ### The walk over what was written -/

private theorem encodedBytes_append (a b : List Ipv6Extension) :
    encodedBytes (a ++ b) = encodedBytes a + encodedBytes b := by
  simp [encodedBytes]

/-- The walk of the parser and the survey of the builder have seen the same extensions. -/
private structure Agrees (w : ExtensionWalk) (s : Survey) : Prop where
  order : w.order = s.order
  bytes : w.extensionBytes = s.extensionBytes
  cursor : w.cursor = 40 + w.extensionBytes
  encoded : w.extensionBytes = encodedBytes w.extensions
  fragment : match s.fragment with
    | none => w.fragment = .unfragmented ∧ w.fragmentPayloadStart = none
    | some (index, offset, more) => index < w.extensions.length ∧
      w.fragment = (if offset = 0 then .first more else .nonFirst offset more) ∧
      w.fragmentPayloadStart = some (40 + encodedBytes (w.extensions.take (index + 1)))

private theorem Agrees.push {w : ExtensionWalk} (h : Agrees w s) (following : UInt8)
    (hlength : e.encodedLength = .ok length) (hnext : w.nextHeader = e.protocol) :
    Agrees (w.push e following length) (surveyStep w.extensions.length e length s) := by
  have hencoded : encodedBytes (w.extensions ++ [e]) = w.extensionBytes + length := by
    rw [encodedBytes_append, encodedBytes_of_ok hlength, h.encoded]
  have hcursor := h.cursor
  refine ⟨?_, ?_, ?_, ?_, ?_⟩
  · rw [ExtensionWalk.push_order, hnext, h.order]
    rfl
  · rw [ExtensionWalk.push_extensionBytes, h.bytes]
    rfl
  · rw [ExtensionWalk.push_cursor, ExtensionWalk.push_extensionBytes]
    omega
  · rw [ExtensionWalk.push_extensionBytes, ExtensionWalk.push_extensions, hencoded]
  -- an older fragment header stays where it is, and a new one is the last extension
  have hold : (match s.fragment with
      | none => w.fragment = .unfragmented ∧ w.fragmentPayloadStart = none
      | some (index, offset, more) => index < (w.extensions ++ [e]).length ∧
        w.fragment = (if offset = 0 then .first more else .nonFirst offset more) ∧
        w.fragmentPayloadStart = some (40 + encodedBytes ((w.extensions ++ [e]).take (index + 1)))) := by
    have hfragment := h.fragment
    split at hfragment
    · exact hfragment
    obtain ⟨hindex, hstate, hstart⟩ := hfragment
    refine ⟨by rw [length_append]; omega, hstate, ?_⟩
    rw [take_append_of_le_length (by omega)]
    exact hstart
  cases e with
  | fragment offsetUnits moreFragments identification =>
    refine ⟨by simp, rfl, ?_⟩
    change some (w.cursor + length) = _
    rw [ExtensionWalk.push_extensions, take_of_length_le (by simp), hencoded, hcursor, Nat.add_assoc]
  | _ => exact hold

variable (upperLayerProtocol : UInt8)

/-- The protocol in front of the given extensions. -/
private def protocolBefore : List Ipv6Extension → UInt8
  | [] => upperLayerProtocol
  | e :: _ => e.protocol

private theorem encodeExtensions_cons (e : Ipv6Extension) (rest : List Ipv6Extension) :
    encodeExtensions upperLayerProtocol (e :: rest) =
      Ipv6Packet.encodeExtension e (protocolBefore upperLayerProtocol rest) ++
        encodeExtensions upperLayerProtocol rest := by
  cases rest <;> rfl

/-- The walk takes the extensions that were written.  Behind the header of a later fragment it stops, and behind
the last extension it goes on with the protocol of the payload. -/
private theorem walkExtensions_encodeExtensions {upperLayerProtocol : UInt8} {payload input : Bytes}
    {extensions : List Ipv6Extension} {left : Nat} {w : ExtensionWalk} {s s' : Survey}
    (hsurvey : surveyExtensions w.extensions.length extensions s = .ok s') (hagrees : Agrees w s)
    (hleft : extensions.length ≤ left)
    (hinput : input.drop w.cursor = encodeExtensions upperLayerProtocol extensions ++ payload)
    (hnext : w.nextHeader = protocolBefore upperLayerProtocol extensions)
    (hcanonical : s'.order.issues.duplicateFragment = false)
    (hlast : ∀ index offset more, s'.fragment = some (index, offset, more) → offset ≠ 0 →
      index + 1 = w.extensions.length + extensions.length) :
    ∃ w', Agrees w' s' ∧ w'.extensions = w.extensions ++ extensions ∧ w'.nextHeader = upperLayerProtocol ∧
      walkExtensions input left w = if extensions.any (·.isLaterFragment) then .ok w'
        else walkExtensions input (left - extensions.length) w' := by
  induction extensions generalizing left w s with
  | nil =>
    cases hsurvey
    exact ⟨w, hagrees, (append_nil _).symm, hnext, rfl⟩
  | cons e rest ih =>
    obtain ⟨length, hlength, hbytes, hrest⟩ := surveyExtensions_cons hsurvey
    obtain ⟨left, rfl⟩ := Nat.exists_eq_add_of_le' (Nat.one_le_of_lt hleft)
    have hnext' : w.nextHeader = e.protocol := hnext
    have hext : isExtension w.nextHeader = true := by
      rw [hnext']
      exact isExtension_protocol e
    have hagrees' := hagrees.push (protocolBefore upperLayerProtocol rest) hlength hnext'
    rw [encodeExtensions_cons, append_assoc] at hinput
    have hparse : parseExtension w.nextHeader (input.drop w.cursor) =
        .ok (e, protocolBefore upperLayerProtocol rest, length) := by
      rw [hinput, hnext']
      exact parseExtension_encodeExtension _ _ hlength (by omega)
    have hwithin : ¬ w.extensionBytes + length > maxIpv6ExtensionBytes := by
      rw [hagrees.bytes]
      omega
    rw [walkExtensions_succ _ _ _ hext, hparse]
    dsimp only
    rw [if_neg hwithin]
    cases hlater : e.isLaterFragment with
    | true =>
      -- nothing follows the header of a later fragment
      have hnil : rest = [] := by
        cases e with
        | fragment offsetUnits moreFragments identification =>
          have hcount :
            0 < (surveyStep w.extensions.length (.fragment offsetUnits moreFragments identification) length
              s).order.fragment := by
            change 0 < (s.order.observe fragmentHeader w.extensions.length).fragment
            rw [(ExtensionOrder.observe_fragment ..).1, if_pos rfl]
            omega
          have hfragment := surveyExtensions_fragment hrest hcount hcanonical
          have hend := hlast w.extensions.length offsetUnits moreFragments hfragment (of_decide_eq_true hlater)
          rw [length_cons] at hend
          exact length_eq_zero_iff.mp (by omega)
        | _ => cases hlater
      subst hnil
      cases hrest
      refine ⟨_, hagrees', ExtensionWalk.push_extensions .., ExtensionWalk.push_nextHeader .., ?_⟩
      rw [if_pos rfl, any_cons, hlater, Bool.true_or, if_pos rfl]
    | false =>
      have hpush : (w.push e (protocolBefore upperLayerProtocol rest) length).extensions.length =
        w.extensions.length + 1 := by
        rw [ExtensionWalk.push_extensions, length_append, length_singleton]
      have hbehind : input.drop (w.cursor + length) = encodeExtensions upperLayerProtocol rest ++ payload := by
        rw [← drop_drop, hinput]
        exact drop_left' (encodeExtension_spec _ hlength (by omega)).1
      rw [length_cons] at hlast
      obtain ⟨w', hagree, hextensions, hupper, hwalk⟩ := ih (by rw [hpush]; exact hrest) hagrees'
        (Nat.le_of_succ_le_succ hleft) (by rw [ExtensionWalk.push_cursor, hbehind])
          (ExtensionWalk.push_nextHeader ..)
        fun index offset more hfragment hoffset => by rw [hlast index offset more hfragment hoffset, hpush]; omega
      refine ⟨w', hagree, ?_, hupper, ?_⟩
      · rw [hextensions, ExtensionWalk.push_extensions, append_assoc]
        rfl
      · rw [if_neg (by decide), hwalk, any_cons, hlater, Bool.false_or, length_cons, Nat.add_sub_add_right]

/-! ### The header -/

variable {p : Ipv6Packet}

private theorem Ipv6Packet.firstWord_toNat (h : p.flowLabel ≤ 0x000fffff) :
    p.firstWord.toNat = 6 * 2 ^ 28 + p.trafficClass.toNat * 2 ^ 20 + p.flowLabel.toNat := by
  have hflow : p.flowLabel.toNat ≤ 0x000fffff := h
  have hclass : p.trafficClass.toNat < 256 := p.trafficClass.toNat_lt
  have hshift : (p.trafficClass.toUInt32 <<< 20).toNat = p.trafficClass.toNat * 2 ^ 20 := by
    rw [UInt32.toNat_shiftLeft, UInt8.toNat_toUInt32, Nat.shiftLeft_eq]
    exact Nat.mod_eq_of_lt (by change p.trafficClass.toNat * 2 ^ 20 < 2 ^ 32; omega)
  rw [firstWord, UInt32.toNat_or, UInt32.toNat_or, hshift, show ((6 : UInt32) <<< 28).toNat = 6 * 2 ^ 28 from rfl,
    lor_eq_add 28 (by omega) (Dvd.intro_left _ rfl), lor_eq_add 20 (by omega) (by omega)]

private theorem u8At_be32 (n : UInt32) (l : Bytes) : u8At (be32 n ++ l) 0 = UInt8.ofNat (n.toNat / 2 ^ 24) := by
  simp only [be32, beBytes, nil_append, cons_append, u8At_cons_zero, Nat.div_div_eq_div_mul]
  rfl

/-- The header is forty bytes, and every field is read back from it. -/
private theorem Ipv6Packet.exists_header (hflow : p.flowLabel ≤ 0x000fffff)
    (hlength : encodedBytes p.extensions + p.payload.length ≤ 65535) :
    ∃ header : Bytes, p.encodeIpv6 = header ++ (encodeExtensions p.upperLayerProtocol p.extensions ++ p.payload) ∧
      header.length = 40 ∧ u8At p.encodeIpv6 0 >>> 4 = 6 ∧ u32At p.encodeIpv6 0 = p.firstWord ∧
        (u16At p.encodeIpv6 4).toNat = encodedBytes p.extensions + p.payload.length ∧
        u8At p.encodeIpv6 6 = p.firstProtocol ∧ u8At p.encodeIpv6 7 = p.hopLimit ∧
        ipv6At p.encodeIpv6 8 = p.source ∧ ipv6At p.encodeIpv6 24 = p.destination := by
  refine ⟨be32 p.firstWord ++ (be16 (UInt16.ofNat (encodedBytes p.extensions + p.payload.length)) ++
    ([p.firstProtocol, p.hopLimit] ++ (ipv6Octets p.source ++ ipv6Octets p.destination))), ?_, by simp, ?_⟩
  · simp only [encodeIpv6, if_pos hlength, append_assoc]
  have hversion : UInt8.ofNat (p.firstWord.toNat / 2 ^ 24) >>> 4 = 6 := by
    have hbyte : ∀ b : UInt8, 96 ≤ b.toNat → b.toNat < 112 → b >>> 4 = 6 := forall_byte (by decide +kernel)
    have hclass : p.trafficClass.toNat < 256 := p.trafficClass.toNat_lt
    have hlabel : p.flowLabel.toNat ≤ 0x000fffff := hflow
    have hfirst := p.firstWord_toNat hflow
    have hvalue : (UInt8.ofNat (p.firstWord.toNat / 2 ^ 24)).toNat = p.firstWord.toNat / 2 ^ 24 := by
      rw [UInt8.toNat_ofNat']
      exact Nat.mod_eq_of_lt (by omega)
    exact hbyte _ (by omega) (by omega)
  simp only [encodeIpv6, if_pos hlength, cons_append, nil_append]
  refine ⟨by rw [u8At_be32, hversion], ?_, ?_, ?_, ?_, ?_, ?_⟩ <;> simp
  omega

private theorem Ipv6Packet.trafficClass_firstWord (h : p.flowLabel ≤ 0x000fffff) :
    UInt8.ofNat ((p.firstWord >>> 20) &&& 0xff).toNat = p.trafficClass := by
  have hflow : p.flowLabel.toNat ≤ 0x000fffff := h
  have hclass : p.trafficClass.toNat < 256 := p.trafficClass.toNat_lt
  have hvalue : ((p.firstWord >>> 20) &&& 0xff).toNat = p.trafficClass.toNat := by
    rw [UInt32.toNat_and, UInt32.toNat_shiftRight, Ipv6Packet.firstWord_toNat h,
      show (0xff : UInt32).toNat = 2 ^ 8 - 1 from rfl, Nat.and_two_pow_sub_one_eq_mod,
      show (20 : UInt32).toNat % 32 = 20 from rfl, Nat.shiftRight_eq_div_pow]
    omega
  rw [hvalue, UInt8.ofNat_toNat]

private theorem Ipv6Packet.flowLabel_firstWord (h : p.flowLabel ≤ 0x000fffff) :
    p.firstWord &&& 0x000fffff = p.flowLabel := by
  have hflow : p.flowLabel.toNat ≤ 0x000fffff := h
  rw [← UInt32.toNat_inj, UInt32.toNat_and, Ipv6Packet.firstWord_toNat h,
    show (0x000fffff : UInt32).toNat = 2 ^ 20 - 1 from rfl, Nat.and_two_pow_sub_one_eq_mod]
  omega

/-! ### Building and parsing -/

/-- What the builder asks of a packet whose extensions it has surveyed. -/
private structure Ipv6Packet.Built (p : Ipv6Packet) (s : Survey) : Prop where
  flowLabel : p.flowLabel ≤ 0x000fffff
  count : p.extensions.length ≤ maxIpv6ExtensionHeaderCount
  survey : surveyExtensions 0 p.extensions ⟨.default, 0, none⟩ = .ok s
  duplicateFragment : s.order.issues.duplicateFragment = false
  fragment : ∀ index offset more, s.fragment = some (index, offset, more) →
    (offset ≠ 0 → index + 1 = p.extensions.length) ∧ (more = true →
      (s.extensionBytes - encodedBytes (p.extensions.take (index + 1)) + p.payload.length) % 8 = 0)
  length : s.extensionBytes + p.payload.length ≤ 65535

private theorem Ipv6Packet.built_of_build {bytes : Bytes} (h : p.build = .ok bytes) :
    bytes = p.encodeIpv6 ∧ ∃ s, p.Built s := by
  unfold build requiredLength at h
  cases hvalid : p.validate with
  | error e =>
    rw [hvalid] at h
    cases h
  | ok extensionBytes =>
    rw [hvalid] at h
    refine ⟨?_, ?_⟩
    · split at h
      · cases h
      · exact (Except.ok.inj h).symm
    unfold validate at hvalid
    obtain ⟨hflow, hvalid⟩ := ite_error_eq_ok.mp hvalid
    obtain ⟨hcount, hvalid⟩ := ite_error_eq_ok.mp hvalid
    split at hvalid
    · cases hvalid
    next s hsurvey =>
    obtain ⟨hcanonical, hvalid⟩ := ite_error_eq_ok.mp hvalid
    obtain ⟨-, hvalid⟩ := ite_error_eq_ok.mp hvalid
    split at hvalid
    · cases hvalid
    next hfragment =>
    obtain ⟨hlength, -⟩ := ite_error_eq_ok.mp hvalid
    have hdefault : s.order.issues = .default := by simpa [Ipv6Conformance.isCanonical] using hcanonical
    have hduplicate : s.order.issues.duplicateFragment = false := by
      rw [hdefault]
      rfl
    refine ⟨s, UInt32.not_lt.mp hflow, Nat.le_of_not_lt hcount, hsurvey, hduplicate, ?_, Nat.le_of_not_lt hlength⟩
    intro index offset more hsome
    unfold validateFragment at hfragment
    rw [hsome] at hfragment
    obtain ⟨hlast, hfragment⟩ := ite_error_eq_ok.mp hfragment
    obtain ⟨height, -⟩ := ite_error_eq_ok.mp hfragment
    exact ⟨fun hoffset => by by_contra hne; exact hlast ⟨hoffset, hne⟩,
      fun hmore => by by_contra hne; exact height ⟨hmore, hne⟩⟩

private theorem length_encodeExtensions (h : surveyExtensions index extensions s = .ok s') :
    s.extensionBytes + (encodeExtensions upperLayerProtocol extensions).length = s'.extensionBytes := by
  induction extensions generalizing index s with
  | nil =>
    cases h
    rfl
  | cons e rest ih =>
    obtain ⟨length, hlength, hbytes, hrest⟩ := surveyExtensions_cons h
    have hone := (encodeExtension_spec (protocolBefore upperLayerProtocol rest) hlength (by omega)).1
    have htail : s.extensionBytes + length + (encodeExtensions upperLayerProtocol rest).length =
      s'.extensionBytes := ih hrest
    rw [encodeExtensions_cons, length_append, hone]
    omega

private theorem Ipv6Packet.Built.exists_walk (h : p.Built s) {header : Bytes} (hheader : header.length = 40) :
    ∃ w, Agrees w s ∧ w.extensions = p.extensions ∧ w.nextHeader = p.upperLayerProtocol ∧
      walkExtensions (header ++ (encodeExtensions p.upperLayerProtocol p.extensions ++ p.payload))
          maxIpv6ExtensionHeaderCount (.initial p.firstProtocol) =
        if p.extensions.any (·.isLaterFragment) then .ok w
        else walkExtensions (header ++ (encodeExtensions p.upperLayerProtocol p.extensions ++ p.payload))
          (maxIpv6ExtensionHeaderCount - p.extensions.length) w := by
  have hinitial : Agrees (.initial p.firstProtocol) ⟨.default, 0, none⟩ := ⟨rfl, rfl, rfl, rfl, rfl, rfl⟩
  have hfirst : p.firstProtocol = protocolBefore p.upperLayerProtocol p.extensions := by
    unfold firstProtocol
    cases p.extensions <;> rfl
  have hlast : ∀ index offset more, s.fragment = some (index, offset, more) → offset ≠ 0 →
      index + 1 = 0 + p.extensions.length := by
    intro index offset more hsome hoffset
    rw [(h.fragment index offset more hsome).1 hoffset, Nat.zero_add]
  exact walkExtensions_encodeExtensions (w := .initial p.firstProtocol) h.survey hinitial h.count
    (drop_left' hheader) hfirst h.duplicateFragment hlast

/-- A fragment with a successor was built to end at a multiple of eight bytes. -/
private theorem Ipv6Packet.Built.fragmentLength {w : ExtensionWalk} (h : p.Built s) (hagrees : Agrees w s)
    (hextensions : w.extensions = p.extensions) (hmore : w.fragment.hasMore = true) :
    w.fragmentLength (40 + (s.extensionBytes + p.payload.length)) % 8 = 0 := by
  have hfragment := hagrees.fragment
  split at hfragment
  · rw [hfragment.1] at hmore
    cases hmore
  next index offset more hsome =>
  obtain ⟨-, hstate, hstart⟩ := hfragment
  have hhas : more = true := by
    rw [← hmore, hstate]
    split <;> rfl
  have height := (h.fragment index offset more hsome).2 hhas
  have hsplit : encodedBytes (p.extensions.take (index + 1)) + encodedBytes (p.extensions.drop (index + 1)) =
      s.extensionBytes := by
    rw [← encodedBytes_append, take_append_drop, ← hextensions, ← hagrees.encoded, hagrees.bytes]
  rw [hextensions] at hstart
  simp only [ExtensionWalk.fragmentLength, hstart]
  rw [← height]
  congr 1
  omega

/-- What the parser reads off the bytes of a packet that was built; `w` is where its walk gets to. -/
private structure Ipv6Packet.Layout (p : Ipv6Packet) (s : Survey) (w : ExtensionWalk) : Prop where
  agrees : Agrees w s
  extensions : w.extensions = p.extensions
  nextHeader : w.nextHeader = p.upperLayerProtocol
  length : p.encodeIpv6.length = 40 + (s.extensionBytes + p.payload.length)
  version : u8At p.encodeIpv6 0 >>> 4 = 6
  word : u32At p.encodeIpv6 0 = p.firstWord
  declared : ipv6DeclaredEnd p.encodeIpv6 = p.encodeIpv6.length
  first : u8At p.encodeIpv6 6 = p.firstProtocol
  hopLimit : u8At p.encodeIpv6 7 = p.hopLimit
  source : ipv6At p.encodeIpv6 8 = p.source
  destination : ipv6At p.encodeIpv6 24 = p.destination
  payload : p.encodeIpv6.drop w.cursor = p.payload
  walk : walkExtensions p.encodeIpv6 maxIpv6ExtensionHeaderCount (.initial p.firstProtocol) =
    if p.extensions.any (·.isLaterFragment) then .ok w
    else walkExtensions p.encodeIpv6 (maxIpv6ExtensionHeaderCount - p.extensions.length) w

private theorem Ipv6Packet.Built.layout (h : p.Built s) : ∃ w, p.Layout s w := by
  have hlength := h.length
  have hcounted : 0 + (encodeExtensions p.upperLayerProtocol p.extensions).length = s.extensionBytes :=
    length_encodeExtensions p.upperLayerProtocol h.survey
  have hbytes : encodedBytes p.extensions = s.extensionBytes := by
    obtain ⟨w, hagrees, hextensions, -⟩ := h.exists_walk (length_replicate (n := 40) (a := (0 : UInt8)))
    rw [← hextensions, ← hagrees.encoded, hagrees.bytes]
  obtain ⟨header, hencode, hheader, hversion, hword, hdeclared, hfirst, hhop, hsource, hdestination⟩ :=
    exists_header h.flowLabel (by omega)
  obtain ⟨w, hagrees, hextensions, hnext, hwalk⟩ := h.exists_walk hheader
  have hinput : p.encodeIpv6.length = 40 + (s.extensionBytes + p.payload.length) := by
    rw [hencode, length_append, length_append, hheader]
    omega
  rw [← hencode] at hwalk
  refine ⟨w, hagrees, hextensions, hnext, hinput, hversion, hword, ?_, hfirst, hhop, hsource,
    hdestination, ?_, hwalk⟩
  · rw [ipv6DeclaredEnd, hdeclared, hinput, hbytes]
    rfl
  rw [hencode, ← append_assoc]
  refine drop_left' ?_
  rw [length_append, hheader, hagrees.cursor, hagrees.bytes]
  omega

private theorem Ipv6Packet.Layout.available {w : ExtensionWalk} (h : p.Layout s w) :
    ipv6Available p.encodeIpv6 = p.encodeIpv6 := by
  rw [ipv6Available, h.declared, Nat.min_self, take_length]

/-- A packet without payload has no hop-by-hop options in front. -/
private theorem Ipv6Packet.Layout.not_jumbogram {w : ExtensionWalk} (h : p.Layout s w) (hbuilt : p.Built s)
    (hends : isExtension p.upperLayerProtocol = false ∨ p.extensions.any (·.isLaterFragment) = true) :
    ¬ ((u16At p.encodeIpv6 4).toNat = 0 ∧ u8At p.encodeIpv6 6 = hopByHop) := by
  rintro ⟨hzero, hfirstHop⟩
  have hdeclared := h.declared
  rw [ipv6DeclaredEnd, h.length, hzero, ipv6HeaderLength] at hdeclared
  have hcounted := length_encodeExtensions p.upperLayerProtocol hbuilt.survey
  rw [h.first] at hfirstHop
  have hnone : p.extensions = [] := by
    cases hexts : p.extensions with
    | nil => rfl
    | cons e rest =>
      rw [hexts, encodeExtensions_cons, length_append, encodeExtension.eq_def, length_cons] at hcounted
      omega
  have hupper : p.upperLayerProtocol = hopByHop := by
    rw [← hfirstHop, firstProtocol, hnone]
  rw [hnone, hupper] at hends
  exact absurd hends (by decide)

/-- The parsed packet is the one that was built, and nothing follows it. -/
def ParsedIpv6Packet.Returns (r : ParsedIpv6Packet) (p : Ipv6Packet) : Prop :=
  r.trafficClass = p.trafficClass ∧ r.flowLabel = p.flowLabel ∧ r.hopLimit = p.hopLimit ∧ r.source = p.source ∧
    r.destination = p.destination ∧ r.extensions = p.extensions ∧
    terminalProtocolAndBytes r.upperLayer = (p.upperLayerProtocol, p.payload) ∧ r.trailing = [] ∧ r.complete = true

instance (r : ParsedIpv6Packet) (p : Ipv6Packet) : Decidable (r.Returns p) := inferInstanceAs (Decidable (_ ∧ _))

/-- A packet whose extensions end in front of the payload is parsed as itself. -/
theorem Ipv6Packet.parse_of_build {bytes : Bytes} (hbuild : p.build = .ok bytes)
    (hends : isExtension p.upperLayerProtocol = false ∨ p.extensions.any (·.isLaterFragment) = true) :
    ∃ r, parseIpv6Packet bytes .strict = .ok r ∧ r.Returns p ∧
      (p.extensions = [] → r.fragment = .unfragmented ∧ r.extensionBytes = 0) := by
  obtain ⟨rfl, s, hbuilt⟩ := built_of_build hbuild
  obtain ⟨w, hlayout⟩ := hbuilt.layout
  have hlength := hbuilt.length
  have hend : ipv6DeclaredEnd p.encodeIpv6 ≤ p.encodeIpv6.length := Nat.le_of_eq hlayout.declared
  have hwalk : walkExtensions p.encodeIpv6 maxIpv6ExtensionHeaderCount (.initial p.firstProtocol) = .ok w := by
    rw [hlayout.walk]
    split
    · rfl
    next hlater =>
    have hupper := hends.resolve_right hlater
    rw [← hlayout.nextHeader] at hupper
    exact walkExtensions_of_not_extension _ hupper
  have haccepts : Ipv6Accepts p.encodeIpv6 .strict w :=
    { limit := by rw [hlayout.length]; unfold maxIpPacketLength; omega
      minimum := by rw [hlayout.length]; exact Nat.le_add_right ..
      version := hlayout.version
      jumbogram := hlayout.not_jumbogram hbuilt hends
      complete := fun _ => hend
      walk := by rw [hlayout.available, hlayout.first, hwalk]
      fragments := fun hmore => by
        rw [hlayout.declared, hlayout.length]
        exact hbuilt.fragmentLength hlayout.agrees hlayout.extensions hmore }
  refine ⟨_, parseIpv6Packet_eq_ok_iff.mpr ⟨w, haccepts, rfl⟩, ⟨?_, ?_, hlayout.hopLimit, hlayout.source,
    hlayout.destination, hlayout.extensions, ?_, ?_, decide_eq_true hend⟩, fun hnone => ?_⟩
  · change UInt8.ofNat ((u32At p.encodeIpv6 0 >>> 20) &&& 0xff).toNat = _
    rw [hlayout.word, trafficClass_firstWord hbuilt.flowLabel]
  · change u32At p.encodeIpv6 0 &&& 0x000fffff = _
    rw [hlayout.word, flowLabel_firstWord hbuilt.flowLabel]
  · change terminalProtocolAndBytes (classifyUpperLayer _ _ _ _) = _
    rw [terminalProtocolAndBytes_classifyUpperLayer, hlayout.available, hlayout.payload, hlayout.nextHeader]
  · change (if _ then _ else _) = _
    rw [if_pos (decide_eq_true hend), hlayout.declared, drop_length]
  have hsurvey := hbuilt.survey
  rw [hnone] at hsurvey
  cases hsurvey
  exact ⟨hlayout.agrees.fragment.1, hlayout.agrees.bytes⟩

/-- A packet that is built is parsed as itself exactly if its payload is not announced as a further extension, or
the header of a later fragment ends the extensions in front of it. -/
theorem Ipv6Packet.parsed_as_built_iff {p : Ipv6Packet} {bytes : Bytes} (hbuild : p.build = .ok bytes) :
    (∃ r, parseIpv6Packet bytes .strict = .ok r ∧ r.Returns p) ↔
      (isExtension p.upperLayerProtocol = false ∨ p.extensions.any (·.isLaterFragment) = true) := by
  constructor
  · -- one more extension would be among those that are returned
    rintro ⟨r, hparse, hreturns⟩
    obtain ⟨rfl, s, hbuilt⟩ := built_of_build hbuild
    obtain ⟨w, hlayout⟩ := hbuilt.layout
    obtain ⟨w', haccepts, rfl⟩ := parseIpv6Packet_eq_ok_iff.mp hparse
    have hsame : w'.extensions = p.extensions := hreturns.2.2.2.2.2.1
    by_contra hneither
    obtain ⟨hannounced, hlater⟩ := not_or.mp hneither
    have hrest := haccepts.walk
    rw [hlayout.available, hlayout.first, hlayout.walk, if_neg hlater] at hrest
    have hgrows := (walkExtensions_reaches hrest).more
      (by rw [hlayout.nextHeader]; exact Bool.eq_true_of_not_eq_false hannounced)
    rw [hsame, hlayout.extensions] at hgrows
    exact Nat.lt_irrefl _ hgrows
  intro hends
  obtain ⟨r, hparse, hreturns, -⟩ := parse_of_build hbuild hends
  exact ⟨r, hparse, hreturns⟩

/-- A first fragment behind hop-by-hop options, with the first bytes of a datagram. -/
def builtFragment : Ipv6Packet where
  trafficClass := 0x2a
  flowLabel := 0x12345
  hopLimit := 64
  source := 1
  destination := 2
  extensions := [.hopByHopOptions [1, 4, 0, 0, 0, 0], .fragment 0 true 7]
  upperLayerProtocol := 17
  payload := [0x13, 0x88, 0, 53, 0, 16, 0, 0]

theorem Ipv6Packet.parsed_as_built_fragment :
    builtFragment.build = .ok builtFragment.encodeIpv6 ∧
      ∃ r, parseIpv6Packet builtFragment.encodeIpv6 .strict = .ok r ∧ r.Returns builtFragment :=
  ⟨by decide +kernel, (parsed_as_built_iff (by decide +kernel)).mpr (.inl rfl)⟩

/-- No extensions, but a payload that is announced as one. -/
def announcedExtension : Ipv6Packet where
  trafficClass := 0
  flowLabel := 0
  hopLimit := 64
  source := 1
  destination := 2
  extensions := []
  upperLayerProtocol := 60
  payload := [17, 0, 1, 4, 0, 0, 0, 0]

/-- The builder takes it, and the parser finds an extension where the payload was. -/
theorem Ipv6Packet.payload_parsed_as_extension :
    announcedExtension.build = .ok announcedExtension.encodeIpv6 ∧
      (parseIpv6Packet announcedExtension.encodeIpv6 .strict).map
          (fun r => (r.extensions, terminalProtocolAndBytes r.upperLayer)) =
        .ok ([.destinationOptions [1, 4, 0, 0, 0, 0]], (17, [])) := by
  decide +kernel

end NodeNet.Protocols
