import NodeNet.Protocols.Quoted

/-!
# TCP segments

The builder pads its options with zeros, and the parser reads the first of them as the end of the list.  Option
bytes without deviations are therefore the bytes of options that the builder takes, padded with zeros
(`parseTcpOptions_iff`).  Segments that are built are parsed as themselves, and segments that are parsed are
rebuilt, up to what the builder never writes: an urgent pointer without its flag, more padding than needed, and a
checksum of all ones (`TcpSegment.round_trip`).
-/

namespace NodeNet.Protocols

open List
open Ipv6Packet (octetOrZero octetOrZero_toNat)

def tcpMinHeaderLength : Nat := 20
def tcpMaxSegmentLength : Nat := 65535
def tcpProtocol : UInt8 := 6
def maxTcpOptionCount : Nat := 40
def maxTcpOptionBytes : Nat := 40

structure TcpSackBlock where
  leftEdge : UInt32
  rightEdge : UInt32
deriving DecidableEq

/-! ### Building -/

inductive TcpOption where
  | noOperation
  | maximumSegmentSize (value : UInt16)
  | windowScale (value : UInt8)
  | sackPermitted
  | sack (blocks : List TcpSackBlock)
  | timestamp (value echoReply : UInt32)
  | unknown (kind : UInt8) (data : Bytes)
deriving DecidableEq

namespace TcpOption

/-- The kinds that have an option of their own. -/
def isTyped (kind : UInt8) : Bool := kind = 0 ∨ kind = 1 ∨ kind = 2 ∨ kind = 3 ∨ kind = 4 ∨ kind = 5 ∨ kind = 8

def encodedLength : TcpOption → Except BuildError Nat
  | noOperation => .ok 1
  | maximumSegmentSize _ => .ok 4
  | windowScale value => if value > 14 then .error (.invalidValue .optionLength) else .ok 3
  | sackPermitted => .ok 2
  | sack blocks =>
    if blocks.isEmpty ∨ blocks.length > 4 then .error (.invalidValue .optionLength) else
      .ok (2 + blocks.length * 8)
  | timestamp _ _ => .ok 10
  | unknown kind data =>
    if isTyped kind ∨ data.length > 253 then .error (.invalidValue .optionKind) else .ok (data.length + 2)

end TcpOption

structure TcpSegment where
  checksumContext : TransportChecksumContext
  sourcePort : UInt16
  destinationPort : UInt16
  sequenceNumber : UInt32
  acknowledgmentNumber : UInt32
  flags : TcpFlags
  windowSize : UInt16
  urgentPointer : UInt16
  options : List TcpOption
  payload : Bytes
deriving DecidableEq

def validateOptions (options : List TcpOption) : Except BuildError Nat :=
  if options.length > maxTcpOptionCount then .error (.invalidValue .optionLength)
  else
    match addLengths TcpOption.encodedLength 0 options with
    | .error error => .error error
    | .ok length =>
      let padded := (length + 3) / 4 * 4
      if padded > maxTcpOptionBytes then .error (.invalidValue .optionLength) else .ok padded

def encodeSackBlock (block : TcpSackBlock) : Bytes := be32 block.leftEdge ++ be32 block.rightEdge

def encodeOption : TcpOption → Bytes
  | .noOperation => [1]
  | .maximumSegmentSize value => [2, 4] ++ be16 value
  | .windowScale value => [3, 3, value]
  | .sackPermitted => [4, 2]
  | .sack blocks => [5, octetOrZero (2 + blocks.length * 8)] ++ blocks.flatMap encodeSackBlock
  | .timestamp value echoReply => [8, 10] ++ (be32 value ++ be32 echoReply)
  | .unknown kind data => [kind, octetOrZero (data.length + 2)] ++ data

namespace TcpSegment

def requiredLength (s : TcpSegment) : Except BuildError Nat :=
  match validateOptions s.options with
  | .error error => .error error
  | .ok optionLength =>
    if !s.flags.contains .urg ∧ s.urgentPointer ≠ 0 then .error (.invalidValue .urgentPointer)
    else
      let total := tcpMinHeaderLength + optionLength + s.payload.length
      if total > tcpMaxSegmentLength then .error (.lengthExceedsLimit total tcpMaxSegmentLength .ip)
      else PacketLength.new total .ip

def encodeTcp (s : TcpSegment) (checksum : UInt16) : Bytes :=
  let optionLength := match validateOptions s.options with
    | .ok optionLength => optionLength
    | .error _ => 0
  let headerLength := tcpMinHeaderLength + optionLength
  let options := s.options.flatMap encodeOption
  be16 s.sourcePort ++ (be16 s.destinationPort ++ (be32 s.sequenceNumber ++ (be32 s.acknowledgmentNumber ++
    ([((if headerLength / 4 ≤ 255 then UInt8.ofNat (headerLength / 4) else 15) <<< 4) |||
        UInt8.ofNat ((s.flags.bits >>> 8) &&& 1).toNat, UInt8.ofNat s.flags.bits.toNat] ++ (be16 s.windowSize ++
      (be16 checksum ++ (be16 s.urgentPointer ++
        ((options ++ List.replicate (optionLength - options.length) 0) ++ s.payload))))))))

def build (s : TcpSegment) : Except BuildError Bytes :=
  match s.requiredLength with
  | .error error => .error error
  | .ok _ =>
    match computeTransportChecksum s.checksumContext tcpProtocol (s.encodeTcp 0) with
    | none => .error (.arithmeticOverflow .packetLength)
    | some checksum => .ok (s.encodeTcp checksum)

end TcpSegment

/-! ### Parsing -/

/-- Deviations that do not make a segment unusable. -/
structure TcpConformance where
  reservedBitsSet : Bool
  nonzeroOptionPadding : Bool
  excessiveWindowScale : Bool
deriving DecidableEq

namespace TcpConformance

def default : TcpConformance := ⟨false, false, false⟩

def isCanonical (c : TcpConformance) : Bool := c = .default

end TcpConformance

inductive ParsedTcpOption where
  | endOfList
  | noOperation
  | maximumSegmentSize (value : UInt16)
  | windowScale (value : UInt8)
  | sackPermitted
  | sack (blocks : Bytes)
  | timestamp (value echoReply : UInt32)
  | unknown (kind : UInt8) (data : Bytes)
deriving DecidableEq

def sackBlocks : Nat → Bytes → List TcpSackBlock
  | 0, _ => []
  | count + 1, bytes => ⟨u32At bytes 0, u32At bytes 4⟩ :: sackBlocks count (bytes.drop 8)

def parsedSackBlocks (bytes : Bytes) : List TcpSackBlock := sackBlocks (bytes.length / 8) bytes

structure ParsedTcpSegment where
  sourcePort : UInt16
  destinationPort : UInt16
  sequenceNumber : UInt32
  acknowledgmentNumber : UInt32
  flags : TcpFlags
  reservedBits : UInt8
  windowSize : UInt16
  checksum : UInt16
  urgentPointer : UInt16
  options : List ParsedTcpOption
  payload : Bytes
  conformance : TcpConformance
deriving DecidableEq

def pushOption (options : List ParsedTcpOption) (option : ParsedTcpOption) :
    Except ParseError (List ParsedTcpOption) :=
  if options.length = maxTcpOptionCount then
    .error (.limitExceeded .tcpOptions (options.length + 1) maxTcpOptionCount)
  else .ok (options ++ [option])

/-- An option with a length byte, by its kind and the bytes behind the length. -/
def parseTcpOption (kind : UInt8) (data : Bytes) (conformance : TcpConformance) :
    Except ParseError (ParsedTcpOption × TcpConformance) :=
  let length := data.length + 2
  if kind = 2 ∧ length = 4 then .ok (.maximumSegmentSize (u16At data 0), conformance)
  else if kind = 3 ∧ length = 3 then
    .ok (.windowScale (u8At data 0),
      { conformance with excessiveWindowScale := conformance.excessiveWindowScale || decide (u8At data 0 > 14) })
  else if kind = 4 ∧ length = 2 then .ok (.sackPermitted, conformance)
  else if kind = 5 ∧ length ≥ 10 ∧ (length - 2) % 8 = 0 then .ok (.sack data, conformance)
  else if kind = 8 ∧ length = 10 then .ok (.timestamp (u32At data 0) (u32At data 4), conformance)
  else if kind = 2 ∨ kind = 3 ∨ kind = 4 ∨ kind = 5 ∨ kind = 8 then .error (.malformed .tcp .optionLength)
  else .ok (.unknown kind data, conformance)

/-- Walks over the option bytes; every option takes at least one of them. -/
def parseTcpOptionsFrom :
    Nat → Bytes → List ParsedTcpOption → TcpConformance → Except ParseError (List ParsedTcpOption × TcpConformance)
  | 0, _, options, conformance => .ok (options, conformance)
  | _ + 1, [], options, conformance => .ok (options, conformance)
  | left + 1, kind :: rest, options, conformance =>
    if kind = 0 then
      match pushOption options .endOfList with
      | .error error => .error error
      | .ok options =>
        .ok (options,
          { conformance with nonzeroOptionPadding := conformance.nonzeroOptionPadding || rest.any (· ≠ 0) })
    else if kind = 1 then
      match pushOption options .noOperation with
      | .error error => .error error
      | .ok options => parseTcpOptionsFrom left rest options conformance
    else
      match rest with
      | [] => .error (.malformed .tcp .optionLength)
      | lengthByte :: data =>
        let length := lengthByte.toNat
        if length < 2 ∨ length > data.length + 2 then .error (.malformed .tcp .optionLength)
        else
          match parseTcpOption kind (data.take (length - 2)) conformance with
          | .error error => .error error
          | .ok (option, conformance) =>
            match pushOption options option with
            | .error error => .error error
            | .ok options => parseTcpOptionsFrom left (data.drop (length - 2)) options conformance

def parseTcpOptions (input : Bytes) : Except ParseError (List ParsedTcpOption × TcpConformance) :=
  parseTcpOptionsFrom input.length input [] .default

def parseTcpSegment (input : Bytes) (checksumContext : TransportChecksumContext) :
    Except ParseError ParsedTcpSegment :=
  if input.length > tcpMaxSegmentLength then
    .error (.limitExceeded .transportBytes input.length tcpMaxSegmentLength)
  else if input.length < tcpMinHeaderLength then .error (.truncated .tcp tcpMinHeaderLength input.length)
  else
    let dataOffset := (u8At input 12 >>> 4).toNat
    if dataOffset < 5 then .error (.malformed .tcp .headerLength)
    else
      let headerLength := dataOffset * 4
      if input.length < headerLength then .error (.truncated .tcp headerLength input.length)
      else if !validateTransportChecksum checksumContext tcpProtocol input then .error (.malformed .tcp .checksum)
      else
        let reservedBits := (u8At input 12 >>> 1) &&& 0x07
        match TcpFlags.fromBits (((u8At input 12 &&& 1).toUInt16 <<< 8) ||| (u8At input 13).toUInt16) with
        | .error _ => .error (.malformed .tcp .flags)
        | .ok flags =>
          match parseTcpOptions (field input 20 (headerLength - 20)) with
          | .error error => .error error
          | .ok (options, optionConformance) => .ok {
              sourcePort := u16At input 0
              destinationPort := u16At input 2
              sequenceNumber := u32At input 4
              acknowledgmentNumber := u32At input 8
              flags
              reservedBits
              windowSize := u16At input 14
              checksum := u16At input 16
              urgentPointer := u16At input 18
              options
              payload := input.drop headerLength
              conformance := { optionConformance with
                reservedBitsSet := decide (reservedBits ≠ 0) || optionConformance.reservedBitsSet } }

/-! ### One option -/

/-- The option that the builder takes for a parsed one; the end of the list is written by the padding. -/
def ParsedTcpOption.toOption : ParsedTcpOption → Option TcpOption
  | endOfList => none
  | noOperation => some .noOperation
  | maximumSegmentSize value => some (.maximumSegmentSize value)
  | windowScale value => some (.windowScale value)
  | sackPermitted => some .sackPermitted
  | sack blocks => some (.sack (parsedSackBlocks blocks))
  | timestamp value echoReply => some (.timestamp value echoReply)
  | unknown kind data => some (.unknown kind data)

/-- What the parser makes of an option that was written. -/
def TcpOption.parsed : TcpOption → ParsedTcpOption
  | noOperation => .noOperation
  | maximumSegmentSize value => .maximumSegmentSize value
  | windowScale value => .windowScale value
  | sackPermitted => .sackPermitted
  | sack blocks => .sack (blocks.flatMap encodeSackBlock)
  | timestamp value echoReply => .timestamp value echoReply
  | unknown kind data => .unknown kind data

variable (blocks : List TcpSackBlock)

private theorem length_encodeSackBlocks : (blocks.flatMap encodeSackBlock).length = blocks.length * 8 := by
  induction blocks with
  | nil => rfl
  | cons block rest ih =>
    rw [flatMap_cons, length_append, ih, length_cons]
    simp only [encodeSackBlock, length_append, be32_length]
    omega

private theorem sackBlocks_encode : sackBlocks blocks.length (blocks.flatMap encodeSackBlock) = blocks := by
  induction blocks with
  | nil => rfl
  | cons block rest ih =>
    have hdrop : ((block :: rest).flatMap encodeSackBlock).drop 8 = rest.flatMap encodeSackBlock :=
      drop_left' (by simp [encodeSackBlock])
    rw [length_cons, sackBlocks, hdrop, ih]
    simp [encodeSackBlock]

private theorem encode_sackBlocks {count : Nat} {bytes : Bytes} (h : bytes.length = count * 8) :
    (sackBlocks count bytes).length = count ∧ (sackBlocks count bytes).flatMap encodeSackBlock = bytes := by
  induction count generalizing bytes with
  | zero => exact ⟨rfl, (eq_nil_of_length_eq_zero (by omega)).symm⟩
  | succ count ih =>
    have hrest : (bytes.drop 8).length = count * 8 := by
      rw [length_drop]
      omega
    obtain ⟨hlength, hbytes⟩ := ih hrest
    refine ⟨by rw [sackBlocks, length_cons, hlength], ?_⟩
    rw [sackBlocks, flatMap_cons, hbytes, encodeSackBlock, be32_u32At (by omega), be32_u32At (by omega),
      ← field_add, field, drop_zero, take_append_drop]

/-- What is parsed from an option that was written stands for that option. -/
theorem TcpOption.toOption_parsed (o : TcpOption) : o.parsed.toOption = some o := by
  cases o with
  | sack blocks =>
    have hcount : blocks.length * 8 / 8 = blocks.length := by omega
    simp only [parsed, ParsedTcpOption.toOption, parsedSackBlocks, length_encodeSackBlocks, hcount,
      sackBlocks_encode]
  | _ => rfl

/-- The builder takes the option, at the length of its bytes. -/
def TcpOption.Fits (o : TcpOption) : Prop := o.encodedLength = .ok (encodeOption o).length

private theorem length_encode_sack : (encodeOption (.sack blocks)).length = 2 + blocks.length * 8 := by
  rw [encodeOption, length_append, length_encodeSackBlocks]
  rfl

private theorem length_encodeOption {o : TcpOption} {length : Nat} (h : o.encodedLength = .ok length) :
    (encodeOption o).length = length := by
  cases o with
  | sack blocks =>
    obtain ⟨-, h⟩ := ite_error_eq_ok.mp h
    cases h
    exact length_encode_sack blocks
  | windowScale value | unknown kind data =>
    obtain ⟨-, h⟩ := ite_error_eq_ok.mp h
    cases h
    rfl
  | _ =>
    cases h
    simp [encodeOption]

private theorem one_le_length_encodeOption (o : TcpOption) : 1 ≤ (encodeOption o).length := by
  cases o <;> simp [encodeOption]

/-- An option that was written is its only byte, or is parsed from its kind and data. -/
private theorem TcpOption.Fits.parse {o : TcpOption} (h : o.Fits) (hlength : (encodeOption o).length ≤ 255) :
    o = .noOperation ∨ ∃ kind lengthByte data, encodeOption o = kind :: lengthByte :: data ∧ kind ≠ 0 ∧ kind ≠ 1 ∧
      lengthByte.toNat = data.length + 2 ∧ ∀ c, parseTcpOption kind data c = .ok (o.parsed, c) := by
  cases o with
  | noOperation => exact .inl rfl
  | maximumSegmentSize value =>
    refine .inr ⟨2, 4, be16 value, rfl, by decide, by decide, by simp, fun c => ?_⟩
    simp [parseTcpOption, parsed]
  | windowScale value =>
    have hvalue := (ite_error_eq_ok.mp h).1
    refine .inr ⟨3, 3, [value], rfl, by decide, by decide, rfl, fun c => ?_⟩
    simp [parseTcpOption, parsed, hvalue]
  | sackPermitted => exact .inr ⟨4, 2, [], rfl, by decide, by decide, rfl, fun c => rfl⟩
  | sack blocks =>
    have hblocks := (ite_error_eq_ok.mp h).1
    rw [not_or, List.isEmpty_iff, ← length_eq_zero_iff] at hblocks
    refine .inr ⟨5, _, blocks.flatMap encodeSackBlock, rfl, by decide, by decide, ?_, fun c => ?_⟩
    · rw [length_encodeSackBlocks, octetOrZero_toNat (by omega), Nat.add_comm]
    · have hsack : blocks.length * 8 + 2 ≥ 10 ∧ (blocks.length * 8 + 2 - 2) % 8 = 0 := by omega
      simp +decide only [parseTcpOption, parsed, length_encodeSackBlocks, hsack, false_and, and_self, reduceIte]
  | timestamp value echoReply =>
    refine .inr ⟨8, 10, be32 value ++ be32 echoReply, rfl, by decide, by decide, by simp, fun c => ?_⟩
    simp [parseTcpOption, parsed]
  | unknown kind data =>
    have hkind := (ite_error_eq_ok.mp h).1
    simp only [isTyped, not_or, decide_eq_true_eq] at hkind
    obtain ⟨⟨h0, h1, h2, h3, h4, h5, h8⟩, hdata⟩ := hkind
    refine .inr ⟨kind, _, data, rfl, h0, h1, octetOrZero_toNat (by omega), fun c => ?_⟩
    simp [parseTcpOption, parsed, h2, h3, h4, h5, h8]

/-- An option that is parsed without deviation is one that the builder takes. -/
private theorem exists_of_parseTcpOption {kind : UInt8} {data : Bytes} {c c' : TcpConformance}
    {p : ParsedTcpOption} (h0 : kind ≠ 0) (h1 : kind ≠ 1) (hdata : data.length ≤ 38)
    (h : parseTcpOption kind data c = .ok (p, c')) (hscale : c'.excessiveWindowScale = false) :
    c' = c ∧ ∃ o : TcpOption, o.Fits ∧ p = o.parsed ∧ encodeOption o = kind :: octetOrZero
    (data.length + 2) :: data := by
  unfold parseTcpOption at h
  dsimp only at h
  split at h
  next hmss =>
    cases h
    refine ⟨rfl, .maximumSegmentSize (u16At data 0), by
      simp [TcpOption.Fits, encodeOption, TcpOption.encodedLength], rfl, ?_⟩
    have hlength : data.length = 2 := by omega
    rw [hmss.1, encodeOption, be16_u16At (by omega), field, drop_zero, take_of_length_le (by omega), hlength]
    rfl
  split at h
  next hwindow =>
    have hlength : data.length = 1 := by omega
    obtain ⟨value, rfl⟩ := length_eq_one_iff.mp hlength
    cases h
    obtain ⟨hbefore, hvalue⟩ := Bool.or_eq_false_iff.mp hscale
    refine ⟨?_, .windowScale value, ?_, rfl, ?_⟩
    · rw [hvalue, Bool.or_false]
    · exact ite_error_eq_ok.mpr ⟨of_decide_eq_false hvalue, rfl⟩
    · rw [hwindow.1]
      rfl
  split at h
  next hpermitted =>
    have hnil : data = [] := length_eq_zero_iff.mp (by omega)
    cases h
    subst hnil
    exact ⟨rfl, .sackPermitted, rfl, rfl, by rw [hpermitted.1]; rfl⟩
  split at h
  next hsack =>
    cases h
    have hcount : data.length = data.length / 8 * 8 := by omega
    obtain ⟨hblocks, hbytes⟩ := encode_sackBlocks hcount
    refine ⟨rfl, .sack (parsedSackBlocks data), ?_, ?_, ?_⟩
    · refine ite_error_eq_ok.mpr ⟨?_, ?_⟩
      · rw [parsedSackBlocks, List.isEmpty_iff, ← length_eq_zero_iff, hblocks]
        omega
      · rw [length_encode_sack]
    · rw [TcpOption.parsed, parsedSackBlocks, hbytes]
    · rw [hsack.1, encodeOption, parsedSackBlocks, hbytes, hblocks, ← hcount, Nat.add_comm]
      rfl
  split at h
  next htimestamp =>
    cases h
    have hlength : data.length = 8 := by omega
    refine ⟨rfl, .timestamp (u32At data 0) (u32At data 4), by
      simp [TcpOption.Fits, encodeOption, TcpOption.encodedLength], rfl, ?_⟩
    rw [htimestamp.1, encodeOption, be32_u32At (by omega), be32_u32At (by omega), ← field_add, field, drop_zero,
      take_of_length_le (by omega), hlength]
    rfl
  split at h
  · cases h
  next hkind =>
  cases h
  refine ⟨rfl, .unknown kind data, ?_, rfl, rfl⟩
  have hshort : ¬ data.length > 253 := by omega
  refine ite_error_eq_ok.mpr ⟨?_, rfl⟩
  simp only [not_or] at hkind
  simp [TcpOption.isTyped, h0, h1, hkind, hshort]

/-! ### The list of options -/

private theorem validateOptions_eq_ok_iff {options : List TcpOption} {padded : Nat} :
    validateOptions options = .ok padded ↔ options.length ≤ 40 ∧ (∀ o ∈ options, o.Fits) ∧
      padded = ((options.flatMap encodeOption).length + 3) / 4 * 4 ∧ padded ≤ 40 := by
  unfold validateOptions
  rw [ite_error_eq_ok, maxTcpOptionCount, Nat.not_lt]
  have hsum : ∀ total, addLengths TcpOption.encodedLength 0 options = .ok total ↔
      (∀ o ∈ options, o.Fits) ∧ total = 0 + (options.flatMap encodeOption).length :=
    fun total => addLengths_eq_ok_iff fun o n => length_encodeOption
  cases hlengths : addLengths TcpOption.encodedLength 0 options with
  | error e =>
    simp only [reduceCtorEq, and_false, false_iff]
    rintro ⟨-, hfits, -, -⟩
    rw [(hsum _).mpr ⟨hfits, rfl⟩] at hlengths
    cases hlengths
  | ok length =>
    obtain ⟨hfits, htotal⟩ := (hsum _).mp hlengths
    rw [Nat.zero_add] at htotal
    subst htotal
    dsimp only
    rw [ite_error_eq_ok, Except.ok.injEq, maxTcpOptionBytes]
    constructor
    · rintro ⟨hcount, hbytes, rfl⟩
      exact ⟨hcount, hfits, rfl, by omega⟩
    · rintro ⟨hcount, -, rfl, hbytes⟩
      exact ⟨hcount, by omega, rfl⟩

/-- The padding behind the options, as it is parsed. -/
def endOfOptions (padding : Nat) : List ParsedTcpOption := if padding = 0 then [] else [.endOfList]

variable {options : List ParsedTcpOption}

private theorem pushOption_eq_ok (option : ParsedTcpOption) (h : options.length < 40) :
    pushOption options option = .ok (options ++ [option]) := if_neg (by unfold maxTcpOptionCount; omega)

private theorem length_le_flatMap (options : List TcpOption) : options.length ≤
    (options.flatMap encodeOption).length := by
  induction options with
  | nil => exact Nat.le_refl _
  | cons o rest ih =>
    have hone := one_le_length_encodeOption o
    rw [flatMap_cons, length_append, length_cons]
    omega

variable {input : Bytes} {left : Nat} {done : List ParsedTcpOption} {c : TcpConformance} {built : List TcpOption}
  {padding : Nat}

private theorem parse_written (hfits : ∀ o ∈ built, o.Fits)
    (hleft : (built.flatMap encodeOption ++ List.replicate padding 0).length ≤ left)
    (hdone : done.length + left ≤ 40) :
    parseTcpOptionsFrom left (built.flatMap encodeOption ++ List.replicate padding 0) done c =
      .ok (done ++ (built.map (·.parsed) ++ endOfOptions padding), c) := by
  induction built generalizing left done with
  | nil =>
    cases padding with
    | zero => cases left <;> simp [parseTcpOptionsFrom, endOfOptions]
    | succ n =>
      rw [flatMap_nil, nil_append, length_replicate] at hleft
      obtain ⟨left, rfl⟩ : ∃ k, left = k + 1 := ⟨left - 1, by omega⟩
      have hpadding : (List.replicate n (0 : UInt8)).any (· ≠ 0) = false := by simp
      rw [flatMap_nil, nil_append, replicate_succ, parseTcpOptionsFrom.eq_def]
      dsimp only
      rw [if_pos rfl, pushOption_eq_ok _ (by omega), hpadding, Bool.or_false]
      rfl
  | cons o built ih =>
    obtain ⟨hfits, hbuilt⟩ := forall_mem_cons.mp hfits
    have hone := one_le_length_encodeOption o
    rw [flatMap_cons, append_assoc] at hleft ⊢
    rw [length_append] at hleft
    obtain ⟨left, rfl⟩ : ∃ k, left = k + 1 := ⟨left - 1, by omega⟩
    have htail := @ih left (done ++ [o.parsed]) hbuilt (by omega) (by simp; omega)
    rw [append_assoc, singleton_append] at htail
    rcases hfits.parse (by omega) with rfl | ⟨kind, lengthByte, data, hencode, h0, h1, hlength, hparse⟩
    · rw [encodeOption, singleton_append, parseTcpOptionsFrom.eq_def]
      dsimp only
      rw [if_neg (by decide), if_pos rfl, pushOption_eq_ok _ (by omega)]
      exact htail
    rw [hencode, cons_append, cons_append, parseTcpOptionsFrom.eq_def]
    dsimp only
    rw [if_neg h0, if_neg h1, hlength, if_neg (by rw [length_append]; omega), Nat.add_sub_cancel, take_left,
      drop_left, hparse]
    dsimp only
    rw [pushOption_eq_ok _ (by omega)]
    exact htail

private theorem written_of_parse {c' : TcpConformance} (hleft : input.length ≤ left) (hinput : input.length ≤ 40)
    (h : parseTcpOptionsFrom left input done c = .ok (options, c')) (hpadding : c'.nonzeroOptionPadding = false)
    (hscale : c'.excessiveWindowScale = false) : c' = c ∧ ∃ (built : List TcpOption) (padding : Nat),
      (∀ o ∈ built, o.Fits) ∧ input = built.flatMap encodeOption ++ List.replicate padding 0 ∧
      options = done ++ (built.map (·.parsed) ++ endOfOptions padding) := by
  induction left generalizing input done c with
  | zero =>
    obtain rfl : input = [] := length_eq_zero_iff.mp (by omega)
    cases h
    exact ⟨rfl, [], 0, by simp, rfl, (append_nil _).symm⟩
  | succ left ih =>
    cases input with
    | nil =>
      cases h
      exact ⟨rfl, [], 0, by simp, rfl, (append_nil _).symm⟩
    | cons kind rest =>
      rw [length_cons] at hleft hinput
      rw [parseTcpOptionsFrom.eq_def] at h
      dsimp only at h
      split at h
      next hzero =>
        unfold pushOption at h
        split at h
        · cases h
        next hpushed =>
        obtain ⟨-, heq⟩ := ite_error_eq_ok.mp hpushed
        cases heq
        cases h
        obtain ⟨-, hzeros⟩ := Bool.or_eq_false_iff.mp hpadding
        have hrest : rest = List.replicate rest.length 0 := eq_replicate_of_mem fun b hb => by
          simpa using any_eq_false.mp hzeros b hb
        exact ⟨by rw [hzeros, Bool.or_false], [], rest.length + 1, by simp, by
          rw [hzero, hrest, length_replicate]; rfl, rfl⟩
      next hkind0 =>
      split at h
      next hone =>
        split at h
        · cases h
        next hpushed =>
        obtain ⟨-, heq⟩ := ite_error_eq_ok.mp hpushed
        cases heq
        subst hone
        obtain ⟨rfl, built, padding, hbuilt, rfl, rfl⟩ := ih (by omega) (by omega) h
        exact ⟨rfl, .noOperation :: built, padding, forall_mem_cons.mpr ⟨rfl, hbuilt⟩, rfl, append_assoc ..⟩
      next hkind1 =>
      split at h
      · cases h
      next lengthByte data =>
      obtain ⟨hbounds, h⟩ := ite_error_eq_ok.mp h
      rw [length_cons] at hleft hinput
      split at h
      · cases h
      next option c1 hoption =>
      split at h
      · cases h
      next hpushed =>
      obtain ⟨-, heq⟩ := ite_error_eq_ok.mp hpushed
      cases heq
      have htail : (data.drop (lengthByte.toNat - 2)).length = data.length - (lengthByte.toNat - 2) := length_drop
      have htaken : (data.take (lengthByte.toNat - 2)).length = lengthByte.toNat - 2 :=
        length_take_of_le (by omega)
      obtain ⟨rfl, built, padding, hbuilt, hrest, rfl⟩ := ih (by omega) (by omega) h
      obtain ⟨rfl, o, hfits, rfl, hencode⟩ := exists_of_parseTcpOption hkind0 hkind1 (by omega) hoption hscale
      refine ⟨rfl, o :: built, padding, forall_mem_cons.mpr ⟨hfits, hbuilt⟩, ?_, append_assoc ..⟩
      have hbyte : octetOrZero (lengthByte.toNat - 2 + 2) = lengthByte := by
        rw [Nat.sub_add_cancel (by omega), octetOrZero, if_pos (by have := lengthByte.toNat_lt; omega),
          UInt8.ofNat_toNat]
      rw [flatMap_cons, append_assoc, ← hrest, hencode, htaken, hbyte, cons_append, cons_append, take_append_drop]

/-- Option bytes are parsed without deviation exactly if they are the bytes of options that the builder takes,
padded with zeros. -/
theorem parseTcpOptions_iff (h : input.length ≤ 40) :
    parseTcpOptions input = .ok (options, .default) ↔ ∃ (built : List TcpOption) (padding : Nat),
      (∀ o ∈ built, o.Fits) ∧ input = built.flatMap encodeOption ++ List.replicate padding 0 ∧
      options = built.map (·.parsed) ++ endOfOptions padding := by
  constructor
  · intro hparse
    exact (written_of_parse (Nat.le_refl _) h hparse rfl rfl).2
  · rintro ⟨built, padding, hfits, rfl, rfl⟩
    exact parse_written hfits (Nat.le_refl _) (by simpa using h)

/-! ### Control bits -/

/-- The nine control bits are the numbers below 512. -/
theorem TcpFlags.standard_iff (bits : UInt16) : bits &&& ~~~0x01ff = 0 ↔ bits.toNat < 512 := by
  have hlt : bits.toNat < 65536 := bits.toNat_lt
  rw [← UInt16.toNat_inj, UInt16.toNat_and, show (~~~(0x01ff : UInt16)).toNat = 0xfe00 from rfl, UInt16.toNat_zero]
  have hhigh : (bits.toNat &&& 0xfe00) >>> 9 = bits.toNat / 512 := by
    rw [Nat.shiftRight_and_distrib, show 0xfe00 >>> 9 = 2 ^ 7 - 1 from rfl, Nat.and_two_pow_sub_one_eq_mod,
      Nat.shiftRight_eq_div_pow]
    omega
  constructor
  · intro hzero
    rw [hzero, Nat.zero_shiftRight] at hhigh
    omega
  intro hsmall
  have hlow : bits.toNat &&& (2 ^ 9 - 1) = bits.toNat := by
    rw [Nat.and_two_pow_sub_one_eq_mod]
    omega
  rw [← hlow, Nat.and_assoc]
  exact Nat.and_zero _

private theorem flagsWord_toNat (high low : UInt8) :
    (((high &&& 1).toUInt16 <<< 8) ||| low.toUInt16).toNat = high.toNat % 2 * 256 + low.toNat := by
  have hlow : low.toNat < 256 := low.toNat_lt
  have hbit : (high &&& 1).toNat = high.toNat % 2 := by
    rw [UInt8.toNat_and, show (1 : UInt8).toNat = 2 ^ 1 - 1 from rfl, Nat.and_two_pow_sub_one_eq_mod]
  have hshift : ((high &&& 1).toUInt16 <<< 8).toNat = high.toNat % 2 * 256 := by
    rw [UInt16.toNat_shiftLeft, UInt8.toNat_toUInt16, hbit, Nat.shiftLeft_eq]
    exact Nat.mod_eq_of_lt (by change _ * 2 ^ 8 < 2 ^ 16; omega)
  rw [UInt16.toNat_or, hshift, UInt8.toNat_toUInt16, lor_eq_add 8 (by omega) (by omega)]

def tcpFlagsAt (input : Bytes) : TcpFlags :=
  ⟨((u8At input 12 &&& 1).toUInt16 <<< 8) ||| (u8At input 13).toUInt16, by
    have hlow : (u8At input 13).toNat < 256 := (u8At input 13).toNat_lt
    rw [TcpFlags.standard_iff, flagsWord_toNat]
    omega⟩

private theorem TcpFlags.eq_of_toNat {a b : TcpFlags} (h : a.bits.toNat = b.bits.toNat) : a = b := by
  cases a
  cases b
  congr
  exact UInt16.toNat_inj.mp h

private theorem offsetByte_read : ∀ x : UInt8, (x >>> 4).toNat = x.toNat / 16 ∧
    ((x >>> 1) &&& 0x07).toNat = x.toNat / 2 % 8 :=
  forall_byte (by decide +kernel)

/-! ### Segments -/

def tcpHeaderLength (input : Bytes) : Nat := (u8At input 12 >>> 4).toNat * 4

private theorem tcpHeaderLength_eq (input : Bytes) :
    tcpHeaderLength input = (u8At input 12).toNat / 16 * 4 ∧ tcpHeaderLength input ≤ 60 := by
  have hbyte : (u8At input 12).toNat < 256 := (u8At input 12).toNat_lt
  rw [tcpHeaderLength, (offsetByte_read (u8At input 12)).1]
  omega

/-- The fields of a segment, read off its bytes and the walk over its options. -/
def tcpFields (input : Bytes) (options : List ParsedTcpOption) (optionConformance : TcpConformance) :
    ParsedTcpSegment where
  sourcePort := u16At input 0
  destinationPort := u16At input 2
  sequenceNumber := u32At input 4
  acknowledgmentNumber := u32At input 8
  flags := tcpFlagsAt input
  reservedBits := (u8At input 12 >>> 1) &&& 0x07
  windowSize := u16At input 14
  checksum := u16At input 16
  urgentPointer := u16At input 18
  options
  payload := input.drop (tcpHeaderLength input)
  conformance := { optionConformance with
    reservedBitsSet := decide ((u8At input 12 >>> 1) &&& 0x07 ≠ 0) || optionConformance.reservedBitsSet }

/-- What the parser asks of a segment besides its options. -/
structure TcpAccepts (input : Bytes) (context : TransportChecksumContext) : Prop where
  limit : input.length ≤ 65535
  offset : 20 ≤ tcpHeaderLength input
  header : tcpHeaderLength input ≤ input.length
  checksum : validateTransportChecksum context tcpProtocol input = true

theorem parseTcpSegment_eq_ok_iff {context : TransportChecksumContext} {r : ParsedTcpSegment} :
    parseTcpSegment input context = .ok r ↔ TcpAccepts input context ∧ ∃ options optionConformance,
      parseTcpOptions (field input 20 (tcpHeaderLength input - 20)) = .ok (options, optionConformance) ∧
        r = tcpFields input options optionConformance := by
  have hflags : TcpFlags.fromBits (((u8At input 12 &&& 1).toUInt16 <<< 8) ||| (u8At input 13).toUInt16) =
      .ok (tcpFlagsAt input) := dif_pos (tcpFlagsAt input).standard
  unfold parseTcpSegment
  simp only [ite_error_eq_ok, hflags]
  constructor
  · rintro ⟨hlimit, hminimum, hoffset, hheader, hchecksum, hrest⟩
    unfold tcpMaxSegmentLength at hlimit
    split at hrest
    · cases hrest
    next options optionConformance hoptions =>
    refine ⟨⟨by omega, ?_, Nat.le_of_not_lt hheader, by simpa using hchecksum⟩, options,
      optionConformance, hoptions, (Except.ok.inj hrest).symm⟩
    unfold tcpHeaderLength
    omega
  rintro ⟨haccepts, options, optionConformance, hoptions, rfl⟩
  have hlimit := haccepts.limit
  have hoffset := haccepts.offset
  have hheader := haccepts.header
  unfold tcpHeaderLength at hoffset hheader
  refine ⟨by unfold tcpMaxSegmentLength; omega, by unfold tcpMinHeaderLength; omega, by omega, by omega,
    by simp [haccepts.checksum], ?_⟩
  unfold tcpHeaderLength at hoptions
  rw [hoptions]
  rfl

/-- The segment that the builder takes for a parsed one. -/
def ParsedTcpSegment.toSegment (r : ParsedTcpSegment) (context : TransportChecksumContext) : TcpSegment where
  checksumContext := context
  sourcePort := r.sourcePort
  destinationPort := r.destinationPort
  sequenceNumber := r.sequenceNumber
  acknowledgmentNumber := r.acknowledgmentNumber
  flags := r.flags
  windowSize := r.windowSize
  urgentPointer := r.urgentPointer
  options := r.options.filterMap (·.toOption)
  payload := r.payload

namespace TcpSegment

/-- What the builder asks of a segment. -/
structure Valid (s : TcpSegment) (padded : Nat) : Prop where
  options : validateOptions s.options = .ok padded
  urgent : s.flags.contains .urg = true ∨ s.urgentPointer = 0
  length : 20 + padded + s.payload.length ≤ 65535

variable {s : TcpSegment}

theorem requiredLength_eq_ok_iff {total : Nat} :
    s.requiredLength = .ok total ↔ ∃ padded, s.Valid padded ∧ total = 20 + padded + s.payload.length := by
  unfold requiredLength
  cases hoptions : validateOptions s.options with
  | error e =>
    simp only [reduceCtorEq, false_iff]
    rintro ⟨padded, hvalid, -⟩
    rw [hvalid.options] at hoptions
    cases hoptions
  | ok padded =>
    have hpointer : ¬ ((!s.flags.contains .urg) = true ∧ s.urgentPointer ≠ 0) ↔
        s.flags.contains .urg = true ∨ s.urgentPointer = 0 := by
      cases s.flags.contains .urg <;> simp
    simp only [ite_error_eq_ok, PacketLength.new, Except.ok.injEq, hpointer]
    simp only [tcpMaxSegmentLength, tcpMinHeaderLength, PacketKind.maximumLength, maxIpPacketLength]
    constructor
    · rintro ⟨hurgent, hlength, -, rfl⟩
      exact ⟨padded, ⟨hoptions, hurgent, by omega⟩, rfl⟩
    rintro ⟨padded', ⟨hoptions', hurgent, hlength⟩, rfl⟩
    obtain rfl : padded = padded' := Except.ok.inj (hoptions.symm.trans hoptions')
    exact ⟨hurgent, by omega, by omega, rfl⟩

theorem build_eq_ok_iff {bytes : Bytes} : s.build = .ok bytes ↔ ∃ padded checksum, s.Valid padded ∧
      computeTransportChecksum s.checksumContext tcpProtocol (s.encodeTcp 0) = some checksum ∧
      bytes = s.encodeTcp checksum := by
  refine checksummed_eq_ok_iff.trans ?_
  simp [requiredLength_eq_ok_iff]

/-- The byte of the data offset. -/
def offsetByte (s : TcpSegment) (padded : Nat) : UInt8 :=
  ((if (20 + padded) / 4 ≤ 255 then UInt8.ofNat ((20 + padded) / 4) else 15) <<< 4) |||
    UInt8.ofNat ((s.flags.bits >>> 8) &&& 1).toNat

def beforeChecksum (s : TcpSegment) (padded : Nat) : Bytes :=
  be16 s.sourcePort ++ (be16 s.destinationPort ++ (be32 s.sequenceNumber ++ (be32 s.acknowledgmentNumber ++
    ([s.offsetByte padded, UInt8.ofNat s.flags.bits.toNat] ++ be16 s.windowSize))))

def optionBytes (s : TcpSegment) (padded : Nat) : Bytes :=
  s.options.flatMap encodeOption ++ List.replicate (padded - (s.options.flatMap encodeOption).length) 0

variable {padded : Nat}

theorem encodeTcp_eq (h : validateOptions s.options = .ok padded) (checksum : UInt16) :
    s.encodeTcp checksum = s.beforeChecksum padded ++ (be16 checksum ++
      (be16 s.urgentPointer ++ (s.optionBytes padded ++ s.payload))) := by
  simp [encodeTcp, h, beforeChecksum, optionBytes, offsetByte, tcpMinHeaderLength]

theorem length_beforeChecksum (s : TcpSegment) (padded : Nat) : (s.beforeChecksum padded).length = 16 := by
  simp [beforeChecksum]

theorem length_optionBytes (h : validateOptions s.options = .ok padded) :
    (s.optionBytes padded).length = padded := by
  obtain ⟨-, -, hpadded, -⟩ := validateOptions_eq_ok_iff.mp h
  rw [optionBytes, length_append, length_replicate]
  omega

theorem length_encodeTcp (h : validateOptions s.options = .ok padded) (checksum : UInt16) :
    (s.encodeTcp checksum).length = 20 + padded + s.payload.length := by
  rw [encodeTcp_eq h]
  simp only [length_append, be16_length, length_beforeChecksum, length_optionBytes h]
  omega

theorem offsetByte_toNat (s : TcpSegment) (h : padded ≤ 40) :
    (s.offsetByte padded).toNat = (20 + padded) / 4 * 16 + s.flags.bits.toNat / 256 % 2 := by
  have hbit : (UInt8.ofNat ((s.flags.bits >>> 8) &&& 1).toNat).toNat = s.flags.bits.toNat / 256 % 2 := by
    rw [UInt8.toNat_ofNat', UInt16.toNat_and, UInt16.toNat_shiftRight, show (8 : UInt16).toNat % 16 = 8 from rfl,
      Nat.shiftRight_eq_div_pow, show (1 : UInt16).toNat = 2 ^ 1 - 1 from rfl, Nat.and_two_pow_sub_one_eq_mod]
    omega
  have hshift : (UInt8.ofNat ((20 + padded) / 4) <<< 4).toNat = (20 + padded) / 4 * 16 := by
    rw [UInt8.toNat_shiftLeft, UInt8.toNat_ofNat', Nat.shiftLeft_eq,
      Nat.mod_eq_of_lt (show (20 + padded) / 4 < 256 by omega)]
    exact Nat.mod_eq_of_lt (by change _ * 2 ^ 4 < 2 ^ 8; omega)
  rw [offsetByte, if_pos (by omega), UInt8.toNat_or, hshift, hbit, lor_eq_add 4 (by omega) (by omega)]

/-- A segment that is built is parsed as itself; padding is parsed as the end of the list. -/
private theorem Valid.parse_encodeTcp {checksum : UInt16} (h : s.Valid padded)
    (hchecksum : computeTransportChecksum s.checksumContext tcpProtocol (s.encodeTcp 0) = some checksum) :
    parseTcpSegment (s.encodeTcp checksum) s.checksumContext =
    .ok ⟨s.sourcePort, s.destinationPort, s.sequenceNumber,
      s.acknowledgmentNumber, s.flags, 0, s.windowSize, checksum, s.urgentPointer,
      s.options.map (·.parsed) ++ endOfOptions (padded - (s.options.flatMap encodeOption).length),
        s.payload, .default⟩ := by
  obtain ⟨-, hfits, hpadded, hforty⟩ := validateOptions_eq_ok_iff.mp h.options
  have hlength := h.length
  have hoptions := length_optionBytes h.options
  have hbefore := s.length_beforeChecksum padded
  have hlt := (TcpFlags.standard_iff s.flags.bits).mp s.flags.standard
  have htotal := length_encodeTcp h.options checksum
  rw [encodeTcp_eq h.options] at hchecksum
  have hbytes := encodeTcp_eq h.options checksum
  generalize s.encodeTcp checksum = bytes at htotal hbytes ⊢
  have hvalid : validateTransportChecksum s.checksumContext tcpProtocol bytes = true := by
    rw [hbytes]
    exact validateTransportChecksum_of_filled (by rw [hbefore]) hchecksum (.inl rfl)
  -- the two bytes of the data offset and the flags
  have hhigh : u8At bytes 12 = s.offsetByte padded := by simp [hbytes, beforeChecksum]
  have hlow : u8At bytes 13 = UInt8.ofNat s.flags.bits.toNat := by simp [hbytes, beforeChecksum]
  have hoffset := s.offsetByte_toNat hforty
  have hread := offsetByte_read (s.offsetByte padded)
  have hheader : tcpHeaderLength bytes = 20 + padded := by
    rw [tcpHeaderLength, hhigh, hread.1, hoffset]
    omega
  have hreserved : (s.offsetByte padded >>> 1) &&& 0x07 = 0 := by
    rw [← UInt8.toNat_inj, hread.2, hoffset, UInt8.toNat_zero]
    omega
  have hflags : tcpFlagsAt bytes = s.flags := by
    refine TcpFlags.eq_of_toNat ?_
    change (((u8At bytes 12 &&& 1).toUInt16 <<< 8) ||| (u8At bytes 13).toUInt16).toNat = _
    rw [flagsWord_toNat, hhigh, hlow, hoffset, UInt8.toNat_ofNat']
    omega
  have hfront : bytes = (s.beforeChecksum padded ++ (be16 checksum ++ be16 s.urgentPointer)) ++
      (s.optionBytes padded ++ s.payload) := by
    rw [hbytes]
    simp
  have htwenty : (s.beforeChecksum padded ++ (be16 checksum ++ be16 s.urgentPointer)).length = 20 := by
    simp [hbefore]
  have hoptionField : field bytes 20 padded = s.optionBytes padded := by
    rw [hfront, field, drop_left' htwenty, take_left' hoptions]
  have hpayload : bytes.drop (20 + padded) = s.payload := by
    rw [hfront, ← drop_drop, drop_left' htwenty, drop_left' hoptions]
  have hparse : parseTcpOptions (field bytes 20 (tcpHeaderLength bytes - 20)) = .ok (s.options.map (·.parsed) ++
      endOfOptions (padded - (s.options.flatMap encodeOption).length), .default) := by
    rw [hheader, Nat.add_sub_cancel_left, hoptionField]
    exact (parseTcpOptions_iff (by omega)).mpr ⟨s.options, _, hfits, rfl, rfl⟩
  refine parseTcpSegment_eq_ok_iff.mpr ⟨⟨by omega, by omega, by omega, hvalid⟩, _, _, hparse, ?_⟩
  simp only [tcpFields, hflags, hheader, hpayload, hhigh, hreserved]
  simp [hbytes, beforeChecksum, TcpConformance.default]

end TcpSegment

/-! ### Rebuilding a parsed segment -/

private theorem filterMap_toOption (built : List TcpOption) (padding : Nat) :
    (built.map (·.parsed) ++ endOfOptions padding).filterMap (·.toOption) = built := by
  have hend : (endOfOptions padding).filterMap (·.toOption) = [] := by
    unfold endOfOptions
    split <;> rfl
  rw [filterMap_append, hend, append_nil, filterMap_map]
  have hsome : (fun o : ParsedTcpOption => o.toOption) ∘ (fun o : TcpOption => o.parsed) = some :=
    funext TcpOption.toOption_parsed
  rw [hsome, filterMap_some]

/-- A parsed segment without deviations. -/
private structure Clean (input : Bytes) (context : TransportChecksumContext) (built : List TcpOption)
    (padding : Nat) : Prop where
  accepts : TcpAccepts input context
  reserved : (u8At input 12 >>> 1) &&& 0x07 = 0
  fits : ∀ o ∈ built, o.Fits
  bytes : field input 20 (tcpHeaderLength input - 20) = built.flatMap encodeOption ++ List.replicate padding 0

private theorem clean_of_parse {context : TransportChecksumContext} {r : ParsedTcpSegment}
    (h : parseTcpSegment input context = .ok r) (hcanonical : r.conformance.isCanonical = true) :
    ∃ built padding, Clean input context built padding ∧
      r = tcpFields input (built.map (·.parsed) ++ endOfOptions padding) .default := by
  obtain ⟨haccepts, options, conformance, hoptions, rfl⟩ := parseTcpSegment_eq_ok_iff.mp h
  have hdefault := of_decide_eq_true hcanonical
  simp only [tcpFields, TcpConformance.default, TcpConformance.mk.injEq, Bool.or_eq_false_iff,
    decide_eq_false_iff_not, not_not] at hdefault
  obtain ⟨⟨hreserved, hbits⟩, hpadding, hscale⟩ := hdefault
  obtain rfl : conformance = .default := by
    cases conformance
    simp_all [TcpConformance.default]
  have hheader := haccepts.header
  have hlength : (field input 20 (tcpHeaderLength input - 20)).length ≤ 40 := by
    have hsixty := (tcpHeaderLength_eq input).2
    rw [length_field (by have := haccepts.offset; omega)]
    omega
  obtain ⟨built, padding, hfits, hbytes, rfl⟩ := (parseTcpOptions_iff hlength).mp hoptions
  exact ⟨built, padding, ⟨haccepts, hreserved, hfits, hbytes⟩, rfl⟩

namespace Clean

variable {context : TransportChecksumContext}

private def segment (_ : Clean input context built padding) : TcpSegment :=
  (tcpFields input (built.map (·.parsed) ++ endOfOptions padding) .default).toSegment context

variable (h : Clean input context built padding)

include h

private theorem segment_options : h.segment.options = built := filterMap_toOption built padding

private theorem header_eq :
    tcpHeaderLength input = 20 + (built.flatMap encodeOption).length + padding ∧ tcpHeaderLength input ≤ 60 ∧
      tcpHeaderLength input % 4 = 0 := by
  have hlength := congrArg List.length h.bytes
  have hoffset := h.accepts.offset
  have hheader := h.accepts.header
  have hwords := tcpHeaderLength_eq input
  rw [length_field (by omega), length_append, length_replicate] at hlength
  omega

private theorem validateOptions_segment :
    validateOptions h.segment.options = .ok (((built.flatMap encodeOption).length + 3) / 4 * 4) := by
  obtain ⟨hheader, hsixty, hwords⟩ := h.header_eq
  have hcount := length_le_flatMap built
  rw [h.segment_options]
  exact validateOptions_eq_ok_iff.mpr ⟨by omega, h.fits, rfl, by omega⟩

private theorem valid_iff :
    (∃ padded, h.segment.Valid padded) ↔ (u16At input 18 = 0 ∨ (tcpFlagsAt input).contains .urg = true) := by
  obtain ⟨hheader, hsixty, hwords⟩ := h.header_eq
  constructor
  · rintro ⟨padded, hvalid⟩
    exact hvalid.urgent.symm
  intro hurgent
  refine ⟨_, h.validateOptions_segment, hurgent.symm, ?_⟩
  have hlimit := h.accepts.limit
  have hfits := h.accepts.header
  change 20 + _ + (input.drop (tcpHeaderLength input)).length ≤ _
  rw [length_drop]
  omega

/-- With as little padding as possible, only the checksum may differ from what was parsed. -/
private theorem encodeTcp_segment (hpadding : padding < 4) (checksum : UInt16) :
    h.segment.encodeTcp checksum = field input 0 16 ++ (be16 checksum ++ input.drop 18) := by
  obtain ⟨hheader, hsixty, hwords⟩ := h.header_eq
  have hfits := h.accepts.header
  have hpadded : ((built.flatMap encodeOption).length + 3) / 4 * 4 = tcpHeaderLength input - 20 := by omega
  have hoptions := h.validateOptions_segment
  rw [hpadded] at hoptions
  have hbytes : h.segment.optionBytes (tcpHeaderLength input - 20) =
      field input 20 (tcpHeaderLength input - 20) := by
    rw [TcpSegment.optionBytes, h.segment_options, h.bytes, show tcpHeaderLength input - 20 -
      (built.flatMap encodeOption).length = padding by omega]
  have hflags : h.segment.flags.bits.toNat = (u8At input 12).toNat % 2 * 256 +
    (u8At input 13).toNat := flagsWord_toNat _ _
  have hbyte : (u8At input 13).toNat < 256 := (u8At input 13).toNat_lt
  have hhigh : h.segment.offsetByte (tcpHeaderLength input - 20) = u8At input 12 := by
    have hzero := congrArg UInt8.toNat h.reserved
    rw [(offsetByte_read (u8At input 12)).2, UInt8.toNat_zero] at hzero
    have hnibble := tcpHeaderLength_eq input
    rw [← UInt8.toNat_inj, TcpSegment.offsetByte_toNat _ (by omega), hflags]
    omega
  have hlow : UInt8.ofNat h.segment.flags.bits.toNat = u8At input 13 := by
    rw [← UInt8.toNat_inj, UInt8.toNat_ofNat', hflags]
    omega
  have hbefore : h.segment.beforeChecksum (tcpHeaderLength input - 20) = field input 0 16 := by
    rw [TcpSegment.beforeChecksum, hhigh, hlow]
    change be16 (u16At input 0) ++ (be16 (u16At input 2) ++ (be32 (u32At input 4) ++ (be32 (u32At input 8) ++
      ([u8At input 12] ++ [u8At input 13] ++ be16 (u16At input 14))))) = _
    simp (disch := omega) only [be16_u16At, be32_u32At, singleton_u8At]
    rw [← field_add, ← field_add, ← field_add, ← field_add, ← field_add, ← field_add]
  rw [TcpSegment.encodeTcp_eq hoptions, hbefore, hbytes]
  congr 2
  change be16 (u16At input 18) ++ (_ ++ input.drop (tcpHeaderLength input)) = _
  rw [be16_u16At (by omega), show tcpHeaderLength input = 20 + (tcpHeaderLength input - 20) by omega,
    Nat.add_sub_cancel_left, field_append_drop, field_append_drop]

private theorem input_eq : (field input 0 16).length = 16 ∧
    field input 0 16 ++ (be16 (u16At input 16) ++ input.drop 18) = input := by
  have hoffset := h.accepts.offset
  have hfits := h.accepts.header
  rw [be16_u16At (by omega), field_append_drop, field_append_drop, drop_zero]
  exact ⟨length_field (by omega), rfl⟩

private theorem compute_segment (hpadding : padding < 4) :
    computeTransportChecksum context tcpProtocol (h.segment.encodeTcp 0) =
      some (if u16At input 16 = 0xffff then 0 else u16At input 16) := by
  obtain ⟨hfront, hinput⟩ := h.input_eq
  rw [h.encodeTcp_segment hpadding]
  refine computeTransportChecksum_of_valid (by rw [hfront]) (by decide) ?_
  rw [hinput]
  exact h.accepts.checksum

private theorem build_iff :
    (∃ bytes, h.segment.build = .ok bytes) ↔ (u16At input 18 = 0 ∨ (tcpFlagsAt input).contains .urg = true) := by
  rw [← h.valid_iff]
  constructor
  · rintro ⟨bytes, hbuild⟩
    obtain ⟨padded, -, hvalid, -⟩ := TcpSegment.build_eq_ok_iff.mp hbuild
    exact ⟨padded, hvalid⟩
  rintro ⟨padded, hvalid⟩
  have hlength : (h.segment.encodeTcp 0).length ≤ 65535 := by
    rw [TcpSegment.length_encodeTcp hvalid.options]
    exact hvalid.length
  exact ⟨_, TcpSegment.build_eq_ok_iff.mpr ⟨padded, _, hvalid, computeTransportChecksum_eq _ _ hlength, rfl⟩⟩

private theorem build_eq_iff :
    h.segment.build = .ok input ↔
      (u16At input 18 = 0 ∨ (tcpFlagsAt input).contains .urg = true) ∧ padding < 4 ∧ u16At input 16 ≠ 0xffff := by
  obtain ⟨hheader, -, hwords⟩ := h.header_eq
  have hlong := h.accepts.header
  obtain ⟨hfront, hinput⟩ := h.input_eq
  constructor
  · intro hbuild
    obtain ⟨padded, checksum, hvalid, hchecksum, hbytes⟩ := TcpSegment.build_eq_ok_iff.mp hbuild
    have hpadded : padded = ((built.flatMap encodeOption).length + 3) / 4 * 4 :=
      Except.ok.inj (hvalid.options.symm.trans h.validateOptions_segment)
    -- the lengths agree, and so the padding is no longer than needed
    have hpadding : padding < 4 := by
      have hlength := congrArg List.length hbytes
      rw [TcpSegment.length_encodeTcp hvalid.options] at hlength
      have hpayload : h.segment.payload.length = input.length - tcpHeaderLength input := length_drop
      omega
    refine ⟨h.valid_iff.mp ⟨padded, hvalid⟩, hpadding, ?_⟩
    intro hones
    have hzero : checksum = 0 := by
      have hcompute := h.compute_segment hpadding
      rw [if_pos hones] at hcompute
      exact Option.some.inj (hchecksum.symm.trans hcompute)
    have hread := congrArg (u16At · 16) hbytes
    rw [h.encodeTcp_segment hpadding] at hread
    have hhead : u16At (field input 0 16 ++ (be16 checksum ++ input.drop 18)) 16 = checksum := by
      rw [u16At_skip (by omega), hfront, Nat.sub_self, u16At_head]
    rw [hhead, hones, hzero] at hread
    exact absurd hread (by decide)
  rintro ⟨hurgent, hpadding, hones⟩
  obtain ⟨padded, hvalid⟩ := h.valid_iff.mpr hurgent
  refine TcpSegment.build_eq_ok_iff.mpr ⟨padded, u16At input 16, hvalid, ?_, ?_⟩
  · have hcompute := h.compute_segment hpadding
    rwa [if_neg hones] at hcompute
  · rw [h.encodeTcp_segment hpadding, hinput]

end Clean

/-- A segment that is built is parsed with its own fields and options, and the end of the list if there was
padding.  A segment that is parsed without deviation can be built again exactly if it has no urgent pointer without
the flag, and is the result exactly if it also has less than four bytes of padding and no checksum of all ones. -/
theorem TcpSegment.round_trip :
    (∀ (s : TcpSegment) (bytes : Bytes), s.build = .ok bytes →
      ∃ r, parseTcpSegment bytes s.checksumContext = .ok r ∧ r.sourcePort = s.sourcePort ∧
        r.destinationPort = s.destinationPort ∧ r.sequenceNumber = s.sequenceNumber ∧
        r.acknowledgmentNumber = s.acknowledgmentNumber ∧ r.flags = s.flags ∧ r.windowSize = s.windowSize ∧
        r.urgentPointer = s.urgentPointer ∧ r.payload = s.payload ∧
        r.options.map (·.toOption) = s.options.map some ++
          (if (s.options.flatMap encodeOption).length % 4 = 0 then [] else [ParsedTcpOption.endOfList.toOption]) ∧
        r.conformance.isCanonical = true) ∧
    (∀ (input : Bytes) (context : TransportChecksumContext) (r : ParsedTcpSegment),
      parseTcpSegment input context = .ok r → r.conformance.isCanonical = true →
      ((∃ bytes, (r.toSegment context).build = .ok bytes) ↔ (r.urgentPointer = 0 ∨ r.flags.contains .urg = true)) ∧
      ((r.toSegment context).build = .ok input ↔ (r.urgentPointer = 0 ∨ r.flags.contains .urg = true) ∧
        tcpHeaderLength input < 24 + ((r.toSegment context).options.flatMap encodeOption).length ∧
          r.checksum ≠ 0xffff)) := by
  constructor
  · intro s bytes hbuild
    obtain ⟨padded, checksum, hvalid, hchecksum, rfl⟩ := build_eq_ok_iff.mp hbuild
    refine ⟨_, hvalid.parse_encodeTcp hchecksum, rfl, rfl, rfl, rfl, rfl, rfl, rfl, rfl, ?_, rfl⟩
    obtain ⟨-, -, hpadded, -⟩ := validateOptions_eq_ok_iff.mp hvalid.options
    have hparsed : (s.options.map (·.parsed)).map (·.toOption) = s.options.map some := by
      rw [map_map]
      exact map_congr_left fun o _ => o.toOption_parsed
    rw [map_append, hparsed, endOfOptions]
    congr 1
    by_cases hmultiple : (s.options.flatMap encodeOption).length % 4 = 0
    · rw [if_pos hmultiple, if_pos (by omega)]
      rfl
    · rw [if_neg hmultiple, if_neg (by omega)]
      rfl
  intro input context r hparse hcanonical
  obtain ⟨built, padding, hclean, rfl⟩ := clean_of_parse hparse hcanonical
  refine ⟨hclean.build_iff, ?_⟩
  have hlength :
    (ParsedTcpSegment.toSegment (tcpFields input (built.map (·.parsed) ++ endOfOptions padding) .default)
      context).options = built := hclean.segment_options
  rw [hlength]
  have hpadding : tcpHeaderLength input < 24 + (built.flatMap encodeOption).length ↔ padding < 4 := by
    rw [hclean.header_eq.1]
    omega
  rw [hpadding]
  exact hclean.build_eq_iff

/-- A synchronization with the usual options and one byte of padding. -/
def synSegment : TcpSegment where
  checksumContext := .ipv4 0x0a000001 0x0a000002
  sourcePort := 40000
  destinationPort := 443
  sequenceNumber := 7
  acknowledgmentNumber := 0
  flags := .syn
  windowSize := 64240
  urgentPointer := 0
  options := [.maximumSegmentSize 1460, .sackPermitted, .timestamp 1 0, .noOperation, .windowScale 7,
    .unknown 253 [1]]
  payload := []

def synBytes : Bytes := synSegment.encodeTcp 36097

def synParsed : ParsedTcpSegment := tcpFields synBytes (synSegment.options.map (·.parsed) ++ [.endOfList]) .default

theorem TcpSegment.round_trip_syn :
    (∃ r, parseTcpSegment synBytes synSegment.checksumContext = .ok r ∧ r.flags = .syn ∧
      r.options.map (·.toOption) = synSegment.options.map some ++ [none]) ∧
    (synParsed.toSegment synSegment.checksumContext).build = .ok synBytes := by
  constructor
  · obtain ⟨r, hparse, -, -, -, -, hflags, -, -, -, hoptions, -⟩ :=
    round_trip.1 synSegment synBytes (by decide +kernel)
    exact ⟨r, hparse, hflags, hoptions⟩
  · exact (round_trip.2 synBytes synSegment.checksumContext synParsed (by decide +kernel)
      (by decide +kernel)).2.mpr ⟨.inl (by decide +kernel), by decide +kernel, by decide +kernel⟩

/-- An acknowledgment of nothing, with the given window, checksum, urgent pointer and option bytes. -/
def bareSegment (window checksum urgentPointer : UInt16) (options : Bytes) : Bytes :=
  be16 0 ++ be16 0 ++ be32 0 ++ be32 0 ++ [UInt8.ofNat (80 + 4 * options.length), 0x10] ++ be16 window ++
    be16 checksum ++ be16 urgentPointer ++ options

/-- Three segments that are parsed without deviation and not reproduced: an urgent pointer without its flag, a
header that is padded by a whole word, and a checksum of all ones. -/
theorem TcpSegment.parsed_not_rebuilt :
    (∃ r, parseTcpSegment (bareSegment 0 0xafd4 1 []) (.ipv4 0 0) = .ok r ∧ r.conformance.isCanonical = true ∧
      (r.toSegment (.ipv4 0 0)).build = .error (.invalidValue .urgentPointer)) ∧
    (∃ r, parseTcpSegment (bareSegment 0 0x9fd1 0 [0, 0, 0, 0]) (.ipv4 0 0) = .ok r ∧
      r.conformance.isCanonical = true ∧ (r.toSegment (.ipv4 0 0)).build = .ok (bareSegment 0 0xafd5 0 [])) ∧
    (∃ r, parseTcpSegment (bareSegment 0xafd5 0xffff 0 []) (.ipv4 0 0) = .ok r ∧ r.conformance.isCanonical = true ∧
      (r.toSegment (.ipv4 0 0)).build = .ok (bareSegment 0xafd5 0 0 [])) := by
  refine ⟨⟨tcpFields (bareSegment 0 0xafd4 1 []) [] .default, ?_⟩,
    ⟨tcpFields (bareSegment 0 0x9fd1 0 [0, 0, 0, 0]) [.endOfList] .default, ?_⟩,
    ⟨tcpFields (bareSegment 0xafd5 0xffff 0 []) [] .default, ?_⟩⟩ <;> decide +kernel

end NodeNet.Protocols
