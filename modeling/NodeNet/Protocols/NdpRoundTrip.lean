import NodeNet.Protocols.Link
import NodeNet.Protocols.Ndp

/-!
# Neighbor Discovery messages, there and back

The builder checks the addresses and the options of a message before it writes them, and the parser checks them
again.  A message that is built is parsed as itself, with the bodies of its options padded to eight bytes.  A
message that is parsed without deviation is built again, except in two cases: a solicitation without a source
address that gives a link-layer address, and an option of kind zero (`NdpPacket.round_trip_iff`).
-/

namespace NodeNet.Protocols

open List

/-! ### Building -/

inductive NdpOption where
  | sourceLinkLayerAddress (address : MacAddress)
  | targetLinkLayerAddress (address : MacAddress)
  | prefixInformation (prefixLength : UInt8) (onLink autonomous : Bool) (validLifetime preferredLifetime : UInt32)
      (address : Ipv6Address)
  | redirectedHeader (quote : Bytes)
  | mtu (value : UInt32)
  | unknown (kind : UInt8) (body : Bytes)
deriving DecidableEq

def roundedOptionLength (header body : Nat) : Nat := (header + body + 7) / 8 * 8

def maxNdpOptionLength : Nat := 255 * 8

namespace NdpOption

/-- An option fits the length field, which counts units of eight bytes. -/
def boundedLength (length : Nat) : Except BuildError Nat :=
  if length > maxNdpOptionLength then .error (.lengthExceedsLimit length maxNdpOptionLength .ip) else .ok length

def requiredLength : NdpOption → Except BuildError Nat
  | sourceLinkLayerAddress _ | targetLinkLayerAddress _ | mtu _ => boundedLength 8
  | prefixInformation _ _ _ _ _ _ => boundedLength 32
  | redirectedHeader quote => boundedLength (roundedOptionLength 8 quote.length)
  | unknown kind body =>
    if kind ≤ 5 then .error (.invalidValue .optionKind) else boundedLength (roundedOptionLength 2 body.length)

def isSourceLinkLayerAddress : NdpOption → Bool
  | sourceLinkLayerAddress _ => true
  | _ => false

def isTargetLinkLayerAddress : NdpOption → Bool
  | targetLinkLayerAddress _ => true
  | _ => false

def isMtu : NdpOption → Bool
  | mtu _ => true
  | _ => false

end NdpOption

structure NdpPacket where
  context : NdpContext
  message : NdpMessage
  options : List NdpOption
deriving DecidableEq

def optionAllowed : NdpMessage → NdpOption → Bool
  | .routerSolicitation, .sourceLinkLayerAddress _ => true
  | .routerAdvertisement _ _ _ _ _ _ _, .sourceLinkLayerAddress _ => true
  | .neighborSolicitation _, .sourceLinkLayerAddress _ => true
  | .neighborAdvertisement _ _ _ _, .targetLinkLayerAddress _ => true
  | .redirect _ _, .targetLinkLayerAddress _ => true
  | .routerAdvertisement _ _ _ _ _ _ _, .prefixInformation _ _ _ _ _ _ => true
  | .routerAdvertisement _ _ _ _ _ _ _, .mtu _ => true
  | .redirect _ _, .redirectedHeader _ => true
  | _, .unknown _ _ => true
  | _, _ => false

/-- Counts the options that may stand once, in the order of the list. -/
def validateOptionPlacementFrom (message : NdpMessage) : Nat → Nat → Nat → List NdpOption → Except BuildError Unit
  | sourceLla, targetLla, mtu, [] =>
    if sourceLla > 1 ∨ targetLla > 1 ∨ mtu > 1 then .error (.invalidValue .optionKind) else .ok ()
  | sourceLla, targetLla, mtu, option :: rest =>
    if !optionAllowed message option then .error (.invalidValue .optionKind)
    else
      match option with
      | .sourceLinkLayerAddress _ => validateOptionPlacementFrom message (sourceLla + 1) targetLla mtu rest
      | .targetLinkLayerAddress _ => validateOptionPlacementFrom message sourceLla (targetLla + 1) mtu rest
      | .mtu _ => validateOptionPlacementFrom message sourceLla targetLla (mtu + 1) rest
      | .prefixInformation _ _ _ validLifetime preferredLifetime _ =>
        if preferredLifetime > validLifetime then .error (.invalidValue .optionLength)
        else validateOptionPlacementFrom message sourceLla targetLla mtu rest
      | .redirectedHeader _ | .unknown _ _ => validateOptionPlacementFrom message sourceLla targetLla mtu rest

def validateOptionPlacement (message : NdpMessage) (options : List NdpOption) : Except BuildError Unit :=
  validateOptionPlacementFrom message 0 0 0 options

def validateContext (context : NdpContext) (message : NdpMessage) (options : List NdpOption) :
    Except BuildError Unit :=
  if context.hopLimit ≠ 255 then .error (.invalidValue .headerLength)
  else
    match validateOptionPlacement message options with
    | .error error => .error error
    | .ok () =>
      if !addressesAreValid context message (options.any (·.isSourceLinkLayerAddress)) then
        .error (.invalidValue .address)
      else .ok ()

def messageLength : NdpMessage → Nat
  | .routerSolicitation => 8
  | .routerAdvertisement _ _ _ _ _ _ _ => 16
  | .neighborSolicitation _ | .neighborAdvertisement _ _ _ _ => 24
  | .redirect _ _ => 40

def encodePreference (preference : Int) : UInt8 := if preference = 1 then 1 else if preference = -1 then 3 else 0

def flagAt (flag : Bool) (bit : UInt8) : UInt8 := (if flag then 1 else 0) <<< bit

/-- The fixed part of a message, with the given checksum field. -/
def writeMessage (message : NdpMessage) (checksum : UInt16) : Bytes :=
  match message with
  | .routerSolicitation => [133, 0] ++ (be16 checksum ++ [0, 0, 0, 0])
  | .routerAdvertisement currentHopLimit managed otherConfiguration preference routerLifetime reachableTime
      retransmitTimer =>
    ([134, 0] : Bytes) ++ (be16 checksum ++ ([currentHopLimit,
      flagAt managed 7 ||| flagAt otherConfiguration 6 ||| encodePreference preference <<< 3] ++
      (be16 routerLifetime ++ (be32 reachableTime ++ be32 retransmitTimer))))
  | .neighborSolicitation target => [135, 0] ++ (be16 checksum ++ ([0, 0, 0, 0] ++ ipv6Octets target))
  | .neighborAdvertisement router solicited overrideFlag target =>
    [136, 0] ++ (be16 checksum ++ ([flagAt router 7 ||| flagAt solicited 6 ||| flagAt overrideFlag 5, 0, 0, 0] ++
      ipv6Octets target))
  | .redirect target destination =>
    [137, 0] ++ (be16 checksum ++ ([0, 0, 0, 0] ++ (ipv6Octets target ++ ipv6Octets destination)))

/-- A body with zeros up to the rounded length of its option. -/
def paddedBody (header : Nat) (body : Bytes) : Bytes :=
  body ++ List.replicate (roundedOptionLength header body.length - header - body.length) 0

def writeOption (option : NdpOption) : Bytes :=
  match option with
  | .sourceLinkLayerAddress address => [1, 1] ++ macOctets address
  | .targetLinkLayerAddress address => [2, 1] ++ macOctets address
  | .prefixInformation prefixLength onLink autonomous validLifetime preferredLifetime address =>
    [3, 4, prefixLength, flagAt onLink 7 ||| flagAt autonomous 6] ++
      (be32 validLifetime ++ (be32 preferredLifetime ++ ([0, 0, 0, 0] ++ ipv6Octets address)))
  | .redirectedHeader quote =>
    [4, UInt8.ofNat (roundedOptionLength 8 quote.length / 8), 0, 0, 0, 0, 0, 0] ++ paddedBody 8 quote
  | .mtu value => [5, 1, 0, 0] ++ be32 value
  | .unknown kind body => [kind, UInt8.ofNat (roundedOptionLength 2 body.length / 8)] ++ paddedBody 2 body

namespace NdpPacket

def requiredLength (p : NdpPacket) : Except BuildError Nat :=
  match validateContext p.context p.message p.options with
  | .error error => .error error
  | .ok () =>
    if p.options.length > maxNdpOptionCount then
      .error (.lengthExceedsLimit p.options.length maxNdpOptionCount .ip)
    else
      match addLengths NdpOption.requiredLength 0 p.options with
      | .error error => .error error
      | .ok optionBytes =>
        if optionBytes > maxNdpOptionBytes then .error (.lengthExceedsLimit optionBytes maxNdpOptionBytes .ip)
        else
          let total := messageLength p.message + optionBytes
          if total > maxIcmpv6MessageBytes then .error (.lengthExceedsLimit total maxIcmpv6MessageBytes .ip)
          else PacketLength.new total .ip

def encode (p : NdpPacket) (checksum : UInt16) : Bytes :=
  writeMessage p.message checksum ++ p.options.flatMap writeOption

def build (p : NdpPacket) : Except BuildError Bytes :=
  match p.requiredLength with
  | .error error => .error error
  | .ok _ =>
    match computeTransportChecksum p.context.checksumContext icmpv6Protocol (p.encode 0) with
    | none => .error (.arithmeticOverflow .packetLength)
    | some checksum => .ok (p.encode checksum)

end NdpPacket

def NdpConformance.isCanonical (c : NdpConformance) : Bool := c = .default

/-! ### One option -/

/-- What the parser makes of an option that was written. -/
def NdpOption.parsed : NdpOption → ParsedNdpOption
  | sourceLinkLayerAddress address => .sourceLinkLayerAddress (macOctets address)
  | targetLinkLayerAddress address => .targetLinkLayerAddress (macOctets address)
  | prefixInformation prefixLength onLink autonomous validLifetime preferredLifetime address =>
    .prefixInformation prefixLength (flagAt onLink 7 ||| flagAt autonomous 6) validLifetime
      preferredLifetime address
  | redirectedHeader quote => .redirectedHeader (paddedBody 8 quote)
  | mtu value => .mtu value
  | unknown kind body => .unknown kind (paddedBody 2 body)

/-- The option that the builder takes for a parsed one. -/
def ParsedNdpOption.toOption : ParsedNdpOption → NdpOption
  | sourceLinkLayerAddress value => .sourceLinkLayerAddress (macAt value 0)
  | targetLinkLayerAddress value => .targetLinkLayerAddress (macAt value 0)
  | prefixInformation prefixLength flags validLifetime preferredLifetime address =>
    .prefixInformation prefixLength (flags &&& 0x80 ≠ 0) (flags &&& 0x40 ≠ 0) validLifetime
      preferredLifetime address
  | redirectedHeader quote => .redirectedHeader quote
  | mtu value => .mtu value
  | unknown kind body => .unknown kind body

/-- A prefix is not preferred for longer than it is valid. -/
def NdpOption.lifetimesAgree : NdpOption → Bool
  | prefixInformation _ _ _ validLifetime preferredLifetime _ => !decide (preferredLifetime > validLifetime)
  | _ => true

variable {n : Nat}

private theorem roundedOptionLength_of_multiple {header body : Nat} (h : (body + header) % 8 = 0) :
    roundedOptionLength header body = body + header := by
  unfold roundedOptionLength
  omega

private theorem boundedLength_eq_ok {length : Nat} (h : NdpOption.boundedLength length = .ok n) :
    n = length ∧ length ≤ 2040 := by
  obtain ⟨hle, h⟩ := ite_error_eq_ok.mp h
  exact ⟨(Except.ok.inj h).symm, Nat.le_of_not_lt hle⟩

private theorem length_paddedBody (header : Nat) (body : Bytes) :
    header + (paddedBody header body).length = roundedOptionLength header body.length := by
  rw [paddedBody, length_append, length_replicate]
  unfold roundedOptionLength
  omega

/-- The first byte and the second of an option that is written, and how many there are. -/
private theorem writeOption_spec {o : NdpOption} (h : o.requiredLength = .ok n) :
    (writeOption o).length = n ∧ n % 8 = 0 ∧ 8 ≤ n ∧ n ≤ 2040 ∧ (u8At (writeOption o) 1).toNat = n / 8 := by
  have hround : ∀ header body, 2 ≤ header → roundedOptionLength header body % 8 = 0 ∧
    8 ≤ roundedOptionLength header body := by
    intro header body _
    unfold roundedOptionLength
    omega
  have hunits : ∀ m, m ≤ 2040 → (UInt8.ofNat (m / 8)).toNat = m / 8 := by
    intro m hm
    rw [UInt8.toNat_ofNat']
    exact Nat.mod_eq_of_lt (by omega)
  cases o with
  | sourceLinkLayerAddress address | targetLinkLayerAddress address | mtu value
  | prefixInformation prefixLength onLink autonomous validLifetime preferredLifetime address =>
    obtain ⟨rfl, -⟩ := boundedLength_eq_ok h
    simp [writeOption]
  | redirectedHeader quote =>
    obtain ⟨rfl, hle⟩ := boundedLength_eq_ok h
    obtain ⟨hmultiple, height⟩ := hround 8 quote.length (by omega)
    exact ⟨length_append.trans (length_paddedBody 8 quote), hmultiple, height, hle, hunits _ hle⟩
  | unknown kind body =>
    obtain ⟨-, h⟩ := ite_error_eq_ok.mp h
    obtain ⟨rfl, hle⟩ := boundedLength_eq_ok h
    obtain ⟨hmultiple, height⟩ := hround 2 body.length (by omega)
    exact ⟨length_append.trans (length_paddedBody 2 body), hmultiple, height, hle, hunits _ hle⟩

private theorem parseOption_skip (before rest : Bytes) (n : Nat) (c : NdpConformance) :
    parseOption (before ++ rest) before.length (before.length + n) c = parseOption rest 0 n c := by
  simp (disch := omega) only [parseOption, u8At_skip, field_skip, u32At_skip, ipv6At_skip, Nat.add_sub_cancel_left,
    Nat.sub_self, Nat.zero_add, Nat.sub_zero]

variable {offset : Nat}

private theorem field_cut {a : Bytes} (rest : Bytes) {width : Nat} (h : offset + width = a.length) :
    field (a ++ rest) offset width = a.drop offset := by
  rw [field, drop_append_of_le_length (by omega), take_left' (by rw [length_drop]; omega)]

private theorem parseOption_writeOption {o : NdpOption} (h : o.requiredLength = .ok n)
    (hlifetimes : o.lifetimesAgree = true) (rest : Bytes) (c : NdpConformance) :
    parseOption (writeOption o ++ rest) 0 n c = .ok (o.parsed, c) := by
  obtain ⟨hlength, hmultiple, height, -, -⟩ := writeOption_spec h
  have hbody : field (writeOption o ++ rest) 2 (n - 2) = (writeOption o).drop 2 := field_cut rest (by omega)
  have hquote : field (writeOption o ++ rest) 8 (n - 8) = (writeOption o).drop 8 := field_cut rest (by omega)
  generalize hinput : writeOption o ++ rest = input at hbody hquote ⊢
  cases o with
  | sourceLinkLayerAddress address | targetLinkLayerAddress address =>
    simp only [parseOption, Nat.zero_add, Nat.sub_zero, hbody]
    rw [← hinput]
    rfl
  | prefixInformation prefixLength onLink autonomous validLifetime preferredLifetime address =>
    obtain ⟨rfl, -⟩ := boundedLength_eq_ok h
    have hkind : u8At input 0 = 3 := hinput ▸ rfl
    have hagree : decide (preferredLifetime > validLifetime) = false := by
      simpa [NdpOption.lifetimesAgree] using hlifetimes
    have hreserved : field input 12 4 = [0, 0, 0, 0] := hinput ▸ rfl
    simp +decide only [parseOption, hkind, Nat.zero_add, Nat.sub_zero, hreserved, reduceIte]
    simp [← hinput, writeOption, hagree, NdpOption.parsed]
  | redirectedHeader quote =>
    have hkind : u8At input 0 = 4 := hinput ▸ rfl
    have hreserved : field input 2 6 = [0, 0, 0, 0, 0, 0] := hinput ▸ rfl
    have hzeros : ([0, 0, 0, 0, 0, 0] : Bytes).any (· ≠ 0) = false := rfl
    simp +decide only [parseOption, hkind, Nat.zero_add, Nat.sub_zero, hreserved, hquote, height, false_and,
      reduceIte, hzeros, Bool.or_false]
    rfl
  | mtu value =>
    obtain ⟨rfl, -⟩ := boundedLength_eq_ok h
    have hkind : u8At input 0 = 5 := hinput ▸ rfl
    have hreserved : field input 2 2 = [0, 0] := hinput ▸ rfl
    simp +decide only [parseOption, hkind, Nat.zero_add, Nat.sub_zero, hreserved, reduceIte]
    simp [← hinput, writeOption, NdpOption.parsed]
  | unknown kind body =>
    obtain ⟨hkind, -⟩ := ite_error_eq_ok.mp h
    have hread : u8At input 0 = kind := hinput ▸ rfl
    have hother : kind ≠ 1 ∧ kind ≠ 2 ∧ kind ≠ 3 ∧ kind ≠ 4 ∧ kind ≠ 5 := by
      refine ⟨?_, ?_, ?_, ?_, ?_⟩ <;> rintro rfl <;> exact hkind (by decide)
    simp only [parseOption, hread, Nat.zero_add, Nat.sub_zero, hbody, hother, false_and, false_or, reduceIte]
    rfl

/-! ### The list of options -/

private theorem parseOptionsFrom_writeOptions (c : NdpConformance) :
    ∀ (options : List NdpOption) (before : Bytes) (left : Nat) (done : List ParsedNdpOption),
      (∀ o ∈ options, o.requiredLength = .ok (writeOption o).length) → (∀ o ∈ options, o.lifetimesAgree = true) →
      (options.flatMap writeOption).length ≤ left → done.length + options.length ≤ 64 →
      parseOptionsFrom (before ++ options.flatMap writeOption) left before.length done c =
        .ok (done ++ options.map (·.parsed), c) := by
  intro options
  induction options with
  | nil =>
    intro before left done _ _ _ _
    cases left <;> simp [parseOptionsFrom]
  | cons o rest ih =>
    intro before left done hfits hlifetimes hleft hcount
    obtain ⟨hfit, hfits⟩ := forall_mem_cons.mp hfits
    obtain ⟨hlifetime, hlifetimes⟩ := forall_mem_cons.mp hlifetimes
    obtain ⟨-, hmultiple, height, -, hunits⟩ := writeOption_spec hfit
    rw [flatMap_cons, length_append] at hleft
    rw [length_cons] at hcount
    obtain ⟨left, rfl⟩ : ∃ k, left = k + 1 := ⟨left - 1, by omega⟩
    have hinput : (before ++ (writeOption o ++ rest.flatMap writeOption)).length =
        before.length + (writeOption o).length + (rest.flatMap writeOption).length := by
      simp only [length_append]
      omega
    have hread : (u8At (before ++ (writeOption o ++ rest.flatMap writeOption)) (before.length + 1)).toNat * 8 =
        (writeOption o).length := by
      have hfront : u8At (writeOption o ++ rest.flatMap writeOption) 1 = u8At (writeOption o) 1 := by
        rw [← u8At_take (show 1 < (writeOption o).length by omega), take_left]
      rw [u8At_skip (by omega), Nat.add_sub_cancel_left, hfront, hunits]
      omega
    have hparse : parseOption (before ++ (writeOption o ++ rest.flatMap writeOption)) before.length
        (before.length + (writeOption o).length) c = .ok (o.parsed, c) := by
      rw [parseOption_skip]
      exact parseOption_writeOption hfit hlifetime _ c
    have htail := ih (before ++ writeOption o) left (done ++ [o.parsed]) hfits hlifetimes (by omega)
      (by rw [length_append, length_singleton]; omega)
    rw [length_append, append_assoc, append_assoc, singleton_append, ← map_cons] at htail
    rw [flatMap_cons, parseOptionsFrom.eq_def]
    dsimp only
    rw [if_neg (by omega), if_neg (by omega), if_neg (by omega), hread, if_neg (by omega),
      if_neg (by unfold maxNdpOptionCount; omega), hparse]
    exact htail

/-- The bytes that an option was parsed from. -/
def ParsedNdpOption.wireLength : ParsedNdpOption → Nat
  | sourceLinkLayerAddress value | targetLinkLayerAddress value => value.length + 2
  | prefixInformation _ _ _ _ _ => 32
  | redirectedHeader quote => quote.length + 8
  | mtu _ => 8
  | unknown _ body => body.length + 2

/-- A parsed option is as long as its length field says, and is of an unknown kind only if that is none of the
others. -/
private structure ParsedNdpOption.Sound (o : ParsedNdpOption) : Prop where
  multiple : o.wireLength % 8 = 0
  minimum : 8 ≤ o.wireLength
  maximum : o.wireLength ≤ 2040
  kind : ∀ kind body, o = .unknown kind body → kind = 0 ∨ 5 < kind
  lifetimes : o.toOption.lifetimesAgree = true

variable {c : NdpConformance} {input : Bytes}

private theorem parseOption_sound {length : Nat} {c' : NdpConformance} {o : ParsedNdpOption}
    (hmultiple : length % 8 = 0) (hminimum : 8 ≤ length) (hmaximum : length ≤ 2040)
    (hinput : offset + length ≤ input.length) (h : parseOption input offset (offset + length) c = .ok (o, c')) :
    o.wireLength = length ∧ (c' = .default → c = .default ∧ o.Sound) := by
  have hwire : ∀ k, k ≤ 8 → (field input (offset + k) (length - k)).length + k = length := by
    intro k hk
    rw [length_field (by omega)]
    omega
  have hclean : ∀ fault, { c with reservedFieldNonzero := c.reservedFieldNonzero || fault } =
      NdpConformance.default → c = .default := by
    intro fault hc
    cases c
    simp_all [NdpConformance.default]
  have hsound : ∀ o : ParsedNdpOption, o.wireLength = length →
    (∀ kind body, o = .unknown kind body → kind = 0 ∨ 5 < kind) → o.toOption.lifetimesAgree = true → o.Sound := by
    intro o hlength hkind hlifetimes
    exact ⟨by omega, by omega, by omega, hkind, hlifetimes⟩
  unfold parseOption at h
  dsimp only at h
  rw [Nat.add_sub_cancel_left] at h
  iterate 2
    split at h
    · cases h
      exact ⟨hwire 2 (by decide), fun hc => ⟨hc, hsound _ (hwire 2 (by decide)) (by simp) rfl⟩⟩
  split at h
  next hpart =>
    cases h
    refine ⟨hpart.2.symm, fun hc => ?_⟩
    simp only [NdpConformance.default, NdpConformance.mk.injEq, Bool.or_eq_false_iff] at hc
    obtain ⟨⟨hreserved, -⟩, hpreference, hduplicate, hallowed, hlifetime, hagree⟩ := hc
    refine ⟨?_, hsound _ hpart.2.symm (by simp) ?_⟩
    · cases c
      simp_all [NdpConformance.default]
    · simpa [ParsedNdpOption.toOption, NdpOption.lifetimesAgree] using hagree
  split at h
  · cases h
    exact ⟨hwire 8 (by decide), fun hc => ⟨hclean _ hc, hsound _ (hwire 8 (by decide)) (by simp) rfl⟩⟩
  split at h
  next hmtu =>
    cases h
    exact ⟨hmtu.2.symm, fun hc => ⟨hclean _ hc, hsound _ hmtu.2.symm (by simp) rfl⟩⟩
  split at h
  · cases h
  next hone htwo _ _ _ hother =>
  cases h
  refine ⟨hwire 2 (by decide), fun hc => ⟨hc, hsound _ (hwire 2 (by decide)) ?_ rfl⟩⟩
  rintro kind body ⟨⟩
  have hbyte : ∀ b : UInt8, ¬ b = 1 → ¬ b = 2 → ¬ (b = 3 ∨ b = 4 ∨ b = 5) → b = 0 ∨ 5 < b :=
    forall_byte (by decide +kernel)
  exact hbyte _ hone htwo hother

variable {options : List ParsedNdpOption}

private theorem parseOptionsFrom_sound {left : Nat} {done : List ParsedNdpOption} {c' : NdpConformance}
    (hoffset : offset ≤ input.length) (hleft : input.length - offset ≤ left) (hdone : done.length ≤ 64)
    (h : parseOptionsFrom input left offset done c = .ok (options, c')) :
    ∃ more, options = done ++ more ∧ options.length ≤ 64 ∧ (more.map (·.wireLength)).sum = input.length - offset ∧
      (c' = .default → c = .default ∧ ∀ o ∈ more, o.Sound) := by
  induction left generalizing offset done c with
  | zero =>
    cases h
    exact ⟨[], (append_nil _).symm, hdone, by simp; omega, fun hc => ⟨hc, by simp⟩⟩
  | succ left ih =>
    rw [parseOptionsFrom.eq_def] at h
    dsimp only at h
    split at h
    next hend =>
      cases h
      exact ⟨[], (append_nil _).symm, hdone, by simp; omega, fun hc => ⟨hc, by simp⟩⟩
    obtain ⟨htwo, h⟩ := ite_error_eq_ok.mp h
    obtain ⟨hunits, h⟩ := ite_error_eq_ok.mp h
    obtain ⟨hstop, h⟩ := ite_error_eq_ok.mp h
    obtain ⟨hcount, h⟩ := ite_error_eq_ok.mp h
    unfold maxNdpOptionCount at hcount
    split at h
    · cases h
    next o c1 hoption =>
    have hbyte : (u8At input (offset + 1)).toNat < 256 := (u8At input (offset + 1)).toNat_lt
    obtain ⟨hwire, hsound⟩ := parseOption_sound (by omega) (by omega) (by omega) (by omega) hoption
    obtain ⟨more, rfl, hlength, hsum, hclean⟩ := ih (by omega) (by omega)
      (by rw [length_append, length_singleton]; omega) h
    refine ⟨o :: more, by rw [append_assoc]; rfl, hlength, ?_, fun hc => ?_⟩
    · rw [map_cons, sum_cons, hsum, hwire]
      omega
    obtain ⟨hc1, hrest⟩ := hclean hc
    obtain ⟨hfirst, ho⟩ := hsound hc1
    exact ⟨hfirst, forall_mem_cons.mpr ⟨ho, hrest⟩⟩

/-! ### Addresses and placement -/

/-- The two messages that may ask without an address of their own. -/
def NdpMessage.isSolicitation : NdpMessage → Bool
  | routerSolicitation | neighborSolicitation _ => true
  | _ => false

/-- The options matter to the addresses only where a solicitation has no source address. -/
theorem addressesAreValid_iff (context : NdpContext) (message : NdpMessage) (announced : Bool) :
    addressesAreValid context message announced = true ↔ addressesAreValid context message false = true ∧
      ¬ (message.isSolicitation = true ∧ isUnspecified context.source = true ∧ announced = true) := by
  cases announced with
  | false => simp
  | true =>
    cases message with
    | routerSolicitation => simp [addressesAreValid, NdpMessage.isSolicitation, and_assoc]
    | neighborSolicitation target =>
      simp only [addressesAreValid, NdpMessage.isSolicitation]
      by_cases hsource : isUnspecified context.source = true <;> simp [hsource]
    | routerAdvertisement | neighborAdvertisement | redirect => simp [addressesAreValid, NdpMessage.isSolicitation]

variable {message : NdpMessage}

private theorem validateOptionPlacementFrom_eq_ok_iff {options : List NdpOption} {a b c : Nat} :
    validateOptionPlacementFrom message a b c options = .ok () ↔
      (∀ o ∈ options, optionAllowed message o = true ∧ o.lifetimesAgree = true) ∧
        a + options.countP (·.isSourceLinkLayerAddress) ≤ 1 ∧ b + options.countP (·.isTargetLinkLayerAddress) ≤ 1 ∧
        c + options.countP (·.isMtu) ≤ 1 := by
  induction options generalizing a b c with
  | nil =>
    rw [validateOptionPlacementFrom, ite_error_eq_ok]
    simp
  | cons o rest ih =>
    rw [validateOptionPlacementFrom.eq_def]
    dsimp only
    rw [ite_error_eq_ok, forall_mem_cons]
    cases o with
    | prefixInformation prefixLength onLink autonomous validLifetime preferredLifetime address =>
      simp [ite_error_eq_ok, ih, NdpOption.lifetimesAgree, NdpOption.isSourceLinkLayerAddress,
        NdpOption.isTargetLinkLayerAddress, NdpOption.isMtu, and_assoc]
    | sourceLinkLayerAddress | targetLinkLayerAddress | mtu | redirectedHeader | unknown =>
      simp [ih, NdpOption.lifetimesAgree, NdpOption.isSourceLinkLayerAddress, NdpOption.isTargetLinkLayerAddress,
        NdpOption.isMtu, and_assoc, Nat.add_assoc, Nat.add_comm 1]

variable {context : NdpContext}

theorem validateContext_eq_ok_iff {options : List NdpOption} :
    validateContext context message options = .ok () ↔ context.hopLimit = 255 ∧
      (∀ o ∈ options, optionAllowed message o = true ∧ o.lifetimesAgree = true) ∧
      (options.countP (·.isSourceLinkLayerAddress) ≤ 1 ∧ options.countP (·.isTargetLinkLayerAddress) ≤ 1 ∧
        options.countP (·.isMtu) ≤ 1) ∧
        addressesAreValid context message (options.any (·.isSourceLinkLayerAddress)) = true := by
  have hplacement := @validateOptionPlacementFrom_eq_ok_iff message options 0 0 0
  simp only [Nat.zero_add] at hplacement
  unfold validateContext validateOptionPlacement
  rw [ite_error_eq_ok, not_not]
  rw [← and_assoc (c := addressesAreValid _ _ _ = true), ← hplacement]
  cases validateOptionPlacementFrom message 0 0 0 options <;> simp

theorem validateParsedContext_eq_ok_iff :
    validateParsedContext context message options c = .ok .default ↔
    addressesAreValid context message false = true ∧
      ¬ (message = .routerSolicitation ∧ isUnspecified context.source = true ∧
        options.countP (·.isSourceLinkLayerAddress) ≠ 0) ∧ c = .default ∧
      (∀ o ∈ options, parsedOptionAllowed message o = true) ∧ options.countP (·.isSourceLinkLayerAddress) ≤ 1 ∧
        options.countP (·.isTargetLinkLayerAddress) ≤ 1 ∧ options.countP (·.isMtu) ≤ 1 := by
  unfold validateParsedContext
  simp only [ite_error_eq_ok, Bool.not_eq_true', Bool.not_eq_false, Except.ok.injEq]
  refine and_congr_right fun _ => and_congr_right fun _ => ?_
  cases c
  simp only [NdpConformance.default, NdpConformance.mk.injEq, Bool.or_eq_false_iff, any_eq_false,
    decide_eq_false_iff_not, not_or, Nat.not_lt, Bool.not_eq_true', Bool.not_eq_false]
  tauto

/-! ### The fixed part -/

private theorem flagAt_read : ∀ a b c : Bool,
    decide ((flagAt a 7 ||| flagAt b 6 ||| flagAt c 5) &&& 0x80 ≠ 0) = a ∧
    decide ((flagAt a 7 ||| flagAt b 6 ||| flagAt c 5) &&& 0x40 ≠ 0) = b ∧
    decide ((flagAt a 7 ||| flagAt b 6 ||| flagAt c 5) &&& 0x20 ≠ 0) = c ∧
    (flagAt a 7 ||| flagAt b 6 ||| flagAt c 5) &&& 0x1f = 0 := by decide

private theorem advertisement_read : ∀ (a b : Bool) (preference : Int), -1 ≤ preference → preference ≤ 1 →
    decide ((flagAt a 7 ||| flagAt b 6 ||| encodePreference preference <<< 3) &&& 0x80 ≠ 0) = a ∧
    decide ((flagAt a 7 ||| flagAt b 6 ||| encodePreference preference <<< 3) &&& 0x40 ≠ 0) = b ∧
    decodePreference (((flagAt a 7 ||| flagAt b 6 ||| encodePreference preference <<< 3) >>> 3) &&& 0x03) =
    some preference ∧
    (flagAt a 7 ||| flagAt b 6 ||| encodePreference preference <<< 3) &&& 0x27 = 0 := by
  intro a b preference hlow hhigh
  obtain rfl | rfl | rfl : preference = -1 ∨ preference = 0 ∨ preference = 1 := by omega
  all_goals
    revert a b
    decide

theorem length_writeMessage (message : NdpMessage) (checksum : UInt16) :
    (writeMessage message checksum).length = messageLength message := by
  cases message <;> simp [writeMessage, messageLength]

private theorem parseNdpBody_writeMessage (checksum : UInt16) (rest : Bytes)
    (h : addressesAreValid context message false = true) :
    parseNdpBody (writeMessage message checksum ++ rest) = .ok (message, messageLength message, .default) := by
  have hlength : (writeMessage message checksum ++ rest).length = messageLength message + rest.length := by
    rw [length_append, length_writeMessage]
  generalize hinput : writeMessage message checksum ++ rest = input at hlength ⊢
  cases message with
  | routerSolicitation =>
    have hkind : u8At input 0 = 133 := hinput ▸ rfl
    have hreserved : field input 4 4 = [0, 0, 0, 0] := hinput ▸ rfl
    simp +decide only [parseNdpBody, hkind, hreserved, reduceIte]
  | routerAdvertisement currentHopLimit managed otherConfiguration preference routerLifetime reachableTime
    retransmitTimer =>
    have hpreference : -1 ≤ preference ∧ preference ≤ 1 := by
      simp only [addressesAreValid, Bool.not_eq_true', decide_eq_false_iff_not, not_or, not_not] at h
      exact h.1
    obtain ⟨hmanaged, hother, hdecode, hreserved⟩ :=
      advertisement_read managed otherConfiguration preference hpreference.1 hpreference.2
    have hkind : u8At input 0 = 134 := hinput ▸ rfl
    have hflags : u8At input 5 = flagAt managed 7 ||| flagAt otherConfiguration 6 |||
      encodePreference preference <<< 3 :=
      hinput ▸ rfl
    simp +decide only [parseNdpBody, hkind, hflags, hlength, messageLength, hmanaged, hother, hdecode, hreserved,
      reduceIte]
    rw [if_neg (by omega)]
    simp [← hinput, writeMessage, NdpConformance.default]
  | neighborSolicitation target =>
    have hkind : u8At input 0 = 135 := hinput ▸ rfl
    have hreserved : field input 4 4 = [0, 0, 0, 0] := hinput ▸ rfl
    simp +decide only [parseNdpBody, hkind, hreserved, hlength, messageLength, reduceIte]
    rw [if_neg (by omega)]
    simp [← hinput, writeMessage, NdpConformance.default]
  | neighborAdvertisement router solicited overrideFlag target =>
    obtain ⟨hrouter, hsolicited, hoverride, hreserved⟩ := flagAt_read router solicited overrideFlag
    have hkind : u8At input 0 = 136 := hinput ▸ rfl
    have hflags : u8At input 4 = flagAt router 7 ||| flagAt solicited 6 ||| flagAt overrideFlag 5 := hinput ▸ rfl
    have hzeros : field input 5 3 = [0, 0, 0] := hinput ▸ rfl
    simp +decide only [parseNdpBody, hkind, hflags, hzeros, hlength, messageLength, hrouter, hsolicited, hoverride,
      hreserved, reduceIte]
    rw [if_neg (by omega)]
    simp [← hinput, writeMessage, NdpConformance.default]
  | redirect target destination =>
    have hkind : u8At input 0 = 137 := hinput ▸ rfl
    have hreserved : field input 4 4 = [0, 0, 0, 0] := hinput ▸ rfl
    simp +decide only [parseNdpBody, hkind, hreserved, hlength, messageLength, reduceIte]
    rw [if_neg (by omega)]
    simp [← hinput, writeMessage, NdpConformance.default]

private theorem writeMessage_eq (message : NdpMessage) :
    ∃ kind tail, ∀ checksum, writeMessage message checksum = [kind, 0] ++ (be16 checksum ++ tail) := by
  cases message with
  | routerSolicitation => exact ⟨133, _, fun _ => rfl⟩
  | routerAdvertisement => exact ⟨134, _, fun _ => rfl⟩
  | neighborSolicitation => exact ⟨135, _, fun _ => rfl⟩
  | neighborAdvertisement => exact ⟨136, _, fun _ => rfl⟩
  | redirect => exact ⟨137, _, fun _ => rfl⟩

/-! ### Messages -/

/-- What the parser asks of a message besides its body. -/
structure NdpAccepts (input : Bytes) (context : NdpContext) : Prop where
  limit : input.length ≤ 65535
  hopLimit : context.hopLimit = 255
  minimum : 8 ≤ input.length
  code : u8At input 1 = 0
  checksum : validateTransportChecksum context.checksumContext icmpv6Protocol input = true

theorem parseNdpMessage_eq_ok_iff {r : ParsedNdpPacket} :
    parseNdpMessage input context = .ok r ↔ NdpAccepts input context ∧ ∃ offset c c',
      parseNdpBody input = .ok (r.message, offset, c) ∧ parseOptions (input.drop offset) c = .ok (r.options, c') ∧
      validateParsedContext context r.message r.options c' = .ok r.conformance ∧ r.checksum = u16At input 2 := by
  unfold parseNdpMessage
  simp only [ite_error_eq_ok]
  constructor
  · rintro ⟨hlimit, hhop, hminimum, hcode, hchecksum, hrest⟩
    split at hrest
    · cases hrest
    next message offset c hbody =>
    split at hrest
    · cases hrest
    next options c' hoptions =>
    split at hrest
    · cases hrest
    next c'' hcontext =>
    cases hrest
    exact ⟨⟨Nat.le_of_not_lt hlimit, not_not.mp hhop, by omega, not_not.mp hcode, by simpa using hchecksum⟩,
      offset, c, c', hbody, hoptions, hcontext, rfl⟩
  rintro ⟨haccepts, offset, c, c', hbody, hoptions, hcontext, hchecksum⟩
  refine ⟨Nat.not_lt.mpr haccepts.limit, not_not.mpr haccepts.hopLimit, Nat.not_lt.mpr haccepts.minimum,
    not_not.mpr haccepts.code, by simp [haccepts.checksum], ?_⟩
  rw [hbody]
  dsimp only
  rw [hoptions]
  dsimp only
  rw [hcontext, ← hchecksum]

namespace NdpPacket

/-- What the builder asks of a packet. -/
structure Valid (p : NdpPacket) : Prop where
  context : validateContext p.context p.message p.options = .ok ()
  count : p.options.length ≤ 64
  fits : ∀ o ∈ p.options, o.requiredLength = .ok (writeOption o).length
  bytes : (p.options.flatMap writeOption).length ≤ 4096

theorem length_encode (p : NdpPacket) (checksum : UInt16) :
    (p.encode checksum).length = messageLength p.message + (p.options.flatMap writeOption).length := by
  rw [encode, length_append, length_writeMessage]

private theorem messageLength_le (message : NdpMessage) : 8 ≤ messageLength message ∧
    messageLength message ≤ 40 := by
  cases message <;> simp [messageLength]

variable {p : NdpPacket}

theorem Valid.length_le (h : p.Valid) (checksum : UInt16) : (p.encode checksum).length ≤ 65535 := by
  have hmessage := messageLength_le p.message
  have hbytes := h.bytes
  rw [length_encode]
  omega

theorem requiredLength_eq_ok_iff {total : Nat} : p.requiredLength = .ok total ↔ p.Valid ∧
      total = messageLength p.message + (p.options.flatMap writeOption).length := by
  have hlengths : ∀ n, addLengths NdpOption.requiredLength 0 p.options = .ok n ↔
      (∀ o ∈ p.options, o.requiredLength = .ok (writeOption o).length) ∧
        n = 0 + (p.options.flatMap writeOption).length :=
    fun n => addLengths_eq_ok_iff fun o m h => (writeOption_spec h).1
  have hmessage := messageLength_le p.message
  unfold requiredLength
  constructor
  · intro h
    split at h
    · cases h
    next hcontext =>
    obtain ⟨hcount, h⟩ := ite_error_eq_ok.mp h
    split at h
    · cases h
    next n hsum =>
    obtain ⟨hfits, hn⟩ := (hlengths n).mp hsum
    obtain ⟨hbytes, h⟩ := ite_error_eq_ok.mp h
    obtain ⟨htotal, h⟩ := ite_error_eq_ok.mp h
    obtain ⟨-, h⟩ := ite_error_eq_ok.mp h
    cases h
    unfold maxNdpOptionCount at hcount
    unfold maxNdpOptionBytes at hbytes
    exact ⟨⟨hcontext, by omega, hfits, by omega⟩, by omega⟩
  rintro ⟨hvalid, rfl⟩
  have hbytes := hvalid.bytes
  have hcount := hvalid.count
  rw [hvalid.context]
  dsimp only
  rw [if_neg (by unfold maxNdpOptionCount; omega), (hlengths _).mpr ⟨hvalid.fits, rfl⟩]
  dsimp only
  rw [Nat.zero_add, if_neg (by unfold maxNdpOptionBytes; omega), if_neg (by unfold maxIcmpv6MessageBytes; omega),
    PacketLength.new, if_neg (by change ¬ _ > 65575; omega)]

theorem build_eq_ok_iff {bytes : Bytes} : p.build = .ok bytes ↔ p.Valid ∧ ∃ checksum,
      computeTransportChecksum p.context.checksumContext icmpv6Protocol (p.encode 0) = some checksum ∧
      bytes = p.encode checksum := by
  refine checksummed_eq_ok_iff.trans ?_
  simp [requiredLength_eq_ok_iff]

/-- A packet can be built if it passes the checks; its checksum is always there. -/
theorem exists_build_iff (p : NdpPacket) : (∃ bytes, p.build = .ok bytes) ↔ p.Valid := by
  constructor
  · rintro ⟨bytes, h⟩
    exact (build_eq_ok_iff.mp h).1
  · intro hvalid
    exact ⟨_, build_eq_ok_iff.mpr ⟨hvalid, _, computeTransportChecksum_eq _ _ (hvalid.length_le 0), rfl⟩⟩

end NdpPacket

private theorem parsedOptionAllowed_parsed (message : NdpMessage) (o : NdpOption) :
    parsedOptionAllowed message o.parsed = optionAllowed message o := by
  cases message <;> cases o <;> rfl

private theorem optionAllowed_toOption (message : NdpMessage) (o : ParsedNdpOption) :
    optionAllowed message o.toOption = parsedOptionAllowed message o := by
  cases message <;> cases o <;> rfl

private theorem NdpOption.kinds_parsed (o : NdpOption) :
    o.parsed.isSourceLinkLayerAddress = o.isSourceLinkLayerAddress ∧
      o.parsed.isTargetLinkLayerAddress = o.isTargetLinkLayerAddress ∧ o.parsed.isMtu = o.isMtu := by
  cases o <;> exact ⟨rfl, rfl, rfl⟩

private theorem ParsedNdpOption.kinds_toOption (o : ParsedNdpOption) :
    o.toOption.isSourceLinkLayerAddress = o.isSourceLinkLayerAddress ∧
      o.toOption.isTargetLinkLayerAddress = o.isTargetLinkLayerAddress ∧ o.toOption.isMtu = o.isMtu := by
  cases o <;> exact ⟨rfl, rfl, rfl⟩

private theorem NdpPacket.Valid.parse_encode {p : NdpPacket} (h : p.Valid) {checksum : UInt16}
    (hchecksum : computeTransportChecksum p.context.checksumContext icmpv6Protocol (p.encode 0) = some checksum) :
    parseNdpMessage (p.encode checksum) p.context =
      .ok ⟨u16At (p.encode checksum) 2, p.message, p.options.map (·.parsed), .default⟩ := by
  obtain ⟨hhop, hoptions, hcounts, haddresses⟩ := validateContext_eq_ok_iff.mp h.context
  obtain ⟨hcontext, hsolicitation⟩ := (addressesAreValid_iff _ _ _).mp haddresses
  have hbytes := h.bytes
  have hcount := h.count
  have hmessage := messageLength_le p.message
  obtain ⟨kind, tail, hwrite⟩ := writeMessage_eq p.message
  have hencode : ∀ c, p.encode c = [kind, 0] ++ (be16 c ++ (tail ++ p.options.flatMap writeOption)) := by
    intro c
    rw [encode, hwrite]
    simp
  have hvalid : validateTransportChecksum p.context.checksumContext icmpv6Protocol (p.encode checksum) = true := by
    rw [hencode] at hchecksum ⊢
    exact validateTransportChecksum_of_filled (by simp) hchecksum (.inl rfl)
  have haccepts : NdpAccepts (p.encode checksum) p.context :=
    { limit := h.length_le checksum
      hopLimit := hhop
      minimum := by rw [length_encode]; omega
      code := by rw [hencode]; rfl
      checksum := hvalid }
  have hdrop : (p.encode checksum).drop (messageLength p.message) = p.options.flatMap writeOption :=
    drop_left' (length_writeMessage ..)
  have hparse : parseOptions (p.options.flatMap writeOption) .default =
    .ok (p.options.map (·.parsed), .default) := by
    rw [parseOptions, if_neg (by unfold maxNdpOptionBytes; omega)]
    exact parseOptionsFrom_writeOptions .default p.options [] _ [] h.fits (fun o ho =>
      (hoptions o ho).2) (Nat.le_refl _) (by simpa using hcount)
  have hcheck : validateParsedContext p.context p.message (p.options.map (·.parsed)) .default = .ok .default := by
    rw [validateParsedContext_eq_ok_iff]
    simp only [countP_map, Function.comp_def, NdpOption.kinds_parsed, forall_mem_map, parsedOptionAllowed_parsed]
    refine ⟨hcontext, ?_, trivial, fun o ho => (hoptions o ho).1, hcounts⟩
    rintro ⟨hrouter, hunspecified, hsome⟩
    refine hsolicitation ⟨by rw [hrouter]; rfl, hunspecified, ?_⟩
    rw [← Nat.pos_iff_ne_zero, countP_pos_iff] at hsome
    exact any_eq_true.mpr hsome
  refine parseNdpMessage_eq_ok_iff.mpr ⟨haccepts, messageLength p.message, .default, .default, ?_, ?_, hcheck, rfl⟩
  · exact parseNdpBody_writeMessage checksum _ hcontext
  · rw [hdrop]
    exact hparse

/-- The packet that the builder takes for a parsed message. -/
def ParsedNdpPacket.toPacket (r : ParsedNdpPacket) (context : NdpContext) : NdpPacket where
  context
  message := r.message
  options := r.options.map (·.toOption)

/-- A parsed option takes as many bytes again, if the builder knows its kind and link-layer addresses have six. -/
private theorem ParsedNdpOption.Sound.requiredLength {o : ParsedNdpOption} (h : o.Sound)
    (haddress : ∀ value, o = .sourceLinkLayerAddress value ∨ o = .targetLinkLayerAddress value → value.length = 6)
    (hkind : ∀ body, o ≠ .unknown 0 body) : o.toOption.requiredLength = .ok o.wireLength := by
  have hmaximum := h.maximum
  have hbounded : NdpOption.boundedLength o.wireLength = .ok o.wireLength :=
    if_neg (by unfold maxNdpOptionLength; omega)
  cases o with
  | sourceLinkLayerAddress value | targetLinkLayerAddress value =>
    have hsix := haddress value (by simp)
    simp only [wireLength, hsix] at hbounded ⊢
    exact hbounded
  | prefixInformation | mtu => exact hbounded
  | redirectedHeader quote =>
    change NdpOption.boundedLength (roundedOptionLength 8 quote.length) = _
    rw [roundedOptionLength_of_multiple h.multiple]
    exact hbounded
  | unknown kind body =>
    have hother : ¬ kind ≤ 5 := by
      rcases h.kind kind body rfl with rfl | hlarge
      · exact absurd rfl (hkind body)
      · exact UInt8.not_le.mpr hlarge
    change (if kind ≤ 5 then _ else NdpOption.boundedLength (roundedOptionLength 2 body.length)) = _
    rw [if_neg hother, roundedOptionLength_of_multiple h.multiple]
    exact hbounded

private theorem length_writeOptions_toOption (h : ∀ o ∈ options, o.toOption.requiredLength = .ok o.wireLength) :
    ((options.map (·.toOption)).flatMap writeOption).length = (options.map (·.wireLength)).sum := by
  rw [length_flatMap, map_map]
  congr 1
  exact map_congr_left fun o ho => (writeOption_spec (h o ho)).1

private theorem any_toOption_iff (options : List ParsedNdpOption) :
    (options.map (·.toOption)).any (·.isSourceLinkLayerAddress) = true ↔
      ∃ value, .sourceLinkLayerAddress value ∈ options := by
  rw [any_map, any_eq_true]
  constructor
  · rintro ⟨o, ho, hkind⟩
    cases o with
    | sourceLinkLayerAddress value => exact ⟨value, ho⟩
    | _ => cases hkind
  · rintro ⟨value, ho⟩
    exact ⟨_, ho, rfl⟩

/-- A message that is built is parsed with its own message and options, the bodies of options padded with zeros to
eight bytes.  A message that is parsed without deviation, with link-layer addresses of six bytes, can be built
again exactly if it is not a neighbor solicitation that gives a link-layer address but no source address, and has
no option of kind zero. -/
theorem NdpPacket.round_trip_iff (p : NdpPacket) (input : Bytes) (context : NdpContext) (r : ParsedNdpPacket) :
    (∀ bytes, p.build = .ok bytes →
      ∃ r, parseNdpMessage bytes p.context = .ok r ∧ r.conformance.isCanonical = true ∧ r.message = p.message ∧
        r.options = p.options.map (·.parsed)) ∧
    (parseNdpMessage input context = .ok r → r.conformance.isCanonical = true →
      (∀ o ∈ r.options, ∀ value, o = .sourceLinkLayerAddress value ∨ o = .targetLinkLayerAddress value →
        value.length = 6) →
      ((∃ bytes, (r.toPacket context).build = .ok bytes) ↔
        ¬ (∃ target value, r.message = .neighborSolicitation target ∧ isUnspecified context.source = true ∧
          .sourceLinkLayerAddress value ∈ r.options) ∧ ∀ body, .unknown 0 body ∉ r.options)) := by
  constructor
  · intro bytes hbuild
    obtain ⟨hvalid, checksum, hchecksum, rfl⟩ := build_eq_ok_iff.mp hbuild
    exact ⟨_, hvalid.parse_encode hchecksum, rfl, rfl, rfl⟩
  intro hparse hcanonical haddress
  rw [exists_build_iff]
  obtain ⟨haccepts, offset, c, c', hbody, hoptions, hcheck, -⟩ := parseNdpMessage_eq_ok_iff.mp hparse
  rw [of_decide_eq_true hcanonical] at hcheck
  obtain ⟨hcontext, hrouter, rfl, hallowed, hcounts⟩ := validateParsedContext_eq_ok_iff.mp hcheck
  obtain ⟨hlimit, hwalk⟩ := ite_error_eq_ok.mp hoptions
  unfold maxNdpOptionBytes at hlimit
  obtain ⟨more, hmore, hcount, hsum, hclean⟩ :=
    parseOptionsFrom_sound (Nat.zero_le _) (Nat.sub_le ..) (Nat.zero_le _) hwalk
  rw [nil_append] at hmore
  subst hmore
  have hsound := (hclean rfl).2
  have hany := any_toOption_iff r.options
  constructor
  · intro hvalid
    obtain ⟨-, -, -, haddresses⟩ := validateContext_eq_ok_iff.mp hvalid.context
    obtain ⟨-, hsolicitation⟩ := (addressesAreValid_iff _ _ _).mp haddresses
    refine ⟨?_, ?_⟩
    · rintro ⟨target, value, hmessage, hunspecified, hmem⟩
      refine hsolicitation ⟨?_, hunspecified, hany.mpr ⟨value, hmem⟩⟩
      change r.message.isSolicitation = true
      rw [hmessage]
      rfl
    intro body hmem
    have hfit : (if (0 : UInt8) ≤ 5 then .error (.invalidValue .optionKind)
        else NdpOption.boundedLength (roundedOptionLength 2 body.length)) = .ok _ :=
      hvalid.fits _ (mem_map_of_mem hmem)
    exact (ite_error_eq_ok.mp hfit).1 (by decide)
  rintro ⟨hsolicitation, hkind⟩
  have hrequired : ∀ o ∈ r.options, o.toOption.requiredLength = .ok o.wireLength := fun o ho =>
    (hsound o ho).requiredLength (haddress o ho) fun body heq => hkind body (heq ▸ ho)
  have hbytes := length_writeOptions_toOption hrequired
  refine ⟨validateContext_eq_ok_iff.mpr ⟨haccepts.hopLimit, ?_, ?_, ?_⟩, ?_, ?_, ?_⟩
  · exact forall_mem_map.mpr fun o ho =>
      ⟨(optionAllowed_toOption r.message o).trans (hallowed o ho), (hsound o ho).lifetimes⟩
  · change (r.options.map (·.toOption)).countP _ ≤ 1 ∧ (r.options.map (·.toOption)).countP _ ≤ 1 ∧
      (r.options.map (·.toOption)).countP _ ≤ 1
    simp only [countP_map, Function.comp_def, ParsedNdpOption.kinds_toOption]
    exact hcounts
  · refine (addressesAreValid_iff _ _ _).mpr ⟨hcontext, ?_⟩
    rintro ⟨hmessage, hunspecified, hsome⟩
    obtain ⟨value, hmem⟩ := hany.mp hsome
    change r.message.isSolicitation = true at hmessage
    cases hkinds : r.message with
    | routerSolicitation =>
      refine hrouter ⟨hkinds, hunspecified, ?_⟩
      rw [← Nat.pos_iff_ne_zero, countP_pos_iff]
      exact ⟨_, hmem, rfl⟩
    | neighborSolicitation target => exact hsolicitation ⟨target, value, hkinds, hunspecified, hmem⟩
    | routerAdvertisement | neighborAdvertisement | redirect =>
      rw [hkinds] at hmessage
      cases hmessage
  · change (r.options.map (·.toOption)).length ≤ 64
    rw [length_map]
    exact hcount
  · refine forall_mem_map.mpr fun o ho => ?_
    rw [(writeOption_spec (hrequired o ho)).1]
    exact hrequired o ho
  · change ((r.options.map (·.toOption)).flatMap writeOption).length ≤ 4096
    omega

/-- An advertisement to all nodes with one option of every kind that it may have. -/
def advertisement : NdpPacket where
  context := ⟨0xfe800000000000000000000000000001, allNodes, 255⟩
  message := .routerAdvertisement 64 true false (-1) 1800 0 0
  options := [.sourceLinkLayerAddress 0x020000000001, .mtu 1500,
    .prefixInformation 64 true true 7200 3600 0x20010db8000000000000000000000000, .unknown 24 [1, 2, 3]]

def advertisementBytes : Bytes := advertisement.encode 28359

def advertisementParsed : ParsedNdpPacket :=
  ⟨u16At advertisementBytes 2, advertisement.message, advertisement.options.map (·.parsed), .default⟩

theorem NdpPacket.round_trip_advertisement :
    (∃ r, parseNdpMessage advertisementBytes advertisement.context = .ok r ∧ r.message = advertisement.message ∧
      r.options = advertisement.options.map (·.parsed)) ∧
    ∃ bytes, (advertisementParsed.toPacket advertisement.context).build = .ok bytes := by
  obtain ⟨hbuilt, hparsed⟩ :=
    round_trip_iff advertisement advertisementBytes advertisement.context advertisementParsed
  constructor
  · obtain ⟨r, hparse, -, hmessage, hoptions⟩ := hbuilt advertisementBytes (by decide +kernel)
    exact ⟨r, hparse, hmessage, hoptions⟩
  refine (hparsed (by decide +kernel) rfl ?_).mpr ⟨?_, ?_⟩
  · simp [advertisementParsed, advertisement, NdpOption.parsed]
  · rintro ⟨target, value, hmessage, -⟩
    cases hmessage
  · simp [advertisementParsed, advertisement, NdpOption.parsed]

/-- A solicitation for an address that is not yet in use, with a link-layer address. -/
def duplicateAddressProbe (checksum : UInt16) : Bytes :=
  writeMessage (.neighborSolicitation 0xfe800000000000000000000000000001) checksum ++
    writeOption (.sourceLinkLayerAddress 0x020000000001)

def duplicateAddressContext : NdpContext := ⟨0, solicitedNodeMulticast 0xfe800000000000000000000000000001, 255⟩

/-- The parser takes it without deviation, and the builder refuses it. -/
theorem NdpPacket.probe_with_address_parsed :
    ∃ r, parseNdpMessage (duplicateAddressProbe 31003) duplicateAddressContext = .ok r ∧
      r.conformance.isCanonical = true ∧ r.options = [.sourceLinkLayerAddress [2, 0, 0, 0, 0, 1]] ∧
      (r.toPacket duplicateAddressContext).build = .error (.invalidValue .address) := by
  refine ⟨⟨31003, .neighborSolicitation 0xfe800000000000000000000000000001,
    [.sourceLinkLayerAddress [2, 0, 0, 0, 0, 1]], .default⟩, ?_⟩
  decide +kernel

end NodeNet.Protocols
