import NodeNet.Protocols.Link
import NodeNet.Protocols.Truncation

/-!
# Structural limits

The check in front of every inspection walks over VLAN tags and IPv6 extension headers only to count them.  It is a
second walk over the chain that the packet parser takes.  The two agree wherever the parser goes to the end of the
chain; behind the header of a later fragment the parser stops and the check goes on
(`enforceStructuralLimits_iff`).
-/

namespace NodeNet.Protocols

inductive PacketStart where
  | ethernet | ip
deriving DecidableEq

def isBoundedIpv6Extension (nextHeader : UInt8) : Bool :=
  nextHeader = hopByHop ∨ nextHeader = routing ∨ nextHeader = fragmentHeader ∨ nextHeader = authentication ∨
    nextHeader = destinationOptions

/-- The length of the header at the front of what is left, if the bytes that give it are there. -/
def declaredLength (nextHeader : UInt8) (rest : Bytes) : Option Nat :=
  if rest.length < 1 then none
  else if nextHeader = fragmentHeader then some 8
  else if rest.length < 2 then none
  else if nextHeader = authentication then some (((u8At rest 1).toNat + 2) * 4)
  else some (((u8At rest 1).toNat + 1) * 8)

/-- Counts the headers from the cursor on; `left` of the permitted number are left.  Headers that are not there in
full are left to the parser. -/
def enforceExtensionChain (available : Bytes) : Nat → Nat → UInt8 → Nat → Except ParseError Unit
  | left, cursor, nextHeader, extensionBytes =>
    if !isBoundedIpv6Extension nextHeader then .ok ()
    else
      match left with
      | 0 =>
        .error (.limitExceeded .ipv6ExtensionHeaders (maxIpv6ExtensionHeaderCount + 1) maxIpv6ExtensionHeaderCount)
      | left + 1 =>
        match declaredLength nextHeader (available.drop cursor) with
        | none => .ok ()
        | some encodedLength =>
          if extensionBytes + encodedLength > maxIpv6ExtensionBytes then
            .error (.limitExceeded .ipv6ExtensionBytes (extensionBytes + encodedLength) maxIpv6ExtensionBytes)
          else if cursor + encodedLength > available.length then .ok ()
          else
            enforceExtensionChain available left (cursor + encodedLength) (u8At available cursor)
              (extensionBytes + encodedLength)

def enforceIpv6ExtensionLimits (input : Bytes) (offset : Nat) : Except ParseError Unit :=
  if input.length < offset + ipv6HeaderLength then .ok ()
  else
    let header := field input offset ipv6HeaderLength
    if u8At header 0 >>> 4 ≠ 6 then .ok ()
    else
      let payloadLength := (u16At header 4).toNat
      let nextHeader := u8At header 6
      if payloadLength = 0 ∧ nextHeader = hopByHop then .error (.unsupported .ipv6 .packetLength)
      else
        let declaredEnd := offset + ipv6HeaderLength + payloadLength
        enforceExtensionChain (input.take (min input.length declaredEnd)) maxIpv6ExtensionHeaderCount
          (offset + ipv6HeaderLength) nextHeader 0

def readU16 (input : Bytes) (offset : Nat) : Option UInt16 :=
  if input.length < offset + 2 then none else some (u16At input offset)

/-- The offset of an IPv6 packet behind the tags; `left` more tags are permitted. -/
def skipVlanTags (input : Bytes) : Nat → UInt16 → Nat → Except ParseError (Option Nat)
  | left, etherType, offset =>
    if etherType = etherTypeVlan ∨ etherType = etherTypeProviderBridging then
      match left with
      | 0 => .error (.limitExceeded .vlanHeaders (maxVlanHeaderCount + 1) maxVlanHeaderCount)
      | left + 1 =>
        match readU16 input (offset + 2) with
        | none => .ok none
        | some nextEtherType => skipVlanTags input left nextEtherType (offset + vlanHeaderLength)
    else if etherType ≠ etherTypeIpv6 then .ok none
    else .ok (some offset)

def enforceStructuralLimits (input : Bytes) : PacketStart → Except ParseError Unit
  | .ip => enforceIpv6ExtensionLimits input 0
  | .ethernet =>
    match readU16 input 12 with
    | none => .ok ()
    | some etherType =>
      match skipVlanTags input maxVlanHeaderCount etherType ethernetHeaderLength with
      | .error error => .error error
      | .ok none => .ok ()
      | .ok (some offset) => enforceIpv6ExtensionLimits input offset

/-! ### Chains -/

/-- The headers of the chain that begins with the given protocol: how many are begun, and how many bytes they
declare. -/
def chainOf : Nat → UInt8 → Bytes → Nat × Nat
  | 0, _, _ => (0, 0)
  | fuel + 1, protocol, bytes =>
    if !isExtension protocol then (0, 0)
    else
      match declaredLength protocol bytes with
      | none => (1, 0)
      | some length =>
        if length > bytes.length then (1, length)
        else
          let (headers, declared) := chainOf fuel (u8At bytes 0) (bytes.drop length)
          (headers + 1, length + declared)

/-- What stands behind the headers that were parsed, read as headers too, stays within the limits. -/
def ParsedIpv6Packet.ChainFits (r : ParsedIpv6Packet) : Prop :=
  let behind := terminalProtocolAndBytes r.upperLayer
  let chain := chainOf (behind.2.length + 1) behind.1 behind.2
  r.extensions.length + chain.1 ≤ maxIpv6ExtensionHeaderCount ∧ r.extensionBytes + chain.2 ≤ maxIpv6ExtensionBytes

def ParseError.isExtensionLimit : ParseError → Bool
  | .limitExceeded resource _ _ => resource = .ipv6ExtensionHeaders ∨ resource = .ipv6ExtensionBytes
  | _ => false

variable {length : Nat} {protocol : UInt8}

private theorem eight_le_declaredLength {rest : Bytes} (h : declaredLength protocol rest = some length) :
    8 ≤ length ∧ 0 < rest.length := by
  unfold declaredLength at h
  split at h
  · cases h
  repeat' split at h
  all_goals cases h
  all_goals omega

private theorem enforceExtensionChain_eq_ok_iff (available : Bytes) (fuel : Nat) :
    ∀ (left cursor : Nat) (nextHeader : UInt8) (extensionBytes : Nat), available.length - cursor < fuel →
      extensionBytes ≤ maxIpv6ExtensionBytes →
      (enforceExtensionChain available left cursor nextHeader extensionBytes = .ok () ↔
        (chainOf fuel nextHeader (available.drop cursor)).1 ≤ left ∧
          extensionBytes + (chainOf fuel nextHeader (available.drop cursor)).2 ≤ maxIpv6ExtensionBytes) := by
  induction fuel with
  | zero => intro left cursor nextHeader extensionBytes hfuel; omega
  | succ fuel ih =>
    intro left cursor nextHeader extensionBytes hfuel hbytes
    rw [chainOf]
    unfold enforceExtensionChain
    have hsame : isBoundedIpv6Extension nextHeader = isExtension nextHeader := rfl
    rw [hsame]
    cases hext : isExtension nextHeader with
    | false => simpa using hbytes
    | true =>
      cases left with
      | zero =>
        simp only [Bool.not_true, Bool.false_eq_true, if_false, reduceCtorEq, false_iff, not_and]
        intro hnone
        -- a header that is begun is one too many
        split at hnone
        · cases hnone
        · split at hnone <;> cases hnone
      | succ left =>
        simp only [Bool.not_true, Bool.false_eq_true, if_false]
        cases hlength : declaredLength nextHeader (available.drop cursor) with
        | none => simpa using hbytes
        | some length =>
          obtain ⟨height, hrest⟩ := eight_le_declaredLength hlength
          rw [List.length_drop] at hrest
          dsimp only
          by_cases hlimit : extensionBytes + length > maxIpv6ExtensionBytes
          · rw [if_pos hlimit]
            simp only [reduceCtorEq, false_iff, not_and]
            intro _ hfits
            split at hfits
            · omega
            · dsimp only at hfits
              omega
          rw [if_neg hlimit]
          by_cases hend : cursor + length > available.length
          · rw [if_pos hend, if_pos (by rw [List.length_drop]; omega)]
            simp only [true_iff]
            omega
          have hnext : u8At (available.drop cursor) 0 = u8At available cursor := by
            simp [u8At, List.getD_eq_getElem?_getD]
          rw [if_neg hend, if_neg (by rw [List.length_drop]; omega), hnext, List.drop_drop]
          rw [ih left (cursor + length) (u8At available cursor) (extensionBytes + length) (by omega) (by omega)]
          dsimp only
          omega

/-! ### The two walks -/

private theorem declaredLength_of_parseExtension {following : UInt8} {input : Bytes} {parsed : Ipv6Extension}
    (hext : isExtension protocol = true) (h : parseExtension protocol input = .ok (parsed, following, length)) :
    declaredLength protocol input = some length := by
  obtain ⟨rfl, -, hlong, -⟩ := (parseExtension_eq_ok_iff hext).mp h
  have height := eight_le_extensionLength protocol (u8At input 1)
  rw [declaredLength, if_neg (by omega), if_neg (show ¬ input.length < 2 by omega), extensionLength]
  split
  · rfl
  · split <;> rfl

variable {available : Bytes} {left : Nat} {w : ExtensionWalk}

/-- An extension that the parser takes moves the check on as it moves the parser. -/
private theorem enforceExtensionChain_push {parsed : Ipv6Extension} {following : UInt8}
    (hext : isExtension w.nextHeader = true)
    (hparse : parseExtension w.nextHeader (available.drop w.cursor) = .ok (parsed, following, length)) :
    enforceExtensionChain available (left + 1) w.cursor w.nextHeader w.extensionBytes =
      if w.extensionBytes + length > maxIpv6ExtensionBytes then
        .error (.limitExceeded .ipv6ExtensionBytes (w.extensionBytes + length) maxIpv6ExtensionBytes)
      else
        enforceExtensionChain available left (w.push parsed following length).cursor
          (w.push parsed following length).nextHeader (w.push parsed following length).extensionBytes := by
  have hlength := declaredLength_of_parseExtension hext hparse
  obtain ⟨-, hfollowing, hlong, -⟩ := (parseExtension_eq_ok_iff hext).mp hparse
  have hsome : 0 < length := by
    have := (eight_le_declaredLength hlength).1
    omega
  rw [List.length_drop] at hlong
  have hnext : u8At available w.cursor = following := by
    rw [hfollowing]
    simp [u8At, List.getD_eq_getElem?_getD]
  have hsame : isBoundedIpv6Extension w.nextHeader = true := hext
  conv_lhs => unfold enforceExtensionChain
  simp only [hsame, Bool.not_true, Bool.false_eq_true, if_false, hlength, ExtensionWalk.push_cursor,
    ExtensionWalk.push_nextHeader, ExtensionWalk.push_extensionBytes, hnext]
  rw [if_neg (show ¬ w.cursor + length > available.length by omega)]

variable {w' : ExtensionWalk}

/-- Where the parser has walked, the check has walked too. -/
private theorem enforceExtensionChain_of_walk (h : walkExtensions available left w = .ok w') :
    ∃ taken, w'.extensions.length = w.extensions.length + taken ∧ taken ≤ left ∧
      enforceExtensionChain available left w.cursor w.nextHeader w.extensionBytes =
        enforceExtensionChain available (left - taken) w'.cursor w'.nextHeader w'.extensionBytes := by
  induction left generalizing w with
  | zero =>
    rw [walkExtensions] at h
    rw [Except.ok.inj (ite_error_eq_ok.mp h).2]
    exact ⟨0, rfl, Nat.le_refl 0, rfl⟩
  | succ left ih =>
    cases hext : isExtension w.nextHeader with
    | false =>
      rw [walkExtensions_of_not_extension _ hext] at h
      rw [Except.ok.inj h]
      exact ⟨0, rfl, Nat.zero_le _, rfl⟩
    | true =>
      obtain ⟨parsed, following, length, hparse, hbytes, hrest⟩ := walkExtensions_succ_eq_ok hext h
      rw [enforceExtensionChain_push hext hparse, if_neg (Nat.not_lt_of_le hbytes)]
      rcases hrest with ⟨-, rfl⟩ | ⟨-, hrest⟩
      · exact ⟨1, by rw [ExtensionWalk.push_extensions]; simp, by omega, rfl⟩
      obtain ⟨taken, hlength, htaken, hsame⟩ := ih hrest
      rw [ExtensionWalk.push_extensions, List.length_append, List.length_singleton] at hlength
      refine ⟨taken + 1, by omega, by omega, ?_⟩
      rw [hsame, Nat.add_sub_add_right]

variable {error : ParseError}

private theorem parseExtension_not_limit {input : Bytes} (h : parseExtension protocol input = .error error) :
    error.isExtensionLimit = false := by
  unfold parseExtension at h
  dsimp only at h
  repeat' split at h
  all_goals first | cases h; rfl | cases h

/-- Where the parser meets a limit, the check meets one. -/
private theorem enforceExtensionChain_of_limit (h : walkExtensions available left w = .error error)
    (hlimit : error.isExtensionLimit = true) :
    ∃ error', enforceExtensionChain available left w.cursor w.nextHeader w.extensionBytes = .error error' := by
  induction left generalizing w with
  | zero =>
    rw [walkExtensions] at h
    split at h
    · next hext =>
      have hsame : isBoundedIpv6Extension w.nextHeader = true := hext
      unfold enforceExtensionChain
      rw [hsame]
      exact ⟨_, rfl⟩
    · cases h
  | succ left ih =>
    cases hext : isExtension w.nextHeader with
    | false =>
      rw [walkExtensions_of_not_extension _ hext] at h
      cases h
    | true =>
      rw [walkExtensions_succ _ _ _ hext] at h
      split at h
      · next hparse =>
        cases h
        rw [parseExtension_not_limit hparse] at hlimit
        cases hlimit
      next parsed following length hparse =>
      rw [enforceExtensionChain_push hext hparse]
      split at h
      · next hbytes =>
        rw [if_pos hbytes]
        exact ⟨_, rfl⟩
      next hbytes =>
      rw [if_neg hbytes]
      split at h
      · cases h
      · exact ih h

/-- Behind the fixed header the check walks over the bytes that the parser walks over. -/
private theorem enforceStructuralLimits_ip {x : Bytes} (hlong : 40 ≤ x.length) (hversion : u8At x 0 >>> 4 = 6)
    (hjumbogram : ¬ ((u16At x 4).toNat = 0 ∧ u8At x 6 = hopByHop)) :
    enforceStructuralLimits x .ip =
      enforceExtensionChain (ipv6Available x) maxIpv6ExtensionHeaderCount ipv6HeaderLength (u8At x 6) 0 := by
  have hheader : field x 0 ipv6HeaderLength = x.take 40 := rfl
  simp only [enforceStructuralLimits, enforceIpv6ExtensionLimits, hheader, u8At_take (show 0 < 40 by omega),
    u8At_take (show 6 < 40 by omega), u16At_take (show 4 + 2 ≤ 40 by omega), Nat.zero_add]
  rw [if_neg (show ¬ x.length < ipv6HeaderLength from Nat.not_lt_of_le hlong), if_neg (not_not.mpr hversion),
    if_neg hjumbogram]
  rfl

/-- A limit on the extensions is met in the walk, behind all checks on the fixed header. -/
private theorem walkExtensions_of_limit {x : Bytes} (h : parseIpv6Packet x .strict = .error error)
    (hlimit : error.isExtensionLimit = true) :
    40 ≤ x.length ∧ u8At x 0 >>> 4 = 6 ∧ ¬ ((u16At x 4).toNat = 0 ∧ u8At x 6 = hopByHop) ∧
      walkExtensions (ipv6Available x) maxIpv6ExtensionHeaderCount (.initial (u8At x 6)) = .error error := by
  unfold parseIpv6Packet at h
  dsimp only at h
  split at h
  · cases h; cases hlimit
  split at h
  · cases h; cases hlimit
  next hlong =>
  split at h
  · cases h; cases hlimit
  next hversion =>
  split at h
  · cases h; cases hlimit
  next hjumbogram =>
  split at h
  · cases h; cases hlimit
  split at h
  · next hwalk =>
    cases h
    exact ⟨Nat.le_of_not_lt hlong, not_not.mp hversion, hjumbogram, hwalk⟩
  rw [ite_eq_iff] at h
  rcases h with ⟨-, h⟩ | ⟨-, h⟩
  · cases h; cases hlimit
  · cases h

/-- The check and the parser agree on the limits, but for the bytes of a later fragment: the parser does not read
them, and the check reads them as headers. -/
theorem enforceStructuralLimits_iff (x : Bytes) :
    (∀ r, parseIpv6Packet x .strict = .ok r →
      (enforceStructuralLimits x .ip = .ok () ↔ (r.fragment.isNonFirst = true → r.ChainFits))) ∧
    (∀ error, parseIpv6Packet x .strict = .error error → error.isExtensionLimit = true →
      ∃ error', enforceStructuralLimits x .ip = .error error') := by
  constructor
  · intro r hparse
    obtain ⟨w, haccepts, rfl⟩ := parseIpv6Packet_eq_ok_iff.mp hparse
    obtain ⟨taken, htaken, hle, hchain⟩ := enforceExtensionChain_of_walk haccepts.walk
    have hbytes : w.extensionBytes ≤ maxIpv6ExtensionBytes :=
      (walkExtensions_reaches haccepts.walk).limit (Nat.zero_le _)
    have hterminal : terminalProtocolAndBytes (ipv6Fields x w).upperLayer =
        (w.nextHeader, (ipv6Available x).drop w.cursor) := terminalProtocolAndBytes_classifyUpperLayer ..
    simp only [ExtensionWalk.initial, List.length_nil, Nat.zero_add] at htaken hchain
    -- the check has come as far as the parser, and goes on from there
    have hfits : enforceStructuralLimits x .ip = .ok () ↔ (ipv6Fields x w).ChainFits := by
      rw [enforceStructuralLimits_ip haccepts.minimum haccepts.version haccepts.jumbogram, hchain,
        enforceExtensionChain_eq_ok_iff (ipv6Available x) (((ipv6Available x).drop w.cursor).length + 1) _ _ _ _
          (by rw [List.length_drop]; omega) hbytes, ParsedIpv6Packet.ChainFits, hterminal]
      change _ ↔ w.extensions.length + _ ≤ _ ∧ w.extensionBytes + _ ≤ _
      rw [htaken]
      dsimp only
      omega
    rw [hfits]
    constructor
    · intro h _
      exact h
    intro h
    rcases (walkExtensions_reaches haccepts.walk).ended with hend | hlater
    · rw [ParsedIpv6Packet.ChainFits, hterminal]
      change w.extensions.length + _ ≤ _ ∧ w.extensionBytes + _ ≤ _
      rw [chainOf, hend, htaken]
      exact ⟨hle, hbytes⟩
    · exact h hlater
  intro error hparse hlimit
  obtain ⟨hlong, hversion, hjumbogram, hwalk⟩ := walkExtensions_of_limit hparse hlimit
  rw [enforceStructuralLimits_ip hlong hversion hjumbogram]
  exact enforceExtensionChain_of_limit hwalk hlimit

/-- A chain of nine headers. -/
def crowdedIpv6 : Bytes :=
  [0x60, 0, 0, 0, 0, 72, 60, 64] ++ ipv6Octets 1 ++ ipv6Octets 2 ++
    (List.replicate 9 [60, 0, 1, 4, 0, 0, 0, 0]).flatten

theorem enforceStructuralLimits_examples :
    enforceStructuralLimits quotedIpv6 .ip = .ok () ∧
    ∃ error, enforceStructuralLimits crowdedIpv6 .ip = .error error :=
  ⟨((enforceStructuralLimits_iff quotedIpv6).1 (ipv6Fields quotedIpv6 quotedIpv6Walk) (by decide +kernel)).mpr
      (fun hlater => absurd hlater (by decide +kernel)),
    (enforceStructuralLimits_iff crowdedIpv6).2 (.limitExceeded .ipv6ExtensionHeaders 9 8) (by decide +kernel) rfl⟩

/-- A later fragment whose first bytes look like destination options of 2048 bytes. -/
def laterFragment : Bytes :=
  [0x60, 0, 0, 0, 0, 10, 44, 64] ++ ipv6Octets 1 ++ ipv6Octets 2 ++ [60, 0, 0, 8, 0, 0, 0, 1] ++ [60, 255]

/-- The parser takes the fragment and leaves its bytes alone; the check counts them and refuses the packet. -/
theorem later_fragment_refused :
    (∃ r, parseIpv6Packet laterFragment .strict = .ok r ∧ r.fragment = .nonFirst 1 false ∧ r.extensionBytes = 8) ∧
      enforceStructuralLimits laterFragment .ip = .error (.limitExceeded .ipv6ExtensionBytes 2056 2048) :=
  ⟨⟨ipv6Fields laterFragment ((ExtensionWalk.initial fragmentHeader).push (.fragment 1 false 1)
    destinationOptions 8), by decide +kernel, by decide +kernel, by decide +kernel⟩, by decide +kernel⟩

end NodeNet.Protocols
