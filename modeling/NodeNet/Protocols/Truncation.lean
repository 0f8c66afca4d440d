import NodeNet.Protocols.Quoted

/-!
# Truncated packets

An ICMP error quotes the front of a packet.  A packet that parses strictly, cut anywhere behind its IP headers,
parses as a quote with the same header fields and the part of the payload that is left, and eight bytes of the
payload are enough for the fields that identify a probe (`quotes_truncate`).
-/

namespace NodeNet.Protocols

open List

/-! ### IPv4 -/

section Ipv4

variable {x : Bytes} {mode : ParseMode} {conformance : Ipv4Conformance} {n : Nat}

private theorem ipv4HeaderLength_take (h : 20 ≤ n) : ipv4HeaderLength (x.take n) = ipv4HeaderLength x := by
  rw [ipv4HeaderLength, ipv4HeaderLength, u8At_take (by omega)]

private theorem ipv4TotalLength_take (h : 20 ≤ n) : ipv4TotalLength (x.take n) = ipv4TotalLength x := by
  rw [ipv4TotalLength, ipv4TotalLength, u16At_take (by omega)]

private theorem take_take_of_le {a b : Nat} (h : a ≤ b) : (x.take b).take a = x.take a := by
  rw [take_take, Nat.min_eq_left h]

theorem Ipv4Accepts.twenty_le (h : Ipv4Accepts x mode conformance) : 20 ≤ ipv4HeaderLength x := by
  have hihl := h.ihl
  unfold ipv4HeaderLength
  omega

private theorem ipv4Options_take (hheader : ipv4HeaderLength x ≤ n) (h : 20 ≤ n) :
    ipv4Options (x.take n) = ipv4Options x := by
  rw [ipv4Options, ipv4Options, ipv4HeaderLength_take h, take_take_of_le hheader]

/-- The checks read the header only, and the length that is declared. -/
private theorem Ipv4Accepts.take (h : Ipv4Accepts x mode conformance) (hn : ipv4HeaderLength x ≤ n) :
    Ipv4Accepts (x.take n) .compatibleIcmpQuote conformance := by
  have htwenty := h.twenty_le
  have hlimit := h.limit
  have hheader := h.header
  have hfour : ipv4HeaderLength (x.take n) = ipv4HeaderLength x := ipv4HeaderLength_take (by omega)
  have htotal : ipv4TotalLength (x.take n) = ipv4TotalLength x := ipv4TotalLength_take (by omega)
  have hbyte : u8At (x.take n) 0 = u8At x 0 := u8At_take (by omega)
  have hflags : u16At (x.take n) 6 = u16At x 6 := u16At_take (by omega)
  have hlength : (x.take n).length = min n x.length := length_take
  exact {
    limit := by omega
    minimum := by unfold ipv4MinHeaderLength; omega
    version := by rw [hbyte]; exact h.version
    ihl := by rw [hbyte]; exact h.ihl
    header := by omega
    declared := by rw [hfour, htotal]; exact h.declared
    complete := fun hmode => nomatch hmode
    checksum := by rw [hfour, take_take_of_le hn]; exact h.checksum
    options := by rw [ipv4Options_take hn (by omega)]; exact h.options
    flags := by rw [hflags]; exact h.flags
    fragments := by rw [hflags, hfour, htotal]; exact h.fragments }

private theorem Ipv4Accepts.quote (h : Ipv4Accepts x mode conformance) :
    Ipv4Accepts x .compatibleIcmpQuote conformance :=
  { h with complete := fun hmode => nomatch hmode }

private theorem ipv4Fields_take_payload (h : Ipv4Accepts x .strict conformance) (hn : ipv4HeaderLength x ≤ n) :
    (ipv4Fields (x.take n) conformance).payload =
      (ipv4Fields x conformance).payload.take (n - ipv4HeaderLength x) := by
  have htwenty := h.twenty_le
  have hcomplete := h.complete rfl
  have hmin : min (min n x.length) (ipv4TotalLength x) = min n (ipv4TotalLength x) := by omega
  simp (disch := omega) only [ipv4Fields, ipv4HeaderLength_take, ipv4TotalLength_take, length_take, hmin,
    Nat.min_eq_right hcomplete]
  rw [take_take, Nat.min_eq_left (Nat.min_le_left ..), drop_take, drop_take, take_take]
  congr 1
  omega

private theorem ipv4Fields_take (hheader : ipv4HeaderLength x ≤ n) (h : 20 ≤ n) :
    ipv4Fields (x.take n) conformance = { ipv4Fields x conformance with
      payload := (ipv4Fields (x.take n) conformance).payload
      trailing := (ipv4Fields (x.take n) conformance).trailing
      complete := (ipv4Fields (x.take n) conformance).complete
      upperLayer := (ipv4Fields (x.take n) conformance).upperLayer } := by
  simp (disch := omega) only [ipv4Fields, ipv4TotalLength_take, ipv4Options_take, u8At_take, u16At_take,
    ipv4At_take]

end Ipv4

/-! ### IPv6 -/

section Ipv6

variable {x : Bytes} {mode : ParseMode} {w w' : ExtensionWalk} {n : Nat}

/-- The walk over the extensions does not look behind the place where it ends. -/
theorem walkExtensions_take {available : Bytes} {left : Nat} (h : walkExtensions available left w = .ok w')
    (hn : w'.cursor ≤ n) : walkExtensions (available.take n) left w = .ok w' := by
  induction left generalizing w with
  | zero =>
    rw [walkExtensions] at h ⊢
    exact h
  | succ left ih =>
    cases hext : isExtension w.nextHeader with
    | false =>
      rw [walkExtensions_of_not_extension _ hext] at h ⊢
      exact h
    | true =>
      obtain ⟨parsed, following, length, hparse, hbytes, hrest⟩ := walkExtensions_succ_eq_ok hext h
      -- where the extension at hand ends, the walk has not ended yet
      have hend : w.cursor + length ≤ n := by
        rcases hrest with ⟨-, rfl⟩ | ⟨-, hrest⟩
        · rwa [ExtensionWalk.push_cursor] at hn
        obtain ⟨-, -, hbytes, hcursor, -⟩ := walkExtensions_reaches hrest
        rw [ExtensionWalk.push_cursor] at hcursor
        omega
      have hcut : parseExtension w.nextHeader ((available.take n).drop w.cursor) =
        .ok (parsed, following, length) := by
        obtain ⟨hlength, hfollowing, hlong, hmeaning⟩ := (parseExtension_eq_ok_iff hext).mp hparse
        have height := eight_le_extensionLength w.nextHeader (u8At (available.drop w.cursor) 1)
        rw [drop_take]
        refine (parseExtension_eq_ok_iff hext).mpr ⟨?_, ?_, ?_, ?_⟩
        · rw [u8At_take (by omega)]
          exact hlength
        · rw [u8At_take (by omega)]
          exact hfollowing
        · rw [length_take]
          omega
        · rw [take_take, Nat.min_eq_left (by omega)]
          exact hmeaning
      rw [walkExtensions_succ _ _ _ hext, hcut]
      dsimp only
      rw [if_neg (Nat.not_lt_of_le hbytes)]
      rcases hrest with ⟨hlater, rfl⟩ | ⟨hlater, hrest⟩
      · rw [if_pos hlater]
      · rw [if_neg (by rw [hlater]; decide)]
        exact ih hrest

private theorem Ipv6Accepts.cursor_eq (h : Ipv6Accepts x mode w) : w.cursor = 40 + w.extensionBytes := by
  have hcursor := (walkExtensions_reaches h.walk).cursor
  simp only [ExtensionWalk.initial, ipv6HeaderLength] at hcursor
  omega

private theorem ipv6DeclaredEnd_take (h : 40 ≤ n) : ipv6DeclaredEnd (x.take n) = ipv6DeclaredEnd x := by
  rw [ipv6DeclaredEnd, ipv6DeclaredEnd, u16At_take (by omega)]

private theorem ipv6Available_take (h : 40 ≤ n) : ipv6Available (x.take n) = (ipv6Available x).take n := by
  rw [ipv6Available, ipv6Available, ipv6DeclaredEnd_take h, length_take, take_take, take_take]
  congr 1
  omega

private theorem Ipv6Accepts.take (h : Ipv6Accepts x mode w) (hn : w.cursor ≤ n) :
    Ipv6Accepts (x.take n) .compatibleIcmpQuote w := by
  have hforty : 40 ≤ n := by
    have := h.cursor_eq
    omega
  have hlimit := h.limit
  have hminimum : 40 ≤ x.length := h.minimum
  have hlength : (x.take n).length = min n x.length := length_take
  exact {
    limit := by omega
    minimum := by unfold ipv6HeaderLength; omega
    version := by rw [u8At_take (by omega)]; exact h.version
    jumbogram := by rw [u16At_take (by omega), u8At_take (by omega)]; exact h.jumbogram
    complete := fun hmode => nomatch hmode
    walk := by
      rw [ipv6Available_take hforty, u8At_take (by omega)]
      exact walkExtensions_take h.walk hn
    fragments := by rw [ipv6DeclaredEnd_take hforty]; exact h.fragments }

private theorem Ipv6Accepts.quote (h : Ipv6Accepts x mode w) : Ipv6Accepts x .compatibleIcmpQuote w :=
  { h with complete := fun hmode => nomatch hmode }

private theorem ipv6Fields_terminal (x : Bytes) (w : ExtensionWalk) :
    terminalProtocolAndBytes (ipv6Fields x w).upperLayer = (w.nextHeader, (ipv6Available x).drop w.cursor) :=
  terminalProtocolAndBytes_classifyUpperLayer ..

private theorem ipv6Fields_take (h : 40 ≤ n) :
    ipv6Fields (x.take n) w = { ipv6Fields x w with
      upperLayer := (ipv6Fields (x.take n) w).upperLayer
      trailing := (ipv6Fields (x.take n) w).trailing
      complete := (ipv6Fields (x.take n) w).complete
      conformance := { (ipv6Fields x w).conformance with
        noNextHeaderData := (ipv6Fields (x.take n) w).conformance.noNextHeaderData } } := by
  simp (disch := omega) only [ipv6Fields, u32At_take, u16At_take, u8At_take, ipv6At_take]

end Ipv6

/-! ### Transport fields -/

/-- What identifies a probe: the kind of the transport, its ports, its sequence number or its identifier. -/
def QuotedTransport.identity : QuotedTransport → QuotedTransport
  | .tcp sourcePort destinationPort sequenceNumber _ _ _ =>
    .tcp sourcePort destinationPort sequenceNumber none none []
  | .udp sourcePort destinationPort declaredLength checksum _ =>
    .udp sourcePort destinationPort declaredLength checksum []
  | .icmpEcho messageType identifier sequence _ => .icmpEcho messageType identifier sequence []
  | .insufficient protocol _ required => .insufficient protocol [] required
  | .nonFirstFragment protocol _ => .nonFirstFragment protocol []
  | .opaqueBytes protocol _ => .opaqueBytes protocol []

/-- The fields of a quote are those of the payload: the ports and the sequence number of TCP, the ports, the length
and the checksum of UDP, the type, the identifier and the sequence number of an ICMP echo. -/
def QuotedTransport.Shows (t : QuotedTransport) (protocol : UInt8) (payload : Bytes) : Prop :=
  (protocol = 6 → ∃ acknowledgment flags bytes,
    t = .tcp (u16At payload 0) (u16At payload 2) (u32At payload 4) acknowledgment flags bytes) ∧
  (protocol = 17 → ∃ bytes,
    t = .udp (u16At payload 0) (u16At payload 2) (u16At payload 4) (u16At payload 6) bytes) ∧
  (isEcho protocol (u8At payload 0) = true → u8At payload 1 = 0 → ∃ bytes,
    t = .icmpEcho (u8At payload 0) (u16At payload 4) (u16At payload 6) bytes)

/-- Eight bytes are enough for the fields. -/
theorem shows_classifyQuote (protocol : UInt8) {fragment : FragmentState} (hfirst : fragment.isNonFirst = false)
    {bytes : Bytes} {n : Nat} (h : 8 ≤ (bytes.take n).length) :
    (classifyQuote protocol (bytes.take n) fragment).Shows protocol bytes := by
  obtain ⟨hn, hbytes⟩ : 8 ≤ n ∧ 8 ≤ bytes.length := by
    rw [length_take] at h
    omega
  refine ⟨?_, ?_, ?_⟩
  · rintro rfl
    simp (disch := omega) [classifyQuote, hfirst, hn, hbytes, u16At_take, u32At_take]
  · rintro rfl
    simp (disch := omega) [classifyQuote, hfirst, hn, hbytes, u16At_take]
  intro hecho hcode
  have hprotocol : protocol = 1 ∨ protocol = 58 := by
    simp only [isEcho, decide_eq_true_eq] at hecho
    exact hecho.imp And.left And.left
  have hquote : classifyQuote protocol (bytes.take n) fragment =
      .icmpEcho (u8At bytes 0) (u16At bytes 4) (u16At bytes 6) ((bytes.take n).drop 8) := by
    have hports : ¬ protocol = 6 ∧ ¬ protocol = 17 := by rcases hprotocol with rfl | rfl <;> decide
    simp (disch := omega) [classifyQuote, hfirst, hn, hbytes, hports, hprotocol, hecho, hcode,
      u8At_take, u16At_take]
  exact ⟨_, hquote⟩

/-- Eight bytes are enough for what identifies a probe. -/
theorem classifyQuote_take (protocol : UInt8) (fragment : FragmentState) {bytes : Bytes} {n : Nat}
    (h : 8 ≤ (bytes.take n).length) :
    (classifyQuote protocol (bytes.take n) fragment).identity =
    (classifyQuote protocol bytes fragment).identity := by
  obtain ⟨hn, hbytes⟩ : 8 ≤ n ∧ 8 ≤ bytes.length := by
    have hlength := h
    rw [length_take] at hlength
    omega
  simp (disch := omega) only [classifyQuote, ge_iff_le, h, hbytes, and_true, true_and, u8At_take, u16At_take,
    u32At_take]
  repeat' split
  all_goals rfl

/-! ### Quotes -/

variable {x : Bytes} {mode : ParseMode} {conformance : Ipv4Conformance} {n : Nat}

private theorem parseQuotedIpPacket_ipv4 {y : Bytes} {conformance : Ipv4Conformance}
    (h : Ipv4Accepts y .compatibleIcmpQuote conformance) :
    ∃ q, parseQuotedIpPacket y = .ok q ∧ q.source = .v4 (ipv4Fields y conformance).source ∧
      q.destination = .v4 (ipv4Fields y conformance).destination ∧
        q.protocol = (ipv4Fields y conformance).protocol ∧
      q.transport = classifyQuote (ipv4Fields y conformance).protocol (ipv4Fields y conformance).payload
        (ipv4Fields y conformance).fragment := by
  have hlength : 20 ≤ y.length := h.minimum
  have hparse := parseIpv4Packet_eq_ok_iff.mpr ⟨conformance, h, rfl⟩
  cases y with
  | nil => cases hlength
  | cons first rest =>
    have hversion : first >>> 4 = 4 := h.version
    rw [parseQuotedIpPacket]
    simp only [hversion, hparse]
    exact ⟨_, rfl, rfl, rfl, rfl, rfl⟩

private theorem parseQuotedIpPacket_ipv6 {y : Bytes} {w : ExtensionWalk}
    (h : Ipv6Accepts y .compatibleIcmpQuote w) :
    ∃ q, parseQuotedIpPacket y = .ok q ∧ q.source = .v6 (ipv6Fields y w).source ∧
      q.destination = .v6 (ipv6Fields y w).destination ∧ q.protocol = w.nextHeader ∧
      q.transport = classifyQuote w.nextHeader ((ipv6Available y).drop w.cursor) w.fragment := by
  have hlength : 40 ≤ y.length := h.minimum
  have hparse := parseIpv6Packet_eq_ok_iff.mpr ⟨w, h, rfl⟩
  cases y with
  | nil => cases hlength
  | cons first rest =>
    have hversion : first >>> 4 = 6 := h.version
    rw [parseQuotedIpPacket]
    simp only [hversion, hparse, ipv6Fields_terminal]
    exact ⟨_, rfl, rfl, rfl, rfl, rfl⟩

private theorem Ipv4Accepts.header_eq (h : Ipv4Accepts x mode conformance) :
    ipv4MinHeaderLength + (ipv4Options x).length = ipv4HeaderLength x := by
  have htwenty := h.twenty_le
  rw [ipv4Options, length_drop, length_take, Nat.min_eq_left h.header, ipv4MinHeaderLength]
  omega

/-- The quote of a packet that is cut behind its header. -/
theorem parseQuotedIpPacket_take_ipv4 {r : ParsedIpv4Packet} (hparse : parseIpv4Packet x .strict = .ok r)
    (hn : ipv4MinHeaderLength + r.options.length ≤ n) :
    ∃ q, parseQuotedIpPacket (x.take n) = .ok q ∧ q.source = .v4 r.source ∧ q.destination = .v4 r.destination ∧
      q.protocol = r.protocol ∧ q.transport =
        classifyQuote r.protocol (r.payload.take (n - (ipv4MinHeaderLength + r.options.length))) r.fragment := by
  obtain ⟨conformance, haccepts, rfl⟩ := parseIpv4Packet_eq_ok_iff.mp hparse
  have hheader : ipv4MinHeaderLength + (ipv4Fields x conformance).options.length = ipv4HeaderLength x :=
    haccepts.header_eq
  have htwenty := haccepts.twenty_le
  rw [hheader] at hn ⊢
  rw [← ipv4Fields_take_payload haccepts hn]
  have hquote := parseQuotedIpPacket_ipv4 (haccepts.take hn)
  rw [ipv4Fields_take hn (by omega)] at hquote
  exact hquote

theorem parseQuotedIpPacket_take_ipv6 {r : ParsedIpv6Packet} (hparse : parseIpv6Packet x .strict = .ok r)
    (hn : ipv6HeaderLength + r.extensionBytes ≤ n) :
    ∃ q, parseQuotedIpPacket (x.take n) = .ok q ∧ q.source = .v6 r.source ∧ q.destination = .v6 r.destination ∧
      q.protocol = (terminalProtocolAndBytes r.upperLayer).1 ∧
      q.transport = classifyQuote (terminalProtocolAndBytes r.upperLayer).1
        ((terminalProtocolAndBytes r.upperLayer).2.take (n - (ipv6HeaderLength + r.extensionBytes)))
          r.fragment := by
  obtain ⟨w, haccepts, rfl⟩ := parseIpv6Packet_eq_ok_iff.mp hparse
  have hcursor : ipv6HeaderLength + (ipv6Fields x w).extensionBytes = w.cursor := haccepts.cursor_eq.symm
  have hforty : 40 ≤ w.cursor := by rw [haccepts.cursor_eq]; exact Nat.le_add_right ..
  rw [hcursor] at hn ⊢
  have hquote := parseQuotedIpPacket_ipv6 (haccepts.take hn)
  rw [ipv6Fields_take (by omega), ipv6Available_take (by omega), drop_take] at hquote
  rw [ipv6Fields_terminal]
  exact hquote

/-- A packet that parses strictly, cut behind its IP headers, parses as a quote with the same header fields and the
part of the payload that is left.  Where eight bytes of it are left, the quote identifies the probe as the whole
packet does, and where the packet has the front of the payload, by the fields that stand there. -/
theorem quotes_truncate :
    (∀ (x y : Bytes) (r : ParsedIpv4Packet), parseIpv4Packet x .strict = .ok r → y <+: x →
      ipv4MinHeaderLength + r.options.length ≤ y.length →
      ∃ r', parseIpv4Packet y .compatibleIcmpQuote = .ok r' ∧
        r' = { r with
          payload := r'.payload, trailing := r'.trailing, complete := r'.complete, upperLayer := r'.upperLayer } ∧
        r'.payload <+: r.payload ∧ (r.declaredTotalLength ≤ y.length → r'.payload = r.payload) ∧
        (8 ≤ r'.payload.length → ∃ q q', parseQuotedIpPacket x = .ok q ∧ parseQuotedIpPacket y = .ok q' ∧
          q'.transport.identity = q.transport.identity ∧
          (r.fragment.isNonFirst = false → q'.transport.Shows r.protocol r.payload))) ∧
    (∀ (x y : Bytes) (r : ParsedIpv6Packet), parseIpv6Packet x .strict = .ok r → y <+: x →
      ipv6HeaderLength + r.extensionBytes ≤ y.length →
      ∃ r', parseIpv6Packet y .compatibleIcmpQuote = .ok r' ∧
        r' = { r with
          upperLayer := r'.upperLayer, trailing := r'.trailing, complete := r'.complete
          conformance := { r.conformance with noNextHeaderData := r'.conformance.noNextHeaderData } } ∧
        (terminalProtocolAndBytes r'.upperLayer).1 = (terminalProtocolAndBytes r.upperLayer).1 ∧
        (terminalProtocolAndBytes r'.upperLayer).2 <+: (terminalProtocolAndBytes r.upperLayer).2 ∧
        (ipv6HeaderLength + r.declaredPayloadLength ≤ y.length →
          (terminalProtocolAndBytes r'.upperLayer).2 = (terminalProtocolAndBytes r.upperLayer).2) ∧
        (8 ≤ (terminalProtocolAndBytes r'.upperLayer).2.length →
          ∃ q q', parseQuotedIpPacket x = .ok q ∧ parseQuotedIpPacket y = .ok q' ∧
            q'.transport.identity = q.transport.identity ∧
            (r.fragment.isNonFirst = false → q'.transport.Shows (terminalProtocolAndBytes r.upperLayer).1
              (terminalProtocolAndBytes r.upperLayer).2))) := by
  constructor
  · intro x y r hparse hcut hheaders
    obtain ⟨conformance, haccepts, rfl⟩ := parseIpv4Packet_eq_ok_iff.mp hparse
    have hy : y = x.take y.length := prefix_iff_eq_take.mp hcut
    have htwenty := haccepts.twenty_le
    have hn : ipv4HeaderLength x ≤ y.length := haccepts.header_eq ▸ hheaders
    generalize y.length = n at hy hn
    subst hy
    have haccepts' := haccepts.take hn
    have hpayload := ipv4Fields_take_payload haccepts hn
    have hlength : (ipv4Fields x conformance).payload.length = ipv4TotalLength x - ipv4HeaderLength x := by
      have hcomplete := haccepts.complete rfl
      simp only [ipv4Fields, length_drop, length_take]
      omega
    refine ⟨_, parseIpv4Packet_eq_ok_iff.mpr ⟨_, haccepts', rfl⟩, ipv4Fields_take hn (by omega), ?_, ?_, ?_⟩
    · rw [hpayload]
      exact take_prefix ..
    · intro hwhole
      have hdeclared : ipv4TotalLength x ≤ n := hwhole
      rw [hpayload, take_of_length_le (by omega)]
    intro height
    obtain ⟨q, hq, -, -, -, htransport⟩ := parseQuotedIpPacket_ipv4 haccepts.quote
    obtain ⟨q', hq', -, -, -, htransport'⟩ := parseQuotedIpPacket_ipv4 haccepts'
    rw [hpayload] at height
    rw [hpayload, ipv4Fields_take hn (by omega)] at htransport'
    refine ⟨q, q', hq, hq', ?_, ?_⟩
    · rw [htransport, htransport']
      exact classifyQuote_take _ _ height
    · intro hfirst
      rw [htransport']
      exact shows_classifyQuote _ hfirst height
  intro x y r hparse hcut hheaders
  obtain ⟨w, haccepts, rfl⟩ := parseIpv6Packet_eq_ok_iff.mp hparse
  have hy : y = x.take y.length := prefix_iff_eq_take.mp hcut
  have hcursor := haccepts.cursor_eq
  have hn : w.cursor ≤ y.length := by
    rw [hcursor]
    exact hheaders
  generalize y.length = n at hy hn
  subst hy
  have hforty : 40 ≤ n := by omega
  have haccepts' := haccepts.take hn
  have hpayload : (ipv6Available (x.take n)).drop w.cursor = ((ipv6Available x).drop w.cursor).take
    (n - w.cursor) := by
    rw [ipv6Available_take hforty, drop_take]
  refine ⟨_, parseIpv6Packet_eq_ok_iff.mpr ⟨_, haccepts', rfl⟩, ipv6Fields_take hforty, ?_, ?_, ?_, ?_⟩
  · rw [ipv6Fields_terminal, ipv6Fields_terminal]
  · rw [ipv6Fields_terminal, ipv6Fields_terminal, hpayload]
    exact take_prefix ..
  · intro hwhole
    have hdeclared : ipv6DeclaredEnd x ≤ n := hwhole
    have hlength : (ipv6Available x).length ≤ ipv6DeclaredEnd x := by
      rw [ipv6Available, length_take]
      omega
    rw [ipv6Fields_terminal, ipv6Fields_terminal, hpayload]
    exact take_of_length_le (by rw [length_drop]; omega)
  intro height
  obtain ⟨q, hq, -, -, -, htransport⟩ := parseQuotedIpPacket_ipv6 haccepts.quote
  obtain ⟨q', hq', -, -, -, htransport'⟩ := parseQuotedIpPacket_ipv6 haccepts'
  rw [ipv6Fields_terminal, hpayload] at height
  rw [hpayload] at htransport'
  refine ⟨q, q', hq, hq', ?_, ?_⟩
  · rw [htransport, htransport']
    exact classifyQuote_take _ _ height
  · intro hfirst
    rw [htransport', ipv6Fields_terminal]
    exact shows_classifyQuote _ hfirst height

/-- A UDP datagram of twelve bytes. -/
def quotedDatagram : Bytes := [0x30, 0x39, 0, 53, 0, 12, 0, 0, 1, 2, 3, 4]

def quotedIpv4 : Bytes :=
  [0x45, 0, 0, 32, 0, 0, 0x40, 0, 0x40, 0x11, 0x26, 0xcb, 10, 0, 0, 1, 10, 0, 0, 2] ++ quotedDatagram

/-- The same datagram behind destination options. -/
def quotedIpv6 : Bytes :=
  [0x60, 0, 0, 0, 0, 20, 60, 64] ++ ipv6Octets 1 ++ ipv6Octets 2 ++ [17, 0, 1, 4, 0, 0, 0, 0] ++ quotedDatagram

def quotedIpv6Walk : ExtensionWalk :=
  (ExtensionWalk.initial destinationOptions).push (.destinationOptions [1, 4, 0, 0, 0, 0]) 17 8

/-- Both packets, cut eight bytes behind their IP headers, show the ports, the length and the checksum. -/
theorem quotes_truncate_datagram :
    (∃ r', parseIpv4Packet (quotedIpv4.take 28) .compatibleIcmpQuote = .ok r' ∧ r'.protocol = 17 ∧ ∃ q q',
      parseQuotedIpPacket quotedIpv4 = .ok q ∧ parseQuotedIpPacket (quotedIpv4.take 28) = .ok q' ∧
        q'.transport.identity = q.transport.identity ∧ ∃ bytes, q'.transport = .udp 12345 53 12 0 bytes) ∧
    (∃ r', parseIpv6Packet (quotedIpv6.take 56) .compatibleIcmpQuote = .ok r' ∧ r'.hopLimit = 64 ∧ ∃ q q',
      parseQuotedIpPacket quotedIpv6 = .ok q ∧ parseQuotedIpPacket (quotedIpv6.take 56) = .ok q' ∧
        q'.transport.identity = q.transport.identity ∧ ∃ bytes, q'.transport = .udp 12345 53 12 0 bytes) := by
  constructor
  · obtain ⟨r', hparse, hsame, -, -, hquote⟩ := quotes_truncate.1 quotedIpv4 (quotedIpv4.take 28)
      (ipv4Fields quotedIpv4 ⟨false, false⟩) (by decide +kernel) ⟨_, take_append_drop ..⟩ (by decide +kernel)
    have hpayload : 8 ≤ r'.payload.length := by
      have hr : parseIpv4Packet (quotedIpv4.take 28) .compatibleIcmpQuote =
          .ok (ipv4Fields (quotedIpv4.take 28) ⟨false, false⟩) := by decide +kernel
      rw [hr] at hparse
      cases hparse
      decide +kernel
    obtain ⟨q, q', hq, hq', hidentity, hshows⟩ := hquote hpayload
    exact ⟨r', hparse, by rw [hsame]; rfl, q, q', hq, hq', hidentity, (hshows rfl).2.1 rfl⟩
  obtain ⟨r', hparse, hsame, -, -, -, hquote⟩ := quotes_truncate.2 quotedIpv6 (quotedIpv6.take 56)
    (ipv6Fields quotedIpv6 quotedIpv6Walk) (by decide +kernel) ⟨_, take_append_drop ..⟩ (by decide +kernel)
  have hpayload : 8 ≤ (terminalProtocolAndBytes r'.upperLayer).2.length := by
    have hr : parseIpv6Packet (quotedIpv6.take 56) .compatibleIcmpQuote =
        .ok (ipv6Fields (quotedIpv6.take 56) quotedIpv6Walk) := by decide +kernel
    rw [hr] at hparse
    cases hparse
    decide +kernel
  obtain ⟨q, q', hq, hq', hidentity, hshows⟩ := hquote hpayload
  exact ⟨r', hparse, by rw [hsame]; rfl, q, q', hq, hq', hidentity, (hshows rfl).2.1 rfl⟩

end NodeNet.Protocols
