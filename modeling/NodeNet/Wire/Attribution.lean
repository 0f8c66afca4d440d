import NodeNet.Wire.Process

/-!
# Attribution of received packets

What arrives is compared with every live probe of every session.  A match fixes the correlation key of the probe
(`ProbeWire.hasKey_of_matches`): its source port, or its ICMP identifier and sequence.  Keys that were made from
lanes have one owner within a session; ICMP keys differ between slots.  A probe for neighbour discovery has no
lane: its ICMP fields are zero.
-/

namespace NodeNet.Wire

open Engine (IpAddress EvidenceStrength ProbeFamily LogicalProbe EmissionPurpose ProbeEmission)
open Protocols

/-! ### Matching -/

/-- What is compared with the live probes: a segment, a datagram, an echo reply, or a packet quoted by an ICMP
error. -/
inductive Received where
  | tcp (tuple : ResponseTuple) (segment : TcpFields)
  | udp (tuple : ResponseTuple)
  | echo (source destination : IpAddress) (identifier sequence : UInt16) (payload : Bytes)
  | quote (bytes : Bytes)

def ProbeWire.Matches (p : ProbeWire) : Received → Bool
  | .tcp tuple segment => (classifyTcpReply p.identity p.token tuple segment).isOk
  | .udp tuple => (classifyUdpReply p.identity tuple).isOk
  | .echo source destination identifier sequence payload =>
    (classifyEchoReply p.identity source destination identifier sequence payload p.token).isOk
  | .quote bytes =>
    match parseQuotedIpPacket bytes with
    | .error _ => false
    | .ok packet => (classifyQuotedResponse p.identity packet p.token).isOk

/-- The live probes that match, by slot and wire id. -/
def Process.matching (p : Process) (m : Received) : List (Nat × Nat) :=
  p.sessions.entries.flatMap fun (slot, s) => (s.probes.keysWhere fun _ probe => probe.Matches m).map (slot, ·)

/-! ### Keys -/

/-- The field of a probe that a match has to reproduce. -/
inductive Key where
  | port (port : UInt16)
  | icmp (identifier sequence : UInt16)
deriving DecidableEq

def QuotedTransport.key : QuotedTransport → Option Key
  | .tcp sourcePort _ _ _ _ _ => some (.port sourcePort)
  | .udp sourcePort _ _ _ _ => some (.port sourcePort)
  | .icmpEcho _ identifier sequence _ => some (.icmp identifier sequence)
  | _ => none

def Received.key : Received → Option Key
  | .tcp tuple _ => some (.port tuple.destinationPort)
  | .udp tuple => some (.port tuple.destinationPort)
  | .echo _ _ identifier sequence _ => some (.icmp identifier sequence)
  | .quote bytes =>
    match parseQuotedIpPacket bytes with
    | .error _ => none
    | .ok packet => QuotedTransport.key packet.transport

def ProbeWire.HasKey (p : ProbeWire) : Key → Prop
  | .port port => (p.identity.protocol = 6 ∨ p.identity.protocol = 17) ∧ p.identity.sourcePort = port
  | .icmp identifier sequence => (p.identity.protocol = 1 ∨ p.identity.protocol = 58) ∧
      p.identity.icmpIdentifier = identifier ∧ p.identity.icmpSequence = sequence

/-- An ICMP message with zero fields between the endpoints of the probe, whose payload does not rule the probe out:
it starts with the probe's token, or it is a quote that ends before. -/
def Received.Strikes (m : Received) (p : ProbeWire) : Prop :=
  match m with
  | .tcp _ _ | .udp _ => False
  | .echo source destination identifier sequence payload =>
    source = p.identity.destination ∧ destination = p.identity.source ∧ identifier = 0 ∧ sequence = 0 ∧
      payload.take 16 = p.token.payloadToken
  | .quote bytes =>
    match parseQuotedIpPacket bytes with
    | .error _ => False
    | .ok packet =>
      match packet.transport with
      | .icmpEcho _ identifier sequence payload =>
        packet.source = p.identity.source ∧ packet.destination = p.identity.destination ∧
          identifier = 0 ∧ sequence = 0 ∧ (payload.length < 16 ∨ payload.take 16 = p.token.payloadToken)
      | _ => False

/-! ### A match reproduces the key -/

section Classification

variable {expected : ProbeIdentity} {token : CorrelationToken}

private theorem of_classifyTcpReply {tuple : ResponseTuple} {segment : TcpFields}
    (h : (classifyTcpReply expected token tuple segment).isOk) :
    expected.protocol = 6 ∧ expected.sourcePort = tuple.destinationPort := by
  unfold classifyTcpReply at h
  split at h
  · cases h
  next hprotocol =>
  split at h
  · cases h
  next htuple =>
  simp only [reverseTupleMatches, not_or, Bool.not_eq_true, Bool.not_eq_false', decide_eq_true_eq] at htuple
  exact ⟨not_not.1 hprotocol, htuple.1.2.2.2.symm⟩

private theorem of_classifyUdpReply {tuple : ResponseTuple} (h : (classifyUdpReply expected tuple).isOk) :
    expected.protocol = 17 ∧ expected.sourcePort = tuple.destinationPort := by
  unfold classifyUdpReply at h
  split at h
  · cases h
  next hprotocol =>
  split at h
  · cases h
  next htuple =>
  simp only [reverseTupleMatches, Bool.not_eq_true, Bool.not_eq_false', decide_eq_true_eq] at htuple
  exact ⟨not_not.1 hprotocol, htuple.2.2.2.symm⟩

private theorem of_classifyEchoReply {source destination : IpAddress} {identifier sequence : UInt16}
    {payload : Bytes}
    (h : (classifyEchoReply expected source destination identifier sequence payload token).isOk) :
    (expected.protocol = 1 ∨ expected.protocol = 58) ∧ source = expected.destination ∧
      destination = expected.source ∧ identifier = expected.icmpIdentifier ∧ sequence = expected.icmpSequence ∧
      payload.take 16 = token.payloadToken := by
  unfold classifyEchoReply at h
  split at h
  · cases h
  next hprotocol =>
  split at h
  · cases h
  next htuple =>
  split at h
  · cases h
  next htoken =>
  simp only [not_or, not_not, CorrelationToken.payloadMatches, Bool.not_eq_true, Bool.not_eq_false',
    decide_eq_true_eq] at htuple htoken
  refine ⟨?_, htuple.1, htuple.2.1, htuple.2.2.1, htuple.2.2.2, htoken.2.2.symm⟩
  by_contra hno
  exact hprotocol (not_or.1 hno)

private theorem of_classifyPayloadPrefix {payload : Bytes} {strength : EvidenceStrength}
    (h : classifyPayloadPrefix payload token = .ok strength) :
    payload.length < 16 ∨ payload.take 16 = token.payloadToken := by
  unfold classifyPayloadPrefix at h
  split at h
  · next hshort => exact Or.inl hshort
  split at h
  · cases h
  next htoken =>
  simp only [CorrelationToken.payloadMatches, Bool.not_eq_true, Bool.not_eq_false', decide_eq_true_eq] at htoken
  exact Or.inr htoken.2.symm

/-- The protocols whose packets have such transport fields. -/
private def Speaks (protocol : UInt8) : QuotedTransport → Prop
  | .tcp _ _ _ _ _ _ => protocol = 6
  | .udp _ _ _ _ _ => protocol = 17
  | .icmpEcho _ _ _ _ => protocol = 1 ∨ protocol = 58
  | _ => True

private theorem speaks_classifyQuote (protocol : UInt8) (bytes : Bytes) (fragment : FragmentState) :
    Speaks protocol (classifyQuote protocol bytes fragment) := by
  unfold classifyQuote
  split
  · trivial
  iterate 3
    split
    · next h => exact h.1
  split <;> trivial

private theorem parseQuotedIpPacket_transport {bytes : Bytes} {packet : QuotedIpPacket}
    (h : parseQuotedIpPacket bytes = .ok packet) :
    ∃ payload, packet.transport = classifyQuote packet.protocol payload packet.fragment := by
  unfold parseQuotedIpPacket at h
  split at h
  · cases h
  iterate 2
    split at h
    · split at h
      · cases h
      · cases h
        exact ⟨_, rfl⟩
  cases h

/-- What a quoted packet that is attributed to a probe has in common with the probe. -/
private theorem of_classifyQuotedResponse {bytes : Bytes} {packet : QuotedIpPacket}
    (hparse : parseQuotedIpPacket bytes = .ok packet) (h : (classifyQuotedResponse expected packet token).isOk) :
    packet.source = expected.source ∧ packet.destination = expected.destination ∧
      match packet.transport with
      | .tcp sourcePort _ _ _ _ _ => expected.protocol = 6 ∧ expected.sourcePort = sourcePort
      | .udp sourcePort _ _ _ _ => expected.protocol = 17 ∧ expected.sourcePort = sourcePort
      | .icmpEcho _ identifier sequence payload => (expected.protocol = 1 ∨ expected.protocol = 58) ∧
          expected.icmpIdentifier = identifier ∧ expected.icmpSequence = sequence ∧
          (payload.length < 16 ∨ payload.take 16 = token.payloadToken)
      | _ => False := by
  obtain ⟨payload, htransport⟩ := parseQuotedIpPacket_transport hparse
  have hprotocol := speaks_classifyQuote packet.protocol payload packet.fragment
  rw [← htransport] at hprotocol
  unfold classifyQuotedResponse at h
  split at h
  · cases h
  next haddresses =>
  simp only [not_or, not_not] at haddresses
  split at h
  · cases h
  next hexpected =>
  rw [not_not.1 hexpected] at hprotocol
  refine ⟨haddresses.1, haddresses.2, ?_⟩
  split at h
  · cases h
  next strength hstrength =>
  unfold quoteStrength requireOutboundPorts at hstrength
  cases hcase : packet.transport with
  | tcp sourcePort destinationPort sequenceNumber acknowledgment flags bytes
  | udp sourcePort destinationPort declaredLength checksum bytes =>
    simp only [hcase] at hstrength
    rw [hcase] at hprotocol
    by_cases hports : sourcePort ≠ expected.sourcePort ∨ destinationPort ≠ expected.destinationPort
    · simp only [if_pos hports] at hstrength
      cases hstrength
    · exact ⟨hprotocol, (not_not.1 (not_or.1 hports).1).symm⟩
  | icmpEcho messageType identifier sequence bytes =>
    simp only [hcase] at hstrength
    rw [hcase] at hprotocol
    by_cases hfields : identifier ≠ expected.icmpIdentifier ∨ sequence ≠ expected.icmpSequence
    · rw [if_pos hfields] at hstrength
      cases hstrength
    rw [if_neg hfields] at hstrength
    obtain ⟨hidentifier, hsequence⟩ := not_or.1 hfields
    exact ⟨hprotocol, (not_not.1 hidentifier).symm, (not_not.1 hsequence).symm, of_classifyPayloadPrefix hstrength⟩
  | insufficient protocol bytes required | nonFirstFragment protocol bytes | opaqueBytes protocol bytes =>
    simp only [hcase] at hstrength; cases hstrength

end Classification

/-- A probe that matches has the key of what it matches. -/
theorem ProbeWire.hasKey_of_matches {p : ProbeWire} {m : Received} (h : p.Matches m) :
    ∃ k, m.key = some k ∧ p.HasKey k := by
  cases m with
  | tcp tuple segment =>
    obtain ⟨hprotocol, hport⟩ := of_classifyTcpReply h
    exact ⟨_, rfl, Or.inl hprotocol, hport⟩
  | udp tuple =>
    obtain ⟨hprotocol, hport⟩ := of_classifyUdpReply h
    exact ⟨_, rfl, Or.inr hprotocol, hport⟩
  | echo source destination identifier sequence payload =>
    obtain ⟨hprotocol, -, -, hidentifier, hsequence, -⟩ := of_classifyEchoReply h
    exact ⟨_, rfl, hprotocol, hidentifier.symm, hsequence.symm⟩
  | quote bytes =>
    cases hparse : parseQuotedIpPacket bytes with
    | error e => simp only [Matches, hparse] at h; cases h
    | ok packet =>
      simp only [Matches, hparse] at h
      have hquote := (of_classifyQuotedResponse hparse h).2.2
      simp only [Received.key, hparse]
      cases hcase : packet.transport with
      | tcp sourcePort _ _ _ _ _ =>
        simp only [hcase] at hquote
        exact ⟨_, rfl, Or.inl hquote.1, hquote.2⟩
      | udp sourcePort _ _ _ _ =>
        simp only [hcase] at hquote
        exact ⟨_, rfl, Or.inr hquote.1, hquote.2⟩
      | icmpEcho _ identifier sequence payload =>
        simp only [hcase] at hquote
        exact ⟨_, rfl, hquote.1, hquote.2.1, hquote.2.2.1⟩
      | insufficient _ _ _ | nonFirstFragment _ _ | opaqueBytes _ _ => simp only [hcase] at hquote

/-- A probe with zero ICMP fields is matched only by what strikes it, if it uses ICMP. -/
theorem ProbeWire.strikes_of_matches {p : ProbeWire} {m : Received} (h : p.Matches m)
    (hprotocol : p.identity.protocol = 58) (hidentifier : p.identity.icmpIdentifier = 0)
    (hsequence : p.identity.icmpSequence = 0) : m.Strikes p := by
  have hnotTcp : p.identity.protocol ≠ 6 := by rw [hprotocol]; decide
  have hnotUdp : p.identity.protocol ≠ 17 := by rw [hprotocol]; decide
  cases m with
  | tcp tuple segment => exact absurd (of_classifyTcpReply h).1 hnotTcp
  | udp tuple => exact absurd (of_classifyUdpReply h).1 hnotUdp
  | echo source destination identifier sequence payload =>
    obtain ⟨-, hsource, hdestination, hid, hseq, htoken⟩ := of_classifyEchoReply h
    exact ⟨hsource, hdestination, hid.trans hidentifier, hseq.trans hsequence, htoken⟩
  | quote bytes =>
    cases hparse : parseQuotedIpPacket bytes with
    | error e => simp only [Matches, hparse] at h; cases h
    | ok packet =>
      simp only [Matches, hparse] at h
      obtain ⟨hsource, hdestination, hquote⟩ := of_classifyQuotedResponse hparse h
      simp only [Received.Strikes, hparse]
      cases hcase : packet.transport with
      | tcp _ _ _ _ _ _ => simp only [hcase] at hquote; exact absurd hquote.1 hnotTcp
      | udp _ _ _ _ _ => simp only [hcase] at hquote; exact absurd hquote.1 hnotUdp
      | icmpEcho _ identifier sequence payload =>
        simp only [hcase] at hquote
        exact ⟨hsource, hdestination, hquote.2.1.symm.trans hidentifier, hquote.2.2.1.symm.trans hsequence,
          hquote.2.2.2⟩
      | insufficient _ _ _ | nonFirstFragment _ _ | opaqueBytes _ _ => simp only [hcase] at hquote

/-! ### Lanes of one session -/

namespace WireState

variable {s s' : WireState} {slot slot' : Nat}

/-- What a session's pools promise: the map from probes to lanes and the set of occupied lanes agree, no lane has
two probes, what is lent is a lane that the probe holds, a probe that holds a lane gets it again, a request fails
only when every lane is occupied, and what is lent lies in the session's own part of the space. -/
structure LanesSound (s : WireState) : Prop where
  source : s.sourceLanes.Valid s.portsPerSession
  icmp : s.icmpLanes.Valid icmpLaneCount
  source_lent : ∀ probeId port t, sourcePort probeId s = .ok port t →
    ∃ lane, t.sourceLanes.held.get? probeId = some lane ∧ port.toNat = s.portOf lane
  icmp_lent : ∀ probeId fields t, icmpCorrelationFields probeId s = .ok fields t →
    ∃ lane, t.icmpLanes.held.get? probeId = some lane ∧
      fields.1.toNat = s.sessionSlot * 2 ^ 14 + lane / 65536 ∧ fields.2.toNat = lane % 65536
  source_again : ∀ probeId lane, s.sourceLanes.held.get? probeId = some lane →
    sourcePort probeId s = .ok (UInt16.ofNat (s.portOf lane)) s
  icmp_again : ∀ probeId lane, s.icmpLanes.held.get? probeId = some lane → icmpCorrelationFields probeId s =
    .ok (UInt16.ofNat (s.sessionSlot * 2 ^ 14 + lane / 65536), UInt16.ofNat (lane % 65536)) s
  source_full : ∀ probeId e t,
    sourcePort probeId s = .error e t → s.sourceLanes.occupied = Finset.range s.portsPerSession
  icmp_full : ∀ probeId e t,
    icmpCorrelationFields probeId s = .error e t → s.icmpLanes.occupied = Finset.range icmpLaneCount
  source_range : ∀ probeId port t, sourcePort probeId s = .ok port t →
    s.portOf 0 ≤ port.toNat ∧ port.toNat < s.portOf s.portsPerSession
  icmp_slot : ∀ probeId fields t, icmpCorrelationFields probeId s = .ok fields t →
    fields.1.toNat / 2 ^ 14 = s.sessionSlot

theorem Inv.lanesSound (h : s.Inv slot) : s.LanesSound where
  source := h.sourceLanes
  icmp := h.icmpLanes
  source_lent probeId _ _ hok := by
    obtain ⟨-, hextends, lane, hheld, hport⟩ := (sourcePort_ends h probeId).of_ok hok
    exact ⟨lane, hheld, hport.trans (hextends.portOf lane)⟩
  icmp_lent probeId _ _ hok := by
    obtain ⟨-, hextends, lane, hheld, hfields⟩ := (icmpCorrelationFields_ends h probeId).of_ok hok
    exact ⟨lane, hheld, hextends.slot ▸ hfields⟩
  source_again probeId lane hheld := by rw [sourcePort_eq h, Lanes.allocate_of_held hheld]
  icmp_again probeId lane hheld := by rw [icmpCorrelationFields_eq h, Lanes.allocate_of_held hheld]
  source_full probeId _ _ herror := ((sourcePort_ends h probeId).of_error herror).2.2
  icmp_full probeId _ _ herror := ((icmpCorrelationFields_ends h probeId).of_error herror).2.2
  source_range probeId port t hok := by
    obtain ⟨hinv, hextends, lane, hheld, hport⟩ := (sourcePort_ends h probeId).of_ok hok
    have hlane := hinv.sourceLanes.bounded probeId lane hheld
    rw [hextends.portsPerSession] at hlane
    rw [hport, hextends.portOf]
    unfold portOf
    omega
  icmp_slot probeId fields t hok := by
    obtain ⟨hinv, hextends, lane, hheld, hidentifier, -⟩ := (icmpCorrelationFields_ends h probeId).of_ok hok
    have hlane := hinv.icmpLanes.bounded probeId lane hheld
    unfold icmpLaneCount at hlane
    rw [hextends.slot] at hidentifier
    omega

/-! ### One owner for a key -/

/-- The ports that two sessions can lend are two intervals, one behind the other. -/
def Apart (s s' : WireState) : Prop :=
  s.portOf s.portsPerSession ≤ s'.portOf 0 ∨ s'.portOf s'.portsPerSession ≤ s.portOf 0

instance (s s' : WireState) : Decidable (s.Apart s') := inferInstanceAs (Decidable (_ ∨ _))

/-- The session lends the port after some further requests. -/
def Lends (s : WireState) (port : UInt16) : Prop :=
  ∃ (probeIds : List Nat) (probeId : Nat) (t : WireState),
    sourcePort probeId ((probeIds.map WireOperation.sourcePort).foldl apply s) = .ok port t

private theorem requests_eq (h : s.Inv slot) (probeIds : List Nat) :
    (probeIds.map WireOperation.sourcePort).foldl apply s = { s with
      sourceLanes := probeIds.foldl (fun l probeId => (l.allocate s.portsPerSession probeId).2)
        s.sourceLanes } := by
  induction probeIds generalizing s with
  | nil => rfl
  | cons probeId probeIds ih =>
    have hone : s.apply (.sourcePort probeId) =
        { s with sourceLanes := (s.sourceLanes.allocate s.portsPerSession probeId).2 } := by
      simp only [apply, endState, sourcePort_eq h]
      rcases s.sourceLanes.allocate s.portsPerSession probeId with ⟨_ | lane, lanes⟩ <;> rfl
    rw [List.map_cons, List.foldl_cons, ih (apply_inv h _), hone]
    rfl

theorem lends_iff (h : s.Inv slot) {port : UInt16} :
    s.Lends port ↔ s.portOf 0 ≤ port.toNat ∧ port.toNat < s.portOf s.portsPerSession := by
  have hrequests : ∀ probeIds : List Nat, ((probeIds.map WireOperation.sourcePort).foldl apply s).Inv slot :=
    fun _ => List.foldlRecOn (motive := (Inv · slot)) _ apply h fun _ hinv operation _ => apply_inv hinv operation
  constructor
  · rintro ⟨probeIds, probeId, t, hok⟩
    have hinv := hrequests probeIds
    rw [requests_eq h] at hok hinv
    exact hinv.lanesSound.source_range probeId port t hok
  rintro ⟨hlow, hhigh⟩
  obtain ⟨lane, hlane, hport⟩ : ∃ lane < s.portsPerSession, port.toNat = s.portOf lane :=
    ⟨port.toNat - s.portOf 0, by unfold portOf at *; omega, by unfold portOf at *; omega⟩
  obtain ⟨probeIds, probeId, hheld⟩ := h.sourceLanes.exists_held hlane
  have hinv := hrequests probeIds
  refine ⟨probeIds, probeId, (probeIds.map WireOperation.sourcePort).foldl apply s, ?_⟩
  rw [requests_eq h] at hinv ⊢
  rw [hinv.lanesSound.source_again probeId lane hheld]
  congr 1
  exact UInt16.toNat_inj.1 (((toNat_portOf h.sessionSlot_lt hlane).2).trans hport.symm)

theorem apart_iff (h : s.Inv slot) (h' : s'.Inv slot') :
    s.Apart s' ↔ ∀ port, ¬ (s.Lends port ∧ s'.Lends port) := by
  have hpos := s.portsPerSession_pos
  have hpos' := s'.portsPerSession_pos
  have hstop : s.portOf s.portsPerSession = s.portOf 0 + s.portsPerSession := by unfold portOf; omega
  have hstop' : s'.portOf s'.portsPerSession = s'.portOf 0 + s'.portsPerSession := by unfold portOf; omega
  simp only [lends_iff h, lends_iff h']
  unfold Apart
  constructor
  · intro hapart port hport
    omega
  intro hnone
  by_contra hno
  -- the later of the two first ports is in both quarters
  have hfirst := (toNat_portOf h.sessionSlot_lt hpos).2
  have hfirst' := (toNat_portOf h'.sessionSlot_lt hpos').2
  have hlend := hnone (UInt16.ofNat (s.portOf 0))
  have hlend' := hnone (UInt16.ofNat (s'.portOf 0))
  rw [hfirst] at hlend
  rw [hfirst'] at hlend'
  omega

private theorem usesPorts_of_protocol {family : ProbeFamily}
    (h : familyProtocol family = 6 ∨ familyProtocol family = 17) : family.usesPorts = true := by
  revert h
  cases family <;> decide

private theorem isEchoFamily_of_protocol {family : ProbeFamily}
    (h : familyProtocol family = 1 ∨ familyProtocol family = 58) (hndp : family ≠ .ndp) :
    isEchoFamily family = true := by
  revert h hndp
  cases family <;> decide

variable {probeId probeId' : Nat} {p p' : ProbeWire} {k : Key}

/-- Within a session a key has one owner; in two sessions with separate ports it has none but one. -/
theorem Inv.eq_of_key (h : s.Inv slot) (h' : s'.Inv slot') (hp : s.probes.get? probeId = some p)
    (hp' : s'.probes.get? probeId' = some p') (hk : p.HasKey k) (hk' : p'.HasKey k) (hndp : p.probe.family ≠ .ndp)
    (hndp' : p'.probe.family ≠ .ndp) (hsame : slot = slot' → s = s') (hapart : slot ≠ slot' → s.Apart s') :
    slot = slot' ∧ probeId = probeId' := by
  have howns := h.probes probeId p hp
  have howns' := h'.probes probeId' p' hp'
  cases k with
  | port port =>
    obtain ⟨hprotocol, hport⟩ := hk
    obtain ⟨hprotocol', hport'⟩ := hk'
    rw [howns.protocol] at hprotocol
    rw [howns'.protocol] at hprotocol'
    obtain ⟨lane, hheld, hlane⟩ := howns.port (usesPorts_of_protocol hprotocol)
    obtain ⟨lane', hheld', hlane'⟩ := howns'.port (usesPorts_of_protocol hprotocol')
    rw [hport] at hlane
    rw [hport'] at hlane'
    have hbound := h.sourceLanes.bounded probeId lane hheld
    have hbound' := h'.sourceLanes.bounded probeId' lane' hheld'
    by_cases hslot : slot = slot'
    · have hs := hsame hslot
      subst hs
      have hlanes : lane' = lane := by unfold portOf at hlane hlane'; omega
      exact ⟨hslot, h.sourceLanes.distinct probeId probeId' lane hheld (hlanes ▸ hheld')⟩
    have hfar := hapart hslot
    unfold Apart portOf at hfar
    unfold portOf at hlane hlane'
    omega
  | icmp identifier sequence =>
    obtain ⟨hprotocol, hidentifier, hsequence⟩ := hk
    obtain ⟨hprotocol', hidentifier', hsequence'⟩ := hk'
    rw [howns.protocol] at hprotocol
    rw [howns'.protocol] at hprotocol'
    obtain ⟨lane, hheld, hid, hseq⟩ := howns.echo (isEchoFamily_of_protocol hprotocol hndp)
    obtain ⟨lane', hheld', hid', hseq'⟩ := howns'.echo (isEchoFamily_of_protocol hprotocol' hndp')
    rw [hidentifier, h.slot_eq] at hid
    rw [hidentifier', h'.slot_eq] at hid'
    rw [hsequence] at hseq
    rw [hsequence'] at hseq'
    have hbound := h.icmpLanes.bounded probeId lane hheld
    have hbound' := h'.icmpLanes.bounded probeId' lane' hheld'
    unfold icmpLaneCount at hbound hbound'
    have hslot : slot = slot' := by omega
    have hlanes : lane' = lane := by omega
    have hs := hsame hslot
    subst hs
    exact ⟨hslot, h.icmpLanes.distinct probeId probeId' lane hheld (hlanes ▸ hheld')⟩

end WireState

/-! ### The process -/

namespace Process

variable {p : Process} {m : Received}

/-- A probe that a session of the process has sent and not forgotten. -/
def Live (p : Process) (slot probeId : Nat) (probe : ProbeWire) : Prop :=
  ∃ s, p.sessions.get? slot = some s ∧ s.probes.get? probeId = some probe

theorem mem_matching {slot probeId : Nat} :
    (slot, probeId) ∈ p.matching m ↔ ∃ probe, p.Live slot probeId probe ∧ probe.Matches m := by
  simp only [matching, Live, List.mem_flatMap, List.mem_map, Prod.mk.injEq]
  constructor
  · rintro ⟨⟨slot', s⟩, hs, probeId', hprobe, rfl, rfl⟩
    obtain ⟨probe, hget, hmatches⟩ := OrdMap.mem_keysWhere.1 hprobe
    exact ⟨probe, ⟨s, OrdMap.get?_eq_some_iff.2 hs, hget⟩, hmatches⟩
  · rintro ⟨probe, ⟨s, hs, hget⟩, hmatches⟩
    exact ⟨(slot, s), OrdMap.get?_eq_some_iff.1 hs, probeId, OrdMap.mem_keysWhere.2 ⟨probe, hget, hmatches⟩,
      rfl, rfl⟩

theorem matching_nodup (p : Process) (m : Received) : (p.matching m).Nodup := by
  refine List.nodup_flatMap.2 ⟨fun entry _ => ?_, ?_⟩
  · exact (OrdMap.keysWhere_nodup _ _).map fun _ _ h => (Prod.mk.inj h).2
  refine p.sessions.sorted.imp fun {a b} hlt => ?_
  simp only [Function.onFun, List.disjoint_left, List.mem_map]
  rintro _ ⟨probeId, -, rfl⟩ ⟨probeId', -, heq⟩
  exact absurd (Prod.mk.inj heq).1 (Nat.ne_of_gt hlt)

/-- In every run the pools of every session are sound and belong to the session's slot, so that ICMP identifiers
differ between slots; the source ports of two slots differ exactly if the quarters of their port ranges lie apart.
While those of all live sessions do, at most one live probe matches what is received, unless it strikes a probe for
neighbour discovery, whose ICMP fields come from no pool. -/
theorem lanes_exclusive (operations : List Operation) :
    (∀ slot s, (run operations).sessions.get? slot = some s → s.LanesSound ∧ s.sessionSlot = slot ∧ slot < 4) ∧
    (∀ slot s slot' s', (run operations).sessions.get? slot = some s →
      (run operations).sessions.get? slot' = some s' → slot ≠ slot' →
      (∀ probeId probeId' fields fields' t t', WireState.icmpCorrelationFields probeId s = .ok fields t →
        WireState.icmpCorrelationFields probeId' s' = .ok fields' t' → fields.1 ≠ fields'.1) ∧
      (s.Apart s' ↔ ∀ port, ¬ (s.Lends port ∧ s'.Lends port))) ∧
    ((∀ slot s slot' s', (run operations).sessions.get? slot = some s →
        (run operations).sessions.get? slot' = some s' → slot ≠ slot' → s.Apart s') →
      ∀ m, (∀ slot probeId probe, (run operations).Live slot probeId probe → probe.probe.family = .ndp →
          ¬ m.Strikes probe) →
        ((run operations).matching m).length ≤ 1) := by
  have hinv := run_inv operations
  refine ⟨fun slot s hs => ?_, fun slot s slot' s' hs hs' hne =>
    ⟨?_, WireState.apart_iff (hinv slot s hs) (hinv slot' s' hs')⟩, fun hapart m hndp => ?_⟩
  · have h := hinv slot s hs
    exact ⟨h.lanesSound, h.slot_eq, h.slot_lt⟩
  · intro probeId probeId' fields fields' t t' hok hok' heq
    have hslot := (hinv slot s hs).lanesSound.icmp_slot probeId fields t hok
    have hslot' := (hinv slot' s' hs').lanesSound.icmp_slot probeId' fields' t' hok'
    rw [heq, hslot', (hinv slot s hs).slot_eq, (hinv slot' s' hs').slot_eq] at hslot
    exact hne hslot.symm
  refine (Finset.card_le_one (α := Nat × Nat) (s := ⟨(run operations).matching m, matching_nodup _ m⟩)).2 ?_
  rintro ⟨slot, probeId⟩ hmem ⟨slot', probeId'⟩ hmem'
  obtain ⟨probe, hlive, hmatches⟩ := mem_matching.1 hmem
  obtain ⟨probe', hlive', hmatches'⟩ := mem_matching.1 hmem'
  -- a probe for neighbour discovery that matches is struck
  have hfamily : ∀ slot probeId probe, (run operations).Live slot probeId probe → probe.Matches m →
      probe.probe.family ≠ .ndp := by
    rintro slot probeId probe ⟨s, hs, hget⟩ hmatches hfamily
    have howns := (hinv slot s hs).probes probeId probe hget
    obtain ⟨hidentifier, hsequence⟩ := howns.ndp hfamily
    refine hndp slot probeId probe ⟨s, hs, hget⟩ hfamily ?_
    exact ProbeWire.strikes_of_matches hmatches (by rw [howns.protocol, hfamily]; rfl) hidentifier hsequence
  have hnot := hfamily slot probeId probe hlive hmatches
  have hnot' := hfamily slot' probeId' probe' hlive' hmatches'
  obtain ⟨s, hs, hget⟩ := hlive
  obtain ⟨s', hs', hget'⟩ := hlive'
  obtain ⟨k, hk, hhas⟩ := ProbeWire.hasKey_of_matches hmatches
  obtain ⟨k', hk', hhas'⟩ := ProbeWire.hasKey_of_matches hmatches'
  rw [hk] at hk'
  cases hk'
  obtain ⟨rfl, rfl⟩ := (hinv slot s hs).eq_of_key (hinv slot' s' hs') hget hget' hhas hhas' hnot hnot'
    (fun h => by subst h; exact Option.some.inj (hs.symm.trans hs')) (hapart slot s slot' s' hs hs')
  rfl

/-! ### Overlapping ranges -/

def route : RouteBinding :=
  ⟨1, .ethernetOnLink, 2, .v4 0x0a000001#32, .v4 0x0a000002#32, .v4 0x0a000002#32, none, none⟩

def probe : LogicalProbe := ⟨1, 0, ⟨.v4 0x0a000002#32, none⟩, .udp, some ⟨53#16, by decide⟩⟩

/-- A session in a slot sends one datagram from the first port of its quarter. -/
private def sends (slot : Nat) (options : SessionOptions) : List Operation :=
  [.start slot options fun _ => .zero, .wire slot (.insertRoute 1 route),
    .wire slot (.emit (fun _ _ _ _ => .ok ()) ⟨1, probe, 1, .probe, 1, none⟩)]

private def reply (port : UInt16) : Received := .udp ⟨.v4 0x0a000002#32, .v4 0x0a000001#32, 53, port⟩

private def low : SessionOptions := ⟨35000, 54999, 0, by decide, by decide⟩

/-- Two sessions with different source-port ranges send from the same port: the first quarter of one range and the
second quarter of the other start at port 40000, and a reply to that port matches a probe of each. -/
theorem lanes_overlap : (run (sends 0 .sample ++ sends 1 low)).matching (reply 40000) = [(0, 1), (1, 1)] := by
  decide +kernel

/-- With one range for both sessions a reply to port 45000 matches the probe of the second slot only. -/
theorem lanes_exclusive_sameRange : (1, 1) ∈ (run (sends 0 .sample ++ sends 1 .sample)).matching (reply 45000) ∧
    ((run (sends 0 .sample ++ sends 1 .sample)).matching (reply 45000)).length ≤ 1 := by
  have hapart : ∀ a ∈ (run (sends 0 .sample ++ sends 1 .sample)).sessions.entries,
      ∀ b ∈ (run (sends 0 .sample ++ sends 1 .sample)).sessions.entries, a.1 ≠ b.1 →
        a.2.Apart b.2 := by decide +kernel
  refine ⟨by decide +kernel, (lanes_exclusive (sends 0 .sample ++ sends 1 .sample)).2.2 ?_ (reply 45000) ?_⟩
  · intro slot s slot' s' hs hs' hne
    exact hapart (slot, s) (OrdMap.get?_eq_some_iff.1 hs) (slot', s') (OrdMap.get?_eq_some_iff.1 hs') hne
  · exact fun _ _ _ _ _ h => h

end Process

end NodeNet.Wire
