import NodeNet.Wire.State

/-!
# The sessions of a process

A process runs up to four sessions, each with a wire state of its own under the number of its slot.  In every run
the lane pools stay consistent and every probe that was sent owns the lane its identity was made from
(`WireState.Inv`), so a received tuple or echo identifies one probe of a session.  Across sessions the ICMP
identifiers differ by their slot; the source ports differ if the quarters of the sessions' port ranges do not
overlap.
-/

namespace NodeNet.Wire

open Engine (IpAddress ProbeFamily LogicalProbe EmissionPurpose ProbeEmission u16Max)
open Protocols

/-! ### Operations -/

inductive WireOperation where
  | insertRoute (probeId : Nat) (route : RouteBinding)
  | sourcePort (probeId : Nat)
  | icmpCorrelationFields (probeId : Nat)
  | emit (transmit : WireState.Transmit) (emission : ProbeEmission)
  | markTerminal (start : Nat) (logicalIds : List (Nat × Nat)) (stop : Nat)
  | pruneTerminal (now : Nat)
  | retirePhysical (probeId : Nat)
  | learnNeighbor (interfaceIndex : Nat) (target : IpAddress) (mac : MacAddress)

def WireState.apply (s : WireState) : WireOperation → WireState
  | .insertRoute probeId route => s.insertRoute probeId route
  | .sourcePort probeId => endState (WireState.sourcePort probeId) s
  | .icmpCorrelationFields probeId => endState (WireState.icmpCorrelationFields probeId) s
  | .emit transmit emission => endState (WireState.emit transmit emission) s
  | .markTerminal start logicalIds stop => s.markTerminal start logicalIds stop
  | .pruneTerminal now => s.pruneTerminal now
  | .retirePhysical probeId => s.retirePhysical probeId
  | .learnNeighbor interfaceIndex target mac => s.learnNeighbor interfaceIndex target mac

/-- The live sessions by slot. -/
structure Process where
  sessions : OrdMap Nat WireState

inductive Operation where
  | start (slot : Nat) (options : SessionOptions) (derive : ProbeIdentity → CorrelationToken)
  | finish (slot : Nat)
  | wire (slot : Nat) (operation : WireOperation)

namespace Process

def empty : Process := ⟨∅⟩

/-- A session starts in a free slot; what is addressed to a free slot does nothing. -/
def step (p : Process) : Operation → Process
  | .start slot options derive =>
    if slot < sessionCount ∧ p.sessions.get? slot = none then
      ⟨p.sessions.insert slot (.new derive slot options)⟩ else p
  | .finish slot => ⟨p.sessions.erase slot⟩
  | .wire slot operation =>
    match p.sessions.get? slot with
    | none => p
    | some s => ⟨p.sessions.insert slot (s.apply operation)⟩

def run (operations : List Operation) : Process := operations.foldl step empty

end Process

/-! ### Invariant of a session -/

namespace WireState

variable {s s' : WireState} {slot : Nat}

def portOf (s : WireState) (lane : Nat) : Nat :=
  s.options.sourcePortStart.toNat + (s.sessionSlot * s.portsPerSession + lane)

/-- A sent probe owns the lanes that the fields of its identity were made from. -/
structure Owns (s : WireState) (probeId : Nat) (probe : LogicalProbe) (identity : ProbeIdentity) : Prop where
  protocol : identity.protocol = familyProtocol probe.family
  port : probe.family.usesPorts = true →
    ∃ lane, s.sourceLanes.held.get? probeId = some lane ∧ identity.sourcePort.toNat = s.portOf lane
  echo : isEchoFamily probe.family = true →
    ∃ lane, s.icmpLanes.held.get? probeId = some lane ∧
      identity.icmpIdentifier.toNat = s.sessionSlot * 2 ^ 14 + lane / 65536 ∧
      identity.icmpSequence.toNat = lane % 65536
  ndp : probe.family = .ndp → identity.icmpIdentifier = 0 ∧ identity.icmpSequence = 0

structure Inv (s : WireState) (slot : Nat) : Prop where
  slot_eq : s.sessionSlot = slot
  slot_lt : slot < 4
  sourceLanes : s.sourceLanes.Valid s.portsPerSession
  icmpLanes : s.icmpLanes.Valid icmpLaneCount
  probes : ∀ probeId p, s.probes.get? probeId = some p → s.Owns probeId p.probe p.identity

theorem Inv.sessionSlot_lt (h : s.Inv slot) : s.sessionSlot < 4 := h.slot_eq ▸ h.slot_lt

theorem portsPerSession_pos (s : WireState) : 0 < s.portsPerSession := by
  have h := s.options.quarter_pos
  unfold portsPerSession
  unfold sessionCount at h ⊢
  omega

/-- The lanes of a session stay inside the port range. -/
theorem portOf_le (hslot : s.sessionSlot < 4) {lane : Nat} (hlane : lane < s.portsPerSession) :
    s.portOf lane ≤ s.options.sourcePortEnd.toNat := by
  have hquarter := s.options.quarter_pos
  have hspan : 4 * s.portsPerSession ≤ s.options.sourcePortEnd.toNat - s.options.sourcePortStart.toNat + 1 := by
    unfold portsPerSession sessionCount
    omega
  have hslots : (s.sessionSlot + 1) * s.portsPerSession ≤ 4 * s.portsPerSession := Nat.mul_le_mul_right _ hslot
  rw [Nat.add_mul, Nat.one_mul] at hslots
  unfold portOf
  unfold sessionCount at hquarter
  omega

/-- The same session with at least the lanes it had. -/
structure Extends (s s' : WireState) : Prop where
  slot : s'.sessionSlot = s.sessionSlot
  options : s'.options = s.options
  probes : s'.probes = s.probes
  source : ∀ probeId lane, s.sourceLanes.held.get? probeId = some lane →
    s'.sourceLanes.held.get? probeId = some lane
  icmp : ∀ probeId lane, s.icmpLanes.held.get? probeId = some lane → s'.icmpLanes.held.get? probeId = some lane

theorem Extends.refl (s : WireState) : s.Extends s := ⟨rfl, rfl, rfl, fun _ _ h => h, fun _ _ h => h⟩

theorem Extends.trans {s'' : WireState} (h : s.Extends s') (h' : s'.Extends s'') : s.Extends s'' :=
  ⟨h'.slot.trans h.slot, h'.options.trans h.options, h'.probes.trans h.probes,
    fun probeId lane hlane => h'.source probeId lane (h.source probeId lane hlane),
    fun probeId lane hlane => h'.icmp probeId lane (h.icmp probeId lane hlane)⟩

theorem Extends.portsPerSession (h : s.Extends s') : s'.portsPerSession = s.portsPerSession := by
  unfold WireState.portsPerSession
  rw [h.options]

theorem Extends.portOf (h : s.Extends s') (lane : Nat) : s'.portOf lane = s.portOf lane := by
  unfold WireState.portOf
  rw [h.slot, h.portsPerSession, h.options]

/-- A probe owns what it owned while the session keeps the lanes of this probe. -/
theorem Owns.of_kept {probeId : Nat} {probe : LogicalProbe} {identity : ProbeIdentity}
    (h : s.Owns probeId probe identity) (hslot : s'.sessionSlot = s.sessionSlot)
    (hportOf : ∀ lane, s'.portOf lane = s.portOf lane)
    (hsource : ∀ lane, s.sourceLanes.held.get? probeId = some lane → s'.sourceLanes.held.get? probeId = some lane)
    (hicmp : ∀ lane, s.icmpLanes.held.get? probeId = some lane → s'.icmpLanes.held.get? probeId = some lane) :
    s'.Owns probeId probe identity where
  protocol := h.protocol
  port := by
    intro hports
    obtain ⟨lane, hlane, hport⟩ := h.port hports
    exact ⟨lane, hsource lane hlane, hport.trans (hportOf lane).symm⟩
  echo := by
    intro hecho
    obtain ⟨lane, hlane, hid, hsequence⟩ := h.echo hecho
    exact ⟨lane, hicmp lane hlane, by rw [hslot, hid], hsequence⟩
  ndp := h.ndp

theorem Inv.extends (h : s.Inv slot) (hs : s.Extends s') (hsource : s'.sourceLanes.Valid s.portsPerSession)
    (hicmp : s'.icmpLanes.Valid icmpLaneCount) : s'.Inv slot where
  slot_eq := hs.slot.trans h.slot_eq
  slot_lt := h.slot_lt
  sourceLanes := by rw [hs.portsPerSession]; exact hsource
  icmpLanes := hicmp
  probes := by
    intro probeId p hp
    rw [hs.probes] at hp
    exact (h.probes probeId p hp).of_kept hs.slot hs.portOf (hs.source probeId) (hs.icmp probeId)

/-! ### Lanes -/

theorem toNat_portOf (hslot : s.sessionSlot < 4) {lane : Nat} (hlane : lane < s.portsPerSession) :
    s.portOf lane ≤ u16Max ∧ (UInt16.ofNat (s.portOf lane)).toNat = s.portOf lane := by
  have hend := portOf_le hslot hlane
  have hlt := s.options.sourcePortEnd.toNat_lt
  rw [UInt16.toNat_ofNat']
  unfold u16Max
  exact ⟨by omega, Nat.mod_eq_of_lt (by omega)⟩

/-- In a consistent session a port is the port of a lane. -/
theorem sourcePort_eq (h : s.Inv slot) (probeId : Nat) : sourcePort probeId s =
    match s.sourceLanes.allocate s.portsPerSession probeId with
    | (none, lanes) =>
      .error (.resource "allocate source port" "the session source-port correlation space is exhausted")
        { s with sourceLanes := lanes }
    | (some lane, lanes) => .ok (UInt16.ofNat (s.portOf lane)) { s with sourceLanes := lanes } := by
  have hquarter := s.options.quarter_pos
  have hpos := s.portsPerSession_pos
  have hslot := h.sessionSlot_lt
  have hrange : ¬ s.options.sourcePortEnd < s.options.sourcePortStart := by
    rw [UInt16.lt_iff_toNat_lt]
    unfold sessionCount at hquarter
    omega
  have hvalid := h.sourceLanes.allocate hpos probeId
  simp only [sourcePort, if_neg hrange, if_neg (show ¬ (s.sessionSlot ≥ 4 ∨ s.portsPerSession = 0) by omega)]
  rcases hallocate : s.sourceLanes.allocate s.portsPerSession probeId with ⟨_ | lane, lanes⟩
  · rfl
  have hheld := Lanes.held_of_allocate (congrArg Prod.fst hallocate)
  rw [hallocate] at hheld hvalid
  have hle := (toNat_portOf hslot (hvalid.bounded probeId lane hheld)).1
  unfold portOf at hle
  simp only [portOf, if_neg (show ¬ s.sessionSlot * s.portsPerSession + lane > u16Max by omega),
    if_neg (Nat.not_lt.2 hle)]

/-- A source port is lent with its lane, or every lane of the session is occupied. -/
theorem sourcePort_ends (h : s.Inv slot) (probeId : Nat) :
    Ends (sourcePort probeId) s
      (fun port s' => s'.Inv slot ∧ s.Extends s' ∧
        ∃ lane, s'.sourceLanes.held.get? probeId = some lane ∧ port.toNat = s'.portOf lane)
      (fun _ s' => s'.Inv slot ∧ s.Extends s' ∧ s.sourceLanes.occupied = Finset.range s.portsPerSession) := by
  have hvalid := h.sourceLanes.allocate s.portsPerSession_pos probeId
  have hextends : s.Extends { s with sourceLanes := (s.sourceLanes.allocate s.portsPerSession probeId).2 } :=
    ⟨rfl, rfl, rfl, fun _ _ hlane => Lanes.allocate_keeps hlane, fun _ _ hlane => hlane⟩
  have hinv := h.extends hextends hvalid h.icmpLanes
  simp only [Ends, sourcePort_eq h]
  rcases hallocate : s.sourceLanes.allocate s.portsPerSession probeId with ⟨_ | lane, lanes⟩
  · rw [hallocate] at hinv hextends
    exact ⟨hinv, hextends, h.sourceLanes.full_of_allocate_none (congrArg Prod.fst hallocate)⟩
  have hheld := Lanes.held_of_allocate (congrArg Prod.fst hallocate)
  rw [hallocate] at hinv hextends hheld hvalid
  refine ⟨hinv, hextends, lane, hheld, ?_⟩
  rw [(toNat_portOf h.sessionSlot_lt (hvalid.bounded probeId lane hheld)).2, hextends.portOf]

theorem sourcePort_again {probeId : Nat} {port : UInt16} {t : WireState} (h : sourcePort probeId s = .ok port t) :
    sourcePort probeId t = .ok port t := by
  unfold sourcePort at h
  split at h
  · cases h
  next hrange =>
  split at h
  · cases h
  next hslot =>
  split at h
  · cases h
  next lane lanes hallocate =>
  have hheld := Lanes.held_of_allocate (congrArg Prod.fst hallocate)
  rw [hallocate] at hheld
  have hsame : lanes.allocate s.portsPerSession probeId = (some lane, lanes) := Lanes.allocate_of_held hheld
  simp only at h
  split at h
  · cases h
  next hoffset =>
  split at h
  · cases h
  next hport =>
  cases h
  have hpps : ({ s with sourceLanes := lanes } : WireState).portsPerSession = s.portsPerSession := rfl
  simp only [sourcePort, hpps, hsame, if_neg hrange, if_neg hslot, if_neg hoffset, if_neg hport]

theorem icmpCorrelationFields_eq (h : s.Inv slot) (probeId : Nat) : icmpCorrelationFields probeId s =
    match s.icmpLanes.allocate icmpLaneCount probeId with
    | (none, lanes) =>
      .error (.resource "allocate ICMP identifier" "the session ICMP correlation space is exhausted")
        { s with icmpLanes := lanes }
    | (some lane, lanes) =>
      .ok (UInt16.ofNat (s.sessionSlot * 2 ^ 14 + lane / 65536), UInt16.ofNat (lane % 65536))
        { s with icmpLanes := lanes } := by
  have hslot := h.sessionSlot_lt
  have hvalid := h.icmpLanes.allocate (by decide) probeId
  simp only [icmpCorrelationFields, if_neg (show ¬ s.sessionSlot ≥ 4 by omega)]
  rcases hallocate : s.icmpLanes.allocate icmpLaneCount probeId with ⟨_ | lane, lanes⟩
  · rfl
  have hheld := Lanes.held_of_allocate (congrArg Prod.fst hallocate)
  rw [hallocate] at hheld hvalid
  have hlane : lane < icmpLaneCount := hvalid.bounded probeId lane hheld
  have hhigh : lane >>> 16 < 2 ^ 14 := by
    rw [Nat.shiftRight_eq_div_pow]
    unfold icmpLaneCount at hlane
    omega
  have hfits : ¬ lane >>> 16 > u16Max := by unfold u16Max; omega
  simp only [if_neg hfits]
  rw [← Nat.shiftLeft_add_eq_or_of_lt hhigh, Nat.shiftLeft_eq, Nat.shiftRight_eq_div_pow]

/-- ICMP fields are lent with their lane, or every lane of the session is occupied. -/
theorem icmpCorrelationFields_ends (h : s.Inv slot) (probeId : Nat) :
    Ends (icmpCorrelationFields probeId) s
      (fun fields s' => s'.Inv slot ∧ s.Extends s' ∧ ∃ lane, s'.icmpLanes.held.get? probeId = some lane ∧
        fields.1.toNat = s'.sessionSlot * 2 ^ 14 + lane / 65536 ∧ fields.2.toNat = lane % 65536)
      (fun _ s' => s'.Inv slot ∧ s.Extends s' ∧ s.icmpLanes.occupied = Finset.range icmpLaneCount) := by
  have hslot := h.sessionSlot_lt
  have hvalid := h.icmpLanes.allocate (by decide) probeId
  have hextends : s.Extends { s with icmpLanes := (s.icmpLanes.allocate icmpLaneCount probeId).2 } :=
    ⟨rfl, rfl, rfl, fun _ _ hlane => hlane, fun _ _ hlane => Lanes.allocate_keeps hlane⟩
  have hinv := h.extends hextends h.sourceLanes hvalid
  simp only [Ends, icmpCorrelationFields_eq h]
  rcases hallocate : s.icmpLanes.allocate icmpLaneCount probeId with ⟨_ | lane, lanes⟩
  · rw [hallocate] at hinv hextends
    exact ⟨hinv, hextends, h.icmpLanes.full_of_allocate_none (congrArg Prod.fst hallocate)⟩
  have hheld := Lanes.held_of_allocate (congrArg Prod.fst hallocate)
  rw [hallocate] at hinv hextends hheld hvalid
  have hlane : lane < icmpLaneCount := hvalid.bounded probeId lane hheld
  unfold icmpLaneCount at hlane
  refine ⟨hinv, hextends, lane, hheld, ?_, ?_⟩ <;> rw [UInt16.toNat_ofNat'] <;> exact Nat.mod_eq_of_lt (by omega)

/-! ### Emission -/

/-- The identity that is made for a probe names lanes that the probe owns. -/
theorem identity_ends (h : s.Inv slot) (probeId : Nat) (probe : LogicalProbe) (route : RouteBinding) :
    Ends (identity probeId probe route) s
      (fun identity s' => s'.Inv slot ∧ s.Extends s' ∧ s'.Owns probeId probe identity)
      (fun _ s' => s'.Inv slot ∧ s.Extends s') := by
  have hport : Ends (sourcePortFor probeId probe) s
      (fun port s' => s'.Inv slot ∧ s.Extends s' ∧ (probe.family.usesPorts = true →
        ∃ lane, s'.sourceLanes.held.get? probeId = some lane ∧ port.toNat = s'.portOf lane))
      (fun _ s' => s'.Inv slot ∧ s.Extends s') := by
    refine ends_ite.2 ⟨fun _ => ?_, fun hports => ?_⟩
    · exact (sourcePort_ends h probeId).mono (fun _ _ hs => ⟨hs.1, hs.2.1, fun _ => hs.2.2⟩) fun _ _ hs =>
      ⟨hs.1, hs.2.1⟩
    · exact ⟨h, .refl s, fun hports' => absurd hports' hports⟩
  have hfields : ∀ s1 : WireState, s1.Inv slot →
      Ends (icmpFieldsFor probeId probe) s1
        (fun fields s' => s'.Inv slot ∧ s1.Extends s' ∧
          (isEchoFamily probe.family = true → ∃ lane, s'.icmpLanes.held.get? probeId = some lane ∧
            fields.1.toNat = s'.sessionSlot * 2 ^ 14 + lane / 65536 ∧ fields.2.toNat = lane % 65536) ∧
          (isEchoFamily probe.family = false → fields = (0, 0)))
        (fun _ s' => s'.Inv slot ∧ s1.Extends s') := by
    intro s1 h1
    refine ends_ite.2 ⟨fun hecho => ?_, fun hecho => ?_⟩
    · exact (icmpCorrelationFields_ends h1 probeId).mono
        (fun _ _ hs => ⟨hs.1, hs.2.1, fun _ => hs.2.2, fun hno => by rw [hecho] at hno; cases hno⟩)
        fun _ _ hs => ⟨hs.1, hs.2.1⟩
    · exact ⟨h1, .refl s1, fun hecho' => absurd hecho' hecho, fun _ => rfl⟩
  unfold identity
  refine Ends.seq hport (fun port s1 h1 => ?_)
  obtain ⟨hinv1, hextends1, hlane1⟩ := h1
  refine Ends.bind (hfields s1 hinv1) (fun fields s2 h2 => ?_) fun _ _ he => ⟨he.1, hextends1.trans he.2⟩
  obtain ⟨hinv2, hextends2, hecho, hnone⟩ := h2
  have hextends := hextends1.trans hextends2
  cases hnew : ProbeIdentity.new (familyProtocol probe.family) probe.attempt route.source route.destination port
      (destinationPort probe) fields.1 fields.2 probeId with
  | error e => exact ⟨hinv2, hextends⟩
  | ok identity =>
    refine ⟨hinv2, hextends, ?_⟩
    have hfieldsEq : identity.protocol = familyProtocol probe.family ∧ identity.sourcePort = port ∧
        identity.icmpIdentifier = fields.1 ∧ identity.icmpSequence = fields.2 := by
      unfold ProbeIdentity.new at hnew
      split at hnew <;> cases hnew <;> exact ⟨rfl, rfl, rfl, rfl⟩
    obtain ⟨hprotocol, hsource, hidentifier, hsequence⟩ := hfieldsEq
    refine ⟨hprotocol, fun hports => ?_, fun hfamily => ?_, fun hfamily => ?_⟩
    · obtain ⟨lane, hheld, hlane⟩ := hlane1 hports
      exact ⟨lane, hextends2.source probeId lane hheld, by rw [hsource, hlane, hextends2.portOf]⟩
    · rw [hidentifier, hsequence]
      exact hecho hfamily
    have hzero := hnone (by rw [hfamily]; rfl)
    rw [hidentifier, hsequence, hzero]
    exact ⟨rfl, rfl⟩

theorem emit_inv (h : s.Inv slot) (transmit : Transmit) (emission : ProbeEmission) :
    Ends (emit transmit emission) s (fun _ s' => s'.Inv slot) (fun _ s' => s'.Inv slot) := by
  unfold emit
  refine Ends.bind (Q := fun s0 s' => s = s0 ∧ s = s') (F := fun _ _ => False) ⟨rfl, rfl⟩ ?_ fun _ _ he => he.elim
  rintro _ _ ⟨rfl, rfl⟩
  cases s.routes.get? emission.probe.logicalId with
  | none => exact h
  | some route =>
    refine Ends.bind (identity_ends h emission.probeId emission.probe route) (fun identity s1 h1 => ?_)
      fun _ _ he => he.1
    obtain ⟨hinv, -, howns⟩ := h1
    refine Ends.bind (Q := fun s0 s' => s1 = s0 ∧ s1 = s') (F := fun _ _ => False) ⟨rfl, rfl⟩ ?_
      fun _ _ he => he.elim
    rintro _ _ ⟨rfl, rfl⟩
    refine ends_ite.2 ⟨fun _ => hinv, fun _ => ?_⟩
    cases transmit route identity (s1.derive identity) emission with
    | error e => exact hinv
    | ok _ =>
      refine ⟨hinv.slot_eq, hinv.slot_lt, hinv.sourceLanes, hinv.icmpLanes, fun probeId p hp => ?_⟩
      rcases OrdMap.of_get?_insert hp with ⟨rfl, rfl⟩ | ⟨-, hp⟩
      · exact ⟨howns.protocol, howns.port, howns.echo, howns.ndp⟩
      · have hold := hinv.probes probeId p hp
        exact ⟨hold.protocol, hold.port, hold.echo, hold.ndp⟩

/-! ### Finished probes -/

theorem retirePhysical_inv (h : s.Inv slot) (probeId : Nat) : (s.retirePhysical probeId).Inv slot where
  slot_eq := h.slot_eq
  slot_lt := h.slot_lt
  sourceLanes := h.sourceLanes.release probeId
  icmpLanes := h.icmpLanes.release probeId
  probes := by
    intro other p hp
    obtain ⟨hne, hp⟩ := OrdMap.of_get?_erase hp
    -- a probe keeps its lanes when another one is forgotten
    refine (h.probes other p hp).of_kept rfl (fun _ => rfl) ?_ ?_ <;>
      exact fun lane hlane => by rw [retirePhysical, Lanes.release_held, if_neg hne, hlane]

/-- Nothing else that a session remembers matters for its lanes. -/
theorem Inv.same (h : s.Inv slot) (hslot : s'.sessionSlot = s.sessionSlot) (hoptions : s'.options = s.options)
    (hprobes : s'.probes = s.probes) (hsource : s'.sourceLanes = s.sourceLanes)
    (hicmp : s'.icmpLanes = s.icmpLanes) :
    s'.Inv slot :=
  h.extends ⟨hslot, hoptions, hprobes, fun _ _ hlane => hsource ▸ hlane, fun _ _ hlane => hicmp ▸ hlane⟩
    (hsource ▸ h.sourceLanes) (hicmp ▸ h.icmpLanes)

theorem pruneProbe_inv (h : s.Inv slot) (probeId : Nat) : (s.pruneProbe probeId).Inv slot := by
  have hretired := retirePhysical_inv h probeId
  simp only [pruneProbe]
  split
  · exact hretired
  · exact hretired.same rfl rfl rfl rfl rfl

theorem pruneTerminal_inv (h : s.Inv slot) (now : Nat) : (s.pruneTerminal now).Inv slot := by
  unfold pruneTerminal
  generalize s.terminalDeadlines.keysWhere _ = expired
  induction expired generalizing s with
  | nil => exact h
  | cons probeId rest ih => exact ih (pruneProbe_inv h probeId)

theorem markOne_inv (h : s.Inv slot) (deadline logicalId now : Nat) :
    (markOne deadline s logicalId now).Inv slot := by
  simp only [markOne]
  split
  · exact h.same rfl rfl rfl rfl rfl
  · exact h.same rfl rfl rfl rfl rfl

theorem markTerminal_inv (h : s.Inv slot) (start : Nat) (logicalIds : List (Nat × Nat)) (stop : Nat) :
    (s.markTerminal start logicalIds stop).Inv slot := by
  unfold markTerminal
  generalize start + s.options.lateGrace = deadline
  refine pruneTerminal_inv ?_ stop
  induction logicalIds generalizing s with
  | nil => exact h
  | cons entry rest ih => exact ih (markOne_inv h deadline entry.1 entry.2)

theorem new_inv (derive : ProbeIdentity → CorrelationToken) {slot : Nat} (hslot : slot < 4)
    (options : SessionOptions) : (new derive slot options).Inv slot :=
  ⟨rfl, hslot, Lanes.empty_valid, Lanes.empty_valid, fun _ _ hp => nomatch hp⟩

end WireState

theorem WireState.apply_inv {s : WireState} {slot : Nat} (h : s.Inv slot) (operation : WireOperation) :
    (s.apply operation).Inv slot := by
  cases operation with
  | insertRoute probeId route | learnNeighbor interfaceIndex target mac => exact h.same rfl rfl rfl rfl rfl
  | sourcePort probeId =>
    exact ((sourcePort_ends h probeId).mono (fun _ _ hs => hs.1) fun _ _ hs => hs.1).endState
  | icmpCorrelationFields probeId =>
    exact ((icmpCorrelationFields_ends h probeId).mono (fun _ _ hs => hs.1) fun _ _ hs => hs.1).endState
  | emit transmit emission => exact (emit_inv h transmit emission).endState
  | markTerminal start logicalIds stop => exact markTerminal_inv h start logicalIds stop
  | pruneTerminal now => exact pruneTerminal_inv h now
  | retirePhysical probeId => exact retirePhysical_inv h probeId

/-! ### Invariant of the process -/

namespace Process

def Inv (p : Process) : Prop := ∀ slot s, p.sessions.get? slot = some s → s.Inv slot

theorem step_inv {p : Process} (h : p.Inv) (operation : Operation) : (p.step operation).Inv := by
  intro slot s hs
  cases operation with
  | start slot' options derive =>
    simp only [step] at hs
    split at hs
    · next hfree =>
      rcases OrdMap.of_get?_insert hs with ⟨rfl, rfl⟩ | ⟨-, hs⟩
      · exact WireState.new_inv derive hfree.1 options
      · exact h slot s hs
    · exact h slot s hs
  | finish slot' => exact h slot s (OrdMap.of_get?_erase hs).2
  | wire slot' operation =>
    simp only [step] at hs
    split at hs
    · exact h slot s hs
    next s' hs' =>
    rcases OrdMap.of_get?_insert hs with ⟨rfl, rfl⟩ | ⟨-, hs⟩
    · exact WireState.apply_inv (h slot s' hs') operation
    · exact h slot s hs

theorem run_inv (operations : List Operation) : (run operations).Inv :=
  List.foldlRecOn operations step (fun _ _ hs => nomatch hs) fun _ h operation _ => step_inv h operation

end Process

end NodeNet.Wire
