import NodeNet.Base.OrdMap
import NodeNet.Base.Program
import NodeNet.Evidence.Record

/-!
# Fusion of imported sensors

A sensor sends numbered envelopes for one network scope.  `SensorFusion` remembers the last sequence number of each
stream and admits an envelope only if its number is the next one.  `SensorFusion.Admissible` says which envelopes
are admitted; all results follow from it and from what an admission writes.  Streams share one bounded table, and
that is all they share: a stream that gets a place admits what it would admit alone.
-/

namespace NodeNet.Platform

open Engine (checkedAdd saturatingAdd u64Max)
open Evidence

def sensorEnvelopeVersion : Nat := 1
def maxSensorEnvelopeRecords : Nat := 8192
def maxSensorStreams : Nat := 4096

inductive PlatformValidationError where
  | capacity
  | invalidEnvelope
  | duplicateEnvelope
  | sequenceGap
deriving DecidableEq

structure SensorEnvelope where
  version : Nat
  sensorId : Bytes
  networkScopeId : Bytes
  sequence : Nat
  monotonicStartNanos : Nat
  monotonicEndNanos : Nat
  wallTimeMillis : Option Int
  clockUncertaintyMillis : Nat
  truncated : Bool
  records : List EvidenceRecord
deriving DecidableEq

/-- A sensor and a network scope. -/
abbrev SensorStream := Bytes ×ₗ Bytes

namespace SensorEnvelope

variable (envelope : SensorEnvelope)

def stream : SensorStream := toLex (envelope.sensorId, envelope.networkScopeId)

/-- The variable bytes of all records, unless a `usize` cannot count them. -/
def variableBytes : Option Nat :=
  envelope.records.foldlM (fun total record => checkedAdd u64Max total record.variableBytes) 0

/-- Validates imported sensor input before reconciliation. -/
def validate : Except PlatformValidationError Unit :=
  if envelope.version ≠ sensorEnvelopeVersion ∨ envelope.sensorId.isEmpty ∨ envelope.sensorId.length > 256 ∨
      envelope.sensorId.contains 0 ∨ envelope.networkScopeId.isEmpty ∨ envelope.networkScopeId.length > 256 ∨
      envelope.networkScopeId.contains 0 ∨ envelope.sequence = 0 ∨
      envelope.monotonicEndNanos < envelope.monotonicStartNanos ∨
      envelope.records.length > maxSensorEnvelopeRecords then .error .invalidEnvelope
  else match envelope.variableBytes with
    | none => .error .capacity
    | some bytes => if bytes > maxEvidenceBatchBytes then .error .capacity else .ok ()

end SensorEnvelope

structure SensorFusion where
  lastSequences : OrdMap SensorStream Nat

namespace SensorFusion

def empty : SensorFusion := ⟨∅⟩

/-- Fails unless a number follows the last one of its stream. -/
def checkNext (last : Option Nat) (sequence : Nat) : EStateM PlatformValidationError SensorFusion Unit :=
  match last with
  | none => pure ()
  | some previous =>
    if sequence ≤ previous then throw .duplicateEnvelope
    else if sequence ≠ saturatingAdd u64Max previous 1 then throw .sequenceGap
    else pure ()

/-- Admits an untrusted envelope while preserving sensor and network scope. -/
def admitEnvelope (envelope : SensorEnvelope) : EStateM PlatformValidationError SensorFusion Unit := do
  match envelope.validate with
  | .error error => throw error
  | .ok () =>
    let fusion ← get
    let key := envelope.stream
    if ¬ fusion.lastSequences.contains key ∧ fusion.lastSequences.size ≥ maxSensorStreams then throw .capacity
    else do
      checkNext (fusion.lastSequences.get? key) envelope.sequence
      modify fun fusion => { fusion with lastSequences := fusion.lastSequences.insert key envelope.sequence }

/-! ### Runs -/

variable (fusion : SensorFusion)

/-- The fusion after a call, whatever its answer. -/
def call (envelope : SensorEnvelope) : SensorFusion := endState (admitEnvelope envelope) fusion

def run (envelopes : List SensorEnvelope) : SensorFusion := envelopes.foldl call fusion

def accepts (envelope : SensorEnvelope) : Bool :=
  match admitEnvelope envelope fusion with
  | .ok _ _ => true
  | .error _ _ => false

/-- The sequence numbers that the calls of a run admit on a stream, in order. -/
def admitted (stream : SensorStream) (fusion : SensorFusion) : List SensorEnvelope → List Nat
  | [] => []
  | envelope :: envelopes =>
    if envelope.stream = stream ∧ fusion.accepts envelope then
      envelope.sequence :: admitted stream (fusion.call envelope) envelopes
    else admitted stream (fusion.call envelope) envelopes

def own (stream : SensorStream) (envelopes : List SensorEnvelope) : List SensorEnvelope :=
  envelopes.filter fun envelope => envelope.stream = stream

/-! ### What a call does -/

/-- The envelope is valid and carries the next number of its stream; a new stream needs a place in the table. -/
def Admissible (envelope : SensorEnvelope) : Prop :=
  envelope.validate = .ok () ∧
    match fusion.lastSequences.get? envelope.stream with
    | some previous => envelope.sequence = previous + 1 ∧ previous < u64Max
    | none => fusion.lastSequences.size < maxSensorStreams

/-- The fusion that remembers an envelope. -/
def advance (envelope : SensorEnvelope) : SensorFusion :=
  ⟨fusion.lastSequences.insert envelope.stream envelope.sequence⟩

variable {fusion : SensorFusion} {envelope : SensorEnvelope} {stream : SensorStream}

private theorem checkNext_ends (last : Option Nat) (sequence : Nat) (fusion : SensorFusion) :
    Ends (checkNext last sequence) fusion
      (fun _ fusion' => (∀ previous, last = some previous → sequence = previous + 1 ∧ previous < u64Max) ∧
        fusion' = fusion)
      (fun _ fusion' => (∃ previous, last = some previous ∧ ¬ (sequence = previous + 1 ∧ previous < u64Max)) ∧
        fusion' = fusion) := by
  cases last with
  | none => simp [checkNext]
  | some previous =>
    simp only [checkNext, ends_ite, ends_throw, saturatingAdd, Option.some.injEq, forall_eq', exists_eq_left']
    refine ⟨fun hreplay => ⟨by omega, trivial⟩, fun hlater => ends_ite.2 ⟨fun hgap => ?_, fun hnext => ?_⟩⟩
    · exact ⟨by omega, rfl⟩
    · exact ⟨by omega, rfl⟩

theorem admit_ends (fusion : SensorFusion) (envelope : SensorEnvelope) :
    Ends (admitEnvelope envelope) fusion
    (fun _ fusion' => fusion.Admissible envelope ∧ fusion' = fusion.advance envelope)
      (fun _ fusion' => ¬ fusion.Admissible envelope ∧ fusion' = fusion) := by
  unfold admitEnvelope Admissible
  cases hvalid : envelope.validate with
  | error error => simp
  | ok u =>
    simp only [ends_bind, ends_get, ends_ite, ends_throw, ends_modify, true_and]
    constructor
    · rintro ⟨hnew, hfull⟩
      have hget : fusion.lastSequences.get? envelope.stream = none := by simpa [OrdMap.contains] using hnew
      rw [hget]
      exact ⟨Nat.not_lt.2 hfull, trivial⟩
    intro hplace
    refine (checkNext_ends _ _ fusion).mono ?_ ?_
    · rintro _ fusion' ⟨hnext, hsame⟩
      refine ⟨?_, by rw [hsame, advance]⟩
      cases hget : fusion.lastSequences.get? envelope.stream with
      | none => simpa [OrdMap.contains, hget] using hplace
      | some previous => exact hnext previous hget
    rintro _ fusion' ⟨⟨previous, hget, hnext⟩, hsame⟩
    rw [hget]
    exact ⟨hnext, hsame⟩

private theorem accepts_and_call (fusion : SensorFusion) (envelope : SensorEnvelope) :
    (fusion.accepts envelope = true ↔ fusion.Admissible envelope) ∧
      fusion.call envelope = if fusion.accepts envelope then fusion.advance envelope else fusion := by
  have hends := admit_ends fusion envelope
  unfold accepts call endState
  cases hm : admitEnvelope envelope fusion with
  | ok u fusion' => simp [hends.of_ok hm]
  | error e fusion' => simp [hends.of_error hm]

theorem accepts_iff : fusion.accepts envelope = true ↔ fusion.Admissible envelope :=
  (accepts_and_call fusion envelope).1

theorem call_of_accepts (h : fusion.accepts envelope = true) : fusion.call envelope = fusion.advance envelope := by
  rw [(accepts_and_call fusion envelope).2, if_pos h]

theorem call_of_not_accepts (h : ¬ fusion.accepts envelope = true) : fusion.call envelope = fusion := by
  rw [(accepts_and_call fusion envelope).2, if_neg h]

/-- A call on one stream leaves what another stream expects. -/
theorem get?_call_of_ne (h : envelope.stream ≠ stream) :
    (fusion.call envelope).lastSequences.get? stream = fusion.lastSequences.get? stream := by
  by_cases haccepts : fusion.accepts envelope = true
  · rw [call_of_accepts haccepts]
    exact OrdMap.get?_insert_of_ne _ _ (Ne.symm h)
  · rw [call_of_not_accepts haccepts]

theorem get?_call_of_skipped (h : ¬ (envelope.stream = stream ∧ fusion.accepts envelope = true)) :
    (fusion.call envelope).lastSequences.get? stream = fusion.lastSequences.get? stream := by
  by_cases hstream : envelope.stream = stream
  · rw [call_of_not_accepts fun haccepts => h ⟨hstream, haccepts⟩]
  · exact get?_call_of_ne hstream

theorem get?_call_of_accepts (h : fusion.accepts envelope = true) :
    (fusion.call envelope).lastSequences.get? envelope.stream = some envelope.sequence := by
  rw [call_of_accepts h]
  exact OrdMap.get?_insert_self _ _ _

variable (envelopes : List SensorEnvelope)

theorem run_cons : fusion.run (envelope :: envelopes) = (fusion.call envelope).run envelopes := rfl

theorem admitted_cons : admitted stream fusion (envelope :: envelopes) =
      if envelope.stream = stream ∧ fusion.accepts envelope then
        envelope.sequence :: admitted stream (fusion.call envelope) envelopes
      else admitted stream (fusion.call envelope) envelopes := rfl

theorem own_cons_self :
    own envelope.stream (envelope :: envelopes) = envelope :: own envelope.stream envelopes := by simp [own]

theorem own_cons_of_ne (h : envelope.stream ≠ stream) (envelopes : List SensorEnvelope) :
    own stream (envelope :: envelopes) = own stream envelopes := by simp [own, h]

/-! ### Bounds -/

/-- The table is within its limits, and so are the names of its streams. -/
structure Bounded (fusion : SensorFusion) : Prop where
  streams : fusion.lastSequences.size ≤ maxSensorStreams
  names : ∀ key sequence, fusion.lastSequences.get? key = some sequence →
    0 < sequence ∧ (ofLex key).1 ≠ [] ∧ (ofLex key).1.length ≤ 256 ∧ 0 ∉ (ofLex key).1 ∧
      (ofLex key).2 ≠ [] ∧ (ofLex key).2.length ≤ 256 ∧ 0 ∉ (ofLex key).2

private theorem of_validate (h : envelope.validate = .ok ()) :
    (0 < envelope.sequence ∧ envelope.sensorId ≠ [] ∧ envelope.sensorId.length ≤ 256 ∧ 0 ∉ envelope.sensorId ∧
      envelope.networkScopeId ≠ [] ∧ envelope.networkScopeId.length ≤ 256 ∧ 0 ∉ envelope.networkScopeId) ∧
    envelope.records.length ≤ maxSensorEnvelopeRecords ∧
      ∃ bytes, envelope.variableBytes = some bytes ∧ bytes ≤ maxEvidenceBatchBytes := by
  unfold SensorEnvelope.validate at h
  split at h
  · cases h
  next hfields =>
  simp only [not_or, Nat.not_lt, gt_iff_lt, List.isEmpty_iff, List.contains_iff_mem, ← ne_eq] at hfields
  obtain ⟨-, hsensor, hsensorLength, hsensorZero, hscope, hscopeLength, hscopeZero, hsequence, -, hrecords⟩ :=
    hfields
  refine ⟨⟨Nat.pos_of_ne_zero hsequence, hsensor, hsensorLength, hsensorZero, hscope, hscopeLength, hscopeZero⟩,
    hrecords, ?_⟩
  split at h
  · cases h
  next bytes hbytes =>
  split at h
  · cases h
  · next hlarge => exact ⟨bytes, hbytes, Nat.not_lt.1 hlarge⟩

theorem Bounded.call (h : fusion.Bounded) (envelope : SensorEnvelope) : (fusion.call envelope).Bounded := by
  by_cases haccepts : fusion.accepts envelope = true
  · rw [call_of_accepts haccepts]
    obtain ⟨hvalid, hplace⟩ := accepts_iff.1 haccepts
    constructor
    · cases hget : fusion.lastSequences.get? envelope.stream with
      | none =>
        rw [hget] at hplace
        rw [advance, OrdMap.size_insert _ hget]
        exact hplace
      | some previous =>
        rw [advance, OrdMap.size_insert_of_get? hget]
        exact h.streams
    intro key sequence hget
    rcases OrdMap.of_get?_insert hget with ⟨rfl, rfl⟩ | ⟨-, hget⟩
    · exact (of_validate hvalid).1
    · exact h.names key sequence hget
  · rw [call_of_not_accepts haccepts]
    exact h

theorem empty_bounded : empty.Bounded := ⟨Nat.zero_le _, fun _ _ hget => by cases hget⟩

theorem Bounded.run (h : fusion.Bounded) (envelopes : List SensorEnvelope) : (fusion.run envelopes).Bounded := by
  induction envelopes generalizing fusion with
  | nil => exact h
  | cons envelope envelopes ih => exact ih (h.call envelope)

/-! ### Streams -/

/-- A stream that has admitted `previous` goes on from there without replay and without gap. -/
theorem admitted_of_get? {previous : Nat} (h : fusion.lastSequences.get? stream = some previous)
    (envelopes : List SensorEnvelope) :
    admitted stream fusion envelopes = List.range' (previous + 1) (admitted stream fusion envelopes).length := by
  induction envelopes generalizing fusion previous with
  | nil => rfl
  | cons envelope envelopes ih =>
    rw [admitted_cons]
    by_cases hown : envelope.stream = stream ∧ fusion.accepts envelope = true
    · rw [if_pos hown]
      obtain ⟨rfl, haccepts⟩ := hown
      have hplace := (accepts_iff.1 haccepts).2
      rw [h] at hplace
      have hnext : (fusion.call envelope).lastSequences.get? envelope.stream = some (previous + 1) := by
        rw [get?_call_of_accepts haccepts, hplace.1]
      rw [List.length_cons, List.range'_succ, ← ih hnext, hplace.1]
    rw [if_neg hown]
    exact ih ((get?_call_of_skipped hown).trans h)

theorem admitted_consecutive (h : fusion.lastSequences.get? stream = none) : ∃ first, 0 < first ∧
      admitted stream fusion envelopes = List.range' first (admitted stream fusion envelopes).length := by
  induction envelopes generalizing fusion with
  | nil => exact ⟨1, Nat.one_pos, rfl⟩
  | cons envelope envelopes ih =>
    rw [admitted_cons]
    by_cases hown : envelope.stream = stream ∧ fusion.accepts envelope = true
    · rw [if_pos hown]
      obtain ⟨rfl, haccepts⟩ := hown
      refine ⟨envelope.sequence, (of_validate (accepts_iff.1 haccepts).1).1.1, ?_⟩
      rw [List.length_cons, List.range'_succ, ← admitted_of_get? (get?_call_of_accepts haccepts)]
    rw [if_neg hown]
    exact ih ((get?_call_of_skipped hown).trans h)

/-- Once the table is full it stays full, and a stream without a place admits nothing. -/
private theorem admitted_of_full (hget : fusion.lastSequences.get? stream = none)
    (hfull : fusion.lastSequences.size = maxSensorStreams) (envelopes : List SensorEnvelope) :
    admitted stream fusion envelopes = [] ∧ (fusion.run envelopes).lastSequences.size = maxSensorStreams := by
  induction envelopes generalizing fusion with
  | nil => exact ⟨rfl, hfull⟩
  | cons envelope envelopes ih =>
    have hstep : ¬ (envelope.stream = stream ∧ fusion.accepts envelope = true) ∧
        (fusion.call envelope).lastSequences.get? stream = none ∧
        (fusion.call envelope).lastSequences.size = maxSensorStreams := by
      by_cases haccepts : fusion.accepts envelope = true
      · have hplace := (accepts_iff.1 haccepts).2
        cases hother : fusion.lastSequences.get? envelope.stream with
        | none =>
          rw [hother] at hplace
          exact absurd hplace (by omega)
        | some previous =>
          have hne : envelope.stream ≠ stream := by
            rintro rfl
            rw [hget] at hother
            cases hother
          refine ⟨fun hown => hne hown.1, ?_, ?_⟩
          · rw [get?_call_of_ne hne, hget]
          · rw [call_of_accepts haccepts, advance, OrdMap.size_insert_of_get? hother, hfull]
      · rw [call_of_not_accepts haccepts]
        exact ⟨fun hown => haccepts hown.2, hget, hfull⟩
    rw [admitted_cons, if_neg hstep.1]
    exact ih hstep.2.1 hstep.2.2

theorem accepts_congr {other : SensorFusion} {previous : Nat}
    (h : fusion.lastSequences.get? envelope.stream = some previous)
    (h' : other.lastSequences.get? envelope.stream = some previous) :
    fusion.accepts envelope = other.accepts envelope := by
  rw [Bool.eq_iff_iff, accepts_iff, accepts_iff, Admissible, Admissible, h, h']

/-- A stream with a place admits what it admits in any other fusion that knows the same of it. -/
private theorem admitted_eq_own {other : SensorFusion} {previous : Nat}
    (h : fusion.lastSequences.get? stream = some previous) (h' : other.lastSequences.get? stream = some previous)
    (envelopes : List SensorEnvelope) :
    admitted stream fusion envelopes = admitted stream other (own stream envelopes) := by
  induction envelopes generalizing fusion other previous with
  | nil => rfl
  | cons envelope envelopes ih =>
    by_cases hstream : envelope.stream = stream
    · subst hstream
      rw [own_cons_self, admitted_cons, admitted_cons, ← accepts_congr h h']
      by_cases haccepts : fusion.accepts envelope = true
      · have haccepts' := accepts_congr h h' ▸ haccepts
        rw [if_pos ⟨rfl, haccepts⟩, if_pos ⟨rfl, haccepts⟩]
        rw [ih (get?_call_of_accepts haccepts) (get?_call_of_accepts haccepts')]
      have haccepts' := accepts_congr h h' ▸ haccepts
      rw [if_neg fun hown => haccepts hown.2, if_neg fun hown => haccepts hown.2]
      rw [call_of_not_accepts haccepts, call_of_not_accepts haccepts', ih h h']
    · rw [own_cons_of_ne hstream, admitted_cons, if_neg fun hown => hstream hown.1]
      exact ih ((get?_call_of_ne hstream).trans h) h'

/-- A stream admits what it admits alone, or it found the table full and admits nothing. -/
private theorem admitted_alone (h : fusion.Bounded) (hget : fusion.lastSequences.get? stream = none)
    (envelopes : List SensorEnvelope) :
    admitted stream fusion envelopes = admitted stream empty (own stream envelopes) ∨
      admitted stream fusion envelopes = [] ∧ (fusion.run envelopes).lastSequences.size = maxSensorStreams := by
  induction envelopes generalizing fusion with
  | nil => exact Or.inl rfl
  | cons envelope envelopes ih =>
    by_cases hstream : envelope.stream = stream
    · subst hstream
      rw [own_cons_self, admitted_cons, admitted_cons]
      by_cases hvalid : envelope.validate = .ok ()
      · -- alone, a new stream always has a place
        have halone : empty.accepts envelope = true := accepts_iff.2 ⟨hvalid, show 0 < maxSensorStreams by decide⟩
        rw [if_pos (c := _ ∧ empty.accepts envelope = true) ⟨rfl, halone⟩]
        by_cases hroom : fusion.lastSequences.size < maxSensorStreams
        · have haccepts : fusion.accepts envelope = true := accepts_iff.2 ⟨hvalid, by rw [hget]; exact hroom⟩
          rw [if_pos ⟨rfl, haccepts⟩]
          rw [admitted_eq_own (get?_call_of_accepts haccepts) (get?_call_of_accepts halone)]
          exact Or.inl rfl
        have hfull : fusion.lastSequences.size = maxSensorStreams := by
          have hstreams := h.streams
          omega
        have hall := admitted_of_full hget hfull (envelope :: envelopes)
        rw [admitted_cons] at hall
        exact Or.inr hall
      have hrejected : ∀ fusion : SensorFusion, ¬ fusion.accepts envelope = true := fun fusion haccepts =>
        hvalid (accepts_iff.1 haccepts).1
      rw [if_neg fun hown => hrejected _ hown.2, if_neg fun hown => hrejected _ hown.2]
      rw [run_cons, call_of_not_accepts (hrejected fusion), call_of_not_accepts (hrejected empty)]
      exact ih h hget
    · rw [own_cons_of_ne hstream, admitted_cons, if_neg fun hown => hstream hown.1, run_cons]
      exact ih (h.call envelope) ((get?_call_of_ne hstream).trans hget)

/-- After any calls: what each stream has admitted is a run of consecutive numbers, a call on one stream leaves
what the others expect, a stream with a place in the table admits what it would admit alone, the limits hold for
the table and for every envelope that is admitted, and a rejected call changes nothing. -/
theorem streams_isolated (envelopes : List SensorEnvelope) :
    let fusion := empty.run envelopes
    (∀ stream, ∃ first, 0 < first ∧
      admitted stream empty envelopes = List.range' first (admitted stream empty envelopes).length) ∧
    (∀ stream envelope, envelope.stream ≠ stream →
      (fusion.call envelope).lastSequences.get? stream = fusion.lastSequences.get? stream) ∧
    (∀ stream, admitted stream empty envelopes = admitted stream empty (own stream envelopes) ∨
      admitted stream empty envelopes = [] ∧ fusion.lastSequences.size = maxSensorStreams) ∧
    fusion.Bounded ∧
    (∀ envelope, fusion.accepts envelope = true → envelope.records.length ≤ maxSensorEnvelopeRecords ∧
      ∃ bytes, envelope.variableBytes = some bytes ∧ bytes ≤ maxEvidenceBatchBytes) ∧
    ∀ envelope error fusion', admitEnvelope envelope fusion = .error error fusion' → fusion' = fusion := by
  intro fusion
  refine ⟨fun stream => admitted_consecutive envelopes rfl, fun stream envelope hne => get?_call_of_ne hne,
    fun stream => admitted_alone empty_bounded rfl envelopes, empty_bounded.run envelopes,
      fun envelope haccepts => ?_,
    fun envelope error fusion' herror => ?_⟩
  · exact (of_validate (accepts_iff.1 haccepts).1).2
  · exact ((admit_ends fusion envelope).of_error herror).2

end SensorFusion

end NodeNet.Platform
