import Mathlib.Data.Finset.Prod
import Mathlib.Order.Interval.Finset.Nat
import NodeNet.Engine.Types

/-!
# Path runs

A path run collects attempts to reach a target, each with its hop and its number.  Its set of attempts is ordered
by all their fields, so an attempt replaces an equal one only: a late response stands next to the timeout of the
same attempt. The run is what it should be, the last attempt for each hop and number, exactly if no attempt was
recorded twice with different fields (`PathRun.holdsLast_iff`).
-/

namespace NodeNet.Platform

open Engine (IpAddress)

def maxPathHops : UInt8 := 64
def maxPathAttemptsPerHop : UInt8 := 8

inductive PathMode where
  | icmpEcho | udp | tcpSyn
deriving DecidableEq

structure PathPlan where
  target : IpAddress
  mode : PathMode
  port : Option UInt16
  firstHop : UInt8
  maximumHop : UInt8
  attemptsPerHop : UInt8
  deadlineMillis : UInt32
deriving DecidableEq

/-- The validation errors of the platform that are about paths. -/
inductive PathValidationError where
  | invalidHopRange | invalidAttempts | invalidDeadline | missingPort | unexpectedPort
deriving DecidableEq

def PathPlan.validate (plan : PathPlan) : Except PathValidationError Unit :=
  if plan.firstHop = 0 ∨ plan.maximumHop < plan.firstHop ∨ plan.maximumHop > maxPathHops then
    .error .invalidHopRange
  else if plan.attemptsPerHop = 0 ∨ plan.attemptsPerHop > maxPathAttemptsPerHop then .error .invalidAttempts
  else if plan.deadlineMillis = 0 ∨ plan.deadlineMillis > 300000 then .error .invalidDeadline
  else
    match plan.mode, plan.port with
    | .icmpEcho, none => .ok ()
    | .icmpEcho, some _ => .error .unexpectedPort
    | _, none => .error .missingPort
    | _, some port => if port = 0 then .error .missingPort else .ok ()

inductive PathAttemptOutcome where
  | timeout | hopResponse | destinationReached | unreachable | administrativelyFiltered
deriving DecidableEq

structure PathAttempt where
  hop : UInt8
  attempt : UInt8
  responder : Option IpAddress
  roundTripMicros : Option UInt64
  outcome : PathAttemptOutcome
  strongCorrelation : Bool
deriving DecidableEq

def PathAttempt.place (attempt : PathAttempt) : UInt8 × UInt8 := (attempt.hop, attempt.attempt)

structure PathRun where
  plan : PathPlan
  attempts : Finset PathAttempt
  stopped : Bool
deriving DecidableEq

namespace PathRun

def new (plan : PathPlan) : Except PathValidationError PathRun :=
  match plan.validate with
  | .error error => .error error
  | .ok () => .ok { plan, attempts := ∅, stopped := false }

def record (run : PathRun) (attempt : PathAttempt) : Except PathValidationError PathRun :=
  if run.stopped ∨ attempt.hop < run.plan.firstHop ∨ attempt.hop > run.plan.maximumHop ∨ attempt.attempt = 0 ∨
      attempt.attempt > run.plan.attemptsPerHop then .error .invalidHopRange
  else
    .ok { run with
      stopped := run.stopped || attempt.outcome = .destinationReached || attempt.outcome = .unreachable
      -- the order of the set compares all fields
      attempts := insert attempt run.attempts }

/-- The run after further attempts, and all the attempts that it has accepted; a refused one leaves it as it is. -/
def recordAll (run : PathRun) (recorded : List PathAttempt) : List PathAttempt → PathRun × List PathAttempt
  | [] => (run, recorded)
  | attempt :: rest =>
    match run.record attempt with
    | .error _ => recordAll run recorded rest
    | .ok next => recordAll next (recorded ++ [attempt]) rest

/-- The run holds the last attempt that was recorded for each hop and number, and nothing else. -/
def HoldsLast (run : PathRun) (recorded : List PathAttempt) : Prop :=
  ∀ attempt, attempt ∈ run.attempts ↔ (recorded.filter (·.place = attempt.place)).getLast? = some attempt

/-- The run holds what was recorded, and all of it is inside the plan. -/
private structure Holds (plan : PathPlan) (run : PathRun) (recorded : List PathAttempt) : Prop where
  plan_eq : run.plan = plan
  attempts_eq : run.attempts = recorded.toFinset
  hop_mem : ∀ a ∈ recorded, a.hop.toNat ∈ Finset.Icc plan.firstHop.toNat plan.maximumHop.toNat
  attempt_mem : ∀ a ∈ recorded, a.attempt.toNat ∈ Finset.Icc 1 plan.attemptsPerHop.toNat

variable {plan : PathPlan} {run : PathRun} {recorded : List PathAttempt}

private theorem Holds.record {next : PathRun} {attempt : PathAttempt} (h : Holds plan run recorded)
    (hrecord : run.record attempt = .ok next) : Holds plan next (recorded ++ [attempt]) := by
  rw [PathRun.record, h.plan_eq, ite_error_eq_ok] at hrecord
  obtain ⟨hinside, hrecord⟩ := hrecord
  cases hrecord
  simp only [not_or, UInt8.not_lt, UInt8.le_iff_toNat_le] at hinside
  obtain ⟨-, hfirst, hmaximum, hzero, hattempts⟩ := hinside
  have hpos : 1 ≤ attempt.attempt.toNat := Nat.pos_of_ne_zero fun h => hzero (UInt8.toNat_inj.mp h)
  constructor
  · rfl
  · simp [h.attempts_eq, Finset.insert_eq, Finset.union_comm, -Finset.union_singleton]
  · simpa [or_imp, forall_and, hfirst, hmaximum] using h.hop_mem
  · simpa [or_imp, forall_and, hpos, hattempts] using h.attempt_mem

private theorem Holds.recordAll (h : Holds plan run recorded) (attempts : List PathAttempt) :
    Holds plan (run.recordAll recorded attempts).1 (run.recordAll recorded attempts).2 := by
  induction attempts generalizing run recorded with
  | nil => exact h
  | cons attempt rest ih =>
    rw [PathRun.recordAll]
    split
    · exact ih h
    next hrecord => exact ih (h.record hrecord)

/-- One attempt for each hop and number: so many are possible inside the plan. -/
private theorem Holds.card_le (h : Holds plan run recorded)
    (hsame : ∀ a ∈ recorded, ∀ b ∈ recorded, a.place = b.place → a = b) :
    run.attempts.card ≤ (plan.maximumHop.toNat - plan.firstHop.toNat + 1) * plan.attemptsPerHop.toNat := by
  have hcard := Finset.card_le_card_of_injOn (s := run.attempts)
    (t := Finset.Icc plan.firstHop.toNat plan.maximumHop.toNat ×ˢ Finset.Icc 1 plan.attemptsPerHop.toNat)
    (fun a => (a.hop.toNat, a.attempt.toNat))
  simp only [h.attempts_eq, Set.MapsTo, Set.InjOn, List.coe_toFinset, Set.mem_ofPred_eq, Finset.coe_product,
    Finset.card_product, Nat.card_Icc, Nat.add_sub_cancel, Prod.mk.injEq, UInt8.toNat_inj] at hcard ⊢
  refine (hcard (fun a ha => ⟨h.hop_mem a ha, h.attempt_mem a ha⟩) fun a ha b hb hplace =>
    hsame a ha b hb (Prod.ext hplace.1 hplace.2)).trans (Nat.mul_le_mul_right _ (by omega))

/-- The run holds the last attempt for each hop and number, and then no more attempts than the plan has, exactly if
all attempts that were recorded for one hop and number are equal. -/
theorem holdsLast_iff (plan : PathPlan) {run : PathRun} (h : new plan = .ok run) (attempts : List PathAttempt) :
    ((run.recordAll [] attempts).1.HoldsLast (run.recordAll [] attempts).2 ∧
      (run.recordAll [] attempts).1.attempts.card ≤
        (plan.maximumHop.toNat - plan.firstHop.toNat + 1) * plan.attemptsPerHop.toNat) ↔
      ∀ a ∈ (run.recordAll [] attempts).2, ∀ b ∈ (run.recordAll [] attempts).2, a.place = b.place → a = b := by
  have hstart : Holds plan run [] := by
    rw [new] at h
    split at h
    · cases h
    cases h
    exact ⟨rfl, rfl, by simp, by simp⟩
  have hend := hstart.recordAll attempts
  generalize run.recordAll [] attempts = last at hend ⊢
  have hmem : ∀ a, a ∈ last.1.attempts ↔ a ∈ last.2 := by simp [hend.attempts_eq]
  constructor
  · rintro ⟨hlast, -⟩ a ha b hb hplace
    have hb' := (hlast b).mp ((hmem b).mpr hb)
    rw [← hplace, (hlast a).mp ((hmem a).mpr ha)] at hb'
    exact Option.some.inj hb'
  intro hsame
  refine ⟨fun a => (hmem a).trans ⟨fun ha => ?_, fun hlast => ?_⟩, hend.card_le hsame⟩
  · cases hfilter : (last.2.filter (·.place = a.place)).getLast? with
    | none =>
      simp only [List.getLast?_eq_none_iff, List.filter_eq_nil_iff, decide_eq_true_eq] at hfilter
      exact absurd rfl (hfilter a ha)
    | some b =>
      have hb := List.mem_filter.mp (List.mem_of_getLast? hfilter)
      rw [hsame b hb.1 a ha (by simpa using hb.2)]
  · exact (List.mem_filter.mp (List.mem_of_getLast? hlast)).1

def oneProbe : PathPlan := ⟨.v4 0x0a000001, .icmpEcho, none, 1, 1, 1, 1000⟩

def oneProbeRun : PathRun := ⟨oneProbe, ∅, false⟩

def timedOut : PathAttempt := ⟨1, 1, none, none, .timeout, false⟩

def lateResponse : PathAttempt := ⟨1, 1, some (.v4 0x0a0000fe), some 900, .hopResponse, true⟩

/-- A timeout that is recorded twice is held once. -/
theorem holdsLast_timedOut : (oneProbeRun.recordAll [] [timedOut, timedOut]).1.attempts.card ≤ 1 :=
  ((holdsLast_iff oneProbe rfl _).mpr (by decide)).2

/-- A late response does not replace the timeout: the run holds two attempts where the plan has one. -/
theorem timeout_kept :
    new oneProbe = .ok oneProbeRun ∧ (oneProbeRun.recordAll [] [timedOut, lateResponse]).1.attempts.card = 2 ∧
      (oneProbe.maximumHop.toNat - oneProbe.firstHop.toNat + 1) * oneProbe.attemptsPerHop.toNat = 1 := by
  decide

end PathRun

end NodeNet.Platform
