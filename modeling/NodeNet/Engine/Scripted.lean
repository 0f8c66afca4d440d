import NodeNet.Engine.Walk.Operations

/-!
# Scripted sessions

Collaborators that answer from a script, and sessions built from the inputs of a scan.  They make every path
through the scheduler executable.
-/

namespace NodeNet.Engine

/-- Gives the answers of a list and then one answer for ever. -/
structure Script (α : Type) where
  next : List α
  last : α
deriving DecidableEq

def Script.answer {α : Type} (s : Script α) : α × Script α :=
  match s.next with
  | [] => (s.last, s)
  | a :: rest => (a, { s with next := rest })

structure ScriptedTransport where
  emit : Script (Except TransportFailure Unit) := ⟨[], .ok ()⟩

instance : ProbeTransport ScriptedTransport where
  emit t _ := (t.emit.answer.1, ⟨t.emit.answer.2⟩)

/-- Resolves a probe with the answer for its logical id; the context of a ready probe has the default prefix of its
target. -/
structure ScriptedResolver where
  answer : Script (Except ContextFailure (Option (Option ProbeFamily))) := ⟨[], .ok (some none)⟩
deriving DecidableEq

instance : ContextResolver ScriptedResolver where
  resolve r p := (match r.answer.answer.1 with
    | .error failure => .error failure
    | .ok none => .ok .pending
    | .ok (some neighborSetup) => .ok (.ready ⟨1, PrefixKey.defaultFor p.target, neighborSetup⟩),
      ⟨r.answer.answer.2⟩)

structure ScriptedSink where
  reserve : Script (Except SinkFailure SinkReservation) := ⟨[], .ok .reserved⟩
  commit : Script (Except SinkFailure Unit) := ⟨[], .ok ()⟩
  release : Script (Except SinkFailure Unit) := ⟨[], .ok ()⟩
deriving DecidableEq

instance : ResultSink ScriptedSink where
  tryReserve s := (s.reserve.answer.1, { s with reserve := s.reserve.answer.2 })
  commitReserved s _ := (s.commit.answer.1, { s with commit := s.commit.answer.2 })
  releaseReserved s _ := (s.release.answer.1, { s with release := s.release.answer.2 })

abbrev ScriptedSession := Session ScriptedTransport ScriptedResolver ScriptedSink

/-- A configuration with one second for a probe, five seconds of grace and a hundred seconds for a session. -/
def SchedulerConfig.sample : SchedulerConfig where
  ratePerSecond := 1000
  burst := 10
  maxOutstanding := 10
  maxRetransmissions := 0
  initialTimeout := 1000000
  minimumTimeout := 1000000
  maximumTimeout := 1000000
  sessionDeadline := 100000000
  lateGrace := 5000000
  maxGraceEntries := 100
  maxPerTarget := 10
  maxPerPrefix := 10
  timingMode := .fixedRate
  discoverySilence := .unknown
  tcpResetCleanup := false

/-- A UDP definition with a validated programme. -/
def udpScan (ports : List ProbePort) (ipv4 ipv6 : List UdpProbeVariant) (strategy : UdpProbeStrategy) :
    Except PlanError ProbeDefinition :=
  match UdpProbeProgramme.new ipv4 ipv6 with
  | .error e => .error e
  | .ok programme => ProbeDefinition.udp ports (programme.withStrategy strategy)

structure ScanInputs where
  targets : List TargetInput
  definitions : List (Except PlanError ProbeDefinition)
  config : SchedulerConfig
  seed : SchedulingSeed := .explicit 1
  transport : ScriptedTransport := {}
  resolver : ScriptedResolver := {}
  sink : ScriptedSink := {}

def webPort : ProbePort := ⟨80, by decide⟩

def dnsPort : ProbePort := ⟨53, by decide⟩

/-- A scan of a TCP port of a host. -/
def onePort : ScanInputs where
  targets := [.address ⟨.v4 10, none⟩]
  definitions := [ProbeDefinition.new .tcpSyn [webPort]]
  config := SchedulerConfig.sample

def twoVariants : List UdpProbeVariant := [⟨none, 0, 10, none, .anyPort⟩, ⟨none, 1, 10, none, .anyPort⟩]

/-- A scan of a UDP port with two variants. -/
def oneProgramme : List (Except PlanError ProbeDefinition) := [udpScan [dnsPort] twoVariants [] .exhaustive]

/-- Builds the target set, the plan, the permutation and the scheduler, and a session around it. -/
def ScanInputs.session (i : ScanInputs) : Option ScriptedSession := do
  let targets ← (TargetSet.normalize i.targets []).toOption
  let definitions ← (i.definitions.mapM id).toOption
  let plan ← (ScanPlan.new targets definitions 1).toOption
  let permutation ← (SeededPermutation.new plan.logicalProbeCount i.seed).toOption
  let scheduler ← (ScanScheduler.new plan i.config permutation).toOption
  pure ⟨scheduler, {}, [], i.transport, i.resolver, i.sink⟩

theorem ScanInputs.initial {i : ScanInputs} (h : i.session.isSome = true) : Initial (i.session.get h) := by
  generalize hw : i.session.get h = w
  replace h := Option.some_get h
  rw [hw, eq_comm] at h
  simp only [ScanInputs.session, Option.bind_eq_bind, Option.bind_eq_some_iff, Option.pure_def,
    Option.some.injEq] at h
  obtain ⟨targets, -, definitions, -, plan, -, permutation, -, scheduler, hnew, rfl⟩ := h
  exact ⟨⟨plan, i.config, permutation, toOption_eq_some_iff.1 hnew⟩, rfl⟩

/-! ### Lists of operations -/

section Lists

variable {τ ρ σ : Type} [ProbeTransport τ] [ContextResolver ρ] [ResultSink σ] {C : Session τ ρ σ → Op → Prop}
  {w w' : Session τ ρ σ}

def Session.after (w : Session τ ρ σ) : List Op → Session τ ρ σ
  | [] => w
  | op :: ops => (perform op w).after ops

/-- What a drive does before its first frame. -/
def prepare (now : Nat) : Method τ ρ σ Unit := do
  observeNow now
  pruneGrace now
  freshReport
  catchUp now

def passes (m : Method τ ρ σ Unit) (w : Session τ ρ σ) : Bool :=
  match m w with
  | .ok _ _ => true
  | .error _ _ => false

/-- Each operation of the list is allowed in the session that it starts from. -/
def Session.Allows (C : Session τ ρ σ → Op → Prop) (w : Session τ ρ σ) : List Op → Prop
  | [] => True
  | op :: ops => C w op ∧ (perform op w).Allows C ops

instance Session.decidableAllows [∀ w op, Decidable (C w op)] : (w : Session τ ρ σ) → (ops : List Op) →
    Decidable (w.Allows C ops)
  | _, [] => isTrue trivial
  | w, op :: ops =>
    have := Session.decidableAllows (perform op w) ops
    inferInstanceAs (Decidable (C w op ∧ (perform op w).Allows C ops))

instance (w : Session τ ρ σ) (op : Op) : Decidable (Succeeds op w) :=
  match h : op.method w with
  | .ok _ _ => isTrue (by simp [Succeeds, h])
  | .error _ _ => isFalse (by simp [Succeeds, h])

omit [ProbeTransport τ] [ContextResolver ρ] [ResultSink σ] in
theorem eq_ok_endState (m : Method τ ρ σ Unit) (w : Session τ ρ σ) (h : passes m w = true) :
    m w = .ok () (endState m w) := by
  unfold passes at h
  unfold endState
  cases hm : m w with
  | ok a w' => rfl
  | error fault w' => rw [hm] at h; cases h

theorem exists_error_of_not_succeeds {op : Op} (h : ¬ Succeeds op w) :
    ∃ fault w', op.method w = .error fault w' := by
  cases hm : op.method w with
  | ok a w' => exact absurd (by simp [Succeeds, hm]) h
  | error fault w' => exact ⟨fault, w', rfl⟩

theorem drive_of_succeeds {now : Nat} (h : Succeeds (.drive now) w) :
    ∃ r, drive now w = .ok r (perform (.drive now) w) := by
  simp only [Succeeds, perform, Op.method, Functor.map, EStateM.map] at h ⊢
  cases hm : drive now w with
  | ok r v => exact ⟨r, rfl⟩
  | error e v =>
    rw [hm] at h
    exact h.elim

theorem Run.after (h : Run C w w') {ops : List Op} (hops : w'.Allows C ops) : Run C w (w'.after ops) := by
  induction ops generalizing w' with
  | nil => exact h
  | cons op ops ih => exact ih (h.step op hops.1) hops.2

theorem Session.allows_all (w : Session τ ρ σ) (ops : List Op) : w.Allows (fun _ _ => True) ops := by
  induction ops generalizing w with
  | nil => trivial
  | cons op ops ih => exact ⟨trivial, ih _⟩

theorem Reachable.after (h : Reachable w) (ops : List Op) : Reachable (w.after ops) := by
  obtain ⟨w0, h0, hrun⟩ := h
  exact ⟨w0, h0, hrun.after (w.allows_all ops)⟩

theorem Initial.reachable_after (h : Initial w) (ops : List Op) : Reachable (w.after ops) :=
  ⟨w, h, (Run.refl w).after (w.allows_all ops)⟩

end Lists

theorem ScanInputs.reachable {i : ScanInputs} (h : i.session.isSome = true) (ops : List Op) :
    Reachable ((i.session.get h).after ops) := (initial h).reachable_after ops

end NodeNet.Engine
