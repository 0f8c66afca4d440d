import NodeNet.Engine.Operations

/-!
# Rules for the primitive methods

How each primitive ends, as rewrite rules for `Ends`.  A call to a collaborator ends in a session that differs in
the collaborator's state, of which nothing is known, and in the recorded event.
-/

namespace NodeNet.Engine

variable {τ ρ σ α : Type} {w : Session τ ρ σ} {Q : α → Session τ ρ σ → Prop} {R : Unit → Session τ ρ σ → Prop}
  {E : Fault → Session τ ρ σ → Prop}

@[simp] theorem ends_scheduler {Q : ScanScheduler → Session τ ρ σ → Prop} :
    Ends scheduler w Q E ↔ Q w.scheduler w := Iff.rfl

@[simp] theorem ends_update {f : ScanScheduler → ScanScheduler} :
    Ends (update f) w R E ↔ R () { w with scheduler := f w.scheduler } := Iff.rfl

@[simp] theorem ends_report {Q : MutableReport → Session τ ρ σ → Prop} :
    Ends report w Q E ↔ Q w.report w := Iff.rfl

@[simp] theorem ends_freshReport : Ends freshReport w R E ↔ R () { w with report := {} } := Iff.rfl

@[simp] theorem ends_charge {t e r : Nat} :
    Ends (charge t e r) w R E ↔
      R () { w with report := ⟨w.report.transitions + t, w.report.emissions + e, w.report.results + r⟩ } := Iff.rfl

@[simp] theorem ends_record {e : Event} : Ends (record e) w R E ↔ R () { w with history := e :: w.history } :=
    Iff.rfl

@[simp] theorem ends_reach {p : Point} :
    Ends (reach p) w R E ↔ R () { w with history := .reached p w.scheduler w.report :: w.history } := Iff.rfl

variable {e : EngineError}

@[simp] theorem ends_fail : Ends (fail e : Method τ ρ σ α) w Q E ↔ E (.error e) w := Iff.rfl

variable {o : Option α}

@[simp] theorem ends_ensure :
    Ends (ensure o e) w Q E ↔ (∀ a, o = some a → Q a w) ∧ (o = none → E (.error e) w) := by
  cases o <;> simp [ensure]

theorem ends_ensure_some {a : α} (h : o = some a) : Ends (ensure o e) w Q E ↔ Q a w := by simp [h]

/-- A lookup that succeeds. -/
theorem found_iff {a : α} {P : α → Prop} {q : Prop} (h : o = some a) :
    (∀ b, o = some b → P b) ∧ (o = none → q) ↔ P a := by simp [h]

@[simp] theorem ends_expect {message : String} :
    Ends (expect o message) w Q E ↔ (∀ a, o = some a → Q a w) ∧ (o = none → E (.panic message) w) := by
  cases o <;> simp [expect]

@[simp] theorem ends_lift {x : Except EngineError α} :
    Ends (lift x) w Q E ↔ (∀ a, x = .ok a → Q a w) ∧ (∀ e, x = .error e → E (.error e) w) := by
  cases x <;> simp [lift]

@[simp] theorem ends_whenever {p : ScanScheduler → Bool} {m : Method τ ρ σ Unit} :
    Ends (whenever p m) w R E ↔ (p w.scheduler = true → Ends m w R E) ∧ (p w.scheduler = false → R () w) := by
  cases hp : p w.scheduler <;> simp [whenever, hp]

@[simp] theorem ends_remaining {Q : Nat → Session τ ρ σ → Prop} :
    Ends remaining w Q E ↔ Q (maxTransitionsPerDrive - w.report.transitions) w := by simp [remaining]

variable {id : Nat}

@[simp] theorem ends_programme {Q : ProgrammeLogical → Session τ ρ σ → Prop} :
    Ends (programme id) w Q E ↔ (∀ l, w.scheduler.programmes.get? id = some l → Q l w) ∧
      (w.scheduler.programmes.get? id = none → E (.error .reservationInvariant) w) := by simp [programme]

@[simp] theorem ends_physicalAt {Q : ProgrammePhysical → Session τ ρ σ → Prop} :
    Ends (physicalAt id) w Q E ↔ (∀ p, w.scheduler.physical.get? id = some p → Q p w) ∧
      (w.scheduler.physical.get? id = none → E (.error .reservationInvariant) w) := by simp [physicalAt]

@[simp] theorem ends_activeAt {Q : ActiveProbe → Session τ ρ σ → Prop} :
    Ends (activeAt id) w Q E ↔ (∀ a, w.scheduler.active.get? id = some a → Q a w) ∧
      (w.scheduler.active.get? id = none → E (.error .reservationInvariant) w) := by simp [activeAt]

@[simp] theorem ends_reviseProgramme {f : ProgrammeLogical → ProgrammeLogical} :
    Ends (reviseProgramme id f) w R E ↔
      (∀ l, w.scheduler.programmes.get? id = some l →
        R () { w with scheduler := w.scheduler.setProgramme id (f l) }) ∧
      (w.scheduler.programmes.get? id = none → E (.error .reservationInvariant) w) := by simp [reviseProgramme]

@[simp] theorem ends_revisePhysical {f : ProgrammePhysical → ProgrammePhysical} :
    Ends (revisePhysical id f) w R E ↔
      (∀ p, w.scheduler.physical.get? id = some p →
        R () { w with scheduler := w.scheduler.setPhysical id (f p) }) ∧
      (w.scheduler.physical.get? id = none → E (.error .reservationInvariant) w) := by simp [revisePhysical]

@[simp] theorem ends_reviseActive {f : ActiveProbe → ActiveProbe} :
    Ends (reviseActive id f) w R E ↔
      (∀ a, w.scheduler.active.get? id = some a → R () { w with scheduler := w.scheduler.setActive id (f a) }) ∧
      (w.scheduler.active.get? id = none → E (.error .reservationInvariant) w) := by simp [reviseActive]

@[simp] theorem ends_diagnose {f : DiagnosticCounters → DiagnosticCounters} :
    Ends (diagnose f) w R E ↔
      R () { w with scheduler := { w.scheduler with diagnostics := f w.scheduler.diagnostics } } := by
        simp [diagnose]

/-! ### Calls to collaborators -/

theorem ends_emit [ProbeTransport τ] {emission : ProbeEmission}
    {Q : Except TransportFailure Unit → Session τ ρ σ → Prop} (h : ∀ answer transport, Q answer
      { w with transport := transport, history := .emit emission answer :: w.history }) :
    Ends (emit emission) w Q E := h _ _

theorem ends_retire [ProbeTransport τ]
    (h : ∀ transport, R () { w with transport := transport, history := .retire id :: w.history }) :
    Ends (retire id) w R E := h _

theorem ends_resolve [ContextResolver ρ] {probe : LogicalProbe}
    {Q : Except ContextFailure ContextResolution → Session τ ρ σ → Prop} (h : ∀ answer resolver, Q answer
      { w with resolver := resolver, history := .resolve probe answer :: w.history }) :
    Ends (resolve probe) w Q E := h _ _

theorem ends_tryReserve [ResultSink σ] {Q : Except SinkFailure SinkReservation → Session τ ρ σ → Prop}
    (h : ∀ answer sink, Q answer { w with sink := sink, history := .tryReserve answer :: w.history }) :
    Ends tryReserve w Q E := h _ _

theorem ends_tryReserveWithBytes [ResultSink σ] {bytes : Nat}
    {Q : Except SinkFailure SinkReservation → Session τ ρ σ → Prop} (h : ∀ answer sink, Q answer
      { w with sink := sink, history := .tryReserveWithBytes bytes answer :: w.history }) :
    Ends (tryReserveWithBytes bytes) w Q E := h _ _

private theorem ends_sinkOutcome {m : Method τ ρ σ Unit} {answer : Except SinkFailure Unit} {w' : Session τ ρ σ}
    (hm : m w = sinkOutcome answer w') (hok : answer = .ok () → R () w')
    (herror : ∀ failure, answer = .error failure → E (.error (.sink failure)) w') : Ends m w R E := by
  cases answer with
  | ok u => exact (ends_of_ok hm).2 (hok rfl)
  | error failure => exact (ends_of_error hm).2 (herror failure rfl)

theorem ends_commitReserved [ResultSink σ] {result : ScanResult}
    (hok : ∀ sink, R () { w with sink := sink, history := .commitReserved result (.ok ()) :: w.history })
    (herror : ∀ failure sink, E (.error (.sink failure))
      { w with sink := sink, history := .commitReserved result (.error failure) :: w.history }) :
    Ends (commitReserved result) w R E :=
  ends_sinkOutcome rfl (fun h => by rw [h]; exact hok _) (fun f h => by rw [h]; exact herror f _)

theorem ends_commitReservedWithBytes [ResultSink σ] {result : ScanResult} {actual reserved : Nat}
    (hok : ∀ sink, R ()
      { w with sink := sink, history := .commitReservedWithBytes result actual reserved (.ok ()) :: w.history })
    (herror : ∀ failure sink, E (.error (.sink failure))
      { w with sink := sink, history :=
        .commitReservedWithBytes result actual reserved (.error failure) :: w.history }) :
    Ends (commitReservedWithBytes result actual reserved) w R E :=
  ends_sinkOutcome rfl (fun h => by rw [h]; exact hok _) (fun f h => by rw [h]; exact herror f _)

theorem ends_releaseReserved [ResultSink σ] {count : Nat}
    (hok : ∀ sink, R () { w with sink := sink, history := .releaseReserved count (.ok ()) :: w.history })
    (herror : ∀ failure sink, E (.error (.sink failure))
      { w with sink := sink, history := .releaseReserved count (.error failure) :: w.history }) :
    Ends (releaseReserved count) w R E :=
  ends_sinkOutcome rfl (fun h => by rw [h]; exact hok _) (fun f h => by rw [h]; exact herror f _)

theorem ends_releaseReservedWithBytes [ResultSink σ] {count bytes : Nat}
    (hok : ∀ sink, R ()
      { w with sink := sink, history := .releaseReservedWithBytes count bytes (.ok ()) :: w.history })
    (herror : ∀ failure sink, E (.error (.sink failure))
      { w with sink := sink, history := .releaseReservedWithBytes count bytes (.error failure) :: w.history }) :
    Ends (releaseReservedWithBytes count bytes) w R E :=
  ends_sinkOutcome rfl (fun h => by rw [h]; exact hok _) (fun f h => by rw [h]; exact herror f _)

/-! ### Pacing state -/

theorem pruneAdaptiveTargetState_eq (s : ScanScheduler) (target : ScanTarget) :
    s.pruneAdaptiveTargetState target =
      { s with
        adaptiveIcmpSeen := (s.pruneAdaptiveTargetState target).adaptiveIcmpSeen
        adaptiveNotBefore := (s.pruneAdaptiveTargetState target).adaptiveNotBefore } := by
  unfold ScanScheduler.pruneAdaptiveTargetState
  split <;> rfl

end NodeNet.Engine
