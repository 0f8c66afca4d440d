import NodeNet.Engine.Effects
import NodeNet.Engine.Outcomes

/-!
# Methods as paths of steps

`Walks k m w k' Q` says that `m`, started in `w` with the hand `k`, follows steps.  If it succeeds then all steps
go on, and `Q` holds.  If it returns an error then the error is neither a broken reservation invariant nor a failed
`expect`, and at most the last step fails.  The rules of this module take a method apart; the next ones show that
every method walks.
-/

namespace NodeNet.Engine

variable {τ ρ σ α β : Type} {w : Session τ ρ σ} {k : Option LogicalProbe}

/-- A method returns an error: it stops after steps that go on, or one last step fails. -/
def Stops (c c' : Core) (fault : Fault) : Prop :=
  ∃ error, fault = .error error ∧ error ≠ .reservationInvariant ∧ ∃ c₁, Path Step (· = .kept) c c₁ ∧
    (c' = c₁ ∨ ∃ κ, κ.error = some error ∧ Step κ c₁ c')

variable {c : Core}

theorem Stops.now {e : EngineError} (he : e ≠ .reservationInvariant) : Stops c c (.error e) :=
  ⟨e, rfl, he, c, Path.refl, Or.inl rfl⟩

variable {c' : Core}

theorem Stops.step {κ : Kind} {e : EngineError} (hs : Step κ c c') (hκ : κ.error = some e)
    (he : e ≠ .reservationInvariant) : Stops c c' (.error e) :=
  ⟨e, rfl, he, c, Path.refl, Or.inr ⟨κ, hκ, hs⟩⟩

theorem Stops.after {c₁ : Core} {fault : Fault} (h : Path Step (· = .kept) c c₁) (hs : Stops c₁ c' fault) :
    Stops c c' fault := by
  obtain ⟨e, hfault, he, c2, hpath, hlast⟩ := hs
  exact ⟨e, hfault, he, c2, h.trans hpath, hlast⟩

/-- What every step keeps still holds when a method has stopped. -/
theorem Stops.invariant {fault : Fault} {I : Core → Prop} (h : Stops c c' fault) (hI : I c)
    (hstep : ∀ κ c c', κ ≠ .disposed → I c → Step κ c c' → I c') : I c' := by
  obtain ⟨e, -, -, c1, hpath, hlast⟩ := h
  have h1 : I c1 := hpath.invariant hI fun κ c c' hκ => hstep κ c c' (by rw [hκ]; simp)
  rcases hlast with hlast | ⟨κ, hκ, hs⟩
  · exact hlast ▸ h1
  refine hstep κ _ _ ?_ h1 hs
  rintro rfl
  cases hκ

def Walks (k : Option LogicalProbe) (m : Method τ ρ σ α) (w : Session τ ρ σ) (k' : α → Option LogicalProbe)
    (Q : α → Session τ ρ σ → Prop) : Prop :=
  Ends m w (fun a w' => Path Step (· = .kept) (w.core k) (w'.core (k' a)) ∧ Q a w')
    (fun e w' => Stops (w.core k) (w'.core none) e)

/-- The same without a candidate in the hand. -/
abbrev Roams (m : Method τ ρ σ α) (w : Session τ ρ σ) (Q : α → Session τ ρ σ → Prop) : Prop :=
  Walks none m w (fun _ => none) Q

theorem Inv.path {L : Kind → Prop} (hi : Inv c) (h : Path Step L c c') : Inv c' :=
  h.invariant hi fun _ _ _ _ hi hs => hs.inv hi

section Rules

variable {m : Method τ ρ σ α} {f : α → Method τ ρ σ β} {k' : α → Option LogicalProbe}
    {k'' : β → Option LogicalProbe}
  {Q : α → Session τ ρ σ → Prop} {R : β → Session τ ρ σ → Prop} {u : Unit → Option LogicalProbe}
  {T : Unit → Session τ ρ σ → Prop}

theorem Walks.mono {Q' : α → Session τ ρ σ → Prop} (h : Walks k m w k' Q) (hQ : ∀ a w', Q a w' → Q' a w') :
    Walks k m w k' Q' :=
  Ends.imp h (fun a w' hw' => ⟨hw'.1, hQ a w' hw'.2⟩)

theorem Walks.done (h : Walks k m w k' Q) : Walks k m w k' fun _ _ => True := h.mono fun _ _ _ => trivial

/-- The invariant holds again in the state that a walk ends in. -/
theorem Walks.inv (h : Walks k m w k' Q) (hi : Inv (w.core k)) :
    Walks k m w k' fun a w' => Inv (w'.core (k' a)) ∧ Q a w' :=
  Ends.imp h (fun _ _ hw' => ⟨hw'.1, hi.path hw'.1, hw'.2⟩)

/-- A walk does not close the session. -/
theorem Walks.alive (h : Walks k m w k' Q) (hi : Inv (w.core k)) (halive : w.scheduler.lifecycle ≠ .closed) :
    Walks k m w k' fun a w' => w'.scheduler.lifecycle ≠ .closed ∧ Q a w' := by
  refine Ends.imp h (fun _ w' hw' => ⟨hw'.1, ?_, hw'.2⟩)
  refine (hw'.1.invariant (I := fun c => Inv c ∧ c.scheduler.lifecycle ≠ .closed) ⟨hi, halive⟩ ?_).2
  rintro κ c c' rfl ⟨hi, hc⟩ hs
  exact ⟨hs.inv hi, hs.alive (by simp) hi.disposal hc⟩

theorem Walks.bind {j : α → Option LogicalProbe} (hi : Inv (w.core k)) (h : Walks k m w j Q)
    (hf : ∀ a w', Inv (w'.core (j a)) → Q a w' → Walks (j a) (f a) w' k'' R) : Walks k (m >>= f) w k'' R := by
  refine Ends.seq (h.inv hi) (fun a w' hw' => ?_)
  obtain ⟨hpath, hi', hQ⟩ := hw'
  exact Ends.mono (hf a w' hi' hQ) (fun b w'' hw'' => ⟨hpath.trans hw''.1, hw''.2⟩)
    (fun e w'' he => he.after hpath)

theorem Walks.of_step
    (h : Ends m w (fun a w' => Step .kept (w.core k) (w'.core (k' a)) ∧ Q a w')
      (fun e w' => Stops (w.core k) (w'.core none) e)) : Walks k m w k' Q :=
  Ends.imp h (fun _ _ hw' => ⟨Path.single rfl hw'.1, hw'.2⟩)

variable {k1 : Option LogicalProbe}

/-- A step that is made before a walk. -/
theorem Walks.after {w1 : Session τ ρ σ} (h : Walks k1 m w1 k' Q) (hs : Step .kept (w.core k) (w1.core k1)) :
    Ends m w1 (fun a w' => Path Step (· = .kept) (w.core k) (w'.core (k' a)) ∧ Q a w')
      (fun e w' => Stops (w.core k) (w'.core none) e) := by
  have hpath : Path Step (· = .kept) (w.core k) (w1.core k1) := Path.single rfl hs
  exact Ends.mono h (fun b w' hw' => ⟨hpath.trans hw'.1, hw'.2⟩) (fun e w' he => he.after hpath)

variable {g : ScanScheduler → ScanScheduler} {next : Unit → Method τ ρ σ β}

/-- A step that a method makes first. -/
theorem Walks.update (hs : Step .kept (w.core k) ⟨g w.scheduler, w.history, k1⟩)
    (h : Walks k1 (next ()) { w with scheduler := g w.scheduler } k'' R) : Walks k (update g >>= next) w k'' R :=
  h.after hs

theorem Walks.update_bind (hi : Inv (w.core k)) (hs : Step .kept (w.core k) ⟨g w.scheduler, w.history, k1⟩)
    (h : Inv (Session.core { w with scheduler := g w.scheduler } k1) →
      Walks k1 (next ()) { w with scheduler := g w.scheduler } k'' R) :
        Walks k (Engine.update g >>= next) w k'' R :=
  Walks.update hs (h (hs.inv hi))

theorem Walks.update_last (hs : Step .kept (w.core k) ⟨g w.scheduler, w.history, k1⟩)
    (hT : T () { w with scheduler := g w.scheduler }) :
    Walks k (Engine.update g) w (fun _ => k1) T := ⟨Path.single rfl hs, hT⟩

/-- An event that a method records first. -/
theorem Walks.event {e : Event} (he : e.neutral = true)
    (h : Walks k (next ()) { w with history := e :: w.history } k'' R) : Walks k (record e >>= next) w k'' R :=
  h.after (Step.called he)

theorem Walks.reach {p : Point} (hp : (Event.reached p w.scheduler w.report).neutral = true)
    (h : Walks k (next ()) { w with history := .reached p w.scheduler w.report :: w.history } k'' R) :
    Walks k (Engine.reach p >>= next) w k'' R :=
  Walks.event (e := .reached p w.scheduler w.report) hp h

/-- What else is known of the end of a method. -/
theorem Walks.and {Q' : α → Session τ ρ σ → Prop} {E' : Fault → Session τ ρ σ → Prop} (h : Walks k m w k' Q)
    (h' : Ends m w Q' E') : Walks k m w k' fun a w' => Q a w' ∧ Q' a w' :=
  (Ends.and h h').mono (fun _ _ hw' => ⟨hw'.1.1, hw'.1.2, hw'.2⟩) (fun _ _ he => he.1)

@[simp] theorem walks_pure {a : α} : Walks k (pure a) w (fun _ => k) Q ↔ Q a w :=
  ⟨fun h => h.2, fun h => ⟨Path.refl, h⟩⟩

@[simp] theorem walks_scheduler {f : ScanScheduler → Method τ ρ σ β} :
    Walks k (scheduler >>= f) w k'' R ↔ Walks k (f w.scheduler) w k'' R := Iff.rfl

@[simp] theorem walks_report {f : MutableReport → Method τ ρ σ β} :
    Walks k (report >>= f) w k'' R ↔ Walks k (f w.report) w k'' R := Iff.rfl

@[simp] theorem walks_remaining {f : Nat → Method τ ρ σ β} :
    Walks k (remaining >>= f) w k'' R ↔ Walks k (f (maxTransitionsPerDrive - w.report.transitions)) w k'' R :=
    Iff.rfl

@[simp] theorem walks_freshReport :
    Walks k (freshReport >>= next) w k'' R ↔ Walks k (next ()) { w with report := {} } k'' R := Iff.rfl

@[simp] theorem walks_charge_bind {t e r : Nat} :
    Walks k (charge t e r >>= next) w k'' R ↔
      Walks k (next ()) { w with report :=
        ⟨w.report.transitions + t, w.report.emissions + e, w.report.results + r⟩ } k'' R := Iff.rfl

@[simp] theorem walks_charge {t e r : Nat} :
    Walks k (charge t e r) w (fun _ => k) T ↔
      T () { w with report := ⟨w.report.transitions + t, w.report.emissions + e, w.report.results + r⟩ } :=
  ⟨fun h => h.2, fun h => ⟨Path.refl, h⟩⟩

@[simp] theorem walks_ite {c : Prop} [Decidable c] {m' : Method τ ρ σ α} :
    Walks k (if c then m else m') w k' Q ↔ (c → Walks k m w k' Q) ∧ (¬ c → Walks k m' w k' Q) := ends_ite

@[simp] theorem walks_fail {e : EngineError} :
    Walks none (fail e : Method τ ρ σ α) w k' Q ↔ e ≠ .reservationInvariant := by
  refine ⟨fun h => ?_, fun h => Stops.now h⟩
  obtain ⟨e', he, hne, -⟩ : Stops _ _ (.error e) := h
  cases he
  exact hne

theorem Walks.ensure {o : Option α} {e : EngineError} (h : ∀ a, o = some a → Walks none (f a) w k'' R)
    (he : o = none → e ≠ .reservationInvariant) : Walks none (Engine.ensure o e >>= f) w k'' R := by
  cases o with
  | none => exact Stops.now (he rfl)
  | some a => exact h a rfl

theorem Walks.lift {x : Except EngineError α} (h : ∀ a, x = .ok a → Walks none (f a) w k'' R)
    (he : ∀ e, x = .error e → e ≠ .reservationInvariant) : Walks none (Engine.lift x >>= f) w k'' R := by
  cases x with
  | error e => exact Stops.now (he e rfl)
  | ok a => exact h a rfl

variable {id : Nat} {l : ProgrammeLogical}

theorem Walks.programme {f : ProgrammeLogical → Method τ ρ σ β} (held : w.scheduler.programmes.get? id = some l)
    (h : Walks none (f l) w k'' R) : Walks none (Engine.programme id >>= f) w k'' R := by
  simpa only [Engine.programme, bind_assoc, walks_scheduler, held, Engine.ensure, pure_bind] using h

theorem Walks.physicalAt {p : ProgrammePhysical} {f : ProgrammePhysical → Method τ ρ σ β}
    (sent : w.scheduler.physical.get? id = some p) (h : Walks none (f p) w k'' R) :
    Walks none (Engine.physicalAt id >>= f) w k'' R := by
  simpa only [Engine.physicalAt, bind_assoc, walks_scheduler, sent, Engine.ensure, pure_bind] using h

variable {a : ActiveProbe}

theorem Walks.activeAt {f : ActiveProbe → Method τ ρ σ β} (held : w.scheduler.active.get? id = some a)
    (h : Walks none (f a) w k'' R) : Walks none (Engine.activeAt id >>= f) w k'' R := by
  simpa only [Engine.activeAt, bind_assoc, walks_scheduler, held, Engine.ensure, pure_bind] using h

/-- The programme's strategy is in the plan. -/
theorem Walks.programmeStrategy {f : UdpProbeStrategy → Method τ ρ σ β} (hi : w.Inv)
    (held : w.scheduler.programmes.get? id = some l) (h : ∀ strategy, Walks none (f strategy) w k'' R) :
    Walks none (Engine.programmeStrategy id >>= f) w k'' R := by
  obtain ⟨p, port, hp, -⟩ := (hi.origins.programmes held).2.shape
  have hp : w.scheduler.plan.udpProgrammeFor l.probe = some p := hp
  simp only [Engine.programmeStrategy, bind_assoc]
  refine Walks.programme held ?_
  simpa only [walks_scheduler, hp, Engine.ensure, pure_bind] using h p.strategy

theorem Walks.reviseActive {g : ActiveProbe → ActiveProbe} (held : w.scheduler.active.get? id = some a)
    (probe : (g a).probe = a.probe) (context : (g a).context = a.context)
    (transmissions : (g a).totalTransmissions = a.totalTransmissions) :
    Roams (Engine.reviseActive id g) w fun _ w' =>
      w' = w.withScheduler (w.scheduler.setActive id (g a)) :=
  Walks.activeAt held (Walks.update_last (Step.restaged held probe context transmissions) rfl)

/-- A frame of a plain probe is counted and handed to the transport. -/
theorem Walks.send [ProbeTransport τ] {g : ActiveProbe → ActiveProbe} {emission : ProbeEmission}
    {f : Except TransportFailure Unit → Method τ ρ σ β} (hi : w.Inv)
    (held : w.scheduler.active.get? id = some a) (clear : w.scheduler.Clear w.history a.context.generation)
    (frame : a.Frame id emission) (counting : g a = a.counting emission.purpose)
    (hf : ∀ answer (w' : Session τ ρ σ), w'.Inv →
      w'.scheduler = w.scheduler.setActive id (a.counting emission.purpose) →
      w'.history = .emit emission answer :: w.history → Walks none (f answer) w' k'' R) :
    Walks none (Engine.reviseActive id g >>= fun _ => Engine.emit emission >>= f) w k'' R := by
  have hrevise : Ends (Engine.reviseActive id g) w
      (fun _ w' => w' = { w with scheduler := w.scheduler.setActive id (a.counting emission.purpose) })
        (fun _ _ => False) := by
    rw [ends_reviseActive, held]
    refine ⟨fun a' ha' => ?_, fun h => by cases h⟩
    rw [← Option.some.inj ha', counting]
  refine Ends.bind hrevise (fun _ w' hw' => ?_) (fun _ _ he => he.elim)
  subst hw'
  rw [ends_bind]
  refine ends_emit fun answer transport => ?_
  have hs : Step .kept (w.core none) ⟨_, .emit emission answer :: w.history, none⟩ := Step.sent held clear frame
  exact (hf answer { w with
    scheduler := w.scheduler.setActive id (a.counting emission.purpose)
    transport := transport
    history := .emit emission answer :: w.history } (hs.inv hi) rfl rfl).after hs

theorem Walks.reviseProgramme {g : ProgrammeLogical → ProgrammeLogical}
    (held : w.scheduler.programmes.get? id = some l) (revises : (g l).Revises l) (active : (g l).active = l.active)
    (grace : (g l).grace = l.grace) (keeps : (g l).Keeps l) :
    Roams (Engine.reviseProgramme id g) w fun _ w' =>
      w' = w.withScheduler (w.scheduler.setProgramme id (g l)) :=
  Walks.programme held (Walks.update_last (Step.revised held revises active grace keeps) rfl)

theorem Walks.revisePhysical {g : ProgrammePhysical → ProgrammePhysical} {p : ProgrammePhysical}
    (sent : w.scheduler.physical.get? id = some p) (names : (g p).logicalId = p.logicalId) :
    Roams (Engine.revisePhysical id g) w fun _ w' =>
      w' = w.withScheduler (w.scheduler.setPhysical id (g p)) :=
  Walks.physicalAt sent (Walks.update_last (Step.resent sent names) rfl)

theorem Walks.whenever {p : ScanScheduler → Bool} {m : Method τ ρ σ Unit}
    (hm : p w.scheduler = true → Walks k m w (fun _ => k) T) (ht : p w.scheduler = false → T () w) :
    Walks k (Engine.whenever p m) w (fun _ => k) T := by
  unfold Walks
  rw [ends_whenever]
  exact ⟨hm, fun hp => ⟨Path.refl, ht hp⟩⟩

/-- A loop: `I l` holds when the elements of `l` are still to be visited. -/
theorem Walks.forM {g : α → Method τ ρ σ Unit} {I : List α → Session τ ρ σ → Prop} {l : List α}
    (hi : w.Inv) (h : I l w)
    (hstep : ∀ a l w, w.Inv → I (a :: l) w → Roams (g a) w fun _ w' => I l w') :
    Roams (forM l g) w fun _ w' => I [] w' := by
  induction l generalizing w with
  | nil => exact walks_pure.2 h
  | cons a l ih =>
    rw [List.forM_cons]
    exact Walks.bind hi (hstep a l w hi h) (fun _ w' hi' hw' => ih hi' hw')

/-- A loop that may stop early: `J` holds when it has stopped. -/
theorem Walks.forUntil {g : α → Method τ ρ σ Bool} {I : List α → Session τ ρ σ → Prop} {J : Session τ ρ σ → Prop}
    {l : List α} (hi : w.Inv) (h : I l w)
    (hstep : ∀ a l w, w.Inv → I (a :: l) w → Roams (g a) w fun again w' => if again then I l w' else J w')
    (hend : ∀ w, I [] w → J w) : Roams (NodeNet.forUntil g l) w fun _ w' => J w' := by
  induction l generalizing w with
  | nil => exact walks_pure.2 (hend w h)
  | cons a l ih =>
    unfold NodeNet.forUntil
    refine Walks.bind hi (hstep a l w hi h) (fun again w' hi' hw' => ?_)
    cases again with
    | true => exact ih hi' hw'
    | false => exact walks_pure.2 hw'

/-- A loop over different ids: `P` holds for each that is still to be visited, and visiting one keeps it for the
others. -/
theorem Walks.forEach {g : Nat → Method τ ρ σ Unit} {P : Nat → Session τ ρ σ → Prop} {S : Session τ ρ σ → Prop}
    {ids : List Nat} (hi : w.Inv) (hnodup : ids.Nodup) (hP : ∀ id ∈ ids, P id w) (hS : S w)
    (hstep : ∀ id w, w.Inv → P id w → S w → Roams (g id) w fun _ w' => S w' ∧ ∀ i, i ≠ id → P i w → P i w') :
    Roams (ForM.forM ids g) w fun _ w' => S w' := by
  refine (Walks.forM (I := fun l w => l.Nodup ∧ (∀ id ∈ l, P id w) ∧ S w) hi ⟨hnodup, hP, hS⟩ ?_).mono
    fun _ w' hw' => hw'.2.2
  rintro id l w hi ⟨hnodup, hP, hS⟩
  rw [List.nodup_cons] at hnodup
  refine (hstep id w hi (hP id (List.mem_cons_self ..)) hS).mono fun _ w' hw' => ⟨hnodup.2, fun i hl => ?_, hw'.1⟩
  exact hw'.2 i (fun he => hnodup.1 (he ▸ hl)) (hP i (List.mem_cons_of_mem _ hl))

/-- The same for a loop that may stop early: `J` holds when it has stopped. -/
theorem Walks.eachUntil {g : Nat → Method τ ρ σ Bool} {P : Nat → Session τ ρ σ → Prop} {S J : Session τ ρ σ → Prop}
    {ids : List Nat} (hi : w.Inv) (hnodup : ids.Nodup) (hP : ∀ id ∈ ids, P id w) (hS : S w)
    (hstep : ∀ id w, w.Inv → P id w → S w →
      Roams (g id) w fun again w' =>
        if again then S w' ∧ ∀ i, i ≠ id → P i w → P i w' else J w')
    (hend : ∀ w, S w → J w) : Roams (NodeNet.forUntil g ids) w fun _ w' => J w' := by
  refine Walks.forUntil (I := fun l w => l.Nodup ∧ (∀ id ∈ l, P id w) ∧ S w) hi ⟨hnodup, hP, hS⟩ ?_
    (fun w hw => hend w hw.2.2)
  rintro id l w hi ⟨hnodup, hP, hS⟩
  rw [List.nodup_cons] at hnodup
  refine (hstep id w hi (hP id (List.mem_cons_self ..)) hS).mono fun again w' hw' => ?_
  cases again with
  | false => exact hw'
  | true =>
    refine ⟨hnodup.2, fun i hl => ?_, hw'.1⟩
    exact hw'.2 i (fun he => hnodup.1 (he ▸ hl)) (hP i (List.mem_cons_of_mem _ hl))

theorem Walks.diagnose {g : DiagnosticCounters → DiagnosticCounters}
    (hT : T () { w with scheduler := { w.scheduler with diagnostics := g w.scheduler.diagnostics } }) :
    Walks k (Engine.diagnose g) w (fun _ => k) T :=
  Walks.update_last (Step.quiet ..) hT

end Rules

end NodeNet.Engine
