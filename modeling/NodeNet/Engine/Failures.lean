import NodeNet.Engine.Scripted

/-!
# Failing collaborators

A call that fails ends its operation with the error of the call.  A candidate whose context or reservation fails
goes back to the queue, except when the reservation is one for a programme (`refused_candidate_kept`).  A plain
probe whose commit fails stays admitted, and a programme does not (`failed_commit_keeps_work`).
-/

namespace NodeNet.Engine

open OrdMap

variable {τ ρ σ : Type} {w w' : Session τ ρ σ}

variable {c c' : Core}

/-- A path adds to the history, and steps that go on add no event that fails. -/
theorem Path.events {L : Kind → Prop} (hL : ∀ κ, L κ → κ.error = none) (h : Path Step L c c') :
    ∃ added, c'.history = added ++ c.history ∧ ∀ e ∈ added, e.kind = .kept := by
  refine h.invariant (I := fun c' => ∃ added, c'.history = added ++ c.history ∧ ∀ e ∈ added, e.kind = .kept)
    ⟨[], rfl, fun _ h => by cases h⟩ ?_
  rintro κ c1 c2 hκ ⟨added, he, hkept⟩ hs
  obtain ⟨more, hmore, hfail⟩ := hs.events
  refine ⟨more ++ added, by rw [hmore, he, List.append_assoc], fun e hm => ?_⟩
  rcases List.mem_append.1 hm with hm | hm
  · by_contra hne
    obtain ⟨herror, -⟩ := hfail e hm hne
    have hnone := hL κ hκ
    rw [herror] at hnone
    rcases e.kind_cases with hk | ⟨error, hk⟩
    · exact hne hk
    · rw [hk] at hnone
      cases hnone
  · exact hkept e hm

section Operations

/-! ### Refused candidates -/

private theorem map_eq_error {α β : Type} {f : α → β} {m : Method τ ρ σ α} {fault : Fault}
    (h : (f <$> m) w = .error fault w') : m w = .error fault w' := by
  simp only [Functor.map, EStateM.map] at h
  cases hm : m w with
  | ok a v => rw [hm] at h; cases h
  | error e v => rw [hm] at h; cases h; rfl

def ScanScheduler.Awaits (s : ScanScheduler) (p : LogicalProbe) : Prop :=
  p ∈ s.deferred ∨ p.logicalId ∈ s.permutation.unissued s.cursor

variable {e : Event}

private theorem Ledger.not_awaited {s : ScanScheduler} {h : List Event} {p : LogicalProbe}
    (hl : Ledger ⟨s, h, some p⟩) : ¬ s.Awaits p := by
  have hunique := hl.unique p.logicalId
  simp only [Core.holders, Option.toList_some, List.map_cons, List.map_nil, List.count_singleton_self] at hunique
  rintro (hp | hp)
  · have := List.count_pos_iff.2 (List.mem_map_of_mem (f := LogicalProbe.logicalId) hp)
    omega
  · have := List.count_pos_iff.2 hp
    omega

/-- The candidate cannot be admitted: its context cannot be resolved or does not fit it, or its reservation fails.
-/
def Event.refuses : Event → Bool
  | resolve probe answer => (resolve probe answer).kind != .kept
  | tryReserve (.error _) => true
  | tryReserveWithBytes _ (.error _) => true
  | _ => false

def Event.isProgrammeReservation : Event → Bool
  | tryReserveWithBytes _ _ => true
  | _ => false

/-- The candidate that was resolved last. -/
def candidate (history : List Event) : Option LogicalProbe :=
  history.findSome? fun
    | .resolve probe _ => some probe
    | _ => none

theorem Event.kind_of_refuses (h : e.refuses = true) : e.kind ≠ .kept := by
  cases e with
  | resolve probe answer => simpa [Event.refuses] using h
  | tryReserve answer | tryReserveWithBytes bytes answer => cases answer <;> simp_all [Event.refuses, Event.kind]
  | _ => cases h

/-- The step that refuses a candidate keeps it, unless it loses it to a reservation for a programme. -/
theorem Step.refused {error : EngineError} {c c' : Core} (h : Step (.failed error) c c') (hl : Ledger c)
    (he : c'.history.head? = some e) (hr : e.refuses = true) :
    ∃ p, candidate c'.history = some p ∧ (c'.scheduler.Awaits p ↔ e.isProgrammeReservation = false) := by
  generalize hκ : Kind.failed error = κ at h
  cases h with
  | rejected rejects =>
    refine ⟨_, ?_, iff_of_true (Or.inl (List.mem_cons_self ..)) ?_⟩
    · cases rejects <;> rfl
    · cases rejects <;> (obtain rfl := Option.some.inj he; rfl)
  | lost =>
    obtain rfl := Option.some.inj he
    exact ⟨_, rfl, iff_of_false hl.not_awaited (by simp [Event.isProgrammeReservation])⟩
  | commitRefused | settleRefused | aborted =>
    obtain rfl := Option.some.inj he
    cases hr
  | released releases =>
    obtain rfl := Option.some.inj he
    revert hr
    exact Event.releases_elim releases (fun _ _ h => by cases h) fun _ _ _ h => by cases h
  | _ => cases hκ

variable [ProbeTransport τ] [ContextResolver ρ] [ResultSink σ]

/-- Of the calls of an operation only the last one may fail, and then the operation returns its error. -/
theorem perform_events (op : Op) (hi : w.Inv) :
    ∃ added, (perform op w).history = added ++ w.history ∧ ∀ e ∈ added, e.kind ≠ .kept →
      ∃ c error, e.kind = .failed error ∧ op.method w = .error (.error error) (perform op w) ∧ Inv c ∧
        Step (.failed error) c ((perform op w).core none) ∧ (perform op w).history.head? = some e := by
  rcases perform_cases op hi with ⟨-, hpath⟩ | ⟨fault, hm, error, rfl, -, c1, hpath, hlast⟩
  · obtain ⟨added, he, hkept⟩ := Path.events (fun _ h => h) hpath
    exact ⟨added, he, fun e hm hne => absurd (hkept e hm) hne⟩
  obtain ⟨added, he, hkept⟩ := Path.events (fun _ h => by rw [h]; rfl) hpath
  rcases hlast with hlast | ⟨κ, hκ, hs⟩
  · exact ⟨added, (congrArg Core.history hlast).trans he, fun e hm hne => absurd (hkept e hm) hne⟩
  obtain ⟨more, hmore, hfail⟩ := hs.events
  refine ⟨more ++ added, ?_, fun e hmem hne => ?_⟩
  · rw [List.append_assoc]
    exact hmore.trans (congrArg _ he)
  rcases List.mem_append.1 hmem with hmem | hmem
  · obtain ⟨rfl, hhead⟩ := hfail e hmem hne
    rcases e.kind_cases with hk | ⟨error', hk⟩
    · exact absurd hk hne
    rw [hk] at hκ hs
    cases hκ
    refine ⟨c1, error, hk, hm, hi.path hpath, hs, ?_⟩
    have hhistory : (perform op w).history = more ++ c1.history := hmore
    rw [hhistory, List.head?_append, hhead]
    rfl
  · exact absurd (hkept e hmem) hne

/-- A drive in which a candidate is refused returns the error of the call, and the candidate still waits to be
admitted, exactly if the refused call is not a reservation for a programme. -/
theorem refused_candidate_kept (h : Reachable w) (now : Nat) {e : Event}
    (he : e ∈ w.added (perform (.drive now) w)) (hr : e.refuses = true) :
    ((∃ error, e.kind = .failed error ∧ drive now w = .error (.error error) (perform (.drive now) w)) ∧
      ∃ p, candidate (perform (.drive now) w).history = some p ∧ (perform (.drive now) w).scheduler.Awaits p) ↔
    e.isProgrammeReservation = false := by
  obtain ⟨added, hadded, hfail⟩ := perform_events (.drive now) h.inv
  rw [Session.added_eq hadded] at he
  obtain ⟨c, error, hkind, hm, hi, hstep, hhead⟩ := hfail e he (Event.kind_of_refuses hr)
  obtain ⟨p, hp, hawaits⟩ := hstep.refused hi.ledger hhead hr
  have hdrive : drive now w = .error (.error error) (perform (.drive now) w) := map_eq_error hm
  constructor
  · rintro ⟨-, p', hp', hw⟩
    rw [show candidate (perform (.drive now) w).history = some p from hp, Option.some.injEq] at hp'
    exact hawaits.1 (hp' ▸ hw)
  · exact fun hprogramme => ⟨⟨error, hkind, hdrive⟩, p, hp, hawaits.2 hprogramme⟩

end Operations

/-- A scan of a TCP port of a host; the first reservation fails. -/
def unreservedPort : ScanInputs := { onePort with sink := { reserve := ⟨[.error ⟨7⟩], .ok .reserved⟩ } }

/-- The same with a UDP port that has two variants. -/
def unreservedProgramme : ScanInputs := { unreservedPort with definitions := oneProgramme }

def unreservedPortSession : ScriptedSession := (unreservedPort.session.get (by decide +kernel)).after [.start 0]

def unreservedProgrammeSession : ScriptedSession :=
  (unreservedProgramme.session.get (by decide +kernel)).after [.start 0]

theorem refused_candidate_kept_unreservedPort :
    ∃ e ∈ unreservedPortSession.added (perform (.drive 1) unreservedPortSession), e.refuses = true ∧
      (∃ error, e.kind = .failed error ∧
        drive 1 unreservedPortSession = .error (.error error) (perform (.drive 1) unreservedPortSession)) ∧
      ∃ p, candidate (perform (.drive 1) unreservedPortSession).history = some p ∧
        (perform (.drive 1) unreservedPortSession).scheduler.Awaits p := by
  have hany : ((unreservedPortSession.added (perform (.drive 1) unreservedPortSession)).any fun e =>
      e.refuses && !e.isProgrammeReservation) = true := by decide +kernel
  obtain ⟨e, he, hr⟩ := List.any_eq_true.1 hany
  simp only [Bool.and_eq_true, Bool.not_eq_true'] at hr
  exact ⟨e, he, hr.1, (refused_candidate_kept (ScanInputs.reachable _ _) 1 he hr.1).2 hr.2⟩

/-- The only probe of the scan is lost: it is neither queued nor still to be generated. -/
theorem refused_programme_lost : Reachable unreservedProgrammeSession ∧
    unreservedProgrammeSession.scheduler.lifecycle = .running ∧
    (∃ e ∈ unreservedProgrammeSession.added (perform (.drive 1) unreservedProgrammeSession), e.refuses = true) ∧
    (candidate (perform (.drive 1) unreservedProgrammeSession).history).isSome = true ∧
    ∀ p, ¬ (perform (.drive 1) unreservedProgrammeSession).scheduler.Awaits p := by
  have hany : ((unreservedProgrammeSession.added (perform (.drive 1) unreservedProgrammeSession)).any
      Event.refuses) = true := by decide +kernel
  have hdeferred : (perform (.drive 1) unreservedProgrammeSession).scheduler.deferred = [] := by decide +kernel
  have hissued : (perform (.drive 1) unreservedProgrammeSession).scheduler.permutation.unissued
      (perform (.drive 1) unreservedProgrammeSession).scheduler.cursor = [] := by decide +kernel
  refine ⟨ScanInputs.reachable _ _, by decide +kernel, List.any_eq_true.1 hany, by decide +kernel, ?_⟩
  rintro p (hp | hp)
  · rw [hdeferred] at hp
    cases hp
  · rw [hissued] at hp
    cases hp

/-! ### Failed commits -/

namespace Event

def failedCommit : Event → Option ScanResult
  | commitReserved result (.error _) => some result
  | commitReservedWithBytes result _ _ (.error _) => some result
  | _ => none

def isProgrammeCommit : Event → Bool
  | commitReservedWithBytes _ _ _ _ => true
  | _ => false

def reserves : Event → Bool
  | tryReserve (.ok .reserved) => true
  | tryReserveWithBytes _ (.ok .reserved) => true
  | _ => false

def losesProgramme (e : Event) : Bool := e.isProgrammeCommit && e.failedCommit.isSome

def released : Event → Nat
  | releaseReserved count (.ok _) => count
  | releaseReservedWithBytes count _ (.ok _) => count
  | _ => 0

theorem kind_of_failedCommit {e : Event} {r : ScanResult} (h : e.failedCommit = some r) : e.kind ≠ .kept := by
  cases e with
  | commitReserved result answer | commitReservedWithBytes result actual reserved answer =>
    cases answer <;> simp_all [failedCommit, kind]
  | _ => cases h

end Event

/-- The reservations that the sink still holds: those made, without those that a commit or a release consumed. -/
def sinkHolds (history : List Event) : Int :=
  history.countP Event.reserves - (committed history).length - (history.map Event.released).sum

def ScanScheduler.Holds (s : ScanScheduler) (id : Nat) : Prop := s.active.contains id = true ∨
    s.programmes.contains id = true

variable {id : Nat} {l : ProgrammeLogical}

variable {s : ScanScheduler}

private theorem Ledger.not_holds (hl : Ledger c) (h : c.scheduler.programmes.get? id = some l)
    (hactive : s.active = c.scheduler.active) (hprogrammes : s.programmes = c.scheduler.programmes.erase id) :
    ¬ s.Holds id := by
  rintro (ha | hp)
  · rw [hactive, contains, (hl.only_programme h).1] at ha
    cases ha
  · rw [hprogrammes, contains, get?_erase_self] at hp
    cases hp

variable {e : Event}

/-- The step of a failed commit keeps a plain probe and loses a programme. -/
theorem Step.failedCommit {error : EngineError} {r : ScanResult} (h : Step (.failed error) c c') (hi : Inv c)
    (he : c'.history.head? = some e) (hr : e.failedCommit = some r) :
    c'.scheduler.Holds r.probe.logicalId ↔ e.isProgrammeCommit = false := by
  generalize hκ : Kind.failed error = κ at h
  cases h with
  | commitRefused held probe =>
    obtain rfl := Option.some.inj he
    cases hr
    refine iff_of_true (Or.inl ?_) rfl
    rw [probe, hi.origins.active_id held]
    simp [contains, held]
  | settleRefused held active grace probe =>
    obtain rfl := Option.some.inj he
    cases hr
    rw [probe, hi.origins.programme_id held]
    exact iff_of_false (hi.ledger.not_holds held rfl rfl) (by simp [Event.isProgrammeCommit])
  | @aborted s h id l result answer _ _ _ _ held probe =>
    obtain rfl := Option.some.inj he
    have hresult : result = r := by
      cases answer <;> simp_all [Event.failedCommit]
    rw [← hresult, probe, hi.origins.programme_id held]
    exact iff_of_false (hi.ledger.not_holds held rfl rfl) (by simp [Event.isProgrammeCommit])
  | released releases =>
    obtain rfl := Option.some.inj he
    revert hr
    exact Event.releases_elim releases (fun _ _ h => by cases h) fun _ _ _ h => by cases h
  | rejected rejects =>
    cases rejects <;> (obtain rfl := Option.some.inj he; cases hr)
  | lost =>
    obtain rfl := Option.some.inj he
    cases hr
  | _ => cases hκ

/-- Every reservation was consumed by a commit, belongs to an admitted probe, or was lost with a programme. -/
def Balance (c : Core) : Prop :=
  c.history.countP Event.reserves =
    (committed c.history).length + c.history.countP Event.losesProgramme + c.scheduler.active.size +
      c.scheduler.programmes.size

/-- What one more event and a change of the admitted probes do to the balance. -/
private theorem Balance.extend (h : Balance c) (e : Event) (hhistory : c'.history = e :: c.history)
    (hsizes : e.reserves.toNat + c.scheduler.active.size + c.scheduler.programmes.size =
      e.committedId.toList.length + e.losesProgramme.toNat + c'.scheduler.active.size +
        c'.scheduler.programmes.size) :
    Balance c' := by
  have hcommitted : (committed c'.history).length = e.committedId.toList.length +
    (committed c.history).length := by
    rw [hhistory, committed, List.filterMap_cons]
    cases e.committedId <;> simp [committed, Nat.add_comm]
  have hreserves : c'.history.countP Event.reserves = e.reserves.toNat + c.history.countP Event.reserves := by
    rw [hhistory, List.countP_cons]
    cases e.reserves <;> simp [Nat.add_comm]
  have hloses : c'.history.countP Event.losesProgramme =
      e.losesProgramme.toNat + c.history.countP Event.losesProgramme := by
    rw [hhistory, List.countP_cons]
    cases e.losesProgramme <;> simp [Nat.add_comm]
  unfold Balance at h ⊢
  omega

private theorem Balance.resize (h : Balance c) (hhistory : c'.history = c.history)
    (hactive : c'.scheduler.active.size = c.scheduler.active.size)
    (hprogrammes : c'.scheduler.programmes.size = c.scheduler.programmes.size) : Balance c' := by
  unfold Balance at h ⊢
  rw [hhistory, hactive, hprogrammes]
  exact h

private theorem Balance.inert (h : Balance c) (e : Event)
    (he : e.reserves = false ∧ e.committedId = none ∧ e.losesProgramme = false)
    (hhistory : c'.history = e :: c.history) (hactive : c'.scheduler.active.size = c.scheduler.active.size)
    (hprogrammes : c'.scheduler.programmes.size = c.scheduler.programmes.size) : Balance c' :=
  h.extend e hhistory (by simp [he, hactive, hprogrammes])

private theorem Balance.marked {h : List Event} (hb : Balance ⟨s, h, none⟩) (point : Point) (r : MutableReport) :
    Balance ⟨s, .reached point s r :: h, none⟩ := hb.inert _ ⟨rfl, rfl, rfl⟩ rfl rfl rfl

/-- A programme that leaves with its commit: the reservation is consumed, or it is lost. -/
private theorem Balance.dropProgramme {s' : ScanScheduler} {h : List Event} {actual reserved : Nat} {point : Point}
    {r : MutableReport} {result : ScanResult} {answer : Except SinkFailure Unit} (hb : Balance ⟨s, h, none⟩)
    (held : s.programmes.get? id = some l) (hactive : s'.active = s.active)
    (hprogrammes : s'.programmes = s.programmes.erase id) :
    Balance ⟨s', .commitReservedWithBytes result actual reserved answer :: .reached point s r :: h, none⟩ := by
  have hsize := size_erase held
  refine (hb.marked point r).extend _ rfl ?_
  cases answer <;>
    simp [Event.reserves, Event.committedId, Event.losesProgramme, Event.isProgrammeCommit, Event.failedCommit,
      hactive, hprogrammes] <;> omega

theorem Step.balance {κ : Kind} (h : Step κ c c') (hκ : κ ≠ .disposed) (hb : Balance c) : Balance c' := by
  cases h with
  | called neutral =>
    refine hb.inert _ ?_ rfl rfl rfl
    exact Event.neutral_elim neutral ⟨rfl, rfl, rfl⟩ (fun _ => ⟨rfl, rfl, rfl⟩) (fun _ => ⟨rfl, rfl, rfl⟩)
      fun _ _ _ _ => ⟨rfl, rfl, rfl⟩
  | resolved | stopInitiated | commitRefused | lost => exact hb.inert _ ⟨rfl, rfl, rfl⟩ rfl rfl rfl
  | sent held => exact hb.inert _ ⟨rfl, rfl, rfl⟩ rfl (size_insert_of_get? held) rfl
  | tallied _ held =>
    exact (hb.marked _ _).inert _ ⟨rfl, rfl, rfl⟩ rfl rfl (size_insert_of_get? held)
  | untallied => exact (hb.marked _ _).inert _ ⟨rfl, rfl, rfl⟩ rfl rfl rfl
  | released releases =>
    refine hb.inert _ ?_ rfl rfl rfl
    exact Event.releases_elim releases (fun _ _ => ⟨rfl, rfl, rfl⟩) fun _ _ _ => ⟨rfl, rfl, rfl⟩
  | closed => exact absurd rfl hκ
  | rejected rejects =>
    cases rejects with
    | unresolved | unreserved => exact hb.inert _ ⟨rfl, rfl, rfl⟩ rfl rfl rfl
  | expired kept held => exact hb.inert _ ⟨rfl, rfl, rfl⟩ rfl rfl (size_insert_of_get? held)
  | terminalized held =>
    refine hb.extend _ rfl ?_
    have hactive := size_erase held
    simp [Event.reserves, Event.committedId, Event.losesProgramme, Event.isProgrammeCommit]
    omega
  | admitted probe fresh =>
    refine hb.extend _ rfl ?_
    simp [Event.reserves, Event.committedId, Event.losesProgramme, Event.isProgrammeCommit, size_insert _ fresh]
    omega
  | opened probe planned active grace fresh =>
    refine hb.extend _ rfl ?_
    simp [Event.reserves, Event.committedId, Event.losesProgramme, Event.isProgrammeCommit, size_insert _ fresh,
      ScanScheduler.setProgramme]
    omega
  | restaged held => exact hb.resize rfl (size_insert_of_get? held) rfl
  | revised held | observed held | scheduled held | retired sent held | finished held =>
    exact hb.resize rfl rfl (size_insert_of_get? held)
  | settled held =>
    rw [pruneAdaptiveTargetState_eq]
    exact hb.dropProgramme held rfl rfl
  | settleRefused held | aborted held => exact hb.dropProgramme held rfl rfl
  | _ => exact hb.resize rfl rfl rfl

section Commits

variable [ProbeTransport τ] [ContextResolver ρ] [ResultSink σ]

/-- As long as a session is not closed, the reservations are in balance. -/
theorem Reachable.balance (h : Reachable w) (hopen : w.scheduler.lifecycle ≠ .closed) : Balance (w.core none) := by
  refine h.invariant (I := fun c => c.scheduler.lifecycle ≠ .closed → Balance c) (fun _ _ _ _ => rfl) ?_ hopen
  intro κ c c' hi hb hs hopen
  by_cases hκ : κ = .disposed
  · obtain ⟨s, h, -, -, rfl⟩ := hs.of_disposed hκ
    exact absurd rfl hopen
  · exact hs.balance hκ (hb fun hclosed => hopen (hs.absorbing hi.disposal hclosed))

omit [ProbeTransport τ] [ContextResolver ρ] in
private theorem close_releases (hopen : w.scheduler.lifecycle ≠ .closed) : Ends close w
    (fun _ w' => ∃ bytes, w'.history =
      .releaseReservedWithBytes w.scheduler.programmes.size bytes (.ok ()) ::
        .releaseReserved w.scheduler.active.size (.ok ()) :: w.history)
    (fun _ _ => True) := by
  simp only [close, ends_bind, ends_scheduler, ends_ite, ends_pure]
  refine ⟨fun hclosed => absurd hclosed hopen, fun _ => ?_⟩
  refine ends_releaseReserved (fun sink => ?_) (fun _ _ => trivial)
  rw [ends_ensure]
  refine ⟨fun bytes _ => ?_, fun _ => trivial⟩
  exact ends_releaseReservedWithBytes (fun sink => ⟨bytes, rfl⟩) (fun _ _ => trivial)

/-- A probe whose commit fails stays admitted exactly if it is a plain one; and a close that succeeds releases
exactly the reservations that the sink still holds if and only if the programmes lost to failed commits are as many
as the reservations that earlier closes have released without closing. -/
theorem failed_commit_keeps_work (h : Reachable w) :
    (∀ op e r, e ∈ w.added (perform op w) → e.failedCommit = some r →
      ((perform op w).scheduler.Holds r.probe.logicalId ↔ e.isProgrammeCommit = false)) ∧
    (w.scheduler.lifecycle ≠ .closed → Succeeds .close w →
      (((w.added (perform .close w)).map Event.released).sum = sinkHolds w.history ↔
        w.history.countP Event.losesProgramme = (w.history.map Event.released).sum)) := by
  refine ⟨fun op e r he hr => ?_, fun hopen hclose => ?_⟩
  · obtain ⟨added, hadded, hfail⟩ := perform_events op h.inv
    rw [Session.added_eq hadded] at he
    obtain ⟨c, error, -, -, hi, hstep, hhead⟩ := hfail e he (Event.kind_of_failedCommit hr)
    exact hstep.failedCommit hi hhead hr
  have hbalance := h.balance hopen
  obtain ⟨bytes, hhistory⟩ : ∃ bytes, (perform .close w).history =
      [.releaseReservedWithBytes w.scheduler.programmes.size bytes (.ok ()),
        .releaseReserved w.scheduler.active.size (.ok ())] ++ w.history := by
    have hends := close_releases hopen
    simp only [Succeeds, perform, Op.method] at hclose ⊢
    cases hm : close w with
    | ok a w' => exact hends.of_ok hm
    | error e w' =>
      rw [hm] at hclose
      exact hclose.elim
  rw [Session.added_eq hhistory]
  simp only [Balance, Session.core_history, Session.core_scheduler] at hbalance
  simp only [List.map_cons, List.map_nil, List.sum_cons, List.sum_nil, Event.released, sinkHolds]
  omega

end Commits

/-- A scan of a TCP port of a host; the first commit fails. -/
def uncommittedPort : ScanInputs := { onePort with sink := { commit := ⟨[.error ⟨7⟩], .ok ()⟩ } }

/-- The same with a UDP port that has two variants. -/
def uncommittedProgramme : ScanInputs := { uncommittedPort with definitions := oneProgramme }

theorem uncommittedProgramme_isSome : uncommittedProgramme.session.isSome = true := by decide +kernel

/-- The probe was sent, and its time is about to run out. -/
def uncommittedPortSession : ScriptedSession :=
  (uncommittedPort.session.get (by decide +kernel)).after [.start 0, .drive 1]

/-- Both requests have timed out, and their grace is about to end. -/
def uncommittedProgrammeSession : ScriptedSession :=
  (uncommittedProgramme.session.get uncommittedProgramme_isSome).after [.start 0, .drive 1, .drive 2000000]

/-- The commit of the probe has failed. -/
def keptPortSession : ScriptedSession := perform (.drive 2000000) uncommittedPortSession

/-- The commit of the programme has failed. -/
def lostProgrammeSession : ScriptedSession := perform (.drive 8000000) uncommittedProgrammeSession

theorem uncommittedPort_reachable : Reachable uncommittedPortSession := ScanInputs.reachable _ _

theorem keptPort_reachable : Reachable keptPortSession := uncommittedPort_reachable.after [.drive 2000000]

theorem failed_commit_keeps_work_uncommittedPort :
    (∃ e r, e ∈ uncommittedPortSession.added keptPortSession ∧ e.failedCommit = some r ∧
      keptPortSession.scheduler.Holds r.probe.logicalId) ∧
    sinkHolds keptPortSession.history = 1 ∧
    ((keptPortSession.added (perform .close keptPortSession)).map Event.released).sum =
      sinkHolds keptPortSession.history := by
  have hany : ((uncommittedPortSession.added keptPortSession).any fun e =>
      e.failedCommit.isSome && !e.isProgrammeCommit) = true := by decide +kernel
  obtain ⟨e, he, hr⟩ := List.any_eq_true.1 hany
  simp only [Bool.and_eq_true, Bool.not_eq_true', Option.isSome_iff_exists] at hr
  obtain ⟨⟨r, hr⟩, hplain⟩ := hr
  refine ⟨⟨e, r, he, hr, ((failed_commit_keeps_work uncommittedPort_reachable).1 _ e r he hr).2 hplain⟩,
    by decide +kernel, ?_⟩
  exact ((failed_commit_keeps_work keptPort_reachable).2 (by decide +kernel) (by decide +kernel)).2
    (by decide +kernel)

/-- The programme is gone although the sink still holds its reservation, and closing does not release it. -/
theorem failed_commit_loses_programme : Reachable uncommittedProgrammeSession ∧
    (∃ e ∈ uncommittedProgrammeSession.added lostProgrammeSession, e.failedCommit.isSome = true) ∧
    (∀ id, ¬ lostProgrammeSession.scheduler.Holds id) ∧ sinkHolds lostProgrammeSession.history = 1 ∧
    Succeeds .close lostProgrammeSession ∧
    ((lostProgrammeSession.added (perform .close lostProgrammeSession)).map Event.released).sum = 0 := by
  have hany : ((uncommittedProgrammeSession.added lostProgrammeSession).any fun e =>
      e.failedCommit.isSome) = true := by decide +kernel
  have hactive : lostProgrammeSession.scheduler.active.size = 0 := by decide +kernel
  have hprogrammes : lostProgrammeSession.scheduler.programmes.size = 0 := by decide +kernel
  refine ⟨ScanInputs.reachable _ _, List.any_eq_true.1 hany, fun id => ?_, by decide +kernel, by decide +kernel,
    by decide +kernel⟩
  simp [ScanScheduler.Holds, OrdMap.contains, OrdMap.get?_of_size_eq_zero hactive,
    OrdMap.get?_of_size_eq_zero hprogrammes]

end NodeNet.Engine
