import NodeNet.Engine.Failures
import NodeNet.Engine.Life

/-!
# Stopping

A stop is initiated at most once, and from then on a session only ends the probes that it holds.  The history
carries a mark with the state in which the stop was initiated, so that what follows can be compared with it.
-/

namespace NodeNet.Engine

open List OrdMap

/-- The event admits a probe, sends a frame, or initiates a stop. -/
def Event.starts : Event → Bool
  | emit _ _ => true
  | tryReserve (.ok .reserved) => true
  | tryReserveWithBytes _ (.ok .reserved) => true
  | reached (.stop _) _ _ => true
  | _ => false

def Event.commits : Event → Bool
  | commitReserved _ _ => true
  | commitReservedWithBytes _ _ _ _ => true
  | _ => false

/-- The logical ids of the programmes whose commit failed. -/
def lostProgrammes (history : List Event) : List Nat :=
  history.filterMap fun
    | .commitReservedWithBytes result _ _ (.error _) => some result.probe.logicalId
    | _ => none

variable {κ : Kind} {c c' : Core}

/-! ### Sessions that are not live -/

/-- Once a session was stopped or has ended there is no candidate in the hand. -/
theorem Disposal.hand_of_not_live (hd : Disposal c) (h : c.scheduler.lifecycle.live = false) : c.hand = none := by
  by_cases hc : c.scheduler.lifecycle = .closed
  · exact (hd.closed hc).hand
  · exact (hd.drained h hc).2.2

/-- Once a session has ended or is closed it holds no probe. -/
theorem Disposal.empty_of_ended (hd : Disposal c) (h : 2 ≤ c.scheduler.lifecycle.stage) :
    c.scheduler.active.size = 0 ∧ c.scheduler.programmes.size = 0 := by
  cases hl : c.scheduler.lifecycle with
  | completed | failed => exact hd.rest (by rw [hl]; rfl)
  | closed => exact ⟨(hd.closed hl).active, (hd.closed hl).programmes⟩
  | _ => simp [hl, SessionLifecycle.stage] at h

variable {e : Event}

/-- A step of a session that is not live admits nothing, sends nothing and initiates no stop. -/
theorem Step.starts_nothing (h : Step κ c c') (hi : Inv c) (hlive : c.scheduler.lifecycle.live = false) :
    ∃ added, c'.history = added ++ c.history ∧ ∀ e ∈ added, e.starts = false := by
  have hand : c.hand = none := hi.disposal.hand_of_not_live hlive
  cases h with
  | called neutral =>
    refine adds_one ?_ rfl
    refine Event.neutral_elim neutral rfl (fun _ => rfl) (fun _ => rfl) fun point _ _ hpoint => ?_
    cases point with
    | stop stop => exact absurd rfl (hpoint stop)
    | _ => rfl
  | released releases =>
    refine adds_one ?_ rfl
    exact Event.releases_elim releases (fun _ _ => rfl) fun _ _ _ => rfl
  | stopInitiated _ _ live =>
    rw [live] at hlive
    cases hlive
  | sent held clear =>
    rw [hi.disposal.live_of_active clear.1 held] at hlive
    cases hlive
  | tallied _ held _ clear | untallied _ held clear =>
    rw [hi.disposal.live_of_programme clear.1 held] at hlive
    cases hlive
  | admitted | opened | resolved | lost | rejected => cases hand
  | terminalized | commitRefused | expired => exact adds_one rfl rfl
  | settled | settleRefused | aborted => exact adds_two rfl rfl rfl
  | _ => exact adds_none rfl

/-- What a step does to the lifecycle of a session that is not live. -/
theorem Step.halts (h : Step κ c c') (hlive : c.scheduler.lifecycle.live = false) :
    (c'.scheduler.stop = c.scheduler.stop ∧ c'.scheduler.lifecycle = c.scheduler.lifecycle) ∨
      (∃ stop, c.scheduler.stop = some stop ∧ c'.scheduler.stop = none ∧
        c'.scheduler.lifecycle = stop.finalLifecycle) ∨
      κ = .disposed ∧ c'.scheduler.stop = none ∧ c'.scheduler.lifecycle = .closed := by
  cases h with
  | moved live | stopInitiated _ _ live =>
    rw [live] at hlive
    cases hlive
  | completed running =>
    rw [running] at hlive
    cases hlive
  | stopped pending => exact Or.inr (Or.inl ⟨_, pending, rfl, rfl⟩)
  | closed => exact Or.inr (Or.inr ⟨rfl, rfl, rfl⟩)
  | settled =>
    rw [pruneAdaptiveTargetState_eq]
    exact Or.inl ⟨rfl, rfl⟩
  | _ => exact Or.inl ⟨rfl, rfl⟩

/-- A step of a session that has ended or is closed commits nothing. -/
theorem Step.commits_nothing (h : Step κ c c') (hi : Inv c) (hended : 2 ≤ c.scheduler.lifecycle.stage) :
    ∃ added, c'.history = added ++ c.history ∧ ∀ e ∈ added, e.commits = false := by
  obtain ⟨hactive, hprogrammes⟩ := hi.disposal.empty_of_ended hended
  cases h with
  | called neutral =>
    refine adds_one ?_ rfl
    exact Event.neutral_elim neutral rfl (fun _ => rfl) (fun _ => rfl) fun _ _ _ _ => rfl
  | released releases =>
    refine adds_one ?_ rfl
    exact Event.releases_elim releases (fun _ _ => rfl) fun _ _ _ => rfl
  | stopInitiated | resolved | lost | admitted | opened => exact adds_one rfl rfl
  | sent held | terminalized held | commitRefused held => exact absurd held (get?_ne_some hactive)
  | tallied _ held | untallied _ held | expired _ held | settled held | settleRefused held | aborted held =>
    exact absurd held (get?_ne_some hprogrammes)
  | rejected rejects => cases rejects <;> exact adds_one rfl rfl
  | _ => exact adds_none rfl

/-! ### The mark of a stop -/

/-- Only the step that initiates a stop records one. -/
theorem Step.new_stop (h : Step κ c c') (he : e ∈ c'.history) (hstops : e.stops = true) :
    e ∈ c.history ∨ ∃ stop r, stop.Proper ∧ c.hand = none ∧
      c' = ⟨c.scheduler.stopping stop, .reached (.stop stop) c.scheduler r :: c.history, none⟩ := by
  have one : ∀ {e' : Event} {h : List Event}, e'.stops = false → e ∈ e' :: h → e ∈ h := by
    intro e' h he' he
    rcases mem_cons.1 he with rfl | he
    · rw [he'] at hstops
      cases hstops
    · exact he
  cases h with
  | stopInitiated stop r live proper => exact Or.inr ⟨stop, r, proper, rfl, rfl⟩
  | called neutral =>
    refine Or.inl (one ?_ he)
    refine Event.neutral_elim neutral rfl (fun _ => rfl) (fun _ => rfl) fun point _ _ hpoint => ?_
    cases point with
    | stop stop => exact absurd rfl (hpoint stop)
    | _ => rfl
  | released releases =>
    refine Or.inl (one ?_ he)
    exact Event.releases_elim releases (fun _ _ => rfl) fun _ _ _ => rfl
  | resolved | sent | terminalized | commitRefused | lost | admitted | opened | expired =>
    exact Or.inl (one rfl he)
  | settled | settleRefused | aborted | tallied | untallied => exact Or.inl (one rfl (one rfl he))
  | rejected rejects => cases rejects <;> exact Or.inl (one rfl he)
  | _ => exact Or.inl he

/-- What has become of a probe that was admitted when the stop was initiated; `after` is what was recorded since.
-/
def Disposed (id : Nat) (lifecycle : SessionLifecycle) (after : List Event) : Phase → Prop
  | .waiting => False
  | .plain _ => id ∉ committed after ∧ id ∉ lostProgrammes after
  | .programme _ => id ∉ committed after ∧ id ∉ lostProgrammes after
  | .gone => lifecycle = .closed ∨ (id ∈ committed after ↔ id ∉ lostProgrammes after)

/-- A stop was initiated in the state `s`; `after` is what was recorded since, and `before` what was recorded until
then. -/
structure Halting (c : Core) (stop : StopState) (s : ScanScheduler) (after before : List Event) : Prop where
  proper : stop.Proper
  state : c.scheduler.stop = some stop ∧ c.scheduler.lifecycle = .cancelling ∨
    c.scheduler.stop = none ∧ (c.scheduler.lifecycle = stop.finalLifecycle ∨ c.scheduler.lifecycle = .closed)
  quiet : ∀ e ∈ after, e.starts = false
  fresh : ∀ id, s.Holds id → id ∉ committed before
  held : ∀ id, s.Holds id → Disposed id c.scheduler.lifecycle after (c.phase id)

variable {s : ScanScheduler} {stop : StopState}

theorem Halting.not_live {after before : List Event} (h : Halting c stop s after before) :
    c.scheduler.lifecycle.live = false := by
  rcases h.state with ⟨-, hl⟩ | ⟨-, hl | hl⟩ <;> rw [hl]
  · rfl
  · exact SessionLifecycle.not_live_of_ended h.proper.final
  · rfl

/-! ### What becomes of a probe -/

section Probe

variable {id : Nat} {after added : List Event}

theorem committed_append (added after : List Event) : committed (added ++ after) = committed added ++
    committed after :=
  filterMap_append

theorem lostProgrammes_append (added after : List Event) :
    lostProgrammes (added ++ after) = lostProgrammes added ++ lostProgrammes after := filterMap_append

private theorem untouched_of_silent (h : ∀ e ∈ added, e.concerns id = false) :
    id ∉ committed added ∧ id ∉ lostProgrammes added := by
  constructor
  · intro hmem
    obtain ⟨e, he, hid⟩ := mem_filterMap.1 hmem
    have hconcerns := h e he
    unfold Event.committedId at hid
    split at hid <;> cases hid <;> simp [Event.concerns] at hconcerns
  intro hmem
  obtain ⟨e, he, hid⟩ := mem_filterMap.1 hmem
  have hconcerns := h e he
  split at hid <;> cases hid
  simp [Event.concerns] at hconcerns

private theorem untouched_append (h : id ∉ committed added ∧ id ∉ lostProgrammes added)
    (h' : id ∉ committed after ∧ id ∉ lostProgrammes after) :
    id ∉ committed (added ++ after) ∧ id ∉ lostProgrammes (added ++ after) := by
  rw [committed_append, lostProgrammes_append, mem_append, mem_append]
  tauto

/-- A turn of a probe that was admitted when the stop was initiated. -/
theorem Turn.disposed (h : Turn id κ c c') (hi : Inv c) (hadded : c'.history = added ++ c.history)
    (hclose : κ = .disposed → c'.scheduler.lifecycle = .closed)
    (hclosed : c.scheduler.lifecycle = .closed → c'.scheduler.lifecycle = .closed)
    (hd : Disposed id c.scheduler.lifecycle after (c.phase id)) :
    Disposed id c'.scheduler.lifecycle (added ++ after) (c'.phase id) := by
  have hsilent : Silent id c c' → id ∉ committed added ∧ id ∉ lostProgrammes added := by
    rintro ⟨added', hadded', hall⟩
    rw [append_cancel_right (hadded.symm.trans hadded')]
    exact untouched_of_silent hall
  have hnew : ∀ events, c'.history = events ++ c.history → added = events := fun events hevents =>
    append_cancel_right (hadded.symm.trans hevents)
  -- the newest event commits the result of the probe
  have hcommits : ∀ e events, c'.history = (e :: events) ++ c.history → e.committedId = some id →
      id ∉ lostProgrammes (e :: events) → id ∉ lostProgrammes after → c'.phase id = .gone →
      Disposed id c'.scheduler.lifecycle (added ++ after) (c'.phase id) := by
    intro e events hevents hid hkept hafter hgone
    rw [hgone, hnew _ hevents]
    refine Or.inr (iff_of_true ?_ ?_)
    · rw [committed_append, committed_cons_some hid]
      exact mem_cons_self ..
    · rw [lostProgrammes_append, mem_append]
      tauto
  cases h with
  | idle phase silent =>
    rw [phase]
    cases hp : c.phase id with
    | waiting =>
      rw [hp] at hd
      exact hd
    | plain a | programme l =>
      rw [hp] at hd
      exact untouched_append (hsilent silent) hd
    | gone =>
      rw [hp] at hd
      refine hd.imp hclosed fun hd => ?_
      obtain ⟨hcommitted, hlost⟩ := hsilent silent
      rw [committed_append, lostProgrammes_append, mem_append, mem_append]
      tauto
  | dropped after silent cause =>
    rcases cause with hwaiting | hdisposed
    · rw [hwaiting] at hd
      exact hd.elim
    · rw [after]
      exact Or.inl (hclose hdisposed)
  | admitted before | opened before =>
    rw [before] at hd
    exact hd.elim
  | restaged before after probe context transmissions history | observed before after clear history =>
    rw [before] at hd
    rw [after]
    exact untouched_append (hsilent (.same history)) hd
  | sent before after clear frame history =>
    rw [before] at hd
    rw [after, hnew [_] history]
    exact untouched_append (by simp [committed, lostProgrammes, Event.committedId]) hd
  | @terminalized a result before after reports history =>
    obtain ⟨now, terminal, rfl, -⟩ := reports
    have hnamed := hi.origins.active_id (Core.plain_of_phase before)
    rw [before] at hd
    exact hcommits _ [] history (congrArg some hnamed) not_mem_nil hd.2 after
  | revised before after revises keeps silent =>
    rw [before] at hd
    rw [after]
    exact untouched_append (hsilent silent) hd
  | tallied before after clear probe generation purpose counts history
  | untallied before after clear probe generation counts history =>
    rw [before] at hd
    rw [after, hnew [_, _] history]
    exact untouched_append (by simp [committed, lostProgrammes, Event.committedId]) hd
  | @settled l result actual r before after reports history =>
    obtain ⟨now, rfl⟩ := reports
    have hnamed := hi.origins.programme_id (Core.programme_of_phase before)
    rw [before] at hd
    exact hcommits _ [_] history (congrArg some hnamed) not_mem_nil hd.2 after
  | @aborted l result r before after reports history =>
    obtain ⟨now, outcome, reason, rfl, -⟩ := reports
    have hnamed := hi.origins.programme_id (Core.programme_of_phase before)
    rw [before] at hd
    exact hcommits _ [_] history (congrArg some hnamed) not_mem_nil hd.2 after
  | lost before after probe history =>
    rw [before] at hd
    rw [after, hnew [_, _] history]
    refine Or.inr (iff_of_false ?_ (not_not.2 (mem_cons.2 (Or.inl probe.symm))))
    rw [committed_append]
    simpa [committed, Event.committedId] using hd.1

end Probe

/-! ### Runs -/

/-- Every step of a session that is being stopped, or was, keeps to the stop. -/
theorem Halting.step {after before added : List Event} (h : Step κ c c') (hi : Inv c)
    (hc : Halting c stop s after before) (hadded : c'.history = added ++ c.history) :
    Halting c' stop s (added ++ after) before := by
  have hlive := hc.not_live
  have hstate : c'.scheduler.stop = some stop ∧ c'.scheduler.lifecycle = .cancelling ∨
      c'.scheduler.stop = none ∧ (c'.scheduler.lifecycle = stop.finalLifecycle ∨
        c'.scheduler.lifecycle = .closed) := by
    rcases h.halts hlive with ⟨hstop, hlifecycle⟩ | ⟨stop', hstop, hnone, hfinal⟩ | ⟨-, hnone, hclosed⟩
    · rw [hstop, hlifecycle]
      exact hc.state
    · rcases hc.state with ⟨hpending, -⟩ | ⟨hnone', -⟩
      · rw [hpending, Option.some.injEq] at hstop
        exact Or.inr ⟨hnone, Or.inl (hstop ▸ hfinal)⟩
      · rw [hnone'] at hstop
        cases hstop
    · exact Or.inr ⟨hnone, Or.inr hclosed⟩
  refine ⟨hc.proper, hstate, fun e he => ?_, hc.fresh, fun id hid => ?_⟩
  · obtain ⟨added', hadded', hquiet⟩ := h.starts_nothing hi hlive
    rw [append_cancel_right (hadded.symm.trans hadded')] at he
    rcases mem_append.1 he with he | he
    · exact hquiet e he
    · exact hc.quiet e he
  refine (h.turn hi id).disposed hi hadded (fun hκ => ?_) (fun hclosed => h.absorbing hi.disposal hclosed)
    (hc.held id hid)
  obtain ⟨s, history, -, -, rfl⟩ := h.of_disposed hκ
  rfl

/-- When a stop is initiated, nothing has become of the probes that are admitted. -/
theorem Halting.begin {history : List Event} {r : MutableReport} (hi : Inv ⟨s, history, none⟩)
    (proper : stop.Proper) :
    Halting ⟨s.stopping stop, .reached (.stop stop) s r :: history, none⟩ stop s [] history := by
  set c : Core := ⟨s.stopping stop, .reached (.stop stop) s r :: history, none⟩
  have hheld : ∀ id, s.Holds id → id ∉ committed history ∧ Disposed id .cancelling [] (c.phase id) := by
    intro id hid
    rcases hid with ha | hl
    · obtain ⟨a, ha⟩ := Option.isSome_iff_exists.1 ha
      rw [Core.phase_plain (c := c) ha]
      exact ⟨(hi.ledger.only_active ha).2.1, not_mem_nil, not_mem_nil⟩
    · obtain ⟨l, hl⟩ := Option.isSome_iff_exists.1 hl
      rw [Core.phase_programme (c := c) (hi.ledger.only_programme hl).1 hl]
      exact ⟨(hi.ledger.only_programme hl).2.1, not_mem_nil, not_mem_nil⟩
  exact ⟨proper, Or.inl ⟨rfl, rfl⟩, fun _ h => (by cases h), fun id hid => (hheld id hid).1, fun id hid =>
    (hheld id hid).2⟩

/-- Every stop that was ever initiated is the one that the session keeps to. -/
def StopKept (c : Core) : Prop :=
  ∀ {after stop s r before}, c.history = after ++ .reached (.stop stop) s r :: before →
    Halting c stop s after before

private theorem Event.of_stops (h : e.stops = true) : ∃ stop s r, e = .reached (.stop stop) s r := by
  cases e with
  | reached point s r =>
    cases point with
    | stop stop => exact ⟨stop, s, r, rfl⟩
    | _ => cases h
  | _ => cases h

theorem StopKept.unstopped (h : StopKept c) (hlive : c.scheduler.lifecycle.live = true) :
    ∀ e ∈ c.history, e.stops = false := by
  intro e he
  by_contra hstops
  obtain ⟨stop, s, r, rfl⟩ := Event.of_stops (Bool.eq_true_of_not_eq_false hstops)
  obtain ⟨after, before, hsplit⟩ := append_of_mem he
  rw [(h hsplit).not_live] at hlive
  cases hlive

theorem Step.stopKept (h : Step κ c c') (hi : Inv c) (hc : StopKept c) : StopKept c' := by
  intro after stop s r before hhistory
  by_cases hlive : c.scheduler.lifecycle.live = true
  · -- no stop was initiated before, so the mark is new
    have hnone := hc.unstopped hlive
    have hmark : .reached (.stop stop) s r ∈ c'.history := by
      rw [hhistory]
      exact mem_append_right _ (mem_cons_self ..)
    rcases h.new_stop hmark rfl with hold | ⟨stop', r', proper, hhand, rfl⟩
    · cases hnone _ hold
    cases after with
    | nil =>
      simp only [nil_append, List.cons.injEq, Event.reached.injEq, Point.stop.injEq] at hhistory
      obtain ⟨⟨rfl, rfl, rfl⟩, rfl⟩ := hhistory
      obtain ⟨scheduler, history, hand⟩ := c
      subst hhand
      exact Halting.begin hi proper
    | cons e after =>
      have hold : .reached (.stop stop) s r ∈ c.history := by
        rw [(List.cons.inj hhistory).2]
        exact mem_append_right _ (mem_cons_self ..)
      cases hnone _ hold
  obtain ⟨added, hadded, hquiet⟩ := h.starts_nothing hi (Bool.eq_false_of_not_eq_true hlive)
  rcases append_eq_append_iff.1 (hadded.symm.trans hhistory) with ⟨rest, rfl, hsplit⟩ | ⟨rest, hrest, hsplit⟩
  · exact (hc hsplit).step h hi hadded
  cases rest with
  | nil =>
    rw [append_nil] at hrest
    subst hrest
    have hold := Halting.step h hi (@hc [] _ _ _ _ hsplit.symm) hadded
    rwa [append_nil] at hold
  | cons e rest =>
    have hnew : .reached (.stop stop) s r ∈ added := by
      rw [hrest, ← (List.cons.inj hsplit).1]
      exact mem_append_right _ (mem_cons_self ..)
    cases hquiet _ hnew

section Runs

variable {τ ρ σ : Type} [ProbeTransport τ] [ContextResolver ρ] [ResultSink σ] {w : Session τ ρ σ}

theorem Reachable.stopKept (h : Reachable w) : StopKept (w.core none) :=
  h.invariant (I := fun c => StopKept c) (fun _ _ _ {after _ _ _ _} hhistory => by cases after <;> cases hhistory)
    fun _ _ _ hi hc hs => hs.stopKept hi hc

/-- A probe that was admitted when a stop was initiated is committed once when the stop is carried out, unless its
commit failed. -/
private theorem Halting.committed_iff {c : Core} {stop : StopState} {s : ScanScheduler} {after before : List Event}
    {r : MutableReport} (h : Halting c stop s after before) (hi : Inv c)
    (hhistory : c.history = after ++ .reached (.stop stop) s r :: before)
    (hfinal : c.scheduler.lifecycle = stop.finalLifecycle) {id : Nat} (hid : s.Holds id) :
    (committed c.history).count id = 1 ∧ id ∈ committed after ↔ id ∉ lostProgrammes after := by
  have hended : c.scheduler.lifecycle.ended = true := hfinal ▸ h.proper.final
  obtain ⟨hactive, hprogrammes⟩ := hi.disposal.rest hended
  have hdisposed := h.held id hid
  have hiff : id ∈ committed after ↔ id ∉ lostProgrammes after := by
    cases hp : c.phase id with
    | waiting =>
      rw [hp] at hdisposed
      exact hdisposed.elim
    | plain a => exact absurd (Core.plain_of_phase hp) (get?_ne_some hactive)
    | programme l => exact absurd (Core.programme_of_phase hp) (get?_ne_some hprogrammes)
    | gone =>
      rw [hp] at hdisposed
      exact hdisposed.resolve_left (SessionLifecycle.alive_of_ended hended)
  refine ⟨fun hc => hiff.1 hc.2, fun hlost => ⟨?_, hiff.2 hlost⟩⟩
  have hmem : id ∈ committed c.history := by
    rw [hhistory, committed_append]
    exact mem_append_left _ (hiff.2 hlost)
  have hunique := hi.ledger.unique id
  have hpos := List.count_pos_iff.2 hmem
  unfold Core.holders at hunique
  omega

private theorem ended_stage {lifecycle : SessionLifecycle}
    (h : lifecycle = .completed ∨ lifecycle = .failed ∨ lifecycle = .closed) : 2 ≤ lifecycle.stage := by
  rcases h with rfl | rfl | rfl <;> decide

/-- A session that has ended is not live, and no stop is pending: that would still be cancelling it. -/
private theorem Inv.ended {c : Core} (hi : Inv c) (h : 2 ≤ c.scheduler.lifecycle.stage) :
    c.scheduler.lifecycle.live = false ∧ c.scheduler.stop = none := by
  constructor
  · by_contra hlive
    rw [SessionLifecycle.stage_eq_zero.2 (Bool.eq_true_of_not_eq_false hlive)] at h
    omega
  · by_contra hstop
    rw [hi.disposal.stopping (Option.isSome_iff_ne_none.2 hstop)] at h
    simp [SessionLifecycle.stage] at h

private theorem perform_rests (op : Op) (hi : w.Inv) (hended : 2 ≤ w.scheduler.lifecycle.stage) :
    ∃ added, (perform op w).history = added ++ w.history ∧ ∀ e ∈ added, e.starts = false ∧ e.commits = false := by
  refine (perform_invariant (I := fun c => 2 ≤ c.scheduler.lifecycle.stage ∧
    ∃ added, c.history = added ++ w.history ∧ ∀ e ∈ added, e.starts = false ∧ e.commits = false) op hi
    ⟨hended, [], rfl, fun _ h => by cases h⟩ ?_).2
  rintro κ c c' hi ⟨hended, added, hadded, hall⟩ hs
  obtain ⟨more, hmore, hstarts⟩ := hs.starts_nothing hi (hi.ended hended).1
  obtain ⟨more', hmore', hcommits⟩ := hs.commits_nothing hi hended
  obtain rfl := append_cancel_right (hmore.symm.trans hmore')
  refine ⟨hended.trans (hs.stage_le hi.disposal), more ++ added, by rw [hmore, hadded, append_assoc],
    fun e he => ?_⟩
  rcases mem_append.1 he with he | he
  · exact ⟨hstarts e he, hcommits e he⟩
  · exact hall e he

private theorem perform_lifecycle (op : Op) (hi : w.Inv) (hended : 2 ≤ w.scheduler.lifecycle.stage) :
    (perform op w).scheduler.lifecycle = w.scheduler.lifecycle ∨
      op = .close ∧ (perform op w).scheduler.lifecycle = .closed := by
  refine perform_invariant_of (I := fun c => c.scheduler.lifecycle = w.scheduler.lifecycle ∨
    op = .close ∧ c.scheduler.lifecycle = .closed) op hi (Or.inl rfl) ?_
  intro κ c c' hκ hi hc hs
  have hended : 2 ≤ c.scheduler.lifecycle.stage := by
    rcases hc with hc | ⟨-, hc⟩ <;> rw [hc]
    · exact hended
    · decide
  obtain ⟨hlive, hnone⟩ := hi.ended hended
  rcases hs.halts hlive with ⟨-, hsame⟩ | ⟨stop, hstop, -⟩ | ⟨hdisposed, -, hclosed⟩
  · rwa [hsame]
  · cases hnone.symm.trans hstop
  · exact Or.inr ⟨hκ hdisposed, hclosed⟩

/-- The first stop wins: once it was initiated in a state `s`, the session keeps to it, and admits nothing, sends
nothing and initiates no other stop; and when it is carried out, a probe that was admitted in `s` has been
committed since, and once, exactly if it is not a programme whose commit failed.  A session that has ended sends
and commits nothing, and only closing it changes its lifecycle. -/
theorem stop_is_final (h : Reachable w) :
    (∀ after stop s r before, w.history = after ++ .reached (.stop stop) s r :: before →
      (w.scheduler.stop = some stop ∧ w.scheduler.lifecycle = .cancelling ∨
        w.scheduler.stop = none ∧ (w.scheduler.lifecycle = stop.finalLifecycle ∨
          w.scheduler.lifecycle = .closed)) ∧
      (∀ e ∈ after, e.starts = false) ∧
      (w.scheduler.lifecycle = stop.finalLifecycle → ∀ id, s.Holds id →
        ((committed w.history).count id = 1 ∧ id ∈ committed after ↔ id ∉ lostProgrammes after))) ∧
    (w.scheduler.lifecycle = .completed ∨ w.scheduler.lifecycle = .failed ∨ w.scheduler.lifecycle = .closed → ∀ op,
      (∀ e ∈ w.added (perform op w), e.starts = false ∧ e.commits = false) ∧
      ((perform op w).scheduler.lifecycle = w.scheduler.lifecycle ∨
        op = .close ∧ (perform op w).scheduler.lifecycle = .closed)) := by
  refine ⟨fun after stop s r before hhistory => ?_, fun hended op => ?_⟩
  · have hhalting : Halting (w.core none) stop s after before := h.stopKept hhistory
    exact ⟨hhalting.state, hhalting.quiet, fun hfinal id hid => hhalting.committed_iff h.inv hhistory hfinal hid⟩
  have hstage := ended_stage hended
  obtain ⟨added, hadded, hall⟩ := perform_rests op h.inv hstage
  rw [Session.added_eq hadded]
  exact ⟨hall, perform_lifecycle op h.inv hstage⟩

end Runs

/-! ### A cancelled scan -/

/-- The mark of a stop that was initiated while the probe was admitted. -/
def Event.stopsHolding (id : Nat) : Event → Bool
  | reached (.stop _) s _ => s.active.contains id || s.programmes.contains id
  | _ => false

theorem Event.of_stopsHolding {id : Nat} (h : e.stopsHolding id = true) :
    ∃ stop s r, e = .reached (.stop stop) s r ∧ s.Holds id := by
  cases e with
  | reached point s r =>
    cases point with
    | stop stop => exact ⟨stop, s, r, rfl, by simpa [stopsHolding, ScanScheduler.Holds] using h⟩
    | _ => cases h
  | _ => cases h

/-- A scan of a TCP port of a host is cancelled while its probe is under way. -/
def cancelledPortSession : ScriptedSession :=
  (onePort.session.get (by decide +kernel)).after [.start 0, .drive 1, .cancel 2]

/-- A scan of a UDP port with two variants is cancelled while its requests are under way; the commit of the
programme fails, and the next drive carries the stop out. -/
def cancelledProgrammeSession : ScriptedSession :=
  (uncommittedProgramme.session.get uncommittedProgramme_isSome).after [.start 0, .drive 1, .cancel 2, .drive 3]

theorem cancelledPort_reachable : Reachable cancelledPortSession := ScanInputs.reachable _ _

theorem stop_is_final_cancelledPort :
    cancelledPortSession.scheduler.lifecycle = .completed ∧
    (∃ after stop s r before, cancelledPortSession.history = after ++ .reached (.stop stop) s r :: before ∧
      s.Holds 0 ∧ (∀ e ∈ after, e.starts = false) ∧
      cancelledPortSession.scheduler.stop = none) ∧
    ∀ e ∈ cancelledPortSession.added (perform (.drive 3) cancelledPortSession), e.starts = false ∧
    e.commits = false := by
  have hcompleted : cancelledPortSession.scheduler.lifecycle = .completed := by decide +kernel
  have hmark : cancelledPortSession.history.any (Event.stopsHolding 0) = true := by decide +kernel
  obtain ⟨e, he, hstops⟩ := any_eq_true.1 hmark
  obtain ⟨stop, s, r, rfl, hholds⟩ := Event.of_stopsHolding hstops
  obtain ⟨after, before, hsplit⟩ := append_of_mem he
  obtain ⟨hstate, hquiet, -⟩ := (stop_is_final cancelledPort_reachable).1 after stop s r before hsplit
  refine ⟨hcompleted, ⟨after, stop, s, r, before, hsplit, hholds, hquiet, ?_⟩,
    ((stop_is_final cancelledPort_reachable).2 (Or.inl hcompleted) (.drive 3)).1⟩
  rcases hstate with ⟨-, hcancelling⟩ | ⟨hnone, -⟩
  · rw [hcompleted] at hcancelling
    cases hcancelling
  · exact hnone

/-- The programme was admitted when the scan was cancelled, and the scan is completed without a result for it. -/
theorem cancelled_programme_uncommitted : Reachable cancelledProgrammeSession ∧
    (∃ e ∈ cancelledProgrammeSession.history, e.stopsHolding 0 = true) ∧
    cancelledProgrammeSession.scheduler.lifecycle = .completed ∧ committed cancelledProgrammeSession.history =
    [] := by
  have hmark : cancelledProgrammeSession.history.any (Event.stopsHolding 0) = true := by decide +kernel
  exact ⟨ScanInputs.reachable _ _, any_eq_true.1 hmark, by decide +kernel, by decide +kernel⟩

end NodeNet.Engine
