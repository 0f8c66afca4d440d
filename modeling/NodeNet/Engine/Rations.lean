import NodeNet.Engine.Effects

/-!
# Rationing

`Rationed now` says that a method at `now` does not let the frames that were sent and the allowance grow together,
except by a reservation of the sink, and that every frame is paid for with a token.  The relation is lenient, so
every method that does not transmit is rationed.

A frame whose deadline lies beyond the clock is sent but not counted, and a reset frame whose result the sink
refuses leaves its probe where it was.  The relation leaves the first out of account (`misfits`) and counts the
second (`refusals`).
-/

namespace NodeNet.Engine

open ScanScheduler

variable {e : Event}

variable {τ ρ σ α β : Type} {now : Nat} {w w' w'' : Session τ ρ σ}

def Session.Sends (w w' : Session τ ρ σ) (e : ProbeEmission) : Prop :=
  ∃ answer newer older, w'.history = newer ++ .emit e answer :: older ∧ w.history <:+ older

/-- The frame, sent at `now`, starts the wait: its deadline is the timeout of some estimator after so many frames.
-/
structure ProbeEmission.Starts (e : ProbeEmission) (config : SchedulerConfig) (now : Nat) (x : Wait) : Prop where
  probeId : e.probeId = x.key
  purpose : e.purpose = x.purpose
  transmission : e.transmission = x.transmissions
  deadline : ∃ (s : ScanScheduler) (timeout : Nat), s.config = config ∧
    s.timeoutFor (x.transmissions - 1) = .ok timeout ∧ x.deadline = now + timeout

/-- The frames sent and the allowance do not grow together, except by reservations and refusals and up to a debt, a
token is missing for every frame, and what is waited for is waited for before or since a frame. -/
structure Spares (now : Nat) (debt : Nat → FrameKind → Nat) (w w' : Session τ ρ σ) : Prop where
  config : w'.scheduler.config = w.scheduler.config
  orderly : w'.scheduler.Orderly
  created : w'.scheduler.lifecycle = .created → w.scheduler.lifecycle = .created
  history : w.history <:+ w'.history
  pace : w'.scheduler.pace = w.scheduler.pace
  filled : (w'.scheduler.bucket = w.scheduler.bucket ∧ frames w'.history = frames w.history) ∨
    (w.scheduler.FilledBy now ∧ w'.scheduler.FilledAt now)
  tokens : frames w'.history * tokenScale + w'.scheduler.tokens now ≤
    frames w.history * tokenScale + w.scheduler.tokens now
  waits : ∀ x, w'.scheduler.Waits x → w.scheduler.Waits x ∨ ∃ e, w.Sends w' e ∧ e.Starts w.scheduler.config now x
  allowance : misfits w.scheduler.config now w'.history = misfits w.scheduler.config now w.history → ∀ key kind,
    sent key kind w'.history + w'.scheduler.allowance key kind +
        reservations key w.history * kind.full w.scheduler.config.maxRetransmissions + refusals key w.history ≤
      sent key kind w.history + w.scheduler.allowance key kind +
        reservations key w'.history * kind.full w.scheduler.config.maxRetransmissions + refusals key w'.history +
        debt key kind

/-- A session in order spares what it has. -/
def Rationed (now : Nat) (w w' : Session τ ρ σ) : Prop := w.scheduler.Orderly → Spares now (fun _ _ => 0) w w'

theorem Session.Sends.later {e : ProbeEmission} (h : w.Sends w' e) (hhistory : w'.history <:+ w''.history) :
    w.Sends w'' e := by
  obtain ⟨answer, newer, older, hsplit, hbefore⟩ := h
  obtain ⟨newest, hnewest⟩ := hhistory
  exact ⟨answer, newest ++ newer, older, by rw [← hnewest, hsplit, List.append_assoc], hbefore⟩

theorem Session.Sends.earlier {e : ProbeEmission} (hhistory : w.history <:+ w'.history) (h : w'.Sends w'' e) :
    w.Sends w'' e := by
  obtain ⟨answer, newer, older, hsplit, hbefore⟩ := h
  exact ⟨answer, newer, older, hsplit, hhistory.trans hbefore⟩

theorem Spares.trans {debt debt' : Nat → FrameKind → Nat} (h : Spares now debt w w')
    (h' : Spares now debt' w' w'') : Spares now (fun key kind => debt key kind + debt' key kind) w w'' := by
  refine ⟨h'.config.trans h.config, h'.orderly, h.created ∘ h'.created, h.history.trans h'.history,
    h'.pace.trans h.pace, ?_, h'.tokens.trans h.tokens, fun x hx => ?_, fun hfits key kind => ?_⟩
  · rcases h.filled with ⟨hbucket, hframes⟩ | ⟨hby, hat⟩
    · rcases h'.filled with ⟨hbucket', hframes'⟩ | ⟨⟨b, hb, hlast⟩, hat'⟩
      · exact Or.inl ⟨hbucket'.trans hbucket, hframes'.trans hframes⟩
      · exact Or.inr ⟨⟨b, hbucket ▸ hb, hlast⟩, hat'⟩
    rcases h'.filled with ⟨hbucket', -⟩ | ⟨-, hat'⟩
    · obtain ⟨b, hb, hlast⟩ := hat
      exact Or.inr ⟨hby, b, hbucket'.trans hb, hlast⟩
    · exact Or.inr ⟨hby, hat'⟩
  · rcases h'.waits x hx with hx | ⟨e, hsends, hstarts⟩
    · exact (h.waits x hx).imp_right fun ⟨e, hsends, hstarts⟩ => ⟨e, hsends.later h'.history, hstarts⟩
    · exact Or.inr ⟨e, .earlier h.history hsends, h.config ▸ hstarts⟩
  -- no frame without a deadline in the whole means none in either part
  have hle : misfits w.scheduler.config now w.history ≤ misfits w.scheduler.config now w'.history :=
    countP_le_of_suffix h.history
  have hle' : misfits w.scheduler.config now w'.history ≤ misfits w.scheduler.config now w''.history :=
    countP_le_of_suffix h'.history
  have hfirst := h.allowance (by omega) key kind
  have hsecond := h'.allowance (by rw [h.config]; omega) key kind
  rw [h.config] at hsecond
  omega

theorem Rationed.refl (w : Session τ ρ σ) : Rationed now w w := fun ho =>
  ⟨rfl, ho, id, List.suffix_refl _, rfl, Or.inl ⟨rfl, rfl⟩, le_refl _, fun _ => Or.inl, fun _ _ _ => le_refl _⟩

theorem Rationed.trans (h : Rationed now w w') (h' : Rationed now w' w'') : Rationed now w w'' := fun ho =>
  (h ho).trans (h' (h ho).orderly)

theorem Rationed.of_thinner (hscheduler : w.scheduler.Orderly → w.scheduler.Thinner w'.scheduler)
    (hhistory : w'.history = w.history) : Rationed now w w' := by
  intro ho
  have hthin := hscheduler ho
  refine ⟨hthin.config, hthin.orderly, hthin.created, by rw [hhistory], ?_,
    Or.inl ⟨hthin.bucket, by rw [hhistory]⟩, ?_, fun x hx => Or.inl (hthin.waits x hx), fun _ key kind => ?_⟩
  · rw [pace, pace, hthin.bucket]
  · rw [hhistory, tokens, tokens, hthin.bucket]
  have := hthin.allowance key kind
  rw [hhistory]
  omega

theorem Rationed.event (he : e.emits = false) (hhistory : w'.history = e :: w.history)
    (hscheduler : w'.scheduler = w.scheduler) : Rationed now w w' := by
  intro ho
  rw [← hscheduler] at ho
  refine ⟨by rw [hscheduler], ho, by rw [hscheduler]; exact id, by rw [hhistory]; exact List.suffix_cons .., ?_,
    Or.inl ⟨by rw [hscheduler], by rw [hhistory, frames_cons_of_not he]⟩,
      ?_, by rw [hscheduler]; exact fun _ => Or.inl,
    fun _ key kind => ?_⟩
  · rw [hscheduler]
  · rw [hhistory, frames_cons_of_not he, hscheduler]
  have hreservations : reservations key w.history ≤ reservations key (e :: w.history) := successions_le_cons ..
  have hrefusals : refusals key w.history ≤ refusals key (e :: w.history) := successions_le_cons ..
  have hmul := Nat.mul_le_mul_right (kind.full w.scheduler.config.maxRetransmissions) hreservations
  rw [hhistory, sent_cons_of_not he, hscheduler]
  omega

/-- The same relation, at whatever cost. -/
def Rationing (now : Nat) (_ : Nat) : Session τ ρ σ → Session τ ρ σ → Prop := Rationed now

instance : Lenient (Rationing (τ := τ) (ρ := ρ) (σ := σ) now) where
  refl := Rationed.refl
  trans := Rationed.trans
  mono _ h := h
  update hthin _ := .of_thinner hthin rfl
  charge _ _ _ _ := .of_thinner (fun ho => .of_same ho rfl) rfl
  event _ he hhistory hscheduler _ := .event he hhistory hscheduler

/-- The method is rationed, from whatever session it starts. -/
abbrev Rations (now : Nat) (m : Method τ ρ σ α) : Prop := Within (Rationing now 0) m

variable {m : Method τ ρ σ α} {n : Nat}

/-- A method that does not transmit is rationed, whatever it costs. -/
theorem rations_of (h : Within (Rationing now n) m) : Rations now m := h

theorem forM_rations {g : Nat → Method τ ρ σ Unit} (hg : ∀ i, Within (Rationing now n) (g i)) (l : List Nat) :
    Rations now (forM l g) := rations_of (Within.forM hg l)

/-- Started in `w₁`, the method ends in a session that is rationed from `w`. -/
abbrev RationsFrom (now : Nat) (w w₁ : Session τ ρ σ) (m : Method τ ρ σ α) : Prop :=
  Ends m w₁ (fun _ w' => Rationing now 0 w w') (fun _ w' => Rationing now 0 w w')

/-- What a method leaves, once more from the session before. -/
theorem Ends.rationed {w₁ : Session τ ρ σ} (h : Rationed now w w₁) (hm : Rations now m) :
    RationsFrom now w w₁ m := hm.after h

theorem update_rations {f : ScanScheduler → ScanScheduler}
    (hf : ∀ s : ScanScheduler, s.Orderly → s.Thinner (f s)) :
    Rations now (update f : Method τ ρ σ Unit) := fun w => Rationed.of_thinner (hf w.scheduler) rfl

variable {t : Nat}

theorem charge_rations {e r : Nat} : Rations now (charge t e r : Method τ ρ σ Unit) := rations_of charge_within

theorem charge_last {e r : Nat} {a : α} : Rations now (charge t e r >>= fun _ => pure a : Method τ ρ σ α) :=
  charge_rations.first fun _ => pure_within

theorem freshReport_rations : Rations now (freshReport : Method τ ρ σ Unit) := fun _ =>
  Rationed.of_thinner (fun ho => .of_same ho rfl) rfl

theorem record_rations (he : e.emits = false) : Rations now (record e : Method τ ρ σ Unit) := fun _ =>
  Rationed.event he rfl rfl

theorem reach_rations {point : Point} : Rations now (reach point : Method τ ρ σ Unit) := fun _ =>
  Rationed.event rfl rfl rfl

theorem whenever_rations {c : ScanScheduler → Bool} {m : Method τ ρ σ Unit} (h : Rations now m) :
    Rations now (whenever c m) :=
  scheduler_within.first fun _ => Within.ite (fun _ => h) (fun _ => pure_within)

variable {id : Nat}

/-! ### Tokens -/

theorem Rationed.bucket {b b' : TokenBucket} {debt : Nat} (hbucket : w.scheduler.bucket = some b)
    (hlevel : b'.level now + debt ≤ b.level now) (hrate : b'.ratePerSecond = b.ratePerSecond)
    (hcapacity : b'.capacityScaled = b.capacityScaled)
    (hfilled : b' = b ∨ (b.lastRefill ≤ now ∧ b'.lastRefill = now))
    (hw' : w' = { w with scheduler := { w.scheduler with bucket := some b' } }) :
    Rationed now w w' ∧ w'.scheduler.tokens now + debt ≤ w.scheduler.tokens now := by
  have htokens : w'.scheduler.tokens now + debt ≤ w.scheduler.tokens now := by
    simp only [tokens, hw', hbucket]
    exact hlevel
  refine ⟨fun ho => ?_, htokens⟩
  subst hw'
  refine ⟨rfl, ⟨ho.config, ho.stop, ho.active, ho.physical⟩, id, List.suffix_refl _, ?_, ?_, ?_, fun _ => Or.inl,
    fun _ _ _ => le_refl _⟩
  · simp only [pace, hbucket, Option.map_some, hrate, hcapacity]
  · rcases hfilled with rfl | ⟨hby, hat⟩
    · exact Or.inl ⟨hbucket.symm, rfl⟩
    · exact Or.inr ⟨⟨b, hbucket, hby⟩, b', rfl, hat⟩
  · exact Nat.add_le_add_left (le_trans (Nat.le_add_right ..) htokens) _

theorem nextReady_rations : Rations now (nextReady now : Method τ ρ σ Nat) := by
  intro w
  rw [nextReady, ends_bind, ends_scheduler, ends_bind, ends_ensure]
  refine ⟨fun b hb => ?_, fun _ => Rationed.refl w⟩
  obtain ⟨hlevel, hrate, hcapacity, hfilled⟩ := TokenBucket.nextReady_level b now
  rw [ends_bind, ends_update]
  have hnothing : (b.nextReady now).2.level now + 0 ≤ b.level now := hlevel
  exact Ends.rationed (Rationed.bucket hb hnothing hrate hcapacity hfilled rfl).1 lift_within

/-! ### Timeouts and scheduling -/

theorem scheduleProgrammeVariants_rations : Rations now (scheduleProgrammeVariants t : Method τ ρ σ Unit) :=
  scheduler_within.first fun _ => remaining_within.first fun _ => rations_of scheduleLoop_within

theorem observeNow_rations : Rations now (observeNow t : Method τ ρ σ Unit) :=
  scheduler_within.first fun _ => Within.ite (fun _ => fail_within) (fun _ => update_within_of_same fun _ => rfl)

theorem pruneGrace_rations : Rations now (pruneGrace t : Method τ ρ σ Unit) := update_within_of_same fun _ => rfl

theorem completeIfFinished_rations : Rations now (completeIfFinished : Method τ ρ σ Unit) :=
  whenever_rations (update_rations fun s ho => .move ho (fun h => by cases h) (by simp) ho.stop)

theorem initiateStop_rations {stop : StopState} (hfinal : stop.finalLifecycle.live = false) :
    Rations now (initiateStop stop : Method τ ρ σ Unit) :=
  reach_rations.first fun _ => update_rations fun _ ho => .stopping ho hfinal

/-! ### Settlement and stopping -/

section Settlement

variable [ResultSink σ]

variable {id t : Nat}

theorem settleReadyProgrammes_rations : Rations now (settleReadyProgrammes t : Method τ ρ σ Unit) :=
  scheduler_within.first fun _ => remaining_within.first fun _ => forM_rations (fun _ => settleProgramme_within) _

theorem pruneProgrammeGrace_rations [ProbeTransport τ] : Rations now (pruneProgrammeGrace t : Method τ ρ σ Unit) :=
  scheduler_within.first fun _ => remaining_within.first fun _ =>
    (forM_rations (fun _ => expireProgrammeGrace_within) _).first fun _ => settleReadyProgrammes_rations

theorem settleStop_rations : Rations now (settleStop t : Method τ ρ σ Unit) := by
  intro w
  rw [settleStop, ends_bind, ends_scheduler, ends_bind, ends_ensure]
  refine ⟨fun stop hstop => ?_, fun _ => Rationed.refl w⟩
  rw [ends_bind, ends_remaining]
  refine Ends.seq (forM_rations (fun _ => terminalize_within) _ w) (fun _ w₁ h1 => ?_)
  rw [ends_bind, ends_scheduler, ends_bind, ends_remaining]
  refine Ends.seq (Ends.rationed h1 (forM_rations (fun _ => drainProgramme_within) _)) (fun _ w2 h2 => ?_)
  rw [ends_whenever, ends_update]
  refine ⟨fun _ ho => ?_, fun _ => h2⟩
  -- the session ends as the pending stop says, and such an end is not live
  have hended := ho.stop stop hstop
  refine h2.trans (Rationed.of_thinner (fun ho2 => .move ho2 (fun h => ?_) (fun h => ?_) (fun _ h => by cases h))
    rfl) ho
  · rw [hended] at h
    cases h
  · rw [h] at hended
    cases hended

theorem failTransport_rations {code : Nat} : Rations now (failTransport t code : Method τ ρ σ Unit) :=
  (initiateStop_rations rfl).first fun _ => settleStop_rations

theorem settleContextInvalidation_rations : Rations now (settleContextInvalidation t : Method τ ρ σ Unit) :=
  scheduler_within.first fun _ => ensure_within.first fun _ => remaining_within.first fun _ =>
    (forM_rations (fun _ => terminalize_within) _).first fun _ => scheduler_within.first fun _ =>
    remaining_within.first fun _ => (forM_rations (fun _ => drainProgramme_within) _).first fun _ =>
    whenever_rations (update_rations fun _ ho => .of_same ho rfl)

end Settlement

end NodeNet.Engine
