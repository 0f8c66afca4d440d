import NodeNet.Engine.Rations
import NodeNet.Engine.Scripted

/-!
# Sending within the allowance

A frame is handed to the transport before its stage counts it.  `Paid` is the session once a token was taken for
the frame, and `Owing` the session once the frame was sent: from there the stage counts the frame, the probe is
gone, the session is stopped, or one of the two failures that the relation leaves out or counts has happened.
-/

namespace NodeNet.Engine

open List OrdMap ScanScheduler

variable {τ ρ σ : Type} {now : Nat} {w w1 w2 : Session τ ρ σ} {e : ProbeEmission}

/-! ### Frames that are not counted yet -/

/-- What is owed for a frame that was sent and that its stage does not count yet. -/
def ProbeEmission.debt (e : ProbeEmission) (key : Nat) (kind : FrameKind) : Nat :=
  if e.probeId = key ∧ e.purpose.kind = kind then 1 else 0

/-- A token was taken, and no frame was sent for it yet. -/
structure Paid (now : Nat) (w w' : Session τ ρ σ) : Prop where
  rationed : Rationed now w w'
  config : w'.scheduler.config = w.scheduler.config
  history : w.history <:+ w'.history
  frames : frames w'.history = frames w.history
  filledBy : w.scheduler.FilledBy now
  filledAt : w'.scheduler.FilledAt now
  tokens : w'.scheduler.tokens now + tokenScale ≤ w.scheduler.tokens now

/-- A frame was sent and paid for, and its stage does not count it yet. -/
structure Owing (now : Nat) (e : ProbeEmission) (w w' : Session τ ρ σ) : Prop where
  spares : w.scheduler.Orderly → Spares now e.debt w w'
  sends : w.Sends w' e
  misfit : w.scheduler.config.fits now e.purpose = false →
    misfits w.scheduler.config now w.history < misfits w.scheduler.config now w'.history

/-- What happens before the frame is sent needs no token. -/
theorem Paid.after (h : Paid now w w1) (h' : Rationed now w1 w2)
    (hconfig : w2.scheduler.config = w1.scheduler.config)
    (hbucket : w2.scheduler.bucket = w1.scheduler.bucket) (hhistory : w1.history <:+ w2.history)
    (hframes : Engine.frames w2.history = Engine.frames w1.history) : Paid now w w2 where
  rationed := h.rationed.trans h'
  config := hconfig.trans h.config
  history := h.history.trans hhistory
  frames := hframes.trans h.frames
  filledBy := h.filledBy
  filledAt := by
    rw [ScanScheduler.FilledAt, hbucket]
    exact h.filledAt
  tokens := by
    rw [ScanScheduler.tokens, hbucket]
    exact h.tokens

/-- The frame that the token was taken for. -/
theorem Paid.emit {answer : Except TransportFailure Unit} (h : Paid now w w1)
    (hhistory : w2.history = .emit e answer :: w1.history) (hscheduler : w2.scheduler = w1.scheduler) :
    Owing now e w w2 := by
  have hsuffix : w1.history <:+ w2.history := hhistory ▸ suffix_cons ..
  refine ⟨fun ho => ?_, ⟨answer, [], w1.history, hhistory, h.history⟩, fun hfits => ?_⟩
  · have hspares := h.rationed ho
    refine ⟨hscheduler ▸ hspares.config, hscheduler ▸ hspares.orderly, hscheduler ▸ hspares.created, ?_,
      hscheduler ▸ hspares.pace, Or.inr ⟨h.filledBy, hscheduler ▸ h.filledAt⟩, ?_, fun x hx => ?_,
      fun hfits key kind => ?_⟩
    · exact hspares.history.trans hsuffix
    · have htokens := h.tokens
      rw [hhistory, frames_emit, h.frames, hscheduler, Nat.add_mul, Nat.one_mul]
      omega
    · rw [hscheduler] at hx
      exact (hspares.waits x hx).imp_right fun ⟨e, hsends, hstarts⟩ => ⟨e, hsends.later hsuffix, hstarts⟩
    have hle : misfits w.scheduler.config now w.history ≤ misfits w.scheduler.config now w1.history :=
      countP_le_of_suffix h.history
    have hle' : misfits w.scheduler.config now w1.history ≤ misfits w.scheduler.config now w2.history :=
      countP_le_of_suffix hsuffix
    have hbefore := hspares.allowance (by omega) key kind
    have hreservations : reservations key w2.history = reservations key w1.history := by
      rw [hhistory]
      exact successions_cons_of_not _ rfl
    have hrefusals : refusals key w2.history = refusals key w1.history := by
      rw [hhistory]
      exact successions_cons_of_not _ rfl
    rw [hreservations, hrefusals, hscheduler, hhistory, sent_emit, ProbeEmission.debt]
    omega
  · have hle : misfits w.scheduler.config now w.history ≤ misfits w.scheduler.config now w1.history :=
      countP_le_of_suffix h.history
    have hmore : misfits w.scheduler.config now w2.history = misfits w.scheduler.config now w1.history + 1 := by
      rw [hhistory]
      exact countP_cons_of_pos (by simp [Event.misfits, hfits])
    omega

theorem Owing.after (h : Owing now e w w1) (h' : Rationed now w1 w2) (hhistory : w1.history <:+ w2.history) :
    Owing now e w w2 where
  spares ho := (h.spares ho).trans (h' (h.spares ho).orderly)
  sends := h.sends.later hhistory
  misfit hfits := lt_of_lt_of_le (h.misfit hfits) (countP_le_of_suffix hhistory)

/-- A frame without a deadline is left out of account. -/
theorem Owing.misfitting (h : Owing now e w w1) (hfits : w.scheduler.config.fits now e.purpose = false) :
    Rationed now w w1 := by
  intro ho
  have hmisfit := h.misfit hfits
  exact { h.spares ho with allowance := fun heq => by omega }

/-- The stage counts the frame and waits for the answer. -/
theorem Owing.settle (h : Owing now e w w1) (hscheduler : w1.scheduler.Orderly → w1.scheduler.Steady w2.scheduler)
    (hwaits : w1.scheduler.Orderly → ∀ x, w2.scheduler.Waits x →
      w1.scheduler.Waits x ∨ e.Starts w1.scheduler.config now x)
    (hallowance : w1.scheduler.Orderly → ∀ key kind,
      w2.scheduler.allowance key kind + e.debt key kind ≤ w1.scheduler.allowance key kind)
    (hhistory : w2.history = w1.history) : Rationed now w w2 := by
  intro ho
  have hspares := h.spares ho
  have hsteady := hscheduler hspares.orderly
  have hsends : ∀ {e}, w.Sends w1 e → w.Sends w2 e := fun hsends => hsends.later (by rw [hhistory])
  refine ⟨hsteady.config.trans hspares.config, hsteady.orderly, hspares.created ∘ hsteady.created,
    hhistory ▸ hspares.history, ?_, ?_, ?_, fun x hx => ?_, fun hfits key kind => ?_⟩
  · rw [pace, hsteady.bucket]
    exact hspares.pace
  · rw [FilledAt, hsteady.bucket, hhistory]
    exact hspares.filled
  · rw [tokens, hsteady.bucket, hhistory]
    exact hspares.tokens
  · rcases hwaits hspares.orderly x hx with hx | hstarts
    · refine (hspares.waits x hx).imp_right ?_
      rintro ⟨e, hsent, hstarts⟩
      exact ⟨e, hsends hsent, hstarts⟩
    · exact Or.inr ⟨e, hsends h.sends, hspares.config ▸ hstarts⟩
  have hbefore := hspares.allowance (by rw [← hhistory]; exact hfits) key kind
  have hless := hallowance hspares.orderly key kind
  rw [hhistory]
  omega

theorem Owing.thinned (h : Owing now e w w1)
    (hscheduler : w1.scheduler.Orderly → w1.scheduler.Thinner w2.scheduler)
    (hallowance : w1.scheduler.Orderly → ∀ key kind,
      w2.scheduler.allowance key kind + e.debt key kind ≤ w1.scheduler.allowance key kind)
    (hhistory : w2.history = w1.history) : Rationed now w w2 :=
  h.settle (fun ho => (hscheduler ho).toSteady) (fun ho x hx => Or.inl ((hscheduler ho).waits x hx))
    hallowance hhistory

/-- The sink refuses the result that a reset frame leads to. -/
theorem Owing.refused {answer : Except TransportFailure Unit} {result : ScanResult} {failure : SinkFailure}
    (h : Owing now e w w1) (hpurpose : e.purpose = .tcpResetCleanup)
    (hhead : w1.history.head? = some (.emit e answer))
    (hhistory : w2.history = .commitReserved result (.error failure) :: w1.history)
    (hscheduler : w2.scheduler = w1.scheduler) : Rationed now w w2 := by
  intro ho
  have hspares := h.spares ho
  have hafter : Spares now _ w1 w2 := Rationed.event rfl hhistory hscheduler hspares.orderly
  refine { hspares.trans hafter with allowance := fun hfits key kind => ?_ }
  have hbefore := hspares.allowance (by rw [hhistory] at hfits; exact hfits) key kind
  have hmono : reservations key w1.history ≤ reservations key w2.history := by
    rw [hhistory]
    exact successions_le_cons ..
  have hmul := Nat.mul_le_mul_right (kind.full w.scheduler.config.maxRetransmissions) hmono
  have hrefusals : refusals key w1.history + e.debt key kind ≤ refusals key w2.history := by
    rw [hhistory, ProbeEmission.debt]
    split
    · next hmatch =>
      have hsends : (Event.emit e answer).sends key .cleanup = true := by
        simp [Event.sends, hmatch.1, hpurpose, EmissionPurpose.kind]
      exact (successions_cons rfl hhead hsends).ge
    · exact successions_le_cons ..
  have hsent : sent key kind w2.history = sent key kind w1.history := by
    rw [hhistory]
    exact sent_cons_of_not rfl
  rw [hsent, hscheduler]
  omega

/-! ### What a frame uses up -/

theorem ProbeEmission.debt_eq {id : Nat} (hid : e.probeId = id) (key : Nat) (kind : FrameKind) :
    e.debt key kind = if key = id then (if e.purpose.kind = kind then 1 else 0) else 0 := by
  subst hid
  rw [ProbeEmission.debt]
  by_cases hkey : key = e.probeId
  · simp [hkey]
  · simp [hkey, Ne.symm hkey]

/-- A frame that the retry counter allows uses up one of its kind. -/
theorem EmissionPurpose.left_succ {purpose : EmissionPurpose} {limit n : Nat}
    (hpurpose : purpose ≠ .tcpResetCleanup) (h : n ≤ limit) (kind : FrameKind) :
    purpose.left limit (n + 1) kind + (if purpose.kind = kind then 1 else 0) ≤ purpose.left limit n kind := by
  cases purpose with
  | neighborSetup | probe =>
    cases kind <;> simp only [EmissionPurpose.left, EmissionPurpose.kind, reduceCtorEq, if_true, if_false] <;>
      omega
  | tcpResetCleanup => exact absurd rfl hpurpose

namespace SchedulerConfig

/-- What a valid configuration says of retransmissions and timeouts. -/
theorem validate_retries {c : SchedulerConfig} (h : c.validate = .ok c) :
    c.maxRetransmissions ≤ Engine.maxRetransmissions ∧ ¬ (c.initialTimeout = 0 ∨ c.minimumTimeout = 0 ∨
      c.minimumTimeout > c.initialTimeout ∨ c.initialTimeout > c.maximumTimeout) := by
  unfold validate at h
  repeat' split at h
  all_goals first | cases h; done | skip
  all_goals omega

end SchedulerConfig

namespace ScanScheduler

variable {s : ScanScheduler}

/-- A valid configuration has a timeout for every retry, between its limits. -/
theorem exists_timeoutFor (h : s.config.validate = .ok s.config) : ∃ timeout : Nat → Nat, Monotone timeout ∧
    ∀ n, s.timeoutFor n = .ok (timeout n) ∧ timeout n ≤ s.config.maximumTimeout ∧
      (s.config.maximumTimeout ≤ u64Max → s.config.minimumTimeout ≤ timeout n) := by
  have hvalid := (SchedulerConfig.validate_retries h).2
  simp only [timeoutFor, RttEstimator.timeout, if_neg hvalid]
  split
  · next he => split at he <;> cases he
  next base he =>
  have hbase : s.config.minimumTimeout ≤ base := by split at he <;> cases he <;> omega
  refine ⟨_, fun n m hle => ?_, fun n => ⟨rfl, Nat.min_le_right .., fun hwidth => ?_⟩⟩
  · have hgrows : base * 2 ^ min n 31 ≤ base * 2 ^ min m 31 :=
      Nat.mul_le_mul_left _ (Nat.pow_le_pow_right (by decide) (by omega))
    simp only [saturatingMul]
    omega
  · have hfirst : base ≤ base * 2 ^ min n 31 := Nat.le_mul_of_pos_right _ (Nat.two_pow_pos _)
    simp only [saturatingMul]
    omega

variable {id : Nat}

theorem allowance_eraseActive {s' : ScanScheduler} {a : ActiveProbe} (live : s.lifecycle.live = true)
    (held : s.active.get? id = some a) (hactive : s'.active = s.active.erase id)
    (hsame : s'.lifecycle = s.lifecycle ∧ s'.config = s.config ∧ s'.nextWireId = s.nextWireId ∧
      s'.physical = s.physical) (key : Nat) (kind : FrameKind) :
    s'.allowance key kind +
    (if key = id then a.stage.left s.config.maxRetransmissions a.stageTransmissions kind else 0) ≤
      s.allowance key kind := by
  obtain ⟨hlifecycle, hconfig, hnext, hphysical⟩ := hsame
  rw [allowance_of_live live, allowance_of_live (hlifecycle ▸ live)]
  have hwire : s'.wireLeft key kind = s.wireLeft key kind := by simp only [wireLeft, hconfig, hnext, hphysical]
  by_cases hkey : key = id
  · subst hkey
    simp only [plainLeft, hactive, get?_erase_self, held, if_true] at *
    omega
  · simp only [plainLeft, hactive, get?_erase_of_ne _ hkey, hconfig, if_neg hkey] at *
    omega

end ScanScheduler

/-! ### Sending -/

section Emission

/-- A frame that is owed fits the clock, so its deadline is found. -/
private theorem Owing.clocked {α : Type} {n : Nat} {error : EngineError} {f : Nat → Method τ ρ σ α}
    (h : Owing now e w w1) (hpurpose : w1.scheduler.Orderly → e.purpose ≠ .tcpResetCleanup)
    (hf : ∀ timeout, w1.scheduler.timeoutFor n = .ok timeout → RationsFrom now w w1 (f (now + timeout))) :
    RationsFrom now w w1 (do
      let timeout ← lift (w1.scheduler.timeoutFor n)
      let deadline ← ensure (MonotonicTime.checkedAdd now timeout) error
      f deadline) := by
  simp only [RationsFrom, ends_bind, ends_lift, ends_ensure]
  refine ⟨fun timeout htimeout => ⟨fun deadline hdeadline => ?_, fun hnone ho => ?_⟩, fun error herror ho => ?_⟩
  · simp only [MonotonicTime.checkedAdd, checkedAdd, Option.ite_none_right_eq_some, Option.some.injEq] at hdeadline
    exact hdeadline.2 ▸ hf timeout htimeout
  all_goals
    obtain ⟨timeouts, -, htimeouts⟩ := exists_timeoutFor (h.spares ho).orderly.config
    obtain ⟨htimeout', hle, -⟩ := htimeouts n
  · refine h.misfitting ?_ ho
    obtain rfl := Except.ok.inj (htimeout.symm.trans htimeout')
    rw [(h.spares ho).config] at hle
    simp only [MonotonicTime.checkedAdd, checkedAdd, ite_eq_right_iff, reduceCtorEq, imp_false] at hnone
    cases hp : e.purpose with
    | tcpResetCleanup => exact absurd hp (hpurpose (h.spares ho).orderly)
    | _ =>
      simp only [SchedulerConfig.fits, decide_eq_false_iff_not]
      omega
  · rw [htimeout'] at herror
    cases herror

variable {a : ActiveProbe} {id : Nat}

/-- A token that is taken is missing afterwards, and only the bucket changes. -/
private theorem tryTake_paid : Ends (tryTake now : Method τ ρ σ Bool) w
    (fun taken w' => (∃ bucket, w' = { w with scheduler := { w.scheduler with bucket := bucket } }) ∧
      Rationed now w w' ∧ (taken = true → Paid now w w'))
    (fun _ w' => Rationed now w w') := by
  rw [tryTake, ends_bind, ends_scheduler, ends_bind, ends_ensure]
  refine ⟨fun b hb => ?_, fun _ => Rationed.refl w⟩
  rw [ends_bind, ends_lift]
  refine ⟨fun taken htaken => ?_, fun _ _ => Rationed.refl w⟩
  obtain ⟨hlevel, hrate, hcapacity, hby, hat⟩ := TokenBucket.tryTake_level htaken
  obtain ⟨hrationed, htokens⟩ := Rationed.bucket hb hlevel hrate hcapacity (Or.inr ⟨hby, hat⟩) rfl
  refine ⟨⟨_, rfl⟩, hrationed, fun htrue => ?_⟩
  rw [if_pos htrue] at htokens
  exact ⟨hrationed, rfl, suffix_refl _, rfl, ⟨b, hb, hby⟩, ⟨_, rfl, hat⟩, htokens⟩

private theorem udpVariantOf_ends {probe : LogicalProbe} :
    Ends (udpVariantOf probe : Method τ ρ σ (Option UdpProbeVariant)) w (fun _ w' => w' = w)
    (fun _ w' => w' = w) := by
  rw [udpVariantOf, ends_bind, ends_scheduler]
  split
  · exact ends_pure.2 rfl
  · rw [ends_bind, ends_expect]
    exact ⟨fun _ _ => ends_pure.2 rfl, fun _ => rfl⟩

/-- The retry limit is far below what the counter of a stage holds. -/
private theorem counted_succ {config : SchedulerConfig} {purpose : EmissionPurpose} {n : Nat}
    (hconfig : config.validate = .ok config)
    (hmeasured : (ActiveStage.pending purpose).Measured config.maxRetransmissions n) :
    saturatingAdd u8Max n 1 = n + 1 := by
  have hlimit := (SchedulerConfig.validate_retries hconfig).1
  have hn := hmeasured.2
  simp only [saturatingAdd, u8Max, Engine.maxRetransmissions] at *
  omega

private theorem starts_of_counted {s : ScanScheduler} {n timeout : Nat} {x : Wait}
    (hconfig : s.config.validate = .ok s.config)
    (hmeasured : (ActiveStage.pending e.purpose).Measured s.config.maxRetransmissions n)
    (htransmission : e.transmission = saturatingAdd u8Max n 1) (htimeout : s.timeoutFor n = .ok timeout)
    (hx : x.key = e.probeId ∧ ActiveStage.waiting e.purpose (now + timeout) = .waiting x.purpose x.deadline ∧
      saturatingAdd u8Max n 1 = x.transmissions) : e.Starts s.config now x := by
  obtain ⟨hkey, hstage, hcount⟩ := hx
  obtain ⟨hpurpose, hdeadline⟩ := ActiveStage.waiting.inj hstage
  refine ⟨hkey.symm, hpurpose, htransmission.trans hcount, s, timeout, rfl, ?_, hdeadline.symm⟩
  rw [← hcount, counted_succ hconfig hmeasured, Nat.add_sub_cancel, htimeout]

/-- The frame that a plain probe has pending is used up once its stage counts it. -/
private theorem owed_active {b : ActiveProbe} {deadline : Nat} (live : w1.scheduler.lifecycle.live = true)
    (held : w1.scheduler.active.get? id = some a) (hstage : a.stage = .pending e.purpose) (hid : e.probeId = id)
    (hstage' : b.stage = .waiting e.purpose deadline)
    (hcount : b.stageTransmissions = saturatingAdd u8Max a.stageTransmissions 1) (ho : w1.scheduler.Orderly)
    (key : Nat) (kind : FrameKind) :
    (w1.scheduler.setActive id b).allowance key kind + e.debt key kind ≤ w1.scheduler.allowance key kind := by
  have hmeasured := hstage ▸ ho.active held
  rw [counted_succ ho.config hmeasured] at hcount
  have hwire : (w1.scheduler.setActive id b).wireLeft key kind = w1.scheduler.wireLeft key kind := rfl
  rw [allowance_of_live live, allowance_of_live (s := w1.scheduler.setActive id b) live, plainLeft_setActive,
    hwire, ProbeEmission.debt_eq hid, hstage', hcount]
  by_cases hkey : key = id
  · have hleft := EmissionPurpose.left_succ hmeasured.1 hmeasured.2 kind
    simp only [hkey, plainLeft, held, hstage, if_true, ActiveStage.left] at hleft ⊢
    omega
  · simp only [if_neg hkey]
    omega

variable {p : ProgrammePhysical}

private theorem owed_physical {q : ProgrammePhysical} {deadline : Nat} (live : w1.scheduler.lifecycle.live = true)
    (request : w1.scheduler.physical.get? id = some p) (hlt : id < w1.scheduler.nextWireId)
    (hstage : p.stage = .pending e.purpose) (hid : e.probeId = id)
    (hstage' : q.stage = .waiting e.purpose deadline)
    (hcount : q.transmissions = saturatingAdd u8Max p.transmissions 1) (ho : w1.scheduler.Orderly) (key : Nat)
    (kind : FrameKind) :
    (w1.scheduler.setPhysical id q).allowance key kind + e.debt key kind ≤ w1.scheduler.allowance key kind := by
  have hmeasured := hstage ▸ ho.physical request
  rw [counted_succ ho.config hmeasured] at hcount
  have hplain : (w1.scheduler.setPhysical id q).plainLeft key kind = w1.scheduler.plainLeft key kind := rfl
  rw [allowance_of_live live, allowance_of_live (s := w1.scheduler.setPhysical id q) live, hplain,
    ProbeEmission.debt_eq hid]
  by_cases hkey : key = id
  · have hleft := EmissionPurpose.left_succ hmeasured.1 hmeasured.2 kind
    simp only [hkey, wireLeft, setPhysical, get?_insert_self, request, hstage, hstage', hcount,
      if_neg (Nat.not_le.2 hlt), if_true, ActiveStage.left] at hleft ⊢
    omega
  · simp only [wireLeft, setPhysical, get?_insert_of_ne _ _ hkey, if_neg hkey]
    omega

/-- A frame of a request that was taken is counted in its stage. -/
theorem Owing.trackPhysical (h : Owing now e w w1) (live : w1.scheduler.lifecycle.live = true)
    (request : w1.scheduler.physical.get? id = some p) (hlt : id < w1.scheduler.nextWireId)
    (hstage : p.stage = .pending e.purpose) (hid : e.probeId = id)
    (htransmission : e.transmission = saturatingAdd u8Max p.transmissions 1) :
    RationsFrom now w w1 (Engine.trackPhysical now id p e.purpose) := by
  have hmeasured := fun ho : w1.scheduler.Orderly => hstage ▸ ho.physical request
  rw [RationsFrom, Engine.trackPhysical, ends_bind, ends_scheduler]
  refine h.clocked (fun ho => (hmeasured ho).1) fun timeout htimeout => ?_
  rw [RationsFrom, ends_bind, ends_revisePhysical, found_iff request]
  refine Ends.rationed (h.settle (fun ho => ⟨rfl, rfl, fun h => h, ho.setPhysical (by exact (hmeasured ho).1)⟩)
    (fun ho x hx => (waits_setPhysical hx).imp_right fun hx =>
      starts_of_counted ho.config (hmeasured ho) htransmission htimeout (by rw [hid]; exact hx))
    (owed_physical live request hlt hstage hid rfl rfl) rfl) ?_
  refine Within.ite (fun _ => ?_) (fun _ => charge_last)
  exact programme_within.first fun _ => ensure_within.first fun _ => update_first (fun _ => rfl) fun _ =>
    charge_last

/-- A part that walks and is rationed, and then the rest. -/
theorem Ends.rationed_bind {α β : Type} {m : Method τ ρ σ α} {f : α → Method τ ρ σ β}
    {Q : α → Session τ ρ σ → Prop} (hi : w.Inv) (hwalks : Roams m w Q) (hm : RationsFrom now w w m)
    (hf : ∀ x w', w'.Inv → Q x w' → RationsFrom now w' w' (f x)) :
    RationsFrom now w w (m >>= f) := by
  refine Ends.bind (Ends.and (hwalks.inv hi) hm) ?_ (fun _ _ h => h.2)
  rintro x w' ⟨⟨-, hi', hQ⟩, hw'⟩
  exact (hf x w' hi' hQ).mono (fun _ _ h => hw'.trans h) (fun _ _ h => hw'.trans h)

variable [ResultSink σ]

/-- A frame that the transport refuses stops the session. -/
theorem Owing.fail {t code : Nat} (h : Owing now e w w1)
    (hleft : w1.scheduler.Orderly → ∀ key kind, e.debt key kind ≤ w1.scheduler.allowance key kind) :
    RationsFrom now w w1 (failTransport t code) := by
  have hmark : Owing now e w { w1 with
      history := Event.reached (.stop ⟨.transportFailed, .transportFailure code, .failed⟩)
        w1.scheduler w1.report :: w1.history } := h.after (.event rfl rfl rfl) (suffix_cons ..)
  rw [RationsFrom, failTransport, ends_bind, initiateStop, ends_bind, ends_reach, ends_update]
  refine Ends.rationed (hmark.thinned (fun ho => .stopping ho rfl) (fun ho key kind => ?_) rfl) settleStop_rations
  rw [allowance_of_not_live rfl, Nat.zero_add]
  exact hleft ho key kind

/-- A frame of a plain probe that was taken is counted in its stage. -/
theorem Owing.trackSent {active : ActiveProbe} {before : MutableReport} (h : Owing now e w w1)
    (live : w1.scheduler.lifecycle.live = true) (held : w1.scheduler.active.get? id = some a)
    (hstage : a.stage = .pending e.purpose) (hid : e.probeId = id)
    (hactive : active.stageTransmissions = a.stageTransmissions)
    (htransmission : e.transmission = saturatingAdd u8Max a.stageTransmissions 1) :
    RationsFrom now w w1 (Engine.trackSent now id active e.purpose none before) := by
  have hmeasured := fun ho : w1.scheduler.Orderly => hstage ▸ ho.active held
  rw [RationsFrom, Engine.trackSent, ends_bind, ends_scheduler, hactive]
  refine h.clocked (fun ho => (hmeasured ho).1) fun timeout htimeout => ?_
  simp only [RationsFrom, ends_bind, ends_reviseActive, found_iff held]
  exact ends_pure.2 (h.settle (fun ho => ⟨rfl, rfl, fun h => h, ho.setActive (by exact (hmeasured ho).1)⟩)
    (fun ho x hx => (waits_setActive hx).imp_right fun hx =>
      starts_of_counted ho.config (hmeasured ho) htransmission htimeout (by rw [hid]; exact hx))
    (owed_active live held hstage hid rfl rfl) rfl)

/-- A reset frame that was sent ends its probe, unless its result has no deadline or is refused. -/
theorem Owing.terminalize {terminal terminal' : PendingTerminal} {charged : Bool}
    {answer : Except TransportFailure Unit} (h : Owing now e w w1) (hi : w1.Inv)
    (live : w1.scheduler.lifecycle.live = true) (held : w1.scheduler.active.get? id = some a)
    (hstage : a.stage = .pendingCleanup terminal') (hpurpose : e.purpose = .tcpResetCleanup) (hid : e.probeId = id)
    (hhead : w1.history.head? = some (.emit e answer)) :
    RationsFrom now w w1 (Engine.terminalize id now terminal charged) := by
  refine (terminalize_ends hi held).mono ?_ ?_
  · rintro - w' ⟨expires, perTarget, perPrefix, -, -, -, hw'⟩
    have hcommit : Owing now e w { w1 with
        history := Event.commitReserved (a.result now terminal) (.ok ()) :: w1.history } :=
      h.after (.event rfl rfl rfl) (suffix_cons ..)
    refine hcommit.thinned (fun ho => ?_) (fun _ key kind => ?_) hw'.history
    · have hthin := ScanScheduler.Thinner.eraseActive ho id
      rw [hw'.scheduler]
      exact ⟨⟨hthin.config, hthin.bucket, hthin.created, ⟨ho.config, ho.stop, hthin.orderly.active, ho.physical⟩⟩,
        hthin.waits, hthin.allowance⟩
    have hactive : w'.scheduler.active = w1.scheduler.active.erase id := by rw [hw'.scheduler]
    have hgone := allowance_eraseActive live held hactive
      (by rw [hw'.scheduler]; exact ⟨rfl, rfl, rfl, rfl⟩) key kind
    refine le_trans (Nat.add_le_add_left ?_ _) hgone
    rw [ProbeEmission.debt_eq hid, hpurpose, hstage]
    cases kind <;> simp [EmissionPurpose.kind, ActiveStage.left]
  rintro error w' (⟨rfl, rfl, hnone⟩ | ⟨failure, rfl, hw'⟩)
  · intro ho
    refine h.misfitting ?_ ho
    simp only [MonotonicTime.checkedAdd, checkedAdd, (h.spares ho).config, ite_eq_right_iff, reduceCtorEq,
      imp_false] at hnone
    rw [hpurpose, SchedulerConfig.fits, decide_eq_false_iff_not]
    exact hnone
  · exact h.refused hpurpose hhead hw'.history hw'.scheduler

/-- What follows a frame of a plain probe, whether the transport took it or not. -/
private theorem Owing.follow {active : ActiveProbe} {terminal : Option PendingTerminal}
    {answer : Except TransportFailure Unit} (h : Owing now e w w1) (hi : w1.Inv)
    (live : w1.scheduler.lifecycle.live = true) (held : w1.scheduler.active.get? id = some a)
    (hid : e.probeId = id)
    (hactive : active.stageTransmissions = a.stageTransmissions)
    (htransmission : e.transmission = saturatingAdd u8Max a.stageTransmissions 1)
    (pending : (a.stage = .pending e.purpose ∧ terminal = none) ∨
      ∃ t, a.stage = .pendingCleanup t ∧ e.purpose = .tcpResetCleanup ∧ terminal = some t)
    (hhead : w1.history.head? = some (.emit e answer)) :
    Ends (match answer with
      | .error failure => do
        match terminal with
        | some terminal => do
          Engine.terminalize id now terminal true
          failTransport now failure.code
          pure false
        | none => do
          failTransport now failure.code
          pure false
      | .ok () => do
        let before ← report
        charge 1 1 0
        Engine.trackSent now id active e.purpose terminal before)
      w1 (fun _ w' => Rationing now 0 w w') (fun _ w' => Rationing now 0 w w') := by
  have hcharged : Owing now e w { w1 with
      report := ⟨w1.report.transitions + 1, w1.report.emissions + 1, w1.report.results + 0⟩ } :=
    h.after (.of_thinner (fun ho => .of_same ho rfl) rfl) (suffix_refl _)
  rcases pending with ⟨hstage, rfl⟩ | ⟨t, hstage, hpurpose, rfl⟩
  · cases answer with
    | error failure =>
      refine Ends.seq (h.fail fun ho key kind => ?_) (fun _ w' h' => h')
      exact le_of_add_le_right (owed_active (b := { a with
        stage := .waiting e.purpose 0
        stageTransmissions := _ }) live held hstage hid rfl rfl ho key kind)
    | ok u =>
      rw [ends_bind, ends_report, ends_bind, ends_charge]
      exact hcharged.trackSent live held hstage hid hactive htransmission
  cases answer with
  | error failure =>
    refine Ends.seq (h.terminalize hi live held hstage hpurpose hid hhead) (fun _ w' h' => ?_)
    exact Ends.rationed h' (failTransport_rations.first fun _ => pure_within)
  | ok u =>
    rw [ends_bind, ends_report, ends_bind, ends_charge, Engine.trackSent, ends_bind, ends_scheduler]
    refine Ends.seq (hcharged.terminalize hi live held hstage hpurpose hid hhead) (fun _ w' h' => ?_)
    exact Ends.rationed h' ((record_rations rfl).first fun _ => pure_within)

variable [ProbeTransport τ]

/-- A plain probe sends the frame that is pending. -/
theorem emitFrame_rations {purpose : EmissionPurpose} {terminal : Option PendingTerminal} (hi : w.Inv)
    (hfree : w.Free) (held : w.scheduler.active.get? id = some a)
    (pending : (a.stage = .pending purpose ∧ terminal = none) ∨
      ∃ t, a.stage = .pendingCleanup t ∧ purpose = .tcpResetCleanup ∧ terminal = some t) :
    RationsFrom now w w (emitFrame now id a purpose terminal) := by
  refine Ends.seq tryTake_paid ?_
  rintro taken w1 ⟨⟨bucket, rfl⟩, hrationed, hpaid⟩
  rw [ends_ite]
  refine ⟨fun _ => ends_pure.2 hrationed, fun htaken => ?_⟩
  replace hpaid := hpaid (by simpa using htaken)
  refine Ends.bind udpVariantOf_ends ?_ (fun _ w' h => by rw [h]; exact hrationed)
  rintro variant w' rfl
  rw [ends_bind, ends_reviseActive, found_iff held]
  have hi1 : Inv (Session.core { w with scheduler := { w.scheduler with bucket := bucket } } none) :=
    (Step.quiet ..).inv hi
  have hcounted : Paid now w { w with
      scheduler := setActive { w.scheduler with bucket := bucket } id (a.counting purpose) } :=
    hpaid.after (.of_thinner (fun ho => .setActive ho held (by exact .refl)) rfl) rfl rfl (suffix_refl _) rfl
  have clear := hfree.clear a.context.generation
  set emission : ProbeEmission := ⟨id, a.probe, a.context.generation, purpose,
    saturatingAdd u8Max a.stageTransmissions 1, variant⟩
  have frame : a.Frame id emission := by
    refine ⟨rfl, rfl, rfl, pending.imp (fun h => h.1) ?_⟩
    rintro ⟨t, hstage, hpurpose, -⟩
    exact ⟨t, hstage, hpurpose⟩
  rw [ends_bind]
  refine ends_emit fun answer transport => ?_
  have howing : Owing now emission w { w with
      scheduler := setActive { w.scheduler with bucket := bucket } id (a.counting purpose)
      transport := transport
      history := .emit emission answer :: w.history } := hcounted.emit rfl rfl
  have hsent : Step .kept ⟨{ w.scheduler with bucket := bucket }, w.history, none⟩ _ :=
    @Step.sent _ _ _ _ _ answer held clear frame
  exact howing.follow (hsent.inv hi1) (hi.disposal.live_of_active hfree.stop held)
    (get?_insert_self ..) rfl rfl rfl pending rfl

theorem emitActive_rations (hi : w.Inv) (hopen : w.Open) : RationsFrom now w w (emitActive now id) := by
  rw [RationsFrom, emitActive, ends_bind, ends_remaining, ends_ite]
  refine ⟨fun _ => ends_pure.2 (Rationed.refl w), fun hleft => ?_⟩
  have hfree : w.Free := hopen.resolve_left fun hspent => hleft (Nat.sub_eq_zero_of_le hspent)
  rw [ends_bind, ends_scheduler]
  cases held : w.scheduler.active.get? id with
  | none => exact ends_pure.2 (Rationed.refl w)
  | some a =>
    dsimp only
    cases hstage : a.stage with
    | pending purpose => exact emitFrame_rations hi hfree held (Or.inl ⟨hstage, rfl⟩)
    | pendingCleanup terminal => exact emitFrame_rations hi hfree held (Or.inr ⟨terminal, hstage, rfl, rfl⟩)
    | waiting purpose deadline => exact ends_pure.2 (Rationed.refl w)

/-- A programme sends the frame of a request. -/
theorem emitPhysical_rations {wireId : Nat} (hi : w.Inv) (hfree : w.Free)
    (request : w.scheduler.physical.get? wireId = some p) :
    RationsFrom now w w (emitPhysical now wireId) := by
  refine Ends.seq tryTake_paid ?_
  rintro taken w1 ⟨⟨bucket, rfl⟩, hrationed, hpaid⟩
  rw [ends_ite]
  refine ⟨fun _ => ends_pure.2 hrationed, fun htaken => ?_⟩
  replace hpaid := hpaid (by simpa using htaken)
  obtain ⟨hlt, -, l, held⟩ := hi.lanes.wire request
  have live := hi.disposal.live_of_programme hfree.stop held
  rw [ends_bind, ends_physicalAt, found_iff request]
  cases hstage : p.stage with
  | waiting purpose deadline | pendingCleanup terminal => exact ends_pure.2 hrationed
  | pending purpose =>
    dsimp only
    rw [ends_bind, ends_programme]
    refine ⟨fun m hm => ?_, fun _ => hrationed⟩
    rw [ends_bind, ends_reach, ends_bind]
    refine ends_emit fun answer transport => ?_
    have hmarked : Paid now w { w with
        scheduler := { w.scheduler with bucket := bucket }
        history := .reached (.emission wireId now) { w.scheduler with bucket := bucket } w.report :: w.history } :=
      hpaid.after (.event rfl rfl rfl) rfl rfl (suffix_cons ..) (frames_cons_of_not rfl)
    set emission : ProbeEmission :=
      ⟨wireId, m.probe, m.context.generation, purpose, saturatingAdd u8Max p.transmissions 1, some p.variant⟩
    have howing : Owing now emission w { w with
        scheduler := { w.scheduler with bucket := bucket }
        transport := transport
        history := .emit emission answer :: .reached (.emission wireId now) { w.scheduler with bucket :=
          bucket } w.report :: w.history } := hmarked.emit rfl rfl
    cases answer with
    | error failure =>
      refine Ends.seq (howing.fail fun ho key kind => ?_) (fun _ _ h => h)
      exact le_of_add_le_right (owed_physical (q := { p with
        stage := .waiting purpose 0
        transmissions := _ }) (by exact live) (by exact request) (by exact hlt) hstage rfl rfl rfl ho key kind)
    | ok u => exact howing.trackPhysical live request hlt hstage rfl rfl

theorem emitProgrammePending_rations (hi : w.Inv) (hopen : w.Open) :
    RationsFrom now w w (emitProgrammePending now) := by
  rw [RationsFrom, emitProgrammePending, ends_bind, ends_scheduler, ends_bind, ends_remaining]
  rcases hopen with hspent | hfree
  · rw [Nat.sub_eq_zero_of_le hspent, take_zero]
    exact ends_pure.2 (Rationed.refl w)
  -- the requests that are still to be visited are where they were
  refine Ends.forUntil (I := fun l w' => w'.Inv ∧ w'.Free ∧ l.Nodup ∧
      (∀ id ∈ l, ∃ p, w'.scheduler.physical.get? id = some p) ∧ Rationed now w w') (J :=
        fun w' => Rationed now w w')
    ⟨hi, hfree, (keysWhere_nodup _ _).sublist (take_sublist _ _), fun _ => exists_of_mem_take, Rationed.refl w⟩ ?_
    (fun _ h => h.2.2.2.2)
  rintro id l w1 ⟨hi1, hfree1, hnodup, hrequests, hrationed⟩
  rw [nodup_cons] at hnodup
  obtain ⟨p, hp⟩ := hrequests id (mem_cons_self ..)
  refine (Ends.and ((emitPhysical_walks hi1 hfree1 hp).inv hi1) (emitPhysical_rations hi1 hfree1 hp)).mono ?_
    (fun _ _ h => hrationed.trans h.2)
  rintro again w2 ⟨⟨-, hi2, hnext⟩, h2⟩
  cases again with
  | false => exact hrationed.trans h2
  | true =>
    refine ⟨hi2, hnext.1, hnodup.2, fun i hl => ?_, hrationed.trans h2⟩
    obtain ⟨q, hq⟩ := hrequests i (mem_cons_of_mem _ hl)
    exact ⟨q, (hnext.2 i (fun he => hnodup.1 (he ▸ hl))).trans hq⟩

theorem emitPending_rations (hi : w.Inv) (hopen : w.Open) : RationsFrom now w w (emitPending now) := by
  refine Ends.rationed_bind hi (scheduleProgrammeVariants_walks hi hopen) (scheduleProgrammeVariants_rations w)
    fun _ w1 hi1 hopen1 => ?_
  refine Ends.rationed_bind hi1 (emitProgrammePending_walks hi1 hopen1) (emitProgrammePending_rations hi1 hopen1)
    fun _ w2 hi2 hopen2 => ?_
  rw [RationsFrom, ends_bind, ends_scheduler, ends_bind, ends_remaining]
  refine Ends.forUntil (I := fun _ w' => w'.Inv ∧ w'.Open ∧ Rationed now w2 w')
    (J := fun w' => Rationed now w2 w') ⟨hi2, hopen2, Rationed.refl w2⟩ ?_ (fun _ h => h.2.2)
  rintro id l w3 ⟨hi3, hopen3, hrationed⟩
  refine (Ends.and ((emitActive_walks hi3 hopen3).inv hi3) (emitActive_rations hi3 hopen3)).mono ?_
    (fun _ _ h => hrationed.trans h.2)
  rintro again w4 ⟨⟨-, hi4, hopen4⟩, h4⟩
  cases again with
  | false => exact hrationed.trans h4
  | true => exact ⟨hi4, hopen4, hrationed.trans h4⟩

end Emission

end NodeNet.Engine
