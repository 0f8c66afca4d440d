import NodeNet.Engine.Steps

/-!
# What may still be sent

`ScanScheduler.allowance` is how many frames of a kind may still be sent under a probe id or a wire id, as the
stages and the retry counters of the scheduler have it.  `ScanScheduler.Thinner` says that a scheduler allows no
more than another one; every step by which a stage moves on, a probe ends or the session is stopped makes it
thinner.
-/

namespace NodeNet.Engine

open OrdMap ScanScheduler

/-! ### Frames in the history -/

inductive FrameKind where
  | setup
  | probe
  | cleanup
deriving DecidableEq

/-- How many frames of a kind one probe may be sent as. -/
def FrameKind.full (limit : Nat) : FrameKind → Nat
  | setup | probe => limit + 1
  | cleanup => 1

def EmissionPurpose.kind : EmissionPurpose → FrameKind
  | neighborSetup _ => .setup
  | probe => .probe
  | tcpResetCleanup => .cleanup

variable (config : SchedulerConfig)

/-- The deadline that follows a frame sent at `now` is on the clock. -/
def SchedulerConfig.fits (now : Nat) : EmissionPurpose → Bool
  | .tcpResetCleanup => decide (now + config.lateGrace ≤ u64Max)
  | _ => decide (now + config.maximumTimeout ≤ u64Max)

namespace Event

def emits : Event → Bool
  | emit _ _ => true
  | _ => false

/-- A frame of the kind is sent under the id. -/
def sends (key : Nat) (kind : FrameKind) : Event → Bool
  | emit emission _ => emission.probeId == key && emission.purpose.kind == kind
  | _ => false

/-- A frame is sent whose deadline is not on the clock. -/
def misfits (now : Nat) : Event → Bool
  | emit emission _ => !config.fits now emission.purpose
  | _ => false

def grants : Event → Bool
  | tryReserve (.ok .reserved) => true
  | tryReserveWithBytes _ (.ok .reserved) => true
  | _ => false

/-- The context of the probe is ready. -/
def readies (id : Nat) : Event → Bool
  | resolve probe (.ok (.ready _)) => probe.logicalId == id
  | _ => false

/-- The sink refuses the result of a plain probe. -/
def declines : Event → Bool
  | commitReserved _ (.error _) => true
  | _ => false

end Event

/-- How often an event in `p` comes right after one in `q`, in a history with the newest event first. -/
def successions (p q : Event → Bool) : List Event → Nat
  | [] => 0
  | e :: older => (if p e && older.head?.any q then 1 else 0) + successions p q older

theorem successions_le_cons (p q : Event → Bool) (e : Event) (history : List Event) :
    successions p q history ≤ successions p q (e :: history) := Nat.le_add_left ..

variable {e : Event} {history : List Event} {p q : Event → Bool}

theorem successions_cons {e' : Event} (hp : p e = true) (hhead : history.head? = some e') (hq : q e' = true) :
    successions p q (e :: history) = successions p q history + 1 := by
  simp only [successions, hp, hhead, Option.any_some, hq, Bool.and_self, if_true]
  exact Nat.add_comm ..

theorem successions_cons_of_not (history : List Event) (hp : p e = false) :
    successions p q (e :: history) = successions p q history := by
  simp [successions, hp]

theorem successions_eq_zero (h : ∀ e ∈ history, p e = false) : successions p q history = 0 := by
  induction history with
  | nil => rfl
  | cons e history ih =>
    rw [successions_cons_of_not _ (h e (List.mem_cons_self ..))]
    exact ih (List.forall_mem_cons.1 h).2

/-- How often the sink has reserved a place for the probe: a place is reserved for the probe whose context was
resolved right before. -/
def reservations (id : Nat) : List Event → Nat := successions Event.grants (Event.readies id)

/-- How often the sink has refused the result that a reset frame led to. -/
def refusals (id : Nat) : List Event → Nat := successions Event.declines (Event.sends id .cleanup)

def frames (history : List Event) : Nat := history.countP Event.emits

def sent (key : Nat) (kind : FrameKind) (history : List Event) : Nat := history.countP (Event.sends key kind)

/-- How many of the frames are without a deadline if they were sent at `now`. -/
def misfits (now : Nat) (history : List Event) : Nat := history.countP (Event.misfits config now)

variable {key : Nat} {kind : FrameKind}

theorem Event.sends_of_not_emits (h : e.emits = false) : e.sends key kind = false := by
  cases e with
  | emit => cases h
  | _ => rfl

theorem sent_cons_of_not (h : e.emits = false) : sent key kind (e :: history) = sent key kind history := by
  rw [sent, List.countP_cons_of_neg (by simp [Event.sends_of_not_emits h])]
  rfl

theorem frames_cons_of_not (h : e.emits = false) : frames (e :: history) = frames history := by
  rw [frames, List.countP_cons_of_neg (by simp [h])]
  rfl

theorem frames_emit {emission : ProbeEmission} {answer : Except TransportFailure Unit} :
    frames (.emit emission answer :: history) = frames history + 1 := List.countP_cons_of_pos rfl

theorem sent_emit {emission : ProbeEmission} {answer : Except TransportFailure Unit} :
    sent key kind (.emit emission answer :: history) =
      sent key kind history + if emission.probeId = key ∧ emission.purpose.kind = kind then 1 else 0 := by
  simp only [sent, List.countP_cons, Event.sends, Bool.and_eq_true, beq_iff_eq]

theorem countP_le_of_suffix {history' : List Event} (h : history <:+ history') :
    history.countP p ≤ history'.countP p := h.sublist.countP_le

/-! ### Stages -/

variable (limit n : Nat)

/-- How many frames of a kind a stage of the purpose still allows, once `n` frames were sent in it. -/
def EmissionPurpose.left : EmissionPurpose → FrameKind → Nat
  | neighborSetup _, .setup => limit + 1 - n
  | neighborSetup _, .probe => limit + 1
  | probe, .probe => limit + 1 - n
  | _, .cleanup => 1
  | _, _ => 0

namespace ActiveStage

def left : ActiveStage → FrameKind → Nat
  | pending purpose, kind => purpose.left limit n kind
  | waiting purpose _, kind => purpose.left limit n kind
  | pendingCleanup _, .cleanup => 1
  | pendingCleanup _, _ => 0

/-- A frame is pending only if the retry counter leaves one, and no reset frame is sent as a probe. -/
def Measured : ActiveStage → Prop
  | pending purpose => purpose ≠ .tcpResetCleanup ∧ n ≤ limit
  | waiting purpose _ => purpose ≠ .tcpResetCleanup
  | pendingCleanup _ => True

theorem left_le_full (stage : ActiveStage) (kind : FrameKind) : stage.left limit n kind ≤ kind.full limit := by
  have hpurpose : ∀ purpose : EmissionPurpose, purpose.left limit n kind ≤ kind.full limit := by
    intro purpose
    cases purpose <;> cases kind <;> simp [EmissionPurpose.left, FrameKind.full]
  cases stage with
  | pending purpose | waiting purpose deadline => exact hpurpose purpose
  | pendingCleanup terminal => cases kind <;> simp [left, FrameKind.full]

/-- The second stage allows no more than the first one, and starts to wait for nothing. -/
def Shrinks (limit : Nat) (stage : ActiveStage) (n : Nat) (stage' : ActiveStage) (n' : Nat) : Prop :=
  stage.Measured limit n → stage'.Measured limit n' ∧
    (∀ kind, stage'.left limit n' kind ≤ stage.left limit n kind) ∧
    ∀ {purpose deadline}, stage' = waiting purpose deadline → stage = stage' ∧ n = n'

variable {limit n : Nat}

theorem Shrinks.refl {stage : ActiveStage} : stage.Shrinks limit n stage n :=
  fun h => ⟨h, fun _ => le_refl _, fun _ => ⟨rfl, rfl⟩⟩

variable {deadline : Nat}

/-- A retry that the counter allows. -/
theorem shrinks_retry {purpose : EmissionPurpose} (h : n - 1 < limit) :
    (waiting purpose deadline).Shrinks limit n (pending purpose) n :=
  fun hpurpose => ⟨⟨hpurpose, by omega⟩, fun _ => le_refl _, fun h => by cases h⟩

/-- The neighbor is known, and the probe itself is sent from now on. -/
theorem shrinks_resolved {setup : ProbeFamily} :
    (waiting (.neighborSetup setup) deadline).Shrinks limit n (pending .probe) 0 := by
  intro _
  refine ⟨⟨by simp, Nat.zero_le _⟩, fun kind => ?_, fun h => by cases h⟩
  cases kind <;> simp [left, EmissionPurpose.left]

theorem shrinks_cleanup {n' : Nat} {purpose : EmissionPurpose} {terminal : PendingTerminal} :
    (waiting purpose deadline).Shrinks limit n (pendingCleanup terminal) n' := by
  intro _
  refine ⟨trivial, fun kind => ?_, fun h => by cases h⟩
  cases kind <;> cases purpose <;> simp [left, EmissionPurpose.left]

end ActiveStage

/-- What a probe or a request waits for, and how many frames were sent in its stage. -/
structure Wait where
  key : Nat
  purpose : EmissionPurpose
  transmissions : Nat
  deadline : Nat

namespace ScanScheduler

variable (s : ScanScheduler)

/-- The plain probe or the request under the key waits. -/
def Waits (x : Wait) : Prop :=
  (∃ a ∈ s.active.get? x.key, a.stage = .waiting x.purpose x.deadline ∧ a.stageTransmissions = x.transmissions) ∨
    ∃ p ∈ s.physical.get? x.key, p.stage = .waiting x.purpose x.deadline ∧ p.transmissions = x.transmissions

instance (x : Wait) : Decidable (s.Waits x) := inferInstanceAs (Decidable (_ ∨ _))

/-- The retry counters of all stages are in order, and a stop ends the session. -/
structure Orderly (s : ScanScheduler) : Prop where
  config : s.config.validate = .ok s.config
  stop : ∀ stop, s.stop = some stop → stop.finalLifecycle.live = false
  active : ∀ {key a}, s.active.get? key = some a →
    a.stage.Measured s.config.maxRetransmissions a.stageTransmissions
  physical : ∀ {key p}, s.physical.get? key = some p → p.stage.Measured s.config.maxRetransmissions p.transmissions

/-- What the plain probe under the id may still send. -/
def plainLeft (key : Nat) (kind : FrameKind) : Nat :=
  match s.active.get? key with
  | none => 0
  | some a => a.stage.left s.config.maxRetransmissions a.stageTransmissions kind

/-- What the request under the wire id may still send; an id that was not given out yet allows everything. -/
def wireLeft (key : Nat) (kind : FrameKind) : Nat :=
  if s.nextWireId ≤ key then kind.full s.config.maxRetransmissions
  else
    match s.physical.get? key with
    | none => 0
    | some p => p.stage.left s.config.maxRetransmissions p.transmissions kind

def allowance (key : Nat) (kind : FrameKind) : Nat :=
  if s.lifecycle.live then s.plainLeft key kind + s.wireLeft key kind else 0

def tokens (now : Nat) : Nat :=
  match s.bucket with
  | none => 0
  | some bucket => bucket.level now

/-- The rate and the capacity of the bucket. -/
def pace : Option (Nat × Nat) := s.bucket.map fun b => (b.ratePerSecond, b.capacityScaled)

/-- The bucket was last filled at `now`, or before. -/
def FilledBy (now : Nat) : Prop := ∃ b, s.bucket = some b ∧ b.lastRefill ≤ now

/-- The bucket was last filled at `now`. -/
def FilledAt (now : Nat) : Prop := ∃ b, s.bucket = some b ∧ b.lastRefill = now

theorem allowance_of_live {s : ScanScheduler} (h : s.lifecycle.live = true) (key : Nat) (kind : FrameKind) :
    s.allowance key kind = s.plainLeft key kind + s.wireLeft key kind := if_pos h

theorem allowance_of_not_live {s : ScanScheduler} (h : s.lifecycle.live = false) (key : Nat) (kind : FrameKind) :
    s.allowance key kind = 0 := by rw [allowance, h]; rfl

/-- The second scheduler is in order, and no token is taken. -/
structure Steady (s s' : ScanScheduler) : Prop where
  config : s'.config = s.config
  bucket : s'.bucket = s.bucket
  created : s'.lifecycle = .created → s.lifecycle = .created
  orderly : s'.Orderly

/-- The second scheduler allows no more than the first one, and waits for nothing new. -/
structure Thinner (s s' : ScanScheduler) : Prop extends Steady s s' where
  waits : ∀ x, s'.Waits x → s.Waits x
  allowance : ∀ key kind, s'.allowance key kind ≤ s.allowance key kind

variable {s s' : ScanScheduler}

theorem Orderly.setActive {id : Nat} {a : ActiveProbe} (ho : s.Orderly)
    (h : a.stage.Measured s.config.maxRetransmissions a.stageTransmissions) : (s.setActive id a).Orderly := by
  refine ⟨ho.config, ho.stop, fun {key b} hb => ?_, ho.physical⟩
  rcases of_get?_insert hb with ⟨-, rfl⟩ | ⟨-, hb⟩
  · exact h
  · exact ho.active hb

theorem Orderly.setPhysical {id : Nat} {p : ProgrammePhysical} (ho : s.Orderly)
    (h : p.stage.Measured s.config.maxRetransmissions p.transmissions) : (s.setPhysical id p).Orderly := by
  refine ⟨ho.config, ho.stop, ho.active, fun {key q} hq => ?_⟩
  rcases of_get?_insert hq with ⟨-, rfl⟩ | ⟨-, hq⟩
  · exact h
  · exact ho.physical hq

theorem waits_setActive {id : Nat} {a : ActiveProbe} {x : Wait} (h : (s.setActive id a).Waits x) :
    s.Waits x ∨
    (x.key = id ∧ a.stage = .waiting x.purpose x.deadline ∧ a.stageTransmissions = x.transmissions) := by
  rcases h with ⟨b, hb, hx⟩ | hphysical
  · rcases of_get?_insert hb with ⟨hkey, rfl⟩ | ⟨-, hb⟩
    · exact .inr ⟨hkey, hx⟩
    · exact .inl (.inl ⟨b, hb, hx⟩)
  · exact .inl (.inr hphysical)

theorem waits_setPhysical {id : Nat} {p : ProgrammePhysical} {x : Wait} (h : (s.setPhysical id p).Waits x) :
    s.Waits x ∨ (x.key = id ∧ p.stage = .waiting x.purpose x.deadline ∧ p.transmissions = x.transmissions) := by
  rcases h with hactive | ⟨q, hq, hx⟩
  · exact .inl (.inl hactive)
  · rcases of_get?_insert hq with ⟨hkey, rfl⟩ | ⟨-, hq⟩
    · exact .inr ⟨hkey, hx⟩
    · exact .inl (.inr ⟨q, hq, hx⟩)

theorem plainLeft_le (hconfig : s'.config = s.config) (ho : s.Orderly)
    (hactive : ∀ {key a'}, s'.active.get? key = some a' → ∃ a, s.active.get? key = some a ∧
      a.stage.Shrinks s.config.maxRetransmissions a.stageTransmissions a'.stage a'.stageTransmissions)
    (key : Nat) (kind : FrameKind) : s'.plainLeft key kind ≤ s.plainLeft key kind := by
  rw [plainLeft]
  split
  · exact Nat.zero_le _
  next a' ha' =>
  obtain ⟨a, ha, hshrinks⟩ := hactive ha'
  simp only [plainLeft, ha, hconfig]
  exact (hshrinks (ho.active ha)).2.1 kind

theorem plainLeft_setActive (s : ScanScheduler) (id : Nat) (a : ActiveProbe) (key : Nat) (kind : FrameKind) :
    (s.setActive id a).plainLeft key kind =
      if key = id then a.stage.left s.config.maxRetransmissions a.stageTransmissions kind else
        s.plainLeft key kind := by
  rw [plainLeft, setActive]
  split_ifs with hkey
  · rw [hkey, get?_insert_self]
  · rw [get?_insert_of_ne _ _ hkey]
    rfl

theorem wireLeft_le (hconfig : s'.config = s.config) (ho : s.Orderly) (hnext : s'.nextWireId = s.nextWireId)
    (hphysical : ∀ {key p'}, s'.physical.get? key = some p' → ∃ p, s.physical.get? key = some p ∧
      p.stage.Shrinks s.config.maxRetransmissions p.transmissions p'.stage p'.transmissions)
    (key : Nat) (kind : FrameKind) : s'.wireLeft key kind ≤ s.wireLeft key kind := by
  simp only [wireLeft, hnext, hconfig]
  split
  · exact le_refl _
  split
  · exact Nat.zero_le _
  next p' hp' =>
  obtain ⟨p, hp, hshrinks⟩ := hphysical hp'
  simp only [hp]
  exact (hshrinks (ho.physical hp)).2.1 kind

/-- The stages of some probes and requests shrink, and others are gone. -/
theorem Thinner.of_shrinks (ho : s.Orderly) (hconfig : s'.config = s.config) (hstop : s'.stop = s.stop)
    (hlifecycle : s'.lifecycle = s.lifecycle) (hbucket : s'.bucket = s.bucket)
    (hnext : s'.nextWireId = s.nextWireId)
    (hactive : ∀ {key a'}, s'.active.get? key = some a' → ∃ a, s.active.get? key = some a ∧
      a.stage.Shrinks s.config.maxRetransmissions a.stageTransmissions a'.stage a'.stageTransmissions)
    (hphysical : ∀ {key p'}, s'.physical.get? key = some p' → ∃ p, s.physical.get? key = some p ∧
      p.stage.Shrinks s.config.maxRetransmissions p.transmissions p'.stage p'.transmissions) : s.Thinner s' where
  config := hconfig
  bucket := hbucket
  created h := hlifecycle ▸ h
  orderly := {
    config := by rw [hconfig, ho.config]
    stop := by rw [hstop]; exact ho.stop
    active := fun ha' => by
      obtain ⟨a, ha, hshrinks⟩ := hactive ha'
      rw [hconfig]
      exact (hshrinks (ho.active ha)).1
    physical := fun hp' => by
      obtain ⟨p, hp, hshrinks⟩ := hphysical hp'
      rw [hconfig]
      exact (hshrinks (ho.physical hp)).1 }
  waits x := by
    rintro (⟨a', ha', hstage, hcount⟩ | ⟨p', hp', hstage, hcount⟩)
    · obtain ⟨a, ha, hshrinks⟩ := hactive ha'
      obtain ⟨hsame, hn⟩ := (hshrinks (ho.active ha)).2.2 hstage
      exact .inl ⟨a, ha, hsame.trans hstage, hn.trans hcount⟩
    · obtain ⟨p, hp, hshrinks⟩ := hphysical hp'
      obtain ⟨hsame, hn⟩ := (hshrinks (ho.physical hp)).2.2 hstage
      exact .inr ⟨p, hp, hsame.trans hstage, hn.trans hcount⟩
  allowance key kind := by
    rw [ScanScheduler.allowance, ScanScheduler.allowance, hlifecycle]
    split
    · exact Nat.add_le_add (plainLeft_le hconfig ho hactive key kind)
        (wireLeft_le hconfig ho hnext hphysical key kind)
    · exact le_refl _

/-- What the allowance depends on. -/
def stakes (s : ScanScheduler) : SchedulerConfig × Option StopState × SessionLifecycle × Option TokenBucket × Nat ×
    OrdMap Nat ActiveProbe × OrdMap Nat ProgrammePhysical :=
  (s.config, s.stop, s.lifecycle, s.bucket, s.nextWireId, s.active, s.physical)

theorem Thinner.of_same (ho : s.Orderly) (h : s'.stakes = s.stakes) : s.Thinner s' := by
  simp only [stakes, Prod.mk.injEq] at h
  obtain ⟨hconfig, hstop, hlifecycle, hbucket, hnext, hactive, hphysical⟩ := h
  refine .of_shrinks ho hconfig hstop hlifecycle hbucket hnext (fun {key a} ha => ?_) (fun {key p} hp => ?_)
  · exact ⟨a, hactive ▸ ha, .refl⟩
  · exact ⟨p, hphysical ▸ hp, .refl⟩

theorem Thinner.setActive {id : Nat} {a a' : ActiveProbe} (ho : s.Orderly) (held : s.active.get? id = some a)
    (h : a.stage.Shrinks s.config.maxRetransmissions a.stageTransmissions a'.stage a'.stageTransmissions) :
    s.Thinner (s.setActive id a') := by
  refine .of_shrinks ho rfl rfl rfl rfl rfl (fun {key b} hb => ?_) (fun {_ p} hp => ⟨p, hp, .refl⟩)
  rcases of_get?_insert hb with ⟨rfl, rfl⟩ | ⟨-, hb⟩
  · exact ⟨a, held, h⟩
  · exact ⟨b, hb, .refl⟩

theorem Thinner.setPhysical {id : Nat} {p p' : ProgrammePhysical} (ho : s.Orderly)
    (request : s.physical.get? id = some p)
    (h : p.stage.Shrinks s.config.maxRetransmissions p.transmissions p'.stage p'.transmissions) :
    s.Thinner (s.setPhysical id p') := by
  refine .of_shrinks ho rfl rfl rfl rfl rfl (fun {_ a} ha => ⟨a, ha, .refl⟩) (fun {key q} hq => ?_)
  rcases of_get?_insert hq with ⟨rfl, rfl⟩ | ⟨-, hq⟩
  · exact ⟨p, request, h⟩
  · exact ⟨q, hq, .refl⟩

theorem Thinner.eraseActive (ho : s.Orderly) (id : Nat) : s.Thinner { s with active := s.active.erase id } :=
  .of_shrinks ho rfl rfl rfl rfl rfl (fun {_ a} ha => ⟨a, (of_get?_erase ha).2, .refl⟩)
    (fun {_ p} hp => ⟨p, hp, .refl⟩)

theorem Thinner.erasePhysical (ho : s.Orderly) (id : Nat) : s.Thinner { s with physical := s.physical.erase id } :=
  .of_shrinks ho rfl rfl rfl rfl rfl (fun {_ a} ha => ⟨a, ha, .refl⟩)
    (fun {_ p} hp => ⟨p, (of_get?_erase hp).2, .refl⟩)

/-- The lifecycle moves on: it is live as before, or no longer. -/
theorem Thinner.move {lifecycle : SessionLifecycle} {stop : Option StopState} (ho : s.Orderly)
    (hlive : lifecycle.live = true → s.lifecycle.live = true) (hcreated : lifecycle ≠ .created)
    (hstop : ∀ state, stop = some state → state.finalLifecycle.live = false) :
    s.Thinner { s with lifecycle := lifecycle, stop := stop } where
  config := rfl
  bucket := rfl
  created h := absurd h hcreated
  orderly := ⟨ho.config, hstop, ho.active, ho.physical⟩
  waits _ h := h
  allowance key kind := by
    by_cases hnow : lifecycle.live = true
    · rw [allowance_of_live (hlive hnow), allowance_of_live hnow]
      exact le_refl _
    · rw [allowance_of_not_live (Bool.eq_false_of_not_eq_true hnow)]
      exact Nat.zero_le _

/-- A session that is being stopped sends nothing any more. -/
theorem Thinner.stopping {stop : StopState} (ho : s.Orderly) (hfinal : stop.finalLifecycle.live = false) :
    s.Thinner (s.stopping stop) where
  config := rfl
  bucket := rfl
  created h := by cases h
  orderly := ⟨ho.config, fun state h => Option.some.inj h ▸ hfinal, ho.active, ho.physical⟩
  waits _ h := h
  allowance key kind := by
    rw [allowance_of_not_live rfl]
    exact Nat.zero_le _

/-- Neither does one that was closed. -/
theorem Thinner.disposed (ho : s.Orderly) : s.Thinner s.disposed where
  config := rfl
  bucket := rfl
  created h := by cases h
  orderly := ⟨ho.config, fun _ h => (by cases h), fun h => (by cases h), fun h => (by cases h)⟩
  waits x h := by rcases h with ⟨_, h, -⟩ | ⟨_, h, -⟩ <;> cases h
  allowance key kind := by
    rw [allowance_of_not_live rfl]
    exact Nat.zero_le _

theorem Thinner.place {p : ProgrammePhysical} {purpose : EmissionPurpose} (ho : s.Orderly)
    (hp : p.stage.Measured s.config.maxRetransmissions p.transmissions) (hpending : p.stage = .pending purpose) :
    s.Thinner { s with nextWireId := s.nextWireId + 1, physical := s.physical.insert s.nextWireId p } where
  config := rfl
  bucket := rfl
  created h := h
  orderly := ⟨ho.config, ho.stop, ho.active, (ho.setPhysical hp).physical⟩
  waits x h := by
    rcases waits_setPhysical (s := s) h with h | ⟨-, hwaiting, -⟩
    · exact h
    · rw [hpending] at hwaiting
      cases hwaiting
  allowance key kind := by
    simp only [ScanScheduler.allowance]
    split
    · refine Nat.add_le_add (le_refl _) ?_
      simp only [wireLeft]
      by_cases hkey : key = s.nextWireId
      · subst hkey
        rw [if_pos (le_refl _), if_neg (by omega), OrdMap.get?_insert_self]
        exact ActiveStage.left_le_full ..
      rw [OrdMap.get?_insert_of_ne _ _ hkey]
      by_cases hlt : s.nextWireId ≤ key
      · rw [if_pos hlt, if_pos (by omega)]
      · rw [if_neg hlt, if_neg (by omega)]
    · exact le_refl _

end ScanScheduler

end NodeNet.Engine
