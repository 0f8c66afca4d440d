import NodeNet.Engine.Types

/-!
# Transmission tokens and timeouts

The token bucket counts millionths of a token, so that a rate per second adds `rate` units each microsecond.  In no
window of time more tokens are taken than the burst and the rate allow, and the boundary reported by
`TokenBucket.nextReady` is exact (`TokenBucket.rate_conformance`).
-/

namespace NodeNet.Engine

def tokenScale : Nat := 1000000

structure TokenBucket where
  ratePerSecond : Nat
  capacityScaled : Nat
  tokensScaled : Nat
  lastRefill : Nat
deriving DecidableEq

namespace TokenBucket

def new (ratePerSecond burst : Nat) (now : Nat) : Except ConfigError TokenBucket :=
  if ratePerSecond = 0 ∨ ratePerSecond > maxTransmitRatePerSecond then .error .invalidRate
  else if burst = 0 ∨ burst > maxOutstandingProbes then .error .invalidBurst
  else .ok ⟨ratePerSecond, burst * tokenScale, burst * tokenScale, now⟩

def refill (b : TokenBucket) (now : Nat) : Except EngineError TokenBucket :=
  match MonotonicTime.elapsedSince now b.lastRefill with
  | none => .error .clockRegressed
  | some elapsed => .ok { b with
      tokensScaled := min (saturatingAdd u128Max b.tokensScaled (elapsed * b.ratePerSecond)) b.capacityScaled
      lastRefill := now }

/-- Takes one token if there is one. -/
def tryTake (b : TokenBucket) (now : Nat) : Except EngineError (Bool × TokenBucket) :=
  match b.refill now with
  | .error e => .error e
  | .ok b =>
    if b.tokensScaled < tokenScale then .ok (false, b)
    else .ok (true, { b with tokensScaled := b.tokensScaled - tokenScale })

/-- The first instant at which a token is there, and the refilled bucket. -/
def nextReady (b : TokenBucket) (now : Nat) : Except EngineError Nat × TokenBucket :=
  match b.refill now with
  | .error e => (.error e, b)
  | .ok b =>
    if b.tokensScaled ≥ tokenScale then (.ok now, b)
    else
      let deficit := tokenScale - b.tokensScaled
      let micros := (deficit + b.ratePerSecond - 1) / b.ratePerSecond
      if micros ≤ u64Max then
        match MonotonicTime.checkedAdd now micros with
        | none => (.error .deadlineOverflow, b)
        | some ready => (.ok ready, b)
      else (.error .deadlineOverflow, b)

variable {b b' : TokenBucket} {now : Nat}

variable {e : EngineError}

theorem refill_error (h : b.refill now = .error e) : e = .clockRegressed := by
  simp only [refill] at h
  split at h
  · cases h; rfl
  · cases h

theorem tryTake_error (h : b.tryTake now = .error e) : e = .clockRegressed := by
  simp only [tryTake] at h
  split at h
  · next hrefill => cases h; exact refill_error hrefill
  · split at h <;> cases h

theorem nextReady_error (h : (b.nextReady now).1 = .error e) : e = .clockRegressed ∨ e = .deadlineOverflow := by
  simp only [nextReady] at h
  split at h
  · next hrefill => cases h; exact Or.inl (refill_error hrefill)
  split at h
  · cases h
  split at h
  · split at h
    · cases h; exact Or.inr rfl
    · cases h
  · cases h; exact Or.inr rfl

/-! ### The level of a bucket -/

/-- What a bucket holds at `t`, in millionths of a token, if nothing is taken before. -/
def level (b : TokenBucket) (t : Nat) : Nat :=
  min (b.tokensScaled + (t - b.lastRefill) * b.ratePerSecond) b.capacityScaled

theorem level_le_capacity (b : TokenBucket) (t : Nat) : b.level t ≤ b.capacityScaled := Nat.min_le_right ..

/-- A bucket fills no faster than its rate. -/
theorem level_le_add (b : TokenBucket) {s t : Nat} (h : s ≤ t) :
    b.level t ≤ b.level s + (t - s) * b.ratePerSecond := by
  have hsplit : (t - b.lastRefill) * b.ratePerSecond ≤
      (s - b.lastRefill) * b.ratePerSecond + (t - s) * b.ratePerSecond := by
    rw [← Nat.add_mul]
    exact Nat.mul_le_mul_right _ (by omega)
  simp only [level]
  omega

private theorem refill_level (h : b.refill now = .ok b') :
    b'.tokensScaled ≤ b.level now ∧ b.lastRefill ≤ now ∧ b'.lastRefill = now ∧ b'.ratePerSecond = b.ratePerSecond ∧
      b'.capacityScaled = b.capacityScaled := by
  simp only [refill, MonotonicTime.elapsedSince, checkedSub] at h
  split at h
  · cases h
  next elapsed he =>
  split at he
  · next hle =>
    cases he; cases h
    refine ⟨?_, hle, rfl, rfl, rfl⟩
    simp only [saturatingAdd, level]
    omega
  · cases he

/-- A token that is taken is missing from the level, and the bucket is filled at `now`; the rate and the capacity
stay. -/
theorem tryTake_level {taken : Bool} (h : b.tryTake now = .ok (taken, b')) :
    b'.level now + (if taken then tokenScale else 0) ≤ b.level now ∧ b'.ratePerSecond = b.ratePerSecond ∧
      b'.capacityScaled = b.capacityScaled ∧ b.lastRefill ≤ now ∧ b'.lastRefill = now := by
  simp only [tryTake] at h
  split at h
  · cases h
  next b1 hrefill =>
  obtain ⟨htokens, hle, hlast, hrate, hcapacity⟩ := refill_level hrefill
  have hlevel : ∀ n, min (n + (now - b1.lastRefill) * b1.ratePerSecond) b1.capacityScaled ≤ n := by
    intro n
    rw [hlast, Nat.sub_self, Nat.zero_mul]
    exact Nat.min_le_left ..
  split at h
  · cases h
    refine ⟨?_, hrate, hcapacity, hle, hlast⟩
    have := hlevel b'.tokensScaled
    simp only [level, Bool.false_eq_true, if_false] at *
    omega
  next henough =>
  obtain ⟨rfl, rfl⟩ := Prod.mk.inj (Except.ok.inj h)
  refine ⟨?_, hrate, hcapacity, hle, hlast⟩
  have hleft := hlevel (b1.tokensScaled - tokenScale)
  rw [if_pos rfl]
  exact le_trans (Nat.add_le_add_right hleft _) (by rwa [Nat.sub_add_cancel (Nat.not_lt.1 henough)])

/-- Asking for the next token takes none. -/
theorem nextReady_level (b : TokenBucket) (now : Nat) :
    (b.nextReady now).2.level now ≤ b.level now ∧ (b.nextReady now).2.ratePerSecond = b.ratePerSecond ∧
      (b.nextReady now).2.capacityScaled = b.capacityScaled ∧
      ((b.nextReady now).2 = b ∨ (b.lastRefill ≤ now ∧ (b.nextReady now).2.lastRefill = now)) := by
  have hbucket : (b.nextReady now).2 = match b.refill now with | .error _ => b | .ok b' => b' := by
    unfold nextReady
    split
    · rfl
    split
    · rfl
    dsimp only
    split
    · split <;> rfl
    · rfl
  rw [hbucket]
  cases hrefill : b.refill now with
  | error e => exact ⟨le_refl _, rfl, rfl, Or.inl rfl⟩
  | ok b' =>
    obtain ⟨htokens, hle, hlast, hrate, hcapacity⟩ := refill_level hrefill
    refine ⟨?_, hrate, hcapacity, Or.inr ⟨hle, hlast⟩⟩
    simp only [level, hlast, Nat.sub_self, Nat.zero_mul, Nat.add_zero] at *
    omega

/-! ### Rate conformance -/

/-- What is asked of a bucket. -/
inductive Call where
  | tryTake (now : Nat)
  | nextReady (now : Nat)

def Call.time : Call → Nat
  | tryTake now | nextReady now => now

/-- Whether a call takes a token, and the bucket after it: a call that fails leaves the bucket as it is. -/
def call (b : TokenBucket) : Call → Bool × TokenBucket
  | .tryTake now =>
    match b.tryTake now with
    | .error _ => (false, b)
    | .ok answer => answer
  | .nextReady now => (false, (b.nextReady now).2)

def after (b : TokenBucket) (calls : List Call) : TokenBucket := calls.foldl (fun b c => (b.call c).2) b

/-- The number of tokens that calls take from `first` to `last`. -/
def taken (first last : Nat) : TokenBucket → List Call → Nat
  | _, [] => 0
  | b, c :: calls =>
    (if (b.call c).1 ∧ first ≤ c.time ∧ c.time ≤ last then 1 else 0) + taken first last (b.call c).2 calls

/-- A call keeps the rate and the capacity; it fails, or the bucket is filled and what is taken is missing. -/
private theorem call_level {c : Call} {taken : Bool} (h : b.call c = (taken, b')) :
    b'.ratePerSecond = b.ratePerSecond ∧ b'.capacityScaled = b.capacityScaled ∧
      ((b' = b ∧ taken = false) ∨ (b.lastRefill ≤ c.time ∧ b'.lastRefill = c.time ∧
        b'.level c.time + (if taken then tokenScale else 0) ≤ b.level c.time)) := by
  cases c with
  | tryTake now =>
    simp only [call] at h
    split at h
    · cases h
      exact ⟨rfl, rfl, Or.inl ⟨rfl, rfl⟩⟩
    next htake =>
    rw [h] at htake
    obtain ⟨hlevel, hrate, hcapacity, hle, hlast⟩ := tryTake_level htake
    exact ⟨hrate, hcapacity, Or.inr ⟨hle, hlast, hlevel⟩⟩
  | nextReady now =>
    obtain ⟨hlevel, hrate, hcapacity, hsame⟩ := b.nextReady_level now
    cases h
    exact ⟨hrate, hcapacity, hsame.imp (fun h => ⟨h, rfl⟩) fun h => ⟨h.1, h.2, hlevel⟩⟩

variable (first last : Nat)

/-- What can still be taken from `first` to `last`. -/
private def room (b : TokenBucket) : Nat :=
  if last < b.lastRefill then 0
  else if b.lastRefill < first then b.capacityScaled + (last - first) * b.ratePerSecond
  else b.level b.lastRefill + (last - b.lastRefill) * b.ratePerSecond

private theorem room_le (b : TokenBucket) :
    b.room first last ≤ b.capacityScaled + (last - first) * b.ratePerSecond := by
  have hfull := b.level_le_capacity b.lastRefill
  rw [room]
  split
  · exact Nat.zero_le _
  split
  · exact le_refl _
  · exact Nat.add_le_add hfull (Nat.mul_le_mul_right _ (by omega))

private theorem room_call {c : Call} {taken : Bool} (h : b.call c = (taken, b')) :
    b'.room first last + (if taken ∧ first ≤ c.time ∧ c.time ≤ last then tokenScale else 0) ≤
      b.room first last := by
  obtain ⟨hrate, hcapacity, ⟨rfl, rfl⟩ | ⟨hle, hlast, hlevel⟩⟩ := call_level h
  · simp
  have hfull := b.level_le_capacity c.time
  have hadd := b.level_le_add hle
  -- the window that is left after the call is a part of the one before
  have hpart : ∀ s, s ≤ c.time → c.time ≤ last →
      (c.time - s) * b.ratePerSecond + (last - c.time) * b.ratePerSecond = (last - s) * b.ratePerSecond := by
    intro s hs hl
    rw [← Nat.add_mul]
    congr 1
    omega
  have hfirst := hpart first
  have hstart := hpart _ hle
  simp only [room, hlast, hrate, hcapacity]
  grind

private theorem taken_le_room (b : TokenBucket) (calls : List Call) :
    b.taken first last calls * tokenScale ≤ b.room first last := by
  induction calls generalizing b with
  | nil => simp [taken]
  | cons c calls ih =>
    rcases hcall : b.call c with ⟨t, b'⟩
    have hstep := room_call first last hcall
    have hrest := ih b'
    simp only [taken, hcall, Nat.add_mul, ite_mul, Nat.one_mul, Nat.zero_mul]
    omega

private theorem after_fixed (b : TokenBucket) (calls : List Call) :
    (b.after calls).ratePerSecond = b.ratePerSecond ∧ (b.after calls).capacityScaled = b.capacityScaled ∧
      (b.after calls).lastRefill ∈ b.lastRefill :: calls.map Call.time := by
  induction calls generalizing b with
  | nil => exact ⟨rfl, rfl, List.mem_singleton_self _⟩
  | cons c calls ih =>
    rcases hcall : b.call c with ⟨t, b'⟩
    obtain ⟨hrate, hcapacity, hcase⟩ := call_level hcall
    obtain ⟨hr, hc, hmem⟩ := ih b'
    have hafter : b.after (c :: calls) = b'.after calls := by rw [after, List.foldl_cons, hcall, after]
    rw [hafter]
    refine ⟨hr.trans hrate, hc.trans hcapacity, ?_⟩
    rcases hcase with ⟨rfl, -⟩ | ⟨-, hlast, -⟩
    · simp only [List.map_cons, List.mem_cons] at hmem ⊢
      tauto
    · rw [hlast] at hmem
      exact List.mem_cons_of_mem _ hmem

private def filled (b : TokenBucket) (now : Nat) : TokenBucket :=
  { b with tokensScaled := b.level now, lastRefill := now }

private theorem refill_eq (hle : b.lastRefill ≤ now) (hcapacity : b.capacityScaled ≤ u128Max) :
    b.refill now = .ok (b.filled now) := by
  simp only [refill, MonotonicTime.elapsedSince, checkedSub, if_pos hle, saturatingAdd, filled, level,
    Except.ok.injEq, TokenBucket.mk.injEq, true_and, and_true]
  omega

private def ready (b : TokenBucket) (now : Nat) : Nat :=
  now + (tokenScale - b.level now + b.ratePerSecond - 1) / b.ratePerSecond

private theorem nextReady_eq (hle : b.lastRefill ≤ now) (hcapacity : b.capacityScaled ≤ u128Max)
    (hrate : 0 < b.ratePerSecond) (hnow : now ≤ u64Max) :
    b.nextReady now =
      (if b.ready now ≤ u64Max then .ok (b.ready now) else .error .deadlineOverflow, b.filled now) := by
  have hready : b.ready now =
    now + (tokenScale - (b.filled now).tokensScaled + b.ratePerSecond - 1) / b.ratePerSecond :=
    rfl
  simp only [nextReady, refill_eq hle hcapacity]
  split
  · next henough =>
    rw [hready, Nat.sub_eq_zero_of_le henough, Nat.zero_add, Nat.div_eq_of_lt (by omega), Nat.add_zero,
      if_pos hnow]
  · rw [MonotonicTime.checkedAdd, Engine.checkedAdd]
    grind [filled]

/-- A token can be taken at the instant `ready` and after it. -/
private theorem takes_iff {t : Nat} (hcapacity : b.capacityScaled ≤ u128Max)
    (hburst : tokenScale ≤ b.capacityScaled)
    (hrate : 0 < b.ratePerSecond) : (now ≤ t ∧ ((b.filled now).call (.tryTake t)).1) ↔ b.ready now ≤ t := by
  by_cases hle : now ≤ t
  · have hrefill : (b.filled now).refill t = .ok ((b.filled now).filled t) := refill_eq hle hcapacity
    have htokens : ((b.filled now).filled t).tokensScaled < tokenScale ↔
        ¬ tokenScale ≤ b.level now + (t - now) * b.ratePerSecond := by
      change min (b.level now + (t - now) * b.ratePerSecond) b.capacityScaled < tokenScale ↔ _
      omega
    rw [ready, Nat.add_comm, ← Nat.le_sub_iff_add_le hle, Nat.div_le_iff_le_mul_add_pred hrate, Nat.mul_comm]
    simp only [call, tryTake, hrefill, htokens]
    grind
  · exact ⟨fun h => absurd h.1 hle, fun h => absurd ((Nat.le_add_right ..).trans h) hle⟩

/-- In no window of time more tokens are taken than the burst and the rate allow, and the instant that `nextReady`
names is the first one at which a token can be taken. -/
theorem rate_conformance {rate burst t0 : Nat} (h : TokenBucket.new rate burst t0 = .ok b) (calls : List Call) :
    (∀ first last, b.taken first last calls ≤ burst + rate * (last - first) / 1000000) ∧
      ∀ now, now ≤ u64Max → (∀ t ∈ t0 :: calls.map Call.time, t ≤ now) → ∀ ready,
        ((b.after calls).nextReady now).1 = .ok ready ↔
          (now ≤ ready ∧ (((b.after calls).nextReady now).2.call (.tryTake ready)).1) ∧ ready ≤ u64Max ∧
            ∀ t, now ≤ t ∧ (((b.after calls).nextReady now).2.call (.tryTake t)).1 → ready ≤ t := by
  simp only [TokenBucket.new, ite_error_eq_ok] at h
  obtain ⟨hrate, hburst, h⟩ := h
  cases h
  constructor
  · intro first last
    have htaken := taken_le_room first last ⟨rate, burst * tokenScale, burst * tokenScale, t0⟩ calls
    have hroom := room_le first last ⟨rate, burst * tokenScale, burst * tokenScale, t0⟩
    rw [Nat.mul_comm rate, ← Nat.mul_add_div (by decide), Nat.le_div_iff_mul_le (by decide), Nat.mul_comm 1000000]
    exact htaken.trans hroom
  intro now hnow htimes ready
  obtain ⟨hr, hc, hlast⟩ := after_fixed ⟨rate, burst * tokenScale, burst * tokenScale, t0⟩ calls
  generalize TokenBucket.after _ calls = b at *
  have hcapacity : b.capacityScaled ≤ u128Max := by
    rw [hc]
    simp only [tokenScale, u128Max, maxOutstandingProbes] at *
    omega
  have hfull : tokenScale ≤ b.capacityScaled := by
    rw [hc]
    exact Nat.le_mul_of_pos_left _ (by omega)
  have hpos : 0 < b.ratePerSecond := by
    rw [hr]
    exact Nat.pos_of_ne_zero fun h => hrate (Or.inl h)
  simp only [nextReady_eq (htimes _ hlast) hcapacity hpos hnow, takes_iff hcapacity hfull hpos]
  constructor
  · intro h
    split at h
    · next hfits =>
      cases h
      exact ⟨le_refl _, hfits, fun t ht => ht⟩
    · cases h
  rintro ⟨hready, hfits, hleast⟩
  have heq : ready = b.ready now := le_antisymm (hleast _ (le_refl _)) hready
  rw [heq, if_pos (hready.trans hfits)]

theorem rate_conformance_slow : TokenBucket.new 2 1 0 = .ok ⟨2, 1000000, 1000000, 0⟩ ∧
    taken 0 600000 ⟨2, 1000000, 1000000, 0⟩ [.tryTake 0, .nextReady 0, .tryTake 500000] ≤ 1 +
    2 * 600000 / 1000000 :=
  ⟨rfl, (rate_conformance (b := ⟨2, 1000000, 1000000, 0⟩) rfl [.tryTake 0, .nextReady 0, .tryTake 500000]).1
    0 600000⟩

end TokenBucket

/-! ### Round-trip times -/

structure RttEstimator where
  smoothed : Option Nat := none
  variation : Nat := 0
  samples : Nat := 0
deriving DecidableEq

namespace RttEstimator

variable (r : RttEstimator)

def observe (sample : Nat) : RttEstimator :=
  if sample = 0 then r
  else
    match r.smoothed with
    | none => ⟨some sample, sample / 2, saturatingAdd u64Max r.samples 1⟩
    | some smoothed =>
      let difference := if smoothed ≤ sample then sample - smoothed else smoothed - sample
      { smoothed := some (saturatingAdd u64Max (saturatingMul u64Max smoothed 7) sample / 8)
        variation := saturatingAdd u64Max (saturatingMul u64Max r.variation 3) difference / 4
        samples := saturatingAdd u64Max r.samples 1 }

def timeout (mode : TimingMode) (fallback minimum maximum : Nat) : Except ConfigError Nat :=
  if fallback = 0 ∨ minimum = 0 ∨ minimum > fallback ∨ fallback > maximum then .error .invalidTimeout
  else
    match mode, r.smoothed with
    | .fixedRate, _ => .ok fallback
    | .adaptive, none => .ok fallback
    | .adaptive, some smoothed =>
      .ok (max minimum (min maximum (saturatingAdd u64Max smoothed (saturatingMul u64Max r.variation 4))))

/-- The estimates are not beyond the two bounds. -/
structure Between (r : RttEstimator) (low high : Nat) : Prop where
  smoothed : ∀ value ∈ r.smoothed, low ≤ value ∧ value ≤ high
  variation : r.variation ≤ high

/-- Nothing saturates below the limit, and an average is between what it is the average of. -/
theorem Between.observe {r : RttEstimator} {low high sample : Nat} (h : r.Between low high) (hhigh : high < 2 ^ 60)
    (hsample : sample ≠ 0 → low ≤ sample ∧ sample ≤ high) : (r.observe sample).Between low high := by
  have hvariation := h.variation
  unfold RttEstimator.observe
  split
  · exact h
  next hnonzero =>
  specialize hsample hnonzero
  split
  · exact ⟨by rintro value ⟨⟩; exact hsample, by dsimp only; omega⟩
  next smoothed hsmoothed =>
  have hbounds := h.smoothed smoothed hsmoothed
  refine ⟨?_, ?_⟩
  · rintro value ⟨⟩
    simp only [saturatingAdd, saturatingMul, u64Max]
    omega
  · simp only [saturatingAdd, saturatingMul, u64Max]
    split <;> omega

theorem Between.foldl {samples : List Nat} {low high : Nat} (hhigh : high < 2 ^ 60)
    (hsamples : ∀ sample ∈ samples, sample ≠ 0 → low ≤ sample ∧ sample ≤ high) :
    (samples.foldl RttEstimator.observe {}).Between low high :=
  List.foldlRecOn (motive := (RttEstimator.Between · low high)) samples _ ⟨by simp, Nat.zero_le _⟩
    fun _ hr sample hsample => hr.observe hhigh (hsamples sample hsample)

private theorem isSome_smoothed_observe (sample : Nat) :
    (r.observe sample).smoothed.isSome = true ↔ r.smoothed.isSome = true ∨ sample ≠ 0 := by
  unfold RttEstimator.observe
  split
  · next hzero => simp [hzero]
  · next hnonzero => split <;> simp [hnonzero]

/-- There is an estimate as soon as something was measured. -/
theorem isSome_smoothed_foldl (samples : List Nat) :
    (samples.foldl RttEstimator.observe r).smoothed.isSome = true ↔
      r.smoothed.isSome = true ∨ ∃ sample ∈ samples, sample ≠ 0 := by
  induction samples generalizing r with
  | nil => simp
  | cons sample samples ih =>
    rw [List.foldl_cons, ih, isSome_smoothed_observe, List.exists_mem_cons_iff, or_assoc]

end RttEstimator

end NodeNet.Engine
