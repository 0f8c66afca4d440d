import Mathlib.Algebra.BigOperators.Group.List.Basic
import NodeNet.Base.Program
import NodeNet.Engine.Types

/-!
# The discovery budget

A discovery session may retain a fixed number of rows and of metadata bytes.  Each query leases its worst case
before it is sent, and settles the lease with what it retained.  A `Desk` is a budget together with all leases
taken from it, and a run is any sequence of calls on a desk, those that fail included.  The counters of the budget
are the sums over the leases that are not settled (`Desk.Sound`), which is why the checked subtractions and
additions of a settlement cannot fail between two updates.
-/

namespace NodeNet.Discovery

open List
open Engine (checkedAdd checkedSub u64Max)

def usizeMax : Nat := u64Max

structure DiscoveryLimits where
  maxResults : Nat
  maxMetadataBytes : Nat
deriving DecidableEq

structure DiscoveryQueryLease where
  rows : Nat
  metadataBytes : Nat
  settled : Bool
deriving DecidableEq

structure DiscoveryBudget where
  maximumRows : Nat
  maximumMetadataBytes : Nat
  leasedRows : Nat
  leasedMetadataBytes : Nat
  committedRows : Nat
  committedMetadataBytes : Nat
deriving DecidableEq

inductive DiscoveryBudgetError where
  | insufficientCapacity
  | invalidSettlement
  | alreadySettled
  | arithmeticOverflow
deriving DecidableEq

namespace DiscoveryBudget

def new (limits : DiscoveryLimits) : DiscoveryBudget where
  maximumRows := limits.maxResults
  maximumMetadataBytes := limits.maxMetadataBytes
  leasedRows := 0
  leasedMetadataBytes := 0
  committedRows := 0
  committedMetadataBytes := 0

/-- The value of a checked operation, or an error that leaves the changes made before. -/
def check {σ : Type} (value : Option Nat) (error : DiscoveryBudgetError) : EStateM DiscoveryBudgetError σ Nat :=
  match value with
  | some n => pure n
  | none => throw error

/-- Reserves the declared worst case of one query. -/
def tryLease (rows metadataBytes : Nat) : EStateM DiscoveryBudgetError DiscoveryBudget DiscoveryQueryLease := do
  let budget ← get
  let rowsInUse ← check ((checkedAdd usizeMax budget.leasedRows budget.committedRows).bind
    fun value => checkedAdd usizeMax value rows) .arithmeticOverflow
  let bytesInUse ← check ((checkedAdd usizeMax budget.leasedMetadataBytes budget.committedMetadataBytes).bind
    fun value => checkedAdd usizeMax value metadataBytes) .arithmeticOverflow
  if rowsInUse > budget.maximumRows ∨ bytesInUse > budget.maximumMetadataBytes then throw .insufficientCapacity
  else do
    set { budget with
      leasedRows := budget.leasedRows + rows
      leasedMetadataBytes := budget.leasedMetadataBytes + metadataBytes }
    pure ⟨rows, metadataBytes, false⟩

/-- Commits what a query retained and gives the rest of its lease back.  The state is the budget and the lease. -/
def settle (committedRows committedMetadataBytes : Nat) :
    EStateM DiscoveryBudgetError (DiscoveryBudget × DiscoveryQueryLease) Unit := do
  let (_, lease) ← get
  if lease.settled then throw .alreadySettled
  else if committedRows > lease.rows ∨ committedMetadataBytes > lease.metadataBytes then throw .invalidSettlement
  else do
    let leasedRows ← check (checkedSub (← get).1.leasedRows lease.rows) .invalidSettlement
    modify fun (budget, lease) => ({ budget with leasedRows := leasedRows }, lease)
    let leasedMetadataBytes ← check (checkedSub (← get).1.leasedMetadataBytes lease.metadataBytes)
      .invalidSettlement
    modify fun (budget, lease) => ({ budget with leasedMetadataBytes := leasedMetadataBytes }, lease)
    let rows ← check (checkedAdd usizeMax (← get).1.committedRows committedRows) .arithmeticOverflow
    modify fun (budget, lease) => ({ budget with committedRows := rows }, lease)
    let metadataBytes ← check (checkedAdd usizeMax (← get).1.committedMetadataBytes committedMetadataBytes)
      .arithmeticOverflow
    modify fun (budget, lease) => ({ budget with committedMetadataBytes := metadataBytes }, lease)
    modify fun (budget, lease) => (budget, { lease with settled := true })

end DiscoveryBudget

/-! ### Runs -/

/-- A budget and all leases taken from it, oldest first. -/
structure Desk where
  budget : DiscoveryBudget
  leases : List DiscoveryQueryLease
deriving DecidableEq

inductive Call where
  | tryLease (rows metadataBytes : Nat)
  /-- Settles the lease that was taken as the `lease`-th one. -/
  | settle (lease committedRows committedMetadataBytes : Nat)
deriving DecidableEq

namespace Desk

def new (limits : DiscoveryLimits) : Desk := ⟨DiscoveryBudget.new limits, []⟩

/-- Makes a call.  Answers the error, if there is one.  A lease is held in one place, on the desk; in the source
its type is `Copy`, so a copy that was made before a settlement could be settled again. -/
def call (d : Desk) : Call → Option DiscoveryBudgetError × Desk
  | .tryLease rows metadataBytes =>
    match DiscoveryBudget.tryLease rows metadataBytes d.budget with
    | .ok lease budget => (none, ⟨budget, d.leases ++ [lease]⟩)
    | .error e budget => (some e, ⟨budget, d.leases⟩)
  | .settle index committedRows committedMetadataBytes =>
    match d.leases[index]? with
    | none => (none, d)
    | some lease =>
      match DiscoveryBudget.settle committedRows committedMetadataBytes (d.budget, lease) with
      | .ok _ (budget, lease) => (none, ⟨budget, d.leases.set index lease⟩)
      | .error e (budget, lease) => (some e, ⟨budget, d.leases.set index lease⟩)

def run (d : Desk) (calls : List Call) : Desk := calls.foldl (fun d c => (d.call c).2) d

/-- The sum over the leases that are not settled. -/
def outstanding (d : Desk) (amount : DiscoveryQueryLease → Nat) : Nat :=
  ((d.leases.filter fun lease => !lease.settled).map amount).sum

def settles (d : Desk) (index : Nat) (c : Call) : Bool :=
  match c with
  | .tryLease _ _ => false
  | .settle i _ _ => i == index && decide (i < d.leases.length) && (d.call c).1.isNone

def settlements (index : Nat) (d : Desk) : List Call → Nat
  | [] => 0
  | c :: calls => (if d.settles index c then 1 else 0) + settlements index (d.call c).2 calls

/-- The counters are the sums over the leases that are not settled, and the budget holds. -/
structure Sound (d : Desk) : Prop where
  rows : d.budget.leasedRows = d.outstanding DiscoveryQueryLease.rows
  metadataBytes : d.budget.leasedMetadataBytes = d.outstanding DiscoveryQueryLease.metadataBytes
  rowsFit : d.budget.leasedRows + d.budget.committedRows ≤ d.budget.maximumRows
  metadataBytesFit : d.budget.leasedMetadataBytes + d.budget.committedMetadataBytes ≤ d.budget.maximumMetadataBytes
  rowsMachine : d.budget.leasedRows + d.budget.committedRows ≤ usizeMax
  metadataBytesMachine : d.budget.leasedMetadataBytes + d.budget.committedMetadataBytes ≤ usizeMax

end Desk

/-! ### Single calls -/

namespace DiscoveryBudget

variable {b : DiscoveryBudget} {lease : DiscoveryQueryLease} {rows bytes : Nat}

private theorem checkedAdd_bind {max a b c : Nat} :
    ((checkedAdd max a b).bind fun value => checkedAdd max value c) = if a + b + c ≤ max then
    some (a + b + c) else none := by
  unfold Engine.checkedAdd
  by_cases h : a + b + c ≤ max
  · rw [if_pos (by omega), Option.bind_some, if_pos h]
  by_cases h' : a + b ≤ max
  · rw [if_pos h', Option.bind_some]
  · rw [if_neg h', Option.bind_none, if_neg h]

private theorem ends_check {σ : Type} {w : σ} {value : Option Nat} {error : DiscoveryBudgetError}
    {Q : Nat → σ → Prop} {E : DiscoveryBudgetError → σ → Prop} :
    Ends (check value error) w Q E ↔ (∀ n, value = some n → Q n w) ∧ (value = none → E error w) := by
  cases value <;> simp [check]

/-- A lease is granted if it fits, and nothing changes otherwise. -/
theorem tryLease_ends (b : DiscoveryBudget) (rows bytes : Nat) :
    Ends (tryLease rows bytes) b
      (fun lease b' => lease = ⟨rows, bytes, false⟩ ∧
        b.leasedRows + b.committedRows + rows ≤ min b.maximumRows usizeMax ∧
        b.leasedMetadataBytes + b.committedMetadataBytes + bytes ≤ min b.maximumMetadataBytes usizeMax ∧
        b' = { b with
          leasedRows := b.leasedRows + rows
          leasedMetadataBytes := b.leasedMetadataBytes + bytes })
      (fun _ b' => b' = b) := by
  simp only [tryLease, ends_bind, ends_get, ends_check, checkedAdd_bind, ends_ite, ends_throw, ends_set, ends_pure]
  refine ⟨fun n hn => ⟨fun m hm => ⟨fun _ => trivial, fun hfits => ?_⟩, fun _ => trivial⟩, fun _ => trivial⟩
  rw [Option.ite_none_right_eq_some, Option.some.injEq] at hn hm
  refine ⟨trivial, ?_, ?_, trivial⟩ <;> omega

/-- A settlement that the lease covers succeeds, and nothing changes otherwise, as long as the budget counts the
lease. -/
theorem settle_ends (hrows : lease.settled = false → lease.rows ≤ b.leasedRows)
    (hbytes : lease.settled = false → lease.metadataBytes ≤ b.leasedMetadataBytes)
    (hmachine : b.leasedRows + b.committedRows ≤ usizeMax)
    (hmachine' : b.leasedMetadataBytes + b.committedMetadataBytes ≤ usizeMax) (rows bytes : Nat) :
    Ends (settle rows bytes) (b, lease)
      (fun _ s => lease.settled = false ∧ rows ≤ lease.rows ∧ bytes ≤ lease.metadataBytes ∧ s = ({ b with
          leasedRows := b.leasedRows - lease.rows
          leasedMetadataBytes := b.leasedMetadataBytes - lease.metadataBytes
          committedRows := b.committedRows + rows
          committedMetadataBytes := b.committedMetadataBytes + bytes }, { lease with settled := true }))
      (fun _ s => s = (b, lease) ∧ (lease.settled = true ∨ rows > lease.rows ∨ bytes > lease.metadataBytes)) := by
  simp only [settle, ends_bind, ends_get, ends_check, ends_ite, ends_throw, ends_modify, Engine.checkedSub,
    Engine.checkedAdd, Option.ite_none_right_eq_some, Option.some.injEq, ite_eq_right_iff, reduceCtorEq, imp_false]
  refine ⟨fun hsettled => ⟨trivial, Or.inl hsettled⟩, fun hsettled =>
    ⟨fun hover => ⟨trivial, Or.inr hover⟩, fun hcovered => ?_⟩⟩
  have hopen : lease.settled = false := by simpa using hsettled
  have hle := hrows hopen
  have hle' := hbytes hopen
  refine ⟨?_, fun hsub => absurd hle hsub⟩
  rintro n ⟨-, rfl⟩
  refine ⟨?_, fun hsub => absurd hle' hsub⟩
  rintro m ⟨-, rfl⟩
  refine ⟨?_, fun hadd => absurd hadd (not_not.2 (by omega))⟩
  rintro n ⟨-, rfl⟩
  refine ⟨?_, fun hadd => absurd hadd (not_not.2 (by omega))⟩
  rintro m ⟨-, rfl⟩
  exact ⟨hopen, by omega, by omega, rfl⟩

end DiscoveryBudget

namespace Desk

variable {d : Desk} {lease : DiscoveryQueryLease} {index : Nat}

/-! ### Leases of a desk -/

private theorem split_of_getElem? {l : List DiscoveryQueryLease} (h : l[index]? = some lease) :
    ∃ before after, l = before ++ lease :: after ∧ before.length = index ∧
      ∀ lease', l.set index lease' = before ++ lease' :: after := by
  obtain ⟨hlt, rfl⟩ := List.getElem?_eq_some_iff.1 h
  refine ⟨l.take index, l.drop (index + 1), ?_, ?_, fun lease' => ?_⟩
  · rw [cons_getElem_drop_succ, take_append_drop]
  · rw [length_take]
    omega
  · exact set_eq_take_append_cons_drop.trans (if_pos hlt)

private theorem le_outstanding (h : d.leases[index]? = some lease) (hopen : lease.settled = false)
    (amount : DiscoveryQueryLease → Nat) : amount lease ≤ d.outstanding amount := by
  obtain ⟨before, after, hl, -, -⟩ := split_of_getElem? h
  unfold outstanding
  rw [hl]
  simp only [filter_append, filter_cons, hopen, Bool.not_false, if_true, map_append, map_cons,
    sum_append, sum_cons]
  omega

private theorem outstanding_set (h : d.leases[index]? = some lease) (hopen : lease.settled = false)
    (b : DiscoveryBudget) (amount : DiscoveryQueryLease → Nat) :
    outstanding ⟨b, d.leases.set index { lease with settled := true }⟩ amount =
    d.outstanding amount - amount lease := by
  obtain ⟨before, after, hl, -, hset⟩ := split_of_getElem? h
  unfold outstanding
  simp only [hset]
  rw [hl]
  simp only [filter_append, filter_cons, hopen, Bool.not_false, Bool.not_true, if_true, Bool.false_eq_true,
    if_false, map_append, map_cons, sum_append, sum_cons]
  omega

private theorem outstanding_append (b : DiscoveryBudget) (rows bytes : Nat) (amount : DiscoveryQueryLease → Nat) :
    outstanding ⟨b, d.leases ++ [⟨rows, bytes, false⟩]⟩ amount = d.outstanding amount +
    amount ⟨rows, bytes, false⟩ := by
  simp [outstanding]

/-! ### Steps -/

/-- What a call does: it fails and changes nothing, it takes a lease, or it settles one for good. -/
theorem call_cases (h : d.Sound) (c : Call) :
    (d.call c).2 = d ∧ (∀ i, d.settles i c = false) ∨
      (∃ rows bytes, (d.call c).1 = none ∧ (∀ i, d.settles i c = false) ∧
        d.budget.leasedRows + d.budget.committedRows + rows ≤ min d.budget.maximumRows usizeMax ∧
        d.budget.leasedMetadataBytes + d.budget.committedMetadataBytes + bytes ≤
          min d.budget.maximumMetadataBytes usizeMax ∧
        (d.call c).2 = ⟨{ d.budget with
          leasedRows := d.budget.leasedRows + rows
          leasedMetadataBytes := d.budget.leasedMetadataBytes + bytes }, d.leases ++ [⟨rows, bytes, false⟩]⟩) ∨
      (∃ index lease rows bytes, (d.call c).1 = none ∧ (∀ i, d.settles i c = (index == i)) ∧
        d.leases[index]? = some lease ∧ lease.settled = false ∧ rows ≤ lease.rows ∧ bytes ≤ lease.metadataBytes ∧
        (d.call c).2 = ⟨{ d.budget with
          leasedRows := d.budget.leasedRows - lease.rows
          leasedMetadataBytes := d.budget.leasedMetadataBytes - lease.metadataBytes
          committedRows := d.budget.committedRows + rows
          committedMetadataBytes := d.budget.committedMetadataBytes + bytes },
          d.leases.set index { lease with settled := true }⟩) := by
  cases c with
  | tryLease rows bytes =>
    have hends := DiscoveryBudget.tryLease_ends d.budget rows bytes
    simp only [call, settles]
    cases hm : DiscoveryBudget.tryLease rows bytes d.budget with
    | error e b => exact Or.inl ⟨by rw [hends.of_error hm], fun _ => trivial⟩
    | ok lease b =>
      obtain ⟨rfl, hrows, hbytes, rfl⟩ := hends.of_ok hm
      exact Or.inr (Or.inl ⟨rows, bytes, rfl, fun _ => trivial, hrows, hbytes, rfl⟩)
  | settle index rows bytes =>
    simp only [settles, call]
    cases hl : d.leases[index]? with
    | none =>
      have hout := List.getElem?_eq_none_iff.1 hl
      exact Or.inl ⟨rfl, fun i => by simp [Nat.not_lt.2 hout]⟩
    | some lease =>
      have hin := (List.getElem?_eq_some_iff.1 hl).1
      have hends := DiscoveryBudget.settle_ends (fun hopen => h.rows ▸ le_outstanding hl hopen _)
        (fun hopen => h.metadataBytes ▸ le_outstanding hl hopen _) h.rowsMachine h.metadataBytesMachine rows bytes
      cases hm : DiscoveryBudget.settle rows bytes (d.budget, lease) with
      | error e s =>
        obtain ⟨rfl, -⟩ := hends.of_error hm
        simp only [hm]
        refine Or.inl ⟨?_, fun i => by simp⟩
        obtain ⟨hlt, rfl⟩ := List.getElem?_eq_some_iff.1 hl
        rw [set_getElem_self]
      | ok u s =>
        obtain ⟨hopen, hrows, hbytes, rfl⟩ := hends.of_ok hm
        simp only [hm]
        exact Or.inr (Or.inr ⟨index, lease, rows, bytes, trivial, fun i => by simp [hin], hl, hopen,
          hrows, hbytes, rfl⟩)

theorem Sound.call (h : d.Sound) (c : Call) : (d.call c).2.Sound := by
  have hrows := h.rowsFit
  have hbytes := h.metadataBytesFit
  have hmachine := h.rowsMachine
  have hmachine' := h.metadataBytesMachine
  rcases call_cases h c with ⟨hsame, -⟩ | ⟨rows, bytes, -, -, hfits, hfits', hnext⟩ |
    ⟨index, lease, rows, bytes, -, -, hl, hopen, hle, hle', hnext⟩
  · rw [hsame]
    exact h
  · rw [hnext]
    refine ⟨?_, ?_, ?_, ?_, ?_, ?_⟩
    · rw [outstanding_append, ← h.rows]
    · rw [outstanding_append, ← h.metadataBytes]
    all_goals simp only
    all_goals omega
  have hlrows := le_outstanding hl hopen DiscoveryQueryLease.rows
  have hlbytes := le_outstanding hl hopen DiscoveryQueryLease.metadataBytes
  rw [← h.rows] at hlrows
  rw [← h.metadataBytes] at hlbytes
  rw [hnext]
  refine ⟨?_, ?_, ?_, ?_, ?_, ?_⟩
  · rw [outstanding_set hl hopen, ← h.rows]
  · rw [outstanding_set hl hopen, ← h.metadataBytes]
  all_goals simp only
  all_goals omega

theorem new_sound (limits : DiscoveryLimits) : (new limits).Sound := by
  constructor <;> simp [new, DiscoveryBudget.new, outstanding]

theorem Sound.run (h : d.Sound) (calls : List Call) : (d.run calls).Sound := by
  induction calls generalizing d with
  | nil => exact h
  | cons c calls ih => exact ih (h.call c)

private theorem run_maxima (limits : DiscoveryLimits) (calls : List Call) :
    ((new limits).run calls).budget.maximumRows = limits.maxResults ∧
      ((new limits).run calls).budget.maximumMetadataBytes = limits.maxMetadataBytes := by
  have hrun : ∀ d : Desk, d.Sound → (d.run calls).budget.maximumRows = d.budget.maximumRows ∧
      (d.run calls).budget.maximumMetadataBytes = d.budget.maximumMetadataBytes := by
    induction calls with
    | nil => exact fun _ _ => ⟨rfl, rfl⟩
    | cons c calls ih =>
      intro d h
      obtain ⟨hrows, hbytes⟩ := ih (d.call c).2 (h.call c)
      rcases call_cases h c with ⟨hnext, -⟩ | ⟨_, _, -, -, -, -, hnext⟩ | ⟨_, _, _, _, -, -, -, -, -, -, hnext⟩ <;>
        exact ⟨hrows.trans (by rw [hnext]), hbytes.trans (by rw [hnext])⟩
  exact hrun _ (new_sound limits)

/-! ### A lease is settled once -/

/-- A settled lease stays settled, and no call settles it again. -/
theorem call_of_settled (h : d.Sound) (hl : d.leases[index]? = some lease) (hsettled : lease.settled = true)
    (c : Call) :
    d.settles index c = false ∧ (d.call c).2.leases[index]? = some lease := by
  have hin := (List.getElem?_eq_some_iff.1 hl).1
  rcases call_cases h c with ⟨hsame, hnone⟩ | ⟨rows, bytes, -, hnone, -, -, hnext⟩ |
    ⟨other, lease', rows, bytes, -, hsettles, hl', hopen, -, -, hnext⟩
  · rw [hsame]
    exact ⟨hnone index, hl⟩
  · rw [hnext]
    exact ⟨hnone index, by rw [getElem?_append_left hin, hl]⟩
  have hne : other ≠ index := by
    rintro rfl
    rw [hl] at hl'
    obtain rfl := Option.some.inj hl'
    rw [hopen] at hsettled
    cases hsettled
  rw [hnext, hsettles, beq_eq_false_iff_ne, getElem?_set_ne hne]
  exact ⟨hne, hl⟩

private theorem settled_of_settles (h : d.Sound) {c : Call} (hs : d.settles index c = true) :
    ∃ lease : DiscoveryQueryLease, (d.call c).2.leases[index]? = some lease ∧ lease.settled = true := by
  rcases call_cases h c with ⟨-, hnone⟩ | ⟨rows, bytes, -, hnone, -, -, -⟩ |
    ⟨other, lease', rows, bytes, -, hsettles, hl', -, -, -, hnext⟩
  · rw [hnone] at hs
    cases hs
  · rw [hnone] at hs
    cases hs
  rw [hsettles, beq_iff_eq] at hs
  subst hs
  refine ⟨{ lease' with settled := true }, ?_, rfl⟩
  rw [hnext]
  exact getElem?_set_self (List.getElem?_eq_some_iff.1 hl').1

private theorem settlements_of_settled (h : d.Sound) (hl : d.leases[index]? = some lease)
    (hsettled : lease.settled = true) (calls : List Call) : d.settlements index calls = 0 := by
  induction calls generalizing d with
  | nil => rfl
  | cons c calls ih =>
    obtain ⟨hnone, hkept⟩ := call_of_settled h hl hsettled c
    rw [settlements, hnone, ih (h.call c) hkept]
    rfl

theorem settlements_le_one (h : d.Sound) (index : Nat) (calls : List Call) : d.settlements index calls ≤ 1 := by
  induction calls generalizing d with
  | nil => exact Nat.zero_le _
  | cons c calls ih =>
    rw [settlements]
    by_cases hs : d.settles index c = true
    · obtain ⟨lease, hl, hsettled⟩ := settled_of_settles h hs
      rw [if_pos hs, settlements_of_settled (h.call c) hl hsettled]
    rw [if_neg hs]
    have := ih (h.call c)
    omega

/-- In every run: the leased amounts are the sums over the leases that are not settled, what is leased and
committed fits the limits, no call takes back what was committed or changes anything when it fails, and each lease
is settled at most once. -/
theorem budget_conserved (limits : DiscoveryLimits) (calls : List Call) :
    let d := (new limits).run calls
    d.budget.leasedRows = d.outstanding DiscoveryQueryLease.rows ∧
    d.budget.leasedMetadataBytes = d.outstanding DiscoveryQueryLease.metadataBytes ∧
    d.budget.leasedRows + d.budget.committedRows ≤ limits.maxResults ∧
    d.budget.leasedMetadataBytes + d.budget.committedMetadataBytes ≤ limits.maxMetadataBytes ∧
    (∀ c, d.budget.committedRows ≤ (d.call c).2.budget.committedRows ∧
      d.budget.committedMetadataBytes ≤ (d.call c).2.budget.committedMetadataBytes ∧
      ((d.call c).1.isSome = true → (d.call c).2 = d)) ∧
    ∀ index, (new limits).settlements index calls ≤ 1 := by
  have h := (new_sound limits).run calls
  obtain ⟨hrows, hbytes⟩ := run_maxima limits calls
  refine ⟨h.rows, h.metadataBytes, hrows ▸ h.rowsFit, hbytes ▸ h.metadataBytesFit, fun c => ?_,
    fun index => settlements_le_one (new_sound limits) index calls⟩
  rcases call_cases h c with ⟨hsame, -⟩ | ⟨rows, bytes, hok, -, -, -, hnext⟩ |
    ⟨index, lease, rows, bytes, hok, -, -, -, -, -, hnext⟩
  · rw [hsame]
    exact ⟨le_refl _, le_refl _, fun _ => rfl⟩
  · rw [hnext, hok]
    exact ⟨le_refl _, le_refl _, by simp⟩
  · rw [hnext, hok]
    exact ⟨Nat.le_add_right .., Nat.le_add_right .., by simp⟩

end Desk

end NodeNet.Discovery
