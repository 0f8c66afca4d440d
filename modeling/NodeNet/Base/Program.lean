import Mathlib.Algebra.Order.Ring.Nat
import Mathlib.Logic.Relation

/-!
# Fallible stateful programs

A program is an `EStateM` computation: it ends with a value or with an error, and in both cases in a state, so that
what was changed before an error stays changed.  `Ends m w Q E` says how `m` ends when it is started in `w`; the
rules below take it apart along the structure of the program.

`Path step L` is a run of a labelled transition system through labels in `L`.  A program is connected to a
transition system by showing that the states before and after it are joined by such a path (`Path.invariant` then
carries every invariant of the steps over to the program).

`Within r m` bounds what `m` does to the state, from whatever state it starts.  The bounds of the parts of a
program compose when the relations do, possibly with a cost that adds up (`Graded`).
-/

namespace NodeNet

theorem toOption_eq_some_iff {ε α : Type} {x : Except ε α} {a : α} : x.toOption = some a ↔ x = .ok a := by
  cases x <;> simp [Except.toOption]

/-- A check is passed on the way to every result. -/
theorem ite_error_eq_ok {ε α : Type} {c : Prop} [Decidable c] {error : ε} {k : Except ε α} {r : α} :
    (if c then .error error else k) = .ok r ↔ ¬ c ∧ k = .ok r := by
  by_cases h : c <;> simp [h]

theorem map_eq_ok {ε α β : Type} {x : Except ε α} {f : α → β} {b : β} (h : x.map f = .ok b) :
    ∃ a, x = .ok a ∧ f a = b := by
  cases x with
  | error => cases h
  | ok a => exact ⟨a, rfl, Except.ok.inj h⟩

section Ends

variable {ε σ α β : Type}

/-- Started in `w`, the program `m` ends with a value and a state in `Q`, or with an error and a state in `E`. -/
def Ends (m : EStateM ε σ α) (w : σ) (Q : α → σ → Prop) (E : ε → σ → Prop) : Prop :=
  match m w with
  | .ok a w' => Q a w'
  | .error e w' => E e w'

variable {m : EStateM ε σ α} {f : α → EStateM ε σ β} {w w' : σ} {Q : α → σ → Prop} {R : β → σ → Prop}
  {E : ε → σ → Prop}

instance [∀ a w', Decidable (Q a w')] [∀ e w', Decidable (E e w')] : Decidable (Ends m w Q E) := by
  unfold Ends
  cases m w <;> infer_instance

theorem ends_of_ok {a : α} (h : m w = .ok a w') : Ends m w Q E ↔ Q a w' := by
  simp only [Ends, h]

theorem ends_of_error {e : ε} (h : m w = .error e w') : Ends m w Q E ↔ E e w' := by
  simp only [Ends, h]

@[simp] theorem ends_pure {a : α} : Ends (pure a) w Q E ↔ Q a w := Iff.rfl

@[simp] theorem ends_throw {e : ε} : Ends (throw e : EStateM ε σ α) w Q E ↔ E e w := Iff.rfl

@[simp] theorem ends_get {Q : σ → σ → Prop} : Ends (get : EStateM ε σ σ) w Q E ↔ Q w w := Iff.rfl

@[simp] theorem ends_set {Q : PUnit → σ → Prop} : Ends (set w' : EStateM ε σ PUnit) w Q E ↔ Q ⟨⟩ w' := Iff.rfl

@[simp] theorem ends_modify {Q : PUnit → σ → Prop} {g : σ → σ} :
    Ends (modify g : EStateM ε σ PUnit) w Q E ↔ Q ⟨⟩ (g w) := Iff.rfl

@[simp] theorem ends_bind : Ends (m >>= f) w R E ↔ Ends m w (fun a w' => Ends (f a) w' R E) E := by
  simp only [Ends, bind, EStateM.bind]
  cases m w <;> rfl

@[simp] theorem ends_map {g : α → β} : Ends (g <$> m) w R E ↔ Ends m w (fun a w' => R (g a) w') E := by
  simp only [Ends, Functor.map, EStateM.map]
  cases m w <;> rfl

@[simp] theorem ends_ite {c : Prop} [Decidable c] {m' : EStateM ε σ α} :
    Ends (if c then m else m') w Q E ↔ (c → Ends m w Q E) ∧ (¬ c → Ends m' w Q E) := by
  by_cases h : c <;> simp [h]

theorem Ends.mono {Q' : α → σ → Prop} {E' : ε → σ → Prop} (h : Ends m w Q E)
    (hQ : ∀ a w', Q a w' → Q' a w') (hE : ∀ e w', E e w' → E' e w') : Ends m w Q' E' := by
  unfold Ends at h ⊢
  cases hm : m w with
  | ok a w' => rw [hm] at h; exact hQ a w' h
  | error e w' => rw [hm] at h; exact hE e w' h

/-- Sequencing: what the first program establishes is the precondition of the second. -/
theorem Ends.bind {F : ε → σ → Prop} (h : Ends m w Q F)
    (hf : ∀ a w', Q a w' → Ends (f a) w' R E) (hE : ∀ e w', F e w' → E e w') : Ends (m >>= f) w R E :=
  ends_bind.2 (h.mono hf hE)

/-- The errors stay as they are. -/
theorem Ends.imp {Q' : α → σ → Prop} (h : Ends m w Q E) (hQ : ∀ a w', Q a w' → Q' a w') : Ends m w Q' E :=
  h.mono hQ fun _ _ he => he

theorem Ends.seq (h : Ends m w Q E) (hf : ∀ a w', Q a w' → Ends (f a) w' R E) : Ends (m >>= f) w R E :=
  h.bind hf fun _ _ he => he

/-- Nothing is said of errors. -/
theorem Ends.safe {Q' : α → σ → Prop} (h : Ends m w Q E) (hQ : ∀ a w', Q a w' → Q' a w') :
    Ends m w Q' fun _ _ => True :=
  h.mono hQ fun _ _ _ => trivial

theorem Ends.and {Q' : α → σ → Prop} {E' : ε → σ → Prop} (h : Ends m w Q E) (h' : Ends m w Q' E') :
    Ends m w (fun a w' => Q a w' ∧ Q' a w') (fun e w' => E e w' ∧ E' e w') := by
  unfold Ends at h h' ⊢
  cases hm : m w with
  | ok a w' | error e w' => rw [hm] at h h'; exact ⟨h, h'⟩

theorem Ends.of_ok {a : α} (h : Ends m w Q E) (hm : m w = .ok a w') : Q a w' := (ends_of_ok hm).1 h

theorem Ends.of_error {e : ε} (h : Ends m w Q E) (hm : m w = .error e w') : E e w' := (ends_of_error hm).1 h

/-- The state in which a program ends, whatever it ends with. -/
def endState (m : EStateM ε σ α) (w : σ) : σ :=
  match m w with
  | .ok _ w' => w'
  | .error _ w' => w'

theorem Ends.endState {P : σ → Prop} (h : Ends m w (fun _ w' => P w') (fun _ w' => P w')) :
    P (NodeNet.endState m w) := by
  unfold Ends at h
  unfold NodeNet.endState
  cases hm : m w <;> rw [hm] at h <;> exact h

/-- A loop over a list: `I l` holds when the elements of `l` are still to be visited. -/
theorem Ends.forM {g : α → EStateM ε σ Unit} {I : List α → σ → Prop} {l : List α} (h : I l w)
    (hstep : ∀ a l w, I (a :: l) w → Ends (g a) w (fun _ w' => I l w') E) :
    Ends (forM l g) w (fun _ w' => I [] w') E := by
  induction l generalizing w with
  | nil => exact h
  | cons a l ih =>
    rw [List.forM_cons]
    exact (hstep a l w h).seq fun _ w' hw' => ih hw'

/-- Visits the elements in order until the program answers `false`. -/
def forUntil (g : α → EStateM ε σ Bool) : List α → EStateM ε σ Unit
  | [] => pure ()
  | a :: l => do
    let again ← g a
    if again then forUntil g l else pure ()

/-- A loop that may stop early: `I l` holds when the elements of `l` are still to be visited, `J` when the loop has
stopped. -/
theorem Ends.forUntil {g : α → EStateM ε σ Bool} {I : List α → σ → Prop} {J : σ → Prop} {l : List α} (h : I l w)
    (hstep : ∀ a l w, I (a :: l) w → Ends (g a) w (fun again w' => if again then I l w' else J w') E)
    (hend : ∀ w, I [] w → J w) : Ends (NodeNet.forUntil g l) w (fun _ w' => J w') E := by
  induction l generalizing w with
  | nil => exact hend w h
  | cons a l ih =>
    unfold NodeNet.forUntil
    refine (hstep a l w h).seq fun again w' hw' => ?_
    cases again with
    | true => exact ih hw'
    | false => exact hw'

end Ends

/-! ### Effects -/

section Within

variable {ε σ α β : Type} {m : EStateM ε σ α} {f : α → EStateM ε σ β} {w : σ}

/-- From whatever state `m` starts, the states before and after it are related by `r`, also when it fails. -/
def Within (r : σ → σ → Prop) (m : EStateM ε σ α) : Prop := ∀ w, Ends m w (fun _ w' => r w w') (fun _ w' => r w w')

theorem Within.mono {r r' : σ → σ → Prop} (h : Within r m) (hr : ∀ w w', r w w' → r' w w') : Within r' m :=
  fun w => (h w).mono (fun _ w' => hr w w') (fun _ w' => hr w w')

/-- Relations between states with a cost that adds up along a composition. -/
class Graded (r : Nat → σ → σ → Prop) : Prop where
  refl : ∀ w, r 0 w w
  trans : ∀ {a b w w' w''}, r a w w' → r b w' w'' → r (a + b) w w''
  mono : ∀ {a b w w'}, a ≤ b → r a w w' → r b w w'

variable {r : Nat → σ → σ → Prop} {a b n : Nat}

theorem Graded.of_preorder {q : σ → σ → Prop} (hrefl : ∀ w, q w w)
    (htrans : ∀ {w w' w''}, q w w' → q w' w'' → q w w'') : Graded fun _ => q :=
  ⟨hrefl, htrans, fun _ h => h⟩

theorem Graded.zero [hr : Graded r] (w : σ) : r n w w := hr.mono (Nat.zero_le n) (hr.refl w)

theorem Within.pure [Graded r] (x : α) : Within (r n) (pure x : EStateM ε σ α) := fun w => Graded.zero w

theorem Within.throw [Graded r] (e : ε) : Within (r n) (throw e : EStateM ε σ α) := fun w => Graded.zero w

theorem Within.bind [hr : Graded r] (h : Within (r a) m) (hf : ∀ x, Within (r b) (f x)) :
    Within (r (a + b)) (m >>= f) := by
  intro w
  refine Ends.bind (h w) (fun x w' hw' => ?_) (fun e w' hw' => hr.mono (Nat.le_add_right a b) hw')
  exact (hf x w').mono (fun _ _ hw'' => hr.trans hw' hw'') (fun _ _ hw'' => hr.trans hw' hw'')

theorem Within.first [Graded r] (h : Within (r 0) m) (hf : ∀ x, Within (r n) (f x)) : Within (r n) (m >>= f) :=
  Nat.zero_add n ▸ h.bind hf

/-- A part with all of the cost, and then the rest. -/
theorem Within.last [Graded r] (h : Within (r n) m) (hf : ∀ x, Within (r 0) (f x)) :
    Within (r n) (m >>= f) := h.bind hf

/-- The method after a part without cost. -/
theorem Within.after [hr : Graded r] {w1 : σ} (h : Within (r n) m) (h1 : r 0 w w1) :
    Ends m w1 (fun _ w' => r n w w') (fun _ w' => r n w w') :=
  (h w1).mono (fun _ _ h' => Nat.zero_add n ▸ hr.trans h1 h') (fun _ _ h' => Nat.zero_add n ▸ hr.trans h1 h')

theorem Within.ite {q : σ → σ → Prop} {c : Prop} [Decidable c] {m' : EStateM ε σ α} (h : c → Within q m)
    (h' : ¬ c → Within q m') : Within q (if c then m else m') := by
  by_cases hc : c
  · rw [if_pos hc]
    exact h hc
  · rw [if_neg hc]
    exact h' hc

/-- A loop costs at most what its rounds cost together. -/
theorem Within.forM [Graded r] {g : α → EStateM ε σ Unit} (hg : ∀ x, Within (r n) (g x)) (l : List α) :
    Within (r (l.length * n)) (forM l g) := by
  induction l with
  | nil => exact Within.pure ()
  | cons x l ih =>
    rw [List.forM_cons, List.length_cons, Nat.succ_mul, Nat.add_comm]
    exact (hg x).bind fun _ => ih

theorem Within.forUntil [Graded r] {g : α → EStateM ε σ Bool} (hg : ∀ x, Within (r n) (g x)) (l : List α) :
    Within (r (l.length * n)) (NodeNet.forUntil g l) := by
  induction l with
  | nil => exact Within.pure ()
  | cons x l ih =>
    unfold NodeNet.forUntil
    rw [List.length_cons, Nat.succ_mul, Nat.add_comm]
    exact (hg x).bind fun again => Within.ite (fun _ => ih) (fun _ => Within.pure ())

end Within

/-! ### Runs of a labelled transition system -/

section Path

variable {ℓ σ : Type} {step : ℓ → σ → σ → Prop} {L L' : ℓ → Prop} {c c' c'' : σ}

/-- `c'` is reached from `c` by steps with labels in `L`. -/
def Path (step : ℓ → σ → σ → Prop) (L : ℓ → Prop) : σ → σ → Prop :=
  Relation.ReflTransGen fun c c' => ∃ l, L l ∧ step l c c'

theorem Path.refl : Path step L c c := Relation.ReflTransGen.refl

theorem Path.single {l : ℓ} (hl : L l) (h : step l c c') : Path step L c c' :=
  Relation.ReflTransGen.single ⟨l, hl, h⟩

theorem Path.trans (h : Path step L c c') (h' : Path step L c' c'') : Path step L c c'' :=
  Relation.ReflTransGen.trans h h'

theorem Path.tail {l : ℓ} (h : Path step L c c') (hl : L l) (h' : step l c' c'') : Path step L c c'' :=
  h.trans (Path.single hl h')

theorem Path.mono (h : Path step L c c') (hL : ∀ l, L l → L' l) : Path step L' c c' :=
  Relation.ReflTransGen.mono (r := fun c c' => ∃ l, L l ∧ step l c c')
    (fun _ _ ⟨l, hl, hs⟩ => ⟨l, hL l hl, hs⟩) _ _ h

/-- An invariant of the steps holds at the end of a path if it holds at its start. -/
theorem Path.invariant {I : σ → Prop} (h : Path step L c c') (hI : I c)
    (hstep : ∀ l c c', L l → I c → step l c c' → I c') : I c' := by
  induction h with
  | refl => exact hI
  | tail _ hs ih =>
    obtain ⟨l, hl, hs⟩ := hs
    exact hstep l _ _ hl ih hs

end Path

end NodeNet
