import NodeNet.Engine.Scripted

/-!
# Pacing state

Pacing state is kept by target and belongs to the programmes of the target.  Settling the last programme of a
target removes it.  Aborting a programme does not, and neither does a settlement whose commit fails; pacing state
is left behind only when one of these takes the last programme of a paced target (`pacing_anchored`).
-/

namespace NodeNet.Engine

open OrdMap

namespace ScanScheduler

def hasPacing (s : ScanScheduler) (target : ScanTarget) : Bool :=
  s.adaptiveIcmpSeen.contains target || s.adaptiveNotBefore.contains target

/-- Every target with pacing state has a programme. -/
def Anchored (s : ScanScheduler) : Prop :=
  ∀ t, s.hasPacing t = true → ∃ id l, s.programmes.get? id = some l ∧ l.probe.target = t

/-- The programme can go without leaving pacing state behind: its target has none, or has another programme. -/
def CanDrop (s : ScanScheduler) (id : Nat) : Prop :=
  ∀ l, s.programmes.get? id = some l → s.hasPacing l.probe.target = true →
    ∃ i k, i ≠ id ∧ s.programmes.get? i = some k ∧ k.probe.target = l.probe.target

end ScanScheduler

/-- No abort and no failed settlement took the last programme of a target with pacing state. -/
structure DropsSafely (history : List Event) : Prop where
  aborts : ∀ {id s r}, .reached (.abortProgramme id) s r ∈ history → s.CanDrop id
  settles : ∀ {id s r result actual reserved failure},
    [.commitReservedWithBytes result actual reserved (.error failure), .reached (.settleProgramme id) s r]
      <:+: history → s.CanDrop id

theorem DropsSafely.suffix {added h : List Event} (hd : DropsSafely (added ++ h)) : DropsSafely h where
  aborts hm := hd.aborts (List.mem_append_right _ hm)
  settles hm := hd.settles (hm.trans (List.suffix_append ..).isInfix)

def Event.givesUp : Event → Bool
  | reached (.abortProgramme _) _ _ => true
  | commitReservedWithBytes _ _ _ (.error _) => true
  | _ => false

theorem DropsSafely.of_none {history : List Event} (h : ∀ e ∈ history, e.givesUp = false) :
    DropsSafely history where
  aborts hm := by cases h _ hm
  settles hm := by cases h _ (hm.subset (List.mem_cons_self ..))

section Steps

variable {κ : Kind} {c c' : Core} {s s' : ScanScheduler}

private theorem ScanScheduler.Anchored.carry (h : s.Anchored)
    (hpacing : ∀ t, s'.hasPacing t = true → s.hasPacing t = true)
    (hkept : ∀ {id l}, s.programmes.get? id = some l →
      ∃ l', s'.programmes.get? id = some l' ∧ l'.probe.target = l.probe.target) : s'.Anchored := by
  intro t ht
  obtain ⟨id, l, hl, rfl⟩ := h t (hpacing t ht)
  obtain ⟨l', hl', htarget⟩ := hkept hl
  exact ⟨id, l', hl', htarget⟩

private theorem kept_of_revise {programmes : OrdMap Nat ProgrammeLogical} {i : Nat} {l l' : ProgrammeLogical}
    (held : programmes.get? i = some l) (hl : l'.Revises l) {id : Nat} {k : ProgrammeLogical}
    (hk : programmes.get? id = some k) :
    ∃ k', (programmes.insert i l').get? id = some k' ∧ k'.probe.target = k.probe.target := by
  by_cases h : id = i
  · subst h
    rw [held, Option.some.injEq] at hk
    subst hk
    exact ⟨l', get?_insert_self .., by rw [hl.probe]⟩
  · exact ⟨k, by rw [get?_insert_of_ne _ _ h, hk], rfl⟩

private theorem ScanScheduler.Anchored.drop (h : s.Anchored) {id : Nat} (hdrop : s.CanDrop id)
    (hpacing : ∀ t, s'.hasPacing t = true → s.hasPacing t = true)
    (hprogrammes : s'.programmes = s.programmes.erase id) : s'.Anchored := by
  intro t ht
  obtain ⟨i, l, hl, rfl⟩ := h t (hpacing t ht)
  rw [hprogrammes]
  by_cases hi : i = id
  · subst hi
    obtain ⟨j, k, hj, hk, htarget⟩ := hdrop l hl (hpacing _ ht)
    exact ⟨j, k, by rw [get?_erase_of_ne _ hj, hk], htarget⟩
  · exact ⟨i, l, by rw [get?_erase_of_ne _ hi, hl], rfl⟩

private theorem contains_insert {α β : Type} [LinearOrder α] {m : OrdMap α β} {k t : α} {v : β}
    (h : (m.insert k v).contains t = true) : t = k ∨ m.contains t = true := by
  rw [contains_iff] at h ⊢
  obtain ⟨v', hv⟩ := h
  rcases of_get?_insert hv with ⟨rfl, -⟩ | ⟨-, hv⟩
  · exact Or.inl rfl
  · exact Or.inr ⟨v', hv⟩

private theorem ScanScheduler.Anchored.settle (h : s.Anchored) {id : Nat} {l : ProgrammeLogical}
    (held : s.programmes.get? id = some l) :
    (ScanScheduler.pruneAdaptiveTargetState { s with programmes := s.programmes.erase id }
    l.probe.target).Anchored := by
  unfold ScanScheduler.pruneAdaptiveTargetState
  split
  · next hother =>
    rw [List.any_eq_true] at hother
    obtain ⟨k, hk, htarget⟩ := hother
    obtain ⟨i, hi⟩ := mem_values.1 hk
    obtain ⟨hne, hi⟩ := of_get?_erase hi
    refine h.drop (fun l' hl' _ => ⟨i, k, hne, hi, ?_⟩) (fun t ht => ht) rfl
    rw [held, Option.some.injEq] at hl'
    subst hl'
    exact eq_of_beq htarget
  -- the target loses its pacing state, and every other target keeps its programmes
  intro t ht
  have hpaced : t ≠ l.probe.target ∧ s.hasPacing t = true := by
    simp only [ScanScheduler.hasPacing, Bool.or_eq_true, contains_iff] at ht ⊢
    rcases ht with ⟨v, hv⟩ | ⟨v, hv⟩
    · exact ⟨(of_get?_erase hv).1, Or.inl ⟨v, (of_get?_erase hv).2⟩⟩
    · exact ⟨(of_get?_erase hv).1, Or.inr ⟨v, (of_get?_erase hv).2⟩⟩
  obtain ⟨hne, hpaced⟩ := hpaced
  obtain ⟨i, k, hk, rfl⟩ := h t hpaced
  have hi : i ≠ id := by
    rintro rfl
    rw [held, Option.some.injEq] at hk
    exact hne (hk ▸ rfl)
  exact ⟨i, k, by simp only [get?_erase_of_ne _ hi, hk], rfl⟩

/-- Every step keeps pacing state anchored, unless it drops the last programme of a target with pacing state. -/
theorem Step.anchored (h : Step κ c c') (hi : Inv c) (hd : DropsSafely c'.history)
    (hc : c.scheduler.lifecycle ≠ .closed → c.scheduler.Anchored) :
    c'.scheduler.lifecycle ≠ .closed → c'.scheduler.Anchored := by
  intro halive
  have hanchored : c.scheduler.Anchored := hc fun hclosed => halive (h.absorbing hi.disposal hclosed)
  cases h with
  | closed => exact absurd rfl halive
  | @opened s h p l bytes probe planned active grace fresh =>
    refine hanchored.carry (fun t ht => ht) fun {id k} hk => ⟨k, ?_, rfl⟩
    have hne : id ≠ p.logicalId := by
      rintro rfl
      simp only at hk
      rw [fresh] at hk
      cases hk
    exact (get?_insert_of_ne _ _ hne).trans hk
  | scheduled held revises | retired sent held names revises | revised held revises | observed held revises
  | tallied request held revises | expired kept held revises | finished held revises =>
    exact hanchored.carry (fun t ht => ht) (kept_of_revise held revises)
  | settled held => exact hanchored.settle held
  | settleRefused held =>
    exact hanchored.drop (hd.settles (List.prefix_append [_, _] _).isInfix) (fun t ht => ht) rfl
  | aborted held =>
    exact hanchored.drop (hd.aborts (List.mem_cons_of_mem _ (List.mem_cons_self ..))) (fun t ht => ht) rfl
  | icmpNoted held =>
    intro t ht
    rw [ScanScheduler.hasPacing, Bool.or_eq_true] at ht
    rcases ht with ht | ht
    · rcases contains_insert ht with rfl | ht
      · exact ⟨_, _, held, rfl⟩
      · exact hanchored t (Bool.or_eq_true _ _ ▸ Or.inl ht)
    · exact hanchored t (Bool.or_eq_true _ _ ▸ Or.inr ht)
  | paced held =>
    intro t ht
    rw [ScanScheduler.hasPacing, Bool.or_eq_true] at ht
    rcases ht with ht | ht
    · exact hanchored t (Bool.or_eq_true _ _ ▸ Or.inl ht)
    rcases contains_insert ht with rfl | ht
    · exact ⟨_, _, held, rfl⟩
    · exact hanchored t (Bool.or_eq_true _ _ ▸ Or.inr ht)
  | _ => exact hanchored

end Steps

/-! ### Runs -/

variable {τ ρ σ : Type} [ProbeTransport τ] [ContextResolver ρ] [ResultSink σ] {w : Session τ ρ σ}

/-- As long as no abort and no failed settlement takes the last programme of a target with pacing state, every
target with pacing state has a programme. -/
theorem pacing_anchored (h : Reachable w) (hd : DropsSafely w.history) (halive : w.scheduler.lifecycle ≠ .closed) :
    w.scheduler.Anchored := by
  refine h.invariant (I := fun c => DropsSafely c.history → c.scheduler.lifecycle ≠ .closed → c.scheduler.Anchored)
    (fun _ _ _ _ _ t ht => by cases ht) (fun κ c c' hi hc hs hd => ?_) hd halive
  obtain ⟨added, he, -⟩ := hs.events
  exact hs.anchored hi hd (hc (DropsSafely.suffix (he ▸ hd)))

/-- An adaptive scan of two UDP ports of one host, with two requests for each. -/
def twoProgrammes : ScanInputs where
  targets := [.address ⟨.v4 10, none⟩]
  definitions := [udpScan [dnsPort, ⟨54, by decide⟩] twoVariants [] .adaptive]
  config := SchedulerConfig.sample

def twoProgrammesSession : ScriptedSession := twoProgrammes.session.get (by decide +kernel)

/-- The first request of port 53 was answered by an ICMP error. -/
def pacedSession : ScriptedSession := twoProgrammesSession.after [.start 0, .drive 1,
  .handleEvidence 2 ⟨3, .icmpOtherError, .strongPayload128, some ⟨4, 3, 1, false, .strongPayload128⟩, none⟩]

/-- Then the scan was cancelled: port 53 is settled while port 54 still has a programme, and port 54 is aborted. -/
def cancelledSession : ScriptedSession := pacedSession.after [.cancel 3]

theorem paced_reachable : Reachable pacedSession := ScanInputs.reachable _ _

theorem pacing_anchored_paced :
    pacedSession.scheduler.hasPacing ⟨.v4 10, none⟩ = true ∧ pacedSession.scheduler.Anchored := by
  have hdrops : DropsSafely pacedSession.history := .of_none (by decide +kernel)
  exact ⟨by decide +kernel, pacing_anchored paced_reachable hdrops (by decide +kernel)⟩

theorem pacing_outlives_abort : Reachable cancelledSession ∧ cancelledSession.scheduler.lifecycle = .completed ∧
    ¬ cancelledSession.scheduler.Anchored := by
  have hreachable : Reachable cancelledSession := paced_reachable.after _
  have hsize : cancelledSession.scheduler.programmes.size = 0 := by decide +kernel
  have hpacing : cancelledSession.scheduler.hasPacing ⟨.v4 10, none⟩ = true := by decide +kernel
  refine ⟨hreachable, by decide +kernel, fun hanchored => ?_⟩
  obtain ⟨id, l, hl, -⟩ := hanchored _ hpacing
  rw [OrdMap.get?_of_size_eq_zero hsize] at hl
  cases hl

end NodeNet.Engine
