import NodeNet.Base.Changes
import NodeNet.Context.Notifications

/-!
# Replaying notifications

A snapshot is taken by dumping the tables of the kernel while its notifications are buffered, and by applying all
of them to what was dumped.  Some of them were made before the table they concern was dumped, so their effect is
already there. Each notification is an `Effect` on the records of one kind, and an announcement drops the records
that are the same as its own, so replaying it does no harm: the snapshot is the one that the notifications make of
the first state (`replay_coherent`).  Only the bounds of the tables can get in the way, because records of later
notifications take their room while earlier ones are replayed.
-/

namespace NodeNet.Context

open List
open Engine (checkedAdd u64Max)

/-! ### Normalization with different totals -/

/-- Whatever total it starts from, the normalization gives the same record and counts what the record weighs beyond
the base, or it fails: in any case, or because the total does not keep its bound. -/
def Weighs {α : Type} (base : Nat) (weight : α → Nat) (m : Normalization α) : Prop :=
  ∃ o : Option α, (∀ r, o = some r → base ≤ weight r) ∧ ∀ t,
    Ends m t
      (fun r t' => o = some r ∧ t' + base = t + weight r ∧ (weight r = base ∨ t' ≤ maxSnapshotUnknownBytes))
      (fun e _ => o = none ∨ ∃ r, o = some r ∧ e.Bounds ∧ maxSnapshotUnknownBytes + base < t + weight r)

section Weighs

variable {α β : Type} {base : Nat} {f : α → Nat}

theorem Weighs.pure {x : α} (h : f x = base) : Weighs base f (pure x) := by
  refine ⟨some x, fun r hr => ?_, fun t => ⟨rfl, by rw [h], Or.inl h⟩⟩
  cases hr
  exact h.ge

theorem Weighs.throw {e : SnapshotError} : Weighs base f (throw e) :=
  ⟨none, fun r hr => (by cases hr), fun t => Or.inl rfl⟩

theorem Weighs.bind {m : Normalization α} {next : α → Normalization β} {g : β → Nat} (hm : Weighs base f m)
    (hnext : ∀ a, Weighs (f a) g (next a)) : Weighs base g (m >>= next) := by
  obtain ⟨o, hle, hm⟩ := hm
  cases o with
  | none =>
    refine ⟨none, fun r hr => (by cases hr), fun t => Ends.bind (hm t) ?_ fun _ _ _ => Or.inl rfl⟩
    rintro a t' ⟨ha, -⟩
    cases ha
  | some a =>
    obtain ⟨o', hle', hnext⟩ := hnext a
    have hbase := hle a rfl
    refine ⟨o', fun r hr => hbase.trans (hle' r hr), fun t => Ends.bind (hm t) ?_ ?_⟩
    · rintro _ t1 ⟨ha, h1⟩
      obtain rfl := Option.some.inj ha
      refine (hnext t1).mono ?_ ?_
      · rintro r t' ⟨hr, h⟩
        exact ⟨hr, by omega⟩
      rintro e _ (hnone | ⟨r, hr, hbounds, hfull⟩)
      · exact Or.inl hnone
      · exact Or.inr ⟨r, hr, hbounds, by omega⟩
    rintro e _ (hnone | ⟨_, ha, hbounds, hfull⟩)
    · cases hnone
    obtain rfl := Option.some.inj ha
    cases o' with
    | none => exact Or.inl rfl
    | some r =>
      have hmore := hle' r rfl
      exact Or.inr ⟨r, rfl, hbounds, by omega⟩

theorem Weighs.foldlM {γ : Type} {next : α → γ → Normalization α} (hnext : ∀ a c, Weighs (f a) f (next a c))
    (l : List γ) {a : α} (h : f a = base) : Weighs base f (l.foldlM next a) := by
  induction l generalizing a base with
  | nil => exact .pure h
  | cons c l ih =>
    rw [foldlM_cons, ← h]
    exact (hnext a c).bind fun _ => ih rfl

theorem Weighs.ite {c : Prop} [Decidable c] {m m' : Normalization α} (h : Weighs base f m)
    (h' : Weighs base f m') : Weighs base f (if c then m else m') := by
  split
  · exact h
  · exact h'

end Weighs

/-- An unknown attribute is copied if it and the total with it are within their bounds. -/
theorem copyUnknown_ends (unknown : UnknownAttribute) (t : Nat) :
    Ends (copyUnknown unknown) t
      (fun r t' => unknown.value.length ≤ maxUnknownAttributeBytes ∧
        t + unknown.value.length ≤ maxSnapshotUnknownBytes ∧ r = unknown ∧ t' = t + unknown.value.length)
      (fun e _ => e.Bounds ∧ ¬ (unknown.value.length ≤ maxUnknownAttributeBytes ∧
        t + unknown.value.length ≤ maxSnapshotUnknownBytes)) := by
  have hmachine : maxSnapshotUnknownBytes ≤ u64Max := by decide
  unfold copyUnknown
  simp only [ends_ite, ends_throw, ends_bind, ends_get]
  refine ⟨fun hlong => ⟨⟨_, _, _, rfl⟩, by omega⟩, fun hshort => ?_⟩
  by_cases hfits : t + unknown.value.length ≤ u64Max
  · have hadd : checkedAdd u64Max t unknown.value.length = some (t + unknown.value.length) := if_pos hfits
    simp only [hadd, ends_ite, ends_throw, ends_bind, ends_set, ends_pure]
    exact ⟨fun hfull => ⟨⟨_, _, _, rfl⟩, by omega⟩, fun hroom => ⟨by omega, by omega, trivial, trivial⟩⟩
  have hadd : checkedAdd u64Max t unknown.value.length = none := if_neg hfits
  simp only [hadd, ends_throw]
  exact ⟨⟨_, _, _, rfl⟩, by omega⟩

theorem copyUnknown_weighs (unknown : UnknownAttribute) {base : Nat} :
    Weighs base (fun r => base + r.value.length) (copyUnknown unknown) := by
  by_cases hlength : unknown.value.length ≤ maxUnknownAttributeBytes
  · refine ⟨some unknown, fun r _ => Nat.le_add_right .., fun t => (copyUnknown_ends unknown t).mono ?_ ?_⟩
    · rintro r t' ⟨-, hroom, rfl, rfl⟩
      exact ⟨rfl, by dsimp only; omega, Or.inr hroom⟩
    · rintro e _ ⟨hbounds, hfull⟩
      exact Or.inr ⟨unknown, rfl, hbounds, by dsimp only; omega⟩
  refine ⟨none, fun r hr => (by cases hr), fun t => (copyUnknown_ends unknown t).mono ?_ fun _ _ _ => Or.inl rfl⟩
  rintro r t' ⟨hshort, -⟩
  exact absurd hshort hlength

theorem validateString_weighs (value : Bytes) {base : Nat} : Weighs base (fun _ => base) (validateString value) :=
  .ite .throw (.pure rfl)

theorem validateLinkAddress_weighs (value : Bytes) {base : Nat} :
    Weighs base (fun _ => base) (validateLinkAddress value) := .ite .throw (.pure rfl)

/-! ### Weights -/

def weight (unknown : List UnknownAttribute) : Nat := (unknown.map fun attr => attr.value.length).sum

def InterfaceRecord.weight (record : InterfaceRecord) : Nat := Context.weight record.unknownAttributes

def AddressRecord.weight (record : AddressRecord) : Nat := Context.weight record.unknownAttributes

def RouteRecord.weight (record : RouteRecord) : Nat :=
  Context.weight record.unknownAttributes + Context.weight
    (record.multipath.flatMap RouteNextHopRecord.unknownAttributes)

def RuleRecord.weight (record : RuleRecord) : Nat := Context.weight record.unknownAttributes

def NeighborRecord.weight (record : NeighborRecord) : Nat := Context.weight record.unknownAttributes

theorem weight_append (unknown unknown' : List UnknownAttribute) :
    weight (unknown ++ unknown') = weight unknown + weight unknown' := by
  simp [weight]

variable {α : Type}

private theorem weight_flatMap (f : α → List UnknownAttribute) (records : List α) :
    weight (records.flatMap f) = (records.map fun record => weight (f record)).sum := by
  induction records with
  | nil => rfl
  | cons record records ih => rw [flatMap_cons, weight_append, ih, map_cons, sum_cons]

variable (parts : NormalizedParts)

/-- The unknown bytes of a snapshot are those of its records. -/
theorem unknownTotal_eq : unknownTotal parts = (parts.interfaces.map InterfaceRecord.weight).sum +
      (parts.addresses.map AddressRecord.weight).sum + (parts.routes.map RouteRecord.weight).sum +
      (parts.rules.map RuleRecord.weight).sum + (parts.neighbors.map NeighborRecord.weight).sum := by
  have htotal : unknownTotal parts = weight (parts.interfaces.flatMap InterfaceRecord.unknownAttributes ++
      parts.addresses.flatMap AddressRecord.unknownAttributes ++
        parts.routes.flatMap RouteRecord.unknownAttributes ++
      (parts.routes.flatMap RouteRecord.multipath).flatMap RouteNextHopRecord.unknownAttributes ++
      parts.rules.flatMap RuleRecord.unknownAttributes ++
        parts.neighbors.flatMap NeighborRecord.unknownAttributes) := rfl
  have hroutes : (parts.routes.map RouteRecord.weight).sum = _ := sum_map_add
  rw [htotal, hroutes, ← Nat.add_assoc, flatMap_assoc]
  simp only [weight_append, weight_flatMap]
  rfl

theorem weight_snoc (unknown : List UnknownAttribute) (last : UnknownAttribute) :
    weight (unknown ++ [last]) = weight unknown + last.value.length := by
  rw [weight_append]
  simp [weight]

theorem linkAttribute_weighs (record : InterfaceRecord) (attr : LinkAttribute) :
    Weighs record.weight InterfaceRecord.weight (linkAttribute record attr) := by
  cases attr with
  | ifName value => exact (validateString_weighs value).bind fun _ => .pure rfl
  | address value | permAddress value => exact (validateLinkAddress_weighs value).bind fun _ => .pure rfl
  | linkInfo values =>
    refine Weighs.foldlM (fun record info => ?_) values rfl
    cases info with
    | kind text => exact (validateString_weighs text).bind fun _ => .pure rfl
    | other => exact .pure rfl
  | other value => exact (copyUnknown_weighs value).bind fun _ => .pure (weight_snoc ..)
  | _ => exact .pure rfl

theorem normalizeLink_weighs (message : LinkMessage) : Weighs 0 InterfaceRecord.weight (normalizeLink message) :=
  Weighs.bind (Weighs.foldlM linkAttribute_weighs _ rfl) fun _ => .ite .throw (.pure rfl)

theorem addressAttribute_weighs (record : AddressRecord) (attr : AddressAttribute) :
    Weighs record.weight AddressRecord.weight (addressAttribute record attr) := by
  cases attr with
  | label value => exact (validateString_weighs value).bind fun _ => .pure rfl
  | other value => exact (copyUnknown_weighs value).bind fun _ => .pure (weight_snoc ..)
  | _ => exact .pure rfl

theorem normalizeAddress_weighs (message : AddressMessage) : Weighs 0 AddressRecord.weight
    (normalizeAddress message) :=
  Weighs.bind (f := fun _ => 0) (.ite (.pure rfl) .throw) fun _ => Weighs.foldlM addressAttribute_weighs _ rfl

/-! ### Tables -/

inductive Table where
  | interfaces | addresses | routes | rules | neighbors
deriving DecidableEq

namespace Table

abbrev Record : Table → Type
  | interfaces => InterfaceRecord
  | addresses => AddressRecord
  | routes => RouteRecord
  | rules => RuleRecord
  | neighbors => NeighborRecord

def kind : (t : Table) → Kind t.Record
  | interfaces => interfaceKind
  | addresses => addressKind
  | routes => routeKind
  | rules => ruleKind
  | neighbors => neighborKind

def weight : (t : Table) → t.Record → Nat
  | interfaces => InterfaceRecord.weight
  | addresses => AddressRecord.weight
  | routes => RouteRecord.weight
  | rules => RuleRecord.weight
  | neighbors => NeighborRecord.weight

def records (t : Table) (parts : NormalizedParts) : List t.Record := t.kind.records parts

def load (t : Table) (parts : NormalizedParts) : Nat := ((t.records parts).map t.weight).sum

variable {t t' : Table}

theorem records_withRecords (records : List t.Record) :
    t.records (t.kind.withRecords parts records) = records := by
  cases t <;> rfl

theorem withRecords_withRecords (records records' : List t.Record) :
    t.kind.withRecords (t.kind.withRecords parts records) records' = t.kind.withRecords parts records' := by
  cases t <;> rfl

/-- An update of one table leaves the others alone. -/
theorem records_withRecords_of_ne (h : t' ≠ t) (parts : NormalizedParts) (records : List t.Record) :
    t'.records (t.kind.withRecords parts records) = t'.records parts := by
  cases t <;> cases t' <;> first | rfl | exact absurd rfl h

theorem same_refl (record : t.Record) : t.kind.same record record = true := by
  cases t with
  | interfaces => exact decide_eq_true rfl
  | addresses => exact decide_eq_true ⟨rfl, rfl, rfl, rfl, rfl⟩
  | routes => exact sameRoute_refl record
  | rules => exact sameRule_refl record
  | neighbors => exact decide_eq_true ⟨rfl, rfl, rfl⟩

end Table

/-- The count of unknown bytes is brought up to date. -/
def NormalizedParts.recounted : NormalizedParts :=
  { parts with unknownBytes := unknownTotal parts }

theorem unknownTotal_eq_load :
    unknownTotal parts = Table.load .interfaces parts + Table.load .addresses parts + Table.load .routes parts +
      Table.load .rules parts + Table.load .neighbors parts := unknownTotal_eq parts

variable {parts parts' : NormalizedParts}

theorem recounted_congr (h : ∀ t : Table, t.records parts = t.records parts') :
    parts.recounted = parts'.recounted := by
  obtain ⟨interfaces, addresses, routes, rules, neighbors, total⟩ := parts
  obtain ⟨interfaces', addresses', routes', rules', neighbors', total'⟩ := parts'
  obtain rfl : interfaces = interfaces' := h .interfaces
  obtain rfl : addresses = addresses' := h .addresses
  obtain rfl : routes = routes' := h .routes
  obtain rfl : rules = rules' := h .rules
  obtain rfl : neighbors = neighbors' := h .neighbors
  rfl

theorem records_recounted (t : Table) (parts : NormalizedParts) : t.records parts.recounted = t.records parts := by
  cases t <;> rfl

/-! ### Effects -/

/-- What a notification does: it changes one table. -/
structure Effect where
  table : Table
  change : Change table.Record

namespace Effect

def on (e : Effect) (parts : NormalizedParts) : NormalizedParts :=
  e.table.kind.withRecords parts (e.change.apply (e.table.records parts))

/-- The change of a given table. -/
def changes (t : Table) (e : Effect) : Option (Change t.Record) :=
  if h : e.table = t then some (h ▸ e.change) else none

/-- The snapshot after all effects, but for the count. -/
def run (es : List Effect) (parts : NormalizedParts) : NormalizedParts :=
    es.foldl (fun parts e => e.on parts) parts

theorem records_on (t : Table) (e : Effect) (parts : NormalizedParts) :
    t.records (e.on parts) = changed (e.changes t).toList (t.records parts) := by
  obtain ⟨t', c⟩ := e
  by_cases h : t' = t
  · subst h
    simp only [changes, dif_pos, on, Table.records_withRecords]
    rfl
  · rw [changes, dif_neg h]
    exact Table.records_withRecords_of_ne (fun h' => h h'.symm) ..

theorem records_run (t : Table) (es : List Effect) (parts : NormalizedParts) :
    t.records (run es parts) = changed (es.filterMap (changes t)) (t.records parts) := by
  induction es generalizing parts with
  | nil => rfl
  | cons e es ih =>
    have hrun : run (e :: es) parts = run es (e.on parts) := rfl
    rw [hrun, ih, records_on]
    cases hc : e.changes t with
    | none => rw [filterMap_cons_none hc]; rfl
    | some c => rw [filterMap_cons_some hc]; rfl

theorem run_recounted (es : List Effect) (parts : NormalizedParts) :
    (run es parts.recounted).recounted = (run es parts).recounted :=
  recounted_congr fun t => by rw [records_run, records_run, records_recounted]

def Renews (e : Effect) : Prop := e.change.Renews

theorem Renews.changes {t : Table} {e : Effect} {c : Change t.Record} (h : e.Renews) (hc : e.changes t = some c) :
    c.Renews := by
  obtain ⟨t', c'⟩ := e
  unfold Effect.changes at hc
  split at hc
  · next heq =>
    dsimp only at heq
    subst heq
    cases hc
    exact h
  · cases hc

/-- There is room for the record that the effect adds, among the records and the unknown bytes. -/
structure Fits (e : Effect) (parts : NormalizedParts) : Prop where
  room : e.change.adds.isSome → (e.table.records (e.on parts)).length ≤ e.table.kind.maximum
  count : ∀ r, e.change.adds = some r → parts.unknownBytes + e.table.weight r ≤ maxSnapshotUnknownBytes
  bytes : unknownTotal (e.on parts) ≤ maxSnapshotUnknownBytes

end Effect

/-- The record that a message is normalized to. -/
def normalized {α : Type} (normalization : Normalization α) : Option α :=
  match normalization 0 with
  | .ok record _ => some record
  | .error _ _ => none

/-- An announcement replaces the records that are the same. -/
def announces (t : Table) (record : t.Record) : Effect := ⟨t, fun value => t.kind.same value record, some record⟩

def withdraws (t : Table) (record : t.Record) : Effect := ⟨t, fun value => t.kind.same value record, none⟩

/-- The effect of a notification that can be normalized. -/
def effect : RouteNetlinkMessage → Option Effect
  | .newLink message => (normalized (normalizeLink message)).map (announces .interfaces)
  | .delLink message => some ⟨.interfaces, fun value => decide (value.index = message.index), none⟩
  | .newAddress message => (normalized (normalizeAddress message)).map (announces .addresses)
  | .delAddress message => (normalized (normalizeAddress message)).map (withdraws .addresses)
  | .newRoute message => (normalized (normalizeRoute message)).map (announces .routes)
  | .delRoute message => (normalized (normalizeRoute message)).map (withdraws .routes)
  | .newRule message => (normalized (normalizeRule message)).map (announces .rules)
  | .delRule message => (normalized (normalizeRule message)).map (withdraws .rules)
  | .newNeighbour message => (normalized (normalizeNeighbor message)).map (announces .neighbors)
  | .delNeighbour message => (normalized (normalizeNeighbor message)).map (withdraws .neighbors)
  | .other => none

theorem announces_renews (t : Table) (record : t.Record) : (announces t record).Renews := by
  intro x hx
  cases hx
  exact Table.same_refl record

theorem withdraws_renews (t : Table) (record : t.Record) : (withdraws t record).Renews := by
  intro x hx
  cases hx

variable {e : Effect}

theorem effect_renews {notification : RouteNetlinkMessage} (h : effect notification = some e) : e.Renews := by
  have map : ∀ {α : Type} {o : Option α} {f : α → Effect}, (∀ a, (f a).Renews) → o.map f = some e → e.Renews := by
    intro α o f hf ho
    obtain ⟨a, -, rfl⟩ := Option.map_eq_some_iff.1 ho
    exact hf a
  cases notification with
  | newLink | newAddress | newRoute | newRule | newNeighbour => exact map (announces_renews _) h
  | delAddress | delRoute | delRule | delNeighbour => exact map (withdraws_renews _) h
  | delLink message =>
    cases h
    intro x hx
    cases hx
  | other => cases h

/-! ### A notification and its effect -/

/-- One notification with the count that follows it. -/
def applyCounted (notification : RouteNetlinkMessage) : Update Unit := do
  applyNotification notification
  recomputeUnknownBytes

/-- The update has the effect, or it is refused because of a bound that the effect does not keep. -/
def Performs (m : Update Unit) (parts : NormalizedParts) (o : Option Effect) : Prop :=
  Ends m parts (fun _ parts' => ∃ e, o = some e ∧ parts' = (e.on parts).recounted)
    (fun error _ => o = none ∨ ∃ e, o = some e ∧ error.Bounds ∧ ¬ e.Fits parts)

theorem records_count (t : Table) (parts : NormalizedParts) (total : Nat) :
    t.records { parts with unknownBytes := total } = t.records parts := by
  cases t <;> rfl

private theorem recompute_effect (h : ∀ t : Table, t.records parts' = t.records (e.on parts)) :
    Ends recomputeUnknownBytes parts' (fun _ parts'' => parts'' = (e.on parts).recounted)
      (fun error _ => error.Bounds ∧ ¬ e.Fits parts) := by
  have hsame := recounted_congr h
  have htotal : unknownTotal parts' = unknownTotal (e.on parts) := congrArg NormalizedParts.unknownBytes hsame
  refine (recompute_ends parts').mono ?_ ?_
  · rintro _ _ ⟨-, rfl⟩
    exact hsame
  · rintro error _ ⟨hbounds, hfull, -⟩
    exact ⟨hbounds, fun hfits => hfull (htotal ▸ hfits.bytes)⟩

private theorem replace_effect (t : Table) (record : t.Record) (parts : NormalizedParts) :
    Ends (t.kind.replace record) parts (fun _ parts' => parts' = (announces t record).on parts)
      (fun error _ => error.Bounds ∧ t.kind.maximum < (t.records ((announces t record).on parts)).length) := by
  have hon : (announces t record).on parts =
      t.kind.withRecords parts (t.kind.others parts record ++ [record]) := rfl
  have hrecords : t.kind.records (t.kind.withRecords parts (t.kind.others parts record)) =
      t.kind.others parts record := Table.records_withRecords ..
  unfold Kind.replace Kind.remove Kind.pushBounded
  simp only [ends_bind, ends_modify, ends_get, hrecords]
  refine ends_ite.2 ⟨fun hfull => ⟨⟨_, _, _, rfl⟩, ?_⟩, fun _ => ?_⟩
  · rw [hon, Table.records_withRecords, length_append, hfull]
    exact Nat.lt_succ_self _
  · rw [ends_set, hon]
    exact Table.withRecords_withRecords ..

private theorem uncounted_ends (m : Normalization α) (parts : NormalizedParts) :
    Ends (uncounted m) parts (fun r parts' => normalized m = some r ∧ parts' = parts)
      (fun _ _ => normalized m = none) := by
  unfold Ends uncounted normalized
  cases m 0 with
  | ok r total => exact ⟨rfl, rfl⟩
  | error e total => exact rfl

private theorem counted_ends {m : Normalization α} {f : α → Nat} (hweighs : Weighs 0 f m)
    (parts : NormalizedParts) :
    Ends (counted m) parts
    (fun r parts' => normalized m = some r ∧ ∃ total, parts' = { parts with unknownBytes := total })
      (fun error _ => normalized m = none ∨ ∃ r, normalized m = some r ∧ error.Bounds ∧
        ¬ parts.unknownBytes + f r ≤ maxSnapshotUnknownBytes) := by
  obtain ⟨o, -, hends⟩ := hweighs
  unfold Ends counted normalized
  cases hrun : m parts.unknownBytes with
  | ok r total =>
    obtain ⟨rfl, hcount⟩ := (hends _).of_ok hrun
    cases hzero : m 0 with
    | ok r' total' => exact ⟨((hends 0).of_ok hzero).1.symm, total, rfl⟩
    | error e total' =>
      -- the bound is kept from the larger total
      rcases (hends 0).of_error hzero with hnone | ⟨r', hr', -, hfull⟩
      · cases hnone
      · cases hr'
        omega
  | error e total =>
    cases hzero : m 0 with
    | error e' total' => exact Or.inl rfl
    | ok r total' =>
      obtain ⟨rfl, -⟩ := (hends 0).of_ok hzero
      rcases (hends _).of_error hrun with hnone | ⟨r', hr', hbounds, hfull⟩
      · cases hnone
      · cases hr'
        exact Or.inr ⟨r, rfl, hbounds, by omega⟩

private theorem withdraw_performs (t : Table) (m : Normalization t.Record) (parts : NormalizedParts) :
    Performs (do
      let _ ← (do let record ← uncounted m; t.kind.remove record)
      recomputeUnknownBytes) parts ((normalized m).map (withdraws t)) := by
  unfold Performs
  rw [ends_bind, ends_bind]
  refine (uncounted_ends m parts).mono ?_ fun _ _ hnone => Or.inl (by rw [hnone]; rfl)
  rintro record _ ⟨hsome, rfl⟩
  have hon : ∀ parts, (withdraws t record).on parts = t.kind.withRecords parts (t.kind.others parts record) :=
    fun parts => congrArg (t.kind.withRecords parts) (append_nil _)
  rw [hsome, Option.map_some, Kind.remove, ends_modify, ← hon]
  exact (recompute_effect fun _ => rfl).mono (fun _ _ h => ⟨_, rfl, h⟩) (fun _ _ h => Or.inr ⟨_, rfl, h⟩)

private theorem announce_performs (t : Table) {m : Update t.Record} {o : Option t.Record}
    (hm : Ends m parts (fun r parts' => o = some r ∧ ∃ total, parts' = { parts with unknownBytes := total })
      (fun error _ => o = none ∨ ∃ r, o = some r ∧ error.Bounds ∧
        ¬ parts.unknownBytes + t.weight r ≤ maxSnapshotUnknownBytes)) :
    Performs (do
      let _ ← (do let record ← m; t.kind.replace record)
      recomputeUnknownBytes) parts (o.map (announces t)) := by
  unfold Performs
  rw [ends_bind, ends_bind]
  refine hm.mono ?_ ?_
  · rintro record _ ⟨hsome, total, rfl⟩
    -- the count does not matter for the tables
    have htables : ∀ t', Table.records t' ((announces t record).on { parts with unknownBytes := total }) =
        Table.records t' ((announces t record).on parts) := by
      intro t'
      rw [Effect.records_on, Effect.records_on, records_count]
    rw [hsome, Option.map_some]
    refine (replace_effect t record _).mono ?_ fun _ _ hfull => ?_
    · rintro _ _ rfl
      exact (recompute_effect htables).mono (fun _ _ h => ⟨_, rfl, h⟩) (fun _ _ h => Or.inr ⟨_, rfl, h⟩)
    refine Or.inr ⟨_, rfl, hfull.1, fun hfits => absurd (hfits.room rfl) (Nat.not_le.2 ?_)⟩
    have hlong := hfull.2
    rw [htables t] at hlong
    exact hlong
  rintro error _ (rfl | ⟨r, rfl, hbounds, hfull⟩)
  · exact Or.inl rfl
  · exact Or.inr ⟨_, rfl, hbounds, fun hfits => hfull (hfits.count r rfl)⟩

private theorem announce_uncounted (t : Table) (m : Normalization t.Record) (parts : NormalizedParts) :
    Performs (do
      let _ ← (do let record ← uncounted m; t.kind.replace record)
      recomputeUnknownBytes) parts ((normalized m).map (announces t)) :=
  announce_performs t ((uncounted_ends m parts).mono (fun _ _ h => ⟨h.1, _, h.2⟩) (fun _ _ h => Or.inl h))

/-- Every notification has its effect, or it is refused because of a bound. -/
theorem applyCounted_performs (notification : RouteNetlinkMessage) (parts : NormalizedParts) :
    Performs (applyCounted notification) parts (effect notification) := by
  cases notification with
  | newLink message =>
    exact announce_performs .interfaces (counted_ends (normalizeLink_weighs message) parts)
  | delLink message =>
    unfold Performs applyCounted applyNotification
    rw [ends_bind, ends_modify]
    refine (recompute_effect (e := ⟨.interfaces, fun value => decide (value.index = message.index), none⟩)
      fun t => ?_).mono (fun _ _ h => ⟨_, rfl, h⟩) (fun _ _ h => Or.inr ⟨_, rfl, h⟩)
    congr 1
    simp only [Effect.on, Change.apply, Option.toList_none, append_nil, ne_eq, decide_not]
    rfl
  | newAddress message =>
    exact announce_performs .addresses (counted_ends (normalizeAddress_weighs message) parts)
  | delAddress message => exact withdraw_performs .addresses (normalizeAddress message) parts
  | newRoute message => exact announce_uncounted .routes (normalizeRoute message) parts
  | delRoute message => exact withdraw_performs .routes (normalizeRoute message) parts
  | newRule message => exact announce_uncounted .rules (normalizeRule message) parts
  | delRule message => exact withdraw_performs .rules (normalizeRule message) parts
  | newNeighbour message => exact announce_uncounted .neighbors (normalizeNeighbor message) parts
  | delNeighbour message => exact withdraw_performs .neighbors (normalizeNeighbor message) parts
  | other => exact Or.inl rfl

/-! ### Lists of notifications -/

variable (notifications : List RouteNetlinkMessage)

def effects : List Effect := notifications.filterMap effect

theorem applyNotifications_cons (notification : RouteNetlinkMessage) (notifications : List RouteNetlinkMessage) :
    applyNotifications (notification :: notifications) =
      (do applyCounted notification; applyNotifications notifications) := by
  rw [applyNotifications, applyCounted, bind_assoc]

theorem applyNotifications_append (before rest : List RouteNetlinkMessage) :
    applyNotifications (before ++ rest) = (do applyNotifications before; applyNotifications rest) := by
  induction before with
  | nil => rfl
  | cons notification before ih =>
    rw [cons_append, applyNotifications_cons, applyNotifications_cons, ih, bind_assoc]

/-- Notifications have their effects one after the other, or one of them cannot be normalized or meets a bound. -/
theorem applyNotifications_ends (parts : NormalizedParts) : Ends (applyNotifications notifications) parts
      (fun _ parts' => (∀ n ∈ notifications, effect n ≠ none) ∧
        parts' = if notifications = [] then parts else (Effect.run (effects notifications) parts).recounted)
      (fun error _ => (∃ n ∈ notifications, effect n = none) ∨ error.Bounds) := by
  induction notifications generalizing parts with
  | nil => exact ⟨fun _ h => (by cases h), rfl⟩
  | cons n notifications ih =>
    rw [applyNotifications_cons, ends_bind]
    refine Ends.mono (applyCounted_performs n parts) ?_ ?_
    · rintro _ _ ⟨e, he, rfl⟩
      refine (ih _).mono ?_ ?_
      · rintro _ parts' ⟨hall, hparts'⟩
        refine ⟨forall_mem_cons.2 ⟨by rw [he]; simp, hall⟩, ?_⟩
        have heffects : effects (n :: notifications) = e :: effects notifications := filterMap_cons_some he
        rw [hparts', if_neg (cons_ne_nil _ _), heffects]
        split
        · next hnil => rw [hnil]; rfl
        · exact Effect.run_recounted _ _
      rintro error _ (⟨n', hn', hnone⟩ | hbounds)
      · exact Or.inl ⟨n', mem_cons_of_mem _ hn', hnone⟩
      · exact Or.inr hbounds
    rintro error _ (hnone | ⟨e, -, hbounds, -⟩)
    · exact Or.inl ⟨n, mem_cons_self .., hnone⟩
    · exact Or.inr hbounds

/-- The effects of notifications drop what they add, table by table. -/
theorem effects_renew (t : Table) (notifications : List RouteNetlinkMessage) :
    ∀ c ∈ (effects notifications).filterMap (Effect.changes t), c.Renews := by
  intro c hc
  obtain ⟨e, he, hchange⟩ := mem_filterMap.1 hc
  obtain ⟨n, -, hn⟩ := mem_filterMap.1 he
  exact (effect_renews hn).changes hchange

/-- The effects of notifications, made twice, are made once. -/
theorem run_effects_twice (parts : NormalizedParts) :
    (Effect.run (effects notifications) (Effect.run (effects notifications) parts)).recounted =
      (Effect.run (effects notifications) parts).recounted := by
  refine recounted_congr fun t => ?_
  have hreplay := changed_replay [] (effects_renew t notifications) (t.records parts)
  rw [append_nil] at hreplay
  rw [Effect.records_run, Effect.records_run]
  exact hreplay

/-- Replaying the notifications that led to a state leads to it again, unless a bound gets in the way. -/
theorem replay_before {before : List RouteNetlinkMessage}
    (hbefore : applyNotifications before parts = .ok () parts') :
    Ends (applyNotifications before) parts' (fun _ parts'' => parts'' = parts') (fun error _ => error.Bounds) := by
  obtain ⟨hall, hparts'⟩ := (applyNotifications_ends before parts).of_ok hbefore
  refine (applyNotifications_ends before parts').mono ?_ ?_
  · rintro _ parts'' ⟨-, hparts''⟩
    by_cases hnil : before = []
    · rw [if_pos hnil] at hparts''
      exact hparts''
    · rw [if_neg hnil] at hparts' hparts''
      rw [hparts'', hparts', Effect.run_recounted, run_effects_twice]
  rintro error _ (⟨n, hn, hnone⟩ | hbounds)
  · exact absurd hnone (hall n hn)
  · exact hbounds

/-! ### Room -/

/-- The records that notifications announce for a table. -/
def announced (t : Table) (notifications : List RouteNetlinkMessage) : List t.Record :=
  ((effects notifications).filterMap (Effect.changes t)).filterMap Change.adds

/-- The unknown bytes of all records that notifications announce. -/
def announcedBytes : Nat :=
  ((announced .interfaces notifications).map (Table.weight .interfaces)).sum +
    ((announced .addresses notifications).map (Table.weight .addresses)).sum +
    ((announced .routes notifications).map (Table.weight .routes)).sum +
    ((announced .rules notifications).map (Table.weight .rules)).sum +
    ((announced .neighbors notifications).map (Table.weight .neighbors)).sum

/-- A snapshot with room for all records that notifications announce.  A link or an address is charged while the
record that it replaces is still there, which a route, a rule or a neighbour is not, so the bytes that are
announced count twice: what fits when every record is counted once can be refused. -/
structure Roomy (parts : NormalizedParts) (notifications : List RouteNetlinkMessage) : Prop where
  records : ∀ t : Table, (t.records parts).length + (announced t notifications).length ≤ t.kind.maximum
  bytes : unknownTotal parts + 2 * announcedBytes notifications ≤ maxSnapshotUnknownBytes

/-- The state in which the notifications `done` were replayed. -/
private def replayed (done before : List RouteNetlinkMessage) (parts : NormalizedParts) : NormalizedParts :=
  Effect.run (effects done) (Effect.run (effects before) parts)

variable {done before : List RouteNetlinkMessage}

/-- While notifications are replayed, a table has at most the records it had at first and those that are announced.
-/
private theorem sum_replay_le (h : done <+: before) (parts : NormalizedParts) (t : Table) (f : t.Record → Nat) :
    ((t.records (replayed done before parts)).map f).sum ≤
      ((t.records parts).map f).sum + ((announced t before).map f).sum := by
  obtain ⟨rest, rfl⟩ := h
  have happend : (effects (done ++ rest)).filterMap (Effect.changes t) =
      (effects done).filterMap (Effect.changes t) ++ (effects rest).filterMap (Effect.changes t) := by
    rw [effects, filterMap_append, filterMap_append]
    rfl
  rw [replayed, Effect.records_run, Effect.records_run, announced, happend]
  exact sum_changed_replay_le f (effects_renew t done) _

private theorem sum_ones (l : List α) : (l.map fun _ => 1).sum = l.length := by simp

private theorem unknownTotal_replay_le (h : done <+: before) (parts : NormalizedParts) :
    unknownTotal (replayed done before parts) ≤ unknownTotal parts + announcedBytes before := by
  have hinterfaces := sum_replay_le h parts .interfaces (Table.weight .interfaces)
  have haddresses := sum_replay_le h parts .addresses (Table.weight .addresses)
  have hroutes := sum_replay_le h parts .routes (Table.weight .routes)
  have hrules := sum_replay_le h parts .rules (Table.weight .rules)
  have hneighbors := sum_replay_le h parts .neighbors (Table.weight .neighbors)
  simp only [unknownTotal_eq_load, Table.load, announcedBytes]
  omega

private theorem weight_le_announcedBytes {notifications : List RouteNetlinkMessage}
    (he : e ∈ effects notifications)
    {r : e.table.Record} (hr : e.change.adds = some r) : e.table.weight r ≤ announcedBytes notifications := by
  have hmem : r ∈ announced e.table notifications :=
    mem_filterMap.2 ⟨e.change, mem_filterMap.2 ⟨e, he, dif_pos rfl⟩, hr⟩
  have hle : e.table.weight r ≤ ((announced e.table notifications).map e.table.weight).sum :=
    single_le_sum (fun _ _ => Nat.zero_le _) _ (mem_map_of_mem hmem)
  unfold announcedBytes
  obtain ⟨t, c⟩ := e
  cases t <;> dsimp only at hle ⊢ <;> omega

/-- With room for all records, notifications can be replayed. -/
theorem replay_roomy (hbefore : applyNotifications before parts = .ok () parts') (hroomy : Roomy parts before) :
    Ends (applyNotifications before) parts' (fun _ _ => True) (fun _ _ => False) := by
  obtain ⟨hall, hparts'⟩ := (applyNotifications_ends before parts).of_ok hbefore
  -- `done` was replayed and `todo` is left; the state is that of the tables after `done`, counted
  have hreplay : ∀ todo done, done ++ todo = before →
      Ends (applyNotifications todo) (replayed done before parts).recounted (fun _ _ => True)
        (fun _ _ => False) := by
    intro todo
    induction todo with
    | nil => exact fun _ _ => trivial
    | cons n todo ih =>
      intro done hsplit
      have hn : n ∈ before := hsplit ▸ mem_append_right _ (mem_cons_self ..)
      have hsplit' : (done ++ [n]) ++ todo = before := by rw [append_assoc, singleton_append, hsplit]
      obtain ⟨e, he⟩ := Option.ne_none_iff_exists'.1 (hall n hn)
      -- the effect of `n` is that of the last notification of `done ++ [n]`
      have heffects : effects (done ++ [n]) = effects done ++ [e] := by
        rw [effects, filterMap_append, filterMap_cons_some he, filterMap_nil]
        rfl
      have hrun : replayed (done ++ [n]) before parts = e.on (replayed done before parts) := by
        rw [replayed, heffects, Effect.run, foldl_append]
        rfl
      have htables : ∀ t : Table, t.records (e.on (replayed done before parts).recounted) =
          t.records (replayed (done ++ [n]) before parts) := by
        intro t
        rw [hrun, Effect.records_on, Effect.records_on, records_recounted]
      have hafter := recounted_congr htables
      have hbytes := unknownTotal_replay_le ⟨todo, hsplit'⟩ parts
      have hcount := unknownTotal_replay_le ⟨n :: todo, hsplit⟩ parts
      have hroom := hroomy.bytes
      have hfits : e.Fits (replayed done before parts).recounted := by
        refine ⟨fun _ => ?_, fun r hr => ?_, ?_⟩
        · have hlength := sum_replay_le ⟨todo, hsplit'⟩ parts e.table fun _ => 1
          simp only [sum_ones] at hlength
          rw [htables]
          exact hlength.trans (hroomy.records e.table)
        · have hweight := weight_le_announcedBytes (mem_filterMap.2 ⟨n, hn, he⟩) hr
          change unknownTotal (replayed done before parts) + _ ≤ _
          omega
        have hsum : unknownTotal (e.on (replayed done before parts).recounted) =
            unknownTotal (replayed (done ++ [n]) before parts) := congrArg NormalizedParts.unknownBytes hafter
        omega
      rw [applyNotifications_cons, ends_bind]
      refine Ends.mono (applyCounted_performs n _) ?_ ?_
      · rintro _ state' ⟨e', he', rfl⟩
        obtain rfl := Option.some.inj (he.symm.trans he')
        rw [hafter]
        exact ih (done ++ [n]) hsplit'
      rintro error _ (hnone | ⟨e', he', -, hfull⟩)
      · rw [he] at hnone
        cases hnone
      · obtain rfl := Option.some.inj (he.symm.trans he')
        exact hfull hfits
  by_cases hnil : before = []
  · subst hnil
    exact trivial
  · rw [if_neg hnil] at hparts'
    rw [hparts']
    exact hreplay before [] rfl

/-! ### Snapshots -/

/-- The orders in which the tables are sorted: those that compare the fields of the records one after the other. -/
structure RecordOrders where
  interfaces : InterfaceRecord → InterfaceRecord → Bool
  addresses : AddressRecord → AddressRecord → Bool
  routes : RouteRecord → RouteRecord → Bool
  rules : RuleRecord → RuleRecord → Bool
  neighbors : NeighborRecord → NeighborRecord → Bool

def validateReference (index : Option Nat) (interfaces : List Nat) : Except SnapshotError Unit :=
  match index with
  | none => .ok ()
  | some index => if index ∈ interfaces then .ok () else .error (.incomplete (.disappearingInterface index) 1)

/-- Sorts the tables and checks that the interfaces that the records name are there. -/
def finish (orders : RecordOrders) (unsorted : NormalizedParts) : Except SnapshotError NormalizedParts := do
  let parts := { unsorted with
    interfaces := unsorted.interfaces.mergeSort orders.interfaces
    addresses := unsorted.addresses.mergeSort orders.addresses
    routes := unsorted.routes.mergeSort orders.routes
    rules := unsorted.rules.mergeSort orders.rules
    neighbors := unsorted.neighbors.mergeSort orders.neighbors }
  let indices := parts.interfaces.map InterfaceRecord.index
  parts.interfaces.forM fun interface => do
    validateReference interface.controllerIndex indices
    if interface.linkNetnsId.isNone ∧ interface.linkIndex ≠ some interface.index then
      validateReference interface.linkIndex indices
  parts.addresses.forM fun address => validateReference (some address.interfaceIndex) indices
  parts.routes.forM fun route => do
    validateReference route.inputInterface indices
    validateReference route.outputInterface indices
    route.multipath.forM fun nextHop => validateReference (some nextHop.interfaceIndex) indices
  parts.neighbors.forM fun neighbor => validateReference (some neighbor.interfaceIndex) indices
  pure parts

/-- The snapshot that is made of a state by notifications. -/
def snapshotAfter (orders : RecordOrders) (notifications : List RouteNetlinkMessage) (parts : NormalizedParts) :
    Except SnapshotError NormalizedParts :=
  match applyNotifications notifications parts with
  | .ok _ parts' => finish orders parts'
  | .error error _ => .error error

/-- A dump that was taken after the first notifications, to which all of them are applied, gives the snapshot that
they make of the first state, or a bound is met while the first notifications are replayed.  No bound is met if
every table of the first state has room for all records that they announce, and the unknown bytes for those of the
records twice. -/
theorem replay_coherent (orders : RecordOrders) {first dump : NormalizedParts}
    {before rest : List RouteNetlinkMessage} (hdump : applyNotifications before first = .ok () dump) :
    (snapshotAfter orders (before ++ rest) dump = snapshotAfter orders (before ++ rest) first ∨
      ∃ resource actual maximum,
        snapshotAfter orders (before ++ rest) dump = .error (.limitExceeded resource actual maximum)) ∧
    (Roomy first before → snapshotAfter orders (before ++ rest) dump = snapshotAfter orders
    (before ++ rest) first) := by
  have hjoin : ∀ {parts parts'}, applyNotifications before parts = .ok () parts' →
      applyNotifications (before ++ rest) parts = applyNotifications rest parts' := by
    intro parts parts' hok
    rw [applyNotifications_append]
    change EStateM.bind (applyNotifications before) _ parts = _
    simp only [EStateM.bind, hok]
  have hagain := replay_before hdump
  have hcoherent : ∀ {parts}, applyNotifications before dump = .ok () parts →
      snapshotAfter orders (before ++ rest) dump = snapshotAfter orders (before ++ rest) first := by
    intro parts hok
    obtain rfl : parts = dump := hagain.of_ok hok
    rw [snapshotAfter, snapshotAfter, hjoin hok, hjoin hdump]
  cases hrun : applyNotifications before dump with
  | ok _ parts => exact ⟨Or.inl (hcoherent hrun), fun _ => hcoherent hrun⟩
  | error error parts =>
    refine ⟨Or.inr ?_, fun hroomy => ((replay_roomy hdump hroomy).of_error hrun).elim⟩
    obtain ⟨resource, actual, maximum, rfl⟩ := hagain.of_error hrun
    refine ⟨resource, actual, maximum, ?_⟩
    have hfails : applyNotifications (before ++ rest) dump =
        .error (.limitExceeded resource actual maximum) parts := by
      rw [applyNotifications_append]
      change EStateM.bind (applyNotifications before) _ dump = _
      simp only [EStateM.bind, hrun]
    rw [snapshotAfter, hfails]

def RecordOrders.asFound : RecordOrders where
  interfaces _ _ := true
  addresses _ _ := true
  routes _ _ := true
  rules _ _ := true
  neighbors _ _ := true

def namedLink (index : Nat) : LinkMessage where
  index := index
  flags := 0
  linkLayerType := 1
  attributes := [.ifName [101]]

/-- A link and a rule come, the rule goes again. -/
def flap : List RouteNetlinkMessage :=
  [.newLink (namedLink 1), .newRule (markedRule 100 1), .delRule (markedRule 100 1)]

/-- After the dump, a rule at the same priority comes for other packets. -/
theorem replay_coherent_flap :
    Ends (applyNotifications flap) {}
      (fun _ dump => dump.interfaces.length = 1 ∧
        snapshotAfter .asFound (flap ++ [.newRule (markedRule 100 2)]) dump =
          snapshotAfter .asFound (flap ++ [.newRule (markedRule 100 2)]) {})
      (fun _ _ => False) := by
  have hroomy : Roomy {} flap := ⟨fun t => by cases t <;> decide +kernel, by decide +kernel⟩
  have hlink : Ends (applyNotifications flap) {} (fun _ dump => dump.interfaces.length = 1)
    (fun _ _ => False) := by
    decide +kernel
  cases hrun : applyNotifications flap {} with
  | ok _ dump => exact (ends_of_ok hrun).2 ⟨hlink.of_ok hrun, (replay_coherent .asFound hrun).2 hroomy⟩
  | error error parts => exact (hlink.of_error hrun).elim

def crowded : NormalizedParts where
  interfaces := (List.range 4095).map fun index =>
    { index := index + 1, name := [101], flags := 0, linkLayerType := 1, mtu := none, hardwareAddress := []
      permanentHardwareAddress := [], controllerIndex := none, linkIndex := none, linkNetnsId := none
      operationalState := none, linkKind := none, unknownAttributes := [] }

/-- A link comes and goes, and another one comes. -/
def exchange : List RouteNetlinkMessage :=
  [.newLink (namedLink 5000), .delLink (namedLink 5000), .newLink (namedLink 6000)]

/-- The table has room for one of the two links at a time.  In the dump the second one is there already, so there
is no room for the first one when it is replayed, and no snapshot is made. -/
theorem replay_refused :
    Ends (applyNotifications exchange) crowded
      (fun _ dump => dump.interfaces.length = maxInterfaces ∧
        Ends (applyNotifications exchange) dump (fun _ _ => False)
          (fun error _ => error = .limitExceeded .interfaces 4097 4096))
      (fun _ _ => False) := by
  decide +kernel

end NodeNet.Context
