import Mathlib.Algebra.Order.BigOperators.Group.List
import Mathlib.Data.List.Flatten
import NodeNet.Context.Records

/-!
# Notifications

A snapshot is kept up to date by applying the notifications of the kernel in turn: a new object replaces those it
is the same as, a deleted one removes them.  Whether two objects are the same is decided by a part of their fields
(`sameRoute`, `sameRule`, ...).  All five kinds of objects are treated alike, so a `Kind` says where its records
are and when two of them are the same.  A notification and the deletion of what it announced take each other back
exactly if no other record is the same (`new_then_delete`).
-/

namespace NodeNet.Context

open List
open Engine (checkedAdd u64Max)

def maxInterfaces : Nat := 4096
def maxAddresses : Nat := 16384
def maxRoutes : Nat := 65536
def maxRules : Nat := 65536
def maxNeighbors : Nat := 65536

structure NormalizedParts where
  interfaces : List InterfaceRecord := []
  addresses : List AddressRecord := []
  routes : List RouteRecord := []
  rules : List RuleRecord := []
  neighbors : List NeighborRecord := []
  unknownBytes : Nat := 0
deriving DecidableEq

inductive RouteNetlinkMessage where
  | newLink (message : LinkMessage)
  | delLink (message : LinkMessage)
  | newAddress (message : AddressMessage)
  | delAddress (message : AddressMessage)
  | newRoute (message : RouteMessage)
  | delRoute (message : RouteMessage)
  | newRule (message : RuleMessage)
  | delRule (message : RuleMessage)
  | newNeighbour (message : NeighbourMessage)
  | delNeighbour (message : NeighbourMessage)
  | other
deriving DecidableEq

/-! ### Identity of objects -/

def sameAddress (left right : AddressRecord) : Bool :=
  left.interfaceIndex = right.interfaceIndex ∧ left.family = right.family ∧
    left.prefixLength = right.prefixLength ∧ left.address = right.address ∧ left.localAddress = right.localAddress

def sameRoute (left right : RouteRecord) : Bool :=
  left.family = right.family ∧ left.destinationPrefixLength = right.destinationPrefixLength ∧
    left.sourcePrefixLength = right.sourcePrefixLength ∧ left.destination = right.destination ∧
    left.source = right.source ∧ left.table = right.table ∧ left.routeType = right.routeType ∧
    left.protocol = right.protocol ∧ left.priority = right.priority

def sameRule (left right : RuleRecord) : Bool :=
  if left.family ≠ right.family then false
  else match left.priority, right.priority with
    | some left, some right => left = right
    | _, _ =>
      left.destinationPrefixLength = right.destinationPrefixLength ∧
        left.sourcePrefixLength = right.sourcePrefixLength ∧ left.destination = right.destination ∧
        left.source = right.source ∧ left.table = right.table ∧ left.action = right.action

def sameNeighbor (left right : NeighborRecord) : Bool :=
  left.family = right.family ∧ left.interfaceIndex = right.interfaceIndex ∧ left.destination = right.destination

/-! ### Unknown attributes -/

variable (parts : NormalizedParts)

def unknownLengths : List Nat :=
  (parts.interfaces.flatMap InterfaceRecord.unknownAttributes ++
    parts.addresses.flatMap AddressRecord.unknownAttributes ++
    parts.routes.flatMap RouteRecord.unknownAttributes ++
    (parts.routes.flatMap RouteRecord.multipath).flatMap RouteNextHopRecord.unknownAttributes ++
    parts.rules.flatMap RuleRecord.unknownAttributes ++
    parts.neighbors.flatMap NeighborRecord.unknownAttributes).map fun unknown => unknown.value.length

abbrev Update := EStateM SnapshotError NormalizedParts

/-- Adds a length to a total below the limit. -/
def addLength (total length : Nat) : Except SnapshotError Nat :=
  match checkedAdd u64Max total length with
  | none => .error (.limitExceeded .snapshotUnknownBytes u64Max maxSnapshotUnknownBytes)
  | some total =>
    if total > maxSnapshotUnknownBytes then
      .error (.limitExceeded .snapshotUnknownBytes total maxSnapshotUnknownBytes)
    else .ok total

def recomputeUnknownBytes : Update Unit := do
  let parts ← get
  match (unknownLengths parts).foldlM addLength 0 with
  | .error error => throw error
  | .ok total => set { parts with unknownBytes := total }

/-! ### Kinds of objects -/

/-- Where the records of a kind are, when two of them are the same, and how many there may be. -/
structure Kind (α : Type) where
  records : NormalizedParts → List α
  withRecords : NormalizedParts → List α → NormalizedParts
  same : α → α → Bool
  maximum : Nat
  resource : SnapshotResource

def interfaceKind : Kind InterfaceRecord where
  records := NormalizedParts.interfaces
  withRecords parts records := { parts with interfaces := records }
  same left right := left.index = right.index
  maximum := maxInterfaces
  resource := .interfaces

def addressKind : Kind AddressRecord where
  records := NormalizedParts.addresses
  withRecords parts records := { parts with addresses := records }
  same := sameAddress
  maximum := maxAddresses
  resource := .addresses

def routeKind : Kind RouteRecord where
  records := NormalizedParts.routes
  withRecords parts records := { parts with routes := records }
  same := sameRoute
  maximum := maxRoutes
  resource := .routes

def ruleKind : Kind RuleRecord where
  records := NormalizedParts.rules
  withRecords parts records := { parts with rules := records }
  same := sameRule
  maximum := maxRules
  resource := .rules

def neighborKind : Kind NeighborRecord where
  records := NormalizedParts.neighbors
  withRecords parts records := { parts with neighbors := records }
  same := sameNeighbor
  maximum := maxNeighbors
  resource := .neighbors

section Kind

variable {α : Type} (kind : Kind α)

def Kind.others (record : α) : List α := (kind.records parts).filter fun value => !kind.same value record

/-- Removes the records that are the same. -/
def Kind.remove (record : α) : Update Unit :=
  modify fun parts => kind.withRecords parts (kind.others parts record)

/-- Adds a record unless there is no room. -/
def Kind.pushBounded (record : α) : Update Unit := do
  let parts ← get
  if (kind.records parts).length = kind.maximum then
    throw (.limitExceeded kind.resource ((kind.records parts).length + 1) kind.maximum)
  else set (kind.withRecords parts (kind.records parts ++ [record]))

/-- Replaces the records that are the same. -/
def Kind.replace (record : α) : Update Unit := do
  kind.remove record
  kind.pushBounded record

end Kind

/-! ### Application -/

/-- Normalizes with a count of unknown bytes of its own. -/
def uncounted {α : Type} (normalization : Normalization α) : Update α := fun parts =>
  match normalization 0 with
  | .ok record _ => .ok record parts
  | .error error _ => .error error parts

/-- Normalizes with the count of the snapshot. -/
def counted {α : Type} (normalization : Normalization α) : Update α := fun parts =>
  match normalization parts.unknownBytes with
  | .ok record total => .ok record { parts with unknownBytes := total }
  | .error error total => .error error { parts with unknownBytes := total }

def applyNotification : RouteNetlinkMessage → Update Unit
  | .newLink message => do
    let record ← counted (normalizeLink message)
    interfaceKind.replace record
  | .delLink message =>
    modify fun parts => { parts with interfaces := parts.interfaces.filter fun value =>
      value.index ≠ message.index }
  | .newAddress message => do
    let record ← counted (normalizeAddress message)
    addressKind.replace record
  | .delAddress message => do
    let record ← uncounted (normalizeAddress message)
    addressKind.remove record
  | .newRoute message => do
    let record ← uncounted (normalizeRoute message)
    routeKind.replace record
  | .delRoute message => do
    let record ← uncounted (normalizeRoute message)
    routeKind.remove record
  | .newRule message => do
    let record ← uncounted (normalizeRule message)
    ruleKind.replace record
  | .delRule message => do
    let record ← uncounted (normalizeRule message)
    ruleKind.remove record
  | .newNeighbour message => do
    let record ← uncounted (normalizeNeighbor message)
    neighborKind.replace record
  | .delNeighbour message => do
    let record ← uncounted (normalizeNeighbor message)
    neighborKind.remove record
  | .other => throw (.incomplete .unexpectedMessage 1)

def applyNotifications : List RouteNetlinkMessage → Update Unit
  | [] => pure ()
  | notification :: notifications => do
    applyNotification notification
    recomputeUnknownBytes
    applyNotifications notifications

/-! ### Counting -/

def unknownTotal : Nat := (unknownLengths parts).sum

def SnapshotError.Bounds (error : SnapshotError) : Prop :=
  ∃ resource actual maximum, error = .limitExceeded resource actual maximum

private theorem foldlM_addLength (lengths : List Nat) {start : Nat} (hstart : start ≤ maxSnapshotUnknownBytes) :
    if start + lengths.sum ≤ maxSnapshotUnknownBytes then lengths.foldlM addLength start = .ok
    (start + lengths.sum)
    else ∃ error, error.Bounds ∧ lengths.foldlM addLength start = .error error := by
  induction lengths generalizing start with
  | nil =>
    rw [sum_nil, Nat.add_zero, if_pos hstart]
    rfl
  | cons length lengths ih =>
    have hmachine : maxSnapshotUnknownBytes ≤ u64Max := by decide
    rw [sum_cons, foldlM_cons]
    by_cases hlength : start + length ≤ maxSnapshotUnknownBytes
    · have hadd : addLength start length = .ok (start + length) := by
        have hchecked : checkedAdd u64Max start length = some (start + length) := if_pos (by omega)
        simp only [addLength, hchecked, if_neg (Nat.not_lt.2 hlength)]
      rw [hadd, ← Nat.add_assoc]
      exact ih hlength
    rw [if_neg (by omega)]
    have hadd : ∃ error, error.Bounds ∧ addLength start length = .error error := by
      unfold addLength checkedAdd
      split
      · exact ⟨_, ⟨_, _, _, rfl⟩, rfl⟩
      next total htotal =>
      rw [Option.ite_none_right_eq_some, Option.some.injEq] at htotal
      exact ⟨_, ⟨_, _, _, rfl⟩, if_pos (by omega)⟩
    obtain ⟨error, hbounds, hadd⟩ := hadd
    exact ⟨error, hbounds, by rw [hadd]; rfl⟩

theorem recompute_ends : Ends recomputeUnknownBytes parts
      (fun _ parts' => unknownTotal parts ≤ maxSnapshotUnknownBytes ∧
        parts' = { parts with unknownBytes := unknownTotal parts })
      (fun error parts' => error.Bounds ∧ ¬ unknownTotal parts ≤ maxSnapshotUnknownBytes ∧ parts' = parts) := by
  have hcount := foldlM_addLength (unknownLengths parts) (Nat.zero_le maxSnapshotUnknownBytes)
  rw [Nat.zero_add] at hcount
  unfold recomputeUnknownBytes
  simp only [ends_bind, ends_get]
  by_cases hle : unknownTotal parts ≤ maxSnapshotUnknownBytes
  · rw [unknownTotal] at hle
    rw [if_pos hle] at hcount
    rw [hcount]
    exact ⟨hle, rfl⟩
  rw [unknownTotal] at hle
  rw [if_neg hle] at hcount
  obtain ⟨error, hbounds, hcount⟩ := hcount
  rw [hcount]
  exact ⟨hbounds, hle, rfl⟩

/-! ### Adding and deleting -/

/-- A kind's records can be exchanged, a record is the same as itself, and fewer records have fewer unknown bytes.
-/
structure Kind.Lawful {α : Type} (kind : Kind α) : Prop where
  records_withRecords : ∀ parts records, kind.records (kind.withRecords parts records) = records
  withRecords_withRecords : ∀ parts records records',
    kind.withRecords (kind.withRecords parts records) records' = kind.withRecords parts records'
  records_recounted : ∀ parts total, kind.records { parts with unknownBytes := total } = kind.records parts
  unknownTotal_recounted : ∀ parts total records,
    unknownTotal (kind.withRecords { parts with unknownBytes := total } records) =
      unknownTotal (kind.withRecords parts records)
  same_refl : ∀ record, kind.same record record = true
  unknownTotal_mono : ∀ parts {records records' : List α}, records.Sublist records' →
    unknownTotal (kind.withRecords parts records) ≤ unknownTotal (kind.withRecords parts records')

theorem sameRule_refl (rule : RuleRecord) : sameRule rule rule = true := by
  unfold sameRule
  rw [if_neg (not_not.2 rfl)]
  split
  · next left right hleft hright =>
    have heq : left = right := Option.some.inj (hleft.symm.trans hright)
    exact decide_eq_true heq
  · exact decide_eq_true ⟨rfl, rfl, rfl, rfl, rfl, rfl⟩

theorem sameRoute_refl (route : RouteRecord) : sameRoute route route = true :=
  decide_eq_true ⟨rfl, rfl, rfl, rfl, rfl, rfl, rfl, rfl, rfl⟩

private theorem sum_unknown_le {α : Type} (unknown : α → List UnknownAttribute) {records records' : List α}
    (hsublist : records.Sublist records') :
    ((records.flatMap unknown).map fun attr => attr.value.length).sum ≤
      ((records'.flatMap unknown).map fun attr => attr.value.length).sum :=
  ((hsublist.flatMap unknown).map _).sum_le_sum fun _ _ => Nat.zero_le _

theorem ruleKind_lawful : ruleKind.Lawful where
  records_withRecords _ _ := rfl
  withRecords_withRecords _ _ _ := rfl
  records_recounted _ _ := rfl
  unknownTotal_recounted _ _ _ := rfl
  same_refl := sameRule_refl
  unknownTotal_mono parts records records' hsublist := by
    have hle := sum_unknown_le RuleRecord.unknownAttributes hsublist
    simp only [unknownTotal, unknownLengths, ruleKind, map_append, sum_append]
    omega

theorem routeKind_lawful : routeKind.Lawful where
  records_withRecords _ _ := rfl
  withRecords_withRecords _ _ _ := rfl
  records_recounted _ _ := rfl
  unknownTotal_recounted _ _ _ := rfl
  same_refl := sameRoute_refl
  unknownTotal_mono parts records records' hsublist := by
    have hown := sum_unknown_le RouteRecord.unknownAttributes hsublist
    have hhops := sum_unknown_le RouteNextHopRecord.unknownAttributes (hsublist.flatMap RouteRecord.multipath)
    simp only [unknownTotal, unknownLengths, routeKind, map_append, sum_append]
    omega

section Lawful

variable {α : Type} {kind : Kind α}

/-- A record for which there is room among the records and the unknown bytes once those it replaces are gone. -/
def Kind.Fits (kind : Kind α) (parts : NormalizedParts) (record : α) : Prop :=
  (kind.others parts record).length ≠ kind.maximum ∧
    unknownTotal (kind.withRecords parts (kind.others parts record ++ [record])) ≤ maxSnapshotUnknownBytes

/-- The update a notification and the deletion of what it announced make. -/
def Kind.addDelete (kind : Kind α) (record : α) : Update Unit := do
  kind.replace record
  recomputeUnknownBytes
  kind.remove record
  recomputeUnknownBytes

theorem Kind.replace_ends (hlawful : kind.Lawful) (parts : NormalizedParts) (record : α) :
    Ends (kind.replace record) parts
      (fun _ parts' => (kind.others parts record).length ≠ kind.maximum ∧
        parts' = kind.withRecords parts (kind.others parts record ++ [record]))
      (fun _ _ => (kind.others parts record).length = kind.maximum) := by
  unfold Kind.replace Kind.remove Kind.pushBounded
  simp only [ends_bind, ends_modify, ends_get, hlawful.records_withRecords]
  refine ends_ite.2 ⟨fun hfull => hfull, fun hroom => ?_⟩
  exact ⟨hroom, hlawful.withRecords_withRecords _ _ _⟩

private theorem others_append (hlawful : kind.Lawful) (parts : NormalizedParts) (record : α) :
    (kind.others parts record ++ [record]).filter (fun value => !kind.same value record) =
      kind.others parts record := by
  rw [filter_append, filter_cons_of_neg (by simp [hlawful.same_refl]), filter_nil, append_nil,
    Kind.others, filter_filter]
  simp

theorem Kind.addDelete_ends (hlawful : kind.Lawful) (parts : NormalizedParts) (record : α) :
    Ends (kind.addDelete record) parts
      (fun _ parts' => kind.Fits parts record ∧ kind.records parts' = kind.others parts record)
      (fun _ _ => ¬ kind.Fits parts record) := by
  unfold Kind.addDelete
  rw [ends_bind]
  refine (Kind.replace_ends hlawful parts record).mono ?_ fun _ _ hfull hfits => hfits.1 hfull
  rintro _ _ ⟨hroom, rfl⟩
  rw [ends_bind]
  refine (recompute_ends _).mono ?_ fun _ _ hfull hfits => hfull.2.1 hfits.2
  rintro _ _ ⟨hbytes, rfl⟩
  simp only [ends_bind, Kind.remove, ends_modify]
  -- The records left are some of those counted before, so that counting them again cannot fail.
  have hothers : kind.others { kind.withRecords parts (kind.others parts record ++ [record]) with
      unknownBytes := unknownTotal (kind.withRecords parts (kind.others parts record ++ [record])) } record =
      kind.others parts record := by
    rw [Kind.others, hlawful.records_recounted, hlawful.records_withRecords, others_append hlawful]
  rw [hothers]
  have hle := hlawful.unknownTotal_mono parts (sublist_append_left (kind.others parts record) [record])
  refine (recompute_ends _).mono ?_ ?_
  · rintro _ _ ⟨_, rfl⟩
    exact ⟨⟨hroom, hbytes⟩, by rw [hlawful.records_recounted, hlawful.records_withRecords]⟩
  rintro _ _ ⟨-, hfull, -⟩
  rw [hlawful.unknownTotal_recounted, hlawful.withRecords_withRecords] at hfull
  exact absurd (Nat.le_trans hle hbytes) hfull

/-- Removing the records that are the same as `record` changes nothing only if there are none. -/
private theorem others_perm_iff (record : α) : (kind.others parts record).Perm (kind.records parts) ↔
      ∀ value ∈ kind.records parts, kind.same value record = false := by
  constructor
  · intro hperm value hvalue
    have hmem := hperm.mem_iff.2 hvalue
    exact Bool.not_eq_true' _ ▸ (mem_filter.1 hmem).2
  intro hother
  have heq : kind.others parts record = kind.records parts :=
    filter_eq_self.2 fun value hvalue => by rw [hother value hvalue]; rfl
  rw [heq]

/-- Adding and deleting a record takes the records back exactly if it is refused or no record is the same. -/
theorem Kind.addDelete_perm (hlawful : kind.Lawful) (parts : NormalizedParts) (record : α) :
    ((∃ parts', kind.addDelete record parts = .ok () parts') ↔ kind.Fits parts record) ∧
      ((∀ parts', kind.addDelete record parts = .ok () parts' → (kind.records parts').Perm (kind.records parts)) ↔
        (kind.Fits parts record → ∀ value ∈ kind.records parts, kind.same value record = false)) := by
  have hends := Kind.addDelete_ends hlawful parts record
  rw [← others_perm_iff]
  cases hrun : kind.addDelete record parts with
  | ok _ parts' =>
    obtain ⟨hfits, hrecords⟩ := hends.of_ok hrun
    refine ⟨⟨fun _ => hfits, fun _ => ⟨parts', rfl⟩⟩, fun hall _ => ?_, fun hperm result hresult => ?_⟩
    · exact hrecords ▸ hall parts' rfl
    · cases hresult
      exact hrecords ▸ hperm hfits
  | error error parts' =>
    have hfits := hends.of_error hrun
    refine ⟨⟨?_, fun h => absurd h hfits⟩, fun _ h => absurd h hfits, fun _ result hresult => ?_⟩
    · rintro ⟨result, hresult⟩
      cases hresult
    · cases hresult

end Lawful

/-! ### Rules and routes -/

theorem uncounted_of_ok {α : Type} {normalization : Normalization α} {record : α} {total : Nat}
    (hok : normalization 0 = .ok record total) : uncounted normalization = pure record := by
  funext parts
  simp only [uncounted, hok]
  rfl

private theorem apply_rule {message : RuleMessage} {rule : RuleRecord} {total : Nat}
    (hrule : normalizeRule message 0 = .ok rule total) :
    applyNotifications [.newRule message, .delRule message] = ruleKind.addDelete rule := by
  simp [applyNotifications, applyNotification, uncounted_of_ok hrule, Kind.addDelete]

private theorem apply_route {message : RouteMessage} {route : RouteRecord} {total : Nat}
    (hroute : normalizeRoute message 0 = .ok route total) :
    applyNotifications [.newRoute message, .delRoute message] = routeKind.addDelete route := by
  simp [applyNotifications, applyNotification, uncounted_of_ok hroute, Kind.addDelete]

/-- A rule (a route) that is announced and deleted leaves the rules (the routes) as they were exactly if none of
them is the same as it in the sense of `sameRule` (`sameRoute`), or the snapshot has no room for it. -/
theorem new_then_delete (parts : NormalizedParts) :
    (∀ message rule total, normalizeRule message 0 = .ok rule total →
      ((∃ parts', applyNotifications [.newRule message, .delRule message] parts = .ok () parts') ↔
        ruleKind.Fits parts rule) ∧
      ((∀ parts', applyNotifications [.newRule message, .delRule message] parts = .ok () parts' →
          parts'.rules.Perm parts.rules) ↔
        (ruleKind.Fits parts rule → ∀ value ∈ parts.rules, sameRule value rule = false))) ∧
    (∀ message route total, normalizeRoute message 0 = .ok route total →
      ((∃ parts', applyNotifications [.newRoute message, .delRoute message] parts = .ok () parts') ↔
        routeKind.Fits parts route) ∧
      ((∀ parts', applyNotifications [.newRoute message, .delRoute message] parts = .ok () parts' →
          parts'.routes.Perm parts.routes) ↔
        (routeKind.Fits parts route → ∀ value ∈ parts.routes, sameRoute value route = false))) := by
  constructor
  · intro message rule total hrule
    rw [apply_rule hrule]
    exact Kind.addDelete_perm ruleKind_lawful parts rule
  intro message route total hroute
  rw [apply_route hroute]
  exact Kind.addDelete_perm routeKind_lawful parts route

/-- A rule for the packets with a mark, at a priority. -/
def markedRule (priority mark : Nat) : RuleMessage where
  family := 2
  dstLen := 0
  srcLen := 0
  table := 254
  action := 1
  attributes := [.priority priority, .fwMark mark]

/-- A default route through a gateway, with a metric. -/
def defaultRoute (metric : Nat) (gateway : BitVec 128) : RouteMessage where
  addressFamily := 10
  destinationPrefixLength := 0
  sourcePrefixLength := 0
  table := 254
  kind := 1
  scope := 0
  protocol := 3
  attributes := [.priority metric, .gateway (.ip (.v6 gateway)), .oif 2]

def singlePath : NormalizedParts :=
  endState (applyNotifications [.newRule (markedRule 100 1), .newRoute (defaultRoute 1024 1)]) {}

/-- A rule at another priority and a route with another metric come and go without a trace. -/
theorem new_then_delete_other_metric :
    singlePath.rules.length = 1 ∧ singlePath.routes.length = 1 ∧
      (∀ parts', applyNotifications [.newRule (markedRule 200 2), .delRule (markedRule 200 2)] singlePath =
        .ok () parts' → parts'.rules.Perm singlePath.rules) ∧
      (∀ parts', applyNotifications [.newRoute (defaultRoute 512 2), .delRoute (defaultRoute 512 2)] singlePath =
        .ok () parts' → parts'.routes.Perm singlePath.routes) :=
  ⟨by decide +kernel, by decide +kernel,
    ((new_then_delete singlePath).1 (markedRule 200 2) _ _ rfl).2.2 fun _ => by decide +kernel,
    ((new_then_delete singlePath).2 (defaultRoute 512 2) _ _ rfl).2.2 fun _ => by decide +kernel⟩

/-- A rule at the same priority for other packets takes the first rule with it, and a second default route with the
same metric through another gateway takes the first route with it. -/
theorem coexisting_objects_dropped :
    singlePath.rules.length = 1 ∧ singlePath.routes.length = 1 ∧
      Ends (normalizeRule (markedRule 100 2)) 0 (fun rule _ => rule ∉ singlePath.rules) (fun _ _ => False) ∧
      Ends (applyNotifications [.newRule (markedRule 100 2), .delRule (markedRule 100 2)]) singlePath
        (fun _ parts' => parts'.rules = []) (fun _ _ => False) ∧
      Ends (normalizeRoute (defaultRoute 1024 2)) 0 (fun route _ => route ∉ singlePath.routes) (fun _ _ => False) ∧
      Ends (applyNotifications [.newRoute (defaultRoute 1024 2), .delRoute (defaultRoute 1024 2)]) singlePath
        (fun _ parts' => parts'.routes = []) (fun _ _ => False) := by
  decide +kernel

end NodeNet.Context
