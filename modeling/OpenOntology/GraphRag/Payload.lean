import OpenOntology.GraphRag.Contracts
import OpenOntology.Library.OrderedDict

/-!
# The inbound contract

What the interceptor makes of a posted record whose fields have the declared types: the
texts are stripped, the edges de-duplicated, a canonical UUID lower-cased, and the record
is refused where one of its bounds or the topology's cross-check is not met.
-/
namespace OpenOntology.GraphRag
open Library

/-! ## Identifiers -/

def isNodeChar (c : Char) : Bool := c.isAlphanum || ['.', '_', ':', '-'].contains c

/-- `_NODE_ID_RE`: two to 128 characters, the first of them alphanumeric. -/
def isNodeID (s : String) : Bool :=
  lengthWithin 2 128 s && s.toList.head?.any Char.isAlphanum && s.toList.all isNodeChar

def isHexDigit (c : Char) : Bool :=
  c.isDigit || ('a' ≤ c && c ≤ 'f') || ('A' ≤ c && c ≤ 'F')

/-- `_UUID_RE`: 36 characters, four of them hyphens. -/
def isUUID (s : String) : Bool :=
  s.length == 36 && s.toList.zipIdx.all fun entry =>
    if [8, 13, 18, 23].contains entry.2 then entry.1 == '-' else isHexDigit entry.1

/-- A text as the model keeps it, then stripped by the validator of identifiers. -/
def nodeOf (s : String) : String := Python.strip (Python.stripWhitespace s)

def canonicalIdentifier (s : String) : String :=
  if isUUID (nodeOf s) then String.ofList ((nodeOf s).toList.map Char.toLower) else nodeOf s

/-- `d[key] = value` on a dictionary in insertion order. -/
def assign {α : Type} (entries : List (String × α)) (key : String) (value : α) :
    List (String × α) :=
  if entries.any fun held => held.1 == key then
    entries.map fun held => if held.1 = key then (key, value) else held
  else entries ++ [(key, value)]

/-! ## The record -/

structure InboundAsset where
  uuid : String
  name : String
  modelNumber : String
  currentStatus : AssetStatus := .unknown

structure InboundObservation where
  replicaID : String
  addStamp : Int := 0
  removeStamp : Int := 0

structure InboundContext where
  parentSystem : String
  physicalLocation : String
  upstreamDependencies : List String := []
  downstreamImpacts : List String := []
  assignedOperator : String
  dependencyHealth : List (String × AssetStatus) := []
  replicaObservations : List InboundObservation := []
  criticality : String := "UNKNOWN"
  maintenanceWindow : Option String := none

/-- Three channels are declared; every other member of the snapshot is an extra. -/
structure InboundTelemetry where
  vibrationIndex : Option Float := none
  temperatureCelsius : Option Float := none
  crdtCollisionRate : Option Float := none
  extras : List (String × Float) := []

structure InboundPayload where
  eventID : String
  asset : InboundAsset
  context : InboundContext
  telemetry : InboundTelemetry
  originReplica : Option String := none
  lamportClock : Int := 0
  graphRevision : Option String := none
  degraded : Bool := false

/-! ## Validation -/

/-- A length bound on a text, which is checked after stripping. -/
def bounded (low high : Nat) (s : String) : Bool := lengthWithin low high (Python.stripWhitespace s)

namespace InboundAsset

def accepted (a : InboundAsset) : Bool :=
  bounded 2 128 a.uuid && (isUUID (nodeOf a.uuid) || isNodeID (nodeOf a.uuid)) &&
    bounded 1 256 a.name && bounded 1 128 a.modelNumber

def validated (a : InboundAsset) : AssetMetadata where
  uuid := canonicalIdentifier a.uuid
  name := Python.stripWhitespace a.name
  modelNumber := Python.stripWhitespace a.modelNumber
  currentStatus := a.currentStatus

end InboundAsset

namespace InboundObservation

def accepted (o : InboundObservation) : Bool :=
  bounded 1 128 o.replicaID && 0 ≤ o.addStamp && 0 ≤ o.removeStamp

def validated (o : InboundObservation) : ReplicaObservation where
  replicaID := Python.stripWhitespace o.replicaID
  addStamp := o.addStamp.toNat
  removeStamp := o.removeStamp.toNat

end InboundObservation

namespace InboundContext

def accepted (c : InboundContext) : Bool :=
  bounded 1 128 c.parentSystem && isNodeID (nodeOf c.parentSystem) &&
    bounded 1 256 c.physicalLocation &&
    c.upstreamDependencies.length ≤ 64 && (c.upstreamDependencies.all fun raw => isNodeID (nodeOf raw)) &&
    c.downstreamImpacts.length ≤ 128 && (c.downstreamImpacts.all fun raw => isNodeID (nodeOf raw)) &&
    bounded 1 128 c.assignedOperator &&
    c.replicaObservations.length ≤ 64 && c.replicaObservations.all InboundObservation.accepted &&
    bounded 0 64 c.criticality && c.maintenanceWindow.all (bounded 0 128)

/-- Duplicate edges would count twice; the first of them stays. -/
def validated (c : InboundContext) : OntologyContext where
  parentSystem := nodeOf c.parentSystem
  physicalLocation := Python.stripWhitespace c.physicalLocation
  upstreamDependencies := (c.upstreamDependencies.map nodeOf).eraseDups
  downstreamImpacts := (c.downstreamImpacts.map nodeOf).eraseDups
  assignedOperator := Python.stripWhitespace c.assignedOperator
  dependencyHealth := c.dependencyHealth.foldl (fun held entry =>
    assign held (Python.stripWhitespace entry.1) entry.2) []
  replicaObservations := c.replicaObservations.map InboundObservation.validated

end InboundContext

namespace InboundTelemetry

def declared (t : InboundTelemetry) : List (String × Float) :=
  (t.vibrationIndex.map fun value => ("vibration_index", value)).toList ++
    (t.temperatureCelsius.map fun value => ("temperature_celsius", value)).toList ++
    (t.crdtCollisionRate.map fun value => ("crdt_collision_rate", value)).toList

/-- `channels()`: the declared channels, then the extras under their stripped names. -/
def validated (t : InboundTelemetry) : TelemetrySnapshot where
  channels := t.extras.foldl (fun merged entry => assign merged (Python.strip entry.1) entry.2)
    t.declared

/-- The extras are finite; of the declared channels that is not asked. -/
def accepted (t : InboundTelemetry) : Bool :=
  (t.extras.all fun entry => entry.2.isFinite) && !t.validated.channels.isEmpty

end InboundTelemetry

/-- The nodes that channels are attributed to. -/
def TelemetrySnapshot.attributedNodes (t : TelemetrySnapshot) : List String :=
  t.channels.filterMap fun entry =>
    match Python.partition channelSeparator entry.1 with
    | none => none
    | some (owner, channel) =>
      if Python.strip owner = "" ∨ Python.strip channel = "" then none else some (Python.strip owner)

/-- `_cross_check_topology`. -/
def EnrichedGraphPayload.crossChecked (p : EnrichedGraphPayload) : Bool :=
  let context := p.ontologyContext
  !context.upstreamDependencies.contains p.assetMetadata.uuid &&
    !context.downstreamImpacts.contains p.assetMetadata.uuid &&
    (context.upstreamDependencies.all fun node => !context.downstreamImpacts.contains node) &&
    (context.dependencyHealth.all fun entry => p.knownNodes.contains entry.1) &&
    p.telemetrySnapshot.attributedNodes.all fun node => p.knownNodes.contains node

namespace InboundPayload

def validated (r : InboundPayload) : EnrichedGraphPayload where
  eventID := Python.stripWhitespace r.eventID
  assetMetadata := r.asset.validated
  ontologyContext := r.context.validated
  telemetrySnapshot := r.telemetry.validated
  degraded := r.degraded

def accepted (r : InboundPayload) : Bool :=
  bounded 1 128 r.eventID && r.asset.accepted && r.context.accepted && r.telemetry.accepted &&
    r.originReplica.all (bounded 0 128) && 0 ≤ r.lamportClock && r.graphRevision.all (bounded 0 128) &&
    r.validated.crossChecked

/-- `EnrichedGraphPayload.model_validate`, with `none` where it raises. -/
def modelValidate (r : InboundPayload) : Option EnrichedGraphPayload :=
  if r.accepted then some r.validated else none

end InboundPayload

/-- The payload is what the contract makes of some record. -/
def EnrichedGraphPayload.Validated (p : EnrichedGraphPayload) : Prop :=
  ∃ r : InboundPayload, r.modelValidate = some p

/-! ## Node identifiers -/

theorem toNat_lt_of_isAlphanum {c : Char} (alphanumeric : c.isAlphanum = true) : c.toNat < 128 := by
  simp only [Char.isAlphanum, Char.isAlpha, Char.isUpper, Char.isLower, Char.isDigit,
    Bool.or_eq_true, Bool.and_eq_true, decide_eq_true_eq, UInt32.le_iff_toNat_le, ge_iff_le]
    at alphanumeric
  have value : c.toNat = c.val.toNat := rfl
  have z : 'Z'.val.toNat = 90 := rfl
  have z' : 'z'.val.toNat = 122 := rfl
  have nine : '9'.val.toNat = 57 := rfl
  omega

theorem toNat_lt_of_isNodeChar {c : Char} (node : isNodeChar c = true) : c.toNat < 128 := by
  unfold isNodeChar at node
  simp only [Bool.or_eq_true, List.contains_eq_mem, decide_eq_true_eq, List.mem_cons,
    List.not_mem_nil, or_false] at node
  rcases node with alphanumeric | rfl | rfl | rfl | rfl
  · exact toNat_lt_of_isAlphanum alphanumeric
  all_goals decide

theorem toNat_lt_of_isHexDigit {c : Char} (hex : isHexDigit c = true) : c.toNat < 128 := by
  unfold isHexDigit at hex
  simp only [Char.isDigit, Bool.or_eq_true, Bool.and_eq_true, decide_eq_true_eq, ge_iff_le,
    Char.le_def, UInt32.le_iff_toNat_le] at hex
  have value : c.toNat = c.val.toNat := rfl
  have f : 'F'.val.toNat = 70 := rfl
  have f' : 'f'.val.toNat = 102 := rfl
  have nine : '9'.val.toNat = 57 := rfl
  omega

/-- A property of every ASCII character is read off the table of them. -/
theorem ascii_induction {P : Char → Prop} (table : ∀ n < 128, P (Char.ofNat n)) {c : Char}
    (ascii : c.toNat < 128) : P c := by
  have entry := table c.toNat ascii
  rwa [Char.ofNat_toNat] at entry

theorem isAlphanum_of_isHexDigit {c : Char} (hex : isHexDigit c = true) : c.isAlphanum = true :=
  ascii_induction (P := fun c => isHexDigit c = true → c.isAlphanum = true) (by decide +kernel)
    (toNat_lt_of_isHexDigit hex) hex

theorem isNodeChar_toLower {c : Char} (node : isNodeChar c = true) : isNodeChar c.toLower = true :=
  ascii_induction (P := fun c => isNodeChar c = true → isNodeChar c.toLower = true)
    (by decide +kernel) (toNat_lt_of_isNodeChar node) node

theorem isAlphanum_toLower {c : Char} (alphanumeric : c.isAlphanum = true) :
    c.toLower.isAlphanum = true :=
  ascii_induction (P := fun c => c.isAlphanum = true → c.toLower.isAlphanum = true)
    (by decide +kernel) (toNat_lt_of_isAlphanum alphanumeric) alphanumeric

theorem isSpace_of_isNodeChar {c : Char} (node : isNodeChar c = true) : Python.isSpace c = false :=
  ascii_induction (P := fun c => isNodeChar c = true → Python.isSpace c = false)
    (by decide +kernel) (toNat_lt_of_isNodeChar node) node

theorem isNodeID_iff {s : String} : isNodeID s = true ↔
    (2 ≤ s.length ∧ s.length ≤ 128) ∧ (∃ first rest, s.toList = first :: rest ∧
      first.isAlphanum = true) ∧ ∀ c ∈ s.toList, isNodeChar c = true := by
  unfold isNodeID lengthWithin
  simp only [Bool.and_eq_true, decide_eq_true_eq, List.all_eq_true, and_assoc]
  cases s.toList with
  | nil => simp
  | cons first rest => simp

theorem isNodeID_of_isUUID {s : String} (uuid : isUUID s = true) : isNodeID s = true := by
  unfold isUUID at uuid
  simp only [Bool.and_eq_true, beq_iff_eq, List.all_eq_true] at uuid
  obtain ⟨length, digits⟩ := uuid
  have chars : ∀ c ∈ s.toList, isNodeChar c = true := by
    intro c member
    obtain ⟨i, small, held⟩ := List.getElem_of_mem member
    have digit := digits (c, i) (List.mk_mem_zipIdx_iff_getElem?.mpr
      (by rw [List.getElem?_eq_getElem small, held]))
    dsimp only at digit
    split at digit
    next =>
      rw [beq_iff_eq.mp digit]
      decide
    next =>
      unfold isNodeChar
      rw [isAlphanum_of_isHexDigit digit, Bool.true_or]
  rw [isNodeID_iff]
  refine ⟨by omega, ?_, chars⟩
  cases list : s.toList with
  | nil =>
    rw [← String.length_toList, list] at length
    cases length
  | cons first rest =>
    refine ⟨first, rest, rfl, ?_⟩
    have digit := digits (first, 0) (by rw [list]; exact List.mem_cons_self)
    exact isAlphanum_of_isHexDigit digit

theorem isNodeID_toLower {s : String} (node : isNodeID s = true) :
    isNodeID (String.ofList (s.toList.map Char.toLower)) = true := by
  rw [isNodeID_iff] at node ⊢
  obtain ⟨length, ⟨first, rest, list, alphanumeric⟩, chars⟩ := node
  refine ⟨by simpa [String.length_toList] using length, ⟨first.toLower, rest.map Char.toLower, ?_, ?_⟩, ?_⟩
  · rw [String.toList_ofList, list, List.map_cons]
  · exact isAlphanum_toLower alphanumeric
  · intro c member
    rw [String.toList_ofList] at member
    obtain ⟨c, inside, rfl⟩ := List.mem_map.mp member
    exact isNodeChar_toLower (chars c inside)

/-- Stripping leaves an identifier as it is. -/
theorem nodeOf_eq_self {s : String} (node : isNodeID s = true) : nodeOf s = s := by
  have chars := (isNodeID_iff.mp node).2.2
  have blank : ∀ c ∈ s.toList, Python.isSpace c = false :=
    fun c member => isSpace_of_isNodeChar (chars c member)
  have first : Python.stripWhitespace s = s :=
    trimSpace_eq_self s fun c member => (Bool.or_eq_false_iff.mp (blank c member)).1
  unfold nodeOf
  rw [first, Python.strip, Library.trimBoth_eq_self _ _ blank, String.ofList_toList]

theorem canonicalIdentifier_isNodeID {s : String}
    (accepted : isUUID (nodeOf s) = true ∨ isNodeID (nodeOf s) = true) :
    isNodeID (canonicalIdentifier s) = true := by
  unfold canonicalIdentifier
  split
  next uuid => exact isNodeID_toLower (isNodeID_of_isUUID uuid)
  next other => exact accepted.resolve_left other

/-! ## What an accepted payload satisfies -/

/-- The record's bounds, as the kernel and the agents meet them. -/
structure EnrichedGraphPayload.Valid (p : EnrichedGraphPayload) : Prop where
  asset : isNodeID p.assetMetadata.uuid = true
  name : lengthWithin 1 256 p.assetMetadata.name = true
  modelNumber : lengthWithin 1 128 p.assetMetadata.modelNumber = true
  parent : isNodeID p.ontologyContext.parentSystem = true
  location : lengthWithin 1 256 p.ontologyContext.physicalLocation = true
  operator : lengthWithin 1 128 p.ontologyContext.assignedOperator = true
  upstream : ∀ node ∈ p.ontologyContext.upstreamDependencies, isNodeID node = true
  downstream : ∀ node ∈ p.ontologyContext.downstreamImpacts, isNodeID node = true
  upstream_length : p.ontologyContext.upstreamDependencies.length ≤ 64
  downstream_length : p.ontologyContext.downstreamImpacts.length ≤ 128
  upstream_distinct : p.ontologyContext.upstreamDependencies.Nodup
  upstream_asset : p.assetMetadata.uuid ∉ p.ontologyContext.upstreamDependencies
  channels_distinct : (p.telemetrySnapshot.channels.map Prod.fst).Nodup

theorem assign_keys_nodup {α : Type} {entries : List (String × α)}
    (distinct : (entries.map Prod.fst).Nodup) (key : String) (value : α) :
    ((assign entries key value).map Prod.fst).Nodup := by
  unfold assign
  split
  next =>
    have same : (entries.map fun held => if held.1 = key then (key, value) else held).map Prod.fst =
        entries.map Prod.fst := by
      rw [List.map_map]
      refine List.map_congr_left fun held _ => ?_
      dsimp only [Function.comp_apply]
      split
      next equal => exact equal.symm
      next => rfl
    rwa [same]
  next fresh =>
    rw [List.map_append, List.map_singleton, List.nodup_append]
    refine ⟨distinct, List.nodup_singleton key, ?_⟩
    intro held member key' last same
    obtain ⟨entry, inside, rfl⟩ := List.mem_map.mp member
    rw [List.mem_singleton] at last
    exact fresh (List.any_eq_true.mpr ⟨entry, inside, beq_iff_eq.mpr (same.trans last)⟩)

theorem InboundTelemetry.validated_distinct (t : InboundTelemetry) :
    (t.validated.channels.map Prod.fst).Nodup := by
  have declared : (t.declared.map Prod.fst).Nodup := by
    unfold InboundTelemetry.declared
    cases t.vibrationIndex <;> cases t.temperatureCelsius <;> cases t.crdtCollisionRate <;> simp
  unfold InboundTelemetry.validated
  generalize t.declared = merged at declared ⊢
  induction t.extras generalizing merged with
  | nil => exact declared
  | cons entry rest ih => exact ih _ (assign_keys_nodup declared _ _)

theorem InboundAsset.accepted_iff (a : InboundAsset) : a.accepted = true ↔
    bounded 2 128 a.uuid = true ∧ (isUUID (nodeOf a.uuid) = true ∨ isNodeID (nodeOf a.uuid) = true) ∧
      bounded 1 256 a.name = true ∧ bounded 1 128 a.modelNumber = true := by
  unfold InboundAsset.accepted
  simp only [Bool.and_eq_true, Bool.or_eq_true, and_assoc]

theorem InboundContext.accepted_iff (c : InboundContext) : c.accepted = true ↔
    bounded 1 128 c.parentSystem = true ∧ isNodeID (nodeOf c.parentSystem) = true ∧
      bounded 1 256 c.physicalLocation = true ∧
      (c.upstreamDependencies.length ≤ 64 ∧
        ∀ raw ∈ c.upstreamDependencies, isNodeID (nodeOf raw) = true) ∧
      (c.downstreamImpacts.length ≤ 128 ∧
        ∀ raw ∈ c.downstreamImpacts, isNodeID (nodeOf raw) = true) ∧
      bounded 1 128 c.assignedOperator = true ∧
      (c.replicaObservations.length ≤ 64 ∧
        ∀ o ∈ c.replicaObservations, o.accepted = true) ∧
      bounded 0 64 c.criticality = true ∧ c.maintenanceWindow.all (bounded 0 128) = true := by
  unfold InboundContext.accepted
  simp only [Bool.and_eq_true, decide_eq_true_eq, List.all_eq_true, and_assoc]

theorem EnrichedGraphPayload.crossChecked_iff (p : EnrichedGraphPayload) : p.crossChecked = true ↔
    p.assetMetadata.uuid ∉ p.ontologyContext.upstreamDependencies ∧
      p.assetMetadata.uuid ∉ p.ontologyContext.downstreamImpacts ∧
      (∀ node ∈ p.ontologyContext.upstreamDependencies, node ∉ p.ontologyContext.downstreamImpacts) ∧
      (∀ entry ∈ p.ontologyContext.dependencyHealth, entry.1 ∈ p.knownNodes) ∧
      ∀ node ∈ p.telemetrySnapshot.attributedNodes, node ∈ p.knownNodes := by
  unfold EnrichedGraphPayload.crossChecked
  simp only [Bool.and_eq_true, Bool.not_eq_true', List.contains_eq_mem, decide_eq_false_iff_not,
    decide_eq_true_eq, List.all_eq_true, and_assoc]

theorem InboundPayload.accepted_iff (r : InboundPayload) : r.accepted = true ↔
    bounded 1 128 r.eventID = true ∧ r.asset.accepted = true ∧ r.context.accepted = true ∧
      r.telemetry.accepted = true ∧ r.originReplica.all (bounded 0 128) = true ∧
      0 ≤ r.lamportClock ∧ r.graphRevision.all (bounded 0 128) = true ∧
      r.validated.crossChecked = true := by
  unfold InboundPayload.accepted
  simp only [Bool.and_eq_true, decide_eq_true_eq, and_assoc]

theorem InboundPayload.modelValidate_eq_some {r : InboundPayload} {p : EnrichedGraphPayload} :
    r.modelValidate = some p ↔ r.accepted = true ∧ r.validated = p := by
  unfold InboundPayload.modelValidate
  split <;> simp_all

theorem edges_valid {raw : List String} (valid : ∀ s ∈ raw, isNodeID (nodeOf s) = true) :
    ∀ node ∈ (raw.map nodeOf).eraseDups, isNodeID node = true := by
  intro node member
  obtain ⟨s, inside, rfl⟩ := List.mem_map.mp (List.mem_eraseDups.mp member)
  exact valid s inside

theorem edges_length_le {raw : List String} {most : Nat} (few : raw.length ≤ most) :
    (raw.map nodeOf).eraseDups.length ≤ most := by
  have shorter := length_eraseDups_le (raw.map nodeOf)
  rw [List.length_map] at shorter
  exact shorter.trans few

theorem InboundPayload.validated_uuid (r : InboundPayload) :
    r.validated.assetMetadata.uuid = canonicalIdentifier r.asset.uuid := by
  simp only [InboundPayload.validated, InboundAsset.validated]

theorem InboundPayload.validated_valid {r : InboundPayload} (accepted : r.accepted = true) :
    r.validated.Valid := by
  obtain ⟨-, asset, context, -, -, -, -, checked⟩ := r.accepted_iff.mp accepted
  obtain ⟨-, uuid, name, model⟩ := r.asset.accepted_iff.mp asset
  obtain ⟨-, parent, location, upstream, downstream, operator, -⟩ := r.context.accepted_iff.mp context
  exact {
    asset := by
      rw [r.validated_uuid]
      exact canonicalIdentifier_isNodeID uuid
    name := name
    modelNumber := model
    parent := parent
    location := location
    operator := operator
    upstream := edges_valid upstream.2
    downstream := edges_valid downstream.2
    upstream_length := edges_length_le upstream.1
    downstream_length := edges_length_le downstream.1
    upstream_distinct := nodup_eraseDups _
    upstream_asset := (r.validated.crossChecked_iff.mp checked).1
    channels_distinct := r.telemetry.validated_distinct }

theorem EnrichedGraphPayload.Validated.valid {p : EnrichedGraphPayload} (validated : p.Validated) :
    p.Valid := by
  obtain ⟨r, made⟩ := validated
  have both := InboundPayload.modelValidate_eq_some.mp made
  rw [← both.2]
  exact InboundPayload.validated_valid both.1

end OpenOntology.GraphRag
