import OpenOntology.GraphRag.Attribution
import OpenOntology.Resolution.Rules

/-!
# The bridge's projection

`mutation_to_graph_payload` puts a mutation of the engine into the shape of the inbound
contract, which then accepts or refuses it. The neighbours become bare node ids; an absent
name, model, site or ancestry is replaced.
-/
namespace OpenOntology.Bridge

open Library
open GraphRag (AssetStatus InboundPayload InboundAsset InboundContext InboundObservation
  InboundTelemetry EnrichedGraphPayload assign bounded canonicalIdentifier isNodeChar isNodeID
  isUUID nodeOf)

/-! ## The mutation -/

structure FlowRef where
  assetID : String
  status : String := ""

structure SystemNode where
  nodeID : String
  depth : Int := 0

structure Operator where
  operatorID : String
  name : String
  escalationOrder : Int := 0

structure ReplicaObservation where
  replicaID : String
  addStamp : Int := 0
  removeStamp : Int := 0

structure SensorReading where
  sensorID : String
  value : Float

structure OntologyContext where
  assetName : String := ""
  assetClass : String := ""
  site : String := ""
  criticality : String := ""
  modelNumber : String := ""
  parentSystems : List SystemNode := []
  assignedOperators : List Operator := []
  upstreamDependencies : List FlowRef := []
  downstreamImpacts : List FlowRef := []
  replicaObservations : List ReplicaObservation := []
  maintenanceWindow : Option String := none

/-- A record of `openontology.mutation.v2`; an absent text is the empty one. -/
structure Mutation where
  eventID : String
  assetID : String
  severity : String := ""
  readings : List SensorReading := []
  trigger : SensorReading
  ontologyContext : OntologyContext := {}
  degraded : Bool := false
  originReplica : Option String := none
  lamportClock : Int := 0
  graphRevision : Option String := none

/-! ## The projection -/

/-- `_valid_node`. -/
def validNode (value : String) : Option String :=
  if value ≠ "" ∧ isNodeID (Python.strip value) then some (Python.strip value) else none

/-- `a or b or c`. -/
def firstSet (texts : List String) : String := (texts.find? fun text => text != "").getD ""

/-- `min(items, key=key)`: the first of the items with the lowest key. -/
def minBy {α : Type} (key : α → Int) : List α → Option α
  | [] => none
  | first :: rest =>
    some (rest.foldl (fun least item => if key item < key least then item else least) first)

/-- `_nearest_parent_system`: the ancestor of the lowest depth, else the site. -/
def nearestParentSystem (context : OntologyContext) (assetID : String) : String :=
  match (minBy SystemNode.depth context.parentSystems).bind fun nearest =>
      validNode nearest.nodeID with
  | some node => node
  | none => (validNode context.site).getD ("UNSCOPED:" ++ assetID)

/-- One turn of the loop of `_flow_ids`. -/
def keepNode (exclude : String) (out : List String) (entry : FlowRef) : List String :=
  match validNode entry.assetID with
  | none => out
  | some node => if out.contains node || node == exclude then out else out ++ [node]

/-- `_flow_ids`. -/
def flowIDs (entries : List FlowRef) (exclude : String) : List String :=
  entries.foldl (keepNode exclude) []

/-- `_status_for`. -/
def statusFor (severity : String) (degraded : Bool) : AssetStatus :=
  if degraded then .unknown
  else if severity = "CRITICAL" ∨ severity = "HIGH" then .alarm
  else .operational

/-- `_primary_operator`. -/
def primaryOperator (context : OntologyContext) : String :=
  match minBy Operator.escalationOrder context.assignedOperators with
  | none => "Unassigned"
  | some first => firstSet [first.name, first.operatorID, "Unassigned"]

/-- `_observations`. -/
def observations (context : OntologyContext) : List InboundObservation :=
  (context.replicaObservations.filter fun o => o.replicaID != "").map fun o =>
    ⟨o.replicaID, o.addStamp, o.removeStamp⟩

def declaredChannels : List String := ["vibration_index", "temperature_celsius", "crdt_collision_rate"]

namespace Mutation
variable (m : Mutation)

def asset : String := Python.strip m.assetID

def downstream : List String := flowIDs m.ontologyContext.downstreamImpacts m.asset

/-- A node on both sides is kept downstream. -/
def upstream : List String :=
  (flowIDs m.ontologyContext.upstreamDependencies m.asset).filter fun node =>
    !m.downstream.contains node

/-- `_channels`: the trigger is written last. -/
def channels : List (String × Float) :=
  (m.readings ++ [m.trigger]).foldl (fun channels reading =>
    if reading.sensorID = "" then channels
    else assign channels reading.sensorID reading.value) []

def telemetry : InboundTelemetry where
  vibrationIndex := m.channels.lookup "vibration_index"
  temperatureCelsius := m.channels.lookup "temperature_celsius"
  crdtCollisionRate := m.channels.lookup "crdt_collision_rate"
  extras := m.channels.filter fun entry => !declaredChannels.contains entry.1

/-- The record that `mutation_to_graph_payload` hands to the model. -/
def project : InboundPayload :=
  let context := m.ontologyContext
  { eventID := m.eventID
    asset :=
      { uuid := m.asset
        name := firstSet [context.assetName, m.asset]
        modelNumber := firstSet [context.modelNumber, context.assetClass, m.asset]
        currentStatus := statusFor m.severity m.degraded }
    context :=
      { parentSystem := nearestParentSystem context m.asset
        physicalLocation := firstSet [context.site, "UNKNOWN-SITE"]
        upstreamDependencies := m.upstream
        downstreamImpacts := m.downstream
        assignedOperator := primaryOperator context
        criticality := firstSet [context.criticality, "UNKNOWN"]
        maintenanceWindow := context.maintenanceWindow
        replicaObservations := observations context }
    telemetry := m.telemetry
    originReplica := m.originReplica
    lamportClock := m.lamportClock
    graphRevision := m.graphRevision
    degraded := m.degraded }

end Mutation

/-- `mutation_to_graph_payload`, with `none` where the model raises. -/
def mutationToGraphPayload (m : Mutation) : Option EnrichedGraphPayload := m.project.modelValidate

/-! ## Node ids -/

theorem validNode_eq_some {value node : String} :
    validNode value = some node ↔ isNodeID node = true ∧ Python.strip value = node := by
  unfold validNode
  split
  next valid =>
    simp only [Option.some.injEq]
    constructor
    · intro same
      exact ⟨same ▸ valid.2, same⟩
    · exact And.right
  next invalid =>
    simp only [reduceCtorEq, false_iff, not_and]
    intro node_id same
    refine invalid ⟨?_, same ▸ node_id⟩
    intro empty
    have blank : Python.strip "" = "" := rfl
    rw [empty, blank] at same
    rw [← same] at node_id
    exact absurd node_id (by decide)

theorem strip_strip (s : String) : Python.strip (Python.strip s) = Python.strip s := by
  simp only [Python.strip, String.toList_ofList, trimBoth_idem]

/-- What is stripped of Python's white space, pydantic strips no further. -/
theorem nodeOf_strip (s : String) : nodeOf (Python.strip s) = Python.strip s := by
  have narrower : ∀ c, isSpace c = true → Python.isSpace c = true := by
    intro c blank
    rw [Python.isSpace, blank, Bool.true_or]
  have kept : Python.stripWhitespace (Python.strip s) = Python.strip s := by
    simp only [Python.stripWhitespace, trimSpace, Python.strip, String.toList_ofList,
      trimBoth_of_imp narrower]
  rw [nodeOf, kept, strip_strip]

theorem mem_keepNode {exclude node : String} {out : List String} {entry : FlowRef} :
    node ∈ keepNode exclude out entry ↔
      node ∈ out ∨ node ≠ exclude ∧ validNode entry.assetID = some node := by
  unfold keepNode
  cases mapped : validNode entry.assetID with
  | none => simp
  | some found =>
    dsimp only
    split
    next skipped =>
      simp only [Bool.or_eq_true, List.contains_eq_mem, decide_eq_true_eq, beq_iff_eq] at skipped
      simp only [Option.some.injEq]
      constructor
      · exact Or.inl
      · intro either
        rcases either with held | ⟨other, rfl⟩
        · exact held
        · exact skipped.resolve_right other
    next kept =>
      simp only [Bool.or_eq_true, beq_iff_eq, not_or] at kept
      simp only [List.mem_append, List.mem_singleton, Option.some.injEq]
      constructor
      · intro either
        rcases either with held | rfl
        · exact Or.inl held
        · exact Or.inr ⟨kept.2, rfl⟩
      · intro either
        rcases either with held | ⟨-, rfl⟩
        · exact Or.inl held
        · exact Or.inr rfl

theorem keepNode_nodup {out : List String} (distinct : out.Nodup) (exclude : String)
    (entry : FlowRef) : (keepNode exclude out entry).Nodup := by
  unfold keepNode
  split
  next => exact distinct
  next node mapped =>
    split
    next => exact distinct
    next fresh =>
      simp only [Bool.or_eq_true, List.contains_eq_mem, decide_eq_true_eq, not_or] at fresh
      rw [List.nodup_append]
      refine ⟨distinct, List.nodup_singleton node, ?_⟩
      intro held member other last same
      rw [List.mem_singleton] at last
      exact fresh.1 (last ▸ same ▸ member)

/-- The ids are those of the entries that map to a node, but for the asset's own. -/
theorem mem_flowIDs {entries : List FlowRef} {exclude node : String} :
    node ∈ flowIDs entries exclude ↔
      node ≠ exclude ∧ ∃ entry ∈ entries, validNode entry.assetID = some node := by
  have walk : ∀ out : List String, node ∈ entries.foldl (keepNode exclude) out ↔
      node ∈ out ∨ node ≠ exclude ∧ ∃ entry ∈ entries, validNode entry.assetID = some node := by
    induction entries with
    | nil => simp
    | cons entry rest ih =>
      intro out
      rw [List.foldl_cons, ih, mem_keepNode]
      simp only [List.mem_cons, exists_eq_or_imp]
      tauto
  simpa [flowIDs] using walk []

theorem flowIDs_nodup (entries : List FlowRef) (exclude : String) :
    (flowIDs entries exclude).Nodup := by
  have walk : ∀ out : List String, out.Nodup → (entries.foldl (keepNode exclude) out).Nodup := by
    induction entries with
    | nil => exact fun _ distinct => distinct
    | cons entry rest ih => exact fun out distinct => ih _ (keepNode_nodup distinct exclude entry)
  exact walk [] List.nodup_nil

theorem node_of_mem_flowIDs {entries : List FlowRef} {exclude node : String}
    (member : node ∈ flowIDs entries exclude) : isNodeID node = true := by
  obtain ⟨-, entry, -, mapped⟩ := mem_flowIDs.mp member
  exact (validNode_eq_some.mp mapped).1

/-- Ids that are nodes already pass the model's validator unchanged. -/
theorem edges_eq {nodes : List String} (valid : ∀ node ∈ nodes, isNodeID node = true)
    (distinct : nodes.Nodup) : (nodes.map nodeOf).eraseDups = nodes := by
  have same : nodes.map nodeOf = nodes := by
    rw [List.map_congr_left fun node member => GraphRag.nodeOf_eq_self (valid node member), List.map_id']
  rw [same, eraseDups_of_nodup distinct]

/-- A text of node characters is not stripped. -/
theorem strip_of_chars {s : String} (chars : ∀ c ∈ s.toList, isNodeChar c = true) :
    Python.stripWhitespace s = s ∧ Python.strip s = s ∧ nodeOf s = s := by
  have solid : ∀ c ∈ s.toList, Python.isSpace c = false :=
    fun c member => GraphRag.isSpace_of_isNodeChar (chars c member)
  have kept : Python.stripWhitespace s = s :=
    trimSpace_eq_self s fun c member => (Bool.or_eq_false_iff.mp (solid c member)).1
  have stripped : Python.strip s = s := by
    rw [Python.strip, trimBoth_eq_self _ _ solid, String.ofList_toList]
  exact ⟨kept, stripped, by rw [nodeOf, kept, stripped]⟩

theorem bounded_of_node {s : String} (node : isNodeID s = true) : bounded 2 128 s = true := by
  obtain ⟨length, -, chars⟩ := GraphRag.isNodeID_iff.mp node
  rw [bounded, (strip_of_chars chars).1, GraphRag.lengthWithin]
  simpa using length

theorem bounded_mono {low low' high : Nat} {s : String} (lower : low' ≤ low)
    (within : bounded low high s = true) : bounded low' high s = true := by
  unfold bounded GraphRag.lengthWithin at within ⊢
  simp only [Bool.and_eq_true, decide_eq_true_eq] at within ⊢
  omega

theorem parent_chars {context : OntologyContext} {assetID : String}
    (node : isNodeID assetID = true) :
    ∀ c ∈ (nearestParentSystem context assetID).toList, isNodeChar c = true := by
  have mapped : ∀ {value node : String}, validNode value = some node →
      ∀ c ∈ node.toList, isNodeChar c = true :=
    fun found => (GraphRag.isNodeID_iff.mp (validNode_eq_some.mp found).1).2.2
  unfold nearestParentSystem
  split
  next parent found =>
    obtain ⟨nearest, -, found⟩ := Option.bind_eq_some_iff.mp found
    exact mapped found
  next =>
    cases found : validNode context.site with
    | some site => exact mapped found
    | none =>
      have scope : "UNSCOPED:".toList.all isNodeChar = true := by decide +kernel
      intro c member
      rw [Option.getD_none, String.toList_append, List.mem_append] at member
      rcases member with prefixed | own
      · exact List.all_eq_true.mp scope c prefixed
      · exact (GraphRag.isNodeID_iff.mp node).2.2 c own

theorem assign_ne_nil {α : Type} (entries : List (String × α)) (key : String) (value : α) :
    assign entries key value ≠ [] := by
  unfold assign
  split
  next held =>
    obtain ⟨entry, member, -⟩ := List.any_eq_true.mp held
    simpa using List.ne_nil_of_mem member
  next => simp

namespace Mutation
variable {m : Mutation}

theorem mem_downstream {node : String} : node ∈ m.downstream ↔ node ≠ m.asset ∧
    ∃ entry ∈ m.ontologyContext.downstreamImpacts, validNode entry.assetID = some node := mem_flowIDs

theorem mem_upstream {node : String} : node ∈ m.upstream ↔ node ∉ m.downstream ∧ node ≠ m.asset ∧
    ∃ entry ∈ m.ontologyContext.upstreamDependencies, validNode entry.assetID = some node := by
  unfold upstream
  rw [List.mem_filter, mem_flowIDs]
  simp [and_comm]

theorem upstream_nodup (m : Mutation) : m.upstream.Nodup := (flowIDs_nodup _ _).filter _

/-! ## Acceptance -/

/-- The record that the model makes of the projection, in the mutation's own terms. -/
structure Projectable (m : Mutation) : Prop where
  event : bounded 1 128 m.eventID = true
  asset : isNodeID m.asset = true
  name : bounded 1 256 (firstSet [m.ontologyContext.assetName, m.asset]) = true
  modelNumber : bounded 1 128
    (firstSet [m.ontologyContext.modelNumber, m.ontologyContext.assetClass, m.asset]) = true
  parent : isNodeID (nearestParentSystem m.ontologyContext m.asset) = true
  location : bounded 1 256 (firstSet [m.ontologyContext.site, "UNKNOWN-SITE"]) = true
  upstream : m.upstream.length ≤ 64
  downstream : m.downstream.length ≤ 128
  operator : bounded 1 128 (primaryOperator m.ontologyContext) = true
  observed : (observations m.ontologyContext).length ≤ 64 ∧
    ∀ o ∈ observations m.ontologyContext, o.accepted = true
  criticality : bounded 0 64 (firstSet [m.ontologyContext.criticality, "UNKNOWN"]) = true
  window : m.ontologyContext.maintenanceWindow.all (bounded 0 128) = true
  measured : m.channels ≠ []
  finite : ∀ entry ∈ m.channels, entry.1 ∉ declaredChannels → entry.2.isFinite = true
  origin : m.originReplica.all (bounded 0 128) = true
  clock : 0 ≤ m.lamportClock
  revision : m.graphRevision.all (bounded 0 128) = true
  own : canonicalIdentifier m.asset ∉ m.upstream ++ m.downstream
  attributed : ∀ node ∈ m.telemetry.validated.attributedNodes, node = canonicalIdentifier m.asset ∨
    node = nearestParentSystem m.ontologyContext m.asset ∨ node ∈ m.upstream ++ m.downstream

theorem node_of_mem {node : String} (member : node ∈ m.upstream ++ m.downstream) :
    isNodeID node = true := by
  rcases List.mem_append.mp member with above | below
  · exact node_of_mem_flowIDs (List.mem_filter.mp above).1
  · exact node_of_mem_flowIDs below

theorem validated_context (m : Mutation) :
    m.project.validated.ontologyContext.upstreamDependencies = m.upstream ∧
      m.project.validated.ontologyContext.downstreamImpacts = m.downstream ∧
      m.project.validated.ontologyContext.dependencyHealth = [] := by
  refine ⟨edges_eq ?_ m.upstream_nodup, edges_eq ?_ (flowIDs_nodup _ _), rfl⟩
  · exact fun node member => node_of_mem (List.mem_append_left _ member)
  · exact fun node member => node_of_mem (List.mem_append_right _ member)

theorem asset_accepted_iff (m : Mutation) : m.project.asset.accepted = true ↔
    isNodeID m.asset = true ∧ bounded 1 256 (firstSet [m.ontologyContext.assetName, m.asset]) = true ∧
      bounded 1 128 (firstSet [m.ontologyContext.modelNumber, m.ontologyContext.assetClass, m.asset]) =
        true := by
  have same : nodeOf m.asset = m.asset := nodeOf_strip m.assetID
  rw [InboundAsset.accepted_iff]
  dsimp only [project]
  rw [same]
  constructor
  · intro ⟨_, either, name, model⟩
    exact ⟨either.elim GraphRag.isNodeID_of_isUUID id, name, model⟩
  · intro ⟨node, name, model⟩
    exact ⟨bounded_of_node node, Or.inr node, name, model⟩

theorem parent_accepted_iff (node : isNodeID m.asset = true) :
    (bounded 1 128 (nearestParentSystem m.ontologyContext m.asset) = true ∧
      isNodeID (nodeOf (nearestParentSystem m.ontologyContext m.asset)) = true) ↔
      isNodeID (nearestParentSystem m.ontologyContext m.asset) = true := by
  rw [(strip_of_chars (parent_chars node)).2.2]
  exact and_iff_right_of_imp fun parent => bounded_mono (by decide) (bounded_of_node parent)

theorem context_accepted_iff (node : isNodeID m.asset = true) : m.project.context.accepted = true ↔
    isNodeID (nearestParentSystem m.ontologyContext m.asset) = true ∧
      bounded 1 256 (firstSet [m.ontologyContext.site, "UNKNOWN-SITE"]) = true ∧
      m.upstream.length ≤ 64 ∧ m.downstream.length ≤ 128 ∧
      bounded 1 128 (primaryOperator m.ontologyContext) = true ∧
      ((observations m.ontologyContext).length ≤ 64 ∧
        ∀ o ∈ observations m.ontologyContext, o.accepted = true) ∧
      bounded 0 64 (firstSet [m.ontologyContext.criticality, "UNKNOWN"]) = true ∧
      m.ontologyContext.maintenanceWindow.all (bounded 0 128) = true := by
  have above : ∀ raw ∈ m.upstream, isNodeID (nodeOf raw) = true := by
    intro raw member
    have valid := node_of_mem (List.mem_append_left m.downstream member)
    rwa [GraphRag.nodeOf_eq_self valid]
  have below : ∀ raw ∈ m.downstream, isNodeID (nodeOf raw) = true := by
    intro raw member
    have valid := node_of_mem (List.mem_append_right m.upstream member)
    rwa [GraphRag.nodeOf_eq_self valid]
  rw [InboundContext.accepted_iff, ← parent_accepted_iff node]
  dsimp only [project]
  simp only [iff_true_intro above, iff_true_intro below, and_true, and_assoc]

/-- Every channel that is set is either declared or an extra. -/
theorem telemetry_measured (m : Mutation) :
    m.telemetry.validated.channels ≠ [] ↔ m.channels ≠ [] := by
  have grown : ∀ (extras merged : List (String × Float)), merged ≠ [] ∨ extras ≠ [] →
      extras.foldl (fun merged entry => assign merged (Python.strip entry.1) entry.2) merged ≠ [] := by
    intro extras
    induction extras with
    | nil => exact fun merged either => by simpa using either
    | cons entry rest ih => exact fun merged _ => ih _ (Or.inl (assign_ne_nil _ _ _))
  constructor
  · intro some none
    apply some
    simp [InboundTelemetry.validated, InboundTelemetry.declared, telemetry, none]
  · intro some
    refine grown _ _ ?_
    obtain ⟨⟨name, value⟩, rest, shape⟩ := List.exists_cons_of_ne_nil some
    by_cases declared : name ∈ declaredChannels
    · refine Or.inl ?_
      simp only [declaredChannels, List.mem_cons, List.not_mem_nil, or_false] at declared
      unfold InboundTelemetry.declared telemetry
      rcases declared with rfl | rfl | rfl
      all_goals simp [shape]
    · refine Or.inr ?_
      simp [telemetry, shape, declared]

theorem telemetry_accepted_iff (m : Mutation) : m.telemetry.accepted = true ↔
    m.channels ≠ [] ∧
      ∀ entry ∈ m.channels, entry.1 ∉ declaredChannels → entry.2.isFinite = true := by
  unfold InboundTelemetry.accepted
  rw [Bool.and_eq_true, Bool.not_eq_true', List.isEmpty_eq_false_iff, telemetry_measured, and_comm]
  simp only [telemetry, ne_eq, List.all_eq_true, List.mem_filter, Bool.not_eq_true',
    List.contains_eq_mem, decide_eq_false_iff_not, and_imp]

theorem project_crossChecked_iff (node : isNodeID m.asset = true) :
    m.project.validated.crossChecked = true ↔
      canonicalIdentifier m.asset ∉ m.upstream ++ m.downstream ∧
        ∀ node ∈ m.telemetry.validated.attributedNodes, node = canonicalIdentifier m.asset ∨
          node = nearestParentSystem m.ontologyContext m.asset ∨ node ∈ m.upstream ++ m.downstream := by
  obtain ⟨upstream, downstream, health⟩ := m.validated_context
  have parent : m.project.validated.ontologyContext.parentSystem =
      nearestParentSystem m.ontologyContext m.asset := (strip_of_chars (parent_chars node)).2.2
  have uuid : m.project.validated.assetMetadata.uuid = canonicalIdentifier m.asset :=
    m.project.validated_uuid
  have apart : ∀ node ∈ m.upstream, node ∉ m.downstream :=
    fun node member => (mem_upstream.mp member).1
  have readings : m.project.validated.telemetrySnapshot = m.telemetry.validated := rfl
  rw [EnrichedGraphPayload.crossChecked_iff]
  simp only [GraphRag.mem_knownNodes, upstream, downstream, health, parent, uuid, readings,
    iff_true_intro apart, List.mem_append, not_or, List.not_mem_nil, false_implies, implies_true,
    true_and, and_assoc]

theorem project_accepted_iff (m : Mutation) : m.project.accepted = true ↔ m.Projectable := by
  rw [InboundPayload.accepted_iff]
  constructor
  · intro ⟨event, asset, context, readings, origin, clock, revision, checked⟩
    obtain ⟨node, name, modelNumber⟩ := (asset_accepted_iff m).mp asset
    obtain ⟨parent, location, upstream, downstream, operator, observed, criticality, window⟩ :=
      (context_accepted_iff node).mp context
    obtain ⟨measured, finite⟩ := (telemetry_accepted_iff m).mp readings
    obtain ⟨own, attributed⟩ := (project_crossChecked_iff node).mp checked
    exact ⟨event, node, name, modelNumber, parent, location, upstream, downstream, operator,
      observed, criticality, window, measured, finite, origin, clock, revision, own, attributed⟩
  · intro fits
    exact ⟨fits.event, (asset_accepted_iff m).mpr ⟨fits.asset, fits.name, fits.modelNumber⟩,
      (context_accepted_iff fits.asset).mpr ⟨fits.parent, fits.location, fits.upstream,
        fits.downstream, fits.operator, fits.observed, fits.criticality, fits.window⟩,
      (telemetry_accepted_iff m).mpr ⟨fits.measured, fits.finite⟩, fits.origin, fits.clock,
      fits.revision, (project_crossChecked_iff fits.asset).mpr ⟨fits.own, fits.attributed⟩⟩

/-- The projection is accepted exactly when the mutation is projectable. -/
theorem projected_iff (m : Mutation) {payload : EnrichedGraphPayload} :
    mutationToGraphPayload m = some payload ↔ m.Projectable ∧ m.project.validated = payload := by
  rw [mutationToGraphPayload, InboundPayload.modelValidate_eq_some, project_accepted_iff]

end Mutation
end OpenOntology.Bridge
