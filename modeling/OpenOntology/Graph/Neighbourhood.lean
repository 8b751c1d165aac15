import OpenOntology.Library.Firsts
import OpenOntology.Graph.Records

/-!
# The neighbourhood of an asset

`mapNeighbourhood` unwraps one record of the containment query: the target, what it is part
of and made of, who is responsible for it, and the process flow on both of its sides.
-/
namespace OpenOntology.Graph

open Library

/-! ## The mappers -/

structure OperatorAssignment extends OperatorNode where
  role : String
  shift : String
  contact : String
  escalationOrder : Int
  deriving DecidableEq

structure FlowNode extends AssetNode where
  hops : Int
  deriving DecidableEq

/-- An element id names a node; an empty one does not. -/
def identity (elementID : String) : Option String := if elementID = "" then none else some elementID

section
variable (floats : GoFloats)

def mapFlowEntry (entry : Value) : Option FlowNode := do
  let node ← (entryField entry "node").bind asNode
  let asset ← mapAssetNode floats node
  return { asset with hops := ((entryField entry "hops").bind (intValue floats)).getD 0 }

/-- The entries of a flow column that can be mapped. -/
def flowEntries (record : Fields) (column : String) : List FlowNode :=
  (collectedList record column).filterMap (mapFlowEntry floats)

/-- The order of the flow: nearest first, ties by asset id. -/
def FlowNode.before (a b : FlowNode) : Bool :=
  if a.hops ≠ b.hops then a.hops < b.hops else a.assetID < b.assetID

def FlowNode.key (node : FlowNode) : Option String := some node.assetID

/-- Of the entries for one asset the first is kept; then they are sorted. -/
def mapFlowNodes (record : Fields) (column : String) : List FlowNode :=
  (firsts FlowNode.key (flowEntries floats record column)).mergeSort fun a b => !b.before a

def mapSystemEntry (entry : Value) : Option SystemNode := do
  let node ← (entryField entry "node").bind asNode
  let id ← stringProp floats node.props systemIDKeys
  return {
    nodeID := id
    name := stringPropOrEmpty floats node.props systemNameKeys
    type := (stringProp floats node.props systemTypeKeys).getD (specificLabel node.labels "System")
    depth := ((entryField entry "depth").bind (intValue floats)).getD 0
    elementID := node.elementID }

def mapParentSystems (record : Fields) : List SystemNode :=
  (firsts (fun system : SystemNode => identity system.elementID)
    ((collectedList record "parent_systems").filterMap (mapSystemEntry floats))).mergeSort
      fun a b => a.depth ≤ b.depth

def mapComponentEntry (entry : Value) : Option ComponentNode := do
  let node ← asNode entry
  let id ← stringProp floats node.props componentIDKeys
  return {
    componentID := id
    name := stringPropOrEmpty floats node.props componentNameKeys
    elementID := node.elementID }

def mapComponents (record : Fields) : List ComponentNode :=
  ((collectedList record "components").filterMap (mapComponentEntry floats)).mergeSort
    fun a b => a.componentID ≤ b.componentID

def mapOperatorEntry (entry : Value) : Option OperatorAssignment := do
  let node ← (entryField entry "node").bind asNode
  let operator ← mapOperatorNode floats node
  return { operator with
    role := stringPropOrEmpty floats node.props operatorRoleKeys
    shift := stringPropOrEmpty floats node.props operatorShiftLabelKeys
    contact := stringPropOrEmpty floats node.props operatorContactKeys
    escalationOrder :=
      (((entryField entry "escalation_order").bind (intValue floats)).filter fun order =>
        0 < order).getD 0 }

/-- The order of the operators: an edge without an escalation order sorts last. -/
def OperatorAssignment.before (a b : OperatorAssignment) : Bool :=
  if a.escalationOrder = b.escalationOrder then a.technicianID < b.technicianID
  else if a.escalationOrder = 0 then false
  else if b.escalationOrder = 0 then true
  else a.escalationOrder < b.escalationOrder

def mapOperators (record : Fields) : List OperatorAssignment :=
  (firsts (fun operator : OperatorAssignment => identity operator.elementID)
    ((collectedList record "operators").filterMap (mapOperatorEntry floats))).mergeSort
      fun a b => !b.before a

structure OntologyNeighbourhood where
  target : AssetNode
  assetClass : String
  modelNumber : String
  site : String
  criticality : String
  maintenanceWindow : String
  parentSystems : List SystemNode
  components : List ComponentNode
  operators : List OperatorAssignment
  upstream : List FlowNode
  downstream : List FlowNode

/-- `BlastRadius` -/
def OntologyNeighbourhood.blastRadius (n : OntologyNeighbourhood) : Nat := n.downstream.length

/-- `PrimaryOperator` -/
def OntologyNeighbourhood.primaryOperator (n : OntologyNeighbourhood) : Option OperatorAssignment :=
  n.operators.head?

inductive MappingError where
  | nilRecord
  | noTarget
  | assetNotFound
  | targetNotANode
  | unmappableTarget
  deriving DecidableEq, Repr

def mapNeighbourhood : Option Fields → Except MappingError OntologyNeighbourhood
  | none => .error .nilRecord
  | some record =>
    match record.lookup "target" with
    | none => .error .noTarget
    | some .null => .error .assetNotFound
    | some raw =>
      match asNode raw with
      | none => .error .targetNotANode
      | some node =>
        match mapAssetNode floats node with
        | none => .error .unmappableTarget
        | some target => .ok {
            target
            assetClass := stringPropOrEmpty floats node.props assetClassKeys
            modelNumber := stringPropOrEmpty floats node.props assetModelKeys
            site := stringPropOrEmpty floats node.props assetSiteKeys
            criticality := stringPropOrEmpty floats node.props assetCriticalityKeys
            maintenanceWindow := stringPropOrEmpty floats node.props assetWindowKeys
            parentSystems := mapParentSystems floats record
            components := mapComponents floats record
            operators := mapOperators floats record
            upstream := mapFlowNodes floats record "upstream"
            downstream := mapFlowNodes floats record "downstream" }

end

/-! ## The flow around the target -/

/-- The flow on one side of the target, of the entries that can be mapped. -/
structure Flows (target : String) (entries result : List FlowNode) : Prop where
  sorted : result.Pairwise fun a b => a.hops < b.hops ∨ a.hops = b.hops ∧ a.assetID ≤ b.assetID
  distinct : (result.map fun node => node.assetID).Nodup
  drawn : ∀ node ∈ result, node ∈ entries
  nearest : ∀ node ∈ result, ∀ entry ∈ entries, entry.assetID = node.assetID →
    node.hops ≤ entry.hops
  others : ∀ node ∈ result, node.assetID ≠ target
  complete : ∀ entry ∈ entries, entry.assetID ≠ target → ∃ node ∈ result, node.assetID = entry.assetID

/-- No entry carries the id of the target, and the first entry of an asset is its nearest. -/
structure NearestFirst (target : String) (entries : List FlowNode) : Prop where
  apart : ∀ entry ∈ entries, entry.assetID ≠ target
  nearest : ∀ first id, entries.find? (fun node => node.assetID = id) = some first →
    ∀ entry ∈ entries, entry.assetID = id → first.hops ≤ entry.hops

section
variable {floats : GoFloats} {record : Fields} {column target : String} {n : OntologyNeighbourhood}

theorem not_before_iff {a b : FlowNode} : (!b.before a) = true ↔
    a.hops < b.hops ∨ a.hops = b.hops ∧ a.assetID ≤ b.assetID := by
  unfold FlowNode.before
  by_cases level : b.hops = a.hops
  · rw [if_neg (not_not.mpr level), Bool.not_eq_true', decide_eq_false_iff_not, not_lt, level]
    simp
  · rw [if_pos level, Bool.not_eq_true', decide_eq_false_iff_not, not_lt]
    constructor
    · exact fun nearer => Or.inl (by omega)
    · rintro (nearer | ⟨same, -⟩)
      · omega
      · exact absurd same.symm level

theorem mem_mapFlowNodes {node : FlowNode} : node ∈ mapFlowNodes floats record column ↔
    (flowEntries floats record column).find? (fun entry => entry.assetID = node.assetID) =
      some node := by
  unfold mapFlowNodes
  rw [List.mem_mergeSort, mem_firsts (show node.key = some node.assetID from rfl)]
  simp only [FlowNode.key, Option.some.injEq]

theorem mapFlowNodes_sorted : (mapFlowNodes floats record column).Pairwise fun a b =>
    a.hops < b.hops ∨ a.hops = b.hops ∧ a.assetID ≤ b.assetID := by
  unfold mapFlowNodes
  refine (List.pairwise_mergeSort ?_ ?_ _).imp fun ordered => not_before_iff.mp ordered
  · intro a b c first second
    rw [not_before_iff] at first second ⊢
    rcases first with nearer | ⟨level, ahead⟩
    · rcases second with nearer' | ⟨level', -⟩
      · exact Or.inl (lt_trans nearer nearer')
      · exact Or.inl (level' ▸ nearer)
    · rcases second with nearer' | ⟨level', ahead'⟩
      · exact Or.inl (level ▸ nearer')
      · exact Or.inr ⟨level.trans level', le_trans ahead ahead'⟩
  · intro a b
    rw [Bool.or_eq_true, not_before_iff, not_before_iff]
    rcases lt_trichotomy a.hops b.hops with nearer | level | farther
    · exact Or.inl (Or.inl nearer)
    · rcases le_total a.assetID b.assetID with ahead | behind
      · exact Or.inl (Or.inr ⟨level, ahead⟩)
      · exact Or.inr (Or.inr ⟨level.symm, behind⟩)
    · exact Or.inr (Or.inl farther)

theorem mapFlowNodes_distinct :
    ((mapFlowNodes floats record column).map fun node => node.assetID).Nodup := by
  unfold mapFlowNodes
  rw [((List.mergeSort_perm _ _).map _).nodup_iff, List.Nodup, List.pairwise_map]
  exact (firstsFrom_pairwise [] _).imp fun apart same => apart _ rfl (congrArg some same.symm)

theorem mapFlowNodes_drawn : ∀ node ∈ mapFlowNodes floats record column,
    node ∈ flowEntries floats record column := fun _ member =>
  List.mem_of_find?_eq_some (mem_mapFlowNodes.mp member)

theorem mapFlowNodes_complete {entry : FlowNode} (member : entry ∈ flowEntries floats record column) :
    ∃ node ∈ mapFlowNodes floats record column, node.assetID = entry.assetID := by
  obtain ⟨node, kept, same⟩ := exists_mem_firsts member (show entry.key = some entry.assetID from rfl)
  exact ⟨node, List.mem_mergeSort.mpr kept, Option.some.inj same⟩

/-- One side of the flow is as it should be exactly when its first entries are the nearest and
the target is not among them. -/
theorem flows_iff :
    Flows target (flowEntries floats record column) (mapFlowNodes floats record column) ↔
      NearestFirst target (flowEntries floats record column) := by
  constructor
  · intro flows
    refine ⟨fun entry member same => ?_, fun first id found entry member same => ?_⟩
    · obtain ⟨node, kept, equal⟩ := mapFlowNodes_complete member
      exact flows.others node kept (equal.trans same)
    · have named : first.assetID = id := by simpa using List.find?_some found
      have kept : first ∈ mapFlowNodes floats record column :=
        mem_mapFlowNodes.mpr (by rw [named]; exact found)
      exact flows.nearest first kept entry member (same.trans named.symm)
  · intro nearest_first
    exact {
      sorted := mapFlowNodes_sorted
      distinct := mapFlowNodes_distinct
      drawn := mapFlowNodes_drawn
      nearest := fun node kept =>
        nearest_first.nearest node node.assetID (mem_mapFlowNodes.mp kept)
      others := fun node kept => nearest_first.apart node (mapFlowNodes_drawn node kept)
      complete := fun entry member _ => mapFlowNodes_complete member }

/-- The other assets among the entries. -/
def otherAssets (target : String) (entries : List FlowNode) : List String :=
  ((entries.map fun node => node.assetID).filter (· ≠ target)).dedup

theorem Flows.length_eq {entries result : List FlowNode} (flows : Flows target entries result) :
    result.length = (otherAssets target entries).length := by
  rw [← List.length_map fun node : FlowNode => node.assetID]
  refine List.Perm.length_eq ((List.perm_ext_iff_of_nodup flows.distinct (List.nodup_dedup _)).mpr ?_)
  intro id
  rw [List.mem_dedup, List.mem_filter, List.mem_map, List.mem_map, decide_eq_true_eq]
  constructor
  · rintro ⟨node, kept, rfl⟩
    exact ⟨⟨node, flows.drawn node kept, rfl⟩, flows.others node kept⟩
  · rintro ⟨⟨entry, member, rfl⟩, other⟩
    exact flows.complete entry member other

theorem mapNeighbourhood_flows (mapped : mapNeighbourhood floats (some record) = .ok n) :
    n.upstream = mapFlowNodes floats record "upstream" ∧
      n.downstream = mapFlowNodes floats record "downstream" := by
  unfold mapNeighbourhood at mapped
  dsimp only at mapped
  split at mapped
  next => cases mapped
  next => cases mapped
  next =>
    split at mapped
    next => cases mapped
    next =>
      split at mapped
      next => cases mapped
      next =>
        cases mapped
        exact ⟨rfl, rfl⟩

/-- Both sides of a mapped neighbourhood are as they should be, and the blast radius counts the
other assets downstream, exactly when the entries of both columns are nearest first. -/
theorem neighbourhood_flows_iff (mapped : mapNeighbourhood floats (some record) = .ok n) :
    (Flows n.target.assetID (flowEntries floats record "upstream") n.upstream ∧
        Flows n.target.assetID (flowEntries floats record "downstream") n.downstream ∧
        n.blastRadius =
          (otherAssets n.target.assetID (flowEntries floats record "downstream")).length) ↔
      NearestFirst n.target.assetID (flowEntries floats record "upstream") ∧
        NearestFirst n.target.assetID (flowEntries floats record "downstream") := by
  obtain ⟨upstream, downstream⟩ := mapNeighbourhood_flows mapped
  constructor
  · rintro ⟨up, down, -⟩
    rw [upstream] at up
    rw [downstream] at down
    exact ⟨flows_iff.mp up, flows_iff.mp down⟩
  · rintro ⟨up, down⟩
    have up := flows_iff.mpr up
    have down := flows_iff.mpr down
    rw [← upstream] at up
    rw [← downstream] at down
    exact ⟨up, down, down.length_eq⟩

end

/-- An asset by its id alone. -/
def bare (id : String) : Value := .node id ["Asset"] [("id", .string id)]

def reached (id : String) (hops : Int) : Value := .map [("node", bare id), ("hops", .int hops)]

/-- A pump in a cycle: it is reached from itself. -/
def cycle : Fields :=
  [("target", bare "P-1"), ("upstream", .list []),
    ("downstream", .list [reached "E-2" 1, reached "P-1" 2])]

def noFloats : GoFloats := ⟨fun _ => "0", fun _ => 0⟩

/-- The pump counts itself in its blast radius. -/
theorem cycle_counts_itself : ∃ n, mapNeighbourhood noFloats (some cycle) = .ok n ∧
    n.blastRadius = 2 ∧ ∃ node ∈ n.downstream, node.assetID = n.target.assetID := by
  refine ⟨_, rfl, ?_, ?_⟩
  · have kept : (firsts FlowNode.key (flowEntries noFloats cycle "downstream")).length = 2 := by
      decide +kernel
    exact (List.length_mergeSort _).trans kept
  · have member : (⟨⟨"P-1", "", "", "UNKNOWN", "P-1"⟩, 2⟩ : FlowNode) ∈
        flowEntries noFloats cycle "downstream" := by decide +kernel
    exact mapFlowNodes_complete member

/-- The same flow without the way back. -/
def line : Fields :=
  [("target", bare "P-1"), ("upstream", .list [reached "T-3" 1]),
    ("downstream", .list [reached "E-2" 1])]

theorem line_flows : ∃ n, mapNeighbourhood noFloats (some line) = .ok n ∧
    ((Flows n.target.assetID (flowEntries noFloats line "upstream") n.upstream ∧
        Flows n.target.assetID (flowEntries noFloats line "downstream") n.downstream ∧
        n.blastRadius =
          (otherAssets n.target.assetID (flowEntries noFloats line "downstream")).length) ↔
      NearestFirst n.target.assetID (flowEntries noFloats line "upstream") ∧
        NearestFirst n.target.assetID (flowEntries noFloats line "downstream")) :=
  ⟨_, rfl, neighbourhood_flows_iff rfl⟩

end OpenOntology.Graph
