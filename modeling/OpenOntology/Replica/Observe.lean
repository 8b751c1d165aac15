import OpenOntology.Crdt.Graph

/-!
# Folding ontology contexts into the topology replica

`TopologyReplica.Observe` turns a resolved context into conditional writes on the
replica: a vertex is written when its properties differ from the stored ones, an
edge when it is not live.
-/
namespace OpenOntology.Replica
open Crdt

def relPartOf : String := "PART_OF"
def relHasComponent : String := "HAS_COMPONENT"
def relResponsibleFor : String := "RESPONSIBLE_FOR"
def relFeeds : String := "FEEDS"

structure Operator where
  operatorID : String
  name : String := ""
  role : String := ""

structure SystemNode where
  nodeID : String
  name : String := ""
  type : String := ""
  depth : Int := 0

structure FlowRef where
  assetID : String
  name : String := ""
  model : String := ""
  status : String := ""

structure OntologyContext where
  assetID : String
  assetName : String := ""
  assetClass : String := ""
  site : String := ""
  criticality : String := ""
  modelNumber : String := ""
  parentSystems : List SystemNode := []
  components : List String := []
  assignedOperators : List Operator := []
  upstreamDependencies : List FlowRef := []
  downstreamImpacts : List FlowRef := []

/-- Blank values are dropped, so an absent property and an empty one are the same. -/
def pruneEmpty (props : Properties) : Properties := props.filter fun _ value => value != ""

def sameProperties (a b : Properties) : Bool :=
  a.size == b.size && a.toList.all fun entry => b[entry.1]? == some entry.2

def upsertVertex (c : GraphCRDT) (id : String) (props : Properties) : GraphCRDT :=
  let props := pruneEmpty props
  match c.lookupVertex id with
  | none => c.addVertex id props
  | some existing =>
    if existing.live && sameProperties existing.properties props then c
    else c.addVertex id props

def upsertEdge (table : CaseTable) (c : GraphCRDT) (source target relationship : String) :
    GraphCRDT :=
  if c.liveEdges.any fun edge => edge.sourceUUID == source && edge.targetUUID == target &&
      edge.relationshipType == relationship then c
  else c.addEdge table source target relationship

def assetProperties (ctx : OntologyContext) : Properties :=
  .ofList [("kind", "asset"), ("name", ctx.assetName), ("asset_class", ctx.assetClass),
    ("model_number", ctx.modelNumber), ("site", ctx.site), ("criticality", ctx.criticality)]

def systemProperties (system : SystemNode) : Properties :=
  .ofList [("kind", "system"), ("name", system.name), ("type", system.type),
    ("depth", toString system.depth)]

def componentProperties (assetID component : String) : Properties :=
  .ofList [("kind", "component"), ("name", component), ("asset", assetID)]

def operatorProperties (operator : Operator) : Properties :=
  .ofList [("kind", "operator"), ("name", operator.name), ("role", operator.role)]

def flowProperties (node : FlowRef) : Properties :=
  .ofList [("kind", "asset"), ("name", node.name), ("model_number", node.model),
    ("status", node.status)]

def observeFlow (table : CaseTable) (c : GraphCRDT) (node : FlowRef) (source target : String) :
    GraphCRDT :=
  if node.assetID = "" ∨ source = "" ∨ target = "" then c
  else upsertEdge table (upsertVertex c node.assetID (flowProperties node)) source target relFeeds

structure TopologyReplica where
  enabled : Bool
  crdt : GraphCRDT

/-- The writes of one context on the graph, in the order of the source. -/
def observeContext (table : CaseTable) (c : GraphCRDT) (ctx : OntologyContext) : GraphCRDT :=
  let c := upsertVertex c ctx.assetID (assetProperties ctx)
  let c := ctx.parentSystems.foldl (fun c system =>
    if system.nodeID = "" then c
    else upsertEdge table (upsertVertex c system.nodeID (systemProperties system))
      ctx.assetID system.nodeID relPartOf) c
  let c := ctx.components.foldl (fun c component =>
    if component = "" then c
    else
      let id := ctx.assetID ++ "/" ++ component
      upsertEdge table (upsertVertex c id (componentProperties ctx.assetID component))
        ctx.assetID id relHasComponent) c
  let c := ctx.assignedOperators.foldl (fun c operator =>
    if operator.operatorID = "" then c
    else upsertEdge table (upsertVertex c operator.operatorID (operatorProperties operator))
      operator.operatorID ctx.assetID relResponsibleFor) c
  let c := ctx.upstreamDependencies.foldl (fun c node =>
    observeFlow table c node node.assetID ctx.assetID) c
  ctx.downstreamImpacts.foldl (fun c node =>
    observeFlow table c node ctx.assetID node.assetID) c

namespace TopologyReplica

def observe (table : CaseTable) (r : TopologyReplica) (ctx : OntologyContext) : TopologyReplica :=
  if r.enabled = false ∨ ctx.assetID = "" then r
  else { r with crdt := observeContext table r.crdt ctx }

/-- Observe the contexts one after another. -/
def observeAll (table : CaseTable) (r : TopologyReplica) (contexts : List OntologyContext) :
    TopologyReplica :=
  contexts.foldl (observe table) r

def clock (r : TopologyReplica) : Int := r.crdt.lamportClock

def digest (marshal : Snapshot → Option (List UInt8)) (sha : List UInt8 → String)
    (r : TopologyReplica) : String :=
  (r.crdt.digest marshal sha).getD ""

end TopologyReplica
end OpenOntology.Replica
