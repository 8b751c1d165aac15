import Mathlib.Data.List.Basic
import OpenOntology.GoText
import OpenOntology.Crdt.Timeline

/-!
# The topology replica

`GraphCRDT` as the resolution engine keeps it: vertices with a last-writer-wins
property map and two timelines each, edges with two timelines, a Lamport clock.
Stamps are 64-bit, so the tick wraps; a nil map and an empty one are the same map.
-/
namespace OpenOntology.Crdt

abbrev Properties := Std.ExtTreeMap String String

structure Vertex where
  uuid : String
  properties : Properties := ∅
  addTimeline : Timeline := ∅
  removeTimeline : Timeline := ∅

namespace Vertex

def live (v : Vertex) : Bool := highestStamp v.addTimeline > highestStamp v.removeTimeline

def observed (v : Vertex) : Bool := v.addTimeline.size > 0 || v.removeTimeline.size > 0

end Vertex

structure Edge where
  sourceUUID : String
  targetUUID : String
  relationshipType : String
  addTimeline : Timeline := ∅
  removeTimeline : Timeline := ∅

/-- The map key an edge with these components is filed under. -/
def edgeKey (source relationship target : String) : String :=
  source ++ String.singleton keySeparator ++ relationship ++ String.singleton keySeparator ++ target

namespace Edge

def key (e : Edge) : String := edgeKey e.sourceUUID e.relationshipType e.targetUUID

def live (e : Edge) : Bool := highestStamp e.addTimeline > highestStamp e.removeTimeline

def observed (e : Edge) : Bool := e.addTimeline.size > 0 || e.removeTimeline.size > 0

end Edge

abbrev VertexMap := Std.ExtTreeMap String Vertex
abbrev EdgeMap := Std.ExtTreeMap String Edge

structure GraphCRDT where
  clientID : String
  lamportClock : Int
  vertices : VertexMap := ∅
  edges : EdgeMap := ∅

/-- The clock's largest value, `math.MaxInt64`. -/
def maxInt64 : Int := 2 ^ 63 - 1

/-- Increment of a 64-bit counter. -/
def increment (clock : Int) : Int := (clock + 1).bmod (2 ^ 64)

theorem increment_of_lt (clock : Int) (low : 0 ≤ clock) (high : clock < maxInt64) :
    increment clock = clock + 1 := by
  unfold maxInt64 at high
  unfold increment
  exact Int.bmod_eq_of_le (by omega) (by omega)

/-- A blank id is replaced by a generated one; the initial clock option counts
only when it is positive. -/
def newGraphCRDT (generated clientID : String) (initialClock : Int) : GraphCRDT :=
  let trimmed := trimSpace clientID
  { clientID := if trimmed = "" then generated else trimmed
    lamportClock := if initialClock > 0 then initialClock else 0 }

namespace GraphCRDT

/-! ## Local mutation -/

def raiseClock (clock observed : Int) : Int := if observed > clock then observed else clock

def addVertex (c : GraphCRDT) (id : String) (props : Properties) : GraphCRDT :=
  let trimmed := trimSpace id
  if trimmed = "" then c
  else
    let stamp := increment c.lamportClock
    let vertex := c.vertices.getD trimmed { uuid := trimmed }
    { c with
      lamportClock := stamp
      vertices := c.vertices.insert trimmed
        { vertex with
          addTimeline := vertex.addTimeline.insert c.clientID stamp
          properties := props } }

/-- The cascade of a removal over one edge: a live edge at the removed vertex is
stamped with the removal. -/
def cascade (clientID removed : String) (stamp : Int) (edge : Edge) : Edge :=
  if edge.sourceUUID ≠ removed ∧ edge.targetUUID ≠ removed then edge
  else if !edge.live then edge
  else { edge with removeTimeline := edge.removeTimeline.insert clientID stamp }

def removeVertex (c : GraphCRDT) (id : String) : GraphCRDT :=
  let trimmed := trimSpace id
  if trimmed = "" then c
  else
    let stamp := increment c.lamportClock
    let vertex := c.vertices.getD trimmed { uuid := trimmed }
    { c with
      lamportClock := stamp
      vertices := c.vertices.insert trimmed
        { vertex with removeTimeline := vertex.removeTimeline.insert c.clientID stamp }
      edges := c.edges.map fun _ edge => cascade c.clientID trimmed stamp edge }

/-- Source, target and relationship in canonical form, if none of them is empty. -/
def normalizeEdge (table : CaseTable) (source target relationship : String) :
    Option (String × String × String) :=
  let src := trimSpace source
  let dst := trimSpace target
  let rel := table.upper (trimSpace relationship)
  if src = "" then none
  else if dst = "" then none
  else if rel = "" then none
  else some (src, dst, rel)

def addEdge (table : CaseTable) (c : GraphCRDT) (source target relationship : String) :
    GraphCRDT :=
  match normalizeEdge table source target relationship with
  | none => c
  | some (src, dst, rel) =>
    let stamp := increment c.lamportClock
    let key := edgeKey src rel dst
    let edge := c.edges.getD key { sourceUUID := src, targetUUID := dst, relationshipType := rel }
    { c with
      lamportClock := stamp
      edges := c.edges.insert key
        { edge with addTimeline := edge.addTimeline.insert c.clientID stamp } }

def removeEdge (table : CaseTable) (c : GraphCRDT) (source target relationship : String) :
    GraphCRDT :=
  match normalizeEdge table source target relationship with
  | none => c
  | some (src, dst, rel) =>
    let stamp := increment c.lamportClock
    let key := edgeKey src rel dst
    let edge := c.edges.getD key { sourceUUID := src, targetUUID := dst, relationshipType := rel }
    { c with
      lamportClock := stamp
      edges := c.edges.insert key
        { edge with removeTimeline := edge.removeTimeline.insert c.clientID stamp } }

/-! ## Reads -/

def vertexLive (c : GraphCRDT) (id : String) : Bool :=
  match c.vertices[id]? with
  | none => false
  | some vertex => vertex.live

def lookupVertex (c : GraphCRDT) (id : String) : Option Vertex :=
  match c.vertices[trimSpace id]? with
  | none => none
  | some vertex => if vertex.live then some vertex else none

/-- Live edges between live vertices, in key order. -/
def liveEdges (c : GraphCRDT) : List Edge :=
  ((c.edges.toList.map Prod.snd).filter fun edge =>
    edge.live && c.vertexLive edge.sourceUUID && c.vertexLive edge.targetUUID).mergeSort
    fun a b => a.key ≤ b.key

end GraphCRDT

/-! ## Snapshots -/

structure Snapshot where
  clientID : String
  lamportClock : Int
  vertices : List Vertex
  edges : List Edge

namespace GraphCRDT

def snapshot (c : GraphCRDT) : Snapshot where
  clientID := c.clientID
  lamportClock := c.lamportClock
  vertices := (c.vertices.toList.map Prod.snd).mergeSort fun a b => a.uuid ≤ b.uuid
  edges := (c.edges.toList.map Prod.snd).mergeSort fun a b => a.key ≤ b.key

/-- The content hash, over the encoder and the hash function of the runtime. The
replica-local fields are blanked first. -/
def digest (marshal : Snapshot → Option (List UInt8)) (sha : List UInt8 → String)
    (c : GraphCRDT) : Option String :=
  (marshal { c.snapshot with lamportClock := 0, clientID := "" }).map sha

end GraphCRDT

/-! ## The join -/

structure MergeReport where
  verticesJoined : Nat := 0
  edgesJoined : Nat := 0
  conflicts : Nat := 0
  skipped : Nat := 0
  inspected : Nat := 0
  highestStamp : Int := 0

def maxStamp (stamps : List Int) : Int :=
  stamps.foldl (fun highest stamp => if stamp > highest then stamp else highest) 0

/-- Every key with its value, in key order, each closed by a separator. -/
def canonicalProperties (props : Properties) : String :=
  props.toList.foldl (fun b entry =>
    b ++ entry.1 ++ String.singleton keySeparator ++ entry.2 ++ String.singleton keySeparator) ""

/-- The payload that survives a join, whether it was replaced, and whether the two
sides carried different payloads under one stamp. -/
def joinPayload (local_ remote : Vertex) : Properties × Bool × Bool :=
  let localDominant := dominantWrite local_.addTimeline
  let remoteDominant := dominantWrite remote.addTimeline
  let payloadDiffers := local_.properties ≠ remote.properties
  if remoteDominant.after localDominant then
    if payloadDiffers then (remote.properties, true, false) else (local_.properties, false, false)
  else if localDominant.after remoteDominant then (local_.properties, false, false)
  else if payloadDiffers then
    if canonicalProperties remote.properties > canonicalProperties local_.properties then
      (remote.properties, true, true)
    else (local_.properties, false, true)
  else (local_.properties, false, false)

/-- Merge one remote vertex: the new map, whether anything changed, and whether the
two replicas had diverged. -/
def joinVertexLocked (vertices : VertexMap) (remote : Vertex) : VertexMap × Bool × Bool :=
  match vertices[remote.uuid]? with
  | none => (vertices.insert remote.uuid remote, true, false)
  | some local_ =>
    let localDominant := dominantWrite local_.addTimeline
    let remoteDominant := dominantWrite remote.addTimeline
    let add := mergeTimelineInto local_.addTimeline remote.addTimeline
    let remove := mergeTimelineInto local_.removeTimeline remote.removeTimeline
    let payload := joinPayload local_ remote
    let conflict := payload.2.2 || local_.live != remote.live ||
      (decide (local_.properties ≠ remote.properties) &&
        localDominant.observed && remoteDominant.observed)
    (vertices.insert remote.uuid
        { local_ with
          addTimeline := add.1, removeTimeline := remove.1, properties := payload.1 },
      add.2 || remove.2 || payload.2.1, conflict)

def joinEdgeLocked (edges : EdgeMap) (remote : Edge) : EdgeMap × Bool × Bool :=
  match edges[remote.key]? with
  | none => (edges.insert remote.key remote, true, false)
  | some local_ =>
    let add := mergeTimelineInto local_.addTimeline remote.addTimeline
    let remove := mergeTimelineInto local_.removeTimeline remote.removeTimeline
    (edges.insert remote.key { local_ with addTimeline := add.1, removeTimeline := remove.1 },
      add.2 || remove.2, local_.live != remote.live)

/-- One turn of the vertex loop of the join. -/
def ingestVertex (acc : VertexMap × MergeReport) (element : Vertex) : VertexMap × MergeReport :=
  let remote := { element with uuid := trimSpace element.uuid }
  let report := { acc.2 with inspected := acc.2.inspected + 1 }
  if remote.uuid = "" ∨ remote.observed = false then
    (acc.1, { report with skipped := report.skipped + 1 })
  else
    let joined := joinVertexLocked acc.1 remote
    (joined.1,
      { report with
        highestStamp := maxStamp [report.highestStamp, highestStamp remote.addTimeline,
          highestStamp remote.removeTimeline]
        verticesJoined := report.verticesJoined + joined.2.1.toNat
        conflicts := report.conflicts + joined.2.2.toNat })

/-- One turn of the edge loop of the join. -/
def ingestEdge (table : CaseTable) (acc : EdgeMap × MergeReport) (element : Edge) :
    EdgeMap × MergeReport :=
  let remote :=
    { element with
      sourceUUID := trimSpace element.sourceUUID
      targetUUID := trimSpace element.targetUUID
      relationshipType := table.upper (trimSpace element.relationshipType) }
  let report := { acc.2 with inspected := acc.2.inspected + 1 }
  if remote.sourceUUID = "" ∨ remote.targetUUID = "" ∨ remote.relationshipType = "" ∨
      remote.observed = false then
    (acc.1, { report with skipped := report.skipped + 1 })
  else
    let joined := joinEdgeLocked acc.1 remote
    (joined.1,
      { report with
        highestStamp := maxStamp [report.highestStamp, highestStamp remote.addTimeline,
          highestStamp remote.removeTimeline]
        edgesJoined := report.edgesJoined + joined.2.1.toNat
        conflicts := report.conflicts + joined.2.2.toNat })

namespace GraphCRDT

/-- The join of a whole snapshot, under a context that does not expire. -/
def applyLocked (table : CaseTable) (c : GraphCRDT) (snap : Snapshot) :
    GraphCRDT × MergeReport :=
  let vertices := snap.vertices.foldl ingestVertex (c.vertices, {})
  let edges := snap.edges.foldl (ingestEdge table) (c.edges, vertices.2)
  ({ c with
      vertices := vertices.1
      edges := edges.1
      lamportClock :=
        raiseClock (raiseClock c.lamportClock snap.lamportClock) edges.2.highestStamp },
    edges.2)

def mergeSnapshot (table : CaseTable) (c : GraphCRDT) (snap : Snapshot) : GraphCRDT :=
  (applyLocked table c snap).1

end GraphCRDT
end OpenOntology.Crdt
