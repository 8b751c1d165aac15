import OpenOntology.Crdt.EdgeIdentity
import OpenOntology.Crdt.LastWrite
import OpenOntology.Crdt.RoundTrip

/-!
# Reachable replicas

A replica starts empty, or at a restored clock, and from there takes local operations,
snapshots off the wire and compactions in any order. Whatever it was told, it stays
loadable, and every edge it stores was named by an operation or by a snapshot.
-/
namespace OpenOntology.Crdt
open Library

variable {table : CaseTable}

/-! ## Compaction -/

namespace GraphCRDT

/-- A tombstone whose highest remove stamp is below the watermark. -/
def settled (live : Bool) (removeTimeline : Timeline) (stableBefore : Int) : Bool :=
  !live && highestStamp removeTimeline < stableBefore

/-- The replica without its settled tombstones, and how many were dropped. -/
def compact (c : GraphCRDT) (stableBefore : Int) : GraphCRDT × Nat :=
  if stableBefore ≤ 0 then (c, 0)
  else
    let vertices := c.vertices.filter fun _ v => !settled v.live v.removeTimeline stableBefore
    let edges := c.edges.filter fun _ e => !settled e.live e.removeTimeline stableBefore
    ({ c with vertices, edges },
      (c.vertices.size - vertices.size) + (c.edges.size - edges.size))

end GraphCRDT

/-- What a filtered map stores, the map stores. -/
theorem stored_of_filter {α : Type} {m : Std.ExtTreeMap String α} {keep : α → Bool} {k : String}
    {a : α} (held : (m.filter fun _ a => keep a)[k]? = some a) : m[k]? = some a := by
  rw [Std.ExtTreeMap.getElem?_filter'] at held
  exact (Option.filter_eq_some_iff.mp held).1

/-- What is left after a compaction was there before. -/
theorem stored_of_compact {c : GraphCRDT} {stableBefore : Int} :
    (∀ {u : String} {v : Vertex}, (c.compact stableBefore).1.vertices[u]? = some v →
        c.vertices[u]? = some v) ∧
      ∀ {k : String} {e : Edge}, (c.compact stableBefore).1.edges[k]? = some e →
        c.edges[k]? = some e := by
  unfold GraphCRDT.compact
  split
  next => exact ⟨id, id⟩
  next => exact ⟨stored_of_filter, stored_of_filter⟩

theorem compact_clock (c : GraphCRDT) (stableBefore : Int) :
    (c.compact stableBefore).1.lamportClock = c.lamportClock ∧
      (c.compact stableBefore).1.clientID = c.clientID := by
  unfold GraphCRDT.compact
  split <;> exact ⟨rfl, rfl⟩

theorem Loadable.compact {c : GraphCRDT} (ok : Loadable table c) (stableBefore : Int) :
    Loadable table (c.compact stableBefore).1 := by
  obtain ⟨clock, clientID⟩ := compact_clock c stableBefore
  obtain ⟨vertices, edges⟩ := @stored_of_compact c stableBefore
  refine ⟨?_, ?_, ⟨?_, ?_, ?_⟩, ?_, ?_, ?_⟩
  · rw [clientID, ok.trimmed]
  · rw [clientID]
    exact ok.named
  · rw [clock]
    exact ok.clock.nonneg
  · rw [clock]
    exact ok.clock.fits
  · rw [clock]
    exact fun u v held => ok.clock.vertices u v (vertices held)
  · exact fun u v held => ok.vertices u v (vertices held)
  · exact fun k e held => ok.edges k e (edges held)
  · rw [clock]
    exact fun k e held => ok.stamps k e (edges held)

/-! ## Reachability -/

/-- The states of a replica whose operations and snapshots are among `admits`. -/
inductive GraphCRDT.Reachable (table : CaseTable) (admits : Action → Prop) : GraphCRDT → Prop
  | start {generated : String} (trimmed : trimSpace generated = generated)
      (named : generated ≠ "") (clientID : String) {initialClock : Int}
      (restored : Int64Range initialClock) :
      Reachable table admits (newGraphCRDT generated clientID initialClock)
  | act {c : GraphCRDT} {a : Action} (reached : Reachable table admits c) (admitted : admits a)
      (decoded : a.Decoded) (room : a.isLocal = true → c.lamportClock < maxInt64) :
      Reachable table admits (c.act table a)
  | compact {c : GraphCRDT} (reached : Reachable table admits c) (stableBefore : Int) :
      Reachable table admits (c.compact stableBefore).1

theorem GraphCRDT.Reachable.loadable {admits : Action → Prop} {c : GraphCRDT}
    (reached : c.Reachable table admits) : Loadable table c := by
  induction reached with
  | start trimmed named clientID restored =>
    exact newGraphCRDT_loadable trimmed named clientID restored
  | act _ _ decoded room ih => exact ih.act decoded room
  | compact _ stableBefore ih => exact ih.compact stableBefore

/-- Operations that are admitted, one after the other. -/
theorem GraphCRDT.Reachable.acts {admits : Action → Prop} {c : GraphCRDT}
    (reached : c.Reachable table admits) (actions : List Action)
    (admitted : ∀ a ∈ actions, admits a ∧ a.Decoded) (room : c.NeverFull table actions) :
    (c.acts table actions).Reachable table admits := by
  induction actions generalizing c with
  | nil => exact reached
  | cons a rest ih =>
    obtain ⟨allowed, decoded⟩ := admitted a List.mem_cons_self
    exact ih (reached.act allowed decoded room.1)
      (fun b member => admitted b (List.mem_cons_of_mem a member)) room.2

/-! ## The names of stored edges -/

def Edge.triple (e : Edge) : Triple := ⟨e.sourceUUID, e.relationshipType, e.targetUUID⟩

/-- Every edge that the operation or the snapshot names is one of these. -/
def Action.EdgesIn (table : CaseTable) (named : Triple → Prop) : Action → Prop
  | .addEdge source target relationship | .removeEdge source target relationship =>
    ∀ t, Names table source target relationship t → named t
  | .mergeSnapshot snap =>
    ∀ e ∈ snap.edges, ∀ t, Names table e.sourceUUID e.targetUUID e.relationshipType t → named t
  | _ => True

def EdgesNamed (named : Triple → Prop) (edges : EdgeMap) : Prop :=
  ∀ (k : String) (e : Edge), edges[k]? = some e → named e.triple

section
variable {named : Triple → Prop}

theorem EdgesNamed.insert {edges : EdgeMap} (all : EdgesNamed named edges) (k : String) {e : Edge}
    (new : named e.triple) : EdgesNamed named (edges.insert k e) := by
  intro j f held
  rw [Std.ExtTreeMap.getElem?_insert] at held
  split at held
  next =>
    cases held
    exact new
  next => exact all j f held

/-- The entry an edge mutation starts from, be it stored or new. -/
theorem EdgesNamed.getD {edges : EdgeMap} (all : EdgesNamed named edges) {src rel dst : String}
    (new : named ⟨src, rel, dst⟩) :
    named (edges.getD (edgeKey src rel dst)
      { sourceUUID := src, targetUUID := dst, relationshipType := rel }).triple := by
  rw [Std.ExtTreeMap.getD_eq_getD_getElem?]
  cases found : edges[edgeKey src rel dst]? with
  | none => exact new
  | some e => exact all _ e found

theorem cascade_triple (clientID removed : String) (stamp : Int) (e : Edge) :
    (GraphCRDT.cascade clientID removed stamp e).triple = e.triple := by
  rw [cascade_eq]
  split <;> rfl

theorem joinEdgeLocked_named {edges : EdgeMap} (all : EdgesNamed named edges) {remote : Edge}
    (new : named remote.triple) : EdgesNamed named (joinEdgeLocked edges remote).1 := by
  unfold joinEdgeLocked
  cases found : edges[remote.key]? with
  | none => exact all.insert remote.key new
  | some local_ => exact all.insert remote.key (all _ local_ found : named local_.triple)

theorem foldl_ingestEdge_named (l : List Edge) (acc : EdgeMap × MergeReport)
    (all : EdgesNamed named acc.1)
    (named_by : ∀ e ∈ l, ∀ t, Names table e.sourceUUID e.targetUUID e.relationshipType t → named t) :
    EdgesNamed named (l.foldl (ingestEdge table) acc).1 := by
  induction l generalizing acc with
  | nil => exact all
  | cons e rest ih =>
    refine ih (ingestEdge table acc e) ?_ fun f member => named_by f (List.mem_cons_of_mem e member)
    unfold ingestEdge
    dsimp only
    split
    next => exact all
    next admitted =>
      rw [not_or, not_or, not_or] at admitted
      refine joinEdgeLocked_named all (named_by e List.mem_cons_self _ ?_)
      unfold Names GraphCRDT.normalizeEdge Edge.triple
      simp [admitted]

theorem EdgesNamed.act {c : GraphCRDT} (all : EdgesNamed named c.edges) {a : Action}
    (inside : a.EdgesIn table named) : EdgesNamed named (c.act table a).edges := by
  cases a with
  | addVertex id props =>
    change EdgesNamed named (c.addVertex id props).edges
    rw [addVertex_edges]
    exact all
  | removeVertex id =>
    change EdgesNamed named (c.removeVertex id).edges
    unfold GraphCRDT.removeVertex
    dsimp only
    split
    next => exact all
    next =>
      intro k e held
      rw [Std.ExtTreeMap.getElem?_map, Option.map_eq_some_iff] at held
      obtain ⟨old, found, rfl⟩ := held
      rw [cascade_triple]
      exact all k old found
  | addEdge source target relationship =>
    change EdgesNamed named (c.addEdge table source target relationship).edges
    unfold GraphCRDT.addEdge
    cases names : GraphCRDT.normalizeEdge table source target relationship with
    | none => exact all
    | some parts =>
      obtain ⟨src, dst, rel⟩ := parts
      have start := all.getD (inside ⟨src, rel, dst⟩ names)
      dsimp only
      revert start
      generalize c.edges.getD (edgeKey src rel dst) _ = e
      intro start
      exact all.insert _ start
  | removeEdge source target relationship =>
    change EdgesNamed named (c.removeEdge table source target relationship).edges
    unfold GraphCRDT.removeEdge
    cases names : GraphCRDT.normalizeEdge table source target relationship with
    | none => exact all
    | some parts =>
      obtain ⟨src, dst, rel⟩ := parts
      have start := all.getD (inside ⟨src, rel, dst⟩ names)
      dsimp only
      revert start
      generalize c.edges.getD (edgeKey src rel dst) _ = e
      intro start
      exact all.insert _ start
  | mergeSnapshot snap => exact foldl_ingestEdge_named snap.edges _ all inside

theorem EdgesNamed.acts {c : GraphCRDT} (all : EdgesNamed named c.edges) (actions : List Action)
    (inside : ∀ a ∈ actions, a.EdgesIn table named) :
    EdgesNamed named (c.acts table actions).edges := by
  induction actions generalizing c with
  | nil => exact all
  | cons a rest ih =>
    exact ih (all.act (inside a List.mem_cons_self))
      fun b member => inside b (List.mem_cons_of_mem a member)

theorem GraphCRDT.Reachable.edgesNamed {admits : Action → Prop} {c : GraphCRDT}
    (reached : c.Reachable table admits) (inside : ∀ a, admits a → a.EdgesIn table named) :
    EdgesNamed named c.edges := by
  induction reached with
  | start =>
    intro k e held
    exact absurd (held.symm.trans Std.ExtTreeMap.getElem?_empty) (Option.some_ne_none e)
  | act _ admitted _ _ ih => exact ih.act (inside _ admitted)
  | compact _ stableBefore ih => exact fun k e held => ih k e (stored_of_compact.2 held)

end

/-! ## Local operations, line by line -/

/-- The writes of a local operation. -/
def GraphCRDT.writesOf (table : CaseTable) (c : GraphCRDT) : Action → List Write
  | .addVertex id props => c.addVertexWrites id props
  | .removeVertex id => c.removeVertexWrites id
  | .addEdge source target relationship => c.edgeWrites table true source target relationship
  | .removeEdge source target relationship => c.edgeWrites table false source target relationship
  | .mergeSnapshot _ => []

theorem act_applies {c : GraphCRDT} {a : Action} (nonneg : 0 ≤ c.lamportClock)
    (isLocal : a.isLocal = true) (room : c.lamportClock < maxInt64) :
    Applies c (c.act table a) (c.writesOf table a) := by
  cases a with
  | addVertex id props => exact addVertex_applies nonneg room id props
  | removeVertex id => exact removeVertex_applies nonneg room id
  | addEdge source target relationship =>
    exact addEdge_applies nonneg room source target relationship
  | removeEdge source target relationship =>
    exact removeEdge_applies nonneg room source target relationship
  | mergeSnapshot snap => cases isLocal

/-- No line of a loadable replica holds a stamp beyond its clock. -/
theorem Loadable.lines {c : GraphCRDT} (ok : Loadable table c) (el : Element) (b : Bool) :
    StampsBelow c.lamportClock (c.line el b) := by
  cases el with
  | edge k => exact (edgesBelow_iff_lines c.lamportClock c).mp ok.stamps k b
  | vertex u =>
    cases b <;> cases found : c.vertices[u]? with
      | none => simpa [GraphCRDT.line, found] using stampsBelow_empty c.lamportClock
      | some v => simp [GraphCRDT.line, found, ok.clock.vertices u v found]

end OpenOntology.Crdt
