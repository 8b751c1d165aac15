import OpenOntology.Library.Load
import OpenOntology.Crdt.Wire
import OpenOntology.Crdt.Filing

/-!
# Copies of a replica

A replica leaves the process as JSON and comes back through `UnmarshalJSON`, and `Clone`
hands out a copy within it. Both load a snapshot into an empty replica through the join.
Whatever a replica was told, it files every element under its own normalised key, touched,
with no stamp beyond its clock, so the load inserts every element as it stands.
-/
namespace OpenOntology.Crdt
open Library

variable {table : CaseTable}

namespace GraphCRDT

def clone (table : CaseTable) (generated : String) (c : GraphCRDT) : GraphCRDT :=
  let snap := c.snapshot
  (applyLocked table (newGraphCRDT generated snap.clientID snap.lamportClock) snap).1

/-- Over the encoder of the runtime. -/
def marshalJSON (marshal : Snapshot → Option (List UInt8)) (c : GraphCRDT) :
    Option (List UInt8) := marshal c.snapshot

/-- What decoding into `c` leaves there, or nothing where the bytes do not decode. An id
that `c` has already is kept; everything else is discarded. -/
def unmarshalJSON (table : CaseTable) (decode : List UInt8 → Option Snapshot)
    (generated : String) (c : GraphCRDT) (data : List UInt8) : Option GraphCRDT :=
  match decode data with
  | none => none
  | some snap =>
    let clientID :=
      if trimSpace c.clientID = "" then
        let sent := trimSpace snap.clientID
        if sent = "" then generated else sent
      else c.clientID
    some (applyLocked table { clientID := clientID, lamportClock := 0 } snap).1

/-- `GraphCRDT{}`. -/
def zeroValue : GraphCRDT := { clientID := "", lamportClock := 0 }

end GraphCRDT

/-! ## What is filed -/

structure VertexFiled (u : String) (v : Vertex) : Prop where
  uuid : v.uuid = u
  trimmed : trimSpace u = u
  named : u ≠ ""
  observed : v.observed = true

def VerticesFiled (vertices : VertexMap) : Prop :=
  ∀ (u : String) (v : Vertex), vertices[u]? = some v → VertexFiled u v

theorem verticesFiled_empty : VerticesFiled ∅ := by
  intro u v held
  rw [Std.ExtTreeMap.getElem?_empty] at held
  cases held

theorem VerticesFiled.getD {vertices : VertexMap} (filed : VerticesFiled vertices) (id : String) :
    (vertices.getD id { uuid := id }).uuid = id := by
  rw [Std.ExtTreeMap.getD_eq_getD_getElem?]
  cases found : vertices[id]? with
  | none => rfl
  | some v => exact (filed id v found).uuid

theorem VerticesFiled.insert {vertices : VertexMap} (filed : VerticesFiled vertices) {u : String}
    {v : Vertex} (fresh : VertexFiled u v) : VerticesFiled (vertices.insert u v) := by
  intro w x held
  rw [Std.ExtTreeMap.getElem?_insert] at held
  split at held
  next same =>
    cases held
    rw [← Std.LawfulEqCmp.compare_eq_iff_eq.mp same]
    exact fresh
  next => exact filed w x held

theorem addVertex_verticesFiled {c : GraphCRDT} (filed : VerticesFiled c.vertices) (id : String)
    (props : Properties) : VerticesFiled (c.addVertex id props).vertices := by
  unfold GraphCRDT.addVertex
  dsimp only
  split
  next => exact filed
  next named =>
    exact filed.insert ⟨filed.getD (trimSpace id), trimSpace_trimSpace id, named,
      Vertex.observed_of_added Std.ExtTreeMap.getElem?_insert_self⟩

theorem removeVertex_verticesFiled {c : GraphCRDT} (filed : VerticesFiled c.vertices)
    (id : String) : VerticesFiled (c.removeVertex id).vertices := by
  unfold GraphCRDT.removeVertex
  dsimp only
  split
  next => exact filed
  next named =>
    exact filed.insert ⟨filed.getD (trimSpace id), trimSpace_trimSpace id, named,
      Vertex.observed_of_removed Std.ExtTreeMap.getElem?_insert_self⟩

theorem absorb_observed {held : Option Vertex} {remote : Vertex}
    (observed : remote.observed = true) : (absorb held remote).observed = true := by
  cases held with
  | none => exact observed
  | some local_ =>
    rw [Vertex.observed_iff] at observed ⊢
    intro blank
    rw [absorb_marks] at blank
    exact observed (sup_eq_bot_iff.mp blank).2

theorem joinVertexLocked_filed {vertices : VertexMap} (filed : VerticesFiled vertices)
    {remote : Vertex} (trimmed : trimSpace remote.uuid = remote.uuid) (named : remote.uuid ≠ "")
    (observed : remote.observed = true) : VerticesFiled (joinVertexLocked vertices remote).1 := by
  intro u v held
  rw [joinVertexLocked_getElem?] at held
  split at held
  next same =>
    subst same
    cases held
    refine ⟨?_, trimmed, named, absorb_observed observed⟩
    cases found : vertices[remote.uuid]? with
    | none => rfl
    | some local_ => exact (filed _ local_ found).uuid
  next => exact filed u v held

/-- The vertex loop keeps the filing on any input. -/
theorem foldl_ingestVertex_filed (l : List Vertex) (acc : VertexMap × MergeReport)
    (filed : VerticesFiled acc.1) : VerticesFiled (l.foldl ingestVertex acc).1 := by
  induction l generalizing acc with
  | nil => exact filed
  | cons v rest ih =>
    rw [List.foldl_cons]
    refine ih _ ?_
    unfold ingestVertex
    dsimp only
    split
    next => exact filed
    next admitted =>
      rw [not_or, Bool.not_eq_false] at admitted
      exact joinVertexLocked_filed filed (trimSpace_trimSpace v.uuid) admitted.1 admitted.2

/-! ## Stamps of edges -/

def EdgesBelow (bound : Int) (edges : EdgeMap) : Prop :=
  ∀ (k : String) (e : Edge), edges[k]? = some e →
    StampsBelow bound e.addTimeline ∧ StampsBelow bound e.removeTimeline

theorem edgesBelow_empty (bound : Int) : EdgesBelow bound ∅ := by
  intro k e held
  rw [Std.ExtTreeMap.getElem?_empty] at held
  cases held

theorem EdgesBelow.mono {bound larger : Int} {edges : EdgeMap} (below : EdgesBelow bound edges)
    (le : bound ≤ larger) : EdgesBelow larger edges :=
  fun k e held => ⟨(below k e held).1.mono le, (below k e held).2.mono le⟩

theorem EdgesBelow.insert {bound : Int} {edges : EdgeMap} (below : EdgesBelow bound edges)
    (k : String) (e : Edge) (add : StampsBelow bound e.addTimeline)
    (remove : StampsBelow bound e.removeTimeline) : EdgesBelow bound (edges.insert k e) := by
  intro j f held
  rw [Std.ExtTreeMap.getElem?_insert] at held
  split at held
  · cases held
    exact ⟨add, remove⟩
  · exact below j f held

theorem edgesBelow_iff_lines (bound : Int) (c : GraphCRDT) :
    EdgesBelow bound c.edges ↔ ∀ k b, StampsBelow bound (c.line (.edge k) b) := by
  constructor
  · intro below k b
    cases b <;> cases found : c.edges[k]? with
      | none => simpa [GraphCRDT.line, found] using stampsBelow_empty bound
      | some e => simp [GraphCRDT.line, found, below k e found]
  · intro lines k e held
    have add := lines k true
    have remove := lines k false
    simp only [GraphCRDT.line, held, Option.map_some, Option.getD_some] at add remove
    exact ⟨add, remove⟩

/-- A mutation writes no stamp beyond the clock it leaves. -/
theorem Applies.edgesBelow {c next : GraphCRDT} {writes : List Write}
    (applies : Applies c next writes) (below : EdgesBelow c.lamportClock c.edges) :
    EdgesBelow next.lamportClock next.edges := by
  rw [edgesBelow_iff_lines] at below ⊢
  intro k b
  have grown := (below k b).mono applies.forward
  by_cases touched : ∃ w ∈ writes, w.element = .edge k ∧ w.asserted = b
  · obtain ⟨w, member, element, asserted⟩ := touched
    have ticked := applies.ticked (List.ne_nil_of_mem member)
    have written := applies.written w member
    rw [element, asserted] at written
    rw [written]
    exact grown.insert ticked.ge _
  · rw [applies.untouched (.edge k) b (fun w member hits => touched ⟨w, member, hits⟩)]
    exact grown

theorem joinEdgeLocked_below {bound : Int} {edges : EdgeMap} (below : EdgesBelow bound edges)
    (remote : Edge) (add : StampsBelow bound remote.addTimeline)
    (remove : StampsBelow bound remote.removeTimeline) :
    EdgesBelow bound (joinEdgeLocked edges remote).1 := by
  unfold joinEdgeLocked
  cases found : edges[remote.key]? with
  | none => exact below.insert _ _ add remove
  | some local_ =>
    obtain ⟨here, there⟩ := below _ _ found
    exact below.insert _ _ (here.merge add) (there.merge remove)

theorem foldl_ingestEdge_below {bound : Int} (l : List Edge) (acc : EdgeMap × MergeReport)
    (ceiling : (l.foldl (ingestEdge table) acc).2.highestStamp ≤ bound)
    (below : EdgesBelow bound acc.1) : EdgesBelow bound (l.foldl (ingestEdge table) acc).1 := by
  induction l generalizing acc with
  | nil => exact below
  | cons e rest ih =>
    rw [List.foldl_cons] at ceiling ⊢
    refine ih _ ceiling ?_
    have middle := foldl_ingestEdge_ceiling rest (ingestEdge table acc e) ceiling
    unfold ingestEdge at middle ⊢
    dsimp only at middle ⊢
    split at middle
    next refused =>
      rw [if_pos refused]
      exact below
    next admitted =>
      rw [if_neg admitted]
      obtain ⟨-, -, add, remove⟩ := (maxStamp_three _ _ _ bound).mp middle
      exact joinEdgeLocked_below below _ (stampsBelow_of_highestStamp add)
        (stampsBelow_of_highestStamp remove)

/-! ## The invariant -/

/-- What makes the snapshot of a replica load as it stands. -/
structure Loadable (table : CaseTable) (c : GraphCRDT) : Prop where
  trimmed : trimSpace c.clientID = c.clientID
  named : c.clientID ≠ ""
  clock : ClockDominates c
  vertices : VerticesFiled c.vertices
  edges : EdgesFiled table c.edges
  stamps : EdgesBelow c.lamportClock c.edges

theorem newGraphCRDT_loadable {generated : String} (trimmed : trimSpace generated = generated)
    (named : generated ≠ "") (clientID : String) {initialClock : Int}
    (restored : Int64Range initialClock) :
    Loadable table (newGraphCRDT generated clientID initialClock) where
  trimmed := by
    unfold newGraphCRDT
    dsimp only
    split
    next => exact trimmed
    next => exact trimSpace_trimSpace clientID
  named := by
    unfold newGraphCRDT
    dsimp only
    split
    next => exact named
    next own => exact own
  clock := newGraphCRDT_dominates generated clientID restored
  vertices := verticesFiled_empty
  edges := edgesFiled_empty
  stamps := edgesBelow_empty _

theorem Loadable.applies {c next : GraphCRDT} {writes : List Write} (ok : Loadable table c)
    (applies : Applies c next writes) (clock : ClockDominates next)
    (vertices : VerticesFiled next.vertices) (edges : EdgesFiled table next.edges) :
    Loadable table next where
  trimmed := by rw [applies.clientID, ok.trimmed]
  named := by rw [applies.clientID]; exact ok.named
  clock := clock
  vertices := vertices
  edges := edges
  stamps := applies.edgesBelow ok.stamps

theorem Loadable.mergeSnapshot {c : GraphCRDT} (ok : Loadable table c) {snap : Snapshot}
    (decoded : snap.Decoded) : Loadable table (c.mergeSnapshot table snap) where
  trimmed := ok.trimmed
  named := ok.named
  clock := ok.clock.mergeSnapshot decoded
  vertices := foldl_ingestVertex_filed snap.vertices (c.vertices, {}) ok.vertices
  edges := (mergeSnapshot_filed ok.edges snap).1
  stamps := by
    unfold GraphCRDT.mergeSnapshot GraphCRDT.applyLocked
    dsimp only
    simp only [raiseClock_eq_max]
    refine foldl_ingestEdge_below snap.edges _ (le_max_right _ _) (ok.stamps.mono ?_)
    omega

theorem Loadable.act {c : GraphCRDT} (ok : Loadable table c) {a : Action} (decoded : a.Decoded)
    (room : a.isLocal = true → c.lamportClock < maxInt64) : Loadable table (c.act table a) := by
  have clock : ClockDominates (c.act table a) := ok.clock.act decoded room
  have nonneg := ok.clock.nonneg
  cases a with
  | addVertex id props =>
    refine ok.applies (addVertex_applies nonneg (room rfl) id props) clock
      (addVertex_verticesFiled ok.vertices id props) ?_
    show EdgesFiled table (c.addVertex id props).edges
    rw [addVertex_edges]
    exact ok.edges
  | removeVertex id =>
    exact ok.applies (removeVertex_applies nonneg (room rfl) id) clock
      (removeVertex_verticesFiled ok.vertices id) (removeVertex_filed ok.edges id)
  | addEdge source target relationship =>
    refine ok.applies (addEdge_applies nonneg (room rfl) source target relationship) clock ?_
      (addEdge_filed ok.edges source target relationship)
    show VerticesFiled (c.addEdge table source target relationship).vertices
    rw [addEdge_vertices]
    exact ok.vertices
  | removeEdge source target relationship =>
    refine ok.applies (removeEdge_applies nonneg (room rfl) source target relationship) clock ?_
      (removeEdge_filed ok.edges source target relationship)
    show VerticesFiled (c.removeEdge table source target relationship).vertices
    rw [removeEdge_vertices]
    exact ok.vertices
  | mergeSnapshot snap => exact ok.mergeSnapshot decoded

theorem Loadable.acts {c : GraphCRDT} (ok : Loadable table c) (actions : List Action)
    (decoded : ∀ a ∈ actions, a.Decoded) (room : c.NeverFull table actions) :
    Loadable table (c.acts table actions) := by
  induction actions generalizing c with
  | nil => exact ok
  | cons a rest ih =>
    exact ih (ok.act (decoded a List.mem_cons_self) room.1)
      (fun b member => decoded b (List.mem_cons_of_mem a member)) room.2

/-! ## Loading a snapshot -/

theorem joinVertexLocked_inserts :
    Inserts Vertex.uuid fun (m : VertexMap) v => (joinVertexLocked m v).1 := by
  intro m v fresh
  dsimp only
  unfold joinVertexLocked
  rw [fresh]

theorem joinEdgeLocked_inserts :
    Inserts Edge.key fun (m : EdgeMap) e => (joinEdgeLocked m e).1 := by
  intro m e fresh
  dsimp only
  unfold joinEdgeLocked
  rw [fresh]

theorem mem_snapshot_vertices {c : GraphCRDT} {v : Vertex} (member : v ∈ c.snapshot.vertices) :
    ∃ u : String, c.vertices[u]? = some v :=
  mem_entries c.vertices v (List.mem_mergeSort.mp member)

theorem mem_snapshot_edges {c : GraphCRDT} {e : Edge} (member : e ∈ c.snapshot.edges) :
    ∃ k : String, c.edges[k]? = some e :=
  mem_entries c.edges e (List.mem_mergeSort.mp member)

/-- A replica's own snapshot is let in as it stands. -/
theorem admitted_snapshot {c : GraphCRDT} (filed : VerticesFiled c.vertices) :
    c.snapshot.admitted = c.snapshot.vertices := by
  have standing : ∀ v ∈ c.snapshot.vertices, trimSpace v.uuid = v.uuid ∧ v.uuid ≠ "" ∧
      v.observed = true := by
    intro v member
    obtain ⟨u, held⟩ := mem_snapshot_vertices member
    obtain ⟨rfl, trimmed, named, observed⟩ := filed u v held
    exact ⟨trimmed, named, observed⟩
  have kept : (c.snapshot.vertices.map fun v => { v with uuid := trimSpace v.uuid }) =
      c.snapshot.vertices := by
    refine (List.map_congr_left fun v member => ?_).trans (List.map_id _)
    rw [(standing v member).1]
    rfl
  unfold Snapshot.admitted
  rw [kept, List.filter_eq_self]
  intro v member
  simp [standing v member]

/-- A snapshot says about a vertex what the replica holds. -/
theorem entriesOf_snapshot {c : GraphCRDT} (filed : VerticesFiled c.vertices) (u : String) :
    c.snapshot.entriesOf u = c.vertices[u]?.toList := by
  unfold Snapshot.entriesOf
  rw [admitted_snapshot filed]
  exact filter_values (fun u v held => (filed u v held).uuid) (List.mergeSort_perm _ _) u

theorem load_vertices {c : GraphCRDT} (filed : VerticesFiled c.vertices) (report : MergeReport) :
    (c.snapshot.vertices.foldl ingestVertex (∅, report)).1 = c.vertices := by
  have standing := admitted_snapshot filed
  unfold Snapshot.admitted at standing
  rw [foldl_ingestVertex_admitted, standing]
  exact foldl_load_values joinVertexLocked_inserts (fun u v held => (filed u v held).uuid)
    (List.mergeSort_perm _ _)

theorem load_edges {c : GraphCRDT} (filed : EdgesFiled table c.edges) (report : MergeReport) :
    (c.snapshot.edges.foldl (ingestEdge table) (∅, report)).1 = c.edges := by
  have standing := admittedEdges_snapshot filed
  unfold Snapshot.admittedEdges at standing
  rw [foldl_ingestEdge_admitted, standing]
  exact foldl_load_values joinEdgeLocked_inserts (fun k e held => (filed k e held).1)
    (List.mergeSort_perm _ _)

/-- Loading the snapshot under the replica's own id rebuilds the replica. -/
theorem applyLocked_load {c : GraphCRDT} (ok : Loadable table c) {clock : Int}
    (behind : clock ≤ c.lamportClock) :
    (GraphCRDT.applyLocked table { clientID := c.clientID, lamportClock := clock }
      c.snapshot).1 = c := by
  have nonneg := ok.clock.nonneg
  have seen := foldl_ingestEdge_fits table nonneg c.snapshot.edges
    (∅, (c.snapshot.vertices.foldl ingestVertex (∅, {})).2)
    (fun e member => by
      obtain ⟨k, held⟩ := mem_snapshot_edges member
      exact ⟨(ok.stamps k e held).1.highestStamp_le nonneg,
        (ok.stamps k e held).2.highestStamp_le nonneg⟩)
    (foldl_ingestVertex_fits nonneg c.snapshot.vertices (∅, {})
      (fun v member => by
        obtain ⟨u, held⟩ := mem_snapshot_vertices member
        exact ⟨(ok.clock.vertices u v held).1.highestStamp_le nonneg,
          (ok.clock.vertices u v held).2.highestStamp_le nonneg⟩) nonneg)
  have clock : GraphCRDT.raiseClock (GraphCRDT.raiseClock clock c.lamportClock)
      (c.snapshot.edges.foldl (ingestEdge table)
        (∅, (c.snapshot.vertices.foldl ingestVertex (∅, {})).2)).2.highestStamp =
      c.lamportClock := by
    rw [raiseClock_eq_max, raiseClock_eq_max, max_eq_right behind, max_eq_left seen]
  unfold GraphCRDT.applyLocked
  dsimp only
  rw [load_vertices ok.vertices, load_edges ok.edges]
  exact congrArg (fun n => ({ c with lamportClock := n } : GraphCRDT)) clock

theorem clone_eq {c : GraphCRDT} (ok : Loadable table c) (generated : String) :
    c.clone table generated = c := by
  have nonneg := ok.clock.nonneg
  have fresh : newGraphCRDT generated c.clientID c.lamportClock =
      { clientID := c.clientID, lamportClock := c.lamportClock } := by
    unfold newGraphCRDT
    dsimp only
    rw [ok.trimmed, if_neg ok.named]
    split
    next => rfl
    next stopped => rw [show c.lamportClock = 0 by omega]
  have sent : c.snapshot.clientID = c.clientID := rfl
  have stamped : c.snapshot.lamportClock = c.lamportClock := rfl
  unfold GraphCRDT.clone
  dsimp only
  rw [sent, stamped, fresh]
  exact applyLocked_load ok le_rfl

theorem unmarshalJSON_eq {c : GraphCRDT} (ok : Loadable table c)
    {decode : List UInt8 → Option Snapshot} {data : List UInt8}
    (read : decode data = some c.snapshot) (generated : String) :
    GraphCRDT.zeroValue.unmarshalJSON table decode generated data = some c := by
  have blank : trimSpace GraphCRDT.zeroValue.clientID = "" := by decide +kernel
  have sent : trimSpace c.snapshot.clientID = c.clientID := ok.trimmed
  unfold GraphCRDT.unmarshalJSON
  rw [read]
  dsimp only
  rw [if_pos blank, sent, if_neg ok.named, applyLocked_load ok ok.clock.nonneg]

/-! ## The copies -/

/-- The copy holds what the original holds, hashes alike and acts alike. -/
structure Copies (table : CaseTable) (original copy : GraphCRDT) : Prop where
  clientID : copy.clientID = original.clientID
  lamportClock : copy.lamportClock = original.lamportClock
  vertices : copy.vertices = original.vertices
  edges : copy.edges = original.edges
  digest : ∀ marshal sha, copy.digest marshal sha = original.digest marshal sha
  acts : ∀ actions, copy.acts table actions = original.acts table actions

theorem Copies.refl (c : GraphCRDT) : Copies table c c :=
  ⟨rfl, rfl, rfl, rfl, fun _ _ => rfl, fun _ => rfl⟩

/-- Whatever a replica was told, as long as no mutation found its clock at the end, what
it encodes decodes into a copy of it, and so is its clone. -/
theorem round_trip (table : CaseTable) (generated clientID : String)
    (trimmed : trimSpace generated = generated) (named : generated ≠ "") (initialClock : Int)
    (restored : Int64Range initialClock) (actions : List Action)
    (decoded : ∀ a ∈ actions, a.Decoded)
    (room : (newGraphCRDT generated clientID initialClock).NeverFull table actions)
    (marshal : Snapshot → Option (List UInt8)) (decode : List UInt8 → Option Snapshot)
    (lossless : ∃ data, marshal
        ((newGraphCRDT generated clientID initialClock).acts table actions).snapshot = some data ∧
      decode data =
        some ((newGraphCRDT generated clientID initialClock).acts table actions).snapshot)
    (spare : String) :
    Copies table ((newGraphCRDT generated clientID initialClock).acts table actions)
        (((newGraphCRDT generated clientID initialClock).acts table actions).clone table spare) ∧
      ∃ data copy,
        ((newGraphCRDT generated clientID initialClock).acts table actions).marshalJSON marshal =
            some data ∧
          GraphCRDT.zeroValue.unmarshalJSON table decode spare data = some copy ∧
          Copies table ((newGraphCRDT generated clientID initialClock).acts table actions)
            copy := by
  have ok : Loadable table ((newGraphCRDT generated clientID initialClock).acts table actions) :=
    (newGraphCRDT_loadable trimmed named clientID restored).acts actions decoded room
  obtain ⟨data, written, read⟩ := lossless
  constructor
  · rw [clone_eq ok]
    exact Copies.refl _
  · exact ⟨data, _, written, unmarshalJSON_eq ok read spare, Copies.refl _⟩

/-- A vertex, a tombstone of a vertex never seen, and an edge without live endpoints. -/
def edgeSiteActions : List Action :=
  [.addVertex " pump" ((∅ : Properties).insert "criticality" "high"), .removeVertex "ghost",
    .addEdge "pump" "tank" "feeds"]

def edgeSite : GraphCRDT := (newGraphCRDT "replica-0" "edge-1" 0).acts asciiCase edgeSiteActions

def edgeSiteJSON : List UInt8 :=
  ("\x7b\"client_id\":\"edge-1\",\"lamport_clock\":3,\"captured_at\":\"2026-01-01T00:00:00Z\"," ++
    "\"vertices\":[\x7b\"uuid\":\"ghost\",\"remove_timeline\":\x7b\"edge-1\":2\x7d\x7d," ++
    "\x7b\"uuid\":\"pump\",\"properties\":\x7b\"criticality\":\"high\"\x7d," ++
    "\"add_timeline\":\x7b\"edge-1\":1\x7d\x7d],\"edges\":[\x7b\"source_uuid\":\"pump\"," ++
    "\"target_uuid\":\"tank\",\"relationship_type\":\"FEEDS\"," ++
    "\"add_timeline\":\x7b\"edge-1\":3\x7d\x7d]\x7d").toUTF8.toList

theorem round_trip_edgeSite :
    Copies asciiCase edgeSite (edgeSite.clone asciiCase "replica-1") ∧
      ∃ data copy, edgeSite.marshalJSON (fun _ => some edgeSiteJSON) = some data ∧
        GraphCRDT.zeroValue.unmarshalJSON asciiCase
            (fun read => if read = edgeSiteJSON then some edgeSite.snapshot else none)
            "replica-1" data = some copy ∧
          Copies asciiCase edgeSite copy := by
  refine round_trip asciiCase "replica-0" "edge-1" (by decide +kernel) (by decide) 0 (by decide)
    edgeSiteActions ?_ ?_ _ _ ⟨edgeSiteJSON, rfl, if_pos rfl⟩ "replica-1"
  · intro a member
    simp only [edgeSiteActions, List.mem_cons, List.not_mem_nil, or_false] at member
    rcases member with rfl | rfl | rfl <;> exact trivial
  · exact ⟨fun _ => by decide +kernel, fun _ => by decide +kernel, fun _ => by decide +kernel,
      trivial⟩

end OpenOntology.Crdt
