import OpenOntology.Crdt.Elements

/-!
# What is filed where

Whatever is merged, an edge map files normalised, touched edges under their own keys:
the wire path normalises what it lets in. So the snapshot of a replica is let in as it
stands, and merging it joins line with line.
-/
namespace OpenOntology.Crdt
open Library

variable {table : CaseTable} {W : Writes}

/-- The components are as normalisation leaves them. -/
structure EdgeNormal (table : CaseTable) (e : Edge) : Prop where
  source : trimSpace e.sourceUUID = e.sourceUUID
  target : trimSpace e.targetUUID = e.targetUUID
  relationship : table.upper (trimSpace e.relationshipType) = e.relationshipType
  named : e.sourceUUID ≠ "" ∧ e.targetUUID ≠ "" ∧ e.relationshipType ≠ ""

/-- An edge map files normalised, touched edges under their own keys. -/
def EdgesFiled (table : CaseTable) (edges : EdgeMap) : Prop :=
  ∀ (k : String) (e : Edge), edges[k]? = some e →
    e.key = k ∧ EdgeNormal table e ∧ e.observed = true

theorem edgesFiled_empty : EdgesFiled table ∅ := by
  intro k e held
  rw [Std.ExtTreeMap.getElem?_empty] at held
  cases held

theorem EdgesFiled.insert {edges : EdgeMap} (filed : EdgesFiled table edges) (e : Edge)
    (normal : EdgeNormal table e) (observed : e.observed = true) :
    EdgesFiled table (edges.insert e.key e) := by
  intro k f held
  rw [Std.ExtTreeMap.getElem?_insert] at held
  split at held
  next same =>
    cases held
    exact ⟨Std.LawfulEqCmp.compare_eq_iff_eq.mp same, normal, observed⟩
  next => exact filed k f held

theorem normal_of_normalizeEdge {source target relationship src dst rel : String}
    (names : GraphCRDT.normalizeEdge table source target relationship = some (src, dst, rel)) :
    EdgeNormal table { sourceUUID := src, targetUUID := dst, relationshipType := rel } := by
  obtain ⟨rfl, rfl, rfl, named⟩ := normalizeEdge_some names
  refine ⟨trimSpace_trimSpace _, trimSpace_trimSpace _, ?_, named⟩
  show table.upper (trimSpace (table.upper (trimSpace relationship))) = _
  rw [table.trimSpace_upper, trimSpace_trimSpace, table.upper_upper]

/-- The entry an edge mutation starts from, be it stored or new. -/
theorem EdgesFiled.getD {edges : EdgeMap} (filed : EdgesFiled table edges)
    {source target relationship src dst rel : String}
    (names : GraphCRDT.normalizeEdge table source target relationship = some (src, dst, rel)) :
    (edges.getD (edgeKey src rel dst)
        { sourceUUID := src, targetUUID := dst, relationshipType := rel }).key =
        edgeKey src rel dst ∧
      EdgeNormal table (edges.getD (edgeKey src rel dst)
        { sourceUUID := src, targetUUID := dst, relationshipType := rel }) := by
  rw [Std.ExtTreeMap.getD_eq_getD_getElem?]
  cases found : edges[edgeKey src rel dst]? with
  | none => exact ⟨rfl, normal_of_normalizeEdge names⟩
  | some e => exact ⟨(filed _ e found).1, (filed _ e found).2.1⟩

theorem addEdge_filed {c : GraphCRDT} (filed : EdgesFiled table c.edges)
    (source target relationship : String) :
    EdgesFiled table (c.addEdge table source target relationship).edges := by
  unfold GraphCRDT.addEdge
  cases names : GraphCRDT.normalizeEdge table source target relationship with
  | none => exact filed
  | some normal =>
    obtain ⟨src, dst, rel⟩ := normal
    obtain ⟨key, normal⟩ := filed.getD names
    dsimp only
    revert key normal
    generalize c.edges.getD (edgeKey src rel dst) _ = e
    intro key normal
    rw [← key]
    exact filed.insert { e with
        addTimeline := e.addTimeline.insert c.clientID (increment c.lamportClock) }
      ⟨normal.source, normal.target, normal.relationship, normal.named⟩
      (Edge.observed_of_added Std.ExtTreeMap.getElem?_insert_self)

theorem removeEdge_filed {c : GraphCRDT} (filed : EdgesFiled table c.edges)
    (source target relationship : String) :
    EdgesFiled table (c.removeEdge table source target relationship).edges := by
  unfold GraphCRDT.removeEdge
  cases names : GraphCRDT.normalizeEdge table source target relationship with
  | none => exact filed
  | some normal =>
    obtain ⟨src, dst, rel⟩ := normal
    obtain ⟨key, normal⟩ := filed.getD names
    dsimp only
    revert key normal
    generalize c.edges.getD (edgeKey src rel dst) _ = e
    intro key normal
    rw [← key]
    exact filed.insert { e with
        removeTimeline := e.removeTimeline.insert c.clientID (increment c.lamportClock) }
      ⟨normal.source, normal.target, normal.relationship, normal.named⟩
      (Edge.observed_of_removed Std.ExtTreeMap.getElem?_insert_self)

theorem addVertex_edges (c : GraphCRDT) (id : String) (props : Properties) :
    (c.addVertex id props).edges = c.edges := by
  unfold GraphCRDT.addVertex
  dsimp only
  split <;> rfl

theorem addEdge_vertices (c : GraphCRDT) (source target relationship : String) :
    (c.addEdge table source target relationship).vertices = c.vertices := by
  unfold GraphCRDT.addEdge
  split <;> rfl

theorem removeEdge_vertices (c : GraphCRDT) (source target relationship : String) :
    (c.removeEdge table source target relationship).vertices = c.vertices := by
  unfold GraphCRDT.removeEdge
  split <;> rfl

theorem removeVertex_filed {c : GraphCRDT} (filed : EdgesFiled table c.edges) (id : String) :
    EdgesFiled table (c.removeVertex id).edges := by
  unfold GraphCRDT.removeVertex
  dsimp only
  split
  next => exact filed
  next =>
    intro k e held
    dsimp only at held
    rw [Std.ExtTreeMap.getElem?_map, Option.map_eq_some_iff] at held
    obtain ⟨old, found, rfl⟩ := held
    obtain ⟨key, normal, observed⟩ := filed k old found
    rw [cascade_eq]
    split
    next =>
      exact ⟨key, ⟨normal.source, normal.target, normal.relationship, normal.named⟩,
        Edge.observed_of_removed Std.ExtTreeMap.getElem?_insert_self⟩
    next => exact ⟨key, normal, observed⟩

/-! ## The edge loop on arbitrary input -/

/-- Joining a remote edge joins what the map says with what the edge says. -/
theorem edgeMarks_joinEdgeLocked (edges : EdgeMap) (remote : Edge) :
    edgeMarks (joinEdgeLocked edges remote).1 = edgeMarks edges ⊔ remote.carried := by
  unfold joinEdgeLocked
  rw [Edge.carried, update_sup_carried]
  cases found : edges[remote.key]? with
  | none => rw [edgeMarks_insert, edgeMarks_of_none found, bot_sup_eq]
  | some local_ =>
    rw [edgeMarks_insert, edgeMarks_of_some found]
    exact congrArg _ (marks_mergeTimelineInto local_.addTimeline local_.removeTimeline
      remote.addTimeline remote.removeTimeline)

theorem joinEdgeLocked_filed {edges : EdgeMap} (filed : EdgesFiled table edges) {remote : Edge}
    (normal : EdgeNormal table remote) (observed : remote.observed = true) :
    EdgesFiled table (joinEdgeLocked edges remote).1 := by
  unfold joinEdgeLocked
  cases found : edges[remote.key]? with
  | none => exact filed.insert remote normal observed
  | some local_ =>
    obtain ⟨key, standing, touched⟩ := filed _ local_ found
    dsimp only
    rw [← key]
    refine filed.insert { local_ with
        addTimeline := (mergeTimelineInto local_.addTimeline remote.addTimeline).1
        removeTimeline := (mergeTimelineInto local_.removeTimeline remote.removeTimeline).1 }
      ⟨standing.source, standing.target, standing.relationship, standing.named⟩ ?_
    rw [Edge.observed_iff] at touched ⊢
    intro blank
    have joined := marks_mergeTimelineInto local_.addTimeline local_.removeTimeline
      remote.addTimeline remote.removeTimeline
    have split_join : local_.marks ⊔ remote.marks = ⊥ := joined.symm.trans blank
    exact touched (sup_eq_bot_iff.mp split_join).1

/-- A wire edge under its canonical components. -/
def canonicalEdge (table : CaseTable) (e : Edge) : Edge :=
  { e with
    sourceUUID := trimSpace e.sourceUUID
    targetUUID := trimSpace e.targetUUID
    relationshipType := table.upper (trimSpace e.relationshipType) }

/-- The edges of a snapshot that the edge loop lets in. -/
def Snapshot.admittedEdges (table : CaseTable) (s : Snapshot) : List Edge :=
  (s.edges.map (canonicalEdge table)).filter fun e =>
    e.sourceUUID != "" && e.targetUUID != "" && e.relationshipType != "" && e.observed

theorem foldl_ingestEdge_admitted (table : CaseTable) (l : List Edge) (acc : EdgeMap × MergeReport) :
    (l.foldl (ingestEdge table) acc).1 =
      ((l.map (canonicalEdge table)).filter fun e =>
        e.sourceUUID != "" && e.targetUUID != "" && e.relationshipType != "" &&
          e.observed).foldl (fun m e => (joinEdgeLocked m e).1) acc.1 := by
  induction l generalizing acc with
  | nil => rfl
  | cons e rest ih =>
    rw [List.foldl_cons, ih, List.map_cons, List.filter_cons]
    unfold ingestEdge
    have same : canonicalEdge table e =
        { e with
          sourceUUID := trimSpace e.sourceUUID
          targetUUID := trimSpace e.targetUUID
          relationshipType := table.upper (trimSpace e.relationshipType) } := rfl
    rw [← same]
    generalize canonicalEdge table e = f
    dsimp only
    by_cases refused : f.sourceUUID = "" ∨ f.targetUUID = "" ∨ f.relationshipType = "" ∨
        f.observed = false
    · rw [if_pos refused, if_neg]
      simp only [Bool.and_eq_true, bne_iff_ne, not_and, Bool.not_eq_true]
      intro source
      tauto
    · rw [if_neg refused, if_pos, List.foldl_cons]
      simp only [not_or, Bool.not_eq_false] at refused
      simp [refused]

theorem canonicalEdge_normal {e : Edge}
    (named : (canonicalEdge table e).sourceUUID ≠ "" ∧ (canonicalEdge table e).targetUUID ≠ "" ∧
      (canonicalEdge table e).relationshipType ≠ "") :
    EdgeNormal table (canonicalEdge table e) := by
  refine ⟨trimSpace_trimSpace _, trimSpace_trimSpace _, ?_, named⟩
  show table.upper (trimSpace (table.upper (trimSpace e.relationshipType))) = _
  rw [table.trimSpace_upper, trimSpace_trimSpace, table.upper_upper]
  rfl

theorem mem_admittedEdges {s : Snapshot} {e : Edge} (member : e ∈ s.admittedEdges table) :
    EdgeNormal table e ∧ e.observed = true := by
  obtain ⟨inside, checks⟩ := List.mem_filter.mp member
  obtain ⟨f, -, rfl⟩ := List.mem_map.mp inside
  simp only [Bool.and_eq_true, bne_iff_ne] at checks
  exact ⟨canonicalEdge_normal ⟨checks.1.1.1, checks.1.1.2, checks.1.2⟩, checks.2⟩

theorem foldl_joinEdgeLocked (l : List Edge) (edges : EdgeMap)
    (normal : ∀ e ∈ l, EdgeNormal table e ∧ e.observed = true) (filed : EdgesFiled table edges) :
    EdgesFiled table (l.foldl (fun m e => (joinEdgeLocked m e).1) edges) ∧
      edgeMarks (l.foldl (fun m e => (joinEdgeLocked m e).1) edges) =
        edgeMarks edges ⊔ l.foldl (fun acc e => acc ⊔ e.carried) ⊥ := by
  induction l generalizing edges with
  | nil => exact ⟨filed, (sup_bot_eq _).symm⟩
  | cons e rest ih =>
    obtain ⟨head, observed⟩ := normal e List.mem_cons_self
    obtain ⟨tail, joined⟩ := ih (joinEdgeLocked edges e).1
      (fun f member => normal f (List.mem_cons_of_mem e member))
      (joinEdgeLocked_filed filed head observed)
    refine ⟨tail, ?_⟩
    rw [List.foldl_cons, joined, edgeMarks_joinEdgeLocked, List.foldl_cons,
      foldl_sup_from Edge.carried rest (⊥ ⊔ e.carried), bot_sup_eq, sup_assoc]

theorem mergeSnapshot_filed {c : GraphCRDT} (filed : EdgesFiled table c.edges) (s : Snapshot) :
    EdgesFiled table (c.mergeSnapshot table s).edges ∧
      edgeMarks (c.mergeSnapshot table s).edges =
        edgeMarks c.edges ⊔ (s.admittedEdges table).foldl (fun acc e => acc ⊔ e.carried) ⊥ := by
  have loop := foldl_ingestEdge_admitted table s.edges
    (c.edges, (s.vertices.foldl ingestVertex (c.vertices, {})).2)
  have joined := foldl_joinEdgeLocked (s.admittedEdges table) c.edges
    (fun e member => mem_admittedEdges member) filed
  have same : (c.mergeSnapshot table s).edges =
      (s.admittedEdges table).foldl (fun m e => (joinEdgeLocked m e).1) c.edges := loop
  rw [same]
  exact joined

/-! ## The snapshot of a replica -/

theorem canonicalEdge_of_normal {e : Edge} (normal : EdgeNormal table e) :
    canonicalEdge table e = e := by
  unfold canonicalEdge
  rw [normal.source, normal.target, normal.relationship]

/-- A replica's own snapshot is let in as it stands. -/
theorem admittedEdges_snapshot {d : GraphCRDT} (filed : EdgesFiled table d.edges) :
    d.snapshot.admittedEdges table = d.snapshot.edges := by
  have stored : ∀ e ∈ d.snapshot.edges, EdgeNormal table e ∧ e.observed = true := by
    intro e member
    obtain ⟨k, held⟩ := mem_entries d.edges e (List.mem_mergeSort.mp member)
    exact (filed k e held).2
  have standing : d.snapshot.edges.map (canonicalEdge table) = d.snapshot.edges :=
    (List.map_congr_left fun e member => canonicalEdge_of_normal (stored e member).1).trans
      (List.map_id _)
  unfold Snapshot.admittedEdges
  rw [standing, List.filter_eq_self]
  intro e member
  obtain ⟨normal, observed⟩ := stored e member
  simp [normal.named, observed]

theorem snapshot_edges_carried {d : GraphCRDT} (filed : EdgesFiled table d.edges) :
    d.snapshot.edges.foldl (fun acc e => acc ⊔ e.carried) ⊥ = edgeMarks d.edges := by
  apply eq_of_forall_ge_iff
  intro b
  rw [foldl_sup_le_iff]
  constructor
  · rintro ⟨-, each⟩ k
    cases found : d.edges[k]? with
    | none =>
      rw [edgeMarks_of_none found]
      exact bot_le
    | some e =>
      have member : e ∈ d.snapshot.edges := List.mem_mergeSort.mpr
        (List.mem_map.mpr ⟨(k, e), Std.ExtTreeMap.mem_toList_iff_getElem?_eq_some.mpr found, rfl⟩)
      have below := each e member k
      rw [Edge.carried, (filed k e found).1, Function.update_self] at below
      rw [edgeMarks_of_some found]
      exact below
  · intro below
    refine ⟨bot_le, fun e member => ?_⟩
    obtain ⟨k, held⟩ := mem_entries d.edges e (List.mem_mergeSort.mp member)
    have at_k := below k
    rw [edgeMarks_of_some held] at at_k
    rw [Edge.carried, (filed k e held).1]
    exact update_le_iff.mpr ⟨at_k, fun j _ => bot_le⟩

theorem snapshot_vertices_carried {d : GraphCRDT} {bound : Int}
    (ok : VerticesWellFormed W bound d.vertices) :
    d.snapshot.vertices.foldl (fun acc v => acc ⊔ v.carried) ⊥ = vertexMarks d.vertices := by
  apply eq_of_forall_ge_iff
  intro b
  rw [foldl_sup_le_iff]
  constructor
  · rintro ⟨-, each⟩ u
    cases found : d.vertices[u]? with
    | none =>
      rw [vertexMarks_of_none found]
      exact bot_le
    | some v =>
      have member : v ∈ d.snapshot.vertices := List.mem_mergeSort.mpr
        (List.mem_map.mpr ⟨(u, v), Std.ExtTreeMap.mem_toList_iff_getElem?_eq_some.mpr found, rfl⟩)
      have below := each v member u
      rw [Vertex.carried, (ok u v found).1, Function.update_self] at below
      rw [vertexMarks_of_some found]
      exact below
  · intro below
    refine ⟨bot_le, fun v member => ?_⟩
    obtain ⟨u, held⟩ := mem_entries d.vertices v (List.mem_mergeSort.mp member)
    have at_u := below u
    rw [vertexMarks_of_some held] at at_u
    rw [Vertex.carried, (ok u v held).1]
    exact update_le_iff.mpr ⟨at_u, fun j _ => bot_le⟩

/-! ## Lines under a merge -/

/-- What a line says, in the marks of its element. -/
def markOf (b : Bool) (m : Marks) : String → WithBot Int := if b then m.1 else m.2

theorem markOf_sup (b : Bool) (m m' : Marks) : markOf b (m ⊔ m') = markOf b m ⊔ markOf b m' := by
  cases b <;> rfl

theorem valueAt_empty (r : String) : valueAt (∅ : Timeline) r = ⊥ :=
  (valueAt_eq_bot_iff _ r).mpr Std.ExtTreeMap.getElem?_empty

theorem valueAt_line_vertex (c : GraphCRDT) (u : String) (b : Bool) :
    valueAt (c.line (.vertex u) b) = markOf b (vertexMarks c.vertices u) := by
  funext r
  cases b <;> cases found : c.vertices[u]? <;>
    simp [markOf, vertexMarks, GraphCRDT.line, found, valueAt_empty, Vertex.marks, marks]

theorem valueAt_line_edge (c : GraphCRDT) (k : String) (b : Bool) :
    valueAt (c.line (.edge k) b) = markOf b (edgeMarks c.edges k) := by
  funext r
  cases b <;> cases found : c.edges[k]? <;>
    simp [markOf, edgeMarks, GraphCRDT.line, found, valueAt_empty, Edge.marks, marks]

end OpenOntology.Crdt
