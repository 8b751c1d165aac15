import OpenOntology.Library.Run
import OpenOntology.Crdt.Join

/-!
# A fleet of replicas

Replicas with distinct client ids mutate locally, take snapshots and merge each
other's state, in any interleaving. The invariant ties every payload in the fleet
to the write that was issued with it; it is kept by every step, and under it a
merge is the join of what the two sides say.
-/
namespace OpenOntology.Crdt
open Library

variable {table : CaseTable} {W W' : Writes}

/-- Later histories only add writes. -/
def Extends (W W' : Writes) : Prop :=
  ∀ (u : String) (w : WriteStamp) (p : Properties), W u w = some p → W' u w = some p

theorem Extends.refl (W : Writes) : Extends W W := fun _ _ _ issued => issued

theorem Extends.trans {W'' : Writes} (first : Extends W W') (second : Extends W' W'') :
    Extends W W'' := fun u w p issued => second u w p (first u w p issued)

theorem Written.extend {u : String} {w : WriteStamp} {p : Properties} (written : Written W u w p)
    (grown : Extends W W') : Written W' u w p := by
  unfold Written at written ⊢
  split at written
  next zero => rwa [if_pos zero]
  next issued =>
    rw [if_neg issued]
    exact grown u w p written

theorem VertexSound.extend {bound : Int} {v : Vertex} (ok : VertexSound W bound v)
    (grown : Extends W W') : VertexSound W' bound v :=
  { ok with payload := ok.payload.extend grown }

theorem VerticesWellFormed.extend {bound : Int} {vertices : VertexMap}
    (ok : VerticesWellFormed W bound vertices) (grown : Extends W W') :
    VerticesWellFormed W' bound vertices := by
  intro u v held
  obtain ⟨filed, standing⟩ := ok u v held
  exact ⟨filed, standing.toVertexSound.extend grown, standing.observed⟩

structure GraphWellFormed (table : CaseTable) (W : Writes) (c : GraphCRDT) : Prop where
  clock : 0 ≤ c.lamportClock
  vertices : VerticesWellFormed W c.lamportClock c.vertices
  edges : EdgesWellFormed table c.lamportClock c.edges

structure SnapshotWellFormed (table : CaseTable) (W : Writes) (s : Snapshot) : Prop where
  clock : 0 ≤ s.lamportClock
  vertices : ∀ v ∈ s.vertices, VertexWellFormed W s.lamportClock v
  edges : ∀ e ∈ s.edges, EdgeWellFormed table s.lamportClock e

theorem GraphWellFormed.extend {c : GraphCRDT} (ok : GraphWellFormed table W c)
    (grown : Extends W W') : GraphWellFormed table W' c :=
  { ok with vertices := ok.vertices.extend grown }

theorem SnapshotWellFormed.extend {s : Snapshot} (ok : SnapshotWellFormed table W s)
    (grown : Extends W W') : SnapshotWellFormed table W' s :=
  { ok with vertices := fun v member =>
      ⟨(ok.vertices v member).toVertexSound.extend grown, (ok.vertices v member).observed⟩ }

theorem newGraphCRDT_wellFormed (generated clientID : String) :
    GraphWellFormed table W (newGraphCRDT generated clientID 0) where
  clock := le_rfl
  vertices u v held := by
    rw [show (newGraphCRDT generated clientID 0).vertices = ∅ from rfl,
      Std.ExtTreeMap.getElem?_empty] at held
    cases held
  edges k e held := by
    rw [show (newGraphCRDT generated clientID 0).edges = ∅ from rfl,
      Std.ExtTreeMap.getElem?_empty] at held
    cases held

/-! ## Local operations -/

theorem dominantWrite_insert_fresh (t : Timeline) (c : String) (stamp : Int) (positive : 0 < stamp)
    (older : ∀ (c' : String) (s : Int), t[c']? = some s → s < stamp) :
    dominantWrite (t.insert c stamp) = ⟨stamp, c⟩ := by
  apply WriteStamp.key_injective
  have below : ∀ (s : Int) (c' : String), s < stamp →
      (⟨s, c'⟩ : WriteStamp).key ≤ (⟨stamp, c⟩ : WriteStamp).key := by
    intro s c' less
    unfold WriteStamp.key
    rw [Prod.Lex.toLex_le_toLex]
    exact Or.inl less
  apply le_antisymm
  · rw [dominantWrite_le_iff]
    refine ⟨below 0 "" positive, ?_⟩
    intro c' s held
    rw [Std.ExtTreeMap.getElem?_insert] at held
    split at held
    next same =>
      cases held
      rw [Std.LawfulEqCmp.compare_eq_iff_eq.mp same]
    next => exact below s c' (older c' s held)
  · exact le_dominantWrite _ c stamp Std.ExtTreeMap.getElem?_insert_self

theorem Vertex.observed_of_added {v : Vertex} {c : String} {s : Int}
    (held : v.addTimeline[c]? = some s) : v.observed = true := by
  rw [Vertex.observed_iff]
  intro blank
  have at_c := congrFun (congrArg Prod.fst blank) c
  rw [show v.marks.1 c = valueAt v.addTimeline c from rfl,
    (valueAt_eq_coe_iff _ c s).mpr held] at at_c
  exact WithBot.coe_ne_bot at_c

theorem Vertex.observed_of_removed {v : Vertex} {c : String} {s : Int}
    (held : v.removeTimeline[c]? = some s) : v.observed = true := by
  rw [Vertex.observed_iff]
  intro blank
  have at_c := congrFun (congrArg Prod.snd blank) c
  rw [show v.marks.2 c = valueAt v.removeTimeline c from rfl,
    (valueAt_eq_coe_iff _ c s).mpr held] at at_c
  exact WithBot.coe_ne_bot at_c

/-- The entry a mutation of vertex `id` starts from, be it stored or new. -/
theorem vertex_entry_sound {bound : Int} {vertices : VertexMap}
    (ok : VerticesWellFormed W bound vertices) (id : String) (named : trimSpace id ≠ "") :
    (vertices.getD (trimSpace id) { uuid := trimSpace id }).uuid = trimSpace id ∧
      VertexSound W bound (vertices.getD (trimSpace id) { uuid := trimSpace id }) := by
  rw [Std.ExtTreeMap.getD_eq_getD_getElem?]
  cases found : vertices[trimSpace id]? with
  | some v =>
    obtain ⟨filed, standing⟩ := ok _ v found
    exact ⟨filed, standing.toVertexSound⟩
  | none =>
    refine ⟨rfl, trimSpace_trimSpace id, named, stampsWithin_empty bound, stampsWithin_empty bound,
      ?_⟩
    have zero : dominantWrite (∅ : Timeline) = WriteStamp.zero := by
      rcases dominantWrite_held (∅ : Timeline) with start | held
      · exact start
      · rw [Std.ExtTreeMap.getElem?_empty] at held
        cases held
    show Written W _ (dominantWrite ∅) ∅
    rw [zero]
    simp [Written]

/-- Adding a vertex keeps the replica well formed under any later history that
records the new write. -/
theorem addVertex_wellFormed {c : GraphCRDT} (ok : GraphWellFormed table W c)
    (room : c.lamportClock < maxInt64) (id : String) (props : Properties) (grown : Extends W W')
    (issued : W' (trimSpace id) ⟨c.lamportClock + 1, c.clientID⟩ = some props) :
    GraphWellFormed table W' (c.addVertex id props) := by
  unfold GraphCRDT.addVertex
  dsimp only
  have nonneg := ok.clock
  split
  next => exact ok.extend grown
  next named =>
    rw [increment_of_lt _ nonneg room]
    have later : c.lamportClock ≤ c.lamportClock + 1 := by omega
    have vertices := (ok.vertices.mono later).extend grown
    obtain ⟨filed, sound⟩ := vertex_entry_sound ok.vertices id named
    revert filed sound
    generalize c.vertices.getD (trimSpace id) { uuid := trimSpace id } = v
    intro filed sound
    have fresh := dominantWrite_insert_fresh v.addTimeline c.clientID (c.lamportClock + 1)
      (by omega) (fun c' s held => by
        have range := sound.added c' s held
        omega)
    refine ⟨by dsimp only; omega, ?_, ok.edges.mono later⟩
    dsimp only
    rw [← filed]
    refine vertices.insert { v with
        addTimeline := v.addTimeline.insert c.clientID (c.lamportClock + 1)
        properties := props } ⟨⟨sound.trimmed, sound.named, ?_, sound.removed.mono later, ?_⟩, ?_⟩
    · exact (sound.added.mono later).insert (by omega) le_rfl _
    · rw [filed]
      dsimp only
      rw [fresh]
      unfold Written
      rw [if_neg]
      · exact issued
      · intro zero
        have stamp := congrArg WriteStamp.timestamp zero
        simp only [WriteStamp.zero] at stamp
        omega
    · exact Vertex.observed_of_added Std.ExtTreeMap.getElem?_insert_self

theorem cascade_key (clientID removed : String) (stamp : Int) (e : Edge) :
    (GraphCRDT.cascade clientID removed stamp e).key = e.key := by
  unfold GraphCRDT.cascade
  split
  · rfl
  · split <;> rfl

theorem Edge.observed_of_added {e : Edge} {c : String} {s : Int}
    (held : e.addTimeline[c]? = some s) : e.observed = true :=
  Vertex.observed_of_added (v := ⟨"", ∅, e.addTimeline, e.removeTimeline⟩) held

theorem Edge.observed_of_removed {e : Edge} {c : String} {s : Int}
    (held : e.removeTimeline[c]? = some s) : e.observed = true :=
  Vertex.observed_of_removed (v := ⟨"", ∅, e.addTimeline, e.removeTimeline⟩) held

theorem cascade_wellFormed {bound stamp : Int} {e : Edge} (ok : EdgeWellFormed table bound e)
    (positive : 0 < stamp) (le : stamp ≤ bound) (clientID removed : String) :
    EdgeWellFormed table bound (GraphCRDT.cascade clientID removed stamp e) := by
  unfold GraphCRDT.cascade
  split
  · exact ok
  · split
    · exact ok
    · exact ⟨{ ok.toEdgeSound with removed := ok.removed.insert positive le clientID },
        Edge.observed_of_removed Std.ExtTreeMap.getElem?_insert_self⟩

theorem removeVertex_wellFormed {c : GraphCRDT} (ok : GraphWellFormed table W c)
    (room : c.lamportClock < maxInt64) (id : String) :
    GraphWellFormed table W (c.removeVertex id) := by
  unfold GraphCRDT.removeVertex
  dsimp only
  have nonneg := ok.clock
  split
  next => exact ok
  next named =>
    rw [increment_of_lt _ nonneg room]
    have later : c.lamportClock ≤ c.lamportClock + 1 := by omega
    obtain ⟨filed, sound⟩ := vertex_entry_sound ok.vertices id named
    revert filed sound
    generalize c.vertices.getD (trimSpace id) { uuid := trimSpace id } = v
    intro filed sound
    refine ⟨by dsimp only; omega, ?_, ?_⟩
    · dsimp only
      rw [← filed]
      exact (ok.vertices.mono later).insert { v with
          removeTimeline := v.removeTimeline.insert c.clientID (c.lamportClock + 1) }
        ⟨{ sound.mono later with
            removed := (sound.removed.mono later).insert (by omega) le_rfl _ },
          Vertex.observed_of_removed Std.ExtTreeMap.getElem?_insert_self⟩
    · intro k e held
      dsimp only at held
      rw [Std.ExtTreeMap.getElem?_map, Option.map_eq_some_iff] at held
      obtain ⟨old, found, rfl⟩ := held
      obtain ⟨key, standing⟩ := ok.edges k old found
      exact ⟨(cascade_key _ _ _ old).trans key,
        cascade_wellFormed (standing.mono later) (by omega) le_rfl _ _⟩

/-- What `normalizeEdge` lets through: trimmed, upper-cased, nonempty components. -/
theorem normalizeEdge_some {source target relationship src dst rel : String}
    (normal : GraphCRDT.normalizeEdge table source target relationship = some (src, dst, rel)) :
    src = trimSpace source ∧ dst = trimSpace target ∧ rel = table.upper (trimSpace relationship) ∧
      src ≠ "" ∧ dst ≠ "" ∧ rel ≠ "" := by
  unfold GraphCRDT.normalizeEdge at normal
  dsimp only at normal
  split at normal
  next => cases normal
  next source_named =>
    split at normal
    next => cases normal
    next target_named =>
      split at normal
      next => cases normal
      next relationship_named =>
        cases normal
        exact ⟨rfl, rfl, rfl, source_named, target_named, relationship_named⟩

theorem edge_entry_sound {bound : Int} {edges : EdgeMap} (ok : EdgesWellFormed table bound edges)
    {source target relationship src dst rel : String}
    (freeSource : separatorFree source = true) (freeRelationship : separatorFree relationship = true)
    (normal : GraphCRDT.normalizeEdge table source target relationship = some (src, dst, rel)) :
    (edges.getD (edgeKey src rel dst)
        { sourceUUID := src, targetUUID := dst, relationshipType := rel }).key =
        edgeKey src rel dst ∧
      EdgeSound table bound (edges.getD (edgeKey src rel dst)
        { sourceUUID := src, targetUUID := dst, relationshipType := rel }) := by
  rw [Std.ExtTreeMap.getD_eq_getD_getElem?]
  cases found : edges[edgeKey src rel dst]? with
  | some e =>
    obtain ⟨filed, standing⟩ := ok _ e found
    exact ⟨filed, standing.toEdgeSound⟩
  | none =>
    obtain ⟨rfl, rfl, rfl, named⟩ := normalizeEdge_some normal
    refine ⟨rfl, trimSpace_trimSpace _, trimSpace_trimSpace _, ?_, named,
      separatorFree_trimSpace _ freeSource,
      table.separatorFree_upper _ (separatorFree_trimSpace _ freeRelationship),
      stampsWithin_empty bound, stampsWithin_empty bound⟩
    show table.upper (trimSpace (table.upper (trimSpace relationship))) = _
    rw [table.trimSpace_upper, trimSpace_trimSpace, table.upper_upper]
    rfl

theorem addEdge_wellFormed {c : GraphCRDT} (ok : GraphWellFormed table W c)
    (room : c.lamportClock < maxInt64) (source target relationship : String)
    (freeSource : separatorFree source = true)
    (freeRelationship : separatorFree relationship = true) :
    GraphWellFormed table W (c.addEdge table source target relationship) := by
  unfold GraphCRDT.addEdge
  have nonneg := ok.clock
  split
  next => exact ok
  next src dst rel normal =>
    dsimp only
    rw [increment_of_lt _ nonneg room]
    have later : c.lamportClock ≤ c.lamportClock + 1 := by omega
    obtain ⟨filed, sound⟩ := edge_entry_sound ok.edges freeSource freeRelationship normal
    revert filed sound
    generalize c.edges.getD (edgeKey src rel dst) _ = e
    intro filed sound
    refine ⟨by dsimp only; omega, ok.vertices.mono later, ?_⟩
    dsimp only
    rw [← filed]
    exact (ok.edges.mono later).insert { e with
        addTimeline := e.addTimeline.insert c.clientID (c.lamportClock + 1) }
      ⟨{ sound.mono later with added := (sound.added.mono later).insert (by omega) le_rfl _ },
        Edge.observed_of_added Std.ExtTreeMap.getElem?_insert_self⟩

theorem removeEdge_wellFormed {c : GraphCRDT} (ok : GraphWellFormed table W c)
    (room : c.lamportClock < maxInt64) (source target relationship : String)
    (freeSource : separatorFree source = true)
    (freeRelationship : separatorFree relationship = true) :
    GraphWellFormed table W (c.removeEdge table source target relationship) := by
  unfold GraphCRDT.removeEdge
  have nonneg := ok.clock
  split
  next => exact ok
  next src dst rel normal =>
    dsimp only
    rw [increment_of_lt _ nonneg room]
    have later : c.lamportClock ≤ c.lamportClock + 1 := by omega
    obtain ⟨filed, sound⟩ := edge_entry_sound ok.edges freeSource freeRelationship normal
    revert filed sound
    generalize c.edges.getD (edgeKey src rel dst) _ = e
    intro filed sound
    refine ⟨by dsimp only; omega, ok.vertices.mono later, ?_⟩
    dsimp only
    rw [← filed]
    exact (ok.edges.mono later).insert { e with
        removeTimeline := e.removeTimeline.insert c.clientID (c.lamportClock + 1) }
      ⟨{ sound.mono later with removed := (sound.removed.mono later).insert (by omega) le_rfl _ },
        Edge.observed_of_removed Std.ExtTreeMap.getElem?_insert_self⟩

theorem mem_entries {α : Type} (m : Std.ExtTreeMap String α) (a : α)
    (member : a ∈ m.toList.map Prod.snd) : ∃ k : String, m[k]? = some a := by
  obtain ⟨e, stored, rfl⟩ := List.mem_map.mp member
  exact ⟨e.1, Std.ExtTreeMap.mem_toList_iff_getElem?_eq_some.mp stored⟩

theorem snapshot_wellFormed {c : GraphCRDT} (ok : GraphWellFormed table W c) :
    SnapshotWellFormed table W c.snapshot where
  clock := ok.clock
  vertices v member := by
    obtain ⟨u, stored⟩ := mem_entries c.vertices v (List.mem_mergeSort.mp member)
    exact (ok.vertices u v stored).2
  edges e member := by
    obtain ⟨k, stored⟩ := mem_entries c.edges e (List.mem_mergeSort.mp member)
    exact (ok.edges k e stored).2

/-! ## The join of a snapshot -/

theorem maxStamp_le {stamps : List Int} {bound : Int} (nonneg : 0 ≤ bound)
    (each : ∀ s ∈ stamps, s ≤ bound) : maxStamp stamps ≤ bound := by
  have as_join : maxStamp stamps = stamps.foldl (fun acc s => acc ⊔ s) 0 := by
    unfold maxStamp
    congr 1
    funext highest stamp
    split
    next greater => exact (sup_eq_right.mpr greater.le).symm
    next lesser => exact (sup_eq_left.mpr (not_lt.mp lesser)).symm
  rw [as_join]
  exact (foldl_sup_le_iff (fun s => s) stamps 0 bound).mpr ⟨nonneg, each⟩

theorem ingestVertex_of_wellFormed {bound : Int} (acc : VertexMap × MergeReport) (v : Vertex)
    (ok : VertexWellFormed W bound v) :
    ingestVertex acc v = ((joinVertexLocked acc.1 v).1,
      { acc.2 with
        inspected := acc.2.inspected + 1
        highestStamp := maxStamp [acc.2.highestStamp, highestStamp v.addTimeline,
          highestStamp v.removeTimeline]
        verticesJoined := acc.2.verticesJoined + (joinVertexLocked acc.1 v).2.1.toNat
        conflicts := acc.2.conflicts + (joinVertexLocked acc.1 v).2.2.toNat }) := by
  have admitted : ¬(v.uuid = "" ∨ v.observed = false) := by
    rintro (unnamed | unobserved)
    · exact ok.named unnamed
    · rw [ok.observed] at unobserved
      cases unobserved
  simp only [ingestVertex, ok.trimmed]
  exact if_neg admitted

theorem ingestEdge_of_wellFormed {bound : Int} (acc : EdgeMap × MergeReport) (e : Edge)
    (ok : EdgeWellFormed table bound e) :
    ingestEdge table acc e = ((joinEdgeLocked acc.1 e).1,
      { acc.2 with
        inspected := acc.2.inspected + 1
        highestStamp := maxStamp [acc.2.highestStamp, highestStamp e.addTimeline,
          highestStamp e.removeTimeline]
        edgesJoined := acc.2.edgesJoined + (joinEdgeLocked acc.1 e).2.1.toNat
        conflicts := acc.2.conflicts + (joinEdgeLocked acc.1 e).2.2.toNat }) := by
  have admitted : ¬(e.sourceUUID = "" ∨ e.targetUUID = "" ∨ e.relationshipType = "" ∨
      e.observed = false) := by
    rintro (source | target | relationship | unobserved)
    · exact ok.named.1 source
    · exact ok.named.2.1 target
    · exact ok.named.2.2 relationship
    · rw [ok.observed] at unobserved
      cases unobserved
  simp only [ingestEdge, ok.source, ok.target, ok.relationship]
  exact if_neg admitted

/-- The vertex loop delivers the vertices one by one. -/
theorem foldl_ingestVertex {bound : Int} (nonneg : 0 ≤ bound) (l : List Vertex)
    (acc : VertexMap × MergeReport) (ok : ∀ v ∈ l, VertexWellFormed W bound v)
    (start : acc.2.highestStamp ≤ bound) :
    (l.foldl ingestVertex acc).1 = (vertexJoin W bound).deliver acc.1 l ∧
      (l.foldl ingestVertex acc).2.highestStamp ≤ bound := by
  induction l generalizing acc with
  | nil => exact ⟨rfl, start⟩
  | cons v rest ih =>
    have head := ok v List.mem_cons_self
    have turn := ingestVertex_of_wellFormed acc v head
    have bounded : (ingestVertex acc v).2.highestStamp ≤ bound := by
      rw [turn]
      refine maxStamp_le nonneg ?_
      simp only [List.mem_cons, List.not_mem_nil, or_false, forall_eq_or_imp, forall_eq]
      exact ⟨start, head.added.highestStamp_le nonneg, head.removed.highestStamp_le nonneg⟩
    have tail := ih (ingestVertex acc v) (fun w member => ok w (List.mem_cons_of_mem v member))
      bounded
    rw [List.foldl_cons]
    refine ⟨?_, tail.2⟩
    rw [tail.1, turn]
    rfl

theorem foldl_ingestEdge {bound : Int} (nonneg : 0 ≤ bound) (l : List Edge)
    (acc : EdgeMap × MergeReport) (ok : ∀ e ∈ l, EdgeWellFormed table bound e)
    (start : acc.2.highestStamp ≤ bound) :
    (l.foldl (ingestEdge table) acc).1 = (edgeJoin table bound).deliver acc.1 l ∧
      (l.foldl (ingestEdge table) acc).2.highestStamp ≤ bound := by
  induction l generalizing acc with
  | nil => exact ⟨rfl, start⟩
  | cons e rest ih =>
    have head := ok e List.mem_cons_self
    have turn := ingestEdge_of_wellFormed acc e head
    have bounded : (ingestEdge table acc e).2.highestStamp ≤ bound := by
      rw [turn]
      refine maxStamp_le nonneg ?_
      simp only [List.mem_cons, List.not_mem_nil, or_false, forall_eq_or_imp, forall_eq]
      exact ⟨start, head.added.highestStamp_le nonneg, head.removed.highestStamp_le nonneg⟩
    have tail := ih (ingestEdge table acc e)
      (fun f member => ok f (List.mem_cons_of_mem e member)) bounded
    rw [List.foldl_cons]
    refine ⟨?_, tail.2⟩
    rw [tail.1, turn]
    rfl

/-- Vertices the map already dominates pass through the loop without a trace. -/
theorem foldl_ingestVertex_settled {bound bound' : Int} (l : List Vertex)
    (acc : VertexMap × MergeReport) (standing : VerticesWellFormed W bound acc.1)
    (ok : ∀ v ∈ l, VertexWellFormed W bound' v)
    (below : ∀ v ∈ l, v.carried ≤ vertexMarks acc.1) :
    (l.foldl ingestVertex acc).1 = acc.1 ∧
      (l.foldl ingestVertex acc).2.verticesJoined = acc.2.verticesJoined ∧
      (l.foldl ingestVertex acc).2.edgesJoined = acc.2.edgesJoined := by
  induction l generalizing acc with
  | nil => exact ⟨rfl, rfl, rfl⟩
  | cons v rest ih =>
    have head := ok v List.mem_cons_self
    obtain ⟨same, unchanged⟩ := joinVertexLocked_settled acc.1 v
      (standing.mono (le_max_left bound bound')) (head.mono (le_max_right bound bound'))
      (below v List.mem_cons_self)
    have turn := ingestVertex_of_wellFormed acc v head
    rw [same, unchanged] at turn
    have tail := ih (ingestVertex acc v) (by rw [turn]; exact standing)
      (fun w member => ok w (List.mem_cons_of_mem v member))
      (fun w member => by rw [turn]; exact below w (List.mem_cons_of_mem v member))
    rw [List.foldl_cons]
    rw [turn] at tail ⊢
    exact tail

theorem foldl_ingestEdge_settled {bound : Int} (l : List Edge)
    (acc : EdgeMap × MergeReport) (ok : ∀ e ∈ l, EdgeWellFormed table bound e)
    (below : ∀ e ∈ l, e.carried ≤ edgeMarks acc.1) :
    (l.foldl (ingestEdge table) acc).1 = acc.1 ∧
      (l.foldl (ingestEdge table) acc).2.verticesJoined = acc.2.verticesJoined ∧
      (l.foldl (ingestEdge table) acc).2.edgesJoined = acc.2.edgesJoined := by
  induction l generalizing acc with
  | nil => exact ⟨rfl, rfl, rfl⟩
  | cons e rest ih =>
    have head := ok e List.mem_cons_self
    obtain ⟨same, unchanged⟩ := joinEdgeLocked_settled acc.1 e head (below e List.mem_cons_self)
    have turn := ingestEdge_of_wellFormed acc e head
    rw [same, unchanged] at turn
    have tail := ih (ingestEdge table acc e)
      (fun f member => ok f (List.mem_cons_of_mem e member))
      (fun f member => by rw [turn]; exact below f (List.mem_cons_of_mem e member))
    rw [List.foldl_cons]
    rw [turn] at tail ⊢
    exact tail

end OpenOntology.Crdt
