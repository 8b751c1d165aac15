import OpenOntology.Crdt.Graph

/-!
# The join of one element

What the two timelines of an element say is a point of a semilattice; merging a
remote element into the local map is the join of these points. The payload follows
the dominant write, and an honest history wrote one payload under each stamp: the
history is the parameter `W` below, and it is what decides every payload.
-/
namespace OpenOntology.Crdt
open Library

/-- The stamps of the two timelines, replica by replica. -/
abbrev Marks := (String → WithBot Int) × (String → WithBot Int)

def marks (add remove : Timeline) : Marks := (valueAt add, valueAt remove)

theorem marks_inj (add remove add' remove' : Timeline)
    (same : marks add remove = marks add' remove') : add = add' ∧ remove = remove' := by
  simp only [marks, Prod.mk.injEq] at same
  exact ⟨ext_valueAt _ _ (congrFun same.1), ext_valueAt _ _ (congrFun same.2)⟩

theorem valueAt_eq_bot_of_empty (t : Timeline) : (∀ c, valueAt t c = ⊥) ↔ t.size = 0 := by
  constructor
  · intro blank
    have empty : t = ∅ := by
      apply ext_valueAt
      intro c
      rw [blank c, eq_comm, valueAt_eq_bot_iff]
      exact Std.ExtTreeMap.getElem?_empty
    rw [empty]
    exact Std.ExtTreeMap.size_empty
  · intro empty c
    rw [Std.ExtTreeMap.eq_empty_iff_size_eq_zero.mpr empty, valueAt_eq_bot_iff]
    exact Std.ExtTreeMap.getElem?_empty

/-- An element no replica has touched is the bottom. -/
theorem marks_eq_bot_iff (add remove : Timeline) :
    marks add remove = ⊥ ↔ add.size = 0 ∧ remove.size = 0 := by
  rw [← valueAt_eq_bot_of_empty, ← valueAt_eq_bot_of_empty]
  simp only [marks, Prod.ext_iff, funext_iff, Prod.fst_bot, Prod.snd_bot, Pi.bot_apply]

theorem marks_mergeTimelineInto (add remove add' remove' : Timeline) :
    marks (mergeTimelineInto add add').1 (mergeTimelineInto remove remove').1 =
      marks add remove ⊔ marks add' remove' := by
  apply Prod.ext
  · funext c
    exact valueAt_mergeTimelineInto add add' c
  · funext c
    exact valueAt_mergeTimelineInto remove remove' c

theorem mergeTimelines_of_le (add remove add' remove' : Timeline)
    (below : marks add' remove' ≤ marks add remove) :
    mergeTimelineInto add add' = (add, false) ∧
      mergeTimelineInto remove remove' = (remove, false) :=
  ⟨mergeTimelineInto_of_le add add' below.1, mergeTimelineInto_of_le remove remove' below.2⟩

/-- Every stamp of the timeline is positive and within the bound. -/
def StampsWithin (bound : Int) (t : Timeline) : Prop :=
  ∀ (c : String) (s : Int), t[c]? = some s → 0 < s ∧ s ≤ bound

theorem StampsWithin.mono {bound larger : Int} {t : Timeline} (within : StampsWithin bound t)
    (le : bound ≤ larger) : StampsWithin larger t := by
  intro c s held
  have range := within c s held
  exact ⟨range.1, range.2.trans le⟩

theorem stampsWithin_empty (bound : Int) : StampsWithin bound ∅ := by
  intro c s held
  rw [Std.ExtTreeMap.getElem?_empty] at held
  cases held

theorem StampsWithin.insert {bound stamp : Int} {t : Timeline} (within : StampsWithin bound t)
    (positive : 0 < stamp) (le : stamp ≤ bound) (c : String) :
    StampsWithin bound (t.insert c stamp) := by
  intro c' s held
  rw [Std.ExtTreeMap.getElem?_insert] at held
  split at held
  · cases held
    exact ⟨positive, le⟩
  · exact within c' s held

theorem StampsWithin.merge {bound : Int} {dst src : Timeline} (left : StampsWithin bound dst)
    (right : StampsWithin bound src) : StampsWithin bound (mergeTimelineInto dst src).1 := by
  intro c s held
  rcases mergeTimelineInto_getElem? dst src c s held with from_dst | from_src
  · exact left c s from_dst
  · exact right c s from_src

theorem StampsWithin.highestStamp_le {bound : Int} {t : Timeline} (within : StampsWithin bound t)
    (nonneg : 0 ≤ bound) : highestStamp t ≤ bound :=
  (highestStamp_le_iff t bound).mpr ⟨nonneg, fun c s held => (within c s held).2⟩

/-! ## Vertices -/

/-- The payload each write of a vertex carried: uuid, stamp, properties. -/
abbrev Writes := String → WriteStamp → Option Properties

/-- A vertex without an add carries no properties; every other payload is the one
its dominant write was issued with. -/
def Written (W : Writes) (uuid : String) (w : WriteStamp) (props : Properties) : Prop :=
  if w = WriteStamp.zero then props = ∅ else W uuid w = some props

theorem Written.unique {W : Writes} {uuid : String} {w : WriteStamp} {p q : Properties}
    (left : Written W uuid w p) (right : Written W uuid w q) : p = q := by
  unfold Written at left right
  split at left
  next zero =>
    rw [if_pos zero] at right
    exact left.trans right.symm
  next issued =>
    rw [if_neg issued] at right
    exact Option.some.inj (left.symm.trans right)

def Vertex.marks (v : Vertex) : Marks := Crdt.marks v.addTimeline v.removeTimeline

theorem Vertex.observed_iff (v : Vertex) : v.observed = true ↔ v.marks ≠ ⊥ := by
  unfold Vertex.observed Vertex.marks
  rw [Ne, marks_eq_bot_iff]
  simp only [Bool.or_eq_true, decide_eq_true_eq]
  omega

/-- An entry as a mutation finds it, before its own stamp makes it observed. -/
structure VertexSound (W : Writes) (bound : Int) (v : Vertex) : Prop where
  trimmed : trimSpace v.uuid = v.uuid
  named : v.uuid ≠ ""
  added : StampsWithin bound v.addTimeline
  removed : StampsWithin bound v.removeTimeline
  payload : Written W v.uuid (dominantWrite v.addTimeline) v.properties

structure VertexWellFormed (W : Writes) (bound : Int) (v : Vertex) : Prop
    extends VertexSound W bound v where
  observed : v.observed = true

theorem VertexSound.mono {W : Writes} {bound larger : Int} {v : Vertex}
    (ok : VertexSound W bound v) (le : bound ≤ larger) : VertexSound W larger v :=
  { ok with added := ok.added.mono le, removed := ok.removed.mono le }

theorem VertexWellFormed.mono {W : Writes} {bound larger : Int} {v : Vertex}
    (ok : VertexWellFormed W bound v) (le : bound ≤ larger) : VertexWellFormed W larger v :=
  ⟨ok.toVertexSound.mono le, ok.observed⟩

/-- A vertex map files well-formed vertices under their own ids. -/
def VerticesWellFormed (W : Writes) (bound : Int) (vertices : VertexMap) : Prop :=
  ∀ (u : String) (v : Vertex), vertices[u]? = some v → v.uuid = u ∧ VertexWellFormed W bound v

theorem VerticesWellFormed.mono {W : Writes} {bound larger : Int} {vertices : VertexMap}
    (ok : VerticesWellFormed W bound vertices) (le : bound ≤ larger) :
    VerticesWellFormed W larger vertices := by
  intro u v held
  exact ⟨(ok u v held).1, (ok u v held).2.mono le⟩

theorem VerticesWellFormed.insert {W : Writes} {bound : Int} {vertices : VertexMap}
    (ok : VerticesWellFormed W bound vertices) (v : Vertex) (new : VertexWellFormed W bound v) :
    VerticesWellFormed W bound (vertices.insert v.uuid v) := by
  intro u w held
  rw [Std.ExtTreeMap.getElem?_insert] at held
  split at held
  next same =>
    cases held
    exact ⟨Std.LawfulEqCmp.compare_eq_iff_eq.mp same, new⟩
  next => exact ok u w held

/-- What the map says about an id; nothing is the bottom. -/
def vertexMarks (vertices : VertexMap) (u : String) : Marks :=
  match vertices[u]? with
  | some v => v.marks
  | none => ⊥

theorem vertexMarks_of_some {vertices : VertexMap} {u : String} {v : Vertex}
    (held : vertices[u]? = some v) : vertexMarks vertices u = v.marks := by
  simp only [vertexMarks, held]

theorem vertexMarks_of_none {vertices : VertexMap} {u : String} (absent : vertices[u]? = none) :
    vertexMarks vertices u = ⊥ := by
  simp only [vertexMarks, absent]

theorem vertexMarks_insert (vertices : VertexMap) (k : String) (v : Vertex) :
    vertexMarks (vertices.insert k v) = Function.update (vertexMarks vertices) k v.marks := by
  funext u
  unfold vertexMarks
  rw [Std.ExtTreeMap.getElem?_insert]
  by_cases same : k = u
  · subst same
    simp
  · rw [if_neg (by simpa using same), Function.update_of_ne (Ne.symm same)]

/-- A single vertex as a point of the map lattice. -/
def Vertex.carried (v : Vertex) : String → Marks := Function.update ⊥ v.uuid v.marks

theorem update_sup_carried (f : String → Marks) (u : String) (m : Marks) :
    f ⊔ Function.update ⊥ u m = Function.update f u (f u ⊔ m) := by
  funext w
  by_cases same : w = u
  · subst same
    simp
  · simp [Function.update_of_ne same]

theorem dominantWrite_of_marks_le {v w : Vertex} (below : v.marks ≤ w.marks) :
    (dominantWrite v.addTimeline).key ≤ (dominantWrite w.addTimeline).key := by
  have merged := dominantWrite_mergeTimelineInto w.addTimeline v.addTimeline
  rw [(mergeTimelines_of_le _ _ _ _ below).1] at merged
  rw [merged]
  exact le_sup_right

/-- The payload of a join is the one its dominant write was issued with, and the
branch for two payloads under one stamp is not taken. -/
theorem joinPayload_written {W : Writes} (local_ remote : Vertex) (u : String)
    (here : Written W u (dominantWrite local_.addTimeline) local_.properties)
    (there : Written W u (dominantWrite remote.addTimeline) remote.properties) :
    Written W u (dominantWrite (mergeTimelineInto local_.addTimeline remote.addTimeline).1)
        (joinPayload local_ remote).1 ∧
      (joinPayload local_ remote).2.2 = false := by
  have dominant := dominantWrite_mergeTimelineInto local_.addTimeline remote.addTimeline
  unfold joinPayload
  dsimp only
  split
  next newer =>
    rw [WriteStamp.after_iff] at newer
    rw [sup_eq_right.mpr newer.le] at dominant
    rw [WriteStamp.key_injective dominant]
    split
    · exact ⟨there, rfl⟩
    · rename_i agree
      rw [not_not] at agree
      rw [agree]
      exact ⟨there, rfl⟩
  next not_newer =>
    rw [Bool.not_eq_true, WriteStamp.after_eq_false_iff] at not_newer
    rw [sup_eq_left.mpr not_newer] at dominant
    rw [WriteStamp.key_injective dominant]
    split
    · exact ⟨here, rfl⟩
    · rename_i not_older
      rw [Bool.not_eq_true, WriteStamp.after_eq_false_iff] at not_older
      have same := WriteStamp.key_injective (le_antisymm not_older not_newer)
      have agree : local_.properties = remote.properties := by
        rw [same] at here
        exact here.unique there
      rw [if_neg (not_not.mpr agree)]
      exact ⟨here, rfl⟩

theorem joinPayload_settled {W : Writes} (local_ remote : Vertex) (u : String)
    (here : Written W u (dominantWrite local_.addTimeline) local_.properties)
    (there : Written W u (dominantWrite remote.addTimeline) remote.properties)
    (below : (dominantWrite remote.addTimeline).key ≤ (dominantWrite local_.addTimeline).key) :
    joinPayload local_ remote = (local_.properties, false, false) := by
  unfold joinPayload
  dsimp only
  rw [if_neg (by rw [Bool.not_eq_true, WriteStamp.after_eq_false_iff]; exact below)]
  split
  · rfl
  · rename_i not_older
    rw [Bool.not_eq_true, WriteStamp.after_eq_false_iff] at not_older
    have same := WriteStamp.key_injective (le_antisymm not_older below)
    rw [same] at here
    rw [if_neg (not_not.mpr (here.unique there))]

/-- Merging a vertex keeps the map well formed and joins what the map says with
what the vertex says. -/
theorem joinVertexLocked_join {W : Writes} {bound : Int} (vertices : VertexMap) (remote : Vertex)
    (ok : VerticesWellFormed W bound vertices) (incoming : VertexWellFormed W bound remote) :
    VerticesWellFormed W bound (joinVertexLocked vertices remote).1 ∧
      vertexMarks (joinVertexLocked vertices remote).1 =
        vertexMarks vertices ⊔ remote.carried := by
  unfold joinVertexLocked
  rw [Vertex.carried, update_sup_carried]
  cases found : vertices[remote.uuid]? with
  | none =>
    refine ⟨ok.insert remote incoming, ?_⟩
    rw [vertexMarks_insert, vertexMarks_of_none found, bot_sup_eq]
  | some local_ =>
    obtain ⟨filed, standing⟩ := ok remote.uuid local_ found
    have here := standing.payload
    rw [filed] at here
    have payload := (joinPayload_written local_ remote remote.uuid here incoming.payload).1
    have joined := marks_mergeTimelineInto local_.addTimeline local_.removeTimeline
      remote.addTimeline remote.removeTimeline
    rw [vertexMarks_of_some found]
    refine ⟨?_, ?_⟩
    · dsimp only
      rw [← filed]
      refine ok.insert { local_ with
          addTimeline := (mergeTimelineInto local_.addTimeline remote.addTimeline).1
          removeTimeline := (mergeTimelineInto local_.removeTimeline remote.removeTimeline).1
          properties := (joinPayload local_ remote).1 } ?_
      refine ⟨⟨standing.trimmed, standing.named, standing.added.merge incoming.added,
        standing.removed.merge incoming.removed, ?_⟩, ?_⟩
      · rw [← filed] at payload
        exact payload
      · rw [Vertex.observed_iff]
        have touched := (Vertex.observed_iff local_).mp standing.observed
        intro blank
        have split_join : local_.marks ⊔ remote.marks = ⊥ := joined.symm.trans blank
        exact touched (sup_eq_bot_iff.mp split_join).1
    · dsimp only
      rw [vertexMarks_insert]
      exact congrArg _ joined

/-- A vertex the map already dominates is merged without a trace. -/
theorem joinVertexLocked_settled {W : Writes} {bound : Int} (vertices : VertexMap)
    (remote : Vertex) (ok : VerticesWellFormed W bound vertices)
    (incoming : VertexWellFormed W bound remote)
    (below : remote.carried ≤ vertexMarks vertices) :
    (joinVertexLocked vertices remote).1 = vertices ∧
      (joinVertexLocked vertices remote).2.1 = false := by
  have at_uuid := below remote.uuid
  rw [Vertex.carried, Function.update_self] at at_uuid
  cases found : vertices[remote.uuid]? with
  | none =>
    rw [vertexMarks_of_none found, le_bot_iff] at at_uuid
    exact absurd at_uuid ((Vertex.observed_iff remote).mp incoming.observed)
  | some local_ =>
    rw [vertexMarks_of_some found] at at_uuid
    obtain ⟨filed, standing⟩ := ok remote.uuid local_ found
    have here := standing.payload
    rw [filed] at here
    have payload := joinPayload_settled local_ remote remote.uuid here incoming.payload
      (dominantWrite_of_marks_le at_uuid)
    obtain ⟨add, remove⟩ := mergeTimelines_of_le _ _ _ _ at_uuid
    unfold joinVertexLocked
    simp only [found, add, remove, payload, Bool.or_false, and_true]
    apply Std.ExtTreeMap.ext_getElem?
    intro u
    rw [Std.ExtTreeMap.getElem?_insert]
    split
    next same =>
      rw [← Std.LawfulEqCmp.compare_eq_iff_eq.mp same]
      exact found.symm
    next => rfl

/-- The vertex half of a merge, as replication by join. -/
def vertexJoin (W : Writes) (bound : Int) : JoinMerge VertexMap Vertex (String → Marks) where
  merge vertices remote := (joinVertexLocked vertices remote).1
  view := vertexMarks
  carried := Vertex.carried
  goodState := VerticesWellFormed W bound
  goodMessage := VertexWellFormed W bound
  preserved vertices remote ok incoming := (joinVertexLocked_join vertices remote ok incoming).1
  join vertices remote ok incoming := (joinVertexLocked_join vertices remote ok incoming).2

/-- Two well-formed maps that say the same are the same map. -/
theorem vertices_ext {W : Writes} {bound bound' : Int} {left right : VertexMap}
    (okLeft : VerticesWellFormed W bound left) (okRight : VerticesWellFormed W bound' right)
    (same : vertexMarks left = vertexMarks right) : left = right := by
  apply Std.ExtTreeMap.ext_getElem?
  intro u
  have at_u := congrFun same u
  cases foundLeft : left[u]? with
  | none =>
    cases foundRight : right[u]? with
    | none => rfl
    | some w =>
      rw [vertexMarks_of_none foundLeft, vertexMarks_of_some foundRight] at at_u
      exact absurd at_u.symm ((Vertex.observed_iff w).mp (okRight u w foundRight).2.observed)
  | some v =>
    cases foundRight : right[u]? with
    | none =>
      rw [vertexMarks_of_none foundRight, vertexMarks_of_some foundLeft] at at_u
      exact absurd at_u ((Vertex.observed_iff v).mp (okLeft u v foundLeft).2.observed)
    | some w =>
      rw [vertexMarks_of_some foundLeft, vertexMarks_of_some foundRight] at at_u
      obtain ⟨filedLeft, standingLeft⟩ := okLeft u v foundLeft
      obtain ⟨filedRight, standingRight⟩ := okRight u w foundRight
      obtain ⟨add, remove⟩ := marks_inj _ _ _ _ at_u
      have payloadLeft := standingLeft.payload
      rw [filedLeft, add] at payloadLeft
      have payloadRight := standingRight.payload
      rw [filedRight] at payloadRight
      have payload := payloadLeft.unique payloadRight
      cases v
      cases w
      simp_all

/-! ## Edges -/

/-- Without the separator in its first two components an edge key determines all
three. -/
theorem edgeKey_inj (src rel dst src' rel' dst' : String)
    (freeSrc : separatorFree src = true) (freeRel : separatorFree rel = true)
    (freeSrc' : separatorFree src' = true) (freeRel' : separatorFree rel' = true)
    (same : edgeKey src rel dst = edgeKey src' rel' dst') :
    src = src' ∧ rel = rel' ∧ dst = dst' := by
  rw [separatorFree_iff] at freeSrc freeRel freeSrc' freeRel'
  have lists := congrArg String.toList same
  simp only [edgeKey, String.toList_append, String.toList_singleton, List.append_assoc,
    List.singleton_append] at lists
  obtain ⟨sources, rest⟩ := append_cons_inj_of_not_mem _ _ _ _ freeSrc freeSrc' lists
  obtain ⟨relationships, targets⟩ := append_cons_inj_of_not_mem _ _ _ _ freeRel freeRel' rest
  exact ⟨String.toList_injective sources, String.toList_injective relationships,
    String.toList_injective targets⟩

/-- An entry as a mutation finds it, before its own stamp makes it observed. -/
structure EdgeSound (table : CaseTable) (bound : Int) (e : Edge) : Prop where
  source : trimSpace e.sourceUUID = e.sourceUUID
  target : trimSpace e.targetUUID = e.targetUUID
  relationship : table.upper (trimSpace e.relationshipType) = e.relationshipType
  named : e.sourceUUID ≠ "" ∧ e.targetUUID ≠ "" ∧ e.relationshipType ≠ ""
  sourceFree : separatorFree e.sourceUUID = true
  relationshipFree : separatorFree e.relationshipType = true
  added : StampsWithin bound e.addTimeline
  removed : StampsWithin bound e.removeTimeline

structure EdgeWellFormed (table : CaseTable) (bound : Int) (e : Edge) : Prop
    extends EdgeSound table bound e where
  observed : e.observed = true

variable {table : CaseTable} {bound larger bound' : Int}

theorem EdgeSound.mono {e : Edge} (ok : EdgeSound table bound e) (le : bound ≤ larger) :
    EdgeSound table larger e :=
  { ok with added := ok.added.mono le, removed := ok.removed.mono le }

theorem EdgeWellFormed.mono {e : Edge} (ok : EdgeWellFormed table bound e) (le : bound ≤ larger) :
    EdgeWellFormed table larger e :=
  ⟨ok.toEdgeSound.mono le, ok.observed⟩

/-- An edge map files well-formed edges under their own keys. -/
def EdgesWellFormed (table : CaseTable) (bound : Int) (edges : EdgeMap) : Prop :=
  ∀ (k : String) (e : Edge), edges[k]? = some e → e.key = k ∧ EdgeWellFormed table bound e

theorem EdgesWellFormed.mono {edges : EdgeMap} (ok : EdgesWellFormed table bound edges)
    (le : bound ≤ larger) : EdgesWellFormed table larger edges := by
  intro k e held
  exact ⟨(ok k e held).1, (ok k e held).2.mono le⟩

theorem EdgesWellFormed.insert {edges : EdgeMap} (ok : EdgesWellFormed table bound edges)
    (e : Edge) (new : EdgeWellFormed table bound e) :
    EdgesWellFormed table bound (edges.insert e.key e) := by
  intro k f held
  rw [Std.ExtTreeMap.getElem?_insert] at held
  split at held
  next same =>
    cases held
    exact ⟨Std.LawfulEqCmp.compare_eq_iff_eq.mp same, new⟩
  next => exact ok k f held

def Edge.marks (e : Edge) : Marks := Crdt.marks e.addTimeline e.removeTimeline

theorem Edge.observed_iff (e : Edge) : e.observed = true ↔ e.marks ≠ ⊥ := by
  unfold Edge.observed Edge.marks
  rw [Ne, marks_eq_bot_iff]
  simp only [Bool.or_eq_true, decide_eq_true_eq]
  omega

def edgeMarks (edges : EdgeMap) (k : String) : Marks :=
  match edges[k]? with
  | some e => e.marks
  | none => ⊥

theorem edgeMarks_of_some {edges : EdgeMap} {k : String} {e : Edge} (held : edges[k]? = some e) :
    edgeMarks edges k = e.marks := by
  simp only [edgeMarks, held]

theorem edgeMarks_of_none {edges : EdgeMap} {k : String} (absent : edges[k]? = none) :
    edgeMarks edges k = ⊥ := by
  simp only [edgeMarks, absent]

theorem edgeMarks_insert (edges : EdgeMap) (k : String) (e : Edge) :
    edgeMarks (edges.insert k e) = Function.update (edgeMarks edges) k e.marks := by
  funext j
  unfold edgeMarks
  rw [Std.ExtTreeMap.getElem?_insert]
  by_cases same : k = j
  · subst same
    simp
  · rw [if_neg (by simpa using same), Function.update_of_ne (Ne.symm same)]

def Edge.carried (e : Edge) : String → Marks := Function.update ⊥ e.key e.marks

theorem joinEdgeLocked_join (edges : EdgeMap) (remote : Edge)
    (ok : EdgesWellFormed table bound edges) (incoming : EdgeWellFormed table bound remote) :
    EdgesWellFormed table bound (joinEdgeLocked edges remote).1 ∧
      edgeMarks (joinEdgeLocked edges remote).1 = edgeMarks edges ⊔ remote.carried := by
  unfold joinEdgeLocked
  rw [Edge.carried, update_sup_carried]
  cases found : edges[remote.key]? with
  | none =>
    refine ⟨ok.insert remote incoming, ?_⟩
    rw [edgeMarks_insert, edgeMarks_of_none found, bot_sup_eq]
  | some local_ =>
    obtain ⟨filed, standing⟩ := ok remote.key local_ found
    have joined := marks_mergeTimelineInto local_.addTimeline local_.removeTimeline
      remote.addTimeline remote.removeTimeline
    rw [edgeMarks_of_some found]
    refine ⟨?_, ?_⟩
    · dsimp only
      rw [← filed]
      refine ok.insert { local_ with
          addTimeline := (mergeTimelineInto local_.addTimeline remote.addTimeline).1
          removeTimeline := (mergeTimelineInto local_.removeTimeline remote.removeTimeline).1 }
        { standing with
          observed := ?_
          added := standing.added.merge incoming.added
          removed := standing.removed.merge incoming.removed }
      rw [Edge.observed_iff]
      have touched := (Edge.observed_iff local_).mp standing.observed
      intro blank
      have split_join : local_.marks ⊔ remote.marks = ⊥ := joined.symm.trans blank
      exact touched (sup_eq_bot_iff.mp split_join).1
    · dsimp only
      rw [edgeMarks_insert]
      exact congrArg _ joined

theorem joinEdgeLocked_settled (edges : EdgeMap) (remote : Edge)
    (incoming : EdgeWellFormed table bound remote) (below : remote.carried ≤ edgeMarks edges) :
    (joinEdgeLocked edges remote).1 = edges ∧ (joinEdgeLocked edges remote).2.1 = false := by
  have at_key := below remote.key
  rw [Edge.carried, Function.update_self] at at_key
  cases found : edges[remote.key]? with
  | none =>
    rw [edgeMarks_of_none found, le_bot_iff] at at_key
    exact absurd at_key ((Edge.observed_iff remote).mp incoming.observed)
  | some local_ =>
    rw [edgeMarks_of_some found] at at_key
    obtain ⟨add, remove⟩ := mergeTimelines_of_le _ _ _ _ at_key
    unfold joinEdgeLocked
    simp only [found, add, remove, Bool.or_false, and_true]
    apply Std.ExtTreeMap.ext_getElem?
    intro k
    rw [Std.ExtTreeMap.getElem?_insert]
    split
    next same =>
      rw [← Std.LawfulEqCmp.compare_eq_iff_eq.mp same]
      exact found.symm
    next => rfl

/-- The edge half of a merge, as replication by join. -/
def edgeJoin (table : CaseTable) (bound : Int) : JoinMerge EdgeMap Edge (String → Marks) where
  merge edges remote := (joinEdgeLocked edges remote).1
  view := edgeMarks
  carried := Edge.carried
  goodState := EdgesWellFormed table bound
  goodMessage := EdgeWellFormed table bound
  preserved edges remote ok incoming := (joinEdgeLocked_join edges remote ok incoming).1
  join edges remote ok incoming := (joinEdgeLocked_join edges remote ok incoming).2

theorem edges_ext {left right : EdgeMap} (okLeft : EdgesWellFormed table bound left)
    (okRight : EdgesWellFormed table bound' right) (same : edgeMarks left = edgeMarks right) :
    left = right := by
  apply Std.ExtTreeMap.ext_getElem?
  intro k
  have at_k := congrFun same k
  cases foundLeft : left[k]? with
  | none =>
    cases foundRight : right[k]? with
    | none => rfl
    | some f =>
      rw [edgeMarks_of_none foundLeft, edgeMarks_of_some foundRight] at at_k
      exact absurd at_k.symm ((Edge.observed_iff f).mp (okRight k f foundRight).2.observed)
  | some e =>
    cases foundRight : right[k]? with
    | none =>
      rw [edgeMarks_of_none foundRight, edgeMarks_of_some foundLeft] at at_k
      exact absurd at_k ((Edge.observed_iff e).mp (okLeft k e foundLeft).2.observed)
    | some f =>
      rw [edgeMarks_of_some foundLeft, edgeMarks_of_some foundRight] at at_k
      obtain ⟨filedLeft, standingLeft⟩ := okLeft k e foundLeft
      obtain ⟨filedRight, standingRight⟩ := okRight k f foundRight
      obtain ⟨add, remove⟩ := marks_inj _ _ _ _ at_k
      obtain ⟨source, relationship, target⟩ := edgeKey_inj _ _ _ _ _ _
        standingLeft.sourceFree standingLeft.relationshipFree
        standingRight.sourceFree standingRight.relationshipFree (filedLeft.trans filedRight.symm)
      cases e
      cases f
      simp_all

end OpenOntology.Crdt
