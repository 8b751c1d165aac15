import OpenOntology.Crdt.Reach

/-!
# The cascade of a removal

`RemoveVertex` stamps the vertex and the live edges at it with one new stamp. The stamp is
beyond everything the replica has stored, so what it reaches is not live; what comes later
only adds to the removes of an element until an operation asserts that very element.
-/
namespace OpenOntology.Crdt
open Library

variable {table : CaseTable} {c next : GraphCRDT}

/-! ## Reads -/

namespace GraphCRDT

def hasVertex (c : GraphCRDT) (id : String) : Bool := c.vertexLive (trimSpace id)

/-- Live edges with an endpoint that is not live, in key order. -/
def danglingEdges (c : GraphCRDT) : List Edge :=
  ((c.edges.toList.map Prod.snd).filter fun edge =>
    edge.live && !(c.vertexLive edge.sourceUUID && c.vertexLive edge.targetUUID)).mergeSort
    fun a b => a.key ≤ b.key

end GraphCRDT

theorem vertexLive_eq (c : GraphCRDT) (u : String) : c.vertexLive u = c.liveAt (.vertex u) := by
  unfold GraphCRDT.vertexLive
  cases found : c.vertices[u]? with
  | some v => exact live_of_vertex found
  | none => simp [GraphCRDT.liveAt, GraphCRDT.line, found]

theorem live_of_mem_danglingEdges {e : Edge} (member : e ∈ c.danglingEdges) :
    (∃ k : String, c.edges[k]? = some e) ∧ e.live = true := by
  unfold GraphCRDT.danglingEdges at member
  rw [List.mem_mergeSort, List.mem_filter, List.mem_map] at member
  obtain ⟨⟨⟨k, f⟩, stored, rfl⟩, shown⟩ := member
  simp only [Bool.and_eq_true] at shown
  exact ⟨⟨k, Std.ExtTreeMap.mem_toList_iff_getElem?_eq_some.mp stored⟩, shown.1⟩

/-! ## Elements that are not live -/

/-- A stamp beyond a timeline becomes its highest. -/
theorem highestStamp_insert {t : Timeline} {bound stamp : Int} (below : StampsBelow bound t)
    (nonneg : 0 ≤ bound) (above : bound < stamp) (clientID : String) :
    highestStamp (t.insert clientID stamp) = stamp := by
  apply le_antisymm
  · have grown := (below.mono above.le).insert le_rfl clientID
    exact grown.highestStamp_le (by omega)
  · exact le_highestStamp _ clientID stamp Std.ExtTreeMap.getElem?_insert_self

theorem liveAt_eq_false_iff (c : GraphCRDT) (el : Element) :
    c.liveAt el = false ↔ highestStamp (c.line el true) ≤ highestStamp (c.line el false) := by
  unfold GraphCRDT.liveAt
  simp

/-- An operation that does not assert the element leaves it dead. -/
theorem Applies.dead {writes : List Write} (applies : Applies c next writes)
    (ok : Loadable table c) {el : Element} (dead : c.liveAt el = false)
    (unasserted : ∀ w ∈ writes, ¬(w.element = el ∧ w.asserted = true)) :
    next.liveAt el = false := by
  have nonneg := ok.clock.nonneg
  rw [liveAt_eq_false_iff] at dead ⊢
  rw [applies.untouched el true unasserted]
  by_cases removed : ∃ w ∈ writes, w.element = el ∧ w.asserted = false
  · obtain ⟨w, member, rfl, asserted⟩ := removed
    have written := applies.written w member
    rw [asserted] at written
    rw [written, highestStamp_insert (ok.lines _ false) nonneg (by omega)]
    have adds := (ok.lines w.element true).highestStamp_le nonneg
    omega
  · rw [applies.untouched el false fun w member same => removed ⟨w, member, same⟩]
    exact dead

/-- An operation that retires an element leaves it dead. -/
theorem Applies.retires {writes : List Write} (applies : Applies c next writes)
    (ok : Loadable table c) {el : Element} {w : Write} (member : w ∈ writes)
    (element : w.element = el) (asserted : w.asserted = false)
    (unasserted : ∀ w' ∈ writes, ¬(w'.element = el ∧ w'.asserted = true)) :
    next.liveAt el = false := by
  have nonneg := ok.clock.nonneg
  have written := applies.written w member
  rw [element, asserted] at written
  rw [liveAt_eq_false_iff, applies.untouched el true unasserted, written,
    highestStamp_insert (ok.lines _ false) nonneg (by omega)]
  have adds := (ok.lines el true).highestStamp_le nonneg
  omega

/-! ## Separator-free names -/

def Triple.Plain (t : Triple) : Prop :=
  separatorFree t.source = true ∧ separatorFree t.relationship = true ∧
    separatorFree t.target = true

theorem Triple.Plain.key_inj {t t' : Triple} (plain : t.Plain) (plain' : t'.Plain)
    (same : t.key = t'.key) : t = t' := by
  obtain ⟨source, relationship, target⟩ :=
    edgeKey_inj _ _ _ _ _ _ plain.1 plain.2.1 plain'.1 plain'.2.1 same
  cases t
  cases t'
  simp_all

/-- No id the operation or the snapshot holds contains the separator byte. -/
def Action.Plain : Action → Prop
  | .addVertex id _ | .removeVertex id => separatorFree id = true
  | .addEdge source target relationship | .removeEdge source target relationship =>
    separatorFree source = true ∧ separatorFree target = true ∧ separatorFree relationship = true
  | .mergeSnapshot snap =>
    (∀ v ∈ snap.vertices, separatorFree v.uuid = true) ∧
      ∀ e ∈ snap.edges, separatorFree e.sourceUUID = true ∧ separatorFree e.targetUUID = true ∧
        separatorFree e.relationshipType = true

theorem names_plain {source target relationship : String} {t : Triple}
    (names : Names table source target relationship t)
    (free : separatorFree source = true ∧ separatorFree target = true ∧
      separatorFree relationship = true) : t.Plain := by
  obtain ⟨from_source, from_target, from_relationship, -⟩ := normalizeEdge_some names
  unfold Triple.Plain
  rw [from_source, from_target, from_relationship]
  exact ⟨separatorFree_trimSpace _ free.1,
    table.separatorFree_upper _ (separatorFree_trimSpace _ free.2.2),
    separatorFree_trimSpace _ free.2.1⟩

theorem Action.Plain.edgesIn {a : Action} (plain : a.Plain) : a.EdgesIn table Triple.Plain := by
  cases a with
  | addVertex id props => trivial
  | removeVertex id => trivial
  | addEdge source target relationship => exact fun t names => names_plain names plain
  | removeEdge source target relationship => exact fun t names => names_plain names plain
  | mergeSnapshot snap => exact fun e member t names => names_plain names (plain.2 e member)

/-! ## Assertions -/

/-- The operation adds vertex `u`. -/
def Action.Adds (u : String) : Action → Prop
  | .addVertex id _ => trimSpace id = u
  | _ => False

/-- The operation is an `AddEdge` of this edge. -/
def Action.Asserts (table : CaseTable) (t : Triple) : Action → Prop
  | .addEdge source target relationship => Names table source target relationship t
  | _ => False

/-- A write that asserts is that of an `AddVertex` or an `AddEdge`. -/
theorem asserting_write {a : Action} {w : Write} (member : w ∈ c.writesOf table a)
    (asserted : w.asserted = true) :
    (∃ id props, a = .addVertex id props ∧ w.element = .vertex (trimSpace id)) ∨
      ∃ source target relationship, ∃ t : Triple, a = .addEdge source target relationship ∧
        Names table source target relationship t ∧ w.element = .edge t.key := by
  cases a with
  | addVertex id props =>
    change w ∈ c.addVertexWrites id props at member
    unfold GraphCRDT.addVertexWrites at member
    split at member
    next => cases member
    next =>
      rw [List.mem_singleton.mp member]
      exact Or.inl ⟨id, props, rfl, rfl⟩
  | removeVertex id =>
    by_cases blank : trimSpace id = ""
    · simp [GraphCRDT.writesOf, GraphCRDT.removeVertexWrites, blank] at member
    · rcases (mem_removeVertexWrites blank w).mp member with rfl | ⟨k, e, -, -, rfl⟩
      · cases asserted
      · cases asserted
  | addEdge source target relationship =>
    change w ∈ c.edgeWrites table true source target relationship at member
    unfold GraphCRDT.edgeWrites at member
    split at member
    next => cases member
    next src dst rel names =>
      rw [List.mem_singleton.mp member]
      exact Or.inr ⟨source, target, relationship, ⟨src, rel, dst⟩, rfl, names, rfl⟩
  | removeEdge source target relationship =>
    change w ∈ c.edgeWrites table false source target relationship at member
    unfold GraphCRDT.edgeWrites at member
    split at member
    next => cases member
    next =>
      rw [List.mem_singleton.mp member] at asserted
      cases asserted
  | mergeSnapshot snap => cases member

theorem adds_of_write {a : Action} {u : String} {w : Write} (member : w ∈ c.writesOf table a)
    (element : w.element = .vertex u) (asserted : w.asserted = true) : a.Adds u := by
  obtain ⟨id, props, rfl, written⟩ | ⟨source, target, relationship, t, rfl, names, written⟩ :=
    asserting_write member asserted
  · exact Element.vertex.inj (written.symm.trans element)
  · cases written.symm.trans element

theorem asserts_of_write {a : Action} {t : Triple} (plain : a.Plain) (named : t.Plain) {w : Write}
    (member : w ∈ c.writesOf table a) (element : w.element = .edge t.key)
    (asserted : w.asserted = true) : a.Asserts table t := by
  obtain ⟨id, props, rfl, written⟩ | ⟨source, target, relationship, t', rfl, names, written⟩ :=
    asserting_write member asserted
  · cases written.symm.trans element
  · have spelled : t'.Plain := names_plain names plain
    have same : t' = t :=
      spelled.key_inj named (Element.edge.inj (written.symm.trans element))
    rw [← same]
    exact names

/-! ## Runs of local operations -/

/-- Local operations with plain ids that the clock has room for. -/
structure LocalRun (table : CaseTable) (c : GraphCRDT) (later : List Action) : Prop where
  own : ∀ a ∈ later, a.isLocal = true ∧ a.Plain
  room : c.NeverFull table later

theorem Action.decoded_of_local {a : Action} (own : a.isLocal = true) : a.Decoded := by
  cases a with
  | mergeSnapshot snap => cases own
  | _ => trivial

/-- An element that is not live stays so while nothing asserts it. -/
theorem acts_dead {el : Element} {later : List Action} (ok : Loadable table c)
    (dead : c.liveAt el = false) (run : LocalRun table c later)
    (unasserted : ∀ a ∈ later, ∀ (d : GraphCRDT) (w : Write), w ∈ d.writesOf table a →
      ¬(w.element = el ∧ w.asserted = true)) :
    (c.acts table later).liveAt el = false := by
  induction later generalizing c with
  | nil => exact dead
  | cons a rest ih =>
    obtain ⟨own, plain⟩ := run.own a List.mem_cons_self
    have applies : Applies c (c.act table a) (c.writesOf table a) :=
      act_applies ok.clock.nonneg own (run.room.1 own)
    refine ih (ok.act (Action.decoded_of_local own) run.room.1) (applies.dead ok dead ?_) ?_ ?_
    · exact fun w member => unasserted a List.mem_cons_self c w member
    · exact ⟨fun b member => run.own b (List.mem_cons_of_mem a member), run.room.2⟩
    · exact fun b member => unasserted b (List.mem_cons_of_mem a member)

/-! ## The removal -/

def Edge.IncidentTo (u : String) (e : Edge) : Prop := e.sourceUUID = u ∨ e.targetUUID = u

/-- What `RemoveVertex(id)` does to a replica. -/
structure Cascades (table : CaseTable) (c : GraphCRDT) (id : String) : Prop where
  /-- the vertex is not live until it is added again -/
  vertex : ∀ later, LocalRun table (c.removeVertex id) later →
    (∀ a ∈ later, ¬a.Adds (trimSpace id)) →
      ((c.removeVertex id).acts table later).hasVertex id = false
  /-- an edge at the vertex is not live until `AddEdge` asserts that edge again -/
  edges : ∀ later, LocalRun table (c.removeVertex id) later →
    ∀ (k : String) (e : Edge), ((c.removeVertex id).acts table later).edges[k]? = some e →
      e.IncidentTo (trimSpace id) → (∀ a ∈ later, ¬a.Asserts table e.triple) → e.live = false
  /-- so neither list of live edges shows it -/
  unlisted : ∀ later, LocalRun table (c.removeVertex id) later →
    ∀ e, e ∈ ((c.removeVertex id).acts table later).liveEdges ∨
        e ∈ ((c.removeVertex id).acts table later).danglingEdges →
      e.IncidentTo (trimSpace id) → ∃ a ∈ later, a.Asserts table e.triple
  otherVertices : ∀ u : String, u ≠ trimSpace id →
    (c.removeVertex id).vertices[u]? = c.vertices[u]?
  otherEdges : ∀ k : String, (∀ e, c.edges[k]? = some e → ¬e.IncidentTo (trimSpace id)) →
    (c.removeVertex id).edges[k]? = c.edges[k]?

theorem removeVertex_vertices_of_ne {id u : String} (other : u ≠ trimSpace id) :
    (c.removeVertex id).vertices[u]? = c.vertices[u]? := by
  unfold GraphCRDT.removeVertex
  dsimp only
  split
  next => rfl
  next => exact getElem?_insert_ne _ _ (Ne.symm other)

theorem removeVertex_edges_of_apart {id k : String}
    (apart : ∀ e, c.edges[k]? = some e → ¬e.IncidentTo (trimSpace id)) :
    (c.removeVertex id).edges[k]? = c.edges[k]? := by
  unfold GraphCRDT.removeVertex
  dsimp only
  split
  next => rfl
  next =>
    rw [Std.ExtTreeMap.getElem?_map]
    cases found : c.edges[k]? with
    | none => rfl
    | some e =>
      have elsewhere := apart e found
      unfold Edge.IncidentTo at elsewhere
      rw [not_or] at elsewhere
      rw [Option.map_some, GraphCRDT.cascade, if_pos elsewhere]

/-- A write of a removal asserts nothing. -/
theorem removal_unasserted {id : String} {el : Element} (named : trimSpace id ≠ "") :
    ∀ w ∈ c.removeVertexWrites id, ¬(w.element = el ∧ w.asserted = true) := by
  intro w member ⟨_, asserted⟩
  rcases (mem_removeVertexWrites named w).mp member with rfl | ⟨k, e, -, -, rfl⟩
  · cases asserted
  · cases asserted

theorem removeVertex_vertex_dead {id : String} (ok : Loadable table c)
    (room : c.lamportClock < maxInt64) (named : trimSpace id ≠ "") :
    (c.removeVertex id).liveAt (.vertex (trimSpace id)) = false := by
  have applies := removeVertex_applies ok.clock.nonneg room id
  have written : (⟨.vertex (trimSpace id), false, ∅, c.nextStamp⟩ : Write) ∈
      c.removeVertexWrites id := (mem_removeVertexWrites named _).mpr (Or.inl rfl)
  exact applies.retires ok written rfl rfl (removal_unasserted named)

/-- The cascade leaves no incident edge live, be it stamped now or dead before. -/
theorem removeVertex_edge_dead {id k : String} (ok : Loadable table c)
    (room : c.lamportClock < maxInt64) (named : trimSpace id ≠ "")
    (incident : ∀ e, c.edges[k]? = some e → e.IncidentTo (trimSpace id)) :
    (c.removeVertex id).liveAt (.edge k) = false := by
  have applies := removeVertex_applies ok.clock.nonneg room id
  cases was : c.liveAt (.edge k) with
  | false => exact applies.dead ok was (removal_unasserted named)
  | true =>
    cases found : c.edges[k]? with
    | none => simp [GraphCRDT.liveAt, GraphCRDT.line, found] at was
    | some e =>
      have cascades : GraphCRDT.cascades (trimSpace id) e = true := by
        have at_vertex := incident e found
        unfold Edge.IncidentTo at at_vertex
        simp [GraphCRDT.cascades, at_vertex, live_of_edge found, was]
      have written : (⟨.edge k, false, ∅, c.nextStamp⟩ : Write) ∈ c.removeVertexWrites id :=
        (mem_removeVertexWrites named _).mpr (Or.inr ⟨k, e, found, cascades, rfl⟩)
      exact applies.retires ok written rfl rfl (removal_unasserted named)

theorem removeVertex_loadable {id : String} (ok : Loadable table c)
    (room : c.lamportClock < maxInt64) : Loadable table (c.removeVertex id) :=
  ok.act (a := .removeVertex id) trivial fun _ => room

theorem removeVertex_named {id : String} {named : Triple → Prop} (all : EdgesNamed named c.edges) :
    EdgesNamed named (c.removeVertex id).edges :=
  @EdgesNamed.act asciiCase named c all (.removeVertex id) trivial

/-- An edge at the removed vertex stays dead while nothing asserts that edge. -/
theorem incident_edge_dead {id k : String} {e : Edge} {later : List Action}
    (ok : Loadable table c) (plain : EdgesNamed Triple.Plain c.edges)
    (room : c.lamportClock < maxInt64) (named : trimSpace id ≠ "")
    (run : LocalRun table (c.removeVertex id) later)
    (stored : ((c.removeVertex id).acts table later).edges[k]? = some e)
    (incident : e.IncidentTo (trimSpace id)) (unasserted : ∀ a ∈ later, ¬a.Asserts table e.triple) :
    e.live = false := by
  have after := @removeVertex_loadable table c id ok room
  have decoded : ∀ a ∈ later, a.Decoded :=
    fun a member => Action.decoded_of_local (run.own a member).1
  have last := after.acts later decoded run.room
  have spelled : e.triple.Plain :=
    (removeVertex_named plain).acts later (fun a member => (run.own a member).2.edgesIn) k e stored
  have filed : e.triple.key = k := (last.edges k e stored).1
  -- what was stored under the key is the same edge
  have before : ∀ e', c.edges[k]? = some e' → e'.IncidentTo (trimSpace id) := by
    intro e' held
    have same : e'.triple = e.triple :=
      (plain k e' held).key_inj spelled ((ok.edges k e' held).1.trans filed.symm)
    unfold Edge.IncidentTo at incident ⊢
    rw [show e'.sourceUUID = e.sourceUUID from congrArg Triple.source same,
      show e'.targetUUID = e.targetUUID from congrArg Triple.target same]
    exact incident
  rw [live_of_edge stored, ← filed]
  refine acts_dead after ?_ run ?_
  · rw [filed]
    exact removeVertex_edge_dead ok room named before
  · intro a member d w written ⟨element, asserted⟩
    exact unasserted a member
      (asserts_of_write (run.own a member).2 spelled written element asserted)

/-- Removing a vertex takes down the vertex and exactly the edges at it, until they are
asserted again. -/
theorem removeVertex_cascades (table : CaseTable) (c : GraphCRDT)
    (reached : c.Reachable table Action.Plain) (room : c.lamportClock < maxInt64) (id : String)
    (named : trimSpace id ≠ "") : Cascades table c id := by
  have ok := reached.loadable
  have plain : EdgesNamed Triple.Plain c.edges := reached.edgesNamed fun a own => own.edgesIn
  refine ⟨?_, ?_, ?_, ?_, ?_⟩
  · intro later run unadded
    unfold GraphCRDT.hasVertex
    rw [vertexLive_eq]
    refine acts_dead (removeVertex_loadable ok room) (removeVertex_vertex_dead ok room named) run ?_
    intro a member d w written ⟨element, asserted⟩
    exact unadded a member (adds_of_write written element asserted)
  · intro later run k e stored incident unasserted
    exact incident_edge_dead ok plain room named run stored incident unasserted
  · intro later run e shown incident
    have live : (∃ k : String, ((c.removeVertex id).acts table later).edges[k]? = some e) ∧
        e.live = true := by
      rcases shown with listed | dangling
      · exact ⟨((mem_liveEdges _ e).mp listed).1, ((mem_liveEdges _ e).mp listed).2.1⟩
      · exact live_of_mem_danglingEdges dangling
    obtain ⟨⟨k, stored⟩, live⟩ := live
    by_contra unasserted
    push Not at unasserted
    have dead := incident_edge_dead ok plain room named run stored incident unasserted
    rw [dead] at live
    cases live
  · exact fun u other => removeVertex_vertices_of_ne other
  · exact fun k apart => removeVertex_edges_of_apart apart

/-- A pump that feeds a valve is removed. -/
theorem removeVertex_cascades_pump :
    Cascades asciiCase ((newGraphCRDT "replica-0" "edge-1" 0).acts asciiCase
      [.addVertex "pump" ∅, .addVertex "valve" ∅, .addEdge "pump" "valve" "feeds"]) "pump" := by
  refine removeVertex_cascades asciiCase _ ?_ (by decide +kernel) "pump" (by decide +kernel)
  refine (GraphCRDT.Reachable.start (by decide +kernel) (by decide) "edge-1"
    (by decide)).acts _ ?_ ?_
  · intro a member
    simp only [List.mem_cons, List.not_mem_nil, or_false] at member
    rcases member with rfl | rfl | rfl
    · exact ⟨show separatorFree "pump" = true by decide, trivial⟩
    · exact ⟨show separatorFree "valve" = true by decide, trivial⟩
    · exact ⟨⟨by decide, by decide, by decide⟩, trivial⟩
  · refine ⟨fun _ => ?_, fun _ => ?_, fun _ => ?_, trivial⟩
    · decide +kernel
    · decide +kernel
    · decide +kernel

end OpenOntology.Crdt
