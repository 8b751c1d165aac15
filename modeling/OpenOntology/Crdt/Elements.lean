import OpenOntology.Crdt.Clock
import OpenOntology.Crdt.Convergence

/-!
# Elements and writes

A vertex and an edge entry both keep a timeline of adds and one of removes. A mutation
writes one stamp into some of these lines and leaves the others alone; merging the
snapshot of another replica joins every line with the other's.
-/
namespace OpenOntology.Crdt
open Library

variable {table : CaseTable} {W : Writes}

/-- What carries timelines: a vertex, or the entry under an edge key. -/
inductive Element where
  | vertex (uuid : String)
  | edge (key : String)
  deriving DecidableEq, Repr

/-- One write of a mutation: the element, whether it asserts or retires it, and the
payload and the stamp it was issued with. -/
structure Write where
  element : Element
  asserted : Bool
  properties : Properties := ∅
  stamp : WriteStamp

namespace GraphCRDT

/-- The adds of an element, or its removes; empty where nothing is stored. -/
def line (c : GraphCRDT) : Element → Bool → Timeline
  | .vertex u, true => (c.vertices[u]?.map Vertex.addTimeline).getD ∅
  | .vertex u, false => (c.vertices[u]?.map Vertex.removeTimeline).getD ∅
  | .edge k, true => (c.edges[k]?.map Edge.addTimeline).getD ∅
  | .edge k, false => (c.edges[k]?.map Edge.removeTimeline).getD ∅

def nextStamp (c : GraphCRDT) : WriteStamp := ⟨increment c.lamportClock, c.clientID⟩

/-- The edge is stamped by the cascade of a removal. -/
def cascades (removed : String) (edge : Edge) : Bool :=
  (edge.sourceUUID = removed || edge.targetUUID = removed) && edge.live

def addVertexWrites (c : GraphCRDT) (id : String) (props : Properties) : List Write :=
  if trimSpace id = "" then [] else [⟨.vertex (trimSpace id), true, props, c.nextStamp⟩]

def removeVertexWrites (c : GraphCRDT) (id : String) : List Write :=
  if trimSpace id = "" then []
  else
    ⟨.vertex (trimSpace id), false, ∅, c.nextStamp⟩ ::
      (c.edges.toList.filter fun entry => cascades (trimSpace id) entry.2).map fun entry =>
        ⟨.edge entry.1, false, ∅, c.nextStamp⟩

/-- The write of an edge mutation, which asserts or retires. -/
def edgeWrites (table : CaseTable) (c : GraphCRDT) (asserted : Bool)
    (source target relationship : String) : List Write :=
  match normalizeEdge table source target relationship with
  | none => []
  | some (src, dst, rel) => [⟨.edge (edgeKey src rel dst), asserted, ∅, c.nextStamp⟩]

end GraphCRDT

/-- A mutation issued the writes: each is the new stamp on one line, and nothing else
changed. -/
structure Applies (c next : GraphCRDT) (writes : List Write) : Prop where
  clientID : next.clientID = c.clientID
  forward : c.lamportClock ≤ next.lamportClock
  ticked : writes ≠ [] → next.lamportClock = c.lamportClock + 1
  stamps : ∀ w ∈ writes, w.stamp = ⟨c.lamportClock + 1, c.clientID⟩
  distinct : ∀ w ∈ writes, ∀ w' ∈ writes, w.element = w'.element → w = w'
  written : ∀ w ∈ writes, next.line w.element w.asserted =
    (c.line w.element w.asserted).insert c.clientID (c.lamportClock + 1)
  untouched : ∀ el b, (∀ w ∈ writes, ¬(w.element = el ∧ w.asserted = b)) →
    next.line el b = c.line el b

theorem Applies.refl (c : GraphCRDT) : Applies c c [] where
  clientID := rfl
  forward := le_rfl
  ticked impossible := absurd rfl impossible
  stamps _ member := (List.not_mem_nil member).elim
  distinct _ member := (List.not_mem_nil member).elim
  written _ member := (List.not_mem_nil member).elim
  untouched _ _ _ := rfl

/-- A mutation with a single write. -/
theorem applies_single {c next : GraphCRDT} {el : Element} {b : Bool} {props : Properties}
    (clientID : next.clientID = c.clientID) (clock : next.lamportClock = c.lamportClock + 1)
    (written : next.line el b = (c.line el b).insert c.clientID (c.lamportClock + 1))
    (untouched : ∀ el' b', ¬(el = el' ∧ b = b') → next.line el' b' = c.line el' b') :
    Applies c next [⟨el, b, props, ⟨c.lamportClock + 1, c.clientID⟩⟩] where
  clientID := clientID
  forward := by omega
  ticked _ := clock
  stamps w member := by rw [List.mem_singleton.mp member]
  distinct w member w' member' _ := by
    rw [List.mem_singleton.mp member, List.mem_singleton.mp member']
  written w member := by
    rw [List.mem_singleton.mp member]
    exact written
  untouched el' b' others := untouched el' b' (others _ List.mem_cons_self)

/-! ## The lines after a mutation -/

theorem getD_line {α : Type} (m : Std.ExtTreeMap String α) (k : String) (fresh : α)
    (read : α → Timeline) (blank : read fresh = ∅) :
    read (m.getD k fresh) = (m[k]?.map read).getD ∅ := by
  rw [Std.ExtTreeMap.getD_eq_getD_getElem?]
  cases m[k]? with
  | none => exact blank
  | some a => rfl

theorem line_vertex_congr {c d : GraphCRDT} {u : String} (same : c.vertices[u]? = d.vertices[u]?)
    (b : Bool) : c.line (.vertex u) b = d.line (.vertex u) b := by
  cases b <;> simp only [GraphCRDT.line, same]

theorem line_edge_congr {c d : GraphCRDT} {k : String} (same : c.edges[k]? = d.edges[k]?)
    (b : Bool) : c.line (.edge k) b = d.line (.edge k) b := by
  cases b <;> simp only [GraphCRDT.line, same]

theorem getElem?_insert_ne {α : Type} (m : Std.ExtTreeMap String α) {k j : String} (a : α)
    (other : k ≠ j) : (m.insert k a)[j]? = m[j]? := by
  rw [Std.ExtTreeMap.getElem?_insert, if_neg]
  exact fun same => other (Std.LawfulEqCmp.compare_eq_iff_eq.mp same)

theorem addVertex_applies {c : GraphCRDT} (nonneg : 0 ≤ c.lamportClock)
    (room : c.lamportClock < maxInt64) (id : String) (props : Properties) :
    Applies c (c.addVertex id props) (c.addVertexWrites id props) := by
  unfold GraphCRDT.addVertex GraphCRDT.addVertexWrites GraphCRDT.nextStamp
  dsimp only
  by_cases blank : trimSpace id = ""
  · rw [if_pos blank, if_pos blank]
    exact Applies.refl c
  rw [if_neg blank, if_neg blank, increment_of_lt _ nonneg room]
  refine applies_single rfl rfl ?_ ?_
  · show (Option.map _ (Std.ExtTreeMap.insert ..)[trimSpace id]?).getD ∅ = _
    rw [Std.ExtTreeMap.getElem?_insert_self]
    exact congrArg (fun t : Timeline => t.insert c.clientID (c.lamportClock + 1))
      (getD_line c.vertices _ _ Vertex.addTimeline rfl)
  · rintro (u | k) b other
    · by_cases same : trimSpace id = u
      · subst same
        cases b with
        | true => exact absurd ⟨rfl, rfl⟩ other
        | false =>
          show (Option.map _ (Std.ExtTreeMap.insert ..)[trimSpace id]?).getD ∅ = _
          rw [Std.ExtTreeMap.getElem?_insert_self]
          exact getD_line c.vertices _ _ Vertex.removeTimeline rfl
      · exact line_vertex_congr (getElem?_insert_ne _ _ same) b
    · cases b <;> rfl

theorem cascade_eq (clientID removed : String) (stamp : Int) (e : Edge) :
    GraphCRDT.cascade clientID removed stamp e =
      if GraphCRDT.cascades removed e = true then
        { e with removeTimeline := e.removeTimeline.insert clientID stamp }
      else e := by
  unfold GraphCRDT.cascade GraphCRDT.cascades
  by_cases elsewhere : e.sourceUUID ≠ removed ∧ e.targetUUID ≠ removed
  · rw [if_pos elsewhere, if_neg]
    simp [elsewhere.1, elsewhere.2]
  · rw [if_neg elsewhere]
    have incident : (decide (e.sourceUUID = removed) || decide (e.targetUUID = removed)) = true := by
      by_contra neither
      simp only [Bool.or_eq_true, decide_eq_true_eq, not_or] at neither
      exact elsewhere neither
    rw [incident, Bool.true_and]
    cases e.live with
    | true => rfl
    | false => rfl

theorem mem_removeVertexWrites {c : GraphCRDT} {id : String} (named : trimSpace id ≠ "")
    (w : Write) :
    w ∈ c.removeVertexWrites id ↔ w = ⟨.vertex (trimSpace id), false, ∅, c.nextStamp⟩ ∨
      ∃ k e, c.edges[k]? = some e ∧ GraphCRDT.cascades (trimSpace id) e = true ∧
        w = ⟨.edge k, false, ∅, c.nextStamp⟩ := by
  unfold GraphCRDT.removeVertexWrites
  rw [if_neg named, List.mem_cons, List.mem_map]
  refine or_congr_right ?_
  constructor
  · rintro ⟨⟨k, e⟩, kept, rfl⟩
    obtain ⟨stored, cascades⟩ := List.mem_filter.mp kept
    exact ⟨k, e, Std.ExtTreeMap.mem_toList_iff_getElem?_eq_some.mp stored, cascades, rfl⟩
  · rintro ⟨k, e, stored, cascades, rfl⟩
    exact ⟨(k, e), List.mem_filter.mpr
      ⟨Std.ExtTreeMap.mem_toList_iff_getElem?_eq_some.mpr stored, cascades⟩, rfl⟩

theorem removeVertex_applies {c : GraphCRDT} (nonneg : 0 ≤ c.lamportClock)
    (room : c.lamportClock < maxInt64) (id : String) :
    Applies c (c.removeVertex id) (c.removeVertexWrites id) := by
  by_cases named : trimSpace id = ""
  · unfold GraphCRDT.removeVertex GraphCRDT.removeVertexWrites
    rw [if_pos named, if_pos named]
    exact Applies.refl c
  have issued := mem_removeVertexWrites (c := c) named
  have next : c.nextStamp = ⟨c.lamportClock + 1, c.clientID⟩ := by
    unfold GraphCRDT.nextStamp
    rw [increment_of_lt _ nonneg room]
  have edges : ∀ k : String, (c.removeVertex id).edges[k]? =
      c.edges[k]?.map (GraphCRDT.cascade c.clientID (trimSpace id) (c.lamportClock + 1)) := by
    intro k
    unfold GraphCRDT.removeVertex
    rw [if_neg named, increment_of_lt _ nonneg room]
    exact Std.ExtTreeMap.getElem?_map
  have adds : ∀ k, (c.removeVertex id).line (.edge k) true = c.line (.edge k) true := by
    intro k
    unfold GraphCRDT.line
    dsimp only
    rw [edges]
    cases c.edges[k]? with
    | none => rfl
    | some e =>
      rw [Option.map_some, cascade_eq]
      split <;> rfl
  have vertex : (c.removeVertex id).vertices = c.vertices.insert (trimSpace id)
      { c.vertices.getD (trimSpace id) { uuid := trimSpace id } with
        removeTimeline :=
          (c.vertices.getD (trimSpace id) { uuid := trimSpace id }).removeTimeline.insert
            c.clientID (c.lamportClock + 1) } := by
    unfold GraphCRDT.removeVertex
    rw [if_neg named, increment_of_lt _ nonneg room]
  have clock : (c.removeVertex id).lamportClock = c.lamportClock + 1 := by
    unfold GraphCRDT.removeVertex
    rw [if_neg named]
    exact increment_of_lt _ nonneg room
  refine ⟨?_, by omega, fun _ => clock, ?_, ?_, ?_, ?_⟩
  · unfold GraphCRDT.removeVertex
    rw [if_neg named]
  · intro w member
    rcases (issued w).mp member with rfl | ⟨k, e, -, -, rfl⟩
    · exact next
    · exact next
  · intro w member w' member' same
    rcases (issued w).mp member with rfl | ⟨k, e, -, -, rfl⟩
    · rcases (issued w').mp member' with rfl | ⟨k', e', -, -, rfl⟩
      · rfl
      · cases same
    · rcases (issued w').mp member' with rfl | ⟨k', e', -, -, rfl⟩
      · cases same
      · cases same
        rfl
  · intro w member
    rcases (issued w).mp member with rfl | ⟨k, e, stored, cascades, rfl⟩
    · show ((c.removeVertex id).vertices[trimSpace id]?.map Vertex.removeTimeline).getD ∅ = _
      rw [vertex, Std.ExtTreeMap.getElem?_insert_self]
      exact congrArg (fun t : Timeline => t.insert c.clientID (c.lamportClock + 1))
        (getD_line c.vertices _ _ Vertex.removeTimeline rfl)
    · unfold GraphCRDT.line
      dsimp only
      rw [edges, stored, Option.map_some, cascade_eq, if_pos cascades]
      rfl
  · rintro (u | k) b others
    · by_cases same : trimSpace id = u
      · subst same
        cases b with
        | false => exact absurd ⟨rfl, rfl⟩ (others _ ((issued _).mpr (Or.inl rfl)))
        | true =>
          show ((c.removeVertex id).vertices[trimSpace id]?.map Vertex.addTimeline).getD ∅ = _
          rw [vertex, Std.ExtTreeMap.getElem?_insert_self]
          exact getD_line c.vertices _ _ Vertex.addTimeline rfl
      · refine line_vertex_congr ?_ b
        rw [vertex, getElem?_insert_ne _ _ same]
    · cases b with
      | true => exact adds k
      | false =>
        unfold GraphCRDT.line
        dsimp only
        rw [edges]
        cases stored : c.edges[k]? with
        | none => rfl
        | some e =>
          rw [Option.map_some, cascade_eq, if_neg]
          intro cascades
          exact others _ ((issued _).mpr (Or.inr ⟨k, e, stored, cascades, rfl⟩)) ⟨rfl, rfl⟩

theorem addEdge_applies {c : GraphCRDT} (nonneg : 0 ≤ c.lamportClock)
    (room : c.lamportClock < maxInt64) (source target relationship : String) :
    Applies c (c.addEdge table source target relationship)
      (c.edgeWrites table true source target relationship) := by
  unfold GraphCRDT.addEdge GraphCRDT.edgeWrites GraphCRDT.nextStamp
  cases GraphCRDT.normalizeEdge table source target relationship with
  | none => exact Applies.refl c
  | some normal =>
    obtain ⟨src, dst, rel⟩ := normal
    dsimp only
    rw [increment_of_lt _ nonneg room]
    refine applies_single rfl rfl ?_ ?_
    · show (Option.map _ (Std.ExtTreeMap.insert ..)[edgeKey src rel dst]?).getD ∅ = _
      rw [Std.ExtTreeMap.getElem?_insert_self]
      exact congrArg (fun t : Timeline => t.insert c.clientID (c.lamportClock + 1))
        (getD_line c.edges _ _ Edge.addTimeline rfl)
    · rintro (u | k) b other
      · cases b <;> rfl
      · by_cases same : edgeKey src rel dst = k
        · subst same
          cases b with
          | true => exact absurd ⟨rfl, rfl⟩ other
          | false =>
            show (Option.map _ (Std.ExtTreeMap.insert ..)[edgeKey src rel dst]?).getD ∅ = _
            rw [Std.ExtTreeMap.getElem?_insert_self]
            exact getD_line c.edges _ _ Edge.removeTimeline rfl
        · exact line_edge_congr (getElem?_insert_ne _ _ same) b

theorem removeEdge_applies {c : GraphCRDT} (nonneg : 0 ≤ c.lamportClock)
    (room : c.lamportClock < maxInt64) (source target relationship : String) :
    Applies c (c.removeEdge table source target relationship)
      (c.edgeWrites table false source target relationship) := by
  unfold GraphCRDT.removeEdge GraphCRDT.edgeWrites GraphCRDT.nextStamp
  cases GraphCRDT.normalizeEdge table source target relationship with
  | none => exact Applies.refl c
  | some normal =>
    obtain ⟨src, dst, rel⟩ := normal
    dsimp only
    rw [increment_of_lt _ nonneg room]
    refine applies_single rfl rfl ?_ ?_
    · show (Option.map _ (Std.ExtTreeMap.insert ..)[edgeKey src rel dst]?).getD ∅ = _
      rw [Std.ExtTreeMap.getElem?_insert_self]
      exact congrArg (fun t : Timeline => t.insert c.clientID (c.lamportClock + 1))
        (getD_line c.edges _ _ Edge.removeTimeline rfl)
    · rintro (u | k) b other
      · cases b <;> rfl
      · by_cases same : edgeKey src rel dst = k
        · subst same
          cases b with
          | false => exact absurd ⟨rfl, rfl⟩ other
          | true =>
            show (Option.map _ (Std.ExtTreeMap.insert ..)[edgeKey src rel dst]?).getD ∅ = _
            rw [Std.ExtTreeMap.getElem?_insert_self]
            exact getD_line c.edges _ _ Edge.addTimeline rfl
        · exact line_edge_congr (getElem?_insert_ne _ _ same) b

end OpenOntology.Crdt
