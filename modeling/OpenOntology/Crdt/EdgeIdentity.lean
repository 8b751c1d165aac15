import Mathlib
import OpenOntology.Crdt.Clock

/-!
# The identity of an edge

The edge map is filed under the three components joined by a separator. Normalisation
trims the components and folds the case of the relationship; it does not look for the
separator, so the key of a triple says where its components end only when it holds none.
-/
namespace OpenOntology.Crdt

/-- The components of an edge. -/
structure Triple where
  source : String
  relationship : String
  target : String
  deriving DecidableEq, Repr

namespace Triple

def key (t : Triple) : String := edgeKey t.source t.relationship t.target

/-- The parts of a component between its separators. -/
def parts (s : String) : List (List Char) := s.toList.splitOn keySeparator

/-- The three components cut at every separator and read in the order of the key. -/
def pieces (t : Triple) : List (List Char) :=
  parts t.source ++ parts t.relationship ++ parts t.target

/-- What `normalizeEdge` lets through, it leaves as it is. -/
def Normal (table : CaseTable) (t : Triple) : Prop :=
  GraphCRDT.normalizeEdge table t.source t.target t.relationship =
    some (t.source, t.target, t.relationship)

instance (table : CaseTable) (t : Triple) : Decidable (t.Normal table) :=
  inferInstanceAs (Decidable (_ = _))

theorem splitOn_key (t : Triple) : t.key.toList.splitOn keySeparator = t.pieces := by
  unfold key edgeKey pieces parts
  simp only [String.toList_append, String.toList_singleton, List.append_assoc,
    List.cons_append, List.nil_append, List.splitOn_append_cons_self]

/-- Two triples share a key exactly when they are cut into the same pieces. -/
theorem key_eq_iff (t t' : Triple) : t.key = t'.key ↔ t.pieces = t'.pieces := by
  rw [← splitOn_key, ← splitOn_key]
  constructor
  · exact fun same => by rw [same]
  · intro same
    have joined := congrArg (List.intercalate [keySeparator]) same
    rw [List.intercalate_splitOn, List.intercalate_splitOn] at joined
    exact String.toList_injective joined

/-- Without separators in source and relationship different triples have different
pieces. -/
theorem pieces_ne_of_separatorFree {t t' : Triple} (freeSource : separatorFree t.source = true)
    (freeRelationship : separatorFree t.relationship = true)
    (freeSource' : separatorFree t'.source = true)
    (freeRelationship' : separatorFree t'.relationship = true) (distinct : t ≠ t') :
    t.pieces ≠ t'.pieces := by
  intro same
  obtain ⟨source, relationship, target⟩ := edgeKey_inj _ _ _ _ _ _ freeSource freeRelationship
    freeSource' freeRelationship' ((key_eq_iff t t').mpr same)
  apply distinct
  cases t
  cases t'
  simp_all

end Triple

namespace GraphCRDT

/-- The triple and the liveness that are filed under the key of `t`. -/
def stored (c : GraphCRDT) (t : Triple) : Option (Triple × Bool) :=
  c.edges[t.key]?.map fun e => (⟨e.sourceUUID, e.relationshipType, e.targetUUID⟩, e.live)

end GraphCRDT

variable {table : CaseTable}

/-- The arguments of a mutation, or of a wire edge, normalise to the triple. -/
def Names (table : CaseTable) (source target relationship : String) (t : Triple) : Prop :=
  GraphCRDT.normalizeEdge table source target relationship =
    some (t.source, t.target, t.relationship)

/-- On this replica the two triples share no entry, and whatever is done to the first
leaves the second as it is stored. -/
structure Apart (table : CaseTable) (c : GraphCRDT) (t t' : Triple) : Prop where
  unshared : ¬∃ k e, c.edges[k]? = some e ∧ k = t.key ∧ k = t'.key
  added : ∀ source target relationship, Names table source target relationship t →
    (c.addEdge table source target relationship).stored t' = c.stored t'
  removed : ∀ source target relationship, Names table source target relationship t →
    (c.removeEdge table source target relationship).stored t' = c.stored t'
  merged : ∀ snap : Snapshot,
    (∀ e ∈ snap.edges, Names table e.sourceUUID e.targetUUID e.relationshipType t) →
    (c.mergeSnapshot table snap).stored t' = c.stored t'

/-! ## What a mutation does to other keys -/

theorem addEdge_edges_of_ne {c : GraphCRDT} {source target relationship : String} {t : Triple}
    (names : Names table source target relationship t) {k : String} (other : t.key ≠ k) :
    (c.addEdge table source target relationship).edges[k]? = c.edges[k]? := by
  unfold GraphCRDT.addEdge
  rw [names]
  dsimp only
  rw [Std.ExtTreeMap.getElem?_insert, if_neg]
  exact fun same => other (Std.LawfulEqCmp.compare_eq_iff_eq.mp same)

theorem removeEdge_edges_of_ne {c : GraphCRDT} {source target relationship : String} {t : Triple}
    (names : Names table source target relationship t) {k : String} (other : t.key ≠ k) :
    (c.removeEdge table source target relationship).edges[k]? = c.edges[k]? := by
  unfold GraphCRDT.removeEdge
  rw [names]
  dsimp only
  rw [Std.ExtTreeMap.getElem?_insert, if_neg]
  exact fun same => other (Std.LawfulEqCmp.compare_eq_iff_eq.mp same)

theorem joinEdgeLocked_of_ne (edges : EdgeMap) (remote : Edge) {k : String}
    (other : remote.key ≠ k) : (joinEdgeLocked edges remote).1[k]? = edges[k]? := by
  have differs : ¬compare remote.key k = .eq := fun same =>
    other (Std.LawfulEqCmp.compare_eq_iff_eq.mp same)
  unfold joinEdgeLocked
  cases edges[remote.key]? with
  | none => exact (Std.ExtTreeMap.getElem?_insert ..).trans (if_neg differs)
  | some local_ => exact (Std.ExtTreeMap.getElem?_insert ..).trans (if_neg differs)

/-- A wire edge that normalises to `t` is filed under the key of `t`, or skipped. -/
theorem ingestEdge_of_ne (acc : EdgeMap × MergeReport) (e : Edge) {t : Triple}
    (names : Names table e.sourceUUID e.targetUUID e.relationshipType t) {k : String}
    (other : t.key ≠ k) : (ingestEdge table acc e).1[k]? = acc.1[k]? := by
  obtain ⟨source, target, relationship, -⟩ := normalizeEdge_some names
  unfold ingestEdge
  dsimp only
  split
  next => rfl
  next =>
    refine joinEdgeLocked_of_ne acc.1 _ fun same => other ?_
    rw [← same, Triple.key, source, target, relationship]
    rfl

theorem foldl_ingestEdge_of_ne (l : List Edge) (acc : EdgeMap × MergeReport) {t : Triple}
    (names : ∀ e ∈ l, Names table e.sourceUUID e.targetUUID e.relationshipType t) {k : String}
    (other : t.key ≠ k) : (l.foldl (ingestEdge table) acc).1[k]? = acc.1[k]? := by
  induction l generalizing acc with
  | nil => rfl
  | cons e rest ih =>
    rw [List.foldl_cons, ih _ fun f member => names f (List.mem_cons_of_mem e member)]
    exact ingestEdge_of_ne acc e (names e List.mem_cons_self) other

theorem apart_of_key_ne (c : GraphCRDT) {t t' : Triple} (differ : t.key ≠ t'.key) :
    Apart table c t t' where
  unshared := by
    rintro ⟨k, e, -, same, same'⟩
    exact differ (same.symm.trans same')
  added source target relationship names := by
    unfold GraphCRDT.stored
    rw [addEdge_edges_of_ne names differ]
  removed source target relationship names := by
    unfold GraphCRDT.stored
    rw [removeEdge_edges_of_ne names differ]
  merged snap names := by
    have kept := foldl_ingestEdge_of_ne snap.edges
      (c.edges, (snap.vertices.foldl ingestVertex (c.vertices, {})).2) names differ
    exact congrArg (Option.map _) kept

/-- Two normalised triples stay apart on every replica, whatever mutations and
snapshots brought it about, exactly when they are not cut into the same pieces. -/
theorem edges_apart_iff (table : CaseTable) (t t' : Triple) (normal : t.Normal table) :
    (∀ (generated clientID : String) (initialClock : Int) (actions : List Action),
        Apart table ((newGraphCRDT generated clientID initialClock).acts table actions) t t') ↔
      t.pieces ≠ t'.pieces := by
  rw [Ne, ← Triple.key_eq_iff]
  constructor
  · intro apart same
    have shared := (apart "" "" 0 [.addEdge t.source t.target t.relationship]).unshared
    refine shared ⟨t.key, ?_⟩
    unfold GraphCRDT.acts
    rw [List.foldl_cons, List.foldl_nil, GraphCRDT.act, GraphCRDT.addEdge, normal]
    exact ⟨_, Std.ExtTreeMap.getElem?_insert_self, rfl, same⟩
  · intro differ generated clientID initialClock actions
    exact apart_of_key_ne _ differ

/-- Feeding a plant section and its pump are two edges. -/
theorem edges_apart_plain :
    (⟨"pump", "FEEDS", "manifold"⟩ : Triple).Normal asciiCase ∧
      ∀ (generated clientID : String) (initialClock : Int) (actions : List Action),
        Apart asciiCase ((newGraphCRDT generated clientID initialClock).acts asciiCase actions)
          ⟨"pump", "FEEDS", "manifold"⟩ ⟨"pump", "CONTROLS", "manifold"⟩ :=
  ⟨by decide +kernel,
    (edges_apart_iff asciiCase ⟨"pump", "FEEDS", "manifold"⟩ ⟨"pump", "CONTROLS", "manifold"⟩
      (by decide +kernel)).mpr (by decide +kernel)⟩

/-- A separator moves from the relationship to the source. -/
theorem edges_not_apart :
    ¬∀ t t' : Triple, t.Normal asciiCase → t'.Normal asciiCase → t ≠ t' →
      ∀ (generated clientID : String) (initialClock : Int) (actions : List Action),
        Apart asciiCase ((newGraphCRDT generated clientID initialClock).acts asciiCase actions)
          t t' := by
  intro apart
  have added := (apart ⟨"a", "B\u001fC", "d"⟩ ⟨"a\u001fB", "C", "d"⟩ (by decide +kernel)
    (by decide +kernel) (by decide) "replica-0" "edge-1" 0 []).added "a" "d" "B\u001fC"
    (by unfold Names; decide +kernel)
  exact absurd added (by decide +kernel)

end OpenOntology.Crdt
