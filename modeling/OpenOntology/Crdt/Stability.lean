import OpenOntology.Crdt.Cascade
import OpenOntology.Crdt.Reconcile

/-!
# Compaction below the watermark

`Compact` forgets tombstones. A replica that has forgotten one and a replica that has not
show the same from then on, as long as every snapshot they take in that knows the element
knows its removal, too. The compacted replica runs beside the full one, and under every key
the full entry is the compacted one with the tombstone joined in.
-/
namespace OpenOntology.Crdt
open Library

variable {table : CaseTable}

namespace GraphCRDT

/-- The vertices that count as present, in the order of their ids. -/
def liveVertices (c : GraphCRDT) : List Vertex :=
  ((c.vertices.toList.map Prod.snd).filter fun vertex => vertex.live).mergeSort
    fun a b => a.uuid ≤ b.uuid

end GraphCRDT

/-- Ids and properties of the live vertices, and components of the live edges. -/
def SameView (c d : GraphCRDT) : Prop :=
  (c.liveVertices.map fun v => (v.uuid, v.properties)) =
      (d.liveVertices.map fun v => (v.uuid, v.properties)) ∧
    c.liveEdges.map Edge.triple = d.liveEdges.map Edge.triple

/-! ## Timelines -/

theorem timestamp_le_of_key_le {w w' : WriteStamp} (le : w.key ≤ w'.key) :
    w.timestamp ≤ w'.timestamp := by
  unfold WriteStamp.key at le
  rw [Prod.Lex.toLex_le_toLex] at le
  rcases le with less | ⟨same, -⟩
  · exact less.le
  · exact same.le

/-- The dominant write carries the highest stamp. -/
theorem dominantWrite_timestamp (t : Timeline) :
    (dominantWrite t).timestamp = highestStamp t := by
  apply le_antisymm
  · rcases dominantWrite_held t with zero | held
    · rw [zero]
      exact highestStamp_nonneg t
    · exact le_highestStamp t _ _ held
  · rw [highestStamp_le_iff]
    refine ⟨timestamp_le_of_key_le (zero_le_dominantWrite t), ?_⟩
    intro c s held
    exact timestamp_le_of_key_le (le_dominantWrite t c s held)

/-- A timeline that says what two others say has the greater of their dominant writes. -/
theorem dominantWrite_of_sup {whole part gone : Timeline}
    (sum : valueAt whole = valueAt part ⊔ valueAt gone) :
    (dominantWrite whole).key = (dominantWrite part).key ⊔ (dominantWrite gone).key := by
  have merged : whole = (mergeTimelineInto part gone).1 := by
    apply ext_valueAt
    intro c
    rw [valueAt_mergeTimelineInto, sum]
    rfl
  rw [merged, dominantWrite_mergeTimelineInto]

theorem highestStamp_of_sup {whole part gone : Timeline}
    (sum : valueAt whole = valueAt part ⊔ valueAt gone) :
    highestStamp whole = max (highestStamp part) (highestStamp gone) := by
  have dominant := dominantWrite_of_sup sum
  simp only [← dominantWrite_timestamp]
  rcases le_total (dominantWrite part).key (dominantWrite gone).key with below | above
  · rw [sup_eq_right.mpr below] at dominant
    rw [WriteStamp.key_injective dominant, max_eq_right (timestamp_le_of_key_le below)]
  · rw [sup_eq_left.mpr above] at dominant
    rw [WriteStamp.key_injective dominant, max_eq_left (timestamp_le_of_key_le above)]

/-- A timeline that is nowhere behind another has no lower highest stamp. -/
theorem highestStamp_mono {t t' : Timeline} (below : ∀ c, valueAt t c ≤ valueAt t' c) :
    highestStamp t ≤ highestStamp t' := by
  have sum : valueAt t' = valueAt t' ⊔ valueAt t := (sup_eq_left.mpr below).symm
  rw [highestStamp_of_sup sum]
  exact le_max_right _ _

/-- A stamp that is not behind is joined in. -/
theorem valueAt_insert_sup {t : Timeline} {bound stamp : Int} (below : StampsBelow bound t)
    (ahead : bound ≤ stamp) (clientID : String) :
    valueAt (t.insert clientID stamp) =
      valueAt t ⊔ Function.update ⊥ clientID (stamp : WithBot Int) := by
  funext c
  rw [valueAt_insert, Pi.sup_apply]
  by_cases same : clientID = c
  · subst same
    rw [if_pos rfl, Function.update_self, eq_comm, sup_eq_right, valueAt_le_iff]
    intro s held
    exact WithBot.coe_le_coe.mpr ((below clientID s held).trans ahead)
  · rw [if_neg same, Function.update_of_ne (Ne.symm same)]
    exact (sup_bot_eq _).symm

/-! ## Entries over a tombstone -/

/-- A dropped removal is behind what the compacted entry shows: a removal that is not older,
or an assertion that is newer. -/
def Settled (goneRemove add remove : Timeline) : Prop :=
  highestStamp goneRemove ≤ highestStamp remove ∨ highestStamp goneRemove < highestStamp add

section
variable {add₀ remove₀ add remove add' remove' : Timeline}

theorem highest_of_marks (sum : marks add remove = marks add' remove' ⊔ marks add₀ remove₀) :
    highestStamp add = max (highestStamp add') (highestStamp add₀) ∧
      highestStamp remove = max (highestStamp remove') (highestStamp remove₀) :=
  ⟨highestStamp_of_sup (congrArg Prod.fst sum), highestStamp_of_sup (congrArg Prod.snd sum)⟩

/-- A tombstone under an entry does not decide whether it is live. -/
theorem live_over_tombstone (dead : highestStamp add₀ ≤ highestStamp remove₀)
    (sum : marks add remove = marks add' remove' ⊔ marks add₀ remove₀)
    (settled : Settled remove₀ add' remove') :
    highestStamp add > highestStamp remove ↔ highestStamp add' > highestStamp remove' := by
  obtain ⟨adds, removes⟩ := highest_of_marks sum
  unfold Settled at settled
  omega

theorem Settled.merge (settled : Settled remove₀ add remove) (add' remove' : Timeline) :
    Settled remove₀ (mergeTimelineInto add add').1 (mergeTimelineInto remove remove').1 := by
  obtain ⟨adds, removes⟩ := highest_of_marks (marks_mergeTimelineInto add remove add' remove')
  unfold Settled at settled ⊢
  omega

theorem marks_assert {bound stamp : Int} (below : StampsBelow bound add) (ahead : bound ≤ stamp)
    (clientID : String) : marks (add.insert clientID stamp) remove =
      marks add remove ⊔ (Function.update ⊥ clientID (stamp : WithBot Int), ⊥) :=
  Prod.ext (valueAt_insert_sup below ahead clientID) (sup_bot_eq _).symm

theorem marks_retire {bound stamp : Int} (below : StampsBelow bound remove) (ahead : bound ≤ stamp)
    (clientID : String) : marks add (remove.insert clientID stamp) =
      marks add remove ⊔ (⊥, Function.update ⊥ clientID (stamp : WithBot Int)) :=
  Prod.ext (sup_bot_eq _).symm (valueAt_insert_sup below ahead clientID)

/-- A new assertion goes on both sides of the equation. -/
theorem assert_over {bound stamp : Int}
    (sum : marks add remove = marks add' remove' ⊔ marks add₀ remove₀)
    (below : StampsBelow bound add) (below' : StampsBelow bound add') (ahead : bound ≤ stamp)
    (clientID : String) :
    marks (add.insert clientID stamp) remove =
      marks (add'.insert clientID stamp) remove' ⊔ marks add₀ remove₀ := by
  rw [marks_assert below ahead, marks_assert below' ahead, sum, sup_right_comm]

theorem retire_over {bound stamp : Int}
    (sum : marks add remove = marks add' remove' ⊔ marks add₀ remove₀)
    (below : StampsBelow bound remove) (below' : StampsBelow bound remove') (ahead : bound ≤ stamp)
    (clientID : String) :
    marks add (remove.insert clientID stamp) =
      marks add' (remove'.insert clientID stamp) ⊔ marks add₀ remove₀ := by
  rw [marks_retire below ahead, marks_retire below' ahead, sum, sup_right_comm]

end

/-! ## A vertex on both replicas -/

/-- The full entry is the compacted one with the tombstone under it. A payload that shows is
the payload of the compacted entry. -/
structure VertexOver (gone whole part : Vertex) : Prop where
  marks : whole.marks = part.marks ⊔ gone.marks
  payload : highestStamp gone.removeTimeline < highestStamp part.addTimeline →
    part.properties = whole.properties

/-- What the full and the compacted replica hold under one id, beside what was dropped. -/
inductive VertexMatch (u : String) : Option Vertex → Option Vertex → Option Vertex → Prop
  | kept (held : Option Vertex) : VertexMatch u none held held
  | forgotten {gone whole : Vertex} (marks : whole.marks = gone.marks) :
    VertexMatch u (some gone) (some whole) none
  | renewed {gone whole part : Vertex} (above : VertexOver gone whole part)
    (settled : Settled gone.removeTimeline part.addTimeline part.removeTimeline) :
    VertexMatch u (some gone) (some whole) (some part)

section
variable {gone whole part : Vertex}

theorem Vertex.dead_iff (v : Vertex) :
    v.live = false ↔ highestStamp v.addTimeline ≤ highestStamp v.removeTimeline := by
  unfold Vertex.live
  simp

theorem marks_fresh (u : String) : ({ uuid := u } : Vertex).marks = ⊥ :=
  (marks_eq_bot_iff _ _).mpr ⟨Std.ExtTreeMap.size_empty, Std.ExtTreeMap.size_empty⟩

theorem highestStamp_empty : highestStamp ∅ = 0 :=
  le_antisymm ((stampsBelow_empty 0).highestStamp_le le_rfl) (highestStamp_nonneg ∅)

/-- A forgotten entry is over a new one, which says nothing yet. -/
theorem VertexOver.of_forgotten (u : String) (marks : whole.marks = gone.marks) :
    VertexOver gone whole { uuid := u } where
  marks := by rw [marks_fresh, bot_sup_eq, marks]
  payload above := by
    have nonneg := highestStamp_nonneg gone.removeTimeline
    rw [show ({ uuid := u } : Vertex).addTimeline = ∅ from rfl, highestStamp_empty] at above
    omega

/-- The entry that a mutation starts from. -/
theorem VertexMatch.getD {u : String} {held held' : Option Vertex}
    (alike : VertexMatch u (some gone) held held') :
    VertexOver gone (held.getD { uuid := u }) (held'.getD { uuid := u }) := by
  cases alike with
  | forgotten marks => exact VertexOver.of_forgotten u marks
  | renewed above settled => exact above

theorem rank_lt_of_highestStamp {v w : Vertex}
    (less : highestStamp v.addTimeline < highestStamp w.addTimeline) : v.rank < w.rank := by
  rw [Vertex.rank_lt_iff]
  refine Or.inl (lt_of_not_ge fun above => ?_)
  have stamps := timestamp_le_of_key_le above
  rw [dominantWrite_timestamp, dominantWrite_timestamp] at stamps
  omega

/-- Both replicas take the same payload from a remote entry, if it shows. -/
theorem VertexOver.absorb (dead : gone.live = false) (above : VertexOver gone whole part)
    (remote : Vertex) :
    VertexOver gone (Crdt.absorb (some whole) remote) (Crdt.absorb (some part) remote) where
  marks := by rw [absorb_marks, absorb_marks, above.marks, sup_right_comm]
  payload shows := by
    rw [Vertex.dead_iff] at dead
    obtain ⟨wholeAdds, -⟩ := highest_of_marks above.marks
    obtain ⟨partAdds, -⟩ := highest_of_marks (absorb_marks part remote)
    rw [partAdds] at shows
    rw [(absorb_rank whole remote).2, (absorb_rank part remote).2]
    by_cases own : highestStamp gone.removeTimeline < highestStamp part.addTimeline
    · have properties := above.payload own
      have dominant := dominantWrite_of_sup (congrArg Prod.fst above.marks)
      have behind : (dominantWrite gone.addTimeline).key ≤ (dominantWrite part.addTimeline).key := by
        by_contra ahead
        have stamps := timestamp_le_of_key_le (not_le.mp ahead).le
        rw [dominantWrite_timestamp, dominantWrite_timestamp] at stamps
        omega
      rw [sup_eq_left.mpr behind] at dominant
      have rank : part.rank = whole.rank := by
        unfold Vertex.rank
        rw [properties, dominant]
      rw [rank, properties]
    · rw [if_pos (rank_lt_of_highestStamp (by omega)), if_pos (rank_lt_of_highestStamp (by omega))]

theorem absorb_of_forgotten (dead : gone.live = false) (marks : whole.marks = gone.marks)
    (remote : Vertex) : VertexOver gone (Crdt.absorb (some whole) remote) remote where
  marks := by rw [absorb_marks, marks, sup_comm]
  payload shows := by
    rw [Vertex.dead_iff] at dead
    have sum : whole.marks = gone.marks ⊔ gone.marks := by rw [marks, sup_idem]
    obtain ⟨adds, -⟩ := highest_of_marks sum
    rw [(absorb_rank whole remote).2, if_pos (rank_lt_of_highestStamp (by omega))]

/-- A remote entry that knows the removal is taken in alike. -/
theorem VertexMatch.absorb {u : String} {dropped held held' : Option Vertex}
    (dead : ∀ v, dropped = some v → v.live = false) (alike : VertexMatch u dropped held held')
    (remote : Vertex)
    (knows : ∀ v, dropped = some v →
      highestStamp v.removeTimeline ≤ highestStamp remote.removeTimeline) :
    VertexMatch u dropped (some (Crdt.absorb held remote)) (some (Crdt.absorb held' remote)) := by
  cases alike with
  | kept => exact .kept _
  | forgotten marks =>
    exact .renewed (absorb_of_forgotten (dead _ rfl) marks remote) (Or.inl (knows _ rfl))
  | renewed above settled =>
    exact .renewed (above.absorb (dead _ rfl) remote) (settled.merge _ _)

/-- An assertion that is newer than everything both replicas hold. -/
theorem VertexMatch.assert {u : String} {dropped held held' : Option Vertex} {clock stamp : Int}
    (alike : VertexMatch u dropped held held')
    (below : StampsBelow clock (held.getD { uuid := u }).addTimeline ∧
      StampsBelow clock (held.getD { uuid := u }).removeTimeline)
    (below' : StampsBelow clock (held'.getD { uuid := u }).addTimeline) (nonneg : 0 ≤ clock)
    (ahead : clock < stamp) (clientID : String) (props : Properties) :
    VertexMatch u dropped
      (some { held.getD { uuid := u } with
        addTimeline := (held.getD { uuid := u }).addTimeline.insert clientID stamp
        properties := props })
      (some { held'.getD { uuid := u } with
        addTimeline := (held'.getD { uuid := u }).addTimeline.insert clientID stamp
        properties := props }) := by
  cases dropped with
  | none =>
    cases alike
    exact .kept _
  | some gone =>
    have above := alike.getD
    revert above below below'
    generalize held.getD { uuid := u } = whole
    generalize held'.getD { uuid := u } = part
    intro below below' above
    obtain ⟨-, removes⟩ := highest_of_marks above.marks
    have ceiling := below.2.highestStamp_le nonneg
    have newest := highestStamp_insert below' nonneg ahead clientID
    refine .renewed ⟨assert_over above.marks below.1 below' ahead.le clientID, fun _ => rfl⟩
      (Or.inr ?_)
    dsimp only
    omega

/-- A removal that is newer than everything both replicas hold. -/
theorem VertexMatch.retire {u : String} {dropped held held' : Option Vertex} {clock stamp : Int}
    (alike : VertexMatch u dropped held held')
    (below : StampsBelow clock (held.getD { uuid := u }).removeTimeline)
    (below' : StampsBelow clock (held'.getD { uuid := u }).removeTimeline) (nonneg : 0 ≤ clock)
    (ahead : clock < stamp) (clientID : String) :
    VertexMatch u dropped
      (some { held.getD { uuid := u } with
        removeTimeline := (held.getD { uuid := u }).removeTimeline.insert clientID stamp })
      (some { held'.getD { uuid := u } with
        removeTimeline := (held'.getD { uuid := u }).removeTimeline.insert clientID stamp }) := by
  cases dropped with
  | none =>
    cases alike
    exact .kept _
  | some gone =>
    have above := alike.getD
    revert above below below'
    generalize held.getD { uuid := u } = whole
    generalize held'.getD { uuid := u } = part
    intro below below' above
    obtain ⟨-, removes⟩ := highest_of_marks above.marks
    have ceiling := below.highestStamp_le nonneg
    have newest := highestStamp_insert below' nonneg ahead clientID
    refine .renewed ⟨retire_over above.marks below below' ahead.le clientID, above.payload⟩
      (Or.inl ?_)
    dsimp only
    omega

theorem VertexMatch.shown {u : String} {dropped held held' : Option Vertex}
    (dead : ∀ v, dropped = some v → v.live = false) (alike : VertexMatch u dropped held held') :
    (held.filter Vertex.live).map Vertex.properties =
      (held'.filter Vertex.live).map Vertex.properties := by
  cases alike with
  | kept => rfl
  | @forgotten gone whole marks =>
    have removed := (Vertex.dead_iff gone).mp (dead _ rfl)
    obtain ⟨adds, removes⟩ := highest_of_marks (marks.trans (sup_idem gone.marks).symm)
    have still : whole.live = false := (Vertex.dead_iff whole).mpr (by omega)
    simp [still]
  | @renewed gone whole part above settled =>
    have removed := (Vertex.dead_iff gone).mp (dead _ rfl)
    have live : whole.live = part.live :=
      decide_eq_decide.mpr (live_over_tombstone removed above.marks settled)
    rw [Option.filter_some, Option.filter_some, live]
    cases shows : part.live with
    | false => rfl
    | true =>
      have newer := of_decide_eq_true shows
      have payload := above.payload (by unfold Settled at settled; omega)
      exact congrArg some payload.symm

/-! ## An edge on both replicas -/

/-- The edge under a key, when the dropped one named the same components. -/
inductive EdgeMatch : Option Edge → Option Edge → Option Edge → Prop
  | kept (held : Option Edge) : EdgeMatch none held held
  | forgotten {gone whole : Edge} (marks : whole.marks = gone.marks)
    (triple : whole.triple = gone.triple) : EdgeMatch (some gone) (some whole) none
  | renewed {gone whole part : Edge} (marks : whole.marks = part.marks ⊔ gone.marks)
    (triple : whole.triple = gone.triple) (triple' : part.triple = gone.triple)
    (settled : Settled gone.removeTimeline part.addTimeline part.removeTimeline) :
    EdgeMatch (some gone) (some whole) (some part)

def absorbEdge (held : Option Edge) (remote : Edge) : Edge :=
  match held with
  | none => remote
  | some local_ =>
    { local_ with
      addTimeline := (mergeTimelineInto local_.addTimeline remote.addTimeline).1
      removeTimeline := (mergeTimelineInto local_.removeTimeline remote.removeTimeline).1 }

theorem joinEdgeLocked_getElem? (edges : EdgeMap) (remote : Edge) (k : String) :
    (joinEdgeLocked edges remote).1[k]? =
      if remote.key = k then some (absorbEdge edges[k]? remote) else edges[k]? := by
  by_cases same : remote.key = k
  · subst same
    rw [if_pos rfl]
    unfold joinEdgeLocked absorbEdge
    cases edges[remote.key]? with
    | none => exact Std.ExtTreeMap.getElem?_insert_self
    | some local_ => exact Std.ExtTreeMap.getElem?_insert_self
  · rw [if_neg same]
    exact joinEdgeLocked_of_ne edges remote same

theorem Edge.dead_iff (e : Edge) :
    e.live = false ↔ highestStamp e.addTimeline ≤ highestStamp e.removeTimeline := by
  unfold Edge.live
  simp

theorem absorbEdge_marks (local_ remote : Edge) :
    (absorbEdge (some local_) remote).marks = local_.marks ⊔ remote.marks :=
  marks_mergeTimelineInto local_.addTimeline local_.removeTimeline remote.addTimeline
    remote.removeTimeline

theorem EdgeMatch.absorb {dropped held held' : Option Edge} (alike : EdgeMatch dropped held held')
    (remote : Edge)
    (knows : ∀ e, dropped = some e → remote.triple = e.triple ∧
      highestStamp e.removeTimeline ≤ highestStamp remote.removeTimeline) :
    EdgeMatch dropped (some (absorbEdge held remote)) (some (absorbEdge held' remote)) := by
  cases alike with
  | kept => exact .kept _
  | forgotten marks triple =>
    obtain ⟨same, later⟩ := knows _ rfl
    refine .renewed ?_ triple same (Or.inl later)
    rw [absorbEdge_marks, marks, sup_comm]
    rfl
  | renewed marks triple triple' settled =>
    refine .renewed ?_ triple triple' (settled.merge _ _)
    rw [absorbEdge_marks, absorbEdge_marks, marks, sup_right_comm]

/-- The components of an edge without its timelines. -/
def Triple.fresh (t : Triple) : Edge :=
  { sourceUUID := t.source, targetUUID := t.target, relationshipType := t.relationship }

/-- What the two replicas start a mutation of the edge from. -/
theorem EdgeMatch.getD {gone : Edge} {held held' : Option Edge}
    (alike : EdgeMatch (some gone) held held') {t : Triple} (same : t = gone.triple) :
    (held.getD t.fresh).marks = (held'.getD t.fresh).marks ⊔ gone.marks ∧
      (held.getD t.fresh).triple = gone.triple ∧ (held'.getD t.fresh).triple = gone.triple := by
  cases alike with
  | forgotten marks triple =>
    have blank : t.fresh.marks = ⊥ :=
      (marks_eq_bot_iff _ _).mpr ⟨Std.ExtTreeMap.size_empty, Std.ExtTreeMap.size_empty⟩
    refine ⟨?_, triple, same⟩
    change _ = t.fresh.marks ⊔ gone.marks
    rw [blank, bot_sup_eq]
    exact marks
  | renewed marks triple triple' settled => exact ⟨marks, triple, triple'⟩

theorem EdgeMatch.assert {dropped held held' : Option Edge} {clock stamp : Int}
    (alike : EdgeMatch dropped held held') {t : Triple}
    (same : ∀ e, dropped = some e → t = e.triple)
    (below : StampsBelow clock (held.getD t.fresh).addTimeline ∧
      StampsBelow clock (held.getD t.fresh).removeTimeline)
    (below' : StampsBelow clock (held'.getD t.fresh).addTimeline) (nonneg : 0 ≤ clock)
    (ahead : clock < stamp) (clientID : String) :
    EdgeMatch dropped
      (some { held.getD t.fresh with
        addTimeline := (held.getD t.fresh).addTimeline.insert clientID stamp })
      (some { held'.getD t.fresh with
        addTimeline := (held'.getD t.fresh).addTimeline.insert clientID stamp }) := by
  cases dropped with
  | none =>
    cases alike
    exact .kept _
  | some gone =>
    have above := alike.getD (same gone rfl)
    revert above below below'
    generalize held.getD t.fresh = whole
    generalize held'.getD t.fresh = part
    intro below below' above
    obtain ⟨marks, triple, triple'⟩ := above
    obtain ⟨-, removes⟩ := highest_of_marks marks
    have ceiling := below.2.highestStamp_le nonneg
    have newest := highestStamp_insert below' nonneg ahead clientID
    refine .renewed (assert_over marks below.1 below' ahead.le clientID) triple triple' (Or.inr ?_)
    dsimp only
    omega

theorem EdgeMatch.retire {dropped held held' : Option Edge} {clock stamp : Int}
    (alike : EdgeMatch dropped held held') {t : Triple}
    (same : ∀ e, dropped = some e → t = e.triple)
    (below : StampsBelow clock (held.getD t.fresh).removeTimeline)
    (below' : StampsBelow clock (held'.getD t.fresh).removeTimeline) (nonneg : 0 ≤ clock)
    (ahead : clock < stamp) (clientID : String) :
    EdgeMatch dropped
      (some { held.getD t.fresh with
        removeTimeline := (held.getD t.fresh).removeTimeline.insert clientID stamp })
      (some { held'.getD t.fresh with
        removeTimeline := (held'.getD t.fresh).removeTimeline.insert clientID stamp }) := by
  cases dropped with
  | none =>
    cases alike
    exact .kept _
  | some gone =>
    have above := alike.getD (same gone rfl)
    revert above below below'
    generalize held.getD t.fresh = whole
    generalize held'.getD t.fresh = part
    intro below below' above
    obtain ⟨marks, triple, triple'⟩ := above
    obtain ⟨-, removes⟩ := highest_of_marks marks
    have ceiling := below.highestStamp_le nonneg
    have newest := highestStamp_insert below' nonneg ahead clientID
    refine .renewed (retire_over marks below below' ahead.le clientID) triple triple' (Or.inl ?_)
    dsimp only
    omega

theorem live_of_renewed {gone whole part : Edge} (dead : gone.live = false)
    (marks : whole.marks = part.marks ⊔ gone.marks)
    (settled : Settled gone.removeTimeline part.addTimeline part.removeTimeline) :
    whole.live = part.live :=
  decide_eq_decide.mpr (live_over_tombstone ((Edge.dead_iff gone).mp dead) marks settled)

theorem live_of_forgotten {gone whole : Edge} (dead : gone.live = false)
    (marks : whole.marks = gone.marks) : whole.live = false := by
  rw [Edge.dead_iff] at dead ⊢
  obtain ⟨adds, removes⟩ := highest_of_marks (marks.trans (sup_idem gone.marks).symm)
  omega

/-- The cascade of a removal stamps the edge on both replicas or on none. -/
theorem EdgeMatch.cascade {dropped held held' : Option Edge} {clock stamp : Int}
    (dead : ∀ e, dropped = some e → e.live = false) (alike : EdgeMatch dropped held held')
    (below : ∀ e, held = some e → StampsBelow clock e.removeTimeline)
    (below' : ∀ e, held' = some e → StampsBelow clock e.removeTimeline)
    (nonneg : 0 ≤ clock) (ahead : clock < stamp) (clientID removed : String) :
    EdgeMatch dropped (held.map (GraphCRDT.cascade clientID removed stamp))
      (held'.map (GraphCRDT.cascade clientID removed stamp)) := by
  cases alike with
  | kept => exact .kept _
  | @forgotten gone whole marks triple =>
    have still := live_of_forgotten (dead gone rfl) marks
    have spared : GraphCRDT.cascades removed whole = false := by
      unfold GraphCRDT.cascades
      rw [still, Bool.and_false]
    rw [Option.map_some, cascade_eq, if_neg (by rw [spared]; exact Bool.false_ne_true)]
    exact .forgotten marks triple
  | @renewed gone whole part marks triple triple' settled =>
    have live := live_of_renewed (dead gone rfl) marks settled
    have source : whole.sourceUUID = part.sourceUUID :=
      congrArg Triple.source (triple.trans triple'.symm)
    have target : whole.targetUUID = part.targetUUID :=
      congrArg Triple.target (triple.trans triple'.symm)
    have together : GraphCRDT.cascades removed whole = GraphCRDT.cascades removed part := by
      unfold GraphCRDT.cascades
      rw [live, source, target]
    rw [Option.map_some, Option.map_some, cascade_eq, cascade_eq, together]
    cases GraphCRDT.cascades removed part with
    | false => exact .renewed marks triple triple' settled
    | true =>
      obtain ⟨-, removes⟩ := highest_of_marks marks
      have ceiling := (below whole rfl).highestStamp_le nonneg
      have newest := highestStamp_insert (below' part rfl) nonneg ahead clientID
      refine .renewed (retire_over marks (below whole rfl) (below' part rfl) ahead.le clientID)
        triple triple' (Or.inl ?_)
      change _ ≤ highestStamp (part.removeTimeline.insert clientID stamp)
      omega

theorem EdgeMatch.shown {dropped held held' : Option Edge}
    (dead : ∀ e, dropped = some e → e.live = false) (alike : EdgeMatch dropped held held') :
    (held.filter Edge.live).map Edge.triple = (held'.filter Edge.live).map Edge.triple := by
  cases alike with
  | kept => rfl
  | @forgotten gone whole marks triple =>
    have still := live_of_forgotten (dead gone rfl) marks
    simp [still]
  | @renewed gone whole part marks triple triple' settled =>
    rw [Option.filter_some, Option.filter_some, live_of_renewed (dead gone rfl) marks settled]
    cases part.live with
    | false => rfl
    | true => exact congrArg some (triple.trans triple'.symm)

end

/-! ## Two replicas side by side -/

/-- What a compaction drops, key by key. -/
structure Tombstones where
  vertices : String → Option Vertex
  edges : String → Option Edge
  vertices_dead : ∀ u v, vertices u = some v → v.live = false
  edges_dead : ∀ k e, edges k = some e → e.live = false

/-- The entry of a map that its filtered map has no more. -/
def droppedFrom {α : Type} (m kept : Std.ExtTreeMap String α) (k : String) : Option α :=
  match kept[k]? with
  | some _ => none
  | none => m[k]?

theorem stored_of_dropped {α : Type} {m kept : Std.ExtTreeMap String α} {k : String} {a : α}
    (dropped : droppedFrom m kept k = some a) : m[k]? = some a ∧ kept[k]? = none := by
  unfold droppedFrom at dropped
  cases found : kept[k]? with
  | some b =>
    rw [found] at dropped
    cases dropped
  | none =>
    rw [found] at dropped
    exact ⟨dropped, rfl⟩

theorem kept_of_not_dropped {α : Type} {m kept : Std.ExtTreeMap String α} {k : String}
    (part : ∀ a, kept[k]? = some a → m[k]? = some a) (spared : droppedFrom m kept k = none) :
    kept[k]? = m[k]? := by
  unfold droppedFrom at spared
  cases found : kept[k]? with
  | some a => exact (part a found).symm
  | none =>
    rw [found] at spared
    exact spared.symm

/-- A filter drops only what does not pass. -/
theorem refused_of_filter {α : Type} {m : Std.ExtTreeMap String α} {keep : α → Bool} {k : String}
    {a : α} (stored : m[k]? = some a) (gone : (m.filter fun _ a => keep a)[k]? = none) :
    keep a = false := by
  rw [Std.ExtTreeMap.getElem?_filter', stored] at gone
  simpa using gone

theorem dead_of_settled {live : Bool} {removeTimeline : Timeline} {stableBefore : Int}
    (dropped : (!GraphCRDT.settled live removeTimeline stableBefore) = false) : live = false := by
  unfold GraphCRDT.settled at dropped
  cases live with
  | false => rfl
  | true => cases dropped

theorem dead_of_compact {c : GraphCRDT} {stableBefore : Int} :
    (∀ {u : String} {v : Vertex}, c.vertices[u]? = some v →
        (c.compact stableBefore).1.vertices[u]? = none → v.live = false) ∧
      ∀ {k : String} {e : Edge}, c.edges[k]? = some e →
        (c.compact stableBefore).1.edges[k]? = none → e.live = false := by
  unfold GraphCRDT.compact
  split
  next =>
    constructor
    · intro u v stored gone
      cases stored.symm.trans gone
    · intro k e stored gone
      cases stored.symm.trans gone
  next =>
    constructor
    · intro u v stored gone
      have refused := refused_of_filter stored gone
      exact dead_of_settled refused
    · intro k e stored gone
      have refused := refused_of_filter stored gone
      exact dead_of_settled refused

def GraphCRDT.tombstones (c : GraphCRDT) (stableBefore : Int) : Tombstones where
  vertices := droppedFrom c.vertices (c.compact stableBefore).1.vertices
  edges := droppedFrom c.edges (c.compact stableBefore).1.edges
  vertices_dead u v dropped := by
    obtain ⟨stored, gone⟩ := stored_of_dropped dropped
    exact dead_of_compact.1 stored gone
  edges_dead k e dropped := by
    obtain ⟨stored, gone⟩ := stored_of_dropped dropped
    exact dead_of_compact.2 stored gone

/-- The full replica `c` and the compacted replica `d`. -/
structure Mirrors (dropped : Tombstones) (c d : GraphCRDT) : Prop where
  clientID : d.clientID = c.clientID
  clock : d.lamportClock = c.lamportClock
  vertices : ∀ u : String, VertexMatch u (dropped.vertices u) c.vertices[u]? d.vertices[u]?
  edges : ∀ k : String, EdgeMatch (dropped.edges k) c.edges[k]? d.edges[k]?

theorem mirrors_compact (c : GraphCRDT) (stableBefore : Int) :
    Mirrors (c.tombstones stableBefore) c (c.compact stableBefore).1 where
  clientID := (compact_clock c stableBefore).2
  clock := (compact_clock c stableBefore).1
  vertices u := by
    cases dropped : (c.tombstones stableBefore).vertices u with
    | none =>
      rw [kept_of_not_dropped (fun _ held => stored_of_compact.1 held) dropped]
      exact .kept _
    | some v =>
      obtain ⟨stored, gone⟩ := stored_of_dropped dropped
      rw [stored, gone]
      exact .forgotten rfl
  edges k := by
    cases dropped : (c.tombstones stableBefore).edges k with
    | none =>
      rw [kept_of_not_dropped (fun _ held => stored_of_compact.2 held) dropped]
      exact .kept _
    | some e =>
      obtain ⟨stored, gone⟩ := stored_of_dropped dropped
      rw [stored, gone]
      exact .forgotten rfl rfl

/-- Every entry a snapshot holds of something dropped knows its removal. -/
def Action.Respects (table : CaseTable) (dropped : Tombstones) : Action → Prop
  | .mergeSnapshot snap =>
    (∀ v ∈ snap.vertices, ∀ w, dropped.vertices (trimSpace v.uuid) = some w →
        ∀ r, valueAt w.removeTimeline r ≤ valueAt v.removeTimeline r) ∧
      ∀ e ∈ snap.edges, ∀ t, Names table e.sourceUUID e.targetUUID e.relationshipType t →
        ∀ f, dropped.edges t.key = some f → f.triple = t →
          ∀ r, valueAt f.removeTimeline r ≤ valueAt e.removeTimeline r
  | _ => True

/-- The triple names a dropped edge only by its own components. -/
def Tombstones.Unmistaken (dropped : Tombstones) (t : Triple) : Prop :=
  ∀ e, dropped.edges t.key = some e → t = e.triple

/-! ## One step of both replicas -/

theorem insert_alike {α : Type} {R : String → Option α → Option α → Prop}
    {m m' : Std.ExtTreeMap String α} (all : ∀ k : String, R k m[k]? m'[k]?) {k : String} {a a' : α}
    (new : R k (some a) (some a')) (j : String) : R j (m.insert k a)[j]? (m'.insert k a')[j]? := by
  rw [Std.ExtTreeMap.getElem?_insert, Std.ExtTreeMap.getElem?_insert]
  split
  next same =>
    rw [← Std.LawfulEqCmp.compare_eq_iff_eq.mp same]
    exact new
  next => exact all j

theorem EdgesBelow.getD {bound : Int} {edges : EdgeMap} (below : EdgesBelow bound edges)
    (t : Triple) (k : String) :
    StampsBelow bound (edges[k]?.getD t.fresh).addTimeline ∧
      StampsBelow bound (edges[k]?.getD t.fresh).removeTimeline := by
  cases found : edges[k]? with
  | none => exact ⟨stampsBelow_empty bound, stampsBelow_empty bound⟩
  | some e => exact below k e found

section
variable {dropped : Tombstones} {c d : GraphCRDT}

theorem Mirrors.addVertex (alike : Mirrors dropped c d) (whole : ClockDominates c)
    (part : ClockDominates d) (room : c.lamportClock < maxInt64) (id : String)
    (props : Properties) : Mirrors dropped (c.addVertex id props) (d.addVertex id props) := by
  obtain ⟨clientID, clock, vertices, edges⟩ := alike
  have nonneg := whole.nonneg
  have below := whole.vertices.getD (trimSpace id)
  have below' := (part.vertices.getD (trimSpace id)).1
  unfold GraphCRDT.addVertex
  dsimp only
  split
  next => exact ⟨clientID, clock, vertices, edges⟩
  next =>
    rw [clock] at below' ⊢
    rw [clientID, increment_of_lt _ nonneg room]
    refine ⟨rfl, rfl, insert_alike vertices ?_, edges⟩
    rw [Std.ExtTreeMap.getD_eq_getD_getElem?] at below below' ⊢
    rw [Std.ExtTreeMap.getD_eq_getD_getElem?]
    exact (vertices (trimSpace id)).assert below below' nonneg (by omega) c.clientID props

theorem Mirrors.removeVertex (alike : Mirrors dropped c d) (whole : Loadable table c)
    (part : Loadable table d) (room : c.lamportClock < maxInt64) (id : String) :
    Mirrors dropped (c.removeVertex id) (d.removeVertex id) := by
  obtain ⟨clientID, clock, vertices, edges⟩ := alike
  have nonneg := whole.clock.nonneg
  have below := (whole.clock.vertices.getD (trimSpace id)).2
  have below' := (part.clock.vertices.getD (trimSpace id)).2
  have edgesBelow' := part.stamps
  unfold GraphCRDT.removeVertex
  dsimp only
  split
  next => exact ⟨clientID, clock, vertices, edges⟩
  next =>
    rw [clock] at below' edgesBelow' ⊢
    rw [clientID, increment_of_lt _ nonneg room]
    refine ⟨rfl, rfl, insert_alike vertices ?_, fun k => ?_⟩
    · rw [Std.ExtTreeMap.getD_eq_getD_getElem?] at below below' ⊢
      rw [Std.ExtTreeMap.getD_eq_getD_getElem?]
      exact (vertices (trimSpace id)).retire below below' nonneg (by omega) c.clientID
    · dsimp only
      rw [Std.ExtTreeMap.getElem?_map, Std.ExtTreeMap.getElem?_map]
      exact (edges k).cascade (dropped.edges_dead k) (fun e held => (whole.stamps k e held).2)
        (fun e held => (edgesBelow' k e held).2) nonneg (by omega) c.clientID (trimSpace id)

theorem Mirrors.addEdge (alike : Mirrors dropped c d) (whole : Loadable table c)
    (part : Loadable table d) (room : c.lamportClock < maxInt64)
    (source target relationship : String)
    (named : ∀ t, Names table source target relationship t → dropped.Unmistaken t) :
    Mirrors dropped (c.addEdge table source target relationship)
      (d.addEdge table source target relationship) := by
  obtain ⟨clientID, clock, vertices, edges⟩ := alike
  have nonneg := whole.clock.nonneg
  unfold GraphCRDT.addEdge
  cases names : GraphCRDT.normalizeEdge table source target relationship with
  | none => exact ⟨clientID, clock, vertices, edges⟩
  | some parts =>
    obtain ⟨src, dst, rel⟩ := parts
    have below := whole.stamps.getD ⟨src, rel, dst⟩ (edgeKey src rel dst)
    have below' := (part.stamps.getD ⟨src, rel, dst⟩ (edgeKey src rel dst)).1
    dsimp only
    rw [clock] at below' ⊢
    rw [clientID, increment_of_lt _ nonneg room]
    refine ⟨rfl, rfl, vertices,
      insert_alike (R := fun k => EdgeMatch (dropped.edges k)) edges ?_⟩
    rw [Std.ExtTreeMap.getD_eq_getD_getElem?, Std.ExtTreeMap.getD_eq_getD_getElem?]
    exact (edges (edgeKey src rel dst)).assert (named ⟨src, rel, dst⟩ names) below below' nonneg
      (by omega) c.clientID

theorem Mirrors.removeEdge (alike : Mirrors dropped c d) (whole : Loadable table c)
    (part : Loadable table d) (room : c.lamportClock < maxInt64)
    (source target relationship : String)
    (named : ∀ t, Names table source target relationship t → dropped.Unmistaken t) :
    Mirrors dropped (c.removeEdge table source target relationship)
      (d.removeEdge table source target relationship) := by
  obtain ⟨clientID, clock, vertices, edges⟩ := alike
  have nonneg := whole.clock.nonneg
  unfold GraphCRDT.removeEdge
  cases names : GraphCRDT.normalizeEdge table source target relationship with
  | none => exact ⟨clientID, clock, vertices, edges⟩
  | some parts =>
    obtain ⟨src, dst, rel⟩ := parts
    have below := (whole.stamps.getD ⟨src, rel, dst⟩ (edgeKey src rel dst)).2
    have below' := (part.stamps.getD ⟨src, rel, dst⟩ (edgeKey src rel dst)).2
    dsimp only
    rw [clock] at below' ⊢
    rw [clientID, increment_of_lt _ nonneg room]
    refine ⟨rfl, rfl, vertices,
      insert_alike (R := fun k => EdgeMatch (dropped.edges k)) edges ?_⟩
    rw [Std.ExtTreeMap.getD_eq_getD_getElem?, Std.ExtTreeMap.getD_eq_getD_getElem?]
    exact (edges (edgeKey src rel dst)).retire (named ⟨src, rel, dst⟩ names) below below' nonneg
      (by omega) c.clientID

/-- Remote vertices, joined one after the other. -/
theorem joinVertices_alike (l : List Vertex) {m m' : VertexMap}
    (alike : ∀ u : String, VertexMatch u (dropped.vertices u) m[u]? m'[u]?)
    (knows : ∀ v ∈ l, ∀ w, dropped.vertices v.uuid = some w →
      highestStamp w.removeTimeline ≤ highestStamp v.removeTimeline) (u : String) :
    VertexMatch u (dropped.vertices u) (l.foldl (fun m v => (joinVertexLocked m v).1) m)[u]?
      (l.foldl (fun m v => (joinVertexLocked m v).1) m')[u]? := by
  induction l generalizing m m' with
  | nil => exact alike u
  | cons v rest ih =>
    refine ih (fun w => ?_) fun x member => knows x (List.mem_cons_of_mem v member)
    rw [joinVertexLocked_getElem?, joinVertexLocked_getElem?]
    by_cases same : v.uuid = w
    · rw [if_pos same, if_pos same]
      subst same
      exact (alike v.uuid).absorb (dropped.vertices_dead v.uuid) v (knows v List.mem_cons_self)
    · rw [if_neg same, if_neg same]
      exact alike w

theorem joinEdges_alike (l : List Edge) {m m' : EdgeMap}
    (alike : ∀ k : String, EdgeMatch (dropped.edges k) m[k]? m'[k]?)
    (knows : ∀ e ∈ l, ∀ f, dropped.edges e.key = some f → e.triple = f.triple ∧
      highestStamp f.removeTimeline ≤ highestStamp e.removeTimeline) (k : String) :
    EdgeMatch (dropped.edges k) (l.foldl (fun m e => (joinEdgeLocked m e).1) m)[k]?
      (l.foldl (fun m e => (joinEdgeLocked m e).1) m')[k]? := by
  induction l generalizing m m' with
  | nil => exact alike k
  | cons e rest ih =>
    refine ih (fun j => ?_) fun x member => knows x (List.mem_cons_of_mem e member)
    rw [joinEdgeLocked_getElem?, joinEdgeLocked_getElem?]
    by_cases same : e.key = j
    · rw [if_pos same, if_pos same]
      subst same
      exact (alike e.key).absorb e (knows e List.mem_cons_self)
    · rw [if_neg same, if_neg same]
      exact alike j

theorem Mirrors.mergeSnapshot (alike : Mirrors dropped c d) {snap : Snapshot}
    (respects : (Action.mergeSnapshot snap).Respects table dropped)
    (named : (Action.mergeSnapshot snap).EdgesIn table dropped.Unmistaken) :
    Mirrors dropped (c.mergeSnapshot table snap) (d.mergeSnapshot table snap) where
  clientID := alike.clientID
  clock := by rw [mergeSnapshot_lamportClock, mergeSnapshot_lamportClock, alike.clock]
  vertices u := by
    have whole : (c.mergeSnapshot table snap).vertices =
        snap.admitted.foldl (fun m v => (joinVertexLocked m v).1) c.vertices :=
      foldl_ingestVertex_admitted snap.vertices (c.vertices, {})
    have part : (d.mergeSnapshot table snap).vertices =
        snap.admitted.foldl (fun m v => (joinVertexLocked m v).1) d.vertices :=
      foldl_ingestVertex_admitted snap.vertices (d.vertices, {})
    rw [whole, part]
    refine joinVertices_alike snap.admitted alike.vertices ?_ u
    intro v member w gone
    obtain ⟨sent, inside, rfl⟩ := List.mem_map.mp (List.mem_filter.mp member).1
    exact highestStamp_mono (respects.1 sent inside w gone)
  edges k := by
    have whole : (c.mergeSnapshot table snap).edges =
        (snap.admittedEdges table).foldl (fun m e => (joinEdgeLocked m e).1) c.edges :=
      foldl_ingestEdge_admitted table snap.edges (c.edges, _)
    have part : (d.mergeSnapshot table snap).edges =
        (snap.admittedEdges table).foldl (fun m e => (joinEdgeLocked m e).1) d.edges :=
      foldl_ingestEdge_admitted table snap.edges (d.edges, _)
    rw [whole, part]
    refine joinEdges_alike (snap.admittedEdges table) alike.edges ?_ k
    intro e member f gone
    obtain ⟨normal, -⟩ := mem_admittedEdges member
    obtain ⟨sent, inside, rfl⟩ := List.mem_map.mp (List.mem_filter.mp member).1
    have names : Names table sent.sourceUUID sent.targetUUID sent.relationshipType
        (canonicalEdge table sent).triple := by
      have parts := normal.named
      unfold canonicalEdge at parts
      dsimp only at parts
      unfold Names GraphCRDT.normalizeEdge Edge.triple canonicalEdge
      simp [parts]
    have same := named sent inside _ names f gone
    exact ⟨same, highestStamp_mono (respects.2 sent inside _ names f gone same.symm)⟩

/-- One operation or one merge, on both replicas. -/
theorem Mirrors.act (alike : Mirrors dropped c d) (whole : Loadable table c)
    (part : Loadable table d) {a : Action} (room : a.isLocal = true → c.lamportClock < maxInt64)
    (respects : a.Respects table dropped) (named : a.EdgesIn table dropped.Unmistaken) :
    Mirrors dropped (c.act table a) (d.act table a) := by
  cases a with
  | addVertex id props => exact alike.addVertex whole.clock part.clock (room rfl) id props
  | removeVertex id => exact alike.removeVertex whole part (room rfl) id
  | addEdge source target relationship =>
    exact alike.addEdge whole part (room rfl) source target relationship named
  | removeEdge source target relationship =>
    exact alike.removeEdge whole part (room rfl) source target relationship named
  | mergeSnapshot snap => exact alike.mergeSnapshot respects named

/-! ## What both replicas show -/

theorem ascending_ids (a b : String) (less : compare a b = .lt) : decide (a ≤ b) = true :=
  decide_eq_true (compare_lt_iff_lt.mp less).le

theorem vertexLive_eq_shown (c : GraphCRDT) (id : String) :
    c.vertexLive id = ((c.vertices[id]?.filter Vertex.live).map Vertex.properties).isSome := by
  unfold GraphCRDT.vertexLive
  cases c.vertices[id]? with
  | none => rfl
  | some v => cases shows : v.live <;> simp [Option.filter_some, shows]

theorem Mirrors.vertexLive (alike : Mirrors dropped c d) (id : String) :
    c.vertexLive id = d.vertexLive id := by
  rw [vertexLive_eq_shown, vertexLive_eq_shown,
    (alike.vertices id).shown (dropped.vertices_dead id)]

theorem Mirrors.sameView (alike : Mirrors dropped c d) (whole : Loadable table c)
    (part : Loadable table d) : SameView c d := by
  constructor
  · have under : ∀ (e : GraphCRDT), VerticesFiled e.vertices → ∀ u : String,
        (e.vertices[u]?.filter fun v => v.live).map (fun v => (v.uuid, v.properties)) =
          ((e.vertices[u]?.filter Vertex.live).map Vertex.properties).map fun props =>
            (u, props) := by
      intro e filed u
      cases held : e.vertices[u]? with
      | none => rfl
      | some v => cases shows : v.live <;> simp [Option.filter_some, shows, (filed u v held).uuid]
    refine listed_congr (fun u v held => (whole.vertices u v held).uuid)
      (fun u v held => (part.vertices u v held).uuid) ascending_ids _ _ _ fun u => ?_
    rw [under c whole.vertices, under d part.vertices,
      (alike.vertices u).shown (dropped.vertices_dead u)]
  · have under : ∀ (e : GraphCRDT) (k : String),
        (e.edges[k]?.filter fun edge =>
            edge.live && e.vertexLive edge.sourceUUID && e.vertexLive edge.targetUUID).map
            Edge.triple =
          ((e.edges[k]?.filter Edge.live).map Edge.triple).filter fun t =>
            e.vertexLive t.source && e.vertexLive t.target := by
      intro e k
      cases e.edges[k]? with
      | none => rfl
      | some edge => cases shows : edge.live <;> simp [Option.filter_some, shows, Edge.triple]
    refine listed_congr (fun k e held => (whole.edges k e held).1)
      (fun k e held => (part.edges k e held).1) ascending_ids _ _ _ fun k => ?_
    rw [under c, under d, (alike.edges k).shown (dropped.edges_dead k)]
    simp only [alike.vertexLive]

/-! ## Runs -/

theorem Mirrors.acts (alike : Mirrors dropped c d) (whole : Loadable table c)
    (part : Loadable table d) (actions : List Action) (decoded : ∀ a ∈ actions, a.Decoded)
    (room : c.NeverFull table actions) (respects : ∀ a ∈ actions, a.Respects table dropped)
    (named : ∀ a ∈ actions, a.EdgesIn table dropped.Unmistaken) :
    SameView (c.acts table actions) (d.acts table actions) := by
  induction actions generalizing c d with
  | nil => exact alike.sameView whole part
  | cons a rest ih =>
    have now := decoded a List.mem_cons_self
    have room' : a.isLocal = true → d.lamportClock < maxInt64 := by
      rw [alike.clock]
      exact room.1
    exact ih (alike.act whole part room.1 (respects a List.mem_cons_self)
        (named a List.mem_cons_self)) (whole.act now room.1) (part.act now room')
      (fun b member => decoded b (List.mem_cons_of_mem a member)) room.2
      (fun b member => respects b (List.mem_cons_of_mem a member))
      fun b member => named b (List.mem_cons_of_mem a member)

theorem NeverFull.of_prefix {steps actions : List Action} (front : steps <+: actions)
    (room : c.NeverFull table actions) : c.NeverFull table steps := by
  induction steps generalizing c actions with
  | nil => exact trivial
  | cons a rest ih =>
    cases actions with
    | nil => cases List.prefix_nil.mp front
    | cons b later =>
      obtain ⟨rfl, after⟩ := List.cons_prefix_cons.mp front
      exact ⟨room.1, ih after room.2⟩

end

/-- After every step the compacted replica shows what the full one shows. -/
def CompactionSafe (table : CaseTable) (c : GraphCRDT) (stableBefore : Int)
    (actions : List Action) : Prop :=
  ∀ steps, steps <+: actions →
    SameView (c.acts table steps) ((c.compact stableBefore).1.acts table steps)

/-- In every run whose mutations find room on the clock, and which names no dropped edge by
other components, compaction below a watermark does not show. -/
theorem compaction_safe (table : CaseTable) (c : GraphCRDT)
    (reached : c.Reachable table fun _ => True) (stableBefore : Int) (actions : List Action)
    (decoded : ∀ a ∈ actions, a.Decoded)
    (respects : ∀ a ∈ actions, a.Respects table (c.tombstones stableBefore))
    (room : c.NeverFull table actions)
    (named : ∀ a ∈ actions, a.EdgesIn table (c.tombstones stableBefore).Unmistaken) :
    CompactionSafe table c stableBefore actions := by
  intro steps front
  have inside : ∀ a ∈ steps, a ∈ actions := fun a member => front.subset member
  exact (mirrors_compact c stableBefore).acts reached.loadable
    (reached.compact stableBefore).loadable steps (fun a member => decoded a (inside a member))
    (NeverFull.of_prefix front room) (fun a member => respects a (inside a member))
    fun a member => named a (inside a member)

/-- A pump whose removal took its edge with it. -/
def drainedSiteActions : List Action :=
  [.addVertex "pump" ∅, .addVertex "tank" ∅, .addEdge "pump" "tank" "feeds", .removeVertex "pump"]

def drainedSite : GraphCRDT :=
  (newGraphCRDT "replica-0" "edge-1" 0).acts asciiCase drainedSiteActions

theorem drainedSite_reachable : drainedSite.Reachable asciiCase fun _ => True := by
  refine (GraphCRDT.Reachable.start (by decide +kernel) (by decide) "edge-1" (by decide)).acts
    drainedSiteActions ?_ ?_
  · intro a member
    simp only [drainedSiteActions, List.mem_cons, List.not_mem_nil, or_false] at member
    rcases member with rfl | rfl | rfl | rfl <;> exact ⟨trivial, trivial⟩
  · exact ⟨fun _ => by decide +kernel, fun _ => by decide +kernel, fun _ => by decide +kernel,
      fun _ => by decide +kernel, trivial⟩

/-- A peer that knows of the removal. -/
def informed : Snapshot where
  clientID := "edge-2"
  lamportClock := 9
  vertices := [{ uuid := "pump", removeTimeline := (∅ : Timeline).insert "edge-1" 4 }]
  edges := []

theorem informed_decoded : informed.Decoded := by
  refine ⟨by decide, ?_, fun e member => (List.not_mem_nil member).elim⟩
  intro v member
  rw [List.mem_singleton.mp member]
  constructor
  · intro r stamp held
    cases Std.ExtTreeMap.getElem?_empty.symm.trans held
  · intro r stamp held
    dsimp only at held
    rw [Std.ExtTreeMap.getElem?_insert] at held
    split at held
    next =>
      cases held
      decide
    next => cases Std.ExtTreeMap.getElem?_empty.symm.trans held

theorem informed_respects :
    (Action.mergeSnapshot informed).Respects asciiCase (drainedSite.tombstones 10) := by
  refine ⟨?_, fun e member => (List.not_mem_nil member).elim⟩
  intro v member w gone
  rw [List.mem_singleton.mp member] at gone ⊢
  have stored : drainedSite.vertices["pump"]?.map Vertex.removeTimeline =
      some ((∅ : Timeline).insert "edge-1" 4) := by decide +kernel
  have trimmed : trimSpace "pump" = "pump" := by decide +kernel
  dsimp only at gone
  rw [trimmed] at gone
  rw [(stored_of_dropped gone).1] at stored
  rw [Option.some.inj stored]
  exact fun r => le_rfl

/-- The pump and its edge come back after both were dropped. -/
theorem compaction_safe_drainedSite : CompactionSafe asciiCase drainedSite 10
    [.mergeSnapshot informed, .addVertex "pump" ∅, .addEdge "pump" "tank" "feeds"] := by
  refine compaction_safe asciiCase drainedSite drainedSite_reachable 10 _ ?_ ?_ ?_ ?_
  · intro a member
    simp only [List.mem_cons, List.not_mem_nil, or_false] at member
    rcases member with rfl | rfl | rfl
    · exact informed_decoded
    · exact trivial
    · exact trivial
  · intro a member
    simp only [List.mem_cons, List.not_mem_nil, or_false] at member
    rcases member with rfl | rfl | rfl
    · exact informed_respects
    · exact trivial
    · exact trivial
  · exact ⟨fun impossible => Bool.noConfusion impossible, fun _ => by decide +kernel,
      fun _ => by decide +kernel, trivial⟩
  · intro a member
    simp only [List.mem_cons, List.not_mem_nil, or_false] at member
    rcases member with rfl | rfl | rfl
    · exact fun e member => (List.not_mem_nil member).elim
    · exact trivial
    · intro t names e gone
      have normal : GraphCRDT.normalizeEdge asciiCase "pump" "tank" "feeds" =
          some ("pump", "tank", "FEEDS") := by decide +kernel
      have stored : drainedSite.edges[edgeKey "pump" "FEEDS" "tank"]?.map Edge.triple =
          some ⟨"pump", "FEEDS", "tank"⟩ := by decide +kernel
      have parts := normal.symm.trans names
      simp only [Option.some.injEq, Prod.mk.injEq] at parts
      obtain ⟨source, target, relationship⟩ := parts
      have same : t = ⟨"pump", "FEEDS", "tank"⟩ := by
        cases t
        simp_all
      rw [same] at gone ⊢
      have held : drainedSite.edges[edgeKey "pump" "FEEDS" "tank"]? = some e :=
        (stored_of_dropped gone).1
      rw [held] at stored
      exact (Option.some.inj stored).symm

/-- An edge that was added and removed, with the separator in its target. -/
def splitSiteActions : List Action :=
  [.addVertex "a\u001fR\u001fb" ∅, .addVertex "c" ∅, .addEdge "a" "b\u001fS\u001fc" "r",
    .removeEdge "a" "b\u001fS\u001fc" "r"]

def splitSite : GraphCRDT :=
  (newGraphCRDT "replica-0" "edge-1" 0).acts asciiCase splitSiteActions

theorem splitSite_reachable : splitSite.Reachable asciiCase fun _ => True := by
  refine (GraphCRDT.Reachable.start (by decide +kernel) (by decide) "edge-1" (by decide)).acts
    splitSiteActions ?_ ?_
  · intro a member
    simp only [splitSiteActions, List.mem_cons, List.not_mem_nil, or_false] at member
    rcases member with rfl | rfl | rfl | rfl <;> exact ⟨trivial, trivial⟩
  · exact ⟨fun _ => by decide +kernel, fun _ => by decide +kernel, fun _ => by decide +kernel,
      fun _ => by decide +kernel, trivial⟩

/-- The full replica adds to the edge that shares the key, the compacted one to a new edge. -/
theorem compaction_shows : ¬∀ (table : CaseTable) (c : GraphCRDT),
    c.Reachable table (fun _ => True) → ∀ (stableBefore : Int) (actions : List Action),
      (∀ a ∈ actions, a.Decoded) →
        (∀ a ∈ actions, a.Respects table (c.tombstones stableBefore)) →
          CompactionSafe table c stableBefore actions := by
  intro safe
  have view := safe asciiCase splitSite splitSite_reachable 10
    [.addEdge "a\u001fR\u001fb" "c" "s"] ?_ ?_ _ List.prefix_rfl
  · exact absurd view.2 (by decide +kernel)
  · intro a member
    rw [List.mem_singleton.mp member]
    exact trivial
  · intro a member
    rw [List.mem_singleton.mp member]
    exact trivial

end OpenOntology.Crdt
