import OpenOntology.Crdt.Fleet

/-!
# What a local mutation does to the presence of elements

On a well-formed replica with room on its clock an assertion leaves its element
live under a fresh stamp, and touches nothing else.
-/
namespace OpenOntology.Crdt

variable {table : CaseTable} {W : Writes}

/-- A stamp beyond everything in the remove timeline makes an element live. -/
theorem highestStamp_insert_gt {add remove : Timeline} {clock : Int} (nonneg : 0 ≤ clock)
    (removed : StampsWithin clock remove) (clientID : String) :
    highestStamp (add.insert clientID (clock + 1)) > highestStamp remove := by
  have below := removed.highestStamp_le nonneg
  have above := le_highestStamp (add.insert clientID (clock + 1)) clientID (clock + 1)
    Std.ExtTreeMap.getElem?_insert_self
  omega

theorem addVertex_clock {c : GraphCRDT} (nonneg : 0 ≤ c.lamportClock)
    (room : c.lamportClock < maxInt64) (id : String) (props : Properties)
    (named : trimSpace id ≠ "") : (c.addVertex id props).lamportClock = c.lamportClock + 1 := by
  unfold GraphCRDT.addVertex
  rw [if_neg named]
  exact increment_of_lt _ nonneg room

theorem addVertex_live {c : GraphCRDT} (ok : GraphWellFormed table W c)
    (room : c.lamportClock < maxInt64) (id : String) (props : Properties)
    (named : trimSpace id ≠ "") :
    ∃ v, (c.addVertex id props).vertices[trimSpace id]? = some v ∧ v.live = true ∧
      v.properties = props := by
  obtain ⟨-, sound⟩ := vertex_entry_sound ok.vertices id named
  unfold GraphCRDT.addVertex
  rw [if_neg named, increment_of_lt _ ok.clock room]
  refine ⟨_, Std.ExtTreeMap.getElem?_insert_self, ?_, rfl⟩
  exact decide_eq_true (highestStamp_insert_gt ok.clock sound.removed c.clientID)

theorem addVertex_frame (c : GraphCRDT) (id : String) (props : Properties) :
    (∀ u : String, u ≠ trimSpace id → (c.addVertex id props).vertices[u]? = c.vertices[u]?) ∧
      (c.addVertex id props).edges = c.edges := by
  unfold GraphCRDT.addVertex
  dsimp only
  split
  · exact ⟨fun u _ => rfl, rfl⟩
  · refine ⟨?_, rfl⟩
    intro u other
    rw [Std.ExtTreeMap.getElem?_insert, if_neg]
    intro same
    exact other (Std.LawfulEqCmp.compare_eq_iff_eq.mp same).symm

theorem addEdge_of_normal {c : GraphCRDT} (nonneg : 0 ≤ c.lamportClock)
    (room : c.lamportClock < maxInt64) {source target relationship src dst rel : String}
    (normal : GraphCRDT.normalizeEdge table source target relationship = some (src, dst, rel)) :
    (c.addEdge table source target relationship).lamportClock = c.lamportClock + 1 ∧
      (c.addEdge table source target relationship).vertices = c.vertices ∧
      ∀ k : String, k ≠ edgeKey src rel dst →
        (c.addEdge table source target relationship).edges[k]? = c.edges[k]? := by
  unfold GraphCRDT.addEdge
  rw [normal]
  refine ⟨increment_of_lt _ nonneg room, rfl, ?_⟩
  intro k other
  dsimp only
  rw [Std.ExtTreeMap.getElem?_insert, if_neg]
  intro same
  exact other (Std.LawfulEqCmp.compare_eq_iff_eq.mp same).symm

theorem addEdge_live {c : GraphCRDT} (ok : GraphWellFormed table W c)
    (room : c.lamportClock < maxInt64) {source target relationship src dst rel : String}
    (freeSource : separatorFree source = true) (freeRelationship : separatorFree relationship = true)
    (normal : GraphCRDT.normalizeEdge table source target relationship = some (src, dst, rel)) :
    ∃ e, (c.addEdge table source target relationship).edges[edgeKey src rel dst]? = some e ∧
      e.live = true := by
  obtain ⟨-, sound⟩ := edge_entry_sound ok.edges freeSource freeRelationship normal
  unfold GraphCRDT.addEdge
  rw [normal]
  dsimp only
  rw [increment_of_lt _ ok.clock room]
  refine ⟨_, Std.ExtTreeMap.getElem?_insert_self, ?_⟩
  exact decide_eq_true (highestStamp_insert_gt ok.clock sound.removed c.clientID)

/-- Membership in the live view, entry by entry. -/
theorem mem_liveEdges (c : GraphCRDT) (e : Edge) :
    e ∈ c.liveEdges ↔ (∃ k : String, c.edges[k]? = some e) ∧ e.live = true ∧
      c.vertexLive e.sourceUUID = true ∧ c.vertexLive e.targetUUID = true := by
  unfold GraphCRDT.liveEdges
  rw [List.mem_mergeSort, List.mem_filter, List.mem_map]
  simp only [Bool.and_eq_true, and_assoc]
  apply and_congr_left
  intro _
  constructor
  · rintro ⟨⟨k, e'⟩, stored, rfl⟩
    exact ⟨k, Std.ExtTreeMap.mem_toList_iff_getElem?_eq_some.mp stored⟩
  · rintro ⟨k, stored⟩
    exact ⟨(k, e), Std.ExtTreeMap.mem_toList_iff_getElem?_eq_some.mpr stored, rfl⟩

end OpenOntology.Crdt
