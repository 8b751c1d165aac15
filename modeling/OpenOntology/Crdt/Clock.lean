import OpenOntology.Crdt.Effects

/-!
# The Lamport clock under hostile input

Stamps and clocks arrive as unchecked 64-bit integers. Every stamp a merge stores is at
most the clock it leaves, so a tick that does not overflow issues a stamp above all of
them; nothing keeps a peer from raising the clock to where the next tick overflows.
-/
namespace OpenOntology.Crdt

/-- What can happen to one replica: its own mutations, and snapshots off the wire. -/
inductive Action where
  | addVertex (id : String) (props : Properties)
  | removeVertex (id : String)
  | addEdge (source target relationship : String)
  | removeEdge (source target relationship : String)
  | mergeSnapshot (snap : Snapshot)

def Action.isLocal : Action → Bool
  | .mergeSnapshot _ => false
  | _ => true

/-- What a 64-bit field decodes to. -/
def Int64Range (n : Int) : Prop := -2 ^ 63 ≤ n ∧ n ≤ maxInt64

instance (n : Int) : Decidable (Int64Range n) := inferInstanceAs (Decidable (_ ∧ _))

def Timeline.Decoded (t : Timeline) : Prop := ∀ (c : String) (s : Int), t[c]? = some s → Int64Range s

structure Snapshot.Decoded (snap : Snapshot) : Prop where
  clock : Int64Range snap.lamportClock
  vertices : ∀ v ∈ snap.vertices, Timeline.Decoded v.addTimeline ∧ Timeline.Decoded v.removeTimeline
  edges : ∀ e ∈ snap.edges, Timeline.Decoded e.addTimeline ∧ Timeline.Decoded e.removeTimeline

def Action.Decoded : Action → Prop
  | .mergeSnapshot snap => snap.Decoded
  | _ => True

namespace GraphCRDT

variable (table : CaseTable)

def act (c : GraphCRDT) : Action → GraphCRDT
  | .addVertex id props => c.addVertex id props
  | .removeVertex id => c.removeVertex id
  | .addEdge source target relationship => c.addEdge table source target relationship
  | .removeEdge source target relationship => c.removeEdge table source target relationship
  | .mergeSnapshot snap => c.mergeSnapshot table snap

def acts (c : GraphCRDT) (actions : List Action) : GraphCRDT := actions.foldl (act table) c

/-- No mutation of the run finds the clock at its largest value. -/
def NeverFull : GraphCRDT → List Action → Prop
  | _, [] => True
  | c, a :: rest =>
    (a.isLocal = true → c.lamportClock < maxInt64) ∧ NeverFull (c.act table a) rest

end GraphCRDT

variable {table : CaseTable}

/-! ## Stamps below the clock -/

def StampsBelow (bound : Int) (t : Timeline) : Prop :=
  ∀ (c : String) (s : Int), t[c]? = some s → s ≤ bound

def VerticesBelow (bound : Int) (vertices : VertexMap) : Prop :=
  ∀ (u : String) (v : Vertex), vertices[u]? = some v →
    StampsBelow bound v.addTimeline ∧ StampsBelow bound v.removeTimeline

theorem StampsBelow.mono {bound larger : Int} {t : Timeline} (below : StampsBelow bound t)
    (le : bound ≤ larger) : StampsBelow larger t :=
  fun c s held => (below c s held).trans le

theorem stampsBelow_empty (bound : Int) : StampsBelow bound ∅ := by
  intro c s held
  rw [Std.ExtTreeMap.getElem?_empty] at held
  cases held

theorem StampsBelow.insert {bound stamp : Int} {t : Timeline} (below : StampsBelow bound t)
    (le : stamp ≤ bound) (c : String) : StampsBelow bound (t.insert c stamp) := by
  intro c' s held
  rw [Std.ExtTreeMap.getElem?_insert] at held
  split at held
  · cases held
    exact le
  · exact below c' s held

theorem StampsBelow.merge {bound : Int} {dst src : Timeline} (left : StampsBelow bound dst)
    (right : StampsBelow bound src) : StampsBelow bound (mergeTimelineInto dst src).1 := by
  intro c s held
  rcases mergeTimelineInto_getElem? dst src c s held with from_dst | from_src
  · exact left c s from_dst
  · exact right c s from_src

theorem stampsBelow_of_highestStamp {bound : Int} {t : Timeline} (le : highestStamp t ≤ bound) :
    StampsBelow bound t :=
  ((highestStamp_le_iff t bound).mp le).2

theorem StampsBelow.highestStamp_le {bound : Int} {t : Timeline} (below : StampsBelow bound t)
    (nonneg : 0 ≤ bound) : highestStamp t ≤ bound :=
  (highestStamp_le_iff t bound).mpr ⟨nonneg, below⟩

theorem VerticesBelow.mono {bound larger : Int} {vertices : VertexMap}
    (below : VerticesBelow bound vertices) (le : bound ≤ larger) : VerticesBelow larger vertices :=
  fun u v held => ⟨(below u v held).1.mono le, (below u v held).2.mono le⟩

theorem VerticesBelow.insert {bound : Int} {vertices : VertexMap}
    (below : VerticesBelow bound vertices) (k : String) (v : Vertex)
    (add : StampsBelow bound v.addTimeline) (remove : StampsBelow bound v.removeTimeline) :
    VerticesBelow bound (vertices.insert k v) := by
  intro u w held
  rw [Std.ExtTreeMap.getElem?_insert] at held
  split at held
  · cases held
    exact ⟨add, remove⟩
  · exact below u w held

/-- The entry a mutation starts from, be it stored or new. -/
theorem VerticesBelow.getD {bound : Int} {vertices : VertexMap}
    (below : VerticesBelow bound vertices) (id : String) :
    StampsBelow bound (vertices.getD id { uuid := id }).addTimeline ∧
      StampsBelow bound (vertices.getD id { uuid := id }).removeTimeline := by
  rw [Std.ExtTreeMap.getD_eq_getD_getElem?]
  cases found : vertices[id]? with
  | none => exact ⟨stampsBelow_empty bound, stampsBelow_empty bound⟩
  | some v => exact below id v found

theorem joinVertexLocked_below {bound : Int} {vertices : VertexMap}
    (below : VerticesBelow bound vertices) (remote : Vertex)
    (add : StampsBelow bound remote.addTimeline) (remove : StampsBelow bound remote.removeTimeline) :
    VerticesBelow bound (joinVertexLocked vertices remote).1 := by
  unfold joinVertexLocked
  cases found : vertices[remote.uuid]? with
  | none => exact below.insert _ _ add remove
  | some local_ =>
    obtain ⟨here, there⟩ := below _ _ found
    exact below.insert _ _ (here.merge add) (there.merge remove)

/-- Every stamp of the replica's vertices is at most its clock, and the clock fits. -/
structure ClockDominates (c : GraphCRDT) : Prop where
  nonneg : 0 ≤ c.lamportClock
  fits : c.lamportClock ≤ maxInt64
  vertices : VerticesBelow c.lamportClock c.vertices

/-! ## The join raises the clock over what it stores -/

theorem maxStamp_three (a b c bound : Int) :
    maxStamp [a, b, c] ≤ bound ↔ 0 ≤ bound ∧ a ≤ bound ∧ b ≤ bound ∧ c ≤ bound := by
  unfold maxStamp
  simp only [List.foldl_cons, List.foldl_nil]
  split <;> split <;> split <;> omega

/-- One turn of the vertex loop, under a ceiling on what the loop has seen. -/
theorem ingestVertex_below {bound : Int} (acc : VertexMap × MergeReport) (v : Vertex)
    (ceiling : (ingestVertex acc v).2.highestStamp ≤ bound) :
    acc.2.highestStamp ≤ bound ∧
      (VerticesBelow bound acc.1 → VerticesBelow bound (ingestVertex acc v).1) := by
  unfold ingestVertex at ceiling ⊢
  dsimp only at ceiling ⊢
  split at ceiling
  next refused =>
    rw [if_pos refused]
    exact ⟨ceiling, fun below => below⟩
  next admitted =>
    rw [if_neg admitted]
    obtain ⟨-, seen, add, remove⟩ := (maxStamp_three _ _ _ bound).mp ceiling
    exact ⟨seen, fun below => joinVertexLocked_below below _ (stampsBelow_of_highestStamp add)
      (stampsBelow_of_highestStamp remove)⟩

theorem foldl_ingestVertex_below {bound : Int} (l : List Vertex) (acc : VertexMap × MergeReport)
    (ceiling : (l.foldl ingestVertex acc).2.highestStamp ≤ bound) :
    acc.2.highestStamp ≤ bound ∧
      (VerticesBelow bound acc.1 → VerticesBelow bound (l.foldl ingestVertex acc).1) := by
  induction l generalizing acc with
  | nil => exact ⟨ceiling, fun below => below⟩
  | cons v rest ih =>
    rw [List.foldl_cons] at ceiling ⊢
    obtain ⟨middle, later⟩ := ih _ ceiling
    obtain ⟨seen, turn⟩ := ingestVertex_below acc v middle
    exact ⟨seen, fun below => later (turn below)⟩

theorem foldl_ingestEdge_ceiling {bound : Int} (l : List Edge) (acc : EdgeMap × MergeReport)
    (ceiling : (l.foldl (ingestEdge table) acc).2.highestStamp ≤ bound) :
    acc.2.highestStamp ≤ bound := by
  induction l generalizing acc with
  | nil => exact ceiling
  | cons e rest ih =>
    rw [List.foldl_cons] at ceiling
    have middle := ih _ ceiling
    unfold ingestEdge at middle
    dsimp only at middle
    split at middle
    next => exact middle
    next => exact ((maxStamp_three _ _ _ bound).mp middle).2.1

theorem Timeline.Decoded.highestStamp_le {t : Timeline} (decoded : Timeline.Decoded t) :
    highestStamp t ≤ maxInt64 :=
  (highestStamp_le_iff t maxInt64).mpr ⟨by decide, fun c s held => (decoded c s held).2⟩

/-- The loop's maximum stays under a ceiling on the stamps it is fed. -/
theorem foldl_ingestVertex_fits {bound : Int} (nonneg : 0 ≤ bound) (l : List Vertex)
    (acc : VertexMap × MergeReport)
    (fed : ∀ v ∈ l, highestStamp v.addTimeline ≤ bound ∧ highestStamp v.removeTimeline ≤ bound)
    (start : acc.2.highestStamp ≤ bound) :
    (l.foldl ingestVertex acc).2.highestStamp ≤ bound := by
  induction l generalizing acc with
  | nil => exact start
  | cons v rest ih =>
    obtain ⟨add, remove⟩ := fed v List.mem_cons_self
    rw [List.foldl_cons]
    refine ih _ (fun w member => fed w (List.mem_cons_of_mem v member)) ?_
    unfold ingestVertex
    dsimp only
    split
    next => exact start
    next => exact (maxStamp_three _ _ _ _).mpr ⟨nonneg, start, add, remove⟩

theorem foldl_ingestEdge_fits (table : CaseTable) {bound : Int} (nonneg : 0 ≤ bound)
    (l : List Edge) (acc : EdgeMap × MergeReport)
    (fed : ∀ e ∈ l, highestStamp e.addTimeline ≤ bound ∧ highestStamp e.removeTimeline ≤ bound)
    (start : acc.2.highestStamp ≤ bound) :
    (l.foldl (ingestEdge table) acc).2.highestStamp ≤ bound := by
  induction l generalizing acc with
  | nil => exact start
  | cons e rest ih =>
    obtain ⟨add, remove⟩ := fed e List.mem_cons_self
    rw [List.foldl_cons]
    refine ih _ (fun f member => fed f (List.mem_cons_of_mem e member)) ?_
    unfold ingestEdge
    dsimp only
    split
    next => exact start
    next => exact (maxStamp_three _ _ _ _).mpr ⟨nonneg, start, add, remove⟩

theorem raiseClock_eq_max (clock observed : Int) :
    GraphCRDT.raiseClock clock observed = max clock observed := by
  unfold GraphCRDT.raiseClock
  split <;> omega

theorem ClockDominates.mergeSnapshot {c : GraphCRDT} (ok : ClockDominates c) {snap : Snapshot}
    (decoded : snap.Decoded) : ClockDominates (c.mergeSnapshot table snap) := by
  have some_room : 0 ≤ maxInt64 := by decide
  have fits := foldl_ingestEdge_fits table some_room snap.edges
    (c.edges, (snap.vertices.foldl ingestVertex (c.vertices, {})).2)
    (fun e member => ⟨(decoded.edges e member).1.highestStamp_le,
      (decoded.edges e member).2.highestStamp_le⟩)
    (foldl_ingestVertex_fits some_room snap.vertices (c.vertices, {})
      (fun v member => ⟨(decoded.vertices v member).1.highestStamp_le,
        (decoded.vertices v member).2.highestStamp_le⟩) some_room)
  have nonneg := ok.nonneg
  have capped := ok.fits
  have peer := decoded.clock.2
  unfold GraphCRDT.mergeSnapshot GraphCRDT.applyLocked
  dsimp only
  simp only [raiseClock_eq_max]
  refine ⟨by dsimp only; omega, by dsimp only; omega, ?_⟩
  dsimp only
  refine (foldl_ingestVertex_below snap.vertices (c.vertices, {}) ?_).2
    (ok.vertices.mono (by omega))
  exact foldl_ingestEdge_ceiling snap.edges _ (le_max_right _ _)

/-! ## Mutations -/

theorem ClockDominates.addVertex {c : GraphCRDT} (ok : ClockDominates c)
    (room : c.lamportClock < maxInt64) (id : String) (props : Properties) :
    ClockDominates (c.addVertex id props) := by
  have nonneg := ok.nonneg
  have later : c.lamportClock ≤ c.lamportClock + 1 := by omega
  unfold GraphCRDT.addVertex
  dsimp only
  split
  next => exact ok
  next =>
    rw [increment_of_lt _ nonneg room]
    obtain ⟨add, remove⟩ := ok.vertices.getD (trimSpace id)
    refine ⟨by dsimp only; omega, by dsimp only; omega, ?_⟩
    exact (ok.vertices.mono later).insert _ _ ((add.mono later).insert le_rfl _) (remove.mono later)

theorem ClockDominates.removeVertex {c : GraphCRDT} (ok : ClockDominates c)
    (room : c.lamportClock < maxInt64) (id : String) : ClockDominates (c.removeVertex id) := by
  have nonneg := ok.nonneg
  have later : c.lamportClock ≤ c.lamportClock + 1 := by omega
  unfold GraphCRDT.removeVertex
  dsimp only
  split
  next => exact ok
  next =>
    rw [increment_of_lt _ nonneg room]
    obtain ⟨add, remove⟩ := ok.vertices.getD (trimSpace id)
    refine ⟨by dsimp only; omega, by dsimp only; omega, ?_⟩
    exact (ok.vertices.mono later).insert _ _ (add.mono later)
      ((remove.mono later).insert le_rfl _)

theorem ClockDominates.addEdge {c : GraphCRDT} (ok : ClockDominates c)
    (room : c.lamportClock < maxInt64) (source target relationship : String) :
    ClockDominates (c.addEdge table source target relationship) := by
  have nonneg := ok.nonneg
  have later : c.lamportClock ≤ c.lamportClock + 1 := by omega
  unfold GraphCRDT.addEdge
  split
  next => exact ok
  next =>
    dsimp only
    rw [increment_of_lt _ nonneg room]
    exact ⟨by dsimp only; omega, by dsimp only; omega, ok.vertices.mono later⟩

theorem ClockDominates.removeEdge {c : GraphCRDT} (ok : ClockDominates c)
    (room : c.lamportClock < maxInt64) (source target relationship : String) :
    ClockDominates (c.removeEdge table source target relationship) := by
  have nonneg := ok.nonneg
  have later : c.lamportClock ≤ c.lamportClock + 1 := by omega
  unfold GraphCRDT.removeEdge
  split
  next => exact ok
  next =>
    dsimp only
    rw [increment_of_lt _ nonneg room]
    exact ⟨by dsimp only; omega, by dsimp only; omega, ok.vertices.mono later⟩

theorem ClockDominates.act {c : GraphCRDT} (ok : ClockDominates c) {a : Action}
    (decoded : a.Decoded) (room : a.isLocal = true → c.lamportClock < maxInt64) :
    ClockDominates (c.act table a) := by
  cases a with
  | addVertex id props => exact ok.addVertex (room rfl) id props
  | removeVertex id => exact ok.removeVertex (room rfl) id
  | addEdge source target relationship => exact ok.addEdge (room rfl) source target relationship
  | removeEdge source target relationship =>
    exact ok.removeEdge (room rfl) source target relationship
  | mergeSnapshot snap => exact ok.mergeSnapshot decoded

theorem ClockDominates.acts {c : GraphCRDT} (ok : ClockDominates c) (actions : List Action)
    (decoded : ∀ a ∈ actions, a.Decoded) (room : c.NeverFull table actions) :
    ClockDominates (c.acts table actions) := by
  induction actions generalizing c with
  | nil => exact ok
  | cons a rest ih =>
    exact ih (ok.act (decoded a List.mem_cons_self) room.1)
      (fun b member => decoded b (List.mem_cons_of_mem a member)) room.2

theorem newGraphCRDT_dominates (generated clientID : String) {initialClock : Int}
    (restored : Int64Range initialClock) :
    ClockDominates (newGraphCRDT generated clientID initialClock) := by
  have fits := restored.2
  have some_room : (0 : Int) ≤ maxInt64 := by decide
  unfold newGraphCRDT
  refine ⟨?_, ?_, ?_⟩
  · dsimp only
    split <;> omega
  · dsimp only
    split <;> omega
  · intro u v held
    dsimp only at held
    rw [Std.ExtTreeMap.getElem?_empty] at held
    cases held

/-! ## A mutation after hostile input -/

/-- The next assertion of vertex `id` advances the clock and shows, and a removal,
before or after it, shows too. -/
structure Obeys (c : GraphCRDT) (id : String) (props : Properties) : Prop where
  advances : c.lamportClock < (c.addVertex id props).lamportClock
  asserted : ∃ v, (c.addVertex id props).lookupVertex id = some v ∧ v.properties = props
  retired : ((c.addVertex id props).removeVertex id).lookupVertex id = none
  removed : (c.removeVertex id).lookupVertex id = none

theorem increment_maxInt64 : increment maxInt64 = -2 ^ 63 := by decide

theorem live_of_stamp_gt (add : Timeline) {remove : Timeline} (clientID : String)
    {clock stamp : Int} (nonneg : 0 ≤ clock) (removed : StampsBelow clock remove)
    (above : clock < stamp) :
    highestStamp (add.insert clientID stamp) > highestStamp remove := by
  have below := removed.highestStamp_le nonneg
  have reached := le_highestStamp (add.insert clientID stamp) clientID stamp
    Std.ExtTreeMap.getElem?_insert_self
  omega

theorem addVertex_getElem? (c : GraphCRDT) {id : String} (props : Properties)
    (named : trimSpace id ≠ "") :
    (c.addVertex id props).vertices[trimSpace id]? =
      some { c.vertices.getD (trimSpace id) { uuid := trimSpace id } with
        addTimeline := (c.vertices.getD (trimSpace id) { uuid := trimSpace id }).addTimeline.insert
          c.clientID (increment c.lamportClock)
        properties := props } := by
  unfold GraphCRDT.addVertex
  rw [if_neg named]
  exact Std.ExtTreeMap.getElem?_insert_self

theorem removeVertex_getElem? (c : GraphCRDT) {id : String} (named : trimSpace id ≠ "") :
    (c.removeVertex id).vertices[trimSpace id]? =
      some { c.vertices.getD (trimSpace id) { uuid := trimSpace id } with
        removeTimeline :=
          (c.vertices.getD (trimSpace id) { uuid := trimSpace id }).removeTimeline.insert
            c.clientID (increment c.lamportClock) } := by
  unfold GraphCRDT.removeVertex
  rw [if_neg named]
  exact Std.ExtTreeMap.getElem?_insert_self

theorem lookupVertex_addVertex {c : GraphCRDT} (ok : ClockDominates c)
    (room : c.lamportClock < maxInt64) {id : String} (props : Properties)
    (named : trimSpace id ≠ "") :
    ∃ v, (c.addVertex id props).lookupVertex id = some v ∧ v.properties = props := by
  have stored := addVertex_getElem? c props named
  rw [increment_of_lt _ ok.nonneg room] at stored
  have removed := (ok.vertices.getD (trimSpace id)).2
  revert stored removed
  generalize c.vertices.getD (trimSpace id) { uuid := trimSpace id } = v
  intro stored removed
  refine ⟨{ v with
      addTimeline := v.addTimeline.insert c.clientID (c.lamportClock + 1)
      properties := props }, ?_, rfl⟩
  unfold GraphCRDT.lookupVertex
  rw [stored]
  exact if_pos (decide_eq_true (live_of_stamp_gt _ _ ok.nonneg removed (by omega)))

theorem lookupVertex_removeVertex {c : GraphCRDT} (ok : ClockDominates c)
    (room : c.lamportClock < maxInt64) {id : String} (named : trimSpace id ≠ "") :
    (c.removeVertex id).lookupVertex id = none := by
  have stored := removeVertex_getElem? c named
  rw [increment_of_lt _ ok.nonneg room] at stored
  unfold GraphCRDT.lookupVertex
  rw [stored]
  refine if_neg fun live => ?_
  have above := live_of_stamp_gt (c.vertices.getD (trimSpace id)
    { uuid := trimSpace id }).removeTimeline c.clientID ok.nonneg
    (ok.vertices.getD (trimSpace id)).1 (show c.lamportClock < c.lamportClock + 1 by omega)
  exact absurd (of_decide_eq_true live) (not_lt.mpr above.le)

/-- At its largest value the clock issues the smallest stamp, which retires nothing. -/
theorem lookupVertex_removeVertex_full {c : GraphCRDT} {id : String} {v : Vertex}
    (full : c.lamportClock = maxInt64) (stored : c.vertices[trimSpace id]? = some v)
    (reached : maxInt64 ≤ highestStamp v.addTimeline)
    (removed : StampsBelow (maxInt64 - 1) v.removeTimeline) (named : trimSpace id ≠ "") :
    (c.removeVertex id).lookupVertex id ≠ none := by
  have after := removeVertex_getElem? c named
  rw [Std.ExtTreeMap.getD_eq_getD_getElem?, stored, full, increment_maxInt64] at after
  have kept : StampsBelow (maxInt64 - 1) (v.removeTimeline.insert c.clientID (-2 ^ 63)) :=
    removed.insert (by decide) _
  have below := kept.highestStamp_le (by decide)
  unfold GraphCRDT.lookupVertex
  rw [after]
  dsimp only [Option.getD_some]
  rw [if_pos]
  · exact Option.some_ne_none _
  · refine decide_eq_true ?_
    dsimp only
    omega

/-- In every run whose mutations all found room on the clock, the next mutations of a
vertex behave exactly when the clock has room for two more stamps. -/
theorem clock_obeys_iff (table : CaseTable) (generated clientID : String) (initialClock : Int)
    (restored : Int64Range initialClock) (actions : List Action)
    (decoded : ∀ a ∈ actions, a.Decoded)
    (room : (newGraphCRDT generated clientID initialClock).NeverFull table actions)
    (id : String) (props : Properties) (named : trimSpace id ≠ "") :
    Obeys ((newGraphCRDT generated clientID initialClock).acts table actions) id props ↔
      ((newGraphCRDT generated clientID initialClock).acts table actions).lamportClock + 2 ≤
        maxInt64 := by
  have ok := (newGraphCRDT_dominates generated clientID restored).acts actions decoded room
  revert ok
  generalize (newGraphCRDT generated clientID initialClock).acts table actions = c
  intro ok
  have nonneg := ok.nonneg
  have fits := ok.fits
  constructor
  · intro obeys
    by_contra short
    rcases lt_or_ge c.lamportClock maxInt64 with below | full
    · have last : c.lamportClock = maxInt64 - 1 := by omega
      have clock := addVertex_clock nonneg below id props named
      have stored := addVertex_getElem? c props named
      rw [increment_of_lt _ nonneg below] at stored
      refine lookupVertex_removeVertex_full (by omega) stored ?_ ?_ named obeys.retired
      · have reached := le_highestStamp _ c.clientID (c.lamportClock + 1)
          (Std.ExtTreeMap.getElem?_insert_self
            (t := (c.vertices.getD (trimSpace id) { uuid := trimSpace id }).addTimeline))
        exact le_trans (by omega) reached
      · exact (ok.vertices.getD _).2.mono (by omega)
    · have top : c.lamportClock = maxInt64 := by omega
      have wrapped : (c.addVertex id props).lamportClock = increment c.lamportClock := by
        unfold GraphCRDT.addVertex
        rw [if_neg named]
      have advances := obeys.advances
      rw [wrapped, top, increment_maxInt64] at advances
      exact absurd advances (by decide)
  · intro spare
    have below : c.lamportClock < maxInt64 := by omega
    have clock := addVertex_clock nonneg below id props named
    exact ⟨by omega, lookupVertex_addVertex ok below props named,
      lookupVertex_removeVertex (ok.addVertex below id props) (by omega) named,
      lookupVertex_removeVertex ok below named⟩

/-- An empty snapshot whose sender claims a clock. -/
def claiming (clock : Int) : Snapshot := ⟨"peer", clock, [], []⟩

theorem claiming_decoded (clock : Int) (range : Int64Range clock) : (claiming clock).Decoded :=
  ⟨range, fun _ member => (List.not_mem_nil member).elim,
    fun _ member => (List.not_mem_nil member).elim⟩

/-- Two ticks below the end the mutations still behave. -/
theorem clock_obeys_below :
    Obeys ((newGraphCRDT "replica-0" "edge-1" 0).acts asciiCase
      [.mergeSnapshot (claiming (maxInt64 - 2))]) "pump" ∅ := by
  refine (clock_obeys_iff asciiCase "replica-0" "edge-1" 0 (by decide) _ ?_ ?_ "pump" ∅
    (by decide +kernel)).mpr (by decide +kernel)
  · intro a member
    rw [List.mem_singleton.mp member]
    exact claiming_decoded _ (by decide)
  · exact ⟨fun impossible => Bool.noConfusion impossible, trivial⟩

/-- A peer that claims the largest clock makes the next tick wrap. -/
theorem clock_disobeys :
    ¬∀ actions : List Action, (∀ a ∈ actions, a.Decoded) → ∀ (id : String) (props : Properties),
      trimSpace id ≠ "" →
        Obeys ((newGraphCRDT "replica-0" "edge-1" 0).acts asciiCase actions) id props := by
  intro obeys
  have decoded : ∀ a ∈ [Action.mergeSnapshot (claiming maxInt64)], a.Decoded := by
    intro a member
    rw [List.mem_singleton.mp member]
    exact claiming_decoded _ (by decide)
  exact absurd (obeys _ decoded "pump" ∅ (by decide +kernel)).advances (by decide +kernel)

end OpenOntology.Crdt
