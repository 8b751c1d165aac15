import OpenOntology.Crdt.Filing

/-!
# Causality in a fleet

The fleet is traced beside the writes its replicas have taken in: a mutation issues
writes over what its replica knew, a snapshot carries what was known when it was taken,
a merge learns it. What a replica stores is what it knows, line by line, so a write that
knew every other write on its element decides the element wherever it has arrived.
-/
namespace OpenOntology.Crdt
open Library

variable {table : CaseTable} {ι : Type} [DecidableEq ι]

/-! ## Fleets with their history -/

/-- A write, and what its issuer knew when it issued it. -/
structure Issue where
  write : Write
  past : Set Write

/-- A fleet, with what every replica and every snapshot knows. -/
structure Traced (ι : Type) where
  fleet : Fleet ι
  known : ι → Set Write
  carried : List (Set Write)
  log : List Issue

/-- The event as the engine takes it: edge mutations with whatever arguments. -/
def Fleet.advance (table : CaseTable) (σ : Fleet ι) : Event ι → Option (Fleet ι)
  | .addEdge i source target relationship =>
    σ.mutate i true fun c => c.addEdge table source target relationship
  | .removeEdge i source target relationship =>
    σ.mutate i true fun c => c.removeEdge table source target relationship
  | event => σ.step table event

/-- Every step of a fleet with separator-free arguments is such an event. -/
theorem Fleet.advance_of_step {σ next : Fleet ι} {event : Event ι}
    (stepped : σ.step table event = some next) : σ.advance table event = some next := by
  cases event with
  | addEdge i source target relationship =>
    rw [Fleet.step] at stepped
    obtain ⟨-, room, rfl⟩ := mutate_some stepped
    exact if_pos ⟨rfl, room⟩
  | removeEdge i source target relationship =>
    rw [Fleet.step] at stepped
    obtain ⟨-, room, rfl⟩ := mutate_some stepped
    exact if_pos ⟨rfl, room⟩
  | addVertex i id props => exact stepped
  | removeVertex i id => exact stepped
  | takeSnapshot i => exact stepped
  | merge i j => exact stepped
  | mergeSnapshot i taken => exact stepped

/-- The replica an event happens at. -/
def Event.actor : Event ι → ι
  | .addVertex i _ _ => i
  | .removeVertex i _ => i
  | .addEdge i _ _ _ => i
  | .removeEdge i _ _ _ => i
  | .takeSnapshot i => i
  | .merge i _ => i
  | .mergeSnapshot i _ => i

/-- The writes an event issues. -/
def Event.writes (table : CaseTable) (σ : Fleet ι) : Event ι → List Write
  | .addVertex i id props => (σ.replica i).addVertexWrites id props
  | .removeVertex i id => (σ.replica i).removeVertexWrites id
  | .addEdge i source target relationship =>
    (σ.replica i).edgeWrites table true source target relationship
  | .removeEdge i source target relationship =>
    (σ.replica i).edgeWrites table false source target relationship
  | _ => []

namespace Traced

/-- What the actor of an event knows more after it. -/
def learned (table : CaseTable) (τ : Traced ι) : Event ι → Set Write
  | .merge _ j => τ.known j
  | .mergeSnapshot _ taken => τ.carried.getD taken ∅
  | event => {w | w ∈ event.writes table τ.fleet}

def start (generated clientIDs : ι → String) (clocks : ι → Int) : Traced ι where
  fleet := { replica := fun i => newGraphCRDT (generated i) (clientIDs i) (clocks i), pool := [] }
  known := fun _ => ∅
  carried := []
  log := []

def step (table : CaseTable) (τ : Traced ι) (event : Event ι) : Option (Traced ι) :=
  (τ.fleet.advance table event).map fun next =>
    { fleet := next
      known := Function.update τ.known event.actor
        (τ.known event.actor ∪ τ.learned table event)
      carried :=
        match event with
        | .takeSnapshot i => τ.known i :: τ.carried
        | _ => τ.carried
      log := (event.writes table τ.fleet).map (fun w => ⟨w, τ.known event.actor⟩) ++ τ.log }

end Traced

/-! ## A replica stores what it knows -/

structure Reflects (K : Set Write) (c : GraphCRDT) : Prop where
  held : ∀ el b (r : String) (s : Int), (c.line el b)[r]? = some s →
    ∃ w ∈ K, w.element = el ∧ w.asserted = b ∧ w.stamp = ⟨s, r⟩
  covers : ∀ w ∈ K,
    (w.stamp.timestamp : WithBot Int) ≤ valueAt (c.line w.element w.asserted) w.stamp.clientID

theorem Reflects.applies {K : Set Write} {c next : GraphCRDT} {writes : List Write}
    (ok : Reflects K c) (older : ∀ w ∈ K, w.stamp.timestamp ≤ c.lamportClock)
    (applies : Applies c next writes) : Reflects (K ∪ {w | w ∈ writes}) next where
  held el b r s stored := by
    by_cases written : ∃ w ∈ writes, w.element = el ∧ w.asserted = b
    · obtain ⟨w, member, rfl, rfl⟩ := written
      rw [applies.written w member, Std.ExtTreeMap.getElem?_insert] at stored
      split at stored
      next own =>
        cases stored
        rw [← Std.LawfulEqCmp.compare_eq_iff_eq.mp own]
        exact ⟨w, Or.inr member, rfl, rfl, applies.stamps w member⟩
      next =>
        obtain ⟨w', inside, same⟩ := ok.held _ _ r s stored
        exact ⟨w', Or.inl inside, same⟩
    · rw [applies.untouched el b fun w member same => written ⟨w, member, same⟩] at stored
      obtain ⟨w', inside, same⟩ := ok.held _ _ r s stored
      exact ⟨w', Or.inl inside, same⟩
  covers w member := by
    rcases member with inside | issued
    · have before := ok.covers w inside
      by_cases written : ∃ w' ∈ writes, w'.element = w.element ∧ w'.asserted = w.asserted
      · obtain ⟨w', member, element, asserted⟩ := written
        have line := applies.written w' member
        rw [element, asserted] at line
        rw [line, valueAt_insert]
        split
        next =>
          have old := older w inside
          exact WithBot.coe_le_coe.mpr (by omega)
        next => exact before
      · rw [applies.untouched _ _ fun w' member same => written ⟨w', member, same⟩]
        exact before
    · rw [applies.written w issued, applies.stamps w issued, valueAt_insert, if_pos rfl]

theorem Reflects.join {K K' : Set Write} {c d next : GraphCRDT} (ok : Reflects K c)
    (ok' : Reflects K' d)
    (joined : ∀ el b r, valueAt (next.line el b) r =
      valueAt (c.line el b) r ⊔ valueAt (d.line el b) r) : Reflects (K ∪ K') next where
  held el b r s stored := by
    have value := joined el b r
    rw [(valueAt_eq_coe_iff _ r s).mpr stored] at value
    rcases le_total (valueAt (c.line el b) r) (valueAt (d.line el b) r) with below | above
    · rw [sup_eq_right.mpr below] at value
      obtain ⟨w, inside, same⟩ := ok'.held el b r s ((valueAt_eq_coe_iff _ r s).mp value.symm)
      exact ⟨w, Or.inr inside, same⟩
    · rw [sup_eq_left.mpr above] at value
      obtain ⟨w, inside, same⟩ := ok.held el b r s ((valueAt_eq_coe_iff _ r s).mp value.symm)
      exact ⟨w, Or.inl inside, same⟩
  covers w member := by
    rw [joined]
    rcases member with inside | inside
    · exact (ok.covers w inside).trans le_sup_left
    · exact (ok'.covers w inside).trans le_sup_right

/-! ## The invariant -/

/-- The write has been issued. -/
def Logged (log : List Issue) (w : Write) : Prop := ∃ issue ∈ log, issue.write = w

/-- The payloads of the issued writes. -/
def payloads (log : List Issue) : Writes := fun u stamp =>
  (log.find? fun issue =>
    issue.write.element = .vertex u && issue.write.asserted && issue.write.stamp = stamp).map
    fun issue => issue.write.properties

/-- A replica that knows `K`. -/
structure Informed (table : CaseTable) (log : List Issue) (K : Set Write) (c : GraphCRDT) :
    Prop where
  clock : 0 ≤ c.lamportClock
  vertices : VerticesWellFormed (payloads log) c.lamportClock c.vertices
  edges : EdgesFiled table c.edges
  reflects : Reflects K c
  known : ∀ w ∈ K, 0 < w.stamp.timestamp ∧ w.stamp.timestamp ≤ c.lamportClock ∧ Logged log w

structure Traced.Invariant (table : CaseTable) (τ : Traced ι) : Prop where
  distinct : Function.Injective fun i => (τ.fleet.replica i).clientID
  replicas : ∀ i, Informed table τ.log (τ.known i) (τ.fleet.replica i)
  snapshots : List.Forall₂ (fun s K => ∃ c : GraphCRDT, s = c.snapshot ∧
    Informed table τ.log K c) τ.fleet.pool τ.carried
  issued : ∀ issue ∈ τ.log, 0 < issue.write.stamp.timestamp ∧
    ∀ i, issue.write.stamp.clientID = (τ.fleet.replica i).clientID →
      issue.write.stamp.timestamp ≤ (τ.fleet.replica i).lamportClock
  later : ∀ issue ∈ τ.log, ∀ w ∈ issue.past,
    w.stamp.timestamp < issue.write.stamp.timestamp
  unique : ∀ issue ∈ τ.log, ∀ issue' ∈ τ.log, issue.write.element = issue'.write.element →
    issue.write.stamp = issue'.write.stamp → issue.write = issue'.write

theorem Logged.append {log : List Issue} {w : Write} (logged : Logged log w)
    (fresh : List Issue) : Logged (fresh ++ log) w := by
  obtain ⟨issue, member, same⟩ := logged
  exact ⟨issue, List.mem_append_right fresh member, same⟩

/-- New issues under stamps the log does not hold leave the payloads it records. -/
theorem payloads_append (fresh log : List Issue)
    (apart : ∀ issue ∈ fresh, ∀ issue' ∈ log, issue.write.stamp ≠ issue'.write.stamp) :
    Extends (payloads log) (payloads (fresh ++ log)) := by
  intro u stamp p written
  unfold payloads at written ⊢
  rw [List.find?_append]
  cases found : fresh.find? _ with
  | none => exact written
  | some issue =>
    obtain ⟨issue', found', -⟩ := Option.map_eq_some_iff.mp written
    have matched := List.find?_some found
    have matched' := List.find?_some found'
    simp only [Bool.and_eq_true, decide_eq_true_eq] at matched matched'
    exact absurd (matched.2.trans matched'.2.symm)
      (apart issue (List.mem_of_find?_eq_some found) issue' (List.mem_of_find?_eq_some found'))

/-- Where stamps identify writes, the payload under a stamp is the write's. -/
theorem payloads_of_logged {log : List Issue}
    (unique : ∀ issue ∈ log, ∀ issue' ∈ log, issue.write.element = issue'.write.element →
      issue.write.stamp = issue'.write.stamp → issue.write = issue'.write)
    {w : Write} (logged : Logged log w) {u : String} (vertex : w.element = .vertex u)
    (asserted : w.asserted = true) : payloads log u w.stamp = some w.properties := by
  obtain ⟨issue, member, rfl⟩ := logged
  unfold payloads
  cases found : log.find? _ with
  | none =>
    have refused := List.find?_eq_none.mp found issue member
    simp [vertex, asserted] at refused
  | some issue' =>
    have matched := List.find?_some found
    simp only [Bool.and_eq_true, decide_eq_true_eq] at matched
    have same := unique issue' (List.mem_of_find?_eq_some found) issue member
      (matched.1.1.trans vertex.symm) matched.2
    rw [Option.map_some, same]

theorem Informed.extend {log log' : List Issue} {K : Set Write} {c : GraphCRDT}
    (ok : Informed table log K c) (grown : Extends (payloads log) (payloads log'))
    (logged : ∀ w, Logged log w → Logged log' w) : Informed table log' K c :=
  { ok with
    vertices := ok.vertices.extend grown
    known := fun w inside => ⟨(ok.known w inside).1, (ok.known w inside).2.1,
      logged w (ok.known w inside).2.2⟩ }

/-- A mutation that issued its writes keeps its replica informed. -/
theorem Informed.applies {log : List Issue} {K : Set Write} {c next : GraphCRDT}
    {writes : List Write} (ok : Informed table log K c) (applies : Applies c next writes)
    (vertices : VerticesWellFormed (payloads (writes.map (fun w => ⟨w, K⟩) ++ log))
      next.lamportClock next.vertices)
    (edges : EdgesFiled table next.edges) :
    Informed table (writes.map (fun w => ⟨w, K⟩) ++ log) (K ∪ {w | w ∈ writes}) next where
  clock := ok.clock.trans applies.forward
  vertices := vertices
  edges := edges
  reflects := ok.reflects.applies (fun w inside => (ok.known w inside).2.1) applies
  known w member := by
    rcases member with inside | issued
    · obtain ⟨positive, reached, logged⟩ := ok.known w inside
      exact ⟨positive, reached.trans applies.forward, logged.append _⟩
    · have nonneg := ok.clock
      have ticked := applies.ticked (List.ne_nil_of_mem issued)
      rw [applies.stamps w issued]
      refine ⟨by dsimp only; omega, by dsimp only; omega, ⟨w, K⟩, ?_, rfl⟩
      exact List.mem_append_left _ (List.mem_map_of_mem issued)

/-- The vertices of a replica, taken alone. -/
theorem bare_wellFormed {log : List Issue} {K : Set Write} {c : GraphCRDT}
    (ok : Informed table log K c) :
    GraphWellFormed table (payloads log) { c with edges := ∅ } where
  clock := ok.clock
  vertices := ok.vertices
  edges k e held := by
    rw [Std.ExtTreeMap.getElem?_empty] at held
    cases held

/-! ## A merge learns what the other side knew -/

theorem mergeSnapshot_clock (table : CaseTable) (c : GraphCRDT) (s : Snapshot) :
    c.lamportClock ≤ (c.mergeSnapshot table s).lamportClock ∧
      s.lamportClock ≤ (c.mergeSnapshot table s).lamportClock := by
  unfold GraphCRDT.mergeSnapshot GraphCRDT.applyLocked
  dsimp only
  simp only [raiseClock_eq_max]
  omega

/-- The vertex loop over the snapshot of another replica. -/
theorem mergeSnapshot_vertices {log : List Issue} {K K' : Set Write} {c d : GraphCRDT}
    (ok : Informed table log K c) (ok' : Informed table log K' d) (before : List Vertex)
    (inside : ∀ v ∈ before, v ∈ d.snapshot.vertices) {bound : Int}
    (here : c.lamportClock ≤ bound) (there : d.lamportClock ≤ bound) :
    VerticesWellFormed (payloads log) bound (before.foldl ingestVertex (c.vertices, {})).1 ∧
      vertexMarks (before.foldl ingestVertex (c.vertices, {})).1 =
        vertexMarks c.vertices ⊔ before.foldl (fun acc v => acc ⊔ v.carried) ⊥ := by
  have messages : ∀ v ∈ before, VertexWellFormed (payloads log) bound v := by
    intro v member
    obtain ⟨u, stored⟩ := mem_entries d.vertices v (List.mem_mergeSort.mp (inside v member))
    exact (ok'.vertices u v stored).2.mono there
  have nonneg : 0 ≤ bound := ok.clock.trans here
  have loop := (foldl_ingestVertex nonneg before (c.vertices, {}) messages nonneg).1
  rw [loop]
  exact ⟨(vertexJoin _ bound).deliver_good before c.vertices (ok.vertices.mono here) messages,
    ((vertexJoin _ bound).view_deliver before c.vertices (ok.vertices.mono here) messages).trans
      (foldl_sup_from _ _ _)⟩

theorem Informed.merge {log : List Issue} {K K' : Set Write} {c d : GraphCRDT}
    (ok : Informed table log K c) (ok' : Informed table log K' d) :
    Informed table log (K ∪ K') (c.mergeSnapshot table d.snapshot) := by
  obtain ⟨here, there⟩ := mergeSnapshot_clock table c d.snapshot
  obtain ⟨wellFormed, vertices⟩ := mergeSnapshot_vertices ok ok' d.snapshot.vertices
    (fun v member => member) here there
  obtain ⟨filed, edges⟩ := mergeSnapshot_filed ok.edges d.snapshot
  rw [snapshot_vertices_carried ok'.vertices] at vertices
  rw [admittedEdges_snapshot ok'.edges, snapshot_edges_carried ok'.edges] at edges
  refine ⟨ok.clock.trans here, wellFormed, filed, ?_, ?_⟩
  · refine ok.reflects.join ok'.reflects ?_
    rintro (u | k) b r
    · have line := valueAt_line_vertex (c.mergeSnapshot table d.snapshot) u b
      have same : vertexMarks (c.mergeSnapshot table d.snapshot).vertices =
          vertexMarks c.vertices ⊔ vertexMarks d.vertices := vertices
      rw [line, valueAt_line_vertex, valueAt_line_vertex, same, Pi.sup_apply, markOf_sup]
      rfl
    · rw [valueAt_line_edge, valueAt_line_edge, valueAt_line_edge, edges, Pi.sup_apply, markOf_sup]
      rfl
  · rintro w (inside | inside)
    · obtain ⟨positive, reached, logged⟩ := ok.known w inside
      exact ⟨positive, reached.trans here, logged⟩
    · obtain ⟨positive, reached, logged⟩ := ok'.known w inside
      exact ⟨positive, reached.trans there, logged⟩

/-! ## The invariant is kept -/

namespace Traced

theorem replica_set (σ : Fleet ι) (i j : ι) (c : GraphCRDT) :
    (σ.set i c).replica j = if j = i then c else σ.replica j := by
  unfold Fleet.set
  exact Function.update_apply ..

theorem clientID_set {σ : Fleet ι} {i : ι} {c : GraphCRDT}
    (identity : c.clientID = (σ.replica i).clientID) (j : ι) :
    ((σ.set i c).replica j).clientID = (σ.replica j).clientID := by
  rw [replica_set]
  split
  next same => rw [same, identity]
  next => rfl

theorem clock_set {σ : Fleet ι} {i : ι} {c : GraphCRDT}
    (forward : (σ.replica i).lamportClock ≤ c.lamportClock) (j : ι) :
    (σ.replica j).lamportClock ≤ ((σ.set i c).replica j).lamportClock := by
  rw [replica_set]
  split
  next same => rw [same]; exact forward
  next => exact le_rfl

variable {τ : Traced ι}

omit [DecidableEq ι] in
/-- The next stamp of a replica has not been issued. -/
theorem Invariant.fresh (inv : Invariant table τ) (i : ι) (issue : Issue)
    (member : issue ∈ τ.log) :
    issue.write.stamp ≠
      ⟨(τ.fleet.replica i).lamportClock + 1, (τ.fleet.replica i).clientID⟩ := by
  intro same
  have reached := (inv.issued issue member).2 i (by rw [same])
  rw [same] at reached
  dsimp only at reached
  omega

omit [DecidableEq ι] in
theorem Invariant.grown (inv : Invariant table τ) {i : ι} {c : GraphCRDT} {writes : List Write}
    (applies : Applies (τ.fleet.replica i) c writes) (K : Set Write) :
    Extends (payloads τ.log) (payloads (writes.map (fun w => ⟨w, K⟩) ++ τ.log)) := by
  refine payloads_append _ _ fun issue member issue' member' same => ?_
  obtain ⟨w, issued, rfl⟩ := List.mem_map.mp member
  exact inv.fresh i issue' member' (same.symm.trans (applies.stamps w issued))

omit [DecidableEq ι] in
theorem Invariant.unique_append (inv : Invariant table τ) {i : ι} {c : GraphCRDT}
    {writes : List Write} (applies : Applies (τ.fleet.replica i) c writes) (K : Set Write) :
    ∀ issue ∈ writes.map (fun w => (⟨w, K⟩ : Issue)) ++ τ.log,
      ∀ issue' ∈ writes.map (fun w => (⟨w, K⟩ : Issue)) ++ τ.log,
        issue.write.element = issue'.write.element →
          issue.write.stamp = issue'.write.stamp → issue.write = issue'.write := by
  intro issue member issue' member' element stamp
  rcases List.mem_append.mp member with new | old
  · obtain ⟨w, issued, rfl⟩ := List.mem_map.mp new
    rcases List.mem_append.mp member' with new' | old'
    · obtain ⟨w', issued', rfl⟩ := List.mem_map.mp new'
      exact applies.distinct w issued w' issued' element
    · exact absurd (stamp.symm.trans (applies.stamps w issued)) (inv.fresh i issue' old')
  · rcases List.mem_append.mp member' with new' | old'
    · obtain ⟨w', issued', rfl⟩ := List.mem_map.mp new'
      exact absurd (stamp.trans (applies.stamps w' issued')) (inv.fresh i issue old)
    · exact inv.unique issue old issue' old' element stamp

/-- A mutation at replica `i` that issued its writes. -/
theorem Invariant.mutated (inv : Invariant table τ) {i : ι} {c : GraphCRDT} {writes : List Write}
    (applies : Applies (τ.fleet.replica i) c writes)
    (vertices : VerticesWellFormed (payloads (writes.map (fun w => ⟨w, τ.known i⟩) ++ τ.log))
      c.lamportClock c.vertices)
    (edges : EdgesFiled table c.edges) :
    Invariant table
      { fleet := τ.fleet.set i c
        known := Function.update τ.known i (τ.known i ∪ {w | w ∈ writes})
        carried := τ.carried
        log := writes.map (fun w => ⟨w, τ.known i⟩) ++ τ.log } := by
  have logged : ∀ w, Logged τ.log w →
      Logged (writes.map (fun w => (⟨w, τ.known i⟩ : Issue)) ++ τ.log) w :=
    fun w logged => logged.append _
  have grown := inv.grown applies (τ.known i)
  have own := inv.replicas i
  refine ⟨?_, ?_, ?_, ?_, ?_, inv.unique_append applies (τ.known i)⟩
  · intro j k same
    apply inv.distinct
    simpa only [clientID_set applies.clientID] using same
  · intro j
    dsimp only
    rw [replica_set, Function.update_apply]
    split
    next => exact own.applies applies vertices edges
    next => exact (inv.replicas j).extend grown logged
  · refine inv.snapshots.imp ?_
    rintro s K ⟨d, rfl, informed⟩
    exact ⟨d, rfl, informed.extend grown logged⟩
  · intro issue member
    rcases List.mem_append.mp member with new | old
    · obtain ⟨w, issued, rfl⟩ := List.mem_map.mp new
      have nonneg := own.clock
      have ticked := applies.ticked (List.ne_nil_of_mem issued)
      dsimp only
      rw [applies.stamps w issued]
      refine ⟨by dsimp only; omega, fun j same => ?_⟩
      rw [clientID_set applies.clientID] at same
      rw [← inv.distinct same, replica_set, if_pos rfl]
      exact ticked.ge
    · obtain ⟨positive, reached⟩ := inv.issued issue old
      refine ⟨positive, fun j same => ?_⟩
      rw [clientID_set applies.clientID] at same
      exact (reached j same).trans (clock_set applies.forward j)
  · intro issue member w inside
    rcases List.mem_append.mp member with new | old
    · obtain ⟨w', issued, rfl⟩ := List.mem_map.mp new
      have reached := (own.known w inside).2.1
      dsimp only
      rw [applies.stamps w' issued]
      dsimp only
      omega
    · exact inv.later issue old w inside

/-- A merge at replica `i` of a snapshot whose replica knew `K`. -/
theorem Invariant.merged (inv : Invariant table τ) (i : ι) {K : Set Write} {d : GraphCRDT}
    (informed : Informed table τ.log K d) :
    Invariant table
      { fleet := τ.fleet.set i ((τ.fleet.replica i).mergeSnapshot table d.snapshot)
        known := Function.update τ.known i (τ.known i ∪ K)
        carried := τ.carried
        log := τ.log } := by
  have own := inv.replicas i
  have identity : ((τ.fleet.replica i).mergeSnapshot table d.snapshot).clientID =
      (τ.fleet.replica i).clientID := rfl
  have forward := (mergeSnapshot_clock table (τ.fleet.replica i) d.snapshot).1
  refine ⟨?_, ?_, inv.snapshots, ?_, inv.later, inv.unique⟩
  · intro j k same
    apply inv.distinct
    simpa only [clientID_set identity] using same
  · intro j
    dsimp only
    rw [replica_set, Function.update_apply]
    split
    next => exact own.merge informed
    next => exact inv.replicas j
  · intro issue member
    obtain ⟨positive, reached⟩ := inv.issued issue member
    refine ⟨positive, fun j same => ?_⟩
    rw [clientID_set identity] at same
    exact (reached j same).trans (clock_set forward j)

/-- The vertices of a replica are not touched by a mutation of its edges. -/
theorem Invariant.mutated_edges (inv : Invariant table τ) {i : ι} {c : GraphCRDT}
    {writes : List Write} (applies : Applies (τ.fleet.replica i) c writes)
    (same : c.vertices = (τ.fleet.replica i).vertices) (edges : EdgesFiled table c.edges) :
    Invariant table
      { fleet := τ.fleet.set i c
        known := Function.update τ.known i (τ.known i ∪ {w | w ∈ writes})
        carried := τ.carried
        log := writes.map (fun w => ⟨w, τ.known i⟩) ++ τ.log } := by
  refine inv.mutated applies ?_ edges
  rw [same]
  exact ((inv.replicas i).vertices.mono applies.forward).extend (inv.grown applies _)

theorem addVertex_bare (c : GraphCRDT) (id : String) (props : Properties) :
    (GraphCRDT.addVertex { c with edges := ∅ } id props).vertices =
      (c.addVertex id props).vertices ∧
    (GraphCRDT.addVertex { c with edges := ∅ } id props).lamportClock =
      (c.addVertex id props).lamportClock := by
  unfold GraphCRDT.addVertex
  dsimp only
  split <;> exact ⟨rfl, rfl⟩

theorem removeVertex_bare (c : GraphCRDT) (id : String) :
    (GraphCRDT.removeVertex { c with edges := ∅ } id).vertices = (c.removeVertex id).vertices ∧
    (GraphCRDT.removeVertex { c with edges := ∅ } id).lamportClock =
      (c.removeVertex id).lamportClock := by
  unfold GraphCRDT.removeVertex
  dsimp only
  split <;> exact ⟨rfl, rfl⟩

omit [DecidableEq ι] in
/-- The vertices after `AddVertex`, whose write the log records. -/
theorem Invariant.addVertex_vertices (inv : Invariant table τ) {i : ι}
    (room : (τ.fleet.replica i).lamportClock < maxInt64) (id : String) (props : Properties) :
    VerticesWellFormed
      (payloads (((τ.fleet.replica i).addVertexWrites id props).map (fun w => ⟨w, τ.known i⟩) ++
        τ.log))
      ((τ.fleet.replica i).addVertex id props).lamportClock
      ((τ.fleet.replica i).addVertex id props).vertices := by
  have own := inv.replicas i
  have applies := addVertex_applies own.clock room id props
  by_cases blank : trimSpace id = ""
  · have unchanged : (τ.fleet.replica i).addVertex id props = τ.fleet.replica i := by
      unfold GraphCRDT.addVertex
      rw [if_pos blank]
    rw [unchanged]
    exact own.vertices.extend (inv.grown applies _)
  · have issues : (τ.fleet.replica i).addVertexWrites id props =
        [⟨.vertex (trimSpace id), true, props,
          ⟨(τ.fleet.replica i).lamportClock + 1, (τ.fleet.replica i).clientID⟩⟩] := by
      unfold GraphCRDT.addVertexWrites GraphCRDT.nextStamp
      rw [if_neg blank, increment_of_lt _ own.clock room]
    have recorded := payloads_of_logged (inv.unique_append applies (τ.known i))
      (w := ⟨.vertex (trimSpace id), true, props,
        ⟨(τ.fleet.replica i).lamportClock + 1, (τ.fleet.replica i).clientID⟩⟩)
      ⟨_, List.mem_append_left _ (List.mem_map_of_mem
        (by rw [issues]; exact List.mem_singleton_self _)), rfl⟩ rfl rfl
    have vertices := (addVertex_wellFormed (bare_wellFormed own) room id props
      (inv.grown applies (τ.known i)) recorded).vertices
    rw [(addVertex_bare _ id props).1, (addVertex_bare _ id props).2] at vertices
    exact vertices

omit [DecidableEq ι] in
/-- A snapshot of the pool was taken of a replica that knew what it carries. -/
theorem Invariant.carried_of_pool (inv : Invariant table τ) {taken : Nat} {s : Snapshot}
    (found : τ.fleet.pool[taken]? = some s) :
    ∃ K, τ.carried[taken]? = some K ∧
      ∃ c : GraphCRDT, s = c.snapshot ∧ Informed table τ.log K c := by
  have aligned := inv.snapshots
  obtain ⟨within, rfl⟩ := List.getElem?_eq_some_iff.mp found
  have length := aligned.length_eq
  exact ⟨_, List.getElem?_eq_getElem (by omega), aligned.get within (by omega)⟩

/-- One event. -/
theorem Invariant.step {next : Traced ι} {event : Event ι} (inv : Invariant table τ)
    (stepped : τ.step table event = some next) : Invariant table next := by
  obtain ⟨σ, advanced, rfl⟩ := Option.map_eq_some_iff.mp stepped
  cases event with
  | addVertex i id props =>
    obtain ⟨-, room, rfl⟩ := Fleet.mutate_some
      (show τ.fleet.mutate i true (fun c => c.addVertex id props) = some σ from advanced)
    have own := inv.replicas i
    refine inv.mutated (addVertex_applies own.clock room id props)
      (inv.addVertex_vertices room id props) ?_
    rw [addVertex_edges]
    exact own.edges
  | removeVertex i id =>
    obtain ⟨-, room, rfl⟩ := Fleet.mutate_some
      (show τ.fleet.mutate i true (fun c => c.removeVertex id) = some σ from advanced)
    have own := inv.replicas i
    have applies := removeVertex_applies own.clock room id
    refine inv.mutated applies ?_ (removeVertex_filed own.edges id)
    have vertices := (removeVertex_wellFormed (bare_wellFormed own) room id).vertices
    rw [(removeVertex_bare _ id).1, (removeVertex_bare _ id).2] at vertices
    exact vertices.extend (inv.grown applies _)
  | addEdge i source target relationship =>
    obtain ⟨-, room, rfl⟩ := Fleet.mutate_some (show τ.fleet.mutate i true
      (fun c => c.addEdge table source target relationship) = some σ from advanced)
    have own := inv.replicas i
    exact inv.mutated_edges (addEdge_applies own.clock room source target relationship)
      (addEdge_vertices ..) (addEdge_filed own.edges source target relationship)
  | removeEdge i source target relationship =>
    obtain ⟨-, room, rfl⟩ := Fleet.mutate_some (show τ.fleet.mutate i true
      (fun c => c.removeEdge table source target relationship) = some σ from advanced)
    have own := inv.replicas i
    exact inv.mutated_edges (removeEdge_applies own.clock room source target relationship)
      (removeEdge_vertices ..) (removeEdge_filed own.edges source target relationship)
  | takeSnapshot i =>
    cases advanced
    have same : Function.update τ.known i (τ.known i ∪ {w | w ∈ ([] : List Write)}) = τ.known := by
      rw [Function.update_eq_self_iff]
      simp
    refine ⟨inv.distinct, fun j => ?_, ?_, inv.issued, inv.later, inv.unique⟩
    · show Informed table τ.log
        (Function.update τ.known i (τ.known i ∪ {w | w ∈ ([] : List Write)}) j) _
      rw [same]
      exact inv.replicas j
    · exact List.Forall₂.cons ⟨_, rfl, inv.replicas i⟩ inv.snapshots
  | merge i j =>
    replace advanced : τ.fleet.step table (.merge i j) = some σ := advanced
    simp only [Fleet.step] at advanced
    split at advanced
    next same =>
      cases advanced
      subst same
      have known : Function.update τ.known i (τ.known i ∪ τ.known i) = τ.known := by
        rw [Set.union_self, Function.update_eq_self]
      refine ⟨inv.distinct, fun k => ?_, inv.snapshots, inv.issued, inv.later, inv.unique⟩
      show Informed table τ.log (Function.update τ.known i (τ.known i ∪ τ.known i) k) _
      rw [known]
      exact inv.replicas k
    next =>
      cases advanced
      exact inv.merged i (inv.replicas j)
  | mergeSnapshot i taken =>
    replace advanced : τ.fleet.step table (.mergeSnapshot i taken) = some σ := advanced
    simp only [Fleet.step] at advanced
    split at advanced
    next => cases advanced
    next s found =>
      cases advanced
      obtain ⟨K, carried, d, rfl, informed⟩ := inv.carried_of_pool found
      have learned : τ.learned table (.mergeSnapshot i taken) = K := by
        show τ.carried.getD taken ∅ = K
        rw [List.getD_eq_getElem?_getD, carried, Option.getD_some]
      show Invariant table
        { fleet := _
          known := Function.update τ.known i (τ.known i ∪ τ.learned table (.mergeSnapshot i taken))
          carried := τ.carried
          log := τ.log }
      rw [learned]
      exact inv.merged i informed

omit [DecidableEq ι] in
theorem invariant_start (generated clientIDs : ι → String) (clocks : ι → Int)
    (distinct : Function.Injective fun i =>
      (newGraphCRDT (generated i) (clientIDs i) (clocks i)).clientID) :
    Invariant table (start generated clientIDs clocks) where
  distinct := distinct
  replicas i := by
    have empty : ∀ el b, (newGraphCRDT (generated i) (clientIDs i) (clocks i)).line el b = ∅ := by
      have vertices : ∀ u : String,
          (newGraphCRDT (generated i) (clientIDs i) (clocks i)).vertices[u]? = none :=
        fun u => Std.ExtTreeMap.getElem?_empty
      have edges : ∀ k : String,
          (newGraphCRDT (generated i) (clientIDs i) (clocks i)).edges[k]? = none :=
        fun k => Std.ExtTreeMap.getElem?_empty
      rintro (u | k) b <;> cases b <;> simp [GraphCRDT.line, vertices, edges]
    refine ⟨?_, ?_, edgesFiled_empty, ⟨?_, ?_⟩, ?_⟩
    · show 0 ≤ if clocks i > 0 then clocks i else 0
      split <;> omega
    · intro u v held
      exact absurd (held.symm.trans Std.ExtTreeMap.getElem?_empty) (Option.some_ne_none v)
    · intro el b r s held
      rw [start, empty, Std.ExtTreeMap.getElem?_empty] at held
      cases held
    · exact fun w inside => inside.elim
    · exact fun w inside => inside.elim
  snapshots := List.Forall₂.nil
  issued _ member := (List.not_mem_nil member).elim
  later _ member := (List.not_mem_nil member).elim
  unique _ member := (List.not_mem_nil member).elim

theorem Invariant.run {final : Traced ι} (events : List (Event ι)) (inv : Invariant table τ)
    (ran : Library.run (Traced.step table) τ events = some final) : Invariant table final :=
  run_preserves (Traced.step table) (Invariant table) (fun _ _ _ inv stepped => inv.step stepped)
    events τ final inv ran

end Traced

end OpenOntology.Crdt
