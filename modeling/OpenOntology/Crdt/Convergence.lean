import OpenOntology.Crdt.Fleet

/-!
# Strong eventual convergence

A merge of a snapshot is the join of two views, so the state a replica reaches
depends on the set of snapshots it has merged, not on their order or repetition.
The views determine the stored entries because the fleet invariant holds in every
reachable state.
-/
namespace OpenOntology.Crdt
open Library

variable {table : CaseTable} {W W' : Writes}

/-! ## Merging as replication by join -/

theorem applyLocked_spec {c : GraphCRDT} {s : Snapshot} (ok : GraphWellFormed table W c)
    (incoming : SnapshotWellFormed table W s) {bound : Int}
    (is_max : bound = max c.lamportClock s.lamportClock) :
    (c.mergeSnapshot table s).vertices = (vertexJoin W bound).deliver c.vertices s.vertices ∧
      (c.mergeSnapshot table s).edges = (edgeJoin table bound).deliver c.edges s.edges ∧
      (c.mergeSnapshot table s).lamportClock = bound := by
  have here : c.lamportClock ≤ bound := is_max ▸ le_max_left _ _
  have there : s.lamportClock ≤ bound := is_max ▸ le_max_right _ _
  have nonneg : 0 ≤ bound := ok.clock.trans here
  have vertices := foldl_ingestVertex nonneg s.vertices (c.vertices, {})
    (fun v member => (incoming.vertices v member).mono there) nonneg
  have edges := foldl_ingestEdge nonneg s.edges
    (c.edges, (s.vertices.foldl ingestVertex (c.vertices, {})).2)
    (fun e member => (incoming.edges e member).mono there) vertices.2
  refine ⟨vertices.1, edges.1, ?_⟩
  have seen := edges.2
  unfold GraphCRDT.mergeSnapshot GraphCRDT.applyLocked GraphCRDT.raiseClock
  dsimp only
  split <;> split <;> omega

/-- Everything a replica knows, as a point of a semilattice. -/
abbrev View := (String → Marks) × (String → Marks) × Int

def GraphCRDT.view (c : GraphCRDT) : View :=
  (vertexMarks c.vertices, edgeMarks c.edges, c.lamportClock)

def Snapshot.carried (s : Snapshot) : View :=
  (s.vertices.foldl (fun acc v => acc ⊔ v.carried) ⊥,
    s.edges.foldl (fun acc e => acc ⊔ e.carried) ⊥, s.lamportClock)

theorem mergeSnapshot_wellFormed {c : GraphCRDT} {s : Snapshot} (ok : GraphWellFormed table W c)
    (incoming : SnapshotWellFormed table W s) :
    GraphWellFormed table W (c.mergeSnapshot table s) := by
  obtain ⟨vertices, edges, clock⟩ := applyLocked_spec ok incoming rfl
  have here := le_max_left c.lamportClock s.lamportClock
  have there := le_max_right c.lamportClock s.lamportClock
  refine ⟨?_, ?_, ?_⟩
  · rw [clock]
    exact ok.clock.trans here
  · rw [clock, vertices]
    exact (vertexJoin W _).deliver_good s.vertices c.vertices (ok.vertices.mono here)
      (fun v member => (incoming.vertices v member).mono there)
  · rw [clock, edges]
    exact (edgeJoin table _).deliver_good s.edges c.edges (ok.edges.mono here)
      (fun e member => (incoming.edges e member).mono there)

theorem view_mergeSnapshot {c : GraphCRDT} {s : Snapshot} (ok : GraphWellFormed table W c)
    (incoming : SnapshotWellFormed table W s) :
    (c.mergeSnapshot table s).view = c.view ⊔ s.carried := by
  obtain ⟨vertices, edges, clock⟩ := applyLocked_spec ok incoming rfl
  have here := le_max_left c.lamportClock s.lamportClock
  have there := le_max_right c.lamportClock s.lamportClock
  have vertexView := (vertexJoin W _).view_deliver s.vertices c.vertices (ok.vertices.mono here)
    (fun v member => (incoming.vertices v member).mono there)
  have edgeView := (edgeJoin table _).view_deliver s.edges c.edges (ok.edges.mono here)
    (fun e member => (incoming.edges e member).mono there)
  unfold GraphCRDT.view
  rw [vertices, edges, clock]
  refine Prod.ext ?_ (Prod.ext ?_ rfl)
  · exact vertexView.trans (foldl_sup_from _ _ _)
  · exact edgeView.trans (foldl_sup_from _ _ _)

/-- Merging whole snapshots, as replication by join. -/
def replicaJoin (table : CaseTable) (W : Writes) : JoinMerge GraphCRDT Snapshot View where
  merge c s := c.mergeSnapshot table s
  view := GraphCRDT.view
  carried := Snapshot.carried
  goodState := GraphWellFormed table W
  goodMessage := SnapshotWellFormed table W
  preserved _ _ ok incoming := mergeSnapshot_wellFormed ok incoming
  join _ _ ok incoming := view_mergeSnapshot ok incoming

/-- Merge the snapshots one after another. -/
def mergeAll (table : CaseTable) (c : GraphCRDT) (snaps : List Snapshot) : GraphCRDT :=
  snaps.foldl (fun c s => c.mergeSnapshot table s) c

theorem mergeAll_clientID (c : GraphCRDT) (snaps : List Snapshot) :
    (mergeAll table c snaps).clientID = c.clientID := by
  induction snaps generalizing c with
  | nil => rfl
  | cons s rest ih => exact ih (c.mergeSnapshot table s)

/-- The view and the identity determine a well-formed replica. -/
theorem graph_ext {left right : GraphCRDT} (okLeft : GraphWellFormed table W left)
    (okRight : GraphWellFormed table W right) (identity : left.clientID = right.clientID)
    (same : left.view = right.view) : left = right := by
  simp only [GraphCRDT.view, Prod.mk.injEq] at same
  have vertices := vertices_ext okLeft.vertices okRight.vertices same.1
  have edges := edges_ext okLeft.edges okRight.edges same.2.1
  have clock := same.2.2
  cases left
  cases right
  simp_all

/-- A snapshot the replica already dominates is merged without a trace. -/
theorem applyLocked_settled {c : GraphCRDT} {s : Snapshot} (ok : GraphWellFormed table W c)
    (incoming : SnapshotWellFormed table W s) (below : s.carried ≤ c.view) :
    (c.applyLocked table s).1 = c ∧ (c.applyLocked table s).2.verticesJoined = 0 ∧
      (c.applyLocked table s).2.edgesJoined = 0 := by
  have same : c.mergeSnapshot table s = c :=
    graph_ext (mergeSnapshot_wellFormed ok incoming) ok rfl
      ((view_mergeSnapshot ok incoming).trans (sup_eq_left.mpr below))
  have vertices_below := ((foldl_sup_le_iff Vertex.carried s.vertices ⊥ _).mp below.1).2
  have edges_below := ((foldl_sup_le_iff Edge.carried s.edges ⊥ _).mp below.2.1).2
  obtain ⟨-, verticesJoined, edgesJoined⟩ := foldl_ingestVertex_settled s.vertices (c.vertices, {})
    ok.vertices incoming.vertices vertices_below
  obtain ⟨-, verticesJoined', edgesJoined'⟩ := foldl_ingestEdge_settled s.edges
    (c.edges, (s.vertices.foldl ingestVertex (c.vertices, {})).2) incoming.edges edges_below
  exact ⟨same, verticesJoined'.trans verticesJoined, edgesJoined'.trans edgesJoined⟩

/-! ## Runs of the fleet -/

/-- The replicas, and every snapshot taken so far. -/
structure Fleet (ι : Type) where
  replica : ι → GraphCRDT
  pool : List Snapshot

inductive Event (ι : Type) where
  | addVertex (i : ι) (id : String) (props : Properties)
  | removeVertex (i : ι) (id : String)
  | addEdge (i : ι) (source target relationship : String)
  | removeEdge (i : ι) (source target relationship : String)
  | takeSnapshot (i : ι)
  | merge (i j : ι)
  | mergeSnapshot (i : ι) (taken : Nat)

namespace Fleet

variable {ι : Type} [DecidableEq ι]

def start (generated clientIDs : ι → String) : Fleet ι where
  replica i := newGraphCRDT (generated i) (clientIDs i) 0
  pool := []

def set (σ : Fleet ι) (i : ι) (c : GraphCRDT) : Fleet ι :=
  { σ with replica := Function.update σ.replica i c }

/-- A mutation on replica `i`, enabled while its clock cannot overflow. -/
def mutate (σ : Fleet ι) (i : ι) (enabled : Bool) (op : GraphCRDT → GraphCRDT) :
    Option (Fleet ι) :=
  if enabled = true ∧ (σ.replica i).lamportClock < maxInt64 then
    some (σ.set i (op (σ.replica i)))
  else none

def step (table : CaseTable) (σ : Fleet ι) : Event ι → Option (Fleet ι)
  | .addVertex i id props => σ.mutate i true fun c => c.addVertex id props
  | .removeVertex i id => σ.mutate i true fun c => c.removeVertex id
  | .addEdge i source target relationship =>
    σ.mutate i (separatorFree source && separatorFree target && separatorFree relationship)
      fun c => c.addEdge table source target relationship
  | .removeEdge i source target relationship =>
    σ.mutate i (separatorFree source && separatorFree target && separatorFree relationship)
      fun c => c.removeEdge table source target relationship
  | .takeSnapshot i => some { σ with pool := (σ.replica i).snapshot :: σ.pool }
  | .merge i j =>
    if i = j then some σ
    else some (σ.set i ((σ.replica i).mergeSnapshot table (σ.replica j).snapshot))
  | .mergeSnapshot i taken =>
    match σ.pool[taken]? with
    | none => none
    | some s => some (σ.set i ((σ.replica i).mergeSnapshot table s))

/-- Every stored payload was issued under its stamp, and no replica's history holds
a stamp its clock has not reached. -/
structure Invariant (table : CaseTable) (W : Writes) (σ : Fleet ι) : Prop where
  distinct : Function.Injective fun i => (σ.replica i).clientID
  replicas : ∀ i, GraphWellFormed table W (σ.replica i)
  snapshots : ∀ s ∈ σ.pool, SnapshotWellFormed table W s
  issued : ∀ (i : ι) (u : String) (s : Int) (p : Properties),
    W u ⟨s, (σ.replica i).clientID⟩ = some p → s ≤ (σ.replica i).lamportClock

omit [DecidableEq ι] in
theorem invariant_start (generated clientIDs : ι → String)
    (distinct : Function.Injective fun i =>
      (newGraphCRDT (generated i) (clientIDs i) 0).clientID) :
    Invariant table (fun _ _ => none) (start generated clientIDs) where
  distinct := distinct
  replicas i := newGraphCRDT_wellFormed (generated i) (clientIDs i)
  snapshots s member := by cases member
  issued i u s p issued := by cases issued

/-- Replacing one replica by a successor under the same identity and a clock that
did not go back. -/
theorem Invariant.set {σ : Fleet ι} (inv : Invariant table W σ) (i : ι) (c : GraphCRDT)
    (grown : Extends W W') (ok : GraphWellFormed table W' c)
    (identity : c.clientID = (σ.replica i).clientID)
    (issued : ∀ (j : ι) (u : String) (s : Int) (p : Properties),
      W' u ⟨s, (σ.replica j).clientID⟩ = some p →
      s ≤ if j = i then c.lamportClock else (σ.replica j).lamportClock) :
    Invariant table W' (σ.set i c) := by
  have ids : ∀ j, ((σ.set i c).replica j).clientID = (σ.replica j).clientID := by
    intro j
    by_cases same : j = i
    · subst same
      simp only [Fleet.set, Function.update_self, identity]
    · simp only [Fleet.set, Function.update_of_ne same]
  refine ⟨?_, ?_, ?_, ?_⟩
  · intro j k same
    apply inv.distinct
    simpa only [ids] using same
  · intro j
    by_cases same : j = i
    · subst same
      simpa only [Fleet.set, Function.update_self] using ok
    · simpa only [Fleet.set, Function.update_of_ne same] using (inv.replicas j).extend grown
  · intro s member
    exact (inv.snapshots s member).extend grown
  · intro j u s p written
    rw [ids] at written
    have reached := issued j u s p written
    by_cases same : j = i
    · subst same
      simpa only [Fleet.set, Function.update_self, if_pos] using reached
    · simpa only [Fleet.set, Function.update_of_ne same, if_neg same] using reached

/-- A step that writes no payload keeps the history as it is. -/
theorem Invariant.set_same {σ : Fleet ι} (inv : Invariant table W σ) (i : ι) (c : GraphCRDT)
    (ok : GraphWellFormed table W c) (identity : c.clientID = (σ.replica i).clientID)
    (forward : (σ.replica i).lamportClock ≤ c.lamportClock) :
    Invariant table W (σ.set i c) := by
  refine inv.set i c (Extends.refl W) ok identity ?_
  intro j u s p written
  have reached := inv.issued j u s p written
  split
  next same =>
    subst same
    exact reached.trans forward
  next => exact reached

theorem Invariant.merged {σ : Fleet ι} (inv : Invariant table W σ) (i : ι) {s : Snapshot}
    (incoming : SnapshotWellFormed table W s) :
    Invariant table W (σ.set i ((σ.replica i).mergeSnapshot table s)) := by
  have ok := inv.replicas i
  refine inv.set_same i _ (mergeSnapshot_wellFormed ok incoming) rfl ?_
  rw [(applyLocked_spec ok incoming rfl).2.2]
  exact le_max_left _ _

theorem mutate_some {σ next : Fleet ι} {i : ι} {enabled : Bool} {op : GraphCRDT → GraphCRDT}
    (stepped : σ.mutate i enabled op = some next) :
    enabled = true ∧ (σ.replica i).lamportClock < maxInt64 ∧ next = σ.set i (op (σ.replica i)) := by
  unfold mutate at stepped
  split at stepped
  next allowed =>
    cases stepped
    exact ⟨allowed.1, allowed.2, rfl⟩
  next => cases stepped

theorem addVertex_clientID (c : GraphCRDT) (id : String) (props : Properties) :
    (c.addVertex id props).clientID = c.clientID := by
  unfold GraphCRDT.addVertex
  dsimp only
  split <;> rfl

theorem removeVertex_frame {c : GraphCRDT} (nonneg : 0 ≤ c.lamportClock)
    (room : c.lamportClock < maxInt64) (id : String) :
    (c.removeVertex id).clientID = c.clientID ∧
      c.lamportClock ≤ (c.removeVertex id).lamportClock := by
  unfold GraphCRDT.removeVertex
  dsimp only
  split
  · exact ⟨rfl, le_rfl⟩
  · rw [increment_of_lt _ nonneg room]
    exact ⟨rfl, by dsimp only; omega⟩

theorem addEdge_frame {c : GraphCRDT} (nonneg : 0 ≤ c.lamportClock)
    (room : c.lamportClock < maxInt64) (source target relationship : String) :
    (c.addEdge table source target relationship).clientID = c.clientID ∧
      c.lamportClock ≤ (c.addEdge table source target relationship).lamportClock := by
  unfold GraphCRDT.addEdge
  split
  · exact ⟨rfl, le_rfl⟩
  · rw [increment_of_lt _ nonneg room]
    exact ⟨rfl, by dsimp only; omega⟩

theorem removeEdge_frame {c : GraphCRDT} (nonneg : 0 ≤ c.lamportClock)
    (room : c.lamportClock < maxInt64) (source target relationship : String) :
    (c.removeEdge table source target relationship).clientID = c.clientID ∧
      c.lamportClock ≤ (c.removeEdge table source target relationship).lamportClock := by
  unfold GraphCRDT.removeEdge
  split
  · exact ⟨rfl, le_rfl⟩
  · rw [increment_of_lt _ nonneg room]
    exact ⟨rfl, by dsimp only; omega⟩

/-- A named vertex added by replica `i` enters the history under the next stamp. -/
theorem Invariant.addVertex {σ : Fleet ι} (inv : Invariant table W σ) (i : ι)
    (room : (σ.replica i).lamportClock < maxInt64) (id : String) (props : Properties) :
    ∃ W', Extends W W' ∧ Invariant table W' (σ.set i ((σ.replica i).addVertex id props)) := by
  have ok := inv.replicas i
  by_cases blank : trimSpace id = ""
  · have unchanged : (σ.replica i).addVertex id props = σ.replica i := by
      unfold GraphCRDT.addVertex
      rw [if_pos blank]
    rw [unchanged]
    exact ⟨W, Extends.refl W, inv.set_same i _ ok rfl le_rfl⟩
  · let stamp : WriteStamp := ⟨(σ.replica i).lamportClock + 1, (σ.replica i).clientID⟩
    let W' : Writes := fun u w =>
      if u = trimSpace id ∧ w = stamp then some props else W u w
    have unissued : ∀ u, W u stamp = none := by
      intro u
      cases held : W u stamp with
      | none => rfl
      | some p =>
        have reached := inv.issued i u _ p held
        omega
    have grown : Extends W W' := by
      intro u w p written
      show (if u = trimSpace id ∧ w = stamp then some props else W u w) = some p
      rw [if_neg]
      · exact written
      · rintro ⟨-, rfl⟩
        rw [unissued u] at written
        cases written
    have clock : ((σ.replica i).addVertex id props).lamportClock =
        (σ.replica i).lamportClock + 1 := by
      unfold GraphCRDT.addVertex
      rw [if_neg blank]
      exact increment_of_lt _ ok.clock room
    refine ⟨W', grown, inv.set i _ grown (addVertex_wellFormed ok room id props grown ?_)
      (addVertex_clientID _ id props) ?_⟩
    · exact if_pos ⟨rfl, rfl⟩
    · intro j u s p written
      by_cases new : u = trimSpace id ∧
          (⟨s, (σ.replica j).clientID⟩ : WriteStamp) = stamp
      · have same : j = i := inv.distinct (congrArg WriteStamp.clientID new.2)
        have at_stamp : s = (σ.replica i).lamportClock + 1 := congrArg WriteStamp.timestamp new.2
        rw [if_pos same, clock]
        exact at_stamp.le
      · have old : W u ⟨s, (σ.replica j).clientID⟩ = some p := by
          rw [← written]
          exact (if_neg new).symm
        have reached := inv.issued j u s p old
        split
        next same =>
          subst same
          omega
        next => exact reached

/-- Every step keeps the invariant, under a history that only grows. -/
theorem Invariant.step {σ next : Fleet ι} {event : Event ι} (inv : Invariant table W σ)
    (stepped : σ.step table event = some next) :
    ∃ W', Extends W W' ∧ Invariant table W' next := by
  cases event with
  | addVertex i id props =>
    simp only [Fleet.step] at stepped
    obtain ⟨-, room, rfl⟩ := mutate_some stepped
    exact inv.addVertex i room id props
  | removeVertex i id =>
    simp only [Fleet.step] at stepped
    obtain ⟨-, room, rfl⟩ := mutate_some stepped
    have ok := inv.replicas i
    have frame := removeVertex_frame ok.clock room id
    exact ⟨W, Extends.refl W,
      inv.set_same i _ (removeVertex_wellFormed ok room id) frame.1 frame.2⟩
  | addEdge i source target relationship =>
    simp only [Fleet.step] at stepped
    obtain ⟨free, room, rfl⟩ := mutate_some stepped
    simp only [Bool.and_eq_true] at free
    have ok := inv.replicas i
    have frame : ((σ.replica i).addEdge table source target relationship).clientID =
          (σ.replica i).clientID ∧ (σ.replica i).lamportClock ≤
        ((σ.replica i).addEdge table source target relationship).lamportClock :=
      addEdge_frame ok.clock room source target relationship
    exact ⟨W, Extends.refl W, inv.set_same i _
      (addEdge_wellFormed ok room source target relationship free.1.1 free.2) frame.1 frame.2⟩
  | removeEdge i source target relationship =>
    simp only [Fleet.step] at stepped
    obtain ⟨free, room, rfl⟩ := mutate_some stepped
    simp only [Bool.and_eq_true] at free
    have ok := inv.replicas i
    have frame : ((σ.replica i).removeEdge table source target relationship).clientID =
          (σ.replica i).clientID ∧ (σ.replica i).lamportClock ≤
        ((σ.replica i).removeEdge table source target relationship).lamportClock :=
      removeEdge_frame ok.clock room source target relationship
    exact ⟨W, Extends.refl W, inv.set_same i _
      (removeEdge_wellFormed ok room source target relationship free.1.1 free.2) frame.1 frame.2⟩
  | takeSnapshot i =>
    cases stepped
    refine ⟨W, Extends.refl W, { inv with snapshots := ?_ }⟩
    intro s member
    rcases List.mem_cons.mp member with rfl | older
    · exact snapshot_wellFormed (inv.replicas i)
    · exact inv.snapshots s older
  | merge i j =>
    simp only [Fleet.step] at stepped
    split at stepped
    next =>
      cases stepped
      exact ⟨W, Extends.refl W, inv⟩
    next =>
      cases stepped
      exact ⟨W, Extends.refl W, inv.merged i (snapshot_wellFormed (inv.replicas j))⟩
  | mergeSnapshot i taken =>
    simp only [Fleet.step] at stepped
    split at stepped
    next => cases stepped
    next s found =>
      cases stepped
      exact ⟨W, Extends.refl W, inv.merged i (inv.snapshots s (List.mem_of_getElem? found))⟩

/-- A whole run keeps the invariant. -/
theorem Invariant.run {σ final : Fleet ι} (events : List (Event ι)) (inv : Invariant table W σ)
    (ran : Library.run (Fleet.step table) σ events = some final) :
    ∃ W', Extends W W' ∧ Invariant table W' final :=
  run_preserves (Fleet.step table) (fun τ => ∃ W', Extends W W' ∧ Invariant table W' τ)
    (fun τ event next kept stepped => by
      obtain ⟨W', grown, inv'⟩ := kept
      obtain ⟨W'', further, inv''⟩ := inv'.step stepped
      exact ⟨W'', grown.trans further, inv''⟩)
    events σ final ⟨W, Extends.refl W, inv⟩ ran

/-- Strong eventual convergence: any replica of a run that merges the same set of
snapshots of the run, in any order and with any repetition, ends with the same
entries, and a snapshot merged before is merged again without a trace. -/
theorem snapshots_converge (table : CaseTable) (generated clientIDs : ι → String)
    (distinct : Function.Injective fun i =>
      (newGraphCRDT (generated i) (clientIDs i) 0).clientID)
    (before after : List (Event ι)) (earlier later : Fleet ι)
    (reached : Library.run (step table) (start generated clientIDs) before = some earlier)
    (continued : Library.run (step table) earlier after = some later)
    (i : ι) (snaps snaps' : List Snapshot) (taken : ∀ s ∈ snaps, s ∈ later.pool)
    (same : ∀ s, s ∈ snaps ↔ s ∈ snaps') :
    (mergeAll table (earlier.replica i) snaps).vertices =
        (mergeAll table (earlier.replica i) snaps').vertices ∧
      (mergeAll table (earlier.replica i) snaps).edges =
        (mergeAll table (earlier.replica i) snaps').edges ∧
      (∀ marshal sha, (mergeAll table (earlier.replica i) snaps).digest marshal sha =
        (mergeAll table (earlier.replica i) snaps').digest marshal sha) ∧
      ∀ s ∈ snaps,
        let merged := mergeAll table (earlier.replica i) snaps
        (merged.applyLocked table s).1 = merged ∧
          (merged.applyLocked table s).2.verticesJoined = 0 ∧
          (merged.applyLocked table s).2.edgesJoined = 0 := by
  obtain ⟨W, -, inv⟩ := (invariant_start generated clientIDs distinct).run before reached
  obtain ⟨W', grown, inv'⟩ := inv.run after continued
  have replica : GraphWellFormed table W' (earlier.replica i) := (inv.replicas i).extend grown
  have messages : ∀ s ∈ snaps, SnapshotWellFormed table W' s :=
    fun s member => inv'.snapshots s (taken s member)
  have messages' : ∀ s ∈ snaps', SnapshotWellFormed table W' s :=
    fun s member => messages s ((same s).mpr member)
  have good := (replicaJoin table W').deliver_good snaps _ replica messages
  have good' := (replicaJoin table W').deliver_good snaps' _ replica messages'
  have views := (replicaJoin table W').view_deliver_congr snaps snaps' _ replica messages same
  have equal : mergeAll table (earlier.replica i) snaps =
      mergeAll table (earlier.replica i) snaps' :=
    graph_ext good good' ((mergeAll_clientID _ snaps).trans (mergeAll_clientID _ snaps').symm) views
  refine ⟨by rw [equal], by rw [equal], fun marshal sha => by rw [equal], ?_⟩
  intro s member
  exact applyLocked_settled good (messages s member)
    ((replicaJoin table W').carried_le_view snaps _ replica messages s member)

theorem eastWest_distinct : Function.Injective fun east : Bool =>
    (newGraphCRDT "replica-0" (if east then "east" else "west") 0).clientID := by
  intro a b same
  cases a <;> cases b
  · rfl
  · exact absurd same (by decide)
  · exact absurd same (by decide)
  · rfl

/-- Two replicas that disagree about one vertex and exchange snapshots. -/
theorem snapshots_converge_pair :
    ∃ σ, Library.run (step asciiCase)
        (start (fun _ => "replica-0") fun east : Bool => if east then "east" else "west")
        [.addVertex true "pump" ∅, .removeVertex false "pump", .takeSnapshot true,
          .takeSnapshot false] = some σ ∧ σ.pool.length = 2 ∧
      (mergeAll asciiCase (σ.replica true) σ.pool).vertices =
        (mergeAll asciiCase (σ.replica true) σ.pool.reverse).vertices := by
  refine ⟨_, rfl, rfl, ?_⟩
  exact (snapshots_converge asciiCase (fun _ => "replica-0") _ eastWest_distinct
    [.addVertex true "pump" ∅, .removeVertex false "pump", .takeSnapshot true,
      .takeSnapshot false] [] _ _ rfl rfl true _ _
    (fun s member => member) (fun s => List.mem_reverse.symm)).1
end Fleet
end OpenOntology.Crdt
