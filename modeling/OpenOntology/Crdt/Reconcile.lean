import OpenOntology.Library.Upsert
import OpenOntology.Crdt.EdgeIdentity
import OpenOntology.Crdt.RoundTrip

/-!
# Joins that are aborted

`ReconcileRemoteDelta` joins a peer's snapshot under a context, which it checks every
`reconcileCheckStride` elements, and leaves what it has joined in place when the context is
done. A joined element joins again without a trace, so the whole snapshot goes in later as
if nothing had happened.
-/
namespace OpenOntology.Crdt
open Library

variable {table : CaseTable}

/-! ## The join under a context -/

/-- Elements joined between two looks at the context. -/
def reconcileCheckStride : Nat := 256

/-- Why a context is done. -/
inductive Interruption where
  | cancelled
  | budgetExceeded
  deriving DecidableEq, Repr

/-- What the checks of one reconciliation find. -/
structure Context where
  atEntry : Option Interruption := none
  atVertex : Nat → Option Interruption := fun _ => none
  atEdge : Nat → Option Interruption := fun _ => none

/-- A loop over the elements from place `i` on, with its checks. -/
def joinUnder {σ α : Type} (turn : σ → α → σ) (check : Nat → Option Interruption) :
    Nat → List α → σ → σ × Option Interruption
  | _, [], s => (s, none)
  | i, a :: rest, s =>
    match if i % reconcileCheckStride = 0 then check i else none with
    | some cause => (s, some cause)
    | none => joinUnder turn check (i + 1) rest (turn s a)

inductive ReconcileError where
  | nilRemoteState
  | interrupted (cause : Interruption)
  deriving DecidableEq, Repr

/-- The argument of a reconciliation. -/
inductive Remote where
  | nilState
  | itself
  | peer (d : GraphCRDT)

namespace GraphCRDT

/-- `applyLocked`. The clock is raised on the way out of an aborted join, too. -/
def applyLockedUnder (table : CaseTable) (ctx : Context) (c : GraphCRDT) (snap : Snapshot) :
    GraphCRDT × MergeReport × Option Interruption :=
  let vertices := joinUnder ingestVertex ctx.atVertex 0 snap.vertices (c.vertices, {})
  let edges :=
    match vertices.2 with
    | some cause => ((c.edges, vertices.1.2), some cause)
    | none => joinUnder (ingestEdge table) ctx.atEdge 0 snap.edges (c.edges, vertices.1.2)
  ({ c with
      vertices := vertices.1.1
      edges := edges.1.1
      lamportClock :=
        raiseClock (raiseClock c.lamportClock snap.lamportClock) edges.1.2.highestStamp },
    edges.1.2, edges.2)

def reconcileRemoteDelta (table : CaseTable) (ctx : Context) (c : GraphCRDT) :
    Remote → GraphCRDT × Option ReconcileError
  | .nilState => (c, some .nilRemoteState)
  | .itself => (c, none)
  | .peer remote =>
    match ctx.atEntry with
    | some cause => (c, some (.interrupted cause))
    | none =>
      let done := applyLockedUnder table ctx c remote.snapshot
      (done.1, done.2.2.map .interrupted)

end GraphCRDT

/-- The loop joins the elements in front, and all of them unless it is aborted. -/
theorem joinUnder_front {σ α : Type} (turn : σ → α → σ) (check : Nat → Option Interruption)
    (i : Nat) (l : List α) (s : σ) :
    ∃ front back, l = front ++ back ∧ (joinUnder turn check i l s).1 = front.foldl turn s ∧
      ((joinUnder turn check i l s).2 = none → back = []) := by
  induction l generalizing i s with
  | nil => exact ⟨[], [], rfl, rfl, fun _ => rfl⟩
  | cons a rest ih =>
    unfold joinUnder
    split
    next => exact ⟨[], a :: rest, rfl, rfl, fun finished => by cases finished⟩
    next =>
      obtain ⟨front, back, split_rest, joined, whole⟩ := ih (i + 1) (turn s a)
      exact ⟨a :: front, back, by rw [split_rest, List.cons_append], joined, whole⟩

/-- The part of a snapshot that an aborted join has been through. -/
structure Front (snap part : Snapshot) : Prop where
  clientID : part.clientID = snap.clientID
  clock : part.lamportClock = snap.lamportClock
  vertices : part.vertices <+: snap.vertices
  edges : part.edges <+: snap.edges
  /-- the edges come after the vertices -/
  order : part.edges ≠ [] → part.vertices = snap.vertices

/-- A join under a context is the join of what is in front. -/
theorem applyLockedUnder_front (ctx : Context) (c : GraphCRDT) (snap : Snapshot) :
    ∃ part, Front snap part ∧ (c.applyLockedUnder table ctx snap).1 = c.mergeSnapshot table part ∧
      (c.applyLockedUnder table ctx snap).2.1 = (c.applyLocked table part).2 ∧
      ((c.applyLockedUnder table ctx snap).2.2 = none → part = snap) := by
  obtain ⟨front, back, vertices, joined, whole⟩ :=
    joinUnder_front ingestVertex ctx.atVertex 0 snap.vertices (c.vertices, {})
  unfold GraphCRDT.applyLockedUnder GraphCRDT.mergeSnapshot GraphCRDT.applyLocked
  dsimp only
  cases finished : (joinUnder ingestVertex ctx.atVertex 0 snap.vertices (c.vertices, {})).2 with
  | some cause =>
    refine ⟨{ snap with vertices := front, edges := [] }, ?_, ?_, ?_, ?_⟩
    · exact ⟨rfl, rfl, ⟨back, vertices.symm⟩, List.nil_prefix,
        fun some_edge => absurd rfl some_edge⟩
    · dsimp only
      rw [joined]
      rfl
    · dsimp only
      rw [joined]
      rfl
    · intro never
      cases never
  | none =>
    obtain ⟨edgeFront, edgeBack, edges, edgesJoined, edgesWhole⟩ :=
      joinUnder_front (ingestEdge table) ctx.atEdge 0 snap.edges (c.edges,
        (joinUnder ingestVertex ctx.atVertex 0 snap.vertices (c.vertices, {})).1.2)
    have all : front = snap.vertices := by rw [vertices, whole finished, List.append_nil]
    refine ⟨{ snap with edges := edgeFront }, ?_, ?_, ?_, ?_⟩
    · exact ⟨rfl, rfl, List.prefix_rfl, ⟨edgeBack, edges.symm⟩, fun _ => rfl⟩
    · dsimp only
      rw [edgesJoined, joined, all]
    · dsimp only
      rw [edgesJoined, joined, all]
    · intro complete
      have last : edgeFront = snap.edges := by rw [edges, edgesWhole complete, List.append_nil]
      rw [last]

/-! ## Elements that are joined already -/

/-- The vertex half of the join: an entry that dominates a remote vertex holds it. -/
def vertexUpsert : Upsert VertexMap Vertex where
  apply m v := (joinVertexLocked m v).1
  holds m v := ∃ w, m[v.uuid]? = some w ∧ v.marks ≤ w.marks ∧ v.rank ≤ w.rank
  ready _ _ := True
  valid _ := True
  compatible _ _ := True
  lands n m v _ _ := by
    refine ⟨⟨absorb m[v.uuid]? v, ?_, ?_⟩, trivial⟩
    · rw [joinVertexLocked_getElem?, if_pos rfl]
    · cases m[v.uuid]? with
      | none => exact ⟨le_rfl, le_rfl⟩
      | some w =>
        rw [absorb_marks, (absorb_rank w v).1]
        refine ⟨le_sup_right, ?_⟩
        split
        next => exact le_rfl
        next not_above => exact not_lt.mp not_above
  keeps n m v b _ _ _ _ held := by
    obtain ⟨w, stored, marks, rank⟩ := held
    by_cases same : b.uuid = v.uuid
    · refine ⟨absorb (some w) b, ?_, ?_, ?_⟩
      · rw [joinVertexLocked_getElem?, if_pos same, stored]
      · rw [absorb_marks]
        exact marks.trans le_sup_left
      · rw [(absorb_rank w b).1]
        split
        next above => exact rank.trans above.le
        next => exact rank
    · refine ⟨w, ?_, marks, rank⟩
      rw [joinVertexLocked_getElem?, if_neg same, stored]

theorem vertexUpsert_idle (m : VertexMap) (v : Vertex) (held : vertexUpsert.holds m v) :
    vertexUpsert.apply m v = m := by
  obtain ⟨w, stored, marks, rank⟩ := held
  apply Std.ExtTreeMap.ext_getElem?
  intro u
  change (joinVertexLocked m v).1[u]? = m[u]?
  rw [joinVertexLocked_getElem?]
  split
  next same =>
    obtain ⟨add, remove⟩ := mergeTimelines_of_le _ _ _ _ marks
    rw [← same, stored]
    unfold absorb
    dsimp only
    rw [add, remove, joinPayload_eq, if_neg (not_lt.mpr rank)]
  next => rfl

/-- The edge half. -/
def edgeUpsert : Upsert EdgeMap Edge where
  apply m e := (joinEdgeLocked m e).1
  holds m e := ∃ f, m[e.key]? = some f ∧ e.marks ≤ f.marks
  ready _ _ := True
  valid _ := True
  compatible _ _ := True
  lands n m e _ _ := by
    refine ⟨?_, trivial⟩
    unfold joinEdgeLocked
    cases m[e.key]? with
    | none => exact ⟨e, Std.ExtTreeMap.getElem?_insert_self, le_rfl⟩
    | some f =>
      refine ⟨_, Std.ExtTreeMap.getElem?_insert_self, ?_⟩
      exact le_sup_right.trans (marks_mergeTimelineInto _ _ _ _).ge
  keeps n m e b _ _ _ _ held := by
    obtain ⟨f, stored, marks⟩ := held
    by_cases same : b.key = e.key
    · unfold joinEdgeLocked
      rw [same, stored]
      refine ⟨_, Std.ExtTreeMap.getElem?_insert_self, ?_⟩
      exact (marks.trans le_sup_left).trans (marks_mergeTimelineInto _ _ _ _).ge
    · exact ⟨f, (joinEdgeLocked_of_ne m b same).trans stored, marks⟩

theorem edgeUpsert_idle (m : EdgeMap) (e : Edge) (held : edgeUpsert.holds m e) :
    edgeUpsert.apply m e = m := by
  obtain ⟨f, stored, marks⟩ := held
  obtain ⟨add, remove⟩ := mergeTimelines_of_le _ _ _ _ marks
  apply Std.ExtTreeMap.ext_getElem?
  intro k
  change (joinEdgeLocked m e).1[k]? = m[k]?
  unfold joinEdgeLocked
  rw [stored]
  dsimp only
  rw [add, remove, Std.ExtTreeMap.getElem?_insert]
  split
  next same => rw [← Std.LawfulEqCmp.compare_eq_iff_eq.mp same, stored]
  next => rfl

/-- The elements in front, joined again on the way through the whole list. -/
theorem foldl_append_again {σ α : Type} (U : Upsert σ α)
    (idle : ∀ s a, U.holds s a → U.apply s a = s)
    (free : ∀ n s, U.ready n s) (valid : ∀ a, U.valid a) (compatible : ∀ a b, U.compatible a b)
    {front back : List α} (s : σ) :
    (front ++ back).foldl U.apply (front.foldl U.apply s) = (front ++ back).foldl U.apply s := by
  rw [List.foldl_append, List.foldl_append,
    U.foldl_twice idle front 0 s (free _ s) (fun a _ => valid a) fun a _ b _ => compatible a b]

theorem vertices_again (front back : List Vertex) (m : VertexMap) (r r' r'' : MergeReport) :
    ((front ++ back).foldl ingestVertex ((front.foldl ingestVertex (m, r)).1, r')).1 =
      ((front ++ back).foldl ingestVertex (m, r'')).1 := by
  simp only [foldl_ingestVertex_admitted, List.map_append, List.filter_append]
  exact foldl_append_again vertexUpsert vertexUpsert_idle (fun _ _ => trivial) (fun _ => trivial)
    (fun _ _ => trivial) m

theorem edges_again (front back : List Edge) (m : EdgeMap) (r r' r'' : MergeReport) :
    ((front ++ back).foldl (ingestEdge table) ((front.foldl (ingestEdge table) (m, r)).1, r')).1 =
      ((front ++ back).foldl (ingestEdge table) (m, r'')).1 := by
  simp only [foldl_ingestEdge_admitted, List.map_append, List.filter_append]
  exact foldl_append_again edgeUpsert edgeUpsert_idle (fun _ _ => trivial) (fun _ => trivial)
    (fun _ _ => trivial) m

/-! ## The highest stamp of a loop -/

theorem maxStamp_mono {a a' : Int} (below : a ≤ a') (b c : Int) :
    maxStamp [a, b, c] ≤ maxStamp [a', b, c] := by
  obtain ⟨nonneg, first, second, third⟩ := (maxStamp_three a' b c _).mp le_rfl
  exact (maxStamp_three a b c _).mpr ⟨nonneg, below.trans first, second, third⟩

/-- What the vertex loop has seen is a matter of the elements, not of the map. -/
theorem foldl_ingestVertex_mono (l : List Vertex) (acc acc' : VertexMap × MergeReport)
    (below : acc.2.highestStamp ≤ acc'.2.highestStamp) :
    (l.foldl ingestVertex acc).2.highestStamp ≤ (l.foldl ingestVertex acc').2.highestStamp := by
  induction l generalizing acc acc' with
  | nil => exact below
  | cons v rest ih =>
    rw [List.foldl_cons, List.foldl_cons]
    refine ih (ingestVertex acc v) (ingestVertex acc' v) ?_
    unfold ingestVertex
    dsimp only
    split
    next => exact below
    next => exact maxStamp_mono below _ _

theorem foldl_ingestEdge_mono (l : List Edge) (acc acc' : EdgeMap × MergeReport)
    (below : acc.2.highestStamp ≤ acc'.2.highestStamp) :
    (l.foldl (ingestEdge table) acc).2.highestStamp ≤
      (l.foldl (ingestEdge table) acc').2.highestStamp := by
  induction l generalizing acc acc' with
  | nil => exact below
  | cons e rest ih =>
    rw [List.foldl_cons, List.foldl_cons]
    refine ih (ingestEdge table acc e) (ingestEdge table acc' e) ?_
    unfold ingestEdge
    dsimp only
    split
    next => exact below
    next => exact maxStamp_mono below _ _

theorem foldl_ingestVertex_grows (l : List Vertex) (acc : VertexMap × MergeReport) :
    acc.2.highestStamp ≤ (l.foldl ingestVertex acc).2.highestStamp :=
  (foldl_ingestVertex_below l acc le_rfl).1

theorem foldl_ingestEdge_grows (l : List Edge) (acc : EdgeMap × MergeReport) :
    acc.2.highestStamp ≤ (l.foldl (ingestEdge table) acc).2.highestStamp :=
  foldl_ingestEdge_ceiling l acc le_rfl

/-- The join lets the element in. -/
def Vertex.Admitted (v : Vertex) : Prop := trimSpace v.uuid ≠ "" ∧ v.observed = true

def Edge.Admitted (table : CaseTable) (e : Edge) : Prop :=
  (∃ t, Names table e.sourceUUID e.targetUUID e.relationshipType t) ∧ e.observed = true

theorem ingestVertex_seen (acc : VertexMap × MergeReport) {v : Vertex} (admitted : v.Admitted) :
    highestStamp v.addTimeline ≤ (ingestVertex acc v).2.highestStamp ∧
      highestStamp v.removeTimeline ≤ (ingestVertex acc v).2.highestStamp := by
  have let_in : ¬(trimSpace v.uuid = "" ∨
      ({ v with uuid := trimSpace v.uuid } : Vertex).observed = false) := by
    intro refused
    rcases refused with blank | untouched
    · exact admitted.1 blank
    · exact absurd (untouched.symm.trans admitted.2) Bool.false_ne_true
  unfold ingestVertex
  dsimp only
  rw [if_neg let_in]
  obtain ⟨-, -, add, remove⟩ := (maxStamp_three _ _ _ _).mp (le_refl
    (maxStamp [acc.2.highestStamp, highestStamp v.addTimeline, highestStamp v.removeTimeline]))
  exact ⟨add, remove⟩

theorem ingestEdge_seen (acc : EdgeMap × MergeReport) {e : Edge} (admitted : e.Admitted table) :
    highestStamp e.addTimeline ≤ (ingestEdge table acc e).2.highestStamp ∧
      highestStamp e.removeTimeline ≤ (ingestEdge table acc e).2.highestStamp := by
  obtain ⟨⟨t, names⟩, observed⟩ := admitted
  obtain ⟨source, target, relationship, named⟩ := normalizeEdge_some names
  rw [source, target, relationship] at named
  have let_in : ¬(trimSpace e.sourceUUID = "" ∨ trimSpace e.targetUUID = "" ∨
      table.upper (trimSpace e.relationshipType) = "" ∨
      ({ e with sourceUUID := trimSpace e.sourceUUID, targetUUID := trimSpace e.targetUUID
                relationshipType := table.upper (trimSpace e.relationshipType) } : Edge).observed =
        false) := by
    intro refused
    rcases refused with blank | blank | blank | untouched
    · exact named.1 blank
    · exact named.2.1 blank
    · exact named.2.2 blank
    · exact absurd (untouched.symm.trans observed) Bool.false_ne_true
  unfold ingestEdge
  dsimp only
  rw [if_neg let_in]
  obtain ⟨-, -, add, remove⟩ := (maxStamp_three _ _ _ _).mp (le_refl
    (maxStamp [acc.2.highestStamp, highestStamp e.addTimeline, highestStamp e.removeTimeline]))
  exact ⟨add, remove⟩

theorem foldl_ingestVertex_seen (l : List Vertex) (acc : VertexMap × MergeReport) :
    ∀ v ∈ l, v.Admitted →
      highestStamp v.addTimeline ≤ (l.foldl ingestVertex acc).2.highestStamp ∧
        highestStamp v.removeTimeline ≤ (l.foldl ingestVertex acc).2.highestStamp := by
  induction l generalizing acc with
  | nil =>
    intro v member
    cases member
  | cons w rest ih =>
    intro v member admitted
    rw [List.foldl_cons]
    rcases List.mem_cons.mp member with rfl | later
    · have grown := foldl_ingestVertex_grows rest (ingestVertex acc v)
      obtain ⟨add, remove⟩ := ingestVertex_seen acc admitted
      exact ⟨add.trans grown, remove.trans grown⟩
    · exact ih (ingestVertex acc w) v later admitted

theorem foldl_ingestEdge_seen (l : List Edge) (acc : EdgeMap × MergeReport) :
    ∀ e ∈ l, e.Admitted table →
      highestStamp e.addTimeline ≤ (l.foldl (ingestEdge table) acc).2.highestStamp ∧
        highestStamp e.removeTimeline ≤ (l.foldl (ingestEdge table) acc).2.highestStamp := by
  induction l generalizing acc with
  | nil =>
    intro e member
    cases member
  | cons f rest ih =>
    intro e member admitted
    rw [List.foldl_cons]
    rcases List.mem_cons.mp member with rfl | later
    · have grown := @foldl_ingestEdge_grows table rest (ingestEdge table acc e)
      obtain ⟨add, remove⟩ := ingestEdge_seen acc admitted
      exact ⟨add.trans grown, remove.trans grown⟩
    · exact ih (ingestEdge table acc f) e later admitted

/-! ## Aborted joins -/

theorem foldl_ingestVertex_inspected (l : List Vertex) (acc : VertexMap × MergeReport) :
    (l.foldl ingestVertex acc).2.inspected = acc.2.inspected + l.length := by
  induction l generalizing acc with
  | nil => rfl
  | cons v rest ih =>
    rw [List.foldl_cons, ih, List.length_cons]
    unfold ingestVertex
    dsimp only
    split <;> dsimp only <;> omega

theorem foldl_ingestEdge_inspected (l : List Edge) (acc : EdgeMap × MergeReport) :
    (l.foldl (ingestEdge table) acc).2.inspected = acc.2.inspected + l.length := by
  induction l generalizing acc with
  | nil => rfl
  | cons e rest ih =>
    rw [List.foldl_cons, ih, List.length_cons]
    unfold ingestEdge
    dsimp only
    split <;> dsimp only <;> omega

/-- The highest stamp that the join of a snapshot sees. -/
def Snapshot.highest (table : CaseTable) (snap : Snapshot) : Int :=
  (snap.edges.foldl (ingestEdge table) (∅, (snap.vertices.foldl ingestVertex (∅, {})).2)).2.highestStamp

theorem applyLocked_highest (c : GraphCRDT) (snap : Snapshot) :
    (c.applyLocked table snap).2.highestStamp = snap.highest table := by
  have vertices := le_antisymm
    (foldl_ingestVertex_mono snap.vertices (c.vertices, {}) (∅, {}) le_rfl)
    (foldl_ingestVertex_mono snap.vertices (∅, {}) (c.vertices, {}) le_rfl)
  exact le_antisymm (foldl_ingestEdge_mono snap.edges _ _ vertices.le)
    (foldl_ingestEdge_mono snap.edges _ _ vertices.ge)

theorem mergeSnapshot_lamportClock (c : GraphCRDT) (snap : Snapshot) :
    (c.mergeSnapshot table snap).lamportClock =
      max (max c.lamportClock snap.lamportClock) (snap.highest table) := by
  have clock : (c.mergeSnapshot table snap).lamportClock = GraphCRDT.raiseClock
      (GraphCRDT.raiseClock c.lamportClock snap.lamportClock)
      (c.applyLocked table snap).2.highestStamp := rfl
  rw [clock, applyLocked_highest, raiseClock_eq_max, raiseClock_eq_max]

theorem Front.highest_le {snap part : Snapshot} (front : Front snap part) :
    part.highest table ≤ snap.highest table := by
  obtain ⟨-, -, ⟨back, vertices⟩, ⟨edgeBack, edges⟩, -⟩ := front
  have first : (part.vertices.foldl ingestVertex (∅, {})).2.highestStamp ≤
      (snap.vertices.foldl ingestVertex (∅, {})).2.highestStamp := by
    rw [← vertices, List.foldl_append]
    exact foldl_ingestVertex_grows back _
  unfold Snapshot.highest
  rw [← edges, List.foldl_append]
  exact (foldl_ingestEdge_mono part.edges _ _ first).trans (foldl_ingestEdge_grows edgeBack _)

/-- A snapshot joined in after its own front leaves what it leaves by itself. -/
theorem mergeSnapshot_front (c : GraphCRDT) {snap part : Snapshot} (front : Front snap part) :
    (c.mergeSnapshot table part).mergeSnapshot table snap = c.mergeSnapshot table snap := by
  have below : part.highest table ≤ snap.highest table := front.highest_le
  have clock : ((c.mergeSnapshot table part).mergeSnapshot table snap).lamportClock =
      (c.mergeSnapshot table snap).lamportClock := by
    rw [mergeSnapshot_lamportClock, mergeSnapshot_lamportClock, mergeSnapshot_lamportClock,
      front.clock]
    omega
  obtain ⟨-, -, ⟨back, vertices⟩, ⟨edgeBack, edges⟩, -⟩ := front
  have vertexMap := vertices_again part.vertices back c.vertices {} {} {}
  have edgeMap := @edges_again table part.edges edgeBack c.edges
    (part.vertices.foldl ingestVertex (c.vertices, {})).2
    (snap.vertices.foldl ingestVertex ((c.mergeSnapshot table part).vertices, {})).2
    (snap.vertices.foldl ingestVertex (c.vertices, {})).2
  rw [vertices] at vertexMap
  rw [edges] at edgeMap
  exact GraphCRDT.mk.injEq .. ▸ ⟨rfl, clock, vertexMap, edgeMap⟩

/-- Whether it is aborted or not, a reconciliation changes nothing for a later merge. -/
theorem reconcile_then_merge (ctx : Context) (c remote : GraphCRDT) :
    (c.reconcileRemoteDelta table ctx (.peer remote)).1.mergeSnapshot table remote.snapshot =
      c.mergeSnapshot table remote.snapshot := by
  unfold GraphCRDT.reconcileRemoteDelta
  dsimp only
  cases ctx.atEntry with
  | some cause => rfl
  | none =>
    obtain ⟨part, front, state, -, -⟩ := @applyLockedUnder_front table ctx c remote.snapshot
    dsimp only
    rw [state]
    exact mergeSnapshot_front c front

/-- A reconciliation that reports no error is the merge of the peer's snapshot. -/
theorem reconcile_complete (ctx : Context) (c remote : GraphCRDT)
    (finished : (c.reconcileRemoteDelta table ctx (.peer remote)).2 = none) :
    (c.reconcileRemoteDelta table ctx (.peer remote)).1 =
      c.mergeSnapshot table remote.snapshot := by
  unfold GraphCRDT.reconcileRemoteDelta at finished ⊢
  dsimp only at finished ⊢
  cases entry : ctx.atEntry with
  | some cause =>
    rw [entry] at finished
    cases finished
  | none =>
    rw [entry] at finished
    obtain ⟨part, -, state, -, whole⟩ := @applyLockedUnder_front table ctx c remote.snapshot
    have same : part = remote.snapshot := whole (Option.map_eq_none_iff.mp finished)
    dsimp only
    rw [state, same]

/-- The replica after some reconciliations with one peer. -/
def GraphCRDT.afterAttempts (table : CaseTable) (c remote : GraphCRDT) (attempts : List Context) :
    GraphCRDT :=
  attempts.foldl (fun d ctx => (d.reconcileRemoteDelta table ctx (.peer remote)).1) c

/-- The clock is at least every stamp of what a reconciliation has joined, which is what is
in front of the snapshot. -/
structure ClockCovers (table : CaseTable) (snap : Snapshot) (next : GraphCRDT)
    (report : MergeReport) : Prop where
  vertices : ∀ v ∈ snap.vertices.take report.inspected, v.Admitted →
    StampsBelow next.lamportClock v.addTimeline ∧ StampsBelow next.lamportClock v.removeTimeline
  edges : ∀ e ∈ snap.edges.take (report.inspected - snap.vertices.length), e.Admitted table →
    StampsBelow next.lamportClock e.addTimeline ∧ StampsBelow next.lamportClock e.removeTimeline

theorem applyLockedUnder_covers (ctx : Context) (c : GraphCRDT) (snap : Snapshot) :
    ClockCovers table snap (c.applyLockedUnder table ctx snap).1
      (c.applyLockedUnder table ctx snap).2.1 := by
  obtain ⟨part, front, state, report, -⟩ := @applyLockedUnder_front table ctx c snap
  have inspected : (c.applyLocked table part).2.inspected =
      part.vertices.length + part.edges.length := by
    unfold GraphCRDT.applyLocked
    dsimp only
    rw [foldl_ingestEdge_inspected, foldl_ingestVertex_inspected, Nat.zero_add]
  have clock : part.highest table ≤ (c.mergeSnapshot table part).lamportClock := by
    rw [mergeSnapshot_lamportClock]
    exact le_max_right _ _
  have below : ∀ t : Timeline, highestStamp t ≤ part.highest table →
      StampsBelow (c.mergeSnapshot table part).lamportClock t :=
    fun t seen => stampsBelow_of_highestStamp (seen.trans clock)
  have vertexPart :
      snap.vertices.take (part.vertices.length + part.edges.length) = part.vertices := by
    by_cases none_yet : part.edges = []
    · rw [none_yet, List.length_nil, Nat.add_zero]
      exact (List.prefix_iff_eq_take.mp front.vertices).symm
    · rw [front.order none_yet]
      exact List.take_of_length_le (Nat.le_add_right _ _)
  have edgePart : snap.edges.take (part.vertices.length + part.edges.length -
      snap.vertices.length) = part.edges := by
    by_cases none_yet : part.edges = []
    · have shorter := front.vertices.length_le
      rw [none_yet, List.length_nil, Nat.add_zero, Nat.sub_eq_zero_of_le shorter, List.take_zero]
    · rw [front.order none_yet, Nat.add_sub_cancel_left]
      exact (List.prefix_iff_eq_take.mp front.edges).symm
  rw [state, report]
  refine ⟨?_, ?_⟩
  · rw [inspected, vertexPart]
    intro v member admitted
    obtain ⟨add, remove⟩ := foldl_ingestVertex_seen part.vertices (∅, {}) v member admitted
    have grown := @foldl_ingestEdge_grows table part.edges
      (∅, (part.vertices.foldl ingestVertex (∅, {})).2)
    exact ⟨below _ (add.trans grown), below _ (remove.trans grown)⟩
  · rw [inspected, edgePart]
    intro e member admitted
    obtain ⟨add, remove⟩ := foldl_ingestEdge_seen part.edges _ e member admitted
    exact ⟨below _ add, below _ remove⟩

/-- However often and wherever reconciliations with a peer were aborted, a complete merge of
the peer's snapshot leaves what one uninterrupted merge leaves, and after every abort the
clock covers what was joined. -/
theorem aborted_joins_harmless (table : CaseTable) (c remote : GraphCRDT)
    (attempts : List Context) :
    (GraphCRDT.afterAttempts table c remote attempts).mergeSnapshot table remote.snapshot =
        c.mergeSnapshot table remote.snapshot ∧
      ∀ ctx, ClockCovers table remote.snapshot
        ((GraphCRDT.afterAttempts table c remote attempts).applyLockedUnder table ctx remote.snapshot).1
        ((GraphCRDT.afterAttempts table c remote attempts).applyLockedUnder table ctx
          remote.snapshot).2.1 := by
  refine ⟨?_, fun ctx => applyLockedUnder_covers ctx _ _⟩
  unfold GraphCRDT.afterAttempts
  induction attempts generalizing c with
  | nil => rfl
  | cons ctx rest ih => rw [List.foldl_cons, ih, reconcile_then_merge]

end OpenOntology.Crdt
