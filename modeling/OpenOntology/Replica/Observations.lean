import OpenOntology.Crdt.RoundTrip
import OpenOntology.GraphRag.Assessment
import OpenOntology.GraphRag.Payload
import OpenOntology.Library.Load
import OpenOntology.Replica.Observe

/-!
# What a replica reports of a vertex

The rows the engine attaches to a mutation, one for every writer of the vertex's timelines,
and the two readings of them: a contested topology in the interceptor before the agents, and
the presence and the diverging replicas in the kernel.
-/
namespace OpenOntology.Replica
open Crdt Library

/-! ## The rows -/

/-- One writer's stamps on a vertex. -/
structure ReplicaObservation where
  replicaID : String
  addStamp : Int := 0
  removeStamp : Int := 0

namespace ReplicaObservation

/-- The row of a writer, over what the writer's add stamp left. -/
def withRemove (replica : String) (stamp : Int) : Option ReplicaObservation → ReplicaObservation
  | some existing => { existing with removeStamp := stamp }
  | none => { replicaID := replica, removeStamp := stamp }

/-- An equal pair is a tie, and a tie resolves to removed. -/
def isLive (o : ReplicaObservation) : Bool := o.addStamp > o.removeStamp

/-- The row as the kernel's contract receives it. -/
def posted (o : ReplicaObservation) : GraphRag.InboundObservation where
  replicaID := o.replicaID
  addStamp := o.addStamp
  removeStamp := o.removeStamp

end ReplicaObservation

def byReplica (v : Vertex) : Std.ExtTreeMap String ReplicaObservation :=
  v.removeTimeline.foldl
    (fun rows replica stamp =>
      rows.insert replica (ReplicaObservation.withRemove replica stamp rows[replica]?))
    (v.addTimeline.foldl
      (fun rows replica stamp => rows.insert replica { replicaID := replica, addStamp := stamp }) ∅)

def rowsOf (v : Vertex) : List ReplicaObservation :=
  ((byReplica v).toList.map Prod.snd).mergeSort fun a b => a.replicaID ≤ b.replicaID

def TopologyReplica.observations (r : TopologyReplica) (assetID : String) :
    List ReplicaObservation :=
  if r.enabled = false ∨ assetID = "" then []
  else
    match r.crdt.lookupVertex assetID with
    | none => []
    | some v => rowsOf v

/-! ## The readings -/

/-- `topology_is_contested`: the rows do not all say the same. -/
def topologyIsContested (rows : List ReplicaObservation) : Bool :=
  if rows.length < 2 then false
  else (rows.map ReplicaObservation.isLive).eraseDups.length > 1

def readings (rows : List ReplicaObservation) : List GraphRag.ReplicaObservation :=
  rows.map fun row => row.posted.validated

/-- The kernel's assessment of the rows, each of which its contract has to accept. -/
def assess (formatG : Float → String) (rows : List ReplicaObservation) (hasLiveDownstream : Bool)
    (rate : Float) (telemetryIsLive : Bool) : Except String GraphRag.CRDTAssessment :=
  if rows.all fun row => row.posted.accepted then
    GraphRag.resolveCrdtPresence formatG (readings rows) hasLiveDownstream rate telemetryIsLive
  else .error "replica observation refused"

/-- Every row meets the kernel's bounds, the collision rate is not negative, and the
explanation is short enough. -/
def Acceptable (formatG : Float → String) (rows : List ReplicaObservation)
    (hasLiveDownstream : Bool) (rate : Float) (telemetryIsLive : Bool) : Prop :=
  (∀ row ∈ rows, row.posted.accepted = true) ∧ ¬rate < 0 ∧ (readings rows = [] ∨
    GraphRag.explanationLength formatG (readings rows) hasLiveDownstream rate telemetryIsLive ≤ 1200)

theorem assess_ok_iff (formatG : Float → String) (rows : List ReplicaObservation)
    (hasLiveDownstream : Bool) (rate : Float) (telemetryIsLive : Bool) :
    (∃ assessment, assess formatG rows hasLiveDownstream rate telemetryIsLive = .ok assessment) ↔
      Acceptable formatG rows hasLiveDownstream rate telemetryIsLive := by
  unfold assess Acceptable
  rw [← GraphRag.resolve_ok_iff, ← List.all_eq_true]
  split
  next accepted => exact (and_iff_right accepted).symm
  next refused =>
    refine iff_of_false ?_ fun both => refused both.1
    rintro ⟨_, made⟩
    cases made

theorem assess_ok {formatG : Float → String} {rows : List ReplicaObservation}
    {hasLiveDownstream telemetryIsLive : Bool} {rate : Float}
    {assessment : GraphRag.CRDTAssessment}
    (assessed : assess formatG rows hasLiveDownstream rate telemetryIsLive = .ok assessment) :
    (∀ row ∈ rows, row.posted.accepted = true) ∧
      GraphRag.resolveCrdtPresence formatG (readings rows) hasLiveDownstream rate telemetryIsLive =
        .ok assessment := by
  unfold assess at assessed
  split at assessed
  next accepted => exact ⟨List.all_eq_true.mp accepted, assessed⟩
  next => cases assessed

/-! ## What the rows hold -/

theorem byReplica_getElem? (v : Vertex) (replica : String) :
    (byReplica v)[replica]? =
      if v.addTimeline[replica]? = none ∧ v.removeTimeline[replica]? = none then none
      else some ⟨replica, v.addTimeline.getD replica 0, v.removeTimeline.getD replica 0⟩ := by
  unfold byReplica
  rw [foldl_file_getElem? ReplicaObservation.withRemove]
  have added := foldl_file_getElem?
    (fun replica stamp (_ : Option ReplicaObservation) => ⟨replica, stamp, 0⟩) v.addTimeline ∅ replica
  rw [added, Std.ExtTreeMap.getElem?_empty, Std.ExtTreeMap.getD_eq_getD_getElem?,
    Std.ExtTreeMap.getD_eq_getD_getElem?]
  cases v.addTimeline[replica]? <;> cases v.removeTimeline[replica]? <;>
    simp [ReplicaObservation.withRemove]

theorem mem_rowsOf (v : Vertex) (row : ReplicaObservation) : row ∈ rowsOf v ↔
    (row.replicaID ∈ v.addTimeline ∨ row.replicaID ∈ v.removeTimeline) ∧
      row.addStamp = v.addTimeline.getD row.replicaID 0 ∧
      row.removeStamp = v.removeTimeline.getD row.replicaID 0 := by
  have filed : FiledBy ReplicaObservation.replicaID (byReplica v) := by
    intro replica row held
    rw [byReplica_getElem?] at held
    split at held
    next => cases held
    next => rw [← Option.some.inj held]
  unfold rowsOf
  rw [mem_values_iff filed (List.mergeSort_perm _ _), byReplica_getElem?]
  have known : (v.addTimeline[row.replicaID]? = none ∧ v.removeTimeline[row.replicaID]? = none) ↔
      ¬(row.replicaID ∈ v.addTimeline ∨ row.replicaID ∈ v.removeTimeline) := by
    rw [Std.ExtTreeMap.mem_iff_isSome_getElem?, Std.ExtTreeMap.mem_iff_isSome_getElem?]
    cases v.addTimeline[row.replicaID]? <;> cases v.removeTimeline[row.replicaID]? <;> simp
  split
  next absent => simp [known.mp absent]
  next present =>
    have writer := not_not.mp fun absent => present (known.mpr absent)
    obtain ⟨replica, add, remove⟩ := row
    simp [writer, eq_comm]

/-! ## The highest stamps -/

theorem foldl_max_le_iff (l : List Nat) (start b : Nat) :
    l.foldl Nat.max start ≤ b ↔ start ≤ b ∧ ∀ n ∈ l, n ≤ b := by
  induction l generalizing start with
  | nil => simp
  | cons n rest ih =>
    rw [List.foldl_cons, ih, List.forall_mem_cons, Nat.max_le, and_assoc]

/-- The greatest stamp of the rows is the timeline's. -/
theorem foldl_max_rows {t : Timeline} {rows : List ReplicaObservation}
    {stamp : ReplicaObservation → Int} (held : ∀ row ∈ rows, stamp row = t.getD row.replicaID 0)
    (shown : ∀ replica ∈ t, ∃ row ∈ rows, row.replicaID = replica) :
    (rows.map fun row => (stamp row).toNat).foldl Nat.max 0 = (highestStamp t).toNat := by
  apply le_antisymm
  · rw [foldl_max_le_iff]
    refine ⟨Nat.zero_le _, fun n member => ?_⟩
    obtain ⟨row, inside, rfl⟩ := List.mem_map.mp member
    rw [held row inside, Std.ExtTreeMap.getD_eq_getD_getElem?]
    cases found : t[row.replicaID]? with
    | none => simp
    | some s =>
      have most := le_highestStamp t row.replicaID s found
      simp only [Option.getD_some]
      omega
  · have bound : highestStamp t ≤ ((rows.map fun row => (stamp row).toNat).foldl Nat.max 0 : Nat) := by
      rw [highestStamp_le_iff]
      refine ⟨Int.natCast_nonneg _, fun replica s found => ?_⟩
      have member : replica ∈ t := by
        rw [Std.ExtTreeMap.mem_iff_isSome_getElem?, found]
        rfl
      obtain ⟨row, inside, rfl⟩ := shown replica member
      have below := ((foldl_max_le_iff (rows.map fun row => (stamp row).toNat) 0 _).mp le_rfl).2
        (stamp row).toNat (List.mem_map_of_mem inside)
      have same : stamp row = s := by
        rw [held row inside, Std.ExtTreeMap.getD_eq_getD_getElem?, found]
        rfl
      omega
    omega

theorem readings_highest (v : Vertex) :
    ((readings (rowsOf v)).map GraphRag.ReplicaObservation.addStamp).foldl Nat.max 0 =
        (highestStamp v.addTimeline).toNat ∧
      ((readings (rowsOf v)).map GraphRag.ReplicaObservation.removeStamp).foldl Nat.max 0 =
        (highestStamp v.removeTimeline).toNat := by
  have shown : ∀ replica, (replica ∈ v.addTimeline ∨ replica ∈ v.removeTimeline) →
      ∃ row ∈ rowsOf v, row.replicaID = replica := fun replica writer =>
    ⟨⟨replica, v.addTimeline.getD replica 0, v.removeTimeline.getD replica 0⟩,
      (mem_rowsOf v _).mpr ⟨writer, rfl, rfl⟩, rfl⟩
  unfold readings
  rw [List.map_map, List.map_map]
  constructor
  · exact foldl_max_rows (fun row inside => ((mem_rowsOf v row).mp inside).2.1)
      fun replica writer => shown replica (Or.inl writer)
  · exact foldl_max_rows (fun row inside => ((mem_rowsOf v row).mp inside).2.2)
      fun replica writer => shown replica (Or.inr writer)

/-- A live vertex has a writer whose row says so. -/
theorem exists_live_row {v : Vertex} (live : v.live = true) :
    ∃ row ∈ rowsOf v, row.isLive = true := by
  have more : highestStamp v.removeTimeline < highestStamp v.addTimeline := by
    simpa [Vertex.live] using live
  have removed := highestStamp_nonneg v.removeTimeline
  by_contra none
  push Not at none
  refine absurd ((highestStamp_le_iff v.addTimeline (highestStamp v.removeTimeline)).mpr
    ⟨removed, fun replica s found => ?_⟩) (not_le.mpr more)
  have writer : replica ∈ v.addTimeline := by
    rw [Std.ExtTreeMap.mem_iff_isSome_getElem?, found]
    rfl
  have row := none ⟨replica, v.addTimeline.getD replica 0, v.removeTimeline.getD replica 0⟩
    ((mem_rowsOf v _).mpr ⟨Or.inl writer, rfl, rfl⟩)
  have shown : v.addTimeline.getD replica 0 ≤ v.removeTimeline.getD replica 0 := by
    simpa [ReplicaObservation.isLive] using row
  rw [Std.ExtTreeMap.getD_eq_getD_getElem?, found] at shown
  refine shown.trans ?_
  rw [Std.ExtTreeMap.getD_eq_getD_getElem?]
  cases held : v.removeTimeline[replica]? with
  | none => exact removed
  | some other => exact le_highestStamp _ replica other held

theorem joined_live {v : Vertex} (live : v.live = true) (hasLiveDownstream : Bool) :
    (GraphRag.joinStamps
      (((readings (rowsOf v)).map GraphRag.ReplicaObservation.addStamp).foldl Nat.max 0)
      (((readings (rowsOf v)).map GraphRag.ReplicaObservation.removeStamp).foldl Nat.max 0)
      hasLiveDownstream).1 = .live := by
  have more : highestStamp v.removeTimeline < highestStamp v.addTimeline := by
    simpa [Vertex.live] using live
  have removed := highestStamp_nonneg v.removeTimeline
  rw [(readings_highest v).1, (readings_highest v).2]
  unfold GraphRag.joinStamps
  rw [if_pos (by omega)]

/-! ## Presence -/

section
variable {formatG : Float → String} {hasLiveDownstream telemetryIsLive : Bool} {rate : Float}
  {assessment : GraphRag.CRDTAssessment}

/-- Of a live vertex the kernel reads that it is live. -/
theorem assess_live {v : Vertex} (live : v.live = true)
    (assessed : assess formatG (rowsOf v) hasLiveDownstream rate telemetryIsLive = .ok assessment) :
    assessment.presence = .live ∧ assessment.divergingReplicas =
      (GraphRag.divergingIDs (readings (rowsOf v)) .live).mergeSort := by
  have seen : readings (rowsOf v) ≠ [] := by
    obtain ⟨row, inside, -⟩ := exists_live_row live
    exact List.ne_nil_of_mem (List.mem_map_of_mem inside)
  obtain ⟨presence, diverging⟩ := GraphRag.resolve_seen seen (assess_ok assessed).2
  rw [joined_live live] at presence
  rw [presence] at diverging
  exact ⟨presence, diverging⟩

theorem assess_nothing
    (assessed : assess formatG [] hasLiveDownstream rate telemetryIsLive = .ok assessment) :
    assessment.presence = .unobserved ∧ assessment.divergingReplicas = [] :=
  GraphRag.resolve_unseen (assess_ok assessed).2

end

/-- A replica after any run of its own writes and of merges; a disabled one does nothing. -/
def TopologyReplica.Reached (table : CaseTable) (r : TopologyReplica) : Prop :=
  ∃ generated id initialClock actions, (r.enabled = false → actions = []) ∧
    r.crdt = (newGraphCRDT generated id initialClock).acts table actions

theorem act_verticesFiled {table : CaseTable} {c : GraphCRDT} (filed : VerticesFiled c.vertices)
    (a : Action) : VerticesFiled (c.act table a).vertices := by
  cases a with
  | addVertex id props => exact addVertex_verticesFiled filed id props
  | removeVertex id => exact removeVertex_verticesFiled filed id
  | addEdge source target relationship =>
    unfold GraphCRDT.act
    dsimp only
    rw [addEdge_vertices]
    exact filed
  | removeEdge source target relationship =>
    unfold GraphCRDT.act
    dsimp only
    rw [removeEdge_vertices]
    exact filed
  | mergeSnapshot snap => exact foldl_ingestVertex_filed snap.vertices (c.vertices, {}) filed

theorem acts_verticesFiled {table : CaseTable} {c : GraphCRDT} (filed : VerticesFiled c.vertices)
    (actions : List Action) : VerticesFiled (c.acts table actions).vertices := by
  induction actions generalizing c with
  | nil => exact filed
  | cons a rest ih => exact ih (act_verticesFiled filed a)

/-- What a reached replica reports: the rows of a live vertex, and nothing of any other. -/
theorem observations_reached {table : CaseTable} {r : TopologyReplica} (reached : r.Reached table)
    (assetID : String) : r.observations assetID =
      match r.crdt.vertices[trimSpace assetID]? with
      | none => []
      | some v => if v.live = true then rowsOf v else [] := by
  obtain ⟨generated, id, initialClock, actions, idle, made⟩ := reached
  have start : (newGraphCRDT generated id initialClock).vertices = ∅ := rfl
  unfold TopologyReplica.observations GraphCRDT.lookupVertex
  split
  next silent =>
    have unknown : r.crdt.vertices[trimSpace assetID]? = none := by
      rcases silent with disabled | rfl
      · rw [made, idle disabled]
        exact Std.ExtTreeMap.getElem?_empty
      · rw [made]
        cases held : ((newGraphCRDT generated id initialClock).acts table actions).vertices[trimSpace ""]?
        with
        | none => rfl
        | some v =>
          have filed := @acts_verticesFiled table _ (start ▸ verticesFiled_empty) actions _ v held
          exact absurd (by decide +kernel) filed.named
    rw [unknown]
  next =>
    cases r.crdt.vertices[trimSpace assetID]? with
    | none => rfl
    | some v =>
      dsimp only
      split
      next other =>
        split at other
        next => cases other
        next dead => rw [if_neg dead]
      next w shown =>
        split at shown
        next live =>
          rw [if_pos live, Option.some.inj shown]
        next => cases shown

/-- The vertex is known, and not live. -/
def Tombstoned (c : GraphCRDT) (assetID : String) : Prop :=
  ∃ v, c.vertices[trimSpace assetID]? = some v ∧ v.live = false

/-- The kernel's reading is the replica's own. -/
structure Agrees (presence : GraphRag.CRDTPresence) (c : GraphCRDT) (assetID : String) : Prop where
  live : presence = .live ↔ c.vertexLive (trimSpace assetID) = true
  tombstoned : presence = .tombstoned ↔ Tombstoned c assetID

/-- The kernel reads of the rows what the replica holds exactly when the vertex is not
tombstoned and the rows can be assessed at all. -/
theorem presence_agrees_iff (table : CaseTable) (r : TopologyReplica) (reached : r.Reached table)
    (assetID : String) (formatG : Float → String) (hasLiveDownstream : Bool) (rate : Float)
    (telemetryIsLive : Bool) :
    (∃ assessment, assess formatG (r.observations assetID) hasLiveDownstream rate telemetryIsLive =
        .ok assessment ∧ Agrees assessment.presence r.crdt assetID) ↔
      ¬Tombstoned r.crdt assetID ∧
        Acceptable formatG (r.observations assetID) hasLiveDownstream rate telemetryIsLive := by
  rw [← assess_ok_iff]
  have rows := observations_reached reached assetID
  have held : ∀ v, r.crdt.vertices[trimSpace assetID]? = some v →
      (Tombstoned r.crdt assetID ↔ v.live = false) ∧ r.crdt.vertexLive (trimSpace assetID) = v.live := by
    intro v found
    unfold Tombstoned GraphCRDT.vertexLive
    rw [found]
    simp
  cases found : r.crdt.vertices[trimSpace assetID]? with
  | none =>
    rw [found] at rows
    dsimp only at rows
    have unknown : ¬Tombstoned r.crdt assetID := by
      rintro ⟨v, other, -⟩
      rw [found] at other
      cases other
    have dead : r.crdt.vertexLive (trimSpace assetID) = false := by
      unfold GraphCRDT.vertexLive
      rw [found]
    rw [and_iff_right unknown, rows]
    constructor
    · exact fun ⟨assessment, assessed, _⟩ => ⟨assessment, assessed⟩
    · intro ⟨assessment, assessed⟩
      have unobserved := (assess_nothing assessed).1
      exact ⟨assessment, assessed, by simp [unobserved, dead], by simp [unobserved, unknown]⟩
  | some v =>
    obtain ⟨tombstoned, live⟩ := held v found
    rw [found] at rows
    dsimp only at rows
    cases alive : v.live with
    | true =>
      rw [if_pos alive] at rows
      rw [tombstoned, alive, rows]
      simp only [Bool.true_eq_false, not_false_eq_true, true_and]
      constructor
      · exact fun ⟨assessment, assessed, _⟩ => ⟨assessment, assessed⟩
      · intro ⟨assessment, assessed⟩
        have present := (assess_live alive assessed).1
        exact ⟨assessment, assessed, by simp [present, live, alive],
          by simp [present, tombstoned, alive]⟩
    | false =>
      rw [if_neg (by rw [alive]; exact Bool.false_ne_true)] at rows
      rw [rows]
      refine iff_of_false ?_ fun both => both.1 (tombstoned.mpr alive)
      rintro ⟨assessment, assessed, agrees⟩
      have buried := agrees.tombstoned.mpr (tombstoned.mpr alive)
      rw [(assess_nothing assessed).1] at buried
      cases buried

/-- A replica that has only asserted the pump. -/
def asserted : GraphCRDT := (newGraphCRDT "replica-0" "site-a" 0).addVertex "PUMP-221" ∅

theorem presence_agrees_iff_asserted :
    ∃ assessment, assess (fun _ => "0") (TopologyReplica.mk true asserted |>.observations "PUMP-221")
        true 0 true = .ok assessment ∧ Agrees assessment.presence asserted "PUMP-221" := by
  refine (presence_agrees_iff asciiCase ⟨true, asserted⟩ ⟨"replica-0", "site-a", 0,
    [.addVertex "PUMP-221" ∅], nofun, rfl⟩ "PUMP-221" (fun _ => "0") true 0 true).mpr ⟨?_, ?_, ?_, ?_⟩
  · rintro ⟨v, held, dead⟩
    have live : (asserted.vertices[trimSpace "PUMP-221"]?).any Vertex.live = true := by decide +kernel
    rw [held] at live
    exact absurd (dead.symm.trans live) Bool.false_ne_true
  · decide +kernel
  · decide +kernel
  · exact Or.inr (by decide +kernel)

/-- The pump is asserted and then retired, under stamps that do not tie, and the kernel has
nothing to read. -/
theorem retired_unobserved :
    ((asserted.removeVertex "PUMP-221").vertices["PUMP-221"]?).any (fun v =>
      highestStamp v.addTimeline = 1 && highestStamp v.removeTimeline = 2) = true ∧
    ¬∃ assessment, assess (fun _ => "0")
        (TopologyReplica.mk true (asserted.removeVertex "PUMP-221") |>.observations "PUMP-221")
        true 0 true = .ok assessment ∧
      Agrees assessment.presence (asserted.removeVertex "PUMP-221") "PUMP-221" := by
  refine ⟨by decide +kernel, ?_⟩
  rintro ⟨assessment, assessed, agrees⟩
  have silent : (TopologyReplica.mk true (asserted.removeVertex "PUMP-221") |>.observations
      "PUMP-221").length = 0 := by decide +kernel
  rw [List.length_eq_zero_iff.mp silent] at assessed
  have retired : ((asserted.removeVertex "PUMP-221").vertices[trimSpace "PUMP-221"]?).any
      (fun v => !v.live) = true := by decide +kernel
  obtain ⟨v, held, dead⟩ := (Option.any_eq_true _ _).mp retired
  have buried := agrees.tombstoned.mpr ⟨v, held, by simpa using dead⟩
  rw [(assess_nothing assessed).1] at buried
  cases buried

/-! ## Converged replicas -/

/-- Every writer's own add stamp is the greater one, wherever the vertex is live. -/
def Undisputed (v : Vertex) : Prop :=
  v.live = true → ∀ replica, (replica ∈ v.addTimeline ∨ replica ∈ v.removeTimeline) →
    v.removeTimeline.getD replica 0 < v.addTimeline.getD replica 0

theorem eraseDups_length_gt_one (l : List Bool) :
    l.eraseDups.length > 1 ↔ true ∈ l ∧ false ∈ l := by
  have distinct := nodup_eraseDups l
  constructor
  · intro several
    by_contra missing
    have same : ∃ b, ∀ x ∈ l.eraseDups, x = b := by
      rcases not_and_or.mp missing with absent | absent
      · refine ⟨false, fun x member => ?_⟩
        cases x with
        | false => rfl
        | true => exact absurd (List.mem_eraseDups.mp member) absent
      · refine ⟨true, fun x member => ?_⟩
        cases x with
        | true => rfl
        | false => exact absurd (List.mem_eraseDups.mp member) absent
    obtain ⟨b, every⟩ := same
    rw [List.eq_replicate_of_mem every, List.nodup_replicate] at distinct
    omega
  · intro both
    have first := List.mem_eraseDups.mpr both.1
    have second := List.mem_eraseDups.mpr both.2
    by_contra few
    match shape : l.eraseDups, few with
    | [], _ => simp [shape] at first
    | [x], _ =>
      rw [shape, List.mem_singleton] at first second
      rw [← first] at second
      cases second
    | _ :: _ :: _, few => simp at few

theorem contested_iff {rows : List ReplicaObservation}
    (some_live : ∃ row ∈ rows, row.isLive = true) :
    topologyIsContested rows = false ↔ ∀ row ∈ rows, row.isLive = true := by
  obtain ⟨live, inside, holds⟩ := some_live
  have present : true ∈ rows.map ReplicaObservation.isLive :=
    List.mem_map.mpr ⟨live, inside, holds⟩
  have verdicts := eraseDups_length_gt_one (rows.map ReplicaObservation.isLive)
  rw [and_iff_right present] at verdicts
  unfold topologyIsContested
  constructor
  · intro calm row member
    by_contra dead
    rw [Bool.not_eq_true] at dead
    have differ : false ∈ rows.map ReplicaObservation.isLive := List.mem_map.mpr ⟨row, member, dead⟩
    have several := verdicts.mpr differ
    have many := length_eraseDups_le (rows.map ReplicaObservation.isLive)
    rw [List.length_map] at many
    rw [if_neg (by omega), decide_eq_false_iff_not] at calm
    exact calm several
  · intro every
    split
    next => rfl
    next =>
      rw [decide_eq_false_iff_not, verdicts]
      intro differ
      obtain ⟨row, member, dead⟩ := List.mem_map.mp differ
      rw [every row member] at dead
      cases dead

theorem rows_live_iff (v : Vertex) (live : v.live = true) :
    (∀ row ∈ rowsOf v, row.isLive = true) ↔ Undisputed v := by
  unfold ReplicaObservation.isLive
  constructor
  · intro every _ replica writer
    have row := every ⟨replica, v.addTimeline.getD replica 0, v.removeTimeline.getD replica 0⟩
      ((mem_rowsOf v _).mpr ⟨writer, rfl, rfl⟩)
    simpa using row
  · intro undisputed row member
    obtain ⟨writer, add, remove⟩ := (mem_rowsOf v row).mp member
    have more := undisputed live row.replicaID writer
    rw [add, remove]
    simpa using more

/-- Rows that are all live leave no replica that differs. -/
theorem divergingIDs_live {rows : List ReplicaObservation}
    (accepted : ∀ row ∈ rows, row.posted.accepted = true)
    (live : ∀ row ∈ rows, row.isLive = true) :
    GraphRag.divergingIDs (readings rows) .live = [] := by
  unfold GraphRag.divergingIDs
  rw [List.map_eq_nil_iff, List.filter_eq_nil_iff]
  intro o member
  obtain ⟨row, inside, rfl⟩ := List.mem_map.mp member
  have more : row.removeStamp < row.addStamp := of_decide_eq_true (live row inside)
  have bounds := accepted row inside
  unfold GraphRag.InboundObservation.accepted at bounds
  simp only [Bool.and_eq_true, decide_eq_true_eq] at bounds
  obtain ⟨⟨-, add⟩, remove⟩ := bounds
  have presence : row.posted.validated.localPresence = .live := by
    unfold GraphRag.ReplicaObservation.localPresence GraphRag.InboundObservation.validated
    unfold ReplicaObservation.posted at add remove ⊢
    dsimp only at add remove ⊢
    rw [if_neg (by omega), if_pos (by omega)]
  rw [presence]
  decide

/-- Neither reading finds anything to object to. -/
structure Reported (formatG : Float → String) (rows : List ReplicaObservation)
    (hasLiveDownstream : Bool) (rate : Float) (telemetryIsLive : Bool) : Prop where
  uncontested : topologyIsContested rows = false
  converged : ∃ assessment, assess formatG rows hasLiveDownstream rate telemetryIsLive =
    .ok assessment ∧ assessment.divergingReplicas = []

theorem reported_rows_iff {v : Vertex} (live : v.live = true) (formatG : Float → String)
    (hasLiveDownstream : Bool) (rate : Float) (telemetryIsLive : Bool) :
    Reported formatG (rowsOf v) hasLiveDownstream rate telemetryIsLive ↔
      Undisputed v ∧ Acceptable formatG (rowsOf v) hasLiveDownstream rate telemetryIsLive := by
  have contested := contested_iff (exists_live_row live)
  rw [← rows_live_iff v live]
  constructor
  · rintro ⟨calm, assessment, assessed, -⟩
    exact ⟨contested.mp calm, (assess_ok_iff _ _ _ _ _).mp ⟨assessment, assessed⟩⟩
  · rintro ⟨every, acceptable⟩
    obtain ⟨assessment, assessed⟩ := (assess_ok_iff _ _ _ _ _).mpr acceptable
    refine ⟨contested.mpr every, assessment, assessed, ?_⟩
    rw [(assess_live live assessed).2, divergingIDs_live acceptable.1 every,
      List.mergeSort_nil]

theorem reported_nothing_iff (formatG : Float → String) (hasLiveDownstream : Bool) (rate : Float)
    (telemetryIsLive : Bool) : Reported formatG [] hasLiveDownstream rate telemetryIsLive ↔
      Acceptable formatG [] hasLiveDownstream rate telemetryIsLive := by
  rw [← assess_ok_iff]
  constructor
  · exact fun ⟨_, assessment, assessed, _⟩ => ⟨assessment, assessed⟩
  · exact fun ⟨assessment, assessed⟩ =>
      ⟨rfl, assessment, assessed, (assess_nothing assessed).2⟩

/-- In a fleet that holds one entry for the asset, a replica reports it as converged exactly
when no writer's own stamps dispute it and the rows can be assessed at all. -/
theorem converged_reported_iff {ι : Type} (fleet : ι → TopologyReplica) (assetID : String)
    (entry : Option Vertex)
    (converged : ∀ i, (fleet i).crdt.vertices[trimSpace assetID]? = entry) (i : ι)
    (formatG : Float → String) (hasLiveDownstream : Bool) (rate : Float) (telemetryIsLive : Bool) :
    Reported formatG ((fleet i).observations assetID) hasLiveDownstream rate telemetryIsLive ↔
      ((fleet i).enabled = true ∧ assetID ≠ "" → ∀ v, entry = some v → Undisputed v) ∧
        Acceptable formatG ((fleet i).observations assetID) hasLiveDownstream rate
          telemetryIsLive := by
  have held := converged i
  unfold TopologyReplica.observations GraphCRDT.lookupVertex
  rw [held]
  by_cases silent : (fleet i).enabled = false ∨ assetID = ""
  · have mute : ¬((fleet i).enabled = true ∧ assetID ≠ "") := by
      rintro ⟨enabled, named⟩
      rcases silent with disabled | unnamed
      · rw [enabled] at disabled
        cases disabled
      · exact named unnamed
    rw [if_pos silent, reported_nothing_iff]
    exact (and_iff_right fun spoken => absurd spoken mute).symm
  · have spoken : (fleet i).enabled = true ∧ assetID ≠ "" := by
      rw [not_or, Bool.not_eq_false] at silent
      exact silent
    rw [if_neg silent]
    cases entry with
    | none =>
      dsimp only
      rw [reported_nothing_iff]
      exact (and_iff_right fun _ v none => nomatch none).symm
    | some v =>
      dsimp only
      by_cases live : v.live = true
      · rw [if_pos live]
        dsimp only
        rw [reported_rows_iff live]
        refine and_congr_left fun _ => ⟨fun undisputed _ w same => ?_, fun all => all spoken v rfl⟩
        rwa [← Option.some.inj same]
      · rw [if_neg live]
        dsimp only
        rw [reported_nothing_iff]
        refine (and_iff_right fun _ w same alive => ?_).symm
        rw [← Option.some.inj same] at alive
        exact absurd alive live

deriving instance DecidableEq for Vertex

/-- One site asserts the pump, another retires it, and the first asserts it again. -/
def retiring : GraphCRDT :=
  ((newGraphCRDT "replica-0" "site-b" 0).mergeSnapshot asciiCase asserted.snapshot).removeVertex
    "PUMP-221"

def reasserted : GraphCRDT :=
  (asserted.mergeSnapshot asciiCase retiring.snapshot).addVertex "PUMP-221" ∅

/-- Both sites after the last exchange. -/
def readded : Bool → TopologyReplica
  | false => ⟨true, reasserted⟩
  | true => ⟨true, retiring.mergeSnapshot asciiCase reasserted.snapshot⟩

theorem converged_reported_iff_asserted :
    Reported (fun _ => "0") (TopologyReplica.mk true asserted |>.observations "PUMP-221") true 0
      true := by
  refine (converged_reported_iff (fun _ : Bool => ⟨true, asserted⟩) "PUMP-221" _ (fun _ => rfl) true
    (fun _ => "0") true 0 true).mpr ⟨?_, ?_, ?_, ?_⟩
  · intro _ v held _ replica writer
    have only : (asserted.vertices[trimSpace "PUMP-221"]?).all (fun v =>
      v = ⟨"PUMP-221", ∅, (∅ : Timeline).insert "site-a" 1, ∅⟩) = true := by decide +kernel
    rw [held] at only
    obtain rfl : v = ⟨"PUMP-221", ∅, (∅ : Timeline).insert "site-a" 1, ∅⟩ := by simpa using only
    have named : "site-a" = replica := by simpa using writer
    subst named
    decide +kernel
  · decide +kernel
  · decide +kernel
  · exact Or.inr (by decide +kernel)

/-- Both sites hold one live entry, and the second one's old retirement disputes it. -/
theorem readded_not_reported :
    (∀ i, (readded i).crdt.vertices["PUMP-221"]? = (readded false).crdt.vertices["PUMP-221"]?) ∧
      (readded false).crdt.vertexLive "PUMP-221" = true ∧
      ¬Reported (fun _ => "0") ((readded false).observations "PUMP-221") true 0 true := by
  refine ⟨by decide +kernel, by decide +kernel, fun reported => ?_⟩
  have disputed : ((readded false).crdt.vertices[trimSpace "PUMP-221"]?).any (fun v =>
      v.live && v.addTimeline.getD "site-b" 0 = 0 && v.removeTimeline.getD "site-b" 0 = 2 &&
        v.removeTimeline.contains "site-b") = true := by decide +kernel
  obtain ⟨v, held, stamps⟩ := (Option.any_eq_true _ _).mp disputed
  simp only [Bool.and_eq_true, decide_eq_true_eq, Std.ExtTreeMap.contains_iff_mem] at stamps
  obtain ⟨⟨⟨live, add⟩, remove⟩, writer⟩ := stamps
  have rows : (readded false).observations "PUMP-221" = rowsOf v := by
    unfold TopologyReplica.observations GraphCRDT.lookupVertex
    rw [if_neg (by decide +kernel), held]
    dsimp only
    rw [if_pos live]
  rw [rows, reported_rows_iff live] at reported
  have less := reported.1 live "site-b" (Or.inr writer)
  omega

end OpenOntology.Replica
