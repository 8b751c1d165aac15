import OpenOntology.Library.Gossip
import OpenOntology.Crdt.RoundTrip
import OpenOntology.Replica.ContentAddressed

/-!
# An engine that restarts

An engine comes back under the same replica id with an empty replica: its clock starts
over while its peers still hold what it wrote before. Whether a later observation shows
once all have exchanged their state is a matter of stamps: an older write with other
properties must have a lower one.
-/
namespace OpenOntology.Replica
open Crdt Library

variable {table : CaseTable} {ι : Type} [DecidableEq ι]

/-- The replica of a freshly started engine. -/
def newTopologyReplica (generated id : String) : TopologyReplica where
  enabled := true
  crdt := newGraphCRDT generated id 0

/-- One engine, the peers that take its state over, every snapshot taken so far, and the
contexts the engine observed since it last started. -/
structure Tier (ι : Type) where
  engine : TopologyReplica
  peers : ι → GraphCRDT
  inFlight : List Snapshot := []
  observed : List OntologyContext := []

/-- The parties are the engine, `none`, and its peers. -/
inductive TierEvent (ι : Type) where
  | observe (ctx : OntologyContext)
  | restart (generated : String)
  | snapshot (party : Option ι)
  | mergeSnapshot (party : Option ι) (taken : Nat)

namespace Tier

def replica (σ : Tier ι) : Option ι → GraphCRDT
  | none => σ.engine.crdt
  | some i => σ.peers i

def set (σ : Tier ι) : Option ι → GraphCRDT → Tier ι
  | none, c => { σ with engine := { σ.engine with crdt := c } }
  | some i, c => { σ with peers := Function.update σ.peers i c }

def start (generated id : String) (peerGenerated peerIDs : ι → String) : Tier ι where
  engine := newTopologyReplica generated id
  peers i := newGraphCRDT (peerGenerated i) (peerIDs i) 0

def step (table : CaseTable) (id : String) (σ : Tier ι) : TierEvent ι → Tier ι
  | .observe ctx => { σ with engine := σ.engine.observe table ctx, observed := ctx :: σ.observed }
  | .restart generated => { σ with engine := newTopologyReplica generated id, observed := [] }
  | .snapshot party => { σ with inFlight := (σ.replica party).snapshot :: σ.inFlight }
  | .mergeSnapshot party taken =>
    match σ.inFlight[taken]? with
    | none => σ
    | some s => σ.set party ((σ.replica party).mergeSnapshot table s)

def after (table : CaseTable) (id : String) (σ : Tier ι) (events : List (TierEvent ι)) : Tier ι :=
  events.foldl (step table id) σ

end Tier

/-- The receiver of a round pulls the sender's snapshot and joins it. -/
def pull (table : CaseTable) (c d : GraphCRDT) : GraphCRDT := c.mergeSnapshot table d.snapshot

/-- The last description of vertex `u` in a context. -/
def OntologyContext.lastDescribed (ctx : OntologyContext) (u : String) : Option Properties :=
  ((described [ctx]).filter fun entry => trimSpace entry.1 = u && u != "").getLast?.map Prod.snd

/-- Every party shows the vertices of the context as it describes them. -/
def Shown (replica : Option ι → GraphCRDT) (ctx : OntologyContext) : Prop :=
  ∀ u props, ctx.lastDescribed u = some props →
    ∀ party, ∃ v, (replica party).lookupVertex u = some v ∧ v.properties = props

namespace Tier

/-- Some party holds the vertex live, and whatever a party holds of it with other
properties is outranked by an entry with these. -/
structure Prevails (σ : Tier ι) (u : String) (props : Properties) : Prop where
  live : ∃ party v, (σ.replica party).vertices[u]? = some v ∧ v.live = true
  outranked : ∀ party v, (σ.replica party).vertices[u]? = some v → v.properties ≠ props →
    ∃ other w, (σ.replica other).vertices[u]? = some w ∧ w.properties = props ∧ v.rank < w.rank

end Tier

/-! ## Replicas that never retire a vertex -/

/-- Vertices are filed under their own keys and were never removed. -/
structure Unretired (c : GraphCRDT) : Prop where
  filed : VerticesFiled c.vertices
  kept : ∀ (u : String) (v : Vertex), c.vertices[u]? = some v → v.removeTimeline = ∅

theorem newGraphCRDT_unretired (generated clientID : String) (initialClock : Int) :
    Unretired (newGraphCRDT generated clientID initialClock) where
  filed := verticesFiled_empty
  kept u v held := by
    have stored : (∅ : VertexMap)[u]? = some v := held
    rw [Std.ExtTreeMap.getElem?_empty] at stored
    cases stored

theorem Unretired.getD {c : GraphCRDT} (ok : Unretired c) (id : String) :
    (c.vertices.getD id { uuid := id }).removeTimeline = ∅ := by
  rw [Std.ExtTreeMap.getD_eq_getD_getElem?]
  cases found : c.vertices[id]? with
  | none => rfl
  | some v => exact ok.kept id v found

theorem Unretired.addVertex {c : GraphCRDT} (ok : Unretired c) (id : String) (props : Properties) :
    Unretired (c.addVertex id props) where
  filed := addVertex_verticesFiled ok.filed id props
  kept u v held := by
    unfold GraphCRDT.addVertex at held
    dsimp only at held
    split at held
    next => exact ok.kept u v held
    next named =>
      dsimp only at held
      rw [Std.ExtTreeMap.getElem?_insert] at held
      split at held
      next =>
        cases held
        exact ok.getD (trimSpace id)
      next => exact ok.kept u v held

theorem Unretired.apply {c : GraphCRDT} (ok : Unretired c) (w : Write) :
    Unretired (w.apply table c) := by
  cases w with
  | vertex id props =>
    rw [Write.apply_vertex]
    unfold upsertVertex
    dsimp only
    cases c.lookupVertex id with
    | none => exact ok.addVertex id _
    | some existing =>
      dsimp only
      split
      · exact ok
      · exact ok.addVertex id _
  | edge source target relationship =>
    rw [Write.apply_edge]
    unfold upsertEdge
    split
    · exact ok
    · have same : (c.addEdge table source target relationship).vertices = c.vertices :=
        addEdge_vertices c source target relationship
      exact ⟨by rw [same]; exact ok.filed, by rw [same]; exact ok.kept⟩

theorem Unretired.foldl_apply {c : GraphCRDT} (ok : Unretired c) (writes : List Write) :
    Unretired (writes.foldl (Write.apply table) c) := by
  induction writes generalizing c with
  | nil => exact ok
  | cons w rest ih => exact ih (ok.apply w)

/-- The vertices of the snapshot were never removed. -/
def Snapshot.Unretired (s : Snapshot) : Prop := ∀ v ∈ s.vertices, v.removeTimeline = ∅

theorem Unretired.snapshot {c : GraphCRDT} (ok : Unretired c) : Snapshot.Unretired c.snapshot := by
  intro v member
  obtain ⟨u, held⟩ := mem_snapshot_vertices member
  exact ok.kept u v held

theorem foldl_absorb_unretired (entries : List Vertex) (held : Option Vertex)
    (kept : ∀ v, held = some v → v.removeTimeline = ∅)
    (fed : ∀ v ∈ entries, v.removeTimeline = ∅) (v : Vertex)
    (left : entries.foldl (fun held v => some (absorb held v)) held = some v) :
    v.removeTimeline = ∅ := by
  induction entries generalizing held with
  | nil => exact kept v left
  | cons remote rest ih =>
    have fresh := fed remote List.mem_cons_self
    refine ih (some (absorb held remote)) ?_ (fun w member => fed w (List.mem_cons_of_mem _ member))
      left
    intro w same
    cases same
    cases held with
    | none => exact fresh
    | some local_ =>
      show (mergeTimelineInto local_.removeTimeline remote.removeTimeline).1 = ∅
      rw [kept local_ rfl, fresh]
      rfl

theorem Unretired.mergeSnapshot {c : GraphCRDT} (ok : Unretired c) {s : Snapshot}
    (fed : Snapshot.Unretired s) : Unretired (c.mergeSnapshot table s) where
  filed := foldl_ingestVertex_filed s.vertices (c.vertices, {}) ok.filed
  kept u v held := by
    have merged : (mergeAll table c [s]).vertices[u]? = _ := mergeAll_getElem? c [s] u
    rw [List.flatMap_cons, List.flatMap_nil, List.append_nil] at merged
    refine foldl_absorb_unretired (s.entriesOf u) _ (ok.kept u) (fun w member => ?_) v
      (merged.symm.trans held)
    obtain ⟨x, taken, rfl⟩ :=
      List.mem_map.mp (List.mem_filter.mp (List.mem_filter.mp member).1).1
    exact fed x taken

/-! ## One vertex under a merge -/

theorem pull_getElem? {d : GraphCRDT} (ok : Unretired d) (c : GraphCRDT) (u : String) :
    (pull table c d).vertices[u]? =
      (d.vertices[u]?.map fun w => absorb c.vertices[u]? w).or c.vertices[u]? := by
  have merged : (mergeAll table c [d.snapshot]).vertices[u]? = _ :=
    mergeAll_getElem? c [d.snapshot] u
  rw [List.flatMap_cons, List.flatMap_nil, List.append_nil, entriesOf_snapshot ok.filed] at merged
  refine Eq.trans merged ?_
  cases d.vertices[u]? with
  | none => rfl
  | some w => rfl

def entryRank (u : String) (c : GraphCRDT) : WithBot ((ℤ ×ₗ String) ×ₗ String) :=
  (c.vertices[u]?).map Vertex.rank

def entryProperties (u : String) (c : GraphCRDT) : Option Properties :=
  (c.vertices[u]?).map Vertex.properties

theorem entryRank_none {u : String} {c : GraphCRDT} (absent : c.vertices[u]? = none) :
    entryRank u c = ⊥ := by
  unfold entryRank
  rw [absent]
  rfl

theorem entryRank_some {u : String} {c : GraphCRDT} {v : Vertex} (held : c.vertices[u]? = some v) :
    entryRank u c = (v.rank : WithBot _) := by
  unfold entryRank
  rw [held]
  rfl

theorem pull_register (u : String) :
    Register (pull table) Unretired (entryRank u) (entryProperties u) where
  keeps a b here there := here.mergeSnapshot there.snapshot
  ranks a b here there := by
    have joined : (pull table a b).vertices[u]? = _ := pull_getElem? there a u
    cases incoming : b.vertices[u]? with
    | none =>
      rw [incoming, Option.map_none, Option.none_or] at joined
      rw [entryRank_none incoming, sup_bot_eq]
      exact congrArg (Option.map Vertex.rank) joined
    | some w =>
      rw [incoming, Option.map_some, Option.some_or] at joined
      rw [entryRank_some joined, entryRank_some incoming]
      cases held : a.vertices[u]? with
      | none =>
        rw [entryRank_none held, bot_sup_eq]
        rfl
      | some v =>
        rw [entryRank_some held, (absorb_rank v w).1, ← WithBot.coe_sup]
        split
        next above => rw [sup_eq_right.mpr above.le]
        next not_above => rw [sup_eq_left.mpr (not_lt.mp not_above)]
  contents a b here there := by
    have joined : (pull table a b).vertices[u]? = _ := pull_getElem? there a u
    cases incoming : b.vertices[u]? with
    | none =>
      rw [incoming, Option.map_none, Option.none_or] at joined
      rw [entryRank_none incoming, if_neg not_lt_bot]
      exact congrArg (Option.map Vertex.properties) joined
    | some w =>
      rw [incoming, Option.map_some, Option.some_or] at joined
      unfold entryProperties
      rw [joined, incoming, entryRank_some incoming]
      cases held : a.vertices[u]? with
      | none =>
        rw [entryRank_none held, if_pos (WithBot.bot_lt_coe _)]
        rfl
      | some v =>
        rw [entryRank_some held, Option.map_some, (absorb_rank v w).2]
        simp only [WithBot.coe_lt_coe, Option.map_some]
        split <;> rfl

def HeldLive (u : String) (c : GraphCRDT) : Prop :=
  ∃ v, c.vertices[u]? = some v ∧ v.live = true

theorem live_iff_of_unretired {v : Vertex} (kept : v.removeTimeline = ∅) :
    v.live = true ↔ ∃ (c : String) (s : Int), v.addTimeline[c]? = some s ∧ 0 < s := by
  have blank : highestStamp (∅ : Timeline) = 0 := rfl
  have above := highestStamp_le_iff v.addTimeline 0
  unfold Vertex.live
  rw [kept, blank, decide_eq_true_iff, gt_iff_lt, ← not_le, above]
  push Not
  simp

theorem absorb_live {v w : Vertex} (kept : v.removeTimeline = ∅) (fresh : w.removeTimeline = ∅) :
    (absorb (some v) w).live = true ↔ v.live = true ∨ w.live = true := by
  have joined : (absorb (some v) w).removeTimeline = ∅ := by
    show (mergeTimelineInto v.removeTimeline w.removeTimeline).1 = ∅
    rw [kept, fresh]
    rfl
  rw [live_iff_of_unretired joined, live_iff_of_unretired kept, live_iff_of_unretired fresh]
  show (∃ c s, (mergeTimelineInto v.addTimeline w.addTimeline).1[c]? = some s ∧ 0 < s) ↔ _
  constructor
  · rintro ⟨c, s, held, positive⟩
    rcases mergeTimelineInto_getElem? _ _ c s held with here | there
    · exact Or.inl ⟨c, s, here, positive⟩
    · exact Or.inr ⟨c, s, there, positive⟩
  · have raised : ∀ (t : Timeline), (∀ c, valueAt t c ≤
        valueAt (mergeTimelineInto v.addTimeline w.addTimeline).1 c) →
        (∃ (c : String) (s : Int), t[c]? = some s ∧ 0 < s) →
        ∃ (c : String) (s : Int),
          (mergeTimelineInto v.addTimeline w.addTimeline).1[c]? = some s ∧ 0 < s := by
      intro t below ⟨c, s, held, positive⟩
      have at_c := below c
      rw [(valueAt_eq_coe_iff t c s).mpr held] at at_c
      obtain ⟨s', held', greater⟩ := exists_ge_of_le_valueAt _ c s at_c
      exact ⟨c, s', held', positive.trans_le greater⟩
    rintro (here | there)
    · exact raised _ (fun c => by rw [valueAt_mergeTimelineInto]; exact le_sup_left) here
    · exact raised _ (fun c => by rw [valueAt_mergeTimelineInto]; exact le_sup_right) there

theorem pull_heldLive {a b : GraphCRDT} (here : Unretired a) (there : Unretired b) (u : String) :
    HeldLive u (pull table a b) ↔ HeldLive u a ∨ HeldLive u b := by
  have joined : (pull table a b).vertices[u]? = _ := pull_getElem? there a u
  unfold HeldLive
  rw [joined]
  cases incoming : b.vertices[u]? with
  | none => simp
  | some w =>
    cases held : a.vertices[u]? with
    | none => simp [absorb]
    | some v => simp [absorb_live (here.kept u v held) (there.kept u w incoming)]

/-! ## Runs -/

namespace Tier

/-- No vertex was ever removed, here or in flight. -/
structure Invariant (σ : Tier ι) : Prop where
  enabled : σ.engine.enabled = true
  replicas : ∀ party, Unretired (σ.replica party)
  inFlight : ∀ s ∈ σ.inFlight, Snapshot.Unretired s

omit [DecidableEq ι] in
theorem invariant_start (generated id : String) (peerGenerated peerIDs : ι → String) :
    Invariant (start generated id peerGenerated peerIDs) where
  enabled := rfl
  replicas party := by
    cases party with
    | none => exact newGraphCRDT_unretired _ _ _
    | some i => exact newGraphCRDT_unretired _ _ _
  inFlight _ member := (List.not_mem_nil member).elim

theorem Invariant.set {σ : Tier ι} (inv : Invariant σ) (party : Option ι) {c : GraphCRDT}
    (ok : Unretired c) : Invariant (σ.set party c) := by
  cases party with
  | none =>
    refine ⟨inv.enabled, fun other => ?_, inv.inFlight⟩
    cases other with
    | none => exact ok
    | some j => exact inv.replicas (some j)
  | some i =>
    refine ⟨inv.enabled, fun other => ?_, inv.inFlight⟩
    cases other with
    | none => exact inv.replicas none
    | some j =>
      show Unretired (Function.update σ.peers i c j)
      by_cases same : j = i
      · subst same
        rw [Function.update_self]
        exact ok
      · rw [Function.update_of_ne same]
        exact inv.replicas (some j)

theorem Invariant.step {σ : Tier ι} (inv : Invariant σ) (id : String) (event : TierEvent ι) :
    Invariant (σ.step table id event) := by
  cases event with
  | observe ctx =>
    have seen : σ.engine.observe table ctx =
        ⟨true, ctx.describe.foldl (Write.apply table) σ.engine.crdt⟩ := by
      have enabled : σ.engine = ⟨true, σ.engine.crdt⟩ := by
        rw [← inv.enabled]
      rw [enabled]
      exact TopologyReplica.observe_crdt σ.engine.crdt ctx
    have ok : Unretired (ctx.describe.foldl (Write.apply table) (σ.replica none)) :=
      (inv.replicas none).foldl_apply ctx.describe
    refine ⟨congrArg TopologyReplica.enabled seen, fun party => ?_, inv.inFlight⟩
    cases party with
    | none =>
      show Unretired (σ.engine.observe table ctx).crdt
      rw [seen]
      exact ok
    | some i => exact inv.replicas (some i)
  | restart generated =>
    refine ⟨rfl, fun party => ?_, inv.inFlight⟩
    cases party with
    | none => exact newGraphCRDT_unretired _ _ _
    | some i => exact inv.replicas (some i)
  | snapshot party =>
    refine ⟨inv.enabled, inv.replicas, fun s member => ?_⟩
    rcases List.mem_cons.mp member with rfl | member
    · exact (inv.replicas party).snapshot
    · exact inv.inFlight s member
  | mergeSnapshot party taken =>
    show Invariant (match σ.inFlight[taken]? with
      | none => σ
      | some s => σ.set party ((σ.replica party).mergeSnapshot table s))
    cases held : σ.inFlight[taken]? with
    | none => exact inv
    | some s =>
      exact inv.set party ((inv.replicas party).mergeSnapshot
        (inv.inFlight s (List.mem_of_getElem? held)))

theorem Invariant.after {σ : Tier ι} (inv : Invariant σ) (id : String)
    (events : List (TierEvent ι)) : Invariant (σ.after table id events) := by
  induction events generalizing σ with
  | nil => exact inv
  | cons event rest ih => exact ih (inv.step id event)

/-! ## What shows after the exchange -/

theorem trimSpace_of_lastDescribed {ctx : OntologyContext} {u : String} {props : Properties}
    (last : ctx.lastDescribed u = some props) : trimSpace u = u := by
  obtain ⟨entry, final, -⟩ := Option.map_eq_some_iff.mp last
  have member := List.mem_filter.mp (List.mem_of_getLast? final)
  simp only [Bool.and_eq_true, decide_eq_true_eq] at member
  rw [← member.2.1, trimSpace_trimSpace]

theorem lookupVertex_iff {c : GraphCRDT} {u : String} (trimmed : trimSpace u = u)
    (props : Properties) :
    (∃ v, c.lookupVertex u = some v ∧ v.properties = props) ↔
      HeldLive u c ∧ entryProperties u c = some props := by
  unfold GraphCRDT.lookupVertex HeldLive entryProperties
  rw [trimmed]
  cases held : c.vertices[u]? with
  | none => simp
  | some v =>
    cases live : v.live <;> simp [live]

/-- One vertex: every party ends up showing these properties exactly when they prevail. -/
theorem prevails_iff {σ : Tier ι} (inv : Invariant σ) {contacts : List (Option ι × Option ι)}
    (complete : ∀ party other, other ∈ heard contacts party) (u : String) (props : Properties) :
    (∀ party, HeldLive u (exchange (pull table) σ.replica contacts party) ∧
        entryProperties u (exchange (pull table) σ.replica contacts party) = some props) ↔
      σ.Prevails u props := by
  have register : Register (pull table) Unretired (entryRank u) (entryProperties u) :=
    pull_register u
  have shows := register.agree_iff inv.replicas complete (some props)
  have lives : ∀ party, HeldLive u (exchange (pull table) σ.replica contacts party) ↔
      ∃ k ∈ heard contacts party, HeldLive u (σ.replica k) := fun party =>
    (exchange_any (fun a b here there => here.mergeSnapshot there.snapshot)
      (fun a b here there => pull_heldLive here there u) inv.replicas contacts party).2
  rw [forall_and, shows]
  constructor
  · rintro ⟨live, outranked⟩
    refine ⟨?_, ?_⟩
    · obtain ⟨party, -, v, held⟩ := (lives none).mp (live none)
      exact ⟨party, v, held⟩
    · intro party v held differs
      obtain ⟨other, content, above⟩ := outranked party (by
        unfold entryProperties
        rw [held]
        simpa using differs)
      obtain ⟨w, there, payload⟩ := Option.map_eq_some_iff.mp content
      rw [entryRank_some held, entryRank_some there, WithBot.coe_lt_coe] at above
      exact ⟨other, w, there, payload, above⟩
  · intro prevails
    obtain ⟨party, v, held, live⟩ := prevails.live
    refine ⟨fun other => (lives other).mpr ⟨party, complete other party, v, held, live⟩, ?_⟩
    intro other differs
    cases here : (σ.replica other).vertices[u]? with
    | some w =>
      obtain ⟨third, x, there, payload, above⟩ := prevails.outranked other w here (by
        unfold entryProperties at differs
        rw [here] at differs
        simpa using differs)
      refine ⟨third, by unfold entryProperties; rw [there, Option.map_some, payload], ?_⟩
      rw [entryRank_some here, entryRank_some there]
      exact WithBot.coe_lt_coe.mpr above
    | none =>
      -- nothing held here: any entry with the properties will do
      have some_entry : ∃ third x, (σ.replica third).vertices[u]? = some x ∧
          x.properties = props := by
        by_cases same : v.properties = props
        · exact ⟨party, v, held, same⟩
        · obtain ⟨third, x, there, payload, -⟩ := prevails.outranked party v held same
          exact ⟨third, x, there, payload⟩
      obtain ⟨third, x, there, payload⟩ := some_entry
      refine ⟨third, by unfold entryProperties; rw [there, Option.map_some, payload], ?_⟩
      rw [entryRank_none here, entryRank_some there]
      exact WithBot.bot_lt_coe _

/-- The states some run leads to: an engine that starts and restarts under one id, and
peers that write nothing of their own. -/
def Reached (table : CaseTable) (id : String) (σ : Tier ι) : Prop :=
  ∃ generated peerGenerated peerIDs events,
    σ = (start generated id peerGenerated peerIDs).after table id events

theorem Reached.invariant {id : String} {σ : Tier ι} (reached : Reached table id σ) :
    Invariant σ := by
  obtain ⟨generated, peerGenerated, peerIDs, events, rfl⟩ := reached
  exact (invariant_start generated id peerGenerated peerIDs).after id events

def pump (criticality : String) : OntologyContext :=
  { assetID := "HPP-PUMP-221", criticality := criticality }

def bothWays : List (Option Unit × Option Unit) := [(none, some ()), (some (), none)]

theorem bothWays_complete : ∀ party other, other ∈ heard bothWays party := by
  have engine : heard bothWays none = {none} ∪ {some ()} := rfl
  have peer : heard bothWays (some ()) = {some ()} ∪ ({none} ∪ {some ()}) := rfl
  rintro (_ | _) (_ | _) <;> simp [engine, peer]

/-- The engine pulls its old state back from the peer before it observes. -/
def pulledFirst : Tier Unit :=
  (start "replica-0" "edge-1" (fun _ => "replica-1") fun _ => "hub").after asciiCase "edge-1"
    [.observe (pump "LOW"), .observe (pump "MEDIUM"), .snapshot none, .mergeSnapshot (some ()) 0,
      .restart "replica-2", .snapshot (some ()), .mergeSnapshot none 0, .observe (pump "HIGH")]

end Tier
end OpenOntology.Replica
