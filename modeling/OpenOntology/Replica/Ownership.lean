import OpenOntology.Crdt.RoundTrip
import OpenOntology.Library.Run
import OpenOntology.Replica.Restart

/-!
# Who writes under a replica's name

A replica accepts the snapshots offered to it unless they claim to be its own, and the ones
it pulls without asking. Its entries under its own id are stamps it has issued as long as
no snapshot it accepts brings it others.
-/
namespace OpenOntology.Replica
open Crdt Library

variable {table : CaseTable}

/-! ## The host -/

/-- A replica under its configured id, with the stamps it has issued. -/
structure Host where
  id : String
  replica : TopologyReplica
  issued : List Int := []

inductive HostEvent where
  | observe (ctx : OntologyContext)
  | offer (snap : Snapshot)
  | sync (snap : Snapshot)

/-- A write issues the stamp it moves the clock to. -/
def ticks (table : CaseTable) : GraphCRDT → List Write → List Int
  | _, [] => []
  | c, w :: rest =>
    let next := w.apply table c
    (if next.lamportClock = c.lamportClock then [] else [next.lamportClock]) ++
      ticks table next rest

namespace TopologyReplica

def mergeSnapshot (table : CaseTable) (r : TopologyReplica) (snap : Snapshot) : TopologyReplica :=
  if r.enabled = false then r else { r with crdt := r.crdt.mergeSnapshot table snap }

/-- The stamps that an observation issues. -/
def issues (table : CaseTable) (r : TopologyReplica) (ctx : OntologyContext) : List Int :=
  if r.enabled = false then [] else ticks table r.crdt ctx.describe

end TopologyReplica

namespace Host

def start (generated id : String) : Host where
  id := id
  replica := newTopologyReplica generated id

/-- An offer that claims the host's identity is refused with a conflict. -/
def step (table : CaseTable) (σ : Host) : HostEvent → Option Host
  | .observe ctx =>
    some { σ with
      replica := σ.replica.observe table ctx
      issued := σ.issued ++ σ.replica.issues table ctx }
  | .offer snap =>
    if snap.clientID = σ.id then some σ
    else some { σ with replica := σ.replica.mergeSnapshot table snap }
  | .sync snap => some { σ with replica := σ.replica.mergeSnapshot table snap }

end Host

/-! ## What is stored under the replica's own id -/

/-- The stamp a replica stores under its own id in a line. -/
def own (c : GraphCRDT) (el : Element) (asserted : Bool) : WithBot Int :=
  valueAt (c.line el asserted) c.clientID

/-- A snapshot brings a stamp for a line under an id, in an element that is let in. -/
def Carries (table : CaseTable) (snap : Snapshot) (id : String) (asserted : Bool) (s : Int) :
    Element → Prop
  | .vertex u => ∃ v ∈ snap.admitted, v.uuid = u ∧ markOf asserted v.marks id = s
  | .edge k => ∃ e ∈ snap.admittedEdges table, e.key = k ∧ markOf asserted e.marks id = s

namespace Host

/-- Every entry under the host's own id carries a stamp that the host has issued. -/
def Owned (σ : Host) : Prop :=
  ∀ (el : Element) (asserted : Bool) (s : Int),
    own σ.replica.crdt el asserted = s → s ∈ σ.issued

/-- A snapshot brings nothing under the host's id but stamps it has issued, or lower ones
than it holds. -/
def Respects (table : CaseTable) (σ : Host) (snap : Snapshot) : Prop :=
  ∀ (el : Element) (asserted : Bool) (s : Int),
    Carries table snap σ.replica.crdt.clientID asserted s el →
      s ∈ σ.issued ∨ (s : WithBot Int) ≤ own σ.replica.crdt el asserted

/-- The step accepts no snapshot but one that respects the host's name. -/
def Honest (table : CaseTable) (σ : Host) : HostEvent → Host → Prop
  | .observe _, _ => True
  | .offer snap, _ => snap.clientID ≠ σ.id → σ.Respects table snap
  | .sync snap, _ => σ.Respects table snap

end Host

/-! ## Local writes -/

theorem increment_ne (clock : Int) : increment clock ≠ clock := by
  intro same
  have residue : increment clock % (2 ^ 64 : Nat) = (clock + 1) % (2 ^ 64 : Nat) :=
    Int.bmod_emod
  rw [same] at residue
  omega

/-- The entries of a mutation that stamps at most one line. -/
theorem own_of_written (c : GraphCRDT) {next : GraphCRDT} (el : Element) (b : Bool)
    (clientID : next.clientID = c.clientID) (clock : next.lamportClock = increment c.lamportClock)
    (written : next.line el b = (c.line el b).insert c.clientID (increment c.lamportClock))
    (untouched : ∀ el' b', ¬(el = el' ∧ b = b') → next.line el' b' = c.line el' b')
    (el' : Element) (b' : Bool) : own next el' b' = own c el' b' ∨
      own next el' b' = next.lamportClock ∧ next.lamportClock ≠ c.lamportClock := by
  unfold own
  rw [clientID]
  by_cases here : el = el' ∧ b = b'
  · obtain ⟨rfl, rfl⟩ := here
    rw [written, valueAt_insert, if_pos rfl, clock]
    exact Or.inr ⟨rfl, increment_ne _⟩
  · rw [untouched el' b' here]
    exact Or.inl rfl

theorem addVertex_own (c : GraphCRDT) (id : String) (props : Properties) (el : Element) (b : Bool) :
    own (c.addVertex id props) el b = own c el b ∨
      own (c.addVertex id props) el b = (c.addVertex id props).lamportClock ∧
        (c.addVertex id props).lamportClock ≠ c.lamportClock := by
  unfold GraphCRDT.addVertex
  dsimp only
  by_cases blank : trimSpace id = ""
  · rw [if_pos blank]
    exact Or.inl rfl
  rw [if_neg blank]
  refine own_of_written c (.vertex (trimSpace id)) true ?_ ?_ ?_ ?_ el b
  · rfl
  · rfl
  · change (Option.map _ (Std.ExtTreeMap.insert ..)[trimSpace id]?).getD ∅ = _
    rw [Std.ExtTreeMap.getElem?_insert_self]
    exact congrArg (fun t : Timeline => t.insert c.clientID (increment c.lamportClock))
      (getD_line c.vertices _ _ Vertex.addTimeline rfl)
  · intro el' b' other
    cases el' with
    | vertex u =>
      by_cases same : trimSpace id = u
      · subst same
        cases b' with
        | true => exact absurd ⟨rfl, rfl⟩ other
        | false =>
          change (Option.map _ (Std.ExtTreeMap.insert ..)[trimSpace id]?).getD ∅ = _
          rw [Std.ExtTreeMap.getElem?_insert_self]
          exact getD_line c.vertices _ _ Vertex.removeTimeline rfl
      · exact line_vertex_congr (getElem?_insert_ne _ _ same) b'
    | edge k => cases b' <;> rfl

theorem addEdge_own (c : GraphCRDT) (source target relationship : String) (el : Element)
    (b : Bool) :
    own (c.addEdge table source target relationship) el b = own c el b ∨
      own (c.addEdge table source target relationship) el b =
          (c.addEdge table source target relationship).lamportClock ∧
        (c.addEdge table source target relationship).lamportClock ≠ c.lamportClock := by
  unfold GraphCRDT.addEdge
  cases GraphCRDT.normalizeEdge table source target relationship with
  | none => exact Or.inl rfl
  | some normal =>
    obtain ⟨src, dst, rel⟩ := normal
    dsimp only
    refine own_of_written c (.edge (edgeKey src rel dst)) true ?_ ?_ ?_ ?_ el b
    · rfl
    · rfl
    · change (Option.map _ (Std.ExtTreeMap.insert ..)[edgeKey src rel dst]?).getD ∅ = _
      rw [Std.ExtTreeMap.getElem?_insert_self]
      exact congrArg (fun t : Timeline => t.insert c.clientID (increment c.lamportClock))
        (getD_line c.edges _ _ Edge.addTimeline rfl)
    · intro el' b' other
      cases el' with
      | vertex u => cases b' <;> rfl
      | edge k =>
        by_cases same : edgeKey src rel dst = k
        · subst same
          cases b' with
          | true => exact absurd ⟨rfl, rfl⟩ other
          | false =>
            change (Option.map _ (Std.ExtTreeMap.insert ..)[edgeKey src rel dst]?).getD ∅ = _
            rw [Std.ExtTreeMap.getElem?_insert_self]
            exact getD_line c.edges _ _ Edge.removeTimeline rfl
        · exact line_edge_congr (getElem?_insert_ne _ _ same) b'

theorem apply_own (c : GraphCRDT) (w : Write) (el : Element) (b : Bool) :
    own (w.apply table c) el b = own c el b ∨ own (w.apply table c) el b =
        (w.apply table c).lamportClock ∧ (w.apply table c).lamportClock ≠ c.lamportClock := by
  cases w with
  | vertex id props =>
    rw [Write.apply_vertex]
    unfold upsertVertex
    dsimp only
    split
    next => exact addVertex_own c id _ el b
    next =>
      split
      next => exact Or.inl rfl
      next => exact addVertex_own c id _ el b
  | edge source target relationship =>
    rw [Write.apply_edge]
    unfold upsertEdge
    split
    next => exact Or.inl rfl
    next => exact addEdge_own c source target relationship el b

/-- What is stored under the own id after some writes was there, or was issued by them. -/
theorem foldl_apply_own (c : GraphCRDT) (writes : List Write) (el : Element) (b : Bool) (s : Int)
    (held : own (writes.foldl (Write.apply table) c) el b = s) :
    own c el b = s ∨ s ∈ ticks table c writes := by
  induction writes generalizing c with
  | nil => exact Or.inl held
  | cons w rest ih =>
    unfold ticks
    dsimp only
    rw [List.mem_append]
    rcases ih (w.apply table c) held with before | later
    · rcases @apply_own table c w el b with same | ⟨ticked, moved⟩
      · exact Or.inl (same.symm.trans before)
      · rw [ticked] at before
        refine Or.inr (Or.inl ?_)
        rw [if_neg moved, List.mem_singleton]
        exact (WithBot.coe_injective before).symm
    · exact Or.inr (Or.inr later)

/-! ## Merges -/

theorem vertexMarks_joinVertexLocked (vertices : VertexMap) (remote : Vertex) :
    vertexMarks (joinVertexLocked vertices remote).1 = vertexMarks vertices ⊔ remote.carried := by
  unfold joinVertexLocked
  rw [Vertex.carried, update_sup_carried]
  cases found : vertices[remote.uuid]? with
  | none => rw [vertexMarks_insert, vertexMarks_of_none found, bot_sup_eq]
  | some local_ =>
    rw [vertexMarks_insert, vertexMarks_of_some found]
    exact congrArg _ (marks_mergeTimelineInto local_.addTimeline local_.removeTimeline
      remote.addTimeline remote.removeTimeline)

/-- One mark after entries were joined in: what it was, or what an entry of its element says. -/
theorem mark_foldl_sup {α : Type} (carried : α → String → Marks) (l : List α)
    (start : String → Marks) (k : String) (b : Bool) (r : String) :
    markOf b (start k) r ≤ markOf b (l.foldl (fun acc e => acc ⊔ carried e) start k) r ∧
      (markOf b (l.foldl (fun acc e => acc ⊔ carried e) start k) r = markOf b (start k) r ∨
        ∃ e ∈ l, markOf b (l.foldl (fun acc e => acc ⊔ carried e) start k) r =
          markOf b (carried e k) r) := by
  have pointwise : markOf b (l.foldl (fun acc e => acc ⊔ carried e) start k) r =
      l.foldl (fun acc e => acc ⊔ markOf b (carried e k) r) (markOf b (start k) r) := by
    refine (List.foldl_hom (fun f : String → Marks => markOf b (f k) r) fun f e => ?_).symm
    rw [Pi.sup_apply, markOf_sup]
    rfl
  rw [pointwise]
  exact ⟨((foldl_sup_le_iff _ l _ _).mp le_rfl).1, foldl_sup_attained _ l _⟩

theorem mark_update {u k : String} {m : Marks} {b : Bool} {r : String} {s : Int}
    (carried : markOf b (Function.update (⊥ : String → Marks) u m k) r = s) :
    u = k ∧ markOf b m r = s := by
  by_cases same : k = u
  · subst same
    rw [Function.update_self] at carried
    exact ⟨rfl, carried⟩
  · rw [Function.update_of_ne same] at carried
    cases b <;> cases carried

/-- What is stored under the own id after a merge was there, or was brought; and nothing that
was there is lowered. -/
theorem mergeSnapshot_own (c : GraphCRDT) (snap : Snapshot) (el : Element) (b : Bool) :
    own c el b ≤ own (c.mergeSnapshot table snap) el b ∧
      ∀ s : Int, own (c.mergeSnapshot table snap) el b = s →
        own c el b = s ∨ Carries table snap c.clientID b s el := by
  have clientID : (c.mergeSnapshot table snap).clientID = c.clientID := rfl
  unfold own
  rw [clientID]
  cases el with
  | vertex u =>
    have loop : (c.mergeSnapshot table snap).vertices =
        snap.admitted.foldl (fun m v => (joinVertexLocked m v).1) c.vertices :=
      foldl_ingestVertex_admitted snap.vertices (c.vertices, {})
    have joined : vertexMarks (c.mergeSnapshot table snap).vertices =
        snap.admitted.foldl (fun acc v => acc ⊔ v.carried) (vertexMarks c.vertices) := by
      rw [loop]
      exact (List.foldl_hom vertexMarks fun m v => (vertexMarks_joinVertexLocked m v).symm).symm
    obtain ⟨raised, either⟩ := mark_foldl_sup Vertex.carried snap.admitted
      (vertexMarks c.vertices) u b c.clientID
    rw [valueAt_line_vertex, valueAt_line_vertex, joined]
    refine ⟨raised, fun s held => ?_⟩
    rcases either with same | ⟨v, member, brought⟩
    · exact Or.inl (same.symm.trans held)
    · exact Or.inr ⟨v, member, mark_update (brought.symm.trans held)⟩
  | edge k =>
    have loop : (c.mergeSnapshot table snap).edges =
        (snap.admittedEdges table).foldl (fun m e => (joinEdgeLocked m e).1) c.edges :=
      foldl_ingestEdge_admitted table snap.edges
        (c.edges, (snap.vertices.foldl ingestVertex (c.vertices, {})).2)
    have joined : edgeMarks (c.mergeSnapshot table snap).edges =
        (snap.admittedEdges table).foldl (fun acc e => acc ⊔ e.carried) (edgeMarks c.edges) := by
      rw [loop]
      exact (List.foldl_hom edgeMarks fun m e => (edgeMarks_joinEdgeLocked m e).symm).symm
    obtain ⟨raised, either⟩ := mark_foldl_sup Edge.carried (snap.admittedEdges table)
      (edgeMarks c.edges) k b c.clientID
    rw [valueAt_line_edge, valueAt_line_edge, joined]
    refine ⟨raised, fun s held => ?_⟩
    rcases either with same | ⟨e, member, brought⟩
    · exact Or.inl (same.symm.trans held)
    · exact Or.inr ⟨e, member, mark_update (brought.symm.trans held)⟩

/-! ## Runs -/

namespace Host

theorem owned_start (generated id : String) : (start generated id).Owned := by
  intro el b s held
  cases el <;> cases b <;> cases held

theorem Owned.merge {σ : Host} (owned : σ.Owned) {snap : Snapshot}
    (respects : σ.Respects table snap) :
    ({ σ with replica := σ.replica.mergeSnapshot table snap } : Host).Owned := by
  intro el b s held
  unfold TopologyReplica.mergeSnapshot at held
  dsimp only at held ⊢
  split at held
  next => exact owned el b s held
  next =>
    obtain ⟨raised, brought⟩ := @mergeSnapshot_own table σ.replica.crdt snap el b
    rcases brought s held with before | carries
    · exact owned el b s before
    · rcases respects el b s carries with issued | lower
      · exact issued
      · exact owned el b s (le_antisymm (raised.trans_eq held) lower)

theorem Owned.step {σ next : Host} (owned : σ.Owned) {event : HostEvent}
    (stepped : σ.step table event = some next) (honest : σ.Honest table event next) :
    next.Owned := by
  cases event with
  | observe ctx =>
    cases stepped
    intro el b s held
    dsimp only at held ⊢
    rw [List.mem_append]
    unfold TopologyReplica.issues
    cases enabled : σ.replica.enabled with
    | false =>
      unfold TopologyReplica.observe at held
      rw [if_pos (Or.inl enabled)] at held
      exact Or.inl (owned el b s held)
    | true =>
      have running : σ.replica = ⟨true, σ.replica.crdt⟩ := by rw [← enabled]
      rw [running, TopologyReplica.observe_crdt] at held
      rw [if_neg Bool.false_ne_true.symm]
      rcases foldl_apply_own σ.replica.crdt ctx.describe el b s held with before | issued
      · exact Or.inl (owned el b s before)
      · exact Or.inr issued
  | offer snap =>
    unfold Host.step at stepped
    dsimp only at stepped
    split at stepped
    next =>
      cases stepped
      exact owned
    next foreign =>
      cases stepped
      exact owned.merge (honest foreign)
  | sync snap =>
    cases stepped
    exact owned.merge honest

end Host

/-- Where every snapshot that a replica accepts respects its name, all it stores under its id
it has issued itself. -/
theorem owned_of_honest (table : CaseTable) (generated id : String) (events : List HostEvent)
    (final : Host)
    (honest : EveryStep (Host.step table) (Host.Honest table) (Host.start generated id) events)
    (ran : run (Host.step table) (Host.start generated id) events = some final) : final.Owned :=
  run_preserves_of (Host.step table) Host.Owned (fun _ _ _ owned stepped fine =>
    owned.step stepped fine) events _ final (Host.owned_start generated id) honest ran

/-- A peer's entry of the pump, with what it writes under the two names. -/
def peerState (author : String) (underSiteA : Int) : Snapshot where
  clientID := author
  lamportClock := 2
  vertices :=
    [{ uuid := "HPP-PUMP-221"
       addTimeline := ((∅ : Timeline).insert "site-a" underSiteA).insert "site-b" 2 }]
  edges := []

theorem carries_peerState {author : String} {underSiteA : Int} {b : Bool} {s : Int} {el : Element}
    (carries : Carries table (peerState author underSiteA) "site-a" b s el) : s = underSiteA := by
  cases el with
  | vertex u =>
    obtain ⟨v, member, -, brought⟩ := carries
    obtain ⟨w, inside, rfl⟩ := List.mem_map.mp (List.mem_filter.mp member).1
    obtain rfl := List.mem_singleton.mp inside
    cases b with
    | false => cases brought
    | true =>
      have stored : valueAt (((∅ : Timeline).insert "site-a" underSiteA).insert "site-b" 2)
          "site-a" = (underSiteA : WithBot Int) := by
        rw [valueAt_insert, if_neg (by decide), valueAt_insert, if_pos rfl]
      exact (WithBot.coe_injective (stored.symm.trans brought)).symm
  | edge k =>
    obtain ⟨e, member, -⟩ := carries
    cases member

/-- A host that observes the pump and pulls its own stamp back from a peer. -/
theorem owned_of_honest_pulled :
    ∃ final, run (Host.step asciiCase) (Host.start "replica-0" "site-a")
      [.observe (Tier.pump "HIGH"), .sync (peerState "site-b" 1)] = some final ∧ final.Owned := by
  refine ⟨_, rfl, owned_of_honest asciiCase "replica-0" "site-a"
    [.observe (Tier.pump "HIGH"), .sync (peerState "site-b" 1)] _ ?_ rfl⟩
  refine everyStep_cons (Host.step asciiCase) rfl trivial
    (everyStep_cons (Host.step asciiCase) rfl ?_ trivial)
  intro el b s carries
  let observed := (newTopologyReplica "replica-0" "site-a").observe asciiCase (Tier.pump "HIGH")
  have named : observed.crdt.clientID = "site-a" := by decide +kernel
  have issued : (newTopologyReplica "replica-0" "site-a").issues asciiCase (Tier.pump "HIGH") =
      [1] := by decide +kernel
  change Carries asciiCase (peerState "site-b" 1) observed.crdt.clientID b s el at carries
  rw [named] at carries
  refine Or.inl ?_
  change s ∈ [] ++ (newTopologyReplica "replica-0" "site-a").issues asciiCase (Tier.pump "HIGH")
  rw [issued, carries_peerState carries]
  decide

/-- An offer under another name stores a stamp that the host never issued under its own. -/
theorem forged_not_owned :
    ∃ final, run (Host.step asciiCase) (Host.start "replica-0" "site-a")
        [.offer (peerState "site-b" 100)] = some final ∧ final.issued = [] ∧ ¬final.Owned := by
  refine ⟨_, rfl, rfl, fun owned => ?_⟩
  have stored : own ((newTopologyReplica "replica-0" "site-a").mergeSnapshot asciiCase
      (peerState "site-b" 100)).crdt (.vertex "HPP-PUMP-221") true = (100 : Int) := by
    decide +kernel
  exact List.not_mem_nil (owned (.vertex "HPP-PUMP-221") true 100 stored)

end OpenOntology.Replica
