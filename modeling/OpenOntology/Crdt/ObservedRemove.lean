import OpenOntology.Crdt.EdgeIdentity
import OpenOntology.Crdt.LastWrite

/-!
# An edge asserted while its endpoint is removed

The cascade of a removal stamps the edges the replica shows, an older incarnation of the
asserted edge among them. The stamp it writes says how often the removing replica ticked,
not what it has seen: whether a concurrent assertion outlives it is settled by two clocks
that know nothing of each other.
-/
namespace OpenOntology.Crdt
open Library

variable {table : CaseTable} {ι : Type} [DecidableEq ι]

/-! ## What a run leaves standing -/

namespace Traced

variable {τ next : Traced ι} {event : Event ι}

theorem step_known (stepped : τ.step table event = some next) (i : ι) :
    τ.known i ⊆ next.known i := by
  obtain ⟨σ, -, rfl⟩ := Option.map_eq_some_iff.mp stepped
  dsimp only
  rw [Function.update_apply]
  split
  next same =>
    rw [same]
    exact Set.subset_union_left
  next => exact subset_rfl

theorem run_known {events : List (Event ι)} (ran : run (step table) τ events = some next)
    (i : ι) : τ.known i ⊆ next.known i :=
  run_preserves (step table) (fun σ => τ.known i ⊆ σ.known i)
    (fun _ _ _ known stepped => known.trans (step_known stepped i)) events τ next subset_rfl ran

theorem step_logged (stepped : τ.step table event = some next) {w : Write}
    (logged : Logged τ.log w) : Logged next.log w := by
  obtain ⟨σ, -, rfl⟩ := Option.map_eq_some_iff.mp stepped
  exact logged.append _

/-- The actor knows what it has just issued. -/
theorem issued_known (stepped : τ.step table event = some next) {w : Write}
    (issued : w ∈ event.writes table τ.fleet) : w ∈ next.known event.actor := by
  obtain ⟨σ, -, rfl⟩ := Option.map_eq_some_iff.mp stepped
  dsimp only
  rw [Function.update_self]
  refine Or.inr ?_
  cases event <;> first | exact issued | cases issued

/-- Merging with a peer, its knowledge is learnt. -/
theorem merge_known {i j : ι} (stepped : τ.step table (.merge i j) = some next) :
    τ.known j ⊆ next.known i := by
  obtain ⟨σ, -, rfl⟩ := Option.map_eq_some_iff.mp stepped
  show τ.known j ⊆ Function.update τ.known i (τ.known i ∪ τ.known j) i
  rw [Function.update_self]
  exact Set.subset_union_right

theorem step_clientID (inv : Invariant table τ) (stepped : τ.step table event = some next)
    (i : ι) : (next.fleet.replica i).clientID = (τ.fleet.replica i).clientID := by
  obtain ⟨σ, advanced, rfl⟩ := Option.map_eq_some_iff.mp stepped
  cases event with
  | addVertex j id props =>
    obtain ⟨-, room, rfl⟩ := Fleet.mutate_some
      (show τ.fleet.mutate j true (fun c => c.addVertex id props) = some σ from advanced)
    exact clientID_set (addVertex_applies (inv.replicas j).clock room id props).clientID i
  | removeVertex j id =>
    obtain ⟨-, room, rfl⟩ := Fleet.mutate_some
      (show τ.fleet.mutate j true (fun c => c.removeVertex id) = some σ from advanced)
    exact clientID_set (removeVertex_applies (inv.replicas j).clock room id).clientID i
  | addEdge j source target relationship =>
    obtain ⟨-, room, rfl⟩ := Fleet.mutate_some (show τ.fleet.mutate j true
      (fun c => c.addEdge table source target relationship) = some σ from advanced)
    exact clientID_set (addEdge_applies (inv.replicas j).clock room source target
      relationship).clientID i
  | removeEdge j source target relationship =>
    obtain ⟨-, room, rfl⟩ := Fleet.mutate_some (show τ.fleet.mutate j true
      (fun c => c.removeEdge table source target relationship) = some σ from advanced)
    exact clientID_set (removeEdge_applies (inv.replicas j).clock room source target
      relationship).clientID i
  | takeSnapshot j =>
    cases advanced
    rfl
  | merge j k =>
    replace advanced : τ.fleet.step table (.merge j k) = some σ := advanced
    simp only [Fleet.step] at advanced
    split at advanced
    next =>
      cases advanced
      rfl
    next =>
      cases advanced
      refine clientID_set ?_ i
      rfl
  | mergeSnapshot j taken =>
    replace advanced : τ.fleet.step table (.mergeSnapshot j taken) = some σ := advanced
    simp only [Fleet.step] at advanced
    split at advanced
    next => cases advanced
    next =>
      cases advanced
      refine clientID_set ?_ i
      rfl

theorem run_clientID {events : List (Event ι)} (inv : Invariant table τ)
    (ran : run (step table) τ events = some next) (i : ι) :
    (next.fleet.replica i).clientID = (τ.fleet.replica i).clientID :=
  (run_preserves (step table)
    (fun σ => Invariant table σ ∧ (σ.fleet.replica i).clientID = (τ.fleet.replica i).clientID)
    (fun _ _ _ kept stepped =>
      ⟨kept.1.step stepped, (step_clientID kept.1 stepped i).trans kept.2⟩)
    events τ next ⟨inv, rfl⟩ ran).2

/-- A write in the log was there before the run, or one of its events issued it. -/
theorem issued_at {events : List (Event ι)} (ran : run (step table) τ events = some next)
    {w : Write} (logged : Logged next.log w) :
    Logged τ.log w ∨ ∃ n before event after,
      Moment (step table) τ events n before event after ∧ w ∈ event.writes table before.fleet := by
  induction events using List.reverseRecOn generalizing next with
  | nil =>
    cases ran
    exact Or.inl logged
  | append_singleton events last ih =>
    obtain ⟨middle, first, stepped⟩ := run_snoc _ _ _ _ _ ran
    obtain ⟨σ, -, same⟩ := Option.map_eq_some_iff.mp stepped
    obtain ⟨issue, member, rfl⟩ := logged
    rw [← same] at member
    rcases List.mem_append.mp member with new | old
    · obtain ⟨w, issued, rfl⟩ := List.mem_map.mp new
      exact Or.inr ⟨_, middle, last, next, moment_last first stepped, issued⟩
    · rcases ih first ⟨issue, old, rfl⟩ with before | ⟨n, before, event, after, at_n, issued⟩
      · exact Or.inl before
      · exact Or.inr ⟨n, before, event, after, at_n.snoc last, issued⟩

end Traced

omit [DecidableEq ι] in
/-- Writes carry the identity of the replica that issues them. -/
theorem Event.writes_clientID {σ : Fleet ι} {event : Event ι} {w : Write}
    (issued : w ∈ event.writes table σ) :
    w.stamp.clientID = (σ.replica event.actor).clientID := by
  cases event with
  | addVertex i id props =>
    replace issued : w ∈ (σ.replica i).addVertexWrites id props := issued
    unfold GraphCRDT.addVertexWrites at issued
    split at issued
    next => cases issued
    next => rw [List.mem_singleton.mp issued]; rfl
  | removeVertex i id =>
    replace issued : w ∈ (σ.replica i).removeVertexWrites id := issued
    by_cases named : trimSpace id = ""
    · rw [GraphCRDT.removeVertexWrites, if_pos named] at issued
      cases issued
    · rcases (mem_removeVertexWrites named w).mp issued with rfl | ⟨k, e, -, -, rfl⟩
      · rfl
      · rfl
  | addEdge i source target relationship =>
    replace issued : w ∈ (σ.replica i).edgeWrites table true source target relationship := issued
    unfold GraphCRDT.edgeWrites at issued
    split at issued
    next => cases issued
    next => rw [List.mem_singleton.mp issued]; rfl
  | removeEdge i source target relationship =>
    replace issued : w ∈ (σ.replica i).edgeWrites table false source target relationship := issued
    unfold GraphCRDT.edgeWrites at issued
    split at issued
    next => cases issued
    next => rw [List.mem_singleton.mp issued]; rfl
  | takeSnapshot i => cases issued
  | merge i j => cases issued
  | mergeSnapshot i taken => cases issued

/-! ## A removal and an assertion that do not know of each other -/

/-- From a history both know, `b` asserts the edge, `a` removes an endpoint of it without
having merged that, neither operates on the edge otherwise, and each has merged the other
in the end. -/
structure Divergence (table : CaseTable) (origin : Traced ι) (a b : ι) where
  id : String
  source : String
  target : String
  relationship : String
  triple : Triple
  names : GraphCRDT.normalizeEdge table source target relationship =
    some (triple.source, triple.target, triple.relationship)
  endpoint : trimSpace id = triple.source ∨ trimSpace id = triple.target
  events : List (Event ι)
  final : Traced ι
  ran : run (Traced.step table) origin events = some final
  removal : ℕ
  removing : Traced ι
  removed : Traced ι
  removes : Moment (Traced.step table) origin events removal removing (.removeVertex a id) removed
  assertion : ℕ
  asserting : Traced ι
  asserted : Traced ι
  asserts : Moment (Traced.step table) origin events assertion asserting
    (.addEdge b source target relationship) asserted
  common : ∀ w, Logged origin.log w → w.element = .edge triple.key →
    w ∈ origin.known a ∧ w ∈ origin.known b
  unmerged : ∀ w ∈ (Event.addEdge b source target relationship).writes table asserting.fleet,
    w ∉ removing.known a
  alone : ∀ n before event after,
    Moment (Traced.step table) origin events n before event after →
      n ≠ removal → n ≠ assertion → event.actor = a ∨ event.actor = b →
        ∀ w ∈ event.writes table before.fleet, w.element ≠ .edge triple.key
  unheard : ∀ w, w ∈ final.known a ∨ w ∈ final.known b → w.element = .edge triple.key →
    Logged origin.log w ∨ w.stamp.clientID = (origin.fleet.replica a).clientID ∨
      w.stamp.clientID = (origin.fleet.replica b).clientID
  merged : asserted.known b ⊆ final.known a
  merged' : removed.known a ⊆ final.known b

namespace Divergence

variable {origin : Traced ι} {a b : ι}

/-- The removing replica shows an incarnation of the edge. -/
def Held (d : Divergence table origin a b) : Prop :=
  ∃ e, (d.removing.fleet.replica a).edges[d.triple.key]? = some e ∧ e.live = true ∧
    (e.sourceUUID = trimSpace d.id ∨ e.targetUUID = trimSpace d.id)

/-- The assertion, as it is stamped. -/
def assertionWrite (d : Divergence table origin a b) : Write :=
  ⟨.edge d.triple.key, true, ∅, (d.asserting.fleet.replica b).nextStamp⟩

/-- The tombstone of the cascade, as it is stamped. -/
def cascadeWrite (d : Divergence table origin a b) : Write :=
  ⟨.edge d.triple.key, false, ∅, (d.removing.fleet.replica a).nextStamp⟩

theorem named (d : Divergence table origin a b) : trimSpace d.id ≠ "" := by
  obtain ⟨-, -, -, named⟩ := normalizeEdge_some d.names
  rcases d.endpoint with source | target
  · rw [source]
    exact named.1
  · rw [target]
    exact named.2.1

theorem assertion_writes (d : Divergence table origin a b) :
    (Event.addEdge b d.source d.target d.relationship).writes table d.asserting.fleet =
      [d.assertionWrite] := by
  show (d.asserting.fleet.replica b).edgeWrites table true d.source d.target d.relationship = _
  unfold GraphCRDT.edgeWrites
  rw [d.names]
  rfl

/-- The removal stamps the edge exactly when the replica shows it. -/
theorem mem_removal_writes (d : Divergence table origin a b) (w : Write) :
    w ∈ (Event.removeVertex a d.id).writes table d.removing.fleet ∧
      w.element = .edge d.triple.key ↔ d.Held ∧ w = d.cascadeWrite := by
  refine (and_congr_left' (mem_removeVertexWrites d.named w)).trans ⟨?_, ?_⟩
  · rintro ⟨rfl | ⟨k, e, stored, cascades, rfl⟩, element⟩
    · cases element
    · cases element
      simp only [GraphCRDT.cascades, Bool.and_eq_true, Bool.or_eq_true, decide_eq_true_eq]
        at cascades
      exact ⟨⟨e, stored, cascades.2, cascades.1⟩, rfl⟩
  · rintro ⟨⟨e, stored, live, incident⟩, rfl⟩
    refine ⟨Or.inr ⟨_, e, stored, ?_, rfl⟩, rfl⟩
    simp only [GraphCRDT.cascades, Bool.and_eq_true, Bool.or_eq_true, decide_eq_true_eq]
    exact ⟨incident, live⟩

/-- Everything either knows of the edge in the end: the common history, the assertion, and
the tombstone if one was written. -/
theorem known_cases (d : Divergence table origin a b) (inv : Traced.Invariant table origin)
    {w : Write} (known : w ∈ d.final.known a ∨ w ∈ d.final.known b)
    (element : w.element = .edge d.triple.key) :
    Logged origin.log w ∨ w = d.assertionWrite ∨ (d.Held ∧ w = d.cascadeWrite) := by
  have last := inv.run d.events d.ran
  have logged : Logged d.final.log w := by
    rcases known with known | known
    · exact ((last.replicas a).known w known).2.2
    · exact ((last.replicas b).known w known).2.2
  rcases Traced.issued_at d.ran logged with before | ⟨n, before, event, after, at_n, issued⟩
  · exact Or.inl before
  rcases d.unheard w known element with old | own
  · exact Or.inl old
  right
  by_cases removal : n = d.removal
  · subst removal
    obtain ⟨rfl, rfl⟩ := at_n.unique d.removes
    exact Or.inr ((d.mem_removal_writes w).mp ⟨issued, element⟩)
  by_cases assertion : n = d.assertion
  · subst assertion
    obtain ⟨rfl, rfl⟩ := at_n.unique d.asserts
    rw [d.assertion_writes] at issued
    exact Or.inl (List.mem_singleton.mp issued)
  refine absurd element (d.alone n before event after at_n removal assertion ?_ w issued)
  have identity := Traced.run_clientID inv at_n.reached event.actor
  rw [Event.writes_clientID issued, identity] at own
  exact own.imp (fun same => inv.distinct same) (fun same => inv.distinct same)

/-- The two stamps are one above the clocks. -/
theorem stamps (d : Divergence table origin a b) (inv : Traced.Invariant table origin) :
    d.assertionWrite.stamp.timestamp = (d.asserting.fleet.replica b).lamportClock + 1 ∧
      d.cascadeWrite.stamp.timestamp = (d.removing.fleet.replica a).lamportClock + 1 := by
  constructor
  · obtain ⟨σ, advanced, -⟩ := Option.map_eq_some_iff.mp d.asserts.stepped
    obtain ⟨-, room, -⟩ := Fleet.mutate_some (show d.asserting.fleet.mutate b true
      (fun c => c.addEdge table d.source d.target d.relationship) = some σ from advanced)
    exact increment_of_lt _ ((inv.run _ d.asserts.reached).replicas b).clock room
  · obtain ⟨σ, advanced, -⟩ := Option.map_eq_some_iff.mp d.removes.stepped
    obtain ⟨-, room, -⟩ := Fleet.mutate_some (show d.removing.fleet.mutate a true
      (fun c => c.removeVertex d.id) = some σ from advanced)
    exact increment_of_lt _ ((inv.run _ d.removes.reached).replicas a).clock room

/-- Both know the assertion in the end. -/
theorem assertion_known (d : Divergence table origin a b) :
    d.assertionWrite ∈ d.final.known a ∧ d.assertionWrite ∈ d.final.known b := by
  have own : d.assertionWrite ∈ d.asserted.known b := by
    refine Traced.issued_known d.asserts.stepped ?_
    rw [d.assertion_writes]
    exact List.mem_singleton_self _
  exact ⟨d.merged own, Traced.run_known (d.asserts.rest d.ran) b own⟩

/-- Both know the tombstone in the end, if one was written. -/
theorem cascade_known (d : Divergence table origin a b) (held : d.Held) :
    d.cascadeWrite ∈ d.final.known a ∧ d.cascadeWrite ∈ d.final.known b := by
  have own : d.cascadeWrite ∈ d.removed.known a :=
    Traced.issued_known d.removes.stepped ((d.mem_removal_writes _).mpr ⟨held, rfl⟩).1
  exact ⟨Traced.run_known (d.removes.rest d.ran) a own, d.merged' own⟩

/-- The common history is older than the assertion. -/
theorem common_below (d : Divergence table origin a b) (inv : Traced.Invariant table origin)
    {w : Write} (logged : Logged origin.log w) (element : w.element = .edge d.triple.key) :
    w.stamp.timestamp ≤ (d.asserting.fleet.replica b).lamportClock :=
  (((inv.run _ d.asserts.reached).replicas b).known w
    (Traced.run_known d.asserts.reached b (d.common w logged element).2)).2.1

/-- In the end a replica of the two shows the edge unless the tombstone outranks the
assertion. -/
theorem liveAt_iff (d : Divergence table origin a b) (inv : Traced.Invariant table origin) {i : ι}
    (either : i = a ∨ i = b) :
    (d.final.fleet.replica i).liveAt (.edge d.triple.key) = true ↔ ¬d.Held ∨
      (d.removing.fleet.replica a).lamportClock < (d.asserting.fleet.replica b).lamportClock := by
  obtain ⟨asserted, removed⟩ := d.stamps inv
  have nonneg := ((inv.run _ d.asserts.reached).replicas b).clock
  have reflects := ((inv.run d.events d.ran).replicas i).reflects
  have assertion : d.assertionWrite ∈ d.final.known i := by
    rcases either with rfl | rfl
    · exact d.assertion_known.1
    · exact d.assertion_known.2
  have cascade : d.Held → d.cascadeWrite ∈ d.final.known i := by
    intro held
    rcases either with rfl | rfl
    · exact (d.cascade_known held).1
    · exact (d.cascade_known held).2
  have cases : ∀ w ∈ d.final.known i, w.element = .edge d.triple.key →
      Logged origin.log w ∨ w = d.assertionWrite ∨ (d.Held ∧ w = d.cascadeWrite) := by
    intro w known
    refine d.known_cases inv ?_
    rcases either with rfl | rfl
    · exact Or.inl known
    · exact Or.inr known
  -- the assertion is the latest of the adds
  have adds : highestStamp ((d.final.fleet.replica i).line (.edge d.triple.key) true) =
      (d.asserting.fleet.replica b).lamportClock + 1 := by
    apply le_antisymm
    · refine (reflects.highestStamp_le_iff _ _ _).mpr ⟨by omega, fun w known element adds => ?_⟩
      rcases cases w known element with old | rfl | ⟨-, rfl⟩
      · exact (d.common_below inv old element).trans (by omega)
      · exact asserted.le
      · cases adds
    · rw [← asserted]
      exact ((reflects.highestStamp_le_iff _ _ _).mp le_rfl).2 _ assertion rfl rfl
  have live : (d.final.fleet.replica i).liveAt (.edge d.triple.key) = true ↔
      highestStamp ((d.final.fleet.replica i).line (.edge d.triple.key) false) ≤
        (d.asserting.fleet.replica b).lamportClock := by
    unfold GraphCRDT.liveAt
    rw [adds, decide_eq_true_eq]
    omega
  rw [live, reflects.highestStamp_le_iff]
  constructor
  · rintro ⟨-, below⟩
    by_cases held : d.Held
    · have outranked := below _ (cascade held) rfl rfl
      exact Or.inr (by omega)
    · exact Or.inl held
  · intro outranked
    refine ⟨nonneg, fun w known element removes => ?_⟩
    rcases cases w known element with old | rfl | ⟨held, rfl⟩
    · exact d.common_below inv old element
    · cases removes
    · rcases outranked with unheld | below
      · exact absurd held unheld
      · omega

/-- Two replicas: the removal, the assertion, and one merge each way. -/
def exchange (inv : Traced.Invariant table origin) (two : ∀ i, i = a ∨ i = b)
    {id source target relationship : String} (triple : Triple)
    (names : GraphCRDT.normalizeEdge table source target relationship =
      some (triple.source, triple.target, triple.relationship))
    (endpoint : trimSpace id = triple.source ∨ trimSpace id = triple.target)
    (common : ∀ w, Logged origin.log w → w.element = .edge triple.key →
      w ∈ origin.known a ∧ w ∈ origin.known b)
    {removed asserted forth final : Traced ι}
    (removes : origin.step table (.removeVertex a id) = some removed)
    (asserts : removed.step table (.addEdge b source target relationship) = some asserted)
    (merges : asserted.step table (.merge a b) = some forth)
    (merges' : forth.step table (.merge b a) = some final) : Divergence table origin a b :=
  have ran : run (Traced.step table) origin [.removeVertex a id,
      .addEdge b source target relationship, .merge a b, .merge b a] = some final := by
    simp only [run_cons, removes, asserts, merges, merges', Option.bind_some, run_nil]
  { id, source, target, relationship, triple, names, endpoint, final, ran, common
    events := [.removeVertex a id, .addEdge b source target relationship, .merge a b, .merge b a]
    removal := 0
    removing := origin
    removed := removed
    removes := ⟨rfl, rfl, removes⟩
    assertion := 1
    asserting := removed
    asserted := asserted
    asserts := ⟨rfl, by simp only [List.take_succ_cons, List.take_zero, run_cons, removes,
      Option.bind_some, run_nil], asserts⟩
    unmerged := by
      intro w issued known
      have next := inv.step removes
      obtain ⟨σ, advanced, -⟩ := Option.map_eq_some_iff.mp asserts
      obtain ⟨-, room, -⟩ := Fleet.mutate_some (show removed.fleet.mutate b true
        (fun c => c.addEdge table source target relationship) = some σ from advanced)
      obtain ⟨issue, member, rfl⟩ :=
        Traced.step_logged removes ((inv.replicas a).known w known).2.2
      exact next.fresh b issue member ((addEdge_applies (next.replicas b).clock room source target
        relationship).stamps issue.write issued)
    alone := by
      intro n before event after at_n removal assertion _ w issued
      have listed := at_n.event
      match n with
      | 0 => exact absurd rfl removal
      | 1 => exact absurd rfl assertion
      | 2 =>
        cases listed
        cases issued
      | 3 =>
        cases listed
        cases issued
      | n + 4 => cases listed
    unheard := by
      intro w known _
      have last := inv.run _ ran
      have logged : Logged final.log w := by
        rcases known with known | known
        · exact ((last.replicas a).known w known).2.2
        · exact ((last.replicas b).known w known).2.2
      refine (Traced.issued_at ran logged).imp_right ?_
      rintro ⟨n, before, event, after, at_n, issued⟩
      rw [Event.writes_clientID issued, Traced.run_clientID inv at_n.reached]
      rcases two event.actor with same | same
      · exact Or.inl (by rw [same])
      · exact Or.inr (by rw [same])
    merged := (Traced.merge_known merges).trans (Traced.step_known merges' a)
    merged' := (Traced.step_known asserts a).trans
      ((Traced.step_known merges a).trans (Traced.merge_known merges')) }

end Divergence

/-- The entry under the key is stored and live. -/
def GraphCRDT.ShowsEdge (c : GraphCRDT) (key : String) : Prop :=
  ∃ e, c.edges[key]? = some e ∧ e.live = true

theorem GraphCRDT.showsEdge_iff (c : GraphCRDT) (key : String) :
    c.ShowsEdge key ↔ c.liveAt (.edge key) = true := by
  unfold GraphCRDT.ShowsEdge
  constructor
  · rintro ⟨e, stored, live⟩
    rw [← live_of_edge stored, live]
  · intro live
    cases found : c.edges[key]? with
    | some e => exact ⟨e, rfl, (live_of_edge found).trans live⟩
    | none => simp [GraphCRDT.liveAt, GraphCRDT.line, found] at live

namespace Fleet

/-- A concurrent assertion outlives the removal of an endpoint on both replicas exactly when
the removing replica showed no incarnation of the edge, or its clock was behind. -/
theorem assertion_survives_iff (table : CaseTable) (generated clientIDs : ι → String)
    (clocks : ι → Int)
    (distinct : Function.Injective fun i =>
      (newGraphCRDT (generated i) (clientIDs i) (clocks i)).clientID)
    (history : List (Event ι)) (origin : Traced ι)
    (reached : run (Traced.step table) (Traced.start generated clientIDs clocks) history =
      some origin)
    (a b : ι) (d : Divergence table origin a b) :
    ((d.final.fleet.replica a).ShowsEdge d.triple.key ∧
        (d.final.fleet.replica b).ShowsEdge d.triple.key) ↔
      ¬d.Held ∨
        (d.removing.fleet.replica a).lamportClock < (d.asserting.fleet.replica b).lamportClock := by
  have inv := (Traced.invariant_start generated clientIDs clocks distinct).run history reached
  rw [GraphCRDT.showsEdge_iff, GraphCRDT.showsEdge_iff, d.liveAt_iff inv (Or.inl rfl),
    d.liveAt_iff inv (Or.inr rfl), and_self]

/-- A fleet of two replicas. -/
def eastWest : Traced Bool :=
  Traced.start (fun _ => "replica-0") (fun east => if east then "east" else "west") fun _ => 0

/-- East has not heard of the edge: the assertion of west stands on both. -/
theorem assertion_survives_unobserved :
    ∃ d : Divergence asciiCase eastWest true false, ¬d.Held ∧
      (d.final.fleet.replica true).ShowsEdge d.triple.key ∧
      (d.final.fleet.replica false).ShowsEdge d.triple.key := by
  have ran : (run (Traced.step asciiCase) eastWest [.removeVertex true "pump",
      .addEdge false "pump" "valve" "FEEDS", .merge true false,
      .merge false true]).isSome = true := by decide +kernel
  obtain ⟨final, ran⟩ := Option.isSome_iff_exists.mp ran
  simp only [run_cons, run_nil, Option.bind_eq_some_iff] at ran
  obtain ⟨removed, removes, asserted, asserts, forth, merges, back, merges', -⟩ := ran
  have inv : Traced.Invariant asciiCase eastWest :=
    Traced.invariant_start (fun _ => "replica-0") _ (fun _ => 0) eastWest_distinct
  let d : Divergence asciiCase eastWest true false :=
    Divergence.exchange inv (fun i => by cases i <;> simp)
      ⟨"pump", "FEEDS", "valve"⟩ (by decide +kernel) (Or.inl (by decide +kernel))
      (fun w logged _ => (by obtain ⟨issue, member, -⟩ := logged; cases member))
      removes asserts merges merges'
  have unheld : ¬d.Held := by
    rintro ⟨e, stored, -⟩
    exact absurd (stored.symm.trans Std.ExtTreeMap.getElem?_empty) (Option.some_ne_none e)
  exact ⟨d, unheld, (assertion_survives_iff asciiCase (fun _ => "replica-0") _ (fun _ => 0)
    eastWest_distinct [] eastWest rfl true false d).mpr (Or.inl unheld)⟩

/-- East shows the edge that west asserted, has ticked once more, and removes an endpoint
while west asserts the edge again: neither shows it. -/
theorem assertion_lost :
    ∃ (origin : Traced Bool) (d : Divergence asciiCase origin true false),
      run (Traced.step asciiCase) eastWest [.addEdge false "pump" "valve" "FEEDS",
        .merge true false, .addVertex true "tank" ∅] = some origin ∧
      ¬((d.final.fleet.replica true).ShowsEdge d.triple.key ∧
        (d.final.fleet.replica false).ShowsEdge d.triple.key) := by
  have lost : (run (Traced.step asciiCase) eastWest [.addEdge false "pump" "valve" "FEEDS",
      .merge true false, .addVertex true "tank" ∅, .removeVertex true "pump",
      .addEdge false "pump" "valve" "FEEDS", .merge true false, .merge false true]).map
        (fun τ => (τ.fleet.replica true).liveAt (.edge (edgeKey "pump" "FEEDS" "valve"))) =
      some false := by decide +kernel
  obtain ⟨final, ran, dead⟩ := Option.map_eq_some_iff.mp lost
  simp only [run_cons, run_nil, Option.bind_eq_some_iff] at ran
  obtain ⟨linked, links, shared, shares, origin, ticks, removed, removes, asserted, asserts,
    forth, merges, back, merges', last⟩ := ran
  have history : run (Traced.step asciiCase) eastWest [.addEdge false "pump" "valve" "FEEDS",
      .merge true false, .addVertex true "tank" ∅] = some origin := by
    simp only [run_cons, run_nil, links, shares, ticks, Option.bind_some]
  have inv : Traced.Invariant asciiCase origin :=
    (Traced.invariant_start (fun _ => "replica-0") _ (fun _ => 0) eastWest_distinct).run _ history
  have common : ∀ w, Logged origin.log w → w.element = .edge (edgeKey "pump" "FEEDS" "valve") →
      w ∈ origin.known true ∧ w ∈ origin.known false := by
    intro w logged element
    rcases Traced.issued_at history logged with ⟨issue, member, -⟩ | issued
    · cases member
    obtain ⟨n, before, event, after, at_n, issued⟩ := issued
    have listed := at_n.event
    match n with
    | 0 =>
      cases listed
      have start : before = eastWest := (Option.some.inj at_n.reached).symm
      subst start
      have own := Traced.issued_known links issued
      exact ⟨Traced.step_known ticks true (Traced.merge_known shares own),
        Traced.step_known ticks false (Traced.step_known shares false own)⟩
    | 1 =>
      cases listed
      cases issued
    | 2 =>
      cases listed
      replace issued : w ∈ (before.fleet.replica true).addVertexWrites "tank" ∅ := issued
      unfold GraphCRDT.addVertexWrites at issued
      split at issued
      next => cases issued
      next =>
        rw [List.mem_singleton.mp issued] at element
        cases element
    | n + 3 => cases listed
  let d : Divergence asciiCase origin true false :=
    Divergence.exchange inv (fun i => by cases i <;> simp)
      ⟨"pump", "FEEDS", "valve"⟩ (by decide +kernel) (Or.inl (by decide +kernel)) common
      removes asserts merges merges'
  refine ⟨origin, d, history, ?_⟩
  rintro ⟨shown, -⟩
  rw [GraphCRDT.showsEdge_iff] at shown
  have same : back = final := Option.some.inj last
  rw [← same] at dead
  rw [show d.final = back from rfl, show d.triple.key = edgeKey "pump" "FEEDS" "valve" from rfl,
    dead] at shown
  cases shown

end Fleet

end OpenOntology.Crdt
