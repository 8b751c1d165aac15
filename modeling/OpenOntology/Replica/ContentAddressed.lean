import Mathlib.Data.List.Perm.Subperm
import OpenOntology.Library.Upsert
import OpenOntology.Crdt.Convergence
import OpenOntology.Crdt.Effects
import OpenOntology.Replica.Observe

/-!
# When observation is content-addressed

A context is a list of writes: vertex descriptions and edges. Observing is the
conditional application of this list, so it settles exactly when no two
descriptions of one vertex differ.
-/
namespace OpenOntology.Replica
open Crdt Library

variable {table : CaseTable}

/-! ## Contexts as lists of writes -/

inductive Write where
  | vertex (id : String) (props : Properties)
  | edge (source target relationship : String)

namespace Write

def apply (table : CaseTable) (c : GraphCRDT) : Write → GraphCRDT
  | vertex id props => upsertVertex c id props
  | edge source target relationship => upsertEdge table c source target relationship

@[simp] theorem apply_vertex (c : GraphCRDT) (id : String) (props : Properties) :
    (vertex id props).apply table c = upsertVertex c id props := rfl

@[simp] theorem apply_edge (c : GraphCRDT) (source target relationship : String) :
    (edge source target relationship).apply table c =
      upsertEdge table c source target relationship := rfl

/-- A described neighbour and the edge to it; nothing when it has no id. -/
def link (id : String) (props : Properties) (source target relationship : String) : List Write :=
  if id = "" then [] else [vertex id props, edge source target relationship]

end Write

namespace OntologyContext

def describe (ctx : OntologyContext) : List Write :=
  if ctx.assetID = "" then []
  else
    Write.vertex ctx.assetID (assetProperties ctx) ::
      (ctx.parentSystems.flatMap (fun system =>
          Write.link system.nodeID (systemProperties system) ctx.assetID system.nodeID relPartOf) ++
        ctx.components.flatMap (fun component =>
          if component = "" then []
          else Write.link (ctx.assetID ++ "/" ++ component)
            (componentProperties ctx.assetID component) ctx.assetID
            (ctx.assetID ++ "/" ++ component) relHasComponent) ++
        ctx.assignedOperators.flatMap (fun operator =>
          Write.link operator.operatorID (operatorProperties operator) operator.operatorID
            ctx.assetID relResponsibleFor) ++
        ctx.upstreamDependencies.flatMap (fun node =>
          Write.link node.assetID (flowProperties node) node.assetID ctx.assetID relFeeds) ++
        ctx.downstreamImpacts.flatMap (fun node =>
          Write.link node.assetID (flowProperties node) ctx.assetID node.assetID relFeeds))

/-- The ids a context names, the empty ones it skips aside. -/
def ids (ctx : OntologyContext) : List String :=
  ctx.assetID :: (ctx.parentSystems.map SystemNode.nodeID ++ ctx.components ++
    ctx.assignedOperators.map Operator.operatorID ++
    ctx.upstreamDependencies.map FlowRef.assetID ++ ctx.downstreamImpacts.map FlowRef.assetID)

/-- Every id is what the ingest paths emit: no surrounding white space and no key
separator. -/
def Valid (ctx : OntologyContext) : Prop :=
  ∀ id ∈ ctx.ids, trimSpace id = id ∧ separatorFree id = true

end OntologyContext

/-- No two descriptions of one vertex differ once blank values are dropped. -/
def Consistent (contexts : List OntologyContext) : Prop :=
  ∀ a ∈ contexts, ∀ b ∈ contexts, ∀ (id : String) (p q : Properties),
    Write.vertex id p ∈ a.describe → Write.vertex id q ∈ b.describe → pruneEmpty p = pruneEmpty q

/-- The descriptions of the contexts, blank values dropped. -/
def described (contexts : List OntologyContext) : List (String × Properties) :=
  (contexts.flatMap OntologyContext.describe).filterMap fun
    | .vertex id props => some (id, pruneEmpty props)
    | .edge .. => none

theorem mem_described (contexts : List OntologyContext) (id : String) (props : Properties) :
    (id, props) ∈ described contexts ↔
      ∃ ctx ∈ contexts, ∃ p, Write.vertex id p ∈ ctx.describe ∧ pruneEmpty p = props := by
  unfold described
  rw [List.mem_filterMap]
  constructor
  · rintro ⟨w, member, image⟩
    obtain ⟨ctx, among, inside⟩ := List.mem_flatMap.mp member
    cases w with
    | edge => cases image
    | vertex id' p =>
      cases image
      exact ⟨ctx, among, p, inside, rfl⟩
  · rintro ⟨ctx, among, p, inside, rfl⟩
    exact ⟨.vertex id p, List.mem_flatMap.mpr ⟨ctx, among, inside⟩, rfl⟩

theorem consistent_iff (contexts : List OntologyContext) :
    Consistent contexts ↔
      ∀ x ∈ described contexts, ∀ y ∈ described contexts, x.1 = y.1 → x.2 = y.2 := by
  constructor
  · rintro consistent ⟨id, props⟩ left ⟨id', props'⟩ right rfl
    obtain ⟨a, among_a, p, inside_a, rfl⟩ := (mem_described contexts _ _).mp left
    obtain ⟨b, among_b, q, inside_b, rfl⟩ := (mem_described contexts _ _).mp right
    exact consistent a among_a b among_b id p q inside_a inside_b
  · intro agree a among_a b among_b id p q inside_a inside_b
    exact agree (id, pruneEmpty p) ((mem_described contexts _ _).mpr ⟨a, among_a, p, inside_a, rfl⟩)
      (id, pruneEmpty q) ((mem_described contexts _ _).mpr ⟨b, among_b, q, inside_b, rfl⟩) rfl

instance (contexts : List OntologyContext) : Decidable (Consistent contexts) :=
  decidable_of_iff _ (consistent_iff contexts).symm

theorem foldl_apply_link (c : GraphCRDT) (id : String) (props : Properties)
    (source target relationship : String) :
    (Write.link id props source target relationship).foldl (Write.apply table) c =
      if id = "" then c
      else upsertEdge table (upsertVertex c id props) source target relationship := by
  unfold Write.link
  split <;> rfl

theorem observeFlow_eq_foldl (c : GraphCRDT) (node : FlowRef) (source target : String)
    (ends : node.assetID ≠ "" → source ≠ "" ∧ target ≠ "") :
    observeFlow table c node source target =
      (Write.link node.assetID (flowProperties node) source target relFeeds).foldl
        (Write.apply table) c := by
  rw [foldl_apply_link]
  unfold observeFlow
  by_cases unnamed : node.assetID = ""
  · rw [if_pos (Or.inl unnamed), if_pos unnamed]
  · have named := ends unnamed
    rw [if_neg unnamed, if_neg]
    rintro (blank | blank | blank)
    · exact unnamed blank
    · exact named.1 blank
    · exact named.2 blank

theorem slashed_ne_empty (asset component : String) : asset ++ "/" ++ component ≠ "" := by
  intro blank
  have length := congrArg String.length blank
  simp only [String.length_append] at length
  have slash : "/".length = 1 := by decide
  have empty : "".length = 0 := by decide
  omega

/-- Observing is applying the description, write by write. -/
theorem observeContext_eq_foldl (c : GraphCRDT) (ctx : OntologyContext) (named : ctx.assetID ≠ "") :
    observeContext table c ctx = ctx.describe.foldl (Write.apply table) c := by
  have components : ∀ (c : GraphCRDT) (component : String),
      (if component = "" then c
        else upsertEdge table (upsertVertex c (ctx.assetID ++ "/" ++ component)
          (componentProperties ctx.assetID component)) ctx.assetID
          (ctx.assetID ++ "/" ++ component) relHasComponent) =
      (if component = "" then []
        else Write.link (ctx.assetID ++ "/" ++ component)
          (componentProperties ctx.assetID component) ctx.assetID
          (ctx.assetID ++ "/" ++ component) relHasComponent).foldl (Write.apply table) c := by
    intro c component
    split
    · rfl
    · rw [foldl_apply_link, if_neg (slashed_ne_empty ctx.assetID component)]
  have upstream : (fun (c : GraphCRDT) (node : FlowRef) =>
      observeFlow table c node node.assetID ctx.assetID) = fun c node =>
        (Write.link node.assetID (flowProperties node) node.assetID ctx.assetID relFeeds).foldl
          (Write.apply table) c := by
    funext c node
    exact observeFlow_eq_foldl c node _ _ fun source => ⟨source, named⟩
  have downstream : (fun (c : GraphCRDT) (node : FlowRef) =>
      observeFlow table c node ctx.assetID node.assetID) = fun c node =>
        (Write.link node.assetID (flowProperties node) ctx.assetID node.assetID relFeeds).foldl
          (Write.apply table) c := by
    funext c node
    exact observeFlow_eq_foldl c node _ _ fun target => ⟨named, target⟩
  unfold observeContext OntologyContext.describe
  simp only [if_neg named, List.foldl_cons, List.foldl_append, List.foldl_flatMap, upstream,
    downstream, ← components, foldl_apply_link]
  rfl

/-! ## Valid writes -/

/-- The relationship types the engine replicates are already in canonical form. -/
def Canonical (table : CaseTable) (relationship : String) : Prop :=
  trimSpace relationship = relationship ∧ table.upper relationship = relationship ∧
    relationship ≠ "" ∧ separatorFree relationship = true

theorem canonical_relationships (table : CaseTable) :
    ∀ relationship ∈ [relPartOf, relHasComponent, relResponsibleFor, relFeeds],
      Canonical table relationship := by
  have ascii : ∀ relationship ∈ [relPartOf, relHasComponent, relResponsibleFor, relFeeds],
      trimSpace relationship = relationship ∧
        relationship.toList.all (fun c => c.toNat < 128) = true ∧
        String.ofList (relationship.toList.map Char.toUpper) = relationship ∧
        relationship ≠ "" ∧ separatorFree relationship = true := by decide
  intro relationship member
  obtain ⟨trimmed, small, upper, named, free⟩ := ascii relationship member
  exact ⟨trimmed, (table.upper_ascii relationship small).trans upper, named, free⟩

/-- A nonempty id as the ingest paths emit it. -/
def GoodId (id : String) : Prop := trimSpace id = id ∧ id ≠ "" ∧ separatorFree id = true

def Write.Valid (table : CaseTable) : Write → Prop
  | .vertex id _ => GoodId id
  | .edge source target relationship =>
    GoodId source ∧ GoodId target ∧ Canonical table relationship

theorem link_valid {id source target relationship : String} {props : Properties}
    (good : id ≠ "" → GoodId id ∧ GoodId source ∧ GoodId target)
    (member : relationship ∈ [relPartOf, relHasComponent, relResponsibleFor, relFeeds]) :
    ∀ w ∈ Write.link id props source target relationship, w.Valid table := by
  intro w inside
  unfold Write.link at inside
  split at inside
  next => cases inside
  next named =>
    obtain ⟨good_id, good_source, good_target⟩ := good named
    simp only [List.mem_cons, List.not_mem_nil, or_false] at inside
    rcases inside with rfl | rfl
    · exact good_id
    · exact ⟨good_source, good_target, canonical_relationships table _ member⟩

theorem component_good {asset component : String} (asset_good : GoodId asset)
    (component_good : GoodId component) : GoodId (asset ++ "/" ++ component) := by
  refine ⟨trimSpace_append _ _ _ asset_good.2.1 component_good.2.1 asset_good.1 component_good.1,
    slashed_ne_empty asset component, ?_⟩
  have slash : separatorFree "/" = true := by decide
  simp only [separatorFree_append, asset_good.2.2, component_good.2.2, slash, Bool.and_self]

/-- A valid context makes valid writes only. -/
theorem describe_valid {ctx : OntologyContext} (valid : ctx.Valid) :
    ∀ w ∈ ctx.describe, w.Valid table := by
  intro w inside
  unfold OntologyContext.describe at inside
  split at inside
  next => cases inside
  next named =>
    have good : ∀ id ∈ ctx.ids, id ≠ "" → GoodId id :=
      fun id member nonempty => ⟨(valid id member).1, nonempty, (valid id member).2⟩
    simp only [OntologyContext.ids, List.mem_cons, List.mem_append, List.mem_map] at good
    have asset : GoodId ctx.assetID := good _ (Or.inl rfl) named
    simp only [List.mem_cons, List.mem_append, List.mem_flatMap] at inside
    rcases inside with rfl | (((⟨system, member, inside⟩ | ⟨component, member, inside⟩) |
      ⟨operator, member, inside⟩) | ⟨node, member, inside⟩) | ⟨node, member, inside⟩
    · exact asset
    · refine link_valid (fun nonempty => ?_) (by simp) w inside
      have system_good := good system.nodeID (by grind) nonempty
      exact ⟨system_good, asset, system_good⟩
    · split at inside
      next => cases inside
      next nonempty =>
        refine link_valid (fun _ => ?_) (by simp) w inside
        have id_good := component_good asset (good component (by grind) nonempty)
        exact ⟨id_good, asset, id_good⟩
    · refine link_valid (fun nonempty => ?_) (by simp) w inside
      have operator_good := good operator.operatorID (by grind) nonempty
      exact ⟨operator_good, operator_good, asset⟩
    · refine link_valid (fun nonempty => ?_) (by simp) w inside
      have node_good := good node.assetID (by grind) nonempty
      exact ⟨node_good, node_good, asset⟩
    · refine link_valid (fun nonempty => ?_) (by simp) w inside
      have node_good := good node.assetID (by grind) nonempty
      exact ⟨node_good, asset, node_good⟩

/-! ## One conditional write -/

theorem sameProperties_iff (a b : Properties) : sameProperties a b = true ↔ a = b := by
  unfold sameProperties
  rw [Bool.and_eq_true, beq_iff_eq, List.all_eq_true]
  constructor
  · rintro ⟨size, contained⟩
    have subset : a.toList ⊆ b.toList := by
      intro entry member
      have held := contained entry member
      rw [beq_iff_eq] at held
      exact Std.ExtTreeMap.mem_toList_iff_getElem?_eq_some.mpr held
    have nodup : a.toList.Nodup := by
      have distinct := Std.ExtTreeMap.distinct_keys_toList (t := a)
      exact distinct.imp fun differ same => differ (by rw [same]; exact Std.ReflCmp.compare_self)
    have lengths : b.toList.length ≤ a.toList.length := by
      rw [Std.ExtTreeMap.length_toList, Std.ExtTreeMap.length_toList, size]
    have permuted := (List.Nodup.subperm nodup subset).perm_of_length_le lengths
    apply Std.ExtTreeMap.ext_getElem?
    intro k
    apply Option.ext
    intro v
    rw [← Std.ExtTreeMap.mem_toList_iff_getElem?_eq_some,
      ← Std.ExtTreeMap.mem_toList_iff_getElem?_eq_some]
    exact permuted.mem_iff
  · rintro rfl
    refine ⟨rfl, ?_⟩
    intro entry member
    rw [beq_iff_eq]
    exact Std.ExtTreeMap.mem_toList_iff_getElem?_eq_some.mp member

/-- What a write leaves behind, entry by entry. -/
def Write.Holds (c : GraphCRDT) : Write → Prop
  | .vertex id props =>
    ∃ v, c.vertices[id]? = some v ∧ v.live = true ∧ v.properties = pruneEmpty props
  | .edge source target relationship =>
    ∃ e, c.edges[edgeKey source relationship target]? = some e ∧ e.live = true

/-- The replica is in a state some fleet can put it in, with room for `n` writes. -/
def Ready (table : CaseTable) (n : Nat) (c : GraphCRDT) : Prop :=
  (∃ W, Fleet.Invariant table W { replica := fun _ : Unit => c, pool := [] }) ∧
    c.lamportClock + n ≤ maxInt64

theorem Ready.wellFormed {n : Nat} {c : GraphCRDT} (ready : Ready table n c) :
    ∃ W, GraphWellFormed table W c := by
  obtain ⟨⟨W, inv⟩, -⟩ := ready
  exact ⟨W, inv.replicas ()⟩

theorem Ready.space {n : Nat} {c : GraphCRDT} (ready : Ready table (n + 1) c) :
    c.lamportClock < maxInt64 := by
  have room := ready.2
  push_cast at room
  omega

theorem Ready.drop {n : Nat} {c : GraphCRDT} (ready : Ready table (n + 1) c) : Ready table n c :=
  ⟨ready.1, by have room := ready.2; push_cast at room; omega⟩

theorem set_unit (c d : GraphCRDT) :
    (Fleet.set { replica := fun _ : Unit => c, pool := [] } () d) =
      { replica := fun _ : Unit => d, pool := [] } := by
  simp only [Fleet.set, Fleet.mk.injEq, and_true]
  funext i
  exact Function.update_self () d fun _ => c

theorem Ready.addVertex {n : Nat} {c : GraphCRDT} (ready : Ready table (n + 1) c) (id : String)
    (props : Properties) (named : trimSpace id ≠ "") : Ready table n (c.addVertex id props) := by
  obtain ⟨⟨W, inv⟩, room⟩ := ready
  push_cast at room
  have nonneg := (inv.replicas ()).clock
  have space : c.lamportClock < maxInt64 := by omega
  obtain ⟨W', -, inv'⟩ := inv.addVertex () space id props
  rw [set_unit] at inv'
  refine ⟨⟨W', inv'⟩, ?_⟩
  have clock := addVertex_clock nonneg space id props named
  dsimp only at clock
  omega

theorem normalizeEdge_of_valid {source target relationship : String}
    (valid : (Write.edge source target relationship).Valid table) :
    GraphCRDT.normalizeEdge table source target relationship =
      some (source, target, relationship) := by
  obtain ⟨⟨source_trim, source_named, -⟩, ⟨target_trim, target_named, -⟩, rel_trim, rel_upper,
    rel_named, -⟩ := valid
  unfold GraphCRDT.normalizeEdge
  simp only [source_trim, target_trim, rel_trim, rel_upper, if_neg source_named,
    if_neg target_named, if_neg rel_named]

theorem Ready.addEdge {n : Nat} {c : GraphCRDT} (ready : Ready table (n + 1) c)
    {source target relationship : String}
    (valid : (Write.edge source target relationship).Valid table) :
    Ready table n (c.addEdge table source target relationship) := by
  obtain ⟨⟨W, inv⟩, room⟩ := ready
  push_cast at room
  have ok := inv.replicas ()
  have space : c.lamportClock < maxInt64 := by omega
  have frame : (c.addEdge table source target relationship).clientID = c.clientID ∧
      c.lamportClock ≤ (c.addEdge table source target relationship).lamportClock :=
    Fleet.addEdge_frame ok.clock space source target relationship
  have inv' := inv.set_same () _ (addEdge_wellFormed ok space source target relationship
    valid.1.2.2 valid.2.2.2.2.2) frame.1 frame.2
  rw [set_unit] at inv'
  refine ⟨⟨W, inv'⟩, ?_⟩
  have clock := (addEdge_of_normal ok.clock space (normalizeEdge_of_valid valid)).1
  dsimp only at clock ⊢
  omega

/-- The two outcomes of a vertex write: it holds already, or it is asserted anew. -/
theorem upsertVertex_cases {c : GraphCRDT} {id : String} (trimmed : trimSpace id = id)
    (props : Properties) :
    (upsertVertex c id props = c ∧ (Write.vertex id props).Holds c) ∨
      (upsertVertex c id props = c.addVertex id (pruneEmpty props) ∧
        ¬(Write.vertex id props).Holds c) := by
  unfold upsertVertex GraphCRDT.lookupVertex Write.Holds
  rw [trimmed]
  cases found : c.vertices[id]? with
  | none =>
    refine Or.inr ⟨rfl, ?_⟩
    rintro ⟨v, held, -⟩
    rw [found] at held
    cases held
  | some v =>
    dsimp only
    cases live : v.live with
    | false =>
      refine Or.inr ⟨rfl, ?_⟩
      rintro ⟨w, held, alive, -⟩
      rw [found] at held
      cases held
      rw [live] at alive
      cases alive
    | true =>
      simp only [if_true, live, Bool.true_and, sameProperties_iff]
      by_cases same : v.properties = pruneEmpty props
      · exact Or.inl ⟨if_pos same, v, found, live, same⟩
      · refine Or.inr ⟨if_neg same, ?_⟩
        rintro ⟨w, held, -, content⟩
        rw [found] at held
        cases held
        exact same content

/-- The live view contains an edge exactly when its entry and both endpoints are
live. -/
theorem liveEdges_any {c : GraphCRDT} {W : Writes} (ok : GraphWellFormed table W c)
    {source target relationship : String}
    (valid : (Write.edge source target relationship).Valid table) :
    (c.liveEdges.any fun edge => edge.sourceUUID == source && edge.targetUUID == target &&
        edge.relationshipType == relationship) = true ↔
      (Write.edge source target relationship).Holds c ∧ c.vertexLive source = true ∧
        c.vertexLive target = true := by
  rw [List.any_eq_true]
  simp only [mem_liveEdges, Bool.and_eq_true, beq_iff_eq]
  constructor
  · rintro ⟨e, ⟨⟨k, stored⟩, live, source_live, target_live⟩, ⟨rfl, rfl⟩, rfl⟩
    obtain ⟨filed, -⟩ := ok.edges k e stored
    refine ⟨⟨e, ?_, live⟩, source_live, target_live⟩
    rw [show edgeKey e.sourceUUID e.relationshipType e.targetUUID = k from filed]
    exact stored
  · rintro ⟨⟨e, stored, live⟩, source_live, target_live⟩
    obtain ⟨filed, standing⟩ := ok.edges _ e stored
    obtain ⟨rfl, rfl, rfl⟩ := edgeKey_inj _ _ _ _ _ _ standing.sourceFree
      standing.relationshipFree valid.1.2.2 valid.2.2.2.2.2 filed
    exact ⟨e, ⟨⟨_, stored⟩, live, source_live, target_live⟩, ⟨rfl, rfl⟩, rfl⟩

theorem upsertEdge_cases {c : GraphCRDT} {W : Writes} (ok : GraphWellFormed table W c)
    {source target relationship : String}
    (valid : (Write.edge source target relationship).Valid table) :
    (upsertEdge table c source target relationship = c ∧
        (Write.edge source target relationship).Holds c) ∨
      upsertEdge table c source target relationship =
        c.addEdge table source target relationship := by
  unfold upsertEdge
  split
  next present => exact Or.inl ⟨rfl, ((liveEdges_any ok valid).mp present).1⟩
  next => exact Or.inr rfl

/-- Two writes collide when they describe one vertex differently. -/
def Write.Compatible : Write → Write → Prop
  | .vertex id props, .vertex id' props' => id = id' → pruneEmpty props = pruneEmpty props'
  | _, _ => True

theorem apply_lands (n : Nat) (c : GraphCRDT) (w : Write) (ready : Ready table (n + 1) c)
    (valid : w.Valid table) :
    w.Holds (w.apply table c) ∧ Ready table n (w.apply table c) := by
  obtain ⟨W, ok⟩ := ready.wellFormed
  have space := ready.space
  cases w with
  | vertex id props =>
    have named : trimSpace id ≠ "" := by
      rw [valid.1]
      exact valid.2.1
    rcases upsertVertex_cases (c := c) valid.1 props with ⟨same, held⟩ | ⟨written, -⟩
    · rw [Write.apply_vertex, same]
      exact ⟨held, ready.drop⟩
    · rw [Write.apply_vertex, written]
      refine ⟨?_, ready.addVertex id _ named⟩
      have live := addVertex_live ok space id (pruneEmpty props) named
      rw [valid.1] at live
      exact live
  | edge source target relationship =>
    rcases upsertEdge_cases ok valid with ⟨same, held⟩ | written
    · rw [Write.apply_edge, same]
      exact ⟨held, ready.drop⟩
    · rw [Write.apply_edge, written]
      exact ⟨addEdge_live ok space valid.1.2.2 valid.2.2.2.2.2 (normalizeEdge_of_valid valid),
        ready.addEdge valid⟩

theorem apply_keeps (n : Nat) (c : GraphCRDT) (a b : Write) (ready : Ready table (n + 1) c)
    (valid_a : a.Valid table) (valid_b : b.Valid table) (compatible : a.Compatible b)
    (held : a.Holds c) : a.Holds (b.apply table c) := by
  obtain ⟨W, ok⟩ := ready.wellFormed
  have space := ready.space
  cases b with
  | vertex id props =>
    rcases upsertVertex_cases (c := c) valid_b.1 props with ⟨same, -⟩ | ⟨written, differs⟩
    · rwa [Write.apply_vertex, same]
    · rw [Write.apply_vertex, written]
      have frame := addVertex_frame c id (pruneEmpty props)
      cases a with
      | vertex id' props' =>
        by_cases same : id' = id
        · subst same
          have content := compatible rfl
          simp only [Write.Holds, content] at held
          exact absurd held differs
        · dsimp only [Write.Holds]
          rw [frame.1 id' (by rw [valid_b.1]; exact same)]
          exact held
      | edge source target relationship =>
        dsimp only [Write.Holds]
        rw [frame.2]
        exact held
  | edge source target relationship =>
    rcases upsertEdge_cases ok valid_b with ⟨same, -⟩ | written
    · rwa [Write.apply_edge, same]
    · rw [Write.apply_edge, written]
      have normal := normalizeEdge_of_valid valid_b
      obtain ⟨-, vertices, edges⟩ := addEdge_of_normal ok.clock space normal
      cases a with
      | vertex id' props' =>
        dsimp only [Write.Holds]
        rw [vertices]
        exact held
      | edge source' target' relationship' =>
        dsimp only [Write.Holds]
        by_cases same : edgeKey source' relationship' target' =
            edgeKey source relationship target
        · rw [same]
          exact addEdge_live ok space valid_b.1.2.2 valid_b.2.2.2.2.2 normal
        · rw [edges _ same]
          exact held

/-- The conditional writes of the replica. -/
def writes (table : CaseTable) : Upsert GraphCRDT Write where
  apply c w := w.apply table c
  holds c w := w.Holds c
  ready := Ready table
  valid w := w.Valid table
  compatible := Write.Compatible
  lands := apply_lands
  keeps := apply_keeps

theorem apply_moves (n : Nat) (c : GraphCRDT) (w : Write) (ready : Ready table (n + 1) c)
    (valid : w.Valid table) :
    w.apply table c = c ∨ c.lamportClock < (w.apply table c).lamportClock := by
  obtain ⟨W, ok⟩ := ready.wellFormed
  have space := ready.space
  cases w with
  | vertex id props =>
    rcases upsertVertex_cases (c := c) valid.1 props with ⟨same, -⟩ | ⟨written, -⟩
    · exact Or.inl same
    · refine Or.inr ?_
      have named : trimSpace id ≠ "" := by
        rw [valid.1]
        exact valid.2.1
      have clock := addVertex_clock ok.clock space id (pruneEmpty props) named
      rw [Write.apply_vertex, written]
      omega
  | edge source target relationship =>
    rcases upsertEdge_cases ok valid with ⟨same, -⟩ | written
    · exact Or.inl same
    · refine Or.inr ?_
      have clock := (addEdge_of_normal ok.clock space (normalizeEdge_of_valid valid)).1
      rw [Write.apply_edge, written]
      omega

theorem Ready.mono {m n : Nat} {c : GraphCRDT} (ready : Ready table m c) (le : n ≤ m) :
    Ready table n c :=
  ⟨ready.1, by have room := ready.2; omega⟩

theorem holds_of_vertex_unmoved {n : Nat} {c : GraphCRDT} {id : String} {props : Properties}
    (ready : Ready table (n + 1) c) (valid : (Write.vertex id props).Valid table)
    (same : (Write.vertex id props).apply table c = c) : (Write.vertex id props).Holds c := by
  obtain ⟨W, ok⟩ := ready.wellFormed
  have space := ready.space
  rcases upsertVertex_cases (c := c) valid.1 props with ⟨-, held⟩ | ⟨written, -⟩
  · exact held
  · have named : trimSpace id ≠ "" := by
      rw [valid.1]
      exact valid.2.1
    have clock := addVertex_clock ok.clock space id (pruneEmpty props) named
    rw [Write.apply_vertex, written] at same
    rw [same] at clock
    omega

/-! ## Whole contexts -/

/-- Both ends of every edge a context writes are vertices it describes. -/
theorem describe_grounded {ctx : OntologyContext} {source target relationship : String}
    (member : Write.edge source target relationship ∈ ctx.describe) :
    (∃ p, Write.vertex source p ∈ ctx.describe) ∧ ∃ q, Write.vertex target q ∈ ctx.describe := by
  unfold OntologyContext.describe at member ⊢
  split at member
  next => cases member
  next named =>
    rw [if_neg named]
    have pair : ∀ {id s t r : String} {p : Properties},
        Write.edge source target relationship ∈ Write.link id p s t r →
        source = s ∧ target = t ∧ Write.vertex id p ∈ Write.link id p s t r := by
      intro id s t r p inside
      unfold Write.link at inside ⊢
      split at inside
      next => cases inside
      next described =>
        simp only [List.mem_cons, List.not_mem_nil, or_false, reduceCtorEq, false_or,
          Write.edge.injEq] at inside
        rw [if_neg described]
        exact ⟨inside.1, inside.2.1, List.mem_cons_self⟩
    simp only [List.mem_cons, List.mem_append, List.mem_flatMap, reduceCtorEq, false_or] at member ⊢
    rcases member with (((⟨system, among, inside⟩ | ⟨component, among, inside⟩) |
      ⟨operator, among, inside⟩) | ⟨node, among, inside⟩) | ⟨node, among, inside⟩
    · obtain ⟨rfl, rfl, vertex⟩ := pair inside
      exact ⟨⟨_, Or.inl rfl⟩, _, Or.inr (Or.inl (Or.inl (Or.inl (Or.inl ⟨_, among, vertex⟩))))⟩
    · split at inside
      next => cases inside
      next nonempty =>
        obtain ⟨rfl, rfl, vertex⟩ := pair inside
        refine ⟨⟨_, Or.inl rfl⟩, componentProperties ctx.assetID component,
          Or.inr (Or.inl (Or.inl (Or.inl (Or.inr ⟨component, among, ?_⟩))))⟩
        rw [if_neg nonempty]
        exact vertex
    · obtain ⟨rfl, rfl, vertex⟩ := pair inside
      exact ⟨⟨_, Or.inr (Or.inl (Or.inl (Or.inr ⟨_, among, vertex⟩)))⟩, _, Or.inl rfl⟩
    · obtain ⟨rfl, rfl, vertex⟩ := pair inside
      exact ⟨⟨_, Or.inr (Or.inl (Or.inr ⟨_, among, vertex⟩))⟩, _, Or.inl rfl⟩
    · obtain ⟨rfl, rfl, vertex⟩ := pair inside
      exact ⟨⟨_, Or.inl rfl⟩, _, Or.inr (Or.inr ⟨_, among, vertex⟩)⟩

theorem vertexLive_of_holds {c : GraphCRDT} {id : String} {props : Properties}
    (held : (Write.vertex id props).Holds c) : c.vertexLive id = true := by
  obtain ⟨v, stored, live, -⟩ := held
  unfold GraphCRDT.vertexLive
  rw [stored]
  exact live

/-- A context whose writes all hold is observed without a trace. -/
theorem describe_settled {c : GraphCRDT} {W : Writes} (ok : GraphWellFormed table W c)
    {ctx : OntologyContext} (valid : ctx.Valid) (held : ∀ w ∈ ctx.describe, w.Holds c) :
    ∀ w ∈ ctx.describe, w.apply table c = c := by
  intro w member
  have good : w.Valid table := describe_valid valid w member
  cases w with
  | vertex id props =>
    rcases upsertVertex_cases (c := c) good.1 props with ⟨same, -⟩ | ⟨-, differs⟩
    · exact same
    · exact absurd (held _ member) differs
  | edge source target relationship =>
    obtain ⟨⟨p, source_described⟩, q, target_described⟩ := describe_grounded member
    have present := (liveEdges_any ok good).mpr ⟨held _ member,
      vertexLive_of_holds (held _ source_described), vertexLive_of_holds (held _ target_described)⟩
    rw [Write.apply_edge, upsertEdge, if_pos present]

namespace TopologyReplica

theorem observe_crdt (c : GraphCRDT) (ctx : OntologyContext) :
    observe table ⟨true, c⟩ ctx = ⟨true, ctx.describe.foldl (Write.apply table) c⟩ := by
  unfold observe
  by_cases unnamed : ctx.assetID = ""
  · rw [if_pos (Or.inr unnamed)]
    unfold OntologyContext.describe
    rw [if_pos unnamed]
    rfl
  · rw [if_neg (by simp [unnamed]), observeContext_eq_foldl c ctx unnamed]

theorem observeAll_crdt (c : GraphCRDT) (contexts : List OntologyContext) :
    observeAll table ⟨true, c⟩ contexts =
      ⟨true, (contexts.flatMap OntologyContext.describe).foldl (Write.apply table) c⟩ := by
  induction contexts generalizing c with
  | nil => rfl
  | cons ctx rest ih =>
    rw [observeAll, List.foldl_cons, observe_crdt, List.flatMap_cons, List.foldl_append]
    exact ih _

theorem observeAll_disabled (c : GraphCRDT) (contexts : List OntologyContext) :
    observeAll table ⟨false, c⟩ contexts = ⟨false, c⟩ := by
  induction contexts with
  | nil => rfl
  | cons ctx rest ih =>
    rw [observeAll, List.foldl_cons, observe, if_pos (Or.inl rfl)]
    exact ih

theorem describe_length_le {ctx : OntologyContext} {contexts : List OntologyContext}
    (member : ctx ∈ contexts) :
    ctx.describe.length ≤ (contexts.flatMap OntologyContext.describe).length := by
  obtain ⟨before, after, rfl⟩ := List.append_of_mem member
  simp only [List.flatMap_append, List.flatMap_cons, List.length_append]
  omega

/-- Consistent contexts settle after one pass: observing any of them again leaves
the whole replica as it is. -/
theorem settled_of_consistent {c : GraphCRDT} {contexts : List OntologyContext}
    (ready : Ready table ((contexts.flatMap OntologyContext.describe).length) c)
    (valid : ∀ ctx ∈ contexts, ctx.Valid) (consistent : Consistent contexts)
    (again : List OntologyContext) (known : ∀ ctx ∈ again, ctx ∈ contexts) :
    observeAll table (observeAll table ⟨true, c⟩ contexts) again =
      observeAll table ⟨true, c⟩ contexts := by
  rw [observeAll_crdt, observeAll_crdt]
  have writes_valid : ∀ w ∈ contexts.flatMap OntologyContext.describe, w.Valid table := by
    intro w member
    obtain ⟨ctx, among, inside⟩ := List.mem_flatMap.mp member
    exact describe_valid (valid ctx among) w inside
  have compatible : ∀ a ∈ contexts.flatMap OntologyContext.describe,
      ∀ b ∈ contexts.flatMap OntologyContext.describe, a.Compatible b := by
    intro a member_a b member_b
    obtain ⟨ctx_a, among_a, inside_a⟩ := List.mem_flatMap.mp member_a
    obtain ⟨ctx_b, among_b, inside_b⟩ := List.mem_flatMap.mp member_b
    cases a with
    | edge => trivial
    | vertex id p =>
      cases b with
      | edge => trivial
      | vertex id' q =>
        rintro rfl
        exact consistent ctx_a among_a ctx_b among_b id p q inside_a inside_b
  have start : (writes table).ready ((contexts.flatMap OntologyContext.describe).length + 0) c :=
    ready
  have held := (writes table).foldl_holds _ 0 c start writes_valid compatible
  have after := (writes table).foldl_ready _ 0 c start writes_valid
  obtain ⟨W, ok⟩ := Ready.wellFormed after
  rw [foldl_settled]
  intro w member
  obtain ⟨ctx, among, inside⟩ := List.mem_flatMap.mp member
  exact describe_settled ok (valid ctx (known ctx among))
    (fun w' inside' => held w' (List.mem_flatMap.mpr ⟨ctx, known ctx among, inside'⟩)) w inside

/-- If one more observation of any context never moves the clock, no two
descriptions of a vertex differ. -/
theorem consistent_of_settled {c : GraphCRDT} {contexts : List OntologyContext}
    (ready : Ready table (2 * (contexts.flatMap OntologyContext.describe).length) c)
    (valid : ∀ ctx ∈ contexts, ctx.Valid)
    (settled : ∀ ctx ∈ contexts,
      (observeAll table (observeAll table ⟨true, c⟩ contexts) [ctx]).clock =
        (observeAll table ⟨true, c⟩ contexts).clock) : Consistent contexts := by
  have writes_valid : ∀ w ∈ contexts.flatMap OntologyContext.describe, w.Valid table := by
    intro w member
    obtain ⟨ctx, among, inside⟩ := List.mem_flatMap.mp member
    exact describe_valid (valid ctx among) w inside
  have start : (writes table).ready ((contexts.flatMap OntologyContext.describe).length +
      (contexts.flatMap OntologyContext.describe).length) c := ready.mono (by omega)
  have after : Ready table (contexts.flatMap OntologyContext.describe).length
      ((contexts.flatMap OntologyContext.describe).foldl (Write.apply table) c) :=
    (writes table).foldl_ready _ _ c start writes_valid
  rw [observeAll_crdt] at settled
  revert settled after
  generalize (contexts.flatMap OntologyContext.describe).foldl (Write.apply table) c = s
  intro settled after
  -- A described vertex that the second look leaves alone is stored as described.
  have stored : ∀ ctx ∈ contexts, ∀ (id : String) (p : Properties),
      Write.vertex id p ∈ ctx.describe → (Write.vertex id p).Holds s := by
    intro ctx member id p described
    have unmoved := settled ctx member
    rw [observeAll_crdt] at unmoved
    simp only [clock, List.flatMap_cons, List.flatMap_nil, List.append_nil] at unmoved
    have length := describe_length_le member
    have nonempty := List.length_pos_of_mem described
    have same := ((writes table).foldl_unmoved GraphCRDT.lamportClock ctx.describe 0 s apply_moves
      (Ready.mono after length) (describe_valid (valid ctx member))).2 unmoved _ described
    exact holds_of_vertex_unmoved (n := 0) (Ready.mono after (by omega))
      (describe_valid (valid ctx member) _ described) same
  intro a member_a b member_b id p q described_p described_q
  obtain ⟨v, found, -, content⟩ := stored a member_a id p described_p
  obtain ⟨w, found', -, content'⟩ := stored b member_b id q described_q
  rw [found] at found'
  cases found'
  exact content.symm.trans content'

/-- No later observation of the contexts moves the clock or the digest. -/
def Silent (table : CaseTable) (r : TopologyReplica) (contexts : List OntologyContext) : Prop :=
  ∀ again : List OntologyContext, (∀ ctx ∈ again, ctx ∈ contexts) →
    ((r.observeAll table contexts).observeAll table again).clock =
        (r.observeAll table contexts).clock ∧
      ∀ marshal sha, ((r.observeAll table contexts).observeAll table again).digest marshal sha =
        (r.observeAll table contexts).digest marshal sha

theorem ready_of_invariant {ι : Type} [DecidableEq ι] {W : Writes} {σ : Fleet ι}
    (inv : Fleet.Invariant table W σ) (i : ι) (n : Nat)
    (room : (σ.replica i).lamportClock + n ≤ maxInt64) : Ready table n (σ.replica i) :=
  ⟨⟨W, {
    distinct := Function.injective_of_subsingleton _
    replicas := fun _ => inv.replicas i
    snapshots := fun s member => by cases member
    issued := fun _ => inv.issued i }⟩, room⟩

/-- Whatever a fleet did to the replica before: valid contexts, once observed, stay
silent exactly when no two descriptions of one vertex differ. -/
theorem observe_silent_iff {ι : Type} [DecidableEq ι] (table : CaseTable)
    (generated clientIDs : ι → String)
    (distinct : Function.Injective fun i =>
      (newGraphCRDT (generated i) (clientIDs i) 0).clientID)
    (events : List (Event ι)) (σ : Fleet ι)
    (reached : Library.run (Fleet.step table) (Fleet.start generated clientIDs) events = some σ)
    (i : ι) (enabled : Bool) (contexts : List OntologyContext)
    (valid : ∀ ctx ∈ contexts, ctx.Valid)
    (room : (σ.replica i).lamportClock +
      (2 * (contexts.flatMap OntologyContext.describe).length : Nat) ≤ maxInt64) :
    Silent table ⟨enabled, σ.replica i⟩ contexts ↔ enabled = false ∨ Consistent contexts := by
  obtain ⟨W, -, inv⟩ := (Fleet.invariant_start generated clientIDs distinct).run events reached
  have ready := ready_of_invariant inv i _ room
  cases enabled with
  | false =>
    refine ⟨fun _ => Or.inl rfl, ?_⟩
    intro _ again _
    simp only [observeAll_disabled, true_and, implies_true]
  | true =>
    constructor
    · intro silent
      refine Or.inr (consistent_of_settled ready valid ?_)
      intro ctx member
      refine (silent [ctx] ?_).1
      intro ctx' among
      rw [List.mem_singleton] at among
      rwa [among]
    · rintro (disabled | consistent)
      · cases disabled
      · intro again known
        rw [settled_of_consistent (ready.mono (by omega)) valid consistent again known]
        exact ⟨rfl, fun _ _ => rfl⟩

/-- A pump that feeds an exchanger, and the exchanger's own context: the flow
neighbour is described without the properties its own context carries. -/
def pumpAndExchanger : List OntologyContext :=
  [{ assetID := "HPP-PUMP-221", assetName := "Hydraulic Power Pack Pump 221"
     downstreamImpacts := [{ assetID := "HX-SHELL-TUBE-E220", name := "Exchanger E-220" }] },
   { assetID := "HX-SHELL-TUBE-E220", assetName := "Exchanger E-220", criticality := "HIGH" }]

theorem pumpAndExchanger_valid : ∀ ctx ∈ pumpAndExchanger, ctx.Valid := by
  unfold OntologyContext.Valid pumpAndExchanger
  decide

/-- The two contexts overwrite each other's description of the exchanger forever. -/
theorem pumpAndExchanger_not_silent :
    (∀ ctx ∈ pumpAndExchanger, ctx.Valid) ∧
      ¬Silent asciiCase ⟨true, newGraphCRDT "replica-0" "site-a" 0⟩ pumpAndExchanger := by
  refine ⟨pumpAndExchanger_valid, ?_⟩
  intro silent
  have inv : Fleet.Invariant asciiCase (fun _ _ => none)
      (Fleet.start (fun _ : Unit => "replica-0") fun _ => "site-a") :=
    Fleet.invariant_start _ _ (Function.injective_of_subsingleton _)
  have consistent := consistent_of_settled (ready_of_invariant inv () _ (by decide))
    pumpAndExchanger_valid (fun ctx member => (silent [ctx] (by simpa using member)).1)
  exact absurd consistent (by decide +kernel)

/-- Without the exchanger's own context the pump settles. -/
theorem observe_silent_pump :
    Silent asciiCase ⟨true, newGraphCRDT "replica-0" "site-a" 0⟩ (pumpAndExchanger.take 1) := by
  have decided := observe_silent_iff asciiCase (fun _ : Unit => "replica-0") (fun _ => "site-a")
    (Function.injective_of_subsingleton _) [] _ rfl () true (pumpAndExchanger.take 1)
    (fun ctx member => pumpAndExchanger_valid ctx (List.mem_of_mem_take member)) (by decide)
  exact decided.mpr (Or.inr (by decide +kernel))

end TopologyReplica
end OpenOntology.Replica
