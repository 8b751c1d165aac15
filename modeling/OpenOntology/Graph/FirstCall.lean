import OpenOntology.Bridge.Projection
import OpenOntology.Graph.Neighbourhood
import OpenOntology.Worker.Payload

/-!
# Who is called first

The graph tier sorts the operators of an asset and calls the first of them; the engine writes
them to the wire with a position for those that have none; the AI interceptor and the bridge
call the operator of the lowest position.
-/
namespace OpenOntology.Graph

open Python (stripWhitespace)

/-! ## The wire -/

/-- `Operator` of `ontology.mutations`. -/
structure Operator where
  operatorID : String
  name : String
  role : String
  shift : String
  contact : String
  escalationOrder : Int

structure FlowRef where
  assetID : String
  name : String
  model : String
  status : String
  relation : String
  hops : Int

/-- `OntologyContext` of `ontology.mutations`, as the graph tier fills it. -/
structure OntologyContext where
  assetID : String
  assetName : String
  assetClass : String
  modelNumber : String
  site : String
  criticality : String
  maintenanceWindow : String
  parentSystems : List SystemNode
  components : List String
  assignedOperators : List Operator
  upstreamDependencies : List FlowRef
  downstreamImpacts : List FlowRef
  blastRadius : Nat

/-- `firstNonEmpty(a, b)` -/
def firstNonEmpty (a b : String) : String := if a = "" then b else a

def flowRefsFrom (nodes : List FlowNode) (relation : String) : List FlowRef :=
  nodes.map fun node =>
    ⟨node.assetID, node.name, node.modelNumber, node.currentStatus, relation, node.hops⟩

/-- The operator at index `i`: one without an order gets the position. -/
def wireOperator (assignment : OperatorAssignment) (i : Nat) : Operator where
  operatorID := assignment.technicianID
  name := assignment.name
  role := firstNonEmpty assignment.role assignment.certificationLevel
  shift := assignment.shift
  contact := assignment.contact
  escalationOrder := if assignment.escalationOrder = 0 then i + 1 else assignment.escalationOrder

def wireOperators (operators : List OperatorAssignment) : List Operator :=
  operators.zipIdx.map fun entry => wireOperator entry.1 entry.2

def ontologyContextFrom (assetID : String) (n : OntologyNeighbourhood) : OntologyContext where
  assetID := firstNonEmpty n.target.assetID assetID
  assetName := n.target.name
  assetClass := n.assetClass
  modelNumber := n.modelNumber
  site := n.site
  criticality := n.criticality
  maintenanceWindow := n.maintenanceWindow
  parentSystems := n.parentSystems
  components := n.components.map fun component => firstNonEmpty component.name component.componentID
  assignedOperators := wireOperators n.operators
  upstreamDependencies := flowRefsFrom n.upstream "SUPPLIES"
  downstreamImpacts := flowRefsFrom n.downstream "IMPACTS"
  blastRadius := n.downstream.length

/-! ## What the consumers read -/

/-- `omitempty` on the one side, `None` on the other. -/
def omitted (s : String) : Option String := if s = "" then none else some s

/-- The AI interceptor's `Operator`, its texts stripped. -/
def Operator.inbound (operator : Operator) : Worker.Operator where
  operatorID := stripWhitespace operator.operatorID
  name := stripWhitespace operator.name
  escalationOrder := operator.escalationOrder

/-- The AI interceptor's `OntologyContext`. -/
def OntologyContext.inbound (context : OntologyContext) : Worker.OntologyContext where
  assetID := stripWhitespace context.assetID
  assetName := stripWhitespace context.assetName
  site := stripWhitespace context.site
  criticality := stripWhitespace context.criticality
  parentSystems := context.parentSystems.map fun system =>
    ⟨stripWhitespace system.name, system.depth⟩
  components := context.components.map stripWhitespace
  assignedOperators := context.assignedOperators.map Operator.inbound
  maintenanceWindow := (omitted context.maintenanceWindow).map stripWhitespace

def Operator.bridged (operator : Operator) : Bridge.Operator where
  operatorID := operator.operatorID
  name := operator.name
  escalationOrder := operator.escalationOrder

/-- The dictionary that the bridge projects. -/
def OntologyContext.bridged (context : OntologyContext) : Bridge.OntologyContext where
  assetName := context.assetName
  assetClass := context.assetClass
  site := context.site
  criticality := context.criticality
  modelNumber := context.modelNumber
  parentSystems := context.parentSystems.map fun system => ⟨system.nodeID, system.depth⟩
  assignedOperators := context.assignedOperators.map Operator.bridged
  upstreamDependencies := context.upstreamDependencies.map fun ref => ⟨ref.assetID, ref.status⟩
  downstreamImpacts := context.downstreamImpacts.map fun ref => ⟨ref.assetID, ref.status⟩
  maintenanceWindow := omitted context.maintenanceWindow

/-! ## The first of the lowest -/

section
variable {α : Type} {key : α → Int}

/-- The head is the first of the lowest exactly when no element lies below it. -/
theorem minOn?_cons_eq_head {head : α} {rest : List α} :
    (head :: rest).minOn? key = some head ↔ ∀ a ∈ rest, key head ≤ key a := by
  constructor
  · intro lowest a member
    have inside : a ∈ head :: rest := List.mem_cons_of_mem head member
    have least := List.apply_get_minOn?_le_of_mem (f := key) inside
    simpa only [lowest, Option.get_some] using least
  · intro below
    rw [List.minOn?_eq_some_minOn (List.cons_ne_nil head rest),
      List.minOn_eq_head (List.cons_ne_nil head rest), List.head_cons]
    intro a member
    rcases List.mem_cons.mp member with rfl | later
    · exact le_refl _
    · exact below a later

theorem minBy_eq_minOn? (l : List α) : Bridge.minBy key l = l.minOn? key := by
  cases l with
  | nil => rfl
  | cons head rest =>
    have pick : (fun least item => if key item < key least then item else least) = minOn key := by
      funext least item
      rw [minOn_eq_if]
      by_cases below : key item < key least
      · rw [if_pos below, if_neg (not_le.mpr below)]
      · rw [if_neg below, if_pos (not_lt.mp below)]
    exact congrArg (fun pick => some (rest.foldl pick head)) pick

end

/-! ## The sorted operators -/

section
variable {floats : GoFloats} {record : Fields} {operators : List OperatorAssignment}

def OperatorAssignment.ordered (a : OperatorAssignment) : Bool := a.escalationOrder ≠ 0

/-- Where the one operator may stand before the other. -/
def OperatorAssignment.Ahead (a b : OperatorAssignment) : Prop :=
  b.ordered = true → a.ordered = true ∧ a.escalationOrder ≤ b.escalationOrder

theorem OperatorAssignment.ahead_of_not_before {a b : OperatorAssignment}
    (not_before : (!b.before a) = true) : a.Ahead b := by
  intro ordered
  have some_order : b.escalationOrder ≠ 0 := of_decide_eq_true ordered
  unfold OperatorAssignment.before at not_before
  by_cases same : b.escalationOrder = a.escalationOrder
  · exact ⟨decide_eq_true (same ▸ some_order), le_of_eq same.symm⟩
  · rw [if_neg same, if_neg some_order] at not_before
    by_cases missing : a.escalationOrder = 0
    · rw [if_pos missing] at not_before
      cases not_before
    · rw [if_neg missing, Bool.not_eq_true', decide_eq_false_iff_not, not_lt] at not_before
      exact ⟨decide_eq_true missing, not_before⟩

theorem OperatorAssignment.before_trans {a b c : OperatorAssignment}
    (first : (!b.before a) = true) (second : (!c.before b) = true) : (!c.before a) = true := by
  unfold OperatorAssignment.before at first second ⊢
  grind

theorem OperatorAssignment.before_total (a b : OperatorAssignment) :
    ((!b.before a) || (!a.before b)) = true := by
  unfold OperatorAssignment.before
  grind

theorem mapOperators_ahead : (mapOperators floats record).Pairwise OperatorAssignment.Ahead := by
  unfold mapOperators
  refine (List.pairwise_mergeSort ?_ ?_ _).imp OperatorAssignment.ahead_of_not_before
  · exact fun a b c => OperatorAssignment.before_trans
  · exact OperatorAssignment.before_total

/-- Those with an order stand before those without. -/
theorem filter_ordered (ahead : operators.Pairwise OperatorAssignment.Ahead) :
    operators = operators.filter OperatorAssignment.ordered ++
      operators.filter fun a => !a.ordered := by
  induction operators with
  | nil => rfl
  | cons a rest ih =>
    obtain ⟨before, later⟩ := List.pairwise_cons.mp ahead
    cases ordered : a.ordered with
    | true =>
      rw [List.filter_cons_of_pos ordered, List.filter_cons_of_neg (by simp [ordered]),
        List.cons_append, ← ih later]
    | false =>
      have none_ordered : rest.filter OperatorAssignment.ordered = [] := by
        refine List.filter_eq_nil_iff.mpr fun b member ordered' => ?_
        rw [(before b member ordered').1] at ordered
        cases ordered
      rw [List.filter_cons_of_neg (by simp [ordered]), List.filter_cons_of_pos (by simp [ordered]),
        none_ordered, List.nil_append]
      have rest_same := ih later
      rw [none_ordered, List.nil_append] at rest_same
      rw [← rest_same]

/-- The positions from which on the operators have no order. -/
theorem unordered_index (ahead : operators.Pairwise OperatorAssignment.Ahead) {a : OperatorAssignment}
    {i : Nat} (member : (a, i) ∈ operators.zipIdx) (unordered : a.ordered = false) :
    (operators.filter OperatorAssignment.ordered).length ≤ i := by
  rw [filter_ordered ahead, List.zipIdx_append] at member
  rcases List.mem_append.mp member with front | back
  · have kept := List.mem_filter.mp (List.fst_mem_of_mem_zipIdx front)
    rw [unordered] at kept
    cases kept.2
  · have position := List.le_snd_of_mem_zipIdx back
    rwa [Nat.zero_add] at position

theorem exists_unordered_index (ahead : operators.Pairwise OperatorAssignment.Ahead)
    (some_unordered : ∃ a ∈ operators, a.ordered = false) :
    ∃ a, (a, (operators.filter OperatorAssignment.ordered).length) ∈ operators.zipIdx ∧
      a.ordered = false := by
  obtain ⟨b, member, unordered⟩ := some_unordered
  have back : b ∈ operators.filter fun a => !a.ordered :=
    List.mem_filter.mpr ⟨member, by rw [unordered]; rfl⟩
  obtain ⟨a, rest, spelled⟩ := List.exists_cons_of_ne_nil (List.ne_nil_of_mem back)
  have first : a ∈ operators.filter fun a => !a.ordered := by
    rw [spelled]
    exact List.mem_cons_self
  refine ⟨a, ?_, by simpa using (List.mem_filter.mp first).2⟩
  have split := filter_ordered ahead
  generalize operators.filter OperatorAssignment.ordered = front at split ⊢
  rw [split, spelled, List.zipIdx_append, List.zipIdx_cons, Nat.zero_add]
  exact List.mem_append_right _ List.mem_cons_self

/-- The first of the sorted operators has the lowest position on the wire exactly when every
operator has an order, or its own is no higher than the first position that is filled in. -/
theorem lowest_iff {primary : OperatorAssignment} {rest : List OperatorAssignment}
    (ahead : (primary :: rest).Pairwise OperatorAssignment.Ahead) :
    (∀ entry ∈ (primary :: rest).zipIdx, (wireOperator primary 0).escalationOrder ≤
        (wireOperator entry.1 entry.2).escalationOrder) ↔
      (∀ a ∈ primary :: rest, a.ordered = true) ∨ primary.escalationOrder ≤
        ((primary :: rest).filter OperatorAssignment.ordered).length + 1 := by
  by_cases missing : primary.escalationOrder = 0
  · refine iff_of_true (fun entry member => ?_) (Or.inr (by omega))
    have unordered : entry.1.escalationOrder = 0 := by
      rcases List.mem_cons.mp (List.fst_mem_of_mem_zipIdx member) with same | later
      · rw [same]
        exact missing
      · by_contra some_order
        have first := ((List.pairwise_cons.mp ahead).1 entry.1 later (decide_eq_true some_order)).1
        exact of_decide_eq_true first missing
    unfold wireOperator
    dsimp only
    rw [if_pos missing, if_pos unordered]
    omega
  · have own : (wireOperator primary 0).escalationOrder = primary.escalationOrder := if_neg missing
    rw [own]
    constructor
    · intro lowest
      by_cases all : ∀ a ∈ primary :: rest, a.ordered = true
      · exact Or.inl all
      · refine Or.inr ?_
        simp only [not_forall, Bool.not_eq_true] at all
        obtain ⟨b, member, unordered⟩ := all
        obtain ⟨a, placed, unordered⟩ := exists_unordered_index ahead ⟨b, member, unordered⟩
        have below := lowest _ placed
        unfold wireOperator at below
        dsimp only at below
        rwa [if_pos (by simpa [OperatorAssignment.ordered] using unordered)] at below
    · intro condition entry member
      unfold wireOperator
      dsimp only
      by_cases filled : entry.1.escalationOrder = 0
      · have unordered : entry.1.ordered = false := by simp [OperatorAssignment.ordered, filled]
        rw [if_pos filled]
        rcases condition with all | short
        · rw [all entry.1 (List.fst_mem_of_mem_zipIdx member)] at unordered
          cases unordered
        · have position := unordered_index ahead member unordered
          omega
      · rw [if_neg filled]
        rcases List.mem_cons.mp (List.fst_mem_of_mem_zipIdx member) with same | later
        · rw [same]
        · exact ((List.pairwise_cons.mp ahead).1 entry.1 later (decide_eq_true filled)).2

/-! ## Everyone calls the same operator -/

/-- `key` of the operators of the wire, in any form in which their order survives. -/
theorem minOn?_wire_iff {α : Type} (key : α → Int) (read : Operator → α)
    (kept : ∀ operator, key (read operator) = operator.escalationOrder)
    {primary : OperatorAssignment} {rest : List OperatorAssignment} :
    ((wireOperators (primary :: rest)).map read).minOn? key = some (read (wireOperator primary 0)) ↔
      ∀ entry ∈ (primary :: rest).zipIdx, (wireOperator primary 0).escalationOrder ≤
        (wireOperator entry.1 entry.2).escalationOrder := by
  unfold wireOperators
  rw [List.zipIdx_cons, List.map_cons, List.map_cons, minOn?_cons_eq_head, List.forall_mem_cons,
    and_iff_right (le_refl _)]
  simp only [List.map_map, List.forall_mem_map, Function.comp_apply, kept]

/-- The AI interceptor and the bridge both select the operator that the graph tier calls. -/
structure SameFirstCall (n : OntologyNeighbourhood) (context : OntologyContext) : Prop where
  interceptor : context.inbound.primaryOperator =
    n.primaryOperator.map fun primary => (wireOperator primary 0).inbound
  bridge : Bridge.minBy Bridge.Operator.escalationOrder context.bridged.assignedOperators =
    n.primaryOperator.map fun primary => (wireOperator primary 0).bridged

theorem mapNeighbourhood_operators {n : OntologyNeighbourhood}
    (mapped : mapNeighbourhood floats (some record) = .ok n) :
    n.operators = mapOperators floats record := by
  unfold mapNeighbourhood at mapped
  dsimp only at mapped
  split at mapped
  next => cases mapped
  next => cases mapped
  next =>
    split at mapped
    next => cases mapped
    next =>
      split at mapped
      next => cases mapped
      next =>
        cases mapped
        rfl

/-- Everyone calls the same operator exactly when all of them have an order, or the lowest order
is no higher than the first position that the engine fills in. -/
theorem same_first_call_iff {n : OntologyNeighbourhood} (assetID : String)
    (mapped : mapNeighbourhood floats (some record) = .ok n) :
    SameFirstCall n (ontologyContextFrom assetID n) ↔
      (∀ a ∈ n.operators, a.escalationOrder ≠ 0) ∨ ∀ primary, n.primaryOperator = some primary →
        primary.escalationOrder ≤ (n.operators.filter OperatorAssignment.ordered).length + 1 := by
  have ahead : n.operators.Pairwise OperatorAssignment.Ahead :=
    mapNeighbourhood_operators mapped ▸ mapOperators_ahead
  have interceptor : (ontologyContextFrom assetID n).inbound.primaryOperator =
      ((wireOperators n.operators).map Operator.inbound).minOn? Worker.Operator.escalationOrder :=
    rfl
  have bridge : Bridge.minBy Bridge.Operator.escalationOrder
      (ontologyContextFrom assetID n).bridged.assignedOperators =
      ((wireOperators n.operators).map Operator.bridged).minOn? Bridge.Operator.escalationOrder :=
    minBy_eq_minOn? _
  have first : n.primaryOperator = n.operators.head? := rfl
  cases spelled : n.operators with
  | nil =>
    rw [spelled] at interceptor bridge first
    refine iff_of_true ⟨?_, ?_⟩ (Or.inl fun a member => absurd member List.not_mem_nil)
    · rw [interceptor, first]
      rfl
    · rw [bridge, first]
      rfl
  | cons primary rest =>
    rw [spelled] at interceptor bridge first ahead
    have condition := lowest_iff ahead
    have to_lowest : SameFirstCall n (ontologyContextFrom assetID n) ↔
        ∀ entry ∈ (primary :: rest).zipIdx, (wireOperator primary 0).escalationOrder ≤
          (wireOperator entry.1 entry.2).escalationOrder := by
      constructor
      · intro same
        refine (minOn?_wire_iff Worker.Operator.escalationOrder Operator.inbound fun _ => rfl).mp ?_
        rw [← interceptor, same.interceptor, first]
        rfl
      · intro lowest
        refine ⟨?_, ?_⟩
        · rw [interceptor, first]
          exact (minOn?_wire_iff Worker.Operator.escalationOrder Operator.inbound
            fun _ => rfl).mpr lowest
        · rw [bridge, first]
          exact (minOn?_wire_iff Bridge.Operator.escalationOrder Operator.bridged
            fun _ => rfl).mpr lowest
    rw [to_lowest, condition, first]
    simp only [OperatorAssignment.ordered, decide_eq_true_eq, List.head?_cons, Option.some.injEq,
      forall_eq']

end

/-- A technician by the id alone, with the order of the edge where it has one. -/
def assigned (id : String) (order : List (String × Value)) : Value :=
  .map (("node", .node id ["Operator"] [("id", .string id)]) :: order)

/-- A pump whose only ordered operator is the fifth to be called. -/
def fifthToCall : Fields :=
  [("target", bare "P-1"), ("operators",
    .list [assigned "T-1" [], assigned "T-5" [("escalation_order", .int 5)]])]

/-- The assignment that such a technician becomes. -/
def assignment (id : String) (order : Int) : OperatorAssignment where
  technicianID := id
  name := ""
  certificationLevel := ""
  elementID := id
  role := ""
  shift := ""
  contact := ""
  escalationOrder := order

theorem mapOperators_fifthToCall :
    mapOperators noFloats fifthToCall = [assignment "T-5" 5, assignment "T-1" 0] := by
  have kept : Library.firsts (fun operator : OperatorAssignment => identity operator.elementID)
      ((collectedList fifthToCall "operators").filterMap (mapOperatorEntry noFloats)) =
      [assignment "T-1" 0, assignment "T-5" 5] := by rfl
  unfold mapOperators
  rw [kept]
  simp [List.mergeSort, OperatorAssignment.before, assignment]

/-- The graph tier calls the one with an order, the consumers call the one without. -/
theorem fifthToCall_not_called : ∃ n, mapNeighbourhood noFloats (some fifthToCall) = .ok n ∧
    n.primaryOperator = some (assignment "T-5" 5) ∧
    (ontologyContextFrom "P-1" n).inbound.primaryOperator = some ⟨"T-1", "", 2⟩ ∧
    Bridge.minBy Bridge.Operator.escalationOrder
      (ontologyContextFrom "P-1" n).bridged.assignedOperators =
        some { operatorID := "T-1", name := "", escalationOrder := 2 } := by
  refine ⟨_, rfl, ?_, ?_, ?_⟩
  · exact congrArg List.head? mapOperators_fifthToCall
  · have selected := congrArg (fun operators => ((wireOperators operators).map
      Operator.inbound).minOn? Worker.Operator.escalationOrder) mapOperators_fifthToCall
    exact selected.trans rfl
  · have selected := congrArg (fun operators => Bridge.minBy Bridge.Operator.escalationOrder
      ((wireOperators operators).map Operator.bridged)) mapOperators_fifthToCall
    exact selected.trans rfl

/-- A pump whose two operators both have an order. -/
def bothOrdered : Fields :=
  [("target", bare "P-1"), ("operators",
    .list [assigned "T-9" [("escalation_order", .int 9)],
      assigned "T-5" [("escalation_order", .int 5)]])]

theorem bothOrdered_same_first_call : ∃ n, mapNeighbourhood noFloats (some bothOrdered) = .ok n ∧
    SameFirstCall n (ontologyContextFrom "P-1" n) := by
  refine ⟨_, rfl, (@same_first_call_iff noFloats bothOrdered _ "P-1" rfl).mpr (Or.inl ?_)⟩
  have both : ∀ a ∈ [assignment "T-9" 9, assignment "T-5" 5], a.escalationOrder ≠ 0 := by decide
  exact fun a member => both a (List.mem_mergeSort.mp member)

end OpenOntology.Graph
