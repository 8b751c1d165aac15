import OpenOntology.Intercept.Inbound
import OpenOntology.Intercept.Response
import OpenOntology.Python.Dumps

/-!
# What the offline planner answers

`_derive_plan` fills its templates with the names of the payload, none of which has to be there.
Its answer meets the contract of a plan exactly when the names it needs are not empty and the
summary it writes is short enough.
-/
namespace OpenOntology.Intercept.Inbound

open Python
open Worker (orElse)

/-- `_derive_plan` of a briefing, or nothing where it raises: the breach count is the only integer
that it prints. -/
def derivedAnswer (interpreter : Interpreter) (formatG : Float → String) (unicode : Unicode)
    (briefing : Briefing) : Option ToolInput :=
  if interpreter.prints briefing.anomaly.breachCount = true then
    some (derivePlan formatG unicode briefing)
  else none

/-! ## The names a plan needs -/

section
variable (formatG : Float → String) (unicode : Unicode) (context : RemediationPromptContext)

def RemediationPromptContext.label : String :=
  orElse context.payload.ontologyContext.assetName
    (orElse context.payload.ontologyContext.assetID context.payload.assetID)

/-- The actions that a briefing asks for, in order. -/
def RemediationPromptContext.sought : List ActionType :=
  if context.payload.transition = .cleared then [.acknowledge, .scheduleMaintenance]
  else if context.payload.severity = .critical then
    [.isolate] ++
      (if context.payload.ontologyContext.criticality = "SAFETY_CRITICAL" then [.shutdown] else []) ++
      [.inspect, .notify]
  else [.throttle, .inspect, .scheduleMaintenance]

/-- Those of them that are allowed, as many as there is room for. -/
def RemediationPromptContext.grantedActions : List ActionType :=
  (context.sought.filter fun action => action ∈ context.allowedActions).take context.maxCommands

/-- Some component is selected: one with a keyword of the sensor, the first, or the asset. -/
def TargetNamed : Prop :=
  match context.payload.ontologyContext.components with
  | [] => context.label ≠ ""
  | first :: rest => first ≠ "" ∨
    ∃ keyword ∈ (componentAffinity.lookup context.payload.rule.sensorID).getD [],
      ∃ component ∈ first :: rest, mentions unicode keyword component = true

def ParentNamed : Prop :=
  match context.payload.ontologyContext.sortedParents with
  | [] => context.label ≠ ""
  | parent :: _ => parent.name ≠ ""

def PrimaryNamed : Prop :=
  ∀ operator, context.payload.ontologyContext.escalationChain[0]? = some operator →
    operator.name ≠ ""

def SecondNamed : Prop :=
  ∀ operator, context.payload.ontologyContext.escalationChain[1]? = some operator →
    operator.name ≠ ""

/-- The characters of the summary: the names and numbers in it, and the words between them. -/
def summaryLength : Nat :=
  let payload := context.payload
  let ontology := payload.ontologyContext
  let sensor := payload.rule.sensorID
  payload.severity.value.length + payload.transition.value.length + context.label.length +
    ((sensorLabels.lookup sensor).getD sensor).length +
    (formatG payload.rule.observedValue).length + (spaced payload.rule.unit).length +
    (formatG payload.rule.threshold).length +
    (selectComponent unicode sensor ontology.components context.label).length +
    ((ontology.sortedParents.head?.map fun parent => parent.name).getD context.label).length +
    ((ontology.escalationChain.head?.map fun operator => operator.name).getD
      "Site duty desk").length +
    if payload.transition ≠ .cleared ∧ payload.severity = .critical then 114 else 110

/-- Component and assignee of an action are named. -/
def NamedFor (action : ActionType) : Prop :=
  match action with
  | .shutdown => ParentNamed context ∧ PrimaryNamed context
  | .notify => context.label ≠ "" ∧ SecondNamed context
  | _ => TargetNamed unicode context ∧ PrimaryNamed context

/-- The payload and the limits leave a plan to be derived. -/
structure Answerable (interpreter : Interpreter) : Prop where
  printed : interpreter.prints context.payload.breachCount = true
  named : ∀ action ∈ context.grantedActions, NamedFor unicode context action
  fallback : context.grantedActions = [] → TargetNamed unicode context ∧ PrimaryNamed context
  short : summaryLength formatG unicode context ≤ 2000

end

section
variable {formatG : Float → String} {unicode : Unicode} {context : RemediationPromptContext}

theorem not_mentions_empty {keyword : String} (some_keyword : keyword ≠ "") :
    mentions unicode keyword "" = false := by
  have lowered : unicode.lower (Text.ofString "") = [] :=
    unicode.lower_ascii "" fun c member => absurd member List.not_mem_nil
  have letters : Text.ofString keyword ≠ [] := by
    intro none_left
    exact some_keyword (Text.ofString_injective none_left)
  obtain ⟨first, rest, spelled⟩ := List.exists_cons_of_ne_nil letters
  rw [mentions, lowered, spelled]
  rfl

theorem keyword_ne_empty {sensorID keyword : String}
    (listed : keyword ∈ (componentAffinity.lookup sensorID).getD []) : keyword ≠ "" := by
  have words : ∀ entry ∈ componentAffinity, ∀ word ∈ entry.2, word ≠ "" := by decide
  cases found : componentAffinity.lookup sensorID with
  | none =>
    rw [found] at listed
    cases listed
  | some keywords =>
    rw [found] at listed
    obtain ⟨before, after, spelled, -⟩ := List.lookup_eq_some_iff.mp found
    have listed_entry : (sensorID, keywords) ∈ componentAffinity := by
      rw [spelled]
      exact List.mem_append_right before List.mem_cons_self
    exact words _ listed_entry keyword listed

theorem target_ne_empty : target unicode context.briefing ≠ "" ↔ TargetNamed unicode context := by
  have spelled : target unicode context.briefing = selectComponent unicode
      context.payload.rule.sensorID context.payload.ontologyContext.components context.label := rfl
  rw [spelled]
  unfold TargetNamed selectComponent
  cases context.payload.ontologyContext.components with
  | nil =>
    have none_found : ∀ keywords : List String, (keywords.findSome? fun keyword =>
        ([] : List String).find? (mentions unicode keyword)) = none := fun keywords =>
      List.findSome?_eq_none_iff.mpr fun _ _ => rfl
    rw [none_found]
    exact Iff.rfl
  | cons first rest =>
    cases found : ((componentAffinity.lookup context.payload.rule.sensorID).getD []).findSome?
        fun keyword => (first :: rest).find? (mentions unicode keyword) with
    | some component =>
      obtain ⟨keyword, listed, taken⟩ := List.exists_of_findSome?_eq_some found
      have mentioned := List.find?_some taken
      have named : component ≠ "" := by
        rintro rfl
        rw [not_mentions_empty (keyword_ne_empty listed)] at mentioned
        cases mentioned
      exact iff_of_true named
        (Or.inr ⟨keyword, listed, component, List.mem_of_find?_eq_some taken, mentioned⟩)
    | none =>
      have unmentioned : ¬∃ keyword ∈ (componentAffinity.lookup context.payload.rule.sensorID).getD [],
          ∃ component ∈ first :: rest, mentions unicode keyword component = true := by
        rintro ⟨keyword, listed, component, member, mentioned⟩
        have passed := List.findSome?_eq_none_iff.mp found keyword listed
        exact List.find?_eq_none.mp passed component member mentioned
      exact (or_iff_left unmentioned).symm

theorem parentName_briefing : parentName context.briefing =
    (context.payload.ontologyContext.sortedParents.head?.map fun parent => parent.name).getD
      context.label := by
  have spelled : parentName context.briefing =
      ((context.payload.ontologyContext.sortedParents.map SystemNode.toSystemNode).head?.map
        Worker.SystemNode.name).getD context.label := rfl
  rw [spelled, List.head?_map, Option.map_map]
  rfl

theorem primaryName_briefing : primaryName context.briefing =
    (context.payload.ontologyContext.escalationChain.head?.map fun operator =>
      operator.name).getD "Site duty desk" := by
  have spelled : primaryName context.briefing =
      ((context.payload.ontologyContext.escalationChain.map Operator.toOperator).head?.map
        Worker.Operator.name).getD "Site duty desk" := rfl
  rw [spelled, List.head?_map, Option.map_map]
  rfl

theorem parentName_ne_empty : parentName context.briefing ≠ "" ↔ ParentNamed context := by
  rw [parentName_briefing]
  unfold ParentNamed
  cases context.payload.ontologyContext.sortedParents <;> exact Iff.rfl

theorem primaryName_ne_empty : primaryName context.briefing ≠ "" ↔ PrimaryNamed context := by
  rw [primaryName_briefing]
  unfold PrimaryNamed
  cases context.payload.ontologyContext.escalationChain with
  | nil => simp
  | cons operator rest => simp

theorem notifiedName_ne_empty : notifiedName context.briefing ≠ "" ↔ SecondNamed context := by
  have spelled : (context.briefing).operators =
      context.payload.ontologyContext.escalationChain.map Operator.toOperator := rfl
  unfold notifiedName notified SecondNamed
  rw [spelled]
  cases context.payload.ontologyContext.escalationChain with
  | nil => simp
  | cons operator rest =>
    cases rest with
    | nil => simp
    | cons second others => simp

/-! ## The commands against the actions -/

theorem offers_actions : (offers formatG unicode context.briefing).map Command.action =
    context.sought := by
  unfold offers criticalOffers safetyCritical RemediationPromptContext.sought
  have transition : context.briefing.anomaly.transition = context.payload.transition := rfl
  have severity : context.briefing.anomaly.severity = context.payload.severity := rfl
  have criticality : context.briefing.asset.criticality =
      context.payload.ontologyContext.criticality := rfl
  rw [transition, severity, criticality]
  split
  · rfl
  · split
    · by_cases safety : context.payload.ontologyContext.criticality = "SAFETY_CRITICAL"
      · rw [if_pos (beq_iff_eq.mpr safety), if_pos safety]
        rfl
      · rw [if_neg (fun same => safety (beq_iff_eq.mp same)), if_neg safety]
        rfl
    · rfl

theorem offers_named_iff : ∀ command ∈ offers formatG unicode context.briefing,
    command.named ↔ NamedFor unicode context command.action := by
  have labelled : assetLabel context.briefing = context.label := rfl
  unfold offers criticalOffers Command.named NamedFor
  repeat' split
  all_goals simp [clearedOffers, isolateOffer, shutdownOffer, inspectOffer, notifyOffer, breachOffers,
    offer, target_ne_empty, parentName_ne_empty, primaryName_ne_empty, notifiedName_ne_empty,
    labelled]

theorem granted_actions : (granted formatG unicode context.briefing).map Command.action =
    context.grantedActions := by
  have sought : (offers formatG unicode context.briefing).map Command.action = context.sought :=
    offers_actions
  unfold granted RemediationPromptContext.grantedActions
  rw [← sought, List.map_take, List.filter_map]
  rfl

/-- Each command that is granted names whom its action needs. -/
theorem granted_named_iff : (∀ command ∈ granted formatG unicode context.briefing, command.named) ↔
    ∀ action ∈ context.grantedActions, NamedFor unicode context action := by
  have actions : (granted formatG unicode context.briefing).map Command.action =
      context.grantedActions := granted_actions
  rw [← actions, List.forall_mem_map]
  constructor
  · exact fun named command member =>
      (offers_named_iff command (mem_granted member)).mp (named command member)
  · exact fun named command member =>
      (offers_named_iff command (mem_granted member)).mpr (named command member)

theorem granted_eq_nil_iff : granted formatG unicode context.briefing = [] ↔
    context.grantedActions = [] := by
  have actions : (granted formatG unicode context.briefing).map Command.action =
      context.grantedActions := granted_actions
  rw [← actions, List.map_eq_nil_iff]

theorem fallback_named_iff : (fallbackCommand unicode context.briefing).named ↔
    TargetNamed unicode context ∧ PrimaryNamed context := by
  rw [← target_ne_empty, ← primaryName_ne_empty]
  exact Iff.rfl

theorem ending_length (context : RemediationPromptContext) : (if context.briefing.escalates = true then
      "escalates to the accountable engineer" else "keeps the asset under observation").length + 77 =
    if context.payload.transition ≠ .cleared ∧ context.payload.severity = .critical then 114
    else 110 := by
  have escalates : context.briefing.escalates = true ↔
      context.payload.transition ≠ .cleared ∧ context.payload.severity = .critical := by
    simp only [Briefing.escalates, Bool.and_eq_true, bne_iff_ne, beq_iff_eq]
    exact Iff.rfl
  by_cases urgent : context.payload.transition ≠ .cleared ∧ context.payload.severity = .critical
  · rw [if_pos urgent, if_pos (escalates.mpr urgent)]
    rfl
  · rw [if_neg urgent, if_neg (fun said => urgent (escalates.mp said))]
    rfl

theorem reasoningSummary_summaryLength :
    (reasoningSummary formatG unicode context.briefing).length =
      summaryLength formatG unicode context := by
  have ending := ending_length context
  unfold summaryLength
  dsimp only
  rw [← ending, ← parentName_briefing, ← primaryName_briefing]
  unfold reasoningSummary magnitude
  simp only [String.length_append]
  have words : " ".length = 1 ∧ " on ".length = 4 ∧ ": ".length = 2 ∧ " reached ".length = 9 ∧
      " against a ".length = 11 ∧ " limit".length = 6 ∧ ". The plan acts on ".length = 19 ∧
      " within ".length = 8 ∧ ", assigns ".length = 10 ∧ ", and ".length = 6 ∧ ".".length = 1 := by
    decide
  obtain ⟨w1, w2, w3, w4, w5, w6, w7, w8, w9, w10, w11⟩ := words
  rw [w1, w2, w3, w4, w5, w6, w7, w8, w9, w10, w11]
  have label : (assetLabel context.briefing).length = context.label.length := rfl
  have sensor : (sensorLabel context.briefing).length =
      ((sensorLabels.lookup context.payload.rule.sensorID).getD
        context.payload.rule.sensorID).length := rfl
  have selected : (target unicode context.briefing).length =
      (selectComponent unicode context.payload.rule.sensorID
        context.payload.ontologyContext.components context.label).length := rfl
  have anomaly : context.briefing.anomaly.severity = context.payload.severity ∧
      context.briefing.anomaly.transition = context.payload.transition ∧
      context.briefing.anomaly.observedValue = context.payload.rule.observedValue ∧
      context.briefing.anomaly.threshold = context.payload.rule.threshold ∧
      context.briefing.anomaly.unit = context.payload.rule.unit := ⟨rfl, rfl, rfl, rfl, rfl⟩
  obtain ⟨a1, a2, a3, a4, a5⟩ := anomaly
  rw [label, sensor, selected, a1, a2, a3, a4, a5]
  omega

/-- The offline planner answers a payload with a plan exactly when the payload is answerable. -/
theorem derivedAnswer_valid_iff (interpreter : Interpreter) :
    (∃ answer, derivedAnswer interpreter formatG unicode context.briefing = some answer ∧
        ∃ plan, LLMPlan.modelValidate answer = some plan) ↔
      Answerable formatG unicode context interpreter := by
  have met := @modelValidate_derivePlan_granted formatG unicode context.briefing
  rw [granted_named_iff, granted_eq_nil_iff, fallback_named_iff,
    reasoningSummary_summaryLength] at met
  have count : context.briefing.anomaly.breachCount = context.payload.breachCount := rfl
  unfold derivedAnswer
  rw [count]
  constructor
  · rintro ⟨answer, derived, validated⟩
    split at derived
    next printed =>
      cases derived
      obtain ⟨⟨named, fallback⟩, short⟩ := met.mp validated
      exact ⟨printed, named, fallback, short⟩
    next => cases derived
  · rintro ⟨printed, named, fallback, short⟩
    exact ⟨_, if_pos printed, met.mpr ⟨⟨named, fallback⟩, short⟩⟩

end

def morning : Datetime := ⟨2027, 3, 1, 9, 0, 0, 0, some 0⟩

/-- A breach on a pump whose operator has an id only. -/
def unnamedOperator : RemediationPromptContext where
  payload := {
    eventID := "evt-1"
    assetID := "PUMP-7"
    transition := .raised
    severity := .high
    rule := { ruleID := "rule-1", sensorID := "vibration_index", threshold := 7, observedValue := 9 }
    telemetrySnapshot := { readings := [], complete := true, capturedAt := morning }
    ontologyContext := {
      assetID := "PUMP-7"
      assignedOperators := [{ operatorID := "OP-1", name := "", escalationOrder := 1, role := "Lead" }] } }
  tenant := Text.ofString "plant-7"
  tier := Text.ofString "enterprise"
  commands := maxCommands_default

/-- The plan assigns its commands to nobody, so it is refused. -/
theorem unnamedOperator_refused : ∃ answer,
    derivedAnswer ⟨1000, 1000, 4300⟩ (fun _ => "9") asciiUnicode unnamedOperator.briefing =
      some answer ∧ LLMPlan.modelValidate answer = none := by
  refine ⟨_, rfl, Option.eq_none_iff_forall_ne_some.mpr fun plan validated => ?_⟩
  have met := (modelValidate_derivePlan_granted.mp ⟨plan, validated⟩).1.1
  have throttles : ActionType.throttle ∈ unnamedOperator.grantedActions := by decide
  have assignee := (granted_named_iff.mp met .throttle throttles).2
  have chain : unnamedOperator.payload.ontologyContext.escalationChain =
      unnamedOperator.payload.ontologyContext.assignedOperators := List.mergeSort_singleton _
  exact assignee _ (by rw [chain]; rfl) rfl

end OpenOntology.Intercept.Inbound
