import OpenOntology.Intercept.RoundTrip
import OpenOntology.Worker.Classification

/-!
# The reply of a provider

What the planner makes of a turn. The reply of a provider is a tool input, which may be any JSON
value: the contract `LLMPlan` decides whether it is a plan, and nothing else is asked of it. The
rules that the prompt states are kept where the reply keeps them.
-/
namespace OpenOntology.Intercept.Inbound.Reply

open Library Python
open Worker (Conversions numericConversions field required optional nullable listOf str)
open GraphRag (within)
open Bridge (text entry)

/-! ## The contract -/

/-- `extra="forbid"` -/
def forbidsExtra (names : List String) (members : Members) : Bool :=
  members.all fun member => names.any fun name => Text.ofString name == member.1

/-- A value that passes a check besides. -/
def constrained {α : Type} (check : α → Prop) [DecidablePred check] (read : PyJson → Option α)
    (value : PyJson) : Option { a : α // check a } :=
  (read value).bind fun a => if checked : check a then some ⟨a, checked⟩ else none

/-- A string with a constraint: one with a lone surrogate is refused. -/
def encoded (value : PyJson) : Option String := (str value).bind Text.toString?

/-- A member of an enumeration, by its value. -/
def memberOf {α : Type} (members : List α) (spelled : α → String) : PyJson → Option α
  | .str s => members.find? fun a => Text.ofString (spelled a) == s
  | _ => none

def actionTypes : List ActionType :=
  [.isolate, .shutdown, .throttle, .inspect, .scheduleMaintenance, .notify, .acknowledge]

def priorities : List Priority := [.critical, .high, .medium, .low]

/-- `dict[str, Any]` -/
def dict : PyJson → Option Members
  | .obj members => some members
  | _ => none

theorem deadline_bounds : 0 ≤ (900 : Int) ∧ (900 : Int) ≤ 604800 := by decide

/-- The deadline of a command that names none. -/
def defaultDeadline : { n : Int // 0 ≤ n ∧ n ≤ 604800 } := ⟨900, deadline_bounds⟩

/-- One executable instruction. -/
structure Command where
  sequence : { n : Int // 1 ≤ n }
  targetComponent : { s : String // 1 ≤ s.length }
  action : ActionType
  priority : Priority
  assignedTo : { s : String // 1 ≤ s.length }
  assignedOperatorID : Option Text
  parameters : Members
  expectedEffect : { s : String // 1 ≤ s.length }
  rollback : Option Text
  deadlineSeconds : { n : Int // 0 ≤ n ∧ n ≤ 604800 }

structure Escalation where
  required : Bool
  notify : List Text
  reason : Text
  slaSeconds : { n : Int // 0 ≤ n }

/-- `_sequences_are_contiguous` -/
def Contiguous (commands : List Command) : Prop :=
  (commands.map fun command => command.sequence.val) =
    (List.range' 1 commands.length).map Int.ofNat

instance (commands : List Command) : Decidable (Contiguous commands) :=
  inferInstanceAs (Decidable (_ = _))

structure LLMPlan where
  confidence : { x : Float // within 0 1 x = true }
  reasoningSummary : { s : String // 1 ≤ s.length ∧ s.length ≤ 2000 }
  commands : { commands : List Command // 1 ≤ commands.length ∧ Contiguous commands }
  escalation : Escalation
  evidence : List Text

def LLMPlan.actions (plan : LLMPlan) : List ActionType := plan.commands.val.map Command.action

section
variable (conversions : Conversions)

def Command.modelValidate : PyJson → Option Command
  | .obj members =>
    if forbidsExtra ["sequence", "target_component", "action", "priority", "assigned_to",
        "assigned_operator_id", "parameters", "expected_effect", "rollback",
        "deadline_seconds"] members = true then do
      let sequence ← required members "sequence" (constrained (1 ≤ ·) conversions.int)
      let targetComponent ← required members "target_component"
        (constrained (1 ≤ String.length ·) encoded)
      let action ← required members "action" (memberOf actionTypes ActionType.value)
      let priority ← required members "priority" (memberOf priorities Priority.value)
      let assignedTo ← required members "assigned_to" (constrained (1 ≤ String.length ·) encoded)
      let assignedOperatorID ← optional members "assigned_operator_id" (nullable str) none
      let parameters ← optional members "parameters" dict []
      let expectedEffect ← required members "expected_effect"
        (constrained (1 ≤ String.length ·) encoded)
      let rollback ← optional members "rollback" (nullable str) none
      let deadlineSeconds ← optional members "deadline_seconds"
        (constrained (fun n => 0 ≤ n ∧ n ≤ 604800) conversions.int) defaultDeadline
      pure { sequence, targetComponent, action, priority, assignedTo, assignedOperatorID,
             parameters, expectedEffect, rollback, deadlineSeconds }
    else none
  | _ => none

def Escalation.modelValidate : PyJson → Option Escalation
  | .obj members =>
    if forbidsExtra ["required", "notify", "reason", "sla_seconds"] members = true then do
      let must ← Worker.required members "required" conversions.bool
      let notify ← optional members "notify" (listOf str) []
      let reason ← optional members "reason" str []
      let slaSeconds ← optional members "sla_seconds" (constrained (0 ≤ ·) conversions.int) ⟨0, Int.le_refl 0⟩
      pure { required := must, notify, reason, slaSeconds }
    else none
  | _ => none

/-- `LLMPlan.model_validate`: nothing where pydantic raises a `ValidationError`. -/
def LLMPlan.modelValidate : PyJson → Option LLMPlan
  | .obj members =>
    if forbidsExtra ["confidence", "reasoning_summary", "commands", "escalation",
        "evidence"] members = true then do
      let confidence ← required members "confidence"
        (constrained (within 0 1 · = true) conversions.float)
      let reasoningSummary ← required members "reasoning_summary"
        (constrained (fun s : String => 1 ≤ s.length ∧ s.length ≤ 2000) encoded)
      let commands ← required members "commands"
        (constrained (fun commands : List Command => 1 ≤ commands.length ∧ Contiguous commands)
          (listOf (Command.modelValidate conversions)))
      let escalation ← required members "escalation" (Escalation.modelValidate conversions)
      let evidence ← optional members "evidence" (listOf str) []
      pure { confidence, reasoningSummary, commands, escalation, evidence }
    else none
  | _ => none

end

/-! ## The planner -/

/-- One turn of a provider. -/
structure ToolCall where
  toolInput : PyJson
  model : Text
  inputTokens : Int := 0
  outputTokens : Int := 0

/-- The arguments of `complete`, but for the tool, which is the same in every call. -/
structure Request where
  model : Text
  system : String
  user : String
  toolName : String
  maxTokens : Int
  effort : String

/-- How the call of a provider ends under the deadline. -/
inductive Completion where
  | timedOut
  /-- a `PlannerError`, by its message -/
  | refused (message : Text)
  /-- any other exception, by its text -/
  | failed (message : Text)
  | called (call : ToolCall)

structure TokenUsage where
  inputTokens : Int
  outputTokens : Int

structure PlanResult where
  plan : LLMPlan
  usage : TokenUsage
  model : Text

structure RemediationPlanner where
  complete : Request → Completion
  model : Text
  maxTokens : Int
  effort : String
  timeoutSeconds : Float

/-- `SYSTEM_PROMPT` -/
def systemPrompt : String :=
  "You are the OpenOntology remediation planner for industrial and aerospace digital twins.\n\n" ++
  "You receive one ontology mutation: an asset that breached a monitored threshold, the\n" ++
  "live multi-variable telemetry snapshot at the moment of the breach, and the asset's\n" ++
  "graph context (parent systems, components, accountable operators).\n\n" ++
  "Produce an executable command sequence for the maintenance and operations crew.\n\n" ++
  "Rules:\n" ++
  "- Act on named components from the ontology context. Never invent a component,\n" ++
  "  operator, or identifier that is not present in the briefing.\n" ++
  "- Order commands by execution order, starting at sequence 1.\n" ++
  "- Reserve ISOLATE and SHUTDOWN for CRITICAL severity or safety-critical assets.\n" ++
  "- Every command names an assignee drawn from the assigned operators; if none exist,\n" ++
  "  assign to the site duty desk and require escalation.\n" ++
  "- Set deadline_seconds proportional to severity: minutes for CRITICAL, hours otherwise.\n" ++
  "- State confidence honestly. Degraded context or an incomplete telemetry snapshot\n" ++
  "  must lower it.\n" ++
  "- Return the plan exclusively through the emit_command_sequence tool.\n"

/-- The `ValueError` of printing an integer. -/
def digitsError (interpreter : Interpreter) : String :=
  "Exceeds the limit (" ++ toString interpreter.maxStrDigits ++
    " digits) for integer string conversion; use sys.set_int_max_str_digits() to increase the limit"

section
variable (interpreter : Interpreter) (conversions : Conversions) (formatG repr : Float → String)
variable (violation : PyJson → Text)

def RemediationPlanner.request (planner : RemediationPlanner) (user : String) : Request where
  model := planner.model
  system := systemPrompt
  user := user
  toolName := toolName
  maxTokens := planner.maxTokens
  effort := planner.effort

/-- `plan`, or the message of its `PlannerError`; `violation` is the text of a `ValidationError`. -/
def RemediationPlanner.plan (planner : RemediationPlanner) (context : RemediationPromptContext) :
    Except Text PlanResult :=
  match context.renderUser interpreter formatG repr with
  | none => .error (Text.ofString ("planner call failed: " ++ digitsError interpreter))
  | some user =>
    match planner.complete (planner.request user) with
    | .timedOut =>
      .error (Text.ofString ("planner timed out after " ++ repr planner.timeoutSeconds ++ "s"))
    | .refused message => .error message
    | .failed message => .error (Text.ofString "planner call failed: " ++ message)
    | .called call =>
      match LLMPlan.modelValidate conversions call.toolInput with
      | none => .error (Text.ofString "planner emitted a malformed command sequence: " ++
          violation call.toolInput)
      | some plan => .ok {
          plan
          usage := { inputTokens := call.inputTokens, outputTokens := call.outputTokens }
          model := if call.model = [] then planner.model else call.model }

end

/-! ## What a plan is read from -/

theorem constrained_some {α : Type} {check : α → Prop} [DecidablePred check] {read : PyJson → Option α}
    {value : PyJson} {a : { a : α // check a }} (passed : constrained check read value = some a) :
    read value = some a.val := by
  obtain ⟨held, found, checked⟩ := Option.bind_eq_some_iff.mp passed
  split at checked
  next =>
    cases checked
    exact found
  next => cases checked

theorem memberOf_some {α : Type} {members : List α} {spelled : α → String} {value : PyJson} {a : α}
    (found : memberOf members spelled value = some a) :
    value = .str (Text.ofString (spelled a)) := by
  cases value with
  | str s =>
    have same : (Text.ofString (spelled a) == s) = true :=
      List.find?_some (p := fun a => Text.ofString (spelled a) == s) found
    rw [beq_iff_eq.mp same]
  | _ => cases found

/-- The action that a command of a tool input names. -/
def namedAction : PyJson → Option Text
  | .obj members => required members "action" str
  | _ => none

/-- The actions that the commands of a tool input name, in their order. -/
def namedActions : PyJson → Option (List Text)
  | .obj members => required members "commands" (listOf namedAction)
  | _ => none

theorem required_of_present {α : Type} {members : Members} {name : String} {read : PyJson → Option α}
    {value : PyJson} (present : field members name = some value) :
    required members name read = read value := by
  rw [required, present, Option.bind_some]

section
variable {conversions : Conversions}

theorem Command.modelValidate_action {value : PyJson} {command : Command}
    (validated : Command.modelValidate conversions value = some command) :
    namedAction value = some (Text.ofString command.action.value) := by
  cases value with
  | obj members =>
    rw [Command.modelValidate] at validated
    obtain ⟨-, fields⟩ := Option.ite_none_right_eq_some.mp validated
    simp only [Option.bind_eq_bind, Option.bind_eq_some_iff] at fields
    obtain ⟨_, -, _, -, action, named, _, -, _, -, _, -, _, -, _, -, _, -, _, -, built⟩ := fields
    cases built
    obtain ⟨held, present, found⟩ := Option.bind_eq_some_iff.mp named
    rw [memberOf_some found] at present
    exact required_of_present present
  | _ => cases validated

theorem LLMPlan.modelValidate_actions {value : PyJson} {plan : LLMPlan}
    (validated : LLMPlan.modelValidate conversions value = some plan) :
    namedActions value = some (plan.actions.map fun action => Text.ofString action.value) := by
  cases value with
  | obj members =>
    rw [LLMPlan.modelValidate] at validated
    obtain ⟨-, fields⟩ := Option.ite_none_right_eq_some.mp validated
    simp only [Option.bind_eq_bind, Option.bind_eq_some_iff] at fields
    obtain ⟨_, -, _, -, commands, listed, _, -, _, -, built⟩ := fields
    cases built
    obtain ⟨held, present, found⟩ := Option.bind_eq_some_iff.mp listed
    have read := constrained_some found
    refine (required_of_present present).trans ?_
    cases held with
    | arr items =>
      have each := mapM_some_iff.mp read
      have named : List.Forall₂ (fun item action => namedAction item = some action) items
          (commands.val.map fun command => Text.ofString command.action.value) := by
        rw [List.forall₂_map_right_iff]
        exact each.imp fun _ _ => Command.modelValidate_action
      rw [LLMPlan.actions, List.map_map]
      exact mapM_some_iff.mpr named
    | _ => cases read
  | _ => cases validated

end

/-! ## The rules of the prompt -/

/-- ISOLATE and SHUTDOWN are in place: the severity is critical, or the asset is. -/
def Reserved (context : RemediationPromptContext) : Prop :=
  context.payload.severity = .critical ∨
    context.payload.ontologyContext.criticality = "SAFETY_CRITICAL"

instance (context : RemediationPromptContext) : Decidable (Reserved context) :=
  inferInstanceAs (Decidable (_ ∨ _))

theorem value_injective : Function.Injective ActionType.value := by
  intro a b
  cases a <;> cases b <;> decide

theorem spelled_inj {a b : ActionType} :
    Text.ofString a.value = Text.ofString b.value ↔ a = b :=
  (Text.ofString_injective.comp value_injective).eq_iff

section
variable {interpreter : Interpreter} {conversions : Conversions} {formatG repr : Float → String}
variable {violation : PyJson → Text} {planner : RemediationPlanner}
variable {context : RemediationPromptContext} {result : PlanResult}

/-- A result is the validated tool input of one call; the context is in the request only. -/
theorem plan_ok_iff :
    planner.plan interpreter conversions formatG repr violation context = .ok result ↔
      ∃ user call, context.renderUser interpreter formatG repr = some user ∧
        planner.complete (planner.request user) = .called call ∧
        LLMPlan.modelValidate conversions call.toolInput = some result.plan ∧
        result.usage = { inputTokens := call.inputTokens, outputTokens := call.outputTokens } ∧
        result.model = if call.model = [] then planner.model else call.model := by
  unfold RemediationPlanner.plan
  cases context.renderUser interpreter formatG repr with
  | none => simp
  | some user =>
    dsimp only
    cases called : planner.complete (planner.request user) with
    | called call =>
      cases validated : LLMPlan.modelValidate conversions call.toolInput with
      | none => simp [called, validated]
      | some plan =>
        obtain ⟨held, usage, model⟩ := result
        simp only [Except.ok.injEq, PlanResult.mk.injEq, Option.some.injEq, Completion.called.injEq,
          exists_and_left, exists_eq_left', validated, called]
        rw [eq_comm (b := usage), eq_comm (b := model)]
    | timedOut => simp [called]
    | refused message => simp [called]
    | failed message => simp [called]

/-- Whatever the context is, a result holds the plan that the reply is: numbered from one, with the
actions that its commands name. Each rule of the prompt is kept where the reply keeps it, and the
same reply gives the same result under any other context. -/
theorem plan_follows_reply
    (planned : planner.plan interpreter conversions formatG repr violation context = .ok result) :
    ∃ user call named, context.renderUser interpreter formatG repr = some user ∧
      planner.complete (planner.request user) = .called call ∧
      LLMPlan.modelValidate conversions call.toolInput = some result.plan ∧
      namedActions call.toolInput = some named ∧
      named = (result.plan.actions.map fun action => Text.ofString action.value) ∧
      1 ≤ result.plan.commands.val.length ∧ Contiguous result.plan.commands.val ∧
      (result.plan.actions.length ≤ context.maxCommands ↔ named.length ≤ context.maxCommands) ∧
      ((∀ action ∈ result.plan.actions, action ∈ context.allowedActions) ↔
        ∀ s ∈ named, ∃ action ∈ context.allowedActions, s = Text.ofString action.value) ∧
      ((.isolate ∈ result.plan.actions ∨ .shutdown ∈ result.plan.actions → Reserved context) ↔
        (Text.ofString "ISOLATE" ∈ named ∨ Text.ofString "SHUTDOWN" ∈ named → Reserved context)) ∧
      ∀ (other : RemediationPromptContext) (turn : String),
        other.renderUser interpreter formatG repr = some turn →
        planner.complete (planner.request turn) = .called call →
        planner.plan interpreter conversions formatG repr violation other = .ok result := by
  obtain ⟨user, call, rendered, called, validated, usage, model⟩ := plan_ok_iff.mp planned
  have inside (action : ActionType) : Text.ofString action.value ∈
      (result.plan.actions.map fun action => Text.ofString action.value) ↔
        action ∈ result.plan.actions := by
    simp only [List.mem_map, spelled_inj, exists_eq_right]
  refine ⟨user, call, _, rendered, called, validated, LLMPlan.modelValidate_actions validated, rfl,
    result.plan.commands.property.1, result.plan.commands.property.2, ?_, ?_, ?_, ?_⟩
  · rw [List.length_map]
  · simp only [List.forall_mem_map, spelled_inj, exists_eq_right']
  · exact imp_congr_left (or_congr (inside .isolate).symm (inside .shutdown).symm)
  · intro other turn turned again
    exact plan_ok_iff.mpr ⟨turn, call, turned, again, validated, usage, model⟩

end

/-! ## Two replies -/

/-- One command of a reply. -/
def instruction (sequence : Int) (action : ActionType) : PyJson :=
  .obj [
    entry "sequence" (.int sequence),
    entry "target_component" (text "impeller"),
    entry "action" (text action.value),
    entry "priority" (text "HIGH"),
    entry "assigned_to" (text "Site duty desk"),
    entry "assigned_operator_id" .null,
    entry "parameters" (.obj []),
    entry "expected_effect" (text "The pump is taken off the line."),
    entry "rollback" .null,
    entry "deadline_seconds" (.int 900)]

def replyOf (commands : List PyJson) : PyJson :=
  .obj [
    entry "confidence" (.float 0.5),
    entry "reasoning_summary" (text "The vibration is over its limit."),
    entry "commands" (.arr commands),
    entry "escalation" (.obj [
      entry "required" (.bool false),
      entry "notify" (.arr []),
      entry "reason" (text ""),
      entry "sla_seconds" (.int 0)]),
    entry "evidence" (.arr [])]

/-- A planner whose provider gives this reply in every turn. -/
def answering (reply : PyJson) : RemediationPlanner where
  complete _ := .called { toolInput := reply, model := [] }
  model := Text.ofString "planner-1"
  maxTokens := 4096
  effort := "high"
  timeoutSeconds := 30

/-- The breach of the pump, under one command that inspects. -/
def inspectOnce : RemediationPromptContext :=
  { pump "Feed pump" with
    maxCommands := 1
    allowedActions := [.inspect]
    commands := ⟨Nat.le_refl 1, by decide⟩ }

theorem inspectOnce_ints :
    (inspectOnce.document pumpFormat).atoms.filterMap int? = [0, 1] := by
  have chain : inspectOnce.payload.ontologyContext.escalationChain = [] := List.mergeSort_nil
  have parents : inspectOnce.payload.ontologyContext.sortedParents = [] := List.mergeSort_nil
  unfold RemediationPromptContext.document assetDocument
  dsimp only
  rw [chain, parents]
  rfl

theorem inspectOnce_rendered : ∃ user,
    inspectOnce.renderUser ⟨1000, 1000, 4300⟩ pumpFormat pumpRepr = some user :=
  (renderUser_iff _).mpr (prints_of_ints inspectOnce_ints
    (List.forall_mem_cons.mpr ⟨prints_digit (by decide) (by decide),
      List.forall_mem_singleton.mpr (prints_digit (by decide) (by decide))⟩))

theorem inspectOnce_planned {reply : PyJson} {plan : LLMPlan}
    (validated : LLMPlan.modelValidate numericConversions reply = some plan) :
    (answering reply).plan ⟨1000, 1000, 4300⟩ numericConversions pumpFormat pumpRepr (fun _ => [])
      inspectOnce = .ok ⟨plan, ⟨0, 0⟩, Text.ofString "planner-1"⟩ := by
  obtain ⟨user, rendered⟩ := inspectOnce_rendered
  exact plan_ok_iff.mpr ⟨user, _, rendered, rfl, validated, rfl, rfl⟩

theorem actions_of_map {reply : PyJson} {actions : List ActionType}
    (read : (LLMPlan.modelValidate numericConversions reply).map LLMPlan.actions = some actions) :
    ∃ plan, LLMPlan.modelValidate numericConversions reply = some plan ∧ plan.actions = actions :=
  Option.map_eq_some_iff.mp read

/-- One inspection is all that the rules leave. -/
theorem inspection_follows_reply : ∃ result named,
    (answering (replyOf [instruction 1 .inspect])).plan ⟨1000, 1000, 4300⟩ numericConversions
      pumpFormat pumpRepr (fun _ => []) inspectOnce = .ok result ∧
    namedActions (replyOf [instruction 1 .inspect]) = some named ∧
    named = (result.plan.actions.map fun action => Text.ofString action.value) ∧
    (result.plan.actions.length ≤ inspectOnce.maxCommands ↔
      named.length ≤ inspectOnce.maxCommands) := by
  have read : (LLMPlan.modelValidate numericConversions (replyOf [instruction 1 .inspect])).map
      LLMPlan.actions = some [.inspect] := rfl
  obtain ⟨plan, validated, -⟩ := actions_of_map read
  obtain ⟨user, call, named, -, called, -, spelled, same, -, -, few, -⟩ :=
    plan_follows_reply (inspectOnce_planned validated)
  cases called
  exact ⟨_, named, inspectOnce_planned validated, spelled, same, few⟩

/-- The pump is isolated twice, where one inspection is all that the rules leave. -/
theorem isolatedTwice_planned : ∃ result,
    (answering (replyOf [instruction 1 .isolate, instruction 2 .isolate])).plan ⟨1000, 1000, 4300⟩
      numericConversions pumpFormat pumpRepr (fun _ => []) inspectOnce = .ok result ∧
    inspectOnce.maxCommands < result.plan.commands.val.length ∧
    .isolate ∈ result.plan.actions ∧ .isolate ∉ inspectOnce.allowedActions ∧
    ¬Reserved inspectOnce := by
  have read : (LLMPlan.modelValidate numericConversions
      (replyOf [instruction 1 .isolate, instruction 2 .isolate])).map LLMPlan.actions =
      some [.isolate, .isolate] := rfl
  obtain ⟨plan, validated, actions⟩ := actions_of_map read
  have count : plan.commands.val.length = 2 := by
    rw [← List.length_map Command.action, ← LLMPlan.actions, actions]
    rfl
  refine ⟨_, inspectOnce_planned validated, ?_, ?_, by decide, by decide⟩
  · rw [count]
    exact Nat.lt_succ_self 1
  · rw [actions]
    exact List.mem_cons_self

end OpenOntology.Intercept.Inbound.Reply
