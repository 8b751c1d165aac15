import OpenOntology.Worker.Translate
import OpenOntology.GraphRag.Guardrails

/-!
# The bridge's plans

`action_to_plan` renders a GraphRAG response as the command-sequence document the worker
parses: the irreversible steps carry the response's action, the reversible ones are named
after who performs them.
-/
namespace OpenOntology.Bridge

open Python Library
open GraphRag (CommandActionResponse IsolationStep StepActor)
open Worker (Conversions PlannedFields PlannedAction Escalation ActionPlanFields ActionPlan field)

/-! ## Rendering -/

/-- `_ACTION_TO_WORKER`. -/
def actionToWorker : GraphRag.ActionType → String
  | .isolateValve => "ISOLATE"
  | .emergencyShutdown => "SHUTDOWN"
  | .degradeThrottle => "SHIFT_SPEED"

/-- `_ACTOR_LABEL`. -/
def actorLabel : StepActor → String
  | .humanTechnician => "Field technician"
  | .humanSupervisor => "Shift supervisor"
  | .roboticActuator => "Robotic actuator"
  | .controlSystem => "Control system"

/-- `_REVERSIBLE_STEP_ACTION`. -/
def reversibleStepAction : StepActor → String
  | .controlSystem | .roboticActuator => "SHIFT_SPEED"
  | .humanSupervisor => "NOTIFY"
  | .humanTechnician => "INSPECT"

def faultValue : GraphRag.FaultClassification → String
  | .localizedComponent => "LOCALIZED_COMPONENT"
  | .inheritedCascade => "INHERITED_CASCADE"
  | .indeterminate => "INDETERMINATE"
  | .noFaultDetected => "NO_FAULT_DETECTED"

def text (s : String) : PyJson := .str (Text.ofString s)

def entry (name : String) (value : PyJson) : Text × PyJson := (Text.ofString name, value)

/-- An irreversible step is the commanded action; a reversible one is the preparation,
notification or verification around it. -/
def stepAction (action : CommandActionResponse) (step : IsolationStep) : String :=
  if step.reversible then reversibleStepAction step.actor else actionToWorker action.actionType

def stepRollback (step : IsolationStep) : String :=
  if step.reversible then "Reversible. Confirm by: " ++ step.verification
  else "Not reversible without a maintenance intervention; confirm before proceeding by: " ++
    step.verification

def stepParameters (step : IsolationStep) : Members :=
  [entry "actor" (text step.actor.value), entry "reversible" (.bool step.reversible),
    entry "manual_reference" ((step.manualReference.map text).getD .null)]

def stepCommand (action : CommandActionResponse) (step : IsolationStep) : PyJson :=
  .obj [
    entry "sequence" (.int step.sequence),
    entry "target_component" (text step.targetComponent),
    entry "action" (text (stepAction action step)),
    entry "priority" (text action.executionPriority.value),
    entry "assigned_to" (text (actorLabel step.actor)),
    entry "expected_effect" (text step.instruction),
    entry "rollback" (text (stepRollback step)),
    entry "deadline_seconds" (.int step.estimatedSeconds),
    entry "parameters" (.obj (stepParameters step))]

/-- The single command of a response without steps. -/
def soleCommand (action : CommandActionResponse) : PyJson :=
  .obj [
    entry "sequence" (.int 1),
    entry "target_component" (text action.targetAssetID),
    entry "action" (text (actionToWorker action.actionType)),
    entry "priority" (text action.executionPriority.value),
    entry "assigned_to" (text "Shift supervisor"),
    entry "expected_effect" (text action.rationale),
    entry "rollback" (text (if action.reversible then "Reversible." else "Not reversible.")),
    entry "deadline_seconds" (.int 900),
    entry "parameters" (.obj [])]

def planCommands (action : CommandActionResponse) : List PyJson :=
  if action.isolationSteps = [] then [soleCommand action]
  else action.isolationSteps.map (stepCommand action)

def planEscalation (action : CommandActionResponse) : PyJson :=
  .obj [
    entry "required" (.bool action.requiresHumanAuthorization),
    entry "notify" (.arr []),
    entry "reason" (text (if action.reversible then "Human authorization required by tier policy"
      else "Irreversible action against a live asset")),
    entry "sla_seconds" (.int (if action.requiresHumanAuthorization then 900 else 0))]

def planEvidence (action : CommandActionResponse) : List PyJson :=
  (action.evidence ++ action.guardrailsApplied.map ("guardrail: " ++ ·)).map text

/-- `action_to_plan`. -/
def actionToPlan (action : CommandActionResponse) (model : String) : PyJson :=
  .obj [
    entry "plan_id" (text action.commandID),
    entry "event_id" (text action.eventID),
    entry "asset_id" (text action.sourceAssetID),
    entry "tenant" (text action.tenant),
    entry "model" (text model),
    entry "confidence" (.float action.confidence),
    entry "reasoning_summary" (text action.rationale),
    entry "commands" (.arr (planCommands action)),
    entry "escalation" (planEscalation action),
    entry "evidence" (.arr (planEvidence action)),
    entry "fault_classification" (text (faultValue action.faultClassification)),
    entry "cascade_path" (.arr (action.cascadePath.map text)),
    entry "blast_radius" (.arr (action.blastRadius.map text)),
    entry "crdt_presence" (text action.crdtAssessment.presence.value)]

/-! ## What the worker reads -/

@[simp] theorem field_entry (name key : String) (value : PyJson) (rest : Members) :
    field (entry key value :: rest) name = if name = key then some value else field rest name := by
  unfold field entry Members.get
  rw [List.lookup_cons]
  by_cases same : name = key
  · simp [same]
  · have apart : (Text.ofString name == Text.ofString key) = false := by simpa using same
    simp [same, apart]

@[simp] theorem field_nil (name : String) : field [] name = none := rfl

@[simp] theorem str_text (s : String) : Worker.str (text s) = some (Text.ofString s) := rfl

@[simp] theorem stripped_text (s : String) : Worker.stripped 0 (text s) = some (stripWhitespace s) := by
  simp [Worker.stripped, Worker.strippedStr]

/-- The words of the two vocabularies have nothing to strip. -/
theorem stripped_word {word : String} (visible : ∀ c ∈ word.toList, 33 ≤ c.toNat ∧ c.toNat < 127)
    (some_word : 1 ≤ word.length) : Worker.stripped 1 (text word) = some word := by
  have kept : stripWhitespace word = word := trimSpace_eq_self word fun c inside =>
    (Bool.or_eq_false_iff.mp (Python.isSpace_of_visible (visible c inside))).1
  simpa [Worker.stripped, Worker.strippedStr, kept] using some_word

theorem stripped_reversible (actor : StepActor) :
    Worker.stripped 1 (text (reversibleStepAction actor)) = some (reversibleStepAction actor) := by
  apply stripped_word
  · cases actor <;> simp [reversibleStepAction]
  · cases actor <;> decide

theorem stripped_action (a : GraphRag.ActionType) :
    Worker.stripped 1 (text (actionToWorker a)) = some (actionToWorker a) := by
  apply stripped_word
  · cases a <;> simp [actionToWorker]
  · cases a <;> decide

theorem stripped_stepAction (action : CommandActionResponse) (step : IsolationStep) :
    Worker.stripped 1 (text (stepAction action step)) = some (stepAction action step) := by
  unfold stepAction
  split
  · exact stripped_reversible step.actor
  · exact stripped_action action.actionType

theorem stripped_priority (priority : GraphRag.ExecutionPriority) :
    Worker.stripped 1 (text priority.value) = some priority.value := by
  apply stripped_word
  · cases priority <;> simp [GraphRag.ExecutionPriority.value]
  · cases priority <;> decide

theorem nullable_text (s : String) :
    Worker.nullable (Worker.stripped 0) (text s) = some (some (stripWhitespace s)) := by
  show (Worker.stripped 0 (text s)).map some = _
  rw [stripped_text, Option.map_some]

section
variable {conversions : Conversions}

@[simp] theorem natural_int (n : Nat) : Worker.natural conversions (.int n) = some n := by
  simp [Worker.natural, conversions.int_int]

/-- The parameters of a step pass as they are. -/
theorem dictOf_stepParameters (step : IsolationStep) :
    Worker.dictOf (.obj (stepParameters step)) = some (stepParameters step) := by
  have key : ∀ name ∈ ["actor", "reversible", "manual_reference"],
      Worker.strippedStr 0 (Text.ofString name) = some name := by
    intro name listed
    have kept : stripWhitespace name = name := by
      apply trimSpace_eq_self
      revert name
      simp [OpenOntology.isSpace]
    simp [Worker.strippedStr, kept]
  simp only [List.mem_cons, List.not_mem_nil, or_false, forall_eq_or_imp, forall_eq] at key
  simp [Worker.dictOf, stepParameters, entry, key, Members.assign]

theorem read_stepCommand (action : CommandActionResponse) (step : IsolationStep) :
    PlannedFields.read conversions (stepCommand action step) = some {
      sequence := step.sequence
      targetComponent := stripWhitespace step.targetComponent
      action := stepAction action step
      priority := action.executionPriority.value
      assignedTo := stripWhitespace (actorLabel step.actor)
      assignedOperatorID := none
      parameters := stepParameters step
      expectedEffect := stripWhitespace step.instruction
      rollback := some (stripWhitespace (stepRollback step))
      deadlineSeconds := step.estimatedSeconds } := by
  simp [PlannedFields.read, stepCommand, Worker.optional, Worker.required, conversions.int_int,
    stripped_stepAction, stripped_priority, nullable_text, dictOf_stepParameters]

theorem read_soleCommand (action : CommandActionResponse) :
    PlannedFields.read conversions (soleCommand action) = some {
      sequence := 1
      targetComponent := stripWhitespace action.targetAssetID
      action := actionToWorker action.actionType
      priority := action.executionPriority.value
      assignedTo := stripWhitespace "Shift supervisor"
      assignedOperatorID := none
      parameters := []
      expectedEffect := stripWhitespace action.rationale
      rollback := some (stripWhitespace (if action.reversible then "Reversible." else "Not reversible."))
      deadlineSeconds := 900 } := by
  have deadline : Worker.natural conversions (.int 900) = some 900 := natural_int 900
  simp [PlannedFields.read, soleCommand, Worker.optional, Worker.required, conversions.int_int,
    stripped_action, stripped_priority, nullable_text, Worker.dictOf, deadline]

theorem minLength_text (low : Nat) (s : String) :
    Worker.minLength low (text s) = if low ≤ s.length then some s else none := by
  simp [Worker.minLength, Worker.minLengthStr, Option.filter]

theorem listOf_text (l : List String) :
    Worker.listOf Worker.str (.arr (l.map text)) = some (l.map Text.ofString) := by
  show (l.map text).mapM Worker.str = _
  rw [mapM_some_iff, List.forall₂_map_left_iff, List.forall₂_map_right_iff, List.forall₂_same]
  exact fun s _ => str_text s

theorem read_planEscalation (action : CommandActionResponse) :
    Escalation.modelValidate conversions (planEscalation action) = some {
      required := action.requiresHumanAuthorization
      notify := []
      reason := Text.ofString (if action.reversible then "Human authorization required by tier policy"
        else "Irreversible action against a live asset")
      slaSeconds := if action.requiresHumanAuthorization then 900 else 0 } := by
  have sla : Worker.natural conversions (.int (if action.requiresHumanAuthorization then 900 else 0)) =
      some (if action.requiresHumanAuthorization then 900 else 0) := by
    cases action.requiresHumanAuthorization
    · exact natural_int 0
    · exact natural_int 900
  simp [Escalation.modelValidate, planEscalation, Worker.optional, conversions.bool_bool,
    Worker.listOf, sla]

/-- What the worker reads of the rendered plan, once its commands are read. -/
def planFields (action : CommandActionResponse) (model : String) (commands : List PlannedAction) :
    ActionPlanFields where
  planID := action.commandID
  eventID := action.eventID
  assetID := action.sourceAssetID
  tenant := Text.ofString action.tenant
  model := Text.ofString model
  confidence := action.confidence
  reasoningSummary := Text.ofString action.rationale
  commands := commands
  escalation := {
    required := action.requiresHumanAuthorization
    notify := []
    reason := Text.ofString (if action.reversible then "Human authorization required by tier policy"
      else "Irreversible action against a live asset")
    slaSeconds := if action.requiresHumanAuthorization then 900 else 0 }
  evidence := (action.evidence ++ action.guardrailsApplied.map ("guardrail: " ++ ·)).map Text.ofString

/-- The response names its plan, its event and its asset. -/
def Identified (action : CommandActionResponse) : Prop :=
  1 ≤ action.commandID.length ∧ 1 ≤ action.eventID.length ∧ 1 ≤ action.sourceAssetID.length

theorem read_actionToPlan (action : CommandActionResponse) (model : String)
    (fields : ActionPlanFields) :
    ActionPlanFields.read conversions (actionToPlan action model) = some fields ↔
      Identified action ∧ ∃ commands,
        (planCommands action).mapM (PlannedAction.modelValidate conversions) = some commands ∧
        planFields action model commands = fields := by
  have commands_read : ∀ docs, Worker.listOf (PlannedAction.modelValidate conversions) (.arr docs) =
      docs.mapM (PlannedAction.modelValidate conversions) := fun _ => rfl
  have evidence_read : Worker.listOf Worker.str (.arr (planEvidence action)) =
      some (planFields action model []).evidence := listOf_text _
  have read : ActionPlanFields.read conversions (actionToPlan action model) =
      (Worker.minLength 1 (text action.commandID)).bind fun planID =>
      (Worker.minLength 1 (text action.eventID)).bind fun eventID =>
      (Worker.minLength 1 (text action.sourceAssetID)).bind fun assetID =>
      ((planCommands action).mapM (PlannedAction.modelValidate conversions)).bind fun commands =>
        some { planFields action model commands with planID, eventID, assetID } := by
    simp [ActionPlanFields.read, actionToPlan, Worker.optional, Worker.required,
      conversions.float_float, read_planEscalation, commands_read, evidence_read, planFields]
  rw [read]
  simp only [minLength_text, Identified]
  split
  next named =>
    split
    next dated =>
      split
      next located => simp [named, dated, located, Option.bind_eq_some_iff, planFields]
      next anonymous => simp [anonymous]
    next anonymous => simp [anonymous]
  next anonymous => simp [anonymous]

end

end OpenOntology.Bridge
