import OpenOntology.Bridge.Plan

/-!
# From a response to commands

The commands the worker issues for the plan the bridge renders: their actions are those of
the first steps of the response, their target is the asset of the mutation, and whether
they wait for a human depends on the action and the tenant's tier.
-/
namespace OpenOntology.Bridge

open Python Library
open GraphRag (CommandActionResponse IsolationStep StepActor)
open Worker (Conversions PlannedAction ActionPlan MutationEnvelope Subscription WorkerSettings
  ErrorTexts CommandPayload resolveAlias actionAliases priorityAliases translatePlan)

/-! ## The actions of the steps -/

def workerAction : GraphRag.ActionType → Worker.ActionType
  | .isolateValve => .isolate
  | .emergencyShutdown => .shutdown
  | .degradeThrottle => .shiftSpeed

def reversibleAction : StepActor → Worker.ActionType
  | .controlSystem | .roboticActuator => .shiftSpeed
  | .humanSupervisor => .notify
  | .humanTechnician => .inspect

def stepActionType (action : CommandActionResponse) (step : IsolationStep) : Worker.ActionType :=
  if step.reversible then reversibleAction step.actor else workerAction action.actionType

/-- The actions of the plan, step by step. -/
def actionTypes (action : CommandActionResponse) : List Worker.ActionType :=
  if action.isolationSteps = [] then [workerAction action.actionType]
  else action.isolationSteps.map (stepActionType action)

theorem reversibleAction_isIrreversible (actor : StepActor) :
    (reversibleAction actor).isIrreversible = false := by
  cases actor <;> rfl

/-- Of the three interventions, the throttle is the one the worker can undo. -/
theorem workerAction_isIrreversible (a : GraphRag.ActionType) :
    (workerAction a).isIrreversible = true ↔ a ≠ .degradeThrottle := by
  cases a <;> decide

theorem stepActionType_isIrreversible (action : CommandActionResponse) (step : IsolationStep) :
    (stepActionType action step).isIrreversible = true ↔
      step.reversible = false ∧ action.actionType ≠ .degradeThrottle := by
  unfold stepActionType
  cases step.reversible with
  | true => simp [reversibleAction_isIrreversible]
  | false => simp [workerAction_isIrreversible]

section
variable (unicode : Unicode)

theorem resolve_workerAction (a : GraphRag.ActionType) :
    resolveAlias unicode actionAliases (actionToWorker a) = some (workerAction a) := by
  rw [Worker.resolveAlias_word]
  · cases a <;> rfl
  · cases a <;> simp [actionToWorker]
  · cases a <;> rfl

theorem resolve_reversible (actor : StepActor) :
    resolveAlias unicode actionAliases (reversibleStepAction actor) =
      some (reversibleAction actor) := by
  rw [Worker.resolveAlias_word]
  · cases actor <;> rfl
  · cases actor <;> simp [reversibleStepAction]
  · cases actor <;> rfl

theorem resolve_stepAction (action : CommandActionResponse) (step : IsolationStep) :
    resolveAlias unicode actionAliases (stepAction action step) =
      some (stepActionType action step) := by
  unfold stepAction stepActionType
  split
  · exact resolve_reversible unicode step.actor
  · exact resolve_workerAction unicode action.actionType

/-- The worker's table has no row for ROUTINE. -/
theorem resolve_priority (priority : GraphRag.ExecutionPriority) :
    resolveAlias unicode priorityAliases priority.value = match priority with
      | .critical => some .critical
      | .high => some .high
      | .routine => none := by
  rw [Worker.resolveAlias_word]
  · cases priority <;> rfl
  · cases priority <;> simp [GraphRag.ExecutionPriority.value]
  · cases priority <;> rfl

end

/-! ## The batch -/

section
variable (conversions : Conversions) (unicode : Unicode) (texts : ErrorTexts)
  (action : CommandActionResponse) (model : String) (mutation : MutationEnvelope)
  (subscription : Subscription) (settings : WorkerSettings) (correlationID : Text) (issuedAt : Int)

/-- The worker turns the rendered response into these commands. -/
def Produces (commands : List (CommandPayload unicode)) : Prop :=
  ∃ plan, ActionPlan.modelValidate conversions (actionToPlan action model) = some plan ∧
    translatePlan unicode texts mutation plan subscription settings correlationID issuedAt =
      .ok commands

variable {conversions unicode texts action model mutation subscription settings correlationID issuedAt}

theorem step_action {step : IsolationStep} {planned : PlannedAction}
    (validated : PlannedAction.modelValidate conversions (stepCommand action step) = some planned) :
    planned.action = stepAction action step := by
  have fields := PlannedAction.modelValidate_some validated
  rw [read_stepCommand] at fields
  rw [← Option.some.inj fields]

theorem sole_action {planned : PlannedAction}
    (validated : PlannedAction.modelValidate conversions (soleCommand action) = some planned) :
    planned.action = actionToWorker action.actionType := by
  have fields := PlannedAction.modelValidate_some validated
  rw [read_soleCommand] at fields
  rw [← Option.some.inj fields]

/-- The plan read back asks for the actions of the response's steps, in order. -/
theorem plan_actions {plan : ActionPlan}
    (validated : ActionPlan.modelValidate conversions (actionToPlan action model) = some plan) :
    plan.commands.map (fun planned => resolveAlias unicode actionAliases planned.action) =
      (actionTypes action).map some := by
  obtain ⟨-, commands, read, same⟩ :=
    (read_actionToPlan action model _).mp (ActionPlan.modelValidate_some validated)
  have held : plan.commands = commands := (congrArg Worker.ActionPlanFields.commands same).symm
  rw [held]
  have related := mapM_some_iff.mp read
  unfold planCommands at related
  unfold actionTypes
  split at related
  next empty =>
    cases related with
    | cons sole others =>
      cases others
      rw [if_pos empty, List.map_singleton, List.map_singleton, sole_action sole,
        resolve_workerAction]
  next some_step =>
    rw [if_neg some_step, List.map_map]
    refine (map_eq_map_of_forall₂ ((List.forall₂_map_left_iff.mp related).imp ?_)).symm
    intro step planned read_step
    rw [step_action read_step, resolve_stepAction]
    rfl

/-- The batch: the actions of the first steps, each on the asset of the mutation. -/
structure Batch (unicode : Unicode) (action : CommandActionResponse) (mutation : MutationEnvelope)
    (subscription : Subscription) (settings : WorkerSettings)
    (commands : List (CommandPayload unicode)) : Prop where
  actions : commands.map CommandPayload.actionType = (actionTypes action).take settings.maxCommands
  approval : ∀ command ∈ commands,
    command.requiresHumanApproval = Worker.requiresApproval subscription command.actionType
  target : ∀ command ∈ commands, command.targetAssetID = mutation.assetID

theorem batch {commands : List (CommandPayload unicode)}
    (produced : Produces conversions unicode texts action model mutation subscription settings
      correlationID issuedAt commands) :
    Batch unicode action mutation subscription settings commands := by
  obtain ⟨plan, validated, translated⟩ := produced
  have issued := Worker.translatePlan_issued translated
  refine ⟨?_, ?_, ?_⟩
  · have resolved := map_eq_map_of_forall₂ (issued.imp fun planned command from_step =>
      from_step.action)
    rw [List.map_take, plan_actions validated, ← List.map_take] at resolved
    apply List.map_injective_iff.mpr (Option.some_injective Worker.ActionType)
    rw [resolved, List.map_map]
    rfl
  · intro command member
    obtain ⟨planned, -, from_step⟩ := forall₂_exists_left issued member
    exact from_step.approval
  · intro command member
    obtain ⟨planned, -, from_step⟩ := forall₂_exists_left issued member
    exact from_step.target

end

end OpenOntology.Bridge
