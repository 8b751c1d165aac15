import OpenOntology.Intercept.Mock
import OpenOntology.Worker.Stub

/-!
# The response of the interceptor

A provider's answer under the contract `LLMPlan`, the command sequence the endpoint makes of
it, and what the worker reads of that sequence.
-/
namespace OpenOntology.Intercept

open Python Library
open Bridge (text entry field_entry stripped_word nullable_text listOf_text minLength_text str_text)
open Worker (Keyed dictOf_keyed Conversions PlannedFields PlannedAction ActionPlanFields ActionPlan
  EnrichedContextPayload)
open GraphRag (within)

/-! ## The contract -/

/-- The constraints on a command. -/
def Command.valid (command : Command) : Bool :=
  1 ≤ command.sequence && command.targetComponent != "" && command.assignedTo != "" &&
    command.expectedEffect != "" && command.deadlineSeconds ≤ 604800

structure LLMPlan extends ToolInput where
  probable : within 0 1 confidence = true
  summarised : 1 ≤ reasoningSummary.length ∧ reasoningSummary.length ≤ 2000
  instructs : 1 ≤ commands.length
  valid : ∀ command ∈ commands, command.valid = true
  contiguous : commands.map Command.sequence = List.range' 1 commands.length

/-- `LLMPlan.model_validate`: nothing where pydantic raises a `ValidationError`. -/
def LLMPlan.modelValidate (answer : ToolInput) : Option LLMPlan :=
  if checked : within 0 1 answer.confidence = true ∧
      (1 ≤ answer.reasoningSummary.length ∧ answer.reasoningSummary.length ≤ 2000) ∧
      1 ≤ answer.commands.length ∧ (∀ command ∈ answer.commands, command.valid = true) ∧
      answer.commands.map Command.sequence = List.range' 1 answer.commands.length then
    some { toToolInput := answer
           probable := checked.1
           summarised := checked.2.1
           instructs := checked.2.2.1
           valid := checked.2.2.2.1
           contiguous := checked.2.2.2.2 }
  else none

section
variable {formatG : Float → String} {unicode : Unicode} {briefing : Briefing}

theorem confidence_probable : within 0 1 (confidence briefing) = true := by
  unfold confidence
  dsimp only
  repeat' split
  all_goals decide +kernel

theorem sentence_length (s : String) : 1 ≤ (s ++ ".").length := by
  have dot : ".".length = 1 := rfl
  rw [String.length_append]
  omega

theorem reasoningSummary_length : 1 ≤ (reasoningSummary formatG unicode briefing).length :=
  sentence_length _

/-- What `add` is called with names its effect and a deadline within the bounds. -/
theorem offers_bounded : ∀ command ∈ offers formatG unicode briefing,
    command.expectedEffect ≠ "" ∧ command.deadlineSeconds ≤ 604800 := by
  unfold offers criticalOffers
  repeat' split
  all_goals simp [clearedOffers, isolateOffer, shutdownOffer, inspectOffer, notifyOffer, breachOffers,
    offer]

/-- Whoever is to act, and on what. -/
def Command.named (command : Command) : Prop :=
  command.targetComponent ≠ "" ∧ command.assignedTo ≠ ""

theorem Command.named_of_valid {command : Command} (valid : command.valid = true) :
    command.named := by
  simp only [Command.valid, Bool.and_eq_true, bne_iff_ne] at valid
  exact ⟨valid.1.1.1.2, valid.1.1.2⟩

theorem mem_granted {command : Command} (member : command ∈ granted formatG unicode briefing) :
    command ∈ offers formatG unicode briefing :=
  List.mem_of_mem_filter (List.mem_of_mem_take member)

theorem derivedCommands_numbered : (derivedCommands formatG unicode briefing).map Command.sequence =
    List.range' 1 (derivedCommands formatG unicode briefing).length := by
  rw [derivedCommands_granted]
  split
  next => rfl
  next => rw [numberFrom_sequence, numberFrom_length]

theorem derivedCommands_pos : 1 ≤ (derivedCommands formatG unicode briefing).length := by
  rw [derivedCommands_granted]
  split
  next => exact Nat.le_refl 1
  next some_granted =>
    rw [numberFrom_length]
    exact List.length_pos_iff.mpr some_granted

/-- The commands of a plan meet their constraints where each names its component and its
assignee. -/
theorem derivedCommands_valid_iff :
    (∀ command ∈ derivedCommands formatG unicode briefing, command.valid = true) ↔
      (∀ command ∈ granted formatG unicode briefing, command.named) ∧
        (granted formatG unicode briefing = [] → (fallbackCommand unicode briefing).named) := by
  rw [derivedCommands_granted]
  split
  next none_granted =>
    rw [none_granted, List.forall_mem_singleton]
    constructor
    · exact fun valid => ⟨nofun, fun _ => Command.named_of_valid valid⟩
    · rintro ⟨-, named⟩
      obtain ⟨component, assignee⟩ := named rfl
      have texts : (fallbackCommand unicode briefing).sequence = 1 ∧
          (fallbackCommand unicode briefing).expectedEffect ≠ "" ∧
          (fallbackCommand unicode briefing).deadlineSeconds = 900 := by
        simp [fallbackCommand, offer]
      simp [Command.valid, component, assignee, texts]
  next some_granted =>
    constructor
    · refine fun valid => ⟨fun command member => ?_, fun none_granted => absurd none_granted some_granted⟩
      obtain ⟨m, inside⟩ := numberFrom_mem (n := 1) member
      exact @Command.named_of_valid { command with sequence := m } (valid _ inside)
    · rintro ⟨named, -⟩ command member
      obtain ⟨original, taken, m, after, rfl⟩ := mem_numberFrom member
      obtain ⟨component, assignee⟩ := named original taken
      obtain ⟨effect, deadline⟩ := offers_bounded original (mem_granted taken)
      simp [Command.valid, after, component, assignee, effect, deadline]

/-- The contract is met where each command that is granted names its component and its assignee,
so does the fallback where none is, and the summary is short enough. -/
theorem modelValidate_derivePlan_granted :
    (∃ plan, LLMPlan.modelValidate (derivePlan formatG unicode briefing) = some plan) ↔
      ((∀ command ∈ granted formatG unicode briefing, command.named) ∧
        (granted formatG unicode briefing = [] → (fallbackCommand unicode briefing).named)) ∧
        (reasoningSummary formatG unicode briefing).length ≤ 2000 := by
  rw [← derivedCommands_valid_iff]
  unfold LLMPlan.modelValidate
  constructor
  · rintro ⟨plan, validated⟩
    split at validated
    next checked => exact ⟨checked.2.2.2.1, checked.2.1.2⟩
    next => cases validated
  · rintro ⟨valid, short⟩
    rw [dif_pos]
    · exact ⟨_, rfl⟩
    · exact ⟨confidence_probable, ⟨reasoningSummary_length, short⟩, derivedCommands_pos, valid,
        derivedCommands_numbered⟩

/-- The contract is met where each command names its component and its assignee, and the
summary is short enough. -/
theorem modelValidate_derivePlan
    (allowed : briefing.constraints.allowedActions = defaultAllowedActions)
    (room : 1 ≤ briefing.constraints.maxCommands) :
    (∃ plan, LLMPlan.modelValidate (derivePlan formatG unicode briefing) = some plan) ↔
      (∀ command ∈ (offers formatG unicode briefing).take briefing.constraints.maxCommands,
        command.targetComponent ≠ "" ∧ command.assignedTo ≠ "") ∧
        (reasoningSummary formatG unicode briefing).length ≤ 2000 := by
  have all : granted formatG unicode briefing =
      (offers formatG unicode briefing).take briefing.constraints.maxCommands :=
    granted_default allowed
  have some_granted : granted formatG unicode briefing ≠ [] := by
    rw [all]
    exact offers_taken_ne_nil room
  rw [modelValidate_derivePlan_granted, ← all]
  constructor
  · exact fun met => ⟨met.1.1, met.2⟩
  · exact fun met => ⟨⟨met.1, fun none_granted => absurd none_granted some_granted⟩, met.2⟩

end

/-! ## The response -/

def commandDocument (command : Command) : PyJson :=
  .obj [
    entry "sequence" (.int command.sequence),
    entry "target_component" (text command.targetComponent),
    entry "action" (text command.action.value),
    entry "priority" (text command.priority.value),
    entry "assigned_to" (text command.assignedTo),
    entry "assigned_operator_id" ((command.assignedOperatorID.map text).getD .null),
    entry "parameters" (.obj command.parameters),
    entry "expected_effect" (text command.expectedEffect),
    entry "rollback" ((command.rollback.map text).getD .null),
    entry "deadline_seconds" (.int command.deadlineSeconds)]

def escalationDocument (escalation : Escalation) : PyJson :=
  .obj [
    entry "required" (.bool escalation.required),
    entry "notify" (.arr (escalation.notify.map text)),
    entry "reason" (text escalation.reason),
    entry "sla_seconds" (.int escalation.slaSeconds)]

/-- `build_command_sequence`, as far as the worker reads it. -/
def buildCommandSequence (payload : EnrichedContextPayload) (plan : LLMPlan) (tenant : Text)
    (model planID : String) : PyJson :=
  .obj [
    entry "plan_id" (text planID),
    entry "event_id" (text payload.eventID),
    entry "asset_id" (text payload.assetID),
    entry "tenant" (.str tenant),
    entry "model" (text model),
    entry "confidence" (.float plan.confidence),
    entry "reasoning_summary" (text plan.reasoningSummary),
    entry "commands" (.arr (plan.commands.map commandDocument)),
    entry "escalation" (escalationDocument plan.escalation),
    entry "evidence" (.arr (plan.evidence.map text))]

/-! ## What the worker reads -/

theorem stripped_value (kind : ActionType) :
    Worker.stripped 1 (text kind.value) = some kind.value := by
  apply stripped_word
  · cases kind <;> simp [ActionType.value]
  · cases kind <;> decide

theorem stripped_priority (rank : Priority) :
    Worker.stripped 1 (text rank.value) = some rank.value := by
  apply stripped_word
  · cases rank <;> simp [Priority.value]
  · cases rank <;> decide

theorem ActionType.value_length (kind : ActionType) : 1 ≤ kind.value.length := by
  cases kind <;> decide

theorem Priority.value_length (rank : Priority) : 1 ≤ rank.value.length := by
  cases rank <;> decide

theorem nullable_map_text (s : Option String) :
    Worker.nullable (Worker.stripped 0) ((s.map text).getD .null) =
      some (s.map stripWhitespace) := by
  cases s with
  | none => rfl
  | some s => exact nullable_text s

section
variable {conversions : Conversions}

theorem read_commandDocument (command : Command) {held : Members}
    (kept : Worker.dictOf (.obj command.parameters) = some held) :
    PlannedFields.read conversions (commandDocument command) = some {
      sequence := command.sequence
      targetComponent := stripWhitespace command.targetComponent
      action := command.action.value
      priority := command.priority.value
      assignedTo := stripWhitespace command.assignedTo
      assignedOperatorID := command.assignedOperatorID.map stripWhitespace
      parameters := held
      expectedEffect := stripWhitespace command.expectedEffect
      rollback := command.rollback.map stripWhitespace
      deadlineSeconds := command.deadlineSeconds } := by
  simp [PlannedFields.read, commandDocument, Worker.optional, Worker.required, conversions.int_int,
    stripped_value, stripped_priority, nullable_map_text, kept]

theorem read_escalationDocument (escalation : Escalation) :
    Worker.Escalation.modelValidate conversions (escalationDocument escalation) = some {
      required := escalation.required
      notify := escalation.notify.map Text.ofString
      reason := Text.ofString escalation.reason
      slaSeconds := escalation.slaSeconds } := by
  simp [Worker.Escalation.modelValidate, escalationDocument, Worker.optional,
    conversions.bool_bool, listOf_text]

section
variable (payload : EnrichedContextPayload) (plan : LLMPlan) (tenant : Text) (model planID : String)

/-- The response as the worker reads it, once its commands are read. -/
def responseFields (commands : List PlannedAction) : ActionPlanFields where
  planID := planID
  eventID := payload.eventID
  assetID := payload.assetID
  tenant := tenant
  model := Text.ofString model
  confidence := plan.confidence
  reasoningSummary := Text.ofString plan.reasoningSummary
  commands := commands
  escalation := {
    required := plan.escalation.required
    notify := plan.escalation.notify.map Text.ofString
    reason := Text.ofString plan.escalation.reason
    slaSeconds := plan.escalation.slaSeconds }
  evidence := plan.evidence.map Text.ofString

theorem read_buildCommandSequence (named : 1 ≤ planID.length) :
    ActionPlanFields.read conversions (buildCommandSequence payload plan tenant model planID) =
      ((plan.commands.map commandDocument).mapM (PlannedAction.modelValidate conversions)).map
        (responseFields payload plan tenant model planID) := by
  have commands_read : ∀ docs, Worker.listOf (PlannedAction.modelValidate conversions) (.arr docs) =
      docs.mapM (PlannedAction.modelValidate conversions) := fun _ => rfl
  have tenant_read : Worker.str (.str tenant) = some tenant := rfl
  simp only [ActionPlanFields.read, buildCommandSequence, Worker.optional, Worker.required,
    field_entry, String.reduceEq, ite_true, ite_false, minLength_text, named, payload.identified.1,
    payload.identified.2.1, conversions.float_float, read_escalationDocument, commands_read,
    tenant_read, str_text, listOf_text, Option.bind_some, Option.bind_eq_bind, Option.pure_def]
  rw [Option.map_eq_bind]
  rfl

/-- The steps of the plan the worker reads are the commands' documents, in order. -/
theorem response_commands (named : 1 ≤ planID.length) {read : ActionPlan}
    (validated : ActionPlan.modelValidate conversions
      (buildCommandSequence payload plan tenant model planID) = some read) :
    read.planID = planID ∧
      List.Forall₂ (fun command planned =>
        PlannedAction.modelValidate conversions (commandDocument command) = some planned)
        plan.commands read.commands := by
  have fields := ActionPlan.modelValidate_some validated
  rw [read_buildCommandSequence payload plan tenant model planID named] at fields
  obtain ⟨commands, steps, same⟩ := Option.map_eq_some_iff.mp fields
  have held : read.commands = commands := (congrArg ActionPlanFields.commands same).symm
  refine ⟨(congrArg ActionPlanFields.planID same).symm, ?_⟩
  rw [held]
  exact List.forall₂_map_left_iff.mp (mapM_some_iff.mp steps)

theorem modelValidate_commandDocument {command : Command} (keyed : Keyed command.parameters)
    (valid : command.valid = true) :
    ∃ planned, PlannedAction.modelValidate conversions (commandDocument command) = some planned := by
  obtain ⟨held, kept, -⟩ := dictOf_keyed keyed
  simp only [Command.valid, Bool.and_eq_true, decide_eq_true_eq] at valid
  unfold PlannedAction.modelValidate
  rw [read_commandDocument command kept, Option.bind_some, dif_pos]
  · exact ⟨_, rfl⟩
  · exact ⟨Int.ofNat_le.mpr valid.1.1.1.1, ActionType.value_length command.action,
      Priority.value_length command.priority, valid.2⟩

theorem response_validates (named : 1 ≤ planID.length)
    (keyed : ∀ command ∈ plan.commands, Keyed command.parameters) :
    ∃ read, ActionPlan.modelValidate conversions
      (buildCommandSequence payload plan tenant model planID) = some read := by
  have each : ∀ command ∈ plan.commands, ∃ planned,
      PlannedAction.modelValidate conversions (commandDocument command) = some planned :=
    fun command member =>
      modelValidate_commandDocument (keyed command member) (plan.valid command member)
  obtain ⟨commands, related⟩ := exists_forall₂.mpr each
  have steps : (plan.commands.map commandDocument).mapM (PlannedAction.modelValidate conversions) =
      some commands := mapM_some_iff.mpr (List.forall₂_map_left_iff.mpr related)
  unfold ActionPlan.modelValidate
  rw [read_buildCommandSequence payload plan tenant model planID named, steps, Option.map_some,
    Option.bind_some, dif_pos]
  · exact ⟨_, rfl⟩
  · refine ⟨⟨named, payload.identified.1, payload.identified.2.1⟩, plan.probable, ?_⟩
    have instructs := plan.instructs
    rw [related.length_eq] at instructs
    exact instructs

end

/-- What the worker reads of a command. -/
theorem commandDocument_read {command : Command} {planned : PlannedAction}
    (keyed : Keyed command.parameters)
    (validated : PlannedAction.modelValidate conversions (commandDocument command) =
      some planned) :
    planned.action = command.action.value ∧ planned.priority = command.priority.value ∧
      Keyed planned.parameters := by
  obtain ⟨held, kept, carried⟩ := dictOf_keyed keyed
  have fields := PlannedAction.modelValidate_some validated
  rw [read_commandDocument command kept] at fields
  rw [← Option.some.inj fields]
  exact ⟨rfl, rfl, carried⟩

end

/-! ## The words of the two services -/

def ActionType.worker : ActionType → Worker.ActionType
  | .isolate => .isolate
  | .shutdown => .shutdown
  | .throttle => .shiftSpeed
  | .inspect => .inspect
  | .scheduleMaintenance => .scheduleMaintenance
  | .notify => .notify
  | .acknowledge => .acknowledge

theorem resolve_action (unicode : Unicode) (kind : ActionType) :
    Worker.resolveAlias unicode Worker.actionAliases kind.value = some kind.worker := by
  rw [Worker.resolveAlias_word]
  · cases kind <;> rfl
  · cases kind <;> simp [ActionType.value]
  · cases kind <;> rfl

theorem resolve_priority (unicode : Unicode) (rank : Priority) :
    ∃ level, Worker.resolveAlias unicode Worker.priorityAliases rank.value = some level := by
  rw [Worker.resolveAlias_word]
  · cases rank <;> exact ⟨_, rfl⟩
  · cases rank <;> simp [Priority.value]
  · cases rank <;> rfl

theorem offers_keyed {formatG : Float → String} {unicode : Unicode} {briefing : Briefing} :
    ∀ command ∈ offers formatG unicode briefing, Keyed command.parameters := by
  unfold offers criticalOffers
  repeat' split
  all_goals simp [clearedOffers, isolateOffer, shutdownOffer, inspectOffer, notifyOffer,
    breachOffers, offer, maintenanceWindow]

end OpenOntology.Intercept
