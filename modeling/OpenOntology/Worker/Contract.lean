import OpenOntology.Worker.Gatekeeper
import OpenOntology.GraphRag.Contracts

/-!
# Contracts of the command worker

The vocabularies of the actuation topic, the interceptor's plan as the worker parses it,
and the command payload. A value of one of these structures has passed its checks.
-/
namespace OpenOntology.Worker

open Python Library
open GraphRag (within)

/-! ## Vocabularies -/

inductive ActionType where
  | isolate
  | shutdown
  | shiftSpeed
  | inspect
  | scheduleMaintenance
  | notify
  | acknowledge
  deriving DecidableEq, Repr

def ActionType.value : ActionType → String
  | .isolate => "ISOLATE"
  | .shutdown => "SHUTDOWN"
  | .shiftSpeed => "SHIFT_SPEED"
  | .inspect => "INSPECT"
  | .scheduleMaintenance => "SCHEDULE_MAINTENANCE"
  | .notify => "NOTIFY"
  | .acknowledge => "ACKNOWLEDGE"

/-- Actions that take load off a live asset and cannot be undone cheaply. -/
def ActionType.isIrreversible (a : ActionType) : Bool := a == .isolate || a == .shutdown

inductive ExecutionPriority where
  | critical
  | high
  | low
  deriving DecidableEq, Repr

def actionAliases : List (String × ActionType) :=
  [("ISOLATE", .isolate), ("SHUTDOWN", .shutdown), ("STOP", .shutdown),
    ("SHIFT_SPEED", .shiftSpeed), ("THROTTLE", .shiftSpeed), ("DERATE", .shiftSpeed),
    ("REDUCE_LOAD", .shiftSpeed), ("INSPECT", .inspect),
    ("SCHEDULE_MAINTENANCE", .scheduleMaintenance), ("MAINTENANCE", .scheduleMaintenance),
    ("NOTIFY", .notify), ("ALERT", .notify), ("ACKNOWLEDGE", .acknowledge), ("ACK", .acknowledge)]

/-- MEDIUM collapses to LOW: the actuation contract has three bands. -/
def priorityAliases : List (String × ExecutionPriority) :=
  [("CRITICAL", .critical), ("EMERGENCY", .critical), ("P0", .critical), ("HIGH", .high),
    ("URGENT", .high), ("P1", .high), ("MEDIUM", .low), ("NORMAL", .low), ("LOW", .low),
    ("INFO", .low), ("P2", .low), ("P3", .low)]

/-! ## Field constraints -/

/-- `Field(min_length=low)` on a string: one with a lone surrogate is refused. -/
def minLengthStr (low : Nat) (s : Text) : Option String :=
  (Text.toString? s).filter fun text => decide (low ≤ text.length)

/-- `str_strip_whitespace` with `Field(min_length=low)`. -/
def strippedStr (low : Nat) (s : Text) : Option String :=
  ((Text.toString? s).map stripWhitespace).filter fun text => decide (low ≤ text.length)

/-- The text holds a character that stripping keeps, and UTF-8 can carry it. -/
def Legible (s : Text) : Prop :=
  ∃ t : String, s = Text.ofString t ∧ ∃ c ∈ t.toList, OpenOntology.isSpace c = false

theorem stripWhitespace_length_pos {t : String} :
    1 ≤ (stripWhitespace t).length ↔ ∃ c ∈ t.toList, OpenOntology.isSpace c = false := by
  have length : (stripWhitespace t).length = (trimBoth OpenOntology.isSpace t.toList).length := by
    rw [stripWhitespace, trimSpace, String.length_ofList]
  rw [length, Nat.one_le_iff_ne_zero, ne_eq, List.length_eq_zero_iff, trimBoth_eq_nil_iff]
  simp

/-- Exactly the legible texts pass a stripped field that must not be empty. -/
theorem strippedStr_one_iff {s : Text} : (∃ t, strippedStr 1 s = some t) ↔ Legible s := by
  unfold strippedStr Legible
  constructor
  · rintro ⟨t, passed⟩
    obtain ⟨kept, long⟩ := Option.filter_eq_some_iff.mp passed
    obtain ⟨whole, carried, rfl⟩ := Option.map_eq_some_iff.mp kept
    exact ⟨whole, Text.toString?_eq_some.mp carried,
      stripWhitespace_length_pos.mp (of_decide_eq_true long)⟩
  · rintro ⟨t, rfl, solid⟩
    refine ⟨stripWhitespace t, Option.filter_eq_some_iff.mpr ⟨?_, ?_⟩⟩
    · rw [Text.toString?_ofString, Option.map_some]
    · exact decide_eq_true (stripWhitespace_length_pos.mpr solid)

/-- pydantic's conversions to numbers; a value of the field's own type passes unchanged. -/
structure Conversions where
  int : PyJson → Option Int
  float : PyJson → Option Float
  bool : PyJson → Option Bool
  int_int : ∀ n, int (.int n) = some n
  float_float : ∀ x, float (.float x) = some x
  bool_bool : ∀ b, bool (.bool b) = some b

def str (s : PyJson) : Option Text :=
  match s with
  | .str text => some text
  | _ => none

section
variable {α : Type}

def required (members : Members) (name : String) (read : PyJson → Option α) : Option α :=
  (field members name).bind read

def optional (members : Members) (name : String) (read : PyJson → Option α) (default : α) :
    Option α :=
  match field members name with
  | none => some default
  | some value => read value

end

/-- `… | None`. -/
def nullable {α : Type} (read : PyJson → Option α) : PyJson → Option (Option α)
  | .null => some none
  | value => (read value).map some

def listOf {α : Type} (read : PyJson → Option α) : PyJson → Option (List α)
  | .arr items => items.mapM read
  | _ => none

/-- `dict[str, Any]` under `str_strip_whitespace`. -/
def dictOf : PyJson → Option Members
  | .obj members => members.foldlM (fun built entry => do
      let key ← strippedStr 0 entry.1
      pure (built.assign (Text.ofString key) entry.2)) []
  | _ => none

/-! ## The plan -/

/-- The fields of one step of the plan. -/
structure PlannedFields where
  sequence : Int
  targetComponent : String
  action : String
  priority : String
  assignedTo : String
  assignedOperatorID : Option String
  parameters : Members
  expectedEffect : String
  rollback : Option String
  deadlineSeconds : Nat

/-- One step of the plan. -/
structure PlannedAction extends PlannedFields where
  ordered : 1 ≤ sequence
  named : 1 ≤ action.length
  ranked : 1 ≤ priority.length
  bounded : deadlineSeconds ≤ 604800

structure Escalation where
  required : Bool := false
  notify : List Text := []
  reason : Text := []
  slaSeconds : Nat := 0

structure ActionPlanFields where
  planID : String
  eventID : String
  assetID : String
  tenant : Text
  model : Text
  confidence : Float
  reasoningSummary : Text
  commands : List PlannedAction
  escalation : Escalation
  evidence : List Text

/-- The interceptor's response, as the worker consumes it. -/
structure ActionPlan extends ActionPlanFields where
  identified : 1 ≤ planID.length ∧ 1 ≤ eventID.length ∧ 1 ≤ assetID.length
  probable : within 0 1 confidence = true
  instructs : 1 ≤ commands.length

section
variable (conversions : Conversions)

def stripped (low : Nat) (value : PyJson) : Option String := (str value).bind (strippedStr low)

def minLength (low : Nat) (value : PyJson) : Option String := (str value).bind (minLengthStr low)

def natural (value : PyJson) : Option Nat :=
  (conversions.int value).bind fun n => if n < 0 then none else some n.toNat

def PlannedFields.read : PyJson → Option PlannedFields
  | .obj members => do
    let sequence ← optional members "sequence" conversions.int 1
    let targetComponent ← optional members "target_component" (stripped 0) ""
    let action ← required members "action" (stripped 1)
    let priority ← optional members "priority" (stripped 1) "LOW"
    let assignedTo ← optional members "assigned_to" (stripped 0) ""
    let assignedOperatorID ← optional members "assigned_operator_id" (nullable (stripped 0)) none
    let parameters ← optional members "parameters" dictOf []
    let expectedEffect ← optional members "expected_effect" (stripped 0) ""
    let rollback ← optional members "rollback" (nullable (stripped 0)) none
    let deadlineSeconds ← optional members "deadline_seconds" (natural conversions) 900
    pure { sequence, targetComponent, action, priority, assignedTo, assignedOperatorID, parameters,
           expectedEffect, rollback, deadlineSeconds }
  | _ => none

/-- `PlannedAction.model_validate`. -/
def PlannedAction.modelValidate (value : PyJson) : Option PlannedAction :=
  (PlannedFields.read conversions value).bind fun fields =>
    if checked : 1 ≤ fields.sequence ∧ 1 ≤ fields.action.length ∧ 1 ≤ fields.priority.length ∧
        fields.deadlineSeconds ≤ 604800 then
      some { toPlannedFields := fields
             ordered := checked.1
             named := checked.2.1
             ranked := checked.2.2.1
             bounded := checked.2.2.2 }
    else none

/-- `Escalation.model_validate`. -/
def Escalation.modelValidate : PyJson → Option Escalation
  | .obj members => do
    let required ← optional members "required" conversions.bool false
    let notify ← optional members "notify" (listOf str) []
    let reason ← optional members "reason" str []
    let slaSeconds ← optional members "sla_seconds" (natural conversions) 0
    pure { required, notify, reason, slaSeconds }
  | _ => none

def ActionPlanFields.read : PyJson → Option ActionPlanFields
  | .obj members => do
    let planID ← required members "plan_id" (minLength 1)
    let eventID ← required members "event_id" (minLength 1)
    let assetID ← required members "asset_id" (minLength 1)
    let tenant ← optional members "tenant" str []
    let model ← optional members "model" str []
    let confidence ← optional members "confidence" conversions.float 0
    let reasoningSummary ← optional members "reasoning_summary" str []
    let commands ← required members "commands" (listOf (PlannedAction.modelValidate conversions))
    let escalation ← optional members "escalation" (Escalation.modelValidate conversions) {}
    let evidence ← optional members "evidence" (listOf str) []
    pure { planID, eventID, assetID, tenant, model, confidence, reasoningSummary, commands,
           escalation, evidence }
  | _ => none

/-- `ActionPlan.model_validate`: nothing where pydantic raises a `ValidationError`. -/
def ActionPlan.modelValidate (value : PyJson) : Option ActionPlan :=
  (ActionPlanFields.read conversions value).bind fun fields =>
    if checked : (1 ≤ fields.planID.length ∧ 1 ≤ fields.eventID.length ∧
        1 ≤ fields.assetID.length) ∧ within 0 1 fields.confidence = true ∧
        1 ≤ fields.commands.length then
      some { toActionPlanFields := fields
             identified := checked.1
             probable := checked.2.1
             instructs := checked.2.2 }
    else none

variable {conversions}

theorem PlannedAction.modelValidate_some {value : PyJson} {planned : PlannedAction}
    (validated : PlannedAction.modelValidate conversions value = some planned) :
    PlannedFields.read conversions value = some planned.toPlannedFields := by
  obtain ⟨fields, read, checked⟩ := Option.bind_eq_some_iff.mp validated
  split at checked
  next =>
    cases checked
    exact read
  next => cases checked

theorem ActionPlan.modelValidate_some {value : PyJson} {plan : ActionPlan}
    (validated : ActionPlan.modelValidate conversions value = some plan) :
    ActionPlanFields.read conversions value = some plan.toActionPlanFields := by
  obtain ⟨fields, read, checked⟩ := Option.bind_eq_some_iff.mp validated
  split at checked
  next =>
    cases checked
    exact read
  next => cases checked

end

/-! ## The mutation -/

inductive Severity where
  | info
  | high
  | critical
  deriving DecidableEq, Repr

inductive TransitionKind where
  | raised
  | escalated
  | sustained
  | cleared
  deriving DecidableEq, Repr

/-- What the worker reads of a validated mutation. -/
structure MutationEnvelope where
  eventID : String
  assetID : String
  sensorID : String
  transition : TransitionKind
  severity : Severity
  degraded : Bool
  identified : 1 ≤ eventID.length ∧ 1 ≤ assetID.length ∧ assetID.length ≤ 128
  stripped : stripWhitespace eventID = eventID ∧ stripWhitespace assetID = assetID ∧
    stripWhitespace sensorID = sensorID

/-! ## The command -/

/-- `deterministic_command_id`, by the name the UUIDv5 is derived from. -/
structure CommandID where
  name : String
  deriving DecidableEq

def deterministicCommandID (eventID : String) (sequence : Nat) (action : ActionType) : CommandID :=
  ⟨eventID ++ "|" ++ toString sequence ++ "|" ++ action.value⟩

def separators : List Char := [' ', '\t', '\n', ':', '|', '/']

/-- `_identifier_shape`. -/
def identifierShape (unicode : Unicode) (value : String) : Bool :=
  (value.toList.head?.map unicode.isAlnum).getD false &&
    !separators.any fun separator => value.toList.contains separator

/-- The keyword arguments of `CommandPayload`. -/
structure CommandDraft where
  commandID : CommandID
  targetAssetID : Text
  actionType : ActionType
  executionPriority : ExecutionPriority
  issuedAt : Int
  tenant : Text
  licenseKeyID : Text
  sourceEventID : Text
  planID : Text
  correlationID : Text
  sequence : Int
  targetComponent : Option Text
  parameters : Members
  expectedEffect : Text
  rollback : Option Text
  assignedTo : Text
  assignedOperatorID : Option Text
  deadlineSeconds : Int
  expiresAt : Int
  requiresHumanApproval : Bool
  escalationRequired : Bool
  confidence : Float
  triggerSensorID : Text
  triggerSeverity : Severity
  triggerTransition : TransitionKind
  contextDegraded : Bool

/-- The string fields of a command, stripped. -/
structure CommandTexts where
  targetAssetID : String
  tenant : String
  licenseKeyID : String
  sourceEventID : String
  planID : String
  correlationID : String
  targetComponent : Option String
  expectedEffect : String
  rollback : Option String
  assignedTo : String
  assignedOperatorID : Option String
  triggerSensorID : String

/-- The contract published to the command topic. -/
structure CommandPayload (unicode : Unicode) extends CommandTexts where
  commandID : CommandID
  actionType : ActionType
  executionPriority : ExecutionPriority
  issuedAt : Int
  sequence : Int
  parameters : Members
  deadlineSeconds : Int
  expiresAt : Int
  requiresHumanApproval : Bool
  escalationRequired : Bool
  confidence : Float
  triggerSeverity : Severity
  triggerTransition : TransitionKind
  contextDegraded : Bool
  targeted : targetAssetID.length ≤ 128 ∧ identifierShape unicode targetAssetID = true
  ordered : 1 ≤ sequence
  bounded : 0 ≤ deadlineSeconds ∧ deadlineSeconds ≤ 604800
  probable : within 0 1 confidence = true

/-- An optional string field under `str_strip_whitespace`. -/
def strippedOption : Option Text → Option (Option String)
  | none => some none
  | some text => (strippedStr 0 text).map some

def CommandDraft.texts (draft : CommandDraft) : Option CommandTexts := do
  let targetAssetID ← strippedStr 1 draft.targetAssetID
  let tenant ← strippedStr 1 draft.tenant
  let licenseKeyID ← strippedStr 1 draft.licenseKeyID
  let sourceEventID ← strippedStr 1 draft.sourceEventID
  let planID ← strippedStr 1 draft.planID
  let correlationID ← strippedStr 1 draft.correlationID
  let targetComponent ← strippedOption draft.targetComponent
  let expectedEffect ← strippedStr 0 draft.expectedEffect
  let rollback ← strippedOption draft.rollback
  let assignedTo ← strippedStr 0 draft.assignedTo
  let assignedOperatorID ← strippedOption draft.assignedOperatorID
  let triggerSensorID ← strippedStr 0 draft.triggerSensorID
  pure { targetAssetID, tenant, licenseKeyID, sourceEventID, planID, correlationID, targetComponent,
         expectedEffect, rollback, assignedTo, assignedOperatorID, triggerSensorID }

/-- `CommandPayload(…)`: nothing where pydantic raises a `ValidationError`. -/
def CommandPayload.build (unicode : Unicode) (draft : CommandDraft) :
    Option (CommandPayload unicode) :=
  draft.texts.bind fun texts => (dictOf (.obj draft.parameters)).bind fun parameters =>
    if checked : (texts.targetAssetID.length ≤ 128 ∧
        identifierShape unicode texts.targetAssetID = true) ∧ 1 ≤ draft.sequence ∧
        (0 ≤ draft.deadlineSeconds ∧ draft.deadlineSeconds ≤ 604800) ∧
        within 0 1 draft.confidence = true then
      some {
        toCommandTexts := texts
        commandID := draft.commandID
        actionType := draft.actionType
        executionPriority := draft.executionPriority
        issuedAt := draft.issuedAt
        sequence := draft.sequence
        parameters := parameters
        deadlineSeconds := draft.deadlineSeconds
        expiresAt := draft.expiresAt
        requiresHumanApproval := draft.requiresHumanApproval
        escalationRequired := draft.escalationRequired
        confidence := draft.confidence
        triggerSeverity := draft.triggerSeverity
        triggerTransition := draft.triggerTransition
        contextDegraded := draft.contextDegraded
        targeted := checked.1
        ordered := checked.2.1
        bounded := checked.2.2.1
        probable := checked.2.2.2 }
    else none

theorem CommandPayload.build_some {unicode : Unicode} {draft : CommandDraft} {texts : CommandTexts}
    {held : Members} (cut : draft.texts = some texts) (kept : dictOf (.obj draft.parameters) = some held)
    (checked : (texts.targetAssetID.length ≤ 128 ∧
      identifierShape unicode texts.targetAssetID = true) ∧ 1 ≤ draft.sequence ∧
      (0 ≤ draft.deadlineSeconds ∧ draft.deadlineSeconds ≤ 604800) ∧
      within 0 1 draft.confidence = true) :
    ∃ command, CommandPayload.build unicode draft = some command := by
  unfold CommandPayload.build
  rw [cut, Option.bind_some, kept, Option.bind_some, dif_pos checked]
  exact ⟨_, rfl⟩

/-- Each string field is checked by itself. -/
theorem CommandDraft.texts_exists {draft : CommandDraft} :
    (∃ texts, draft.texts = some texts) ↔
      (∃ t, strippedStr 1 draft.targetAssetID = some t) ∧
      (∃ t, strippedStr 1 draft.tenant = some t) ∧ (∃ t, strippedStr 1 draft.licenseKeyID = some t) ∧
      (∃ t, strippedStr 1 draft.sourceEventID = some t) ∧ (∃ t, strippedStr 1 draft.planID = some t) ∧
      (∃ t, strippedStr 1 draft.correlationID = some t) ∧
      (∃ t, strippedOption draft.targetComponent = some t) ∧
      (∃ t, strippedStr 0 draft.expectedEffect = some t) ∧
      (∃ t, strippedOption draft.rollback = some t) ∧ (∃ t, strippedStr 0 draft.assignedTo = some t) ∧
      (∃ t, strippedOption draft.assignedOperatorID = some t) ∧
      ∃ t, strippedStr 0 draft.triggerSensorID = some t := by
  simp only [CommandDraft.texts, Option.bind_eq_bind, Option.pure_def, ← Option.isSome_iff_exists,
    Option.isSome_bind]
  simp only [Option.any_eq_true_iff_get, exists_prop, Option.isSome_some, and_true]

theorem strippedStr_zero (t : String) :
    strippedStr 0 (Text.ofString t) = some (stripWhitespace t) := by
  simp [strippedStr]

theorem strippedOption_map (t : Option String) : ∃ kept, strippedOption (t.map Text.ofString) =
    some kept := by
  cases t with
  | none => exact ⟨none, rfl⟩
  | some t => exact ⟨some (stripWhitespace t), by simp [strippedOption, strippedStr_zero]⟩

theorem legible_of_stripped {t : String} (kept : stripWhitespace t = t) (long : 1 ≤ t.length) :
    Legible (Text.ofString t) :=
  ⟨t, rfl, stripWhitespace_length_pos.mp (by rwa [kept])⟩

end OpenOntology.Worker
