import OpenOntology.Intercept.Mock

/-!
# The payload of the interceptor

The enriched context payload as the endpoint accepts it. Unlike the worker's reading of the same
record no text needs to be non-empty: the model strips its texts, and checks no more of them.
The prompt context is built on it, and both renderings of the context: the briefing, as a typed
value and as the document that is dumped.
-/
namespace OpenOntology.Intercept.Inbound

open Python
open Bridge (text entry)
open Worker (Severity TransitionKind orElse)

/-! ## The record -/

/-- `datetime`, with the seconds its zone is ahead of UTC where it has one. -/
structure Datetime where
  year : Nat
  month : Nat
  day : Nat
  hour : Nat
  minute : Nat
  second : Nat
  microsecond : Nat
  utcoffset : Option Int

/-- `f"{n:0{width}d}"` -/
def zeroPad (width n : Nat) : String :=
  String.ofList (List.replicate (width - (toString n).length) '0') ++ toString n

/-- The offset of a zone, its seconds only where there are some. -/
def offsetText (offset : Int) : String :=
  let seconds := offset.natAbs
  (if offset < 0 then "-" else "+") ++ zeroPad 2 (seconds / 3600) ++ ":" ++
    zeroPad 2 (seconds / 60 % 60) ++ if seconds % 60 = 0 then "" else ":" ++ zeroPad 2 (seconds % 60)

def Datetime.isoformat (moment : Datetime) : String :=
  zeroPad 4 moment.year ++ "-" ++ zeroPad 2 moment.month ++ "-" ++ zeroPad 2 moment.day ++ "T" ++
    zeroPad 2 moment.hour ++ ":" ++ zeroPad 2 moment.minute ++ ":" ++ zeroPad 2 moment.second ++
    (if moment.microsecond = 0 then "" else "." ++ zeroPad 6 moment.microsecond) ++
    (moment.utcoffset.map offsetText).getD ""

example : Datetime.isoformat ⟨2027, 3, 1, 9, 5, 0, 20, some (-19800)⟩ =
    "2027-03-01T09:05:00.000020-05:30" := by decide +kernel

structure TelemetrySnapshot extends Worker.TelemetrySnapshot where
  capturedAt : Datetime

structure Operator extends Worker.Operator where
  role : String
  shift : Option String := none
  contact : Option String := none

structure SystemNode extends Worker.SystemNode where
  nodeID : String
  type : String

structure OntologyContext where
  assetID : String
  assetName : String := ""
  assetClass : String := ""
  site : String := ""
  criticality : String := "UNKNOWN"
  parentSystems : List SystemNode := []
  components : List String := []
  assignedOperators : List Operator := []
  maintenanceWindow : Option String := none

namespace OntologyContext

def primaryOperator (context : OntologyContext) : Option Operator :=
  context.assignedOperators.minOn? fun operator => operator.escalationOrder

def escalationChain (context : OntologyContext) : List Operator :=
  context.assignedOperators.mergeSort fun a b => a.escalationOrder ≤ b.escalationOrder

def immediateParent (context : OntologyContext) : Option SystemNode :=
  context.parentSystems.minOn? fun node => node.depth

/-- `sorted(context.parent_systems, key=lambda n: n.depth)` -/
def sortedParents (context : OntologyContext) : List SystemNode :=
  context.parentSystems.mergeSort fun a b => a.depth ≤ b.depth

end OntologyContext

structure RuleTrigger where
  ruleID : String
  sensorID : String
  operator : String := ">"
  threshold : Float
  unit : Option String := none
  observedValue : Float
  exceededBy : Float := 0
  exceededPct : Float := 0

/-- The payload, its texts as they are once stripped. -/
structure EnrichedContextPayload where
  eventID : String
  assetID : String
  transition : TransitionKind
  severity : Severity
  anomalyActiveSince : Option Datetime := none
  breachCount : Int := 0
  rule : RuleTrigger
  telemetrySnapshot : TelemetrySnapshot
  ontologyContext : OntologyContext
  degraded : Bool := false
  degradedReason : Option String := none

/-- `RemediationPromptContext`; its own texts are not stripped. -/
structure RemediationPromptContext where
  payload : EnrichedContextPayload
  tenant : Text
  tier : Text
  maxCommands : Nat := 6
  allowedActions : List ActionType := defaultAllowedActions
  policyNotes : List Text := []
  commands : 1 ≤ maxCommands ∧ maxCommands ≤ 20

theorem maxCommands_default : 1 ≤ 6 ∧ 6 ≤ 20 := by decide

/-! ## The briefing -/

namespace RemediationPromptContext

variable (context : RemediationPromptContext)

/-- What `_derive_plan` reads of `briefing()`. -/
def briefing : Briefing :=
  let payload := context.payload
  let ontology := payload.ontologyContext
  { asset := {
      assetID := orElse ontology.assetID payload.assetID
      name := ontology.assetName
      site := ontology.site
      criticality := ontology.criticality
      maintenanceWindow := ontology.maintenanceWindow
      components := ontology.components
      parentSystems := ontology.sortedParents.map SystemNode.toSystemNode }
    anomaly := {
      severity := payload.severity
      transition := payload.transition
      breachCount := payload.breachCount
      sensorID := payload.rule.sensorID
      observedValue := payload.rule.observedValue
      threshold := payload.rule.threshold
      unit := payload.rule.unit
      exceededPct := payload.rule.exceededPct }
    telemetrySnapshot := payload.telemetrySnapshot.toTelemetrySnapshot
    operators := ontology.escalationChain.map Operator.toOperator
    constraints := {
      maxCommands := context.maxCommands
      allowedActions := context.allowedActions
      contextDegraded := payload.degraded } }

end RemediationPromptContext

/-- `x or None`, as a document. -/
def optionText (value : Option String) : PyJson := (value.map text).getD .null

def assetDocument (payload : EnrichedContextPayload) : PyJson :=
  let context := payload.ontologyContext
  .obj [
    entry "asset_id" (text (orElse context.assetID payload.assetID)),
    entry "name" (text context.assetName),
    entry "class" (text context.assetClass),
    entry "site" (text context.site),
    entry "criticality" (text context.criticality),
    entry "maintenance_window" (optionText context.maintenanceWindow),
    entry "components" (.arr (context.components.map text)),
    entry "parent_systems" (.arr (context.sortedParents.map fun node => .obj [
      entry "node_id" (text node.nodeID),
      entry "name" (text node.name),
      entry "type" (text node.type),
      entry "depth" (.int node.depth)]))]

def anomalyDocument (formatG : Float → String) (payload : EnrichedContextPayload) : PyJson :=
  let rule := payload.rule
  .obj [
    entry "severity" (text payload.severity.value),
    entry "transition" (text payload.transition.value),
    entry "breach_count" (.int payload.breachCount),
    entry "active_since" (optionText (payload.anomalyActiveSince.map Datetime.isoformat)),
    entry "rule_id" (text rule.ruleID),
    entry "sensor_id" (text rule.sensorID),
    entry "condition" (text (rule.sensorID ++ " " ++ rule.operator ++ " " ++ formatG rule.threshold)),
    entry "observed_value" (.float rule.observedValue),
    entry "threshold" (.float rule.threshold),
    entry "unit" (optionText rule.unit),
    entry "exceeded_by" (.float rule.exceededBy),
    entry "exceeded_pct" (.float rule.exceededPct)]

def snapshotDocument (snapshot : TelemetrySnapshot) : PyJson :=
  .obj [
    entry "captured_at" (text snapshot.capturedAt.isoformat),
    entry "complete" (.bool snapshot.complete),
    entry "readings" (.arr (snapshot.readings.map fun reading => .obj [
      entry "sensor_id" (text reading.sensorID),
      entry "value" (.float reading.value),
      entry "unit" (optionText reading.unit),
      entry "age_seconds" (.float reading.ageSeconds)]))]

def operatorDocument (operator : Operator) : PyJson :=
  .obj [
    entry "operator_id" (text operator.operatorID),
    entry "name" (text operator.name),
    entry "role" (text operator.role),
    entry "shift" (optionText operator.shift),
    entry "contact" (optionText operator.contact),
    entry "escalation_order" (.int operator.escalationOrder)]

namespace RemediationPromptContext

variable (context : RemediationPromptContext)

def constraintsDocument : PyJson :=
  .obj [
    entry "tenant" (.str context.tenant),
    entry "tier" (.str context.tier),
    entry "max_commands" (.int context.maxCommands),
    entry "allowed_actions" (.arr (context.allowedActions.map fun action => text action.value)),
    entry "context_degraded" (.bool context.payload.degraded),
    entry "degraded_reason" (optionText context.payload.degradedReason),
    entry "policy_notes" (.arr (context.policyNotes.map .str))]

/-- `briefing()`: the document that is dumped into the prompt. -/
def document (formatG : Float → String) : PyJson :=
  .obj [
    entry "event_id" (text context.payload.eventID),
    entry "asset" (assetDocument context.payload),
    entry "anomaly" (anomalyDocument formatG context.payload),
    entry "telemetry_snapshot" (snapshotDocument context.payload.telemetrySnapshot),
    entry "operators" (.arr (context.payload.ontologyContext.escalationChain.map operatorDocument)),
    entry "constraints" context.constraintsDocument]

end RemediationPromptContext

end OpenOntology.Intercept.Inbound
