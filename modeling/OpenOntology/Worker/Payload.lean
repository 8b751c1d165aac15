import OpenOntology.Worker.Translate

/-!
# The enriched context payload

What the planners of the two services read of a mutation beside its envelope: the rule that
fired, the telemetry around it, and the asset's place in the ontology. Both services read
these parts of the record alike.
-/
namespace OpenOntology.Worker

structure SensorReading where
  sensorID : String
  value : Float
  unit : Option String
  ageSeconds : Float

structure TelemetrySnapshot where
  readings : List SensorReading
  complete : Bool

structure Operator where
  operatorID : String
  name : String
  escalationOrder : Int

structure SystemNode where
  name : String
  depth : Int

structure OntologyContext where
  assetID : String
  assetName : String
  site : String
  criticality : String
  parentSystems : List SystemNode
  components : List String
  assignedOperators : List Operator
  maintenanceWindow : Option String

namespace OntologyContext

/-- The first operator of the lowest order. -/
def primaryOperator (context : OntologyContext) : Option Operator :=
  context.assignedOperators.minOn? Operator.escalationOrder

def escalationChain (context : OntologyContext) : List Operator :=
  context.assignedOperators.mergeSort fun a b => a.escalationOrder ≤ b.escalationOrder

def immediateParent (context : OntologyContext) : Option SystemNode :=
  context.parentSystems.minOn? SystemNode.depth

end OntologyContext

/-- The rule that fired; its sensor is in the envelope. -/
structure RuleTrigger where
  ruleID : String
  threshold : Float
  unit : Option String
  observedValue : Float
  exceededPct : Float

/-- The parts of the payload the envelope leaves out. -/
structure PayloadContext where
  breachCount : Int
  rule : RuleTrigger
  telemetrySnapshot : TelemetrySnapshot
  ontologyContext : OntologyContext

structure EnrichedContextPayload extends MutationEnvelope, PayloadContext

/-- `a or b` on strings. -/
def orElse (a b : String) : String := if a = "" then b else a

def Severity.value : Severity → String
  | .info => "INFO"
  | .high => "HIGH"
  | .critical => "CRITICAL"

def TransitionKind.value : TransitionKind → String
  | .raised => "RAISED"
  | .escalated => "ESCALATED"
  | .sustained => "SUSTAINED"
  | .cleared => "CLEARED"

end OpenOntology.Worker
