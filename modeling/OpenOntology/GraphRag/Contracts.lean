import OpenOntology.Python

/-!
# Contracts of the GraphRAG interceptor

The inbound graph payload, the two agents' answers and the command response, with the
field constraints the pydantic models check. A float passes a bound unless it lies on
the wrong side of it, so a NaN passes.
-/
namespace OpenOntology.GraphRag

inductive AssetStatus where
  | operational
  | degraded
  | alarm
  | offline
  | maintenance
  | unknown
  deriving DecidableEq, Repr

def AssetStatus.isFaulted : AssetStatus → Bool
  | .degraded | .alarm | .offline => true
  | _ => false

inductive FaultClassification where
  | localizedComponent
  | inheritedCascade
  | indeterminate
  | noFaultDetected
  deriving DecidableEq, Repr

inductive ActionType where
  | isolateValve
  | emergencyShutdown
  | degradeThrottle
  deriving DecidableEq, Repr

def ActionType.isIrreversible (a : ActionType) : Bool := a == .emergencyShutdown

inductive ExecutionPriority where
  | critical
  | high
  | routine
  deriving DecidableEq, Repr

def ExecutionPriority.value : ExecutionPriority → String
  | .critical => "CRITICAL"
  | .high => "HIGH"
  | .routine => "ROUTINE"

inductive StepActor where
  | humanTechnician
  | humanSupervisor
  | roboticActuator
  | controlSystem
  deriving DecidableEq, Repr

def StepActor.value : StepActor → String
  | .humanTechnician => "HUMAN_TECHNICIAN"
  | .humanSupervisor => "HUMAN_SUPERVISOR"
  | .roboticActuator => "ROBOTIC_ACTUATOR"
  | .controlSystem => "CONTROL_SYSTEM"

inductive CRDTPresence where
  | live
  | tombstoned
  | unobserved
  deriving DecidableEq, Repr

inductive TieBreaker where
  | removedWins
  | addWins
  | notRequired
  deriving DecidableEq, Repr

inductive Band where
  | nominal
  | warn
  | critical
  | hard
  | unknown
  deriving DecidableEq, Repr

def Band.rank : Band → Nat
  | .unknown | .nominal => 0
  | .warn => 1
  | .critical => 2
  | .hard => 3

/-- `Field(ge=low, le=high)` on a float. -/
def within (low high x : Float) : Bool := !(x < low) && !(x > high)

/-- `Field(min_length=low, max_length=high)`. -/
def lengthWithin (low high : Nat) (s : String) : Bool := low ≤ s.length && s.length ≤ high

/-! ## Settings -/

structure InterceptorSettings where
  agentMaxAttempts : Nat
  maxIsolationSteps : Nat
  minGraphTrustForIrreversible : Float
  attempts : 1 ≤ agentMaxAttempts ∧ agentMaxAttempts ≤ 5
  steps : 3 ≤ maxIsolationSteps ∧ maxIsolationSteps ≤ 40
  trust : within 0 1 minGraphTrustForIrreversible = true

/-! ## The inbound payload -/

structure AssetMetadata where
  uuid : String
  name : String
  modelNumber : String
  currentStatus : AssetStatus := .unknown

structure ReplicaObservation where
  replicaID : String
  addStamp : Nat := 0
  removeStamp : Nat := 0

/-- An equal pair of stamps is a tie, and a tie is not liveness. -/
def ReplicaObservation.localPresence (o : ReplicaObservation) : CRDTPresence :=
  if o.addStamp = 0 ∧ o.removeStamp = 0 then .unobserved
  else if o.addStamp > o.removeStamp then .live
  else .tombstoned

/-- The topology around the asset; upstream dependencies are ordered nearest first. -/
structure OntologyContext where
  parentSystem : String
  physicalLocation : String
  upstreamDependencies : List String := []
  downstreamImpacts : List String := []
  assignedOperator : String
  dependencyHealth : List (String × AssetStatus) := []
  replicaObservations : List ReplicaObservation := []

def OntologyContext.health (c : OntologyContext) (node : String) : Option AssetStatus :=
  c.dependencyHealth.lookup node

def OntologyContext.neighbourIds (c : OntologyContext) : List String :=
  c.parentSystem :: (c.upstreamDependencies ++ c.downstreamImpacts)

def channelSeparator : String := "::"

/-- The channels in the order the snapshot carries them. -/
structure TelemetrySnapshot where
  channels : List (String × Float)

namespace TelemetrySnapshot

def localChannels (t : TelemetrySnapshot) : List (String × Float) :=
  t.channels.filter fun entry => (Python.partition channelSeparator entry.1).isNone

/-- The channels attributed to one neighbour node; a later reading of a channel
replaces an earlier one. -/
def attributedChannels (t : TelemetrySnapshot) (node : String) : List (String × Float) :=
  t.channels.foldl (fun attributed entry =>
    match Python.partition channelSeparator entry.1 with
    | none => attributed
    | some (owner, channel) =>
      let channel := Python.strip channel
      if Python.strip owner ≠ node ∨ node = "" ∨ channel = "" then attributed
      else if attributed.any fun held => held.1 == channel then
        attributed.map fun held => if held.1 = channel then (channel, entry.2) else held
      else attributed ++ [(channel, entry.2)]) []

def get (t : TelemetrySnapshot) (channel : String) : Option Float := t.channels.lookup channel

end TelemetrySnapshot

structure EnrichedGraphPayload where
  eventID : String
  assetMetadata : AssetMetadata
  ontologyContext : OntologyContext
  telemetrySnapshot : TelemetrySnapshot
  degraded : Bool := false

def EnrichedGraphPayload.knownNodes (p : EnrichedGraphPayload) : List String :=
  p.assetMetadata.uuid :: p.ontologyContext.neighbourIds

/-! ## The agents' answers -/

structure CRDTAssessment where
  presence : CRDTPresence
  tieBreakerRule : TieBreaker
  contested : Bool
  highestAddStamp : Nat
  highestRemoveStamp : Nat
  divergingReplicas : List String := []
  collisionRate : Float := 0
  graphTrust : Float
  explanation : String

def CRDTAssessment.accepted (a : CRDTAssessment) : Bool :=
  !(a.collisionRate < 0) && within 0 1 a.graphTrust && lengthWithin 1 1200 a.explanation

/-- The first agent's answer. -/
structure TopologyIsolationVerdict where
  faultClassification : FaultClassification
  rootCauseNode : String
  rootCauseRationale : String
  cascadePath : List String := []
  localizedComponents : List String := []
  blastRadius : List String := []
  severityBand : Band
  crdtAssessment : CRDTAssessment
  containmentHint : ActionType
  irreversiblePermitted : Bool
  confidence : Float
  evidence : List String := []

def TopologyIsolationVerdict.accepted (v : TopologyIsolationVerdict) : Bool :=
  lengthWithin 1 128 v.rootCauseNode && lengthWithin 1 2000 v.rootCauseRationale &&
    v.cascadePath.length ≤ 64 && v.localizedComponents.length ≤ 64 &&
    v.blastRadius.length ≤ 128 && v.crdtAssessment.accepted && within 0 1 v.confidence &&
    v.evidence.length ≤ 64

structure IsolationStep where
  sequence : Nat
  actor : StepActor
  instruction : String
  targetComponent : String
  verification : String
  reversible : Bool := true
  estimatedSeconds : Nat := 120
  manualReference : Option String := none

def IsolationStep.accepted (s : IsolationStep) : Bool :=
  1 ≤ s.sequence && lengthWithin 8 600 s.instruction && lengthWithin 1 128 s.targetComponent &&
    lengthWithin 4 400 s.verification && s.estimatedSeconds ≤ 86400 &&
    s.manualReference.all (lengthWithin 0 160)

/-- The second agent's answer. -/
structure StrategicActionPlan where
  actionType : ActionType
  targetAssetID : String
  executionPriority : ExecutionPriority
  isolationSteps : List IsolationStep
  blastRadiusProtection : List String := []
  requiresHumanAuthorization : Bool := true
  rationale : String
  manualReferences : List String := []
  confidence : Float

def StrategicActionPlan.accepted (p : StrategicActionPlan) : Bool :=
  lengthWithin 1 128 p.targetAssetID && 1 ≤ p.isolationSteps.length &&
    p.isolationSteps.length ≤ 40 && p.isolationSteps.all IsolationStep.accepted &&
    p.isolationSteps.map IsolationStep.sequence == List.range' 1 p.isolationSteps.length &&
    p.blastRadiusProtection.length ≤ 64 && lengthWithin 1 2000 p.rationale &&
    p.manualReferences.length ≤ 32 && within 0 1 p.confidence

/-! ## The response -/

structure CommandActionResponse where
  commandID : String
  targetAssetID : String
  actionType : ActionType
  isolationSteps : List IsolationStep
  executionPriority : ExecutionPriority
  eventID : String
  sourceAssetID : String
  tenant : String
  faultClassification : FaultClassification
  cascadePath : List String
  blastRadius : List String
  blastRadiusProtection : List String
  crdtAssessment : CRDTAssessment
  requiresHumanAuthorization : Bool
  reversible : Bool
  confidence : Float
  rationale : String
  evidence : List String
  guardrailsApplied : List String

end OpenOntology.GraphRag
