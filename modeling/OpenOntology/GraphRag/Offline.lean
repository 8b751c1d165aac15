import OpenOntology.GraphRag.Manual
import OpenOntology.GraphRag.Invariants
import OpenOntology.Library.Firsts

/-!
# The offline reasoning client

The backend that answers both agents' frames as a rule engine: the first answer restates
the kernel's analysis, the second composes a plan from the retrieved chunks. Both read the
briefing only.
-/
namespace OpenOntology.GraphRag

def AssetStatus.value : AssetStatus → String
  | .operational => "OPERATIONAL"
  | .degraded => "DEGRADED"
  | .alarm => "ALARM"
  | .offline => "OFFLINE"
  | .maintenance => "MAINTENANCE"
  | .unknown => "UNKNOWN"

def Band.value : Band → String
  | .nominal => "NOMINAL"
  | .warn => "WARN"
  | .critical => "CRITICAL"
  | .hard => "HARD"
  | .unknown => "UNKNOWN"

/-- `_summarise`, with its limit of four. -/
def summarise (nodes : List String) (empty : String) : String :=
  if nodes = [] then empty
  else if nodes.length > 4 then
    ", ".intercalate (nodes.take 4) ++ " and " ++ toString (nodes.length - 4) ++ " more"
  else ", ".intercalate (nodes.take 4)

section
variable (formatG : Float → String)

def Exceedance.describe (e : Exceedance) : String :=
  match e.limit with
  | none => e.node ++ ":" ++ e.channel ++ "=" ++ formatG e.value ++ " (no limit configured)"
  | some limit =>
    e.node ++ ":" ++ e.channel ++ "=" ++ formatG e.value ++ limit.unit ++ " [" ++ e.band.value ++
      "; warn " ++ formatG limit.warn ++ " / crit " ++ formatG limit.critical ++ " / hard " ++
      formatG limit.hard ++ "]"

/-! ## The briefing -/

/-- The grounding both agents are handed: the analysis, and the texts beside it. -/
structure TopologyBriefing where
  analysis : TopologyAnalysis
  assetName : String
  parentSystem : String
  physicalLocation : String
  upstreamChain : List String
  physicalExceedances : List Exceedance
  evidence : List String

/-- Why a neighbour is taken to be faulting. -/
def faultReasons (payload : EnrichedGraphPayload) (node : String) : List String :=
  (match payload.ontologyContext.health node with
    | some status =>
      if status.isFaulted then [node ++ " reports status " ++ status.value] else []
    | none => []) ++
    ((evaluateChannels (payload.telemetrySnapshot.attributedChannels node) node).filter fun item =>
      item.physical && item.band.rank ≥ Band.critical.rank).map (Exceedance.describe formatG)

def attributionEvidence (analysis : TopologyAnalysis) (physical : List Exceedance) : String :=
  match analysis.classification with
  | .inheritedCascade =>
    "cascade traced " ++ " -> ".intercalate analysis.cascadePath ++
      "; intervening nodes are symptomatic, not causal"
  | .localizedComponent =>
    "no upstream node is faulting; the breach is contained to " ++ analysis.assetID ++ " (" ++
      (let breached := (physical.filter fun item => item.band.rank ≥ 1).map
        (Exceedance.describe formatG)
      if ", ".intercalate breached = "" then "nominal" else ", ".intercalate breached) ++ ")"
  | .indeterminate =>
    "no physical limit is breached, but the replicated topology is not trustworthy; " ++
      "attribution cannot be completed from this payload"
  | .noFaultDetected => "all channels nominal and the topology has converged"

/-- `to_briefing` of an analysis of the payload. -/
def toBriefing (payload : EnrichedGraphPayload) (analysis : TopologyAnalysis) : TopologyBriefing :=
  let scored := evaluateChannels payload.telemetrySnapshot.localChannels payload.assetMetadata.uuid
  let physical := scored.filter Exceedance.physical
  let integrity := scored.filter fun item => !item.physical
  { analysis
    assetName := payload.assetMetadata.name
    parentSystem := payload.ontologyContext.parentSystem
    physicalLocation := payload.ontologyContext.physicalLocation
    upstreamChain := payload.ontologyContext.upstreamDependencies
    physicalExceedances := physical
    evidence := Library.firsts some
      (analysis.faultedUpstream.flatMap (faultReasons formatG payload) ++
        [attributionEvidence formatG analysis physical, analysis.crdt.explanation] ++
        (physical.take 6).map (Exceedance.describe formatG) ++
        (integrity.take 3).map (Exceedance.describe formatG)) }

/-! ## The first agent -/

def breachSummary (b : TopologyBriefing) : String :=
  let breached := (b.physicalExceedances.filter fun item =>
    item.band.rank ≥ Band.warn.rank).take 4
  let text := "; ".intercalate (breached.map fun item =>
    item.channel ++ " at " ++ formatG item.value ++
      ((item.limit.map ChannelLimit.unit).getD "") ++ " (" ++ item.band.value ++ ")")
  if text = "" then "no physical limit breached" else text

def rootCauseRationale (b : TopologyBriefing) : String :=
  let asset := b.analysis.assetID
  let root := b.analysis.rootCauseNode
  match b.analysis.classification with
  | .inheritedCascade =>
    "Walking the upstream chain nearest-first, " ++
      summarise b.analysis.faultedUpstream "no node" ++
      " is faulting; the furthest faulting node " ++
      root ++ " is therefore the origin and every node between it and " ++ asset ++
      " is symptomatic. The reporting asset shows " ++ breachSummary formatG b ++ ", which is " ++
      "consistent with an inherited disturbance rather than an independent failure. " ++
      "Intervention belongs at " ++ root ++ ", not at " ++ asset ++ "."
  | .localizedComponent =>
    "No node in the upstream chain (" ++ summarise b.upstreamChain "none declared" ++
      ") reports a fault or breaches an attributed limit, so the disturbance did not arrive " ++
      "from upstream. " ++ asset ++ " itself shows " ++ breachSummary formatG b ++
      ", which contains the fault to the reporting asset and its components (" ++
      summarise b.analysis.localizedComponents "unspecified" ++ ")."
  | .indeterminate =>
    "No physical limit is breached on " ++ asset ++ " and no upstream node is faulting, but the " ++
      "replicated topology cannot be trusted at " ++ formatG b.analysis.crdt.graphTrust ++ ": " ++
      b.analysis.crdt.explanation ++ " Attribution is withheld rather than guessed, and no " ++
      "irreversible action is permitted on this vertex until the graph reconciles."
  | .noFaultDetected =>
    "All channels on " ++ asset ++ " are within their warn limits and the vertex has converged (" ++
      b.analysis.crdt.explanation ++ "). The mutation is recorded but no fault is attributable."

/-- `_topology_verdict`: what the kernel derived, as the first agent's answer. -/
def topologyVerdict (b : TopologyBriefing) : TopologyIsolationVerdict where
  faultClassification := b.analysis.classification
  rootCauseNode := b.analysis.rootCauseNode
  rootCauseRationale := rootCauseRationale formatG b
  cascadePath := b.analysis.cascadePath
  localizedComponents := b.analysis.localizedComponents
  blastRadius := b.analysis.blastRadius
  severityBand := b.analysis.severityBand
  crdtAssessment := b.analysis.crdt
  containmentHint := b.analysis.recommendedAction
  irreversiblePermitted := b.analysis.irreversiblePermitted
  confidence := b.analysis.confidence
  evidence := b.evidence.take 24

/-! ## The second agent -/

structure ActionBriefing where
  verdict : TopologyIsolationVerdict
  topology : TopologyBriefing
  assignedOperator : String
  modelNumber : String
  guidelines : List ManualChunk
  maxIsolationSteps : Nat

namespace ActionBriefing
variable (b : ActionBriefing)

def target : String := b.verdict.rootCauseNode

def action : ActionType := b.verdict.containmentHint

def graphTrust : Float := b.verdict.crdtAssessment.graphTrust

/-- The nodes to protect: the verdict's, or the kernel's where it names none. -/
def downstream : List String :=
  if b.verdict.blastRadius = [] then b.topology.analysis.blastRadius else b.verdict.blastRadius

def context : List (String × String) :=
  let asset := b.topology.analysis.assetID
  [("target", b.target),
    ("target_name", if b.target = asset then b.topology.assetName else b.target),
    ("asset", asset),
    ("asset_name", b.topology.assetName),
    ("parent", b.topology.parentSystem),
    ("location", b.topology.physicalLocation),
    ("operator", b.assignedOperator),
    ("downstream_summary", summarise b.downstream "no downstream consumers"),
    ("downstream_count", toString b.downstream.length),
    ("cascade_summary", if b.verdict.cascadePath = [] then b.target ++ " -> " ++ asset
      else " -> ".intercalate b.verdict.cascadePath),
    ("model_number", b.modelNumber)]

def reference (chunk : ManualChunk) : String := chunk.source ++ " (" ++ chunk.docID ++ ")"

/-- One step of a procedure, rendered; it is numbered once the sequence is assembled. -/
def renderStep (chunk : ManualChunk) (step : ProcedureStep) : IsolationStep where
  sequence := 0
  actor := step.actor
  instruction := render step.instruction b.context
  targetComponent := b.target
  verification := render step.verification b.context
  reversible := step.reversible
  estimatedSeconds := step.estimatedSeconds
  manualReference := some (reference chunk)

def stepsFrom (chunk : ManualChunk) : List IsolationStep := chunk.procedure.map (b.renderStep chunk)

/-- The step planned when no retrieved procedure leads. -/
def uncoveredStep : IsolationStep where
  sequence := 0
  actor := .controlSystem
  instruction := render [.text "Hold ", .field "target_name", .text " (", .field "target",
    .text (") at its documented safe-state setpoint; no retrieved procedure covers this " ++
      "combination of fault and asset family.")] b.context
  targetComponent := b.target
  verification := "Setpoint reads safe-state and is latched against recovery."
  reversible := true
  estimatedSeconds := 120
  manualReference := none

def lead : Option ManualChunk := b.guidelines.find? fun chunk => chunk.leads b.action

def supplement (tag : String) : Option ManualChunk :=
  b.guidelines.find? fun chunk => chunk.supplements tag

/-- The graph is reconciled first when it is contested, diverging or little trusted. -/
def crdtChunk : Option ManualChunk :=
  if b.verdict.crdtAssessment.contested || !b.verdict.crdtAssessment.divergingReplicas.isEmpty ||
      b.graphTrust < 0.75 then b.supplement "crdt"
  else none

/-- The blast radius is protected before the supply is interrupted. -/
def blastChunk : Option ManualChunk :=
  if b.downstream.isEmpty then none else b.supplement "downstream"

/-- The isolation is proved mechanically. -/
def lotoChunk : Option ManualChunk :=
  if b.action == .isolateValve || b.action == .emergencyShutdown then b.supplement "loto" else none

def closureChunk : Option ManualChunk := b.supplement "closure"

/-- The sequence before its closure, however long. -/
def assembled : List IsolationStep :=
  b.crdtChunk.toList.flatMap b.stepsFrom ++ b.blastChunk.toList.flatMap b.stepsFrom ++
    (match b.lead with
      | some chunk => b.stepsFrom chunk
      | none => [b.uncoveredStep]) ++
    b.lotoChunk.toList.flatMap b.stepsFrom

def closure : List IsolationStep := b.closureChunk.toList.flatMap b.stepsFrom

def cited : List ManualChunk :=
  b.crdtChunk.toList ++ b.blastChunk.toList ++ b.lead.toList ++ b.lotoChunk.toList ++
    b.closureChunk.toList

/-- What is left for the steps before the closure. -/
def budget : Nat := Nat.max 1 (b.maxIsolationSteps - b.closure.length)

/-- The middle is truncated rather than the closure. -/
def sequenced : List IsolationStep := b.assembled.take b.budget ++ b.closure

def protection : List String :=
  (b.downstream.take 6).map (fun node =>
      node ++ " transferred to standby feed or reduced load before the isolation lands") ++
    (if b.downstream.length > 6 then
      [toString (b.downstream.length - 6) ++
        " further downstream node(s) covered by the same transfer"] else []) ++
    (if b.downstream = [] then ["No downstream consumers are exposed by this action"] else []) ++
    (if b.verdict.cascadePath = [] then [] else
      ["Cascade path " ++ " -> ".intercalate b.verdict.cascadePath ++
        " re-walked after isolation to catch independent faults"])

def requiresAuthorization : Bool :=
  b.action.isIrreversible || b.topology.analysis.priority == .critical || b.graphTrust < 0.75 ||
    b.sequenced.any fun step => !step.reversible

def rationale : String :=
  let consumers := toString b.downstream.length
  (match b.verdict.faultClassification with
    | .inheritedCascade =>
      "The isolator attributed this to " ++ b.target ++ " upstream of the reporting asset " ++
        b.topology.analysis.assetID ++ ", so " ++ b.action.value ++ " lands on the origin; " ++
        "isolating " ++ b.topology.analysis.assetID ++ " would remove the symptom and leave the " ++
        "source live. " ++ consumers ++ " downstream node(s) are protected before the supply is " ++
        "interrupted."
    | .indeterminate =>
      "Attribution is incomplete and graph trust is " ++ formatG b.graphTrust ++ ", so the plan " ++
        "is limited to the reversible " ++ b.action.value ++ " on " ++ b.target ++
        " plus a forced " ++
        "reconciliation. No irreversible field action is authorised until the vertex resolves."
    | _ =>
      "The fault is contained to " ++ b.target ++ ", so " ++ b.action.value ++ " is applied " ++
        "locally at " ++ b.topology.physicalLocation ++ " after stabilising the asset and " ++
        "protecting " ++ consumers ++ " downstream node(s).") ++
    (match b.lead with
      | some chunk => " Procedure grounded in " ++ chunk.source ++ "."
      | none => "")

def confidence : Float :=
  let confidence := b.verdict.confidence * (if b.lead.isSome then 1.0 else 0.7)
  let confidence := if b.graphTrust < 0.75 then confidence * 0.9 else confidence
  Python.round (Python.max 0.05 (Python.min 1.0 confidence)) 3

/-- `_action_plan`. -/
def actionPlan : StrategicActionPlan where
  actionType := b.action
  targetAssetID := b.target
  executionPriority := b.topology.analysis.priority
  isolationSteps := renumber b.sequenced
  blastRadiusProtection := b.protection
  requiresHumanAuthorization := b.requiresAuthorization
  rationale := b.rationale formatG
  manualReferences := Library.firsts some (b.cited.map ManualChunk.docID)
  confidence := b.confidence

end ActionBriefing
end
end OpenOntology.GraphRag
