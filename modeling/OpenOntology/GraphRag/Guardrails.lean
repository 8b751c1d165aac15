import OpenOntology.GraphRag.Topology

/-!
# The two-agent loop and its guardrails

Each agent is asked a bounded number of times and its first answer that passes the
schema and the graph check is taken. The guardrails then correct the plan; what they
know of the graph's trust is what the first agent said of it.
-/
namespace OpenOntology.GraphRag

/-! ## The agents -/

/-- What one agent turn brings back; `malformed` is an answer that does not parse. -/
inductive Answer (α : Type) where
  | timedOut
  | transportFailure
  | malformed
  | answered (answer : α)

inductive AgentError where
  | kernelRefused (reason : String)
  | timedOut
  | transportFailure
  | structurallyInvalid
  | outsideGraph (unknown : List String)
  | missingCascadePath
  deriving DecidableEq, Repr

/-- The nodes cited outside the localised graph. -/
def unknownNodes (cited known : List String) : List String :=
  (cited.filter fun node => !known.contains node).dedup.mergeSort

def validateVerdict (knownNodes : List String) (v : TopologyIsolationVerdict) :
    Except AgentError Unit :=
  let unknown := unknownNodes (v.rootCauseNode :: (v.cascadePath ++ v.blastRadius)) knownNodes
  if unknown ≠ [] then .error (.outsideGraph unknown)
  else if v.faultClassification = .inheritedCascade ∧ v.cascadePath = [] then
    .error .missingCascadePath
  else .ok ()

def validatePlan (knownNodes : List String) (p : StrategicActionPlan) : Except AgentError Unit :=
  let unknown := unknownNodes
    (p.targetAssetID :: p.isolationSteps.map IsolationStep.targetComponent) knownNodes
  if unknown ≠ [] then .error (.outsideGraph unknown) else .ok ()

theorem unknownNodes_eq_nil {cited known : List String} :
    unknownNodes cited known = [] ↔ ∀ node ∈ cited, node ∈ known := by
  unfold unknownNodes
  rw [← List.length_eq_zero_iff, List.length_mergeSort, List.length_eq_zero_iff,
    List.dedup_eq_nil, List.filter_eq_nil_iff]
  simp

theorem validateVerdict_ok {knownNodes : List String} {v : TopologyIsolationVerdict} :
    validateVerdict knownNodes v = .ok () ↔
      (∀ node ∈ v.rootCauseNode :: (v.cascadePath ++ v.blastRadius), node ∈ knownNodes) ∧
        ¬(v.faultClassification = .inheritedCascade ∧ v.cascadePath = []) := by
  unfold validateVerdict
  dsimp only
  rw [← unknownNodes_eq_nil]
  split
  next unknown => simp [unknown]
  next known =>
    rw [not_not] at known
    split
    next missing => simp [missing]
    next complete => simp [known, complete]

theorem validatePlan_ok {knownNodes : List String} {p : StrategicActionPlan} :
    validatePlan knownNodes p = .ok () ↔
      ∀ node ∈ p.targetAssetID :: p.isolationSteps.map IsolationStep.targetComponent,
        node ∈ knownNodes := by
  unfold validatePlan
  dsimp only
  rw [← unknownNodes_eq_nil]
  split
  next unknown => simp [unknown]
  next known => simp [not_not.mp known]

section
variable {α : Type} (accepted : α → Bool) (validate : α → Except AgentError Unit)

/-- One turn: the schema first, then the graph. -/
def turn : Answer α → Except AgentError α
  | .timedOut => .error .timedOut
  | .transportFailure => .error .transportFailure
  | .malformed => .error .structurallyInvalid
  | .answered answer =>
    if accepted answer = false then .error .structurallyInvalid
    else (validate answer).map fun _ => answer

/-- The turns from one attempt on; the last error is raised when none is accepted. -/
def invokeFrom (answers : Nat → Answer α) : Nat → Nat → AgentError → Except AgentError α
  | 0, _, last => .error last
  | left + 1, attempt, _ =>
    match turn accepted validate (answers attempt) with
    | .ok answer => .ok answer
    | .error failure => invokeFrom answers left (attempt + 1) failure

def invoke (settings : InterceptorSettings) (answers : Nat → Answer α) : Except AgentError α :=
  invokeFrom accepted validate answers settings.agentMaxAttempts 1 .timedOut

theorem turn_ok {reply : Answer α} {answer : α} (taken : turn accepted validate reply = .ok answer) :
    accepted answer = true ∧ validate answer = .ok () := by
  cases reply with
  | timedOut => cases taken
  | transportFailure => cases taken
  | malformed => cases taken
  | answered given =>
    simp only [turn] at taken
    split at taken
    next => cases taken
    next schema =>
      cases checked : validate given with
      | error failure =>
        rw [checked] at taken
        cases taken
      | ok =>
        rw [checked] at taken
        cases taken
        exact ⟨Bool.eq_true_of_not_eq_false schema, checked⟩

/-- Whatever the agent says and however often it is asked, the answer taken passed both
checks. -/
theorem invoke_ok {settings : InterceptorSettings} {answers : Nat → Answer α} {answer : α}
    (taken : invoke accepted validate settings answers = .ok answer) :
    accepted answer = true ∧ validate answer = .ok () := by
  unfold invoke at taken
  generalize settings.agentMaxAttempts = left at taken
  generalize 1 = attempt at taken
  generalize AgentError.timedOut = last at taken
  induction left generalizing attempt last with
  | zero => cases taken
  | succ left ih =>
    unfold invokeFrom at taken
    split at taken
    next answer' passed =>
      cases taken
      exact turn_ok accepted validate passed
    next failure refused => exact ih _ _ taken

/-- A first answer that passes is the one taken. -/
theorem invoke_first (settings : InterceptorSettings) (answers : Nat → Answer α) {answer : α}
    (first : answers 1 = .answered answer) (schema : accepted answer = true)
    (checked : validate answer = .ok ()) : invoke accepted validate settings answers = .ok answer := by
  obtain ⟨left, attempts⟩ := Nat.exists_eq_succ_of_ne_zero (Nat.ne_of_gt settings.attempts.1)
  unfold invoke
  rw [attempts]
  unfold invokeFrom
  simp only [first, turn]
  rw [if_neg (by rw [schema]; exact Bool.noConfusion), checked]
  rfl

end

/-! ## The guardrails -/

/-- The step that holds the root cause when every planned step was irreversible. -/
def holdStep (rootCause : String) : IsolationStep where
  sequence := 1
  actor := .controlSystem
  instruction := "Hold " ++ rootCause ++ " at its documented safe-state setpoint and inhibit " ++
    "automatic recovery until the asset graph reconciles."
  targetComponent := rootCause
  verification := "Setpoint reads safe-state and the recovery inhibit is latched."
  reversible := true
  estimatedSeconds := 120
  manualReference := none

def handoverStep (sequence : Nat) (target : String) : IsolationStep where
  sequence := sequence
  actor := .humanSupervisor
  instruction := "Hand " ++ target ++ " to the accountable operator with the recorded evidence and " ++
    "the agreed next action."
  targetComponent := target
  verification := "Handover acknowledged by the accountable operator."
  reversible := true
  estimatedSeconds := 180
  manualReference := none

def renumber (steps : List IsolationStep) : List IsolationStep :=
  steps.zipIdx 1 |>.map fun entry => { entry.1 with sequence := entry.2 }

def ActionType.value : ActionType → String
  | .isolateValve => "ISOLATE_VALVE"
  | .emergencyShutdown => "EMERGENCY_SHUTDOWN"
  | .degradeThrottle => "DEGRADE_THROTTLE"

section
variable (settings : InterceptorSettings) (plan : StrategicActionPlan)
  (verdict : TopologyIsolationVerdict) (analysis : TopologyAnalysis)

/-- The isolator's trust lies below the minimum. -/
def untrusted : Bool :=
  verdict.crdtAssessment.graphTrust < settings.minGraphTrustForIrreversible

/-- Rule 2 applies: the plan is irreversible on a graph the isolator does not trust. -/
def downgrades : Bool :=
  plan.actionType.isIrreversible && (!verdict.irreversiblePermitted || untrusted settings verdict)

def commandedAction : ActionType :=
  if downgrades settings plan verdict then .degradeThrottle else plan.actionType

def droppedSteps : Nat :=
  plan.isolationSteps.length - (plan.isolationSteps.filter IsolationStep.reversible).length

/-- The steps after rule 2: a downgraded plan keeps its reversible steps, or holds. -/
def retainedSteps : List IsolationStep :=
  if downgrades settings plan verdict then
    if plan.isolationSteps.filter IsolationStep.reversible = [] then [holdStep verdict.rootCauseNode]
    else plan.isolationSteps.filter IsolationStep.reversible
  else plan.isolationSteps

/-- Rule 3 applies: an irreversible command is CRITICAL. -/
def raisesPriority : Bool :=
  (commandedAction settings plan verdict).isIrreversible && plan.executionPriority != .critical

def raisedPriority : ExecutionPriority :=
  if raisesPriority settings plan verdict then .critical else plan.executionPriority

/-- Rule 4 applies: a CRITICAL kernel severity is not planned as ROUTINE. -/
def liftsPriority : Bool :=
  analysis.priority == .critical && raisedPriority settings plan verdict == .routine

def commandedPriority : ExecutionPriority :=
  if liftsPriority settings plan verdict analysis then .high else raisedPriority settings plan verdict

/-- The steps after rule 5. -/
def boundedSteps : List IsolationStep :=
  (retainedSteps settings plan verdict).take settings.maxIsolationSteps

/-- Rule 6 applies: no step returns the asset to a human owner. -/
def unowned : Bool :=
  !(boundedSteps settings plan verdict).isEmpty &&
    !(boundedSteps settings plan verdict).any fun step => step.actor == .humanSupervisor

def sequencedSteps : List IsolationStep :=
  if unowned settings plan verdict then
    boundedSteps settings plan verdict ++
      [handoverStep ((boundedSteps settings plan verdict).length + 1) verdict.rootCauseNode]
  else boundedSteps settings plan verdict

variable (formatG : Float → String)

/-- Rule 7: why a plan that asks for no human authorisation needs it. -/
def authorizationReason : Option String :=
  if plan.requiresHumanAuthorization then none
  else if (commandedAction settings plan verdict).isIrreversible ||
      (sequencedSteps settings plan verdict).any fun step => !step.reversible then
    some "the sequence contains irreversible work"
  else if commandedPriority settings plan verdict analysis == .critical then
    some "the command is CRITICAL priority"
  else if untrusted settings verdict then
    some ("graph trust " ++ formatG verdict.crdtAssessment.graphTrust ++
      " is below the threshold for unattended execution")
  else none

def note (applies : Bool) (text : String) : List String := if applies then [text] else []

/-- The corrections, in the order of the rules. -/
def corrections : List String :=
  note (plan.targetAssetID ≠ verdict.rootCauseNode)
      ("target redirected from " ++ plan.targetAssetID ++ " to the attributed root cause " ++
        verdict.rootCauseNode) ++
    note (downgrades settings plan verdict)
      ("EMERGENCY_SHUTDOWN downgraded to DEGRADE_THROTTLE: graph trust " ++
        formatG verdict.crdtAssessment.graphTrust ++ " is below the " ++
        formatG settings.minGraphTrustForIrreversible ++ " threshold for irreversible action") ++
    note (downgrades settings plan verdict && droppedSteps plan != 0)
      (toString (droppedSteps plan) ++
        " irreversible step(s) removed from the sequence to match the downgraded action") ++
    note (raisesPriority settings plan verdict)
      "execution priority raised to CRITICAL for an irreversible command" ++
    note (liftsPriority settings plan verdict analysis)
      "execution priority raised to HIGH: the kernel scored this event CRITICAL" ++
    note ((retainedSteps settings plan verdict).length > settings.maxIsolationSteps)
      ("isolation sequence truncated from " ++
        toString (retainedSteps settings plan verdict).length ++ " to " ++
        toString settings.maxIsolationSteps ++ " steps") ++
    note (unowned settings plan verdict)
      "supervisor handover appended: no step returned the asset to a human owner" ++
    ((authorizationReason settings plan verdict analysis formatG).map
      fun reason => "human authorisation forced: " ++ reason).toList

/-- `_enforce_safety_invariants`: the corrected plan and the corrections made. -/
def enforceSafetyInvariants : StrategicActionPlan × List String :=
  if corrections settings plan verdict analysis formatG = [] then (plan, [])
  else
    ({ plan with
        targetAssetID := verdict.rootCauseNode
        actionType := commandedAction settings plan verdict
        executionPriority := commandedPriority settings plan verdict analysis
        isolationSteps := renumber (sequencedSteps settings plan verdict)
        requiresHumanAuthorization := plan.requiresHumanAuthorization ||
          (authorizationReason settings plan verdict analysis formatG).isSome
        confidence := Python.round (Python.max 0.05 (plan.confidence * 0.9)) 3 },
      corrections settings plan verdict analysis formatG)

end

/-! ## The pipeline -/

structure EngineOutcome where
  analysis : TopologyAnalysis
  verdict : TopologyIsolationVerdict
  plan : StrategicActionPlan
  guardrails : List String

section
variable (formatG : Float → String)

/-- `MultiAgentGraphEngine.run`, for the answers the agents give; the planner's may
depend on the verdict. -/
def run (settings : InterceptorSettings) (payload : EnrichedGraphPayload)
    (isolator : Nat → Answer TopologyIsolationVerdict)
    (planner : TopologyIsolationVerdict → Nat → Answer StrategicActionPlan) :
    Except AgentError EngineOutcome :=
  match analyseTopology formatG settings payload with
  | .error reason => .error (.kernelRefused reason)
  | .ok analysis =>
    match invoke TopologyIsolationVerdict.accepted (validateVerdict analysis.knownNodes) settings
        isolator with
    | .error failure => .error failure
    | .ok verdict =>
      match invoke StrategicActionPlan.accepted (validatePlan analysis.knownNodes) settings
          (planner verdict) with
      | .error failure => .error failure
      | .ok plan =>
        let (plan, guardrails) := enforceSafetyInvariants settings plan verdict analysis formatG
        .ok { analysis, verdict, plan, guardrails }

end

def buildCommandResponse (payload : EnrichedGraphPayload) (outcome : EngineOutcome)
    (tenant commandID : String) : CommandActionResponse where
  commandID := commandID
  targetAssetID := outcome.plan.targetAssetID
  actionType := outcome.plan.actionType
  isolationSteps := outcome.plan.isolationSteps
  executionPriority := outcome.plan.executionPriority
  eventID := payload.eventID
  sourceAssetID := payload.assetMetadata.uuid
  tenant := tenant
  faultClassification := outcome.verdict.faultClassification
  cascadePath := outcome.verdict.cascadePath
  blastRadius := outcome.verdict.blastRadius
  blastRadiusProtection := outcome.plan.blastRadiusProtection
  crdtAssessment := outcome.verdict.crdtAssessment
  requiresHumanAuthorization := outcome.plan.requiresHumanAuthorization
  reversible := !outcome.plan.actionType.isIrreversible &&
    outcome.plan.isolationSteps.all IsolationStep.reversible
  confidence := outcome.plan.confidence
  rationale := Python.strip (outcome.verdict.rootCauseRationale ++ " " ++ outcome.plan.rationale)
  evidence := outcome.verdict.evidence
  guardrailsApplied := outcome.guardrails

end OpenOntology.GraphRag
