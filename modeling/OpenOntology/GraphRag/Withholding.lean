import OpenOntology.GraphRag.Guardrails

/-!
# What the guardrails withhold

The plan that leaves the guardrails, rule by rule, and from it exactly when a response
carries no irreversible work.
-/
namespace OpenOntology.GraphRag

/-! ## The corrected plan -/

theorem note_eq_nil {applies : Bool} {text : String} :
    note applies text = [] ↔ applies = false := by
  unfold note
  cases applies <;> simp

theorem zipIdx_contiguous (steps : List IsolationStep) (first : Nat)
    (contiguous : steps.map IsolationStep.sequence = List.range' first steps.length) :
    ((steps.zipIdx first).map fun entry => { entry.1 with sequence := entry.2 }) = steps := by
  induction steps generalizing first with
  | nil => rfl
  | cons step rest ih =>
    rw [List.map_cons, List.length_cons, List.range'_succ, List.cons.injEq] at contiguous
    rw [List.zipIdx_cons, List.map_cons, ih (first + 1) contiguous.2, ← contiguous.1]

theorem renumber_eq_self {steps : List IsolationStep}
    (contiguous : steps.map IsolationStep.sequence = List.range' 1 steps.length) :
    renumber steps = steps := zipIdx_contiguous steps 1 contiguous

theorem renumber_all (p : IsolationStep → Bool)
    (blind : ∀ step sequence, p { step with sequence } = p step) (steps : List IsolationStep) :
    (renumber steps).all p = steps.all p := by
  unfold renumber
  generalize 1 = first
  induction steps generalizing first with
  | nil => rfl
  | cons step rest ih =>
    rw [List.zipIdx_cons, List.map_cons, List.all_cons, List.all_cons, ih, blind]

theorem mem_renumber {steps : List IsolationStep} {step : IsolationStep}
    (member : step ∈ renumber steps) :
    ∃ old ∈ steps, 1 ≤ step.sequence ∧ step = { old with sequence := step.sequence } := by
  unfold renumber at member
  obtain ⟨⟨old, index⟩, inside, rfl⟩ := List.mem_map.mp member
  obtain ⟨later, -, held⟩ := List.mem_zipIdx inside
  exact ⟨old, List.mem_of_getElem held.symm, later, rfl⟩

section
variable {settings : InterceptorSettings} {plan : StrategicActionPlan}
  {verdict : TopologyIsolationVerdict} {analysis : TopologyAnalysis} {formatG : Float → String}

/-- What the guardrails make of an accepted plan. -/
structure Enforced (settings : InterceptorSettings) (plan : StrategicActionPlan)
    (verdict : TopologyIsolationVerdict) (analysis : TopologyAnalysis) (formatG : Float → String)
    (corrected : StrategicActionPlan) : Prop where
  target : corrected.targetAssetID = verdict.rootCauseNode
  action : corrected.actionType = commandedAction settings plan verdict
  priority : corrected.executionPriority = commandedPriority settings plan verdict analysis
  steps : corrected.isolationSteps = renumber (sequencedSteps settings plan verdict)
  authorization : corrected.requiresHumanAuthorization =
    (plan.requiresHumanAuthorization ||
      (authorizationReason settings plan verdict analysis formatG).isSome)
  confidence : corrected.confidence = plan.confidence ∨
    corrected.confidence = Python.round (Python.max 0.05 (plan.confidence * 0.9)) 3

theorem enforced (accepted : plan.accepted = true) :
    Enforced settings plan verdict analysis formatG
      (enforceSafetyInvariants settings plan verdict analysis formatG).1 := by
  unfold enforceSafetyInvariants
  by_cases untouched : corrections settings plan verdict analysis formatG = []
  · rw [if_pos untouched]
    unfold corrections at untouched
    simp only [List.append_eq_nil_iff, note_eq_nil, Option.toList_eq_nil_iff, Option.map_eq_none_iff,
      decide_eq_false_iff_not, not_not, and_assoc] at untouched
    obtain ⟨target, keeps, -, unraised, unlifted, bounded, owned, unforced⟩ := untouched
    have action : commandedAction settings plan verdict = plan.actionType := by
      rw [commandedAction, if_neg (by rw [keeps]; exact Bool.noConfusion)]
    have retained : retainedSteps settings plan verdict = plan.isolationSteps := by
      rw [retainedSteps, if_neg (by rw [keeps]; exact Bool.noConfusion)]
    have priority : commandedPriority settings plan verdict analysis = plan.executionPriority := by
      rw [commandedPriority, if_neg (by rw [unlifted]; exact Bool.noConfusion), raisedPriority,
        if_neg (by rw [unraised]; exact Bool.noConfusion)]
    have steps : sequencedSteps settings plan verdict = plan.isolationSteps := by
      rw [sequencedSteps, if_neg (by rw [owned]; exact Bool.noConfusion), boundedSteps,
        List.take_of_length_le (Nat.le_of_not_gt bounded), retained]
    have contiguous : plan.isolationSteps.map IsolationStep.sequence =
        List.range' 1 plan.isolationSteps.length := by
      unfold StrategicActionPlan.accepted at accepted
      simp only [Bool.and_eq_true, beq_iff_eq] at accepted
      exact accepted.1.1.1.1.2
    refine ⟨target, action.symm, priority.symm, ?_, ?_, Or.inl rfl⟩
    · rw [steps, renumber_eq_self contiguous]
    · rw [unforced, Option.isSome_none, Bool.or_false]
  · rw [if_neg untouched]
    exact ⟨rfl, rfl, rfl, rfl, rfl, Or.inr rfl⟩

/-! ## Irreversible work -/

/-- The response commands no shutdown and has no irreversible step. -/
def CommandActionResponse.Withholds (r : CommandActionResponse) : Prop :=
  r.actionType ≠ .emergencyShutdown ∧ ∀ step ∈ r.isolationSteps, step.reversible = true

/-- What the agents said makes the guardrails withhold irreversible work: a shutdown the
isolator did not vouch for, or another action whose bounded sequence is reversible. -/
def Vouchless (settings : InterceptorSettings) (verdict : TopologyIsolationVerdict)
    (plan : StrategicActionPlan) : Prop :=
  (plan.actionType = .emergencyShutdown ∧ (verdict.irreversiblePermitted = false ∨
      verdict.crdtAssessment.graphTrust < settings.minGraphTrustForIrreversible)) ∨
    (plan.actionType ≠ .emergencyShutdown ∧
      ∀ step ∈ plan.isolationSteps.take settings.maxIsolationSteps, step.reversible = true)

theorem downgrades_iff : downgrades settings plan verdict = true ↔
    plan.actionType = .emergencyShutdown ∧ (verdict.irreversiblePermitted = false ∨
      verdict.crdtAssessment.graphTrust < settings.minGraphTrustForIrreversible) := by
  unfold downgrades untrusted ActionType.isIrreversible
  simp only [Bool.and_eq_true, Bool.or_eq_true, beq_iff_eq, Bool.not_eq_true', decide_eq_true_eq]

theorem sequencedSteps_reversible :
    (∀ step ∈ sequencedSteps settings plan verdict, step.reversible = true) ↔
      ∀ step ∈ boundedSteps settings plan verdict, step.reversible = true := by
  unfold sequencedSteps
  split
  next =>
    constructor
    · intro all step member
      exact all step (List.mem_append_left _ member)
    · intro all step member
      rcases List.mem_append.mp member with old | new
      · exact all step old
      · rw [List.mem_singleton.mp new]
        rfl
  next => exact Iff.rfl

theorem retainedSteps_reversible (downgraded : downgrades settings plan verdict = true) :
    ∀ step ∈ retainedSteps settings plan verdict, step.reversible = true := by
  unfold retainedSteps
  rw [if_pos downgraded]
  split
  next =>
    intro step member
    rw [List.mem_singleton.mp member]
    rfl
  next =>
    intro step member
    exact (List.mem_filter.mp member).2

/-- The corrected plan carries no irreversible work exactly when the answers are such
that the guardrails withhold it. -/
theorem commanded_withholds_iff :
    (commandedAction settings plan verdict ≠ .emergencyShutdown ∧
        ∀ step ∈ sequencedSteps settings plan verdict, step.reversible = true) ↔
      Vouchless settings verdict plan := by
  rw [sequencedSteps_reversible]
  unfold Vouchless commandedAction
  by_cases downgraded : downgrades settings plan verdict = true
  · rw [if_pos downgraded]
    refine ⟨fun _ => Or.inl (downgrades_iff.mp downgraded), fun _ => ⟨ActionType.noConfusion, ?_⟩⟩
    intro step member
    exact retainedSteps_reversible downgraded step (List.mem_of_mem_take member)
  · rw [if_neg downgraded]
    have bounded : boundedSteps settings plan verdict =
        plan.isolationSteps.take settings.maxIsolationSteps := by
      rw [boundedSteps, retainedSteps, if_neg downgraded]
    rw [bounded]
    constructor
    · exact Or.inr
    · rintro (vouchless | reversible)
      · exact absurd (downgrades_iff.mpr vouchless) downgraded
      · exact reversible

end

theorem run_ok {formatG : Float → String} {settings : InterceptorSettings}
    {payload : EnrichedGraphPayload} {isolator : Nat → Answer TopologyIsolationVerdict}
    {planner : TopologyIsolationVerdict → Nat → Answer StrategicActionPlan}
    {analysis : TopologyAnalysis} {verdict : TopologyIsolationVerdict} {plan : StrategicActionPlan}
    (analysed : analyseTopology formatG settings payload = .ok analysis)
    (heard : invoke TopologyIsolationVerdict.accepted (validateVerdict analysis.knownNodes) settings
      isolator = .ok verdict)
    (planned : invoke StrategicActionPlan.accepted (validatePlan analysis.knownNodes) settings
      (planner verdict) = .ok plan) :
    run formatG settings payload isolator planner =
      .ok ⟨analysis, verdict, (enforceSafetyInvariants settings plan verdict analysis formatG).1,
        (enforceSafetyInvariants settings plan verdict analysis formatG).2⟩ := by
  unfold run
  rw [analysed]
  dsimp only
  rw [heard]
  dsimp only
  rw [planned]

/-- A response to which both agents contributed leaves out irreversible work that the
kernel did not permit exactly when the kernel permitted it, or the first agent did not
vouch for the shutdown planned, or what is planned is reversible. -/
theorem withholds_iff {formatG : Float → String} {settings : InterceptorSettings}
    {payload : EnrichedGraphPayload} {isolator : Nat → Answer TopologyIsolationVerdict}
    {planner : TopologyIsolationVerdict → Nat → Answer StrategicActionPlan}
    {analysis : TopologyAnalysis} {verdict : TopologyIsolationVerdict} {plan : StrategicActionPlan}
    (analysed : analyseTopology formatG settings payload = .ok analysis)
    (heard : invoke TopologyIsolationVerdict.accepted (validateVerdict analysis.knownNodes) settings
      isolator = .ok verdict)
    (planned : invoke StrategicActionPlan.accepted (validatePlan analysis.knownNodes) settings
      (planner verdict) = .ok plan) (tenant commandID : String) :
    ∃ outcome, run formatG settings payload isolator planner = .ok outcome ∧
      ((analysis.irreversiblePermitted = false →
          (buildCommandResponse payload outcome tenant commandID).Withholds) ↔
        analysis.irreversiblePermitted = true ∨ Vouchless settings verdict plan) := by
  refine ⟨_, run_ok analysed heard planned, ?_⟩
  have spec : Enforced settings plan verdict analysis formatG _ :=
    enforced (invoke_ok _ _ planned).1
  have blind := renumber_all IsolationStep.reversible (fun _ _ => rfl)
    (sequencedSteps settings plan verdict)
  unfold CommandActionResponse.Withholds buildCommandResponse
  dsimp only
  rw [spec.action, spec.steps, ← List.all_eq_true, blind, List.all_eq_true,
    commanded_withholds_iff]
  cases analysis.irreversiblePermitted with
  | false => simp
  | true => simp

/-! ## A model that vouches for itself -/

def defaultSettings : InterceptorSettings where
  agentMaxAttempts := 3
  maxIsolationSteps := 12
  minGraphTrustForIrreversible := 0.65
  attempts := by decide
  steps := by decide
  trust := by decide +kernel

/-- A pump with no replica observations: the vertex is unobserved. -/
def unobservedPump : EnrichedGraphPayload where
  eventID := "evt_1"
  assetMetadata := { uuid := "PUMP-221", name := "Pump 221", modelNumber := "HPP-2000" }
  ontologyContext :=
    { parentSystem := "SYS-HPU-02", physicalLocation := "SITE-1", assignedOperator := "D. Okafor" }
  telemetrySnapshot := ⟨[("vibration_index", 9.9)]⟩

/-- An isolator that states full trust in the graph and permits what it pleases. -/
def boldVerdict (permitted : Bool) : TopologyIsolationVerdict where
  faultClassification := .localizedComponent
  rootCauseNode := "PUMP-221"
  rootCauseRationale := "vibration"
  severityBand := .hard
  crdtAssessment :=
    { presence := .live, tieBreakerRule := .notRequired, contested := false, highestAddStamp := 1
      highestRemoveStamp := 0, graphTrust := 1, explanation := "converged" }
  containmentHint := .emergencyShutdown
  irreversiblePermitted := permitted
  confidence := 1

def shutdownPlan : StrategicActionPlan where
  actionType := .emergencyShutdown
  targetAssetID := "PUMP-221"
  executionPriority := .critical
  isolationSteps :=
    [{ sequence := 1, actor := .controlSystem, instruction := "Trip the unit.", reversible := false
       targetComponent := "PUMP-221", verification := "Speed reads zero." }]
  rationale := "trip"
  confidence := 1

theorem unobservedPump_analysed :
    ∃ analysis, analyseTopology (fun _ => "1") defaultSettings unobservedPump = .ok analysis ∧
      analysis.irreversiblePermitted = false ∧ analysis.knownNodes = unobservedPump.knownNodes := by
  cases analysed : analyseTopology (fun _ => "1") defaultSettings unobservedPump with
  | error reason =>
    have fine : (analyseTopology (fun _ => "1") defaultSettings unobservedPump).isOk = true := by
      decide +kernel
    rw [analysed] at fine
    cases fine
  | ok analysis =>
    refine ⟨analysis, rfl, not_permitted_of_unobserved _ analysed rfl, ?_⟩
    unfold analyseTopology at analysed
    obtain ⟨crdt, -, rest⟩ := bind_ok analysed
    cases rest
    rfl

theorem bold_accepted (permitted : Bool) :
    (boldVerdict permitted).accepted = true ∧
      validateVerdict unobservedPump.knownNodes (boldVerdict permitted) = .ok () := by
  rw [validateVerdict_ok]
  cases permitted with
  | false => decide +kernel
  | true => decide +kernel

theorem shutdownPlan_accepted :
    shutdownPlan.accepted = true ∧ validatePlan unobservedPump.knownNodes shutdownPlan = .ok () := by
  rw [validatePlan_ok]
  decide +kernel

/-- The kernel permits nothing irreversible, and the response commands a shutdown because
the isolator vouched for it. -/
theorem bold_not_withheld :
    ∃ analysis outcome,
      analyseTopology (fun _ => "1") defaultSettings unobservedPump = .ok analysis ∧
      analysis.irreversiblePermitted = false ∧
      run (fun _ => "1") defaultSettings unobservedPump (fun _ => .answered (boldVerdict true))
        (fun _ _ => .answered shutdownPlan) = .ok outcome ∧
      ¬(buildCommandResponse unobservedPump outcome "acme" "cmd_1").Withholds := by
  obtain ⟨analysis, analysed, forbidden, nodes⟩ := unobservedPump_analysed
  have heard := invoke_first TopologyIsolationVerdict.accepted (validateVerdict analysis.knownNodes)
    defaultSettings (fun _ => .answered (boldVerdict true)) rfl (bold_accepted true).1
    (by rw [nodes]; exact (bold_accepted true).2)
  have planned := invoke_first StrategicActionPlan.accepted (validatePlan analysis.knownNodes)
    defaultSettings (fun _ => .answered shutdownPlan) rfl shutdownPlan_accepted.1
    (by rw [nodes]; exact shutdownPlan_accepted.2)
  refine ⟨analysis, _, analysed, forbidden, run_ok analysed heard planned, fun withheld => ?_⟩
  have spec : Enforced defaultSettings shutdownPlan (boldVerdict true) analysis (fun _ => "1") _ :=
    enforced shutdownPlan_accepted.1
  refine withheld.1 (spec.action.trans ?_)
  decide +kernel

/-- An isolator that does not vouch for the shutdown has it withheld. -/
theorem withholds_iff_modest :
    ∃ outcome, run (fun _ => "1") defaultSettings unobservedPump
        (fun _ => .answered (boldVerdict false)) (fun _ _ => .answered shutdownPlan) = .ok outcome ∧
      (buildCommandResponse unobservedPump outcome "acme" "cmd_1").Withholds := by
  obtain ⟨analysis, analysed, forbidden, nodes⟩ := unobservedPump_analysed
  have heard := invoke_first TopologyIsolationVerdict.accepted (validateVerdict analysis.knownNodes)
    defaultSettings (fun _ => .answered (boldVerdict false)) rfl (bold_accepted false).1
    (by rw [nodes]; exact (bold_accepted false).2)
  have planned := invoke_first StrategicActionPlan.accepted (validatePlan analysis.knownNodes)
    defaultSettings (fun _ => .answered shutdownPlan) rfl shutdownPlan_accepted.1
    (by rw [nodes]; exact shutdownPlan_accepted.2)
  obtain ⟨outcome, ran, withholds⟩ : ∃ outcome, run (fun _ => "1") defaultSettings unobservedPump
        (fun _ => .answered (boldVerdict false)) (fun _ _ => .answered shutdownPlan) = .ok outcome ∧
      ((analysis.irreversiblePermitted = false →
          (buildCommandResponse unobservedPump outcome "acme" "cmd_1").Withholds) ↔
        analysis.irreversiblePermitted = true ∨
          Vouchless defaultSettings (boldVerdict false) shutdownPlan) :=
    withholds_iff analysed heard planned "acme" "cmd_1"
  exact ⟨outcome, ran, withholds.mpr (Or.inr (Or.inl ⟨rfl, Or.inl rfl⟩)) forbidden⟩

end OpenOntology.GraphRag
