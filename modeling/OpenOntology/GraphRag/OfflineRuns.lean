import OpenOntology.GraphRag.OfflinePlans

/-!
# The offline pipeline

`run` with the offline client behind both agents and the manual behind the planner: what
leaves the pipeline is what the kernel recommended.
-/
namespace OpenOntology.GraphRag

section
variable {α : Type} {accepted : α → Bool} {validate : α → Except AgentError Unit}

/-- An agent that always answers the same is heard or refused at its first turn. -/
theorem invoke_constant (settings : InterceptorSettings) (answer : α) :
    invoke accepted validate settings (fun _ => .answered answer) =
      turn accepted validate (.answered answer) := by
  obtain ⟨left, attempts⟩ := Nat.exists_eq_succ_of_ne_zero (Nat.ne_of_gt settings.attempts.1)
  unfold invoke
  rw [attempts, invokeFrom]
  cases first : turn accepted validate (.answered answer) with
  | ok heard => rfl
  | error failure =>
    dsimp only
    generalize 1 + 1 = attempt
    clear attempts
    induction left generalizing attempt with
    | zero => rfl
    | succ left ih =>
      rw [invokeFrom, first]
      exact ih (attempt + 1)

theorem turn_answered {answer : α} (passes : validate answer = .ok ()) :
    turn accepted validate (.answered answer) =
      if accepted answer = true then .ok answer else .error .structurallyInvalid := by
  simp only [turn, passes]
  cases accepted answer <;> rfl

end

/-! ## The pipeline -/

section
variable (formatG : Float → String) (settings : InterceptorSettings) (texts : TextModel)
  (corpus : List ManualChunk) (topK : Nat) (payload : EnrichedGraphPayload)

/-- What the planner is briefed with after the retrieval. -/
def actionBriefing (analysis : TopologyAnalysis) (verdict : TopologyIsolationVerdict) :
    ActionBriefing where
  verdict := verdict
  topology := toBriefing formatG payload analysis
  assignedOperator := payload.ontologyContext.assignedOperator
  modelNumber := payload.assetMetadata.modelNumber
  guidelines := (retrieve texts corpus topK payload verdict).map Prod.fst
  maxIsolationSteps := settings.maxIsolationSteps

/-- The engine over the offline client. -/
def runOffline : Except AgentError EngineOutcome :=
  match analyseTopology formatG settings payload with
  | .error reason => .error (.kernelRefused reason)
  | .ok analysis =>
    run formatG settings payload
      (fun _ => .answered (topologyVerdict formatG (toBriefing formatG payload analysis)))
      (fun verdict _ => .answered
        ((actionBriefing formatG settings texts corpus topK payload analysis verdict).actionPlan
          formatG))

end

section
variable {formatG : Float → String} {settings : InterceptorSettings} {texts : TextModel}
  {corpus : List ManualChunk} {topK : Nat} {payload : EnrichedGraphPayload}
  {analysis : TopologyAnalysis} {b : ActionBriefing}

/-! ## The kernel's part -/

theorem analyse_known (analysed : analyseTopology formatG settings payload = .ok analysis) :
    analysis.knownNodes = payload.knownNodes := by
  unfold analyseTopology at analysed
  obtain ⟨crdt, -, rest⟩ := bind_ok analysed
  cases rest
  rfl

theorem analyse_critical (analysed : analyseTopology formatG settings payload = .ok analysis)
    (shutdown : analysis.recommendedAction = .emergencyShutdown) : analysis.priority = .critical := by
  unfold analyseTopology at analysed
  obtain ⟨crdt, -, rest⟩ := bind_ok analysed
  cases rest
  have breach := chosen_shutdown shutdown
  exact beq_iff_eq.mp (Bool.and_eq_true_iff.mp breach).2

/-- The offline verdict names nodes of the graph only. -/
theorem topologyVerdict_validates (valid : payload.Valid)
    (analysed : analyseTopology formatG settings payload = .ok analysis) :
    validateVerdict analysis.knownNodes (topologyVerdict formatG (toBriefing formatG payload analysis)) =
      .ok () := by
  have attribution := attribution_of_analysed valid analysed
  rw [validateVerdict_ok, analyse_known analysed]
  refine ⟨fun node cited => attribution.named node ?_, fun ⟨cascade, pathless⟩ => ?_⟩
  · change node ∈ analysis.rootCauseNode :: (analysis.cascadePath ++ analysis.blastRadius) at cited
    simp only [List.mem_cons, List.mem_append] at cited ⊢
    tauto
  · obtain ⟨before, after, -, -, -, path⟩ := attribution.origin cascade
    change analysis.cascadePath = [] at pathless
    rw [path] at pathless
    simp at pathless

/-- The offline planner targets the root cause, in every step. -/
theorem actionPlan_validates {known : List String} (inside : b.target ∈ known) :
    validatePlan known (b.actionPlan formatG) = .ok () := by
  rw [validatePlan_ok]
  intro node cited
  rcases List.mem_cons.mp cited with rfl | step_target
  · exact inside
  · obtain ⟨step, member, rfl⟩ := List.mem_map.mp step_target
    obtain ⟨old, sequenced, -, same⟩ := mem_renumber member
    rw [same]
    change old.targetComponent ∈ known
    rw [(ActionBriefing.grounded_sequenced sequenced).target]
    exact inside

/-! ## The guardrails' part -/

/-- The briefing carries the kernel's own reading of a shutdown. -/
structure ActionBriefing.Kernel (b : ActionBriefing) (settings : InterceptorSettings) : Prop where
  steps : b.maxIsolationSteps = settings.maxIsolationSteps
  permitted : b.action = .emergencyShutdown → b.verdict.irreversiblePermitted = true ∧
    untrusted settings b.verdict = false
  critical : b.action = .emergencyShutdown → b.topology.analysis.priority = .critical

namespace ActionBriefing.Kernel

theorem keeps (kernel : b.Kernel settings) :
    downgrades settings (b.actionPlan formatG) b.verdict = false := by
  rw [Bool.eq_false_iff]
  intro downgraded
  obtain ⟨shutdown, doubted⟩ := downgrades_iff.mp downgraded
  obtain ⟨permitted, trusted⟩ := kernel.permitted shutdown
  rcases doubted with forbidden | distrusted
  · rw [permitted] at forbidden
    cases forbidden
  · unfold untrusted at trusted
    rw [decide_eq_false_iff_not] at trusted
    exact trusted distrusted

theorem action (kernel : b.Kernel settings) :
    commandedAction settings (b.actionPlan formatG) b.verdict = b.action := by
  unfold commandedAction
  rw [kernel.keeps, if_neg Bool.false_ne_true]
  rfl

theorem retained (kernel : b.Kernel settings) :
    retainedSteps settings (b.actionPlan formatG) b.verdict = renumber b.sequenced := by
  unfold retainedSteps
  rw [kernel.keeps, if_neg Bool.false_ne_true]
  rfl

theorem unraised (kernel : b.Kernel settings) :
    raisesPriority settings (b.actionPlan formatG) b.verdict = false := by
  unfold raisesPriority
  rw [kernel.action, Bool.and_eq_false_imp]
  intro irreversible
  have critical := kernel.critical (beq_iff_eq.mp irreversible)
  change (b.topology.analysis.priority != .critical) = false
  rw [critical]
  rfl

theorem priority (kernel : b.Kernel settings) :
    raisedPriority settings (b.actionPlan formatG) b.verdict = b.topology.analysis.priority := by
  unfold raisedPriority
  rw [kernel.unraised, if_neg Bool.false_ne_true]
  rfl

theorem unlifted (kernel : b.Kernel settings) :
    liftsPriority settings (b.actionPlan formatG) b.verdict b.topology.analysis = false := by
  unfold liftsPriority
  rw [kernel.priority]
  cases b.topology.analysis.priority <;> rfl

theorem commandedPriority (kernel : b.Kernel settings) :
    commandedPriority settings (b.actionPlan formatG) b.verdict b.topology.analysis =
      b.topology.analysis.priority := by
  unfold GraphRag.commandedPriority
  rw [kernel.unlifted, if_neg Bool.false_ne_true, kernel.priority]

theorem bounded (kernel : b.Kernel settings)
    (room : b.closure.length < settings.maxIsolationSteps) :
    boundedSteps settings (b.actionPlan formatG) b.verdict = renumber b.sequenced := by
  unfold boundedSteps
  rw [kernel.retained, List.take_of_length_le]
  rw [renumber_length, ← kernel.steps]
  rw [← kernel.steps] at room
  exact ActionBriefing.sequenced_length_le room

theorem unowned_eq (kernel : b.Kernel settings)
    (room : b.closure.length < settings.maxIsolationSteps) (some_step : b.sequenced ≠ []) :
    unowned settings (b.actionPlan formatG) b.verdict =
      b.sequenced.all fun step => step.actor != .humanSupervisor := by
  unfold unowned
  rw [kernel.bounded room, List.not_any_eq_all_not]
  have blind := renumber_all (fun step => !(step.actor == .humanSupervisor)) (fun _ _ => rfl)
    b.sequenced
  have filled : (renumber b.sequenced).isEmpty = false := by
    rw [List.isEmpty_eq_false_iff]
    intro empty
    have none_left := renumber_length b.sequenced
    rw [empty, List.length_nil] at none_left
    exact some_step (List.length_eq_zero_iff.mp none_left.symm)
  rw [filled, blind]
  rfl

/-- The plan asks for an authorisation whenever rule 7 would force one for the work or
the priority; what is left is a trust between the planner's bar and a higher minimum. -/
theorem reason (kernel : b.Kernel settings)
    (room : b.closure.length < settings.maxIsolationSteps) :
    authorizationReason settings (b.actionPlan formatG) b.verdict b.topology.analysis formatG =
      if !b.requiresAuthorization && untrusted settings b.verdict then
        some ("graph trust " ++ formatG b.graphTrust ++
          " is below the threshold for unattended execution")
      else none := by
  unfold authorizationReason
  change (if b.requiresAuthorization = true then _ else _) = _
  cases asked : b.requiresAuthorization with
  | true => rfl
  | false =>
    rw [if_neg Bool.false_ne_true, Bool.not_false, Bool.true_and]
    unfold ActionBriefing.requiresAuthorization at asked
    simp only [Bool.or_eq_false_iff] at asked
    obtain ⟨⟨⟨reversible, uncritical⟩, -⟩, steps⟩ := asked
    have sequence : (sequencedSteps settings (b.actionPlan formatG) b.verdict).any
        (fun step => !step.reversible) = false := by
      have blind := renumber_all IsolationStep.reversible (fun _ _ => rfl) b.sequenced
      have all_reversible : b.sequenced.all IsolationStep.reversible = true := by
        rw [List.all_eq_not_any_not, steps]
        rfl
      unfold sequencedSteps
      rw [kernel.bounded room, List.any_eq_not_all_not]
      simp only [Bool.not_not]
      split
      next => rw [List.all_append, blind, all_reversible]; rfl
      next => rw [blind, all_reversible]; rfl
    rw [kernel.action, reversible, sequence, Bool.or_false, if_neg Bool.false_ne_true,
      kernel.commandedPriority, uncritical, if_neg Bool.false_ne_true]
    rfl

end ActionBriefing.Kernel

/-- What the guardrails find to correct in an offline plan: a sequence without a supervisor,
and a trust between the planner's bar and a higher minimum. -/
theorem corrections_offline (kernel : b.Kernel settings)
    (room : b.closure.length < settings.maxIsolationSteps) (some_step : b.sequenced ≠ []) :
    corrections settings (b.actionPlan formatG) b.verdict b.topology.analysis formatG =
      note (b.sequenced.all fun step => step.actor != .humanSupervisor)
          "supervisor handover appended: no step returned the asset to a human owner" ++
        note (!b.requiresAuthorization && untrusted settings b.verdict)
          ("human authorisation forced: graph trust " ++ formatG b.graphTrust ++
            " is below the threshold for unattended execution") := by
  have fits : (retainedSteps settings (b.actionPlan formatG) b.verdict).length ≤
      settings.maxIsolationSteps := by
    rw [kernel.retained, renumber_length, ← kernel.steps]
    rw [← kernel.steps] at room
    exact ActionBriefing.sequenced_length_le room
  have aimed : decide ((b.actionPlan formatG).targetAssetID ≠ b.verdict.rootCauseNode) = false :=
    decide_eq_false (not_not.mpr rfl)
  unfold corrections
  rw [aimed, kernel.keeps, kernel.unraised, kernel.unlifted, kernel.unowned_eq room some_step,
    kernel.reason room, decide_eq_false (Nat.not_lt.mpr fits)]
  cases !b.requiresAuthorization && untrusted settings b.verdict with
  | true =>
    have forced : "human authorisation forced: " ++ "graph trust " =
        "human authorisation forced: graph trust " := by decide
    simp only [note, Bool.false_eq_true, if_false, if_true, Bool.false_and, List.nil_append,
      Option.map_some, Option.toList_some, ← forced, String.append_assoc]
  | false => simp [note]

/-- A step that leaves the pipeline: a planned one, renumbered, or the handover. -/
theorem mem_enforced {step : IsolationStep} (kernel : b.Kernel settings)
    (room : b.closure.length < settings.maxIsolationSteps)
    (accepted : (b.actionPlan formatG).accepted = true)
    (member : step ∈ (enforceSafetyInvariants settings (b.actionPlan formatG) b.verdict
      b.topology.analysis formatG).1.isolationSteps) :
    ∃ old, (b.Grounded old ∨ ∃ sequence, old = handoverStep sequence b.verdict.rootCauseNode) ∧
      step = { old with sequence := step.sequence } := by
  have spec : Enforced settings (b.actionPlan formatG) b.verdict b.topology.analysis formatG _ :=
    enforced accepted
  rw [spec.steps] at member
  obtain ⟨kept, inside, -, same⟩ := mem_renumber member
  have planned : kept ∈ renumber b.sequenced ∨
      ∃ sequence, kept = handoverStep sequence b.verdict.rootCauseNode := by
    unfold sequencedSteps at inside
    rw [kernel.bounded room] at inside
    split at inside
    next =>
      rcases List.mem_append.mp inside with old | new
      · exact Or.inl old
      · exact Or.inr ⟨_, List.mem_singleton.mp new⟩
    next => exact Or.inl inside
  rcases planned with old | handover
  · obtain ⟨first, sequenced, -, renumbered⟩ := mem_renumber old
    refine ⟨first, Or.inl (ActionBriefing.grounded_sequenced sequenced), ?_⟩
    rw [same, renumbered]
  · exact ⟨kept, Or.inr handover, same⟩

/-! ## The whole pipeline -/

/-- What the engine makes of a payload offline, whatever was retrieved from the manual. -/
structure OfflineOutcome (formatG : Float → String) (settings : InterceptorSettings)
    (payload : EnrichedGraphPayload) (b : ActionBriefing) (outcome : EngineOutcome) : Prop where
  verdict : outcome.verdict = topologyVerdict formatG (toBriefing formatG payload outcome.analysis)
  target : outcome.plan.targetAssetID = outcome.analysis.rootCauseNode ∧
    ∀ step ∈ outcome.plan.isolationSteps, step.targetComponent = outcome.analysis.rootCauseNode
  action : outcome.plan.actionType = outcome.analysis.recommendedAction
  priority : outcome.plan.executionPriority = outcome.analysis.priority
  reversible : ∀ tenant commandID, (buildCommandResponse payload outcome tenant commandID).reversible =
    true ↔ outcome.analysis.recommendedAction ≠ .emergencyShutdown
  grounded : ∀ step ∈ outcome.plan.isolationSteps, ∃ old, (b.Grounded old ∨
    ∃ sequence, old = handoverStep sequence outcome.analysis.rootCauseNode) ∧
      step = { old with sequence := step.sequence }
  guardrails : outcome.guardrails =
    note (b.sequenced.all fun step => step.actor != .humanSupervisor)
        "supervisor handover appended: no step returned the asset to a human owner" ++
      note (!b.requiresAuthorization && untrusted settings outcome.verdict)
        ("human authorisation forced: graph trust " ++
          formatG outcome.analysis.crdt.graphTrust ++
          " is below the threshold for unattended execution")
  guarded : (∃ chunk ∈ b.guidelines, chunk.supplements "closure" = true) →
    Guarded settings outcome.verdict outcome.analysis outcome.plan

theorem actionBriefing_kernel
    (analysed : analyseTopology formatG settings payload = .ok analysis) :
    (actionBriefing formatG settings texts corpus topK payload analysis
      (topologyVerdict formatG (toBriefing formatG payload analysis))).Kernel settings := by
  refine ⟨rfl, fun shutdown => ?_, analyse_critical analysed⟩
  have permitted := (analyse_shutdown analysed shutdown).1
  exact ⟨permitted, decide_eq_false
    ((analyse_cautious formatG analysed).1.permitted.mp permitted).1⟩

/-- An accepted offline plan, over a manual that keeps irreversible work to shutdowns and
closes shortly. -/
theorem offlineOutcome_of (analysed : analyseTopology formatG settings payload = .ok analysis)
    (prudent : ∀ chunk ∈ corpus, chunk.Prudent) (closes : ∀ chunk ∈ corpus, chunk.Closes)
    (briefed : b = actionBriefing formatG settings texts corpus topK payload analysis
      (topologyVerdict formatG (toBriefing formatG payload analysis)))
    (accepted : (b.actionPlan formatG).accepted = true) :
    OfflineOutcome formatG settings payload b ⟨analysis, b.verdict,
      (enforceSafetyInvariants settings (b.actionPlan formatG) b.verdict analysis formatG).1,
      (enforceSafetyInvariants settings (b.actionPlan formatG) b.verdict analysis formatG).2⟩ := by
  have kernel : b.Kernel settings := briefed ▸ actionBriefing_kernel analysed
  have topology : b.topology.analysis = analysis := by rw [briefed]; rfl
  have verdict : b.verdict = topologyVerdict formatG (toBriefing formatG payload analysis) := by
    rw [briefed]; rfl
  have root : b.verdict.rootCauseNode = analysis.rootCauseNode := by rw [verdict]; rfl
  have drawn : ∀ chunk ∈ b.guidelines, chunk ∈ corpus := by
    intro chunk inside
    rw [briefed] at inside
    obtain ⟨hit, held, rfl⟩ := List.mem_map.mp inside
    exact mem_corpus_of_retrieved _ _ _ held
  have short := ActionBriefing.closure_length_le fun chunk inside => closes chunk (drawn chunk inside)
  have room : b.closure.length < settings.maxIsolationSteps := by
    have least := settings.steps.1
    omega
  have some_step : b.sequenced ≠ [] := by
    intro none_left
    have planned : (b.actionPlan formatG).isolationSteps ≠ [] := steps_ne_nil accepted
    exact planned (congrArg renumber none_left)
  have spec : Enforced settings (b.actionPlan formatG) b.verdict analysis formatG _ :=
    enforced accepted
  have action : b.action = analysis.recommendedAction := by
    rw [ActionBriefing.action, verdict]; rfl
  have steps : ∀ step ∈ (enforceSafetyInvariants settings (b.actionPlan formatG) b.verdict analysis
      formatG).1.isolationSteps, ∃ old, (b.Grounded old ∨
        ∃ sequence, old = handoverStep sequence analysis.rootCauseNode) ∧
          step = { old with sequence := step.sequence } := by
    rw [← root, ← topology]
    exact fun step => mem_enforced kernel room accepted
  exact {
    verdict := verdict
    target := by
      refine ⟨spec.target.trans root, fun step member => ?_⟩
      obtain ⟨old, grounded | ⟨sequence, rfl⟩, same⟩ := steps step member
      · rw [same]
        exact grounded.target.trans root
      · rw [same]
        rfl
    action := by rw [spec.action, kernel.action, action]
    priority := by
      have priority := @ActionBriefing.Kernel.commandedPriority formatG _ _ kernel
      rw [topology] at priority
      exact spec.priority.trans priority
    reversible := by
      intro tenant commandID
      unfold buildCommandResponse
      dsimp only
      rw [spec.action, kernel.action, action, Bool.and_eq_true]
      constructor
      · rintro ⟨other, -⟩ shutdown
        rw [shutdown] at other
        cases other
      · intro other
        refine ⟨?_, List.all_eq_true.mpr fun step member => ?_⟩
        · unfold ActionType.isIrreversible
          simpa using other
        · obtain ⟨old, grounded | ⟨sequence, rfl⟩, same⟩ := steps step member
          · have kept : old.reversible = true := ActionBriefing.reversible_of_prudent
              (fun chunk inside => prudent chunk (drawn chunk inside)) (action ▸ other) grounded
            rw [same]
            exact kept
          · rw [same]
            rfl
    grounded := steps
    guardrails := by
      have corrected := @corrections_offline formatG _ _ kernel room some_step
      rw [topology] at corrected
      unfold enforceSafetyInvariants
      have trust : b.graphTrust = analysis.crdt.graphTrust := by
        rw [ActionBriefing.graphTrust, verdict]; rfl
      dsimp only
      rw [← trust, ← corrected]
      split
      next none_left => exact none_left.symm
      next => rfl
    guarded := by
      intro retrieved
      refine guarded_of_length accepted ?_
      obtain ⟨-, step, closing, supervisor⟩ := ActionBriefing.closed_of_closes
        (fun chunk inside => closes chunk (drawn chunk inside)) retrieved
      have owned : (b.sequenced.all fun step => step.actor != .humanSupervisor) = false := by
        rw [List.all_eq_false]
        exact ⟨step, List.mem_append_right _ closing, by simp [supervisor]⟩
      rw [sequencedSteps_length, kernel.unowned_eq room some_step, owned]
      exact List.length_take_le _ _ }

/-- Offline, a validated payload is refused by the kernel, or by a bound of the agents' own
schema, never for what the answers say of the graph; and what leaves the pipeline is the
kernel's recommendation, on its root cause, with the steps of the manual. -/
theorem offline_outcome (formatG : Float → String) (settings : InterceptorSettings)
    (texts : TextModel) (topK : Nat) (payload : EnrichedGraphPayload)
    (validated : payload.Validated) :
    (∀ failure, runOffline formatG settings texts maintenanceCorpus topK payload = .error failure →
      (∃ reason, failure = .kernelRefused reason) ∨ failure = .structurallyInvalid) ∧
    ∀ outcome, runOffline formatG settings texts maintenanceCorpus topK payload = .ok outcome →
      analyseTopology formatG settings payload = .ok outcome.analysis ∧
        OfflineOutcome formatG settings payload
          (actionBriefing formatG settings texts maintenanceCorpus topK payload outcome.analysis
            outcome.verdict) outcome := by
  unfold runOffline
  cases analysed : analyseTopology formatG settings payload with
  | error reason =>
    refine ⟨fun failure failed => Or.inl ⟨reason, ?_⟩, fun _ => (nomatch ·)⟩
    exact (Except.error.inj failed).symm
  | ok analysis =>
    have known := analyse_known analysed
    have attribution := attribution_of_analysed validated.valid analysed
    have verdict_valid := topologyVerdict_validates validated.valid analysed
    unfold run
    rw [analysed]
    dsimp only
    rw [invoke_constant, turn_answered verdict_valid]
    by_cases schema : (topologyVerdict formatG (toBriefing formatG payload analysis)).accepted = true
    · rw [if_pos schema]
      dsimp only
      have aimed : (actionBriefing formatG settings texts maintenanceCorpus topK payload analysis
          (topologyVerdict formatG (toBriefing formatG payload analysis))).target ∈
            analysis.knownNodes := known ▸ attribution.named _ List.mem_cons_self
      have plan_valid := @actionPlan_validates formatG _ _ aimed
      rw [invoke_constant, turn_answered plan_valid]
      by_cases accepted : ((actionBriefing formatG settings texts maintenanceCorpus topK payload
          analysis (topologyVerdict formatG (toBriefing formatG payload analysis))).actionPlan
            formatG).accepted = true
      · rw [if_pos accepted]
        refine ⟨fun _ => (nomatch ·), fun outcome done => ?_⟩
        rw [← Except.ok.inj done]
        exact ⟨rfl, offlineOutcome_of analysed maintenanceCorpus_prudent maintenanceCorpus_closes rfl
          accepted⟩
      · rw [if_neg accepted]
        exact ⟨fun _ failed => Or.inr (Except.error.inj failed).symm, fun _ => (nomatch ·)⟩
    · rw [if_neg schema]
      exact ⟨fun _ failed => Or.inr (Except.error.inj failed).symm, fun _ => (nomatch ·)⟩

end

/-- Every document of the manual scores alike. -/
def evenTexts : TextModel where
  tokenize _ := []
  similarity _ _ := 1
  upper := id

theorem offline_outcome_fed :
    (∀ failure, runOffline (fun _ => "0.25") defaultSettings evenTexts maintenanceCorpus 4
        (fedPump 0.25).validated = .error failure →
      (∃ reason, failure = .kernelRefused reason) ∨ failure = .structurallyInvalid) ∧
    ∀ outcome, runOffline (fun _ => "0.25") defaultSettings evenTexts maintenanceCorpus 4
        (fedPump 0.25).validated = .ok outcome →
      analyseTopology (fun _ => "0.25") defaultSettings (fedPump 0.25).validated =
          .ok outcome.analysis ∧
        OfflineOutcome (fun _ => "0.25") defaultSettings (fedPump 0.25).validated
          (actionBriefing (fun _ => "0.25") defaultSettings evenTexts maintenanceCorpus 4
            (fedPump 0.25).validated outcome.analysis outcome.verdict) outcome :=
  offline_outcome _ _ _ _ _ fedPump_validated.1

/-! ## What leads the plan -/

theorem supplementary_of_leads {chunk : ManualChunk} {action : ActionType}
    (leads : chunk.leads action = true) : chunk.supplementary = false := by
  unfold ManualChunk.leads at leads
  simpa using (Bool.and_eq_true_iff.mp leads).1

/-- The procedure that leads the offline plan is the best-scoring one retrieved that is
applicable; and without one, every applicable procedure of the manual scored nothing, or
was outscored by as many others as the search returns. -/
theorem lead_best (formatG : Float → String) (settings : InterceptorSettings) (texts : TextModel)
    (topK : Nat) (payload : EnrichedGraphPayload) (analysis : TopologyAnalysis)
    (verdict : TopologyIsolationVerdict) :
    Retrieved texts maintenanceCorpus topK payload verdict
        (retrieve texts maintenanceCorpus topK payload verdict) ∧
      match (actionBriefing formatG settings texts maintenanceCorpus topK payload analysis
          verdict).lead with
      | some chunk => ∃ score, (chunk, score) ∈ retrieve texts maintenanceCorpus topK payload verdict ∧
          ∀ hit ∈ retrieve texts maintenanceCorpus topK payload verdict,
            hit.1.leads verdict.containmentHint = true → ¬hit.2 > score
      | none => ∀ hit, Admitted texts maintenanceCorpus (primaryQuery payload verdict)
          { modelFamily := payload.assetMetadata.modelFamily texts
            action := some verdict.containmentHint
            classification := some verdict.faultClassification } false hit →
          hit.1.leads verdict.containmentHint = true →
          (primarySearch texts maintenanceCorpus topK payload verdict).length = topK ∧
            ∀ kept ∈ primarySearch texts maintenanceCorpus topK payload verdict, ¬hit.2 > kept.2 := by
  have spec : Retrieved texts maintenanceCorpus topK payload verdict _ := retrieved topK payload verdict
  refine ⟨spec, ?_⟩
  have led : (actionBriefing formatG settings texts maintenanceCorpus topK payload analysis
      verdict).lead = ((retrieve texts maintenanceCorpus topK payload verdict).map Prod.fst).find?
        fun chunk => chunk.leads verdict.containmentHint := rfl
  rw [led, List.find?_map]
  cases found : (retrieve texts maintenanceCorpus topK payload verdict).find?
      ((fun chunk => chunk.leads verdict.containmentHint) ∘ Prod.fst) with
  | some first =>
    obtain ⟨leads, before, after, split, earlier⟩ := List.find?_eq_some_iff_append.mp found
    refine ⟨first.2, List.mem_of_find?_eq_some found, fun hit inside applicable => ?_⟩
    have ranked := spec.ranked
    rw [split] at inside ranked
    rcases List.mem_append.mp inside with passed | later
    · have skipped := earlier hit passed
      rw [Function.comp_apply, applicable] at skipped
      cases skipped
    · rcases List.mem_cons.mp later with rfl | behind
      · exact Library.Binary64.not_lt_self _
      · refine List.rel_of_pairwise_cons (List.pairwise_append.mp ranked).2.1 behind ?_
        rw [supplementary_of_leads leads, supplementary_of_leads applicable]
  | none =>
    intro hit admitted applicable
    have primary : Searched texts maintenanceCorpus _ topK _ _
        (primarySearch texts maintenanceCorpus topK payload verdict) := search_spec
    refine primary.best hit admitted fun inside => ?_
    obtain ⟨kept, held, document, -⟩ := spec.best hit (Or.inl inside)
    -- the document of the hit is retrieved, so its chunk would lead
    have same : kept.1 = hit.1 := List.inj_on_of_nodup_map maintenanceCorpus_distinct
      (mem_corpus_of_retrieved _ _ _ held) admitted.1 document
    refine List.find?_eq_none.mp found kept held ?_
    rw [Function.comp_apply, same]
    exact applicable

end OpenOntology.GraphRag
