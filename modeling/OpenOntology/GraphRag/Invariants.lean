import OpenOntology.GraphRag.Withholding

/-!
# The guardrail invariants

What every plan that leaves the guardrails satisfies, and the one place where a later
rule undoes an earlier one: the handover of rule 6 is appended to the sequence that
rule 5 has cut.
-/
namespace OpenOntology.GraphRag

section
variable {settings : InterceptorSettings} {plan : StrategicActionPlan}
  {verdict : TopologyIsolationVerdict} {analysis : TopologyAnalysis} {formatG : Float → String}

/-- The seven invariants of a plan. -/
structure Guarded (settings : InterceptorSettings) (verdict : TopologyIsolationVerdict)
    (analysis : TopologyAnalysis) (plan : StrategicActionPlan) : Prop where
  contiguous : plan.isolationSteps.map IsolationStep.sequence =
    List.range' 1 plan.isolationSteps.length
  bounded : plan.isolationSteps.length ≤ settings.maxIsolationSteps
  owned : ∃ step ∈ plan.isolationSteps, step.actor = .humanSupervisor
  target : plan.targetAssetID = verdict.rootCauseNode
  critical : plan.actionType.isIrreversible = true → plan.executionPriority = .critical
  lifted : analysis.priority = .critical → plan.executionPriority ≠ .routine
  authorized : (∃ step ∈ plan.isolationSteps, step.reversible = false) ∨
    plan.executionPriority = .critical ∨ untrusted settings verdict = true →
      plan.requiresHumanAuthorization = true

/-! ## The length of the sequence -/

/-- The steps the plan carries into rule 5. -/
def carriedSteps (settings : InterceptorSettings) (plan : StrategicActionPlan)
    (verdict : TopologyIsolationVerdict) : List IsolationStep :=
  if downgrades settings plan verdict then plan.isolationSteps.filter IsolationStep.reversible
  else plan.isolationSteps

/-- The carried steps fill the sequence, and none of those kept is a supervisor's. -/
def Overflows (settings : InterceptorSettings) (plan : StrategicActionPlan)
    (verdict : TopologyIsolationVerdict) : Prop :=
  settings.maxIsolationSteps ≤ (carriedSteps settings plan verdict).length ∧
    ∀ step ∈ (carriedSteps settings plan verdict).take settings.maxIsolationSteps,
      step.actor ≠ .humanSupervisor

theorem steps_ne_nil (accepted : plan.accepted = true) : plan.isolationSteps ≠ [] := by
  unfold StrategicActionPlan.accepted at accepted
  simp only [Bool.and_eq_true, decide_eq_true_eq] at accepted
  exact List.ne_nil_of_length_pos accepted.1.1.1.1.1.1.1.2

theorem retainedSteps_eq_carried (some_left : carriedSteps settings plan verdict ≠ []) :
    retainedSteps settings plan verdict = carriedSteps settings plan verdict := by
  unfold retainedSteps carriedSteps at *
  by_cases downgraded : downgrades settings plan verdict = true
  · rw [if_pos downgraded] at some_left ⊢
    rw [if_neg some_left, if_pos downgraded]
  · rw [if_neg downgraded, if_neg downgraded]

/-- When no planned step is left, the sequence is the step that holds the root cause. -/
theorem retainedSteps_eq_hold (accepted : plan.accepted = true)
    (none_left : carriedSteps settings plan verdict = []) :
    retainedSteps settings plan verdict = [holdStep verdict.rootCauseNode] := by
  unfold retainedSteps carriedSteps at *
  by_cases downgraded : downgrades settings plan verdict = true
  · rw [if_pos downgraded] at none_left ⊢
    rw [if_pos none_left]
  · rw [if_neg downgraded] at none_left
    exact absurd none_left (steps_ne_nil accepted)

theorem boundedSteps_ne_nil (accepted : plan.accepted = true) :
    boundedSteps settings plan verdict ≠ [] := by
  have room : settings.maxIsolationSteps ≠ 0 := by
    have := settings.steps.1
    omega
  have retained : retainedSteps settings plan verdict ≠ [] := by
    by_cases none_left : carriedSteps settings plan verdict = []
    · rw [retainedSteps_eq_hold accepted none_left]
      exact List.cons_ne_nil _ _
    · rwa [retainedSteps_eq_carried none_left]
  unfold boundedSteps
  simp [room, retained]

theorem unowned_iff (accepted : plan.accepted = true) : unowned settings plan verdict = true ↔
    ∀ step ∈ boundedSteps settings plan verdict, step.actor ≠ .humanSupervisor := by
  unfold unowned
  simp [boundedSteps_ne_nil accepted]

theorem sequencedSteps_length : (sequencedSteps settings plan verdict).length =
    (boundedSteps settings plan verdict).length +
      if unowned settings plan verdict then 1 else 0 := by
  unfold sequencedSteps
  split <;> simp

/-- The sequence keeps its bound unless the handover is appended to a full one. -/
theorem sequencedSteps_length_le_iff (accepted : plan.accepted = true) :
    (sequencedSteps settings plan verdict).length ≤ settings.maxIsolationSteps ↔
      ¬Overflows settings plan verdict := by
  have room := settings.steps.1
  rw [sequencedSteps_length]
  by_cases none_left : carriedSteps settings plan verdict = []
  · have held : (boundedSteps settings plan verdict).length ≤ 1 := by
      rw [boundedSteps, retainedSteps_eq_hold accepted none_left]
      simp
    have fits : ¬Overflows settings plan verdict := by
      intro overflows
      have full := overflows.1
      rw [none_left, List.length_nil] at full
      omega
    refine iff_of_true ?_ fits
    split <;> omega
  · have bounded : boundedSteps settings plan verdict =
        (carriedSteps settings plan verdict).take settings.maxIsolationSteps := by
      rw [boundedSteps, retainedSteps_eq_carried none_left]
    unfold Overflows
    rw [← bounded, ← unowned_iff accepted, bounded, List.length_take]
    split
    next lonely =>
      simp only [lonely, and_true]
      omega
    next owned =>
      simp only [owned, Bool.false_eq_true, and_false, not_false_eq_true, iff_true]
      omega

/-! ## The corrected plan -/

theorem renumber_length (steps : List IsolationStep) : (renumber steps).length = steps.length := by
  unfold renumber
  simp

theorem renumber_contiguous (steps : List IsolationStep) :
    (renumber steps).map IsolationStep.sequence = List.range' 1 (renumber steps).length := by
  rw [renumber_length, ← List.zipIdx_map_snd]
  unfold renumber
  rw [List.map_map]
  rfl

theorem sequencedSteps_owned (accepted : plan.accepted = true) :
    ∃ step ∈ sequencedSteps settings plan verdict, step.actor = .humanSupervisor := by
  unfold sequencedSteps
  by_cases lonely : unowned settings plan verdict = true
  · rw [if_pos lonely]
    exact ⟨_, List.mem_append_right _ (List.mem_singleton_self _), rfl⟩
  · rw [if_neg lonely]
    have owned := mt (unowned_iff accepted).mpr lonely
    push Not at owned
    exact owned

theorem commandedPriority_of_irreversible
    (irreversible : (commandedAction settings plan verdict).isIrreversible = true) :
    commandedPriority settings plan verdict analysis = .critical := by
  have raised : raisedPriority settings plan verdict = .critical := by
    unfold raisedPriority raisesPriority
    rw [irreversible, Bool.true_and]
    split
    next => rfl
    next kept => simpa using kept
  unfold commandedPriority liftsPriority
  rw [raised]
  simp

theorem commandedPriority_lifted (scored : analysis.priority = .critical) :
    commandedPriority settings plan verdict analysis ≠ .routine := by
  unfold commandedPriority liftsPriority
  rw [scored]
  split
  next => exact ExecutionPriority.noConfusion
  next kept => simpa using kept

/-- Rule 7 names a reason whenever there is one. -/
theorem authorizationReason_isSome (unasked : plan.requiresHumanAuthorization = false)
    (needed : (∃ step ∈ sequencedSteps settings plan verdict, step.reversible = false) ∨
      commandedPriority settings plan verdict analysis = .critical ∨
        untrusted settings verdict = true) :
    (authorizationReason settings plan verdict analysis formatG).isSome = true := by
  unfold authorizationReason
  rw [if_neg (by rw [unasked]; exact Bool.noConfusion)]
  split
  next => rfl
  next reversible =>
    split
    next => rfl
    next uncritical =>
      split
      next => rfl
      next trusted =>
        rcases needed with ⟨step, member, irreversible⟩ | critical | distrusted
        · refine absurd ?_ reversible
          rw [Bool.or_eq_true, List.any_eq_true]
          exact Or.inr ⟨step, member, by rw [irreversible]; rfl⟩
        · exact absurd (beq_iff_eq.mpr critical) uncritical
        · exact absurd distrusted trusted

/-- Every invariant but the bound holds of every corrected plan; the bound is that of the
sequence. -/
theorem guarded_of_length (accepted : plan.accepted = true)
    (bounded : (sequencedSteps settings plan verdict).length ≤ settings.maxIsolationSteps) :
    Guarded settings verdict analysis
      (enforceSafetyInvariants settings plan verdict analysis formatG).1 := by
  have spec : Enforced settings plan verdict analysis formatG _ := enforced accepted
  refine ⟨?_, ?_, ?_, spec.target, ?_, ?_, ?_⟩
  · rw [spec.steps]
    exact renumber_contiguous _
  · rwa [spec.steps, renumber_length]
  · have blind := renumber_all (fun step => step.actor != .humanSupervisor) (fun _ _ => rfl)
      (sequencedSteps settings plan verdict)
    have owned : ∃ step ∈ sequencedSteps settings plan verdict, step.actor = .humanSupervisor :=
      sequencedSteps_owned accepted
    obtain ⟨step, member, supervised⟩ := owned
    rw [spec.steps]
    by_contra lonely
    push Not at lonely
    have every := List.all_eq_true.mp (blind.symm.trans (List.all_eq_true.mpr fun step member =>
      bne_iff_ne.mpr (lonely step member))) step member
    exact bne_iff_ne.mp every supervised
  · rw [spec.action, spec.priority]
    exact commandedPriority_of_irreversible
  · rw [spec.priority]
    exact commandedPriority_lifted
  · rw [spec.authorization, spec.priority, spec.steps]
    intro needed
    cases asked : plan.requiresHumanAuthorization with
    | true => rfl
    | false =>
      rw [Bool.false_or]
      refine authorizationReason_isSome asked (needed.imp_left ?_)
      rintro ⟨step, member, irreversible⟩
      obtain ⟨old, inside, -, numbered⟩ := mem_renumber member
      refine ⟨old, inside, ?_⟩
      rw [numbered] at irreversible
      exact irreversible

/-! ## The guardrails applied to their own result -/

/-- A plan that has every invariant, and whose action stands, is left as it is. -/
theorem corrections_of_guarded (guarded : Guarded settings verdict analysis plan)
    (stands : downgrades settings plan verdict = false) :
    corrections settings plan verdict analysis formatG = [] := by
  have kept : ¬downgrades settings plan verdict = true := by
    rw [stands]
    exact Bool.noConfusion
  have action : commandedAction settings plan verdict = plan.actionType := if_neg kept
  have retained : retainedSteps settings plan verdict = plan.isolationSteps := if_neg kept
  have bounded : boundedSteps settings plan verdict = plan.isolationSteps := by
    rw [boundedSteps, retained, List.take_of_length_le guarded.bounded]
  have owned : unowned settings plan verdict = false := by
    obtain ⟨step, member, supervised⟩ := guarded.owned
    unfold unowned
    have supervises : (plan.isolationSteps.any fun step => step.actor == .humanSupervisor) = true :=
      List.any_eq_true.mpr ⟨step, member, beq_iff_eq.mpr supervised⟩
    rw [bounded, supervises]
    exact Bool.and_false _
  have sequenced : sequencedSteps settings plan verdict = plan.isolationSteps := by
    rw [sequencedSteps, if_neg (by rw [owned]; exact Bool.noConfusion), bounded]
  have unraised : raisesPriority settings plan verdict = false := by
    unfold raisesPriority
    rw [action, Bool.and_eq_false_imp]
    intro irreversible
    rw [guarded.critical irreversible]
    rfl
  have priority : raisedPriority settings plan verdict = plan.executionPriority := by
    rw [raisedPriority, if_neg (by rw [unraised]; exact Bool.noConfusion)]
  have unlifted : liftsPriority settings plan verdict analysis = false := by
    unfold liftsPriority
    rw [priority, Bool.and_eq_false_imp]
    intro scored
    exact beq_eq_false_iff_ne.mpr (guarded.lifted (beq_iff_eq.mp scored))
  have commanded : commandedPriority settings plan verdict analysis = plan.executionPriority := by
    rw [commandedPriority, if_neg (by rw [unlifted]; exact Bool.noConfusion), priority]
  have unforced : authorizationReason settings plan verdict analysis formatG = none := by
    unfold authorizationReason
    rw [action, sequenced, commanded]
    split
    next => rfl
    next unasked =>
      have free := mt guarded.authorized unasked
      push Not at free
      obtain ⟨reversible, uncritical, trusted⟩ := free
      have nominal : plan.actionType.isIrreversible = false :=
        Bool.eq_false_iff.mpr fun irreversible => uncritical (guarded.critical irreversible)
      have whole : (plan.isolationSteps.any fun step => !step.reversible) = false := by
        rw [List.any_eq_false]
        intro step member
        simpa using reversible step member
      rw [nominal, whole, beq_eq_false_iff_ne.mpr uncritical, Bool.eq_false_iff.mpr trusted]
      rfl
  unfold corrections
  rw [stands, unraised, unlifted, owned, unforced, retained]
  simp [note, guarded.target, guarded.bounded]

/-- For every accepted plan, whatever the verdict and the analysis: the corrected plan has
every invariant and the guardrails leave it as it is, exactly when the handover does not
meet a full sequence. -/
theorem guarded_iff (accepted : plan.accepted = true) :
    (Guarded settings verdict analysis
        (enforceSafetyInvariants settings plan verdict analysis formatG).1 ∧
      enforceSafetyInvariants settings
          (enforceSafetyInvariants settings plan verdict analysis formatG).1 verdict analysis formatG =
        ((enforceSafetyInvariants settings plan verdict analysis formatG).1, [])) ↔
      ¬Overflows settings plan verdict := by
  have spec : Enforced settings plan verdict analysis formatG _ := enforced accepted
  rw [← sequencedSteps_length_le_iff accepted]
  constructor
  · rintro ⟨guarded, -⟩
    have bounded := guarded.bounded
    rwa [spec.steps, renumber_length] at bounded
  · intro bounded
    have guarded : Guarded settings verdict analysis
        (enforceSafetyInvariants settings plan verdict analysis formatG).1 :=
      guarded_of_length accepted bounded
    refine ⟨guarded, ?_⟩
    have stands : downgrades settings
        (enforceSafetyInvariants settings plan verdict analysis formatG).1 verdict = false := by
      rw [Bool.eq_false_iff, ne_eq, downgrades_iff, spec.action, commandedAction]
      rintro ⟨shutdown, distrusted⟩
      split at shutdown
      next => cases shutdown
      next kept => exact kept (downgrades_iff.mpr ⟨shutdown, distrusted⟩)
    generalize (enforceSafetyInvariants settings plan verdict analysis formatG).1 = corrected
      at guarded stands
    unfold enforceSafetyInvariants
    rw [if_pos (corrections_of_guarded guarded stands)]

end

/-- The shutdown the isolator did not vouch for leaves the guardrails in good order. -/
theorem guarded_iff_shutdown :
    ∃ analysis, analyseTopology (fun _ => "1") defaultSettings unobservedPump = .ok analysis ∧
      Guarded defaultSettings (boldVerdict false) analysis
        (enforceSafetyInvariants defaultSettings shutdownPlan (boldVerdict false) analysis
          fun _ => "1").1 := by
  obtain ⟨analysis, analysed, -⟩ := unobservedPump_analysed
  have kept := @guarded_iff defaultSettings shutdownPlan (boldVerdict false) analysis (fun _ => "1")
    shutdownPlan_accepted.1
  refine ⟨analysis, analysed, (kept.mpr ?_).1⟩
  rintro ⟨full, -⟩
  revert full
  decide +kernel

/-- As many steps as the sequence may have, and nobody to hand over to. -/
def unsupervisedPlan : StrategicActionPlan where
  actionType := .isolateValve
  targetAssetID := "PUMP-221"
  executionPriority := .high
  isolationSteps := (List.range' 1 12).map fun sequence =>
    { sequence, actor := .controlSystem, instruction := "Close the valve by one turn."
      targetComponent := "PUMP-221", verification := "Position read back." }
  rationale := "isolate"
  confidence := 1

/-- Twelve steps are allowed, and the corrected plan has thirteen. -/
theorem not_guarded_unsupervised :
    ∃ analysis, analyseTopology (fun _ => "1") defaultSettings unobservedPump = .ok analysis ∧
      (boldVerdict false).accepted = true ∧
      validateVerdict analysis.knownNodes (boldVerdict false) = .ok () ∧
      unsupervisedPlan.accepted = true ∧
      validatePlan analysis.knownNodes unsupervisedPlan = .ok () ∧
      ¬Guarded defaultSettings (boldVerdict false) analysis
        (enforceSafetyInvariants defaultSettings unsupervisedPlan (boldVerdict false) analysis
          fun _ => "1").1 := by
  obtain ⟨analysis, analysed, -, nodes⟩ := unobservedPump_analysed
  have accepted : unsupervisedPlan.accepted = true := by decide +kernel
  have inside : validatePlan unobservedPump.knownNodes unsupervisedPlan = .ok () := by
    rw [validatePlan_ok]
    decide +kernel
  rw [← nodes] at inside
  refine ⟨analysis, analysed, (bold_accepted false).1, nodes ▸ (bold_accepted false).2, accepted,
    inside, fun guarded => ?_⟩
  have spec : Enforced defaultSettings unsupervisedPlan (boldVerdict false) analysis (fun _ => "1") _ :=
    enforced accepted
  have bounded := guarded.bounded
  rw [spec.steps, renumber_length] at bounded
  revert bounded
  decide +kernel

/-! ## Irreversible steps -/

/-- On a graph that is not trusted, the corrected plan has no irreversible step exactly
when the plan is a shutdown, or has none among the steps that are kept. -/
theorem distrusted_reversible_iff {settings : InterceptorSettings} {plan : StrategicActionPlan}
    {verdict : TopologyIsolationVerdict} (accepted : plan.accepted = true)
    (distrusted : verdict.irreversiblePermitted = false ∨
      verdict.crdtAssessment.graphTrust < settings.minGraphTrustForIrreversible)
    (analysis : TopologyAnalysis) (formatG : Float → String) :
    (∀ step ∈ (enforceSafetyInvariants settings plan verdict analysis formatG).1.isolationSteps,
        step.reversible = true) ↔
      plan.actionType = .emergencyShutdown ∨
        ∀ step ∈ plan.isolationSteps.take settings.maxIsolationSteps, step.reversible = true := by
  have spec : Enforced settings plan verdict analysis formatG _ := enforced accepted
  have blind := renumber_all IsolationStep.reversible (fun _ _ => rfl)
    (sequencedSteps settings plan verdict)
  rw [spec.steps, ← List.all_eq_true, blind, List.all_eq_true, sequencedSteps_reversible]
  by_cases shutdown : plan.actionType = .emergencyShutdown
  · refine iff_of_true ?_ (Or.inl shutdown)
    intro step member
    exact retainedSteps_reversible (downgrades_iff.mpr ⟨shutdown, distrusted⟩) step
      (List.mem_of_mem_take member)
  · have kept : ¬downgrades settings plan verdict = true :=
      fun downgraded => shutdown (downgrades_iff.mp downgraded).1
    rw [boundedSteps, retainedSteps, if_neg kept, or_iff_right shutdown]

theorem distrusted_reversible_iff_shutdown :
    ∃ analysis, analyseTopology (fun _ => "1") defaultSettings unobservedPump = .ok analysis ∧
      ∀ step ∈ (enforceSafetyInvariants defaultSettings shutdownPlan (boldVerdict false) analysis
        fun _ => "1").1.isolationSteps, step.reversible = true := by
  obtain ⟨analysis, analysed, -⟩ := unobservedPump_analysed
  exact ⟨analysis, analysed, (distrusted_reversible_iff shutdownPlan_accepted.1 (Or.inl rfl) analysis
    fun _ => "1").mpr (Or.inl rfl)⟩

/-- The valve is isolated by a step that cannot be undone. -/
def irreversibleIsolation : StrategicActionPlan where
  actionType := .isolateValve
  targetAssetID := "PUMP-221"
  executionPriority := .high
  isolationSteps :=
    [{ sequence := 1, actor := .roboticActuator, instruction := "Fire the shut-off squib.",
       reversible := false, targetComponent := "PUMP-221", verification := "Flow reads zero." }]
  rationale := "isolate"
  confidence := 1

/-- The isolator permits nothing irreversible, and the squib is fired. -/
theorem distrusted_irreversible :
    ∃ analysis, analyseTopology (fun _ => "1") defaultSettings unobservedPump = .ok analysis ∧
      (boldVerdict false).accepted = true ∧
      validateVerdict analysis.knownNodes (boldVerdict false) = .ok () ∧
      irreversibleIsolation.accepted = true ∧
      validatePlan analysis.knownNodes irreversibleIsolation = .ok () ∧
      (boldVerdict false).irreversiblePermitted = false ∧
      ¬∀ step ∈ (enforceSafetyInvariants defaultSettings irreversibleIsolation (boldVerdict false)
        analysis fun _ => "1").1.isolationSteps, step.reversible = true := by
  obtain ⟨analysis, analysed, -, nodes⟩ := unobservedPump_analysed
  have accepted : irreversibleIsolation.accepted = true := by decide +kernel
  have inside : validatePlan unobservedPump.knownNodes irreversibleIsolation = .ok () := by
    rw [validatePlan_ok]
    decide +kernel
  rw [← nodes] at inside
  refine ⟨analysis, analysed, (bold_accepted false).1, nodes ▸ (bold_accepted false).2, accepted,
    inside, rfl, ?_⟩
  have spec : Enforced defaultSettings irreversibleIsolation (boldVerdict false) analysis
    (fun _ => "1") _ := enforced accepted
  rw [spec.steps]
  decide +kernel

end OpenOntology.GraphRag
