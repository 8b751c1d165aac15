import OpenOntology.Bridge.Commands
import OpenOntology.GraphRag.Withholding
import OpenOntology.Resolution.Rules

/-!
# The language of the bridge's plans

Which of the plans the bridge renders the worker reads and turns into commands.
-/
namespace OpenOntology.Bridge

open Python Library
open GraphRag (CommandActionResponse IsolationStep)
open Resolution (identifierPattern)
open Worker (Conversions PlannedAction ActionPlan MutationEnvelope Subscription WorkerSettings
  ErrorTexts CommandPayload resolveAlias actionAliases priorityAliases translatePlan Legible
  Buildable identifierShape)

/-! ## Identifiers -/

/-- The characters an identifier may hold. -/
def identifierPart (c : Char) : Bool := c.isAlphanum || c == '.' || c == '_' || c == '-'

theorem identifierPart_ascii {c : Char} (part : identifierPart c = true) : c.toNat < 128 := by
  unfold identifierPart Char.isAlphanum Char.isAlpha Char.isUpper Char.isLower Char.isDigit at part
  simp only [Bool.or_eq_true, Bool.and_eq_true, decide_eq_true_eq, beq_iff_eq, UInt32.le_iff_toNat_le,
    ge_iff_le] at part
  have same : c.val.toNat = c.toNat := rfl
  rcases part with ((((upper | lower) | digit) | rfl) | rfl) | rfl
  · have top : ('Z' : Char).val.toNat = 90 := by decide
    omega
  · have top : ('z' : Char).val.toNat = 122 := by decide
    omega
  · have top : ('9' : Char).val.toNat = 57 := by decide
    omega
  all_goals decide

theorem identifierPattern_iff {s : String} : identifierPattern s = true ↔
    ∃ first rest, s.toList = first :: rest ∧ first.isAlphanum = true ∧ rest.length ≤ 127 ∧
      ∀ c ∈ rest, identifierPart c = true := by
  unfold identifierPattern
  split
  next empty => simp [empty]
  next first rest spelled =>
    simp only [Bool.and_eq_true, decide_eq_true_eq, List.all_eq_true, spelled, List.cons.injEq,
      and_assoc]
    constructor
    · intro matched
      exact ⟨first, rest, rfl, rfl, matched⟩
    · rintro ⟨_, _, rfl, rfl, matched⟩
      exact matched

theorem identifierPart_of_pattern {s : String} (matched : identifierPattern s = true) :
    ∀ c ∈ s.toList, identifierPart c = true := by
  obtain ⟨first, rest, spelled, start, -, parts⟩ := identifierPattern_iff.mp matched
  rw [spelled]
  intro c member
  rcases List.mem_cons.mp member with rfl | later
  · simp [identifierPart, start]
  · exact parts c later

/-- An identifier of the engine has the shape the worker asks of a target. -/
theorem identifierShape_of_pattern (unicode : Unicode) {s : String}
    (matched : identifierPattern s = true) : identifierShape unicode s = true := by
  obtain ⟨first, rest, spelled, start, -⟩ := identifierPattern_iff.mp matched
  have all_parts := identifierPart_of_pattern matched
  have opens : unicode.isAlnum first = true := by
    have ascii := identifierPart_ascii (all_parts first (by rw [spelled]; simp))
    rw [unicode.isAlnum_ascii first ascii]
    exact start
  have never : ∀ separator ∈ Worker.separators, identifierPart separator = false := by
    simp [Worker.separators, identifierPart, Char.isAlphanum, Char.isAlpha, Char.isUpper,
      Char.isLower, Char.isDigit]
  have solid : ∀ separator ∈ Worker.separators, separator ∉ s.toList := by
    intro separator listed inside
    have part := all_parts separator inside
    rw [never separator listed] at part
    exact Bool.noConfusion part
  unfold identifierShape
  rw [spelled, List.head?_cons, Option.map_some, Option.getD_some, opens, Bool.true_and,
    Bool.not_eq_true', List.any_eq_false, ← spelled]
  intro separator listed
  simpa using solid separator listed

/-! ## The steps of a response -/

section
variable {formatG : Float → String} {settings : GraphRag.InterceptorSettings}
  {payload : GraphRag.EnrichedGraphPayload} {isolator : Nat → GraphRag.Answer _}
  {planner : GraphRag.TopologyIsolationVerdict → Nat → GraphRag.Answer GraphRag.StrategicActionPlan}
  {outcome : GraphRag.EngineOutcome}

/-- Every step the guardrails let through has a place in the sequence and a bounded
duration. -/
theorem sequencedSteps_bounded {plan : GraphRag.StrategicActionPlan}
    {verdict : GraphRag.TopologyIsolationVerdict} (accepted : plan.accepted = true) :
    ∀ step ∈ GraphRag.sequencedSteps settings plan verdict, step.estimatedSeconds ≤ 86400 := by
  have planned : ∀ step ∈ plan.isolationSteps, step.estimatedSeconds ≤ 86400 := by
    intro step member
    unfold GraphRag.StrategicActionPlan.accepted at accepted
    simp only [Bool.and_eq_true, List.all_eq_true] at accepted
    have checked := accepted.1.1.1.1.1.2 step member
    unfold IsolationStep.accepted at checked
    simp only [Bool.and_eq_true, decide_eq_true_eq] at checked
    exact checked.1.2
  have retained : ∀ step ∈ GraphRag.retainedSteps settings plan verdict,
      step.estimatedSeconds ≤ 86400 := by
    unfold GraphRag.retainedSteps
    intro step member
    split at member
    · split at member
      · rw [List.mem_singleton.mp member]
        exact Nat.le_of_ble_eq_true rfl
      · exact planned step (List.mem_of_mem_filter member)
    · exact planned step member
  have bounded : ∀ step ∈ GraphRag.boundedSteps settings plan verdict,
      step.estimatedSeconds ≤ 86400 := fun step member =>
    retained step (List.mem_of_mem_take member)
  unfold GraphRag.sequencedSteps
  intro step member
  split at member
  · rcases List.mem_append.mp member with kept | handed
    · exact bounded step kept
    · rw [List.mem_singleton.mp handed]
      exact Nat.le_of_ble_eq_true rfl
  · exact bounded step member

theorem run_steps (ran : GraphRag.run formatG settings payload isolator planner = .ok outcome) :
    ∀ step ∈ outcome.plan.isolationSteps, 1 ≤ step.sequence ∧ step.estimatedSeconds ≤ 86400 := by
  unfold GraphRag.run at ran
  split at ran
  next => cases ran
  next analysis analysed =>
    split at ran
    next => cases ran
    next verdict heard =>
      split at ran
      next => cases ran
      next plan planned =>
        have accepted := (GraphRag.invoke_ok _ _ planned).1
        have corrected : GraphRag.Enforced settings plan verdict analysis formatG _ :=
          GraphRag.enforced accepted
        generalize GraphRag.enforceSafetyInvariants settings plan verdict analysis formatG =
          correction at ran corrected
        cases ran
        intro step member
        dsimp only at member
        rw [corrected.steps] at member
        obtain ⟨old, kept, placed, same⟩ := GraphRag.mem_renumber member
        rw [same]
        exact ⟨placed, sequencedSteps_bounded accepted old kept⟩

/-! ## Reading and translating -/

variable {conversions : Conversions} {unicode : Unicode} {texts : ErrorTexts}
  {action : CommandActionResponse} {model : String} {mutation : MutationEnvelope}
  {subscription : Subscription} {workerSettings : WorkerSettings} {correlationID : Text}
  {issuedAt : Int}

/-- The bounds on a step's place and duration are within the worker's. -/
def StepsBounded (action : CommandActionResponse) : Prop :=
  ∀ step ∈ action.isolationSteps, 1 ≤ step.sequence ∧ step.estimatedSeconds ≤ 604800

theorem priority_length (priority : GraphRag.ExecutionPriority) : 1 ≤ priority.value.length := by
  cases priority <;> decide

theorem actionToWorker_length (a : GraphRag.ActionType) : 1 ≤ (actionToWorker a).length := by
  cases a <;> decide

theorem stepAction_length (step : IsolationStep) : 1 ≤ (stepAction action step).length := by
  unfold stepAction
  split
  · cases step.actor <;> decide
  · exact actionToWorker_length action.actionType

/-- What the translation asks of a command that was read back. -/
structure Rendered (unicode : Unicode) (action : CommandActionResponse) (planned : PlannedAction) :
    Prop where
  known : ∃ kind, resolveAlias unicode actionAliases planned.action = some kind
  ranked : planned.priority = action.executionPriority.value
  parameters : ∃ held, Worker.dictOf (.obj planned.parameters) = some held

theorem stepCommand_validates (step : IsolationStep) (placed : 1 ≤ step.sequence)
    (short : step.estimatedSeconds ≤ 604800) :
    ∃ planned, PlannedAction.modelValidate conversions (stepCommand action step) = some planned := by
  unfold PlannedAction.modelValidate
  rw [read_stepCommand, Option.bind_some, dif_pos ⟨Int.ofNat_le.mpr placed,
    stepAction_length step, priority_length _, short⟩]
  exact ⟨_, rfl⟩

theorem soleCommand_validates :
    ∃ planned, PlannedAction.modelValidate conversions (soleCommand action) = some planned := by
  unfold PlannedAction.modelValidate
  rw [read_soleCommand, Option.bind_some, dif_pos ⟨Int.le_refl 1,
    actionToWorker_length action.actionType, priority_length _, Nat.le_of_ble_eq_true rfl⟩]
  exact ⟨_, rfl⟩

theorem step_rendered {step : IsolationStep} {planned : PlannedAction}
    (validated : PlannedAction.modelValidate conversions (stepCommand action step) = some planned) :
    Rendered unicode action planned := by
  have fields := PlannedAction.modelValidate_some validated
  rw [read_stepCommand] at fields
  refine ⟨⟨stepActionType action step, ?_⟩, ?_, stepParameters step, ?_⟩
  · rw [step_action validated, resolve_stepAction]
  · rw [← Option.some.inj fields]
  · rw [← Option.some.inj fields, dictOf_stepParameters]

theorem sole_rendered {planned : PlannedAction}
    (validated : PlannedAction.modelValidate conversions (soleCommand action) = some planned) :
    Rendered unicode action planned := by
  have fields := PlannedAction.modelValidate_some validated
  rw [read_soleCommand] at fields
  refine ⟨⟨workerAction action.actionType, ?_⟩, ?_, [], ?_⟩
  · rw [sole_action validated, resolve_workerAction]
  · rw [← Option.some.inj fields]
  · rw [← Option.some.inj fields]
    rfl

theorem planCommands_validate (bounded : StepsBounded action) :
    ∀ document ∈ planCommands action, ∃ planned,
      PlannedAction.modelValidate conversions document = some planned := by
  unfold planCommands
  intro document member
  split at member
  · rw [List.mem_singleton.mp member]
    exact soleCommand_validates
  · obtain ⟨step, listed, rfl⟩ := List.mem_map.mp member
    exact stepCommand_validates step (bounded step listed).1 (bounded step listed).2

theorem planCommands_rendered {document : PyJson} (member : document ∈ planCommands action)
    {planned : PlannedAction}
    (validated : PlannedAction.modelValidate conversions document = some planned) :
    Rendered unicode action planned := by
  unfold planCommands at member
  split at member
  · rw [List.mem_singleton.mp member] at validated
    exact sole_rendered validated
  · obtain ⟨step, listed, rfl⟩ := List.mem_map.mp member
    exact step_rendered validated

theorem planCommands_ne_nil : planCommands action ≠ [] := by
  unfold planCommands
  split
  · exact List.cons_ne_nil _ _
  next some_step => exact fun none_rendered => some_step (List.map_eq_nil_iff.mp none_rendered)

/-- The worker reads every bounded, identified response the bridge renders. -/
theorem plan_validates (identified : Identified action)
    (probable : GraphRag.within 0 1 action.confidence = true) (bounded : StepsBounded action) :
    ∃ plan, ActionPlan.modelValidate conversions (actionToPlan action model) = some plan := by
  obtain ⟨commands, related⟩ := exists_forall₂.mpr (planCommands_validate bounded)
  have read := (read_actionToPlan action model _).mpr
    ⟨identified, commands, mapM_some_iff.mpr related, rfl⟩
  have instructs : 1 ≤ (planFields action model commands).commands.length := by
    show 1 ≤ commands.length
    rw [← related.length_eq]
    exact List.length_pos_of_ne_nil planCommands_ne_nil
  unfold ActionPlan.modelValidate
  rw [read, Option.bind_some, dif_pos ⟨identified, probable, instructs⟩]
  exact ⟨_, rfl⟩

theorem plan_rendered {plan : ActionPlan}
    (validated : ActionPlan.modelValidate conversions (actionToPlan action model) = some plan) :
    plan.planID = action.commandID ∧ ∀ planned ∈ plan.commands, Rendered unicode action planned := by
  obtain ⟨-, commands, read, same⟩ :=
    (read_actionToPlan action model _).mp (ActionPlan.modelValidate_some validated)
  have held : plan.commands = commands := (congrArg Worker.ActionPlanFields.commands same).symm
  refine ⟨(congrArg Worker.ActionPlanFields.planID same).symm, ?_⟩
  rw [held]
  intro planned member
  obtain ⟨document, listed, found⟩ := forall₂_exists_left (mapM_some_iff.mp read) member
  exact planCommands_rendered listed found

/-- A plan read back goes through exactly when its priority is in the worker's table and
the command's provenance is legible. -/
theorem translate_exists {plan : ActionPlan}
    (validated : ActionPlan.modelValidate conversions (actionToPlan action model) = some plan)
    (named : Legible (Text.ofString action.commandID)) (correlated : Legible correlationID)
    (shape : identifierShape unicode mutation.assetID = true) :
    (∃ commands, translatePlan unicode texts mutation plan subscription workerSettings correlationID
        issuedAt = .ok commands) ↔
      action.executionPriority ≠ .routine ∧ Legible subscription.tenant ∧
        Legible subscription.keyID := by
  have rendered : plan.planID = action.commandID ∧
      ∀ planned ∈ plan.commands, Rendered unicode action planned := plan_rendered validated
  have each : ∀ entry ∈ (plan.commands.take workerSettings.maxCommands).zipIdx 1,
      ((∃ command, Worker.translateStep unicode texts mutation plan subscription workerSettings
        correlationID issuedAt entry.1 entry.2 = .ok command) ↔
          action.executionPriority ≠ .routine ∧ Legible subscription.tenant ∧
            Legible subscription.keyID) := by
    rintro ⟨planned, index⟩ member
    obtain ⟨later, -, place⟩ := List.mem_zipIdx member
    have listed := List.mem_of_mem_take (List.mem_of_getElem place.symm)
    obtain ⟨kind, priority, parameters⟩ := rendered.2 planned listed
    rw [Worker.translateStep_exists later, priority, resolve_priority]
    constructor
    · rintro ⟨-, ranked, built⟩
      refine ⟨?_, built.tenant, built.keyID⟩
      rintro routine
      rw [routine] at ranked
      obtain ⟨_, never⟩ := ranked
      cases never
    · rintro ⟨ranked, tenant, keyID⟩
      refine ⟨kind, ?_, tenant, keyID, ?_, correlated, shape, parameters⟩
      · cases level : action.executionPriority with
        | critical => exact ⟨_, rfl⟩
        | high => exact ⟨_, rfl⟩
        | routine => exact absurd level ranked
      · rw [rendered.1]
        exact named
  simp only [Worker.translatePlan_ok, exists_forall₂]
  have reached : (plan.commands.take workerSettings.maxCommands).zipIdx 1 ≠ [] :=
    Worker.commands_taken_ne_nil
  obtain ⟨entry, first⟩ := List.exists_mem_of_ne_nil _ reached
  constructor
  · intro all
    exact (each entry first).mp (all entry first)
  · intro fit entry member
    exact (each entry member).mpr fit

end

end OpenOntology.Bridge
