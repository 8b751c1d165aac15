import OpenOntology.Bridge.Language

/-!
# What survives the bridge

Which of the plans of the GraphRAG pipeline reach the actuators at all, and what is left
of a response in its commands: the human authorisation it requires, the isolation it
orders and the asset it orders it on.
-/
namespace OpenOntology.Bridge

open Python Library
open GraphRag (CommandActionResponse IsolationStep)
open Resolution (identifierPattern)
open Worker (Conversions ActionPlan MutationEnvelope Subscription WorkerSettings ErrorTexts
  CommandPayload translatePlan Legible)

section
variable {conversions : Conversions} {unicode : Unicode} {texts : ErrorTexts}
  {action : CommandActionResponse} {model : String} {mutation : MutationEnvelope}
  {subscription : Subscription} {settings : WorkerSettings} {correlationID : Text} {issuedAt : Int}
  {commands : List (CommandPayload unicode)}

/-! ## Irreversible commands -/

/-- An irreversible step is among those the worker reaches, or the response has no step
and is itself the command. -/
def ReachesIrreversible (settings : WorkerSettings) (action : CommandActionResponse) : Prop :=
  action.isolationSteps = [] ∨
    ∃ step ∈ action.isolationSteps.take settings.maxCommands, step.reversible = false

/-- Every step the worker reaches is irreversible. -/
def AllIrreversible (settings : WorkerSettings) (action : CommandActionResponse) : Prop :=
  ∀ step ∈ action.isolationSteps.take settings.maxCommands, step.reversible = false

theorem taken_actions_of_steps (some_step : action.isolationSteps ≠ []) :
    (actionTypes action).take settings.maxCommands =
      (action.isolationSteps.take settings.maxCommands).map (stepActionType action) := by
  rw [actionTypes, if_neg some_step, List.map_take]

theorem taken_actions_of_none (no_step : action.isolationSteps = []) :
    (actionTypes action).take settings.maxCommands = [workerAction action.actionType] := by
  rw [actionTypes, if_pos no_step, List.take_of_length_le settings.commands.1]

theorem some_irreversible_iff :
    (∃ kind ∈ (actionTypes action).take settings.maxCommands, kind.isIrreversible = true) ↔
      action.actionType ≠ .degradeThrottle ∧ ReachesIrreversible settings action := by
  unfold ReachesIrreversible
  by_cases no_step : action.isolationSteps = []
  · simp [taken_actions_of_none no_step, no_step, workerAction_isIrreversible]
  · rw [taken_actions_of_steps no_step]
    simp only [List.mem_map, exists_exists_and_eq_and, stepActionType_isIrreversible, no_step,
      false_or]
    constructor
    · rintro ⟨step, listed, kept, hard⟩
      exact ⟨hard, step, listed, kept⟩
    · rintro ⟨hard, step, listed, kept⟩
      exact ⟨step, listed, kept, hard⟩

theorem all_irreversible_iff :
    (∀ kind ∈ (actionTypes action).take settings.maxCommands, kind.isIrreversible = true) ↔
      action.actionType ≠ .degradeThrottle ∧ AllIrreversible settings action := by
  unfold AllIrreversible
  by_cases no_step : action.isolationSteps = []
  · simp [taken_actions_of_none no_step, no_step, workerAction_isIrreversible]
  · rw [taken_actions_of_steps no_step]
    simp only [List.forall_mem_map, stepActionType_isIrreversible]
    constructor
    · intro all
      have reached : action.isolationSteps.take settings.maxCommands ≠ [] := by
        have allowed := settings.commands.1
        rw [ne_eq, List.take_eq_nil_iff, not_or]
        exact ⟨by omega, no_step⟩
      obtain ⟨step, first⟩ := List.exists_mem_of_ne_nil _ reached
      exact ⟨(all step first).2, fun step listed => (all step listed).1⟩
    · rintro ⟨hard, all⟩ step listed
      exact ⟨all step listed, hard⟩

/-- The worker's two irreversible actions. -/
theorem irreversible_iff (kind : Worker.ActionType) :
    kind.isIrreversible = true ↔ kind = .isolate ∨ kind = .shutdown := by
  cases kind <;> decide

theorem Batch.mem_actions (held : Batch unicode action mutation subscription settings commands)
    (p : Worker.ActionType → Prop) :
    (∀ kind ∈ (actionTypes action).take settings.maxCommands, p kind) ↔
      ∀ command ∈ commands, p command.actionType := by
  rw [← held.actions]
  exact List.forall_mem_map

theorem Batch.isolates_iff (held : Batch unicode action mutation subscription settings commands) :
    (∃ command ∈ commands, command.actionType = .isolate ∨ command.actionType = .shutdown) ↔
      action.actionType ≠ .degradeThrottle ∧ ReachesIrreversible settings action := by
  rw [← some_irreversible_iff, ← held.actions]
  simp only [List.mem_map, exists_exists_and_eq_and, irreversible_iff]

/-! ## The worker's language -/

/-- The worker makes commands of a response in exactly one case: its priority is not
ROUTINE, and the subscription's tenant and key id are legible. -/
theorem produces_iff (identified : Identified action)
    (probable : GraphRag.within 0 1 action.confidence = true) (bounded : StepsBounded action)
    (named : Legible (Text.ofString action.commandID)) (correlated : Legible correlationID)
    (matched : identifierPattern mutation.assetID = true) :
    (∃ commands, Produces conversions unicode texts action model mutation subscription settings
        correlationID issuedAt commands) ↔
      action.executionPriority ≠ .routine ∧ Legible subscription.tenant ∧
        Legible subscription.keyID := by
  have shape := identifierShape_of_pattern unicode matched
  constructor
  · rintro ⟨commands, plan, validated, translated⟩
    exact (translate_exists validated named correlated shape).mp ⟨commands, translated⟩
  · intro spoken
    have read : ∃ plan, ActionPlan.modelValidate conversions (actionToPlan action model) =
        some plan := plan_validates identified probable bounded
    obtain ⟨plan, validated⟩ := read
    obtain ⟨commands, translated⟩ := (translate_exists validated named correlated shape).mpr spoken
    exact ⟨commands, plan, validated, translated⟩

end

/-- The ids of the payload are the mutation's, as the projection sets them. -/
structure Projected (mutation : MutationEnvelope) (payload : GraphRag.EnrichedGraphPayload) :
    Prop where
  event : payload.eventID = mutation.eventID
  asset : payload.assetMetadata.uuid = mutation.assetID

theorem legible_commandID (hex : String) : Legible (Text.ofString ("cmd_" ++ hex)) :=
  ⟨"cmd_" ++ hex, rfl, 'c', by simp, by decide +kernel⟩

/-! ## A pump and a subscription -/

def plainConversions : Conversions where
  int | .int n => some n | _ => none
  float | .float x => some x | _ => none
  bool | .bool b => some b | _ => none
  int_int _ := rfl
  float_float _ := rfl
  bool_bool _ := rfl

def plainTexts : ErrorTexts where
  repr s := "'" ++ s ++ "'"
  violation _ := ""

def workerSettings : WorkerSettings where
  maxCommands := 6
  defaultDeadlineSeconds := 900
  commands := by decide
  deadline := by decide

def enterprise : Subscription where
  keyID := Text.ofString "lic_enterprise_demo"
  keyDigest := []
  tenant := Text.ofString "northwind-aerospace"
  plan := Text.ofString "ENTERPRISE"
  active := true
  expiresAt := .aware 0

theorem enterprise_legible : Legible enterprise.tenant ∧ Legible enterprise.keyID :=
  ⟨⟨_, rfl, 'n', by simp, by decide +kernel⟩, ⟨_, rfl, 'l', by simp, by decide +kernel⟩⟩

def pumpMutation : MutationEnvelope where
  eventID := "evt_1"
  assetID := "PUMP-221"
  sensorID := "vibration_index"
  transition := .raised
  severity := .high
  degraded := false
  identified := by decide
  stripped := by
    refine ⟨?_, ?_, ?_⟩ <;> apply trimSpace_eq_self <;> simp [OpenOntology.isSpace]

theorem request_legible : Legible (Text.ofString "req-1") :=
  ⟨_, rfl, 'r', by simp, by decide +kernel⟩

theorem pumpMutation_matched : identifierPattern pumpMutation.assetID = true := by decide +kernel

/-- A step on the pump that a technician takes. -/
def pumpStep (target : String) (reversible : Bool) : IsolationStep where
  sequence := 1
  actor := .humanTechnician
  instruction := "Close the outlet isolation valve."
  targetComponent := target
  verification := "Valve position feedback reads shut."
  reversible := reversible

/-- A response that fired on the pump, with one step. -/
def pumpResponse (kind : GraphRag.ActionType) (target : String) (reversible : Bool) :
    CommandActionResponse where
  commandID := "cmd_1"
  targetAssetID := target
  actionType := kind
  isolationSteps := [pumpStep target reversible]
  executionPriority := .critical
  eventID := "evt_1"
  sourceAssetID := "PUMP-221"
  tenant := "northwind-aerospace"
  faultClassification := .inheritedCascade
  cascadePath := [target, "PUMP-221"]
  blastRadius := []
  blastRadiusProtection := []
  crdtAssessment :=
    { presence := .live, tieBreakerRule := .notRequired, contested := false, highestAddStamp := 1
      highestRemoveStamp := 0, graphTrust := 1, explanation := "converged" }
  requiresHumanAuthorization := true
  reversible := reversible
  confidence := 1
  rationale := "vibration"
  evidence := []
  guardrailsApplied := []

theorem pump_produces (kind : GraphRag.ActionType) (target : String) (reversible : Bool) :
    ∃ commands, Produces plainConversions asciiUnicode plainTexts (pumpResponse kind target reversible)
      "m" pumpMutation enterprise workerSettings (Text.ofString "req-1") 0 commands := by
  have lengths : 1 ≤ "cmd_1".length ∧ 1 ≤ "evt_1".length ∧ 1 ≤ "PUMP-221".length := by decide
  have identified : Identified (pumpResponse kind target reversible) := lengths
  have probable : GraphRag.within 0 1 (pumpResponse kind target reversible).confidence = true := by
    show GraphRag.within 0 1 1 = true
    decide +kernel
  have bounded : StepsBounded (pumpResponse kind target reversible) := by
    intro step listed
    rw [List.mem_singleton.mp listed]
    exact ⟨Nat.le_refl 1, Nat.le_of_ble_eq_true rfl⟩
  have named : Legible (Text.ofString (pumpResponse kind target reversible).commandID) :=
    ⟨"cmd_1", rfl, 'c', by simp, by decide +kernel⟩
  refine (produces_iff identified probable bounded named request_legible pumpMutation_matched).mpr
    ⟨?_, enterprise_legible⟩
  exact fun routine => GraphRag.ExecutionPriority.noConfusion routine

theorem enterprise_autonomous : enterprise.autonomousExecutionAllowed = true := by
  simp [Subscription.autonomousExecutionAllowed, Subscription.autonomousPlans, enterprise]

/-- The one command of the pump's response. -/
theorem pump_command {kind : GraphRag.ActionType} {target : String} {reversible : Bool}
    {commands : List (CommandPayload asciiUnicode)}
    (produced : Produces plainConversions asciiUnicode plainTexts (pumpResponse kind target reversible)
      "m" pumpMutation enterprise workerSettings (Text.ofString "req-1") 0 commands) :
    ∃ command ∈ commands,
      command.actionType = stepActionType (pumpResponse kind target reversible)
        (pumpStep target reversible) := by
  have actions := (batch produced).actions
  have taken : (actionTypes (pumpResponse kind target reversible)).take workerSettings.maxCommands =
      [stepActionType (pumpResponse kind target reversible) (pumpStep target reversible)] := rfl
  rw [taken] at actions
  obtain ⟨command, rfl, kind⟩ := List.map_eq_singleton_iff.mp actions
  exact ⟨command, List.mem_singleton_self command, kind⟩

/-- The pump on a reading within every band. -/
def calmPump : GraphRag.EnrichedGraphPayload :=
  { GraphRag.unobservedPump with telemetrySnapshot := ⟨[("vibration_index", 1)]⟩ }

theorem calmPump_analysed :
    ∃ analysis, GraphRag.analyseTopology (fun _ => "1") GraphRag.defaultSettings calmPump =
        .ok analysis ∧
      analysis.priority = .routine ∧ analysis.knownNodes = GraphRag.unobservedPump.knownNodes := by
  have computed : (GraphRag.analyseTopology (fun _ => "1") GraphRag.defaultSettings calmPump).map
      (fun analysis => (analysis.priority, analysis.knownNodes)) =
        .ok (.routine, GraphRag.unobservedPump.knownNodes) := by decide +kernel
  cases analysed : GraphRag.analyseTopology (fun _ => "1") GraphRag.defaultSettings calmPump with
  | error reason =>
    rw [analysed] at computed
    cases computed
  | ok analysis =>
    rw [analysed] at computed
    have both := Prod.mk.inj (Except.ok.inj computed)
    exact ⟨analysis, rfl, both.1, both.2⟩

def throttlePlan (priority : GraphRag.ExecutionPriority) : GraphRag.StrategicActionPlan where
  actionType := .degradeThrottle
  targetAssetID := "PUMP-221"
  executionPriority := priority
  isolationSteps :=
    [{ sequence := 1, actor := .humanSupervisor, instruction := "Hold the pump at reduced load."
       targetComponent := "PUMP-221", verification := "Speed holds at the setpoint." }]
  rationale := "hold"
  confidence := 1

theorem throttlePlan_accepted (priority : GraphRag.ExecutionPriority) :
    (throttlePlan priority).accepted = true ∧
      GraphRag.validatePlan GraphRag.unobservedPump.knownNodes (throttlePlan priority) = .ok () := by
  rw [GraphRag.validatePlan_ok]
  cases priority <;> decide +kernel

/-- The pipeline on the calm pump returns the planner's priority. -/
theorem calm_run (priority : GraphRag.ExecutionPriority) :
    ∃ outcome, GraphRag.run (fun _ => "1") GraphRag.defaultSettings calmPump
        (fun _ => .answered (GraphRag.boldVerdict false))
        (fun _ _ => .answered (throttlePlan priority)) = .ok outcome ∧
      outcome.plan.executionPriority = priority ∧
        GraphRag.within 0 1 outcome.plan.confidence = true := by
  obtain ⟨analysis, analysed, routine, nodes⟩ := calmPump_analysed
  have heard := GraphRag.invoke_first GraphRag.TopologyIsolationVerdict.accepted
    (GraphRag.validateVerdict analysis.knownNodes) GraphRag.defaultSettings
    (fun _ => .answered (GraphRag.boldVerdict false)) rfl (GraphRag.bold_accepted false).1
    (by rw [nodes]; exact (GraphRag.bold_accepted false).2)
  have planned := GraphRag.invoke_first GraphRag.StrategicActionPlan.accepted
    (GraphRag.validatePlan analysis.knownNodes) GraphRag.defaultSettings
    (fun _ => .answered (throttlePlan priority)) rfl (throttlePlan_accepted priority).1
    (by rw [nodes]; exact (throttlePlan_accepted priority).2)
  have spec : GraphRag.Enforced GraphRag.defaultSettings (throttlePlan priority)
      (GraphRag.boldVerdict false) analysis (fun _ => "1") _ :=
    GraphRag.enforced (throttlePlan_accepted priority).1
  refine ⟨_, GraphRag.run_ok analysed heard planned, ?_, ?_⟩
  · refine spec.priority.trans ?_
    rw [GraphRag.commandedPriority, GraphRag.liftsPriority, routine]
    cases priority <;> decide +kernel
  · show GraphRag.within 0 1 (GraphRag.enforceSafetyInvariants _ _ _ _ _).1.confidence = true
    rcases spec.confidence with kept | lowered
    · rw [kept]
      show GraphRag.within 0 1 1 = true
      decide +kernel
    · rw [lowered]
      show GraphRag.within 0 1 (Python.round (Python.max 0.05 (1 * 0.9)) 3) = true
      decide +kernel

/-! ## The laws -/

/-- What the pipeline returns for a mutation is a plan the worker reads and, unless its
priority is ROUTINE or the subscription is illegible, turns into commands. -/
theorem pipeline_speaks_iff {formatG : Float → String} {settings : GraphRag.InterceptorSettings}
    {payload : GraphRag.EnrichedGraphPayload}
    {isolator : Nat → GraphRag.Answer GraphRag.TopologyIsolationVerdict}
    {planner : GraphRag.TopologyIsolationVerdict → Nat →
      GraphRag.Answer GraphRag.StrategicActionPlan}
    {outcome : GraphRag.EngineOutcome} {mutation : MutationEnvelope} {correlationID : Text} {tenant hex : String}
    (conversions : Conversions) (unicode : Unicode) (texts : ErrorTexts) (model : String)
    (subscription : Subscription) (workerSettings : WorkerSettings) (issuedAt : Int)
    (ran : GraphRag.run formatG settings payload isolator planner = .ok outcome)
    (probable : GraphRag.within 0 1 outcome.plan.confidence = true)
    (projected : Projected mutation payload) (matched : identifierPattern mutation.assetID = true)
    (correlated : Legible correlationID) :
    (∃ plan commands,
        ActionPlan.modelValidate conversions (actionToPlan
          (GraphRag.buildCommandResponse payload outcome tenant ("cmd_" ++ hex)) model) = some plan ∧
        translatePlan unicode texts mutation plan subscription workerSettings correlationID issuedAt =
          .ok commands) ↔
      outcome.plan.executionPriority ≠ .routine ∧ Legible subscription.tenant ∧
        Legible subscription.keyID := by
  have identified : Identified
      (GraphRag.buildCommandResponse payload outcome tenant ("cmd_" ++ hex)) := by
    refine ⟨?_, ?_, ?_⟩
    · show 1 ≤ ("cmd_" ++ hex).length
      rw [String.length_append]
      exact Nat.le_add_right_of_le (by decide)
    · show 1 ≤ payload.eventID.length
      rw [projected.event]
      exact mutation.identified.1
    · show 1 ≤ payload.assetMetadata.uuid.length
      rw [projected.asset]
      exact mutation.identified.2.1
  have bounded : StepsBounded
      (GraphRag.buildCommandResponse payload outcome tenant ("cmd_" ++ hex)) := by
    intro step member
    have kept := run_steps ran step member
    exact ⟨kept.1, Nat.le_trans kept.2 (by decide)⟩
  rw [exists_comm]
  exact produces_iff identified probable bounded (legible_commandID hex) correlated matched

theorem pipeline_speaks_high :
    ∃ outcome, GraphRag.run (fun _ => "1") GraphRag.defaultSettings calmPump
        (fun _ => .answered (GraphRag.boldVerdict false))
        (fun _ _ => .answered (throttlePlan .high)) = .ok outcome ∧
      ∃ plan commands,
        ActionPlan.modelValidate plainConversions (actionToPlan
          (GraphRag.buildCommandResponse calmPump outcome "northwind-aerospace" ("cmd_" ++ "1")) "m") =
            some plan ∧
        translatePlan asciiUnicode plainTexts pumpMutation plan enterprise workerSettings
          (Text.ofString "req-1") 0 = .ok commands := by
  obtain ⟨outcome, ran, priority, probable⟩ := calm_run .high
  refine ⟨outcome, ran, (pipeline_speaks_iff plainConversions asciiUnicode plainTexts "m" enterprise
    workerSettings 0 ran probable ⟨rfl, rfl⟩ pumpMutation_matched request_legible).mpr
      ⟨?_, enterprise_legible⟩⟩
  rw [priority]
  exact fun routine => GraphRag.ExecutionPriority.noConfusion routine

/-- A ROUTINE response of the pipeline never becomes a command. -/
theorem routine_not_spoken :
    ∃ outcome, GraphRag.run (fun _ => "1") GraphRag.defaultSettings calmPump
        (fun _ => .answered (GraphRag.boldVerdict false))
        (fun _ _ => .answered (throttlePlan .routine)) = .ok outcome ∧
      GraphRag.within 0 1 outcome.plan.confidence = true ∧
      ¬∃ commands, Produces plainConversions asciiUnicode plainTexts
        (GraphRag.buildCommandResponse calmPump outcome "northwind-aerospace" ("cmd_" ++ "1")) "m"
        pumpMutation enterprise workerSettings (Text.ofString "req-1") 0 commands := by
  obtain ⟨outcome, ran, priority, probable⟩ := calm_run .routine
  refine ⟨outcome, ran, probable, ?_⟩
  rintro ⟨commands, plan, validated, translated⟩
  have spoken := (translate_exists validated (legible_commandID "1") request_legible
    (identifierShape_of_pattern asciiUnicode pumpMutation_matched)).mp ⟨commands, translated⟩
  exact spoken.1 priority

section
variable {conversions : Conversions} {unicode : Unicode} {texts : ErrorTexts}
  {action : CommandActionResponse} {model : String} {mutation : MutationEnvelope}
  {subscription : Subscription} {settings : WorkerSettings} {correlationID : Text} {issuedAt : Int}
  {commands : List (CommandPayload unicode)}

/-- Every command of the batch waits for a human exactly when the tenant's tier is not
autonomous, or nothing the worker reaches can be undone. The authorisation the response
requires plays no part. -/
theorem approval_survives_iff
    (produced : Produces conversions unicode texts action model mutation subscription settings
      correlationID issuedAt commands) :
    (∀ command ∈ commands, command.requiresHumanApproval = true) ↔
      subscription.autonomousExecutionAllowed = false ∨
        (action.actionType ≠ .degradeThrottle ∧ AllIrreversible settings action) := by
  have held := batch produced
  rw [← all_irreversible_iff, held.mem_actions fun kind => kind.isIrreversible = true]
  constructor
  · intro approved
    cases autonomous : subscription.autonomousExecutionAllowed with
    | false => exact Or.inl rfl
    | true =>
      refine Or.inr fun command member => ?_
      have waits := approved command member
      rw [held.approval command member, Worker.requiresApproval, autonomous] at waits
      simpa using waits
  · intro safe command member
    rw [held.approval command member, Worker.requiresApproval]
    rcases safe with tethered | hard
    · rw [tethered]
      rfl
    · rw [hard command member, Bool.not_true, Bool.and_false]
      rfl

theorem approval_survives_shutdown :
    ∃ commands, Produces plainConversions asciiUnicode plainTexts
        (pumpResponse .emergencyShutdown "PUMP-221" false) "m" pumpMutation enterprise workerSettings
        (Text.ofString "req-1") 0 commands ∧
      ∀ command ∈ commands, command.requiresHumanApproval = true := by
  obtain ⟨commands, produced⟩ := pump_produces .emergencyShutdown "PUMP-221" false
  refine ⟨commands, produced, (approval_survives_iff produced).mpr (Or.inr ⟨?_, ?_⟩)⟩
  · exact fun throttle => GraphRag.ActionType.noConfusion throttle
  · intro step reached
    rw [List.mem_singleton.mp reached]
    rfl

/-- A throttle that requires human authorisation is issued without one. -/
theorem throttle_unapproved :
    (pumpResponse .degradeThrottle "PUMP-221" false).requiresHumanAuthorization = true ∧
      ∃ commands, Produces plainConversions asciiUnicode plainTexts
          (pumpResponse .degradeThrottle "PUMP-221" false) "m" pumpMutation enterprise workerSettings
          (Text.ofString "req-1") 0 commands ∧
        ∃ command ∈ commands, command.requiresHumanApproval = false := by
  obtain ⟨commands, produced⟩ := pump_produces .degradeThrottle "PUMP-221" false
  obtain ⟨command, member, kind⟩ := pump_command produced
  refine ⟨rfl, commands, produced, command, member, ?_⟩
  rw [(batch produced).approval command member, kind, Worker.requiresApproval,
    enterprise_autonomous]
  rfl

/-- The batch of a response that orders an isolation or a shutdown holds such a command
exactly when an irreversible step is among those the worker reaches, or there is no step. -/
theorem isolation_kept_iff
    (produced : Produces conversions unicode texts action model mutation subscription settings
      correlationID issuedAt commands)
    (ordered : action.actionType = .isolateValve ∨ action.actionType = .emergencyShutdown) :
    (∃ command ∈ commands, command.actionType = .isolate ∨ command.actionType = .shutdown) ↔
      ReachesIrreversible settings action := by
  have hard : action.actionType ≠ .degradeThrottle := by
    rcases ordered with valve | shutdown
    · rw [valve]
      decide
    · rw [shutdown]
      decide
  rw [(batch produced).isolates_iff]
  exact and_iff_right hard

theorem isolation_kept_shutdown :
    ∃ commands, Produces plainConversions asciiUnicode plainTexts
        (pumpResponse .emergencyShutdown "PUMP-221" false) "m" pumpMutation enterprise workerSettings
        (Text.ofString "req-1") 0 commands ∧
      ∃ command ∈ commands, command.actionType = .isolate ∨ command.actionType = .shutdown := by
  obtain ⟨commands, produced⟩ := pump_produces .emergencyShutdown "PUMP-221" false
  exact ⟨commands, produced, (isolation_kept_iff produced (Or.inr rfl)).mpr
    (Or.inr ⟨_, List.mem_singleton_self _, rfl⟩)⟩

/-- An isolation whose only step is reversible becomes an inspection. -/
theorem valve_inspected :
    ∃ commands, Produces plainConversions asciiUnicode plainTexts
        (pumpResponse .isolateValve "PUMP-221" true) "m" pumpMutation enterprise workerSettings
        (Text.ofString "req-1") 0 commands ∧
      ¬∃ command ∈ commands, command.actionType = .isolate ∨ command.actionType = .shutdown := by
  obtain ⟨commands, produced⟩ := pump_produces .isolateValve "PUMP-221" true
  refine ⟨commands, produced, ?_⟩
  rw [(batch produced).isolates_iff]
  rintro ⟨-, no_step | ⟨step, reached, kept⟩⟩
  · exact List.cons_ne_nil _ _ no_step
  · rw [List.mem_singleton.mp reached] at kept
    exact Bool.noConfusion kept

/-- The isolations and shutdowns of the batch land on the target of the response exactly
when that is the asset of the mutation, or the batch holds none. -/
theorem lands_on_target_iff
    (produced : Produces conversions unicode texts action model mutation subscription settings
      correlationID issuedAt commands) :
    (∀ command ∈ commands, command.actionType = .isolate ∨ command.actionType = .shutdown →
        command.targetAssetID = action.targetAssetID) ↔
      mutation.assetID = action.targetAssetID ∨ action.actionType = .degradeThrottle ∨
        ¬ReachesIrreversible settings action := by
  have held := batch produced
  have found := held.isolates_iff
  constructor
  · intro lands
    by_cases hard : ∃ command ∈ commands, command.actionType = .isolate ∨ command.actionType = .shutdown
    · obtain ⟨command, member, kind⟩ := hard
      exact Or.inl ((held.target command member).symm.trans (lands command member kind))
    · rw [found, not_and_or, not_not] at hard
      exact Or.inr hard
  · intro safe command member kind
    rw [held.target command member]
    rcases safe with local_fault | soft
    · exact local_fault
    · have hard := found.mp ⟨command, member, kind⟩
      rcases soft with throttle | unreached
      · exact absurd throttle hard.1
      · exact absurd hard.2 unreached

theorem lands_on_target_local :
    ∃ commands, Produces plainConversions asciiUnicode plainTexts
        (pumpResponse .emergencyShutdown "PUMP-221" false) "m" pumpMutation enterprise workerSettings
        (Text.ofString "req-1") 0 commands ∧
      ∀ command ∈ commands, command.actionType = .isolate ∨ command.actionType = .shutdown →
        command.targetAssetID = "PUMP-221" := by
  obtain ⟨commands, produced⟩ := pump_produces .emergencyShutdown "PUMP-221" false
  exact ⟨commands, produced, (lands_on_target_iff produced).mpr (Or.inl rfl)⟩

/-- A shutdown of the cascade's origin is commanded on the asset that reported it. -/
theorem cascade_misdirected :
    ∃ commands, Produces plainConversions asciiUnicode plainTexts
        (pumpResponse .emergencyShutdown "BOILER-7" false) "m" pumpMutation enterprise workerSettings
        (Text.ofString "req-1") 0 commands ∧
      ∃ command ∈ commands, command.actionType = .shutdown ∧ command.targetAssetID = "PUMP-221" ∧
        command.targetAssetID ≠ (pumpResponse .emergencyShutdown "BOILER-7" false).targetAssetID := by
  obtain ⟨commands, produced⟩ := pump_produces .emergencyShutdown "BOILER-7" false
  obtain ⟨command, member, kind⟩ := pump_command produced
  have target := (batch produced).target command member
  refine ⟨commands, produced, command, member, kind, target, ?_⟩
  rw [target]
  decide

end

end OpenOntology.Bridge
