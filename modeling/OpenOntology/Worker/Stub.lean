import OpenOntology.Bridge.Plan
import OpenOntology.Worker.Payload

/-!
# The stub interceptor

The worker's own planner: a plan from fixed rules on the transition, the severity and the
sensor. On a degraded context it drops the actions that cannot be undone, and asks for an
inspection where nothing is left.
-/
namespace OpenOntology.Worker

open Python Library
open Bridge (text entry)

/-! ## Steps -/

section
variable (settings : WorkerSettings) (formatG : Float → String) (payload : EnrichedContextPayload)

/-- `_component_for` -/
def componentFor : String :=
  match payload.ontologyContext.components with
  | component :: _ => component
  | [] =>
    match payload.ontologyContext.immediateParent with
    | some parent =>
      if parent.name = "" then orElse payload.ontologyContext.assetName payload.assetID
      else parent.name
    | none => orElse payload.ontologyContext.assetName payload.assetID

/-- The operator's name, or the desk. -/
def stubAssignee : String :=
  match payload.ontologyContext.primaryOperator with
  | some operator => orElse operator.name "duty-engineer"
  | none => "duty-engineer"

def stubUnit : String := payload.rule.unit.getD ""

/-- The reading against its limit, as the parameters of a step. -/
def stubReading : Members :=
  [entry "sensor_id" (text payload.sensorID),
    entry "observed_value" (.float payload.rule.observedValue),
    entry "threshold" (.float payload.rule.threshold), entry "unit" (text (stubUnit payload))]

/-- `PlannedAction(…)` for the component, assigned to the first operator: the texts are
stripped, the action and the priority are words of the source. -/
def stubStep (sequence : Int) (action priority : String) (parameters : Members) (effect : String)
    (rollback : Option String) (deadline : Nat) (ordered : 1 ≤ sequence)
    (words : 1 ≤ action.length ∧ 1 ≤ priority.length) (bounded : deadline ≤ 604800) :
    PlannedAction where
  sequence := sequence
  targetComponent := stripWhitespace (componentFor payload)
  action := action
  priority := priority
  assignedTo := stripWhitespace (stubAssignee payload)
  assignedOperatorID := payload.ontologyContext.primaryOperator.map fun operator =>
    stripWhitespace operator.operatorID
  parameters := parameters
  expectedEffect := stripWhitespace effect
  rollback := rollback.map stripWhitespace
  deadlineSeconds := deadline
  ordered := ordered
  named := words.1
  ranked := words.2
  bounded := bounded

def stubShutdown : PlannedAction :=
  stubStep payload 1 "SHUTDOWN" "CRITICAL"
      (stubReading payload ++ [entry "ramp_down_seconds" (.int 60)])
      ("Remove thermal load from " ++ componentFor payload ++ "; " ++ payload.sensorID ++ " is " ++
        formatG payload.rule.observedValue ++ stubUnit payload ++ " against a " ++
        formatG payload.rule.threshold ++ stubUnit payload ++ " ceiling.")
      (some ("Restart only after the bearing temperature is below 80% of the ceiling for " ++
        "10 minutes."))
      300 (by decide) (by decide +kernel) (by decide)

def stubIsolate : PlannedAction :=
  stubStep payload 1 "ISOLATE" "CRITICAL"
      (stubReading payload ++ [entry "isolation_mode" (text "electrical_and_process")])
      ("Isolate " ++ componentFor payload ++ " before secondary damage; " ++ payload.sensorID ++
        " is " ++ formatG payload.rule.observedValue ++ stubUnit payload ++ " against a " ++
        formatG payload.rule.threshold ++ stubUnit payload ++ " limit.")
      (some "Restore only under a permit to work, after a vibration survey.")
      300 (by decide) (by decide +kernel) (by decide)

def stubMaintenance : PlannedAction :=
  stubStep payload 2 "SCHEDULE_MAINTENANCE" "HIGH"
      [entry "window" (text (orElse (payload.ontologyContext.maintenanceWindow.getD "")
        "next_available")), entry "work_type" (text "root_cause_inspection")]
      ("Book intrusive inspection of " ++ componentFor payload ++ " in the next maintenance window.")
      none 86400 (by decide) (by decide +kernel) (by decide)

def stubShiftSpeed : PlannedAction :=
  stubStep payload 1 "SHIFT_SPEED" "HIGH"
      (stubReading payload ++ [entry "target_setpoint_pct" (.int 80), entry "ramp_seconds" (.int 120)])
      ("Derate " ++ componentFor payload ++ " to 80% to pull " ++ payload.sensorID ++
        " back under " ++ formatG payload.rule.threshold ++ stubUnit payload ++ ".")
      (some ("Return to the original setpoint once the reading holds below the limit for " ++
        "15 minutes."))
      600 (by decide) (by decide +kernel) (by decide)

def stubInspect : PlannedAction :=
  stubStep payload 2 "INSPECT" "HIGH"
      [entry "method" (text "walkdown"), entry "focus" (text payload.sensorID)]
      ("Confirm whether the " ++ payload.sensorID ++ " excursion on " ++ componentFor payload ++
        " is real or instrumentation drift.")
      none 3600 (by decide) (by decide +kernel) (by decide)

def stubAcknowledge : PlannedAction :=
  stubStep payload 1 "ACKNOWLEDGE" "LOW"
      [entry "sensor_id" (text payload.sensorID),
        entry "observed_value" (.float payload.rule.observedValue)]
      ("Close the " ++ payload.sensorID ++ " alarm on " ++ payload.assetID ++
        "; the reading is back inside limits.")
      none settings.defaultDeadlineSeconds (by decide) (by decide +kernel) settings.deadline.2

def stubNotify : PlannedAction :=
  stubStep payload 1 "NOTIFY" "LOW"
      [entry "sensor_id" (text payload.sensorID),
        entry "observed_value" (.float payload.rule.observedValue)]
      ("Raise " ++ payload.assetID ++ " " ++ payload.sensorID ++ " on the shift handover log.")
      none settings.defaultDeadlineSeconds (by decide) (by decide +kernel) settings.deadline.2

/-- Where a degraded context leaves no other step. -/
def stubDegraded : PlannedAction :=
  stubStep payload 1 "INSPECT" "HIGH"
      [entry "reason" (text "degraded_context"), entry "sensor_id" (text payload.sensorID)]
      ("Graph context for " ++ payload.assetID ++
        " is incomplete; verify on site before actuating.")
      none 1800 (by decide) (by decide +kernel) (by decide)

/-! ## The plan -/

/-- The rules on the transition, the severity and the sensor. -/
def stubRules : List PlannedAction :=
  if payload.transition = .cleared then [stubAcknowledge settings payload]
  else if payload.severity = .critical then
    if payload.sensorID = "temperature_celsius" then
      [stubShutdown formatG payload, stubMaintenance payload]
    else [stubIsolate formatG payload, stubMaintenance payload]
  else if payload.severity = .high then [stubShiftSpeed formatG payload, stubInspect payload]
  else [stubNotify settings payload]

/-- Thin context is a reason to look before acting. -/
def stubCautious (actions : List PlannedAction) : List PlannedAction :=
  if payload.degraded = true then
    let kept := actions.filter fun action => action.action ∉ ["SHUTDOWN", "ISOLATE"]
    if kept = [] then [stubDegraded payload] else kept
  else actions

/-- The steps are numbered from one. -/
def renumber (actions : List PlannedAction) : List PlannedAction :=
  actions.mapIdx fun index action => { action with
    sequence := index + 1
    ordered := by omega }

def stubCommands : List PlannedAction :=
  renumber ((stubCautious payload (stubRules settings formatG payload)).take settings.maxCommands)

theorem renumber_length (actions : List PlannedAction) :
    (renumber actions).length = actions.length := List.length_mapIdx

theorem stubRules_ne_nil : stubRules settings formatG payload ≠ [] := by
  unfold stubRules
  repeat' split
  all_goals nofun

theorem stubCautious_ne_nil {actions : List PlannedAction} (some_action : actions ≠ []) :
    stubCautious payload actions ≠ [] := by
  unfold stubCautious
  split
  · dsimp only
    split
    next => nofun
    next kept => exact kept
  · exact some_action

theorem stubCommands_length : 1 ≤ (stubCommands settings formatG payload).length := by
  have allowed := settings.commands.1
  have kept := List.length_pos_iff.mpr
    (stubCautious_ne_nil payload (stubRules_ne_nil settings formatG payload))
  rw [stubCommands, renumber_length, List.length_take]
  omega

theorem stubCommands_length_le :
    (stubCommands settings formatG payload).length ≤ settings.maxCommands := by
  rw [stubCommands, renumber_length, List.length_take]
  exact Nat.min_le_left _ _

def stubEscalates : Bool :=
  payload.severity == .critical || payload.ontologyContext.criticality == "SAFETY_CRITICAL"

def stubEscalation : Escalation where
  required := stubEscalates payload
  notify := (payload.ontologyContext.escalationChain.take 3).map fun operator =>
    Text.ofString operator.operatorID
  reason := Text.ofString
    (if stubEscalates payload = true then "Critical severity on a governed asset." else "")
  slaSeconds := if stubEscalates payload = true then 900 else 0

def stubSummary : String :=
  payload.sensorID ++ " on " ++ payload.assetID ++ " reported " ++
    formatG payload.rule.observedValue ++ stubUnit payload ++ " against a " ++
    formatG payload.rule.threshold ++ stubUnit payload ++ " limit (" ++ payload.transition.value ++
    ", " ++ payload.severity.value ++ "); " ++
    toString (stubCommands settings formatG payload).length ++ " action(s) issued against " ++
    componentFor payload ++ "."

/-- `StubInterceptor.plan`, with the digits of a fresh identifier. -/
def stubPlan (subscription : Subscription) (fresh : String) : ActionPlan where
  planID := "plan_stub_" ++ fresh
  eventID := payload.eventID
  assetID := payload.assetID
  tenant := subscription.tenant
  model := Text.ofString "stub-interceptor"
  confidence := if payload.degraded = true then 0.55 else 0.86
  reasoningSummary := Text.ofString (stubSummary settings formatG payload)
  commands := stubCommands settings formatG payload
  escalation := stubEscalation payload
  evidence := [
    Text.ofString ("rule=" ++ orElse payload.rule.ruleID "n/a"),
    Text.ofString ("breach_count=" ++ toString payload.breachCount),
    Text.ofString ("snapshot_complete=" ++
      if payload.telemetrySnapshot.complete = true then "True" else "False")]
  identified := ⟨by simp only [String.length_append]; exact Nat.le_add_right_of_le (by decide +kernel),
    payload.identified.1, payload.identified.2.1⟩
  probable := by split <;> decide +kernel
  instructs := stubCommands_length settings formatG payload

end

/-! ## What the steps are -/

/-- The keys are strings that UTF-8 can carry. -/
def Keyed (members : Members) : Prop := ∀ held ∈ members, ∃ name, held.1 = Text.ofString name

@[simp] theorem keyed_nil : Keyed [] := fun _ never => absurd never List.not_mem_nil

@[simp] theorem keyed_entry (name : String) (value : PyJson) (rest : Members) :
    Keyed (entry name value :: rest) ↔ Keyed rest := by
  unfold Keyed
  rw [List.forall_mem_cons]
  exact and_iff_right ⟨name, rfl⟩

@[simp] theorem keyed_append (first rest : Members) :
    Keyed (first ++ rest) ↔ Keyed first ∧ Keyed rest := List.forall_mem_append

theorem Keyed.assign {members : Members} (keyed : Keyed members) (name : String) (value : PyJson) :
    Keyed (members.assign (Text.ofString name) value) := by
  intro held member
  unfold Members.assign at member
  split at member
  · obtain ⟨original, inside, rfl⟩ := List.mem_map.mp member
    split
    · exact ⟨name, rfl⟩
    · exact keyed original inside
  · rcases List.mem_append.mp member with inside | last
    · exact keyed held inside
    · rw [List.mem_singleton.mp last]
      exact ⟨name, rfl⟩

/-- Such a dictionary is kept, under the stripped keys. -/
theorem dictOf_keyed {members : Members} (keyed : Keyed members) :
    ∃ held, dictOf (.obj members) = some held ∧ Keyed held := by
  suffices all : ∀ built, Keyed built → ∃ held, members.foldlM (fun built entry => do
      let key ← strippedStr 0 entry.1
      pure (built.assign (Text.ofString key) entry.2)) built = some held ∧ Keyed held from
    all [] fun _ never => absurd never List.not_mem_nil
  induction members with
  | nil => exact fun built carried => ⟨built, rfl, carried⟩
  | cons first rest ih =>
    intro built carried
    obtain ⟨name, named⟩ := keyed first List.mem_cons_self
    have later : Keyed rest := fun other member => keyed other (List.mem_cons_of_mem first member)
    obtain ⟨held, kept, stays⟩ := ih later _ (carried.assign (stripWhitespace name) first.2)
    refine ⟨held, ?_, stays⟩
    rw [List.foldlM_cons, named, strippedStr_zero]
    exact kept

theorem resolve_value (unicode : Unicode) (kind : ActionType) :
    resolveAlias unicode actionAliases kind.value = some kind := by
  rw [resolveAlias_word]
  · cases kind <;> rfl
  · cases kind <;> simp [ActionType.value]
  · cases kind <;> rfl

def ExecutionPriority.value : ExecutionPriority → String
  | .critical => "CRITICAL"
  | .high => "HIGH"
  | .low => "LOW"

theorem resolve_priority_value (unicode : Unicode) (rank : ExecutionPriority) :
    resolveAlias unicode priorityAliases rank.value = some rank := by
  rw [resolveAlias_word]
  · cases rank <;> rfl
  · cases rank <;> simp [ExecutionPriority.value]
  · cases rank <;> rfl

/-- A step in the words of the two vocabularies. -/
structure Worded (planned : PlannedAction) : Prop where
  action : ∃ kind : ActionType, planned.action = kind.value
  priority : ∃ rank : ExecutionPriority, planned.priority = rank.value
  parameters : Keyed planned.parameters

theorem Worded.spoken {planned : PlannedAction} (worded : Worded planned) (unicode : Unicode) :
    Spoken unicode planned := by
  obtain ⟨⟨kind, named⟩, ⟨rank, ranked⟩, keyed⟩ := worded
  obtain ⟨held, kept, -⟩ := dictOf_keyed keyed
  refine ⟨⟨kind, ?_⟩, ⟨rank, ?_⟩, held, kept⟩
  · rw [named, resolve_value]
  · rw [ranked, resolve_priority_value]

section
variable {settings : WorkerSettings} {formatG : Float → String} {payload : EnrichedContextPayload}

theorem stubStep_worded {sequence : Int} {parameters : Members} {effect : String}
    {rollback : Option String} {deadline : Nat} (kind : ActionType) (rank : ExecutionPriority)
    (ordered : 1 ≤ sequence) (words : 1 ≤ kind.value.length ∧ 1 ≤ rank.value.length)
    (bounded : deadline ≤ 604800) (keyed : Keyed parameters) :
    Worded (stubStep payload sequence kind.value rank.value parameters effect rollback deadline
      ordered words bounded) :=
  ⟨⟨kind, rfl⟩, ⟨rank, rfl⟩, keyed⟩

theorem stubDegraded_worded : Worded (stubDegraded payload) :=
  stubStep_worded .inspect .high _ _ _ (by simp)

theorem stubRules_worded :
    ∀ planned ∈ stubRules settings formatG payload, Worded planned := by
  have acknowledge : Worded (stubAcknowledge settings payload) :=
    stubStep_worded .acknowledge .low _ _ _ (by simp)
  have shutdown : Worded (stubShutdown formatG payload) :=
    stubStep_worded .shutdown .critical _ _ _ (by simp [stubReading])
  have isolate : Worded (stubIsolate formatG payload) :=
    stubStep_worded .isolate .critical _ _ _ (by simp [stubReading])
  have maintenance : Worded (stubMaintenance payload) :=
    stubStep_worded .scheduleMaintenance .high _ _ _ (by simp)
  have shiftSpeed : Worded (stubShiftSpeed formatG payload) :=
    stubStep_worded .shiftSpeed .high _ _ _ (by simp [stubReading])
  have inspect : Worded (stubInspect payload) :=
    stubStep_worded .inspect .high _ _ _ (by simp)
  have notify : Worded (stubNotify settings payload) :=
    stubStep_worded .notify .low _ _ _ (by simp)
  unfold stubRules
  repeat' split
  all_goals simp [acknowledge, shutdown, isolate, maintenance, shiftSpeed, inspect, notify]

theorem stubCautious_worded {actions : List PlannedAction} (worded : ∀ planned ∈ actions, Worded planned) :
    ∀ planned ∈ stubCautious payload actions, Worded planned := by
  intro planned member
  unfold stubCautious at member
  split at member
  · dsimp only at member
    split at member
    · rw [List.mem_singleton.mp member]
      exact stubDegraded_worded
    · exact worded planned (List.mem_of_mem_filter member)
  · exact worded planned member

/-- A renumbered step is the step in its place, but for the number. -/
theorem mem_renumber {actions : List PlannedAction} {planned : PlannedAction}
    (member : planned ∈ renumber actions) :
    ∃ original ∈ actions, planned.action = original.action ∧
      planned.priority = original.priority ∧ planned.parameters = original.parameters := by
  obtain ⟨index, within, rfl⟩ := List.mem_mapIdx.mp member
  exact ⟨actions[index], List.getElem_mem within, rfl, rfl, rfl⟩

/-- Each step of the plan is a step of the rules, or the inspection in their place. -/
theorem mem_stubCommands {planned : PlannedAction}
    (member : planned ∈ stubCommands settings formatG payload) :
    ∃ original ∈ stubCautious payload (stubRules settings formatG payload),
      planned.action = original.action ∧ planned.priority = original.priority ∧
        planned.parameters = original.parameters := by
  obtain ⟨original, taken, same⟩ := mem_renumber member
  exact ⟨original, List.mem_of_mem_take taken, same⟩

theorem stubCommands_worded :
    ∀ planned ∈ stubCommands settings formatG payload, Worded planned := by
  intro planned member
  obtain ⟨original, kept, action, priority, parameters⟩ := mem_stubCommands member
  obtain ⟨named, ranked, keyed⟩ := stubCautious_worded stubRules_worded original kept
  rw [← action] at named
  rw [← priority] at ranked
  rw [← parameters] at keyed
  exact ⟨named, ranked, keyed⟩

/-- On a degraded context no step isolates or shuts down. -/
theorem stubCommands_cautious (degraded : payload.degraded = true) :
    ∀ planned ∈ stubCommands settings formatG payload,
      planned.action ∉ ["SHUTDOWN", "ISOLATE"] := by
  intro planned member
  obtain ⟨original, kept, action, -, -⟩ := mem_stubCommands member
  rw [action]
  unfold stubCautious at kept
  rw [if_pos degraded] at kept
  dsimp only at kept
  split at kept
  · rw [List.mem_singleton.mp kept]
    show "INSPECT" ∉ ["SHUTDOWN", "ISOLATE"]
    decide
  · exact of_decide_eq_true (List.mem_filter.mp kept).2

end

end OpenOntology.Worker
