import OpenOntology.Bridge.Plan
import OpenOntology.Worker.Payload

/-!
# The offline provider

The interceptor's planner without a model behind it: `_derive_plan` reads the briefing of a
mutation and derives a command sequence from it, which is then held to the contract that a
model's answer is held to, and rendered as the response the worker parses.
-/
namespace OpenOntology.Intercept

open Python Library
open Bridge (text entry)
open Worker (Severity TransitionKind Operator SystemNode TelemetrySnapshot EnrichedContextPayload
  orElse)

/-! ## Vocabularies -/

inductive ActionType where
  | isolate
  | shutdown
  | throttle
  | inspect
  | scheduleMaintenance
  | notify
  | acknowledge
  deriving DecidableEq, Repr

def ActionType.value : ActionType → String
  | .isolate => "ISOLATE"
  | .shutdown => "SHUTDOWN"
  | .throttle => "THROTTLE"
  | .inspect => "INSPECT"
  | .scheduleMaintenance => "SCHEDULE_MAINTENANCE"
  | .notify => "NOTIFY"
  | .acknowledge => "ACKNOWLEDGE"

inductive Priority where
  | critical
  | high
  | medium
  | low
  deriving DecidableEq, Repr

def Priority.value : Priority → String
  | .critical => "CRITICAL"
  | .high => "HIGH"
  | .medium => "MEDIUM"
  | .low => "LOW"

def defaultAllowedActions : List ActionType :=
  [.isolate, .shutdown, .throttle, .inspect, .scheduleMaintenance, .notify, .acknowledge]

/-! ## The briefing -/

structure AssetBriefing where
  assetID : String
  name : String
  site : String
  criticality : String
  maintenanceWindow : Option String
  components : List String
  parentSystems : List SystemNode

structure AnomalyBriefing where
  severity : Severity
  transition : TransitionKind
  breachCount : Int
  sensorID : String
  observedValue : Float
  threshold : Float
  unit : Option String
  exceededPct : Float

structure ConstraintsBriefing where
  maxCommands : Nat
  allowedActions : List ActionType
  contextDegraded : Bool

structure Briefing where
  asset : AssetBriefing
  anomaly : AnomalyBriefing
  telemetrySnapshot : TelemetrySnapshot
  operators : List Operator
  constraints : ConstraintsBriefing

structure RemediationPromptContext where
  payload : EnrichedContextPayload
  maxCommands : Nat
  allowedActions : List ActionType := defaultAllowedActions
  commands : 1 ≤ maxCommands ∧ maxCommands ≤ 20

/-- The prompt of the endpoint. -/
def promptContext (payload : EnrichedContextPayload) (maxCommands : Nat)
    (commands : 1 ≤ maxCommands ∧ maxCommands ≤ 20) : RemediationPromptContext :=
  { payload, maxCommands, commands }

def RemediationPromptContext.briefing (context : RemediationPromptContext) : Briefing :=
  let ontology := context.payload.ontologyContext
  { asset := {
      assetID := orElse ontology.assetID context.payload.assetID
      name := ontology.assetName
      site := ontology.site
      criticality := ontology.criticality
      maintenanceWindow := ontology.maintenanceWindow
      components := ontology.components
      parentSystems := ontology.parentSystems.mergeSort fun a b => a.depth ≤ b.depth }
    anomaly := {
      severity := context.payload.severity
      transition := context.payload.transition
      breachCount := context.payload.breachCount
      sensorID := context.payload.sensorID
      observedValue := context.payload.rule.observedValue
      threshold := context.payload.rule.threshold
      unit := context.payload.rule.unit
      exceededPct := context.payload.rule.exceededPct }
    telemetrySnapshot := context.payload.telemetrySnapshot
    operators := ontology.escalationChain
    constraints := {
      maxCommands := context.maxCommands
      allowedActions := context.allowedActions
      contextDegraded := context.payload.degraded } }

/-! ## Plans -/

structure Command where
  sequence : Nat
  targetComponent : String
  action : ActionType
  priority : Priority
  assignedTo : String
  assignedOperatorID : Option String
  parameters : Members
  expectedEffect : String
  rollback : Option String
  deadlineSeconds : Nat

structure Escalation where
  required : Bool
  notify : List String
  reason : String
  slaSeconds : Nat

/-- The answer of a provider. -/
structure ToolInput where
  confidence : Float
  reasoningSummary : String
  commands : List Command
  escalation : Escalation
  evidence : List String

section
variable (formatG : Float → String) (unicode : Unicode) (briefing : Briefing)

/-- `_COMPONENT_AFFINITY` -/
def componentAffinity : List (String × List String) :=
  [("vibration_index", ["bearing", "spindle", "coupling", "rotor", "fan", "drive", "pump"]),
    ("temperature_celsius", ["bearing", "egt", "thermal", "coolant", "inverter", "seal", "motor"])]

/-- `_SENSOR_LABEL` -/
def sensorLabels : List (String × String) :=
  [("vibration_index", "broadband vibration"), ("temperature_celsius", "temperature")]

/-- `keyword in component.lower()` -/
def mentions (keyword component : String) : Bool :=
  (unicode.lower (Text.ofString component)).tails.any fun rest =>
    (Text.ofString keyword).isPrefixOf rest

/-- `_select_component` -/
def selectComponent (sensorID : String) (components : List String) (fallback : String) : String :=
  ((((componentAffinity.lookup sensorID).getD []).findSome? fun keyword =>
    components.find? (mentions unicode keyword)).or components.head?).getD fallback

def assetLabel : String := orElse briefing.asset.name briefing.asset.assetID

def target : String :=
  selectComponent unicode briefing.anomaly.sensorID briefing.asset.components (assetLabel briefing)

def parentName : String :=
  (briefing.asset.parentSystems.head?.map SystemNode.name).getD (assetLabel briefing)

def primaryName : String :=
  (briefing.operators.head?.map Operator.name).getD "Site duty desk"

def primaryID : Option String := briefing.operators.head?.map Operator.operatorID

/-- Everyone after the first operator, or the desk. -/
def notified : List String :=
  match briefing.operators.tail with
  | [] => ["Site duty desk"]
  | others => others.map Operator.name

def notifiedName : String := (notified briefing).head?.getD "Site duty desk"

def sensorLabel : String :=
  (sensorLabels.lookup briefing.anomaly.sensorID).getD briefing.anomaly.sensorID

/-- A unit after a blank, where there is one. -/
def spaced (unit : Option String) : String :=
  match unit with
  | some unit => if unit = "" then "" else " " ++ unit
  | none => ""

def magnitude : String :=
  formatG briefing.anomaly.observedValue ++ spaced briefing.anomaly.unit ++ " against a " ++
    formatG briefing.anomaly.threshold ++ " limit"

/-- A call of `add`, assigned to the first operator. -/
def offer (action : ActionType) (priority : Priority) (component effect : String)
    (rollback : Option String) (deadline : Nat) (parameters : Members) : Command where
  sequence := 0
  targetComponent := component
  action := action
  priority := priority
  assignedTo := primaryName briefing
  assignedOperatorID := primaryID briefing
  parameters := parameters
  expectedEffect := effect
  rollback := rollback
  deadlineSeconds := deadline

/-- `add`: the action is allowed and there is room for one more. -/
def add (commands : List Command) (command : Command) : List Command :=
  if command.action ∉ briefing.constraints.allowedActions ∨
      briefing.constraints.maxCommands ≤ commands.length then commands
  else commands ++ [{ command with sequence := commands.length + 1 }]

def maintenanceWindow : Members :=
  [entry "maintenance_window" ((briefing.asset.maintenanceWindow.map text).getD .null)]

def clearedOffers : List Command :=
  [offer briefing .acknowledge .low (target unicode briefing)
      ("Close the " ++ sensorLabel briefing ++ " alarm on " ++ assetLabel briefing ++
        " after recovery below limit.")
      (some "Re-open the alarm if the reading breaches again within one shift.") 3600
      [entry "reason" (text "value recovered below the clearing threshold")],
    offer briefing .scheduleMaintenance .low (target unicode briefing)
      ("Book a trend review of " ++ target unicode briefing ++ " at the next maintenance window.")
      (some "Cancel the work order if the trend review is not required.") 86400
      (maintenanceWindow briefing)]

def isolateOffer : Command :=
  offer briefing .isolate .critical (target unicode briefing)
    ("Remove " ++ target unicode briefing ++ " from load, halting " ++ sensorLabel briefing ++
      " excursion at " ++ magnitude formatG briefing ++ ".")
    (some "Return to service only after inspection sign-off and a clean restart trend.") 300
    [entry "isolation_scope" (text (parentName briefing)),
      entry "confirm_zero_energy" (.bool true),
      entry "sensor_id" (text briefing.anomaly.sensorID),
      entry "observed_value" (.float briefing.anomaly.observedValue)]

def shutdownOffer : Command :=
  offer briefing .shutdown .critical (parentName briefing)
    ("Bring " ++ parentName briefing ++ " to a controlled stop; the asset is safety critical.")
    (some "Restart per the approved return-to-service procedure.") 600
    [entry "mode" (text "controlled"),
      entry "reason" (text (sensorLabel briefing ++ " exceeded limit by " ++
        formatG briefing.anomaly.exceededPct ++ "%"))]

def inspectOffer : Command :=
  offer briefing .inspect .high (target unicode briefing)
    ("Confirm the root cause of the " ++ sensorLabel briefing ++ " excursion on " ++
      target unicode briefing ++ ".")
    none 1800
    [entry "method" (text (if briefing.anomaly.sensorID = "temperature_celsius" then
      "borescope+thermography" else "vibration_survey"))]

def notifyOffer : Command where
  sequence := 0
  targetComponent := assetLabel briefing
  action := .notify
  priority := .high
  assignedTo := notifiedName briefing
  assignedOperatorID := briefing.operators.tail.head?.map Operator.operatorID
  parameters := [entry "channel" (text "incident_bridge"),
    entry "recipients" (.arr ((notified briefing).map text))]
  expectedEffect := "Escalate to the accountable engineer and open an incident record."
  rollback := none
  deadlineSeconds := 600

def safetyCritical : Bool := briefing.asset.criticality == "SAFETY_CRITICAL"

def criticalOffers : List Command :=
  [isolateOffer formatG unicode briefing] ++
    (if safetyCritical briefing = true then [shutdownOffer formatG briefing] else []) ++
    [inspectOffer unicode briefing, notifyOffer briefing]

def breachOffers : List Command :=
  [offer briefing .throttle .high (target unicode briefing)
      ("Reduce duty on " ++ target unicode briefing ++ " to bring " ++ sensorLabel briefing ++
        " back below " ++ formatG briefing.anomaly.threshold ++ spaced briefing.anomaly.unit ++ ".")
      (some "Restore the previous setpoint once the reading is stable below the limit.") 900
      [entry "target_reduction_pct" (.int 20),
        entry "sensor_id" (text briefing.anomaly.sensorID)],
    offer briefing .inspect .medium (target unicode briefing)
      ("Trend " ++ sensorLabel briefing ++ " on " ++ target unicode briefing ++
        " for the remainder of the shift.")
      none 7200 [entry "sample_interval_seconds" (.int 60)],
    offer briefing .scheduleMaintenance .medium (target unicode briefing)
      ("Raise a work order against " ++ target unicode briefing ++
        " for the next maintenance window.")
      (some "Cancel the work order if the trend returns to nominal.") 86400
      (maintenanceWindow briefing)]

def offers : List Command :=
  if briefing.anomaly.transition = .cleared then clearedOffers unicode briefing
  else if briefing.anomaly.severity = .critical then criticalOffers formatG unicode briefing
  else breachOffers formatG unicode briefing

/-- Where no action is permitted. -/
def fallbackCommand : Command :=
  { offer briefing .notify .high (target unicode briefing)
      "Hand the anomaly to a human for manual disposition." none 900
      [entry "reason" (text "no permitted action available for this tier")] with sequence := 1 }

def derivedCommands : List Command :=
  let commands := (offers formatG unicode briefing).foldl (add briefing) []
  if commands = [] then [fallbackCommand unicode briefing] else commands

def Briefing.escalates : Bool :=
  briefing.anomaly.transition != .cleared && briefing.anomaly.severity == .critical

def confidence : Float :=
  let start : Float :=
    if briefing.anomaly.transition = .cleared then 0.72
    else if briefing.anomaly.severity = .critical then 0.91 else 0.78
  let degraded := if briefing.constraints.contextDegraded = true then Python.round (start - 0.2) 2
    else start
  let snapshot := if briefing.telemetrySnapshot.complete = true then degraded
    else Python.round (degraded - 0.05) 2
  Python.max 0.05 (Python.min 1.0 snapshot)

def reasoningSummary : String :=
  briefing.anomaly.severity.value ++ " " ++ briefing.anomaly.transition.value ++ " on " ++
    assetLabel briefing ++ ": " ++ sensorLabel briefing ++ " reached " ++
    magnitude formatG briefing ++ ". The plan acts on " ++ target unicode briefing ++ " within " ++
    parentName briefing ++ ", assigns " ++ primaryName briefing ++ ", and " ++
    (if briefing.escalates = true then "escalates to the accountable engineer"
      else "keeps the asset under observation") ++ "."

def derivedEscalation : Escalation where
  required := briefing.escalates
  notify := notified briefing
  reason :=
    if briefing.anomaly.transition = .cleared then "Anomaly cleared; no escalation required."
    else if briefing.anomaly.severity = .critical then
      sensorLabel briefing ++ " on " ++ assetLabel briefing ++ " reached " ++
        magnitude formatG briefing ++ " (" ++ formatG briefing.anomaly.exceededPct ++
        "% over limit)."
    else "Threshold breach contained by throttling; monitoring in place."
  slaSeconds :=
    if briefing.anomaly.transition = .cleared then 0
    else if briefing.anomaly.severity = .critical then 900 else 3600

def evidence : List String :=
  [briefing.anomaly.sensorID ++ " observed at " ++ formatG briefing.anomaly.observedValue ++
      spaced briefing.anomaly.unit ++ " vs limit " ++ formatG briefing.anomaly.threshold ++ " (" ++
      formatG briefing.anomaly.exceededPct ++ "% over)",
    "transition=" ++ briefing.anomaly.transition.value ++ ", breach_count=" ++
      toString briefing.anomaly.breachCount,
    "asset criticality=" ++ briefing.asset.criticality ++ ", site=" ++ briefing.asset.site] ++
  briefing.telemetrySnapshot.readings.map fun reading =>
    reading.sensorID ++ "=" ++ formatG reading.value ++ spaced reading.unit ++ " (age " ++
      formatG reading.ageSeconds ++ "s)"

/-- `_derive_plan` -/
def derivePlan : ToolInput where
  confidence := confidence briefing
  reasoningSummary := reasoningSummary formatG unicode briefing
  commands := derivedCommands formatG unicode briefing
  escalation := derivedEscalation formatG briefing
  evidence := evidence formatG briefing

end

/-! ## The commands of a plan -/

/-- The commands in order, numbered from a number on. -/
def numberFrom : Nat → List Command → List Command
  | _, [] => []
  | n, command :: rest => { command with sequence := n } :: numberFrom (n + 1) rest

theorem numberFrom_sequence (n : Nat) (commands : List Command) :
    (numberFrom n commands).map Command.sequence = List.range' n commands.length := by
  induction commands generalizing n with
  | nil => rfl
  | cons command rest ih =>
    rw [numberFrom, List.map_cons, List.length_cons, List.range'_succ, ih]

theorem numberFrom_length (n : Nat) (commands : List Command) :
    (numberFrom n commands).length = commands.length := by
  induction commands generalizing n with
  | nil => rfl
  | cons command rest ih => rw [numberFrom, List.length_cons, List.length_cons, ih]

/-- A numbered command is one of the commands, but for its number. -/
theorem mem_numberFrom {n : Nat} {commands : List Command} {numbered : Command} :
    numbered ∈ numberFrom n commands →
      ∃ command ∈ commands, ∃ m, n ≤ m ∧ numbered = { command with sequence := m } := by
  induction commands generalizing n with
  | nil => exact fun never => absurd never List.not_mem_nil
  | cons command rest ih =>
    intro member
    rcases List.mem_cons.mp member with rfl | later
    · exact ⟨command, List.mem_cons_self, n, Nat.le_refl n, rfl⟩
    · obtain ⟨other, inside, m, after, same⟩ := ih later
      exact ⟨other, List.mem_cons_of_mem command inside, m, Nat.le_of_succ_le after, same⟩

theorem numberFrom_mem {n : Nat} {commands : List Command} {command : Command}
    (member : command ∈ commands) : ∃ m, { command with sequence := m } ∈ numberFrom n commands := by
  induction commands generalizing n with
  | nil => cases member
  | cons first rest ih =>
    rcases List.mem_cons.mp member with rfl | later
    · exact ⟨n, List.mem_cons_self⟩
    · obtain ⟨m, inside⟩ := ih (n := n + 1) later
      exact ⟨m, List.mem_cons_of_mem _ inside⟩

def Briefing.allows (briefing : Briefing) (command : Command) : Bool :=
  command.action ∈ briefing.constraints.allowedActions

/-- The calls of `add` keep as many of the allowed commands as there is room for. -/
theorem foldl_add_filter {briefing : Briefing} (calls commands : List Command) :
    calls.foldl (add briefing) commands =
      commands ++ numberFrom (commands.length + 1)
        ((calls.filter briefing.allows).take
          (briefing.constraints.maxCommands - commands.length)) := by
  induction calls generalizing commands with
  | nil => simp [numberFrom]
  | cons command rest ih =>
    rw [List.foldl_cons, ih]
    unfold add
    by_cases permitted : command.action ∈ briefing.constraints.allowedActions
    · have kept : briefing.allows command = true := decide_eq_true permitted
      rw [List.filter_cons_of_pos kept]
      by_cases full : briefing.constraints.maxCommands ≤ commands.length
      · rw [if_pos (Or.inr full), Nat.sub_eq_zero_of_le full]
        rfl
      · rw [if_neg (by simp [permitted, full])]
        have room : briefing.constraints.maxCommands - commands.length =
            briefing.constraints.maxCommands - (commands.length + 1) + 1 := by omega
        rw [room, List.take_succ_cons, numberFrom, List.length_append, List.length_singleton,
          List.append_assoc, List.singleton_append]
    · have dropped : ¬briefing.allows command = true := fun kept => permitted (of_decide_eq_true kept)
      rw [List.filter_cons_of_neg dropped, if_pos (Or.inl permitted)]

theorem mem_defaultAllowedActions (kind : ActionType) : kind ∈ defaultAllowedActions := by
  cases kind <;> decide

section
variable {formatG : Float → String} {unicode : Unicode} {briefing : Briefing}

theorem offers_ne_nil : offers formatG unicode briefing ≠ [] := by
  unfold offers clearedOffers criticalOffers breachOffers
  split
  · nofun
  · split
    · simp
    · nofun

/-- The commands that are offered, allowed and within the room there is. -/
def granted (formatG : Float → String) (unicode : Unicode) (briefing : Briefing) : List Command :=
  ((offers formatG unicode briefing).filter briefing.allows).take briefing.constraints.maxCommands

theorem derivedCommands_granted : derivedCommands formatG unicode briefing =
    if granted formatG unicode briefing = [] then [fallbackCommand unicode briefing]
    else numberFrom 1 (granted formatG unicode briefing) := by
  have kept : (offers formatG unicode briefing).foldl (add briefing) [] =
      numberFrom 1 (granted formatG unicode briefing) :=
    foldl_add_filter (offers formatG unicode briefing) []
  have none_granted : numberFrom 1 (granted formatG unicode briefing) = [] ↔
      granted formatG unicode briefing = [] := by
    rw [← List.length_eq_zero_iff, numberFrom_length, List.length_eq_zero_iff]
  unfold derivedCommands
  simp only [kept, none_granted]

theorem granted_default (allowed : briefing.constraints.allowedActions = defaultAllowedActions) :
    granted formatG unicode briefing =
      (offers formatG unicode briefing).take briefing.constraints.maxCommands := by
  have all : (offers formatG unicode briefing).filter briefing.allows =
      offers formatG unicode briefing := by
    refine List.filter_eq_self.mpr fun command _ => ?_
    unfold Briefing.allows
    rw [allowed]
    exact decide_eq_true (mem_defaultAllowedActions command.action)
  rw [granted, all]

theorem offers_taken_ne_nil (room : 1 ≤ briefing.constraints.maxCommands) :
    (offers formatG unicode briefing).take briefing.constraints.maxCommands ≠ [] := by
  have some_offer : offers formatG unicode briefing ≠ [] := offers_ne_nil
  have long := List.length_pos_iff.mpr some_offer
  rw [← List.length_pos_iff, List.length_take]
  omega

/-- Where every action is allowed, the plan is what there is room for. -/
theorem derivedCommands_eq (allowed : briefing.constraints.allowedActions = defaultAllowedActions)
    (room : 1 ≤ briefing.constraints.maxCommands) :
    derivedCommands formatG unicode briefing =
      numberFrom 1 ((offers formatG unicode briefing).take briefing.constraints.maxCommands) := by
  rw [derivedCommands_granted, granted_default allowed, if_neg (offers_taken_ne_nil room)]

/-- Only the plan of a critical breach isolates or shuts down. -/
theorem offers_reversible
    (calm : briefing.anomaly.transition = .cleared ∨ briefing.anomaly.severity ≠ .critical) :
    ∀ command ∈ offers formatG unicode briefing,
      command.action ≠ .isolate ∧ command.action ≠ .shutdown := by
  unfold offers
  split
  next => simp [clearedOffers, offer]
  next going =>
    rw [if_neg (calm.resolve_left going)]
    simp [breachOffers, offer]

end

end OpenOntology.Intercept
