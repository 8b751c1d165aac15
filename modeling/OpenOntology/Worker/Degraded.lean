import OpenOntology.Bridge.Laws
import OpenOntology.Intercept.Response

/-!
# Plans on a degraded context

The two offline planners on a mutation whose context the engine could not resolve. The
worker's drops what cannot be undone. The interceptor's lowers its confidence, and isolates.
-/
namespace OpenOntology.Worker

open Python Library
open Intercept (Briefing LLMPlan derivePlan promptContext buildCommandSequence offers)

/-! ## The names in the plan of a critical breach -/

/-- The contract of the interceptor holds the plan of a critical breach: every name that is
reached within the budget is there, and the summary is short enough. -/
structure Nameable (formatG : Float → String) (unicode : Unicode) (briefing : Briefing) : Prop where
  target : Intercept.target unicode briefing ≠ ""
  primary : Intercept.primaryName briefing ≠ ""
  parent : Intercept.safetyCritical briefing = true → 2 ≤ briefing.constraints.maxCommands →
    Intercept.parentName briefing ≠ ""
  notified : (if Intercept.safetyCritical briefing = true then 4 else 3) ≤
    briefing.constraints.maxCommands → Intercept.notifiedName briefing ≠ ""
  summary : (Intercept.reasoningSummary formatG unicode briefing).length ≤ 2000

section
variable {formatG : Float → String} {unicode : Unicode} {briefing : Briefing}

/-- The names in the order of the calls, as far as the budget reaches. -/
theorem nameable_iff (labelled : Intercept.assetLabel briefing ≠ "")
    (room : 1 ≤ briefing.constraints.maxCommands) :
    ((∀ command ∈ (Intercept.criticalOffers formatG unicode briefing).take
        briefing.constraints.maxCommands, command.targetComponent ≠ "" ∧ command.assignedTo ≠ "") ∧
      (Intercept.reasoningSummary formatG unicode briefing).length ≤ 2000) ↔
        Nameable formatG unicode briefing := by
  unfold Intercept.criticalOffers
  by_cases safety : Intercept.safetyCritical briefing = true
  · rw [if_pos safety]
    simp only [List.cons_append, List.nil_append, forall_mem_take_cons]
    constructor
    · rintro ⟨⟨isolate, shutdown, -, notify, -⟩, summary⟩
      refine ⟨(isolate room).1, (isolate room).2, fun _ more => (shutdown (by omega)).1, ?_, summary⟩
      intro reached
      rw [if_pos safety] at reached
      exact (notify (by omega)).2
    · rintro ⟨target, primary, parent, notified, summary⟩
      rw [if_pos safety] at notified
      refine ⟨⟨fun _ => ⟨target, primary⟩, fun more => ⟨parent safety (by omega), primary⟩,
        fun _ => ⟨target, primary⟩, fun more => ⟨labelled, notified (by omega)⟩, ?_⟩, summary⟩
      simp
  · rw [if_neg safety]
    simp only [List.cons_append, List.nil_append, forall_mem_take_cons]
    constructor
    · rintro ⟨⟨isolate, -, notify, -⟩, summary⟩
      refine ⟨(isolate room).1, (isolate room).2, fun critical => absurd critical safety, ?_, summary⟩
      intro reached
      rw [if_neg safety] at reached
      exact (notify (by omega)).2
    · rintro ⟨target, primary, -, notified, summary⟩
      rw [if_neg safety] at notified
      refine ⟨⟨fun _ => ⟨target, primary⟩, fun _ => ⟨target, primary⟩,
        fun more => ⟨labelled, notified (by omega)⟩, ?_⟩, summary⟩
      simp

end

/-! ## Both planners -/

section
variable (conversions : Conversions) (unicode : Unicode) (formatG : Float → String)
  (payload : EnrichedContextPayload) (subscription : Subscription) (settings : WorkerSettings)
  (budget : Nat) (bounds : 1 ≤ budget ∧ budget ≤ 20) (tenant : Text) (model : String)

/-- What the mock reads of the mutation. -/
def offlineBriefing : Briefing := (promptContext payload budget bounds).briefing

/-- The plans the worker may get for the mutation without a model: its own, and the one the
interceptor answers with. -/
inductive OfflinePlan : ActionPlan → Prop where
  | stub (fresh : String) : OfflinePlan (stubPlan settings formatG payload subscription fresh)
  | mock {plan : LLMPlan} {read : ActionPlan} (fresh : String)
      (derived : LLMPlan.modelValidate
        (derivePlan formatG unicode (offlineBriefing payload budget bounds)) = some plan)
      (answered : ActionPlan.modelValidate conversions
        (buildCommandSequence payload plan tenant model ("plan_" ++ fresh)) = some read) :
      OfflinePlan read

/-- The plan of a critical breach gets through both contracts. -/
structure Actuates (correlationID : Text) : Prop where
  nameable : Nameable formatG unicode (offlineBriefing payload budget bounds)
  publishable : Publishable unicode payload.toMutationEnvelope subscription correlationID

variable {conversions unicode formatG payload subscription settings budget bounds tenant model}
  {texts : ErrorTexts} {correlationID : Text} {issuedAt : Int}

theorem assetLabel_offlineBriefing :
    Intercept.assetLabel (offlineBriefing payload budget bounds) ≠ "" := by
  have identified : payload.assetID ≠ "" := by
    intro empty
    have long := payload.identified.2.1
    rw [empty] at long
    exact absurd long (by decide)
  unfold Intercept.assetLabel orElse
  split
  · show orElse payload.ontologyContext.assetID payload.assetID ≠ ""
    unfold orElse
    split
    · exact identified
    · assumption
  · assumption

theorem offers_critical (going : payload.transition ≠ .cleared)
    (critical : payload.severity = .critical) :
    offers formatG unicode (offlineBriefing payload budget bounds) =
      Intercept.criticalOffers formatG unicode (offlineBriefing payload budget bounds) := by
  have still : (offlineBriefing payload budget bounds).anomaly.transition ≠ .cleared := going
  have grave : (offlineBriefing payload budget bounds).anomaly.severity = .critical := critical
  unfold offers
  rw [if_neg still, if_pos grave]

/-- The mock's plan of a critical breach exists where the contract holds its names. -/
theorem mock_derived_iff (going : payload.transition ≠ .cleared)
    (critical : payload.severity = .critical) :
    (∃ plan, LLMPlan.modelValidate
        (derivePlan formatG unicode (offlineBriefing payload budget bounds)) = some plan) ↔
      Nameable formatG unicode (offlineBriefing payload budget bounds) := by
  rw [Intercept.modelValidate_derivePlan rfl bounds.1, offers_critical going critical]
  exact nameable_iff assetLabel_offlineBriefing bounds.1

theorem legible_planID (fresh : String) : Legible (Text.ofString ("plan_" ++ fresh)) :=
  ⟨"plan_" ++ fresh, rfl, 'p', by simp, by decide +kernel⟩

theorem planID_named (fresh : String) : 1 ≤ ("plan_" ++ fresh).length := by
  rw [String.length_append]
  exact Nat.le_add_right_of_le (by decide +kernel)

/-- The commands of the mock's plan, as they were offered. -/
theorem mock_offered {plan : LLMPlan}
    (derived : LLMPlan.modelValidate
      (derivePlan formatG unicode (offlineBriefing payload budget bounds)) = some plan) :
    plan.commands = Intercept.numberFrom 1
      ((offers formatG unicode (offlineBriefing payload budget bounds)).take budget) := by
  have same : plan.commands = Intercept.derivedCommands formatG unicode
      (offlineBriefing payload budget bounds) := by
    unfold LLMPlan.modelValidate at derived
    split at derived
    next =>
      cases derived
      rfl
    next => cases derived
  rw [same]
  exact Intercept.derivedCommands_eq rfl bounds.1

theorem mock_keyed {plan : LLMPlan}
    (derived : LLMPlan.modelValidate
      (derivePlan formatG unicode (offlineBriefing payload budget bounds)) = some plan) :
    ∀ command ∈ plan.commands, Keyed command.parameters := by
  intro command member
  rw [mock_offered derived] at member
  obtain ⟨original, taken, -, -, rfl⟩ := Intercept.mem_numberFrom member
  exact Intercept.offers_keyed original (List.mem_of_mem_take taken)

/-- The worker reads the mock's commands as steps in words of its tables. -/
theorem mock_read {plan : LLMPlan} {read : ActionPlan} {fresh : String}
    (derived : LLMPlan.modelValidate
      (derivePlan formatG unicode (offlineBriefing payload budget bounds)) = some plan)
    (answered : ActionPlan.modelValidate conversions
      (buildCommandSequence payload plan tenant model ("plan_" ++ fresh)) = some read) :
    List.Forall₂ (fun command planned => planned.action = command.action.value ∧
      Spoken unicode planned) plan.commands read.commands := by
  have related := (Intercept.response_commands payload plan tenant model ("plan_" ++ fresh)
    (planID_named fresh) answered).2
  have keyed := mock_keyed derived
  refine ((List.forall₂_and_left _ _).mpr ⟨keyed, related⟩).imp ?_
  rintro command planned ⟨carried, validated⟩
  obtain ⟨action, priority, parameters⟩ := Intercept.commandDocument_read carried validated
  obtain ⟨level, ranked⟩ := Intercept.resolve_priority unicode command.priority
  obtain ⟨held, kept, -⟩ := dictOf_keyed parameters
  refine ⟨action, ⟨command.action.worker, ?_⟩, ⟨level, ?_⟩, held, kept⟩
  · rw [action, Intercept.resolve_action]
  · rw [priority, ranked]

theorem issued_action {planned : PlannedAction} {command : CommandPayload unicode}
    {kind : Intercept.ActionType} (named : planned.action = kind.value)
    (issued : Issued unicode payload.toMutationEnvelope subscription planned command) :
    command.actionType = kind.worker := by
  have resolved := issued.action
  rw [named, Intercept.resolve_action] at resolved
  exact (Option.some.inj resolved).symm

/-- The plan goes through exactly when its commands are publishable. -/
theorem mock_translated_iff {plan : LLMPlan} {read : ActionPlan} {fresh : String}
    (derived : LLMPlan.modelValidate
      (derivePlan formatG unicode (offlineBriefing payload budget bounds)) = some plan)
    (answered : ActionPlan.modelValidate conversions
      (buildCommandSequence payload plan tenant model ("plan_" ++ fresh)) = some read) :
    (∃ commands, translatePlan unicode texts payload.toMutationEnvelope read subscription settings
        correlationID issuedAt = .ok commands) ↔
      Publishable unicode payload.toMutationEnvelope subscription correlationID := by
  apply translatePlan_exists
  · rw [(Intercept.response_commands payload plan tenant model ("plan_" ++ fresh)
      (planID_named fresh) answered).1]
    exact legible_planID fresh
  · intro planned member
    obtain ⟨_, -, -, spoken⟩ := forall₂_exists_left (mock_read derived answered) member
    exact spoken

section
variable {plan : LLMPlan} {read : ActionPlan} {fresh : String}
  (derived : LLMPlan.modelValidate
    (derivePlan formatG unicode (offlineBriefing payload budget bounds)) = some plan)
  (answered : ActionPlan.modelValidate conversions
    (buildCommandSequence payload plan tenant model ("plan_" ++ fresh)) = some read)
  {commands : List (CommandPayload unicode)}
  (translated : translatePlan unicode texts payload.toMutationEnvelope read subscription settings
    correlationID issuedAt = .ok commands)
include derived answered translated

/-- Every command comes from a call of `add`. -/
theorem mock_command : ∀ command ∈ commands,
    ∃ offered ∈ offers formatG unicode (offlineBriefing payload budget bounds),
      command.actionType = offered.action.worker := by
  intro command member
  obtain ⟨planned, taken, issued⟩ := forall₂_exists_left (translatePlan_issued translated) member
  obtain ⟨numbered, listed, named, -⟩ :=
    forall₂_exists_left (mock_read derived answered) (List.mem_of_mem_take taken)
  rw [mock_offered derived] at listed
  obtain ⟨offered, inside, _, _, rfl⟩ := Intercept.mem_numberFrom listed
  exact ⟨offered, List.mem_of_mem_take inside, issued_action named issued⟩

/-- Every command the worker reaches is issued. -/
theorem mock_reached {numbered : Intercept.Command}
    (reached : numbered ∈ plan.commands.take settings.maxCommands) :
    ∃ command ∈ commands, command.actionType = numbered.action.worker := by
  have related := List.forall₂_take settings.maxCommands (mock_read derived answered)
  obtain ⟨planned, taken, named, -⟩ := forall₂_exists_right related reached
  obtain ⟨command, member, issued⟩ := forall₂_exists_right (translatePlan_issued translated) taken
  exact ⟨command, member, issued_action named issued⟩

end

/-- The worker's own plan keeps to what can be undone. -/
theorem stub_reversible {fresh : String} (degraded : payload.degraded = true)
    {commands : List (CommandPayload unicode)}
    (translated : translatePlan unicode texts payload.toMutationEnvelope
      (stubPlan settings formatG payload subscription fresh) subscription settings correlationID
      issuedAt = .ok commands) :
    ∀ command ∈ commands, command.actionType ≠ .isolate ∧ command.actionType ≠ .shutdown := by
  intro command member
  obtain ⟨planned, taken, issued⟩ := forall₂_exists_left (translatePlan_issued translated) member
  have listed : planned ∈ stubCommands settings formatG payload := List.mem_of_mem_take taken
  have dropped := stubCommands_cautious degraded planned listed
  obtain ⟨kind, named⟩ := (stubCommands_worded planned listed).action
  have resolved := issued.action
  rw [named, resolve_value] at resolved
  rw [← Option.some.inj resolved]
  rw [named] at dropped
  constructor <;> rintro rfl <;> exact dropped (by decide +kernel)

/-- The first command of a critical breach is within every budget. -/
theorem mock_first (going : payload.transition ≠ .cleared) (critical : payload.severity = .critical)
    {plan : LLMPlan} (derived : LLMPlan.modelValidate
      (derivePlan formatG unicode (offlineBriefing payload budget bounds)) = some plan) :
    { Intercept.isolateOffer formatG unicode (offlineBriefing payload budget bounds) with
      sequence := 1 } ∈ plan.commands.take settings.maxCommands := by
  obtain ⟨n, rfl⟩ : ∃ n, budget = n + 1 := ⟨_, (Nat.sub_add_cancel bounds.1).symm⟩
  obtain ⟨m, taken⟩ : ∃ m, settings.maxCommands = m + 1 :=
    ⟨_, (Nat.sub_add_cancel settings.commands.1).symm⟩
  rw [mock_offered derived, offers_critical going critical, taken]
  exact List.mem_cons_self

/-- The mock isolates the asset of a critical breach, whatever the context. -/
theorem mock_isolates (going : payload.transition ≠ .cleared) (critical : payload.severity = .critical)
    (actuates : Actuates unicode formatG payload subscription budget bounds correlationID) :
    ∃ plan commands, OfflinePlan conversions unicode formatG payload subscription settings budget
        bounds tenant model plan ∧
      translatePlan unicode texts payload.toMutationEnvelope plan subscription settings correlationID
        issuedAt = .ok commands ∧
      ∃ command ∈ commands, command.actionType = .isolate := by
  obtain ⟨nameable, publishable⟩ := actuates
  obtain ⟨plan, derived⟩ := (mock_derived_iff going critical).mpr nameable
  have validates : ∃ read, ActionPlan.modelValidate conversions
      (buildCommandSequence payload plan tenant model ("plan_" ++ "0")) = some read :=
    Intercept.response_validates payload plan tenant model ("plan_" ++ "0") (planID_named "0")
      (mock_keyed derived)
  obtain ⟨read, answered⟩ := validates
  obtain ⟨commands, translated⟩ := (mock_translated_iff derived answered).mpr publishable
  exact ⟨read, commands, .mock "0" derived answered, translated,
    mock_reached derived answered translated (mock_first going critical derived)⟩

end

/-! ## A pump whose context was not resolved -/

/-- The engine could not reach the graph: its collections are empty. -/
def unresolvedPump : EnrichedContextPayload where
  eventID := "evt_9"
  assetID := "PUMP-221"
  sensorID := "vibration_index"
  transition := .raised
  severity := .critical
  degraded := true
  identified := by decide
  stripped := by
    refine ⟨?_, ?_, ?_⟩ <;> apply trimSpace_eq_self <;> simp [OpenOntology.isSpace]
  breachCount := 1
  rule := {
    ruleID := "vibration-high"
    threshold := 7.1
    unit := some "mm/s"
    observedValue := 9.5
    exceededPct := 33.8 }
  telemetrySnapshot := { readings := [], complete := false }
  ontologyContext := {
    assetID := "PUMP-221"
    assetName := ""
    site := ""
    criticality := "UNKNOWN"
    parentSystems := []
    components := []
    assignedOperators := []
    maintenanceWindow := none }

theorem unresolvedPump_actuates :
    Actuates asciiUnicode (fun _ => "9.5") unresolvedPump Bridge.enterprise 6 (by decide)
      (Text.ofString "req-1") where
  nameable := by
    refine ⟨?_, ?_, ?_, ?_, ?_⟩ <;> decide +kernel
  publishable := ⟨Bridge.enterprise_legible.1, Bridge.enterprise_legible.2, Bridge.request_legible,
    by decide +kernel⟩

end OpenOntology.Worker
