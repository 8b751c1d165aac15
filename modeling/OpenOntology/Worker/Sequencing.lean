import OpenOntology.Worker.Attribution

/-!
# The plan's own numbering

A planned action has a number of its planner's. The translation numbers the commands by their
places in the list, of which it takes as many as the settings allow, and reads the planner's
numbers nowhere.
-/
namespace OpenOntology.Worker

open Python Library

/-- The planner's numbers run from 1 in the order of the list. -/
def ActionPlan.Contiguous (plan : ActionPlan) : Prop :=
  plan.commands.map (fun planned => planned.sequence) =
    (List.range' 1 plan.commands.length).map Int.ofNat

/-- A command of each planned action, under the number the planner gave the action. -/
structure IssuedInOrder (unicode : Unicode) (mutation : MutationEnvelope)
    (subscription : Subscription) (plan : ActionPlan) (commands : List (CommandPayload unicode)) : Prop where
  contiguous : plan.Contiguous
  each : List.Forall₂ (fun planned command => Issued unicode mutation subscription planned command ∧
    command.sequence = planned.sequence) plan.commands commands

/-- A plan within the command budget, in the planner's own order. -/
structure Whole (settings : WorkerSettings) (plan : ActionPlan) : Prop where
  within : plan.commands.length ≤ settings.maxCommands
  contiguous : plan.Contiguous

/-- The tables have both words of the step, and a command can be built of it. -/
structure Translatable (unicode : Unicode) (mutation : MutationEnvelope) (plan : ActionPlan)
    (subscription : Subscription) (correlationID : Text) (planned : PlannedAction) : Prop where
  action : ∃ action, resolveAlias unicode actionAliases planned.action = some action
  priority : ∃ priority, resolveAlias unicode priorityAliases planned.priority = some priority
  buildable : Buildable unicode mutation plan subscription correlationID planned

section
variable {unicode : Unicode} {texts : ErrorTexts} {mutation : MutationEnvelope} {plan : ActionPlan}
  {subscription : Subscription} {settings : WorkerSettings} {correlationID : Text} {issuedAt : Int}
  {commands : List (CommandPayload unicode)}

/-- The place of a step of a contiguous plan is its number. -/
theorem ActionPlan.Contiguous.place (contiguous : plan.Contiguous) {entry : PlannedAction × Nat}
    (member : entry ∈ plan.commands.zipIdx 1) : (entry.2 : Int) = entry.1.sequence := by
  obtain ⟨planned, index⟩ := entry
  obtain ⟨later, inside, place⟩ := List.mem_zipIdx member
  have bound : index - 1 < plan.commands.length := by omega
  have numbered : (plan.commands.map fun planned => planned.sequence)[index - 1]? =
      ((List.range' 1 plan.commands.length).map Int.ofNat)[index - 1]? := by
    rw [contiguous]
  have counted : 1 + (index - 1) = index := by omega
  simp [bound, ← place, counted] at numbered
  exact numbered.symm

/-- What a step of the loop issues has the step's place for its number. -/
theorem translatePlan_places
    (translated : translatePlan unicode texts mutation plan subscription settings correlationID
      issuedAt = .ok commands) :
    List.Forall₂ (fun entry command => Issued unicode mutation subscription entry.1 command ∧
        command.sequence = (entry.2 : Int))
      ((plan.commands.take settings.maxCommands).zipIdx 1) commands := by
  apply (translatePlan_ok.mp translated).imp
  intro entry command step
  exact ⟨translateStep_issued step, (translateStep_placed step).sequence⟩

theorem translatePlan_length
    (translated : translatePlan unicode texts mutation plan subscription settings correlationID
      issuedAt = .ok commands) :
    commands.length = min settings.maxCommands plan.commands.length := by
  have paired := (translatePlan_places translated).length_eq
  rw [List.length_zipIdx, List.length_take] at paired
  exact paired.symm

theorem Whole.inOrder (whole : Whole settings plan)
    (translated : translatePlan unicode texts mutation plan subscription settings correlationID
      issuedAt = .ok commands) :
    IssuedInOrder unicode mutation subscription plan commands := by
  have places := translatePlan_places translated
  rw [List.take_of_length_le whole.within] at places
  have numbered : List.Forall₂ (fun entry command => (entry.2 : Int) = entry.1.sequence ∧
      Issued unicode mutation subscription entry.1 command ∧ command.sequence = (entry.2 : Int))
      (plan.commands.zipIdx 1) commands :=
    List.forall₂_and_left _ _ |>.mpr ⟨fun _ member => whole.contiguous.place member, places⟩
  have renamed : List.Forall₂ (fun entry command =>
      Issued unicode mutation subscription entry.1 command ∧
        command.sequence = entry.1.sequence) (plan.commands.zipIdx 1) commands := by
    apply numbered.imp
    intro entry command both
    obtain ⟨place, issued, sequence⟩ := both
    exact ⟨issued, sequence.trans place⟩
  have taken : (plan.commands.zipIdx 1).map Prod.fst = plan.commands := List.zipIdx_map_fst 1 _
  refine ⟨whole.contiguous, ?_⟩
  rw [← taken]
  exact List.forall₂_map_left_iff.mpr renamed

theorem IssuedInOrder.whole (inOrder : IssuedInOrder unicode mutation subscription plan commands)
    (translated : translatePlan unicode texts mutation plan subscription settings correlationID
      issuedAt = .ok commands) : Whole settings plan := by
  have paired := inOrder.each.length_eq
  have counted := translatePlan_length translated
  exact ⟨by omega, inOrder.contiguous⟩

/-- The loop gets through the plan exactly when it can translate every step it reaches. -/
theorem translatePlan_translatable :
    (∃ commands, translatePlan unicode texts mutation plan subscription settings correlationID
        issuedAt = .ok commands) ↔
      ∀ planned ∈ plan.commands.take settings.maxCommands,
        Translatable unicode mutation plan subscription correlationID planned := by
  simp only [translatePlan_ok, exists_forall₂]
  constructor
  · intro reached planned member
    obtain ⟨index, place⟩ := List.getElem?_of_mem member
    have numbered : (planned, 1 + index) ∈
        (plan.commands.take settings.maxCommands).zipIdx 1 :=
      List.mk_add_mem_zipIdx_iff_getElem?.mpr place
    obtain ⟨action, priority, buildable⟩ :=
      (translateStep_exists (by omega)).mp (reached (planned, 1 + index) numbered)
    exact ⟨action, priority, buildable⟩
  · intro fit entry member
    obtain ⟨planned, index⟩ := entry
    obtain ⟨later, -, place⟩ := List.mem_zipIdx member
    have ready := fit planned (place ▸ List.getElem_mem _)
    exact (translateStep_exists later).mpr ⟨ready.action, ready.priority, ready.buildable⟩

/-- The plan is refused, or has a command of each planned action in the planner's own order,
exactly when it is within the budget and numbered in the order of its list, or holds a step
that the loop reaches and cannot translate. -/
theorem plan_carried_iff (unicode : Unicode) (texts : ErrorTexts) (mutation : MutationEnvelope)
    (plan : ActionPlan) (subscription : Subscription) (settings : WorkerSettings)
    (correlationID : Text) (issuedAt : Int) :
    (∀ commands, translatePlan unicode texts mutation plan subscription settings correlationID
        issuedAt = .ok commands → IssuedInOrder unicode mutation subscription plan commands) ↔
      Whole settings plan ∨ ∃ planned ∈ plan.commands.take settings.maxCommands,
        ¬Translatable unicode mutation plan subscription correlationID planned := by
  constructor
  · intro carried
    by_cases fit : ∀ planned ∈ plan.commands.take settings.maxCommands,
        Translatable unicode mutation plan subscription correlationID planned
    · obtain ⟨commands, translated⟩ := translatePlan_translatable.mpr fit
      exact .inl ((carried commands translated).whole translated)
    · push Not at fit
      exact .inr fit
  · intro condition commands translated
    obtain whole | ⟨planned, reached, stuck⟩ := condition
    · exact whole.inOrder translated
    · exact absurd (translatePlan_translatable.mp ⟨commands, translated⟩ planned reached) stuck

end

/-! ## A plan with a gap -/

theorem notifyStep_ordered (before : Nat) : (1 : Int) ≤ before + 1 := by omega

/-- A step that raises the tank's alarm, with so many steps before it. -/
def notifyStep (before : Nat) : PlannedAction where
  sequence := before + 1
  targetComponent := ""
  action := "NOTIFY"
  priority := "HIGH"
  assignedTo := ""
  assignedOperatorID := none
  parameters := []
  expectedEffect := ""
  rollback := none
  deadlineSeconds := 900
  ordered := notifyStep_ordered before
  named := by decide
  ranked := by decide
  bounded := by decide

/-- Of the three steps the planner counted, the second is missing. -/
def gappedPlan : ActionPlan where
  planID := "plan-gap"
  eventID := "evt-tank"
  assetID := "TANK-4"
  tenant := []
  model := []
  confidence := 0
  reasoningSummary := []
  commands := [notifyStep 0, notifyStep 2]
  escalation := {}
  evidence := []
  identified := by decide
  probable := by decide +kernel
  instructs := by decide

theorem gappedPlan_translated :
    ∃ commands, translatePlan bareWorker.runtime.unicode bareWorker.texts tankMutation gappedPlan
      standardSubscription bareWorker.settings (Text.ofString "req-1") 0 = .ok commands := by
  have notified : ∀ planned ∈ gappedPlan.commands,
      Spoken bareWorker.runtime.unicode planned := by
    intro planned member
    have either : planned = notifyStep 0 ∨ planned = notifyStep 2 := by
      simpa [gappedPlan] using member
    have word : planned.action = "NOTIFY" ∧ planned.priority = "HIGH" ∧
        planned.parameters = [] := by
      obtain rfl | rfl := either
      · exact ⟨rfl, rfl, rfl⟩
      · exact ⟨rfl, rfl, rfl⟩
    obtain ⟨action, priority, parameters⟩ := word
    constructor
    · rw [action]
      exact ⟨.notify, by decide +kernel⟩
    · rw [priority]
      exact ⟨.high, by decide +kernel⟩
    · rw [parameters]
      exact ⟨[], rfl⟩
  have named : Legible (Text.ofString gappedPlan.planID) :=
    ⟨"plan-gap", rfl, 'p', by decide, by decide⟩
  apply (translatePlan_exists named notified).mpr
  constructor
  · exact ⟨"rotterdam-polymers", rfl, 'r', by decide, by decide⟩
  · exact ⟨"lic_standard_demo", rfl, 'l', by decide, by decide⟩
  · exact ⟨"req-1", rfl, 'r', by decide, by decide⟩
  · decide +kernel

/-- Two commands go out for a plan whose second step is missing. -/
theorem plan_gap_executed :
    ¬∀ commands, translatePlan bareWorker.runtime.unicode bareWorker.texts tankMutation gappedPlan
        standardSubscription bareWorker.settings (Text.ofString "req-1") 0 = .ok commands →
      IssuedInOrder bareWorker.runtime.unicode tankMutation standardSubscription gappedPlan
        commands := by
  intro carried
  obtain ⟨commands, translated⟩ := gappedPlan_translated
  have contiguous := (carried commands translated).contiguous
  unfold ActionPlan.Contiguous at contiguous
  revert contiguous
  decide

end OpenOntology.Worker
