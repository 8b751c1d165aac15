import OpenOntology.Library.Partial
import OpenOntology.Worker.Contract

/-!
# From a plan to commands

`translate_plan` folds the plan's vocabulary into the actuation vocabulary and builds one
command a step, in order, for as many steps as the settings allow. What it cannot fold is
a permanent error of the message.
-/
namespace OpenOntology.Worker

open Python Library

structure WorkerSettings where
  maxCommands : Nat
  defaultDeadlineSeconds : Nat
  commands : 1 ≤ maxCommands ∧ maxCommands ≤ 20
  deadline : 1 ≤ defaultDeadlineSeconds ∧ defaultDeadlineSeconds ≤ 604800

/-- The renderings of the language and of pydantic that end in an error's text. -/
structure ErrorTexts where
  /-- `repr` of a string -/
  repr : String → String
  /-- the `ValidationError` of a command -/
  violation : CommandDraft → String

/-- The row of an alias table for `raw.strip().upper()`. -/
def resolveAlias {α : Type} (unicode : Unicode) (aliases : List (String × α)) (raw : String) : Option α :=
  (Text.toString? (unicode.upper (Text.strip (Text.ofString raw)))).bind fun name =>
    aliases.lookup name

/-- A word in capitals is looked up as it stands. -/
theorem resolveAlias_word {α : Type} (unicode : Unicode) (aliases : List (String × α)) {word : String}
    (visible : ∀ c ∈ word.toList, 33 ≤ c.toNat ∧ c.toNat < 127)
    (capital : word.toList.map Char.toUpper = word.toList) :
    resolveAlias unicode aliases word = aliases.lookup word := by
  have kept : Text.strip (Text.ofString word) = Text.ofString word := by
    apply trimBoth_eq_self
    intro c member
    obtain ⟨character, inside, rfl⟩ := List.mem_map.mp member
    simp [Text.isSpace, CodePoint.char?_ofChar,
      Python.isSpace_of_visible (visible character inside)]
  have ascii : ∀ c ∈ word.toList, c.toNat < 128 := by
    intro c inside
    have range := visible c inside
    omega
  rw [resolveAlias, kept, unicode.upper_ascii word ascii, capital,
    String.ofList_toList, Text.toString?_ofString, Option.bind_some]

def known {α : Type} (aliases : List (String × α)) : String :=
  ", ".intercalate (aliases.map Prod.fst).mergeSort

/-- The truth value of an optional text: an empty one is replaced by nothing. -/
def orNone (s : String) : Option Text := if s = "" then none else some (Text.ofString s)

section
variable (unicode : Unicode) (texts : ErrorTexts) (mutation : MutationEnvelope) (plan : ActionPlan)
  (subscription : Subscription) (settings : WorkerSettings) (correlationID : Text) (issuedAt : Int)

/-- Only an autonomous plan, and only for an action that can be undone, goes without a
human acknowledgement. -/
def requiresApproval (action : ActionType) : Bool :=
  !(subscription.autonomousExecutionAllowed && !action.isIrreversible)

def commandDraft (planned : PlannedAction) (index : Nat) (action : ActionType)
    (priority : ExecutionPriority) : CommandDraft :=
  let deadline :=
    if planned.deadlineSeconds = 0 then settings.defaultDeadlineSeconds else planned.deadlineSeconds
  { commandID := deterministicCommandID mutation.eventID index action
    targetAssetID := Text.ofString mutation.assetID
    actionType := action
    executionPriority := priority
    issuedAt := issuedAt
    tenant := subscription.tenant
    licenseKeyID := subscription.keyID
    sourceEventID := Text.ofString mutation.eventID
    planID := Text.ofString plan.planID
    correlationID := correlationID
    sequence := index
    targetComponent := orNone planned.targetComponent
    parameters := planned.parameters
    expectedEffect := Text.ofString planned.expectedEffect
    rollback := planned.rollback.map Text.ofString
    assignedTo := Text.ofString planned.assignedTo
    assignedOperatorID := planned.assignedOperatorID.map Text.ofString
    deadlineSeconds := deadline
    expiresAt := issuedAt + deadline
    requiresHumanApproval := requiresApproval subscription action
    escalationRequired := plan.escalation.required
    confidence := plan.confidence
    triggerSensorID := Text.ofString mutation.sensorID
    triggerSeverity := mutation.severity
    triggerTransition := mutation.transition
    contextDegraded := mutation.degraded }

/-- One pass of the loop. -/
def translateStep (planned : PlannedAction) (index : Nat) :
    Except PermanentMessageError (CommandPayload unicode) :=
  match resolveAlias unicode actionAliases planned.action with
  | none => .error ⟨"unknown_action_type", Text.ofString
      ("Plan " ++ plan.planID ++ " requested unsupported action " ++ texts.repr planned.action ++
        "; known actions: " ++ known actionAliases ++ ".")⟩
  | some action =>
    match resolveAlias unicode priorityAliases planned.priority with
    | none => .error ⟨"unknown_execution_priority", Text.ofString
        ("Plan " ++ plan.planID ++ " requested unsupported priority " ++
          texts.repr planned.priority ++ "; known priorities: " ++ known priorityAliases ++ ".")⟩
    | some priority =>
      let draft := commandDraft mutation plan subscription settings correlationID issuedAt planned
        index action priority
      match CommandPayload.build unicode draft with
      | none => .error ⟨"command_contract_violation", Text.ofString
          ("Plan " ++ plan.planID ++ " step " ++ toString index ++
            " does not satisfy the command contract: " ++ texts.violation draft)⟩
      | some command => .ok command

/-- `translate_plan`. -/
def translatePlan : Except PermanentMessageError (List (CommandPayload unicode)) :=
  (((plan.commands.take settings.maxCommands).zipIdx 1).mapM fun entry =>
      translateStep unicode texts mutation plan subscription settings correlationID issuedAt
        entry.1 entry.2).bind fun commands =>
    if commands = [] then
      .error ⟨"empty_action_plan", Text.ofString
        ("Plan " ++ plan.planID ++ " contained no executable commands.")⟩
    else .ok commands

variable {unicode texts mutation plan subscription settings correlationID issuedAt}

/-- What the payload takes over from the arguments. -/
structure CommandPayload.Carries (draft : CommandDraft) (command : CommandPayload unicode) :
    Prop where
  texts : draft.texts = some command.toCommandTexts
  actionType : command.actionType = draft.actionType
  executionPriority : command.executionPriority = draft.executionPriority
  requiresHumanApproval : command.requiresHumanApproval = draft.requiresHumanApproval

theorem CommandPayload.build_carries {draft : CommandDraft} {command : CommandPayload unicode}
    (built : CommandPayload.build unicode draft = some command) :
    CommandPayload.Carries draft command := by
  unfold CommandPayload.build at built
  obtain ⟨texts, cut, built⟩ := Option.bind_eq_some_iff.mp built
  obtain ⟨parameters, -, built⟩ := Option.bind_eq_some_iff.mp built
  split at built
  next checked =>
    cases built
    exact ⟨cut, rfl, rfl, rfl⟩
  next => cases built

theorem CommandDraft.texts_target {draft : CommandDraft} {texts : CommandTexts}
    (cut : draft.texts = some texts) :
    strippedStr 1 draft.targetAssetID = some texts.targetAssetID := by
  unfold CommandDraft.texts at cut
  obtain ⟨target, found, cut⟩ := Option.bind_eq_some_iff.mp cut
  simp only [Option.bind_eq_bind, Option.bind_eq_some_iff, Option.pure_def, Option.some.injEq] at cut
  obtain ⟨_, -, _, -, _, -, _, -, _, -, _, -, _, -, _, -, _, -, _, -, _, -, whole⟩ := cut
  rw [found, ← whole]

theorem CommandDraft.texts_tenant {draft : CommandDraft} {texts : CommandTexts}
    (cut : draft.texts = some texts) : strippedStr 1 draft.tenant = some texts.tenant := by
  unfold CommandDraft.texts at cut
  obtain ⟨_, -, cut⟩ := Option.bind_eq_some_iff.mp cut
  obtain ⟨tenant, found, cut⟩ := Option.bind_eq_some_iff.mp cut
  simp only [Option.bind_eq_bind, Option.bind_eq_some_iff, Option.pure_def, Option.some.injEq] at cut
  obtain ⟨_, -, _, -, _, -, _, -, _, -, _, -, _, -, _, -, _, -, _, -, whole⟩ := cut
  rw [found, ← whole]

theorem CommandDraft.texts_event {draft : CommandDraft} {texts : CommandTexts}
    (cut : draft.texts = some texts) :
    strippedStr 1 draft.sourceEventID = some texts.sourceEventID := by
  unfold CommandDraft.texts at cut
  obtain ⟨_, -, cut⟩ := Option.bind_eq_some_iff.mp cut
  obtain ⟨_, -, cut⟩ := Option.bind_eq_some_iff.mp cut
  obtain ⟨_, -, cut⟩ := Option.bind_eq_some_iff.mp cut
  obtain ⟨event, found, cut⟩ := Option.bind_eq_some_iff.mp cut
  simp only [Option.bind_eq_bind, Option.bind_eq_some_iff, Option.pure_def, Option.some.injEq] at cut
  obtain ⟨_, -, _, -, _, -, _, -, _, -, _, -, _, -, _, -, whole⟩ := cut
  rw [found, ← whole]

theorem CommandPayload.build_placed {draft : CommandDraft} {command : CommandPayload unicode}
    (built : CommandPayload.build unicode draft = some command) :
    command.commandID = draft.commandID ∧ command.sequence = draft.sequence := by
  unfold CommandPayload.build at built
  obtain ⟨texts, -, built⟩ := Option.bind_eq_some_iff.mp built
  obtain ⟨parameters, -, built⟩ := Option.bind_eq_some_iff.mp built
  split at built
  next =>
    cases built
    exact ⟨rfl, rfl⟩
  next => cases built

/-- A step that goes through has its action and its priority in the tables. -/
theorem translateStep_ok {planned : PlannedAction} {index : Nat} {command : CommandPayload unicode} :
    translateStep unicode texts mutation plan subscription settings correlationID issuedAt planned
        index = .ok command ↔
      ∃ action priority, resolveAlias unicode actionAliases planned.action = some action ∧
        resolveAlias unicode priorityAliases planned.priority = some priority ∧
        CommandPayload.build unicode (commandDraft mutation plan subscription settings correlationID
          issuedAt planned index action priority) = some command := by
  unfold translateStep
  cases resolveAlias unicode actionAliases planned.action with
  | none => simp
  | some action =>
    cases resolveAlias unicode priorityAliases planned.priority with
    | none => simp
    | some priority =>
      simp only [Option.some.injEq, exists_and_left, exists_eq_left']
      split
      next refused => simp [refused]
      next built => simp [built]

theorem commandDraft_target {planned : PlannedAction} {index : Nat} {action : ActionType}
    {priority : ExecutionPriority} {cut : CommandTexts}
    (read : (commandDraft mutation plan subscription settings correlationID issuedAt planned index
      action priority).texts = some cut) : cut.targetAssetID = mutation.assetID := by
  have target := CommandDraft.texts_target read
  unfold strippedStr commandDraft at target
  rw [Text.toString?_ofString, Option.map_some, mutation.stripped.2.1] at target
  obtain ⟨same, -⟩ := Option.filter_eq_some_iff.mp target
  exact (Option.some.inj same).symm

/-- What a command has from its step, the tenant's tier and the mutation. -/
structure Issued (unicode : Unicode) (mutation : MutationEnvelope) (subscription : Subscription)
    (planned : PlannedAction) (command : CommandPayload unicode) : Prop where
  action : resolveAlias unicode actionAliases planned.action = some command.actionType
  priority : resolveAlias unicode priorityAliases planned.priority = some command.executionPriority
  approval : command.requiresHumanApproval = requiresApproval subscription command.actionType
  target : command.targetAssetID = mutation.assetID

theorem translateStep_issued {planned : PlannedAction} {index : Nat}
    {command : CommandPayload unicode}
    (translated : translateStep unicode texts mutation plan subscription settings correlationID
      issuedAt planned index = .ok command) : Issued unicode mutation subscription planned command := by
  obtain ⟨action, priority, named, ranked, built⟩ := translateStep_ok.mp translated
  have carries := CommandPayload.build_carries built
  refine ⟨?_, ?_, ?_, ?_⟩
  · rw [named, carries.actionType]
    rfl
  · rw [ranked, carries.executionPriority]
    rfl
  · rw [carries.requiresHumanApproval, carries.actionType]
    rfl
  · exact commandDraft_target carries.texts

/-- Where a command belongs: its event and its place in the plan. -/
structure Placed (eventID : String) (index : Nat) (command : CommandPayload unicode) : Prop where
  event : command.sourceEventID = eventID
  sequence : command.sequence = index
  id : command.commandID = deterministicCommandID eventID index command.actionType

theorem translateStep_placed {planned : PlannedAction} {index : Nat}
    {command : CommandPayload unicode}
    (translated : translateStep unicode texts mutation plan subscription settings correlationID
      issuedAt planned index = .ok command) : Placed mutation.eventID index command := by
  obtain ⟨action, priority, -, -, built⟩ := translateStep_ok.mp translated
  have carries := CommandPayload.build_carries built
  obtain ⟨id, sequence⟩ := CommandPayload.build_placed built
  refine ⟨?_, sequence, ?_⟩
  · have event := CommandDraft.texts_event carries.texts
    unfold strippedStr commandDraft at event
    rw [Text.toString?_ofString, Option.map_some, mutation.stripped.1] at event
    obtain ⟨same, -⟩ := Option.filter_eq_some_iff.mp event
    exact (Option.some.inj same).symm
  · rw [id, carries.actionType]
    rfl

/-- What `CommandPayload` asks for of the arguments, beyond what they have by construction. -/
structure Buildable (unicode : Unicode) (mutation : MutationEnvelope) (plan : ActionPlan)
    (subscription : Subscription) (correlationID : Text) (planned : PlannedAction) : Prop where
  tenant : Legible subscription.tenant
  keyID : Legible subscription.keyID
  planID : Legible (Text.ofString plan.planID)
  correlation : Legible correlationID
  shape : identifierShape unicode mutation.assetID = true
  parameters : ∃ held, dictOf (.obj planned.parameters) = some held

theorem orNone_kept (t : String) : ∃ kept, strippedOption (orNone t) = some kept := by
  unfold orNone
  split
  · exact ⟨none, rfl⟩
  · exact strippedOption_map (some t)

theorem commandDraft_texts {planned : PlannedAction} {index : Nat} {action : ActionType}
    {priority : ExecutionPriority} :
    (∃ cut, (commandDraft mutation plan subscription settings correlationID issuedAt planned index
        action priority).texts = some cut) ↔
      Legible subscription.tenant ∧ Legible subscription.keyID ∧
        Legible (Text.ofString plan.planID) ∧ Legible correlationID := by
  have asset := legible_of_stripped mutation.stripped.2.1 mutation.identified.2.1
  have event := legible_of_stripped mutation.stripped.1 mutation.identified.1
  rw [CommandDraft.texts_exists]
  simp only [commandDraft, strippedStr_one_iff, strippedStr_zero, orNone_kept, strippedOption_map,
    Option.some.injEq, exists_eq', asset, event, true_and, and_true]

theorem build_exists {planned : PlannedAction} {index : Nat} (later : 1 ≤ index)
    {action : ActionType} {priority : ExecutionPriority} :
    (∃ command, CommandPayload.build unicode (commandDraft mutation plan subscription settings
        correlationID issuedAt planned index action priority) = some command) ↔
      Buildable unicode mutation plan subscription correlationID planned := by
  constructor
  · rintro ⟨command, built⟩
    have carries := CommandPayload.build_carries built
    obtain ⟨tenant, keyID, planID, correlation⟩ := commandDraft_texts.mp ⟨_, carries.texts⟩
    have shape := command.targeted.2
    rw [commandDraft_target carries.texts] at shape
    obtain ⟨cut, -, built⟩ := Option.bind_eq_some_iff.mp built
    obtain ⟨held, kept, -⟩ := Option.bind_eq_some_iff.mp built
    exact ⟨tenant, keyID, planID, correlation, shape, held, kept⟩
  · rintro ⟨tenant, keyID, planID, correlation, shape, held, kept⟩
    have readable : ∃ cut, (commandDraft mutation plan subscription settings correlationID issuedAt
        planned index action priority).texts = some cut :=
      commandDraft_texts.mpr ⟨tenant, keyID, planID, correlation⟩
    obtain ⟨cut, read⟩ := readable
    have target := commandDraft_target read
    refine CommandPayload.build_some read kept ⟨⟨?_, ?_⟩, ?_, ?_, plan.probable⟩
    · rw [target]
      exact mutation.identified.2.2
    · rw [target]
      exact shape
    · exact Int.ofNat_le.mpr later
    · have planned_deadline := planned.bounded
      have default_deadline := settings.deadline.2
      dsimp only [commandDraft]
      split <;> omega

/-- A step goes through exactly when both words are in the tables and the command can be
built. -/
theorem translateStep_exists {planned : PlannedAction} {index : Nat} (later : 1 ≤ index) :
    (∃ command, translateStep unicode texts mutation plan subscription settings correlationID issuedAt
        planned index = .ok command) ↔
      (∃ action, resolveAlias unicode actionAliases planned.action = some action) ∧
        (∃ priority, resolveAlias unicode priorityAliases planned.priority = some priority) ∧
        Buildable unicode mutation plan subscription correlationID planned := by
  constructor
  · rintro ⟨command, translated⟩
    obtain ⟨action, priority, named, ranked, built⟩ := translateStep_ok.mp translated
    exact ⟨⟨action, named⟩, ⟨priority, ranked⟩, (build_exists later).mp ⟨command, built⟩⟩
  · rintro ⟨⟨action, named⟩, ⟨priority, ranked⟩, buildable⟩
    obtain ⟨command, built⟩ := (build_exists later).mpr buildable
    exact ⟨command, translateStep_ok.mpr ⟨action, priority, named, ranked, built⟩⟩

theorem commands_taken_ne_nil :
    (plan.commands.take settings.maxCommands).zipIdx 1 ≠ [] := by
  have allowed := settings.commands.1
  have planned := plan.instructs
  rw [← List.length_pos_iff, List.length_zipIdx, List.length_take]
  omega

/-- The plan goes through exactly when each step it reaches does, and the commands are the
steps' commands in order. -/
theorem translatePlan_ok {commands : List (CommandPayload unicode)} :
    translatePlan unicode texts mutation plan subscription settings correlationID issuedAt =
        .ok commands ↔
      List.Forall₂ (fun entry command =>
        translateStep unicode texts mutation plan subscription settings correlationID issuedAt
          entry.1 entry.2 = .ok command)
        ((plan.commands.take settings.maxCommands).zipIdx 1) commands := by
  unfold translatePlan
  rw [bind_ok_iff, ← mapM_ok_iff]
  constructor
  · rintro ⟨built, steps, kept⟩
    split at kept
    next => cases kept
    next => rwa [← Except.ok.inj kept]
  · intro steps
    refine ⟨commands, steps, ?_⟩
    rw [if_neg]
    rintro rfl
    have none_taken := List.forall₂_nil_right_iff.mp (mapM_ok_iff.mp steps)
    exact commands_taken_ne_nil none_taken

/-- Each command comes from the step in its place. -/
theorem translatePlan_issued {commands : List (CommandPayload unicode)}
    (translated : translatePlan unicode texts mutation plan subscription settings correlationID
      issuedAt = .ok commands) :
    List.Forall₂ (Issued unicode mutation subscription) (plan.commands.take settings.maxCommands)
      commands := by
  have steps := (translatePlan_ok.mp translated).imp fun _ _ => translateStep_issued
  have places : (((plan.commands.take settings.maxCommands).zipIdx 1).map Prod.fst) =
      plan.commands.take settings.maxCommands := List.zipIdx_map_fst 1 _
  rw [← places]
  exact List.forall₂_map_left_iff.mpr steps

/-- A step in words of the tables, whose parameters the contract can hold. -/
structure Spoken (unicode : Unicode) (planned : PlannedAction) : Prop where
  action : ∃ kind, resolveAlias unicode actionAliases planned.action = some kind
  priority : ∃ rank, resolveAlias unicode priorityAliases planned.priority = some rank
  parameters : ∃ held, dictOf (.obj planned.parameters) = some held

/-- What the contract asks for of a command, whatever its plan. -/
structure Publishable (unicode : Unicode) (mutation : MutationEnvelope) (subscription : Subscription)
    (correlationID : Text) : Prop where
  tenant : Legible subscription.tenant
  keyID : Legible subscription.keyID
  correlation : Legible correlationID
  shape : identifierShape unicode mutation.assetID = true

/-- A plan in the words of the tables goes through exactly when its commands are
publishable. -/
theorem translatePlan_exists (named : Legible (Text.ofString plan.planID))
    (spoken : ∀ planned ∈ plan.commands, Spoken unicode planned) :
    (∃ commands, translatePlan unicode texts mutation plan subscription settings correlationID
        issuedAt = .ok commands) ↔ Publishable unicode mutation subscription correlationID := by
  have each : ∀ entry ∈ (plan.commands.take settings.maxCommands).zipIdx 1,
      ((∃ command, translateStep unicode texts mutation plan subscription settings correlationID
        issuedAt entry.1 entry.2 = .ok command) ↔
          Publishable unicode mutation subscription correlationID) := by
    rintro ⟨planned, index⟩ member
    obtain ⟨later, -, place⟩ := List.mem_zipIdx member
    obtain ⟨kind, rank, held⟩ :=
      spoken planned (List.mem_of_mem_take (List.mem_of_getElem place.symm))
    rw [translateStep_exists later]
    constructor
    · rintro ⟨-, -, built⟩
      exact ⟨built.tenant, built.keyID, built.correlation, built.shape⟩
    · rintro ⟨tenant, keyID, correlation, shape⟩
      exact ⟨kind, rank, tenant, keyID, named, correlation, shape, held⟩
  simp only [translatePlan_ok, exists_forall₂]
  have reached : (plan.commands.take settings.maxCommands).zipIdx 1 ≠ [] := commands_taken_ne_nil
  obtain ⟨entry, first⟩ := List.exists_mem_of_ne_nil _ reached
  constructor
  · intro all
    exact (each entry first).mp (all entry first)
  · intro fit entry member
    exact (each entry member).mpr fit

end

end OpenOntology.Worker
