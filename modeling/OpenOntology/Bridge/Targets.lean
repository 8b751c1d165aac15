import OpenOntology.Bridge.Acceptance

/-!
# Asset ids at both ends of the loop

The engine names an asset as its `identifierPattern` asks; the worker's contract strips the
target of a command and checks it character by character.
-/
namespace OpenOntology.Bridge

open Python Library
open Resolution (identifierPattern)
open Worker (CommandDraft CommandTexts CommandPayload strippedStr identifierShape separators)

variable {unicode : Unicode} {draft : CommandDraft} {s : String}

/-- The same command with another target. -/
def aimedAt (draft : CommandDraft) (s : String) : CommandDraft :=
  { draft with targetAssetID := Text.ofString s }

/-- The contract takes the string for the target of the command and keeps it as it is. -/
def Targets (unicode : Unicode) (draft : CommandDraft) (s : String) : Prop :=
  ∃ command, CommandPayload.build unicode (aimedAt draft s) = some command ∧
    command.targetAssetID = s

/-- The other fields are stripped as before. -/
theorem texts_aimedAt {texts : CommandTexts} (cut : draft.texts = some texts) :
    (aimedAt draft s).texts =
      (strippedStr 1 (Text.ofString s)).map fun target => { texts with targetAssetID := target } := by
  unfold CommandDraft.texts at cut ⊢
  simp only [Option.bind_eq_bind, Option.bind_eq_some_iff, Option.pure_def, Option.some.injEq] at cut
  obtain ⟨_, -, _, h1, _, h2, _, h3, _, h4, _, h5, _, h6, _, h7, _, h8, _, h9, _, h10, _, h11, rfl⟩ :=
    cut
  unfold aimedAt
  dsimp only
  simp only [Option.bind_eq_bind, h1, h2, h3, h4, h5, h6, h7, h8, h9, h10, h11, Option.bind_some,
    Option.pure_def]
  cases strippedStr 1 (Text.ofString s) <;> rfl

theorem strippedStr_same_iff : strippedStr 1 (Text.ofString s) = some s ↔
    stripWhitespace s = s ∧ 1 ≤ s.length := by
  unfold strippedStr
  rw [Text.toString?_ofString, Option.map_some, Option.filter_eq_some_iff]
  simp

/-- A command that is accepted is accepted with another target exactly when that one is short,
not to be stripped and of the right shape. -/
theorem targets_iff {accepted : CommandPayload unicode}
    (built : CommandPayload.build unicode draft = some accepted) :
    Targets unicode draft s ↔
      stripWhitespace s = s ∧ s.length ≤ 128 ∧ identifierShape unicode s = true := by
  constructor
  · rintro ⟨command, aimed, same⟩
    have target := CommandDraft.texts_target (CommandPayload.build_carries aimed).texts
    have targeted := command.targeted
    rw [same] at target targeted
    exact ⟨(strippedStr_same_iff.mp target).1, targeted⟩
  · rintro ⟨kept, targeted⟩
    have cut := (CommandPayload.build_carries built).texts
    have long : 1 ≤ s.length := by
      by_contra empty
      have nothing : s = "" := String.length_eq_zero_iff.mp (by omega)
      rw [nothing] at targeted
      exact Bool.false_ne_true targeted.2
    have retargeted : (aimedAt draft s).texts = some { accepted.toCommandTexts with targetAssetID := s } := by
      rw [texts_aimedAt cut, strippedStr_same_iff.mpr ⟨kept, long⟩, Option.map_some]
    unfold CommandPayload.build at built
    obtain ⟨texts, -, built⟩ := Option.bind_eq_some_iff.mp built
    obtain ⟨held, parameters, built⟩ := Option.bind_eq_some_iff.mp built
    split at built
    next checked =>
      have builds : ∃ command, CommandPayload.build unicode (aimedAt draft s) = some command :=
        CommandPayload.build_some retargeted parameters ⟨targeted, checked.2⟩
      obtain ⟨command, aimed⟩ := builds
      refine ⟨command, aimed, ?_⟩
      have carried := (CommandPayload.build_carries aimed).texts
      rw [retargeted] at carried
      rw [← Option.some.inj carried]
    next => cases built

/-- The engine's pattern is the narrower of the two. -/
theorem targets_of_pattern {accepted : CommandPayload unicode}
    (built : CommandPayload.build unicode draft = some accepted)
    (matched : identifierPattern s = true) : Targets unicode draft s := by
  obtain ⟨first, rest, spelled, -, short, -⟩ := identifierPattern_iff.mp matched
  have length : s.length = rest.length + 1 := by
    rw [← String.length_toList, spelled, List.length_cons]
  have kept : stripWhitespace s = s := (strip_of_chars (nodeChars_of_pattern matched)).1
  exact (targets_iff built).mpr ⟨kept, by omega, identifierShape_of_pattern unicode matched⟩

theorem identifierShape_iff : identifierShape unicode s = true ↔
    s.toList.head?.map unicode.isAlnum = some true ∧
      ¬∃ separator ∈ separators, separator ∈ s.toList := by
  unfold identifierShape
  rw [Bool.and_eq_true, Bool.not_eq_true', List.any_eq_false]
  refine and_congr ?_ ?_
  · cases s.toList.head?.map unicode.isAlnum with
    | none => simp
    | some opens => simp
  · simp

/-- An accepted string whose characters the pattern knows matches it. -/
theorem pattern_of_parts (opens : s.toList.head?.map unicode.isAlnum = some true)
    (short : s.length ≤ 128) (parts : ∀ c ∈ s.toList, identifierPart c = true) :
    identifierPattern s = true := by
  obtain ⟨first, starts, alnum⟩ := Option.map_eq_some_iff.mp opens
  obtain ⟨rest, spelled⟩ := List.head?_eq_some_iff.mp starts
  rw [spelled] at parts
  have ascii := identifierPart_ascii (parts first List.mem_cons_self)
  rw [unicode.isAlnum_ascii first ascii] at alnum
  rw [← String.length_toList, spelled, List.length_cons] at short
  exact identifierPattern_iff.mpr ⟨first, rest, spelled, alnum, by omega,
    fun c member => parts c (List.mem_cons_of_mem _ member)⟩

/-- The worker and the engine disagree exactly about the strings that begin with an alphanumeric
character of any script, hold no separator and are short, but hold a character that the pattern
does not know. -/
theorem targets_agree_iff {accepted : CommandPayload unicode}
    (built : CommandPayload.build unicode draft = some accepted) :
    (Targets unicode draft s ↔ identifierPattern s = true) ↔
      (∀ c ∈ s.toList, identifierPart c = true) ∨ stripWhitespace s ≠ s ∨ 128 < s.length ∨
        s.toList.head?.map unicode.isAlnum ≠ some true ∨ ∃ separator ∈ separators, separator ∈ s.toList := by
  have agree : (Targets unicode draft s ↔ identifierPattern s = true) ↔
      (Targets unicode draft s → identifierPattern s = true) :=
    ⟨Iff.mp, fun narrower => ⟨narrower, targets_of_pattern built⟩⟩
  rw [agree, targets_iff built, identifierShape_iff]
  constructor
  · intro narrower
    by_contra differs
    simp only [not_or, not_not, Nat.not_lt] at differs
    obtain ⟨unknown, kept, short, opens, solid⟩ := differs
    exact unknown (identifierPart_of_pattern (narrower ⟨kept, short, opens, solid⟩))
  · rintro condition ⟨kept, short, opens, solid⟩
    rcases condition with parts | stripped | long | closed | separated
    · exact pattern_of_parts opens short parts
    · exact absurd kept stripped
    · omega
    · exact absurd opens closed
    · exact absurd separated solid

/-- A command of the worker. -/
def inspection : CommandDraft where
  commandID := ⟨"evt_1|1|INSPECT"⟩
  targetAssetID := Text.ofString "pump-1"
  actionType := .inspect
  executionPriority := .low
  issuedAt := 0
  tenant := Text.ofString "acme"
  licenseKeyID := Text.ofString "key-1"
  sourceEventID := Text.ofString "evt_1"
  planID := Text.ofString "plan-1"
  correlationID := Text.ofString "corr-1"
  sequence := 1
  targetComponent := none
  parameters := []
  expectedEffect := []
  rollback := none
  assignedTo := []
  assignedOperatorID := none
  deadlineSeconds := 60
  expiresAt := 60
  requiresHumanApproval := true
  escalationRequired := false
  confidence := 0.5
  triggerSensorID := []
  triggerSeverity := .info
  triggerTransition := .raised
  contextDegraded := false

theorem inspection_built :
    ∃ accepted, CommandPayload.build asciiUnicode inspection = some accepted :=
  Option.isSome_iff_exists.mp (by decide +kernel)

/-- The worker targets an asset that the engine would not name. -/
theorem at_sign_targets :
    Targets asciiUnicode inspection "pump@1" ∧ identifierPattern "pump@1" = false := by
  obtain ⟨accepted, built⟩ := inspection_built
  refine ⟨(targets_iff built).mpr ?_, by decide +kernel⟩
  exact ⟨by decide +kernel, by decide +kernel, by decide +kernel⟩

theorem targets_agree_pump :
    (Targets asciiUnicode inspection "pump-1" ↔ identifierPattern "pump-1" = true) ↔
      (∀ c ∈ "pump-1".toList, identifierPart c = true) ∨ stripWhitespace "pump-1" ≠ "pump-1" ∨
        128 < "pump-1".length ∨ "pump-1".toList.head?.map asciiUnicode.isAlnum ≠ some true ∨
        ∃ separator ∈ separators, separator ∈ "pump-1".toList := by
  obtain ⟨accepted, built⟩ := inspection_built
  exact targets_agree_iff built

end OpenOntology.Bridge
