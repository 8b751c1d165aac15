import OpenOntology.Intercept.Inbound
import OpenOntology.Library.Fence
import OpenOntology.Python.Dumps

/-!
# The prompt

The user turn: a few lines for a human reader, and the briefing as a fenced block of JSON. The
offline provider takes the block out of the text again with a regular expression.
-/
namespace OpenOntology.Intercept.Inbound

open Library Python
open Worker (orElse)

/-! ## The text -/

def toolName : String := "emit_command_sequence"

section
variable (interpreter : Interpreter) (formatG repr : Float → String)
variable (context : RemediationPromptContext)

def headline : String :=
  let payload := context.payload
  payload.severity.value ++ " " ++ payload.transition.value ++ " on " ++
    orElse payload.ontologyContext.assetName payload.assetID ++ " (" ++ payload.rule.sensorID ++
    "=" ++ formatG payload.rule.observedValue ++ spaced payload.rule.unit ++ ", limit " ++
    formatG payload.rule.threshold ++ ", " ++ formatG payload.rule.exceededPct ++ "% over)."

/-- The lines above the briefing. -/
def situation : List String :=
  let payload := context.payload
  let ontology := payload.ontologyContext
  [headline formatG context,
    "Site: " ++ orElse ontology.site "unknown" ++ " | Criticality: " ++ ontology.criticality,
    "Immediate parent system: " ++
      (ontology.immediateParent.map fun parent => parent.name).getD "unmapped",
    "Primary operator: " ++ (ontology.primaryOperator.map fun operator =>
      operator.name ++ " (" ++ operator.role ++ ")").getD "none assigned"] ++
  if payload.degraded = true then
    ["WARNING: context is degraded — " ++ payload.degradedReason.getD "None"]
  else []

/-- `"\n".join(situation)` -/
def framing : String := String.intercalate "\n" (situation formatG context)

/-- `render_user()`, or nothing where it raises. -/
def RemediationPromptContext.renderUser : Option String :=
  (dumps interpreter repr 2 (context.document formatG)).map fun written =>
    framing formatG context ++ "\n\nBriefing:\n```json\n" ++ written ++ "\n```\n\nCall " ++
      toolName ++ " with at most " ++ toString context.maxCommands ++ " commands."

end

/-! ## The block -/

def tick : Char := Char.ofNat 0x60

theorem tick_solid : ∀ c ∈ [tick, tick, tick], Python.isSpace c = false := by
  intro c member
  have same : c = tick := by simpa using member
  have visible : 33 ≤ tick.toNat ∧ tick.toNat < 127 := by decide
  rw [same]
  exact isSpace_of_visible visible

/-- `_BRIEFING_PATTERN` -/
def briefingPattern : Fence Char where
  space := Python.isSpace
  opening := "```json".toList
  closing := [tick, tick, tick]
  left := '{'
  right := '}'
  closing_ne_nil := List.cons_ne_nil tick _
  closing_solid := tick_solid

/-- What `_extract_briefing` raises. -/
inductive ExtractError where
  | planner (message : String)
  | json (error : LoadsError)
  deriving DecidableEq, Repr

/-- `_extract_briefing` -/
def extractBriefing (interpreter : Interpreter) (user : String) : Except ExtractError PyJson :=
  match briefingPattern.search user.toList with
  | none => .error (.planner "mock planner could not locate the briefing block in the prompt")
  | some body => (loads interpreter (String.ofList body)).mapError .json

theorem codePoint_tick_solid :
    ∀ c ∈ [CodePoint.ofChar tick, CodePoint.ofChar tick, CodePoint.ofChar tick],
      (c.val == 0x20) = false := by
  intro c member
  have same : c = CodePoint.ofChar tick := by simpa using member
  rw [same]
  rfl

/-- A text that holds the end of a block: a right brace, blanks, and a closing word. -/
def textFence : Fence CodePoint where
  space c := c.val == 0x20
  opening := []
  closing := [CodePoint.ofChar tick, CodePoint.ofChar tick, CodePoint.ofChar tick]
  left := CodePoint.ofChar '{'
  right := CodePoint.ofChar '}'
  closing_ne_nil := List.cons_ne_nil _ _
  closing_solid := codePoint_tick_solid

end OpenOntology.Intercept.Inbound
