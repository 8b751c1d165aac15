import OpenOntology.Intercept.Fences
import OpenOntology.Library.Partial

/-!
# The round trip of the briefing

What the offline provider makes of a user turn. The first opening of the prompt decides: it stands
within the lines above the briefing, or it is the one that was written for the briefing.
-/
namespace OpenOntology.Intercept.Inbound

open Library Python Python.Scanner
open Bridge (text entry)

/-! ## The turn -/

/-- What stands between the lines and the opening. -/
def lead : List Char := ['\n', '\n', 'B', 'r', 'i', 'e', 'f', 'i', 'n', 'g', ':', '\n']

/-- What stands after the last brace of the briefing. -/
def trail (last : List Char) : List Char := ['\n'] ++ (briefingPattern.closing ++ last)

/-- The turn after the lines above the briefing. -/
def fencedTurn (inner last : List Char) : List Char :=
  lead ++ (briefingPattern.opening ++ (['\n'] ++ '{' :: (inner ++ '}' :: trail last)))

section
variable (inner last : List Char)

theorem blank_break : ∀ c ∈ ['\n'], briefingPattern.space c = true := by
  rw [List.forall_mem_singleton]
  rfl

theorem firstOpened_fencedTurn :
    briefingPattern.firstOpened (fencedTurn inner last) = some (inner ++ '}' :: trail last) := by
  have passed : ∀ c ∈ lead, ∃ d ∈ briefingPattern.opening.head?, d ≠ c := by
    simp [lead, briefingPattern]
  have solid : briefingPattern.space briefingPattern.left = false := rfl
  have opened := Fence.opened_spelled blank_break solid (inner ++ '}' :: trail last)
  rw [fencedTurn, Fence.firstOpened_pass passed]
  refine Fence.firstOpened_of_opened opened ?_
  simp [briefingPattern]

theorem bars_fencedTurn : briefingPattern.Bars (fencedTurn inner last) := by
  constructor
  · intro c first
    cases first
    simp [briefingPattern]
  · intro c first
    cases first
    simp [briefingPattern]

theorem apart_fencedTurn : briefingPattern.Apart (fencedTurn inner last) := by
  intro c first
  cases first
  rw [mem_closing]
  decide

theorem apart_brace (rest : List Char) : briefingPattern.Apart ('}' :: rest) :=
  apart_solid rest rfl (by decide)

theorem body_brace : briefingPattern.body ('}' :: trail last) = some ['}'] :=
  if_pos ⟨rfl, Fence.closes_spelled blank_break last⟩

theorem body_turn : briefingPattern.body (inner ++ '}' :: trail last) =
    some ((briefingPattern.body inner).getD (inner ++ ['}'])) := by
  rw [Fence.body_append (apart_brace _), body_brace]
  cases briefingPattern.body inner <;> rfl

/-- The body of the whole turn is the turn up to a brace. -/
theorem body_fencedTurn :
    ∃ rest, briefingPattern.body (fencedTurn inner last) = some ('\n' :: '\n' :: 'B' :: rest) := by
  have whole : ∃ piece, fencedTurn inner last = ('\n' :: '\n' :: 'B' :: piece) ++ '}' :: trail last :=
    ⟨lead.drop 3 ++ (briefingPattern.opening ++ (['\n'] ++ '{' :: inner)), by simp [fencedTurn, lead]⟩
  have other : ∀ c rest, c ≠ '}' →
      briefingPattern.body (c :: rest) = (briefingPattern.body rest).map (c :: ·) :=
    fun c rest apart => if_neg fun closed => apart closed.1
  obtain ⟨piece, spelled⟩ := whole
  rw [spelled, body_turn, other _ _ (by decide), other _ _ (by decide), other _ _ (by decide)]
  cases briefingPattern.body piece with
  | none => exact ⟨piece ++ ['}'], rfl⟩
  | some inside => exact ⟨inside, rfl⟩

/-- The block of the turn: the first one of the lines, or from their opening on up to the turn, or
the briefing up to the first brace that closes it. -/
theorem search_turn (lines : List Char) :
    (briefingPattern.firstOpened lines = none ∧
      briefingPattern.search (lines ++ fencedTurn inner last) =
        some ('{' :: (briefingPattern.body inner).getD (inner ++ ['}']))) ∨
    (∃ block, briefingPattern.firstBlock lines = some block ∧
      briefingPattern.search (lines ++ fencedTurn inner last) = some block) ∨
    ∃ before rest, briefingPattern.firstOpened lines ≠ none ∧
      briefingPattern.firstBlock lines = none ∧
      briefingPattern.search (lines ++ fencedTurn inner last) =
        some (before ++ '\n' :: '\n' :: 'B' :: rest) := by
  have opened := @Fence.firstOpened_append _ _ _ lines _ (bars_fencedTurn inner last)
  cases first : briefingPattern.firstOpened lines with
  | none =>
    rw [first, firstOpened_fencedTurn] at opened
    exact Or.inl ⟨rfl, Fence.search_eq_some opened (body_turn inner last)⟩
  | some after =>
    rw [first] at opened
    have joined := @Fence.body_append _ _ _ after _ (apart_fencedTurn inner last)
    cases found : briefingPattern.body after with
    | some inside =>
      rw [found] at joined
      have block : briefingPattern.firstBlock lines = some ('{' :: inside) := by
        rw [Fence.firstBlock, first, Option.bind_some, found]
        rfl
      exact Or.inr (Or.inl ⟨_, block, Fence.search_eq_some opened joined⟩)
    | none =>
      obtain ⟨rest, turn⟩ := body_fencedTurn inner last
      rw [found, turn] at joined
      have block : briefingPattern.firstBlock lines = none := by
        rw [Fence.firstBlock, first, Option.bind_some, found]
        rfl
      exact Or.inr (Or.inr ⟨'{' :: after, rest, nofun, block, Fence.search_eq_some opened joined⟩)

end

/-! ## The block -/

section
variable {interpreter : Interpreter} {repr : Float → String} {indent : Nat}

theorem renderMembers_last (repr : Float → String) (indent : Nat) (members : List (Text × PyJson)) (level : Nat) :
    ∃ inner, PyJson.renderMembers repr indent level members = inner ++ ['}'] := by
  induction members with
  | nil => exact ⟨_, PyJson.renderMembers.eq_1 repr indent level⟩
  | cons member members ih =>
    obtain ⟨key, value⟩ := member
    obtain ⟨inner, spelled⟩ := ih
    rw [PyJson.renderMembers, spelled]
    exact ⟨',' :: (breakLine indent (level + 1) ++ (quote key ++ ':' :: ' ' ::
      (value.render repr indent (level + 1) ++ inner))), by simp⟩

theorem render_braces (repr : Float → String) (indent : Nat) (members : List (Text × PyJson)) (level : Nat) :
    ∃ inner, (PyJson.obj members).render repr indent level = '{' :: (inner ++ ['}']) := by
  cases members with
  | nil => exact ⟨[], PyJson.render.eq_9 repr indent level⟩
  | cons member members =>
    obtain ⟨key, value⟩ := member
    obtain ⟨inner, spelled⟩ := renderMembers_last repr indent members level
    rw [PyJson.render, spelled]
    exact ⟨breakLine indent (level + 1) ++ (quote key ++ ':' :: ' ' ::
      (value.render repr indent (level + 1) ++ inner)), by simp⟩

/-- The document is closed too early exactly where one of its texts closes it. -/
theorem closed_inner_iff {members : List (Text × PyJson)}
    (written : Written interpreter repr (PyJson.obj members).atoms) {inner : List Char}
    (spelled : (PyJson.obj members).render repr indent 0 = '{' :: (inner ++ ['}'])) :
    briefingPattern.closed inner = true ↔ Fenced (PyJson.obj members).atoms := by
  have ends : Ends ((PyJson.obj members).render repr indent 0) []
      (Fenced (PyJson.obj members).atoms) := render_ends _ 0 [] written nofun
  have within : briefingPattern.closed ('{' :: (inner ++ ['}'])) = briefingPattern.closed inner := by
    have last : briefingPattern.closed ['}'] = false := rfl
    have first : ('{' == briefingPattern.right) = false := rfl
    rw [Fence.closed, Fence.closed_append (apart_brace []), first, last, Bool.false_and,
      Bool.false_or, Bool.or_false]
  have nothing : briefingPattern.closed [] = false := rfl
  rw [← within, ← spelled, ← List.append_nil (PyJson.render _ _ _ _), ends.closed, nothing,
    or_iff_left Bool.false_ne_true]

/-- Only the whole document is one. -/
theorem loads_body_iff {inner : List Char} {value : PyJson}
    (whole : loads interpreter (String.ofList ('{' :: (inner ++ ['}']))) = .ok value)
    (other : PyJson) :
    loads interpreter
        (String.ofList ('{' :: (briefingPattern.body inner).getD (inner ++ ['}']))) = .ok other ↔
      briefingPattern.closed inner = false ∧ value = other := by
  cases found : briefingPattern.body inner with
  | none =>
    rw [Option.getD_none, whole, and_iff_right (Fence.body_eq_none_iff.mp found), Except.ok.injEq]
  | some front =>
    have closed : briefingPattern.closed inner ≠ false := by
      rw [ne_eq, ← Fence.body_eq_none_iff, found]
      nofun
    obtain ⟨before, after, rfl, rfl⟩ := Fence.body_spec found
    refine iff_of_false ?_ fun both => closed both.1
    have split : '{' :: (before ++ briefingPattern.right :: after ++ ['}']) =
        ('{' :: before) ++ '}' :: (after ++ ['}']) := by
      rw [List.append_assoc]
      rfl
    rw [split] at whole
    exact not_loads_front whole (List.mem_append_right after List.mem_cons_self) other

end

/-! ## The document -/

theorem not_isHigh_ofChar (c : Char) : isHigh (CodePoint.ofChar c) = false := by
  have code : (CodePoint.ofChar c).val = c.toNat := rfl
  unfold isHigh
  rw [code, Bool.and_eq_false_iff, decide_eq_false_iff_not, decide_eq_false_iff_not]
  rcases c.valid with small | ⟨large, -⟩
  · exact Or.inl (Nat.not_le_of_lt small)
  · exact Or.inr fun low => absurd (Nat.lt_of_lt_of_le large low) (by decide)

/-- A text of characters has no surrogates. -/
theorem unpaired_ofString (s : String) : Unpaired (Text.ofString s) := by
  unfold Unpaired Text.ofString
  induction s.toList with
  | nil => exact List.isChain_nil
  | cons c cs ih =>
    rw [List.map_cons, List.isChain_cons]
    exact ⟨fun d _ pair => by
      rw [not_isHigh_ofChar] at pair
      exact Bool.false_ne_true pair.1, ih⟩

/-- A value that nests so many containers, each dictionary with a key once. -/
structure Plain (room : Nat) (value : PyJson) : Prop where
  distinct : value.Distinct
  shallow : value.depth ≤ room

theorem plain_text (room : Nat) (s : String) : Plain room (text s) :=
  ⟨trivial, Nat.zero_le room⟩

theorem plain_int (room : Nat) (n : Int) : Plain room (.int n) := ⟨trivial, Nat.zero_le room⟩

theorem plain_float (room : Nat) (x : Float) : Plain room (.float x) := ⟨trivial, Nat.zero_le room⟩

theorem plain_bool (room : Nat) (value : Bool) : Plain room (.bool value) :=
  ⟨trivial, Nat.zero_le room⟩

theorem plain_optionText (room : Nat) (value : Option String) : Plain room (optionText value) := by
  cases value with
  | none => exact ⟨trivial, Nat.zero_le room⟩
  | some s => exact plain_text room s

theorem plain_entries (room : Nat) (entries : List (String × PyJson))
    (keys : (entries.map Prod.fst).Nodup) (values : ∀ held ∈ entries, Plain room held.2) :
    Plain (1 + room) (.obj (entries.map fun held => entry held.1 held.2)) := by
  refine ⟨⟨?_, PyJson.distinctMembers_iff.mpr ?_⟩, Nat.add_le_add_left ?_ 1⟩
  · have names : (entries.map fun held => entry held.1 held.2).map Prod.fst =
        (entries.map Prod.fst).map Text.ofString := by
      rw [List.map_map, List.map_map]
      rfl
    rw [names]
    exact keys.map Text.ofString_injective
  · intro member inside
    obtain ⟨held, drawn, rfl⟩ := List.mem_map.mp inside
    exact ⟨unpaired_ofString held.1, (values held drawn).distinct⟩
  · rw [PyJson.depthMembers_le_iff]
    intro member inside
    obtain ⟨held, drawn, rfl⟩ := List.mem_map.mp inside
    exact (values held drawn).shallow

theorem plain_arr {room : Nat} {α : Type} {f : α → PyJson} (each : ∀ item, Plain room (f item))
    (items : List α) : Plain (1 + room) (.arr (items.map f)) := by
  refine ⟨PyJson.distinctItems_iff.mpr ?_, Nat.add_le_add_left (PyJson.depthItems_le_iff.mpr ?_) 1⟩
  all_goals
    intro value inside
    obtain ⟨item, drawn, rfl⟩ := List.mem_map.mp inside
  · exact (each item).distinct
  · exact (each item).shallow

theorem plain_asset (payload : EnrichedContextPayload) : Plain 3 (assetDocument payload) := by
  have node (node : SystemNode) := plain_entries 0 [("node_id", text node.nodeID),
    ("name", text node.name), ("type", text node.type), ("depth", .int node.depth)] (by simp)
    (by simp [plain_text, plain_int])
  refine plain_entries 2 [("asset_id", _), ("name", _), ("class", _), ("site", _),
    ("criticality", _), ("maintenance_window", _), ("components", _), ("parent_systems", _)]
    (by simp) ?_
  simp only [List.forall_mem_cons, List.not_mem_nil, IsEmpty.forall_iff, implies_true, and_true]
  exact ⟨plain_text 2 _, plain_text 2 _, plain_text 2 _, plain_text 2 _, plain_text 2 _,
    plain_optionText 2 _, plain_arr (plain_text 1) _, plain_arr node _⟩

theorem plain_anomaly (formatG : Float → String) (payload : EnrichedContextPayload) :
    Plain 1 (anomalyDocument formatG payload) := by
  refine plain_entries 0 [("severity", _), ("transition", _), ("breach_count", _),
    ("active_since", _), ("rule_id", _), ("sensor_id", _), ("condition", _), ("observed_value", _),
    ("threshold", _), ("unit", _), ("exceeded_by", _), ("exceeded_pct", _)] (by simp) ?_
  simp only [List.forall_mem_cons, List.not_mem_nil, IsEmpty.forall_iff, implies_true, and_true]
  exact ⟨plain_text 0 _, plain_text 0 _, plain_int 0 _, plain_optionText 0 _, plain_text 0 _,
    plain_text 0 _, plain_text 0 _, plain_float 0 _, plain_float 0 _, plain_optionText 0 _,
    plain_float 0 _, plain_float 0 _⟩

theorem plain_snapshot (snapshot : TelemetrySnapshot) : Plain 3 (snapshotDocument snapshot) := by
  have reading (reading : Worker.SensorReading) := plain_entries 0 [
    ("sensor_id", text reading.sensorID), ("value", .float reading.value),
    ("unit", optionText reading.unit), ("age_seconds", .float reading.ageSeconds)] (by simp)
    (by simp [plain_text, plain_float, plain_optionText])
  refine plain_entries 2 [("captured_at", _), ("complete", _), ("readings", _)]
    (by simp) ?_
  simp only [List.forall_mem_cons, List.not_mem_nil, IsEmpty.forall_iff, implies_true, and_true]
  exact ⟨plain_text 2 _, plain_bool 2 _, plain_arr reading _⟩

theorem plain_operator (operator : Operator) : Plain 1 (operatorDocument operator) := by
  refine plain_entries 0 [("operator_id", _), ("name", _), ("role", _), ("shift", _),
    ("contact", _), ("escalation_order", _)] (by simp) ?_
  simp only [List.forall_mem_cons, List.not_mem_nil, IsEmpty.forall_iff, implies_true, and_true]
  exact ⟨plain_text 0 _, plain_text 0 _, plain_text 0 _, plain_optionText 0 _,
    plain_optionText 0 _, plain_int 0 _⟩

section
variable (context : RemediationPromptContext)

theorem plain_constraints : Plain 2 context.constraintsDocument := by
  have note (s : Text) : Plain 0 (.str s) := ⟨trivial, Nat.le_refl 0⟩
  have notes : Plain 1 (.arr (context.policyNotes.map .str)) := plain_arr note _
  refine plain_entries 1 [("tenant", _), ("tier", _), ("max_commands", _),
    ("allowed_actions", _), ("context_degraded", _), ("degraded_reason", _), ("policy_notes", _)]
    (by simp) ?_
  simp only [List.forall_mem_cons, List.not_mem_nil, IsEmpty.forall_iff, implies_true, and_true]
  exact ⟨⟨trivial, Nat.zero_le 1⟩, ⟨trivial, Nat.zero_le 1⟩, plain_int 1 _,
    plain_arr (fun _ => plain_text 0 _) _, plain_bool 1 _, plain_optionText 1 _, notes⟩

theorem Plain.weaken {few many : Nat} {value : PyJson} (plain : Plain few value)
    (more : few ≤ many) : Plain many value :=
  ⟨plain.distinct, plain.shallow.trans more⟩

theorem plain_document (formatG : Float → String) : Plain 4 (context.document formatG) := by
  refine plain_entries 3 [("event_id", _), ("asset", _), ("anomaly", _),
    ("telemetry_snapshot", _), ("operators", _), ("constraints", _)] (by simp) ?_
  simp only [List.forall_mem_cons, List.not_mem_nil, IsEmpty.forall_iff, implies_true, and_true]
  exact ⟨plain_text 3 _, plain_asset _, (plain_anomaly formatG _).weaken (by decide),
    plain_snapshot _, (plain_arr plain_operator _).weaken (by decide),
    (plain_constraints context).weaken (by decide)⟩

end

/-! ## The prompt -/

section
variable {interpreter : Interpreter} {formatG repr : Float → String}
variable (context : RemediationPromptContext)

theorem lead_spelled :
    "\n\nBriefing:\n```json\n".toList = lead ++ (briefingPattern.opening ++ ['\n']) := by
  simp [lead, briefingPattern]

theorem trail_spelled (rest : String) :
    ("\n```\n\nCall " ++ rest).toList = trail ("\n\nCall ".toList ++ rest.toList) := by
  simp [trail, briefingPattern, tick]

/-- The turn is rendered where every integer of the briefing is printed. -/
theorem renderUser_iff : (∃ user, context.renderUser interpreter formatG repr = some user) ↔
    (context.document formatG).prints interpreter = true := by
  unfold RemediationPromptContext.renderUser dumps
  split
  next printed => exact iff_of_true ⟨_, rfl⟩ printed
  next silent => exact iff_of_false nofun silent

/-- The turn is its lines and the fenced document. -/
theorem renderUser_eq_some {user : String}
    (rendered : context.renderUser interpreter formatG repr = some user) :
    ∃ written, dumps interpreter repr 2 (context.document formatG) = some written ∧
      ∀ inner, written.toList = '{' :: (inner ++ ['}']) → ∃ last,
        user.toList = (framing formatG context).toList ++ fencedTurn inner last := by
  obtain ⟨written, dumped, rfl⟩ := Option.map_eq_some_iff.mp rendered
  refine ⟨written, dumped, fun inner spelled => ?_⟩
  let call := toolName ++ (" with at most " ++ (toString context.maxCommands ++ " commands."))
  have whole : framing formatG context ++ "\n\nBriefing:\n```json\n" ++ written ++
      "\n```\n\nCall " ++ toolName ++ " with at most " ++ toString context.maxCommands ++
      " commands." = framing formatG context ++ ("\n\nBriefing:\n```json\n" ++ (written ++
        ("\n```\n\nCall " ++ call))) := by
    simp only [call, String.append_assoc]
  rw [whole, String.toList_append, String.toList_append, String.toList_append, lead_spelled, spelled,
    trail_spelled]
  exact ⟨"\n\nCall ".toList ++ call.toList, by simp [fencedTurn]⟩

theorem extractBriefing_ok_iff {user : String} {block : List Char} {loaded : PyJson}
    (searched : briefingPattern.search user.toList = some block) :
    extractBriefing interpreter user = .ok loaded ↔
      loads interpreter (String.ofList block) = .ok loaded := by
  unfold extractBriefing
  rw [searched]
  exact mapError_ok_iff

/-- What the provider finds in the turn: the briefing, or a block within the lines above it. -/
theorem extracted_iff
    (literal : ∀ x, PyJson.float x ∈ (context.document formatG).atoms → isFinite x = true →
      ReadsBackAs (repr x) x)
    (room : 4 ≤ interpreter.scanDepth) {user : String}
    (rendered : context.renderUser interpreter formatG repr = some user) (loaded : PyJson) :
    extractBriefing interpreter user = .ok loaded ↔
      (briefingPattern.firstOpened (framing formatG context).toList = none ∧
        ¬Fenced (context.document formatG).atoms ∧
        loaded = (context.document formatG).sortKeys.reread) ∨
      ∃ block, briefingPattern.firstBlock (framing formatG context).toList = some block ∧
        loads interpreter (String.ofList block) = .ok loaded := by
  obtain ⟨written, dumped, parts⟩ := renderUser_eq_some context rendered
  have whole : loads interpreter written = .ok (context.document formatG).sortKeys.reread :=
    loads_dumps 2 literal ((plain_document context formatG).shallow.trans room) dumped
  obtain ⟨printed, spelled⟩ := Option.ite_none_right_eq_some.mp dumped
  cases spelled
  have numbers := written_sortKeys printed literal
  have same_texts : Fenced (context.document formatG).sortKeys.atoms ↔
      Fenced (context.document formatG).atoms := by
    simp only [Fenced, PyJson.mem_atoms_sortKeys]
  have ordered : ∃ members, (context.document formatG).sortKeys = .obj members :=
    ⟨_, PyJson.sortKeys_obj _⟩
  obtain ⟨members, order⟩ := ordered
  obtain ⟨inner, braced⟩ := render_braces repr 2 members 0
  rw [order] at numbers same_texts
  rw [order, braced] at whole
  obtain ⟨last, turn⟩ := parts inner (by rw [String.toList_ofList, order, braced])
  have early := (closed_inner_iff numbers braced).trans same_texts
  have read := loads_body_iff whole loaded
  rcases search_turn inner last (framing formatG context).toList with
    ⟨unopened, searched⟩ | ⟨block, first, searched⟩ | ⟨before, rest, opened, unblocked, searched⟩
  · have unblocked : briefingPattern.firstBlock (framing formatG context).toList = none := by
      rw [Fence.firstBlock, unopened]
      rfl
    rw [extractBriefing_ok_iff (turn ▸ searched), read, ← Bool.not_eq_true, early, order, unblocked,
      eq_comm (a := loaded)]
    simp [unopened]
  · have opened : briefingPattern.firstOpened (framing formatG context).toList ≠ none := by
      intro unopened
      rw [Fence.firstBlock, unopened] at first
      cases first
    rw [extractBriefing_ok_iff (turn ▸ searched), first]
    simp [opened]
  · have never : loads interpreter (String.ofList (before ++ '\n' :: '\n' :: 'B' :: rest)) ≠
        .ok loaded := not_loads_break before rest loaded
    rw [extractBriefing_ok_iff (turn ▸ searched), unblocked]
    exact iff_of_false never (by simp [opened])

end

/-! ## Two pumps -/

def float? : PyJson → Option Float
  | .float x => some x
  | _ => none

def int? : PyJson → Option Int
  | .int n => some n
  | _ => none

theorem prints_of_ints {interpreter : Interpreter} {value : PyJson} {ns : List Int}
    (listed : value.atoms.filterMap int? = ns) (each : ∀ n ∈ ns, interpreter.prints n = true) :
    value.prints interpreter = true := by
  rw [PyJson.prints_iff]
  intro n inside
  exact each n (listed ▸ List.mem_filterMap.mpr ⟨_, inside, rfl⟩)

theorem prints_digit {interpreter : Interpreter} {n : Int} (digit : n.natAbs < 10)
    (room : 1 ≤ interpreter.maxStrDigits) : interpreter.prints n = true := by
  have single : ∀ m < 10, (toString m).length = 1 := by decide
  rw [Interpreter.prints, single _ digit, decide_eq_true room, Bool.or_true]

def measured : Datetime := ⟨2027, 3, 1, 9, 0, 0, 0, some 0⟩

/-- A breach on a pump of this name. -/
def pump (name : String) : RemediationPromptContext where
  payload := {
    eventID := "evt-1"
    assetID := "PUMP-7"
    transition := .raised
    severity := .high
    rule := {
      ruleID := "rule-1", sensorID := "vibration_index", threshold := 7, observedValue := 9
      exceededBy := 2, exceededPct := 28.5 }
    telemetrySnapshot := {
      readings := [{ sensorID := "vibration_index", value := 9, unit := none, ageSeconds := 0.5 }]
      complete := true, capturedAt := measured }
    ontologyContext := {
      assetID := "PUMP-7", assetName := name, components := ["impeller", "drive end bearing"] } }
  tenant := Text.ofString "plant-7"
  tier := Text.ofString "enterprise"
  commands := maxCommands_default

/-- `repr`, at the floats of the pump. -/
def pumpRepr (x : Float) : String :=
  if x == 7 then "7.0" else if x == 9 then "9.0" else if x == 2 then "2.0"
  else if x == 28.5 then "28.5" else "0.5"

/-- `f"{x:g}"`, at the floats of the pump. -/
def pumpFormat (x : Float) : String :=
  if x == 7 then "7" else if x == 9 then "9" else if x == 2 then "2"
  else if x == 28.5 then "28.5" else "0.5"

theorem pump_chain (name : String) : (pump name).payload.ontologyContext.escalationChain = [] :=
  List.mergeSort_nil

theorem pump_parents (name : String) : (pump name).payload.ontologyContext.sortedParents = [] :=
  List.mergeSort_nil

theorem pump_floats (name : String) :
    ((pump name).document pumpFormat).atoms.filterMap float? = [9, 7, 2, 28.5, 9, 0.5] := by
  unfold RemediationPromptContext.document assetDocument
  dsimp only
  rw [pump_chain, pump_parents]
  rfl

theorem pump_ints (name : String) :
    ((pump name).document pumpFormat).atoms.filterMap int? = [0, 6] := by
  unfold RemediationPromptContext.document assetDocument
  dsimp only
  rw [pump_chain, pump_parents]
  rfl

theorem pump_prints (name : String) :
    ((pump name).document pumpFormat).prints ⟨1000, 1000, 4300⟩ = true :=
  prints_of_ints (pump_ints name) (List.forall_mem_cons.mpr
    ⟨prints_digit (by decide) (by decide), List.forall_mem_singleton.mpr
      (prints_digit (by decide) (by decide))⟩)

theorem feedPump_kept : ¬Fenced ((pump "Feed pump").document pumpFormat).atoms ∧
    Survives ((pump "Feed pump").document pumpFormat).atoms := by
  unfold RemediationPromptContext.document assetDocument
  dsimp only
  rw [pump_chain, pump_parents]
  decide +kernel

theorem readsBackAs_fraction {s : String} (whole fraction : List Nat)
    (read : literalOf s.toList =
      some (.fraction, { negative := false, whole := whole, fraction := fraction })) :
    ReadsBackAs s (NumberText.float { negative := false, whole := whole, fraction := fraction }) :=
  ⟨_, _, read, Or.inl rfl, rfl⟩

theorem pumpRepr_literal (name : String) :
    ∀ x, PyJson.float x ∈ ((pump name).document pumpFormat).atoms → isFinite x = true →
      ReadsBackAs (pumpRepr x) x := by
  intro x inside _
  have listed : x ∈ ((pump name).document pumpFormat).atoms.filterMap float? :=
    List.mem_filterMap.mpr ⟨_, inside, rfl⟩
  have nine : ReadsBackAs (pumpRepr 9) 9 := readsBackAs_fraction [9] [0] rfl
  have seven : ReadsBackAs (pumpRepr 7) 7 := readsBackAs_fraction [7] [0] rfl
  have two : ReadsBackAs (pumpRepr 2) 2 := readsBackAs_fraction [2] [0] rfl
  have share : ReadsBackAs (pumpRepr 28.5) 28.5 :=
    readsBackAs_fraction [2, 8] [5] rfl
  have half : ReadsBackAs (pumpRepr 0.5) 0.5 := readsBackAs_fraction [0] [5] rfl
  rw [pump_floats] at listed
  simp only [List.mem_cons, List.not_mem_nil, or_false] at listed
  rcases listed with rfl | rfl | rfl | rfl | rfl | rfl
  · exact nine
  · exact seven
  · exact two
  · exact share
  · exact nine
  · exact half

end OpenOntology.Intercept.Inbound
