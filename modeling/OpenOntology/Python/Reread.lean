import OpenOntology.Library.Binary64
import OpenOntology.Python.Literals

/-!
# Reading back what was dumped

What `json.loads` makes of a document that `json.dumps` wrote: every value comes back but for
three kinds. A split pair of surrogates becomes one code point, a dictionary comes back in the
order of its keys, and a NaN is a NaN again but equal to none.
-/
namespace OpenOntology.Python

open Scanner

/-! ## Values -/

/-- What becomes of a float: an infinity is written by its name, and every NaN alike. -/
def rereadFloat (x : Float) : Float :=
  if x != x then 0 / 0 else if x == 1 / 0 then 1 / 0 else if x == -1 / 0 then -1 / 0 else x

/-- The float is written as a literal. -/
def isFinite (x : Float) : Bool := !(x != x) && !(x == 1 / 0) && !(x == -1 / 0)

namespace PyJson

mutual

/-- What the decoder makes of the value once it is written. -/
def reread : PyJson → PyJson
  | .float x => .float (rereadFloat x)
  | .str s => .str (joinSurrogates (s.flatMap units))
  | .arr items => .arr (rereadItems items)
  | .obj members => .obj (rereadMembers [] members)
  | value => value

def rereadItems : List PyJson → List PyJson
  | [] => []
  | item :: rest => item.reread :: rereadItems rest

def rereadMembers (held : Members) : List (Text × PyJson) → Members
  | [] => held
  | (key, value) :: rest =>
    rereadMembers (held.assign (joinSurrogates (key.flatMap units)) value.reread) rest

end

mutual

/-- The containers that the value nests. -/
def depth : PyJson → Nat
  | .arr items => 1 + depthItems items
  | .obj members => 1 + depthMembers members
  | _ => 0

def depthItems : List PyJson → Nat
  | [] => 0
  | item :: rest => Nat.max item.depth (depthItems rest)

def depthMembers : List (Text × PyJson) → Nat
  | [] => 0
  | (_, value) :: rest => Nat.max value.depth (depthMembers rest)

end

mutual

/-- The values in the document that are no containers, and its keys. -/
def atoms : PyJson → List PyJson
  | .arr items => atomsItems items
  | .obj members => atomsMembers members
  | value => [value]

def atomsItems : List PyJson → List PyJson
  | [] => []
  | item :: rest => item.atoms ++ atomsItems rest

def atomsMembers : List (Text × PyJson) → List PyJson
  | [] => []
  | (key, value) :: rest => .str key :: (value.atoms ++ atomsMembers rest)

end

end PyJson

/-- The numbers among the values are written as literals of theirs. -/
def Written (interpreter : Interpreter) (repr : Float → String) (atoms : List PyJson) : Prop :=
  (∀ n, PyJson.int n ∈ atoms → interpreter.prints n = true) ∧
    ∀ x, PyJson.float x ∈ atoms → isFinite x = true → ReadsBackAs (repr x) x

section
variable {interpreter : Interpreter} {repr : Float → String} {indent : Nat}

theorem written_append {first rest : List PyJson} : Written interpreter repr (first ++ rest) ↔
    Written interpreter repr first ∧ Written interpreter repr rest := by
  simp only [Written, List.mem_append, or_imp, forall_and]
  tauto

theorem written_str_cons {key : Text} {rest : List PyJson} :
    Written interpreter repr (.str key :: rest) ↔ Written interpreter repr rest := by
  simp only [Written, List.mem_cons, reduceCtorEq, false_or]

/-- A float that is written comes back as it is. -/
theorem run_float {x : Float} (read : isFinite x = true → ReadsBackAs (repr x) x) {stack : List Frame}
    {d : Char} (follows : Follows d) (rest : List Char) :
    Scanner.run interpreter ⟨stack, .value⟩ (floatText repr x ++ d :: rest) =
      Scanner.run interpreter (complete stack (.float (rereadFloat x))) (d :: rest) := by
  unfold floatText rereadFloat
  by_cases nan : (x != x) = true
  · rw [if_pos nan, if_pos nan]
    rfl
  by_cases infinite : (x == 1 / 0) = true
  · rw [if_neg nan, if_neg nan, if_pos infinite, if_pos infinite]
    rfl
  by_cases negative : (x == -1 / 0) = true
  · rw [if_neg nan, if_neg nan, if_neg infinite, if_neg infinite, if_pos negative, if_pos negative]
    rfl
  · rw [if_neg nan, if_neg nan, if_neg infinite, if_neg infinite, if_neg negative, if_neg negative]
    have finite : isFinite x = true := by simp [isFinite, nan, infinite, negative]
    obtain ⟨phase, t, literal, closes, value⟩ := read finite
    refine run_literal_follows literal ?_ follows rest
    rcases closes with rfl | rfl <;> exact congrArg (fun x => Except.ok (PyJson.float x)) value

/-- White space is skipped where the scanner stays as it is. -/
theorem run_breakLine {s : Scanner}
    (skips : ∀ c, isWhitespace c = true → Scanner.step interpreter s c = .ok s) (level : Nat)
    (rest : List Char) :
    Scanner.run interpreter s (breakLine indent level ++ rest) = Scanner.run interpreter s rest := by
  unfold breakLine
  rw [List.cons_append, run_cons_ok _ (skips '\n' rfl)]
  induction indent * level with
  | zero => rfl
  | succ n ih =>
    rw [List.replicate_succ, List.cons_append, run_cons_ok _ (skips ' ' rfl)]
    exact ih

theorem skips_value (stack : List Frame) (c : Char) (white : isWhitespace c = true) :
    Scanner.step interpreter ⟨stack, .value⟩ c = .ok ⟨stack, .value⟩ := if_pos white

theorem skips_firstItem (stack : List Frame) (c : Char) (white : isWhitespace c = true) :
    Scanner.step interpreter ⟨stack, .firstItem⟩ c = .ok ⟨stack, .firstItem⟩ := if_pos white

theorem skips_firstMember (stack : List Frame) (c : Char) (white : isWhitespace c = true) :
    Scanner.step interpreter ⟨stack, .firstMember⟩ c = .ok ⟨stack, .firstMember⟩ := if_pos white

theorem skips_nextMember (stack : List Frame) (held : Members) (c : Char)
    (white : isWhitespace c = true) :
    Scanner.step interpreter ⟨stack, .nextMember held⟩ c = .ok ⟨stack, .nextMember held⟩ :=
  if_pos white

theorem skips_afterItem (stack : List Frame) (held : List PyJson) (c : Char)
    (white : isWhitespace c = true) :
    Scanner.step interpreter ⟨stack, .afterItem held⟩ c = .ok ⟨stack, .afterItem held⟩ :=
  if_pos white

theorem skips_afterMember (stack : List Frame) (held : Members) (c : Char)
    (white : isWhitespace c = true) :
    Scanner.step interpreter ⟨stack, .afterMember held⟩ c = .ok ⟨stack, .afterMember held⟩ :=
  if_pos white

/-- The first character of a value opens it as the first item of a list too. -/
theorem step_firstItem {stack : List Frame} {c : Char} (solid : isWhitespace c = false)
    (opens : c ≠ ']') :
    Scanner.step interpreter ⟨stack, .firstItem⟩ c =
      Scanner.step interpreter ⟨.item [] :: stack, .value⟩ c := by
  unfold Scanner.step
  dsimp only
  rw [solid, if_neg (by simp), if_neg opens]

theorem digit_solid {c : Char} (digit : c.isDigit = true) : isWhitespace c = false ∧ c ≠ ']' := by
  obtain ⟨d, small, rfl⟩ := isDigit_cases digit
  have all : ∀ d < 10, isWhitespace (Nat.digitChar d) = false ∧ Nat.digitChar d ≠ ']' := by decide
  exact all d small

theorem literal_head {cs : List Char} {held : NumberPhase × NumberText}
    (read : literalOf cs = some held) (some_char : held.1 ≠ .sign) :
    ∃ c rest, cs = c :: rest ∧ isWhitespace c = false ∧ c ≠ ']' := by
  unfold literalOf at read
  split at read
  next rest => exact ⟨'-', rest, rfl, rfl, by decide⟩
  next =>
    cases cs with
    | nil =>
      cases read
      exact absurd rfl some_char
    | cons c cs =>
      rw [List.foldlM_cons] at read
      obtain ⟨next, extended, -⟩ := Option.bind_eq_some_iff.mp read
      have solid := digit_solid (isDigit_of_extend extended)
      exact ⟨c, cs, rfl, solid.1, solid.2⟩

theorem render_head (indent : Nat) {value : PyJson} (written : Written interpreter repr value.atoms) (level : Nat) :
    ∃ c rest, value.render repr indent level = c :: rest ∧ isWhitespace c = false ∧ c ≠ ']' := by
  cases value with
  | null => exact ⟨'n', _, rfl, rfl, by decide⟩
  | bool value => cases value <;> exact ⟨_, _, rfl, rfl, by decide⟩
  | int n =>
    obtain ⟨held, read, closed⟩ := literalOf_int (written.1 n List.mem_cons_self)
    refine literal_head read ?_
    intro sign
    rw [sign] at closed
    cases closed
  | float x =>
    have read := written.2 x List.mem_cons_self
    simp only [PyJson.render, floatText]
    split
    · exact ⟨'N', _, rfl, rfl, by decide⟩
    split
    · exact ⟨'I', _, rfl, rfl, by decide⟩
    split
    · exact ⟨'-', _, rfl, rfl, by decide⟩
    next nan infinite negative =>
      have finite : isFinite x = true := by simp [isFinite, nan, infinite, negative]
      obtain ⟨phase, t, literal, closes, -⟩ := read finite
      refine literal_head literal ?_
      rcases closes with rfl | rfl <;> nofun
  | str s => exact ⟨'"', _, rfl, rfl, by decide⟩
  | arr items => cases items <;> exact ⟨'[', _, rfl, rfl, by decide⟩
  | obj members => cases members <;> exact ⟨'{', _, rfl, rfl, by decide⟩

theorem renderItems_head (repr : Float → String) (indent : Nat) (items : List PyJson) (level : Nat) (tail : List Char) :
    ∃ d rest, Follows d ∧ PyJson.renderItems repr indent level items ++ tail = d :: rest := by
  cases items with
  | nil => exact ⟨'\n', _, Or.inr rfl, rfl⟩
  | cons item rest => exact ⟨',', _, Or.inl rfl, rfl⟩

theorem renderMembers_head (repr : Float → String) (indent : Nat)
    (members : List (Text × PyJson)) (level : Nat) (tail : List Char) :
    ∃ d rest, Follows d ∧ PyJson.renderMembers repr indent level members ++ tail = d :: rest := by
  cases members with
  | nil => exact ⟨'\n', _, Or.inr rfl, rfl⟩
  | cons member rest => exact ⟨',', _, Or.inl rfl, rfl⟩

theorem step_openArray {stack : List Frame} {items : List PyJson}
    (room : stack.length + (PyJson.arr items).depth ≤ interpreter.scanDepth) :
    Scanner.step interpreter ⟨stack, .value⟩ '[' = .ok ⟨stack, .firstItem⟩ := by
  have space : ¬stack.length ≥ interpreter.scanDepth := by
    simp only [PyJson.depth] at room
    omega
  exact if_neg space

theorem step_openObject {stack : List Frame} {members : List (Text × PyJson)}
    (room : stack.length + (PyJson.obj members).depth ≤ interpreter.scanDepth) :
    Scanner.step interpreter ⟨stack, .value⟩ '{' = .ok ⟨stack, .firstMember⟩ := by
  have space : ¬stack.length ≥ interpreter.scanDepth := by
    simp only [PyJson.depth] at room
    omega
  exact if_neg space

/-- A key is read, and its colon. -/
theorem run_key {s : Scanner} {stack : List Frame} {held : Members}
    (opens : Scanner.step interpreter s '"' = .ok ⟨stack, .string (.key held) [] .none⟩) (key : Text)
    (rest : List Char) :
    Scanner.run interpreter s (quote key ++ ':' :: ' ' :: rest) =
      Scanner.run interpreter
        ⟨.member held (joinSurrogates (key.flatMap units)) :: stack, .value⟩ rest := by
  unfold quote
  rw [List.cons_append, run_cons_ok _ opens, List.append_assoc, List.singleton_append,
    run_quote_close]
  rw [run_cons_ok (t := ⟨.member held (joinSurrogates (key.flatMap units)) :: stack, .value⟩) _ rfl,
    run_cons_ok (t := ⟨.member held (joinSurrogates (key.flatMap units)) :: stack, .value⟩) _ rfl]

mutual

/-- The scanner reads a value that was written, up to what follows it. -/
theorem run_render : (value : PyJson) → (level : Nat) → (stack : List Frame) → (d : Char) →
    (rest : List Char) → Written interpreter repr value.atoms →
    stack.length + value.depth ≤ interpreter.scanDepth → Follows d →
    Scanner.run interpreter ⟨stack, .value⟩ (value.render repr indent level ++ d :: rest) =
      Scanner.run interpreter (complete stack value.reread) (d :: rest)
  | .null, _, _, _, _, _, _, _ => rfl
  | .bool true, _, _, _, _, _, _, _ => rfl
  | .bool false, _, _, _, _, _, _, _ => rfl
  | .int n, level, stack, d, rest, written, _, follows => by
    obtain ⟨held, read, closed⟩ := literalOf_int (written.1 n List.mem_cons_self)
    exact run_literal_follows read closed follows rest
  | .float x, level, stack, d, rest, written, _, follows =>
    run_float (written.2 x List.mem_cons_self) follows rest
  | .str s, level, stack, d, rest, _, _, _ => by
    unfold PyJson.render PyJson.reread quote
    rw [List.cons_append, run_cons_ok (t := ⟨stack, .string .value [] .none⟩) _ rfl,
      List.append_assoc, List.singleton_append, run_quote_close]
    rfl
  | .arr [], level, stack, d, rest, _, room, _ => by
    have opened := step_openArray room
    unfold PyJson.render
    rw [show "[]".toList ++ d :: rest = '[' :: ']' :: d :: rest from rfl, run_cons_ok _ opened,
      run_cons_ok (t := complete stack (.arr [])) _ rfl]
    rfl
  | .arr (item :: items), level, stack, d, rest, written, room, follows => by
    have opened := step_openArray room
    simp only [PyJson.atoms, PyJson.atomsItems, written_append] at written
    simp only [PyJson.depth, PyJson.depthItems] at room
    have deep : item.depth ≤ Nat.max item.depth (PyJson.depthItems items) := Nat.le_max_left _ _
    have deeper : PyJson.depthItems items ≤ Nat.max item.depth (PyJson.depthItems items) :=
      Nat.le_max_right _ _
    obtain ⟨first, spelled, head, solid, opens⟩ := render_head indent written.1 (level + 1)
    obtain ⟨e, later, ahead, tail⟩ :=
      renderItems_head repr indent items level (d :: rest)
    have first_item := run_render item (level + 1) (.item [] :: stack) e later written.1
      (by simp only [List.length_cons]; omega) ahead
    have others := run_renderItems items level stack [item.reread] (d :: rest) written.2 (by omega)
    unfold PyJson.render
    rw [List.cons_append, run_cons_ok _ opened, List.append_assoc,
      run_breakLine (skips_firstItem stack), List.append_assoc, tail]
    rw [head] at first_item ⊢
    rw [List.cons_append] at first_item ⊢
    rw [Scanner.run_cons, step_firstItem solid opens, ← Scanner.run_cons, first_item, ← tail]
    exact others
  | .obj members, level, stack, d, rest, written, room, _ =>
    run_renderObj members level stack (d :: rest) written room

theorem run_renderObj : (members : List (Text × PyJson)) → (level : Nat) → (stack : List Frame) →
    (tail : List Char) → Written interpreter repr (PyJson.obj members).atoms →
    stack.length + (PyJson.obj members).depth ≤ interpreter.scanDepth →
    Scanner.run interpreter ⟨stack, .value⟩
        ((PyJson.obj members).render repr indent level ++ tail) =
      Scanner.run interpreter (complete stack (PyJson.obj members).reread) tail
  | [], level, stack, tail, _, room => by
    have opened := step_openObject room
    unfold PyJson.render
    rw [List.cons_append, run_cons_ok _ opened, List.singleton_append,
      run_cons_ok (t := complete stack (.obj [])) _ rfl]
    rfl
  | (key, value) :: members, level, stack, tail, written, room => by
    have opened := step_openObject room
    simp only [PyJson.atoms, PyJson.atomsMembers, written_str_cons, written_append] at written
    simp only [PyJson.depth, PyJson.depthMembers] at room
    have deep : value.depth ≤ Nat.max value.depth (PyJson.depthMembers members) :=
      Nat.le_max_left _ _
    have deeper : PyJson.depthMembers members ≤ Nat.max value.depth (PyJson.depthMembers members) :=
      Nat.le_max_right _ _
    obtain ⟨e, later, ahead, spelled⟩ := renderMembers_head repr indent members level tail
    have first := run_render value (level + 1)
      (.member [] (joinSurrogates (key.flatMap units)) :: stack) e later written.1
      (by simp only [List.length_cons]; omega) ahead
    have others := run_renderMembers members level stack
      [(joinSurrogates (key.flatMap units), value.reread)] tail written.2 (by omega)
    unfold PyJson.render
    simp only [List.cons_append, List.append_assoc]
    rw [run_cons_ok _ opened, run_breakLine (skips_firstMember stack), run_key rfl, spelled, first,
      ← spelled]
    exact others

theorem run_renderItems : (items : List PyJson) → (level : Nat) → (stack : List Frame) →
    (held : List PyJson) → (tail : List Char) → Written interpreter repr (PyJson.atomsItems items) →
    stack.length + 1 + PyJson.depthItems items ≤ interpreter.scanDepth →
    Scanner.run interpreter ⟨stack, .afterItem held⟩
        (PyJson.renderItems repr indent level items ++ tail) =
      Scanner.run interpreter (complete stack (.arr (held ++ PyJson.rereadItems items))) tail
  | [], level, stack, held, tail, _, _ => by
    unfold PyJson.renderItems PyJson.rereadItems
    rw [List.append_assoc, run_breakLine (skips_afterItem stack held), List.append_nil,
      List.singleton_append, run_cons_ok (t := complete stack (.arr held)) _ rfl]
  | item :: items, level, stack, held, tail, written, room => by
    simp only [PyJson.atomsItems, written_append] at written
    simp only [PyJson.depthItems] at room
    have deep : item.depth ≤ Nat.max item.depth (PyJson.depthItems items) := Nat.le_max_left _ _
    have deeper : PyJson.depthItems items ≤ Nat.max item.depth (PyJson.depthItems items) :=
      Nat.le_max_right _ _
    obtain ⟨e, later, ahead, spelled⟩ :=
      renderItems_head repr indent items level tail
    have next := run_render item (level + 1) (.item held :: stack) e later written.1
      (by simp only [List.length_cons]; omega) ahead
    have others := run_renderItems items level stack (held ++ [item.reread]) tail written.2 (by omega)
    unfold PyJson.renderItems PyJson.rereadItems
    simp only [List.cons_append, List.append_assoc]
    rw [run_cons_ok (t := ⟨.item held :: stack, .value⟩) _ rfl, run_breakLine (skips_value _), spelled,
      next, ← spelled]
    rw [List.append_assoc] at others
    exact others

theorem run_renderMembers : (members : List (Text × PyJson)) → (level : Nat) →
    (stack : List Frame) → (held : Members) → (tail : List Char) →
    Written interpreter repr (PyJson.atomsMembers members) →
    stack.length + 1 + PyJson.depthMembers members ≤ interpreter.scanDepth →
    Scanner.run interpreter ⟨stack, .afterMember held⟩
        (PyJson.renderMembers repr indent level members ++ tail) =
      Scanner.run interpreter (complete stack (.obj (PyJson.rereadMembers held members))) tail
  | [], level, stack, held, tail, _, _ => by
    unfold PyJson.renderMembers PyJson.rereadMembers
    rw [List.append_assoc, run_breakLine (skips_afterMember stack held),
      List.singleton_append, run_cons_ok (t := complete stack (.obj held)) _ rfl]
  | (key, value) :: members, level, stack, held, tail, written, room => by
    simp only [PyJson.atomsMembers, written_str_cons, written_append] at written
    simp only [PyJson.depthMembers] at room
    have deep : value.depth ≤ Nat.max value.depth (PyJson.depthMembers members) :=
      Nat.le_max_left _ _
    have deeper : PyJson.depthMembers members ≤ Nat.max value.depth (PyJson.depthMembers members) :=
      Nat.le_max_right _ _
    obtain ⟨e, later, ahead, spelled⟩ :=
      renderMembers_head repr indent members level tail
    have next := run_render value (level + 1)
      (.member held (joinSurrogates (key.flatMap units)) :: stack) e later written.1
      (by simp only [List.length_cons]; omega) ahead
    have others := run_renderMembers members level stack
      (held.assign (joinSurrogates (key.flatMap units)) value.reread) tail written.2 (by omega)
    unfold PyJson.renderMembers PyJson.rereadMembers
    simp only [List.cons_append, List.append_assoc]
    rw [run_cons_ok (t := ⟨stack, .nextMember held⟩) _ rfl, run_breakLine (skips_nextMember stack held),
      run_key rfl, spelled, next, ← spelled]
    exact others

end

/-- A dictionary that was written is read back. -/
theorem loads_render (members : List (Text × PyJson))
    (written : Written interpreter repr (PyJson.obj members).atoms)
    (room : (PyJson.obj members).depth ≤ interpreter.scanDepth) :
    loads interpreter (String.ofList ((PyJson.obj members).render repr indent 0)) =
      .ok (PyJson.obj members).reread := by
  have whole : Scanner.run interpreter ⟨[], .value⟩
      ((PyJson.obj members).render repr indent 0 ++ []) =
      Scanner.run interpreter (complete [] (PyJson.obj members).reread) [] :=
    run_renderObj members 0 [] [] written (by simpa using room)
  rw [List.append_nil] at whole
  rw [loads_eq_run, Scanner.start, whole]
  rfl

end

/-! ## What comes back is equal -/

namespace PyJson

mutual

/-- No dictionary has a key twice, and no key a split pair of surrogates. -/
def Distinct : PyJson → Prop
  | .arr items => DistinctItems items
  | .obj members => (members.map Prod.fst).Nodup ∧ DistinctMembers members
  | _ => True

def DistinctItems : List PyJson → Prop
  | [] => True
  | item :: rest => item.Distinct ∧ DistinctItems rest

def DistinctMembers : List (Text × PyJson) → Prop
  | [] => True
  | (key, value) :: rest => Unpaired key ∧ value.Distinct ∧ DistinctMembers rest

end

theorem sortKeysMembers_eq_map (members : List (Text × PyJson)) :
    sortKeysMembers members = members.map fun member => (member.1, member.2.sortKeys) := by
  induction members with
  | nil => rfl
  | cons member rest ih => rw [sortKeysMembers, ih, List.map_cons]

theorem distinctItems_iff {items : List PyJson} :
    DistinctItems items ↔ ∀ item ∈ items, item.Distinct := by
  induction items with
  | nil => exact iff_of_true trivial nofun
  | cons item rest ih => rw [DistinctItems, ih, List.forall_mem_cons]

theorem distinctMembers_iff {members : List (Text × PyJson)} :
    DistinctMembers members ↔ ∀ member ∈ members, Unpaired member.1 ∧ member.2.Distinct := by
  induction members with
  | nil => exact iff_of_true trivial nofun
  | cons member rest ih => rw [DistinctMembers, ih, List.forall_mem_cons, and_assoc]

/-- The sorted members: those of the dictionary, each with its value sorted. -/
def sorted (members : List (Text × PyJson)) : List (Text × PyJson) :=
  (members.map fun member => (member.1, member.2.sortKeys)).mergeSort fun a b => a.1 ≤ b.1

theorem sortKeys_obj (members : List (Text × PyJson)) :
    (PyJson.obj members).sortKeys = .obj (sorted members) := by
  rw [sortKeys, sortKeysMembers_eq_map]
  rfl

theorem sorted_perm (members : List (Text × PyJson)) :
    (sorted members).Perm (members.map fun member => (member.1, member.2.sortKeys)) :=
  List.mergeSort_perm _ _

theorem assign_fresh {held : Members} {key : Text} {value : PyJson}
    (fresh : key ∉ held.map Prod.fst) : held.assign key value = held ++ [(key, value)] := by
  unfold Members.assign
  refine if_neg fun taken => ?_
  obtain ⟨member, inside, same⟩ := List.any_eq_true.mp taken
  exact fresh (List.mem_map.mpr ⟨member, inside, beq_iff_eq.mp same⟩)

/-- Members whose keys are distinct come back in their order. -/
theorem rereadMembers_eq_map {members : List (Text × PyJson)} (held : Members)
    (unpaired : ∀ member ∈ members, Unpaired member.1)
    (distinct : (held.map Prod.fst ++ members.map Prod.fst).Nodup) :
    rereadMembers held members =
      held ++ members.map fun member => (member.1, member.2.reread) := by
  induction members generalizing held with
  | nil => rw [rereadMembers, List.map_nil, List.append_nil]
  | cons member rest ih =>
    obtain ⟨key, value⟩ := member
    have same := joinSurrogates_units_iff.mpr (unpaired (key, value) List.mem_cons_self)
    have fresh : key ∉ held.map Prod.fst := by
      rw [List.map_cons] at distinct
      exact fun taken => List.disjoint_of_nodup_append distinct taken List.mem_cons_self
    rw [rereadMembers, same, assign_fresh fresh, ih, List.append_assoc]
    · rfl
    · exact fun member inside => unpaired member (List.mem_cons_of_mem _ inside)
    · rw [List.map_append, List.append_assoc]
      exact distinct

theorem get_of_mem {members : Members} {member : Text × PyJson}
    (distinct : (members.map Prod.fst).Nodup) (inside : member ∈ members) :
    members.get member.1 = some member.2 := by
  unfold Members.get
  induction members with
  | nil => cases inside
  | cons first rest ih =>
    obtain ⟨fresh, later⟩ := List.nodup_cons.mp distinct
    rcases List.mem_cons.mp inside with rfl | inside
    · exact List.lookup_cons_self
    · have other : (member.1 == first.1) = false := by
        refine beq_false_of_ne fun same => fresh ?_
        rw [← same]
        exact List.mem_map_of_mem inside
      rw [List.lookup_cons, other]
      exact ih later inside

/-- What the decoder makes of a sorted dictionary. -/
theorem reread_sortKeys_obj {members : List (Text × PyJson)}
    (distinct : (PyJson.obj members).Distinct) :
    ∃ others, (PyJson.obj members).sortKeys.reread = .obj others ∧
      others.length = members.length ∧
      ∀ member ∈ members, Members.get others member.1 = some member.2.sortKeys.reread := by
  obtain ⟨nodup, each⟩ := distinct
  have unpaired := fun member inside => (distinctMembers_iff.mp each member inside).1
  have same_keys : ((sorted members).map Prod.fst).Perm (members.map Prod.fst) := by
    have keys := (sorted_perm members).map Prod.fst
    rw [List.map_map] at keys
    exact keys
  have drawn : ∀ member ∈ sorted members, Unpaired member.1 := by
    intro member inside
    have key : member.1 ∈ members.map Prod.fst := same_keys.subset (List.mem_map_of_mem inside)
    obtain ⟨original, member', same⟩ := List.mem_map.mp key
    exact same ▸ unpaired original member'
  have whole := rereadMembers_eq_map [] drawn (by
    rw [List.map_nil, List.nil_append]
    exact same_keys.nodup_iff.mpr nodup)
  rw [List.nil_append] at whole
  refine ⟨_, by rw [sortKeys_obj, reread, whole], ?_, fun member inside => ?_⟩
  · rw [List.length_map, (sorted_perm members).length_eq, List.length_map]
  · have placed : (member.1, member.2.sortKeys.reread) ∈
        (sorted members).map fun member => (member.1, member.2.reread) :=
      List.mem_map.mpr ⟨(member.1, member.2.sortKeys),
        (sorted_perm members).symm.subset (List.mem_map.mpr ⟨member, inside, rfl⟩), rfl⟩
    refine @get_of_mem _ (member.1, member.2.sortKeys.reread) ?_ placed
    rw [List.map_map]
    exact same_keys.nodup_iff.mpr nodup

end PyJson

/-- No value is a NaN, and no text holds a split pair of surrogates. -/
def Survives (atoms : List PyJson) : Prop :=
  (∀ x, PyJson.float x ∈ atoms → (x == x) = true) ∧ ∀ s, PyJson.str s ∈ atoms → Unpaired s

/-- The value comes back. -/
def survives : PyJson → Bool
  | .float x => x == x
  | .str s => Unpaired s
  | _ => true

theorem survives_iff_all (atoms : List PyJson) : atoms.all survives = true ↔ Survives atoms := by
  rw [List.all_eq_true]
  constructor
  · intro each
    exact ⟨fun x inside => each _ inside, fun s inside => of_decide_eq_true (each _ inside)⟩
  · rintro ⟨floats, texts⟩ a inside
    cases a with
    | float x => exact floats x inside
    | str s => exact decide_eq_true (texts s inside)
    | _ => rfl

instance (atoms : List PyJson) : Decidable (Survives atoms) :=
  decidable_of_iff _ (survives_iff_all atoms)

theorem survives_append {first rest : List PyJson} :
    Survives (first ++ rest) ↔ Survives first ∧ Survives rest := by
  simp only [Survives, List.mem_append, or_imp, forall_and]
  tauto

theorem survives_str_cons {key : Text} {rest : List PyJson} :
    Survives (.str key :: rest) ↔ Unpaired key ∧ Survives rest := by
  simp only [Survives, List.mem_cons, reduceCtorEq, false_or, PyJson.str.injEq, forall_eq_or_imp]
  tauto

theorem beq_iff (a b : Float) :
    (a == b) = true ↔ a.toModel.unpack.compare b.toModel.unpack = some .eq := by
  show (a.toModel.unpack.compare b.toModel.unpack == some .eq) = true ↔ _
  exact beq_iff_eq

theorem nan_beq (x : Float) : (x == 0 / 0) = false := by
  have nan : (0 / 0 : Float).isNaN = true := by decide +kernel
  rw [Bool.eq_false_iff, ne_eq, beq_iff]
  rw [Library.Binary64.isNaN_eq] at nan
  rw [(Library.Binary64.compare_eq_none_iff _ _).mpr (Or.inr nan)]
  nofun

theorem rereadFloat_beq (x : Float) : (x == rereadFloat x) = true ↔ (x == x) = true := by
  unfold rereadFloat
  by_cases nan : (x != x) = true
  · have unequal : (x == x) = false := by simpa [bne] using nan
    rw [if_pos nan, nan_beq, unequal]
  · have equal : (x == x) = true := by simpa [bne] using nan
    rw [if_neg nan]
    split
    next infinite => exact iff_of_true infinite equal
    split
    next negative => exact iff_of_true negative equal
    next => exact Iff.rfl

namespace PyJson

mutual

/-- What comes back is equal to what was written exactly where nothing is lost. -/
theorem equal_reread : (value : PyJson) → value.Distinct →
    (value.equal value.sortKeys.reread = true ↔ Survives value.atoms)
  | .null, _ => by simp [sortKeys, reread, equal, atoms, Survives]
  | .bool value, _ => by simp [sortKeys, reread, equal, atoms, Survives, asInt]
  | .int n, _ => by simp [sortKeys, reread, equal, atoms, Survives, asInt]
  | .float x, _ => by
    simp [sortKeys, reread, equal, atoms, Survives, rereadFloat_beq]
  | .str s, _ => by
    have alone : Survives [.str s] ↔ Unpaired s := by simp [Survives]
    rw [sortKeys, reread, equal, atoms, alone, ← joinSurrogates_units_iff, beq_iff_eq]
    · exact eq_comm
    all_goals nofun
  | .arr items, distinct => by
    have inside := equalItems_reread items distinct
    rw [sortKeys, reread, equal, atoms]
    exact inside
  | .obj members, distinct => by
    obtain ⟨others, spelled, length, found⟩ := reread_sortKeys_obj distinct
    have inside := equalMembers_reread members others distinct.2 found
    rw [spelled, equal, atoms, length, beq_self_eq_true, Bool.true_and]
    exact inside

theorem equalItems_reread : (items : List PyJson) → DistinctItems items →
    (equalItems items (rereadItems (sortKeysItems items)) = true ↔ Survives (atomsItems items))
  | [], _ => by simp [sortKeysItems, rereadItems, equalItems, atomsItems, Survives]
  | item :: rest, distinct => by
    rw [sortKeysItems, rereadItems, equalItems, atomsItems, survives_append, Bool.and_eq_true,
      equal_reread item distinct.1, equalItems_reread rest distinct.2]

theorem equalMembers_reread : (members : List (Text × PyJson)) → (others : Members) →
    DistinctMembers members →
    (∀ member ∈ members, others.get member.1 = some member.2.sortKeys.reread) →
    (equalMembers members others = true ↔ Survives (atomsMembers members))
  | [], _, _, _ => by simp [equalMembers, atomsMembers, Survives]
  | (key, value) :: rest, others, distinct, found => by
    have here := found (key, value) List.mem_cons_self
    have later := fun member inside => found member (List.mem_cons_of_mem _ inside)
    rw [equalMembers, here, atomsMembers, survives_str_cons, survives_append, Bool.and_eq_true,
      equal_reread value distinct.2.1, equalMembers_reread rest others distinct.2.2 later,
      and_iff_right distinct.1]

end

/-! ## The order of the keys -/

theorem mem_atomsMembers {a : PyJson} {members : List (Text × PyJson)} :
    a ∈ atomsMembers members ↔
      ∃ member ∈ members, a = .str member.1 ∨ a ∈ member.2.atoms := by
  induction members with
  | nil => simp [atomsMembers]
  | cons member rest ih =>
    rw [atomsMembers, List.mem_cons, List.mem_append, ih]
    simp only [List.mem_cons, exists_eq_or_imp, or_assoc]

theorem depthItems_le_iff {items : List PyJson} {bound : Nat} :
    depthItems items ≤ bound ↔ ∀ item ∈ items, item.depth ≤ bound := by
  induction items with
  | nil => simp [depthItems]
  | cons item rest ih => rw [depthItems, List.forall_mem_cons, ← ih]; exact Nat.max_le

theorem depthMembers_le_iff {members : List (Text × PyJson)} {bound : Nat} :
    depthMembers members ≤ bound ↔ ∀ member ∈ members, member.2.depth ≤ bound := by
  induction members with
  | nil => simp [depthMembers]
  | cons member rest ih => rw [depthMembers, List.forall_mem_cons, ← ih]; exact Nat.max_le

mutual

/-- Sorting the keys changes no value. -/
theorem mem_atoms_sortKeys (a : PyJson) : (value : PyJson) →
    (a ∈ value.sortKeys.atoms ↔ a ∈ value.atoms)
  | .null => Iff.rfl
  | .bool _ => Iff.rfl
  | .int _ => Iff.rfl
  | .float _ => Iff.rfl
  | .str _ => Iff.rfl
  | .arr items => by
    have inside := mem_atoms_sortKeysItems a items
    rw [sortKeys, atoms, atoms]
    exact inside
  | .obj members => by
    have inside := mem_atoms_sortKeysMembers a members
    have perm : (PyJson.obj members).sortKeys =
        .obj ((sortKeysMembers members).mergeSort fun a b => a.1 ≤ b.1) := by rw [sortKeys]
    rw [perm, atoms, atoms, ← inside, mem_atomsMembers, mem_atomsMembers]
    simp only [List.mem_mergeSort]

theorem mem_atoms_sortKeysItems (a : PyJson) : (items : List PyJson) →
    (a ∈ atomsItems (sortKeysItems items) ↔ a ∈ atomsItems items)
  | [] => Iff.rfl
  | item :: rest => by
    rw [sortKeysItems, atomsItems, atomsItems, List.mem_append, List.mem_append,
      mem_atoms_sortKeys a item, mem_atoms_sortKeysItems a rest]

theorem mem_atoms_sortKeysMembers (a : PyJson) : (members : List (Text × PyJson)) →
    (a ∈ atomsMembers (sortKeysMembers members) ↔ a ∈ atomsMembers members)
  | [] => Iff.rfl
  | (key, value) :: rest => by
    rw [sortKeysMembers, atomsMembers, atomsMembers, List.mem_cons, List.mem_cons, List.mem_append,
      List.mem_append, mem_atoms_sortKeys a value, mem_atoms_sortKeysMembers a rest]

end

mutual

theorem depth_sortKeys_le (bound : Nat) : (value : PyJson) → value.depth ≤ bound →
    value.sortKeys.depth ≤ bound
  | .null, shallow => shallow
  | .bool _, shallow => shallow
  | .int _, shallow => shallow
  | .float _, shallow => shallow
  | .str _, shallow => shallow
  | .arr items, shallow => by
    rw [depth] at shallow
    have inside := depth_sortKeysItems_le (bound - 1) items (by omega)
    rw [sortKeys, depth]
    omega
  | .obj members, shallow => by
    rw [depth] at shallow
    have inside := depth_sortKeysMembers_le (bound - 1) members (by omega)
    have order : depthMembers ((sortKeysMembers members).mergeSort fun a b => a.1 ≤ b.1) ≤
        bound - 1 := by
      rw [depthMembers_le_iff] at inside ⊢
      exact fun member drawn => inside member (List.mem_mergeSort.mp drawn)
    rw [sortKeys, depth]
    omega

theorem depth_sortKeysItems_le (bound : Nat) : (items : List PyJson) → depthItems items ≤ bound →
    depthItems (sortKeysItems items) ≤ bound
  | [], shallow => shallow
  | item :: rest, shallow => by
    rw [depthItems_le_iff, List.forall_mem_cons, ← depthItems_le_iff] at shallow
    rw [sortKeysItems, depthItems_le_iff, List.forall_mem_cons, ← depthItems_le_iff]
    exact ⟨depth_sortKeys_le bound item shallow.1, depth_sortKeysItems_le bound rest shallow.2⟩

theorem depth_sortKeysMembers_le (bound : Nat) : (members : List (Text × PyJson)) →
    depthMembers members ≤ bound → depthMembers (sortKeysMembers members) ≤ bound
  | [], shallow => shallow
  | (key, value) :: rest, shallow => by
    rw [depthMembers_le_iff, List.forall_mem_cons, ← depthMembers_le_iff] at shallow
    rw [sortKeysMembers, depthMembers_le_iff, List.forall_mem_cons, ← depthMembers_le_iff]
    exact ⟨depth_sortKeys_le bound value shallow.1, depth_sortKeysMembers_le bound rest shallow.2⟩

end

mutual

theorem prints_iff (interpreter : Interpreter) : (value : PyJson) →
    (value.prints interpreter = true ↔ ∀ n, .int n ∈ value.atoms → interpreter.prints n = true)
  | .null => by simp [prints, atoms]
  | .bool _ => by simp [prints, atoms]
  | .int _ => by simp [prints, atoms]
  | .float _ => by simp [prints, atoms]
  | .str _ => by simp [prints, atoms]
  | .arr items => by
    rw [prints, atoms]
    exact printsItems_iff interpreter items
  | .obj members => by
    rw [prints, atoms]
    exact printsMembers_iff interpreter members

theorem printsItems_iff (interpreter : Interpreter) : (items : List PyJson) →
    (printsItems interpreter items = true ↔
      ∀ n, .int n ∈ atomsItems items → interpreter.prints n = true)
  | [] => by simp [printsItems, atomsItems]
  | item :: rest => by
    simp only [printsItems, atomsItems, Bool.and_eq_true, prints_iff interpreter item,
      printsItems_iff interpreter rest, List.mem_append, or_imp, forall_and]

theorem printsMembers_iff (interpreter : Interpreter) : (members : List (Text × PyJson)) →
    (printsMembers interpreter members = true ↔
      ∀ n, .int n ∈ atomsMembers members → interpreter.prints n = true)
  | [] => by simp [printsMembers, atomsMembers]
  | (key, value) :: rest => by
    simp only [printsMembers, atomsMembers, Bool.and_eq_true, prints_iff interpreter value,
      printsMembers_iff interpreter rest, List.mem_cons, List.mem_append, or_imp, forall_and,
      reduceCtorEq, IsEmpty.forall_iff, true_and]

end

end PyJson

/-- The numbers of a document that is dumped are written in the order of its keys. -/
theorem written_sortKeys {interpreter : Interpreter} {repr : Float → String} {value : PyJson}
    (printed : value.prints interpreter = true)
    (literal : ∀ x, PyJson.float x ∈ value.atoms → isFinite x = true → ReadsBackAs (repr x) x) :
    Written interpreter repr value.sortKeys.atoms := by
  refine ⟨fun n inside => ?_, fun x inside => ?_⟩
  · exact (PyJson.prints_iff interpreter _).mp printed n ((PyJson.mem_atoms_sortKeys _ _).mp inside)
  · exact literal x ((PyJson.mem_atoms_sortKeys _ _).mp inside)

/-- A dictionary that is dumped comes back sorted, but for what no literal carries. -/
theorem loads_dumps {interpreter : Interpreter} {repr : Float → String} (indent : Nat)
    {members : List (Text × PyJson)}
    (literal : ∀ x, PyJson.float x ∈ (PyJson.obj members).atoms → isFinite x = true →
      ReadsBackAs (repr x) x)
    (room : (PyJson.obj members).depth ≤ interpreter.scanDepth) {written : String}
    (dumped : dumps interpreter repr indent (.obj members) = some written) :
    loads interpreter written = .ok (PyJson.obj members).sortKeys.reread := by
  obtain ⟨printed, rendered⟩ := Option.ite_none_right_eq_some.mp dumped
  cases rendered
  have shallow := PyJson.depth_sortKeys_le _ _ room
  have numbers := written_sortKeys printed literal
  rw [PyJson.sortKeys_obj] at shallow numbers ⊢
  exact loads_render _ numbers shallow

end OpenOntology.Python
