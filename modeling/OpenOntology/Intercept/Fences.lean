import OpenOntology.Intercept.Prompt
import OpenOntology.Python.Prefixes
import OpenOntology.Python.Reread

/-!
# The briefing in the prompt

Where the block of the briefing ends. Backticks come into the document with its texts only, so the
block is closed too early exactly where one of them holds a right brace, blanks and the closing word.
-/
namespace OpenOntology.Intercept.Inbound

open Library Python Python.Scanner

/-! ## Texts -/

/-- No part of the closing word. -/
def Clean (piece : List Char) : Prop := ∀ c ∈ piece, c ≠ tick

theorem mem_closing {c : Char} : c ∈ briefingPattern.closing ↔ c = tick := by
  have closing : briefingPattern.closing = [tick, tick, tick] := rfl
  simp [closing]

theorem clean_append {first rest : List Char} : Clean (first ++ rest) ↔ Clean first ∧ Clean rest :=
  List.forall_mem_append

/-- A piece without a backtick closes nothing. -/
theorem Clean.not_closed {piece : List Char} (clean : Clean piece) :
    briefingPattern.closed piece = false := by
  induction piece with
  | nil => rfl
  | cons c rest ih =>
    have later : Clean rest := fun d inside => clean d (List.mem_cons_of_mem c inside)
    have open_here : briefingPattern.closes rest = false := by
      rw [Bool.eq_false_iff]
      intro closes
      obtain ⟨after, whole⟩ := List.isPrefixOf_iff_prefix.mp closes
      have dropped : tick ∈ rest.dropWhile briefingPattern.space := by
        rw [← whole]
        exact List.mem_append_left _ (mem_closing.mpr rfl)
      exact later tick ((List.dropWhile_suffix _).subset dropped) rfl
    rw [Fence.closed, open_here, Bool.and_false, Bool.false_or, ih later]

/-- What follows a piece without a backtick stays apart from the closing word. -/
theorem Clean.apart {piece rest : List Char} (clean : Clean piece)
    (apart : briefingPattern.Apart rest) : briefingPattern.Apart (piece ++ rest) := by
  unfold Fence.Apart at apart ⊢
  rw [List.dropWhile_append]
  split
  next => exact apart
  next solid =>
    obtain ⟨c, later, spelled⟩ := List.exists_cons_of_ne_nil fun none_left => solid
      (List.isEmpty_iff.mpr none_left)
    rw [spelled]
    intro d first inside
    cases first
    have drawn : c ∈ piece := (List.dropWhile_suffix _).subset (by rw [spelled]; exact List.mem_cons_self)
    exact clean c drawn (mem_closing.mp inside)

theorem Clean.closed_append {piece rest : List Char} (clean : Clean piece)
    (apart : briefingPattern.Apart rest) :
    briefingPattern.closed (piece ++ rest) = briefingPattern.closed rest := by
  rw [Fence.closed_append apart, clean.not_closed, Bool.false_or]

/-! ## Escapes -/

theorem escapeChar_plain {c : CodePoint} (visible : 0x20 ≤ c.val ∧ c.val ≤ 0x7E)
    (quote : c.val ≠ 0x22) (backslash : c.val ≠ 0x5C) : escapeChar c = [Char.ofNat c.val] := by
  unfold escapeChar
  rw [if_neg quote, if_neg backslash, if_neg (by omega), if_neg (by omega), if_neg (by omega),
    if_neg (by omega), if_neg (by omega), if_pos visible]

theorem hex4_ne_brace (n : Nat) : ∀ d ∈ hex4 n, d ≠ '}' := by
  have digit : ∀ d < 16, Nat.digitChar d ≠ '}' := by decide
  have small : ∀ m : Nat, m % 16 < 16 := fun m => Nat.mod_lt m (by decide)
  intro d inside
  simp only [hex4, List.mem_cons, List.not_mem_nil, or_false] at inside
  rcases inside with rfl | rfl | rfl | rfl
  all_goals exact digit _ (small _)

theorem escapeUnit_ne_brace (n : Nat) : ∀ d ∈ escapeUnit n, d ≠ '}' := by
  unfold escapeUnit
  exact List.forall_mem_cons.mpr ⟨by decide, List.forall_mem_cons.mpr ⟨by decide, hex4_ne_brace n⟩⟩

theorem short_ne_brace {e : Char} (other : e ≠ '}') : ∀ d ∈ ['\\', e], d ≠ '}' := by
  simp [other]

theorem escapeChar_escaped {c : CodePoint}
    (escaped : ¬((0x20 ≤ c.val ∧ c.val ≤ 0x7E) ∧ c.val ≠ 0x22 ∧ c.val ≠ 0x5C)) :
    (∃ rest, escapeChar c = '\\' :: rest) ∧ ∀ d ∈ escapeChar c, d ≠ '}' := by
  unfold escapeChar
  split
  · exact ⟨⟨_, rfl⟩, short_ne_brace (by decide)⟩
  split
  · exact ⟨⟨_, rfl⟩, short_ne_brace (by decide)⟩
  split
  · exact ⟨⟨_, rfl⟩, short_ne_brace (by decide)⟩
  split
  · exact ⟨⟨_, rfl⟩, short_ne_brace (by decide)⟩
  split
  · exact ⟨⟨_, rfl⟩, short_ne_brace (by decide)⟩
  split
  · exact ⟨⟨_, rfl⟩, short_ne_brace (by decide)⟩
  split
  · exact ⟨⟨_, rfl⟩, short_ne_brace (by decide)⟩
  split
  · omega
  split
  · exact ⟨⟨_, rfl⟩, escapeUnit_ne_brace _⟩
  · exact ⟨⟨_, rfl⟩, List.forall_mem_append.mpr ⟨escapeUnit_ne_brace _, escapeUnit_ne_brace _⟩⟩

theorem ofChar_tick : (CodePoint.ofChar tick).val = 0x60 := rfl

/-- An escape starts with white space or a backtick only where the code point is one. -/
theorem escapeChar_head (c : CodePoint) :
    (c.val = 0x20 ∧ escapeChar c = [' ']) ∨ (c = CodePoint.ofChar tick ∧ escapeChar c = [tick]) ∨
      ∃ d rest, escapeChar c = d :: rest ∧ Python.isSpace d = false ∧ d ≠ tick ∧ c.val ≠ 0x20 ∧
        c ≠ CodePoint.ofChar tick := by
  by_cases plain : (0x20 ≤ c.val ∧ c.val ≤ 0x7E) ∧ c.val ≠ 0x22 ∧ c.val ≠ 0x5C
  · obtain ⟨visible, quote, backslash⟩ := plain
    have code := char_toNat visible
    have spelled := escapeChar_plain visible quote backslash
    by_cases blank : c.val = 0x20
    · rw [blank] at spelled
      exact Or.inl ⟨blank, spelled⟩
    by_cases ticked : c.val = 0x60
    · have same : c = CodePoint.ofChar tick := Fin.ext (ticked.trans ofChar_tick.symm)
      rw [ticked] at spelled
      exact Or.inr (Or.inl ⟨same, spelled⟩)
    · have range : 33 ≤ (Char.ofNat c.val).toNat ∧ (Char.ofNat c.val).toNat < 127 := by
        rw [code]
        omega
      have solid : Python.isSpace (Char.ofNat c.val) = false := isSpace_of_visible range
      have not_tick : Char.ofNat c.val ≠ tick := by
        intro same
        rw [same] at code
        exact ticked code.symm
      have apart : c ≠ CodePoint.ofChar tick := fun same => ticked (same ▸ ofChar_tick)
      exact Or.inr (Or.inr ⟨_, [], spelled, solid, not_tick, blank, apart⟩)
  · obtain ⟨rest, spelled⟩ := (escapeChar_escaped plain).1
    have visible : 33 ≤ '\\'.toNat ∧ '\\'.toNat < 127 := by decide
    have apart : c ≠ CodePoint.ofChar tick := by
      intro same
      rw [same, ofChar_tick] at plain
      exact plain (by decide)
    have blank : c.val ≠ 0x20 := fun same => plain (by omega)
    exact Or.inr (Or.inr ⟨_, rest, spelled, isSpace_of_visible visible, by decide, blank, apart⟩)

theorem dropWhile_escapes (s : Text) :
    (s.flatMap escapeChar).dropWhile Python.isSpace =
      (s.dropWhile fun c => c.val == 0x20).flatMap escapeChar := by
  induction s with
  | nil => rfl
  | cons c s ih =>
    rw [List.flatMap_cons]
    rcases escapeChar_head c with ⟨blank, spelled⟩ | ⟨rfl, spelled⟩ | ⟨d, rest, spelled, solid, -, other, -⟩
    · rw [spelled, List.singleton_append, List.dropWhile_cons_of_pos rfl,
        List.dropWhile_cons_of_pos (by simpa using blank), ih]
    · have solid : Python.isSpace tick = false := tick_solid tick List.mem_cons_self
      rw [List.dropWhile_cons_of_neg (by decide), List.flatMap_cons, spelled, List.singleton_append,
        List.dropWhile_cons_of_neg (by rw [solid]; nofun)]
    · rw [List.dropWhile_cons_of_neg (by simpa using other), List.flatMap_cons, spelled,
        List.cons_append, List.dropWhile_cons_of_neg (by rw [solid]; nofun)]

theorem ticks_escapes (n : Nat) (s : Text) :
    (List.replicate n tick).isPrefixOf (s.flatMap escapeChar) =
      (List.replicate n (CodePoint.ofChar tick)).isPrefixOf s := by
  induction n generalizing s with
  | zero => rfl
  | succ n ih =>
    rw [List.replicate_succ, List.replicate_succ]
    cases s with
    | nil => rfl
    | cons c s =>
      rw [List.flatMap_cons, List.isPrefixOf_cons_cons]
      rcases escapeChar_head c with ⟨blank, spelled⟩ | ⟨rfl, spelled⟩ | ⟨d, rest, spelled, -, other, -, apart⟩
      · have apart : (CodePoint.ofChar tick == c) = false := by
          refine beq_false_of_ne fun same => ?_
          rw [← same] at blank
          cases blank
        rw [spelled, List.singleton_append, List.isPrefixOf_cons_cons, apart]
        rfl
      · rw [spelled, List.singleton_append, List.isPrefixOf_cons_cons, ih, beq_self_eq_true,
          beq_self_eq_true]
      · rw [spelled, List.cons_append, List.isPrefixOf_cons_cons, beq_false_of_ne other.symm,
          beq_false_of_ne apart.symm, Bool.false_and, Bool.false_and]

theorem closes_escapes (s : Text) :
    briefingPattern.closes (s.flatMap escapeChar) = textFence.closes s := by
  have white : (s.flatMap escapeChar).dropWhile briefingPattern.space =
      (s.dropWhile textFence.space).flatMap escapeChar := dropWhile_escapes s
  unfold Fence.closes
  rw [white]
  exact ticks_escapes 3 _

/-- A text is written with the end of a block exactly where it holds one. -/
theorem closed_escapes (s : Text) :
    briefingPattern.closed (s.flatMap escapeChar) = textFence.closed s := by
  induction s with
  | nil => rfl
  | cons c s ih =>
    rw [List.flatMap_cons, Fence.closed, ← ih, ← closes_escapes]
    by_cases brace : c = CodePoint.ofChar '}'
    · have spelled : escapeChar c = ['}'] := by rw [brace]; rfl
      have right : (c == textFence.right) = true := beq_iff_eq.mpr brace
      rw [spelled, List.singleton_append, Fence.closed, right]
      rfl
    · have other : (c == textFence.right) = false := beq_false_of_ne brace
      rw [other, Bool.false_and, Bool.false_or]
      refine Fence.closed_of_not_right _ ?_
      by_cases plain : (0x20 ≤ c.val ∧ c.val ≤ 0x7E) ∧ c.val ≠ 0x22 ∧ c.val ≠ 0x5C
      · obtain ⟨visible, quote, backslash⟩ := plain
        rw [escapeChar_plain visible quote backslash, List.forall_mem_singleton]
        intro same
        refine brace (Fin.ext ?_)
        rw [← char_toNat visible, same]
        rfl
      · exact (escapeChar_escaped plain).2

/-! ## Values -/

/-- Some text holds the end of a block. -/
def Fenced (atoms : List PyJson) : Prop :=
  ∃ s, PyJson.str s ∈ atoms ∧ textFence.closed s = true

/-- The value is a text that holds one. -/
def ending : PyJson → Bool
  | .str s => textFence.closed s
  | _ => false

theorem fenced_iff_any (atoms : List PyJson) : atoms.any ending = true ↔ Fenced atoms := by
  rw [List.any_eq_true]
  constructor
  · rintro ⟨a, inside, closed⟩
    cases a with
    | str s => exact ⟨s, inside, closed⟩
    | _ => cases closed
  · rintro ⟨s, inside, closed⟩
    exact ⟨_, inside, closed⟩

instance (atoms : List PyJson) : Decidable (Fenced atoms) :=
  decidable_of_iff _ (fenced_iff_any atoms)

theorem fenced_append {first rest : List PyJson} :
    Fenced (first ++ rest) ↔ Fenced first ∨ Fenced rest := by
  simp only [Fenced, List.mem_append, or_and_right, exists_or]

theorem fenced_str_cons {s : Text} {rest : List PyJson} :
    Fenced (.str s :: rest) ↔ textFence.closed s = true ∨ Fenced rest := by
  simp only [Fenced, List.mem_cons, PyJson.str.injEq, or_and_right, exists_or, exists_eq_left]

theorem not_fenced_nil : ¬Fenced [] := by
  simp [Fenced]

/-- What a piece of the document may end, and how the text may go on after it. -/
structure Ends (piece rest : List Char) (fenced : Prop) : Prop where
  closed : briefingPattern.closed (piece ++ rest) = true ↔
    fenced ∨ briefingPattern.closed rest = true
  apart : briefingPattern.Apart (piece ++ rest)

theorem Clean.ends {piece rest : List Char} {fenced : Prop} (clean : Clean piece)
    (apart : briefingPattern.Apart rest) (unfenced : ¬fenced) : Ends piece rest fenced where
  closed := by rw [clean.closed_append apart, or_iff_right unfenced]
  apart := clean.apart apart

theorem Ends.append {first second rest : List Char} {some_first some_second : Prop}
    (ahead : Ends first (second ++ rest) some_first) (after : Ends second rest some_second) :
    Ends (first ++ second) rest (some_first ∨ some_second) where
  closed := by rw [List.append_assoc, ahead.closed, after.closed, or_assoc]
  apart := by rw [List.append_assoc]; exact ahead.apart

theorem apart_solid {c : Char} (rest : List Char) (solid : Python.isSpace c = false)
    (other : c ≠ tick) : briefingPattern.Apart (c :: rest) := by
  intro d first inside
  rw [List.dropWhile_cons_of_neg (by rw [show briefingPattern.space c = false from solid]; nofun)] at first
  cases first
  exact other (mem_closing.mp inside)

theorem quote_ends (s : Text) (rest : List Char) :
    Ends (quote s) rest (textFence.closed s = true) := by
  have mark : ∀ rest, briefingPattern.Apart ('"' :: rest) := fun rest => by
    have visible : 33 ≤ '"'.toNat ∧ '"'.toNat < 127 := by decide
    exact apart_solid rest (isSpace_of_visible visible) (by decide)
  have not_brace : ('"' == briefingPattern.right) = false := by decide
  refine ⟨?_, mark _⟩
  have spelled : quote s ++ rest = '"' :: (s.flatMap escapeChar ++ '"' :: rest) := by
    simp [quote]
  rw [spelled, Fence.closed, not_brace, Bool.false_and, Bool.false_or,
    Fence.closed_append (mark rest), closed_escapes, Fence.closed, not_brace, Bool.false_and,
    Bool.false_or, Bool.or_eq_true]

theorem Ends.congr {piece rest : List Char} {fenced other : Prop} (ends : Ends piece rest fenced)
    (same : fenced ↔ other) : Ends piece rest other :=
  ⟨by rw [ends.closed, same], ends.apart⟩

theorem Ends.after_clean {first second rest : List Char} {fenced : Prop} (clean : Clean first)
    (after : Ends second rest fenced) : Ends (first ++ second) rest fenced :=
  ((clean.ends after.apart not_false).append after).congr (by rw [false_or])

theorem clean_cons {c : Char} {rest : List Char} : Clean (c :: rest) ↔ c ≠ tick ∧ Clean rest :=
  List.forall_mem_cons

theorem clean_nil : Clean [] := nofun

theorem clean_breakLine (indent level : Nat) : Clean (breakLine indent level) :=
  clean_cons.mpr ⟨by decide, fun c blank => by
    rw [List.eq_of_mem_replicate blank]
    decide⟩

theorem clean_foldlM {cs : List Char} {start held : NumberPhase × NumberText}
    (read : cs.foldlM (fun held c => extendNumber held.1 held.2 c) start = some held) : Clean cs := by
  induction cs generalizing start with
  | nil => exact clean_nil
  | cons c cs ih =>
    rw [List.foldlM_cons] at read
    obtain ⟨next, extended, read⟩ := Option.bind_eq_some_iff.mp read
    refine clean_cons.mpr ⟨?_, ih read⟩
    rintro rfl
    have never : ∀ phase t, extendNumber phase t tick = none := fun phase t => by
      cases phase <;> rfl
    rw [never] at extended
    cases extended

theorem clean_literal {cs : List Char} {held : NumberPhase × NumberText}
    (read : literalOf cs = some held) : Clean cs := by
  unfold literalOf at read
  split at read
  next => exact clean_cons.mpr ⟨by decide, clean_foldlM read⟩
  next => exact clean_foldlM read

section
variable {interpreter : Interpreter} {repr : Float → String} {indent : Nat}

theorem clean_floatText {x : Float} (read : isFinite x = true → ReadsBackAs (repr x) x) :
    Clean (floatText repr x) := by
  unfold floatText
  split
  · simp [Clean, tick]
  split
  · simp [Clean, tick]
  split
  · simp [Clean, tick]
  next nan infinite negative =>
    obtain ⟨phase, t, literal, -⟩ := read (by simp [isFinite, nan, infinite, negative])
    exact clean_literal literal

mutual

/-- A value ends a block too early exactly where one of its texts does. -/
theorem render_ends : (value : PyJson) → (level : Nat) → (rest : List Char) →
    Written interpreter repr value.atoms → briefingPattern.Apart rest →
    Ends (value.render repr indent level) rest (Fenced value.atoms)
  | .null, level, rest, _, apart => by
    have clean : Clean "null".toList := by simp [Clean, tick]
    exact clean.ends apart (by simp [Fenced, PyJson.atoms])
  | .bool true, level, rest, _, apart => by
    have clean : Clean "true".toList := by simp [Clean, tick]
    exact clean.ends apart (by simp [Fenced, PyJson.atoms])
  | .bool false, level, rest, _, apart => by
    have clean : Clean "false".toList := by simp [Clean, tick]
    exact clean.ends apart (by simp [Fenced, PyJson.atoms])
  | .int n, level, rest, written, apart => by
    obtain ⟨held, read, -⟩ := literalOf_int (written.1 n List.mem_cons_self)
    exact (clean_literal read).ends apart (by simp [Fenced, PyJson.atoms])
  | .float x, level, rest, written, apart =>
    (clean_floatText (written.2 x List.mem_cons_self)).ends apart (by simp [Fenced, PyJson.atoms])
  | .str s, level, rest, _, _ =>
    (quote_ends s rest).congr (by simp [Fenced, PyJson.atoms])
  | .arr [], level, rest, _, apart => by
    have clean : Clean "[]".toList := by simp [Clean, tick]
    exact clean.ends apart not_fenced_nil
  | .arr (item :: items), level, rest, written, apart => by
    simp only [PyJson.atoms, PyJson.atomsItems, written_append] at written
    have others := renderItems_ends items level rest written.2 apart
    have first := render_ends item (level + 1) _ written.1 others.apart
    have whole := (first.append others).after_clean (clean_breakLine indent (level + 1))
    rw [PyJson.render, PyJson.atoms, PyJson.atomsItems]
    exact (whole.after_clean (clean_cons.mpr ⟨by decide, clean_nil⟩)).congr fenced_append.symm
  | .obj [], level, rest, _, apart =>
    (clean_cons.mpr ⟨by decide, clean_cons.mpr ⟨by decide, clean_nil⟩⟩).ends apart not_fenced_nil
  | .obj ((key, value) :: members), level, rest, written, apart => by
    simp only [PyJson.atoms, PyJson.atomsMembers, written_str_cons, written_append] at written
    have others := renderMembers_ends members level rest written.2 apart
    have first := render_ends value (level + 1) _ written.1 others.apart
    have colon : Clean [':', ' '] := by simp [Clean, tick]
    have member := (quote_ends key _).append ((first.append others).after_clean colon)
    have whole := member.after_clean (clean_breakLine indent (level + 1))
    rw [PyJson.render, PyJson.atoms, PyJson.atomsMembers]
    exact (whole.after_clean (clean_cons.mpr ⟨by decide, clean_nil⟩)).congr
      (by rw [fenced_str_cons, fenced_append])

theorem renderItems_ends : (items : List PyJson) → (level : Nat) → (rest : List Char) →
    Written interpreter repr (PyJson.atomsItems items) → briefingPattern.Apart rest →
    Ends (PyJson.renderItems repr indent level items) rest (Fenced (PyJson.atomsItems items))
  | [], level, rest, _, apart =>
    (clean_append.mpr ⟨clean_breakLine indent level, clean_cons.mpr ⟨by decide, clean_nil⟩⟩).ends
      apart not_fenced_nil
  | item :: items, level, rest, written, apart => by
    simp only [PyJson.atomsItems, written_append] at written
    have others := renderItems_ends items level rest written.2 apart
    have first := render_ends item (level + 1) _ written.1 others.apart
    have whole := (first.append others).after_clean (clean_breakLine indent (level + 1))
    rw [PyJson.renderItems, PyJson.atomsItems]
    exact (whole.after_clean (clean_cons.mpr ⟨by decide, clean_nil⟩)).congr fenced_append.symm

theorem renderMembers_ends : (members : List (Text × PyJson)) → (level : Nat) →
    (rest : List Char) → Written interpreter repr (PyJson.atomsMembers members) →
    briefingPattern.Apart rest →
    Ends (PyJson.renderMembers repr indent level members) rest
      (Fenced (PyJson.atomsMembers members))
  | [], level, rest, _, apart =>
    (clean_append.mpr ⟨clean_breakLine indent level, clean_cons.mpr ⟨by decide, clean_nil⟩⟩).ends
      apart not_fenced_nil
  | (key, value) :: members, level, rest, written, apart => by
    simp only [PyJson.atomsMembers, written_str_cons, written_append] at written
    have others := renderMembers_ends members level rest written.2 apart
    have first := render_ends value (level + 1) _ written.1 others.apart
    have colon : Clean [':', ' '] := by simp [Clean, tick]
    have member := (quote_ends key _).append ((first.append others).after_clean colon)
    have whole := member.after_clean (clean_breakLine indent (level + 1))
    rw [PyJson.renderMembers, PyJson.atomsMembers]
    exact (whole.after_clean (clean_cons.mpr ⟨by decide, clean_nil⟩)).congr
      (by rw [fenced_str_cons, fenced_append])

end

end

end OpenOntology.Intercept.Inbound
