import OpenOntology.Python.Literals

/-!
# Documents that are broken off

A document that ends with a brace is no front of another one, and nothing that goes on with two line
breaks and a letter is a document.
-/
namespace OpenOntology.Python

open Scanner

section
variable {interpreter : Interpreter}

/-- Where only punctuation or white space may follow. -/
def Between : Mode → Prop
  | .string _ _ _ => False
  | .number _ _ => False
  | .literal _ _ => False
  | _ => True

theorem between_complete (stack : List Frame) (value : PyJson) :
    Between (complete stack value).mode := by
  cases stack with
  | nil => trivial
  | cons frame stack => cases frame <;> trivial

theorem afterValue_brace {stack : List Frame} {mode : Mode} {t : Scanner}
    (stepped : afterValue stack mode '}' = .ok t) : Between t.mode := by
  cases mode with
  | afterMember members =>
    cases stepped
    exact between_complete stack _
  | firstMember =>
    cases stepped
    exact between_complete stack _
  | value => cases stepped
  | firstItem => cases stepped
  | afterItem items => cases stepped
  | nextMember members => cases stepped
  | colon members key => cases stepped
  | string role text escape => cases stepped
  | number phase t => cases stepped
  | literal left value => cases stepped
  | done value => cases stepped

theorem extendNumber_brace (phase : NumberPhase) (t : NumberText) :
    extendNumber phase t '}' = none := by
  cases phase <;> rfl

/-- What a number makes of a character: it takes it, or it is closed before it. -/
theorem step_number_cases {stack : List Frame} {phase : NumberPhase} {text : NumberText} {c : Char}
    {t : Scanner} (stepped : Scanner.step interpreter ⟨stack, .number phase text⟩ c = .ok t) :
    (∃ held, extendNumber phase text c = some held ∧ t = ⟨stack, .number held.1 held.2⟩) ∨
      (c = 'I' ∧ t = ⟨stack, .literal "nfinity".toList (.float (-1 / 0))⟩) ∨
      ∃ value, afterValue (complete stack value).stack (complete stack value).mode c = .ok t := by
  cases extended : extendNumber phase text c with
  | some held =>
    rw [step_number extended] at stepped
    cases stepped
    exact Or.inl ⟨held, rfl, rfl⟩
  | none =>
    by_cases sign : phase = .sign
    · subst sign
      unfold Scanner.step at stepped
      dsimp only at stepped
      split at stepped
      next infinity =>
        cases stepped
        exact Or.inr (Or.inl ⟨infinity, rfl⟩)
      next =>
        rw [extended] at stepped
        cases stepped
    · have closing : (closeNumber interpreter phase text).bind (fun value =>
          afterValue (complete stack value).stack (complete stack value).mode c) = .ok t := by
        unfold Scanner.step at stepped
        cases phase <;> first
          | exact absurd rfl sign
          | (simp only [extended] at stepped; exact stepped)
      cases closed : closeNumber interpreter phase text with
      | error e =>
        rw [closed] at closing
        cases closing
      | ok value =>
        rw [closed] at closing
        exact Or.inr (Or.inr ⟨value, closing⟩)

/-- No number goes on after a brace. -/
theorem step_brace {s t : Scanner} (stepped : Scanner.step interpreter s '}' = .ok t)
    (phase : NumberPhase) (text : NumberText) : t.mode ≠ .number phase text := by
  have plain : Between t.mode → t.mode ≠ .number phase text := by
    intro between same
    rw [same] at between
    exact between
  obtain ⟨stack, mode⟩ := s
  cases mode with
  | value => cases stepped
  | firstItem => cases stepped
  | afterItem items => exact plain (afterValue_brace stepped)
  | firstMember => exact plain (afterValue_brace stepped)
  | nextMember members => exact plain (afterValue_brace stepped)
  | colon members key => exact plain (afterValue_brace stepped)
  | afterMember members => exact plain (afterValue_brace stepped)
  | done value => exact plain (afterValue_brace stepped)
  | string role held escape =>
    cases escape with
    | none =>
      cases stepped
      nofun
    | opened => cases stepped
    | hex digits value => cases stepped
  | literal left value =>
    unfold Scanner.step at stepped
    dsimp only at stepped
    split at stepped
    next last =>
      split at stepped
      next =>
        cases stepped
        exact plain (between_complete stack value)
      next => cases stepped
    next =>
      split at stepped
      next =>
        cases stepped
        nofun
      next => cases stepped
    next => cases stepped
  | number p held =>
    rcases step_number_cases stepped with ⟨next, extended, -⟩ | ⟨never, -⟩ | ⟨value, closed⟩
    · rw [extendNumber_brace] at extended
      cases extended
    · cases never
    · exact plain (afterValue_brace closed)

/-- After a document only white space may follow. -/
theorem run_done {stack : List Frame} {value : PyJson} {rest : List Char} {t : Scanner}
    (ran : Scanner.run interpreter ⟨stack, .done value⟩ rest = .ok t) :
    ∀ c ∈ rest, isWhitespace c = true := by
  induction rest with
  | nil => nofun
  | cons c rest ih =>
    rw [Scanner.run_cons] at ran
    by_cases white : isWhitespace c = true
    · have stays : Scanner.step interpreter ⟨stack, .done value⟩ c = .ok ⟨stack, .done value⟩ :=
        if_pos white
      rw [stays] at ran
      exact List.forall_mem_cons.mpr ⟨white, ih ran⟩
    · have stops : Scanner.step interpreter ⟨stack, .done value⟩ c = .error .malformed :=
        if_neg white
      rw [stops] at ran
      cases ran

/-- A document that goes on with a brace is not broken off at one. -/
theorem not_loads_front {before rest : List Char} {value : PyJson}
    (whole : loads interpreter (String.ofList (before ++ '}' :: rest)) = .ok value)
    (brace : '}' ∈ rest) (front : PyJson) :
    loads interpreter (String.ofList (before ++ ['}'])) ≠ .ok front := by
  intro loaded
  rw [loads_eq_run, Scanner.run_append] at whole loaded
  cases first : Scanner.run interpreter start before with
  | error e =>
    rw [first] at loaded
    cases loaded
  | ok s =>
    rw [first] at whole loaded
    change ((Scanner.run interpreter s ['}']).bind (finish interpreter)) = .ok front at loaded
    change ((Scanner.run interpreter s ('}' :: rest)).bind (finish interpreter)) = .ok value at whole
    rw [Scanner.run_cons] at whole loaded
    cases stepped : Scanner.step interpreter s '}' with
    | error e =>
      rw [stepped] at loaded
      cases loaded
    | ok t =>
      rw [stepped] at whole loaded
      change finish interpreter t = .ok front at loaded
      change ((Scanner.run interpreter t rest).bind (finish interpreter)) = .ok value at whole
      obtain ⟨stack, mode⟩ := t
      have not_number := step_brace stepped
      cases mode with
      | done held =>
        cases ran : Scanner.run interpreter ⟨stack, .done held⟩ rest with
        | error e =>
          rw [ran] at whole
          cases whole
        | ok t => cases run_done ran '}' brace
      | number phase text => exact not_number phase text rfl
      | value => cases loaded
      | firstItem => cases loaded
      | afterItem items => cases loaded
      | firstMember => cases loaded
      | nextMember members => cases loaded
      | colon members key => cases loaded
      | afterMember members => cases loaded
      | string role text escape => cases loaded
      | literal left value => cases loaded

/-! ## Line breaks -/

/-- A literal that is being read has no line break to come. -/
def Lettered (s : Scanner) : Prop :=
  ∀ left value, s.mode = .literal left value → '\n' ∉ left

theorem Between.lettered {s : Scanner} (between : Between s.mode) : Lettered s := by
  intro left value same
  rw [same] at between
  exact between.elim

theorem openValue_lettered {stack : List Frame} {c : Char} {t : Scanner}
    (opened : openValue interpreter stack c = .ok t) : Lettered t := by
  unfold openValue at opened
  split at opened
  next =>
    cases opened
    nofun
  next =>
    split at opened
    next =>
      cases opened
      nofun
    next =>
      split at opened
      next => cases opened
      next =>
        cases opened
        nofun
    next =>
      split at opened
      next => cases opened
      next =>
        cases opened
        nofun
    case h_9 =>
      cases opened
      nofun
    case h_10 =>
      split at opened
      next =>
        cases opened
        nofun
      next => cases opened
    all_goals
      cases opened
      intro left value same
      cases same
      decide

theorem afterValue_lettered {stack : List Frame} {mode : Mode} {c : Char} {t : Scanner}
    (held : Lettered ⟨stack, mode⟩) (stepped : afterValue stack mode c = .ok t) : Lettered t := by
  unfold afterValue at stepped
  split at stepped
  next =>
    cases stepped
    exact held
  next =>
    split at stepped
    next =>
      cases stepped
      nofun
    next =>
      cases stepped
      exact (between_complete _ _).lettered
    next =>
      cases stepped
      nofun
    next =>
      cases stepped
      exact (between_complete _ _).lettered
    next =>
      cases stepped
      exact (between_complete _ _).lettered
    next =>
      cases stepped
      nofun
    next =>
      cases stepped
      nofun
    next =>
      cases stepped
      nofun
    next => cases stepped

theorem closeString_lettered (stack : List Frame) (role : StringRole) (text : Text) :
    Lettered (closeString stack role text) := by
  cases role with
  | value => exact (between_complete stack _).lettered
  | key members => nofun

theorem stringChar_lettered {stack : List Frame} {role : StringRole} {text : Text} {escape : Escape}
    {c : Char} {t : Scanner} (stepped : stringChar stack role text escape c = .ok t) :
    Lettered t := by
  unfold stringChar at stepped
  split at stepped
  next =>
    split at stepped
    next =>
      cases stepped
      exact closeString_lettered stack role text
    next =>
      split at stepped
      next =>
        cases stepped
        nofun
      next =>
        split at stepped
        next => cases stepped
        next =>
          cases stepped
          nofun
  next =>
    split at stepped
    next =>
      cases stepped
      nofun
    next =>
      split at stepped
      next =>
        cases stepped
        nofun
      next => cases stepped
  next =>
    split at stepped
    next => cases stepped
    next =>
      split at stepped
      next =>
        cases stepped
        nofun
      next =>
        cases stepped
        nofun

theorem step_lettered {s t : Scanner} {c : Char} (held : Lettered s)
    (stepped : Scanner.step interpreter s c = .ok t) : Lettered t := by
  obtain ⟨stack, mode⟩ := s
  cases mode with
  | value => exact openValue_lettered stepped
  | firstItem =>
    unfold Scanner.step at stepped
    dsimp only at stepped
    split at stepped
    next =>
      cases stepped
      nofun
    next =>
      split at stepped
      next =>
        cases stepped
        exact (between_complete stack _).lettered
      next => exact openValue_lettered stepped
  | afterItem items => exact afterValue_lettered held stepped
  | firstMember => exact afterValue_lettered held stepped
  | nextMember members => exact afterValue_lettered held stepped
  | colon members key => exact afterValue_lettered held stepped
  | afterMember members => exact afterValue_lettered held stepped
  | done value => exact afterValue_lettered held stepped
  | string role text escape => exact stringChar_lettered stepped
  | literal left value =>
    have fresh := held left value rfl
    unfold Scanner.step at stepped
    dsimp only at stepped
    split at stepped
    next =>
      split at stepped
      next =>
        cases stepped
        exact (between_complete stack value).lettered
      next => cases stepped
    next next left _ =>
      split at stepped
      next =>
        cases stepped
        intro later other same
        cases same
        exact fun inside => fresh (List.mem_cons_of_mem next inside)
      next => cases stepped
    next => cases stepped
  | number phase text =>
    rcases step_number_cases stepped with ⟨next, -, rfl⟩ | ⟨-, rfl⟩ | ⟨value, closed⟩
    · nofun
    · intro left value same
      cases same
      decide
    · exact afterValue_lettered (between_complete stack value).lettered closed

theorem run_lettered {s t : Scanner} {piece : List Char} (held : Lettered s)
    (ran : Scanner.run interpreter s piece = .ok t) : Lettered t := by
  induction piece generalizing s with
  | nil =>
    cases ran
    exact held
  | cons c piece ih =>
    rw [Scanner.run_cons] at ran
    cases stepped : Scanner.step interpreter s c with
    | error e =>
      rw [stepped] at ran
      cases ran
    | ok next =>
      rw [stepped] at ran
      exact ih (step_lettered held stepped) ran

theorem extendNumber_break (phase : NumberPhase) (t : NumberText) :
    extendNumber phase t '\n' = none := by
  cases phase <;> rfl

theorem step_break_between {s : Scanner} (between : Between s.mode) :
    Scanner.step interpreter s '\n' = .ok s := by
  obtain ⟨stack, mode⟩ := s
  cases mode <;> first | rfl | exact between.elim

/-- A line break is white space between two values, or it breaks the value off. -/
theorem step_break {s t : Scanner} (held : Lettered s)
    (stepped : Scanner.step interpreter s '\n' = .ok t) : Between t.mode := by
  obtain ⟨stack, mode⟩ := s
  have stays : Between mode → Between t.mode := by
    intro between
    rw [step_break_between (s := ⟨stack, mode⟩) between] at stepped
    cases stepped
    exact between
  cases mode with
  | value => exact stays trivial
  | firstItem => exact stays trivial
  | afterItem items => exact stays trivial
  | firstMember => exact stays trivial
  | nextMember members => exact stays trivial
  | colon members key => exact stays trivial
  | afterMember members => exact stays trivial
  | done value => exact stays trivial
  | string role text escape => cases escape <;> cases stepped
  | literal left value =>
    have fresh := held left value rfl
    unfold Scanner.step at stepped
    dsimp only at stepped
    split at stepped
    next last =>
      split at stepped
      next same => exact absurd (List.mem_singleton.mpr same) fresh
      next => cases stepped
    next next left _ =>
      split at stepped
      next same =>
        rw [same] at fresh
        exact absurd List.mem_cons_self fresh
      next => cases stepped
    next => cases stepped
  | number phase text =>
    rcases step_number_cases stepped with ⟨next, extended, -⟩ | ⟨never, -⟩ | ⟨value, closed⟩
    · rw [extendNumber_break] at extended
      cases extended
    · cases never
    · have between := between_complete stack value
      have after : Scanner.step interpreter (complete stack value) '\n' = .ok t :=
        (step_complete stack value '\n').trans closed
      rw [step_break_between between] at after
      cases after
      exact between

theorem step_letter_between {s : Scanner} (between : Between s.mode) :
    Scanner.step interpreter s 'B' = .error .malformed := by
  obtain ⟨stack, mode⟩ := s
  cases mode <;> first | rfl | exact between.elim

/-- No document goes on with an empty line and a letter. -/
theorem not_loads_break (before rest : List Char) (value : PyJson) :
    loads interpreter (String.ofList (before ++ '\n' :: '\n' :: 'B' :: rest)) ≠ .ok value := by
  intro loaded
  rw [loads_eq_run, Scanner.run_append] at loaded
  cases first : Scanner.run interpreter start before with
  | error e =>
    rw [first] at loaded
    cases loaded
  | ok s =>
    rw [first] at loaded
    change ((Scanner.run interpreter s ('\n' :: '\n' :: 'B' :: rest)).bind
      (finish interpreter)) = .ok value at loaded
    have held : Lettered s := run_lettered (s := start) nofun first
    rw [Scanner.run_cons] at loaded
    cases stepped : Scanner.step interpreter s '\n' with
    | error e =>
      rw [stepped] at loaded
      cases loaded
    | ok t =>
      have between := step_break held stepped
      rw [stepped] at loaded
      change ((Scanner.run interpreter t ('\n' :: 'B' :: rest)).bind
        (finish interpreter)) = .ok value at loaded
      rw [run_cons_ok _ (step_break_between between), Scanner.run_cons,
        step_letter_between between] at loaded
      cases loaded

end

end OpenOntology.Python
