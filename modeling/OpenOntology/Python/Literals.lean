import OpenOntology.Python.Dumps

/-!
# Reading back literals

What the scanner makes of a string or a number that `json.dumps` wrote. A string comes back unless
a high surrogate stands before a low one, which the decoder takes for one code point.
-/
namespace OpenOntology.Python

open Scanner

section
variable {interpreter : Interpreter} {repr : Float → String} {indent : Nat}

/-- The scanner over a piece of the document. -/
def Scanner.run (interpreter : Interpreter) (s : Scanner) (piece : List Char) :
    Except LoadsError Scanner :=
  piece.foldlM (Scanner.step interpreter) s

theorem Scanner.run_cons (s : Scanner) (c : Char) (rest : List Char) :
    Scanner.run interpreter s (c :: rest) =
      (Scanner.step interpreter s c).bind fun after => Scanner.run interpreter after rest :=
  List.foldlM_cons

theorem Scanner.run_cons_ok {s t : Scanner} {c : Char} (rest : List Char)
    (stepped : Scanner.step interpreter s c = .ok t) :
    Scanner.run interpreter s (c :: rest) = Scanner.run interpreter t rest := by
  rw [Scanner.run_cons, stepped]
  rfl

theorem Scanner.run_append (s : Scanner) (piece rest : List Char) :
    Scanner.run interpreter s (piece ++ rest) =
      (Scanner.run interpreter s piece).bind fun after => Scanner.run interpreter after rest :=
  List.foldlM_append

theorem loads_eq_run (document : List Char) : loads interpreter (String.ofList document) =
    (Scanner.run interpreter Scanner.start document).bind (Scanner.finish interpreter) := by
  unfold loads Scanner.run
  rw [String.toList_ofList]

/-! ## Strings -/

theorem codePoints_ne_zero : 0x110000 ≠ 0 := by decide

instance codePoints_neZero : NeZero 0x110000 := ⟨codePoints_ne_zero⟩

/-- The code units that the escapes of a code point name. -/
def units (c : CodePoint) : Text :=
  if c.val < 0x10000 then [c]
  else [Fin.ofNat 0x110000 (0xD800 + (c.val - 0x10000) / 0x400),
    Fin.ofNat 0x110000 (0xDC00 + (c.val - 0x10000) % 0x400)]

theorem hexDigit?_digitChar {d : Nat} (small : d < 16) : hexDigit? (Nat.digitChar d) = some d := by
  have all : ∀ d < 16, hexDigit? (Nat.digitChar d) = some d := by decide
  exact all d small

/-- A string literal reads an escaped code unit. -/
theorem run_escapeUnit {n : Nat} (small : n < 0x10000) (stack : List Frame) (role : StringRole)
    (text : Text) (rest : List Char) :
    Scanner.run interpreter ⟨stack, .string role text .none⟩ (escapeUnit n ++ rest) =
      Scanner.run interpreter ⟨stack, .string role (text ++ [Fin.ofNat 0x110000 n]) .none⟩ rest := by
  have whole : ((n / 4096 % 16 * 16 + n / 256 % 16) * 16 + n / 16 % 16) * 16 + n % 16 = n := by omega
  unfold escapeUnit hex4
  simp only [List.cons_append, List.nil_append]
  rw [run_cons_ok (t := ⟨stack, .string role text .opened⟩) _ rfl,
    run_cons_ok (t := ⟨stack, .string role text (.hex 0 0)⟩) _ rfl]
  have first : Scanner.step interpreter ⟨stack, .string role text (.hex 0 0)⟩
      (Nat.digitChar (n / 4096 % 16)) =
      .ok ⟨stack, .string role text (.hex 1 (n / 4096 % 16))⟩ := by
    simp [Scanner.step, stringChar, hexDigit?_digitChar (Nat.mod_lt _ (by decide : 0 < 16))]
  have second : Scanner.step interpreter ⟨stack, .string role text (.hex 1 (n / 4096 % 16))⟩
      (Nat.digitChar (n / 256 % 16)) =
      .ok ⟨stack, .string role text (.hex 2 (n / 4096 % 16 * 16 + n / 256 % 16))⟩ := by
    simp [Scanner.step, stringChar, hexDigit?_digitChar (Nat.mod_lt _ (by decide : 0 < 16))]
  have third : Scanner.step interpreter
      ⟨stack, .string role text (.hex 2 (n / 4096 % 16 * 16 + n / 256 % 16))⟩
      (Nat.digitChar (n / 16 % 16)) =
      .ok ⟨stack, .string role text
        (.hex 3 ((n / 4096 % 16 * 16 + n / 256 % 16) * 16 + n / 16 % 16))⟩ := by
    simp [Scanner.step, stringChar, hexDigit?_digitChar (Nat.mod_lt _ (by decide : 0 < 16))]
  have fourth : Scanner.step interpreter ⟨stack, .string role text
      (.hex 3 ((n / 4096 % 16 * 16 + n / 256 % 16) * 16 + n / 16 % 16))⟩ (Nat.digitChar (n % 16)) =
      .ok ⟨stack, .string role (text ++ [Fin.ofNat 0x110000 n]) .none⟩ := by
    simp [Scanner.step, stringChar, hexDigit?_digitChar (Nat.mod_lt _ (by decide : 0 < 16)), whole]
  rw [run_cons_ok _ first, run_cons_ok _ second, run_cons_ok _ third, run_cons_ok _ fourth]

theorem units_of_small {c : CodePoint} (small : c.val < 0x10000) : units c = [c] := if_pos small

/-- A string literal reads a short escape. -/
theorem run_escaped {e plain : Char} {c : CodePoint} (known : escaped e = some plain)
    (code : c.val = plain.toNat) (small : c.val < 0x10000) (stack : List Frame) (role : StringRole)
    (text : Text) (rest : List Char) :
    Scanner.run interpreter ⟨stack, .string role text .none⟩ (['\\', e] ++ rest) =
      Scanner.run interpreter ⟨stack, .string role (text ++ units c) .none⟩ rest := by
  have other : e ≠ 'u' := by
    rintro rfl
    cases known
  have same : CodePoint.ofChar plain = c := Fin.ext code.symm
  have read : Scanner.step interpreter ⟨stack, .string role text .opened⟩ e =
      .ok ⟨stack, .string role (text ++ units c) .none⟩ := by
    simp [Scanner.step, stringChar, other, known, same, units_of_small small]
  rw [List.cons_append, run_cons_ok (t := ⟨stack, .string role text .opened⟩) _ rfl]
  exact run_cons_ok _ read

theorem char_toNat {c : CodePoint} (visible : 0x20 ≤ c.val ∧ c.val ≤ 0x7E) :
    (Char.ofNat c.val).toNat = c.val := by
  have valid : c.val.isValidChar := Or.inl (by omega)
  rw [Char.toNat_ofNat, if_pos valid]

theorem ofChar_ofNat {c : CodePoint} (visible : 0x20 ≤ c.val ∧ c.val ≤ 0x7E) :
    CodePoint.ofChar (Char.ofNat c.val) = c := Fin.ext (char_toNat visible)

/-- A string literal reads a character that is not escaped. -/
theorem run_plain {c : CodePoint} (visible : 0x20 ≤ c.val ∧ c.val ≤ 0x7E) (quote : c.val ≠ 0x22)
    (backslash : c.val ≠ 0x5C) (stack : List Frame) (role : StringRole) (text : Text)
    (rest : List Char) :
    Scanner.run interpreter ⟨stack, .string role text .none⟩ (Char.ofNat c.val :: rest) =
      Scanner.run interpreter ⟨stack, .string role (text ++ [c]) .none⟩ rest := by
  have code := char_toNat visible
  have not_quote : Char.ofNat c.val ≠ '"' := fun same => quote (code ▸ congrArg Char.toNat same)
  have not_backslash : Char.ofNat c.val ≠ '\\' :=
    fun same => backslash (code ▸ congrArg Char.toNat same)
  have solid : ¬(Char.ofNat c.val).toNat < 0x20 := by omega
  have read : Scanner.step interpreter ⟨stack, .string role text .none⟩ (Char.ofNat c.val) =
      .ok ⟨stack, .string role (text ++ [c]) .none⟩ := by
    unfold Scanner.step stringChar
    dsimp only
    rw [if_neg not_quote, if_neg not_backslash, if_neg solid, ofChar_ofNat visible]
  rw [run_cons_ok _ read]

/-- A string literal reads a code point that was written. -/
theorem run_escapeChar (c : CodePoint) (stack : List Frame) (role : StringRole) (text : Text)
    (rest : List Char) :
    Scanner.run interpreter ⟨stack, .string role text .none⟩ (escapeChar c ++ rest) =
      Scanner.run interpreter ⟨stack, .string role (text ++ units c) .none⟩ rest := by
  unfold escapeChar
  split
  next code => exact run_escaped rfl code (by omega) stack role text rest
  split
  next code => exact run_escaped rfl code (by omega) stack role text rest
  split
  next code => exact run_escaped rfl code (by omega) stack role text rest
  split
  next code => exact run_escaped rfl code (by omega) stack role text rest
  split
  next code => exact run_escaped rfl code (by omega) stack role text rest
  split
  next code => exact run_escaped rfl code (by omega) stack role text rest
  split
  next code => exact run_escaped rfl code (by omega) stack role text rest
  split
  next quote backslash _ _ _ _ _ visible =>
    rw [units_of_small (by omega)]
    exact run_plain visible quote backslash stack role text rest
  split
  next small =>
    rw [run_escapeUnit small, units_of_small small]
    have same : (Fin.ofNat 0x110000 c.val : CodePoint) = c := Fin.ext (Nat.mod_eq_of_lt c.isLt)
    rw [same]
  next large =>
    have pair : units c = [Fin.ofNat 0x110000 (0xD800 + (c.val - 0x10000) / 0x400),
        Fin.ofNat 0x110000 (0xDC00 + (c.val - 0x10000) % 0x400)] := if_neg large
    rw [List.append_assoc, run_escapeUnit (by omega), run_escapeUnit (by omega), pair,
      List.append_assoc]
    rfl

/-- A string literal reads the code units of what was written. -/
theorem run_escapes (s : Text) (stack : List Frame) (role : StringRole) (text : Text)
    (rest : List Char) :
    Scanner.run interpreter ⟨stack, .string role text .none⟩ (s.flatMap escapeChar ++ rest) =
      Scanner.run interpreter ⟨stack, .string role (text ++ s.flatMap units) .none⟩ rest := by
  induction s generalizing text with
  | nil => rw [List.flatMap_nil, List.flatMap_nil, List.nil_append, List.append_nil]
  | cons c s ih =>
    rw [List.flatMap_cons, List.append_assoc, run_escapeChar, ih, List.flatMap_cons,
      List.append_assoc]

theorem run_quote_close (s : Text) (stack : List Frame) (role : StringRole) (rest : List Char) :
    Scanner.run interpreter ⟨stack, .string role [] .none⟩
        (s.flatMap escapeChar ++ '"' :: rest) =
      Scanner.run interpreter (closeString stack role (s.flatMap units)) rest := by
  rw [run_escapes, List.nil_append,
    run_cons_ok (t := closeString stack role (s.flatMap units)) _ rfl]

/-! ## Surrogates -/

/-- The text comes back: no high surrogate stands before a low one. -/
def Unpaired (s : Text) : Prop := s.IsChain fun a b => ¬(isHigh a = true ∧ isLow b = true)

instance (s : Text) : Decidable (Unpaired s) :=
  inferInstanceAs (Decidable (s.IsChain fun a b => ¬(isHigh a = true ∧ isLow b = true)))

theorem joinSurrogates_cons {c : CodePoint} {rest : Text}
    (apart : ∀ d ∈ rest.head?, ¬(isHigh c = true ∧ isLow d = true)) :
    joinSurrogates (c :: rest) = c :: joinSurrogates rest := by
  cases rest with
  | nil => rfl
  | cons d rest => rw [joinSurrogates, if_neg (apart d rfl)]

/-- A pair of escapes is the code point that was written. -/
theorem joinSurrogates_large {c : CodePoint} (large : ¬c.val < 0x10000) (rest : Text) :
    joinSurrogates (units c ++ rest) = c :: joinSurrogates rest := by
  have bound := c.isLt
  have high : (Fin.ofNat 0x110000 (0xD800 + (c.val - 0x10000) / 0x400) : CodePoint).val =
      0xD800 + (c.val - 0x10000) / 0x400 := Nat.mod_eq_of_lt (by omega)
  have low : (Fin.ofNat 0x110000 (0xDC00 + (c.val - 0x10000) % 0x400) : CodePoint).val =
      0xDC00 + (c.val - 0x10000) % 0x400 := Nat.mod_eq_of_lt (by omega)
  have pair : isHigh (Fin.ofNat 0x110000 (0xD800 + (c.val - 0x10000) / 0x400)) = true ∧
      isLow (Fin.ofNat 0x110000 (0xDC00 + (c.val - 0x10000) % 0x400)) = true := by
    unfold isHigh isLow
    rw [high, low]
    simp only [Bool.and_eq_true, decide_eq_true_eq]
    omega
  have joined : (Fin.ofNat 0x110000 (0x10000 +
      (0xD800 + (c.val - 0x10000) / 0x400 - 0xD800) * 0x400 +
      (0xDC00 + (c.val - 0x10000) % 0x400 - 0xDC00)) : CodePoint) = c :=
    Fin.ext ((Nat.mod_eq_of_lt (by omega)).trans (by omega))
  rw [units, if_neg large, List.cons_append, List.cons_append, List.nil_append, joinSurrogates,
    if_pos pair, high, low, joined]

theorem small_of_isHigh {c : CodePoint} (high : isHigh c = true) : c.val < 0x10000 := by
  unfold isHigh at high
  simp only [Bool.and_eq_true, decide_eq_true_eq] at high
  omega

theorem small_of_isLow {c : CodePoint} (low : isLow c = true) : c.val < 0x10000 := by
  unfold isLow at low
  simp only [Bool.and_eq_true, decide_eq_true_eq] at low
  omega

theorem isLow_head_units {d e : CodePoint} (first : e ∈ (units d).head?) (low : isLow e = true) :
    isLow d = true := by
  by_cases small : d.val < 0x10000
  · rw [units_of_small small] at first
    cases first
    exact low
  · have bound := d.isLt
    rw [units, if_neg small] at first
    cases first
    unfold isLow at low
    have value : (Fin.ofNat 0x110000 (0xD800 + (d.val - 0x10000) / 0x400) : CodePoint).val =
      0xD800 + (d.val - 0x10000) / 0x400 := Nat.mod_eq_of_lt (by omega)
    rw [value] at low
    simp only [Bool.and_eq_true, decide_eq_true_eq] at low
    omega

/-- A code point comes back, unless it is the first of a split pair. -/
theorem joinSurrogates_units_cons {c : CodePoint} {s : Text}
    (apart : ∀ d ∈ s.head?, ¬(isHigh c = true ∧ isLow d = true)) :
    joinSurrogates ((c :: s).flatMap units) = c :: joinSurrogates (s.flatMap units) := by
  rw [List.flatMap_cons]
  by_cases small : c.val < 0x10000
  · rw [units_of_small small]
    refine joinSurrogates_cons fun e first pair => ?_
    cases s with
    | nil => cases first
    | cons d s =>
      refine apart d rfl ⟨pair.1, isLow_head_units (e := e) ?_ pair.2⟩
      by_cases small : d.val < 0x10000
      · rw [List.flatMap_cons, units_of_small small] at first
        rw [units_of_small small]
        exact first
      · rw [List.flatMap_cons, units, if_neg small] at first
        rw [units, if_neg small]
        exact first
  · exact joinSurrogates_large small _

theorem joinSurrogates_units_pair {c d : CodePoint} {s : Text} (high : isHigh c = true)
    (low : isLow d = true) :
    (joinSurrogates ((c :: d :: s).flatMap units)).length =
      (joinSurrogates (s.flatMap units)).length + 1 := by
  rw [List.flatMap_cons, List.flatMap_cons, units_of_small (small_of_isHigh high),
    units_of_small (small_of_isLow low), List.singleton_append, List.singleton_append,
    joinSurrogates, if_pos ⟨high, low⟩, List.length_cons]

theorem joinSurrogates_units_length (s : Text) :
    (joinSurrogates (s.flatMap units)).length ≤ s.length := by
  induction h : s.length using Nat.strong_induction_on generalizing s with
  | _ n ih =>
    subst h
    cases s with
    | nil => exact Nat.le_refl 0
    | cons c s =>
      by_cases apart : ∀ d ∈ s.head?, ¬(isHigh c = true ∧ isLow d = true)
      · have later := ih s.length (Nat.lt_succ_self _) s rfl
        rw [joinSurrogates_units_cons apart, List.length_cons, List.length_cons]
        omega
      · simp only [not_forall, not_not] at apart
        obtain ⟨d, first, high, low⟩ := apart
        obtain ⟨rest, rfl⟩ := List.head?_eq_some_iff.mp first
        have later := ih rest.length (by simp only [List.length_cons]; omega) rest rfl
        rw [joinSurrogates_units_pair high low, List.length_cons, List.length_cons]
        omega

/-- The text comes back exactly when it holds no split pair. -/
theorem joinSurrogates_units_iff {s : Text} :
    joinSurrogates (s.flatMap units) = s ↔ Unpaired s := by
  induction s with
  | nil => exact iff_of_true rfl List.isChain_nil
  | cons c s ih =>
    unfold Unpaired at ih ⊢
    rw [List.isChain_cons]
    by_cases apart : ∀ d ∈ s.head?, ¬(isHigh c = true ∧ isLow d = true)
    · rw [joinSurrogates_units_cons apart, List.cons_eq_cons, and_iff_right rfl, ih]
      exact (and_iff_right apart).symm
    · refine iff_of_false (fun same => ?_) (fun chain => apart chain.1)
      simp only [not_forall, not_not] at apart
      obtain ⟨d, first, high, low⟩ := apart
      obtain ⟨rest, rfl⟩ := List.head?_eq_some_iff.mp first
      have lost := joinSurrogates_units_pair high low (s := rest)
      have short := joinSurrogates_units_length rest
      rw [same, List.length_cons, List.length_cons] at lost
      omega

/-! ## Numbers -/

/-- The literal that the characters are. -/
def literalOf (cs : List Char) : Option (NumberPhase × NumberText) :=
  match cs with
  | '-' :: rest => rest.foldlM (fun held c => extendNumber held.1 held.2 c) (.sign, { negative := true })
  | _ => cs.foldlM (fun held c => extendNumber held.1 held.2 c) (.sign, { negative := false })

/-- The text is a literal with a fraction or an exponent, and the float is its value. -/
def ReadsBackAs (s : String) (x : Float) : Prop :=
  ∃ phase t, literalOf s.toList = some (phase, t) ∧
    (phase = .fraction ∨ phase = .exponentDigits) ∧ NumberText.float t = x

/-- What stands after a value inside a container. -/
def Follows (d : Char) : Prop := d = ',' ∨ d = '\n'

theorem isDigit_cases {c : Char} (digit : c.isDigit = true) :
    ∃ d < 10, c = Nat.digitChar d := by
  have range : 48 ≤ c.toNat ∧ c.toNat ≤ 57 := Char.isDigit_iff_toNat.mp digit
  have all : ∀ d < 10, (Nat.digitChar d).toNat = 48 + d := by decide
  refine ⟨c.toNat - 48, by omega, Char.toNat_inj.mp ?_⟩
  rw [all _ (by omega)]
  omega

theorem isDigit_of_extend {t : NumberText} {c : Char} {held : NumberPhase × NumberText}
    (extended : extendNumber .sign t c = some held) : c.isDigit = true := by
  by_contra other
  have none_read : digit? c = none := if_neg other
  unfold extendNumber at extended
  rw [none_read] at extended
  cases extended

theorem step_number {stack : List Frame} {phase : NumberPhase} {t : NumberText} {c : Char}
    {held : NumberPhase × NumberText} (extended : extendNumber phase t c = some held) :
    Scanner.step interpreter ⟨stack, .number phase t⟩ c = .ok ⟨stack, .number held.1 held.2⟩ := by
  by_cases sign : phase = .sign
  · subst sign
    have not_infinity : c ≠ 'I' := by
      rintro rfl
      cases isDigit_of_extend extended
    unfold Scanner.step
    dsimp only
    rw [if_neg not_infinity, extended]
  · unfold Scanner.step
    cases phase with
    | sign => exact absurd rfl sign
    | zero => simp only [extended]
    | whole => simp only [extended]
    | point => simp only [extended]
    | fraction => simp only [extended]
    | exponent => simp only [extended]
    | exponentSign => simp only [extended]
    | exponentDigits => simp only [extended]

theorem run_number {stack : List Frame} {cs : List Char} (start : NumberPhase × NumberText)
    {held : NumberPhase × NumberText}
    (read : cs.foldlM (fun held c => extendNumber held.1 held.2 c) start = some held)
    (rest : List Char) :
    Scanner.run interpreter ⟨stack, .number start.1 start.2⟩ (cs ++ rest) =
      Scanner.run interpreter ⟨stack, .number held.1 held.2⟩ rest := by
  induction cs generalizing start with
  | nil =>
    cases read
    rfl
  | cons c cs ih =>
    rw [List.foldlM_cons] at read
    obtain ⟨next, extended, read⟩ := Option.bind_eq_some_iff.mp read
    rw [List.cons_append, run_cons_ok _ (step_number extended)]
    exact ih next read

theorem step_value_digit {c : Char} (digit : c.isDigit = true) (stack : List Frame) :
    Scanner.step interpreter ⟨stack, .value⟩ c =
      Scanner.step interpreter ⟨stack, .number .sign { negative := false }⟩ c := by
  obtain ⟨d, small, rfl⟩ := isDigit_cases digit
  interval_cases d <;> rfl

/-- The scanner reads a literal as far as it goes. -/
theorem run_literal {stack : List Frame} {cs : List Char} {held : NumberPhase × NumberText}
    (read : literalOf cs = some held) (some_char : held.1 ≠ .sign) (rest : List Char) :
    Scanner.run interpreter ⟨stack, .value⟩ (cs ++ rest) =
      Scanner.run interpreter ⟨stack, .number held.1 held.2⟩ rest := by
  unfold literalOf at read
  split at read
  next digits =>
    rw [List.cons_append, run_cons_ok (t := ⟨stack, .number .sign { negative := true }⟩) _ rfl]
    exact run_number (.sign, { negative := true }) read rest
  next other =>
    cases cs with
    | nil =>
      cases read
      exact absurd rfl some_char
    | cons c cs =>
      have whole : Scanner.run interpreter ⟨stack, .number .sign { negative := false }⟩
          (c :: cs ++ rest) = Scanner.run interpreter ⟨stack, .number held.1 held.2⟩ rest :=
        run_number (.sign, { negative := false }) read rest
      rw [List.foldlM_cons] at read
      obtain ⟨next, extended, -⟩ := Option.bind_eq_some_iff.mp read
      rw [← whole, List.cons_append, Scanner.run_cons, Scanner.run_cons,
        step_value_digit (isDigit_of_extend extended)]

theorem step_complete (stack : List Frame) (value : PyJson) (c : Char) :
    Scanner.step interpreter (complete stack value) c =
      afterValue (complete stack value).stack (complete stack value).mode c := by
  cases stack with
  | nil => rfl
  | cons frame stack => cases frame <;> rfl

/-- A literal ends where the container goes on. -/
theorem run_literal_follows {stack : List Frame} {cs : List Char} {held : NumberPhase × NumberText}
    {value : PyJson} {d : Char} (read : literalOf cs = some held)
    (closed : closeNumber interpreter held.1 held.2 = .ok value) (follows : Follows d)
    (rest : List Char) :
    Scanner.run interpreter ⟨stack, .value⟩ (cs ++ d :: rest) =
      Scanner.run interpreter (complete stack value) (d :: rest) := by
  have some_char : held.1 ≠ .sign := by
    intro sign
    rw [sign] at closed
    cases closed
  have ends : extendNumber held.1 held.2 d = none := by
    rcases follows with rfl | rfl <;> cases held.1 <;> rfl
  have ended : Scanner.step interpreter ⟨stack, .number held.1 held.2⟩ d =
      Scanner.step interpreter (complete stack value) d := by
    rw [step_complete]
    unfold Scanner.step
    cases phase : held.1 with
    | sign => exact absurd phase some_char
    | zero => rw [phase] at ends closed; simp only [ends, closed]; rfl
    | whole => rw [phase] at ends closed; simp only [ends, closed]; rfl
    | point => rw [phase] at ends closed; simp only [ends, closed]; rfl
    | fraction => rw [phase] at ends closed; simp only [ends, closed]; rfl
    | exponent => rw [phase] at ends closed; simp only [ends, closed]; rfl
    | exponentSign => rw [phase] at ends closed; simp only [ends, closed]; rfl
    | exponentDigits => rw [phase] at ends closed; simp only [ends, closed]; rfl
  rw [run_literal read some_char, Scanner.run_cons, Scanner.run_cons, ended]

theorem digit?_digitChar {d : Nat} (small : d < 10) : digit? (Nat.digitChar d) = some d := by
  have all : ∀ d < 10, digit? (Nat.digitChar d) = some d := by decide
  exact all d small

theorem number_append (digits : List Nat) (d : Nat) :
    number 10 (digits ++ [d]) = number 10 digits * 10 + d := by
  unfold number
  rw [List.foldl_append]
  rfl

/-- The digits of a number that is not zero, read after its sign. -/
theorem foldlM_toDigits {n : Nat} (positive : 0 < n) (negative : Bool) :
    ∃ digits, number 10 digits = n ∧ digits.length = (Nat.toDigits 10 n).length ∧
      (Nat.toDigits 10 n).foldlM (fun held c => extendNumber held.1 held.2 c)
        (NumberPhase.sign, { negative := negative }) =
      some (NumberPhase.whole, { negative := negative, whole := digits }) := by
  induction n using Nat.strong_induction_on with
  | _ n ih =>
    by_cases small : n < 10
    · refine ⟨[n], Nat.zero_add n, ?_, ?_⟩
      · rw [Nat.toDigits_of_lt_base small]
        rfl
      · rw [Nat.toDigits_of_lt_base small]
        obtain ⟨m, rfl⟩ := Nat.exists_eq_succ_of_ne_zero (Nat.ne_of_gt positive)
        have read : extendNumber .sign { negative := negative } (Nat.digitChar (m + 1)) =
            some (.whole, { negative := negative, whole := [m + 1] }) := by
          unfold extendNumber
          rw [digit?_digitChar small]
          rfl
        rw [List.foldlM_cons, read]
        rfl
    · obtain ⟨digits, value, length, read⟩ := ih (n / 10) (by omega) (by omega)
      have last : n % 10 < 10 := Nat.mod_lt n (by decide)
      have spelled := Nat.toDigits_of_base_le (b := 10) (n := n) (by decide) (by omega)
      refine ⟨digits ++ [n % 10], ?_, ?_, ?_⟩
      · rw [number_append, value]
        omega
      · rw [spelled, List.length_append, List.length_append, length]
        rfl
      · rw [spelled, List.foldlM_append, read]
        have extended : extendNumber .whole { negative := negative, whole := digits }
            (Nat.digitChar (n % 10)) =
            some (.whole, { negative := negative, whole := digits ++ [n % 10] }) := by
          unfold extendNumber
          rw [digit?_digitChar last]
        exact congrArg (fun next => next.bind some) extended

theorem toList_toString (n : Nat) : (toString n).toList = Nat.toDigits 10 n :=
  String.toList_ofList

/-- A number without a sign, read as the literal it is. -/
theorem foldlM_toString (n : Nat) (negative : Bool) :
    ∃ phase digits, (phase = .zero ∨ phase = .whole) ∧ number 10 digits = n ∧
      digits.length = (toString n).length ∧
      (toString n).toList.foldlM (fun held c => extendNumber held.1 held.2 c)
        (NumberPhase.sign, { negative := negative }) =
      some (phase, { negative := negative, whole := digits }) := by
  have length : (toString n).length = (Nat.toDigits 10 n).length := by
    rw [← String.length_toList, toList_toString]
  rcases Nat.eq_zero_or_pos n with rfl | positive
  · exact ⟨.zero, [0], Or.inl rfl, rfl, rfl, rfl⟩
  · obtain ⟨digits, value, long, read⟩ := foldlM_toDigits positive negative
    rw [toList_toString, length]
    exact ⟨.whole, digits, Or.inr rfl, value, long, read⟩

/-- The literal of an integer closes as the integer, where it is printed at all. -/
theorem literalOf_int {n : Int} (printed : interpreter.prints n = true) :
    ∃ held, literalOf (toString n).toList = some held ∧
      closeNumber interpreter held.1 held.2 = .ok (.int n) := by
  have short : ∀ digits : List Nat, digits.length = (toString n.natAbs).length →
      ¬(digits.length > interpreter.maxStrDigits ∧ interpreter.maxStrDigits ≠ 0) := by
    intro digits length
    simp only [Interpreter.prints, Bool.or_eq_true, beq_iff_eq, decide_eq_true_eq] at printed
    omega
  cases n with
  | ofNat n =>
    obtain ⟨phase, digits, integer, value, length, read⟩ := foldlM_toString n false
    have not_negative : (toString (Int.ofNat n)).toList = (toString n).toList := rfl
    have first : ∀ rest, (toString n).toList ≠ '-' :: rest := by
      intro rest same
      rw [same, List.foldlM_cons] at read
      cases read
    refine ⟨(phase, { negative := false, whole := digits }), ?_, ?_⟩
    · rw [not_negative]
      unfold literalOf
      split
      next rest same => exact absurd same (first rest)
      next => exact read
    · unfold closeNumber
      rcases integer with rfl | rfl
      all_goals
        dsimp only
        rw [if_neg (short digits length), NumberText.int]
        simp [value]
  | negSucc n =>
    obtain ⟨phase, digits, integer, value, length, read⟩ := foldlM_toString (n + 1) true
    have negative : (toString (Int.negSucc n)).toList = '-' :: (toString (n + 1)).toList := by
      have spelled : toString (Int.negSucc n) = "-" ++ toString (n + 1) := rfl
      rw [spelled, String.toList_append]
      rfl
    refine ⟨(phase, { negative := true, whole := digits }), ?_, ?_⟩
    · rw [negative]
      exact read
    · unfold closeNumber
      rcases integer with rfl | rfl
      all_goals
        dsimp only
        rw [if_neg (short digits length), NumberText.int]
        simp [value]
        omega

end

end OpenOntology.Python
