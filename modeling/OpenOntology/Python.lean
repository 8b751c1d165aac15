import Mathlib
import OpenOntology.GoText

/-!
# Python's text and numbers

The parts of the Python runtime the services rely on: strings as sequences of code
points, `str.strip` and `str.partition`, the white space that pydantic strips, `min`,
`max` and `round` on floats.
-/
namespace OpenOntology.Python

open Library

/-- `str.isspace`: the White_Space characters and the four information separators. -/
def isSpace (c : Char) : Bool :=
  OpenOntology.isSpace c || (0x1C ≤ c.toNat && c.toNat ≤ 0x1F)

/-- No visible ASCII character is white space. -/
theorem isSpace_of_visible {c : Char} (visible : 33 ≤ c.toNat ∧ c.toNat < 127) :
    isSpace c = false := by
  unfold isSpace OpenOntology.isSpace
  simp
  omega

def strip (s : String) : String := String.ofList (trimBoth isSpace s.toList)

/-- The stripping pydantic does, which knows the White_Space characters only. -/
def stripWhitespace (s : String) : String := trimSpace s

/-! ## Text -/

/-- A code point of a Python string; the lone surrogates are among them. -/
abbrev CodePoint := Fin 0x110000

def CodePoint.ofChar (c : Char) : CodePoint := ⟨c.toNat, by
  have valid := c.valid
  rcases valid with small | ⟨_, small⟩ <;> exact Nat.lt_of_lt_of_le small (by decide)⟩

/-- The character UTF-8 can carry; a surrogate is none. -/
def CodePoint.char? (c : CodePoint) : Option Char :=
  if valid : c.val.isValidChar then some (Char.ofNatAux c.val valid) else none

theorem CodePoint.char?_ofChar (c : Char) : (CodePoint.ofChar c).char? = some c := by
  have valid : c.toNat.isValidChar := c.valid
  unfold CodePoint.char? CodePoint.ofChar
  rw [dif_pos valid]
  rfl

/-- A Python string, which may hold lone surrogates. -/
abbrev Text := List CodePoint

namespace Text

def ofString (s : String) : Text := s.toList.map CodePoint.ofChar

/-- The text as UTF-8 carries it, or nothing where encoding it raises. -/
def toString? (s : Text) : Option String := (s.mapM CodePoint.char?).map String.ofList

/-- `s.encode("utf-8")` succeeds. -/
def encodes (s : Text) : Bool := s.all fun c => c.char?.isSome

def isSpace (c : CodePoint) : Bool := c.char?.any Python.isSpace

/-- `str.strip`. -/
def strip (s : Text) : Text := trimBoth isSpace s

@[simp] theorem toString?_ofString (s : String) : toString? (ofString s) = some s := by
  unfold toString? ofString
  rw [List.mapM_map]
  have all : (CodePoint.char? ∘ CodePoint.ofChar) = some := funext CodePoint.char?_ofChar
  rw [all]
  have whole : s.toList.mapM some = some s.toList := by
    have unchanged : s.toList.mapM (fun c => (pure (id c) : Option Char)) = some (s.toList.map id) :=
      List.mapM_pure
    rwa [List.map_id] at unchanged
  rw [whole, Option.map_some, String.ofList_toList]

theorem CodePoint.eq_ofChar {c : CodePoint} {character : Char} (carried : c.char? = some character) :
    c = CodePoint.ofChar character := by
  unfold CodePoint.char? at carried
  split at carried
  next valid =>
    cases carried
    rfl
  next => cases carried

theorem toString?_eq_some {s : Text} {t : String} : toString? s = some t ↔ s = ofString t := by
  constructor
  · intro carried
    obtain ⟨characters, all, rfl⟩ := Option.map_eq_some_iff.mp carried
    rw [ofString, String.toList_ofList]
    clear carried
    induction s generalizing characters with
    | nil =>
      cases all
      rfl
    | cons c rest ih =>
      rw [List.mapM_cons] at all
      obtain ⟨character, first, all⟩ := Option.bind_eq_some_iff.mp all
      obtain ⟨others, later, whole⟩ := Option.bind_eq_some_iff.mp all
      cases whole
      rw [List.map_cons, ← ih others later, CodePoint.eq_ofChar first]
  · rintro rfl
    exact toString?_ofString t

theorem ofString_injective : Function.Injective ofString := by
  intro s t same
  have both := congrArg toString? same
  simpa using both

@[simp] theorem ofString_inj {s t : String} : ofString s = ofString t ↔ s = t :=
  ofString_injective.eq_iff

@[simp] theorem encodes_ofString (s : String) : encodes (ofString s) = true := by
  simp [encodes, ofString, CodePoint.char?_ofChar]

theorem toString?_isSome (s : Text) : (toString? s).isSome = encodes s := by
  unfold toString? encodes
  rw [Option.isSome_map]
  induction s with
  | nil => rfl
  | cons c rest ih =>
    rw [List.mapM_cons, List.all_cons, ← ih]
    cases c.char? with
    | none => rfl
    | some character => cases rest.mapM CodePoint.char? <;> rfl

end Text

/-- The Unicode tables behind the string methods: ASCII text is mapped letter by letter. -/
structure Unicode where
  upper : Text → Text
  lower : Text → Text
  isAlnum : Char → Bool
  upper_ascii : ∀ s : String, (∀ c ∈ s.toList, c.toNat < 128) →
    upper (Text.ofString s) = Text.ofString (String.ofList (s.toList.map Char.toUpper))
  lower_ascii : ∀ s : String, (∀ c ∈ s.toList, c.toNat < 128) →
    lower (Text.ofString s) = Text.ofString (String.ofList (s.toList.map Char.toLower))
  isAlnum_ascii : ∀ c : Char, c.toNat < 128 → isAlnum c = c.isAlphanum

/-- The ASCII rows of the tables. -/
def asciiUnicode : Unicode where
  upper s := (s.toString?.map fun t => Text.ofString (String.ofList (t.toList.map Char.toUpper))).getD s
  lower s := (s.toString?.map fun t => Text.ofString (String.ofList (t.toList.map Char.toLower))).getD s
  isAlnum := Char.isAlphanum
  upper_ascii s _ := by simp
  lower_ascii s _ := by simp
  isAlnum_ascii _ _ := rfl

/-! ## Splitting and rounding -/

def partitionAux (separator : List Char) : List Char → List Char → Option (List Char × List Char)
  | _, [] => none
  | before, c :: rest =>
    if separator.isPrefixOf (c :: rest) then
      some (before.reverse, (c :: rest).drop separator.length)
    else partitionAux separator (c :: before) rest

/-- `str.partition`, with `none` where the separator does not occur. -/
def partition (separator s : String) : Option (String × String) :=
  (partitionAux separator.toList [] s.toList).map fun parts =>
    (String.ofList parts.1, String.ofList parts.2)

/-- A separator does not occur where its first character does not. -/
theorem partition_eq_none {separator s : String} {c : Char}
    (head : separator.toList.head? = some c) (absent : c ∉ s.toList) :
    partition separator s = none := by
  obtain ⟨rest, shape⟩ := List.head?_eq_some_iff.mp head
  have walk : ∀ (text before : List Char), c ∉ text →
      partitionAux separator.toList before text = none := by
    intro text
    induction text with
    | nil => exact fun _ _ => rfl
    | cons d later ih =>
      intro before fresh
      obtain ⟨differs, later_fresh⟩ := List.ne_and_not_mem_of_not_mem_cons fresh
      have mismatch : separator.toList.isPrefixOf (d :: later) = false := by
        simp [shape, List.isPrefixOf, differs]
      rw [partitionAux, mismatch]
      exact ih _ later_fresh
  rw [partition, walk _ _ absent, Option.map_none]

/-- `max(a, b)`: the first argument unless the second is greater. -/
def max (a b : Float) : Float := if b > a then b else a

def min (a b : Float) : Float := if b < a then b else a

/-- `numerator / denominator` to the nearest integer, ties to even. -/
def roundHalfEven (numerator denominator : Nat) : Nat :=
  let quotient := numerator / denominator
  let twice := 2 * (numerator % denominator)
  if twice < denominator then quotient
  else if twice > denominator then quotient + 1
  else quotient + quotient % 2

/-- `round(x, digits)`: the float nearest to the decimal nearest to the exact value. -/
def round (x : Float) (digits : Nat) : Float :=
  match x.toModel.unpack with
  | .finite sign mantissa exponent _ =>
    let scaled := roundHalfEven (mantissa * 10 ^ digits * 2 ^ exponent.toNat)
      (2 ^ (-exponent).toNat)
    let value := Float.ofScientific scaled true digits
    match sign with
    | .positive => value
    | .negative => -value
  | _ => x

example : round 0.0625 3 = 0.062 ∧ round 0.8505 3 = 0.851 := by decide +kernel

end OpenOntology.Python
