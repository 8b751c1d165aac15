import OpenOntology.Python

/-!
# Python's JSON decoder

`json.loads` as one pass over the characters of the document. Besides a document that is
not JSON, two things make it raise: containers nested deeper than the interpreter's
recursion limit, and an integer literal with more digits than the interpreter converts.
-/
namespace OpenOntology.Python

/-- A decoded JSON document. -/
inductive PyJson where
  | null
  | bool (value : Bool)
  | int (value : Int)
  | float (value : Float)
  | str (value : Text)
  | arr (items : List PyJson)
  | obj (members : List (Text × PyJson))

abbrev Members := List (Text × PyJson)

/-- `members[key] = value`: a repeated key keeps its place and takes the later value. -/
def Members.assign (members : Members) (key : Text) (value : PyJson) : Members :=
  if members.any fun held => held.1 == key then
    members.map fun held => if held.1 = key then (key, value) else held
  else members ++ [(key, value)]

/-- `members.get(key)`. -/
def Members.get (members : Members) (key : Text) : Option PyJson := members.lookup key

namespace PyJson

/-- `bool(value)`. -/
def truthy : PyJson → Bool
  | .null => false
  | .bool value => value
  | .int value => value != 0
  | .float value => value != 0
  | .str value => !value.isEmpty
  | .arr items => !items.isEmpty
  | .obj members => !members.isEmpty

mutual

/-- The calls `str(value)` nests. -/
def strDepth : PyJson → Nat
  | .arr items => 1 + strDepthList items
  | .obj members => 1 + strDepthMembers members
  | _ => 1

def strDepthList : List PyJson → Nat
  | [] => 0
  | item :: rest => Nat.max item.strDepth (strDepthList rest)

def strDepthMembers : List (Text × PyJson) → Nat
  | [] => 0
  | (_, value) :: rest => Nat.max (Nat.max 1 value.strDepth) (strDepthMembers rest)

end

end PyJson

/-- The limits of one interpreter. -/
structure Interpreter where
  /-- containers the JSON scanner may nest -/
  scanDepth : Nat
  /-- calls `str` may nest -/
  strDepth : Nat
  /-- digits an integer literal may have -/
  maxStrDigits : Nat

inductive LoadsError where
  /-- `JSONDecodeError` -/
  | malformed
  /-- `RecursionError` -/
  | tooDeep
  /-- the `ValueError` of `int` -/
  | intTooLong
  deriving DecidableEq, Repr

/-! ## The scanner -/

/-- A container that waits for a value. -/
inductive Frame where
  | item (items : List PyJson)
  | member (members : Members) (key : Text)

/-- What a string literal is read for. -/
inductive StringRole where
  | value
  | key (members : Members)

inductive Escape where
  | none
  | opened
  | hex (digits : Nat) (value : Nat)

inductive NumberPhase where
  | sign
  | zero
  | whole
  | point
  | fraction
  | exponent
  | exponentSign
  | exponentDigits
  deriving DecidableEq

/-- The pieces of a number literal, most significant digit first. -/
structure NumberText where
  negative : Bool
  whole : List Nat := []
  fraction : List Nat := []
  exponentNegative : Bool := false
  exponent : List Nat := []

inductive Mode where
  | value
  | firstItem
  | afterItem (items : List PyJson)
  | firstMember
  | nextMember (members : Members)
  | colon (members : Members) (key : Text)
  | afterMember (members : Members)
  | string (role : StringRole) (text : Text) (escape : Escape)
  | number (phase : NumberPhase) (text : NumberText)
  | literal (left : List Char) (value : PyJson)
  | done (value : PyJson)

/-- The scanner between two characters: the containers that wait for the value being read,
innermost first. -/
structure Scanner where
  stack : List Frame
  mode : Mode

namespace Scanner

def start : Scanner := ⟨[], .value⟩

def isWhitespace (c : Char) : Bool := c == ' ' || c == '\t' || c == '\n' || c == '\r'

def digit? (c : Char) : Option Nat := if c.isDigit then some (c.toNat - '0'.toNat) else none

def hexDigit? (c : Char) : Option Nat :=
  if c.isDigit then some (c.toNat - '0'.toNat)
  else if 'a' ≤ c ∧ c ≤ 'f' then some (c.toNat - 'a'.toNat + 10)
  else if 'A' ≤ c ∧ c ≤ 'F' then some (c.toNat - 'A'.toNat + 10)
  else none

/-- A value is complete: hand it to the container that waits for it. -/
def complete (stack : List Frame) (value : PyJson) : Scanner :=
  match stack with
  | [] => ⟨[], .done value⟩
  | .item items :: rest => ⟨rest, .afterItem (items ++ [value])⟩
  | .member members key :: rest => ⟨rest, .afterMember (members.assign key value)⟩

def number (c : Nat) : List Nat → Nat := List.foldl (fun value digit => value * c + digit) 0

def NumberText.int (t : NumberText) : Int :=
  if t.negative then -(number 10 t.whole : Int) else number 10 t.whole

def NumberText.float (t : NumberText) : Float :=
  let mantissa := number 10 (t.whole ++ t.fraction)
  let exponent : Int :=
    (if t.exponentNegative then -(number 10 t.exponent : Int) else number 10 t.exponent) -
      t.fraction.length
  let value := Float.ofScientific mantissa (exponent < 0) exponent.natAbs
  if t.negative then -value else value

section
variable (interpreter : Interpreter)

/-- The literal ends here. A literal broken off after its integer part has been converted
by then. -/
def closeNumber (phase : NumberPhase) (t : NumberText) : Except LoadsError PyJson :=
  let integer : Except LoadsError PyJson :=
    if t.whole.length > interpreter.maxStrDigits ∧ interpreter.maxStrDigits ≠ 0 then
      .error .intTooLong
    else .ok (.int (NumberText.int t))
  match phase with
  | .zero | .whole => integer
  | .fraction | .exponentDigits => .ok (.float (NumberText.float t))
  | .sign => .error .malformed
  | .point => integer.bind fun _ => .error .malformed
  | .exponent | .exponentSign =>
    if t.fraction = [] then integer.bind fun _ => .error .malformed else .error .malformed

/-- The literal after one more character, or nothing where the character is not part of it. -/
def extendNumber (phase : NumberPhase) (t : NumberText) (c : Char) :
    Option (NumberPhase × NumberText) :=
  match phase, digit? c with
  | .sign, some 0 => some (.zero, { t with whole := [0] })
  | .sign, some d => some (.whole, { t with whole := [d] })
  | .whole, some d => some (.whole, { t with whole := t.whole ++ [d] })
  | .point, some d | .fraction, some d => some (.fraction, { t with fraction := t.fraction ++ [d] })
  | .exponent, some d | .exponentSign, some d | .exponentDigits, some d =>
    some (.exponentDigits, { t with exponent := t.exponent ++ [d] })
  | .zero, none | .whole, none =>
    if c = '.' then some (.point, t)
    else if c = 'e' ∨ c = 'E' then some (.exponent, t)
    else none
  | .fraction, none => if c = 'e' ∨ c = 'E' then some (.exponent, t) else none
  | .exponent, none =>
    if c = '-' then some (.exponentSign, { t with exponentNegative := true })
    else if c = '+' then some (.exponentSign, t)
    else none
  | _, _ => none

/-- The character opens a value. -/
def openValue (stack : List Frame) (c : Char) : Except LoadsError Scanner :=
  if isWhitespace c then .ok ⟨stack, .value⟩
  else match c with
    | '"' => .ok ⟨stack, .string .value [] .none⟩
    | '[' => if stack.length ≥ interpreter.scanDepth then .error .tooDeep else .ok ⟨stack, .firstItem⟩
    | '{' =>
      if stack.length ≥ interpreter.scanDepth then .error .tooDeep else .ok ⟨stack, .firstMember⟩
    | 'n' => .ok ⟨stack, .literal "ull".toList .null⟩
    | 't' => .ok ⟨stack, .literal "rue".toList (.bool true)⟩
    | 'f' => .ok ⟨stack, .literal "alse".toList (.bool false)⟩
    | 'N' => .ok ⟨stack, .literal "aN".toList (.float (0 / 0))⟩
    | 'I' => .ok ⟨stack, .literal "nfinity".toList (.float (1 / 0))⟩
    | '-' => .ok ⟨stack, .number .sign { negative := true }⟩
    | _ =>
      match extendNumber .sign { negative := false } c with
      | some (phase, text) => .ok ⟨stack, .number phase text⟩
      | none => .error .malformed

/-- Where only punctuation may follow. -/
def afterValue (stack : List Frame) (mode : Mode) (c : Char) : Except LoadsError Scanner :=
  if isWhitespace c then .ok ⟨stack, mode⟩
  else match mode, c with
    | .afterItem items, ',' => .ok ⟨.item items :: stack, .value⟩
    | .afterItem items, ']' => .ok (complete stack (.arr items))
    | .afterMember members, ',' => .ok ⟨stack, .nextMember members⟩
    | .afterMember members, '}' => .ok (complete stack (.obj members))
    | .firstMember, '}' => .ok (complete stack (.obj []))
    | .firstMember, '"' => .ok ⟨stack, .string (.key []) [] .none⟩
    | .nextMember members, '"' => .ok ⟨stack, .string (.key members) [] .none⟩
    | .colon members key, ':' => .ok ⟨.member members key :: stack, .value⟩
    | _, _ => .error .malformed

def isHigh (c : CodePoint) : Bool := 0xD800 ≤ c.val && c.val ≤ 0xDBFF

def isLow (c : CodePoint) : Bool := 0xDC00 ≤ c.val && c.val ≤ 0xDFFF

/-- An escaped high surrogate and an escaped low one right after it are one code point. -/
def joinSurrogates : Text → Text
  | high :: low :: rest =>
    if isHigh high ∧ isLow low then
      Fin.ofNat 0x110000 (0x10000 + (high.val - 0xD800) * 0x400 + (low.val - 0xDC00)) ::
        joinSurrogates rest
    else high :: joinSurrogates (low :: rest)
  | text => text

def escaped : Char → Option Char
  | '"' => some '"'
  | '\\' => some '\\'
  | '/' => some '/'
  | 'b' => some '\x08'
  | 'f' => some '\x0c'
  | 'n' => some '\n'
  | 'r' => some '\r'
  | 't' => some '\t'
  | _ => none

def closeString (stack : List Frame) (role : StringRole) (text : Text) : Scanner :=
  match role with
  | .value => complete stack (.str (joinSurrogates text))
  | .key members => ⟨stack, .colon members (joinSurrogates text)⟩

def stringChar (stack : List Frame) (role : StringRole) (text : Text) (escape : Escape) (c : Char) :
    Except LoadsError Scanner :=
  match escape with
  | .none =>
    if c = '"' then .ok (closeString stack role text)
    else if c = '\\' then .ok ⟨stack, .string role text .opened⟩
    else if c.toNat < 0x20 then .error .malformed
    else .ok ⟨stack, .string role (text ++ [CodePoint.ofChar c]) .none⟩
  | .opened =>
    if c = 'u' then .ok ⟨stack, .string role text (.hex 0 0)⟩
    else match escaped c with
      | some plain => .ok ⟨stack, .string role (text ++ [CodePoint.ofChar plain]) .none⟩
      | none => .error .malformed
  | .hex digits value =>
    match hexDigit? c with
    | none => .error .malformed
    | some digit =>
      if digits = 3 then
        .ok ⟨stack, .string role (text ++ [Fin.ofNat 0x110000 (value * 16 + digit)]) .none⟩
      else .ok ⟨stack, .string role text (.hex (digits + 1) (value * 16 + digit))⟩

/-- One character. -/
def step (s : Scanner) (c : Char) : Except LoadsError Scanner :=
  match s.mode with
  | .value => openValue interpreter s.stack c
  | .firstItem =>
    if isWhitespace c then .ok s
    else if c = ']' then .ok (complete s.stack (.arr []))
    else openValue interpreter (.item [] :: s.stack) c
  | .string role text escape => stringChar s.stack role text escape c
  | .number .sign text =>
    if c = 'I' then .ok ⟨s.stack, .literal "nfinity".toList (.float (-1 / 0))⟩
    else match extendNumber .sign text c with
      | some (phase, text) => .ok ⟨s.stack, .number phase text⟩
      | none => .error .malformed
  | .number phase text =>
    match extendNumber phase text c with
    | some (phase, text) => .ok ⟨s.stack, .number phase text⟩
    | none =>
      (closeNumber interpreter phase text).bind fun value =>
        let closed := complete s.stack value
        afterValue closed.stack closed.mode c
  | .literal left value =>
    match left with
    | [last] => if c = last then .ok (complete s.stack value) else .error .malformed
    | next :: left => if c = next then .ok ⟨s.stack, .literal left value⟩ else .error .malformed
    | [] => .error .malformed
  | mode => afterValue s.stack mode c

/-- The document ends here. -/
def finish (s : Scanner) : Except LoadsError PyJson :=
  match s.mode with
  | .done value => .ok value
  | .number phase text =>
    (closeNumber interpreter phase text).bind fun value =>
      match complete s.stack value with
      | ⟨_, .done value⟩ => .ok value
      | _ => .error .malformed
  | _ => .error .malformed

end

end Scanner

/-- `json.loads`. -/
def loads (interpreter : Interpreter) (document : String) : Except LoadsError PyJson :=
  (document.toList.foldlM (Scanner.step interpreter) Scanner.start).bind (Scanner.finish interpreter)

end OpenOntology.Python
