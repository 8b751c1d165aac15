import OpenOntology.Python.Json

/-!
# Python's JSON encoder

`json.dumps` with an indent and sorted keys: every dictionary is written in the order of its keys,
every container that is not empty over several lines, and every character outside ASCII as an
escape. It raises where an integer has more digits than the interpreter converts.
-/
namespace OpenOntology.Python

/-- `str(n)` does not raise. -/
def Interpreter.prints (interpreter : Interpreter) (n : Int) : Bool :=
  interpreter.maxStrDigits == 0 || (toString n.natAbs).length ≤ interpreter.maxStrDigits

/-! ## Strings -/

def hex4 (n : Nat) : List Char :=
  [Nat.digitChar (n / 4096 % 16), Nat.digitChar (n / 256 % 16), Nat.digitChar (n / 16 % 16),
    Nat.digitChar (n % 16)]

def escapeUnit (n : Nat) : List Char := '\\' :: 'u' :: hex4 n

/-- One code point of `py_encode_basestring_ascii`; one above the first plane is a pair. -/
def escapeChar (c : CodePoint) : List Char :=
  if c.val = 0x22 then ['\\', '"']
  else if c.val = 0x5C then ['\\', '\\']
  else if c.val = 0x0A then ['\\', 'n']
  else if c.val = 0x0D then ['\\', 'r']
  else if c.val = 0x09 then ['\\', 't']
  else if c.val = 0x0C then ['\\', 'f']
  else if c.val = 0x08 then ['\\', 'b']
  else if 0x20 ≤ c.val ∧ c.val ≤ 0x7E then [Char.ofNat c.val]
  else if c.val < 0x10000 then escapeUnit c.val
  else escapeUnit (0xD800 + (c.val - 0x10000) / 0x400) ++
    escapeUnit (0xDC00 + (c.val - 0x10000) % 0x400)

def quote (s : Text) : List Char := '"' :: (s.flatMap escapeChar ++ ['"'])

/-! ## Values -/

section
variable (interpreter : Interpreter) (repr : Float → String) (indent : Nat)

/-- `floatstr`, with `float.__repr__` for the finite floats. -/
def floatText (x : Float) : List Char :=
  if x != x then "NaN".toList
  else if x == 1 / 0 then "Infinity".toList
  else if x == -1 / 0 then "-Infinity".toList
  else (repr x).toList

def breakLine (level : Nat) : List Char := '\n' :: List.replicate (indent * level) ' '

namespace PyJson

mutual

def render (level : Nat) : PyJson → List Char
  | .null => "null".toList
  | .bool true => "true".toList
  | .bool false => "false".toList
  | .int n => (toString n).toList
  | .float x => floatText repr x
  | .str s => quote s
  | .arr [] => "[]".toList
  | .arr (item :: rest) =>
    '[' :: (breakLine indent (level + 1) ++ (render (level + 1) item ++ renderItems level rest))
  | .obj [] => ['{', '}']
  | .obj ((key, value) :: rest) =>
    '{' :: (breakLine indent (level + 1) ++ (quote key ++ ':' :: ' ' ::
      (render (level + 1) value ++ renderMembers level rest)))

/-- The items after the first, and the end of the list. -/
def renderItems (level : Nat) : List PyJson → List Char
  | [] => breakLine indent level ++ [']']
  | item :: rest => ',' :: (breakLine indent (level + 1) ++
      (render (level + 1) item ++ renderItems level rest))

def renderMembers (level : Nat) : List (Text × PyJson) → List Char
  | [] => breakLine indent level ++ ['}']
  | (key, value) :: rest => ',' :: (breakLine indent (level + 1) ++ (quote key ++ ':' :: ' ' ::
      (render (level + 1) value ++ renderMembers level rest)))

end

mutual

/-- Every integer is printed. -/
def prints : PyJson → Bool
  | .int n => interpreter.prints n
  | .arr items => printsItems items
  | .obj members => printsMembers members
  | _ => true

def printsItems : List PyJson → Bool
  | [] => true
  | item :: rest => item.prints && printsItems rest

def printsMembers : List (Text × PyJson) → Bool
  | [] => true
  | (_, value) :: rest => value.prints && printsMembers rest

end

mutual

/-- The document with every dictionary in the order of its keys. -/
def sortKeys : PyJson → PyJson
  | .arr items => .arr (sortKeysItems items)
  | .obj members => .obj ((sortKeysMembers members).mergeSort fun a b => a.1 ≤ b.1)
  | value => value

def sortKeysItems : List PyJson → List PyJson
  | [] => []
  | item :: rest => item.sortKeys :: sortKeysItems rest

def sortKeysMembers : List (Text × PyJson) → List (Text × PyJson)
  | [] => []
  | (key, value) :: rest => (key, value.sortKeys) :: sortKeysMembers rest

end

end PyJson

/-- `json.dumps(document, indent=indent, sort_keys=True)`, or nothing where it raises. -/
def dumps (document : PyJson) : Option String :=
  if document.prints interpreter = true then
    some (String.ofList (document.sortKeys.render repr indent 0))
  else none

end

/-! ## Equality -/

/-- The integer is the value of the float. -/
def floatIs (x : Float) (n : Int) : Bool :=
  match x.toModel.unpack with
  | .finite sign mantissa exponent _ =>
    let value : Int := match sign with
      | .positive => mantissa
      | .negative => -mantissa
    value * 2 ^ exponent.toNat == n * 2 ^ (-exponent).toNat
  | _ => false

namespace PyJson

def asInt : PyJson → Option Int
  | .bool value => some (if value then 1 else 0)
  | .int n => some n
  | _ => none

mutual

/-- `a == b`: numbers by their value, dictionaries whatever the order of their keys. -/
def equal : PyJson → PyJson → Bool
  | .null, .null => true
  | .str s, .str t => s == t
  | .arr items, .arr others => equalItems items others
  | .obj members, .obj others => members.length == others.length && equalMembers members others
  | .float x, .float y => x == y
  | .float x, other => other.asInt.any (floatIs x)
  | .bool value, .float y => floatIs y (if value then 1 else 0)
  | .int n, .float y => floatIs y n
  | .bool value, other => other.asInt == some (if value then 1 else 0)
  | .int n, other => other.asInt == some n
  | _, _ => false

def equalItems : List PyJson → List PyJson → Bool
  | [], [] => true
  | item :: rest, other :: others => item.equal other && equalItems rest others
  | _, _ => false

def equalMembers : List (Text × PyJson) → Members → Bool
  | [], _ => true
  | (key, value) :: rest, others =>
    (match others.get key with
      | some other => value.equal other
      | none => false) && equalMembers rest others

end

end PyJson

end OpenOntology.Python
