import Mathlib.Data.List.Basic

/-!
# Texts between quotes

A text is written between quotes, with an escape for every character that must not stand
there as itself. Reading up to the first quote that is not escaped gives the text back.
-/
namespace OpenOntology.Library

/-- The quote, the marker of an escape, and what stands for a character after the marker. -/
structure Quoting (α : Type*) where
  quote : α
  marker : α
  code : α → Option α
  decode : α → Option α
  decodes : ∀ c d, code c = some d → decode d = some c
  marked : (code marker).isSome
  quoted : (code quote).isSome
  apart : marker ≠ quote

namespace Quoting

variable {α : Type*} (Q : Quoting α)

def escapeOne (c : α) : List α :=
  match Q.code c with
  | some d => [Q.marker, d]
  | none => [c]

def escape (text : List α) : List α := text.flatMap Q.escapeOne

@[simp] theorem escape_nil : Q.escape [] = [] := rfl

@[simp] theorem escape_cons (c : α) (text : List α) :
    Q.escape (c :: text) = Q.escapeOne c ++ Q.escape text := rfl

variable {Q}

theorem plain {c : α} (plain : Q.code c = none) : c ≠ Q.quote ∧ c ≠ Q.marker := by
  constructor
  · rintro rfl
    have quoted := Q.quoted
    rw [plain] at quoted
    cases quoted
  · rintro rfl
    have marked := Q.marked
    rw [plain] at marked
    cases marked

section
variable [DecidableEq α] (Q)

/-- The text up to the closing quote, and what follows it. `pending` after a marker. -/
def read : Bool → List α → Option (List α × List α)
  | _, [] => none
  | true, d :: rest =>
    (Q.decode d).bind fun c => (read false rest).map fun done => (c :: done.1, done.2)
  | false, c :: rest =>
    if c = Q.quote then some ([], rest)
    else if c = Q.marker then read true rest
    else (read false rest).map fun done => (c :: done.1, done.2)

variable {Q}

/-- Reading undoes escaping, whatever follows the closing quote. -/
theorem read_escape (text rest : List α) :
    Q.read false (Q.escape text ++ Q.quote :: rest) = some (text, rest) := by
  induction text with
  | nil => simp [read]
  | cons c text ih =>
    rw [escape_cons, escapeOne]
    cases coded : Q.code c with
    | some d =>
      have decoded := Q.decodes c d coded
      simp [read, Q.apart, decoded, ih]
    | none =>
      obtain ⟨not_quote, not_marker⟩ := plain coded
      simp [read, not_quote, not_marker, ih]

end

/-- A character that is escaped, and stands for no other, does not occur in an escaped text. -/
theorem not_mem_escape {x : α} (coded : (Q.code x).isSome) (unused : ∀ c, Q.code c ≠ some x)
    (other : x ≠ Q.marker) (text : List α) : x ∉ Q.escape text := by
  induction text with
  | nil => simp
  | cons c text ih =>
    rw [escape_cons, List.mem_append, escapeOne]
    cases replaced : Q.code c with
    | some d =>
      have different : x ≠ d := fun same => unused c (same ▸ replaced)
      simp [other, different, ih]
    | none =>
      have different : x ≠ c := by
        rintro rfl
        rw [replaced] at coded
        cases coded
      simp [different, ih]

end Quoting

/-- A text of ended lines splits into its lines, and nothing behind the last of them. -/
theorem dropLast_splitOn {α : Type*} [DecidableEq α] {feed : α} (lines : List (List α))
    (within : ∀ line ∈ lines, feed ∉ line) :
    ((lines.flatMap fun line => line ++ [feed]).splitOn feed).dropLast = lines := by
  induction lines with
  | nil => rfl
  | cons line rest ih =>
    have later := ih fun l member => within l (List.mem_cons_of_mem line member)
    rw [List.flatMap_cons, List.append_assoc, List.singleton_append,
      List.splitOn_append_cons_self_of_not_mem (within line List.mem_cons_self),
      List.dropLast_cons_of_ne_nil (List.splitOn_ne_nil _ _), later]

end OpenOntology.Library
