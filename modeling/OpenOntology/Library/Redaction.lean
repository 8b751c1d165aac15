import Mathlib.Data.List.Basic

/-!
# Redaction

A record with some of its keys taken out: what is left is read as before, and does not depend
on what stood under the keys that were taken out.
-/
namespace OpenOntology.Library

variable {κ α : Type*} [BEq κ] [LawfulBEq κ]

/-- The entries of the record under keys that are not hidden. -/
def redact (hidden : κ → Bool) (record : List (κ × α)) : List (κ × α) :=
  record.filter fun entry => !hidden entry.1

theorem lookup_redact (hidden : κ → Bool) (record : List (κ × α)) (key : κ) :
    (redact hidden record).lookup key = if hidden key then none else record.lookup key := by
  induction record with
  | nil =>
    unfold redact
    rw [List.filter_nil, List.lookup_nil, ite_self]
  | cons entry rest ih =>
    obtain ⟨held, value⟩ := entry
    unfold redact at ih ⊢
    rw [List.filter_cons, List.lookup_cons]
    by_cases same : key = held
    · subst same
      cases concealed : hidden key with
      | true => simpa [concealed] using ih
      | false => simp
    · have differs : (key == held) = false := beq_false_of_ne same
      cases hidden held with
      | true => simpa [differs] using ih
      | false => simpa [List.lookup_cons, differs] using ih

theorem lookup_redact_hidden {hidden : κ → Bool} (record : List (κ × α)) {key : κ}
    (concealed : hidden key = true) : (redact hidden record).lookup key = none := by
  rw [lookup_redact, if_pos concealed]

theorem lookup_redact_shown {hidden : κ → Bool} (record : List (κ × α)) {key : κ}
    (shown : hidden key = false) : (redact hidden record).lookup key = record.lookup key := by
  rw [lookup_redact, shown, if_neg Bool.false_ne_true]

/-- Records that read alike where nothing is hidden have redactions that read alike. -/
theorem redact_determined {hidden : κ → Bool} {first second : List (κ × α)}
    (alike : ∀ key, hidden key = false → first.lookup key = second.lookup key) (key : κ) :
    (redact hidden first).lookup key = (redact hidden second).lookup key := by
  rw [lookup_redact, lookup_redact]
  cases shown : hidden key with
  | true => rfl
  | false => exact alike key shown

end OpenOntology.Library
