import Mathlib

/-!
# Fenced blocks in a text

A block stands between an opening word and a closing word, and is itself enclosed in brackets; white
space may stand between words and brackets. A reader takes the first opening of the text, and the
block up to the first right bracket with a closing word after it. The laws say when an opening or a
closing of a joined text lies in one of its parts.
-/
namespace OpenOntology.Library

structure Fence (α : Type) where
  space : α → Bool
  opening : List α
  closing : List α
  left : α
  right : α
  closing_ne_nil : closing ≠ []
  closing_solid : ∀ c ∈ closing, space c = false

namespace Fence

variable {α : Type} [DecidableEq α] (f : Fence α)

/-- A closing word comes first, but for white space. -/
def closes (text : List α) : Bool := f.closing.isPrefixOf (text.dropWhile f.space)

/-- Up to the first right bracket with a closing word after it. -/
def body : List α → Option (List α)
  | [] => none
  | c :: rest => if c = f.right ∧ f.closes rest = true then some [c] else (body rest).map (c :: ·)

/-- Some right bracket has a closing word after it. -/
def closed : List α → Bool
  | [] => false
  | c :: rest => (c == f.right && f.closes rest) || closed rest

/-- What stands after the left bracket of an opening at the start of the text. -/
def opened (text : List α) : Option (List α) :=
  if f.opening.isPrefixOf text = true then
    match (text.drop f.opening.length).dropWhile f.space with
    | [] => none
    | c :: rest => if c = f.left then some rest else none
  else none

/-- What stands after the first opening. -/
def firstOpened : List α → Option (List α)
  | [] => none
  | c :: rest => (f.opened (c :: rest)).or (firstOpened rest)

/-- The block of the first opening that has one. -/
def search : List α → Option (List α)
  | [] => none
  | c :: rest =>
    (((f.opened (c :: rest)).bind f.body).map (f.left :: ·)).or (search rest)

/-- The block of the first opening, where it has one. -/
def firstBlock (text : List α) : Option (List α) :=
  ((f.firstOpened text).bind f.body).map (f.left :: ·)

/-- The text does not go on with a part of the closing word. -/
def Apart (text : List α) : Prop := ∀ c ∈ (text.dropWhile f.space).head?, c ∉ f.closing

/-- The text does not go on with a part of the opening. -/
def Bars (text : List α) : Prop :=
  (∀ c ∈ text.head?, c ∉ f.opening) ∧ ∀ c ∈ (text.dropWhile f.space).head?, c ≠ f.left

variable {f}

/-- A word that does not go on in the second part is a prefix of the first. -/
theorem isPrefixOf_append {word first rest : List α} (ends : ∀ c ∈ rest.head?, c ∉ word) :
    word.isPrefixOf (first ++ rest) = word.isPrefixOf first := by
  rw [Bool.eq_iff_iff, List.isPrefixOf_iff_prefix, List.isPrefixOf_iff_prefix]
  constructor
  · intro leads
    rcases List.prefix_or_prefix_of_prefix leads (List.prefix_append first rest) with short | long
    · exact short
    · obtain ⟨more, rfl⟩ := long
      have leads' : more <+: rest := (List.prefix_append_right_inj first).mp leads
      cases more with
      | nil => rw [List.append_nil]
      | cons c more =>
        obtain ⟨later, rfl⟩ := leads'
        exact absurd (List.mem_append_right first List.mem_cons_self) (ends c rfl)
  · exact fun leads => leads.trans (List.prefix_append first rest)

/-! ## Closings -/

omit [DecidableEq α] in
theorem Apart.head {text : List α} (apart : f.Apart text) : ∀ c ∈ text.head?, c ∉ f.closing := by
  intro c first inside
  obtain ⟨rest, rfl⟩ := List.head?_eq_some_iff.mp first
  have solid := f.closing_solid c inside
  refine apart c ?_ inside
  rw [List.dropWhile_cons_of_neg (by rw [solid]; nofun)]
  rfl

theorem Apart.not_closes {text : List α} (apart : f.Apart text) : f.closes text = false := by
  obtain ⟨c, rest, spelled⟩ := List.exists_cons_of_ne_nil f.closing_ne_nil
  rw [Bool.eq_false_iff]
  intro closes
  obtain ⟨later, whole⟩ := List.isPrefixOf_iff_prefix.mp closes
  rw [spelled, List.cons_append] at whole
  refine apart c ?_ (spelled ▸ List.mem_cons_self)
  rw [← whole]
  rfl

theorem closes_append {first rest : List α} (apart : f.Apart rest) :
    f.closes (first ++ rest) = f.closes first := by
  unfold closes
  rw [List.dropWhile_append]
  split
  next white =>
    have none_left : f.closes [] = false := Apart.not_closes nofun
    rw [List.isEmpty_iff.mp white]
    exact apart.not_closes.trans none_left.symm
  next => exact isPrefixOf_append apart.head

theorem closed_append {first rest : List α} (apart : f.Apart rest) :
    f.closed (first ++ rest) = (f.closed first || f.closed rest) := by
  induction first with
  | nil => rfl
  | cons c first ih => rw [List.cons_append, closed, closed, closes_append apart, ih, Bool.or_assoc]

theorem closed_of_not_right {first : List α} (rest : List α) (other : ∀ c ∈ first, c ≠ f.right) :
    f.closed (first ++ rest) = f.closed rest := by
  induction first with
  | nil => rfl
  | cons c first ih =>
    rw [List.cons_append, closed, beq_false_of_ne (other c List.mem_cons_self), Bool.false_and,
      Bool.false_or, ih fun d inside => other d (List.mem_cons_of_mem c inside)]

/-- White space and a closing word close. -/
theorem closes_spelled {white : List α} (blank : ∀ c ∈ white, f.space c = true) (rest : List α) :
    f.closes (white ++ (f.closing ++ rest)) = true := by
  obtain ⟨c, word, spelled⟩ := List.exists_cons_of_ne_nil f.closing_ne_nil
  have solid := f.closing_solid c (spelled ▸ List.mem_cons_self)
  have dropped : (f.closing ++ rest).dropWhile f.space = f.closing ++ rest := by
    rw [spelled, List.cons_append, List.dropWhile_cons_of_neg (by rw [solid]; nofun)]
  unfold closes
  rw [List.dropWhile_append_of_pos blank, dropped]
  exact List.isPrefixOf_iff_prefix.mpr (List.prefix_append f.closing rest)

theorem body_eq_none_iff {text : List α} : f.body text = none ↔ f.closed text = false := by
  induction text with
  | nil => exact iff_of_true rfl rfl
  | cons c rest ih =>
    rw [body, closed]
    by_cases here : c = f.right ∧ f.closes rest = true
    · rw [if_pos here, beq_iff_eq.mpr here.1, here.2]
      simp
    · have open_here : (c == f.right && f.closes rest) = false := by simpa using here
      rw [if_neg here, Option.map_eq_none_iff, ih, open_here, Bool.false_or]

/-- The body of a joined text is that of its first part, or the first part and the body of the
second. -/
theorem body_append {first rest : List α} (apart : f.Apart rest) :
    f.body (first ++ rest) = (f.body first).or ((f.body rest).map (first ++ ·)) := by
  induction first with
  | nil => simp [body]
  | cons c first ih =>
    rw [List.cons_append, body, body, closes_append apart]
    split
    next => rfl
    next =>
      rw [ih]
      cases f.body first with
      | none => cases f.body rest <;> rfl
      | some inside => rfl

/-- A body ends with a right bracket that is closed. -/
theorem body_spec {text inside : List α} (found : f.body text = some inside) :
    ∃ before after, inside = before ++ [f.right] ∧ text = before ++ f.right :: after := by
  induction text generalizing inside with
  | nil => cases found
  | cons c rest ih =>
    rw [body] at found
    split at found
    next here =>
      cases found
      exact ⟨[], rest, congrArg ([·]) here.1, congrArg (· :: rest) here.1⟩
    next =>
      obtain ⟨later, inner, rfl⟩ := Option.map_eq_some_iff.mp found
      obtain ⟨before, after, rfl, rfl⟩ := ih inner
      exact ⟨c :: before, after, rfl, rfl⟩

/-! ## Openings -/

theorem opened_append (first : List α) {rest : List α} (bars : f.Bars rest) :
    f.opened (first ++ rest) = (f.opened first).map (· ++ rest) := by
  unfold opened
  rw [isPrefixOf_append bars.1]
  split
  next leads =>
    have long := (List.isPrefixOf_iff_prefix.mp leads).length_le
    rw [List.drop_append_of_le_length long, List.dropWhile_append]
    by_cases white : ((first.drop f.opening.length).dropWhile f.space).isEmpty = true
    · rw [if_pos white, List.isEmpty_iff.mp white]
      cases inside : rest.dropWhile f.space with
      | nil => rfl
      | cons c later =>
        have other := bars.2 c (by rw [inside]; rfl)
        dsimp only
        rw [if_neg other]
        rfl
    · rw [if_neg white]
      obtain ⟨c, later, spelled⟩ := List.exists_cons_of_ne_nil fun none_left => white
        (List.isEmpty_iff.mpr none_left)
      rw [spelled, List.cons_append]
      dsimp only
      split <;> rfl
  next => rfl

/-- The first opening of a joined text is that of its first part, or that of the second. -/
theorem firstOpened_append {first rest : List α} (bars : f.Bars rest) :
    f.firstOpened (first ++ rest) = ((f.firstOpened first).map (· ++ rest)).or (f.firstOpened rest) := by
  induction first with
  | nil => rfl
  | cons c first ih =>
    have here : f.opened (c :: (first ++ rest)) = (f.opened (c :: first)).map (· ++ rest) :=
      opened_append (c :: first) bars
    rw [List.cons_append, firstOpened, firstOpened, here, ih]
    cases f.opened (c :: first) <;> rfl

/-- What cannot start an opening is passed over. -/
theorem firstOpened_pass {first : List α} (other : ∀ c ∈ first, ∃ d ∈ f.opening.head?, d ≠ c)
    (rest : List α) : f.firstOpened (first ++ rest) = f.firstOpened rest := by
  induction first with
  | nil => rfl
  | cons c first ih =>
    obtain ⟨d, starts, apart⟩ := other c List.mem_cons_self
    obtain ⟨word, spelled⟩ := List.head?_eq_some_iff.mp starts
    have unopened : f.opened (c :: (first ++ rest)) = none := by
      rw [opened, spelled, List.isPrefixOf_cons_cons, beq_false_of_ne apart, Bool.false_and]
      exact if_neg Bool.false_ne_true
    rw [List.cons_append, firstOpened, unopened, Option.none_or,
      ih fun d inside => other d (List.mem_cons_of_mem c inside)]

/-- An opening, white space and a left bracket open. -/
theorem opened_spelled {white : List α} (blank : ∀ c ∈ white, f.space c = true)
    (solid : f.space f.left = false) (rest : List α) :
    f.opened (f.opening ++ (white ++ f.left :: rest)) = some rest := by
  have leads := List.isPrefixOf_iff_prefix.mpr (List.prefix_append f.opening (white ++ f.left :: rest))
  unfold opened
  rw [if_pos leads, List.drop_left, List.dropWhile_append_of_pos blank,
    List.dropWhile_cons_of_neg (by rw [solid]; nofun)]
  exact if_pos rfl

theorem firstOpened_of_opened {text after : List α} (opened : f.opened text = some after)
    (solid : text ≠ []) : f.firstOpened text = some after := by
  obtain ⟨c, rest, rfl⟩ := List.exists_cons_of_ne_nil solid
  rw [firstOpened, opened, Option.some_or]

/-! ## Blocks -/

/-- The block of the first opening, where it is closed, is the block of the text. -/
theorem search_eq_some {text after inside : List α} (first : f.firstOpened text = some after)
    (found : f.body after = some inside) : f.search text = some (f.left :: inside) := by
  induction text with
  | nil => cases first
  | cons c rest ih =>
    rw [firstOpened] at first
    rw [search]
    cases here : f.opened (c :: rest) with
    | none =>
      rw [here] at first
      rw [ih first]
      rfl
    | some start =>
      rw [here] at first
      cases first
      rw [Option.bind_some, found]
      rfl

end Fence

end OpenOntology.Library
