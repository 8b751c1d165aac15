import OpenOntology.Library.Quoting
import OpenOntology.Resolution.Metrics
import Mathlib.Data.String.Basic

/-!
# The metrics page

`renderExposition` writes samples as a text a scraper reads line by line: the samples of one
family stand together, announced once by their HELP and TYPE lines. The scraper's reading is
stated here, too; whatever a label's value holds, it reads back the samples that were
rendered.
-/
namespace OpenOntology.Resolution

open Library

/-- `escapeLabelValue`: the three escapes of the text format. -/
def labelQuoting : Quoting Char where
  quote := '"'
  marker := '\\'
  code := fun c =>
    if c = '\\' then some '\\' else if c = '"' then some '"' else if c = '\n' then some 'n' else none
  decode := fun c =>
    if c = '\\' then some '\\' else if c = '"' then some '"' else if c = 'n' then some '\n' else none
  decodes := by
    intro c d coded
    split at coded
    next marker =>
      cases coded
      exact congrArg some marker.symm
    next =>
      split at coded
      next quote =>
        cases coded
        exact congrArg some quote.symm
      next =>
        split at coded
        next feed =>
          cases coded
          exact congrArg some feed.symm
        next => cases coded
  marked := rfl
  quoted := rfl
  apart := by decide

def escapeLabelValue (value : String) : String := String.ofList (labelQuoting.escape value.toList)

structure MetricSample where
  name : String
  help : String
  type : String
  value : Float
  labels : Std.ExtTreeMap String String := ∅

namespace MetricSample

/-- The loop of `labelPairs` over the sorted keys. -/
def renderPairs : Bool → List (String × String) → String
  | _, [] => ""
  | first, (key, value) :: rest =>
    (if first then "" else ",") ++ key ++ "=\"" ++ escapeLabelValue value ++ "\"" ++
      renderPairs false rest

def labelPairs (s : MetricSample) : String :=
  if s.labels.isEmpty then "" else "\x7b" ++ renderPairs true s.labels.toList ++ "\x7d"

/-- The order `renderExposition` sorts by. -/
def before (a b : MetricSample) : Bool :=
  if a.name ≠ b.name then a.name < b.name else a.labelPairs < b.labelPairs

end MetricSample

section
variable (formatG : Float → String)

/-- The loop of `renderExposition`; `lastName` is none before the first sample. -/
def renderFrom : Option String → List MetricSample → String
  | _, [] => ""
  | lastName, s :: rest =>
    (if lastName = some s.name then ""
      else "# HELP " ++ s.name ++ " " ++ s.help ++ "\n" ++
        "# TYPE " ++ s.name ++ " " ++ s.type ++ "\n") ++
      (s.name ++ s.labelPairs ++ " " ++ formatG s.value ++ "\n") ++ renderFrom (some s.name) rest

/-- `renderExposition`. The sort of the library is not stable: any order of the samples in
which none stands before a smaller one may be the one rendered. -/
def Renders (samples : List MetricSample) (text : String) : Prop :=
  ∃ sorted : List MetricSample, sorted.Perm samples ∧
    sorted.Pairwise (fun a b => b.before a = false) ∧ text = renderFrom formatG none sorted

end

section
variable (formatG : Float → String)

/-- `renderExposition` under a stable sort. -/
def renderExposition (samples : List MetricSample) : String :=
  renderFrom formatG none (samples.mergeSort fun a b => !b.before a)

theorem MetricSample.before_iff (a b : MetricSample) :
    a.before b = true ↔ a.name < b.name ∨ (a.name = b.name ∧ a.labelPairs < b.labelPairs) := by
  unfold before
  by_cases same : a.name = b.name
  · simp [same]
  · simp [same]

theorem renders_renderExposition (samples : List MetricSample) :
    Renders formatG samples (renderExposition formatG samples) := by
  refine ⟨_, List.mergeSort_perm _ _, ?_, rfl⟩
  have sorted := @List.pairwise_mergeSort _ (fun a b : MetricSample => !b.before a) ?_ ?_ samples
  · exact sorted.imp fun ordered => by simpa using ordered
  · intro a b c ab bc
    simp only [Bool.not_eq_true', Bool.eq_false_iff, ne_eq, MetricSample.before_iff] at ab bc ⊢
    push Not at ab bc ⊢
    refine ⟨ab.1.trans bc.1, fun same => ?_⟩
    have first : b.name = a.name := le_antisymm (same ▸ bc.1) ab.1
    exact (ab.2 first).trans (bc.2 (same.trans first.symm))
  · intro a b
    simp only [Bool.or_eq_true, Bool.not_eq_true', Bool.eq_false_iff, ne_eq,
      MetricSample.before_iff]
    by_cases smaller : b.name < a.name ∨ (b.name = a.name ∧ b.labelPairs < a.labelPairs)
    · refine Or.inr ?_
      push Not
      rcases smaller with below | ⟨same, below⟩
      · exact ⟨le_of_lt below, fun equal => absurd equal (ne_of_gt below)⟩
      · exact ⟨le_of_eq same, fun _ => le_of_lt below⟩
    · exact Or.inl smaller

end

/-! ## What a scraper reads -/

inductive Line where
  | help (name text : List Char)
  | type (name text : List Char)
  | series (name : List Char) (labels : List (List Char × List Char)) (value : List Char)

/-- A metric family: its name, its HELP and TYPE, its series with their labels and values. -/
structure Family where
  name : List Char
  help : List Char
  type : Option (List Char) := none
  series : List (List (List Char × List Char) × List Char) := []

def nameChar (c : Char) : Bool := c.isAlphanum || c == '_' || c == ':'

/-- The labels up to the closing brace; the fuel bounds their number. -/
def readPairs : ℕ → List Char → Option (List (List Char × List Char) × List Char)
  | 0, _ => none
  | fuel + 1, text =>
    let key := text.takeWhile (· ≠ '=')
    match text.dropWhile (· ≠ '=') with
    | '=' :: '"' :: rest =>
      match labelQuoting.read false rest with
      | some (value, ',' :: rest) =>
        (readPairs fuel rest).map fun done => ((key, value) :: done.1, done.2)
      | some (value, '}' :: rest) => some ([(key, value)], rest)
      | _ => none
    | _ => none

def readSeries (text : List Char) : Option Line :=
  let name := text.takeWhile nameChar
  match text.dropWhile nameChar with
  | '{' :: rest =>
    match readPairs rest.length rest with
    | some (labels, ' ' :: value) => some (.series name labels value)
    | _ => none
  | ' ' :: value => some (.series name [] value)
  | _ => none

/-- A word, and what follows the blank behind it. -/
def readWord (text : List Char) : List Char × List Char :=
  (text.takeWhile (· ≠ ' '), (text.dropWhile (· ≠ ' ')).drop 1)

def readLine (text : List Char) : Option Line :=
  match text with
  | '#' :: ' ' :: 'H' :: 'E' :: 'L' :: 'P' :: ' ' :: rest =>
    some (.help (readWord rest).1 (readWord rest).2)
  | '#' :: ' ' :: 'T' :: 'Y' :: 'P' :: 'E' :: ' ' :: rest =>
    some (.type (readWord rest).1 (readWord rest).2)
  | text => readSeries text

/-- What a line makes of the families read so far, the latest first. A family is announced
once, by HELP and then TYPE, and its series follow at once. -/
def readFamily (families : List Family) (text : List Char) : Option (List Family) :=
  match readLine text with
  | none => none
  | some (.help name help) =>
    if name ∈ families.map Family.name then none else some ({ name, help } :: families)
  | some (.type name type) =>
    match families with
    | f :: older =>
      if f.name = name ∧ f.type = none then some ({ f with type := some type } :: older) else none
    | [] => none
  | some (.series name labels value) =>
    match families with
    | f :: older =>
      if f.name = name ∧ f.type.isSome then
        some ({ f with series := f.series ++ [(labels, value)] } :: older)
      else none
    | [] => none

/-- The page, read line by line. -/
def readExposition (page : String) : Option (List Family) :=
  ((page.toList.splitOn '\n').dropLast.foldlM readFamily []).map List.reverse

/-! ## Reading one line -/

/-- Up to the first character that ends a word, and from there on. -/
theorem span_word {p : Char → Bool} {word : List Char} (rest : List Char) (stop : Char)
    (inside : ∀ c ∈ word, p c = true) (stops : p stop = false) :
    (word ++ stop :: rest).takeWhile p = word ∧
      (word ++ stop :: rest).dropWhile p = stop :: rest := by
  induction word with
  | nil => simp [stops]
  | cons c word ih =>
    obtain ⟨taken, left⟩ := ih fun d member => inside d (List.mem_cons_of_mem c member)
    have first := inside c List.mem_cons_self
    simp [first, taken, left]

theorem not_mem_escapeLabelValue (value : List Char) : '\n' ∉ labelQuoting.escape value := by
  refine Quoting.not_mem_escape rfl ?_ (by decide) value
  intro c coded
  simp only [labelQuoting] at coded
  split at coded
  next => cases coded
  next =>
    split at coded
    next => cases coded
    next =>
      split at coded
      next => cases coded
      next => cases coded

theorem renderPairs_cons (first : Bool) (key value : String) (rest : List (String × String)) :
    (MetricSample.renderPairs first ((key, value) :: rest)).toList =
      (if first then [] else [',']) ++ (key.toList ++ '=' :: '"' ::
        (labelQuoting.escape value.toList ++ '"' ::
          (MetricSample.renderPairs false rest).toList)) := by
  cases first <;> simp [MetricSample.renderPairs, escapeLabelValue]

/-- A label's name ends at its equals sign. -/
def Keyed (labels : List (String × String)) : Prop :=
  ∀ label ∈ labels, ∀ c ∈ label.1.toList, c ≠ '=' ∧ c ≠ '\n'

def chars (label : String × String) : List Char × List Char := (label.1.toList, label.2.toList)

theorem readPairs_render {labels : List (String × String)} (keyed : Keyed labels)
    (some_label : labels ≠ []) (fuel : ℕ) (enough : labels.length ≤ fuel) (rest : List Char) :
    readPairs fuel ((MetricSample.renderPairs true labels).toList ++ '}' :: rest) =
      some (labels.map chars, rest) := by
  induction labels generalizing fuel with
  | nil => exact absurd rfl some_label
  | cons label labels ih =>
    obtain ⟨key, value⟩ := label
    cases fuel with
    | zero => simp at enough
    | succ fuel =>
      have names : ∀ c ∈ key.toList, decide (c ≠ '=') = true := fun c member =>
        decide_eq_true (keyed (key, value) List.mem_cons_self c member).1
      rw [renderPairs_cons, if_pos rfl, List.nil_append, List.append_assoc, List.cons_append,
        List.cons_append, List.append_assoc, List.cons_append]
      unfold readPairs
      obtain ⟨taken, left⟩ := span_word ('"' :: (labelQuoting.escape value.toList ++
        '"' :: ((MetricSample.renderPairs false labels).toList ++ '}' :: rest))) '=' names (by simp)
      have value_read := @Quoting.read_escape Char labelQuoting _ value.toList
        ((MetricSample.renderPairs false labels).toList ++ '}' :: rest)
      have quote : labelQuoting.quote = '"' := rfl
      rw [quote] at value_read
      rw [taken, left]
      simp only [value_read]
      cases labels with
      | nil => rfl
      | cons next labels =>
        obtain ⟨key', value'⟩ := next
        have later := ih (fun label member => keyed label (List.mem_cons_of_mem _ member))
          (List.cons_ne_nil _ _) fuel (by simpa using enough)
        rw [renderPairs_cons] at later ⊢
        rw [if_pos rfl, List.nil_append] at later
        rw [if_neg Bool.noConfusion, List.singleton_append, List.cons_append]
        simp only [later]
        rfl

/-- What a scraper makes of a sample's labels and value. -/
def MetricSample.series (formatG : Float → String) (s : MetricSample) :
    List (List Char × List Char) × List Char :=
  (s.labels.toList.map chars, (formatG s.value).toList)

/-- A sample in the shape the text format asks for. -/
structure MetricSample.Valid (s : MetricSample) : Prop where
  name : s.name.toList ≠ [] ∧ ∀ c ∈ s.name.toList, nameChar c = true
  help : '\n' ∉ s.help.toList
  type : '\n' ∉ s.type.toList
  keyed : Keyed s.labels.toList

theorem renderPairs_length (first : Bool) (labels : List (String × String)) :
    labels.length ≤ (MetricSample.renderPairs first labels).toList.length := by
  induction labels generalizing first with
  | nil => exact Nat.zero_le _
  | cons label labels ih =>
    rw [renderPairs_cons]
    have later := ih false
    simp only [List.length_cons, List.length_append] at later ⊢
    omega

/-- The line of a sample is read as its series. -/
theorem readLine_series (formatG : Float → String) {s : MetricSample} (valid : s.Valid) :
    readLine (s.name ++ s.labelPairs ++ " " ++ formatG s.value).toList =
      some (.series s.name.toList (s.series formatG).1 (s.series formatG).2) := by
  have comment : readLine (s.name ++ s.labelPairs ++ " " ++ formatG s.value).toList =
      readSeries (s.name ++ s.labelPairs ++ " " ++ formatG s.value).toList := by
    obtain ⟨some_name, named⟩ := valid.name
    simp only [String.toList_append, List.append_assoc]
    cases chars : s.name.toList with
    | nil => exact absurd chars some_name
    | cons c rest =>
      have not_hash : c ≠ '#' := by
        rintro rfl
        exact absurd (named '#' (chars ▸ List.mem_cons_self)) (by decide)
      unfold readLine
      split
      next starts => exact absurd (List.cons.inj starts).1 not_hash
      next starts => exact absurd (List.cons.inj starts).1 not_hash
      next => rfl
  rw [comment]
  unfold readSeries MetricSample.series MetricSample.labelPairs
  by_cases unlabelled : s.labels.isEmpty = true
  · rw [if_pos unlabelled]
    have none_there : s.labels.toList = [] := by
      rw [Std.ExtTreeMap.isEmpty_iff.mp unlabelled]
      rfl
    simp only [String.toList_append, String.append_empty]
    have blank : (" " : String).toList = [' '] := rfl
    rw [blank, List.append_assoc, List.singleton_append]
    obtain ⟨taken, left⟩ := span_word (formatG s.value).toList ' ' valid.name.2 (by decide)
    rw [taken, left, none_there]
    rfl
  · rw [if_neg unlabelled]
    have some_label : s.labels.toList ≠ [] := by
      intro nil
      apply unlabelled
      rw [Std.ExtTreeMap.isEmpty_iff, Std.ExtTreeMap.toList_eq_nil_iff.mp nil]
    have shape : (s.name ++ ("\x7b" ++ MetricSample.renderPairs true s.labels.toList ++ "\x7d") ++ " " ++
        formatG s.value).toList = s.name.toList ++ '{' ::
          ((MetricSample.renderPairs true s.labels.toList).toList ++
            '}' :: ' ' :: (formatG s.value).toList) := by
      simp [String.toList_append]
    rw [shape]
    obtain ⟨taken, left⟩ := span_word ((MetricSample.renderPairs true s.labels.toList).toList ++
      '}' :: ' ' :: (formatG s.value).toList) '{' valid.name.2 (by decide)
    have counted := renderPairs_length true s.labels.toList
    have pairs := readPairs_render valid.keyed some_label
      ((MetricSample.renderPairs true s.labels.toList).toList ++
        '}' :: ' ' :: (formatG s.value).toList).length
      (by rw [List.length_append]; omega) (' ' :: (formatG s.value).toList)
    rw [taken, left]
    simp only [pairs]

/-! ## Reading the lines of a page -/

section
variable (formatG : Float → String)

def helpLine (s : MetricSample) : List Char := ("# HELP " ++ s.name ++ " " ++ s.help).toList

def typeLine (s : MetricSample) : List Char := ("# TYPE " ++ s.name ++ " " ++ s.type).toList

def seriesLine (s : MetricSample) : List Char :=
  (s.name ++ s.labelPairs ++ " " ++ formatG s.value).toList

def linesFrom : Option String → List MetricSample → List (List Char)
  | _, [] => []
  | lastName, s :: rest =>
    (if lastName = some s.name then [] else [helpLine s, typeLine s]) ++
      seriesLine formatG s :: linesFrom (some s.name) rest

theorem renderFrom_toList (lastName : Option String) (samples : List MetricSample) :
    (renderFrom formatG lastName samples).toList =
      (linesFrom formatG lastName samples).flatMap fun line => line ++ ['\n'] := by
  induction samples generalizing lastName with
  | nil => rfl
  | cons s rest ih =>
    unfold renderFrom linesFrom
    split
    next => simp [ih, seriesLine]
    next => simp [ih, seriesLine, helpLine, typeLine]

variable {formatG}

theorem MetricSample.Valid.feedless {s : MetricSample} (valid : s.Valid) : '\n' ∉ s.name.toList :=
  fun member => absurd (valid.name.2 '\n' member) (by decide)

theorem not_mem_renderPairs {labels : List (String × String)} (keyed : Keyed labels) (first : Bool) :
    '\n' ∉ (MetricSample.renderPairs first labels).toList := by
  induction labels generalizing first with
  | nil => exact List.not_mem_nil
  | cons label labels ih =>
    obtain ⟨key, value⟩ := label
    have later := ih (fun label member => keyed label (List.mem_cons_of_mem _ member)) false
    have named : '\n' ∉ key.toList := fun member =>
      (keyed (key, value) List.mem_cons_self '\n' member).2 rfl
    have escaped := not_mem_escapeLabelValue value.toList
    rw [renderPairs_cons]
    cases first <;> simp [named, escaped, later]

theorem not_mem_seriesLine {s : MetricSample} (valid : s.Valid)
    (plain : ∀ v, '\n' ∉ (formatG v).toList) : '\n' ∉ seriesLine formatG s := by
  have name := valid.feedless
  have labels := not_mem_renderPairs valid.keyed true
  have value := plain s.value
  unfold seriesLine MetricSample.labelPairs
  split <;> simp [name, labels, value]

theorem not_mem_linesFrom {samples : List MetricSample} (valid : ∀ s ∈ samples, s.Valid)
    (plain : ∀ v, '\n' ∉ (formatG v).toList) (lastName : Option String) :
    ∀ line ∈ linesFrom formatG lastName samples, '\n' ∉ line := by
  induction samples generalizing lastName with
  | nil => exact fun line member => absurd member List.not_mem_nil
  | cons s rest ih =>
    have sound := valid s List.mem_cons_self
    have later := ih (fun s member => valid s (List.mem_cons_of_mem _ member)) (some s.name)
    have name := sound.feedless
    have help := sound.help
    have type := sound.type
    have series := not_mem_seriesLine sound plain
    intro line member
    unfold linesFrom at member
    rcases List.mem_append.mp member with announced | rest_line
    · split at announced
      next => cases announced
      next =>
        simp only [List.mem_cons, List.not_mem_nil, or_false] at announced
        rcases announced with rfl | rfl
        · simp [helpLine, name, help]
        · simp [typeLine, name, type]
    · rcases List.mem_cons.mp rest_line with rfl | member
      · exact series
      · exact later line member

theorem readWord_name {s : MetricSample} (valid : s.Valid) (rest : List Char) :
    readWord (s.name.toList ++ ' ' :: rest) = (s.name.toList, rest) := by
  have inside : ∀ c ∈ s.name.toList, decide (c ≠ ' ') = true := by
    intro c member
    refine decide_eq_true ?_
    rintro rfl
    exact absurd (valid.name.2 ' ' member) (by decide)
  obtain ⟨taken, left⟩ := span_word rest ' ' inside (by decide)
  unfold readWord
  rw [taken, left]
  rfl

theorem readLine_help {s : MetricSample} (valid : s.Valid) :
    readLine (helpLine s) = some (.help s.name.toList s.help.toList) := by
  have shape : helpLine s =
      '#' :: ' ' :: 'H' :: 'E' :: 'L' :: 'P' :: ' ' :: (s.name.toList ++ ' ' :: s.help.toList) := by
    simp [helpLine]
  rw [shape]
  unfold readLine
  simp only [readWord_name valid]

theorem readLine_type {s : MetricSample} (valid : s.Valid) :
    readLine (typeLine s) = some (.type s.name.toList s.type.toList) := by
  have shape : typeLine s =
      '#' :: ' ' :: 'T' :: 'Y' :: 'P' :: 'E' :: ' ' :: (s.name.toList ++ ' ' :: s.type.toList) := by
    simp [typeLine]
  rw [shape]
  unfold readLine
  simp only [readWord_name valid]

/-- A further series of the family that was announced last. -/
theorem readFamily_series {s : MetricSample} (valid : s.Valid) {f : Family} (older : List Family)
    (same : f.name = s.name.toList) (typed : f.type.isSome) :
    readFamily (f :: older) (seriesLine formatG s) =
      some ({ f with series := f.series ++ [s.series formatG] } :: older) := by
  unfold readFamily seriesLine
  rw [readLine_series formatG valid]
  dsimp only
  rw [if_pos ⟨same, typed⟩]

/-- The announcement of a new family, with its first series. -/
theorem readFamily_announced {s : MetricSample} (valid : s.Valid) {families : List Family}
    (unseen : s.name.toList ∉ families.map Family.name) :
    [helpLine s, typeLine s, seriesLine formatG s].foldlM readFamily families =
      some (⟨s.name.toList, s.help.toList, some s.type.toList, [s.series formatG]⟩ :: families) := by
  have help : readFamily families (helpLine s) =
      some ({ name := s.name.toList, help := s.help.toList } :: families) := by
    unfold readFamily
    rw [readLine_help valid]
    dsimp only
    rw [if_neg unseen]
  have type : readFamily ({ name := s.name.toList, help := s.help.toList } :: families)
      (typeLine s) =
      some ({ name := s.name.toList, help := s.help.toList, type := some s.type.toList } ::
        families) := by
    unfold readFamily
    rw [readLine_type valid]
    dsimp only
    rw [if_pos ⟨rfl, rfl⟩]
  have series := @readFamily_series formatG _ valid
    { name := s.name.toList, help := s.help.toList, type := some s.type.toList } families rfl rfl
  rw [List.foldlM_cons, help, Option.bind_eq_bind, Option.bind_some, List.foldlM_cons, type,
    Option.bind_eq_bind, Option.bind_some, List.foldlM_cons, series]
  rfl

/-! ## Reading a page -/

/-- One series with the name, HELP and TYPE of its family. -/
abbrev Row := List Char × List Char × Option (List Char) ×
  (List (List Char × List Char) × List Char)

def Family.rows (f : Family) : List Row := f.series.map fun series => (f.name, f.help, f.type, series)

def MetricSample.row (formatG : Float → String) (s : MetricSample) : Row :=
  (s.name.toList, s.help.toList, some s.type.toList, s.series formatG)

/-- The series of the families, the latest family first in the list and last in the page. -/
def rowsOf (families : List Family) : List Row := families.reverse.flatMap Family.rows

theorem rowsOf_cons (f : Family) (older : List Family) :
    rowsOf (f :: older) = rowsOf older ++ f.rows := by
  simp [rowsOf]

/-- Samples of one name carry one HELP and one TYPE. -/
def Uniform (samples : List MetricSample) : Prop :=
  ∀ a ∈ samples, ∀ b ∈ samples, a.name = b.name → a.help = b.help ∧ a.type = b.type

/-- Families, each announced once and none of them empty. -/
structure Announced (families : List Family) : Prop where
  distinct : (families.map Family.name).Nodup
  inhabited : ∀ f ∈ families, f.series ≠ [] ∧ f.type.isSome

/-- The samples still to come fit to what was read: they continue the latest family or open
one of their own. -/
def Continues (families : List Family) : Option String → List MetricSample → Prop
  | none, rest => ∀ s ∈ rest, s.name.toList ∉ families.map Family.name
  | some name, rest => ∃ f older, families = f :: older ∧ f.name = name.toList ∧
      (∀ s ∈ rest, name ≤ s.name ∧ s.name.toList ∉ older.map Family.name) ∧
      ∀ s ∈ rest, s.name = name → f.help = s.help.toList ∧ f.type = some s.type.toList

theorem continues_opened {s : MetricSample} {rest : List MetricSample}
    (sorted : (s :: rest).Pairwise fun a b => a.name ≤ b.name) (uniform : Uniform (s :: rest))
    {older : List Family} (fresh : ∀ r ∈ s :: rest, r.name.toList ∉ older.map Family.name)
    (f : Family) (name : f.name = s.name.toList) (help : f.help = s.help.toList)
    (type : f.type = some s.type.toList) : Continues (f :: older) (some s.name) rest := by
  refine ⟨f, older, rfl, name, ?_, ?_⟩
  · intro r member
    exact ⟨List.rel_of_pairwise_cons sorted member, fresh r (List.mem_cons_of_mem _ member)⟩
  · intro r member same
    obtain ⟨helps, types⟩ := uniform r (List.mem_cons_of_mem _ member) s List.mem_cons_self same
    rw [helps, types]
    exact ⟨help, type⟩

/-- The lines of sorted samples are read to the end, whatever was read before them. -/
theorem read_linesFrom (samples : List MetricSample) (lastName : Option String)
    (families : List Family) (valid : ∀ s ∈ samples, s.Valid)
    (sorted : samples.Pairwise fun a b => a.name ≤ b.name) (uniform : Uniform samples)
    (announced : Announced families) (continues : Continues families lastName samples) :
    ∃ read, (linesFrom formatG lastName samples).foldlM readFamily families = some read ∧
      Announced read ∧ rowsOf read = rowsOf families ++ samples.map (MetricSample.row formatG) ∧
      ∀ f ∈ read, f.name ∈ families.map Family.name ∨ ∃ s ∈ samples, f.name = s.name.toList := by
  induction samples generalizing lastName families with
  | nil =>
    refine ⟨families, rfl, announced, (List.append_nil _).symm, fun f member => ?_⟩
    exact Or.inl (List.mem_map_of_mem member)
  | cons s rest ih =>
    have sound := valid s List.mem_cons_self
    have rest_valid := fun r member => valid r (List.mem_cons_of_mem s member)
    have rest_sorted := List.Pairwise.of_cons sorted
    have rest_uniform : Uniform rest := fun a in_a b in_b =>
      uniform a (List.mem_cons_of_mem s in_a) b (List.mem_cons_of_mem s in_b)
    unfold linesFrom
    by_cases same : lastName = some s.name
    · subst same
      obtain ⟨f, older, rfl, name, later, header⟩ := continues
      obtain ⟨help, type⟩ := header s List.mem_cons_self rfl
      have line := @readFamily_series formatG _ sound _ older name
        (announced.inhabited f List.mem_cons_self).2
      have next : Announced ({ f with series := f.series ++ [s.series formatG] } :: older) := by
        refine ⟨announced.distinct, ?_⟩
        intro g member
        rcases List.mem_cons.mp member with rfl | member
        · exact ⟨by simp, (announced.inhabited f List.mem_cons_self).2⟩
        · exact announced.inhabited g (List.mem_cons_of_mem _ member)
      have opened := continues_opened sorted uniform (fun r member => (later r member).2)
        { f with series := f.series ++ [s.series formatG] } name help type
      obtain ⟨read, done, sound_read, rows, names⟩ := ih (some s.name) _ rest_valid rest_sorted
        rest_uniform next opened
      refine ⟨read, ?_, sound_read, ?_, fun g member => ?_⟩
      · rw [if_pos rfl, List.nil_append, List.foldlM_cons, line]
        exact done
      · rw [rows, rowsOf_cons, rowsOf_cons, List.map_cons, List.append_assoc, List.append_assoc]
        congr 1
        simp [Family.rows, MetricSample.row, name, help, type]
      · rcases names g member with before | ⟨r, in_rest, named⟩
        · exact Or.inl before
        · exact Or.inr ⟨r, List.mem_cons_of_mem s in_rest, named⟩
    · have unseen : ∀ r ∈ s :: rest, r.name.toList ∉ families.map Family.name := by
        cases lastName with
        | none => exact continues
        | some name =>
          obtain ⟨f, older, rfl, named, later, -⟩ := continues
          have above : name < s.name :=
            lt_of_le_of_ne (later s List.mem_cons_self).1 fun equal => same (congrArg some equal)
          intro r member seen
          have beyond : name < r.name := by
            rcases List.mem_cons.mp member with rfl | in_rest
            · exact above
            · exact lt_of_lt_of_le above (List.rel_of_pairwise_cons sorted in_rest)
          rw [List.map_cons, named] at seen
          rcases List.mem_cons.mp seen with equal | old
          · exact absurd (String.toList_inj.mp equal) (ne_of_gt beyond)
          · exact (later r member).2 old
      have lines := @readFamily_announced formatG _ sound _ (unseen s List.mem_cons_self)
      have next : Announced
          (⟨s.name.toList, s.help.toList, some s.type.toList, [s.series formatG]⟩ :: families) := by
        refine ⟨List.nodup_cons.mpr ⟨unseen s List.mem_cons_self, announced.distinct⟩, ?_⟩
        intro g member
        rcases List.mem_cons.mp member with rfl | member
        · exact ⟨by simp, rfl⟩
        · exact announced.inhabited g member
      have opened := continues_opened sorted uniform unseen
        ⟨s.name.toList, s.help.toList, some s.type.toList, [s.series formatG]⟩ rfl rfl rfl
      obtain ⟨read, done, sound_read, rows, names⟩ := ih (some s.name) _ rest_valid rest_sorted
        rest_uniform next opened
      refine ⟨read, ?_, sound_read, ?_, fun g member => ?_⟩
      · rw [if_neg same]
        have split : [helpLine s, typeLine s] ++ seriesLine formatG s ::
            linesFrom formatG (some s.name) rest =
          [helpLine s, typeLine s, seriesLine formatG s] ++ linesFrom formatG (some s.name) rest := rfl
        rw [split, List.foldlM_append, lines]
        exact done
      · rw [rows, rowsOf_cons, List.map_cons, List.append_assoc]
        rfl
      · rcases names g member with before | ⟨r, in_rest, named⟩
        · rcases List.mem_cons.mp before with fresh | old
          · exact Or.inr ⟨s, List.mem_cons_self, fresh⟩
          · exact Or.inl old
        · exact Or.inr ⟨r, List.mem_cons_of_mem s in_rest, named⟩

/-- The order of the sort puts the names in order. -/
theorem name_le_of_before {a b : MetricSample} (sorted : b.before a = false) : a.name ≤ b.name := by
  unfold MetricSample.before at sorted
  by_cases same : b.name = a.name
  · exact le_of_eq same.symm
  · rw [if_pos same] at sorted
    exact not_lt.mp (of_decide_eq_false sorted)

end

/-! ## A page of several documents -/

/-- A document of the page: its samples, how their values are printed, and its text. -/
structure Fragment where
  formatG : Float → String
  samples : List MetricSample
  text : String

/-- The document renders samples that the text format has a shape for. -/
structure Fragment.Sound (f : Fragment) : Prop where
  plain : ∀ v, '\n' ∉ (f.formatG v).toList
  valid : ∀ s ∈ f.samples, s.Valid
  uniform : Uniform f.samples
  renders : Renders f.formatG f.samples f.text

def Fragment.rows (f : Fragment) : List Row := f.samples.map (MetricSample.row f.formatG)

/-- No two documents announce the same family. -/
def Apart (a b : Fragment) : Prop := ∀ s ∈ a.samples, ∀ r ∈ b.samples, s.name ≠ r.name

theorem read_fragment {f : Fragment} (sound : f.Sound) {families : List Family}
    (announced : Announced families)
    (fresh : ∀ s ∈ f.samples, s.name.toList ∉ families.map Family.name) :
    ∃ lines : List (List Char), f.text.toList = lines.flatMap (fun line => line ++ ['\n']) ∧
      (∀ line ∈ lines, '\n' ∉ line) ∧
      ∃ read, lines.foldlM readFamily families = some read ∧ Announced read ∧
        (rowsOf read).Perm (rowsOf families ++ f.rows) ∧
        ∀ g ∈ read, g.name ∈ families.map Family.name ∨ ∃ s ∈ f.samples, g.name = s.name.toList := by
  obtain ⟨sorted, perm, ordered, text⟩ := sound.renders
  have valid : ∀ s ∈ sorted, s.Valid := fun s member => sound.valid s (perm.mem_iff.mp member)
  have uniform : Uniform sorted := fun a in_a b in_b =>
    sound.uniform a (perm.mem_iff.mp in_a) b (perm.mem_iff.mp in_b)
  have continues : Continues families none sorted := fun s member => fresh s (perm.mem_iff.mp member)
  obtain ⟨read, done, announced', rows, names⟩ := @read_linesFrom f.formatG sorted none
    families valid (ordered.imp name_le_of_before) uniform announced continues
  refine ⟨linesFrom f.formatG none sorted, ?_, not_mem_linesFrom valid sound.plain none, read, done,
    announced', ?_, fun g member => ?_⟩
  · rw [text, renderFrom_toList]
  · rw [rows]
    exact (perm.map _).append_left _
  · rcases names g member with before | ⟨s, in_sorted, named⟩
    · exact Or.inl before
    · exact Or.inr ⟨s, perm.mem_iff.mp in_sorted, named⟩

theorem read_fragments (fragments : List Fragment) (sound : ∀ f ∈ fragments, f.Sound)
    (apart : fragments.Pairwise Apart) {families : List Family} (announced : Announced families)
    (fresh : ∀ f ∈ fragments, ∀ s ∈ f.samples, s.name.toList ∉ families.map Family.name) :
    ∃ lines : List (List Char),
      fragments.flatMap (fun f => f.text.toList) = lines.flatMap (fun line => line ++ ['\n']) ∧
      (∀ line ∈ lines, '\n' ∉ line) ∧
      ∃ read, lines.foldlM readFamily families = some read ∧ Announced read ∧
        (rowsOf read).Perm (rowsOf families ++ fragments.flatMap Fragment.rows) := by
  induction fragments generalizing families with
  | nil =>
    refine ⟨[], rfl, fun line member => absurd member List.not_mem_nil, families, rfl, announced, ?_⟩
    simp
  | cons f rest ih =>
    obtain ⟨first, text, whole, opened, read_first, announced_first, perm_first, names⟩ :=
      read_fragment (sound f List.mem_cons_self) announced (fresh f List.mem_cons_self)
    have fresh_rest : ∀ g ∈ rest, ∀ s ∈ g.samples, s.name.toList ∉ opened.map Family.name := by
      intro g in_rest s member seen
      obtain ⟨family, in_opened, same⟩ := List.mem_map.mp seen
      rcases names family in_opened with old | ⟨r, in_f, named⟩
      · rw [same] at old
        exact fresh g (List.mem_cons_of_mem f in_rest) s member old
      · have equal : r.name = s.name := String.toList_inj.mp (named.symm.trans same)
        exact List.rel_of_pairwise_cons apart in_rest r in_f s member equal
    obtain ⟨later, text_rest, whole_rest, read, read_rest, announced_rest, perm_rest⟩ :=
      ih (fun g in_rest => sound g (List.mem_cons_of_mem f in_rest)) (List.Pairwise.of_cons apart)
        announced_first fresh_rest
    refine ⟨first ++ later, ?_, ?_, read, ?_, announced_rest, ?_⟩
    · rw [List.flatMap_cons, text, text_rest, List.flatMap_append]
    · intro line member
      rcases List.mem_append.mp member with here | there
      · exact whole line here
      · exact whole_rest line there
    · rw [List.foldlM_append, read_first]
      exact read_rest
    · refine perm_rest.trans ?_
      rw [List.flatMap_cons, ← List.append_assoc]
      exact perm_first.append_right _

/-- A page of documents that share no family reads back as exactly their samples, each family
announced once. -/
theorem readExposition_fragments (fragments : List Fragment) (sound : ∀ f ∈ fragments, f.Sound)
    (apart : fragments.Pairwise Apart) :
    ∃ families, readExposition (String.join (fragments.map Fragment.text)) = some families ∧
      (families.map Family.name).Nodup ∧ (∀ f ∈ families, f.series ≠ [] ∧ f.type.isSome) ∧
      (families.flatMap Family.rows).Perm (fragments.flatMap Fragment.rows) := by
  have none_yet : Announced [] := ⟨List.nodup_nil, fun f member => absurd member List.not_mem_nil⟩
  obtain ⟨lines, text, whole, read, done, announced, perm⟩ :=
    read_fragments fragments sound apart none_yet fun f _ s _ => List.not_mem_nil
  have page : (String.join (fragments.map Fragment.text)).toList =
      lines.flatMap fun line => line ++ ['\n'] := by
    rw [← text, String.toList_join, List.flatMap_map]
  refine ⟨read.reverse, ?_, ?_, ?_, ?_⟩
  · unfold readExposition
    rw [page, dropLast_splitOn lines whole, done]
    rfl
  · rw [List.map_reverse]
    exact List.nodup_reverse.mpr announced.distinct
  · intro f member
    exact announced.inhabited f (List.mem_reverse.mp member)
  · exact perm.trans (by simp [rowsOf])

/-- A document reads back as its samples, whatever its labels hold and in whatever order the
sort left them. -/
theorem readExposition_text (f : Fragment) (sound : f.Sound) :
    ∃ families, readExposition f.text = some families ∧ (families.map Family.name).Nodup ∧
      (∀ g ∈ families, g.series ≠ [] ∧ g.type.isSome) ∧
      (families.flatMap Family.rows).Perm f.rows := by
  obtain ⟨families, read, distinct, inhabited, rows⟩ := readExposition_fragments [f]
    (fun g member => List.mem_singleton.mp member ▸ sound) (List.pairwise_singleton _ _)
  refine ⟨families, ?_, distinct, inhabited, ?_⟩
  · simpa [String.join] using read
  · simpa using rows

theorem keyed_empty : Keyed (∅ : Std.ExtTreeMap String String).toList :=
  fun _ member => absurd member List.not_mem_nil

theorem keyed_insert {labels : Std.ExtTreeMap String String} (keyed : Keyed labels.toList)
    {key value : String} (named : (key.toList.all fun c => c ≠ '=' && c ≠ '\n') = true) :
    Keyed (labels.insert key value).toList := by
  rintro ⟨k, v⟩ member
  have held := Std.ExtTreeMap.mem_toList_iff_getElem?_eq_some.mp member
  rw [Std.ExtTreeMap.getElem?_insert] at held
  split at held
  next same =>
    rw [← compare_eq_iff_eq.mp same]
    simpa using named
  next => exact keyed (k, v) (Std.ExtTreeMap.mem_toList_iff_getElem?_eq_some.mpr held)

/-- A label that holds what the format reserves. -/
def hostileSample : MetricSample where
  name := "up"
  help := "Whether the replica answers."
  type := "gauge"
  value := 1
  labels := (∅ : Std.ExtTreeMap String String).insert "replica" "a\"\\,\x7d\nup 0"

theorem hostileSample_sound : Fragment.Sound
    ⟨fun _ => "1", [hostileSample], renderExposition (fun _ => "1") [hostileSample]⟩ where
  plain := fun _ => by simp
  valid := by
    intro s member
    rw [List.mem_singleton.mp member]
    refine ⟨⟨by simp [hostileSample], ?_⟩, by simp [hostileSample], by simp [hostileSample], ?_⟩
    · intro c named
      simp only [hostileSample, String.reduceToList, List.mem_cons, List.not_mem_nil,
        or_false] at named
      rcases named with rfl | rfl <;> decide
    · exact keyed_insert keyed_empty (by decide +kernel)
  uniform := by
    intro a in_a b in_b _
    rw [List.mem_singleton.mp in_a, List.mem_singleton.mp in_b]
    exact ⟨rfl, rfl⟩
  renders := renders_renderExposition _ _

/-- The reserved characters of a label stay within the label. -/
theorem readExposition_hostile : ∃ families,
    readExposition (renderExposition (fun _ => "1") [hostileSample]) = some families ∧
      (families.map Family.name).Nodup ∧ (∀ g ∈ families, g.series ≠ [] ∧ g.type.isSome) ∧
      (families.flatMap Family.rows).Perm [hostileSample.row fun _ => "1"] :=
  readExposition_text
    ⟨fun _ => "1", [hostileSample], renderExposition (fun _ => "1") [hostileSample]⟩
    hostileSample_sound

end OpenOntology.Resolution
