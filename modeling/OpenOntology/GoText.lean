import OpenOntology.Library.Trim

/-!
# Go strings

`strings.TrimSpace` and `strings.ToUpper` as the engine uses them. White space is
the Unicode White_Space property. The upper-casing table is a parameter: the
engine relies on a few facts about it only, and the ASCII table is an instance.
-/
namespace OpenOntology
open Library

/-- `unicode.IsSpace`. -/
def isSpace (c : Char) : Bool :=
  let n := c.toNat
  (9 ≤ n && n ≤ 13) || n == 0x20 || n == 0x85 || n == 0xA0 || n == 0x1680 ||
    (0x2000 ≤ n && n ≤ 0x200A) || n == 0x2028 || n == 0x2029 || n == 0x202F ||
    n == 0x205F || n == 0x3000

def trimSpace (s : String) : String := String.ofList (trimBoth isSpace s.toList)

@[simp] theorem trimSpace_trimSpace (s : String) : trimSpace (trimSpace s) = trimSpace s := by
  simp only [trimSpace, String.toList_ofList, trimBoth_idem]

theorem trimSpace_subset (s : String) : (trimSpace s).toList ⊆ s.toList := by
  simpa only [trimSpace, String.toList_ofList] using trimBoth_subset isSpace s.toList

theorem trimSpace_eq_self (s : String) (solid : ∀ c ∈ s.toList, isSpace c = false) :
    trimSpace s = s := by
  rw [trimSpace, trimBoth_eq_self isSpace s.toList solid, String.ofList_toList]

theorem trimSpace_append (a middle b : String) (named_a : a ≠ "") (named_b : b ≠ "")
    (trimmed_a : trimSpace a = a) (trimmed_b : trimSpace b = b) :
    trimSpace (a ++ middle ++ b) = a ++ middle ++ b := by
  have lists : ∀ s : String, trimSpace s = s → trimBoth isSpace s.toList = s.toList := by
    intro s trimmed
    have cut := congrArg String.toList trimmed
    simpa only [trimSpace, String.toList_ofList] using cut
  have some_list : ∀ s : String, s ≠ "" → s.toList ≠ [] := by
    intro s named empty
    exact named (String.toList_injective empty)
  rw [trimSpace, String.toList_append, String.toList_append,
    trimBoth_append isSpace _ _ _ (some_list a named_a) (some_list b named_b) (lists a trimmed_a)
      (lists b trimmed_b), ← String.toList_append, ← String.toList_append, String.ofList_toList]

/-- The unit separator between the components of an edge key. -/
def keySeparator : Char := '\x1f'

/-- No key separator occurs in the string. -/
def separatorFree (s : String) : Bool := keySeparator ∉ s.toList

theorem separatorFree_iff (s : String) : separatorFree s = true ↔ keySeparator ∉ s.toList := by
  simp [separatorFree]

theorem separatorFree_append (a b : String) :
    separatorFree (a ++ b) = (separatorFree a && separatorFree b) := by
  rw [Bool.eq_iff_iff, Bool.and_eq_true]
  simp only [separatorFree_iff, String.toList_append, List.mem_append, not_or]

theorem separatorFree_trimSpace (s : String) (free : separatorFree s = true) :
    separatorFree (trimSpace s) = true := by
  rw [separatorFree_iff] at free ⊢
  exact fun member => free (trimSpace_subset s member)

/-- `unicode.ToUpper` on single code points, with the facts the engine leans on. -/
structure CaseTable where
  toUpper : Char → Char
  idempotent : ∀ c, toUpper (toUpper c) = toUpper c
  keepsSpace : ∀ c, isSpace (toUpper c) = isSpace c
  keepsSeparator : ∀ c, toUpper c = keySeparator → c = keySeparator
  ascii : ∀ c, c.toNat < 128 → toUpper c = c.toUpper

namespace CaseTable
variable (table : CaseTable)

/-- `strings.ToUpper`. -/
def upper (s : String) : String := String.ofList (s.toList.map table.toUpper)

theorem upper_upper (s : String) : table.upper (table.upper s) = table.upper s := by
  simp only [upper, String.toList_ofList, List.map_map]
  congr 1
  exact List.map_congr_left fun c _ => table.idempotent c

theorem trimSpace_upper (s : String) : trimSpace (table.upper s) = table.upper (trimSpace s) := by
  simp only [trimSpace, upper, String.toList_ofList, trimBoth_map isSpace _ table.keepsSpace]

theorem separatorFree_upper (s : String) (free : separatorFree s = true) :
    separatorFree (table.upper s) = true := by
  rw [separatorFree_iff] at free ⊢
  intro member
  simp only [upper, String.toList_ofList, List.mem_map] at member
  obtain ⟨c, inside, image⟩ := member
  exact free (table.keepsSeparator c image ▸ inside)

theorem upper_ascii (s : String) (ascii : s.toList.all (fun c => c.toNat < 128) = true) :
    table.upper s = String.ofList (s.toList.map Char.toUpper) := by
  rw [List.all_eq_true] at ascii
  unfold upper
  congr 1
  exact List.map_congr_left fun c member =>
    table.ascii c (by simpa only [decide_eq_true_eq] using ascii c member)

end CaseTable

theorem toNat_toUpper (c : Char) :
    c.toUpper.toNat = if 97 ≤ c.toNat ∧ c.toNat ≤ 122 then c.toNat - 32 else c.toNat := by
  unfold Char.toUpper
  split
  next lower =>
    have low : 97 ≤ c.toNat := UInt32.le_iff_toNat_le.mp lower.1
    have high : c.toNat ≤ 122 := UInt32.le_iff_toNat_le.mp lower.2
    have shift : ('A'.val - 'a'.val).toNat = 4294967264 := by decide
    have same : c.val.toNat = c.toNat := rfl
    rw [if_pos ⟨low, high⟩]
    show (c.val + ('A'.val - 'a'.val)).toNat = c.toNat - 32
    rw [UInt32.toNat_add, shift, same]
    omega
  next other =>
    rw [if_neg]
    rintro ⟨low, high⟩
    exact other ⟨UInt32.le_iff_toNat_le.mpr low, UInt32.le_iff_toNat_le.mpr high⟩

theorem char_ext_toNat (c d : Char) (same : c.toNat = d.toNat) : c = d :=
  Char.ext (UInt32.toNat_inj.mp same)

/-- The ASCII rows of the table. -/
def asciiCase : CaseTable where
  toUpper := Char.toUpper
  idempotent c := by
    apply char_ext_toNat
    have once := toNat_toUpper c
    have twice := toNat_toUpper c.toUpper
    grind
  keepsSpace c := by
    simp only [isSpace, toNat_toUpper]
    split
    next lower =>
      obtain ⟨low, high⟩ := lower
      grind
    next other => rfl
  keepsSeparator c image := by
    have at_separator : c.toUpper.toNat = 31 := by rw [image]; decide
    rw [toNat_toUpper] at at_separator
    apply char_ext_toNat
    show c.toNat = 31
    split at at_separator <;> omega
  ascii c small := rfl

end OpenOntology
