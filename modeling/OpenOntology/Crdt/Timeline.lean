import Mathlib
import OpenOntology.Library.MaxMap

/-!
# Timelines

A timeline holds, for every replica id, the highest Lamport stamp observed from
that replica. The dominant write of a timeline is its greatest stamp, ties broken
by replica id; both aggregates are joins over the entries, so they commute with
the pointwise maximum that merges two timelines.
-/
namespace OpenOntology.Crdt
open Library

/-- Replica id to stamp. -/
abbrev Timeline := Std.ExtTreeMap String Int

def highestStamp (timeline : Timeline) : Int :=
  timeline.foldl (fun highest _ stamp => if stamp > highest then stamp else highest) 0

structure WriteStamp where
  timestamp : Int
  clientID : String
  deriving DecidableEq, Repr

namespace WriteStamp

def zero : WriteStamp := ⟨0, ""⟩

def after (s other : WriteStamp) : Bool :=
  if s.timestamp ≠ other.timestamp then s.timestamp > other.timestamp
  else s.clientID > other.clientID

def observed (s : WriteStamp) : Bool := s.timestamp > 0

/-- The order `after` decides: by stamp, then by replica id. -/
def key (s : WriteStamp) : ℤ ×ₗ String := toLex (s.timestamp, s.clientID)

theorem key_injective : Function.Injective key := by
  intro a b same
  cases a
  cases b
  simpa [key] using same

theorem after_iff (s other : WriteStamp) : s.after other = true ↔ other.key < s.key := by
  unfold after key
  rw [Prod.Lex.toLex_lt_toLex]
  split
  next differ =>
    rw [decide_eq_true_iff]
    constructor
    · exact fun greater => Or.inl greater
    · rintro (greater | ⟨same, -⟩)
      · exact greater
      · exact absurd same.symm differ
  next same =>
    rw [not_not] at same
    rw [decide_eq_true_iff]
    constructor
    · exact fun greater => Or.inr ⟨same.symm, greater⟩
    · rintro (greater | ⟨-, greater⟩)
      · exact absurd same.symm (ne_of_lt greater)
      · exact greater

theorem after_eq_false_iff (s other : WriteStamp) :
    s.after other = false ↔ s.key ≤ other.key := by
  rw [← Bool.not_eq_true, after_iff, not_lt]

theorem key_le_key (c : String) {s s' : Int} (le : s ≤ s') :
    (⟨s, c⟩ : WriteStamp).key ≤ (⟨s', c⟩ : WriteStamp).key := by
  unfold key
  rw [Prod.Lex.toLex_le_toLex]
  rcases le.lt_or_eq with less | same
  · exact Or.inl less
  · exact Or.inr ⟨same, le_rfl⟩

end WriteStamp

def dominantWrite (timeline : Timeline) : WriteStamp :=
  timeline.foldl (fun dominant clientID stamp =>
    let candidate : WriteStamp := ⟨stamp, clientID⟩
    if candidate.after dominant then candidate else dominant) WriteStamp.zero

/-- The pointwise maximum of `src` onto `dst`, and whether `dst` changed. -/
def mergeTimelineInto (dst src : Timeline) : Timeline × Bool :=
  src.foldl (fun (acc : Timeline × Bool) clientID stamp =>
    match acc.1[clientID]? with
    | none => (acc.1.insert clientID stamp, true)
    | some existing =>
      if stamp > existing then (acc.1.insert clientID stamp, true) else acc) (dst, false)

theorem mergeTimelineInto_eq_joinInto (dst src : Timeline) :
    mergeTimelineInto dst src = joinInto dst src := by
  unfold mergeTimelineInto joinInto
  congr 1
  funext acc clientID stamp
  unfold raiseEntry
  cases acc.1[clientID]? with
  | none => rfl
  | some existing => simp only [gt_iff_lt]

@[simp] theorem valueAt_mergeTimelineInto (dst src : Timeline) (c : String) :
    valueAt (mergeTimelineInto dst src).1 c = valueAt dst c ⊔ valueAt src c := by
  rw [mergeTimelineInto_eq_joinInto, valueAt_joinInto]

/-- A report of no change means that there was nothing to raise. -/
theorem mergeTimelineInto_unchanged_iff (dst src : Timeline) :
    (mergeTimelineInto dst src).2 = false ↔ ∀ c, valueAt src c ≤ valueAt dst c := by
  rw [mergeTimelineInto_eq_joinInto, joinInto_flag]

theorem mergeTimelineInto_of_le (dst src : Timeline)
    (below : ∀ c, valueAt src c ≤ valueAt dst c) : mergeTimelineInto dst src = (dst, false) := by
  rw [mergeTimelineInto_eq_joinInto, joinInto_of_le dst src below]

/-- A stamp of a merged timeline comes from one of the two sides. -/
theorem mergeTimelineInto_getElem? (dst src : Timeline) (c : String) (s : Int)
    (held : (mergeTimelineInto dst src).1[c]? = some s) :
    dst[c]? = some s ∨ src[c]? = some s := by
  have joined := valueAt_mergeTimelineInto dst src c
  rw [(valueAt_eq_coe_iff _ c s).mpr held] at joined
  rcases le_total (valueAt dst c) (valueAt src c) with below | above
  · rw [sup_eq_right.mpr below] at joined
    exact Or.inr ((valueAt_eq_coe_iff src c s).mp joined.symm)
  · rw [sup_eq_left.mpr above] at joined
    exact Or.inl ((valueAt_eq_coe_iff dst c s).mp joined.symm)

theorem highestStamp_le_iff (t : Timeline) (b : Int) :
    highestStamp t ≤ b ↔ 0 ≤ b ∧ ∀ (c : String) (s : Int), t[c]? = some s → s ≤ b := by
  have as_join : highestStamp t = t.foldl (fun acc _ s => acc ⊔ s) 0 := by
    unfold highestStamp
    congr 1
    funext highest _ stamp
    split
    next greater => exact (sup_eq_right.mpr greater.le).symm
    next lesser => exact (sup_eq_left.mpr (not_lt.mp lesser)).symm
  rw [as_join]
  exact foldl_entries_sup_le_iff (fun _ s => s) t 0 b

theorem highestStamp_nonneg (t : Timeline) : 0 ≤ highestStamp t :=
  ((highestStamp_le_iff t (highestStamp t)).mp le_rfl).1

theorem le_highestStamp (t : Timeline) (c : String) (s : Int) (held : t[c]? = some s) :
    s ≤ highestStamp t :=
  ((highestStamp_le_iff t (highestStamp t)).mp le_rfl).2 c s held

theorem dominantWrite_key (t : Timeline) :
    (dominantWrite t).key =
      t.foldl (fun acc c s => acc ⊔ (⟨s, c⟩ : WriteStamp).key) WriteStamp.zero.key := by
  unfold dominantWrite
  rw [Std.ExtTreeMap.foldl_eq_foldl_toList, Std.ExtTreeMap.foldl_eq_foldl_toList]
  generalize WriteStamp.zero = start
  induction t.toList generalizing start with
  | nil => rfl
  | cons e rest ih =>
    rw [List.foldl_cons, List.foldl_cons, ih]
    congr 1
    by_cases newer : (⟨e.2, e.1⟩ : WriteStamp).after start = true
    · rw [if_pos newer]
      exact (sup_eq_right.mpr ((WriteStamp.after_iff _ _).mp newer).le).symm
    · rw [if_neg newer]
      rw [Bool.not_eq_true, WriteStamp.after_eq_false_iff] at newer
      exact (sup_eq_left.mpr newer).symm

theorem dominantWrite_le_iff (t : Timeline) (b : ℤ ×ₗ String) :
    (dominantWrite t).key ≤ b ↔
      WriteStamp.zero.key ≤ b ∧ ∀ (c : String) (s : Int), t[c]? = some s → (⟨s, c⟩ : WriteStamp).key ≤ b := by
  rw [dominantWrite_key]
  exact foldl_entries_sup_le_iff (fun c s => (⟨s, c⟩ : WriteStamp).key) t _ b

theorem zero_le_dominantWrite (t : Timeline) : WriteStamp.zero.key ≤ (dominantWrite t).key :=
  ((dominantWrite_le_iff t _).mp le_rfl).1

theorem le_dominantWrite (t : Timeline) (c : String) (s : Int) (held : t[c]? = some s) :
    (⟨s, c⟩ : WriteStamp).key ≤ (dominantWrite t).key :=
  ((dominantWrite_le_iff t _).mp le_rfl).2 c s held

/-- The dominant write is an entry of the timeline, or the zero write. -/
theorem dominantWrite_held (t : Timeline) :
    dominantWrite t = WriteStamp.zero ∨
      t[(dominantWrite t).clientID]? = some (dominantWrite t).timestamp := by
  have attained := foldl_entries_sup_attained (fun c s => (⟨s, c⟩ : WriteStamp).key) t
    WriteStamp.zero.key
  rw [← dominantWrite_key] at attained
  rcases attained with start | ⟨c, s, held, reached⟩
  · exact Or.inl (WriteStamp.key_injective start)
  · rw [WriteStamp.key_injective reached]
    exact Or.inr held

/-- The dominant write of a merge is the greater of the two dominant writes. -/
theorem dominantWrite_mergeTimelineInto (dst src : Timeline) :
    (dominantWrite (mergeTimelineInto dst src).1).key =
      (dominantWrite dst).key ⊔ (dominantWrite src).key := by
  apply eq_of_forall_ge_iff
  intro b
  rw [sup_le_iff, dominantWrite_le_iff, dominantWrite_le_iff, dominantWrite_le_iff]
  constructor
  · rintro ⟨zero, all⟩
    have kept : ∀ (side : Timeline), (∀ c, valueAt side c ≤
        valueAt (mergeTimelineInto dst src).1 c) → ∀ c s, side[c]? = some s →
        (⟨s, c⟩ : WriteStamp).key ≤ b := by
      intro side below c s held
      have raised := below c
      rw [(valueAt_eq_coe_iff side c s).mpr held] at raised
      obtain ⟨s', held', greater⟩ := exists_ge_of_le_valueAt _ c s raised
      exact (WriteStamp.key_le_key c greater).trans (all c s' held')
    refine ⟨⟨zero, kept dst ?_⟩, zero, kept src ?_⟩
    · intro c
      rw [valueAt_mergeTimelineInto]
      exact le_sup_left
    · intro c
      rw [valueAt_mergeTimelineInto]
      exact le_sup_right
  · rintro ⟨⟨zero, left⟩, -, right⟩
    refine ⟨zero, ?_⟩
    intro c s held
    rcases mergeTimelineInto_getElem? dst src c s held with from_dst | from_src
    · exact left c s from_dst
    · exact right c s from_src

end OpenOntology.Crdt
