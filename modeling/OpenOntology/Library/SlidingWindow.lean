import Mathlib

/-!
# Sliding windows

A log of admissions, latest first, and the part of it that a window still covers. If
every admission found fewer than `limit` earlier ones covered, no half-open interval of
the window's length contains more than `limit`, wherever it starts.
-/
namespace OpenOntology.Library

variable {τ : Type*} [AddCommGroup τ] [LinearOrder τ] [IsOrderedAddMonoid τ]

/-- The admissions the window that ends at `now` still covers. -/
def held (window now : τ) (log : List τ) : List τ := log.filter (now - window < ·)

/-- Every admission came after all earlier ones, when the window covered fewer than
`limit` of them. -/
def Admitted (window : τ) (limit : ℤ) : List τ → Prop
  | [] => True
  | t :: rest => (held window t rest).length < limit ∧ (∀ x ∈ rest, x ≤ t) ∧
      Admitted window limit rest

variable {window : τ} {limit : ℤ}

theorem held_sublist {now later : τ} (le : now ≤ later) (log : List τ) :
    (held window later log).Sublist (held window now log) := by
  refine List.monotone_filter_right log fun t covered => ?_
  simp only [decide_eq_true_eq] at covered ⊢
  exact (sub_le_sub_right le window).trans_lt covered

theorem held_held {now later : τ} (le : now ≤ later) (log : List τ) :
    held window later (held window now log) = held window later log := by
  unfold held
  rw [List.filter_filter]
  refine List.filter_congr fun t _ => ?_
  rw [Bool.eq_iff_iff, Bool.and_eq_true, decide_eq_true_iff, decide_eq_true_iff]
  exact ⟨And.left, fun covered => ⟨covered, (sub_le_sub_right le window).trans_lt covered⟩⟩

theorem held_cons_of_pos {now : τ} (positive : 0 < window) (log : List τ) :
    held window now (now :: log) = now :: held window now log :=
  List.filter_cons_of_pos (by simpa using positive)

/-- A window covers at most `limit` admissions. -/
theorem Admitted.held_le {log : List τ} (ok : Admitted window limit log) (nonneg : 0 ≤ limit)
    {now : τ} (latest : ∀ t ∈ log, t ≤ now) : (held window now log).length ≤ limit := by
  cases log with
  | nil => exact nonneg
  | cons t rest =>
    obtain ⟨few, -, -⟩ := ok
    have later := latest t List.mem_cons_self
    have shrinks : (held window now rest).length ≤ (held window t rest).length :=
      (held_sublist later rest).length_le
    unfold held at few shrinks ⊢
    rw [List.filter_cons]
    split
    · rw [List.length_cons]
      push_cast
      omega
    · omega

/-- No half-open interval of the window's length contains more than `limit` admissions. -/
theorem Admitted.interval_le {log : List τ} (ok : Admitted window limit log) (nonneg : 0 ≤ limit)
    (a : τ) : (log.filter fun t => a ≤ t ∧ t < a + window).length ≤ limit := by
  induction log with
  | nil => exact nonneg
  | cons t rest ih =>
    obtain ⟨few, -, earlier⟩ := ok
    by_cases inside : a ≤ t ∧ t < a + window
    · -- the latest admission inside still had all the others inside before it
      have covered : (rest.filter fun x => a ≤ x ∧ x < a + window).length ≤
          (held window t rest).length := by
        refine (List.monotone_filter_right rest fun x within => ?_).length_le
        simp only [decide_eq_true_eq] at within ⊢
        exact (sub_lt_iff_lt_add.mpr inside.2).trans_le within.1
      rw [List.filter_cons_of_pos (by simpa using inside), List.length_cons]
      push_cast
      omega
    · rw [List.filter_cons_of_neg (by simpa using inside)]
      exact ih earlier

/-- When a window that covered something has moved past its oldest admission, it covers
fewer. -/
theorem held_length_lt {now later oldest : τ} {log : List τ} (le : now ≤ later)
    (member : oldest ∈ held window now log) (passed : oldest + window ≤ later) :
    (held window later log).length < (held window now log).length := by
  refine lt_of_le_of_ne (held_sublist le log).length_le fun same => ?_
  have equal : held window later log = held window now log :=
    (held_sublist le log).eq_of_length same
  rw [← equal] at member
  have covered := (List.mem_filter.mp member).2
  simp only [decide_eq_true_eq] at covered
  exact absurd (le_sub_iff_add_le.mpr passed) (not_le.mpr covered)

/-- A log kept oldest first drops from its front exactly what the window has left. -/
theorem dropWhile_reverse_held {now later : τ} {log : List τ} (sorted : log.Pairwise (· ≥ ·))
    (le : now ≤ later) :
    (held window now log).reverse.dropWhile (· ≤ later - window) =
      (held window later log).reverse := by
  have ascending : ((held window now log).reverse).Pairwise (· ≤ ·) := by
    rw [List.pairwise_reverse]
    exact sorted.sublist List.filter_sublist
  rw [← held_held le log]
  generalize (held window now log) = l at ascending
  have each : ∀ m : List τ, m.Pairwise (· ≤ ·) → m.dropWhile (· ≤ later - window) =
      m.filter (later - window < ·) := by
    intro m ordered
    induction m with
    | nil => rfl
    | cons x rest ih =>
      obtain ⟨least, ordered⟩ := List.pairwise_cons.mp ordered
      by_cases left : x ≤ later - window
      · rw [List.dropWhile_cons_of_pos (by simpa using left),
          List.filter_cons_of_neg (by simpa using left), ih ordered]
      · rw [List.dropWhile_cons_of_neg (by simpa using left),
          List.filter_eq_self.mpr fun y member => ?_]
        rcases List.mem_cons.mp member with rfl | member
        · simpa using left
        · simpa using (not_le.mp left).trans_le (least y member)
  rw [each _ ascending, List.filter_reverse]
  rfl

/-! ## Admissions a fixed gap apart -/

/-- Every admission came at least `gap` after each earlier one. -/
def Spaced (gap : τ) (log : List τ) : Prop := log.Pairwise fun later earlier => earlier + gap ≤ later

/-- The latest of spaced admissions from `a` on is as many gaps after `a` as others came
before it. -/
theorem Spaced.latest_ge {gap a t : τ} {rest : List τ} (spaced : Spaced gap (t :: rest))
    (from_a : ∀ x ∈ t :: rest, a ≤ x) : a + rest.length • gap ≤ t := by
  induction rest generalizing t with
  | nil => simpa using from_a t List.mem_cons_self
  | cons earlier rest ih =>
    obtain ⟨later, spaced⟩ := List.pairwise_cons.mp spaced
    have below := ih spaced fun x member => from_a x (List.mem_cons_of_mem t member)
    calc a + (rest.length + 1) • gap = a + rest.length • gap + gap := by rw [succ_nsmul, add_assoc]
      _ ≤ earlier + gap := by gcongr
      _ ≤ t := later earlier List.mem_cons_self

/-- No half-open interval of the length of `limit` gaps contains more than `limit` of them. -/
theorem Spaced.interval_le {gap : τ} {log : List τ} (spaced : Spaced gap log) (nonneg : 0 ≤ gap)
    (limit : ℕ) (a : τ) :
    (log.filter fun t => a ≤ t ∧ t < a + limit • gap).length ≤ limit := by
  have inside : ∀ x ∈ log.filter fun t => a ≤ t ∧ t < a + limit • gap,
      a ≤ x ∧ x < a + limit • gap := by
    intro x member
    simpa using (List.mem_filter.mp member).2
  have thinned : Spaced gap (log.filter fun t => a ≤ t ∧ t < a + limit • gap) :=
    spaced.sublist List.filter_sublist
  generalize (log.filter fun t => a ≤ t ∧ t < a + limit • gap) = kept at inside thinned ⊢
  cases kept with
  | nil => exact Nat.zero_le limit
  | cons t rest =>
    by_contra wide
    have more : limit ≤ rest.length := by
      rw [List.length_cons] at wide
      omega
    have latest := thinned.latest_ge fun x member => (inside x member).1
    have before := (inside t List.mem_cons_self).2
    have gaps : a + limit • gap ≤ a + rest.length • gap := by gcongr
    exact absurd (gaps.trans latest) (not_le.mpr before)

end OpenOntology.Library
