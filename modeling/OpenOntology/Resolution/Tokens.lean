import OpenOntology.Library.Run
import OpenOntology.Resolution.StateTracker

/-!
# Tokens and the evaluations they reverse

Workers evaluate channels, keep the tokens for a while and hand some of them back, and the
janitor prunes in between. A token names the evaluation it reverses by the sequence number
of the channel's entry, and a new entry starts to count anew.
-/
namespace OpenOntology.Resolution

open Library

/-- Some worker's next call on the tracker. -/
inductive TokenEvent where
  | evaluate (key : String) (eval : RuleEvaluation) (now : Time)
  | rollback (id : Nat)
  | prune (now : Time) (idle : Duration)

/-- The tracker with the tokens that are still held, named by their evaluations. Beside it,
the evaluations of each channel that are not rolled back, newest first, and the first
evaluation that can follow the channel's last pruning. -/
structure TokenRun where
  tracker : StateTracker
  next : Nat
  tokens : Nat → Option StateUndo
  standing : String → List Nat
  prunedAt : String → Nat

/-- `Rollback` finds an entry of the channel at the token's sequence number. -/
def StateTracker.meets (t : StateTracker) (undo : StateUndo) : Bool :=
  match t.entries[undo.key]? with
  | none => false
  | some st => st.sequence == undo.sequence

namespace TokenRun

def start (reAlertInterval : Duration) (hysteresisRatio : Float) : TokenRun where
  tracker := newStateTracker reAlertInterval hysteresisRatio
  next := 0
  tokens _ := none
  standing _ := []
  prunedAt _ := 0

/-- A token is handed back once at most. -/
def step (s : TokenRun) : TokenEvent → Option TokenRun
  | .evaluate key eval now =>
    let (tracker, _, undo) := s.tracker.evaluate key eval now
    some { s with
      tracker
      next := s.next + 1
      tokens := Function.update s.tokens s.next (some undo)
      standing := Function.update s.standing key (s.next :: s.standing key) }
  | .rollback id =>
    match s.tokens id with
    | none => none
    | some undo =>
      some { s with
        tracker := s.tracker.rollback undo
        tokens := Function.update s.tokens id none
        standing :=
          if s.tracker.meets undo = true then
            Function.update s.standing undo.key ((s.standing undo.key).filter fun other => other ≠ id)
          else s.standing }
  | .prune now idle =>
    let tracker := s.tracker.prune now idle
    some { s with
      tracker
      prunedAt := fun key =>
        if s.tracker.entries[key]?.isSome && tracker.entries[key]?.isNone then s.next
        else s.prunedAt key }

/-- The evaluations made on the channel's present entry. -/
def current (s : TokenRun) (key : String) : List Nat :=
  (s.standing key).filter fun id => s.prunedAt key ≤ id

/-- A rollback that changes its channel finds no newer evaluation of it standing. -/
def Keeps (s : TokenRun) (event : TokenEvent) (_ : TokenRun) : Prop :=
  ∀ id undo, event = .rollback id → s.tokens id = some undo →
    (s.tracker.rollback undo).entries[undo.key]? ≠ s.tracker.entries[undo.key]? →
      ∀ other ∈ s.standing undo.key, other ≤ id

/-- A rollback does not find an entry at its token's sequence number when the channel was
pruned since the token's evaluation. -/
def SameEntry (s : TokenRun) (event : TokenEvent) (_ : TokenRun) : Prop :=
  ∀ id undo, event = .rollback id → s.tokens id = some undo → s.tracker.meets undo = true →
    s.prunedAt undo.key ≤ id

end TokenRun

/-! ## What a rollback does -/

section
variable {t : StateTracker} {undo : StateUndo}

theorem rollback_of_not_meets (apart : t.meets undo = false) : t.rollback undo = t := by
  unfold StateTracker.meets at apart
  unfold StateTracker.rollback
  split
  next => rfl
  next =>
    cases held : t.entries[undo.key]? with
    | none => rfl
    | some st =>
      rw [held] at apart
      exact if_pos (by simpa using apart)

theorem rollback_of_meets (captured : undo.captured = true) (meets : t.meets undo = true) :
    (∃ st, t.entries[undo.key]? = some st ∧ st.sequence = undo.sequence) ∧
      (t.rollback undo).entries =
        if undo.existed = true then t.entries.insert undo.key undo.previous
        else t.entries.erase undo.key := by
  unfold StateTracker.meets at meets
  unfold StateTracker.rollback
  cases held : t.entries[undo.key]? with
  | none =>
    rw [held] at meets
    cases meets
  | some st =>
    rw [held] at meets
    have same : st.sequence = undo.sequence := by simpa using meets
    refine ⟨⟨st, rfl, same⟩, ?_⟩
    rw [if_neg (by simp [captured])]
    dsimp only
    rw [if_neg (not_not.mpr same)]
    cases undo.existed <;> rfl

end

namespace TokenRun
variable {s next : TokenRun} {event : TokenEvent}

/-! ## The invariant -/

/-- What a token remembers of the entry it was made on. -/
structure Remembers (s : TokenRun) (id : Nat) (undo : StateUndo) : Prop where
  captured : undo.captured = true
  made : id < s.next
  counted : undo.previous.sequence + 1 = undo.sequence
  placed : s.prunedAt undo.key ≤ id → ∃ older, id :: older <:+ s.current undo.key ∧
    undo.sequence = older.length + 1 ∧ (undo.existed = true ↔ older ≠ [])

/-- The sequence number of an entry counts the evaluations made on it. -/
structure Counts (s : TokenRun) : Prop where
  absent : ∀ key, s.tracker.entries[key]? = none ↔ s.current key = []
  counted : ∀ key st, s.tracker.entries[key]? = some st → st.sequence = (s.current key).length
  descending : ∀ key, (s.standing key).Pairwise fun a b => b < a
  made : ∀ key, ∀ id ∈ s.standing key, id < s.next
  pruned : ∀ key, s.prunedAt key ≤ s.next
  tokens : ∀ id undo, s.tokens id = some undo → s.Remembers id undo

theorem counts_start (reAlertInterval : Duration) (hysteresisRatio : Float) :
    (start reAlertInterval hysteresisRatio).Counts where
  absent key := iff_of_true Std.ExtTreeMap.getElem?_empty rfl
  counted key st held := by
    have empty : (start reAlertInterval hysteresisRatio).tracker.entries[key]? = none :=
      Std.ExtTreeMap.getElem?_empty
    rw [empty] at held
    cases held
  descending _ := List.Pairwise.nil
  made _ _ member := by cases member
  pruned _ := Nat.le_refl 0
  tokens _ _ held := by cases held

/-- A token that meets the present entry of its own channel is that of the newest evaluation. -/
theorem Counts.newest (counts : s.Counts) {id : Nat} {undo : StateUndo} (held : s.tokens id = some undo)
    (meets : s.tracker.meets undo = true) (since : s.prunedAt undo.key ≤ id) :
    ∃ older, s.current undo.key = id :: older ∧ undo.sequence = older.length + 1 ∧
      (undo.existed = true ↔ older ≠ []) := by
  have token := counts.tokens id undo held
  obtain ⟨⟨st, present, same⟩, -⟩ := rollback_of_meets token.captured meets
  obtain ⟨older, suffix, sequence, existed⟩ := token.placed since
  have length := counts.counted undo.key st present
  refine ⟨older, (suffix.eq_of_length ?_).symm, sequence, existed⟩
  rw [List.length_cons]
  omega

theorem Counts.keeps_iff (counts : s.Counts) : s.Keeps event next ↔ s.SameEntry event next := by
  constructor
  · intro keeps id undo rolled held meets
    have token := counts.tokens id undo held
    obtain ⟨⟨st, present, same⟩, entries⟩ := rollback_of_meets token.captured meets
    by_contra late
    have changed : (s.tracker.rollback undo).entries[undo.key]? ≠ s.tracker.entries[undo.key]? := by
      rw [entries, present]
      split
      next =>
        rw [Std.ExtTreeMap.getElem?_insert_self]
        intro restored
        have counted := token.counted
        rw [Option.some.inj restored] at counted
        omega
      next =>
        rw [Std.ExtTreeMap.getElem?_erase_self]
        nofun
    have older := keeps id undo rolled held changed
    have empty : s.current undo.key = [] := by
      refine List.filter_eq_nil_iff.mpr fun other member => ?_
      have before := older other member
      simp only [decide_eq_true_eq]
      omega
    rw [(counts.absent undo.key).mpr empty] at present
    cases present
  · intro same id undo rolled held changed other member
    cases meets : s.tracker.meets undo with
    | false =>
      rw [rollback_of_not_meets meets] at changed
      exact absurd rfl changed
    | true =>
      have since := same id undo rolled held meets
      obtain ⟨older, newest, -⟩ := counts.newest held meets since
      by_cases recent : s.prunedAt undo.key ≤ other
      · have inside : other ∈ s.current undo.key :=
          List.mem_filter.mpr ⟨member, decide_eq_true recent⟩
        have sorted : (s.current undo.key).Pairwise fun a b => b < a :=
          (counts.descending undo.key).filter _
        rw [newest] at inside sorted
        rcases List.mem_cons.mp inside with rfl | before
        · exact Nat.le_refl other
        · exact Nat.le_of_lt (List.rel_of_pairwise_cons sorted before)
      · omega

/-! ## The calls -/

theorem current_congr {key : String} (standing : next.standing key = s.standing key)
    (pruned : next.prunedAt key = s.prunedAt key) : next.current key = s.current key := by
  unfold current
  rw [standing, pruned]

theorem entries_insert {entries : Std.ExtTreeMap String SensorState} {key : String}
    {st : SensorState} (k : String) :
    (entries.insert key st)[k]? = if k = key then some st else entries[k]? := by
  rw [Std.ExtTreeMap.getElem?_insert]
  exact if_congr (Std.LawfulEqCmp.compare_eq_iff_eq.trans eq_comm) rfl rfl

theorem entries_erase {entries : Std.ExtTreeMap String SensorState} {key : String} (k : String) :
    (entries.erase key)[k]? = if k = key then none else entries[k]? := by
  rw [Std.ExtTreeMap.getElem?_erase]
  exact if_congr (Std.LawfulEqCmp.compare_eq_iff_eq.trans eq_comm) rfl rfl

section
variable {key : String} {eval : RuleEvaluation} {now : Time}

theorem step_evaluate (stepped : s.step (.evaluate key eval now) = some next) :
    next.tracker = (s.tracker.evaluate key eval now).1 ∧ next.next = s.next + 1 ∧
      next.tokens = Function.update s.tokens s.next (some (s.tracker.evaluate key eval now).2.2) ∧
      next.standing = Function.update s.standing key (s.next :: s.standing key) ∧
      next.prunedAt = s.prunedAt := by
  cases stepped
  exact ⟨rfl, rfl, rfl, rfl, rfl⟩

theorem Counts.sequence (counts : s.Counts) :
    (s.tracker.advance (s.tracker.entries.getD key {}) eval now).1.sequence =
      (s.current key).length + 1 := by
  rw [(advance_outcome s.tracker (s.tracker.entries.getD key {}) eval now).sequence,
    Std.ExtTreeMap.getD_eq_getD_getElem?]
  cases held : s.tracker.entries[key]? with
  | none => rw [(counts.absent key).mp held]; rfl
  | some st => rw [Option.getD_some, counts.counted key st held]

theorem Counts.evaluate (counts : s.Counts)
    (stepped : s.step (.evaluate key eval now) = some next) : next.Counts := by
  obtain ⟨tracker, made, tokens, standing, pruned⟩ := step_evaluate stepped
  have here : next.current key = s.next :: s.current key := by
    unfold current
    rw [standing, pruned, Function.update_self]
    exact List.filter_cons_of_pos (decide_eq_true (counts.pruned key))
  have elsewhere : ∀ k, k ≠ key → next.current k = s.current k := by
    intro k other
    exact current_congr (by rw [standing, Function.update_of_ne other]) (by rw [pruned])
  have entries : ∀ k, next.tracker.entries[k]? =
      if k = key then some (s.tracker.advance (s.tracker.entries.getD key {}) eval now).1
      else s.tracker.entries[k]? := by
    intro k
    rw [tracker]
    exact entries_insert k
  refine ⟨?absent, ?counted, ?descending, ?made, ?pruned, ?tokens⟩
  case absent =>
    intro k
    by_cases same : k = key
    · rw [same, entries, if_pos rfl, here]
      exact iff_of_false nofun (List.cons_ne_nil _ _)
    · rw [entries, if_neg same, elsewhere k same]
      exact counts.absent k
  case counted =>
    intro k st held
    rw [entries] at held
    by_cases same : k = key
    · rw [if_pos same] at held
      cases held
      rw [same, here, List.length_cons]
      exact counts.sequence
    · rw [if_neg same] at held
      rw [elsewhere k same]
      exact counts.counted k st held
  case descending =>
    intro k
    rw [standing]
    by_cases same : k = key
    · rw [same, Function.update_self]
      exact List.Pairwise.cons (counts.made key) (counts.descending key)
    · rw [Function.update_of_ne same]
      exact counts.descending k
  case made =>
    intro k id member
    rw [standing] at member
    rw [made]
    by_cases same : k = key
    · rw [same, Function.update_self] at member
      rcases List.mem_cons.mp member with rfl | before
      · exact Nat.lt_succ_self _
      · exact Nat.lt_succ_of_lt (counts.made key id before)
    · rw [Function.update_of_ne same] at member
      exact Nat.lt_succ_of_lt (counts.made k id member)
  case pruned =>
    intro k
    rw [pruned, made]
    exact Nat.le_succ_of_le (counts.pruned k)
  case tokens =>
    intro id undo held
    rw [tokens] at held
    by_cases newest : id = s.next
    · rw [newest, Function.update_self] at held
      cases held
      refine ⟨rfl, by omega, ?_, fun _ => ⟨s.current key, ?_, counts.sequence, ?_⟩⟩
      · exact (advance_outcome s.tracker _ eval now).sequence.symm
      · rw [newest]
        exact here ▸ List.suffix_refl _
      · rw [ne_eq, ← counts.absent key]
        exact Option.isSome_iff_ne_none
    · rw [Function.update_of_ne newest] at held
      have token := counts.tokens id undo held
      refine ⟨token.captured, by rw [made]; exact Nat.lt_succ_of_lt token.made, token.counted,
        fun since => ?_⟩
      rw [pruned] at since
      obtain ⟨older, suffix, placed⟩ := token.placed since
      refine ⟨older, ?_, placed⟩
      by_cases same : undo.key = key
      · rw [same] at suffix ⊢
        rw [here]
        exact suffix.trans (List.suffix_cons _ _)
      · rw [elsewhere _ same]
        exact suffix

end

section
variable {id : Nat} {undo : StateUndo}

theorem step_rollback (stepped : s.step (.rollback id) = some next) :
    ∃ undo, s.tokens id = some undo ∧ next.tracker = s.tracker.rollback undo ∧
      next.next = s.next ∧ next.tokens = Function.update s.tokens id none ∧
      next.prunedAt = s.prunedAt ∧ next.standing =
        if s.tracker.meets undo = true then
          Function.update s.standing undo.key ((s.standing undo.key).filter fun other => other ≠ id)
        else s.standing := by
  unfold step at stepped
  dsimp only at stepped
  split at stepped
  next => cases stepped
  next undo held =>
    cases stepped
    exact ⟨undo, held, rfl, rfl, rfl, rfl, rfl⟩

/-- A rollback that meets its entry takes the channel back to the entry before. -/
theorem Remembers.restored (token : s.Remembers id undo) (meets : s.tracker.meets undo = true)
    (k : String) : (s.tracker.rollback undo).entries[k]? =
      if k = undo.key then (if undo.existed = true then some undo.previous else none)
      else s.tracker.entries[k]? := by
  rw [(rollback_of_meets token.captured meets).2]
  by_cases existed : undo.existed = true
  · rw [if_pos existed, if_pos existed]
    exact entries_insert k
  · rw [if_neg existed, if_neg existed]
    exact entries_erase k

theorem Counts.rollback_met (counts : s.Counts) (held : s.tokens id = some undo)
    (meets : s.tracker.meets undo = true) (since : s.prunedAt undo.key ≤ id)
    (tracker : next.tracker = s.tracker.rollback undo) (same_next : next.next = s.next)
    (tokens : next.tokens = Function.update s.tokens id none)
    (pruned : next.prunedAt = s.prunedAt)
    (standing : next.standing =
      Function.update s.standing undo.key ((s.standing undo.key).filter fun other => other ≠ id)) :
    next.Counts := by
  have token := counts.tokens id undo held
  have restored := tracker ▸ token.restored meets
  obtain ⟨older, newest, sequence, existed⟩ := counts.newest held meets since
  have fresh : id ∉ older := by
    intro member
    have sorted : (s.current undo.key).Pairwise fun a b => b < a :=
      (counts.descending undo.key).filter _
    rw [newest] at sorted
    exact Nat.lt_irrefl id (List.rel_of_pairwise_cons sorted member)
  have here : next.current undo.key = older := by
    have without : (s.current undo.key).filter (fun other => decide (other ≠ id)) = older := by
      rw [newest, List.filter_cons_of_neg (by simp), List.filter_eq_self]
      intro other member
      exact decide_eq_true fun equal => fresh (equal ▸ member)
    rw [← without]
    unfold current
    rw [standing, pruned, Function.update_self, List.filter_filter, List.filter_filter]
    exact List.filter_congr fun other _ => Bool.and_comm _ _
  have elsewhere : ∀ k, k ≠ undo.key → next.current k = s.current k := by
    intro k other
    exact current_congr (by rw [standing, Function.update_of_ne other]) (by rw [pruned])
  refine ⟨?absent, ?counted, ?descending, ?made, ?pruned, ?tokens⟩
  case absent =>
    intro k
    rw [restored]
    by_cases same : k = undo.key
    · rw [if_pos same, same, here]
      by_cases was : undo.existed = true
      · rw [if_pos was]
        exact iff_of_false nofun (existed.mp was)
      · rw [if_neg was]
        exact iff_of_true rfl (not_not.mp fun some_older => was (existed.mpr some_older))
    · rw [if_neg same, elsewhere k same]
      exact counts.absent k
  case counted =>
    intro k st present
    rw [restored] at present
    by_cases same : k = undo.key
    · rw [if_pos same] at present
      obtain ⟨-, present⟩ := Option.ite_none_right_eq_some.mp present
      have counted := token.counted
      rw [same, here, ← Option.some.inj present]
      omega
    · rw [if_neg same] at present
      rw [elsewhere k same]
      exact counts.counted k st present
  case descending =>
    intro k
    rw [standing]
    by_cases same : k = undo.key
    · rw [same, Function.update_self]
      exact (counts.descending _).filter _
    · rw [Function.update_of_ne same]
      exact counts.descending k
  case made =>
    intro k other member
    rw [standing] at member
    rw [same_next]
    by_cases same : k = undo.key
    · rw [same, Function.update_self] at member
      exact counts.made _ other (List.mem_of_mem_filter member)
    · rw [Function.update_of_ne same] at member
      exact counts.made k other member
  case pruned =>
    intro k
    rw [pruned, same_next]
    exact counts.pruned k
  case tokens =>
    intro other undo' held'
    rw [tokens] at held'
    by_cases used : other = id
    · rw [used, Function.update_self] at held'
      cases held'
    · rw [Function.update_of_ne used] at held'
      have token' := counts.tokens other undo' held'
      refine ⟨token'.captured, by rw [same_next]; exact token'.made, token'.counted,
        fun recent => ?_⟩
      rw [pruned] at recent
      obtain ⟨older', suffix, placed⟩ := token'.placed recent
      refine ⟨older', ?_, placed⟩
      by_cases same : undo'.key = undo.key
      · rw [same, newest] at suffix
        rw [same, here]
        rcases List.suffix_cons_iff.mp suffix with whole | inside
        · exact absurd (List.cons.inj whole).1 used
        · exact inside
      · rw [elsewhere _ same]
        exact suffix

theorem Counts.rollback (counts : s.Counts) (same : s.SameEntry (.rollback id) next)
    (stepped : s.step (.rollback id) = some next) : next.Counts := by
  obtain ⟨undo, held, tracker, same_next, tokens, pruned, standing⟩ := step_rollback stepped
  by_cases meets : s.tracker.meets undo = true
  · rw [if_pos meets] at standing
    exact counts.rollback_met held meets (same id undo rfl held meets) tracker same_next tokens
      pruned standing
  · rw [if_neg meets] at standing
    rw [rollback_of_not_meets (Bool.not_eq_true _ ▸ meets)] at tracker
    have current : ∀ key, next.current key = s.current key := fun key =>
      current_congr (by rw [standing]) (by rw [pruned])
    refine ⟨?_, ?_, ?_, ?_, ?_, ?_⟩
    · simp only [tracker, current]
      exact counts.absent
    · simp only [tracker, current]
      exact counts.counted
    · rw [standing]
      exact counts.descending
    · rw [standing, same_next]
      exact counts.made
    · rw [pruned, same_next]
      exact counts.pruned
    · intro other undo' held'
      rw [tokens] at held'
      by_cases used : other = id
      · rw [used, Function.update_self] at held'
        cases held'
      · rw [Function.update_of_ne used] at held'
        have token := counts.tokens other undo' held'
        refine ⟨token.captured, by rw [same_next]; exact token.made, token.counted, ?_⟩
        rw [pruned, current]
        exact token.placed

end

/-- A channel that `Prune` drops starts anew; of the others nothing changes. -/
theorem Counts.prune (counts : s.Counts) {now : Time} {idle : Duration}
    (stepped : s.step (.prune now idle) = some next) : next.Counts := by
  have entries : ∀ key : String, next.tracker.entries[key]? = s.tracker.entries[key]? ∨
      next.tracker.entries[key]? = none := by
    intro key
    cases stepped
    unfold StateTracker.prune
    dsimp only
    rw [Std.ExtTreeMap.getElem?_filter']
    cases s.tracker.entries[key]? with
    | none => exact Or.inl rfl
    | some st =>
      rw [Option.filter_some]
      split
      · exact Or.inl rfl
      · exact Or.inr rfl
  obtain ⟨same_next, tokens, standing, pruned⟩ : next.next = s.next ∧ next.tokens = s.tokens ∧
      next.standing = s.standing ∧ next.prunedAt = fun key =>
        if s.tracker.entries[key]?.isSome && next.tracker.entries[key]?.isNone then s.next
        else s.prunedAt key := by
    cases stepped
    exact ⟨rfl, rfl, rfl, rfl⟩
  have channel : ∀ key, (next.tracker.entries[key]? = none ∧ next.current key = [] ∧
        next.prunedAt key = s.next) ∨
      (next.tracker.entries[key]? = s.tracker.entries[key]? ∧ next.current key = s.current key ∧
        next.prunedAt key = s.prunedAt key) := by
    intro key
    by_cases dropped : (s.tracker.entries[key]?.isSome && next.tracker.entries[key]?.isNone) = true
    · have late : next.prunedAt key = s.next := by
        rw [pruned]
        exact if_pos dropped
      refine Or.inl ⟨Option.isNone_iff_eq_none.mp (Bool.and_eq_true_iff.mp dropped).2, ?_, late⟩
      refine List.filter_eq_nil_iff.mpr fun id member => ?_
      have before := counts.made key id (standing ▸ member)
      rw [late, decide_eq_true_eq]
      exact Nat.not_le_of_lt before
    · have since : next.prunedAt key = s.prunedAt key := by
        rw [pruned]
        exact if_neg dropped
      refine Or.inr ⟨?_, current_congr (by rw [standing]) since, since⟩
      rcases entries key with same | gone
      · exact same
      · rw [gone, Option.isNone_none, Bool.and_true, Bool.not_eq_true,
          Option.isSome_eq_false_iff, Option.isNone_iff_eq_none] at dropped
        rw [gone, dropped]
  refine ⟨?absent, ?counted, ?descending, ?made, ?pruned, ?tokens⟩
  case absent =>
    intro key
    rcases channel key with ⟨gone, empty, -⟩ | ⟨entry, current, -⟩
    · exact iff_of_true gone empty
    · rw [entry, current]
      exact counts.absent key
  case counted =>
    intro key st held
    rcases channel key with ⟨gone, -, -⟩ | ⟨entry, current, -⟩
    · rw [gone] at held
      cases held
    · rw [entry] at held
      rw [current]
      exact counts.counted key st held
  case descending =>
    rw [standing]
    exact counts.descending
  case made =>
    rw [standing, same_next]
    exact counts.made
  case pruned =>
    intro key
    rw [same_next]
    rcases channel key with ⟨-, -, late⟩ | ⟨-, -, since⟩
    · exact Nat.le_of_eq late
    · rw [since]
      exact counts.pruned key
  case tokens =>
    intro id undo held
    rw [tokens] at held
    have token := counts.tokens id undo held
    have made := token.made
    refine ⟨token.captured, by rw [same_next]; exact made, token.counted, fun recent => ?_⟩
    rcases channel undo.key with ⟨-, -, late⟩ | ⟨-, current, since⟩
    · rw [late] at recent
      omega
    · rw [since] at recent
      rw [current]
      exact token.placed recent

theorem Counts.preserved (counts : s.Counts) (stepped : s.step event = some next)
    (same : s.SameEntry event next) : next.Counts := by
  cases event with
  | evaluate key eval now => exact counts.evaluate stepped
  | rollback id => exact counts.rollback same stepped
  | prune now idle => exact counts.prune stepped

/-- No rollback of a run discards another evaluation exactly when no token meets the successor
of the entry it was made on. -/
theorem keeps_iff_sameEntry (reAlertInterval : Duration) (hysteresisRatio : Float)
    (events : List TokenEvent) :
    EveryStep step Keeps (start reAlertInterval hysteresisRatio) events ↔
      EveryStep step SameEntry (start reAlertInterval hysteresisRatio) events :=
  everyStep_iff step Counts events (fun _ _ _ _ counts _ => counts.keeps_iff)
    (fun _ _ _ _ counts stepped same => counts.preserved stepped same)
    (counts_start reAlertInterval hysteresisRatio)

def reading (breached : Bool) : RuleEvaluation where
  threshold := { ruleID := "vibration_limit", sensorID := "vibration", limit := 4.5 }
  observed := 0
  breached

/-- A quiet channel is pruned, and a breach recreates it before the first token is handed back. -/
def recreated : List TokenEvent :=
  [.evaluate "pump-1/vibration" (reading false) 0, .prune 10 5,
    .evaluate "pump-1/vibration" (reading true) 20, .rollback 0]

/-- The rollback deletes the alarm that the breach has raised. -/
theorem recreated_not_kept : ¬EveryStep step Keeps (start 0 0) recreated := by
  intro every
  obtain ⟨-, pruned⟩ := every _ rfl
  obtain ⟨-, breached⟩ := pruned _ rfl
  obtain ⟨-, handed⟩ := breached _ rfl
  obtain ⟨keeps, -⟩ := handed _ rfl
  have newer := keeps 0 _ rfl rfl (by decide +kernel) 1 (by decide +kernel)
  exact absurd newer (by decide)

end TokenRun
end OpenOntology.Resolution
