import OpenOntology.Library.NearestEven
import OpenOntology.Library.OrderedDict
import OpenOntology.Library.SlidingWindow

/-!
# The quota script

`SLIDING_WINDOW_SCRIPT` trims, counts and admits within one invocation, at one reading of
Redis's clock. A script's numbers are doubles: times and the window stay far below
`2 ^ 53` milliseconds, where these are exact integers, but nothing bounds a licence's
limit, so every operation on the limit rounds.
-/
namespace OpenOntology.Intercept
open Library

/-! ## Redis -/

/-- The reply of `TIME`. -/
structure RedisTime where
  seconds : Nat
  microseconds : Fin 1000000
deriving DecidableEq

def RedisTime.elapsed (t : RedisTime) : Nat := t.seconds * 1000000 + t.microseconds

/-- Members and their scores. -/
abbrev SortedSet := OrderedDict String Int

structure QuotaKey where
  hits : SortedSet
  expiresAt : Option Int

abbrev Redis := String → Option QuotaKey

/-- An expired key is no key. -/
def live (now : Int) (stored : Option QuotaKey) : Option QuotaKey :=
  stored.filter fun quota => quota.expiresAt.all (now ≤ ·)

/-- `ZREMRANGEBYSCORE key -inf max`; a set left empty goes with its key. -/
def zremrangebyscore (max : Int) (stored : Option QuotaKey) : Option QuotaKey :=
  (stored.map fun quota => { quota with hits := quota.hits.filter (max < ·.2) }).filter
    (!·.hits.entries.isEmpty)

/-- The scores of a key, in the order its members came. -/
def scores : Option QuotaKey → List Int
  | none => []
  | some quota => quota.hits.entries.map Prod.snd

def zcard (stored : Option QuotaKey) : Int := (scores stored).length

/-- The score that `ZRANGE key 0 0 WITHSCORES` returns. -/
def zrangeFirst (stored : Option QuotaKey) : Option Int := (scores stored).min?

def zadd (score : Int) (member : String) : Option QuotaKey → Option QuotaKey
  | none => some { hits := OrderedDict.toEnd {} member score, expiresAt := none }
  | some quota => some { quota with hits := quota.hits.toEnd member score }

def pexpire (now window : Int) (stored : Option QuotaKey) : Option QuotaKey :=
  stored.map fun quota => { quota with expiresAt := some (now + window) }

/-! ## The script -/

/-- What a script makes of an integer: `tonumber`, and the result of an operation. -/
def luaNumber (n : Int) : Int := nearestEven 53 n

/-- A script's number as an integer reply. C leaves a value out of range open; this is
what x86-64 makes of it. -/
def toLongLong (n : Int) : Int := if -2 ^ 63 ≤ n ∧ n < 2 ^ 63 then n else -2 ^ 63

structure Reply where
  allowed : Int
  remaining : Int
  retryAfterMs : Int
deriving DecidableEq

/-- `now`, in milliseconds. -/
def RedisTime.now (clock : RedisTime) : Int :=
  clock.seconds * 1000 + (clock.microseconds : Nat) / 1000

def slidingWindowScript (redis : Redis) (key : String) (window limit : Int) (member : String)
    (clock : RedisTime) : Redis × Reply :=
  let limit := luaNumber limit
  let now := clock.now
  let quota := zremrangebyscore (now - window) (live now (redis key))
  let used := zcard quota
  if limit ≤ used then
    let retry := ((zrangeFirst quota).map fun oldest => max 0 (oldest + window - now)).getD 0
    (Function.update redis key (pexpire now window quota),
      { allowed := 0, remaining := 0, retryAfterMs := retry })
  else
    (Function.update redis key (pexpire now window (zadd now member quota)),
      { allowed := 1
        remaining := toLongLong (luaNumber (luaNumber (limit - used) - 1))
        retryAfterMs := 0 })

/-! ## Invocations by any number of workers -/

structure Invocation where
  clock : RedisTime
  key : String
  limit : Int
  member : String

variable (window : Int)

def invoke (redis : Redis) (i : Invocation) : Redis × Reply :=
  slidingWindowScript redis i.key window i.limit i.member i.clock

def invokeAll (redis : Redis) (history : List Invocation) : Redis :=
  history.foldl (fun redis i => (invoke window redis i).1) redis

/-- Each invocation with its reply. -/
def answers : Redis → List Invocation → List (Invocation × Reply)
  | _, [] => []
  | redis, i :: rest => (i, (invoke window redis i).2) :: answers (invoke window redis i).1 rest

/-- When the key's requests were admitted, latest first. -/
def admissions (key : String) (answered : List (Invocation × Reply)) : List Int :=
  ((answered.filter fun (i, reply) => i.key = key ∧ reply.allowed = 1).map
    (·.1.clock.now)).reverse

/-! ## What the commands leave of a key -/

def members : Option QuotaKey → List String
  | none => []
  | some quota => quota.hits.entries.map Prod.fst

theorem scores_zremrangebyscore (max : Int) (stored : Option QuotaKey) :
    scores (zremrangebyscore max stored) = (scores stored).filter (max < ·) := by
  cases stored with
  | none => rfl
  | some quota =>
    have kept : (scores (some quota)).filter (max < ·) =
        (quota.hits.filter (max < ·.2)).entries.map Prod.snd := by
      show (quota.hits.entries.map Prod.snd).filter _ = (quota.hits.entries.filter _).map Prod.snd
      rw [List.filter_map]
      rfl
    rw [kept]
    unfold zremrangebyscore
    rw [Option.map_some, Option.filter_some]
    split
    · rfl
    · rename_i empty
      simp only [Bool.not_eq_true, Bool.not_eq_false', List.isEmpty_iff] at empty
      simp [scores, empty]

theorem members_zremrangebyscore (max : Int) (stored : Option QuotaKey) :
    members (zremrangebyscore max stored) ⊆ members stored := by
  cases stored with
  | none => exact List.Subset.refl _
  | some quota =>
    unfold zremrangebyscore
    rw [Option.map_some, Option.filter_some]
    split
    · exact (List.filter_sublist.map Prod.fst).subset
    · exact List.nil_subset _

theorem members_live (now : Int) (stored : Option QuotaKey) :
    members (live now stored) ⊆ members stored := by
  cases stored with
  | none => exact List.Subset.refl _
  | some quota =>
    unfold live
    rw [Option.filter_some]
    split
    · exact List.Subset.refl _
    · exact List.nil_subset _

@[simp] theorem scores_pexpire (now : Int) (stored : Option QuotaKey) :
    scores (pexpire now window stored) = scores stored := by
  cases stored <;> rfl

@[simp] theorem members_pexpire (now : Int) (stored : Option QuotaKey) :
    members (pexpire now window stored) = members stored := by
  cases stored <;> rfl

theorem scores_zadd {score : Int} {member : String} {stored : Option QuotaKey}
    (fresh : member ∉ members stored) :
    scores (zadd score member stored) = scores stored ++ [score] := by
  cases stored with
  | none => rfl
  | some quota =>
    show (quota.hits.toEnd member score).entries.map Prod.snd = _
    rw [OrderedDict.entries_toEnd_of_fresh _ _ fresh, List.map_append]
    rfl

theorem members_zadd {score : Int} {member : String} {stored : Option QuotaKey}
    (fresh : member ∉ members stored) :
    members (zadd score member stored) = members stored ++ [member] := by
  cases stored with
  | none => rfl
  | some quota =>
    show (quota.hits.toEnd member score).entries.map Prod.fst = _
    rw [OrderedDict.entries_toEnd_of_fresh _ _ fresh, List.map_append]
    rfl

/-- The key as an invocation at `now` finds it, trimmed. -/
def trimmed (now : Int) (stored : Option QuotaKey) : Option QuotaKey :=
  zremrangebyscore (now - window) (live now stored)

theorem members_trimmed (now : Int) (stored : Option QuotaKey) :
    members (trimmed window now stored) ⊆ members stored :=
  List.Subset.trans (members_zremrangebyscore _ _) (members_live now stored)

/-- A key whose expiry was just set is trimmed later like one that never expires: by
then the window has left every score behind. -/
theorem scores_trimmed_pexpire {now later : Int} {stored : Option QuotaKey}
    (past : ∀ t ∈ scores stored, t ≤ now) :
    scores (trimmed window later (pexpire now window stored)) =
      (scores stored).filter (later - window < ·) := by
  unfold trimmed
  rw [scores_zremrangebyscore]
  cases stored with
  | none => rfl
  | some quota =>
    show (scores (live later (some { quota with expiresAt := some (now + window) }))).filter _ = _
    unfold live
    rw [Option.filter_some]
    split
    · rfl
    · rename_i expired
      simp only [Option.all_some, decide_eq_true_eq, not_le] at expired
      refine (List.filter_eq_nil_iff.mpr fun t member => ?_).symm
      have := past t member
      simp only [decide_eq_true_eq, not_lt]
      omega

/-! ## The key follows the admissions -/

/-- At every time from `now` on, the key shows the admissions the window covers. -/
structure Follows (now : Int) (log : List Int) (known : List String)
    (stored : Option QuotaKey) : Prop where
  covers : ∀ later, now ≤ later →
    scores (trimmed window later stored) = (held window later log).reverse
  members : members stored ⊆ known
  past : ∀ t ∈ log, t ≤ now
  sorted : log.Pairwise (· ≥ ·)

variable {window} {now later : Int} {log : List Int} {known : List String}
  {stored : Option QuotaKey}

theorem follows_none : Follows window now [] known none where
  covers := fun _ _ => rfl
  members := List.nil_subset _
  past := nofun
  sorted := List.Pairwise.nil

theorem Follows.mono (h : Follows window now log known stored) {later : Int} {more : List String}
    (le : now ≤ later) (sub : known ⊆ more) : Follows window later log more stored where
  covers := fun t after => h.covers t (le.trans after)
  members := List.Subset.trans h.members sub
  past := fun t member => (h.past t member).trans le
  sorted := h.sorted

theorem Follows.zcard_trimmed (h : Follows window now log known stored) (le : now ≤ later) :
    zcard (trimmed window later stored) = (held window later log).length := by
  unfold zcard
  rw [h.covers later le, List.length_reverse]

/-- A rejected request leaves the admissions as they are. -/
theorem Follows.reject (h : Follows window now log known stored) (le : now ≤ later) :
    Follows window later log known (pexpire later window (trimmed window later stored)) where
  covers := by
    intro t after
    have past : ∀ x ∈ scores (trimmed window later stored), x ≤ later := by
      rw [h.covers later le]
      intro x member
      exact (h.past x (List.mem_filter.mp (List.mem_reverse.mp member)).1).trans le
    rw [scores_trimmed_pexpire window past, h.covers later le, List.filter_reverse]
    exact congrArg List.reverse (held_held after log)
  members := by
    rw [members_pexpire]
    exact List.Subset.trans (members_trimmed window later stored) h.members
  past := fun t member => (h.past t member).trans le
  sorted := h.sorted

/-- An admitted one joins them. -/
theorem Follows.admitted (h : Follows window now log known stored) (le : now ≤ later)
    (positive : 0 < window) {member : String} (fresh : member ∉ known) :
    Follows window later (later :: log) (member :: known)
      (pexpire later window (zadd later member (trimmed window later stored))) := by
  have unheld : member ∉ OpenOntology.Intercept.members (trimmed window later stored) := by
    intro held
    exact fresh (h.members (members_trimmed window later stored held))
  have scored : scores (zadd later member (trimmed window later stored)) =
      (held window later (later :: log)).reverse := by
    rw [scores_zadd unheld, h.covers later le, held_cons_of_pos positive, List.reverse_cons]
  refine ⟨?_, ?_, ?_, ?_⟩
  · intro t after
    have past : ∀ x ∈ scores (zadd later member (trimmed window later stored)), x ≤ later := by
      rw [scored]
      intro x held
      rcases List.mem_cons.mp (List.mem_filter.mp (List.mem_reverse.mp held)).1 with rfl | earlier
      · exact le_rfl
      · exact (h.past x earlier).trans le
    rw [scores_trimmed_pexpire window past, scored, List.filter_reverse]
    exact congrArg List.reverse (held_held after _)
  · rw [members_pexpire, members_zadd unheld]
    intro m held
    rcases List.mem_append.mp held with earlier | same
    · exact List.mem_cons_of_mem _ (h.members (members_trimmed window later stored earlier))
    · rw [List.mem_singleton.mp same]
      exact List.mem_cons_self
  · intro t member
    rcases List.mem_cons.mp member with rfl | earlier
    · exact le_rfl
    · exact (h.past t earlier).trans le
  · exact List.pairwise_cons.mpr ⟨fun t member => (h.past t member).trans le, h.sorted⟩

/-! ## One invocation -/

variable {redis : Redis} {i : Invocation} {key : String} {limit : Int}

theorem invoke_other (other : i.key ≠ key) : (invoke window redis i).1 key = redis key := by
  unfold invoke slidingWindowScript
  dsimp only
  split
  · exact Function.update_of_ne (Ne.symm other) _ _
  · exact Function.update_of_ne (Ne.symm other) _ _

theorem invoke_reject
    (full : luaNumber i.limit ≤ zcard (trimmed window i.clock.now (redis i.key))) :
    invoke window redis i =
      (Function.update redis i.key
        (pexpire i.clock.now window (trimmed window i.clock.now (redis i.key))),
      { allowed := 0
        remaining := 0
        retryAfterMs := ((zrangeFirst (trimmed window i.clock.now (redis i.key))).map
          fun oldest => max 0 (oldest + window - i.clock.now)).getD 0 }) :=
  if_pos full

theorem invoke_admits
    (room : ¬luaNumber i.limit ≤ zcard (trimmed window i.clock.now (redis i.key))) :
    invoke window redis i =
      (Function.update redis i.key
        (pexpire i.clock.now window
          (zadd i.clock.now i.member (trimmed window i.clock.now (redis i.key)))),
      { allowed := 1
        remaining := toLongLong (luaNumber (luaNumber (luaNumber i.limit -
          zcard (trimmed window i.clock.now (redis i.key))) - 1))
        retryAfterMs := 0 }) :=
  if_neg room

/-- The script admits while the window covers fewer than the limit. -/
theorem invoke_allowed_iff : (invoke window redis i).2.allowed = 1 ↔
    zcard (trimmed window i.clock.now (redis i.key)) < luaNumber i.limit := by
  by_cases full : luaNumber i.limit ≤ zcard (trimmed window i.clock.now (redis i.key))
  · rw [invoke_reject full]
    simp [full]
  · rw [invoke_admits full]
    simpa using full

/-- The key's admissions after one more answered invocation. -/
def logged (key : String) (i : Invocation) (reply : Reply) (log : List Int) : List Int :=
  if i.key = key ∧ reply.allowed = 1 then i.clock.now :: log else log

theorem Follows.invoke (h : Follows window now log known (redis key)) (le : now ≤ i.clock.now)
    (positive : 0 < window) (fresh : i.member ∉ known) :
    Follows window i.clock.now (logged key i (invoke window redis i).2 log) (i.member :: known)
      ((invoke window redis i).1 key) := by
  by_cases same : i.key = key
  · subst same
    by_cases full : luaNumber i.limit ≤ zcard (trimmed window i.clock.now (redis i.key))
    · rw [invoke_reject full]
      dsimp only
      rw [Function.update_self, logged, if_neg (by simp)]
      exact (h.reject le).mono le_rfl (List.subset_cons_self _ _)
    · rw [invoke_admits full]
      dsimp only
      rw [Function.update_self, logged, if_pos ⟨rfl, rfl⟩]
      exact h.admitted le positive fresh
  · rw [invoke_other same, logged, if_neg fun both => same both.1]
    exact h.mono le (List.subset_cons_self _ _)

/-! ## Histories -/

theorem answers_append (redis : Redis) (first second : List Invocation) :
    answers window redis (first ++ second) =
      answers window redis first ++ answers window (invokeAll window redis first) second := by
  induction first generalizing redis with
  | nil => rfl
  | cons i rest ih =>
    show _ :: answers window _ (rest ++ second) = _
    rw [ih]
    rfl

theorem admissions_append (key : String) (first second : List (Invocation × Reply)) :
    admissions key (first ++ second) = admissions key second ++ admissions key first := by
  unfold admissions
  rw [List.filter_append, List.map_append, List.reverse_append]

theorem admissions_snoc (key : String) (past : List Invocation) (i : Invocation) :
    admissions key (answers window redis (past ++ [i])) =
      logged key i (invoke window (invokeAll window redis past) i).2
        (admissions key (answers window redis past)) := by
  rw [answers_append, admissions_append]
  unfold logged
  split
  · rename_i admits
    show admissions key [(i, _)] ++ _ = _
    unfold admissions
    rw [List.filter_cons_of_pos (by simpa using admits)]
    rfl
  · rename_i rejects
    show admissions key [(i, _)] ++ _ = _
    unfold admissions
    rw [List.filter_cons_of_neg (by simpa using rejects)]
    rfl

theorem invokeAll_nil (redis : Redis) : invokeAll window redis [] = redis := rfl

theorem invokeAll_append (redis : Redis) (first second : List Invocation) :
    invokeAll window redis (first ++ second) =
      invokeAll window (invokeAll window redis first) second :=
  List.foldl_append

/-- Redis's clock never runs back and every hit has its own member. -/
structure Serialized (history : List Invocation) : Prop where
  ordered : history.Pairwise fun a b => a.clock.elapsed ≤ b.clock.elapsed
  unique : (history.map Invocation.member).Nodup

theorem RedisTime.now_mono {a b : RedisTime} (le : a.elapsed ≤ b.elapsed) : a.now ≤ b.now := by
  unfold elapsed at le
  unfold now
  have first := a.microseconds.isLt
  have second := b.microseconds.isLt
  omega

theorem Serialized.init {first second : List Invocation} (h : Serialized (first ++ second)) :
    Serialized first where
  ordered := (List.pairwise_append.mp h.ordered).1
  unique := by
    have unique := h.unique
    rw [List.map_append] at unique
    exact (List.nodup_append.mp unique).1

theorem Serialized.last {past : List Invocation} (h : Serialized (past ++ [i])) :
    (∀ j ∈ past, j.clock.now ≤ i.clock.now) ∧ i.member ∉ past.map Invocation.member := by
  constructor
  · intro j earlier
    have ordered := (List.pairwise_append.mp h.ordered).2.2 j earlier i List.mem_cons_self
    exact RedisTime.now_mono ordered
  · intro again
    have unique := h.unique
    rw [List.map_append] at unique
    exact (List.nodup_append.mp unique).2.2 i.member again i.member List.mem_cons_self rfl

/-- Redis before any request. -/
def fresh : Redis := fun _ => none

/-- After every history each key shows its admissions. -/
theorem follows_history (positive : 0 < window) (key : String) {history : List Invocation}
    (h : Serialized history) (past : ∀ j ∈ history, j.clock.now ≤ now) :
    Follows window now (admissions key (answers window fresh history))
      (history.map Invocation.member) (invokeAll window fresh history key) := by
  induction history using List.reverseRecOn generalizing now with
  | nil => exact follows_none
  | append_singleton before i ih =>
    obtain ⟨earlier, unused⟩ := h.last
    have stepped := (ih h.init earlier).invoke (i := i) le_rfl positive unused
    rw [admissions_snoc, invokeAll_append]
    refine stepped.mono (past i (by simp)) ?_
    intro m member
    simpa [or_comm] using member

/-! ## The quota of one key -/

/-- A serialized history in which the key keeps one limit. -/
structure Metered (key : String) (limit : Int) (history : List Invocation) : Prop
    extends Serialized history where
  limits : ∀ i ∈ history, i.key = key → i.limit = limit

/-- The three promises of the quota. -/
structure Enforced (window : Int) (key : String) (limit : Int) (history : List Invocation) :
    Prop where
  bound : ∀ a : Int, ((admissions key (answers window fresh history)).filter
    fun t => a ≤ t ∧ t < a + window).length ≤ limit
  remaining : ∀ before i after, history = before ++ i :: after → i.key = key →
    let answered := invoke window (invokeAll window fresh before) i
    answered.2.allowed = 1 → answered.2.remaining = limit - zcard (answered.1 key)
  retry : ∀ before i between j after, history = before ++ i :: (between ++ j :: after) →
    i.key = key → j.key = key →
    let answered := invoke window (invokeAll window fresh before) i
    answered.2.allowed ≠ 1 → admissions key (answers window answered.1 between) = [] →
    i.clock.now + answered.2.retryAfterMs ≤ j.clock.now →
    (invoke window (invokeAll window answered.1 between) j).2.allowed = 1

theorem Metered.init {first second : List Invocation} (h : Metered key limit (first ++ second)) :
    Metered key limit first where
  toSerialized := h.toSerialized.init
  limits := fun i member => h.limits i (List.mem_append_left _ member)

/-- The log a history's last invocation finds, and the hits it counts. -/
theorem Serialized.counts (positive : 0 < window) {past : List Invocation}
    (h : Serialized (past ++ [i])) :
    zcard (trimmed window i.clock.now (invokeAll window fresh past i.key)) =
      (held window i.clock.now (admissions i.key (answers window fresh past))).length :=
  (follows_history positive i.key h.init h.last.1).zcard_trimmed le_rfl

theorem luaNumber_of_le (nonneg : 0 ≤ limit) (small : limit ≤ 2 ^ 53) : luaNumber limit = limit :=
  nearestEven_of_le (by decide) nonneg small

/-- No request is admitted while the window is full. -/
theorem Metered.admitted (positive : 0 < window) (exact : luaNumber limit = limit)
    {history : List Invocation} (h : Metered key limit history) :
    Admitted window limit (admissions key (answers window fresh history)) := by
  induction history using List.reverseRecOn with
  | nil => exact trivial
  | append_singleton past i ih =>
    rw [admissions_snoc]
    unfold logged
    split
    · rename_i admits
      obtain ⟨rfl, allowed⟩ := admits
      have room := invoke_allowed_iff.mp allowed
      rw [h.toSerialized.counts positive, h.limits i (by simp) rfl, exact] at room
      have follows := follows_history positive i.key h.toSerialized.init h.toSerialized.last.1
      exact ⟨room, follows.past, ih h.init⟩
    · exact ih h.init

theorem Metered.bound (positive : 0 < window) (one_le : 1 ≤ limit)
    (exact : luaNumber limit = limit) {history : List Invocation} (h : Metered key limit history)
    (a : Int) : ((admissions key (answers window fresh history)).filter
      fun t => a ≤ t ∧ t < a + window).length ≤ limit :=
  (h.admitted positive exact).interval_le (by omega) a

/-- An admitted request leaves the hits it counted and its own. -/
theorem zcard_invoke (positive : 0 < window) {past : List Invocation}
    (h : Serialized (past ++ [i]))
    (allowed : (invoke window (invokeAll window fresh past) i).2.allowed = 1) :
    zcard ((invoke window (invokeAll window fresh past) i).1 i.key) =
      zcard (trimmed window i.clock.now (invokeAll window fresh past i.key)) + 1 := by
  have room := invoke_allowed_iff.mp allowed
  have follows := follows_history positive i.key h.init h.last.1
  have unheld : i.member ∉ members (trimmed window i.clock.now
      (invokeAll window fresh past i.key)) := by
    intro held
    exact h.last.2 (follows.members (members_trimmed _ _ _ held))
  rw [invoke_admits (not_le.mpr room)]
  dsimp only
  rw [Function.update_self]
  unfold zcard
  rw [scores_pexpire, scores_zadd unheld, List.length_append]
  simp

theorem Metered.remaining (positive : 0 < window) (small : limit ≤ 2 ^ 53) {past : List Invocation}
    (h : Metered key limit (past ++ [i])) (same : i.key = key)
    (allowed : (invoke window (invokeAll window fresh past) i).2.allowed = 1) :
    (invoke window (invokeAll window fresh past) i).2.remaining =
      limit - zcard ((invoke window (invokeAll window fresh past) i).1 key) := by
  subst same
  have room := invoke_allowed_iff.mp allowed
  have counted : 0 ≤ zcard (trimmed window i.clock.now (invokeAll window fresh past i.key)) :=
    Int.natCast_nonneg _
  rw [zcard_invoke positive h.toSerialized allowed, invoke_admits (not_le.mpr room)]
  rw [h.limits i (by simp) rfl] at room ⊢
  dsimp only
  have positive_limit : 0 ≤ limit := by
    by_contra negative
    have nonpos : luaNumber limit ≤ 0 := nearestEven_nonpos (by omega)
    omega
  rw [luaNumber_of_le positive_limit small] at room ⊢
  generalize zcard (trimmed window i.clock.now (invokeAll window fresh past i.key)) = used at *
  have difference : luaNumber (limit - used) = limit - used :=
    luaNumber_of_le (by omega) (by omega)
  rw [difference, luaNumber_of_le (by omega) (by omega)]
  unfold toLongLong
  rw [if_pos (by omega)]
  ring

/-- A request is rejected for as long as its oldest hit stays in the window. -/
theorem Metered.oldest (positive : 0 < window) (one_le : 1 ≤ limit)
    (exact : luaNumber limit = limit) {past : List Invocation}
    (h : Metered key limit (past ++ [i])) (same : i.key = key)
    (rejected : (invoke window (invokeAll window fresh past) i).2.allowed ≠ 1) :
    ∃ oldest ∈ held window i.clock.now (admissions key (answers window fresh past)),
      oldest + window ≤
        i.clock.now + (invoke window (invokeAll window fresh past) i).2.retryAfterMs := by
  subst same
  have full := not_lt.mp fun room => rejected (invoke_allowed_iff.mpr room)
  have follows := follows_history positive i.key h.toSerialized.init h.toSerialized.last.1
  have covers := follows.covers i.clock.now le_rfl
  have some_hit : scores (trimmed window i.clock.now (invokeAll window fresh past i.key)) ≠ [] := by
    intro none
    rw [h.limits i (by simp) rfl, exact, zcard, none] at full
    simp only [List.length_nil, Nat.cast_zero] at full
    omega
  obtain ⟨oldest, first⟩ := Option.ne_none_iff_exists'.mp fun none =>
    some_hit (List.min?_eq_none_iff.mp none)
  refine ⟨oldest, ?_, ?_⟩
  · have member := List.min?_mem first
    rw [covers] at member
    exact List.mem_reverse.mp member
  · rw [invoke_reject full]
    dsimp only
    rw [zrangeFirst, first, Option.map_some, Option.getD_some]
    omega

theorem Metered.retry (positive : 0 < window) (one_le : 1 ≤ limit)
    (exact : luaNumber limit = limit) {past between : List Invocation} {j : Invocation}
    (h : Metered key limit (past ++ i :: (between ++ [j]))) (same : i.key = key)
    (same' : j.key = key)
    (rejected : (invoke window (invokeAll window fresh past) i).2.allowed ≠ 1)
    (idle : admissions key
      (answers window (invoke window (invokeAll window fresh past) i).1 between) = [])
    (waited : i.clock.now + (invoke window (invokeAll window fresh past) i).2.retryAfterMs ≤
      j.clock.now) :
    (invoke window (invokeAll window (invoke window (invokeAll window fresh past) i).1 between)
      j).2.allowed = 1 := by
  have until_j : past ++ i :: (between ++ [j]) = (past ++ [i] ++ between) ++ [j] := by simp
  have until_i : past ++ i :: (between ++ [j]) = (past ++ [i]) ++ (between ++ [j]) := by simp
  have at_i : Metered key limit (past ++ [i]) := Metered.init (until_i ▸ h)
  have at_j : Metered key limit ((past ++ [i] ++ between) ++ [j]) := until_j ▸ h
  have state : invokeAll window fresh (past ++ [i] ++ between) =
      invokeAll window (invoke window (invokeAll window fresh past) i).1 between := by
    rw [invokeAll_append, invokeAll_append]
    rfl
  -- nothing was admitted since the log the rejected request found
  have log : admissions key (answers window fresh (past ++ [i] ++ between)) =
      admissions key (answers window fresh past) := by
    rw [answers_append, admissions_append, invokeAll_append]
    show admissions key (answers window (invoke window (invokeAll window fresh past) i).1 between) ++
      _ = _
    rw [idle, List.nil_append, admissions_snoc, logged, if_neg fun both => rejected both.2]
  obtain ⟨oldest, member, passed⟩ := at_i.oldest positive one_le exact same rejected
  have order : i.clock.now ≤ j.clock.now := at_j.toSerialized.last.1 i (by simp)
  have fewer := held_length_lt order member (passed.trans waited)
  have follows := follows_history positive key at_i.toSerialized.init at_i.toSerialized.last.1
  have most := (at_i.init.admitted positive exact).held_le (by omega) follows.past
  subst same'
  rw [← state, invoke_allowed_iff, at_j.toSerialized.counts positive, log,
    h.limits j (by simp) rfl, exact]
  omega

theorem enforced_of_le (positive : 0 < window) (one_le : 1 ≤ limit) (small : limit ≤ 2 ^ 53)
    {history : List Invocation} (h : Metered key limit history) :
    Enforced window key limit history where
  bound := h.bound positive one_le (luaNumber_of_le (by omega) small)
  remaining := by
    intro before i after split same answered allowed
    subst split
    have shape : before ++ i :: after = (before ++ [i]) ++ after := by simp
    rw [shape] at h
    exact h.init.remaining positive small same allowed
  retry := by
    intro before i between j after split same same' answered rejected idle waited
    subst split
    have shape : before ++ i :: (between ++ j :: after) =
        (before ++ i :: (between ++ [j])) ++ after := by simp
    rw [shape] at h
    exact h.init.retry positive one_le (luaNumber_of_le (by omega) small) same same' rejected idle
      waited

/-! ## Limits that are no doubles -/

theorem eq_of_toLongLong {n reply : Int} (converted : toLongLong n = reply) (nonneg : 0 ≤ reply) :
    n = reply := by
  unfold toLongLong at converted
  split at converted
  · exact converted
  · omega

theorem luaNumber_even {n : Int} (large : 2 ^ 53 ≤ luaNumber n) : luaNumber n % 2 = 0 :=
  nearestEven_even (by decide) large

/-- What an admitted request is told remains, when `used` were counted before it. -/
def toldRemaining (limit used : Int) : Int :=
  toLongLong (luaNumber (luaNumber (luaNumber limit - used) - 1))

/-- Doubles past `2 ^ 53` are even: none counts down by one twice. -/
theorem not_countdown (large : 2 ^ 53 < limit) :
    ¬(toldRemaining limit 0 = limit - 1 ∧ toldRemaining limit 1 = limit - 2) := by
  rintro ⟨first, second⟩
  by_cases least : limit = 2 ^ 53 + 1
  · subst least
    revert first
    decide +kernel
  · have first := eq_of_toLongLong first (by omega)
    have second := eq_of_toLongLong second (by omega)
    have even_first := luaNumber_even (n := luaNumber (luaNumber limit - 0) - 1) (by omega)
    have even_second := luaNumber_even (n := luaNumber (luaNumber limit - 1) - 1) (by omega)
    omega

theorem invoke_remaining
    (allowed : (invoke window redis i).2.allowed = 1) : (invoke window redis i).2.remaining =
      toldRemaining i.limit (zcard (trimmed window i.clock.now (redis i.key))) := by
  rw [invoke_admits (not_le.mpr (invoke_allowed_iff.mp allowed))]
  rfl

/-- Past `2 ^ 53` two requests of one moment cannot both be told what remains. -/
theorem Metered.not_enforced (positive : 0 < window) (large : 2 ^ 53 < limit) {j : Invocation}
    (h : Metered key limit [i, j]) (same : i.key = key) (same' : j.key = key)
    (together : j.clock.now = i.clock.now) : ¬Enforced window key limit [i, j] := by
  intro enforced
  have rounded : 2 ^ 53 ≤ luaNumber limit := le_nearestEven (by decide) large.le
  have limit_i : i.limit = limit := h.limits i (by simp) same
  have limit_j : j.limit = limit := h.limits j (by simp) same'
  have nothing : zcard (trimmed window i.clock.now (fresh i.key)) = 0 := rfl
  have allowed_i : (invoke window fresh i).2.allowed = 1 := by
    rw [invoke_allowed_iff, limit_i, nothing]
    omega
  have log : admissions key (answers window fresh ([] ++ [i])) = [i.clock.now] := by
    rw [admissions_snoc]
    exact if_pos ⟨same, allowed_i⟩
  have used : zcard (trimmed window j.clock.now (invokeAll window fresh [i] j.key)) = 1 := by
    have whole : Serialized (([] ++ [i]) ++ [j]) := h.toSerialized
    have counted := whole.counts positive
    rw [same', log, together, held_cons_of_pos positive] at counted
    rw [same', together]
    exact counted
  have allowed_j : (invoke window (invokeAll window fresh [i]) j).2.allowed = 1 := by
    rw [invoke_allowed_iff, limit_j, used]
    omega
  have both : Serialized (([] ++ [i]) ++ [j]) := h.toSerialized
  have at_i := both.init
  have at_j : Serialized ([i] ++ [j]) := h.toSerialized
  have first : (invoke window fresh i).2.remaining = limit - zcard ((invoke window fresh i).1 key) :=
    enforced.remaining [] i [j] rfl same allowed_i
  have second := enforced.remaining [i] j [] rfl same' allowed_j
  have hits_i := zcard_invoke positive at_i allowed_i
  have hits_j := zcard_invoke positive at_j allowed_j
  rw [invokeAll_nil, nothing, zero_add, same] at hits_i
  rw [used, same'] at hits_j
  have told_i : toldRemaining limit 0 = limit - 1 := by
    rw [hits_i, invoke_remaining allowed_i, limit_i, nothing] at first
    exact first
  have told_j : toldRemaining limit 1 = limit - 2 := by
    rw [hits_j, invoke_remaining allowed_j, limit_j, used] at second
    exact second
  exact not_countdown large ⟨told_i, told_j⟩

/-! ## The exact limits -/

/-- The quota keeps its promises over every history exactly when the limit is a double
with every integer below it. -/
theorem quota_enforced_iff (key : String) (window limit : Int) (positive : 0 < window)
    (one_le : 1 ≤ limit) :
    (∀ history, Metered key limit history → Enforced window key limit history) ↔
      limit ≤ 2 ^ 53 := by
  constructor
  · intro enforced
    by_contra large
    let twice : List Invocation := [⟨⟨0, 0⟩, key, limit, "a"⟩, ⟨⟨0, 0⟩, key, limit, "b"⟩]
    have metered : Metered key limit twice := by
      refine ⟨⟨?_, ?_⟩, ?_⟩ <;> simp [twice]
    exact metered.not_enforced positive (not_le.mp large) rfl rfl rfl (enforced twice metered)
  · intro small history metered
    exact enforced_of_le positive one_le small metered

theorem quota_enforced_iff_six_hundred :
    (∀ history, Metered "lic_enterprise_demo" 600 history →
      Enforced 60000 "lic_enterprise_demo" 600 history) ↔ (600 : Int) ≤ 2 ^ 53 :=
  quota_enforced_iff "lic_enterprise_demo" 60000 600 (by decide) (by decide)

/-- A licence for `2 ^ 53 + 1` requests: the first leaves `2 ^ 53` and is told one less. -/
theorem quota_not_enforced :
    Metered "lic" 9007199254740993 [⟨⟨0, 0⟩, "lic", 9007199254740993, "a"⟩] ∧
      ¬Enforced 60000 "lic" 9007199254740993 [⟨⟨0, 0⟩, "lic", 9007199254740993, "a"⟩] := by
  constructor
  · refine ⟨⟨?_, ?_⟩, ?_⟩ <;> simp
  · intro enforced
    exact absurd (enforced.remaining [] _ [] rfl rfl (by decide +kernel)) (by decide +kernel)

end OpenOntology.Intercept
