import OpenOntology.Intercept.Quota

/-!
# The two rate limiters

`SlidingWindowLimiter` keeps its hits in deques of one process, `RedisSlidingWindowLimiter`
leaves them to the quota script. Both read one clock, in whole milliseconds; the seconds of
the first are those milliseconds exactly.
-/
namespace OpenOntology.Intercept
open Library

/-- `(allowed, remaining, retry_after)`. -/
abbrev Verdict := Bool × Int × Rat

/-! ## In one process -/

structure SlidingWindowLimiter where
  window : Rat
  hits : String → List Rat

def SlidingWindowLimiter.ofSeconds (windowSeconds : Int) : SlidingWindowLimiter where
  window := windowSeconds
  hits := fun _ => []

/-- The verdict is `none` where `bucket[0]` raises an `IndexError`. -/
def SlidingWindowLimiter.check (l : SlidingWindowLimiter) (now : Rat) (key : String)
    (limit : Int) : SlidingWindowLimiter × Option Verdict :=
  let cutoff := now - l.window
  let bucket := (l.hits key).dropWhile (· ≤ cutoff)
  if limit ≤ bucket.length then
    ({ l with hits := Function.update l.hits key bucket },
      bucket.head?.map fun oldest => (false, 0, max 0 (oldest + l.window - now)))
  else
    let bucket := bucket ++ [now]
    ({ l with hits := Function.update l.hits key bucket },
      some (true, max 0 (limit - bucket.length), 0))

/-! ## In Redis -/

structure RedisSlidingWindowLimiter where
  windowMs : Int
  keyPrefix : String := "quota:"
  failOpen : Bool := true

namespace RedisSlidingWindowLimiter

def ofSeconds (windowSeconds : Int) : RedisSlidingWindowLimiter where
  windowMs := windowSeconds * 1000

def keyFor (l : RedisSlidingWindowLimiter) (key : String) : String := l.keyPrefix ++ key

/-- What `check` makes of the script's reply, `none` when the transport raised. -/
def verdict (l : RedisSlidingWindowLimiter) (limit : Int) : Option Reply → Verdict
  | none => if l.failOpen then (true, limit, 0) else (false, 0, l.windowMs / 1000)
  | some reply =>
    if reply.allowed = 1 then (true, reply.remaining, 0) else (false, 0, reply.retryAfterMs / 1000)

/-- `check` with the store within reach. -/
def check (l : RedisSlidingWindowLimiter) (redis : Redis) (clock : RedisTime) (member key : String)
    (limit : Int) : Redis × Verdict :=
  let answered := slidingWindowScript redis (l.keyFor key) l.windowMs limit member clock
  (answered.1, l.verdict limit (some answered.2))

end RedisSlidingWindowLimiter

/-! ## One history for both -/

structure Call where
  millis : Nat
  key : String
  limit : Int
  member : String

/-- Redis's clock at the call. -/
def Call.clock (c : Call) : RedisTime where
  seconds := c.millis / 1000
  microseconds := ⟨c.millis % 1000 * 1000, by omega⟩

def inSeconds (millis : Int) : Rat := millis / 1000

/-- The monotonic clock at the call. -/
def Call.monotonic (c : Call) : Rat := inSeconds c.millis

/-- Both limiters answer every call, and alike. -/
def Agree (shared : RedisSlidingWindowLimiter) :
    SlidingWindowLimiter → Redis → List Call → Prop
  | _, _, [] => True
  | l, redis, c :: rest =>
    (l.check c.monotonic c.key c.limit).2 =
        some (shared.check redis c.clock c.member c.key c.limit).2 ∧
      Agree shared (l.check c.monotonic c.key c.limit).1
        (shared.check redis c.clock c.member c.key c.limit).1 rest

/-- The hits of the call's key still inside the window. -/
def hitsHeld (l : SlidingWindowLimiter) (c : Call) : Int :=
  ((l.hits c.key).filter (c.monotonic - l.window < ·)).length

/-- Doubles hold the limit on the right side of the hits and count down from it. -/
def CountsExactly (limit used : Int) : Prop :=
  (used < luaNumber limit ↔ used < limit) ∧
    (used < limit → toldRemaining limit used = limit - used - 1)

/-- The limit allows a request or one still counts, and doubles count it exactly. -/
def Metes (l : SlidingWindowLimiter) (c : Call) : Prop :=
  (1 ≤ c.limit ∨ 0 < hitsHeld l c) ∧ CountsExactly c.limit (hitsHeld l c)

def EveryMetes : SlidingWindowLimiter → List Call → Prop
  | _, [] => True
  | l, c :: rest => Metes l c ∧ EveryMetes (l.check c.monotonic c.key c.limit).1 rest

/-- Doubles count every limit up to `2 ^ 53` exactly. -/
theorem countsExactly_of_le {limit used : Int} (counted : 0 ≤ used) (small : limit ≤ 2 ^ 53) :
    CountsExactly limit used := by
  by_cases nonneg : 0 ≤ limit
  · unfold CountsExactly toldRemaining
    rw [luaNumber_of_le nonneg small]
    refine ⟨Iff.rfl, fun room => ?_⟩
    have difference : luaNumber (limit - used) = limit - used :=
      luaNumber_of_le (by omega) (by omega)
    rw [difference, luaNumber_of_le (by omega) (by omega)]
    exact if_pos (by omega)
  · have nonpos : luaNumber limit ≤ 0 := nearestEven_nonpos (by omega)
    refine ⟨⟨fun room => ?_, fun room => ?_⟩, fun room => ?_⟩ <;> omega

theorem everyMetes_of_bounded {history : List Call}
    (bounded : ∀ c ∈ history, 1 ≤ c.limit ∧ c.limit ≤ 2 ^ 53) (l : SlidingWindowLimiter) :
    EveryMetes l history := by
  induction history generalizing l with
  | nil => exact trivial
  | cons c rest ih =>
    obtain ⟨one_le, small⟩ := bounded c List.mem_cons_self
    have counted : 0 ≤ hitsHeld l c := Int.natCast_nonneg _
    exact ⟨⟨Or.inl one_le, countsExactly_of_le counted small⟩,
      ih (fun d member => bounded d (List.mem_cons_of_mem c member)) _⟩

/-! ## The two states of one history -/

/-- Each key's deque and sorted set hold the same admissions. -/
structure Corresponds (windowSeconds now : Int) (known : List String)
    (logs : String → List Int) (l : SlidingWindowLimiter) (redis : Redis) : Prop where
  window : l.window = windowSeconds
  follows : ∀ key, Follows (windowSeconds * 1000) now (logs key) known
    (redis ((RedisSlidingWindowLimiter.ofSeconds windowSeconds).keyFor key))
  bucket : ∀ key, ∃ at_t ≤ now, l.hits key =
    (held (windowSeconds * 1000) at_t (logs key)).reverse.map inSeconds

theorem Call.clock_now (c : Call) : c.clock.now = c.millis := by
  show ((c.millis / 1000 : Nat) : Int) * 1000 + ((c.millis % 1000 * 1000 : Nat) : Int) / 1000 = _
  omega

theorem inSeconds_le_iff {windowSeconds t now : Int} :
    inSeconds t ≤ inSeconds now - windowSeconds ↔ t ≤ now - windowSeconds * 1000 := by
  unfold inSeconds
  rw [le_sub_iff_add_le, le_sub_iff_add_le, ← sub_nonneg, ← sub_nonneg (a := now)]
  constructor
  · intro le
    have scaled : (0 : Rat) ≤ ((now - (t + windowSeconds * 1000) : Int) : Rat) := by
      push_cast
      linarith
    exact_mod_cast scaled
  · intro le
    have scaled : (0 : Rat) ≤ ((now - (t + windowSeconds * 1000) : Int) : Rat) := by
      exact_mod_cast le
    push_cast at scaled
    linarith

variable {windowSeconds now : Int} {known : List String} {logs : String → List Int}
  {l : SlidingWindowLimiter} {redis : Redis} {c : Call}

/-- The deque as the call finds it, trimmed. -/
def trimmedBucket (l : SlidingWindowLimiter) (c : Call) : List Rat :=
  (l.hits c.key).dropWhile (· ≤ c.monotonic - l.window)

theorem Corresponds.trims (h : Corresponds windowSeconds now known logs l redis)
    (le : now ≤ c.millis) : trimmedBucket l c =
      (held (windowSeconds * 1000) c.millis (logs c.key)).reverse.map inSeconds := by
  obtain ⟨at_t, earlier, same⟩ := h.bucket c.key
  rw [trimmedBucket, same, h.window, List.dropWhile_map, ← dropWhile_reverse_held (h.follows c.key).sorted
    (earlier.trans le)]
  refine congrArg (List.map inSeconds) (congrArg (List.dropWhile · _) (funext fun t => ?_))
  exact decide_eq_decide.mpr inSeconds_le_iff

theorem Corresponds.hitsHeld_eq (h : Corresponds windowSeconds now known logs l redis)
    (le : now ≤ c.millis) :
    hitsHeld l c = (held (windowSeconds * 1000) c.millis (logs c.key)).length := by
  obtain ⟨at_t, earlier, same⟩ := h.bucket c.key
  unfold hitsHeld
  rw [same, h.window, List.filter_map, List.length_map, List.filter_reverse, List.length_reverse,
    ← held_held (earlier.trans le)]
  refine congrArg (fun kept : List Int => (kept.length : Int)) (List.filter_congr fun t _ => ?_)
  exact decide_eq_decide.mpr (by simpa [Call.monotonic] using (inSeconds_le_iff (t := t)).not)

/-- The call as an invocation of the script. -/
def Call.invocation (c : Call) (windowSeconds : Int) : Invocation where
  clock := c.clock
  key := (RedisSlidingWindowLimiter.ofSeconds windowSeconds).keyFor c.key
  limit := c.limit
  member := c.member

theorem Corresponds.zcard_eq (h : Corresponds windowSeconds now known logs l redis)
    (le : now ≤ c.millis) :
    zcard (trimmed (windowSeconds * 1000) (c.invocation windowSeconds).clock.now
      (redis (c.invocation windowSeconds).key)) = hitsHeld l c := by
  show zcard (trimmed (windowSeconds * 1000) c.clock.now _) = _
  rw [h.hitsHeld_eq le, c.clock_now]
  exact (h.follows c.key).zcard_trimmed le

/-! ## Each limiter's answer -/

theorem SlidingWindowLimiter.check_full (full : c.limit ≤ (trimmedBucket l c).length) :
    l.check c.monotonic c.key c.limit =
      ({ l with hits := Function.update l.hits c.key (trimmedBucket l c) },
        (trimmedBucket l c).head?.map
          fun oldest => (false, 0, max 0 (oldest + l.window - c.monotonic))) :=
  if_pos full

theorem SlidingWindowLimiter.check_room (room : ¬c.limit ≤ (trimmedBucket l c).length) :
    l.check c.monotonic c.key c.limit =
      ({ l with hits := Function.update l.hits c.key (trimmedBucket l c ++ [c.monotonic]) },
        some (true, max 0 (c.limit - (trimmedBucket l c ++ [c.monotonic]).length), 0)) :=
  if_neg room

theorem verdict_invoke (windowSeconds : Int) (redis : Redis) (c : Call) :
    ((RedisSlidingWindowLimiter.ofSeconds windowSeconds).check redis c.clock c.member c.key
      c.limit).2 =
      (RedisSlidingWindowLimiter.ofSeconds windowSeconds).verdict c.limit
        (some (invoke (windowSeconds * 1000) redis (c.invocation windowSeconds)).2) := rfl

/-- The oldest of an ascending list comes first. -/
theorem min?_of_ascending {times : List Int} (ascending : times.Pairwise (· ≤ ·)) :
    times.min? = times.head? := by
  cases times with
  | nil => rfl
  | cons t rest =>
    rw [List.head?_cons, List.min?_eq_some_iff]
    exact ⟨List.mem_cons_self, fun x member => by
      rcases List.mem_cons.mp member with rfl | later
      · exact le_rfl
      · exact List.rel_of_pairwise_cons ascending later⟩

theorem Corresponds.length_trimmedBucket (h : Corresponds windowSeconds now known logs l redis)
    (le : now ≤ c.millis) : ((trimmedBucket l c).length : Int) = hitsHeld l c := by
  rw [h.trims le, h.hitsHeld_eq le, List.length_map, List.length_reverse]

/-- Where both reject, both name the wait for the oldest hit. -/
theorem Corresponds.retry (h : Corresponds windowSeconds now known logs l redis)
    (le : now ≤ c.millis) {oldest : Rat} (first : (trimmedBucket l c).head? = some oldest)
    (full : luaNumber c.limit ≤ hitsHeld l c) :
    ((invoke (windowSeconds * 1000) redis (c.invocation windowSeconds)).2.retryAfterMs : Rat) /
      1000 = max 0 (oldest + l.window - c.monotonic) := by
  have covers := (h.follows c.key).covers c.millis le
  have ascending : (held (windowSeconds * 1000) c.millis (logs c.key)).reverse.Pairwise (· ≤ ·) := by
    rw [List.pairwise_reverse]
    exact (h.follows c.key).sorted.sublist List.filter_sublist
  rw [h.trims le, List.head?_map] at first
  obtain ⟨millis, least, rfl⟩ := Option.map_eq_some_iff.mp first
  have lowest : zrangeFirst (trimmed (windowSeconds * 1000) c.clock.now
      (redis (c.invocation windowSeconds).key)) = some millis := by
    rw [c.clock_now, zrangeFirst]
    show (scores (trimmed _ _ (redis ((RedisSlidingWindowLimiter.ofSeconds
      windowSeconds).keyFor c.key)))).min? = _
    rw [covers, min?_of_ascending ascending]
    exact least
  rw [← h.zcard_eq le] at full
  rw [invoke_reject (i := c.invocation windowSeconds) full]
  show ((((zrangeFirst (trimmed (windowSeconds * 1000) c.clock.now
    (redis (c.invocation windowSeconds).key))).map _).getD 0 : Int) : Rat) / 1000 = _
  rw [lowest, Option.map_some, Option.getD_some, h.window]
  show ((max 0 (millis + windowSeconds * 1000 - c.clock.now) : Int) : Rat) / 1000 = _
  rw [c.clock_now]
  unfold Call.monotonic inSeconds
  push_cast
  rw [← max_div_div_right (by norm_num), zero_div]
  congr 1
  ring

theorem verdict_of_allowed {shared : RedisSlidingWindowLimiter} {limit : Int} {reply : Reply}
    (allowed : reply.allowed = 1) :
    shared.verdict limit (some reply) = (true, reply.remaining, 0) := if_pos allowed

theorem verdict_of_rejected {shared : RedisSlidingWindowLimiter} {limit : Int} {reply : Reply}
    (rejected : reply.allowed ≠ 1) :
    shared.verdict limit (some reply) = (false, 0, (reply.retryAfterMs : Rat) / 1000) :=
  if_neg rejected

theorem Corresponds.allowed_iff (h : Corresponds windowSeconds now known logs l redis)
    (le : now ≤ c.millis) :
    (invoke (windowSeconds * 1000) redis (c.invocation windowSeconds)).2.allowed = 1 ↔
      hitsHeld l c < luaNumber c.limit := by
  rw [← h.zcard_eq le]
  exact invoke_allowed_iff

/-- One call is answered alike exactly when its limit is metered exactly. -/
theorem Corresponds.agree_iff (h : Corresponds windowSeconds now known logs l redis)
    (le : now ≤ c.millis) :
    (l.check c.monotonic c.key c.limit).2 =
      some ((RedisSlidingWindowLimiter.ofSeconds windowSeconds).check redis c.clock c.member c.key
        c.limit).2 ↔ Metes l c := by
  have counted := h.length_trimmedBucket le
  have allowed_iff := h.allowed_iff le
  rw [verdict_invoke]
  unfold Metes CountsExactly
  by_cases full : c.limit ≤ hitsHeld l c
  · rw [SlidingWindowLimiter.check_full (counted ▸ full)]
    dsimp only
    by_cases room : hitsHeld l c < luaNumber c.limit
    · -- only Redis admits
      rw [verdict_of_allowed (allowed_iff.mpr room)]
      refine ⟨fun same => ?_, fun metes => absurd (metes.2.1.mp room) (not_lt.mpr full)⟩
      obtain ⟨oldest, -, impossible⟩ := Option.map_eq_some_iff.mp same
      simp at impossible
    · rw [verdict_of_rejected fun allowed => room (allowed_iff.mp allowed)]
      cases first : (trimmedBucket l c).head? with
      | none =>
        -- no hit to wait for
        have empty : hitsHeld l c = 0 := by
          rw [← counted, List.head?_eq_none_iff.mp first]
          rfl
        refine ⟨nofun, fun metes => ?_⟩
        omega
      | some oldest =>
        have some_hit : 0 < hitsHeld l c := by
          rw [← counted]
          exact_mod_cast List.length_pos_of_mem (List.mem_of_head? first)
        rw [h.retry le first (not_lt.mp room)]
        refine ⟨fun _ => ⟨Or.inr some_hit, ⟨fun r => absurd r room, fun r => ?_⟩, fun r => ?_⟩,
          fun _ => rfl⟩ <;> omega
  · rw [SlidingWindowLimiter.check_room (counted ▸ full), List.length_append, List.length_singleton]
    dsimp only
    have nonneg : 0 ≤ hitsHeld l c := Int.natCast_nonneg _
    have left : max 0 (c.limit - (((trimmedBucket l c).length + 1 : Nat) : Int)) =
        c.limit - hitsHeld l c - 1 := by
      push_cast
      omega
    rw [left]
    by_cases room : hitsHeld l c < luaNumber c.limit
    · rw [verdict_of_allowed (allowed_iff.mpr room), invoke_remaining (allowed_iff.mpr room),
        h.zcard_eq le]
      show some (true, _, (0 : Rat)) = some (true, toldRemaining c.limit (hitsHeld l c), 0) ↔ _
      constructor
      · intro same
        have told : toldRemaining c.limit (hitsHeld l c) = c.limit - hitsHeld l c - 1 := by
          simpa using same.symm
        exact ⟨Or.inl (by omega), ⟨fun _ => not_le.mp full, fun _ => room⟩, fun _ => told⟩
      · intro metes
        rw [metes.2.2 (not_le.mp full)]
    · rw [verdict_of_rejected fun allowed => room (allowed_iff.mp allowed)]
      refine ⟨fun same => by simp at same, fun metes => ?_⟩
      exact absurd (metes.2.1.mpr (not_le.mp full)) room

/-! ## Histories -/

theorem keyFor_injective (shared : RedisSlidingWindowLimiter) {a b : String}
    (same : shared.keyFor a = shared.keyFor b) : a = b := by
  unfold RedisSlidingWindowLimiter.keyFor at same
  rw [← String.toList_inj, String.toList_append, String.toList_append] at same
  exact String.toList_inj.mp (List.append_cancel_left same)

/-- A metered call leaves both states with the same admissions. -/
theorem Corresponds.check (h : Corresponds windowSeconds now known logs l redis)
    (le : now ≤ c.millis) (positive : 0 < windowSeconds) (unused : c.member ∉ known)
    (metes : Metes l c) :
    ∃ logs', Corresponds windowSeconds c.millis (c.member :: known) logs'
      (l.check c.monotonic c.key c.limit).1
      ((RedisSlidingWindowLimiter.ofSeconds windowSeconds).check redis c.clock c.member c.key
        c.limit).1 := by
  have counted := h.length_trimmedBucket le
  have window : (l.check c.monotonic c.key c.limit).1.window = windowSeconds := by
    unfold SlidingWindowLimiter.check
    dsimp only
    split <;> exact h.window
  refine ⟨fun key => logged ((RedisSlidingWindowLimiter.ofSeconds windowSeconds).keyFor key)
    (c.invocation windowSeconds)
    (invoke (windowSeconds * 1000) redis (c.invocation windowSeconds)).2 (logs key), window,
    fun key => ?_, fun key => ?_⟩
  · have follows := (h.follows key).invoke (i := c.invocation windowSeconds)
      (le.trans c.clock_now.ge) (by omega) unused
    rw [← c.clock_now]
    exact follows
  · by_cases same : c.key = key
    · subst same
      refine ⟨c.millis, le_rfl, ?_⟩
      by_cases full : c.limit ≤ hitsHeld l c
      · have rejected : ¬(invoke (windowSeconds * 1000) redis
            (c.invocation windowSeconds)).2.allowed = 1 := by
          rw [h.allowed_iff le, metes.2.1]
          omega
        rw [SlidingWindowLimiter.check_full (counted ▸ full), logged,
          if_neg fun both => rejected both.2]
        dsimp only
        rw [Function.update_self]
        exact h.trims le
      · have allowed : (invoke (windowSeconds * 1000) redis
            (c.invocation windowSeconds)).2.allowed = 1 := by
          rw [h.allowed_iff le, metes.2.1]
          omega
        rw [SlidingWindowLimiter.check_room (counted ▸ full), logged, if_pos ⟨rfl, allowed⟩]
        dsimp only
        rw [Function.update_self, h.trims le]
        show _ = (held _ _ (c.clock.now :: _)).reverse.map inSeconds
        rw [c.clock_now, held_cons_of_pos (by omega), List.reverse_cons, List.map_append]
        rfl
    · obtain ⟨at_t, earlier, unchanged⟩ := h.bucket key
      refine ⟨at_t, earlier.trans le, ?_⟩
      have elsewhere : (l.check c.monotonic c.key c.limit).1.hits key = l.hits key := by
        unfold SlidingWindowLimiter.check
        dsimp only
        split <;> exact Function.update_of_ne (Ne.symm same) _ _
      rw [elsewhere, logged, if_neg fun both => same (keyFor_injective _ both.1)]
      exact unchanged

theorem corresponds_start (windowSeconds : Int) :
    Corresponds windowSeconds 0 [] (fun _ => []) (SlidingWindowLimiter.ofSeconds windowSeconds)
      fresh where
  window := rfl
  follows := fun _ => follows_none
  bucket := fun _ => ⟨0, le_rfl, rfl⟩

theorem Corresponds.run (positive : 0 < windowSeconds) {history : List Call}
    (h : Corresponds windowSeconds now known logs l redis)
    (later : ∀ c ∈ history, now ≤ c.millis)
    (ordered : history.Pairwise fun a b => a.millis ≤ b.millis)
    (unused : ∀ c ∈ history, c.member ∉ known) (unique : (history.map Call.member).Nodup) :
    Agree (RedisSlidingWindowLimiter.ofSeconds windowSeconds) l redis history ↔
      EveryMetes l history := by
  induction history generalizing now known logs l redis with
  | nil => exact Iff.rfl
  | cons c rest ih =>
    have le := later c List.mem_cons_self
    obtain ⟨first, ordered⟩ := List.pairwise_cons.mp ordered
    rw [List.map_cons, List.nodup_cons] at unique
    show (_ ∧ _) ↔ (_ ∧ _)
    rw [h.agree_iff le]
    refine and_congr_right fun metes => ?_
    obtain ⟨logs', next⟩ := h.check le positive (unused c List.mem_cons_self) metes
    refine ih next (fun d member => by exact_mod_cast first d member) ordered
      (fun d member known_d => ?_) unique.2
    rcases List.mem_cons.mp known_d with same | earlier
    · exact unique.1 (same ▸ List.mem_map_of_mem member)
    · exact unused d (List.mem_cons_of_mem _ member) earlier

end OpenOntology.Intercept
