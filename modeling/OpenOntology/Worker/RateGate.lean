import OpenOntology.Library.Run
import OpenOntology.Library.SlidingWindow

/-!
# The gate in front of the interceptor

A caller of `slot` takes a permit, reserves a start under the lock, and sleeps until then
outside of it. A cooldown moves the next start that can be reserved. It moves no start that a
sleeper has already reserved.
-/
namespace OpenOntology.Worker

open Library

/-! ## The gate -/

structure RateGate where
  margin : ℚ
  rpm : ℕ := 0
  /-- between one start and the next, in seconds -/
  interval : ℚ := 0
  nextAt : ℚ := 0
  source : String := "unlimited"
  waits : ℕ := 0
  waitSeconds : ℚ := 0
  cooldowns : ℕ := 0
  cooldownSeconds : ℚ := 0

namespace RateGate

/-- The calls a minute that a quota leaves within the margin. -/
def effective (g : RateGate) (quotaPerMinute : ℤ) : ℕ := max 1 ⌊quotaPerMinute * g.margin⌋.toNat

def retune (g : RateGate) (quotaPerMinute : ℤ) (source : String) : RateGate :=
  if quotaPerMinute ≤ 0 then g
  else if g.effective quotaPerMinute = g.rpm then g
  else
    { g with
      rpm := g.effective quotaPerMinute
      interval := 60 / g.effective quotaPerMinute
      source := source }

def applyCooldown (g : RateGate) (now seconds : ℚ) : RateGate :=
  if seconds ≤ 0 then g
  else
    { g with
      cooldowns := g.cooldowns + 1
      cooldownSeconds := g.cooldownSeconds + seconds
      nextAt := max g.nextAt (now + seconds) }

/-- The start that `_pace` reserves. -/
def start (g : RateGate) (now : ℚ) : ℚ := max now g.nextAt

/-- The locked section of `_pace`. -/
def advance (g : RateGate) (now : ℚ) : RateGate :=
  { g with nextAt := if 0 < g.interval then g.start now + g.interval else max g.nextAt now }

/-- `_pace`, up to the sleep. -/
def pace (g : RateGate) (now : ℚ) : RateGate :=
  if g.start now - now ≤ 0 then g.advance now
  else
    { g.advance now with
      waits := g.waits + 1
      waitSeconds := g.waitSeconds + (g.start now - now) }

/-- `RateGate(rpm=…, margin=…)`. -/
def init (rpm : ℤ) (margin : ℚ) : RateGate :=
  if 0 < rpm then retune { margin := margin } rpm "config" else { margin := margin }

end RateGate

/-! ## Its callers -/

inductive CallerPhase where
  | outside
  /-- waits on the semaphore -/
  | queued
  /-- holds a permit and waits on the lock -/
  | locking
  | asleep (wake : ℚ)
  /-- has left `_pace`: its call is under way -/
  | calling

/-- In a phase before the reservation, or after the call. -/
def CallerPhase.Idle (phase : CallerPhase) : Prop :=
  phase ≠ .calling ∧ ∀ wake, phase ≠ .asleep wake

/-- A start that was reserved, with the pace in force. -/
structure Reservation where
  start : ℚ
  interval : ℚ
  rpm : ℕ

structure GateState (ι : Type) where
  gate : RateGate
  permits : ℕ
  now : ℚ
  phase : ι → CallerPhase
  /-- latest first -/
  reserved : List Reservation

inductive GateEvent (ι : Type) where
  /-- the clock goes on -/
  | clock (time : ℚ)
  | enter (i : ι)
  /-- a waiter of the semaphore takes a permit -/
  | acquire (i : ι)
  | pace (i : ι)
  /-- a sleeper is resumed, at its time or later -/
  | wake (i : ι)
  /-- the call returns, or the caller is cancelled on its way to it -/
  | leave (i : ι)
  | applyCooldown (seconds : ℚ)
  | retune (quotaPerMinute : ℤ) (source : String)

namespace GateState
variable {ι : Type}

def start (rpm : ℤ) (margin : ℚ) (maxConcurrency : ℕ) (now : ℚ) : GateState ι where
  gate := RateGate.init rpm margin
  permits := maxConcurrency
  now := now
  phase _ := .outside
  reserved := []

variable [DecidableEq ι]

def setPhase (s : GateState ι) (i : ι) (phase : CallerPhase) : GateState ι :=
  { s with phase := Function.update s.phase i phase }

/-- A start that has come is taken at once. -/
def reserve (s : GateState ι) (i : ι) : GateState ι :=
  { s with
    gate := s.gate.pace s.now
    phase := Function.update s.phase i
      (if s.gate.start s.now - s.now ≤ 0 then .calling else .asleep (s.gate.start s.now))
    reserved := ⟨s.gate.start s.now, s.gate.interval, s.gate.rpm⟩ :: s.reserved }

def cooldown (s : GateState ι) (seconds : ℚ) : GateState ι :=
  { s with gate := s.gate.applyCooldown s.now seconds }

def step (s : GateState ι) : GateEvent ι → Option (GateState ι)
  | .clock time => if s.now ≤ time then some { s with now := time } else none
  | .enter i =>
    match s.phase i with
    | .outside => some (s.setPhase i .queued)
    | _ => none
  | .acquire i =>
    match s.phase i with
    | .queued =>
      if s.permits = 0 then none
      else some { s.setPhase i .locking with permits := s.permits - 1 }
    | _ => none
  | .pace i =>
    match s.phase i with
    | .locking => some (s.reserve i)
    | _ => none
  | .wake i =>
    match s.phase i with
    | .asleep wake => if wake ≤ s.now then some (s.setPhase i .calling) else none
    | _ => none
  | .leave i =>
    match s.phase i with
    | .outside => none
    | .queued => some (s.setPhase i .outside)
    | _ => some { s.setPhase i .outside with permits := s.permits + 1 }
  | .applyCooldown seconds => some (s.cooldown seconds)
  | .retune quotaPerMinute source =>
    some { s with gate := s.gate.retune quotaPerMinute source }

/-- A caller leaves `_pace` in this step. -/
def Departs (before after : GateState ι) (i : ι) : Prop :=
  before.phase i ≠ .calling ∧ after.phase i = .calling

end GateState

/-! ## The pace -/

namespace RateGate
variable {g : RateGate} {now seconds : ℚ} {quotaPerMinute : ℤ} {source : String}

/-- The interval in force is that of the calls a minute, and nothing without a pace. -/
def Tuned (g : RateGate) : Prop := g.interval = 60 / g.rpm

theorem Tuned.nonneg (tuned : g.Tuned) : 0 ≤ g.interval := by
  rw [tuned]
  positivity

theorem Tuned.retune (tuned : g.Tuned) : (g.retune quotaPerMinute source).Tuned := by
  unfold RateGate.retune
  split
  · exact tuned
  · split
    · exact tuned
    · rfl

@[simp] theorem retune_nextAt : (g.retune quotaPerMinute source).nextAt = g.nextAt := by
  unfold retune
  split
  · rfl
  · split <;> rfl

@[simp] theorem retune_margin : (g.retune quotaPerMinute source).margin = g.margin := by
  unfold retune
  split
  · rfl
  · split <;> rfl

theorem retune_rpm (positive : 1 ≤ quotaPerMinute) :
    (g.retune quotaPerMinute source).rpm = g.effective quotaPerMinute := by
  unfold retune
  rw [if_neg (by omega)]
  split
  · next same => exact same.symm
  · rfl

@[simp] theorem applyCooldown_interval : (g.applyCooldown now seconds).interval = g.interval := by
  unfold applyCooldown
  split <;> rfl

@[simp] theorem applyCooldown_rpm : (g.applyCooldown now seconds).rpm = g.rpm := by
  unfold applyCooldown
  split <;> rfl

@[simp] theorem applyCooldown_margin : (g.applyCooldown now seconds).margin = g.margin := by
  unfold applyCooldown
  split <;> rfl

theorem nextAt_le_applyCooldown : g.nextAt ≤ (g.applyCooldown now seconds).nextAt := by
  unfold applyCooldown
  split
  · exact le_rfl
  · exact le_max_left _ _

theorem cooldown_le_nextAt (positive : 0 < seconds) :
    now + seconds ≤ (g.applyCooldown now seconds).nextAt := by
  unfold applyCooldown
  rw [if_neg (not_le.mpr positive)]
  exact le_max_right _ _

@[simp] theorem pace_interval : (g.pace now).interval = g.interval := by
  unfold pace
  split <;> rfl

@[simp] theorem pace_rpm : (g.pace now).rpm = g.rpm := by
  unfold pace
  split <;> rfl

@[simp] theorem pace_margin : (g.pace now).margin = g.margin := by
  unfold pace
  split <;> rfl

/-- The next start is an interval after the one reserved, with a pace or without. -/
theorem Tuned.pace_nextAt (tuned : g.Tuned) : (g.pace now).nextAt = g.start now + g.interval := by
  have nonneg := tuned.nonneg
  have next : (g.pace now).nextAt =
      if 0 < g.interval then g.start now + g.interval else max g.nextAt now := by
    unfold pace
    split <;> rfl
  rw [next]
  split
  · rfl
  · have unpaced : g.interval = 0 := by linarith
    rw [unpaced, add_zero, start, max_comm]

theorem nextAt_le_start : g.nextAt ≤ g.start now := le_max_right _ _

theorem init_tuned (rpm : ℤ) (margin : ℚ) : (init rpm margin).Tuned := by
  have bare : Tuned { margin := margin } := by simp [Tuned]
  unfold init
  split
  · exact bare.retune
  · exact bare

theorem init_margin (rpm : ℤ) (margin : ℚ) : (init rpm margin).margin = margin := by
  unfold init
  split
  · simp
  · rfl

/-- The margin takes from a quota and leaves at least one call of it. -/
theorem effective_le (g : RateGate) (positive : 1 ≤ quotaPerMinute) (part : g.margin ≤ 1) :
    (g.effective quotaPerMinute : ℤ) ≤ quotaPerMinute := by
  have quota : (1 : ℚ) ≤ quotaPerMinute := by exact_mod_cast positive
  have product : (quotaPerMinute : ℚ) * g.margin ≤ quotaPerMinute := by nlinarith
  have floor : ⌊(quotaPerMinute : ℚ) * g.margin⌋ ≤ quotaPerMinute := by
    have cast := (Int.floor_le ((quotaPerMinute : ℚ) * g.margin)).trans product
    exact_mod_cast cast
  unfold effective
  omega

end RateGate

namespace GateState
variable {ι : Type} [DecidableEq ι] {s next : GateState ι} {event : GateEvent ι}

/-- What a step does. -/
inductive Effect (s next : GateState ι) : Prop where
  /-- the gate is not touched, and no caller comes to sleep or to call -/
  | still (gate : next.gate = s.gate) (reserved : next.reserved = s.reserved)
      (phase : ∀ i, next.phase i = s.phase i ∨ CallerPhase.Idle (next.phase i))
  | woken (i : ι) (wake : ℚ) (sleeps : s.phase i = .asleep wake) (due : wake ≤ s.now)
      (same : next = s.setPhase i .calling)
  | reserved (i : ι) (same : next = s.reserve i)
  | cooled (seconds : ℚ) (same : next = s.cooldown seconds)
  | retuned (quotaPerMinute : ℤ) (source : String)
      (same : next = { s with gate := s.gate.retune quotaPerMinute source })

/-- A caller that moves to an idle phase. -/
theorem effect_of_setPhase {i : ι} {phase : CallerPhase} (idle : phase.Idle)
    (gate : next.gate = s.gate) (reserved : next.reserved = s.reserved)
    (moved : next.phase = Function.update s.phase i phase) : Effect s next := by
  refine .still gate reserved ?_
  intro j
  rw [moved]
  by_cases here : j = i
  · rw [here, Function.update_self]
    exact .inr idle
  · rw [Function.update_of_ne here]
    exact .inl rfl

theorem step_effect (stepped : s.step event = some next) : Effect s next := by
  cases event with
  | clock time =>
    simp only [step] at stepped
    split at stepped
    · cases stepped
      exact .still rfl rfl fun i => .inl rfl
    · cases stepped
  | enter i =>
    simp only [step] at stepped
    split at stepped
    · cases stepped
      exact effect_of_setPhase (by simp [CallerPhase.Idle]) rfl rfl rfl
    · cases stepped
  | acquire i =>
    simp only [step] at stepped
    split at stepped
    · split at stepped
      · cases stepped
      · cases stepped
        exact effect_of_setPhase (by simp [CallerPhase.Idle]) rfl rfl rfl
    · cases stepped
  | pace i =>
    simp only [step] at stepped
    split at stepped
    · cases stepped
      exact .reserved i rfl
    · cases stepped
  | wake i =>
    simp only [step] at stepped
    split at stepped
    next wake sleeps =>
      split at stepped
      next due =>
        cases stepped
        exact .woken i wake sleeps due rfl
      next => cases stepped
    next => cases stepped
  | leave i =>
    simp only [step] at stepped
    split at stepped
    · cases stepped
    · cases stepped
      exact effect_of_setPhase (by simp [CallerPhase.Idle]) rfl rfl rfl
    · cases stepped
      exact effect_of_setPhase (by simp [CallerPhase.Idle]) rfl rfl rfl
  | applyCooldown seconds =>
    cases stepped
    exact .cooled seconds rfl
  | retune quotaPerMinute source =>
    cases stepped
    exact .retuned quotaPerMinute source rfl

/-- Every start was reserved at the pace then in force, and the next one keeps its distance
from all of them. -/
structure Paced (s : GateState ι) : Prop where
  tuned : s.gate.Tuned
  each : ∀ r ∈ s.reserved, r.interval = 60 / r.rpm
  ahead : ∀ r ∈ s.reserved, r.start + r.interval ≤ s.gate.nextAt
  apart : s.reserved.Pairwise fun later earlier => earlier.start + earlier.interval ≤ later.start

theorem Paced.step (paced : s.Paced) (stepped : s.step event = some next) : next.Paced := by
  obtain ⟨gate, reserved, -⟩ | ⟨i, -, -, -, rfl⟩ | ⟨i, rfl⟩ | ⟨seconds, rfl⟩ |
    ⟨quotaPerMinute, source, rfl⟩ := step_effect stepped
  · constructor
    · rw [gate]
      exact paced.tuned
    · rw [reserved]
      exact paced.each
    · rw [reserved, gate]
      exact paced.ahead
    · rw [reserved]
      exact paced.apart
  · exact ⟨paced.tuned, paced.each, paced.ahead, paced.apart⟩
  · have nonneg := paced.tuned.nonneg
    have before : ∀ r ∈ s.reserved, r.start + r.interval ≤ s.gate.start s.now := by
      intro r member
      exact (paced.ahead r member).trans RateGate.nextAt_le_start
    constructor
    · simp [reserve, RateGate.Tuned, paced.tuned.symm]
    · intro r member
      obtain rfl | earlier := List.mem_cons.mp member
      · exact paced.tuned
      · exact paced.each r earlier
    · intro r member
      have nextAt : (s.reserve i).gate.nextAt = s.gate.start s.now + s.gate.interval :=
        paced.tuned.pace_nextAt
      rw [nextAt]
      obtain rfl | earlier := List.mem_cons.mp member
      · exact le_rfl
      · have distance := before r earlier
        linarith
    · exact List.pairwise_cons.mpr ⟨before, paced.apart⟩
  · constructor
    · simp [cooldown, RateGate.Tuned, paced.tuned.symm]
    · exact paced.each
    · intro r member
      exact (paced.ahead r member).trans RateGate.nextAt_le_applyCooldown
    · exact paced.apart
  · constructor
    · exact paced.tuned.retune
    · exact paced.each
    · intro r member
      simpa using paced.ahead r member
    · exact paced.apart

omit [DecidableEq ι] in
theorem paced_start (rpm : ℤ) (margin : ℚ) (maxConcurrency : ℕ) (now : ℚ) :
    (start rpm margin maxConcurrency now : GateState ι).Paced where
  tuned := RateGate.init_tuned rpm margin
  each := by simp [start]
  ahead := by simp [start]
  apart := .nil

theorem Paced.run {events : List (GateEvent ι)} (paced : s.Paced)
    (ran : Library.run GateState.step s events = some next) : next.Paced :=
  run_preserves GateState.step Paced (fun _ _ _ paced stepped => paced.step stepped) events s next
    paced ran

theorem step_margin (stepped : s.step event = some next) : next.gate.margin = s.gate.margin := by
  obtain ⟨gate, -, -⟩ | ⟨i, -, -, -, rfl⟩ | ⟨i, rfl⟩ | ⟨seconds, rfl⟩ |
    ⟨quotaPerMinute, source, rfl⟩ := step_effect stepped
  · rw [gate]
  · rfl
  · exact RateGate.pace_margin
  · exact RateGate.applyCooldown_margin
  · exact RateGate.retune_margin

theorem run_margin {events : List (GateEvent ι)}
    (ran : Library.run GateState.step s events = some next) : next.gate.margin = s.gate.margin :=
  run_preserves GateState.step (fun t => t.gate.margin = s.gate.margin)
    (fun _ _ _ same stepped => (step_margin stepped).trans same) events s next rfl ran

omit [DecidableEq ι] in
/-- The starts reserved at one pace are that pace apart. -/
theorem Paced.spaced (paced : s.Paced) (rpm : ℕ) :
    Spaced (60 / (rpm : ℚ)) ((s.reserved.filter fun r => r.rpm = rpm).map Reservation.start) := by
  unfold Spaced
  rw [List.pairwise_map]
  have kept := paced.apart.sublist (List.filter_sublist (p := fun r => decide (r.rpm = rpm)))
  refine kept.imp_of_mem ?_
  intro later earlier _ member distance
  obtain ⟨inside, same⟩ := List.mem_filter.mp member
  simp only [decide_eq_true_eq] at same
  rw [paced.each earlier inside, same] at distance
  exact distance

end GateState

/-! ## Two callers at once -/

/-- At a call a second, both callers come when the clock is at nought. -/
def burst : List (GateEvent Bool) :=
  [.enter false, .acquire false, .pace false, .enter true, .acquire true, .pace true]

/-- The first caller calls at once, and the second sleeps for a second. -/
theorem burst_ran : ∃ s, run GateState.step (GateState.start 60 1 2 0) burst = some s ∧
    s.now = 0 ∧ s.phase true = .asleep 1 := by
  have paced : RateGate.init 60 1 =
      { margin := 1, rpm := 60, interval := 1, source := "config" } := by
    simp [RateGate.init, RateGate.retune, RateGate.effective]
  refine ⟨_, rfl, rfl, ?_⟩
  simp [GateState.start, GateState.reserve, GateState.setPhase, paced, RateGate.start,
    RateGate.pace, RateGate.advance]

namespace GateState
variable {ι : Type} [DecidableEq ι] {s next : GateState ι} {event : GateEvent ι} {T : ℚ}

/-- A sleeper fell asleep earlier, or has just reserved the time it sleeps to. -/
theorem step_asleep (stepped : s.step event = some next) {i : ι} {wake : ℚ}
    (sleeps : next.phase i = .asleep wake) :
    s.phase i = .asleep wake ∨ wake = s.gate.start s.now := by
  obtain ⟨-, -, phase⟩ | ⟨j, -, -, -, rfl⟩ | ⟨j, rfl⟩ | ⟨seconds, rfl⟩ |
    ⟨quotaPerMinute, source, rfl⟩ := step_effect stepped
  · obtain same | idle := phase i
    · exact .inl (same ▸ sleeps)
    · exact absurd sleeps (idle.2 wake)
  · by_cases here : i = j
    · simp [setPhase, here] at sleeps
    · exact .inl (by simpa [setPhase, here] using sleeps)
  · by_cases here : i = j
    · simp only [reserve, here, Function.update_self] at sleeps
      split at sleeps
      · cases sleeps
      · exact .inr (CallerPhase.asleep.inj sleeps).symm
    · exact .inl (by simpa [reserve, here] using sleeps)
  · exact .inl sleeps
  · exact .inl sleeps

/-- A caller that leaves `_pace` has slept to its time, or its start had come. -/
theorem step_departs (stepped : s.step event = some next) {i : ι} (departs : Departs s next i) :
    (∃ wake, s.phase i = .asleep wake ∧ wake ≤ s.now) ∨ s.gate.start s.now ≤ s.now := by
  obtain ⟨before, calls⟩ := departs
  obtain ⟨-, -, phase⟩ | ⟨j, wake, sleeps, due, rfl⟩ | ⟨j, rfl⟩ | ⟨seconds, rfl⟩ |
    ⟨quotaPerMinute, source, rfl⟩ := step_effect stepped
  · obtain same | idle := phase i
    · exact absurd (same ▸ calls) before
    · exact absurd calls idle.1
  · by_cases here : i = j
    · exact .inl ⟨wake, here ▸ sleeps, due⟩
    · exact absurd (by simpa [setPhase, here] using calls) before
  · by_cases here : i = j
    · simp only [reserve, here, Function.update_self] at calls
      split at calls
      next come => exact .inr (sub_nonpos.mp come)
      next => cases calls
    · exact absurd (by simpa [reserve, here] using calls) before
  · exact absurd calls before
  · exact absurd calls before

/-- Neither the gate nor a sleeper has a start before the time. -/
structure Stalled (T : ℚ) (s : GateState ι) : Prop where
  tuned : s.gate.Tuned
  gate : T ≤ s.gate.nextAt
  sleepers : ∀ i wake, s.phase i = .asleep wake → T ≤ wake

theorem Stalled.step (stalled : Stalled T s) (stepped : s.step event = some next) :
    Stalled T next := by
  have later : T ≤ s.gate.start s.now := stalled.gate.trans RateGate.nextAt_le_start
  have nonneg := stalled.tuned.nonneg
  have sleepers : ∀ i wake, next.phase i = .asleep wake → T ≤ wake := by
    intro i wake sleeps
    obtain before | rfl := step_asleep stepped sleeps
    · exact stalled.sleepers i wake before
    · exact later
  obtain ⟨gate, -, -⟩ | ⟨i, -, -, -, rfl⟩ | ⟨i, rfl⟩ | ⟨seconds, rfl⟩ |
    ⟨quotaPerMinute, source, rfl⟩ := step_effect stepped
  · exact ⟨gate ▸ stalled.tuned, gate ▸ stalled.gate, sleepers⟩
  · exact ⟨stalled.tuned, stalled.gate, sleepers⟩
  · refine ⟨?_, ?_, sleepers⟩
    · simp [reserve, RateGate.Tuned, stalled.tuned.symm]
    · have nextAt : (s.reserve i).gate.nextAt = s.gate.start s.now + s.gate.interval :=
        stalled.tuned.pace_nextAt
      rw [nextAt]
      linarith
  · refine ⟨?_, ?_, sleepers⟩
    · simp [cooldown, RateGate.Tuned, stalled.tuned.symm]
    · exact stalled.gate.trans RateGate.nextAt_le_applyCooldown
  · refine ⟨stalled.tuned.retune, ?_, sleepers⟩
    simpa using stalled.gate

theorem Stalled.departs (stalled : Stalled T s) (stepped : s.step event = some next) {i : ι}
    (departs : Departs s next i) : T ≤ s.now := by
  obtain ⟨wake, sleeps, due⟩ | come := step_departs stepped departs
  · exact (stalled.sleepers i wake sleeps).trans due
  · exact (stalled.gate.trans RateGate.nextAt_le_start).trans come

/-- No caller leaves `_pace` strictly inside the cooldown, whatever follows it. -/
def Stalls (s : GateState ι) (seconds : ℚ) : Prop :=
  ∀ (later : List (GateEvent ι)) (n : ℕ) (before : GateState ι) (event : GateEvent ι)
    (after : GateState ι), Moment step (s.cooldown seconds) later n before event after →
      ∀ i, Departs before after i → ¬(s.now < before.now ∧ before.now < s.now + seconds)

/-- A sleeper with an earlier time can be resumed inside the cooldown. -/
theorem not_stalls {seconds wake : ℚ} {i : ι} (positive : 0 < seconds)
    (sleeps : s.phase i = .asleep wake) (early : wake < s.now + seconds) : ¬s.Stalls seconds := by
  intro stalls
  have inside : s.now < max wake (s.now + seconds / 2) ∧
      max wake (s.now + seconds / 2) < s.now + seconds := by
    constructor
    · exact lt_max_of_lt_right (by linarith)
    · exact max_lt early (by linarith)
  have moment : Moment step (s.cooldown seconds)
      [.clock (max wake (s.now + seconds / 2)), .wake i] 1
      { s.cooldown seconds with now := max wake (s.now + seconds / 2) } (.wake i)
      ({ s.cooldown seconds with now := max wake (s.now + seconds / 2) }.setPhase i .calling) := by
    refine ⟨rfl, ?_, ?_⟩
    · have forward : (s.cooldown seconds).now ≤ max wake (s.now + seconds / 2) := inside.1.le
      simp [run_cons, step, forward]
    · have slept : (s.cooldown seconds).phase i = .asleep wake := sleeps
      simp [step, slept]
  refine stalls _ _ _ _ _ moment i ⟨?_, ?_⟩ inside
  · have slept : (s.cooldown seconds).phase i = .asleep wake := sleeps
    simp [slept]
  · simp [setPhase]

end GateState

/-- In every state a gate can come to, a cooldown stalls every caller exactly when no caller
sleeps to a time before its end. -/
theorem cooldown_stalls_iff {ι : Type} [DecidableEq ι] (rpm : ℤ) (margin : ℚ) (maxConcurrency : ℕ)
    (now : ℚ) (events : List (GateEvent ι)) (s : GateState ι) (seconds : ℚ) (positive : 0 < seconds)
    (ran : run GateState.step (GateState.start rpm margin maxConcurrency now) events = some s) :
    s.Stalls seconds ↔ ∀ i wake, s.phase i = .asleep wake → s.now + seconds ≤ wake := by
  have paced : s.Paced := (GateState.paced_start rpm margin maxConcurrency now).run ran
  constructor
  · intro stalls i wake sleeps
    by_contra early
    exact GateState.not_stalls positive sleeps (not_le.mp early) stalls
  · intro late later n before event after moment i departs inside
    have cooled : GateState.Stalled (s.now + seconds) (s.cooldown seconds) := by
      refine ⟨?_, RateGate.cooldown_le_nextAt positive, late⟩
      simp [GateState.cooldown, RateGate.Tuned, paced.tuned.symm]
    have stalled : GateState.Stalled (s.now + seconds) before :=
      run_preserves GateState.step (GateState.Stalled (s.now + seconds))
        (fun _ _ _ stalled stepped => stalled.step stepped) _ _ _ cooled moment.reached
    exact absurd (stalled.departs moment.stepped departs) (not_le.mpr inside.2)

theorem cooldown_stalls_iff_burst : ∃ s : GateState Bool,
    run GateState.step (GateState.start 60 1 2 0) burst = some s ∧
      (s.Stalls 5 ↔ ∀ i wake, s.phase i = .asleep wake → s.now + 5 ≤ wake) := by
  obtain ⟨s, ran, -⟩ := burst_ran
  exact ⟨s, ran, cooldown_stalls_iff 60 1 2 0 burst s 5 (by decide) ran⟩

/-- The second caller is up four seconds before the cooldown ends. -/
theorem cooldown_overslept : ∃ s : GateState Bool,
    run GateState.step (GateState.start 60 1 2 0) burst = some s ∧ ¬s.Stalls 5 := by
  obtain ⟨s, ran, now, sleeps⟩ := burst_ran
  refine ⟨s, ran, GateState.not_stalls (by decide) sleeps ?_⟩
  rw [now]
  norm_num

end OpenOntology.Worker
