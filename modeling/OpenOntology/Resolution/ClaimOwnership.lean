import OpenOntology.Library.Run
import OpenOntology.Resolution.Accounting

/-!
# Whose claim a release deletes

Deliveries at any number of workers share the claims in Redis. A claim is one value for all of
them, so `ReleaseEvent` deletes whatever claim it finds under the key of its event: that of the
delivery's own `Admit`, or that of another, where the delivery was admitted without a claim or
its claim has expired.
-/
namespace OpenOntology.Resolution

open Library

inductive DeliveryPhase where
  | pending
  /-- admitted, and not yet processed to its end -/
  | processing (ev : TelemetryEvent)
  | ended

/-- The claims, and what is known of them beside their keys. -/
structure ClaimState (δ : Type) where
  claims : Claims
  /-- whose `Admit` acquired the claim -/
  holder : String → Option δ
  phase : δ → DeliveryPhase
  /-- the claim that the delivery acquired, until it expires -/
  acquired : δ → Option String

inductive ClaimEvent (δ : Type) where
  /-- `Admit`, with its Redis call and whether its deadline had passed -/
  | arrive (d : δ) (ev : TelemetryEvent) (setNX : Reply) (expired : Bool)
  /-- the time to live of a claim is over -/
  | expire (key : String)
  /-- processing failed: `ReleaseEvent` -/
  | release (d : δ) (del : Reply)
  | finish (d : δ)

/-- The key that an `Admit` acquires in Redis, whatever its reply. -/
def IdempotencyConfig.acquires (c : IdempotencyConfig) (md5 : String → String) (claims : Claims)
    (ev : TelemetryEvent) (setNX : Reply) : Option String :=
  if c.enabled = true then
    (c.key md5 ev).filter fun key => !claims.contains key && setNX.takesEffect
  else none

namespace ClaimState
variable {δ : Type}

def start : ClaimState δ where
  claims := ∅
  holder _ := none
  phase _ := .pending
  acquired _ := none

variable [DecidableEq δ] (c : IdempotencyConfig) (md5 : String → String)

def step (s : ClaimState δ) : ClaimEvent δ → Option (ClaimState δ)
  | .arrive d ev setNX expired =>
    match s.phase d with
    | .pending =>
      let admitted := c.admitEvent md5 s.claims ev setNX expired
      let taken := c.acquires md5 s.claims ev setNX
      some {
        claims := admitted.1
        holder := fun key => if taken = some key then some d else s.holder key
        phase := Function.update s.phase d
          (if admitted.2 = .admitted then .processing ev else .ended)
        acquired := Function.update s.acquired d taken }
    | _ => none
  | .expire key =>
    some { s with
      claims := s.claims.erase key
      holder := Function.update s.holder key none
      acquired := fun d => if s.holder key = some d then none else s.acquired d }
  | .release d del =>
    match s.phase d with
    | .processing ev =>
      let claims := c.releaseEvent md5 s.claims ev del
      some { s with
        claims := claims
        holder := fun key => if claims.contains key then s.holder key else none
        phase := Function.update s.phase d .ended }
    | _ => none
  | .finish d =>
    match s.phase d with
    | .processing _ => some { s with phase := Function.update s.phase d .ended }
    | _ => none

/-- A release deletes no claim that the `Admit` of another delivery acquired. -/
def Keeps (s : ClaimState δ) (event : ClaimEvent δ) (next : ClaimState δ) : Prop :=
  ∀ d del, event = .release d del → ∀ key other, s.claims.contains key = true →
    s.holder key = some other → other ≠ d → next.claims.contains key = true

/-- A release that gets through to a claim comes from a delivery that acquired the claim when
it was admitted, and whose claim has not expired since. -/
def Rightful (s : ClaimState δ) (event : ClaimEvent δ) (_ : ClaimState δ) : Prop :=
  ∀ d del, event = .release d del → ∀ ev key, s.phase d = .processing ev → c.enabled = true →
    c.key md5 ev = some key → s.claims.contains key = true → del.takesEffect = true →
      s.acquired d = some key

/-- Every claim has a holder that acquired it, and a delivery in process still holds what it
acquired. -/
structure Owned (s : ClaimState δ) : Prop where
  consistent : ∀ key, s.claims.contains key = (s.holder key).isSome
  known : ∀ key d, s.holder key = some d → s.acquired d = some key
  owns : ∀ d key ev, s.acquired d = some key → s.phase d = .processing ev →
    c.key md5 ev = some key ∧ s.holder key = some d
  fresh : ∀ d, s.phase d = .pending → s.acquired d = none

end ClaimState

namespace IdempotencyConfig
variable {c : IdempotencyConfig} {md5 : String → String} {claims : Claims} {ev : TelemetryEvent}
  {key : String}

theorem acquires_some {setNX : Reply} (taken : c.acquires md5 claims ev setNX = some key) :
    c.enabled = true ∧ c.key md5 ev = some key ∧ claims.contains key = false ∧
      setNX.takesEffect = true := by
  unfold acquires at taken
  split at taken
  next enabled =>
    obtain ⟨named, free⟩ := Option.filter_eq_some_iff.mp taken
    simp only [Bool.and_eq_true, Bool.not_eq_true'] at free
    exact ⟨enabled, named, free⟩
  next => cases taken

theorem contains_erase_claim (claims : Claims) (key other : String) :
    (claims.erase key).contains other = (!decide (key = other) && claims.contains other) := by
  rw [Std.ExtTreeSet.contains_erase, Bool.eq_iff_iff]
  simp

/-- The claims after an `Admit` are those before it and the one it acquires. -/
theorem contains_admitEvent (setNX : Reply) (expired : Bool) :
    (c.admitEvent md5 claims ev setNX expired).1.contains key =
      (claims.contains key || decide (c.acquires md5 claims ev setNX = some key)) := by
  cases enabled : c.enabled with
  | false => simp [admitEvent, acquires, enabled]
  | true =>
    cases named : c.key md5 ev with
    | none => simp [admitEvent, acquires, enabled, named]
    | some own =>
      rw [admitEvent_eq enabled named, Claims.setNX]
      cases effect : setNX.takesEffect with
      | false => simp [acquires, enabled, named, effect]
      | true =>
        by_cases same : own = key
        · subst same
          cases held : claims.contains own <;> simp [acquires, enabled, named, effect, held]
        · simp [acquires, enabled, named, effect, same]

/-- A release deletes the claim under its event's key, where the call takes effect. -/
theorem contains_releaseEvent (del : Reply) :
    (c.releaseEvent md5 claims ev del).contains key =
      (claims.contains key &&
        !(c.enabled && decide (c.key md5 ev = some key) && del.takesEffect)) := by
  cases enabled : c.enabled with
  | false => simp [releaseEvent, enabled]
  | true =>
    cases named : c.key md5 ev with
    | none => simp [releaseEvent, enabled, named]
    | some own =>
      rw [releaseEvent_eq enabled named, Claims.del]
      cases effect : del.takesEffect with
      | false => simp
      | true =>
        rw [if_pos rfl, contains_erase_claim]
        simp [Bool.and_comm]

end IdempotencyConfig

namespace ClaimState
open IdempotencyConfig
variable {δ : Type} [DecidableEq δ] {c : IdempotencyConfig} {md5 : String → String}
  {s next : ClaimState δ} {event : ClaimEvent δ}

omit [DecidableEq δ] in
theorem owned_start : Owned c md5 (start : ClaimState δ) where
  consistent := by simp [start]
  known key d held := by cases held
  owns d key ev acquired := by cases acquired
  fresh d _ := rfl

omit [DecidableEq δ] in
theorem Owned.free (owned : Owned c md5 s) {key : String} (free : s.claims.contains key = false) :
    s.holder key = none := by
  rw [owned.consistent] at free
  simpa using free

omit [DecidableEq δ] in
theorem Owned.held (owned : Owned c md5 s) {key : String} {d : δ} (held : s.holder key = some d) :
    s.claims.contains key = true := by
  rw [owned.consistent, held]
  rfl

/-- An `Admit` acquires a free key or none. -/
theorem Owned.arrive (owned : Owned c md5 s) {d : δ} {ev : TelemetryEvent} {setNX : Reply}
    {expired : Bool} (stepped : s.step c md5 (.arrive d ev setNX expired) = some next) :
    Owned c md5 next := by
  simp only [step] at stepped
  split at stepped
  next pending =>
    cases stepped
    have unheld : s.acquired d = none := owned.fresh d pending
    have other : ∀ key e, s.acquired e = some key → e ≠ d := by
      intro key e acquired same
      rw [same, unheld] at acquired
      cases acquired
    constructor
    · intro key
      rw [contains_admitEvent, owned.consistent]
      by_cases taken : c.acquires md5 s.claims ev setNX = some key <;> simp [taken]
    · intro key e held
      dsimp only at held ⊢
      split at held
      next taken =>
        cases held
        rw [Function.update_self]
        exact taken
      next =>
        have acquired := owned.known key e held
        rw [Function.update_of_ne (other key e acquired)]
        exact acquired
    · intro e key event acquired processing
      dsimp only at acquired processing ⊢
      by_cases here : e = d
      · subst here
        rw [Function.update_self] at acquired processing
        obtain ⟨-, named, -, -⟩ := acquires_some acquired
        rw [if_pos acquired]
        split at processing
        · cases processing
          exact ⟨named, rfl⟩
        · cases processing
      · rw [Function.update_of_ne here] at acquired processing
        obtain ⟨named, held⟩ := owned.owns e key event acquired processing
        refine ⟨named, ?_⟩
        rw [if_neg, held]
        intro taken
        have free := (acquires_some taken).2.2.1
        rw [owned.held held] at free
        cases free
    · intro e waiting
      dsimp only at waiting ⊢
      by_cases here : e = d
      · subst here
        rw [Function.update_self] at waiting
        split at waiting <;> cases waiting
      · rw [Function.update_of_ne here] at waiting ⊢
        exact owned.fresh e waiting
  next => cases stepped

theorem Owned.expire (owned : Owned c md5 s) {key : String}
    (stepped : s.step c md5 (.expire key) = some next) : Owned c md5 next := by
  cases stepped
  constructor
  · intro other
    rw [contains_erase_claim, owned.consistent]
    by_cases same : key = other
    · simp [same]
    · simp [same, Function.update_of_ne (Ne.symm same)]
  · intro other d held
    by_cases same : other = key
    · simp [same] at held
    · simp only [Function.update_of_ne same] at held
      have acquired := owned.known other d held
      dsimp only
      rw [if_neg, acquired]
      intro here
      have own := owned.known key d here
      rw [acquired] at own
      exact same (Option.some.inj own)
  · intro d other ev acquired processing
    dsimp only at acquired processing ⊢
    split at acquired
    next => cases acquired
    next unheld =>
      obtain ⟨named, held⟩ := owned.owns d other ev acquired processing
      refine ⟨named, ?_⟩
      rw [Function.update_of_ne, held]
      rintro rfl
      exact unheld held
  · intro d waiting
    dsimp only at waiting ⊢
    split
    · rfl
    · exact owned.fresh d waiting

theorem Owned.finish (owned : Owned c md5 s) {d : δ}
    (stepped : s.step c md5 (.finish d) = some next) : Owned c md5 next := by
  simp only [step] at stepped
  split at stepped
  next =>
    cases stepped
    refine ⟨owned.consistent, owned.known, ?_, ?_⟩
    · intro e key event acquired processing
      dsimp only at acquired processing ⊢
      by_cases here : e = d
      · simp [here] at processing
      · rw [Function.update_of_ne here] at processing
        exact owned.owns e key event acquired processing
    · intro e waiting
      dsimp only at waiting ⊢
      by_cases here : e = d
      · simp [here] at waiting
      · rw [Function.update_of_ne here] at waiting
        exact owned.fresh e waiting
  next => cases stepped

omit [DecidableEq δ] in
/-- A rightful release leaves the claims of others. -/
theorem Owned.kept (owned : Owned c md5 s) {d other : δ} {del : Reply} {ev : TelemetryEvent}
    (running : s.phase d = .processing ev) (rightful : s.Rightful c md5 (.release d del) next)
    {key : String} (held : s.holder key = some other) (distinct : other ≠ d) :
    (c.releaseEvent md5 s.claims ev del).contains key = true := by
  rw [contains_releaseEvent, owned.held held, Bool.true_and, Bool.not_eq_true']
  by_contra deleted
  simp only [Bool.not_eq_false, Bool.and_eq_true, decide_eq_true_eq] at deleted
  obtain ⟨⟨enabled, named⟩, effect⟩ := deleted
  have acquired := rightful d del rfl ev key running enabled named (owned.held held) effect
  have own := (owned.owns d key ev acquired running).2
  rw [held] at own
  exact distinct (Option.some.inj own)

theorem Owned.release (owned : Owned c md5 s) {d : δ} {del : Reply}
    (stepped : s.step c md5 (.release d del) = some next)
    (rightful : s.Rightful c md5 (.release d del) next) : Owned c md5 next := by
  simp only [step] at stepped
  split at stepped
  next ev running =>
    cases stepped
    constructor
    · intro key
      dsimp only
      cases kept : (c.releaseEvent md5 s.claims ev del).contains key with
      | false => rfl
      | true =>
        have before : s.claims.contains key = true := by
          rw [contains_releaseEvent] at kept
          exact (Bool.and_eq_true_iff.mp kept).1
        rw [if_pos rfl, ← owned.consistent, before]
    · intro key e held
      dsimp only at held ⊢
      split at held
      · exact owned.known key e held
      · cases held
    · intro e key event acquired processing
      dsimp only at acquired processing ⊢
      by_cases here : e = d
      · simp [here] at processing
      · rw [Function.update_of_ne here] at processing
        obtain ⟨named, held⟩ := owned.owns e key event acquired processing
        refine ⟨named, ?_⟩
        rw [if_pos (owned.kept running rightful held here), held]
    · intro e waiting
      dsimp only at waiting ⊢
      by_cases here : e = d
      · simp [here] at waiting
      · rw [Function.update_of_ne here] at waiting
        exact owned.fresh e waiting
  next => cases stepped

/-- A step keeps the claims of others exactly when it is rightful. -/
theorem Owned.keeps_iff (owned : Owned c md5 s) (stepped : s.step c md5 event = some next) :
    s.Keeps event next ↔ s.Rightful c md5 event next := by
  constructor
  · intro keeps d del released ev key running enabled named claimed effect
    subst released
    simp only [step, running] at stepped
    cases stepped
    obtain ⟨holder, held⟩ := Option.isSome_iff_exists.mp (owned.consistent key ▸ claimed)
    have own : holder = d := by
      by_contra distinct
      have kept := keeps d del rfl key holder claimed held distinct
      rw [contains_releaseEvent] at kept
      simp [enabled, named, effect] at kept
    exact owned.known key d (own ▸ held)
  · intro rightful d del released key other _ held distinct
    subst released
    simp only [step] at stepped
    split at stepped
    next ev running =>
      cases stepped
      exact owned.kept running rightful held distinct
    next => cases stepped

end ClaimState

/-- In every run, no release deletes a claim that the `Admit` of another delivery acquired
exactly when every release that gets through to a claim comes from a delivery that acquired it
on admission, and before it expired. -/
theorem released_by_owner_iff {δ : Type} [DecidableEq δ] (c : IdempotencyConfig)
    (md5 : String → String) (events : List (ClaimEvent δ)) :
    EveryStep (ClaimState.step c md5) ClaimState.Keeps ClaimState.start events ↔
      EveryStep (ClaimState.step c md5) (ClaimState.Rightful c md5) ClaimState.start events := by
  refine everyStep_iff _ (ClaimState.Owned c md5) events ?_ ?_ ClaimState.owned_start
  · intro s event next _ owned stepped
    exact owned.keeps_iff stepped
  · intro s event next _ owned stepped rightful
    cases event with
    | arrive d ev setNX expired => exact owned.arrive stepped
    | expire key => exact owned.expire stepped
    | release d del => exact owned.release stepped rightful
    | finish d => exact owned.finish stepped

/-! ## A claim that expires during processing -/

/-- The first delivery of a reading is still at work when its claim expires, the redelivery
takes the claim, and the first fails. -/
def overtaken : List (ClaimEvent Bool) :=
  [.arrive false Engine.spike .answered false,
    .expire "dedupe:2a74adf5858847835d7e38a1e58d0dcb",
    .arrive true Engine.spike .answered false, .release false .answered]

/-- The claim that the redelivery took is gone while the redelivery is at work. -/
theorem overtaken_deletes :
    ¬EveryStep (ClaimState.step Intake.spikeSetting.filter Intake.spikeSetting.md5)
      ClaimState.Keeps ClaimState.start overtaken := by
  intro every
  have keeps := ((((every _ rfl).2 _ rfl).2 _ rfl).2 _ rfl).1
  have kept := keeps false .answered rfl "dedupe:2a74adf5858847835d7e38a1e58d0dcb" true
    (by decide +kernel) (by decide +kernel) (by decide)
  revert kept
  decide +kernel

end OpenOntology.Resolution
