import OpenOntology.Library.OrderedDict
import OpenOntology.Library.Run

/-!
# Plans replayed to duplicate requests

Both intercept endpoints read a plan store, plan on a miss, write the plan and answer,
with other requests in between at every await. The store of the AI interceptor is
process-local or in Redis; the one of the graph interceptor is process-local. Only the
store in Redis refuses to replace a plan it holds.
-/
namespace OpenOntology.Intercept
open Library

variable {ρ κ α : Type} [DecidableEq ρ] [DecidableEq κ]

/-! ## The stores -/

/-- The state of `PlanCache` and of `CommandCache`. -/
structure BoundedCache (κ α : Type) where
  max : Nat
  data : OrderedDict κ α := {}

namespace BoundedCache

def get (c : BoundedCache κ α) (key : κ) : Option α × BoundedCache κ α :=
  if c.max = 0 then (none, c)
  else
    match c.data.find key with
    | none => (none, c)
    | some value => (some value, { c with data := c.data.toEnd key value })

def put (c : BoundedCache κ α) (key : κ) (value : α) : BoundedCache κ α :=
  if c.max = 0 then c
  else
    let data := c.data.toEnd key value
    { c with data := data.popFirst (data.entries.length - c.max) }

end BoundedCache

/-- The plan store of the AI interceptor, in memory. -/
abbrev PlanCache := BoundedCache

def PlanCache.get (c : PlanCache κ α) (key : κ) : Option α × PlanCache κ α :=
  BoundedCache.get c key

def PlanCache.put (c : PlanCache κ α) (key : κ) (value : α) : PlanCache κ α :=
  BoundedCache.put c key value

/-- The command store of the graph interceptor. -/
abbrev CommandCache := BoundedCache

def CommandCache.get (c : CommandCache κ α) (key : κ) : Option α × CommandCache κ α :=
  BoundedCache.get c key

def CommandCache.put (c : CommandCache κ α) (key : κ) (value : α) : CommandCache κ α :=
  BoundedCache.put c key value

/-- The records in Redis, none of them expired. -/
structure RedisPlanStore (κ α : Type) where
  records : κ → Option α

def RedisPlanStore.get (s : RedisPlanStore κ α) (key : κ) : Option α := s.records key

/-- `SET … NX`. -/
def RedisPlanStore.put (s : RedisPlanStore κ α) (key : κ) (value : α) : RedisPlanStore κ α :=
  match s.records key with
  | none => { records := Function.update s.records key (some value) }
  | some _ => s

inductive PlanStore (κ α : Type) where
  | planCache (cache : PlanCache κ α)
  | redisPlanStore (store : RedisPlanStore κ α)
  | commandCache (cache : CommandCache κ α)

namespace PlanStore

def get : PlanStore κ α → κ → Option α × PlanStore κ α
  | planCache cache, key => ((cache.get key).1, planCache (cache.get key).2)
  | redisPlanStore store, key => (store.get key, redisPlanStore store)
  | commandCache cache, key => ((cache.get key).1, commandCache (cache.get key).2)

def put : PlanStore κ α → κ → α → PlanStore κ α
  | planCache cache, key, value => planCache (cache.put key value)
  | redisPlanStore store, key, value => redisPlanStore (store.put key value)
  | commandCache cache, key, value => commandCache (cache.put key value)

/-- What a read of the key finds. -/
def find (s : PlanStore κ α) (key : κ) : Option α := (s.get key).1

/-- A bounded cache of no entries stores nothing. -/
def enabled : PlanStore κ α → Bool
  | planCache cache => cache.max != 0
  | redisPlanStore _ => true
  | commandCache cache => cache.max != 0

end PlanStore

namespace BoundedCache

theorem get_fst (c : BoundedCache κ α) (key : κ) :
    (c.get key).1 = if c.max = 0 then none else c.data.find key := by
  unfold get
  split
  · rfl
  · cases c.data.find key <;> rfl

theorem get_snd_max (c : BoundedCache κ α) (key : κ) : (c.get key).2.max = c.max := by
  unfold get
  split
  · rfl
  · cases c.data.find key <;> rfl

theorem put_max (c : BoundedCache κ α) (key : κ) (value : α) :
    (c.put key value).max = c.max := by
  unfold put
  split <;> rfl

/-- A read moves an entry and changes none. -/
theorem get_get (c : BoundedCache κ α) (key j : κ) : ((c.get key).2.get j).1 = (c.get j).1 := by
  rw [get_fst, get_fst, get_snd_max]
  by_cases off : c.max = 0
  · rw [if_pos off, if_pos off]
  · rw [if_neg off, if_neg off]
    unfold get
    rw [if_neg off]
    cases found : c.data.find key with
    | none => rfl
    | some value =>
      dsimp only
      by_cases same : j = key
      · subst same
        rw [OrderedDict.find_toEnd_self, found]
      · exact OrderedDict.find_toEnd_of_ne _ _ same

theorem put_get_self (c : BoundedCache κ α) (on : c.max ≠ 0) (key : κ) (value : α) :
    ((c.put key value).get key).1 = some value := by
  rw [get_fst, put_max, if_neg on]
  unfold put
  rw [if_neg on]
  refine OrderedDict.find_popFirst_toEnd c.data key value ?_
  have some_entry : 0 < (c.data.toEnd key value).entries.length :=
    List.length_pos_of_mem (List.mem_append_right _ List.mem_cons_self)
  omega

/-- A write of another key may evict an entry and changes none. -/
theorem put_get_of_ne (c : BoundedCache κ α) {key j : κ} (value v : α) (other : j ≠ key)
    (found : ((c.put key value).get j).1 = some v) : (c.get j).1 = some v := by
  rw [get_fst, put_max] at found
  rw [get_fst]
  by_cases off : c.max = 0
  · rw [if_pos off] at found
    cases found
  · rw [if_neg off] at found ⊢
    unfold put at found
    rw [if_neg off] at found
    rw [← OrderedDict.find_toEnd_of_ne c.data value other]
    exact OrderedDict.find_of_popFirst found

end BoundedCache

namespace PlanStore

theorem find_get (s : PlanStore κ α) (key j : κ) : ((s.get key).2).find j = s.find j := by
  cases s with
  | planCache cache => exact BoundedCache.get_get cache key j
  | redisPlanStore store => rfl
  | commandCache cache => exact BoundedCache.get_get cache key j

theorem enabled_get (s : PlanStore κ α) (key : κ) : (s.get key).2.enabled = s.enabled := by
  cases s with
  | planCache cache => exact congrArg (· != 0) (BoundedCache.get_snd_max cache key)
  | redisPlanStore store => rfl
  | commandCache cache => exact congrArg (· != 0) (BoundedCache.get_snd_max cache key)

theorem enabled_put (s : PlanStore κ α) (key : κ) (value : α) :
    (s.put key value).enabled = s.enabled := by
  cases s with
  | planCache cache => exact congrArg (· != 0) (BoundedCache.put_max cache key value)
  | redisPlanStore store => rfl
  | commandCache cache => exact congrArg (· != 0) (BoundedCache.put_max cache key value)

/-- A write leaves its key with the new plan, or, in Redis, with the plan it had. -/
theorem find_put_self (s : PlanStore κ α) (on : s.enabled = true) (key : κ) (value : α) :
    (s.put key value).find key = some value ∨
      (s.put key value).find key = s.find key ∧ s.find key ≠ none := by
  cases s with
  | planCache cache => exact Or.inl (cache.put_get_self (bne_iff_ne.mp on) key value)
  | commandCache cache => exact Or.inl (cache.put_get_self (bne_iff_ne.mp on) key value)
  | redisPlanStore store =>
    show (store.put key value).records key = some value ∨
      (store.put key value).records key = store.records key ∧ store.records key ≠ none
    unfold RedisPlanStore.put
    cases found : store.records key with
    | none => exact Or.inl (Function.update_self ..)
    | some held => exact Or.inr ⟨found, Option.some_ne_none held⟩

theorem find_put_of_ne (s : PlanStore κ α) {key j : κ} (value v : α) (other : j ≠ key)
    (found : (s.put key value).find j = some v) : s.find j = some v := by
  cases s with
  | planCache cache => exact BoundedCache.put_get_of_ne cache value v other found
  | commandCache cache => exact BoundedCache.put_get_of_ne cache value v other found
  | redisPlanStore store =>
    have held : (store.put key value).records j = some v := found
    show store.records j = some v
    unfold RedisPlanStore.put at held
    cases at_key : store.records key with
    | none =>
      rw [at_key] at held
      dsimp only at held
      rwa [Function.update_of_ne other] at held
    | some _ =>
      rw [at_key] at held
      exact held

theorem find_of_disabled (s : PlanStore κ α) (off : s.enabled = false) (key : κ) :
    s.find key = none := by
  cases s with
  | planCache cache =>
    have zero : cache.max = 0 := by simpa [enabled] using off
    exact (BoundedCache.get_fst cache key).trans (if_pos zero)
  | redisPlanStore store => cases off
  | commandCache cache =>
    have zero : cache.max = 0 := by simpa [enabled] using off
    exact (BoundedCache.get_fst cache key).trans (if_pos zero)

end PlanStore

/-! ## The endpoint -/

/-- Where a request stands in `intercept`. -/
inductive Phase (α : Type) where
  | waiting
  | missed
  | planned (plan : α)
  | ready (plan : α)
  | answered (plan : α)
  | failed

/-- The plan the request will answer with, once it has one. -/
def Phase.plan? : Phase α → Option α
  | planned plan => some plan
  | ready plan => some plan
  | answered plan => some plan
  | _ => none

/-- The store, the requests, whether a request began after a response for its key had
been returned, and the keys with a returned response. -/
structure Endpoint (ρ κ α : Type) where
  store : PlanStore κ α
  phase : ρ → Phase α
  late : ρ → Bool
  returned : κ → Bool

/-- The steps of a request between its awaits: the read it begins with, the planning,
which may fail, the write, and the response. -/
inductive InterceptEvent (ρ α : Type) where
  | get (r : ρ)
  | plan (r : ρ) (outcome : Option α)
  | put (r : ρ)
  | respond (r : ρ)

namespace Endpoint

def start (store : PlanStore κ α) : Endpoint ρ κ α where
  store := store
  phase _ := .waiting
  late _ := false
  returned _ := false

def setPhase (σ : Endpoint ρ κ α) (r : ρ) (phase : Phase α) : Endpoint ρ κ α :=
  { σ with phase := Function.update σ.phase r phase }

/-- One step of request `r`, whose key is `key r`. -/
def step (key : ρ → κ) (σ : Endpoint ρ κ α) : InterceptEvent ρ α → Option (Endpoint ρ κ α)
  | .get r =>
    match σ.phase r with
    | .waiting =>
      let read := σ.store.get (key r)
      let phase := match read.1 with
        | some cached => .ready cached
        | none => .missed
      some { σ.setPhase r phase with
        store := read.2
        late := Function.update σ.late r (σ.returned (key r)) }
    | _ => none
  | .plan r outcome =>
    match σ.phase r with
    | .missed =>
      match outcome with
      | some plan => some (σ.setPhase r (.planned plan))
      | none => some (σ.setPhase r .failed)
    | _ => none
  | .put r =>
    match σ.phase r with
    | .planned plan =>
      some { σ.setPhase r (.ready plan) with store := σ.store.put (key r) plan }
    | _ => none
  | .respond r =>
    match σ.phase r with
    | .ready plan =>
      some { σ.setPhase r (.answered plan) with
        returned := Function.update σ.returned (key r) true }
    | _ => none

/-- A request for key `k` that began after a response has been given the plan. -/
def Given (key : ρ → κ) (σ : Endpoint ρ κ α) (k : κ) (plan : α) : Prop :=
  ∃ r, key r = k ∧ σ.late r = true ∧ (σ.phase r).plan? = some plan

/-- All requests for key `k` that began after a response were answered alike. -/
def ReplaysAgree (key : ρ → κ) (k : κ) (σ : Endpoint ρ κ α) : Prop :=
  ∀ r r' plan plan', key r = k → key r' = k → σ.late r = true → σ.late r' = true →
    σ.phase r = .answered plan → σ.phase r' = .answered plan' → plan = plan'

/-- The step does not drop the record of key `k`. -/
def Retains (k : κ) (before after : Endpoint ρ κ α) : Prop :=
  before.store.find k ≠ none → after.store.find k ≠ none

/-- The step contradicts no plan already given to a request for key `k` that began after
a response: neither by planning anew for such a request, nor by writing over what the
store holds. -/
def KeepsAnswer (key : ρ → κ) (k : κ) (σ : Endpoint ρ κ α) : InterceptEvent ρ α → Prop
  | .plan r outcome => key r = k → σ.late r = true →
      ∀ plan given, outcome = some plan → Given key σ k given → given = plan
  | .put r => key r = k → ∀ plan, σ.phase r = .planned plan →
      (σ.store.put k plan).find k = σ.store.find k ∨ ∀ given, Given key σ k given → given = plan
  | _ => True

/-! ## What a run keeps -/

/-- The given plans agree, with each other and with the store. -/
structure Invariant (key : ρ → κ) (k : κ) (σ : Endpoint ρ κ α) : Prop where
  agree : ∀ plan plan', Given key σ k plan → Given key σ k plan' → plan = plan'
  current : ∀ plan held, Given key σ k plan → σ.store.find k = some held → held = plan
  replanning : ∀ r, key r = k → σ.late r = true →
    (σ.phase r = .missed ∨ ∃ plan, σ.phase r = .planned plan) → σ.store.enabled = false
  late : ∀ r, key r = k → σ.late r = true → σ.returned k = true
  held : σ.store.enabled = true → σ.returned k = true → σ.store.find k ≠ none
  ready : σ.store.enabled = true → ∀ r plan, key r = k → σ.phase r = .ready plan →
    σ.store.find k ≠ none

variable {key : ρ → κ} {k : κ}

omit [DecidableEq ρ] in
theorem invariant_start (store : PlanStore κ α) :
    Invariant key k (start store : Endpoint ρ κ α) where
  agree _ _ := by
    rintro ⟨_, _, began, _⟩
    cases began
  current _ _ := by
    rintro ⟨_, _, began, _⟩
    cases began
  replanning _ _ began := by cases began
  late _ _ began := by cases began
  held _ answered := by cases answered
  ready _ _ _ _ phase := by cases phase

/-- What one step does, by the event. -/
inductive Course (key : ρ → κ) (σ : Endpoint ρ κ α) : InterceptEvent ρ α → Endpoint ρ κ α → Prop
  | hit (r : ρ) (cached : α) (found : σ.store.find (key r) = some cached) :
    Course key σ (.get r) { σ.setPhase r (.ready cached) with
      store := (σ.store.get (key r)).2, late := Function.update σ.late r (σ.returned (key r)) }
  | miss (r : ρ) (absent : σ.store.find (key r) = none) :
    Course key σ (.get r) { σ.setPhase r .missed with
      store := (σ.store.get (key r)).2, late := Function.update σ.late r (σ.returned (key r)) }
  | plan (r : ρ) (plan : α) (at_r : σ.phase r = .missed) :
    Course key σ (.plan r (some plan)) (σ.setPhase r (.planned plan))
  | fail (r : ρ) (at_r : σ.phase r = .missed) :
    Course key σ (.plan r none) (σ.setPhase r .failed)
  | put (r : ρ) (plan : α) (at_r : σ.phase r = .planned plan) :
    Course key σ (.put r) { σ.setPhase r (.ready plan) with store := σ.store.put (key r) plan }
  | respond (r : ρ) (plan : α) (at_r : σ.phase r = .ready plan) :
    Course key σ (.respond r) { σ.setPhase r (.answered plan) with
      returned := Function.update σ.returned (key r) true }

theorem step_course {σ next : Endpoint ρ κ α} {event : InterceptEvent ρ α}
    (stepped : σ.step key event = some next) : Course key σ event next := by
  cases event with
  | get r =>
    dsimp only [step] at stepped
    cases at_r : σ.phase r with
    | waiting =>
      rw [at_r] at stepped
      dsimp only at stepped
      cases found : (σ.store.get (key r)).1 with
      | some cached =>
        rw [found] at stepped
        cases stepped
        exact .hit r cached found
      | none =>
        rw [found] at stepped
        cases stepped
        exact .miss r found
    | _ =>
      rw [at_r] at stepped
      cases stepped
  | plan r outcome =>
    dsimp only [step] at stepped
    cases at_r : σ.phase r with
    | missed =>
      rw [at_r] at stepped
      cases outcome with
      | some plan =>
        cases stepped
        exact .plan r plan at_r
      | none =>
        cases stepped
        exact .fail r at_r
    | _ =>
      rw [at_r] at stepped
      cases stepped
  | put r =>
    dsimp only [step] at stepped
    cases at_r : σ.phase r with
    | planned plan =>
      rw [at_r] at stepped
      cases stepped
      exact .put r plan at_r
    | _ =>
      rw [at_r] at stepped
      cases stepped
  | respond r =>
    dsimp only [step] at stepped
    cases at_r : σ.phase r with
    | ready plan =>
      rw [at_r] at stepped
      cases stepped
      exact .respond r plan at_r
    | _ =>
      rw [at_r] at stepped
      cases stepped

omit [DecidableEq κ] in
/-- A plan given after a step of request `r` was given before, or is what `r` now has. -/
theorem given_after (σ : Endpoint ρ κ α) {next : Endpoint ρ κ α} {plan : α}
    (given : Given key next k plan) (r : ρ) (phase : Phase α)
    (phases : next.phase = Function.update σ.phase r phase)
    (lates : ∀ r', r' ≠ r → next.late r' = σ.late r') :
    Given key σ k plan ∨ key r = k ∧ next.late r = true ∧ phase.plan? = some plan := by
  obtain ⟨r', same_key, began, has⟩ := given
  rw [phases] at has
  by_cases same : r' = r
  · subst same
    rw [Function.update_self] at has
    exact Or.inr ⟨same_key, began, has⟩
  · rw [Function.update_of_ne same] at has
    rw [lates r' same] at began
    exact Or.inl ⟨r', same_key, began, has⟩

omit [DecidableEq ρ] in
/-- The plan given to a late request is the one the store holds. -/
theorem Invariant.store_of_given {σ : Endpoint ρ κ α} (inv : Invariant key k σ)
    (on : σ.store.enabled = true) {plan : α} (given : Given key σ k plan) :
    σ.store.find k = some plan := by
  obtain ⟨r, same, began, has⟩ := given
  cases found : σ.store.find k with
  | none => exact absurd found (inv.held on (inv.late r same began))
  | some held => rw [inv.current plan held ⟨r, same, began, has⟩ found]

theorem Invariant.get {σ : Endpoint ρ κ α} (inv : Invariant key k σ) (r : ρ) (phase : Phase α)
    (read : (∃ cached, σ.store.find (key r) = some cached ∧ phase = .ready cached) ∨
      σ.store.find (key r) = none ∧ phase = .missed) :
    Invariant key k { σ.setPhase r phase with
      store := (σ.store.get (key r)).2
      late := Function.update σ.late r (σ.returned (key r)) } := by
  have finds : (σ.store.get (key r)).2.find k = σ.store.find k := PlanStore.find_get ..
  have switch : (σ.store.get (key r)).2.enabled = σ.store.enabled := PlanStore.enabled_get ..
  have others : ∀ r', r' ≠ r → Function.update σ.late r (σ.returned (key r)) r' = σ.late r' :=
    fun r' other => Function.update_of_ne other ..
  have mine : Function.update σ.late r (σ.returned (key r)) r = σ.returned (key r) :=
    Function.update_self ..
  -- what the read newly gives is what the store holds
  have fresh : ∀ plan, key r = k → phase.plan? = some plan → σ.store.find k = some plan := by
    intro plan same has
    rcases read with ⟨cached, found, rfl⟩ | ⟨-, rfl⟩
    · cases has
      rw [← same]
      exact found
    · cases has
  have given : ∀ plan, Given key { σ.setPhase r phase with
      store := (σ.store.get (key r)).2
      late := Function.update σ.late r (σ.returned (key r)) } k plan →
      Given key σ k plan ∨ σ.store.find k = some plan := by
    intro plan now
    rcases given_after σ now r phase rfl others with before | ⟨same, -, has⟩
    · exact Or.inl before
    · exact Or.inr (fresh plan same has)
  refine ⟨?_, ?_, ?_, ?_, ?_, ?_⟩
  · intro plan plan' now now'
    rcases given plan now with before | found
    · rcases given plan' now' with before' | found'
      · exact inv.agree plan plan' before before'
      · exact (inv.current plan plan' before found').symm
    · rcases given plan' now' with before' | found'
      · exact inv.current plan' plan before' found
      · exact Option.some.inj (found.symm.trans found')
  · intro plan held now found
    rw [finds] at found
    rcases given plan now with before | found'
    · exact inv.current plan held before found
    · exact Option.some.inj (found.symm.trans found')
  · intro r' same began waits
    rw [switch]
    by_cases own : r' = r
    · subst own
      simp only [setPhase, Function.update_self] at waits began
      rcases read with ⟨cached, -, rfl⟩ | ⟨absent, -⟩
      · rcases waits with missed | ⟨plan, planned⟩
        · cases missed
        · cases planned
      · by_contra on
        rw [Bool.not_eq_false] at on
        rw [same] at absent began
        exact inv.held on began absent
    · simp only [setPhase, Function.update_of_ne own] at waits began
      exact inv.replanning r' same began waits
  · intro r' same began
    by_cases own : r' = r
    · subst own
      simp only [Function.update_self] at began
      rwa [same] at began
    · simp only [Function.update_of_ne own] at began
      exact inv.late r' same began
  · intro on answered
    rw [switch] at on
    rw [finds]
    exact inv.held on answered
  · intro on r' plan same at_r'
    rw [switch] at on
    rw [finds]
    by_cases own : r' = r
    · subst own
      simp only [setPhase, Function.update_self] at at_r'
      subst at_r'
      rw [fresh plan same rfl]
      exact Option.some_ne_none plan
    · simp only [setPhase, Function.update_of_ne own] at at_r'
      exact inv.ready on r' plan same at_r'

theorem Invariant.plan {σ : Endpoint ρ κ α} (inv : Invariant key k σ) (r : ρ) (plan : α)
    (at_r : σ.phase r = .missed)
    (fine : key r = k → σ.late r = true → ∀ given, Given key σ k given → given = plan) :
    Invariant key k (σ.setPhase r (.planned plan)) := by
  have given : ∀ {now}, Given key (σ.setPhase r (.planned plan)) k now →
      Given key σ k now ∨ key r = k ∧ σ.late r = true ∧ now = plan := by
    intro now has
    rcases given_after σ has r (.planned plan) rfl fun _ _ => rfl with before | ⟨same, began, has⟩
    · exact Or.inl before
    · cases has
      exact Or.inr ⟨same, began, rfl⟩
  refine ⟨?_, ?_, ?_, inv.late, inv.held, ?_⟩
  · intro one other now now'
    rcases given now with before | ⟨same, began, rfl⟩
    · rcases given now' with before' | ⟨same, began, rfl⟩
      · exact inv.agree one other before before'
      · exact fine same began one before
    · rcases given now' with before' | ⟨-, -, rfl⟩
      · exact (fine same began other before').symm
      · rfl
  · intro one held now found
    rcases given now with before | ⟨same, began, rfl⟩
    · exact inv.current one held before found
    · -- a late request that missed: the store keeps nothing at all
      have off := inv.replanning r same began (Or.inl at_r)
      have absent : σ.store.find k = none := PlanStore.find_of_disabled σ.store off k
      exact absurd (absent.symm.trans found) nofun
  · intro r' same began waits
    by_cases own : r' = r
    · subst own
      exact inv.replanning r' same began (Or.inl at_r)
    · simp only [setPhase, Function.update_of_ne own] at waits
      exact inv.replanning r' same began waits
  · intro on r' ready same at_r'
    by_cases own : r' = r
    · subst own
      simp only [setPhase, Function.update_self] at at_r'
      cases at_r'
    · simp only [setPhase, Function.update_of_ne own] at at_r'
      exact inv.ready on r' ready same at_r'

theorem Invariant.fail {σ : Endpoint ρ κ α} (inv : Invariant key k σ) (r : ρ) :
    Invariant key k (σ.setPhase r .failed) := by
  have given : ∀ {now}, Given key (σ.setPhase r .failed) k now → Given key σ k now := by
    intro now has
    rcases given_after σ has r .failed rfl fun _ _ => rfl with before | ⟨-, -, has⟩
    · exact before
    · cases has
  refine ⟨fun one other now now' => inv.agree one other (given now) (given now'),
    fun one held now => inv.current one held (given now), ?_, inv.late, inv.held, ?_⟩
  · intro r' same began waits
    by_cases own : r' = r
    · subst own
      simp [setPhase] at waits
    · simp only [setPhase, Function.update_of_ne own] at waits
      exact inv.replanning r' same began waits
  · intro on r' ready same at_r'
    by_cases own : r' = r
    · subst own
      simp [setPhase] at at_r'
    · simp only [setPhase, Function.update_of_ne own] at at_r'
      exact inv.ready on r' ready same at_r'

theorem Invariant.put {σ : Endpoint ρ κ α} (inv : Invariant key k σ) (r : ρ) (plan : α)
    (at_r : σ.phase r = .planned plan)
    (fine : key r = k → (σ.store.put k plan).find k = σ.store.find k ∨
      ∀ given, Given key σ k given → given = plan)
    (retained : σ.store.find k ≠ none → (σ.store.put (key r) plan).find k ≠ none) :
    Invariant key k { σ.setPhase r (.ready plan) with store := σ.store.put (key r) plan } := by
  have given : ∀ {now}, Given key { σ.setPhase r (.ready plan) with
      store := σ.store.put (key r) plan } k now → Given key σ k now := by
    intro now has
    rcases given_after σ has r (.ready plan) rfl fun _ _ => rfl with before | ⟨same, began, has⟩
    · exact before
    · -- `r` had its plan before the write
      cases has
      exact ⟨r, same, began, by rw [at_r]; rfl⟩
  have switch : (σ.store.put (key r) plan).enabled = σ.store.enabled := PlanStore.enabled_put ..
  have written : σ.store.enabled = true → key r = k → (σ.store.put (key r) plan).find k ≠ none := by
    intro on same
    rw [same]
    rcases PlanStore.find_put_self σ.store on k plan with now | ⟨kept, some_plan⟩
    · rw [now]
      exact Option.some_ne_none plan
    · rw [kept]
      exact some_plan
  refine ⟨fun one other now now' => inv.agree one other (given now) (given now'), ?_, ?_,
    inv.late, fun on answered => retained (inv.held (switch ▸ on) answered), ?_⟩
  · intro one held now found
    have before := given now
    by_cases same : key r = k
    · rw [same] at found
      rcases fine same with kept | agrees
      · exact inv.current one held before (kept ▸ found)
      · cases on : σ.store.enabled with
        | false =>
          have off : (σ.store.put k plan).enabled = false := by rw [PlanStore.enabled_put, on]
          have absent := PlanStore.find_of_disabled _ off k
          exact absurd (absent.symm.trans found) nofun
        | true =>
          rcases PlanStore.find_put_self σ.store on k plan with now | ⟨kept, -⟩
          · rw [agrees one before]
            exact Option.some.inj (found.symm.trans now)
          · exact inv.current one held before (kept ▸ found)
    · exact inv.current one held before
        (PlanStore.find_put_of_ne σ.store plan held (Ne.symm same) found)
  · intro r' same began waits
    rw [switch]
    by_cases own : r' = r
    · subst own
      simp [setPhase] at waits
    · simp only [setPhase, Function.update_of_ne own] at waits
      exact inv.replanning r' same began waits
  · intro on r' ready same at_r'
    rw [switch] at on
    by_cases own : r' = r
    · subst own
      exact written on same
    · simp only [setPhase, Function.update_of_ne own] at at_r'
      exact retained (inv.ready on r' ready same at_r')

theorem Invariant.respond {σ : Endpoint ρ κ α} (inv : Invariant key k σ) (r : ρ) (plan : α)
    (at_r : σ.phase r = .ready plan) :
    Invariant key k { σ.setPhase r (.answered plan) with
      returned := Function.update σ.returned (key r) true } := by
  have given : ∀ {now}, Given key { σ.setPhase r (.answered plan) with
      returned := Function.update σ.returned (key r) true } k now → Given key σ k now := by
    intro now has
    rcases given_after σ has r (.answered plan) rfl fun _ _ => rfl with
      before | ⟨same, began, has⟩
    · exact before
    · cases has
      exact ⟨r, same, began, by rw [at_r]; rfl⟩
  refine ⟨fun one other now now' => inv.agree one other (given now) (given now'),
    fun one held now => inv.current one held (given now), ?_, ?_, ?_, ?_⟩
  · intro r' same began waits
    by_cases own : r' = r
    · subst own
      simp [setPhase] at waits
    · simp only [setPhase, Function.update_of_ne own] at waits
      exact inv.replanning r' same began waits
  · intro r' same began
    by_cases own : k = key r
    · rw [own]
      exact Function.update_self ..
    · exact (Function.update_of_ne own ..).trans (inv.late r' same began)
  · intro on answered
    by_cases own : k = key r
    · exact inv.ready on r plan own.symm at_r
    · exact inv.held on ((Function.update_of_ne own ..).symm.trans answered)
  · intro on r' ready same at_r'
    by_cases own : r' = r
    · subst own
      simp [setPhase] at at_r'
    · simp only [setPhase, Function.update_of_ne own] at at_r'
      exact inv.ready on r' ready same at_r'

theorem Invariant.step {σ next : Endpoint ρ κ α} {event : InterceptEvent ρ α}
    (inv : Invariant key k σ) (stepped : σ.step key event = some next)
    (fine : KeepsAnswer key k σ event) (retained : Retains k σ next) : Invariant key k next := by
  cases step_course stepped with
  | hit r cached found => exact inv.get r (.ready cached) (Or.inl ⟨cached, found, rfl⟩)
  | miss r absent => exact inv.get r .missed (Or.inr ⟨absent, rfl⟩)
  | plan r plan at_r =>
    exact inv.plan r plan at_r fun same began given => fine same began plan given rfl
  | fail r at_r => exact inv.fail r
  | put r plan at_r => exact inv.put r plan at_r (fun same => fine same plan at_r) retained
  | respond r plan at_r => exact inv.respond r plan at_r

omit [DecidableEq ρ] in
theorem Invariant.replaysAgree {σ : Endpoint ρ κ α} (inv : Invariant key k σ) :
    ReplaysAgree key k σ := by
  intro r r' plan plan' same same' began began' answer answer'
  exact inv.agree plan plan' ⟨r, same, began, by rw [answer]; rfl⟩
    ⟨r', same', began', by rw [answer']; rfl⟩

/-- In Redis every step keeps the answer: a late request never plans anew, and a write
replaces nothing. -/
theorem keepsAnswer_redis {σ : Endpoint ρ κ α} (inv : Invariant key k σ)
    (redis : ∃ records, σ.store = .redisPlanStore records) (event : InterceptEvent ρ α)
    (enabled : (σ.step key event).isSome = true) : KeepsAnswer key k σ event := by
  obtain ⟨records, shared⟩ := redis
  have on : σ.store.enabled = true := by rw [shared]; rfl
  obtain ⟨next, stepped⟩ := Option.isSome_iff_exists.mp enabled
  cases step_course stepped with
  | hit => exact trivial
  | miss => exact trivial
  | fail => exact fun _ _ _ _ impossible => nomatch impossible
  | respond => exact trivial
  | plan r plan at_r =>
    intro same began
    rw [inv.replanning r same began (Or.inl at_r)] at on
    cases on
  | put r plan at_r =>
    intro same written _
    by_cases given : ∃ plan', Given key σ k plan'
    · obtain ⟨plan', has⟩ := given
      have held := inv.store_of_given on has
      rw [shared] at held ⊢
      left
      show (records.put k written).records k = records.records k
      unfold RedisPlanStore.put
      rw [show records.records k = some plan' from held]
      exact held
    · exact Or.inr fun plan' has => absurd ⟨plan', has⟩ given

theorem retains_redis {σ next : Endpoint ρ κ α} {event : InterceptEvent ρ α}
    (redis : ∃ records, σ.store = .redisPlanStore records)
    (stepped : σ.step key event = some next) :
    Retains k σ next ∧ ∃ records, next.store = .redisPlanStore records := by
  obtain ⟨records, shared⟩ := redis
  cases step_course stepped with
  | hit r => exact ⟨by simp only [Retains, PlanStore.find_get]; exact id, records, by simp [shared, PlanStore.get]⟩
  | miss r => exact ⟨by simp only [Retains, PlanStore.find_get]; exact id, records, by simp [shared, PlanStore.get]⟩
  | plan => exact ⟨id, records, shared⟩
  | fail => exact ⟨id, records, shared⟩
  | respond => exact ⟨id, records, shared⟩
  | put r plan at_r =>
    refine ⟨?_, records.put (key r) plan, by simp [shared, PlanStore.put]⟩
    intro held
    dsimp only
    rw [shared] at held ⊢
    show (records.put (key r) plan).records k ≠ none
    have kept : records.records k ≠ none := held
    unfold RedisPlanStore.put
    cases absent : records.records (key r) with
    | some _ => exact kept
    | none =>
      have other : k ≠ key r := fun same => kept (same ▸ absent)
      dsimp only
      rw [Function.update_of_ne other]
      exact kept

/-- In Redis replays agree in every run. -/
theorem redis_replays_agree (key : ρ → κ) (k : κ) (records : RedisPlanStore κ α)
    (events : List (InterceptEvent ρ α)) (σ : Endpoint ρ κ α)
    (ran : run (step key) (start (.redisPlanStore records)) events = some σ) :
    ReplaysAgree key k σ := by
  have kept := run_preserves (step key)
    (fun σ : Endpoint ρ κ α => Invariant key k σ ∧ ∃ records, σ.store = .redisPlanStore records)
    (fun s e next ⟨inv, redis⟩ stepped => by
      obtain ⟨retained, still⟩ := retains_redis redis stepped
      have fine := keepsAnswer_redis inv redis e (by rw [stepped]; rfl)
      exact ⟨inv.step stepped fine retained, still⟩)
    events _ σ ⟨invariant_start _, records, rfl⟩ ran
  exact kept.1.replaysAgree

/-- In every run that drops no record of a key and whose steps contradict no plan given
to a replay, all replays of the key agree, whichever store is behind the endpoint. -/
theorem replays_agree (key : ρ → κ) (k : κ) (store : PlanStore κ α)
    (events : List (InterceptEvent ρ α)) (σ : Endpoint ρ κ α)
    (ran : run (step key) (start store) events = some σ)
    (fine : EveryStep (step key)
      (fun before event after => Retains k before after ∧ KeepsAnswer key k before event)
      (start store) events) : ReplaysAgree key k σ :=
  (run_preserves_of (step key) (Invariant key k)
    (fun _ _ _ inv stepped ⟨retained, keeps⟩ => inv.step stepped keeps retained) events _ σ
    (invariant_start store) fine ran).replaysAgree

/-- Two requests miss, the first writes and answers, a third replays its plan; then the
second writes and a fourth replays that. -/
def lateWrite : List (InterceptEvent Nat Nat) :=
  [.get 0, .get 1, .plan 0 (some 100), .put 0, .respond 0, .get 2, .respond 2, .plan 1 (some 200),
    .put 1, .get 3, .respond 3]

/-- With requests of one key only no record is dropped. -/
theorem retains_single {σ next : Endpoint Nat Unit Nat} {event : InterceptEvent Nat Nat}
    (stepped : σ.step (fun _ => ()) event = some next) : Retains () σ next := by
  cases step_course stepped with
  | hit => simp only [Retains, PlanStore.find_get]; exact id
  | miss => simp only [Retains, PlanStore.find_get]; exact id
  | plan => exact id
  | fail => exact id
  | respond => exact id
  | put r plan =>
    intro held
    cases on : σ.store.enabled with
    | false => exact absurd (PlanStore.find_of_disabled σ.store on ()) held
    | true =>
      rcases PlanStore.find_put_self σ.store on () plan with now | ⟨kept, -⟩
      · exact fun absent => absurd (now.symm.trans absent) nofun
      · exact fun absent => held (kept ▸ absent)

omit [DecidableEq ρ] in
theorem keepsAnswer_of_none_late {σ : Endpoint ρ κ α} (none_late : ∀ r, σ.late r = false)
    (event : InterceptEvent ρ α) : KeepsAnswer key k σ event := by
  cases event with
  | get => exact trivial
  | respond => exact trivial
  | plan r outcome =>
    intro _ began
    rw [none_late r] at began
    cases began
  | put r =>
    refine fun _ plan _ => Or.inr ?_
    rintro given ⟨r', -, began, -⟩
    rw [none_late r'] at began
    cases began

/-- Both write before anyone answers. -/
theorem replays_agree_early :
    ∃ σ, run (step fun _ : Nat => ()) (start (.planCache { max := 4 }) : Endpoint Nat Unit Nat)
        [.get 0, .get 1, .plan 0 (some 100), .plan 1 (some 200), .put 0, .put 1, .respond 0,
          .get 2, .respond 2, .get 3, .respond 3] = some σ ∧ ReplaysAgree (fun _ => ()) () σ := by
  obtain ⟨σ, ran⟩ := Option.isSome_iff_exists.mp (rfl : (run (step fun _ : Nat => ())
    (start (.planCache { max := 4 }) : Endpoint Nat Unit Nat) [.get 0, .get 1, .plan 0 (some 100),
      .plan 1 (some 200), .put 0, .put 1, .respond 0, .get 2, .respond 2, .get 3,
      .respond 3]).isSome = true)
  refine ⟨σ, ran, replays_agree (fun _ => ()) () (.planCache { max := 4 }) _ σ ran
    ((everyStep_of _ (fun _ _ _ => retains_single) _ _).and _ ?_)⟩
  have early : ∀ r : Nat, Function.update (Function.update (fun _ => false) 0 false) 1 false r =
      false := by
    intro r
    simp [Function.update]
  refine everyStep_cons _ rfl trivial ?_
  refine everyStep_cons _ rfl trivial ?_
  refine everyStep_cons _ rfl (keepsAnswer_of_none_late early _) ?_
  refine everyStep_cons _ rfl (keepsAnswer_of_none_late early _) ?_
  refine everyStep_cons _ rfl (keepsAnswer_of_none_late early _) ?_
  refine everyStep_cons _ rfl (keepsAnswer_of_none_late early _) ?_
  refine everyStep_cons _ rfl trivial ?_
  refine everyStep_cons _ rfl trivial ?_
  refine everyStep_cons _ rfl trivial ?_
  refine everyStep_cons _ rfl trivial ?_
  exact everyStep_cons _ rfl trivial trivial

/-- Both caches let a late write change the answer of a replay. -/
theorem replays_disagree :
    (¬∀ events σ, run (step fun _ : Nat => ())
        (start (.planCache { max := 4 }) : Endpoint Nat Unit Nat) events = some σ →
          EveryStep (step fun _ => ()) (fun before _ after => Retains () before after)
            (start (.planCache { max := 4 })) events → ReplaysAgree (fun _ => ()) () σ) ∧
      ¬∀ events σ, run (step fun _ : Nat => ())
        (start (.commandCache { max := 4 }) : Endpoint Nat Unit Nat) events = some σ →
          EveryStep (step fun _ => ()) (fun before _ after => Retains () before after)
            (start (.commandCache { max := 4 })) events → ReplaysAgree (fun _ => ()) () σ := by
  constructor
  · intro agree
    have both := agree lateWrite _ rfl (everyStep_of _ (fun _ _ _ => retains_single) _ _) 2 3 100 200
      rfl rfl rfl rfl rfl rfl
    cases both
  · intro agree
    have both := agree lateWrite _ rfl (everyStep_of _ (fun _ _ _ => retains_single) _ _) 2 3 100 200
      rfl rfl rfl rfl rfl rfl
    cases both

end Endpoint
end OpenOntology.Intercept
