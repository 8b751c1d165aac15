import Mathlib.Data.List.Basic
import Mathlib.Logic.Relation

/-!
# Runs of a machine

A machine is a partial step function on states and events; a run feeds it a list
of events and stops at the first one it refuses. Invariants are proved once per
step and lifted to runs here.
-/
namespace OpenOntology.Library

variable {σ ε : Type*} (step : σ → ε → Option σ)

/-- Feed the events in order; `none` when one of them is not enabled. -/
def run : σ → List ε → Option σ
  | s, [] => some s
  | s, e :: rest => (step s e).bind fun next => run next rest

@[simp] theorem run_nil (s : σ) : run step s [] = some s := rfl

theorem run_cons (s : σ) (e : ε) (rest : List ε) :
    run step s (e :: rest) = (step s e).bind fun next => run step next rest := rfl

theorem run_append (s : σ) (first second : List ε) :
    run step s (first ++ second) = (run step s first).bind fun next => run step next second := by
  induction first generalizing s with
  | nil => rfl
  | cons e rest ih =>
    simp only [List.cons_append, run_cons]
    cases step s e with
    | none => rfl
    | some next => exact ih next

/-- A run that ends with one more event splits there. -/
theorem run_snoc (s final : σ) (events : List ε) (e : ε)
    (ran : run step s (events ++ [e]) = some final) :
    ∃ middle, run step s events = some middle ∧ step middle e = some final := by
  rw [run_append] at ran
  obtain ⟨middle, first, last⟩ := Option.bind_eq_some_iff.mp ran
  refine ⟨middle, first, ?_⟩
  rw [run_cons] at last
  obtain ⟨next, stepped, done⟩ := Option.bind_eq_some_iff.mp last
  rw [stepped]
  exact done

/-- The `n`-th event of a run takes `before` to `after`. -/
structure Moment (start : σ) (events : List ε) (n : ℕ) (before : σ) (e : ε) (after : σ) :
    Prop where
  event : events[n]? = some e
  reached : run step start (events.take n) = some before
  stepped : step before e = some after

variable {step} {start final before after : σ} {events : List ε} {n : ℕ} {e : ε}

theorem Moment.rest (at_n : Moment step start events n before e after)
    (ran : run step start events = some final) :
    run step after (events.drop (n + 1)) = some final := by
  obtain ⟨within, same⟩ := List.getElem?_eq_some_iff.mp at_n.event
  rw [← List.take_append_drop n events, run_append, at_n.reached, Option.bind_some,
    List.drop_eq_getElem_cons within, run_cons, same, at_n.stepped] at ran
  exact ran

theorem Moment.unique {before' after' : σ} {e' : ε}
    (at_n : Moment step start events n before e after)
    (at_n' : Moment step start events n before' e' after') : before = before' ∧ e = e' :=
  ⟨Option.some.inj (at_n.reached.symm.trans at_n'.reached),
    Option.some.inj (at_n.event.symm.trans at_n'.event)⟩

theorem Moment.snoc (at_n : Moment step start events n before e after) (last : ε) :
    Moment step start (events ++ [last]) n before e after := by
  obtain ⟨within, -⟩ := List.getElem?_eq_some_iff.mp at_n.event
  refine ⟨?_, ?_, at_n.stepped⟩
  · rw [List.getElem?_append_left within]
    exact at_n.event
  · rw [List.take_append_of_le_length (Nat.le_of_lt within)]
    exact at_n.reached

theorem moment_last (ran : run step start events = some before)
    (stepped : step before e = some after) :
    Moment step start (events ++ [e]) events.length before e after := by
  refine ⟨List.getElem?_concat_length, ?_, stepped⟩
  rw [List.take_left]
  exact ran

variable (step)

/-- What every step preserves, every run preserves. -/
theorem run_preserves (I : σ → Prop)
    (preserved : ∀ s e next, I s → step s e = some next → I next)
    (events : List ε) (s final : σ) (start : I s) (ran : run step s events = some final) :
    I final := by
  induction events generalizing s with
  | nil =>
    rw [run_nil] at ran
    cases ran
    exact start
  | cons e rest ih =>
    rw [run_cons] at ran
    obtain ⟨next, stepped, ran⟩ := Option.bind_eq_some_iff.mp ran
    exact ih next (preserved s e next start stepped) ran

/-- Every step of the run is as `P` asks. -/
def EveryStep (P : σ → ε → σ → Prop) : σ → List ε → Prop
  | _, [] => True
  | s, e :: rest => ∀ next, step s e = some next → P s e next ∧ EveryStep P next rest

/-- What every step of the asked kind preserves, every run of such steps preserves. -/
theorem run_preserves_of {P : σ → ε → σ → Prop} (I : σ → Prop)
    (preserved : ∀ s e next, I s → step s e = some next → P s e next → I next)
    (events : List ε) (s final : σ) (start : I s) (every : EveryStep step P s events)
    (ran : run step s events = some final) : I final := by
  induction events generalizing s with
  | nil =>
    rw [run_nil] at ran
    cases ran
    exact start
  | cons e rest ih =>
    rw [run_cons] at ran
    obtain ⟨next, stepped, ran⟩ := Option.bind_eq_some_iff.mp ran
    obtain ⟨fine, later⟩ := every next stepped
    exact ih next (preserved s e next start stepped fine) later ran

theorem everyStep_cons {P : σ → ε → σ → Prop} {s next : σ} {e : ε} {rest : List ε}
    (stepped : step s e = some next) (fine : P s e next) (later : EveryStep step P next rest) :
    EveryStep step P s (e :: rest) := by
  intro other same
  cases stepped.symm.trans same
  exact ⟨fine, later⟩

theorem EveryStep.imp {P Q : σ → ε → σ → Prop} {s : σ} {events : List ε}
    (weaker : ∀ before e after, P before e after → Q before e after)
    (every : EveryStep step P s events) : EveryStep step Q s events := by
  induction events generalizing s with
  | nil => exact trivial
  | cons e rest ih =>
    intro next stepped
    exact ⟨weaker s e next (every next stepped).1, ih (every next stepped).2⟩

theorem EveryStep.and {P Q : σ → ε → σ → Prop} {s : σ} {events : List ε}
    (left : EveryStep step P s events) (right : EveryStep step Q s events) :
    EveryStep step (fun before e after => P before e after ∧ Q before e after) s events := by
  induction events generalizing s with
  | nil => exact trivial
  | cons e rest ih =>
    intro next stepped
    exact ⟨⟨(left next stepped).1, (right next stepped).1⟩,
      ih (left next stepped).2 (right next stepped).2⟩

theorem everyStep_of {P : σ → ε → σ → Prop}
    (all : ∀ s e next, step s e = some next → P s e next) (s : σ) (events : List ε) :
    EveryStep step P s events := by
  induction events generalizing s with
  | nil => exact trivial
  | cons e rest ih => exact fun next stepped => ⟨all s e next stepped, ih next⟩

/-- Two demands on each step that agree wherever the invariant holds agree on the run. -/
theorem everyStep_iff {P Q : σ → ε → σ → Prop} (I : σ → Prop) (events : List ε)
    (agree : ∀ s e next, e ∈ events → I s → step s e = some next → (P s e next ↔ Q s e next))
    (preserved : ∀ s e next, e ∈ events → I s → step s e = some next → Q s e next → I next)
    {s : σ} (start : I s) : EveryStep step P s events ↔ EveryStep step Q s events := by
  induction events generalizing s with
  | nil => exact Iff.rfl
  | cons e rest ih =>
    have rest_iff : ∀ next, I next → (EveryStep step P next rest ↔ EveryStep step Q next rest) :=
      fun next => ih (fun s e next member => agree s e next (List.mem_cons_of_mem _ member))
        (fun s e next member => preserved s e next (List.mem_cons_of_mem _ member))
    constructor
    · intro asked next stepped
      obtain ⟨fine, later⟩ := asked next stepped
      have same := (agree s e next List.mem_cons_self start stepped).mp fine
      have kept := preserved s e next List.mem_cons_self start stepped same
      exact ⟨same, (rest_iff next kept).mp later⟩
    · intro asked next stepped
      obtain ⟨fine, later⟩ := asked next stepped
      have kept := preserved s e next List.mem_cons_self start stepped fine
      exact ⟨(agree s e next List.mem_cons_self start stepped).mpr fine,
        (rest_iff next kept).mpr later⟩

end OpenOntology.Library
