import OpenOntology.Graph.Adapter

/-!
# What the adapter keeps over every run

However the calls of the workers interleave, one of them dials at a time, handshakes that
fail are a redial interval apart, and one that succeeds is the last until the adapter is
closed.
-/
namespace OpenOntology.Graph

open Resolution (Time Duration)
open Library

variable {ι : Type} [DecidableEq ι]

/-- What a handshake leaves to a later one that starts at `started`. -/
structure Dial.Allows (closed : Bool) (started : Time) (d : Dial) : Prop where
  before : d.ended ≤ started
  closed : d.succeeded = true → closed = true ∧ d.late = false
  rested : d.succeeded = false → d.ended + neo4jRedialInterval ≤ started

/-- A handshake as it was recorded, after an earlier one. -/
def Dial.Precedes (earlier later : Dial) : Prop := earlier.Allows later.late later.started

/-- The handshake of the number succeeded. -/
def Succeeded (dials : List Dial) (n : ℕ) : Prop := ∃ d, dials[n]? = some d ∧ d.succeeded = true

/-- What a phase may rely on while others run. -/
def CallPhase.Relies (s : Neo4jGraphAdapter ι) : CallPhase → Prop
  | .holding notBefore => s.resolver = none ∧ notBefore = s.nextDialAt
  | .dialing started | .dialed started _ =>
    s.resolver = none ∧ started ≤ s.clock ∧ ∀ d ∈ s.dials, d.Allows s.closed started
  | .releasing (.ok n) | .querying n => Succeeded s.dials n
  | _ => True

structure Sound (s : Neo4jGraphAdapter ι) : Prop where
  exclusive : ∀ i j, (s.caller i).phase.owns = true → (s.caller j).phase.owns = true → i = j
  flagged : ∀ i, (s.caller i).phase.owns = true → s.dialingFlag = true
  relies : ∀ i, (s.caller i).phase.Relies s
  ordered : s.dials.Pairwise Dial.Precedes
  past : ∀ d ∈ s.dials, d.started ≤ d.ended ∧ d.ended ≤ s.clock
  waits : ∀ d ∈ s.dials, d.succeeded = false → d.ended + neo4jRedialInterval ≤ s.nextDialAt
  dialed : ∀ n, s.resolver = some n → Succeeded s.dials n
  early : s.closed = false → ∀ d ∈ s.dials, d.late = false
  without : s.resolver = none → ∀ d ∈ s.dials, d.succeeded = true → s.closed = true ∧ d.late = false
  known : ∀ n ∈ s.released, s.closed = true ∧ Succeeded s.dials n
  released : s.closed = true → ∀ n d, s.dials[n]? = some d → d.succeeded = true →
    (n ∈ s.released ↔ d.late = false)

/-! ## Steps that leave the connection as it is -/

/-- The connection is as it was. -/
structure SameTier (s s' : Neo4jGraphAdapter ι) : Prop where
  resolver : s'.resolver = s.resolver
  nextDialAt : s'.nextDialAt = s.nextDialAt
  closed : s'.closed = s.closed
  clock : s.clock ≤ s'.clock
  dials : s'.dials = s.dials
  released : s'.released = s.released

section
variable {s s' : Neo4jGraphAdapter ι}

omit [DecidableEq ι] in
/-- Who may not dial relies on the handshakes that succeeded, at most. -/
theorem CallPhase.relies_of_idle {phase : CallPhase} (idle : phase.owns = false)
    (asks : ∀ n, phase = .querying n → Succeeded s.dials n) : phase.Relies s := by
  cases phase with
  | querying n => exact asks n rfl
  | holding notBefore => cases idle
  | dialing started => cases idle
  | dialed started failure => cases idle
  | releasing outcome => cases idle
  | _ => exact trivial

omit [DecidableEq ι] in
theorem CallPhase.Relies.kept {phase : CallPhase} (relies : phase.Relies s)
    (same : SameTier s s') : phase.Relies s' := by
  cases phase with
  | holding notBefore =>
    exact ⟨same.resolver.trans relies.1, relies.2.trans same.nextDialAt.symm⟩
  | dialing started =>
    refine ⟨same.resolver.trans relies.1, relies.2.1.trans same.clock, ?_⟩
    rw [same.dials, same.closed]
    exact relies.2.2
  | dialed started failure =>
    refine ⟨same.resolver.trans relies.1, relies.2.1.trans same.clock, ?_⟩
    rw [same.dials, same.closed]
    exact relies.2.2
  | releasing outcome =>
    cases outcome with
    | error error => exact trivial
    | ok n =>
      show Succeeded s'.dials n
      rw [same.dials]
      exact relies
  | querying n =>
    show Succeeded s'.dials n
    rw [same.dials]
    exact relies
  | _ => exact trivial

omit [DecidableEq ι] in
/-- The connection is as it was, and the callers agree on who may dial. -/
theorem Sound.kept (sound : Sound s) (same : SameTier s s')
    (exclusive : ∀ i j, (s'.caller i).phase.owns = true → (s'.caller j).phase.owns = true → i = j)
    (flagged : ∀ i, (s'.caller i).phase.owns = true → s'.dialingFlag = true)
    (relies : ∀ i, (s'.caller i).phase.Relies s') : Sound s' where
  exclusive := exclusive
  flagged := flagged
  relies := relies
  ordered := by
    rw [same.dials]
    exact sound.ordered
  past := by
    rw [same.dials]
    exact fun d member => ⟨(sound.past d member).1, (sound.past d member).2.trans same.clock⟩
  waits := by
    rw [same.dials, same.nextDialAt]
    exact sound.waits
  dialed := by
    rw [same.dials, same.resolver]
    exact sound.dialed
  early := by
    rw [same.dials, same.closed]
    exact sound.early
  without := by
    rw [same.dials, same.closed, same.resolver]
    exact sound.without
  known := by
    rw [same.dials, same.closed, same.released]
    exact sound.known
  released := by
    rw [same.dials, same.closed, same.released]
    exact sound.released

omit [DecidableEq ι] in
theorem Sound.tick (sound : Sound s) {now : Time} (le : s.clock ≤ now) :
    Sound { s with clock := now } :=
  have same : SameTier s { s with clock := now } := ⟨rfl, rfl, rfl, le, rfl, rfl⟩
  sound.kept same sound.exclusive sound.flagged fun i => (sound.relies i).kept same

/-- A caller goes on without a say in who may dial. -/
theorem Sound.goes (sound : Sound s) (same : SameTier s s') (flag : s'.dialingFlag = s.dialingFlag)
    {i : ι} {c : Caller} (caller : s'.caller = Function.update s.caller i c)
    (owns : c.phase.owns = true → (s.caller i).phase.owns = true) (relies : c.phase.Relies s') :
    Sound s' := by
  have each : ∀ j, (s'.caller j).phase.owns = true → (s.caller j).phase.owns = true := by
    intro j
    rw [caller, Function.update_apply]
    split
    next here =>
      rw [here]
      exact owns
    next => exact id
  refine sound.kept same (fun j k first second => ?_) (fun j owner => ?_) fun j => ?_
  · exact sound.exclusive j k (each j first) (each k second)
  · rw [flag]
    exact sound.flagged j (each j owner)
  · rw [caller, Function.update_apply]
    split
    next => exact relies
    next => exact (sound.relies j).kept same

/-- A caller goes on, and may not dial. -/
theorem Sound.goes_idle (sound : Sound s) (same : SameTier s s')
    (flag : s'.dialingFlag = s.dialingFlag) {i : ι} {c : Caller}
    (caller : s'.caller = Function.update s.caller i c) (idle : c.phase.owns = false)
    (relies : c.phase.Relies s') : Sound s' := by
  refine sound.goes same flag caller (fun owns => ?_) relies
  rw [idle] at owns
  cases owns

theorem Sound.move (sound : Sound s) {i : ι} {phase : CallPhase}
    (owns : phase.owns = true → (s.caller i).phase.owns = true) (relies : phase.Relies s) :
    Sound (s.move i phase) :=
  have same : SameTier s (s.move i phase) := ⟨rfl, rfl, rfl, le_rfl, rfl, rfl⟩
  sound.goes same rfl rfl owns (relies.kept same)

theorem Sound.move_idle (sound : Sound s) {i : ι} {phase : CallPhase} (idle : phase.owns = false)
    (relies : phase.Relies s) : Sound (s.move i phase) :=
  have same : SameTier s (s.move i phase) := ⟨rfl, rfl, rfl, le_rfl, rfl, rfl⟩
  sound.goes_idle same rfl rfl idle (relies.kept same)

/-- What `connect` returns to: nobody who may dial. -/
theorem connected_caller (s : Neo4jGraphAdapter ι) (i : ι) (outcome : Except GraphError ℕ) :
    ∃ c : Caller, s.connected i outcome = { s with caller := Function.update s.caller i c } ∧
      c.phase.owns = false ∧ ∀ n, c.phase = .querying n → outcome = .ok n := by
  unfold Neo4jGraphAdapter.connected
  cases (s.caller i).asset with
  | none => exact ⟨{}, rfl, rfl, fun _ asked => by cases asked⟩
  | some asset =>
    cases outcome with
    | ok n => exact ⟨_, rfl, rfl, fun m same => by cases same; rfl⟩
    | error error => exact ⟨_, rfl, rfl, fun _ asked => by cases asked⟩

/-! ## Who may dial -/

omit [DecidableEq ι] in
theorem Sound.idle_of_flag (sound : Sound s) (free : s.dialingFlag = false) (i : ι) :
    (s.caller i).phase.owns = false := by
  by_contra owner
  rw [sound.flagged i (by simpa using owner)] at free
  cases free

/-- The right to dial is taken by one caller. -/
theorem Sound.acquire (sound : Sound s) (free : s.dialingFlag = false) (i : ι) :
    Sound ({ s with dialingFlag := true }.move i .admitted) := by
  have idle := sound.idle_of_flag free
  have same : SameTier s ({ s with dialingFlag := true }.move i .admitted) :=
    ⟨rfl, rfl, rfl, le_rfl, rfl, rfl⟩
  have only : ∀ j, (({ s with dialingFlag := true }.move i .admitted).caller j).phase.owns = true →
      j = i := by
    intro j owner
    by_contra other
    simp [Neo4jGraphAdapter.move, other, idle j] at owner
  refine sound.kept same (fun j k first second => ?_) (fun _ _ => rfl) fun j => ?_
  · rw [only j first, only k second]
  · by_cases here : j = i
    · subst here
      simp [Neo4jGraphAdapter.move, CallPhase.Relies]
    · have there := (sound.relies j).kept same
      simpa [Neo4jGraphAdapter.move, here] using there

/-- The right to dial is given up. -/
theorem Sound.release (sound : Sound s) {i : ι} {outcome : Except GraphError ℕ}
    (phase : (s.caller i).phase = .releasing outcome) :
    Sound ({ s with dialingFlag := false }.connected i outcome) := by
  have relied := sound.relies i
  rw [phase] at relied
  have owner : (s.caller i).phase.owns = true := by rw [phase]; rfl
  obtain ⟨c, same, idle, asks⟩ := connected_caller { s with dialingFlag := false } i outcome
  rw [same]
  have tier : SameTier s
      { s with dialingFlag := false, caller := Function.update s.caller i c } :=
    ⟨rfl, rfl, rfl, le_rfl, rfl, rfl⟩
  have none_owns : ∀ j, (Function.update s.caller i c j).phase.owns = false := by
    intro j
    rw [Function.update_apply]
    split
    next => exact idle
    next other =>
      by_contra owns
      exact other (sound.exclusive j i (by simpa using owns) owner)
  refine sound.kept tier (fun j k first _ => ?_) (fun j first => ?_) fun j => ?_
  · rw [none_owns j] at first
    cases first
  · rw [none_owns j] at first
    cases first
  · dsimp only
    rw [Function.update_apply]
    split
    next =>
      refine CallPhase.relies_of_idle idle fun n asked => ?_
      rw [asks n asked] at relied
      exact relied
    next => exact (sound.relies j).kept tier

/-! ## A handshake is recorded -/

theorem Succeeded.append {dials : List Dial} {n : ℕ} (succeeded : Succeeded dials n) (d : Dial) :
    Succeeded (dials ++ [d]) n := by
  obtain ⟨e, at_n, ok⟩ := succeeded
  obtain ⟨within, -⟩ := List.getElem?_eq_some_iff.mp at_n
  exact ⟨e, by rw [List.getElem?_append_left within]; exact at_n, ok⟩

theorem Succeeded.lt {dials : List Dial} {n : ℕ} (succeeded : Succeeded dials n) :
    n < dials.length := by
  obtain ⟨e, at_n, -⟩ := succeeded
  exact (List.getElem?_eq_some_iff.mp at_n).1

omit [DecidableEq ι] in
theorem CallPhase.Relies.grown {phase : CallPhase} (relies : phase.Relies s)
    (idle : phase.owns = false) (d : Dial) (grown : s'.dials = s.dials ++ [d]) :
    phase.Relies s' := by
  refine CallPhase.relies_of_idle idle fun n asked => ?_
  subst asked
  rw [grown]
  exact Succeeded.append relies d

/-- What recording a handshake makes of the connection. -/
structure Recorded (s : Neo4jGraphAdapter ι) (started : Time) (s' : Neo4jGraphAdapter ι) (d : Dial) :
    Prop where
  dial : d = ⟨started, s.clock, d.succeeded, s.closed⟩
  dials : s'.dials = s.dials ++ [d]
  closed : s'.closed = s.closed
  clock : s'.clock = s.clock
  released : s'.released = s.released
  flag : s'.dialingFlag = s.dialingFlag
  resolver : s'.resolver = if d.succeeded then some s.dials.length else none
  nextDialAt : s'.nextDialAt =
    if d.succeeded then s.nextDialAt else s.clock + neo4jRedialInterval

omit [DecidableEq ι] in
theorem Recorded.getElem? {started : Time} {d e : Dial} {n : ℕ} (recorded : Recorded s started s' d)
    (at_n : s'.dials[n]? = some e) : s.dials[n]? = some e ∨ n = s.dials.length ∧ e = d := by
  rw [recorded.dials, List.getElem?_append] at at_n
  split at at_n
  next => exact Or.inl at_n
  next beyond =>
    rw [List.getElem?_singleton] at at_n
    split at at_n
    next last =>
      cases at_n
      exact Or.inr ⟨by omega, rfl⟩
    next => cases at_n

theorem Sound.record (sound : Sound s) {i : ι} {started : Time} {failure : Option String}
    (phase : (s.caller i).phase = .dialed started failure) {d : Dial} {c : Caller}
    (recorded : Recorded s started s' d) (caller : s'.caller = Function.update s.caller i c)
    (relies : c.phase.Relies s') : Sound s' := by
  have owner : (s.caller i).phase.owns = true := by rw [phase]; rfl
  obtain ⟨unconnected, before, allowed⟩ : s.resolver = none ∧ started ≤ s.clock ∧
      ∀ e ∈ s.dials, e.Allows s.closed started := by
    have relied := sound.relies i
    rwa [phase] at relied
  have began : d.started = started := by rw [recorded.dial]
  have ended : d.ended = s.clock := by rw [recorded.dial]
  have late : d.late = s.closed := by rw [recorded.dial]
  have owned : ∀ j, (s'.caller j).phase.owns = true → (s.caller j).phase.owns = true := by
    intro j
    rw [caller, Function.update_apply]
    split
    next here => exact fun _ => here ▸ owner
    next => exact id
  have members : ∀ e ∈ s'.dials, e ∈ s.dials ∨ e = d := by
    rw [recorded.dials]
    simp
  refine {
    exclusive := fun j k first second => sound.exclusive j k (owned j first) (owned k second)
    flagged := fun j first => recorded.flag.trans (sound.flagged j (owned j first))
    relies := fun j => ?_
    ordered := ?_
    past := fun e member => ?_
    waits := fun e member failed => ?_
    dialed := fun n held => ?_
    early := fun opened e member => ?_
    without := fun none_held e member succeeded => ?_
    known := fun n member => ?_
    released := fun closed n e at_n succeeded => ?_ }
  · rw [caller, Function.update_apply]
    split
    next => exact relies
    next other =>
      have idle : (s.caller j).phase.owns = false := by
        by_contra owns
        exact other (sound.exclusive j i (by simpa using owns) owner)
      exact (sound.relies j).grown idle d recorded.dials
  · rw [recorded.dials, List.pairwise_append]
    refine ⟨sound.ordered, List.pairwise_singleton _ _, fun e member f last => ?_⟩
    rw [List.mem_singleton.mp last, Dial.Precedes, late, began]
    exact allowed e member
  · rw [recorded.clock]
    rcases members e member with old | rfl
    · exact sound.past e old
    · rw [began, ended]
      exact ⟨before, le_rfl⟩
  · rw [recorded.nextDialAt]
    rcases members e member with old | rfl
    · have rested := (allowed e old).rested failed
      split
      · exact sound.waits e old failed
      · exact (rested.trans before).trans (le_add_of_nonneg_right (by decide))
    · rw [failed, ended]
      exact le_rfl
  · rw [recorded.resolver] at held
    split at held
    next ok =>
      cases held
      exact ⟨d, by rw [recorded.dials, List.getElem?_concat_length], ok⟩
    next => cases held
  · rw [recorded.closed] at opened
    rcases members e member with old | rfl
    · exact sound.early opened e old
    · exact late.trans opened
  · rw [recorded.resolver] at none_held
    rw [recorded.closed]
    rcases members e member with old | rfl
    · exact sound.without unconnected e old succeeded
    · rw [succeeded] at none_held
      cases none_held
  · rw [recorded.released] at member
    rw [recorded.closed, recorded.dials]
    exact ⟨(sound.known n member).1, (sound.known n member).2.append d⟩
  · rw [recorded.closed] at closed
    rw [recorded.released]
    rcases recorded.getElem? at_n with old | ⟨rfl, rfl⟩
    · exact sound.released closed n e old succeeded
    · rw [late, closed]
      refine iff_of_false (fun member => ?_) Bool.noConfusion
      exact absurd (sound.known _ member).2.lt (Nat.lt_irrefl _)

/-! ## The adapter is closed -/

omit [DecidableEq ι] in
/-- Before it is closed, a handshake that succeeded is the resolver's. -/
theorem Sound.current (sound : Sound s) (opened : s.closed = false) {n : ℕ}
    (succeeded : Succeeded s.dials n) : s.resolver = some n := by
  obtain ⟨d, at_n, ok⟩ := succeeded
  cases held : s.resolver with
  | none =>
    have closed := (sound.without held d (List.mem_of_getElem? at_n) ok).1
    rw [opened] at closed
    cases closed
  | some k =>
    obtain ⟨e, at_k, ok'⟩ := sound.dialed k held
    have apart : ∀ {k n : ℕ} {d e : Dial}, s.dials[k]? = some e → s.dials[n]? = some d →
        e.succeeded = true → ¬k < n := by
      intro k n d e at_k at_n ok earlier
      obtain ⟨within, rfl⟩ := List.getElem?_eq_some_iff.mp at_k
      obtain ⟨within', rfl⟩ := List.getElem?_eq_some_iff.mp at_n
      have precedes := List.pairwise_iff_getElem.mp sound.ordered k n within within' earlier
      have late := (precedes.closed ok).1
      rw [sound.early opened _ (List.getElem_mem within')] at late
      cases late
    rcases Nat.lt_trichotomy k n with less | rfl | more
    · exact absurd less (apart at_k at_n ok')
    · rfl
    · exact absurd more (apart at_n at_k ok)

theorem Dial.Allows.afterwards {d : Dial} {started : Time} (allows : d.Allows false started) :
    d.Allows true started where
  before := allows.before
  closed succeeded := absurd (allows.closed succeeded).1 Bool.false_ne_true
  rested := allows.rested

omit [DecidableEq ι] in
theorem Sound.close (sound : Sound s) : Sound s.close := by
  unfold Neo4jGraphAdapter.close
  split
  next => exact sound
  next opened =>
    rw [Bool.not_eq_true] at opened
    refine {
      exclusive := sound.exclusive
      flagged := sound.flagged
      relies := fun i => ?_
      ordered := sound.ordered
      past := sound.past
      waits := sound.waits
      dialed := fun _ held => by cases held
      early := fun opened => by cases opened
      without := fun _ d member _ => ⟨rfl, sound.early opened d member⟩
      known := fun n member => ?_
      released := fun _ n d at_n succeeded => ?_ }
    · have relied := sound.relies i
      dsimp only
      cases phase : (s.caller i).phase with
      | dialing started =>
        rw [phase, CallPhase.Relies, opened] at relied
        exact ⟨rfl, relied.2.1, fun d member => (relied.2.2 d member).afterwards⟩
      | dialed started failure =>
        rw [phase, CallPhase.Relies, opened] at relied
        exact ⟨rfl, relied.2.1, fun d member => (relied.2.2 d member).afterwards⟩
      | holding notBefore =>
        rw [phase] at relied
        exact ⟨rfl, relied.2⟩
      | releasing outcome =>
        rw [phase] at relied
        cases outcome with
        | ok n => exact relied
        | error error => exact trivial
      | querying n =>
        rw [phase] at relied
        exact relied
      | _ => exact trivial
    · exact ⟨rfl, sound.dialed n (Option.mem_toList.mp member)⟩
    · dsimp only
      rw [Option.mem_toList, sound.current opened ⟨d, at_n, succeeded⟩]
      exact iff_of_true rfl (sound.early opened d (List.mem_of_getElem? at_n))

/-! ## Every step -/

omit [DecidableEq ι] in
/-- Neither the cache nor the counters matter. -/
theorem Sound.counts (sound : Sound s) (cache : GraphContextCache) (hits errs absent : ℕ) :
    Sound { s with cache, hits, errs, absent } :=
  have same : SameTier s { s with cache, hits, errs, absent } :=
    ⟨rfl, rfl, rfl, le_rfl, rfl, rfl⟩
  sound.kept same sound.exclusive sound.flagged fun i => (sound.relies i).kept same

/-- A call returns. -/
theorem Sound.finish (sound : Sound s) (i : ι) (answer : Answer) : Sound (s.finish i answer) :=
  have same : SameTier s (s.finish i answer) := ⟨rfl, rfl, rfl, le_rfl, rfl, rfl⟩
  sound.goes_idle same rfl rfl rfl trivial

theorem Sound.connected (sound : Sound s) (i : ι) {outcome : Except GraphError ℕ}
    (asks : ∀ n, outcome = .ok n → Succeeded s.dials n) : Sound (s.connected i outcome) := by
  obtain ⟨c, same, idle, queries⟩ := connected_caller s i outcome
  rw [same]
  have tier : SameTier s { s with caller := Function.update s.caller i c } :=
    ⟨rfl, rfl, rfl, le_rfl, rfl, rfl⟩
  exact sound.goes_idle tier rfl rfl idle
    (CallPhase.relies_of_idle idle fun n asked => asks n (queries n asked))

/-- A caller that found no resolver, and whose time has come, may dial. -/
theorem Sound.dials (sound : Sound s) {i : ι} {notBefore : Time}
    (phase : (s.caller i).phase = .holding notBefore) (due : notBefore ≤ s.clock) :
    Sound (s.move i (.dialing s.clock)) := by
  have relied := sound.relies i
  rw [phase] at relied
  obtain ⟨unconnected, rfl⟩ := relied
  refine sound.move (fun _ => by rw [phase]; rfl) ⟨unconnected, le_rfl, fun d member => ?_⟩
  exact {
    before := (sound.past d member).2
    closed := sound.without unconnected d member
    rested := fun failed => (sound.waits d member failed).trans due }

theorem Sound.recorded (sound : Sound s) {i : ι} {started : Time} {failure : Option String}
    (phase : (s.caller i).phase = .dialed started failure)
    (advanced : s.advance i = some s') : Sound s' := by
  have unconnected : s.resolver = none := by
    have relied := sound.relies i
    rw [phase] at relied
    exact relied.1
  unfold Neo4jGraphAdapter.advance at advanced
  rw [phase] at advanced
  cases failure with
  | some err =>
    cases advanced
    refine sound.record phase (d := ⟨started, s.clock, false, s.closed⟩)
      ⟨rfl, rfl, rfl, rfl, rfl, rfl, unconnected, rfl⟩ rfl trivial
  | none =>
    cases advanced
    have last : (s.dials ++ [Dial.mk started s.clock true s.closed]).length - 1 = s.dials.length := by
      simp
    refine sound.record phase (d := ⟨started, s.clock, true, s.closed⟩)
      ⟨rfl, rfl, rfl, rfl, rfl, rfl, congrArg some last, rfl⟩ rfl ?_
    exact ⟨⟨started, s.clock, true, s.closed⟩, by simp [Neo4jGraphAdapter.move], rfl⟩

theorem Sound.advance (sound : Sound s) {i : ι} (advanced : s.advance i = some s') : Sound s' := by
  cases phase : (s.caller i).phase with
  | dialed started failure => exact sound.recorded phase advanced
  | idle =>
    rw [Neo4jGraphAdapter.advance, phase] at advanced
    cases advanced
  | dialing started =>
    rw [Neo4jGraphAdapter.advance, phase] at advanced
    cases advanced
  | querying n =>
    rw [Neo4jGraphAdapter.advance, phase] at advanced
    cases advanced
  | looking =>
    rw [Neo4jGraphAdapter.advance, phase] at advanced
    obtain ⟨asset, -, rfl⟩ := Option.map_eq_some_iff.mp advanced
    cases s.cache.lookup asset s.clock with
    | some context => exact sound.move_idle rfl trivial
    | none => exact sound.move_idle rfl trivial
  | hitting context =>
    rw [Neo4jGraphAdapter.advance, phase] at advanced
    cases advanced
    exact (sound.counts s.cache (s.hits + 1) s.errs s.absent).finish i _
  | connecting =>
    rw [Neo4jGraphAdapter.advance, phase] at advanced
    cases advanced
    cases held : s.resolver with
    | some n =>
      refine sound.connected i fun m same => ?_
      cases same
      exact sound.dialed n held
    | none => exact sound.move_idle rfl trivial
  | contending =>
    rw [Neo4jGraphAdapter.advance, phase] at advanced
    cases advanced
    split
    next => exact sound.move_idle rfl trivial
    next free => exact sound.acquire (by simpa using free) i
  | admitted =>
    rw [Neo4jGraphAdapter.advance, phase] at advanced
    cases advanced
    have owner : (s.caller i).phase.owns = true := by rw [phase]; rfl
    cases held : s.resolver with
    | some n => exact sound.move (fun _ => owner) (sound.dialed n held)
    | none => exact sound.move (fun _ => owner) ⟨held, rfl⟩
  | holding notBefore =>
    rw [Neo4jGraphAdapter.advance, phase] at advanced
    cases advanced
    have owner : (s.caller i).phase.owns = true := by rw [phase]; rfl
    split
    next => exact sound.move (fun _ => owner) trivial
    next due => exact sound.dials phase (not_lt.mp due)
  | refused owner =>
    rw [Neo4jGraphAdapter.advance, phase] at advanced
    cases advanced
    split
    next owned =>
      have owner : (s.caller i).phase.owns = true := by rw [phase, owned]; rfl
      exact sound.move (fun _ => owner) trivial
    next => exact sound.connected i fun _ same => by cases same
  | releasing outcome =>
    rw [Neo4jGraphAdapter.advance, phase] at advanced
    cases advanced
    exact sound.release phase
  | storing context =>
    rw [Neo4jGraphAdapter.advance, phase] at advanced
    obtain ⟨asset, -, rfl⟩ := Option.map_eq_some_iff.mp advanced
    have stored := sound.counts (s.cache.store asset context s.clock s.clock) s.hits s.errs s.absent
    exact stored.finish i _
  | failing error =>
    rw [Neo4jGraphAdapter.advance, phase] at advanced
    cases advanced
    have counted := sound.counts s.cache s.hits (s.errs + 1) s.absent
    split
    next => exact counted.move_idle rfl trivial
    next => exact counted.finish i _
  | missing =>
    rw [Neo4jGraphAdapter.advance, phase] at advanced
    cases advanced
    exact (sound.counts s.cache s.hits s.errs (s.absent + 1)).finish i _

theorem Sound.step (sound : Sound s) {event : AdapterEvent ι} (stepped : s.step event = some s') :
    Sound s' := by
  have same : ∀ caller lookups, SameTier s { s with caller, lookups } :=
    fun _ _ => ⟨rfl, rfl, rfl, le_rfl, rfl, rfl⟩
  cases event with
  | boot i =>
    simp only [Neo4jGraphAdapter.step] at stepped
    split at stepped
    next =>
      cases stepped
      exact sound.goes_idle (same _ _) rfl rfl rfl trivial
    next => cases stepped
  | call i asset =>
    simp only [Neo4jGraphAdapter.step] at stepped
    split at stepped
    next =>
      cases stepped
      exact sound.goes_idle (same _ _) rfl rfl rfl trivial
    next => cases stepped
  | advance i now =>
    simp only [Neo4jGraphAdapter.step] at stepped
    split at stepped
    next le => exact (sound.tick le).advance stepped
    next => cases stepped
  | handshake i failure =>
    simp only [Neo4jGraphAdapter.step] at stepped
    split at stepped
    next started phase =>
      cases stepped
      have relied := sound.relies i
      rw [phase] at relied
      exact sound.move (fun _ => by rw [phase]; rfl) relied
    next => cases stepped
  | resolved i result =>
    simp only [Neo4jGraphAdapter.step] at stepped
    split at stepped
    next =>
      cases stepped
      cases result with
      | ok neighbourhood => exact sound.move_idle rfl trivial
      | error error => exact sound.move_idle rfl trivial
    next => cases stepped
  | close =>
    cases stepped
    exact sound.close

omit [DecidableEq ι] in
theorem sound_start (ttl : Duration) :
    Sound (Neo4jGraphAdapter.newNeo4jGraphAdapter ttl : Neo4jGraphAdapter ι) where
  exclusive _ _ owner := nomatch owner
  flagged _ owner := nomatch owner
  relies _ := trivial
  ordered := List.Pairwise.nil
  past := nofun
  waits := nofun
  dialed := nofun
  early := nofun
  without := nofun
  known := nofun
  released := nofun

end

end OpenOntology.Graph
