import OpenOntology.Graph.AdapterRuns

/-!
# What the adapter counts, and what it guarantees

The counters agree with the answers that were given and the calls under way. Together with
what every step keeps of the connection, that is what a worker may rely on.
-/
namespace OpenOntology.Graph

open Resolution (Time Duration)
open Library

variable {ι : Type} [DecidableEq ι]

/-! ## The counters -/

namespace Answer

def cached : Answer → Bool
  | .ok (_, hit) => hit
  | .error _ => false

def failed : Answer → Bool
  | .ok _ => false
  | .error _ => true

def absent : Answer → Bool
  | .error .assetNotFound => true
  | _ => false

end Answer

/-- The call is counted, and not answered. -/
def Caller.pending (c : Caller) : ℕ := c.asset.isSome.toNat

/-- The error of the call is counted, and the call not answered. -/
def Caller.missing (c : Caller) : ℕ :=
  match c.phase with
  | .missing => 1
  | _ => 0

/-- The constructor takes the phases of `connect` only, and for no asset. -/
def CallPhase.Fits (asset : Option String) : CallPhase → Prop
  | .idle => asset = none
  | .looking | .hitting _ | .querying _ | .storing _ | .failing _ | .missing => asset.isSome = true
  | _ => True

theorem sum_update [Fintype ι] (f : Caller → ℕ) (callers : ι → Caller) (i : ι) (c : Caller) :
    ∑ j, f (Function.update callers i c j) + f (callers i) = ∑ j, f (callers j) + f c := by
  have moved : (fun j => f (Function.update callers i c j)) =
      Function.update (fun j => f (callers j)) i (f c) := by
    funext j
    rw [Function.update_apply, Function.update_apply]
    split <;> rfl
  rw [moved, Finset.sum_update_of_mem (Finset.mem_univ i),
    ← Finset.sum_erase_add _ _ (Finset.mem_univ i), Finset.sdiff_singleton_eq_erase]
  omega

section
variable [Fintype ι]

/-- The counters are those of the answers, and of the calls under way. -/
structure Counted (s : Neo4jGraphAdapter ι) : Prop where
  lookups : s.lookups = s.answers.length + ∑ i, (s.caller i).pending
  hits : s.hits = s.answers.countP Answer.cached
  errs : s.errs = s.answers.countP Answer.failed + ∑ i, (s.caller i).missing
  absent : s.absent = s.answers.countP Answer.absent
  fits : ∀ i, (s.caller i).phase.Fits (s.caller i).asset

variable {s s' : Neo4jGraphAdapter ι}

/-- One caller goes on, and the counters with the answers. -/
theorem Counted.goes (counted : Counted s) {i : ι} {c : Caller}
    (caller : s'.caller = Function.update s.caller i c)
    (lookups : s'.lookups + (s.caller i).pending + s.answers.length =
      s.lookups + c.pending + s'.answers.length)
    (hits : s'.hits + s.answers.countP Answer.cached = s.hits + s'.answers.countP Answer.cached)
    (errs : s'.errs + (s.caller i).missing + s.answers.countP Answer.failed =
      s.errs + c.missing + s'.answers.countP Answer.failed)
    (absent : s'.absent + s.answers.countP Answer.absent =
      s.absent + s'.answers.countP Answer.absent)
    (fits : c.phase.Fits c.asset) : Counted s' := by
  have pending := sum_update Caller.pending s.caller i c
  have missing := sum_update Caller.missing s.caller i c
  rw [← caller] at pending missing
  refine ⟨?_, ?_, ?_, ?_, fun j => ?_⟩
  · have before := counted.lookups
    omega
  · have before := counted.hits
    omega
  · have before := counted.errs
    omega
  · have before := counted.absent
    omega
  · rw [caller, Function.update_apply]
    split
    next => exact fits
    next => exact counted.fits j

/-- What is counted, and the answers. -/
def Neo4jGraphAdapter.counters (s : Neo4jGraphAdapter ι) : ℕ × ℕ × ℕ × ℕ × List Answer :=
  (s.lookups, s.hits, s.errs, s.absent, s.answers)

/-- A caller moves on while nothing is counted. -/
theorem Counted.keeps (counted : Counted s) {i : ι} {c : Caller}
    (caller : s'.caller = Function.update s.caller i c) (pending : c.pending = (s.caller i).pending)
    (missing : c.missing = (s.caller i).missing) (fits : c.phase.Fits c.asset)
    (same : s'.counters = s.counters) : Counted s' := by
  simp only [Neo4jGraphAdapter.counters, Prod.mk.injEq] at same
  obtain ⟨lookups, hits, errs, absent, answers⟩ := same
  refine counted.goes caller ?_ ?_ ?_ ?_ fits
  · rw [lookups, answers, pending]
  · rw [hits, answers]
  · rw [errs, answers, missing]
  · rw [absent, answers]

omit [DecidableEq ι] in
/-- Nobody moves, and nothing is counted. -/
theorem Counted.still (counted : Counted s) (caller : s'.caller = s.caller)
    (same : s'.counters = s.counters) : Counted s' := by
  simp only [Neo4jGraphAdapter.counters, Prod.mk.injEq] at same
  obtain ⟨lookups, hits, errs, absent, answers⟩ := same
  refine ⟨?_, ?_, ?_, ?_, ?_⟩
  · rw [lookups, answers, caller]
    exact counted.lookups
  · rw [hits, answers]
    exact counted.hits
  · rw [errs, answers, caller]
    exact counted.errs
  · rw [absent, answers]
    exact counted.absent
  · rw [caller]
    exact counted.fits

theorem connected_counted (counted : Counted s) {i : ι} (quiet : (s.caller i).missing = 0)
    (outcome : Except GraphError ℕ) : Counted (s.connected i outcome) := by
  unfold Neo4jGraphAdapter.connected
  cases asset : (s.caller i).asset with
  | none =>
    refine counted.keeps rfl ?_ quiet.symm rfl rfl
    rw [Caller.pending, Caller.pending, asset]
  | some name =>
    have named : (s.caller i).asset.isSome = true := by rw [asset]; rfl
    cases outcome with
    | ok n => exact counted.keeps rfl rfl quiet.symm named rfl
    | error error => exact counted.keeps rfl rfl quiet.symm named rfl

/-- A call is answered. -/
theorem Counted.answered (counted : Counted s) {i : ι} (named : (s.caller i).asset.isSome = true)
    {cache : GraphContextCache} {hits errs absent : ℕ} {answer : Answer}
    (hit : hits = s.hits + answer.cached.toNat)
    (failed : errs + (s.caller i).missing = s.errs + answer.failed.toNat)
    (missed : absent = s.absent + answer.absent.toNat) :
    Counted ({ s with cache, hits, errs, absent }.finish i answer) := by
  have one : (s.caller i).pending = 1 := by rw [Caller.pending, named]; rfl
  refine counted.goes rfl ?_ ?_ ?_ ?_ rfl
  · rw [one]
    simp [Neo4jGraphAdapter.finish, Caller.pending]
    omega
  · simp only [Neo4jGraphAdapter.finish, List.countP_cons, hit]
    cases answer.cached with
    | true =>
      simp only [Bool.toNat_true, if_true]
      omega
    | false => simp
  · simp only [Neo4jGraphAdapter.finish, List.countP_cons, Caller.missing] at failed ⊢
    cases fails : answer.failed <;> rw [fails] at failed <;> simp at failed ⊢ <;> omega
  · simp only [Neo4jGraphAdapter.finish, List.countP_cons, missed]
    cases answer.absent with
    | true =>
      simp only [Bool.toNat_true, if_true]
      omega
    | false => simp

theorem Counted.advance (counted : Counted s) {i : ι} (advanced : s.advance i = some s') :
    Counted s' := by
  have named := counted.fits i
  rw [Neo4jGraphAdapter.advance] at advanced
  cases phase : (s.caller i).phase with
  | idle =>
    rw [phase] at advanced
    cases advanced
  | dialing started =>
    rw [phase] at advanced
    cases advanced
  | querying n =>
    rw [phase] at advanced
    cases advanced
  | looking =>
    rw [phase] at advanced named
    obtain ⟨asset, -, rfl⟩ := Option.map_eq_some_iff.mp advanced
    have quiet : 0 = (s.caller i).missing := by rw [Caller.missing, phase]
    split
    next => exact counted.keeps rfl rfl quiet named rfl
    next => exact counted.keeps rfl rfl quiet trivial rfl
  | hitting context =>
    rw [phase] at advanced named
    cases advanced
    have quiet : (s.caller i).missing = 0 := by rw [Caller.missing, phase]
    exact counted.answered named rfl (congrArg (s.errs + ·) quiet) rfl
  | connecting =>
    rw [phase] at advanced
    cases advanced
    have quiet : (s.caller i).missing = 0 := by rw [Caller.missing, phase]
    split
    next => exact connected_counted counted quiet _
    next => exact counted.keeps rfl rfl quiet.symm trivial rfl
  | contending =>
    rw [phase] at advanced
    cases advanced
    have quiet : 0 = (s.caller i).missing := by rw [Caller.missing, phase]
    split
    next => exact counted.keeps rfl rfl quiet trivial rfl
    next => exact counted.keeps rfl rfl quiet trivial rfl
  | admitted =>
    rw [phase] at advanced
    cases advanced
    have quiet : 0 = (s.caller i).missing := by rw [Caller.missing, phase]
    split
    next => exact counted.keeps rfl rfl quiet trivial rfl
    next => exact counted.keeps rfl rfl quiet trivial rfl
  | holding notBefore =>
    rw [phase] at advanced
    cases advanced
    have quiet : 0 = (s.caller i).missing := by rw [Caller.missing, phase]
    split
    next => exact counted.keeps rfl rfl quiet trivial rfl
    next => exact counted.keeps rfl rfl quiet trivial rfl
  | dialed started failure =>
    rw [phase] at advanced
    cases advanced
    have quiet : 0 = (s.caller i).missing := by rw [Caller.missing, phase]
    split
    next => exact counted.keeps rfl rfl quiet trivial rfl
    next => exact counted.keeps rfl rfl quiet trivial rfl
  | refused owner =>
    rw [phase] at advanced
    cases advanced
    have quiet : (s.caller i).missing = 0 := by rw [Caller.missing, phase]
    split
    next => exact counted.keeps rfl rfl quiet.symm trivial rfl
    next => exact connected_counted counted quiet _
  | releasing outcome =>
    rw [phase] at advanced
    cases advanced
    have quiet : (s.caller i).missing = 0 := by rw [Caller.missing, phase]
    have freed : Counted { s with dialingFlag := false } := counted.still rfl rfl
    exact connected_counted freed quiet outcome
  | storing context =>
    rw [phase] at advanced named
    obtain ⟨asset, -, rfl⟩ := Option.map_eq_some_iff.mp advanced
    have quiet : (s.caller i).missing = 0 := by rw [Caller.missing, phase]
    exact counted.answered named rfl (congrArg (s.errs + ·) quiet) rfl
  | failing error =>
    rw [phase] at advanced named
    cases advanced
    have quiet : (s.caller i).missing = 0 := by rw [Caller.missing, phase]
    split
    next absent =>
      refine counted.goes rfl rfl rfl ?_ rfl named
      rw [quiet]
      rfl
    next other =>
      have missed : Answer.absent (.error error) = false := by
        cases error <;> first | rfl | exact absurd rfl other
      refine counted.answered named rfl ?_ ?_
      · rw [quiet]
        rfl
      · rw [missed]
        rfl
  | missing =>
    rw [phase] at advanced named
    cases advanced
    refine counted.answered named rfl ?_ rfl
    rw [Caller.missing, phase]
    rfl

theorem Counted.step (counted : Counted s) {event : AdapterEvent ι}
    (stepped : s.step event = some s') : Counted s' := by
  cases event with
  | boot i =>
    simp only [Neo4jGraphAdapter.step] at stepped
    split at stepped
    next phase =>
      cases stepped
      have rests := counted.fits i
      rw [phase] at rests
      refine counted.keeps rfl ?_ ?_ trivial rfl
      · rw [Caller.pending, Caller.pending, rests]
      · rw [Caller.missing, Caller.missing, phase]
    next => cases stepped
  | call i asset =>
    simp only [Neo4jGraphAdapter.step] at stepped
    split at stepped
    next phase =>
      cases stepped
      have rests := counted.fits i
      rw [phase] at rests
      have free : (s.caller i).pending = 0 := by rw [Caller.pending, rests]; rfl
      have quiet : (s.caller i).missing = 0 := by rw [Caller.missing, phase]
      refine counted.goes rfl ?_ rfl ?_ rfl rfl
      · rw [free]
        rfl
      · rw [quiet]
        rfl
    next => cases stepped
  | advance i now =>
    simp only [Neo4jGraphAdapter.step] at stepped
    split at stepped
    next =>
      have ticked : Counted { s with clock := now } := counted.still rfl rfl
      exact ticked.advance stepped
    next => cases stepped
  | handshake i failure =>
    simp only [Neo4jGraphAdapter.step] at stepped
    split at stepped
    next started phase =>
      cases stepped
      refine counted.keeps rfl rfl ?_ trivial rfl
      rw [Caller.missing, Caller.missing, phase]
    next => cases stepped
  | resolved i result =>
    simp only [Neo4jGraphAdapter.step] at stepped
    split at stepped
    next n asset phase asked =>
      cases stepped
      have named : (s.caller i).asset.isSome = true := by rw [asked]; rfl
      cases result with
      | ok neighbourhood =>
        refine counted.keeps rfl rfl ?_ named rfl
        rw [Caller.missing, Caller.missing, phase]
      | error error =>
        refine counted.keeps rfl rfl ?_ named rfl
        rw [Caller.missing, Caller.missing, phase]
    next => cases stepped
  | close =>
    cases stepped
    unfold Neo4jGraphAdapter.close
    split
    next => exact counted
    next => exact counted.still rfl rfl

omit [DecidableEq ι] in
theorem counted_start (ttl : Duration) :
    Counted (Neo4jGraphAdapter.newNeo4jGraphAdapter ttl : Neo4jGraphAdapter ι) where
  lookups := by simp [Neo4jGraphAdapter.newNeo4jGraphAdapter, Caller.pending]
  hits := rfl
  errs := by simp [Neo4jGraphAdapter.newNeo4jGraphAdapter, Caller.missing]
  absent := rfl
  fits _ := rfl

end

/-! ## The handshakes -/

/-- When the handshakes that failed were begun. -/
def failures (dials : List Dial) : List Time :=
  (dials.filter fun d => !d.succeeded).map Dial.started

section
variable {s : Neo4jGraphAdapter ι}

omit [DecidableEq ι] in
theorem Sound.spaced (sound : Sound s) :
    Spaced neo4jRedialInterval (failures s.dials).reverse := by
  unfold Spaced failures
  rw [List.pairwise_reverse, List.pairwise_map]
  refine (sound.ordered.filter _).imp_of_mem fun {earlier later} member _ precedes => ?_
  obtain ⟨recorded, failed⟩ := List.mem_filter.mp member
  have rested := precedes.rested (by simpa using failed)
  have took := (sound.past earlier recorded).1
  calc earlier.started + neo4jRedialInterval ≤ earlier.ended + neo4jRedialInterval := by gcongr
    _ ≤ later.started := rested

omit [DecidableEq ι] in
theorem Sound.paced (sound : Sound s) (k : ℕ) (a : Time) :
    ((failures s.dials).filter fun t => a ≤ t ∧ t < a + k * neo4jRedialInterval).length ≤ k := by
  have few := sound.spaced.interval_le (by decide) k a
  rwa [List.filter_reverse, List.length_reverse, nsmul_eq_mul] at few

/-- Of the handshakes that succeed at most one is recorded before the adapter is closed, and at
most one after. -/
theorem once {dials : List Dial} (ordered : dials.Pairwise Dial.Precedes) (late : Bool) :
    (dials.filter fun d => d.succeeded && d.late == late).length ≤ 1 := by
  generalize kept : (dials.filter fun d => d.succeeded && d.late == late) = successes
  have each : ∀ d ∈ successes, d.succeeded = true ∧ d.late = late := by
    rw [← kept]
    intro d member
    simpa using (List.mem_filter.mp member).2
  have apart : successes.Pairwise Dial.Precedes := by
    rw [← kept]
    exact ordered.filter _
  cases successes with
  | nil => exact Nat.zero_le 1
  | cons first rest =>
    cases rest with
    | nil => exact le_rfl
    | cons second rest =>
      have precedes := List.rel_of_pairwise_cons apart (List.mem_cons_self (a := second))
      obtain ⟨ok, early⟩ := each first List.mem_cons_self
      obtain ⟨-, here⟩ := each second (List.mem_cons_of_mem _ List.mem_cons_self)
      obtain ⟨closed, before⟩ := precedes.closed ok
      rw [closed] at here
      rw [before, ← here] at early
      cases early

end

/-! ## The guarantees -/

/-- What holds of the adapter between any two steps. -/
structure Dependable [Fintype ι] (s : Neo4jGraphAdapter ι) : Prop where
  /-- one caller dials at a time -/
  exclusive : ∀ i j started started', (s.caller i).phase = .dialing started →
    (s.caller j).phase = .dialing started' → i = j
  /-- a caller that dials has waited out every handshake that failed -/
  rested : ∀ i started, (s.caller i).phase = .dialing started → ∀ d ∈ s.dials,
    d.succeeded = false → d.ended + neo4jRedialInterval ≤ started
  /-- an outage costs one handshake an interval, whatever the number of calls -/
  paced : ∀ (k : ℕ) (a : Time),
    ((failures s.dials).filter fun t => a ≤ t ∧ t < a + k * neo4jRedialInterval).length ≤ k
  /-- once connected, nobody dials until the adapter is closed -/
  settled : s.closed = false → (∃ n, Succeeded s.dials n) →
    ∀ i started, (s.caller i).phase ≠ .dialing started
  once : ∀ late, (s.dials.filter fun d => d.succeeded && d.late == late).length ≤ 1
  /-- a call asks a resolver that was dialled, the current one before the adapter is closed -/
  given : ∀ i n, (s.caller i).phase = .querying n →
    Succeeded s.dials n ∧ (s.closed = false → s.resolver = some n)
  /-- closing releases what had connected before, and nothing that connects afterwards -/
  released : s.closed = true → ∀ n d, s.dials[n]? = some d → d.succeeded = true →
    (n ∈ s.released ↔ d.late = false)
  /-- what is neither a hit nor an error is a context resolved, or a call under way -/
  counted : Counted s

omit [DecidableEq ι] in
theorem dependable [Fintype ι] {s : Neo4jGraphAdapter ι} (sound : Sound s) (counted : Counted s) :
    Dependable s where
  exclusive i j started started' first second :=
    sound.exclusive i j (by rw [first]; rfl) (by rw [second]; rfl)
  rested i started phase d member failed := by
    have relied := sound.relies i
    rw [phase] at relied
    exact (relied.2.2 d member).rested failed
  paced := sound.paced
  settled opened connected i started phase := by
    obtain ⟨n, succeeded⟩ := connected
    have relied := sound.relies i
    rw [phase] at relied
    have held := sound.current opened succeeded
    rw [relied.1] at held
    cases held
  once late := OpenOntology.Graph.once sound.ordered late
  given i n phase := by
    have relied := sound.relies i
    rw [phase] at relied
    exact ⟨relied, fun opened => sound.current opened relied⟩
  released := sound.released
  counted := counted

/-- However the calls of any number of workers, the construction and the closing interleave,
and whatever the handshakes and the resolver answer, the adapter is dependable throughout. -/
theorem adapter_dependable [Fintype ι] (ttl : Duration) (events : List (AdapterEvent ι))
    (s : Neo4jGraphAdapter ι)
    (ran : run Neo4jGraphAdapter.step (Neo4jGraphAdapter.newNeo4jGraphAdapter ttl) events = some s) :
    Dependable s := by
  have both : Sound s ∧ Counted s := by
    refine run_preserves Neo4jGraphAdapter.step (fun s => Sound s ∧ Counted s) ?_ events _ s
      ⟨sound_start ttl, counted_start ttl⟩ ran
    intro s event next held stepped
    exact ⟨held.1.step stepped, held.2.step stepped⟩
  exact dependable both.1 both.2

/-- The first handshake fails, and another worker that missed the cache does not dial again. -/
def outage : List (AdapterEvent Bool) :=
  [.boot false, .call true "p", .advance true 1, .advance false 1, .advance true 1,
    .advance false 1, .advance true 1, .advance false 2, .advance true 2, .advance false 2,
    .handshake false (some "refused"), .advance false 5, .advance false 5, .advance true 6]

theorem adapter_dependable_outage :
    ∃ s : Neo4jGraphAdapter Bool,
      run Neo4jGraphAdapter.step (Neo4jGraphAdapter.newNeo4jGraphAdapter 300) outage = some s ∧
        Dependable s ∧ s.dials.length = 1 ∧ s.errs = 1 ∧ s.dialErr = some "refused" :=
  ⟨_, rfl, adapter_dependable 300 outage _ rfl, rfl, rfl, rfl⟩

end OpenOntology.Graph
