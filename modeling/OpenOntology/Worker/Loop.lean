import OpenOntology.Library.Run
import OpenOntology.Worker.Survival

/-!
# The consumer loop and its commits

Members of a consumer group read partitions in offset order from their positions. A member
handles one record at a time; it commits past a record that was handled and seeks back to
one that failed. Partitions come and go between any two steps, consumers are rebuilt, and
tasks are cancelled, yet nothing is committed past a record that nobody handled.
-/
namespace OpenOntology.Worker

open Library

variable {ι π : Type}

/-! ## The group -/

/-- Where the task of a member is in `run`. -/
inductive Phase (π : Type) where
  /-- there is no task -/
  | ended
  /-- between two consumers -/
  | connecting
  /-- waiting for the next record -/
  | polling
  | handling (partition : π) (offset : Nat)
  | committing (partition : π) (offset : Nat)
  deriving DecidableEq

/-- A member, and the assigned partitions of its consumer with their positions. -/
structure Member (π : Type) where
  phase : Phase π := .ended
  producer : Bool := false
  stopping : Bool := false
  position : π → Option Nat := fun _ => none

/-- A record was handled under these circumstances. -/
structure Entry (π : Type) where
  partition : π
  offset : Nat
  cache : LicenseCache
  outcomes : Outcomes

structure Group (ι π : Type) where
  member : ι → Member π
  committed : π → Nat
  ledger : List (Entry π)

inductive CommitOutcome where
  | returned
  | failed
  | cancelled

/-- What can happen next. -/
inductive LoopEvent (ι π : Type) where
  /-- the application starts the producer, then the task -/
  | launch (i : ι)
  /-- the application stops the producer once the task has ended -/
  | teardown (i : ι)
  | requestStop (i : ι)
  /-- `consumer.start()` -/
  | connect (i : ι) (succeeds : Bool)
  | assign (i : ι) (partition : π)
  | revoke (i : ι) (partition : π)
  /-- the consumer yields the next record of a partition -/
  | fetch (i : ι) (partition : π) (offset : Nat)
  /-- `_handle` returns or raises -/
  | finish (i : ι) (cache : LicenseCache) (outcomes : Outcomes)
  /-- `consumer.commit`, which may take effect however it ends -/
  | commit (i : ι) (applied : Bool) (outcome : CommitOutcome)
  /-- the consumer raises while the loop waits for a record -/
  | fail (i : ι)
  | cancel (i : ι)

namespace Phase

/-- There is a consumer. -/
def consuming : Phase π → Bool
  | .polling | .handling _ _ | .committing _ _ => true
  | _ => false

end Phase

namespace Member

/-- The consumer is closed, and the task goes on in the phase. -/
def close (m : Member π) (phase : Phase π) : Member π :=
  { m with phase := phase, position := fun _ => none }

/-- `consumer.seek`, where the partition is still assigned. -/
def seek [DecidableEq π] (m : Member π) (partition : π) (offset : Nat) : Member π :=
  if (m.position partition).isSome then
    { m with position := Function.update m.position partition (some offset) }
  else m

end Member

namespace Group

def start : Group ι π where
  member _ := {}
  committed _ := 0
  ledger := []

variable [DecidableEq ι]

def setMember (g : Group ι π) (i : ι) (m : Member π) : Group ι π :=
  { g with member := Function.update g.member i m }

/-- The offset holds the first record of the partition from a position on. -/
def nextRecord (log : π → Nat → Option Record) (partition : π) (position offset : Nat) : Bool :=
  position ≤ offset && (log partition offset).isSome &&
    (List.range offset).all fun earlier =>
      earlier < position || (log partition earlier).isNone

variable (w : CommandWorker) (log : π → Nat → Option Record) [DecidableEq π]

/-- The loop after `_handle`. -/
def finished (g : Group ι π) (i : ι) (partition : π) (offset : Nat) (entry : Entry π) :
    Except Raised (Handled w.runtime.unicode) → Group ι π
  | .ok _ =>
    { g.setMember i { g.member i with phase := .committing partition offset } with
      ledger := entry :: g.ledger }
  | .error (.transient _) =>
    g.setMember i ({ g.member i with phase := .polling }.seek partition offset)
  -- an exception that no handler of the loop names: the task is gone
  | .error _ => g.setMember i ((g.member i).close .ended)

def step (g : Group ι π) : LoopEvent ι π → Option (Group ι π)
  | .launch i =>
    if (g.member i).phase = .ended then
      some (g.setMember i { phase := .connecting, producer := true })
    else none
  | .teardown i =>
    if (g.member i).phase = .ended then some (g.setMember i { g.member i with producer := false })
    else none
  | .requestStop i => some (g.setMember i { g.member i with stopping := true })
  | .connect i succeeds =>
    if (g.member i).phase = .connecting then
      if (g.member i).stopping then some (g.setMember i ((g.member i).close .ended))
      else if succeeds then some (g.setMember i ((g.member i).close .polling))
      else some g
    else none
  | .assign i partition =>
    if (g.member i).phase.consuming then
      some (g.setMember i { g.member i with
        position := Function.update (g.member i).position partition
          (some (g.committed partition)) })
    else none
  | .revoke i partition =>
    some (g.setMember i { g.member i with
      position := Function.update (g.member i).position partition none })
  | .fetch i partition offset =>
    match (g.member i).position partition with
    | none => none
    | some position =>
      if (g.member i).phase = .polling ∧ nextRecord log partition position offset then
        if (g.member i).stopping then some (g.setMember i ((g.member i).close .ended))
        else some (g.setMember i { g.member i with
          phase := .handling partition offset
          position := Function.update (g.member i).position partition (some (offset + 1)) })
      else none
  | .finish i cache outcomes =>
    match (g.member i).phase with
    | .handling partition offset =>
      (log partition offset).map fun record =>
        let outcomes := { outcomes with started := (g.member i).producer }
        finished w g i partition offset ⟨partition, offset, cache, outcomes⟩
          (handle w cache outcomes record)
    | _ => none
  | .commit i applied outcome =>
    match (g.member i).phase with
    | .committing partition offset =>
      let g := if applied then
          { g with committed := Function.update g.committed partition (offset + 1) }
        else g
      match outcome with
      | .returned => some (g.setMember i { g.member i with phase := .polling })
      | .failed => some (g.setMember i ((g.member i).close .connecting))
      | .cancelled => some (g.setMember i ((g.member i).close .ended))
    | _ => none
  | .fail i =>
    if (g.member i).phase = .polling then some (g.setMember i ((g.member i).close .connecting))
    else none
  | .cancel i =>
    if (g.member i).phase = .ended then none
    else some (g.setMember i ((g.member i).close .ended))

end Group

/-! ## What it means to be handled -/

/-- The producer acknowledged all commands of the record, or a dead letter was handed to it. -/
def FullyHandled (w : CommandWorker) (record : Record) (entry : Entry π) : Prop :=
  (∃ commands, handle w entry.cache entry.outcomes record = .ok (.published commands) ∧
      ∀ i < commands.length, Acknowledged w entry.outcomes i) ∨
    ∃ reason detail, handle w entry.cache entry.outcomes record = .ok (.deadLettered reason detail)

theorem publishAll_ok {w : CommandWorker} {outcomes : Outcomes} (started : outcomes.started = true)
    (commands : List (CommandPayload w.runtime.unicode)) (place : Nat)
    (published : publishAll w outcomes place commands = .ok ()) :
    ∀ i < commands.length, Acknowledged w outcomes (place + i) := by
  induction commands generalizing place with
  | nil =>
    intro i below
    exact absurd below (Nat.not_lt_zero i)
  | cons command rest ih =>
    unfold publishAll at published
    rw [started] at published
    by_cases rendered : Rendered w command
    · rcases publish_rendered (outcomes.acknowledged place) rendered with
        ⟨sent, acked⟩ | ⟨failed, -⟩
      · rw [sent] at published
        intro i below
        cases i with
        | zero => exact acked
        | succ i =>
          have later := ih (place + 1) published i (by simpa using below)
          rwa [Nat.add_assoc, Nat.add_comm 1 i] at later
      · rw [failed] at published
        cases published
    · obtain ⟨exception, escaped⟩ := publish_unrendered (outcomes.acknowledged place) rendered
      rw [escaped] at published
      cases published

theorem closeLoop_ok {w : CommandWorker} {cache : LicenseCache} {outcomes : Outcomes}
    {payload : Python.Members} {correlation : Python.Text}
    {commands : List (CommandPayload w.runtime.unicode)}
    (closed : closeLoop w cache outcomes payload correlation = .ok commands) :
    publishAll w outcomes 0 commands = .ok () := by
  unfold closeLoop at closed
  obtain ⟨s, -, closed⟩ := bind_ok_iff.mp closed
  obtain ⟨mutation, -, closed⟩ := bind_ok_iff.mp closed
  obtain ⟨plan, -, closed⟩ := bind_ok_iff.mp closed
  obtain ⟨translated, -, closed⟩ := bind_ok_iff.mp closed
  cases published : publishAll w outcomes 0 translated with
  | error raised =>
    rw [published] at closed
    cases closed
  | ok _ =>
    rw [published] at closed
    cases closed
    exact published

theorem deadLetter_ok {w : CommandWorker} {reason : String} {detail : Python.Text}
    {result : Handled w.runtime.unicode} (sent : deadLetter w true reason detail = .ok result) :
    result = .deadLettered reason detail := by
  unfold deadLetter at sent
  rw [if_neg (by decide)] at sent
  split at sent
  next => cases sent
  next =>
    cases sent
    rfl

theorem settle_ok {w : CommandWorker} {result : Handled w.runtime.unicode}
    {piped : Except Raised (List (CommandPayload w.runtime.unicode))}
    (settled : settle w true piped = .ok result) :
    (∃ commands, piped = .ok commands ∧ result = .published commands) ∨
      ∃ reason detail, result = .deadLettered reason detail := by
  cases piped with
  | ok commands =>
    cases settled
    exact Or.inl ⟨commands, rfl, rfl⟩
  | error raised =>
    cases raised with
    | license code message => exact Or.inr ⟨_, _, deadLetter_ok settled⟩
    | permanent error => exact Or.inr ⟨_, _, deadLetter_ok settled⟩
    | transient reason => cases settled
    | escaped exception => cases settled

/-- While the producer runs, a record that `_handle` returns for is fully handled. -/
theorem fullyHandled_of_ok {w : CommandWorker} {record : Record} {entry : Entry π}
    (started : entry.outcomes.started = true) {result : Handled w.runtime.unicode}
    (returned : handle w entry.cache entry.outcomes record = .ok result) :
    FullyHandled w record entry := by
  have cases : (∃ commands, result = .published commands ∧
      publishAll w entry.outcomes 0 commands = .ok ()) ∨
        ∃ reason detail, result = .deadLettered reason detail := by
    unfold handle at returned
    rw [started] at returned
    obtain ⟨body, -, returned⟩ := bind_ok_iff.mp returned
    cases body with
    | none => exact Or.inr ⟨_, _, deadLetter_ok returned⟩
    | some payload =>
      obtain ⟨-, -, returned⟩ := bind_ok_iff.mp returned
      rcases settle_ok returned with ⟨commands, closed, same⟩ | dead
      · exact Or.inl ⟨commands, same, closeLoop_ok closed⟩
      · exact Or.inr dead
  rcases cases with ⟨commands, rfl, published⟩ | ⟨reason, detail, rfl⟩
  · refine Or.inl ⟨commands, returned, fun i below => ?_⟩
    have acknowledged := publishAll_ok started commands 0 published i below
    rwa [Nat.zero_add] at acknowledged
  · exact Or.inr ⟨reason, detail, returned⟩

/-! ## Commit safety -/

section
variable {w : CommandWorker} {log : π → Nat → Option Record}

/-- Every record of the partition below the bound has been fully handled. -/
def Covered (w : CommandWorker) (log : π → Nat → Option Record) (ledger : List (Entry π))
    (partition : π) (bound : Nat) : Prop :=
  ∀ offset record, offset < bound → log partition offset = some record →
    ∃ entry ∈ ledger, entry.partition = partition ∧ entry.offset = offset ∧
      FullyHandled w record entry

theorem Covered.grown {ledger : List (Entry π)} {partition : π} {bound : Nat}
    (covered : Covered w log ledger partition bound) (entry : Entry π) :
    Covered w log (entry :: ledger) partition bound := by
  intro offset record below held
  obtain ⟨old, member, same⟩ := covered offset record below held
  exact ⟨old, List.mem_cons_of_mem entry member, same⟩

theorem Covered.next {ledger : List (Entry π)} {entry : Entry π} {record : Record}
    (covered : Covered w log ledger entry.partition entry.offset)
    (held : log entry.partition entry.offset = some record) (handled : FullyHandled w record entry) :
    Covered w log (entry :: ledger) entry.partition (entry.offset + 1) := by
  intro offset record' below held'
  rcases Nat.lt_succ_iff_lt_or_eq.mp below with earlier | rfl
  · exact covered.grown entry offset record' earlier held'
  · rw [held] at held'
    cases held'
    exact ⟨entry, List.mem_cons_self, rfl, rfl, handled⟩

/-- What a member relies on: nothing before the record it is busy with is left behind. -/
structure Member.Safe (w : CommandWorker) (log : π → Nat → Option Record) (ledger : List (Entry π))
    (m : Member π) : Prop where
  producer : m.phase ≠ .ended → m.producer = true
  handling : ∀ p o, m.phase = .handling p o → Covered w log ledger p o
  committing : ∀ p o, m.phase = .committing p o → Covered w log ledger p (o + 1)
  position : ∀ p n, m.position p = some n →
    Covered w log ledger p n ∨ ∃ o, m.phase = .handling p o ∧ n = o + 1

structure Group.Safe (w : CommandWorker) (log : π → Nat → Option Record) (g : Group ι π) :
    Prop where
  committed : ∀ p, Covered w log g.ledger p (g.committed p)
  members : ∀ i, (g.member i).Safe w log g.ledger

theorem Member.Safe.grown {ledger : List (Entry π)} {m : Member π} (safe : m.Safe w log ledger)
    (entry : Entry π) : m.Safe w log (entry :: ledger) where
  producer := safe.producer
  handling p o phase := (safe.handling p o phase).grown entry
  committing p o phase := (safe.committing p o phase).grown entry
  position p n held := (safe.position p n held).imp_left fun covered => covered.grown entry

/-- Without a consumer there is nothing to rely on. -/
theorem Member.Safe.close {ledger : List (Entry π)} {m : Member π} (safe : m.Safe w log ledger)
    {phase : Phase π} (still : phase ≠ .ended → m.phase ≠ .ended)
    (idle : phase.consuming = false ∨ phase = .polling) : (m.close phase).Safe w log ledger := by
  refine ⟨fun busy => safe.producer (still busy), ?_, ?_, ?_⟩
  · rintro p o rfl
    rcases idle with idle | idle <;> cases idle
  · rintro p o rfl
    rcases idle with idle | idle <;> cases idle
  · intro p n held
    cases held

/-- A member that handles nothing has no record behind its positions. -/
theorem Member.Safe.covered {ledger : List (Entry π)} {m : Member π} (safe : m.Safe w log ledger)
    (free : ∀ p o, m.phase ≠ .handling p o) {p : π} {n : Nat} (held : m.position p = some n) :
    Covered w log ledger p n := by
  rcases safe.position p n held with covered | ⟨o, phase, -⟩
  · exact covered
  · exact absurd phase (free p o)

theorem covered_of_nextRecord {ledger : List (Entry π)} {p : π} {n o : Nat}
    (covered : Covered w log ledger p n) (next : Group.nextRecord log p n o = true) :
    Covered w log ledger p o := by
  simp only [Group.nextRecord, Bool.and_eq_true, decide_eq_true_eq, List.all_eq_true, List.mem_range,
    Bool.or_eq_true, Option.isNone_iff_eq_none] at next
  intro offset record below held
  rcases next.2 offset below with before | absent
  · exact covered offset record before held
  · rw [absent] at held
    cases held

/-- Assigning a partition, or taking it away. -/
theorem Member.Safe.reposition [DecidableEq π] {ledger : List (Entry π)} {m : Member π}
    (safe : m.Safe w log ledger) (p : π) (n : Option Nat)
    (covered : ∀ n', n = some n' → Covered w log ledger p n') :
    Member.Safe w log ledger { m with position := Function.update m.position p n } where
  producer := safe.producer
  handling := safe.handling
  committing := safe.committing
  position q n' held := by
    dsimp only at held
    rw [Function.update_apply] at held
    split at held
    next same =>
      subst same
      exact Or.inl (covered n' held)
    next => exact safe.position q n' held

/-- A member goes back to the record that failed. -/
theorem Member.Safe.seek [DecidableEq π] {ledger : List (Entry π)} {m : Member π}
    (safe : m.Safe w log ledger) {p : π} {o : Nat} (phase : m.phase = .handling p o) :
    Member.Safe w log ledger ({ m with phase := .polling }.seek p o) := by
  have producer : m.producer = true := safe.producer (by rw [phase]; nofun)
  have elsewhere : ∀ q n, q ≠ p → m.position q = some n → Covered w log ledger q n := by
    intro q n other held
    rcases safe.position q n held with covered | ⟨o', phase', -⟩
    · exact covered
    · rw [phase] at phase'
      cases phase'
      exact absurd rfl other
  unfold Member.seek
  split
  next assigned =>
    refine ⟨fun _ => producer, nofun, nofun, ?_⟩
    intro q n held
    dsimp only at held
    rw [Function.update_apply] at held
    split at held
    next same =>
      cases held
      rw [same]
      exact Or.inl (safe.handling p o phase)
    next other => exact Or.inl (elsewhere q n other held)
  next revoked =>
    refine ⟨fun _ => producer, nofun, nofun, ?_⟩
    intro q n held
    by_cases same : q = p
    · subst same
      have assigned : (m.position q).isSome = true := by
        rw [show m.position q = some n from held]
        rfl
      exact absurd assigned revoked
    · exact Or.inl (elsewhere q n same held)

/-- A member is about to commit past the record it has handled. -/
theorem Member.Safe.handled {ledger : List (Entry π)} {m : Member π} (safe : m.Safe w log ledger)
    {entry : Entry π} {record : Record} (phase : m.phase = .handling entry.partition entry.offset)
    (held : log entry.partition entry.offset = some record) (handled : FullyHandled w record entry) :
    Member.Safe w log (entry :: ledger)
      { m with phase := .committing entry.partition entry.offset } := by
  have covered := (safe.handling _ _ phase).next held handled
  refine ⟨fun _ => safe.producer (by rw [phase]; nofun),
    nofun, ?_, ?_⟩
  · intro p o phase'
    cases phase'
    exact covered
  · intro q n position
    rcases safe.position q n position with before | ⟨o', phase', rfl⟩
    · exact Or.inl (before.grown entry)
    · rw [phase] at phase'
      cases phase'
      exact Or.inl covered

/-- A member that was started has read nothing. -/
theorem Member.Safe.launched (w : CommandWorker) (log : π → Nat → Option Record)
    (ledger : List (Entry π)) :
    Member.Safe w log ledger ({ phase := .connecting, producer := true } : Member π) := by
  refine ⟨fun _ => rfl, ?_, ?_, ?_⟩
  · intro p o phase
    cases phase
  · intro p o phase
    cases phase
  · intro p n held
    cases held

/-- A member takes up the next record of a partition. -/
theorem Member.Safe.takes [DecidableEq π] {ledger : List (Entry π)} {m : Member π}
    (safe : m.Safe w log ledger) (polling : m.phase = .polling) {p : π} {n o : Nat}
    (position : m.position p = some n) (yields : Group.nextRecord log p n o = true) :
    Member.Safe w log ledger
      { m with
        phase := .handling p o
        position := Function.update m.position p (some (o + 1)) } := by
  have free : ∀ q o', m.phase ≠ .handling q o' := by
    intro q o'
    rw [polling]
    nofun
  have covered := covered_of_nextRecord (safe.covered free position) yields
  refine ⟨fun _ => safe.producer (by rw [polling]; nofun), ?_, ?_, ?_⟩
  · intro q o' phase
    cases phase
    exact covered
  · intro q o' phase
    cases phase
  · intro q n' held
    dsimp only at held
    rw [Function.update_apply] at held
    split at held
    next same =>
      cases held
      rw [same]
      exact Or.inr ⟨o, rfl, rfl⟩
    next => exact Or.inl (safe.covered free held)

/-- A member goes on after a commit. -/
theorem Member.Safe.resumes {ledger : List (Entry π)} {m : Member π} (safe : m.Safe w log ledger)
    {p : π} {o : Nat} (phase : m.phase = .committing p o) :
    Member.Safe w log ledger { m with phase := .polling } := by
  have free : ∀ q o', m.phase ≠ .handling q o' := by
    intro q o'
    rw [phase]
    nofun
  refine ⟨fun _ => safe.producer (by rw [phase]; nofun), nofun, nofun, ?_⟩
  intro q n held
  exact Or.inl (safe.covered free held)

namespace Group
variable {g next : Group ι π}

theorem safe_start : (start : Group ι π).Safe w log where
  committed p o record below := absurd below (Nat.not_lt_zero o)
  members i := by
    refine ⟨fun busy => absurd rfl busy, ?_, ?_, ?_⟩
    · intro p o phase
      cases phase
    · intro p o phase
      cases phase
    · intro p n held
      cases held

variable [DecidableEq ι]

theorem Safe.setMember (safe : g.Safe w log) (i : ι) {m : Member π}
    (member : m.Safe w log g.ledger) : (g.setMember i m).Safe w log where
  committed := safe.committed
  members j := by
    show Member.Safe w log g.ledger (Function.update g.member i m j)
    rw [Function.update_apply]
    split
    next => exact member
    next => exact safe.members j

variable [DecidableEq π]

/-- The loop after a record was handled, or not. -/
theorem Safe.finished (safe : g.Safe w log) {i : ι} {entry : Entry π} {record : Record}
    (phase : (g.member i).phase = .handling entry.partition entry.offset)
    (held : log entry.partition entry.offset = some record)
    (started : entry.outcomes.started = true) :
    (g.finished w i entry.partition entry.offset entry
      (handle w entry.cache entry.outcomes record)).Safe w log := by
  cases returned : handle w entry.cache entry.outcomes record with
  | ok result =>
    have handled := fullyHandled_of_ok started returned
    refine ⟨fun p => (safe.committed p).grown entry, fun j => ?_⟩
    show Member.Safe w log (entry :: g.ledger) (Function.update g.member i _ j)
    rw [Function.update_apply]
    split
    next => exact (safe.members i).handled phase held handled
    next => exact (safe.members j).grown entry
  | error raised =>
    have ends : (g.setMember i ((g.member i).close .ended)).Safe w log :=
      safe.setMember i ((safe.members i).close (fun busy => absurd rfl busy) (Or.inl rfl))
    cases raised with
    | transient reason => exact safe.setMember i ((safe.members i).seek phase)
    | license code message => exact ends
    | permanent error => exact ends
    | escaped exception => exact ends

omit [DecidableEq ι] in
/-- The broker takes the offset of a record that was handled, or does not. -/
theorem Safe.commits (safe : g.Safe w log) (applied : Bool) {i : ι} {p : π} {o : Nat}
    (phase : (g.member i).phase = .committing p o) :
    Safe w log (if applied then
      { g with committed := Function.update g.committed p (o + 1) } else g) := by
  split
  next =>
    refine ⟨fun q => ?_, safe.members⟩
    dsimp only
    rw [Function.update_apply]
    split
    next same =>
      rw [same]
      exact (safe.members i).committing p o phase
    next => exact safe.committed q
  next => exact safe

omit [DecidableEq ι] in
theorem member_commits (g : Group ι π) (p : π) (n : Nat) (applied : Bool) :
    (if applied then { g with committed := Function.update g.committed p n }
      else g : Group ι π).member = g.member := by
  split <;> rfl

theorem Safe.step {event : LoopEvent ι π} (safe : g.Safe w log)
    (stepped : g.step w log event = some next) : next.Safe w log := by
  cases event with
  | launch i =>
    simp only [Group.step] at stepped
    split at stepped
    next =>
      cases stepped
      exact safe.setMember i (Member.Safe.launched w log g.ledger)
    next => cases stepped
  | teardown i =>
    simp only [Group.step] at stepped
    split at stepped
    next ended =>
      cases stepped
      have member := safe.members i
      exact safe.setMember i ⟨fun busy => absurd ended busy, member.handling, member.committing,
        member.position⟩
    next => cases stepped
  | requestStop i =>
    cases stepped
    have member := safe.members i
    exact safe.setMember i ⟨member.producer, member.handling, member.committing, member.position⟩
  | connect i succeeds =>
    simp only [Group.step] at stepped
    split at stepped
    next connecting =>
      have busy : (g.member i).phase ≠ .ended := by
        rw [connecting]
        nofun
      split at stepped
      next =>
        cases stepped
        exact safe.setMember i ((safe.members i).close (fun _ => busy) (Or.inl rfl))
      next =>
        split at stepped
        next =>
          cases stepped
          exact safe.setMember i ((safe.members i).close (fun _ => busy) (Or.inr rfl))
        next =>
          cases stepped
          exact safe
    next => cases stepped
  | assign i p =>
    simp only [Group.step] at stepped
    split at stepped
    next =>
      cases stepped
      refine safe.setMember i ((safe.members i).reposition p _ fun n same => ?_)
      cases same
      exact safe.committed p
    next => cases stepped
  | revoke i p =>
    cases stepped
    exact safe.setMember i ((safe.members i).reposition p none fun n same => by cases same)
  | fetch i p o =>
    simp only [Group.step] at stepped
    split at stepped
    next => cases stepped
    next n position =>
      split at stepped
      next yields =>
        have busy : (g.member i).phase ≠ .ended := by
          rw [yields.1]
          nofun
        split at stepped
        next =>
          cases stepped
          exact safe.setMember i ((safe.members i).close (fun _ => busy) (Or.inl rfl))
        next =>
          cases stepped
          exact safe.setMember i ((safe.members i).takes yields.1 position yields.2)
      next => cases stepped
  | finish i cache outcomes =>
    simp only [Group.step] at stepped
    split at stepped
    next p o phase =>
      obtain ⟨record, held, rfl⟩ := Option.map_eq_some_iff.mp stepped
      have started : (g.member i).producer = true :=
        (safe.members i).producer (by rw [phase]; nofun)
      let entry : Entry π :=
        ⟨p, o, cache, { outcomes with started := (g.member i).producer }⟩
      have after : (g.finished w i entry.partition entry.offset entry
          (handle w entry.cache entry.outcomes record)).Safe w log :=
        safe.finished phase held started
      exact after
    next => cases stepped
  | commit i applied outcome =>
    simp only [Group.step] at stepped
    split at stepped
    next p o phase =>
      have after := safe.commits applied phase
      have same := member_commits g p (o + 1) applied
      revert stepped after same
      generalize (if applied then
          { g with committed := Function.update g.committed p (o + 1) } else g : Group ι π) = g'
      intro stepped after same
      rw [← same] at phase
      have busy : (g'.member i).phase ≠ .ended := by
        rw [phase]
        nofun
      cases outcome with
      | returned =>
        cases stepped
        exact after.setMember i ((after.members i).resumes phase)
      | failed =>
        cases stepped
        exact after.setMember i ((after.members i).close (fun _ => busy) (Or.inl rfl))
      | cancelled =>
        cases stepped
        exact after.setMember i ((after.members i).close (fun _ => busy) (Or.inl rfl))
    next => cases stepped
  | fail i =>
    simp only [Group.step] at stepped
    split at stepped
    next polling =>
      cases stepped
      refine safe.setMember i ((safe.members i).close (fun _ => ?_) (Or.inl rfl))
      rw [polling]
      nofun
    next => cases stepped
  | cancel i =>
    simp only [Group.step] at stepped
    split at stepped
    next => cases stepped
    next =>
      cases stepped
      exact safe.setMember i ((safe.members i).close (fun busy => absurd rfl busy) (Or.inl rfl))

theorem Safe.run (safe : g.Safe w log) (events : List (LoopEvent ι π))
    (ran : Library.run (Group.step w log) g events = some next) : next.Safe w log :=
  run_preserves (Group.step w log) (Group.Safe w log) (fun _ _ _ safe stepped => safe.step stepped)
    events g next safe ran

end Group

end

end OpenOntology.Worker
