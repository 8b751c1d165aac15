import OpenOntology.Worker.EffectivelyOnce

/-!
# What a transient failure leaves on the topic

The commands of a batch are sent one after another, each with retries of its own. The answer
to a transient failure says that no command was published. A record may be on the topic all
the same: that of a command before the one that failed, or that of the failed one, where the
broker stored it and the acknowledgement was lost.
-/
namespace OpenOntology.Worker

open Python Library

def SendOutcome.isAcknowledged : SendOutcome → Bool
  | .acknowledged => true
  | .unacknowledged => false
  | .lost => false

/-- The broker has stored the record. -/
def SendOutcome.isStored : SendOutcome → Bool
  | .acknowledged => true
  | .unacknowledged => true
  | .lost => false

/-- What becomes of each attempt to send a command, by the command's place. -/
def Sends := Nat → Nat → SendOutcome

section
variable (w : CommandWorker) (outcomes : Outcomes) (sends : Sends)

/-- The worker hears of an attempt only whether it is acknowledged. -/
def hears : Outcomes :=
  { outcomes with acknowledged := fun place attempt => (sends place attempt).isAcknowledged }

/-- The records the broker stores while a command is published. -/
def storedBy (place : Nat) (command : CommandPayload w.runtime.unicode) :
    List (CommandPayload w.runtime.unicode) :=
  if outcomes.started = false ∨ (w.toJSONBytes command).isOk = false then []
  else
    ((attempted SendError.again (send w command ((hears outcomes sends).acknowledged place))
      w.interceptor.maxAttempts).filter fun attempt => (sends place attempt).isStored).map
        fun _ => command

/-- The records the broker stores while the commands are published in order. -/
def storedByAll : Nat → List (CommandPayload w.runtime.unicode) →
    List (CommandPayload w.runtime.unicode)
  | _, [] => []
  | place, command :: rest =>
    storedBy w outcomes sends place command ++
      match publish w outcomes.started command ((hears outcomes sends).acknowledged place) with
      | .ok () => storedByAll (place + 1) rest
      | .error _ => []

/-- The records of the batch that are on the topic after `close_loop`. -/
def published (cache : LicenseCache) (payload : Members) (correlation : Text) :
    List (CommandPayload w.runtime.unicode) :=
  match prepare w cache (hears outcomes sends) payload correlation with
  | .ok commands => storedByAll w outcomes sends 0 commands
  | .error _ => []

/-- The command in the place is the first without an acknowledgement, and could be sent. -/
structure StallsAt (place : Nat) (commands : List (CommandPayload w.runtime.unicode)) (i : Nat) :
    Prop where
  inside : i < commands.length
  rendered : ∀ command ∈ commands.take (i + 1), Rendered w command
  before : ∀ j < i, Acknowledged w (hears outcomes sends) (place + j)
  refused : ¬Acknowledged w (hears outcomes sends) (place + i)

/-- No attempt to send the command in the place gets as far as the topic. -/
def LostAt (place : Nat) : Prop :=
  ∀ attempt, 1 ≤ attempt → attempt ≤ w.interceptor.maxAttempts →
    (sends place attempt).isStored = false

variable {w outcomes sends} {place : Nat} {command : CommandPayload w.runtime.unicode}
  {commands rest : List (CommandPayload w.runtime.unicode)}

theorem SendOutcome.isStored_of_isAcknowledged {outcome : SendOutcome}
    (acknowledged : outcome.isAcknowledged = true) : outcome.isStored = true := by
  cases outcome with
  | acknowledged => rfl
  | unacknowledged => cases acknowledged
  | lost => cases acknowledged

theorem Rendered.isOk (rendered : Rendered w command) : (w.toJSONBytes command).isOk = true := by
  obtain ⟨bytes, rendered⟩ := rendered
  rw [rendered]
  rfl

theorem storedBy_rendered (started : outcomes.started = true) (rendered : Rendered w command) :
    storedBy w outcomes sends place command =
      ((attempted SendError.again (send w command ((hears outcomes sends).acknowledged place))
        w.interceptor.maxAttempts).filter fun attempt => (sends place attempt).isStored).map
          fun _ => command := by
  unfold storedBy
  rw [if_neg]
  simp [started, rendered.isOk]

theorem send_rendered {acknowledged : Nat → Bool} (rendered : Rendered w command) (attempt : Nat) :
    send w command acknowledged attempt =
      if acknowledged attempt then .ok () else .error .declared := by
  obtain ⟨bytes, rendered⟩ := rendered
  unfold send
  rw [rendered]

/-- A command that is published has a record on the topic. -/
theorem storedBy_of_published (started : outcomes.started = true) (rendered : Rendered w command)
    (published : publish w true command ((hears outcomes sends).acknowledged place) = .ok ()) :
    storedBy w outcomes sends place command ≠ [] := by
  have succeeded : Library.retry SendError.again
      (send w command ((hears outcomes sends).acknowledged place)) w.interceptor.maxAttempts =
        .ok () := by
    unfold publish at published
    rw [if_neg (by decide)] at published
    split at published
    next outcome => exact outcome
    next => cases published
    next => cases published
  obtain ⟨attempt, made, sent⟩ := retryFrom_ok_attempted succeeded
  rw [send_rendered rendered] at sent
  have acknowledged : (sends place attempt).isAcknowledged = true := by
    by_contra refused
    simp [hears, refused] at sent
  have stored := SendOutcome.isStored_of_isAcknowledged acknowledged
  rw [storedBy_rendered started rendered]
  intro none_stored
  simp only [List.map_eq_nil_iff, List.filter_eq_nil_iff] at none_stored
  exact none_stored attempt made stored

/-- A command without an acknowledgement leaves no record exactly when every attempt is lost. -/
theorem storedBy_eq_nil_iff (started : outcomes.started = true) (rendered : Rendered w command)
    (refused : ¬Acknowledged w (hears outcomes sends) place) :
    storedBy w outcomes sends place command = [] ↔ LostAt w sends place := by
  have bound := w.interceptor.attempts.1
  have failed : ∀ attempt, 1 ≤ attempt → attempt ≤ 1 + (w.interceptor.maxAttempts - 1) →
      ∃ e, send w command ((hears outcomes sends).acknowledged place) attempt = .error e ∧
        e.again = true := by
    intro attempt low high
    have silent : (hears outcomes sends).acknowledged place attempt = false := by
      by_contra heard
      exact refused ⟨attempt, low, by omega, Bool.not_eq_false _ ▸ heard⟩
    exact ⟨.declared, by rw [send_rendered rendered, silent]; rfl, rfl⟩
  rw [storedBy_rendered started rendered]
  simp only [List.map_eq_nil_iff, List.filter_eq_nil_iff, Bool.not_eq_true, attempted,
    mem_attemptedFrom_of_failed failed]
  constructor
  · intro lost attempt low high
    exact lost attempt ⟨low, by omega⟩
  · intro lost attempt made
    exact lost attempt made.1 (by omega)

theorem stallsAt_cons_succ (rendered : Rendered w command)
    (acknowledged : Acknowledged w (hears outcomes sends) place) (i : Nat) :
    StallsAt w outcomes sends place (command :: rest) (i + 1) ↔
      StallsAt w outcomes sends (place + 1) rest i := by
  have shifted : ∀ j, place + (j + 1) = place + 1 + j := by
    intro j
    omega
  constructor
  · intro stalls
    refine ⟨Nat.lt_of_succ_lt_succ stalls.inside, ?_, ?_, shifted i ▸ stalls.refused⟩
    · intro later member
      exact stalls.rendered later (List.mem_cons_of_mem command member)
    · intro j below
      exact shifted j ▸ stalls.before (j + 1) (Nat.succ_lt_succ below)
  · intro stalls
    refine ⟨Nat.succ_lt_succ stalls.inside, ?_, ?_, (shifted i).symm ▸ stalls.refused⟩
    · intro later member
      obtain rfl | inside := List.mem_cons.mp member
      · exact rendered
      · exact stalls.rendered later inside
    · intro j below
      cases j with
      | zero => exact acknowledged
      | succ j => exact (shifted j).symm ▸ stalls.before j (Nat.lt_of_succ_lt_succ below)

theorem stallsAt_cons_zero :
    StallsAt w outcomes sends place (command :: rest) 0 ↔
      Rendered w command ∧ ¬Acknowledged w (hears outcomes sends) place := by
  constructor
  · intro stalls
    exact ⟨stalls.rendered command (by simp), stalls.refused⟩
  · intro both
    refine ⟨by simp, ?_, ?_, both.2⟩
    · intro later member
      obtain rfl : later = command := by simpa using member
      exact both.1
    · intro j below
      exact absurd below (Nat.not_lt_zero j)

/-- Publishing fails for the environment exactly where a command that could be sent has no
acknowledgement. -/
theorem publishAll_transient_iff (started : outcomes.started = true)
    (commands : List (CommandPayload w.runtime.unicode)) (place : Nat) :
    (∃ reason, publishAll w (hears outcomes sends) place commands = .error (.transient reason)) ↔
      ∃ i, StallsAt w outcomes sends place commands i := by
  induction commands generalizing place with
  | nil =>
    constructor
    · intro failed
      obtain ⟨reason, same⟩ := failed
      cases same
    · intro stalled
      obtain ⟨i, stalls⟩ := stalled
      exact absurd stalls.inside (Nat.not_lt_zero i)
  | cons command rest ih =>
    have running : (hears outcomes sends).started = true := started
    unfold publishAll
    rw [running]
    by_cases rendered : Rendered w command
    · obtain ⟨sent, acked⟩ | ⟨failed, refused⟩ :=
        publish_rendered ((hears outcomes sends).acknowledged place) rendered
      · rw [sent]
        refine (ih (place + 1)).trans ⟨?_, ?_⟩
        · intro stalled
          obtain ⟨i, stalls⟩ := stalled
          exact ⟨i + 1, (stallsAt_cons_succ rendered acked i).mpr stalls⟩
        · intro stalled
          obtain ⟨i, stalls⟩ := stalled
          cases i with
          | zero => exact absurd acked (stallsAt_cons_zero.mp stalls).2
          | succ i => exact ⟨i, (stallsAt_cons_succ rendered acked i).mp stalls⟩
      · rw [failed]
        have unheard : ¬Acknowledged w (hears outcomes sends) place := by
          intro acked
          obtain ⟨attempt, low, high, heard⟩ := acked
          rw [refused attempt low high] at heard
          cases heard
        exact ⟨fun _ => ⟨0, stallsAt_cons_zero.mpr ⟨rendered, unheard⟩⟩, fun _ => ⟨_, rfl⟩⟩
    · obtain ⟨exception, escaped⟩ :=
        publish_unrendered ((hears outcomes sends).acknowledged place) rendered
      rw [escaped]
      constructor
      · intro failed
        obtain ⟨reason, same⟩ := failed
        cases same
      · intro stalled
        obtain ⟨i, stalls⟩ := stalled
        exact absurd (stalls.rendered command (by simp)) rendered

/-- Where publishing stalls, the topic holds no record exactly when that is the first command
and all its attempts are lost. -/
theorem storedByAll_eq_nil_iff (started : outcomes.started = true) {i : Nat}
    (stalls : StallsAt w outcomes sends place commands i) :
    storedByAll w outcomes sends place commands = [] ↔ i = 0 ∧ LostAt w sends place := by
  cases commands with
  | nil => exact absurd stalls.inside (Nat.not_lt_zero i)
  | cons command rest =>
    have rendered : Rendered w command := stalls.rendered command (by simp)
    unfold storedByAll
    rw [started]
    cases i with
    | zero =>
      have refused := (stallsAt_cons_zero.mp stalls).2
      obtain ⟨-, acked⟩ | ⟨failed, -⟩ :=
        publish_rendered ((hears outcomes sends).acknowledged place) rendered
      · exact absurd acked refused
      · rw [failed]
        simp [storedBy_eq_nil_iff started rendered refused]
    | succ i =>
      have acked : Acknowledged w (hears outcomes sends) place := stalls.before 0 (Nat.succ_pos i)
      obtain ⟨sent, -⟩ | ⟨-, refused⟩ :=
        publish_rendered ((hears outcomes sends).acknowledged place) rendered
      · simp [storedBy_of_published started rendered sent]
      · obtain ⟨attempt, low, high, heard⟩ := acked
        rw [refused attempt low high] at heard
        cases heard

theorem published_stopped (stopped : outcomes.started = false)
    (commands : List (CommandPayload w.runtime.unicode)) (place : Nat) :
    storedByAll w outcomes sends place commands = [] := by
  cases commands with
  | nil => rfl
  | cons command rest => simp [storedByAll, storedBy, publish, stopped]

section
variable {cache : LicenseCache} {payload : Members} {correlation : Text}

/-- A batch that is ready ends in a transient failure where its publishing does. -/
theorem closeLoop_transient_iff
    (ready : prepare w cache (hears outcomes sends) payload correlation = .ok commands) :
    (∃ reason, closeLoop w cache (hears outcomes sends) payload correlation =
        .error (.transient reason)) ↔
      ∃ reason, publishAll w (hears outcomes sends) 0 commands = .error (.transient reason) := by
  rw [closeLoop_eq_prepare, ready]
  dsimp only [Except.bind]
  cases publishAll w (hears outcomes sends) 0 commands <;> simp [Except.map]

theorem published_of_ready
    (ready : prepare w cache (hears outcomes sends) payload correlation = .ok commands) :
    published w outcomes sends cache payload correlation =
      storedByAll w outcomes sends 0 commands := by
  unfold published
  rw [ready]

end

/-- A transient failure means that nothing was published, exactly when no batch that is ready
to be sent stalls behind its first command, or at its first command with a record of it on the
topic. -/
theorem transient_publishes_nothing_iff (w : CommandWorker) (cache : LicenseCache)
    (outcomes : Outcomes) (sends : Sends) (payload : Members) (correlation : Text) :
    ((∃ reason, closeLoop w cache (hears outcomes sends) payload correlation =
        .error (.transient reason)) →
      published w outcomes sends cache payload correlation = []) ↔
      ∀ commands, prepare w cache (hears outcomes sends) payload correlation = .ok commands →
        outcomes.started = true → ∀ i, StallsAt w outcomes sends 0 commands i →
          i = 0 ∧ LostAt w sends 0 := by
  cases prepared : prepare w cache (hears outcomes sends) payload correlation with
  | error raised =>
    unfold published
    rw [prepared]
    simp
  | ok commands =>
    rw [closeLoop_transient_iff prepared, published_of_ready prepared]
    constructor
    · intro nothing ready taken started i stalls
      cases taken
      have empty := nothing ((publishAll_transient_iff started commands 0).mpr ⟨i, stalls⟩)
      exact (storedByAll_eq_nil_iff started stalls).mp empty
    · intro condition raised
      cases running : outcomes.started with
      | false => exact published_stopped running commands 0
      | true =>
        obtain ⟨i, stalls⟩ := (publishAll_transient_iff running commands 0).mp raised
        exact (storedByAll_eq_nil_iff running stalls).mpr (condition commands rfl running i stalls)

end

/-! ## A pump whose second command is lost -/

/-- The broker takes the first command and hears of no other. -/
def firstOnly : Sends := fun place _ => if place = 0 then .acknowledged else .lost

theorem pump_prepared : ∃ first second,
    prepare pumpWorker.toCommandWorker (pumpCircumstances 0).cache
      (hears (pumpWorker.outcomes (pumpCircumstances 0)) firstOnly) [] (Text.ofString "req-1") =
        .ok [first, second] := by
  obtain ⟨commands, translated⟩ := pump_translated
  have prepared : prepare pumpWorker.toCommandWorker (pumpCircumstances 0).cache
      (hears (pumpWorker.outcomes (pumpCircumstances 0)) firstOnly) [] (Text.ofString "req-1") =
        .ok commands :=
    bind_ok_iff.mpr ⟨pumpSubscription, pump_authorized,
      bind_ok_iff.mpr ⟨Bridge.pumpMutation, rfl,
        bind_ok_iff.mpr ⟨_, mapError_ok_iff.mpr StubWorker.planFor_stub,
          mapError_ok_iff.mpr translated⟩⟩⟩
  have plans := StubWorker.plans_of_translated (m := pumpPayload) translated
  have two := congrArg List.length plans.ids
  rw [pump_planIDs, List.length_map] at two
  obtain ⟨first, second, rfl⟩ := List.length_eq_two.mp two
  exact ⟨first, second, prepared⟩

/-- The derating is on the topic, and the answer says that nothing is. -/
theorem transient_after_first :
    ¬((∃ reason, closeLoop pumpWorker.toCommandWorker (pumpCircumstances 0).cache
          (hears (pumpWorker.outcomes (pumpCircumstances 0)) firstOnly) []
          (Text.ofString "req-1") = .error (.transient reason)) →
        published pumpWorker.toCommandWorker (pumpWorker.outcomes (pumpCircumstances 0)) firstOnly
          (pumpCircumstances 0).cache [] (Text.ofString "req-1") = []) := by
  obtain ⟨first, second, prepared⟩ := pump_prepared
  have rendered : ∀ command, Rendered pumpWorker.toCommandWorker command :=
    fun command => ⟨ByteArray.empty, rfl⟩
  have stalls : StallsAt pumpWorker.toCommandWorker (pumpWorker.outcomes (pumpCircumstances 0))
      firstOnly 0 [first, second] 1 := by
    apply (stallsAt_cons_succ (rendered first) ⟨1, le_rfl, by decide, rfl⟩ 0).mpr
    apply stallsAt_cons_zero.mpr
    refine ⟨rendered second, ?_⟩
    intro acked
    obtain ⟨attempt, -, -, heard⟩ := acked
    cases heard
  intro nothing
  rw [closeLoop_transient_iff prepared, published_of_ready prepared] at nothing
  have empty := nothing ((publishAll_transient_iff rfl [first, second] 0).mpr ⟨1, stalls⟩)
  exact absurd ((storedByAll_eq_nil_iff rfl stalls).mp empty).1 (by decide)

end OpenOntology.Worker
