import OpenOntology.GraphRag.Retrieval
import OpenOntology.GraphRag.Attribution

/-!
# The offline plan under the guardrails

What the planner composes from whatever was retrieved, and how little of it the
guardrails correct: the kernel's own caution has already been taken into the plan.
-/
namespace OpenOntology.GraphRag

/-! ## The plan -/

namespace ActionBriefing
variable (b : ActionBriefing)

theorem mem_stepsFrom {chunk : ManualChunk} {step : IsolationStep}
    (member : step ∈ b.stepsFrom chunk) :
    ∃ template ∈ chunk.procedure, step = b.renderStep chunk template := by
  obtain ⟨template, inside, rfl⟩ := List.mem_map.mp member
  exact ⟨template, inside, rfl⟩

theorem mem_supplement {tag : String} {chunk : ManualChunk}
    (found : b.supplement tag = some chunk) :
    chunk ∈ b.guidelines ∧ chunk.supplements tag = true := by
  unfold supplement at found
  have tagged := List.find?_some found
  exact ⟨List.mem_of_find?_eq_some found, tagged⟩

theorem mem_lead {chunk : ManualChunk} (found : b.lead = some chunk) :
    chunk ∈ b.guidelines ∧ chunk.leads b.action = true := by
  unfold lead at found
  have leads := List.find?_some found
  exact ⟨List.mem_of_find?_eq_some found, leads⟩

/-- A planned step is rendered from a retrieved chunk that leads the action or supplements
it, or it is the step planned when nothing leads. -/
inductive Grounded : IsolationStep → Prop where
  | uncovered (none_leads : b.lead = none) : Grounded b.uncoveredStep
  | rendered (chunk : ManualChunk) (template : ProcedureStep) (retrieved : chunk ∈ b.guidelines)
      (admitted : chunk.leads b.action = true ∨ chunk.supplementary = true)
      (cited : chunk ∈ b.cited) (inside : template ∈ chunk.procedure) :
      Grounded (b.renderStep chunk template)

variable {b}

theorem Grounded.target {step : IsolationStep} (grounded : b.Grounded step) :
    step.targetComponent = b.target := by
  cases grounded <;> rfl

theorem grounded_supplement {tag : String} {chosen : Option ManualChunk} {step : IsolationStep}
    (choice : ∀ chunk ∈ chosen, b.supplement tag = some chunk)
    (cited : ∀ chunk ∈ chosen, chunk ∈ b.cited)
    (member : step ∈ chosen.toList.flatMap b.stepsFrom) : b.Grounded step := by
  obtain ⟨chunk, held, inside⟩ := List.mem_flatMap.mp member
  rw [Option.mem_toList] at held
  obtain ⟨retrieved, supplements⟩ := b.mem_supplement (choice chunk held)
  obtain ⟨template, listed, rfl⟩ := b.mem_stepsFrom inside
  unfold ManualChunk.supplements at supplements
  exact .rendered chunk template retrieved (Or.inr (Bool.and_eq_true_iff.mp supplements).1)
    (cited chunk held) listed

theorem mem_cited {chunk : ManualChunk} : chunk ∈ b.cited ↔ chunk ∈ b.crdtChunk ∨
    chunk ∈ b.blastChunk ∨ chunk ∈ b.lead ∨ chunk ∈ b.lotoChunk ∨ chunk ∈ b.closureChunk := by
  unfold cited
  simp only [List.mem_append, Option.mem_toList, Option.mem_def, or_assoc]

theorem crdtChunk_supplement : ∀ chunk ∈ b.crdtChunk, b.supplement "crdt" = some chunk := by
  intro chunk held
  unfold crdtChunk at held
  split at held
  next => exact held
  next => cases held

theorem blastChunk_supplement :
    ∀ chunk ∈ b.blastChunk, b.supplement "downstream" = some chunk := by
  intro chunk held
  unfold blastChunk at held
  split at held
  next => cases held
  next => exact held

theorem lotoChunk_supplement : ∀ chunk ∈ b.lotoChunk, b.supplement "loto" = some chunk := by
  intro chunk held
  unfold lotoChunk at held
  split at held
  next => exact held
  next => cases held

theorem grounded_assembled {step : IsolationStep} (member : step ∈ b.assembled) :
    b.Grounded step := by
  unfold assembled at member
  simp only [List.mem_append] at member
  rcases member with ((crdt | blast) | procedure) | loto
  · exact grounded_supplement crdtChunk_supplement
      (fun _ held => mem_cited.mpr (Or.inl held)) crdt
  · exact grounded_supplement blastChunk_supplement
      (fun _ held => mem_cited.mpr (Or.inr (Or.inl held))) blast
  · cases led : b.lead with
    | none =>
      rw [led] at procedure
      rw [List.mem_singleton.mp procedure]
      exact .uncovered led
    | some chunk =>
      rw [led] at procedure
      obtain ⟨retrieved, leads⟩ := b.mem_lead led
      obtain ⟨template, listed, rfl⟩ := b.mem_stepsFrom procedure
      exact .rendered chunk template retrieved (Or.inl leads)
        (mem_cited.mpr (Or.inr (Or.inr (Or.inl led)))) listed
  · exact grounded_supplement lotoChunk_supplement
      (fun _ held => mem_cited.mpr (Or.inr (Or.inr (Or.inr (Or.inl held))))) loto

theorem grounded_closure {step : IsolationStep} (member : step ∈ b.closure) : b.Grounded step :=
  grounded_supplement (fun _ held => held)
    (fun _ held => mem_cited.mpr (Or.inr (Or.inr (Or.inr (Or.inr held))))) member

theorem grounded_sequenced {step : IsolationStep} (member : step ∈ b.sequenced) :
    b.Grounded step := by
  unfold sequenced at member
  rcases List.mem_append.mp member with body | closing
  · exact grounded_assembled (List.mem_of_mem_take body)
  · exact grounded_closure closing

/-- The closure is never truncated, and the whole fits whenever the closure leaves room. -/
theorem sequenced_length_le (room : b.closure.length < b.maxIsolationSteps) :
    b.sequenced.length ≤ b.maxIsolationSteps := by
  have budgeted : b.budget = b.maxIsolationSteps - b.closure.length := by
    unfold budget
    exact Nat.max_eq_right (by omega)
  unfold sequenced
  rw [List.length_append, List.length_take, budgeted]
  omega

/-- With guidelines from a prudent manual, only a shutdown has irreversible steps. -/
theorem reversible_of_prudent (prudent : ∀ chunk ∈ b.guidelines, chunk.Prudent)
    (other : b.action ≠ .emergencyShutdown) {step : IsolationStep} (grounded : b.Grounded step) :
    step.reversible = true := by
  cases grounded with
  | uncovered => rfl
  | rendered chunk template retrieved admitted _ inside =>
    by_contra irreversible
    obtain ⟨procedure, only⟩ := prudent chunk retrieved
      ⟨template, inside, Bool.eq_false_iff.mpr irreversible⟩
    rcases admitted with leads | supplementary
    · unfold ManualChunk.leads at leads
      rw [only] at leads
      simp only [Bool.and_eq_true, List.isEmpty_cons, Bool.false_or, List.contains_cons,
        List.contains_nil, Bool.or_false, beq_iff_eq] at leads
      exact other leads.2
    · rw [procedure] at supplementary
      cases supplementary

/-- A retrieved closing chunk hands the asset over, whatever is truncated before it. -/
theorem closed_of_closes (closes : ∀ chunk ∈ b.guidelines, chunk.Closes)
    (retrieved : ∃ chunk ∈ b.guidelines, chunk.supplements "closure" = true) :
    b.closure.length ≤ 2 ∧ ∃ step ∈ b.closure, step.actor = .humanSupervisor := by
  obtain ⟨chunk, inside, tagged⟩ := retrieved
  cases found : b.closureChunk with
  | none => exact absurd tagged (List.find?_eq_none.mp found chunk inside)
  | some chosen =>
    obtain ⟨held, supplements⟩ := b.mem_supplement found
    obtain ⟨short, supervised⟩ := closes chosen held supplements
    obtain ⟨template, listed, supervisor⟩ := List.any_eq_true.mp supervised
    have same : b.closure = b.stepsFrom chosen := by
      unfold closure
      rw [found]
      simp
    rw [same]
    refine ⟨by simpa [stepsFrom] using short, b.renderStep chosen template, ?_, ?_⟩
    · exact List.mem_map_of_mem listed
    · exact beq_iff_eq.mp supervisor

/-- Without a retrieved closing chunk there is no closure. -/
theorem closure_length_le (closes : ∀ chunk ∈ b.guidelines, chunk.Closes) :
    b.closure.length ≤ 2 := by
  by_cases retrieved : ∃ chunk ∈ b.guidelines, chunk.supplements "closure" = true
  · exact (closed_of_closes closes retrieved).1
  · have none_found : b.closureChunk = none := by
      refine List.find?_eq_none.mpr fun chunk inside tagged => ?_
      exact retrieved ⟨chunk, inside, tagged⟩
    unfold closure
    rw [none_found]
    exact Nat.zero_le _

end ActionBriefing
end OpenOntology.GraphRag
