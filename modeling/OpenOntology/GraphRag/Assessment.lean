import OpenOntology.GraphRag.Topology
import OpenOntology.Library.UnitFloat

/-!
# When the assessment is accepted

The model refuses an assessment with a negative collision rate or with an explanation of
more than 1200 characters; the trust in the graph is always between zero and one.
-/
namespace OpenOntology.GraphRag
open Library Binary64 Float.Model

/-! ## Rounding to three digits -/

theorem roundHalfEven_le {n d k : Nat} (positive : 0 < d) (le : n ≤ k * d) :
    Python.roundHalfEven n d ≤ k := by
  have quotient : n / d ≤ k := Nat.div_le_of_le_mul (by rwa [Nat.mul_comm])
  unfold Python.roundHalfEven
  dsimp only
  rcases Nat.lt_or_eq_of_le quotient with less | equal
  · split
    · omega
    · split <;> omega
  · have whole : n % d = 0 := by
      have parts := Nat.div_add_mod n d
      rw [equal, Nat.mul_comm] at parts
      omega
    rw [whole, if_pos (by omega)]
    exact quotient

theorem within_of {low high x : Float} (above : ¬x < low) (below : ¬x > high) :
    within low high x = true := by
  unfold within
  rw [decide_eq_false above, decide_eq_false below]
  rfl

/-- Rounding what is at most one, and not negative, leaves it there. -/
theorem within_round_max {x : Float} (low : x > 0 → AtMostOne x.toModel.unpack) :
    within 0 1 (Python.round (Python.max 0 x) 3) = true := by
  unfold Python.max
  split
  next positive =>
    have bound := low positive
    have zero : (0 : Float).toModel.unpack = .zero .positive := rfl
    have above : (0 : Float) < x := positive
    rw [lt_iff, zero] at above
    unfold Python.round
    cases shape : x.toModel.unpack with
    | notANumber =>
      rw [shape] at bound
      cases bound
    | infinity s =>
      rw [shape] at above bound
      cases s with
      | positive => cases bound
      | negative => cases above
    | zero s =>
      rw [shape] at above
      cases above
    | finite s m e pos =>
      rw [shape] at above bound
      cases s with
      | negative => cases above
      | positive =>
        have le : Python.roundHalfEven (m * 10 ^ 3 * 2 ^ e.toNat) (2 ^ (-e).toNat) ≤ 1000 := by
          refine roundHalfEven_le (Nat.two_pow_pos _) ?_
          rcases bound with ⟨below, small⟩ | ⟨rfl, rfl⟩
          · have whole : e.toNat = 0 := by omega
            have room : 2 ^ 53 ≤ 2 ^ (-e).toNat := Nat.pow_le_pow_right (by decide) (by omega)
            rw [whole]
            omega
          · decide
        obtain ⟨unit, nonneg⟩ := ofScientific_unit le
        exact within_of nonneg (not_gt_of_atMostOne unit)
  next => decide +kernel

/-- A trust that is cut off at one. -/
theorem within_round_clamp (x : Float) :
    within 0 1 (Python.round (Python.max 0 (Python.min 1 x)) 3) = true := by
  refine within_round_max fun _ => ?_
  unfold Python.min
  split
  next less =>
    have real : x.isNaN = false :=
      Bool.eq_false_iff.mpr fun nan => lt_irrefl_of_isNaN (Or.inl nan) less
    exact atMostOne_of_not_gt real (lt_asymm less)
  next => exact Or.inr ⟨rfl, rfl⟩

/-! ## The length of the explanation -/

/-- The length of texts of the given lengths, joined by a separator. -/
def joinedLength (separator : Nat) (lengths : List Nat) : Nat :=
  (lengths.map (· + separator)).sum - separator

theorem intercalate_length (separator : String) (texts : List String) :
    (separator.intercalate texts).length =
      joinedLength separator.length (texts.map String.length) := by
  unfold joinedLength
  cases texts with
  | nil => simp
  | cons text rest =>
    induction rest generalizing text with
    | nil => simp
    | cons next rest ih =>
      rw [String.intercalate_cons_cons, String.length_append, String.length_append, ih next]
      simp only [List.map_cons, List.sum_cons]
      omega

theorem joinedLength_perm {separator : Nat} {l m : List Nat} (same : l.Perm m) :
    joinedLength separator l = joinedLength separator m := by
  unfold joinedLength
  rw [(same.map (· + separator)).sum_eq]

def digits (n : Nat) : Nat := (toString n).length

def reasonLength (add remove : Nat) (hasLiveDownstream : Bool) : Nat :=
  if add ≠ remove then 48 + digits add + digits remove
  else if add = 0 then 34
  else if hasLiveDownstream then 147 + digits add
  else 130 + digits add

/-- The replicas whose own view differs from the verdict. -/
def divergingIDs (observations : List ReplicaObservation) (presence : CRDTPresence) : List String :=
  (observations.filter fun o =>
    o.localPresence != .unobserved && o.localPresence != presence).map ReplicaObservation.replicaID

section
variable (formatG : Float → String)

/-- The lengths of the notes on the trust. -/
def noteLengths (tie addWins : Bool) (diverging : List String) (rate : Float) (stale : Bool) :
    List Nat :=
  (if tie then [39] else []) ++ (if addWins then [49] else []) ++
    (if diverging = [] then []
      else [digits diverging.length + 32 + joinedLength 2 (diverging.map String.length)]) ++
    (if rate > 0 then [21 + (formatG rate).length] else []) ++ if stale then [49] else []

/-- The number of characters the assessment's explanation has. -/
def explanationLength (observations : List ReplicaObservation) (hasLiveDownstream : Bool)
    (rate : Float) (telemetryIsLive : Bool) : Nat :=
  let add := (observations.map ReplicaObservation.addStamp).foldl Nat.max 0
  let remove := (observations.map ReplicaObservation.removeStamp).foldl Nat.max 0
  let presence := (joinStamps add remove hasLiveDownstream).1
  let tie := add == remove && add > 0
  let notes := noteLengths formatG tie (tie && hasLiveDownstream) (divergingIDs observations presence)
    rate (presence == .tombstoned && telemetryIsLive)
  19 + presence.value.length + reasonLength add remove hasLiveDownstream +
    if notes = [] then 0 else 20 + joinedLength 2 notes

theorem deduct_lengths (applies : Bool) (amount : Float) (text : String)
    (state : Float × List String) : (deduct applies amount text state).2.map String.length =
      state.2.map String.length ++ if applies then [text.length] else [] := by
  unfold deduct
  cases applies <;> simp

theorem reason_length (add remove : Nat) (hasLiveDownstream : Bool) :
    (joinStamps add remove hasLiveDownstream).2.2.length =
      reasonLength add remove hasLiveDownstream := by
  unfold joinStamps reasonLength digits
  by_cases more : add > remove
  · rw [if_pos more, if_pos (show add ≠ remove by omega)]
    simp only [String.length_append]
    have first : "highest add stamp ".length = 18 := by decide
    have second : " exceeds highest remove stamp ".length = 30 := by decide
    omega
  by_cases fewer : remove > add
  · rw [if_neg more, if_pos fewer, if_pos (show add ≠ remove by omega)]
    simp only [String.length_append]
    have first : "highest remove stamp ".length = 21 := by decide
    have second : " exceeds highest add stamp ".length = 27 := by decide
    omega
  obtain rfl : add = remove := by omega
  rw [if_neg more, if_neg fewer, if_neg (not_not.mpr rfl)]
  by_cases unstamped : add = 0
  · rw [if_pos unstamped, if_pos unstamped]
    decide
  rw [if_neg unstamped, if_neg unstamped]
  have first : "add and remove stamps tie at ".length = 29 := by decide
  cases hasLiveDownstream with
  | true =>
    have second : ("; the vertex still feeds live downstream " : String).length = 41 := by decide
    have third :
        "dependents, so add-wins keeps a physically present asset visible to operators".length = 77 := by
      decide
    simp only [if_true, String.length_append]
    omega
  | false =>
    have second : (" on a leaf vertex; removed-wins matches " : String).length = 40 := by decide
    have third : ("the replication core, and a later add can always resurrect it" : String).length =
      61 := by decide
    simp only [Bool.false_eq_true, if_false, String.length_append]
    omega

theorem rule_addWins (add remove : Nat) (hasLiveDownstream : Bool) :
    ((joinStamps add remove hasLiveDownstream).2.1 == .addWins) =
      (add == remove && decide (add > 0) && hasLiveDownstream) := by
  unfold joinStamps
  by_cases more : add > remove
  · have differ : (add == remove) = false := beq_eq_false_iff_ne.mpr (by omega)
    rw [if_pos more, differ]
    rfl
  by_cases fewer : remove > add
  · have differ : (add == remove) = false := beq_eq_false_iff_ne.mpr (by omega)
    rw [if_neg more, if_pos fewer, differ]
    rfl
  obtain rfl : add = remove := by omega
  rw [if_neg more, if_neg fewer]
  by_cases unstamped : add = 0
  · rw [if_pos unstamped, unstamped]
    rfl
  · have stamped : decide (add > 0) = true := decide_eq_true (by omega)
    rw [if_neg unstamped, stamped, beq_self_eq_true]
    cases hasLiveDownstream <;> rfl

/-! ## Acceptance -/

/-- A product of what is not negative. -/
theorem mul_not_neg {a b : Float} {m : Nat} {e : Int} {pos : 0 < m} (nonneg : ¬a < 0)
    (shape : b.toModel.unpack = .finite .positive m e pos) : ¬a * b < 0 := by
  have zero : (0 : Float).toModel.unpack = .zero .positive := rfl
  have product : (a * b).toModel =
      Float.Model.pack (UnpackedFloat.mul .binary64 a.toModel.unpack b.toModel.unpack) := rfl
  rw [lt_iff, zero] at nonneg
  rw [shape] at product
  cases left : a.toModel.unpack with
  | notANumber =>
    have made : (a * b).toModel = Float.Model.pack .notANumber := by rw [product, left]; rfl
    rw [lt_iff, made]
    decide +kernel
  | infinity s =>
    cases s with
    | negative =>
      rw [left] at nonneg
      exact absurd rfl nonneg
    | positive =>
      have made : (a * b).toModel = Float.Model.pack (.infinity .positive) := by
        rw [product, left]; rfl
      rw [lt_iff, made]
      decide +kernel
  | zero s =>
    have made : (a * b).toModel = Float.Model.pack (.zero (s * .positive)) := by
      rw [product, left]; rfl
    rw [lt_iff, made]
    cases s <;> decide +kernel
  | finite s m' e' pos' =>
    cases s with
    | negative =>
      rw [left] at nonneg
      exact absurd rfl nonneg
    | positive =>
      rw [left] at product
      exact not_neg_of_roundWithAccuracy product

/-- Without observations the trust starts below one and only falls. -/
theorem provisional_trust {rate : Float} (nonneg : ¬rate < 0) :
    within 0 1 (Python.round (Python.max 0 (0.7 - Python.min 0.4 (rate * 2))) 3) = true := by
  refine within_round_max fun _ => ?_
  have seven : (0.7 : Float).toModel.unpack =
      .finite .positive 6305039478318694 (-53) (by decide) := rfl
  have two : (2 : Float).toModel.unpack = .finite .positive (2 ^ 52) (-51) (by decide) := rfl
  have falls : (Python.min 0.4 (rate * 2)).isNaN = false ∧ ¬Python.min 0.4 (rate * 2) < 0 := by
    unfold Python.min
    split
    next less =>
      exact ⟨Bool.eq_false_iff.mpr fun nan => lt_irrefl_of_isNaN (Or.inl nan) less,
        mul_not_neg nonneg two⟩
    next => exact ⟨by decide +kernel, by decide +kernel⟩
  exact sub_atMostOne seven (by decide) (by decide) falls.1 falls.2

theorem explanation_length (presence : CRDTPresence) (reason : String) (notes : List String) :
    ("Vertex resolves " ++ presence.value ++ ": " ++ reason ++ "." ++
      if notes = [] then "" else " Trust reduced by: " ++ "; ".intercalate notes ++ ".").length =
    19 + presence.value.length + reason.length +
      if notes.map String.length = [] then 0 else 20 + joinedLength 2 (notes.map String.length) := by
  have first : "Vertex resolves ".length = 16 := by decide
  have second : ": ".length = 2 := by decide
  have stop : ".".length = 1 := by decide
  have third : " Trust reduced by: ".length = 19 := by decide
  have separator : "; ".length = 2 := by decide
  simp only [String.length_append, List.map_eq_nil_iff]
  split
  next =>
    have none : "".length = 0 := rfl
    omega
  next =>
    rw [String.length_append, String.length_append, intercalate_length, separator]
    omega

/-- What the deductions add up to, note by note. -/
theorem notes_lengths (tie addWins stale : Bool) (diverging : List String) (rate first second third
    fourth fifth : Float) :
    (deduct stale fifth "vertex is tombstoned but still emitting telemetry"
      (deduct (rate > 0) fourth ("merge collision rate " ++ formatG rate)
        (deduct (!diverging.mergeSort.isEmpty) third
          (toString diverging.mergeSort.length ++ " replica(s) have not converged: " ++
            ", ".intercalate diverging.mergeSort)
          (deduct addWins second "topology overrode the default removed-wins policy"
            (deduct tie first "stamp tie required a policy tie-breaker" (1.0, [])))))).2.map
      String.length = noteLengths formatG tie addWins diverging rate stale := by
  have sorted := List.mergeSort_perm diverging (fun a b => decide (a ≤ b))
  have tieText : "stamp tie required a policy tie-breaker".length = 39 := by decide
  have addWinsText : "topology overrode the default removed-wins policy".length = 49 := by decide
  have staleText : "vertex is tombstoned but still emitting telemetry".length = 49 := by decide
  have rateText : "merge collision rate ".length = 21 := by decide
  have divergingText : " replica(s) have not converged: ".length = 32 := by decide
  have comma : ", ".length = 2 := by decide
  unfold noteLengths
  simp only [deduct_lengths, List.map_nil, List.nil_append, String.length_append, tieText,
    addWinsText, staleText, rateText, divergingText, intercalate_length, comma, sorted.length_eq,
    joinedLength_perm (sorted.map String.length), decide_eq_true_eq]
  by_cases none : diverging = []
  · subst none
    simp
  · have some : diverging.mergeSort.isEmpty = false := by
      rw [List.isEmpty_eq_false_iff]
      exact fun empty => none (List.nil_perm.mp (empty ▸ sorted))
    rw [if_neg none, some, Bool.not_false, if_pos rfl]
    rfl

/-- What passes a guard is what was put to it. -/
theorem guarded_eq {accepted : Bool} {made taken : CRDTAssessment} {refusal : String}
    (passed : (if accepted then .ok made else .error refusal : Except String _) = .ok taken) :
    accepted = true ∧ made = taken := by
  cases accepted with
  | true => exact ⟨rfl, Except.ok.inj passed⟩
  | false => cases passed

/-- The assessment is made exactly when the collision rate is not negative and the
explanation is short enough. -/
theorem resolve_ok_iff (observations : List ReplicaObservation) (hasLiveDownstream : Bool)
    (rate : Float) (telemetryIsLive : Bool) :
    (∃ assessment, resolveCrdtPresence formatG observations hasLiveDownstream rate telemetryIsLive =
        .ok assessment) ↔
      ¬rate < 0 ∧ (observations = [] ∨
        explanationLength formatG observations hasLiveDownstream rate telemetryIsLive ≤ 1200) := by
  have taken : ∀ a : CRDTAssessment, (∃ assessment,
      (if a.accepted then .ok a else .error "crdt assessment refused" : Except String _) =
        .ok assessment) ↔ a.accepted = true := by
    intro a
    constructor
    · exact fun ⟨_, passed⟩ => (guarded_eq passed).1
    · exact fun fine => ⟨a, if_pos fine⟩
  unfold resolveCrdtPresence
  refine (taken _).trans ?_
  by_cases unseen : observations = []
  · have text : lengthWithin 1 1200
        ("No replica observations accompanied the mutation; vertex liveness is " ++
          "unverified. Treating the topology as provisional.") = true := by decide +kernel
    rw [if_pos unseen]
    unfold CRDTAssessment.accepted
    dsimp only
    rw [text, Bool.and_true, Bool.and_eq_true, Bool.not_eq_true', decide_eq_false_iff_not]
    constructor
    · exact fun both => ⟨both.1, Or.inl unseen⟩
    · exact fun both => ⟨both.1, provisional_trust both.1⟩
  · rw [if_neg unseen]
    unfold CRDTAssessment.accepted
    dsimp only
    rw [within_round_clamp, Bool.and_true, Bool.and_eq_true, Bool.not_eq_true',
      decide_eq_false_iff_not]
    refine and_congr_right fun _ => ?_
    unfold lengthWithin
    rw [explanation_length, notes_lengths, reason_length, rule_addWins]
    simp only [unseen, false_or, Bool.and_eq_true, decide_eq_true_eq]
    exact and_iff_right (by omega)

end

section
variable {formatG : Float → String} {observations : List ReplicaObservation}
  {hasLiveDownstream telemetryIsLive : Bool} {rate : Float} {assessment : CRDTAssessment}

/-- Without observations nothing is known of the vertex. -/
theorem resolve_unseen (resolved : resolveCrdtPresence formatG [] hasLiveDownstream rate
    telemetryIsLive = .ok assessment) :
    assessment.presence = .unobserved ∧ assessment.divergingReplicas = [] := by
  unfold resolveCrdtPresence at resolved
  rw [if_pos rfl] at resolved
  rw [← (guarded_eq resolved).2]
  exact ⟨rfl, rfl⟩

/-- The verdict is the join of the stamps, and the replicas that differ from it are named. -/
theorem resolve_seen (seen : observations ≠ [])
    (resolved : resolveCrdtPresence formatG observations hasLiveDownstream rate telemetryIsLive =
      .ok assessment) :
    assessment.presence = (joinStamps
        ((observations.map ReplicaObservation.addStamp).foldl Nat.max 0)
        ((observations.map ReplicaObservation.removeStamp).foldl Nat.max 0) hasLiveDownstream).1 ∧
      assessment.divergingReplicas = (divergingIDs observations assessment.presence).mergeSort := by
  unfold resolveCrdtPresence at resolved
  rw [if_neg seen] at resolved
  rw [← (guarded_eq resolved).2]
  exact ⟨rfl, rfl⟩

end

namespace EnrichedGraphPayload

/-- Whether a downstream node is not known to be offline. -/
def hasLiveDownstream (p : EnrichedGraphPayload) : Bool :=
  !(p.ontologyContext.downstreamImpacts.filter fun node =>
    (p.ontologyContext.health node).getD .unknown != .offline).isEmpty

def collisionRate (p : EnrichedGraphPayload) : Float :=
  (p.telemetrySnapshot.get "crdt_collision_rate").getD 0

def telemetryIsLive (p : EnrichedGraphPayload) : Bool := !p.telemetrySnapshot.localChannels.isEmpty

/-- The collision rate is not negative, and the assessment fits its 1200 characters. -/
def Assessable (formatG : Float → String) (p : EnrichedGraphPayload) : Prop :=
  ¬p.collisionRate < 0 ∧ (p.ontologyContext.replicaObservations = [] ∨
    explanationLength formatG p.ontologyContext.replicaObservations p.hasLiveDownstream
      p.collisionRate p.telemetryIsLive ≤ 1200)

end EnrichedGraphPayload

open EnrichedGraphPayload in
theorem analyse_ok_iff (formatG : Float → String) (settings : InterceptorSettings)
    (payload : EnrichedGraphPayload) :
    (∃ analysis, analyseTopology formatG settings payload = .ok analysis) ↔
      payload.Assessable formatG := by
  refine Iff.trans ?_ (resolve_ok_iff formatG _ _ _ _)
  constructor
  · intro ⟨analysis, analysed⟩
    unfold analyseTopology at analysed
    obtain ⟨crdt, resolved, -⟩ := bind_ok analysed
    exact ⟨crdt, resolved⟩
  · intro ⟨crdt, resolved⟩
    unfold collisionRate hasLiveDownstream telemetryIsLive at resolved
    unfold analyseTopology
    dsimp only
    rw [resolved]
    exact ⟨_, rfl⟩

end OpenOntology.GraphRag
