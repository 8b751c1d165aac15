import OpenOntology.GraphRag.Offline
import OpenOntology.Library.FloatOrder

/-!
# Retrieval from the maintenance manual

Two filtered queries over the corpus, merged by document. The tokens and the embeddings
behind a score are parameters: nothing below depends on how texts are compared.
-/
namespace OpenOntology.GraphRag

def FaultClassification.value : FaultClassification → String
  | .localizedComponent => "LOCALIZED_COMPONENT"
  | .inheritedCascade => "INHERITED_CASCADE"
  | .indeterminate => "INDETERMINATE"
  | .noFaultDetected => "NO_FAULT_DETECTED"

/-- How texts are compared: `_tokenize`, the cosine of two embeddings, and `str.upper`. -/
structure TextModel where
  tokenize : String → List String
  similarity : String → String → Float
  upper : String → String

namespace ManualChunk

def indexableText (chunk : ManualChunk) : String :=
  " ".intercalate [chunk.title, chunk.body, " ".intercalate chunk.tags,
    " ".intercalate chunk.modelFamilies,
    " ".intercalate (chunk.applicableActions.map ActionType.value),
    " ".intercalate (chunk.classifications.map FaultClassification.value)]

end ManualChunk

/-- A retrieved chunk with its score. -/
abbrev Hit : Type := ManualChunk × Float

section
variable (texts : TextModel)

/-- `model_family`: the leading token of the model number. -/
def AssetMetadata.modelFamily (asset : AssetMetadata) : String :=
  texts.upper (String.ofList (((Python.strip asset.modelNumber).toList.takeWhile fun c =>
    !(c == '-' || c == '_' || c == '/' || Python.isSpace c))))

/-- The metadata filters of a query; an empty family is no filter. -/
structure Filters where
  modelFamily : String := ""
  action : Option ActionType := none
  classification : Option FaultClassification := none

variable (corpus : List ManualChunk)

/-- The text indexed under a document: that of the last chunk carrying its id. -/
def indexed (chunk : ManualChunk) : String :=
  ((corpus.reverse.find? fun other => other.docID == chunk.docID).getD chunk).indexableText

/-- `_score`. -/
def score (query : String) (filters : Filters) (chunk : ManualChunk) : Float :=
  let text := indexed corpus chunk
  let queryTokens := (texts.tokenize query).dedup
  let shared := queryTokens.filter fun token => (texts.tokenize text).contains token
  let overlap := Float.ofNat shared.length / Float.ofNat (Nat.max 1 queryTokens.length)
  let score := 0.55 * Python.max 0.0 (texts.similarity query text) + 0.45 * overlap
  let score :=
    if filters.modelFamily ≠ "" ∧ chunk.modelFamilies ≠ [] then
      score + if filters.modelFamily ∈ chunk.modelFamilies then 0.25 else -0.20
    else score
  let score := match filters.action with
    | some action =>
      if chunk.applicableActions = [] then score
      else score + if action ∈ chunk.applicableActions then 0.30 else -0.35
    | none => score
  let score := match filters.classification with
    | some classification =>
      if chunk.classifications = [] then score
      else score + if classification ∈ chunk.classifications then 0.20 else -0.15
    | none => score
  Python.round score 6

/-- Better scores first, then by document. -/
def Hit.before (a b : Hit) : Bool := a.2 > b.2 || (a.2 == b.2 && a.1.docID ≤ b.1.docID)

/-- `search`: the chunks of positive score, best first. -/
def search (query : String) (topK : Nat) (filters : Filters) (includeSupplementary : Bool) :
    List Hit :=
  ((((corpus.filter fun chunk => includeSupplementary || !chunk.supplementary).map fun chunk =>
    (chunk, score texts corpus query filters chunk)).filter fun hit => hit.2 > 0).mergeSort
      Hit.before).take topK

/-- One hit taken into the merged results: a document keeps its better score. -/
def mergeHit (merged : List Hit) (hit : Hit) : List Hit :=
  match merged.find? fun held => held.1.docID == hit.1.docID with
  | none => merged ++ [hit]
  | some existing =>
    if hit.2 > existing.2 then
      merged.map fun held => if held.1.docID = hit.1.docID then hit else held
    else merged

/-- Lead procedures first, then supplementary material. -/
def Hit.leadsBefore (a b : Hit) : Bool :=
  (!a.1.supplementary && b.1.supplementary) ||
    (a.1.supplementary == b.1.supplementary && a.before b)

variable (topK : Nat) (payload : EnrichedGraphPayload) (verdict : TopologyIsolationVerdict)

/-- `analyse_channels_for_query`. -/
def breachedChannels : List Exceedance :=
  (evaluateChannels payload.telemetrySnapshot.localChannels payload.assetMetadata.uuid).filter
    fun item => item.band.rank ≥ Band.warn.rank

def primaryQuery : String :=
  let breached := ", ".intercalate ((breachedChannels payload).map Exceedance.channel)
  verdict.faultClassification.value ++ " on " ++ payload.assetMetadata.name ++ " model " ++
    payload.assetMetadata.modelNumber ++ " at " ++ payload.ontologyContext.physicalLocation ++
    "; breached channels " ++ (if breached = "" then "no breached channel" else breached) ++
    "; severity " ++ verdict.severityBand.value ++ "; containment " ++ verdict.containmentHint.value

def secondaryQuery : String :=
  " ".intercalate
    (["downstream consumers blast radius standby feed protection closure handover"] ++
      (if verdict.crdtAssessment.contested || !verdict.crdtAssessment.divergingReplicas.isEmpty then
        ["crdt lamport reconciliation replica tie-breaker convergence"] else []) ++
      (if verdict.containmentHint == .isolateValve || verdict.containmentHint == .emergencyShutdown
        then ["lockout tagout valve actuator stored energy"] else []))

/-- `_retrieve`: the two searches, merged and ranked. -/
def retrieve : List Hit :=
  let primary := search texts corpus (primaryQuery payload verdict) topK
    { modelFamily := payload.assetMetadata.modelFamily texts
      action := some verdict.containmentHint
      classification := some verdict.faultClassification } false
  let secondary := search texts corpus (secondaryQuery verdict) topK {} true
  ((primary ++ secondary).foldl mergeHit []).mergeSort Hit.leadsBefore

/-! ## The order of the hits -/

open Library.Binary64 (key lt_iff_key beq_iff_key lt_irrefl_of_isNaN)

theorem not_isNaN_of_positive {x : Float} (positive : x > 0) : x.isNaN = false := by
  rw [Bool.eq_false_iff]
  intro nan
  exact lt_irrefl_of_isNaN (Or.inr nan) positive

/-- Larger scores rank lower, then documents by their ids. -/
def Hit.rank (hit : Hit) : Library.Binary64.Keyᵒᵈ ×ₗ String :=
  toLex (OrderDual.toDual (key hit.2), hit.1.docID)

def Hit.leadRank (hit : Hit) : Bool ×ₗ Library.Binary64.Keyᵒᵈ ×ₗ String :=
  toLex (hit.1.supplementary, hit.rank)

theorem Hit.before_eq {a b : Hit} (real_a : a.2 > 0) (real_b : b.2 > 0) :
    a.before b = decide (a.rank ≤ b.rank) := by
  have reals := And.intro (not_isNaN_of_positive real_a) (not_isNaN_of_positive real_b)
  rw [Bool.eq_iff_iff, decide_eq_true_iff]
  unfold Hit.before Hit.rank
  rw [Prod.Lex.toLex_le_toLex, Bool.or_eq_true, Bool.and_eq_true, decide_eq_true_iff,
    decide_eq_true_iff, beq_iff_key reals.1 reals.2, gt_iff_lt, lt_iff_key reals.2 reals.1]
  exact Iff.rfl

theorem Hit.leadsBefore_eq {a b : Hit} (real_a : a.2 > 0) (real_b : b.2 > 0) :
    a.leadsBefore b = decide (a.leadRank ≤ b.leadRank) := by
  rw [Bool.eq_iff_iff, decide_eq_true_iff]
  unfold Hit.leadsBefore Hit.leadRank
  rw [Hit.before_eq real_a real_b, Prod.Lex.toLex_le_toLex]
  cases a.1.supplementary <;> cases b.1.supplementary <;> simp

theorem Hit.not_gt_of_rank {a b : Hit} (real_a : a.2 > 0) (real_b : b.2 > 0)
    (ranked : a.rank ≤ b.rank) : ¬b.2 > a.2 := by
  rw [gt_iff_lt, lt_iff_key (not_isNaN_of_positive real_a) (not_isNaN_of_positive real_b), not_lt]
  rcases Prod.Lex.toLex_le_toLex.mp ranked with below | ⟨same, -⟩
  · exact le_of_lt below
  · exact le_of_eq (OrderDual.toDual_inj.mp same).symm

/-! ## What one search finds -/

variable {texts corpus}

section
variable {query : String} {topK : Nat} {filters : Filters} {includeSupplementary : Bool}

/-- The chunk is admitted to the search, with a positive score. -/
def Admitted (texts : TextModel) (corpus : List ManualChunk) (query : String) (filters : Filters)
    (includeSupplementary : Bool) (hit : Hit) : Prop :=
  hit.1 ∈ corpus ∧ (includeSupplementary = true ∨ hit.1.supplementary = false) ∧
    hit.2 = score texts corpus query filters hit.1 ∧ hit.2 > 0

/-- A search finds the best of what it admits. -/
structure Searched (texts : TextModel) (corpus : List ManualChunk) (query : String) (topK : Nat)
    (filters : Filters) (includeSupplementary : Bool) (found : List Hit) : Prop where
  few : found.length ≤ topK
  admitted : ∀ hit ∈ found, Admitted texts corpus query filters includeSupplementary hit
  best : ∀ hit, Admitted texts corpus query filters includeSupplementary hit → hit ∉ found →
    found.length = topK ∧ ∀ kept ∈ found, ¬hit.2 > kept.2

theorem search_spec : Searched texts corpus query topK filters includeSupplementary
    (search texts corpus query topK filters includeSupplementary) := by
  unfold search
  generalize listed : ((corpus.filter fun chunk => includeSupplementary || !chunk.supplementary).map
    fun chunk => (chunk, score texts corpus query filters chunk)).filter (fun hit => hit.2 > 0) = hits
  have mem_hits : ∀ hit, hit ∈ hits ↔
      Admitted texts corpus query filters includeSupplementary hit := by
    intro hit
    rw [← listed]
    unfold Admitted
    constructor
    · intro inside
      obtain ⟨mapped, positive⟩ := List.mem_filter.mp inside
      obtain ⟨chunk, member, rfl⟩ := List.mem_map.mp mapped
      obtain ⟨drawn, open_to⟩ := List.mem_filter.mp member
      exact ⟨drawn, by simpa using open_to, rfl, of_decide_eq_true positive⟩
    · rintro ⟨drawn, open_to, scored, positive⟩
      refine List.mem_filter.mpr ⟨List.mem_map.mpr ⟨hit.1, List.mem_filter.mpr ⟨drawn, ?_⟩, ?_⟩,
        decide_eq_true positive⟩
      · simpa using open_to
      · rw [← scored]
  have positive : ∀ hit ∈ hits, hit.2 > 0 := fun hit inside => ((mem_hits hit).mp inside).2.2.2
  have sorted := @Library.pairwise_mergeSort_key _ _ _ Hit.before Hit.rank hits fun a inside b other =>
    Hit.before_eq (positive a inside) (positive b other)
  refine ⟨List.length_take_le _ _, fun hit found => ?_, fun hit admitted left_out => ?_⟩
  · exact (mem_hits hit).mp (List.mem_mergeSort.mp (List.mem_of_mem_take found))
  · have ranked : hit ∈ hits.mergeSort Hit.before :=
      List.mem_mergeSort.mpr ((mem_hits hit).mpr admitted)
    rw [← List.take_append_drop topK (hits.mergeSort Hit.before), List.mem_append] at ranked
    have dropped := ranked.resolve_left left_out
    rw [← List.take_append_drop topK (hits.mergeSort Hit.before), List.pairwise_append] at sorted
    refine ⟨?_, fun kept inside => ?_⟩
    · have some_left := List.length_pos_of_mem dropped
      rw [List.length_drop] at some_left
      rw [List.length_take]
      omega
    · have member := List.mem_mergeSort.mp (List.mem_of_mem_take inside)
      exact Hit.not_gt_of_rank (positive kept member) admitted.2.2.2
        (sorted.2.2 kept inside hit dropped)

end

/-! ## The merge -/

theorem mem_mergeHit {merged : List Hit} {hit other : Hit} (held : other ∈ mergeHit merged hit) :
    other ∈ merged ∨ other = hit := by
  unfold mergeHit at held
  split at held
  next => exact (List.mem_append.mp held).imp_right List.mem_singleton.mp
  next =>
    split at held
    next =>
      obtain ⟨before, inside, rfl⟩ := List.mem_map.mp held
      split
      next => exact Or.inr rfl
      next => exact Or.inl inside
    next => exact Or.inl held

theorem mergeHit_length (merged : List Hit) (hit : Hit) :
    (mergeHit merged hit).length ≤ merged.length + 1 := by
  unfold mergeHit
  split
  next => rw [List.length_append, List.length_singleton]
  next => split <;> simp

/-- A merged document is listed once. -/
theorem mergeHit_nodup {merged : List Hit} (hit : Hit)
    (distinct : (merged.map fun held => held.1.docID).Nodup) :
    ((mergeHit merged hit).map fun held => held.1.docID).Nodup := by
  unfold mergeHit
  cases listed : merged.find? fun held => held.1.docID == hit.1.docID with
  | none =>
    rw [List.find?_eq_none] at listed
    dsimp only
    rw [List.map_append, List.nodup_append]
    refine ⟨distinct, List.nodup_singleton _, ?_⟩
    intro id inside other last same
    obtain ⟨held, member, rfl⟩ := List.mem_map.mp inside
    rw [List.map_singleton, List.mem_singleton] at last
    exact listed held member (by simp [same, last])
  | some existing =>
    dsimp only
    split
    next =>
      have same : (merged.map fun held => if held.1.docID = hit.1.docID then hit else held).map
          (fun held => held.1.docID) = merged.map fun held => held.1.docID := by
        rw [List.map_map]
        refine List.map_congr_left fun held _ => ?_
        by_cases equal : held.1.docID = hit.1.docID
        · simp [equal]
        · simp [equal]
      rwa [same]
    next => exact distinct

/-- The document of a hit is held with a score no lower. -/
def Held (merged : List Hit) (hit : Hit) : Prop :=
  ∃ kept ∈ merged, kept.1.docID = hit.1.docID ∧ ¬hit.2 > kept.2

theorem Held.self {merged : List Hit} {hit : Hit} (inside : hit ∈ merged) (real : hit.2 > 0) :
    Held merged hit :=
  ⟨hit, inside, rfl, Hit.not_gt_of_rank real real (le_refl _)⟩

theorem mergeHit_held {merged : List Hit} {hit : Hit} (real : hit.2 > 0) :
    Held (mergeHit merged hit) hit := by
  unfold mergeHit
  cases listed : merged.find? fun held => held.1.docID == hit.1.docID with
  | none => exact Held.self (List.mem_append_right _ (List.mem_singleton_self _)) real
  | some existing =>
    have inside := List.mem_of_find?_eq_some listed
    have same : existing.1.docID = hit.1.docID := by simpa using List.find?_some listed
    dsimp only
    split
    next =>
      refine Held.self (List.mem_map.mpr ⟨existing, inside, ?_⟩) real
      rw [if_pos same]
    next lower => exact ⟨existing, inside, same, lower⟩

theorem Held.mergeHit {merged : List Hit} {old hit : Hit} (held : Held merged old)
    (distinct : (merged.map fun held => held.1.docID).Nodup) (positive : ∀ h ∈ merged, h.2 > 0)
    (real_old : old.2 > 0) (real : hit.2 > 0) : Held (mergeHit merged hit) old := by
  obtain ⟨kept, inside, same, lower⟩ := held
  unfold GraphRag.mergeHit
  cases listed : merged.find? fun held => held.1.docID == hit.1.docID with
  | none => exact ⟨kept, List.mem_append_left _ inside, same, lower⟩
  | some existing =>
    dsimp only
    split
    next better =>
      by_cases again : kept.1.docID = hit.1.docID
      · have found : existing.1.docID = hit.1.docID := by simpa using List.find?_some listed
        have equal : kept = existing :=
          List.inj_on_of_nodup_map distinct inside (List.mem_of_find?_eq_some listed)
            (again.trans found.symm)
        refine ⟨hit, List.mem_map.mpr ⟨kept, inside, if_pos again⟩, again.symm.trans same, ?_⟩
        -- the old score is not above the existing one, which the new one exceeds
        have real_kept := not_isNaN_of_positive (positive kept inside)
        have reals := And.intro (not_isNaN_of_positive real_old) (not_isNaN_of_positive real)
        rw [← equal, gt_iff_lt, lt_iff_key real_kept reals.2] at better
        rw [gt_iff_lt, lt_iff_key real_kept reals.1, not_lt] at lower
        rw [gt_iff_lt, lt_iff_key reals.2 reals.1, not_lt]
        exact lower.trans better.le
      · exact ⟨kept, List.mem_map.mpr ⟨kept, inside, if_neg again⟩, same, lower⟩
    next => exact ⟨kept, inside, same, lower⟩

/-- The merge of the hits keeps each document once, with its best score. -/
structure Merged (found merged : List Hit) : Prop where
  drawn : ∀ hit ∈ merged, hit ∈ found
  distinct : (merged.map fun held => held.1.docID).Nodup
  few : merged.length ≤ found.length
  best : ∀ hit ∈ found, Held merged hit

theorem merged_foldl (found : List Hit) (positive : ∀ hit ∈ found, hit.2 > 0) :
    Merged found (found.foldl mergeHit []) := by
  induction found using List.reverseRecOn with
  | nil => exact ⟨fun _ => id, List.nodup_nil, Nat.le_refl _, nofun⟩
  | append_singleton found hit ih =>
    have before := ih fun h inside => positive h (List.mem_append_left _ inside)
    have real := positive hit (List.mem_append_right _ (List.mem_singleton_self _))
    rw [List.foldl_append, List.foldl_cons, List.foldl_nil]
    refine ⟨fun h held => ?_, mergeHit_nodup hit before.distinct, ?_, fun h inside => ?_⟩
    · rcases mem_mergeHit held with old | rfl
      · exact List.mem_append_left _ (before.drawn h old)
      · exact List.mem_append_right _ (List.mem_singleton_self _)
    · have grown := mergeHit_length (found.foldl mergeHit []) hit
      have few := before.few
      rw [List.length_append, List.length_singleton]
      omega
    · rcases List.mem_append.mp inside with old | new
      · exact (before.best h old).mergeHit before.distinct
          (fun k kept => positive k (List.mem_append_left _ (before.drawn k kept)))
          (positive h inside) real
      · rw [List.mem_singleton.mp new]
        exact mergeHit_held real

/-! ## What the planner is handed -/

section
variable (texts corpus)

def primarySearch : List Hit :=
  search texts corpus (primaryQuery payload verdict) topK
    { modelFamily := payload.assetMetadata.modelFamily texts
      action := some verdict.containmentHint
      classification := some verdict.faultClassification } false

def secondarySearch : List Hit := search texts corpus (secondaryQuery verdict) topK {} true

end

/-- The retrieved documents: few, each once with its best score, lead procedures first and
the better score first among them. -/
structure Retrieved (texts : TextModel) (corpus : List ManualChunk) (topK : Nat)
    (payload : EnrichedGraphPayload) (verdict : TopologyIsolationVerdict) (hits : List Hit) :
    Prop where
  drawn : ∀ hit ∈ hits, hit ∈ primarySearch texts corpus topK payload verdict ∨
    hit ∈ secondarySearch texts corpus topK verdict
  distinct : (hits.map fun hit => hit.1.docID).Nodup
  few : hits.length ≤ 2 * topK
  best : ∀ hit, hit ∈ primarySearch texts corpus topK payload verdict ∨
    hit ∈ secondarySearch texts corpus topK verdict → Held hits hit
  leads : hits.Pairwise fun a b => a.1.supplementary = true → b.1.supplementary = true
  ranked : hits.Pairwise fun a b => a.1.supplementary = b.1.supplementary → ¬b.2 > a.2

theorem retrieved : Retrieved texts corpus topK payload verdict
    (retrieve texts corpus topK payload verdict) := by
  have same : retrieve texts corpus topK payload verdict =
      ((primarySearch texts corpus topK payload verdict ++
        secondarySearch texts corpus topK verdict).foldl mergeHit []).mergeSort Hit.leadsBefore := rfl
  have primary : Searched texts corpus _ topK _ _ (primarySearch texts corpus topK payload verdict) :=
    search_spec
  have secondary : Searched texts corpus _ topK _ _ (secondarySearch texts corpus topK verdict) :=
    search_spec
  have positive : ∀ hit ∈ primarySearch texts corpus topK payload verdict ++
      secondarySearch texts corpus topK verdict, hit.2 > 0 := by
    intro hit inside
    rcases List.mem_append.mp inside with found | found
    · exact (primary.admitted hit found).2.2.2
    · exact (secondary.admitted hit found).2.2.2
  have merged := merged_foldl _ positive
  rw [same]
  generalize ((primarySearch texts corpus topK payload verdict ++
    secondarySearch texts corpus topK verdict).foldl mergeHit []) = kept at merged
  have real : ∀ hit ∈ kept, hit.2 > 0 := fun hit inside => positive hit (merged.drawn hit inside)
  have sorted := @Library.pairwise_mergeSort_key _ _ _ Hit.leadsBefore Hit.leadRank kept
    fun a inside b other => Hit.leadsBefore_eq (real a inside) (real b other)
  refine ⟨fun hit inside => ?_, ?_, ?_, fun hit found => ?_, ?_, ?_⟩
  · exact List.mem_append.mp (merged.drawn hit (List.mem_mergeSort.mp inside))
  · exact ((List.mergeSort_perm _ _).map _).nodup_iff.mpr merged.distinct
  · have few := merged.few
    have primary_few := primary.few
    have secondary_few := secondary.few
    rw [List.length_append] at few
    rw [List.length_mergeSort]
    omega
  · obtain ⟨held, inside, document, lower⟩ := merged.best hit (List.mem_append.mpr found)
    exact ⟨held, List.mem_mergeSort.mpr inside, document, lower⟩
  · refine sorted.imp fun {a b} ranked supplementary => ?_
    rcases Prod.Lex.toLex_le_toLex.mp ranked with below | ⟨equal, -⟩
    · rw [supplementary] at below
      exact absurd below (by simp)
    · have kind : a.1.supplementary = b.1.supplementary := equal
      rwa [← kind]
  · refine sorted.imp_of_mem fun {a b} inside other ranked equal => ?_
    rcases Prod.Lex.toLex_le_toLex.mp ranked with below | ⟨-, within_kind⟩
    · exact absurd below (by simp [equal])
    · exact Hit.not_gt_of_rank (real a (List.mem_mergeSort.mp inside))
        (real b (List.mem_mergeSort.mp other)) within_kind

theorem mem_corpus_of_retrieved {hit : Hit} (held : hit ∈ retrieve texts corpus topK payload verdict) :
    hit.1 ∈ corpus := by
  have primary : Searched texts corpus _ topK _ _ (primarySearch texts corpus topK payload verdict) :=
    search_spec
  have secondary : Searched texts corpus _ topK _ _ (secondarySearch texts corpus topK verdict) :=
    search_spec
  rcases (retrieved topK payload verdict).drawn hit held with found | found
  · exact (primary.admitted hit found).1
  · exact (secondary.admitted hit found).1

end
end OpenOntology.GraphRag
