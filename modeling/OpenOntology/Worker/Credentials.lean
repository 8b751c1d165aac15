import OpenOntology.Library.Redaction
import OpenOntology.Worker.Interceptor

/-!
# Credentials stay out of the body

The gatekeeper looks a key up in some fields of the payload, and the client strips some
fields from the body. The two lists of fields are written apart; they are the same fields.
-/
namespace OpenOntology.Worker

open Python Library

/-- `extract_key`, with or without the fallback to the worker's own key. -/
def extractKeyAllowing (runtime : Runtime) (settings : GatekeeperSettings) (allowFallback : Bool)
    (payload : Members) : Option Text :=
  match (keyCandidates runtime settings payload).findSome? nonBlank with
  | some key => some key
  | none =>
    if allowFallback then nonBlank (settings.defaultKey.map fun key => .str (Text.ofString key))
    else none

section
variable {runtime : Runtime} {settings : GatekeeperSettings}

theorem extractKeyAllowing_true (payload : Members) :
    extractKeyAllowing runtime settings true payload = extractKey runtime settings payload := rfl

theorem extractKeyAllowing_false (payload : Members) :
    extractKeyAllowing runtime settings false payload =
      (keyCandidates runtime settings payload).findSome? nonBlank := by
  unfold extractKeyAllowing
  cases (keyCandidates runtime settings payload).findSome? nonBlank <;> rfl

/-! ## What the gatekeeper reads -/

variable (runtime settings) in
/-- The key presented may change with this field of the payload alone. -/
def Reads (key : Text) : Prop :=
  ∃ first second : Members, (∀ other, other ≠ key → first.get other = second.get other) ∧
    extractKeyAllowing runtime settings false first ≠
      extractKeyAllowing runtime settings false second

/-- The candidates come from the fields named here and from no other. -/
theorem keyCandidates_congr {first second : Members}
    (alike : ∀ name ∈ credentialKeys, field first name = field second name) :
    keyCandidates runtime settings first = keyCandidates runtime settings second := by
  unfold keyCandidates
  have top : field first "license_key" = field second "license_key" ∧
      field first "licence_key" = field second "licence_key" :=
    ⟨alike _ (by simp [credentialKeys]), alike _ (by simp [credentialKeys])⟩
  rw [top.1, top.2]
  congr 1
  apply List.flatMap_congr
  intro container member
  rw [alike container (List.mem_append_right ["license_key", "licence_key"] member)]

theorem top_mem_keyCandidates (payload : Members) {name : String}
    (named : name ∈ ["license_key", "licence_key"]) :
    field payload name ∈ keyCandidates runtime settings payload :=
  List.mem_append_left _ (List.mem_map_of_mem (f := field payload) named)

theorem nested_mem_keyCandidates {payload members : Members} {container : String}
    (named : container ∈ ["license", "licence", "headers", "meta"])
    (held : field payload container = some (.obj members)) :
    field members "key" ∈ keyCandidates runtime settings payload := by
  refine List.mem_append_right _ (List.mem_flatMap.mpr ⟨container, named, ?_⟩)
  rw [held]
  exact List.mem_flatMap.mpr ⟨"key", by simp, List.mem_cons_self⟩

/-- A text that is not blank among the candidates, and the payload presents some key. -/
theorem presents_of_mem {payload : Members} {candidate : Option PyJson} {key : Text}
    (member : candidate ∈ keyCandidates runtime settings payload)
    (spelled : nonBlank candidate = some key) :
    extractKeyAllowing runtime settings false payload ≠ none := by
  rw [extractKeyAllowing_false, Option.ne_none_iff_isSome, List.findSome?_isSome_iff]
  refine ⟨candidate, member, ?_⟩
  rw [spelled]
  rfl

/-- A payload of one field, with a key in it where the gatekeeper looks for one. -/
def presenting (name : String) : Members :=
  [(Text.ofString name,
    if name ∈ ["license_key", "licence_key"] then .str (Text.ofString "k")
    else .obj [(Text.ofString "key", .str (Text.ofString "k"))])]

theorem field_presenting (name : String) :
    field (presenting name) name =
      some (if name ∈ ["license_key", "licence_key"] then .str (Text.ofString "k")
        else .obj [(Text.ofString "key", .str (Text.ofString "k"))]) :=
  List.lookup_cons_self

theorem presents {name : String} (named : name ∈ credentialKeys) :
    extractKeyAllowing runtime settings false (presenting name) ≠ none := by
  have spelled : nonBlank (some (.str (Text.ofString "k"))) = some (Text.ofString "k") := by rfl
  have held := field_presenting name
  by_cases top : name ∈ ["license_key", "licence_key"]
  · rw [if_pos top] at held
    exact presents_of_mem (top_mem_keyCandidates (presenting name) top) (held ▸ spelled)
  · rw [if_neg top] at held
    have either : name ∈ ["license_key", "licence_key"] ++ ["license", "licence", "headers", "meta"] :=
      named
    have container := (List.mem_append.mp either).resolve_left top
    exact presents_of_mem (nested_mem_keyCandidates container held) spelled

/-- The gatekeeper reads the fields that the client strips, and no others. -/
theorem reads_iff (key : Text) :
    Reads runtime settings key ↔ ∃ name ∈ credentialKeys, key = Text.ofString name := by
  constructor
  · rintro ⟨first, second, alike, differ⟩
    by_contra unread
    apply differ
    rw [extractKeyAllowing_false, extractKeyAllowing_false, keyCandidates_congr]
    intro name named
    exact alike _ fun same => unread ⟨name, named, same.symm⟩
  · rintro ⟨name, named, rfl⟩
    refine ⟨presenting name, [], ?_, presents named⟩
    intro other differs
    unfold presenting Members.get
    rw [List.lookup_cons, beq_false_of_ne differs]

/-! ## What the client forwards -/

/-- A field the client strips from the body. -/
def withheld (key : Text) : Bool := credentialKeys.any fun name => key == Text.ofString name

theorem requestBody_eq_redact (payload : Members) :
    requestBody payload = redact withheld payload := rfl

theorem withheld_iff_reads (key : Text) : withheld key = true ↔ Reads runtime settings key := by
  rw [reads_iff]
  unfold withheld
  rw [List.any_eq_true]
  exact exists_congr fun name => and_congr_right fun _ => beq_iff_eq

theorem shown_of_unread {key : Text} (unread : ¬Reads runtime settings key) :
    withheld key = false :=
  Bool.eq_false_iff.mpr fun concealed => unread ((withheld_iff_reads key).mp concealed)

theorem unread_of_shown {key : Text} (shown : withheld key = false) :
    ¬Reads runtime settings key := by
  rw [← withheld_iff_reads, shown]
  exact Bool.false_ne_true

/-- A stripped payload reads as the empty one. -/
theorem extractKey_requestBody (payload : Members) :
    extractKeyAllowing runtime settings false (requestBody payload) = none := by
  have emptied : keyCandidates runtime settings (requestBody payload) =
      keyCandidates runtime settings [] := by
    apply keyCandidates_congr
    intro name named
    have read : Reads runtime settings (Text.ofString name) :=
      (reads_iff (Text.ofString name)).mpr ⟨name, named, rfl⟩
    rw [requestBody_eq_redact]
    exact lookup_redact_hidden payload ((withheld_iff_reads (Text.ofString name)).mpr read)
  rw [extractKeyAllowing_false, emptied]
  rfl

/-- So for every request that is sent. -/
theorem extractKey_planRequest {client : InterceptorSettings} {unicode : Unicode}
    {subscription : Subscription} {payload : Members} {requestID : Text} {request : Request}
    (planned : planRequest client unicode subscription payload requestID = .ok request) :
    extractKeyAllowing runtime settings false request.body = none := by
  unfold planRequest at planned
  cases aimed : destination client unicode subscription with
  | error raised =>
    rw [aimed] at planned
    cases planned
  | ok target =>
    rw [aimed] at planned
    cases planned
    exact extractKey_requestBody payload

variable (runtime settings) in
/-- No key can be extracted from the body; every field the gatekeeper does not read is
forwarded as it came; and what stood in the fields it reads makes no difference to the body. -/
theorem body_carries_no_credential (raw : Members) :
    extractKeyAllowing runtime settings false (requestBody raw) = none ∧
      (∀ key, ¬Reads runtime settings key → (requestBody raw).get key = raw.get key) ∧
      ∀ other : Members, (∀ key, ¬Reads runtime settings key → raw.get key = other.get key) →
        ∀ key, (requestBody raw).get key = (requestBody other).get key := by
  refine ⟨extractKey_requestBody raw, ?_, ?_⟩
  · intro key unread
    rw [requestBody_eq_redact]
    exact lookup_redact_shown raw (shown_of_unread unread)
  · intro other alike key
    rw [requestBody_eq_redact, requestBody_eq_redact]
    exact redact_determined (fun shown_key shown => alike shown_key (unread_of_shown shown)) key

end

end OpenOntology.Worker
