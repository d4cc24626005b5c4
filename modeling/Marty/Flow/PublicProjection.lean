import Marty.Flow.Projection

/-!
# What a response hides

A response for an instance is made from client data, from trusted state and from results that
other services have stored.  Reserved keys are hidden in all of it: the walk that hides them
and the walk that refuses them agree on every document.

## Main definitions

* `entriesOf` — the entries of a document at any depth, each with the way to it.
* `Public` — a document without a reserved key at any depth.
* `projectVerificationResult`, `FlowInstanceRecord.verificationProjection` — the response with
  the result of a verification.
-/

namespace Marty.Flow

open Lib Lib.Checked

/-! ## Entries at any depth -/

/-- A step down a document: to the value of a key, or to an item. -/
inductive Step
  | key (name : String)
  | item (index : Nat)
  deriving DecidableEq, Repr

def Step.isPrivate : Step → Bool
  | .key name => isPrivateContextKey name
  | .item _ => false

/-- An entry of an object: the way to it, which ends with its key, and its value. -/
abbrev Entry := List Step × Value

def Entry.below (step : Step) (entry : Entry) : Entry := (step :: entry.1, entry.2)

/-- Neither the key of the entry nor one above it is reserved. -/
def Entry.visible (entry : Entry) : Bool := entry.1.all fun step => !step.isPrivate

/-- The entry with the public part of its value. -/
def Entry.public (entry : Entry) : Entry := (entry.1, publicContext entry.2)

mutual

/-- The entries of all objects in a document, in its order. -/
def entriesOf : Value → List Entry
  | .object entries => entriesOfObject entries
  | .array items => entriesOfItems items 0
  | _ => []

def entriesOfObject : List (String × Value) → List Entry
  | [] => []
  | (key, value) :: entries =>
      ([.key key], value) :: (entriesOf value).map (Entry.below (.key key)) ++
        entriesOfObject entries

def entriesOfItems : List Value → Nat → List Entry
  | [], _ => []
  | value :: items, index =>
      (entriesOf value).map (Entry.below (.item index)) ++ entriesOfItems items (index + 1)

end

@[simp] theorem Entry.visible_below (step : Step) (entry : Entry) :
    (entry.below step).visible = (!step.isPrivate && entry.visible) := rfl

/-- The visible entries below a step that is not reserved. -/
theorem filter_below (step : Step) (hstep : step.isPrivate = false) (entries : List Entry) :
    ((entries.map (Entry.below step)).filter Entry.visible).map Entry.public =
      ((entries.filter Entry.visible).map Entry.public).map (Entry.below step) := by
  induction entries with
  | nil => rfl
  | cons entry entries ih =>
      rw [List.map_cons, List.filter_cons, List.filter_cons, Entry.visible_below, hstep]
      cases entry.visible with
      | false => exact ih
      | true => exact congrArg (List.cons (Entry.below step entry.public)) ih

/-- Nothing is visible below a reserved step. -/
theorem filter_below_of_private (step : Step) (hstep : step.isPrivate = true)
    (entries : List Entry) : (entries.map (Entry.below step)).filter Entry.visible = [] := by
  rw [List.filter_eq_nil_iff, List.forall_mem_map]
  intro entry _
  simp [hstep]

mutual

/-- **The public document has the visible entries of the document, in its order.** -/
theorem entriesOf_publicContext : ∀ document : Value,
    entriesOf (publicContext document) =
      ((entriesOf document).filter Entry.visible).map Entry.public
  | .null | .bool _ | .number _ | .string _ => rfl
  | .array items => entriesOfItems_publicItems items 0
  | .object entries => entriesOfObject_publicEntries entries

theorem entriesOfObject_publicEntries : ∀ entries : List (String × Value),
    entriesOfObject (publicEntries entries) =
      ((entriesOfObject entries).filter Entry.visible).map Entry.public
  | [] => rfl
  | (key, value) :: entries => by
      have hvisible : Entry.visible ([.key key], value) = !isPrivateContextKey key := by
        simp [Entry.visible, Step.isPrivate]
      have hrest := entriesOfObject_publicEntries entries
      rw [publicEntries, entriesOfObject, List.cons_append, List.filter_cons, hvisible,
        List.filter_append]
      cases hkey : isPrivateContextKey key with
      | true => simpa [filter_below_of_private (.key key) hkey] using hrest
      | false =>
          simp only [Bool.false_eq_true, if_false, Bool.not_false, if_true, List.map_cons,
            List.map_append, filter_below (.key key) hkey]
          rw [entriesOfObject, entriesOf_publicContext value, hrest]
          rfl

theorem entriesOfItems_publicItems : ∀ (items : List Value) (index : Nat),
    entriesOfItems (publicItems items) index =
      ((entriesOfItems items index).filter Entry.visible).map Entry.public
  | [], _ => rfl
  | value :: items, index => by
      rw [publicItems, entriesOfItems, entriesOfItems, List.filter_append, List.map_append,
        filter_below (.item index) rfl, entriesOf_publicContext value,
        entriesOfItems_publicItems items (index + 1)]

end

/-! ## Documents without a reserved key -/

/-- No key of the document is reserved, at any depth. -/
def Public (document : Value) : Prop :=
  ∀ entry ∈ entriesOf document, ∀ step ∈ entry.1, step.isPrivate = false

def PublicEntries (entries : List (String × Value)) : Prop :=
  ∀ entry ∈ entriesOfObject entries, ∀ step ∈ entry.1, step.isPrivate = false

def PublicItems (items : List Value) (index : Nat) : Prop :=
  ∀ entry ∈ entriesOfItems items index, ∀ step ∈ entry.1, step.isPrivate = false

instance (document : Value) : Decidable (Public document) :=
  inferInstanceAs (Decidable (∀ entry ∈ entriesOf document, ∀ step ∈ entry.1, _))

theorem publicEntries_cons {key : String} {value : Value} {entries : List (String × Value)} :
    PublicEntries ((key, value) :: entries) ↔
      isPrivateContextKey key = false ∧ Public value ∧ PublicEntries entries := by
  simp only [PublicEntries, Public, entriesOfObject, List.cons_append, List.forall_mem_cons,
    List.forall_mem_append, List.forall_mem_map, Entry.below, List.not_mem_nil,
    IsEmpty.forall_iff, implies_true, and_true]
  constructor
  · rintro ⟨hkey, hvalue, hrest⟩
    exact ⟨hkey, fun entry hentry => (hvalue entry hentry).2, hrest⟩
  · rintro ⟨hkey, hvalue, hrest⟩
    exact ⟨hkey, fun entry hentry => ⟨hkey, hvalue entry hentry⟩, hrest⟩

theorem publicItems_cons {value : Value} {items : List Value} {index : Nat} :
    PublicItems (value :: items) index ↔ Public value ∧ PublicItems items (index + 1) := by
  simp only [PublicItems, Public, entriesOfItems, List.forall_mem_append, List.forall_mem_map,
    Entry.below, List.forall_mem_cons, Step.isPrivate, true_and]

/-- The public part of a document has no reserved key. -/
theorem public_publicContext (document : Value) : Public (publicContext document) := by
  intro entry hentry step hstep
  rw [entriesOf_publicContext, List.mem_map] at hentry
  obtain ⟨source, hsource, rfl⟩ := hentry
  have hvisible := List.all_eq_true.mp (List.mem_filter.mp hsource).2 step hstep
  simpa using hvisible

mutual

theorem publicContext_of_public : ∀ {document : Value}, Public document →
    publicContext document = document
  | .null, _ | .bool _, _ | .number _, _ | .string _, _ => rfl
  | .array items, h => by
      have hitems : PublicItems items 0 := h
      rw [publicContext, publicItems_of_public hitems]
  | .object entries, h => by rw [publicContext, publicEntries_of_public h]

theorem publicEntries_of_public : ∀ {entries : List (String × Value)}, PublicEntries entries →
    publicEntries entries = entries
  | [], _ => rfl
  | (key, value) :: entries, h => by
      obtain ⟨hkey, hvalue, hrest⟩ := publicEntries_cons.mp h
      rw [publicEntries, hkey, publicContext_of_public hvalue, publicEntries_of_public hrest]
      rfl

theorem publicItems_of_public : ∀ {items : List Value} {index : Nat}, PublicItems items index →
    publicItems items = items
  | [], _, _ => rfl
  | value :: items, index, h => by
      obtain ⟨hvalue, hrest⟩ := publicItems_cons.mp h
      rw [publicItems, publicContext_of_public hvalue, publicItems_of_public hrest]

end

theorem publicContext_eq_self {document : Value} :
    publicContext document = document ↔ Public document := by
  constructor
  · intro h
    rw [← h]
    exact public_publicContext document
  · exact publicContext_of_public

mutual

/-- A document is refused exactly when it has a reserved key. -/
theorem privateContextPath_eq_none : ∀ {document : Value} {path : String},
    privateContextPath document path = none ↔ Public document
  | .null, _ | .bool _, _ | .number _, _ | .string _, _ => by
      simp [privateContextPath, Public, entriesOf]
  | .array items, path => by
      have hitems : privateItemsPath items path 0 = none ↔ PublicItems items 0 :=
        privateItemsPath_eq_none
      exact hitems
  | .object entries, _ => privateEntriesPath_eq_none_iff

theorem privateEntriesPath_eq_none_iff : ∀ {entries : List (String × Value)} {path : String},
    privateEntriesPath entries path = none ↔ PublicEntries entries
  | [], _ => by simp [privateEntriesPath, PublicEntries, entriesOfObject]
  | (key, value) :: entries, path => by
      rw [privateEntriesPath, publicEntries_cons, Option.or_eq_none_iff,
        privateEntriesPath_eq_none_iff]
      cases hkey : isPrivateContextKey key with
      | true => simp
      | false =>
          rw [if_neg (by simp), privateContextPath_eq_none]
          simp

theorem privateItemsPath_eq_none : ∀ {items : List Value} {path : String} {index : Nat},
    privateItemsPath items path index = none ↔ PublicItems items index
  | [], _, _ => by simp [privateItemsPath, PublicItems, entriesOfItems]
  | value :: items, path, index => by
      rw [privateItemsPath, publicItems_cons, Option.or_eq_none_iff, privateContextPath_eq_none,
        privateItemsPath_eq_none]

end

/-! ## The result of a verification -/

/-- The response, with a rejected presentation attempt of type `α`. -/
structure VerificationResultResponse (α : Type) where
  instanceId : String
  status : String
  result : Option String
  decision : Option String
  decisionReason : Option String
  verifiedClaims : Value
  credentialResults : List Value
  lastPresentationAttempt : Option α
  errorCodes : List String
  warnings : List String
  evaluationTimestamp : Option String

def optionalResultString (object : Option Json.Map) (name : String) :
    Except FlowProjectionError (Option String) :=
  match object.bind (Json.Map.get · name) with
  | none | some .null => .ok none
  | some (.string value) => .ok (some value)
  | some _ => .error (invalidProjection ("instance.result." ++ name))

/-- The items of an array in the result, when all of them are of a kind. -/
def publicArray (kind : Value → Bool) (object : Option Json.Map) (name : String) : List Value :=
  ((((object.bind (Json.Map.get · name)).map publicContext).bind Json.Value.asArray).filter
    fun values => values.all kind).getD []

def publicObjectArray (object : Option Json.Map) (name : String) : List Value :=
  publicArray Json.Value.isObject object name

def publicStringArray (object : Option Json.Map) (name : String) : List String :=
  (publicArray (fun value => value.asStr.isSome) object name).filterMap Json.Value.asStr

/-- The claims that a result names as verified. -/
def resultClaims (object : Option Json.Map) : Value :=
  (((object.bind (Json.Map.get · "verified_claims")).map publicContext).filter
    Json.Value.isObject).getD (.object [])

/-- The response with a result; `attempt` finds the last rejected presentation. -/
def projectVerificationResult {α : Type} (attempt : InstanceProjectionInput → Option α)
    (input : InstanceProjectionInput) :
    Except FlowProjectionError (VerificationResultResponse α) := do
  let object := input.result.bind Json.Value.asObject
  let result ← optionalResultString object "evaluation_result"
  let decision ← optionalResultString object "decision"
  let decisionReason ← optionalResultString object "decision_reason"
  return {
    instanceId := input.id
    status := publicStatus input.status
    result := result
    decision := decision
    decisionReason := decisionReason.or input.error
    verifiedClaims := resultClaims object
    credentialResults := publicObjectArray object "credential_results"
    lastPresentationAttempt := attempt input
    errorCodes := publicStringArray object "error_codes"
    warnings := publicStringArray object "warnings"
    evaluationTimestamp := input.completedAt }

section

variable (packages : Packages)

def FlowInstanceRecord.verificationProjection {α : Type}
    (attempt : InstanceProjectionInput → Option α) (record : FlowInstanceRecord) :
    Except FlowRecordError (VerificationResultResponse α) :=
  (projectVerificationResult attempt (record.projectionInput packages)).mapError .projection

end

/-! ## Responses without a reserved key -/

theorem public_emptyObject : Public (.object []) := by
  intro entry hentry
  cases hentry

/-- An entry of a public object is public. -/
theorem Public.get {entries : Json.Map} (h : Public (.object entries)) {key : String}
    {value : Value} (hget : Json.Map.get entries key = some value) : Public value := by
  replace h : PublicEntries entries := h
  have hmem := Json.Map.mem_of_get hget
  induction entries with
  | nil => cases hmem
  | cons first entries ih =>
      obtain ⟨hkey, hvalue, hrest⟩ := publicEntries_cons.mp h
      rw [Json.Map.get_cons] at hget
      split at hget
      · cases hget
        exact hvalue
      · exact ih hget hrest (Json.Map.mem_of_get hget)

/-- An item of a public array is public. -/
theorem Public.item {items : List Value} (h : Public (.array items)) {value : Value}
    (hmem : value ∈ items) : Public value := by
  have hitems : ∀ (items : List Value) (index : Nat), PublicItems items index →
      ∀ value ∈ items, Public value := by
    intro items
    induction items with
    | nil =>
        intro _ _ value hvalue
        cases hvalue
    | cons first items ih =>
        intro index h value hvalue
        obtain ⟨hfirst, hrest⟩ := publicItems_cons.mp h
        rcases List.mem_cons.mp hvalue with rfl | hvalue
        · exact hfirst
        · exact ih (index + 1) hrest value hvalue
  exact hitems items 0 h value hmem

/-- The documents of a response for an instance have no reserved key. -/
structure FlowInstanceResponse.IsPublic {α : Type} (response : FlowInstanceResponse α) :
    Prop where
  contextData : Public response.contextData
  stepResults : Public response.stepResults
  metadata : Public response.metadata
  stateHistory : ∀ entry ∈ response.stateHistory, Public entry

/-- The documents of a response with a result have no reserved key. -/
structure VerificationResultResponse.IsPublic {α : Type}
    (response : VerificationResultResponse α) : Prop where
  verifiedClaims : Public response.verifiedClaims
  credentialResults : ∀ result ∈ response.credentialResults, Public result

theorem projectInstance_isPublic {α : Type} {packages : Packages}
    {attempt : InstanceProjectionInput → Option α} {input : InstanceProjectionInput}
    {response : FlowInstanceResponse α}
    (h : projectInstance packages attempt input = .ok response) : response.IsPublic := by
  simp only [projectInstance, bind_eq_ok, exists_unit, pure, Except.pure, Except.ok.injEq] at h
  obtain ⟨-, -, -, -, -, context, hcontext, -, -, -, -, -, -, -, -, -, -, rfl⟩ := h
  have hdata := public_publicContext input.context
  -- the results of the steps are read from the public context
  have hobject : publicContext input.context = .object context := by
    cases hpublic : publicContext input.context with
    | object entries =>
        rw [hpublic] at hcontext
        cases hcontext
        rfl
    | _ =>
        rw [hpublic] at hcontext
        cases hcontext
  exact {
    contextData := hdata
    stepResults := by
      cases hresults : (Json.Map.get context "step_results").filter Json.Value.isObject with
      | none => simpa [hresults] using public_emptyObject
      | some results =>
          rw [hobject] at hdata
          simpa [hresults] using hdata.get (Option.filter_eq_some_iff.mp hresults).1
    metadata := public_publicContext _
    stateHistory := by
      intro entry hentry
      obtain ⟨source, -, rfl⟩ := List.mem_map.mp hentry
      exact public_publicContext source }

theorem resultClaims_public (object : Option Json.Map) : Public (resultClaims object) := by
  rw [resultClaims]
  cases hclaims : ((object.bind (Json.Map.get · "verified_claims")).map publicContext).filter
      Json.Value.isObject with
  | none => exact public_emptyObject
  | some claims =>
      have hpublic := (Option.filter_eq_some_iff.mp hclaims).1
      obtain ⟨source, -, rfl⟩ := Option.map_eq_some_iff.mp hpublic
      exact public_publicContext source

theorem publicArray_public {kind : Value → Bool} {object : Option Json.Map} {name : String}
    {value : Value} (h : value ∈ publicArray kind object name) : Public value := by
  rw [publicArray] at h
  cases hitems : (((object.bind (Json.Map.get · name)).map publicContext).bind
      Json.Value.asArray).filter fun values => values.all kind with
  | none =>
      rw [hitems] at h
      cases h
  | some items =>
      rw [hitems] at h
      obtain ⟨shown, hshown, hitems⟩ :=
        Option.bind_eq_some_iff.mp (Option.filter_eq_some_iff.mp hitems).1
      obtain ⟨source, -, rfl⟩ := Option.map_eq_some_iff.mp hshown
      have hpublic := public_publicContext source
      cases harray : publicContext source with
      | array values =>
          rw [harray] at hpublic hitems
          cases hitems
          exact hpublic.item h
      | _ =>
          rw [harray] at hitems
          cases hitems

theorem projectVerificationResult_isPublic {α : Type}
    {attempt : InstanceProjectionInput → Option α} {input : InstanceProjectionInput}
    {response : VerificationResultResponse α}
    (h : projectVerificationResult attempt input = .ok response) : response.IsPublic := by
  simp only [projectVerificationResult, bind_eq_ok, pure, Except.pure, Except.ok.injEq] at h
  obtain ⟨_, -, _, -, _, -, rfl⟩ := h
  exact {
    verifiedClaims := resultClaims_public _
    credentialResults := fun _ hresult => publicArray_public hresult }

/-- **Reserved keys are hidden in every response**: the public part of a document has none, is
the document itself exactly when the document is not refused, and keeps every visible entry in
its place; and what the responses for a stored record show has none. -/
theorem responses_hide_private_keys :
    (∀ document : Value,
      Public (publicContext document) ∧
        publicContext (publicContext document) = publicContext document ∧
        (publicContext document = document ↔ privateContextPath document "" = none) ∧
        entriesOf (publicContext document) =
          ((entriesOf document).filter Entry.visible).map Entry.public) ∧
      ∀ {α : Type} (packages : Packages) (attempt : InstanceProjectionInput → Option α)
        (record : FlowInstanceRecord),
        (∀ response, record.projection packages attempt = .ok response → response.IsPublic) ∧
          ∀ response, record.verificationProjection packages attempt = .ok response →
            response.IsPublic := by
  constructor
  · intro document
    refine ⟨public_publicContext document, ?_, ?_, entriesOf_publicContext document⟩
    · exact publicContext_of_public (public_publicContext document)
    · rw [publicContext_eq_self, privateContextPath_eq_none]
  · intro α packages attempt record
    constructor
    · intro response h
      exact projectInstance_isPublic (mapError_eq_ok.mp h)
    · intro response h
      exact projectVerificationResult_isPublic (mapError_eq_ok.mp h)

namespace Example

/-- A completed verification whose stored result names a reserved key among the claims. -/
def verifiedRecord : FlowInstanceRecord where
  id := "instance-1"
  flowDefinitionId := "definition-1"
  organizationId := "organization-1"
  status := .completed
  currentStepId := none
  context := .object [("locale", .string "en"), ("api_key", .string "secret")]
  stepHistory := []
  stateHistory := []
  subjectId := none
  subjectType := "user"
  externalReference := none
  applicationFlowKeyHash := none
  startedAt := none
  completedAt := none
  expiresAt := none
  result := some (.object [("evaluation_result", .string "ACCEPT"),
    ("verified_claims", .object [("profile", .object [("name", .string "Ada"),
      ("Private_Key", .string "secret")])])])
  error := none
  createdAt := 0
  updatedAt := 0

end Example

/-- The claims of a stored result are shown without the reserved key below them. -/
theorem responses_hide_private_keys_verified :
    ∃ response : VerificationResultResponse Unit,
      Example.verifiedRecord.verificationProjection Example.readingPackages (fun _ => none)
          = .ok response ∧
        response.verifiedClaims = .object [("profile", .object [("name", .string "Ada")])] ∧
        response.IsPublic := by
  have hshown : ((Example.verifiedRecord.verificationProjection Example.readingPackages
      (fun _ => (none : Option Unit))).toOption.any fun response =>
        response.verifiedClaims = .object [("profile", .object [("name", .string "Ada")])])
          = true := by
    decide +kernel
  obtain ⟨response, hresponse, hclaims⟩ := (Option.any_eq_true _ _).mp hshown
  have hok := toOption_eq_some.mp hresponse
  exact ⟨response, hok, of_decide_eq_true hclaims,
    (responses_hide_private_keys.2 Example.readingPackages _ Example.verifiedRecord).2
      response hok⟩

end Marty.Flow
