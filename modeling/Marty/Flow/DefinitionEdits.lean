import Marty.Flow.DefinitionMutation
import Marty.Flow.Projection
import Marty.Lib.Interleaving
import Mathlib.Data.List.Chain

/-!
# Edits of one definition

Updates and activations of one definition run at the same time.  Each reads the stored
definition, asks the providers about what the new one refers to, and stores the new one in
place of whatever is stored by then.

## Main definitions

* `DefinitionHandler`, `definitionMachine` — the steps of a handler.
* `SavesWhatItRead` — a handler stores while its definition is still the stored one.
* `EditsKept` — versions grow, updates stay, and what is active was validated.
-/

namespace Marty.Flow

open Lib Lib.Checked

section

variable (packages : Packages) (definitionDocument : FlowDefinitionRecord → Value)

/-! ## Changes on top of each other -/

/-- A change without what a later one decides. -/
def Patch.without {α : Type} (patch later : Patch α) : Patch α :=
  if later.isUnset then patch else .unset

def UpdateFlowDefinitionRequest.without (request later : UpdateFlowDefinitionRequest) :
    UpdateFlowDefinitionRequest where
  organizationId := request.organizationId
  name := request.name.without later.name
  description := request.description.without later.description
  flowType := request.flowType.without later.flowType
  approvalStrategy := request.approvalStrategy.without later.approvalStrategy
  hooks := request.hooks.without later.hooks
  trigger := request.trigger.without later.trigger
  extension := request.extension.without later.extension
  credentialTemplateId := request.credentialTemplateId.without later.credentialTemplateId
  applicationTemplateId := request.applicationTemplateId.without later.applicationTemplateId
  presentationPolicyId := request.presentationPolicyId.without later.presentationPolicyId
  deliveryDestinationProfileId :=
    request.deliveryDestinationProfileId.without later.deliveryDestinationProfileId
  deploymentProfileIds := request.deploymentProfileIds.without later.deploymentProfileIds
  trustProfileId := request.trustProfileId.without later.trustProfileId

/-- A request has the fields that a change sets: the change does not change it any more. -/
def HasPatch (request : UpdateFlowDefinitionRequest) (current : CreateFlowDefinitionRequest) :
    Prop :=
  (applyPatch current request).stored = current.stored

/-- A stored definition has the fields that a change sets. -/
def PatchPresent (request : UpdateFlowDefinitionRequest) (record : FlowDefinitionRecord) : Prop :=
  ∃ current, requestFromRecord record = .ok current ∧ HasPatch request current

theorem required_without {α β : Type} {f : α → β} {patch : Patch α} {target : α}
    (h : f (patch.required target) = f target) (later : Patch α) :
    f ((patch.without later).required (later.required target)) = f (later.required target) := by
  cases later with
  | unset => exact h
  | _ => rfl

theorem optional_without {α : Type} {patch : Patch α} {target : Option α}
    (h : patch.optional target = target) (later : Patch α) :
    (patch.without later).optional (later.optional target) = later.optional target := by
  cases later with
  | unset => exact h
  | _ => rfl

/-- A later change leaves the fields of an earlier one that it does not decide. -/
theorem HasPatch.later {request : UpdateFlowDefinitionRequest}
    {current : CreateFlowDefinitionRequest} (h : HasPatch request current)
    (later : UpdateFlowDefinitionRequest) :
    HasPatch (request.without later) (applyPatch current later) := by
  simp only [HasPatch, applyPatch, CreateFlowDefinitionRequest.stored,
    CreateFlowDefinitionRequest.mk.injEq] at h ⊢
  obtain ⟨-, hname, hdescription, hflowType, happroval, hhooks, htrigger, hextension,
    hcredential, happlication, hpolicy, hdestination, hprofiles, htrust⟩ := h
  exact ⟨trivial, required_without (f := id) hname _, optional_without hdescription _,
    required_without (f := id) hflowType _, required_without (f := id) happroval _,
    required_without (f := id) hhooks _, optional_without htrigger _,
    optional_without hextension _, optional_without hcredential _,
    optional_without happlication _, optional_without hpolicy _,
    optional_without hdestination _, required_without (f := deduplicate) hprofiles _,
    optional_without htrust _⟩

theorem required_required {α : Type} (patch : Patch α) (target : α) :
    patch.required (patch.required target) = patch.required target := by
  cases patch <;> rfl

theorem optional_optional {α : Type} (patch : Patch α) (target : Option α) :
    patch.optional (patch.optional target) = patch.optional target := by
  cases patch <;> rfl

/-- A change sets its fields. -/
theorem hasPatch_applyPatch (request : UpdateFlowDefinitionRequest)
    (current : CreateFlowDefinitionRequest) : HasPatch request (applyPatch current request) := by
  simp only [HasPatch, applyPatch, required_required, optional_optional]

theorem foldl_deduplicate {seen values : List String} (h : (seen ++ values).Nodup) :
    values.foldl (fun seen value => if value ∈ seen then seen else seen ++ [value]) seen =
      seen ++ values := by
  induction values generalizing seen with
  | nil => rw [List.foldl_nil, List.append_nil]
  | cons value values ih =>
      have hnot : value ∉ seen := fun hmem =>
        (List.nodup_append.mp h).2.2 value hmem value List.mem_cons_self rfl
      rw [List.foldl_cons, if_neg hnot, ih, List.append_assoc, List.singleton_append]
      rwa [List.append_assoc, List.singleton_append]

theorem nodup_deduplicate {seen : List String} (hseen : seen.Nodup) (values : List String) :
    (values.foldl (fun seen value => if value ∈ seen then seen else seen ++ [value])
      seen).Nodup := by
  induction values generalizing seen with
  | nil => exact hseen
  | cons value values ih =>
      rw [List.foldl_cons]
      apply ih
      split
      · exact hseen
      · next hnot =>
          rw [List.nodup_append]
          refine ⟨hseen, List.nodup_singleton value, ?_⟩
          rintro a ha b hb rfl
          rw [List.mem_singleton] at hb
          exact hnot (hb ▸ ha)

theorem deduplicate_deduplicate (values : List String) :
    deduplicate (deduplicate values) = deduplicate values :=
  foldl_deduplicate (nodup_deduplicate List.nodup_nil values)

/-- What is stored has the fields that a change sets. -/
theorem HasPatch.stored {request : UpdateFlowDefinitionRequest}
    {current : CreateFlowDefinitionRequest} (h : HasPatch request current) :
    HasPatch request current.stored := by
  have hprofiles : deduplicate (request.deploymentProfileIds.required
      (deduplicate current.deploymentProfileIds)) =
        deduplicate (request.deploymentProfileIds.required current.deploymentProfileIds) := by
    cases request.deploymentProfileIds with
    | value profiles => rfl
    | _ => exact deduplicate_deduplicate _
  simp only [HasPatch, applyPatch, CreateFlowDefinitionRequest.stored, hprofiles,
    deduplicate_deduplicate] at h ⊢
  exact h

/-! ## Validating and storing -/

def definitionReferences (record : FlowDefinitionRecord) : FlowDefinitionReferenceSet where
  credentialTemplateId := record.credentialTemplateId
  physicalDocumentIssuance := effectiveFlowType record == .physicalDocumentIssuance
  applicationTemplateId := record.applicationTemplateId
  presentationPolicyId := record.presentationPolicyId
  deliveryDestinationProfileId := record.deliveryDestinationProfileId
  deploymentProfileIds := record.deploymentProfileIds
  trustProfileId := record.trustProfileId

/-- What the providers say to the references of an organization's definition; they may be
asked to accept active ones only. -/
abbrev ReferenceAnswers :=
  (organizationId : String) → FlowDefinitionReferenceSet → (requireActive : Bool) →
    Except FlowProviderError Unit

/-- A definition is valid when it has a graph and the providers accept its references. -/
def validateDefinitionRecord (answers : ReferenceAnswers) (record : FlowDefinitionRecord) :
    Bool :=
  (record.kernel packages).toBool &&
    (answers record.organizationId (definitionReferences record) true).toBool

def validateDefinitionNumbers (definition : FlowDefinitionRecord) : Except RepositoryError Unit := do
  checkedPublicRecord packages (definitionDocument definition)
  let _ ← (definition.kernel packages).mapError .invalidStoredState
  rejectIf (definition.defaultTimeoutSeconds = 0 ∨ definition.version = 0)
    (.invalidStoredState (invalid "definition numeric bounds"))

/-- The numbers of a definition are stored with thirty-two bits and a sign. -/
def storeNumber (n : Nat) : Except RepositoryError Unit :=
  rejectIf (2 ^ 31 ≤ n) (.storage "out of range integral type conversion attempted")

/-- The checks before a definition takes the place of the stored one. -/
def saveDefinition (definition : FlowDefinitionRecord) : Except RepositoryError Unit := do
  validateDefinitionNumbers packages definitionDocument definition
  storeNumber definition.defaultTimeoutSeconds
  storeNumber definition.maxRetries
  storeNumber definition.retryCooldownMinutes
  storeNumber definition.version

/-! ## Handlers -/

inductive DefinitionCall
  | update (request : UpdateFlowDefinitionRequest)
  | activate

/-- What an edit has done: the change of an update, or the answers of an activation. -/
inductive DefinitionEdit
  | update (request : UpdateFlowDefinitionRequest)
  | activation (answers : ReferenceAnswers)

/-- A definition that was stored, with the one that was stored before it. -/
structure DefinitionWrite where
  before : FlowDefinitionRecord
  record : FlowDefinitionRecord
  edit : DefinitionEdit

/-- The stored definition, and all that was stored so far. -/
structure DefinitionStore where
  current : FlowDefinitionRecord
  writes : List DefinitionWrite

inductive DefinitionHandler
  | start
  | read (existing : FlowDefinitionRecord)
  | ready (existing record : FlowDefinitionRecord) (edit : DefinitionEdit)
  | done (record : FlowDefinitionRecord)
  | failed

inductive DefinitionEvent
  | read
  /-- The providers answer, at a time and with names that are fresh then. -/
  | check (answers : ReferenceAnswers) (now : Utc) (freshId : Nat → String)
  | save
  /-- The caller is refused, or the handler is lost. -/
  | fail

/-- The definition that a handler is about to store, computed from the one it has read. -/
def editDefinition (existing : FlowDefinitionRecord) (answers : ReferenceAnswers) (now : Utc)
    (freshId : Nat → String) : DefinitionCall → Option (FlowDefinitionRecord × DefinitionEdit)
  | .update request => do
      let record ← (updateDefinitionRecord packages existing request now freshId).toOption
      let _ ← (answers record.organizationId (definitionReferences record) false).toOption
      return (record, .update request)
  | .activate =>
      if validateDefinitionRecord packages answers existing then
        some ({ existing with status := .active, updatedAt := now }, .activation answers)
      else none

/-- The first check of a handler: an archived definition is not updated. -/
def readDefinition (call : DefinitionCall) (existing : FlowDefinitionRecord) : DefinitionHandler :=
  match call with
  | .update _ => if existing.status = .archived then .failed else .read existing
  | .activate => .read existing

def definitionStep (call : DefinitionCall) (event : DefinitionEvent) (store : DefinitionStore) :
    DefinitionHandler → Option (DefinitionStore × DefinitionHandler)
  | .start =>
      match event with
      | .read => some (store, readDefinition call store.current)
      | .fail => some (store, .failed)
      | _ => none
  | .read existing =>
      match event with
      | .check answers now freshId =>
          match editDefinition packages existing answers now freshId call with
          | none => some (store, .failed)
          | some (record, edit) => some (store, .ready existing record edit)
      | .fail => some (store, .failed)
      | _ => none
  | .ready _ record edit =>
      match event with
      | .save =>
          match saveDefinition packages definitionDocument record with
          | .error _ => some (store, .failed)
          | .ok _ =>
              some (⟨record, store.writes ++ [⟨store.current, record, edit⟩]⟩, .done record)
      | .fail => some (store, .failed)
      | _ => none
  | .done _ | .failed => none

section

variable {ι : Type}

/-- Any number of handlers, each with its call. -/
def definitionMachine (call : ι → DefinitionCall) :
    Machine DefinitionStore ι DefinitionEvent DefinitionHandler where
  step i event store handler := definitionStep packages definitionDocument (call i) event store handler

/-- A handler that stores does so while the definition it has read is still stored. -/
def SavesWhatItRead (c : Config DefinitionStore ι DefinitionHandler) (i : ι)
    (event : DefinitionEvent) : Prop :=
  ∀ existing record edit, event = .save → c.calls i = .ready existing record edit →
    c.store.current = existing

/-! ## What an edit does -/

/-- The definition that an edit makes of the one before it. -/
def Edited (before record : FlowDefinitionRecord) : DefinitionEdit → Prop
  | .update request => ∃ now freshId,
      updateDefinitionRecord packages before request now freshId = .ok record
  | .activation answers => validateDefinitionRecord packages answers before = true ∧
      ∃ now, record = { before with status := .active, updatedAt := now }

variable {packages definitionDocument}

theorem editDefinition_eq_some {existing record : FlowDefinitionRecord}
    {answers : ReferenceAnswers} {now : Utc} {freshId : Nat → String} {call : DefinitionCall}
    {edit : DefinitionEdit}
    (h : editDefinition packages existing answers now freshId call
      = some (record, edit)) :
    Edited packages existing record edit := by
  cases call with
  | update request =>
      simp only [editDefinition, Option.bind_eq_bind, Option.bind_eq_some_iff,
        toOption_eq_some, pure, Option.some.injEq, Prod.mk.injEq] at h
      obtain ⟨record, hrecord, -, -, rfl, rfl⟩ := h
      exact ⟨now, freshId, hrecord⟩
  | activate =>
      rw [editDefinition, Option.ite_none_right_eq_some, Option.some.injEq,
        Prod.mk.injEq] at h
      obtain ⟨hvalid, rfl, rfl⟩ := h
      exact ⟨hvalid, now, rfl⟩

theorem saveDefinition_eq_ok {record : FlowDefinitionRecord}
    (h : saveDefinition packages definitionDocument record = .ok ()) : record.version < 2 ^ 31 := by
  simp only [saveDefinition, bind_eq_ok, exists_unit, storeNumber, rejectIf_eq_ok] at h
  exact not_le.mp h.2.2.2.2

/-- An update makes the next version, and an activation keeps the version. -/
theorem Edited.version {before record : FlowDefinitionRecord} {edit : DefinitionEdit}
    (h : Edited packages before record edit)
    (hsaved : saveDefinition packages definitionDocument record = .ok ()) :
    before.version ≤ record.version := by
  cases edit with
  | update request =>
      obtain ⟨now, freshId, hupdate⟩ := h
      obtain ⟨current, -, hbuilt⟩ := update_eq_ok hupdate
      have hversion := (buildRecord_eq_ok hbuilt).2.2
      have hbound := saveDefinition_eq_ok hsaved
      rw [maxU32] at hversion
      omega
  | activation answers =>
      obtain ⟨-, now, rfl⟩ := h
      exact le_rfl

/-- An update sets its fields. -/
theorem Edited.patched {before record : FlowDefinitionRecord}
    {request : UpdateFlowDefinitionRequest}
    (h : Edited packages before record (.update request)) :
    PatchPresent request record := by
  obtain ⟨now, freshId, hupdate⟩ := h
  obtain ⟨current, -, hbuilt⟩ := update_eq_ok hupdate
  exact ⟨_, requestFromRecord_buildRecord hbuilt, (hasPatch_applyPatch request current).stored⟩

/-- The fields that an edit has to keep of an earlier change. -/
def DefinitionEdit.keeps (request : UpdateFlowDefinitionRequest) :
    DefinitionEdit → UpdateFlowDefinitionRequest
  | .update later => request.without later
  | .activation _ => request

/-- An edit keeps the fields of an earlier change that it does not decide itself. -/
theorem Edited.kept {before record : FlowDefinitionRecord}
    {edit : DefinitionEdit} (h : Edited packages before record edit)
    {request : UpdateFlowDefinitionRequest}
    (hpatch : PatchPresent request before) :
    PatchPresent (edit.keeps request) record := by
  obtain ⟨current, hcurrent, hhas⟩ := hpatch
  cases edit with
  | update later =>
      obtain ⟨now, freshId, hupdate⟩ := h
      obtain ⟨current', hcurrent', hbuilt⟩ := update_eq_ok hupdate
      obtain rfl : current' = current := Except.ok.inj (hcurrent'.symm.trans hcurrent)
      exact ⟨_, requestFromRecord_buildRecord hbuilt, (hhas.later later).stored⟩
  | activation answers =>
      obtain ⟨-, now, rfl⟩ := h
      exact ⟨current, hcurrent, hhas⟩

theorem Edited.published {before record : FlowDefinitionRecord} {edit : DefinitionEdit}
    (h : Edited packages before record edit) (hactive : record.status = .active) :
    ∃ answers, edit = .activation answers ∧
      validateDefinitionRecord packages answers before = true ∧
      ∃ now, record = { before with status := .active, updatedAt := now } := by
  cases edit with
  | update request =>
      obtain ⟨now, freshId, hupdate⟩ := h
      obtain ⟨current, -, hbuilt⟩ := update_eq_ok hupdate
      rw [(buildRecord_eq_ok hbuilt).2.1] at hactive
      cases hactive
  | activation answers => exact ⟨answers, rfl, h⟩

/-! ## The stored definitions -/

variable (packages definitionDocument) in
/-- Each definition was made of the one that was stored just before it. -/
structure Successive (initial : FlowDefinitionRecord) (store : DefinitionStore) : Prop where
  first : ∀ w ∈ store.writes.head?, w.before = initial
  chain : store.writes.IsChain fun a b => b.before = a.record
  last : store.current = (store.writes.getLast?.map (·.record)).getD initial
  edited : ∀ w ∈ store.writes, Edited packages w.before w.record w.edit
  saved : ∀ w ∈ store.writes, saveDefinition packages definitionDocument w.record = .ok ()

theorem Successive.append {initial record : FlowDefinitionRecord} {store : DefinitionStore}
    {edit : DefinitionEdit} (h : Successive packages definitionDocument initial store)
    (hedited : Edited packages store.current record edit)
    (hsaved : saveDefinition packages definitionDocument record = .ok ()) :
    Successive packages definitionDocument initial
      ⟨record, store.writes ++ [⟨store.current, record, edit⟩]⟩ where
  first := by
    have hfirst := h.first
    have hlast := h.last
    cases hwrites : store.writes with
    | nil =>
        rw [hwrites] at hlast
        rintro w ⟨⟩
        exact hlast
    | cons a writes =>
        rw [hwrites] at hfirst
        exact hfirst
  chain := by
    refine List.isChain_append.mpr ⟨h.chain, List.isChain_singleton _, ?_⟩
    intro a ha b hb
    rw [List.head?_singleton, Option.mem_def, Option.some.injEq] at hb
    rw [← hb, h.last, Option.mem_def.mp ha]
    rfl
  last := by
    rw [List.getLast?_append]
    rfl
  edited := by
    intro w hw
    rcases List.mem_append.mp hw with hw | hw
    · exact h.edited w hw
    · rw [List.mem_singleton] at hw
      rw [hw]
      exact hedited
  saved := by
    intro w hw
    rcases List.mem_append.mp hw with hw | hw
    · exact h.saved w hw
    · rw [List.mem_singleton] at hw
      rw [hw]
      exact hsaved

variable (packages definitionDocument) in
/-- What a handler is about to store was made of what it has read. -/
def ReadyEdited : DefinitionHandler → Prop
  | .ready existing record edit => Edited packages existing record edit
  | _ => True

variable (packages definitionDocument) in
structure DefinitionInvariant (initial : FlowDefinitionRecord)
    (c : Config DefinitionStore ι DefinitionHandler) : Prop where
  successive : Successive packages definitionDocument initial c.store
  ready : ∀ i, ReadyEdited packages (c.calls i)

theorem readDefinition_edited (call : DefinitionCall) (existing : FlowDefinitionRecord) :
    ReadyEdited packages (readDefinition call existing) := by
  cases call with
  | update request =>
      simp only [readDefinition]
      split <;> trivial
  | activate => trivial

/-- **One step** that stores what was read keeps the definitions successive. -/
theorem definitionStep_kept {initial : FlowDefinitionRecord} {call : DefinitionCall}
    {event : DefinitionEvent} {store store' : DefinitionStore}
    {handler handler' : DefinitionHandler}
    (hstore : Successive packages definitionDocument initial store)
    (hready : ReadyEdited packages handler)
    (hguard : ∀ existing record edit, event = .save → handler = .ready existing record edit →
      store.current = existing)
    (h : definitionStep packages definitionDocument call event store handler = some (store', handler')) :
    Successive packages definitionDocument initial store' ∧ ReadyEdited packages handler' := by
  cases handler with
  | start =>
      cases event with
      | read =>
          cases h
          exact ⟨hstore, readDefinition_edited call _⟩
      | fail =>
          cases h
          exact ⟨hstore, trivial⟩
      | _ => cases h
  | read existing =>
      cases event with
      | check answers now freshId =>
          simp only [definitionStep] at h
          split at h
          · cases h
            exact ⟨hstore, trivial⟩
          · next record edit hedit =>
              cases h
              exact ⟨hstore, editDefinition_eq_some hedit⟩
      | fail =>
          cases h
          exact ⟨hstore, trivial⟩
      | _ => cases h
  | ready existing record edit =>
      cases event with
      | save =>
          simp only [definitionStep] at h
          split at h
          · cases h
            exact ⟨hstore, trivial⟩
          · next hsaved =>
              cases h
              obtain rfl := hguard existing record edit rfl rfl
              exact ⟨hstore.append hready hsaved, trivial⟩
      | fail =>
          cases h
          exact ⟨hstore, trivial⟩
      | _ => cases h
  | done record => cases h
  | failed => cases h

theorem DefinitionInvariant.next [DecidableEq ι] {call : ι → DefinitionCall}
    {initial : FlowDefinitionRecord} {c c' : Config DefinitionStore ι DefinitionHandler} {i : ι}
    {event : DefinitionEvent} (h : DefinitionInvariant packages definitionDocument initial c)
    (hguard : SavesWhatItRead c i event)
    (hnext : (definitionMachine packages definitionDocument call).next c i event = some c') :
    DefinitionInvariant packages definitionDocument initial c' := by
  obtain ⟨store, handler, hstep, rfl⟩ := Machine.next_eq_some.mp hnext
  obtain ⟨hstore, hhandler⟩ := definitionStep_kept h.successive (h.ready i) hguard hstep
  refine ⟨hstore, fun j => ?_⟩
  dsimp only
  by_cases hj : j = i
  · rw [hj, Function.update_self]
    exact hhandler
  · rw [Function.update_of_ne hj]
    exact h.ready j

/-! ## Edits are kept -/

variable (packages definitionDocument) in
/-- Versions grow, the fields of an update are in what it stores and in what is stored next,
and a definition is stored as active only as it was when it was validated. -/
structure EditsKept (initial : FlowDefinitionRecord) (store : DefinitionStore) : Prop where
  successive : Successive packages definitionDocument initial store
  versions : (initial.version :: store.writes.map (·.record.version)).Pairwise (· ≤ ·)
  patched : ∀ w ∈ store.writes, ∀ request, w.edit = .update request →
    PatchPresent request w.record
  kept : store.writes.IsChain fun a b => ∀ request, a.edit = .update request →
    PatchPresent (b.edit.keeps request) b.record
  published : ∀ w ∈ store.writes, w.record.status = .active → ∃ answers,
    w.edit = .activation answers ∧ validateDefinitionRecord packages answers w.before = true ∧
      ∃ now, w.record = { w.before with status := .active, updatedAt := now }

theorem versions_isChain {initial : FlowDefinitionRecord} {writes : List DefinitionWrite}
    (hfirst : ∀ w ∈ writes.head?, w.before = initial)
    (hchain : writes.IsChain fun a b => b.before = a.record)
    (hversion : ∀ w ∈ writes, w.before.version ≤ w.record.version) :
    (initial.version :: writes.map (·.record.version)).IsChain (· ≤ ·) := by
  induction writes generalizing initial with
  | nil => exact List.isChain_singleton _
  | cons w writes ih =>
      rw [List.map_cons, List.isChain_cons_cons]
      constructor
      · rw [← hfirst w rfl]
        exact hversion w List.mem_cons_self
      · rw [List.isChain_cons] at hchain
        exact ih hchain.1 hchain.2 fun v hv => hversion v (List.mem_cons_of_mem _ hv)

theorem Successive.editsKept {initial : FlowDefinitionRecord}
    {store : DefinitionStore} (h : Successive packages definitionDocument initial store) :
    EditsKept packages definitionDocument initial store where
  successive := h
  versions := List.isChain_iff_pairwise.mp <|
    versions_isChain h.first h.chain fun w hw => (h.edited w hw).version (h.saved w hw)
  patched := by
    intro w hw request hedit
    have hedited := h.edited w hw
    rw [hedit] at hedited
    exact hedited.patched
  kept := by
    rw [List.isChain_iff_getElem]
    intro i hi request hedit
    have hedited := h.edited _ (List.getElem_mem (by omega : i < store.writes.length))
    rw [hedit] at hedited
    have hnext := h.edited _ (List.getElem_mem hi)
    rw [List.isChain_iff_getElem.mp h.chain i hi] at hnext
    exact hnext.kept (hedited.patched)
  published := fun w hw hactive => (h.edited w hw).published hactive

/-- **Edits are kept** in every run of any number of handlers in which each one stores while
the definition it has read is still the stored one. -/
theorem definition_edits_kept [DecidableEq ι] 
    {call : ι → DefinitionCall} {initial : FlowDefinitionRecord}
    {c : Config DefinitionStore ι DefinitionHandler} {t : List (ι × DefinitionEvent)}
    (hguard : (definitionMachine packages definitionDocument call).Guarded SavesWhatItRead
      ⟨⟨initial, []⟩, fun _ => .start⟩ t)
    (hrun : (definitionMachine packages definitionDocument call).run ⟨⟨initial, []⟩, fun _ => .start⟩ t
      = some c) :
    EditsKept packages definitionDocument initial c.store := by
  have hinitial : DefinitionInvariant packages definitionDocument initial
      (⟨⟨initial, []⟩, fun _ => .start⟩ : Config DefinitionStore ι DefinitionHandler) := {
    successive := {
      first := by rintro w ⟨⟩
      chain := List.isChain_nil
      last := rfl
      edited := by rintro w ⟨⟩
      saved := by rintro w ⟨⟩ }
    ready := fun _ => trivial }
  have hinvariant := Machine.guarded_induct (P := DefinitionInvariant packages definitionDocument initial)
    (fun c i event c' h hg hnext => h.next hg hnext) hinitial hguard hrun
  exact hinvariant.successive.editsKept

end

end

namespace Example

def draftDefinition : FlowDefinitionRecord := { definition with status := .draft }

/-- A change of the name alone. -/
def renameRequest : UpdateFlowDefinitionRequest where
  organizationId := "org-1"
  name := .value "Renamed"
  description := .unset
  flowType := .unset
  approvalStrategy := .unset
  hooks := .unset
  trigger := .unset
  extension := .unset
  credentialTemplateId := .unset
  applicationTemplateId := .unset
  presentationPolicyId := .unset
  deliveryDestinationProfileId := .unset
  deploymentProfileIds := .unset
  trustProfileId := .unset

/-- The first handler renames the definition, and the second one activates it. -/
def editCall (i : Fin 2) : DefinitionCall := if i = 0 then .update renameRequest else .activate

/-- The providers accept every reference. -/
def checkEvent (now : Utc) : DefinitionEvent := .check (fun _ _ _ => .ok ()) now toString

def editMachine : Machine DefinitionStore (Fin 2) DefinitionEvent DefinitionHandler :=
  definitionMachine packages (fun _ => .null) editCall

def editStart : Config DefinitionStore (Fin 2) DefinitionHandler :=
  ⟨⟨draftDefinition, []⟩, fun _ => .start⟩

end Example

/-- A renaming is kept when it is stored before anything else is. -/
theorem definition_edits_kept_renamed :
    ∃ c, Example.editMachine.run Example.editStart
        [(0, .read), (0, Example.checkEvent 60000000000), (0, .save)] = some c ∧
      c.store.current.name = "Renamed" ∧
      EditsKept Example.packages (fun _ => .null) Example.draftDefinition c.store := by
  have hdone : ((Example.editMachine.run Example.editStart
      [(0, .read), (0, Example.checkEvent 60000000000), (0, .save)]).map
        fun c => c.store.current.name) = some "Renamed" := by
    decide +kernel
  cases hrun : Example.editMachine.run Example.editStart
      [(0, .read), (0, Example.checkEvent 60000000000), (0, .save)] with
  | none =>
      rw [hrun] at hdone
      cases hdone
  | some c =>
      rw [hrun] at hdone
      refine ⟨c, rfl, Option.some.inj hdone, definition_edits_kept ?_ hrun⟩
      -- nothing is stored between the first step and the last one
      refine ⟨by rintro _ _ _ ⟨⟩, fun c₁ h₁ => ⟨by rintro _ _ _ ⟨⟩, fun c₂ h₂ =>
        ⟨?_, fun _ _ => trivial⟩⟩⟩
      obtain ⟨store₁, handler₁, hstep₁, rfl⟩ := Machine.next_eq_some.mp h₁
      obtain ⟨store₂, handler₂, hstep₂, rfl⟩ := Machine.next_eq_some.mp h₂
      cases hstep₁
      rintro existing record edit - hready
      dsimp only at hready
      rw [Function.update_self] at hready
      have hread : readDefinition (Example.editCall 0) Example.draftDefinition =
          .read Example.draftDefinition := rfl
      simp only [definitionMachine, Function.update_self, hread, hready] at hstep₂
      simp only [definitionStep, Example.checkEvent] at hstep₂
      split at hstep₂
      · cases hstep₂
      · cases hstep₂
        rfl

/-- A definition is activated as it was before it was renamed: the activation has read it
first and stores it last. -/
theorem definition_edit_lost :
    ((Example.editMachine.run Example.editStart
      [(0, .read), (1, .read), (0, Example.checkEvent 60000000000), (0, .save),
        (1, Example.checkEvent 60000000000), (1, .save)]).map fun c =>
          (c.store.writes.map fun w => (w.record.version, w.record.name),
            c.store.current.status, c.store.current.version, c.store.current.name))
      = some ([(2, "Renamed"), (1, "Review")], .active, 1, "Review") := by
  decide +kernel

end Marty.Flow
