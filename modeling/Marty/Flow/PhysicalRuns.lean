import Marty.Flow.PhysicalDocument

/-!
# The job of a physical document

The job and the route trace that an instance keeps are those of the provider's answers, from
the one that the instance was started with on, as long as no client entry takes the job's
place.

## Main definitions

* `Lasting` — entries of a job that a later job still has.
* `jobOf`, `traceOf` — the job and the trace that a row of answers amounts to.
* `PhysicalInstance` — an instance with the answers that it has taken over.
* `runPhysical` — advances one after the other.
-/

namespace Marty.Flow

open Lib Lib.Checked

/-! ## Entries that last -/

/-- What one job records of its identity and of the signed material, the other records too. -/
def Lasting (old new : Json.Map) : Prop :=
  ∀ field ∈ identityFields ++ signedFields, ∀ value, recorded old field = some value →
    ∃ value', recorded new field = some value' ∧ (value' == value) = true

theorem Lasting.refl (job : Json.Map) : Lasting job job :=
  fun _ _ value h => ⟨value, h, Json.Value.beq_refl value⟩

theorem Lasting.trans {a b c : Json.Map} (h : Lasting a b) (h' : Lasting b c) : Lasting a c := by
  intro field hfield value hvalue
  obtain ⟨value', hvalue', heq⟩ := h field hfield value hvalue
  obtain ⟨value'', hvalue'', heq'⟩ := h' field hfield value' hvalue'
  exact ⟨value'', hvalue'', Json.Value.beq_trans heq' heq⟩

theorem recorded_eq_some {job : Json.Map} {field : String} {value : Value} :
    recorded job field = some value ↔ job.get field = some value ∧ value.isNull = false := by
  simp [recorded, Option.filter_eq_some_iff]

/-- A value that equals one that is not null is not null. -/
theorem isNull_of_beq {value value' : Value} (h : (value' == value) = true)
    (hvalue : value.isNull = false) : value'.isNull = false := by
  cases value' with
  | null =>
      cases value with
      | null => exact hvalue
      | _ => cases h
  | _ => rfl

theorem keepSigned_eq_ok {old new new' : Json.Map} {field : String}
    (h : keepSigned old new field = .ok new') :
    (∀ value, recorded old field = some value →
      ∃ value', recorded new' field = some value' ∧ (value' == value) = true) ∧
    ∀ key, key ≠ field → new'.get key = new.get key := by
  rw [keepSigned] at h
  cases hold : recorded old field with
  | none =>
      rw [hold] at h
      cases h
      exact ⟨fun _ hvalue => (by cases hvalue), fun _ _ => rfl⟩
  | some value =>
      rw [hold] at h
      dsimp only at h
      cases hnew : recorded new field with
      | none =>
          rw [hnew] at h
          cases h
          constructor
          · rintro _ ⟨⟩
            have hnull := (recorded_eq_some.mp hold).2
            have hget : (new.insert field value).get field = some value := by
              rw [Json.Map.get_insert, if_pos rfl]
            exact ⟨value, recorded_eq_some.mpr ⟨hget, hnull⟩, Json.Value.beq_refl value⟩
          · intro key hkey
            rw [Json.Map.get_insert, if_neg hkey]
      | some incoming =>
          rw [hnew] at h
          dsimp only at h
          split at h
          · next heq =>
              cases h
              constructor
              · rintro _ ⟨⟩
                exact ⟨incoming, hnew, heq⟩
              · exact fun _ _ => rfl
          · cases h

theorem recorded_congr {a b : Json.Map} {field : String} (h : a.get field = b.get field) :
    recorded a field = recorded b field := by
  rw [recorded, recorded, h]

/-- **A refreshed job** keeps what the job before it recorded. -/
theorem preserve_eq_ok {previous refreshed job : Value}
    (h : preserveSignedPhysicalMaterial previous refreshed = .ok job) :
    ∃ old new, previous = .object old ∧ job = .object new ∧ Lasting old new := by
  simp only [preserveSignedPhysicalMaterial, bind_eq_ok, exists_unit, okOr_eq_ok,
    rejectIf_eq_ok, signedFields, List.foldlM_cons, List.foldlM_nil, pure, Except.pure,
    Except.ok.injEq] at h
  obtain ⟨old, hold, new, -, hidentity, _, ⟨first, hfirst, _, hsecond, rfl⟩, rfl⟩ := h
  obtain ⟨hsha, hkeepFirst⟩ := keepSigned_eq_ok hfirst
  obtain ⟨hverified, hkeepSecond⟩ := keepSigned_eq_ok hsecond
  refine ⟨old, _, asObject_eq_some hold, rfl, ?_⟩
  intro field hfield value hvalue
  rcases List.mem_append.mp hfield with hfield | hfield
  · -- the two entries of the signed material are none of the identity
    have hother : field ≠ "sod_sha256" ∧ field ≠ "sod_signature_verified" := by
      simp only [identityFields, List.mem_cons, List.not_mem_nil, or_false] at hfield
      rcases hfield with rfl | rfl | rfl | rfl | rfl <;> decide
    have hsame : (new.get field).any (· == value) = true := by
      rw [← Bool.not_eq_false]
      intro hchanged
      exact hidentity ⟨field, hfield, value, hvalue, hchanged⟩
    obtain ⟨value', hget, heq⟩ := (Option.any_eq_true _ _).mp hsame
    refine ⟨value', ?_, heq⟩
    rw [recorded_congr ((hkeepSecond _ hother.2).trans (hkeepFirst _ hother.1))]
    exact recorded_eq_some.mpr ⟨hget, isNull_of_beq heq (recorded_eq_some.mp hvalue).2⟩
  · simp only [signedFields, List.mem_cons, List.not_mem_nil, or_false] at hfield
    rcases hfield with rfl | rfl
    · rw [recorded_congr (hkeepSecond _ (by decide))]
      exact hsha value hvalue
    · exact hverified value hvalue

/-! ## What answers amount to -/

/-- The job of a row of answers: the first one's, refreshed by each later one. -/
def jobOf : List PhysicalDocumentResult → Option Value
  | [] => none
  | first :: rest =>
      rest.foldl (fun job result =>
        job.bind fun previous => (preserveSignedPhysicalMaterial previous result.job).toOption)
        (some first.job)

/-- The trace of a row of answers: their routes, when the first one has a route. -/
def traceOf : List PhysicalDocumentResult → Option Value
  | [] => none
  | first :: rest =>
      first.route.map fun _ =>
        .array ((first :: rest).filterMap fun result =>
          result.route.map PhysicalDocumentRoute.toValue)

theorem jobOf_append {kept : List PhysicalDocumentResult} (h : kept ≠ [])
    (result : PhysicalDocumentResult) :
    jobOf (kept ++ [result]) = (jobOf kept).bind fun previous =>
      (preserveSignedPhysicalMaterial previous result.job).toOption := by
  cases kept with
  | nil => exact absurd rfl h
  | cons first rest => rw [List.cons_append, jobOf, List.foldl_append]; rfl

/-- Later answers continue the job of the earlier ones. -/
theorem jobOf_lasting {kept : List PhysicalDocumentResult} (h : kept ≠ [])
    (more : List PhysicalDocumentResult) {old new : Json.Map}
    (hold : jobOf kept = some (.object old)) (hnew : jobOf (kept ++ more) = some (.object new)) :
    Lasting old new := by
  induction more using List.reverseRecOn generalizing new with
  | nil =>
      rw [List.append_nil, hold, Option.some.injEq, Json.Value.object.injEq] at hnew
      rw [hnew]
      exact Lasting.refl new
  | append_singleton more result ih =>
      have hne : kept ++ more ≠ [] := by simp [h]
      rw [← List.append_assoc, jobOf_append hne, Option.bind_eq_some_iff] at hnew
      obtain ⟨previous, hprevious, hresult⟩ := hnew
      cases hpreserved : preserveSignedPhysicalMaterial previous result.job with
      | error e =>
          rw [hpreserved] at hresult
          cases hresult
      | ok job =>
          rw [hpreserved] at hresult
          cases hresult
          obtain ⟨before, after, rfl, hafter, hlasting⟩ := preserve_eq_ok hpreserved
          rw [Json.Value.object.injEq] at hafter
          rw [hafter]
          exact (ih hprevious).trans hlasting

/-- A later trace continues an earlier one by the routes of the answers between them. -/
def TraceGrows (old new : Option Value) (more : List PhysicalDocumentResult) : Prop :=
  (old = none ∧ new = none) ∨
    ∃ trace, old = some (.array trace) ∧
      new = some (.array (trace ++ more.filterMap fun result =>
        result.route.map PhysicalDocumentRoute.toValue))

theorem traceOf_grows {kept : List PhysicalDocumentResult} (h : kept ≠ [])
    (more : List PhysicalDocumentResult) :
    TraceGrows (traceOf kept) (traceOf (kept ++ more)) more := by
  cases kept with
  | nil => exact absurd rfl h
  | cons first rest =>
      rw [List.cons_append, traceOf, traceOf]
      cases first.route with
      | none => exact .inl ⟨rfl, rfl⟩
      | some route =>
          refine .inr ⟨_, rfl, ?_⟩
          rw [Option.map_some, ← List.cons_append, List.filterMap_append]

/-! ## Runs -/

/-- An instance, with the answers of the provider that it has taken over. -/
structure PhysicalInstance where
  record : FlowInstanceRecord
  kept : List PhysicalDocumentResult

/-- A request to advance a physical document, with the providers that are asked. -/
structure PhysicalCall extends AdvanceCall where
  providers : FlowProviderRegistry

section

variable (packages : Packages)

/-- An advance as the service runs it: first the provider, then the flow. -/
def advancePhysicalRecord (record : FlowInstanceRecord) (call : PhysicalCall) :
    Option FlowInstanceRecord := do
  let outcome ← (parseOutcome call.request.stepResult).toOption
  let sideEffected ← (applyPhysicalAdvanceSideEffect call.providers call.definition record
    outcome call.request.data).toOption
  (advanceInstanceRecord packages call.definition sideEffected call.request call.actor
    call.now).toOption

/-- The answer that an advance of a record takes over. -/
def takenAnswer (record : FlowInstanceRecord) (call : PhysicalCall) :
    Option PhysicalDocumentResult := do
  let outcome ← (parseOutcome call.request.stepResult).toOption
  (← (advanceAnswer call.providers call.definition record outcome call.request.data).toOption)

/-- The instance after a call: the advanced one, or the same one when the call fails. -/
def applyPhysicalCall (state : PhysicalInstance) (call : PhysicalCall) : PhysicalInstance :=
  match advancePhysicalRecord packages state.record call with
  | none => state
  | some updated => ⟨updated, state.kept ++ (takenAnswer state.record call).toList⟩

def runPhysical (state : PhysicalInstance) (calls : List PhysicalCall) : PhysicalInstance :=
  calls.foldl (applyPhysicalCall packages) state

/-- The instance as the provider's first answer leaves it. -/
def startPhysical (providers : FlowProviderRegistry) (definition : FlowDefinitionRecord)
    (record : FlowInstanceRecord) (startIdempotencyKey issuerDid : Option String) :
    SideEffect PhysicalInstance := do
  let result ← initialAnswer providers definition record startIdempotencyKey issuerDid
  let started ← takeInitialAnswer record result
  return ⟨started, [result]⟩

/-- The job and the trace of an instance are those of the answers that it has taken over. -/
structure ProviderOwned (state : PhysicalInstance) : Prop where
  kept : state.kept ≠ []
  context : ∃ context, state.record.context = .object context
  job : ∃ job, jobOf state.kept = some (.object job) ∧
    state.record.entry jobKey = some (.object job)
  trace : state.record.entry routeTraceKey = traceOf state.kept

/-- No client entry takes the job's place. -/
def LeavesJob (request : AdvanceFlowRequest) : Prop := request.data.get jobKey = none

variable {packages} in
theorem startPhysical_owned {providers : FlowProviderRegistry}
    {definition : FlowDefinitionRecord} {record : FlowInstanceRecord}
    {startIdempotencyKey issuerDid : Option String} {state : PhysicalInstance}
    (h : startPhysical providers definition record startIdempotencyKey issuerDid = .ok state) :
    ProviderOwned state := by
  simp only [startPhysical, takeInitialAnswer, bind_eq_ok, pure, Except.pure,
    Except.ok.injEq] at h
  obtain ⟨result, -, started, ⟨applicationId, -, context, hcontext, rfl⟩, rfl⟩ := h
  exact {
    kept := by simp
    context := ⟨_, rfl⟩
    job := by
      refine ⟨result.data.entries, rfl, ?_⟩
      rw [FlowInstanceRecord.entry, Json.Value.get_object, Json.Map.get_insert,
        if_neg (by decide), Json.Map.get_insert, if_pos rfl]
      rfl
    trace := by
      rw [FlowInstanceRecord.entry, Json.Value.get_object, Json.Map.get_insert,
        if_neg (by decide), Json.Map.get_insert, if_neg (by decide), traceOf]
      cases hroute : result.route with
      | none =>
          rw [startRouteTrace, Json.Map.get_remove, if_pos rfl]
          rfl
      | some route =>
          rw [startRouteTrace, Json.Map.get_insert, if_pos rfl]
          simp [hroute] }

/-- **An answer that is taken over** continues the job and the trace. -/
theorem takeAnswer_owned {state : PhysicalInstance} {result : PhysicalDocumentResult}
    {record : FlowInstanceRecord} (h : ProviderOwned state)
    (htake : takeAnswer state.record (some result) = .ok record) :
    ProviderOwned ⟨record, state.kept ++ [result]⟩ := by
  simp only [takeAnswer, bind_eq_ok, okOr_eq_ok, pure, Except.pure, Except.ok.injEq] at htake
  obtain ⟨context, hcontext, traced, htraced, previous, hprevious, job, hjob, rfl⟩ := htake
  rw [contextOf, okOr_eq_ok] at hcontext
  have hcontext' := asObject_eq_some hcontext
  obtain ⟨old, hjobOf, hentry⟩ := h.job
  have htrace := h.trace
  rw [FlowInstanceRecord.entry, hcontext', Json.Value.get_object] at htrace hentry
  have hgrown : traced.get routeTraceKey = traceOf (state.kept ++ [result]) ∧
      traced.get jobKey = context.get jobKey := by
    unfold recordPhysicalRoute at htraced
    rw [htrace] at htraced
    rcases traceOf_grows h.kept [result] with ⟨hnone, hnone'⟩ | ⟨trace, hsome, hsome'⟩
    · rw [hnone] at htraced
      split at htraced
      · cases htraced
        exact ⟨by rw [htrace, hnone, hnone'], rfl⟩
      · next hroute _ => cases hroute
      · cases htraced
    · rw [hsome] at htraced
      split at htraced
      · next hroute _ => cases hroute
      · next hroute hresult =>
          cases hroute
          cases htraced
          constructor
          · rw [Json.Map.get_insert, if_pos rfl, hsome']
            simp [hresult]
          · rw [Json.Map.get_insert, if_neg (by decide)]
      · cases htraced
  have hprevious' : previous = .object old := by
    rw [hgrown.2, hentry] at hprevious
    exact (Option.some.inj hprevious).symm
  obtain ⟨-, new, -, rfl, -⟩ := preserve_eq_ok hjob
  exact {
    kept := by simp
    context := ⟨_, rfl⟩
    job := by
      refine ⟨new, ?_, ?_⟩
      · rw [jobOf_append h.kept, hjobOf, Option.bind_some, ← hprevious', hjob]
        rfl
      · rw [FlowInstanceRecord.entry, Json.Value.get_object, Json.Map.get_insert, if_pos rfl]
    trace := by
      rw [FlowInstanceRecord.entry, Json.Value.get_object, Json.Map.get_insert,
        if_neg (by decide)]
      exact hgrown.1 }

variable {packages} in
/-- **An advance** leaves the entries of the provider alone, unless the client's data takes the
job's place. -/
theorem advance_owned {state : PhysicalInstance} {call : AdvanceCall}
    {updated : FlowInstanceRecord} (h : ProviderOwned state) (hleaves : LeavesJob call.request)
    (hadvance : advanceInstanceRecord packages call.definition state.record call.request
      call.actor call.now = .ok updated) :
    ProviderOwned ⟨updated, state.kept⟩ := by
  obtain ⟨_, _, _, _, _, context, data, _, _, _, _, hadvanced⟩ := advance_eq_ok packages hadvance
  have hvalid := hadvanced.validated
  simp only [AdvanceFlowRequest.validate, bind_eq_ok, exists_unit, rejectIf_eq_ok] at hvalid
  obtain ⟨-, -, hroute, -⟩ := hvalid
  rw [hadvanced.data_eq, Json.Value.get_object, Bool.not_eq_true, Option.isSome_eq_false_iff,
    Option.isNone_iff_eq_none] at hroute
  rw [LeavesJob, hadvanced.data_eq, Json.Value.get_object] at hleaves
  have hentry : ∀ key, key ∉ protocolContextKeys → data.get key = none →
      updated.entry key = state.record.entry key := by
    intro key hkey hdata
    rw [hadvanced.entry packages hkey,
      Json.Map.get_extend_of_notMem (Json.Map.get_eq_none.mp hdata), FlowInstanceRecord.entry,
      hadvanced.context_eq, Json.Value.get_object]
  obtain ⟨job, hjobOf, hjob⟩ := h.job
  exact {
    kept := h.kept
    context := ⟨_, by rw [hadvanced.record_eq]; rfl⟩
    job := ⟨job, hjobOf, by rw [hentry jobKey (by decide) hleaves, hjob]⟩
    trace := by rw [hentry routeTraceKey (by decide) hroute, h.trace] }

theorem applyPhysicalCall_owned {state : PhysicalInstance} {call : PhysicalCall}
    (h : ProviderOwned state) (hleaves : LeavesJob call.request) :
    ProviderOwned (applyPhysicalCall packages state call) := by
  rw [applyPhysicalCall]
  split
  · exact h
  · next updated hupdated =>
      simp only [advancePhysicalRecord, Option.bind_eq_bind, Option.bind_eq_some_iff,
        toOption_eq_some] at hupdated
      obtain ⟨outcome, houtcome, record, hrecord, hadvance⟩ := hupdated
      simp only [applyPhysicalAdvanceSideEffect, bind_eq_ok] at hrecord
      obtain ⟨answer, hanswer, htake⟩ := hrecord
      have htaken : takenAnswer state.record call = answer := by
        simp [takenAnswer, houtcome, hanswer, Except.toOption]
      rw [htaken]
      cases answer with
      | none =>
          cases htake
          rw [Option.toList_none, List.append_nil]
          exact advance_owned h hleaves hadvance
      | some result =>
          rw [Option.toList_some]
          exact advance_owned (takeAnswer_owned h htake) hleaves hadvance

theorem runPhysical_cons (state : PhysicalInstance) (call : PhysicalCall)
    (calls : List PhysicalCall) :
    runPhysical packages state (call :: calls) =
      runPhysical packages (applyPhysicalCall packages state call) calls :=
  List.foldl_cons ..

theorem runPhysical_append (state : PhysicalInstance) (calls calls' : List PhysicalCall) :
    runPhysical packages state (calls ++ calls') =
      runPhysical packages (runPhysical packages state calls) calls' :=
  List.foldl_append

theorem kept_applyPhysicalCall (state : PhysicalInstance) (call : PhysicalCall) :
    ∃ more, (applyPhysicalCall packages state call).kept = state.kept ++ more := by
  rw [applyPhysicalCall]
  split
  · exact ⟨[], (List.append_nil _).symm⟩
  · exact ⟨_, rfl⟩

/-- **Run rule**: the entries stay the provider's, and the answers are only added to. -/
theorem runPhysical_owned {calls : List PhysicalCall} {state : PhysicalInstance}
    (h : ProviderOwned state) (hleaves : ∀ call ∈ calls, LeavesJob call.request) :
    ProviderOwned (runPhysical packages state calls) ∧
      ∃ more, (runPhysical packages state calls).kept = state.kept ++ more := by
  induction calls generalizing state with
  | nil => exact ⟨h, [], (List.append_nil _).symm⟩
  | cons call calls ih =>
      have hcall := applyPhysicalCall_owned packages h (hleaves call List.mem_cons_self)
      obtain ⟨howned, more, hmore⟩ := ih hcall fun c hc => hleaves c (List.mem_cons_of_mem _ hc)
      obtain ⟨first, hfirst⟩ := kept_applyPhysicalCall packages state call
      rw [runPhysical_cons]
      refine ⟨howned, first ++ more, ?_⟩
      rw [hmore, hfirst, List.append_assoc]

/-- **The state of the provider survives every step** whose client data leaves the job alone:
at any two moments of a run the job and the trace are those of the answers taken over so far,
what the earlier job records the later one records too, and the trace has grown by the routes
of the answers between them. -/
theorem provider_state_survives {providers : FlowProviderRegistry}
    {definition : FlowDefinitionRecord} {record : FlowInstanceRecord}
    {startIdempotencyKey issuerDid : Option String} {state : PhysicalInstance}
    (hstart : startPhysical providers definition record startIdempotencyKey issuerDid = .ok state)
    {calls calls' : List PhysicalCall}
    (hleaves : ∀ call ∈ calls ++ calls', LeavesJob call.request) :
    ∃ more old new,
      (runPhysical packages state (calls ++ calls')).kept =
        (runPhysical packages state calls).kept ++ more ∧
      jobOf (runPhysical packages state calls).kept = some (.object old) ∧
      (runPhysical packages state calls).record.entry jobKey = some (.object old) ∧
      jobOf (runPhysical packages state (calls ++ calls')).kept = some (.object new) ∧
      (runPhysical packages state (calls ++ calls')).record.entry jobKey = some (.object new) ∧
      Lasting old new ∧
      (runPhysical packages state calls).record.entry routeTraceKey =
        traceOf (runPhysical packages state calls).kept ∧
      TraceGrows ((runPhysical packages state calls).record.entry routeTraceKey)
        ((runPhysical packages state (calls ++ calls')).record.entry routeTraceKey) more := by
  obtain ⟨hbefore, -⟩ := runPhysical_owned packages (startPhysical_owned hstart)
    fun call hcall => hleaves call (List.mem_append_left _ hcall)
  obtain ⟨hafter, more, hmore⟩ := runPhysical_owned packages hbefore
    fun call hcall => hleaves call (List.mem_append_right _ hcall)
  rw [← runPhysical_append] at hafter hmore
  obtain ⟨old, hold, hentry⟩ := hbefore.job
  obtain ⟨new, hnew, hentry'⟩ := hafter.job
  refine ⟨more, old, new, hmore, hold, hentry, hnew, hentry', ?_, hbefore.trace, ?_⟩
  · rw [hmore] at hnew
    exact jobOf_lasting hbefore.kept more hold hnew
  · have htrace := traceOf_grows hbefore.kept more
    rw [← hbefore.trace] at htrace
    have hlater := hafter.trace
    rw [hmore] at hlater
    rw [← hlater] at htrace
    exact htrace

end

namespace Example

/-- A document whose object is signed in the first step. -/
def physicalDefinition : FlowDefinitionRecord :=
  { definition with
    flowType := .physicalDocumentIssuance
    steps := [.object [("id", .string "step-1"), ("name", .string "sign_sod")], endStep]
    credentialTemplateId := some "template-2"
    deliveryDestinationProfileId := some "destination-1" }

def physicalStartRequest : StartFlowRequest :=
  { startRequest with
    initialContext := .object [("physical_document", .object [
      ("country_code", .string "USA"), ("applicant", .object [("name", .string "Synthetic")]),
      ("mrz", .object [("line1", .string "P<TEST")]),
      ("data_groups", .object [("DG1", .string "MQ==")])])] }

/-- A provider that has one application. -/
def physicalProviders : FlowProviderRegistry where
  credentialTemplate := none
  physicalDocument := some fun request => .ok {
    operation := request.operation
    status := "DRAFT"
    data := .ofEntries [("id", .string "job-1"), ("application_id", .string "application-1"),
      ("flow_execution_id", .string request.flowInstanceId), ("status", .string "DRAFT")]
    route := some ⟨"POST", "/v1/passport/applications"⟩ }

/-- The instance as the provider's first answer leaves it. -/
def physicalStart : Option PhysicalInstance :=
  (startInstanceRecord packages physicalDefinition physicalStartRequest "client" 0
    "instance-1").toOption.bind fun record =>
      (startPhysical physicalProviders physicalDefinition record none
        (some "did:web:issuer.example")).toOption

def physicalCall (data : Json.Map) : PhysicalCall :=
  ⟨⟨physicalDefinition, ⟨"success", .object data⟩, "client", 60000000000⟩, physicalProviders⟩

end Example

/-- An instance keeps its job when its object is signed. -/
theorem provider_state_survives_signed :
    ∃ state, Example.physicalStart = some state ∧
      (runPhysical Example.packages state [Example.physicalCall []]).record.status
        = .completed ∧
      ∃ more old new,
        (runPhysical Example.packages state [Example.physicalCall []]).kept =
          state.kept ++ more ∧
        state.record.entry jobKey = some (.object old) ∧
        (runPhysical Example.packages state [Example.physicalCall []]).record.entry jobKey =
          some (.object new) ∧
        Lasting old new := by
  have hdone : (Example.physicalStart.map fun state =>
      (runPhysical Example.packages state [Example.physicalCall []]).record.status)
        = some .completed := by
    decide +kernel
  cases hstart : Example.physicalStart with
  | none =>
      rw [hstart] at hdone
      cases hdone
  | some state =>
      rw [hstart] at hdone
      refine ⟨state, rfl, Option.some.inj hdone, ?_⟩
      rw [Example.physicalStart, Option.bind_eq_some_iff] at hstart
      obtain ⟨record, -, hstarted⟩ := hstart
      have hleaves : ∀ call ∈ ([] : List PhysicalCall) ++ [Example.physicalCall []],
          LeavesJob call.request := by
        intro call hcall
        rw [List.nil_append, List.mem_singleton] at hcall
        rw [hcall]
        rfl
      obtain ⟨more, old, new, hkept, -, hold, -, hnew, hlasting, -⟩ :=
        provider_state_survives Example.packages (toOption_eq_some.mp hstarted) hleaves
      exact ⟨more, old, new, hkept, hold, hnew, hlasting⟩

/-- A client replaces the job: the provider's answer is taken over first, and the client's
data is merged over it. -/
theorem provider_state_replaced :
    (Example.physicalStart.map fun state =>
      let forged := Json.Value.object [("application_id", .string "application-2")]
      let replaced := runPhysical Example.packages state
        [Example.physicalCall [("physical_document_job", forged)]]
      (((state.record.entry jobKey).bind (·.get "application_id")).bind Json.Value.asStr,
        replaced.record.status, replaced.record.entry jobKey == some forged,
        jobOf replaced.kept == some forged))
      = some (some "application-1", .completed, true, false) := by
  decide +kernel

end Marty.Flow
