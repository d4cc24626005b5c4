import Marty.Flow.Runs

/-!
# Approval evidence cannot be forged

The preconditions of a flow are judged by one reserved entry of the context.  No request can
write a reserved entry, so the evidence that an approval finds is what the server placed
there when it started the instance.

## Main definitions

* `EvidenceProtected` — what holds of the reserved entries after any calls.
-/

namespace Marty.Flow

open Lib Lib.Checked

variable (packages : Packages)

/-! ## Reserved keys -/

theorem isPrivateContextKey_evidence : isPrivateContextKey preconditionEvidenceKey = true := by
  decide +kernel

/-- The service writes no reserved entry as an instance moves. -/
theorem notMem_protocolContextKeys {key : String} (hkey : isPrivateContextKey key = true) :
    key ∉ protocolContextKeys := by
  have hpublic : ∀ k ∈ protocolContextKeys, isPrivateContextKey k = false := by decide +kernel
  intro hmem
  rw [hpublic key hmem] at hkey
  cases hkey

/-- **A start takes its reserved entries** from the server alone. -/
theorem start_private {definition : FlowDefinitionRecord} {request : StartFlowRequest}
    {actor : String} {now : Utc} {trustedContext : Json.Map} {id : String}
    {record : FlowInstanceRecord}
    (h : startInstanceRecordWithTrustedContext packages definition request actor now
      trustedContext id = .ok record)
    {key : String} (hkey : isPrivateContextKey key = true) :
    record.entry key = (Json.Map.extend [] trustedContext).get key := by
  obtain ⟨initial, extensionOnly, expiresAt, hstart⟩ := start_eq_ok packages h
  obtain ⟨entries, heq, hpublic⟩ := StartFlowRequest.validate_eq_ok packages hstart.validated
  have hinitial : initial = entries := by simpa [hstart.initial_eq] using heq
  have hnone : initial.get key = Json.Map.get [] key := by
    rw [Json.Map.get_nil, Json.Map.get_eq_none, hinitial]
    rintro e he rfl
    rw [hpublic e he] at hkey
    cases hkey
  rw [hstart.entry packages (notMem_protocolContextKeys hkey)]
  exact Json.Map.get_extend_congr hnone trustedContext

/-- **An advance leaves the reserved entries** as they are. -/
theorem advance_private {definition : FlowDefinitionRecord}
    {record updated : FlowInstanceRecord} {request : AdvanceFlowRequest} {actor : String}
    {now : Utc}
    (h : advanceInstanceRecord packages definition record request actor now = .ok updated)
    {key : String} (hkey : isPrivateContextKey key = true) :
    updated.entry key = record.entry key := by
  obtain ⟨graph, currentStepId, outcome, kernel, resumed, context, data, nowMs, nextStepId,
    position, completedAt, hadvance⟩ := advance_eq_ok packages h
  obtain ⟨entries, heq, hpublic, -⟩ := AdvanceFlowRequest.validate_eq_ok packages
    hadvance.validated
  have hdata : data = entries := by simpa [hadvance.data_eq] using heq
  rw [hadvance.entry packages (notMem_protocolContextKeys hkey)]
  rw [FlowInstanceRecord.entry, hadvance.context_eq, Json.Value.get_object]
  apply Json.Map.get_extend_of_notMem
  rintro e he rfl
  rw [hpublic e (hdata ▸ he)] at hkey
  cases hkey

/-! ## Preconditions -/

theorem verifyPreconditions_eq_ok {required : List String} {context : Json.Map} :
    verifyPreconditions packages required context = .ok () ↔
      ∀ name ∈ required, preconditionMet packages name (evidenceOf context) = true := by
  simp only [verifyPreconditions, rejectIf_eq_ok, not_not, List.filter_eq_nil_iff,
    Bool.not_eq_true', Bool.not_eq_false]
  constructor
  · intro h name hname
    exact h name ((BTreeSet.mem_def _ _).mp ((BTreeSet.mem_ofList _ _).mpr hname))
  · intro h name hname
    exact h name ((BTreeSet.mem_ofList _ _).mp ((BTreeSet.mem_def _ _).mpr hname))

/-- Without evidence no precondition is met. -/
theorem preconditionMet_none (name : String) : preconditionMet packages name none = false := by
  simp [preconditionMet]

/-! ## Runs -/

/-- The reserved entries of a record come from the server's context, and approval steps are
left only with the evidence in it; without such a context nothing can require approval. -/
structure EvidenceProtected (definition : FlowDefinitionRecord) (trustedContext : Json.Map)
    (record : FlowInstanceRecord) : Prop where
  reserved : ∀ key, isPrivateContextKey key = true →
    record.entry key = (Json.Map.extend [] trustedContext).get key
  unforged : trustedContext = [] → record.entry preconditionEvidenceKey = none
  unconditional : trustedContext = [] →
    definition.preconditions = [] ∧ applicationApprovedTrigger definition = false ∧
      ∀ step ∈ definition.steps, stepType step = some "approval" →
        configuredPreconditions step = []
  approved : ∀ (call : AdvanceCall) (updated : FlowInstanceRecord),
    advanceInstanceRecord packages call.definition record call.request call.actor call.now
      = .ok updated →
    ∀ currentStepId step index, record.currentStepId = some currentStepId →
      call.definition.findStep currentStepId = some (step, index) →
      stepType step = some "approval" →
      ∀ name ∈ stepPreconditions call.definition step,
        preconditionMet packages name (evidenceOf (Json.Map.extend [] trustedContext)) = true

/-- **Approval evidence is the server's**: after a start with a context of the server's, empty
or not, and any calls under any definitions. -/
theorem evidence_protected {definition : FlowDefinitionRecord} {request : StartFlowRequest}
    {actor : String} {now : Utc} {trustedContext : Json.Map} {id : String}
    {record : FlowInstanceRecord}
    (hstart : startInstanceRecordWithTrustedContext packages definition request actor now
      trustedContext id = .ok record) (calls : List AdvanceCall) :
    EvidenceProtected packages definition trustedContext (runCalls packages record calls) := by
  have hreserved : ∀ key, isPrivateContextKey key = true →
      (runCalls packages record calls).entry key =
        (Json.Map.extend [] trustedContext).get key := by
    refine runCalls_induct packages (P := fun r => ∀ key, isPrivateContextKey key = true →
      r.entry key = (Json.Map.extend [] trustedContext).get key) ?_ ?_
    · intro r updated call _ hr hadvance key hkey
      rw [advance_private packages hadvance hkey, hr key hkey]
    · intro key hkey
      exact start_private packages hstart hkey
  have hevidence := hreserved _ isPrivateContextKey_evidence
  refine ⟨hreserved, ?_, ?_, ?_⟩
  · rintro rfl
    exact hevidence
  · rintro rfl
    obtain ⟨initial, extensionOnly, expiresAt, hstarted⟩ := start_eq_ok packages hstart
    have hnone : evidenceOf initial = none := by
      have hentry := hstarted.entry packages
        (notMem_protocolContextKeys isPrivateContextKey_evidence)
      rw [start_private packages hstart isPrivateContextKey_evidence] at hentry
      rw [evidenceOf]
      exact congrArg (Option.bind · Json.Value.asObject) hentry.symm
    have hmet := (verifyPreconditions_eq_ok packages).mp hstarted.preconditions
    have hempty : startPreconditions definition = [] := by
      apply List.eq_nil_iff_forall_not_mem.mpr
      intro name hname
      have := hmet name hname
      rw [show initial.extend [] = initial from rfl, hnone, preconditionMet_none] at this
      cases this
    simp only [startPreconditions, List.append_eq_nil_iff, List.flatMap_eq_nil_iff,
      List.mem_filter, beq_iff_eq, and_imp] at hempty
    refine ⟨hempty.1.1, ?_, hempty.2⟩
    by_contra htrigger
    simp [htrigger] at hempty
  · intro call updated hadvance currentStepId step index hcurrent hstep happroval name hname
    obtain ⟨graph, currentStepId', outcome, kernel, resumed, context, data, nowMs, nextStepId,
      position, completedAt, hadvanced⟩ := advance_eq_ok packages hadvance
    have hsame : currentStepId' = currentStepId :=
      Option.some.inj (hadvanced.current.symm.trans hcurrent)
    have hrequired := hadvanced.preconditions
    rw [requireCurrentStepPreconditions, hsame, hstep] at hrequired
    simp only [happroval, if_true, verifyPreconditions_eq_ok] at hrequired
    have hfound : evidenceOf context = evidenceOf (Json.Map.extend [] trustedContext) := by
      rw [FlowInstanceRecord.entry, hadvanced.context_eq] at hevidence
      exact congrArg (Option.bind · Json.Value.asObject) hevidence
    rw [← hfound]
    exact hrequired name hname

/-- A review that was started with an approval event is completed; its evidence is the
server's. -/
theorem evidence_protected_review :
    ∃ record, startInstanceRecordWithTrustedContext Example.packages Example.definition
        Example.startRequest "server" 0 Example.trustedContext "instance-1" = .ok record ∧
      (runCalls Example.packages record
        [⟨Example.definition, Example.advanceRequest, "client", 60000000000⟩]).status
          = .completed ∧
      EvidenceProtected Example.packages Example.definition Example.trustedContext
        (runCalls Example.packages record
          [⟨Example.definition, Example.advanceRequest, "client", 60000000000⟩]) := by
  have hdone : ((startInstanceRecordWithTrustedContext Example.packages Example.definition
      Example.startRequest "server" 0 Example.trustedContext "instance-1").toOption.map
        fun record => (runCalls Example.packages record
          [⟨Example.definition, Example.advanceRequest, "client", 60000000000⟩]).status)
      = some .completed := by
    decide +kernel
  cases hstart : startInstanceRecordWithTrustedContext Example.packages Example.definition
      Example.startRequest "server" 0 Example.trustedContext "instance-1" with
  | error e =>
      rw [hstart] at hdone
      cases hdone
  | ok record =>
      rw [hstart] at hdone
      exact ⟨record, rfl, Option.some.inj hdone,
        evidence_protected Example.packages hstart _⟩

end Marty.Flow
