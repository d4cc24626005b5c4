import Marty.Flow.Runs
import Mathlib.Data.List.Chain

/-!
# The histories describe the instance

An instance keeps one history of its statuses and one of its steps.  After any calls the
first leads, link by link, to the status of the instance, and the second is a path through
the definition's graph to its current step.

## Main definitions

* `StatesDescribe` — a history of statuses that ends in a status.
* `Follows` — a completed step and one that its result leads to.
* `HistoriesDescribe` — what both histories say of a record.
-/

namespace Marty.Flow

open Lib Lib.Checked

section

variable (packages : Packages)

/-! ## The history of statuses -/

/-- The statuses before and after each change. -/
def FlowInstance.states (kernel : FlowInstance) :
    List (Option FlowInstanceStatus × FlowInstanceStatus) :=
  kernel.stateHistory.map fun entry => (entry.priorState, entry.newState)

/-- Each change starts where the one before it ended, the first one from nowhere, and the last
one ends in `status`. -/
structure StatesDescribe (states : List (Option FlowInstanceStatus × FlowInstanceStatus))
    (status : FlowInstanceStatus) : Prop where
  first : states.head?.map Prod.fst = some none
  chain : states.IsChain fun a b => b.1 = some a.2
  last : states.getLast?.map Prod.snd = some status

theorem StatesDescribe.append
    {states : List (Option FlowInstanceStatus × FlowInstanceStatus)}
    {status : FlowInstanceStatus} (h : StatesDescribe states status)
    (target : FlowInstanceStatus) :
    StatesDescribe (states ++ [(some status, target)]) target := by
  refine ⟨?_, ?_, ?_⟩
  · have hfirst := h.first
    cases states with
    | nil => cases hfirst
    | cons a states => exact hfirst
  · refine List.isChain_append.mpr ⟨h.chain, List.isChain_singleton _, ?_⟩
    intro a ha b hb
    have hlast : a.2 = status := by
      have := h.last
      rw [Option.mem_def.mp ha] at this
      exact Option.some.inj this
    rw [List.head?_singleton, Option.mem_def, Option.some.injEq] at hb
    rw [← hb, hlast]
  · rw [List.getLast?_append]
    rfl

/-- The library of status rules reports the move that it was asked for. -/
structure ReportsMoves : Prop where
  prior : ∀ request decision, packages.evaluateTransition request = .ok decision →
    decision.priorState = request.current
  target : ∀ request decision, packages.evaluateTransition request = .ok decision →
    decision.newState = request.target
  terminal : ∀ request decision, packages.evaluateTransition request = .ok decision →
    decision.terminal = request.target.isTerminal
  noOp : ∀ request decision, packages.evaluateTransition request = .ok decision →
    decision.noOp = true → request.current = request.target

/-- The statuses of a kernel lead to its own, and it is completed when that is terminal. -/
structure LifeDescribed (kernel : FlowInstance) : Prop where
  states : StatesDescribe kernel.states kernel.status
  ended : kernel.completedAtMs.isSome = kernel.status.isTerminal

/-- **A status change is described** by the entry that it adds. -/
theorem transition_described (hmoves : ReportsMoves packages) {kernel moved : FlowInstance}
    {target : FlowInstanceStatus} {actor event : String} {nowMs : Nat}
    (hlife : LifeDescribed kernel) (hlive : kernel.status.isTerminal = false)
    (h : transition packages kernel target actor event nowMs = .ok moved) :
    LifeDescribed moved ∧ moved.status = target := by
  rw [transition, mapError_eq_ok, FlowInstance.transitionTo] at h
  split at h
  · cases h
  · next decision hdecision =>
      have hprior : decision.priorState = kernel.status := hmoves.prior _ _ hdecision
      have htarget : decision.newState = target := hmoves.target _ _ hdecision
      have hterminal : decision.terminal = target.isTerminal := hmoves.terminal _ _ hdecision
      rw [Except.ok.injEq] at h
      split at h
      · next hnoOp =>
          subst h
          exact ⟨hlife, hmoves.noOp _ _ hdecision hnoOp⟩
      · subst h
        refine ⟨⟨?_, ?_⟩, htarget⟩
        · have happend := hlife.states.append decision.newState
          rw [← hprior] at happend
          simpa [FlowInstance.states] using happend
        · have hnone : kernel.completedAtMs.isSome = false := hlife.ended.trans hlive
          cases hend : decision.terminal with
          | true => simp [htarget, ← hterminal, hend]
          | false => simpa [htarget, ← hterminal, hend] using hnone

/-- What an entry says of the statuses, as it is stored. -/
def valueStates (entry : Value) : Option FlowInstanceStatus × Option FlowInstanceStatus :=
  ((entry.get "prior_state").bind FlowInstanceStatus.ofValue,
    (entry.get "new_state").bind FlowInstanceStatus.ofValue)

theorem valueStates_toValue (entry : StateHistoryEntry) :
    valueStates entry.toValue = (entry.priorState, some entry.newState) := by
  have hprior : entry.toValue.get "prior_state" =
      some (.ofOption FlowInstanceStatus.toValue entry.priorState) := rfl
  have hnew : entry.toValue.get "new_state" = some entry.newState.toValue := rfl
  rw [valueStates, hprior, hnew, Option.bind_some, Option.bind_some,
    FlowInstanceStatus.ofValue_toValue]
  cases entry.priorState with
  | none => rfl
  | some status =>
      exact congrArg (·, some entry.newState) (FlowInstanceStatus.ofValue_toValue status)

theorem parseStateHistory_states {value : Value × Nat} {entry : StateHistoryEntry}
    (h : parseStateHistory packages value = .ok entry) :
    (entry.priorState, some entry.newState) = valueStates value.1 := by
  simp only [parseStateHistory, object, bind_eq_ok, okOr_eq_ok, pure, Except.pure,
    Except.ok.injEq] at h
  obtain ⟨history, hobject, priorState, hprior, newState, hnew, _, -, _, -, rfl⟩ := h
  have hget : ∀ key, value.1.get key = history.get key := by
    intro key
    rw [Json.Value.get, hobject]
    rfl
  have hparsed : priorState = (history.get "prior_state").bind FlowInstanceStatus.ofValue := by
    simp only [parsePriorState] at hprior
    split at hprior
    · next hnone => rw [hnone]; exact (Except.ok.inj hprior).symm
    · next hnull => rw [hnull]; exact (Except.ok.inj hprior).symm
    · next hsome =>
        cases hvalue : FlowInstanceStatus.ofValue _ with
        | none =>
            rw [hvalue] at hprior
            cases hprior
        | some status =>
            rw [hvalue] at hprior
            rw [hsome, Option.bind_some, hvalue]
            exact (Except.ok.inj hprior).symm
  rw [valueStates, hget, hget, ← hparsed, hnew]

/-- The statuses that a record's kernel reads are those that the record stores. -/
theorem kernel_states {record : FlowInstanceRecord} {kernel : FlowInstance}
    (h : record.kernel packages = .ok kernel) :
    kernel.states.map (fun s => (s.1, some s.2)) = record.stateHistory.map valueStates ∧
      kernel.status = record.status ∧
      kernel.completedAtMs.isSome = record.completedAt.isSome := by
  simp only [FlowInstanceRecord.kernel, bind_eq_ok, exists_unit, pure, Except.pure,
    Except.ok.injEq] at h
  obtain ⟨-, stateHistory, hhistory, _, -, completedAtMs, hcompleted, rfl⟩ := h
  refine ⟨?_, rfl, ?_⟩
  · have hmap := map_mapEach (k := fun e => (e.priorState, some e.newState))
      (fun a b => @parseStateHistory_states packages a b) hhistory
    calc (FlowInstance.states _).map (fun s => (s.1, some s.2))
        = stateHistory.map fun e => (e.priorState, some e.newState) := by
          rw [FlowInstance.states, List.map_map]
          rfl
      _ = (record.stateHistory.zipIdx.map Prod.fst).map valueStates := by
          rw [hmap, List.map_map]
          rfl
      _ = record.stateHistory.map valueStates := by rw [List.zipIdx_map_fst]
  · cases hat : record.completedAt with
    | none =>
        rw [hat] at hcompleted
        rw [← Except.ok.inj hcompleted]
        rfl
    | some moment =>
        rw [hat] at hcompleted
        simp only [optionalMillis] at hcompleted
        cases hms : okOr (toU64 moment.timestampMillis) (invalid "timestamp") with
        | error e =>
            rw [hms] at hcompleted
            cases hcompleted
        | ok ms =>
            rw [hms] at hcompleted
            rw [← Except.ok.inj hcompleted]
            rfl

/-! ## The history of steps -/

def stepIdOf (entry : Value) : Option String := (entry.get "step_id").bind Json.Value.asStr

/-- An entry of a step that was left with `result`. -/
structure StepCompleted (entry : Value) (result : String) : Prop where
  result : entry.get "result" = some (.string result)
  completedAt : ∃ time, entry.get "completed_at" = some (.string time)

/-- A completed step, and one that the graph leads to by its result. -/
def Follows (graph : FlowDefinition) (a b : Value) : Prop :=
  ∃ result, StepCompleted a result ∧ ∃ t ∈ graph.transitions,
    stepIdOf a = some t.fromStepId ∧ stepIdOf b = some t.toStepId ∧
      parseOutcome result = .ok t.outcome

/-- A path through the graph whose last entry is the one of a step. -/
def StepsLeadTo (graph : FlowDefinition) (history : List Value) (stepId : String) : Prop :=
  history.IsChain (Follows graph) ∧
    ∃ (before : List Value) (last : Json.Map), history = before ++ [.object last] ∧
      stepIdOf (.object last) = some stepId

theorem completeLast_append (complete : Json.Map → Json.Map) (before : List Value)
    (last : Json.Map) :
    completeLast complete (before ++ [.object last]) = before ++ [.object (complete last)] := by
  induction before with
  | nil => rfl
  | cons entry before ih =>
      cases before with
      | nil => simp only [List.cons_append, List.nil_append, completeLast]
      | cons next before =>
          rw [List.cons_append, List.cons_append, completeLast, ← List.cons_append, ih]
          rfl

/-- Completing the last step keeps the path to it. -/
theorem completeStepHistory_leads {graph : FlowDefinition} {history : List Value}
    {stepId : String} (h : StepsLeadTo graph history stepId) (result : String) (now : Utc) :
    ∃ (before : List Value) (last : Json.Map),
      completeStepHistory packages history result now = before ++ [.object last] ∧
      stepIdOf (.object last) = some stepId ∧ StepCompleted (.object last) result ∧
      (before ++ [Json.Value.object last]).IsChain (Follows graph) := by
  obtain ⟨hchain, before, last, rfl, hid⟩ := h
  have hget : ∀ key, key ≠ "completed_at" → key ≠ "result" →
      Json.Map.get ((last.insert "completed_at" (.string (packages.toRfc3339 now))).insert
        "result" (.string result)) key = last.get key := by
    intro key hcompleted hresult
    rw [Json.Map.get_insert, if_neg hresult, Json.Map.get_insert, if_neg hcompleted]
  have hsame : stepIdOf (.object ((last.insert "completed_at"
      (.string (packages.toRfc3339 now))).insert "result" (.string result)))
        = some stepId := by
    rw [← hid]
    exact congrArg (Option.bind · Json.Value.asStr) (hget "step_id" (by decide) (by decide))
  refine ⟨before, _, completeLast_append _ before last, hsame, ⟨?_, ?_⟩, ?_⟩
  · rw [Json.Value.get_object, Json.Map.get_insert, if_pos rfl]
  · refine ⟨packages.toRfc3339 now, ?_⟩
    rw [Json.Value.get_object, Json.Map.get_insert, if_neg (by decide), Json.Map.get_insert,
      if_pos rfl]
  · rw [List.isChain_append] at hchain ⊢
    refine ⟨hchain.1, List.isChain_singleton _, ?_⟩
    intro a ha b hb
    rw [List.head?_singleton, Option.mem_def, Option.some.injEq] at hb
    obtain ⟨r, hcompleted, t, ht, hfrom, hto, houtcome⟩ := hchain.2.2 a ha _ rfl
    refine ⟨r, hcompleted, t, ht, hfrom, ?_, houtcome⟩
    rw [← hb, hsame, ← hto, hid]

/-- The library of graph rules selects a step that a transition leads to. -/
def SelectsTransitions : Prop :=
  ∀ graph stepId outcome next, packages.selectNextStep graph stepId outcome = .ok (some next) →
    ∃ t ∈ graph.transitions, t.fromStepId = stepId ∧ t.toStepId = next ∧ t.outcome = outcome

/-! ## Both histories -/

/-- The histories of a record describe its status and its position. -/
structure HistoriesDescribe (graph : FlowDefinition) (record : FlowInstanceRecord) : Prop where
  states : ∃ kernel, record.kernel packages = .ok kernel ∧
    StatesDescribe kernel.states record.status
  position : ∃ stepId, record.currentStepId = some stepId ∧
    record.stepHistory.getLast?.bind stepIdOf = some stepId
  completed : ∀ entry ∈ record.stepHistory.dropLast, ∃ result, StepCompleted entry result
  path : record.stepHistory.IsChain (Follows graph)
  ended : record.completedAt.isSome = record.status.isTerminal

/-- What one advance needs of a record and leaves behind. -/
structure Described (graph : FlowDefinition) (record : FlowInstanceRecord) : Prop where
  readable : ∃ kernel, record.kernel packages = .ok kernel
  life : ∀ kernel, record.kernel packages = .ok kernel → LifeDescribed kernel
  steps : ∃ stepId, record.currentStepId = some stepId ∧
    StepsLeadTo graph record.stepHistory stepId

/-- Every entry of a chain but the last is followed by one. -/
private theorem exists_of_mem_dropLast {α : Type*} {R : α → α → Prop} {l : List α}
    (h : l.IsChain R) : ∀ a ∈ l.dropLast, ∃ b, R a b := by
  induction l with
  | nil => simp
  | cons x l ih =>
      cases l with
      | nil => simp
      | cons y l =>
          intro a ha
          rw [List.dropLast_cons_cons, List.mem_cons] at ha
          rcases ha with rfl | ha
          · exact ⟨y, h.rel⟩
          · exact ih h.tail a ha

theorem Described.histories {graph : FlowDefinition} {record : FlowInstanceRecord}
    (h : Described packages graph record) : HistoriesDescribe packages graph record := by
  obtain ⟨kernel, hkernel⟩ := h.readable
  obtain ⟨-, hstatus, hcompleted⟩ := kernel_states packages hkernel
  have hlife := h.life kernel hkernel
  obtain ⟨stepId, hcurrent, hchain, before, last, hhistory, hid⟩ := h.steps
  refine ⟨⟨kernel, hkernel, hstatus ▸ hlife.states⟩, ⟨stepId, hcurrent, ?_⟩, ?_, hchain, ?_⟩
  · rw [hhistory, List.getLast?_append]
    exact hid
  · intro entry hentry
    obtain ⟨next, result, hresult, -⟩ := exists_of_mem_dropLast hchain entry hentry
    exact ⟨result, hresult⟩
  · rw [← hcompleted, ← hstatus]
    exact hlife.ended

/-- A kernel that reads the statuses of another record has its life. -/
private theorem life_of_states {kernel other : FlowInstance} (h : LifeDescribed kernel)
    (hstates : other.states = kernel.states) (hstatus : other.status = kernel.status)
    (hcompleted : other.completedAtMs.isSome = kernel.completedAtMs.isSome) :
    LifeDescribed other :=
  ⟨by rw [hstates, hstatus]; exact h.states, by rw [hcompleted, hstatus]; exact h.ended⟩

private theorem states_injective : Function.Injective
    fun s : Option FlowInstanceStatus × FlowInstanceStatus => (s.1, some s.2) := by
  intro a b h
  simp only [Prod.mk.injEq, Option.some.injEq] at h
  exact Prod.ext h.1 h.2

/-- **A start is described**: one status and at most one step, the first of the graph. -/
theorem start_described {definition : FlowDefinitionRecord} {graph : FlowDefinition}
    (hvalid : definition.kernel packages = .ok graph) {request : StartFlowRequest}
    {actor : String} {now : Utc} {trustedContext : Json.Map} {id : String}
    {record : FlowInstanceRecord}
    (h : startInstanceRecordWithTrustedContext packages definition request actor now
      trustedContext id = .ok record) : Described packages graph record := by
  obtain ⟨initial, extensionOnly, expiresAt, hstart⟩ := start_eq_ok packages h
  refine ⟨hstart.readable, ?_, ?_⟩
  · intro kernel hkernel
    obtain ⟨hstates, hstatus, hcompleted⟩ := kernel_states packages hkernel
    have hone : kernel.states = [(none, record.status)] := by
      apply List.map_injective_iff.mpr states_injective
      rw [hstates, hstart.record_eq]
      show [valueStates _] = [(none, some _)]
      rw [valueStates]
      exact congrArg (fun s => [(none, s)])
        (FlowInstanceStatus.ofValue_toValue (startStatus definition extensionOnly))
    have hlive : record.status.isTerminal = false := by
      rw [hstart.record_eq]
      show (startStatus definition extensionOnly).isTerminal = false
      rw [startStatus]
      split <;> rfl
    refine ⟨?_, ?_⟩
    · rw [hone, hstatus]
      exact ⟨rfl, List.isChain_singleton _, rfl⟩
    · rw [hcompleted, hstatus, hlive, hstart.record_eq]
      rfl
  · have hstep : ∃ stepId, definition.startStepId = some stepId := by
      simp only [FlowDefinitionRecord.kernel, bind_eq_ok, okOr_eq_ok] at hvalid
      obtain ⟨_, -, _, -, stepId, hstepId, -⟩ := hvalid
      exact ⟨stepId, (Option.filter_eq_some_iff.mp hstepId).1⟩
    obtain ⟨stepId, hstepId⟩ := hstep
    rw [hstart.record_eq]
    refine ⟨stepId, hstepId, ?_⟩
    show StepsLeadTo graph (definition.startStepId.toList.map _) stepId
    rw [hstepId]
    exact ⟨List.isChain_singleton _, [], _, rfl, rfl⟩

/-- **A left step is described**: by the change of status, and by the next step. -/
theorem leaveStep_described (hmoves : ReportsMoves packages)
    (hselects : SelectsTransitions packages) {definition : FlowDefinitionRecord}
    {graph : FlowDefinition} {position left : Position} {currentStepId : String}
    {nextStepId : Option String} {result : String} {outcome : TransitionOutcome}
    {actor : String} {now : Utc} {nowMs : Nat}
    (hlife : LifeDescribed position.kernel)
    (hlive : position.kernel.status.isTerminal = false)
    (hcurrent : position.kernel.currentStepId = some currentStepId)
    (hsteps : ∃ (before : List Value) (last : Json.Map),
      position.stepHistory = before ++ [.object last] ∧
      stepIdOf (.object last) = some currentStepId ∧ StepCompleted (.object last) result ∧
      (before ++ [Json.Value.object last]).IsChain (Follows graph))
    (houtcome : parseOutcome result = .ok outcome)
    (hnext : packages.selectNextStep graph.graphRequest currentStepId outcome = .ok nextStepId)
    (h : leaveStep packages definition position nextStepId outcome actor now nowMs = .ok left) :
    LifeDescribed left.kernel ∧ ∃ stepId, left.kernel.currentStepId = some stepId ∧
      StepsLeadTo graph left.stepHistory stepId := by
  obtain ⟨before, last, hhistory, hid, hdone, hchain⟩ := hsteps
  constructor
  · cases nextStepId with
    | some next =>
        simp only [leaveStep, enterStep] at h
        split at h
        · simp only [bind_eq_ok, pure, Except.pure, Except.ok.injEq] at h
          obtain ⟨moved, hmoved, rfl⟩ := h
          have hentered : LifeDescribed { position.kernel with currentStepId := some next } :=
            life_of_states hlife rfl rfl rfl
          have hmovedLife := (transition_described packages hmoves hentered hlive hmoved).1
          exact life_of_states hmovedLife rfl rfl rfl
        · cases h
          exact life_of_states hlife rfl rfl rfl
    | none =>
        simp only [leaveStep] at h
        split at h
        all_goals
          simp only [bind_eq_ok, pure, Except.pure, Except.ok.injEq] at h
          obtain ⟨moved, hmoved, rfl⟩ := h
          have hmovedLife := (transition_described packages hmoves hlife hlive hmoved).1
          exact life_of_states hmovedLife rfl rfl rfl
  · rcases leaveStep_eq_ok packages h with ⟨next, rfl, hentered, -, hadded⟩ | ⟨-, hstay, -, hkept⟩
    · refine ⟨next, hentered, ?_, before ++ [.object last], _, by rw [hadded, hhistory]; rfl, rfl⟩
      rw [hadded, hhistory]
      refine List.isChain_append.mpr ⟨hchain, List.isChain_singleton _, ?_⟩
      intro a ha b hb
      rw [List.getLast?_append, Option.mem_def] at ha
      rw [List.head?_singleton, Option.mem_def, Option.some.injEq] at hb
      obtain ⟨t, ht, hfrom, hto, hby⟩ := hselects _ _ _ _ hnext
      have hlast : Json.Value.object last = a := Option.some.inj ha
      refine ⟨result, hlast ▸ hdone, t, ht, ?_, ?_, ?_⟩
      · rw [← hlast, hid, hfrom]
      · rw [← hb, hto]
        rfl
      · rw [houtcome, hby]
    · refine ⟨currentStepId, hstay.trans hcurrent, ?_, before, last, hkept.trans hhistory, hid⟩
      rw [hkept, hhistory]
      exact hchain

/-- **An advance keeps the record described.** -/
theorem advance_described (hmoves : ReportsMoves packages)
    (hselects : SelectsTransitions packages) {definition : FlowDefinitionRecord}
    {graph : FlowDefinition} (hvalid : definition.kernel packages = .ok graph)
    {record updated : FlowInstanceRecord} {request : AdvanceFlowRequest} {actor : String}
    {now : Utc} (hrecord : Described packages graph record)
    (h : advanceInstanceRecord packages definition record request actor now = .ok updated) :
    Described packages graph updated := by
  obtain ⟨graph', currentStepId, outcome, kernel, resumed, context, data, nowMs, nextStepId,
    position, completedAt, hadvance⟩ := advance_eq_ok packages h
  have hgraph : graph' = graph := Except.ok.inj (hadvance.graph_eq.symm.trans hvalid)
  subst hgraph
  have hlife := hrecord.life kernel hadvance.kernel_eq
  obtain ⟨-, hstatus, -⟩ := kernel_states packages hadvance.kernel_eq
  have hlive : kernel.status.isTerminal = false := by
    rcases hadvance.live with hat | hat <;> rw [hstatus, hat] <;> rfl
  obtain ⟨stepId, hstepId, hsteps⟩ := hrecord.steps
  have hsame : stepId = currentStepId := Option.some.inj (hstepId.symm.trans hadvance.current)
  subst hsame
  have hresumed : LifeDescribed resumed ∧ resumed.status.isTerminal = false ∧
      resumed.currentStepId = some stepId := by
    have hkernelStep : kernel.currentStepId = some stepId := by
      have hkernel := hadvance.kernel_eq
      simp only [FlowInstanceRecord.kernel, bind_eq_ok, exists_unit, pure, Except.pure,
        Except.ok.injEq] at hkernel
      obtain ⟨-, _, -, _, -, _, -, rfl⟩ := hkernel
      exact hstepId
    have hresume := hadvance.resumed_eq
    rw [resume] at hresume
    split at hresume
    · obtain ⟨hdescribed, hmoved⟩ := transition_described packages hmoves hlife hlive hresume
      refine ⟨hdescribed, by rw [hmoved]; rfl, ?_⟩
      rw [transition, mapError_eq_ok, FlowInstance.transitionTo] at hresume
      split at hresume
      · cases hresume
      · cases hresume
        split <;> exact hkernelStep
    · cases hresume
      exact ⟨hlife, hlive, hkernelStep⟩
  obtain ⟨hleft, hreached⟩ := leaveStep_described packages hmoves hselects hresumed.1
    hresumed.2.1 hresumed.2.2 (completeStepHistory_leads packages hsteps request.stepResult now)
    hadvance.outcome_eq hadvance.next_eq hadvance.left
  refine ⟨hadvance.readable, ?_, ?_⟩
  · intro updatedKernel hupdated
    obtain ⟨hstates, hstatus', hcompleted'⟩ := kernel_states packages hupdated
    apply life_of_states hleft
    · apply List.map_injective_iff.mpr states_injective
      rw [hstates, hadvance.record_eq]
      show (position.kernel.stateHistory.map StateHistoryEntry.toValue).map valueStates = _
      rw [List.map_map, FlowInstance.states, List.map_map]
      exact List.map_congr_left fun entry _ => valueStates_toValue entry
    · rw [hstatus', hadvance.record_eq]
      rfl
    · have hat : completedAt.isSome = position.kernel.completedAtMs.isSome := by
        have hcompleted := hadvance.completed
        cases hms : position.kernel.completedAtMs with
        | none =>
            rw [hms] at hcompleted
            exact congrArg Option.isSome (Except.ok.inj hcompleted).symm
        | some ms =>
            rw [hms] at hcompleted
            simp only [optionalTimestamp] at hcompleted
            cases htime : millisToTimestamp ms with
            | error e =>
                rw [htime] at hcompleted
                cases hcompleted
            | ok time =>
                rw [htime] at hcompleted
                rw [← Except.ok.inj hcompleted]
                rfl
      rw [hcompleted', hadvance.record_eq, ← hat]
      rfl
  · rw [hadvance.record_eq]
    exact hreached

/-- **The histories describe the instance** after any calls, failed ones among them. -/
theorem histories_describe (hmoves : ReportsMoves packages)
    (hselects : SelectsTransitions packages) {definition : FlowDefinitionRecord}
    {graph : FlowDefinition} (hvalid : definition.kernel packages = .ok graph)
    {request : StartFlowRequest} {actor : String} {now : Utc} {id : String}
    {record : FlowInstanceRecord}
    (hstart : startInstanceRecord packages definition request actor now id = .ok record)
    {calls : List AdvanceCall} (hcalls : ∀ call ∈ calls, call.definition = definition) :
    HistoriesDescribe packages graph (runCalls packages record calls) := by
  apply Described.histories
  refine runCalls_induct packages (P := Described packages graph) ?_
    (start_described packages hvalid hstart)
  intro r updated call hcall hr hadvance
  rw [hcalls call hcall] at hadvance
  exact advance_described packages hmoves hselects hvalid hr hadvance

end

private theorem reportsMoves_example : ReportsMoves Example.packages := by
  have hcases : ∀ request decision,
      Example.packages.evaluateTransition request = .ok decision →
      decision.priorState = request.current ∧ decision.newState = request.target ∧
        decision.terminal = request.target.isTerminal ∧
        (decision.noOp = true → request.current = request.target) := by
    intro request decision h
    simp only [Example.packages] at h
    split at h
    · next hsame =>
        cases h
        exact ⟨rfl, rfl, rfl, fun _ => hsame⟩
    · split at h
      · cases h
      · cases h
        exact ⟨rfl, rfl, rfl, nofun⟩
  exact ⟨fun r d h => (hcases r d h).1, fun r d h => (hcases r d h).2.1,
    fun r d h => (hcases r d h).2.2.1, fun r d h => (hcases r d h).2.2.2⟩

private theorem selectsTransitions_example : SelectsTransitions Example.packages := by
  intro graph stepId outcome next h
  obtain ⟨t, hfound, rfl⟩ := Option.map_eq_some_iff.mp (Except.ok.inj h)
  have ht := List.find?_some hfound
  rw [decide_eq_true_iff] at ht
  exact ⟨t, List.mem_of_find?_eq_some hfound, ht.1, rfl, ht.2⟩

/-- An instance that is advanced to the end has two entries in each history. -/
theorem histories_describe_end :
    ∃ graph record, Example.openDefinition.kernel Example.packages = .ok graph ∧
      startInstanceRecord Example.packages Example.openDefinition Example.startRequest "client" 0
        "instance-1" = .ok record ∧
      (runCalls Example.packages record
        [⟨Example.openDefinition, Example.advanceRequest, "client", 60000000000⟩]).status
          = .completed ∧
      HistoriesDescribe Example.packages graph (runCalls Example.packages record
        [⟨Example.openDefinition, Example.advanceRequest, "client", 60000000000⟩]) := by
  have hvalid : (Example.openDefinition.kernel Example.packages).isOk = true := by
    decide +kernel
  have hdone : ((startInstanceRecord Example.packages Example.openDefinition
      Example.startRequest "client" 0 "instance-1").toOption.map
        fun record => (runCalls Example.packages record
          [⟨Example.openDefinition, Example.advanceRequest, "client", 60000000000⟩]).status)
      = some .completed := by
    decide +kernel
  cases hgraph : Example.openDefinition.kernel Example.packages with
  | error e =>
      rw [hgraph] at hvalid
      cases hvalid
  | ok graph =>
      cases hstart : startInstanceRecord Example.packages Example.openDefinition
          Example.startRequest "client" 0 "instance-1" with
      | error e =>
          rw [hstart] at hdone
          cases hdone
      | ok record =>
          rw [hstart] at hdone
          refine ⟨graph, record, rfl, rfl, Option.some.inj hdone, ?_⟩
          exact histories_describe Example.packages reportsMoves_example
            selectsTransitions_example hgraph hstart (by simp)

end Marty.Flow
