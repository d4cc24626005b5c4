import Marty.Flow.DefinitionEdits

/-!
# The graph of a stored definition

An accepted request is stored as JSON under fresh names, and every later step reads the
graph back out of it.  What is read is the graph that was asked for, and the record says
again which request it came from; only a step whose action names nothing is stored in a way
that is not read back.

## Main definitions

* `LabelledGraph.Isomorphic` — the same graph under other names.
* `Usable` — what a stored definition promises to the request it was built from.
* `NamesActions` — each action has a last part.
-/

namespace Marty.Flow

open Lib Lib.Checked

/-! ## Graphs -/

/-- Nodes with names and labels, labelled edges between the names, and a node to start at. -/
@[ext] structure LabelledGraph (ι σ ω : Type) where
  nodes : List (ι × σ)
  edges : List (ι × ι × ω)
  entry : ι

namespace LabelledGraph

variable {ι κ σ ω : Type}

def map (f : ι → κ) (g : LabelledGraph ι σ ω) : LabelledGraph κ σ ω where
  nodes := g.nodes.map fun node => (f node.1, node.2)
  edges := g.edges.map fun edge => (f edge.1, f edge.2.1, edge.2.2)
  entry := f g.entry

/-- The names that a graph uses. -/
def names (g : LabelledGraph ι σ ω) : Set ι :=
  {i | i = g.entry ∨ (∃ node ∈ g.nodes, i = node.1) ∨
    ∃ edge ∈ g.edges, i = edge.1 ∨ i = edge.2.1}

/-- `h` is `g` under other names, different ones for different nodes. -/
def Isomorphic (g : LabelledGraph ι σ ω) (h : LabelledGraph κ σ ω) : Prop :=
  ∃ f, Set.InjOn f g.names ∧ h = g.map f

end LabelledGraph

/-- The graph that the service runs. -/
def FlowDefinition.graph (definition : FlowDefinition) :
    LabelledGraph String String TransitionOutcome where
  nodes := definition.steps.map fun step => (step.id, step.protocolStep)
  edges := definition.transitions.map fun t => (t.fromStepId, t.toStepId, t.outcome)
  entry := definition.startStepId

/-- The protocol sequence of a flow type, each step leading to the next one. -/
def FlowType.graph (flowType : FlowType) : LabelledGraph Nat String TransitionOutcome where
  nodes := flowType.sequence.zipIdx.map fun step => (step.2, step.1)
  edges := (List.range (flowType.sequence.length - 1)).map fun i => (i, i + 1, .success)
  entry := 0

/-- The graph that an extension describes: each step does the last part of its action. -/
def FlowExtensionRequest.graph (extension : FlowExtensionRequest) :
    LabelledGraph String String TransitionOutcome where
  nodes := extension.steps.map fun step => (step.stepId, extensionAction step.action)
  edges := extension.transitions.map fun t => (t.fromStepId, t.toStepId, t.outcome.toOutcome)
  entry := extension.entryStepId

/-- Names that are neither blank nor used twice. -/
structure Fresh (freshId : Nat → String) : Prop where
  injective : Function.Injective freshId
  visible : ∀ n, nonBlank (freshId n) = true

/-! ## Built graphs -/

/-- The place of a step in its extension, the last one of its name. -/
def FlowExtensionRequest.places (extension : FlowExtensionRequest) : TextMap Nat :=
  .ofEntries <| extension.steps.zipIdx.map fun step => (step.1.stepId, step.2)

def FlowExtensionRequest.place (extension : FlowExtensionRequest) (name : String) : Nat :=
  (extension.places.get name).getD 0

/-- The condition of a transition as it is stored. -/
def FlowExtensionTransitionRequest.expression (t : FlowExtensionTransitionRequest) : Value :=
  .ofOption (fun condition : TextMap Value =>
    .string (String.ofList (Json.Value.write (.object condition.entries)))) t.condition

/-- The graph of an extension under fresh names, without the checks. -/
def FlowExtensionRequest.built (extension : FlowExtensionRequest) (freshId : Nat → String) :
    BuiltGraph :=
  let idOf := fun name => freshId (extension.place name)
  let transitionOf := fun t : FlowExtensionTransitionRequest =>
    (⟨idOf t.fromStepId, idOf t.toStepId, t.outcome.toOutcome⟩ : FlowTransition)
  { kernel := ⟨extension.steps.map fun step => ⟨idOf step.stepId, extensionAction step.action⟩,
      extension.transitions.map transitionOf, idOf extension.entryStepId⟩
    steps := extension.steps.map fun step => extensionStep (idOf step.stepId) step
    transitions := extension.transitions.zipIdx.map fun t =>
      serializeTransition (freshId (extension.steps.length + t.2)) (transitionOf t.1)
        t.1.expression }

/-- The graph of a protocol sequence under fresh names, without the checks. -/
def FlowType.built (flowType : FlowType) (freshId : Nat → String) : BuiltGraph :=
  let steps : List FlowStep :=
    flowType.sequence.zipIdx.map fun step => ⟨freshId step.2, step.1⟩
  let transitions : List FlowTransition :=
    (List.range (flowType.sequence.length - 1)).map fun i =>
      ⟨freshId i, freshId (i + 1), .success⟩
  { kernel := ⟨steps, transitions, freshId 0⟩
    steps := steps.map standardStep
    transitions := transitions.zipIdx.map fun t =>
      serializeTransition (freshId (steps.length + 1 + t.2)) t.1 .null }

/-- Without its checks, what `buildGraph` computes. -/
def CreateFlowDefinitionRequest.built (request : CreateFlowDefinitionRequest)
    (freshId : Nat → String) : Option BuiltGraph :=
  if request.flowType = .custom then
    request.extension.map fun extension => extension.built freshId
  else some (request.flowType.built freshId)

section

variable {packages : Packages}

theorem get_ofEntries_map {β γ : Type} (f : β → γ) (entries : List (String × β)) (name : String) :
    (BTreeMap.ofEntries (entries.map fun e => (e.1, f e.2))).get name =
      ((BTreeMap.ofEntries entries).get name).map f := by
  have hentries : List.Forall₂ (fun e e' => e.1 = e'.1 ∧ e'.2 = f e.2) entries
      (entries.map fun e => (e.1, f e.2)) := by
    rw [List.forall₂_map_right_iff, List.forall₂_same]
    exact fun e _ => ⟨rfl, rfl⟩
  have hrel := BTreeMap.get_ofEntries_rel (R := fun b c => c = f b) hentries name
  generalize (BTreeMap.ofEntries entries).get name = found at hrel ⊢
  generalize (BTreeMap.ofEntries (entries.map fun e => (e.1, f e.2))).get name = found' at hrel ⊢
  cases hrel with
  | none => rfl
  | some h => rw [h, Option.map_some]

/-- Different steps have different places. -/
theorem FlowExtensionRequest.place_injOn (extension : FlowExtensionRequest) :
    Set.InjOn extension.place {name | (extension.places.get name).isSome} := by
  have hstep : ∀ name, (extension.places.get name).isSome →
      (extension.steps.map (·.stepId))[extension.place name]? = some name := by
    intro name hname
    obtain ⟨i, hi⟩ := Option.isSome_iff_exists.mp hname
    have hmem := BTreeMap.mem_of_get_ofEntries hi
    obtain ⟨step, hstep, heq⟩ := List.mem_map.mp hmem
    rw [Prod.mk.injEq] at heq
    rw [FlowExtensionRequest.place, hi, Option.getD_some, List.getElem?_map, ← heq.2,
      List.mk_mem_zipIdx_iff_getElem?.mp hstep, Option.map_some, heq.1]
  intro name hname name' hname' heq
  have h := hstep name hname
  rw [heq, hstep name' hname', Option.some.injEq] at h
  exact h.symm

theorem map_zip_self {α β : Type} (f : α → β) (l : List α) :
    (l.map f).zip l = l.map fun a => (f a, a) := by
  induction l with
  | nil => rfl
  | cons a l ih => simp only [List.map_cons, List.zip_cons_cons, ih]

/-- The step names that an extension has a place for. -/
def FlowExtensionRequest.known (extension : FlowExtensionRequest) : Set String :=
  {name | (extension.places.get name).isSome}

/-- **A custom graph** is built when every name in it is the name of a step. -/
theorem customGraph_eq_ok {request : CreateFlowDefinitionRequest} {freshId : Nat → String}
    {graph : BuiltGraph} (h : customGraph request freshId = .ok graph) :
    ∃ extension, request.extension = some extension ∧ graph = extension.built freshId ∧
      extension.graph.names ⊆ extension.known := by
  simp only [customGraph, bind_eq_ok, okOr_eq_ok] at h
  obtain ⟨extension, hextension, steps, hsteps, transitions, htransitions, start, hstart,
    hgraph⟩ := h
  have hids : ∀ name id,
      (BTreeMap.ofEntries (extension.steps.zipIdx.map fun step =>
        (step.1.stepId, freshId step.2))).get name = some id →
      id = freshId (extension.place name) ∧ name ∈ extension.known := by
    intro name id hget
    have hmap := get_ofEntries_map freshId
      (extension.steps.zipIdx.map fun step => (step.1.stepId, step.2)) name
    rw [List.map_map] at hmap
    change _ = (extension.places.get name).map freshId at hmap
    rw [Function.comp_def, hget] at hmap
    obtain ⟨i, hi, hid⟩ := Option.map_eq_some_iff.mp hmap.symm
    exact ⟨by rw [FlowExtensionRequest.place, hi, Option.getD_some, hid],
      Option.isSome_iff_exists.mpr ⟨i, hi⟩⟩
  obtain ⟨hstartId, hstartKnown⟩ := hids _ _ hstart
  obtain ⟨rfl, hstepsKnown⟩ := mapEach_eq_ok
    (g := fun step => ⟨freshId (extension.place step.stepId), extensionAction step.action⟩)
    (p := fun step => step.stepId ∈ extension.known) (fun step b hb => by
      simp only [bind_eq_ok, okOr_eq_ok, pure, Except.pure, Except.ok.injEq] at hb
      obtain ⟨id, hid, rfl⟩ := hb
      obtain ⟨rfl, hknown⟩ := hids _ _ hid
      exact ⟨rfl, hknown⟩) hsteps
  obtain ⟨rfl, hendsKnown⟩ := mapEach_eq_ok
    (g := fun t => ⟨freshId (extension.place t.fromStepId), freshId (extension.place t.toStepId),
      t.outcome.toOutcome⟩)
    (p := fun t => t.fromStepId ∈ extension.known ∧ t.toStepId ∈ extension.known)
    (fun t b hb => by
      simp only [bind_eq_ok, okOr_eq_ok, pure, Except.pure, Except.ok.injEq] at hb
      obtain ⟨source, hsource, target, htarget, rfl⟩ := hb
      obtain ⟨rfl, hsourceKnown⟩ := hids _ _ hsource
      obtain ⟨rfl, htargetKnown⟩ := hids _ _ htarget
      exact ⟨rfl, hsourceKnown, htargetKnown⟩) htransitions
  refine ⟨extension, hextension, ?_, ?_⟩
  · cases hgraph
    simp only [FlowExtensionRequest.built, FlowExtensionTransitionRequest.expression,
      map_zip_self, List.map_map, List.zipIdx_map, List.length_map, hstartId,
      Function.comp_def, Prod.map, id]
  · rintro name (rfl | ⟨node, hnode, rfl⟩ | ⟨edge, hedge, hname⟩)
    · exact hstartKnown
    · obtain ⟨step, hstep, rfl⟩ := List.mem_map.mp hnode
      exact hstepsKnown step hstep
    · obtain ⟨t, ht, rfl⟩ := List.mem_map.mp hedge
      obtain rfl | rfl := hname
      · exact (hendsKnown t ht).1
      · exact (hendsKnown t ht).2

/-- **A standard graph** is its protocol sequence. -/
theorem builtIn_eq_ok {request : CreateFlowDefinitionRequest} {freshId : Nat → String}
    {graph : BuiltGraph} (h : builtIn packages request freshId = .ok graph) :
    graph = request.flowType.built freshId := by
  simp only [builtIn, bind_eq_ok, exists_unit, okOr_eq_ok, pure, Except.pure,
    Except.ok.injEq] at h
  obtain ⟨-, -, start, hstart, -, rfl⟩ := h
  have htransitions : ((request.flowType.sequence.zipIdx.map fun step =>
        (⟨freshId step.2, step.1⟩ : FlowStep)).zip
      (request.flowType.sequence.zipIdx.map fun step =>
        (⟨freshId step.2, step.1⟩ : FlowStep)).tail).map (fun pair =>
          (⟨pair.1.id, pair.2.id, .success⟩ : FlowTransition)) =
      (List.range (request.flowType.sequence.length - 1)).map fun i =>
        ⟨freshId i, freshId (i + 1), .success⟩ := by
    apply List.ext_getElem
    · simp
    · intro i h₁ h₂
      simp
  have hid : start.id = freshId 0 := by
    rw [List.head?_map, List.head?_zipIdx, Option.map_map, Option.map_eq_some_iff] at hstart
    obtain ⟨name, -, rfl⟩ := hstart
    rfl
  simp only [FlowType.built, htransitions, hid]

/-- **A built graph** is the one that the request describes under fresh names. -/
theorem buildGraph_eq_ok {request : CreateFlowDefinitionRequest} {freshId : Nat → String}
    {graph : BuiltGraph} (h : buildGraph packages request freshId = .ok graph) :
    request.built freshId = some graph := by
  unfold buildGraph at h
  by_cases hcustom : request.flowType = .custom
  · rw [if_pos hcustom] at h
    obtain ⟨extension, hextension, rfl, -⟩ := customGraph_eq_ok h
    rw [CreateFlowDefinitionRequest.built, if_pos hcustom, hextension, Option.map_some]
  · rw [if_neg hcustom, mapError_eq_ok] at h
    rw [CreateFlowDefinitionRequest.built, if_neg hcustom, builtIn_eq_ok h]

/-! ## Reading a built graph -/

theorem requiredString_string {value : String} (h : nonBlank value = true) (field : String) :
    requiredString (some (.string value)) field = .ok value := by
  rw [requiredString, okOr_eq_ok, Option.bind_some, Json.Value.asStr, Option.filter_some, if_pos h]

theorem ofValue_asStr (outcome : TransitionOutcome) :
    TransitionOutcome.ofValue (.string outcome.asStr) = some outcome := by
  cases outcome <;> rfl

theorem kernelTransition_serialize {transition : FlowTransition}
    (hsource : nonBlank transition.fromStepId = true)
    (htarget : nonBlank transition.toStepId = true) (id : String) (expression : Value) (n : Nat) :
    kernelTransition (serializeTransition id transition expression, n) = .ok transition := by
  simp [kernelTransition, serializeTransition, object, Json.Value.asObject, okOr, Json.Map.get,
    requiredString_string hsource, requiredString_string htarget, ofValue_asStr]

/-- **A stored step** is read back when its configuration names a protocol step. -/
theorem kernelStep_object {step config : Json.Map} {id name : String} (hid : nonBlank id = true)
    (hstep : step.get "id" = some (.string id))
    (hconfig : step.get "config" = some (.object config))
    (hname : config.get "protocol_step" = some (.string name)) (n : Nat) :
    kernelStep (.object step, n) =
      if nonBlank name then .ok ⟨id, name⟩
      else .error (invalid (indexed "definition.steps" n ".protocol_step")) := by
  have hprotocol : protocolStep step = (some name).filter nonBlank := by
    rw [protocolStep, hconfig, Option.bind_some, Json.Value.asObject, Option.bind_some, hname,
      Option.some_or, Option.bind_some, Json.Value.asStr]
  have hobject : object (.object step) (indexed "definition.steps" n "") = .ok step := rfl
  rw [kernelStep, hobject]
  change (do
    let id ← requiredString (step.get "id") (indexed "definition.steps" n ".id")
    let name ← okOr (protocolStep step)
      (invalid (indexed "definition.steps" n ".protocol_step"))
    return (⟨id, name⟩ : FlowStep)) = _
  rw [hstep, requiredString_string hid, hprotocol, Option.filter_some]
  by_cases h : nonBlank name = true
  · rw [if_pos h, if_pos h]
    rfl
  · rw [if_neg h, if_neg h]
    rfl

theorem kernelStep_standard (step : FlowStep) (hid : nonBlank step.id = true)
    (hname : nonBlank step.protocolStep = true) (n : Nat) :
    kernelStep (standardStep step, n) = .ok step := by
  rw [standardStep, kernelStep_object hid (by rfl) (by rfl) (by rfl), if_pos hname]

theorem kernelStep_extension {id : String} (hid : nonBlank id = true)
    (step : FlowExtensionStepRequest) (n : Nat) :
    kernelStep (extensionStep id step, n) =
      if nonBlank (extensionAction step.action) then .ok ⟨id, extensionAction step.action⟩
      else .error (invalid (indexed "definition.steps" n ".protocol_step")) := by
  rw [extensionStep]
  refine kernelStep_object hid (by rfl) (by rfl) ?_ n
  rw [Json.Map.get_insert, if_pos rfl]

/-- **What a kernel is**: the steps and transitions as they are read, when the graph is
admitted. -/
theorem kernel_eq_ok {record : FlowDefinitionRecord} {graph : BuiltGraph}
    (hsteps : mapEach kernelStep record.steps.zipIdx = .ok graph.kernel.steps)
    (htransitions : mapEach kernelTransition record.transitions.zipIdx =
      .ok graph.kernel.transitions)
    (hstart : record.startStepId = some graph.kernel.startStepId)
    (hblank : nonBlank graph.kernel.startStepId = true)
    (hvalid : graph.kernel.validateGraph packages = .ok ()) :
    record.kernel packages = .ok graph.kernel := by
  rw [FlowDefinition.validateGraph, mapError_eq_ok] at hvalid
  simp only [FlowDefinitionRecord.kernel, bind_eq_ok]
  refine ⟨_, hsteps, _, htransitions, graph.kernel.startStepId, ?_, ?_⟩
  · rw [hstart, Option.filter_some, if_pos hblank]
    rfl
  · split
    · rfl
    · next reason herror =>
        change packages.validateGraph graph.kernel.graphRequest = _ at herror
        rw [hvalid] at herror
        cases herror

theorem nonBlank_sequence (flowType : FlowType) :
    ∀ name ∈ flowType.sequence, nonBlank name = true := by
  cases flowType <;> decide +kernel

/-! ## Actions -/

/-- An action that ends in its last part, and not in a separator. -/
def NamesPart (action : String) : Prop :=
  ∀ c ∈ action.toList.getLast?, c ≠ ':' ∧ c ≠ '.'

theorem not_isWhitespace_of_identifier {c : Char}
    (h : (isAsciiLowercase c || isAsciiDigit c || ['_', '.', ':', '-'].contains c) = true) :
    Text.isWhitespace c = false := by
  simp only [isAsciiLowercase, isAsciiDigit, Bool.or_eq_true, Bool.and_eq_true,
    decide_eq_true_eq, List.contains_iff_mem, List.mem_cons, List.not_mem_nil, or_false] at h
  by_cases hmark : c = '_' ∨ c = '.' ∨ c = ':' ∨ c = '-'
  · obtain rfl | rfl | rfl | rfl := hmark <;> rfl
  · have hrange := h.resolve_right hmark
    simp only [Text.isWhitespace, Bool.or_eq_false_iff, Bool.and_eq_false_iff,
      decide_eq_false_iff_not, beq_eq_false_iff_ne]
    omega

theorem action_eq_ok {value field : String} (h : action value field = .ok ()) :
    value.toList ≠ [] ∧ ∀ c ∈ value.toList, Text.isWhitespace c = false := by
  simp only [action, bind_eq_ok, exists_unit, rejectIf_eq_ok, Bool.not_eq_false] at h
  obtain ⟨-, h⟩ := h
  rw [isAsciiIdentifier] at h
  cases hvalue : value.toList with
  | nil =>
      rw [hvalue] at h
      cases h
  | cons c cs =>
      rw [hvalue] at h
      dsimp only at h
      rw [Bool.and_eq_true, List.all_eq_true] at h
      refine ⟨List.cons_ne_nil _ _, ?_⟩
      rw [List.forall_mem_cons]
      refine ⟨not_isWhitespace_of_identifier (by rw [h.1, Bool.true_or, Bool.true_or]), ?_⟩
      exact fun d hd => not_isWhitespace_of_identifier (h.2 d hd)

/-- **The last part of an admitted action** is blank when the action ends in a separator. -/
theorem nonBlank_extensionAction {value field : String} (h : action value field = .ok ()) :
    nonBlank (extensionAction value) = true ↔ NamesPart value := by
  obtain ⟨hne, hspace⟩ := action_eq_ok h
  have htrim : Text.trim (extensionAction value) = extensionAction value := by
    apply Text.trim_eq_self
    intro c hc
    rw [extensionAction, String.toList_ofList] at hc
    exact hspace c ((List.rtakeWhile_suffix _ _).subset hc)
  have hempty : (extensionAction value).isEmpty = true ↔ ¬ NamesPart value := by
    rw [String.isEmpty_iff, extensionAction, ← String.toList_eq_nil_iff, String.toList_ofList,
      List.rtakeWhile_eq_nil_iff, NamesPart, List.getLast?_eq_some_getLast hne]
    simp [hne]
  rw [nonBlank, htrim, Bool.not_eq_true', ← Bool.not_eq_true, hempty, not_not]

/-- Each action of a request's extension has a last part. -/
def NamesActions (request : CreateFlowDefinitionRequest) : Prop :=
  ∀ extension ∈ request.extension, ∀ step ∈ extension.steps, NamesPart step.action

theorem validateExtension_eq_ok {flowType : FlowType} {extension : Option FlowExtensionRequest}
    (h : validateExtension packages flowType extension = .ok ()) :
    (flowType = .custom → ∃ e, extension = some e ∧ e.validate packages = .ok ()) ∧
      (flowType ≠ .custom → extension = none) := by
  by_cases hcustom : flowType = .custom
  · refine ⟨fun _ => ?_, fun hne => absurd hcustom hne⟩
    cases extension with
    | none => simp [validateExtension, hcustom] at h
    | some e => exact ⟨e, rfl, by simpa [validateExtension, hcustom] using h⟩
  · refine ⟨fun heq => absurd heq hcustom, fun _ => ?_⟩
    cases extension with
    | none => rfl
    | some e => simp [validateExtension, hcustom] at h

/-- The actions of an admitted request are admitted. -/
theorem action_of_validate {request : CreateFlowDefinitionRequest}
    (h : request.validate packages = .ok ()) {extension : FlowExtensionRequest}
    (hextension : request.extension = some extension) {step : FlowExtensionStepRequest}
    (hstep : step ∈ extension.steps) : ∃ field, action step.action field = .ok () := by
  simp only [CreateFlowDefinitionRequest.validate, bind_eq_ok, exists_unit] at h
  have hchecked := validateExtension_eq_ok h.2.2.2.2.2.2.2.2.2.2.2
  by_cases hcustom : request.flowType = .custom
  · obtain ⟨e, he, hvalid⟩ := hchecked.1 hcustom
    obtain rfl : extension = e := Option.some.inj (hextension.symm.trans he)
    simp only [FlowExtensionRequest.validate, bind_eq_ok, exists_unit, forEach_eq_ok] at hvalid
    obtain ⟨n, hn⟩ := List.mem_iff_getElem?.mp hstep
    have hentry := hvalid.2.2.2.1 (step, n) (List.mk_mem_zipIdx_iff_getElem?.mpr hn)
    simp only [FlowExtensionStepRequest.validate, bind_eq_ok, exists_unit] at hentry
    exact ⟨_, hentry.2.1⟩
  · rw [hchecked.2 hcustom] at hextension
    cases hextension

/-! ## What is read of a built graph -/

variable {request : CreateFlowDefinitionRequest} {graph : BuiltGraph}
  {freshId freshId' : Nat → String}

/-- Transitions that are written with their places are read back. -/
theorem readTransitions {α : Type} (transition : α → FlowTransition) {l : List α}
    (h : ∀ a ∈ l, nonBlank (transition a).fromStepId = true ∧
      nonBlank (transition a).toStepId = true)
    (id : Nat → String) (expression : α → Value) :
    mapEach kernelTransition (l.zipIdx.map fun t =>
      serializeTransition (id t.2) (transition t.1) (expression t.1)).zipIdx =
        .ok (l.map transition) := by
  have hread : ∀ t ∈ l.zipIdx, ∀ n, kernelTransition
      (serializeTransition (id t.2) (transition t.1) (expression t.1), n) =
        .ok (transition t.1) := by
    intro t ht n
    obtain ⟨hsource, htarget⟩ := h t.1 (List.fst_mem_of_mem_zipIdx ht)
    exact kernelTransition_serialize hsource htarget _ _ n
  have hmap : (l.zipIdx.map fun t => transition t.1) = l.map transition := by
    rw [← List.zipIdx_map_fst 0 l, List.map_map, List.zipIdx_map_fst]
    rfl
  rw [mapEach_zipIdx hread 0, hmap]

/-- The transitions of a built graph are read back. -/
theorem Fresh.transitions (hfresh : Fresh freshId) (h : request.built freshId = some graph) :
    mapEach kernelTransition graph.transitions.zipIdx = .ok graph.kernel.transitions := by
  unfold CreateFlowDefinitionRequest.built at h
  split at h
  · obtain ⟨extension, -, rfl⟩ := Option.map_eq_some_iff.mp h
    rw [FlowExtensionRequest.built]
    let transitionOf := fun t : FlowExtensionTransitionRequest =>
      (⟨freshId (extension.place t.fromStepId), freshId (extension.place t.toStepId),
        t.outcome.toOutcome⟩ : FlowTransition)
    have hends : ∀ t ∈ extension.transitions, nonBlank (transitionOf t).fromStepId = true ∧
        nonBlank (transitionOf t).toStepId = true :=
      fun t _ => ⟨hfresh.visible _, hfresh.visible _⟩
    exact readTransitions transitionOf hends
      (fun n => freshId (extension.steps.length + n)) FlowExtensionTransitionRequest.expression
  · cases h
    have hends : ∀ t ∈ (request.flowType.built freshId).kernel.transitions,
        nonBlank t.fromStepId = true ∧ nonBlank t.toStepId = true := by
      intro t ht
      rw [FlowType.built, List.mem_map] at ht
      obtain ⟨i, -, rfl⟩ := ht
      exact ⟨hfresh.visible _, hfresh.visible _⟩
    have hread := readTransitions (fun t => t) hends
      (fun n => freshId ((request.flowType.built freshId).kernel.steps.length + 1 + n))
      (fun _ => .null)
    rw [List.map_id'] at hread
    exact hread

theorem Fresh.start (hfresh : Fresh freshId) (h : request.built freshId = some graph) :
    nonBlank graph.kernel.startStepId = true := by
  unfold CreateFlowDefinitionRequest.built at h
  split at h
  · obtain ⟨extension, -, rfl⟩ := Option.map_eq_some_iff.mp h
    exact hfresh.visible _
  · cases h
    exact hfresh.visible _

/-- **The steps of a built graph are read back** when each action has a last part. -/
theorem Fresh.steps (hfresh : Fresh freshId) (h : request.built freshId = some graph)
    (hvalid : request.validate packages = .ok ()) (hactions : NamesActions request) :
    mapEach kernelStep graph.steps.zipIdx = .ok graph.kernel.steps := by
  unfold CreateFlowDefinitionRequest.built at h
  split at h
  · obtain ⟨extension, hextension, rfl⟩ := Option.map_eq_some_iff.mp h
    refine mapEach_zipIdx (fun step hstep n => ?_) 0
    obtain ⟨field, hfield⟩ := action_of_validate hvalid hextension hstep
    have hpart := (nonBlank_extensionAction hfield).mpr (hactions extension hextension step hstep)
    rw [kernelStep_extension (hfresh.visible _), if_pos hpart]
  · cases h
    have hstandard : ∀ step ∈ (request.flowType.built freshId).kernel.steps, ∀ n,
        kernelStep (standardStep step, n) = .ok step := by
      intro step hstep n
      rw [FlowType.built, List.mem_map] at hstep
      obtain ⟨entry, hentry, rfl⟩ := hstep
      have hname := nonBlank_sequence request.flowType entry.1
        (List.fst_mem_of_mem_zipIdx hentry)
      exact kernelStep_standard ⟨freshId entry.2, entry.1⟩ (hfresh.visible entry.2) hname n
    have hread := mapEach_zipIdx hstandard 0
    rw [List.map_id'] at hread
    exact hread

/-- Steps are read back only when each action has a last part. -/
theorem Fresh.namesActions (hfresh : Fresh freshId) (hcustom : request.flowType = .custom)
    (h : request.built freshId = some graph) (hvalid : request.validate packages = .ok ())
    {steps : List FlowStep} (hread : mapEach kernelStep graph.steps.zipIdx = .ok steps) :
    NamesActions request := by
  rw [CreateFlowDefinitionRequest.built, if_pos hcustom] at h
  obtain ⟨extension, hextension, rfl⟩ := Option.map_eq_some_iff.mp h
  intro extension' hextension' step hstep
  obtain rfl : extension = extension' := Option.some.inj (hextension.symm.trans hextension')
  obtain ⟨field, hfield⟩ := action_of_validate hvalid hextension hstep
  rw [← nonBlank_extensionAction hfield]
  obtain ⟨n, hn⟩ := List.mem_iff_getElem?.mp hstep
  have hmem : (extensionStep (freshId (extension.place step.stepId)) step, n) ∈
      (extension.built freshId).steps.zipIdx := by
    rw [List.mk_mem_zipIdx_iff_getElem?]
    change (extension.steps.map _)[n]? = _
    rw [List.getElem?_map, hn, Option.map_some]
  obtain ⟨read, hstepRead⟩ := exists_mapEach.mp ⟨steps, hread⟩ _ hmem
  rw [kernelStep_extension (hfresh.visible _)] at hstepRead
  by_contra hblank
  rw [if_neg hblank] at hstepRead
  cases hstepRead

/-! ## The same graph -/

/-- The request asks for the graph of a kernel, up to the names of its steps. -/
def CreateFlowDefinitionRequest.Describes (request : CreateFlowDefinitionRequest)
    (kernel : FlowDefinition) : Prop :=
  if request.flowType = .custom then
    ∃ extension, request.extension = some extension ∧ extension.graph.Isomorphic kernel.graph
  else request.flowType.graph.Isomorphic kernel.graph

/-- **A built graph is the one that was asked for.** -/
theorem Fresh.describes (hfresh : Fresh freshId)
    (h : buildGraph packages request freshId = .ok graph) : request.Describes graph.kernel := by
  unfold buildGraph at h
  unfold CreateFlowDefinitionRequest.Describes
  by_cases hcustom : request.flowType = .custom
  · rw [if_pos hcustom] at h ⊢
    obtain ⟨extension, hextension, rfl, hknown⟩ := customGraph_eq_ok h
    refine ⟨extension, hextension, fun name => freshId (extension.place name), ?_, ?_⟩
    · intro name hname name' hname' heq
      exact extension.place_injOn (hknown hname) (hknown hname') (hfresh.injective heq)
    · ext1 <;> simp [FlowExtensionRequest.built, FlowDefinition.graph,
        FlowExtensionRequest.graph, LabelledGraph.map, Function.comp_def]
  · rw [if_neg hcustom] at h ⊢
    rw [mapError_eq_ok] at h
    rw [builtIn_eq_ok h]
    refine ⟨freshId, fun i _ j _ heq => hfresh.injective heq, ?_⟩
    ext1 <;> simp [FlowType.built, FlowDefinition.graph, FlowType.graph, LabelledGraph.map,
      Function.comp_def]

/-! ## Other names -/

/-- The texts of some members of an object under other names. -/
def renameAt (keys : List String) (rename : String → String) : Value → Value
  | .object entries => .object <| entries.map fun e =>
      match e.2 with
      | .string text => if e.1 ∈ keys then (e.1, .string (rename text)) else e
      | _ => e
  | value => value

def BuiltGraph.rename (rename : String → String) (graph : BuiltGraph) : BuiltGraph where
  kernel :=
    { steps := graph.kernel.steps.map fun step => ⟨rename step.id, step.protocolStep⟩
      transitions := graph.kernel.transitions.map fun t =>
        ⟨rename t.fromStepId, rename t.toStepId, t.outcome⟩
      startStepId := rename graph.kernel.startStepId }
  steps := graph.steps.map (renameAt ["id"] rename)
  transitions := graph.transitions.map (renameAt ["id", "from_step_id", "to_step_id"] rename)

theorem renameAt_extensionStep (rename : String → String) (id : String)
    (step : FlowExtensionStepRequest) :
    renameAt ["id"] rename (extensionStep id step) = extensionStep (rename id) step := by
  cases hdescription : step.description <;>
    simp [renameAt, extensionStep, hdescription, Json.Value.ofOption]
  all_goals cases step.timeoutSeconds <;> rfl

theorem renameAt_standardStep (rename : String → String) (step : FlowStep) :
    renameAt ["id"] rename (standardStep step) =
      standardStep ⟨rename step.id, step.protocolStep⟩ := by
  simp [renameAt, standardStep]

theorem renameAt_serializeTransition (rename : String → String) (id : String)
    (transition : FlowTransition) (expression : Value) :
    renameAt ["id", "from_step_id", "to_step_id"] rename
        (serializeTransition id transition expression) =
      serializeTransition (rename id) ⟨rename transition.fromStepId,
        rename transition.toStepId, transition.outcome⟩ expression := by
  cases expression <;> simp [renameAt, serializeTransition]

/-- **Other fresh names** change the graph by renaming it. -/
theorem built_rename {rename : String → String} (h : ∀ n, rename (freshId n) = freshId' n)
    (hbuilt : request.built freshId = some graph) :
    request.built freshId' = some (graph.rename rename) := by
  unfold CreateFlowDefinitionRequest.built at hbuilt ⊢
  split at hbuilt
  case isTrue hcustom =>
    rw [if_pos hcustom]
    obtain ⟨extension, hextension, rfl⟩ := Option.map_eq_some_iff.mp hbuilt
    rw [hextension, Option.map_some, Option.some.injEq]
    simp [FlowExtensionRequest.built, BuiltGraph.rename, h, Function.comp_def,
      renameAt_extensionStep, renameAt_serializeTransition]
  case isFalse hcustom =>
    rw [if_neg hcustom]
    cases hbuilt
    rw [Option.some.injEq]
    simp [FlowType.built, BuiltGraph.rename, h, Function.comp_def, renameAt_standardStep,
      renameAt_serializeTransition, List.zipIdx_map]

/-- The names that the service has given to the parts of a record. -/
def FlowDefinitionRecord.generatedIds (record : FlowDefinitionRecord) : Set String :=
  {id | ∃ part ∈ record.steps ++ record.transitions, part.get "id" = some (.string id)}

/-- The next version of a record, the same but for the names that the service gives. -/
def FlowDefinitionRecord.renamed (record : FlowDefinitionRecord) (rename : String → String)
    (now : Utc) : FlowDefinitionRecord :=
  { record with
    steps := record.steps.map (renameAt ["id"] rename)
    transitions := record.transitions.map (renameAt ["id", "from_step_id", "to_step_id"] rename)
    startStepId := record.startStepId.map rename
    version := min (record.version + 1) maxU32
    updatedAt := now }

theorem generated_fresh (h : request.built freshId = some graph) {id : String}
    (hid : ∃ part ∈ graph.steps ++ graph.transitions, part.get "id" = some (.string id)) :
    ∃ n, freshId n = id := by
  have hextension : ∀ (name : String) (step : FlowExtensionStepRequest),
      (extensionStep name step).get "id" = some (.string name) := fun _ _ => rfl
  have hstandard : ∀ step : FlowStep,
      (standardStep step).get "id" = some (.string step.id) := fun _ => rfl
  have htransition : ∀ (name : String) (t : FlowTransition) (expression : Value),
      (serializeTransition name t expression).get "id" = some (.string name) := fun _ _ _ => rfl
  obtain ⟨part, hpart, hget⟩ := hid
  rw [List.mem_append] at hpart
  unfold CreateFlowDefinitionRequest.built at h
  split at h
  · obtain ⟨extension, -, rfl⟩ := Option.map_eq_some_iff.mp h
    simp only [FlowExtensionRequest.built, List.mem_map] at hpart
    obtain ⟨step, -, rfl⟩ | ⟨t, -, rfl⟩ := hpart
    · rw [hextension, Option.some.injEq, Json.Value.string.injEq] at hget
      exact ⟨_, hget⟩
    · rw [htransition, Option.some.injEq, Json.Value.string.injEq] at hget
      exact ⟨_, hget⟩
  · cases h
    simp only [FlowType.built, List.mem_map] at hpart
    obtain ⟨step, ⟨entry, -, rfl⟩, rfl⟩ | ⟨t, -, rfl⟩ := hpart
    · rw [hstandard, Option.some.injEq, Json.Value.string.injEq] at hget
      exact ⟨_, hget⟩
    · rw [htransition, Option.some.injEq, Json.Value.string.injEq] at hget
      exact ⟨_, hget⟩

/-! ## Usable definitions -/

/-- What a stored definition promises to the request it was built from: it runs the graph that
was asked for, it says again what was asked for, and a change to what it already says
changes only its version, its moment and the names that the service gives. -/
structure Usable (packages : Packages) (request : CreateFlowDefinitionRequest)
    (record : FlowDefinitionRecord) : Prop where
  kernel : ∃ kernel, record.kernel packages = .ok kernel ∧ request.Describes kernel
  readsBack : requestFromRecord record = .ok request.stored
  unchanged : ∀ {update now freshId record'}, Fresh freshId → PatchPresent update record →
    updateDefinitionRecord packages record update now freshId = .ok record' →
    ∃ rename, Set.InjOn rename record.generatedIds ∧ record' = record.renamed rename now

variable {record : FlowDefinitionRecord} {id : String} {version : Nat} {createdAt updatedAt : Utc}

/-- A definition is built from what is stored of its request. -/
theorem buildRecord_stored :
    buildRecord packages request.stored id version createdAt updatedAt freshId =
      buildRecord packages request id version createdAt updatedAt freshId := by
  simp only [buildRecord, CreateFlowDefinitionRequest.stored, deduplicate_deduplicate]
  rfl

/-- **The same request under other names** gives the same record under other names. -/
theorem buildRecord_renamed {record' : FlowDefinitionRecord} {now : Utc} (hfresh : Fresh freshId)
    (hfresh' : Fresh freshId')
    (h : buildRecord packages request id version createdAt updatedAt freshId = .ok record)
    (h' : buildRecord packages request id (min (version + 1) maxU32) createdAt now freshId' =
      .ok record') :
    ∃ rename, Set.InjOn rename record.generatedIds ∧ record' = record.renamed rename now := by
  simp only [buildRecord, bind_eq_ok, exists_unit, pure, Except.pure, Except.ok.injEq] at h h'
  obtain ⟨graph, hgraph, -, rfl⟩ := h
  obtain ⟨graph', hgraph', -, rfl⟩ := h'
  have hbuilt := buildGraph_eq_ok hgraph
  have hrename : ∀ n, Function.extend freshId freshId' (fun name => name) (freshId n) =
      freshId' n := fun n => hfresh.injective.extend_apply freshId' _ n
  refine ⟨Function.extend freshId freshId' fun name => name, ?_, ?_⟩
  · intro name hname name' hname' heq
    obtain ⟨n, rfl⟩ := generated_fresh hbuilt hname
    obtain ⟨n', rfl⟩ := generated_fresh hbuilt hname'
    rw [hrename, hrename] at heq
    rw [hfresh'.injective heq]
  · obtain rfl := Option.some.inj ((built_rename hrename hbuilt).symm.trans
      (buildGraph_eq_ok hgraph'))
    rfl

/-- A built definition is read back only when each action has a last part. -/
theorem namesActions_of_kernel (hfresh : Fresh freshId)
    (hvalid : request.validate packages = .ok ())
    (h : buildRecord packages request id version createdAt updatedAt freshId = .ok record)
    {kernel : FlowDefinition} (hkernel : record.kernel packages = .ok kernel) :
    NamesActions request := by
  simp only [buildRecord, bind_eq_ok, exists_unit, pure, Except.pure, Except.ok.injEq] at h
  obtain ⟨graph, hgraph, -, rfl⟩ := h
  simp only [FlowDefinitionRecord.kernel, bind_eq_ok] at hkernel
  obtain ⟨steps, hsteps, -⟩ := hkernel
  by_cases hcustom : request.flowType = .custom
  · exact hfresh.namesActions hcustom (buildGraph_eq_ok hgraph) hvalid hsteps
  · simp only [CreateFlowDefinitionRequest.validate, bind_eq_ok, exists_unit] at hvalid
    have hnone := (validateExtension_eq_ok hvalid.2.2.2.2.2.2.2.2.2.2.2).2 hcustom
    intro extension hextension
    rw [hnone] at hextension
    cases hextension

/-- **A built definition** is usable exactly when each action has a last part. -/
theorem usable_buildRecord (hfresh : Fresh freshId) (hvalid : request.validate packages = .ok ())
    (h : buildRecord packages request id version createdAt updatedAt freshId = .ok record) :
    Usable packages request record ↔ NamesActions request := by
  have hrecord := h
  simp only [buildRecord, bind_eq_ok, exists_unit, pure, Except.pure, Except.ok.injEq,
    mapError_eq_ok] at hrecord
  obtain ⟨graph, hgraph, hgraphValid, hrecord⟩ := hrecord
  have hbuilt := buildGraph_eq_ok hgraph
  constructor
  · intro husable
    obtain ⟨kernel, hkernel, -⟩ := husable.kernel
    exact namesActions_of_kernel hfresh hvalid h hkernel
  · intro hactions
    refine ⟨⟨graph.kernel, ?_, hfresh.describes hgraph⟩, requestFromRecord_buildRecord h, ?_⟩
    · rw [← hrecord]
      exact kernel_eq_ok (hfresh.steps hbuilt hvalid hactions) (hfresh.transitions hbuilt) rfl
        (hfresh.start hbuilt) hgraphValid
    · intro update now freshId' record' hfresh' hpresent hupdate
      obtain ⟨current, hcurrent, hbuild'⟩ := update_eq_ok hupdate
      obtain ⟨current', hcurrent', hpatch⟩ := hpresent
      obtain rfl : current = current' := Except.ok.inj (hcurrent.symm.trans hcurrent')
      obtain rfl : request.stored = current :=
        Except.ok.inj ((requestFromRecord_buildRecord h).symm.trans hcurrent)
      have hstored : (applyPatch request.stored update).stored = request.stored := by
        rw [hpatch]
        simp only [CreateFlowDefinitionRequest.stored, deduplicate_deduplicate]
      rw [← buildRecord_stored, hstored, buildRecord_stored] at hbuild'
      have hfields : record.id = id ∧ record.version = version ∧ record.createdAt = createdAt := by
        rw [← hrecord]
        exact ⟨rfl, rfl, rfl⟩
      rw [hfields.1, hfields.2.1, hfields.2.2] at hbuild'
      exact buildRecord_renamed hfresh hfresh' h hbuild'

/-- **Accepted requests** to create a definition or to change one store a usable definition
exactly when each action of the extension has a last part. -/
theorem accepted_usable_iff {now : Utc} (hfresh : Fresh freshId) :
    (createDefinitionRecord packages request now id freshId = .ok record →
      (Usable packages request record ↔ NamesActions request)) ∧
    ∀ existing update, updateDefinitionRecord packages existing update now freshId = .ok record →
      ∃ current, requestFromRecord existing = .ok current ∧
        (Usable packages (applyPatch current update) record ↔
          NamesActions (applyPatch current update)) := by
  constructor
  · intro h
    simp only [createDefinitionRecord, bind_eq_ok, exists_unit, mapError_eq_ok] at h
    exact usable_buildRecord hfresh h.1 h.2
  · intro existing update h
    simp only [updateDefinitionRecord, bind_eq_ok, exists_unit, mapError_eq_ok] at h
    obtain ⟨-, -, current, hcurrent, hvalid, hbuilt⟩ := h
    exact ⟨current, hcurrent, usable_buildRecord hfresh hvalid hbuilt⟩

end

namespace Example

/-- The packages with a URL parser and the checks of a graph's names. -/
def graphPackages : Packages :=
  { packages with
    urlScheme := fun _ => some "https"
    validateGraph := fun graph =>
      if graph.entryStepId ∈ graph.steps ∧ graph.steps.Nodup ∧
          ∀ t ∈ graph.transitions, t.fromStepId ∈ graph.steps ∧ t.toStepId ∈ graph.steps then
        .ok ()
      else .error "unknown step" }

/-- A custom definition of one step. -/
def customRequest (action : String) : CreateFlowDefinitionRequest where
  organizationId := "org-1"
  name := "Custom"
  description := none
  flowType := .custom
  approvalStrategy := .manual
  hooks := BTreeMap.empty
  trigger := none
  extension := some ⟨"https://example.org/extension", "1", .oid4vciPreAuthorized, "issue",
    [⟨"issue", action, none, BTreeMap.empty, none⟩], [], BTreeMap.empty⟩
  credentialTemplateId := none
  applicationTemplateId := none
  presentationPolicyId := none
  deliveryDestinationProfileId := none
  deploymentProfileIds := ["profile-1", "profile-1"]
  trustProfileId := none

def freshName (n : Nat) : String := String.ofList (List.replicate (n + 1) 'x')

theorem fresh_freshName : Fresh freshName := by
  constructor
  · intro n m h
    simpa [freshName] using congrArg (fun name : String => name.toList.length) h
  · intro n
    have hspace : ∀ c ∈ (freshName n).toList, Text.isWhitespace c = false := by
      intro c hc
      rw [freshName, String.toList_ofList, List.mem_replicate] at hc
      rw [hc.2]
      rfl
    rw [nonBlank, Text.trim_eq_self hspace, Bool.not_eq_true', ← Bool.not_eq_true,
      String.isEmpty_iff, ← String.toList_eq_nil_iff, freshName, String.toList_ofList]
    simp

theorem namesActions_customRequest (action : String) :
    NamesActions (customRequest action) ↔ NamesPart action := by
  simp [NamesActions, customRequest]

end Example

/-- A definition of one step that issues is usable. -/
theorem accepted_usable_issue : ∃ record,
    createDefinitionRecord Example.graphPackages (Example.customRequest "issuance.issue") 0
      "flow-2" Example.freshName = .ok record ∧
    Usable Example.graphPackages (Example.customRequest "issuance.issue") record := by
  have hok : (createDefinitionRecord Example.graphPackages (Example.customRequest "issuance.issue")
      0 "flow-2" Example.freshName).toOption.isSome = true := by
    decide +kernel
  obtain ⟨record, hrecord⟩ := Option.isSome_iff_exists.mp hok
  rw [toOption_eq_some] at hrecord
  refine ⟨record, hrecord, ((accepted_usable_iff Example.fresh_freshName).1 hrecord).mpr ?_⟩
  simp [Example.namesActions_customRequest, NamesPart]

/-- An action that ends in a separator is accepted, and the stored definition does not run. -/
theorem accepted_not_usable : ∃ record,
    createDefinitionRecord Example.graphPackages (Example.customRequest "issuance.") 0
      "flow-2" Example.freshName = .ok record ∧
    (∀ kernel, record.kernel Example.graphPackages ≠ .ok kernel) ∧
    ¬ Usable Example.graphPackages (Example.customRequest "issuance.") record := by
  have hok : (createDefinitionRecord Example.graphPackages (Example.customRequest "issuance.")
      0 "flow-2" Example.freshName).toOption.isSome = true := by
    decide +kernel
  obtain ⟨record, hrecord⟩ := Option.isSome_iff_exists.mp hok
  rw [toOption_eq_some] at hrecord
  have hbuilt := hrecord
  simp only [createDefinitionRecord, bind_eq_ok, exists_unit, mapError_eq_ok] at hbuilt
  have hactions : ¬ NamesActions (Example.customRequest "issuance.") := by
    simp [Example.namesActions_customRequest, NamesPart]
  have hkernel : ∀ kernel, record.kernel Example.graphPackages ≠ .ok kernel :=
    fun kernel h => hactions
      (namesActions_of_kernel Example.fresh_freshName hbuilt.1 hbuilt.2 h)
  refine ⟨record, hrecord, hkernel, fun husable => ?_⟩
  obtain ⟨kernel, h, -⟩ := husable.kernel
  exact hkernel kernel h

end Marty.Flow
