import Marty.Flow.PhysicalStart
import Marty.Lib.JsonText

/-!
# The fingerprint of a start request

A physical start is reserved under the digest of a text of its request.  The text writes the
members of every object in the order of their names, so that clients may send them in any order.

## Main definitions

* `canonical` — the text.
* `canonical_eq_iff` — it tells values apart exactly when they differ in more than the order of
  members.
* `fingerprint_canonical` — two requests share the text exactly when they are the same request.
-/

namespace Marty.Flow

open Lib Lib.Json

/-- The texts, with commas between them. -/
def joinComma (texts : List (List Char)) : List Char := [','].intercalate texts

mutual

def canonical : Value → List Char
  | .object fields =>
      '\x7b' :: joinComma ((BTreeMap.ofEntries (canonicalFields fields)).entries.map fun field =>
        writeString field.1 ++ ':' :: field.2) ++ ['\x7d']
  | .array values => '[' :: joinComma (canonicalItems values) ++ [']']
  | value => value.write

def canonicalItems : List Value → List (List Char)
  | [] => []
  | value :: values => canonical value :: canonicalItems values

/-- The members of an object, each with its text. -/
def canonicalFields : List (String × Value) → List (String × List Char)
  | [] => []
  | (name, value) :: fields => (name, canonical value) :: canonicalFields fields

end

/-! ## The text of a sorted value -/

theorem joinComma_cons_cons (text next : List Char) (texts : List (List Char)) :
    joinComma (text :: next :: texts) = text ++ ',' :: joinComma (next :: texts) := by
  simp [joinComma, List.intercalate]

theorem joinComma_singleton (text : List Char) : joinComma [text] = text := by
  simp [joinComma, List.intercalate]

theorem writeItems_eq_join (items : List Value) :
    writeItems items = joinComma (items.map Value.write) ++ [']'] := by
  induction items with
  | nil => rfl
  | cons v items ih =>
      cases items with
      | nil => rw [List.map_singleton, joinComma_singleton, writeItems]
      | cons w items =>
          have htail : writeItems (v :: w :: items) = v.write ++ ',' :: writeItems (w :: items) :=
            rfl
          simp only [htail, ih, List.map_cons, joinComma_cons_cons, List.append_assoc,
            List.cons_append]

theorem writeEntries_eq_join (entries : List (String × Value)) :
    writeEntries entries =
      joinComma (entries.map fun e => writeString e.1 ++ ':' :: e.2.write) ++ ['\x7d'] := by
  induction entries with
  | nil => rfl
  | cons e entries ih =>
      cases entries with
      | nil =>
          rw [List.map_singleton, joinComma_singleton, writeEntries_cons, List.append_assoc]
          rfl
      | cons f entries =>
          have htail : entriesTail (f :: entries) = ',' :: writeEntries (f :: entries) := rfl
          rw [writeEntries_cons, htail, ih]
          simp only [List.map_cons, joinComma_cons_cons, List.append_assoc, List.cons_append]

mutual

/-- The text is the compact text of the value with sorted members. -/
theorem canonical_eq_write : ∀ v : Value, canonical v = v.sorted.write
  | .null | .bool _ | .number _ | .string _ => rfl
  | .array items => by
      rw [canonical, canonicalItems_eq_write, Value.sorted, Value.write, writeItems_eq_join]
      rfl
  | .object fields => by
      have hfields : canonicalFields fields =
          (sortedEntries fields).map fun e => (e.1, e.2.write) := by
        rw [canonicalFields_eq_write fields]
      rw [canonical, hfields, BTreeMap.entries_ofEntries_map, List.map_map, Value.sorted,
        Value.write, writeEntries_eq_join]
      rfl

theorem canonicalItems_eq_write : ∀ items : List Value,
    canonicalItems items = (sortedItems items).map Value.write
  | [] => rfl
  | v :: items => by
      rw [canonicalItems, canonical_eq_write v, canonicalItems_eq_write items, sortedItems,
        List.map_cons]

theorem canonicalFields_eq_write : ∀ fields : List (String × Value),
    canonicalFields fields = (sortedEntries fields).map fun e => (e.1, e.2.write)
  | [] => rfl
  | (name, value) :: fields => by
      rw [canonicalFields, canonical_eq_write value, canonicalFields_eq_write fields,
        sortedEntries, List.map_cons]

end

/-- **The text is canonical.** -/
theorem canonical_eq_iff {a b : Value} (ha : a.WellFormed) (hb : b.WellFormed) :
    canonical a = canonical b ↔ (a == b) = true := by
  rw [canonical_eq_write, canonical_eq_write]
  constructor
  · exact Value.canonical_injective ha hb
  · intro h
    rw [Value.sorted_eq_of_beq ha hb h]

/-! ## Requests -/

def requestPrefix : List Char := "marty:physical-flow-start-request:v1:".toList

/-- What the digest of a request is taken of. -/
def fingerprintText (request : StartFlowRequest) : List Char :=
  requestPrefix ++ canonical request.toValue

theorem requestHashOf_eq (packages : PhysicalStartPackages) (request : StartFlowRequest) :
    requestHashOf packages request = packages.sha256Hex (fingerprintText request) :=
  congrArg (fun text => packages.sha256Hex (requestPrefix ++ text))
    (canonical_eq_write request.toValue).symm

/-- The same request; the members of its context may stand in another order. -/
structure SameRequest (r r' : StartFlowRequest) : Prop where
  organizationId : r.organizationId = r'.organizationId
  flowDefinitionId : r.flowDefinitionId = r'.flowDefinitionId
  subjectId : r.subjectId = r'.subjectId
  subjectType : r.subjectType = r'.subjectType
  externalReference : r.externalReference = r'.externalReference
  initialContext : (r.initialContext == r'.initialContext) = true

/-- The members of a request before its context. -/
def leadingFields (r : StartFlowRequest) : Map :=
  [("organization_id", .string r.organizationId),
      ("flow_definition_id", .string r.flowDefinitionId)] ++
    (r.subjectId.map fun id => ("subject_id", Json.Value.string id)).toList ++
    [("subject_type", .string r.subjectType)] ++
    (r.externalReference.map fun reference =>
      ("external_reference", Json.Value.string reference)).toList

theorem toValue_eq (r : StartFlowRequest) :
    r.toValue = .object (leadingFields r ++ [("initial_context", r.initialContext)]) := rfl

theorem toValue_wellFormed {r : StartFlowRequest} (h : r.initialContext.WellFormed) :
    r.toValue.WellFormed := by
  have hoption : ∀ (name : String) (o : Option String),
      ((o.map fun x => (name, Json.Value.string x)).toList.map Prod.fst).Sublist [name] := by
    intro name o
    cases o <;> simp
  have hnames : ((leadingFields r ++ [("initial_context", r.initialContext)]).map Prod.fst).Sublist
      ["organization_id", "flow_definition_id", "subject_id", "subject_type",
        "external_reference", "initial_context"] := by
    simp only [leadingFields, List.map_append]
    exact ((((List.Sublist.refl _).append (hoption "subject_id" r.subjectId)).append
      (List.Sublist.refl _)).append (hoption "external_reference" r.externalReference)).append
        (List.Sublist.refl _)
  refine ⟨List.Nodup.sublist hnames (by decide), entriesWellFormed_iff.mpr fun e he => ?_⟩
  simp only [List.mem_append, List.mem_cons, List.not_mem_nil, or_false, Option.mem_toList,
    Option.map_eq_some_iff] at he
  obtain ((((rfl | rfl) | ⟨id, -, rfl⟩) | rfl) | ⟨reference, -, rfl⟩) | rfl := he
  all_goals first | exact trivial | exact h

theorem string_of_beq {a b : String}
    (h : Option.Rel (fun v w => Value.beq v w = true) (some (.string a)) (some (.string b))) :
    a = b := by
  cases h with
  | some h => exact eq_of_beq h

theorem option_of_beq {a b : Option String}
    (h : Option.Rel (fun v w => Value.beq v w = true) (a.map .string) (b.map .string)) : a = b := by
  cases a with
  | none =>
      cases b with
      | none => rfl
      | some b => cases h
  | some a =>
      cases b with
      | none => cases h
      | some b => exact congrArg some (string_of_beq h)

/-- The document of a request has its fields. -/
theorem toValue_beq_iff {r r' : StartFlowRequest} (h : r.initialContext.WellFormed)
    (h' : r'.initialContext.WellFormed) : (r.toValue == r'.toValue) = true ↔ SameRequest r r' := by
  constructor
  · intro hbeq
    have hget : ∀ key, Option.Rel (fun v w => Value.beq v w = true)
        (Map.get (leadingFields r ++ [("initial_context", r.initialContext)]) key)
        (Map.get (leadingFields r' ++ [("initial_context", r'.initialContext)]) key) :=
      Map.get_of_beq (toValue_wellFormed h).1 (toValue_wellFormed h').1 hbeq
    have hfields : ∀ r : StartFlowRequest,
        let fields := leadingFields r ++ [("initial_context", r.initialContext)]
        fields.get "organization_id" = some (.string r.organizationId) ∧
          fields.get "flow_definition_id" = some (.string r.flowDefinitionId) ∧
          fields.get "subject_id" = r.subjectId.map .string ∧
          fields.get "subject_type" = some (.string r.subjectType) ∧
          fields.get "external_reference" = r.externalReference.map .string ∧
          fields.get "initial_context" = some r.initialContext := by
      rintro ⟨organizationId, flowDefinitionId, subjectId, subjectType, reference, context⟩
      cases subjectId <;> cases reference <;> exact ⟨rfl, rfl, rfl, rfl, rfl, rfl⟩
    obtain ⟨horganization, hdefinition, hsubject, htype, hreference, hcontext⟩ := hfields r
    obtain ⟨horganization', hdefinition', hsubject', htype', hreference', hcontext'⟩ := hfields r'
    have hcontexts := hget "initial_context"
    rw [hcontext, hcontext'] at hcontexts
    constructor
    · exact string_of_beq (horganization ▸ horganization' ▸ hget "organization_id")
    · exact string_of_beq (hdefinition ▸ hdefinition' ▸ hget "flow_definition_id")
    · exact option_of_beq (hsubject ▸ hsubject' ▸ hget "subject_id")
    · exact string_of_beq (htype ▸ htype' ▸ hget "subject_type")
    · exact option_of_beq (hreference ▸ hreference' ▸ hget "external_reference")
    · cases hcontexts with
      | some hbeq => exact hbeq
  · intro hsame
    have hleading : leadingFields r = leadingFields r' := by
      rw [leadingFields, hsame.organizationId, hsame.flowDefinitionId, hsame.subjectId,
        hsame.subjectType, hsame.externalReference, leadingFields]
    change Value.beq r.toValue r'.toValue = true
    rw [toValue_eq, toValue_eq, hleading, Value.beq, Bool.and_eq_true, entriesFound_iff]
    refine ⟨by simp, fun e he => ?_⟩
    rw [List.mem_append, List.mem_singleton] at he
    obtain he | rfl := he
    · exact ⟨e, List.mem_append_left _ he, rfl, Value.beq_self e.2⟩
    · exact ⟨_, List.mem_append_right _ List.mem_cons_self, rfl, hsame.initialContext⟩

/-- **The text of a request is canonical.**  Values have the same text exactly when they are equal
up to the order of members, and requests exactly when they are the same request. -/
theorem fingerprint_canonical :
    (∀ a b : Value, a.WellFormed → b.WellFormed →
      (canonical a = canonical b ↔ (a == b) = true)) ∧
    ∀ r r' : StartFlowRequest, r.initialContext.WellFormed → r'.initialContext.WellFormed →
      (fingerprintText r = fingerprintText r' ↔ SameRequest r r') := by
  refine ⟨fun a b ha hb => canonical_eq_iff ha hb, fun r r' h h' => ?_⟩
  rw [← toValue_beq_iff h h',
    ← canonical_eq_iff (toValue_wellFormed h) (toValue_wellFormed h')]
  exact List.append_right_inj requestPrefix

theorem fingerprint_canonical_reordered :
    canonical (.object [("b", .array [.number "1", .object []]), ("a", .string ",\"")]) =
      canonical (.object [("a", .string ",\""), ("b", .array [.number "1", .object []])]) ∧
    fingerprintText ⟨"org-a", "flow-a", none, "applicant", none, .object []⟩ ≠
      fingerprintText ⟨"org-a", "flow-a", some "", "applicant", none, .object []⟩ := by
  have hempty : (Json.Value.object []).WellFormed := ⟨List.nodup_nil, trivial⟩
  have hone : isNumberToken "1" := ⟨by decide, by simp [isNumberChar]⟩
  have hfirst : (Json.Value.object
      [("b", .array [.number "1", .object []]), ("a", .string ",\"")]).WellFormed :=
    ⟨by decide, ⟨hone, hempty, trivial⟩, trivial, trivial⟩
  have hsecond : (Json.Value.object
      [("a", .string ",\""), ("b", .array [.number "1", .object []])]).WellFormed :=
    ⟨by decide, trivial, ⟨hone, hempty, trivial⟩, trivial⟩
  refine ⟨(fingerprint_canonical.1 _ _ hfirst hsecond).mpr rfl, fun h => ?_⟩
  have hsubject := ((fingerprint_canonical.2 _ _ hempty hempty).mp h).subjectId
  cases hsubject

end Marty.Flow
