import Marty.Oid4vp.Validators
import Mathlib.Data.List.Lex

/-!
# The query document and the typed requirements

A frozen query holds the document that the wallet sees and the requirements that the
server checks.  The document is read again here, and every requirement must say exactly
what its entry says.

## Main definitions

* `validateDcqlDocument`, `validatePeDocument` — the two kinds of document.
* `validateQueryDocumentSemantics` — the identifiers the document asks for.
-/

namespace Marty.Oid4vp

open Lib Lib.Checked

/-- An object with every required key and no key besides the optional ones. -/
def exactObject (value : Value) (required optional : List String) : Validated Json.Map := do
  let object ← okOr value.asObject .invalidQueryDocument
  rejectIf ((∃ key ∈ required, Json.Map.get object key = none) ∨
      ∃ e ∈ object, e.1 ∉ required ∧ e.1 ∉ optional)
    .invalidQueryDocument
  return object

/-- The value of a key that `exactObject` has found. -/
def member (object : Json.Map) (key : String) : Value := (Json.Map.get object key).getD .null

def memberStr (object : Json.Map) (key : String) : Validated String :=
  okOr (member object key).asStr .invalidQueryDocument

/-- A flag that is off when it is absent. -/
def memberFlag (object : Json.Map) (key : String) : Validated Bool :=
  match Json.Map.get object key with
  | none => .ok false
  | some value => okOr value.asBool .invalidQueryDocument

def requirementById (requirements : List FrozenCredentialRequirement) (id : String) :
    Validated FrozenCredentialRequirement :=
  okOr (requirements.find? fun requirement => requirement.id = id) .invalidQueryDocument

def stringArray (value : Value) (field : String) : Validated (List String) := do
  let values ← okOr value.asArray .invalidQueryDocument
  rejectIf (values.isEmpty ∨ maxEvidenceListItems < values.length) .invalidQueryDocument
  mapEach (fun value => do
    let text ← okOr value.asStr .invalidQueryDocument
    requireText text field maxIdentifierBytes
    return text) values

/-- The elements of a list in increasing order, each of them once. -/
def sortDedup {α : Type} [LinearOrder α] (l : List α) : List α :=
  BTreeSet.toList (BTreeSet.ofList l)

@[simp] theorem mem_sortDedup {α : Type} [LinearOrder α] {l : List α} {a : α} :
    a ∈ sortDedup l ↔ a ∈ l :=
  BTreeSet.mem_ofList l a

theorem sorted_sortDedup {α : Type} [LinearOrder α] (l : List α) :
    (sortDedup l).Pairwise (· < ·) :=
  BTreeSet.sorted_toList _

theorem length_sortDedup_le {α : Type} [LinearOrder α] (l : List α) :
    (sortDedup l).length ≤ l.length :=
  BTreeSet.length_ofList_le l

def eqIgnoreNone (algorithm : String) : Bool := Text.eqIgnoreAsciiCase algorithm "none"

/-! ## DCQL -/

/-- The set of one alternative of `type_values`, without the type every credential has. -/
def dcqlAlternative (entry : Value) : Validated (List String) := do
  let values ← stringArray entry "query.document.meta.type_values"
  let alternative := BTreeSet.ofList values
  rejectIf (alternative.length ≠ values.length) .invalidQueryDocument
  let alternative := BTreeSet.remove alternative "VerifiableCredential"
  rejectIf (alternative.entries.isEmpty) .invalidQueryDocument
  return BTreeSet.toList alternative

def insertAlternative (sets : BTreeSet (List String)) (entry : Value) :
    Validated (BTreeSet (List String)) := do
  let alternative ← dcqlAlternative entry
  rejectIf (alternative ∈ sets) .invalidQueryDocument
  return BTreeSet.insert sets alternative

def extractDcqlMeta (metadata : Value) : Validated (List (List String)) := do
  let object ← okOr metadata.asObject .invalidQueryDocument
  let values ← match object with
    | [(key, value)] =>
        if key = "vct_values" then do
          let values ← stringArray value "query.document.meta"
          pure (values.map fun value => [value])
        else if key = "doctype_value" then do
          let value ← okOr value.asStr .invalidQueryDocument
          pure [[value]]
        else if key = "type_values" then do
          let alternatives ← okOr value.asArray .invalidQueryDocument
          let sets ← alternatives.foldlM insertAlternative BTreeMap.empty
          pure (BTreeSet.toList sets)
        else .error .invalidQueryDocument
    | _ => .error .invalidQueryDocument
  let values := sortDedup values
  rejectIf values.isEmpty .invalidQueryDocument
  return values

def canonicalClaimId (value : String) : String :=
  "claim_" ++ String.ofList (value.toList.map fun c => if c = '-' ∨ c = '.' then '_' else c)

/-- What was read of the claim entries so far. -/
structure DcqlClaims where
  claims : TextSet
  claimIds : TextSet
  boundPathClaims : TextSet
  retainedClaims : TextSet

/-- Whether a claim is one whose path the server has bound. -/
def boundPath (requirement : FrozenCredentialRequirement) (claim : String)
    (path : List String) : Validated Bool :=
  match requirement.dcqlClaimPaths.get claim with
  | some bound => if bound = path then .ok true else .error .invalidQueryDocument
  | none =>
      if path.any (fun component => Text.contains component ".") then
        .error .invalidQueryDocument
      else .ok false

def extractDcqlClaim (requirement : FrozenCredentialRequirement) (found : DcqlClaims)
    (entry : Value) : Validated DcqlClaims := do
  let object ← exactObject entry ["id", "path"] ["intent_to_retain"]
  let id ← memberStr object "id"
  requireIdentifier id "query.document.claim.id"
  let path ← stringArray (member object "path") "query.document.claim.path"
  rejectIf (¬ (1 ≤ path.length ∧ path.length ≤ 2)) .invalidQueryDocument
  let claim := ".".intercalate path
  let bound ← boundPath requirement claim path
  let intentToRetain ← memberFlag object "intent_to_retain"
  rejectIf (canonicalClaimId claim ≠ id ∨ id ∈ found.claimIds ∨
      claim ∉ requirement.allowedClaims ∨ claim ∈ found.claims)
    .invalidQueryDocument
  return {
    claims := BTreeSet.insert found.claims claim
    claimIds := BTreeSet.insert found.claimIds id
    boundPathClaims :=
      if bound then BTreeSet.insert found.boundPathClaims claim else found.boundPathClaims
    retainedClaims :=
      if intentToRetain then BTreeSet.insert found.retainedClaims claim
      else found.retainedClaims }

/-- The claims that the entries name, and those they mean to retain. -/
def extractDcqlClaims (entries : List Value) (requirement : FrozenCredentialRequirement) :
    Validated (List String × List String) := do
  let found ← entries.foldlM (extractDcqlClaim requirement)
    ⟨BTreeMap.empty, BTreeMap.empty, BTreeMap.empty, BTreeMap.empty⟩
  rejectIf (BTreeSet.toList found.boundPathClaims ≠ requirement.dcqlClaimPaths.keys)
    .invalidQueryDocument
  return (BTreeSet.toList found.claims, BTreeSet.toList found.retainedClaims)

def validateDcqlEntry (requirements : List FrozenCredentialRequirement) (ids : TextSet)
    (entry : Value) : Validated TextSet := do
  let object ← exactObject entry ["format", "id", "meta"] ["claims"]
  let id ← memberStr object "id"
  requireIdentifier id "query.document.id"
  rejectIf (id ∈ ids) .invalidQueryDocument
  let requirement ← requirementById requirements id
  let format ← memberStr object "format"
  rejectIf (requirement.acceptedFormats ≠ [format]) .invalidQueryDocument
  rejectIf (¬ requirement.formatOptions.entries.isEmpty) .invalidQueryDocument
  let typeSets ← extractDcqlMeta (member object "meta")
  rejectIf (requirement.acceptedTypeSets ≠ typeSets) .invalidQueryDocument
  let claimEntries ← match Json.Map.get object "claims" with
    | none => .ok []
    | some claims => okOr claims.asArray .invalidQueryDocument
  let (claims, retainedClaims) ← extractDcqlClaims claimEntries requirement
  rejectIf (requirement.requiredClaims ≠ claims ∨ requirement.allowedClaims ≠ claims ∨
      requirement.retainedClaims ≠ retainedClaims)
    .invalidQueryDocument
  return BTreeSet.insert ids id

def validateDcqlDocument (document : Value)
    (requirements : List FrozenCredentialRequirement) : Validated TextSet := do
  let object ← exactObject document ["credentials"] []
  let entries ← okOr (member object "credentials").asArray .invalidQueryDocument
  let ids ← entries.foldlM (validateDcqlEntry requirements) BTreeMap.empty
  rejectIf (ids.entries.isEmpty ∨ ids.length ≠ entries.length) .invalidQueryDocument
  return ids

/-! ## Presentation Exchange -/

/-- Add the options of one format, which other requirements may have named before. -/
def insertTopFormat (formats : Json.Map) (e : String × Value) : Validated Json.Map := do
  rejectIf ((Json.Map.get formats e.1).any fun previous => !(previous == e.2))
    .invalidQueryDocument
  return Json.Map.insert formats e.1 e.2

def insertTopFormats (formats : Json.Map) (requirement : FrozenCredentialRequirement) :
    Validated Json.Map := do
  rejectIf (requirement.formatOptions.keys ≠ requirement.acceptedFormats) .invalidQueryDocument
  requirement.formatOptions.entries.foldlM insertTopFormat formats

def expectedPeTopFormats (requirements : List FrozenCredentialRequirement) :
    Validated Json.Map :=
  requirements.foldlM insertTopFormats []

def algorithmKeys : List String := ["alg", "proof_type", "sd-jwt_alg_values", "kb-jwt_alg_values"]

def validateAlgorithmValues (values : Value) : Validated Unit := do
  let algorithms ← stringArray values "query.document.format.algorithms"
  rejectIf (algorithms.any eqIgnoreNone) .invalidQueryDocument

def validatePeFormatOption (requirement : FrozenCredentialRequirement)
    (e : String × Value) : Validated Unit := do
  let object ← okOr e.2.asObject .invalidQueryDocument
  rejectIf (object.isEmpty ∨ ∃ f ∈ object, f.1 ∉ algorithmKeys) .invalidQueryDocument
  forEach validateAlgorithmValues (object.map Prod.snd)
  let primary ← okOr (["alg", "proof_type", "sd-jwt_alg_values"].findSome?
    (Json.Map.get object)) .invalidQueryDocument
  let primaryValues ← stringArray primary "query.document.format.primary_algorithms"
  let primaryAlgorithms := sortDedup primaryValues
  rejectIf (primaryAlgorithms.length ≠ primaryValues.length) .invalidQueryDocument
  rejectIf (some primaryAlgorithms ≠ requirement.acceptedAlgorithms.get e.1)
    .invalidQueryDocument

def validatePeFormatOptions (requirement : FrozenCredentialRequirement) : Validated Unit :=
  forEach (validatePeFormatOption requirement) requirement.formatOptions.entries

def peClaimName (paths : List String) : Option String :=
  match paths with
  | [_, _, last] => do
      let claim ← Text.stripPrefix last "$."
      if paths = ["$.vc.credentialSubject." ++ claim, "$.credentialSubject." ++ claim,
          "$." ++ claim] then
        some claim
      else none
  | _ => none

mutual

/-- The constant of an alternative, which may stand within `contains`. -/
def collectConstStrings : Value → TextSet → Validated TextSet
  | .object entries, output =>
      let typed (name : String) : Bool :=
        entries.length = 2 ∧ (Json.Map.get entries "type").bind Json.Value.asStr = some name
      match Json.Map.get entries "const" with
      | some value => do
          rejectIf (¬ typed "string") .invalidQueryDocument
          let value ← okOr value.asStr .invalidQueryDocument
          return BTreeSet.insert output value
      | none => collectContains (typed "array") entries output
  | _, _ => .error .invalidQueryDocument

def collectContains (typed : Bool) : List (String × Value) → TextSet → Validated TextSet
  | [], _ => .error .invalidQueryDocument
  | (key, value) :: entries, output =>
      if key = "contains" then
        if typed then collectConstStrings value output else .error .invalidQueryDocument
      else collectContains typed entries output

end

def peSelectorValues (paths : List String) (filter : Value) : Validated (List String) :=
  if paths = ["$.vct"] ∨ paths = ["$.mdoc.docType", "$.docType"] then do
    let object ← exactObject filter ["type"] ["const", "enum"]
    rejectIf ((member object "type").asStr ≠ some "string") .invalidQueryDocument
    match Json.Map.get object "const", Json.Map.get object "enum" with
    | some value, none => do
        let value ← okOr value.asStr .invalidQueryDocument
        return [value]
    | none, some values => stringArray values "query.document.selector.enum"
    | _, _ => .error .invalidQueryDocument
  else if paths = ["$.vc.type", "$.type"] then do
    let object ← exactObject filter ["anyOf"] []
    let alternatives ← okOr (member object "anyOf").asArray .invalidQueryDocument
    let values ← alternatives.foldlM (fun values alternative =>
      collectConstStrings alternative values) BTreeMap.empty
    let values := BTreeSet.remove values "VerifiableCredential"
    rejectIf (values.entries.isEmpty) .invalidQueryDocument
    return BTreeSet.toList values
  else .error .invalidQueryDocument

/-- What was read of the constraint fields so far. -/
structure PeFields where
  types : TextSet
  allowedClaims : TextSet
  requiredClaims : TextSet
  retainedClaims : TextSet

def extractPeField (found : PeFields) (field : Value) : Validated PeFields := do
  let field ← exactObject field ["path"]
    ["filter", "intent_to_retain", "name", "optional", "purpose"]
  let paths ← stringArray (member field "path") "query.document.field.path"
  match peClaimName paths with
  | some claim => do
      requireIdentifier claim "query.document.claim"
      rejectIf (claim ∈ found.allowedClaims) .invalidQueryDocument
      let optional ← memberFlag field "optional"
      let retain ← memberFlag field "intent_to_retain"
      return { found with
        allowedClaims := BTreeSet.insert found.allowedClaims claim
        requiredClaims :=
          if optional then found.requiredClaims
          else BTreeSet.insert found.requiredClaims claim
        retainedClaims :=
          if retain then BTreeSet.insert found.retainedClaims claim
          else found.retainedClaims }
  | none => do
      let filter ← okOr (Json.Map.get field "filter") .invalidQueryDocument
      let values ← peSelectorValues paths filter
      return { found with types := values.foldl BTreeSet.insert found.types }

def validatePeConstraints (constraints : Value) (requirement : FrozenCredentialRequirement) :
    Validated Unit := do
  let object ← exactObject constraints ["fields"] ["limit_disclosure"]
  rejectIf ((Json.Map.get object "limit_disclosure").any fun value =>
    value.asStr ≠ some "required") .invalidQueryDocument
  let fields ← okOr (member object "fields").asArray .invalidQueryDocument
  let found ← fields.foldlM extractPeField
    ⟨BTreeMap.empty, BTreeMap.empty, BTreeMap.empty, BTreeMap.empty⟩
  let selectorTypeSets := (BTreeSet.toList found.types).map fun value => [value]
  rejectIf (selectorTypeSets ≠ requirement.acceptedTypeSets ∨
      BTreeSet.toList found.allowedClaims ≠ requirement.allowedClaims ∨
      BTreeSet.toList found.requiredClaims ≠ requirement.requiredClaims ∨
      BTreeSet.toList found.retainedClaims ≠ requirement.retainedClaims)
    .invalidQueryDocument

def validatePeText (descriptor : Json.Map) (key field : String) : Validated Unit := do
  let text ← memberStr descriptor key
  requireText text field maxIdentifierBytes

def validatePeDescriptor (requirements : List FrozenCredentialRequirement) (ids : TextSet)
    (entry : Value) : Validated TextSet := do
  let descriptor ← exactObject entry ["constraints", "format", "id", "name", "purpose"] []
  let id ← memberStr descriptor "id"
  requireIdentifier id "query.document.id"
  rejectIf (id ∈ ids) .invalidQueryDocument
  validatePeText descriptor "name" "query.document.descriptor.name"
  validatePeText descriptor "purpose" "query.document.descriptor.purpose"
  let requirement ← requirementById requirements id
  let formats ← okOr (member descriptor "format").asObject .invalidQueryDocument
  rejectIf (¬ (Json.Value.object formats == ofValues requirement.formatOptions))
    .invalidQueryDocument
  validatePeFormatOptions requirement
  validatePeConstraints (member descriptor "constraints") requirement
  return BTreeSet.insert ids id

def validatePeDocument (document : Value)
    (requirements : List FrozenCredentialRequirement) : Validated TextSet := do
  rejectIf (∃ requirement ∈ requirements, ¬ requirement.dcqlClaimPaths.entries.isEmpty)
    .invalidQueryDocument
  let object ← exactObject document ["format", "id", "input_descriptors"] []
  let definitionId ← memberStr object "id"
  requireIdentifier definitionId "query.document.definition_id"
  let topFormats ← okOr (member object "format").asObject .invalidQueryDocument
  let expected ← expectedPeTopFormats requirements
  rejectIf (¬ (Json.Value.object topFormats == Json.Value.object expected))
    .invalidQueryDocument
  let entries ← okOr (member object "input_descriptors").asArray .invalidQueryDocument
  let ids ← entries.foldlM (validatePeDescriptor requirements) BTreeMap.empty
  rejectIf (ids.entries.isEmpty ∨ ids.length ≠ entries.length) .invalidQueryDocument
  return ids

/-- The identifiers that the document asks for. -/
def validateQueryDocumentSemantics (kind : QueryKind) (document : Value)
    (requirements : List FrozenCredentialRequirement) : Validated TextSet :=
  match kind with
  | .dcql => validateDcqlDocument document requirements
  | .presentationExchange => validatePeDocument document requirements

end Marty.Oid4vp
