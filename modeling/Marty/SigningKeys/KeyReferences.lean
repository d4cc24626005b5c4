import Marty.Lib.BTree
import Marty.Lib.Json
import Marty.Lib.Text
import Marty.SigningKeys.RegistryRevision
import Mathlib.Data.String.Basic

/-!
# References to keys

The registry binds the references of keys to purposes.  For a request the reference of a service
is resolved in three ways: by the bindings of a purpose, by the names of managed keys, and by an
algorithm alone.  A key of the tools of learning platforms is reserved for them, by its binding,
by the list of its service, or by its name.

## Main definitions

* `normalizeBindings`, `validateLtiBindings` — the bindings of a registry.
* `resolveKeyReference` — the reference that answers a request.
* `LtiOnly` — the references that are reserved.

## Main results

* `resolveKeyReference_served` — what holds of a reference that answers a request.
-/

namespace Marty.SigningKeys.Registry

open Lib Lib.Json Lib.Checked

def MANAGED_OPENBAO_SERVICE_ID : String := "managed-openbao-transit"

def ltiToolSigning : String := "lti_tool_signing"

/-! ## Purposes -/

def keyPurposes : List String :=
  ["vc_jwt_issuer", "mdoc_iaca", "mdoc_dsc", "x509_doc_signer", "holder_binding",
    "presentation_signing", "oid4vp_request_signing", "vdsnc_signing", "csca", "jwks_signing",
    "lti_tool_signing"]

def isKeyPurpose (value : String) : Bool := keyPurposes.contains value

/-- The purposes of a managed key, by the beginning of its name. -/
def managedKeyPurposes (reference : String) : List String :=
  if Text.startsWith reference "oid4vp-verifier-" then ["oid4vp_request_signing"]
  else if Text.startsWith reference "cred-holder-" then ["holder_binding"]
  else if Text.startsWith reference "cred-presenter-" then ["presentation_signing"]
  else if Text.startsWith reference "lti-tool-" then ["lti_tool_signing"]
  else if Text.startsWith reference "cred-dsc-" then
    ["mdoc_iaca", "mdoc_dsc", "x509_doc_signer", "vdsnc_signing", "csca"]
  else if Text.startsWith reference "cred-issuer-" then ["vc_jwt_issuer", "jwks_signing"]
  else []

/-! ## Bindings -/

def splitCommas (value : String) : List String :=
  (value.toList.splitOn ',').map String.ofList

/-- The texts of a list, or of a text with commas, each of them once. -/
def dedupeStrings (value : Option Value) : List String :=
  let candidates := match value with
    | some (.string value) => (splitCommas value).map Value.string
    | some (.array values) => values
    | _ => []
  ((candidates.filterMap fun value => value.asStr.map Text.trim).filter (· ≠ "")).eraseDups

abbrev References := BTreeMap String (List String)

abbrev Bindings := BTreeMap String References

def insertReference (normalized : References) (entry : String × Value) : References :=
  let reference := Text.trim entry.1
  let purposes := (dedupeStrings (some entry.2)).filter isKeyPurpose
  if reference = "" ∨ purposes = [] then normalized else normalized.insert reference purposes

def normalizeReferences (references : Map) : References :=
  references.foldl insertReference .empty

def insertService (normalized : Bindings) (entry : String × Value) : Bindings :=
  match entry.2.asObject with
  | none => normalized
  | some references =>
      let serviceId := Text.trim entry.1
      let normalizedReferences := normalizeReferences references
      if serviceId = "" ∨ normalizedReferences.entries = [] then normalized
      else normalized.insert serviceId normalizedReferences

def normalizeBindings (value : Option Value) : Bindings :=
  match value.bind Value.asObject with
  | none => .empty
  | some services => services.foldl insertService .empty

def validateLtiBindings (bindings : Bindings) : Except RegistryError Unit :=
  forEach (fun service => forEach (fun reference =>
    rejectIf (ltiToolSigning ∈ reference.2 ∧ reference.2 ≠ [ltiToolSigning])
      (.invalid ("Key reference '" ++ reference.1 ++ "' in service '" ++ service.1 ++
        "' cannot combine lti_tool_signing with credential-signing purposes.")))
    service.2.entries) bindings.entries

/-! ## Resolution -/

section

variable (registry service : Value) (keys : List Value)

/-- The reference by which a key is known. -/
def keyReference (key : Value) : Option String :=
  ((key.get "provider_key_name").orElse fun _ => key.get "id").bind Value.asStr

def keyAlgorithm (key : Value) : Option String := (key.get "algorithm").bind Value.asStr

/-- The reference that the service has now. -/
def currentReference : Option String :=
  (((service.get "key_reference").bind Value.asStr).map Text.trim).filter (· ≠ "")

def serviceId : Option String := (service.get "id").bind Value.asStr

def ltiOnlyReferences : List String := dedupeStrings (service.get "lti_only_references")

/-- The aliases of the service, with its current reference. -/
def aliases : List String :=
  dedupeStrings (service.get "key_aliases") ++ (currentReference service).toList

def bindings : Bindings := normalizeBindings (registry.get "key_reference_purposes")

/-- The references that the registry binds for a service. -/
def serviceBindings (id : String) : References := ((bindings registry).get id).getD .empty

/-- The current reference, where it is a candidate, and else the first candidate. -/
def preferCurrent (current : Option String) (candidates : List String) : Option String :=
  if current.any fun reference => candidates.contains reference then current
  else (candidates.mergeSort fun a b => a ≤ b).head?

/-- The references of the keys of an algorithm, when no purpose is requested. -/
def algorithmCandidates (id algorithm : String) : List String :=
  let references := aliases service ++
    if id ≠ MANAGED_OPENBAO_SERVICE_ID then (serviceBindings registry id).keys else []
  (keys.filter fun key => keyAlgorithm key = some algorithm).filterMap fun key =>
    ((keyReference key).filter fun reference => references.contains reference).filter
      fun reference =>
        !((key.get "service_id").bind Value.asStr).any (· ≠ id) &&
          !((((serviceBindings registry id).get reference).any (· = [ltiToolSigning])) ||
            (ltiOnlyReferences service).contains reference ||
            (id = MANAGED_OPENBAO_SERVICE_ID && managedKeyPurposes reference = [ltiToolSigning]))

/-- The references that are bound to the purpose. -/
def boundCandidates (id purpose : String) : List String :=
  ((serviceBindings registry id).entries.filter fun entry =>
    entry.2.contains purpose &&
      (purpose = ltiToolSigning || !(ltiOnlyReferences service).contains entry.1) &&
      (id ≠ MANAGED_OPENBAO_SERVICE_ID || managedKeyPurposes entry.1 = [] ||
        (managedKeyPurposes entry.1).contains purpose) &&
      ((aliases service).contains entry.1 ||
        (id ≠ MANAGED_OPENBAO_SERVICE_ID && aliases service = []))).map Prod.fst

/-- The references of managed keys whose names allow the purpose. -/
def managedCandidates (purpose : String) : List String :=
  keys.filterMap fun key => (keyReference key).filter fun reference =>
    ((managedKeyPurposes reference).contains purpose ||
        (purpose = ltiToolSigning && (ltiOnlyReferences service).contains reference)) &&
      (purpose = ltiToolSigning || !(ltiOnlyReferences service).contains reference) &&
      (aliases service).contains reference

/-- The algorithm of a reference is that of the last key that is known by it. -/
def algorithmOf (reference : String) : Option String :=
  ((keys.filterMap fun key => (keyReference key).map fun name =>
    (name, keyAlgorithm key)).reverse.lookup reference).join

def purposeCandidates (id purpose : String) : List String :=
  let bound := boundCandidates registry service id purpose
  if bound = [] ∧ id = MANAGED_OPENBAO_SERVICE_ID then managedCandidates service keys purpose
  else bound

def resolveKeyReference (purpose algorithm : Option String) : Option String :=
  let current := currentReference service
  match purpose with
  | none =>
      match algorithm with
      | none => current
      | some algorithm =>
          (serviceId service).bind fun id =>
            preferCurrent current (algorithmCandidates registry service keys id algorithm)
  | some purpose =>
      match serviceId service with
      | none => current
      | some id =>
          let candidates := purposeCandidates registry service keys id purpose
          if candidates = [] then
            if id = MANAGED_OPENBAO_SERVICE_ID then none
            else if (serviceBindings registry id).entries = [] then current
            else none
          else
            match algorithm with
            | none => preferCurrent current candidates
            | some algorithm => preferCurrent current
                (candidates.filter fun reference => algorithmOf keys reference = some algorithm)

/-! ## What answers a request -/

/-- The binding of the reference for the service is exactly that of the tools. -/
def BoundToLti (id reference : String) : Prop :=
  (serviceBindings registry id).get reference = some [ltiToolSigning]

/-- The reference is reserved for the tools. -/
def LtiOnly (id reference : String) : Prop :=
  BoundToLti registry id reference ∨ reference ∈ ltiOnlyReferences service ∨
    (id = MANAGED_OPENBAO_SERVICE_ID ∧ managedKeyPurposes reference = [ltiToolSigning])

/-- What holds of a reference that answers a request. -/
structure Served (purpose algorithm : Option String) (id reference : String) : Prop where
  /-- A listed reference answers no other purpose, nor does one that is named for the tools. -/
  listed : purpose ≠ some ltiToolSigning → reference ∉ ltiOnlyReferences service
  named : purpose ≠ some ltiToolSigning → id = MANAGED_OPENBAO_SERVICE_ID →
    managedKeyPurposes reference ≠ [ltiToolSigning]
  /-- Nor does a bound one, unless a managed key has a name that allows the purpose. -/
  bound : purpose ≠ some ltiToolSigning → BoundToLti registry id reference →
    id = MANAGED_OPENBAO_SERVICE_ID ∧ ∃ p, purpose = some p ∧ p ∈ managedKeyPurposes reference
  exclusive : purpose = some ltiToolSigning → LtiOnly registry service id reference
  allowed : ∀ p, purpose = some p →
    (∃ purposes, (serviceBindings registry id).get reference = some purposes ∧ p ∈ purposes) ∨
      (id = MANAGED_OPENBAO_SERVICE_ID ∧ p ∈ managedKeyPurposes reference) ∨
      (id = MANAGED_OPENBAO_SERVICE_ID ∧ p = ltiToolSigning ∧
        reference ∈ ltiOnlyReferences service)
  member : ∀ p, purpose = some p →
    reference ∈ dedupeStrings (service.get "key_aliases") ∨
      currentReference service = some reference ∨
      (id ≠ MANAGED_OPENBAO_SERVICE_ID ∧ aliases service = [] ∧
        reference ∈ (serviceBindings registry id).keys)
  keyed : ∀ a, algorithm = some a → ∃ key ∈ keys, keyReference key = some reference ∧
    keyAlgorithm key = some a ∧
      (purpose = none → ∀ other, (key.get "service_id").bind Value.asStr = some other → other = id)

end

section

variable {registry service : Value} {keys : List Value} {id purpose reference : String}

/-- A valid binding that has the purpose of the tools has no other. -/
theorem validateLtiBindings_eq_ok {bindings : Bindings}
    (h : validateLtiBindings bindings = .ok ()) {references : References}
    (hservice : bindings.get id = some references) {purposes : List String}
    (hreference : references.get reference = some purposes) (hlti : ltiToolSigning ∈ purposes) :
    purposes = [ltiToolSigning] := by
  simp only [validateLtiBindings, forEach_eq_ok, rejectIf_eq_ok] at h
  have hchecked := h _ ((BTreeMap.get_eq_some _ _ _).mp hservice) _
    ((BTreeMap.get_eq_some _ _ _).mp hreference)
  by_contra hother
  exact hchecked ⟨hlti, hother⟩

theorem mem_preferCurrent {current : Option String} {candidates : List String}
    (h : preferCurrent current candidates = some reference) : reference ∈ candidates := by
  rw [preferCurrent] at h
  split at h
  case isTrue hcurrent =>
      subst h
      simpa using hcurrent
  case isFalse => exact (List.mergeSort_perm _ _).mem_iff.mp (List.mem_of_mem_head? h)

/-- Where a service has bindings of a purpose, they are in the table of the service. -/
theorem mem_boundCandidates :
    reference ∈ boundCandidates registry service id purpose ↔
      ∃ purposes, (serviceBindings registry id).get reference = some purposes ∧
        purpose ∈ purposes ∧
        (purpose = ltiToolSigning ∨ reference ∉ ltiOnlyReferences service) ∧
        (id ≠ MANAGED_OPENBAO_SERVICE_ID ∨ managedKeyPurposes reference = [] ∨
          purpose ∈ managedKeyPurposes reference) ∧
        (reference ∈ aliases service ∨
          (id ≠ MANAGED_OPENBAO_SERVICE_ID ∧ aliases service = [])) := by
  have hcontains (l : List String) (a : String) : l.contains a = false ↔ a ∉ l := by simp
  simp only [boundCandidates, List.mem_map, List.mem_filter, Bool.and_eq_true, Bool.or_eq_true,
    List.contains_iff_mem, decide_eq_true_eq, Bool.not_eq_true', hcontains]
  constructor
  · rintro ⟨entry, ⟨hentry, ⟨⟨⟨hpurpose, hlisted⟩, hnamed⟩, hmember⟩⟩, rfl⟩
    exact ⟨entry.2, (BTreeMap.get_eq_some _ _ _).mpr hentry, hpurpose, hlisted,
      or_assoc.mp hnamed, hmember⟩
  · rintro ⟨purposes, hentry, hpurpose, hlisted, hnamed, hmember⟩
    exact ⟨(reference, purposes), ⟨(BTreeMap.get_eq_some _ _ _).mp hentry,
      ⟨⟨⟨hpurpose, hlisted⟩, or_assoc.mpr hnamed⟩, hmember⟩⟩, rfl⟩

theorem mem_managedCandidates (h : reference ∈ managedCandidates service keys purpose) :
    (purpose ∈ managedKeyPurposes reference ∨
        purpose = ltiToolSigning ∧ reference ∈ ltiOnlyReferences service) ∧
      (purpose = ltiToolSigning ∨ reference ∉ ltiOnlyReferences service) ∧
      reference ∈ aliases service := by
  obtain ⟨key, -, hkey⟩ := List.mem_filterMap.mp h
  have hguard := (Option.filter_eq_some_iff.mp hkey).2
  simpa [and_assoc] using hguard

theorem mem_algorithmCandidates {algorithm : String}
    (h : reference ∈ algorithmCandidates registry service keys id algorithm) :
    (∃ key ∈ keys, keyReference key = some reference ∧ keyAlgorithm key = some algorithm ∧
      ∀ other, (key.get "service_id").bind Value.asStr = some other → other = id) ∧
      ¬ LtiOnly registry service id reference := by
  obtain ⟨key, hkey, hcandidate⟩ := List.mem_filterMap.mp h
  obtain ⟨hkey, halgorithm⟩ := List.mem_filter.mp hkey
  obtain ⟨hreference, hguard⟩ := Option.filter_eq_some_iff.mp hcandidate
  have hname := (Option.filter_eq_some_iff.mp hreference).1
  rw [Bool.and_eq_true, Bool.not_eq_true', Bool.not_eq_true'] at hguard
  refine ⟨⟨key, hkey, hname, of_decide_eq_true halgorithm, fun other hother => ?_⟩, ?_⟩
  · have hservice := hguard.1
    rw [hother] at hservice
    simpa using hservice
  · simp only [Bool.or_eq_false_iff] at hguard
    obtain ⟨-, ⟨hbound, hlisted⟩, hnamed⟩ := hguard
    rintro (hlti | hlti | hlti)
    · rw [BoundToLti] at hlti
      rw [hlti] at hbound
      simp at hbound
    · simp [hlti] at hlisted
    · simp [hlti.1, hlti.2] at hnamed

/-- The algorithm of a reference is that of one of its keys. -/
theorem algorithmOf_eq_some {algorithm : String} (h : algorithmOf keys reference = some algorithm) :
    ∃ key ∈ keys, keyReference key = some reference ∧ keyAlgorithm key = some algorithm := by
  rw [algorithmOf, Option.join_eq_some_iff] at h
  obtain ⟨later, earlier, hsplit, -⟩ := List.lookup_eq_some_iff.mp h
  have hmem : (reference, some algorithm) ∈ (keys.filterMap fun key =>
      (keyReference key).map fun name => (name, keyAlgorithm key)) := by
    rw [← List.mem_reverse, hsplit]
    simp
  obtain ⟨key, hkey, hpair⟩ := List.mem_filterMap.mp hmem
  obtain ⟨name, hname, hsame⟩ := Option.map_eq_some_iff.mp hpair
  obtain ⟨rfl, halgorithm⟩ := Prod.mk.inj hsame
  exact ⟨key, hkey, hname, halgorithm⟩

/-- A request with a purpose is answered by one of its candidates. -/
theorem resolveKeyReference_purpose {algorithm : Option String}
    (hid : serviceId service = some id)
    (hservice : id = MANAGED_OPENBAO_SERVICE_ID ∨ (serviceBindings registry id).entries ≠ [])
    (h : resolveKeyReference registry service keys (some purpose) algorithm = some reference) :
    reference ∈ purposeCandidates registry service keys id purpose ∧
      ∀ a, algorithm = some a →
        ∃ key ∈ keys, keyReference key = some reference ∧ keyAlgorithm key = some a := by
  simp only [resolveKeyReference, hid] at h
  split at h
  case isTrue =>
      rcases hservice with hmanaged | hbound
      · rw [if_pos hmanaged] at h
        cases h
      · split at h
        · cases h
        · cases h
  case isFalse =>
      cases algorithm with
      | none => exact ⟨mem_preferCurrent h, fun a ha => by cases ha⟩
      | some a =>
          obtain ⟨hmem, halgorithm⟩ := List.mem_filter.mp (mem_preferCurrent h)
          refine ⟨hmem, fun b hb => ?_⟩
          cases hb
          exact algorithmOf_eq_some (of_decide_eq_true halgorithm)

/-- A managed key that is named for the tools is named for nothing else. -/
theorem managedKeyPurposes_lti (h : ltiToolSigning ∈ managedKeyPurposes reference) :
    managedKeyPurposes reference = [ltiToolSigning] := by
  unfold managedKeyPurposes at h ⊢
  split_ifs at h ⊢ <;> first | rfl | simp [ltiToolSigning] at h

theorem mem_aliases : reference ∈ aliases service ↔
    reference ∈ dedupeStrings (service.get "key_aliases") ∨
      currentReference service = some reference := by
  rw [aliases, List.mem_append, Option.mem_toList]

theorem served_of_bound {algorithm : Option String}
    (hvalid : validateLtiBindings (bindings registry) = .ok ())
    (h : reference ∈ boundCandidates registry service id purpose)
    (hkeyed : ∀ a, algorithm = some a →
      ∃ key ∈ keys, keyReference key = some reference ∧ keyAlgorithm key = some a) :
    Served registry service keys (some purpose) algorithm id reference := by
  obtain ⟨purposes, hget, hpurpose, hlisted, hnamed, hmember⟩ := mem_boundCandidates.mp h
  exact
    { listed := fun hne => hlisted.resolve_left fun heq => hne (congrArg some heq)
      named := fun hne hmanaged hname => by
        rcases hnamed with hnamed | hnamed | hnamed
        · exact hnamed hmanaged
        · rw [hname] at hnamed
          cases hnamed
        · rw [hname, List.mem_singleton] at hnamed
          exact hne (congrArg some hnamed)
      bound := fun hne hbound => by
        rw [BoundToLti, hget, Option.some.injEq] at hbound
        rw [hbound, List.mem_singleton] at hpurpose
        exact absurd (congrArg some hpurpose) hne
      exclusive := fun hlti => by
        rw [Option.some.injEq] at hlti
        cases hservice : (bindings registry).get id with
        | none =>
            rw [serviceBindings, hservice] at hget
            cases hget
        | some references =>
            have hreferences : serviceBindings registry id = references := by
              rw [serviceBindings, hservice]
              rfl
            rw [hreferences] at hget
            have hexact := validateLtiBindings_eq_ok hvalid hservice hget (hlti ▸ hpurpose)
            exact .inl (by rw [BoundToLti, hreferences, hget, hexact])
      allowed := fun p hp => by
        cases hp
        exact .inl ⟨purposes, hget, hpurpose⟩
      member := fun p _ => by
        rcases hmember with hmember | ⟨hmanaged, hnone⟩
        · exact (mem_aliases.mp hmember).imp_right .inl
        · refine .inr (.inr ⟨hmanaged, hnone, (BTreeMap.mem_keys _ _).mpr ?_⟩)
          rw [hget]
          rfl
      keyed := fun a ha => by
        obtain ⟨key, hkey, hname, halgorithm⟩ := hkeyed a ha
        exact ⟨key, hkey, hname, halgorithm, fun hnone => by cases hnone⟩ }

theorem served_of_managed {algorithm : Option String} (hid : id = MANAGED_OPENBAO_SERVICE_ID)
    (h : reference ∈ managedCandidates service keys purpose)
    (hkeyed : ∀ a, algorithm = some a →
      ∃ key ∈ keys, keyReference key = some reference ∧ keyAlgorithm key = some a) :
    Served registry service keys (some purpose) algorithm id reference := by
  obtain ⟨hname, hlisted, hmember⟩ := mem_managedCandidates h
  -- for another purpose than that of the tools the name is what allows the reference
  have hallowed (hne : some purpose ≠ some ltiToolSigning) :
      purpose ∈ managedKeyPurposes reference :=
    hname.resolve_right fun hlti => hne (congrArg some hlti.1)
  exact
    { listed := fun hne => hlisted.resolve_left fun heq => hne (congrArg some heq)
      named := fun hne _ hnamed => by
        have hmem := hallowed hne
        rw [hnamed, List.mem_singleton] at hmem
        exact hne (congrArg some hmem)
      bound := fun hne _ => ⟨hid, purpose, rfl, hallowed hne⟩
      exclusive := fun hlti => by
        rw [Option.some.injEq] at hlti
        subst hlti
        rcases hname with hname | ⟨-, hlisted⟩
        · exact .inr (.inr ⟨hid, managedKeyPurposes_lti hname⟩)
        · exact .inr (.inl hlisted)
      allowed := fun p hp => by
        cases hp
        rcases hname with hname | ⟨hlti, hlisted⟩
        · exact .inr (.inl ⟨hid, hname⟩)
        · exact .inr (.inr ⟨hid, hlti, hlisted⟩)
      member := fun p _ => (mem_aliases.mp hmember).imp_right .inl
      keyed := fun a ha => by
        obtain ⟨key, hkey, hname, halgorithm⟩ := hkeyed a ha
        exact ⟨key, hkey, hname, halgorithm, fun hnone => by cases hnone⟩ }

/-- **What answers a request**: a reserved reference answers for the tools only, and for the
tools only a reserved reference does. -/
theorem resolveKeyReference_served {request algorithm : Option String}
    (hid : serviceId service = some id)
    (hvalid : validateLtiBindings (bindings registry) = .ok ())
    (hservice : id = MANAGED_OPENBAO_SERVICE_ID ∨ (serviceBindings registry id).entries ≠ [])
    (hrequest : request.isSome ∨ algorithm.isSome)
    (h : resolveKeyReference registry service keys request algorithm = some reference) :
    Served registry service keys request algorithm id reference := by
  cases request with
  | some purpose =>
      obtain ⟨hmem, hkeyed⟩ := resolveKeyReference_purpose hid hservice h
      rw [purposeCandidates] at hmem
      split at hmem
      case isTrue hmanaged => exact served_of_managed hmanaged.2 hmem hkeyed
      case isFalse => exact served_of_bound hvalid hmem hkeyed
  | none =>
      cases algorithm with
      | none => simp at hrequest
      | some a =>
          simp only [resolveKeyReference, hid, Option.bind_some] at h
          obtain ⟨⟨key, hkey, hname, halgorithm, howner⟩, hfree⟩ :=
            mem_algorithmCandidates (mem_preferCurrent h)
          exact
            { listed := fun _ hlisted => hfree (.inr (.inl hlisted))
              named := fun _ hmanaged hnamed => hfree (.inr (.inr ⟨hmanaged, hnamed⟩))
              bound := fun _ hbound => absurd (.inl hbound) hfree
              exclusive := fun hlti => by cases hlti
              allowed := fun p hp => by cases hp
              member := fun p hp => by cases hp
              keyed := fun b hb => by
                cases hb
                exact ⟨key, hkey, hname, halgorithm, fun _ => howner⟩ }

end

namespace Example

/-- A key that is named for credentials, bound to the tools. -/
def registry : Value :=
  .object [("key_reference_purposes", .object [(MANAGED_OPENBAO_SERVICE_ID,
    .object [("cred-issuer-a", .array [.string ltiToolSigning])])])]

def service (reference : String) (ltiOnly : List String) : Value :=
  .object [("id", .string MANAGED_OPENBAO_SERVICE_ID), ("key_reference", .string reference),
    ("lti_only_references", .ofStrings ltiOnly)]

def key (reference : String) : Value :=
  .object [("provider_key_name", .string reference), ("algorithm", .string "ES256")]

end Example

/-- A managed key that is bound to the tools answers for the credentials that it is named for,
and a listed reference answers for the tools that it is neither bound to nor named for. -/
theorem resolveKeyReference_reserved :
    (validateLtiBindings (bindings Example.registry)).isOk = true ∧
      BoundToLti Example.registry MANAGED_OPENBAO_SERVICE_ID "cred-issuer-a" ∧
      resolveKeyReference Example.registry (Example.service "cred-issuer-a" [])
        [Example.key "cred-issuer-a"] (some "vc_jwt_issuer") none = some "cred-issuer-a" ∧
      resolveKeyReference (.object []) (Example.service "shared" ["shared"])
        [Example.key "shared"] (some ltiToolSigning) none = some "shared" ∧
      (serviceBindings (.object []) MANAGED_OPENBAO_SERVICE_ID).get "shared" = none ∧
      ltiToolSigning ∉ managedKeyPurposes "shared" := by
  refine ⟨by decide +kernel, ?_, by decide +kernel, by decide +kernel, by decide +kernel,
    by decide +kernel⟩
  rw [BoundToLti]
  decide +kernel

/-- A key that is named for credentials answers for them. -/
theorem resolveKeyReference_served_issuer :
    Served (.object []) (Example.service "cred-issuer-b" []) [Example.key "cred-issuer-b"]
      (some "vc_jwt_issuer") (some "ES256") MANAGED_OPENBAO_SERVICE_ID "cred-issuer-b" := by
  have hvalid : validateLtiBindings (bindings (.object [])) = .ok () := rfl
  exact resolveKeyReference_served (by decide +kernel) hvalid (.inl rfl) (.inl rfl)
    (by decide +kernel)

end Marty.SigningKeys.Registry
