import Marty.Lib.BTree
import Marty.Lib.Interleaving
import Marty.Lib.Json
import Marty.Lib.RowLocks
import Marty.Lib.Text
import Marty.Lib.Time
import Mathlib.Data.String.Basic

/-!
# Policy sets of an organization

A policy set is created as a draft, and activated; what it replaces is archived.  Every operation
is a transaction that locks the set it is about.  An activation then locks all sets of the
organization, row by row, as they are when it gets their locks.

## Main definitions

* `validatePolicyDocuments`, `serializePolicyDocuments`, `deserializePolicyDocuments` — the Cedar
  documents of a set.
* `policySetIdsToArchive` — what an activation replaces.
* `PolicyCommand`, `PolicyCall`, `PolicyInput` — an operation, its transaction, and a step of it.
* `policyMachine` — any number of transactions.
-/

namespace Marty.Organization

open Lib

inductive PolicySetStatus
  | draft
  | active
  | archived
  deriving DecidableEq

inductive PolicySetType
  | accessControl
  | credentialVerification
  | approvalRules
  | custom
  deriving DecidableEq

structure PolicySet where
  id : String
  organizationId : String
  name : String
  description : Option String
  policyType : PolicySetType
  status : PolicySetStatus
  cedarPolicies : String
  cedarSchemaVersion : String
  createdBy : Option String
  createdAt : DateTime
  updatedAt : DateTime
  deriving DecidableEq

def PolicySet.archive (policySet : PolicySet) (now : DateTime) : PolicySet :=
  { policySet with status := .archived, updatedAt := now }

def PolicySet.activate (policySet : PolicySet) (now : DateTime) : PolicySet :=
  { policySet with status := .active, updatedAt := now }

/-! ## Documents -/

structure CedarPolicyDocument where
  policyId : String
  effect : String
  cedarText : String
  description : Option String
  enabled : Bool
  deriving DecidableEq

/-- The reader of stored documents, the first effect in a text, whether a text states an effect,
and what the Cedar validator objects to. -/
structure PolicyPackages where
  parseDocuments : String → Option (List CedarPolicyDocument)
  legacyEffect : String → Option String
  statesEffect : String → String → Bool
  validatePolicySource : String → Option String

section

variable (packages : PolicyPackages)

/-- The documents of a stored text; one that is older is a document itself. -/
def deserializePolicyDocuments (value : String) : List CedarPolicyDocument :=
  (packages.parseDocuments value).getD
    [⟨"legacy_policy", (packages.legacyEffect value).getD "permit", value, none, true⟩]

def CedarPolicyDocument.toValue (document : CedarPolicyDocument) : Json.Value :=
  .object [("policy_id", .string document.policyId), ("effect", .string document.effect),
    ("cedar_text", .string document.cedarText),
    ("description", .ofOption .string document.description), ("enabled", .bool document.enabled)]

def serializePolicyDocuments (policies : List CedarPolicyDocument) : String :=
  String.ofList (Json.Value.array (policies.map CedarPolicyDocument.toValue)).write

/-- The errors of each document, whose identifier none before it has. -/
def documentErrors (seen : List String) : List CedarPolicyDocument → List String
  | [] => []
  | policy :: policies =>
      (if policy.policyId ∈ seen then ["Duplicate policy_id: " ++ policy.policyId] else []) ++
        (if packages.statesEffect policy.effect policy.cedarText then []
          else ["Policy " ++ policy.policyId ++ " effect does not match its Cedar statement"]) ++
        documentErrors (policy.policyId :: seen) policies

def validatePolicyDocuments (policies : List CedarPolicyDocument) : List String :=
  let errors := documentErrors packages [] policies
  let enabled := (policies.filter (·.enabled)).map (·.cedarText)
  if errors ≠ [] then errors
  else if enabled = [] then ["At least one policy must be enabled"]
  else (packages.validatePolicySource ("\n\n".intercalate enabled)).toList

end

/-! ## The table -/

abbrev PolicySetTable := BTreeMap String PolicySet

abbrev AcceptedPolicies := BTreeMap String (List CedarPolicyDocument)

/-- The sets, who holds their rows, and the documents that were accepted last for each. -/
structure PolicyStore (ι : Type) where
  organizations : List String
  sets : PolicySetTable
  holders : Holders String ι
  accepted : AcceptedPolicies

/-- `save_policy_set`; a row that exists keeps its organization and its origin. -/
def savePolicySet (sets : PolicySetTable) (policySet : PolicySet) : PolicySetTable :=
  sets.insert policySet.id ((sets.get policySet.id).elim policySet fun row =>
    { policySet with
      organizationId := row.organizationId
      createdBy := row.createdBy
      createdAt := row.createdAt })

def policySetIdsToArchive (target : PolicySet) (policySets : List PolicySet) : List String :=
  (policySets.filter fun candidate => candidate.id ≠ target.id ∧
    candidate.policyType = target.policyType ∧ candidate.status = .active).map (·.id)

/-- The rows of an organization. -/
def setIds (sets : PolicySetTable) (organizationId : String) : List String :=
  sets.keys.filter fun id => (sets.get id).any (·.organizationId = organizationId)

/-! ## The operations -/

structure UpdatePolicySetPatch where
  name : Option String
  description : Option (Option String)
  policies : Option (List CedarPolicyDocument)

inductive PolicyCommand
  /-- The identifier is a new one. -/
  | create (organizationId id name : String) (policies : List CedarPolicyDocument)
      (policyType : PolicySetType) (description createdBy : Option String) (now : DateTime)
  | update (organizationId id : String) (patch : UpdatePolicySetPatch) (now : DateTime)
  | archive (organizationId id : String) (now : DateTime)
  | activate (organizationId id : String) (now : DateTime)
  | delete (organizationId id : String)

namespace PolicyCommand

/-- The documents that a command brings. -/
def policies : PolicyCommand → Option (List CedarPolicyDocument)
  | create _ _ _ policies _ _ _ _ => some policies
  | update _ _ patch _ => patch.policies
  | _ => none

def name : PolicyCommand → Option String
  | create _ _ name _ _ _ _ _ => some name
  | update _ _ patch _ => patch.name
  | _ => none

end PolicyCommand

inductive PolicyFailure
  | invalidCommand
  | invalidPolicy (errors : String)
  | organizationNotFound
  | policySetNotFound
  | store
  deriving DecidableEq

/-- Where a transaction stands. -/
inductive PolicyCall
  | idle
  /-- It waits for the row that it is about. -/
  | locating (command : PolicyCommand)
  | creating (policySet : PolicySet) (policies : List CedarPolicyDocument)
  /-- It holds the row. -/
  | located (command : PolicyCommand) (target : PolicySet)
  /-- An activation locks the sets of its organization, and has gathered some. -/
  | gathering (target : PolicySet) (now : DateTime) (pending : List String)
      (gathered : List PolicySet)
  | done (answer : Except PolicyFailure (Option PolicySet))

inductive PolicyInput
  | start (command : PolicyCommand)
  | locate
  | gather
  | lock (id : String)
  | commit (learnt : Bool)
  /-- A statement fails, also for a deadlock or for a name that is taken. -/
  | abort

section

variable (packages : PolicyPackages)

/-- What is checked before the transaction begins. -/
def startCommand (command : PolicyCommand) : PolicyCall :=
  if command.name.any (fun name => Text.trim name = "") then .done (.error .invalidCommand)
  else
    match (command.policies.map (validatePolicyDocuments packages)).getD [] with
    | [] => .locating command
    | errors => .done (.error (.invalidPolicy ("; ".intercalate errors)))

variable {ι : Type} [DecidableEq ι]

/-- The row of a set is locked, and read as it is then. -/
def locateSet (s : PolicyStore ι) (i : ι) (command : PolicyCommand)
    (organizationId id : String) : Option (PolicyStore ι × PolicyCall) :=
  match (s.sets.get id).filter (·.organizationId = organizationId) with
  | some target =>
      if s.holders.available i id then
        some ({ s with holders := s.holders.take i id }, .located command target)
      else none
  | none => some (s, .done (.error .policySetNotFound))

def locate (s : PolicyStore ι) (i : ι) (command : PolicyCommand) :
    Option (PolicyStore ι × PolicyCall) :=
  match command with
  | .create organizationId id name policies policyType description createdBy now =>
      some (s, if organizationId ∈ s.organizations then
          .creating ⟨id, organizationId, name, description, policyType, .draft,
            serializePolicyDocuments policies, "MIP/1.0", createdBy, now, now⟩ policies
        else .done (.error .organizationNotFound))
  | .update organizationId id _ _ | .archive organizationId id _ | .activate organizationId id _
  | .delete organizationId id => locateSet s i command organizationId id

/-- The transaction ends with a failure. -/
def rollback (s : PolicyStore ι) (i : ι) (failure : PolicyFailure) : PolicyStore ι × PolicyCall :=
  ({ s with holders := s.holders.release i }, .done (.error failure))

/-- The statement for all sets of the organization sees the rows that there are. -/
def gather (s : PolicyStore ι) (i : ι) (target : PolicySet) (now : DateTime) :
    PolicyStore ι × PolicyCall :=
  match validatePolicyDocuments packages
      (deserializePolicyDocuments packages target.cedarPolicies) with
  | [] => (s, .gathering target now (setIds s.sets target.organizationId) [])
  | errors => rollback s i (.invalidPolicy ("; ".intercalate errors))

/-- The next row is locked and read as it is then, unless it is gone. -/
def lockNext (s : PolicyStore ι) (i : ι) (target : PolicySet) (now : DateTime)
    (pending : List String) (gathered : List PolicySet) (id : String) :
    Option (PolicyStore ι × PolicyCall) :=
  if id ∈ pending ∧ s.holders.available i id then
    let rest := pending.filter (· ≠ id)
    some (match s.sets.get id with
      | some row =>
          ({ s with holders := s.holders.take i id }, .gathering target now rest (row :: gathered))
      | none => (s, .gathering target now rest gathered))
  else none

def UpdatePolicySetPatch.apply (patch : UpdatePolicySetPatch) (target : PolicySet)
    (now : DateTime) : PolicySet :=
  { target with
    name := patch.name.getD target.name
    description := patch.description.getD target.description
    cedarPolicies := (patch.policies.map serializePolicyDocuments).getD target.cedarPolicies
    updatedAt := now }

/-- What an activation saves before its target. -/
def archived (target : PolicySet) (gathered : List PolicySet) (now : DateTime) :
    List PolicySet :=
  (gathered.filter fun candidate => candidate.id ∈ policySetIdsToArchive target gathered).map
    (·.archive now)

/-- The sets and the accepted documents that a transaction commits, with its answer. -/
def committed (s : PolicyStore ι) : PolicyCall →
    Option (PolicySetTable × AcceptedPolicies × Option PolicySet)
  | .creating policySet policies =>
      if (s.sets.get policySet.id).isSome then none
      else some (savePolicySet s.sets policySet, s.accepted.insert policySet.id policies,
        some policySet)
  | .located (.update _ _ patch now) target =>
      let updated := patch.apply target now
      some (savePolicySet s.sets updated,
        (patch.policies.map (s.accepted.insert target.id)).getD s.accepted, some updated)
  | .located (.archive _ _ now) target =>
      some (savePolicySet s.sets (target.archive now), s.accepted, some (target.archive now))
  | .located (.delete _ _) target =>
      some (s.sets.retain fun id _ => id ≠ target.id, s.accepted, none)
  | .gathering target now [] gathered =>
      some (savePolicySet ((archived target gathered now).foldl savePolicySet s.sets)
        (target.activate now), s.accepted, some (target.activate now))
  | _ => none

def policyStep (i : ι) (s : PolicyStore ι) : PolicyCall → PolicyInput →
    Option (PolicyStore ι × PolicyCall)
  | .idle, .start command => some (s, startCommand packages command)
  | .locating command, .locate => locate s i command
  | .located (.activate _ _ now) target, .gather => some (gather packages s i target now)
  | .gathering target now pending gathered, .lock id => lockNext s i target now pending gathered id
  | .idle, .abort | .done _, .abort => none
  | _, .abort => some (rollback s i .store)
  | call, .commit learnt => (committed s call).map fun result =>
      ({ s with sets := result.1, accepted := result.2.1, holders := s.holders.release i },
        .done (if learnt then .ok result.2.2 else .error .store))
  | _, _ => none

def policyMachine (ι : Type) [DecidableEq ι] :
    Machine (PolicyStore ι) ι PolicyInput PolicyCall where
  step i input s call := policyStep packages i s call input

end

end Marty.Organization
