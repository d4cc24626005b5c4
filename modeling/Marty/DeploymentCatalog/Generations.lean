import Marty.DeploymentCatalog.CaBundle
import Mathlib.Algebra.GroupWithZero.Nat
import Mathlib.Data.List.Infix
import Mathlib.Data.String.Basic

/-!
# Generations of secrets

A generation is a private directory of public certificates and scoped tokens.  A new one is
staged from an active one and the renewed inputs, or by retiring a certificate authority, and a
generation is verified against the one before it: only what a ceremony renews may differ.

## Main definitions

* `FileSystem` — the directories, by their canonical paths.
* `inventories` — the names of what is renewed.
* `verify` — the comparison of a candidate with the generation before it.
* `stage`, `stageRetired` — what writes a candidate.
-/

namespace Marty.DeploymentCatalog

open Lib Lib.Checked Lib.Markers

def REFUSAL : String := "KMS operator input refused"

/-! ## Names -/

structure SelfhostRole where
  name : String
  keyName : String
  certFile : String
  tokenFile : String

def selfhostRoles : List SelfhostRole :=
  [⟨"signing-keys-server", "workload-tls-signing-keys-server",
      "signing_keys_workload_server_cert", "signing_keys_tls_kms_token"⟩,
    ⟨"gateway-client", "workload-tls-gateway-auth-client",
      "gateway_workload_client_cert", "gateway_tls_kms_token"⟩,
    ⟨"auth-client", "workload-tls-auth-client",
      "auth_workload_client_cert", "auth_tls_kms_token"⟩,
    ⟨"auth-server", "workload-tls-auth-server",
      "auth_workload_server_cert", "auth_server_tls_kms_token"⟩,
    ⟨"compliance-profile-client", "workload-tls-compliance-profile-client",
      "compliance_profile_workload_client_cert", "compliance_profile_tls_kms_token"⟩,
    ⟨"deployment-profile-client", "workload-tls-deployment-profile-client",
      "deployment_profile_workload_client_cert", "deployment_profile_tls_kms_token"⟩,
    ⟨"organization-server", "workload-tls-organization-server",
      "org_workload_server_cert", "org_tls_kms_token"⟩,
    ⟨"event-stream-server", "workload-tls-event-stream-server",
      "es_workload_server_cert", "es_tls_kms_token"⟩,
    ⟨"notification-server", "workload-tls-notification-server",
      "notification_workload_server_cert", "notification_tls_kms_token"⟩,
    ⟨"revocation-profile-server", "workload-tls-revocation-profile-server",
      "rp_workload_server_cert", "rp_tls_kms_token"⟩,
    ⟨"credential-template-server", "workload-tls-credential-template-server",
      "ct_workload_server_cert", "ct_tls_kms_token"⟩,
    ⟨"issuance-server", "workload-tls-issuance-server",
      "issuance_workload_server_cert", "issuance_tls_kms_token"⟩,
    ⟨"flow-client", "workload-tls-flow-client",
      "flow_workload_client_cert", "flow_client_tls_kms_token"⟩,
    ⟨"flow-server", "workload-tls-flow-server",
      "flow_workload_server_cert", "flow_server_tls_kms_token"⟩,
    ⟨"pp-server", "workload-tls-presentation-policy-server",
      "pp_workload_server_cert", "pp_tls_kms_token"⟩,
    ⟨"verification-client", "workload-tls-verification-client",
      "verification_workload_client_cert", "verification_tls_kms_token"⟩]

def CA : String := "workload_identity_ca_cert"

def METADATA : String := "selfhost-tls-kms-roles.json"

def realms : List String := ["master", "11id"]

def purposes : List String := ["cookie", "ciba"]

def keycloakToken (realm purpose : String) : String :=
  "keycloak_" ++ realm ++ "_" ++ purpose ++ "_token"

def tlsNames : List String :=
  CA :: selfhostRoles.flatMap fun role => [role.certFile, role.tokenFile]

def keycloakNames : List String :=
  "keycloak_signing_kms_token" :: realms.flatMap fun realm =>
    ("keycloak_" ++ realm ++ "_rs256_cert") :: purposes.map (keycloakToken realm)

def tokenNames : List String :=
  selfhostRoles.map (·.tokenFile) ++ ("keycloak_signing_kms_token" ::
    realms.flatMap fun realm => purposes.map (keycloakToken realm))

structure Inventories where
  tls : BTreeSet String
  keycloak : BTreeSet String
  tokens : BTreeSet String

def inventories : Inventories where
  tls := .ofList tlsNames
  keycloak := .ofList keycloakNames
  tokens := .ofList tokenNames

/-- The names of what a ceremony may renew. -/
def renewable : BTreeSet String :=
  .ofList (BTreeSet.toList inventories.tls ++ BTreeSet.toList inventories.keycloak)

/-! ## Files -/

/-- What stands in a directory: a regular file with its permissions, or anything else. -/
inductive Entry
  | file (value : Bytes) (mode : Nat)
  | other

def Entry.isFile : Entry → Bool
  | .file _ _ => true
  | .other => false

structure Directory where
  mode : Nat
  owner : Nat
  entries : BTreeMap String Entry

structure FilePath where
  root : String
  name : String

/-- The directories by their canonical paths.  A path has one when it names a directory itself. -/
structure FileSystem where
  canonicalize : String → Option String
  directories : String → Option Directory
  canonical : ∀ path root, canonicalize path = some root → canonicalize root = some root

abbrev Files := BTreeMap String FilePath

abbrev Payload := Bytes × Nat

abbrev Payloads := BTreeMap String Payload

def maxInput : Nat := 64 * 1024

/-- `generation_file` -/
def generationFile (fs : FileSystem) (path : FilePath) (allowEmpty : Bool) : Option Payload :=
  match (fs.directories path.root).bind (·.entries.get path.name) with
  | some (.file value mode) =>
      if value.length > maxInput ∨ (allowEmpty = false ∧ value = []) ∨ 0 ∈ value ∨
          ascii "PRIVATE KEY" <:+: value then none
      else some (value, mode)
  | _ => none

/-- `private_directory` -/
def privateDirectory (fs : FileSystem) (path : String) : Option String :=
  (fs.canonicalize path).filter fun root => (fs.directories root).any fun d => d.mode = 0o700

def directory (fs : FileSystem) (path : String) (empty : Bool) : Except String String := do
  let root ← okOr (privateDirectory fs path)
    "secret generation requires an existing POSIX private directory"
  rejectIf (empty ∧ (fs.directories root).any fun d => d.entries.entries ≠ [])
    "new secret generation directory must be empty"
  return root

def entries (fs : FileSystem) (root : String) : Except String Files := do
  let d ← okOr (fs.directories root) "secret generation directory is absent"
  rejectIf (d.entries.entries.any fun e => !e.2.isFile)
    "secret generation contains a non-regular entry"
  return d.entries.mapEntries fun name _ => ⟨root, name⟩

def owner (fs : FileSystem) (root : String) : Except String Nat :=
  okOr ((fs.directories root).map (·.owner)) REFUSAL

def read (fs : FileSystem) (path : FilePath) (allowEmpty : Bool) : Except String Payload :=
  okOr (generationFile fs path allowEmpty)
    "secret generation contains private or invalid material"

def payloads (fs : FileSystem) (files : Files) : Except String Payloads := do
  let values ← mapEach (fun file => do
    let payload ← read fs file.2 (file.1 ∉ renewable)
    return (file.1, payload)) files.entries
  return .ofEntries values

/-- The token of one scope, next to the tokens that were found before it. -/
def insertToken (values : Payloads) (found : List Bytes) (name : String) :
    Except String (List Bytes) := do
  let payload ← okOr (values.get name) REFUSAL
  rejectIf (payload.1 ∈ found) "renewed scopes share a token"
  return payload.1 :: found

def tokensDistinct (values : Payloads) (tokens : BTreeSet String) : Except String Unit := do
  let _ ← (BTreeSet.toList tokens).foldlM (insertToken values) []
  return ()

/-! ## The comparison of two generations -/

/-- What a ceremony changes. -/
def renews (caOverlap caRetire : Bool) (name : String) : Bool :=
  if caRetire then name = CA else name ∈ renewable && (name ≠ CA || caOverlap)

def overlapRefusal : String := "CA overlap bundle is not the exact old and new public issuers"

def verifyOverlap (before after : Bytes) : Except String Unit := do
  let issuer ← okOr (stripPrefix (trimmed before ++ [newline]) after) overlapRefusal
  let joined ← (overlap before issuer).mapError fun _ => overlapRefusal
  rejectIf (joined ≠ after) overlapRefusal

def verifyRetirement (before after : Bytes) : Except String Unit := do
  let kept ← retire before
  rejectIf (after ≠ kept) "CA retirement did not remove only the old public issuer"

/-- A check that is made in one case only. -/
def inCase (c : Prop) [Decidable c] (check : Except String Unit) : Except String Unit :=
  if c then check else .ok ()

def verifyEntry (caOverlap caRetire : Bool) (new : Payloads) (entry : String × Payload) :
    Except String Nat := do
  let after ← okOr (new.get entry.1) REFUSAL
  rejectIf (entry.2.2 ≠ after.2) "secret generation file mode changed"
  let change := renews caOverlap caRetire entry.1
  rejectIf (decide (entry.2.1 ≠ after.1) ≠ change) "secret generation changed the wrong input"
  inCase (entry.1 = CA ∧ caOverlap) (verifyOverlap entry.2.1 after.1)
  inCase (entry.1 = CA ∧ caRetire) (verifyRetirement entry.2.1 after.1)
  return change.toNat

/-- The comparison of two directories: how many files there are, and how many have changed. -/
def verify (fs : FileSystem) (current candidate : String) (caOverlap caRetire : Bool) :
    Except String (Nat × Nat) := do
  rejectIf (caOverlap ∧ caRetire) "CA overlap and trust retirement are separate ceremonies"
  let current ← directory fs current false
  let candidate ← directory fs candidate false
  rejectIf (current = candidate) "secret generations must be distinct"
  let old ← entries fs current
  let new ← entries fs candidate
  rejectIf (old.keys ≠ new.keys ∨ ¬ ∀ name ∈ BTreeSet.toList renewable, old.containsKey name)
    "secret generation file inventory changed"
  let old ← payloads fs old
  let new ← payloads fs new
  let changes ← mapEach (verifyEntry caOverlap caRetire new) old.entries
  tokensDistinct new inventories.tokens
  return (old.length, changes.sum)

/-! ## Writing a generation -/

def FileSystem.modify (fs : FileSystem) (root : String)
    (f : BTreeMap String Entry → BTreeMap String Entry) : FileSystem :=
  { fs with
    directories := fun path =>
      if path = root then (fs.directories path).map fun d => { d with entries := f d.entries }
      else fs.directories path }

/-- `generation_output` and `finish_generation`: a file that was not there, with its value and
its permissions. -/
def createFile (fs : FileSystem) (path : FilePath) (payload : Payload) :
    Except String FileSystem := do
  let d ← okOr (fs.directories path.root) REFUSAL
  rejectIf (d.entries.containsKey path.name) REFUSAL
  return fs.modify path.root fun entries => entries.insert path.name (.file payload.1 payload.2)

/-- `remove_file` -/
def removeFile (fs : FileSystem) (path : FilePath) : FileSystem :=
  fs.modify path.root fun entries => entries.retain fun name _ => name ≠ path.name

def supportedModes : List Nat := [0o400, 0o440, 0o444, 0o600, 0o640, 0o644]

/-- The files that were created, and the error that ended it. -/
def writeFiles (fs : FileSystem) (output : String) :
    List (String × Payload) → FileSystem × List FilePath × Option String
  | [] => (fs, [], none)
  | (name, payload) :: values =>
      if payload.2 ∉ supportedModes then (fs, [], some "active secret file has unsupported mode")
      else
        match createFile fs ⟨output, name⟩ payload with
        | .error e => (fs, [], some e)
        | .ok fs =>
            let (fs, created, error) := writeFiles fs output values
            (fs, ⟨output, name⟩ :: created, error)

def write (fs : FileSystem) (values : Payloads) (current output : String)
    (caOverlap caRetire : Bool) : FileSystem × Except String Nat :=
  let (written, created, error) := writeFiles fs output values.entries
  let result : Except String Nat := match error with
    | some e => .error e
    | none => (verify written current output caOverlap caRetire).map fun _ => values.length
  match result with
  | .ok count => (written, .ok count)
  | .error e => (created.reverse.foldl removeFile written, .error e)

/-! ## Staging -/

structure MetadataRole where
  role : String
  keyName : String
  version : Nat

structure Metadata where
  schema : String
  roles : List MetadataRole

/-- The user of the process, and how `serde_json` reads the metadata of the keys. -/
structure Host where
  uid : Nat
  readMetadata : Bytes → Option Metadata

def checkRole (found : List String) (role : MetadataRole) : Except String (List String) := do
  rejectIf (role.version ≠ 1 ∨
      ¬ selfhostRoles.any (fun r => r.name = role.role && r.keyName = role.keyName) ∨
      role.role ∈ found)
    "disposable TLS key metadata differs from fixed roles"
  return role.role :: found

def metadata (host : Host) (fs : FileSystem) (path : FilePath) : Except String Unit := do
  let payload ← read fs path false
  rejectIf (payload.1.length > 8192 ∨ payload.1.any (· ≥ 128))
    "disposable TLS key metadata is oversized"
  let value ← okOr (host.readMetadata payload.1) "disposable TLS key metadata has invalid shape"
  rejectIf (value.schema ≠ "marty.selfhost-disposable-tls-keys/v1" ∨
      value.roles.length ≠ selfhostRoles.length)
    "disposable TLS key metadata has invalid shape"
  let _ ← value.roles.foldlM checkRole []
  return ()

/-- The value of a renewed input, from the one before it. -/
def renewedValue (caOverlap : Bool) (name : String) (before value : Bytes) :
    Except String Bytes :=
  if name = CA then
    if caOverlap then overlap before value
    else if value ≠ before then .error "CA rollover needs a separate trust-overlap ceremony"
    else .ok value
  else if value = before then .error "renewed input did not change"
  else .ok value

def renewEntry (fs : FileSystem) (caOverlap : Bool) (values : Payloads)
    (file : String × FilePath) : Except String Payloads :=
  if file.1 = METADATA then .ok values
  else do
    let candidate ← read fs file.2 false
    let before ← okOr (values.get file.1) REFUSAL
    let value ← renewedValue caOverlap file.1 before.1 candidate.1
    return values.insert file.1 (value, before.2)

/-- The roots and the values of a new generation. -/
structure Staged where
  current : String
  output : String
  values : Payloads

def prepare (host : Host) (fs : FileSystem) (current tls keycloak output : String)
    (caOverlap : Bool) : Except String Staged := do
  let current ← directory fs current false
  let tls ← directory fs tls false
  let keycloak ← directory fs keycloak false
  let output ← directory fs output true
  rejectIf (¬ [current, tls, keycloak, output].Nodup)
    "secret generation directories must be distinct"
  let activeOwner ← owner fs current
  let outputOwner ← owner fs output
  rejectIf (outputOwner ≠ host.uid ∨ [tls, keycloak].any fun root =>
      ((fs.directories root).map (·.owner)).all fun o => o ≠ host.uid ∧ o ≠ activeOwner)
    "secret generation directory has an unexpected owner"
  let active ← entries fs current
  let tlsFiles ← entries fs tls
  let keycloakFiles ← entries fs keycloak
  rejectIf (¬ ∀ name ∈ BTreeSet.toList renewable, active.containsKey name)
    "active generation lacks a renewable input"
  rejectIf (tlsFiles.keys ≠ BTreeSet.toList (BTreeSet.insert inventories.tls METADATA))
    "workload TLS candidate is incomplete"
  rejectIf (keycloakFiles.keys ≠ BTreeSet.toList inventories.keycloak)
    "Keycloak candidate is incomplete"
  metadata host fs ⟨tls, METADATA⟩
  let values ← payloads fs active
  let values ← (tlsFiles.entries ++ keycloakFiles.entries).foldlM (renewEntry fs caOverlap) values
  tokensDistinct values inventories.tokens
  return ⟨current, output, values⟩

def stage (host : Host) (fs : FileSystem) (current tls keycloak output : String)
    (caOverlap : Bool) : FileSystem × Except String Nat :=
  match prepare host fs current tls keycloak output caOverlap with
  | .error e => (fs, .error e)
  | .ok staged => write fs staged.values staged.current staged.output caOverlap false

def prepareRetired (host : Host) (fs : FileSystem) (current output : String) :
    Except String Staged := do
  let current ← directory fs current false
  let output ← directory fs output true
  rejectIf (current = output) "CA retirement generation directories are invalid"
  let outputOwner ← owner fs output
  rejectIf (outputOwner ≠ host.uid) "CA retirement generation directories are invalid"
  let active ← entries fs current
  rejectIf (¬ ∀ name ∈ BTreeSet.toList renewable, active.containsKey name)
    "active generation lacks a renewable input"
  let values ← payloads fs active
  let ca ← okOr (values.get CA) REFUSAL
  let kept ← retire ca.1
  return ⟨current, output, values.insert CA (kept, ca.2)⟩

def stageRetired (host : Host) (fs : FileSystem) (current output : String) :
    FileSystem × Except String Nat :=
  match prepareRetired host fs current output with
  | .error e => (fs, .error e)
  | .ok staged => write fs staged.values staged.current staged.output false true

end Marty.DeploymentCatalog
