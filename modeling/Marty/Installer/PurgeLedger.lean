import Marty.Installer.PurgeDisk

/-!
# The purge ledger

The write-ahead ledger of a confirmed purge: the manifest with the confirmed digest, the custody
of its directories, and for each action an intent and a result.  Nothing is removed here.

## Main definitions

* `Ledger`, `PersistedIntent`, `Outcome` — what the coordinator holds.
* `createOrResume`, `openExisting` — how a ledger is opened.
* `recordIntent`, `recordedResult`, `recordResult` — the records of an action.
-/

namespace Marty.Installer

open Lib Lib.Json Lib.Program

inductive ResourceKind
  | hostEntry | dockerVolume | installationRoot
  deriving DecidableEq, Repr

inductive Outcome
  | removed | alreadyAbsentAfterRetry
  deriving DecidableEq, Repr

def ResourceKind.text : ResourceKind → String
  | .hostEntry => "host_entry"
  | .dockerVolume => "docker_volume"
  | .installationRoot => "installation_root"

def Outcome.text : Outcome → String
  | .removed => "removed"
  | .alreadyAbsentAfterRetry => "already_absent_after_retry"

structure IntentRecord where
  schema : String
  installationId : String
  planSha256 : String
  resource : ResourceKind
  identitySha256 : String
  action : String
  deriving DecidableEq

structure ResultRecord where
  schema : String
  installationId : String
  planSha256 : String
  intentSha256 : String
  outcome : Outcome
  deriving DecidableEq

structure ExecutionQCreateIntent where
  schema : String
  installationId : String
  planSha256 : String
  action : String
  installationLeaf : String
  parent : DirectoryStamp
  root : DirectoryStamp
  executionQName : String
  deriving DecidableEq

structure ExecutionQCreated where
  schema : String
  installationId : String
  planSha256 : String
  createIntentSha256 : String
  status : String
  executionQ : DirectoryStamp
  deletionAuthorized : Bool
  deriving DecidableEq

/-! ## Texts -/

/-- `serde_json::to_vec`: the text in UTF-8. -/
def toVec (v : Value) : Bytes := v.write.flatMap String.utf8EncodeChar

def DirectoryStamp.toValue (s : DirectoryStamp) : Value :=
  .object [("dev", .ofNat s.dev), ("ino", .ofNat s.ino), ("uid", .ofNat s.uid), ("gid", .ofNat s.gid),
    ("mode", .ofNat s.mode), ("mount_id", .ofNat s.mountId)]

def IntentRecord.toValue (r : IntentRecord) : Value :=
  .object [("schema", .string r.schema), ("installation_id", .string r.installationId),
    ("plan_sha256", .string r.planSha256), ("resource", .string r.resource.text),
    ("identity_sha256", .string r.identitySha256), ("action", .string r.action)]

def ResultRecord.toValue (r : ResultRecord) : Value :=
  .object [("schema", .string r.schema), ("installation_id", .string r.installationId),
    ("plan_sha256", .string r.planSha256), ("intent_sha256", .string r.intentSha256),
    ("outcome", .string r.outcome.text)]

def ExecutionQCreateIntent.toValue (r : ExecutionQCreateIntent) : Value :=
  .object [("schema", .string r.schema), ("installation_id", .string r.installationId),
    ("plan_sha256", .string r.planSha256), ("action", .string r.action),
    ("installation_leaf", .string r.installationLeaf), ("parent", r.parent.toValue),
    ("root", r.root.toValue), ("execution_q_name", .string r.executionQName)]

def ExecutionQCreated.toValue (r : ExecutionQCreated) : Value :=
  .object [("schema", .string r.schema), ("installation_id", .string r.installationId),
    ("plan_sha256", .string r.planSha256), ("create_intent_sha256", .string r.createIntentSha256),
    ("status", .string r.status), ("execution_q", r.executionQ.toValue),
    ("deletion_authorized", .bool r.deletionAuthorized)]

/-- What the other libraries and the system give: the digest of bytes, the records that bytes are
read as, and the user. -/
structure Host where
  digest : Bytes → String
  readIntent : Bytes → Option IntentRecord
  readResult : Bytes → Option ResultRecord
  readCreateIntent : Bytes → Option ExecutionQCreateIntent
  readCreated : Bytes → Option ExecutionQCreated
  euid : Nat

def hexDigest (value : String) : Bool :=
  value.toList.length == 64 && value.toList.all Uuid.isLowerHex

/-- A random UUID, in the variant of RFC 4122. -/
def validId (id : String) : Bool :=
  Uuid.isCanonical id && id.toList[14]? == some '4' &&
    (id.toList[19]?).any (· ∈ ['8', '9', 'a', 'b'])

def executionQName : String := ".marty-purge-quarantine"

/-- `InstallationLeaf::new`: an ordinary name of a child. -/
def isInstallationLeaf (value : String) : Bool :=
  let isAlphanumeric (c : Char) := Uuid.isDigit c || ('a' ≤ c && c ≤ 'z') || ('A' ≤ c && c ≤ 'Z')
  value ≠ "" && value.utf8ByteSize ≤ 128 && value ≠ "." && value ≠ ".." &&
    (value.toList.head?).any isAlphanumeric &&
    value.toList.all fun c => isAlphanumeric c || c == '.' || c == '_' || c == '-'

/-- The entries that a ledger may hold. -/
def EntryName.allowed : EntryName → Bool
  | .intent key | .result key => hexDigest key
  | .temporary id => id.toList.length == 32 && id.toList.all Uuid.isHex
  | .manifest | .custody | .executionIntent | .executionCreated => true

/-! ## Ledgers -/

structure Ledger where
  installationId : String
  planSha256 : String
  deriving DecidableEq

structure PersistedIntent where
  key : String
  created : Bool
  deriving DecidableEq

def PersistedIntent.isRetry (intent : PersistedIntent) : Bool := !intent.created

namespace Ledger

def intentRecord (l : Ledger) (resource : ResourceKind) (identitySha256 : String) : IntentRecord :=
  ⟨"elevenid.installer-purge-intent/v1", l.installationId, l.planSha256, resource, identitySha256,
    "remove"⟩

def intentBytes (l : Ledger) (resource : ResourceKind) (identitySha256 : String) : Bytes :=
  toVec (l.intentRecord resource identitySha256).toValue

def resultRecord (l : Ledger) (key : String) (outcome : Outcome) : ResultRecord :=
  ⟨"elevenid.installer-purge-result/v1", l.installationId, l.planSha256, key, outcome⟩

def resultBytes (l : Ledger) (key : String) (outcome : Outcome) : Bytes :=
  toVec (l.resultRecord key outcome).toValue

def custodyBytes (l : Ledger) (stamps : Stamps) : Bytes :=
  toVec (.object [("schema", .string "elevenid.installer-purge-custody/v1"),
    ("installation_id", .string l.installationId), ("plan_sha256", .string l.planSha256),
    ("parent", stamps.parent.toValue), ("ledger", stamps.ledger.toValue),
    ("quarantine", stamps.quarantine.toValue)])

/-- `verify_custody`: the quarantine is in its place, and the custody record binds it. -/
def verifyCustody (l : Ledger) : Program Disk Unit := do
  let before ← observe
  require before.quarantine.isSome
  let stored ← readRecord .custody maxRecord
  let now ← observe
  require (stored = some (l.custodyBytes now.stamps))

def verifyManifest (host : Host) (l : Ledger) : Program Disk Bytes := do
  modify Disk.syncParent
  modify Disk.syncDirectory
  let d ← observe
  require d.present
  l.verifyCustody
  match ← readRecord .manifest maxManifest with
  | none => .refused
  | some bytes =>
      require (host.digest bytes = l.planSha256)
      return bytes

/-- The creation records of the execution quarantine bind each other and the ledger. -/
def executionQPairValid (host : Host) (l : Ledger) (intent created : Bytes)
    (i : ExecutionQCreateIntent) (c : ExecutionQCreated) : Bool :=
  i.schema = "elevenid.installer-execution-q-create-intent/v1" &&
    i.installationId = l.installationId && i.planSha256 = l.planSha256 &&
    i.action = "create_execution_quarantine" && i.executionQName = executionQName &&
    isInstallationLeaf i.installationLeaf && i.root.mode = 0o700 && i.root.uid = host.euid &&
    i.root.ino ≠ 0 && i.root.mountId ≠ 0 && i.root.mountId = i.parent.mountId &&
    i.root.dev = i.parent.dev && c.schema = "elevenid.installer-execution-q-created/v1" &&
    c.installationId = l.installationId && c.planSha256 = l.planSha256 &&
    c.createIntentSha256 = host.digest intent && c.status = "created" && !c.deletionAuthorized &&
    c.executionQ.mode = 0o700 && c.executionQ.uid = host.euid && c.executionQ.ino ≠ 0 &&
    c.executionQ.mountId = i.root.mountId && c.executionQ.dev = i.root.dev &&
    toVec i.toValue = intent && toVec c.toValue = created

def executionQPair (host : Host) (l : Ledger) :
    Program Disk (Option (ExecutionQCreateIntent × ExecutionQCreated)) := do
  let intent ← readRecord .executionIntent maxRecord
  let created ← readRecord .executionCreated maxRecord
  match intent, created with
  | some intent, some created =>
      match host.readCreateIntent intent, host.readCreated created with
      | some i, some c =>
          require (executionQPairValid host l intent created i c = true)
          return some (i, c)
      | _, _ => .refused
  | _, _ =>
      let intentAgain ← readRecord .executionIntent maxRecord
      let createdAgain ← readRecord .executionCreated maxRecord
      require (intentAgain = none ∧ createdAgain = none)
      return none

/-! Opening a ledger. -/

/-- The ledger has what it needs to be resumed: a manifest, or nothing that was written after
one. -/
def canResume (d : Disk) : Bool :=
  d.visible.all (·.name.allowed) && d.visible.length < 8192 &&
    (d.visible.any (·.name = .manifest) ||
      d.visible.all (fun e => e.name = .custody || e.name.isTemporary) && d.quarantine = some [])

def makeDirectory : Program Disk Bool := do
  let created ← Program.step Disk.makeLedger fun d => .done (!d.present)
  whenever created (modify Disk.syncParent)
  return created

def makeQuarantine : Program Disk Unit := do
  let made ← Program.step Disk.makeQuarantine fun d => .done d.quarantine.isNone
  require made
  modify Disk.syncDirectory

/-- `open_quarantine` -/
def openQuarantine (create : Bool) : Program Disk Unit := do
  whenever create makeQuarantine
  let d ← observe
  require d.quarantine.isSome

def writeCustody (l : Ledger) (pending : String) : Program Disk Unit := do
  let d ← observe
  let _ ← writeExact pending .custody (l.custodyBytes d.stamps) maxRecord

def createOrResume (host : Host) (installationId : String) (plan : Bytes) (confirmed : String)
    (pending pending' : String) : Program Disk Ledger := do
  require (hexDigest confirmed = true ∧ host.digest plan = confirmed)
  require (validId installationId = true)
  let created ← makeDirectory
  openQuarantine created
  let d ← observe
  require (canResume d = true)
  let l : Ledger := ⟨installationId, confirmed⟩
  whenever created (l.writeCustody pending)
  l.verifyCustody
  let _ ← writeOrVerify pending' .manifest plan maxManifest
  let _ ← l.verifyManifest host
  let _ ← l.executionQPair host
  return l

def openExisting (host : Host) (installationId : String) (confirmed : String) :
    Program Disk Ledger := do
  require (hexDigest confirmed = true)
  require (validId installationId = true)
  let d ← observe
  require d.present
  openQuarantine false
  let d ← observe
  require (d.visible.all (·.name.allowed) = true ∧ d.visible.length < 8192)
  let l : Ledger := ⟨installationId, confirmed⟩
  let _ ← l.verifyManifest host
  let _ ← l.executionQPair host
  return l

/-! The records of an action. -/

/-- A result without its intent is an inconsistent ledger. -/
def requireNoResult (key : String) : Program Disk Unit := do
  let result ← readRecord (.result key) maxRecord
  require (result = none)

def recordIntent (host : Host) (l : Ledger) (resource : ResourceKind) (identitySha256 : String)
    (pending : String) : Program Disk PersistedIntent := do
  let _ ← l.verifyManifest host
  require (hexDigest identitySha256 = true)
  let bytes := l.intentBytes resource identitySha256
  let key := host.digest bytes
  let before ← readRecord (.intent key) maxRecord
  whenever (before = none) (requireNoResult key)
  let created ← writeOrVerify pending (.intent key) bytes maxRecord
  whenever created (requireNoResult key)
  let _ ← l.verifyManifest host
  let stored ← readRecord (.intent key) maxRecord
  require (stored = some bytes)
  return ⟨key, created⟩

/-- The record of the intent is of this ledger. -/
def intentValid (l : Ledger) (original : Bytes) (record : IntentRecord) : Bool :=
  record.schema = "elevenid.installer-purge-intent/v1" && record.installationId = l.installationId &&
    record.planSha256 = l.planSha256 && record.action = "remove" && hexDigest record.identitySha256 &&
    toVec record.toValue = original

def verifyIntent (host : Host) (l : Ledger) (intent : PersistedIntent) : Program Disk Unit := do
  let _ ← l.verifyManifest host
  require (hexDigest intent.key = true)
  match ← readRecord (.intent intent.key) maxRecord with
  | none => .refused
  | some original =>
      require (host.digest original = intent.key)
      match host.readIntent original with
      | none => .refused
      | some record => require (l.intentValid original record = true)

/-- The record of the result is of this ledger and of this intent. -/
def resultValid (l : Ledger) (key : String) (bytes : Bytes) (record : ResultRecord) : Bool :=
  record.schema = "elevenid.installer-purge-result/v1" && record.installationId = l.installationId &&
    record.planSha256 = l.planSha256 && record.intentSha256 = key && toVec record.toValue = bytes

def recordedResult (host : Host) (l : Ledger) (intent : PersistedIntent) :
    Program Disk (Option Outcome) := do
  l.verifyIntent host intent
  match ← readRecord (.result intent.key) maxRecord with
  | none =>
      let _ ← l.verifyManifest host
      return none
  | some bytes =>
      match host.readResult bytes with
      | none => .refused
      | some record =>
          require (l.resultValid intent.key bytes record = true)
          let _ ← l.verifyManifest host
          let again ← readRecord (.result intent.key) maxRecord
          require (again = some bytes)
          return some record.outcome

def recordResult (host : Host) (l : Ledger) (intent : PersistedIntent) (outcome : Outcome)
    (pending : String) : Program Disk Unit := do
  l.verifyIntent host intent
  require (outcome = .alreadyAbsentAfterRetry → intent.isRetry = true)
  let bytes := l.resultBytes intent.key outcome
  let _ ← writeOrVerify pending (.result intent.key) bytes maxRecord
  let _ ← l.verifyManifest host
  let stored ← readRecord (.result intent.key) maxRecord
  require (stored = some bytes)

end Ledger

end Marty.Installer
