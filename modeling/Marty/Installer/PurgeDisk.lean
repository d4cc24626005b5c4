import Marty.Lib.JsonText
import Marty.Lib.StepProgram
import Marty.Lib.Uuid

/-!
# The files of the purge ledger

The directory of a ledger as the running system shows it, and as much of it as would be there
after a loss of power.  A record is written under a temporary name, synchronized and renamed, and
it is read only after its name has been made durable.

## Main definitions

* `Disk` — the directory of a ledger, with what is durable of it.
* `readRecord`, `writeExact`, `writeOrVerify` — the records, one call to the system at a time.
* `Disk.powerLoss` — what may be left after a loss of power.
-/

namespace Marty.Installer

open Lib Lib.Json Lib.Program

abbrev Bytes := List UInt8

def maxManifest : Nat := 4 * 1024 * 1024

def maxRecord : Nat := 4096

/-- The names of the entries of a ledger. -/
inductive EntryName
  | manifest | custody | executionIntent | executionCreated
  | intent (key : String)
  | result (key : String)
  | temporary (id : String)
  deriving DecidableEq, Repr

def EntryName.isTemporary : EntryName → Bool
  | .temporary _ => true
  | _ => false

structure FileEntry where
  name : EntryName
  bytes : Bytes
  /-- The contents have been synchronized. -/
  synced : Bool
  deriving DecidableEq

structure DirectoryStamp where
  dev : Nat
  ino : Nat
  uid : Nat
  gid : Nat
  mode : Nat
  mountId : Nat
  deriving DecidableEq

/-- The directories that the custody record binds. -/
structure Stamps where
  parent : DirectoryStamp
  ledger : DirectoryStamp
  quarantine : DirectoryStamp
  deriving DecidableEq

/-- The directory of a ledger.  `rooted`, `quarantineRooted` and `durable` are what a loss of
power leaves for certain. -/
structure Disk where
  present : Bool
  rooted : Bool
  quarantine : Option (List String)
  quarantineRooted : Bool
  visible : List FileEntry
  durable : List FileEntry
  stamps : Stamps

namespace Disk

def file (d : Disk) (n : EntryName) : Option FileEntry := d.visible.find? fun e => e.name = n

/-- `fsync` of the directory that the ledger stands in. -/
def syncParent (d : Disk) : Disk := { d with rooted := d.present }

/-- `fsync` of the directory of the ledger. -/
def syncDirectory (d : Disk) : Disk :=
  { d with durable := d.visible, quarantineRooted := d.quarantine.isSome }

/-- `fsync` of a file. -/
def syncFile (n : EntryName) (d : Disk) : Disk :=
  { d with visible := d.visible.map fun e => if e.name = n then { e with synced := true } else e }

def appendByte (n : EntryName) (b : UInt8) (d : Disk) : Disk :=
  { d with
    visible := d.visible.map fun e =>
      if e.name = n then { e with bytes := e.bytes ++ [b], synced := false } else e }

/-- `O_CREAT | O_EXCL`. -/
def create (n : EntryName) (d : Disk) : Disk :=
  if (d.file n).isNone then { d with visible := d.visible ++ [⟨n, [], false⟩] } else d

/-- `RENAME_NOREPLACE`. -/
def rename (source target : EntryName) (d : Disk) : Disk :=
  if (d.file target).isNone then
    { d with
      visible := d.visible.map fun e => if e.name = source then { e with name := target } else e }
  else d

/-- `mkdir` of the ledger. -/
def makeLedger (d : Disk) : Disk :=
  if d.present then d
  else
    { d with
      present := true
      rooted := false
      quarantine := none
      quarantineRooted := false
      visible := []
      durable := [] }

def makeQuarantine (d : Disk) : Disk :=
  if d.quarantine.isSome then d else { d with quarantine := some [], quarantineRooted := false }

/-- The entries that a loss of power may leave: each is one that was there, with its contents when
these were synchronized, and those that were durable and had not been renamed are all left. -/
def Survives (d : Disk) (kept : List FileEntry) : Prop :=
  (kept.map (·.name)).Nodup ∧
    (∀ e ∈ kept, ∃ old ∈ d.visible ++ d.durable, old.name = e.name ∧ (old.synced = true → e = old)) ∧
    ∀ e ∈ d.durable, e ∈ d.visible → ∃ left ∈ kept, left.name = e.name ∧ (e.synced = true → left = e)

instance (d : Disk) (kept : List FileEntry) : Decidable (d.Survives kept) :=
  inferInstanceAs (Decidable (_ ∧ _ ∧ _))

/-- A loss of power.  A directory whose name was not durable may be gone with all that it holds. -/
def powerLoss (d : Disk) (kept : List FileEntry) (present quarantine : Bool) : Option Disk :=
  if d.present = true ∧ present = false ∧ d.rooted = false then
    some { d with
      present := false
      rooted := false
      quarantine := none
      quarantineRooted := false
      visible := []
      durable := [] }
  else if d.Survives kept then
    some { d with
      rooted := d.present
      quarantine := if d.quarantineRooted || quarantine then d.quarantine else none
      quarantineRooted := d.quarantine.isSome && (d.quarantineRooted || quarantine)
      visible := kept
      durable := kept }
  else none

end Disk

/-! ## Records, one call at a time -/

/-- One read of an entry; what is empty or too long is refused. -/
def readRecordOnce (n : EntryName) (limit : Nat) : Program Disk (Option Bytes) :=
  .step id fun d =>
    match d.file n with
    | none => .done none
    | some e => if e.bytes ≠ [] ∧ e.bytes.length ≤ limit then .done (some e.bytes) else .refused

/-- Read an entry, make it and its name durable, and read it again. -/
def readRecord (n : EntryName) (limit : Nat) : Program Disk (Option Bytes) := do
  let first ← readRecordOnce n limit
  whenever first.isSome (modify (Disk.syncFile n))
  modify Disk.syncDirectory
  let second ← readRecordOnce n limit
  require (first = second)
  return second

def createNew (n : EntryName) : Program Disk Unit :=
  .step (Disk.create n) fun d => if (d.file n).isNone then .done () else .refused

def writeAll (n : EntryName) : Bytes → Program Disk Unit
  | [] => pure ()
  | b :: bytes => do
      modify (Disk.appendByte n b)
      writeAll n bytes

def renameNoReplace (source target : EntryName) : Program Disk Unit :=
  .step (Disk.rename source target) fun d => if (d.file target).isNone then .done () else .refused

/-- Write a record that is not there.  `pending` is the random part of its temporary name. -/
def writeExact (pending : String) (n : EntryName) (bytes : Bytes) (limit : Nat) :
    Program Disk Bool := do
  require (bytes ≠ [] ∧ bytes.length ≤ limit)
  createNew (.temporary pending)
  writeAll (.temporary pending) bytes
  modify (Disk.syncFile (.temporary pending))
  renameNoReplace (.temporary pending) n
  modify Disk.syncDirectory
  let stored ← readRecord n limit
  require (stored = some bytes)
  return true

/-- Whether this call has written the record; one that is there must be the same. -/
def writeOrVerify (pending : String) (n : EntryName) (bytes : Bytes) (limit : Nat) :
    Program Disk Bool := do
  match ← readRecord n limit with
  | some existing =>
      require (existing = bytes)
      return false
  | none => writeExact pending n bytes limit

end Marty.Installer
