import Marty.Lib.Checked
import Marty.Lib.Chrono
import Marty.Lib.Delivery
import Marty.Lib.Interleaving
import Marty.Lib.Json
import Marty.Lib.Table
import Marty.Lib.Text

/-!
# The Canvas synchronization worker and its jobs

A synchronization target that is due has one open job.  A worker leases the jobs that are
ready, works on each of them while it renews the lease, and writes the outcome under the
lease.  A lease that has expired is swept by whoever leases next: the job is retried, or
dead-lettered after its last attempt, and a dead letter disables the target of the
configuration that the lease had recorded.

## Main definitions

* `JobRow`, `TargetRow`, `Tables` — the two tables.
* `enqueueDue`, `leaseReady`, `renewLease`, `completeJob`, `failJob` — the operations on them.
* `taskStep` — the steps of `process_job`.
* `workerMachine` — any number of workers, their crashes, and the other writers of targets.
-/

namespace Marty.Issuance.CanvasSync

open Lib Lib.Checked

/-! ## Rows and records -/

inductive CanvasSyncJobStatus
  | queued
  | leased
  | retry
  | succeeded
  | deadLetter
  | cancelled
  deriving DecidableEq, Repr

/-- The statuses of which a target has at most one job. -/
def CanvasSyncJobStatus.isOpen : CanvasSyncJobStatus → Bool
  | .queued | .leased | .retry => true
  | .succeeded | .deadLetter | .cancelled => false

/-- A row of `canvas_evidence_sync_jobs`. -/
structure JobRow where
  id : String
  organizationId : String
  targetId : String
  status : CanvasSyncJobStatus
  attemptCount : Nat
  maxAttempts : Nat
  availableAt : DateTime
  leaseOwner : Option String
  leaseExpiresAt : Option DateTime
  lastErrorCode : Option String
  lastErrorSummary : Option String
  result : Json.Map
  createdAt : DateTime
  updatedAt : DateTime
  startedAt : Option DateTime
  completedAt : Option DateTime
  deriving DecidableEq

/-- A row of `canvas_evidence_sync_targets`, as far as jobs depend on it.  The heartbeat is
what a worker writes into the metadata. -/
structure TargetRow where
  id : String
  organizationId : String
  enabled : Bool
  scheduleSeconds : Int
  nextRunAt : DateTime
  lastEnqueuedAt : Option DateTime
  lastSucceededAt : Option DateTime
  configVersion : Int
  heartbeat : Option (String × DateTime)
  updatedAt : DateTime
  deriving DecidableEq

structure Tables where
  jobs : List JobRow
  targets : List TargetRow
  deriving DecidableEq

/-- A job as it is handed to the worker that has leased it. -/
structure CanvasSyncJob where
  id : String
  organizationId : String
  targetId : String
  targetConfigVersion : Int
  status : CanvasSyncJobStatus
  attemptCount : Nat
  maxAttempts : Nat
  availableAt : DateTime
  leaseOwner : Option String
  leaseExpiresAt : Option DateTime
  createdAt : DateTime
  startedAt : Option DateTime
  deriving DecidableEq

inductive CanvasSyncRepositoryError
  | unavailable
  | invalidState
  | integerSqlRange
  | durationRange
  deriving DecidableEq, Repr

inductive UnexpectedCanvasSyncFailure
  | runtime
  | httpStatus (status : Nat)
  | providerHttpException
  deriving DecidableEq, Repr

structure CanvasSyncProcessingError where
  code : String
  summary : String
  retryable : Bool
  retryAfterSeconds : Option Nat
  unexpected : Option UnexpectedCanvasSyncFailure
  deriving DecidableEq, Repr

structure JobFailure where
  errorCode : String
  errorSummary : Option String
  retryAfterSeconds : Option Nat
  forceDeadLetter : Bool
  deriving DecidableEq, Repr

def maximumAttempts : Nat := 8

def maxRetryAfterSeconds : Nat := 86400

/-- The delay before a retry; `jitter` is what the random generator has drawn. -/
def jobRetryDelaySeconds (attemptCount : Nat) (retryAfter : Option Nat) (jitter : Nat) : Nat :=
  let exponent := min (attemptCount - 1) 10
  let base := min (15 * 2 ^ exponent) 3600
  let boundedJitter := min jitter (base / 3)
  max (base + boundedJitter) (min (retryAfter.getD 0) maxRetryAfterSeconds)

def limitAsI64 (limit : Int) : Except CanvasSyncRepositoryError Int :=
  okOr (toI64 (max limit 1)) .integerSqlRange

/-- The first moment of the year 1, and the first of the year 10000. -/
def firstYear : Utc := -62135596800000000000

def lastYearEnd : Utc := 253402300800000000000

def leaseDeadline (now : Utc) (leaseSeconds : Int) : Except CanvasSyncRepositoryError Utc := do
  let secs ← okOr (toI64 (max leaseSeconds 30)) .durationRange
  rejectIf (secs > (2 ^ 63 - 1) / 1000) .durationRange
  let deadline := now + secs * 1000000000
  rejectIf (¬ (firstYear ≤ deadline ∧ deadline < lastYearEnd)) .durationRange
  pure deadline

/-! ## Enqueueing -/

/-- A new job violates the primary key, or the unique index over open jobs. -/
def conflicts (jobs : List JobRow) (job : JobRow) : Bool :=
  jobs.any fun row => row.id == job.id || (row.targetId == job.targetId && row.status.isOpen)

def newJob (id organizationId targetId : String) (now : DateTime) : JobRow where
  id := id
  organizationId := organizationId
  targetId := targetId
  status := .queued
  attemptCount := 0
  maxAttempts := maximumAttempts
  availableAt := now
  leaseOwner := none
  leaseExpiresAt := none
  lastErrorCode := none
  lastErrorSummary := none
  result := []
  createdAt := now
  updatedAt := now
  startedAt := none
  completedAt := none

def TargetRow.enqueued (now : DateTime) (target : TargetRow) : TargetRow :=
  { target with
    lastEnqueuedAt := some now
    nextRunAt := now + seconds (max target.scheduleSeconds 60)
    updatedAt := now }

/-- What surrounds a transaction: the clock, and the rows that other transactions hold. -/
structure Surroundings where
  clock : StatementClock
  locked : List String

/-- The loop over the due targets; `k` of them are done, and `draws` are the generated
identifiers. -/
def enqueueTargets (clock : StatementClock) (draws : Nat → String) :
    Nat → List TargetRow → Tables → Tables × Nat
  | _, [], s => (s, 0)
  | k, target :: due, s =>
      let job := newJob (draws k) target.organizationId target.id (clock.reads (2 * k + 1))
      let conflict := conflicts s.jobs job
      let jobs := if conflict then s.jobs else s.jobs ++ [job]
      let now := clock.reads (2 * k + 2)
      let targets := Table.update s.targets (fun row => row.id == target.id)
        (TargetRow.enqueued now)
      let rest := enqueueTargets clock draws (k + 1) due ⟨jobs, targets⟩
      (rest.1, rest.2 + if conflict then 0 else 1)

def enqueueDue (limit : Int) (around : Surroundings) (draws : Nat → String) (s : Tables) :
    Except CanvasSyncRepositoryError (Tables × Nat) := do
  let limit ← limitAsI64 limit
  let due := (s.targets.filter fun target => target.enabled &&
      decide (target.nextRunAt ≤ around.clock.reads 0) && decide (target.id ∉ around.locked))
    |>.mergeSort (fun a b => a.nextRunAt ≤ b.nextRunAt) |>.take limit.toNat
  pure (enqueueTargets around.clock draws 0 due s)

/-! ## Leasing -/

def targetConfigVersionKey : String := "target_config_version"

/-- `(result->>'target_config_version')::integer`. -/
def recordedConfigVersion (result : Json.Map) : Except CanvasSyncRepositoryError (Option Int) :=
  match result.get targetConfigVersionKey with
  | none | some .null => .ok none
  | some value => (okOr value.asInteger .unavailable).map some

def JobRow.expired (now : DateTime) (row : JobRow) : Bool :=
  row.status == .leased && row.leaseExpiresAt.any (fun expires => decide (expires ≤ now))

def JobRow.expiredFinally (now : DateTime) (row : JobRow) : JobRow :=
  { row with
    status := .deadLetter
    leaseOwner := none
    leaseExpiresAt := none
    lastErrorCode := some "canvas_worker_lease_expired"
    lastErrorSummary := some "Canvas worker lease expired on final attempt"
    completedAt := some now
    updatedAt := now }

def JobRow.expiredForRetry (now : DateTime) (delay : Nat) (row : JobRow) : JobRow :=
  { row with
    status := .retry
    availableAt := now + seconds delay
    leaseOwner := none
    leaseExpiresAt := none
    lastErrorCode := some "canvas_worker_lease_expired"
    lastErrorSummary := some "Canvas worker lease expired before completion"
    updatedAt := now }

def TargetRow.disabled (now : DateTime) (target : TargetRow) : TargetRow :=
  { target with enabled := false, updatedAt := now }

/-- `UPDATE … WHERE id = … AND organization_id = … AND config_version = …`. -/
def atVersion (id organizationId : String) (configVersion : Int) (target : TargetRow) : Bool :=
  target.id == id && target.organizationId == organizationId &&
    target.configVersion == configVersion

def i32Min : Int := -(2 ^ 31)

/-- The rows of a `FOR UPDATE SKIP LOCKED`. -/
def lockRows (jobs : List JobRow) (around : Surroundings) (p : JobRow → Bool) : List JobRow :=
  jobs.filter fun row => p row && decide (row.id ∉ around.locked)

/-- One row of the sweep; `k` rows are done. -/
def recoverFinalRow (clock : StatementClock) (k : Nat) (row : JobRow) (s : Tables) :
    Except CanvasSyncRepositoryError Tables := do
  let version ← recordedConfigVersion row.result
  let now := clock.reads (2 * k + 1)
  let jobs := Table.update s.jobs (fun r => r.id == row.id && r.expired now)
    (JobRow.expiredFinally now)
  let targets := Table.update s.targets
    (atVersion row.targetId row.organizationId (version.getD i32Min))
    (TargetRow.disabled (clock.reads (2 * k + 2)))
  pure ⟨jobs, targets⟩

def recoverRetryRow (clock : StatementClock) (jitter : Nat → Nat) (k : Nat) (row : JobRow)
    (s : Tables) : Except CanvasSyncRepositoryError Tables :=
  let delay := jobRetryDelaySeconds row.attemptCount none (jitter k)
  let now := clock.reads (k + 1)
  .ok { s with
    jobs := Table.update s.jobs (fun r => r.id == row.id && r.expired now)
      (JobRow.expiredForRetry now delay) }

/-- The loop over the rows that a sweep has locked. -/
def sweepRows (f : Nat → JobRow → Tables → Except CanvasSyncRepositoryError Tables) :
    Nat → List JobRow → Tables → Except CanvasSyncRepositoryError Tables
  | _, [], s => .ok s
  | k, row :: rows, s => do
      let s ← f k row s
      sweepRows f (k + 1) rows s

def recoverExpiredFinal (around : Surroundings) (s : Tables) :
    Except CanvasSyncRepositoryError Tables :=
  sweepRows (recoverFinalRow around.clock) 0
    (lockRows s.jobs around fun row =>
      row.expired (around.clock.reads 0) && decide (row.maxAttempts ≤ row.attemptCount)) s

def recoverExpiredRetry (around : Surroundings) (jitter : Nat → Nat) (s : Tables) :
    Except CanvasSyncRepositoryError Tables :=
  sweepRows (recoverRetryRow around.clock jitter) 0
    (lockRows s.jobs around fun row =>
      row.expired (around.clock.reads 0) && decide (row.attemptCount < row.maxAttempts)) s

/-- The configuration version of the target of a job, or nought where there is none. -/
def currentConfigVersion (targets : List TargetRow) (row : JobRow) : Int :=
  ((targets.find? fun target =>
    target.id == row.targetId && target.organizationId == row.organizationId).map
      (·.configVersion)).getD 0

def JobRow.leasedBy (workerId : String) (expires now : DateTime) (version : Int)
    (row : JobRow) : JobRow :=
  { row with
    status := .leased
    attemptCount := row.attemptCount + 1
    leaseOwner := some workerId
    leaseExpiresAt := some expires
    startedAt := some (row.startedAt.getD now)
    result := row.result.insert targetConfigVersionKey (.ofInt version)
    updatedAt := now }

def jobFromRow (row : JobRow) : Except CanvasSyncRepositoryError CanvasSyncJob := do
  let version ← recordedConfigVersion row.result
  let version ← okOr version .unavailable
  pure
    { id := row.id
      organizationId := row.organizationId
      targetId := row.targetId
      targetConfigVersion := version
      status := row.status
      attemptCount := row.attemptCount
      maxAttempts := row.maxAttempts
      availableAt := row.availableAt
      leaseOwner := row.leaseOwner
      leaseExpiresAt := row.leaseExpiresAt
      createdAt := row.createdAt
      startedAt := row.startedAt }

/-- The update of one ready row, with the job that it returns. -/
def leaseRow (workerId : String) (expires : DateTime) (now : DateTime) (row : JobRow)
    (s : Tables) : Except CanvasSyncRepositoryError (Tables × CanvasSyncJob) := do
  let lease := fun r : JobRow =>
    r.leasedBy workerId expires now (currentConfigVersion s.targets r)
  let leased ← okOr (Table.updated s.jobs (fun r => r.id == row.id) lease).head? .unavailable
  let job ← jobFromRow leased
  pure ({ s with jobs := Table.update s.jobs (fun r => r.id == row.id) lease }, job)

def leaseRows (workerId : String) (expires : DateTime) (clock : StatementClock) :
    Nat → List JobRow → Tables → Except CanvasSyncRepositoryError (Tables × List CanvasSyncJob)
  | _, [], s => .ok (s, [])
  | k, row :: rows, s => do
      let leased ← leaseRow workerId expires (clock.reads (k + 1)) row s
      let rest ← leaseRows workerId expires clock (k + 1) rows leased.1
      pure (rest.1, leased.2 :: rest.2)

def JobRow.ready (now : DateTime) (row : JobRow) : Bool :=
  (row.status == .queued || row.status == .retry) && decide (row.availableAt ≤ now) &&
    decide (row.attemptCount < row.maxAttempts)

/-- The order in which ready jobs are leased. -/
def JobRow.before (a b : JobRow) : Bool :=
  decide (a.availableAt < b.availableAt) ||
    (a.availableAt == b.availableAt && decide (a.createdAt ≤ b.createdAt))

/-- What surrounds a call of `lease_ready`, for each of its three parts. -/
structure LeaseSurroundings where
  utcNow : Utc
  expiredFinal : Surroundings
  expiredRetry : Surroundings
  ready : Surroundings
  jitter : Nat → Nat

def leaseReady (workerId : String) (limit leaseSeconds : Int) (around : LeaseSurroundings)
    (s : Tables) : Except CanvasSyncRepositoryError (Tables × List CanvasSyncJob) := do
  -- the deadline is computed from the clock of the worker, before the transaction
  let leaseExpiresAt ← leaseDeadline around.utcNow leaseSeconds
  let s ← recoverExpiredFinal around.expiredFinal s
  let s ← recoverExpiredRetry around.expiredRetry around.jitter s
  let limit ← limitAsI64 limit
  let ready := (lockRows s.jobs around.ready (JobRow.ready (around.ready.clock.reads 0)))
    |>.mergeSort JobRow.before |>.take limit.toNat
  leaseRows workerId (Utc.stored leaseExpiresAt) around.ready.clock 0 ready s

/-! ## Working under a lease -/

/-- The condition under which the holder of a job may write it. -/
def JobRow.heldBy (job : CanvasSyncJob) (workerId : String) (now : DateTime) (row : JobRow) :
    Bool :=
  row.id == job.id && row.organizationId == job.organizationId && row.status == .leased &&
    row.leaseOwner == some workerId && row.leaseExpiresAt.any (fun expires => decide (now < expires)) &&
    row.attemptCount == job.attemptCount

def renewLease (job : CanvasSyncJob) (workerId : String) (leaseSeconds : Int) (utcNow : Utc)
    (now : DateTime) (s : Tables) : Except CanvasSyncRepositoryError (Tables × Bool) := do
  let leaseExpiresAt ← leaseDeadline utcNow leaseSeconds
  let renew := fun row : JobRow =>
    { row with leaseExpiresAt := some (Utc.stored leaseExpiresAt), updatedAt := now }
  pure ({ s with jobs := Table.update s.jobs (JobRow.heldBy job workerId now) renew },
    (Table.updated s.jobs (JobRow.heldBy job workerId now) renew).length == 1)

def JobRow.completed (result : Json.Map) (now : DateTime) (row : JobRow) : JobRow :=
  { row with
    status := .succeeded
    result := result
    lastErrorCode := none
    lastErrorSummary := none
    leaseOwner := none
    leaseExpiresAt := none
    completedAt := some now
    updatedAt := now }

def TargetRow.succeeded (now : DateTime) (target : TargetRow) : TargetRow :=
  { target with lastSucceededAt := some now, updatedAt := now }

def completeJob (job : CanvasSyncJob) (workerId : String) (targetConfigVersion : Int)
    (result : Json.Map) (clock : StatementClock) (s : Tables) : Tables × Bool :=
  let held := JobRow.heldBy job workerId (clock.reads 0)
  let complete := JobRow.completed result (clock.reads 0)
  match (Table.updated s.jobs held complete).head? with
  | none => (s, false)
  | some _ =>
      let targets := Table.update s.targets
        (fun target => atVersion job.targetId job.organizationId targetConfigVersion target &&
          target.enabled)
        (TargetRow.succeeded (clock.reads 1))
      (⟨Table.update s.jobs held complete, targets⟩, true)

def JobRow.failed (failure : JobFailure) (deadLetter : Bool) (delay : Nat) (now : DateTime)
    (row : JobRow) : JobRow :=
  { row with
    status := if deadLetter then .deadLetter else .retry
    maxAttempts := if deadLetter then max 1 row.attemptCount else row.maxAttempts
    availableAt := if deadLetter then row.availableAt else now + seconds delay
    leaseOwner := none
    leaseExpiresAt := none
    lastErrorCode := some (String.ofList (failure.errorCode.toList.take 120))
    lastErrorSummary := failure.errorSummary
    result := []
    completedAt := if deadLetter then some now else none
    updatedAt := now }

def failJob (job : CanvasSyncJob) (workerId : String) (failure : JobFailure)
    (targetConfigVersion : Int) (jitter : Nat) (clock : StatementClock) (s : Tables) :
    Tables × Option CanvasSyncJobStatus :=
  let deadLetter := failure.forceDeadLetter || decide (job.maxAttempts ≤ job.attemptCount)
  let status := if deadLetter then .deadLetter else .retry
  let delay := jobRetryDelaySeconds job.attemptCount failure.retryAfterSeconds jitter
  let held := JobRow.heldBy job workerId (clock.reads 0)
  let fail := JobRow.failed failure deadLetter delay (clock.reads 0)
  match (Table.updated s.jobs held fail).head? with
  | none => (s, none)
  | some _ =>
      let targets := if deadLetter then
        Table.update s.targets (atVersion job.targetId job.organizationId targetConfigVersion)
          (TargetRow.disabled (clock.reads 1))
        else s.targets
      (⟨Table.update s.jobs held fail, targets⟩, some status)

/-- The target of a job. -/
def target (organizationId targetId : String) (s : Tables) : Option TargetRow :=
  s.targets.find? fun row => row.id == targetId && row.organizationId == organizationId

def TargetRow.beaten (workerId : String) (now : DateTime) (row : TargetRow) : TargetRow :=
  { row with heartbeat := some (workerId, now), updatedAt := now }

def touchTargetHeartbeat (current : TargetRow) (workerId : String) (now : DateTime)
    (s : Tables) : Tables × Bool :=
  let touched := fun row : TargetRow =>
    atVersion current.id current.organizationId current.configVersion row && row.enabled
  ({ s with targets := Table.update s.targets touched (TargetRow.beaten workerId now) },
    (Table.updated s.targets touched (TargetRow.beaten workerId now)).length == 1)

/-! ## `process_job` -/

inductive EscapedJobError
  | repository (error : CanvasSyncRepositoryError)
  | staleLease
  deriving DecidableEq, Repr

/-- `CanvasSyncLease::from_job`: the job is leased, to this worker. -/
def leaseFromJob (job : CanvasSyncJob) (workerId : String) :
    Except CanvasSyncRepositoryError Unit :=
  rejectIf (job.status ≠ .leased ∨ job.leaseOwner ≠ some workerId ∨ workerId = "" ∨
    job.id = "" ∨ job.organizationId = "" ∨ job.targetId = "" ∨ job.attemptCount < 1)
    .invalidState

def UnexpectedCanvasSyncFailure.code : UnexpectedCanvasSyncFailure → String
  | .httpStatus 429 => "canvas_rate_limited"
  | _ => "canvas_sync_unexpected_error"

def UnexpectedCanvasSyncFailure.summary : UnexpectedCanvasSyncFailure → String
  | .runtime => "Canvas synchronization failed (CanvasSyncUnexpectedError)"
  | .httpStatus _ => "Canvas synchronization failed (CanvasSyncHttpStatusError)"
  | .providerHttpException => "Canvas synchronization failed (HTTPException)"

def CanvasSyncProcessingError.canonicalizeUnexpected (error : CanvasSyncProcessingError) :
    CanvasSyncProcessingError :=
  match error.unexpected with
  | some kind =>
      { code := kind.code
        summary := kind.summary
        retryable := true
        retryAfterSeconds := error.retryAfterSeconds
        unexpected := some kind }
  | none => error

def maxResultStringChars : Nat := 200

def maxErrorCodeChars : Nat := 120

def maxErrorSummaryChars : Nat := 500

def boundedChars (value : String) (maximum : Nat) : String :=
  String.ofList (value.toList.take maximum)

/-- The words of a text, with one blank between them. -/
def collapseWhitespace (value : String) : String :=
  String.ofList (List.intercalate [' ']
    ((value.toList.splitOnP Text.isWhitespace).filter (· ≠ [])))

def allowedResults : List String :=
  ["application_id", "candidate_id", "candidate_state", "config_version",
    "requirements_checked", "facts_observed", "facts_changed", "negative_observations",
    "review_created", "identity_link_required", "candidates_seen", "pending_claim",
    "observations_written", "facts_created", "facts_reused", "policy_allowed", "no_change"]

/-- What is kept of a value: words are bounded, negative counters are nought, and whatever is
no word, counter or flag is left out. -/
def safeValue : Json.Value → Option Json.Value
  | .bool b => some (.bool b)
  | .null => some .null
  | .string text => some (.string (boundedChars text maxResultStringChars))
  | .number token =>
      (Json.Value.number token).asInteger.map fun _ =>
        if token.toList.head? = some '-' then .number "0" else .number token
  | .array _ | .object _ => none

def safeResult (input : Json.Map) : Json.Map :=
  (input.filter fun entry => allowedResults.contains entry.1).filterMap fun entry =>
    (safeValue entry.2).map fun value => (entry.1, value)

def signedCredentialKeys : List String :=
  ["credential_id", "issued_credential_id", "signed_credential", "credential_jwt"]

/-- How the validation and the processor end: late, with an error, or with a result. -/
inductive Evaluation
  | elapsed
  | rejected (error : CanvasSyncProcessingError)
  | processed (result : Json.Map)

/-- What `process_job` writes. -/
inductive Outcome
  | complete (result : Json.Map)
  | fail (failure : JobFailure)
  deriving DecidableEq

def targetNotFound : JobFailure where
  errorCode := "canvas_sync_target_not_found"
  errorSummary := some "Canvas synchronization target is unavailable"
  retryAfterSeconds := none
  forceDeadLetter := true

def Evaluation.outcome : Evaluation → Outcome
  | .elapsed =>
      .fail
        { errorCode := "canvas_sync_deadline_exceeded"
          errorSummary := some "Canvas synchronization exceeded its wall-clock deadline"
          retryAfterSeconds := none
          forceDeadLetter := false }
  | .rejected error =>
      let processing := error.canonicalizeUnexpected
      .fail
        { errorCode := processing.code
          errorSummary := some processing.summary
          retryAfterSeconds := processing.retryAfterSeconds
          forceDeadLetter := !processing.retryable }
  | .processed result =>
      if signedCredentialKeys.any fun key => result.containsKey key then
        .fail
          { errorCode := "canvas_background_signing_forbidden"
            errorSummary := some "Canvas synchronization attempted to return a signed credential"
            retryAfterSeconds := none
            forceDeadLetter := true }
      else .complete (safeResult result)

/-- `persist_failure` bounds the texts before it writes them. -/
def JobFailure.bounded (failure : JobFailure) : JobFailure :=
  { failure with
    errorCode := boundedChars failure.errorCode maxErrorCodeChars
    errorSummary := failure.errorSummary.map fun summary =>
      boundedChars (collapseWhitespace summary) maxErrorSummaryChars }

/-- How far the renewal beside the evaluation is. -/
inductive Renewal
  | sleeping
  | touching
  | rereading
  | stopped (error : CanvasSyncRepositoryError)
  deriving DecidableEq

inductive Phase
  | reading
  | touching (current : TargetRow)
  | rereading
  | evaluating (current : TargetRow) (renewal : Renewal)
  | persisting (outcome : Outcome) (renewalError : Option CanvasSyncRepositoryError)
  | ended (status : Except EscapedJobError CanvasSyncJobStatus)

/-- A job in the hands of a worker. -/
structure Task where
  job : CanvasSyncJob
  phase : Phase

def Task.ends (task : Task) (status : Except EscapedJobError CanvasSyncJobStatus) : Task :=
  { task with phase := .ended status }

inductive TaskEvent
  /-- The target is read, or read again. -/
  | read (reply : Delivery)
  | touch (reply : Delivery) (now : DateTime)
  | renew (reply : Delivery) (leaseSeconds : Int) (utcNow : Utc) (now : DateTime)
  /-- The validation and the processor are done, or out of time. -/
  | evaluated (evaluation : Evaluation)
  | persist (reply : Delivery) (jitter : Nat) (clock : StatementClock)

/-- `process_job` begins to evaluate the target that it has read. -/
def Task.evaluate (task : Task) (workerId : String) (current : TargetRow) : Task :=
  match leaseFromJob task.job workerId with
  | .error error => task.ends (.error (.repository error))
  | .ok () => { task with phase := .evaluating current .sleeping }

def persist (job : CanvasSyncJob) (workerId : String) (jitter : Nat) (clock : StatementClock)
    (s : Tables) : Outcome → Tables × Except EscapedJobError CanvasSyncJobStatus
  | .complete result =>
      let written := completeJob job workerId job.targetConfigVersion result clock s
      (written.1, if written.2 then .ok .succeeded else .error .staleLease)
  | .fail failure =>
      let written := failJob job workerId failure.bounded job.targetConfigVersion jitter clock s
      (written.1, okOr written.2 .staleLease)

/-- The steps of `process_job` for a job of worker `workerId`. -/
def taskStep (workerId : String) (s : Tables) (task : Task) :
    TaskEvent → Phase → Option (Tables × Task)
  | .read .answered, .reading =>
      match target task.job.organizationId task.job.targetId s with
      | none => some (s, { task with phase := .persisting (.fail targetNotFound) none })
      | some current => some (s, { task with phase := .touching current })
  | .read .answered, .rereading =>
      match target task.job.organizationId task.job.targetId s with
      | none => some (s, { task with phase := .persisting (.fail targetNotFound) none })
      | some current => some (s, task.evaluate workerId current)
  | .read _, .reading | .read _, .rereading =>
      some (s, task.ends (.error (.repository .unavailable)))
  | .touch .answered now, .touching current =>
      let touched := touchTargetHeartbeat current workerId now s
      some (touched.1, if touched.2 then task.evaluate workerId current
        else { task with phase := .rereading })
  | .touch reply now, .touching current =>
      some (if reply = .lost then (touchTargetHeartbeat current workerId now s).1 else s,
        task.ends (.error (.repository .unavailable)))
  | .renew .answered leaseSeconds utcNow now, .evaluating current .sleeping =>
      match renewLease task.job workerId leaseSeconds utcNow now s with
      | .error error => some (s, { task with phase := .evaluating current (.stopped error) })
      | .ok (renewed, true) => some (renewed, { task with phase := .evaluating current .touching })
      -- definite lease loss drops the evaluation
      | .ok (renewed, false) => some (renewed, task.ends (.error .staleLease))
  | .renew reply leaseSeconds utcNow now, .evaluating current .sleeping =>
      match renewLease task.job workerId leaseSeconds utcNow now s with
      | .error _ =>
          some (s, { task with phase := .evaluating current (.stopped .unavailable) })
      | .ok (renewed, _) =>
          some (if reply = .lost then renewed else s,
            { task with phase := .evaluating current (.stopped .unavailable) })
  | .touch .answered now, .evaluating current .touching =>
      let touched := touchTargetHeartbeat current workerId now s
      some (touched.1, { task with
        phase := .evaluating current (if touched.2 then .sleeping else .rereading) })
  | .touch reply now, .evaluating current .touching =>
      some (if reply = .lost then (touchTargetHeartbeat current workerId now s).1 else s,
        { task with phase := .evaluating current (.stopped .unavailable) })
  | .read .answered, .evaluating current .rereading =>
      match target task.job.organizationId task.job.targetId s with
      | none => some (s, task.ends (.error .staleLease))
      | some _ => some (s, { task with phase := .evaluating current .sleeping })
  | .read _, .evaluating current .rereading =>
      some (s, { task with phase := .evaluating current (.stopped .unavailable) })
  | .evaluated evaluation, .evaluating _ renewal =>
      let renewalError := match renewal with
        | .stopped error => some error
        | _ => none
      some (s, { task with phase := .persisting evaluation.outcome renewalError })
  | .persist .refused _ _, .persisting _ renewalError =>
      some (s, task.ends (.error (.repository (renewalError.getD .unavailable))))
  | .persist reply jitter clock, .persisting outcome renewalError =>
      let written := persist task.job workerId jitter clock s outcome
      -- an error of the renewal is reported after the outcome is written
      let status := match renewalError, reply with
        | some error, _ => .error (.repository error)
        | none, .lost => .error (.repository .unavailable)
        | none, _ => written.2
      some (written.1, task.ends status)
  | _, _ => none

/-! ## Workers -/

/-- A lease that a call of `lease_ready` by `holder` has handed out. -/
structure Handout (ι : Type*) where
  holder : ι
  job : CanvasSyncJob
  deriving DecidableEq

/-- The tables, with all leases so far. -/
structure Store (ι : Type*) where
  tables : Tables
  handouts : List (Handout ι)

/-- A worker process: its configured identity, which others may share, and its jobs. -/
structure Worker where
  workerId : String
  tasks : List Task

inductive Event
  /-- The process starts; what it held is gone. -/
  | start (workerId : String)
  | enqueueDue (reply : Delivery) (limit : Int) (around : Surroundings) (draws : Nat → String)
  | leaseReady (reply : Delivery) (limit leaseSeconds : Int) (around : LeaseSurroundings)
  | task (k : Nat) (event : TaskEvent)
  /-- A target is written by what is not one of the operations on jobs: its management, the
  processor, or the validation that finds it out of date. -/
  | configure (target : TargetRow)

/-- `INSERT … ON CONFLICT DO UPDATE`. -/
def configured (target : TargetRow) (targets : List TargetRow) : List TargetRow :=
  if targets.any (fun row => row.id == target.id) then
    Table.update targets (fun row => row.id == target.id) fun _ => target
  else targets ++ [target]

def workerStep {ι : Type*} (i : ι) (event : Event) (s : Store ι) (worker : Worker) :
    Option (Store ι × Worker) :=
  match event with
  | .start workerId => some (s, ⟨workerId, []⟩)
  | .configure target =>
      some ({ s with tables.targets := configured target s.tables.targets }, worker)
  | .enqueueDue .refused _ _ _ | .leaseReady .refused _ _ _ => some (s, worker)
  | .enqueueDue _ limit around draws =>
      match enqueueDue limit around draws s.tables with
      | .error _ => some (s, worker)
      | .ok (tables, _) => some ({ s with tables := tables }, worker)
  | .leaseReady reply limit leaseSeconds around =>
      match leaseReady worker.workerId limit leaseSeconds around s.tables with
      | .error _ => some (s, worker)
      | .ok (tables, jobs) =>
          some (⟨tables, s.handouts ++ jobs.map (⟨i, ·⟩)⟩,
            if reply = .answered then
              { worker with tasks := worker.tasks ++ jobs.map (⟨·, .reading⟩) }
            else worker)
  | .task k event =>
      worker.tasks[k]?.bind fun task =>
        (taskStep worker.workerId s.tables task event task.phase).map fun r =>
          ({ s with tables := r.1 }, { worker with tasks := worker.tasks.set k r.2 })

def workerMachine (ι : Type*) : Machine (Store ι) ι Event Worker := ⟨workerStep⟩

end Marty.Issuance.CanvasSync
