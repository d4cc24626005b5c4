import Marty.Lib.Expiring
import Marty.Lib.Interleaving
import Marty.Verification.Sessions

/-!
# The store of verification sessions

The sessions are kept under keys that expire, next to an index of each organization, and every
operation on them is a sequence of atomic scripts.  A submission claims its session, evaluates
the presentation outside the store and finalizes the record under the token of its claim.

## Main definitions

* `Redis`, `Redis.save`, `Redis.casKeepTtl`, `Redis.casResetTtl` — the keys and the scripts.
* `submissionState`, `finalizeState` — what a claim and a finalization answer without writing.
* `Redis.get`, `Redis.listByOrg` — what is read at a moment.
* `sessionMachine` — the calls of the service, one store command at a time.
-/

namespace Marty.Verification

open Lib VerificationSession

inductive SubmissionOutcome
  | claimed | committed | duplicate | busy | conflict | expired | missing
  deriving DecidableEq, Repr

structure SubmissionTransition where
  outcome : SubmissionOutcome
  session : Option VerificationSession
  token : Option String
  deriving DecidableEq

def SubmissionTransition.new (outcome : SubmissionOutcome) : SubmissionTransition :=
  ⟨outcome, none, none⟩

/-! ## Keys and scripts -/

/-- The keys of the sessions and of the organizations, and the clock of the server. -/
structure Redis where
  clock : Utc
  sessions : Keyspace String VerificationSession
  organizations : Keyspace String (List String)

namespace Redis

/-- The moment by which keys expire. -/
def millis (r : Redis) : Int := Utc.timestampMillis r.clock

/-- `TIME`: seconds and microseconds. -/
def serverTime (r : Redis) : Utc := r.clock / 1000 * 1000

/-- The deadline of a key that is written with the full time to live. -/
def fullTtl (r : Redis) : Option Int := some (r.millis + 1000 * sessionTtlSeconds)

/-- `SMEMBERS`. -/
def members (r : Redis) (organizationId : String) : List String :=
  (r.organizations.get r.millis organizationId).getD []

/-- `SAVE` -/
def save (r : Redis) (session : VerificationSession) : Redis :=
  { r with
    sessions := r.sessions.set session.sessionId session r.fullTtl
    organizations := r.organizations.set session.organizationId
      (if session.sessionId ∈ r.members session.organizationId then
        r.members session.organizationId
      else session.sessionId :: r.members session.organizationId) r.fullTtl }

/-- `CAS_KEEP_TTL`; a `SET` with no time left is refused. -/
def casKeepTtl (r : Redis) (id : String) (expected replacement : VerificationSession) :
    Option (Redis × Bool) :=
  match r.sessions.entry r.millis id with
  | none => some (r, false)
  | some entry =>
      if entry.value ≠ expected then some (r, false)
      else
        let ttl := Keyspace.pttl entry r.millis
        if 0 ≤ ttl then
          if ttl = 0 then none
          else some ({ r with sessions := r.sessions.set id replacement (some (r.millis + ttl)) }, true)
        else some ({ r with sessions := r.sessions.set id replacement r.fullTtl }, true)

/-- `CAS_RESET_TTL` -/
def casResetTtl (r : Redis) (id : String) (expected replacement : VerificationSession) :
    Redis × Bool :=
  match r.sessions.entry r.millis id with
  | none => (r, false)
  | some entry =>
      if entry.value ≠ expected then (r, false)
      else ({ r with sessions := r.sessions.set id replacement r.fullTtl }, true)

/-- `GET`: the record as it is stored. -/
def raw (r : Redis) (id : String) : Option VerificationSession := r.sessions.get r.millis id

end Redis

/-! ## Records -/

/-- What a record leaves in its text: all but the presentation. -/
def encode (session : VerificationSession) : VerificationSession := { session with vpToken := none }

def decode (P : Platform) (raw : VerificationSession) : VerificationSession :=
  minimizeTerminal P { raw with callbackUrl := none }

def expireSession (P : Platform) (session : VerificationSession) (now : Utc) : VerificationSession :=
  minimizeTerminal P
    { session with
      status := .expired
      error := some "Session expired before presentation was submitted"
      updatedAt := now }

def projectExpiry (P : Platform) (session : VerificationSession) (now : Utc) : VerificationSession :=
  if session.status = .pending ∧ session.vpTokenSha256 = none ∧ session.isExpiredAt now then
    expireSession P session now
  else session

/-- Why a submission of this digest may not claim the session. -/
def submissionState (session : VerificationSession) (digest : String) (now : Utc) :
    Option SubmissionOutcome :=
  if session.status = .expired then some .expired
  else if session.status ≠ .pending then
    some (if session.vpTokenSha256 = some digest then .duplicate else .conflict)
  else if session.vpTokenSha256.any (· ≠ digest) then some .conflict
  else if session.processingToken.isSome ∧ session.processingExpiresAt.any (· > now) then some .busy
  else if session.vpTokenSha256 = some digest then none
  else if session.isExpiredAt now then some .expired
  else none

/-- The record under a new claim. -/
def claimRecord (session : VerificationSession) (digest token : String) (now : Utc) :
    VerificationSession :=
  { session with
    vpTokenSha256 := some digest
    processingToken := some token
    processingExpiresAt := some (now + utcSeconds submissionLeaseSeconds)
    updatedAt := now }

/-- Why the holder of this token may not finalize the session. -/
def finalizeState (current : VerificationSession) (digest token : String) :
    Option SubmissionOutcome :=
  if current.status ≠ .pending then
    some (if current.vpTokenSha256 = some digest then .duplicate else .conflict)
  else if current.vpTokenSha256 ≠ some digest then some .conflict
  else if current.processingToken ≠ some token then some .busy
  else none

inductive StoreError
  | unavailable | invalidRecord | immutableState | invalidTerminalState
  deriving DecidableEq, Repr

def validateTerminalCandidate (current candidate : VerificationSession) : Except StoreError Unit :=
  if ¬ (current.sessionId = candidate.sessionId ∧ current.flowId = candidate.flowId ∧
      current.flowInstanceId = candidate.flowInstanceId ∧
      current.organizationId = candidate.organizationId ∧
      current.evaluationPrincipalId = candidate.evaluationPrincipalId ∧
      current.presentationPolicyId = candidate.presentationPolicyId ∧
      current.responseType = candidate.responseType ∧ current.nonce = candidate.nonce ∧
      current.createdAt = candidate.createdAt ∧ current.expiresAt = candidate.expiresAt) then
    .error .immutableState
  else if candidate.status = .pending ∨ candidate.completedAt = none then
    .error .invalidTerminalState
  else .ok ()

/-- The record that a finalization stores. -/
def terminalRecord (P : Platform) (candidate : VerificationSession) (digest : String) :
    VerificationSession :=
  minimizeTerminal P
    { candidate with
      vpTokenSha256 := some digest
      processingToken := none
      processingExpiresAt := none }

/-! ## Reads -/

namespace Redis

/-- `get`, with all its commands at one moment. -/
def get (P : Platform) (r : Redis) (id : String) : Option VerificationSession :=
  (r.raw id).map fun raw => projectExpiry P (decode P raw) r.serverTime

/-- `list_by_org` without a filter, with all its commands at one moment. -/
def listByOrg (P : Platform) (r : Redis) (organizationId : String) : List VerificationSession :=
  (r.members organizationId).filterMap (r.get P)

end Redis

/-! ## The service -/

structure ManagementPrincipal where
  userId : String
  organizationId : String

def validateStart (body : StartVerificationRequest) : Bool :=
  body.organizationId.utf8ByteSize ≤ 255 &&
    body.presentationPolicyId.all (·.utf8ByteSize ≤ 255) &&
    body.responseType.utf8ByteSize ≤ 50 &&
    body.trustProfileId.all (·.utf8ByteSize ≤ 255) &&
    body.deploymentProfileId.all (·.utf8ByteSize ≤ 255) &&
    body.externalReference.all (·.utf8ByteSize ≤ 500) &&
    body.callbackUrl.all (·.utf8ByteSize ≤ 2048) &&
    body.purpose.utf8ByteSize ≤ 1000

/-- The checks of `start_session`.  What the other services answer is `authorized` and
`resolved`; they are asked only where the management of sessions is authorized. -/
def checkStart (managementAuthorization : Bool) (body : StartVerificationRequest)
    (principal : ManagementPrincipal) (authorized resolved : Except VerificationError Unit) :
    Except VerificationError Unit :=
  if validateStart body = false then .error (.badRequest "Request validation failed")
  else if body.responseType = "vp_token" ∧ Text.trim principal.userId = "" then
    .error (.unauthorized "Authenticated initiating principal is required")
  else if Text.trim principal.organizationId ≠ "" ∧ Text.trim body.organizationId ≠ "" ∧
      principal.organizationId ≠ body.organizationId then
    .error (.forbidden "Organization mismatch")
  else if body.responseType = "vp_token" ∧ body.presentationPolicyId = none then
    .error (.badRequest "presentation_policy_id is required for vp_token response_type")
  else if body.callbackUrl.isSome then
    .error (.badRequest "Standalone Verification callbacks are not supported; use the Flow service transactional callback outbox")
  else if managementAuthorization ∧ (body.trustProfileId.isSome ∨ body.deploymentProfileId.isSome) then
    .error (.badRequest "Standalone trust/deployment profile overrides are not supported; use the Flow verification endpoint")
  else if managementAuthorization then
    match authorized with
    | .error e => .error e
    | .ok _ => if body.presentationPolicyId.isSome then resolved else .ok ()
  else .ok ()

/-- The record that `start_session` saves. -/
def startSession (managementAuthorization : Bool) (body : StartVerificationRequest)
    (principal : ManagementPrincipal) (authorized resolved : Except VerificationError Unit)
    (sessionId flowId nonce : String) (now : Utc) : Except VerificationError VerificationSession :=
  match checkStart managementAuthorization body principal authorized resolved with
  | .error e => .error e
  | .ok _ =>
      (VerificationSession.new body sessionId flowId nonce now).map fun session =>
        { session with evaluationPrincipalId := principal.userId }

/-- A presentation that is submitted to a session. -/
structure Submission where
  sessionId : String
  vpToken : String

def Submission.digest (P : Platform) (sub : Submission) : String := P.sha256Text sub.vpToken

/-! ## The calls -/

/-- A claim of a session: by whom, of which digest, under which token and when, and the end of
the session that it is a claim of. -/
structure Claim (ι : Type*) where
  caller : ι
  digest : String
  token : String
  now : Utc
  expiresAt : Utc
  deriving DecidableEq

/-- A finalization that was committed: by whom and under which token, what was evaluated, and
the record that was stored and answered. -/
structure Decision (ι : Type*) where
  caller : ι
  digest : String
  token : String
  candidate : VerificationSession
  terminal : VerificationSession
  deriving DecidableEq

/-- What the calls have done. -/
inductive Act (ι : Type*)
  | opened (id : String)
  | saved (session : VerificationSession) (clock : Utc)
  | claimed (id : String) (claim : Claim ι)
  | evaluated (caller : ι) (sub : Submission) (token : String) (session candidate : VerificationSession)
  | decided (id : String) (decision : Decision ι) (clock : Utc)
  /-- Any other answer to a submission, with the record that it was given from. -/
  | answered (caller : ι) (id digest : String) (found : Option VerificationSession)
      (reply : SubmissionTransition)

/-- The store, with what the calls have done. -/
structure Store (ι : Type*) where
  redis : Redis
  acts : List (Act ι)

/-- Where a call stands: before which of its commands. -/
inductive Call
  | idle
  | saving (session : VerificationSession)
  | reading (id : String) (submission : Option Submission)
  | rewriting (id : String) (raw canonical : VerificationSession) (submission : Option Submission)
  | projecting (session : VerificationSession) (submission : Option Submission)
  | resolving (sub : Submission) (session : VerificationSession)
  | claiming (sub : Submission) (tries : Nat)
  | claimTiming (sub : Submission) (tries : Nat) (raw : VerificationSession)
  | claimSwapping (sub : Submission) (tries : Nat) (raw replacement : VerificationSession)
      (reply : SubmissionTransition)
  | evaluating (sub : Submission) (token : String) (session : VerificationSession)
  | finalizing (sub : Submission) (token : String) (candidate : VerificationSession) (tries : Nat)
  | finalizeSwapping (sub : Submission) (token : String) (candidate : VerificationSession)
      (tries : Nat) (raw terminal : VerificationSession)
  | ended

inductive Event
  /-- A request to open a session, with what the other services and the generators give. -/
  | start (body : StartVerificationRequest) (principal : ManagementPrincipal)
      (authorized resolved : Except VerificationError Unit) (sessionId flowId nonce : String)
  | read (id : String)
  | submit (sub : Submission) (validateReferences : Bool)
  /-- The next command to the store. -/
  | command
  /-- `TIME` for a claim, with the random token that the claim would use. -/
  | time (token : String)
  | resolve (answer : Except VerificationError Unit)
  | evaluate (evaluation : Option EvaluationResult) (inspection : Option String)
  /-- A failure of the store or of the process. -/
  | fail
  | tick (clock : Utc)

section Steps

variable {ι : Type*} (P : Platform) (managementAuthorization : Bool)

def Store.record (s : Store ι) (redis : Redis) (new : List (Act ι)) : Store ι :=
  ⟨redis, s.acts ++ new⟩

/-- After `get`: a read ends, and a submission goes on to resolve the policy of the session. -/
def afterGet (session : VerificationSession) : Option Submission → Call
  | none => .ended
  | some sub => if session.presentationPolicyId = none then .ended else .resolving sub session

/-- The part of `get` after the text has been read and perhaps rewritten. -/
def getDecoded (session : VerificationSession) (submission : Option Submission) : Call :=
  if session.status = .pending ∧ session.vpTokenSha256 = none then .projecting session submission
  else afterGet session submission

/-- `claim_submission` once the record and the time have been read. -/
def claimTimed (i : ι) (s : Store ι) (sub : Submission) (tries : Nat) (raw : VerificationSession)
    (token : String) : Store ι × Call :=
  let session := decode P raw
  let now := s.redis.serverTime
  match submissionState session (sub.digest P) now with
  | some outcome =>
      if outcome = .expired then
        let expired := expireSession P session now
        (s, .claimSwapping sub tries raw (encode expired) ⟨outcome, some expired, none⟩)
      else
        (s.record s.redis
          [.answered i sub.sessionId (sub.digest P) (some raw) ⟨outcome, some session, none⟩], .ended)
  | none =>
      let claimed := claimRecord session (sub.digest P) token now
      (s, .claimSwapping sub tries raw (encode claimed) ⟨.claimed, some claimed, some token⟩)

/-- What a claim has done when its swap has succeeded. -/
def claimActs (i : ι) (sub : Submission) (raw : VerificationSession) (reply : SubmissionTransition) :
    List (Act ι) :=
  (match reply.session, reply.token with
    | some session, some token =>
        [.claimed sub.sessionId ⟨i, sub.digest P, token, session.updatedAt, session.expiresAt⟩]
    | _, _ => []) ++ [.answered i sub.sessionId (sub.digest P) (some raw) reply]

/-- After a claim: the one that claimed goes on to evaluate. -/
def afterClaim (sub : Submission) (reply : SubmissionTransition) : Call :=
  match reply.session, reply.token with
  | some session, some token => .evaluating sub token session
  | _, _ => .ended

/-- `finalize_submission` once the record has been read. -/
def finalizeRead (i : ι) (s : Store ι) (sub : Submission) (token : String)
    (candidate : VerificationSession) (tries : Nat) (raw : VerificationSession) : Store ι × Call :=
  let current := decode P raw
  match finalizeState current (sub.digest P) token with
  | some outcome =>
      (s.record s.redis
        [.answered i sub.sessionId (sub.digest P) (some raw) ⟨outcome, some current, none⟩], .ended)
  | none =>
      match validateTerminalCandidate current candidate with
      | .error _ => (s, .ended)
      | .ok _ =>
          (s, .finalizeSwapping sub token candidate tries raw
            (terminalRecord P candidate (sub.digest P)))

/-- One step of a call. -/
def step (i : ι) (e : Event) (s : Store ι) (l : Call) : Option (Store ι × Call) :=
  match e with
  | .tick clock =>
      if s.redis.clock ≤ clock then some (⟨{ s.redis with clock := clock }, s.acts⟩, l) else none
  | .fail => some (s, .ended)
  | .start body principal authorized resolved sessionId flowId nonce =>
      match l with
      | .idle =>
          -- the identifiers of sessions are random and do not repeat
          if s.acts.any (fun act => match act with
              | .opened id => id = sessionId
              | _ => false) then none
          else
            match startSession managementAuthorization body principal authorized resolved sessionId
                flowId nonce s.redis.clock with
            | .error _ => some (s, .ended)
            | .ok session => some (s.record s.redis [.opened sessionId], .saving session)
      | _ => none
  | .read id =>
      match l with
      | .idle => some (s, .reading id none)
      | _ => none
  | .submit sub validateReferences =>
      match l with
      | .idle =>
          if sub.vpToken.utf8ByteSize > 1000000 then some (s, .ended)
          else if validateReferences then some (s, .reading sub.sessionId (some sub))
          else some (s, .claiming sub submissionCasRetries)
      | _ => none
  | .time token =>
      match l with
      | .claimTiming sub tries raw => some (claimTimed P i s sub tries raw token)
      | _ => none
  | .resolve answer =>
      match l with
      | .resolving sub _ =>
          match answer with
          | .error _ => some (s, .ended)
          | .ok _ => some (s, .claiming sub submissionCasRetries)
      | _ => none
  | .evaluate evaluation inspection =>
      match l with
      | .evaluating sub token session =>
          let candidate := conclude session evaluation inspection s.redis.clock
          some (s.record s.redis [.evaluated i sub token session candidate],
            .finalizing sub token candidate submissionCasRetries)
      | _ => none
  | .command =>
      match l with
      | .saving session =>
          let saved := minimizeTerminal P session
          some (s.record (s.redis.save (encode saved)) [.saved (encode saved) s.redis.clock], .ended)
      | .reading id submission =>
          match s.redis.raw id with
          | none => some (s, .ended)
          | some raw =>
              let session := decode P raw
              if encode session ≠ raw then some (s, .rewriting id raw (encode session) submission)
              else some (s, getDecoded session submission)
      | .rewriting id raw canonical submission =>
          match s.redis.casKeepTtl id raw canonical with
          | none => some (s, .ended)
          | some (redis, true) => some (s.record redis [], getDecoded (decode P canonical) submission)
          | some (redis, false) => some (s.record redis [], getDecoded (decode P raw) submission)
      | .projecting session submission =>
          some (s, afterGet (projectExpiry P session s.redis.serverTime) submission)
      | .claiming _ 0 => some (s, .ended)
      | .claiming sub (tries + 1) =>
          match s.redis.raw sub.sessionId with
          | none =>
              some (s.record s.redis
                [.answered i sub.sessionId (sub.digest P) none (SubmissionTransition.new .missing)],
                .ended)
          | some raw => some (s, .claimTiming sub tries raw)
      | .claimSwapping sub tries raw replacement reply =>
          match s.redis.casKeepTtl sub.sessionId raw replacement with
          | none => some (s, .ended)
          | some (redis, true) => some (s.record redis (claimActs P i sub raw reply), afterClaim sub reply)
          | some (redis, false) => some (s.record redis [], .claiming sub tries)
      | .finalizing _ _ _ 0 => some (s, .ended)
      | .finalizing sub token candidate (tries + 1) =>
          match s.redis.raw sub.sessionId with
          | none =>
              some (s.record s.redis
                [.answered i sub.sessionId (sub.digest P) none (SubmissionTransition.new .missing)],
                .ended)
          | some raw => some (finalizeRead P i s sub token candidate tries raw)
      | .finalizeSwapping sub token candidate tries raw terminal =>
          match s.redis.casResetTtl sub.sessionId raw (encode terminal) with
          | (redis, true) =>
              some (s.record redis
                [.decided sub.sessionId ⟨i, sub.digest P, token, candidate, terminal⟩ s.redis.clock],
                .ended)
          | (redis, false) => some (s.record redis [], .finalizing sub token candidate tries)
      | _ => none

/-- The calls of the service over one store. -/
def sessionMachine (ι : Type*) : Machine (Store ι) ι Event Call where
  step := step P managementAuthorization

/-- No session has been opened, and no call has begun. -/
def noSessions (ι : Type*) (clock : Utc) : Config (Store ι) ι Call where
  store := ⟨⟨clock, fun _ => none, fun _ => none⟩, []⟩
  calls := fun _ => .idle

end Steps

end Marty.Verification
