import Marty.Lib.Interleaving
import Marty.Lib.Json
import Marty.Lib.Text
import Marty.Lib.Time

/-!
# Token exchange

An exchange reads the row of its code, checks that it has not expired and is still
pending, authenticates the client, generates a token, and claims the row by one
conditional `UPDATE`.  The steps of any number of exchanges interleave; the DPoP
verifier, the client authenticator and the token generator may answer anything, the
clock moves on, and the other statements of the service write the same rows.

Both claims check that the row is still pending.  The claim of an authorization
session also checks that it has not expired, and the claim of a transaction does not:
what it relies on is `ClaimInTime`.

## Main definitions

* `claimTransaction`, `claimAuthorization` — the two conditional updates.
* `exchangeMachine` — the steps of `exchange`.
* `ExchangedOnce` — one token for a code, bound to its row before it expired.
* `exchange_once` — it holds along every run whose claims are in time.
-/

namespace Marty.Issuance

open Marty.Lib

/-! ## Requests and errors -/

def preAuthorizedGrant : String := "urn:ietf:params:oauth:grant-type:pre-authorized_code"

def authorizationCodeGrant : String := "authorization_code"

structure TokenExchangeRequest where
  grantType : String
  preAuthorizedCode : Option String
  code : Option String
  redirectUri : Option String
  clientId : Option String
  codeVerifier : Option String
  clientAssertionType : Option String
  clientAssertion : Option String
  deriving DecidableEq, Repr

inductive TokenExchangeError
  | grantTypeRequired
  | invalidDpopProof
  | authorizationCodeRequired
  | invalidAuthorizationCode
  | authorizationCodeExpired
  | authorizationCodeUsed
  | preAuthorizedCodeRequired
  | unsupportedGrantType
  | invalidPreAuthorizedCode
  | transactionExpired
  | preAuthorizedCodeUsed
  | invalidTransactionState
  | invalidClient
  | protocol (message : String)
  | repositoryUnavailable
  deriving DecidableEq, Repr

inductive TokenTransactionStatus
  | pending
  | authorized
  | signing
  | issued
  | failed
  | expired
  | revoked
  deriving DecidableEq, Repr

def TokenTransactionStatus.tryFrom (value : String) :
    Except TokenExchangeError TokenTransactionStatus :=
  if value = "pending" then .ok .pending
  else if value = "authorized" then .ok .authorized
  else if value = "signing" then .ok .signing
  else if value = "issued" then .ok .issued
  else if value = "failed" then .ok .failed
  else if value = "expired" then .ok .expired
  else if value = "revoked" then .ok .revoked
  else .error .repositoryUnavailable

inductive CodeChallengeMethod
  | s256
  | plain
  deriving DecidableEq, Repr

structure TokenTransaction where
  id : String
  organizationId : String
  preAuthorizedCode : String
  status : TokenTransactionStatus
  expiresAt : DateTime
  oid4vciClientId : Option String
  claims : Json.Value
  deriving Repr

structure TokenAuthorizationSession where
  id : String
  code : String
  clientId : String
  organizationId : Option String
  redirectUri : Option String
  issuerState : Option String
  credentialConfigurationIds : List String
  codeChallenge : Option String
  codeChallengeMethod : Option CodeChallengeMethod
  status : String
  createdAt : DateTime
  expiresAt : DateTime
  deriving DecidableEq, Repr

structure ClientAuthenticationRequest where
  organizationId : Option String
  expectedClientId : Option String
  clientId : Option String
  clientAssertionType : Option String
  clientAssertion : Option String
  allowedAudiences : List String
  registrationRequired : Bool
  deriving DecidableEq, Repr

structure TokenResponse where
  accessToken : String
  deriving DecidableEq, Repr

/-! ## The rows -/

/-- A row of `issuance_transactions`, under its unique `pre_auth_code`. -/
structure TransactionRow where
  id : String
  organizationId : String
  status : String
  expiresAt : DateTime
  oid4vciClientId : Option String
  claims : Json.Value
  accessToken : Option String
  accessTokenExpiresAt : Option DateTime
  cNonce : Option String
  deriving Repr

/-- A row of `authorization_sessions`, under its unique `code`. -/
structure SessionRow where
  id : String
  clientId : String
  organizationId : Option String
  redirectUri : Option String
  issuerState : Option String
  credentialConfigurationIds : Json.Value
  codeChallenge : Option String
  codeChallengeMethod : Option String
  status : String
  createdAt : DateTime
  expiresAt : DateTime
  accessToken : Option String
  accessTokenExpiresAt : Option DateTime
  cNonce : Option String
  dpopJkt : Option String
  deriving Repr

/-- The thumbprint that a transaction is bound to. -/
def TransactionRow.dpopJkt (row : TransactionRow) : Option String :=
  (row.claims.asObject.bind fun claims => claims.get "_dpop_jkt").bind Json.Value.asStr

structure TokenStore where
  transactions : String → Option TransactionRow
  sessions : String → Option SessionRow
  clock : DateTime

def transactionRow (code : String) (row : TransactionRow) :
    Except TokenExchangeError TokenTransaction := do
  let status ← TokenTransactionStatus.tryFrom row.status
  pure ⟨row.id, row.organizationId, code, status, row.expiresAt, row.oid4vciClientId, row.claims⟩

/-- `serde_json::from_value::<Vec<String>>`. -/
def stringArray : Json.Value → Option (List String)
  | .array items => items.mapM Json.Value.asStr
  | _ => none

def challengeMethod (value : Option String) :
    Except TokenExchangeError (Option CodeChallengeMethod) :=
  match value with
  | none => .ok none
  | some value =>
      if value = "S256" then .ok (some .s256)
      else if value = "plain" then .ok (some .plain)
      else .error .repositoryUnavailable

def authorizationRow (code : String) (row : SessionRow) :
    Except TokenExchangeError TokenAuthorizationSession := do
  let method ← challengeMethod row.codeChallengeMethod
  match stringArray row.credentialConfigurationIds with
  | none => .error .repositoryUnavailable
  | some ids => pure ⟨row.id, code, row.clientId, row.organizationId, row.redirectUri,
      row.issuerState, ids, row.codeChallenge, method, row.status, row.createdAt, row.expiresAt⟩

/-! ## The two claims -/

/-- `jsonb_set(claims, '{_dpop_jkt}', to_jsonb(jkt), true)`, which fails on anything
but an object. -/
def setDpopJkt (claims : Json.Value) (jkt : String) : Option Json.Value :=
  match claims with
  | .object entries => some (.object (Json.Map.insert entries "_dpop_jkt" (.string jkt)))
  | _ => none

/-- The claims that `CLAIM_TRANSACTION` leaves in the row. -/
def boundClaims (claims : Json.Value) (jkt : Option String) : Option Json.Value :=
  match jkt with
  | none => some claims
  | some jkt => setDpopJkt claims jkt

/-- `CLAIM_TRANSACTION`: whether a row was claimed, and the table after it. -/
def claimTransaction (s : TokenStore) (t : TokenTransaction) (tokenHash : String)
    (jkt : Option String) : Except TokenExchangeError Bool × TokenStore :=
  match s.transactions t.preAuthorizedCode with
  | none => (.ok false, s)
  | some row =>
      if row.id = t.id ∧ row.status = "pending" then
        match boundClaims row.claims jkt with
        | none => (.error .repositoryUnavailable, s)
        | some claims =>
            let claimed : TransactionRow :=
              { row with
                accessToken := some tokenHash
                accessTokenExpiresAt := some (s.clock + seconds 1800)
                cNonce := none
                claims := claims
                status := "authorized" }
            (.ok true,
              { s with transactions :=
                  Function.update s.transactions t.preAuthorizedCode (some claimed) })
      else (.ok false, s)

/-- `CLAIM_AUTHORIZATION`. -/
def claimAuthorization (s : TokenStore) (a : TokenAuthorizationSession) (tokenHash : String)
    (jkt : Option String) : Bool × TokenStore :=
  match s.sessions a.code with
  | none => (false, s)
  | some row =>
      if row.id = a.id ∧ row.status = "pending" ∧ s.clock < row.expiresAt then
        let claimed : SessionRow :=
          { row with
            accessToken := some tokenHash
            accessTokenExpiresAt := some (s.clock + seconds 1800)
            cNonce := none
            dpopJkt := jkt
            status := "exchanged" }
        (true, { s with sessions := Function.update s.sessions a.code (some claimed) })
      else (false, s)

/-! ## The steps of an exchange -/

/-- The row that a request names. -/
inductive ExchangeKey
  | transaction (preAuthorizedCode : String)
  | session (code : String)
  deriving DecidableEq, Repr

inductive Grant
  | transaction (t : TokenTransaction)
  | session (a : TokenAuthorizationSession)
  deriving Repr

def Grant.key : Grant → ExchangeKey
  | .transaction t => .transaction t.preAuthorizedCode
  | .session a => .session a.code

def Grant.transaction? : Grant → Option TokenTransaction
  | .transaction t => some t
  | .session _ => none

/-- Where an exchange stands: what it will do next, or its outcome. -/
inductive ExchangeCall
  | start
  | fetching (jkt : Option String) (key : ExchangeKey)
  | checking (jkt : Option String) (grant : Grant)
  | authenticating (jkt : Option String) (grant : Grant) (request : ClientAuthenticationRequest)
  | generating (jkt : Option String) (grant : Grant)
  | claiming (jkt : Option String) (grant : Grant) (response : TokenResponse)
  | done (jkt : Option String) (key : ExchangeKey) (response : TokenResponse)
  | failed (error : TokenExchangeError)
  deriving Repr

inductive ExchangeEvent
  /-- The DPoP verifier answers, or is not asked when there is no proof. -/
  | verify (answer : Except TokenExchangeError String)
  | authenticate (answer : Except TokenExchangeError Unit)
  | generate (answer : Except TokenExchangeError TokenResponse)
  /-- The next query or check of the call. -/
  | exec
  /-- The claim takes effect, but the call does not learn it. -/
  | lose
  /-- The next query fails. -/
  | fail
  | advance (span : Nat)
  /-- Another statement of the service moves a row out of `pending`, or on from there. -/
  | setTransactionStatus (code status : String)
  | setSessionStatus (code status : String)
  /-- Another statement of the service revises the claims of a pending transaction. -/
  | reviseClaims (code : String) (claims : Json.Value)
  | insertTransaction (code : String) (row : TransactionRow)
  | insertSession (code : String) (row : SessionRow)
  deriving Repr

section Exchange

variable {ι : Type} (tokenHash : String → String) (issuerBaseUrl : String)
  (request : ι → TokenExchangeRequest) (dpopProof : ι → Option String) (endpointUrl : ι → String)

/-- The row that a request asks for, or why it asks for none. -/
def TokenExchangeRequest.lookup (r : TokenExchangeRequest) :
    Except TokenExchangeError ExchangeKey :=
  if r.grantType = authorizationCodeGrant then
    match r.code.filter (fun value => value ≠ "") with
    | none => .error .authorizationCodeRequired
    | some code => .ok (.session code)
  else
    match r.preAuthorizedCode.filter (fun value => value ≠ "") with
    | none => .error .preAuthorizedCodeRequired
    | some code =>
        if r.grantType ≠ preAuthorizedGrant then .error .unsupportedGrantType
        else .ok (.transaction code)

def fetch (s : TokenStore) : ExchangeKey → Except TokenExchangeError Grant
  | .session code =>
      match s.sessions code with
      | none => .error .invalidAuthorizationCode
      | some row => (authorizationRow code row).map .session
  | .transaction code =>
      match s.transactions code with
      | none => .error .invalidPreAuthorizedCode
      | some row => (transactionRow code row).map .transaction

/-- The checks on the fetched copy. -/
def check (now : DateTime) : Grant → Except TokenExchangeError Unit
  | .session a =>
      if now > a.expiresAt then .error .authorizationCodeExpired
      else if a.status ≠ "pending" then .error .authorizationCodeUsed
      else .ok ()
  | .transaction t =>
      if now > t.expiresAt then .error .transactionExpired
      else if t.status = .authorized ∨ t.status = .issued then .error .preAuthorizedCodeUsed
      else if t.status ≠ .pending then .error .invalidTransactionState
      else .ok ()

def allowedAudiences (organizationId : Option String) (endpoint : String) : List String :=
  (organizationId.map fun id =>
    Text.trimEndMatches issuerBaseUrl '/' ++ "/org/" ++ id).toList ++ [endpoint]

def authenticationRequest (r : TokenExchangeRequest) (endpoint : String) :
    Grant → ClientAuthenticationRequest
  | .session a => ⟨a.organizationId, some a.clientId, r.clientId, r.clientAssertionType,
      r.clientAssertion, allowedAudiences issuerBaseUrl a.organizationId endpoint, false⟩
  | .transaction t => ⟨some t.organizationId, t.oid4vciClientId, r.clientId,
      r.clientAssertionType, r.clientAssertion,
      allowedAudiences issuerBaseUrl (some t.organizationId) endpoint, t.oid4vciClientId.isSome⟩

/-- The thumbprint of the call's DPoP proof, if it sent one. -/
def verifyDpop (proof : Option String) (answer : Except TokenExchangeError String) :
    Except TokenExchangeError (Option String) :=
  match proof with
  | none => .ok none
  | some _ => answer.map some

/-- The claim of a grant, and what the call reports of it. -/
def claim (s : TokenStore) (jkt : Option String) (grant : Grant) (response : TokenResponse) :
    TokenStore × ExchangeCall :=
  match grant with
  | .session a =>
      match claimAuthorization s a (tokenHash response.accessToken) jkt with
      | (true, s) => (s, .done jkt grant.key response)
      | (false, s) => (s, .failed .authorizationCodeUsed)
  | .transaction t =>
      match claimTransaction s t (tokenHash response.accessToken) jkt with
      | (.ok true, s) => (s, .done jkt grant.key response)
      | (.ok false, s) => (s, .failed .preAuthorizedCodeUsed)
      | (.error error, s) => (s, .failed error)

def exchangeExec (i : ι) (s : TokenStore) : ExchangeCall → Option (TokenStore × ExchangeCall)
  | .fetching jkt key =>
      match fetch s key with
      | .ok grant => some (s, .checking jkt grant)
      | .error error => some (s, .failed error)
  | .checking jkt grant =>
      match check s.clock grant with
      | .ok () => some (s, .authenticating jkt grant
          (authenticationRequest issuerBaseUrl (request i) (endpointUrl i) grant))
      | .error error => some (s, .failed error)
  | .claiming jkt grant response => some (claim tokenHash s jkt grant response)
  | _ => none

/-- Another statement of the service writes the rows. -/
def otherWrite (s : TokenStore) : ExchangeEvent → Option TokenStore
  | .advance span => some { s with clock := s.clock + span }
  | .setTransactionStatus code status =>
      match s.transactions code with
      | some row => if status = "pending" then none else
          some { s with transactions :=
            Function.update s.transactions code (some { row with status := status }) }
      | none => none
  | .setSessionStatus code status =>
      match s.sessions code with
      | some row => if status = "pending" then none else
          some { s with sessions :=
            Function.update s.sessions code (some { row with status := status }) }
      | none => none
  | .reviseClaims code claims =>
      match s.transactions code with
      | some row => if row.status = "pending" then
          some { s with transactions :=
            Function.update s.transactions code (some { row with claims := claims }) }
          else none
      | none => none
  | .insertTransaction code row =>
      if (s.transactions code).isNone then
        some { s with transactions := Function.update s.transactions code (some row) }
      else none
  | .insertSession code row =>
      if (s.sessions code).isNone then
        some { s with sessions := Function.update s.sessions code (some row) }
      else none
  | _ => none

def exchangeStep (i : ι) (e : ExchangeEvent) (s : TokenStore) (call : ExchangeCall) :
    Option (TokenStore × ExchangeCall) :=
  match e, call with
  | .verify answer, .start =>
      match verifyDpop (dpopProof i) answer with
      | .error error => some (s, .failed error)
      | .ok jkt =>
          match (request i).lookup with
          | .ok key => some (s, .fetching jkt key)
          | .error error => some (s, .failed error)
  | .authenticate answer, .authenticating jkt grant _ =>
      match answer with
      | .ok () => some (s, .generating jkt grant)
      | .error error => some (s, .failed error)
  | .generate answer, .generating jkt grant =>
      match answer with
      | .ok response => some (s, .claiming jkt grant response)
      | .error error => some (s, .failed error)
  | .exec, call => exchangeExec tokenHash issuerBaseUrl request endpointUrl i s call
  | .lose, .claiming jkt grant response =>
      some ((claim tokenHash s jkt grant response).1, .failed .repositoryUnavailable)
  | .fail, .fetching .. | .fail, .claiming .. => some (s, .failed .repositoryUnavailable)
  | e, call => (otherWrite s e).map fun s => (s, call)

def exchangeMachine : Machine TokenStore ι ExchangeEvent ExchangeCall :=
  ⟨exchangeStep tokenHash issuerBaseUrl request dpopProof endpointUrl⟩

/-- No exchange has begun, whatever the tables hold. -/
def exchangeInit (s : TokenStore) : Config TokenStore ι ExchangeCall := ⟨s, fun _ => .start⟩

end Exchange

/-! ## What a claim and the other writers do -/

section Writers

variable {tokenHash : String → String}

/-- Rows that are no longer pending keep all but their status, and stay that way. -/
structure RowsKept (s s' : TokenStore) : Prop where
  transactions : ∀ {code row}, s.transactions code = some row → row.status ≠ "pending" →
    ∃ status, status ≠ "pending" ∧ s'.transactions code = some { row with status := status }
  sessions : ∀ {code row}, s.sessions code = some row → row.status ≠ "pending" →
    ∃ status, status ≠ "pending" ∧ s'.sessions code = some { row with status := status }

theorem RowsKept.refl (s : TokenStore) : RowsKept s s :=
  ⟨fun h hs => ⟨_, hs, h⟩, fun h hs => ⟨_, hs, h⟩⟩

/-- Writing one transaction keeps the rows if it only moves a claimed one on. -/
private theorem rowsKept_transaction {s : TokenStore} {code : String} {new : TransactionRow}
    (h : ∀ row, s.transactions code = some row → row.status ≠ "pending" →
      ∃ status, status ≠ "pending" ∧ new = { row with status := status }) :
    RowsKept s { s with transactions := Function.update s.transactions code (some new) } := by
  constructor
  · intro k row hrow hs
    by_cases hk : k = code
    · subst hk
      obtain ⟨status, hne, rfl⟩ := h row hrow hs
      exact ⟨status, hne, Function.update_self ..⟩
    · exact ⟨row.status, hs, by simpa [hk] using hrow⟩
  · intro k row hrow hs
    exact ⟨row.status, hs, hrow⟩

private theorem rowsKept_session {s : TokenStore} {code : String} {new : SessionRow}
    (h : ∀ row, s.sessions code = some row → row.status ≠ "pending" →
      ∃ status, status ≠ "pending" ∧ new = { row with status := status }) :
    RowsKept s { s with sessions := Function.update s.sessions code (some new) } := by
  constructor
  · intro k row hrow hs
    exact ⟨row.status, hs, hrow⟩
  · intro k row hrow hs
    by_cases hk : k = code
    · subst hk
      obtain ⟨status, hne, rfl⟩ := h row hrow hs
      exact ⟨status, hne, Function.update_self ..⟩
    · exact ⟨row.status, hs, by simpa [hk] using hrow⟩

/-- The other statements of the service leave claimed rows claimed. -/
theorem otherWrite_rowsKept {s s' : TokenStore} {e : ExchangeEvent}
    (h : otherWrite s e = some s') : RowsKept s s' := by
  cases e with
  | advance span =>
      cases h
      exact ⟨fun h hs => ⟨_, hs, h⟩, fun h hs => ⟨_, hs, h⟩⟩
  | setTransactionStatus code status =>
      simp only [otherWrite] at h
      split at h
      · rename_i row hrow
        split at h
        · cases h
        · rename_i hstatus
          cases h
          refine rowsKept_transaction fun r hr _ => ⟨status, hstatus, ?_⟩
          rw [Option.some.inj (hrow.symm.trans hr)]
      · cases h
  | setSessionStatus code status =>
      simp only [otherWrite] at h
      split at h
      · rename_i row hrow
        split at h
        · cases h
        · rename_i hstatus
          cases h
          refine rowsKept_session fun r hr _ => ⟨status, hstatus, ?_⟩
          rw [Option.some.inj (hrow.symm.trans hr)]
      · cases h
  | reviseClaims code claims =>
      simp only [otherWrite] at h
      split at h
      · rename_i row hrow
        split at h
        · rename_i hpending
          cases h
          refine rowsKept_transaction fun r hr hne => absurd ?_ hne
          rw [Option.some.inj (hr.symm.trans hrow), hpending]
        · cases h
      · cases h
  | insertTransaction code row =>
      simp only [otherWrite] at h
      split at h
      · rename_i hnone
        cases h
        exact rowsKept_transaction fun r hr _ => by simp [hr] at hnone
      · cases h
  | insertSession code row =>
      simp only [otherWrite] at h
      split at h
      · rename_i hnone
        cases h
        exact rowsKept_session fun r hr _ => by simp [hr] at hnone
      · cases h
  | verify | authenticate | generate | exec | lose | fail => cases h

variable (tokenHash) in
/-- The row of `key` was claimed for this token and thumbprint, before it expired. -/
def Claimed (s : TokenStore) (key : ExchangeKey) (jkt : Option String) (response : TokenResponse) :
    Prop :=
  match key with
  | .transaction code => ∃ row at_, s.transactions code = some row ∧ row.status ≠ "pending" ∧
      row.accessToken = some (tokenHash response.accessToken) ∧ row.dpopJkt = jkt ∧
      row.accessTokenExpiresAt = some (at_ + seconds 1800) ∧ at_ ≤ row.expiresAt
  | .session code => ∃ row at_, s.sessions code = some row ∧ row.status ≠ "pending" ∧
      row.accessToken = some (tokenHash response.accessToken) ∧ row.dpopJkt = jkt ∧
      row.accessTokenExpiresAt = some (at_ + seconds 1800) ∧ at_ ≤ row.expiresAt

theorem Claimed.kept {s s' : TokenStore} {key : ExchangeKey} {jkt : Option String}
    {response : TokenResponse} (h : Claimed tokenHash s key jkt response) (hs : RowsKept s s') :
    Claimed tokenHash s' key jkt response := by
  cases key with
  | transaction code =>
      obtain ⟨row, at_, hrow, hne, h1, h2, h3, h4⟩ := h
      obtain ⟨status, hstatus, hrow'⟩ := hs.transactions hrow hne
      exact ⟨_, at_, hrow', hstatus, h1, h2, h3, h4⟩
  | session code =>
      obtain ⟨row, at_, hrow, hne, h1, h2, h3, h4⟩ := h
      obtain ⟨status, hstatus, hrow'⟩ := hs.sessions hrow hne
      exact ⟨_, at_, hrow', hstatus, h1, h2, h3, h4⟩

/-- The row of `key` is pending. -/
def Pending (s : TokenStore) : ExchangeKey → Prop
  | .transaction code => ∃ row, s.transactions code = some row ∧ row.status = "pending"
  | .session code => ∃ row, s.sessions code = some row ∧ row.status = "pending"

theorem Claimed.not_pending {s : TokenStore} {key : ExchangeKey} {jkt : Option String}
    {response : TokenResponse} (h : Claimed tokenHash s key jkt response) : ¬ Pending s key := by
  cases key with
  | transaction code | session code =>
      rintro ⟨row, hrow, hp⟩
      obtain ⟨row', -, hrow', hne, -⟩ := h
      rw [Option.some.inj (hrow'.symm.trans hrow)] at hne
      exact hne hp

/-- What the claim of a transaction relies on: a row that is still pending has not
expired, and is bound to no thumbprint if the call has none. -/
def ClaimSafe (s : TokenStore) (jkt : Option String) (grant : Grant) : Prop :=
  ∀ t ∈ grant.transaction?, ∀ row ∈ s.transactions t.preAuthorizedCode,
    row.status = "pending" → s.clock ≤ row.expiresAt ∧ (jkt = none → row.dpopJkt = none)

instance decidableClaimSafe (s : TokenStore) (jkt : Option String) (grant : Grant) :
    Decidable (ClaimSafe s jkt grant) :=
  inferInstanceAs (Decidable (∀ t ∈ grant.transaction?, ∀ row ∈ s.transactions t.preAuthorizedCode,
    row.status = "pending" → s.clock ≤ row.expiresAt ∧ (jkt = none → row.dpopJkt = none)))

/-- A thumbprint that was set is the one that is read, and an absent one changes nothing. -/
private theorem dpopJkt_boundClaims {row : TransactionRow} {jkt : Option String}
    {claims : Json.Value} (h : boundClaims row.claims jkt = some claims)
    (hnone : jkt = none → row.dpopJkt = none) :
    (claims.asObject.bind fun claims => claims.get "_dpop_jkt").bind Json.Value.asStr = jkt := by
  cases jkt with
  | none =>
      cases h
      exact hnone rfl
  | some jkt =>
      simp only [boundClaims, setDpopJkt] at h
      split at h
      · cases h
        simp [Json.Value.asObject, Json.Map.get_insert, Json.Value.asStr]
      · cases h

/-- **A claim takes a pending row or leaves the tables alone.** -/
theorem claim_cases {s s' : TokenStore} {jkt : Option String} {grant : Grant}
    {response : TokenResponse} {call : ExchangeCall} (hsafe : ClaimSafe s jkt grant)
    (h : claim tokenHash s jkt grant response = (s', call)) :
    RowsKept s s' ∧ ((∃ error, call = .failed error) ∨
      (call = .done jkt grant.key response ∧ Pending s grant.key ∧
        Claimed tokenHash s' grant.key jkt response)) := by
  cases grant with
  | session a =>
      simp only [claim, claimAuthorization] at h
      cases hrow : s.sessions a.code with
      | none =>
          simp only [hrow, Prod.mk.injEq] at h
          obtain ⟨rfl, rfl⟩ := h
          exact ⟨.refl s, .inl ⟨_, rfl⟩⟩
      | some row =>
          by_cases hc : row.id = a.id ∧ row.status = "pending" ∧ s.clock < row.expiresAt
          · simp only [hrow, if_pos hc, Prod.mk.injEq] at h
            obtain ⟨rfl, rfl⟩ := h
            refine ⟨rowsKept_session fun r hr hne => absurd ?_ hne, .inr ⟨rfl, ⟨row, hrow, hc.2.1⟩,
              _, s.clock, Function.update_self .., by simp, rfl, rfl, rfl, Int.le_of_lt hc.2.2⟩⟩
            rw [Option.some.inj (hr.symm.trans hrow), hc.2.1]
          · simp only [hrow, if_neg hc, Prod.mk.injEq] at h
            obtain ⟨rfl, rfl⟩ := h
            exact ⟨.refl s, .inl ⟨_, rfl⟩⟩
  | transaction t =>
      simp only [claim, claimTransaction] at h
      cases hrow : s.transactions t.preAuthorizedCode with
      | none =>
          simp only [hrow, Prod.mk.injEq] at h
          obtain ⟨rfl, rfl⟩ := h
          exact ⟨.refl s, .inl ⟨_, rfl⟩⟩
      | some row =>
          by_cases hc : row.id = t.id ∧ row.status = "pending"
          · cases hb : boundClaims row.claims jkt with
            | none =>
                simp only [hrow, if_pos hc, hb, Prod.mk.injEq] at h
                obtain ⟨rfl, rfl⟩ := h
                exact ⟨.refl s, .inl ⟨_, rfl⟩⟩
            | some claims =>
                simp only [hrow, if_pos hc, hb, Prod.mk.injEq] at h
                obtain ⟨rfl, rfl⟩ := h
                obtain ⟨htime, hnone⟩ := hsafe t rfl row hrow hc.2
                refine ⟨rowsKept_transaction fun r hr hne => absurd ?_ hne, .inr ⟨rfl,
                  ⟨row, hrow, hc.2⟩, _, s.clock, Function.update_self .., by simp, rfl,
                  dpopJkt_boundClaims hb hnone, rfl, htime⟩⟩
                rw [Option.some.inj (hr.symm.trans hrow), hc.2]
          · simp only [hrow, if_neg hc, Prod.mk.injEq] at h
            obtain ⟨rfl, rfl⟩ := h
            exact ⟨.refl s, .inl ⟨_, rfl⟩⟩

end Writers

/-! ## One step -/

section Steps

variable {ι : Type} {tokenHash : String → String} {issuerBaseUrl : String}
  {request : ι → TokenExchangeRequest} {dpopProof : ι → Option String} {endpointUrl : ι → String}

/-- What an exchange tells its caller. -/
def ExchangeCall.result : ExchangeCall → Option (Except TokenExchangeError TokenResponse)
  | .done _ _ response => some (.ok response)
  | .failed error => some (.error error)
  | _ => none

/-- The claim that an event makes of a call. -/
def claimed? : ExchangeEvent → ExchangeCall → Option (Option String × Grant)
  | .exec, .claiming jkt grant _ | .lose, .claiming jkt grant _ => some (jkt, grant)
  | _, _ => none

/-- No claim of a transaction comes after the transaction expired, or without a proof
for a transaction that holds a thumbprint. -/
def ClaimInTime (c : Config TokenStore ι ExchangeCall) (i : ι) (e : ExchangeEvent) : Prop :=
  ∀ p ∈ claimed? e (c.calls i), ClaimSafe c.store p.1 p.2

instance decidableClaimInTime (c : Config TokenStore ι ExchangeCall) (i : ι)
    (e : ExchangeEvent) : Decidable (ClaimInTime c i e) :=
  inferInstanceAs (Decidable (∀ p ∈ claimed? e (c.calls i), ClaimSafe c.store p.1 p.2))

/-- An exchange works on the row that its request names. -/
def CallNamed (r : TokenExchangeRequest) : ExchangeCall → Prop
  | .fetching _ key | .done _ key _ => r.lookup = .ok key
  | .checking _ grant | .authenticating _ grant _ | .generating _ grant
  | .claiming _ grant _ => r.lookup = .ok grant.key
  | .start | .failed _ => True

theorem fetch_key {s : TokenStore} {key : ExchangeKey} {grant : Grant}
    (h : fetch s key = .ok grant) : grant.key = key := by
  cases key with
  | session code =>
      simp only [fetch] at h
      split at h
      · cases h
      · rename_i row hrow
        cases ha : authorizationRow code row with
        | error e => simp [ha, Except.map] at h
        | ok a =>
            simp only [ha, Except.map, Except.ok.injEq] at h
            subst h
            simp only [authorizationRow, bind, Except.bind] at ha
            split at ha
            · cases ha
            · split at ha
              · cases ha
              · cases ha
                rfl
  | transaction code =>
      simp only [fetch] at h
      split at h
      · cases h
      · rename_i row hrow
        cases ht : transactionRow code row with
        | error e => simp [ht, Except.map] at h
        | ok t =>
            simp only [ht, Except.map, Except.ok.injEq] at h
            subst h
            simp only [transactionRow, bind, Except.bind] at ht
            split at ht
            · cases ht
            · cases ht
              rfl

/-- What a step leaves behind: claimed rows stay claimed, the call stays with its row,
and a call that is done either was so before or has just claimed a pending row. -/
structure StepClaims (tokenHash : String → String) (r : TokenExchangeRequest) (s s' : TokenStore)
    (call call' : ExchangeCall) : Prop where
  rows : RowsKept s s'
  named : CallNamed r call'
  claims : ∀ {jkt key response}, call' = .done jkt key response →
    call = .done jkt key response ∨
      (Pending s key ∧ Claimed tokenHash s' key jkt response)

private theorem StepClaims.quiet {r : TokenExchangeRequest} {s : TokenStore}
    {call call' : ExchangeCall} (hnamed : CallNamed r call')
    (hdone : ∀ jkt key response, call' ≠ .done jkt key response) :
    StepClaims tokenHash r s s call call' :=
  ⟨.refl s, hnamed, fun h => absurd h (hdone _ _ _)⟩

private theorem claim_stepClaims {r : TokenExchangeRequest} {s : TokenStore}
    {jkt : Option String} {grant : Grant} (response : TokenResponse) {call : ExchangeCall}
    (hsafe : ClaimSafe s jkt grant) (hnamed : r.lookup = .ok grant.key) :
    StepClaims tokenHash r s (claim tokenHash s jkt grant response).1 call
      (claim tokenHash s jkt grant response).2 := by
  generalize hclaim : claim tokenHash s jkt grant response = out
  obtain ⟨s', call'⟩ := out
  obtain ⟨hrows, hcase⟩ := claim_cases hsafe hclaim
  refine ⟨hrows, ?_, fun {jkt' key response'} hdone => ?_⟩
  · rcases hcase with ⟨error, rfl⟩ | ⟨rfl, -⟩
    · trivial
    · exact hnamed
  · rcases hcase with ⟨error, rfl⟩ | ⟨rfl, hpending, hclaimed⟩
    · cases hdone
    · cases hdone
      exact .inr ⟨hpending, hclaimed⟩

private theorem exchangeExec_stepClaims {i : ι} {s s' : TokenStore} {call call' : ExchangeCall}
    (hnamed : CallNamed (request i) call)
    (hsafe : ∀ jkt grant response, call = .claiming jkt grant response → ClaimSafe s jkt grant)
    (h : exchangeExec tokenHash issuerBaseUrl request endpointUrl i s call = some (s', call')) :
    StepClaims tokenHash (request i) s s' call call' := by
  cases call with
  | fetching jkt key =>
      simp only [exchangeExec] at h
      split at h
      · rename_i grant hgrant
        cases h
        refine .quiet ?_ nofun
        rw [CallNamed, fetch_key hgrant]
        exact hnamed
      · cases h
        exact .quiet trivial nofun
  | checking jkt grant =>
      simp only [exchangeExec] at h
      split at h
      · cases h
        exact .quiet hnamed nofun
      · cases h
        exact .quiet trivial nofun
  | claiming jkt grant response =>
      simp only [exchangeExec, Option.some.injEq] at h
      obtain ⟨rfl, rfl⟩ := Prod.mk.inj h
      exact claim_stepClaims _ (hsafe _ _ _ rfl) hnamed
  | start | authenticating | generating | done | failed => cases h

/-- **Everything that a step in time can do.** -/
theorem exchangeStep_stepClaims {i : ι} {e : ExchangeEvent} {s s' : TokenStore}
    {call call' : ExchangeCall} (hnamed : CallNamed (request i) call)
    (hsafe : e = .exec ∨ e = .lose → ∀ jkt grant response,
      call = .claiming jkt grant response → ClaimSafe s jkt grant)
    (h : exchangeStep tokenHash issuerBaseUrl request dpopProof endpointUrl i e s call
      = some (s', call')) : StepClaims tokenHash (request i) s s' call call' := by
  unfold exchangeStep at h
  split at h
  · -- `verify`
    split at h
    · cases h
      exact .quiet trivial nofun
    · split at h
      · rename_i hkey
        cases h
        exact .quiet hkey nofun
      · cases h
        exact .quiet trivial nofun
  · -- `authenticate`
    split at h
    · cases h
      exact .quiet hnamed nofun
    · cases h
      exact .quiet trivial nofun
  · -- `generate`
    split at h
    · cases h
      exact .quiet hnamed nofun
    · cases h
      exact .quiet trivial nofun
  · exact exchangeExec_stepClaims hnamed (hsafe (.inl rfl)) h
  · -- `lose`
    rename_i jkt grant response
    cases h
    have hclaim : StepClaims tokenHash (request i) s _ (.claiming jkt grant response) _ :=
      claim_stepClaims response (hsafe (.inr rfl) _ _ _ rfl) hnamed
    exact ⟨hclaim.rows, trivial, nofun⟩
  · cases h
    exact .quiet trivial nofun
  · cases h
    exact .quiet trivial nofun
  · obtain ⟨s₁, hs, h⟩ := Option.map_eq_some_iff.mp h
    cases h
    exact ⟨otherWrite_rowsKept hs, hnamed, .inl⟩

/-! ## Runs -/

variable (tokenHash request) in
/-- One exchange of a code returns a token, its row is claimed for that token and
thumbprint before it expired, and every other exchange of the code returns an error. -/
structure ExchangedOnce (c : Config TokenStore ι ExchangeCall) : Prop where
  once : ∀ {i j key jkt jkt' k k' r r'}, (request i).lookup = .ok key →
    (request j).lookup = .ok key → c.calls i = .done jkt k r → c.calls j = .done jkt' k' r' →
    i = j
  claimed : ∀ {i key jkt k r}, (request i).lookup = .ok key → c.calls i = .done jkt k r →
    Claimed tokenHash c.store key jkt r
  refused : ∀ {i j key jkt k r res}, (request i).lookup = .ok key →
    (request j).lookup = .ok key → c.calls i = .done jkt k r → j ≠ i →
    (c.calls j).result = some res → ∃ error, res = .error error

variable (tokenHash request) in
/-- The invariant: every call stays with its row, and the rows of the calls that are
done are claimed, each by its own call. -/
structure ExchangeInv (c : Config TokenStore ι ExchangeCall) : Prop where
  named : ∀ i, CallNamed (request i) (c.calls i)
  claimed : ∀ {i jkt key r}, c.calls i = .done jkt key r → Claimed tokenHash c.store key jkt r
  once : ∀ {i j key jkt jkt' r r'}, c.calls i = .done jkt key r → c.calls j = .done jkt' key r' →
    i = j

variable [DecidableEq ι] {c c' : Config TokenStore ι ExchangeCall}

theorem ExchangeInv.next {i : ι} {e : ExchangeEvent}
    (hc : ExchangeInv tokenHash request c) (hsafe : ClaimInTime c i e)
    (h : (exchangeMachine tokenHash issuerBaseUrl request dpopProof endpointUrl).next c i e
      = some c') : ExchangeInv tokenHash request c' := by
  obtain ⟨s, call, hstep, rfl⟩ := Machine.next_eq_some.mp h
  have hclaims : StepClaims tokenHash (request i) c.store s (c.calls i) call := by
    refine exchangeStep_stepClaims (hc.named i) ?_ hstep
    intro he jkt grant response hcall
    refine hsafe (jkt, grant) ?_
    rcases he with rfl | rfl <;> simp [claimed?, hcall]
  -- A call that has just claimed a pending row meets no other call that is done with it.
  have hnew : ∀ {j key jkt jkt' r r'}, j ≠ i → call = .done jkt key r →
      c.calls j ≠ .done jkt' key r' := by
    intro j key jkt jkt' r r' hj hcall hother
    rcases hclaims.claims hcall with hold | ⟨hpending, -⟩
    · exact hj (hc.once hother hold)
    · exact (hc.claimed hother).not_pending hpending
  constructor
  · intro j
    by_cases hj : j = i
    · subst hj
      simpa using hclaims.named
    · simpa [hj] using hc.named j
  · intro j jkt key r hdone
    by_cases hj : j = i
    · subst hj
      simp only [Function.update_self] at hdone
      rcases hclaims.claims hdone with hold | ⟨-, hclaimed⟩
      · exact (hc.claimed hold).kept hclaims.rows
      · exact hclaimed
    · simp only [Function.update_of_ne hj] at hdone
      exact (hc.claimed hdone).kept hclaims.rows
  · intro j k key jkt jkt' r r' hj hk
    by_cases hji : j = i <;> by_cases hki : k = i
    · rw [hji, hki]
    · simp only [hji, Function.update_self] at hj
      simp only [Function.update_of_ne hki] at hk
      exact absurd hk (hnew hki hj)
    · simp only [hki, Function.update_self] at hk
      simp only [Function.update_of_ne hji] at hj
      exact absurd hj (hnew hji hk)
    · simp only [Function.update_of_ne hji] at hj
      simp only [Function.update_of_ne hki] at hk
      exact hc.once hj hk

/-- **A code is exchanged at most once and never after it expired**, along every run
whose claims of transactions are in time. -/
theorem exchange_once {s : TokenStore} {t : List (ι × ExchangeEvent)}
    (hsafe : (exchangeMachine tokenHash issuerBaseUrl request dpopProof endpointUrl).Guarded
      ClaimInTime (exchangeInit s) t)
    (h : (exchangeMachine tokenHash issuerBaseUrl request dpopProof endpointUrl).run
      (exchangeInit s) t = some c) : ExchangedOnce tokenHash request c := by
  have hc : ExchangeInv tokenHash request c := by
    refine Machine.guarded_induct (fun a i e b ha hsafe hab => ha.next hsafe hab) ?_ hsafe h
    exact ⟨fun i => trivial, nofun, nofun⟩
  have hkey : ∀ {i key jkt k r}, (request i).lookup = .ok key → c.calls i = .done jkt k r →
      k = key := by
    intro i key jkt k r hi hd
    have hnamed := hc.named i
    rw [hd] at hnamed
    exact Except.ok.inj (hnamed.symm.trans hi)
  constructor
  · intro i j key jkt jkt' k k' r r' hi hj hdi hdj
    obtain rfl := hkey hi hdi
    obtain rfl := hkey hj hdj
    exact hc.once hdi hdj
  · intro i key jkt k r hi hd
    obtain rfl := hkey hi hd
    exact hc.claimed hd
  · intro i j key jkt k r res hi hj hd hne hres
    cases hcall : c.calls j with
    | done jkt' k' r' =>
        obtain rfl := hkey hi hd
        obtain rfl := hkey hj hcall
        exact absurd (hc.once hcall hd) hne
    | failed error =>
        rw [hcall] at hres
        exact ⟨error, (Option.some.inj hres).symm⟩
    | start | fetching | checking | authenticating | generating | claiming =>
        simp [hcall, ExchangeCall.result] at hres

end Steps

/-! ## Exchanges of one pre-authorized code -/

def offerRow : TransactionRow where
  id := "transaction-1"
  organizationId := "org-a"
  status := "pending"
  expiresAt := seconds 600
  oid4vciClientId := none
  claims := .object [("degree", .string "BSc")]
  accessToken := none
  accessTokenExpiresAt := none
  cNonce := none

def offerStore : TokenStore :=
  ⟨fun code => if code = "code-1" then some offerRow else none, fun _ => none, 0⟩

def offerRequest : TokenExchangeRequest where
  grantType := preAuthorizedGrant
  preAuthorizedCode := some "code-1"
  code := none
  redirectUri := none
  clientId := none
  codeVerifier := none
  clientAssertionType := none
  clientAssertion := none

/-- Two exchanges pass their checks, and call `1` claims the row first. -/
def offerSchedule : List (Fin 2 × ExchangeEvent) :=
  [(0, .verify (.ok "thumbprint-0")), (1, .verify (.ok "thumbprint-1")), (0, .exec), (1, .exec),
   (0, .exec), (1, .exec), (0, .authenticate (.ok ())), (1, .authenticate (.ok ())),
   (0, .advance 5000000), (0, .generate (.ok ⟨"token-0"⟩)), (1, .generate (.ok ⟨"token-1"⟩)),
   (1, .exec), (0, .exec)]

theorem exchange_once_offer :
    ∃ c, (exchangeMachine (fun token => token) "https://issuer.example.test"
        (fun _ => offerRequest) (fun _ => some "proof") (fun _ => "/token")).run
        (exchangeInit offerStore) offerSchedule = some c ∧
      (c.calls 1).result = some (.ok ⟨"token-1"⟩) ∧
      ExchangedOnce (fun token => token) (fun _ => offerRequest) c := by
  have hrun : ((exchangeMachine (fun token => token) "https://issuer.example.test"
      (fun _ => offerRequest) (fun _ => some "proof") (fun _ => "/token")).run
      (exchangeInit offerStore) offerSchedule).map (fun c => (c.calls 1).result) =
      some (some (.ok ⟨"token-1"⟩)) := by
    decide +kernel
  obtain ⟨c, hc, hres⟩ := Option.map_eq_some_iff.mp hrun
  exact ⟨c, hc, hres, exchange_once (by decide +kernel) hc⟩

/-- The transaction expires while the client is authenticated. -/
def lateSchedule : List (Fin 2 × ExchangeEvent) :=
  [(0, .verify (.ok "thumbprint-0")), (0, .exec), (0, .exec), (0, .advance 700000000),
   (0, .authenticate (.ok ())), (0, .generate (.ok ⟨"token-0"⟩)), (0, .exec)]

/-- **A transaction is claimed after it expired** when its client takes long enough to
authenticate. -/
theorem exchange_after_expiry :
    ∃ c, (exchangeMachine (fun token => token) "https://issuer.example.test"
        (fun _ => offerRequest) (fun _ => some "proof") (fun _ => "/token")).run
        (exchangeInit offerStore) lateSchedule = some c ∧
      (c.calls 0).result = some (.ok ⟨"token-0"⟩) ∧
      ¬ ExchangedOnce (fun token => token) (fun _ => offerRequest) c := by
  have hrun : ((exchangeMachine (fun token => token) "https://issuer.example.test"
      (fun _ => offerRequest) (fun _ => some "proof") (fun _ => "/token")).run
      (exchangeInit offerStore) lateSchedule).map (fun c => ((c.calls 0).result,
        (c.store.transactions "code-1").map fun row =>
          (row.accessTokenExpiresAt, row.expiresAt))) =
      some (some (.ok ⟨"token-0"⟩), some (some (seconds 2500), seconds 600)) := by
    decide +kernel
  obtain ⟨c, hc, hboth⟩ := Option.map_eq_some_iff.mp hrun
  obtain ⟨hres, hrow⟩ := Prod.mk.inj hboth
  obtain ⟨row, hrow, htimes⟩ := Option.map_eq_some_iff.mp hrow
  obtain ⟨hat, hexpires⟩ := Prod.mk.inj htimes
  refine ⟨c, hc, hres, fun honce => ?_⟩
  have hkey : offerRequest.lookup = .ok (.transaction "code-1") := by decide
  cases hcall : c.calls 0 with
  | done jkt k r =>
      obtain ⟨row', at_, hrow', -, -, -, hat', hle⟩ := honce.claimed hkey hcall
      obtain rfl := Option.some.inj (hrow.symm.trans hrow')
      rw [hat, Option.some.injEq] at hat'
      rw [hexpires] at hle
      simp only [seconds] at hat' hle
      omega
  | start | fetching | checking | authenticating | generating | claiming | failed =>
      simp [hcall, ExchangeCall.result] at hres

end Marty.Issuance
