import Marty.Lib.Base64
import Marty.Lib.Checked
import Marty.Lib.Chrono
import Marty.Lib.JsonText
import Marty.Lib.Text
import Marty.Lib.Uuid

/-!
# Signing grants

A grant authorizes one signature for a short time.  Its claims name the operation and the
payload, and a remote service authenticates their text with a key that belongs to the origin
of the grant.

## Main definitions

* `GrantClaims`, `GrantBinding` — what a grant says, and what a request asks for.
* `boundInput` — the text that is authenticated, when the claims are for the request.
* `ConsumedGrant.authorizes` and its siblings — the last checks before a signature.
* `boundInput_eq_ok` — what the text and a passed check say.
-/

namespace Marty.SigningGrant

open Lib Lib.Checked Lib.Json

inductive SigningOrigin
  | gatewayService
  | gatewayIssuerDid
  | flowWalletRequest
  | issuanceCredential
  | issuanceCanvas
  | issuanceReadiness
  | issuancePassport
  deriving DecidableEq, Repr

/-- The name of an origin in the text of a grant. -/
def SigningOrigin.name : SigningOrigin → String
  | .gatewayService => "gateway_service"
  | .gatewayIssuerDid => "gateway_issuer_did"
  | .flowWalletRequest => "flow_wallet_request"
  | .issuanceCredential => "issuance_credential"
  | .issuanceCanvas => "issuance_canvas"
  | .issuanceReadiness => "issuance_readiness"
  | .issuancePassport => "issuance_passport"

structure GrantClaims where
  version : Nat
  origin : SigningOrigin
  operationId : String
  organizationId : String
  route : String
  serviceId : Option String
  issuerDid : Option String
  keyReference : Option String
  keyPurpose : String
  algorithm : String
  payloadSha256B64 : String
  issuedAt : Int
  expiresAt : Int
  nonce : String
  deriving DecidableEq, Repr

/-- What is asked for, derived from the authorized operation and the exact request. -/
structure GrantBinding where
  origin : SigningOrigin
  operationId : String
  organizationId : String
  route : String
  serviceId : Option String
  issuerDid : Option String
  keyReference : Option String
  keyPurpose : String
  algorithm : String
  payload : List UInt8
  deriving DecidableEq, Repr

/-- The operation that is submitted to a provider. -/
structure FinalSignBinding where
  organizationId : String
  route : String
  serviceId : Option String
  issuerDid : Option String
  keyReference : Option String
  keyPurpose : String
  algorithm : String
  payload : List UInt8
  deriving DecidableEq, Repr

inductive GrantError
  | malformed
  | expired
  | bindingMismatch
  | invalidHmac
  | verifierUnavailable
  | minterUnavailable
  deriving DecidableEq, Repr

def maxLifetimeSeconds : Int := 60

def maxFutureSkewSeconds : Int := 5

def issuedLifetimeSeconds : Int := 30

def domain : String := "marty:issuer-signing-grant:v1\n"

def urlSafeNoPad : Base64.Engine := ⟨true, false⟩

/-- `char::is_control`. -/
def isControl (c : Char) : Bool := c.toNat < 0x20 || (0x7F ≤ c.toNat && c.toNat ≤ 0x9F)

def bounded (value : String) (maxBytes : Nat) : Bool :=
  value != "" && decide (value.utf8ByteSize ≤ maxBytes) && !value.toList.any isControl

def stripPrefix (start bytes : List UInt8) : Option (List UInt8) :=
  if start.isPrefixOf bytes then some (bytes.drop start.length) else none

def utf8 (text : String) : List UInt8 := text.toUTF8.toList

/-! ## Routes -/

/-- A part of a key reference: letters, digits, `_` and `-`. -/
def nameIsValid (value : List Char) : Bool :=
  value != [] && decide (value.length ≤ 64) &&
    value.all fun c => (48 ≤ c.toNat && c.toNat ≤ 57) || (65 ≤ c.toNat && c.toNat ≤ 90) ||
      (97 ≤ c.toNat && c.toNat ≤ 122) || c == '_' || c == '-'

/-- The tenant of `didcomm/keys/<tenant>/<name>/versions/<version>`. -/
def didcommKeyTenant (value : String) : Option String :=
  match value.toList.splitOn '/' with
  | [scheme, keys, tenant, name, versions, version] =>
      if String.ofList scheme = "didcomm" ∧ String.ofList keys = "keys" ∧
          String.ofList versions = "versions" ∧ nameIsValid tenant = true ∧
          nameIsValid name = true ∧ version.length = 32 ∧ version.all Uuid.isLowerHex = true then
        some (String.ofList tenant)
      else none
  | _ => none

namespace GrantClaims

variable (claims : GrantClaims)

def didcommRouteShape : Bool :=
  claims.route == "/internal/compat/issuer-dids/didcomm/pack" &&
    claims.keyPurpose == "didcomm_authcrypt" && claims.algorithm == "ECDH-1PU+A256KW" &&
    (claims.serviceId.any fun id => bounded id 128) &&
    (claims.issuerDid.any fun did => Text.startsWith did "did:") &&
    (claims.keyReference.bind didcommKeyTenant) == some claims.organizationId

def issuerDidRouteShape : Bool :=
  claims.route == "/internal/compat/issuer-dids/sign" && claims.serviceId.isNone &&
    (claims.keyReference.any fun reference => reference != "") &&
    claims.issuerDid.any fun did => Text.startsWith did "did:"

/-- The service of a route, and whether it is asked for a certificate request. -/
def serviceRoute : Option (String × Bool) :=
  (Text.stripPrefix claims.route "/v1/signing-keys/services/").bind fun tail =>
    ((Text.stripSuffix tail "/sign").map (·, false)).or
      ((Text.stripSuffix tail "/certificate-csr").map (·, true))

def knownAlgorithm : Bool :=
  claims.algorithm == "ES256" || claims.algorithm == "ES384" || claims.algorithm == "RS256" ||
    claims.algorithm == "EdDSA"

/-- `authorizes_route_shape`. -/
def authorizesRouteShape : Bool :=
  match claims.origin with
  | .gatewayService => claims.serviceRoute.any fun (serviceId, csr) =>
      serviceId != "" && !serviceId.toList.contains '/' && claims.serviceId == some serviceId &&
        claims.issuerDid.isNone &&
        (!csr || (claims.keyPurpose == "x509_csr" && claims.keyReference.isSome))
  | .flowWalletRequest => claims.issuerDidRouteShape &&
      claims.keyPurpose == "oid4vp_request_signing" && claims.algorithm == "ES256"
  | .gatewayIssuerDid =>
      claims.route == "/v1/signing-keys/issuer-identities/certificate-csr" &&
        claims.serviceId.isNone && claims.keyReference.isNone &&
        (claims.issuerDid.any fun did => Text.startsWith did "did:") &&
        (claims.keyPurpose == "csca" || claims.keyPurpose == "x509_doc_signer" ||
          claims.keyPurpose == "mdoc_dsc") &&
        (claims.algorithm == "ES256" || claims.algorithm == "ES384" ||
          claims.algorithm == "ES512")
  | .issuanceCredential => (claims.issuerDidRouteShape &&
      (claims.keyPurpose == "vc_jwt_issuer" || claims.keyPurpose == "mdoc_dsc")) ||
        claims.didcommRouteShape
  | .issuanceCanvas => claims.issuerDidRouteShape && claims.keyPurpose == "lti_tool_signing" &&
      claims.algorithm == "RS256"
  | .issuanceReadiness => claims.issuerDidRouteShape && claims.keyPurpose == "vc_jwt_issuer" &&
      claims.knownAlgorithm
  | .issuancePassport => claims.issuerDidRouteShape &&
      claims.keyPurpose == "x509_doc_signer" && claims.knownAlgorithm

/-- The claims as JSON, in the order of their fields. -/
def toValue : Value :=
  .object [("version", .ofInt claims.version), ("origin", .string claims.origin.name),
    ("operation_id", .string claims.operationId),
    ("organization_id", .string claims.organizationId), ("route", .string claims.route),
    ("service_id", .ofOption .string claims.serviceId),
    ("issuer_did", .ofOption .string claims.issuerDid),
    ("key_reference", .ofOption .string claims.keyReference),
    ("key_purpose", .string claims.keyPurpose), ("algorithm", .string claims.algorithm),
    ("payload_sha256_b64", .string claims.payloadSha256B64),
    ("issued_at", .ofInt claims.issuedAt), ("expires_at", .ofInt claims.expiresAt),
    ("nonce", .string claims.nonce)]

/-- The text whose bytes are authenticated. -/
def input : List Char := domain.toList ++ claims.toValue.write

end GrantClaims

/-- The payload of a readiness check names the organization and carries the operation id. -/
def readinessChallengeMatchesOperation (binding : GrantBinding) : Bool :=
  ((stripPrefix (utf8 "marty-canvas-readiness-v1\x00") binding.payload).bind fun rest =>
    (stripPrefix (utf8 binding.organizationId) rest).bind (stripPrefix [0])).any fun nonce =>
      nonce.length == 32 && binding.operationId == Base64.encode urlSafeNoPad nonce

/-! ## Checks -/

section Checks

variable (sha256 : List UInt8 → List UInt8)

def payloadDigest (payload : List UInt8) : String := Base64.encode urlSafeNoPad (sha256 payload)

/-- `bound_input`. -/
def boundInput (claims : GrantClaims) (binding : GrantBinding) (nowSeconds : Int) :
    Except GrantError (List Char) := do
  rejectIf (claims.version ≠ 1 ∨ claims.authorizesRouteShape = false ∨
    bounded claims.operationId 128 = false ∨ bounded claims.organizationId 128 = false ∨
    bounded claims.route 256 = false ∨ Text.startsWith claims.route "/" = false ∨
    bounded claims.keyPurpose 64 = false ∨ bounded claims.algorithm 32 = false ∨
    (claims.serviceId.all fun value => bounded value 128) = false ∨
    (claims.issuerDid.all fun value => bounded value 512) = false ∨
    (claims.keyReference.all fun value => bounded value 512) = false ∨
    claims.nonce.utf8ByteSize ≠ 32 ∨ claims.nonce.toList.all Uuid.isLowerHex = false ∨
    (claims.origin = .issuanceReadiness ∧ readinessChallengeMatchesOperation binding = false))
    .malformed
  rejectIf (claims.issuedAt ≤ 0 ∨ claims.expiresAt ≤ claims.issuedAt ∨
    maxLifetimeSeconds < claims.expiresAt - claims.issuedAt ∨ claims.expiresAt < nowSeconds ∨
    maxFutureSkewSeconds < claims.issuedAt - nowSeconds) .expired
  rejectIf (claims.origin ≠ binding.origin ∨ claims.operationId ≠ binding.operationId ∨
    claims.organizationId ≠ binding.organizationId ∨ claims.route ≠ binding.route ∨
    claims.serviceId ≠ binding.serviceId ∨ claims.issuerDid ≠ binding.issuerDid ∨
    claims.keyReference ≠ binding.keyReference ∨ claims.keyPurpose ≠ binding.keyPurpose ∨
    claims.algorithm ≠ binding.algorithm ∨
    claims.payloadSha256B64 ≠ payloadDigest sha256 binding.payload) .bindingMismatch
  return claims.input

/-- The claims of `mint_bound`; the nonce is drawn by the caller. -/
def mintClaims (binding : GrantBinding) (now : Int) (nonce : String) : GrantClaims where
  version := 1
  origin := binding.origin
  operationId := binding.operationId
  organizationId := binding.organizationId
  route := binding.route
  serviceId := binding.serviceId
  issuerDid := binding.issuerDid
  keyReference := binding.keyReference
  keyPurpose := binding.keyPurpose
  algorithm := binding.algorithm
  payloadSha256B64 := payloadDigest sha256 binding.payload
  issuedAt := now
  expiresAt := now + issuedLifetimeSeconds
  nonce

/-- `mint_bound`, up to the call of the client, whose key belongs to one origin. -/
def mintBound (clientOrigin : SigningOrigin) (binding : GrantBinding) (now : Int)
    (nonce : String) : Except GrantError (GrantClaims × List Char) := do
  rejectIf (clientOrigin ≠ binding.origin) .bindingMismatch
  rejectIf ((toI64 (now + issuedLifetimeSeconds)).isNone = true) .expired
  let input ← boundInput sha256 (mintClaims sha256 binding now nonce) binding now
  return (mintClaims sha256 binding now nonce, input)

/-- `verify_bound`, up to the call of the client. -/
def verifyBound (clientOrigin : SigningOrigin) (claims : GrantClaims) (binding : GrantBinding)
    (now : Int) : Except GrantError (List Char) := do
  rejectIf (clientOrigin ≠ claims.origin) .bindingMismatch
  boundInput sha256 claims binding now

/-- A grant that has been verified and recorded as used. -/
structure ConsumedGrant where
  claims : GrantClaims
  deriving DecidableEq, Repr

structure ApprovedServiceCsrSign where
  organizationId : String
  route : String
  serviceId : String
  keyReference : String
  algorithm : String
  payloadSha256B64 : String
  expiresAt : Int
  deriving DecidableEq, Repr

structure ApprovedIssuerCsrSign where
  organizationId : String
  route : String
  serviceId : String
  issuerDid : String
  keyReference : String
  keyPurpose : String
  algorithm : String
  payloadSha256B64 : String
  expiresAt : Int
  deriving DecidableEq, Repr

def ApprovedIssuerCsrSign.authorizes (approved : ApprovedIssuerCsrSign)
    (actual : FinalSignBinding) (now : Int) : Bool :=
  decide (now ≤ approved.expiresAt) && approved.organizationId == actual.organizationId &&
    approved.route == actual.route && some approved.serviceId == actual.serviceId &&
    some approved.issuerDid == actual.issuerDid &&
    some approved.keyReference == actual.keyReference &&
    approved.keyPurpose == actual.keyPurpose && approved.algorithm == actual.algorithm &&
    approved.payloadSha256B64 == payloadDigest sha256 actual.payload

def ApprovedServiceCsrSign.authorizes (approved : ApprovedServiceCsrSign)
    (actual : FinalSignBinding) (now : Int) : Bool :=
  decide (now ≤ approved.expiresAt) && approved.organizationId == actual.organizationId &&
    approved.route == actual.route && some approved.serviceId == actual.serviceId &&
    actual.issuerDid.isNone && some approved.keyReference == actual.keyReference &&
    actual.keyPurpose == "x509_csr" && approved.algorithm == actual.algorithm &&
    approved.payloadSha256B64 == payloadDigest sha256 actual.payload

namespace ConsumedGrant

variable (grant : ConsumedGrant)

def authorizes (binding : GrantBinding) (now : Int) : Bool :=
  (boundInput sha256 grant.claims binding now).toBool

/-- The binding of a final operation: origin and operation come from the grant. -/
def finalBinding (actual : FinalSignBinding) : GrantBinding where
  origin := grant.claims.origin
  operationId := grant.claims.operationId
  organizationId := actual.organizationId
  route := actual.route
  serviceId := actual.serviceId
  issuerDid := actual.issuerDid
  keyReference := actual.keyReference
  keyPurpose := actual.keyPurpose
  algorithm := actual.algorithm
  payload := actual.payload

def authorizesFinal (actual : FinalSignBinding) (now : Int) : Bool :=
  (boundInput sha256 grant.claims (grant.finalBinding actual) now).toBool

def approveServiceCsr (intent : GrantBinding) (actual : FinalSignBinding) (now : Int) :
    Option ApprovedServiceCsrSign :=
  if grant.claims.origin ≠ .gatewayService ∨
      (Text.stripSuffix intent.route "/certificate-csr").isNone ∨
      intent.keyPurpose ≠ "x509_csr" ∨
      (boundInput sha256 grant.claims intent now).toBool = false ∨
      actual.organizationId ≠ intent.organizationId ∨ actual.route ≠ intent.route ∨
      actual.serviceId ≠ intent.serviceId ∨ actual.issuerDid.isSome ∨
      actual.keyReference ≠ intent.keyReference ∨ actual.keyPurpose ≠ "x509_csr" ∨
      actual.algorithm ≠ intent.algorithm then none
  else do
    let serviceId ← actual.serviceId
    let keyReference ← actual.keyReference
    return {
      organizationId := actual.organizationId
      route := actual.route
      serviceId
      keyReference
      algorithm := actual.algorithm
      payloadSha256B64 := payloadDigest sha256 actual.payload
      expiresAt := grant.claims.expiresAt }

def approveIssuerCsr (intent : GrantBinding) (actual : FinalSignBinding) (now : Int) :
    Option ApprovedIssuerCsrSign :=
  if grant.claims.origin ≠ .gatewayIssuerDid ∨
      intent.route ≠ "/v1/signing-keys/issuer-identities/certificate-csr" ∨
      intent.serviceId.isSome ∨ intent.keyReference.isSome ∨
      (intent.keyPurpose ≠ "csca" ∧ intent.keyPurpose ≠ "x509_doc_signer" ∧
        intent.keyPurpose ≠ "mdoc_dsc") ∨
      (boundInput sha256 grant.claims intent now).toBool = false ∨
      actual.organizationId ≠ intent.organizationId ∨ actual.route ≠ intent.route ∨
      actual.serviceId.isNone ∨ actual.issuerDid ≠ intent.issuerDid ∨
      actual.keyReference.isNone ∨ actual.keyPurpose ≠ intent.keyPurpose ∨
      actual.algorithm ≠ intent.algorithm then none
  else do
    let serviceId ← actual.serviceId
    let issuerDid ← actual.issuerDid
    let keyReference ← actual.keyReference
    return {
      organizationId := actual.organizationId
      route := actual.route
      serviceId
      issuerDid
      keyReference
      keyPurpose := actual.keyPurpose
      algorithm := actual.algorithm
      payloadSha256B64 := payloadDigest sha256 actual.payload
      expiresAt := grant.claims.expiresAt }

end ConsumedGrant

/-! ## What a passed check says -/

/-- The claims are for the request. -/
structure GrantClaims.Binds (claims : GrantClaims) (binding : GrantBinding) : Prop where
  origin : claims.origin = binding.origin
  operationId : claims.operationId = binding.operationId
  organizationId : claims.organizationId = binding.organizationId
  route : claims.route = binding.route
  serviceId : claims.serviceId = binding.serviceId
  issuerDid : claims.issuerDid = binding.issuerDid
  keyReference : claims.keyReference = binding.keyReference
  keyPurpose : claims.keyPurpose = binding.keyPurpose
  algorithm : claims.algorithm = binding.algorithm
  payload : claims.payloadSha256B64 = payloadDigest sha256 binding.payload

variable {sha256}
variable {claims claims' : GrantClaims} {binding binding' : GrantBinding} {now : Int}

/-- **A passed check**: the claims are for the request, and have not expired. -/
theorem boundInput_eq_ok {text : List Char}
    (h : boundInput sha256 claims binding now = .ok text) :
    text = claims.input ∧ claims.authorizesRouteShape = true ∧ now ≤ claims.expiresAt ∧
      claims.Binds sha256 binding := by
  simp only [boundInput, bind_eq_ok, rejectIf_eq_ok, exists_unit, not_or, not_not, not_lt,
    Bool.not_eq_false, pure, Except.pure, Except.ok.injEq] at h
  obtain ⟨⟨-, hshape, -⟩, ⟨-, -, -, hnow, -⟩, ⟨h₁, h₂, h₃, h₄, h₅, h₆, h₇, h₈, h₉, h₁₀⟩, rfl⟩ := h
  exact ⟨rfl, hshape, hnow, h₁, h₂, h₃, h₄, h₅, h₆, h₇, h₈, h₉, h₁₀⟩

theorem toBool_boundInput (h : (boundInput sha256 claims binding now).toBool = true) :
    claims.authorizesRouteShape = true ∧ now ≤ claims.expiresAt ∧
      claims.Binds sha256 binding := by
  cases hinput : boundInput sha256 claims binding now with
  | error e => simp [hinput, Except.toBool] at h
  | ok text => exact (boundInput_eq_ok hinput).2

theorem payloadDigest_injective (hsha : Function.Injective sha256) {p p' : List UInt8}
    (h : payloadDigest sha256 p = payloadDigest sha256 p') : p = p' := by
  have hdecoded := congrArg (Base64.decode urlSafeNoPad) h
  simp only [payloadDigest, Base64.decode_encode, Option.some.injEq] at hdecoded
  exact hsha hdecoded

/-- **The claims of a grant are for one request only.** -/
theorem GrantClaims.Binds.unique (hsha : Function.Injective sha256)
    (h : claims.Binds sha256 binding) (h' : claims.Binds sha256 binding') : binding = binding' := by
  have hpayload := payloadDigest_injective hsha (h.payload.symm.trans h'.payload)
  cases binding
  cases binding'
  simp only [GrantBinding.mk.injEq]
  exact ⟨h.origin.symm.trans h'.origin, h.operationId.symm.trans h'.operationId,
    h.organizationId.symm.trans h'.organizationId, h.route.symm.trans h'.route,
    h.serviceId.symm.trans h'.serviceId, h.issuerDid.symm.trans h'.issuerDid,
    h.keyReference.symm.trans h'.keyReference, h.keyPurpose.symm.trans h'.keyPurpose,
    h.algorithm.symm.trans h'.algorithm, hpayload⟩

theorem mintBound_eq_ok {clientOrigin : SigningOrigin} {nonce : String}
    {minted : GrantClaims × List Char}
    (h : mintBound sha256 clientOrigin binding now nonce = .ok minted) :
    clientOrigin = minted.1.origin ∧ minted.2 = minted.1.input ∧ minted.1.nonce = nonce ∧
      minted.1.Binds sha256 binding := by
  simp only [mintBound, bind_eq_ok, rejectIf_eq_ok, exists_unit, not_not, pure, Except.pure,
    Except.ok.injEq] at h
  obtain ⟨horigin, -, text, hinput, rfl⟩ := h
  obtain ⟨htext, -, -, hbinds⟩ := boundInput_eq_ok hinput
  exact ⟨horigin, htext, rfl, hbinds⟩

theorem verifyBound_eq_ok {clientOrigin : SigningOrigin} {text : List Char}
    (h : verifyBound sha256 clientOrigin claims binding now = .ok text) :
    clientOrigin = claims.origin ∧ text = claims.input := by
  simp only [verifyBound, bind_eq_ok, rejectIf_eq_ok, exists_unit, not_not] at h
  exact ⟨h.1, (boundInput_eq_ok h.2).1⟩

/-- A service grant names no issuer. -/
theorem issuerDid_of_gatewayService (horigin : claims.origin = .gatewayService)
    (hshape : claims.authorizesRouteShape = true) : claims.issuerDid = none := by
  simp only [GrantClaims.authorizesRouteShape, horigin, Option.any_eq_true, Bool.and_eq_true,
    Option.isNone_iff_eq_none] at hshape
  obtain ⟨-, -, ⟨-, hissuer⟩, -⟩ := hshape
  exact hissuer

/-- What an approval carries over from the grant to the operation. -/
structure ConsumedGrant.Approves (grant : ConsumedGrant) (actual : FinalSignBinding) : Prop where
  organizationId : actual.organizationId = grant.claims.organizationId
  route : actual.route = grant.claims.route
  issuerDid : actual.issuerDid = grant.claims.issuerDid
  keyPurpose : actual.keyPurpose = grant.claims.keyPurpose
  algorithm : actual.algorithm = grant.claims.algorithm

variable {grant : ConsumedGrant} {intent : GrantBinding} {actual final : FinalSignBinding}
  {later : Int}

/-- **A service certificate request** is signed as it was approved, with the service and the
key that were granted. -/
theorem approveServiceCsr_authorizes (hsha : Function.Injective sha256)
    {approved : ApprovedServiceCsrSign}
    (happrove : grant.approveServiceCsr sha256 intent actual now = some approved)
    (h : approved.authorizes sha256 final later = true) :
    grant.claims.origin = .gatewayService ∧ grant.claims.Binds sha256 intent ∧ final = actual ∧
      grant.Approves final ∧ final.serviceId = grant.claims.serviceId ∧
      final.keyReference = grant.claims.keyReference ∧ later ≤ grant.claims.expiresAt := by
  unfold ConsumedGrant.approveServiceCsr at happrove
  split at happrove
  case isTrue => cases happrove
  case isFalse hchecks =>
    simp only [not_or, not_not, Bool.not_eq_false, Bool.not_eq_true, Option.isSome_eq_false_iff,
      Option.isNone_iff_eq_none] at hchecks
    obtain ⟨horigin, -, hpurpose, hbound, horganization, hroute, hservice, hissuer, hkey,
      hactualPurpose, halgorithm⟩ := hchecks
    obtain ⟨hshape, -, hbinds⟩ := toBool_boundInput hbound
    simp only [Option.bind_eq_bind, Option.bind_eq_some_iff, pure, Option.some.injEq] at happrove
    obtain ⟨serviceId, hserviceId, keyReference, hkeyReference, rfl⟩ := happrove
    simp only [ApprovedServiceCsrSign.authorizes, Bool.and_eq_true, decide_eq_true_eq, beq_iff_eq,
      Option.isNone_iff_eq_none] at h
    obtain ⟨⟨⟨⟨⟨⟨⟨⟨hnow, hfinalOrganization⟩, hfinalRoute⟩, hfinalService⟩, hfinalIssuer⟩,
      hfinalKey⟩, hfinalPurpose⟩, hfinalAlgorithm⟩, hpayload⟩ := h
    have hfinal : final = actual := by
      have hpayload := payloadDigest_injective hsha hpayload
      cases final
      cases actual
      simp only [FinalSignBinding.mk.injEq]
      exact ⟨hfinalOrganization.symm, hfinalRoute.symm, hfinalService.symm.trans hserviceId.symm,
        hfinalIssuer.trans hissuer.symm, hfinalKey.symm.trans hkeyReference.symm,
        hfinalPurpose.trans hactualPurpose.symm, hfinalAlgorithm.symm, hpayload.symm⟩
    subst hfinal
    have happroves : grant.Approves final := {
      organizationId := horganization.trans hbinds.organizationId.symm
      route := hroute.trans hbinds.route.symm
      issuerDid := hissuer.trans (issuerDid_of_gatewayService horigin hshape).symm
      keyPurpose := (hactualPurpose.trans hpurpose.symm).trans hbinds.keyPurpose.symm
      algorithm := halgorithm.trans hbinds.algorithm.symm }
    exact ⟨horigin, hbinds, rfl, happroves, hservice.trans hbinds.serviceId.symm,
      hkey.trans hbinds.keyReference.symm, hnow⟩

/-- **An issuer certificate request** is signed as it was approved, for the issuer that was
granted. -/
theorem approveIssuerCsr_authorizes (hsha : Function.Injective sha256)
    {approved : ApprovedIssuerCsrSign}
    (happrove : grant.approveIssuerCsr sha256 intent actual now = some approved)
    (h : approved.authorizes sha256 final later = true) :
    grant.claims.origin = .gatewayIssuerDid ∧ grant.claims.Binds sha256 intent ∧
      final = actual ∧ grant.Approves final ∧ later ≤ grant.claims.expiresAt := by
  unfold ConsumedGrant.approveIssuerCsr at happrove
  split at happrove
  case isTrue => cases happrove
  case isFalse hchecks =>
    simp only [not_or, not_not, Bool.not_eq_false] at hchecks
    obtain ⟨horigin, -, -, -, -, hbound, horganization, hroute, -, hissuer, -, hpurpose,
      halgorithm⟩ := hchecks
    obtain ⟨-, -, hbinds⟩ := toBool_boundInput hbound
    simp only [Option.bind_eq_bind, Option.bind_eq_some_iff, pure, Option.some.injEq] at happrove
    obtain ⟨serviceId, hserviceId, issuerDid, hissuerDid, keyReference, hkeyReference, rfl⟩ :=
      happrove
    simp only [ApprovedIssuerCsrSign.authorizes, Bool.and_eq_true, decide_eq_true_eq,
      beq_iff_eq] at h
    obtain ⟨⟨⟨⟨⟨⟨⟨⟨hnow, hfinalOrganization⟩, hfinalRoute⟩, hfinalService⟩, hfinalIssuer⟩,
      hfinalKey⟩, hfinalPurpose⟩, hfinalAlgorithm⟩, hpayload⟩ := h
    have hfinal : final = actual := by
      have hpayload := payloadDigest_injective hsha hpayload
      cases final
      cases actual
      simp only [FinalSignBinding.mk.injEq]
      exact ⟨hfinalOrganization.symm, hfinalRoute.symm, hfinalService.symm.trans hserviceId.symm,
        hfinalIssuer.symm.trans hissuerDid.symm, hfinalKey.symm.trans hkeyReference.symm,
        hfinalPurpose.symm, hfinalAlgorithm.symm, hpayload.symm⟩
    subst hfinal
    have happroves : grant.Approves final := {
      organizationId := horganization.trans hbinds.organizationId.symm
      route := hroute.trans hbinds.route.symm
      issuerDid := hissuer.trans hbinds.issuerDid.symm
      keyPurpose := hpurpose.trans hbinds.keyPurpose.symm
      algorithm := halgorithm.trans hbinds.algorithm.symm }
    exact ⟨horigin, hbinds, rfl, happroves, hnow⟩

end Checks

/-! ## The text of a grant -/

theorem SigningOrigin.name_injective {a b : SigningOrigin} (h : a.name = b.name) : a = b := by
  cases a <;> cases b <;> first | rfl | exact absurd h (by decide)

theorem GrantClaims.toValue_wellFormed (claims : GrantClaims) : claims.toValue.WellFormed := by
  refine ⟨by simp, ?_⟩
  simp [entriesWellFormed, Value.ofInt_wellFormed, Value.ofOption_string_wellFormed,
    Value.WellFormed]

/-- **The text determines the claims.** -/
theorem GrantClaims.input_injective {claims claims' : GrantClaims}
    (h : claims.input = claims'.input) : claims = claims' := by
  have hwrite := List.append_cancel_left h
  have hvalue := Value.write_injective claims.toValue_wellFormed claims'.toValue_wellFormed hwrite
  simp only [toValue, Value.object.injEq, List.cons.injEq, Prod.mk.injEq, true_and, and_true,
    Value.string.injEq] at hvalue
  obtain ⟨hversion, horigin, h₁, h₂, h₃, hservice, hissuer, hkey, h₄, h₅, h₆, hissued, hexpires,
    h₇⟩ := hvalue
  cases claims
  cases claims'
  simp only [GrantClaims.mk.injEq]
  exact ⟨Int.ofNat.inj (Value.ofInt_injective hversion), SigningOrigin.name_injective horigin,
    h₁, h₂, h₃,
    Value.ofOption_string_injective hservice, Value.ofOption_string_injective hissuer,
    Value.ofOption_string_injective hkey, h₄, h₅, h₆, Value.ofInt_injective hissued,
    Value.ofInt_injective hexpires, h₇⟩

end Marty.SigningGrant
