import Marty.Flow.Records
import Marty.Lib.Base64
import Marty.Oid4vp.Validators

/-!
# Request objects

A wallet retrieves a verification request as a signed object.  Each retrieval builds the payload
anew, for the profile that the wallet asked for, and writes into the context of the instance what
the submission will be checked against.

## Main definitions

* `RequestObjectOptions` — the profile of a retrieval.
* `responseEncryptionKey` — the key that a wallet encrypts its response to.
* `requestPayload` — what is signed.
* `recordRequest` — what a retrieval leaves in the context.
* `prepareRequestObject`, `buildProfiledRequestObject` — a retrieval up to the signature, and
  whole.
-/

namespace Marty.Flow

open Lib Lib.Checked

def requestFormat : String := "oauth-authz-req+jwt"
def requestPurpose : String := "oid4vp_request_signing"
def requestAlgorithm : String := "ES256"
def mipVersion : String := "0.3.1"

inductive VerifierDidMethod
  | web | jwk | key
  deriving DecidableEq, Repr

inductive Oid4vpClientIdScheme
  | redirectUri | decentralizedIdentifier | x509Hash
  deriving DecidableEq, Repr

inductive RequestObjectCompatibility
  | standard | lissi
  deriving DecidableEq, Repr

inductive RequestObjectTransport
  | requestUri | digitalCredentialsApi
  deriving DecidableEq, Repr

structure RequestObjectOptions where
  verifierClientId : Option String
  walletNonce : Option String
  verifierDidMethod : VerifierDidMethod
  clientIdScheme : Oid4vpClientIdScheme
  x509CertificateBundle : Option String
  compatibility : RequestObjectCompatibility
  transport : RequestObjectTransport
  expectedOrigins : List String
  strictClientMetadata : Bool
  verifierDisplayName : String
  verifierLogoUri : Option String

def RequestObjectOptions.default : RequestObjectOptions where
  verifierClientId := none
  walletNonce := none
  verifierDidMethod := .web
  clientIdScheme := .decentralizedIdentifier
  x509CertificateBundle := none
  compatibility := .standard
  transport := .requestUri
  expectedOrigins := []
  strictClientMetadata := false
  verifierDisplayName := "ElevenID LLC"
  verifierLogoUri := none

/-- The query of the policy in both languages. -/
structure PresentationRequestArtifacts where
  dcqlQuery : Value
  presentationDefinition : Value

inductive FlowRequestObjectError
  | provider (error : FlowProviderError)
  | invalidInstance (reason : String)
  | unsupportedProfile (reason : String)
  | serialization
  | invalidClock
  | tooLarge
  | invalidIdentity (reason : String)
  deriving DecidableEq, Repr

abbrev Requested := Except FlowRequestObjectError

/-! ## Providers -/

structure SigningIdentity where
  organizationId : String
  issuerDid : String
  verificationMethodId : String
  signingKeyReference : String
  publicJwk : Json.Map
  keyPurpose : String
  credentialFormat : String
  algorithm : String

def publicKeyMatchesAlgorithm (jwk : Json.Map) (algorithm : String) : Bool :=
  let value name := (jwk.get name).bind Json.Value.asStr
  if algorithm = "ES256" then
    value "kty" = some "EC" ∧ value "crv" = some "P-256" ∧ (value "x").isSome ∧ (value "y").isSome
  else if algorithm = "ES384" then
    value "kty" = some "EC" ∧ value "crv" = some "P-384" ∧ (value "x").isSome ∧ (value "y").isSome
  else if algorithm = "EdDSA" then
    value "kty" = some "OKP" ∧ value "crv" = some "Ed25519" ∧ (value "x").isSome
  else if algorithm = "RS256" ∨ algorithm = "PS256" then
    value "kty" = some "RSA" ∧ (value "n").isSome ∧ (value "e").isSome
  else false

/-- The identity is the one that was asked for, and shows no secret part of its key. -/
def SigningIdentity.validateBinding (identity : SigningIdentity)
    (organizationId issuerDid keyPurpose credentialFormat : String)
    (algorithm : Option String) : Except FlowProviderError Unit :=
  rejectIf (¬ (identity.organizationId = organizationId ∧ identity.issuerDid = issuerDid ∧
      Text.startsWith identity.verificationMethodId (issuerDid ++ "#") ∧
      nonBlank identity.signingKeyReference ∧ identity.keyPurpose = keyPurpose ∧
      identity.credentialFormat = credentialFormat ∧
      (∀ wanted ∈ algorithm, identity.algorithm = wanted) ∧ nonBlank identity.algorithm ∧
      publicKeyMatchesAlgorithm identity.publicJwk identity.algorithm ∧
      ∀ name ∈ ["d", "p", "q", "k"], identity.publicJwk.containsKey name = false))
    (.invalidResponse "signing_identity"
      ("identity is not bound to the requested tenant, DID, purpose, format, and algorithm"))

structure SigningRequest where
  operationId : String
  organizationId : String
  issuerDid : String
  verificationMethodId : String
  signingKeyReference : String
  keyPurpose : String
  credentialFormat : String
  algorithm : String
  payloadB64url : String

structure SigningResult where
  issuerDid : String
  verificationMethodId : String
  algorithm : String
  signatureRawB64url : String

def SigningResult.validateBinding (result : SigningResult) (request : SigningRequest) :
    Except FlowProviderError Unit :=
  rejectIf (¬ (result.issuerDid = request.issuerDid ∧
      result.verificationMethodId = request.verificationMethodId ∧
      result.algorithm = request.algorithm ∧ nonBlank result.signatureRawB64url))
    (.invalidResponse "signing_identity" "signature response identity does not match the request")

structure HaipRemoteKey where
  organizationId : String
  flowInstanceId : String
  keyReference : String
  publicJwk : Value

/-- The answers of the service that holds the signing keys. -/
structure SigningIdentityProvider where
  resolve : String → String → String → String → Option String →
    Except FlowProviderError SigningIdentity
  sign : SigningRequest → Except FlowProviderError SigningResult

/-- The answers of the service that holds the keys that responses are encrypted to. -/
structure FlowKeyEnvelopeProvider where
  resolveHaipKey : String → String → String → Except FlowProviderError HaipRemoteKey
  createHaipKey : String → String → Except FlowProviderError HaipRemoteKey
  decryptHaipResponse : String → String → String → String → Except FlowProviderError String

/-- What a retrieval takes from other packages: the identifiers that are derived from a key, the
client identity of a certificate bundle and a key, and the points of the curve. -/
structure RequestPackages where
  deriveP256DidIdentifier : String → String → Except String String
  x509HashClientIdentity : String → Value → Except String (String × List String)
  isP256Point : List UInt8 → Bool
  toRfc3339 : Utc → String

/-! ## Response encryption -/

def validVersion (version : String) : Bool :=
  version.utf8ByteSize == 32 && version.toList.all Oid4vp.isLowerHex

/-- The version that a key reference names, within its organization and flow. -/
def versionFor (reference organizationId flowId : String) : Option String :=
  match (reference.toList.splitOn '/').map String.ofList with
  | ["didcomm", "haip", "keys", tenant, flow, "versions", version] =>
      if tenant = organizationId ∧ flow = flowId ∧ validVersion version then some version else none
  | _ => none

def kidMatchesVersion (kid version : String) : Bool :=
  validVersion version && kid == "oid4vp-haip-" ++ version

def base64Url : Base64.Engine := ⟨true, false⟩

def matchesPublicJwk (packages : RequestPackages) (publicJwk : Value) (version : String) : Bool :=
  match publicJwk with
  | .object object =>
      let text name := (Json.Map.get object name).bind Json.Value.asStr
      object.length = 7 ∧ text "kty" = some "EC" ∧ text "crv" = some "P-256" ∧
        text "alg" = some "ECDH-ES" ∧ text "use" = some "enc" ∧
        (text "kid").any (kidMatchesVersion · version) ∧
        ((text "x").bind (Base64.decode base64Url)).any fun x =>
          ((text "y").bind (Base64.decode base64Url)).any fun y =>
            x.length == 32 && y.length == 32 && packages.isP256Point (4 :: x ++ y)
  | _ => false

def contextObject (instanceRecord : FlowInstanceRecord) : Requested Json.Map :=
  okOr instanceRecord.context.asObject (.invalidInstance "context must be an object")

/-- A key that the context already refers to is asked for again, and must not have changed. -/
def storedEncryptionKey (packages : RequestPackages) (envelope : Option FlowKeyEnvelopeProvider)
    (instanceRecord : FlowInstanceRecord) (publicJwk : Option Value) (reference : String) :
    Requested (Value × String) := do
  let version ← okOr
    (versionFor reference instanceRecord.organizationId instanceRecord.id) .serialization
  let publicJwk ← okOr publicJwk .serialization
  rejectIf (matchesPublicJwk packages publicJwk version = false) .serialization
  let provider ← okOr envelope (.provider (.unavailable "flow_key_envelope"))
  let remote ← (provider.resolveHaipKey instanceRecord.organizationId instanceRecord.id
    version).mapError .provider
  rejectIf (remote.organizationId ≠ instanceRecord.organizationId ∨
      remote.flowInstanceId ≠ instanceRecord.id ∨ remote.keyReference ≠ reference ∨
      (remote.publicJwk == publicJwk) = false)
    (.provider (.invalidResponse "flow_key_envelope"
      "stored response encryption key differs from remote custody"))
  return (publicJwk, reference)

def createdEncryptionKey (packages : RequestPackages) (envelope : Option FlowKeyEnvelopeProvider)
    (instanceRecord : FlowInstanceRecord) : Requested (Value × String) := do
  let provider ← okOr envelope (.provider (.unavailable "flow_key_envelope"))
  let remote ← (provider.createHaipKey instanceRecord.organizationId
    instanceRecord.id).mapError .provider
  rejectIf (remote.organizationId ≠ instanceRecord.organizationId ∨
      remote.flowInstanceId ≠ instanceRecord.id ∨
      (versionFor remote.keyReference instanceRecord.organizationId instanceRecord.id).any
        (matchesPublicJwk packages remote.publicJwk) = false)
    (.provider (.invalidResponse "flow_key_envelope"
      "remote response encryption key binding mismatch"))
  return (remote.publicJwk, remote.keyReference)

/-- The public key that responses are encrypted to, and the reference to it. -/
def responseEncryptionKey (packages : RequestPackages) (envelope : Option FlowKeyEnvelopeProvider)
    (instanceRecord : FlowInstanceRecord) : Requested (Value × String) := do
  let context ← contextObject instanceRecord
  let publicJwk := context.get "haip_response_encryption_public_jwk"
  rejectIf (context.containsKey "haip_response_encryption_key_envelope") .serialization
  match (context.get "haip_response_encryption_key_reference").bind Json.Value.asStr with
  | some reference => storedEncryptionKey packages envelope instanceRecord publicJwk reference
  | none =>
      rejectIf publicJwk.isSome .serialization
      createdEncryptionKey packages envelope instanceRecord

def requestEncryption (packages : RequestPackages) (envelope : Option FlowKeyEnvelopeProvider)
    (instanceRecord : FlowInstanceRecord) (encrypts : Bool) : Requested (Option (Value × String)) :=
  if encrypts then (responseEncryptionKey packages envelope instanceRecord).map some else .ok none

/-! ## The identity of the verifier -/

def verifierDid (packages : RequestPackages) (identity : SigningIdentity) :
    VerifierDidMethod → Requested String
  | .web => .ok identity.issuerDid
  | .jwk => derived "did:jwk"
  | .key => derived "did:key"
where
  derived (method : String) : Requested String :=
    (packages.deriveP256DidIdentifier
      (String.ofList (Json.Value.object identity.publicJwk).write) method).mapError .invalidIdentity

def verifierRequestKid (identity : SigningIdentity) (did : String) :
    VerifierDidMethod → Requested String
  | .web => .ok identity.verificationMethodId
  | .jwk => .ok (did ++ "#0")
  | .key => do
      let fingerprint ← okOr (Text.stripPrefix did "did:key:")
        (.invalidIdentity "derived did:key is malformed")
      return did ++ "#" ++ fingerprint

def presentationKid (identity : SigningIdentity) (did : Option String)
    (method : VerifierDidMethod) : Requested (Option String) :=
  match did with
  | none => .ok none
  | some did => (verifierRequestKid identity did method).map some

/-- The client identifier, the DID of the verifier, and the certificates of the header. -/
def resolveOid4vpClientIdentity (packages : RequestPackages) (identity : SigningIdentity)
    (responseUri : String) (options : RequestObjectOptions) :
    Requested (String × String × Option (List String)) := do
  let did ← verifierDid packages identity options.verifierDidMethod
  match options.compatibility, options.clientIdScheme with
  | .lissi, _ => return (did, did, none)
  | .standard, .redirectUri => return ("redirect_uri:" ++ responseUri, did, none)
  | .standard, .decentralizedIdentifier => return ("decentralized_identifier:" ++ did, did, none)
  | .standard, .x509Hash =>
      let bundle ← okOr (options.x509CertificateBundle.filter nonBlank)
        (.invalidIdentity "x509_hash requires a verifier certificate bundle")
      let x509 ← (packages.x509HashClientIdentity bundle
        (.object identity.publicJwk)).mapError .invalidIdentity
      return (x509.1, did, some x509.2)

/-- An instance keeps the client identity that it was created with. -/
def validateExistingClientIdentity (existing : Option String) (clientId did : String)
    (compatibility : RequestObjectCompatibility) : Requested Unit :=
  match existing.filter nonBlank with
  | none => .ok ()
  | some existing =>
      let valid : Bool := match compatibility with
        | .standard => existing = clientId
        | .lissi => existing = did ∨ existing = "decentralized_identifier:" ++ did
      rejectIf (valid = false)
        (.invalidIdentity "verifier identity changed after the flow was created")

/-! ## The payload -/

def unixTimestamp (t : Utc) : Int := t / 1000000000

def clientMetadata (baseUrl : String) (options : RequestObjectOptions) : Json.Map :=
  let both : Value := .ofStrings ["ES256", "EdDSA"]
  let sdJwt : Value := .object [("kb-jwt_alg_values", both), ("sd-jwt_alg_values", both)]
  let formats : Value := .object [("dc+sd-jwt", sdJwt),
    ("jwt_vc_json", .object [("alg_values_supported", both)]),
    ("jwt_vp", .object [("alg_values_supported", both)]),
    ("ldp_vp", .object [("proof_type_values_supported", .ofStrings ["Ed25519Signature2020"])]),
    ("mso_mdoc", .object [("alg_values_supported", .ofStrings ["ES256"])]),
    ("vc+sd-jwt", sdJwt)]
  [("vp_formats_supported", formats)] ++
    if options.strictClientMetadata then []
    else [("client_name", .string options.verifierDisplayName),
      ("logo_uri", .string (options.verifierLogoUri.getD (baseUrl ++ "/favicon.svg")))]

/-- What is known about a request once the checks have passed. -/
structure RequestBasis where
  instanceId : String
  base : String
  haip : Bool
  isSiop : Bool
  responseUri : String
  clientId : String
  verifierDid : Option String
  requestX5c : Option (List String)
  nonce : String
  expiresAt : Utc
  responseEncryption : Option (Value × String)

def RequestObjectOptions.dcApi (options : RequestObjectOptions) : Bool :=
  options.transport = .digitalCredentialsApi

def siopPayload (basis : RequestBasis) (now : Utc) : Json.Map :=
  [("aud", .string "https://self-issued.me/v2"), ("client_id", .string basis.clientId),
    ("exp", .ofInt (unixTimestamp basis.expiresAt)), ("iat", .ofInt (unixTimestamp now)),
    ("iss", .string basis.clientId), ("nonce", .string basis.nonce),
    ("redirect_uri", .string basis.responseUri), ("response_type", .string "id_token"),
    ("scope", .string "openid"), ("state", .string basis.instanceId),
    ("subject_syntax_types_supported", .ofStrings ["urn:ietf:params:oauth:jwk-thumbprint"])]

/-- The part of a presentation request that every profile has. -/
def commonPayload (basis : RequestBasis) (now : Utc) : Json.Map :=
  [("aud", .string "https://self-issued.me/v2"), ("client_id", .string basis.clientId),
    ("exp", .ofInt (unixTimestamp basis.expiresAt)), ("iat", .ofInt (unixTimestamp now)),
    ("iss", .string basis.clientId), ("nonce", .string basis.nonce),
    ("response_mode", .string "direct_post"), ("response_type", .string "vp_token"),
    ("response_uri", .string basis.responseUri), ("state", .string basis.instanceId)]

/-- The query, in the language of the profile. -/
def addQuery (basis : RequestBasis) (artifacts : PresentationRequestArtifacts)
    (options : RequestObjectOptions) (payload : Json.Map) : Requested Json.Map :=
  match options.compatibility with
  | .standard => .ok <|
      (payload.insert "client_metadata" (.object (clientMetadata basis.base options))).insert
        "dcql_query" artifacts.dcqlQuery
  | .lissi => do
      rejectIf basis.haip (.unsupportedProfile "HAIP is incompatible with LISSI")
      return (payload.insert "client_id_scheme" (.string "did")).insert "presentation_definition"
        artifacts.presentationDefinition

/-- Remove an entry and move the last one to its place. -/
def swapRemove (m : Json.Map) (key : String) : Json.Map :=
  match m.span (·.1 ≠ key) with
  | (before, []) => before
  | (before, _ :: after) => before ++ after.getLast?.toList ++ after.dropLast

/-- The Digital Credentials API answers to an origin: the request has no response URI, and no
state. -/
def bindOrigins (options : RequestObjectOptions) (payload : Json.Map) : Json.Map :=
  if options.dcApi then
    swapRemove (swapRemove ((payload.insert "response_mode" (.string "dc_api.jwt")).insert
      "expected_origins" (.ofStrings options.expectedOrigins)) "response_uri") "state"
  else payload

/-- `value[key] = member`. -/
def setMember (value : Option Value) (key : String) (member : Value) : Value :=
  .object (Json.Map.insert ((value.bind Json.Value.asObject).getD []) key member)

def addEncryption (options : RequestObjectOptions) (encryption : Option (Value × String))
    (payload : Json.Map) : Json.Map :=
  match encryption with
  | none => payload
  | some (publicJwk, _) =>
      let payload := payload.insert "response_mode"
        (.string (if options.dcApi then "dc_api.jwt" else "direct_post.jwt"))
      let payload := payload.insert "client_metadata" (setMember (payload.get "client_metadata")
        "encrypted_response_enc_values_supported" (.ofStrings ["A128GCM", "A256GCM"]))
      payload.insert "client_metadata" (setMember (payload.get "client_metadata") "jwks"
        (.object [("keys", .array [publicJwk])]))

def addWalletNonce (options : RequestObjectOptions) (payload : Json.Map) : Json.Map :=
  match options.walletNonce.filter nonBlank with
  | none => payload
  | some nonce => payload.insert "wallet_nonce" (.string nonce)

def presentationPayload (basis : RequestBasis) (artifacts : Option PresentationRequestArtifacts)
    (options : RequestObjectOptions) (now : Utc) : Requested Json.Map := do
  let artifacts ← okOr artifacts (.invalidInstance "OID4VP query artifacts are required")
  let payload ← addQuery basis artifacts options (commonPayload basis now)
  return bindOrigins options payload

def requestPayload (basis : RequestBasis) (artifacts : Option PresentationRequestArtifacts)
    (options : RequestObjectOptions) (now : Utc) : Requested Json.Map := do
  let payload ← if basis.isSiop then .ok (siopPayload basis now)
    else presentationPayload basis artifacts options now
  return addWalletNonce options (addEncryption options basis.responseEncryption payload)

/-! ## The context -/

/-- The message that a request sends, as the context records it. -/
def presentationMessage (context : Json.Map) (basis : RequestBasis) (responseUri : Option String)
    (request : Json.Map) (messageId sentAt : String) : Value :=
  .object [("mip_version", .string mipVersion), ("message_type", .string "PresentationRequest"),
    ("message_id", .string messageId), ("correlation_id", .string basis.instanceId),
    ("timestamp", .string sentAt), ("sender_id", .string basis.clientId),
    ("nonce", .string basis.nonce),
    ("payload", .object [("client_id", .string basis.clientId),
      ("response_type", .string "vp_token"), ("nonce", .string basis.nonce),
      ("presentation_definition", (request.get "presentation_definition").getD .null),
      ("dcql_query", (request.get "dcql_query").getD .null),
      ("mip_flow_instance_id", .string basis.instanceId),
      ("mip_policy_id", (context.get "presentation_policy_id").getD .null),
      ("response_mode", (request.get "response_mode").getD .null),
      ("response_uri", .ofOption .string responseUri)]),
    ("signature", .null)]

def recordPresentationMessage (context : Json.Map) (basis : RequestBasis)
    (responseUri : Option String) (request : Json.Map) (messageId sentAt : String) :
    Requested Json.Map := do
  let message := presentationMessage context basis responseUri request messageId sentAt
  let messages ← okOr ((context.get "mip_messages").getD (.object [])).asObject
    (.invalidInstance "mip_messages must be an object")
  return context.insert "mip_messages" (.object (messages.insert "presentation_request" message))

/-- The entries of a request that is answered over a channel of its own. -/
def transportEntries (basis : RequestBasis) (options : RequestObjectOptions) : Json.Map :=
  if options.dcApi then
    [("oid4vp_client_id", .string basis.clientId), ("oid4vp_response_uri", .null),
      ("oid4vp_verifier_context", .bool true)]
  else
    [("oid4vp_client_id", .string basis.clientId),
      ("oid4vp_response_uri", .string basis.responseUri),
      ("oid4vp_expected_state", .string basis.instanceId),
      ("verification_audience", .string basis.clientId), ("oid4vp_verifier_context", .bool true)]

def encryptionEntries (basis : RequestBasis) (options : RequestObjectOptions) : Json.Map :=
  match basis.responseEncryption with
  | none => [("oid4vp_response_encryption_jwk", .null)]
  | some (publicJwk, keyReference) =>
      [("haip_response_encryption_public_jwk", publicJwk),
        ("haip_response_encryption_key_reference", .string keyReference),
        ("oid4vp_response_encryption_jwk", publicJwk)] ++
        if options.dcApi then
          [("dc_api_expected_origins", .ofStrings options.expectedOrigins),
            ("dc_api_protocol", .string "openid4vp-v1-signed"),
            ("dc_api_response_mode", .string "dc_api.jwt"), ("dc_api_jwe_alg", .string "ECDH-ES"),
            ("dc_api_jwe_enc", .string "A256GCM")]
        else
          [("haip_response_mode", .string "direct_post.jwt"), ("haip_jwe_alg", .string "ECDH-ES"),
            ("haip_jwe_enc", .string "A256GCM")]

/-- What a retrieval leaves in the context: what it inserts, and nothing that it removes. -/
def recordRequest (context : Json.Map) (basis : RequestBasis) (options : RequestObjectOptions)
    (payload : Json.Map) (messageId sentAt : String) : Requested Json.Map :=
  if basis.isSiop then .ok (context.insert "siop_client_id" (.string basis.clientId))
  else
    recordPresentationMessage
      ((context.extend (transportEntries basis options)).extend (encryptionEntries basis options))
      basis (if options.dcApi then none else some basis.responseUri) payload messageId sentAt

/-! ## A retrieval -/

structure RequestProviders where
  signingIdentity : Option SigningIdentityProvider
  flowKeyEnvelope : Option FlowKeyEnvelopeProvider

structure SignedRequestObject where
  instanceRecord : FlowInstanceRecord
  compactJwt : String
  clientId : String
  responseUri : String

section

variable (packages : RequestPackages)

/-- The identity that signs, and what it makes the client identifier. -/
def requestIdentity (provider : SigningIdentityProvider) (organizationId issuerDid : String) :
    Requested SigningIdentity := do
  let identity ← (provider.resolve organizationId issuerDid requestPurpose requestFormat
    (some requestAlgorithm)).mapError .provider
  (identity.validateBinding organizationId issuerDid requestPurpose requestFormat
    (some requestAlgorithm)).mapError .provider
  return identity

/-- The client identifier of a request, with the DID and the certificates of a presentation. -/
def requestClient (identity : SigningIdentity) (context : Json.Map) (base responseUri : String)
    (isSiop : Bool) (options : RequestObjectOptions) :
    Requested (String × Option String × Option (List String)) :=
  if isSiop then
    .ok ((options.verifierClientId.filter nonBlank).getD (base ++ "/verifier"), none, none)
  else do
    let resolved ← resolveOid4vpClientIdentity packages identity responseUri options
    validateExistingClientIdentity ((context.get "oid4vp_client_id").bind Json.Value.asStr)
      resolved.1 resolved.2.1 options.compatibility
    return (resolved.1, some resolved.2.1, resolved.2.2)

def requestBasis (providers : RequestProviders) (instanceRecord : FlowInstanceRecord)
    (context : Json.Map) (identity : SigningIdentity) (publicBaseUrl : String)
    (options : RequestObjectOptions) (now : Utc) : Requested RequestBasis := do
  let haip := (context.get "oid4vp_profile").bind Json.Value.asStr = some "haip"
  let isSiop := (context.get "flow_type").bind Json.Value.asStr = some "siop_v2"
  let base := Text.trimEndMatches publicBaseUrl '/'
  let responseUri := if isSiop then base ++ "/v1/flows/siop/submit"
    else base ++ "/v1/flows/instances/" ++ instanceRecord.id ++ "/submit"
  let client ← requestClient packages identity context base responseUri isSiop options
  let nonce ← okOr (((context.get "nonce").bind Json.Value.asStr).filter nonBlank)
    (.invalidInstance "nonce is required")
  let expiresAt ← okOr (instanceRecord.expiresAt.or (now.checkedAddSeconds (15 * 60)))
    .invalidClock
  rejectIf (options.dcApi ∧ isSiop)
    (.unsupportedProfile "Digital Credentials API does not support SIOP")
  rejectIf (options.dcApi ∧ options.expectedOrigins = [])
    (.invalidInstance "Digital Credentials API requires expected origins")
  let responseEncryption ← requestEncryption packages providers.flowKeyEnvelope instanceRecord
    (decide (¬ isSiop ∧ (haip ∨ (options.dcApi ∧ options.compatibility = .standard))))
  return ⟨instanceRecord.id, base, haip, isSiop, responseUri, client.1, client.2.1, client.2.2,
    nonce, expiresAt, responseEncryption⟩

/-- A part of a signed object. -/
def encodeDocument (document : Json.Map) : String :=
  Base64.encode base64Url (String.ofList (Json.Value.object document).write).toUTF8.toList

def signPayload (provider : SigningIdentityProvider) (operationId : String)
    (identity : SigningIdentity) (payload : Json.Map) (requestKid : Option String)
    (x5c : Option (List String)) : Requested String := do
  let header : Json.Map := match x5c.filter (· ≠ []) with
    | none => [("alg", .string requestAlgorithm),
        ("kid", .string (requestKid.getD identity.verificationMethodId)),
        ("typ", .string requestFormat)]
    | some x5c => [("alg", .string requestAlgorithm), ("typ", .string requestFormat),
        ("x5c", .ofStrings x5c)]
  let signingInput := encodeDocument header ++ "." ++ encodeDocument payload
  let request : SigningRequest := ⟨operationId, identity.organizationId, identity.issuerDid,
    identity.verificationMethodId, identity.signingKeyReference, requestPurpose, requestFormat,
    requestAlgorithm, Base64.encode base64Url signingInput.toUTF8.toList⟩
  let result ← (provider.sign request).mapError .provider
  (result.validateBinding request).mapError .provider
  return signingInput ++ "." ++ result.signatureRawB64url

/-- What is known before the signature: who signs, and what. -/
structure PreparedRequestObject where
  provider : SigningIdentityProvider
  identity : SigningIdentity
  context : Json.Map
  basis : RequestBasis
  payload : Json.Map
  requestKid : Option String

def prepareRequestObject (providers : RequestProviders) (instanceRecord : FlowInstanceRecord)
    (artifacts : Option PresentationRequestArtifacts) (publicBaseUrl : String)
    (options : RequestObjectOptions) (now : Utc) : Requested PreparedRequestObject := do
  let context ← contextObject instanceRecord
  rejectIf ((context.get "request_transport").bind Json.Value.asStr = some "url_query")
    (.unsupportedProfile "url_query has no request object")
  let issuerDid ← okOr (((context.get "oid4vp_issuer_did").bind Json.Value.asStr).filter
    (Text.startsWith · "did:")) (.invalidInstance "oid4vp_issuer_did is required")
  let provider ← okOr providers.signingIdentity (.provider (.unavailable "signing_identity"))
  let identity ← requestIdentity provider instanceRecord.organizationId issuerDid
  let basis ← requestBasis packages providers instanceRecord context identity publicBaseUrl
    options now
  let payload ← requestPayload basis artifacts options now
  let requestKid ← presentationKid identity basis.verifierDid options.verifierDidMethod
  return ⟨provider, identity, context, basis, payload, requestKid⟩

def buildProfiledRequestObject (providers : RequestProviders) (instanceRecord : FlowInstanceRecord)
    (artifacts : Option PresentationRequestArtifacts) (publicBaseUrl : String)
    (options : RequestObjectOptions) (messageId : String) (now : Utc) :
    Requested SignedRequestObject := do
  let prepared ← prepareRequestObject packages providers instanceRecord artifacts publicBaseUrl
    options now
  let compactJwt ← signPayload prepared.provider instanceRecord.id prepared.identity
    prepared.payload prepared.requestKid prepared.basis.requestX5c
  let context ← recordRequest prepared.context prepared.basis options prepared.payload messageId
    (packages.toRfc3339 now)
  return ⟨{ instanceRecord with context := .object context, updatedAt := now }, compactJwt,
    prepared.basis.clientId, prepared.basis.responseUri⟩

end

end Marty.Flow
