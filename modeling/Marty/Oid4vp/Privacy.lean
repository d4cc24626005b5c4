import Marty.Oid4vp.Decision
import Marty.Lib.Base64

/-!
# Wallet material in projected evidence

A projection is refused when it holds a wallet token, in plain text or under a few layers
of percent and Base64 encoding, in one string or split over several claims.

## Main definitions

* `sensitiveTokenPatterns` — the tokens and their encodings.
* `normalizedValueIsForbidden` — the search through the decodings of a value.
* `Oid4vpEvidenceProjectionV1.validatePrivacy`,
  `Oid4vpEvidenceProjectionV1.validateAgainstAt`.
-/

namespace Marty.Oid4vp

open Lib Lib.Checked

variable (packages : Packages)

/-! ## Encodings -/

/-- `STANDARD`, `STANDARD_NO_PAD`, `URL_SAFE` and `URL_SAFE_NO_PAD`. -/
def base64Engines : List Base64.Engine :=
  [⟨false, true⟩, ⟨false, false⟩, ⟨true, true⟩, ⟨true, false⟩]

def encodeBase64Variants (value : String) : List String :=
  base64Engines.map fun engine => Base64.encode engine value.toUTF8.data.toList

def withinFragment (pattern : String) : Bool := pattern.utf8ByteSize ≤ maxPrivacyFragmentBytes

/-- The patterns so far, and those of the last layer, under one more layer of Base64. -/
def encodeLayer (layers : TextSet × TextSet) : TextSet × TextSet :=
  let next := ((BTreeSet.toList layers.2).flatMap encodeBase64Variants).filter withinFragment
  (next.foldl BTreeSet.insert layers.1, BTreeSet.ofList next)

/-- One layer more than the accepted budget is frozen as well. -/
def sensitiveTokenPatterns (rawTokens : List String) : List String :=
  let patterns := BTreeSet.ofList (rawTokens.filter withinFragment)
  BTreeSet.toList (encodeLayer^[maxPrivacyBase64DecodeLayers + 1] (patterns, patterns)).1

def decodePercentUtf8 (value : String) : Option String := do
  let decoded ← packages.percentDecodeUtf8 value
  if decoded ≠ value then some decoded else none

def decodeBase64Utf8 (value : String) (engine : Base64.Engine) : Option String := do
  let bytes ← Base64.decode engine value
  String.fromUTF8? bytes.toByteArray

def decodeBase64Utf8Variants (value : String) (inspectShortKey : Bool) : List String :=
  if value.utf8ByteSize < (if inspectShortKey then 4 else minTokenBytes) then []
  else sortDedup (base64Engines.filterMap (decodeBase64Utf8 value))

/-! ## Forbidden texts -/

def forbiddenKeys : List String :=
  ["presentationsubmission", "rawcredential", "rawtoken", "vptoken"]

def isAsciiAlphanumeric (c : Char) : Bool :=
  let n := c.toNat
  (48 ≤ n && n ≤ 57) || (65 ≤ n && n ≤ 90) || (97 ≤ n && n ≤ 122)

def isForbiddenKey (value : String) : Bool :=
  let normalized := (value.toList.filter isAsciiAlphanumeric).map Text.asciiLower
  forbiddenKeys.any fun forbidden => Text.containsChars forbidden.toList normalized

/-- A text that must not be projected as it stands. -/
def isSensitive (sensitivePatterns : List String) (inspectForbiddenKey : Bool)
    (value : String) : Bool :=
  sensitivePatterns.any (fun pattern => Text.contains value pattern) ||
    (inspectForbiddenKey && isForbiddenKey value)

/-! ## The search -/

structure NormalizationState where
  value : String
  percentSteps : Nat
  base64Steps : Nat
  totalSteps : Nat
  deriving DecidableEq, Repr

def NormalizationState.initial (value : String) : NormalizationState := ⟨value, 0, 0, 0⟩

def NormalizationState.percentStep (state : NormalizationState) (decoded : String) :
    NormalizationState :=
  ⟨decoded, state.percentSteps + 1, state.base64Steps, state.totalSteps + 1⟩

def NormalizationState.base64Step (state : NormalizationState) (decoded : String) :
    NormalizationState :=
  ⟨decoded, state.percentSteps, state.base64Steps + 1, state.totalSteps + 1⟩

section

variable (sensitivePatterns : List String) (inspectForbiddenKey : Bool)
  (maxNormalizedBytes : Nat)

/-- The states one decoding away. -/
def successors (state : NormalizationState) : List NormalizationState :=
  (decodePercentUtf8 packages state.value).toList.map state.percentStep ++
    (decodeBase64Utf8Variants state.value inspectForbiddenKey).map state.base64Step

/-- A decoding is possible, but the budget for it is spent. -/
def overBudget (state : NormalizationState) : Bool :=
  ((decodePercentUtf8 packages state.value).isSome &&
      (state.percentSteps == maxPrivacyPercentDecodeLayers ||
        state.totalSteps == maxPrivacyNormalizationSteps)) ||
    (!(decodeBase64Utf8Variants state.value inspectForbiddenKey).isEmpty &&
      (state.base64Steps == maxPrivacyBase64DecodeLayers ||
        state.totalSteps == maxPrivacyNormalizationSteps))

/-- Put the new states on the stack; nothing when one is too long or there are too many. -/
def pushStates : List NormalizationState → List NormalizationState × List NormalizationState →
    Option (List NormalizationState × List NormalizationState)
  | [], search => some search
  | next :: states, (pending, seen) =>
      if maxNormalizedBytes < next.value.utf8ByteSize then none
      else if next ∈ seen then pushStates states (pending, seen)
      else if maxPrivacyNormalizationStates < seen.length + 1 then none
      else pushStates states (next :: pending, next :: seen)

/-- The search with a bound on its steps: `none` when the bound is reached. -/
def normalizationSearch : Nat → List NormalizationState × List NormalizationState → Option Bool
  | _, ([], _) => some false
  | 0, _ => none
  | fuel + 1, (state :: pending, seen) =>
      if isSensitive sensitivePatterns inspectForbiddenKey state.value then some true
      else if overBudget packages inspectForbiddenKey state then some true
      else
        match pushStates maxNormalizedBytes (successors packages inspectForbiddenKey state)
            (pending, seen) with
        | none => some true
        | some search => normalizationSearch fuel search

/-- Every state is taken from the stack once, so that this many steps are enough. -/
def normalizedValueIsForbidden (value : String) : Bool :=
  let initial := NormalizationState.initial value
  (normalizationSearch packages sensitivePatterns inspectForbiddenKey maxNormalizedBytes
    (maxPrivacyNormalizationStates + 1) ([initial], [initial])).getD true

end

/-! ## Values and fragments -/

section

variable (sensitivePatterns : List String)

mutual

def containsSensitiveString : Value → Bool
  | .string value =>
      normalizedValueIsForbidden packages sensitivePatterns false maxPrivacyNormalizedBytes value
  | .array items => itemsContainSensitive items
  | .object entries => entriesContainSensitive entries
  | _ => false

def itemsContainSensitive : List Value → Bool
  | [] => false
  | item :: items => containsSensitiveString item || itemsContainSensitive items

def entriesContainSensitive : List (String × Value) → Bool
  | [] => false
  | (key, value) :: entries =>
      normalizedValueIsForbidden packages sensitivePatterns true maxPrivacyNormalizedBytes key ||
        containsSensitiveString value || entriesContainSensitive entries

end

end

/-- The texts of the claims put together, and the number of parts they were made of. -/
structure Fragments where
  values : String
  keys : String
  parts : Nat

def appendPrivacyFragment (target value : String) (parts : Nat) : Option (String × Nat) :=
  if parts + 1 ≤ maxPrivacyFragmentParts ∧
      target.utf8ByteSize + value.utf8ByteSize ≤ maxPrivacyFragmentBytes then
    some (target ++ value, parts + 1)
  else none

def Fragments.addValue (found : Fragments) (value : String) : Option Fragments :=
  (appendPrivacyFragment found.values value found.parts).map fun r =>
    { found with values := r.1, parts := r.2 }

def Fragments.addKey (found : Fragments) (key : String) : Option Fragments :=
  (appendPrivacyFragment found.keys key found.parts).map fun r =>
    { found with keys := r.1, parts := r.2 }

mutual

def collectClaimFragments : Value → Fragments → Option Fragments
  | .string value, found => found.addValue value
  | .array items, found => collectItemFragments items found
  | .object entries, found => collectEntryFragments entries found
  | _, found => some found

def collectItemFragments : List Value → Fragments → Option Fragments
  | [], found => some found
  | item :: items, found => (collectClaimFragments item found).bind (collectItemFragments items)

def collectEntryFragments : List (String × Value) → Fragments → Option Fragments
  | [], found => some found
  | (key, value) :: entries, found =>
      (found.addKey key).bind fun found =>
        (collectClaimFragments value found).bind (collectEntryFragments entries)

end

/-- A claim is a part of its own before the texts within it. -/
def fragmentedClaimMaterialIsForbidden (projection : Oid4vpEvidenceProjectionV1)
    (sensitivePatterns : List String) : Bool :=
  match collectEntryFragments (projection.credentials.flatMap (·.claims.entries)) ⟨"", "", 0⟩ with
  | none => true
  | some found =>
      normalizedValueIsForbidden packages sensitivePatterns false maxPrivacyFragmentBytes
          found.values ||
        normalizedValueIsForbidden packages sensitivePatterns true maxPrivacyFragmentBytes
          found.keys

def Oid4vpEvidenceProjectionV1.validatePrivacy (projection : Oid4vpEvidenceProjectionV1)
    (submission : WalletSubmissionV1) : Validated Unit :=
  let sensitivePatterns := sensitiveTokenPatterns submission.rawTokens
  rejectIf (containsSensitiveString packages sensitivePatterns projection.toValue ∨
      fragmentedClaimMaterialIsForbidden packages projection sensitivePatterns)
    .privacyViolation

/-! ## The whole projection -/

def Oid4vpEvidenceProjectionV1.validateAgainstAt (projection : Oid4vpEvidenceProjectionV1)
    (request : FrozenOid4vpRequestV1) (submission : WalletSubmissionV1) (now : Int) :
    Validated Unit := do
  validateSerializedSize projection.toValue maxEvidenceProjectionBytes "evidence_projection"
  request.validateSubmissionAt packages submission now
  let requestDigest ← digestFrozenRequest packages request
  let responseDigest ← digestWalletSubmission packages submission
  rejectIf (projection.requestDigest ≠ requestDigest) .requestDigestMismatch
  rejectIf (projection.responseDigest ≠ responseDigest) .responseDigestMismatch
  validateDigest projection.requestDigest "request_digest"
  validateDigest projection.responseDigest "response_digest"
  projection.validateSupportingFacts request now
  let state ← projection.validateCredentials packages request submission now
  projection.validateBindings packages request now
  projection.validateVerdict request state now
  projection.validatePrivacy packages submission

end Marty.Oid4vp
