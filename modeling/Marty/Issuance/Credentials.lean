import Marty.Lib.Json
import Marty.Lib.Time

/-!
# Issuance transactions and the credentials they issue

The records that the issuance of a credential reads and passes on.  Identifiers that are
derived from a name are UUIDs of version five, and how such a name is hashed is a parameter.

## Main definitions

* `CredentialTransaction`, `IssuedCredential` — the records.
* `reservedCredentialId` — the identifier that a transaction issues its credential under.
* `deliveryRecordId` — the identifier of a delivery of a credential to a target.
-/

namespace Marty.Issuance

open Lib

inductive CredentialTransactionStatus
  | pending
  | authorized
  | signing
  | issued
  | failed
  | expired
  | revoked
  deriving DecidableEq, Repr

structure CredentialTransaction where
  id : String
  organizationId : String
  credentialTemplateId : String
  revocationProfileId : Option String
  renewalOfCredentialId : Option String
  applicantId : Option String
  applicationId : Option String
  subjectDid : Option String
  status : CredentialTransactionStatus
  claims : Json.Map
  credentialType : Option String
  deliveryMode : String
  reservedCredentialId : Option String
  deriving DecidableEq

structure IssuedCredential where
  id : String
  transactionId : String
  organizationId : String
  credentialTemplateId : String
  applicantId : Option String
  subjectDid : Option String
  issuerDid : String
  revocationProfileId : Option String
  renewedFromCredentialId : Option String
  statusListEntries : List Json.Value
  credential : String
  credentialHash : String
  issuedAt : DateTime
  expiresAt : DateTime
  deriving DecidableEq

section

-- the text of the UUID of version five that a name has in the URL namespace
variable (uuidV5 : String → String)

/-- The identifier that a transaction has reserved, the one that its document names, or one
derived from the transaction. -/
def reservedCredentialId (transaction : CredentialTransaction) : String :=
  ((transaction.reservedCredentialId.or
    ((((transaction.claims.get "_credential_document").bind Json.Value.asObject).bind
      (Json.Map.get · "id")).bind Json.Value.asStr)).getD
    ("urn:uuid:" ++ uuidV5 ("marty:issuance:" ++ transaction.id)))

def deliveryRecordId (credentialId target : String) (scopeId : Option String) : String :=
  uuidV5 (credentialId ++ ":" ++ target ++ ":" ++ scopeId.getD "-")

end

end Marty.Issuance
