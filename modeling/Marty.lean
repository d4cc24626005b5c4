import Marty.Flow.CallbackDelivery
import Marty.Flow.DefinitionEdits
import Marty.Flow.Evidence
import Marty.Flow.Histories
import Marty.Flow.PhysicalStarts
import Marty.Flow.Projection
import Marty.Issuance.TokenExchange
import Marty.Oid4vp.Determinacy
import Marty.Oid4vp.Soundness
import Marty.Revocation.Ledger
import Marty.Revocation.Reservation
import Marty.Revocation.Rollout
import Marty.Revocation.StatusList
import Marty.Revocation.StatusRepository
import Marty.SigningKeys.CscaPermanence
import Marty.SigningKeys.DscIssuanceRuns
import Marty.SigningKeys.MdocCrl
import Marty.SigningKeys.RegistryEtags
import Marty.Lib.Table
import Marty.Issuance.CanvasSyncWorker
import Marty.Issuance.CanvasSyncRuns
import Marty.Issuance.DidcommDeliveryRuns
import Marty.Lib.Log
import Marty.Notification.Webhooks
import Marty.Notification.WebhookUpdates
import Marty.Notification.Outbox
import Marty.Notification.Delivery
import Marty.Notification.OutboxWorkers
import Marty.Notification.OutboxRuns
import Marty.Lib.JsonProjection
import Marty.Lib.Expiring
import Marty.Verification.Sessions
import Marty.Verification.SessionStore
import Marty.Verification.SessionChanges
import Marty.Verification.Submissions
import Marty.Verification.Lifetimes
import Marty.Lib.StepProgram
import Marty.Installer.PurgeRuns
import Marty.Lib.Unicode
import Marty.ResponseText.PythonText
import Marty.ResponseText.Utf7
import Marty.ResponseText.Utf7Codec
import Marty.ResponseText.UnicodeUnits
import Marty.ResponseText.Multibyte
import Marty.Issuance.TokenRateLimit
import Marty.Issuance.PythonFormat
import Marty.Lib.Channel
import Marty.EventStream.Bus
import Marty.Devices.HolderCredentials
import Marty.EventStream.Delivery
import Marty.Devices.CredentialCalls
import Marty.Devices.CredentialRotation
import Marty.Devices.HolderKeys
import Marty.Devices.HolderKeyCalls
import Marty.Devices.HolderKeyCustody
import Marty.SigningGrant.Grants
import Marty.SigningGrant.SingleUse
import Marty.Flow.CallbackAttempts
import Marty.Oid4vp.Normalization
import Marty.Oid4vp.Monotone
import Marty.ResponseText.TextSemantics
import Marty.ResponseText.PythonLiteral
import Marty.ResponseText.PythonValue
import Marty.Issuance.NamedFormat
import Marty.ResponseText.JsonBytes
import Marty.Flow.RequestObject
import Marty.Flow.VerificationSubmission
import Marty.Flow.RequestRetrievals
import Marty.ResponseText.ContentType
import Marty.Flow.PublicProjection
import Marty.Lib.Substitution
import Marty.Notification.Templates
import Marty.Issuance.ClaimCollection
import Marty.Issuance.PassportGroups
import Marty.Lib.JsonViews
import Marty.Verification.Records
import Marty.Lib.Markers
import Marty.DeploymentCatalog.CaBundle
import Marty.DeploymentCatalog.Generations
import Marty.DeploymentCatalog.Ceremonies
import Marty.SigningKeys.KeyReferences
import Marty.Flow.DefinitionGraphs
import Marty.Flow.Fingerprint
import Marty.Lib.Worklist
import Marty.ResponseText.JsonTree
import Marty.ResponseText.WrittenJson
import Marty.Lib.BlockChaining
import Marty.DidcommAuthcrypt.RawUrl
import Marty.DidcommAuthcrypt.GoText
import Marty.DidcommAuthcrypt.HeaderJson
import Marty.KeyMaterial.Policy
import Marty.DidcommAuthcrypt.Direct
import Marty.ResponseText.ContentFields
import Marty.ResponseText.Continuations
import Marty.Issuance.CredentialIssuance
import Marty.Issuance.CredentialIssuanceRuns
import Marty.Issuance.CredentialStatus
import Marty.Issuance.CredentialStatusRuns
import Marty.Flow.VerificationStore
import Marty.Flow.VerificationEnds
import Marty.Lib.RowLocks
import Marty.Organization.PolicySets
import Marty.Organization.PolicySetRuns
