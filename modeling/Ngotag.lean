import Ngotag.Activations
import Ngotag.AddressBlocks
import Ngotag.AdmissionRuns
import Ngotag.AdvertisedCalls
import Ngotag.AgentFailures
import Ngotag.AgentPorts
import Ngotag.AgentTokens
import Ngotag.BatchCompletion
import Ngotag.BhutanConvergence
import Ngotag.BhutanTables
import Ngotag.BitmapAllocator
import Ngotag.Cancellation
import Ngotag.CertificateWindows
import Ngotag.DidMethods
import Ngotag.DisclosureFrames
import Ngotag.DuplicateDetection
import Ngotag.EcosystemAccess
import Ngotag.EcosystemAgreement
import Ngotag.EcosystemCreation
import Ngotag.EcosystemRolesGuard
import Ngotag.ExchangeProofs
import Ngotag.ExchangeUsage
import Ngotag.FinalStatus
import Ngotag.HolderNotifications
import Ngotag.IndexUniqueness
import Ngotag.IndyRequests
import Ngotag.IntentTemplates
import Ngotag.InvitationMails
import Ngotag.KeycloakUsers
import Ngotag.LastWrite
import Ngotag.LedgerAlerts
import Ngotag.LogoutFinal
import Ngotag.MarketplacePrivacy
import Ngotag.OfferSettling
import Ngotag.OrgDeletion
import Ngotag.OrgInvitations
import Ngotag.OrphanTenants
import Ngotag.PasskeyLogin
import Ngotag.PasswordReset
import Ngotag.PayloadValidation
import Ngotag.PermitCap
import Ngotag.PlanConvergence
import Ngotag.PlanQuotas
import Ngotag.PrimaryDid
import Ngotag.PrimaryIssuer
import Ngotag.ProvisionCommand
import Ngotag.ProvisioningCleanup
import Ngotag.RedirectUris
import Ngotag.RequiredColumns
import Ngotag.RoleReplacement
import Ngotag.RowGuard
import Ngotag.SchemaBuilder
import Ngotag.SessionLimit
import Ngotag.SessionOwners
import Ngotag.TemplateCompensation
import Ngotag.TenantIsolation
import Ngotag.ThrownRow
import Ngotag.UsageExpiry
import Ngotag.UsageRecomputation
import Ngotag.WalletPlacement
import Ngotag.WebDids
import Ngotag.Webhooks
