import PurIdentityServer.Lib.Prog
import PurIdentityServer.Lib.Interleave
import PurIdentityServer.Lib.Table
import PurIdentityServer.Lib.Dict
import PurIdentityServer.Lib.Fallible
import PurIdentityServer.Lib.Raising
import PurIdentityServer.Lib.Base64
import PurIdentityServer.Lib.Expiring
import PurIdentityServer.Lib.History
import PurIdentityServer.Lib.FormUrl
import PurIdentityServer.Lib.JsonText
import PurIdentityServer.Domain.Text
import PurIdentityServer.Domain.Json
import PurIdentityServer.Domain.Authorization
import PurIdentityServer.Domain.Federation
import PurIdentityServer.Domain.Ports
import PurIdentityServer.Infrastructure.Jwt
import PurIdentityServer.Infrastructure.ClientAssertions
import PurIdentityServer.Infrastructure.SignedRequestObject
import PurIdentityServer.Application.ClientAuth
import PurIdentityServer.Infrastructure.DpopProof
import PurIdentityServer.Application.Resources
import PurIdentityServer.Application.IdToken
import PurIdentityServer.Application.IssuedIdTokens
import PurIdentityServer.Infrastructure.Tokens
import PurIdentityServer.Infrastructure.Settings
import PurIdentityServer.Infrastructure.Keys
import PurIdentityServer.Infrastructure.Secrets
import PurIdentityServer.Application.Jwks
import PurIdentityServer.Application.Token
import PurIdentityServer.Application.TokenTypes
import PurIdentityServer.Application.ResourceAccess
import PurIdentityServer.Application.TokenAcceptance
import PurIdentityServer.Application.Revocation
import PurIdentityServer.Application.ClientEndpoints
import PurIdentityServer.Application.TokenCalls
import PurIdentityServer.Application.Authorize
import PurIdentityServer.Application.AuthorizeCalls
import PurIdentityServer.Application.Decisions
import PurIdentityServer.Application.BackchannelAuthorize
import PurIdentityServer.Application.SenderConstraint
import PurIdentityServer.Application.FailedRequests
import PurIdentityServer.Application.Federation
import PurIdentityServer.Application.TrustChains
import PurIdentityServer.Application.MetadataPolicies
import PurIdentityServer.Application.RequestObject
import PurIdentityServer.Application.RequestObjectBinding
import PurIdentityServer.Application.FederatedRequestObjects
import PurIdentityServer.Application.Par
import PurIdentityServer.Infrastructure.PushedRows
import PurIdentityServer.Application.PushedRequests
import PurIdentityServer.Concurrency.Traffic
import PurIdentityServer.Concurrency.Sessions
import PurIdentityServer.Concurrency.SingleUse
import PurIdentityServer.Concurrency.SessionIssuance
import PurIdentityServer.Concurrency.RefreshChain
import PurIdentityServer.Concurrency.CodeReplay
import PurIdentityServer.Concurrency.GrantPreservation
import PurIdentityServer.Concurrency.DpopReplay
import PurIdentityServer.Concurrency.CibaLifetime
import PurIdentityServer.Concurrency.CodeGates
import PurIdentityServer.Interfaces.AuthorizeResponse
import PurIdentityServer.Application.Consent
import PurIdentityServer.Interfaces.Authorize
import PurIdentityServer.Interfaces.ConsentPage
import PurIdentityServer.Interfaces.AuthorizeGates
import PurIdentityServer.Concurrency.PushedSingleUse
import PurIdentityServer.Interfaces.FreshAuthentication
import PurIdentityServer.Infrastructure.GrantStores
import PurIdentityServer.Infrastructure.ClientStores
import PurIdentityServer.Infrastructure.RegistrationCipher
import PurIdentityServer.Application.CorsOrigins
import PurIdentityServer.Concurrency.Consents
import PurIdentityServer.Interfaces.ConsentGate
import PurIdentityServer.Infrastructure.Mdoc
import PurIdentityServer.Application.MdocIssuance
import PurIdentityServer.Infrastructure.OpenID20Identifiers
import PurIdentityServer.Concurrency.OpenID20Provider
import PurIdentityServer.Domain.PasswordPolicy
import PurIdentityServer.Application.Accounts
import PurIdentityServer.Application.RegistrationOutcomes
import PurIdentityServer.Application.AuthorizeOutcomes
import PurIdentityServer.Application.AuthorizeTotality
import PurIdentityServer.Application.Logout
import PurIdentityServer.Interfaces.EndSession
import PurIdentityServer.Application.CredentialIssuance
import PurIdentityServer.Concurrency.CredentialOffers
import PurIdentityServer.Domain.StatementParsing
import PurIdentityServer.Infrastructure.DpopTotality
import PurIdentityServer.Lib.Walk
import PurIdentityServer.Application.TrustChainTermination
import PurIdentityServer.Application.RequestObjectTimes
import PurIdentityServer.Infrastructure.JweRoundTrip
import PurIdentityServer.Application.IdTokenEncryption
import PurIdentityServer.Infrastructure.JweTotality
import PurIdentityServer.Application.RegisteredKeys
import PurIdentityServer.Domain.PasswordRuns
import PurIdentityServer.Application.ResourceFolding
import PurIdentityServer.Application.OpenID20Handles
import PurIdentityServer.Domain.EventOrigins
import PurIdentityServer.Application.SessionManagement
import PurIdentityServer.Infrastructure.HtuMatching
import PurIdentityServer.Application.ActiveKeys
import PurIdentityServer.Infrastructure.EmbeddedKeys
import PurIdentityServer.Application.PresentationResponses
import PurIdentityServer.Application.KeyAttestation
import PurIdentityServer.Infrastructure.Bearer
import PurIdentityServer.Domain.IdentityAssurance
import PurIdentityServer.Application.VerifiedClaims
import PurIdentityServer.Application.DeferredClaims
import PurIdentityServer.Application.ClaimRestrictions
import PurIdentityServer.Application.ClaimResponses
import PurIdentityServer.Application.RegisteredSigningKeys
import PurIdentityServer.Application.UserInfo
import PurIdentityServer.Interfaces.SessionUserInfo
import PurIdentityServer.Application.DeviceAuthorize
import PurIdentityServer.Concurrency.DeviceAttribution
import PurIdentityServer.Lib.Html
import PurIdentityServer.Interfaces.ResponsePages
import PurIdentityServer.Interfaces.ConsentForm
import PurIdentityServer.Lib.BigEndian
import PurIdentityServer.Interfaces.PublishedKeys
import PurIdentityServer.Concurrency.DpopBinding
