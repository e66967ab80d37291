import PurIdentityServer.Domain.IdentityAssurance
import PurIdentityServer.Application.IdToken

/-!
# VerifiedClaims — resolving a request of verified claims

A relying party asks for verified claims in the `claims` parameter, in the
location that is to serve them. The request is resolved against the profile
the end-user has in the store: nothing is served under a trust framework or
an assurance level that is not accepted, and a claim whose demanded value is
not met is left out.
-/

namespace PurIdentityServer

open Effects IdentityAssurance

/-! ## Resolving a request -/

/-- `IdentityAssuranceUseCase`, with the claims of the end-users. -/
structure IdentityAssuranceUseCase where
  platform : Platform
  /-- `claims_provider.get_claims(subject).claims`, `none` without a provider -/
  claims : Option ((subject : String) → Raising Members)

/-- `_profile_of` -/
def profileOf (p : Platform) (claims : Members) : Option VerifiedClaims :=
  match claims.get verifiedClaimsMember with
  | none | some .null => none
  | some raw => (parseVerifiedClaims p raw).toOption

/-- The claim is not the one a request demands. -/
def misses (demanded : Option String) (value : Json) : Bool :=
  match demanded, value with
  | none, _ => false
  | some demanded, .str value => demanded != value
  | some _, _ => true

/-- One claim of the loop of `_selected_claims`. -/
def selectClaim (profile : VerifiedClaims) (request : VerifiedClaimsRequest) (selected : Members)
    (name : String) : Members :=
  match profile.claims.get name with
  | none => selected
  | some value =>
      if misses (Dict.get request.claimValues name) value then selected
      else Json.setMember selected name value

/-- `_selected_claims` -/
def selectedClaims (profile : VerifiedClaims) (request : VerifiedClaimsRequest) : Members :=
  request.claimNames.foldl (selectClaim profile request) []

/-- `resolve`, for a profile that is there. -/
def served (profile : VerifiedClaims) (request : VerifiedClaimsRequest) : Option Members :=
  if !request.acceptsTrustFramework profile.trustFramework then none
  else if !request.acceptsAssuranceLevel profile.assuranceLevel then none
  else some (Json.setMember profile.toPayload "claims" (.obj (selectedClaims profile request)))

namespace IdentityAssuranceUseCase

/-- `resolve` -/
def resolve (u : IdentityAssuranceUseCase) (request : VerifiedClaimsRequest) (subject : String) :
    Raising (Option Members) :=
  match u.claims with
  | none => .ok none
  | some getClaims =>
      if subject = "" then .ok none
      else (getClaims subject).map fun claims =>
        (profileOf u.platform claims).bind fun profile => served profile request

end IdentityAssuranceUseCase

/-! ## Reading a request -/

/-- The locations of the `claims` parameter. -/
inductive ClaimsLocation where
  | idToken | userinfo
  deriving DecidableEq, Repr

def ClaimsRequest.raw (request : ClaimsRequest) : ClaimsLocation → Members
  | .idToken => request.rawIdToken
  | .userinfo => request.rawUserinfo

/-- `verified_claims_request` -/
def verifiedClaimsRequest (p : Platform) (claimsRequest : ClaimsRequest)
    (location : ClaimsLocation) : Option VerifiedClaimsRequest :=
  match Dict.get (claimsRequest.raw location) verifiedClaimsMember with
  | none => none
  | some member => (parseVerifiedClaimsRequest p member).toOption

/-- `VERIFIED_CLAIMS_REQUEST_KEY` -/
def verifiedClaimsRequestKey : String := "verified_claims_request"

/-- `verified_claims_request_from_payload` -/
def verifiedClaimsRequestFromPayload (p : Platform) (payload : Option Json) :
    Option VerifiedClaimsRequest :=
  match payload with
  | some (.obj members) =>
      match Dict.get members verifiedClaimsRequestKey with
      | none => none
      | some member => (parseVerifiedClaimsRequest p member).toOption
  | _ => none

theorem requestFromPayload_eq (p : Platform) (payload : Option Json) :
    verifiedClaimsRequestFromPayload p payload =
      ((payload.bind Json.asMembers).bind fun members =>
        Dict.get members verifiedClaimsRequestKey).bind
          fun member => (parseVerifiedClaimsRequest p member).toOption := by
  unfold verifiedClaimsRequestFromPayload
  cases payload with
  | none => rfl
  | some value =>
      cases value with
      | obj members =>
          simp only [Option.bind_some, Json.asMembers]
          cases Dict.get members verifiedClaimsRequestKey <;> rfl
      | null | bool | num | str | arr => rfl

theorem verifiedClaimsRequest_eq (p : Platform) (claimsRequest : ClaimsRequest)
    (location : ClaimsLocation) :
    verifiedClaimsRequest p claimsRequest location =
      (Dict.get (claimsRequest.raw location) verifiedClaimsMember).bind
        fun member => (parseVerifiedClaimsRequest p member).toOption := by
  unfold verifiedClaimsRequest
  cases Dict.get (claimsRequest.raw location) verifiedClaimsMember <;> rfl

/-- `_verified_claims` of the token endpoint: the direct evaluation of a request. -/
def verifiedClaimsOf (identityAssurance : Option IdentityAssuranceUseCase)
    (claimsRequest : ClaimsRequest) (location : ClaimsLocation) (subject : String) :
    Raising (Option Members) :=
  match identityAssurance with
  | none => .ok none
  | some u =>
      match verifiedClaimsRequest u.platform claimsRequest location with
      | none => .ok none
      | some request => u.resolve request subject

/-- `UserInfoUseCase`, with what it resolves verified claims by. -/
structure UserInfoUseCase where
  identityAssurance : Option IdentityAssuranceUseCase

/-- `_verified_claims` of the userinfo endpoint, from the claims of an access token. -/
def UserInfoUseCase.verifiedClaims (u : UserInfoUseCase) (claims : Members) (subject : String) :
    Raising (Option Members) :=
  match u.identityAssurance with
  | none => .ok none
  | some assurance =>
      match verifiedClaimsRequestFromPayload assurance.platform (claims.get "claims") with
      | none => .ok none
      | some request => assurance.resolve request subject

end PurIdentityServer
