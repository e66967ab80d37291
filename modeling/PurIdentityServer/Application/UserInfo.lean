import PurIdentityServer.Application.ClaimResponses
import PurIdentityServer.Application.SenderConstraint
import PurIdentityServer.Application.TokenAcceptance

/-!
# UserInfo — the claims an access token gives access to

`/userinfo` reads five claims of an access token: the end-user (`sub`), the
client and what its subject is derived from (`client_id`,
`subject_material`), the granted scope, and the names the `claims` parameter
asked for. `Warrants` gathers what the two issuers put there, and
`get_response` says claim by claim what is served for it.
-/

namespace PurIdentityServer

open Effects

/-! ## The words of a scope -/

namespace Text

/-- A text `split` gives back: it is not empty and has no space in it. -/
structure Word (s : String) : Prop where
  nonempty : s ≠ ""
  unspaced : ∀ c ∈ s.toList, isSpace c = false

theorem words_append {word rest acc : List Char} (h : ∀ c ∈ word, isSpace c = false) :
    words (word ++ rest) acc = words rest (word.reverse ++ acc) := by
  induction word generalizing acc with
  | nil => rfl
  | cons c cs ih =>
      have hc : isSpace c = false := h c List.mem_cons_self
      rw [List.cons_append, words, hc, if_neg Bool.false_ne_true,
        ih fun d hd => h d (List.mem_cons_of_mem c hd), List.reverse_cons, List.append_assoc]
      rfl

theorem words_of_word {s : String} (h : Word s) (rest : List Char) :
    words (s.toList ++ ' ' :: rest) [] = s :: words rest [] := by
  rw [words_append h.unspaced, List.append_nil, words]
  have hspace : isSpace ' ' = true := by decide
  have hne : s.toList.reverse.isEmpty = false := by
    simpa using h.nonempty
  rw [if_pos hspace, hne, if_neg Bool.false_ne_true, List.reverse_reverse, String.ofList_toList]

theorem split_word {s : String} (h : Word s) : split s = [s] := by
  unfold split
  have happend : words (s.toList ++ []) [] = words [] (s.toList.reverse ++ []) :=
    words_append h.unspaced
  rw [List.append_nil] at happend
  have hne : s.toList.reverse.isEmpty = false := by
    simpa using h.nonempty
  rw [happend, List.append_nil, words, hne, if_neg Bool.false_ne_true, List.reverse_reverse,
    String.ofList_toList]

/-- The words of a text that joins words. -/
theorem split_join {names : List String} (h : ∀ name ∈ names, Word name) :
    split (join " " names) = names := by
  induction names with
  | nil => rfl
  | cons name rest ih =>
      have hname := h name List.mem_cons_self
      have hrest := ih fun other hother => h other (List.mem_cons_of_mem name hother)
      cases rest with
      | nil => exact split_word hname
      | cons next others =>
          have hsep : (" " : String).toList = [' '] := rfl
          unfold split at hrest ⊢
          rw [join, String.toList_append, String.toList_append, hsep, List.append_assoc,
            List.singleton_append, words_of_word hname, hrest]

theorem word_of_mem_words {cs acc : List Char} {s : String} (hacc : ∀ c ∈ acc, isSpace c = false)
    (h : s ∈ words cs acc) : Word s := by
  have hword : ∀ {w : List Char}, (∀ c ∈ w, isSpace c = false) → w.isEmpty = false →
      Word (String.ofList w.reverse) := by
    intro w hw hne
    refine ⟨?_, ?_⟩
    · intro hempty
      have hlist := congrArg String.toList hempty
      simp only [String.toList_ofList] at hlist
      rw [List.reverse_eq_nil_iff.mp hlist] at hne
      cases hne
    · intro c hc
      simp only [String.toList_ofList, List.mem_reverse] at hc
      exact hw c hc
  induction cs generalizing acc with
  | nil =>
      unfold words at h
      split at h
      · cases h
      · rename_i hne
        cases List.mem_singleton.mp h
        exact hword hacc (by simpa using hne)
  | cons c cs ih =>
      unfold words at h
      by_cases hc : isSpace c = true
      · rw [if_pos hc] at h
        split at h
        · exact ih (by simp) h
        · rename_i hne
          rcases List.mem_cons.mp h with rfl | h
          · exact hword hacc (by simpa using hne)
          · exact ih (by simp) h
      · rw [if_neg hc] at h
        refine ih ?_ h
        intro d hd
        rcases List.mem_cons.mp hd with rfl | hd
        · simpa using hc
        · exact hacc d hd

theorem word_of_mem_split {s value : String} (h : s ∈ split value) : Word s :=
  word_of_mem_words (by simp) h

end Text

/-- The scopes of a token are read back from its `scope` claim. -/
theorem split_scopeClaim {scopes : Finset Scope} (h : ∀ scope ∈ scopes, Text.Word scope) :
    (Text.split (Text.join " " (Text.sorted scopes))).toFinset = scopes := by
  have hsorted : ∀ name ∈ Text.sorted scopes, Text.Word name := by
    intro name hname
    exact h name ((Finset.mem_sort _).mp hname)
  rw [Text.split_join hsorted]
  exact Finset.sort_toFinset scopes _

theorem words_of_fromSpaceSeparated {value : String} {scope : Scope}
    (h : scope ∈ Scope.fromSpaceSeparated value) : Text.Word scope :=
  Text.word_of_mem_split (List.mem_toFinset.mp h)

/-- The claims of a scope are `sub` and those of the resources it names. -/
theorem mem_scopeClaims {resources : List IdentityResource} {scope name : String} :
    name ∈ scopeClaims resources scope ↔
      name = "sub" ∨ ∃ resource ∈ resources, resource.name ∈ Text.split scope ∧
        name ∈ resource.userClaims := by
  unfold scopeClaims
  have hfold : ∀ (allowed : Finset String), name ∈ resources.foldl
      (fun allowed resource => if resource.name ∈ Text.split scope then
        allowed ∪ resource.userClaims else allowed) allowed ↔
      name ∈ allowed ∨ ∃ resource ∈ resources, resource.name ∈ Text.split scope ∧
        name ∈ resource.userClaims := by
    induction resources with
    | nil => simp
    | cons resource rest ih =>
        intro allowed
        rw [List.foldl_cons, ih]
        by_cases hnamed : resource.name ∈ Text.split scope
        · rw [if_pos hnamed]
          simp [hnamed, or_assoc]
        · rw [if_neg hnamed]
          simp [hnamed]
  rw [hfold, Finset.mem_singleton]

/-! ## The endpoint -/

/-- `USERINFO_SIGNING_ALGORITHMS` -/
def userinfoSigningAlgorithms : List JWTAlgorithm := [.ps256, .es256, .rs256]

/-- `userinfo_signing_alg` -/
def userinfoSigningAlg (client : Client) : Option JWTAlgorithm :=
  (JWTAlgorithm.ofValue? client.userinfoSignedResponseAlg).filter
    (· ∈ userinfoSigningAlgorithms)

/-- `UserInfoResponse`; the signed form is empty for a response in JSON. -/
structure UserInfoResponse where
  claims : Members
  signedJwt : String := ""

/-- `UserInfoUseCase`: what guards the tokens, and what the claims are taken from. -/
structure UserInfoEndpoint (κ : Type) where
  guard : ResourceServer κ
  subjectSeed : String := ""
  claimsProvider : (subject : String) → Raising Members
  /-- a dictionary has each of its keys once -/
  claims_nodup : ∀ {subject claims}, claimsProvider subject = .ok claims →
    (Dict.keys claims).Nodup
  /-- `find_all`, `none` without a reader -/
  identityResources : Option (List IdentityResource) := none
  /-- `find_by_id`, `none` without a reader -/
  clients : Option ((clientId : String) → Option Client) := none
  identityAssurance : Option IdentityAssuranceUseCase := none
  createUserinfoJwt : (issuer audience : String) → JWTAlgorithm → Members → Raising String

namespace UserInfoEndpoint

variable {κ : Type} (u : UserInfoEndpoint κ)

/-- The resources of the registry, or else the default ones. -/
def resources : List IdentityResource :=
  match u.identityResources with
  | none | some [] => defaultIdentityResources
  | some stored => stored

/-- `requested_userinfo_claims` -/
def requestedUserinfoClaims (claimsParameter : Option Json) : Finset String :=
  match (claimsParameter.bind Json.asMembers).bind fun members => Dict.get members "userinfo" with
  | some (.arr names) => (names.map u.guard.asText).toFinset
  | _ => ∅

/-- `_allowed_claims`, with the claims the `claims` parameter asked for. -/
def allowedClaims (claims : Members) : Finset String :=
  scopeClaims u.resources (u.guard.claimText claims "scope") ∪
    u.requestedUserinfoClaims (claims.get "claims")

/-- `_emitting_client` -/
def emittingClient (claims : Members) : Option Client :=
  match (claims.get "client_id").bind Json.asStr with
  | none => none
  | some clientId => if clientId = "" then none else u.clients.bind fun find => find clientId

/-- `_displayed_sub` -/
def displayedSub (client : Option Client) (subject : String) (claims : Members) :
    Raising String :=
  match client with
  | none => .ok subject
  | some client => displaySubject u.guard.platform client subject
      (((claims.get "subject_material").bind Json.asStr).getD "") u.subjectSeed

/-- `_verified_claims` -/
def verifiedClaims (claims : Members) (subject : String) : Raising (Option Members) :=
  UserInfoUseCase.verifiedClaims { identityAssurance := u.identityAssurance } claims subject

/-- `_sign_response` -/
def signResponse (client : Option Client) (claims : Members) : Raising UserInfoResponse :=
  match client with
  | none => .ok { claims }
  | some client =>
      match userinfoSigningAlg client with
      | none => .ok { claims }
      | some algorithm => do
          let signedJwt ← u.createUserinfoJwt u.guard.issuer client.clientId algorithm claims
          .ok { claims, signedJwt }

/-- The claims of a response: the displayed subject, then the allowed claims of the profile, its
raw verified claims apart. -/
def rendered (claims userClaims : Members) (displayed : String) (verified : Option Members) :
    Members :=
  Json.update [("sub", .str displayed)]
    (withVerified (userClaims.filter fun m => m.1 ∈ u.allowedClaims claims) (verified.map .obj))

/-- `execute` for a token that has passed the checks. -/
def response (claims : Members) (subject : String) : Raising UserInfoResponse := do
  let userClaims ← u.claimsProvider subject
  let verified ← u.verifiedClaims claims subject
  let displayed ← u.displayedSub (u.emittingClient claims) subject claims
  u.signResponse (u.emittingClient claims) (u.rendered claims userClaims displayed verified)

/-- `execute` from the claims of the token on. -/
def answer (claims : Members) : AccessResult UserInfoResponse :=
  match (claims.get "sub").bind Json.asStr with
  | none => deny ⟨"invalid_token", "Claim 'sub' manquante", "", 401⟩
  | some subject => orInterrupt (u.response claims subject)

/-- `execute` -/
def execute (now : Instant) (denylist : Denylist) (request : BearerRequest) :
    AccessResult UserInfoResponse :=
  u.guard.accept now denylist "§7.2" request >>= u.answer

/-- The resource server whose profiles are those of the endpoint. -/
def server : ResourceServer κ :=
  { u.guard with profile := fun claims subject => (u.response claims subject).map (·.claims) }

/-- The endpoint is the one of the resource server, save for the signature of its answers. -/
theorem userinfo_server (now : Instant) (denylist : Denylist) (request : BearerRequest) :
    u.server.userinfo now denylist request =
      (u.execute now denylist request).map fun response => .userinfo response.claims := by
  unfold ResourceServer.userinfo execute
  have haccept : u.server.accept now denylist "§7.2" request =
      u.guard.accept now denylist "§7.2" request := rfl
  rw [haccept]
  cases u.guard.accept now denylist "§7.2" request with
  | error e => rfl
  | ok claims =>
      show _ = (u.answer claims).map _
      unfold answer
      simp only [bind, Except.bind]
      cases (Dict.get claims "sub").bind Json.asStr with
      | none => rfl
      | some subject =>
          simp only [server]
          cases u.response claims subject <;> rfl

/-! ## What a response serves -/

variable {u}

theorem execute_eq_ok {now : Instant} {denylist : Denylist} {request : BearerRequest}
    {served : UserInfoResponse} (h : u.execute now denylist request = .ok served) :
    ∃ claims subject, u.guard.accept now denylist "§7.2" request = .ok claims ∧
      Dict.get claims "sub" = some (.str subject) ∧ u.response claims subject = .ok served := by
  unfold execute at h
  obtain ⟨claims, haccept, hanswer⟩ := bind_eq_ok.mp h
  unfold answer at hanswer
  cases hsub : (Dict.get claims "sub").bind Json.asStr with
  | none =>
      simp only [hsub] at hanswer
      exact absurd hanswer deny_ne_ok
  | some subject =>
      simp only [hsub] at hanswer
      exact ⟨claims, subject, haccept, ResourceServer.subject_eq_some.mp hsub,
        orInterrupt_eq_ok.mp hanswer⟩

/-- The signature does not change what is served. -/
theorem claims_of_signResponse {client : Option Client} {claims : Members}
    {served : UserInfoResponse} (h : u.signResponse client claims = .ok served) :
    served.claims = claims := by
  unfold signResponse at h
  split at h
  · cases h
    rfl
  split at h
  · cases h
    rfl
  · obtain ⟨signedJwt, -, hserved⟩ := bind_eq_ok.mp h
    cases hserved
    rfl

theorem response_eq_ok {claims : Members} {subject : String} {served : UserInfoResponse}
    (h : u.response claims subject = .ok served) :
    ∃ userClaims verified displayed, u.claimsProvider subject = .ok userClaims ∧
      u.verifiedClaims claims subject = .ok verified ∧
      u.displayedSub (u.emittingClient claims) subject claims = .ok displayed ∧
      served.claims = u.rendered claims userClaims displayed verified := by
  unfold response at h
  obtain ⟨userClaims, huser, h⟩ := bind_eq_ok.mp h
  obtain ⟨verified, hverified, h⟩ := bind_eq_ok.mp h
  obtain ⟨displayed, hdisplayed, h⟩ := bind_eq_ok.mp h
  exact ⟨userClaims, verified, displayed, huser, hverified, hdisplayed, claims_of_signResponse h⟩

theorem nodup_keys_withVerified {claims : Members} (h : (Dict.keys claims).Nodup)
    (verified : Option Json) : (Dict.keys (withVerified claims verified)).Nodup := by
  have hfilter := Dict.nodup_keys_filter h fun m => m.1 ≠ verifiedClaimsMember
  unfold withVerified
  cases verified with
  | none => exact hfilter
  | some member =>
      have hset : Json.setMember (claims.filter fun m => m.1 ≠ verifiedClaimsMember)
          verifiedClaimsMember member =
            (claims.filter fun m => m.1 ≠ verifiedClaimsMember) ++
              [(verifiedClaimsMember, member)] := if_neg (keys_filter_verified claims)
      show (Dict.keys (Json.setMember _ _ _)).Nodup
      rw [hset, ← Dict.set_of_not_mem (keys_filter_verified claims) member]
      exact Dict.nodup_keys_set hfilter _ _

theorem get_withVerified_of_ne {name : String} (hne : name ≠ verifiedClaimsMember)
    (claims : Members) (verified : Option Json) :
    Dict.get (withVerified claims verified) name = Dict.get claims name := by
  have hfilter := Dict.get_filter (fun k => decide (k ≠ verifiedClaimsMember)) claims name
  rw [if_pos (by simpa using hne)] at hfilter
  unfold withVerified
  cases verified with
  | none => exact hfilter
  | some member =>
      show Dict.get (Json.setMember _ _ _) name = _
      rw [Json.get_setMember, if_neg hne]
      exact hfilter

/-- A claim of a response: the one of the profile when it is allowed, and the displayed subject
under `sub` when the profile has none. -/
theorem get_rendered {claims userClaims : Members} {displayed : String} {verified : Option Members}
    {name : String} (hnodup : (Dict.keys userClaims).Nodup) (hne : name ≠ verifiedClaimsMember) :
    Dict.get (u.rendered claims userClaims displayed verified) name =
      (if name ∈ u.allowedClaims claims then Dict.get userClaims name else none).or
        (if name = "sub" then some (.str displayed) else none) := by
  have hallowed := Dict.nodup_keys_filter hnodup fun m => m.1 ∈ u.allowedClaims claims
  unfold rendered
  rw [Json.get_update, Dict.update_of_nodup (nodup_keys_withVerified hallowed _),
    get_withVerified_of_ne hne,
    Dict.get_filter (fun k => decide (k ∈ u.allowedClaims claims)) userClaims name, Dict.get_cons]
  simp [eq_comm]

theorem sub_allowed (claims : Members) : "sub" ∈ u.allowedClaims claims :=
  Finset.mem_union_left _ (mem_scopeClaims.mpr (.inl rfl))

end UserInfoEndpoint

/-! ## What an access token warrants -/

/-- What an access token says at the endpoint: the end-user, the client, what its subject is
derived from, and the claims that were asked for. -/
structure AccessTokenClaims.Warrants (claims : AccessTokenClaims) (client : Client)
    (subject material : String) (claimsRequest : Option ClaimsRequest) : Prop where
  subject_eq : claims.subject = subject
  get_additional : ∀ {k}, k ≠ "cnf" → k ≠ "authorization_details" →
    Dict.get claims.additionalClaims k =
      (Dict.get (AccessTokenIssuers.userinfoMembers claimsRequest) k).or
        (Dict.get (accessTokenSubjectClaims client subject material) k)

/-- The names a `claims` parameter asks of the endpoint. -/
def userinfoNames (claimsRequest : Option ClaimsRequest) : Finset String :=
  ((claimsRequest.map ClaimsRequest.userinfo).getD []).toFinset

theorem TokenUseCase.warrants (u : TokenUseCase) (i : Issuance) (audience : Audience)
    (claimsRequest : Option ClaimsRequest) :
    (u.accessTokenClaims i audience claimsRequest).Warrants i.client i.subject i.subjectMaterial
      claimsRequest where
  subject_eq := rfl
  get_additional := by
    intro k hcnf hdetails
    show Dict.get (accessTokenAdditionalClaims claimsRequest i) k = _
    have hconfirmed : Dict.get (if AccessTokenIssuers.cnfOf i = [] then []
        else [("cnf", Json.obj (AccessTokenIssuers.cnfOf i))]) k = none := by
      split <;> simp [Dict.get_cons, hcnf.symm]
    rw [AccessTokenIssuers.additionalClaims_eq, Dict.get_append, Dict.get_append, Dict.get_append,
      AccessTokenIssuers.get_details_of_ne hdetails, hconfirmed, Option.or_none, Option.or_none]

theorem AuthorizeUseCase.warrants (u : AuthorizeUseCase) (i : AuthorizeUseCase.FrontIssuance)
    (audience : Audience) :
    (u.accessTokenClaims i audience).Warrants i.client i.request.subject i.subjectMaterial
      i.claimsRequest where
  subject_eq := rfl
  get_additional := by
    intro k _ hdetails
    obtain ⟨details, heq⟩ := AccessTokenIssuers.frontAdditionalClaims_eq u i.claimsRequest i.client
      i.request.subject i.subjectMaterial i.request.authorizationDetails
    show Dict.get (u.accessTokenAdditionalClaims ..) k = _
    rw [heq, Dict.get_append, Dict.get_append, AccessTokenIssuers.get_details_of_ne hdetails,
      Option.or_none]

namespace AccessTokenClaims

variable {claims : AccessTokenClaims} {jti : String}

theorem payload_sub : Dict.get (claims.payload jti) "sub" = some (.str claims.subject) :=
  Dict.get_setDefaults_of_some rfl _

theorem payload_scope : Dict.get (claims.payload jti) "scope" =
    some (.str (Text.join " " (Text.sorted claims.scopes))) :=
  Dict.get_setDefaults_of_some rfl _

/-- The claims every access token has. -/
def registered : List String := ["iss", "sub", "aud", "exp", "iat", "jti", "scope"]

theorem payload_additional {name : String} (h : name ∉ registered) :
    Dict.get (claims.payload jti) name = Dict.get claims.additionalClaims name := by
  have hown : Dict.get ([("iss", .str claims.issuer), ("sub", .str claims.subject),
      ("aud", claims.audience.claim), ("exp", numberClaim claims.expiresAt),
      ("iat", numberClaim claims.issuedAt), ("jti", .str jti),
      ("scope", .str (Text.join " " (Text.sorted claims.scopes)))] : Members) name = none :=
    Dict.get_eq_none.mpr h
  unfold payload
  rw [Dict.get_setDefaults, hown, Option.none_or]

variable {client : Client} {subject material : String} {claimsRequest : Option ClaimsRequest}

theorem get_userinfoMembers_of_ne {k : String} (hne : k ≠ "claims")
    (claimsRequest : Option ClaimsRequest) :
    Dict.get (AccessTokenIssuers.userinfoMembers claimsRequest) k = none := by
  have hclaims : ∀ members : Members,
      Dict.get (if members = [] then [] else [("claims", Json.obj members)]) k = none := by
    intro members
    split <;> simp [Dict.get_cons, hne.symm]
  cases claimsRequest with
  | none => rfl
  | some request => exact hclaims _

theorem Warrants.payload_clientId (h : claims.Warrants client subject material claimsRequest) :
    Dict.get (claims.payload jti) "client_id" =
      if subject = "" then none else some (.str client.clientId) := by
  rw [payload_additional (by decide), h.get_additional (by decide) (by decide),
    get_userinfoMembers_of_ne (by decide), Option.none_or]
  unfold accessTokenSubjectClaims
  split
  · rfl
  · exact Dict.get_cons _ _ _

theorem Warrants.payload_subjectMaterial
    (h : claims.Warrants client subject material claimsRequest) (hsubject : subject ≠ "") :
    Dict.get (claims.payload jti) "subject_material" =
      if client.subjectType = .ephemeral ∧ material ≠ "" then some (.str material) else none := by
  rw [payload_additional (by decide), h.get_additional (by decide) (by decide),
    get_userinfoMembers_of_ne (by decide), Option.none_or]
  unfold accessTokenSubjectClaims
  rw [if_neg hsubject]
  split <;> simp [Dict.get_cons]

theorem Warrants.payload_claims (h : claims.Warrants client subject material claimsRequest) :
    Dict.get (claims.payload jti) "claims" =
      Dict.get (AccessTokenIssuers.userinfoMembers claimsRequest) "claims" := by
  rw [payload_additional (by decide), h.get_additional (by decide) (by decide),
    AccessTokenIssuers.get_accessTokenSubjectClaims_of_ne (by decide) (by decide), Option.or_none]

end AccessTokenClaims

namespace UserInfoEndpoint

variable {κ : Type} {u : UserInfoEndpoint κ} {claims : AccessTokenClaims} {jti : String}
  {client : Client} {subject material : String} {claimsRequest : Option ClaimsRequest}

/-- The endpoint finds the client of the tokens in its registry. -/
def Finds (u : UserInfoEndpoint κ) (client : Client) : Prop :=
  client.clientId ≠ "" ∧ ∃ find, u.clients = some find ∧ find client.clientId = some client

/-- The material that does not enter a subject is not in the token. -/
theorem displaySubject_carried (p : Platform) (client : Client) (subject material seed : String) :
    displaySubject p client subject
        (if client.subjectType = .ephemeral ∧ material ≠ "" then material else "") seed =
      displaySubject p client subject material seed := by
  unfold displaySubject
  cases htype : client.subjectType with
  | publicSubject => rfl
  | pairwise => rfl
  | ephemeral =>
      by_cases hmaterial : material = ""
      · simp [hmaterial]
      · simp [hmaterial]

/-- The subject shown for a token is the one its `id_token` was given. -/
theorem displayedSub_of_warrants (hfinds : u.Finds client)
    (h : claims.Warrants client subject material claimsRequest) :
    u.displayedSub (u.emittingClient (claims.payload jti)) subject (claims.payload jti) =
      displaySubject u.guard.platform client subject material u.subjectSeed := by
  obtain ⟨hid, find, hclients, hfind⟩ := hfinds
  unfold emittingClient
  rw [h.payload_clientId]
  by_cases hsubject : subject = ""
  · rw [if_pos hsubject]
    unfold displaySubject
    rw [if_pos hsubject]
    rfl
  · rw [if_neg hsubject, ← displaySubject_carried]
    simp only [Option.bind_some, Json.asStr, if_neg hid, hclients, hfind]
    unfold displayedSub
    simp only [h.payload_subjectMaterial hsubject]
    split <;> rfl

/-- The names in the `claims` member of a token. -/
theorem names_of_userinfoPayload (request : ClaimsRequest) :
    (((Dict.get (userinfoPayload request) "claims").bind Json.asMembers).bind fun members =>
        Dict.get members "userinfo") =
      if request.userinfo = [] then none else some (.arr (request.userinfo.map Json.str)) := by
  have hmember : ∀ ekyc : Members, Dict.get ekyc "userinfo" = none →
      (((Dict.get (if (if request.userinfo = [] then []
          else [("userinfo", Json.arr (request.userinfo.map Json.str))]) ++ ekyc = [] then []
        else [("claims", Json.obj ((if request.userinfo = [] then []
          else [("userinfo", Json.arr (request.userinfo.map Json.str))]) ++ ekyc))])
        "claims").bind Json.asMembers).bind fun members => Dict.get members "userinfo") =
      if request.userinfo = [] then none else some (.arr (request.userinfo.map Json.str)) := by
    intro ekyc hekyc
    by_cases hnames : request.userinfo = []
    · rw [if_pos hnames, if_pos hnames, List.nil_append]
      by_cases hempty : ekyc = []
      · rw [if_pos hempty]
        rfl
      · rw [if_neg hempty, Dict.get_cons]
        exact hekyc
    · rw [if_neg hnames, if_neg hnames]
      simp [Dict.get_cons, Json.asMembers]
  unfold userinfoPayload
  refine hmember _ ?_
  split <;> simp [Dict.get_cons]

/-- The endpoint reads the names of the `claims` parameter. -/
theorem requested_of_userinfoMembers (claimsRequest : Option ClaimsRequest) :
    u.requestedUserinfoClaims
        (Dict.get (AccessTokenIssuers.userinfoMembers claimsRequest) "claims") =
      userinfoNames claimsRequest := by
  cases claimsRequest with
  | none => rfl
  | some request =>
      have hsame : AccessTokenIssuers.userinfoMembers (some request) = userinfoPayload request :=
        rfl
      have htexts : (request.userinfo.map Json.str).map u.guard.asText = request.userinfo := by
        rw [List.map_map]
        exact List.map_id _
      unfold requestedUserinfoClaims userinfoNames
      simp only [hsame, names_of_userinfoPayload]
      by_cases hnames : request.userinfo = []
      · simp [hnames]
      · simp only [if_neg hnames, htexts]
        rfl

/-- The claims the token was granted: those of its scopes and those asked for. -/
theorem mem_allowedClaims (hwords : ∀ scope ∈ claims.scopes, Text.Word scope)
    (h : claims.Warrants client subject material claimsRequest) {name : String} :
    name ∈ u.allowedClaims (claims.payload jti) ↔
      name = "sub" ∨ (∃ resource ∈ u.resources, resource.name ∈ claims.scopes ∧
        name ∈ resource.userClaims) ∨ name ∈ userinfoNames claimsRequest := by
  have hscope : u.guard.claimText (claims.payload jti) "scope" =
      Text.join " " (Text.sorted claims.scopes) := by
    unfold ResourceServer.claimText
    rw [AccessTokenClaims.payload_scope]
    rfl
  have hasked : u.requestedUserinfoClaims (Dict.get (claims.payload jti) "claims") =
      userinfoNames claimsRequest := by
    rw [h.payload_claims]
    exact requested_of_userinfoMembers claimsRequest
  unfold allowedClaims
  rw [Finset.mem_union, hasked, mem_scopeClaims, hscope, or_assoc]
  have hmem : ∀ scope, scope ∈ Text.split (Text.join " " (Text.sorted claims.scopes)) ↔
      scope ∈ claims.scopes := by
    intro scope
    rw [← List.mem_toFinset, split_scopeClaim hwords]
  simp only [hmem]

/-- What is answered to a token of the server: it is told of the profile of its subject. -/
theorem served_of_warrants {now : Instant} {denylist : Denylist} {request : BearerRequest}
    {served : UserInfoResponse} (h : claims.Warrants client subject material claimsRequest)
    (hpayload : u.guard.tokens.jwt.payload request.accessToken = some (claims.payload jti))
    (hserved : u.execute now denylist request = .ok served) :
    ∃ userClaims verified displayed, u.claimsProvider subject = .ok userClaims ∧
      u.displayedSub (u.emittingClient (claims.payload jti)) subject (claims.payload jti) =
        .ok displayed ∧
      served.claims = u.rendered (claims.payload jti) userClaims displayed verified := by
  obtain ⟨found, sub, haccept, hsub, hresponse⟩ := execute_eq_ok hserved
  have hfound : found = claims.payload jti := by
    have hvalidated := TokenManager.validate_payload (ResourceServer.accept_eq_ok.mp haccept).1
    rw [hpayload] at hvalidated
    exact (Option.some.inj hvalidated).symm
  subst hfound
  rw [AccessTokenClaims.payload_sub, h.subject_eq] at hsub
  cases hsub
  obtain ⟨userClaims, verified, displayed, huser, -, hdisplayed, hclaims⟩ :=
    response_eq_ok hresponse
  exact ⟨userClaims, verified, displayed, huser, hdisplayed, hclaims⟩

end UserInfoEndpoint

end PurIdentityServer
