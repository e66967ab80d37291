import PurIdentityServer.Application.CredentialIssuance
import PurIdentityServer.Application.IssuedIdTokens
import PurIdentityServer.Concurrency.CodeGates
import PurIdentityServer.Concurrency.SingleUse
import PurIdentityServer.Lib.History

/-!
# CredentialOffers — what a credential offer leads to

An offer keeps the subject and the configurations it was made for beside a
pre-authorized code. The code is redeemed once, for the subject of the
offer, and the reference answers as long as it can be
(`OfferDesk.offer_confined`). Neither the code nor the access token keeps
the configurations: a credential request is granted any configuration it
names, and an mdoc names nobody (`OfferDesk.offer_not_confined`).
-/

namespace PurIdentityServer

open Effects Effects.Prog

/-! ## The desk -/

/-- What the guard of the DPoP proofs and the check of the key proofs answer at a request. -/
structure ProofChecks where
  dpop : Option ((proof htu method ath : String) → Except DpopValidationError DPoPProof)
  bindingKeys : (proofs : List String) → Except AccessError (List Members)

inductive OfferEvent where
  | token (request : TokenRequest)
  | authorize (request : AuthorizeRequest)
  | credential (request : BearerRequest) (target : CredentialTarget) (checks : ProofChecks)
  | create (request : BearerRequest) (configurationIds : List String) (subject : String)
      (txCode : Bool) (transactionCode : String)
  | resolve (offerId : String)
  /-- the administration writes the registry of clients -/
  | register (clients : Table Client.clientId) (named : clients.find "" = none)
  | other (p : M Empty Unit) (savesNoCode : p.Uses fun c => ∀ row, c ≠ .saveCode row)

structure OfferArrival where
  instant : Instant
  event : OfferEvent

inductive OfferAnswer (μ : Type) where
  | token (result : Except (Stop TokenError) TokenResponse)
  | credential (result : AccessResult (List (Credential μ)))
  | created (result : Except (Stop Empty) (AccessResult ResourceResponse))
  | resolved (result : Except AccessError Members)
  | done

/-- The stores of the desk: the offers, those of the server, and what the issuer keeps. -/
structure DeskState (μ : Type) where
  world : World
  offers : Table CredentialOffer.offerId := .empty
  issuer : IssuerState μ

/-- The endpoints of credential offers, with those that create and redeem codes. -/
structure OfferDesk (κ μ : Type) extends CodeSite κ where
  ports : Ports
  mdoc : Mdoc.MdocPlatform μ
  signVc : Members → Raising String
  salt : Nat → String

/-- `TX_CODE_DESCRIPTION` -/
def txCodeDescription : String := "Code transmis par l'emetteur sur un canal separe"

/-- `credential_offer_payload` -/
def credentialOfferPayload (offer : CredentialOffer) (issuer : String) : Members :=
  let normalized := Text.rstripSlash issuer
  let grant := [("pre-authorized_code", Json.str offer.preAuthorizedCode),
      ("authorization_server", .str normalized)] ++
    if offer.txCodeRequired then
      [("tx_code", .obj [("input_mode", .str "numeric"), ("length", numberClaim 6),
        ("description", .str txCodeDescription)])]
    else []
  [("credential_issuer", .str normalized),
    ("credential_configuration_ids", .arr (offer.credentialConfigurationIds.map Json.str)),
    ("grants", .obj [(preAuthorizedCodeGrantType, .obj grant)])]

namespace OfferDesk

variable {κ μ : Type} (d : OfferDesk κ μ)

/-- The issuer at a request. -/
def issuerAt (checks : ProofChecks) : CredentialIssuer κ μ where
  resources := { d.resources with dpop := checks.dpop, bindingKeys := checks.bindingKeys }
  mdoc := d.mdoc
  signVc := d.signVc
  salt := d.salt

/-- `_unknown_offer` -/
def unknownOffer : AccessError :=
  ⟨"not_found", "offre de credential inconnue ou expiree", "", 404⟩

/-- `CredentialOfferUseCase.resolve` -/
def resolve (offers : Table CredentialOffer.offerId) (w : World) (offerId : String) :
    Except AccessError Members :=
  match offers.find offerId with
  | none => .error unknownOffer
  | some offer =>
      if offer.expiresAt < w.clock then .error unknownOffer
      else
        match w.codes.find offer.preAuthorizedCode with
        | none => .error unknownOffer
        | some code =>
            if code.isConsumed ∨ code.expiresAt < w.clock then .error unknownOffer
            else .ok (credentialOfferPayload offer d.resources.credentialIssuer)

/-- The offers, with the one that was created. -/
def saveOffer (offers : Table CredentialOffer.offerId) :
    Except (Stop Empty) (AccessResult ResourceResponse) → Table CredentialOffer.offerId
  | .ok (.ok (.offer offer _)) => offers.save offer
  | _ => offers

/-- Handle an event on the stores it meets. -/
def handleOn (s : DeskState μ) : OfferEvent → OfferAnswer μ × DeskState μ
  | .token request =>
      let (result, world) := (d.tokens.execute request).run (exec d.ports) s.world
      (.token result, { s with world })
  | .authorize request =>
      let (_, world) := (d.authorize.execute request).run (exec d.ports) s.world
      (.done, { s with world })
  | .credential request target checks =>
      let (result, issuer) := (d.issuerAt checks).issueCredential s.world.clock request target
        s.issuer
      (.credential result, { s with issuer })
  | .create request configurationIds subject txCode transactionCode =>
      let (result, world) := (d.createOffer request configurationIds subject txCode
        transactionCode).run (exec d.ports) s.world
      (.created result, { s with world, offers := saveOffer s.offers result })
  | .resolve offerId => (.resolved (d.resolve s.offers s.world offerId), s)
  | .register clients _ => (.done, { s with world := { s.world with clients } })
  | .other p _ =>
      let (_, world) := p.run (exec d.ports) s.world
      (.done, { s with world })

/-- Handle an event at its instant. -/
def handle (arrival : OfferArrival) (s : DeskState μ) : OfferAnswer μ × DeskState μ :=
  d.handleOn { s with world := { s.world with clock := arrival.instant } } arrival.event

def service : Service (DeskState μ) OfferArrival (OfferAnswer μ) Instant where
  handle := d.handle
  begins := OfferArrival.instant
  ends := OfferArrival.instant
  begins_le_ends := fun _ => le_refl _

/-! ## Offers and what comes of them -/

/-- The entry redeems the code for a token. -/
def Redeems (code : String) (e : Entry OfferArrival (OfferAnswer μ)) (token : String) : Prop :=
  ∃ request response, e.request.event = .token request ∧ PresentsCode code request ∧
    e.answer = .token (.ok response) ∧ token = response.accessToken

/-- A token redeemed from the code in a run. -/
def RedeemedToken (code : String) (entries : List (Entry OfferArrival (OfferAnswer μ)))
    (token : String) : Prop :=
  ∃ e ∈ entries, Redeems code e token

/-- The entry delivers credentials for the access token of a request. -/
def Delivers (e : Entry OfferArrival (OfferAnswer μ)) (token : String)
    (target : CredentialTarget) (credentials : List (Credential μ)) : Prop :=
  ∃ request checks, e.request.event = .credential request target checks ∧
    request.accessToken = token ∧ e.answer = .credential (.ok credentials)

/-- The credential is about the subject of the offer and of a configuration it lists. -/
def Within (offer : CredentialOffer) (credential : Credential μ) : Prop :=
  credential.subject = some offer.subject ∧
    credential.configuration ∈ offer.credentialConfigurationIds

/-- Every credential obtained with a token redeemed from the code is within the offer. -/
def Confined (offer : CredentialOffer) (entries : List (Entry OfferArrival (OfferAnswer μ))) :
    Prop :=
  ∀ token, RedeemedToken offer.preAuthorizedCode entries token →
    ∀ e ∈ entries, ∀ target credentials, Delivers e token target credentials →
      ∀ credential ∈ credentials, Within offer credential

/-- The request names a configuration of the offer, and not the one that names nobody. -/
def AsksFor (offer : CredentialOffer) (target : CredentialTarget) : Prop :=
  ∃ configuration ∈ offer.credentialConfigurationIds,
    target.configurationId = some configuration ∧ configuration ≠ mdocCredentialConfigurationId

/-- Every credential request with a redeemed token keeps to the offer. -/
def Asks (offer : CredentialOffer) (entries : List (Entry OfferArrival (OfferAnswer μ))) :
    Prop :=
  ∀ token, RedeemedToken offer.preAuthorizedCode entries token →
    ∀ e ∈ entries, ∀ request target checks, e.request.event = .credential request target checks →
      request.accessToken = token → AsksFor offer target

/-- Once the code is redeemed or has expired, the reference is not served and the code
yields no token. -/
def Ended (offer : CredentialOffer) (entries : List (Entry OfferArrival (OfferAnswer μ))) :
    Prop :=
  ∀ older e newer, entries = older ++ e :: newer →
    (∃ token, RedeemedToken offer.preAuthorizedCode older token) ∨
        offer.expiresAt < e.request.instant →
      (e.request.event = .resolve offer.offerId → e.answer = .resolved (.error unknownOffer)) ∧
        ∀ token, ¬Redeems offer.preAuthorizedCode e token

/-- A signed access token has the payload of its claims. -/
def Signs : Prop :=
  ∀ claims n token, d.ports.createAccessToken claims n = .ok token →
    ∃ jti, d.resources.tokens.jwt.payload token = some (claims.payload jti)

end OfferDesk

/-! ## A fresh offer -/

/-- The code of an offer. -/
structure CodeOf (offer : CredentialOffer) (row : AuthorizationCode) : Prop where
  code : row.code = offer.preAuthorizedCode
  subject : row.subject = offer.subject
  subject_ne : offer.subject ≠ ""
  unbound : row.clientId = ""
  expiresAt : row.expiresAt = offer.expiresAt

namespace ResourceServer

variable {κ : Type} {server : ResourceServer κ}

theorem offerSubject_ne {claims : Members} {caller : OfferCaller} {requested resolved : String}
    (hcaller : server.offerCaller claims = .ok caller)
    (h : offerSubject caller requested = .ok resolved) : resolved ≠ "" := by
  unfold offerCaller at hcaller
  obtain ⟨-, hcaller⟩ := guard_eq_ok.mp hcaller
  obtain ⟨hsubject, hcaller⟩ := guard_eq_ok.mp hcaller
  cases hcaller
  unfold offerSubject at h
  split at h
  · rename_i hrequested
    obtain ⟨-, h⟩ := guard_eq_ok.mp h
    cases h
    exact hrequested
  · obtain ⟨-, h⟩ := guard_eq_ok.mp h
    cases h
    exact hsubject

/-- What `create` answers. -/
theorem createOffer_codeOf {now : Instant} {draws : OfferDraws} {request : BearerRequest}
    {configurationIds : List String} {subject : String} {txCode : Bool}
    {response : ResourceResponse}
    (h : server.createOffer now draws request configurationIds subject txCode = .ok response) :
    ∃ offer row, response = .offer offer row ∧ CodeOf offer row ∧ row.code = draws.code ∧
      offer.offerId = draws.offerId := by
  unfold createOffer at h
  obtain ⟨claims, -, h⟩ := bind_eq_ok.mp h
  obtain ⟨caller, hcaller, h⟩ := bind_eq_ok.mp h
  obtain ⟨configurations, -, h⟩ := bind_eq_ok.mp h
  obtain ⟨resolved, hresolved, h⟩ := bind_eq_ok.mp h
  cases h
  exact ⟨_, _, rfl,
    { code := rfl
      subject := rfl
      subject_ne := offerSubject_ne (orRefuseAccess_eq_ok.mp hcaller)
        (orRefuseAccess_eq_ok.mp hresolved)
      unbound := rfl
      expiresAt := rfl }, rfl, rfl⟩

end ResourceServer

/-! ## Redemption -/

/-- What is left of the code of an offer in a store: the row as it was made, or consumed
ones. Nobody is registered under an empty name. -/
structure CodeStands (ports : Ports) (row : AuthorizationCode) (w : World) : Prop where
  unconsumed : ∀ found, w.codes.find row.code = some found → found.isConsumed = false →
    found = row
  named : w.clients.find "" = none
  drawn : ∃ n < w.draws, row.code = ports.tokenUrlsafe n

/-- What a redemption finds, and the token it signs. -/
structure RedeemedFor (ports : Ports) (row : AuthorizationCode) (w w' : World)
    (token : String) : Prop where
  unexpired : ¬row.expiresAt < w.clock
  fresh : ¬CodeSpent row.code w
  spent : CodeSpent row.code w'
  signed : ∃ claims n, ports.createAccessToken claims n = .ok token ∧
    claims.subject = row.subject ∧ Dict.get claims.additionalClaims "authorization_details" = none

namespace TokenUseCase

variable {u : TokenUseCase} {ports : Ports} {w w' : World} {request : TokenRequest}
  {response : TokenResponse} {row : AuthorizationCode}

/-- The row of the pre-authorized grant is neither consumed nor expired. -/
theorem checkPreAuthorizedCode_found :
    wp (Monitor.ofExec (exec ports)) (u.checkPreAuthorizedCode request)
      (fun w' g => w.codes.find request.preAuthorizedCode = some g.stored ∧
        g.stored.isConsumed = false ∧ ¬g.stored.expiresAt < w.clock ∧ Same w w')
      (fun _ _ => True) w := by
  unfold checkPreAuthorizedCode
  refine wp_exec_bind.mpr ?_
  rw [wp_bind]
  unfold resolvePreAuthorizedCode
  refine wp_orRefuse_bind.mpr (wp_op.mpr ⟨trivial, ?_⟩)
  rintro found rfl
  refine ⟨fun _ => trivial, fun row hrow => ?_⟩
  refine wp_refuseIf_bind.mpr ⟨fun _ => trivial, fun _ => ?_⟩
  split
  · exact (wp_bind _ _).mpr (wp_mono (revokeIssuedTokens_grants u row)
      (fun _ _ _ => wp_fail.mpr trivial) fun _ _ _ => trivial)
  rename_i hconsumed
  refine wp_refuseIf_bind.mpr ⟨fun _ => trivial, fun hunexpired => ?_⟩
  refine wp_pure.mpr (wp_same_bind (activeClient_uses _ _) rfl (fun _ _ _ => trivial)
    fun w₁ client h₁ => ?_)
  refine wp_same_bind (u.authenticateClient_uses _ _) rfl (fun _ _ _ => trivial)
    fun w₂ _ h₂ => ?_
  refine wp_refuseIf_bind.mpr ⟨fun _ => trivial, fun _ => ?_⟩
  refine wp_refuseIf_bind.mpr ⟨fun _ => trivial, fun _ => ?_⟩
  refine wp_same_bind (u.evaluateDpop_uses _ _ _) rfl (fun _ _ _ => trivial)
    fun w₃ binding h₃ => ?_
  refine wp_same_bind (u.effectiveResources_uses _ _) rfl (fun _ _ _ => trivial)
    fun w₄ resources h₄ => ?_
  exact wp_pure.mpr ⟨hrow, by simpa using hconsumed, hunexpired, ((h₁.trans h₂).trans h₃).trans h₄⟩

/-- The code of an offer is made out to nobody: the code grant does not exchange it. -/
theorem exchangeCode_ne_ok (hstands : CodeStands ports row w) (hunbound : row.clientId = "")
    (hchains : ∀ now, ports.resolveTrustChain "" now = none) (hcode : request.code = row.code) :
    (u.exchangeCode request).run (exec ports) w ≠ (.ok response, w') := by
  intro hrun
  obtain ⟨g, w₁, hcheck, -⟩ := Prog.run_bind_ok.mp hrun
  obtain ⟨hfound, hconsumed, hclient, hissued⟩ := run_ok checkCode_found hcheck
  rw [hcode] at hfound
  have hrow : g.stored = row := hstands.unconsumed _ hfound hconsumed
  have hname : g.client.clientId = "" := by
    rw [← hissued, hrow]
    exact hunbound
  have hempty : request.clientId = "" := (World.findClient_clientId hclient).symm.trans hname
  have hnone : w.findClient ports "" = none := by
    unfold World.findClient
    rw [hstands.named, hchains]
    rfl
  rw [hempty, hnone] at hclient
  cases hclient

/-- No claim of its own of an access token is called `authorization_details`. -/
theorem get_additionalClaims_details (i : Issuance) (hdetails : i.authorizationDetails = []) :
    Dict.get (accessTokenAdditionalClaims none i) "authorization_details" = none := by
  have hsubject : Dict.get (accessTokenSubjectClaims i.client i.subject i.subjectMaterial)
      "authorization_details" = none := by
    unfold accessTokenSubjectClaims
    split
    · rfl
    · split <;> simp [Dict.get_cons]
  have hconfirmation : ∀ confirmation : Members,
      Dict.get (if confirmation = [] then [] else [("cnf", Json.obj confirmation)])
        "authorization_details" = none := by
    intro confirmation
    split
    · rfl
    · simp [Dict.get_cons]
  unfold accessTokenAdditionalClaims
  dsimp only
  rw [hdetails, List.nil_append, if_pos rfl, List.append_nil, Dict.get_append, hsubject,
    Option.or_none]
  exact hconfirmation _

theorem preAuthorizedCode_redeems (hstands : CodeStands ports row w)
    (hcode : request.preAuthorizedCode = row.code)
    (hrun : (u.preAuthorizedCode request).run (exec ports) w = (.ok response, w')) :
    RedeemedFor ports row w w' response.accessToken := by
  obtain ⟨g, w₁, hcheck, hredeem⟩ := Prog.run_bind_ok.mp hrun
  obtain ⟨hfound, hconsumed, hunexpired, hsame⟩ := run_ok checkPreAuthorizedCode_found hcheck
  rw [hcode] at hfound
  have hrow : g.stored = row := hstands.unconsumed _ hfound hconsumed
  unfold redeemPreAuthorizedCode at hredeem
  obtain ⟨_, w₂, hconsume, hissue⟩ := Prog.run_bind_ok.mp hredeem
  obtain ⟨⟨token, ttl⟩, w₃, hissued, hanswer⟩ := Prog.run_bind_ok.mp hissue
  have hspent : CodeSpent row.code w₂ := by
    have hexec : w₂ = (exec ports (.consumeCode g.stored.code) w₁).2 :=
      (congrArg Prod.snd hconsume).symm
    rw [hexec, hrow]
    exact .exec (fun _ => nofun) (.inr rfl)
  have hafter : wp (Monitor.ofExec (exec ports))
      (u.issueAccessToken (u.preAuthorizedIssuance request g)) (fun w' _ => Same w₂ w')
      (fun w' _ => Same w₂ w') w₂ :=
    wp_same (u.issueAccessToken_uses _) rfl
  have hcodes := (run_ok hafter hissued).codes
  cases hanswer
  unfold issueAccessToken at hissued
  obtain ⟨signed, w₄, hsigned, hpair⟩ := Prog.run_bind_ok.mp hissued
  cases hpair
  unfold createAccessToken at hsigned
  obtain ⟨audience, w₅, -, hcreate⟩ := Prog.run_bind_ok.mp hsigned
  obtain ⟨created, w₆, hask, hraise⟩ := Prog.run_bind_ok.mp hcreate
  refine
    { unexpired := by rw [← hrow]; exact hunexpired
      fresh := ?_
      spent := ?_
      signed := ⟨u.accessTokenClaims (u.preAuthorizedIssuance request g) audience none,
        w₅.draws, ?_, ?_, ?_⟩ }
  · intro hspent
    rw [hspent _ hfound] at hconsumed
    cases hconsumed
  · intro found hfind
    rw [hcodes] at hfind
    exact hspent found hfind
  · obtain ⟨hok, -⟩ := run_orRaise_ok.mp hraise
    exact (Except.ok.inj (Prod.mk.inj hask).1).trans hok
  · rw [← hrow]
    rfl
  · exact get_additionalClaims_details _ rfl

/-- The code of an offer is redeemed by one grant, for its subject, and once. -/
theorem execute_redeems (hstands : CodeStands ports row w) (hunbound : row.clientId = "")
    (hchains : ∀ now, ports.resolveTrustChain "" now = none)
    (hpresents : PresentsCode row.code request)
    (hrun : (u.execute request).run (exec ports) w = (.ok response, w')) :
    RedeemedFor ports row w w' response.accessToken := by
  obtain ⟨clientId, hexec⟩ := u.execute_cases request
  rw [hexec] at hrun
  change PresentsCode row.code { request with clientId } at hpresents
  generalize { request with clientId } = request at hpresents hrun
  unfold dispatch at hrun
  rcases hpresents with ⟨hgrant, hcode⟩ | ⟨hgrant, hcode⟩
  · rw [if_pos hgrant] at hrun
    exact absurd hrun (exchangeCode_ne_ok hstands hunbound hchains hcode)
  · have hother : ∀ {g : String}, g ≠ preAuthorizedCodeGrantType → request.grantType ≠ g :=
      fun hne heq => hne (heq.symm.trans hgrant)
    rw [if_neg (hother (by decide)), if_neg (hother (by decide)), if_neg (hother (by decide)),
      if_neg (hother (by decide)), if_neg (hother (by decide)), if_neg (hother (by decide)),
      if_pos hgrant] at hrun
    exact preAuthorizedCode_redeems hstands hcode hrun

end TokenUseCase

/-! ## One event -/

/-- The row saved is a consumed one, or its code is fresh. -/
def SavesApart (ports : Ports) (w : World) (c : Call) : Prop :=
  ∀ saved, c = .saveCode saved →
    saved.isConsumed = true ∨ ∃ n, w.draws ≤ n ∧ saved.code = ports.tokenUrlsafe n

/-- What is said of consumed rows too stays true of the code. -/
theorem found_exec {ports : Ports} {code : String} {P : AuthorizationCode → Prop}
    (hconsumed : ∀ found, found.isConsumed = true → P found) {w : World} {c : Call}
    (hsaves : ∀ saved, c = .saveCode saved → saved.code = code → saved.isConsumed = true)
    (h : ∀ found, w.codes.find code = some found → P found) :
    ∀ found, (exec ports c w).2.codes.find code = some found → P found := by
  intro found hfound
  rw [exec_codes] at hfound
  cases c
  case consumeCode k =>
      simp only [World.consumeCode, Table.find_update] at hfound
      split at hfound
      · obtain ⟨old, -, rfl⟩ := Option.map_eq_some_iff.mp hfound
        exact hconsumed _ rfl
      · exact h found hfound
  case saveCode saved =>
      simp only [Table.find_save] at hfound
      split at hfound
      · rename_i hkey
        cases hfound
        exact hconsumed _ (hsaves _ rfl hkey.symm)
      · exact h found hfound
  all_goals exact h found hfound

/-- The code of an offer stands, and stays spent once it is, whatever program runs that
saves other codes only. -/
theorem CodeStands.run {ports : Ports} {row : AuthorizationCode} {w : World}
    (h : CodeStands ports row w) (hdraws : Function.Injective ports.tokenUrlsafe) {ε α : Type}
    {p : M ε α} (hsaves : ∀ c ∈ p.calls (exec ports) w, SavesApart ports w c) :
    CodeStands ports row (p.run (exec ports) w).2 ∧ w.draws ≤ (p.run (exec ports) w).2.draws ∧
      (CodeSpent row.code w → CodeSpent row.code (p.run (exec ports) w).2) := by
  obtain ⟨m, hm, hcode⟩ := h.drawn
  have happart : ∀ c, SavesApart ports w c → ∀ saved, c = .saveCode saved →
      saved.code = row.code → saved.isConsumed = true := by
    intro c hc saved hsave hsaved
    rcases hc saved hsave with hconsumed | ⟨n, hn, hfresh⟩
    · exact hconsumed
    · have heq : n = m := hdraws (hfresh.symm.trans (hsaved.trans hcode))
      omega
  have hkept : ∀ {P : AuthorizationCode → Prop},
      (∀ found, found.isConsumed = true → P found) →
      (∀ found, w.codes.find row.code = some found → P found) →
        ∀ found, (p.run (exec ports) w).2.codes.find row.code = some found → P found := by
    intro P hconsumed hbefore
    refine run_keeps_of_calls
      (fun s => ∀ found, s.codes.find row.code = some found → P found) ?_ hsaves hbefore
    intro s c hs hc
    exact found_exec hconsumed (happart c hc) hs
  have hlater : w.draws ≤ (p.run (exec ports) w).2.draws := by
    refine run_keeps_of_calls (fun s => w.draws ≤ s.draws) ?_ hsaves
      le_rfl
    intro s c hs _
    exact hs.trans (exec_draws_le c s)
  have hclients : (p.run (exec ports) w).2.clients = w.clients := by
    refine run_keeps_of_calls (fun s => s.clients = w.clients) ?_
      hsaves rfl
    intro s c hs _
    exact (exec_clients ports c s).trans hs
  refine ⟨⟨hkept ?_ h.unconsumed, ?_, m, by omega, hcode⟩, hlater, fun hspent => ?_⟩
  · intro found hconsumed hunconsumed
    rw [hconsumed] at hunconsumed
    cases hunconsumed
  · rw [hclients]
    exact h.named
  · exact hkept (fun found hconsumed => hconsumed) hspent

/-- The token endpoint saves consumed rows only. -/
theorem TokenUseCase.execute_savesApart (u : TokenUseCase) (ports : Ports) (w : World)
    (request : TokenRequest) :
    ∀ c ∈ (u.execute request).calls (exec ports) w, SavesApart ports w c := by
  have hgood : ∀ g c s, True → (codeMonitor "").good g c (exec ports c s).1 ∧ True := by
    intro g c s _
    refine ⟨?_, trivial⟩
    cases c
    case findByCode k => exact fun row hrow => Table.find_key hrow
    all_goals trivial
  intro c hmem saved hsave
  subst hsave
  obtain ⟨g, hok⟩ := exists_ok_of_mem_calls hgood (execute_used u request) trivial _ hmem
  exact .inl hok.1

/-- The authorization endpoint draws the code it saves. -/
theorem AuthorizeUseCase.execute_savesApart (u : AuthorizeUseCase) (ports : Ports) (w : World)
    (request : AuthorizeRequest) :
    ∀ c ∈ (u.execute request).calls (exec ports) w, SavesApart ports w c := by
  intro c hmem saved hsave
  subst hsave
  obtain ⟨validated, w₀, hvalidates, -, rfl⟩ := saveCode_mem_execute.mp hmem
  refine .inr ⟨w₀.draws, ?_, rfl⟩
  have hcalls : ∀ c ∈ (validateAuthorizationRequest u.platform u.scopeRegistry request).calls
      (exec ports) w, True := fun _ _ => trivial
  have hlater := run_keeps_of_calls (fun s : World => w.draws ≤ s.draws)
    (fun s c hs _ => hs.trans (exec_draws_le c s)) hcalls le_rfl
  rw [hvalidates] at hlater
  exact hlater

namespace OfferDesk

variable {κ μ : Type} {d : OfferDesk κ μ}

/-- A creation draws the code and the identifier, and stores the code. -/
theorem createOffer_run (request : BearerRequest) (configurationIds : List String)
    (subject : String) (txCode : Bool) (transactionCode : String) (w : World) :
    (∀ c ∈ (d.createOffer request configurationIds subject txCode transactionCode).calls
        (exec d.ports) w, SavesApart d.ports w c) ∧
      ∀ response w', (d.createOffer request configurationIds subject txCode
          transactionCode).run (exec d.ports) w = (.ok (.ok response), w') →
        ∃ offer row, response = .offer offer row ∧ CodeOf offer row ∧
          row.code = d.ports.tokenUrlsafe w.draws ∧
          offer.offerId = d.ports.tokenUrlsafe (w.draws + 1) ∧
          w' = { w with draws := w.draws + 2, codes := w.codes.save row } := by
  unfold CodeSite.createOffer
  constructor
  · intro c hmem saved hsave
    subst hsave
    rcases TokenUseCase.mem_calls_ask_bind.mp hmem with hcall | hmem
    · cases hcall
    rcases TokenUseCase.mem_calls_ask_bind.mp hmem with hcall | hmem
    · cases hcall
    rcases TokenUseCase.mem_calls_ask_bind.mp hmem with hcall | hmem
    · cases hcall
    split at hmem
    · rename_i offer row hanswer
      rcases TokenUseCase.mem_calls_ask_bind.mp hmem with hcall | hmem
      · cases hcall
        obtain ⟨offer, row, heq, -, hdrawn, -⟩ := ResourceServer.createOffer_codeOf hanswer
        cases heq
        exact .inr ⟨w.draws, le_rfl, hdrawn⟩
      · cases hmem
    · cases hmem
  · intro response w' hrun
    obtain ⟨now, w₁, hnow, hrun⟩ := Prog.run_bind_ok.mp hrun
    cases hnow
    obtain ⟨code, w₂, hcode, hrun⟩ := Prog.run_bind_ok.mp hrun
    cases hcode
    obtain ⟨offerId, w₃, hofferId, hrun⟩ := Prog.run_bind_ok.mp hrun
    cases hofferId
    split at hrun
    · rename_i offer row hanswer
      obtain ⟨_, w₄, hsave, hrun⟩ := Prog.run_bind_ok.mp hrun
      cases hsave
      cases hrun
      obtain ⟨offer, row, heq, hof, hdrawn, hid⟩ := ResourceServer.createOffer_codeOf hanswer
      cases heq
      exact ⟨offer, row, rfl, hof, hdrawn, hid, rfl⟩
    · rename_i hother
      have hanswer := Except.ok.inj (Prod.mk.inj hrun).1
      obtain ⟨offer, row, rfl, -⟩ := ResourceServer.createOffer_codeOf hanswer
      exact absurd hanswer (hother offer row)

/-! ## Runs -/

/-- The offer and its code are those that were created. -/
structure Standing (d : OfferDesk κ μ) (offer : CredentialOffer) (row : AuthorizationCode)
    (s : DeskState μ) : Prop where
  stored : s.offers.find offer.offerId = some offer
  code : CodeStands d.ports row s.world
  drawn : ∃ n < s.world.draws, offer.offerId = d.ports.tokenUrlsafe n

variable {offer : CredentialOffer} {row : AuthorizationCode} {s : DeskState μ}

/-- An offer stands as it is created. -/
theorem standing_of_created {arrival : OfferArrival} {s₀ : DeskState μ}
    (hnamed : s₀.world.clients.find "" = none)
    (h : d.handle arrival s₀ = (.created (.ok (.ok (.offer offer row))), s)) :
    Standing d offer row s ∧ CodeOf offer row := by
  obtain ⟨instant, event⟩ := arrival
  cases event
  case create request configurationIds subject txCode transactionCode =>
      unfold handle handleOn at h
      dsimp only at h
      generalize hrun : (d.createOffer request configurationIds subject txCode
        transactionCode).run (exec d.ports) { s₀.world with clock := instant } = outcome at h
      obtain ⟨result, w'⟩ := outcome
      cases h
      obtain ⟨offer', row', heq, hof, hcode, hid, rfl⟩ :=
        (createOffer_run (d := d) request configurationIds subject txCode transactionCode
          { s₀.world with clock := instant }).2 _ _ hrun
      cases heq
      refine ⟨⟨Table.find_save_self _ _, ⟨?_, hnamed, s₀.world.draws, ?_, hcode⟩,
        s₀.world.draws + 1, ?_, hid⟩, hof⟩
      · intro found hfound _
        exact (Option.some.inj ((Table.find_save_self _ _).symm.trans hfound)).symm
      · show s₀.world.draws < s₀.world.draws + 2
        omega
      · show s₀.world.draws + 1 < s₀.world.draws + 2
        omega
  all_goals cases h

/-- One event: the offer stands, and a spent code stays spent. -/
theorem Standing.handle (h : Standing d offer row s)
    (hdraws : Function.Injective d.ports.tokenUrlsafe) (arrival : OfferArrival) :
    Standing d offer row (d.handle arrival s).2 ∧
      (CodeSpent row.code s.world → CodeSpent row.code (d.handle arrival s).2.world) := by
  have hclock : CodeStands d.ports row { s.world with clock := arrival.instant } :=
    ⟨h.code.unconsumed, h.code.named, h.code.drawn⟩
  obtain ⟨m, hm, hid⟩ := h.drawn
  -- a program of the server touches the world alone
  have hprogram : ∀ {ε α : Type} {p : M ε α} {issuer : IssuerState μ},
      (∀ c ∈ p.calls (exec d.ports) { s.world with clock := arrival.instant },
        SavesApart d.ports { s.world with clock := arrival.instant } c) →
      Standing d offer row
          { world := (p.run (exec d.ports) { s.world with clock := arrival.instant }).2
            offers := s.offers, issuer } ∧
        (CodeSpent row.code s.world →
          CodeSpent row.code
            (p.run (exec d.ports) { s.world with clock := arrival.instant }).2) := by
    intro ε α p issuer hsaves
    obtain ⟨hstands, hlater, hspent⟩ := hclock.run hdraws hsaves
    exact ⟨⟨h.stored, hstands, m, lt_of_lt_of_le hm hlater, hid⟩, hspent⟩
  obtain ⟨instant, event⟩ := arrival
  cases event with
  | token request => exact hprogram (d.tokens.execute_savesApart d.ports _ request)
  | authorize request => exact hprogram (d.authorize.execute_savesApart d.ports _ request)
  | credential request target checks =>
      exact ⟨⟨h.stored, hclock, m, hm, hid⟩, fun hspent => hspent⟩
  | create request configurationIds subject txCode transactionCode =>
      obtain ⟨hsaves, hanswer⟩ := createOffer_run (d := d) request configurationIds subject
        txCode transactionCode { s.world with clock := instant }
      obtain ⟨hstanding, hspent⟩ := @hprogram _ _ _ s.issuer hsaves
      refine ⟨⟨?_, hstanding.code, hstanding.drawn⟩, hspent⟩
      show (saveOffer s.offers ((d.createOffer request configurationIds subject txCode
        transactionCode).run (exec d.ports) { s.world with clock := instant }).1).find
          offer.offerId = some offer
      generalize hrun : (d.createOffer request configurationIds subject txCode
        transactionCode).run (exec d.ports) { s.world with clock := instant } = outcome
      obtain ⟨result, w'⟩ := outcome
      match result with
      | .error stop => exact h.stored
      | .ok (.error e) => exact h.stored
      | .ok (.ok response) =>
          obtain ⟨other, otherRow, rfl, -, -, hother, -⟩ := hanswer response w' hrun
          show (s.offers.save other).find offer.offerId = some offer
          have hne : offer.offerId ≠ other.offerId := by
            intro heq
            have hsame : m = s.world.draws + 1 := hdraws (hid.symm.trans (heq.trans hother))
            omega
          rw [Table.find_save_of_ne _ hne]
          exact h.stored
  | resolve offerId => exact ⟨⟨h.stored, hclock, m, hm, hid⟩, fun hspent => hspent⟩
  | register clients named =>
      exact ⟨⟨h.stored, ⟨hclock.unconsumed, named, hclock.drawn⟩, m, hm, hid⟩, fun hspent => hspent⟩
  | other p savesNoCode =>
      refine hprogram ?_
      intro c hmem saved hsave
      exact absurd hsave (mem_calls_of_uses savesNoCode c hmem saved)

/-- What an entry that redeems the code says of the state it met and left. -/
theorem redeemed_of_handle (h : Standing d offer row s) (hof : CodeOf offer row)
    (hchains : ∀ now, d.ports.resolveTrustChain "" now = none) {arrival : OfferArrival}
    {token : String}
    (hredeems : Redeems offer.preAuthorizedCode ⟨arrival, (d.handle arrival s).1⟩ token) :
    RedeemedFor d.ports row { s.world with clock := arrival.instant }
      (d.handle arrival s).2.world token := by
  obtain ⟨instant, event⟩ := arrival
  obtain ⟨request, response, hevent, hpresents, hanswer, rfl⟩ := hredeems
  cases hevent
  unfold handle handleOn at hanswer ⊢
  dsimp only at hanswer ⊢
  generalize hrun : (d.tokens.execute request).run (exec d.ports)
    { s.world with clock := instant } = outcome at hanswer ⊢
  obtain ⟨result, w'⟩ := outcome
  cases hanswer
  rw [← hof.code] at hpresents
  exact TokenUseCase.execute_redeems
    ⟨h.code.unconsumed, h.code.named, h.code.drawn⟩ hof.unbound hchains hpresents hrun

/-- The state of a run after a creation. -/
structure OfferKept (d : OfferDesk κ μ) (offer : CredentialOffer) (row : AuthorizationCode)
    (entries : List (Entry OfferArrival (OfferAnswer μ))) (s : DeskState μ) : Prop where
  standing : Standing d offer row s
  spent : (∃ token, RedeemedToken offer.preAuthorizedCode entries token) →
    CodeSpent row.code s.world
  signed : ∀ token, RedeemedToken offer.preAuthorizedCode entries token →
    ∃ claims n, d.ports.createAccessToken claims n = .ok token ∧ claims.subject = offer.subject ∧
      Dict.get claims.additionalClaims "authorization_details" = none

/-- It holds of every run. -/
theorem offerKept (hstanding : Standing d offer row s) (hof : CodeOf offer row)
    (hchains : ∀ now, d.ports.resolveTrustChain "" now = none)
    (hdraws : Function.Injective d.ports.tokenUrlsafe)
    {entries : List (Entry OfferArrival (OfferAnswer μ))} {now : Instant} {state : DeskState μ}
    (hrun : History d.service s entries now state) : OfferKept d offer row entries state := by
  refine hrun.invariant (I := fun entries _ state => OfferKept d offer row entries state) ?_ ?_
  · intro now
    refine ⟨hstanding, ?_, ?_⟩
    · rintro ⟨token, e, hmem, -⟩
      cases hmem
    · rintro token ⟨e, hmem, -⟩
      cases hmem
  · intro entries now state arrival hkept hle _
    obtain ⟨hnext, hspent⟩ := hkept.standing.handle hdraws arrival
    have hlast : ∀ token, RedeemedToken offer.preAuthorizedCode
        (entries ++ [⟨arrival, (d.handle arrival state).1⟩]) token →
          RedeemedToken offer.preAuthorizedCode entries token ∨
            RedeemedFor d.ports row { state.world with clock := arrival.instant }
              (d.handle arrival state).2.world token := by
      rintro token ⟨e, hmem, hredeems⟩
      rcases List.mem_append.mp hmem with hmem | hmem
      · exact .inl ⟨e, hmem, hredeems⟩
      · cases List.mem_singleton.mp hmem
        exact .inr (redeemed_of_handle hkept.standing hof hchains hredeems)
    refine ⟨hnext, ?_, ?_⟩
    · rintro ⟨token, hredeemed⟩
      rcases hlast token hredeemed with hbefore | hnow
      · exact hspent (hkept.spent ⟨token, hbefore⟩)
      · exact hnow.spent
    · intro token hredeemed
      rcases hlast token hredeemed with hbefore | hnow
      · exact hkept.signed token hbefore
      · obtain ⟨claims, n, hcreated, hsubject, hdetails⟩ := hnow.signed
        exact ⟨claims, n, hcreated, hsubject.trans hof.subject, hdetails⟩

/-- The subject a redeemed token names. -/
theorem credentialSubject_payload {server : ResourceServer κ} {claims : AccessTokenClaims}
    (hsubject : claims.subject ≠ "") (jti : String) :
    server.credentialSubject (claims.payload jti) = claims.subject := by
  have hsub : (claims.payload jti).get "sub" = some (.str claims.subject) := by
    unfold AccessTokenClaims.payload
    rw [Dict.get_setDefaults]
    simp [Dict.get_cons]
  have htext : server.truthyText (claims.payload jti) "sub" = claims.subject := by
    unfold ResourceServer.truthyText
    rw [hsub]
    simp [Json.truthy, ResourceServer.asText, hsubject]
  unfold ResourceServer.credentialSubject
  rw [htext, if_pos hsubject]

theorem get_payload_details (claims : AccessTokenClaims) (jti : String) :
    (claims.payload jti).get "authorization_details" =
      Dict.get claims.additionalClaims "authorization_details" := by
  unfold AccessTokenClaims.payload
  rw [Dict.get_setDefaults]
  simp [Dict.get_cons]

/-- A credential obtained with a redeemed token has the configuration the request names; an
mdoc names nobody, an SD-JWT the subject of the offer. -/
theorem delivered_of_redeemed {entries : List (Entry OfferArrival (OfferAnswer μ))}
    {now : Instant} {state : DeskState μ} (hrun : History d.service s entries now state)
    (hkept : OfferKept d offer row entries state) (hof : CodeOf offer row) (hsigns : d.Signs)
    {token : String} (hredeemed : RedeemedToken offer.preAuthorizedCode entries token)
    {e : Entry OfferArrival (OfferAnswer μ)} (hmem : e ∈ entries) {target : CredentialTarget}
    {credentials : List (Credential μ)} (hdelivers : Delivers e token target credentials) :
    ∀ credential ∈ credentials, target.configurationId = some credential.configuration ∧
      credential.subject =
        if credential.configuration = mdocCredentialConfigurationId then none
        else some offer.subject := by
  obtain ⟨older, newer, rfl⟩ := List.append_of_mem hmem
  obtain ⟨earlier, reached, -, -, -, hanswer⟩ := hrun.before
  obtain ⟨⟨instant, event⟩, answer⟩ := e
  obtain ⟨request, checks, hevent, rfl, hcredentials⟩ := hdelivers
  cases hevent
  obtain ⟨claims, n, hcreated, hsubject, hdetails⟩ := hkept.signed _ hredeemed
  obtain ⟨jti, hpayload⟩ := hsigns _ _ _ hcreated
  have hne : claims.subject ≠ "" := by
    rw [hsubject]
    exact hof.subject_ne
  have hissued : ((d.issuerAt checks).issueCredential instant request target
      reached.issuer).1 = .ok credentials :=
    OfferAnswer.credential.inj (hanswer.symm.trans hcredentials)
  have hnamed : (d.issuerAt checks).resources.credentialSubject (claims.payload jti) =
      offer.subject := (credentialSubject_payload hne jti).trans hsubject
  rw [← hnamed]
  refine CredentialIssuer.mem_issueCredential hpayload ?_ hissued
  rw [get_payload_details]
  exact hdetails

/-- In every run after a creation: the credentials obtained with the tokens redeemed from the
code stay within the offer when the requests made with them name its configurations, and not
that of the mdoc; each credential stays within the offer exactly when its request does; and
once the code is redeemed or has expired, it yields nothing more. -/
theorem offer_confined {arrival : OfferArrival} {s₀ : DeskState μ}
    (hnamed : s₀.world.clients.find "" = none)
    (hcreated : d.handle arrival s₀ = (.created (.ok (.ok (.offer offer row))), s))
    (hchains : ∀ now, d.ports.resolveTrustChain "" now = none)
    (hdraws : Function.Injective d.ports.tokenUrlsafe) (hsigns : d.Signs)
    {entries : List (Entry OfferArrival (OfferAnswer μ))} {now : Instant} {state : DeskState μ}
    (hrun : History d.service s entries now state) :
    (Asks offer entries → Confined offer entries) ∧
      (∀ token, RedeemedToken offer.preAuthorizedCode entries token →
        ∀ e ∈ entries, ∀ target credentials, Delivers e token target credentials →
          ∀ credential ∈ credentials, Within offer credential ↔ AsksFor offer target) ∧
      Ended offer entries := by
  obtain ⟨hstanding, hof⟩ := standing_of_created hnamed hcreated
  have hkept := offerKept hstanding hof hchains hdraws hrun
  have hwithin : ∀ token, RedeemedToken offer.preAuthorizedCode entries token →
      ∀ e ∈ entries, ∀ target credentials, Delivers e token target credentials →
        ∀ credential ∈ credentials, Within offer credential ↔ AsksFor offer target := by
    intro token hredeemed e hmem target credentials hdelivers credential hcredential
    obtain ⟨hconfiguration, hsubject⟩ :=
      delivered_of_redeemed hrun hkept hof hsigns hredeemed hmem hdelivers credential hcredential
    constructor
    · rintro ⟨habout, hlisted⟩
      refine ⟨credential.configuration, hlisted, hconfiguration, fun hmdoc => ?_⟩
      rw [hsubject, if_pos hmdoc] at habout
      cases habout
    · rintro ⟨configuration, hlisted, hrequested, hnot⟩
      cases hconfiguration.symm.trans hrequested
      rw [if_neg hnot] at hsubject
      exact ⟨hsubject, hlisted⟩
  refine ⟨?_, hwithin, ?_⟩
  · intro hasks token hredeemed e hmem target credentials hdelivers credential hcredential
    obtain ⟨request, checks, hevent, htoken, -⟩ := id hdelivers
    exact (hwithin token hredeemed e hmem target credentials hdelivers credential
      hcredential).mpr (hasks token hredeemed e hmem request target checks hevent htoken)
  · intro older e newer hentries hover
    rw [hentries] at hrun
    obtain ⟨earlier, reached, hbefore, -, -, hanswer⟩ := hrun.before
    have hreached := offerKept hstanding hof hchains hdraws hbefore
    have hspent : (∃ token, RedeemedToken offer.preAuthorizedCode older token) →
        CodeSpent row.code reached.world := hreached.spent
    obtain ⟨⟨instant, event⟩, answer⟩ := e
    constructor
    · intro hevent
      cases hevent
      have hresolved : answer = .resolved (d.resolve reached.offers
          { reached.world with clock := instant } offer.offerId) := hanswer
      rw [hresolved]
      unfold resolve
      rw [hreached.standing.stored]
      dsimp only
      split
      · rfl
      · rename_i hunexpired
        split
        · rfl
        · rename_i found hfound
          rw [← hof.code] at hfound
          have hconsumed : found.isConsumed = true := by
            rcases hover with hredeemed | hexpired
            · exact hspent hredeemed found hfound
            · exact absurd hexpired hunexpired
          rw [if_pos (.inl hconsumed)]
    · intro token hredeems
      have hsame : answer = (d.handle ⟨instant, event⟩ reached).1 := hanswer
      rw [hsame] at hredeems
      have hfor := redeemed_of_handle hreached.standing hof hchains hredeems
      rcases hover with hredeemed | hexpired
      · exact hfor.fresh (hspent hredeemed)
      · refine hfor.unexpired ?_
        rw [hof.expiresAt]
        exact hexpired

end OfferDesk

/-! ## An offer of an SD-JWT -/

namespace OfferDesk.Sample

open PurIdentityServer.Sample (platform)

/-- The claims of the access token a machine creates offers with. -/
def machineClaims : AccessTokenClaims where
  algorithm := .rs256
  issuer := "https://op.example"
  subject := "m"
  audience := .one "m"
  expiresAt := 3600
  issuedAt := 0
  scopes := {Scope.oid4vci}
  additionalClaims := [("client_id", .str "m")]

/-- The claims of the access token redeemed from the offer. -/
def walletClaims : AccessTokenClaims where
  algorithm := .rs256
  issuer := "https://op.example"
  subject := "alice"
  audience := .one "app"
  expiresAt := 3600
  issuedAt := 0
  scopes := {Scope.oid4vci}
  additionalClaims := [("client_id", .str "app")]

/-- The claims are those of the wallet's token. -/
def isWallet (claims : AccessTokenClaims) : Bool :=
  claims.issuer = "https://op.example" && claims.subject = "alice" &&
    claims.audience = .one "app" && claims.expiresAt = 3600 && claims.issuedAt = 0 &&
    claims.scopes = {Scope.oid4vci} &&
    match claims.additionalClaims with
    | [("client_id", .str "app")] => true
    | _ => false

theorem payload_of_isWallet {claims : AccessTokenClaims} (h : isWallet claims = true)
    (jti : String) : claims.payload jti = walletClaims.payload jti := by
  obtain ⟨algorithm, issuer, subject, audience, expiresAt, issuedAt, scopes, additional⟩ := claims
  unfold isWallet at h
  simp only [Bool.and_eq_true, decide_eq_true_eq] at h
  obtain ⟨⟨⟨⟨⟨⟨rfl, rfl⟩, rfl⟩, rfl⟩, rfl⟩, rfl⟩, hadditional⟩ := h
  split at hadditional
  · rfl
  · cases hadditional

def payloads : Dict String Members :=
  [("machine", machineClaims.payload "j"), ("wallet", walletClaims.payload "j")]

def jwt : PyJwt Unit where
  header token := (Dict.get payloads token).map fun _ => ServerToken.Sample.header
  payload token := Dict.get payloads token
  signed token _ algorithms := (Dict.get payloads token).isSome && algorithms.contains "RS256"
  publicKey _ := none
  secretKey _ := ()
  importRaises_none := ServerToken.Sample.no_import_raises
  signed_algorithm := by
    intro token key algorithms h
    rw [Bool.and_eq_true] at h
    obtain ⟨claims, hclaims⟩ := Option.isSome_iff_exists.mp h.1
    exact ⟨ServerToken.Sample.header, "RS256", by rw [hclaims]; rfl, rfl, by simpa using h.2⟩

def desk : OfferDesk Unit Nat where
  tokens := PurIdentityServer.Sample.tokens
  authorize := AuthorizeUseCase.Sample.useCase
  resources :=
    { platform := platform
      tokens := { ServerToken.Sample.manager with jwt := jwt }
      issuer := "https://op.example"
      dpop := none
      profile := fun _ _ => .ok []
      bindingKeys := fun _ => .ok [Mdoc.Sample.jwk]
      issue := fun _ _ _ => .ok [] }
  ports :=
    { PurIdentityServer.Sample.ports with
      createAccessToken := fun claims _ =>
        if isWallet claims then .ok "wallet" else .error (.other "RuntimeError") }
  mdoc := Mdoc.Sample.platform
  signVc := fun _ => .ok "jwt"
  salt := fun _ => "s"

theorem draws : Function.Injective desk.ports.tokenUrlsafe := by
  intro m n h
  have hlists := congrArg (fun s : String => s.toList.length) h
  simpa [desk, PurIdentityServer.Sample.ports] using hlists

theorem signs : desk.Signs := by
  intro claims n token h
  have hwallet : isWallet claims = true ∧ token = "wallet" := by
    unfold desk at h
    dsimp only at h
    split at h
    · rename_i hwallet
      cases h
      exact ⟨hwallet, rfl⟩
    · cases h
  rw [hwallet.2]
  refine ⟨"j", ?_⟩
  rw [payload_of_isWallet hwallet.1]
  rfl

def start : DeskState Nat where
  world := PurIdentityServer.Sample.world
  issuer := { mdoc := Mdoc.Sample.start }

/-- An offer of the SD-JWT to alice. -/
def creation : OfferArrival where
  instant := 0
  event := .create { accessToken := "machine" } ["puridentityserver-sdjwt-vc"] "alice" false ""

def redemption : OfferArrival where
  instant := 0
  event := .token
    { grantType := preAuthorizedCodeGrantType, clientId := "app", preAuthorizedCode := "v" }

/-- A credential request with the token of the wallet. -/
def credentialRequest (configuration : String) : OfferArrival where
  instant := 0
  event := .credential { accessToken := "wallet" } { configurationId := some configuration }
    { dpop := none, bindingKeys := fun _ => .ok [Mdoc.Sample.jwk] }

def offered : DeskState Nat := (desk.handle creation start).2

def redeemed : OfferAnswer Nat × DeskState Nat := desk.handle redemption offered

def delivered (configuration : String) : OfferAnswer Nat × DeskState Nat :=
  desk.handle (credentialRequest configuration) redeemed.2

def entries (configuration : String) : List (Entry OfferArrival (OfferAnswer Nat)) :=
  [⟨redemption, redeemed.1⟩, ⟨credentialRequest configuration, (delivered configuration).1⟩]

theorem run (configuration : String) :
    History desk.service offered (entries configuration) 0 (delivered configuration).2 :=
  .step (.step (.start 0) redemption (le_refl (0 : Instant)) trivial)
    (credentialRequest configuration) (le_refl (0 : Instant)) trivial

/-- The offer of the creation. -/
def offer : CredentialOffer where
  offerId := "v_"
  credentialConfigurationIds := ["puridentityserver-sdjwt-vc"]
  subject := "alice"
  preAuthorizedCode := "v"
  clientId := "m"
  createdAt := 0
  expiresAt := seconds 300

def row : AuthorizationCode where
  code := "v"
  subject := "alice"
  scopes := {Scope.oid4vci}
  preAuthorized := true
  expiresAt := seconds 300

theorem created :
    desk.handle creation start = (.created (.ok (.ok (.offer offer row))), offered) := by
  with_unfolding_all rfl

/-- The access token of an answer. -/
def tokenOf : OfferAnswer Nat → Option String
  | .token (.ok response) => some response.accessToken
  | _ => none

/-- The document of an answer. -/
def documentOf : OfferAnswer Nat → Option (Mdoc.IssuerSigned Nat)
  | .credential (.ok [.mdoc document]) => some document
  | _ => none

theorem redeemed_wallet :
    ∃ response, redeemed.1 = .token (.ok response) ∧ response.accessToken = "wallet" := by
  have htoken : tokenOf redeemed.1 = some "wallet" := by decide +kernel
  unfold tokenOf at htoken
  split at htoken
  · rename_i response hanswer
    exact ⟨response, hanswer, Option.some.inj htoken⟩
  · cases htoken

theorem redeemedToken (configuration : String) :
    RedeemedToken offer.preAuthorizedCode (entries configuration) "wallet" := by
  obtain ⟨response, hanswer, htoken⟩ := redeemed_wallet
  exact ⟨_, List.mem_cons_self, _, response, rfl, .inr ⟨rfl, rfl⟩, hanswer, htoken.symm⟩

theorem delivered_mdoc : ∃ document,
    (delivered mdocCredentialConfigurationId).1 = .credential (.ok [.mdoc document]) := by
  have hdocument :
      (documentOf (delivered mdocCredentialConfigurationId).1).isSome = true := by decide +kernel
  unfold documentOf at hdocument
  split at hdocument
  · rename_i document hanswer
    exact ⟨document, hanswer⟩
  · cases hdocument

/-- The requests of the run name the configuration. -/
theorem asks {configuration : String} (hlisted : configuration ∈ offer.credentialConfigurationIds)
    (hnot : configuration ≠ mdocCredentialConfigurationId) :
    Asks offer (entries configuration) := by
  intro token _ e hmem request target checks hevent _
  rcases List.mem_cons.mp hmem with rfl | hmem
  · cases hevent
  · cases List.mem_singleton.mp hmem
    cases hevent
    exact ⟨configuration, hlisted, rfl, hnot⟩

end OfferDesk.Sample

open OfferDesk.Sample in
/-- A wallet that asks for the SD-JWT of the offer. -/
theorem OfferDesk.offer_confined_sdJwt :
    Confined offer (entries credentialConfigurationId) ∧
      Ended offer (entries credentialConfigurationId) := by
  have hnamed : start.world.clients.find "" = none := rfl
  have h := OfferDesk.offer_confined hnamed created (fun _ => rfl) draws signs
    (run credentialConfigurationId)
  exact ⟨h.1 (asks (by decide) (by decide)), h.2.2⟩

open OfferDesk.Sample in
/-- The same wallet is given an mdoc, which the offer does not list and which names nobody. -/
theorem OfferDesk.offer_not_confined :
    ¬ ∀ (d : OfferDesk Unit Nat) (arrival : OfferArrival) (s₀ s : DeskState Nat)
      (offer : CredentialOffer) (row : AuthorizationCode)
      (entries : List (Entry OfferArrival (OfferAnswer Nat))) (now : Instant)
      (state : DeskState Nat), s₀.world.clients.find "" = none →
      d.handle arrival s₀ = (.created (.ok (.ok (.offer offer row))), s) →
      (∀ now, d.ports.resolveTrustChain "" now = none) →
      Function.Injective d.ports.tokenUrlsafe → d.Signs →
      History d.service s entries now state → Confined offer entries ∧ Ended offer entries := by
  intro hclaim
  obtain ⟨hconfined, -⟩ := hclaim desk creation start offered offer row _ 0 _ rfl created
    (fun _ => rfl) draws signs (run mdocCredentialConfigurationId)
  obtain ⟨document, hdelivered⟩ := delivered_mdoc
  obtain ⟨-, hlisted⟩ := hconfined "wallet" (redeemedToken _)
    ⟨credentialRequest mdocCredentialConfigurationId,
      (delivered mdocCredentialConfigurationId).1⟩
    (List.mem_cons_of_mem _ List.mem_cons_self) _ _ ⟨_, _, rfl, rfl, hdelivered⟩
    (.mdoc document) List.mem_cons_self
  have hunlisted : mdocCredentialConfigurationId ∉ offer.credentialConfigurationIds := by decide
  exact hunlisted hlisted

end PurIdentityServer
