import PurIdentityServer.Application.Authorize
import PurIdentityServer.Application.Token
import PurIdentityServer.Lib.FormUrl
import Mathlib.Data.List.DropRight

/-!
# AuthorizeResponse — the URL an answer is redirected to

The success of the authorization endpoint, its errors and the end of a
session each build a URL by joining strings, and hand it to the
framework's `RedirectResponse`. `responses_encode_iff` says for which
redirection URIs and values the URL keeps the URI and carries the
parameters.
-/

namespace PurIdentityServer

open Effects FormUrl

/-! ## Redirections -/

/-- `_is_redirect_uri`: what the registration accepts. -/
def isRedirectUri (p : Platform) (uri : String) : Bool :=
  match p.urlsplit uri with
  | .ok parsed =>
      (parsed.scheme = "http" || parsed.scheme = "https") && parsed.netloc ≠ "" &&
        parsed.fragment = ""
  | .error _ => false

inductive Response where
  | redirect (location : String)
  | formPost (action : String) (params : List (String × String))
  | errorPage (error description : String)

/-- What the answers are built on. -/
structure Responses where
  /-- the characters `RedirectResponse` leaves alone, besides the unreserved ones -/
  safe : Char → Bool
  keepsMarks : KeepsMarks safe
  /-- the characters of the NFKD form that do not combine -/
  decompose : String → String
  issuer : String := ""
  /-- the JARM envelope of parameters, signed at a moment -/
  signEnvelope : Option ((audience algorithm : String) → List (String × String) → Instant →
    Raising String) := none

/-- `ascii_error_description` -/
def asciiErrorDescription (decompose : String → String) (value : String) : String :=
  String.ofList ((decompose value).toList.filter fun c =>
    (' ' ≤ c && c ≤ '!') || ('#' ≤ c && c ≤ '[') || (']' ≤ c && c ≤ '~'))

/-- `quote(value, safe="")` -/
def quoteValue (value : String) : String := String.ofList (quoteAll value.toList)

namespace Responses

variable (r : Responses)

/-- `RedirectResponse(url)` -/
def redirectResponse (url : String) : Response :=
  .redirect (String.ofList (quote r.safe url.toList))

/-- `authorization_response` -/
def authorizationResponse (result : AuthorizeRedirect) : Response :=
  if result.responseMode = .formPost then .formPost result.redirectUri result.formParams
  else r.redirectResponse result.redirectUri

/-- `_form_post_error_params`, the parameters of an error -/
def errorParams (result : AuthorizeError) : List (String × String) :=
  ("error", result.error) ::
    ((if result.errorDescription = "" then []
      else [("error_description", asciiErrorDescription r.decompose result.errorDescription)]) ++
    (if result.state = "" then [] else [("state", result.state)]) ++
    (if r.issuer = "" then [] else [("iss", r.issuer)]))

/-- `_clear_error_params` -/
def clearErrorParams (result : AuthorizeError) : String :=
  Text.join "&" (("error=" ++ result.error) ::
    ((if result.errorDescription = "" then []
      else ["error_description=" ++
        quoteValue (asciiErrorDescription r.decompose result.errorDescription)]) ++
    (if result.state = "" then [] else ["state=" ++ result.state]) ++
    (if r.issuer = "" then [] else ["iss=" ++ r.issuer])))

/-- `_jarm_error_params` -/
def jarmErrorParams (result : AuthorizeError) : List (String × String) :=
  ("error", result.error) ::
    ((if result.errorDescription = "" then []
      else [("error_description", asciiErrorDescription r.decompose result.errorDescription)]) ++
    (if result.state = "" then [] else [("state", result.state)]))

/-- `&` for a URL that has a query, `?` otherwise. -/
def querySeparator (uri : String) : String := if '?' ∈ uri.toList then "&" else "?"

/-- `sign_by_client_id` -/
def signByClientId {ε : Type} (clientId : String) (params : List (String × String)) :
    M ε (Option String) :=
  match r.signEnvelope with
  | none => pure none
  | some sign => do
      match ← ask (.findClient clientId) with
      | none => pure none
      | some client =>
          if jarmSigningAlg client "jwt" = "" then pure none
          else do
            let now ← ask .now
            let envelope ← orRaise (sign client.clientId (jarmSigningAlg client "jwt") params now)
            pure (some envelope)

/-- The clear transport of `error_redirect`. -/
def clearErrorRedirect (result : AuthorizeError) : Response :=
  let separator := if result.responseMode = .fragment then "#"
    else querySeparator result.redirectUri
  r.redirectResponse (result.redirectUri ++ separator ++ r.clearErrorParams result)

/-- `error_redirect` -/
def errorRedirect {ε : Type} (result : AuthorizeError) : M ε Response :=
  match result.responseMode with
  | .formPost => pure (.formPost result.redirectUri (r.errorParams result))
  | .jwt => do
      let envelope ← r.signByClientId result.clientId (r.jarmErrorParams result)
      match envelope with
      | none | some "" => pure (r.clearErrorRedirect result)
      | some envelope => pure (r.redirectResponse
          (result.redirectUri ++ querySeparator result.redirectUri ++ "response=" ++ envelope))
  | _ => pure (r.clearErrorRedirect result)

/-- The text `error_page` shows for an error without a description. -/
def defaultDescription (error : String) : String :=
  if error = "invalid_redirect_uri" then "La redirection demandée n'est pas enregistrée"
  else if error = "invalid_client" then "Identifiant de client invalide ou inconnu"
  else "La demande d'autorisation a été refusée."

/-- `error_page` -/
def errorPage (result : AuthorizeError) : Response :=
  .errorPage result.error (asciiErrorDescription r.decompose
    (if result.errorDescription = "" then defaultDescription result.error
      else result.errorDescription))

/-- `error_response` -/
def errorResponse {ε : Type} (result : AuthorizeError) : M ε Response :=
  if result.redirectable then r.errorRedirect result else pure (r.errorPage result)

/-- Where `end_session` sends the browser: the registered URI, with the state of the
request. -/
def endSessionTarget (postLogoutRedirectUri state : String) : String :=
  if postLogoutRedirectUri ≠ "" ∧ state ≠ "" then
    postLogoutRedirectUri ++ "?state=" ++ quoteValue state
  else postLogoutRedirectUri

end Responses

/-! ## Answers that convey their parameters -/

/-- The part of the URL a clear response mode uses. -/
def clearMode : Part → ResponseMode
  | .query => .query
  | .fragment => .fragment

/-- The answer redirects to the URI, with the parameters in one part of the URL. -/
def Conveys (part : Part) (uri : String) (params : List (String × String))
    (response : Response) : Prop :=
  ∃ location, response = .redirect location ∧
    Carries part uri.toList
      (params.map fun m => (utf8 m.1.toList, utf8 m.2.toList)) location.toList

/-- What `urlsplit` takes for the fragment: the text after the first `#`, without tabs and
line ends. -/
def SplitsFragment (p : Platform) : Prop :=
  ∀ uri parts, p.urlsplit uri = .ok parts →
    parts.fragment =
      String.ofList ((fragmentOf uri.toList).filter fun c => c ∉ ['\t', '\n', '\r'])

/-! ## Parameters as they are written -/

/-- A parameter written as it is. -/
def rawField (m : String × String) : Field := { name := m.1.toList, value := m.2.toList }

/-- The parameters of an error: the description is percent-encoded. -/
def Responses.errorFields (r : Responses) (result : AuthorizeError) : List Field :=
  rawField ("error", result.error) ::
    ((if result.errorDescription = "" then []
      else [{ name := "error_description".toList
              value := (asciiErrorDescription r.decompose result.errorDescription).toList
              quoted := true }]) ++
    (if result.state = "" then [] else [rawField ("state", result.state)]) ++
    (if r.issuer = "" then [] else [rawField ("iss", r.issuer)]))

theorem join_fields (fields : List Field) :
    (Text.join "&" (fields.map fun f => String.ofList (f.name ++ '=' :: f.text))).toList =
      render fields := by
  induction fields with
  | nil => rfl
  | cons f fields ih =>
      cases fields with
      | nil => simp [Text.join, render]
      | cons g fields =>
          simp only [List.map_cons, Text.join, String.toList_append] at ih ⊢
          rw [ih]
          simp [render]

/-- The trailing slashes a URI loses. -/
theorem rstripSlash_toList (uri : String) :
    ∃ slashes, uri.toList = (Text.rstripSlash uri).toList ++ List.replicate slashes '/' := by
  have hsplit := List.takeWhile_append_dropWhile (p := fun c => decide (c = '/'))
    (l := uri.toList.reverse)
  have hslashes : uri.toList.reverse.takeWhile (fun c => decide (c = '/')) =
      List.replicate (uri.toList.reverse.takeWhile fun c => decide (c = '/')).length '/' := by
    apply List.eq_replicate_of_mem
    intro c hc
    simpa using List.mem_takeWhile_imp hc
  refine ⟨(uri.toList.reverse.takeWhile fun c => decide (c = '/')).length, ?_⟩
  have hreverse := congrArg List.reverse hsplit
  rw [List.reverse_append, List.reverse_reverse, hslashes, List.reverse_replicate] at hreverse
  have hstrip : (Text.rstripSlash uri).toList =
      (uri.toList.reverse.dropWhile fun c => decide (c = '/')).reverse := String.toList_ofList
  rw [hstrip]
  exact hreverse.symm

/-- A URI loses a slash exactly when it ends with one. -/
theorem rstripSlash_eq_self (uri : String) :
    (Text.rstripSlash uri).toList = uri.toList ↔ uri.toList.getLast? ≠ some '/' := by
  have hstrip : (Text.rstripSlash uri).toList = uri.toList.rdropWhile (· = '/') :=
    String.toList_ofList
  rw [hstrip, List.rdropWhile_eq_self_iff]
  cases hlast : uri.toList with
  | nil => simp
  | cons c rest => simp [List.getLast?_eq_some_getLast]

theorem querySeparator_toList (uri : String) :
    (Responses.querySeparator uri).toList = [separator uri.toList] := by
  unfold Responses.querySeparator separator
  split <;> rfl

/-- The own fragment of an accepted URI holds no parameter. -/
theorem isRedirectUri_fragment {p : Platform} (hsplit : SplitsFragment p) {uri : String}
    (huri : isRedirectUri p uri = true) :
    '=' ∉ fragmentOf uri.toList ∧ '&' ∉ fragmentOf uri.toList := by
  unfold isRedirectUri at huri
  cases hparsed : p.urlsplit uri with
  | error e =>
      rw [hparsed] at huri
      cases huri
  | ok parsed =>
      rw [hparsed] at huri
      have hfragment : parsed.fragment = "" := by
        simp only [Bool.and_eq_true, decide_eq_true_eq] at huri
        exact huri.2
      rw [hsplit uri parsed hparsed] at hfragment
      have hnil := congrArg String.toList hfragment
      rw [String.toList_ofList] at hnil
      have hall := List.filter_eq_nil_iff.mp hnil
      constructor
      · intro hmem
        exact hall _ hmem (by decide)
      · intro hmem
        exact hall _ hmem (by decide)

theorem rawField_text (m : String × String) :
    String.ofList ((rawField m).name ++ '=' :: (rawField m).text) = m.1 ++ "=" ++ m.2 := by
  apply String.toList_inj.mp
  simp [rawField, Field.text]

theorem rawField_meant (params : List (String × String)) :
    (params.map rawField).map Field.meant =
      params.map fun m => (utf8 m.1.toList, utf8 m.2.toList) := by
  rw [List.map_map]
  rfl

theorem conveys_redirect_iff {r : Responses} {part : Part} {uri url : String}
    {params : List (String × String)} :
    Conveys part uri params (r.redirectResponse url) ↔
      Carries part uri.toList (params.map fun m => (utf8 m.1.toList, utf8 m.2.toList))
        (quote r.safe url.toList) := by
  constructor
  · rintro ⟨location, hlocation, hcarries⟩
    have hurl : location = String.ofList (quote r.safe url.toList) :=
      (Response.redirect.inj hlocation).symm
    rwa [hurl, String.toList_ofList] at hcarries
  · intro h
    exact ⟨_, rfl, by rwa [String.toList_ofList]⟩

/-! ## When the parameters arrive -/

section

variable (r : Responses) {p : Platform} (hsplit : SplitsFragment p) {uri : String}
  (huri : isRedirectUri p uri = true)

include hsplit huri

/-- A success keeps the URI and its parameters. -/
theorem success_conveys_iff (part : Part) {params : List (String × String)}
    (hnames : ∀ m ∈ params, Named m.1.toList) :
    Conveys part uri params (r.redirectResponse (AuthorizeUseCase.buildRedirectUri uri
        (clearMode part) (params.map fun m => m.1 ++ "=" ++ m.2))) ↔
      uri.toList.getLast? ≠ some '/' ∧ Carriable r.safe part uri.toList (params.map rawField) := by
  obtain ⟨slashes, hslashes⟩ := rstripSlash_toList uri
  have hjoin : (Text.join "&" (params.map fun m => m.1 ++ "=" ++ m.2)).toList =
      render (params.map rawField) := by
    rw [← join_fields, List.map_map]
    congr 2
    apply List.map_congr_left
    intro m _
    exact (rawField_text m).symm
  have hfields : ∀ f ∈ params.map rawField, Named f.name := by
    intro f hf
    obtain ⟨m, hm, rfl⟩ := List.mem_map.mp hf
    exact hnames m hm
  rw [conveys_redirect_iff, ← rawField_meant, ← rstripSlash_eq_self]
  cases part with
  | query =>
      have hurl : (AuthorizeUseCase.buildRedirectUri uri (clearMode .query)
          (params.map fun m => m.1 ++ "=" ++ m.2)).toList =
            (Text.rstripSlash uri).toList ++ separator uri.toList :: render (params.map rawField) := by
        have hmark := querySeparator_toList uri
        unfold Responses.querySeparator at hmark
        simp only [AuthorizeUseCase.buildRedirectUri, clearMode, reduceCtorEq, if_false,
          String.toList_append, hmark, hjoin, List.append_assoc, List.singleton_append]
      rw [hurl]
      exact carries_query_iff r.keepsMarks hslashes hfields
  | fragment =>
      have hurl : (AuthorizeUseCase.buildRedirectUri uri (clearMode .fragment)
          (params.map fun m => m.1 ++ "=" ++ m.2)).toList =
            (Text.rstripSlash uri).toList ++ '#' :: render (params.map rawField) := by
        rw [← hjoin]
        simp [AuthorizeUseCase.buildRedirectUri, clearMode]
      rw [hurl]
      exact carries_fragment_iff r.keepsMarks hslashes (isRedirectUri_fragment hsplit huri) hfields

/-- An error keeps the URI and its parameters; its description is encoded. -/
theorem error_conveys_iff (part : Part) {result : AuthorizeError}
    (hredirect : result.redirectUri = uri) (hmode : result.responseMode = clearMode part) :
    Conveys part uri (r.errorParams result) (r.clearErrorRedirect result) ↔
      Carriable r.safe part uri.toList (r.errorFields result) := by
  have hjoin : (r.clearErrorParams result).toList = render (r.errorFields result) := by
    by_cases hdescription : result.errorDescription = "" <;> by_cases hstate : result.state = "" <;>
      by_cases hissuer : r.issuer = "" <;>
      simp [Responses.clearErrorParams, Responses.errorFields, Text.join, render, rawField,
        Field.text, quoteValue, hdescription, hstate, hissuer]
  have hmeant : (r.errorFields result).map Field.meant =
      (r.errorParams result).map fun m => (utf8 m.1.toList, utf8 m.2.toList) := by
    by_cases hdescription : result.errorDescription = "" <;> by_cases hstate : result.state = "" <;>
      by_cases hissuer : r.issuer = "" <;>
      simp [Responses.errorParams, Responses.errorFields, rawField, Field.meant, hdescription,
        hstate, hissuer]
  have hfields : ∀ f ∈ r.errorFields result, Named f.name := by
    have hlist : ∀ f ∈ r.errorFields result, f.name ∈
        ["error".toList, "error_description".toList, "state".toList, "iss".toList] := by
      by_cases hdescription : result.errorDescription = "" <;>
        by_cases hstate : result.state = "" <;> by_cases hissuer : r.issuer = "" <;>
        simp [Responses.errorFields, rawField, hdescription, hstate, hissuer]
    intro f hf
    have hnamed : ∀ name ∈ ["error".toList, "error_description".toList, "state".toList,
        "iss".toList], Named name := by
      decide
    exact hnamed _ (hlist f hf)
  have hslashes : uri.toList = uri.toList ++ List.replicate 0 '/' := by simp
  rw [Responses.clearErrorRedirect, conveys_redirect_iff, ← hmeant, hredirect, hmode]
  cases part with
  | query =>
      have hurl : (uri ++ (if clearMode .query = .fragment then "#"
          else Responses.querySeparator uri) ++ r.clearErrorParams result).toList =
            uri.toList ++ separator uri.toList :: render (r.errorFields result) := by
        rw [if_neg (by decide)]
        simp only [String.toList_append, querySeparator_toList, hjoin, List.append_assoc,
          List.singleton_append]
      rw [hurl]
      exact (carries_query_iff r.keepsMarks hslashes hfields).trans (by simp)
  | fragment =>
      have hurl : (uri ++ (if clearMode .fragment = .fragment then "#"
          else Responses.querySeparator uri) ++ r.clearErrorParams result).toList =
            uri.toList ++ '#' :: render (r.errorFields result) := by
        simp [clearMode, hjoin]
      rw [hurl]
      exact (carries_fragment_iff r.keepsMarks hslashes (isRedirectUri_fragment hsplit huri)
        hfields).trans (by simp)

omit hsplit huri in
/-- The end of a session keeps a URI without a query, and the state. -/
theorem endSession_conveys_iff (uri state : String) :
    Conveys .query uri (if state = "" then [] else [("state", state)])
        (r.redirectResponse (Responses.endSessionTarget uri state)) ↔
      (∀ c ∈ uri.toList, keeps r.safe c = true) ∧
        (state ≠ "" → uri ≠ "" ∧ '#' ∉ uri.toList ∧ '?' ∉ uri.toList ∧ keeps r.safe '?' = true) := by
  rw [conveys_redirect_iff]
  have hplain : Carries .query uri.toList [] (quote r.safe uri.toList) ↔
      ∀ c ∈ uri.toList, keeps r.safe c = true := by
    constructor
    · intro h
      apply quote_of_starts [] (keeps_of_safe r.keepsMarks.percent)
      rw [List.append_nil]
      exact h.starts
    · intro h
      rw [quote_eq_self h]
      exact ⟨List.prefix_rfl, rfl, by simp, nofun⟩
  by_cases hstate : state = ""
  · subst hstate
    have htarget : Responses.endSessionTarget uri "" = uri := if_neg fun h => h.2 rfl
    rw [htarget, if_pos rfl, List.map_nil, hplain]
    simp
  by_cases hempty : uri = ""
  · subst hempty
    have htarget : Responses.endSessionTarget "" state = "" := if_neg fun h => h.1 rfl
    rw [htarget, if_neg hstate]
    refine iff_of_false (fun h => ?_) fun h => (h.2 hstate).1 rfl
    have hquery := h.query
    simp [quote, queryOf, afterMark, beforeMark, parse_nil] at hquery
  · have htarget : Responses.endSessionTarget uri state = uri ++ "?state=" ++ quoteValue state :=
      if_pos ⟨hempty, hstate⟩
    rw [htarget, if_neg hstate]
    let field : Field := { name := "state".toList, value := state.toList, quoted := true }
    have hurl : (uri ++ "?state=" ++ quoteValue state).toList =
        uri.toList ++ '?' :: render [field] := by
      simp [quoteValue, render, field, Field.text]
    have hname : Named field.name := by
      show Named "state".toList
      decide
    rw [hurl]
    refine (carries_question_iff r.keepsMarks hname (.inl rfl)).trans ?_
    simp [hstate, hempty]

end

theorem successParams_named (u : AuthorizeUseCase) (code idToken accessToken : String)
    (expiresIn : Int) (scopes : Finset Scope) (state sessionState : String) :
    ∀ m ∈ u.buildSuccessParams code idToken accessToken expiresIn scopes state sessionState,
      Named m.1.toList := by
  have hlist : ∀ m ∈ u.buildSuccessParams code idToken accessToken expiresIn scopes state
      sessionState, m.1 ∈ ["code", "access_token", "token_type", "expires_in", "scope", "id_token",
        "session_state", "state", "iss"] := by
    have hpresent : ∀ (name value : String) (m : String × String),
        m ∈ AuthorizeUseCase.present name value → m.1 = name := by
      intro name value m hm
      unfold AuthorizeUseCase.present at hm
      split at hm
      · cases hm
      · rw [List.mem_singleton.mp hm]
    intro m hm
    unfold AuthorizeUseCase.buildSuccessParams at hm
    simp only [List.mem_append] at hm
    rcases hm with ((((hm | hm) | hm) | hm) | hm) | hm
    · simp [hpresent _ _ _ hm]
    · split at hm
      · cases hm
      · simp only [List.mem_cons, List.not_mem_nil, or_false] at hm
        rcases hm with rfl | rfl | rfl | rfl <;> simp
    · simp [hpresent _ _ _ hm]
    · simp [hpresent _ _ _ hm]
    · simp [hpresent _ _ _ hm]
    · simp [hpresent _ _ _ hm]
  intro m hm
  have hnamed : ∀ name ∈ ["code", "access_token", "token_type", "expires_in", "scope", "id_token",
      "session_state", "state", "iss"], Named name.toList := by
    decide
  exact hnamed _ (hlist m hm)

/-- **A success, an error and the end of a session convey their parameters to an accepted
URI exactly when the URI and every value written without encoding are read back.** -/
theorem responses_encode_iff (r : Responses) (p : Platform) (hsplit : SplitsFragment p)
    (uri : String) (huri : isRedirectUri p uri = true) :
    (∀ (u : AuthorizeUseCase) (request : AuthorizeRequest) (validated : ValidatedAuthorization)
      (part : Part) (code idToken accessToken : String) (expiresIn : Int) (scopes : Finset Scope)
      (state sessionState : String) (params : List (String × String)),
      request.redirectUri = uri → validated.responseMode = clearMode part →
      params = u.buildSuccessParams code idToken accessToken expiresIn scopes state sessionState →
      ∃ target, u.responseRedirectUri request validated params = pure target ∧
        (Conveys part uri params
            (r.authorizationResponse ⟨target, code, state, validated.responseMode, idToken,
              accessToken, expiresIn, []⟩) ↔
          uri.toList.getLast? ≠ some '/' ∧
            Carriable r.safe part uri.toList (params.map rawField))) ∧
    (∀ (result : AuthorizeError) (part : Part), result.redirectUri = uri →
      result.responseMode = clearMode part →
      ∃ response, (r.errorRedirect result : M AuthorizeError Response) = pure response ∧
        (Conveys part uri (r.errorParams result) response ↔
          Carriable r.safe part uri.toList (r.errorFields result))) ∧
    ∀ state, Conveys .query uri (if state = "" then [] else [("state", state)])
        (r.redirectResponse (Responses.endSessionTarget uri state)) ↔
      (∀ c ∈ uri.toList, keeps r.safe c = true) ∧
        (state ≠ "" → uri ≠ "" ∧ '#' ∉ uri.toList ∧ '?' ∉ uri.toList ∧
          keeps r.safe '?' = true) := by
  refine ⟨?_, ?_, endSession_conveys_iff r uri⟩
  · intro u request validated part code idToken accessToken expiresIn scopes state sessionState
      params hrequest hmode hparams
    refine ⟨AuthorizeUseCase.buildRedirectUri uri (clearMode part)
      (params.map fun m => m.1 ++ "=" ++ m.2), ?_, ?_⟩
    · unfold AuthorizeUseCase.responseRedirectUri
      rw [hmode, hrequest]
      cases part <;> rfl
    · have hresponse : ∀ target, r.authorizationResponse ⟨target, code, state,
          validated.responseMode, idToken, accessToken, expiresIn, []⟩ =
            r.redirectResponse target := by
        intro target
        unfold Responses.authorizationResponse
        rw [hmode]
        cases part <;> rfl
      rw [hresponse]
      apply success_conveys_iff r hsplit huri
      rw [hparams]
      exact successParams_named u code idToken accessToken expiresIn scopes state sessionState
  · intro result part hredirect hmode
    refine ⟨r.clearErrorRedirect result, ?_,
      error_conveys_iff r hsplit huri part hredirect hmode⟩
    unfold Responses.errorRedirect
    rw [hmode]
    cases part <;> rfl

/-! ## A state with an ampersand -/

namespace Responses.Sample

/-- Starlette's `RedirectResponse`. -/
def redirects : Responses where
  safe := fun c => c ∈ ":/%#?=@[]!$&'()*+,;".toList
  keepsMarks := by constructor <;> decide
  decompose := fun s => s

/-- `urlsplit` of a URL with a scheme and a host. -/
def urlsplit (uri : String) : Except Raised UrlParts :=
  let scheme := beforeMark ':' uri.toList
  let rest := (afterMark ':' uri.toList).drop 2
  .ok
    { scheme := String.ofList scheme
      netloc := String.ofList (rest.takeWhile fun c => c ∉ ['/', '?', '#'])
      fragment := String.ofList
        ((fragmentOf uri.toList).filter fun c => c ∉ ['\t', '\n', '\r']) }

def platform : Platform := { PurIdentityServer.Sample.platform with urlsplit := urlsplit }

def callback : String := "https://app.example/cb"

def success (state : String) : List (String × String) := [("code", "c"), ("state", state)]

end Responses.Sample

open Responses.Sample in
/-- Errors and successes for a plain state, conveyed. -/
theorem responses_encode_plain :
    isRedirectUri platform callback = true ∧
      (∃ response, (redirects.errorRedirect
          { error := "access_denied", redirectUri := callback, state := "s" } :
            M AuthorizeError Response) = pure response ∧
        Conveys .query callback
          (redirects.errorParams
            { error := "access_denied", redirectUri := callback, state := "s" }) response) := by
  have huri : isRedirectUri platform callback = true := by decide +kernel
  have hsplit : SplitsFragment platform := by
    intro uri parts hparts
    cases hparts
    rfl
  obtain ⟨response, hresponse, hconveys⟩ :=
    (responses_encode_iff redirects platform hsplit callback huri).2.1
      { error := "access_denied", redirectUri := callback, state := "s" } .query rfl rfl
  refine ⟨huri, response, hresponse, hconveys.mpr ?_⟩
  have hfields : redirects.errorFields
      { error := "access_denied", redirectUri := callback, state := "s" } =
        [rawField ("error", "access_denied"), rawField ("state", "s")] := by
    simp [Responses.errorFields, redirects]
  rw [hfields]
  have hkept : callback.toList.all (keeps redirects.safe) = true := by decide +kernel
  refine ⟨List.all_eq_true.mp hkept, fun _ => by decide +kernel,
    fun _ _ => by decide +kernel, ?_⟩
  intro f hf
  rcases List.mem_cons.mp hf with rfl | hf
  · refine .inr ⟨?_, by simp [rawField, Part.ends]⟩
    simp [rawField, Plain]
  · rw [List.mem_singleton.mp hf]
    refine .inr ⟨?_, by simp [rawField, Part.ends]⟩
    simp [rawField, Plain]

open Responses.Sample in
/-- The client receives `state=a` and a parameter `b` for the state `a&b=c`. -/
theorem state_with_ampersand_lost :
    isRedirectUri platform callback = true ∧
      ¬Conveys .query callback (success "a&b=c")
        (redirects.redirectResponse (AuthorizeUseCase.buildRedirectUri callback .query
          ((success "a&b=c").map fun m => m.1 ++ "=" ++ m.2))) := by
  refine ⟨by decide +kernel, ?_⟩
  rw [conveys_redirect_iff]
  intro h
  have hquery := h.query
  revert hquery
  decide +kernel

end PurIdentityServer
