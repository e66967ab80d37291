import PurIdentityServer.Interfaces.AuthorizeResponse
import PurIdentityServer.Lib.Html

/-!
# ResponsePages — the answers that are pages

An answer in `form_post` mode is a page with a form that the browser
submits to the redirection URI, and an error that must not be redirected is
shown in a page. Both write values of the request into their markup.
-/

namespace PurIdentityServer

open Effects

/-! ## The pages -/

/-- `html.escape(text, quote=True)` -/
def htmlEscape (text : String) : String := String.ofList (Html.escape text.toList)

theorem htmlEscape_toList (text : String) :
    (htmlEscape text).toList = Html.escape text.toList := String.toList_ofList

/-- `HTMLResponse` -/
structure HtmlResponse where
  statusCode : Nat
  content : String
  headers : List (String × String) := []

/-- A hidden field of `form_post_page`. -/
def hiddenInput (name value : String) : String :=
  "<input type=\"hidden\" name=\"" ++ htmlEscape name ++ "\" value=\"" ++ htmlEscape value ++ "\">"

/-- `form_post_page` -/
def formPostPage (redirectUri : String) (params : List (String × String)) : HtmlResponse where
  statusCode := 200
  content :=
    "<!doctype html><html lang=\"fr\"><head><meta charset=\"utf-8\">" ++
    "<title>Réponse d'autorisation</title></head>" ++
    "<body onload=\"document.forms[0].submit()\"><form method=\"post\" action=\"" ++
    htmlEscape redirectUri ++ "\">" ++
    String.join (params.map fun m => hiddenInput m.1 m.2) ++
    "<noscript><button type=\"submit\">Continuer</button></noscript></form></body></html>"
  headers := [("Cache-Control", "no-cache, no-store"), ("Pragma", "no-cache")]

/-- The page of `error_page`, for an error and the description it shows. -/
def errorPageResponse (error description : String) : HtmlResponse where
  statusCode := 400
  content :=
    "<!doctype html><html lang=\"fr\"><head>" ++
    "<meta charset=\"utf-8\"><title>Erreur de la demande " ++
    "</title><style>body\x7bfont-family:" ++
    "sans-serif;margin:2rem;max-width:28rem\x7dh1\x7bfont-size:" ++
    "1.3rem\x7d.hint\x7bcolor:#666;font-size:0.9rem\x7dcode\x7bfont-size:0.95rem\x7d</style>" ++
    "</head><body><h1>Requête d'autorisation invalide</h1>" ++
    "<p class=\"hint\"><code>" ++ htmlEscape error ++ "</code> — " ++
    htmlEscape description ++
    ". La redirection vers l'URI fournie est interdite : elle n'est " ++
    "pas enregistrée pour ce client ou le client est inconnu " ++
    "(RFC 6749 §4.1.2.1).</p>" ++
    "</body></html>"

/-- The page of an answer that is one. -/
def Response.page : Response → Option HtmlResponse
  | .redirect _ => none
  | .formPost action params => some (formPostPage action params)
  | .errorPage error description => some (errorPageResponse error description)

/-! ## What the browser reads -/

namespace FormPost

open Html

def markup (text : String) : Piece := .markup text.toList

def value (text : String) : Piece := .value text.toList

/-- Up to the redirection URI. -/
def opening : List Piece :=
  [markup "<!doctype html><html lang=\"fr\"><head><meta charset=\"utf-8\">",
    markup "<title>Réponse d'autorisation</title></head>",
    markup "<body onload=\"document.forms[0].submit()\"><form method=\"post\" action=\""]

/-- After the fields. -/
def closing : String :=
  "<noscript><button type=\"submit\">Continuer</button></noscript></form></body></html>"

def inputPieces (m : String × String) : List Piece :=
  [markup "<input type=\"hidden\" name=\"", value m.1, markup "\" value=\"", value m.2,
    markup "\">"]

/-- From the redirection URI on. -/
def fromAction (redirectUri : String) (params : List (String × String)) : List Piece :=
  value redirectUri :: markup "\">" :: (params.flatMap inputPieces ++ [markup closing])

theorem hiddenInput_toList (m : String × String) :
    (hiddenInput m.1 m.2).toList = render (inputPieces m) := by
  have hpieces : ∀ first second last name value : String,
      (first ++ htmlEscape name ++ second ++ htmlEscape value ++ last).toList =
        render [.markup first.toList, .value name.toList, .markup second.toList,
          .value value.toList, .markup last.toList] := by
    intro first second last name value
    simp [render, Piece.render, htmlEscape_toList]
  exact hpieces _ _ _ _ _

/-- The page is written piece by piece. -/
theorem content_eq (redirectUri : String) (params : List (String × String)) :
    (formPostPage redirectUri params).content.toList =
      render (opening ++ fromAction redirectUri params) := by
  have hinputs : (String.join (params.map fun m => hiddenInput m.1 m.2)).toList =
      render (params.flatMap inputPieces) := by
    rw [String.toList_join, List.flatMap_map, render, List.flatMap_assoc]
    exact List.flatMap_congr fun m _ => hiddenInput_toList m
  have hpieces : ∀ doctype title body mark inputs last : String,
      inputs.toList = render (params.flatMap inputPieces) →
      (doctype ++ title ++ body ++ htmlEscape redirectUri ++ mark ++ inputs ++ last).toList =
        render ([.markup doctype.toList, .markup title.toList, .markup body.toList] ++
          .value redirectUri.toList :: .markup mark.toList ::
            (params.flatMap inputPieces ++ [.markup last.toList])) := by
    intro doctype title body mark inputs last hinputs
    simp [render, Piece.render, htmlEscape_toList, hinputs]
  exact hpieces _ _ _ _ _ _ hinputs

/-! ### The fields that are read -/

/-- The tag of a field. -/
def inputTag (m : String × String) : Token :=
  .tag
    { name := "input".toList
      attributes := [("type".toList, "hidden".toList), ("name".toList, attributeValue m.1.toList),
        ("value".toList, attributeValue m.2.toList)] }

/-- The opening of an attribute that follows the value of another. -/
theorem run_inputStart :
    run (.text .content) "<input type=\"hidden\" name=\"".toList =
      (.text (.value (some '"')
        { name := "input".toList, attributes := [("type".toList, "hidden".toList)] }
        "name".toList []), []) := by
  decide

theorem run_valueStart (t : Tag) (name read : List Char) :
    run (.text (.value (some '"') t name read)) "\" value=\"".toList =
      (.text (.value (some '"') (t.put name read) "value".toList []), []) := by
  rfl

theorem run_tagEnd (t : Tag) (name read : List Char) :
    run (.text (.value (some '"') t name read)) "\">".toList =
      (.text .content, [.tag (t.put name read)]) := by
  rfl

/-- A field is read with its name and its value, whatever they are. -/
theorem readPieces_input (m : String × String) (rest : List Piece) :
    readPieces (.text .content) ((inputPieces m).map Piece.lined ++ rest) =
      ((readPieces (.text .content) rest).1,
        inputTag m :: (readPieces (.text .content) rest).2) := by
  simp only [inputPieces, markup, value, List.map_cons, List.map_nil, Piece.lined,
    List.cons_append, List.nil_append, readPieces, run_inputStart, run_valueStart, run_tagEnd,
    Mode.holds, true_or, if_true, Place.put]
  rfl

theorem readPieces_inputs (params : List (String × String)) (rest : List Piece) :
    readPieces (.text .content) ((params.flatMap inputPieces).map Piece.lined ++ rest) =
      ((readPieces (.text .content) rest).1,
        params.map inputTag ++ (readPieces (.text .content) rest).2) := by
  induction params with
  | nil => rfl
  | cons m params ih =>
      rw [List.flatMap_cons, List.map_append, List.append_assoc, readPieces_input, ih]
      rfl

theorem separated_input (m : String × String) :
    separated false (inputPieces m) = true ∧ endsWithValue false (inputPieces m) = false :=
  ⟨rfl, rfl⟩

theorem separated_inputs (params : List (String × String)) :
    separated false (params.flatMap inputPieces) = true ∧
      endsWithValue false (params.flatMap inputPieces) = false := by
  induction params with
  | nil => exact ⟨rfl, rfl⟩
  | cons m params ih =>
      obtain ⟨hseparated, hvalue⟩ := separated_input m
      rw [List.flatMap_cons, separated_append, endsWithValue_append, hseparated, hvalue,
        ih.1, ih.2]
      exact ⟨rfl, rfl⟩

/-- The tag of the form. -/
def formTag (redirectUri : String) : Token :=
  .tag
    { name := "form".toList
      attributes := [("method".toList, "post".toList),
        ("action".toList, attributeValue redirectUri.toList)] }

/-- Inside the action of the form. -/
def inAction : Mode :=
  .text (.value (some '"')
    { name := "form".toList, attributes := [("method".toList, "post".toList)] }
    "action".toList [])

theorem quiet_opening : Quiet (.text .content) false opening inAction false :=
  (quiet_literal (n := .text .content) (by decide)).append <|
    (quiet_literal (n := .text .content) (by decide)).append <|
      quiet_literal (by decide)

/-- The button that submits the form without a script. -/
def continueButton : Control := { button := true, name := [], value := [] }

/-- The page closes its form, with the button. -/
theorem run_closing :
    '\r' ∉ closing.toList ∧
      ((run (.text .content) closing.toList).2.takeWhile fun t => !t.closesForm).flatMap
        (fun t => t.control.toList) = [continueButton] ∧
      collect none (((run (.text .content) closing.toList).2.dropWhile
        fun t => !t.closesForm).drop 1) = [] := by
  refine of_literal (P := fun text => '\r' ∉ text ∧
    ((run (.text .content) text).2.takeWhile fun t => !t.closesForm).flatMap
      (fun t => t.control.toList) = [continueButton] ∧
    collect none (((run (.text .content) text).2.dropWhile
      fun t => !t.closesForm).drop 1) = []) ?_
  decide

/-- The field of a parameter. -/
def field (m : String × String) : Control where
  name := attributeValue m.1.toList
  value := attributeValue m.2.toList

theorem collect_inputs (form : Form) (params : List (String × String)) (rest : List Token) :
    collect (some form) (params.map inputTag ++ rest) =
      collect (some { form with controls := form.controls ++ params.map field }) rest := by
  induction params generalizing form with
  | nil => simp
  | cons m params ih =>
      have htag : collect (some form) ((m :: params).map inputTag ++ rest) =
          collect (some { form with controls := form.controls ++ [field m] })
            (params.map inputTag ++ rest) := rfl
      rw [htag, ih]
      simp

theorem separated_fromAction (redirectUri : String) (params : List (String × String)) :
    separated false (fromAction redirectUri params) = true := by
  have hinputs := separated_inputs params
  have hclosing : separated false [markup closing] = true := by
    simp only [markup, separated, run_closing.1, not_false_eq_true, decide_true]
    rfl
  have hmark : separated false [value redirectUri, markup "\">"] = true := rfl
  have hends : endsWithValue false [value redirectUri, markup "\">"] = false := rfl
  have hpieces : fromAction redirectUri params = [value redirectUri, markup "\">"] ++
      (params.flatMap inputPieces ++ [markup closing]) := rfl
  rw [hpieces, separated_append, separated_append, hmark, hends, hinputs.1, hinputs.2, hclosing]
  rfl

/-- The page has one form: it posts the parameters to the redirection URI. -/
theorem forms_formPostPage (redirectUri : String) (params : List (String × String)) :
    forms (formPostPage redirectUri params).content.toList =
      [{ action := attributeValue redirectUri.toList
         method := "post".toList
         controls := params.map field ++ [continueButton] }] := by
  have hpieces : (fromAction redirectUri params).map Piece.lined =
      .value (lines false redirectUri.toList) :: .markup "\">".toList ::
        ((params.flatMap inputPieces).map Piece.lined ++ [.markup closing.toList]) := by
    simp only [fromAction, List.map_cons, List.map_append, List.map_nil]
    rfl
  have htokens : (readPieces inAction ((fromAction redirectUri params).map Piece.lined)).2 =
      formTag redirectUri :: (params.map inputTag ++ (run (.text .content) closing.toList).2) := by
    rw [hpieces, inAction, readPieces_value (closed_quoted _ _ _), Place.put,
      readPieces_markup (run_tagEnd _ _ _), readPieces_inputs, readPieces_last]
    rfl
  have hform : (formTag redirectUri).form =
      some { action := attributeValue redirectUri.toList, method := "post".toList } := rfl
  rw [content_eq, quiet_opening.forms (separated_fromAction redirectUri params), htokens, collect,
    hform, collect_inputs, collect_some, run_closing.2.1, run_closing.2.2]
  rfl

/-- What a form with these fields sends: the fields, and the button pressed when it has a
name. -/
theorem entries_fields {params : List (String × String)}
    (hnames : ∀ m ∈ params, FormUrl.Named m.1.toList) {form : Html.Form} {buttons : List Control}
    (hcontrols : form.controls = params.map field ++ buttons)
    (hbuttons : buttons.all (fun b => b.button) = true) (pressed : Option Control) :
    form.entries pressed = (params.map fun m => (m.1.toList, received m.2.toList)) ++
      (buttons.filter fun b => b.name ≠ [] ∧ some b = pressed).map fun b =>
        (submittedLines b.name, submittedLines b.value) := by
  have hplain : ∀ m ∈ params, attributeValue m.1.toList = m.1.toList ∧
      submittedLines m.1.toList = m.1.toList ∧ m.1.toList ≠ [] := by
    intro m hm
    obtain ⟨hne, hunreserved⟩ := hnames m hm
    have hnot : ∀ c, FormUrl.unreserved c = false → c ∉ m.1.toList := by
      intro c hc hmem
      rw [hunreserved c hmem] at hc
      cases hc
    have hreturn := hnot '\r' (by decide)
    exact ⟨attributeValue_eq_self hreturn (hnot '\x00' (by decide)),
      submittedLines_eq_self (hnot '\n' (by decide)) hreturn, hne⟩
  have hfields : ((params.map field).filter fun c =>
      decide (c.name ≠ [] ∧ (c.button = false ∨ some c = pressed))) = params.map field := by
    rw [List.filter_eq_self]
    intro c hc
    obtain ⟨m, hm, rfl⟩ := List.mem_map.mp hc
    obtain ⟨hname, -, hne⟩ := hplain m hm
    simp [field, hname, hne]
  have hpressed : (buttons.filter fun c =>
      decide (c.name ≠ [] ∧ (c.button = false ∨ some c = pressed))) =
        buttons.filter fun b => decide (b.name ≠ [] ∧ some b = pressed) := by
    apply List.filter_congr
    intro b hb
    have hbutton : b.button = true := List.all_eq_true.mp hbuttons b hb
    simp [hbutton]
  rw [Html.Form.entries, hcontrols, List.filter_append, hfields, hpressed, List.map_append,
    List.map_map]
  congr 1
  apply List.map_congr_left
  intro m hm
  obtain ⟨hname, hlines, -⟩ := hplain m hm
  simp [field, hname, hlines, received]

end FormPost

/-! ## What the client receives -/

/-- The answer is a page with one form: it posts the parameters to the URI. -/
def Posts (uri : String) (params : List (String × String)) (response : Response) : Prop :=
  ∃ page form, response.page = some page ∧ Html.forms page.content.toList = [form] ∧
    form.action = Html.attributeValue uri.toList ∧ form.method = "post".toList ∧
    ∀ pressed, form.entries pressed =
      params.map fun m => (m.1.toList, Html.received m.2.toList)

theorem posts_formPost (uri : String) {params : List (String × String)}
    (hnames : ∀ m ∈ params, FormUrl.Named m.1.toList) : Posts uri params (.formPost uri params) :=
  ⟨_, _, rfl, FormPost.forms_formPostPage uri params, rfl, rfl, fun pressed =>
    (FormPost.entries_fields hnames rfl rfl pressed).trans (List.append_nil _)⟩

theorem errorParams_named (r : Responses) (error : AuthorizeError) :
    ∀ m ∈ r.errorParams error, FormUrl.Named m.1.toList := by
  have hlist : ∀ m ∈ r.errorParams error,
      m.1 ∈ ["error", "error_description", "state", "iss"] := by
    intro m hm
    simp only [Responses.errorParams, List.mem_cons, List.mem_append] at hm
    rcases hm with rfl | (hm | hm) | hm
    · simp
    · split at hm
      · cases hm
      · simp [List.mem_singleton.mp hm]
    · split at hm
      · cases hm
      · simp [List.mem_singleton.mp hm]
    · split at hm
      · cases hm
      · simp [List.mem_singleton.mp hm]
  have hnamed : ["error", "error_description", "state", "iss"].all
      (fun name => decide (FormUrl.Named name.toList)) = true := by decide
  intro m hm
  simpa using List.all_eq_true.mp hnamed m.1 (hlist m hm)

theorem responseRedirectUri_formPost (u : AuthorizeUseCase) (request : AuthorizeRequest)
    (validated : ValidatedAuthorization) (params : List (String × String)) :
    Ensures Monitor.free (u.responseRedirectUri request validated params) fun uri =>
      validated.responseMode = .formPost → uri = request.redirectUri := by
  by_cases hmode : validated.responseMode = .formPost
  · unfold AuthorizeUseCase.responseRedirectUri
    rw [hmode]
    exact ensures_pure fun _ => rfl
  · exact (ensures_free _).mono fun _ _ h => absurd h hmode

/-- What `execute` returns in `form_post` mode: the bare redirection URI, and the parameters
of the response. -/
theorem execute_formPost (u : AuthorizeUseCase) (request : AuthorizeRequest) :
    Ensures Monitor.free (u.execute request) fun result =>
      result.responseMode = .formPost → result.redirectUri = request.redirectUri ∧
        ∃ scopes sessionState, result.formParams =
          u.buildSuccessParams result.code result.idToken result.accessToken result.expiresIn
            scopes request.state sessionState := by
  refine (ensures_free _).bind fun validated _ => ?_
  refine (ensures_free _).bind fun code _ => ?_
  refine (ensures_free _).bind fun issued _ => ?_
  obtain ⟨idToken, accessToken, expiresIn⟩ := issued
  refine (ensures_free _).bind fun sessionState _ => ?_
  refine (responseRedirectUri_formPost u request validated _).bind fun uri huri => ?_
  refine ensures_pure fun hmode => ⟨huri hmode,
    if validated.wantsToken then Scope.fromSpaceSeparated request.scope else ∅, sessionState, ?_⟩
  exact if_pos hmode

/-- In `form_post` mode the answer posts the parameters of the response to the redirection
URI of the request, whatever characters they hold. -/
theorem form_post_posts (u : AuthorizeUseCase) (r : Responses) (request : AuthorizeRequest) :
    Ensures Monitor.free (u.execute request) (fun result =>
      result.responseMode = .formPost → ∃ scopes sessionState,
        Posts request.redirectUri
          (u.buildSuccessParams result.code result.idToken result.accessToken result.expiresIn
            scopes request.state sessionState) (r.authorizationResponse result)) ∧
      ∀ error : AuthorizeError, error.responseMode = .formPost → error.redirectable = true →
        ∃ response, (r.errorResponse error : M Empty Response) = pure response ∧
          Posts error.redirectUri (r.errorParams error) response := by
  constructor
  · refine (execute_formPost u request).mono fun result hresult hmode => ?_
    obtain ⟨hredirect, scopes, sessionState, hparams⟩ := hresult hmode
    refine ⟨scopes, sessionState, ?_⟩
    have hresponse : r.authorizationResponse result =
        .formPost result.redirectUri result.formParams := if_pos hmode
    rw [hresponse, hredirect, hparams]
    exact posts_formPost _ (successParams_named u _ _ _ _ _ _ _)
  · intro error hmode hredirect
    refine ⟨.formPost error.redirectUri (r.errorParams error), ?_,
      posts_formPost _ (errorParams_named r error)⟩
    unfold Responses.errorResponse Responses.errorRedirect
    rw [if_pos hredirect, hmode]

namespace Responses.Sample

/-- A request in `form_post` mode whose state closes the attribute and opens a script. -/
def postedState : String := "\"><script>alert(1)</script>&amp;"

def usecase : AuthorizeUseCase where
  platform := platform
  config := {}
  halfDigest := fun _ text => text

def postedRequest : AuthorizeRequest where
  responseType := "code"
  clientId := "client"
  redirectUri := callback
  scope := "openid"
  state := postedState
  responseMode := "form_post"

def postedError : AuthorizeError where
  error := "access_denied"
  redirectUri := callback
  state := postedState
  responseMode := .formPost

end Responses.Sample

open Responses.Sample in
/-- The state comes back as it was sent. -/
theorem form_post_posts_script :
    ∃ response, (redirects.errorResponse postedError : M Empty Response) = pure response ∧
      Posts callback [("error", "access_denied"), ("state", postedState)] response := by
  obtain ⟨response, hresponse, hposts⟩ :=
    (form_post_posts usecase redirects postedRequest).2 postedError rfl rfl
  have hparams : redirects.errorParams postedError =
      [("error", "access_denied"), ("state", postedState)] := by
    simp [Responses.errorParams, redirects, postedError, postedState]
  rw [hparams] at hposts
  exact ⟨response, hresponse, hposts⟩

end PurIdentityServer
