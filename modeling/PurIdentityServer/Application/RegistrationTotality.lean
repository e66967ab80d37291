import PurIdentityServer.Application.CorsOrigins

/-!
# RegistrationTotality — when a registration ends with an exception

A registration or an update answers, refuses or raises. What raises is a
call the parsers do not guard: `urlsplit` on a URI of the metadata, the
port of a web origin, the fetch of the sector document, the cipher of the
secrets, the checks of the token and of the scopes.

The members are read in a fixed order and the first problem ends the
reading, so the exceptions are described along that order: `stages` lists
for each member when it is accepted and when its reading raises.
-/

namespace PurIdentityServer

open Effects Urls

namespace Registration

/-! ## Raising -/

variable {α β : Type}

/-- The computation ends with an exception. -/
def Raises (x : Parsed α) : Prop := ∃ exception, x = .error (.raised exception)

/-- The computation answers. -/
def Accepts (x : Parsed α) : Prop := ∃ a, x = .ok a

@[simp] theorem not_raises_ok (a : α) : ¬ Raises (.ok a : Parsed α) := nofun

@[simp] theorem not_raises_refused (error : RegistrationError) :
    ¬ Raises (.error (.refused error) : Parsed α) := nofun

@[simp] theorem not_raises_invalid (description : String) :
    ¬ Raises (invalid description : Parsed α) := nofun

@[simp] theorem not_raises_invalidUri (description : String) :
    ¬ Raises (invalidUri description : Parsed α) := nofun

@[simp] theorem accepts_ok (a : α) : Accepts (.ok a : Parsed α) := ⟨a, rfl⟩

theorem raises_bind {x : Parsed α} {f : α → Parsed β} :
    Raises (x >>= f) ↔ Raises x ∨ ∃ a, x = .ok a ∧ Raises (f a) := by
  cases x with
  | ok a =>
      constructor
      · intro h
        exact .inr ⟨a, rfl, h⟩
      · rintro (h | ⟨b, hb, h⟩)
        · exact absurd h (not_raises_ok a)
        · cases hb
          exact h
  | error refusal =>
      constructor
      · rintro ⟨exception, h⟩
        cases h
        exact .inl ⟨exception, rfl⟩
      · rintro (⟨exception, h⟩ | ⟨a, ha, -⟩)
        · cases h
          exact ⟨exception, rfl⟩
        · cases ha

/-- What follows raises nothing. -/
theorem raises_bind_of_quiet {x : Parsed α} {f : α → Parsed β} (h : ∀ a, ¬ Raises (f a)) :
    Raises (x >>= f) ↔ Raises x := by
  rw [raises_bind]
  constructor
  · rintro (hraises | ⟨a, -, hraises⟩)
    · exact hraises
    · exact absurd hraises (h a)
  · exact .inl

@[simp] theorem raises_mayRaise {x : Except Raised α} :
    Raises (mayRaise x) ↔ ∃ exception, x = .error exception := by
  cases x with
  | ok a => exact ⟨nofun, nofun⟩
  | error exception => exact ⟨fun _ => ⟨exception, rfl⟩, fun _ => ⟨exception, rfl⟩⟩

@[simp] theorem raises_map {x : Parsed α} {f : α → β} : Raises (x.map f) ↔ Raises x := by
  cases x with
  | ok a => exact ⟨nofun, nofun⟩
  | error refusal =>
      constructor
      · rintro ⟨exception, h⟩
        cases h
        exact ⟨exception, rfl⟩
      · rintro ⟨exception, h⟩
        cases h
        exact ⟨exception, rfl⟩

/-! ## Members -/

section Members

variable (lib : UrlLibrary) (p : Platform) (raw : Members)

/-- `urlsplit` refuses the text. -/
def Unsplit (uri : String) : Prop := ∃ exception, urlsplit lib uri = .error exception

/-- The text of a member that is one, and not empty. -/
def HasText (key text : String) : Prop := present raw key = some (.str text) ∧ text ≠ ""

/-- The text of the member does not split. -/
def TextUnsplit (key : String) : Prop := ∃ text, HasText raw key text ∧ Unsplit lib text

/-- The list of texts of a member. -/
def HasList (key : String) (uris : List String) : Prop :=
  ∃ value, present raw key = some value ∧ textList value = some uris

/-- The URIs before the first one that is not accepted are; that one does not
split. -/
def FirstUnsplit (check : String → Except Raised Bool) (uris : List String) : Prop :=
  ∃ before uri after, uris = before ++ uri :: after ∧ (∀ u ∈ before, check u = .ok true) ∧
    Unsplit lib uri

/-- The URI is one of the web with a host, and its port is no number. -/
def BadPort (uri : String) : Prop :=
  ∃ parts, urlsplit lib uri = .ok parts ∧ parts.Web ∧ parts.netloc ≠ [] ∧
    parts.hostname lib ≠ none ∧ ∃ exception, parts.port = .error exception

variable {lib p raw}

theorem raises_parseText {key absent message : String} {check : String → Parsed Unit} :
    Raises (parseText raw key absent check message) ↔
      ∃ text, HasText raw key text ∧ Raises (check text) := by
  unfold parseText HasText
  split
  case h_1 h =>
    constructor
    · exact nofun
    · rintro ⟨text, ⟨htext, -⟩, -⟩
      rw [h] at htext
      cases htext
  case h_2 text h =>
    by_cases hempty : text = ""
    · rw [if_pos hempty]
      constructor
      · exact nofun
      · rintro ⟨other, ⟨hother, hne⟩, -⟩
        rw [h] at hother
        cases hother
        exact absurd hempty hne
    · rw [if_neg hempty, raises_map]
      constructor
      · intro hraises
        exact ⟨text, ⟨h, hempty⟩, hraises⟩
      · rintro ⟨other, ⟨hother, -⟩, hraises⟩
        rw [h] at hother
        cases hother
        exact hraises
  case h_3 value hvalue h =>
    constructor
    · exact nofun
    · rintro ⟨text, ⟨htext, -⟩, -⟩
      rw [h] at htext
      cases htext
      exact absurd rfl (hvalue text)

theorem not_raises_parseChoice (key absent : String) (values : List String) (message : String) :
    ¬ Raises (parseChoice raw key absent values message) := by
  unfold parseChoice
  rw [raises_parseText]
  rintro ⟨text, -, hraises⟩
  split at hraises
  · exact not_raises_ok () hraises
  · exact not_raises_invalid message hraises

theorem not_raises_parseMembers (key : String) (allowed : Finset String) (default : String) :
    ¬ Raises (parseMembers raw key allowed default) := by
  unfold parseMembers
  split
  · exact not_raises_ok _
  · split
    · exact not_raises_invalid _
    · dsimp only
      split
      · exact not_raises_ok _
      · exact not_raises_invalid _

theorem not_raises_parseBoolFlag (key : String) (default : Bool) :
    ¬ Raises (parseBoolFlag raw key default) := by
  unfold parseBoolFlag
  split
  · exact not_raises_ok _
  · exact not_raises_ok _
  · exact not_raises_invalid _

theorem not_raises_parseScopes (known : Finset String) : ¬ Raises (parseScopes raw known) := by
  unfold parseScopes
  split
  · exact not_raises_ok _
  · exact not_raises_ok _
  · dsimp only
    split
    · exact not_raises_ok _
    · exact not_raises_invalid _
  · exact not_raises_invalid _

theorem not_raises_parseAuthMethod : ¬ Raises (parseAuthMethod raw) := by
  unfold parseAuthMethod
  split
  · exact not_raises_ok _
  · split
    · split
      · exact not_raises_ok _
      · exact not_raises_invalid _
    · exact not_raises_invalid _

theorem not_raises_parseRequestedSecret : ¬ Raises (parseRequestedSecret raw) := by
  unfold parseRequestedSecret
  split
  · exact not_raises_ok _
  · split
    · exact not_raises_invalid _
    · exact not_raises_ok _
  · exact not_raises_invalid _

theorem not_raises_parseJwks : ¬ Raises (parseJwks p raw) := by
  unfold parseJwks
  split
  · exact not_raises_ok _
  · split
    · split
      · split
        · exact not_raises_ok _
        · exact not_raises_invalid _
      · exact not_raises_invalid _
    · exact not_raises_invalid _
  · exact not_raises_invalid _

theorem not_raises_parseTlsSubjectDn : ¬ Raises (parseTlsSubjectDn raw) := by
  unfold parseTlsSubjectDn
  rw [raises_parseText]
  rintro ⟨text, -, hraises⟩
  exact not_raises_ok () hraises

theorem not_raises_parseTlsCertificate (b64decode : String → Option (List UInt8)) :
    ¬ Raises (parseTlsCertificate p raw b64decode) := by
  unfold parseTlsCertificate
  split
  · exact not_raises_ok _
  · exact not_raises_ok _
  · split
    · exact not_raises_invalid _
    · exact not_raises_invalid _
    · exact not_raises_ok _
  · exact not_raises_invalid _

/-! ## URIs -/

/-- A check that splits its URI first, and raises nothing else. -/
theorem error_of_split {α : Type} {f : SplitResult → Except Raised α} {uri : String}
    (hf : ∀ parts exception, f parts ≠ .error exception) :
    (∃ exception, (urlsplit lib uri >>= f) = .error exception) ↔ Unsplit lib uri := by
  unfold Unsplit
  cases hsplit : urlsplit lib uri with
  | ok parts =>
      constructor
      · rintro ⟨exception, h⟩
        exact absurd h (hf parts exception)
      · exact nofun
  | error exception => exact ⟨fun _ => ⟨exception, rfl⟩, fun _ => ⟨exception, rfl⟩⟩

theorem isRedirectUri_error {uri : String} :
    (∃ exception, isRedirectUri lib uri = .error exception) ↔ Unsplit lib uri :=
  error_of_split fun _ _ => nofun

theorem isWebOrigin_error {uri : String} :
    (∃ exception, isWebOrigin lib uri = .error exception) ↔ Unsplit lib uri :=
  error_of_split fun _ _ => nofun

theorem isJwksUri_error {uri : String} :
    (∃ exception, isJwksUri lib uri = .error exception) ↔ Unsplit lib uri := by
  apply error_of_split
  intro parts exception
  split
  · exact nofun
  · split
    · exact nofun
    · exact nofun

theorem originOfUri_error {uri : String} :
    (∃ exception, originOfUri lib uri = .error exception) ↔
      Unsplit lib uri ∨ BadPort lib uri := by
  unfold originOfUri Unsplit BadPort
  cases hsplit : urlsplit lib uri with
  | error exception => exact ⟨fun _ => .inl ⟨exception, rfl⟩, fun _ => ⟨exception, rfl⟩⟩
  | ok parts =>
      show (∃ exception, (if ¬ parts.Web ∨ parts.netloc = [] then _ else _) = _) ↔ _
      by_cases hskip : ¬ parts.Web ∨ parts.netloc = []
      · rw [if_pos hskip]
        constructor
        · exact nofun
        · rintro (h | ⟨other, hother, hweb, hnetloc, -⟩)
          · obtain ⟨exception, h⟩ := h
            cases h
          · cases hother
            rcases hskip with hskip | hskip
            · exact absurd hweb hskip
            · exact absurd hskip hnetloc
      · rw [if_neg hskip]
        rw [not_or, not_not] at hskip
        cases hhost : parts.hostname lib with
        | none =>
            constructor
            · exact nofun
            · rintro (h | ⟨other, hother, -, -, hne, -⟩)
              · obtain ⟨exception, h⟩ := h
                cases h
              · cases hother
                exact absurd hhost hne
        | some host =>
            have hne : parts.hostname lib ≠ none := by
              rw [hhost]
              exact nofun
            cases hport : parts.port with
            | ok port =>
                constructor
                · exact nofun
                · rintro (h | ⟨other, hother, -, -, -, exception, h⟩)
                  · obtain ⟨exception, h⟩ := h
                    cases h
                  · cases hother
                    rw [hport] at h
                    cases h
            | error exception =>
                constructor
                · intro _
                  exact .inr ⟨parts, rfl, hskip.1, hskip.2, hne, exception, hport⟩
                · intro _
                  exact ⟨exception, rfl⟩

theorem raises_checkUris {check : String → Except Raised Bool} {message : String}
    {uris : List String}
    (hcheck : ∀ uri, (∃ exception, check uri = .error exception) ↔ Unsplit lib uri) :
    Raises (checkUris check message uris) ↔ FirstUnsplit lib check uris := by
  induction uris with
  | nil =>
      constructor
      · exact nofun
      · rintro ⟨before, uri, after, hsplit, -⟩
        exact absurd hsplit (by simp)
  | cons uri rest ih =>
      unfold checkUris
      rw [raises_bind, raises_mayRaise, hcheck]
      constructor
      · rintro (hunsplit | ⟨valid, hvalid, hraises⟩)
        · exact ⟨[], uri, rest, rfl, nofun, hunsplit⟩
        · split at hraises
          · rename_i htrue
            obtain ⟨before, bad, after, rfl, hbefore, hbad⟩ := ih.mp hraises
            have hok := RegistrationUseCase.mayRaise_ok hvalid
            refine ⟨uri :: before, bad, after, rfl, ?_, hbad⟩
            intro u hu
            rcases List.mem_cons.mp hu with rfl | hu
            · rw [hok, htrue]
            · exact hbefore u hu
          · exact absurd hraises (not_raises_invalidUri _)
      · rintro ⟨before, bad, after, hsplit, hbefore, hbad⟩
        cases before with
        | nil =>
            cases hsplit
            exact .inl hbad
        | cons first before =>
            cases hsplit
            have hok := hbefore uri List.mem_cons_self
            refine .inr ⟨true, by rw [hok]; rfl, ?_⟩
            rw [if_pos rfl]
            exact ih.mpr ⟨before, bad, after, rfl,
              fun u hu => hbefore u (List.mem_cons_of_mem _ hu), hbad⟩

theorem checkUris_accepts {check : String → Except Raised Bool} {message : String}
    {uris : List String} :
    checkUris check message uris = .ok () ↔ ∀ uri ∈ uris, check uri = .ok true := by
  constructor
  · exact checkUris_ok
  · intro h
    induction uris with
    | nil => rfl
    | cons uri rest ih =>
        unfold checkUris
        rw [h uri List.mem_cons_self]
        exact ih fun other hother => h other (List.mem_cons_of_mem _ hother)

theorem originsOf_error {uris : List String} :
    (∃ exception, originsOf lib uris = .error exception) ↔
      ∃ uri ∈ uris, ∃ exception, originOfUri lib uri = .error exception := by
  induction uris with
  | nil =>
      constructor
      · exact nofun
      · rintro ⟨uri, huri, -⟩
        cases huri
  | cons uri rest ih =>
      rw [List.exists_mem_cons_iff, ← ih]
      show (∃ exception, (originOfUri lib uri >>= fun origin => originsOf lib rest >>= _) = _) ↔ _
      cases hfirst : originOfUri lib uri with
      | error exception =>
          exact ⟨fun _ => .inl ⟨exception, rfl⟩, fun _ => ⟨exception, rfl⟩⟩
      | ok origin =>
          cases hrest : originsOf lib rest with
          | error exception =>
              exact ⟨fun _ => .inr ⟨exception, rfl⟩, fun _ => ⟨exception, rfl⟩⟩
          | ok origins =>
              constructor
              · exact nofun
              · rintro (⟨exception, h⟩ | ⟨exception, h⟩)
                · cases h
                · cases h

/-- A list member whose reading splits its URIs one by one. -/
theorem raises_parseUriList {key : String} {required : Bool} :
    Raises (parseUriList lib raw key required) ↔
      ∃ uris, HasList raw key uris ∧ FirstUnsplit lib (isRedirectUri lib) uris := by
  unfold parseUriList HasList
  split
  case h_1 h =>
    constructor
    · intro hraises
      split at hraises
      · exact absurd hraises (not_raises_invalid _)
      · exact absurd hraises (not_raises_ok _)
    · rintro ⟨uris, ⟨value, hvalue, -⟩, -⟩
      rw [h] at hvalue
      cases hvalue
  case h_2 value h =>
    split
    case h_1 hlist =>
      constructor
      · exact fun hraises => absurd hraises (not_raises_invalid _)
      · rintro ⟨uris, ⟨other, hother, huris⟩, -⟩
        rw [h] at hother
        cases hother
        rw [hlist] at huris
        cases huris
    case h_2 uris hlist =>
      rw [raises_bind_of_quiet fun _ => not_raises_ok _, raises_checkUris fun uri =>
        isRedirectUri_error]
      constructor
      · intro hfirst
        exact ⟨uris, ⟨value, h, hlist⟩, hfirst⟩
      · rintro ⟨other, ⟨value', hvalue', huris⟩, hfirst⟩
        rw [h] at hvalue'
        cases hvalue'
        rw [hlist] at huris
        cases huris
        exact hfirst

theorem raises_parseWebOrigins :
    Raises (parseWebOrigins lib raw) ↔
      ∃ uris, HasList raw "web_origins" uris ∧ (FirstUnsplit lib (isWebOrigin lib) uris ∨
        ((∀ uri ∈ uris, isWebOrigin lib uri = .ok true) ∧ ∃ uri ∈ uris, BadPort lib uri)) := by
  unfold parseWebOrigins HasList
  split
  case h_1 h =>
    constructor
    · exact nofun
    · rintro ⟨uris, ⟨value, hvalue, -⟩, -⟩
      rw [h] at hvalue
      cases hvalue
  case h_2 value h =>
    split
    case h_1 hlist =>
      constructor
      · exact fun hraises => absurd hraises (not_raises_invalid _)
      · rintro ⟨uris, ⟨other, hother, huris⟩, -⟩
        rw [h] at hother
        cases hother
        rw [hlist] at huris
        cases huris
    case h_2 uris hlist =>
      have hraises : Raises (do
            checkUris (isWebOrigin lib) "web_origins contient une origine invalide : " uris
            mayRaise (originsOf lib uris)) ↔
          FirstUnsplit lib (isWebOrigin lib) uris ∨
            ((∀ uri ∈ uris, isWebOrigin lib uri = .ok true) ∧ ∃ uri ∈ uris, BadPort lib uri) := by
        rw [raises_bind, raises_checkUris fun uri => isWebOrigin_error]
        apply or_congr Iff.rfl
        constructor
        · rintro ⟨_, hok, hraises⟩
          have hall := checkUris_ok hok
          obtain ⟨uri, huri, herror⟩ := originsOf_error.mp (raises_mayRaise.mp hraises)
          refine ⟨hall, uri, huri, ?_⟩
          rcases originOfUri_error.mp herror with hunsplit | hport
          · obtain ⟨exception, hexception⟩ := isWebOrigin_error.mpr hunsplit
            rw [hall uri huri] at hexception
            cases hexception
          · exact hport
        · rintro ⟨hall, uri, huri, hport⟩
          refine ⟨(), checkUris_accepts.mpr hall, raises_mayRaise.mpr (originsOf_error.mpr ?_)⟩
          exact ⟨uri, huri, originOfUri_error.mpr (.inr hport)⟩
      rw [hraises]
      constructor
      · intro hdefect
        exact ⟨uris, ⟨value, h, hlist⟩, hdefect⟩
      · rintro ⟨other, ⟨value', hvalue', huris⟩, hdefect⟩
        rw [h] at hvalue'
        cases hvalue'
        rw [hlist] at huris
        cases huris
        exact hdefect

/-- A member with one URI, whose check splits it. -/
theorem raises_parseText_of_split {key absent message : String} {check : String → Parsed Unit}
    (hcheck : ∀ text, Raises (check text) ↔ Unsplit lib text) :
    Raises (parseText raw key absent check message) ↔ TextUnsplit lib raw key := by
  rw [raises_parseText]
  apply exists_congr
  intro text
  rw [hcheck]

/-- A call that may raise, and a verdict on what it gives. -/
theorem raises_verdict {α : Type} {x : Except Raised α} {f : α → Parsed Unit}
    (h : ∀ a, ¬ Raises (f a)) :
    Raises (mayRaise x >>= f) ↔ ∃ exception, x = .error exception := by
  rw [raises_bind_of_quiet h, raises_mayRaise]

theorem not_raises_ite {c : Prop} [Decidable c] (description : String) :
    ¬ Raises (if c then .ok () else invalid description : Parsed Unit) := by
  split
  · exact not_raises_ok ()
  · exact not_raises_invalid description

theorem raises_parseLogoutUri {key : String} :
    Raises (parseLogoutUri lib raw key) ↔ TextUnsplit lib raw key := by
  apply raises_parseText_of_split
  intro text
  show Raises (mayRaise (isRedirectUri lib text) >>= _) ↔ _
  rw [raises_verdict, isRedirectUri_error]
  intro valid
  split
  · exact not_raises_ok ()
  · exact not_raises_invalidUri _

theorem raises_parseSectorIdentifierUri :
    Raises (parseSectorIdentifierUri lib raw) ↔ TextUnsplit lib raw "sector_identifier_uri" := by
  apply raises_parseText_of_split
  intro text
  rw [raises_verdict]
  · rfl
  · intro parsed
    split
    · exact not_raises_invalid _
    · exact not_raises_ok ()

theorem raises_parseCibaNotificationEndpoint :
    Raises (parseCibaNotificationEndpoint lib raw) ↔
      TextUnsplit lib raw "backchannel_client_notification_endpoint" := by
  apply raises_parseText_of_split
  intro text
  rw [raises_verdict fun valid => not_raises_ite _, isRedirectUri_error]

theorem raises_parseJwksUri : Raises (parseJwksUri lib raw) ↔ TextUnsplit lib raw "jwks_uri" := by
  apply raises_parseText_of_split
  intro text
  rw [raises_verdict fun valid => not_raises_ite _, isJwksUri_error]

end Members

/-! ## The order of the members -/

/-- A step of the reading: when it is accepted, and when it raises. -/
structure Stage where
  accepted : Prop
  raises : Prop

/-- A step that raises is reached: every step before it is accepted. -/
def Breaks : List Stage → Prop
  | [] => False
  | stage :: rest => stage.raises ∨ (stage.accepted ∧ Breaks rest)

/-- The reading of a member that raises in some cases. -/
def may (x : Parsed α) (raises : Prop) : Stage := { accepted := Accepts x, raises }

/-- The reading of a member that refuses at most. -/
def quiet (x : Parsed α) : Stage := may x False

theorem breaks_bind {x : Parsed α} {f : α → Parsed β} {raises : Prop} {rest : List Stage}
    (hx : Raises x ↔ raises) (hf : ∀ a, Raises (f a) ↔ Breaks rest) :
    Raises (x >>= f) ↔ Breaks (may x raises :: rest) := by
  rw [raises_bind]
  apply or_congr hx
  constructor
  · rintro ⟨a, ha, hraises⟩
    exact ⟨⟨a, ha⟩, (hf a).mp hraises⟩
  · rintro ⟨⟨a, ha⟩, hrest⟩
    exact ⟨a, ha, (hf a).mpr hrest⟩

theorem breaks_quiet {x : Parsed α} {f : α → Parsed β} {rest : List Stage} (hx : ¬ Raises x)
    (hf : ∀ a, Raises (f a) ↔ Breaks rest) : Raises (x >>= f) ↔ Breaks (quiet x :: rest) :=
  breaks_bind (iff_false_intro hx) hf

section Metadata

variable (lib : UrlLibrary) (p : Platform) (b64decode : String → Option (List UInt8))
  (known : Finset String) (raw : Members)

/-- The members that `_parse_metadata_extras` reads, up to the last one with a URI. -/
def extrasStages : List Stage :=
  [quiet (parseScopes raw known), quiet (parseAuthMethod raw), quiet (parseGrantTypes raw),
    quiet (parseMembers raw "response_types" allowedResponseTypes "code"),
    quiet (parseRequestedSecret raw),
    quiet (parseBoolFlag raw "require_pushed_authorization_requests" false),
    quiet (parseBoolFlag raw "require_consent" false),
    may (parseJwksUri lib raw) (TextUnsplit lib raw "jwks_uri"),
    quiet (parseJwks p raw), quiet (parseTlsSubjectDn raw),
    quiet (parseTlsCertificate p raw b64decode), quiet (parseIdTokenSigningAlg raw),
    quiet (parseIdTokenEncryptionAlg raw), quiet (parseIdTokenEncryptionEnc raw),
    may (parseLogoutUri lib raw "frontchannel_logout_uri")
      (TextUnsplit lib raw "frontchannel_logout_uri"),
    quiet (parseSessionRequired raw "frontchannel_logout_session_required"),
    may (parseLogoutUri lib raw "backchannel_logout_uri")
      (TextUnsplit lib raw "backchannel_logout_uri"),
    quiet (parseSessionRequired raw "backchannel_logout_session_required"),
    quiet (parseBoolFlag raw "dpop_bound_access_tokens" false),
    quiet (parseBoolFlag raw "tls_client_certificate_bound_access_tokens" false),
    quiet (parseCibaDeliveryMode raw),
    may (parseCibaNotificationEndpoint lib raw)
      (TextUnsplit lib raw "backchannel_client_notification_endpoint")]

/-- The members that `_parse_metadata` reads, up to the last one with a URI. -/
def stages : List Stage :=
  [quiet (parseGrantTypes raw),
    may (parseUriList lib raw "redirect_uris" (usesRedirectFlows raw))
      (∃ uris, HasList raw "redirect_uris" uris ∧ FirstUnsplit lib (isRedirectUri lib) uris),
    may (parseUriList lib raw "post_logout_redirect_uris" false)
      (∃ uris, HasList raw "post_logout_redirect_uris" uris ∧
        FirstUnsplit lib (isRedirectUri lib) uris),
    may (parseWebOrigins lib raw)
      (∃ uris, HasList raw "web_origins" uris ∧ (FirstUnsplit lib (isWebOrigin lib) uris ∨
        ((∀ uri ∈ uris, isWebOrigin lib uri = .ok true) ∧ ∃ uri ∈ uris, BadPort lib uri))),
    quiet (parseSubjectType raw),
    may (parseSectorIdentifierUri lib raw) (TextUnsplit lib raw "sector_identifier_uri"),
    quiet (parseUserinfoSigningAlg raw)] ++ extrasStages lib p b64decode known raw

variable {lib p b64decode known raw}

/-- Behind the last URI the reading refuses at most. -/
theorem raises_parseMetadataExtras {β : Type} {f : MetadataExtras → Parsed β}
    (hf : ∀ extras, ¬ Raises (f extras)) :
    Raises (parseMetadataExtras lib p raw b64decode known >>= f) ↔
      Breaks (extrasStages lib p b64decode known raw) := by
  rw [raises_bind_of_quiet hf]
  refine breaks_quiet (not_raises_parseScopes _) fun _ => ?_
  refine breaks_quiet not_raises_parseAuthMethod fun _ => ?_
  refine breaks_quiet (not_raises_parseMembers _ _ _) fun _ => ?_
  refine breaks_quiet (not_raises_parseMembers _ _ _) fun _ => ?_
  refine breaks_quiet not_raises_parseRequestedSecret fun _ => ?_
  refine breaks_quiet (not_raises_parseBoolFlag _ _) fun _ => ?_
  refine breaks_quiet (not_raises_parseBoolFlag _ _) fun _ => ?_
  refine breaks_bind raises_parseJwksUri fun _ => ?_
  refine breaks_quiet not_raises_parseJwks fun _ => ?_
  refine breaks_quiet not_raises_parseTlsSubjectDn fun _ => ?_
  refine breaks_quiet (not_raises_parseTlsCertificate _) fun _ => ?_
  refine breaks_quiet (not_raises_parseChoice _ _ _ _) fun _ => ?_
  refine breaks_quiet (not_raises_parseChoice _ _ _ _) fun _ => ?_
  refine breaks_quiet (not_raises_parseChoice _ _ _ _) fun _ => ?_
  refine breaks_bind raises_parseLogoutUri fun _ => ?_
  refine breaks_quiet (not_raises_parseBoolFlag _ _) fun _ => ?_
  refine breaks_bind raises_parseLogoutUri fun _ => ?_
  refine breaks_quiet (not_raises_parseBoolFlag _ _) fun _ => ?_
  refine breaks_quiet (not_raises_parseBoolFlag _ _) fun _ => ?_
  refine breaks_quiet (not_raises_parseBoolFlag _ _) fun _ => ?_
  refine breaks_quiet (not_raises_parseChoice _ _ _ _) fun _ => ?_
  refine breaks_bind raises_parseCibaNotificationEndpoint fun _ => ?_
  apply iff_of_false
  · rw [raises_bind_of_quiet]
    · exact not_raises_parseChoice _ _ _ _
    · intro algorithm
      rw [raises_bind_of_quiet fun _ => not_raises_ok _]
      exact not_raises_parseBoolFlag _ _
  · exact id

/-- The exceptions of the parser are those of its first step that is not accepted. -/
theorem raises_parseMetadata :
    Raises (parseMetadata lib p b64decode known (.obj raw)) ↔
      Breaks (stages lib p b64decode known raw) := by
  refine breaks_quiet (not_raises_parseMembers _ _ _) fun _ => ?_
  refine breaks_bind raises_parseUriList fun _ => ?_
  refine breaks_bind raises_parseUriList fun _ => ?_
  refine breaks_bind raises_parseWebOrigins fun _ => ?_
  refine breaks_quiet (not_raises_parseChoice _ _ _ _) fun _ => ?_
  refine breaks_bind raises_parseSectorIdentifierUri fun _ => ?_
  refine breaks_quiet (not_raises_parseChoice _ _ _ _) fun _ => ?_
  refine raises_parseMetadataExtras ?_
  intro extras
  rw [raises_bind_of_quiet]
  · exact not_raises_parseBoolFlag _ _
  · intro fapiEnabled
    rw [raises_bind_of_quiet]
    · exact not_raises_parseBoolFlag _ _
    · intro fapi2Enabled
      split
      · exact not_raises_invalid _
      · rw [raises_bind_of_quiet fun _ => not_raises_ok _]
        exact not_raises_parseBoolFlag _ _

end Metadata

end Registration

end PurIdentityServer
