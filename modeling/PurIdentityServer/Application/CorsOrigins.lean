import PurIdentityServer.Application.RegisteredCredentials
import PurIdentityServer.Infrastructure.ClientRows

/-!
# CorsOrigins — the origins that may call the server from a browser

A request from a browser is answered for the origins of the redirect URIs
and of the declared web origins of the active clients. Every client is
asked in turn, until one has the origin; an origin that cannot be computed
ends the lookup. The lookup is the one the claim of an origin stands for,
whatever the clients are, exactly when their URIs are canonical.
-/

namespace PurIdentityServer

open Effects Urls Registration

variable (lib : UrlLibrary) (idna : Idna)

/-- `Client.cors_allowed_origins` -/
def Client.corsAllowedOrigins (client : Client) : Except Raised (Finset String) := do
  let origins ← originsOf lib (Text.sorted client.redirectUris)
  let declared ← originsOf lib (Text.sorted client.webOrigins)
  .ok (origins ∪ declared)

/-- `is_cors_origin_allowed` of the clients in memory -/
def isCorsOriginAllowed (origin : String) : List Client → Except Raised Bool
  | [] => .ok false
  | client :: rest =>
      if client.isActive then do
        let origins ← client.corsAllowedOrigins lib
        if origin ∈ origins then .ok true else isCorsOriginAllowed origin rest
      else isCorsOriginAllowed origin rest

/-- `_cors_origins` -/
def corsOrigins (row : ClientRow) : Except Raised (Finset String) :=
  Client.corsAllowedOrigins lib
    { clientId := row.clientId, redirectUris := row.redirectUris.toFinset
      webOrigins := row.webOrigins.toFinset }

/-- `SQLClientRepository.is_cors_origin_allowed`, over the rows as they come -/
def sqlIsCorsOriginAllowed (origin : String) : List ClientRow → Except Raised Bool
  | [] => .ok false
  | row :: rest =>
      if row.isActive then do
        let origins ← corsOrigins lib row
        if origin ∈ origins then .ok true else sqlIsCorsOriginAllowed origin rest
      else sqlIsCorsOriginAllowed origin rest

/-! ## The origins of a client -/

section Origins

variable {lib idna} {client : Client}

theorem mem_sorted {name : String} {names : Finset String} :
    name ∈ Text.sorted names ↔ name ∈ names := Finset.mem_sort _

theorem originsOf_ok {uris : List String} {origins : Finset String}
    (h : originsOf lib uris = .ok origins) :
    (∀ uri ∈ uris, ∃ o, originOfUri lib uri = .ok o) ∧
      ∀ o, o ∈ origins ↔ ∃ uri ∈ uris, originOfUri lib uri = .ok (some o) := by
  induction uris generalizing origins with
  | nil =>
      cases h
      constructor
      · intro uri hmem
        exact absurd hmem List.not_mem_nil
      · intro o
        simp
  | cons uri rest ih =>
      obtain ⟨origin, horigin, h⟩ := bind_eq_ok.mp h
      obtain ⟨others, hothers, h⟩ := bind_eq_ok.mp h
      obtain ⟨hdefined, hmem⟩ := ih hothers
      constructor
      · intro other hother
        rcases List.mem_cons.mp hother with rfl | hother
        · exact ⟨origin, horigin⟩
        · exact hdefined other hother
      · intro o
        cases origin with
        | none =>
            cases h
            rw [hmem o]
            simp [horigin]
        | some first =>
            cases h
            rw [Finset.mem_insert, hmem o]
            simp [horigin, eq_comm]

theorem originsOf_total {uris : List String}
    (h : ∀ uri ∈ uris, ∃ o, originOfUri lib uri = .ok o) :
    ∃ origins, originsOf lib uris = .ok origins := by
  induction uris with
  | nil => exact ⟨∅, rfl⟩
  | cons uri rest ih =>
      obtain ⟨origin, horigin⟩ := h uri List.mem_cons_self
      obtain ⟨origins, hrest⟩ := ih fun other hother => h other (List.mem_cons_of_mem uri hother)
      rw [originsOf, horigin, hrest]
      exact ⟨_, rfl⟩

/-- The URIs that a client has for a browser. -/
def Client.browserUris (client : Client) : Finset String := client.redirectUris ∪ client.webOrigins

theorem corsAllowedOrigins_ok {origins : Finset String}
    (h : client.corsAllowedOrigins lib = .ok origins) :
    (∀ uri ∈ client.browserUris, ∃ o, originOfUri lib uri = .ok o) ∧
      ∀ o, o ∈ origins ↔ ∃ uri ∈ client.browserUris, originOfUri lib uri = .ok (some o) := by
  obtain ⟨redirects, hredirects, h⟩ := bind_eq_ok.mp h
  obtain ⟨declared, hdeclared, h⟩ := bind_eq_ok.mp h
  cases h
  obtain ⟨hdefined, hmem⟩ := originsOf_ok hredirects
  obtain ⟨hdefined', hmem'⟩ := originsOf_ok hdeclared
  simp only [mem_sorted] at hdefined hmem hdefined' hmem'
  constructor
  · intro uri huri
    rcases Finset.mem_union.mp huri with huri | huri
    · exact hdefined uri huri
    · exact hdefined' uri huri
  · intro o
    rw [Finset.mem_union, hmem, hmem']
    constructor
    · rintro (⟨uri, huri, ho⟩ | ⟨uri, huri, ho⟩)
      · exact ⟨uri, Finset.mem_union_left _ huri, ho⟩
      · exact ⟨uri, Finset.mem_union_right _ huri, ho⟩
    · rintro ⟨uri, huri, ho⟩
      rcases Finset.mem_union.mp huri with huri | huri
      · exact .inl ⟨uri, huri, ho⟩
      · exact .inr ⟨uri, huri, ho⟩

theorem corsAllowedOrigins_total
    (h : ∀ uri ∈ client.browserUris, ∃ o, originOfUri lib uri = .ok o) :
    ∃ origins, client.corsAllowedOrigins lib = .ok origins := by
  have hofRedirects : ∀ uri ∈ Text.sorted client.redirectUris, ∃ o, originOfUri lib uri = .ok o :=
    fun uri huri => h uri (Finset.mem_union_left _ (mem_sorted.mp huri))
  have hofDeclared : ∀ uri ∈ Text.sorted client.webOrigins, ∃ o, originOfUri lib uri = .ok o :=
    fun uri huri => h uri (Finset.mem_union_right _ (mem_sorted.mp huri))
  obtain ⟨redirects, hredirects⟩ := originsOf_total hofRedirects
  obtain ⟨declared, hdeclared⟩ := originsOf_total hofDeclared
  refine ⟨redirects ∪ declared, ?_⟩
  rw [Client.corsAllowedOrigins, hredirects, hdeclared]
  rfl

end Origins

/-! ## The lookup -/

section Lookup

variable {lib idna}

/-- What an answer says of the clients. -/
theorem isCorsOriginAllowed_ok {origin : String} {clients : List Client} {answer : Bool}
    (h : isCorsOriginAllowed lib origin clients = .ok answer) :
    (answer = true → ∃ client ∈ clients, client.isActive = true ∧
      ∃ uri ∈ client.browserUris, originOfUri lib uri = .ok (some origin)) ∧
    (answer = false → ∀ client ∈ clients, client.isActive = true →
      ∀ uri ∈ client.browserUris, ∃ o, originOfUri lib uri = .ok o ∧ o ≠ some origin) := by
  induction clients with
  | nil =>
      cases h
      exact ⟨fun h => absurd h (by decide), fun _ _ hmem => absurd hmem List.not_mem_nil⟩
  | cons client rest ih =>
      unfold isCorsOriginAllowed at h
      split at h
      · rename_i hactive
        obtain ⟨origins, horigins, h⟩ := bind_eq_ok.mp h
        obtain ⟨hdefined, hmem⟩ := corsAllowedOrigins_ok horigins
        split at h
        · rename_i hallowed
          cases h
          exact ⟨fun _ => ⟨client, List.mem_cons_self, hactive, (hmem origin).mp hallowed⟩,
            fun h => absurd h (by decide)⟩
        · rename_i hother
          obtain ⟨hsome, hnone⟩ := ih h
          constructor
          · intro hanswer
            obtain ⟨found, hfound, hrest⟩ := hsome hanswer
            exact ⟨found, List.mem_cons_of_mem client hfound, hrest⟩
          · intro hanswer other hmember hactive' uri huri
            rcases List.mem_cons.mp hmember with rfl | hmember
            · obtain ⟨o, ho⟩ := hdefined uri huri
              refine ⟨o, ho, ?_⟩
              rintro rfl
              exact hother ((hmem origin).mpr ⟨uri, huri, ho⟩)
            · exact hnone hanswer other hmember hactive' uri huri
      · rename_i hinactive
        obtain ⟨hsome, hnone⟩ := ih h
        constructor
        · intro hanswer
          obtain ⟨found, hfound, hrest⟩ := hsome hanswer
          exact ⟨found, List.mem_cons_of_mem client hfound, hrest⟩
        · intro hanswer other hmember hactive uri huri
          rcases List.mem_cons.mp hmember with rfl | hmember
          · exact absurd hactive hinactive
          · exact hnone hanswer other hmember hactive uri huri

/-- Where every origin can be computed, there is an answer. -/
theorem isCorsOriginAllowed_total {origin : String} {clients : List Client}
    (h : ∀ client ∈ clients, client.isActive = true →
      ∀ uri ∈ client.browserUris, ∃ o, originOfUri lib uri = .ok o) :
    ∃ answer, isCorsOriginAllowed lib origin clients = .ok answer := by
  induction clients with
  | nil => exact ⟨false, rfl⟩
  | cons client rest ih =>
      have hrest := ih fun other hmember => h other (List.mem_cons_of_mem client hmember)
      unfold isCorsOriginAllowed
      split
      · rename_i hactive
        obtain ⟨origins, horigins⟩ :=
          corsAllowedOrigins_total (h client List.mem_cons_self hactive)
        rw [horigins]
        show ∃ answer, (if origin ∈ origins then _ else _) = _
        split
        · exact ⟨true, rfl⟩
        · exact hrest
      · exact hrest

/-- The rows answer as the clients they are written from. -/
theorem sqlIsCorsOriginAllowed_eq (keepsZone : Bool) (origin : String) (clients : List Client) :
    sqlIsCorsOriginAllowed lib origin (clients.map (ClientRow.toRow keepsZone)) =
      isCorsOriginAllowed lib origin clients := by
  induction clients with
  | nil => rfl
  | cons client rest ih =>
      have horigins : corsOrigins lib (ClientRow.toRow keepsZone client) =
          client.corsAllowedOrigins lib := by
        show Client.corsAllowedOrigins lib
          { clientId := client.clientId
            redirectUris := (Text.sorted client.redirectUris).toFinset
            webOrigins := (Text.sorted client.webOrigins).toFinset } = _
        rw [toFinset_sorted, toFinset_sorted]
        rfl
      rw [List.map_cons, sqlIsCorsOriginAllowed, isCorsOriginAllowed, horigins, ih]
      rfl

/-- No origin is the empty text. -/
theorem ofUri_ne_empty (uri : String) : Origin.ofUri lib idna uri ≠ some "" := by
  intro h
  obtain ⟨scheme, rest, hscheme, heq, -⟩ := ofUri_shape lib idna h
  have hlist : [] = scheme ++ "://".toList ++ rest := String.ofList_inj.mp heq
  rcases hscheme with rfl | rfl
  · cases hlist
  · cases hlist

/-- The lookup answers as the origins of the URIs say. -/
def Faithful (lib : UrlLibrary) (idna : Idna) (clients : List Client) : Prop :=
  ∀ origin, ∃ answer, isCorsOriginAllowed lib origin clients = .ok answer ∧
    (answer = true ↔ ∃ client ∈ clients, client.isActive = true ∧
      ∃ uri ∈ client.browserUris, Origin.ofUri lib idna uri = some origin)

theorem faithful_of_canonical {clients : List Client}
    (h : ∀ client ∈ clients, client.isActive = true →
      ∀ uri ∈ client.browserUris, Canonical lib uri) : Faithful lib idna clients := by
  intro origin
  have horigin : ∀ client ∈ clients, client.isActive = true → ∀ uri ∈ client.browserUris,
      originOfUri lib uri = .ok (Origin.ofUri lib idna uri) :=
    fun client hmem hactive uri huri =>
      originOfUri_of_canonical lib idna (h client hmem hactive uri huri)
  have hdefined : ∀ client ∈ clients, client.isActive = true →
      ∀ uri ∈ client.browserUris, ∃ o, originOfUri lib uri = .ok o :=
    fun client hmem hactive uri huri => ⟨_, horigin client hmem hactive uri huri⟩
  obtain ⟨answer, hanswer⟩ :
      ∃ answer, isCorsOriginAllowed lib origin clients = .ok answer :=
    isCorsOriginAllowed_total hdefined
  obtain ⟨hsome, hnone⟩ := isCorsOriginAllowed_ok hanswer
  refine ⟨answer, hanswer, ?_, ?_⟩
  · intro htrue
    obtain ⟨client, hmem, hactive, uri, huri, ho⟩ := hsome htrue
    rw [horigin client hmem hactive uri huri] at ho
    exact ⟨client, hmem, hactive, uri, huri, Except.ok.inj ho⟩
  · rintro ⟨client, hmem, hactive, uri, huri, ho⟩
    cases answer with
    | true => rfl
    | false =>
        obtain ⟨o, ho', hne⟩ := hnone rfl client hmem hactive uri huri
        rw [horigin client hmem hactive uri huri, ho] at ho'
        exact absurd (Except.ok.inj ho').symm hne

theorem canonical_of_faithful {clients : List Client} (h : Faithful lib idna clients)
    {client : Client} (hmem : client ∈ clients) (hactive : client.isActive = true) {uri : String}
    (huri : uri ∈ client.browserUris) : Canonical lib uri := by
  -- nobody has the empty text as an origin, so that lookup asks every active client
  have hdefined : ∀ client ∈ clients, client.isActive = true →
      ∀ uri ∈ client.browserUris, ∃ o, originOfUri lib uri = .ok o := by
    obtain ⟨answer, hanswer, hiff⟩ := h ""
    cases answer with
    | true =>
        obtain ⟨_, -, -, uri, -, ho⟩ := hiff.mp rfl
        exact absurd ho (ofUri_ne_empty uri)
    | false =>
        intro client hmem hactive uri huri
        obtain ⟨o, ho, -⟩ := (isCorsOriginAllowed_ok hanswer).2 rfl client hmem hactive uri huri
        exact ⟨o, ho⟩
  by_contra hcanonical
  rcases apart_of_not_canonical lib idna hcanonical with ⟨e, he⟩ | ⟨o, ho, hapart⟩
  · obtain ⟨o, ho⟩ := hdefined client hmem hactive uri huri
    rw [he] at ho
    cases ho
  · rcases hapart with hnever | ⟨o', ho', hnever⟩
    · -- the text is answered for, and no URI has it as its origin
      obtain ⟨answer, hanswer, hiff⟩ := h o
      cases answer with
      | true =>
          obtain ⟨_, -, -, uri', -, huri'⟩ := hiff.mp rfl
          exact hnever uri' huri'
      | false =>
          obtain ⟨o'', ho'', hne⟩ :=
            (isCorsOriginAllowed_ok hanswer).2 rfl client hmem hactive uri huri
          rw [ho] at ho''
          exact hne (Except.ok.inj ho'').symm
    · -- the URI has the text as its origin, and no client is answered for it
      obtain ⟨answer, hanswer, hiff⟩ := h o'
      have htrue := hiff.mpr ⟨client, hmem, hactive, uri, huri, ho'⟩
      obtain ⟨_, -, -, uri', -, huri'⟩ := (isCorsOriginAllowed_ok hanswer).1 htrue
      exact hnever uri' huri'

end Lookup

/-! ## Accepted clients -/

section Accepted

variable {lib idna}

theorem checkUris_ok {check : String → Except Raised Bool} {message : String} {uris : List String}
    (h : checkUris check message uris = .ok ()) : ∀ uri ∈ uris, check uri = .ok true := by
  induction uris with
  | nil =>
      intro uri hmem
      exact absurd hmem List.not_mem_nil
  | cons uri rest ih =>
      obtain ⟨valid, hvalid, h⟩ := bind_eq_ok.mp h
      split at h
      · rename_i hcheck
        intro other hmem
        rcases List.mem_cons.mp hmem with rfl | hmem
        · rw [RegistrationUseCase.mayRaise_ok hvalid, hcheck]
        · exact ih h other hmem
      · cases h

theorem parseUriList_ok {raw : Members} {key : String} {required : Bool} {uris : Finset String}
    (h : parseUriList lib raw key required = .ok uris) :
    ∀ uri ∈ uris, isRedirectUri lib uri = .ok true := by
  unfold parseUriList at h
  split at h
  · split at h
    · cases h
    · cases h
      intro uri hmem
      exact absurd hmem (Finset.notMem_empty uri)
  · split at h
    · cases h
    · obtain ⟨_, hcheck, h⟩ := bind_eq_ok.mp h
      cases h
      intro uri hmem
      exact checkUris_ok hcheck uri (List.mem_toFinset.mp hmem)

/-- The redirect URIs that metadata may have. -/
theorem parseMetadata_redirectUris {p : Platform} {raw : Json}
    {b64decode : String → Option (List UInt8)} {known : Finset String}
    {metadata : RegistrationMetadata}
    (h : parseMetadata lib p b64decode known raw = .ok metadata) :
    ∀ uri ∈ metadata.redirectUris, isRedirectUri lib uri = .ok true := by
  unfold parseMetadata at h
  split at h
  · obtain ⟨_, -, h⟩ := bind_eq_ok.mp h
    obtain ⟨redirectUris, hredirectUris, h⟩ := bind_eq_ok.mp h
    iterate 8 obtain ⟨_, -, h⟩ := bind_eq_ok.mp h
    split at h
    · cases h
    · obtain ⟨_, -, h⟩ := bind_eq_ok.mp h
      cases h
      exact parseUriList_ok hredirectUris
  · cases h

theorem accepted_redirectUris {κ : Type} {useCase : RegistrationUseCase κ} {client : Client}
    (h : useCase.Accepted client) :
    ∀ uri ∈ client.redirectUris, isRedirectUri useCase.urls uri = .ok true := by
  obtain ⟨around, raw, kept, metadata, secretHash, token, hvalid, hclient⟩ := h
  obtain ⟨known, -, hvalid⟩ := bind_eq_ok.mp hvalid
  obtain ⟨parsed, hparsed, hvalid⟩ := bind_eq_ok.mp hvalid
  obtain ⟨_, -, hvalid⟩ := bind_eq_ok.mp hvalid
  cases hvalid
  obtain ⟨method, -, hclient⟩ := bind_eq_ok.mp hclient
  obtain ⟨keys, -, hclient⟩ := bind_eq_ok.mp hclient
  obtain ⟨subjectType, -, hclient⟩ := bind_eq_ok.mp hclient
  cases hclient
  exact parseMetadata_redirectUris hparsed

/-- A URI accepted at registration is one of the web, with an authority. -/
theorem parts_of_isRedirectUri {uri : String} (h : isRedirectUri lib uri = .ok true) :
    ∃ parts, urlsplit lib uri = .ok parts ∧ parts.Web ∧ parts.netloc ≠ [] := by
  obtain ⟨parts, hparts, h⟩ := bind_eq_ok.mp h
  have hconditions := of_decide_eq_true (Except.ok.inj h)
  exact ⟨parts, hparts, hconditions.1, hconditions.2.1⟩

/-- The origin of a redirect URI is computed alike by both functions, and is the one of RFC 6454. -/
def Agrees (lib : UrlLibrary) (idna : Idna) (uri : String) : Prop :=
  ∃ o, originOfUri lib uri = .ok (some o) ∧ Origin.ofUri lib idna uri = some o ∧
    originOfUrl lib uri = .ok o

theorem agrees_iff {uri : String} (h : isRedirectUri lib uri = .ok true) :
    Agrees lib idna uri ↔ Canonical lib uri := by
  obtain ⟨parts, hparts, hweb, hnetloc⟩ := parts_of_isRedirectUri h
  constructor
  · rintro ⟨o, ho, hrfc, -⟩
    by_contra hcanonical
    rcases apart_of_not_canonical lib idna hcanonical with ⟨e, he⟩ | ⟨o', ho', hapart⟩
    · rw [he] at ho
      cases ho
    · rw [ho'] at ho
      cases ho
      rcases hapart with hnever | ⟨o'', ho'', hnever⟩
      · exact hnever uri hrfc
      · rw [ho''] at hrfc
        cases hrfc
        exact hnever uri ho'
  · rintro ⟨parts', hparts', hplain⟩
    rw [hparts] at hparts'
    cases hparts'
    exact agree_of_plain lib idna hparts hweb hnetloc (hplain hweb hnetloc)

end Accepted

/-- Of accepted clients, the origins of the redirect URIs are those of RFC 6454 and of the session
management, and the lookup over any population of them, in memory and in the database, answers for
the origins of the active clients, exactly as far as the URIs are canonical. -/
theorem corsOrigins_canonical {κ : Type} (useCase : RegistrationUseCase κ) (idna : Idna) :
    (∀ client, useCase.Accepted client → ∀ uri ∈ client.redirectUris,
      Agrees useCase.urls idna uri ↔ Canonical useCase.urls uri) ∧
    ∀ clients : List Client, (∀ client ∈ clients, useCase.Accepted client) →
      (Faithful useCase.urls idna clients ↔ ∀ client ∈ clients, client.isActive = true →
        ∀ uri ∈ client.redirectUris ∪ client.webOrigins, Canonical useCase.urls uri) ∧
      ∀ keepsZone origin,
        sqlIsCorsOriginAllowed useCase.urls origin (clients.map (ClientRow.toRow keepsZone)) =
          isCorsOriginAllowed useCase.urls origin clients := by
  constructor
  · intro client haccepted uri huri
    exact agrees_iff (accepted_redirectUris haccepted uri huri)
  · intro clients _
    refine ⟨⟨?_, faithful_of_canonical⟩, fun keepsZone origin =>
      sqlIsCorsOriginAllowed_eq keepsZone origin clients⟩
    intro h client hmem hactive uri huri
    exact canonical_of_faithful h hmem hactive huri

/-! ## A port that is no number -/

namespace RegistrationUseCase.Sample

/-- A client registers a redirect URI whose port is a word. -/
def wordPort : RegisterRequest where
  metadata := .obj [("redirect_uris", .arr [.str "https://app.example:not-a-port/cb"])]

/-- The client is accepted, and from then on the lookup raises for every origin. -/
theorem lookup_raises :
    ∃ registration w', Answers (register useCase () wordPort) {} registration w' ∧
      ∀ origin, isCorsOriginAllowed useCase.urls origin w'.clients.rows =
        .error (.other "ValueError") := by
  have hsaved : ∃ registration w' client, Answers (register useCase () wordPort) {} registration w' ∧
      w'.clients.rows = [client] ∧ client.isActive = true ∧
      client.redirectUris = {"https://app.example:not-a-port/cb"} :=
    ⟨_, _, _, rfl, rfl, rfl, rfl⟩
  obtain ⟨registration, w', client, hanswer, hrows, hactive, huris⟩ := hsaved
  refine ⟨registration, w', hanswer, ?_⟩
  intro origin
  have hraises : client.corsAllowedOrigins useCase.urls = .error (.other "ValueError") := by
    rw [Client.corsAllowedOrigins, huris, Text.sorted, Finset.sort_singleton]
    rfl
  rw [hrows, isCorsOriginAllowed, if_pos hactive, hraises]
  rfl

end RegistrationUseCase.Sample

end PurIdentityServer
