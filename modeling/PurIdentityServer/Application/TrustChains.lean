import Mathlib.Data.List.Chain
import PurIdentityServer.Application.Federation

/-!
# TrustChains — which links of a resolved chain are checked

A trust chain is `Linked` when each statement is about the issuer of the
one below it and its keys verify that one, up to the self-signed
configuration of a configured anchor. The walk asks every superior for a
statement about the leaf, never about the superior below, and fetches the
anchor's configuration a second time at the end. A resolved chain is
therefore linked exactly when the walk meets an anchor after at most one
superior and the configuration fetched last has the key that signed the
statement under it (`resolved_linked_iff`).
-/

namespace PurIdentityServer

open Effects

namespace Federation

section Chains

variable {κ σ α : Type} {p : FederationPlatform} {jwt : PyJwt κ} {config : FederationConfig}
  {outside : Outside σ}

/-! ## What a verified statement has passed -/

/-- A key of the JWK Set, chosen by the statement's `kid`, verifies its signature. -/
def Signs (jwt : PyJwt κ) (jwks : Members) (token : String) : Prop :=
  ∃ kid candidate key, statementHeader jwt token = some kid ∧
    candidate ∈ candidateKeys jwks kid ∧ jwt.publicKey candidate = some key ∧
    jwt.signed token key [algorithmOf candidate] = true

theorem get_of_not_differs {claims : Members} {name expected : String}
    (h : differs claims name expected = false) (hne : expected ≠ "") :
    claims.get name = some (.str expected) := by
  unfold differs at h
  rw [decide_eq_true hne, Bool.true_and] at h
  split at h
  · rename_i value hget
    have hvalue : value = expected := by simpa using h
    rw [hget, hvalue]
  · cases h

theorem verifyWith_some {now : Instant} {token issuer subject : String}
    {candidate claims : Members}
    (h : verifyWith jwt now token issuer subject candidate = .ok (some claims)) :
    jwt.payload token = some claims ∧ differs claims "iss" issuer = false ∧
      differs claims "sub" subject = false ∧ ∃ key, jwt.publicKey candidate = some key ∧
        jwt.signed token key [algorithmOf candidate] = true := by
  unfold verifyWith at h
  split at h
  · cases h
  · rename_i key hkey
    split at h
    · rename_i found hdecode
      obtain ⟨hpayload, hsigned, _⟩ := jwt.decode_eq_ok.mp hdecode
      by_cases hdiffers : (differs found "iss" issuer || differs found "sub" subject) = true
      · rw [if_pos hdiffers] at h
        cases h
      · rw [if_neg hdiffers] at h
        cases h
        have hboth := Bool.or_eq_false_iff.mp (Bool.eq_false_iff.mpr hdiffers)
        exact ⟨hpayload, hboth.1, hboth.2, key, hkey, hsigned⟩
    · split at h <;> cases h

theorem verifyAmong_some {now : Instant} {token issuer subject : String} {claims : Members}
    {candidates : List Members}
    (h : verifyAmong jwt now token issuer subject candidates = .ok (some claims)) :
    ∃ candidate ∈ candidates,
      verifyWith jwt now token issuer subject candidate = .ok (some claims) := by
  induction candidates with
  | nil => cases h
  | cons candidate rest ih =>
      unfold verifyAmong at h
      obtain ⟨found, hfound, h⟩ := bind_eq_ok.mp h
      cases found with
      | some verified =>
          cases h
          exact ⟨candidate, List.mem_cons_self, hfound⟩
      | none =>
          obtain ⟨c, hc, hverified⟩ := ih h
          exact ⟨c, List.mem_cons_of_mem _ hc, hverified⟩

theorem verifyEntityStatement_some {now : Instant} {token issuer subject : String}
    {jwks claims : Members}
    (h : verifyEntityStatement jwt now token jwks issuer subject = .ok (some claims)) :
    jwt.payload token = some claims ∧ differs claims "iss" issuer = false ∧
      differs claims "sub" subject = false ∧ Signs jwt jwks token := by
  unfold verifyEntityStatement at h
  split at h
  · cases h
  · rename_i kid hkid
    obtain ⟨candidate, hmem, hverified⟩ := verifyAmong_some h
    obtain ⟨hpayload, hiss, hsub, key, hkey, hsigned⟩ := verifyWith_some hverified
    exact ⟨hpayload, hiss, hsub, kid, candidate, key, hkid, hmem, hkey, hsigned⟩

theorem parseOrNone_some {claims : Members} {st : EntityStatement}
    (h : parseOrNone p claims = .ok (some st)) : st.ParsedFrom p claims := by
  unfold parseOrNone at h
  split at h
  · rename_i found hparse
    cases h
    exact parseEntityStatement_ok hparse
  · cases h
  · cases h

/-- A statement and its JWT: the claims are the token's, a key of `jwks` signed it,
and it is about `subject` by `issuer`. -/
structure Verified (p : FederationPlatform) (jwt : PyJwt κ) (jwks : Members)
    (issuer subject : String) (st : EntityStatement) (token : String) : Prop where
  parsed : ∃ claims, jwt.payload token = some claims ∧ st.ParsedFrom p claims
  issuer_eq : st.issuer = issuer
  subject_eq : st.subject = subject
  signs : Signs jwt jwks token

/-- A self-signed entity configuration and its JWT. -/
abbrev Configuration (p : FederationPlatform) (jwt : PyJwt κ) (entity : String)
    (st : EntityStatement) (token : String) : Prop :=
  Verified p jwt st.jwks entity entity st token

namespace Verified

variable {jwks : Members} {issuer subject token : String} {st : EntityStatement}

theorem issuer_ne (h : Verified p jwt jwks issuer subject st token) : issuer ≠ "" := by
  obtain ⟨claims, _, hparsed⟩ := h.parsed
  exact h.issuer_eq ▸ hparsed.issuer_ne

theorem subject_ne (h : Verified p jwt jwks issuer subject st token) : subject ≠ "" := by
  obtain ⟨claims, _, hparsed⟩ := h.parsed
  exact h.subject_eq ▸ hparsed.subject_ne

theorem hint_ne (h : Verified p jwt jwks issuer subject st token) {hint : String}
    (hmem : hint ∈ st.authorityHints) : hint ≠ "" := by
  obtain ⟨claims, _, hparsed⟩ := h.parsed
  exact hparsed.hint_ne hmem

end Verified

theorem verifiedStatement_some {token issuer subject token' : String} {jwks : Members}
    {st : EntityStatement} {s s' : σ} (hissuer : issuer ≠ "") (hsubject : subject ≠ "")
    (h : verifiedStatement p jwt outside token jwks issuer subject s
      = .ok (some (st, token'), s')) :
    token' = token ∧ Verified p jwt jwks issuer subject st token := by
  unfold verifiedStatement at h
  obtain ⟨found, hverify, h⟩ := bind_eq_ok.mp h
  cases found with
  | none => cases h
  | some claims =>
      obtain ⟨parsed, hparse, h⟩ := bind_eq_ok.mp h
      cases parsed with
      | none => cases h
      | some st' =>
          cases h
          obtain ⟨hpayload, hiss, hsub, hsigns⟩ := verifyEntityStatement_some hverify
          have hparsed := parseOrNone_some hparse
          have hissEq := hparsed.claims_iss.symm.trans (get_of_not_differs hiss hissuer)
          have hsubEq := hparsed.claims_sub.symm.trans (get_of_not_differs hsub hsubject)
          cases hissEq
          cases hsubEq
          exact ⟨rfl, ⟨claims, hpayload, hparsed⟩, rfl, rfl, hsigns⟩

/-- An entity configuration is verified with the JWK Set it carries. -/
theorem ownJwks_of_some {found : Option Json} {verify : Members → Use σ (Option α)} {a : α}
    {s s' : σ}
    (h : (match found with
      | some (.obj jwks) => verify jwks
      | _ => pure none : Use σ (Option α)) s = .ok (some a, s')) :
    ∃ jwks, found = some (.obj jwks) ∧ verify jwks s = .ok (some a, s') := by
  split at h
  · exact ⟨_, rfl, h⟩
  · exact absurd (run_pure_eq_ok.mp h).1 (by simp)

theorem fetchConfiguration_some {entity token : String} {st : EntityStatement} {s s' : σ}
    (hentity : entity ≠ "")
    (h : fetchConfiguration p jwt outside entity s = .ok (some (st, token), s')) :
    Configuration p jwt entity st token := by
  unfold fetchConfiguration at h
  obtain ⟨found, s₁, _, h⟩ := run_bind_eq_ok.mp h
  cases found with
  | none => exact absurd (run_pure_eq_ok.mp h).1 (by simp)
  | some fetched =>
      obtain ⟨jwks, hjwks, h⟩ := ownJwks_of_some h
      obtain ⟨rfl, hverified⟩ := verifiedStatement_some hentity hentity h
      obtain ⟨claims, hpayload, hparsed⟩ := hverified.parsed
      have hget : claims.get "jwks" = some (.obj jwks) := by
        simpa [hpayload] using hjwks
      have heq := hget.symm.trans (parseJwks_ok hparsed.jwks)
      cases heq
      exact hverified

theorem fetchSubordinateStatement_some {superior st : EntityStatement} {subject token : String}
    {s s' : σ} (hissuer : superior.issuer ≠ "") (hsubject : subject ≠ "")
    (h : fetchSubordinateStatement p jwt outside superior subject s
      = .ok (some (st, token), s')) :
    Verified p jwt superior.jwks superior.issuer subject st token := by
  unfold fetchSubordinateStatement at h
  simp only at h
  split at h
  · exact absurd (run_pure_eq_ok.mp h).1 (by simp)
  · obtain ⟨found, s₁, _, h⟩ := run_bind_eq_ok.mp h
    cases found with
    | none => exact absurd (run_pure_eq_ok.mp h).1 (by simp)
    | some fetched =>
        obtain ⟨rfl, hverified⟩ := verifiedStatement_some hissuer hsubject h
        exact hverified

/-- The superior reached is a new entity, and its configuration is its own. -/
theorem nextSuperior_some {hints seen seen' : List String} {superior : EntityStatement} {s s' : σ}
    (hhints : ∀ hint ∈ hints, hint ≠ "")
    (h : nextSuperior p jwt outside hints seen s = .ok (some (superior, seen'), s')) :
    superior.issuer ∉ seen ∧ seen' = superior.issuer :: seen ∧
      ∃ token, Configuration p jwt superior.issuer superior token := by
  induction hints generalizing s with
  | nil => exact absurd (run_pure_eq_ok.mp h).1 (by simp)
  | cons hint rest ih =>
      have hrest : ∀ name ∈ rest, name ≠ "" := fun name hmem =>
        hhints name (List.mem_cons_of_mem _ hmem)
      unfold nextSuperior at h
      split at h
      · exact ih hrest h
      · rename_i hnew
        obtain ⟨found, s₁, hfetch, h⟩ := run_bind_eq_ok.mp h
        cases found with
        | none => exact ih hrest h
        | some fetched =>
            have hpair := (run_pure_eq_ok.mp h).1
            cases hpair
            have hconfiguration :=
              fetchConfiguration_some (hhints hint List.mem_cons_self) hfetch
            have hissuer := hconfiguration.issuer_eq
            rw [hissuer]
            exact ⟨hnew, rfl, fetched.2, hconfiguration⟩

/-- A registered entity configuration is a configuration, as a fetched one is. -/
theorem validatedRegistrationStatement_ok {token : String} {st : EntityStatement} {s s' : σ}
    (h : validatedRegistrationStatement p jwt config outside token s = .ok (st, s')) :
    Configuration p jwt st.subject st token := by
  unfold validatedRegistrationStatement at h
  split at h
  · cases h
  · rename_i unverified hpayload
    split at h
    · rename_i issuer subject hiss hsub
      split at h
      · cases h
      · rename_i hsame
        obtain ⟨hissuer, heq⟩ := not_or.mp hsame
        have heq : issuer = subject := not_not.mp heq
        subst heq
        split at h
        · rename_i jwks hjwks
          obtain ⟨found, hverify, h⟩ := bind_eq_ok.mp h
          cases found with
          | none => cases h
          | some claims =>
              obtain ⟨hclaims, hdiss, hdsub, hsigns⟩ := verifyEntityStatement_some hverify
              have hunverified := hclaims.symm.trans hpayload
              cases hunverified
              simp only at h
              split at h
              · cases h
              · split at h
                · split at h
                  · rename_i found hparse
                    cases h
                    have hparsed := parseEntityStatement_ok hparse
                    have hissEq := hparsed.claims_iss.symm.trans hiss
                    have hsubEq := hparsed.claims_sub.symm.trans hsub
                    have hjwksEq := hjwks.symm.trans (parseJwks_ok hparsed.jwks)
                    cases hissEq
                    cases hjwksEq
                    have hself : st.subject = st.issuer := by
                      simpa using hsubEq
                    exact ⟨⟨_, hpayload, hparsed⟩, hself.symm, rfl, hsigns⟩
                  · cases h
                  · cases h
                · cases h
        · cases h
    · cases h

/-! ## Linked chains -/

/-- Each statement is about the issuer of the one below and its keys verify that
one; the last is the self-signed configuration of a configured anchor; the second
attests the keys of the leaf. -/
structure Linked (jwt : PyJwt κ) (config : FederationConfig) (chain : TrustChain) : Prop where
  names : chain.statements.IsChain fun lower upper => lower.issuer = upper.subject
  signatures : ∀ (i : Nat) (token : String) (upper : EntityStatement),
    chain.tokens[i]? = some token → chain.statements[i + 1]? = some upper →
      Signs jwt upper.jwks token
  anchor : ∃ anchor token, chain.statements.getLast? = some anchor ∧
    chain.tokens.getLast? = some token ∧ anchor.isSelfSigned = true ∧
    anchor.issuer ∈ config.trustAnchors ∧ Signs jwt anchor.jwks token
  leaf : ∃ leaf token superior, chain.statements[0]? = some leaf ∧
    chain.tokens[0]? = some token ∧ chain.statements[1]? = some superior ∧
    superior.subject = leaf.subject ∧ Signs jwt superior.jwks token

/-- The configuration the fetcher now serves for `entity` has a key that signed the
statement. -/
def AnchorSigns (p : FederationPlatform) (jwt : PyJwt κ) (outside : Outside σ) (entity token : String)
    (s : σ) : Prop :=
  ∃ anchor anchorToken s', fetchConfiguration p jwt outside entity s
    = .ok (some (anchor, anchorToken), s') ∧ Signs jwt anchor.jwks token

/-- The statement is an anchor's, or the first superior the fetcher serves is an
anchor, and the anchor's configuration fetched after that signed what is under it. -/
def DirectlyAnchored (p : FederationPlatform) (jwt : PyJwt κ) (config : FederationConfig)
    (outside : Outside σ) (statement : EntityStatement) (trustAnchor token : String) (s : σ) :
    Prop :=
  config.trustAnchors ≠ [] ∧
    if isTrustAnchor config statement trustAnchor then
      AnchorSigns p jwt outside statement.issuer token s
    else
      ∃ superior seen s₁ subordinate s₂,
        nextSuperior p jwt outside statement.authorityHints [statement.subject] s
            = .ok (some (superior, seen), s₁) ∧
          isTrustAnchor config superior trustAnchor = true ∧
          fetchSubordinateStatement p jwt outside superior statement.subject s₁
            = .ok (some subordinate, s₂) ∧
          AnchorSigns p jwt outside superior.issuer subordinate.2 s₂

theorem isTrustAnchor_selfSigned {st : EntityStatement} {trustAnchor : String}
    (h : isTrustAnchor config st trustAnchor = true) :
    st.issuer = st.subject ∧
      (if trustAnchor ≠ "" then trustAnchor else st.issuer) = st.issuer := by
  unfold isTrustAnchor at h
  obtain ⟨hself, hanchor⟩ := Bool.and_eq_true_iff.mp h
  refine ⟨by simpa [EntityStatement.isSelfSigned] using hself, ?_⟩
  split
  · rename_i hne
    rw [if_pos hne] at hanchor
    exact (of_decide_eq_true hanchor).symm
  · rfl

/-- A chain resolved at an anchor: its configuration, fetched again, ends the chain. -/
theorem anchorChain_resolved {trustAnchor : String} {current : EntityStatement}
    {statements : List EntityStatement} {tokens : List String} {result : TrustChain} {s s' : σ}
    (hanchor : isTrustAnchor config current trustAnchor = true)
    (h : anchorChain p jwt config outside trustAnchor current statements tokens s
      = .ok (.resolved result, s')) :
    ∃ anchor token s₁, fetchConfiguration p jwt outside current.issuer s
        = .ok (some (anchor, token), s₁) ∧
      result = ⟨statements ++ [anchor], tokens ++ [token]⟩ ∧
      (config.trustAnchors = [] ∨ current.issuer ∈ config.trustAnchors) ∧
      ∀ subject superior rest first others, statements = subject :: superior :: rest →
        tokens = first :: others → Signs jwt superior.jwks first := by
  unfold anchorChain at h
  rw [(isTrustAnchor_selfSigned hanchor).2] at h
  split at h
  · exact absurd (run_pure_eq_ok.mp h).1 (by simp)
  · rename_i haccepted
    obtain ⟨found, s₁, hfetch, h⟩ := run_bind_eq_ok.mp h
    cases found with
    | none => exact absurd (run_pure_eq_ok.mp h).1 (by simp)
    | some fetched =>
        obtain ⟨attested, s₂, hattested, h⟩ := run_bind_eq_ok.mp h
        cases attested with
        | false => exact absurd (run_pure_eq_ok.mp h).1 (by simp)
        | true =>
            have hresult := (run_pure_eq_ok.mp h).1
            cases hresult
            refine ⟨fetched.1, fetched.2, s₁, hfetch, rfl, ?_, ?_⟩
            · by_cases hnil : config.trustAnchors = []
              · exact .inl hnil
              · by_cases hmem : current.issuer ∈ config.trustAnchors
                · exact .inr hmem
                · exact absurd ⟨hnil, hmem⟩ haccepted
            · rintro subject superior rest first others rfl rfl
              unfold subjectAttestedKeys at hattested
              obtain ⟨verified, hverify, hsome⟩ := bind_eq_ok.mp hattested
              cases verified with
              | none => cases hsome
              | some claims => exact (verifyEntityStatement_some hverify).2.2.2

/-- What one round of the walk does: it stands at an anchor, or asks the next
superior for a statement about the leaf and goes on from there. -/
theorem climb_cases {trustAnchor subject : String} {fuel : Nat} {current : EntityStatement}
    {seen : List String} {statements : List EntityStatement} {tokens : List String}
    {result : TrustChain} {s s' : σ}
    (h : climb p jwt config outside trustAnchor subject fuel current seen statements tokens s
      = .ok (.resolved result, s')) :
    (isTrustAnchor config current trustAnchor = true ∧
      anchorChain p jwt config outside trustAnchor current statements tokens s
        = .ok (.resolved result, s')) ∨
    (isTrustAnchor config current trustAnchor = false ∧
      ∃ fewer superior seen' s₁ subordinate s₂, fuel = fewer + 1 ∧
        nextSuperior p jwt outside current.authorityHints seen s
          = .ok (some (superior, seen'), s₁) ∧
        fetchSubordinateStatement p jwt outside superior subject s₁
          = .ok (some subordinate, s₂) ∧
        climb p jwt config outside trustAnchor subject fewer superior seen'
          (statements ++ [subordinate.1]) (tokens ++ [subordinate.2]) s₂
          = .ok (.resolved result, s')) := by
  unfold climb at h
  split at h
  · rename_i hanchor
    exact .inl ⟨hanchor, h⟩
  · rename_i hanchor
    right
    refine ⟨Bool.eq_false_iff.mpr hanchor, ?_⟩
    cases fuel with
    | zero => exact absurd (run_pure_eq_ok.mp h).1 (by simp)
    | succ fewer =>
        obtain ⟨found, s₁, hnext, h⟩ := run_bind_eq_ok.mp h
        cases found with
        | none => exact absurd (run_pure_eq_ok.mp h).1 (by simp)
        | some reached =>
            obtain ⟨subordinate, s₂, hsubordinate, h⟩ := run_bind_eq_ok.mp h
            cases subordinate with
            | none => exact absurd (run_pure_eq_ok.mp h).1 (by simp)
            | some subordinate =>
                exact ⟨fewer, reached.1, reached.2, s₁, subordinate, s₂, rfl, hnext,
                  hsubordinate, h⟩

/-- The walk only adds statements. -/
theorem climb_extends {trustAnchor subject : String} {fuel : Nat} {current : EntityStatement}
    {seen : List String} {statements : List EntityStatement} {tokens : List String}
    {result : TrustChain} {s s' : σ}
    (h : climb p jwt config outside trustAnchor subject fuel current seen statements tokens s
      = .ok (.resolved result, s')) :
    statements <+: result.statements := by
  induction fuel generalizing current seen statements tokens s with
  | zero =>
      rcases climb_cases h with ⟨hanchor, h⟩ | ⟨_, fewer, _, _, _, _, _, hfuel, _⟩
      · obtain ⟨anchor, token, _, _, rfl, _⟩ := anchorChain_resolved hanchor h
        exact List.prefix_append _ _
      · omega
  | succ fuel ih =>
      rcases climb_cases h with ⟨hanchor, h⟩ | ⟨_, fewer, _, _, _, subordinate, _, hfuel, _, _, h⟩
      · obtain ⟨anchor, token, _, _, rfl, _⟩ := anchorChain_resolved hanchor h
        exact List.prefix_append _ _
      · cases hfuel
        exact (List.prefix_append _ _).trans (ih h)

/-- The statement is an anchor's own: the chain is its two configurations. -/
theorem linked_self {statement anchor : EntityStatement} {token anchorToken : String}
    (hst : Configuration p jwt statement.subject statement token)
    (hanchor : Configuration p jwt statement.issuer anchor anchorToken) :
    Linked jwt config ⟨[statement, anchor], [token, anchorToken]⟩ ↔
      statement.issuer ∈ config.trustAnchors ∧ Signs jwt anchor.jwks token := by
  constructor
  · intro h
    obtain ⟨last, _, hlast, _, _, hmem, _⟩ := h.anchor
    have heq : anchor = last := by simpa using hlast
    rw [← heq, hanchor.issuer_eq] at hmem
    exact ⟨hmem, h.signatures 0 token anchor rfl rfl⟩
  · rintro ⟨hmem, hsigns⟩
    have hself : anchor.isSelfSigned = true := by
      simp [EntityStatement.isSelfSigned, hanchor.issuer_eq, hanchor.subject_eq]
    refine ⟨?_, ?_, ?_, ?_⟩
    · simp [hanchor.subject_eq]
    · intro i lower upper hlower hupper
      match i with
      | 0 =>
          cases hlower
          cases hupper
          exact hsigns
      | i + 1 => simp at hupper
    · exact ⟨anchor, anchorToken, rfl, rfl, hself, hanchor.issuer_eq ▸ hmem, hanchor.signs⟩
    · exact ⟨statement, token, anchor, rfl, rfl, rfl,
        hanchor.subject_eq.trans hst.issuer_eq, hsigns⟩

/-- One superior, and its configuration again. -/
theorem linked_superior {statement superior subordinate anchor : EntityStatement}
    {token subordinateToken anchorToken : String}
    (hst : Configuration p jwt statement.subject statement token)
    (hsubordinate : Verified p jwt superior.jwks superior.issuer statement.subject subordinate
      subordinateToken)
    (hattested : Signs jwt subordinate.jwks token)
    (hanchor : Configuration p jwt superior.issuer anchor anchorToken) :
    Linked jwt config ⟨[statement, subordinate, anchor], [token, subordinateToken, anchorToken]⟩ ↔
      superior.issuer ∈ config.trustAnchors ∧ Signs jwt anchor.jwks subordinateToken := by
  constructor
  · intro h
    obtain ⟨last, _, hlast, _, _, hmem, _⟩ := h.anchor
    have heq : anchor = last := by simpa using hlast
    rw [← heq, hanchor.issuer_eq] at hmem
    exact ⟨hmem, h.signatures 1 subordinateToken anchor rfl rfl⟩
  · rintro ⟨hmem, hsigns⟩
    have hself : anchor.isSelfSigned = true := by
      simp [EntityStatement.isSelfSigned, hanchor.issuer_eq, hanchor.subject_eq]
    refine ⟨?_, ?_, ?_, ?_⟩
    · simp [hst.issuer_eq, hsubordinate.subject_eq, hsubordinate.issuer_eq, hanchor.subject_eq]
    · intro i lower upper hlower hupper
      match i with
      | 0 =>
          cases hlower
          cases hupper
          exact hattested
      | 1 =>
          cases hlower
          cases hupper
          exact hsigns
      | i + 2 => simp at hupper
    · exact ⟨anchor, anchorToken, rfl, rfl, hself, hanchor.issuer_eq ▸ hmem, hanchor.signs⟩
    · exact ⟨statement, token, subordinate, rfl, rfl, rfl, hsubordinate.subject_eq, hattested⟩

/-- Two superiors: the statement of the second is about the leaf, not about the first. -/
theorem not_linked_beyond {statement first second : EntityStatement} {result : TrustChain}
    (hne : first.issuer ≠ statement.subject) (hsecond : second.subject = statement.subject)
    (hpre : [statement, first, second] <+: result.statements) :
    ¬Linked jwt config result := by
  intro h
  obtain ⟨rest, hrest⟩ := hpre
  have hnames := h.names
  rw [← hrest] at hnames
  have hchain := hnames.left_of_append
  have hlink : first.issuer = second.subject :=
    (List.isChain_cons_cons.mp (List.isChain_cons_cons.mp hchain).2).1
  exact hne (hlink.trans hsecond)

theorem mem_trustAnchors_iff {entity : String}
    (h : config.trustAnchors = [] ∨ entity ∈ config.trustAnchors) :
    entity ∈ config.trustAnchors ↔ config.trustAnchors ≠ [] := by
  constructor
  · intro hmem hnil
    rw [hnil] at hmem
    cases hmem
  · intro hne
    exact h.resolve_left hne

/-- A resolved chain is linked exactly when it is directly anchored. -/
theorem resolved_linked_iff {fuel : Nat} {statement : EntityStatement}
    {trustAnchor token : String} {chain : TrustChain} {s s' : σ}
    (hst : Configuration p jwt statement.subject statement token)
    (h : resolveChainFrom p jwt config outside fuel statement trustAnchor token s
      = .ok (.resolved chain, s')) :
    Linked jwt config chain ↔
      DirectlyAnchored p jwt config outside statement trustAnchor token s := by
  unfold resolveChainFrom at h
  rcases climb_cases h with ⟨hself, hend⟩ | ⟨hself, fewer, superior, seen, s₁, subordinate, s₂, _,
    hnext, hfetch, hclimb⟩
  · obtain ⟨anchor, anchorToken, s₁, hfetch, rfl, haccepted, _⟩ := anchorChain_resolved hself hend
    have hissuer : statement.issuer ≠ "" := hst.issuer_eq ▸ hst.subject_ne
    have hanchor := fetchConfiguration_some hissuer hfetch
    have hsame : DirectlyAnchored p jwt config outside statement trustAnchor token s ↔
        config.trustAnchors ≠ [] ∧ Signs jwt anchor.jwks token := by
      unfold DirectlyAnchored
      rw [if_pos hself]
      constructor
      · rintro ⟨hne, _, _, _, hagain, hsigns⟩
        rw [hfetch] at hagain
        cases hagain
        exact ⟨hne, hsigns⟩
      · rintro ⟨hne, hsigns⟩
        exact ⟨hne, anchor, anchorToken, s₁, hfetch, hsigns⟩
    rw [hsame, ← mem_trustAnchors_iff haccepted]
    exact linked_self hst hanchor
  · have hhints : ∀ hint ∈ statement.authorityHints, hint ≠ "" := fun _ hmem => hst.hint_ne hmem
    obtain ⟨hnew, rfl, superiorToken, hsuperior⟩ := nextSuperior_some hhints hnext
    have hsubordinate :=
      fetchSubordinateStatement_some hsuperior.issuer_ne hst.subject_ne hfetch
    have hbelow : superior.issuer ≠ statement.subject := fun heq =>
      hnew (heq ▸ List.mem_singleton_self _)
    rcases climb_cases hclimb with ⟨hself', hend⟩ | ⟨hself', _, above, _, s₃, second, s₄, _,
      hnext', hfetch', hclimb'⟩
    · obtain ⟨anchor, anchorToken, s₃, hagain, rfl, haccepted, hattested⟩ :=
        anchorChain_resolved hself' hend
      have hanchor := fetchConfiguration_some hsuperior.issuer_ne hagain
      have hsame : DirectlyAnchored p jwt config outside statement trustAnchor token s ↔
          config.trustAnchors ≠ [] ∧ Signs jwt anchor.jwks subordinate.2 := by
        unfold DirectlyAnchored
        rw [hself, if_neg Bool.false_ne_true]
        constructor
        · rintro ⟨hne, _, _, _, _, _, hnext₂, _, hfetch₂, _, _, _, hagain₂, hsigns⟩
          rw [hnext] at hnext₂
          cases hnext₂
          rw [hfetch] at hfetch₂
          cases hfetch₂
          rw [hagain] at hagain₂
          cases hagain₂
          exact ⟨hne, hsigns⟩
        · rintro ⟨hne, hsigns⟩
          exact ⟨hne, superior, _, s₁, subordinate, s₂, hnext, hself', hfetch, anchor,
            anchorToken, s₃, hagain, hsigns⟩
      rw [hsame, ← mem_trustAnchors_iff haccepted]
      exact linked_superior hst hsubordinate
        (hattested statement subordinate.1 [] token [subordinate.2] rfl rfl) hanchor
    · constructor
      · have hhints' : ∀ hint ∈ superior.authorityHints, hint ≠ "" := fun _ hmem =>
          hsuperior.hint_ne hmem
        obtain ⟨_, _, aboveToken, habove⟩ := nextSuperior_some hhints' hnext'
        have hsecond := fetchSubordinateStatement_some habove.issuer_ne hst.subject_ne hfetch'
        intro hlinked
        have hne : subordinate.1.issuer ≠ statement.subject := hsubordinate.issuer_eq ▸ hbelow
        exact absurd hlinked
          (not_linked_beyond hne hsecond.subject_eq (climb_extends hclimb'))
      · unfold DirectlyAnchored
        rw [hself, if_neg Bool.false_ne_true]
        rintro ⟨_, _, _, _, _, _, hnext₂, hself₂, _⟩
        rw [hnext] at hnext₂
        cases hnext₂
        rw [hself'] at hself₂
        cases hself₂

end Chains

namespace Sample

/-! ## A federation

A relying party under an intermediate under an anchor; the anchor also attests the
relying party directly. A key is named by its `kid`, and a token by its issuer and
subject. -/

def jwk (kid : String) : Json :=
  .obj [("kid", .str kid), ("alg", .str "ES256"), ("kty", .str "EC")]

/-- The claims of a statement whose subject has the key `kid`. -/
def statementClaims (iss sub kid : String) (others : Members) : Members :=
  [("iss", .str iss), ("sub", .str sub), ("iat", .num "0"), ("exp", .num "100"),
    ("jwks", .obj [("keys", .arr [jwk kid])])] ++ others

def hints (superior : String) : Members := [("authority_hints", .arr [.str superior])]

def fetchEndpoint (url : String) : Members :=
  [("metadata", .obj [("federation_entity", .obj [("federation_fetch_endpoint", .str url)])])]

/-- The metadata of the relying party. -/
def relyingParty : Members :=
  [("metadata", .obj [("openid_relying_party", .obj
    [("redirect_uris", .arr [.str "https://rp/cb"]),
      ("jwks", .obj [("keys", .arr [jwk "rp"])]),
      ("grant_types", .arr [.str "implicit"])])])]

/-- A policy of the anchor on the relying party's grant types. -/
def grantTypesPolicy : Members :=
  [("metadata_policy", .obj [("openid_relying_party", .obj
    [("grant_types", .obj [("subset_of", .arr [.str "authorization_code"])])])])]

/-- The statements of the federation: the JWT, the key that signed it, its claims. -/
def statements : Dict String (String × Members) :=
  [("rp", "rp", statementClaims "https://rp" "https://rp" "rp"
      (hints "https://int" ++ relyingParty)),
    ("rp-direct", "rp", statementClaims "https://rp" "https://rp" "rp"
      (hints "https://ta" ++ relyingParty)),
    ("int", "int", statementClaims "https://int" "https://int" "int"
      (hints "https://ta" ++ fetchEndpoint "https://int/fetch")),
    ("ta", "ta", statementClaims "https://ta" "https://ta" "ta" (fetchEndpoint "https://ta/fetch")),
    ("int-rp", "int", statementClaims "https://int" "https://rp" "rp" []),
    ("ta-rp", "ta", statementClaims "https://ta" "https://rp" "rp" grantTypesPolicy)]

def jwt : PyJwt String where
  header token := (Dict.get statements token).map fun st =>
    [("typ", .str entityStatementTyp), ("kid", .str st.1), ("alg", .str "ES256")]
  payload token := (Dict.get statements token).map Prod.snd
  signed token key algorithms :=
    match Dict.get statements token with
    | some st => st.1 = key && algorithms.contains "ES256"
    | none => false
  publicKey jwk := (jwk.get "kid").bind Json.asStr
  secretKey := id
  signed_algorithm := by
    intro token key algorithms h
    split at h
    · rename_i st hst
      have hmem : algorithms.contains "ES256" = true := (Bool.and_eq_true_iff.mp h).2
      exact ⟨_, "ES256", by rw [hst]; rfl, rfl, by simpa using hmem⟩
    · cases h

def platform : FederationPlatform where
  sha256Hex := id
  sha256Base64Url := id
  sha256Der _ := ""
  hmacBase64Url _ message := message
  jsonLoads _ := none
  jsonDumps _ := ""
  pyStr _ := ""
  upper := id
  urlsplit _ := .ok {}
  jwtDecode _ := none
  jwtPayload _ := none
  fromTimestamp text := some (seconds (Json.truncated text))

/-- Each entity publishes its configuration; the superiors attest `https://rp`. -/
def outside (leaf : String) : Outside Unit where
  fetchEntityStatement url s :=
    (Dict.get
      [("https://rp/.well-known/openid-federation", leaf),
        ("https://int/.well-known/openid-federation", "int"),
        ("https://ta/.well-known/openid-federation", "ta"),
        ("https://int/fetch?sub=https://rp", "int-rp"),
        ("https://ta/fetch?sub=https://rp", "ta-rp")] url, s)
  now _ := seconds 1

def config : FederationConfig where
  entityIdentifier := "https://op"
  trustAnchors := ["https://ta"]

/-- The configuration the fetcher serves for the relying party, and the chain
resolved from it within five superiors, pass a test. -/
def resolvesTo (leaf : String) (test : TrustChain → Bool) : Bool :=
  match fetchConfiguration platform jwt (outside leaf) "https://rp" () with
  | .ok (some (statement, token), _) =>
      match resolveChainFrom platform jwt config (outside leaf) 5 statement "" token () with
      | .ok (.resolved chain, _) => test chain
      | _ => false
  | _ => false

theorem exists_of_resolvesTo {leaf : String} {test : TrustChain → Bool}
    (h : resolvesTo leaf test = true) :
    ∃ statement token chain,
      fetchConfiguration platform jwt (outside leaf) "https://rp" ()
          = .ok (some (statement, token), ()) ∧
        resolveChainFrom platform jwt config (outside leaf) 5 statement "" token ()
          = .ok (.resolved chain, ()) ∧ test chain = true := by
  unfold resolvesTo at h
  split at h
  · rename_i statement token s hfetch
    split at h
    · rename_i chain s' hresolve
      exact ⟨statement, token, chain, hfetch, hresolve, h⟩
    · cases h
  · cases h

/-- Who says something of whom, from the leaf up. -/
def sayings (chain : TrustChain) : List (String × String) :=
  chain.statements.map fun st => (st.issuer, st.subject)

theorem resolves_through_intermediate : resolvesTo "rp" (fun chain => sayings chain =
    [("https://rp", "https://rp"), ("https://int", "https://rp"), ("https://ta", "https://rp"),
      ("https://ta", "https://ta")]) = true := by
  decide +kernel

theorem resolves_directly : resolvesTo "rp-direct" (fun chain => sayings chain =
    [("https://rp", "https://rp"), ("https://ta", "https://rp"), ("https://ta", "https://ta")])
      = true := by
  decide +kernel

theorem Linked.sayings {chain : TrustChain} (h : Linked jwt config chain) :
    (sayings chain).IsChain fun lower upper => lower.1 = upper.2 :=
  (List.isChain_map _).mpr h.names

end Sample

open Sample in
/-- The anchor's statement about the relying party stands where one about the
intermediate is due. -/
theorem unlinked_through_intermediate :
    ∃ statement token chain,
      fetchConfiguration platform jwt (outside "rp") "https://rp" ()
          = .ok (some (statement, token), ()) ∧
        resolveChainFrom platform jwt config (outside "rp") 5 statement "" token ()
          = .ok (.resolved chain, ()) ∧
        ¬Linked jwt config chain := by
  obtain ⟨statement, token, chain, hfetch, hresolve, htest⟩ :=
    exists_of_resolvesTo resolves_through_intermediate
  refine ⟨statement, token, chain, hfetch, hresolve, ?_⟩
  intro hlinked
  have hsayings := Linked.sayings hlinked
  rw [of_decide_eq_true htest] at hsayings
  simp at hsayings

open Sample in
/-- The equivalence on the chain of one superior. -/
theorem resolved_linked_iff_direct :
    ∃ statement token chain,
      resolveChainFrom platform jwt config (outside "rp-direct") 5 statement "" token ()
          = .ok (.resolved chain, ()) ∧
        (Linked jwt config chain ↔
          DirectlyAnchored platform jwt config (outside "rp-direct") statement "" token ()) := by
  obtain ⟨statement, token, chain, hfetch, hresolve, _⟩ := exists_of_resolvesTo resolves_directly
  have hst : Configuration platform jwt statement.subject statement token := by
    have hconfiguration := fetchConfiguration_some (by decide) hfetch
    rw [hconfiguration.subject_eq]
    exact hconfiguration
  exact ⟨statement, token, chain, hresolve, resolved_linked_iff hst hresolve⟩

end Federation

end PurIdentityServer
