import Mathlib.Data.List.TakeWhile
import PurIdentityServer.Application.TrustChains
import PurIdentityServer.Domain.StatementParsing
import PurIdentityServer.Lib.Walk

/-!
# TrustChainTermination — when the resolution of a trust chain ends

The resolution climbs from an entity to a superior that one of its hints
names. It never takes an identifier twice, so it ends as soon as the
identifiers it meets are finitely many, whatever cycles their hints form;
nothing else bounds it, and a fetcher that keeps naming new superiors is
followed for ever.

The climb is a loop in the sense of `Effects.Walk`: `ascend` is its step,
and what it has seen are the identifiers of the superiors it took.
-/

namespace PurIdentityServer

open Effects Effects.Walk

namespace Federation

/-- Where the loop of `resolve_chain_from` stands, with the outside. -/
structure Position (σ : Type) where
  current : EntityStatement
  seen : List String
  chain : List EntityStatement
  tokens : List String
  state : σ

section Climb

variable {κ σ : Type} (p : FederationPlatform) (jwt : PyJwt κ) (config : FederationConfig)
  (outside : Outside σ) (trustAnchor subject : String)

/-- One round of the loop: the next position, or how the resolution ends. -/
def ascend (pos : Position σ) : Position σ ⊕ Except Fault (Resolution × σ) :=
  if isTrustAnchor config pos.current trustAnchor then
    .inr (anchorChain p jwt config outside trustAnchor pos.current pos.chain pos.tokens pos.state)
  else
    match nextSuperior p jwt outside pos.current.authorityHints pos.seen pos.state with
    | .error fault => .inr (.error fault)
    | .ok (none, s) => .inr (.ok (.unresolved, s))
    | .ok (some (superior, seen), s) =>
        match fetchSubordinateStatement p jwt outside superior subject s with
        | .error fault => .inr (.error fault)
        | .ok (none, s) => .inr (.ok (.unresolved, s))
        | .ok (some subordinate, s) =>
            .inl ⟨superior, seen, pos.chain ++ [subordinate.1], pos.tokens ++ [subordinate.2], s⟩

/-- Where `resolve_chain_from` starts. -/
def start (statement : EntityStatement) (token : String) (s : σ) : Position σ :=
  ⟨statement, [statement.subject], [statement], [token], s⟩

/-- A trust chain, or none. -/
def Answers (r : Resolution) : Prop := r = .unresolved ∨ ∃ chain, r = .resolved chain

/-- `resolve_chain_from` ends with a trust chain or none. -/
def Finishes (statement : EntityStatement) (token : String) (s : σ) : Prop :=
  ∃ fuel r s', resolveChainFrom p jwt config outside fuel statement trustAnchor token s =
    .ok (r, s') ∧ Answers r

/-- A round of the resolution raises what nothing catches. -/
def Breaks (pos : Position σ) : Prop :=
  ∃ z fault, Reached (ascend p jwt config outside trustAnchor subject) pos z ∧
    ascend p jwt config outside trustAnchor subject z = .inr (.error fault)

/-- The identifiers under which the resolution takes entities, the leaf's included. -/
abbrev identifiers (pos : Position σ) : Set String :=
  sights (ascend p jwt config outside trustAnchor subject) Position.seen pos

variable {p jwt config outside trustAnchor subject}

/-! ## The rounds -/

/-- A superior is taken under a hint that was not seen yet. -/
theorem nextSuperior_takes {hints seen seen' : List String} {superior : EntityStatement} {s s' : σ}
    (h : nextSuperior p jwt outside hints seen s = .ok (some (superior, seen'), s')) :
    ∃ hint ∈ hints, hint ∉ seen ∧ seen' = hint :: seen ∧ ∃ s₁ token,
      fetchConfiguration p jwt outside hint s₁ = .ok (some (superior, token), s') := by
  induction hints generalizing s with
  | nil => exact absurd (run_pure_eq_ok.mp h).1 (by simp)
  | cons hint rest ih =>
      have hlater : ∀ {s₁ : σ},
          nextSuperior p jwt outside rest seen s₁ = .ok (some (superior, seen'), s') →
          ∃ name ∈ hint :: rest, name ∉ seen ∧ seen' = name :: seen ∧ ∃ s₂ token,
            fetchConfiguration p jwt outside name s₂ = .ok (some (superior, token), s') := by
        intro s₁ hrest
        obtain ⟨name, hmem, htaken⟩ := ih hrest
        exact ⟨name, List.mem_cons_of_mem _ hmem, htaken⟩
      unfold nextSuperior at h
      split at h
      · exact hlater h
      · rename_i hnew
        obtain ⟨found, s₁, hfetch, h⟩ := run_bind_eq_ok.mp h
        cases found with
        | none => exact hlater h
        | some fetched =>
            obtain ⟨hpair, rfl⟩ := run_pure_eq_ok.mp h
            cases hpair
            exact ⟨hint, List.mem_cons_self, hnew, rfl, s, fetched.2, hfetch⟩

theorem fresh_ascend : Fresh (ascend p jwt config outside trustAnchor subject) Position.seen := by
  intro pos pos' h
  unfold ascend at h
  split at h
  · cases h
  split at h
  · cases h
  · cases h
  · rename_i superior seen s hnext
    obtain ⟨hint, -, hnew, rfl, -⟩ := nextSuperior_takes hnext
    split at h
    · cases h
    · cases h
    · cases h
      exact ⟨hint, hnew, rfl⟩

theorem anchorChain_answers {current : EntityStatement} {chain : List EntityStatement}
    {tokens : List String} {r : Resolution} {s s' : σ}
    (h : anchorChain p jwt config outside trustAnchor current chain tokens s = .ok (r, s')) :
    Answers r := by
  unfold anchorChain at h
  generalize (if trustAnchor ≠ "" then trustAnchor else current.issuer) = anchor at h
  split at h
  · exact .inl (run_pure_eq_ok.mp h).1.symm
  · obtain ⟨found, s₁, -, h⟩ := run_bind_eq_ok.mp h
    cases found with
    | none => exact .inl (run_pure_eq_ok.mp h).1.symm
    | some fetched =>
        obtain ⟨attested, s₂, -, h⟩ := run_bind_eq_ok.mp h
        split at h
        · exact .inr ⟨_, (run_pure_eq_ok.mp h).1.symm⟩
        · exact .inl (run_pure_eq_ok.mp h).1.symm

/-- A round that ends the resolution answers or raises. -/
theorem ascend_answers {pos : Position σ} {r : Resolution} {s' : σ}
    (h : ascend p jwt config outside trustAnchor subject pos = .inr (.ok (r, s'))) :
    Answers r := by
  unfold ascend at h
  split at h
  · exact anchorChain_answers (Sum.inr.inj h)
  split at h
  · cases h
  · cases h
    exact .inl rfl
  · split at h
    · cases h
    · cases h
      exact .inl rfl
    · cases h

/-! ## The loop of the code -/

/-- The loop of the code from a position. -/
def climbFrom (p : FederationPlatform) (jwt : PyJwt κ) (config : FederationConfig)
    (outside : Outside σ) (trustAnchor subject : String) (fuel : Nat) (pos : Position σ) :
    Except Fault (Resolution × σ) :=
  climb p jwt config outside trustAnchor subject fuel pos.current pos.seen pos.chain pos.tokens
    pos.state

/-- A round of the code's loop is a round of the walk. -/
theorem climbFrom_succ {fuel : Nat} {pos : Position σ} :
    climbFrom p jwt config outside trustAnchor subject (fuel + 1) pos =
      match ascend p jwt config outside trustAnchor subject pos with
      | .inr result => result
      | .inl pos' => climbFrom p jwt config outside trustAnchor subject fuel pos' := by
  conv_lhs => unfold climbFrom climb
  unfold ascend
  by_cases hanchor : isTrustAnchor config pos.current trustAnchor = true
  · rw [if_pos hanchor, if_pos hanchor]
  · rw [if_neg hanchor, if_neg hanchor]
    rcases hnext : nextSuperior p jwt outside pos.current.authorityHints pos.seen pos.state with
      fault | ⟨_ | ⟨superior, seen⟩, s₁⟩
    · simp [bind, StateT.bind, Except.bind, hnext]
    · simp only [bind, StateT.bind, Except.bind, hnext]
      rfl
    · simp only [bind, StateT.bind, Except.bind, hnext]
      rcases hsub : fetchSubordinateStatement p jwt outside superior subject s₁ with
        fault | ⟨_ | subordinate, s₂⟩
      · rfl
      · rfl
      · rfl

theorem climbFrom_of_walk {steps : Nat} {pos : Position σ}
    {result : Except Fault (Resolution × σ)}
    (h : walk (ascend p jwt config outside trustAnchor subject) steps pos = some result) :
    climbFrom p jwt config outside trustAnchor subject steps pos = result := by
  induction steps generalizing pos with
  | zero => cases h
  | succ steps ih =>
      rw [climbFrom_succ]
      unfold walk at h
      cases hround : ascend p jwt config outside trustAnchor subject pos with
      | inr answer =>
          rw [hround] at h
          exact Option.some.inj h
      | inl pos' =>
          rw [hround] at h
          exact ih h

theorem walk_of_climbFrom {fuel : Nat} {pos : Position σ} {r : Resolution} {s' : σ}
    (h : climbFrom p jwt config outside trustAnchor subject fuel pos = .ok (r, s'))
    (hr : Answers r) :
    ∃ steps, walk (ascend p jwt config outside trustAnchor subject) steps pos =
      some (.ok (r, s')) := by
  induction fuel generalizing pos with
  | zero =>
      unfold climbFrom climb at h
      split at h
      · rename_i hanchor
        refine ⟨1, ?_⟩
        simp [walk, ascend, hanchor, h]
      · have hclimbing := (run_pure_eq_ok.mp h).1
        rcases hr with rfl | ⟨chain, rfl⟩
        · cases hclimbing
        · cases hclimbing
  | succ fuel ih =>
      rw [climbFrom_succ] at h
      cases hround : ascend p jwt config outside trustAnchor subject pos with
      | inr answer =>
          rw [hround] at h
          refine ⟨1, ?_⟩
          simp only [walk, hround]
          exact congrArg some h
      | inl pos' =>
          rw [hround] at h
          obtain ⟨steps, hsteps⟩ := ih h
          exact ⟨steps + 1, by simp [walk, hround, hsteps]⟩

/-- The resolution ends with a chain or none when its last round answers. -/
theorem finishes_iff {statement : EntityStatement} {token : String} {s : σ} :
    Finishes p jwt config outside trustAnchor statement token s ↔
      ∃ z r s', Reached (ascend p jwt config outside trustAnchor statement.subject)
        (start statement token s) z ∧
        ascend p jwt config outside trustAnchor statement.subject z = .inr (.ok (r, s')) := by
  constructor
  · rintro ⟨fuel, r, s', hresolve, hr⟩
    have hclimb : climbFrom p jwt config outside trustAnchor statement.subject fuel
        (start statement token s) = .ok (r, s') := hresolve
    obtain ⟨steps, hsteps⟩ := walk_of_climbFrom hclimb hr
    obtain ⟨z, hz, hanswer⟩ := reached_of_walk hsteps
    exact ⟨z, r, s', hz, hanswer⟩
  · rintro ⟨z, r, s', hz, hanswer⟩
    obtain ⟨steps, hsteps⟩ := walk_of_reached hz hanswer
    exact ⟨steps, r, s', climbFrom_of_walk hsteps, ascend_answers hanswer⟩

/-! ## Identifiers within a finite set -/

/-- The hints of the statement lie in `U`, and so do those of whatever is served for an
entity of `U`. -/
structure ClosedUnder (p : FederationPlatform) (jwt : PyJwt κ) (outside : Outside σ)
    (statement : EntityStatement) (U : Set String) : Prop where
  start : ∀ hint ∈ statement.authorityHints, hint ∈ U
  served : ∀ entity ∈ U, ∀ s st token s',
    fetchConfiguration p jwt outside entity s = .ok (some (st, token), s') →
    ∀ hint ∈ st.authorityHints, hint ∈ U

/-- The resolution stays within a closed set, the leaf apart. -/
theorem reached_within {statement : EntityStatement} {token : String} {s : σ} {U : Set String}
    (hclosed : ClosedUnder p jwt outside statement U) {z : Position σ}
    (hz : Reached (ascend p jwt config outside trustAnchor statement.subject)
      (start statement token s) z) :
    (∀ hint ∈ z.current.authorityHints, hint ∈ U) ∧
      ∀ entity ∈ z.seen, entity = statement.subject ∨ entity ∈ U := by
  refine invariant_of_reached (I := fun z : Position σ =>
    (∀ hint ∈ z.current.authorityHints, hint ∈ U) ∧
      ∀ entity ∈ z.seen, entity = statement.subject ∨ entity ∈ U) ?_ ?_ hz
  · rintro pos pos' hround ⟨hhints, hseen⟩
    unfold ascend at hround
    split at hround
    · cases hround
    split at hround
    · cases hround
    · cases hround
    · rename_i superior seen s₁ hnext
      obtain ⟨hint, hmem, -, rfl, s₂, fetched, hfetch⟩ := nextSuperior_takes hnext
      split at hround
      · cases hround
      · cases hround
      · cases hround
        refine ⟨hclosed.served hint (hhints hint hmem) _ _ _ _ hfetch, ?_⟩
        intro entity hentity
        rcases List.mem_cons.mp hentity with rfl | hentity
        · exact .inr (hhints entity hmem)
        · exact hseen entity hentity
  · refine ⟨hclosed.start, ?_⟩
    intro entity hentity
    exact .inl (List.mem_singleton.mp hentity)

variable (p jwt config outside trustAnchor)

end Climb

/-! ## A fetcher that never runs out of superiors -/

namespace EndlessSample

/-- The identifier of the `n`-th entity. -/
def entity (n : Nat) : String := "https://" ++ String.ofList (List.replicate (n + 1) 'a')

/-- The token of the `k`-th answer. -/
def token (k : Nat) : String := String.ofList (List.replicate k 'a')

/-- The claims of the `k`-th answer: the configuration of a new entity, then its statement
about the leaf, and so on. -/
def claims (k : Nat) : Members :=
  [("iss", .str (entity (k / 2 + 1))),
    ("sub", .str (entity (if k % 2 = 0 then k / 2 + 1 else 0))),
    ("iat", .num "0"), ("exp", .num "100"),
    ("jwks", .obj [("keys", .arr [Sample.jwk "k"])]),
    ("metadata", .obj [("federation_entity",
      .obj [("federation_fetch_endpoint", .str "https://sup/fetch")])]),
    ("authority_hints", .arr [.str (entity (k / 2 + 2))])]

theorem no_import_raises (_jwk : Members) (h : false = true) : some () = none := by
  cases h

def jwt : PyJwt Unit where
  header _ := some [("typ", .str entityStatementTyp), ("kid", .str "k"), ("alg", .str "ES256")]
  payload token := some (claims token.length)
  signed _ _ algorithms := algorithms.contains "ES256"
  publicKey _ := some ()
  secretKey _ := ()
  importRaises_none := no_import_raises
  signed_algorithm := by
    intro token key algorithms h
    exact ⟨_, "ES256", rfl, rfl, by simpa using h⟩

/-- The fetcher counts its answers; every one is fresh and valid. -/
def outside : Outside Nat where
  fetchEntityStatement _ k := (some (token k), k + 1)
  now _ := seconds 1

def config : FederationConfig where
  entityIdentifier := "https://op"
  trustAnchors := ["https://ta"]

/-- The statement parsed from the `k`-th answer. -/
def statement (k : Nat) : EntityStatement where
  issuer := entity (k / 2 + 1)
  subject := entity (if k % 2 = 0 then k / 2 + 1 else 0)
  issuedAt := 0
  expiresAt := seconds 100
  jwks := [("keys", .arr [Sample.jwk "k"])]
  metadata := [("federation_entity", [("federation_fetch_endpoint", .str "https://sup/fetch")])]
  authorityHints := [entity (k / 2 + 2)]

/-- The leaf. -/
def leaf : EntityStatement where
  issuer := entity 0
  subject := entity 0
  issuedAt := 0
  expiresAt := seconds 100
  jwks := [("keys", .arr [Sample.jwk "k"])]
  authorityHints := [entity 1]

theorem toList_entity (n : Nat) :
    (entity n).toList = "https://".toList ++ List.replicate (n + 1) 'a' := by
  simp [entity]

theorem entity_injective {n m : Nat} (h : entity n = entity m) : n = m := by
  have hlist := congrArg String.toList h
  rw [toList_entity, toList_entity] at hlist
  have hlength := congrArg List.length hlist
  simpa using hlength

theorem isEntityIdentifier_entity (n : Nat) : isEntityIdentifier (entity n) = true := by
  have hhost : (List.replicate (n + 1) 'a').takeWhile (fun c =>
      !Text.isSpace c && c ≠ '/' && c ≠ '?' && c ≠ '#') = List.replicate (n + 1) 'a' := by
    apply List.takeWhile_eq_self_iff.mpr
    intro c hc
    rw [List.eq_of_mem_replicate hc]
    decide
  have hdrop : (entity n).toList.drop 8 = List.replicate (n + 1) 'a' := by
    simp [toList_entity]
  have hstarts : Text.startsWith (entity n) "https://" = true := by
    simp [Text.startsWith, toList_entity]
  have hrest : (entity n).toList.drop (8 + (List.replicate (n + 1) 'a').length) = [] := by
    simp [toList_entity]
    omega
  unfold isEntityIdentifier
  simp only [hstarts, hdrop, hhost, hrest]
  simp [atEnd]

theorem entity_ne_empty (n : Nat) : entity n ≠ "" :=
  isEntityIdentifier_ne_empty (isEntityIdentifier_entity n)

theorem parse_claims (k : Nat) :
    parseEntityStatement Sample.platform (claims k) = .ok (statement k) := by
  have hiss : requiredString (claims k) "iss" = .ok (entity (k / 2 + 1)) :=
    requiredString_eq_ok.mpr ⟨rfl, entity_ne_empty _⟩
  have hsub : requiredString (claims k) "sub" =
      .ok (entity (if k % 2 = 0 then k / 2 + 1 else 0)) :=
    requiredString_eq_ok.mpr ⟨rfl, entity_ne_empty _⟩
  have hauthority : stringArray (claims k) "authority_hints" = .ok [entity (k / 2 + 2)] := rfl
  have hanchors : stringArray (claims k) "trust_anchor_hints" = .ok [] := rfl
  have hhints : parseHints (claims k) = .ok ([entity (k / 2 + 2)], []) := by
    simp [parseHints, hauthority, hanchors, bind, Except.bind, isEntityIdentifier_entity]
  unfold parseEntityStatement
  simp only [hiss, hsub, hhints, bind, Except.bind, isEntityIdentifier_entity]
  rfl

/-- Every token verifies under the one key, for who it is about. -/
theorem verify_token (k : Nat) :
    verifyEntityStatement jwt (seconds 1) (token k) [("keys", .arr [Sample.jwk "k"])]
      (entity (k / 2 + 1)) (entity (if k % 2 = 0 then k / 2 + 1 else 0)) =
      .ok (some (claims k)) := by
  have hpayload : jwt.payload (token k) = some (claims k) := by
    simp [jwt, token]
  have hdecode : jwt.decode statementOptions (seconds 1) (token k) () ["ES256"] =
      .ok (claims k) := by
    unfold PyJwt.decode
    rw [hpayload]
    rfl
  have hiss : differs (claims k) "iss" (entity (k / 2 + 1)) = false := by
    simp [differs, claims, Dict.get_cons]
  have hsub : differs (claims k) "sub" (entity (if k % 2 = 0 then k / 2 + 1 else 0)) = false := by
    simp [differs, claims, Dict.get_cons]
  have hwith : verifyWith jwt (seconds 1) (token k) (entity (k / 2 + 1))
      (entity (if k % 2 = 0 then k / 2 + 1 else 0))
      [("kid", .str "k"), ("alg", .str "ES256"), ("kty", .str "EC")] = .ok (some (claims k)) := by
    have halgorithm : algorithmOf [("kid", .str "k"), ("alg", .str "ES256"), ("kty", .str "EC")] =
        "ES256" := rfl
    have hkey : jwt.publicKey [("kid", .str "k"), ("alg", .str "ES256"), ("kty", .str "EC")] =
        some () := rfl
    simp [verifyWith, hkey, halgorithm, hdecode, hiss, hsub]
  show verifyAmong jwt (seconds 1) (token k) _ _
    [[("kid", .str "k"), ("alg", .str "ES256"), ("kty", .str "EC")]] = _
  unfold verifyAmong
  rw [hwith]
  rfl

theorem verified_token (k : Nat) (n : Nat) :
    verifiedStatement Sample.platform jwt outside (token k) [("keys", .arr [Sample.jwk "k"])]
      (entity (k / 2 + 1)) (entity (if k % 2 = 0 then k / 2 + 1 else 0)) n =
      .ok (some (statement k, token k), n) := by
  have hparse : parseOrNone Sample.platform (claims k) = .ok (some (statement k)) := by
    unfold parseOrNone
    rw [parse_claims]
  have hnow : outside.now n = seconds 1 := rfl
  simp [verifiedStatement, hnow, verify_token, hparse, bind, Except.bind, pure, Except.pure]

/-- No entity of the family is the configured anchor. -/
theorem not_anchor {st : EntityStatement} {m : Nat} (hissuer : st.issuer = entity m)
    (hhints : st.authorityHints ≠ []) : isTrustAnchor config st "" = false := by
  have hne : entity m ≠ "https://ta" := by
    intro h
    have hlist := congrArg String.toList h
    rw [toList_entity, List.replicate_succ] at hlist
    simp at hlist
  simp [isTrustAnchor, config, hissuer, hne, hhints]

theorem payload_token (k : Nat) : jwt.payload (token k) = some (claims k) := by
  simp [jwt, token]

/-- The configuration of the next entity. -/
theorem fetch_superior (n : Nat) :
    fetchConfiguration Sample.platform jwt outside (entity (n + 1)) (2 * n) =
      .ok (some (statement (2 * n), token (2 * n)), 2 * n + 1) := by
  have hverified := verified_token (2 * n) (2 * n + 1)
  rw [Nat.mul_div_cancel_left n (by decide), if_pos (Nat.mul_mod_right 2 n)] at hverified
  have hjwks : ((jwt.payload (token (2 * n))).bind fun claims => claims.get "jwks") =
      some (.obj [("keys", .arr [Sample.jwk "k"])]) := by
    rw [payload_token]
    rfl
  unfold fetchConfiguration
  refine run_bind_eq_ok.mpr ⟨some (token (2 * n)), 2 * n + 1, rfl, ?_⟩
  dsimp only
  rw [hjwks]
  exact hverified

/-- Its statement about the leaf. -/
theorem fetch_subordinate (n : Nat) :
    fetchSubordinateStatement Sample.platform jwt outside (statement (2 * n)) (entity 0)
      (2 * n + 1) = .ok (some (statement (2 * n + 1), token (2 * n + 1)), 2 * n + 2) := by
  have hverified := verified_token (2 * n + 1) (2 * n + 2)
  have hdiv : (2 * n + 1) / 2 = n := by omega
  have hmod : ¬(2 * n + 1) % 2 = 0 := by omega
  rw [hdiv, if_neg hmod] at hverified
  have hissuer : (statement (2 * n)).issuer = entity (n + 1) := by
    show entity (2 * n / 2 + 1) = _
    rw [Nat.mul_div_cancel_left n (by decide)]
  unfold fetchSubordinateStatement
  refine run_bind_eq_ok.mpr ⟨some (token (2 * n + 1)), 2 * n + 2, rfl, ?_⟩
  rw [← hissuer] at hverified
  exact hverified

/-- Before its `n`-th round, the loop stands at the `n`-th entity and has seen those below. -/
theorem climb_goes_on (fuel n : Nat) (current : EntityStatement) (seen : List String)
    (chain : List EntityStatement) (tokens : List String)
    (hcurrent : isTrustAnchor config current "" = false)
    (hhints : current.authorityHints = [entity (n + 1)])
    (hseen : ∀ name ∈ seen, ∃ i ≤ n, name = entity i) :
    ∃ s', climb Sample.platform jwt config outside "" (entity 0) fuel current seen chain tokens
      (2 * n) = .ok (.climbing, s') := by
  induction fuel generalizing n current seen chain tokens with
  | zero =>
      unfold climb
      rw [hcurrent]
      exact ⟨_, rfl⟩
  | succ fuel ih =>
      have hnew : entity (n + 1) ∉ seen := by
        intro hmem
        obtain ⟨i, hi, heq⟩ := hseen _ hmem
        have := entity_injective heq
        omega
      have hnext : nextSuperior Sample.platform jwt outside current.authorityHints seen (2 * n) =
          .ok (some (statement (2 * n), entity (n + 1) :: seen), 2 * n + 1) := by
        rw [hhints]
        unfold nextSuperior
        rw [if_neg hnew]
        exact run_bind_eq_ok.mpr ⟨_, _, fetch_superior n, rfl⟩
      have hanchor : isTrustAnchor config (statement (2 * n)) "" = false :=
        not_anchor rfl (List.cons_ne_nil _ _)
      obtain ⟨s', hclimb⟩ := ih (n + 1) (statement (2 * n)) (entity (n + 1) :: seen)
        (chain ++ [statement (2 * n + 1)]) (tokens ++ [token (2 * n + 1)]) hanchor
        (by
          show [entity (2 * n / 2 + 2)] = _
          rw [Nat.mul_div_cancel_left n (by decide)])
        (by
          intro name hmem
          rcases List.mem_cons.mp hmem with rfl | hmem
          · exact ⟨n + 1, le_rfl, rfl⟩
          · obtain ⟨i, hi, heq⟩ := hseen name hmem
            exact ⟨i, by omega, heq⟩)
      refine ⟨s', ?_⟩
      unfold climb
      rw [hcurrent]
      refine run_bind_eq_ok.mpr ⟨_, _, hnext, ?_⟩
      exact run_bind_eq_ok.mpr ⟨_, _, fetch_subordinate n, hclimb⟩

end EndlessSample

end Federation

end PurIdentityServer
