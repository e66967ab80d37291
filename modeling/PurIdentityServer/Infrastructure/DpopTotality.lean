import PurIdentityServer.Application.Token
import PurIdentityServer.Infrastructure.DpopProof

/-!
# DpopTotality — the proofs on which the validator raises

A proof is accepted or rejected, except where a check hands what the proof
says to a function that raises and is not guarded: `urlsplit` on the `htu`,
`datetime.fromtimestamp` on `iat`, `exp` and `nbf`. The checks are made in a
fixed order and the first rejection ends them, so each of these calls is
only reached by a proof that passes everything before it; `Escapes` follows
that order.

Everything else the validator calls is guarded, and alone on its store it
never meets the row it is about to insert.
-/

namespace PurIdentityServer

open Effects

namespace PyJWTDpopProofValidator

variable {α κ : Type} (v : PyJWTDpopProofValidator κ)

/-- An ending that is no rejection. -/
def Uncaught (stop : Stop DpopValidationError) : Prop := ∃ x, stop = .raised x

/-- The call raises. -/
def Fails (r : Raising α) : Prop := ∃ x, r = .error x

@[simp] theorem not_raisesIn_rejected (description : String) :
    ¬ RaisesIn Uncaught (rejected description : Checked α) := by
  simp [rejected, Uncaught]

@[simp] theorem raisesIn_uncaught {r : Raising α} : RaisesIn Uncaught (uncaught r) ↔ Fails r := by
  cases r <;> simp [uncaught, Uncaught, Fails]

/-! ## The checks that are guarded -/

@[simp] theorem not_raisesIn_checkHeader (header : Members) :
    ¬ RaisesIn Uncaught (checkHeader header) := by
  unfold checkHeader
  split
  · simp
  split
  · split
    · simp
    · split <;> simp
  · simp

@[simp] theorem not_raisesIn_checkJwk (jwk : Members) (alg : String) :
    ¬ RaisesIn Uncaught (v.checkJwk jwk alg) := by
  unfold checkJwk
  split
  · simp
  split
  · simp
  split
  · simp
  split
  · simp
  split <;> simp

@[simp] theorem not_raisesIn_checkAth (claims : Members) (ath : String) :
    ¬ RaisesIn Uncaught (checkAth claims ath) := by
  unfold checkAth
  dsimp only
  split
  · split
    · split
      · simp
      · split <;> simp
    · simp
  · split <;> simp

@[simp] theorem not_raisesIn_checkSignature (proof : String) (key : κ) (alg : String) :
    ¬ RaisesIn Uncaught (v.checkSignature proof key alg) := by
  unfold checkSignature
  split <;> simp

/-! ## The URLs -/

/-- `urlsplit` raises on one of the two URLs that are compared. -/
def HtuRaises (claimUrl endpointUrl : String) : Prop :=
  Fails (v.platform.urlsplit claimUrl) ∨
    Fails (v.platform.urlsplit (stripQueryFragment endpointUrl))

theorem normalizeHtu_fails {url : String} :
    Fails (v.normalizeHtu url) ↔ Fails (v.platform.urlsplit url) := by
  unfold normalizeHtu
  cases v.platform.urlsplit url with
  | ok parts => simp [bind, Except.bind, Fails]
  | error x => simp [bind, Except.bind, Fails]

theorem htuMatches_fails {claimUrl endpointUrl : String} :
    Fails (v.htuMatches claimUrl endpointUrl) ↔ v.HtuRaises claimUrl endpointUrl := by
  unfold HtuRaises
  rw [← v.normalizeHtu_fails, ← v.normalizeHtu_fails]
  unfold htuMatches
  cases v.normalizeHtu claimUrl with
  | error x => simp [bind, Except.bind, Fails]
  | ok claimed =>
      cases v.normalizeHtu (stripQueryFragment endpointUrl) with
      | error x => simp [bind, Except.bind, Fails]
      | ok expected => simp [bind, Except.bind, Fails]

/-! ## The times -/

/-- A claim that is a number no `datetime` stands for. -/
def NoMoment (claims : Members) (name : String) : Prop :=
  ∃ number, claims.get name = some (.num number) ∧ Fails (v.fromTimestamp number)

/-- An `exp` that is not too far away, and no date. -/
def ExpRaises (claims : Members) (now : Instant) : Prop :=
  ∃ exp, claims.get "exp" = some (.num exp) ∧
    v.exceeds exp (now + seconds dpopMaxLifetimeSeconds) = false ∧ Fails (v.fromTimestamp exp)

/-- No `exp`, or the date of one that is not past. -/
def ExpPasses (claims : Members) (now : Instant) : Prop :=
  claims.get "exp" = none ∨ claims.get "exp" = some .null ∨
    ∃ exp moment, claims.get "exp" = some (.num exp) ∧
      v.exceeds exp (now + seconds dpopMaxLifetimeSeconds) = false ∧
      v.fromTimestamp exp = .ok moment ∧ now - seconds dpopIatSkewSeconds ≤ moment

/-- The times on which `_check_timestamps` raises, in the order it reads them. -/
def TimesRaise (claims : Members) (now : Instant) : Prop :=
  ∃ iat, claims.get "iat" = some (.num iat) ∧
    (Fails (v.fromTimestamp iat) ∨ ∃ moment, v.fromTimestamp iat = .ok moment ∧
      moment ≤ now + seconds dpopIatSkewSeconds ∧ now - seconds dpopIatSkewSeconds ≤ moment ∧
      (v.ExpRaises claims now ∨ v.ExpPasses claims now ∧ v.NoMoment claims "nbf"))

variable {v}

theorem raisesIn_checkExp {claims : Members} {now : Instant} :
    RaisesIn Uncaught (v.checkExp claims now) ↔ v.ExpRaises claims now := by
  unfold checkExp ExpRaises
  split
  · rename_i hget
    simp [hget]
  · rename_i hget
    simp [hget]
  · rename_i exp hget
    simp only [hget, Option.some.injEq, Json.num.injEq, exists_eq_left']
    cases hexceeds : v.exceeds exp (now + seconds dpopMaxLifetimeSeconds) with
    | true => simp
    | false =>
        rw [if_neg Bool.false_ne_true, raisesIn_bind_of_quiet, raisesIn_uncaught]
        · simp
        · intro moment _
          split <;> simp
  · rename_i other _ hnum hother
    simp only [not_raisesIn_rejected, false_iff]
    rintro ⟨exp, hget, -⟩
    exact hnum exp (Option.some.inj (hother.symm.trans hget))

theorem checkExp_eq_ok {claims : Members} {now : Instant} :
    v.checkExp claims now = .ok () ↔ v.ExpPasses claims now := by
  unfold checkExp ExpPasses
  split
  · rename_i hget
    simp [hget]
  · rename_i hget
    simp [hget]
  · rename_i exp hget
    simp only [hget, reduceCtorEq, Option.some.injEq, Json.num.injEq, false_or]
    cases hexceeds : v.exceeds exp (now + seconds dpopMaxLifetimeSeconds) with
    | true => simp [rejected, hexceeds]
    | false =>
        rw [if_neg Bool.false_ne_true, bind_eq_ok]
        constructor
        · rintro ⟨moment, hmoment, hpast⟩
          refine ⟨exp, moment, rfl, hexceeds, uncaught_eq_ok.mp hmoment, ?_⟩
          by_contra hlt
          rw [if_pos (not_le.mp hlt)] at hpast
          cases hpast
        · rintro ⟨exp', moment, rfl, -, hmoment, hle⟩
          exact ⟨moment, uncaught_eq_ok.mpr hmoment, if_neg (not_lt.mpr hle)⟩
  · rename_i other hnull hnum hother
    simp only [hother, reduceCtorEq, Option.some.injEq, false_or]
    refine iff_of_false (by simp [rejected]) ?_
    rintro (hget | ⟨exp, moment, hget, -⟩)
    · exact hnull hget
    · exact hnum exp hget

theorem raisesIn_checkNbf {claims : Members} {now : Instant} :
    RaisesIn Uncaught (v.checkNbf claims now) ↔ v.NoMoment claims "nbf" := by
  unfold checkNbf NoMoment
  split
  · rename_i hget
    simp [hget]
  · rename_i hget
    simp [hget]
  · rename_i nbf hget
    rw [raisesIn_bind_of_quiet, raisesIn_uncaught]
    · simp [hget]
    · intro moment _
      split <;> simp
  · rename_i other _ hnum hother
    simp only [not_raisesIn_rejected, false_iff]
    rintro ⟨nbf, hget, -⟩
    exact hnum nbf (Option.some.inj (hother.symm.trans hget))

theorem raisesIn_checkTimestamps {claims : Members} {now : Instant} :
    RaisesIn Uncaught (v.checkTimestamps claims now) ↔ v.TimesRaise claims now := by
  unfold checkTimestamps TimesRaise
  split
  · rename_i iat hget
    simp only [hget, Option.some.injEq, Json.num.injEq, exists_eq_left']
    rw [raisesIn_bind, raisesIn_uncaught]
    refine or_congr Iff.rfl (exists_congr fun moment => ?_)
    rw [uncaught_eq_ok, raisesIn_ite, raisesIn_ite, raisesIn_seq, raisesIn_checkExp,
      checkExp_eq_ok, raisesIn_checkNbf]
    simp only [not_raisesIn_rejected, and_false, false_or, gt_iff_lt, not_lt]
  · rename_i hnum
    simp only [not_raisesIn_rejected, false_iff]
    rintro ⟨iat, hget, -⟩
    exact hnum iat hget

/-! ## The payload and the whole proof -/

variable (v)

/-- The claims on which `_check_payload` raises, the ones before being accepted. -/
def PayloadRaises (claims : Members) (htu method : String) (now : Instant) : Prop :=
  ∃ jti htuClaim, jtiClaim claims = some jti ∧ holds claims "htm" method = true ∧
    claims.get "htu" = some (.str htuClaim) ∧ htuClaim ≠ "" ∧
    (v.HtuRaises (stripQueryFragment htuClaim) htu ∨
      v.htuMatches (stripQueryFragment htuClaim) htu = .ok true ∧ v.TimesRaise claims now)

/-- The proofs on which `validate` raises: the header and its key are accepted, and a claim
gets to a call that raises. -/
def Escapes (proof htu method : String) (now : Instant) : Prop :=
  proof ≠ "" ∧ ∃ header claims alg jwk key,
    v.jwt.header proof = some header ∧ v.jwt.payload proof = some claims ∧
    checkHeader header = .ok (alg, jwk) ∧ v.checkJwk jwk alg = .ok key ∧
    v.PayloadRaises claims htu method now

variable {v}

theorem bind_asStr_eq_some {claims : Members} {name text : String} :
    (claims.get name).bind Json.asStr = some text ↔ claims.get name = some (.str text) := by
  cases claims.get name with
  | none => simp
  | some value => cases value <;> simp [Json.asStr]

theorem raisesIn_checkPayload {claims : Members} {htu method ath : String} {now : Instant} :
    RaisesIn Uncaught (v.checkPayload claims htu method ath now) ↔
      v.PayloadRaises claims htu method now := by
  unfold checkPayload PayloadRaises
  simp only [← bind_asStr_eq_some]
  cases hjti : jtiClaim claims with
  | none => simp
  | some jti =>
      cases hhtm : holds claims "htm" method with
      | false => simp
      | true =>
          dsimp only
          rw [if_neg (by simp)]
          split
          · rename_i hhtu
            simp [hhtu]
          · rename_i hhtu
            simp [hhtu]
          · rename_i htuClaim hne hhtu
            have hne' : htuClaim ≠ "" := fun h => hne (by rw [h])
            rw [raisesIn_bind, raisesIn_uncaught, v.htuMatches_fails]
            simp only [hhtu, Option.some.injEq, exists_and_left, exists_eq_left', hne', ne_eq,
              not_false_eq_true, true_and, uncaught_eq_ok]
            refine or_congr Iff.rfl ⟨?_, ?_⟩
            · rintro ⟨_ | _, hmatches, hraises⟩
              · simp at hraises
              · rw [if_pos rfl, raisesIn_seq, raisesIn_checkTimestamps] at hraises
                rcases hraises with htimes | ⟨-, hrest⟩
                · exact ⟨hmatches, htimes⟩
                · simp [raisesIn_seq] at hrest
            · rintro ⟨hmatches, htimes⟩
              refine ⟨true, hmatches, ?_⟩
              rw [if_pos rfl, raisesIn_seq, raisesIn_checkTimestamps]
              exact .inl htimes

theorem raisesIn_check {proof htu method : String} (ath : String) {now : Instant} :
    RaisesIn Uncaught (v.check proof htu method ath now) ↔ v.Escapes proof htu method now := by
  unfold check Escapes
  by_cases hproof : proof = ""
  · rw [if_pos hproof]
    simp [hproof]
  rw [if_neg hproof]
  split
  · rename_i header claims hheader hclaims
    rw [raisesIn_bind_of_check (not_raisesIn_checkHeader _)]
    constructor
    · rintro ⟨⟨alg, jwk⟩, hheader', hraises⟩
      dsimp only at hraises
      rw [raisesIn_bind_of_check (v.not_raisesIn_checkJwk _ _)] at hraises
      obtain ⟨key, hkey, hraises⟩ := hraises
      rw [raisesIn_bind_of_quiet, raisesIn_checkPayload] at hraises
      · exact ⟨hproof, header, claims, alg, jwk, key, hheader, hclaims, hheader', hkey, hraises⟩
      · intro payload _
        simp [raisesIn_seq]
    · rintro ⟨-, header', claims', alg, jwk, key, hheader', hclaims', hchecked, hkey, hraises⟩
      rw [hheader] at hheader'
      cases hheader'
      rw [hclaims] at hclaims'
      cases hclaims'
      refine ⟨(alg, jwk), hchecked, ?_⟩
      dsimp only
      rw [raisesIn_bind_of_check (v.not_raisesIn_checkJwk _ _)]
      exact ⟨key, hkey, raisesIn_bind.mpr (.inl (raisesIn_checkPayload.mpr hraises))⟩
  · rename_i hnone
    simp only [not_raisesIn_rejected, false_iff]
    rintro ⟨-, header, claims, alg, jwk, key, hheader, hclaims, -⟩
    exact hnone header claims hheader hclaims

/-! ## Validation -/

variable (ports : Ports) (w : World)

/-- A row whose key the store does not have is inserted. -/
theorem save_answers {row : DPoPReplay} (hfree : (w.replays.find row.jtiHash).isSome = false) :
    (ask (.saveReplay row) >>= orRaise : M Empty Unit).run (exec ports) w =
      (.ok (), (w.insertReplay row).2) := by
  have hinsert : (w.insertReplay row).1 = .ok () := by simp [World.insertReplay, hfree]
  rw [run_ask_bind]
  show (orRaise (w.insertReplay row).1 : M Empty Unit).run (exec ports) (w.insertReplay row).2 = _
  rw [hinsert]
  rfl

/-- Alone on the store, what follows the checks raises nothing. -/
theorem remember_answers (payload : DPoPProof) :
    ∃ result w', (v.remember payload : M Empty _).run (exec ports) w = (.ok result, w') := by
  unfold remember
  rw [run_ask_bind, run_ask_bind]
  split
  · exact ⟨_, _, rfl⟩
  · rename_i hused
    have hfree : (w.replays.find (v.platform.sha256Hex payload.jti)).isSome = false :=
      Bool.eq_false_of_not_eq_true hused
    exact ⟨_, _, Prog.run_bind_ok.mpr ⟨(), _, save_answers ports w hfree, rfl⟩⟩

variable (v)

namespace UncaughtSample

/-- `urlsplit` on a URL that opens an address it does not close, and on the endpoint. -/
def urlsplit (url : String) : Except Raised UrlParts :=
  if '[' ∈ url.toList ∧ ']' ∉ url.toList then .error (.other "ValueError")
  else .ok { scheme := "https", netloc := "op.example", hostname := some "op.example",
             path := "/token" }

def header : Members :=
  [("typ", .str "dpop+jwt"), ("alg", .str "ES256"),
    ("jwk", .obj [("kty", .str "EC"), ("crv", .str "P-256"), ("x", .str "x"), ("y", .str "y")])]

/-- A proof issued at `iat` for the URL `htu`. -/
def claims (htu iat : String) : Members :=
  [("jti", .str "proof-1"), ("htm", .str "POST"), ("htu", .str htu), ("iat", .num iat)]

def endpoint : String := "https://op.example/token"

/-- The validator, reading two proofs; a date is of the years 1 to 9999. -/
def validator : PyJWTDpopProofValidator Unit where
  platform := { PurIdentityServer.Sample.platform with urlsplit := urlsplit }
  jwt :=
    { header := fun _ => some header
      payload := fun proof =>
        if proof = "late" then some (claims endpoint "253402300800")
        else some (claims "https://[" "300")
      signed := fun _ _ algorithms => algorithms = ["ES256"]
      publicKey := fun _ => some ()
      secretKey := fun _ => ()
      signed_algorithm := by
        intro token key algorithms h
        exact ⟨header, "ES256", rfl, rfl, by simp [of_decide_eq_true h]⟩ }
  publicKeyFor := fun _ _ => some ()
  fromTimestamp := fun number =>
    let moment := Json.truncated number
    if -62135596800 ≤ moment ∧ moment < 253402300800 then .ok (seconds moment)
    else .error (.other "ValueError")
  exceeds := fun number moment => decide (moment < seconds (Json.truncated number))

end UncaughtSample

end PyJWTDpopProofValidator

end PurIdentityServer
