import PurIdentityServer.Infrastructure.Mdoc
import PurIdentityServer.Lib.Fallible

/-!
# MdocIssuance — the mdoc PKI over the life of the issuer

`ensureMdocPki` keeps one PKI in the process: it takes the persisted one
when the repository answers one and generates and persists one otherwise.
`issueMdoc` signs one document for each binding key, at the date rounded
to the hour. A run interleaves issuances, restarts and losses of the
persisted PKI at arbitrary dates.

Every PKI a run ever holds comes from `generateMdocPki`
(`MdocRun.generated`), so the periods of its certificates are known from
the date of generation alone.
-/

namespace PurIdentityServer

namespace Mdoc

open Effects

variable {κ : Type}

/-! ## The repository -/

/-- A PEM text of the file: what it loads to. -/
inductive KeyPem (κ : Type) where
  | ec (key : κ)
  | otherKey
  | invalid

/-- The file of `FileMdocPKIRepository`; a certificate that does not load
is `none`. -/
inductive MdocFile (κ : Type) where
  | absent
  | unreadable
  | notAnObject
  | object (issuerKeyPem signerKeyPem : KeyPem κ)
      (issuerCertPem signerCertPem : Option (Certificate κ))

/-- `FileMdocPKIRepository.load`. -/
def MdocFile.load : MdocFile κ → Option (MdocIssuerPki κ)
  | .object (.ec issuerKey) (.ec signerKey) (some issuerCert) (some signerCert) =>
      some
        { issuerPrivateKey := issuerKey, issuerCertificate := issuerCert
          signerPrivateKey := signerKey, signerCertificate := signerCert }
  | _ => none

/-- `FileMdocPKIRepository.save`; a failed write is only logged. -/
def MdocFile.save (file : MdocFile κ) (writable : Bool) (pki : MdocIssuerPki κ) : MdocFile κ :=
  if writable then
    .object (.ec pki.issuerPrivateKey) (.ec pki.signerPrivateKey) (some pki.issuerCertificate)
      (some pki.signerCertificate)
  else file

/-- The repository given to the use case: none, the one in memory, or the
file and whether it can be written. -/
inductive MdocRepository (κ : Type) where
  | ephemeral
  | memory (pki : Option (MdocIssuerPki κ))
  | file (content : MdocFile κ) (writable : Bool)

def MdocRepository.load : MdocRepository κ → Option (MdocIssuerPki κ)
  | .ephemeral => none
  | .memory pki => pki
  | .file content _ => content.load

def MdocRepository.save (pki : MdocIssuerPki κ) : MdocRepository κ → MdocRepository κ
  | .ephemeral => .ephemeral
  | .memory _ => .memory (some pki)
  | .file content writable => .file (content.save writable pki) writable

theorem MdocFile.load_save {file : MdocFile κ} {writable : Bool} {pki loaded : MdocIssuerPki κ}
    (h : (file.save writable pki).load = some loaded) :
    loaded = pki ∨ file.load = some loaded := by
  cases writable with
  | true => exact .inl (Option.some.inj h).symm
  | false => exact .inr h

/-- What a repository answers after `save` was saved or was there before. -/
theorem MdocRepository.load_save {repository : MdocRepository κ} {pki loaded : MdocIssuerPki κ}
    (h : (repository.save pki).load = some loaded) :
    loaded = pki ∨ repository.load = some loaded := by
  cases repository with
  | ephemeral => exact .inr h
  | memory held => exact .inl (Option.some.inj h).symm
  | file content writable => exact MdocFile.load_save h

/-! ## The issuer -/

/-- The issuer of a process: `_mdoc_pki`, its repository and the draws made. -/
structure MdocIssuer (κ : Type) where
  pki : Option (MdocIssuerPki κ) := none
  repository : MdocRepository κ
  draws : Nat := 0

/-- `_ensure_mdoc_pki`; `none` when the generation raises. -/
def ensureMdocPki (platform : MdocPlatform κ) (issuer : String) (now : Instant)
    (s : MdocIssuer κ) : Option (MdocIssuerPki κ × MdocIssuer κ) :=
  match s.pki with
  | some pki => some (pki, s)
  | none =>
      match s.repository.load with
      | some loaded => some (loaded, { s with pki := some loaded })
      | none =>
          (generateMdocPki platform issuer s.draws now).map fun generated =>
            (generated,
              { pki := some generated, repository := s.repository.save generated
                draws := s.draws + 2 })

/-- `MDOC_DOCTYPE`. -/
def mdocDoctype : String := "org.iso.18013.5.1.mDL"

/-- The date of a batch: `now // 3600 * 3600`, in seconds. -/
def roundedNow (now : Int) : Int := seconds (Instant.epoch now / 3600 * 3600)

/-- What `_issue_mdoc` answers: the documents, a `CredentialError` of status
400, or an exception. -/
inductive MdocAnswer (κ : Type) where
  | credentials (documents : List (IssuerSigned κ))
  | credentialError (error description : String)
  | raised

def MdocAnswer.documents : MdocAnswer κ → List (IssuerSigned κ)
  | .credentials documents => documents
  | _ => []

/-- The text of a credential: base64url of its CBOR, without padding. -/
def credentialText (platform : MdocPlatform κ) (issued : IssuerSigned κ) : String :=
  String.ofList (Base64.rstripPad (Base64.urlsafeB64encode (issued.encode platform)))

/-- The loop of `_issue_mdoc`; every turn draws one salt for each element. -/
def issueAll (platform : MdocPlatform κ) (pki : MdocIssuerPki κ) (now : Instant) :
    List (List (String × Json)) → Nat → MdocAnswer κ × Nat
  | [], draws => (.credentials [], draws)
  | jwk :: rest, draws =>
      let after := draws + mdlMandatoryElements.length
      match pki.issue platform jwk mdlMandatoryElements mdocDoctype draws now with
      | .error (.binding message) => (.credentialError "invalid_proof" message, after)
      | .error .raised => (.raised, after)
      | .ok issued =>
          match issueAll platform pki now rest after with
          | (.credentials documents, draws) => (.credentials (issued :: documents), draws)
          | failed => failed

/-- `_issue_mdoc`. -/
def issueMdoc (platform : MdocPlatform κ) (issuer : String) (now : Instant)
    (bindingJwks : Option (List (List (String × Json)))) (s : MdocIssuer κ) :
    MdocAnswer κ × MdocIssuer κ :=
  match ensureMdocPki platform issuer now s with
  | none => (.raised, s)
  | some (pki, s) =>
      let (answer, draws) := issueAll platform pki (roundedNow now) (bindingJwks.getD []) s.draws
      (answer, { s with draws := draws })

/-! ## Runs -/

/-- A batch delivered to a wallet and the date of its issuance. -/
structure Delivery (κ : Type) where
  now : Instant
  documents : List (IssuerSigned κ)

/-- The deliveries and the issuer after some requests: `ensure` is the
metadata, the signed metadata and the CRL, which read the PKI too;
`restart` builds the use case again over the same repository; `loss` is a
persisted PKI that is lost or no longer loads. -/
inductive MdocRun (platform : MdocPlatform κ) (issuer : String) (start : MdocIssuer κ) :
    List (Delivery κ) → MdocIssuer κ → Prop
  | start : MdocRun platform issuer start [] start
  | ensure {past s s' pki} (now : Instant) (before : MdocRun platform issuer start past s)
      (step : ensureMdocPki platform issuer now s = some (pki, s')) :
      MdocRun platform issuer start past s'
  | issue {past s s' answer} (now : Instant) (bindingJwks : Option (List (List (String × Json))))
      (before : MdocRun platform issuer start past s)
      (step : issueMdoc platform issuer now bindingJwks s = (answer, s')) :
      MdocRun platform issuer start ({ now := now, documents := answer.documents } :: past) s'
  | restart {past s} (before : MdocRun platform issuer start past s) :
      MdocRun platform issuer start past { s with pki := none }
  | loss {past s} (repository : MdocRepository κ) (before : MdocRun platform issuer start past s)
      (lost : repository.load = none) :
      MdocRun platform issuer start past { s with repository := repository }

/-- The PKI was generated at `generatedAt`. -/
def MdocIssuerPki.GeneratedAt (platform : MdocPlatform κ) (issuer : String)
    (generatedAt : Instant) (pki : MdocIssuerPki κ) : Prop :=
  ∃ draws, generateMdocPki platform issuer draws generatedAt = some pki

/-- Whatever PKI the issuer holds, in the process or persisted, was generated
by it. -/
def MdocIssuer.Generated (platform : MdocPlatform κ) (issuer : String) (s : MdocIssuer κ) : Prop :=
  ∀ pki, s.pki = some pki ∨ s.repository.load = some pki →
    ∃ generatedAt, pki.GeneratedAt platform issuer generatedAt

section Generated

variable {platform : MdocPlatform κ} {issuer : String}

theorem ensureMdocPki_generated {now : Instant} {s s' : MdocIssuer κ} {pki : MdocIssuerPki κ}
    (hs : s.Generated platform issuer)
    (h : ensureMdocPki platform issuer now s = some (pki, s')) :
    s'.pki = some pki ∧ s'.Generated platform issuer := by
  unfold ensureMdocPki at h
  split at h
  case h_1 held hheld =>
    cases h
    exact ⟨hheld, hs⟩
  case h_2 =>
    split at h
    case h_1 loaded hloaded =>
      cases h
      constructor
      · rfl
      · intro other hother
        rcases hother with hheld | hstored
        · exact hs other (.inr (hloaded.trans hheld))
        · exact hs other (.inr hstored)
    case h_2 =>
      obtain ⟨generated, hgenerated, heq⟩ := Option.map_eq_some_iff.mp h
      cases heq
      constructor
      · rfl
      · intro other hother
        have hcase : other = pki ∨ s.repository.load = some other := by
          rcases hother with hheld | hstored
          · exact .inl (Option.some.inj hheld).symm
          · exact MdocRepository.load_save hstored
        rcases hcase with rfl | hbefore
        · exact ⟨now, s.draws, hgenerated⟩
        · exact hs other (.inr hbefore)

/-- An issuance leaves the issuer as `ensureMdocPki` left it, draws apart, and
its documents come from the loop over the PKI held. -/
theorem issueMdoc_cases {now : Instant} {bindingJwks : Option (List (List (String × Json)))}
    {s s' : MdocIssuer κ} {answer : MdocAnswer κ}
    (h : issueMdoc platform issuer now bindingJwks s = (answer, s')) :
    (answer = .raised ∧ s' = s) ∨
      ∃ pki held, ensureMdocPki platform issuer now s = some (pki, held) ∧
        s' = { held with draws := s'.draws } ∧
        answer = (issueAll platform pki (roundedNow now) (bindingJwks.getD []) held.draws).1 := by
  unfold issueMdoc at h
  split at h
  case h_1 =>
    cases h
    exact .inl ⟨rfl, rfl⟩
  case h_2 pki held hensure =>
    cases h
    exact .inr ⟨pki, held, hensure, rfl, rfl⟩

/-- **Run invariant.** -/
theorem MdocRun.generated {start s : MdocIssuer κ} {past : List (Delivery κ)}
    (run : MdocRun platform issuer start past s) (hstart : start.Generated platform issuer) :
    s.Generated platform issuer := by
  induction run with
  | start => exact hstart
  | ensure now before step ih => exact (ensureMdocPki_generated ih step).2
  | issue now bindingJwks before step ih =>
      rcases issueMdoc_cases step with ⟨-, rfl⟩ | ⟨pki, held, hensure, hs', -⟩
      · exact ih
      · rw [hs']
        exact (ensureMdocPki_generated ih hensure).2
  | restart before ih =>
      intro pki hpki
      rcases hpki with hheld | hstored
      · cases hheld
      · exact ih pki (.inr hstored)
  | loss repository before lost ih =>
      intro pki hpki
      rcases hpki with hheld | hstored
      · exact ih pki (.inl hheld)
      · rw [lost] at hstored
        cases hstored

end Generated

/-! ## The periods -/

theorem validityPeriod_eq_some {start : Int} {stop : Option Int} {period : Instant × Instant}
    (h : validityPeriod start stop = some period) :
    ∃ last, stop = some last ∧ period = (wholeSecond start, wholeSecond last) := by
  unfold validityPeriod at h
  split at h
  · cases h
  case h_2 last =>
    split at h
    · cases h
    · split at h
      · cases h
      · exact ⟨last, rfl, (Option.some.inj h).symm⟩

theorem selfSignedIssuerCertificate_period {privateKey : κ} {issuer : String}
    {generatedAt : Instant} {certificate : Certificate κ}
    (h : selfSignedIssuerCertificate privateKey issuer generatedAt = some certificate) :
    certificate.notValidBefore = wholeSecond (generatedAt - minutes 5) := by
  obtain ⟨period, hperiod, rfl⟩ := Option.map_eq_some_iff.mp h
  obtain ⟨last, -, rfl⟩ := validityPeriod_eq_some hperiod
  rfl

theorem documentSignerCertificate_period {privateKey : κ} {ca certificate : Certificate κ}
    {generatedAt : Instant}
    (h : documentSignerCertificate privateKey ca generatedAt = some certificate) :
    certificate.notValidBefore = wholeSecond (generatedAt - minutes 65) ∧
      certificate.notValidAfter =
        wholeSecond (generatedAt + days mdocSignerLifetimeDays) := by
  obtain ⟨period, hperiod, rfl⟩ := Option.map_eq_some_iff.mp h
  obtain ⟨last, hlast, rfl⟩ := validityPeriod_eq_some hperiod
  have hsum : last = generatedAt + days mdocSignerLifetimeDays := plus_eq_some hlast
  subst hsum
  exact ⟨rfl, rfl⟩

/-- The two periods of a generated PKI, shifted from the whole second of its
generation. -/
theorem generateMdocPki_periods {platform : MdocPlatform κ} {issuer : String} {draws : Nat}
    {generatedAt : Int} {pki : MdocIssuerPki κ}
    (h : generateMdocPki platform issuer draws generatedAt = some pki) :
    pki.issuerCertificate.notValidBefore = wholeSecond generatedAt - minutes 5 ∧
      pki.signerCertificate.notValidBefore = wholeSecond generatedAt - minutes 65 ∧
      pki.signerCertificate.notValidAfter =
        wholeSecond generatedAt + days mdocSignerLifetimeDays := by
  obtain ⟨ca, hca, h⟩ := Option.bind_eq_some_iff.mp h
  obtain ⟨signer, hsigner, h⟩ := Option.bind_eq_some_iff.mp h
  cases h
  obtain ⟨hbefore, hafter⟩ := documentSignerCertificate_period hsigner
  have hca' := selfSignedIssuerCertificate_period hca
  have hfive := wholeSecond_add generatedAt (-300)
  have hhour := wholeSecond_add generatedAt (-3900)
  have hlife := wholeSecond_add generatedAt (456 * 86400)
  refine ⟨hca'.trans ?_, hbefore.trans ?_, hafter.trans ?_⟩
  · exact hfive
  · exact hhour
  · exact hlife

/-- The signer is valid an hour before its issuing CA. -/
theorem generateMdocPki_not_within {platform : MdocPlatform κ} {issuer : String} {draws : Nat}
    {generatedAt : Int} {pki : MdocIssuerPki κ}
    (h : generateMdocPki platform issuer draws generatedAt = some pki) :
    ¬ pki.signerCertificate.Within pki.issuerCertificate := by
  obtain ⟨hca, hsigner, -⟩ := generateMdocPki_periods h
  intro hwithin
  have hle : wholeSecond generatedAt - minutes 5 ≤ wholeSecond generatedAt - minutes 65 := by
    rw [← hca, ← hsigner]
    exact hwithin.1
  simp only [minutes] at hle
  omega

/-! ## The dates of a document -/

/-- The dates of the document lie in the validity period of the document
signer certificate it embeds. -/
def IssuerSigned.InSignerPeriod (issued : IssuerSigned κ) : Prop :=
  ∃ signer, issued.issuerAuth.x5chain.head? = some signer ∧
    signer.Covers issued.issuerAuth.mso.validityInfo.signed ∧
    signer.Covers issued.issuerAuth.mso.validityInfo.validUntil

/-- The period of the document signer certificate lies in the one of the CA
that follows it in the chain. -/
def IssuerSigned.SignerInCaPeriod (issued : IssuerSigned κ) : Prop :=
  ∃ signer ca, issued.issuerAuth.x5chain = [signer, ca] ∧ signer.Within ca

theorem mobileSecurityObject_validity {docType : String} {deviceKey : DeviceCoseKey}
    {valueDigests : List (Nat × List UInt8)} {signedAt : Int} {mso : MobileSecurityObject}
    (h : mobileSecurityObject docType deviceKey valueDigests signedAt = .ok mso) :
    mso.validityInfo.signed = wholeSecond signedAt ∧
      mso.validityInfo.validUntil = wholeSecond signedAt + days mdocLifetimeDays := by
  unfold mobileSecurityObject at h
  split at h
  · cases h
  case h_2 validUntil hplus =>
    have hsum : validUntil = signedAt + days mdocLifetimeDays := plus_eq_some hplus
    have hyear := wholeSecond_add signedAt (365 * 86400)
    cases h
    subst hsum
    exact ⟨rfl, hyear⟩

theorem MdocIssuerPki.issue_ok {platform : MdocPlatform κ} {pki : MdocIssuerPki κ}
    {deviceJwk : List (String × Json)} {claims : List (String × Cbor)} {docType : String}
    {draws : Nat} {now : Instant} {issued : IssuerSigned κ}
    (h : pki.issue platform deviceJwk claims docType draws now = .ok issued) :
    issued.issuerAuth.x5chain = [pki.signerCertificate, pki.issuerCertificate] ∧
      issued.issuerAuth.mso.validityInfo.signed = wholeSecond (pki.signedAt now) ∧
      issued.issuerAuth.mso.validityInfo.validUntil =
        wholeSecond (pki.signedAt now) + days mdocLifetimeDays := by
  obtain ⟨deviceKey, -, h⟩ := bind_eq_ok.mp h
  obtain ⟨mso, hmso, h⟩ := bind_eq_ok.mp h
  cases h
  exact ⟨rfl, mobileSecurityObject_validity hmso⟩

/-- Rounding to the hour goes back by less than an hour. -/
theorem lt_roundedNow (now : Int) : now < roundedNow now + 3600000000 := by
  have hsplit : 1000000 * Int.tdiv now 1000000 + Int.tmod now 1000000 = now :=
    Int.mul_tdiv_add_tmod now 1000000
  have hrest : Int.tmod now 1000000 < 1000000 := Int.tmod_lt_of_pos now (by decide)
  show now < Int.tdiv now 1000000 / 3600 * 3600 * 1000000 + 3600000000
  omega

theorem wholeSecond_roundedNow (now : Int) : wholeSecond (roundedNow now) = roundedNow now := by
  apply wholeSecond_of_mod
  show Int.tdiv now 1000000 / 3600 * 3600 * 1000000 % 1000000 = 0
  omega

/-- A batch after the generation is signed at its rounded date. -/
theorem MdocIssuerPki.signedAt_rounded {platform : MdocPlatform κ} {issuer : String} {draws : Nat}
    {generatedAt now : Int} {pki : MdocIssuerPki κ}
    (h : generateMdocPki platform issuer draws generatedAt = some pki)
    (hafter : generatedAt ≤ now) : wholeSecond (pki.signedAt (roundedNow now)) = roundedNow now := by
  obtain ⟨-, hbefore, -⟩ := generateMdocPki_periods h
  have hrounded := lt_roundedNow now
  have hle := wholeSecond_le generatedAt
  have hwhole : wholeSecond pki.signerCertificate.notValidBefore =
      wholeSecond generatedAt - minutes 65 := by
    rw [hbefore]
    apply wholeSecond_of_mod
    have := wholeSecond_mod generatedAt
    simp only [minutes]
    omega
  have hnot : ¬ wholeSecond (roundedNow now) <
      wholeSecond pki.signerCertificate.notValidBefore := by
    rw [hwhole, wholeSecond_roundedNow]
    simp only [minutes]
    omega
  unfold MdocIssuerPki.signedAt
  rw [if_neg hnot, wholeSecond_roundedNow, wholeSecond_roundedNow]

/-- The 91 days between the life of a signer and the life of a document. -/
theorem issue_inSignerPeriod {platform : MdocPlatform κ} {issuer docType : String} {n draws : Nat}
    {generatedAt now : Int} {pki : MdocIssuerPki κ} {deviceJwk : List (String × Json)}
    {claims : List (String × Cbor)} {issued : IssuerSigned κ}
    (hpki : generateMdocPki platform issuer n generatedAt = some pki) (hafter : generatedAt ≤ now)
    (h : pki.issue platform deviceJwk claims docType draws (roundedNow now) = .ok issued) :
    issued.InSignerPeriod ↔ roundedNow now ≤ wholeSecond generatedAt + days 91 := by
  obtain ⟨hchain, hsigned, huntil⟩ := MdocIssuerPki.issue_ok h
  obtain ⟨-, hnotBefore, hnotAfter⟩ := generateMdocPki_periods hpki
  rw [MdocIssuerPki.signedAt_rounded hpki hafter] at hsigned huntil
  have hrounded := lt_roundedNow now
  have hle := wholeSecond_le generatedAt
  simp only [IssuerSigned.InSignerPeriod, hchain, List.head?_cons, Option.some.injEq,
    exists_eq_left', Certificate.Covers, hsigned, huntil, hnotBefore, hnotAfter, minutes, days,
    mdocLifetimeDays, mdocSignerLifetimeDays]
  omega

/-! ## Deliveries -/

theorem mem_issueAll {platform : MdocPlatform κ} {pki : MdocIssuerPki κ} {now : Instant}
    {issued : IssuerSigned κ} {jwks : List (List (String × Json))} {draws : Nat}
    (h : issued ∈ (issueAll platform pki now jwks draws).1.documents) :
    ∃ jwk draws, pki.issue platform jwk mdlMandatoryElements mdocDoctype draws now =
      .ok issued := by
  induction jwks generalizing draws with
  | nil => cases h
  | cons jwk rest ih =>
      unfold issueAll at h
      dsimp only at h
      split at h
      · cases h
      · cases h
      case h_3 first hfirst =>
        split at h
        case h_1 documents draws' hrest =>
          rcases List.mem_cons.mp h with rfl | hmem
          · exact ⟨jwk, draws, hfirst⟩
          · exact ih (by rw [hrest]; exact hmem)
        case h_2 => exact ih h

/-- Every delivered document was signed by a PKI the issuer had generated, at
the rounded date of its delivery. -/
theorem MdocRun.delivered {platform : MdocPlatform κ} {issuer : String} {start s : MdocIssuer κ}
    {past : List (Delivery κ)} (run : MdocRun platform issuer start past s)
    (hstart : start.Generated platform issuer) {delivery : Delivery κ} (hmem : delivery ∈ past)
    {issued : IssuerSigned κ} (hissued : issued ∈ delivery.documents) :
    ∃ (pki : MdocIssuerPki κ) (jwk : List (String × Json)) (draws : Nat),
      (∃ generatedAt, pki.GeneratedAt platform issuer generatedAt) ∧
      pki.issue platform jwk mdlMandatoryElements mdocDoctype draws (roundedNow delivery.now) =
        .ok issued := by
  induction run with
  | start => cases hmem
  | ensure now before step ih => exact ih hmem
  | restart before ih => exact ih hmem
  | loss repository before lost ih => exact ih hmem
  | issue now bindingJwks before step ih =>
      rcases List.mem_cons.mp hmem with rfl | hearlier
      · rcases issueMdoc_cases step with ⟨rfl, -⟩ | ⟨pki, held, hensure, -, rfl⟩
        · cases hissued
        · obtain ⟨hheld, hgenerated⟩ := ensureMdocPki_generated (before.generated hstart) hensure
          obtain ⟨jwk, draws, hissue⟩ := mem_issueAll hissued
          exact ⟨pki, jwk, draws, hgenerated pki (.inl hheld), hissue⟩
      · exact ih hearlier

/-- In every run, no delivered document has a signer certificate valid only
while its CA is; its own dates lie in the signer's period exactly when it is
issued at most 91 days after the generation of the PKI. -/
theorem mdoc_validity {platform : MdocPlatform κ} {issuer : String} {start s : MdocIssuer κ}
    {past : List (Delivery κ)} (run : MdocRun platform issuer start past s)
    (hstart : start.Generated platform issuer) {delivery : Delivery κ} (hmem : delivery ∈ past)
    {issued : IssuerSigned κ} (hissued : issued ∈ delivery.documents) :
    ¬ (issued.InSignerPeriod ∧ issued.SignerInCaPeriod) ∧
      ∃ pki : MdocIssuerPki κ,
        issued.issuerAuth.x5chain = [pki.signerCertificate, pki.issuerCertificate] ∧
        (∃ generatedAt, pki.GeneratedAt platform issuer generatedAt) ∧
        ∀ generatedAt, pki.GeneratedAt platform issuer generatedAt →
          ¬ pki.signerCertificate.Within pki.issuerCertificate ∧
          (generatedAt ≤ delivery.now →
            (issued.InSignerPeriod ↔
              roundedNow delivery.now ≤ wholeSecond generatedAt + days 91)) := by
  obtain ⟨pki, jwk, draws, ⟨generatedAt, n, hpki⟩, hissue⟩ := run.delivered hstart hmem hissued
  have hchain := (MdocIssuerPki.issue_ok hissue).1
  constructor
  · rintro ⟨-, signer, ca, hpair, hwithin⟩
    rw [hchain] at hpair
    cases hpair
    exact generateMdocPki_not_within hpki hwithin
  · refine ⟨pki, hchain, ⟨generatedAt, n, hpki⟩, ?_⟩
    intro date hdate
    obtain ⟨m, hgenerated⟩ := hdate
    constructor
    · exact generateMdocPki_not_within hgenerated
    · intro hafter
      exact issue_inSignerPeriod hgenerated hafter hissue

/-! ## A signer kept for a hundred days -/

namespace Sample

def platform : MdocPlatform Nat where
  generatePrivateKey n := n
  tokenBytes n := [UInt8.ofNat n]
  dumps _ := [0]
  sha256 bytes := bytes
  sign key bytes := UInt8.ofNat key :: bytes
  der certificate := [UInt8.ofNat certificate.publicKey]
  strftime _ := "2026-01-01T00:00:00Z"

def issuer : String := "https://op.example"

/-- 2026-01-01. -/
def generation : Int := 1767225600000000

def jwk : List (String × Json) :=
  [("kty", .str "EC"), ("crv", .str "P-256"), ("x", .str "AAAA"), ("y", .str "AAEC")]

def start : MdocIssuer Nat := { repository := .file .absent true }

/-- The first batch, which generates the PKI. -/
def first : MdocAnswer Nat × MdocIssuer Nat :=
  issueMdoc platform issuer generation (some [jwk]) start

/-- A batch of the next process, a hundred days later. -/
def second : MdocAnswer Nat × MdocIssuer Nat :=
  issueMdoc platform issuer (generation + days 100) (some [jwk]) { first.2 with pki := none }

theorem start_generated : start.Generated platform issuer := by
  intro pki hpki
  rcases hpki with hheld | hstored
  · cases hheld
  · cases hstored

theorem run : MdocRun platform issuer start
    [{ now := generation + days 100, documents := second.1.documents },
      { now := generation, documents := first.1.documents }] second.2 :=
  .issue (generation + days 100) (some [jwk])
    (.restart (.issue generation (some [jwk]) .start rfl)) rfl

theorem first_documents : ∃ issued, first.1.documents = [issued] := ⟨_, rfl⟩

theorem second_documents : ∃ issued signer, second.1.documents = [issued] ∧
    issued.issuerAuth.x5chain.head? = some signer ∧
    signer.notValidBefore = generation - minutes 65 ∧
    signer.notValidAfter < issued.issuerAuth.mso.validityInfo.validUntil := by
  refine ⟨_, _, rfl, rfl, ?_, ?_⟩
  · decide +kernel
  · decide +kernel

end Sample

open Sample in
theorem mdoc_validity_generation : ∃ issued, first.1.documents = [issued] ∧
    ¬ (issued.InSignerPeriod ∧ issued.SignerInCaPeriod) := by
  obtain ⟨issued, hissued⟩ := first_documents
  have hmem : issued ∈ first.1.documents := by
    rw [hissued]
    exact List.mem_singleton.mpr rfl
  exact ⟨issued, hissued,
    (mdoc_validity Sample.run start_generated (List.mem_cons_of_mem _ List.mem_cons_self) hmem).1⟩

open Sample in
theorem mdoc_outlives_signer : ¬ ∀ {start s : MdocIssuer Nat} {past : List (Delivery Nat)},
    MdocRun platform issuer start past s → start.Generated platform issuer →
    ∀ delivery ∈ past, ∀ issued ∈ delivery.documents,
      (∀ (pki : MdocIssuerPki Nat) (generatedAt : Instant),
        pki.GeneratedAt platform issuer generatedAt →
        issued.issuerAuth.x5chain = [pki.signerCertificate, pki.issuerCertificate] →
        generatedAt ≤ delivery.now) →
      issued.InSignerPeriod ∧ issued.SignerInCaPeriod := by
  intro hclaim
  obtain ⟨issued, signer, hissued, hhead, hstart, hlate⟩ := second_documents
  have hmem : issued ∈ second.1.documents := by
    rw [hissued]
    exact List.mem_singleton.mpr rfl
  obtain ⟨hdates, -⟩ := hclaim Sample.run start_generated _ List.mem_cons_self issued hmem (by
    intro pki (generatedAt : Int) hgenerated hchain
    obtain ⟨draws, hpki⟩ := hgenerated
    obtain ⟨-, hbefore, -⟩ := generateMdocPki_periods hpki
    rw [hchain] at hhead
    cases hhead
    rw [hbefore] at hstart
    have hlt := lt_wholeSecond generatedAt
    show generatedAt ≤ generation + days 100
    simp only [minutes, days] at *
    omega)
  obtain ⟨other, hother, -, huntil⟩ := hdates
  rw [hhead] at hother
  cases hother
  have hle := huntil.2
  omega

end Mdoc

end PurIdentityServer
