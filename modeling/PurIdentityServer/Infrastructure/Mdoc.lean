import PurIdentityServer.Lib.Dict
import PurIdentityServer.Lib.Base64
import PurIdentityServer.Domain.Text

/-!
# Mdoc — the mdoc PKI and the documents it signs

`generateMdocPki` draws the two keys of an issuer and builds the IACA
certificate and the document signer certificate; `MdocIssuerPki.issue`
builds the mobile security object of one device key, signs it and joins
the certificate chain.

CBOR values are the inductive `Cbor`; its encoding, SHA-256, the key
generator and ES256 belong to `MdocPlatform`. Dates are microseconds, as
everywhere; a certificate and a security object carry whole seconds.
-/

namespace PurIdentityServer

namespace Mdoc

open Effects

/-! ## Dates -/

/-- `timedelta(minutes=n)`. -/
def minutes (n : Int) : Int := n * 60000000

/-- `timedelta(days=n)`. -/
def days (n : Int) : Int := n * 86400000000

/-- `moment.replace(microsecond=0)`. -/
def wholeSecond (t : Int) : Int := t - t % 1000000

/-- `datetime.max`, in microseconds. -/
def datetimeMax : Int := 253402300799999999

/-- `_EARLIEST_UTC_TIME` of the certificate builder, 1950-01-01. -/
def earliestUtcTime : Int := -631152000000000

/-- `moment + delta`; `none` is `OverflowError`. -/
def plus (t delta : Int) : Option Int :=
  if t + delta ≤ datetimeMax then some (t + delta) else none

@[simp] theorem wholeSecond_mod (t : Int) : wholeSecond t % 1000000 = 0 := by
  show (t - t % 1000000) % 1000000 = 0
  omega

theorem wholeSecond_le (t : Int) : wholeSecond t ≤ t := by
  show t - t % 1000000 ≤ t
  omega

theorem lt_wholeSecond (t : Int) : t < wholeSecond t + 1000000 := by
  show t < t - t % 1000000 + 1000000
  omega

theorem wholeSecond_of_mod {t : Int} (h : t % 1000000 = 0) : wholeSecond t = t := by
  show t - t % 1000000 = t
  omega

/-- A shift by whole seconds moves the whole second with it. -/
theorem wholeSecond_add (t k : Int) :
    wholeSecond (t + k * 1000000) = wholeSecond t + k * 1000000 := by
  show t + k * 1000000 - (t + k * 1000000) % 1000000 = t - t % 1000000 + k * 1000000
  omega

theorem plus_eq_some {t u delta : Int} (h : plus t delta = some u) : u = t + delta := by
  unfold plus at h
  split at h
  · exact (Option.some.inj h).symm
  · cases h

/-! ## CBOR -/

/-- The values handed to `cbor2.dumps`. -/
inductive Cbor where
  | int (n : Int)
  | bytes (b : List UInt8)
  | text (s : String)
  | array (items : List Cbor)
  | map (items : List (Cbor × Cbor))
  | tag (number : Nat) (value : Cbor)

/-- A `datetime.date`: tag 1004 (full-date). -/
def Cbor.date (iso : String) : Cbor := .tag 1004 (.text iso)

/-! ## Certificates -/

structure DistinguishedName where
  country : String
  commonName : String
  deriving DecidableEq, Repr

/-- An X.509 certificate; `publicKey` is the key pair it was issued for, the
two dates are in microseconds. -/
structure Certificate (κ : Type) where
  subject : DistinguishedName
  issuer : DistinguishedName
  publicKey : κ
  notValidBefore : Int
  notValidAfter : Int
  ca : Bool

variable {κ : Type}

/-- The instant lies in the validity period of the certificate. -/
def Certificate.Covers (certificate : Certificate κ) (t : Int) : Prop :=
  certificate.notValidBefore ≤ t ∧ t ≤ certificate.notValidAfter

/-- The validity period lies in the one of `other`. -/
def Certificate.Within (certificate other : Certificate κ) : Prop :=
  other.notValidBefore ≤ certificate.notValidBefore ∧
    certificate.notValidAfter ≤ other.notValidAfter

instance (certificate : Certificate κ) (t : Int) : Decidable (certificate.Covers t) :=
  inferInstanceAs (Decidable (_ ∧ _))

instance (certificate other : Certificate κ) : Decidable (certificate.Within other) :=
  inferInstanceAs (Decidable (_ ∧ _))

structure MdocIssuerPki (κ : Type) where
  issuerPrivateKey : κ
  issuerCertificate : Certificate κ
  signerPrivateKey : κ
  signerCertificate : Certificate κ

/-- The functions of the libraries: `cbor2`, `hashlib`, `secrets`,
`cryptography` and `strftime`; a draw is numbered. -/
structure MdocPlatform (κ : Type) where
  generatePrivateKey : Nat → κ
  tokenBytes : Nat → List UInt8
  dumps : Cbor → List UInt8
  sha256 : List UInt8 → List UInt8
  sign : κ → List UInt8 → List UInt8
  der : Certificate κ → List UInt8
  /-- `strftime("%Y-%m-%dT%H:%M:%SZ")`. -/
  strftime : Instant → String

/-! ## Constants -/

def digestAlgorithm : String := "SHA-256"

def personalNameNamespace : String := "org.iso.18013.5.1"

/-- `MDoc_LIFETIME_DAYS`. -/
def mdocLifetimeDays : Int := 365

/-- `MDOC_SIGNER_LIFETIME_DAYS`. -/
def mdocSignerLifetimeDays : Int := 456

def mdocIssuingCountry : String := "FR"

/-- `MDL_MANDATORY_ELEMENTS`. -/
def mdlMandatoryElements : List (String × Cbor) :=
  [("family_name", .text "Martin"), ("given_name", .text "Alice"),
    ("birth_date", .date "1985-06-15"), ("issue_date", .date "2025-06-01"),
    ("expiry_date", .date "2030-06-01"), ("issuing_country", .text mdocIssuingCountry),
    ("issuing_authority", .text "Ministere de l'Interieur"),
    ("document_number", .text "12AB34567"),
    ("portrait", .bytes ((Base64.urlsafeB64decode
      ("iVBORw0KGgoAAAANSUhEUgAAAAEAAAABCAYAAAAfFcSJ" ++
        "AAAADUlEQVR42mP8z8BQDwAEhQGAhKmMIQAAAABJRU5ErkJggg==").toList).getD [])),
    ("driving_privileges", .array [.map
      [(.text "vehicle_category_code", .text "B"), (.text "issue_date", .date "2025-06-01"),
        (.text "expiry_date", .date "2030-06-01"),
        (.text "codes", .array [.map [(.text "code", .text "01")]])]]),
    ("un_distinguishing_sign", .text "SIGN-DEMO-0001")]

/-! ## Generation -/

/-- `_COMMON_NAME_MAX_LENGTH`. -/
def commonNameMaxLength : Nat := 64

/-- `_capped_common_name`. -/
def cappedCommonName (base suffix : String) : String :=
  if commonNameMaxLength ≤ suffix.length then
    String.ofList (suffix.toList.take commonNameMaxLength)
  else String.ofList (base.toList.take (commonNameMaxLength - suffix.length)) ++ suffix

/-- `.not_valid_before(start)` and `.not_valid_after(end)` of the builder:
an end too far off raises `OverflowError`, a start before 1950 or after
the end `ValueError`; the encoding drops the microseconds. -/
def validityPeriod (start : Instant) (stop : Option Instant) : Option (Instant × Instant) :=
  match stop with
  | none => none
  | some stop =>
      if start < earliestUtcTime then none
      else if stop < start then none
      else some (wholeSecond start, wholeSecond stop)

/-- `_self_signed_issuer_certificate`. -/
def selfSignedIssuerCertificate (privateKey : κ) (issuer : String) (generatedAt : Instant) :
    Option (Certificate κ) :=
  (validityPeriod (generatedAt - minutes 5) (plus generatedAt (days (mdocLifetimeDays * 10)))).map
    fun period =>
      let name := { country := mdocIssuingCountry, commonName := cappedCommonName issuer " IACA" }
      { subject := name, issuer := name, publicKey := privateKey, ca := true
        notValidBefore := period.1, notValidAfter := period.2 }

/-- `_document_signer_certificate`; the margin of one hour covers the
`signed` date rounded to the hour. -/
def documentSignerCertificate (privateKey : κ) (issuerCertificate : Certificate κ)
    (generatedAt : Instant) : Option (Certificate κ) :=
  (validityPeriod (generatedAt - minutes 65)
    (plus generatedAt (days mdocSignerLifetimeDays))).map fun period =>
      { subject :=
          { country := mdocIssuingCountry
            commonName :=
              cappedCommonName issuerCertificate.subject.commonName " document signer" }
        issuer := issuerCertificate.subject, publicKey := privateKey, ca := false
        notValidBefore := period.1, notValidAfter := period.2 }

/-- `generate_mdoc_pki(issuer)` at `generatedAt`, with the two keys drawn;
`none` when a date is out of range. -/
def generateMdocPki (platform : MdocPlatform κ) (issuer : String) (draws : Nat)
    (generatedAt : Instant) : Option (MdocIssuerPki κ) := do
  let issuerKey := platform.generatePrivateKey draws
  let issuerCertificate ← selfSignedIssuerCertificate issuerKey issuer generatedAt
  let signerKey := platform.generatePrivateKey (draws + 1)
  let signerCertificate ← documentSignerCertificate signerKey issuerCertificate generatedAt
  pure
    { issuerPrivateKey := issuerKey, issuerCertificate := issuerCertificate
      signerPrivateKey := signerKey, signerCertificate := signerCertificate }

/-! ## Issuance -/

/-- What leaves `issue`: `MdocBindingError`, or an exception of a library. -/
inductive MdocStop where
  | binding (message : String)
  | raised
  deriving DecidableEq, Repr

/-- The COSE key of the device. -/
structure DeviceCoseKey where
  x : List UInt8
  y : List UInt8
  deriving DecidableEq

def DeviceCoseKey.toCbor (key : DeviceCoseKey) : Cbor :=
  .map [(.int 1, .int 2), (.int 3, .int (-7)), (.int (-1), .int 1), (.int (-2), .bytes key.x),
    (.int (-3), .bytes key.y)]

/-- `_b64url_decode`. -/
def b64urlDecode (value : String) : Except MdocStop (List UInt8) :=
  let padding := List.replicate ((4 - value.length % 4) % 4) '='
  match Base64.urlsafeB64decode (value.toList ++ padding) with
  | some bytes => .ok bytes
  | none => .error .raised

/-- `_device_cose_key`; a list or an object under `kty` is not hashable. -/
def deviceCoseKey (deviceJwk : List (String × Json)) : Except MdocStop DeviceCoseKey :=
  let get (name : String) : Json := (Dict.get deviceJwk name).getD .null
  match get "kty" with
  | .arr _ | .obj _ => .error .raised
  | kty =>
      if kty.asStr ≠ some "EC" then
        .error (.binding "cle de liaison non EC, incompatible avec un device key mdoc")
      else if (get "crv").asStr ≠ some "P-256" then
        .error (.binding "seule la courbe P-256 est supportee pour un device key mdoc")
      else
        match (get "x").asStr, (get "y").asStr with
        | some x, some y => do
            let x ← b64urlDecode x
            let y ← b64urlDecode y
            pure { x := x, y := y }
        | _, _ => .error (.binding "coordonnees x/y absentes de la cle de liaison")

/-- `_issuer_signed_item`. -/
def issuerSignedItem (platform : MdocPlatform κ) (elementIdentifier : String)
    (elementValue : Cbor) (digestId draw : Nat) : Cbor :=
  .tag 24 (.bytes (platform.dumps (.map
    [(.text "digestID", .int digestId), (.text "random", .bytes (platform.tokenBytes draw)),
      (.text "elementIdentifier", .text elementIdentifier),
      (.text "elementValue", elementValue)])))

/-- `_item_digest`. -/
def itemDigest (platform : MdocPlatform κ) (encodedItem : Cbor) : List UInt8 :=
  platform.sha256 (platform.dumps encodedItem)

/-- `_signed_name_spaces`: the items of the namespace and their digests. -/
def signedNameSpaces (platform : MdocPlatform κ) (claims : List (String × Cbor)) (draws : Nat) :
    List Cbor × List (Nat × List UInt8) :=
  let items := claims.zipIdx.map fun (element, digestId) =>
    issuerSignedItem platform element.1 element.2 digestId (draws + digestId)
  (items, items.zipIdx.map fun (item, digestId) => (digestId, itemDigest platform item))

structure ValidityInfo where
  signed : Instant
  validFrom : Instant
  validUntil : Instant
  deriving DecidableEq, Repr

/-- The `MobileSecurityObject`; its digests stand in the personal name
namespace. -/
structure MobileSecurityObject where
  version : String := "1.0"
  docType : String
  digestAlgorithm : String := Mdoc.digestAlgorithm
  valueDigests : List (Nat × List UInt8)
  validityInfo : ValidityInfo
  deviceKey : DeviceCoseKey

/-- `_rfc3339_instant`. -/
def rfc3339Instant (platform : MdocPlatform κ) (value : Instant) : Cbor :=
  .tag 0 (.text (platform.strftime (wholeSecond value)))

def MobileSecurityObject.toCbor (platform : MdocPlatform κ) (mso : MobileSecurityObject) : Cbor :=
  .map
    [(.text "version", .text mso.version), (.text "docType", .text mso.docType),
      (.text "digestAlgorithm", .text mso.digestAlgorithm),
      (.text "valueDigests", .map [(.text personalNameNamespace,
        .map (mso.valueDigests.map fun item => (.int item.1, .bytes item.2)))]),
      (.text "validityInfo", .map
        [(.text "signed", rfc3339Instant platform mso.validityInfo.signed),
          (.text "validFrom", rfc3339Instant platform mso.validityInfo.validFrom),
          (.text "validUntil", rfc3339Instant platform mso.validityInfo.validUntil)]),
      (.text "deviceKeyInfo", .map [(.text "deviceKey", mso.deviceKey.toCbor)])]

/-- `_mobile_security_object`; the dates are those `_rfc3339_instant` writes. -/
def mobileSecurityObject (docType : String) (deviceKey : DeviceCoseKey)
    (valueDigests : List (Nat × List UInt8)) (signedAt : Instant) :
    Except MdocStop MobileSecurityObject :=
  match plus signedAt (days mdocLifetimeDays) with
  | none => .error .raised
  | some validUntil =>
      .ok
        { docType := docType, valueDigests := valueDigests, deviceKey := deviceKey
          validityInfo :=
            { signed := wholeSecond signedAt, validFrom := wholeSecond signedAt
              validUntil := wholeSecond validUntil } }

/-- The `COSE_Sign1` of a document: its object, the chain of the `x5chain`
header and the signature. -/
structure IssuerAuth (κ : Type) where
  mso : MobileSecurityObject
  x5chain : List (Certificate κ)
  signature : List UInt8

structure IssuerSigned (κ : Type) where
  issuerAuth : IssuerAuth κ
  nameSpaces : List Cbor

/-- The payload of the `Sign1` message. -/
def msoPayload (platform : MdocPlatform κ) (mso : MobileSecurityObject) : List UInt8 :=
  platform.dumps (.tag 24 (.bytes (platform.dumps (mso.toCbor platform))))

/-- `_sign_mso`. -/
def signMso (platform : MdocPlatform κ) (mso : MobileSecurityObject) (pki : MdocIssuerPki κ) :
    IssuerAuth κ :=
  { mso := mso, x5chain := [pki.signerCertificate, pki.issuerCertificate]
    signature := platform.sign pki.signerPrivateKey (msoPayload platform mso) }

/-- The last lines of `issue`: the CBOR of the document. -/
def IssuerSigned.encode (platform : MdocPlatform κ) (issued : IssuerSigned κ) : List UInt8 :=
  platform.dumps (.map
    [(.text "issuerAuth", .array
      [.bytes (platform.dumps (.map [(.int 1, .int (-7))])),
        .map [(.int 33, .array (issued.issuerAuth.x5chain.map fun c => .bytes (platform.der c)))],
        .bytes (msoPayload platform issued.issuerAuth.mso),
        .bytes issued.issuerAuth.signature]),
      (.text "nameSpaces", .map [(.text personalNameNamespace, .array issued.nameSpaces)])])

/-- The date of signature: whole seconds, raised to the start of the signer's
validity when it is earlier. -/
def MdocIssuerPki.signedAt (pki : MdocIssuerPki κ) (now : Instant) : Instant :=
  if wholeSecond now < wholeSecond pki.signerCertificate.notValidBefore then
    wholeSecond pki.signerCertificate.notValidBefore
  else wholeSecond now

/-- `MdocIssuerPKI.issue`, before `IssuerSigned.encode`. -/
def MdocIssuerPki.issue (platform : MdocPlatform κ) (pki : MdocIssuerPki κ)
    (deviceJwk : List (String × Json)) (claims : List (String × Cbor)) (docType : String)
    (draws : Nat) (now : Instant) : Except MdocStop (IssuerSigned κ) := do
  let (nameSpaces, valueDigests) := signedNameSpaces platform claims draws
  let deviceKey ← deviceCoseKey deviceJwk
  let mso ← mobileSecurityObject docType deviceKey valueDigests (pki.signedAt now)
  pure { issuerAuth := signMso platform mso pki, nameSpaces := nameSpaces }

end Mdoc

end PurIdentityServer
