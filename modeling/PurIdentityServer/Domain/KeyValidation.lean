import PurIdentityServer.Domain.Authorization
import PurIdentityServer.Domain.Json
import PurIdentityServer.Lib.Base64

/-!
# KeyValidation — the keys a client registers

The structure of a JWK (family, use, algorithm, members in base64url, size
of the modulus) and its use: signing the assertions of the client, or
encrypting its `id_token` for RSA. A problem is a text; no problem is the
empty text.
-/

namespace PurIdentityServer

open Effects

namespace KeyValidation

variable (p : Platform)

def supportedKtys : List String := ["RSA", "EC"]

def useValues : List String := ["sig", "enc"]

def ecCurves : List String := ["P-256", "P-384", "P-521"]

def minRsaModulusBits : Nat := 2048

/-- `_ALGORITHMS_BY_KTY` -/
def algorithmsByKty (kty : String) : List String :=
  if kty = "RSA" then
    ([.rs256, .rs384, .rs512, .ps256, .ps384, .ps512] : List JWTAlgorithm).map
      JWTAlgorithm.value ++
      ([.rsaOaep, .rsaOaep256] : List JWEKeyManagementAlgorithm).map
        JWEKeyManagementAlgorithm.value
  else ([.es256, .es384, .es512] : List JWTAlgorithm).map JWTAlgorithm.value

/-- `str(key.get(name))` -/
def memberText (key : Members) (name : String) : String :=
  match Dict.get key name with
  | some (.str text) => text
  | some value => p.pyStr value
  | none => p.pyStr .null

/-- `_kty` -/
def kty (key : Members) : String :=
  match Dict.get key "kty" with
  | some (.str value) => p.upper value
  | _ => ""

/-- `_use` -/
def use (key : Members) : String :=
  match Dict.get key "use" with
  | some (.str value) => value
  | _ => ""

/-- `^[A-Za-z0-9_-]*$`, where `$` stands before a last line end as well. -/
def isB64Url (text : List Char) : Bool :=
  let inAlphabet := fun c : Char => c.isAlphanum || c = '_' || c = '-'
  text.all inAlphabet || (text.getLast? = some '\n' && text.dropLast.all inAlphabet)

/-- `int.from_bytes(raw, "big")` -/
def fromBytes (raw : List UInt8) : Nat := raw.foldl (fun n b => 256 * n + b.toNat) 0

/-- `number.bit_length()` -/
def bitLength (number : Nat) : Nat := if number = 0 then 0 else Nat.log2 number + 1

/-- `_positive_int` -/
def positiveInt (value : Option Json) : Option Nat :=
  match value with
  | some (.str text) =>
      let chars := text.toList
      if isB64Url chars then
        match Base64.urlsafeB64decode (chars ++ List.replicate ((4 - chars.length % 4) % 4) '=') with
        | some raw => if raw = [] ∨ fromBytes raw = 0 then none else some (fromBytes raw)
        | none => none
      else none
  | _ => none

/-- `_rsa_problem` -/
def rsaProblem (key : Members) : String :=
  match positiveInt (Dict.get key "n"), positiveInt (Dict.get key "e") with
  | some modulus, some _ =>
      if bitLength modulus < minRsaModulusBits then
        "module RSA de " ++ toString (bitLength modulus) ++ " bits : minimum " ++
          toString minRsaModulusBits ++ " bits (RFC 7518 §4.3)"
      else ""
  | _, _ => "clé RSA incomplète : membres n et e requis en base64url valide"

/-- `_ec_problem` -/
def ecProblem (key : Members) : String :=
  let supported : Bool := match Dict.get key "crv" with
    | some (.str curve) => curve ∈ ecCurves
    | _ => false
  if !supported then
    "crv '" ++ memberText p key "crv" ++ "' non supporté (attendu P-256, P-384 ou P-521)"
  else if (positiveInt (Dict.get key "x")).isNone ∨ (positiveInt (Dict.get key "y")).isNone then
    "clé EC incomplète : membres x et y requis en base64url valide"
  else ""

/-- A member is absent or one of the values. -/
def absentOrOneOf (values : List String) (member : Option Json) : Bool :=
  match member with
  | none | some .null => true
  | some (.str value) => value ∈ values
  | some _ => false

/-- `_jwk_problem` -/
def jwkProblem (key : Members) : String :=
  let family := kty p key
  if family ∉ supportedKtys then
    "kty '" ++ memberText p key "kty" ++ "' non supporté (clients : RSA, EC)"
  else if !absentOrOneOf useValues (Dict.get key "use") then
    "use '" ++ memberText p key "use" ++ "' non supporté (attendu 'sig' ou 'enc')"
  else if !absentOrOneOf (algorithmsByKty family) (Dict.get key "alg") then
    "alg '" ++ memberText p key "alg" ++ "' non supporté pour une clé " ++ family
  else if family = "RSA" then rsaProblem key
  else ecProblem p key

/-- `validate_client_jwks` -/
def validateClientJwks (keys : List Members) : List String :=
  (keys.mapIdx fun index key => (index, jwkProblem p key)).filterMap fun (index, problem) =>
    if problem = "" then none else some ("jwks[" ++ toString index ++ "] : " ++ problem)

/-- `usable_for_signing` -/
def usableForSigning (keys : List Members) : List Members := keys.filter fun key => use key ≠ "enc"

/-- `require_signing_key` -/
def requireSigningKey (keys : List Members) : Option String :=
  if (usableForSigning keys).any fun key => kty p key ∈ supportedKtys then none
  else some ("Aucune clé de signature dans jwks utilisable pour private_key_jwt " ++
    "(kty RSA ou EC, use 'sig' ou absent)")

/-- `require_encryption_rsa_key` -/
def requireEncryptionRsaKey (keys : List Members) : Option String :=
  let usable := fun key : Members =>
    kty p key = "RSA" ∧ use key ≠ "sig" ∧
      ((positiveInt (Dict.get key "n")).any fun modulus =>
        minRsaModulusBits ≤ bitLength modulus) = true
  if keys.any usable then none
  else some ("Aucune clé publique RSA dans jwks utilisable pour RSA-OAEP " ++
    "(kty RSA, use 'enc' ou absent, module >= 2048 bits)")

/-! ## Keys without a problem -/

variable {p}

theorem validateClientJwks_eq_nil (keys : List Members) :
    validateClientJwks p keys = [] ↔
      ∀ key ∈ keys, jwkProblem p key = "" := by
  rw [validateClientJwks, List.filterMap_eq_nil_iff]
  constructor
  · intro h key hkey
    obtain ⟨index, hindex, rfl⟩ := List.mem_iff_getElem.mp hkey
    have hmem := h (index, jwkProblem p keys[index])
      (List.mem_mapIdx.mpr ⟨index, hindex, rfl⟩)
    by_contra hproblem
    simp [hproblem] at hmem
  · intro h item hitem
    obtain ⟨index, hindex, rfl⟩ := List.mem_mapIdx.mp hitem
    simp [h _ (List.getElem_mem hindex)]

/-! ## Numbers -/

theorem bitLength_two_pow (n : Nat) : bitLength (2 ^ n) = n + 1 := by
  rw [bitLength, if_neg (Nat.two_pow_pos n).ne', Nat.log2_two_pow]



theorem isB64Url_encode (raw : List UInt8) : isB64Url (Base64.encode raw) = true := by
  have hall : Base64.alphabet.all (fun c => c.isAlphanum || c = '_' || c = '-') = true := by decide
  rw [isB64Url, Bool.or_eq_true]
  left
  rw [List.all_eq_true]
  intro c hc
  exact List.all_eq_true.mp hall c (Base64.mem_encode hc)

/-- The reader takes the bytes of a text as a number. -/
theorem positiveInt_encode {text : String} {raw : List UInt8}
    (htext : text.toList = Base64.encode raw) :
    positiveInt (some (.str text)) = if fromBytes raw = 0 then none else some (fromBytes raw) := by
  have hdecode := Base64.decode_encode_groupPads raw
  rw [Base64.groupPads] at hdecode
  simp only [positiveInt, htext, isB64Url_encode, if_true, hdecode]
  by_cases hnil : raw = []
  · subst hnil
    rfl
  · simp only [hnil, false_or]

end KeyValidation

end PurIdentityServer
