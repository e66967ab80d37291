import PurIdentityServer.Application.Jwks
import PurIdentityServer.Domain.KeyValidation
import PurIdentityServer.Lib.BigEndian
import PurIdentityServer.Lib.Fallible

/-!
# PublishedKeys — the JWK Set of the server

`/.well-known/jwks.json` writes the public part of each published key as a
JWK: the numbers of an RSA key on as few bytes as they need, the
coordinates of a point on the bytes of its curve, both in base64url. The
reader is the one the server has for the keys of its clients.
-/

namespace PurIdentityServer

open Effects

/-! ## The JWK of a key pair -/

inductive KeyType where
  | rsa | ec | oct
  deriving DecidableEq

/-- The value of the enumeration member. -/
def KeyType.value : KeyType → String
  | rsa => "RSA"
  | ec => "EC"
  | oct => "oct"

/-- `JWTAlgorithm.key_type` -/
def JWTAlgorithm.keyType (algorithm : JWTAlgorithm) : Except Raised KeyType :=
  match algorithm with
  | .none => .error (.other "ValueError")
  | .rs256 | .rs384 | .rs512 | .ps256 | .ps384 | .ps512 => .ok .rsa
  | .hs256 | .hs384 | .hs512 => .ok .oct
  | .es256 | .es384 | .es512 => .ok .ec

/-- `JWTAlgorithm.curve` -/
def JWTAlgorithm.curve : JWTAlgorithm → String
  | .es256 => "P-256"
  | .es384 => "P-384"
  | .es512 => "P-521"
  | _ => ""

namespace Jwks

/-- What a public PEM loads as: the numbers of the key; a curve has the size of its field. -/
inductive PublicNumbers where
  | rsa (n e : Nat)
  | ec (keySize x y : Nat)
  | other

structure JWKKeyResponse where
  kty : String
  kid : String
  use : Option String := some "sig"
  alg : Option String := none
  crv : Option String := none
  n : Option String := none
  e : Option String := none
  x : Option String := none
  y : Option String := none

/-- A member that is left out when it is `None`. -/
def present (name : String) (value : Option String) : Members :=
  match value with
  | some text => [(name, .str text)]
  | none => []

def JWKKeyResponse.fields (key : JWKKeyResponse) : List (String × Option String) :=
  [("kty", some key.kty), ("kid", some key.kid), ("use", key.use), ("alg", key.alg),
    ("crv", key.crv), ("n", key.n), ("e", key.e), ("x", key.x), ("y", key.y)]

/-- The answer of the route, with `response_model_exclude_none`. -/
def JWKKeyResponse.modelDump (key : JWKKeyResponse) : Members :=
  key.fields.flatMap fun field => present field.1 field.2

/-- `_to_base64url` -/
def toBase64url (value : List UInt8) : String :=
  String.ofList (Base64.rstripPad (Base64.urlsafeB64encode value))

/-- `value.to_bytes(length, "big")`, in base64url. -/
def numberToBase64url (length value : Nat) : Except Raised String :=
  match BigEndian.toBytes length value with
  | some raw => .ok (toBase64url raw)
  | none => .error (.other "OverflowError")

/-- `_int_to_base64url` -/
def intToBase64url (value : Nat) : Except Raised String :=
  numberToBase64url (max 1 ((KeyValidation.bitLength value + 7) / 8)) value

/-- `_ec_coord_to_base64url` -/
def ecCoordToBase64url (value keySize : Nat) : Except Raised String :=
  numberToBase64url ((keySize + 7) / 8) value

/-- `JWKKeyResponse.from_key_pair`, with `load_pem_public_key`. -/
def fromKeyPair (load : String → Except Raised PublicNumbers) (keyPair : KeyPair) :
    Except Raised JWKKeyResponse := do
  let publicKey ← load keyPair.publicKeyPem
  -- an encryption key serves several algorithms: it has no `use`
  let encrypted := decide (keyPair.use = .enc)
  let kty ← keyPair.algorithm.keyType
  let common : JWKKeyResponse :=
    { kty := kty.value
      kid := keyPair.kid
      use := if encrypted then none else some "sig"
      alg := some (if encrypted then JWEKeyManagementAlgorithm.rsaOaep.value
        else keyPair.algorithm.value) }
  match publicKey with
  | .rsa n e => do
      let n ← intToBase64url n
      let e ← intToBase64url e
      pure { common with n := some n, e := some e }
  | .ec keySize x y => do
      let x ← ecCoordToBase64url x keySize
      let y ← ecCoordToBase64url y keySize
      pure { common with crv := some keyPair.algorithm.curve, x := some x, y := some y }
  | .other => pure common

/-- The keys of `/.well-known/jwks.json`. -/
def jwkSet (load : String → Except Raised PublicNumbers) (keyPairs : List KeyPair) :
    Except Raised (List Members) :=
  keyPairs.mapM fun keyPair => do
    let key ← fromKeyPair load keyPair
    pure key.modelDump

/-! ## Numbers in base64url -/

/-- The bytes a base64url member holds. -/
def memberBytes (value : Option Json) : Option (List UInt8) :=
  match value with
  | some (.str text) =>
      Base64.urlsafeB64decode (text.toList ++ Base64.groupPads text.toList.length)
  | _ => none

theorem memberBytes_toBase64url (raw : List UInt8) :
    memberBytes (some (.str (toBase64url raw))) = some raw := by
  rw [memberBytes, toBase64url, Base64.rstripPad_encode, String.toList_ofList]
  exact Base64.decode_encode_groupPads raw

/-- The reader of client keys takes the bytes as a number. -/
theorem positiveInt_toBase64url (raw : List UInt8) :
    KeyValidation.positiveInt (some (.str (toBase64url raw))) =
      if BigEndian.number raw = 0 then none else some (BigEndian.number raw) := by
  apply KeyValidation.positiveInt_encode
  rw [toBase64url, String.toList_ofList, Base64.rstripPad_encode]

/-- A member holds the number, on the bytes of the length. -/
structure Holds (value : Option Json) (length number : Nat) : Prop where
  bytes : ∃ raw, memberBytes value = some raw ∧ raw.length = length ∧
    BigEndian.number raw = number
  read : KeyValidation.positiveInt value = if number = 0 then none else some number

theorem holds_of_numberToBase64url {length number : Nat} {text : String}
    (h : numberToBase64url length number = .ok text) : Holds (some (.str text)) length number := by
  unfold numberToBase64url at h
  cases hraw : BigEndian.toBytes length number with
  | none =>
      rw [hraw] at h
      cases h
  | some raw =>
      rw [hraw] at h
      obtain rfl := Except.ok.inj h
      obtain ⟨hnumber, hlength⟩ := BigEndian.number_of_toBytes hraw
      refine ⟨⟨raw, memberBytes_toBase64url raw, hlength, hnumber⟩, ?_⟩
      rw [positiveInt_toBase64url, hnumber]

/-- The bytes of the length of a number: one at least. -/
def byteLength (number : Nat) : Nat := max 1 ((KeyValidation.bitLength number + 7) / 8)

theorem lt_two_pow_bitLength (number : Nat) : number < 2 ^ KeyValidation.bitLength number := by
  unfold KeyValidation.bitLength
  split
  · rename_i hzero
    subst hzero
    exact Nat.one_pos
  · exact Nat.lt_log2_self

theorem bitLength_le {number bits : Nat} (h : number < 2 ^ bits) :
    KeyValidation.bitLength number ≤ bits := by
  unfold KeyValidation.bitLength
  split
  · exact Nat.zero_le _
  · rename_i hzero
    exact (Nat.log2_lt hzero).mpr h

/-- The bytes of its length are enough for a number. -/
theorem lt_of_byteLength (number : Nat) : number < 256 ^ byteLength number := by
  have hbits : KeyValidation.bitLength number ≤ 8 * byteLength number := by
    unfold byteLength
    omega
  calc number < 2 ^ KeyValidation.bitLength number := lt_two_pow_bitLength number
    _ ≤ 2 ^ (8 * byteLength number) := Nat.pow_le_pow_right (by omega) hbits
    _ = 256 ^ byteLength number := by rw [Nat.pow_mul]

/-- No shorter text of bytes reads as the number. -/
theorem byteLength_le {number : Nat} {raw : List UInt8} (hraw : raw ≠ [])
    (h : BigEndian.number raw = number) : byteLength number ≤ raw.length := by
  have hlt : number < 2 ^ (8 * raw.length) := by
    have hpow : 2 ^ (8 * raw.length) = 256 ^ raw.length := by rw [Nat.pow_mul]
    have hbytes := BigEndian.number_lt raw
    omega
  have hbits := bitLength_le hlt
  have hlength : 0 < raw.length := List.length_pos_iff.mpr hraw
  unfold byteLength
  omega

/-- An integer is always written. -/
theorem intToBase64url_ok (number : Nat) : ∃ text, intToBase64url number = .ok text := by
  refine ⟨toBase64url (BigEndian.bytes (byteLength number) number), ?_⟩
  rw [intToBase64url, numberToBase64url]
  show (match BigEndian.toBytes (byteLength number) number with | some raw => _ | none => _) = _
  rw [BigEndian.toBytes, if_pos (lt_of_byteLength number)]

/-! ## The set as it is read -/

/-- The names of the members that are published. -/
def publicNames : List String := ["kty", "kid", "use", "alg", "crv", "n", "e", "x", "y"]

/-- The member holds the number on as few bytes as a number needs. -/
def HoldsShort (value : Option Json) (number : Nat) : Prop :=
  Holds value (byteLength number) number ∧
    ∀ raw, raw ≠ [] → BigEndian.number raw = number → byteLength number ≤ raw.length

/-- The members a key carries its numbers in. -/
def Carries (algorithm : JWTAlgorithm) (key : Members) : PublicNumbers → Prop
  | .rsa n e => HoldsShort (Dict.get key "n") n ∧ HoldsShort (Dict.get key "e") e
  | .ec keySize x y =>
      Dict.get key "crv" = some (.str algorithm.curve) ∧
        Holds (Dict.get key "x") ((keySize + 7) / 8) x ∧
        Holds (Dict.get key "y") ((keySize + 7) / 8) y
  | .other => True

/-- The JWK of a key pair. -/
structure Published (load : String → Except Raised PublicNumbers) (keyPair : KeyPair)
    (key : Members) : Prop where
  names : ∀ member ∈ key, member.1 ∈ publicNames
  kid : Dict.get key "kid" = some (.str keyPair.kid)
  use : Dict.get key "use" = if keyPair.use = .enc then none else some (.str "sig")
  alg : Dict.get key "alg" = some (.str
    (if keyPair.use = .enc then "RSA-OAEP" else keyPair.algorithm.value))
  kty : ∃ kty, keyPair.algorithm.keyType = .ok kty ∧
    Dict.get key "kty" = some (.str kty.value)
  numbers : ∃ numbers, load keyPair.publicKeyPem = .ok numbers ∧
    Carries keyPair.algorithm key numbers

/-- What the reader of the keys of clients asks of a key pair. -/
def Sound (keyPair : KeyPair) : PublicNumbers → Prop
  | .rsa n e =>
      keyPair.algorithm.keyType = .ok .rsa ∧ 0 < e ∧
        KeyValidation.minRsaModulusBits ≤ KeyValidation.bitLength n
  | .ec _ x y => keyPair.algorithm.keyType = .ok .ec ∧ keyPair.use ≠ .enc ∧ 0 < x ∧ 0 < y
  | .other => False

section Reading

variable {load : String → Except Raised PublicNumbers} {keyPair : KeyPair}

theorem get_present (name : String) (value : Option String) (k : String) :
    Dict.get (present name value) k = if name = k then value.map .str else none := by
  cases value with
  | none => simp [present]
  | some text => simp [present, Dict.get_cons]

theorem get_flatMap_present (fields : List (String × Option String)) (k : String)
    (hnames : (fields.map Prod.fst).Nodup) :
    Dict.get (fields.flatMap fun field => present field.1 field.2) k =
      ((Dict.get fields k).bind id).map .str := by
  induction fields with
  | nil => rfl
  | cons field rest ih =>
      rw [List.map_cons, List.nodup_cons] at hnames
      rw [List.flatMap_cons, Dict.get_append, get_present, Dict.get_cons, ih hnames.2]
      by_cases hname : field.1 = k
      · subst hname
        have hrest : Dict.get rest field.1 = none := Dict.get_eq_none.mpr hnames.1
        cases hvalue : field.2 with
        | none => simp [hrest]
        | some text => simp
      · simp [hname]

/-- What a name is found to stand for in the answer. -/
theorem get_modelDump (key : JWKKeyResponse) (k : String) :
    Dict.get key.modelDump k = ((Dict.get key.fields k).bind id).map .str := by
  have hnames : publicNames.Nodup := by decide
  exact get_flatMap_present key.fields k hnames

theorem names_modelDump (key : JWKKeyResponse) :
    ∀ member ∈ key.modelDump, member.1 ∈ publicNames := by
  intro member hmember
  rw [JWKKeyResponse.modelDump, List.mem_flatMap] at hmember
  obtain ⟨field, hfield, hmember⟩ := hmember
  have hname : field.1 ∈ publicNames := List.mem_map_of_mem (f := Prod.fst) hfield
  cases hvalue : field.2 with
  | none =>
      rw [hvalue] at hmember
      cases hmember
  | some text =>
      rw [hvalue] at hmember
      obtain rfl := List.mem_singleton.mp hmember
      exact hname

/-- The members of a response that carry its numbers. -/
def Numbered (algorithm : JWTAlgorithm) (key : JWKKeyResponse) : PublicNumbers → Prop
  | .rsa n e =>
      key.crv = none ∧ key.x = none ∧ key.y = none ∧
        (∃ text, key.n = some text ∧ intToBase64url n = .ok text) ∧
        ∃ text, key.e = some text ∧ intToBase64url e = .ok text
  | .ec keySize x y =>
      key.n = none ∧ key.e = none ∧ key.crv = some algorithm.curve ∧
        (∃ text, key.x = some text ∧ ecCoordToBase64url x keySize = .ok text) ∧
        ∃ text, key.y = some text ∧ ecCoordToBase64url y keySize = .ok text
  | .other => key.crv = none ∧ key.n = none ∧ key.e = none ∧ key.x = none ∧ key.y = none

/-- What the conversion of a key pair answers. -/
structure Converted (load : String → Except Raised PublicNumbers) (keyPair : KeyPair)
    (numbers : PublicNumbers) (kty : KeyType) (key : JWKKeyResponse) : Prop where
  loaded : load keyPair.publicKeyPem = .ok numbers
  family : keyPair.algorithm.keyType = .ok kty
  kty : key.kty = kty.value
  kid : key.kid = keyPair.kid
  use : key.use = if keyPair.use = .enc then none else some "sig"
  alg : key.alg = some (if keyPair.use = .enc then "RSA-OAEP" else keyPair.algorithm.value)
  numbered : Numbered keyPair.algorithm key numbers

theorem converted_of_fromKeyPair {key : JWKKeyResponse} (h : fromKeyPair load keyPair = .ok key) :
    ∃ numbers kty, Converted load keyPair numbers kty key := by
  unfold fromKeyPair at h
  obtain ⟨numbers, hload, h⟩ := bind_eq_ok.mp h
  obtain ⟨kty, hkty, h⟩ := bind_eq_ok.mp h
  refine ⟨numbers, kty, ?_⟩
  cases numbers with
  | rsa n e =>
      obtain ⟨nText, hn, h⟩ := bind_eq_ok.mp h
      obtain ⟨eText, he, h⟩ := bind_eq_ok.mp h
      obtain rfl := pure_eq_ok.mp h
      exact ⟨hload, hkty, rfl, rfl, by simp, by simp [JWEKeyManagementAlgorithm.value],
        rfl, rfl, rfl, ⟨nText, rfl, hn⟩, eText, rfl, he⟩
  | ec keySize x y =>
      obtain ⟨xText, hx, h⟩ := bind_eq_ok.mp h
      obtain ⟨yText, hy, h⟩ := bind_eq_ok.mp h
      obtain rfl := pure_eq_ok.mp h
      exact ⟨hload, hkty, rfl, rfl, by simp, by simp [JWEKeyManagementAlgorithm.value],
        rfl, rfl, rfl, ⟨xText, rfl, hx⟩, yText, rfl, hy⟩
  | other =>
      obtain rfl := pure_eq_ok.mp h
      exact ⟨hload, hkty, rfl, rfl, by simp, by simp [JWEKeyManagementAlgorithm.value],
        rfl, rfl, rfl, rfl, rfl⟩

variable {numbers : PublicNumbers} {kty : KeyType} {key : JWKKeyResponse}

theorem holdsShort_of_intToBase64url {number : Nat} {text : String}
    (h : intToBase64url number = .ok text) : HoldsShort (some (.str text)) number :=
  ⟨holds_of_numberToBase64url h, fun _ hraw hnumber => byteLength_le hraw hnumber⟩

theorem get_use (h : Converted load keyPair numbers kty key) :
    Dict.get key.modelDump "use" = if keyPair.use = .enc then none else some (.str "sig") := by
  have hget : Dict.get key.modelDump "use" = key.use.map .str := get_modelDump key "use"
  rw [hget, h.use]
  by_cases henc : keyPair.use = .enc
  · simp [henc]
  · simp [henc]

theorem get_alg (h : Converted load keyPair numbers kty key) :
    Dict.get key.modelDump "alg" = some (.str
      (if keyPair.use = .enc then "RSA-OAEP" else keyPair.algorithm.value)) := by
  have hget : Dict.get key.modelDump "alg" = key.alg.map .str := get_modelDump key "alg"
  rw [hget, h.alg]
  rfl

theorem get_kty (h : Converted load keyPair numbers kty key) :
    Dict.get key.modelDump "kty" = some (.str kty.value) := by
  have hget : Dict.get key.modelDump "kty" = some (.str key.kty) := get_modelDump key "kty"
  rw [hget, h.kty]

theorem carries_of_numbered (h : Numbered keyPair.algorithm key numbers) :
    Carries keyPair.algorithm key.modelDump numbers := by
  have hcrv : Dict.get key.modelDump "crv" = key.crv.map .str := get_modelDump key "crv"
  have hn : Dict.get key.modelDump "n" = key.n.map .str := get_modelDump key "n"
  have he : Dict.get key.modelDump "e" = key.e.map .str := get_modelDump key "e"
  have hx : Dict.get key.modelDump "x" = key.x.map .str := get_modelDump key "x"
  have hy : Dict.get key.modelDump "y" = key.y.map .str := get_modelDump key "y"
  cases numbers with
  | rsa n e =>
      obtain ⟨-, -, -, ⟨nText, hnText, hnInt⟩, eText, heText, heInt⟩ := h
      rw [hnText] at hn
      rw [heText] at he
      constructor
      · rw [hn]
        exact holdsShort_of_intToBase64url hnInt
      · rw [he]
        exact holdsShort_of_intToBase64url heInt
  | ec keySize x y =>
      obtain ⟨-, -, hcurve, ⟨xText, hxText, hxCoord⟩, yText, hyText, hyCoord⟩ := h
      rw [hcurve] at hcrv
      rw [hxText] at hx
      rw [hyText] at hy
      refine ⟨hcrv, ?_, ?_⟩
      · rw [hx]
        exact holds_of_numberToBase64url hxCoord
      · rw [hy]
        exact holds_of_numberToBase64url hyCoord
  | other => trivial

theorem published_of_converted (h : Converted load keyPair numbers kty key) :
    Published load keyPair key.modelDump where
  names := names_modelDump key
  kid := by
    have hget : Dict.get key.modelDump "kid" = some (.str key.kid) := get_modelDump key "kid"
    rw [hget, h.kid]
  use := get_use h
  alg := get_alg h
  kty := ⟨kty, h.family, get_kty h⟩
  numbers := ⟨numbers, h.loaded, carries_of_numbered h.numbered⟩

/-! ### The checks of the keys of clients -/

variable {p : Platform}

/-- The names of the families are in capitals. -/
def CapitalFamilies (p : Platform) : Prop := ∀ kty : KeyType, p.upper kty.value = kty.value

theorem kty_converted (hupper : CapitalFamilies p) (h : Converted load keyPair numbers kty key) :
    KeyValidation.kty p key.modelDump = kty.value := by
  rw [KeyValidation.kty, get_kty h]
  exact hupper kty

theorem use_converted (h : Converted load keyPair numbers kty key) :
    KeyValidation.use key.modelDump = if keyPair.use = .enc then "" else "sig" := by
  rw [KeyValidation.use, get_use h]
  by_cases henc : keyPair.use = .enc
  · simp [henc]
  · simp [henc]

theorem absentOrOneOf_use (h : Converted load keyPair numbers kty key) :
    KeyValidation.absentOrOneOf KeyValidation.useValues (Dict.get key.modelDump "use") = true := by
  rw [get_use h]
  by_cases henc : keyPair.use = .enc
  · simp [henc, KeyValidation.absentOrOneOf]
  · simp [henc, KeyValidation.absentOrOneOf, KeyValidation.useValues]

/-- The algorithm is one of the family, but for the encryption of a curve. -/
theorem absentOrOneOf_alg (h : Converted load keyPair numbers kty key) (hoct : kty ≠ .oct) :
    KeyValidation.absentOrOneOf (KeyValidation.algorithmsByKty kty.value)
      (Dict.get key.modelDump "alg") = true ↔ (kty = .rsa ∨ keyPair.use ≠ .enc) := by
  have hfamily := h.family
  rw [get_alg h]
  by_cases henc : keyPair.use = .enc
  · cases kty with
    | rsa => simp [henc, KeyValidation.absentOrOneOf, KeyValidation.algorithmsByKty,
        KeyType.value, JWEKeyManagementAlgorithm.value]
    | ec => simp [henc, KeyValidation.absentOrOneOf, KeyValidation.algorithmsByKty,
        KeyType.value, JWTAlgorithm.value]
    | oct => exact absurd rfl hoct
  · rw [if_neg henc]
    have hmem : keyPair.algorithm.value ∈ KeyValidation.algorithmsByKty kty.value := by
      cases halgorithm : keyPair.algorithm <;> rw [halgorithm] at hfamily <;>
        cases hfamily <;> first | exact absurd rfl hoct | decide
    simp [henc, KeyValidation.absentOrOneOf, hmem]

theorem append_ne_empty {first rest : String} (h : first ≠ "") : first ++ rest ≠ "" := by
  intro hempty
  have hlist := congrArg String.toList hempty
  rw [String.toList_append] at hlist
  exact h (String.toList_inj.mp (List.append_eq_nil_iff.mp hlist).1)

theorem rsaProblem_eq_empty {members : Members} {n e : Nat}
    (hn : KeyValidation.positiveInt (Dict.get members "n") = if n = 0 then none else some n)
    (he : KeyValidation.positiveInt (Dict.get members "e") = if e = 0 then none else some e) :
    KeyValidation.rsaProblem members = "" ↔
      0 < e ∧ KeyValidation.minRsaModulusBits ≤ KeyValidation.bitLength n := by
  rw [KeyValidation.rsaProblem, hn, he]
  by_cases hzero : n = 0
  · subst hzero
    simp [KeyValidation.bitLength, KeyValidation.minRsaModulusBits]
  · by_cases hezero : e = 0
    · simp [hzero, hezero]
    · have he0 : 0 < e := by omega
      simp only [hzero, hezero, if_false, he0, true_and]
      by_cases hbits : KeyValidation.bitLength n < KeyValidation.minRsaModulusBits
      · rw [if_pos hbits]
        constructor
        · intro h
          exact absurd h (append_ne_empty (append_ne_empty (append_ne_empty
            (append_ne_empty (by decide)))))
        · intro h
          omega
      · rw [if_neg hbits]
        simp only [true_iff]
        omega

theorem ecProblem_eq_empty {members : Members} {algorithm : JWTAlgorithm} {x y : Nat}
    (hkty : algorithm.keyType = .ok .ec)
    (hcrv : Dict.get members "crv" = some (.str algorithm.curve))
    (hx : KeyValidation.positiveInt (Dict.get members "x") = if x = 0 then none else some x)
    (hy : KeyValidation.positiveInt (Dict.get members "y") = if y = 0 then none else some y) :
    KeyValidation.ecProblem p members = "" ↔ 0 < x ∧ 0 < y := by
  have hcurve : algorithm.curve ∈ KeyValidation.ecCurves := by
    cases algorithm <;> cases hkty <;> decide
  rw [KeyValidation.ecProblem, hcrv, hx, hy]
  by_cases hx0 : x = 0
  · simp [hcurve, hx0]
  · by_cases hy0 : y = 0
    · simp [hcurve, hx0, hy0]
    · have hxpos : 0 < x := by omega
      have hypos : 0 < y := by omega
      simp [hcurve, hx0, hy0, hxpos, hypos]

theorem rsaProblem_converted (h : Converted load keyPair numbers .rsa key) :
    KeyValidation.rsaProblem key.modelDump = "" ↔ Sound keyPair numbers := by
  have hcarries := carries_of_numbered h.numbered
  have hget : Dict.get key.modelDump "n" = key.n.map .str := get_modelDump key "n"
  have hnone : key.n = none → KeyValidation.rsaProblem key.modelDump ≠ "" := by
    intro hn
    rw [KeyValidation.rsaProblem, hget, hn]
    simp [KeyValidation.positiveInt]
  cases numbers with
  | rsa n e =>
      rw [rsaProblem_eq_empty hcarries.1.1.read hcarries.2.1.read]
      simp [Sound, h.family]
  | ec keySize x y =>
      have hsound : ¬ Sound keyPair (.ec keySize x y) := by
        intro hsound
        rw [Sound, h.family] at hsound
        cases hsound.1
      simp [hsound, hnone h.numbered.1]
  | other => simp [Sound, hnone h.numbered.2.1]

theorem ecProblem_converted (h : Converted load keyPair numbers .ec key)
    (huse : keyPair.use ≠ .enc) :
    KeyValidation.ecProblem p key.modelDump = "" ↔ Sound keyPair numbers := by
  have hcarries := carries_of_numbered h.numbered
  have hget : Dict.get key.modelDump "crv" = key.crv.map .str := get_modelDump key "crv"
  have hnone : key.crv = none → KeyValidation.ecProblem p key.modelDump ≠ "" := by
    intro hcrv
    have hmark : "crv '" ≠ "" := by decide
    rw [KeyValidation.ecProblem, hget, hcrv]
    exact append_ne_empty (append_ne_empty hmark)
  cases numbers with
  | rsa n e =>
      have hsound : ¬ Sound keyPair (.rsa n e) := by
        intro hsound
        rw [Sound, h.family] at hsound
        cases hsound.1
      simp [hsound, hnone h.numbered.1]
  | ec keySize x y =>
      rw [ecProblem_eq_empty h.family hcarries.1 hcarries.2.1.read hcarries.2.2.read]
      simp [Sound, h.family, huse]
  | other => simp [Sound, hnone h.numbered.1]

/-- The reader of the keys of clients has nothing against a sound key pair, and only
against the others. -/
theorem jwkProblem_converted (hupper : CapitalFamilies p)
    (h : Converted load keyPair numbers kty key) :
    KeyValidation.jwkProblem p key.modelDump = "" ↔ Sound keyPair numbers := by
  have hfamily := h.family
  have hsound : Sound keyPair numbers → kty ≠ .oct ∧ (kty = .rsa ∨ keyPair.use ≠ .enc) := by
    intro hsound
    cases numbers with
    | rsa n e =>
        obtain rfl := Except.ok.inj (hfamily.symm.trans hsound.1)
        simp
    | ec keySize x y =>
        obtain rfl := Except.ok.inj (hfamily.symm.trans hsound.1)
        simp [hsound.2.1]
    | other => exact hsound.elim
  rw [KeyValidation.jwkProblem]
  simp only [kty_converted hupper h, absentOrOneOf_use h]
  by_cases hoct : kty = .oct
  · subst hoct
    have hmark : "kty '" ≠ "" := by decide
    rw [if_pos (by decide)]
    constructor
    · intro hempty
      exact absurd hempty (append_ne_empty (append_ne_empty hmark))
    · intro hs
      exact absurd rfl (hsound hs).1
  · have hsupported : kty.value ∈ KeyValidation.supportedKtys := by
      cases kty with
      | rsa => decide
      | ec => decide
      | oct => exact absurd rfl hoct
    rw [if_neg (not_not.mpr hsupported), if_neg (by simp)]
    by_cases halg : kty = .rsa ∨ keyPair.use ≠ .enc
    · rw [(absentOrOneOf_alg h hoct).mpr halg, if_neg (by simp)]
      cases kty with
      | rsa =>
          rw [if_pos (by decide)]
          exact rsaProblem_converted h
      | ec =>
          rw [if_neg (by decide)]
          exact ecProblem_converted h (halg.resolve_left (by simp))
      | oct => exact absurd rfl hoct
    · have hrefused := mt (absentOrOneOf_alg h hoct).mp halg
      have hmark : "alg '" ≠ "" := by decide
      rw [if_pos (by simpa using hrefused)]
      constructor
      · intro hempty
        exact absurd hempty (append_ne_empty (append_ne_empty (append_ne_empty hmark)))
      · intro hs
        exact absurd (hsound hs).2 halg

/-- An encryption key has no `use`, so its modulus is what decides. -/
theorem usable_converted (hupper : CapitalFamilies p)
    (h : Converted load keyPair numbers kty key) :
    (KeyValidation.kty p key.modelDump = "RSA" ∧ KeyValidation.use key.modelDump ≠ "sig" ∧
      ((KeyValidation.positiveInt (Dict.get key.modelDump "n")).any fun modulus =>
        KeyValidation.minRsaModulusBits ≤ KeyValidation.bitLength modulus) = true) ↔
      keyPair.use = .enc ∧ kty = .rsa ∧ ∃ n e, numbers = .rsa n e ∧
        KeyValidation.minRsaModulusBits ≤ KeyValidation.bitLength n := by
  have hcarries := carries_of_numbered h.numbered
  have hget : Dict.get key.modelDump "n" = key.n.map .str := get_modelDump key "n"
  have hfamily : kty.value = "RSA" ↔ kty = .rsa := by cases kty <;> decide
  have hsig : (if keyPair.use = .enc then "" else "sig") ≠ "sig" ↔ keyPair.use = .enc := by
    by_cases henc : keyPair.use = .enc
    · simp [henc]
    · simp [henc]
  rw [kty_converted hupper h, use_converted h, hfamily, hsig, and_left_comm]
  apply and_congr_right'
  apply and_congr_right'
  cases numbers with
  | rsa n e =>
      rw [hcarries.1.1.read]
      by_cases hzero : n = 0
      · simp [hzero, KeyValidation.bitLength, KeyValidation.minRsaModulusBits]
      · simp [hzero]
  | ec keySize x y =>
      rw [hget, h.numbered.1]
      simp [KeyValidation.positiveInt]
  | other =>
      rw [hget, h.numbered.2.1]
      simp [KeyValidation.positiveInt]

end Reading

/-! ## The set of the route -/

section Published

variable {load : String → Except Raised PublicNumbers} {p : Platform}

/-- The keys of the set, each with the pair it comes from. -/
theorem converted_of_jwkSet {pairs : List KeyPair} {keys : List Members}
    (h : jwkSet load pairs = .ok keys) :
    List.Forall₂ (fun keyPair members => ∃ numbers kty key,
      Converted load keyPair numbers kty key ∧ members = key.modelDump) pairs keys := by
  refine (mapM_eq_ok.mp h).imp ?_
  intro keyPair members hmembers
  obtain ⟨key, hkey, hdump⟩ := bind_eq_ok.mp hmembers
  obtain ⟨numbers, kty, hconverted⟩ := converted_of_fromKeyPair hkey
  exact ⟨numbers, kty, key, hconverted, (pure_eq_ok.mp hdump).symm⟩

/-- A property of every key is one of every pair. -/
theorem forall_keys_iff {α β : Type} {r : α → β → Prop} {q : α → Prop} {s : β → Prop}
    {pairs : List α} {keys : List β} (h : List.Forall₂ r pairs keys)
    (hiff : ∀ pair key, r pair key → (s key ↔ q pair)) :
    (∀ key ∈ keys, s key) ↔ ∀ pair ∈ pairs, q pair := by
  induction h with
  | nil => simp
  | cons hr _ ih => simp [ih, hiff _ _ hr]

theorem exists_keys_iff {α β : Type} {r : α → β → Prop} {q : α → Prop} {s : β → Prop}
    {pairs : List α} {keys : List β} (h : List.Forall₂ r pairs keys)
    (hiff : ∀ pair key, r pair key → (s key ↔ q pair)) :
    (∃ key ∈ keys, s key) ↔ ∃ pair ∈ pairs, q pair := by
  induction h with
  | nil => simp
  | cons hr _ ih => simp [ih, hiff _ _ hr]

theorem refusal_eq_none {c : Prop} [Decidable c] {message : String} :
    (if c then none else some message) = none ↔ c := by
  by_cases h : c
  · simp [h]
  · simp [h]

theorem requireEncryptionRsaKey_eq_none (keys : List Members) :
    KeyValidation.requireEncryptionRsaKey p keys = none ↔
      ∃ key ∈ keys, KeyValidation.kty p key = "RSA" ∧ KeyValidation.use key ≠ "sig" ∧
        ((KeyValidation.positiveInt (Dict.get key "n")).any fun modulus =>
          KeyValidation.minRsaModulusBits ≤ KeyValidation.bitLength modulus) = true := by
  refine refusal_eq_none.trans ?_
  rw [List.any_eq_true]
  simp only [decide_eq_true_eq]

theorem requireSigningKey_eq_none (keys : List Members) :
    KeyValidation.requireSigningKey p keys = none ↔
      ∃ key ∈ keys, KeyValidation.use key ≠ "enc" ∧
        KeyValidation.kty p key ∈ KeyValidation.supportedKtys := by
  refine refusal_eq_none.trans ?_
  rw [List.any_eq_true]
  simp [KeyValidation.usableForSigning, and_assoc]

/-- Each key of the set carries the public numbers of its pair and nothing else; the
reader the server has for the keys of its clients accepts the set when every pair is
sound, finds a key to encrypt for when a large enough RSA pair is for encryption, and
takes any RSA or EC pair for one that signs. -/
theorem jwk_set_read_back (load : String → Except Raised PublicNumbers) (p : Platform)
    (hupper : CapitalFamilies p) (pairs : List KeyPair) (keys : List Members)
    (hkeys : jwkSet load pairs = .ok keys) :
    List.Forall₂ (Published load) pairs keys ∧
      (KeyValidation.validateClientJwks p keys = [] ↔
        ∀ keyPair ∈ pairs, ∃ numbers, load keyPair.publicKeyPem = .ok numbers ∧
          Sound keyPair numbers) ∧
      (KeyValidation.requireEncryptionRsaKey p keys = none ↔
        ∃ keyPair ∈ pairs, keyPair.use = .enc ∧ keyPair.algorithm.keyType = .ok .rsa ∧
          ∃ n e, load keyPair.publicKeyPem = .ok (.rsa n e) ∧
            KeyValidation.minRsaModulusBits ≤ KeyValidation.bitLength n) ∧
      (KeyValidation.requireSigningKey p keys = none ↔
        ∃ keyPair ∈ pairs, keyPair.algorithm.keyType = .ok .rsa ∨
          keyPair.algorithm.keyType = .ok .ec) := by
  have hconverted := converted_of_jwkSet hkeys
  refine ⟨?_, ?_, ?_, ?_⟩
  · refine hconverted.imp ?_
    rintro keyPair members ⟨numbers, kty, key, h, rfl⟩
    exact published_of_converted h
  · rw [KeyValidation.validateClientJwks_eq_nil]
    apply forall_keys_iff hconverted
    rintro keyPair members ⟨numbers, kty, key, h, rfl⟩
    rw [jwkProblem_converted hupper h]
    simp [h.loaded]
  · rw [requireEncryptionRsaKey_eq_none]
    apply exists_keys_iff hconverted
    rintro keyPair members ⟨numbers, kty, key, h, rfl⟩
    rw [usable_converted hupper h, h.family, h.loaded]
    simp
  · rw [requireSigningKey_eq_none]
    apply exists_keys_iff hconverted
    rintro keyPair members ⟨numbers, kty, key, h, rfl⟩
    have huse : KeyValidation.use key.modelDump ≠ "enc" := by
      rw [use_converted h]
      by_cases henc : keyPair.use = .enc
      · simp [henc]
      · simp [henc]
    have hkty : kty.value ∈ KeyValidation.supportedKtys ↔ kty = .rsa ∨ kty = .ec := by
      cases kty <;> decide
    rw [kty_converted hupper h, h.family, hkty]
    simp [huse]

end Published

/-! ### A set of two keys -/

section TwoKeys

/-- Capitals are told from their own letters. -/
def platform : Platform where
  sha256Hex := id
  sha256Base64Url := id
  sha256Der _ := ""
  hmacBase64Url _ message := message
  jsonLoads _ := none
  jsonDumps _ := ""
  pyStr _ := "None"
  upper := id
  urlsplit _ := .error (.other "ValueError")
  jwtDecode _ := none
  jwtPayload _ := none

/-- A number of 2048 bits. -/
def modulus : Nat := 2 ^ 2047 + 1

/-- An RSA key of 2048 bits, and a point of P-256 whose coordinates are small. -/
def loadTwo (pem : String) : Except Raised PublicNumbers :=
  if pem = "rsa" then .ok (.rsa modulus 65537) else .ok (.ec 256 1 2)

def twoPairs : List KeyPair :=
  [{ algorithm := .es256, kid := "s", publicKeyPem := "ec", createdAt := 0 },
    { algorithm := .rs256, use := .enc, kid := "e", publicKeyPem := "rsa", createdAt := 0 }]

theorem jwkSet_twoPairs : ∃ keys, jwkSet loadTwo twoPairs = .ok keys := by
  obtain ⟨n, hn⟩ := intToBase64url_ok modulus
  obtain ⟨e, he⟩ := intToBase64url_ok 65537
  simp [jwkSet, twoPairs, fromKeyPair, loadTwo, JWTAlgorithm.keyType, hn, he, ecCoordToBase64url,
    numberToBase64url, BigEndian.toBytes, bind, Except.bind, pure, Except.pure]

/-- Both are read back, and the RSA one is encrypted for. -/
theorem jwk_set_read_back_two : ∃ keys, jwkSet loadTwo twoPairs = .ok keys ∧
    KeyValidation.validateClientJwks platform keys = [] ∧
    KeyValidation.requireEncryptionRsaKey platform keys = none := by
  obtain ⟨keys, hkeys⟩ := jwkSet_twoPairs
  obtain ⟨-, hvalid, hencryption, -⟩ :=
    jwk_set_read_back loadTwo platform (fun _ => rfl) twoPairs keys hkeys
  have hbits : KeyValidation.minRsaModulusBits ≤ KeyValidation.bitLength modulus := by
    decide +kernel
  refine ⟨keys, hkeys, hvalid.mpr ?_, hencryption.mpr ?_⟩
  · intro keyPair hpair
    simp only [twoPairs, List.mem_cons, List.not_mem_nil, or_false] at hpair
    rcases hpair with rfl | rfl
    · exact ⟨.ec 256 1 2, rfl, rfl, by decide, by decide, by decide⟩
    · exact ⟨.rsa modulus 65537, rfl, rfl, by decide, hbits⟩
  · exact ⟨_, .tail _ (.head _), rfl, rfl, modulus, 65537, rfl, hbits⟩

end TwoKeys

end Jwks

end PurIdentityServer
