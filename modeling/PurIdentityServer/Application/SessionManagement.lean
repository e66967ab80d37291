import PurIdentityServer.Domain.EventOrigins
import PurIdentityServer.Infrastructure.Secrets

/-!
# SessionManagement — the values of `session_state`

A `session_state` is the digest of the client, the origin of its page, the
session and a salt, joined by spaces, then a point and the salt. It is
verified by computing it again with the salt it carries.

A triple shares its hash input with no other exactly when none of its
three texts has a space in it (`alone_iff`). A value that is not in ASCII
goes through the checks of its form and makes the comparison raise
(`verify_answers_iff`).
-/

namespace PurIdentityServer

namespace SessionManagement

open FormUrl Urls

/-! ## Creating and verifying -/

/-- `_SALT_ALPHABET` -/
def saltAlphabet : List Char :=
  "ABCDEFGHIJKLMNOPQRSTUVWXYZabcdefghijklmnopqrstuvwxyz0123456789-_".toList

theorem saltAlphabet_eq : saltAlphabet = Base64.alphabet := rfl

/-- `hashlib.sha256`, whose digests are not empty. -/
structure Sha256 where
  digest : List UInt8 → List UInt8
  digest_ne_nil : ∀ bytes, digest bytes ≠ []

section Values

variable (sha256 : Sha256)

/-- The payload of `_encode`, before its encoding. -/
def hashInput (clientId origin sessionId salt : String) : String :=
  clientId ++ " " ++ origin ++ " " ++ sessionId ++ " " ++ salt

/-- `base64.urlsafe_b64encode(bytes).rstrip(b"=")` -/
def unpadded (bytes : List UInt8) : List Char :=
  Base64.rstripPad (Base64.urlsafeB64encode bytes)

/-- `_encode` -/
def encode (clientId origin sessionId salt : String) : String :=
  let payload := Jwks.utf8Encode (hashInput clientId origin sessionId salt)
  String.ofList (unpadded (sha256.digest payload) ++ '.' :: salt.toList)

/-- `secrets.token_urlsafe(32)`, from its random bytes. -/
def tokenUrlsafe (bytes : Vector UInt8 32) : String := String.ofList (unpadded bytes.toList)

/-- `create_session_state` -/
def createSessionState (bytes : Vector UInt8 32) (clientId origin sessionId : String) : String :=
  encode sha256 clientId origin sessionId (tokenUrlsafe bytes)

/-- `text.isascii()` -/
def isAscii (text : String) : Bool := text.toList.all fun c => c.toNat < 128

/-- `secrets.compare_digest` of two texts. -/
def compareDigest (expected found : String) : Except Raised Bool :=
  if isAscii expected && isAscii found then .ok (decide (expected = found))
  else .error (.other "TypeError")

/-- The form `verify_session_state` looks for: a value, a point and a salt of
its alphabet, without a space. -/
def wellFormed (sessionState : String) : Bool :=
  let text := sessionState.toList
  decide (text ≠ []) && decide (' ' ∉ text) && decide ('.' ∈ text) &&
    (decide (beforeLast '.' text ≠ []) && decide (afterLast '.' text ≠ []) &&
      (afterLast '.' text).all fun c => decide (c ∈ saltAlphabet))

/-- `verify_session_state` -/
def verifySessionState (clientId origin sessionId sessionState : String) : Except Raised Bool :=
  if wellFormed sessionState then
    let salt := String.ofList (afterLast '.' sessionState.toList)
    compareDigest (encode sha256 clientId origin sessionId salt) sessionState
  else .ok false

/-! ## What is accepted -/

section Accepted

variable {sha256}

theorem mem_unpadded {bytes : List UInt8} {c : Char} (h : c ∈ unpadded bytes) :
    c ∈ saltAlphabet := by
  rw [unpadded, Base64.rstripPad_encode] at h
  exact Base64.mem_encode h

theorem unpadded_ne_nil {bytes : List UInt8} (h : bytes ≠ []) : unpadded bytes ≠ [] := by
  intro hnil
  have hread := Base64.decode_encode bytes
  have hempty : Base64.urlsafeB64decode ['=', '=', '='] = some [] := by decide
  rw [unpadded] at hnil
  rw [hnil, List.nil_append, hempty] at hread
  exact h (Option.some.inj hread).symm

theorem unpadded_injective {a b : List UInt8} (h : unpadded a = unpadded b) : a = b := by
  have hread := Base64.decode_encode a
  rw [unpadded, unpadded] at h
  rw [h, Base64.decode_encode] at hread
  exact (Option.some.inj hread).symm

theorem ascii_of_mem {c : Char} (h : c ∈ saltAlphabet) : c.toNat < 128 := Base64.ascii_of_mem h

theorem ne_of_mem {c : Char} (h : c ∈ saltAlphabet) : c ≠ '.' ∧ c ≠ ' ' := by
  constructor
  · rintro rfl
    exact absurd h (by decide)
  · rintro rfl
    exact absurd h (by decide)

/-- A salt: not empty, over the alphabet. -/
structure Salt (salt : List Char) : Prop where
  ne_nil : salt ≠ []
  alphabet : ∀ c ∈ salt, c ∈ saltAlphabet

theorem Salt.no_point {salt : List Char} (h : Salt salt) : '.' ∉ salt :=
  fun hmem => (ne_of_mem (h.alphabet _ hmem)).1 rfl

theorem salt_tokenUrlsafe (bytes : Vector UInt8 32) : Salt (tokenUrlsafe bytes).toList := by
  rw [tokenUrlsafe, String.toList_ofList]
  refine ⟨unpadded_ne_nil ?_, fun c hc => mem_unpadded hc⟩
  intro hnil
  have hlength := congrArg List.length hnil
  simp at hlength

/-- The form of a value is a value, a point and a salt, without a space. -/
theorem wellFormed_iff {sessionState : String} :
    wellFormed sessionState = true ↔
      ' ' ∉ sessionState.toList ∧ ∃ value salt, sessionState.toList = value ++ '.' :: salt ∧
        value ≠ [] ∧ Salt salt := by
  unfold wellFormed
  simp only [Bool.and_eq_true, decide_eq_true_eq, List.all_eq_true]
  constructor
  · rintro ⟨⟨⟨_, hspace⟩, hpoint⟩, ⟨hvalue, hsalt⟩, halphabet⟩
    exact ⟨hspace, _, _, append_rsplit hpoint, hvalue, hsalt, halphabet⟩
  · rintro ⟨hspace, value, salt, htext, hvalue, hsalt⟩
    obtain ⟨hbefore, hafter⟩ := rsplit_append hsalt.no_point
    rw [htext] at hspace ⊢
    rw [hbefore, hafter]
    exact ⟨⟨⟨by simp, hspace⟩, by simp⟩, ⟨hvalue, hsalt.ne_nil⟩, hsalt.alphabet⟩

theorem salt_of_wellFormed {sessionState : String} (h : wellFormed sessionState = true) :
    Salt (afterLast '.' sessionState.toList) := by
  obtain ⟨_, value, salt, htext, _, hsalt⟩ := wellFormed_iff.mp h
  rw [htext, (rsplit_append hsalt.no_point).2]
  exact hsalt

variable (sha256) in
/-- What is computed is of the form, in ASCII, and ends with its salt. -/
theorem encode_form (clientId origin sessionId : String) {salt : String} (h : Salt salt.toList) :
    wellFormed (encode sha256 clientId origin sessionId salt) = true ∧
      isAscii (encode sha256 clientId origin sessionId salt) = true ∧
      String.ofList (afterLast '.' (encode sha256 clientId origin sessionId salt).toList) = salt := by
  have htext : (encode sha256 clientId origin sessionId salt).toList =
      unpadded (sha256.digest (Jwks.utf8Encode (hashInput clientId origin sessionId salt))) ++
        '.' :: salt.toList := by
    rw [encode, String.toList_ofList]
  have hmem : ∀ c ∈ (encode sha256 clientId origin sessionId salt).toList,
      c ∈ saltAlphabet ∨ c = '.' := by
    intro c hc
    rw [htext] at hc
    rcases List.mem_append.mp hc with hc | hc
    · exact .inl (mem_unpadded hc)
    · rcases List.mem_cons.mp hc with hc | hc
      · exact .inr hc
      · exact .inl (h.alphabet c hc)
  refine ⟨wellFormed_iff.mpr ⟨?_, _, _, htext, unpadded_ne_nil (sha256.digest_ne_nil _), h⟩, ?_, ?_⟩
  · intro hspace
    rcases hmem _ hspace with hspace | hspace
    · exact (ne_of_mem hspace).2 rfl
    · exact absurd hspace (by decide)
  · rw [isAscii, List.all_eq_true]
    intro c hc
    rcases hmem c hc with hc | rfl
    · exact decide_eq_true (ascii_of_mem hc)
    · decide
  · rw [htext, (rsplit_append h.no_point).2, String.ofList_toList]

/-- A value is verified when it has the form and is what its salt gives. -/
theorem verify_eq_true {clientId origin sessionId sessionState : String} :
    verifySessionState sha256 clientId origin sessionId sessionState = .ok true ↔
      ∃ salt, Salt salt.toList ∧ sessionState = encode sha256 clientId origin sessionId salt := by
  constructor
  · intro h
    rw [verifySessionState] at h
    split at h
    · rename_i hform
      have hsalt := salt_of_wellFormed hform
      refine ⟨String.ofList (afterLast '.' sessionState.toList), ?_, ?_⟩
      · rw [String.toList_ofList]
        exact hsalt
      · rw [compareDigest] at h
        split at h
        · exact (of_decide_eq_true (Except.ok.inj h)).symm
        · cases h
    · cases h
  · rintro ⟨salt, hsalt, rfl⟩
    obtain ⟨hform, hascii, hlast⟩ := encode_form sha256 clientId origin sessionId hsalt
    rw [verifySessionState, if_pos hform, hlast, compareDigest, hascii]
    simp

/-- The comparison raises on a value of the form that is not in ASCII, and
nothing else does. -/
theorem verify_answers_iff {clientId origin sessionId sessionState : String} :
    (∃ answer, verifySessionState sha256 clientId origin sessionId sessionState = .ok answer) ↔
      (wellFormed sessionState = true → isAscii sessionState = true) := by
  rw [verifySessionState]
  by_cases hform : wellFormed sessionState = true
  · have hsalt := salt_of_wellFormed hform
    rw [← String.toList_ofList (l := afterLast '.' sessionState.toList)] at hsalt
    obtain ⟨_, hascii, _⟩ := encode_form sha256 clientId origin sessionId hsalt
    rw [if_pos hform, compareDigest, hascii, Bool.true_and]
    by_cases hfound : isAscii sessionState = true
    · simp [hfound]
    · simp [hform, hfound]
  · simp [hform]

theorem verify_create (bytes : Vector UInt8 32) (clientId origin sessionId : String) :
    verifySessionState sha256 clientId origin sessionId
      (createSessionState sha256 bytes clientId origin sessionId) = .ok true :=
  verify_eq_true.mpr ⟨_, salt_tokenUrlsafe bytes, rfl⟩

/-! ## Triples that share a hash input -/

theorem hashInput_toList (clientId origin sessionId salt : String) :
    (hashInput clientId origin sessionId salt).toList =
      clientId.toList ++ ' ' :: (origin.toList ++ ' ' :: (sessionId.toList ++ ' ' :: salt.toList)) := by
  simp [hashInput]

/-- With an injective hash, equal values come from equal hash inputs. -/
theorem hashInput_of_encode (hinjective : Function.Injective sha256.digest)
    {clientId origin sessionId salt clientId' origin' sessionId' salt' : String}
    (hsalt : Salt salt.toList) (hsalt' : Salt salt'.toList)
    (h : encode sha256 clientId origin sessionId salt =
      encode sha256 clientId' origin' sessionId' salt') :
    hashInput clientId origin sessionId salt = hashInput clientId' origin' sessionId' salt' := by
  have htext := String.ofList_inj.mp h
  have hdigest := (rsplit_append hsalt.no_point).1.symm.trans
    ((congrArg (beforeLast '.') htext).trans (rsplit_append hsalt'.no_point).1)
  have hinput := congrArg Jwks.utf8Decode (hinjective (unpadded_injective hdigest))
  rw [Jwks.utf8Decode_encode, Jwks.utf8Decode_encode] at hinput
  exact Option.some.inj hinput

/-- Three texts without spaces are recovered from their hash input. -/
theorem triple_of_hashInput {clientId origin sessionId salt clientId' origin' sessionId' salt' : String}
    (hclient : ' ' ∉ clientId.toList) (horigin : ' ' ∉ origin.toList)
    (hsession : ' ' ∉ sessionId.toList) (hsalt : Salt salt.toList) (hsalt' : Salt salt'.toList)
    (h : hashInput clientId origin sessionId salt = hashInput clientId' origin' sessionId' salt') :
    clientId' = clientId ∧ origin' = origin ∧ sessionId' = sessionId := by
  have htext := congrArg String.toList h
  rw [hashInput_toList, hashInput_toList] at htext
  have hnone : ∀ text : List Char, ' ' ∉ text → text.count ' ' = 0 :=
    fun text hspace => List.count_eq_zero.mpr hspace
  have hspace : ∀ salt : List Char, Salt salt → ' ' ∉ salt :=
    fun salt hsalt hmem => (ne_of_mem (hsalt.alphabet _ hmem)).2 rfl
  -- the other triple has no more spaces than this one
  have hcount := congrArg (List.count ' ') htext
  simp only [List.count_append, List.count_cons_self, hnone _ hclient, hnone _ horigin,
    hnone _ hsession, hnone _ (hspace _ hsalt), hnone _ (hspace _ hsalt')] at hcount
  have hfree : ∀ text : List Char, text.count ' ' = 0 → ' ' ∉ text :=
    fun text => List.count_eq_zero.mp
  have hclient' := hfree clientId'.toList (by omega)
  have horigin' := hfree origin'.toList (by omega)
  have hsession' := hfree sessionId'.toList (by omega)
  obtain ⟨hc, hrest⟩ := cut_at_mark hclient hclient' htext
  obtain ⟨ho, hrest⟩ := cut_at_mark horigin horigin' hrest
  obtain ⟨hs, _⟩ := cut_at_mark hsession hsession' hrest
  exact ⟨String.toList_inj.mp hc.symm, String.toList_inj.mp ho.symm, String.toList_inj.mp hs.symm⟩

/-- A space in one of the texts moves to another place of the same hash input. -/
theorem exists_other {clientId origin sessionId : String}
    (h : ¬(' ' ∉ clientId.toList ∧ ' ' ∉ origin.toList ∧ ' ' ∉ sessionId.toList)) :
    ∃ clientId' origin' sessionId',
      ¬(clientId' = clientId ∧ origin' = origin ∧ sessionId' = sessionId) ∧
      ∀ salt, hashInput clientId' origin' sessionId' salt =
        hashInput clientId origin sessionId salt := by
  have hsplit : ∀ text : String, ' ' ∈ text.toList → ∃ a b : String, text = a ++ " " ++ b := by
    intro text hmem
    obtain ⟨a, b, hlist⟩ := List.append_of_mem hmem
    refine ⟨String.ofList a, String.ofList b, String.toList_inj.mp ?_⟩
    simp [hlist]
  have hlonger : ∀ a b : String, a ++ " " ++ b ≠ a := by
    intro a b heq
    have hlength := congrArg (fun text => text.toList.length) heq
    simp at hlength
  by_cases hclient : ' ' ∈ clientId.toList
  · obtain ⟨a, b, rfl⟩ := hsplit clientId hclient
    refine ⟨a, b ++ " " ++ origin, sessionId, fun heq => hlonger a b heq.1.symm, fun salt => ?_⟩
    apply String.toList_inj.mp
    simp [hashInput_toList]
  by_cases horigin : ' ' ∈ origin.toList
  · obtain ⟨a, b, rfl⟩ := hsplit origin horigin
    refine ⟨clientId ++ " " ++ a, b, sessionId, fun heq => hlonger clientId a heq.1, fun salt => ?_⟩
    apply String.toList_inj.mp
    simp [hashInput_toList]
  by_cases hsession : ' ' ∈ sessionId.toList
  · obtain ⟨a, b, rfl⟩ := hsplit sessionId hsession
    refine ⟨clientId, origin ++ " " ++ a, b, fun heq => hlonger origin a heq.2.1, fun salt => ?_⟩
    apply String.toList_inj.mp
    simp [hashInput_toList]
  exact absurd ⟨hclient, horigin, hsession⟩ h

/-- A triple is verified by its own values only when it has no space, for an
injective hash. -/
theorem alone_iff (hinjective : Function.Injective sha256.digest)
    {clientId origin sessionId : String} :
    (∀ bytes clientId' origin' sessionId',
      verifySessionState sha256 clientId origin sessionId
        (createSessionState sha256 bytes clientId' origin' sessionId') = .ok true →
      clientId' = clientId ∧ origin' = origin ∧ sessionId' = sessionId) ↔
    ' ' ∉ clientId.toList ∧ ' ' ∉ origin.toList ∧ ' ' ∉ sessionId.toList := by
  constructor
  · intro halone
    by_contra hspaces
    obtain ⟨clientId', origin', sessionId', hother, hinput⟩ := exists_other hspaces
    let bytes : Vector UInt8 32 := Vector.replicate 32 0
    refine hother (halone bytes clientId' origin' sessionId' (verify_eq_true.mpr ?_))
    refine ⟨tokenUrlsafe bytes, salt_tokenUrlsafe bytes, ?_⟩
    rw [createSessionState, encode, hinput]
    rfl
  · rintro ⟨hclient, horigin, hsession⟩ bytes clientId' origin' sessionId' hverified
    obtain ⟨salt, hsalt, heq⟩ := verify_eq_true.mp hverified
    have hsalt' := salt_tokenUrlsafe bytes
    have hinput := hashInput_of_encode hinjective hsalt' hsalt heq
    exact triple_of_hashInput hclient horigin hsession hsalt hsalt' hinput.symm

end Accepted

section Laws

variable {sha256}

/-- Verification never raises on values in ASCII, or not of the form; it accepts
what was created; with an injective hash a triple is verified by its own
values only when none of its texts has a space; and the origin of a page is
computed as the browser gives it, and accepted, when its authority is plain
and its host has neither a space nor a bracket. -/
theorem session_state_iff (hinjective : Function.Injective sha256.digest) (lib : UrlLibrary)
    (hlower : LowerKeepsMarks lib) (idna : Idna) :
    (∀ clientId origin sessionId sessionState,
      (∃ answer, verifySessionState sha256 clientId origin sessionId sessionState = .ok answer) ↔
        (wellFormed sessionState = true → isAscii sessionState = true)) ∧
    (∀ bytes clientId origin sessionId,
      verifySessionState sha256 clientId origin sessionId
        (createSessionState sha256 bytes clientId origin sessionId) = .ok true) ∧
    (∀ clientId origin sessionId,
      (∀ bytes clientId' origin' sessionId',
        verifySessionState sha256 clientId origin sessionId
          (createSessionState sha256 bytes clientId' origin' sessionId') = .ok true →
        clientId' = clientId ∧ origin' = origin ∧ sessionId' = sessionId) ↔
      ' ' ∉ clientId.toList ∧ ' ' ∉ origin.toList ∧ ' ' ∉ sessionId.toList) ∧
    (∀ uri parts origin, urlsplit lib uri = .ok parts →
      Origin.ofUri lib idna uri = some origin →
      ((originOfUrl lib uri = .ok origin ∧ isValidOrigin lib origin = .ok true) ↔
        parts.Plain lib ∧
          ∀ name, parts.hostname lib = some name → ' ' ∉ name ∧ ']' ∉ name)) :=
  ⟨fun _ _ _ _ => verify_answers_iff, verify_create, fun _ _ _ => alone_iff hinjective,
    fun _ _ _ h ho => Urls.agrees_iff lib hlower idna h ho⟩

end Laws

end Values

namespace Sample

/-- A hash that is injective. -/
def sha256 : Sha256 where
  digest bytes := 0 :: bytes
  digest_ne_nil := fun bytes h => by cases h

theorem sha256_injective : Function.Injective sha256.digest :=
  fun _ _ h => (List.cons.inj h).2

/-- Texts of ASCII characters, and one address. -/
def library : UrlLibrary where
  lower text := text.map Char.toLower
  nfkc text := text
  isIpv6 text := decide (text = "::1".toList)
  lower_ascii := UrlLibrary.ascii.lower_ascii
  lower_ne_nil := UrlLibrary.ascii.lower_ne_nil
  lower_head := UrlLibrary.ascii.lower_head
  isIpv6_head := by
    intro text h
    rw [of_decide_eq_true h]
    decide

theorem library_lower : LowerKeepsMarks library := lowerKeepsMarks_of_map fun _ => rfl

/-- No name beyond ASCII. -/
def idna : Idna where
  toAscii _ := none
  ascii := by
    intro name a h
    cases h

end Sample

/-- A client of one page, verified at once. -/
theorem session_state_iff_page :
    verifySessionState Sample.sha256 "rp" "https://rp.example" "sid"
        (createSessionState Sample.sha256 (Vector.replicate 32 7) "rp" "https://rp.example" "sid") =
      .ok true :=
  (session_state_iff Sample.sha256_injective Sample.library Sample.library_lower Sample.idna).2.1
    _ _ _ _

/-- A value that is not in ASCII raises, a space changes sides, and the brackets
of an address are lost. -/
theorem session_state_flaws :
    verifySessionState Sample.sha256 "rp" "https://rp.example" "sid" "é.salt" =
      .error (.other "TypeError") ∧
    verifySessionState Sample.sha256 "my" "app https://rp.example" "sid"
        (createSessionState Sample.sha256 (Vector.replicate 32 7) "my app" "https://rp.example"
          "sid") = .ok true ∧
    Origin.ofUri Sample.library Sample.idna "https://[::1]/cb" = some "https://[::1]" ∧
    originOfUrl Sample.library "https://[::1]/cb" = .ok "https://::1" := by
  refine ⟨by decide +kernel, ?_, by decide +kernel, by decide +kernel⟩
  refine verify_eq_true.mpr ⟨_, salt_tokenUrlsafe (Vector.replicate 32 7), ?_⟩
  rw [createSessionState, encode, encode]
  rfl

end SessionManagement

end PurIdentityServer
