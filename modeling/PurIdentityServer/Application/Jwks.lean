import PurIdentityServer.Infrastructure.Keys

/-!
# Jwks — the life of the signing keys

`JWKSetUseCase` marks, purges and rotates the signing keys, lazily, when
the JWK Set is published; `PyJWTTokenManager` signs a token with the
first active key and never marks; `RotatingTokenSigner` marks the keys of
its own family before each signature. A key is purged once it is older
than rotation and grace together.

A run is any sequence of these calls at nondecreasing times. A signature
outlives its key exactly when it was made too late in the life of the
key: after the rotation was due and nobody published the JWK Set.
-/

namespace PurIdentityServer.Jwks

open Effects (Table forEach)

attribute [local instance] instantOrder

/-! ## The JWK Set -/

/-- `JWKSetConfig`; `rotationSeconds` is in microseconds here. -/
structure JWKSetConfig where
  keySize : Int := 4096
  algorithms : List JWTAlgorithm
  rotationDays : Int := 90
  gracePeriodDays : Int := 7
  rotationSeconds : Int := 0
  rotationAlgorithms : List JWTAlgorithm := []

/-- `_managed_algorithms`. -/
def managedAlgorithms (algorithms : List JWTAlgorithm) : List JWTAlgorithm :=
  algorithms.filter fun algorithm => !algorithm.isSymmetric

structure JWKSetUseCase where
  config : JWKSetConfig
  keyManager : DefaultKeyManager
  encryptionKeys : Option DefaultKeyManager := none

namespace JWKSetUseCase

variable (u : JWKSetUseCase)

def initialise : KeyM Unit := do
  forEach (managedAlgorithms u.config.algorithms) fun algorithm =>
    u.keyManager.ensureActiveKey u.config.keySize algorithm
  match u.encryptionKeys with
  | some manager => manager.ensureActiveKey u.config.keySize .rs256
  | none => pure ()

/-- `JWKSetUseCase._mark_expired_keys`. -/
def markExpiredKeys : KeyM Unit := do
  let removed ← u.keyManager.markExpiredKeys u.config.rotationDays u.config.gracePeriodDays
  if 0 < removed then
    forEach (managedAlgorithms u.config.algorithms) fun algorithm => do
      let active ← u.keyManager.activeKeysOf algorithm
      if active.isEmpty then u.keyManager.ensureActiveKey u.config.keySize algorithm
      else pure ()
  else pure ()

def getActiveKeys : KeyM (List KeyPair) := do
  u.markExpiredKeys
  u.keyManager.getActiveKeys

/-- `JWKSetUseCase._rotation_algorithms`. -/
def rotationAlgorithms : List JWTAlgorithm :=
  if u.config.rotationAlgorithms.isEmpty then managedAlgorithms u.config.algorithms
  else u.config.rotationAlgorithms

/-- The round of `_rotate_signing_keys` for one algorithm. -/
def rotateWhenDue (now : Instant) (algorithm : JWTAlgorithm) : KeyM Unit := do
  match (← u.keyManager.activeKeysOf algorithm).argmax KeyPair.createdAt with
  | none => u.keyManager.ensureActiveKey u.config.keySize algorithm
  | some current =>
      if now - current.createdAt < u.config.rotationSeconds then pure ()
      else do
        let _ ← u.keyManager.rotateKey u.config.keySize algorithm
        pure ()

/-- `JWKSetUseCase._rotate_signing_keys`, at a publication. -/
def rotateDueKeys : KeyM Unit := do
  if u.config.rotationSeconds ≤ 0 then pure ()
  else do
    let now := (← get).clock
    forEach u.rotationAlgorithms (u.rotateWhenDue now)

/-- `_encryption_keys_to_publish`. -/
def encryptionKeysToPublish : KeyM (List KeyPair) :=
  match u.encryptionKeys with
  | none => return []
  | some manager => do
      let active ← manager.getActiveKeys
      if active.isEmpty then do
        manager.ensureActiveKey u.config.keySize .rs256
        manager.getActiveKeys
      else return active

def getPublishedKeys : KeyM (List KeyPair) := do
  u.markExpiredKeys
  u.rotateDueKeys
  let active ← u.keyManager.getActiveKeys
  let retired ← u.keyManager.getRetiredKeys
  let encryption ← u.encryptionKeysToPublish
  return active ++ retired ++ encryption

/-- The rotation on demand of the administration endpoint. -/
def rotateSigningKeys : List JWTAlgorithm → KeyM (List KeyPair)
  | [] => return []
  | algorithm :: rest => do
      let key ← u.keyManager.rotateKey u.config.keySize algorithm
      let others ← rotateSigningKeys rest
      return key :: others

end JWKSetUseCase

/-! ## Signing and verifying -/

/-- `PyJWTTokenManager._key_for`. -/
def keyFor (m : DefaultKeyManager) (kid : Option String) (algorithm : JWTAlgorithm) :
    KeyM (Option KeyPair) := do
  match kid with
  | some kid =>
      if kid ≠ "" then
        return (← m.getKeyByKid kid).filter fun key => key.algorithm = algorithm
      else return (← m.activeKeysOf algorithm).head?
  | none => return (← m.activeKeysOf algorithm).head?

/-- The key of `PyJWTTokenManager._sign`: none for an unsigned token, none
either for one signed with the secret of the client. -/
def signingKey (m : DefaultKeyManager) (algorithm : JWTAlgorithm) (sharedSecret : String) :
    KeyM (Option KeyPair) := do
  if algorithm = .none then return none
  else if algorithm.isSymmetric then
    if sharedSecret = "" then
      throw (.valueError
        (algorithm.value ++ " signe l'id_token avec le secret partagé du client, absent"))
    else return none
  else
    let key ← m.firstActiveKey algorithm
    return some key

/-- `RotatingTokenSigner`, for one private family. -/
structure RotatingTokenSigner where
  keyManager : DefaultKeyManager
  keySize : Int := 2048
  rotationDays : Int := 90
  gracePeriodDays : Int := 7

/-- `RotatingTokenSigner._active_signing_key`. -/
def RotatingTokenSigner.activeSigningKey (s : RotatingTokenSigner) : KeyM KeyPair := do
  let _ ← s.keyManager.markExpiredKeys s.rotationDays s.gracePeriodDays
  let active ← s.keyManager.activeKeysOf .rs256
  (if active.isEmpty then s.keyManager.ensureActiveKey s.keySize .rs256 else pure () : KeyM Unit)
  match (← s.keyManager.activeKeysOf .rs256).argmax KeyPair.createdAt with
  | some key => return key
  | none => throw (.runtimeError "Aucune clé active disponible pour DefaultKeyManager")

/-! ## Runs -/

/-- A deployment: the JWK Set of the provider and of the administration
server, and the private signers, over one store and one policy. -/
structure KeyDeployment where
  ports : KeyPorts
  config : JWKSetConfig

namespace KeyDeployment

variable (d : KeyDeployment)

def manager (use : KeyUse) : DefaultKeyManager := { ports := d.ports, use := use }

def jwks (withEncryption : Bool) : JWKSetUseCase where
  config := d.config
  keyManager := d.manager .sig
  encryptionKeys := if withEncryption then some (d.manager .enc) else none

def signer (use : KeyUse) (keySize : Int) : RotatingTokenSigner where
  keyManager := d.manager use
  keySize := keySize
  rotationDays := d.config.rotationDays
  gracePeriodDays := d.config.gracePeriodDays

/-- The age at which a key is purged. -/
def purgeAge : Int := days (d.config.rotationDays + d.config.gracePeriodDays)

end KeyDeployment

/-- A signature made, with the key that made it. -/
structure Signature where
  key : KeyPair
  expiresAt : Instant
  deriving DecidableEq

structure Signed where
  world : KeyWorld
  tokens : List Signature := []
  cookies : List Signature := []

inductive KeyEvent where
  | wait (elapsed : Nat)
  | initialise (withEncryption : Bool)
  | activeKeys (withEncryption : Bool)
  | publish (withEncryption : Bool)
  | rotateSigningKeys (withEncryption : Bool)
  | ensureActive (use : KeyUse) (keySize : Int) (algorithm : JWTAlgorithm)
  | generate (use : KeyUse) (keySize : Int) (algorithm : JWTAlgorithm)
  | signToken (algorithm : JWTAlgorithm) (sharedSecret : String) (lifetimeSeconds : Int)
  | writeCookie (use : KeyUse) (keySize lifetimeSeconds : Int)

namespace KeyDeployment

/-- `exp` of a token signed now. -/
def expiry (v : Signed) (lifetimeSeconds : Int) : Instant :=
  seconds (v.world.clock.epoch + lifetimeSeconds)

variable (d : KeyDeployment)

/-- The state after a program of the key managers. -/
def after {α : Type} (v : Signed) (x : KeyM α) : Signed :=
  { v with world := (Effects.Raising.outcome x v.world).2 }

def exec (v : Signed) : KeyEvent → Signed
  | .wait elapsed => { v with world := { v.world with clock := v.world.clock + elapsed } }
  | .initialise withEncryption => after v (d.jwks withEncryption).initialise
  | .activeKeys withEncryption => after v (d.jwks withEncryption).getActiveKeys
  | .publish withEncryption => after v (d.jwks withEncryption).getPublishedKeys
  | .rotateSigningKeys withEncryption =>
      after v ((d.jwks withEncryption).rotateSigningKeys (managedAlgorithms d.config.algorithms))
  | .ensureActive use keySize algorithm =>
      after v ((d.manager use).ensureActiveKey keySize algorithm)
  | .generate use keySize algorithm =>
      after v ((d.manager use).generateKeyPair keySize algorithm)
  | .signToken algorithm sharedSecret lifetimeSeconds =>
      match Effects.Raising.outcome (signingKey (d.manager .sig) algorithm sharedSecret) v.world with
      | (.ok (some key), w) =>
          { v with world := w, tokens := ⟨key, expiry v lifetimeSeconds⟩ :: v.tokens }
      | (_, w) => { v with world := w }
  | .writeCookie use keySize lifetimeSeconds =>
      match Effects.Raising.outcome (d.signer use keySize).activeSigningKey v.world with
      | (.ok key, w) =>
          { v with world := w, cookies := ⟨key, expiry v lifetimeSeconds⟩ :: v.cookies }
      | (_, w) => { v with world := w }

/-- No lifetime is longer than the grace period. -/
def WithinGrace : KeyEvent → Prop
  | .signToken _ _ lifetimeSeconds | .writeCookie _ _ lifetimeSeconds =>
      seconds lifetimeSeconds ≤ days d.config.gracePeriodDays
  | _ => True

/-- When the key that is to sign was created: the first active one, or one
generated now. -/
def keyCreatedAt (v : Signed) (algorithm : JWTAlgorithm) : Instant :=
  match DefaultKeyManager.activeOf .sig algorithm v.world with
  | key :: _ => key.createdAt
  | [] => v.world.clock

/-- A token signed now expires before its key is purged. -/
def Lasts (v : Signed) : KeyEvent → Prop
  | .signToken algorithm _ lifetimeSeconds =>
      expiry v lifetimeSeconds < keyCreatedAt v algorithm + d.purgeAge
  | _ => True

/-- The states of the runs whose steps are all in `ok`. -/
inductive Run (ok : Signed → KeyEvent → Prop) : Signed → Prop where
  | start (w : KeyWorld) (hfresh : w.Fresh d.ports) (hclock : 0 ≤ w.clock) :
      Run ok { world := w }
  | step {v : Signed} (h : Run ok v) (event : KeyEvent) (hok : ok v event) :
      Run ok (d.exec v event)

/-- What may come after a state. -/
inductive Later (v : Signed) : Signed → Prop where
  | refl : Later v v
  | step {v' : Signed} (h : Later v v') (event : KeyEvent) : Later v (d.exec v' event)

/-- A token is verified: its `kid` finds its key, and the JWK Set, when it is
published, has it. -/
structure TokenVerifiable (w : KeyWorld) (key : KeyPair) : Prop where
  stored : ∃ found, (Effects.Raising.outcome
    (keyFor (d.manager .sig) (some key.kid) key.algorithm) w).1 = .ok (some found) ∧
      found.material = key.material
  published : ∀ withEncryption keys,
    (Effects.Raising.outcome (d.jwks withEncryption).getPublishedKeys w).1 = .ok keys →
      ∃ found ∈ keys, found.material = key.material

/-- A cookie is verified with the key its `kid` finds. -/
def CookieVerifiable (w : KeyWorld) (key : KeyPair) : Prop :=
  ∃ found, (Effects.Raising.outcome ((d.manager key.use).getKeyByKid key.kid) w).1 = .ok (some found) ∧
    found.material = key.material

end KeyDeployment

/-! ## Every operation moves the keys along -/

section Moves

open Effects.Raising

variable {ports : KeyPorts} {age : Int}

theorem moves_of_wp {α : Type} {x : KeyM α}
    (h : ∀ w, w.Fresh ports → wp x (fun _ w' => KeyWorld.Ages ports age w w')
      (fun _ w' => KeyWorld.Ages ports age w w') w) : Along (KeyWorld.Moves ports age) x := by
  intro w hfresh
  have hw := h w hfresh
  unfold wp at hw
  rcases hx : Effects.Raising.outcome x w with ⟨_ | _, w'⟩
  · rw [hx] at hw
    exact hw
  · rw [hx] at hw
    exact hw

theorem wp_of_moves {α : Type} {x : KeyM α} (h : Along (KeyWorld.Moves ports age) x)
    {w : KeyWorld} (hfresh : w.Fresh ports) :
    wp x (fun _ w' => KeyWorld.Ages ports age w w')
      (fun _ w' => KeyWorld.Ages ports age w w') w :=
  wp_mono (along_iff.mp h w) (fun _ _ h => h hfresh) fun _ _ h => h hfresh

theorem moves_pure {α : Type} (a : α) :
    Along (KeyWorld.Moves ports age) (pure a : KeyM α) :=
  along_pure KeyWorld.Moves.refl a

theorem moves_bind {α β : Type} {x : KeyM α} {f : α → KeyM β}
    (hx : Along (KeyWorld.Moves ports age) x)
    (hf : ∀ a, Along (KeyWorld.Moves ports age) (f a)) :
    Along (KeyWorld.Moves ports age) (x >>= f) :=
  along_bind KeyWorld.Moves.trans hx hf

theorem moves_forEach {α : Type} {f : α → KeyM Unit} {l : List α}
    (hf : ∀ a, Along (KeyWorld.Moves ports age) (f a)) :
    Along (KeyWorld.Moves ports age) (forEach l f) :=
  along_forEach KeyWorld.Moves.refl KeyWorld.Moves.trans fun a _ => hf a

/-- A program that only reads. -/
theorem moves_read {α : Type} {x : KeyM α} (h : ∀ w, (Effects.Raising.outcome x w).2 = w) :
    Along (KeyWorld.Moves ports age) x := by
  intro w
  rw [h w]
  exact KeyWorld.Moves.refl w

variable {m : DefaultKeyManager} (hdraws : m.ports.Draws)

theorem moves_getActiveKeys : Along (KeyWorld.Moves ports age) m.getActiveKeys :=
  moves_read fun _ => rfl

theorem moves_getRetiredKeys : Along (KeyWorld.Moves ports age) m.getRetiredKeys :=
  moves_read fun _ => rfl

theorem moves_activeKeysOf (algorithm : JWTAlgorithm) :
    Along (KeyWorld.Moves ports age) (m.activeKeysOf algorithm) :=
  moves_read fun _ => rfl

theorem moves_markExpiredKeys (rotationDays gracePeriodDays : Int) :
    Along (KeyWorld.Moves m.ports (days (rotationDays + gracePeriodDays)))
      (m.markExpiredKeys rotationDays gracePeriodDays) :=
  moves_of_wp fun _ hfresh =>
    wp_mono (DefaultKeyManager.wp_markExpiredKeys hfresh) (fun _ _ h => h.1) fun _ _ h => h.elim

include hdraws

theorem moves_generateKeyPair (keySize : Int) (algorithm : JWTAlgorithm) :
    Along (KeyWorld.Moves m.ports age) (m.generateKeyPair keySize algorithm) :=
  moves_of_wp fun _ hfresh =>
    wp_mono (DefaultKeyManager.wp_ages_generateKeyPair age hdraws keySize algorithm hfresh)
      (fun _ _ h => h.1) fun _ _ h => .of_eq hfresh h

theorem moves_rotateKey (keySize : Int) (algorithm : JWTAlgorithm) :
    Along (KeyWorld.Moves m.ports age) (m.rotateKey keySize algorithm) :=
  moves_of_wp fun _ hfresh =>
    wp_mono (DefaultKeyManager.wp_rotateKey age hdraws keySize algorithm hfresh)
      (fun _ _ h => h) fun _ _ h => .of_eq hfresh h

theorem moves_ensureActiveKey (keySize : Int) (algorithm : JWTAlgorithm) :
    Along (KeyWorld.Moves m.ports age) (m.ensureActiveKey keySize algorithm) :=
  moves_of_wp fun _ hfresh =>
    wp_mono (DefaultKeyManager.wp_ensureActiveKey age hdraws keySize algorithm hfresh)
      (fun _ _ h => h.1) fun _ _ h => .of_eq hfresh h

end Moves

/-! ### The JWK Set -/

namespace KeyDeployment

open Effects.Raising

variable {d : KeyDeployment} (hdraws : d.ports.Draws)

/-- The moves of the deployment: keys go at the purge age. -/
abbrev Moves (d : KeyDeployment) : KeyWorld → KeyWorld → Prop :=
  KeyWorld.Moves d.ports d.purgeAge

include hdraws

theorem moves_initialise (b : Bool) : Along d.Moves (d.jwks b).initialise := by
  refine moves_bind (moves_forEach fun algorithm =>
      moves_ensureActiveKey (m := d.manager .sig) hdraws _ algorithm)
    fun _ => ?_
  cases b with
  | true => exact moves_ensureActiveKey (m := d.manager .enc) hdraws _ _
  | false => exact moves_pure ()

theorem moves_jwks_markExpiredKeys (b : Bool) : Along d.Moves (d.jwks b).markExpiredKeys := by
  refine moves_bind (moves_markExpiredKeys (m := d.manager .sig) _ _) fun removed => ?_
  split
  · refine moves_forEach fun algorithm => ?_
    refine moves_bind (moves_activeKeysOf algorithm) fun active => ?_
    split
    · exact moves_ensureActiveKey (m := d.manager .sig) hdraws _ _
    · exact moves_pure ()
  · exact moves_pure ()

theorem moves_getActive (b : Bool) : Along d.Moves (d.jwks b).getActiveKeys :=
  moves_bind (moves_jwks_markExpiredKeys hdraws b) fun _ => moves_getActiveKeys

theorem moves_rotateWhenDue (b : Bool) (now : Instant) (algorithm : JWTAlgorithm) :
    Along d.Moves ((d.jwks b).rotateWhenDue now algorithm) := by
  refine moves_bind (moves_activeKeysOf algorithm) fun active => ?_
  split
  · exact moves_ensureActiveKey (m := d.manager .sig) hdraws _ _
  · split
    · exact moves_pure ()
    · exact moves_bind (moves_rotateKey (m := d.manager .sig) hdraws _ _) fun _ => moves_pure ()

theorem moves_rotateDueKeys (b : Bool) : Along d.Moves (d.jwks b).rotateDueKeys := by
  unfold JWKSetUseCase.rotateDueKeys
  split
  · exact moves_pure ()
  · exact moves_bind (moves_read fun _ => rfl) fun w =>
      moves_forEach fun algorithm => moves_rotateWhenDue hdraws b w.clock algorithm

theorem moves_encryptionKeysToPublish (b : Bool) :
    Along d.Moves (d.jwks b).encryptionKeysToPublish := by
  cases b with
  | false => exact moves_pure []
  | true =>
      refine moves_bind (x := (d.manager .enc).getActiveKeys) moves_getActiveKeys fun active => ?_
      split
      · exact moves_bind (moves_ensureActiveKey (m := d.manager .enc) hdraws _ _)
          fun _ => moves_getActiveKeys
      · exact moves_pure active

theorem moves_getPublishedKeys (b : Bool) : Along d.Moves (d.jwks b).getPublishedKeys :=
  moves_bind (moves_jwks_markExpiredKeys hdraws b) fun _ =>
    moves_bind (moves_rotateDueKeys hdraws b) fun _ =>
      moves_bind moves_getActiveKeys fun _ =>
        moves_bind moves_getRetiredKeys fun _ =>
          moves_bind (moves_encryptionKeysToPublish hdraws b) fun _ => moves_pure _

theorem moves_rotateSigningKeys (b : Bool) (algorithms : List JWTAlgorithm) :
    Along d.Moves ((d.jwks b).rotateSigningKeys algorithms) := by
  induction algorithms with
  | nil => exact moves_pure []
  | cons algorithm rest ih =>
      exact moves_bind (moves_rotateKey (m := d.manager .sig) hdraws _ _) fun _ =>
        moves_bind ih fun _ => moves_pure _

/-! ### The key that signs -/

/-- `first_active_key`: the first active key of the algorithm, or one
generated now. -/
theorem wp_firstActiveKey (algorithm : JWTAlgorithm) {w : KeyWorld}
    (hfresh : w.Fresh d.ports) :
    wp ((d.manager .sig).firstActiveKey algorithm)
      (fun key w' => KeyWorld.Ages d.ports d.purgeAge w w' ∧ KeyWorld.Stored key w' ∧
        key.use = .sig ∧ key.algorithm = algorithm ∧
        key.createdAt = keyCreatedAt { world := w } algorithm)
      (fun _ w' => KeyWorld.Ages d.ports d.purgeAge w w') w := by
  unfold DefaultKeyManager.firstActiveKey
  rw [wp_bind, wp_of_outcome (DefaultKeyManager.outcome_activeKeysOf algorithm)]
  show wp (match DefaultKeyManager.activeOf .sig algorithm w with
    | key :: _ => _
    | [] => _) _ _ w
  cases hactive : DefaultKeyManager.activeOf .sig algorithm w with
  | cons key rest =>
      have hmem : key ∈ DefaultKeyManager.activeOf .sig algorithm w := by simp [hactive]
      obtain ⟨hrow, huse, _, halg⟩ := DefaultKeyManager.mem_activeOf.mp hmem
      refine ⟨.refl hfresh, .of_mem hrow, huse, halg, ?_⟩
      rw [keyCreatedAt, hactive]
  | nil =>
      rw [wp_bind]
      refine wp_mono (DefaultKeyManager.wp_ensureActiveKey (m := d.manager .sig) d.purgeAge
        hdraws 4096 algorithm hfresh) ?_ fun _ _ h => .of_eq hfresh h
      intro _ w' ⟨hages, _, hone⟩
      obtain ⟨generated, hmem, hcreated, hall⟩ := hone hactive
      rw [wp_bind, wp_of_outcome (DefaultKeyManager.outcome_activeKeysOf algorithm)]
      show wp (match DefaultKeyManager.activeOf .sig algorithm w' with
        | key :: _ => _
        | [] => _) _ _ w'
      cases hactive' : DefaultKeyManager.activeOf .sig algorithm w' with
      | nil => exact hages
      | cons key rest =>
          have hkey : key ∈ DefaultKeyManager.activeOf .sig algorithm w' := by simp [hactive']
          obtain ⟨hrow, huse, _, halg⟩ := DefaultKeyManager.mem_activeOf.mp hkey
          refine ⟨hages, .of_mem hrow, huse, halg, ?_⟩
          rw [hall key hkey, hcreated, keyCreatedAt, hactive]

/-- The key of a token, when the server signs it. -/
theorem wp_signingKey (algorithm : JWTAlgorithm) (sharedSecret : String) {w : KeyWorld}
    (hfresh : w.Fresh d.ports) :
    wp (signingKey (d.manager .sig) algorithm sharedSecret)
      (fun signed w' => KeyWorld.Ages d.ports d.purgeAge w w' ∧ ∀ key, signed = some key →
        KeyWorld.Stored key w' ∧ key.use = .sig ∧
        key.createdAt = keyCreatedAt { world := w } algorithm)
      (fun _ w' => KeyWorld.Ages d.ports d.purgeAge w w') w := by
  unfold signingKey
  split
  · exact ⟨.refl hfresh, fun _ h => by cases h⟩
  · split
    · split
      · exact .refl hfresh
      · exact ⟨.refl hfresh, fun _ h => by cases h⟩
    · rw [wp_bind]
      refine wp_mono (wp_firstActiveKey hdraws algorithm hfresh) ?_ fun _ _ h => h
      intro key w' ⟨hages, hstored, huse, _, hcreated⟩
      refine ⟨hages, fun _ h => ?_⟩
      cases h
      exact ⟨hstored, huse, hcreated⟩

/-- The key of a cookie has not reached the rotation. -/
theorem wp_activeSigningKey (hrotation : 0 < d.config.rotationDays) (use : KeyUse)
    (keySize : Int) {w : KeyWorld} (hfresh : w.Fresh d.ports) :
    wp (d.signer use keySize).activeSigningKey
      (fun key w' => KeyWorld.Ages d.ports d.purgeAge w w' ∧ KeyWorld.Stored key w' ∧
        key.use = use ∧ w.clock - days d.config.rotationDays < key.createdAt)
      (fun _ w' => KeyWorld.Ages d.ports d.purgeAge w w') w := by
  unfold RotatingTokenSigner.activeSigningKey
  rw [wp_bind]
  refine wp_mono (DefaultKeyManager.wp_markExpiredKeys (m := d.manager use) hfresh) ?_
    fun _ _ h => h.elim
  intro _ w₁ ⟨hages₁, hyoung₁⟩
  rw [wp_bind, wp_of_outcome (DefaultKeyManager.outcome_activeKeysOf .rs256)]
  have hages : KeyWorld.Ages d.ports d.purgeAge w w₁ := hages₁
  -- whether a key was there or is generated, the active ones are young
  have hready : wp (if (DefaultKeyManager.activeOf use .rs256 w₁).isEmpty
      then (d.manager use).ensureActiveKey keySize .rs256 else pure ())
      (fun _ w₂ => KeyWorld.Ages d.ports d.purgeAge w w₂ ∧
        ∀ key ∈ DefaultKeyManager.activeOf use .rs256 w₂,
          w.clock - days d.config.rotationDays < key.createdAt)
      (fun _ w₂ => KeyWorld.Ages d.ports d.purgeAge w w₂) w₁ := by
    split
    · refine wp_mono (DefaultKeyManager.wp_ensureActiveKey (m := d.manager use) d.purgeAge hdraws
        keySize .rs256 hages.fresh) ?_ fun _ _ h => hages.trans (.of_eq hages.fresh h)
      intro _ w₂ ⟨hages₂, _, hone⟩
      have hempty : DefaultKeyManager.activeOf use .rs256 w₁ = [] := by
        simpa using ‹(DefaultKeyManager.activeOf use .rs256 w₁).isEmpty = true›
      obtain ⟨generated, _, hcreated, hall⟩ := hone hempty
      refine ⟨hages.trans hages₂, fun key hkey => ?_⟩
      rw [hall key hkey, hcreated, hages.clock]
      have hdays : 0 < days d.config.rotationDays := by
        unfold days
        omega
      exact Int.sub_lt_self w.clock hdays
    · refine ⟨hages, fun key hkey => ?_⟩
      obtain ⟨hrow, huse, hactive, _⟩ := DefaultKeyManager.mem_activeOf.mp hkey
      exact hyoung₁ key (DefaultKeyManager.mem_active.mpr ⟨hrow, huse, hactive⟩)
  rw [wp_bind]
  refine wp_mono hready ?_ fun _ _ h => h
  intro _ w₂ ⟨hages₂, hyoung₂⟩
  rw [wp_bind, wp_of_outcome (DefaultKeyManager.outcome_activeKeysOf .rs256)]
  show wp (match (DefaultKeyManager.activeOf use .rs256 w₂).argmax KeyPair.createdAt with
    | some key => _
    | none => _) _ _ w₂
  cases hmax : (DefaultKeyManager.activeOf use .rs256 w₂).argmax KeyPair.createdAt with
  | none => exact hages₂
  | some key =>
      have hmem := List.argmax_mem hmax
      obtain ⟨hrow, huse, _, _⟩ := DefaultKeyManager.mem_activeOf.mp hmem
      exact ⟨hages₂, .of_mem hrow, huse, hyoung₂ key hmem⟩

/-! ### Runs -/

/-- A signature that expires before its key is purged has its key in the
store until then. -/
structure Kept (d : KeyDeployment) (w : KeyWorld) (signature : Signature) : Prop where
  lasts : signature.expiresAt < signature.key.createdAt + d.purgeAge
  stored : w.clock ≤ signature.expiresAt → KeyWorld.Stored signature.key w

omit hdraws in
theorem Kept.ages {w w' : KeyWorld} {signature : Signature} (h : Kept d w signature)
    (hages : KeyWorld.Ages d.ports d.purgeAge w w') : Kept d w' signature where
  lasts := h.lasts
  stored := by
    intro hclock
    rw [hages.clock] at hclock
    rcases hages.survives _ (h.stored hclock) with hstored | hold
    · exact hstored
    · exact absurd h.lasts (not_lt.mpr (hold.trans hclock))

omit hdraws in
theorem Kept.wait {w : KeyWorld} {signature : Signature} (h : Kept d w signature)
    (elapsed : Nat) : Kept d { w with clock := w.clock + elapsed } signature where
  lasts := h.lasts
  stored := by
    intro hclock
    have hlater : w.clock ≤ w.clock + elapsed :=
      Int.le_add_of_nonneg_right (Int.natCast_nonneg elapsed)
    exact h.stored (hlater.trans hclock)

/-- The programs of an event, but for the clock: all move the keys along. -/
theorem exec_ages (v : Signed) (event : KeyEvent) (hfresh : v.world.Fresh d.ports) :
    KeyWorld.Ages d.ports d.purgeAge v.world (d.exec v event).world ∨
      ∃ elapsed : Nat, event = .wait elapsed := by
  cases event with
  | wait elapsed => exact .inr ⟨elapsed, rfl⟩
  | initialise b => exact .inl (moves_initialise hdraws b v.world hfresh)
  | activeKeys b => exact .inl (moves_getActive hdraws b v.world hfresh)
  | publish b => exact .inl (moves_getPublishedKeys hdraws b v.world hfresh)
  | rotateSigningKeys b => exact .inl (moves_rotateSigningKeys hdraws b _ v.world hfresh)
  | ensureActive use keySize algorithm =>
      exact .inl (moves_ensureActiveKey (m := d.manager use) hdraws _ _ v.world hfresh)
  | generate use keySize algorithm =>
      exact .inl (moves_generateKeyPair (m := d.manager use) hdraws _ _ v.world hfresh)
  | signToken algorithm sharedSecret lifetimeSeconds =>
      left
      have h := wp_signingKey hdraws algorithm sharedSecret hfresh
      unfold wp at h
      rw [exec]
      rcases hx : Effects.Raising.outcome (signingKey (d.manager .sig) algorithm sharedSecret) v.world with
        ⟨_ | _ | key, w'⟩
      · rw [hx] at h
        exact h
      · rw [hx] at h
        exact h.1
      · rw [hx] at h
        exact h.1
  | writeCookie use keySize lifetimeSeconds =>
      left
      have h : Along d.Moves (d.signer use keySize).activeSigningKey := by
        refine moves_bind (moves_markExpiredKeys (m := d.manager use) _ _) fun _ => ?_
        refine moves_bind (moves_activeKeysOf _) fun active => ?_
        refine moves_bind ?_ fun _ => moves_bind (moves_activeKeysOf _) fun active => ?_
        · split
          · exact moves_ensureActiveKey (m := d.manager use) hdraws _ _
          · exact moves_pure ()
        · split
          · exact moves_pure _
          · exact moves_read fun _ => rfl
      have hw := h v.world hfresh
      rw [exec]
      rcases hx : Effects.Raising.outcome (d.signer use keySize).activeSigningKey v.world with ⟨_ | key, w'⟩
      · rw [hx] at hw
        exact hw
      · rw [hx] at hw
        exact hw

/-- The clock and the draws of a run. -/
theorem run_fresh {ok : Signed → KeyEvent → Prop} {v : Signed} (h : d.Run ok v) :
    v.world.Fresh d.ports ∧ 0 ≤ v.world.clock := by
  induction h with
  | start w hfresh hclock => exact ⟨hfresh, hclock⟩
  | @step v _ event _ ih =>
      rcases exec_ages hdraws v event ih.1 with hages | ⟨elapsed, rfl⟩
      · refine ⟨hages.fresh, ?_⟩
        rw [hages.clock]
        exact ih.2
      · exact ⟨⟨ih.1.unused, ih.1.named⟩, Int.add_nonneg ih.2 (Int.natCast_nonneg elapsed)⟩

/-- What was kept before an event is kept after it. -/
theorem kept_exec {v : Signed} {event : KeyEvent} {signature : Signature}
    (hfresh : v.world.Fresh d.ports) (h : Kept d v.world signature) :
    Kept d (d.exec v event).world signature := by
  rcases exec_ages hdraws v event hfresh with hages | ⟨elapsed, rfl⟩
  · exact h.ages hages
  · exact h.wait elapsed

/-- A token of a step is an earlier one, or is signed in it. -/
theorem token_of_exec {v : Signed} {event : KeyEvent} {signature : Signature}
    (hfresh : v.world.Fresh d.ports) (hlasts : d.Lasts v event)
    (h : signature ∈ (d.exec v event).tokens) :
    signature ∈ v.tokens ∨
      signature.key.use = .sig ∧ Kept d (d.exec v event).world signature := by
  cases event with
  | signToken algorithm sharedSecret lifetimeSeconds =>
      have hkey := wp_signingKey hdraws algorithm sharedSecret hfresh
      unfold wp at hkey
      rw [exec] at h ⊢
      rcases hx : Effects.Raising.outcome (signingKey (d.manager .sig) algorithm sharedSecret) v.world with
        ⟨_ | _ | key, w'⟩
      · rw [hx] at h
        exact .inl h
      · rw [hx] at h
        exact .inl h
      · rw [hx] at h hkey
        rcases List.mem_cons.mp h with rfl | h
        · right
          obtain ⟨hstored, huse, hcreated⟩ := hkey.2 key rfl
          refine ⟨huse, ?_, fun _ => hstored⟩
          show expiry v lifetimeSeconds < key.createdAt + d.purgeAge
          rw [hcreated]
          exact hlasts
        · exact .inl h
  | writeCookie use keySize lifetimeSeconds =>
      left
      rw [exec] at h
      rcases hx : Effects.Raising.outcome (d.signer use keySize).activeSigningKey v.world with ⟨_ | key, w'⟩
      · rw [hx] at h
        exact h
      · rw [hx] at h
        exact h
  | wait => exact .inl h
  | initialise => exact .inl h
  | activeKeys => exact .inl h
  | publish => exact .inl h
  | rotateSigningKeys => exact .inl h
  | ensureActive => exact .inl h
  | generate => exact .inl h

omit hdraws in
/-- An instant is not before the second it falls in. -/
theorem epoch_le (clock : Int) (h : 0 ≤ clock) : clock.tdiv 1000000 * 1000000 ≤ clock := by
  have hdiv := Int.mul_tdiv_add_tmod clock 1000000
  have hmod := Int.tmod_nonneg 1000000 h
  omega

omit hdraws in
/-- What a key short of the rotation signs within the grace period lasts. -/
theorem expiry_lt {v : Signed} {lifetimeSeconds : Int} {createdAt : Instant}
    (hclock : 0 ≤ v.world.clock)
    (hgrace : seconds lifetimeSeconds ≤ days d.config.gracePeriodDays)
    (hyoung : v.world.clock - days d.config.rotationDays < createdAt) :
    expiry v lifetimeSeconds < createdAt + d.purgeAge := by
  have arithmetic : ∀ clock epoch created lifetime rotation grace : Int,
      epoch * 1000000 ≤ clock → lifetime * 1000000 ≤ grace * 86400000000 →
      clock - rotation * 86400000000 < created →
      (epoch + lifetime) * 1000000 < created + (rotation + grace) * 86400000000 := by
    intro clock epoch created lifetime rotation grace h₁ h₂ h₃
    omega
  exact arithmetic _ _ _ _ _ _ (epoch_le _ hclock) hgrace hyoung

omit hdraws in
/-- A token lasts when the key that signs it is short of the rotation. -/
theorem lasts_of_young {v : Signed} {algorithm : JWTAlgorithm} {sharedSecret : String}
    {lifetimeSeconds : Int} (hclock : 0 ≤ v.world.clock)
    (hgrace : d.WithinGrace (.signToken algorithm sharedSecret lifetimeSeconds))
    (hyoung : v.world.clock - days d.config.rotationDays < keyCreatedAt v algorithm) :
    d.Lasts v (.signToken algorithm sharedSecret lifetimeSeconds) :=
  expiry_lt hclock hgrace hyoung

/-- A cookie of a step is an earlier one, or is signed in it. -/
theorem cookie_of_exec {v : Signed} {event : KeyEvent} {signature : Signature}
    (hrotation : 0 < d.config.rotationDays) (hfresh : v.world.Fresh d.ports)
    (hclock : 0 ≤ v.world.clock) (hgrace : d.WithinGrace event)
    (h : signature ∈ (d.exec v event).cookies) :
    signature ∈ v.cookies ∨ Kept d (d.exec v event).world signature := by
  cases event with
  | writeCookie use keySize lifetimeSeconds =>
      have hkey := wp_activeSigningKey hdraws hrotation use keySize hfresh
      unfold wp at hkey
      rw [exec] at h ⊢
      rcases hx : Effects.Raising.outcome (d.signer use keySize).activeSigningKey v.world with ⟨_ | key, w'⟩
      · rw [hx] at h
        exact .inl h
      · rw [hx] at h hkey
        rcases List.mem_cons.mp h with rfl | h
        · right
          obtain ⟨_, hstored, _, hyoung⟩ := hkey
          exact ⟨expiry_lt hclock hgrace hyoung, fun _ => hstored⟩
        · exact .inl h
  | signToken algorithm sharedSecret lifetimeSeconds =>
      left
      rw [exec] at h
      rcases hx : Effects.Raising.outcome (signingKey (d.manager .sig) algorithm sharedSecret) v.world with
        ⟨_ | _ | key, w'⟩
      · rw [hx] at h
        exact h
      · rw [hx] at h
        exact h
      · rw [hx] at h
        exact h
  | wait => exact .inl h
  | initialise => exact .inl h
  | activeKeys => exact .inl h
  | publish => exact .inl h
  | rotateSigningKeys => exact .inl h
  | ensureActive => exact .inl h
  | generate => exact .inl h

theorem tokens_kept {v : Signed} (h : d.Run d.Lasts v) :
    ∀ signature ∈ v.tokens, signature.key.use = .sig ∧ Kept d v.world signature := by
  induction h with
  | start w hfresh hclock => exact fun _ h => (List.not_mem_nil h).elim
  | step hrun event hlasts ih =>
      intro signature hmem
      have hfresh := (run_fresh hdraws hrun).1
      rcases token_of_exec hdraws hfresh hlasts hmem with hold | hnew
      · exact ⟨(ih signature hold).1, kept_exec hdraws hfresh (ih signature hold).2⟩
      · exact hnew

theorem cookies_kept (hrotation : 0 < d.config.rotationDays) {v : Signed}
    (h : d.Run (fun _ => d.WithinGrace) v) : ∀ signature ∈ v.cookies, Kept d v.world signature := by
  induction h with
  | start w hfresh hclock => exact fun _ h => (List.not_mem_nil h).elim
  | step hrun event hgrace ih =>
      intro signature hmem
      obtain ⟨hfresh, hclock⟩ := run_fresh hdraws hrun
      rcases cookie_of_exec hdraws hrotation hfresh hclock hgrace hmem with hold | hnew
      · exact kept_exec hdraws hfresh (ih signature hold)
      · exact hnew

/-! ### Verification -/

omit hdraws in
/-- A stored key is found by its `kid` in its family. -/
theorem outcome_getKeyByKid {w : KeyWorld} {key : KeyPair} (h : KeyWorld.Stored key w) :
    ∃ found, Effects.Raising.outcome ((d.manager key.use).getKeyByKid key.kid) w = (.ok (some found), w) ∧
      found.material = key.material := by
  obtain ⟨row, hrow, hmat⟩ := h
  refine ⟨row, ?_, hmat⟩
  have hfind := DefaultKeyManager.find?_family hrow (KeyPair.use_of_material hmat)
  show (Except.ok ((DefaultKeyManager.family key.use w).find? fun k => k.kid = key.kid), w) = _
  rw [hfind]

omit hdraws in
/-- A stored signing key is the one its tokens are verified with. -/
theorem outcome_keyFor {w : KeyWorld} {key : KeyPair} (hfresh : w.Fresh d.ports)
    (h : KeyWorld.Stored key w) (huse : key.use = .sig) :
    ∃ found, (Effects.Raising.outcome (keyFor (d.manager .sig) (some key.kid) key.algorithm) w).1
      = .ok (some found) ∧ found.material = key.material := by
  obtain ⟨row, hout, hmat⟩ := outcome_getKeyByKid (d := d) h
  rw [huse] at hout
  refine ⟨row, ?_, hmat⟩
  have hkid : key.kid ≠ "" := hfresh.kid_nonempty h
  have halg : decide (row.algorithm = key.algorithm) = true := by
    rw [KeyPair.algorithm_of_material hmat]
    exact decide_eq_true rfl
  show (Effects.Raising.outcome (if key.kid ≠ "" then _ else _ : KeyM (Option KeyPair)) w).1 = _
  rw [if_pos hkid, outcome_bind_ok hout]
  show (Except.ok ((some row).filter _) : Except KeyError (Option KeyPair)) = _
  rw [Option.filter_some, if_pos halg]

omit hdraws in
/-- A stored key is among the active or the retired ones of its family. -/
theorem mem_active_or_retired {w : KeyWorld} {key : KeyPair} (h : KeyWorld.Stored key w)
    (huse : key.use = .sig) :
    ∃ found, found.material = key.material ∧
      (found ∈ DefaultKeyManager.active .sig w ∨ found ∈ DefaultKeyManager.retired .sig w) := by
  obtain ⟨row, hrow, hmat⟩ := h
  have hfamily : row ∈ DefaultKeyManager.family .sig w :=
    DefaultKeyManager.mem_family.mpr ⟨Table.find_mem hrow, (KeyPair.use_of_material hmat).trans huse⟩
  refine ⟨row, hmat, ?_⟩
  cases hactive : row.isActive with
  | true => exact .inl (List.mem_filter.mpr ⟨hfamily, hactive⟩)
  | false =>
      right
      rw [DefaultKeyManager.retired, List.mem_mergeSort, List.mem_filter]
      exact ⟨hfamily, by rw [hactive]; rfl⟩

/-- The publication has every stored signing key that it does not purge. -/
theorem wp_getPublishedKeys (b : Bool) {w : KeyWorld} (hfresh : w.Fresh d.ports) :
    wp (d.jwks b).getPublishedKeys
      (fun keys _ => ∀ key, key.use = .sig → KeyWorld.Stored key w →
        w.clock < key.createdAt + d.purgeAge → ∃ found ∈ keys, found.material = key.material)
      (fun _ _ => True) w := by
  unfold JWKSetUseCase.getPublishedKeys
  rw [wp_bind]
  refine wp_mono (wp_of_moves (moves_jwks_markExpiredKeys hdraws b) hfresh) ?_
    fun _ _ _ => trivial
  intro _ w₁ hages₁
  rw [wp_bind]
  refine wp_mono (wp_of_moves (moves_rotateDueKeys hdraws b) hages₁.fresh) ?_
    fun _ _ _ => trivial
  intro _ w₂ hages₂
  have hages := hages₁.trans hages₂
  rw [wp_bind, wp_of_outcome DefaultKeyManager.outcome_getActiveKeys, wp_bind,
    wp_of_outcome DefaultKeyManager.outcome_getRetiredKeys, wp_bind]
  refine wp_of_forall (fun encryption w₃ key huse hstored hyoung => ?_) fun _ _ => trivial
  rcases hages.survives key hstored with hstored | hold
  · obtain ⟨found, hmat, hfound⟩ := mem_active_or_retired hstored huse
    refine ⟨found, ?_, hmat⟩
    rw [List.mem_append, List.mem_append]
    exact .inl hfound
  · exact absurd hyoung (not_lt.mpr hold)

/-- Until it expires a kept token is verified, and its key is published. -/
theorem tokenVerifiable_of_kept {w : KeyWorld} {signature : Signature}
    (hfresh : w.Fresh d.ports) (huse : signature.key.use = .sig) (h : Kept d w signature)
    (hclock : w.clock ≤ signature.expiresAt) : d.TokenVerifiable w signature.key where
  stored := outcome_keyFor hfresh (h.stored hclock) huse
  published := by
    intro b keys hkeys
    have hpublished := wp_getPublishedKeys hdraws b hfresh
    have hout : Effects.Raising.outcome (d.jwks b).getPublishedKeys w = (.ok keys, _) := Prod.ext hkeys rfl
    exact of_wp_ok hpublished hout signature.key huse (h.stored hclock)
      (hclock.trans_lt h.lasts)

omit hdraws in
/-- Until it expires a kept cookie is verified. -/
theorem cookieVerifiable_of_kept {w : KeyWorld} {signature : Signature}
    (h : Kept d w signature) (hclock : w.clock ≤ signature.expiresAt) :
    d.CookieVerifiable w signature.key := by
  obtain ⟨found, hout, hmat⟩ := outcome_getKeyByKid (d := d) (h.stored hclock)
  exact ⟨found, congrArg Prod.fst hout, hmat⟩

/-- In every run whose tokens are signed by keys that outlast them, each token
is verifiable and its key published at every instant up to its expiry; and in
every run within the grace period so is each cookie verifiable. -/
theorem signatures_outlive (hrotation : 0 < d.config.rotationDays) :
    (∀ v, d.Run d.Lasts v → ∀ token ∈ v.tokens, v.world.clock ≤ token.expiresAt →
      d.TokenVerifiable v.world token.key) ∧
    (∀ v, d.Run (fun _ => d.WithinGrace) v → ∀ cookie ∈ v.cookies,
      v.world.clock ≤ cookie.expiresAt → d.CookieVerifiable v.world cookie.key) := by
  constructor
  · intro v hrun token htoken hclock
    obtain ⟨huse, hkept⟩ := tokens_kept hdraws hrun token htoken
    exact tokenVerifiable_of_kept hdraws (run_fresh hdraws hrun).1 huse hkept hclock
  · intro v hrun cookie hcookie hclock
    exact cookieVerifiable_of_kept (cookies_kept hdraws hrotation hrun cookie hcookie) hclock

end KeyDeployment

namespace Sample

/-- Ninety days of rotation, seven of grace, one algorithm. -/
def deployment : KeyDeployment where
  ports :=
    { kid := fun n => String.ofList (List.replicate (n + 1) 'k')
      pems := fun n _ _ => some (String.ofList (List.replicate (n + 1) 's'), "") }
  config := { algorithms := [.rs256] }

theorem draws : deployment.ports.Draws where
  injective := by
    intro m n h
    have hlen := congrArg String.length h
    simpa [deployment] using hlen
  nonempty := by
    intro n h
    have hlen := congrArg String.length h
    simp [deployment] at hlen

def started : Signed := { world := { clock := 0 } }

/-- A key of the first day signs a token of one hour on the ninety-seventh,
nobody having asked for the JWK Set; then somebody does. -/
def lateToken : List KeyEvent :=
  [.initialise false, .wait 8380800000000, .signToken .rs256 "" 3600, .publish false]

/-- The same run up to the first signature, made at once. -/
def earlyToken : List KeyEvent := [.initialise false, .signToken .rs256 "" 3600]

def run (events : List KeyEvent) : Signed := events.foldl deployment.exec started

/-- The key both tokens are signed with. -/
def key : KeyPair :=
  { algorithm := .rs256, kid := "k", privateKeyPem := "s", createdAt := 0 }

theorem start (ok : Signed → KeyEvent → Prop) : deployment.Run ok started :=
  .start _ ⟨fun _ _ => rfl, rfl⟩ le_rfl

theorem within (lifetime : Int) (h : lifetime * 1000000 ≤ 7 * 86400000000) :
    deployment.WithinGrace (.signToken .rs256 "" lifetime) := h

theorem lasts : deployment.Lasts (run [.initialise false]) (.signToken .rs256 "" 3600) := by
  show KeyDeployment.expiry (run [.initialise false]) 3600
    < KeyDeployment.keyCreatedAt (run [.initialise false]) .rs256 + deployment.purgeAge
  decide

theorem tokens_early : (run earlyToken).tokens = [⟨key, 3600000000⟩] := by decide

theorem tokens_late : (run lateToken).tokens = [⟨key, 8384400000000⟩] := by decide

end Sample

/-- A token signed on the first day is verified at once. -/
theorem KeyDeployment.signatures_outlive_early :
    Sample.deployment.TokenVerifiable (Sample.run Sample.earlyToken).world Sample.key := by
  have hrun : Sample.deployment.Run Sample.deployment.Lasts (Sample.run Sample.earlyToken) :=
    .step (.step (Sample.start _) (.initialise false) trivial) (.signToken .rs256 "" 3600)
      Sample.lasts
  exact (KeyDeployment.signatures_outlive Sample.draws (by decide)).1 _ hrun
    ⟨Sample.key, 3600000000⟩ (by rw [Sample.tokens_early]; exact List.mem_cons_self)
    (by decide +kernel)

/-- `_sign` takes the first active key whatever its age: a key past rotation
and grace signs a token, and the next publication purges it. -/
theorem KeyDeployment.stale_key_signs :
    ¬ ∀ v, Sample.deployment.Run (fun _ => Sample.deployment.WithinGrace) v →
      ∀ token ∈ v.tokens, v.world.clock ≤ token.expiresAt →
        Sample.deployment.TokenVerifiable v.world token.key := by
  intro h
  have hrun : Sample.deployment.Run (fun _ => Sample.deployment.WithinGrace)
      (Sample.run Sample.lateToken) :=
    .step (.step (.step (.step (Sample.start _) (.initialise false) trivial)
      (.wait 8380800000000) trivial) (.signToken .rs256 "" 3600)
      (Sample.within 3600 (by decide))) (.publish false) trivial
  obtain ⟨found, hfound, _⟩ := (h _ hrun ⟨Sample.key, 8384400000000⟩
    (by rw [Sample.tokens_late]; exact List.mem_cons_self) (by decide +kernel)).stored
  have hnone : (Effects.Raising.outcome (keyFor (Sample.deployment.manager .sig) (some "k") .rs256)
      (Sample.run Sample.lateToken).world).1 = .ok none := by rfl
  have hsame : (.ok (some found) : Except KeyError (Option KeyPair)) = .ok none :=
    hfound.symm.trans hnone
  cases Except.ok.inj hsame

end PurIdentityServer.Jwks
