import Mathlib.Data.List.MinMax
import PurIdentityServer.Lib.Table
import PurIdentityServer.Lib.Raising
import PurIdentityServer.Domain.Authorization

/-!
# Keys — the key pairs of the server and the manager of one family

Every family of keys (`KeyUse`) lives in one repository, indexed by
`kid`. `DefaultKeyManager` works on the rows of one family: it generates
pairs, marks and purges the old ones and rotates on demand.

An operation is a program over the world of the repository, the clock
and the random draws; an exception leaves what was written before it.
-/

namespace PurIdentityServer

/-- `algorithm in _RSA_ALGORITHMS`. -/
def JWTAlgorithm.isRsa : JWTAlgorithm → Bool
  | .rs256 | .rs384 | .rs512 | .ps256 | .ps384 | .ps512 => true
  | _ => false

/-- `algorithm in _EC_CURVES`. -/
def JWTAlgorithm.hasCurve : JWTAlgorithm → Bool
  | .es256 | .es384 | .es512 => true
  | _ => false

namespace Jwks

open Effects (Table forEach)

/-! ## Key pairs and their repository -/

inductive KeyUse where
  | sig | session | reset | verify | enc | secret | federation
  deriving DecidableEq, Repr

/-- Instants compare as the integers they are. -/
@[reducible] def instantOrder : Preorder Instant := Int.instLinearOrder.toPreorder

structure KeyPair where
  algorithm : JWTAlgorithm
  use : KeyUse := .sig
  kid : String
  privateKeyPem : String := ""
  publicKeyPem : String := ""
  createdAt : Instant
  isActive : Bool := true
  deriving DecidableEq

/-- The rows of `KeyPairRepository`, in the order of their insertion. -/
abbrev KeyTable := Table KeyPair.kid

/-- `timedelta(days=n)`. -/
def days (n : Int) : Int := n * 86400000000

inductive KeyError where
  | valueError (message : String)
  | keyError
  | runtimeError (message : String)
  deriving DecidableEq, Repr

/-- What the generation of a key pair draws or asks the library for. -/
structure KeyPorts where
  /-- the `n`-th `uuid4().hex[:12]` -/
  kid : Nat → String
  /-- the private and public PEM of the `n`-th pair, `none` when the library
  refuses the key size -/
  pems : Nat → Int → JWTAlgorithm → Option (String × String)

/-- Two draws differ, and none is empty. -/
structure KeyPorts.Draws (ports : KeyPorts) : Prop where
  injective : Function.Injective ports.kid
  nonempty : ∀ n, ports.kid n ≠ ""

structure KeyWorld where
  keys : KeyTable := Table.empty
  clock : Instant
  draws : Nat := 0

abbrev KeyM := Effects.Raising KeyWorld KeyError

namespace KeyRepository

def save (keyPair : KeyPair) : KeyM Unit :=
  modify fun w => { w with keys := w.keys.save keyPair }

def findAll : KeyM (List KeyPair) := return (← get).keys.rows

def update (keyPair : KeyPair) : KeyM Unit := save keyPair

def delete (kid : String) : KeyM Unit :=
  modify fun w => { w with keys := w.keys.delete kid }

end KeyRepository

/-! ## The manager of a family -/

/-- `_generate_key_pair`, which draws the pair and its `kid`. -/
def generateMaterial (ports : KeyPorts) (keySize : Int) (algorithm : JWTAlgorithm) :
    KeyM KeyPair :=
  if algorithm.isSymmetric then
    throw (.valueError
      (algorithm.value ++ " est un algorithme symétrique (HMAC) : aucune clé à générer"))
  -- `_EC_CURVES[algorithm]` has no entry for `none`
  else if !algorithm.isRsa && !algorithm.hasCurve then throw .keyError
  else do
    let w ← get
    match ports.pems w.draws keySize algorithm with
    | none => throw (.valueError "key_size")
    | some (privatePem, publicPem) =>
        set { w with draws := w.draws + 1 }
        return {
          algorithm := algorithm
          kid := ports.kid w.draws
          privateKeyPem := privatePem
          publicKeyPem := publicPem
          createdAt := w.clock }

/-- `DefaultKeyManager`: the keys of one use. -/
structure DefaultKeyManager where
  ports : KeyPorts
  use : KeyUse := .sig

namespace DefaultKeyManager

variable (m : DefaultKeyManager)

/-- `DefaultKeyManager._keys`. -/
def keys : KeyM (List KeyPair) :=
  return (← KeyRepository.findAll).filter fun key => key.use = m.use

def generateKeyPair (keySize : Int) (algorithm : JWTAlgorithm) : KeyM KeyPair := do
  let generated ← generateMaterial m.ports keySize algorithm
  let keyPair := { generated with use := m.use }
  KeyRepository.save keyPair
  return keyPair

def getActiveKeys : KeyM (List KeyPair) :=
  return (← m.keys).filter fun key => key.isActive

def getKeyByKid (kid : String) : KeyM (Option KeyPair) :=
  return (← m.keys).find? fun key => key.kid = kid

/-- What `mark_expired_keys` does with one key. -/
def markExpiredKey (rotationDeadline graceDeadline : Instant) (key : KeyPair) : KeyM Unit :=
  if key.createdAt ≤ graceDeadline then KeyRepository.delete key.kid
  else if key.createdAt ≤ rotationDeadline ∧ key.isActive = true then
    KeyRepository.update { key with isActive := false }
  else pure ()

def markExpiredKeys (rotationDays gracePeriodDays : Int) : KeyM Nat := do
  let now := (← get).clock
  let rotationDeadline := now - days rotationDays
  let graceDeadline := now - days (rotationDays + gracePeriodDays)
  let keys ← m.keys
  forEach keys (markExpiredKey rotationDeadline graceDeadline)
  return (keys.filter fun key => key.createdAt ≤ graceDeadline).length

/-- The active keys of one algorithm, as several callers select them. -/
def activeKeysOf (algorithm : JWTAlgorithm) : KeyM (List KeyPair) :=
  return (← m.getActiveKeys).filter fun key => key.algorithm = algorithm

def rotateKey (keySize : Int) (algorithm : JWTAlgorithm) : KeyM KeyPair := do
  let current ← m.activeKeysOf algorithm
  let generated ← m.generateKeyPair keySize algorithm
  forEach current fun key => KeyRepository.update { key with isActive := false }
  return generated

/-- The order of `sorted(…, key=lambda key: (key.created_at, key.kid))`. -/
def older (a b : KeyPair) : Bool :=
  decide (a.createdAt < b.createdAt) ||
    (decide (a.createdAt = b.createdAt) && decide (a.kid ≤ b.kid))

def getRetiredKeys : KeyM (List KeyPair) :=
  return ((← m.keys).filter fun key => !key.isActive).mergeSort fun a b => older b a

/-- `DefaultKeyManager.prune_inactive_keys`. -/
def pruneInactiveKeys (keep : Int) : KeyM Nat := do
  let retired ← m.getRetiredKeys
  let surplus := retired.drop keep.toNat
  forEach surplus fun key => KeyRepository.delete key.kid
  return surplus.length

def ensureActiveKey (keySize : Int) (algorithm : JWTAlgorithm) : KeyM Unit := do
  let active ← m.activeKeysOf algorithm
  if active.isEmpty then
    let _ ← m.generateKeyPair keySize algorithm
    pure ()
  else pure ()

/-- `first_active_key`. -/
def firstActiveKey (algorithm : JWTAlgorithm) : KeyM KeyPair := do
  match ← m.activeKeysOf algorithm with
  | key :: _ => return key
  | [] =>
      m.ensureActiveKey 4096 algorithm
      match ← m.activeKeysOf algorithm with
      | key :: _ => return key
      | [] =>
          throw (.runtimeError
            ("Aucune clé active disponible pour l'algorithme " ++ algorithm.value))

end DefaultKeyManager

/-! ## What an operation does to the keys

Only the activity of a stored key ever changes. A key leaves the store
through the purge of `mark_expired_keys`, which waits for its age, or
through `prune_inactive_keys`. -/

/-- A key pair without its activity. -/
def KeyPair.material (key : KeyPair) : KeyPair := { key with isActive := true }

@[simp] theorem KeyPair.material_setActive (key : KeyPair) (b : Bool) :
    ({ key with isActive := b } : KeyPair).material = key.material := rfl

theorem KeyPair.kid_of_material {a b : KeyPair} (h : a.material = b.material) :
    a.kid = b.kid := by
  have hkid := congrArg KeyPair.kid h
  exact hkid

theorem KeyPair.use_of_material {a b : KeyPair} (h : a.material = b.material) :
    a.use = b.use := by
  have huse := congrArg KeyPair.use h
  exact huse

theorem KeyPair.algorithm_of_material {a b : KeyPair} (h : a.material = b.material) :
    a.algorithm = b.algorithm := by
  have halg := congrArg KeyPair.algorithm h
  exact halg

theorem KeyPair.createdAt_of_material {a b : KeyPair} (h : a.material = b.material) :
    a.createdAt = b.createdAt := by
  have hcreated := congrArg KeyPair.createdAt h
  exact hcreated

namespace KeyWorld

/-- The key pair stored under a `kid`. -/
def find (w : KeyWorld) (kid : String) : Option KeyPair := w.keys.find kid

/-- Every stored key is in `P`. -/
def All (P : KeyPair → Prop) (w : KeyWorld) : Prop := ∀ kid key, w.find kid = some key → P key

/-- No draw to come gives a `kid` of the store, and no stored `kid` is empty. -/
structure Fresh (ports : KeyPorts) (w : KeyWorld) : Prop where
  unused : ∀ n, w.draws ≤ n → w.find (ports.kid n) = none
  named : w.find "" = none

/-- A key of `w` is still stored in `w'`, but for its activity. -/
def Stored (key : KeyPair) (w' : KeyWorld) : Prop :=
  ∃ key', w'.find key.kid = some key' ∧ key'.material = key.material

/-- Between two worlds, at one instant: the draws are still fresh and only
keys of the given age are gone. -/
structure Ages (ports : KeyPorts) (age : Int) (w w' : KeyWorld) : Prop where
  clock : w'.clock = w.clock
  fresh : w'.Fresh ports
  survives : ∀ key, Stored key w → Stored key w' ∨ key.createdAt + age ≤ w.clock

/-- The worlds an operation leads to from a world with fresh draws. -/
def Moves (ports : KeyPorts) (age : Int) (w w' : KeyWorld) : Prop :=
  w.Fresh ports → Ages ports age w w'

end KeyWorld

namespace KeyWorld

variable {ports : KeyPorts} {age : Int} {u v w : KeyWorld} {key : KeyPair}

theorem find_kid {kid : String} (h : w.find kid = some key) : key.kid = kid :=
  Table.find_key h

theorem Stored.of_find {kid : String} (h : w.find kid = some key) : Stored key w :=
  ⟨key, by rw [find_kid h]; exact h, rfl⟩

theorem Stored.of_mem (h : key ∈ w.keys.rows) : Stored key w :=
  ⟨key, Table.find_of_mem h, rfl⟩

theorem Stored.congr {a b : KeyPair} (hab : a.material = b.material) (h : Stored a w) :
    Stored b w := by
  obtain ⟨key', hfind, hmat⟩ := h
  exact ⟨key', by rw [← KeyPair.kid_of_material hab]; exact hfind, hmat.trans hab⟩

/-- Two stored keys of one `kid` are one key. -/
theorem Stored.material_eq {a b : KeyPair} (ha : Stored a w) (hb : Stored b w)
    (h : a.kid = b.kid) : a.material = b.material := by
  obtain ⟨row, hrow, hmat⟩ := ha
  obtain ⟨row', hrow', hmat'⟩ := hb
  rw [h, hrow'] at hrow
  rw [← hmat, ← hmat', Option.some.inj hrow]

theorem Stored.saved (w : KeyWorld) (key : KeyPair) :
    Stored key { w with keys := w.keys.save key } :=
  ⟨key, Table.find_save_self _ _, rfl⟩

/-- Writing under another `kid` leaves a stored key where it is. -/
theorem Stored.save_of_ne {a : KeyPair} (h : Stored a w) (hne : a.kid ≠ key.kid) :
    Stored a { w with keys := w.keys.save key } := by
  obtain ⟨row, hrow, hmat⟩ := h
  refine ⟨row, ?_, hmat⟩
  show Table.find _ _ = some row
  rw [Table.find_save_of_ne _ hne]
  exact hrow

theorem Stored.delete_of_ne {a : KeyPair} {kid : String} (h : Stored a w) (hne : a.kid ≠ kid) :
    Stored a { w with keys := w.keys.delete kid } := by
  obtain ⟨row, hrow, hmat⟩ := h
  refine ⟨row, ?_, hmat⟩
  show Table.find _ _ = some row
  rw [Table.find_delete_of_ne _ hne]
  exact hrow

/-- A `kid` still to be drawn is not stored. -/
theorem Fresh.kid_ne (hfresh : w.Fresh ports) {n : Nat} (hn : w.draws ≤ n)
    (h : Stored key w) : ports.kid n ≠ key.kid := by
  intro heq
  obtain ⟨row, hrow, _⟩ := h
  have hnone := hfresh.unused n hn
  rw [heq, hrow] at hnone
  cases hnone

/-- A stored key has a name. -/
theorem Fresh.kid_nonempty (hfresh : w.Fresh ports) (h : Stored key w) : key.kid ≠ "" := by
  intro heq
  obtain ⟨row, hrow, _⟩ := h
  have hnone := hfresh.named
  rw [← heq, hrow] at hnone
  cases hnone

/-- Writing a key under a stored or a drawn name. -/
theorem Fresh.save (hfresh : w.Fresh ports) {draws : Nat} (hle : w.draws ≤ draws)
    (hne : ∀ n, draws ≤ n → ports.kid n ≠ key.kid) (hname : key.kid ≠ "") :
    KeyWorld.Fresh ports { w with keys := w.keys.save key, draws := draws } where
  unused := by
    intro n hn
    show Table.find _ _ = none
    rw [Table.find_save_of_ne _ (hne n hn)]
    exact hfresh.unused n (hle.trans hn)
  named := by
    show Table.find _ _ = none
    rw [Table.find_save_of_ne _ hname.symm]
    exact hfresh.named

theorem Fresh.delete (hfresh : w.Fresh ports) (kid : String) :
    KeyWorld.Fresh ports { w with keys := w.keys.delete kid } where
  unused := by
    intro n hn
    show Table.find _ _ = none
    rw [Table.find_delete]
    split
    · rfl
    · exact hfresh.unused n hn
  named := by
    show Table.find _ _ = none
    rw [Table.find_delete]
    split
    · rfl
    · exact hfresh.named

namespace Ages

theorem refl (h : w.Fresh ports) : Ages ports age w w where
  clock := rfl
  fresh := h
  survives := fun _ h => .inl h

theorem of_eq (h : u.Fresh ports) (heq : w = u) : Ages ports age u w := by
  rw [heq]
  exact refl h

theorem trans (h₁ : Ages ports age u v) (h₂ : Ages ports age v w) : Ages ports age u w where
  clock := h₂.clock.trans h₁.clock
  fresh := h₂.fresh
  survives := by
    intro key hstored
    rcases h₁.survives key hstored with hstored | hold
    · rw [← h₁.clock]
      exact h₂.survives key hstored
    · exact .inr hold

/-- Writing back a stored key, its activity changed or not. -/
theorem save (hfresh : w.Fresh ports) (h : Stored key w) :
    Ages ports age w { w with keys := w.keys.save key } where
  clock := rfl
  fresh := hfresh.save le_rfl (fun _ hn => hfresh.kid_ne hn h) (hfresh.kid_nonempty h)
  survives := by
    intro stored hstored
    left
    by_cases hkid : stored.kid = key.kid
    · exact (Stored.saved w key).congr (h.material_eq hstored hkid.symm)
    · exact hstored.save_of_ne hkid

/-- Adding the pair of the next draw. -/
theorem add (hdraws : ports.Draws) (hfresh : w.Fresh ports)
    (hkid : key.kid = ports.kid w.draws) :
    Ages ports age w { w with keys := w.keys.save key, draws := w.draws + 1 } where
  clock := rfl
  fresh := by
    refine hfresh.save (Nat.le_succ _) (fun n hn => ?_) ?_
    · rw [hkid]
      intro heq
      have := hdraws.injective heq
      omega
    · rw [hkid]
      exact hdraws.nonempty _
  survives := by
    intro stored hstored
    left
    have hne : stored.kid ≠ key.kid := by
      rw [hkid]
      exact (hfresh.kid_ne le_rfl hstored).symm
    exact hstored.save_of_ne hne

/-- Deleting a key old enough. -/
theorem delete (hfresh : w.Fresh ports) (h : Stored key w)
    (hold : key.createdAt + age ≤ w.clock) :
    Ages ports age w { w with keys := w.keys.delete key.kid } where
  clock := rfl
  fresh := hfresh.delete key.kid
  survives := by
    intro stored hstored
    by_cases hkid : stored.kid = key.kid
    · right
      rw [KeyPair.createdAt_of_material (hstored.material_eq h hkid)]
      exact hold
    · exact .inl (hstored.delete_of_ne hkid)

end Ages

theorem Moves.refl (w : KeyWorld) : Moves ports age w w := fun h => .refl h

theorem Moves.trans (u v w : KeyWorld) (h₁ : Moves ports age u v) (h₂ : Moves ports age v w) :
    Moves ports age u w :=
  fun h => (h₁ h).trans (h₂ (h₁ h).fresh)

end KeyWorld

/-! ## The operations of the manager -/

namespace DefaultKeyManager

open Effects.Raising

variable {m : DefaultKeyManager} {w : KeyWorld}

/-- The stored keys of a family. -/
def family (use : KeyUse) (w : KeyWorld) : List KeyPair :=
  w.keys.rows.filter fun key => key.use = use

/-- The active keys of a family. -/
def active (use : KeyUse) (w : KeyWorld) : List KeyPair :=
  (family use w).filter fun key => key.isActive

/-- The active keys of a family for one algorithm. -/
def activeOf (use : KeyUse) (algorithm : JWTAlgorithm) (w : KeyWorld) : List KeyPair :=
  (active use w).filter fun key => key.algorithm = algorithm

theorem outcome_keys : Effects.Raising.outcome m.keys w = (.ok (family m.use w), w) := rfl

theorem outcome_getActiveKeys :
    Effects.Raising.outcome m.getActiveKeys w = (.ok (active m.use w), w) := rfl

theorem outcome_activeKeysOf (algorithm : JWTAlgorithm) :
    Effects.Raising.outcome (m.activeKeysOf algorithm) w = (.ok (activeOf m.use algorithm w), w) := rfl

/-- The retired keys of a family, the newest first. -/
def retired (use : KeyUse) (w : KeyWorld) : List KeyPair :=
  ((family use w).filter fun key => !key.isActive).mergeSort fun a b => older b a

theorem outcome_getRetiredKeys :
    Effects.Raising.outcome m.getRetiredKeys w = (.ok (retired m.use w), w) := rfl

theorem mem_family {use : KeyUse} {key : KeyPair} :
    key ∈ family use w ↔ key ∈ w.keys.rows ∧ key.use = use := by
  simp [family]

theorem mem_active {use : KeyUse} {key : KeyPair} :
    key ∈ active use w ↔ key ∈ w.keys.rows ∧ key.use = use ∧ key.isActive = true := by
  simp [active, mem_family, and_assoc]

theorem mem_activeOf {use : KeyUse} {algorithm : JWTAlgorithm} {key : KeyPair} :
    key ∈ activeOf use algorithm w ↔
      key ∈ w.keys.rows ∧ key.use = use ∧ key.isActive = true ∧ key.algorithm = algorithm := by
  simp [activeOf, mem_active, and_assoc]

theorem nodup_family (use : KeyUse) (w : KeyWorld) :
    ((family use w).map KeyPair.kid).Nodup :=
  (List.filter_sublist.map _).nodup w.keys.nodup

theorem nodup_activeOf (use : KeyUse) (algorithm : JWTAlgorithm) (w : KeyWorld) :
    ((activeOf use algorithm w).map KeyPair.kid).Nodup :=
  ((List.filter_sublist.trans List.filter_sublist).map _).nodup (nodup_family use w)

theorem find_of_mem_family {use : KeyUse} {key : KeyPair} (h : key ∈ family use w) :
    w.find key.kid = some key :=
  Table.find_of_mem (mem_family.mp h).1

/-- A stored key is the first of its family under its `kid`. -/
theorem find?_family {use : KeyUse} {kid : String} {row : KeyPair}
    (h : w.find kid = some row) (huse : row.use = use) :
    (family use w).find? (fun key => key.kid = kid) = some row := by
  have hrows : w.keys.rows.find? (fun key => decide (key.kid = kid)) = some row := h
  obtain ⟨hkid, before, after, hsplit, hbefore⟩ := List.find?_eq_some_iff_append.mp hrows
  rw [family, List.find?_filter, List.find?_eq_some_iff_append]
  refine ⟨by simp [huse, hkid], before, after, hsplit, fun a ha => ?_⟩
  have hne := hbefore a ha
  simp_all

/-- What a loop does with one stored key: the world moves, the other keys
stay, and what is left under the `kid` is in `P`. -/
structure OnKey (ports : KeyPorts) (age : Int) (P : KeyPair → Prop) (key : KeyPair)
    (w w' : KeyWorld) : Prop where
  ages : KeyWorld.Ages ports age w w'
  others : ∀ kid, kid ≠ key.kid → w'.find kid = w.find kid
  own : ∀ left, w'.find key.kid = some left → P left

/-- A loop over stored keys moves the world and never raises. -/
theorem wp_forEach_key {ports : KeyPorts} (age : Int) {P : KeyPair → Prop} {f : KeyPair → KeyM Unit}
    (hf : ∀ key v, v.clock = w.clock → v.Fresh ports → v.find key.kid = some key →
      wp (f key) (fun _ v' => OnKey ports age P key v v') (fun _ _ => False) v)
    {keys : List KeyPair} (hfresh : w.Fresh ports) (hnodup : (keys.map KeyPair.kid).Nodup)
    (hfind : ∀ key ∈ keys, w.find key.kid = some key) :
    wp (forEach keys f)
      (fun _ w' => KeyWorld.Ages ports age w w' ∧
        (∀ kid, kid ∉ keys.map KeyPair.kid → w'.find kid = w.find kid) ∧
        ∀ key ∈ keys, ∀ left, w'.find key.kid = some left → P left)
      (fun _ _ => False) w := by
  -- a key is either still to come, and untouched, or settled
  have hloop := wp_forEach (f := f) (E := fun _ _ => False)
    (I := fun rest w' => KeyWorld.Ages ports age w w' ∧ (rest.map KeyPair.kid).Nodup ∧
      rest ⊆ keys ∧ (∀ key ∈ rest, w'.find key.kid = some key) ∧
      (∀ kid, kid ∉ keys.map KeyPair.kid → w'.find kid = w.find kid) ∧
      ∀ key ∈ keys, key.kid ∈ rest.map KeyPair.kid ∨
        ∀ left, w'.find key.kid = some left → P left)
    (l := keys) (w := w) ?_
    ⟨.refl hfresh, hnodup, fun _ h => h, hfind, fun _ _ => rfl,
      fun key h => .inl (List.mem_map_of_mem h)⟩
  · refine wp_mono hloop (fun _ w' h => ⟨h.1, h.2.2.2.2.1, fun key hkey => ?_⟩) fun _ _ h => h
    rcases h.2.2.2.2.2 key hkey with hnil | hown
    · cases hnil
    · exact hown
  · intro key rest v ⟨hages, hnodup, hsub, hfind, hout, hown⟩
    rw [List.map_cons, List.nodup_cons] at hnodup
    refine wp_mono (hf key v hages.clock hages.fresh (hfind key (by simp))) ?_ fun _ _ h => h
    intro _ v' hkey
    have hmem : key ∈ keys := hsub (by simp)
    refine ⟨hages.trans hkey.ages, hnodup.2, fun a ha => hsub (by simp [ha]), ?_, ?_, ?_⟩
    · intro a ha
      rw [hkey.others a.kid fun heq => hnodup.1 (heq ▸ List.mem_map_of_mem ha)]
      exact hfind a (by simp [ha])
    · intro kid hkid
      rw [hkey.others kid fun heq => hkid (heq ▸ List.mem_map_of_mem hmem)]
      exact hout kid hkid
    · intro a ha
      by_cases heq : a.kid = key.kid
      · right
        rw [heq]
        exact hkey.own
      · rcases hown a ha with hin | hown
        · left
          rw [List.map_cons, List.mem_cons] at hin
          exact hin.resolve_left heq
        · right
          rw [hkey.others a.kid heq]
          exact hown

theorem onKey_deactivate (ports : KeyPorts) (age : Int) {key : KeyPair} {v : KeyWorld}
    (hfresh : v.Fresh ports) (hfind : v.find key.kid = some key) :
    OnKey ports age (fun left => left.isActive = false) key v
      { v with keys := v.keys.save { key with isActive := false } } where
  ages := .save hfresh ((KeyWorld.Stored.of_find hfind).congr rfl)
  others := fun _ hne => Table.find_save_of_ne _ hne
  own := by
    intro left hleft
    have hself : Table.find _ _ = some left := hleft
    rw [Table.find_save] at hself
    rw [if_pos rfl] at hself
    rw [← Option.some.inj hself]

/-- One round of `mark_expired_keys`: an active key that is left has not
reached the rotation. -/
theorem wp_markExpiredKey (ports : KeyPorts) {age : Int} {rotation grace : Instant} {key : KeyPair}
    {v : KeyWorld} (hage : grace + age = v.clock) (hfresh : v.Fresh ports)
    (hfind : v.find key.kid = some key) :
    wp (markExpiredKey rotation grace key)
      (fun _ v' => OnKey ports age (fun left => left.isActive = true → rotation < left.createdAt)
        key v v')
      (fun _ _ => False) v := by
  unfold markExpiredKey
  split
  case isTrue hold =>
      refine ⟨.delete hfresh (.of_find hfind) ?_, fun _ hne => Table.find_delete_of_ne _ hne, ?_⟩
      · rw [← hage]
        exact Int.add_le_add_right hold age
      · intro left hleft
        have hnone : Table.find _ _ = some left := hleft
        rw [Table.find_delete_self] at hnone
        cases hnone
  case isFalse =>
      split
      case isTrue =>
          have hkey := onKey_deactivate ports age hfresh hfind
          refine ⟨hkey.ages, hkey.others, fun left hleft hactive => ?_⟩
          rw [hkey.own left hleft] at hactive
          cases hactive
      case isFalse hyoung =>
          refine ⟨.refl hfresh, fun _ _ => rfl, fun left hleft hactive => ?_⟩
          rw [hfind] at hleft
          cases hleft
          exact not_le.mp fun hle => hyoung ⟨hle, hactive⟩

/-- `mark_expired_keys`: only keys past rotation and grace are gone, and the
active ones have not reached the rotation. -/
theorem wp_markExpiredKeys {rotationDays gracePeriodDays : Int} (hfresh : w.Fresh m.ports) :
    wp (m.markExpiredKeys rotationDays gracePeriodDays)
      (fun _ w' => KeyWorld.Ages m.ports (days (rotationDays + gracePeriodDays)) w w' ∧
        ∀ key ∈ active m.use w', w.clock - days rotationDays < key.createdAt)
      (fun _ _ => False) w := by
  unfold markExpiredKeys
  rw [wp_bind, wp_get, wp_bind, wp_of_outcome outcome_keys, wp_bind]
  refine wp_mono (wp_forEach_key (days (rotationDays + gracePeriodDays))
    (fun key v hclock hfresh hfind => wp_markExpiredKey m.ports ?_ hfresh hfind) hfresh
    (nodup_family m.use w) fun key h => find_of_mem_family h) ?_ fun _ _ h => h
  · rw [hclock]
    exact Int.sub_add_cancel w.clock _
  · intro _ w' ⟨hages, hout, hown⟩
    refine ⟨hages, fun key hkey => ?_⟩
    obtain ⟨hrow, huse, hactive⟩ := mem_active.mp hkey
    have hfind : w'.find key.kid = some key := Table.find_of_mem hrow
    by_cases hin : key.kid ∈ (family m.use w).map KeyPair.kid
    · obtain ⟨old, hold, hkid⟩ := List.mem_map.mp hin
      rw [← hkid] at hfind
      exact hown old hold key hfind hactive
    · -- a key the loop did not see was of another family
      exfalso
      rw [hout key.kid hin] at hfind
      exact hin (List.mem_map_of_mem (mem_family.mpr ⟨Table.find_mem hfind, huse⟩))

/-- `generate_key_pair`: the pair of the next draw, stored and active; when it
raises nothing is written. -/
theorem wp_generateKeyPair (m : DefaultKeyManager) (keySize : Int) (algorithm : JWTAlgorithm)
    (w : KeyWorld) :
    wp (m.generateKeyPair keySize algorithm)
      (fun key w' => w' = { w with keys := w.keys.save key, draws := w.draws + 1 } ∧
        key.kid = m.ports.kid w.draws ∧ key.algorithm = algorithm ∧ key.use = m.use ∧
        key.createdAt = w.clock ∧ key.isActive = true)
      (fun _ w' => w' = w) w := by
  unfold generateKeyPair
  rw [wp_bind]
  unfold generateMaterial
  split
  · exact rfl
  · split
    · exact rfl
    · rw [wp_bind, wp_get]
      cases m.ports.pems w.draws keySize algorithm with
      | none => exact rfl
      | some pems => exact ⟨rfl, rfl, rfl, rfl, rfl, rfl⟩

theorem wp_ages_generateKeyPair (age : Int) (hdraws : m.ports.Draws) (keySize : Int)
    (algorithm : JWTAlgorithm) (hfresh : w.Fresh m.ports) :
    wp (m.generateKeyPair keySize algorithm)
      (fun key w' => KeyWorld.Ages m.ports age w w' ∧ key ∈ activeOf m.use algorithm w' ∧
        key.createdAt = w.clock ∧ ∀ old ∈ w.keys.rows, w'.find old.kid = some old)
      (fun _ w' => w' = w) w := by
  refine wp_mono (wp_generateKeyPair m keySize algorithm w) ?_ fun _ _ h => h
  rintro key _ ⟨rfl, hkid, halg, huse, hcreated, hactive⟩
  have hself : Table.find (w.keys.save key) key.kid = some key := Table.find_save_self _ _
  refine ⟨.add hdraws hfresh hkid, ?_, hcreated, fun old hold => ?_⟩
  · exact mem_activeOf.mpr ⟨Table.find_mem hself, huse, hactive, halg⟩
  · have hne : old.kid ≠ key.kid := by
      rw [hkid]
      exact (hfresh.kid_ne le_rfl (.of_mem hold)).symm
    show Table.find _ _ = some old
    rw [Table.find_save_of_ne _ hne]
    exact Table.find_of_mem hold

/-- `rotate_key`: the current keys are set aside, none leaves the store. -/
theorem wp_rotateKey (age : Int) (hdraws : m.ports.Draws) (keySize : Int)
    (algorithm : JWTAlgorithm) (hfresh : w.Fresh m.ports) :
    wp (m.rotateKey keySize algorithm) (fun _ w' => KeyWorld.Ages m.ports age w w')
      (fun _ w' => w' = w) w := by
  unfold rotateKey
  rw [wp_bind, wp_of_outcome (outcome_activeKeysOf algorithm), wp_bind]
  refine wp_mono (wp_ages_generateKeyPair age hdraws keySize algorithm hfresh) ?_ fun _ _ h => h
  intro generated w' ⟨hages, _, _, hkept⟩
  rw [wp_bind]
  refine wp_mono (wp_forEach_key age (P := fun left => left.isActive = false)
    (f := fun key => KeyRepository.update { key with isActive := false })
    (fun key v _ hfresh hfind => onKey_deactivate m.ports age hfresh hfind) hages.fresh
    (nodup_activeOf m.use algorithm w) ?_) ?_ fun _ _ h => h.elim
  · intro key hkey
    exact hkept key (mem_activeOf.mp hkey).1
  · intro _ w'' h
    exact hages.trans h.1

/-- `ensure_active_key`: without an active key one is generated now. -/
theorem wp_ensureActiveKey (age : Int) (hdraws : m.ports.Draws) (keySize : Int)
    (algorithm : JWTAlgorithm) (hfresh : w.Fresh m.ports) :
    wp (m.ensureActiveKey keySize algorithm)
      (fun _ w' => KeyWorld.Ages m.ports age w w' ∧
        (activeOf m.use algorithm w ≠ [] → w' = w) ∧
        (activeOf m.use algorithm w = [] →
          ∃ key ∈ activeOf m.use algorithm w', key.createdAt = w.clock ∧
            ∀ other ∈ activeOf m.use algorithm w', other = key))
      (fun _ w' => w' = w) w := by
  unfold ensureActiveKey
  rw [wp_bind, wp_of_outcome (outcome_activeKeysOf algorithm)]
  cases hactive : activeOf m.use algorithm w with
  | cons key rest => exact ⟨.refl hfresh, fun _ => rfl, fun h => by cases h⟩
  | nil =>
      rw [if_pos List.isEmpty_nil, wp_bind]
      refine wp_mono (wp_and (wp_generateKeyPair m keySize algorithm w)
        (wp_ages_generateKeyPair age hdraws keySize algorithm hfresh)) ?_
        fun _ _ h => h.1
      intro key w' ⟨⟨heq, _⟩, hages, hmem, hcreated, _⟩
      refine ⟨hages, fun h => (h rfl).elim, fun _ => ⟨key, hmem, hcreated, ?_⟩⟩
      intro other hother
      obtain ⟨hrow, huse, hact, halg⟩ := mem_activeOf.mp hother
      have hfind : w'.find other.kid = some other := Table.find_of_mem hrow
      subst heq
      by_cases hkid : other.kid = key.kid
      · have hsave : Table.find (w.keys.save key) other.kid = some other := hfind
        rw [Table.find_save, if_pos hkid] at hsave
        exact (Option.some.inj hsave).symm
      · have hsave : Table.find (w.keys.save key) other.kid = some other := hfind
        rw [Table.find_save_of_ne _ hkid] at hsave
        have hold := mem_activeOf.mpr ⟨Table.find_mem hsave, huse, hact, halg⟩
        rw [hactive] at hold
        cases hold

/-! A property of key pairs that does not look at their activity stays with
the stored keys, when the generated ones have it. -/

section All

variable {P : KeyPair → Prop}

theorem all_save {key : KeyPair} (h : w.All P) (hkey : P key) :
    KeyWorld.All P { w with keys := w.keys.save key } := by
  intro kid stored hfind
  have hsave : Table.find (w.keys.save key) kid = some stored := hfind
  rw [Table.find_save] at hsave
  split at hsave
  · rw [← Option.some.inj hsave]
    exact hkey
  · exact h kid stored hsave

theorem all_delete (h : w.All P) (kid : String) :
    KeyWorld.All P { w with keys := w.keys.delete kid } := by
  intro kid' stored hfind
  have hdel : Table.find (w.keys.delete kid) kid' = some stored := hfind
  rw [Table.find_delete] at hdel
  split at hdel
  · cases hdel
  · exact h kid' stored hdel

theorem All.of_family {use : KeyUse} (h : w.All P) : ∀ key ∈ family use w, P key :=
  fun key hkey => h key.kid key (find_of_mem_family hkey)

/-- A loop over keys in `P` that only writes keys in `P`. -/
theorem wp_all_forEach {f : KeyPair → KeyM Unit}
    (hf : ∀ key v, P key → KeyWorld.All P v →
      wp (f key) (fun _ v' => KeyWorld.All P v') (fun _ v' => KeyWorld.All P v') v)
    {keys : List KeyPair} (hkeys : ∀ key ∈ keys, P key) (h : w.All P) :
    wp (forEach keys f) (fun _ w' => KeyWorld.All P w') (fun _ w' => KeyWorld.All P w') w := by
  have hloop := wp_forEach (f := f) (E := fun _ w' => KeyWorld.All P w')
    (I := fun rest w' => KeyWorld.All P w' ∧ ∀ key ∈ rest, P key) (l := keys) (w := w) ?_
    ⟨h, hkeys⟩
  · exact wp_mono hloop (fun _ _ h => h.1) fun _ _ h => h
  · intro key rest v ⟨hv, hrest⟩
    refine wp_mono (hf key v (hrest key (by simp)) hv) (fun _ v' hv' => ⟨hv', ?_⟩) fun _ _ h => h
    exact fun a ha => hrest a (by simp [ha])

variable (hactivity : ∀ key b, P key → P { key with isActive := b })

theorem wp_all_generateKeyPair {keySize : Int} {algorithm : JWTAlgorithm}
    (hgenerated : ∀ n now privatePem publicPem,
      m.ports.pems n keySize algorithm = some (privatePem, publicPem) →
      P { algorithm := algorithm, use := m.use, kid := m.ports.kid n,
          privateKeyPem := privatePem, publicKeyPem := publicPem, createdAt := now })
    (h : w.All P) :
    wp (m.generateKeyPair keySize algorithm) (fun _ w' => KeyWorld.All P w')
      (fun _ w' => KeyWorld.All P w') w := by
  unfold generateKeyPair
  rw [wp_bind]
  unfold generateMaterial
  split
  · exact h
  · split
    · exact h
    · rw [wp_bind, wp_get]
      cases hpems : m.ports.pems w.draws keySize algorithm with
      | none => exact h
      | some pems => exact all_save h (hgenerated w.draws w.clock pems.1 pems.2 hpems)

theorem wp_all_ensureActiveKey {keySize : Int} {algorithm : JWTAlgorithm}
    (hgenerated : ∀ n now privatePem publicPem,
      m.ports.pems n keySize algorithm = some (privatePem, publicPem) →
      P { algorithm := algorithm, use := m.use, kid := m.ports.kid n,
          privateKeyPem := privatePem, publicKeyPem := publicPem, createdAt := now })
    (h : w.All P) :
    wp (m.ensureActiveKey keySize algorithm) (fun _ w' => KeyWorld.All P w')
      (fun _ w' => KeyWorld.All P w') w := by
  unfold ensureActiveKey
  rw [wp_bind, wp_of_outcome (outcome_activeKeysOf algorithm)]
  split
  · rw [wp_bind]
    exact wp_mono (wp_all_generateKeyPair hgenerated h) (fun _ _ h => h) fun _ _ h => h
  · exact h

include hactivity

theorem wp_all_rotateKey {keySize : Int} {algorithm : JWTAlgorithm}
    (hgenerated : ∀ n now privatePem publicPem,
      m.ports.pems n keySize algorithm = some (privatePem, publicPem) →
      P { algorithm := algorithm, use := m.use, kid := m.ports.kid n,
          privateKeyPem := privatePem, publicKeyPem := publicPem, createdAt := now })
    (h : w.All P) :
    wp (m.rotateKey keySize algorithm) (fun _ w' => KeyWorld.All P w')
      (fun _ w' => KeyWorld.All P w') w := by
  unfold rotateKey
  rw [wp_bind, wp_of_outcome (outcome_activeKeysOf algorithm), wp_bind]
  refine wp_mono (wp_all_generateKeyPair hgenerated h) ?_ fun _ _ h => h
  intro generated w' hw'
  rw [wp_bind]
  refine wp_all_forEach (f := fun key => KeyRepository.update { key with isActive := false })
    (fun key v hkey hv => all_save hv (hactivity key false hkey)) ?_ hw'
  intro key hkey
  exact h key.kid key (Table.find_of_mem (mem_activeOf.mp hkey).1)

theorem wp_all_markExpiredKeys {rotationDays gracePeriodDays : Int} (h : w.All P) :
    wp (m.markExpiredKeys rotationDays gracePeriodDays) (fun _ w' => KeyWorld.All P w')
      (fun _ w' => KeyWorld.All P w') w := by
  unfold markExpiredKeys
  rw [wp_bind, wp_get, wp_bind, wp_of_outcome outcome_keys, wp_bind]
  refine wp_all_forEach ?_ (All.of_family h) h
  intro key v hkey hv
  unfold markExpiredKey
  split
  · exact all_delete hv key.kid
  · split
    · exact all_save hv (hactivity key false hkey)
    · exact hv

omit hactivity in
theorem wp_all_pruneInactiveKeys {keep : Int} (h : w.All P) :
    wp (m.pruneInactiveKeys keep) (fun _ w' => KeyWorld.All P w')
      (fun _ w' => KeyWorld.All P w') w := by
  unfold pruneInactiveKeys
  rw [wp_bind]
  refine wp_mono (Q := fun _ w' => w' = w) (E := fun _ _ => False) rfl ?_ fun _ _ h => h.elim
  rintro retired _ rfl
  rw [wp_bind]
  refine wp_forEach (f := fun (key : KeyPair) => KeyRepository.delete key.kid)
    (I := fun _ v => KeyWorld.All P v) (fun key _ v hv => ?_) h
  exact all_delete hv key.kid

end All

end DefaultKeyManager

end Jwks

end PurIdentityServer
