import PurIdentityServer.Application.Jwks

/-!
# Active keys — which calls leave an algorithm without an active key

`get_active_keys` and `get_published_keys` first apply the daily policy:
`mark_expired_keys` retires a key at the rotation and purges it once the
grace period is over. The keys then missing are generated only when one
was purged, so an algorithm whose last active key has just been retired is
left without any, and so is one that never had a key; the publication
makes up for it when the proactive rotation covers the algorithm.

The calls come in any order, each with its own clock reading, over any
store whose names no later draw repeats.
-/

namespace PurIdentityServer.Jwks

open Effects (Table forEach)

namespace DefaultKeyManager

open Effects.Raising

variable {m : DefaultKeyManager} {w : KeyWorld}

/-! ## Loops that settle one key a round -/

/-- What a round leaves under the `kid` of its key, the others untouched. -/
structure Settles (settle : KeyPair → Option KeyPair) (key : KeyPair) (v v' : KeyWorld) : Prop where
  own : v'.find key.kid = settle key
  others : ∀ kid, kid ≠ key.kid → v'.find kid = v.find kid

theorem wp_forEach_settles {f : KeyPair → KeyM Unit} {s : KeyPair → Option KeyPair}
    (hf : ∀ key v, v.find key.kid = some key →
      wp (f key) (fun _ v' => Settles s key v v') (fun _ _ => False) v)
    {keys : List KeyPair} (hnodup : (keys.map KeyPair.kid).Nodup)
    (hfind : ∀ key ∈ keys, w.find key.kid = some key) :
    wp (forEach keys f)
      (fun _ w' => (∀ key ∈ keys, w'.find key.kid = s key) ∧
        ∀ kid, kid ∉ keys.map KeyPair.kid → w'.find kid = w.find kid)
      (fun _ _ => False) w := by
  induction keys generalizing w with
  | nil =>
      rw [forEach, wp_pure]
      simp
  | cons key rest ih =>
      rw [List.map_cons, List.nodup_cons] at hnodup
      rw [forEach, wp_bind]
      refine wp_mono (hf key w (hfind key (by simp))) ?_ fun _ _ h => h
      intro _ v hkey
      have hrest : ∀ a ∈ rest, v.find a.kid = some a := by
        intro a ha
        rw [hkey.others a.kid fun heq => hnodup.1 (heq ▸ List.mem_map_of_mem ha)]
        exact hfind a (by simp [ha])
      refine wp_mono (ih hnodup.2 hrest) ?_ fun _ _ h => h
      intro _ w' ⟨hown, hout⟩
      constructor
      · intro a ha
        rcases List.mem_cons.mp ha with rfl | ha
        · rw [hout a.kid hnodup.1]
          exact hkey.own
        · exact hown a ha
      · intro kid hkid
        rw [List.map_cons, List.mem_cons, not_or] at hkid
        rw [hout kid hkid.2, hkey.others kid hkid.1]

/-- What `mark_expired_keys` leaves of a key. -/
def settled (rotationDeadline graceDeadline : Instant) (key : KeyPair) : Option KeyPair :=
  if key.createdAt ≤ graceDeadline then none
  else if key.createdAt ≤ rotationDeadline ∧ key.isActive = true then
    some { key with isActive := false }
  else some key

theorem settles_save {s : KeyPair → Option KeyPair} {key left : KeyPair} {v : KeyWorld}
    (hkid : left.kid = key.kid) (h : s key = some left) :
    Settles s key v { v with keys := v.keys.save left } where
  own := by
    show Table.find _ _ = _
    rw [← hkid, Table.find_save_self, h]
  others := by
    intro kid hne
    exact Table.find_save_of_ne _ (hkid ▸ hne)

theorem wp_settles_markExpiredKey (rotation grace : Instant) (key : KeyPair) (v : KeyWorld)
    (hfind : v.find key.kid = some key) :
    wp (markExpiredKey rotation grace key) (fun _ v' => Settles (settled rotation grace) key v v')
      (fun _ _ => False) v := by
  unfold markExpiredKey
  split
  case isTrue hold =>
      refine ⟨?_, fun _ hne => Table.find_delete_of_ne _ hne⟩
      rw [settled, if_pos hold]
      exact Table.find_delete_self _ _
  case isFalse hyoung =>
      split
      case isTrue hretired =>
          have hleft : settled rotation grace key = some { key with isActive := false } := by
            rw [settled, if_neg hyoung, if_pos hretired]
          exact settles_save rfl hleft
      case isFalse hactive =>
          refine ⟨?_, fun _ _ => rfl⟩
          rw [settled, if_neg hyoung, if_neg hactive]
          exact hfind

/-! ## The active keys after an operation -/

theorem mem_activeOf_find {use : KeyUse} {algorithm : JWTAlgorithm} {key : KeyPair} :
    key ∈ activeOf use algorithm w ↔
      w.find key.kid = some key ∧ key.use = use ∧ key.isActive = true ∧
        key.algorithm = algorithm := by
  rw [mem_activeOf]
  constructor
  · intro ⟨hrow, hrest⟩
    exact ⟨Table.find_of_mem hrow, hrest⟩
  · intro ⟨hfind, hrest⟩
    exact ⟨Table.find_mem hfind, hrest⟩

/-- The purge has a key of the family to delete. -/
def Purges (use : KeyUse) (rotationDays gracePeriodDays : Int) (w : KeyWorld) : Prop :=
  ∃ key ∈ family use w, key.createdAt ≤ w.clock - days (rotationDays + gracePeriodDays)

/-- An active key of the algorithm is short of the rotation. -/
def Young (use : KeyUse) (rotationDays : Int) (algorithm : JWTAlgorithm) (w : KeyWorld) : Prop :=
  ∃ key ∈ activeOf use algorithm w, w.clock - days rotationDays < key.createdAt

/-- `mark_expired_keys`: what stays active is what was, short of the rotation
and not purged. -/
theorem wp_markExpiredKeys_active (rotationDays gracePeriodDays : Int) :
    wp (m.markExpiredKeys rotationDays gracePeriodDays)
      (fun removed w' =>
        (0 < removed ↔ Purges m.use rotationDays gracePeriodDays w) ∧
        ∀ algorithm key, key ∈ activeOf m.use algorithm w' ↔
          key ∈ activeOf m.use algorithm w ∧
            ¬ key.createdAt ≤ w.clock - days (rotationDays + gracePeriodDays) ∧
            w.clock - days rotationDays < key.createdAt)
      (fun _ _ => False) w := by
  unfold markExpiredKeys
  rw [wp_bind, wp_get, wp_bind, wp_of_outcome outcome_keys, wp_bind]
  refine wp_mono (wp_forEach_settles (fun key v hfind => wp_settles_markExpiredKey _ _ key v hfind)
    (nodup_family m.use w) fun key h => find_of_mem_family h) ?_ fun _ _ h => h
  intro _ w' ⟨hown, hout⟩
  rw [wp_pure]
  refine ⟨by simp [Purges, List.length_pos_iff_exists_mem], fun algorithm key => ?_⟩
  rw [mem_activeOf_find, mem_activeOf_find]
  constructor
  · intro ⟨hfind, huse, hactive, halg⟩
    by_cases hin : key.kid ∈ (family m.use w).map KeyPair.kid
    · obtain ⟨old, hold, hkid⟩ := List.mem_map.mp hin
      rw [← hkid, hown old hold, settled] at hfind
      split at hfind
      case isTrue => cases hfind
      case isFalse hgrace =>
          split at hfind
          case isTrue =>
              cases hfind
              cases hactive
          case isFalse hyoung =>
              cases hfind
              exact ⟨⟨find_of_mem_family hold, huse, hactive, halg⟩, hgrace,
                not_le.mp fun hle => hyoung ⟨hle, hactive⟩⟩
    · -- a key the loop did not see was of another family
      rw [hout key.kid hin] at hfind
      exact absurd (List.mem_map_of_mem (mem_family.mpr ⟨Table.find_mem hfind, huse⟩)) hin
  · intro ⟨⟨hfind, huse, hactive, halg⟩, hgrace, hyoung⟩
    refine ⟨?_, huse, hactive, halg⟩
    rw [hown key (mem_family.mpr ⟨Table.find_mem hfind, huse⟩), settled, if_neg hgrace,
      if_neg fun hretired => absurd hyoung (not_lt.mpr hretired.1)]

/-- The pair of the next draw joins the active keys of its algorithm. -/
theorem mem_activeOf_save {use : KeyUse} {algorithm : JWTAlgorithm} {key other : KeyPair}
    {draws : Nat} (hnew : w.find key.kid = none) (huse : key.use = use)
    (hactive : key.isActive = true) :
    other ∈ activeOf use algorithm { w with keys := w.keys.save key, draws := draws } ↔
      (other = key ∧ key.algorithm = algorithm) ∨ other ∈ activeOf use algorithm w := by
  rw [mem_activeOf_find, mem_activeOf_find]
  have hsave : Table.find (w.keys.save key) other.kid =
      if other.kid = key.kid then some key else Table.find w.keys other.kid :=
    Table.find_save _ _ _
  show Table.find (w.keys.save key) other.kid = some other ∧ _ ↔ _
  by_cases hkid : other.kid = key.kid
  · rw [hsave, if_pos hkid]
    constructor
    · intro ⟨hfind, _, _, halg⟩
      cases hfind
      exact .inl ⟨rfl, halg⟩
    · intro h
      rcases h with ⟨rfl, halg⟩ | ⟨hfind, _⟩
      · exact ⟨rfl, huse, hactive, halg⟩
      · rw [hkid, hnew] at hfind
        cases hfind
  · rw [hsave, if_neg hkid]
    constructor
    · exact .inr
    · intro h
      rcases h with ⟨rfl, _⟩ | h
      · exact absurd rfl hkid
      · exact h

/-- The algorithm has an active key now, and the active keys of the other
algorithms are what they were. -/
structure Supplies (use : KeyUse) (algorithm : JWTAlgorithm) (w w' : KeyWorld) : Prop where
  own : activeOf use algorithm w' ≠ []
  others : ∀ other, other ≠ algorithm →
    ∀ key, key ∈ activeOf use other w' ↔ key ∈ activeOf use other w

/-- `generate_key_pair` supplies its algorithm, under a name of its own. -/
theorem wp_supplies_generateKeyPair (hdraws : m.ports.Draws) (keySize : Int)
    (algorithm : JWTAlgorithm) (hfresh : w.Fresh m.ports) :
    wp (m.generateKeyPair keySize algorithm)
      (fun key w' => w'.Fresh m.ports ∧ Supplies m.use algorithm w w' ∧
        key ∈ activeOf m.use algorithm w' ∧ w.find key.kid = none ∧
        ∀ old ∈ w.keys.rows, w'.find old.kid = some old)
      (fun _ _ => True) w := by
  refine wp_mono (wp_and (wp_generateKeyPair m keySize algorithm w)
    (wp_ages_generateKeyPair 0 hdraws keySize algorithm hfresh)) ?_ fun _ _ _ => trivial
  intro key w' ⟨⟨heq, hkid, halg, huse, _, hactive⟩, hages, hmem, _, hkept⟩
  have hnew : w.find key.kid = none := by
    rw [hkid]
    exact hfresh.unused _ le_rfl
  refine ⟨hages.fresh, ⟨List.ne_nil_of_mem hmem, fun other hne row => ?_⟩, hmem, hnew, hkept⟩
  rw [heq, mem_activeOf_save hnew huse hactive, halg]
  simp [hne.symm]

/-- `ensure_active_key` supplies its algorithm. -/
theorem wp_supplies_ensureActiveKey (hdraws : m.ports.Draws) (keySize : Int)
    (algorithm : JWTAlgorithm) (hfresh : w.Fresh m.ports) :
    wp (m.ensureActiveKey keySize algorithm)
      (fun _ w' => w'.Fresh m.ports ∧ Supplies m.use algorithm w w') (fun _ _ => True) w := by
  unfold ensureActiveKey
  rw [wp_bind, wp_of_outcome (outcome_activeKeysOf algorithm)]
  by_cases hempty : (activeOf m.use algorithm w).isEmpty = true
  · rw [if_pos hempty, wp_bind]
    exact wp_mono (wp_supplies_generateKeyPair hdraws keySize algorithm hfresh)
      (fun _ _ h => ⟨h.1, h.2.1⟩) fun _ _ h => h
  · rw [if_neg hempty, wp_pure]
    exact ⟨hfresh, ⟨fun hnil => hempty (by simp [hnil]), fun _ _ _ => Iff.rfl⟩⟩

/-- `rotate_key` supplies its algorithm with the pair it answers. -/
theorem wp_supplies_rotateKey (hdraws : m.ports.Draws) (keySize : Int)
    (algorithm : JWTAlgorithm) (hfresh : w.Fresh m.ports) :
    wp (m.rotateKey keySize algorithm)
      (fun key w' => w'.Fresh m.ports ∧ Supplies m.use algorithm w w' ∧
        key.use = m.use ∧ key.isActive = true ∧ key.algorithm = algorithm)
      (fun _ _ => True) w := by
  have hsupplied : wp (m.rotateKey keySize algorithm)
      (fun key w' => Supplies m.use algorithm w w' ∧
        key.use = m.use ∧ key.isActive = true ∧ key.algorithm = algorithm)
      (fun _ _ => True) w := ?_
  · exact wp_mono (wp_and (wp_rotateKey 0 hdraws keySize algorithm hfresh) hsupplied)
      (fun _ _ h => ⟨h.1.fresh, h.2⟩) fun _ _ _ => trivial
  unfold rotateKey
  rw [wp_bind, wp_of_outcome (outcome_activeKeysOf algorithm), wp_bind]
  refine wp_mono (wp_supplies_generateKeyPair hdraws keySize algorithm hfresh) ?_ fun _ _ h => h
  intro generated w₁ ⟨_, hsupplies, hmem, hnew, hkept⟩
  have hcurrent : ∀ key ∈ activeOf m.use algorithm w, w₁.find key.kid = some key :=
    fun key hkey => hkept key (mem_activeOf.mp hkey).1
  rw [wp_bind]
  refine wp_mono (wp_forEach_settles
    (f := fun key => KeyRepository.update { key with isActive := false })
    (s := fun key => some { key with isActive := false })
    (fun key v _ => settles_save rfl rfl) (nodup_activeOf m.use algorithm w) hcurrent) ?_
    fun _ _ h => h.elim
  intro _ w' ⟨hown, hout⟩
  obtain ⟨hfind, huse, hactive, halg⟩ := mem_activeOf_find.mp hmem
  rw [wp_pure]
  refine ⟨⟨?_, fun other hne key => ?_⟩, huse, hactive, halg⟩
  · -- the new pair is not one of those set aside
    have hnot : generated.kid ∉ (activeOf m.use algorithm w).map KeyPair.kid := by
      intro hin
      obtain ⟨old, hold, hkid⟩ := List.mem_map.mp hin
      have hstored := Table.find_of_mem (mem_activeOf.mp hold).1
      rw [hkid] at hstored
      exact absurd (hnew.symm.trans hstored) (by simp)
    refine List.ne_nil_of_mem (a := generated) (mem_activeOf_find.mpr ⟨?_, huse, hactive, halg⟩)
    rw [hout _ hnot]
    exact hfind
  · rw [← hsupplies.others other hne, mem_activeOf_find, mem_activeOf_find]
    by_cases hin : key.kid ∈ (activeOf m.use algorithm w).map KeyPair.kid
    · obtain ⟨old, hold, hkid⟩ := List.mem_map.mp hin
      rw [← hkid, hown old hold, hcurrent old hold]
      constructor
      · intro ⟨heq, _, hstill, _⟩
        cases heq
        cases hstill
      · intro ⟨heq, _, _, hother⟩
        cases heq
        exact absurd (hother.symm.trans (mem_activeOf.mp hold).2.2.2) hne
    · rw [hout key.kid hin]

theorem Supplies.refl {use : KeyUse} {algorithm : JWTAlgorithm}
    (h : activeOf use algorithm w ≠ []) : Supplies use algorithm w w where
  own := h
  others := fun _ _ _ => Iff.rfl

variable (m) in
/-- A loop over algorithms that supplies each in turn supplies them all. -/
theorem wp_forEach_supplies {f : JWTAlgorithm → KeyM Unit}
    (hf : ∀ algorithm v, v.Fresh m.ports →
      wp (f algorithm) (fun _ v' => v'.Fresh m.ports ∧ Supplies m.use algorithm v v')
        (fun _ _ => True) v)
    (algorithms : List JWTAlgorithm) (hfresh : w.Fresh m.ports) :
    wp (forEach algorithms f)
      (fun _ w' => w'.Fresh m.ports ∧ (∀ algorithm ∈ algorithms, activeOf m.use algorithm w' ≠ []) ∧
        ∀ algorithm, algorithm ∉ algorithms →
          ∀ key, key ∈ activeOf m.use algorithm w' ↔ key ∈ activeOf m.use algorithm w)
      (fun _ _ => True) w := by
  induction algorithms generalizing w with
  | nil =>
      rw [forEach, wp_pure]
      simp [hfresh]
  | cons first rest ih =>
      rw [forEach, wp_bind]
      refine wp_mono (hf first w hfresh) ?_ fun _ _ h => h
      intro _ v ⟨hfresh, hfirst⟩
      refine wp_mono (ih hfresh) ?_ fun _ _ h => h
      intro _ w' ⟨hfresh, hrest, hout⟩
      refine ⟨hfresh, fun algorithm halg => ?_, fun algorithm halg key => ?_⟩
      · by_cases hin : algorithm ∈ rest
        · exact hrest algorithm hin
        · obtain rfl : algorithm = first := (List.mem_cons.mp halg).resolve_right hin
          obtain ⟨key, hkey⟩ := List.exists_mem_of_ne_nil _ hfirst.own
          exact List.ne_nil_of_mem ((hout algorithm hin key).mpr hkey)
      · rw [List.mem_cons, not_or] at halg
        rw [hout algorithm halg.2 key, hfirst.others algorithm halg.1 key]

end DefaultKeyManager

/-! ## The calls of the JWK Set -/

/-- The calls of the use case that answer keys. -/
inductive KeySetRequest where
  | getActiveKeys | getPublishedKeys | rotateSigningKeys
  deriving DecidableEq, Repr

/-- A call, on a use case with or without encryption keys, and what the
clock reads then. -/
structure KeySetCall where
  request : KeySetRequest
  withEncryption : Bool := false
  reading : Instant

namespace KeyDeployment

open Effects.Raising DefaultKeyManager

section Calls

variable {d : KeyDeployment} {w : KeyWorld} (hdraws : d.ports.Draws)
include hdraws

/-- `_mark_expired_keys`: the algorithms left with an active key are all the
managed ones when something was purged, else those with a young one. -/
theorem wp_supplies_markExpiredKeys (b : Bool) (hfresh : w.Fresh d.ports) :
    wp (d.jwks b).markExpiredKeys
      (fun _ w' => w'.Fresh d.ports ∧
        ∀ algorithm ∈ managedAlgorithms d.config.algorithms, activeOf .sig algorithm w' ≠ [] ↔
          Purges .sig d.config.rotationDays d.config.gracePeriodDays w ∨
            Young .sig d.config.rotationDays algorithm w)
      (fun _ _ => True) w := by
  unfold JWKSetUseCase.markExpiredKeys
  rw [wp_bind]
  refine wp_mono (wp_and (wp_markExpiredKeys (m := d.manager .sig) hfresh)
    (wp_markExpiredKeys_active (m := d.manager .sig) d.config.rotationDays
      d.config.gracePeriodDays)) ?_ fun _ _ h => h.1.elim
  intro removed w₁ ⟨⟨hages, _⟩, hpurges, hactive⟩
  by_cases hremoved : 0 < removed
  · rw [if_pos hremoved]
    refine wp_mono (wp_forEach_supplies (d.manager .sig) ?_ _ hages.fresh) ?_
      fun _ _ h => h
    · intro algorithm v hfresh
      rw [wp_bind, wp_of_outcome (outcome_activeKeysOf algorithm)]
      by_cases hempty : (activeOf (d.jwks b).keyManager.use algorithm v).isEmpty = true
      · rw [if_pos hempty]
        exact wp_supplies_ensureActiveKey (m := d.manager .sig) hdraws _ algorithm hfresh
      · rw [if_neg hempty, wp_pure]
        exact ⟨hfresh, .refl fun hnil => hempty (List.isEmpty_iff.mpr hnil)⟩
    · intro _ w' ⟨hfresh, hall, _⟩
      refine ⟨hfresh, fun algorithm halg => ?_⟩
      exact ⟨fun _ => .inl (hpurges.mp hremoved), fun _ => hall algorithm halg⟩
  · rw [if_neg hremoved, wp_pure]
    have hkeep : ¬ Purges .sig d.config.rotationDays d.config.gracePeriodDays w :=
      fun h => hremoved (hpurges.mpr h)
    refine ⟨hages.fresh, fun algorithm _ => ?_⟩
    constructor
    · intro hne
      obtain ⟨key, hkey⟩ := List.exists_mem_of_ne_nil _ hne
      obtain ⟨hwas, _, hyoung⟩ := (hactive algorithm key).mp hkey
      exact .inr ⟨key, hwas, hyoung⟩
    · intro h
      rcases h with h | ⟨key, hkey, hyoung⟩
      · exact absurd h hkeep
      · refine List.ne_nil_of_mem ((hactive algorithm key).mpr ⟨hkey, fun hold => ?_, hyoung⟩)
        exact hkeep ⟨key, (List.mem_filter.mp (List.mem_filter.mp hkey).1).1, hold⟩

/-- A round of `_rotate_signing_keys` supplies its algorithm. -/
theorem wp_supplies_rotateWhenDue (b : Bool) (now : Instant) (algorithm : JWTAlgorithm)
    (hfresh : w.Fresh d.ports) :
    wp ((d.jwks b).rotateWhenDue now algorithm)
      (fun _ w' => w'.Fresh d.ports ∧ Supplies .sig algorithm w w') (fun _ _ => True) w := by
  unfold JWKSetUseCase.rotateWhenDue
  rw [wp_bind, wp_of_outcome (outcome_activeKeysOf algorithm)]
  cases hmax : (activeOf (d.jwks b).keyManager.use algorithm w).argmax KeyPair.createdAt with
  | none => exact wp_supplies_ensureActiveKey (m := d.manager .sig) hdraws _ algorithm hfresh
  | some current =>
      by_cases hyoung : now - current.createdAt < (d.jwks b).config.rotationSeconds
      · simp only [if_pos hyoung, wp_pure]
        exact ⟨hfresh, .refl (List.ne_nil_of_mem (List.argmax_mem hmax))⟩
      · simp only [if_neg hyoung]
        rw [wp_bind]
        exact wp_mono (wp_supplies_rotateKey (m := d.manager .sig) hdraws _ algorithm hfresh)
          (fun _ _ h => ⟨h.1, h.2.1⟩) fun _ _ h => h

/-- `_rotate_signing_keys` gives the algorithms it covers an active key, and
takes none away. -/
theorem wp_supplies_rotateDueKeys (b : Bool) (hfresh : w.Fresh d.ports) :
    wp (d.jwks b).rotateDueKeys
      (fun _ w' => w'.Fresh d.ports ∧ ∀ algorithm, activeOf .sig algorithm w' ≠ [] ↔
        activeOf .sig algorithm w ≠ [] ∨
          (0 < d.config.rotationSeconds ∧ algorithm ∈ (d.jwks b).rotationAlgorithms))
      (fun _ _ => True) w := by
  unfold JWKSetUseCase.rotateDueKeys
  by_cases hoff : (d.jwks b).config.rotationSeconds ≤ 0
  · rw [if_pos hoff, wp_pure]
    refine ⟨hfresh, fun algorithm => ?_⟩
    have hno : ¬ 0 < d.config.rotationSeconds := not_lt.mpr hoff
    simp [hno]
  · rw [if_neg hoff, wp_bind, wp_get]
    refine wp_mono (wp_forEach_supplies (d.manager .sig)
      (fun algorithm v hfresh => wp_supplies_rotateWhenDue hdraws b w.clock algorithm hfresh) _
      hfresh) ?_ fun _ _ h => h
    intro _ w' ⟨hfresh, hall, hout⟩
    refine ⟨hfresh, fun algorithm => ?_⟩
    by_cases hin : algorithm ∈ (d.jwks b).rotationAlgorithms
    · constructor
      · exact fun _ => .inr ⟨not_le.mp hoff, hin⟩
      · exact fun _ => hall algorithm hin
    · have hsame : activeOf .sig algorithm w' = [] ↔ activeOf .sig algorithm w = [] := by
        simp only [List.eq_nil_iff_forall_not_mem]
        exact forall_congr' fun key => not_congr (hout algorithm hin key)
      simp [hin, hsame]

omit hdraws in
/-- The keys published for encryption are of their own family. -/
theorem wp_encryptionKeysToPublish (b : Bool) :
    wp (d.jwks b).encryptionKeysToPublish (fun keys _ => ∀ key ∈ keys, key.use = .enc)
      (fun _ _ => True) w := by
  have hactive : ∀ v : KeyWorld, wp (d.manager .enc).getActiveKeys
      (fun keys _ => ∀ key ∈ keys, key.use = .enc) (fun _ _ => True) v := by
    intro v
    rw [wp_of_outcome outcome_getActiveKeys]
    exact fun key hkey => (mem_active.mp hkey).2.1
  cases b with
  | false =>
      intro key hkey
      cases hkey
  | true =>
      show wp ((d.manager .enc).getActiveKeys >>= _) _ _ w
      rw [wp_bind]
      refine wp_mono (hactive w) ?_ fun _ _ h => h
      intro keys w' hkeys
      by_cases hempty : keys.isEmpty = true
      · rw [if_pos hempty, wp_bind]
        exact wp_of_forall (fun _ v => hactive v) fun _ _ => trivial
      · rw [if_neg hempty, wp_pure]
        exact hkeys

end Calls

/-! ## Sequences of calls -/

variable (d : KeyDeployment)

/-- The program of a call. -/
def ask (call : KeySetCall) : KeyM (List KeyPair) :=
  match call.request with
  | .getActiveKeys => (d.jwks call.withEncryption).getActiveKeys
  | .getPublishedKeys => (d.jwks call.withEncryption).getPublishedKeys
  | .rotateSigningKeys =>
      (d.jwks call.withEncryption).rotateSigningKeys (managedAlgorithms d.config.algorithms)

/-- The store as a call finds it. -/
def seen (w : KeyWorld) (call : KeySetCall) : KeyWorld := { w with clock := call.reading }

def answer (w : KeyWorld) (call : KeySetCall) : Except KeyError (List KeyPair) :=
  (Effects.Raising.outcome (d.ask call) (seen w call)).1

def afterCall (w : KeyWorld) (call : KeySetCall) : KeyWorld :=
  (Effects.Raising.outcome (d.ask call) (seen w call)).2

def afterCalls (w : KeyWorld) (calls : List KeySetCall) : KeyWorld := calls.foldl d.afterCall w

/-- Every managed algorithm has an active signing key among these. -/
def Covered (keys : List KeyPair) : Prop :=
  ∀ algorithm ∈ managedAlgorithms d.config.algorithms,
    ∃ key ∈ keys, key.use = .sig ∧ key.isActive = true ∧ key.algorithm = algorithm

/-- What a call needs to find: a key to purge, or for each managed algorithm an
active key short of the rotation; a publication does without where it rotates
proactively, a rotation on demand always. -/
def Tended (w : KeyWorld) (call : KeySetCall) : Prop :=
  match call.request with
  | .getActiveKeys =>
      Purges .sig d.config.rotationDays d.config.gracePeriodDays (seen w call) ∨
        ∀ algorithm ∈ managedAlgorithms d.config.algorithms,
          Young .sig d.config.rotationDays algorithm (seen w call)
  | .getPublishedKeys =>
      Purges .sig d.config.rotationDays d.config.gracePeriodDays (seen w call) ∨
        ∀ algorithm ∈ managedAlgorithms d.config.algorithms,
          Young .sig d.config.rotationDays algorithm (seen w call) ∨
            (0 < d.config.rotationSeconds ∧
              algorithm ∈ (d.jwks call.withEncryption).rotationAlgorithms)
  | .rotateSigningKeys => True

variable {d}

theorem covered_active {w : KeyWorld} :
    d.Covered (active .sig w) ↔
      ∀ algorithm ∈ managedAlgorithms d.config.algorithms, activeOf .sig algorithm w ≠ [] := by
  unfold Covered
  refine forall_congr' fun algorithm => imp_congr_right fun _ => ?_
  constructor
  · intro ⟨key, hkey, _, _, halg⟩
    exact List.ne_nil_of_mem (a := key) (List.mem_filter.mpr ⟨hkey, decide_eq_true halg⟩)
  · intro hne
    obtain ⟨key, hkey⟩ := List.exists_mem_of_ne_nil _ hne
    obtain ⟨hrow, huse, hactive, halg⟩ := mem_activeOf.mp hkey
    exact ⟨key, mem_active.mpr ⟨hrow, huse, hactive⟩, huse, hactive, halg⟩

/-- Retired keys and keys of another family cover nothing. -/
theorem covered_append {keys others : List KeyPair}
    (h : ∀ key ∈ others, key.use = .sig → key.isActive = false) :
    d.Covered (keys ++ others) ↔ d.Covered keys := by
  unfold Covered
  refine forall_congr' fun algorithm => imp_congr_right fun _ => ?_
  constructor
  · intro ⟨key, hkey, huse, hactive, halg⟩
    rcases List.mem_append.mp hkey with hkey | hkey
    · exact ⟨key, hkey, huse, hactive, halg⟩
    · rw [h key hkey huse] at hactive
      cases hactive
  · intro ⟨key, hkey, hrest⟩
    exact ⟨key, List.mem_append_left others hkey, hrest⟩

/-! ## What a call answers -/

section Answers

variable {w : KeyWorld} (hdraws : d.ports.Draws)
include hdraws

theorem wp_covered_getActiveKeys (b : Bool) (hfresh : w.Fresh d.ports) :
    wp (d.jwks b).getActiveKeys
      (fun keys _ => d.Covered keys ↔
        Purges .sig d.config.rotationDays d.config.gracePeriodDays w ∨
          ∀ algorithm ∈ managedAlgorithms d.config.algorithms,
            Young .sig d.config.rotationDays algorithm w)
      (fun _ _ => True) w := by
  unfold JWKSetUseCase.getActiveKeys
  rw [wp_bind]
  refine wp_mono (wp_supplies_markExpiredKeys hdraws b hfresh) ?_ fun _ _ h => h
  intro _ w' ⟨_, hmarked⟩
  rw [wp_of_outcome outcome_getActiveKeys]
  refine covered_active.trans ?_
  rw [forall₂_congr hmarked]
  simp only [forall_or_left]

theorem wp_covered_getPublishedKeys (b : Bool) (hfresh : w.Fresh d.ports) :
    wp (d.jwks b).getPublishedKeys
      (fun keys _ => d.Covered keys ↔
        Purges .sig d.config.rotationDays d.config.gracePeriodDays w ∨
          ∀ algorithm ∈ managedAlgorithms d.config.algorithms,
            Young .sig d.config.rotationDays algorithm w ∨
              (0 < d.config.rotationSeconds ∧ algorithm ∈ (d.jwks b).rotationAlgorithms))
      (fun _ _ => True) w := by
  unfold JWKSetUseCase.getPublishedKeys
  rw [wp_bind]
  refine wp_mono (wp_supplies_markExpiredKeys hdraws b hfresh) ?_ fun _ _ h => h
  intro _ w₁ ⟨hfresh₁, hmarked⟩
  rw [wp_bind]
  refine wp_mono (wp_supplies_rotateDueKeys hdraws b hfresh₁) ?_ fun _ _ h => h
  intro _ w₂ ⟨_, hrotated⟩
  rw [wp_bind, wp_of_outcome outcome_getActiveKeys, wp_bind, wp_of_outcome outcome_getRetiredKeys,
    wp_bind]
  refine wp_mono (wp_encryptionKeysToPublish b) ?_ fun _ _ h => h
  intro encryption w₃ hencryption
  rw [wp_pure, List.append_assoc, covered_append]
  · refine covered_active.trans ?_
    have hcovered : ∀ algorithm ∈ managedAlgorithms d.config.algorithms,
        activeOf .sig algorithm w₂ ≠ [] ↔ _ := fun algorithm halg =>
      (hrotated algorithm).trans ((or_congr_left (hmarked algorithm halg)).trans or_assoc)
    rw [forall₂_congr hcovered]
    simp only [forall_or_left]
  · intro key hkey huse
    rcases List.mem_append.mp hkey with hkey | hkey
    · have hretired := (List.mem_filter.mp (List.mem_mergeSort.mp hkey)).2
      simpa using hretired
    · rw [hencryption key hkey] at huse
      cases huse

theorem wp_covers_rotateSigningKeys (b : Bool) (algorithms : List JWTAlgorithm)
    (hfresh : w.Fresh d.ports) :
    wp ((d.jwks b).rotateSigningKeys algorithms)
      (fun keys _ => ∀ algorithm ∈ algorithms,
        ∃ key ∈ keys, key.use = .sig ∧ key.isActive = true ∧ key.algorithm = algorithm)
      (fun _ _ => True) w := by
  induction algorithms generalizing w with
  | nil =>
      intro algorithm halg
      cases halg
  | cons first rest ih =>
      rw [JWKSetUseCase.rotateSigningKeys, wp_bind]
      refine wp_mono (wp_supplies_rotateKey (m := d.manager .sig) hdraws _ first hfresh) ?_
        fun _ _ h => h
      intro generated v ⟨hfresh, _, hgenerated⟩
      rw [wp_bind]
      refine wp_mono (ih hfresh) ?_ fun _ _ h => h
      intro others w' hothers algorithm halg
      rcases List.mem_cons.mp halg with rfl | halg
      · exact ⟨generated, List.mem_cons_self, hgenerated⟩
      · obtain ⟨key, hkey, hcovers⟩ := hothers algorithm halg
        exact ⟨key, List.mem_cons_of_mem _ hkey, hcovers⟩

/-- What a call answers covers the managed algorithms when it was tended. -/
theorem wp_covered_iff (call : KeySetCall) (hfresh : w.Fresh d.ports) :
    wp (d.ask call) (fun keys _ => d.Covered keys ↔ d.Tended w call) (fun _ _ => True)
      (seen w call) := by
  have hseen : (seen w call).Fresh d.ports := ⟨hfresh.unused, hfresh.named⟩
  unfold ask Tended
  cases call.request with
  | getActiveKeys => exact wp_covered_getActiveKeys hdraws call.withEncryption hseen
  | getPublishedKeys => exact wp_covered_getPublishedKeys hdraws call.withEncryption hseen
  | rotateSigningKeys =>
      refine wp_mono (wp_covers_rotateSigningKeys hdraws call.withEncryption _ hseen) ?_
        fun _ _ h => h
      exact fun _ _ h => ⟨fun _ => trivial, fun _ => h⟩

/-- A call moves the keys along, at its own reading of the clock. -/
theorem ages_afterCall (call : KeySetCall) (hfresh : w.Fresh d.ports) :
    KeyWorld.Ages d.ports d.purgeAge (seen w call) (d.afterCall w call) := by
  have hseen : (seen w call).Fresh d.ports := ⟨hfresh.unused, hfresh.named⟩
  unfold afterCall ask
  cases call.request with
  | getActiveKeys => exact moves_getActive hdraws call.withEncryption _ hseen
  | getPublishedKeys => exact moves_getPublishedKeys hdraws call.withEncryption _ hseen
  | rotateSigningKeys => exact moves_rotateSigningKeys hdraws call.withEncryption _ _ hseen

theorem fresh_afterCalls (hfresh : w.Fresh d.ports) (calls : List KeySetCall) :
    (d.afterCalls w calls).Fresh d.ports := by
  induction calls generalizing w with
  | nil => exact hfresh
  | cons call rest ih => exact ih (ages_afterCall hdraws call hfresh).fresh

/-- A stored key outlives every call that does not reach its purge. -/
theorem stored_afterCalls (hfresh : w.Fresh d.ports) (calls : List KeySetCall) {key : KeyPair}
    (h : KeyWorld.Stored key w) :
    KeyWorld.Stored key (d.afterCalls w calls) ∨
      ∃ call ∈ calls, key.createdAt + d.purgeAge ≤ call.reading := by
  induction calls generalizing w with
  | nil => exact .inl h
  | cons call rest ih =>
      have hages := ages_afterCall hdraws call hfresh
      rcases hages.survives key h with hstored | hold
      · rcases ih hages.fresh hstored with hstored | ⟨later, hlater, hold⟩
        · exact .inl hstored
        · exact .inr ⟨later, List.mem_cons_of_mem _ hlater, hold⟩
      · exact .inr ⟨call, List.mem_cons_self, hold⟩

end Answers

/-- After any calls, over any store: a call answers an active key for every
managed algorithm exactly when it was tended; a key is lost to no call that
reads the clock before its purge; and a publication has every signing key
that is short of it. -/
theorem algorithms_covered_iff (hdraws : d.ports.Draws) {w : KeyWorld} (hfresh : w.Fresh d.ports)
    (calls : List KeySetCall) :
    (∀ call keys, d.answer (d.afterCalls w calls) call = .ok keys →
      (d.Covered keys ↔ d.Tended (d.afterCalls w calls) call)) ∧
    (∀ later key, KeyWorld.Stored key (d.afterCalls w calls) →
      KeyWorld.Stored key (d.afterCalls w (calls ++ later)) ∨
        ∃ call ∈ later, key.createdAt + d.purgeAge ≤ call.reading) ∧
    ∀ call keys, call.request = .getPublishedKeys →
      d.answer (d.afterCalls w calls) call = .ok keys →
      ∀ key, key.use = .sig → KeyWorld.Stored key (d.afterCalls w calls) →
        call.reading < key.createdAt + d.purgeAge → ∃ found ∈ keys, found.material = key.material := by
  have hafter := fresh_afterCalls hdraws hfresh calls
  refine ⟨fun call keys hkeys => ?_, fun later key hstored => ?_, ?_⟩
  · exact of_wp_ok (wp_covered_iff hdraws call hafter) (Prod.ext hkeys rfl)
  · rw [afterCalls, List.foldl_append]
    exact stored_afterCalls hdraws hafter later hstored
  · intro call keys hrequest hkeys key huse hstored hyoung
    have hseen : (seen (d.afterCalls w calls) call).Fresh d.ports := ⟨hafter.unused, hafter.named⟩
    rw [answer, ask, hrequest] at hkeys
    exact of_wp_ok (wp_getPublishedKeys hdraws call.withEncryption hseen) (Prod.ext hkeys rfl)
      key huse hstored hyoung

end KeyDeployment

namespace Sample

/-- A rotation on demand at the start, then the active keys on a later day. -/
def rotated : List KeySetCall := [{ request := .rotateSigningKeys, reading := 0 }]

def activeOn (day : Int) : KeySetCall := { request := .getActiveKeys, reading := days day }

theorem fresh : started.world.Fresh deployment.ports := ⟨fun _ _ => rfl, rfl⟩

theorem answer_second : deployment.answer (deployment.afterCalls started.world rotated) (activeOn 1)
    = .ok [key] := by rfl

theorem answer_late : deployment.answer (deployment.afterCalls started.world rotated) (activeOn 91)
    = .ok [] := by rfl

theorem young : DefaultKeyManager.Young .sig 90 .rs256
    (KeyDeployment.seen (deployment.afterCalls started.world rotated) (activeOn 1)) :=
  ⟨key, by decide +kernel, by decide⟩

end Sample

/-- The day after the rotation its key is still answered. -/
theorem KeyDeployment.algorithms_covered_iff_next_day : Sample.deployment.Covered [Sample.key] := by
  refine ((KeyDeployment.algorithms_covered_iff Sample.draws Sample.fresh Sample.rotated).1
    (Sample.activeOn 1) [Sample.key] Sample.answer_second).mpr (.inr fun algorithm halg => ?_)
  obtain rfl : algorithm = .rs256 := List.mem_singleton.mp halg
  exact Sample.young

/-- On the ninety-first day the only key is retired, and nothing replaces it. -/
theorem KeyDeployment.last_key_retired :
    ¬ ∀ calls call keys,
      Sample.deployment.answer (Sample.deployment.afterCalls Sample.started.world calls) call
        = .ok keys → Sample.deployment.Covered keys := by
  intro h
  obtain ⟨_, hkey, _⟩ := h Sample.rotated (Sample.activeOn 91) [] Sample.answer_late .rs256
    (List.mem_singleton.mpr rfl)
  cases hkey

end PurIdentityServer.Jwks
