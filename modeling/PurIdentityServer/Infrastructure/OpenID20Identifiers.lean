import Mathlib.Data.Fintype.EquivFin
import PurIdentityServer.Lib.Dict
import PurIdentityServer.Lib.Table
import PurIdentityServer.Domain.Text

/-!
# OpenID20Identifiers — the stores of the OpenID 2.0 associations

An association joins an account and a realm to an OpenID 2.0 identifier.
`InMemoryOpenID20IdentifierRepository` keeps two dictionaries, by pair and
by identifier; `SQLOpenID20IdentifierRepository` keeps one table under the
pair. `linkAll` is a sequence of `link` operations on either.

What a store answers after a sequence of links is read off the sequence:
`lastOf` is the last link of a pair, `lastNaming` the last link that names
an identifier. The main results say for which sequences the two queries of
a store agree.
-/

namespace PurIdentityServer

namespace OpenID20

open Effects

structure OpenID20Identifier where
  subject : String
  identifier : String
  realm : String := ""
  createdAt : Instant
  deriving DecidableEq, Repr

/-- The primary key `(subject, realm)`. -/
def OpenID20Identifier.pair (association : OpenID20Identifier) : String × String :=
  (association.subject, association.realm)

/-! ## The repositories -/

/-- `OpenID20IdentifierRepository`: the dictionaries in memory, or the table. -/
inductive IdentifierRepository where
  | memory (identifiers : Dict (String × String) OpenID20Identifier)
      (byIdentifier : Dict String OpenID20Identifier)
  | sql (rows : Table OpenID20Identifier.pair)

namespace IdentifierRepository

def emptyMemory : IdentifierRepository := .memory [] []

def emptySql : IdentifierRepository := .sql .empty

def save (association : OpenID20Identifier) : IdentifierRepository → IdentifierRepository
  | .memory identifiers byIdentifier =>
      .memory (identifiers.set association.pair association)
        (byIdentifier.set association.identifier association)
  | .sql rows => .sql (rows.save association)

def find (subject realm : String) : IdentifierRepository → Option OpenID20Identifier
  | .memory identifiers _ => identifiers.get (subject, realm)
  | .sql rows => rows.find (subject, realm)

/-- `find_by_identifier`; the query has no `ORDER BY`, `order` is the order in
which the database answers the rows. -/
def findByIdentifier (order : List OpenID20Identifier → List OpenID20Identifier)
    (identifier : String) : IdentifierRepository → Option OpenID20Identifier
  | .memory _ byIdentifier => byIdentifier.get identifier
  | .sql rows => (order (rows.select fun row => row.identifier = identifier)).head?

theorem find_save (store : IdentifierRepository) (association : OpenID20Identifier)
    (subject realm : String) :
    (store.save association).find subject realm =
      if (subject, realm) = association.pair then some association
      else store.find subject realm := by
  cases store with
  | memory identifiers byIdentifier => exact Dict.get_set identifiers _ _ _
  | sql rows => exact Table.find_save rows association (subject, realm)

/-- The `identifier` of the association of a pair, empty when it has none. -/
def identifierFor (store : IdentifierRepository) (subject realm : String) : String :=
  ((store.find subject realm).map OpenID20Identifier.identifier).getD ""

theorem identifierFor_save (store : IdentifierRepository) (association : OpenID20Identifier)
    (subject realm : String) :
    (store.save association).identifierFor subject realm =
      if (subject, realm) = association.pair then association.identifier
      else store.identifierFor subject realm := by
  unfold identifierFor
  rw [find_save]
  split
  · rfl
  · rfl

end IdentifierRepository

/-! ## The use case of the migration -/

/-- `OpenID20MigrationUseCase`, with the order of the database's answers. -/
structure MigrationUseCase where
  enabled : Bool
  order : List OpenID20Identifier → List OpenID20Identifier

namespace MigrationUseCase

variable (migration : MigrationUseCase)

/-- `link`. -/
def link (association : OpenID20Identifier) (store : IdentifierRepository) :
    IdentifierRepository :=
  if migration.enabled then store.save association else store

/-- `identifier_for`. -/
def identifierFor (subject realm : String) (store : IdentifierRepository) : String :=
  if migration.enabled then store.identifierFor subject realm else ""

/-- `find_by_identifier`, the `authority_of` of the provider. -/
def authorityOf (identifier : String) (store : IdentifierRepository) :
    Option OpenID20Identifier :=
  if migration.enabled then store.findByIdentifier migration.order identifier else none

/-- Links made one after the other, first one first. -/
def linkAll (links : List OpenID20Identifier) (store : IdentifierRepository) :
    IdentifierRepository :=
  links.foldl (fun store association => migration.link association store) store

/-- The two queries agree on `identifier`: it is the identifier of exactly the
pairs whose association its authority answers. -/
def Agrees (store : IdentifierRepository) (identifier : String) : Prop :=
  ∀ subject realm,
    (∃ association, migration.authorityOf identifier store = some association ∧
      association.pair = (subject, realm)) ↔
    migration.identifierFor subject realm store = identifier

end MigrationUseCase

/-! ## The links of a history -/

/-- The last link of a pair. -/
def lastOf (links : List OpenID20Identifier) (pair : String × String) :
    Option OpenID20Identifier :=
  links.reverse.find? fun association => association.pair = pair

/-- The last link that names an identifier. -/
def lastNaming (links : List OpenID20Identifier) (identifier : String) :
    Option OpenID20Identifier :=
  links.reverse.find? fun association => association.identifier = identifier

/-- No two pairs have `identifier` as the identifier of their last link. -/
def Unshared (links : List OpenID20Identifier) (identifier : String) : Prop :=
  ∀ a b, lastOf links a.pair = some a → lastOf links b.pair = some b →
    a.identifier = identifier → b.identifier = identifier → a.pair = b.pair

/-- The pair last linked to `identifier` has not been linked to another one
since. -/
def Current (links : List OpenID20Identifier) (identifier : String) : Prop :=
  ∀ a b, lastNaming links identifier = some a → lastOf links a.pair = some b →
    b.identifier = identifier

theorem lastOf_append (links : List OpenID20Identifier) (a : OpenID20Identifier)
    (pair : String × String) :
    lastOf (links ++ [a]) pair = if pair = a.pair then some a else lastOf links pair := by
  unfold lastOf
  rw [List.reverse_append, List.reverse_singleton, List.singleton_append]
  by_cases h : a.pair = pair
  · rw [if_pos h.symm]
    exact List.find?_cons_of_pos (by simpa using h)
  · rw [if_neg (Ne.symm h)]
    exact List.find?_cons_of_neg (by simpa using h)

theorem lastNaming_append (links : List OpenID20Identifier) (a : OpenID20Identifier)
    (identifier : String) :
    lastNaming (links ++ [a]) identifier =
      if identifier = a.identifier then some a else lastNaming links identifier := by
  unfold lastNaming
  rw [List.reverse_append, List.reverse_singleton, List.singleton_append]
  by_cases h : a.identifier = identifier
  · rw [if_pos h.symm]
    exact List.find?_cons_of_pos (by simpa using h)
  · rw [if_neg (Ne.symm h)]
    exact List.find?_cons_of_neg (by simpa using h)

theorem lastOf_pair {links : List OpenID20Identifier} {a : OpenID20Identifier}
    {pair : String × String} (h : lastOf links pair = some a) : a.pair = pair := by
  simpa using List.find?_some h

theorem lastNaming_identifier {links : List OpenID20Identifier} {a : OpenID20Identifier}
    {identifier : String} (h : lastNaming links identifier = some a) :
    a.identifier = identifier := by
  simpa using List.find?_some h

theorem lastOf_mem {links : List OpenID20Identifier} {a : OpenID20Identifier}
    {pair : String × String} (h : lastOf links pair = some a) : a ∈ links :=
  List.mem_reverse.mp (List.mem_of_find?_eq_some h)

/-- A pair that was linked has a last link. -/
theorem exists_lastOf {links : List OpenID20Identifier} {a : OpenID20Identifier}
    (h : a ∈ links) : ∃ b, lastOf links a.pair = some b := by
  apply Option.isSome_iff_exists.mp
  exact List.find?_isSome.mpr ⟨a, List.mem_reverse.mpr h, by simp⟩

theorem exists_lastNaming {links : List OpenID20Identifier} {a : OpenID20Identifier}
    (h : a ∈ links) : ∃ b, lastNaming links a.identifier = some b := by
  apply Option.isSome_iff_exists.mp
  exact List.find?_isSome.mpr ⟨a, List.mem_reverse.mpr h, by simp⟩

theorem lastNaming_mem {links : List OpenID20Identifier} {a : OpenID20Identifier}
    {identifier : String} (h : lastNaming links identifier = some a) : a ∈ links :=
  List.mem_reverse.mp (List.mem_of_find?_eq_some h)

/-! ## What a store answers after links -/

namespace MigrationUseCase

variable {migration : MigrationUseCase}

theorem linkAll_append (links : List OpenID20Identifier) (a : OpenID20Identifier)
    (store : IdentifierRepository) :
    migration.linkAll (links ++ [a]) store = migration.link a (migration.linkAll links store) :=
  List.foldl_concat ..

/-- On both stores, a pair finds its last link. -/
theorem find_linkAll (henabled : migration.enabled = true) (store : IdentifierRepository)
    (hempty : ∀ subject realm, store.find subject realm = none)
    (links : List OpenID20Identifier) (subject realm : String) :
    (migration.linkAll links store).find subject realm = lastOf links (subject, realm) := by
  induction links using List.reverseRecOn with
  | nil => exact hempty subject realm
  | append_singleton links a ih =>
      rw [linkAll_append, link, if_pos henabled, IdentifierRepository.find_save, ih,
        lastOf_append]

/-- In memory, an identifier finds the last link that names it. -/
theorem memory_findByIdentifier (henabled : migration.enabled = true)
    (links : List OpenID20Identifier) (identifier : String) :
    ∃ identifiers byIdentifier,
      migration.linkAll links .emptyMemory = .memory identifiers byIdentifier ∧
      byIdentifier.get identifier = lastNaming links identifier := by
  induction links using List.reverseRecOn with
  | nil => exact ⟨[], [], rfl, rfl⟩
  | append_singleton links a ih =>
      obtain ⟨identifiers, byIdentifier, hstore, hget⟩ := ih
      refine ⟨identifiers.set a.pair a, byIdentifier.set a.identifier a, ?_, ?_⟩
      · rw [linkAll_append, link, if_pos henabled, hstore]
        rfl
      · rw [Dict.get_set, hget, lastNaming_append]

/-- In SQL, the rows are the last links of their pairs. -/
theorem sql_rows (henabled : migration.enabled = true) (links : List OpenID20Identifier) :
    ∃ rows : Table OpenID20Identifier.pair,
      migration.linkAll links .emptySql = .sql rows ∧
      ∀ row, row ∈ rows.rows ↔ lastOf links row.pair = some row := by
  have hrows : ∃ rows : Table OpenID20Identifier.pair,
      migration.linkAll links .emptySql = .sql rows := by
    induction links using List.reverseRecOn with
    | nil => exact ⟨.empty, rfl⟩
    | append_singleton links a ih =>
        obtain ⟨rows, hstore⟩ := ih
        refine ⟨rows.save a, ?_⟩
        rw [linkAll_append, link, if_pos henabled, hstore]
        rfl
  obtain ⟨rows, hstore⟩ := hrows
  have hfind : ∀ subject realm, rows.find (subject, realm) = lastOf links (subject, realm) := by
    intro subject realm
    have h := find_linkAll henabled .emptySql (fun _ _ => rfl) links subject realm
    rwa [hstore] at h
  refine ⟨rows, hstore, ?_⟩
  intro row
  constructor
  · intro hmem
    exact (hfind row.subject row.realm).symm.trans (Table.find_of_mem hmem)
  · intro hlast
    exact Table.find_mem ((hfind row.subject row.realm).trans hlast)

/-! ## Agreement -/

/-- A pair has `identifier` when its last link names it. -/
theorem identifierFor_eq_iff (henabled : migration.enabled = true) {store : IdentifierRepository}
    {links : List OpenID20Identifier} {identifier subject realm : String}
    (hfind : store.find subject realm = lastOf links (subject, realm)) (hne : identifier ≠ "") :
    migration.identifierFor subject realm store = identifier ↔
      ∃ a, lastOf links (subject, realm) = some a ∧ a.identifier = identifier := by
  unfold identifierFor IdentifierRepository.identifierFor
  rw [if_pos henabled, hfind]
  cases hlast : lastOf links (subject, realm) with
  | none =>
      constructor
      · intro h
        exact absurd h.symm hne
      · rintro ⟨a, ha, -⟩
        cases ha
  | some a =>
      constructor
      · intro h
        exact ⟨a, rfl, h⟩
      · rintro ⟨b, hb, hidentifier⟩
        cases hb
        exact hidentifier

/-- The queries never agree on the empty identifier, which stands for no
association: two pairs without one have it. -/
theorem not_agrees_empty {store : IdentifierRepository} {links : List OpenID20Identifier}
    (hfind : ∀ subject realm, store.find subject realm = lastOf links (subject, realm)) :
    ¬ migration.Agrees store "" := by
  intro hagrees
  have hfresh : ∀ used : Finset (String × String),
      ∃ pair, pair ∉ used ∧ ∀ a ∈ links, a.pair ≠ pair := by
    intro used
    obtain ⟨pair, hpair⟩ := Infinite.exists_notMem_finset
      (used ∪ (links.map OpenID20Identifier.pair).toFinset)
    rw [Finset.mem_union, not_or] at hpair
    refine ⟨pair, hpair.1, ?_⟩
    intro a ha heq
    apply hpair.2
    rw [List.mem_toFinset]
    exact List.mem_map.mpr ⟨a, ha, heq⟩
  have hanswer : ∀ pair : String × String, (∀ a ∈ links, a.pair ≠ pair) →
      ∃ a, migration.authorityOf "" store = some a ∧ a.pair = pair := by
    intro pair hpair
    apply (hagrees pair.1 pair.2).mpr
    have hnone : lastOf links pair = none := by
      cases hlast : lastOf links pair with
      | none => rfl
      | some a => exact absurd (lastOf_pair hlast) (hpair a (lastOf_mem hlast))
    unfold identifierFor IdentifierRepository.identifierFor
    rw [hfind, hnone]
    split
    · rfl
    · rfl
  obtain ⟨p, -, hp⟩ := hfresh ∅
  obtain ⟨q, hq, hq'⟩ := hfresh {p}
  obtain ⟨a, ha, hap⟩ := hanswer p hp
  obtain ⟨b, hb, hbq⟩ := hanswer q hq'
  rw [ha] at hb
  cases hb
  apply hq
  rw [Finset.mem_singleton, ← hbq, hap]

theorem agrees_iff_of_disabled (hdisabled : ¬ migration.enabled = true)
    (store : IdentifierRepository) (identifier : String) :
    migration.Agrees store identifier ↔ identifier ≠ "" := by
  have hauthority : migration.authorityOf identifier store = none := if_neg hdisabled
  have hfor : ∀ subject realm, migration.identifierFor subject realm store = "" :=
    fun _ _ => if_neg hdisabled
  constructor
  · intro hagrees hempty
    obtain ⟨a, ha, -⟩ := (hagrees "" "").mpr ((hfor "" "").trans hempty.symm)
    rw [hauthority] at ha
    cases ha
  · intro hne subject realm
    rw [hauthority, hfor]
    constructor
    · rintro ⟨a, ha, -⟩
      cases ha
    · intro h
      exact absurd h.symm hne

/-- Two pairs whose last links name one identifier are one pair when the two
queries agree on it. -/
theorem Agrees.unshared (henabled : migration.enabled = true) {store : IdentifierRepository}
    {links : List OpenID20Identifier} {identifier : String}
    (hfind : ∀ subject realm, store.find subject realm = lastOf links (subject, realm))
    (hne : identifier ≠ "") (hagrees : migration.Agrees store identifier) :
    Unshared links identifier := by
  intro a b ha hb hai hbi
  obtain ⟨c, hc, hca⟩ := (hagrees a.subject a.realm).mpr
    ((identifierFor_eq_iff henabled (hfind _ _) hne).mpr ⟨a, ha, hai⟩)
  obtain ⟨d, hd, hdb⟩ := (hagrees b.subject b.realm).mpr
    ((identifierFor_eq_iff henabled (hfind _ _) hne).mpr ⟨b, hb, hbi⟩)
  rw [hc] at hd
  cases hd
  exact hca.symm.trans hdb

/-- In memory, the queries agree on an identifier that no two pairs share and
whose pair was not linked again to another. -/
theorem memory_agrees_iff (links : List OpenID20Identifier) (identifier : String) :
    migration.Agrees (migration.linkAll links .emptyMemory) identifier ↔
      identifier ≠ "" ∧ (migration.enabled = true →
        Unshared links identifier ∧ Current links identifier) := by
  by_cases henabled : migration.enabled = true
  case neg =>
    rw [agrees_iff_of_disabled henabled]
    exact ⟨fun hne => ⟨hne, fun h => absurd h henabled⟩, And.left⟩
  have hfind := find_linkAll henabled .emptyMemory (fun _ _ => rfl) links
  obtain ⟨identifiers, byIdentifier, hstore, hget⟩ :=
    memory_findByIdentifier henabled links identifier
  have hauthority : migration.authorityOf identifier (migration.linkAll links .emptyMemory) =
      lastNaming links identifier := by
    unfold authorityOf
    rw [if_pos henabled, hstore]
    exact hget
  constructor
  · intro hagrees
    have hne : identifier ≠ "" := by
      rintro rfl
      exact not_agrees_empty hfind hagrees
    refine ⟨hne, fun _ => ⟨hagrees.unshared henabled hfind hne, ?_⟩⟩
    intro a b ha hb
    have hpair := (hagrees a.subject a.realm).mp ⟨a, hauthority.trans ha, rfl⟩
    obtain ⟨c, hc, hci⟩ := (identifierFor_eq_iff henabled (hfind _ _) hne).mp hpair
    have hcb : some c = some b := hc.symm.trans hb
    cases hcb
    exact hci
  · rintro ⟨hne, h⟩
    obtain ⟨hunshared, hcurrent⟩ := h henabled
    intro subject realm
    rw [identifierFor_eq_iff henabled (hfind _ _) hne, hauthority]
    constructor
    · rintro ⟨a, ha, hpair⟩
      obtain ⟨b, hb⟩ := exists_lastOf (lastNaming_mem ha)
      exact ⟨b, hpair ▸ hb, hcurrent a b ha hb⟩
    · rintro ⟨b, hb, hbi⟩
      obtain ⟨a, ha⟩ := exists_lastNaming (lastOf_mem hb)
      rw [hbi] at ha
      obtain ⟨c, hc⟩ := exists_lastOf (lastNaming_mem ha)
      have hcpair := lastOf_pair hc
      have hbpair := lastOf_pair hb
      have hsame := hunshared c b (hcpair ▸ hc) (hbpair ▸ hb) (hcurrent a c ha hc) hbi
      exact ⟨a, ha, hcpair.symm.trans (hsame.trans hbpair)⟩

/-- In SQL, the queries agree on an identifier that no two pairs share,
whatever the order of the rows. -/
theorem sql_agrees_iff (horder : ∀ rows, (migration.order rows).Perm rows)
    (links : List OpenID20Identifier) (identifier : String) :
    migration.Agrees (migration.linkAll links .emptySql) identifier ↔
      identifier ≠ "" ∧ (migration.enabled = true → Unshared links identifier) := by
  by_cases henabled : migration.enabled = true
  case neg =>
    rw [agrees_iff_of_disabled henabled]
    exact ⟨fun hne => ⟨hne, fun h => absurd h henabled⟩, And.left⟩
  have hfind := find_linkAll henabled .emptySql (fun _ _ => rfl) links
  obtain ⟨rows, hstore, hrows⟩ := sql_rows henabled links
  have hauthority : ∀ a, migration.authorityOf identifier (migration.linkAll links .emptySql) =
      some a → a.identifier = identifier ∧ lastOf links a.pair = some a := by
    intro a ha
    unfold authorityOf at ha
    rw [if_pos henabled, hstore] at ha
    have hmem := (horder _).mem_iff.mp (List.mem_of_head? ha)
    obtain ⟨hrow, hidentifier⟩ := List.mem_filter.mp hmem
    exact ⟨of_decide_eq_true hidentifier, (hrows a).mp hrow⟩
  constructor
  · intro hagrees
    have hne : identifier ≠ "" := by
      rintro rfl
      exact not_agrees_empty hfind hagrees
    exact ⟨hne, fun _ => hagrees.unshared henabled hfind hne⟩
  · rintro ⟨hne, h⟩
    intro subject realm
    rw [identifierFor_eq_iff henabled (hfind _ _) hne]
    constructor
    · rintro ⟨a, ha, hpair⟩
      obtain ⟨hidentifier, hlast⟩ := hauthority a ha
      exact ⟨a, hpair ▸ hlast, hidentifier⟩
    · rintro ⟨b, hb, hbi⟩
      have hbpair := lastOf_pair hb
      cases ha : migration.authorityOf identifier (migration.linkAll links .emptySql) with
      | none =>
          -- the row of the pair is one the query selects
          unfold authorityOf at ha
          rw [if_pos henabled, hstore] at ha
          have hempty := List.head?_eq_none_iff.mp ha
          have hmem : b ∈ rows.select fun row => row.identifier = identifier :=
            List.mem_filter.mpr ⟨(hrows b).mpr (hbpair ▸ hb), decide_eq_true hbi⟩
          have hmem' := (horder _).mem_iff.mpr hmem
          rw [hempty] at hmem'
          cases hmem'
      | some a =>
          obtain ⟨hidentifier, hlast⟩ := hauthority a ha
          have hsame := h henabled a b hlast (hbpair ▸ hb) hidentifier hbi
          exact ⟨a, rfl, hsame.trans hbpair⟩

end MigrationUseCase

end OpenID20

end PurIdentityServer
