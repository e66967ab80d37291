import Mathlib.Algebra.Ring.Int.Defs
import PurIdentityServer.Infrastructure.PushedRows

/-!
# Columns — what a database takes and what it refuses

A row is written through columns of a declared type and size. Whether a
size is enforced is the database's: SQLite takes every text, PostgreSQL
takes none that is longer than declared. A set is written as a sorted
array, an optional date as a date or as `NULL`.
-/

namespace PurIdentityServer

open Effects

/-- A value sent to the database under the type of its column. -/
inductive Column where
  /-- `String(width)` -/
  | varchar (width : Nat) (value : String)
  /-- `Text`, and the value a query compares -/
  | text (value : String)
  /-- `Integer` -/
  | integer (value : Int)

/-- The database behind a DSN. -/
structure Engine where
  keepsZone : Bool
  accepts : Column → Bool

/-- What SQLAlchemy raises. -/
inductive SqlError where
  | dataError
  | integrityError
  | multipleResultsFound
  deriving DecidableEq, Repr

namespace Engine

/-- SQLite has no sizes; an integer has 64 bits. -/
def sqlite : Engine where
  keepsZone := false
  accepts
    | .integer value => -2 ^ 63 ≤ value ∧ value < 2 ^ 63
    | _ => true

/-- PostgreSQL enforces the sizes, and takes no text with a null character. -/
def postgresql : Engine where
  keepsZone := true
  accepts
    | .varchar width value => value.length ≤ width ∧ Char.ofNat 0 ∉ value.toList
    | .text value => Char.ofNat 0 ∉ value.toList
    | .integer value => -2 ^ 31 ≤ value ∧ value < 2 ^ 31

theorem postgresql_varchar {width : Nat} {value : String} :
    postgresql.accepts (.varchar width value) = true ↔
      value.length ≤ width ∧ Char.ofNat 0 ∉ value.toList :=
  decide_eq_true_iff

variable (engine : Engine)

/-- Every column is accepted. -/
def Takes (columns : List Column) : Prop := columns.all engine.accepts = true

instance (columns : List Column) : Decidable (engine.Takes columns) :=
  inferInstanceAs (Decidable (_ = true))

/-- The columns sent by one statement. -/
def take (columns : List Column) : Except SqlError Unit :=
  if engine.Takes columns then .ok () else .error .dataError

theorem take_bind {α : Type} {columns : List Column} (f : Unit → Except SqlError α) :
    (engine.take columns >>= f) =
      if engine.Takes columns then f () else .error .dataError := by
  unfold take
  split <;> rfl

end Engine

/-! ## Rows -/

variable {κ R : Type} [DecidableEq κ] {rowKey : R → κ}

/-- `session.merge` and `session.commit` -/
def Engine.merge (engine : Engine) (columns : R → List Column) (table : Table rowKey) (row : R) :
    Except SqlError (Table rowKey) := do
  engine.take (columns row)
  pure (table.save row)

/-- `session.get` -/
def Engine.get (engine : Engine) (columns : List Column) (table : Table rowKey) (key : κ) :
    Except SqlError (Option R) := do
  engine.take columns
  pure (table.find key)

/-- `session.get`, and when there is a row the assignments to it, which write `changes`. -/
def Engine.amend (engine : Engine) (columns changes : List Column) (table : Table rowKey)
    (key : κ) (edit : R → R) (h : ∀ row, rowKey (edit row) = rowKey row) :
    Except SqlError (Table rowKey) := do
  engine.take columns
  (if (table.find key).isSome then engine.take changes else pure ())
  pure (table.update key edit h)

/-- `session.get`, and when there is a row `session.delete`. -/
def Engine.remove (engine : Engine) (columns : List Column) (table : Table rowKey) (key : κ) :
    Except SqlError (Table rowKey) := do
  engine.take columns
  pure (table.delete key)

/-- `scalar_one_or_none` -/
def scalarOneOrNone : List R → Except SqlError (Option R)
  | [] => .ok none
  | [row] => .ok (some row)
  | _ => .error .multipleResultsFound

theorem scalarOneOrNone_toList (row : Option R) : scalarOneOrNone row.toList = .ok row := by
  cases row <;> rfl

section Rules

variable (engine : Engine) (table : Table rowKey)

theorem Engine.merge_eq (columns : R → List Column) (row : R) :
    engine.merge columns table row =
      if engine.Takes (columns row) then .ok (table.save row) else .error .dataError :=
  engine.take_bind _

theorem Engine.get_eq (columns : List Column) (key : κ) :
    engine.get columns table key =
      if engine.Takes columns then .ok (table.find key) else .error .dataError :=
  engine.take_bind _

theorem Engine.remove_eq (columns : List Column) (key : κ) :
    engine.remove columns table key =
      if engine.Takes columns then .ok (table.delete key) else .error .dataError :=
  engine.take_bind _

/-- The assignments are refused when there is a row for them. -/
theorem Engine.amend_eq (columns changes : List Column) (key : κ) (edit : R → R)
    (h : ∀ row, rowKey (edit row) = rowKey row) :
    engine.amend columns changes table key edit h =
      if engine.Takes columns ∧ ((table.find key).isSome → engine.Takes changes) then
        .ok (table.update key edit h)
      else .error .dataError := by
  rw [amend, take_bind]
  by_cases hcolumns : engine.Takes columns
  · by_cases hrow : (table.find key).isSome
    · rw [if_pos hcolumns, if_pos hrow, take_bind]
      by_cases hchanges : engine.Takes changes
      · rw [if_pos hchanges, if_pos ⟨hcolumns, fun _ => hchanges⟩]
        rfl
      · rw [if_neg hchanges, if_neg fun h => hchanges (h.2 hrow)]
    · rw [if_pos hcolumns, if_neg hrow, if_pos ⟨hcolumns, fun h => absurd h hrow⟩]
      rfl
  · rw [if_neg hcolumns, if_neg fun h => hcolumns h.1]

/-- On the rows of a table of values, assignments that change the rows as the values. -/
theorem Engine.amend_map {V : Type} {key : V → κ} {f : V → R} (hf : ∀ v, rowKey (f v) = key v)
    (values : Table key) (columns changes : List Column) (k : κ) (edit : V → V) (edit' : R → R)
    (hedit : ∀ v, key (edit v) = key v) (hedit' : ∀ row, rowKey (edit' row) = rowKey row)
    (h : ∀ v, edit' (f v) = f (edit v)) :
    engine.amend columns changes (values.map f hf) k edit' hedit' =
      if engine.Takes columns ∧ ((values.find k).isSome → engine.Takes changes) then
        .ok ((values.update k edit hedit).map f hf)
      else .error .dataError := by
  rw [amend_eq, Table.find_map, Option.isSome_map, Table.map_update f hf values k hedit hedit' h]

end Rules

/-! ## Values -/

/-- `frozenset(…)` of the sorted array of a set gives the set back. -/
theorem toFinset_sorted (values : Finset String) : (Text.sorted values).toFinset = values :=
  Finset.sort_toFinset values (· ≤ ·)

/-- A column that holds the value of an enumeration. -/
structure EnumColumn {α : Type} (ofValue? : String → Option α) where
  value : String
  readable : (ofValue? value).isSome = true

namespace EnumColumn

variable {α : Type} {ofValue? : String → Option α}

def write {value : α → String} (h : ∀ a, ofValue? (value a) = some a) (a : α) :
    EnumColumn ofValue? :=
  ⟨value a, by rw [h]; rfl⟩

def read (column : EnumColumn ofValue?) : α := (ofValue? column.value).get column.readable

theorem read_write {value : α → String} (h : ∀ a, ofValue? (value a) = some a) (a : α) :
    (write h a).read = a :=
  Option.get_of_eq_some _ (h a)

end EnumColumn

/-- A date is read back, `NULL` as well. -/
theorem DateColumn.map_read_write (keepsZone : Bool) (moment : Option Instant) :
    (moment.map (write keepsZone)).map read = moment := by
  cases moment with
  | none => rfl
  | some moment => exact congrArg some (read_write keepsZone moment)

end PurIdentityServer
