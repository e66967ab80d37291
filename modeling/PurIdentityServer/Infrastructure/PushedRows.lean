import PurIdentityServer.Domain.Ports
import PurIdentityServer.Lib.JsonText

/-!
# PushedRows — pushed requests as rows of a database

The SQL store keeps the parameters of a pushed request as JSON text and its
expiry as a date, which a database gives back with or without its time
zone. A request that was stored is read back as it was, and the table of
rows answers every call as the memory store does.
-/

namespace PurIdentityServer

open Effects

/-! ## Columns -/

/-- A column of type JSON: a text that can be read. -/
structure JsonColumn where
  text : String
  readable : (JsonText.loads text).isSome = true

namespace JsonColumn

def write (params : Dict String String) : JsonColumn :=
  ⟨JsonText.dumps params, by rw [JsonText.loads_dumps]; rfl⟩

/-- `dict(row.params)` -/
def read (column : JsonColumn) : Dict String String :=
  JsonText.ofItems ((JsonText.loads column.text).get column.readable)

/-- A dictionary is read back. -/
theorem read_write {params : Dict String String} (h : (Dict.keys params).Nodup) :
    (write params).read = params := by
  have hloads : (JsonText.loads (write params).text).get (write params).readable = params :=
    Option.get_of_eq_some _ (JsonText.loads_dumps params)
  rw [read, hloads, JsonText.ofItems_of_nodup h]

end JsonColumn

/-- A date of a database, with its time zone or without. -/
inductive DateColumn where
  | aware (moment : Instant)
  | naive (reading : Instant)

/-- What a column of type `DateTime(timezone=True)` gives back of a date in UTC: PostgreSQL
keeps the zone, SQLite drops it. -/
def DateColumn.write (keepsZone : Bool) (moment : Instant) : DateColumn :=
  if keepsZone then .aware moment else .naive moment

/-- A date without a time zone is in UTC. -/
def DateColumn.read : DateColumn → Instant
  | .aware moment => moment
  | .naive reading => reading

theorem DateColumn.read_write (keepsZone : Bool) (moment : Instant) :
    (DateColumn.write keepsZone moment).read = moment := by
  cases keepsZone <;> rfl

/-! ## Rows -/

structure PushedAuthorizationRow where
  requestUri : String
  clientId : String
  params : JsonColumn
  expiresAt : DateColumn
  isConsumed : Bool

namespace PushedAuthorizationRow

/-- `_to_row`, through the columns of a database. -/
def toRow (keepsZone : Bool) (pushed : PushedAuthorization) : PushedAuthorizationRow where
  requestUri := pushed.requestUri
  clientId := pushed.clientId
  params := .write pushed.params
  expiresAt := .write keepsZone pushed.expiresAt
  isConsumed := pushed.isConsumed

/-- `_from_row` -/
def fromRow (row : PushedAuthorizationRow) : PushedAuthorization where
  requestUri := row.requestUri
  clientId := row.clientId
  params := row.params.read
  expiresAt := row.expiresAt.read
  isConsumed := row.isConsumed

/-- A request that was stored is read back. -/
theorem fromRow_toRow (keepsZone : Bool) {pushed : PushedAuthorization}
    (h : (Dict.keys pushed.params).Nodup) : fromRow (toRow keepsZone pushed) = pushed := by
  simp [fromRow, toRow, JsonColumn.read_write h, DateColumn.read_write]

end PushedAuthorizationRow

/-! ## The table -/

/-- The store with its pushed requests in a table of rows. -/
structure Database where
  world : World
  rows : Table PushedAuthorizationRow.requestUri := .empty

namespace Database

open PushedAuthorizationRow

/-- A consumption does not touch the key. -/
theorem consumed_requestUri (row : PushedAuthorizationRow) :
    ({ row with isConsumed := true } : PushedAuthorizationRow).requestUri = row.requestUri := rfl

/-- `SQLPushedAuthorizationRepository`, and the rest of the store as it is. -/
def exec (ports : Ports) (keepsZone : Bool) : (c : Call) → Database → Reply c × Database
  | .findByRequestUri uri, s => ((s.rows.find uri).map fromRow, s)
  | .savePushed pushed, s => ((), { s with rows := s.rows.save (toRow keepsZone pushed) })
  | .consumePushed uri, s =>
      ((), { s with rows := s.rows.update uri ({ · with isConsumed := true }) consumed_requestUri })
  | .deletePushed uri, s => ((), { s with rows := s.rows.delete uri })
  | c, s => ((PurIdentityServer.exec ports c s.world).1,
      { s with world := (PurIdentityServer.exec ports c s.world).2 })

/-- The rows stand for the pushed requests of a memory store, the rest is the same. -/
structure Represents (s : Database) (w : World) : Prop where
  rows : ∀ uri, (s.rows.find uri).map fromRow = w.pushed.find uri
  world : { s.world with pushed := w.pushed } = w

/-- Any table of rows stands for the pushed requests of some memory store. -/
theorem represented (s : Database) : ∃ w, s.Represents w := by
  refine ⟨{ s.world with
    pushed := ⟨s.rows.rows.map fromRow, by rw [List.map_map]; exact s.rows.nodup⟩ }, ?_, rfl⟩
  intro uri
  show (s.rows.rows.find? _).map fromRow = (s.rows.rows.map fromRow).find? _
  rw [List.find?_map]
  rfl

/-- The parameters that are stored are a dictionary. -/
def Storable (c : Call) : Prop :=
  ∀ pushed, c = .savePushed pushed → (Dict.keys pushed.params).Nodup

theorem storable_of_area {c : Call} (h : c.area ≠ .pushed) : Storable c := by
  rintro pushed rfl
  exact absurd rfl h

/-- A call on the rest of the store does not look at the pushed requests. -/
theorem exec_frame (ports : Ports) {c : Call} (h : c.area ≠ .pushed) (w : World)
    (pushed : Table PushedAuthorization.requestUri) :
    PurIdentityServer.exec ports c { w with pushed := pushed } =
      ((PurIdentityServer.exec ports c w).1,
        { (PurIdentityServer.exec ports c w).2 with pushed := pushed }) := by
  cases c
  case findByRequestUri | savePushed | consumePushed | deletePushed => exact absurd rfl h
  all_goals rfl

/-- The table of rows answers a call as the memory store does. -/
theorem exec_represents (ports : Ports) (keepsZone : Bool) (c : Call) (s : Database) (w : World)
    (hc : Storable c) (h : s.Represents w) :
    (exec ports keepsZone c s).1 = (PurIdentityServer.exec ports c w).1 ∧
      (exec ports keepsZone c s).2.Represents (PurIdentityServer.exec ports c w).2 := by
  obtain ⟨hrows, hworld⟩ := h
  by_cases harea : c.area = .pushed
  · cases c
    case findByRequestUri uri => exact ⟨hrows uri, hrows, hworld⟩
    case savePushed pushed =>
      refine ⟨rfl, fun uri => ?_, congrArg (fun v : World =>
        { v with pushed := w.pushed.save pushed }) hworld⟩
      show ((s.rows.save (toRow keepsZone pushed)).find uri).map fromRow =
        (w.pushed.save pushed).find uri
      rw [Table.find_save, Table.find_save, ← hrows uri]
      show Option.map fromRow (if uri = pushed.requestUri then _ else _) = _
      split
      · exact congrArg some (fromRow_toRow keepsZone (hc pushed rfl))
      · rfl
    case consumePushed consumed =>
      refine ⟨rfl, fun uri => ?_, congrArg (fun v : World =>
        { v with pushed := (w.consumePushed consumed).pushed }) hworld⟩
      show ((s.rows.update consumed ({ · with isConsumed := true }) fun _ => rfl).find uri).map
        fromRow = (w.consumePushed consumed).pushed.find uri
      rw [World.consumePushed, Table.find_update, Table.find_update, ← hrows uri]
      split
      · cases s.rows.find uri <;> rfl
      · rfl
    case deletePushed deleted =>
      refine ⟨rfl, fun uri => ?_, congrArg (fun v : World =>
        { v with pushed := w.pushed.delete deleted }) hworld⟩
      show ((s.rows.delete deleted).find uri).map fromRow = (w.pushed.delete deleted).find uri
      rw [Table.find_delete, Table.find_delete, ← hrows uri]
      split <;> rfl
    all_goals cases harea
  · have hexec : exec ports keepsZone c s = ((PurIdentityServer.exec ports c s.world).1,
        { s with world := (PurIdentityServer.exec ports c s.world).2 }) := by
      cases c
      case findByRequestUri | savePushed | consumePushed | deletePushed => exact absurd rfl harea
      all_goals rfl
    have hframe := exec_frame ports harea s.world w.pushed
    rw [hworld] at hframe
    have hpushed : (PurIdentityServer.exec ports c w).2.pushed = w.pushed := by
      rw [hframe]
    rw [hexec]
    refine ⟨(congrArg Prod.fst hframe).symm, ?_, ?_⟩
    · intro uri
      rw [hpushed]
      exact hrows uri
    · rw [hpushed]
      exact (congrArg Prod.snd hframe).symm

/-- A program that stores dictionaries ends alike on the table and on the memory store. -/
theorem run_represents (ports : Ports) (keepsZone : Bool) {ε α : Type} {p : M ε α}
    (hp : p.Uses Storable) {s : Database} {w : World} (h : s.Represents w) :
    (p.run (exec ports keepsZone) s).1 = (p.run (PurIdentityServer.exec ports) w).1 ∧
      (p.run (exec ports keepsZone) s).2.Represents (p.run (PurIdentityServer.exec ports) w).2 :=
  run_simulates Represents (fun c s w => exec_represents ports keepsZone c s w) hp h

end Database

end PurIdentityServer
