import Mathlib.Data.List.Forall2
import PurIdentityServer.Infrastructure.ClientRows

/-!
# ClientStores — the SQL registry of clients beside the memory registry

A sequence of calls on the registry of clients is answered by the table of
`World`, as the memory repository does, and by a table of rows, as the SQL
repository does. The rows always are the clients row by row; an answer
differs exactly when it has a client that is not read back as it was.
-/

namespace PurIdentityServer

open Effects

/-- A database, with the order in which a query without `ORDER BY` gives the rows. -/
structure ScanEngine extends Engine where
  scan : List ClientRow → List ClientRow
  scan_perm : ∀ rows, (scan rows).Perm rows

inductive ClientCall where
  | save (client : Client)
  | findById (clientId : String)
  | findAll
  | delete (clientId : String)

namespace ClientCall

@[reducible] def Answer : ClientCall → Type
  | .findById _ => Option Client
  | .findAll => List Client
  | _ => Unit

/-- `InMemoryClientRepository` -/
def memory : (c : ClientCall) → World → c.Answer × World
  | .save client, w => ((), { w with clients := w.clients.save client })
  | .findById clientId, w => (w.clients.find clientId, w)
  | .findAll, w => (w.clients.rows, w)
  | .delete clientId, w => ((), { w with clients := w.clients.delete clientId })

/-- The registry the use cases read is the memory repository, the federated parties apart. -/
theorem findClient_eq_memory (ports : Ports) {w : World} {clientId : String} {client : Client}
    (h : (memory (.findById clientId) w).1 = some client) :
    (exec ports (.findClient clientId) w).1 = some client := by
  show World.findClient ports w clientId = some client
  unfold World.findClient
  have hfind : w.clients.find clientId = some client := h
  rw [hfind]

/-- `SQLClientRepository` -/
def sql (engine : ScanEngine) : (c : ClientCall) → Table ClientRow.clientId →
    Except SqlError (c.Answer × Table ClientRow.clientId)
  | .save client, rows => do
      let rows ← engine.merge ClientRow.columns rows (.toRow engine.keepsZone client)
      pure ((), rows)
  | .findById clientId, rows => do
      let row ← engine.get [.text clientId] rows clientId
      pure (row.map ClientRow.fromRow, rows)
  | .findAll, rows => pure ((engine.scan rows.rows).map ClientRow.fromRow, rows)
  | .delete clientId, rows => do
      let rows ← engine.remove [.text clientId] rows clientId
      pure ((), rows)

/-- The two answers to a call are equal; that of `find_all` up to the order of the clients. -/
def SameAnswer : (c : ClientCall) → c.Answer → c.Answer → Prop
  | .findById _, found, found' => Option.Rel Client.Same found found'
  | .findAll, clients, clients' =>
      ∃ ordered, ordered.Perm clients' ∧ List.Forall₂ Client.Same clients ordered
  | .save _, _, _ | .delete _, _, _ => True

/-! ## One call -/

/-- The rows of the clients. -/
def rowsOf (keepsZone : Bool) (w : World) : Table ClientRow.clientId :=
  w.clients.map (ClientRow.toRow keepsZone) (ClientRow.clientId_toRow keepsZone)

/-- The database takes the values the call sends, and the clients it reads are kept. -/
def Preserved (engine : ScanEngine) (w : World) : ClientCall → Prop
  | .save client => engine.Takes (ClientRow.toRow engine.keepsZone client).columns
  | .findById clientId => engine.Takes [.text clientId] ∧
      ∀ client, w.clients.find clientId = some client → client.Kept engine.keepsZone
  | .findAll => ∀ client ∈ w.clients.rows, client.Kept engine.keepsZone
  | .delete clientId => engine.Takes [.text clientId]

variable (engine : ScanEngine) (w : World)

/-- What a lookup of a client gives back is the client exactly when it is kept. -/
theorem rel_map_fromRow (found : Option Client) :
    Option.Rel Client.Same found
        ((found.map (ClientRow.toRow engine.keepsZone)).map ClientRow.fromRow) ↔
      ∀ client, found = some client → client.Kept engine.keepsZone := by
  cases found with
  | none =>
      constructor
      · intro _ client h
        cases h
      · intro _
        exact .none
  | some client =>
      constructor
      · intro h
        cases h with
        | some hsame =>
            rintro _ ⟨⟩
            exact (Client.same_fromRow_toRow_iff engine.keepsZone client).mp hsame
      · intro h
        exact .some ((Client.same_fromRow_toRow_iff engine.keepsZone client).mpr (h client rfl))

/-- A client among those read back that equals a stored one is that one read back. -/
theorem read_of_same {client stored : Client} (hstored : stored ∈ w.clients.rows)
    (hclient : client ∈ w.clients.rows)
    (h : client.Same (ClientRow.fromRow (.toRow engine.keepsZone stored))) : stored = client := by
  have hid := congrArg Client.clientId h.2
  exact List.inj_on_of_nodup_map w.clients.nodup hstored hclient (Eq.symm hid)

/-- Each of the first has its match among the second. -/
theorem exists_match {α β : Type} {R : α → β → Prop} {l : List α} {l' : List β}
    (h : List.Forall₂ R l l') : ∀ a ∈ l, ∃ b ∈ l', R a b := by
  induction h with
  | nil => exact fun _ ha => absurd ha List.not_mem_nil
  | cons hab _ ih =>
      intro c hc
      rcases List.mem_cons.mp hc with rfl | hc
      · exact ⟨_, List.mem_cons_self, hab⟩
      · obtain ⟨b, hb, hR⟩ := ih c hc
        exact ⟨b, List.mem_cons_of_mem _ hb, hR⟩

/-- All the clients are given, in some order, exactly when each is kept. -/
theorem findAll_iff :
    SameAnswer .findAll w.clients.rows
        ((engine.scan (rowsOf engine.keepsZone w).rows).map ClientRow.fromRow) ↔
      ∀ client ∈ w.clients.rows, client.Kept engine.keepsZone := by
  have hperm : ((engine.scan (rowsOf engine.keepsZone w).rows).map ClientRow.fromRow).Perm
      (w.clients.rows.map fun c => ClientRow.fromRow (.toRow engine.keepsZone c)) := by
    have hscan := (engine.scan_perm (rowsOf engine.keepsZone w).rows).map ClientRow.fromRow
    rwa [rowsOf, Table.map, List.map_map] at hscan
  constructor
  · rintro ⟨ordered, hordered, hsame⟩ client hclient
    obtain ⟨other, hother, h⟩ := exists_match hsame client hclient
    obtain ⟨stored, hstored, rfl⟩ := List.mem_map.mp ((hordered.trans hperm).mem_iff.mp hother)
    rw [read_of_same engine w hstored hclient h] at h
    exact (Client.same_fromRow_toRow_iff engine.keepsZone client).mp h
  · intro hkept
    refine ⟨_, hperm.symm, ?_⟩
    rw [List.forall₂_map_right_iff, List.forall₂_same]
    intro client hclient
    exact (Client.same_fromRow_toRow_iff engine.keepsZone client).mpr (hkept client hclient)

/-- The database answers a call as the memory registry does exactly when the call is preserved,
and its rows stay the clients. -/
theorem sql_iff (c : ClientCall) :
    (∃ answer rows', c.sql engine (rowsOf engine.keepsZone w) = .ok (answer, rows') ∧
        SameAnswer c (c.memory w).1 answer) ↔ c.Preserved engine w := by
  cases c with
  | save client =>
      simp only [sql, Engine.merge_eq, Preserved]
      split
      · rename_i htakes
        exact ⟨fun _ => htakes, fun _ => ⟨(), _, rfl, trivial⟩⟩
      · rename_i hrefused
        refine ⟨?_, fun h => absurd h hrefused⟩
        rintro ⟨_, _, hsql, _⟩
        cases hsql
  | findById clientId =>
      simp only [sql, Engine.get_eq, Preserved]
      split
      · rename_i htakes
        have hrel := rel_map_fromRow engine (w.clients.find clientId)
        rw [rowsOf, Table.find_map]
        constructor
        · rintro ⟨answer, rows', hsql, hsame⟩
          cases hsql
          exact ⟨htakes, hrel.mp hsame⟩
        · intro h
          exact ⟨_, _, rfl, hrel.mpr h.2⟩
      · rename_i hrefused
        refine ⟨?_, fun h => absurd h.1 hrefused⟩
        rintro ⟨_, _, hsql, _⟩
        cases hsql
  | findAll =>
      constructor
      · rintro ⟨answer, rows', hsql, hsame⟩
        cases hsql
        exact (findAll_iff engine w).mp hsame
      · intro h
        exact ⟨_, _, rfl, (findAll_iff engine w).mpr h⟩
  | delete clientId =>
      simp only [sql, Engine.remove_eq, Preserved]
      split
      · rename_i htakes
        exact ⟨fun _ => htakes, fun _ => ⟨(), _, rfl, trivial⟩⟩
      · rename_i hrefused
        refine ⟨?_, fun h => absurd h hrefused⟩
        rintro ⟨_, _, hsql, _⟩
        cases hsql

/-- After a call that the database answers, the rows are those of the clients. -/
theorem sql_rowsOf {c : ClientCall} {answer : c.Answer} {rows' : Table ClientRow.clientId}
    (h : c.sql engine (rowsOf engine.keepsZone w) = .ok (answer, rows')) :
    rows' = rowsOf engine.keepsZone (c.memory w).2 := by
  cases c with
  | save client =>
      simp only [sql, Engine.merge_eq] at h
      split at h
      · cases h
        exact (Table.map_save _ (ClientRow.clientId_toRow _) w.clients client).symm
      · cases h
  | findById clientId =>
      simp only [sql, Engine.get_eq] at h
      split at h <;> cases h
      rfl
  | findAll =>
      cases h
      rfl
  | delete clientId =>
      simp only [sql, Engine.remove_eq] at h
      split at h
      · cases h
        exact (Table.map_delete _ (ClientRow.clientId_toRow _) w.clients clientId).symm
      · cases h

/-! ## A sequence of calls -/

/-- Along the calls, the database answers what the memory registry answers and never raises. -/
def AnswersAgree (engine : ScanEngine) : List ClientCall → World → Table ClientRow.clientId → Prop
  | [], _, _ => True
  | c :: calls, w, rows =>
      ∃ answer rows', c.sql engine rows = .ok (answer, rows') ∧
        SameAnswer c (c.memory w).1 answer ∧ AnswersAgree engine calls (c.memory w).2 rows'

/-- Along the calls, the database takes every value and the clients it reads are kept. -/
def AllPreserved (engine : ScanEngine) : List ClientCall → World → Prop
  | [], _ => True
  | c :: calls, w => c.Preserved engine w ∧ AllPreserved engine calls (c.memory w).2

theorem answersAgree_rowsOf (calls : List ClientCall) :
    AnswersAgree engine calls w (rowsOf engine.keepsZone w) ↔ AllPreserved engine calls w := by
  induction calls generalizing w with
  | nil => exact Iff.rfl
  | cons c calls ih =>
      constructor
      · rintro ⟨answer, rows', hsql, hsame, hagree⟩
        refine ⟨(sql_iff engine w c).mp ⟨answer, rows', hsql, hsame⟩, ?_⟩
        rw [sql_rowsOf engine w hsql] at hagree
        exact (ih (c.memory w).2).mp hagree
      · rintro ⟨hpreserved, hall⟩
        obtain ⟨answer, rows', hsql, hsame⟩ := (sql_iff engine w c).mpr hpreserved
        refine ⟨answer, rows', hsql, hsame, ?_⟩
        rw [sql_rowsOf engine w hsql]
        exact (ih (c.memory w).2).mpr hall

/-- The client as it is read back after it was saved. -/
def readBack (engine : ScanEngine) (client : Client) (rows : Table ClientRow.clientId) :
    Except SqlError (Option Client) := do
  let saved ← sql engine (.save client) rows
  let found ← sql engine (.findById client.clientId) saved.2
  pure found.1

/-- A client that is saved is read back as it was exactly when the database takes its values and
it is kept. -/
theorem readBack_iff (client : Client) (rows : Table ClientRow.clientId) :
    (∃ found, readBack engine client rows = .ok (some found) ∧ client.Same found) ↔
      engine.Takes (ClientRow.toRow engine.keepsZone client).columns ∧
        engine.Takes [.text client.clientId] ∧ client.Kept engine.keepsZone := by
  have hfind : (rows.save (.toRow engine.keepsZone client)).find client.clientId =
      some (.toRow engine.keepsZone client) :=
    Table.find_save_self rows (ClientRow.toRow engine.keepsZone client)
  by_cases htakes : engine.Takes (ClientRow.toRow engine.keepsZone client).columns
  · by_cases hkey : engine.Takes [.text client.clientId]
    · have hread : readBack engine client rows =
          .ok (some (ClientRow.fromRow (.toRow engine.keepsZone client))) := by
        simp only [readBack, sql, Engine.merge_eq, Engine.get_eq, if_pos htakes, if_pos hkey]
        show Except.ok (Option.map ClientRow.fromRow
          ((rows.save (.toRow engine.keepsZone client)).find client.clientId)) = _
        rw [hfind]
        rfl
      rw [hread, ← Client.same_fromRow_toRow_iff engine.keepsZone client]
      constructor
      · rintro ⟨found, hfound, hsame⟩
        cases hfound
        exact ⟨htakes, hkey, hsame⟩
      · rintro ⟨-, -, hsame⟩
        exact ⟨_, rfl, hsame⟩
    · have hread : readBack engine client rows = .error .dataError := by
        simp only [readBack, sql, Engine.merge_eq, Engine.get_eq, if_pos htakes, if_neg hkey]
        rfl
      rw [hread]
      refine ⟨?_, fun h => absurd h.2.1 hkey⟩
      rintro ⟨found, hfound, -⟩
      cases hfound
  · have hread : readBack engine client rows = .error .dataError := by
      simp only [readBack, sql, Engine.merge_eq, if_neg htakes]
      rfl
    rw [hread]
    refine ⟨?_, fun h => absurd h.1 htakes⟩
    rintro ⟨found, hfound, -⟩
    cases hfound

/-- A client that is saved is read back as it was, and the database answers a sequence of calls
as the memory registry does, exactly when the database takes the values that are sent and the
clients that are read have nothing a row does not keep. -/
theorem clientStores_agree (engine : ScanEngine) :
    (∀ client rows, (∃ found, readBack engine client rows = .ok (some found) ∧
        client.Same found) ↔
      engine.Takes (ClientRow.toRow engine.keepsZone client).columns ∧
        engine.Takes [.text client.clientId] ∧ client.Kept engine.keepsZone) ∧
      ∀ calls moment, AnswersAgree engine calls { clock := moment } .empty ↔
        AllPreserved engine calls { clock := moment } :=
  ⟨readBack_iff engine, fun calls moment => answersAgree_rowsOf engine { clock := moment } calls⟩

namespace Sample

/-- SQLite gives the rows in the order of their insertion. -/
def sqlite : ScanEngine where
  toEngine := .sqlite
  scan := id
  scan_perm := fun _ => .refl _

/-- A client with a password policy of its own, whose users answer with a code. -/
def client : Client where
  clientId := "bank"
  clientType := .confidential
  backchannelUserCodeParameter := true
  passwordPolicy := { minLength := some 16 }

end Sample

/-- The two security settings of the client are dropped. -/
theorem settings_dropped :
    ¬ ∃ found, readBack Sample.sqlite Sample.client .empty = .ok (some found) ∧
      Sample.client.Same found := by
  intro h
  have hkept := ((readBack_iff Sample.sqlite Sample.client .empty).mp h).2.2
  exact absurd hkept.2.1 (by decide)

end ClientCall

end PurIdentityServer
