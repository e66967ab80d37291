import PurIdentityServer.Infrastructure.GrantRows

/-!
# GrantStores — the SQL stores of the grants beside the memory stores

A sequence of calls on the stores of codes, refresh tokens, device
sessions, backchannel requests, pushed requests and consents is answered
twice: by the tables of `World`, as the memory repositories do, and by
tables of rows in a database, as the SQL repositories do. The rows always
are the memory tables row by row; the answers agree exactly along the
sequences in which the database takes every value and no two device
sessions share a user code.
-/

namespace PurIdentityServer

open Effects

/-! ## Calls -/

/-- The operations of the repositories of grants. -/
inductive GrantCall where
  | saveCode (row : AuthorizationCode)
  | findByCode (code : String)
  | consumeCode (code : String)
  | deleteCode (code : String)
  | saveRefreshToken (row : RefreshToken)
  | findByTokenHash (tokenHash : String)
  | consumeRefreshToken (tokenHash : String)
  | deleteRefreshToken (tokenHash : String)
  | saveDevice (row : DeviceAuthorization)
  | findByDeviceCodeHash (deviceCodeHash : String)
  | findByUserCode (userCode : String)
  | approveDevice (deviceCodeHash subject : String)
  | denyDevice (deviceCodeHash : String)
  | deleteDevice (deviceCodeHash : String)
  | saveBackchannel (row : BackchannelAuthenticationRequest)
  | findByAuthReqIdHash (authReqIdHash : String)
  | approveBackchannel (authReqIdHash : String)
  | denyBackchannel (authReqIdHash : String)
  | deleteBackchannel (authReqIdHash : String)
  /-- the parameters are a dictionary -/
  | savePushed (row : PushedAuthorization) (params : (Dict.keys row.params).Nodup)
  | findByRequestUri (requestUri : String)
  | consumePushed (requestUri : String)
  | deletePushed (requestUri : String)
  | saveConsent (row : Consent)
  | findConsent (subject clientId : String)
  | deleteConsent (subject clientId : String)

namespace GrantCall

@[reducible] def Answer : GrantCall → Type
  | .findByCode _ => Option AuthorizationCode
  | .findByTokenHash _ => Option RefreshToken
  | .findByDeviceCodeHash _ => Option DeviceAuthorization
  | .findByUserCode _ => Option DeviceAuthorization
  | .findByAuthReqIdHash _ => Option BackchannelAuthenticationRequest
  | .findByRequestUri _ => Option PushedAuthorization
  | .findConsent _ _ => Option Consent
  | _ => Unit

/-- The memory repositories. -/
def memory : (c : GrantCall) → World → c.Answer × World
  | .saveCode row, w => ((), { w with codes := w.codes.save row })
  | .findByCode code, w => (w.codes.find code, w)
  | .consumeCode code, w => ((), w.consumeCode code)
  | .deleteCode code, w => ((), { w with codes := w.codes.delete code })
  | .saveRefreshToken row, w => ((), { w with refreshTokens := w.refreshTokens.save row })
  | .findByTokenHash h, w => (w.refreshTokens.find h, w)
  | .consumeRefreshToken h, w => ((), w.consumeRefreshToken h)
  | .deleteRefreshToken h, w => ((), { w with refreshTokens := w.refreshTokens.delete h })
  | .saveDevice row, w => ((), { w with deviceCodes := w.deviceCodes.save row })
  | .findByDeviceCodeHash h, w => (w.deviceCodes.find h, w)
  | .findByUserCode code, w => ((w.deviceCodes.select fun d => d.userCode = code).head?, w)
  | .approveDevice h subject, w => ((), w.approveDevice h subject)
  | .denyDevice h, w => ((), w.denyDevice h)
  | .deleteDevice h, w => ((), { w with deviceCodes := w.deviceCodes.delete h })
  | .saveBackchannel row, w => ((), { w with backchannelAuth := w.backchannelAuth.save row })
  | .findByAuthReqIdHash h, w => (w.backchannelAuth.find h, w)
  | .approveBackchannel h, w => ((), w.approveBackchannel h)
  | .denyBackchannel h, w => ((), w.denyBackchannel h)
  | .deleteBackchannel h, w => ((), { w with backchannelAuth := w.backchannelAuth.delete h })
  | .savePushed row _, w => ((), { w with pushed := w.pushed.save row })
  | .findByRequestUri uri, w => (w.pushed.find uri, w)
  | .consumePushed uri, w => ((), w.consumePushed uri)
  | .deletePushed uri, w => ((), { w with pushed := w.pushed.delete uri })
  | .saveConsent row, w => ((), { w with consents := w.consents.save row })
  | .findConsent subject clientId, w => (w.consents.find (subject, clientId), w)
  | .deleteConsent subject clientId, w =>
      ((), { w with consents := w.consents.delete (subject, clientId) })

/-- The call of a use case, for the operations the use cases call. -/
def asCall : GrantCall → Option Call
  | .saveCode row => some (.saveCode row)
  | .findByCode code => some (.findByCode code)
  | .consumeCode code => some (.consumeCode code)
  | .saveRefreshToken row => some (.saveRefreshToken row)
  | .findByTokenHash h => some (.findByTokenHash h)
  | .consumeRefreshToken h => some (.consumeRefreshToken h)
  | .saveDevice row => some (.saveDevice row)
  | .findByDeviceCodeHash h => some (.findByDeviceCodeHash h)
  | .findByUserCode code => some (.findByUserCode code)
  | .approveDevice h subject => some (.approveDevice h subject)
  | .denyDevice h => some (.denyDevice h)
  | .deleteDevice h => some (.deleteDevice h)
  | .saveBackchannel row => some (.saveBackchannel row)
  | .findByAuthReqIdHash h => some (.findByAuthReqIdHash h)
  | .approveBackchannel h => some (.approveBackchannel h)
  | .denyBackchannel h => some (.denyBackchannel h)
  | .deleteBackchannel h => some (.deleteBackchannel h)
  | .savePushed row _ => some (.savePushed row)
  | .findByRequestUri uri => some (.findByRequestUri uri)
  | .consumePushed uri => some (.consumePushed uri)
  | .deletePushed uri => some (.deletePushed uri)
  | .saveConsent row => some (.saveConsent row)
  | .findConsent subject clientId => some (.findConsent subject clientId)
  | .deleteCode _ | .deleteRefreshToken _ | .deleteConsent _ _ => none

/-- The memory repositories are the store the use cases run on. -/
theorem exec_heq_memory (ports : Ports) {c : GrantCall} {call : Call} (h : c.asCall = some call)
    (w : World) : HEq (exec ports call w) (c.memory w) := by
  cases c <;> cases h <;> exact HEq.rfl

end GrantCall

/-! ## The tables of the database -/

structure GrantRows where
  codes : Table AuthorizationCodeRow.code := .empty
  refreshTokens : Table RefreshTokenRow.tokenHash := .empty
  deviceCodes : Table DeviceAuthorizationRow.deviceCodeHash := .empty
  backchannelAuth : Table BackchannelAuthenticationRow.authReqIdHash := .empty
  pushed : Table PushedAuthorizationRow.requestUri := .empty
  consents : Table (fun row : ConsentRow => (row.subject, row.clientId)) := .empty

namespace GrantRows

/-- The rows of the memory tables. -/
def ofWorld (keepsZone : Bool) (w : World) : GrantRows where
  codes := w.codes.map (AuthorizationCodeRow.toRow keepsZone)
    (AuthorizationCodeRow.code_toRow keepsZone)
  refreshTokens := w.refreshTokens.map (RefreshTokenRow.toRow keepsZone)
    (RefreshTokenRow.tokenHash_toRow keepsZone)
  deviceCodes := w.deviceCodes.map (DeviceAuthorizationRow.toRow keepsZone)
    (DeviceAuthorizationRow.deviceCodeHash_toRow keepsZone)
  backchannelAuth := w.backchannelAuth.map (BackchannelAuthenticationRow.toRow keepsZone)
    (BackchannelAuthenticationRow.authReqIdHash_toRow keepsZone)
  pushed := w.pushed.map (PushedAuthorizationRow.toRow keepsZone)
    (PushedAuthorizationRow.requestUri_toRow keepsZone)
  consents := w.consents.map (ConsentRow.toRow keepsZone)
    (ConsentRow.subject_clientId_toRow keepsZone)

end GrantRows

namespace Engine

variable (engine : Engine)

/-- `save` of the device repository: `user_code` is unique. -/
def saveDevice (row : DeviceAuthorizationRow) (rows : GrantRows) :
    Except SqlError (Unit × GrantRows) := do
  let deviceCodes ← engine.merge DeviceAuthorizationRow.columns rows.deviceCodes row
  (if rows.deviceCodes.rows.any fun other =>
      other.userCode = row.userCode ∧ other.deviceCodeHash ≠ row.deviceCodeHash then
    throw .integrityError
  else pure ())
  pure ((), { rows with deviceCodes })

/-- `find_by_user_code` -/
def findByUserCode (userCode : String) (rows : GrantRows) :
    Except SqlError (Option DeviceAuthorization) := do
  engine.take [.text userCode]
  let row ← scalarOneOrNone (rows.deviceCodes.select fun row => row.userCode = userCode)
  pure (row.map DeviceAuthorizationRow.fromRow)

/-- The SQL repositories. -/
def sql : (c : GrantCall) → GrantRows → Except SqlError (c.Answer × GrantRows)
  | .saveCode code, rows => do
      let codes ← engine.merge AuthorizationCodeRow.columns rows.codes
        (.toRow engine.keepsZone code)
      pure ((), { rows with codes })
  | .findByCode code, rows => do
      let row ← engine.get [.text code] rows.codes code
      pure (row.map AuthorizationCodeRow.fromRow, rows)
  | .consumeCode code, rows => do
      let codes ← engine.amend [.text code] [] rows.codes code ({ · with isConsumed := true })
        fun _ => rfl
      pure ((), { rows with codes })
  | .deleteCode code, rows => do
      let codes ← engine.remove [.text code] rows.codes code
      pure ((), { rows with codes })
  | .saveRefreshToken token, rows => do
      let refreshTokens ← engine.merge RefreshTokenRow.columns rows.refreshTokens
        (.toRow engine.keepsZone token)
      pure ((), { rows with refreshTokens })
  | .findByTokenHash h, rows => do
      let row ← engine.get [.text h] rows.refreshTokens h
      pure (row.map RefreshTokenRow.fromRow, rows)
  | .consumeRefreshToken h, rows => do
      let refreshTokens ← engine.amend [.text h] [] rows.refreshTokens h
        ({ · with isConsumed := true }) fun _ => rfl
      pure ((), { rows with refreshTokens })
  | .deleteRefreshToken h, rows => do
      let refreshTokens ← engine.remove [.text h] rows.refreshTokens h
      pure ((), { rows with refreshTokens })
  | .saveDevice session, rows => engine.saveDevice (.toRow engine.keepsZone session) rows
  | .findByDeviceCodeHash h, rows => do
      let row ← engine.get [.text h] rows.deviceCodes h
      pure (row.map DeviceAuthorizationRow.fromRow, rows)
  | .findByUserCode userCode, rows => do
      let session ← engine.findByUserCode userCode rows
      pure (session, rows)
  | .approveDevice h subject, rows => do
      let deviceCodes ← engine.amend [.text h]
        [.varchar 16 (StatusColumn.write .approved).value, .varchar 256 subject] rows.deviceCodes h
        ({ · with status := .write .approved, subject := subject }) fun _ => rfl
      pure ((), { rows with deviceCodes })
  | .denyDevice h, rows => do
      let deviceCodes ← engine.amend [.text h] [.varchar 16 (StatusColumn.write .denied).value]
        rows.deviceCodes h ({ · with status := .write .denied }) fun _ => rfl
      pure ((), { rows with deviceCodes })
  | .deleteDevice h, rows => do
      let deviceCodes ← engine.remove [.text h] rows.deviceCodes h
      pure ((), { rows with deviceCodes })
  | .saveBackchannel request, rows => do
      let backchannelAuth ← engine.merge BackchannelAuthenticationRow.columns rows.backchannelAuth
        (.toRow engine.keepsZone request)
      pure ((), { rows with backchannelAuth })
  | .findByAuthReqIdHash h, rows => do
      let row ← engine.get [.text h] rows.backchannelAuth h
      pure (row.map BackchannelAuthenticationRow.fromRow, rows)
  | .approveBackchannel h, rows => do
      let backchannelAuth ← engine.amend [.text h]
        [.varchar 16 (StatusColumn.write .approved).value] rows.backchannelAuth h
        ({ · with status := .write .approved }) fun _ => rfl
      pure ((), { rows with backchannelAuth })
  | .denyBackchannel h, rows => do
      let backchannelAuth ← engine.amend [.text h]
        [.varchar 16 (StatusColumn.write .denied).value] rows.backchannelAuth h
        ({ · with status := .write .denied }) fun _ => rfl
      pure ((), { rows with backchannelAuth })
  | .deleteBackchannel h, rows => do
      let backchannelAuth ← engine.remove [.text h] rows.backchannelAuth h
      pure ((), { rows with backchannelAuth })
  | .savePushed pushed _, rows => do
      let pushed ← engine.merge PushedAuthorizationRow.columns rows.pushed
        (.toRow engine.keepsZone pushed)
      pure ((), { rows with pushed })
  | .findByRequestUri uri, rows => do
      let row ← engine.get [.text uri] rows.pushed uri
      pure (row.map PushedAuthorizationRow.fromRow, rows)
  | .consumePushed uri, rows => do
      let pushed ← engine.amend [.text uri] [] rows.pushed uri ({ · with isConsumed := true })
        Database.consumed_requestUri
      pure ((), { rows with pushed })
  | .deletePushed uri, rows => do
      let pushed ← engine.remove [.text uri] rows.pushed uri
      pure ((), { rows with pushed })
  | .saveConsent consent, rows => do
      let consents ← engine.merge ConsentRow.columns rows.consents
        (.toRow engine.keepsZone consent)
      pure ((), { rows with consents })
  | .findConsent subject clientId, rows => do
      let row ← engine.get [.text subject, .text clientId] rows.consents (subject, clientId)
      pure (row.map ConsentRow.fromRow, rows)
  | .deleteConsent subject clientId, rows => do
      let consents ← engine.remove [.text subject, .text clientId] rows.consents
        (subject, clientId)
      pure ((), { rows with consents })

end Engine

/-! ## One call -/

namespace GrantCall

/-- The database takes the values the call sends, and the user code of a device session that is
saved is in no other session. -/
def Accepted (engine : Engine) (w : World) : GrantCall → Prop
  | .saveCode code => engine.Takes (AuthorizationCodeRow.toRow engine.keepsZone code).columns
  | .saveRefreshToken token => engine.Takes (RefreshTokenRow.toRow engine.keepsZone token).columns
  | .saveDevice session =>
      engine.Takes (DeviceAuthorizationRow.toRow engine.keepsZone session).columns ∧
        ∀ other ∈ w.deviceCodes.rows, other.userCode = session.userCode →
          other.deviceCodeHash = session.deviceCodeHash
  | .saveBackchannel request =>
      engine.Takes (BackchannelAuthenticationRow.toRow engine.keepsZone request).columns
  | .savePushed pushed _ =>
      engine.Takes (PushedAuthorizationRow.toRow engine.keepsZone pushed).columns
  | .saveConsent consent => engine.Takes (ConsentRow.toRow engine.keepsZone consent).columns
  | .approveDevice h subject =>
      engine.Takes [.text h] ∧ ((w.deviceCodes.find h).isSome →
        engine.Takes [.varchar 16 DecisionStatus.approved.value, .varchar 256 subject])
  | .denyDevice h =>
      engine.Takes [.text h] ∧ ((w.deviceCodes.find h).isSome →
        engine.Takes [.varchar 16 DecisionStatus.denied.value])
  | .approveBackchannel h =>
      engine.Takes [.text h] ∧ ((w.backchannelAuth.find h).isSome →
        engine.Takes [.varchar 16 DecisionStatus.approved.value])
  | .denyBackchannel h =>
      engine.Takes [.text h] ∧ ((w.backchannelAuth.find h).isSome →
        engine.Takes [.varchar 16 DecisionStatus.denied.value])
  | .findConsent subject clientId | .deleteConsent subject clientId =>
      engine.Takes [.text subject, .text clientId]
  | .findByCode key | .consumeCode key | .deleteCode key | .findByTokenHash key
  | .consumeRefreshToken key | .deleteRefreshToken key | .findByDeviceCodeHash key
  | .findByUserCode key | .deleteDevice key | .findByAuthReqIdHash key | .deleteBackchannel key
  | .findByRequestUri key | .consumePushed key | .deletePushed key => engine.Takes [.text key]

/-- What the calls keep: the parameters of the pushed requests are dictionaries, and the device
sessions have user codes of their own. -/
structure Regular (w : World) : Prop where
  dictionaries : ∀ pushed ∈ w.pushed.rows, (Dict.keys pushed.params).Nodup
  userCodes : ∀ session ∈ w.deviceCodes.rows, ∀ other ∈ w.deviceCodes.rows,
    session.userCode = other.userCode → session.deviceCodeHash = other.deviceCodeHash

end GrantCall

namespace Engine

open GrantCall

variable (engine : Engine)

@[simp] theorem takes_nil : engine.Takes [] := rfl

/-- A device session is saved when its values are taken and its user code is its own. -/
theorem saveDevice_ofWorld (session : DeviceAuthorization) (w : World) :
    engine.saveDevice (.toRow engine.keepsZone session) (.ofWorld engine.keepsZone w) =
      if engine.Takes (DeviceAuthorizationRow.toRow engine.keepsZone session).columns then
        if ∀ other ∈ w.deviceCodes.rows, other.userCode = session.userCode →
            other.deviceCodeHash = session.deviceCodeHash then
          .ok ((), .ofWorld engine.keepsZone { w with deviceCodes := w.deviceCodes.save session })
        else .error .integrityError
      else .error .dataError := by
  have hheld : ((GrantRows.ofWorld engine.keepsZone w).deviceCodes.rows.any fun other =>
      other.userCode = (DeviceAuthorizationRow.toRow engine.keepsZone session).userCode ∧
        other.deviceCodeHash ≠
          (DeviceAuthorizationRow.toRow engine.keepsZone session).deviceCodeHash) = true ↔
      ¬ ∀ other ∈ w.deviceCodes.rows, other.userCode = session.userCode →
        other.deviceCodeHash = session.deviceCodeHash := by
    show ((w.deviceCodes.rows.map (DeviceAuthorizationRow.toRow engine.keepsZone)).any _) = true ↔ _
    simp only [List.any_map, List.any_eq_true, Function.comp_apply, decide_eq_true_eq]
    push Not
    rfl
  rw [saveDevice, merge_eq]
  by_cases htakes : engine.Takes (DeviceAuthorizationRow.toRow engine.keepsZone session).columns
  · rw [if_pos htakes, if_pos htakes]
    by_cases hunique : ∀ other ∈ w.deviceCodes.rows, other.userCode = session.userCode →
        other.deviceCodeHash = session.deviceCodeHash
    · show ((if _ then _ else _ : Except SqlError Unit) >>= _) = _
      rw [if_neg fun h => hheld.mp h hunique, if_pos hunique]
      simp only [GrantRows.ofWorld, Table.map_save]
      rfl
    · show ((if _ then _ else _ : Except SqlError Unit) >>= _) = _
      rw [if_pos (hheld.mpr hunique), if_neg hunique]
      rfl
  · rw [if_neg htakes, if_neg htakes]
    rfl

/-- The device sessions have user codes of their own, so a lookup by user code finds one at most. -/
theorem findByUserCode_ofWorld {w : World} (hw : Regular w) (userCode : String) :
    engine.findByUserCode userCode (.ofWorld engine.keepsZone w) =
      if engine.Takes [.text userCode] then
        .ok (w.deviceCodes.select fun d => d.userCode = userCode).head?
      else .error .dataError := by
  have hselect : (GrantRows.ofWorld engine.keepsZone w).deviceCodes.select
      (fun row => row.userCode = userCode) =
      (w.deviceCodes.select fun d => d.userCode = userCode).map
        (DeviceAuthorizationRow.toRow engine.keepsZone) :=
    Table.select_map _ (DeviceAuthorizationRow.deviceCodeHash_toRow engine.keepsZone)
      w.deviceCodes fun _ => rfl
  have hone := w.deviceCodes.select_of_same_key (p := fun d => d.userCode = userCode)
    fun u hu v hv hpu hpv => hw.userCodes u hu v hv
      ((of_decide_eq_true hpu).trans (of_decide_eq_true hpv).symm)
  rw [hone, ← Option.toList_map] at hselect
  rw [findByUserCode, take_bind, hselect, scalarOneOrNone_toList]
  by_cases h : engine.Takes [.text userCode]
  · rw [if_pos h, if_pos h]
    have hid : DeviceAuthorizationRow.fromRow ∘ DeviceAuthorizationRow.toRow engine.keepsZone =
        id :=
      funext (DeviceAuthorizationRow.fromRow_toRow engine.keepsZone)
    show Except.ok (Option.map _ (Option.map _ _)) = _
    rw [Option.map_map, hid, Option.map_id]
    rfl
  · rw [if_neg h, if_neg h]

/-- A call that is accepted is answered by the rows as by the memory tables. -/
theorem sql_accepted {c : GrantCall} {w : World} (hw : Regular w) (h : c.Accepted engine w) :
    engine.sql c (.ofWorld engine.keepsZone w) =
      .ok ((c.memory w).1, .ofWorld engine.keepsZone (c.memory w).2) := by
  cases c
  case saveCode | saveRefreshToken | saveBackchannel | savePushed | saveConsent =>
    change engine.Takes _ at h
    simp only [sql, merge_eq, if_pos h, GrantRows.ofWorld, memory, Table.map_save]
    rfl
  case consumeCode code =>
    have hamend := engine.amend_map (AuthorizationCodeRow.code_toRow engine.keepsZone)
      w.codes
    rw [sql, GrantRows.ofWorld,
      hamend _ _ _ ({ · with isConsumed := true }) _ (fun _ => rfl) _ fun _ => rfl]
    rw [if_pos ⟨h, fun _ => engine.takes_nil⟩]
    rfl
  case consumeRefreshToken hash =>
    have hamend := engine.amend_map (RefreshTokenRow.tokenHash_toRow engine.keepsZone)
      w.refreshTokens
    rw [sql, GrantRows.ofWorld,
      hamend _ _ _ ({ · with isConsumed := true }) _ (fun _ => rfl) _ fun _ => rfl]
    rw [if_pos ⟨h, fun _ => engine.takes_nil⟩]
    rfl
  case consumePushed uri =>
    have hamend := engine.amend_map (PushedAuthorizationRow.requestUri_toRow engine.keepsZone)
      w.pushed
    rw [sql, GrantRows.ofWorld,
      hamend _ _ _ ({ · with isConsumed := true }) _ (fun _ => rfl) _ fun _ => rfl]
    rw [if_pos ⟨h, fun _ => engine.takes_nil⟩]
    rfl
  case approveDevice hash subject =>
    have hamend := engine.amend_map (DeviceAuthorizationRow.deviceCodeHash_toRow engine.keepsZone)
      w.deviceCodes
    rw [sql, GrantRows.ofWorld,
      hamend _ _ _ ({ · with status := .approved, subject := subject }) _ (fun _ => rfl) _ fun _ => rfl]
    rw [if_pos]
    · rfl
    · exact h
  case denyDevice hash =>
    have hamend := engine.amend_map (DeviceAuthorizationRow.deviceCodeHash_toRow engine.keepsZone)
      w.deviceCodes
    rw [sql, GrantRows.ofWorld,
      hamend _ _ _ ({ · with status := .denied }) _ (fun _ => rfl) _ fun _ => rfl]
    rw [if_pos]
    · rfl
    · exact h
  case approveBackchannel hash =>
    have hamend := engine.amend_map (BackchannelAuthenticationRow.authReqIdHash_toRow engine.keepsZone)
      w.backchannelAuth
    rw [sql, GrantRows.ofWorld,
      hamend _ _ _ ({ · with status := .approved }) _ (fun _ => rfl) _ fun _ => rfl]
    rw [if_pos]
    · rfl
    · exact h
  case denyBackchannel hash =>
    have hamend := engine.amend_map (BackchannelAuthenticationRow.authReqIdHash_toRow engine.keepsZone)
      w.backchannelAuth
    rw [sql, GrantRows.ofWorld,
      hamend _ _ _ ({ · with status := .denied }) _ (fun _ => rfl) _ fun _ => rfl]
    rw [if_pos]
    · rfl
    · exact h
  case findByCode =>
    change engine.Takes _ at h
    simp only [sql, get_eq, if_pos h]
    exact congrArg (fun row => Except.ok (row, GrantRows.ofWorld engine.keepsZone w))
      (Table.map_find_map _ (AuthorizationCodeRow.code_toRow engine.keepsZone)
        w.codes _ fun v _ => AuthorizationCodeRow.fromRow_toRow engine.keepsZone v)
  case findByTokenHash =>
    change engine.Takes _ at h
    simp only [sql, get_eq, if_pos h]
    exact congrArg (fun row => Except.ok (row, GrantRows.ofWorld engine.keepsZone w))
      (Table.map_find_map _ (RefreshTokenRow.tokenHash_toRow engine.keepsZone)
        w.refreshTokens _ fun v _ => RefreshTokenRow.fromRow_toRow engine.keepsZone v)
  case findByDeviceCodeHash =>
    change engine.Takes _ at h
    simp only [sql, get_eq, if_pos h]
    exact congrArg (fun row => Except.ok (row, GrantRows.ofWorld engine.keepsZone w))
      (Table.map_find_map _ (DeviceAuthorizationRow.deviceCodeHash_toRow engine.keepsZone)
        w.deviceCodes _ fun v _ => DeviceAuthorizationRow.fromRow_toRow engine.keepsZone v)
  case findByAuthReqIdHash =>
    change engine.Takes _ at h
    simp only [sql, get_eq, if_pos h]
    exact congrArg (fun row => Except.ok (row, GrantRows.ofWorld engine.keepsZone w))
      (Table.map_find_map _ (BackchannelAuthenticationRow.authReqIdHash_toRow engine.keepsZone)
        w.backchannelAuth _ fun v _ => BackchannelAuthenticationRow.fromRow_toRow engine.keepsZone v)
  case findConsent =>
    change engine.Takes _ at h
    simp only [sql, get_eq, if_pos h]
    exact congrArg (fun row => Except.ok (row, GrantRows.ofWorld engine.keepsZone w))
      (Table.map_find_map _ (ConsentRow.subject_clientId_toRow engine.keepsZone)
        w.consents _ fun v _ => ConsentRow.fromRow_toRow engine.keepsZone v)
  case findByRequestUri =>
    change engine.Takes _ at h
    simp only [sql, get_eq, if_pos h]
    exact congrArg (fun row => Except.ok (row, GrantRows.ofWorld engine.keepsZone w))
      (Table.map_find_map _ (PushedAuthorizationRow.requestUri_toRow engine.keepsZone)
        w.pushed _ fun v hv => PushedAuthorizationRow.fromRow_toRow engine.keepsZone (hw.dictionaries v hv))
  case deleteCode | deleteRefreshToken | deleteBackchannel | deleteDevice | deletePushed |
      deleteConsent =>
    change engine.Takes _ at h
    simp only [sql, remove_eq, if_pos h, GrantRows.ofWorld, memory, Table.map_delete]
    rfl
  case saveDevice session =>
    obtain ⟨htakes, hunique⟩ := h
    rw [sql, saveDevice_ofWorld, if_pos htakes, if_pos hunique]
    rfl
  case findByUserCode userCode =>
    change engine.Takes _ at h
    rw [sql, findByUserCode_ofWorld engine hw, if_pos h]
    rfl

/-- A call that is not accepted raises. -/
theorem sql_refused {c : GrantCall} {w : World} (hw : Regular w) (h : ¬ c.Accepted engine w) :
    ∃ error, engine.sql c (.ofWorld engine.keepsZone w) = .error error := by
  cases c
  case saveCode | saveRefreshToken | saveBackchannel | savePushed | saveConsent =>
    change ¬ engine.Takes _ at h
    rw [sql, merge_eq, if_neg h]
    exact ⟨_, rfl⟩
  case consumeCode | consumeRefreshToken | consumePushed =>
    change ¬ engine.Takes _ at h
    rw [sql, amend_eq, if_neg fun hc => h hc.1]
    exact ⟨_, rfl⟩
  case approveDevice | denyDevice | approveBackchannel | denyBackchannel =>
    rw [sql, amend_eq, GrantRows.ofWorld, Table.find_map, Option.isSome_map, if_neg]
    · exact ⟨_, rfl⟩
    · exact h
  case findByCode | findByTokenHash | findByDeviceCodeHash | findByAuthReqIdHash |
      findByRequestUri | findConsent =>
    change ¬ engine.Takes _ at h
    rw [sql, get_eq, if_neg h]
    exact ⟨_, rfl⟩
  case deleteCode | deleteRefreshToken | deleteBackchannel | deleteDevice | deletePushed |
      deleteConsent =>
    change ¬ engine.Takes _ at h
    rw [sql, remove_eq, if_neg h]
    exact ⟨_, rfl⟩
  case findByUserCode userCode =>
    change ¬ engine.Takes _ at h
    rw [sql, findByUserCode_ofWorld engine hw, if_neg h]
    exact ⟨_, rfl⟩
  case saveDevice session =>
    rw [sql, saveDevice_ofWorld]
    split
    · rename_i htakes
      rw [if_neg fun hunique => h ⟨htakes, hunique⟩]
      exact ⟨_, rfl⟩
    · exact ⟨_, rfl⟩

end Engine

namespace GrantCall

theorem regular_empty (moment : Instant) : Regular { clock := moment } where
  dictionaries := fun _ h => absurd h List.not_mem_nil
  userCodes := fun _ h => absurd h List.not_mem_nil

/-- Edits that leave the user codes and the hashes as they are keep them apart. -/
theorem Regular.update_deviceCodes {w : World} (hw : Regular w) (hash : String)
    {edit : DeviceAuthorization → DeviceAuthorization}
    (hedit : ∀ d, (edit d).deviceCodeHash = d.deviceCodeHash)
    (hcode : ∀ d, (edit d).userCode = d.userCode) :
    Regular { w with deviceCodes := w.deviceCodes.update hash edit hedit } where
  dictionaries := hw.dictionaries
  userCodes := by
    have hrow : ∀ d ∈ (w.deviceCodes.update hash edit hedit).rows, ∃ d' ∈ w.deviceCodes.rows,
        d.userCode = d'.userCode ∧ d.deviceCodeHash = d'.deviceCodeHash := by
      intro d hd
      obtain ⟨d', hd', rfl⟩ := List.mem_map.mp hd
      refine ⟨d', hd', ?_⟩
      split
      · exact ⟨hcode d', hedit d'⟩
      · exact ⟨rfl, rfl⟩
    intro session hsession other hother h
    obtain ⟨session', hs, hscode, hshash⟩ := hrow session hsession
    obtain ⟨other', ho, hocode, hohash⟩ := hrow other hother
    rw [hshash, hohash]
    exact hw.userCodes session' hs other' ho (hscode ▸ hocode ▸ h)

theorem Regular.update_pushed {w : World} (hw : Regular w) (uri : String) :
    Regular (w.consumePushed uri) where
  dictionaries := by
    intro pushed hpushed
    obtain ⟨pushed', h, rfl⟩ := List.mem_map.mp hpushed
    have hparams := hw.dictionaries pushed' h
    split <;> exact hparams
  userCodes := hw.userCodes

/-- A call that is accepted keeps the tables regular. -/
theorem regular_memory (engine : Engine) {c : GrantCall} {w : World} (hw : Regular w)
    (h : c.Accepted engine w) : Regular (c.memory w).2 := by
  cases c
  case saveDevice saved =>
    refine ⟨hw.dictionaries, ?_⟩
    intro session hsession other hother hcode
    rcases Table.mem_save hsession with rfl | hs <;> rcases Table.mem_save hother with rfl | ho
    · rfl
    · exact (h.2 other ho hcode.symm).symm
    · exact h.2 session hs hcode
    · exact hw.userCodes session hs other ho hcode
  case approveDevice => exact hw.update_deviceCodes _ _ fun _ => rfl
  case denyDevice => exact hw.update_deviceCodes _ _ fun _ => rfl
  case deleteDevice =>
    refine ⟨hw.dictionaries, ?_⟩
    intro session hsession other hother
    exact hw.userCodes session (List.mem_filter.mp hsession).1 other (List.mem_filter.mp hother).1
  case savePushed saved hparams =>
    refine ⟨?_, hw.userCodes⟩
    intro pushed hpushed
    rcases Table.mem_save hpushed with rfl | hp
    · exact hparams
    · exact hw.dictionaries pushed hp
  case consumePushed => exact hw.update_pushed _
  case deletePushed =>
    exact ⟨fun pushed hp => hw.dictionaries pushed (List.mem_filter.mp hp).1, hw.userCodes⟩
  all_goals exact ⟨hw.dictionaries, hw.userCodes⟩

/-! ## A sequence of calls -/

/-- Along the calls, the database answers what the memory repositories answer and never raises. -/
def AnswersAgree (engine : Engine) : List GrantCall → World → GrantRows → Prop
  | [], _, _ => True
  | c :: calls, w, rows =>
      ∃ rows', engine.sql c rows = .ok ((c.memory w).1, rows') ∧
        AnswersAgree engine calls (c.memory w).2 rows'

/-- Along the calls, the database takes every value and the user codes are apart. -/
def AllAccepted (engine : Engine) : List GrantCall → World → Prop
  | [], _ => True
  | c :: calls, w => c.Accepted engine w ∧ AllAccepted engine calls (c.memory w).2

/-- From regular tables and their rows, the answers agree exactly along the sequences that are
accepted. -/
theorem answersAgree_ofWorld (engine : Engine) (calls : List GrantCall) {w : World}
    (hw : Regular w) :
    AnswersAgree engine calls w (.ofWorld engine.keepsZone w) ↔ AllAccepted engine calls w := by
  induction calls generalizing w with
  | nil => exact Iff.rfl
  | cons c calls ih =>
      by_cases h : c.Accepted engine w
      · have hsql := engine.sql_accepted hw h
        have hrest := ih (regular_memory engine hw h)
        constructor
        · rintro ⟨rows', hanswer, hagree⟩
          cases hsql.symm.trans hanswer
          exact ⟨h, hrest.mp hagree⟩
        · intro haccept
          exact ⟨_, hsql, hrest.mpr haccept.2⟩
      · obtain ⟨error, hsql⟩ := engine.sql_refused hw h
        refine ⟨?_, fun haccept => absurd haccept.1 h⟩
        rintro ⟨rows', hanswer, -⟩
        rw [hsql] at hanswer
        cases hanswer

/-- The SQL stores of the grants answer every sequence of calls as the memory stores do, exactly
when the database takes every value that is sent and no device session is saved under the user
code of another. -/
theorem grantStores_agree (engine : Engine) (calls : List GrantCall) (moment : Instant) :
    AnswersAgree engine calls { clock := moment } {} ↔
      AllAccepted engine calls { clock := moment } :=
  answersAgree_ofWorld engine calls (regular_empty moment)

namespace Sample

def session (deviceCodeHash : String) : DeviceAuthorization where
  deviceCodeHash := deviceCodeHash
  userCode := "BCDFGHJK"
  clientId := "tv"
  expiresAt := 600

def code : AuthorizationCode where
  code := "code"
  nonce := String.ofList (List.replicate 257 'n')
  expiresAt := 600

end Sample

/-- A second device session is given the user code of the first, which no database takes; and
a nonce longer than its column is issued, which PostgreSQL does not take. -/
theorem answers_differ :
    ¬ AnswersAgree .sqlite
        [.saveDevice (Sample.session "first"), .saveDevice (Sample.session "second")]
        { clock := 0 } {} ∧
      ¬ AnswersAgree .postgresql [.saveCode Sample.code] { clock := 0 } {} := by
  constructor
  · intro hagree
    have haccept := (answersAgree_ofWorld .sqlite _ (regular_empty 0)).mp hagree
    have hsame := haccept.2.1.2 _ (List.mem_singleton_self _) rfl
    exact absurd hsame (by decide)
  · intro hagree
    have haccept := (answersAgree_ofWorld .postgresql _ (regular_empty 0)).mp hagree
    have hnonce : Column.varchar 256 Sample.code.nonce ∈
        (AuthorizationCodeRow.toRow true Sample.code).columns := by
      simp [AuthorizationCodeRow.columns, AuthorizationCodeRow.toRow]
    have hlength : Sample.code.nonce.length = 257 := by
      rw [Sample.code, String.length_ofList, List.length_replicate]
    have htakes : Engine.postgresql.Takes
        (AuthorizationCodeRow.toRow true Sample.code).columns := haccept.1
    have hfits := (Engine.postgresql_varchar.mp (List.all_eq_true.mp htakes _ hnonce)).1
    rw [hlength] at hfits
    exact absurd hfits (by decide)

end GrantCall

end PurIdentityServer
