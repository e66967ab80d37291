import PurIdentityServer.Concurrency.Traffic

/-!
# Sessions — device and backchannel sessions under concurrency

Clients poll a session while users decide it. A poll writes back a whole
row built from what it read, and a decision is a test followed by an
update, so each may overwrite what happened in between.

Both record families are seen through the same window: `Session`, the
status and the subject of a row, and `SessionEdit`, what one call does to
it. Decisions stand as long as no write is overtaken; tokens are issued
once as long as no deletion is.
-/

namespace PurIdentityServer

open Effects

variable {ι : Type} [DecidableEq ι]

/-! ## One session -/

/-- The status and the subject of a session; `none` without a row. -/
abbrev Session := Option (DecisionStatus × String)

/-- What a call does to one session. -/
inductive SessionEdit where
  | keep
  | write (status : DecisionStatus) (subject : String)
  /-- a backchannel approval leaves the subject -/
  | approve (subject : Option String)
  | deny
  | delete
  deriving DecidableEq, Repr

def SessionEdit.apply : SessionEdit → Session → Session
  | .keep, x => x
  | .write status subject, _ => some (status, subject)
  | .approve subject, x => x.map fun s => (.approved, subject.getD s.2)
  | .deny, x => x.map fun s => (.denied, s.2)
  | .delete, _ => none

/-- `y` comes after `x`: a decision stands, and a deleted row stays
deleted. -/
def Stands : Session → Session → Prop
  | none, y => y = none
  | some (.pending, _), _ => True
  | some (.approved, subject), y => y = none ∨ y = some (.approved, subject)
  | some (.denied, subject), y => y = none ∨ y = some (.denied, subject)

theorem Stands.refl (x : Session) : Stands x x := by
  rcases x with _ | ⟨status, subject⟩
  · rfl
  · cases status
    case pending => trivial
    all_goals exact .inr rfl

theorem Stands.none (x : Session) : Stands x none := by
  rcases x with _ | ⟨status, subject⟩
  · rfl
  · cases status
    case pending => trivial
    all_goals exact .inl rfl

theorem Stands.trans {x y z : Session} (h : Stands x y) (h' : Stands y z) : Stands x z := by
  rcases x with _ | ⟨status, subject⟩
  · subst h
    exact h'
  · cases status
    case pending => trivial
    all_goals
      rcases h with rfl | rfl
      · exact .inl h'
      · exact h'

/-! ## The two record families -/

inductive Family where
  | device | ciba
  deriving DecidableEq, Repr

namespace Family

/-- The calls on the rows of the family. -/
def area : Family → Area
  | .device => .devices
  | .ciba => .backchannel

def session : Family → World → String → Session
  | .device, w, key => (w.deviceCodes.find key).map fun row => (row.status, row.subject)
  | .ciba, w, key => (w.backchannelAuth.find key).map fun row => (row.status, row.subject)

/-- What the call does to the session of the key. -/
def edit : Family → String → Call → SessionEdit
  | .device, key, .saveDevice row =>
      if row.deviceCodeHash = key then .write row.status row.subject else .keep
  | .device, key, .approveDevice h subject =>
      if h = key then .approve (some subject) else .keep
  | .device, key, .denyDevice h => if h = key then .deny else .keep
  | .device, key, .deleteDevice h => if h = key then .delete else .keep
  | .ciba, key, .saveBackchannel row =>
      if row.authReqIdHash = key then .write row.status row.subject else .keep
  | .ciba, key, .approveBackchannel h => if h = key then .approve none else .keep
  | .ciba, key, .denyBackchannel h => if h = key then .deny else .keep
  | .ciba, key, .deleteBackchannel h => if h = key then .delete else .keep
  | _, _, _ => .keep

/-- The call may return the row of the key. -/
def reads : Family → String → Call → Bool
  | .device, key, .findByDeviceCodeHash h => h = key
  | .device, _, .findByUserCode _ => true
  | .ciba, key, .findByAuthReqIdHash h => h = key
  | _, _, _ => false

/-- A lookup by digest answers with a row of that digest. -/
def keyed : (c : Call) → Reply c → Prop
  | .findByDeviceCodeHash h => fun r : Option DeviceAuthorization =>
      ∀ row, r = some row → row.deviceCodeHash = h
  | .findByAuthReqIdHash h => fun r : Option BackchannelAuthenticationRequest =>
      ∀ row, r = some row → row.authReqIdHash = h
  | _ => fun _ => True

theorem keyed_exec (ports : Ports) (c : Call) (w : World) : keyed c (exec ports c w).1 := by
  cases c
  case findByDeviceCodeHash => exact fun row hrow => Table.find_key hrow
  case findByAuthReqIdHash => exact fun row hrow => Table.find_key hrow
  all_goals trivial

theorem edit_of_area {f : Family} {key : String} {c : Call} (h : c.area ≠ f.area) :
    f.edit key c = .keep := by
  cases f <;> cases c <;> first | rfl | exact absurd rfl h

/-- What one call does to one session. -/
theorem session_exec (f : Family) (ports : Ports) (c : Call) (w : World) (key : String) :
    f.session (exec ports c w).2 key = (f.edit key c).apply (f.session w key) := by
  cases f
  case device =>
      simp only [session]
      rw [exec_deviceCodes]
      cases c
      case saveDevice row =>
          simp only [edit, Table.find_save, eq_comm (a := key)]
          split <;> rfl
      case approveDevice h subject =>
          simp only [edit, World.approveDevice, Table.find_update, eq_comm (a := key)]
          split
          · simp [SessionEdit.apply, Function.comp_def]
          · rfl
      case denyDevice h =>
          simp only [edit, World.denyDevice, Table.find_update, eq_comm (a := key)]
          split
          · simp [SessionEdit.apply, Function.comp_def]
          · rfl
      case deleteDevice h =>
          simp only [edit, Table.find_delete, eq_comm (a := key)]
          split <;> rfl
      all_goals rfl
  case ciba =>
      simp only [session]
      rw [exec_backchannelAuth]
      cases c
      case saveBackchannel row =>
          simp only [edit, Table.find_save, eq_comm (a := key)]
          split <;> rfl
      case approveBackchannel h =>
          simp only [edit, World.approveBackchannel, Table.find_update, eq_comm (a := key)]
          split
          · simp [SessionEdit.apply, Function.comp_def]
          · rfl
      case denyBackchannel h =>
          simp only [edit, World.denyBackchannel, Table.find_update, eq_comm (a := key)]
          split
          · simp [SessionEdit.apply, Function.comp_def]
          · rfl
      case deleteBackchannel h =>
          simp only [edit, Table.find_delete, eq_comm (a := key)]
          split <;> rfl
      all_goals rfl

/-! ## Requests only write what they read as pending -/

/-- The reply is the row of the key, read while pending. -/
def readsPending : Family → String → (c : Call) → Reply c → Bool
  | .device, key, .findByDeviceCodeHash _ => fun r : Option DeviceAuthorization =>
      r.any fun row => row.deviceCodeHash = key && row.status = .pending
  | .device, key, .findByUserCode _ => fun r : Option DeviceAuthorization =>
      r.any fun row => row.deviceCodeHash = key && row.status = .pending
  | .ciba, key, .findByAuthReqIdHash _ => fun r : Option BackchannelAuthenticationRequest =>
      r.any fun row => row.authReqIdHash = key && row.status = .pending
  | _, _, _ => fun _ => false

/-- The ghost says whether the request read the row of the key while it
was pending; without that it may only delete it. -/
def pendingMonitor (f : Family) (key : String) : Monitor Call Reply Bool where
  good := fun _ c => keyed c
  ok := fun seen c => f.edit key c = .keep ∨ f.edit key c = .delete ∨ seen = true
  next := fun seen c r => seen || f.readsPending key c r

theorem safe_of_area {f : Family} {key : String} {ε α : Type} {l : List Area} {p : M ε α}
    (hp : p.Uses (Call.In l)) (hl : l.contains f.area = false) :
    Safe (pendingMonitor f key) p := by
  refine safe_of_uses hp fun seen c hc => .inl (edit_of_area ?_)
  intro harea
  unfold Call.In at hc
  rw [harea, hl] at hc
  cases hc

theorem readsPending_of_area {f : Family} {key : String} {c : Call}
    (h : c.area ≠ f.area) (r : Reply c) : f.readsPending key c r = false := by
  cases f <;> cases c <;> first | rfl | exact absurd rfl h

theorem quiet_of_area {f : Family} {key : String} {l : List Area}
    (hl : l.contains f.area = false) : (pendingMonitor f key).Quiet (Call.In l) := by
  intro seen c hc
  have harea : c.area ≠ f.area := by
    intro harea
    unfold Call.In at hc
    rw [harea, hl] at hc
    cases hc
  refine ⟨.inl (edit_of_area harea), fun r _ => ?_⟩
  change (seen || f.readsPending key c r) = seen
  rw [readsPending_of_area harea, Bool.or_false]

theorem deleteDevice_ok {key : String} (seen : Bool) (h : String) :
    (pendingMonitor .device key).ok seen (.deleteDevice h) := by
  by_cases hkey : h = key
  · exact .inr (.inl (if_pos hkey))
  · exact .inl (if_neg hkey)

theorem deleteBackchannel_ok {key : String} (seen : Bool) (h : String) :
    (pendingMonitor .ciba key).ok seen (.deleteBackchannel h) := by
  by_cases hkey : h = key
  · exact .inr (.inl (if_pos hkey))
  · exact .inl (if_neg hkey)

section
variable (u : TokenUseCase) {key : String} {seen : Bool}

/-- The checks of a device poll end with a row that is not denied, seen as
pending if it is. -/
theorem checkDevice_pending (request : TokenRequest) :
    wp (pendingMonitor .device key) (u.checkDevice request)
      (fun seen granted => granted.stored.status ≠ .denied ∧
        (granted.stored.deviceCodeHash = key → granted.stored.status = .pending →
          seen = true)) (fun _ _ => True) seen := by
  unfold TokenUseCase.checkDevice
  refine wp_refuseIf_bind.mpr ⟨fun _ => trivial, fun _ => ?_⟩
  refine wp_refuseIf_bind.mpr ⟨fun _ => trivial, fun _ => ?_⟩
  refine wp_quiet_bind (TokenUseCase.activeClient_uses _ _) (quiet_of_area rfl)
    (fun _ => trivial) fun client => ?_
  refine wp_quiet_bind (u.authenticateClient_uses _ _) (quiet_of_area rfl)
    (fun _ => trivial) fun _ => ?_
  refine wp_quiet_bind (u.evaluateDpop_uses _ _ _) (quiet_of_area rfl)
    (fun _ => trivial) fun binding => ?_
  rw [wp_bind]
  unfold TokenUseCase.loadDeviceSession
  refine wp_orRefuse_bind.mpr (wp_op.mpr ⟨.inl rfl, fun found hfound => ⟨fun _ => trivial, ?_⟩⟩)
  rintro row rfl
  refine wp_refuseIf_bind.mpr ⟨fun _ => trivial, fun _ => ?_⟩
  refine wp_ask_bind.mpr ⟨.inl rfl, fun now _ => ?_⟩
  split
  · exact wp_ask_bind.mpr ⟨deleteDevice_ok _ _, fun _ _ => wp_fail.mpr trivial⟩
  refine wp_refuseIf_bind.mpr ⟨fun _ => trivial, fun hdenied => wp_pure.mpr ?_⟩
  refine wp_quiet_bind (u.effectiveResources_uses _ _) (quiet_of_area rfl)
    (fun _ => trivial) fun resources => ?_
  refine wp_ask_bind.mpr ⟨.inl rfl, fun now _ => wp_pure.mpr ⟨hdenied, ?_⟩⟩
  intro hkey hpending
  simpa [pendingMonitor, readsPending] using Or.inr ⟨hkey, hpending⟩

theorem deviceCode_pending (request : TokenRequest) :
    Safe (pendingMonitor .device key) (u.deviceCode request) := by
  intro seen
  refine (wp_bind _ _).mpr (wp_mono (checkDevice_pending u request) ?_ fun _ _ h => h)
  rintro seen granted ⟨hdenied, hseen⟩
  unfold TokenUseCase.pollDevice
  split
  · refine wp_refuseIf_bind.mpr ⟨fun _ => trivial, fun _ => ?_⟩
    refine wp_ask_bind.mpr ⟨deleteDevice_ok _ _, fun _ _ => ?_⟩
    exact safe_of_area (u.issueSession_uses _ _) rfl _
  · rename_i happroved
    have hpending : granted.stored.status = .pending := by
      cases h : granted.stored.status
      case pending => rfl
      case approved => exact absurd h happroved
      case denied => exact absurd h hdenied
    have hok : ∀ tooFast, (pendingMonitor .device key).ok seen
        (.saveDevice (TokenUseCase.polledDevice granted.stored granted.now tooFast)) := by
      intro tooFast
      by_cases h : granted.stored.deviceCodeHash = key
      · exact .inr (.inr (hseen h hpending))
      · exact .inl (by simp [edit, TokenUseCase.polledDevice, h])
    unfold TokenUseCase.devicePendingResponse
    split
    · exact wp_ask_bind.mpr ⟨hok true, fun _ _ => wp_fail.mpr trivial⟩
    · exact wp_ask_bind.mpr ⟨hok false, fun _ _ => wp_fail.mpr trivial⟩

theorem checkCiba_pending (request : TokenRequest) :
    wp (pendingMonitor .ciba key) (u.checkCiba request)
      (fun seen granted => granted.stored.status ≠ .denied ∧
        (granted.stored.authReqIdHash = key → granted.stored.status = .pending →
          seen = true)) (fun _ _ => True) seen := by
  unfold TokenUseCase.checkCiba
  refine wp_refuseIf_bind.mpr ⟨fun _ => trivial, fun _ => ?_⟩
  refine wp_refuseIf_bind.mpr ⟨fun _ => trivial, fun _ => ?_⟩
  refine wp_quiet_bind (TokenUseCase.activeClient_uses _ _) (quiet_of_area rfl)
    (fun _ => trivial) fun client => ?_
  refine wp_quiet_bind (u.authenticateClient_uses _ _) (quiet_of_area rfl)
    (fun _ => trivial) fun _ => ?_
  refine wp_quiet_bind (u.evaluateDpop_uses _ _ _) (quiet_of_area rfl)
    (fun _ => trivial) fun binding => ?_
  rw [wp_bind]
  unfold TokenUseCase.loadCibaSession
  refine wp_orRefuse_bind.mpr (wp_op.mpr ⟨.inl rfl, fun found hfound => ⟨fun _ => trivial, ?_⟩⟩)
  rintro row rfl
  refine wp_refuseIf_bind.mpr ⟨fun _ => trivial, fun _ => ?_⟩
  refine wp_ask_bind.mpr ⟨.inl rfl, fun now _ => ?_⟩
  split
  · exact wp_ask_bind.mpr ⟨deleteBackchannel_ok _ _, fun _ _ => wp_fail.mpr trivial⟩
  refine wp_refuseIf_bind.mpr ⟨fun _ => trivial, fun _ => ?_⟩
  refine wp_refuseIf_bind.mpr ⟨fun _ => trivial, fun hdenied => wp_pure.mpr ?_⟩
  refine wp_quiet_bind (u.effectiveResources_uses _ _) (quiet_of_area rfl)
    (fun _ => trivial) fun resources => ?_
  refine wp_ask_bind.mpr ⟨.inl rfl, fun now _ => wp_pure.mpr ⟨hdenied, ?_⟩⟩
  intro hkey hpending
  simpa [pendingMonitor, readsPending] using Or.inr ⟨hkey, hpending⟩

theorem cibaApprovedFlow_pending (granted : Granted BackchannelAuthenticationRequest)
    (tlsCertHash : String) :
    Safe (pendingMonitor .ciba key) (u.cibaApprovedFlow granted tlsCertHash) := by
  intro seen
  refine wp_refuseIf_bind.mpr ⟨fun _ => trivial, fun _ => ?_⟩
  refine wp_ask_bind.mpr ⟨deleteBackchannel_ok _ _, fun _ _ => ?_⟩
  exact safe_of_area (u.issueSession_uses _ _) rfl _

theorem ciba_pending (request : TokenRequest) :
    Safe (pendingMonitor .ciba key) (u.ciba request) := by
  intro seen
  refine (wp_bind _ _).mpr (wp_mono (checkCiba_pending u request) ?_ fun _ _ h => h)
  rintro seen granted ⟨hdenied, hseen⟩
  unfold TokenUseCase.pollCiba
  split
  · exact cibaApprovedFlow_pending u _ _ _
  · rename_i happroved
    have hpending : granted.stored.status = .pending := by
      cases h : granted.stored.status
      case pending => rfl
      case approved => exact absurd h happroved
      case denied => exact absurd h hdenied
    have hok : ∀ tooFast, (pendingMonitor .ciba key).ok seen
        (.saveBackchannel (TokenUseCase.polledCiba granted.stored granted.now tooFast)) := by
      intro tooFast
      by_cases h : granted.stored.authReqIdHash = key
      · exact .inr (.inr (hseen h hpending))
      · exact .inl (by simp [edit, TokenUseCase.polledCiba, h])
    unfold TokenUseCase.cibaPendingResponse
    split
    · exact wp_ask_bind.mpr ⟨hok true, fun _ _ => wp_fail.mpr trivial⟩
    · exact wp_ask_bind.mpr ⟨hok false, fun _ _ => wp_fail.mpr trivial⟩

theorem execute_pending (f : Family) (request : TokenRequest) :
    Safe (pendingMonitor f key) (u.execute request) := by
  obtain ⟨clientId, hexec⟩ := u.execute_cases request
  rw [hexec]
  unfold TokenUseCase.dispatch
  split
  · exact safe_of_area (u.exchangeCode_uses _) (by cases f <;> rfl)
  split
  · exact safe_of_area (u.refresh_uses _) (by cases f <;> rfl)
  split
  · exact safe_of_area (u.clientCredentials_uses _) (by cases f <;> rfl)
  split
  · exact safe_of_area (u.jwtBearer_uses _) (by cases f <;> rfl)
  split
  · cases f
    case device => exact deviceCode_pending u _
    case ciba => exact safe_of_area (u.deviceCode_uses _) rfl
  split
  · cases f
    case device => exact safe_of_area (u.ciba_uses _) rfl
    case ciba => exact ciba_pending u _
  split
  · exact safe_of_area (u.preAuthorizedCode_uses _) (by cases f <;> rfl)
  · exact safe_fail _

theorem issueCibaPushTokens_pending (stored : BackchannelAuthenticationRequest) :
    Safe (pendingMonitor .ciba key) (u.issueCibaPushTokens stored) := by
  intro seen
  refine wp_refuseIf_bind.mpr ⟨fun _ => trivial, fun _ => ?_⟩
  refine wp_orRefuse_bind.mpr (wp_op.mpr ⟨.inl rfl, fun found _ => ⟨fun _ => trivial, ?_⟩⟩)
  intro client hclient
  exact wp_ask_bind.mpr ⟨.inl rfl, fun now _ => cibaApprovedFlow_pending u _ _ _⟩

theorem outcome_pending {ε ε' α : Type} {f : Family} {p : M ε α}
    (hp : Safe (pendingMonitor f key) p) :
    Safe (pendingMonitor f key) (outcome p : M ε' (Except ε α)) := by
  refine Safe.handle (hp.bind fun _ => safe_pure _) fun stop => ?_
  cases stop
  case refused => exact safe_pure _
  case raised => exact safe_fail _

/-- A decision on a device session is taken on a row read as pending. -/
theorem decide_pending {ε : Type} (p : Platform) (userCode : String)
    (subject : Option String) :
    Safe (pendingMonitor .device key)
      (DeviceAuthorizationUseCase.decide p userCode subject : M ε DeviceDecision) := by
  intro seen
  unfold DeviceAuthorizationUseCase.decide
  dsimp only
  split
  · exact wp_pure.mpr trivial
  refine wp_ask_bind.mpr ⟨.inl rfl, fun found _ => ?_⟩
  rcases found with _ | stored
  · exact wp_pure.mpr trivial
  refine wp_ask_bind.mpr ⟨.inl rfl, fun now _ => ?_⟩
  split
  · exact wp_ask_bind.mpr ⟨deleteDevice_ok _ _, fun _ _ => wp_pure.mpr trivial⟩
  split
  · exact wp_pure.mpr trivial
  · exact wp_pure.mpr trivial
  · rename_i subject hpending
    refine wp_ask_bind.mpr ⟨?_, fun _ _ => wp_pure.mpr trivial⟩
    by_cases h : stored.deviceCodeHash = key
    · exact .inr (.inr (by simp [pendingMonitor, readsPending, h, hpending]))
    · exact .inl (if_neg h)
  · rename_i hpending
    refine wp_ask_bind.mpr ⟨?_, fun _ _ => wp_pure.mpr trivial⟩
    by_cases h : stored.deviceCodeHash = key
    · exact .inr (.inr (by simp [pendingMonitor, readsPending, h, hpending]))
    · exact .inl (if_neg h)

/-- A decision on a backchannel session, and the notification after it. -/
theorem cibaExecute_pending {ε : Type} (s : Server) (authReqId : String) (allow : Bool)
    (userCode : String) :
    Safe (pendingMonitor .ciba key) (s.ciba.execute authReqId allow userCode : M ε Bool) := by
  intro seen
  unfold CibaApprovalUseCase.execute
  split
  · exact wp_pure.mpr trivial
  refine wp_ask_bind.mpr ⟨.inl rfl, fun found hfound => ?_⟩
  rcases found with _ | stored
  · exact wp_pure.mpr trivial
  dsimp only
  split
  · exact wp_pure.mpr trivial
  rename_i hstatus
  have hpending : stored.status = .pending := by
    simpa using hstatus
  split
  · exact wp_pure.mpr trivial
  have hseen : tokenHash s.ciba.platform authReqId = key →
      (pendingMonitor .ciba key).next seen
        (.findByAuthReqIdHash (tokenHash s.ciba.platform authReqId)) (some stored) = true := by
    intro hkey
    have hrow : stored.authReqIdHash = key := (hfound stored rfl).trans hkey
    simp [pendingMonitor, readsPending, hrow, hpending]
  refine (wp_bind _ _).mpr (wp_mono (Q := fun _ _ => True) (E := fun _ _ => True) ?_ ?_
    fun _ _ h => h)
  · split
    · refine wp_op.mpr ⟨?_, fun _ _ => trivial⟩
      by_cases hkey : tokenHash s.ciba.platform authReqId = key
      · exact .inr (.inr (hseen hkey))
      · exact .inl (if_neg hkey)
    · refine wp_op.mpr ⟨?_, fun _ _ => trivial⟩
      by_cases hkey : tokenHash s.ciba.platform authReqId = key
      · exact .inr (.inr (hseen hkey))
      · exact .inl (if_neg hkey)
  intro seen' _ _
  refine (Safe.bind ?_ fun _ => Safe.bind ?_ fun _ => safe_pure _) seen'
  · unfold CibaApprovalUseCase.notifyPing
    split
    · exact safe_pure _
    · exact safe_of_area (l := [.notices]) (Prog.uses_op rfl) rfl
  · unfold CibaApprovalUseCase.notifyPush
    split
    · exact safe_pure _
    refine Safe.bind ?_ fun _ =>
      safe_of_area (l := [.notices]) (Prog.uses_op rfl) rfl
    split
    · rename_i v hv
      cases hv
      refine Safe.bind (Safe.bind (outcome_pending
        (issueCibaPushTokens_pending s.token stored)) fun candidate => ?_) fun _ => safe_pure _
      unfold TokenUseCase.createCibaPushNotification
      refine Safe.bind ?_ fun response => ?_
      · cases candidate.toOption
        case none =>
            exact (outcome_pending (issueCibaPushTokens_pending s.token stored)).bind
              fun _ => safe_pure _
        case some => exact safe_pure _
      · exact safe_of_area (l := [.keys, .passive, .draws]) (Prog.uses_bind (Prog.uses_op rfl)
          fun _ => Prog.uses_bind (Prog.uses_op rfl) fun _ => Prog.uses_bind
            (Prog.uses_op rfl) fun _ => uses_orRaise _ _) rfl
    · exact safe_pure _

/-- Whatever the request, it writes only what it read as pending. -/
theorem serve_pending (f : Family) (s : Server) (r : Request) :
    Safe (pendingMonitor f key) (s.serve r) := by
  cases r
  case token request => exact (execute_pending s.token f request).bind fun _ => safe_pure _
  case approveDevice userCode subject =>
      refine Safe.bind ?_ fun _ => safe_pure _
      cases f
      case device => exact decide_pending _ _ _
      case ciba => exact safe_of_area (s.decide_uses _ _) rfl
  case denyDevice userCode =>
      refine Safe.bind ?_ fun _ => safe_pure _
      cases f
      case device => exact decide_pending _ _ _
      case ciba => exact safe_of_area (s.decide_uses _ _) rfl
  case decideCiba authReqId allow userCode =>
      refine Safe.bind ?_ fun _ => safe_pure _
      cases f
      case device => exact safe_of_area (s.cibaExecute_uses _ _ _) rfl
      case ciba => exact cibaExecute_pending s _ _ _

end

end Family

/-! ## Decisions stand -/

/-- The call `e` of a request is not overtaken since its read `r`: the
session is as it was read, or the call deletes the row or leaves the
session as it is. -/
def Unraced (f : Family) (key : String) (e r : Event ι Call World) : Prop :=
  e.pid = r.pid → f.reads key r.call = true →
    f.session e.pre key = f.session r.pre key ∨ f.edit key e.call = .delete ∨
      (f.edit key e.call).apply (f.session e.pre key) = f.session e.pre key

instance (f : Family) (key : String) (e r : Event ι Call World) :
    Decidable (Unraced f key e r) := by
  unfold Unraced
  infer_instance

/-- A call that reads the row of the key as pending met a pending session. -/
theorem Family.session_of_readsPending {f : Family} {ports : Ports} {key : String}
    {c : Call} {w : World} (h : f.readsPending key c (exec ports c w).1 = true) :
    f.reads key c = true ∧ ∃ subject, f.session w key = some (.pending, subject) := by
  cases f
  case device =>
      cases c
      case findByDeviceCodeHash k =>
          obtain ⟨row, hrow, hp⟩ := Option.any_eq_true _ _ |>.mp h
          simp only [Bool.and_eq_true, decide_eq_true_eq] at hp
          have hk : k = key := (Table.find_key hrow).symm.trans hp.1
          subst hk
          change w.deviceCodes.find k = some row at hrow
          exact ⟨by simp [reads], row.subject, by simp [session, hrow, hp.2]⟩
      case findByUserCode code =>
          obtain ⟨row, hrow, hp⟩ := Option.any_eq_true _ _ |>.mp h
          simp only [Bool.and_eq_true, decide_eq_true_eq] at hp
          have hmem : row ∈ w.deviceCodes.rows :=
            (List.mem_filter.mp (List.mem_of_mem_head? hrow)).1
          have hfind := Table.find_of_mem hmem
          rw [hp.1] at hfind
          exact ⟨rfl, row.subject, by simp [session, hfind, hp.2]⟩
      all_goals cases h
  case ciba =>
      cases c
      case findByAuthReqIdHash k =>
          obtain ⟨row, hrow, hp⟩ := Option.any_eq_true _ _ |>.mp h
          simp only [Bool.and_eq_true, decide_eq_true_eq] at hp
          have hk : k = key := (Table.find_key hrow).symm.trans hp.1
          subst hk
          change w.backchannelAuth.find k = some row at hrow
          exact ⟨by simp [reads], row.subject, by simp [session, hrow, hp.2]⟩
      all_goals cases h

omit [DecidableEq ι] in
/-- A write that is not overtaken since the row was read as pending leaves
decisions alone. -/
theorem Unraced.stands {f : Family} {key : String} {e r : Event ι Call World}
    (h : Unraced f key e r) (hpid : e.pid = r.pid) (hreads : f.reads key r.call = true)
    {subject : String} (hpending : f.session r.pre key = some (.pending, subject)) :
    Stands (f.session e.pre key) ((f.edit key e.call).apply (f.session e.pre key)) := by
  rcases h hpid hreads with hsame | hdelete | hidle
  · rw [hsame, hpending]
    trivial
  · rw [hdelete]
    exact .none _
  · rw [hidle]
    exact .refl _

/-- In a run where no write of a poll or of a decision is overtaken, a
decision stands and a deleted session stays deleted. -/
theorem decisions_stand (ports : Ports) (s : Server) (w : World) (requests : ι → Request)
    (f : Family) (key : String) {tr tr' : List (Event ι Call World)}
    {cfg cfg' : Config ι Call Reply (Stop TokenError) Answer World}
    (hrun : Run (machine ports) (s.traffic w requests) tr cfg)
    (hrun' : Run (machine ports) cfg tr' cfg')
    (hunraced : (tr' ++ tr).Pairwise (Unraced f key)) :
    Stands (f.session cfg.store key) (f.session cfg'.store key) := by
  obtain ⟨hallowed, -⟩ := (hrun.trans hrun').allowed (m := f.pendingMonitor key)
    (fun i => f.serve_pending s (requests i) false)
    (fun _ c v => Family.keyed_exec ports c v)
  refine hrun'.stable (fun _ v => Stands (f.session cfg.store key) (f.session v key))
    (.refl _) ?_ ?_
    (show ∀ e ∈ tr', Stands (f.session e.pre key)
      ((f.edit key e.call).apply (f.session e.pre key)) from ?_)
  · rintro _ v v' h ⟨t, -, rfl⟩
    cases f <;> exact h
  · intro _ v i c h hstep
    refine h.trans ?_
    show Stands (f.session v key) (f.session (exec ports c v).2 key)
    rw [f.session_exec]
    exact hstep
  · intro e he
    obtain ⟨later, past, rfl⟩ := List.append_of_mem he
    rcases hallowed later e (past ++ tr) (by simp) with hkeep | hdelete | hseen
    · rw [hkeep]
      exact .refl _
    · rw [hdelete]
      exact .none _
    obtain ⟨between, r, before, hpast, hpid, hunseen, hnow⟩ :=
      exists_establishing (P := fun seen : Bool => seen = true) Bool.false_ne_true hseen
    have hread : f.readsPending key r.call (exec ports r.call r.pre).1 = true := by
      simp only [Family.pendingMonitor, Bool.or_eq_true] at hnow
      exact hnow.resolve_left hunseen
    obtain ⟨hreads, subject, hpending⟩ := f.session_of_readsPending hread
    have hmem : r ∈ past ++ tr := by rw [hpast]; simp
    have hpair : Unraced f key e r := by
      rw [List.append_assoc, List.cons_append, List.pairwise_append] at hunraced
      exact (List.pairwise_cons.mp hunraced.2.1).1 r hmem
    exact hpair.stands hpid.symm hreads hpending

/-! ### A poll and an approval -/

namespace Sample

/-- A pending session of the public client; its device code is `d`. -/
def deviceAuthorization : DeviceAuthorization where
  deviceCodeHash := sha256Hex "d"
  userCode := "BCDF"
  clientId := "app"
  expiresAt := seconds 600

def pollRequest : TokenRequest where
  grantType := deviceCodeGrantType
  deviceCode := "d"
  clientId := "app"

def deviceWorld : World :=
  { world with deviceCodes := Table.empty.save deviceAuthorization }

/-- A poll of the session and its approval. -/
def pollAndApproval : Config Bool Call Reply (Stop TokenError) Answer World :=
  server.traffic deviceWorld fun
    | false => .token pollRequest
    | true => .approveDevice "BCDF" "alice"

/-- The approval, up to its end, after `before`. -/
def approvedAfter (before : List Bool) :
    List (Event Bool Call World) × Config Bool Call Reply (Stop TokenError) Answer World :=
  Config.schedule (machine ports) (before ++ [true, true, true]) ([], pollAndApproval)

end Sample

/-- When the poll starts after the approval has ended, the approval
stands. -/
theorem decisions_stand_sequential :
    let decided := Sample.approvedAfter []
    let polled := Config.schedule (machine Sample.ports) (List.replicate 6 false)
      ([], decided.2)
    Family.device.session decided.2.store (Sample.sha256Hex "d") =
        some (.approved, "alice") ∧
      Stands (Family.device.session decided.2.store (Sample.sha256Hex "d"))
        (Family.device.session polled.2.store (Sample.sha256Hex "d")) := by
  refine ⟨by decide +kernel, ?_⟩
  exact decisions_stand Sample.ports Sample.server Sample.deviceWorld _ .device _
    (Run.ofSchedule (machine Sample.ports) Sample.pollAndApproval _)
    (Run.ofSchedule (machine Sample.ports) _ (List.replicate 6 false))
    (by decide +kernel)

/-- When the approval comes between the read of a poll and its write, the
session is pending again. -/
theorem approval_overwritten_by_poll :
    ¬ ∀ (ports : Ports) (s : Server) (w : World) (requests : Bool → Request)
      (f : Family) (key : String) (tr tr' : List (Event Bool Call World))
      (cfg cfg' : Config Bool Call Reply (Stop TokenError) Answer World),
      Run (machine ports) (s.traffic w requests) tr cfg →
      Run (machine ports) cfg tr' cfg' →
      Stands (f.session cfg.store key) (f.session cfg'.store key) := by
  intro h
  -- the poll has found its client and read the session
  have hstands := h Sample.ports Sample.server Sample.deviceWorld _ .device
    (Sample.sha256Hex "d") _ _ _ _
    (Run.ofSchedule (machine Sample.ports) Sample.pollAndApproval
      ([false, false] ++ [true, true, true]))
    (Run.ofSchedule (machine Sample.ports) _ [false, false, false])
  have hbefore : Family.device.session (Sample.approvedAfter [false, false]).2.store
      (Sample.sha256Hex "d") = some (.approved, "alice") := by decide +kernel
  have hafter : Family.device.session (Config.schedule (machine Sample.ports)
      [false, false, false] ([], (Sample.approvedAfter [false, false]).2)).2.store
      (Sample.sha256Hex "d") = some (.pending, "") := by decide +kernel
  unfold Sample.approvedAfter at hbefore hafter
  rw [hbefore, hafter] at hstands
  rcases hstands with h | h <;> cases h

end PurIdentityServer
