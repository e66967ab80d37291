import PurIdentityServer.Lib.Interleave
import PurIdentityServer.Infrastructure.OpenID20Identifiers

/-!
# OpenID20Provider — concurrent `ensure_identifier` calls

`ensure_identifier` reads the association of a pair and, when there is
none, draws an identifier and links it: a check and a write that are two
calls to the store. A process is one such call; the runs interleave any
number of them.

A process that has read and not yet written is described by what it
missed (`Missed`): either the pair still has no identifier, or another
process of the same pair has written one since and is done. The second
case is where two processes of one pair part.
-/

namespace PurIdentityServer

namespace OpenID20

open Effects

/-! ## Programs -/

/-- The calls of the provider: two queries of the repository, the draw of
`uuid4` and the clock behind `created_at`. -/
inductive ProviderCall where
  | find (subject realm : String)
  | save (association : OpenID20Identifier)
  | uuid4
  | now

abbrev ProviderCall.Reply : ProviderCall → Type
  | .find _ _ => Option OpenID20Identifier
  | .save _ => Unit
  | .uuid4 => String
  | .now => Instant

abbrev ProviderM (α : Type) := Prog ProviderCall ProviderCall.Reply Empty α

/-- `OpenID20ProviderUseCase`: the flag of its migration use case and
`base_url`. -/
structure ProviderUseCase where
  enabled : Bool
  baseUrl : String

namespace ProviderUseCase

variable (provider : ProviderUseCase)

/-- `identifier_url`. -/
def identifierUrl (identifierId : String) : String :=
  provider.baseUrl ++ "/openid20/id/" ++ identifierId

/-- `OpenID20MigrationUseCase.identifier_for`. -/
def identifierFor (subject realm : String) : ProviderM String :=
  if provider.enabled then do
    let association ← Prog.op (.find subject realm)
    pure ((association.map OpenID20Identifier.identifier).getD "")
  else pure ""

/-- `OpenID20MigrationUseCase.link`. -/
def link (subject identifier realm : String) : ProviderM OpenID20Identifier := do
  let createdAt ← Prog.op .now
  let association : OpenID20Identifier :=
    { subject := subject, identifier := identifier, realm := realm, createdAt := createdAt }
  (if provider.enabled then Prog.op (ProviderCall.save association) else pure () :
    ProviderM Unit)
  pure association

/-- `ensure_identifier`, once the identifier of the pair is read. -/
def create (subject realm : String) : ProviderM String := do
  let identifierId ← Prog.op .uuid4
  let identifier := provider.identifierUrl identifierId
  let _ ← provider.link subject identifier realm
  pure identifier

/-- `ensure_identifier`. -/
def ensureIdentifier (subject realm : String) : ProviderM String := do
  let existing ← provider.identifierFor subject realm
  if existing ≠ "" then pure existing else provider.create subject realm

end ProviderUseCase

/-! ## The store -/

/-- The repository, and how many draws and readings of the clock were made. -/
structure ProviderWorld where
  repository : IdentifierRepository
  draws : Nat := 0
  readings : Nat := 0

/-- The `uuid4().hex` of a draw and the date of a reading. -/
structure ProviderPorts where
  uuid4Hex : Nat → String
  clock : Nat → Instant

def ProviderPorts.exec (ports : ProviderPorts) :
    (call : ProviderCall) → ProviderWorld → call.Reply × ProviderWorld
  | .find subject realm, w => (w.repository.find subject realm, w)
  | .save association, w => ((), { w with repository := w.repository.save association })
  | .uuid4, w => (ports.uuid4Hex w.draws, { w with draws := w.draws + 1 })
  | .now, w => (ports.clock w.readings, { w with readings := w.readings + 1 })

def ProviderPorts.machine (ports : ProviderPorts) :
    Machine ProviderCall ProviderCall.Reply ProviderWorld where
  exec := ports.exec
  env _ _ := False

section Calls

variable {ι : Type}

abbrev ProviderConfig (ι : Type) :=
  Config ι ProviderCall ProviderCall.Reply Empty String ProviderWorld

abbrev ProviderEvent (ι : Type) := Event ι ProviderCall ProviderWorld

/-- Every process calls `ensure_identifier` for its pair. -/
def ProviderUseCase.calls (provider : ProviderUseCase) (pair : ι → String × String)
    (w : ProviderWorld) : ProviderConfig ι :=
  { store := w, procs := fun i => provider.ensureIdentifier (pair i).1 (pair i).2 }

/-- The calls of one pair that have returned returned the same identifier. -/
def Stable (pair : ι → String × String) (cfg : ProviderConfig ι) : Prop :=
  ∀ i j x y, pair i = pair j → cfg.procs i = .pure x → cfg.procs j = .pure y → x = y

/-- Whenever a call saves an association, its pair has no identifier yet. -/
def CreatesOnce (trace : List (ProviderEvent ι)) : Prop :=
  ∀ event ∈ trace, ∀ association, event.call = .save association →
    event.pre.repository.identifierFor association.subject association.realm = ""

end Calls

/-! ## The stages of a call -/

section Stages

variable {ι : Type} {provider : ProviderUseCase}

theorem ensureIdentifier_eq (henabled : provider.enabled = true) (subject realm : String) :
    provider.ensureIdentifier subject realm =
      .call (.find subject realm) fun association =>
        if (association.map OpenID20Identifier.identifier).getD "" ≠ "" then
          .pure ((association.map OpenID20Identifier.identifier).getD "")
        else provider.create subject realm := by
  unfold ProviderUseCase.ensureIdentifier ProviderUseCase.identifierFor
  rw [if_pos henabled]
  rfl

theorem create_eq (henabled : provider.enabled = true) (subject realm : String) :
    provider.create subject realm = .call .uuid4 fun identifierId => .call .now fun createdAt =>
      .call (.save
        { subject := subject, identifier := provider.identifierUrl identifierId, realm := realm
          createdAt := createdAt })
        fun _ => .pure (provider.identifierUrl identifierId) := by
  unfold ProviderUseCase.create ProviderUseCase.link
  rw [henabled]
  rfl

theorem identifierUrl_ne (identifierId : String) : provider.identifierUrl identifierId ≠ "" := by
  intro h
  have hlength := congrArg String.length h
  unfold ProviderUseCase.identifierUrl at hlength
  rw [String.length_append, String.length_append] at hlength
  have hpath : "/openid20/id/".length = 13 := by decide
  simp only [String.length_empty] at hlength
  omega

theorem identifierUrl_inj {a b : String}
    (h : provider.identifierUrl a = provider.identifierUrl b) : a = b := by
  unfold ProviderUseCase.identifierUrl at h
  exact String.append_right_inj _ |>.mp h

variable (ports : ProviderPorts) (pair : ι → String × String)

/-- Process `i` drew its identifier with the draw numbered `n`. -/
def Drew (i : ι) (n : Nat) (trace : List (ProviderEvent ι)) : Prop :=
  ∃ event ∈ trace, event.pid = i ∧ event.call = .uuid4 ∧ event.pre.draws = n

/-- The identifier in the store of the pair of process `i`. -/
def stored (i : ι) (cfg : ProviderConfig ι) : String :=
  cfg.store.repository.identifierFor (pair i).1 (pair i).2

/-- What happened to the pair of process `i` since it read no identifier. -/
def Missed (provider : ProviderUseCase) (i : ι) (trace : List (ProviderEvent ι))
    (cfg : ProviderConfig ι) : Prop :=
  stored pair i cfg = "" ∨
    ∃ k n, k ≠ i ∧ pair k = pair i ∧ Drew k n trace ∧
      cfg.procs k = .pure (provider.identifierUrl (ports.uuid4Hex n)) ∧
      stored pair i cfg = provider.identifierUrl (ports.uuid4Hex n)

/-- Where process `i` stands. -/
inductive Stage (provider : ProviderUseCase) (i : ι) (trace : List (ProviderEvent ι))
    (cfg : ProviderConfig ι) : Prop
  | reading (hproc : cfg.procs i = provider.ensureIdentifier (pair i).1 (pair i).2)
  | drawing (hproc : cfg.procs i = provider.create (pair i).1 (pair i).2)
      (missed : Missed ports pair provider i trace cfg)
  | dating (n : Nat) (drew : Drew i n trace)
      (hproc : cfg.procs i = .call .now fun createdAt => .call (.save
        { subject := (pair i).1, identifier := provider.identifierUrl (ports.uuid4Hex n)
          realm := (pair i).2, createdAt := createdAt })
        fun _ => .pure (provider.identifierUrl (ports.uuid4Hex n)))
      (missed : Missed ports pair provider i trace cfg)
  | saving (n : Nat) (drew : Drew i n trace) (createdAt : Instant)
      (hproc : cfg.procs i = .call (.save
        { subject := (pair i).1, identifier := provider.identifierUrl (ports.uuid4Hex n)
          realm := (pair i).2, createdAt := createdAt })
        fun _ => .pure (provider.identifierUrl (ports.uuid4Hex n)))
      (missed : Missed ports pair provider i trace cfg)
  | done (x : String) (hproc : cfg.procs i = .pure x) (hne : x ≠ "")

end Stages

/-! ## Steps -/

section Runs

variable {ι : Type} [DecidableEq ι] {provider : ProviderUseCase} {ports : ProviderPorts}
  {pair : ι → String × String} {trace : List (ProviderEvent ι)} {cfg : ProviderConfig ι}

/-- The configuration after process `j` has made its call. -/
def after (ports : ProviderPorts) (cfg : ProviderConfig ι) (j : ι) (call : ProviderCall)
    (k : call.Reply → ProviderM String) : ProviderConfig ι :=
  ⟨(ports.exec call cfg.store).2,
    Function.update cfg.procs j (k (ports.exec call cfg.store).1)⟩

theorem after_self (j : ι) (call : ProviderCall) (k : call.Reply → ProviderM String) :
    (after ports cfg j call k).procs j = k (ports.exec call cfg.store).1 :=
  Function.update_self ..

theorem after_of_ne {i j : ι} (hne : i ≠ j) (call : ProviderCall)
    (k : call.Reply → ProviderM String) : (after ports cfg j call k).procs i = cfg.procs i :=
  Function.update_of_ne hne _ _

/-- A process that has returned is not the one that makes a call. -/
theorem after_of_pure {i j : ι} {x : String} {call : ProviderCall}
    {k : call.Reply → ProviderM String} (hj : cfg.procs j = .call call k)
    (hi : cfg.procs i = .pure x) : (after ports cfg j call k).procs i = .pure x := by
  by_cases hne : i = j
  · subst hne
    rw [hj] at hi
    cases hi
  · rw [after_of_ne hne, hi]

omit [DecidableEq ι] in
theorem Drew.cons {i : ι} {n : Nat} (h : Drew i n trace) (event : ProviderEvent ι) :
    Drew i n (event :: trace) := by
  obtain ⟨e, he, hpid, hcall, hdraws⟩ := h
  exact ⟨e, List.mem_cons_of_mem _ he, hpid, hcall, hdraws⟩

/-- A call that leaves the repository alone changes nothing of what was missed. -/
theorem Missed.quiet {i j : ι} {call : ProviderCall} {k : call.Reply → ProviderM String}
    (h : Missed ports pair provider i trace cfg) (hj : cfg.procs j = .call call k)
    (hquiet : (ports.exec call cfg.store).2.repository = cfg.store.repository)
    (event : ProviderEvent ι) :
    Missed ports pair provider i (event :: trace) (after ports cfg j call k) := by
  have hstored : stored pair i (after ports cfg j call k) = stored pair i cfg := by
    show (ports.exec call cfg.store).2.repository.identifierFor _ _ = _
    rw [hquiet]
    rfl
  rcases h with hempty | ⟨p, n, hne, hpair, hdrew, hproc, hurl⟩
  · exact .inl (hstored.trans hempty)
  · exact .inr ⟨p, n, hne, hpair, hdrew.cons event, after_of_pure hj hproc, hstored.trans hurl⟩

/-- Another process of the pair that saves is what was missed from then on. -/
theorem Missed.saved {i j : ι} {n : Nat} {createdAt : Instant}
    {k : Unit → ProviderM String}
    (h : Missed ports pair provider i trace cfg) (hij : j ≠ i) (hdrew : Drew j n trace)
    (hj : cfg.procs j = .call (.save
      { subject := (pair j).1, identifier := provider.identifierUrl (ports.uuid4Hex n)
        realm := (pair j).2, createdAt := createdAt }) k)
    (hk : k () = .pure (provider.identifierUrl (ports.uuid4Hex n))) (event : ProviderEvent ι) :
    Missed ports pair provider i (event :: trace) (after ports cfg j (.save
      { subject := (pair j).1, identifier := provider.identifierUrl (ports.uuid4Hex n)
        realm := (pair j).2, createdAt := createdAt }) k) := by
  have hstored := IdentifierRepository.identifierFor_save cfg.store.repository
    { subject := (pair j).1, identifier := provider.identifierUrl (ports.uuid4Hex n)
      realm := (pair j).2, createdAt := createdAt } (pair i).1 (pair i).2
  by_cases hpair : pair j = pair i
  · refine .inr ⟨j, n, hij, hpair, hdrew.cons event, ?_, ?_⟩
    · rw [after_self]
      exact hk
    · refine hstored.trans (if_pos ?_)
      rw [← hpair]
      rfl
  · have hother : ((pair i).1, (pair i).2) ≠ ((pair j).1, (pair j).2) :=
      fun heq => hpair (Eq.symm heq)
    have hkept := hstored.trans (if_neg hother)
    rcases h with hempty | ⟨p, m, hne, hpq, hp, hproc, hurl⟩
    · exact .inl (hkept.trans hempty)
    · exact .inr ⟨p, m, hne, hpq, hp.cons event, after_of_pure hj hproc, hkept.trans hurl⟩

/-- What was missed stays missed when another process moves. -/
theorem Missed.step {i j : ι} {call : ProviderCall} {k : call.Reply → ProviderM String}
    (henabled : provider.enabled = true) (h : Missed ports pair provider i trace cfg)
    (hij : j ≠ i) (stage : Stage ports pair provider j trace cfg)
    (hj : cfg.procs j = .call call k) (event : ProviderEvent ι) :
    Missed ports pair provider i (event :: trace) (after ports cfg j call k) := by
  cases stage with
  | reading hproc =>
      rw [ensureIdentifier_eq henabled, hj] at hproc
      cases hproc
      exact h.quiet hj rfl event
  | drawing hproc missed =>
      rw [create_eq henabled, hj] at hproc
      cases hproc
      exact h.quiet hj rfl event
  | dating n drew hproc missed =>
      rw [hj] at hproc
      cases hproc
      exact h.quiet hj rfl event
  | saving n drew createdAt hproc missed =>
      rw [hj] at hproc
      cases hproc
      exact h.saved hij drew hj rfl event
  | done x hproc hne =>
      rw [hj] at hproc
      cases hproc

/-- Another process moves: process `i` stands where it stood. -/
theorem Stage.other {i j : ι} {call : ProviderCall} {k : call.Reply → ProviderM String}
    (henabled : provider.enabled = true) (hij : j ≠ i)
    (hi : Stage ports pair provider i trace cfg) (stage : Stage ports pair provider j trace cfg)
    (hj : cfg.procs j = .call call k) (event : ProviderEvent ι) :
    Stage ports pair provider i (event :: trace) (after ports cfg j call k) := by
  have hkeep : (after ports cfg j call k).procs i = cfg.procs i := after_of_ne (Ne.symm hij) call k
  cases hi with
  | reading hproc => exact .reading (hkeep.trans hproc)
  | drawing hproc missed =>
      exact .drawing (hkeep.trans hproc) (missed.step henabled hij stage hj event)
  | dating n drew hproc missed =>
      exact .dating n (drew.cons event) (hkeep.trans hproc)
        (missed.step henabled hij stage hj event)
  | saving n drew createdAt hproc missed =>
      exact .saving n (drew.cons event) createdAt (hkeep.trans hproc)
        (missed.step henabled hij stage hj event)
  | done x hproc hne => exact .done x (hkeep.trans hproc) hne

/-- Process `i` moves to its next stage. -/
theorem Stage.own {i : ι} {call : ProviderCall} {k : call.Reply → ProviderM String}
    (henabled : provider.enabled = true) (stage : Stage ports pair provider i trace cfg)
    (hi : cfg.procs i = .call call k) :
    Stage ports pair provider i (⟨i, call, cfg.store⟩ :: trace) (after ports cfg i call k) := by
  cases stage with
  | reading hproc =>
      rw [ensureIdentifier_eq henabled, hi] at hproc
      cases hproc
      by_cases hfound : stored pair i cfg = ""
      · refine .drawing ?_ (.inl hfound)
        rw [after_self]
        exact if_neg (not_not.mpr hfound)
      · refine .done (stored pair i cfg) ?_ hfound
        rw [after_self]
        exact if_pos hfound
  | drawing hproc missed =>
      rw [create_eq henabled, hi] at hproc
      cases hproc
      refine .dating cfg.store.draws ⟨_, List.mem_cons_self, rfl, rfl, rfl⟩ ?_
        (missed.quiet hi rfl _)
      rw [after_self]
      rfl
  | dating n drew hproc missed =>
      rw [hi] at hproc
      cases hproc
      refine .saving n (drew.cons _) (ports.clock cfg.store.readings) ?_ (missed.quiet hi rfl _)
      rw [after_self]
      rfl
  | saving n drew createdAt hproc missed =>
      rw [hi] at hproc
      cases hproc
      refine .done (provider.identifierUrl (ports.uuid4Hex n)) ?_ (identifierUrl_ne _)
      rw [after_self]
  | done x hproc hne =>
      rw [hi] at hproc
      cases hproc

/-! ## Runs -/

variable {w : ProviderWorld} {start : ProviderConfig ι}

theorem run_stage (henabled : provider.enabled = true)
    (run : Run ports.machine (provider.calls pair w) trace cfg) (i : ι) :
    Stage ports pair provider i trace cfg := by
  induction run generalizing i with
  | refl => exact .reading rfl
  | call past hproc ih =>
      rename_i tr before j call k
      by_cases hij : j = i
      · subst hij
        exact (ih j).own henabled hproc
      · exact (ih i).other henabled hij (ih j) hproc _
  | env past hmove ih => exact hmove.elim

/-- Draws are numbered once: a number names one process. -/
theorem run_draws (run : Run ports.machine start trace cfg) :
    (∀ e ∈ trace, e.call = .uuid4 → e.pre.draws < cfg.store.draws) ∧
      ∀ e ∈ trace, ∀ e' ∈ trace, e.call = .uuid4 → e'.call = .uuid4 →
        e.pre.draws = e'.pre.draws → e.pid = e'.pid := by
  induction run with
  | refl => exact ⟨fun e he => absurd he List.not_mem_nil, fun e he => absurd he List.not_mem_nil⟩
  | env past hmove ih => exact hmove.elim
  | call past hproc ih =>
      rename_i tr before j call k
      obtain ⟨hbound, hunique⟩ := ih
      have hgrows : before.store.draws ≤ (ports.exec call before.store).2.draws ∧
          (call = .uuid4 → before.store.draws < (ports.exec call before.store).2.draws) := by
        cases call with
        | uuid4 => exact ⟨Nat.le_succ _, fun _ => Nat.lt_succ_self _⟩
        | find subject realm => exact ⟨Nat.le_refl _, nofun⟩
        | save association => exact ⟨Nat.le_refl _, nofun⟩
        | now => exact ⟨Nat.le_refl _, nofun⟩
      constructor
      · intro e he hcall
        rcases List.mem_cons.mp he with rfl | hearlier
        · exact hgrows.2 hcall
        · exact Nat.lt_of_lt_of_le (hbound e hearlier hcall) hgrows.1
      · intro e he e' he' hcall hcall' hdraws
        rcases List.mem_cons.mp he with rfl | hearlier
        · rcases List.mem_cons.mp he' with rfl | hearlier'
          · rfl
          · have hlt := hbound e' hearlier' hcall'
            exact absurd hdraws (Nat.ne_of_gt hlt)
        · rcases List.mem_cons.mp he' with rfl | hearlier'
          · have hlt := hbound e hearlier hcall
            exact absurd hdraws (Nat.ne_of_lt hlt)
          · exact hunique e hearlier e' hearlier' hcall hcall' hdraws

theorem Drew.unique (run : Run ports.machine start trace cfg) {i j : ι} {n : Nat}
    (hi : Drew i n trace) (hj : Drew j n trace) : i = j := by
  obtain ⟨e, he, rfl, hcall, hdraws⟩ := hi
  obtain ⟨e', he', rfl, hcall', hdraws'⟩ := hj
  exact (run_draws run).2 e he e' he' hcall hcall' (hdraws.trans hdraws'.symm)

/-- A save that creates leaves the identifiers in the store alone. -/
theorem stored_after {i j : ι} {call : ProviderCall} {k : call.Reply → ProviderM String}
    (hcreates : ∀ association, call = .save association →
      cfg.store.repository.identifierFor association.subject association.realm = "")
    (hne : stored pair i cfg ≠ "") :
    stored pair i (after ports cfg j call k) = stored pair i cfg := by
  cases call with
  | find subject realm => rfl
  | uuid4 => rfl
  | now => rfl
  | save association =>
      have hsave := IdentifierRepository.identifierFor_save cfg.store.repository association
        (pair i).1 (pair i).2
      by_cases hpair : ((pair i).1, (pair i).2) = association.pair
      · obtain ⟨hsubject, hrealm⟩ := Prod.mk.inj hpair
        have hempty := hcreates association rfl
        rw [← hsubject, ← hrealm] at hempty
        exact absurd hempty hne
      · exact hsave.trans (if_neg hpair)

omit [DecidableEq ι] in
theorem CreatesOnce.tail {event : ProviderEvent ι} (h : CreatesOnce (event :: trace)) :
    CreatesOnce trace :=
  fun e he => h e (List.mem_cons_of_mem _ he)

/-- What a process that has just returned returns is in the store. -/
theorem Stage.returned {i : ι} {x : String} {call : ProviderCall}
    {k : call.Reply → ProviderM String} (henabled : provider.enabled = true)
    (stage : Stage ports pair provider i trace cfg) (hi : cfg.procs i = .call call k)
    (hx : (after ports cfg i call k).procs i = .pure x) :
    stored pair i (after ports cfg i call k) = x := by
  rw [after_self] at hx
  cases stage with
  | reading hproc =>
      rw [ensureIdentifier_eq henabled, hi] at hproc
      cases hproc
      by_cases hfound : stored pair i cfg = ""
      · have hcreate := (if_neg (not_not.mpr hfound)).symm.trans hx
        rw [create_eq henabled] at hcreate
        cases hcreate
      · have hpure := (if_pos hfound).symm.trans hx
        cases hpure
        rfl
  | drawing hproc missed =>
      rw [create_eq henabled, hi] at hproc
      cases hproc
      cases hx
  | dating n drew hproc missed =>
      rw [hi] at hproc
      cases hproc
      cases hx
  | saving n drew createdAt hproc missed =>
      rw [hi] at hproc
      cases hproc
      cases hx
      exact (IdentifierRepository.identifierFor_save _ _ _ _).trans (if_pos rfl)
  | done y hproc hne =>
      rw [hi] at hproc
      cases hproc

theorem returned_ne_empty (henabled : provider.enabled = true)
    (run : Run ports.machine (provider.calls pair w) trace cfg) {i : ι} {x : String}
    (hi : cfg.procs i = .pure x) : x ≠ "" := by
  cases run_stage henabled run i with
  | reading hproc =>
      rw [ensureIdentifier_eq henabled, hi] at hproc
      cases hproc
  | drawing hproc missed =>
      rw [create_eq henabled, hi] at hproc
      cases hproc
  | dating n drew hproc missed =>
      rw [hi] at hproc
      cases hproc
  | saving n drew createdAt hproc missed =>
      rw [hi] at hproc
      cases hproc
  | done y hproc hne =>
      rw [hi] at hproc
      cases hproc
      exact hne

/-- While every save creates, what a call has returned is what the store
answers for its pair. -/
theorem returned_stored (henabled : provider.enabled = true)
    (run : Run ports.machine (provider.calls pair w) trace cfg) (honce : CreatesOnce trace)
    {i : ι} {x : String} (hi : cfg.procs i = .pure x) : stored pair i cfg = x := by
  induction run generalizing i x with
  | refl =>
      have hreading : provider.ensureIdentifier (pair i).1 (pair i).2 = .pure x := hi
      rw [ensureIdentifier_eq henabled] at hreading
      cases hreading
  | env past hmove ih => exact hmove.elim
  | call past hproc ih =>
      rename_i tr before j call k
      by_cases hij : i = j
      · subst hij
        exact (run_stage henabled past i).returned henabled hproc hi
      · have hbefore : before.procs i = .pure x := (after_of_ne hij call k).symm.trans hi
        have hstored := ih honce.tail hbefore
        have hne := returned_ne_empty henabled past hbefore
        refine (stored_after (fun association hcall => ?_) (hstored ▸ hne)).trans hstored
        exact honce _ List.mem_cons_self association hcall

/-- In a run, the returned identifiers of a pair agree exactly when every save
found its pair without identifier. -/
theorem stable_iff (henabled : provider.enabled = true)
    (hfresh : Function.Injective ports.uuid4Hex)
    (run : Run ports.machine (provider.calls pair w) trace cfg) :
    Stable pair cfg ↔ CreatesOnce trace := by
  constructor
  · intro hstable
    induction run with
    | refl => exact fun e he => absurd he List.not_mem_nil
    | env past hmove ih => exact hmove.elim
    | call past hproc ih =>
        rename_i tr before j call k
        have hbefore : Stable pair before := fun i i' x y hpair hx hy =>
          hstable i i' x y hpair (after_of_pure hproc hx) (after_of_pure hproc hy)
        intro e he association hcall
        rcases List.mem_cons.mp he with rfl | hearlier
        · cases hcall
          cases run_stage henabled past j with
          | reading hreading =>
              rw [ensureIdentifier_eq henabled, hproc] at hreading
              cases hreading
          | drawing hdrawing missed =>
              rw [create_eq henabled, hproc] at hdrawing
              cases hdrawing
          | dating n drew hdating missed =>
              rw [hproc] at hdating
              cases hdating
          | saving n drew createdAt hsaving missed =>
              rw [hproc] at hsaving
              cases hsaving
              rcases missed with hempty | ⟨i, m, hij, hpair, hdrew, hi, -⟩
              · exact hempty
              · -- two processes of the pair have returned, each its own draw
                have hi' : (after ports before j _ _).procs i = _ := after_of_pure hproc hi
                have hsame := hstable i j _ (provider.identifierUrl (ports.uuid4Hex n)) hpair
                  hi' (Function.update_self ..)
                have hdraws := hfresh (identifierUrl_inj hsame)
                subst hdraws
                exact absurd (hdrew.unique past drew) hij
          | done y hdone hne =>
              rw [hproc] at hdone
              cases hdone
        · exact ih hbefore e hearlier association hcall
  · intro honce i j x y hpair hx hy
    have hi := returned_stored henabled run honce hx
    have hj := returned_stored henabled run honce hy
    rw [← hi, ← hj]
    unfold stored
    rw [hpair]

end Runs

/-- The identifiers of the pairs over concurrent calls, and the authority of
an identifier after links, on both stores. -/
theorem identifiers_stable_and_inverse (ι : Type) [DecidableEq ι] (provider : ProviderUseCase)
    (ports : ProviderPorts) (migration : MigrationUseCase) (henabled : provider.enabled = true)
    (hfresh : Function.Injective ports.uuid4Hex)
    (horder : ∀ rows, (migration.order rows).Perm rows) :
    (∀ (pair : ι → String × String) (w : ProviderWorld) (trace : List (ProviderEvent ι))
      (cfg : ProviderConfig ι), Run ports.machine (provider.calls pair w) trace cfg →
        (Stable pair cfg ↔ CreatesOnce trace)) ∧
    (∀ links identifier, migration.Agrees (migration.linkAll links .emptyMemory) identifier ↔
      identifier ≠ "" ∧ (migration.enabled = true →
        Unshared links identifier ∧ Current links identifier)) ∧
    (∀ links identifier, migration.Agrees (migration.linkAll links .emptySql) identifier ↔
      identifier ≠ "" ∧ (migration.enabled = true → Unshared links identifier)) := by
  refine ⟨?_, ?_, ?_⟩
  · intro pair w trace cfg run
    exact stable_iff henabled hfresh run
  · exact MigrationUseCase.memory_agrees_iff
  · exact MigrationUseCase.sql_agrees_iff horder

/-! ## Two calls of one pair -/

namespace Sample

def provider : ProviderUseCase := { enabled := true, baseUrl := "https://op.example" }

def migration : MigrationUseCase := { enabled := true, order := id }

def ports : ProviderPorts where
  uuid4Hex n := String.ofList (List.replicate n 'a')
  clock n := n

theorem uuid4Hex_injective : Function.Injective ports.uuid4Hex := by
  intro m n h
  have hlength := congrArg String.length h
  simpa [ports] using hlength

def pair : Bool → String × String := fun _ => ("alice", "https://rp.example")

/-- Both calls read before either saves. -/
def interleaved : List (ProviderEvent Bool) × ProviderConfig Bool :=
  Config.schedule ports.machine [false, true, false, true, false, true, false, true]
    ([], provider.calls pair { repository := .emptyMemory })

theorem interleaved_run :
    Run ports.machine (provider.calls pair { repository := .emptyMemory }) interleaved.1
      interleaved.2 :=
  Run.ofSchedule ..

theorem interleaved_differ : ¬ Stable pair interleaved.2 := by
  intro hstable
  have h := hstable false true "https://op.example/openid20/id/" "https://op.example/openid20/id/a"
    rfl rfl rfl
  revert h
  decide

def first : OpenID20Identifier :=
  { subject := "alice", identifier := "https://op.example/openid20/id/1", createdAt := 0 }

def second : OpenID20Identifier :=
  { subject := "alice", identifier := "https://op.example/openid20/id/2", createdAt := 1 }

def shared : OpenID20Identifier :=
  { subject := "bob", identifier := "https://op.example/openid20/id/1", createdAt := 2 }

end Sample

open OpenID20.Sample in
theorem identifiers_stable_and_inverse_sequential :
    (Stable pair interleaved.2 ↔ CreatesOnce interleaved.1) ∧
      (migration.Agrees (migration.linkAll [first] .emptyMemory) first.identifier ↔
        first.identifier ≠ "" ∧ (migration.enabled = true →
          Unshared [first] first.identifier ∧ Current [first] first.identifier)) := by
  have h := identifiers_stable_and_inverse Bool provider ports migration rfl uuid4Hex_injective
    fun rows => List.Perm.refl rows
  exact ⟨h.1 pair _ _ _ interleaved_run, h.2.1 [first] first.identifier⟩

open OpenID20.Sample in
theorem identifiers_differ :
    (¬ ∀ trace cfg,
      Run ports.machine (provider.calls pair { repository := .emptyMemory }) trace cfg →
        Stable pair cfg) ∧
    ¬ migration.Agrees (migration.linkAll [first, second] .emptyMemory) first.identifier ∧
    ¬ migration.Agrees (migration.linkAll [first, shared] .emptySql) first.identifier := by
  refine ⟨?_, ?_, ?_⟩
  · intro hclaim
    exact interleaved_differ (hclaim _ _ interleaved_run)
  · intro hagrees
    have h := (hagrees "alice" "").mp ⟨first, rfl, rfl⟩
    revert h
    decide
  · intro hagrees
    obtain ⟨a, ha, hpair⟩ := (hagrees "bob" "").mpr rfl
    cases ha
    revert hpair
    decide

end OpenID20

end PurIdentityServer
