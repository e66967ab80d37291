import PurIdentityServer.Application.Par
import PurIdentityServer.Infrastructure.PushedRows
import PurIdentityServer.Lib.History

/-!
# PushedRequests — from the push to the resolution

Pushes, resolutions and completions one after the other, on the memory
store or on the table of rows, with any other requests and any change of
the registry of clients between them. Until it is completed or expires, a
pushed request is resolved to the request its push validated; afterwards
it is refused.
-/

namespace PurIdentityServer

open Effects

/-! ## Runs -/

/-- A store as the use case sees it. -/
structure Backing (σ : Type) where
  exec : (c : Call) → σ → Reply c × σ
  /-- the clock at an instant, and a registry of clients -/
  setClock : Instant → σ → σ
  setClients : Table Client.clientId → σ → σ

/-- The memory store. -/
def Backing.memory (ports : Ports) : Backing World where
  exec := PurIdentityServer.exec ports
  setClock now w := { w with clock := now }
  setClients clients w := { w with clients := clients }

/-- The table of rows. -/
def Backing.sql (ports : Ports) (keepsZone : Bool) : Backing Database where
  exec := Database.exec ports keepsZone
  setClock now s := { s with world := { s.world with clock := now } }
  setClients clients s := { s with world := { s.world with clients := clients } }

inductive ParEvent where
  | push (resolveObject : FormResolution) (form : Form) (dpopProof : String)
  | resolve (requestUri clientId : String)
  | complete (requestUri : String)
  /-- a request of the server that leaves the pushed requests alone -/
  | elsewhere (program : M Unit Unit) (outside : program.Uses fun c => c.area ≠ .pushed)
  /-- the administration writes the registry of clients -/
  | register (clients : Table Client.clientId)

structure ParArrival where
  instant : Instant
  event : ParEvent

inductive ParAnswer where
  /-- an accepted push, with the request it has validated -/
  | pushed (request : AuthorizeRequest) (clientId : String) (result : PushResult)
  | refused
  | resolved (result : Except (Stop PushError) AuthorizeRequest)
  | done

namespace PushedAuthorizationUseCase

variable {κ σ : Type} (b : PushedAuthorizationUseCase κ) (backing : Backing σ)

/-- A push, with the request it validates. -/
def witnessed (resolveObject : FormResolution) (form : Form) (dpopProof : String) :
    M PushError ParAnswer := do
  let checked ← b.check resolveObject form dpopProof
  let result ← b.store checked
  pure (.pushed checked.request checked.client.clientId result)

/-- Handle an event on the store it meets. -/
def handleOn (s : σ) : ParEvent → ParAnswer × σ
  | .push resolveObject form dpopProof =>
      let ended := (b.witnessed resolveObject form dpopProof).run backing.exec s
      (ended.1.toOption.getD .refused, ended.2)
  | .resolve requestUri clientId =>
      let ended := (resolve requestUri clientId).run backing.exec s
      (.resolved ended.1, ended.2)
  | .complete requestUri =>
      (.done, ((complete requestUri : M Unit Unit).run backing.exec s).2)
  | .elsewhere program _ => (.done, (program.run backing.exec s).2)
  | .register clients => (.done, backing.setClients clients s)

def parService : Service σ ParArrival ParAnswer Instant where
  handle arrival s := b.handleOn backing (backing.setClock arrival.instant s) arrival.event
  begins := ParArrival.instant
  ends := ParArrival.instant
  begins_le_ends := fun _ => le_refl _

/-- The entry is a completion of the reference. -/
def Completes (requestUri : String) (e : Entry ParArrival ParAnswer) : Prop :=
  e.request.event = .complete requestUri

/-! ## What an event leaves of the pushed requests -/

section
variable (ports : Ports) {ε α : Type}

/-- A program that does not call the pushed requests leaves them alone. -/
theorem run_keeps_pushed {p : M ε α} (hp : p.Uses fun c => c.area ≠ .pushed) (w : World) :
    (p.run (exec ports) w).2.pushed = w.pushed ∧
      (p.run (exec ports) w).2.clock = w.clock ∧
      w.draws ≤ (p.run (exec ports) w).2.draws := by
  have hallowed : wp (Monitor.allowing (exec ports) fun c => c.area ≠ .pushed) p
      (fun _ _ => True) (fun _ _ => True) w :=
    wp_of_uses hp (fun _ => True) (fun _ _ _ hc => ⟨hc, fun _ _ => trivial⟩) trivial
  refine run_keeps (fun s => s.pushed = w.pushed ∧ s.clock = w.clock ∧ w.draws ≤ s.draws) ?_
    hallowed ⟨rfl, rfl, le_refl _⟩
  rintro s c ⟨hpushed, hclock, hdraws⟩ hc
  refine ⟨?_, (exec_clock ..).trans hclock, ?_⟩
  · have hframe := Database.exec_frame ports hc s s.pushed
    have hkeep : (exec ports c s).2.pushed = s.pushed := congrArg (fun r => r.2.pushed) hframe
    exact hkeep.trans hpushed
  · refine hdraws.trans ?_
    rw [exec_draws]
    split <;> omega

theorem area_of_passive (c : Call) (h : Call.Passive c) : c.area ≠ .pushed := by
  intro harea
  simp [Call.In, harea] at h

end

/-- How a push ends. -/
inductive Pushes (ports : Ports) (w : World) : Except (Stop PushError) ParAnswer → World → Prop
  | refused {stop w'} (hpushed : w'.pushed = w.pushed) (hdraws : w.draws ≤ w'.draws) :
      Pushes ports w (.error stop) w'
  | stored {checked reached w'} {n : Nat} (hpassed : b.Passed ports checked reached)
      (hn : w.draws ≤ n) (hdraws : n < w'.draws)
      (hpushed : w'.pushed = w.pushed.save (b.row checked (ports.tokenUrlsafe n) w.clock)) :
      Pushes ports w (.ok (.pushed checked.request checked.client.clientId
        ⟨pushedRequestUriPrefix ++ ports.tokenUrlsafe n, b.ttlSeconds⟩)) w'

theorem witnessed_pushes (ports : Ports) (resolveObject : FormResolution) (form : Form)
    (dpopProof : String) (w : World) :
    b.Pushes ports w ((b.witnessed resolveObject form dpopProof).run (exec ports) w).1
      ((b.witnessed resolveObject form dpopProof).run (exec ports) w).2 := by
  obtain ⟨hpushed, hclock, hdraws⟩ := run_keeps_pushed ports
    ((b.check_uses resolveObject form dpopProof).mono area_of_passive) w
  unfold witnessed
  rw [Prog.run_bind]
  rcases hrun : (b.check resolveObject form dpopProof).run (exec ports) w with
    ⟨stop | checked, w'⟩
  · rw [hrun] at hpushed hdraws
    exact .refused hpushed hdraws
  · rw [hrun] at hpushed hclock hdraws
    have hpassed := b.check_passed hrun
    refine .stored (n := w'.draws) hpassed hdraws (Nat.lt_succ_self _) ?_
    show w'.pushed.save (b.row checked (ports.tokenUrlsafe w'.draws) w'.clock) = _
    rw [hpushed, show w'.clock = w.clock from hclock]

/-- What a resolution answers, and what it leaves. -/
theorem run_resolve (ports : Ports) (requestUri clientId : String) (w : World) :
    (resolve requestUri clientId).run (exec ports) w =
      match w.pushed.find requestUri with
      | none =>
          (.error (.refused { error := "invalid_request_uri"
                              errorDescription := "request_uri inconnu ou expiré" }), w)
      | some pushed =>
          if pushed.expiresAt ≤ w.clock then
            (.error (.refused
              (invalidPushedError pushed "invalid_request_uri" "request_uri expiré")),
              { w with pushed := w.pushed.delete requestUri })
          else if pushed.isConsumed then
            (.error (.refused
              (invalidPushedError pushed "invalid_request_uri" "request_uri déjà utilisé")),
              { w with pushed := w.pushed.delete requestUri })
          else if pushed.clientId ≠ clientId then
            (.error (.refused (invalidPushedError pushed "invalid_request"
              "client_id ne correspond pas à la requête poussée")), w)
          else
            (.ok (authorizeRequestOf pushed.params
              ((Dict.get pushed.params "client_id").getD clientId)), w) := by
  unfold resolve
  have hreply : (exec ports (.findByRequestUri requestUri) w).1 = w.pushed.find requestUri := rfl
  rw [run_ask_bind, hreply]
  cases hfind : w.pushed.find requestUri with
  | none => rfl
  | some pushed =>
      dsimp only
      have hclock : (exec ports .now w).1 = w.clock := rfl
      have hstart : (exec ports (.findByRequestUri requestUri) w).2 = w := rfl
      rw [run_ask_bind, hstart, hclock]
      by_cases hexpired : pushed.expiresAt ≤ w.clock
      · rw [if_pos hexpired, if_pos hexpired]
        rfl
      rw [if_neg hexpired, if_neg hexpired]
      by_cases hconsumed : pushed.isConsumed = true
      · rw [if_pos hconsumed, if_pos hconsumed]
        rfl
      rw [if_neg hconsumed, if_neg hconsumed]
      by_cases hclient : pushed.clientId ≠ clientId
      · rw [if_pos hclient]
        simp only [refuseIf, Prog.stopIf, if_pos hclient]
        rfl
      · rw [if_neg hclient]
        simp only [refuseIf, Prog.stopIf, if_neg hclient]
        rfl

theorem run_complete (ports : Ports) (requestUri : String) (w : World) :
    ((complete requestUri : M Unit Unit).run (exec ports) w).2 =
      if (w.pushed.find requestUri).isSome then w.consumePushed requestUri else w := by
  unfold complete
  have hreply : (exec ports (.findByRequestUri requestUri) w).1 = w.pushed.find requestUri := rfl
  rw [run_ask_bind, hreply]
  cases w.pushed.find requestUri <;> rfl

/-! ## What the store knows of a pushed request -/

/-- What is left of a pushed request after the events since its push. -/
inductive Left (pushed : PushedAuthorization) (between : List (Entry ParArrival ParAnswer))
    (now : Instant) (w : World) : Prop
  | fresh (hfind : w.pushed.find pushed.requestUri = some pushed)
      (hnone : ¬∃ e ∈ between, Completes pushed.requestUri e)
  | used (hfind : w.pushed.find pushed.requestUri = some { pushed with isConsumed := true })
      (hsome : ∃ e ∈ between, Completes pushed.requestUri e)
  | gone (hfind : w.pushed.find pushed.requestUri = none)
      (hover : (∃ e ∈ between, Completes pushed.requestUri e) ∨ pushed.expiresAt ≤ now)

section
variable {pushed : PushedAuthorization} {between : List (Entry ParArrival ParAnswer)}
  {now later : Instant} {w w' : World} {e : Entry ParArrival ParAnswer}

theorem exists_completes_append :
    (∃ e' ∈ between ++ [e], Completes pushed.requestUri e') ↔
      (∃ e' ∈ between, Completes pushed.requestUri e') ∨ Completes pushed.requestUri e := by
  simp [or_and_right, exists_or]

/-- An event that leaves the row alone. -/
theorem Left.keep (h : Left pushed between now w) (hle : now ≤ later)
    (hrow : w'.pushed.find pushed.requestUri = w.pushed.find pushed.requestUri)
    (hother : ¬Completes pushed.requestUri e) : Left pushed (between ++ [e]) later w' := by
  cases h with
  | fresh hfind hnone =>
      refine .fresh (hrow.trans hfind) ?_
      rw [exists_completes_append]
      simp only [hnone, hother, or_self, not_false_eq_true]
  | used hfind hsome => exact .used (hrow.trans hfind) (exists_completes_append.mpr (.inl hsome))
  | gone hfind hover =>
      refine .gone (hrow.trans hfind) ?_
      rcases hover with hsome | hexpired
      · exact .inl (exists_completes_append.mpr (.inl hsome))
      · exact .inr (hexpired.trans hle)

/-- A completion of the request. -/
theorem Left.complete (h : Left pushed between now w) (hcompletes : Completes pushed.requestUri e)
    (hrow : w'.pushed.find pushed.requestUri =
      (w.pushed.find pushed.requestUri).map ({ · with isConsumed := true })) :
    Left pushed (between ++ [e]) later w' := by
  have hsome : ∃ e' ∈ between ++ [e], Completes pushed.requestUri e' :=
    exists_completes_append.mpr (.inr hcompletes)
  cases h with
  | fresh hfind hnone => exact .used (by rw [hrow, hfind]; rfl) hsome
  | used hfind _ => exact .used (by rw [hrow, hfind]; rfl) hsome
  | gone hfind _ => exact .gone (by rw [hrow, hfind]; rfl) (.inl hsome)

/-- The removal of a request that is over. -/
theorem Left.delete (h : Left pushed between now w) (hle : now ≤ later)
    (hunconsumed : pushed.isConsumed = false) (hrow : w'.pushed.find pushed.requestUri = none)
    (hover : ∀ row, w.pushed.find pushed.requestUri = some row →
      row.expiresAt ≤ later ∨ row.isConsumed = true) :
    Left pushed (between ++ [e]) later w' := by
  refine .gone hrow ?_
  cases h with
  | fresh hfind _ =>
      rcases hover pushed hfind with hexpired | hconsumed
      · exact .inr hexpired
      · rw [hunconsumed] at hconsumed
        cases hconsumed
  | used _ hsome => exact .inl (exists_completes_append.mpr (.inl hsome))
  | gone _ hdone =>
      rcases hdone with hsome | hexpired
      · exact .inl (exists_completes_append.mpr (.inl hsome))
      · exact .inr (hexpired.trans hle)

end

section
variable {ports : Ports} {between : List (Entry ParArrival ParAnswer)} {now : Instant} {w : World}
  {pushed : PushedAuthorization} {n : Nat}

/-- One event after the push. -/
theorem Left.step (hinj : Function.Injective ports.tokenUrlsafe)
    (huri : pushed.requestUri = pushedRequestUriPrefix ++ ports.tokenUrlsafe n)
    (hunconsumed : pushed.isConsumed = false) (h : Left pushed between now w) (hn : n < w.draws)
    (arrival : ParArrival) (hle : now ≤ arrival.instant) :
    Left pushed (between ++
        [⟨arrival, ((b.parService (.memory ports)).handle arrival w).1⟩]) arrival.instant
      ((b.parService (.memory ports)).handle arrival w).2 ∧
      n < ((b.parService (.memory ports)).handle arrival w).2.draws := by
  obtain ⟨instant, event⟩ := arrival
  cases event with
  | push resolveObject form dpopProof =>
      have hother : ∀ answer, ¬Completes pushed.requestUri
          ⟨⟨instant, .push resolveObject form dpopProof⟩, answer⟩ := nofun
      have hpushes := b.witnessed_pushes ports resolveObject form dpopProof
        { w with clock := instant }
      cases hrun : ((b.witnessed resolveObject form dpopProof).run (exec ports)
        { w with clock := instant }).1 with
      | error stop =>
          rw [hrun] at hpushes
          cases hpushes with
          | refused hpushed hdraws =>
              exact ⟨h.keep hle (congrArg (·.find pushed.requestUri) hpushed) (hother _),
                hn.trans_le hdraws⟩
      | ok answer =>
          rw [hrun] at hpushes
          cases hpushes with
          | @stored _ _ _ m hpassed hm hdraws hpushed =>
              have hle' : w.draws ≤ m := hm
              refine ⟨h.keep hle ?_ (hother _), (hn.trans_le hle').trans hdraws⟩
              refine (congrArg (·.find pushed.requestUri) hpushed).trans ?_
              refine Table.find_save_of_ne _ ?_
              rw [huri]
              intro heq
              have hreference := hinj (String.append_right_inj _ |>.mp heq)
              omega
  | resolve requestUri clientId =>
      have hother : ∀ answer, ¬Completes pushed.requestUri
          ⟨⟨instant, .resolve requestUri clientId⟩, answer⟩ := nofun
      have hrun := run_resolve ports requestUri clientId { w with clock := instant }
      have hnext : ((b.parService (.memory ports)).handle ⟨instant, .resolve requestUri clientId⟩
          w).2 = ((resolve requestUri clientId).run (exec ports) { w with clock := instant }).2 :=
        rfl
      rw [hnext, hrun]
      cases hfind : ({ w with clock := instant } : World).pushed.find requestUri with
      | none => exact ⟨h.keep hle rfl (hother _), hn⟩
      | some row =>
          have hfind' : w.pushed.find requestUri = some row := hfind
          dsimp only
          by_cases hover : row.expiresAt ≤ instant ∨ row.isConsumed = true
          · have hdelete : Left pushed (between ++
                [⟨⟨instant, .resolve requestUri clientId⟩,
                  ((b.parService (.memory ports)).handle
                    ⟨instant, .resolve requestUri clientId⟩ w).1⟩]) instant
                ({ w with clock := instant, pushed := w.pushed.delete requestUri } : World) := by
              by_cases hsame : pushed.requestUri = requestUri
              · refine h.delete hle hunconsumed ?_ ?_
                · show (w.pushed.delete requestUri).find pushed.requestUri = none
                  rw [hsame]
                  simp
                · intro row' hrow'
                  rw [hsame, hfind'] at hrow'
                  cases hrow'
                  exact hover
              · refine h.keep hle ?_ (hother _)
                exact Table.find_delete_of_ne _ hsame
            by_cases hexpired : row.expiresAt ≤ instant
            · rw [if_pos hexpired]
              exact ⟨hdelete, hn⟩
            · rw [if_neg hexpired, if_pos (hover.resolve_left hexpired)]
              exact ⟨hdelete, hn⟩
          · rw [not_or] at hover
            rw [if_neg hover.1, if_neg hover.2]
            split <;> exact ⟨h.keep hle rfl (hother _), hn⟩
  | complete requestUri =>
      have hrun := run_complete ports requestUri { w with clock := instant }
      have hnext : ((b.parService (.memory ports)).handle ⟨instant, .complete requestUri⟩ w).2 =
        ((PushedAuthorizationUseCase.complete requestUri : M Unit Unit).run (exec ports)
          { w with clock := instant }).2 := rfl
      rw [hnext, hrun]
      by_cases hsame : pushed.requestUri = requestUri
      · subst hsame
        split
        · refine ⟨h.complete rfl ?_, hn⟩
          exact Table.find_update_self w.pushed _ ({ · with isConsumed := true }) fun _ => rfl
        · rename_i hnone
          have hnone' : w.pushed.find pushed.requestUri = none :=
            Option.not_isSome_iff_eq_none.mp hnone
          refine ⟨h.complete rfl ?_, hn⟩
          show w.pushed.find pushed.requestUri = _
          rw [hnone']
          rfl
      · have hother : ∀ answer, ¬Completes pushed.requestUri
            ⟨⟨instant, .complete requestUri⟩, answer⟩ := by
          intro answer hcompletes
          cases hcompletes
          exact hsame rfl
        split
        · refine ⟨h.keep hle ?_ (hother _), hn⟩
          exact Table.find_update_of_ne w.pushed hsame ({ · with isConsumed := true }) fun _ => rfl
        · exact ⟨h.keep hle rfl (hother _), hn⟩
  | elsewhere program outside =>
      obtain ⟨hpushed, -, hdraws⟩ := run_keeps_pushed ports outside
        { w with clock := instant }
      exact ⟨h.keep hle (congrArg (·.find pushed.requestUri) hpushed) nofun, hn.trans_le hdraws⟩
  | register clients => exact ⟨h.keep hle rfl nofun, hn⟩

/-- The events after the push. -/
theorem Left.run (hinj : Function.Injective ports.tokenUrlsafe)
    (huri : pushed.requestUri = pushedRequestUriPrefix ++ ports.tokenUrlsafe n)
    (hunconsumed : pushed.isConsumed = false) {w₀ : World} (hn : n < w₀.draws)
    (hfind : w₀.pushed.find pushed.requestUri = some pushed)
    (hrun : History (b.parService (.memory ports)) w₀ between now w) :
    Left pushed between now w ∧ n < w.draws := by
  refine hrun.invariant (I := fun between now w => Left pushed between now w ∧ n < w.draws) ?_ ?_
  · intro _
    exact ⟨.fresh hfind (by simp), hn⟩
  · rintro entries now w arrival ⟨h, hn⟩ hle -
    exact Left.step b hinj huri hunconsumed h hn arrival hle

end

/-! ## The agreement -/

/-- On a store, a request accepted by a push is the one a resolution rebuilds for its client
until it is completed or expires, and is refused afterwards. -/
def Agrees {σ : Type} (ports : Ports) (backing : Backing σ) (initial : σ) : Prop :=
  ∀ (older between newer : List (Entry ParArrival ParAnswer)) (p e : Entry ParArrival ParAnswer)
    (now : Instant) (s : σ) (request : AuthorizeRequest) (owner : String) (result : PushResult)
    (clientId : String),
    History (b.parService backing) initial (older ++ p :: (between ++ e :: newer)) now s →
    p.answer = .pushed request owner result →
    e.request.event = .resolve result.requestUri clientId →
      (∃ w validated w', (validateAuthorizationRequest b.platform b.scopeRegistry request).run
        (exec ports) w = (.ok validated, w')) ∧
      ((¬∃ c ∈ between, Completes result.requestUri c) →
        e.request.instant < p.request.instant + seconds b.ttlSeconds → clientId = owner →
          e.answer = .resolved (.ok request)) ∧
      ((∃ c ∈ between, Completes result.requestUri c) ∨
        p.request.instant + seconds b.ttlSeconds ≤ e.request.instant →
          ∃ error, e.answer = .resolved (.error (.refused error)))

/-- The answer to a resolution is the program's. -/
theorem resolve_answer {σ : Type} {backing : Backing σ} {arrival : ParArrival} {s : σ}
    {requestUri clientId : String} (h : arrival.event = .resolve requestUri clientId) :
    ((b.parService backing).handle arrival s).1 = .resolved ((resolve requestUri clientId).run
      backing.exec (backing.setClock arrival.instant s)).1 := by
  obtain ⟨instant, event⟩ := arrival
  cases h
  rfl

/-- An accepted push has stored its row. -/
theorem pushed_answer {ports : Ports} {arrival : ParArrival} {w : World}
    {request : AuthorizeRequest} {owner : String} {result : PushResult}
    (h : ((b.parService (.memory ports)).handle arrival w).1 = .pushed request owner result) :
    ∃ checked reached n, b.Passed ports checked reached ∧ request = checked.request ∧
      owner = checked.client.clientId ∧
      result.requestUri = pushedRequestUriPrefix ++ ports.tokenUrlsafe n ∧
      n < ((b.parService (.memory ports)).handle arrival w).2.draws ∧
      ((b.parService (.memory ports)).handle arrival w).2.pushed =
        w.pushed.save (b.row checked (ports.tokenUrlsafe n) arrival.instant) := by
  obtain ⟨instant, event⟩ := arrival
  cases event with
  | push resolveObject form dpopProof =>
      have hpushes := b.witnessed_pushes ports resolveObject form dpopProof
        { w with clock := instant }
      have hanswer : ((b.witnessed resolveObject form dpopProof).run (exec ports)
          { w with clock := instant }).1.toOption.getD .refused = .pushed request owner result := h
      cases hrun : ((b.witnessed resolveObject form dpopProof).run (exec ports)
        { w with clock := instant }).1 with
      | error stop =>
          rw [hrun] at hanswer
          cases hanswer
      | ok answer =>
          rw [hrun] at hanswer hpushes
          cases hpushes with
          | @stored checked reached _ n hpassed hn hdraws hpushed =>
              cases hanswer
              exact ⟨checked, reached, n, hpassed, rfl, rfl, rfl, hdraws, hpushed⟩
  | resolve requestUri clientId => cases h
  | complete requestUri => cases h
  | elsewhere program outside => cases h
  | register clients => cases h

/-- What the memory store answers to the resolution of a request. -/
theorem Left.resolves (ports : Ports) {pushed : PushedAuthorization}
    {between : List (Entry ParArrival ParAnswer)} {now instant : Instant} {w : World}
    (h : Left pushed between now w) (hle : now ≤ instant)
    (hunconsumed : pushed.isConsumed = false) (clientId : String) :
    ((¬∃ c ∈ between, Completes pushed.requestUri c) → instant < pushed.expiresAt →
      clientId = pushed.clientId →
        ((resolve pushed.requestUri clientId).run (exec ports) { w with clock := instant }).1 =
          .ok (authorizeRequestOf pushed.params
            ((Dict.get pushed.params "client_id").getD clientId))) ∧
    ((∃ c ∈ between, Completes pushed.requestUri c) ∨ pushed.expiresAt ≤ instant →
      ∃ error, ((resolve pushed.requestUri clientId).run (exec ports)
        { w with clock := instant }).1 = .error (.refused error)) := by
  rw [run_resolve]
  cases h with
  | fresh hfind hnone =>
      have hfind' : ({ w with clock := instant } : World).pushed.find pushed.requestUri =
          some pushed := hfind
      simp only [hfind', hunconsumed]
      constructor
      · intro _ hlt hclient
        rw [if_neg (not_le.mpr hlt)]
        simp [hclient]
      · intro hover
        rw [if_pos (hover.resolve_left hnone)]
        exact ⟨_, rfl⟩
  | used hfind hsome =>
      have hfind' : ({ w with clock := instant } : World).pushed.find pushed.requestUri =
          some { pushed with isConsumed := true } := hfind
      simp only [hfind']
      refine ⟨fun hnone => absurd hsome hnone, fun _ => ?_⟩
      split
      · exact ⟨_, rfl⟩
      · exact ⟨_, rfl⟩
  | gone hfind hover =>
      have hfind' : ({ w with clock := instant } : World).pushed.find pushed.requestUri = none :=
        hfind
      simp only [hfind']
      refine ⟨fun hnone hlt => ?_, fun _ => ⟨_, rfl⟩⟩
      rcases hover with hsome | hexpired
      · exact absurd hsome hnone
      · exact absurd (hexpired.trans hle) (not_le.mpr hlt)

theorem memory_agrees {ports : Ports} (hinj : Function.Injective ports.tokenUrlsafe)
    (initial : World) : b.Agrees ports (.memory ports) initial := by
  intro older between newer p e now s request owner result clientId hrun hpushed hresolve
  have hentries : older ++ p :: (between ++ e :: newer) =
      (older ++ [p]) ++ (between ++ e :: newer) := by simp
  rw [hentries] at hrun
  obtain ⟨_, afterPush, hfirst, hsecond⟩ := hrun.split
  obtain ⟨_, beforePush, -, -, -, hanswer, rfl, -⟩ := hfirst.last
  obtain ⟨reachedAt, beforeResolve, hbetween, hle, -, hresolved⟩ := hsecond.before
  obtain ⟨checked, passedAt, n, hpassed, rfl, rfl, huri, hn, hstored⟩ :=
    b.pushed_answer (hanswer.symm.trans hpushed)
  let row := b.row checked (ports.tokenUrlsafe n) p.request.instant
  have hrow : row.requestUri = result.requestUri := huri.symm
  have hfind : ((b.parService (.memory ports)).handle p.request beforePush).2.pushed.find
      row.requestUri = some row := by
    rw [hstored]
    exact Table.find_save_self _ row
  obtain ⟨hleft, -⟩ := Left.run b hinj rfl rfl hn hfind hbetween
  have hinstant : reachedAt ≤ e.request.instant := hle
  have hresolves := hleft.resolves ports hinstant rfl clientId
  rw [hrow] at hresolves
  have hrequest := b.authorizeRequestOf_row hpassed (ports.tokenUrlsafe n) clientId
    p.request.instant
  have hans : e.answer = .resolved ((resolve result.requestUri clientId).run (exec ports)
      { beforeResolve with clock := e.request.instant }).1 :=
    hresolved.trans (b.resolve_answer hresolve)
  refine ⟨?_, fun hnone hlt hclient => ?_, fun hover => ?_⟩
  · obtain ⟨w, hvalidated⟩ := hpassed.validated
    exact ⟨w, _, _, hvalidated⟩
  · rw [hans, hresolves.1 hnone hlt hclient, hrequest]
  · obtain ⟨error, herror⟩ := hresolves.2 hover
    exact ⟨error, by rw [hans, herror]⟩

/-! ## The table of rows -/

section
open Database

theorem witnessed_storable (resolveObject : FormResolution) (form : Form) (dpopProof : String) :
    (b.witnessed resolveObject form dpopProof).Uses Storable := by
  refine Prog.uses_bind ((b.check_uses resolveObject form dpopProof).mono fun c hc =>
    storable_of_area (area_of_passive c hc)) fun checked => ?_
  refine Prog.uses_bind ?_ fun result => Prog.uses_pure _ _
  refine Prog.uses_bind (Prog.uses_op (storable_of_area (by decide))) fun reference => ?_
  refine Prog.uses_bind (Prog.uses_op (storable_of_area (by decide))) fun now => ?_
  refine Prog.uses_bind (Prog.uses_op ?_) fun _ => Prog.uses_pure _ _
  rintro pushed heq
  cases heq
  exact (checked.form.without ["client_secret"]).nodup

theorem resolve_storable (requestUri clientId : String) :
    (resolve requestUri clientId).Uses Storable := by
  refine Prog.uses_bind (Prog.uses_op (by intro _ h; cases h)) fun found => ?_
  cases found with
  | none => exact Prog.uses_fail _ _
  | some pushed =>
      refine Prog.uses_bind (Prog.uses_op (by intro _ h; cases h)) fun now => ?_
      split
      · exact Prog.uses_bind (Prog.uses_op (by intro _ h; cases h)) fun _ => Prog.uses_fail _ _
      split
      · exact Prog.uses_bind (Prog.uses_op (by intro _ h; cases h)) fun _ => Prog.uses_fail _ _
      · exact Prog.uses_bind (uses_refuseIf _ _ _) fun _ => Prog.uses_pure _ _

theorem complete_storable (requestUri : String) :
    (complete requestUri : M Unit Unit).Uses Storable := by
  refine Prog.uses_bind (Prog.uses_op nofun) fun found => ?_
  cases found with
  | none => exact Prog.uses_pure _ _
  | some pushed => exact Prog.uses_bind (Prog.uses_op nofun) fun _ => Prog.uses_pure _ _

/-- An event ends alike on the table of rows and on the memory store. -/
theorem handle_represents (ports : Ports) (keepsZone : Bool) (arrival : ParArrival)
    (s : Database) (w : World) (h : s.Represents w) :
    ((b.parService (.sql ports keepsZone)).handle arrival s).1 =
        ((b.parService (.memory ports)).handle arrival w).1 ∧
      ((b.parService (.sql ports keepsZone)).handle arrival s).2.Represents
        ((b.parService (.memory ports)).handle arrival w).2 := by
  obtain ⟨instant, event⟩ := arrival
  have hstart : ((Backing.sql ports keepsZone).setClock instant s).Represents
      { w with clock := instant } :=
    ⟨h.rows, congrArg (fun v : World => { v with clock := instant }) h.world⟩
  cases event with
  | push resolveObject form dpopProof =>
      obtain ⟨hanswer, hnext⟩ := run_represents ports keepsZone
        (b.witnessed_storable resolveObject form dpopProof) hstart
      exact ⟨congrArg (·.toOption.getD .refused) hanswer, hnext⟩
  | resolve requestUri clientId =>
      obtain ⟨hanswer, hnext⟩ := run_represents ports keepsZone
        (resolve_storable requestUri clientId) hstart
      exact ⟨congrArg ParAnswer.resolved hanswer, hnext⟩
  | complete requestUri =>
      exact ⟨rfl, (run_represents ports keepsZone
        (complete_storable requestUri) hstart).2⟩
  | elsewhere program outside =>
      exact ⟨rfl, (run_represents ports keepsZone
        (outside.mono fun _ hc => storable_of_area hc) hstart).2⟩
  | register clients =>
      exact ⟨rfl, h.rows, congrArg (fun v : World => { v with clock := instant, clients := clients })
        h.world⟩

theorem sql_agrees {ports : Ports} (hinj : Function.Injective ports.tokenUrlsafe)
    (keepsZone : Bool) (initial : Database) :
    b.Agrees ports (.sql ports keepsZone) initial := by
  intro older between newer p e now s request owner result clientId hrun
  obtain ⟨w, hw⟩ := initial.represented
  obtain ⟨w', hmemory, -⟩ : ∃ w', History (b.parService (.memory ports)) w
      (older ++ p :: (between ++ e :: newer)) now w' ∧ s.Represents w' :=
    hrun.simulates Represents (fun _ => rfl) (fun _ => rfl) (fun _ h => h)
      (fun arrival s w _ h => b.handle_represents ports keepsZone arrival s w h) hw
  exact b.memory_agrees hinj w older between newer p e now w' request owner result clientId hmemory

end

/-- Through the memory store and through the table of rows, a pushed request is resolved to the
request its push validated until it is completed or expires, and refused afterwards. -/
theorem resolves_what_was_pushed {ports : Ports} (hinj : Function.Injective ports.tokenUrlsafe) :
    (∀ initial, b.Agrees ports (.memory ports) initial) ∧
      ∀ keepsZone initial, b.Agrees ports (.sql ports keepsZone) initial :=
  ⟨b.memory_agrees hinj, b.sql_agrees hinj⟩

/-! ## A request resolved ten seconds after its push -/

namespace Sample

def useCase : PushedAuthorizationUseCase Unit where
  endpoints := ClientEndpoints.Sample.server

def form : Form where
  params :=
    [("client_id", "app"), ("response_type", "code"),
      ("redirect_uri", "https://app.example/cb"), ("scope", "openid"), ("max_age", "60")]
  nodup := by decide

def pushAt : ParArrival := ⟨0, .push .ok form ""⟩

/-- The reference is resolved after some seconds. -/
def resolveAt (after : Int) : ParArrival :=
  ⟨seconds after, .resolve (pushedRequestUriPrefix ++ "v") "app"⟩

def start : Database where
  world := PurIdentityServer.Sample.world

/-- On the table of a database that drops time zones. -/
def service : Service Database ParArrival ParAnswer Instant :=
  useCase.parService (.sql PurIdentityServer.Sample.ports false)

def pushed : Entry ParArrival ParAnswer := ⟨pushAt, (service.handle pushAt start).1⟩

def resolved (after : Int) : Entry ParArrival ParAnswer :=
  ⟨resolveAt after, (service.handle (resolveAt after) (service.handle pushAt start).2).1⟩

theorem history (after : Int) (h : 0 ≤ after) :
    History service start ([] ++ pushed :: ([] ++ resolved after :: [])) (seconds after)
      (service.handle (resolveAt after) (service.handle pushAt start).2).2 := by
  have hle : (0 : Int) ≤ seconds after := by
    simp only [seconds]
    omega
  exact .step (.step (.start 0) pushAt (le_refl _) trivial) (resolveAt after) hle trivial

theorem tokenUrlsafe_inj : Function.Injective PurIdentityServer.Sample.ports.tokenUrlsafe := by
  intro m n h
  exact PurIdentityServer.Sample.drawn_inj (congrArg (tokenHash _) h)

end Sample

open PushedAuthorizationUseCase.Sample in
theorem resolves_what_was_pushed_in_time :
    (resolved 10).answer = .resolved (.ok (authorizeRequestOf form.params "app")) ∧
      ∃ error, (resolved 90).answer = .resolved (.error (.refused error)) := by
  have hpushed : pushed.answer = .pushed (authorizeRequestOf form.params "app") "app"
      ⟨pushedRequestUriPrefix ++ "v", 90⟩ := rfl
  have hagrees := (useCase.resolves_what_was_pushed tokenUrlsafe_inj).2 false start
  constructor
  · exact (hagrees [] [] [] pushed (resolved 10) _ _ _ _ _ "app" (history 10 (by decide)) hpushed
      rfl).2.1 (by simp) (by decide) rfl
  · exact (hagrees [] [] [] pushed (resolved 90) _ _ _ _ _ "app" (history 90 (by decide)) hpushed
      rfl).2.2 (.inr (by decide))

end PushedAuthorizationUseCase

end PurIdentityServer
