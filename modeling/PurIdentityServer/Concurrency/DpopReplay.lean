import PurIdentityServer.Application.Token
import PurIdentityServer.Infrastructure.DpopProof
import PurIdentityServer.Lib.Expiring

/-!
# DpopReplay — how often a proof is accepted

Validations of DPoP proofs and purges of the replay store, first one after
the other under any nondecreasing sequence of clock readings, on the
memory store and on the SQL store, then interleaved in any way on the SQL
store.

The rows of the replay store are an expiring table: an accepted validation
adds a row that lives for twice the skew of the `iat`, a purge drops the
rows that have expired. A `jti` is therefore accepted again only when its
row has expired, which one and the same proof, validated one time after
the other, reaches at a single instant: the last of its window.
-/

namespace PurIdentityServer

open Effects

namespace PyJWTDpopProofValidator

variable {κ : Type} (v : PyJWTDpopProofValidator κ)

/-! ## Operations -/

inductive ReplayStore where
  | memory | sql

/-- A call on one of the two stores: the memory store replaces a row under the same key. -/
def replayExec (store : ReplayStore) (ports : Ports) : (c : Call) → World → Reply c × World
  | .saveReplay row, w =>
      match store with
      | .memory => (.ok (), { w with replays := w.replays.save row })
      | .sql => w.insertReplay row
  | c, w => exec ports c w

/-- What is asked of the replay store. -/
inductive Operation where
  | validate (proof htu method ath : String)
  | purge

inductive Outcome where
  | validated (result : Except DpopValidationError DPoPProof)
  | purged

/-- The proof an operation validates. -/
def Operation.proof : Operation → Option String
  | .validate proof _ _ _ => some proof
  | .purge => none

def program : Operation → M Empty Outcome
  | .validate proof htu method ath => do
      let result ← v.validate proof htu method ath
      pure (.validated result)
  | .purge => do
      let _ ← ask .purgeReplays
      pure .purged

/-- The proof an operation accepted. -/
def Outcome.proof : Outcome → Option DPoPProof
  | .validated (.ok payload) => some payload
  | _ => none

/-! ## One after the other -/

/-- An operation that has ended, with the first of its clock readings. -/
structure Served where
  operation : Operation
  first : Nat
  result : Except (Stop Empty) Outcome

/-- The proof that was accepted. -/
def Served.accepted (e : Served) : Option DPoPProof := e.result.toOption.bind Outcome.proof

/-- The store at the `n`-th reading of the clock. -/
def atReading (clock : Nat → Instant) (n : Nat) (w : World) : World := { w with clock := clock n }

/-- Operations one after the other; every call takes the next reading of the clock. -/
def serve (ports : Ports) (store : ReplayStore) (clock : Nat → Instant) :
    List Operation → Nat → World → List Served
  | [], _, _ => []
  | op :: rest, n, w =>
      let end_ := (v.program op).timed (replayExec store ports) (atReading clock) n w
      ⟨op, n, end_.1⟩ :: serve ports store clock rest end_.2.1 end_.2.2

/-- How long a row is kept. -/
def retention : Int := seconds (2 * dpopIatSkewSeconds)

/-- The row of an accepted proof, stamped at an instant. -/
def row (payload : DPoPProof) (now : Instant) : DPoPReplay :=
  ⟨v.platform.sha256Hex payload.jti, now + retention⟩

/-- How a validation ends: it leaves the rows alone, or it accepts a proof whose `jti` has
no row, adds the row and purges. -/
inductive Ends (clock : Nat → Instant) (op : Operation) (n : Nat) (w : World) :
    Except (Stop Empty) Outcome → Nat → World → Prop
  | refused {result n' w'} (hresult : result.toOption.bind Outcome.proof = none)
      (hcalls : n ≤ n') (hrows : w'.replays = w.replays) : Ends clock op n w result n' w'
  | purged {result w'} (hresult : result.toOption.bind Outcome.proof = none)
      (hrows : w'.replays = Expiring.purge DPoPReplay.expiresAt w.replays (clock n)) :
      Ends clock op n w result (n + 1) w'
  | accepted {proof htu method ath payload w'} (hop : op = .validate proof htu method ath)
      (hcheck : v.check proof htu method ath (clock n) = .ok payload)
      (hfresh : w.replays.find (v.platform.sha256Hex payload.jti) = none)
      (hrows : w'.replays = Expiring.purge DPoPReplay.expiresAt
        (w.replays.save (v.row payload (clock (n + 1)))) (clock (n + 4))) :
      Ends clock op n w (.ok (.validated (.ok payload))) (n + 5) w'

/-- An insertion that meets no row under its key. -/
theorem insertReplay_of_absent {w : World} {row : DPoPReplay}
    (h : w.replays.find row.jtiHash = none) :
    w.insertReplay row = (.ok (), { w with replays := w.replays.save row }) := by
  unfold World.insertReplay
  simp [h]

section
variable (ports : Ports) (store : ReplayStore) (clock : Nat → Instant)

/-- The end of a validation, from the reading that stamps its row. -/
theorem timed_remember (payload : DPoPProof) (n : Nat) (w : World) :
    (v.remember payload >>= fun result => pure (.validated result) : M Empty Outcome).timed
        (replayExec store ports) (atReading clock) n w =
      if (w.replays.find (v.platform.sha256Hex payload.jti)).isSome then
        (.ok (.validated (.error (reject
            "Le jti de la preuve DPoP a déjà été présenté (RFC 9449 §11)"))),
          n + 2, atReading clock (n + 1) w)
      else
        (.ok (.validated (.ok payload)), n + 4,
          { w with
            clock := clock (n + 3)
            replays := Expiring.purge DPoPReplay.expiresAt
              (w.replays.save (v.row payload (clock n))) (clock (n + 3)) }) := by
  have hstep : (v.remember payload >>= fun result => pure (.validated result) :
      M Empty Outcome).timed (replayExec store ports) (atReading clock) n w =
      ((if (w.replays.find (v.platform.sha256Hex payload.jti)).isSome then
          pure (.error (reject "Le jti de la preuve DPoP a déjà été présenté (RFC 9449 §11)"))
        else do
          let _ ← ask (.saveReplay (v.row payload (clock n))) >>= orRaise
          let _ ← ask .purgeReplays
          pure (.ok payload) : M Empty _) >>= fun result => pure (.validated result) :
        M Empty Outcome).timed (replayExec store ports) (atReading clock) (n + 2)
          (atReading clock (n + 1) w) := rfl
  rw [hstep]
  by_cases hused : (w.replays.find (v.platform.sha256Hex payload.jti)).isSome = true
  · rw [if_pos hused, if_pos hused]
    rfl
  · rw [if_neg hused, if_neg hused]
    cases store with
    | memory => rfl
    | sql =>
        have habsent : (atReading clock (n + 2) (atReading clock (n + 1) w)).replays.find
            (v.row payload (clock n)).jtiHash = none :=
          Option.not_isSome_iff_eq_none.mp hused
        have hsave : (((ask (.saveReplay (v.row payload (clock n))) >>= orRaise) >>= fun _ =>
            ask .purgeReplays >>= fun _ => pure (.ok payload) : M Empty _) >>=
              fun result => pure (.validated result) : M Empty Outcome).timed
              (replayExec .sql ports) (atReading clock) (n + 2) (atReading clock (n + 1) w) =
            (((orRaise ((atReading clock (n + 2) (atReading clock (n + 1) w)).insertReplay
                (v.row payload (clock n))).1 : M Empty Unit) >>= fun _ =>
              ask .purgeReplays >>= fun _ => pure (.ok payload) : M Empty _) >>=
                fun result => pure (.validated result) : M Empty Outcome).timed
              (replayExec .sql ports) (atReading clock) (n + 3)
                ((atReading clock (n + 2) (atReading clock (n + 1) w)).insertReplay
                  (v.row payload (clock n))).2 := rfl
        rw [hsave, insertReplay_of_absent habsent]
        rfl

/-- What `validate` does with the outcome of its checks. -/
def settle : Checked DPoPProof → M Empty (Except DpopValidationError DPoPProof)
  | .error (.refused e) => pure (.error e)
  | .error (.raised x) => raise x
  | .ok payload => v.remember payload

theorem timed_ends (op : Operation) (n : Nat) (w : World) :
    v.Ends clock op n w
      ((v.program op).timed (replayExec store ports) (atReading clock) n w).1
      ((v.program op).timed (replayExec store ports) (atReading clock) n w).2.1
      ((v.program op).timed (replayExec store ports) (atReading clock) n w).2.2 := by
  cases op with
  | purge => exact .purged rfl rfl
  | validate proof htu method ath =>
      have hstep : (v.program (.validate proof htu method ath)).timed (replayExec store ports)
          (atReading clock) n w =
          (v.settle (v.check proof htu method ath (clock n)) >>=
            fun result => pure (.validated result) : M Empty Outcome).timed
            (replayExec store ports) (atReading clock) (n + 1) (atReading clock n w) := rfl
      rw [hstep]
      cases hcheck : v.check proof htu method ath (clock n) with
      | error stop =>
          cases stop with
          | refused e => exact .refused rfl (Nat.le_succ n) rfl
          | raised x => exact .refused rfl (Nat.le_succ n) rfl
      | ok payload =>
          unfold settle
          rw [v.timed_remember]
          cases hused : (w.replays.find (v.platform.sha256Hex payload.jti)).isSome with
          | true =>
              have hused' : ((atReading clock n w).replays.find
                  (v.platform.sha256Hex payload.jti)).isSome = true := hused
              rw [if_pos hused']
              exact .refused rfl (Nat.le_add_right n 3) rfl
          | false =>
              have hused' : ¬((atReading clock n w).replays.find
                  (v.platform.sha256Hex payload.jti)).isSome = true := by
                rw [show ((atReading clock n w).replays = w.replays) from rfl, hused]
                exact Bool.false_ne_true
              rw [if_neg hused']
              exact .accepted rfl hcheck (Option.isSome_eq_false_iff.mp hused |> Option.isNone_iff_eq_none.mp) rfl

end

/-! ## The rows as an expiring table -/

/-- A row is promised until it expires. -/
def promised (r : DPoPReplay) : WithBot Instant := r.expiresAt

/-- The rows of an accepted proof. -/
def rowsOf (result : Except (Stop Empty) Outcome) (stamp : Instant) : List DPoPReplay :=
  match result.toOption.bind Outcome.proof with
  | some payload => [v.row payload stamp]
  | none => []

section
variable {v} {clock : Nat → Instant} {op : Operation} {n n' : Nat} {w w' : World}
  {result : Except (Stop Empty) Outcome} {saved : List DPoPReplay} {t : Instant}

/-- What one operation does to the rows. -/
theorem Ends.expiring (h : v.Ends clock op n w result n' w')
    (hclock : ∀ m m', m ≤ m' → clock m ≤ clock m')
    (hrun : Expiring.Run DPoPReplay.expiresAt promised saved t w.replays) (ht : t ≤ clock n) :
    n ≤ n' ∧ Expiring.Run DPoPReplay.expiresAt promised
      (saved ++ v.rowsOf result (clock (n + 1))) (clock n') w'.replays := by
  have hstart := hrun.wait ht
  cases h with
  | refused hresult hcalls hrows =>
      refine ⟨hcalls, ?_⟩
      rw [rowsOf, hresult, hrows, List.append_nil]
      exact hstart.wait (hclock n n' hcalls)
  | purged hresult hrows =>
      refine ⟨Nat.le_succ n, ?_⟩
      rw [rowsOf, hresult, hrows, List.append_nil]
      exact hstart.purge.wait (hclock n _ (Nat.le_succ n))
  | @accepted proof htu method ath payload _ hop hcheck hfresh hrows =>
      refine ⟨Nat.le_add_right n 5, ?_⟩
      rw [hrows]
      have hsave : Expiring.Run DPoPReplay.expiresAt promised
          (saved ++ [v.row payload (clock (n + 1))]) (clock n)
          (w.replays.save (v.row payload (clock (n + 1)))) := by
        apply hstart.save _ le_rfl
        intro u hfind
        rw [show (v.row payload (clock (n + 1))).jtiHash = v.platform.sha256Hex payload.jti
          from rfl, hfresh] at hfind
        cases hfind
      have hpurge := (hsave.wait (hclock n (n + 4) (by omega))).purge
      exact hpurge.wait (hclock (n + 4) (n + 5) (by omega))

/-- An accepted proof met no row that had not expired. -/
theorem Ends.expired (h : v.Ends clock op n w result n' w')
    (hrun : Expiring.Run DPoPReplay.expiresAt promised saved t w.replays) (ht : t ≤ clock n)
    {payload : DPoPProof} (hresult : result.toOption.bind Outcome.proof = some payload) :
    ∀ r ∈ saved, r.jtiHash = v.platform.sha256Hex payload.jti → r.expiresAt ≤ clock n := by
  intro r hmem hhash
  cases h with
  | refused hnone => rw [hnone] at hresult; cases hresult
  | purged hnone => rw [hnone] at hresult; cases hresult
  | accepted hop hcheck hfresh hrows =>
      cases hresult
      rw [← hhash] at hfresh
      have hpassed := Expiring.passed_of_absent hrun hmem hfresh
      exact (WithBot.coe_le_coe.mp hpassed).trans ht

/-! ## Runs one after the other -/

section
variable (v) (ports : Ports) (store : ReplayStore)

/-- How an operation of a run ended. -/
theorem ends_of_mem {ops : List Operation} {e : Served} :
    ∀ {n : Nat} {w : World}, e ∈ v.serve ports store clock ops n w →
      ∃ w₁ n₂ w₂, v.Ends clock e.operation e.first w₁ e.result n₂ w₂ := by
  induction ops with
  | nil =>
      intro n w hmem
      cases hmem
  | cons op rest ih =>
      intro n w hmem
      rcases List.mem_cons.mp hmem with rfl | hmem
      · exact ⟨w, _, _, v.timed_ends ports store clock op n w⟩
      · exact ih hmem

/-- The proof an operation accepted was in its window at the first reading. -/
theorem issuedAt_of_accepted {ops : List Operation} {e : Served} {payload : DPoPProof}
    (hmem : e ∈ v.serve ports store clock ops n w) (haccepted : e.accepted = some payload) :
    ∃ proof iat, e.operation.proof = some proof ∧ v.presents proof = some payload.jti ∧
      v.issuedAt proof = some iat ∧ clock e.first ≤ iat + seconds dpopIatSkewSeconds ∧
      iat ≤ clock e.first + seconds dpopIatSkewSeconds := by
  obtain ⟨w₁, n₂, w₂, hends⟩ := v.ends_of_mem ports store hmem
  obtain ⟨operation, first, result⟩ := e
  have hresult : result.toOption.bind Outcome.proof = some payload := haccepted
  cases hends with
  | refused hnone => rw [hnone] at hresult; cases hresult
  | purged hnone => rw [hnone] at hresult; cases hresult
  | accepted hop hcheck hfresh hrows =>
      cases hresult
      obtain ⟨iat, hiat, hold, hfuture⟩ := v.issuedAt_of_check hcheck
      refine ⟨_, iat, ?_, v.presents_of_check hcheck, hiat, ?_, hfuture⟩
      · rw [hop]
        rfl
      · exact Int.le_add_of_sub_right_le hold

/-- An operation of a run that accepts a proof comes after every row of its `jti` expired. -/
theorem serve_spec (hclock : ∀ m m', m ≤ m' → clock m ≤ clock m') (ops : List Operation) :
    ∀ (n : Nat) (w : World) (saved : List DPoPReplay) (t : Instant),
      Expiring.Run DPoPReplay.expiresAt promised saved t w.replays → t ≤ clock n →
      (∀ e ∈ v.serve ports store clock ops n w, ∀ payload, e.accepted = some payload →
        ∀ r ∈ saved, r.jtiHash = v.platform.sha256Hex payload.jti →
          r.expiresAt ≤ clock e.first) ∧
      (v.serve ports store clock ops n w).Pairwise fun e e' =>
        ∀ payload payload', e.accepted = some payload → e'.accepted = some payload' →
          payload.jti = payload'.jti →
            clock (e.first + 1) + retention ≤ clock e'.first := by
  induction ops with
  | nil =>
      intro n w saved t hrun ht
      refine ⟨fun e hmem => ?_, .nil⟩
      cases hmem
  | cons op rest ih =>
      intro n w saved t hrun ht
      have hends := v.timed_ends ports store clock op n w
      obtain ⟨hcalls, hrun'⟩ := hends.expiring hclock hrun ht
      obtain ⟨hold, hpairs⟩ := ih _ _ _ _ hrun' le_rfl
      refine ⟨fun e hmem payload haccepted r hr hhash => ?_, .cons ?_ hpairs⟩
      · rcases List.mem_cons.mp hmem with rfl | hmem
        · exact hends.expired hrun ht haccepted r hr hhash
        · exact hold e hmem payload haccepted r (List.mem_append_left _ hr) hhash
      · intro e' hmem payload payload' haccepted haccepted' hjti
        refine hold e' hmem payload' haccepted' (v.row payload (clock (n + 1))) ?_ ?_
        · refine List.mem_append_right _ ?_
          rw [rowsOf, show Option.bind _ _ = some payload from haccepted]
          exact List.mem_singleton_self _
        · rw [← hjti]
          rfl

/-- A row kept for twice the skew has expired within the window of an `iat` in one case. -/
theorem window_edge {iat first stamp later : Int}
    (hfuture : iat ≤ first + seconds dpopIatSkewSeconds)
    (hold : later ≤ iat + seconds dpopIatSkewSeconds) (hstamp : first ≤ stamp)
    (hlate : stamp + retention ≤ later) :
    iat = first + seconds dpopIatSkewSeconds ∧ later = iat + seconds dpopIatSkewSeconds := by
  simp only [retention, seconds, dpopIatSkewSeconds] at *
  omega

/-- One and the same proof is accepted again at one instant only. -/
theorem same_proof_edge (hclock : ∀ m m', m ≤ m' → clock m ≤ clock m') {ops : List Operation}
    {e e' : Served} {payload payload' : DPoPProof} (hmem : e ∈ v.serve ports store clock ops n w)
    (hmem' : e' ∈ v.serve ports store clock ops n w) (haccepted : e.accepted = some payload)
    (haccepted' : e'.accepted = some payload')
    (hproof : e.operation.proof = e'.operation.proof)
    (hlate : clock (e.first + 1) + retention ≤ clock e'.first) :
    ∃ proof iat, e.operation.proof = some proof ∧ v.issuedAt proof = some iat ∧
      iat = clock e.first + seconds dpopIatSkewSeconds ∧
      clock e'.first = iat + seconds dpopIatSkewSeconds := by
  obtain ⟨proof, iat, hop, -, hiat, -, hfuture⟩ :=
    v.issuedAt_of_accepted ports store hmem haccepted
  obtain ⟨proof', iat', hop', -, hiat', hold, -⟩ :=
    v.issuedAt_of_accepted ports store hmem' haccepted'
  obtain rfl : proof = proof' := by
    rw [hop, hop'] at hproof
    exact Option.some.inj hproof
  obtain rfl : iat = iat' := by
    rw [hiat] at hiat'
    exact Option.some.inj hiat'
  have hstamp := hclock e.first (e.first + 1) (Nat.le_succ _)
  exact ⟨proof, iat, hop, hiat, window_edge hfuture hold hstamp hlate⟩

end

end

/-! ## Interleaved on the SQL store -/

section
variable {ι : Type} {ε α : Type}

/-- The rows a trace inserted, in their order. -/
def inserted : List (Event ι Call World) → List DPoPReplay
  | [] => []
  | e :: past =>
      inserted past ++
        match e.call with
        | .saveReplay row => if (e.pre.replays.find row.jtiHash).isSome then [] else [row]
        | _ => []

/-- A call that inserts a row under a digest. -/
def Inserts (digest : String) (e : Event ι Call World) : Prop :=
  ∃ row, e.call = .saveReplay row ∧ row.jtiHash = digest ∧ e.pre.replays.find digest = none

theorem mem_inserted {digest : String} {e : Event ι Call World} {tr : List (Event ι Call World)}
    (hmem : e ∈ tr) (hinserts : Inserts digest e) :
    ∃ row ∈ inserted tr, e.call = .saveReplay row ∧ row.jtiHash = digest := by
  obtain ⟨row, hcall, hhash, habsent⟩ := hinserts
  refine ⟨row, ?_, hcall, hhash⟩
  induction tr with
  | nil => cases hmem
  | cons e' past ih =>
      rcases List.mem_cons.mp hmem with rfl | hmem
      · refine List.mem_append_right _ ?_
        rw [hcall]
        simp [hhash, habsent]
      · exact List.mem_append_left _ (ih hmem)

variable [DecidableEq ι]

/-- The rows of the replay store over any run of the server, whatever its processes do. -/
theorem replays_expiring {ports : Ports} {start cfg : Config ι Call Reply (Stop ε) α World}
    {tr : List (Event ι Call World)} (hrun : Run (machine ports) start tr cfg)
    (hempty : start.store.replays = .empty) :
    Expiring.Run DPoPReplay.expiresAt promised (inserted tr) cfg.store.clock
      cfg.store.replays := by
  refine hrun.stable
    (fun tr (w : World) => Expiring.Run DPoPReplay.expiresAt promised (inserted tr) w.clock
      w.replays) ?_ ?_ ?_ (show ∀ e ∈ tr, True from fun _ _ => trivial)
  · rw [hempty]
    exact .start _
  · rintro past w _ h ⟨t, ht, rfl⟩
    exact h.wait ht
  · intro past w i c h _
    show Expiring.Run DPoPReplay.expiresAt promised (inserted past ++ _)
      (exec ports c w).2.clock (exec ports c w).2.replays
    rw [exec_clock, exec_replays]
    cases c with
    | saveReplay row =>
        dsimp only
        cases hfind : w.replays.find row.jtiHash with
        | none =>
            simp only [Option.isSome_none, Bool.false_eq_true, if_false]
            apply h.save row le_rfl
            intro u hfound
            rw [hfind] at hfound
            cases hfound
        | some u => simpa using h
    | purgeReplays =>
        rw [List.append_nil]
        exact h.purge
    | _ => simpa using h

/-- A row is inserted under a digest again only when the row before has expired. -/
theorem inserts_pairwise {ports : Ports} {start cfg : Config ι Call Reply (Stop ε) α World}
    {tr : List (Event ι Call World)} (hrun : Run (machine ports) start tr cfg)
    (hempty : start.store.replays = .empty) (digest : String) :
    tr.Pairwise fun e e' => Inserts digest e → Inserts digest e' →
      ∃ row, e'.call = .saveReplay row ∧ row.jtiHash = digest ∧
        row.expiresAt ≤ e.pre.clock := by
  apply pairwise_of_past
  rintro later e past htr e' hmem ⟨row, hcall, hhash, habsent⟩ hinserts
  obtain ⟨cfg', hrun', hstore⟩ := hrun.at_event htr
  obtain ⟨row', hmem', hcall', hhash'⟩ := mem_inserted hmem hinserts
  refine ⟨row', hcall', hhash', ?_⟩
  have htable := replays_expiring hrun' hempty
  rw [hstore] at htable
  have hpassed := Expiring.passed_of_absent htable hmem' (by rw [hhash']; exact habsent)
  exact WithBot.coe_le_coe.mp hpassed

/-! ### What an accepted validation did -/

/-- Watches the digests a process inserted. -/
def watchInsertions : Monitor Call Reply (List String) where
  good := fun _ _ _ => True
  ok := fun _ _ => True
  next := fun g c r =>
    match c, r with
    | .saveReplay row, .ok () => row.jtiHash :: g
    | _, _ => g

/-- A validation that accepts a proof has inserted the digest of its `jti`. -/
theorem wp_program (v : PyJWTDpopProofValidator κ) (op : Operation) (g : List String) :
    wp watchInsertions (v.program op)
      (fun g out => ∀ payload, out.proof = some payload →
        v.platform.sha256Hex payload.jti ∈ g) (fun _ _ => True) g := by
  cases op with
  | purge =>
      refine wp_ask_bind.mpr ⟨trivial, fun _ _ => wp_pure.mpr fun payload h => ?_⟩
      cases h
  | validate proof htu method ath =>
      refine (wp_bind _ _).mpr (wp_ask_bind.mpr ⟨trivial, fun checkedAt _ => ?_⟩)
      cases v.check proof htu method ath checkedAt with
      | error stop =>
          cases stop with
          | raised x => exact wp_fail.mpr trivial
          | refused e =>
              refine wp_pure.mpr (wp_pure.mpr fun payload h => ?_)
              cases h
      | ok payload =>
          refine wp_ask_bind.mpr ⟨trivial, fun now _ => ?_⟩
          refine wp_ask_bind.mpr ⟨trivial, fun used _ => ?_⟩
          cases used with
          | true =>
              refine wp_pure.mpr (wp_pure.mpr fun payload' h => ?_)
              cases h
          | false =>
              refine wp_orRaise_bind.mpr (wp_op.mpr ⟨trivial, fun saved _ =>
                ⟨fun _ _ => trivial, ?_⟩⟩)
              rintro _ rfl
              refine wp_ask_bind.mpr ⟨trivial, fun _ _ =>
                wp_pure.mpr (wp_pure.mpr fun payload' h => ?_)⟩
              cases h
              exact List.mem_cons_self

/-- A process that has accepted a proof inserted the digest of its `jti`. -/
theorem inserts_of_accepted (v : PyJWTDpopProofValidator κ) {ports : Ports}
    {start cfg : Config ι Call Reply (Stop Empty) Outcome World} {tr : List (Event ι Call World)}
    {ops : ι → Operation} (hrun : Run (machine ports) start tr cfg)
    (hstart : ∀ i, start.procs i = v.program (ops i)) {i : ι} {payload : DPoPProof}
    (hi : cfg.procs i = .pure (.validated (.ok payload))) :
    ∃ e ∈ tr, e.pid = i ∧ Inserts (v.platform.sha256Hex payload.jti) e := by
  have hwps : ∀ j, wp watchInsertions (start.procs j)
      (fun g out => ∀ payload, out.proof = some payload →
        v.platform.sha256Hex payload.jti ∈ g) (fun _ _ => True) ((fun _ => []) j) := by
    intro j
    rw [hstart j]
    exact wp_program v (ops j) []
  obtain ⟨-, hwp⟩ := hrun.allowed hwps fun _ _ _ => trivial
  have hdigest := hwp i
  rw [hi] at hdigest
  obtain ⟨later, e, past, htr, hpid, hbefore, hafter⟩ :=
    exists_establishing (P := fun g : List String => v.platform.sha256Hex payload.jti ∈ g)
      List.not_mem_nil (wp_pure.mp hdigest payload rfl)
  refine ⟨e, by rw [htr]; simp, hpid, ?_⟩
  obtain ⟨pid, c, pre⟩ := e
  cases c with
  | saveReplay row =>
      have hreply : Event.reply (machine ports) (⟨pid, .saveReplay row, pre⟩ : Event ι Call World) =
          (pre.insertReplay row).1 := rfl
      rw [hreply] at hafter
      cases hfind : pre.replays.find row.jtiHash with
      | none =>
          have hinsert : (pre.insertReplay row).1 = .ok () := by simp [World.insertReplay, hfind]
          rw [hinsert] at hafter
          rcases List.mem_cons.mp hafter with hhash | hmem
          · exact ⟨row, rfl, hhash.symm, by rw [hhash]; exact hfind⟩
          · exact absurd hmem hbefore
      | some u =>
          have hinsert : (pre.insertReplay row).1 = .error (.other "IntegrityError") := by
            simp [World.insertReplay, hfind]
          rw [hinsert] at hafter
          exact absurd hafter hbefore
  | _ => exact absurd hafter hbefore

end

/-! ## A `jti` is accepted once -/

/-- The proof of `e'` is validated, and its `jti` was accepted by `e`: the validation begins
before the row of `e` expires. -/
def InTime (clock : Nat → Instant) (e e' : Served) : Prop :=
  ∀ payload proof', e.accepted = some payload → e'.operation.proof = some proof' →
    v.presents proof' = some payload.jti → clock e'.first < clock (e.first + 1) + retention

/-- Both accepted a proof, with the same `jti`. -/
def Replays (e e' : Served) : Prop :=
  ∃ payload payload', e.accepted = some payload ∧ e'.accepted = some payload' ∧
    payload.jti = payload'.jti

/-- Every attempt to insert a row comes before the rows inserted under its key expire. -/
def Timely {ι : Type} (tr : List (Event ι Call World)) : Prop :=
  tr.Pairwise fun e e' => ∀ row row', e.call = .saveReplay row → e'.call = .saveReplay row' →
    row.jtiHash = row'.jtiHash → e.pre.clock < row'.expiresAt

/-- **A `jti` is accepted at most once**, on either store one operation after the other,
and on the SQL store in any interleaving, as long as no validation of an accepted `jti`
comes when its row has expired. One and the same proof comes that late, validated one time
after the other, only at the last instant of its window, issued at the first. -/
theorem jti_accepted_once (ports : Ports) :
    (∀ (store : ReplayStore) (clock : Nat → Instant), (∀ m m', m ≤ m' → clock m ≤ clock m') →
      ∀ (ops : List Operation) (w : World), w.replays = .empty →
        (v.serve ports store clock ops 0 w).Pairwise fun e e' =>
          (v.InTime clock e e' → ¬Replays e e') ∧
          (Replays e e' → e.operation.proof = e'.operation.proof →
            ∃ proof iat, e.operation.proof = some proof ∧ v.issuedAt proof = some iat ∧
              iat = clock e.first + seconds dpopIatSkewSeconds ∧
              clock e'.first = iat + seconds dpopIatSkewSeconds)) ∧
    (∀ (ι : Type) [DecidableEq ι] (ops : ι → Operation)
      (start cfg : Config ι Call Reply (Stop Empty) Outcome World)
      (tr : List (Event ι Call World)), Run (machine ports) start tr cfg →
      (∀ i, start.procs i = v.program (ops i)) → start.store.replays = .empty → Timely tr →
        ∀ (i j : ι) (payload payload' : DPoPProof),
          cfg.procs i = .pure (.validated (.ok payload)) →
          cfg.procs j = .pure (.validated (.ok payload')) →
          payload.jti = payload'.jti → i = j) := by
  constructor
  · intro store clock hclock ops w hempty
    have htable : Expiring.Run DPoPReplay.expiresAt promised [] (clock 0) w.replays := by
      rw [hempty]
      exact .start _
    obtain ⟨-, hpairs⟩ := v.serve_spec ports store hclock ops 0 w [] (clock 0) htable le_rfl
    refine hpairs.imp_of_mem ?_
    intro e e' hmem hmem' hlate
    constructor
    · rintro htimely ⟨payload, payload', haccepted, haccepted', hjti⟩
      obtain ⟨proof', -, hproof', hpresents, -⟩ :=
        v.issuedAt_of_accepted ports store hmem' haccepted'
      rw [← hjti] at hpresents
      have hin := htimely payload proof' haccepted hproof' hpresents
      exact absurd (hlate payload payload' haccepted haccepted' hjti) (not_le.mpr hin)
    · rintro ⟨payload, payload', haccepted, haccepted', hjti⟩ hproof
      exact v.same_proof_edge ports store hclock hmem hmem' haccepted haccepted' hproof
        (hlate payload payload' haccepted haccepted' hjti)
  · intro ι _ ops start cfg tr hrun hstart hempty htimely i j payload payload' hi hj hjti
    obtain ⟨e, he, hei, hinserts⟩ := inserts_of_accepted v hrun hstart hi
    obtain ⟨e', he', hej, hinserts'⟩ := inserts_of_accepted v hrun hstart hj
    rw [← hjti] at hinserts'
    have honce : tr.Pairwise fun e e' =>
        ¬(Inserts (v.platform.sha256Hex payload.jti) e ∧
          Inserts (v.platform.sha256Hex payload.jti) e') := by
      refine (inserts_pairwise hrun hempty (v.platform.sha256Hex payload.jti)).imp₂ ?_ htimely
      rintro e e' hexpired hin ⟨hinserts, hinserts'⟩
      obtain ⟨row', hcall', hhash', hle⟩ := hexpired hinserts hinserts'
      obtain ⟨row, hcall, hhash, -⟩ := hinserts
      exact absurd hle (not_le.mpr (hin row row' hcall hcall' (hhash.trans hhash'.symm)))
    rw [← hei, ← hej, eq_of_pairwise honce he he' hinserts hinserts']

namespace Sample

/-- `urlsplit` of a URL with a scheme, a host and a path. -/
def urlsplit (uri : String) : Except Raised UrlParts :=
  let scheme := uri.toList.takeWhile (· ≠ ':')
  let rest := uri.toList.drop (scheme.length + 3)
  let host := rest.takeWhile (· ≠ '/')
  .ok
    { scheme := String.ofList scheme, netloc := String.ofList host
      hostname := some (String.ofList host), path := String.ofList (rest.drop host.length) }

def endpoint : String := "https://op.example/token"

def header : Members :=
  [("typ", .str "dpop+jwt"), ("alg", .str "ES256"),
    ("jwk", .obj [("kty", .str "EC"), ("crv", .str "P-256"), ("x", .str "x"), ("y", .str "y")])]

/-- A proof issued at the epoch's second 300. -/
def claims : Members :=
  [("jti", .str "proof-1"), ("htm", .str "POST"), ("htu", .str endpoint), ("iat", .num "300")]

theorem no_import_raises (_jwk : Members) (h : false = true) : some () = none := by
  cases h

def validator : PyJWTDpopProofValidator Unit where
  platform := { PurIdentityServer.Sample.platform with urlsplit := urlsplit }
  jwt :=
    { header := fun _ => some header
      payload := fun _ => some claims
      signed := fun _ _ algorithms => algorithms = ["ES256"]
      publicKey := fun _ => some ()
      secretKey := fun _ => ()
      importRaises_none := no_import_raises
      signed_algorithm := by
        intro token key algorithms h
        exact ⟨header, "ES256", rfl, rfl, by simp [of_decide_eq_true h]⟩ }
  publicKeyFor := fun _ _ => some ()
  fromTimestamp := fun number => .ok (seconds (Json.truncated number))
  exceeds := fun number moment => decide (moment < seconds (Json.truncated number))

def validation : Operation := .validate "proof" endpoint "POST" ""

/-- The first validation at the epoch, what follows at its second 600. -/
def farApart (n : Nat) : Instant := if n < 5 then 0 else seconds 600

/-- Two validations of the proof at its second 300. -/
def start : Config Bool Call Reply (Stop Empty) Outcome World where
  store := { clock := seconds 300 }
  procs := fun _ => validator.program validation

/-- Both look the `jti` up before either inserts it. -/
def crossed : List (Event Bool Call World) × Config Bool Call Reply (Stop Empty) Outcome World :=
  Config.schedule (machine PurIdentityServer.Sample.ports)
    [false, true, false, true, false, true, false, true, false] ([], start)

/-- A call at second 300, which inserts no row that expires by then. -/
def atSecond300 (e : Event Bool Call World) : Bool :=
  e.pre.clock = seconds 300 &&
    match e.call with
    | .saveReplay row => decide (seconds 300 < row.expiresAt)
    | _ => true

theorem timely_crossed : Timely crossed.1 := by
  have hall : crossed.1.all atSecond300 = true := by decide +kernel
  rw [List.all_eq_true] at hall
  apply List.pairwise_of_forall_mem_list
  intro e hmem e' hmem' row row' _ hcall' _
  have hnow := hall e hmem
  have hrow := hall e' hmem'
  simp only [atSecond300, hcall', Bool.and_eq_true, decide_eq_true_eq] at hnow hrow
  rw [hnow.1]
  exact hrow.2

end Sample

open PyJWTDpopProofValidator.Sample in
/-- A proof validated three times at one moment, and twice at the same time. -/
theorem jti_accepted_once_at_second_300 :
    (∀ store, (validator.serve PurIdentityServer.Sample.ports store (fun _ => seconds 300)
        [validation, .purge, validation, validation] 0 { clock := 0 }).Pairwise
          fun e e' => ¬Replays e e') ∧
      ∀ (i j : Bool) (payload payload' : DPoPProof),
        crossed.2.procs i = .pure (.validated (.ok payload)) →
        crossed.2.procs j = .pure (.validated (.ok payload')) →
        payload.jti = payload'.jti → i = j := by
  constructor
  · intro store
    have hpairs := (validator.jti_accepted_once PurIdentityServer.Sample.ports).1 store
      (fun _ => seconds 300) (fun _ _ _ => le_rfl) [validation, .purge, validation, validation]
      { clock := 0 } rfl
    refine hpairs.imp fun {e e'} h => h.1 ?_
    intro payload proof' _ _ _
    show seconds 300 < seconds 300 + retention
    decide
  · exact (validator.jti_accepted_once PurIdentityServer.Sample.ports).2 Bool
      (fun _ => validation) start crossed.2 crossed.1 (Run.ofSchedule _ start _) (fun _ => rfl)
      rfl timely_crossed

open PyJWTDpopProofValidator.Sample in
/-- Issued 300 seconds ahead of the clock, a proof is accepted again 600 seconds later, when
its row has just been purged, on either store. -/
theorem proof_accepted_at_both_ends :
    (∀ m m', m ≤ m' → farApart m ≤ farApart m') ∧
      ∀ store, ¬(validator.serve PurIdentityServer.Sample.ports store farApart
        [validation, .purge, validation] 0 { clock := 0 }).Pairwise
          fun e e' => ¬Replays e e' := by
  constructor
  · intro m m' hle
    unfold farApart
    split
    · split
      · exact le_rfl
      · decide
    · rw [if_neg (by omega)]
  · intro store h
    cases store with
    | memory =>
        exact (List.pairwise_cons.mp h).1 _ (.tail _ (.head _)) ⟨_, _, rfl, rfl, rfl⟩
    | sql =>
        exact (List.pairwise_cons.mp h).1 _ (.tail _ (.head _)) ⟨_, _, rfl, rfl, rfl⟩

end PyJWTDpopProofValidator

end PurIdentityServer
