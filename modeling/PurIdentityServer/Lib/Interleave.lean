import PurIdentityServer.Lib.Prog
import Mathlib.Logic.Function.Basic
import Mathlib.Data.List.Pairwise

/-!
# Interleave — any number of programs on one store

A configuration is a store and one program per process of an arbitrary
index type. A step lets one process make its next call, atomically, or
lets the environment move the store (time passing). `Run` collects the
calls in a trace, last call first, each with the store it met.

* `Run.invariant` — the step-to-run rule: an invariant of trace and store
  kept by every call a monitor allows, under a condition on the calls of
  the run.
* `Run.allowed` — what the monitor allowed each call of a run on.
* `exchanges` — the calls of one process with their replies.
* `exists_establishing`, `ghost_of_mem` — a ghost property that holds now
  was made true by one call of that process, and the other way round.
* `Once` — calls that need a store property to fail, and make it hold for
  good, happen at most once.
* `Config.schedule` — the executable scheduler, for concrete runs.
-/

namespace Effects

variable {ι C : Type} {R : C → Type} {ε α σ γ : Type}

/-- How the store answers a call, and how it moves on its own. -/
structure Machine (C : Type) (R : C → Type) (σ : Type) where
  exec : (c : C) → σ → R c × σ
  env : σ → σ → Prop

structure Config (ι C : Type) (R : C → Type) (ε α σ : Type) where
  store : σ
  procs : ι → Prog C R ε α

/-- A call made by a process, with the store it met. -/
structure Event (ι C σ : Type) where
  pid : ι
  call : C
  pre : σ

namespace Event

/-- The reply the store gave. -/
def reply (M : Machine C R σ) (e : Event ι C σ) : R e.call := (M.exec e.call e.pre).1

/-- The store after the call. -/
def post (M : Machine C R σ) (e : Event ι C σ) : σ := (M.exec e.call e.pre).2

end Event

variable [DecidableEq ι]

/-- The runs from `start`, with their trace (last call first). -/
inductive Run (M : Machine C R σ) (start : Config ι C R ε α σ) :
    List (Event ι C σ) → Config ι C R ε α σ → Prop where
  | refl : Run M start [] start
  | call {tr : List (Event ι C σ)} {cfg : Config ι C R ε α σ} {i : ι} {c : C}
      {k : R c → Prog C R ε α} (past : Run M start tr cfg)
      (hproc : cfg.procs i = .call c k) :
      Run M start (⟨i, c, cfg.store⟩ :: tr)
        ⟨(M.exec c cfg.store).2,
          Function.update cfg.procs i (k (M.exec c cfg.store).1)⟩
  | env {tr : List (Event ι C σ)} {cfg : Config ι C R ε α σ} {s : σ}
      (past : Run M start tr cfg) (hmove : M.env cfg.store s) :
      Run M start tr ⟨s, cfg.procs⟩

/-- The ghost of process `i` after a trace. -/
def ghost (M : Machine C R σ) (m : Monitor C R γ) (g₀ : γ) (i : ι) :
    List (Event ι C σ) → γ
  | [] => g₀
  | e :: past =>
      if e.pid = i then m.next (ghost M m g₀ i past) e.call (e.reply M)
      else ghost M m g₀ i past

section
variable {M : Machine C R σ} {m : Monitor C R γ} {g₀ : γ} {i : ι}

@[simp] theorem ghost_nil : ghost M m g₀ i ([] : List (Event ι C σ)) = g₀ := rfl

theorem ghost_cons_self (c : C) (s : σ) (past : List (Event ι C σ)) :
    ghost M m g₀ i (⟨i, c, s⟩ :: past)
      = m.next (ghost M m g₀ i past) c (M.exec c s).1 := by
  simp [ghost, Event.reply]

theorem ghost_cons_ne {j : ι} (h : j ≠ i) (c : C) (s : σ) (past : List (Event ι C σ)) :
    ghost M m g₀ i (⟨j, c, s⟩ :: past) = ghost M m g₀ i past := by
  simp [ghost, h]

/-- A ghost property that holds now and not at the start was established
by one call of the process. -/
theorem exists_establishing {P : γ → Prop} (h₀ : ¬ P g₀) :
    ∀ {tr : List (Event ι C σ)}, P (ghost M m g₀ i tr) →
      ∃ later e past, tr = later ++ e :: past ∧ e.pid = i ∧
        ¬ P (ghost M m g₀ i past) ∧
        P (m.next (ghost M m g₀ i past) e.call (e.reply M)) := by
  intro tr
  induction tr with
  | nil => exact fun h => absurd h h₀
  | cons e past ih =>
      intro h
      by_cases hpast : P (ghost M m g₀ i past)
      · obtain ⟨later, e', past', htr, rest⟩ := ih hpast
        exact ⟨e :: later, e', past', by rw [htr]; rfl, rest⟩
      · by_cases hpid : e.pid = i
        · refine ⟨[], e, past, rfl, hpid, hpast, ?_⟩
          simpa [ghost, hpid] using h
        · simp only [ghost, if_neg hpid] at h
          exact absurd h hpast

end

/-- A ghost property that calls of `K` establish and no call undoes holds
after any of them. -/
theorem ghost_of_mem {M : Machine C R σ} {m : Monitor C R γ} {g₀ : γ} {i : ι}
    (P : γ → Prop) (hkeep : ∀ g c r, P g → P (m.next g c r))
    (K : Event ι C σ → Prop) (hK : ∀ g e, K e → P (m.next g e.call (e.reply M)))
    {tr : List (Event ι C σ)} {e : Event ι C σ} (he : e ∈ tr) (hpid : e.pid = i) (hKe : K e) :
    P (ghost M m g₀ i tr) := by
  induction tr with
  | nil => exact absurd he List.not_mem_nil
  | cons e' past ih =>
      rcases List.mem_cons.mp he with rfl | hmem
      · simpa [ghost, hpid] using hK _ e hKe
      · by_cases h : e'.pid = i
        · simpa [ghost, h] using hkeep _ _ _ (ih hmem)
        · simpa [ghost, h] using ih hmem

theorem ghost_append {M : Machine C R σ} {m : Monitor C R γ} {g₀ : γ} {i : ι}
    (tr tr' : List (Event ι C σ)) :
    ghost M m g₀ i (tr' ++ tr) = ghost M m (ghost M m g₀ i tr) i tr' := by
  induction tr' with
  | nil => rfl
  | cons e past ih => simp only [List.cons_append, ghost, ih]

/-- The calls of the other processes leave the ghost alone. -/
theorem ghost_of_silent {M : Machine C R σ} {m : Monitor C R γ} {g₀ : γ} {i : ι}
    {tr : List (Event ι C σ)} (h : ∀ e ∈ tr, e.pid ≠ i) : ghost M m g₀ i tr = g₀ := by
  induction tr with
  | nil => rfl
  | cons e past ih =>
      simp only [ghost, if_neg (h e List.mem_cons_self)]
      exact ih fun e' he' => h e' (List.mem_cons_of_mem _ he')

/-! ## Parts of runs -/

/-- The run up to one of its calls. -/
theorem Run.at_event {M : Machine C R σ} {start cfg : Config ι C R ε α σ}
    {tr later past : List (Event ι C σ)} {e : Event ι C σ} (hrun : Run M start tr cfg)
    (htr : tr = later ++ e :: past) :
    ∃ cfg', Run M start past cfg' ∧ cfg'.store = e.pre := by
  induction hrun generalizing later with
  | refl => exact absurd htr (by simp)
  | call past' hproc ih =>
      cases later with
      | nil =>
          cases htr
          exact ⟨_, past', rfl⟩
      | cons e' later =>
          cases htr
          exact ih rfl
  | env past' hmove ih => exact ih htr

/-- A process that has ended makes no calls. -/
theorem Run.silent {M : Machine C R σ} {start cfg : Config ι C R ε α σ}
    {tr : List (Event ι C σ)} (hrun : Run M start tr cfg) {i : ι} {a : α}
    (hi : start.procs i = .pure a) : ∀ e ∈ tr, e.pid ≠ i := by
  have h : cfg.procs i = .pure a ∧ ∀ e ∈ tr, e.pid ≠ i := by
    induction hrun with
    | refl => exact ⟨hi, fun _ he => absurd he List.not_mem_nil⟩
    | @call tr cfg j c k past hproc ih =>
        have hne : j ≠ i := by
          rintro rfl
          cases hproc.symm.trans ih.1
        refine ⟨?_, fun e he => ?_⟩
        · simpa [Function.update_of_ne (Ne.symm hne)] using ih.1
        · rcases List.mem_cons.mp he with rfl | hmem
          · exact hne
          · exact ih.2 e hmem
    | env past hmove ih => exact ih
  exact h.2

/-- One process of a run, when the replies it got were possible: what it has left to do,
and what the monitor allowed each of its calls on. -/
theorem Run.process_allowed {M : Machine C R σ} {m : Monitor C R γ} {g₀ : γ} {i : ι}
    {Q : γ → α → Prop} {E : γ → ε → Prop} {start cfg : Config ι C R ε α σ}
    {tr : List (Event ι C σ)} (hrun : Run M start tr cfg)
    (hstart : wp m (start.procs i) Q E g₀)
    (hgood : ∀ e ∈ tr, e.pid = i → ∀ g, m.good g e.call (e.reply M)) :
    wp m (cfg.procs i) Q E (ghost M m g₀ i tr) ∧
      ∀ later e past, tr = later ++ e :: past → e.pid = i →
        m.ok (ghost M m g₀ i past) e.call := by
  induction hrun with
  | refl => exact ⟨hstart, fun later e past htr => absurd htr (by simp)⟩
  | @call tr cfg j c k past hproc ih =>
      obtain ⟨hwp, hok⟩ := ih fun e he => hgood e (List.mem_cons_of_mem _ he)
      have hallowed : j = i → m.ok (ghost M m g₀ i tr) c := by
        rintro rfl
        rw [hproc, wp_call] at hwp
        exact hwp.1
      refine ⟨?_, fun later e past htr hpid => ?_⟩
      · by_cases hj : j = i
        · subst hj
          rw [hproc, wp_call] at hwp
          simp only [Function.update_self, ghost_cons_self]
          exact hwp.2 _ (hgood _ List.mem_cons_self rfl _)
        · simp only [Function.update_of_ne (Ne.symm hj), ghost_cons_ne hj]
          exact hwp
      · cases later with
        | nil =>
            cases htr
            exact hallowed hpid
        | cons e' later =>
            cases htr
            exact hok later e _ rfl hpid
  | env past hmove ih => exact ih hgood

/-- What the process has left to do. -/
theorem Run.process {M : Machine C R σ} {m : Monitor C R γ} {g₀ : γ} {i : ι}
    {Q : γ → α → Prop} {E : γ → ε → Prop} {start cfg : Config ι C R ε α σ}
    {tr : List (Event ι C σ)} (hrun : Run M start tr cfg)
    (hstart : wp m (start.procs i) Q E g₀)
    (hgood : ∀ e ∈ tr, e.pid = i → ∀ g, m.good g e.call (e.reply M)) :
    wp m (cfg.procs i) Q E (ghost M m g₀ i tr) := (hrun.process_allowed hstart hgood).1

/-! ## What a process has asked and been told -/

/-- The calls of a process with their replies, last call first. -/
def exchanges (M : Machine C R σ) (i : ι) (tr : List (Event ι C σ)) : List ((c : C) × R c) :=
  (tr.filter fun e => e.pid = i).map fun e => ⟨e.call, e.reply M⟩

theorem ghost_log {M : Machine C R σ} {good : (c : C) → R c → Prop}
    {ok : List ((c : C) × R c) → C → Prop} (i : ι) (tr : List (Event ι C σ)) :
    ghost M (Monitor.log good ok) [] i tr = exchanges M i tr := by
  induction tr with
  | nil => rfl
  | cons e past ih =>
      by_cases h : e.pid = i
      · rw [ghost, if_pos h, ih]
        simp [exchanges, Monitor.log, h]
      · rw [ghost, if_neg h, ih]
        simp [exchanges, h]

theorem mem_exchanges {M : Machine C R σ} {i : ι} {tr : List (Event ι C σ)}
    {x : (c : C) × R c} :
    x ∈ exchanges M i tr ↔ ∃ e ∈ tr, e.pid = i ∧ (⟨e.call, e.reply M⟩ : (c : C) × R c) = x := by
  simp [exchanges, and_assoc]

/-! ## Invariants of runs -/

/-- What a run keeps: the invariant, and the weakest precondition of what
each process has left to do. `Cond` is what the run is known to satisfy
at each call, after the calls before it. -/
theorem Run.invariant_after {M : Machine C R σ} (m : Monitor C R γ) (g₀ : ι → γ)
    (Inv : List (Event ι C σ) → σ → Prop) {Cond : List (Event ι C σ) → Event ι C σ → Prop}
    {Q : ι → γ → α → Prop} {E : ι → γ → ε → Prop}
    {start cfg : Config ι C R ε α σ} {tr : List (Event ι C σ)}
    (hrun : Run M start tr cfg)
    (h₀ : Inv [] start.store)
    (hstart : ∀ i, wp m (start.procs i) (Q i) (E i) (g₀ i))
    (henv : ∀ past s s', Inv past s → M.env s s' → Inv past s')
    (hcall : ∀ past s i c, Inv past s → Cond past ⟨i, c, s⟩ →
      m.ok (ghost M m (g₀ i) i past) c →
      m.good (ghost M m (g₀ i) i past) c (M.exec c s).1 ∧
        Inv (⟨i, c, s⟩ :: past) (M.exec c s).2)
    (hcond : ∀ later e past, tr = later ++ e :: past → Cond past e) :
    Inv tr cfg.store ∧
      ∀ i, wp m (cfg.procs i) (Q i) (E i) (ghost M m (g₀ i) i tr) := by
  induction hrun with
  | refl => exact ⟨h₀, hstart⟩
  | @call tr cfg i c k past hproc ih =>
      obtain ⟨hinv, hwp⟩ := ih fun later e past htr =>
        hcond (⟨i, c, cfg.store⟩ :: later) e past (by rw [htr]; rfl)
      have hi := hwp i
      rw [hproc, wp_call] at hi
      obtain ⟨hgood, hinv'⟩ := hcall tr cfg.store i c hinv (hcond [] _ _ rfl) hi.1
      refine ⟨hinv', fun j => ?_⟩
      by_cases hj : i = j
      · subst hj
        simp only [Function.update_self, ghost_cons_self]
        exact hi.2 _ hgood
      · have hji : j ≠ i := fun h => hj h.symm
        simp only [Function.update_of_ne hji, ghost_cons_ne hj]
        exact hwp j
  | env past hmove ih =>
      obtain ⟨hinv, hwp⟩ := ih hcond
      exact ⟨henv _ _ _ hinv hmove, hwp⟩

/-- The same, when what is known of a call does not depend on the calls before it. -/
theorem Run.invariant {M : Machine C R σ} (m : Monitor C R γ) (g₀ : ι → γ)
    (Inv : List (Event ι C σ) → σ → Prop) {Cond : Event ι C σ → Prop}
    {Q : ι → γ → α → Prop} {E : ι → γ → ε → Prop}
    {start cfg : Config ι C R ε α σ} {tr : List (Event ι C σ)}
    (hrun : Run M start tr cfg)
    (h₀ : Inv [] start.store)
    (hstart : ∀ i, wp m (start.procs i) (Q i) (E i) (g₀ i))
    (henv : ∀ past s s', Inv past s → M.env s s' → Inv past s')
    (hcall : ∀ past s i c, Inv past s → Cond ⟨i, c, s⟩ →
      m.ok (ghost M m (g₀ i) i past) c →
      m.good (ghost M m (g₀ i) i past) c (M.exec c s).1 ∧
        Inv (⟨i, c, s⟩ :: past) (M.exec c s).2)
    (hcond : ∀ e ∈ tr, Cond e) :
    Inv tr cfg.store ∧
      ∀ i, wp m (cfg.procs i) (Q i) (E i) (ghost M m (g₀ i) i tr) := by
  have hcond' : ∀ later e past, tr = later ++ e :: past → Cond e := by
    intro later e past htr
    exact hcond e (by rw [htr]; simp)
  exact hrun.invariant_after m g₀ Inv h₀ hstart henv hcall hcond'

/-- What a run tells about its calls, on stores where `K` holds: each call
was allowed by the monitor, on the ghost its process had. -/
theorem Run.allowed_on {M : Machine C R σ} {m : Monitor C R γ} {g₀ : ι → γ} (K : σ → Prop)
    {Q : ι → γ → α → Prop} {E : ι → γ → ε → Prop}
    {start cfg : Config ι C R ε α σ} {tr : List (Event ι C σ)}
    (hrun : Run M start tr cfg)
    (hstart : ∀ i, wp m (start.procs i) (Q i) (E i) (g₀ i))
    (h₀ : K start.store) (henv : ∀ s s', K s → M.env s s' → K s')
    (hcall : ∀ c s, K s → K (M.exec c s).2)
    (hgood : ∀ g c s, K s → m.good g c (M.exec c s).1) :
    (∀ later e past, tr = later ++ e :: past →
      m.ok (ghost M m (g₀ e.pid) e.pid past) e.call) ∧
      ∀ i, wp m (cfg.procs i) (Q i) (E i) (ghost M m (g₀ i) i tr) := by
  have hrun' := hrun.invariant m g₀
    (fun (tr : List (Event ι C σ)) s => K s ∧ ∀ later (e : Event ι C σ) past,
      tr = later ++ e :: past → m.ok (ghost M m (g₀ e.pid) e.pid past) e.call)
    ⟨h₀, fun later e past h => by cases later <;> cases h⟩ hstart
    (fun past s s' h hmove => ⟨henv s s' h.1 hmove, h.2⟩)
    (by
      intro past s i c hinv _ hok
      refine ⟨hgood _ _ _ hinv.1, hcall _ _ hinv.1, fun later e past' h => ?_⟩
      cases later with
      | nil =>
          cases h
          exact hok
      | cons e' later =>
          cases h
          exact hinv.2 later e past' rfl)
    (show ∀ e ∈ tr, True from fun _ _ => trivial)
  exact ⟨hrun'.1.2, hrun'.2⟩

/-- The same when the replies of the monitor are possible in any store. -/
theorem Run.allowed {M : Machine C R σ} {m : Monitor C R γ} {g₀ : ι → γ}
    {Q : ι → γ → α → Prop} {E : ι → γ → ε → Prop}
    {start cfg : Config ι C R ε α σ} {tr : List (Event ι C σ)}
    (hrun : Run M start tr cfg)
    (hstart : ∀ i, wp m (start.procs i) (Q i) (E i) (g₀ i))
    (hgood : ∀ g c s, m.good g c (M.exec c s).1) :
    (∀ later e past, tr = later ++ e :: past →
      m.ok (ghost M m (g₀ e.pid) e.pid past) e.call) ∧
      ∀ i, wp m (cfg.procs i) (Q i) (E i) (ghost M m (g₀ i) i tr) :=
  hrun.allowed_on (fun _ => True) hstart trivial (fun _ _ _ _ => trivial)
    (fun _ _ _ => trivial) fun g c s _ => hgood g c s

/-- The store part alone: a property of trace and store kept by every call
and every move of the environment. -/
theorem Run.stable {M : Machine C R σ} (Inv : List (Event ι C σ) → σ → Prop)
    {Cond : Event ι C σ → Prop} {start cfg : Config ι C R ε α σ}
    {tr : List (Event ι C σ)} (hrun : Run M start tr cfg)
    (h₀ : Inv [] start.store)
    (henv : ∀ past s s', Inv past s → M.env s s' → Inv past s')
    (hcall : ∀ past s i c, Inv past s → Cond ⟨i, c, s⟩ →
      Inv (⟨i, c, s⟩ :: past) (M.exec c s).2)
    (hcond : ∀ e ∈ tr, Cond e) : Inv tr cfg.store := by
  induction hrun with
  | refl => exact h₀
  | call past hproc ih =>
      exact hcall _ _ _ _ (ih (fun e he => hcond e (List.mem_cons_of_mem _ he)))
        (hcond _ List.mem_cons_self)
  | env past hmove ih => exact henv _ _ _ (ih hcond) hmove

/-- Runs compose. -/
theorem Run.trans {M : Machine C R σ} {a b c : Config ι C R ε α σ}
    {tr tr' : List (Event ι C σ)} (h : Run M a tr b) (h' : Run M b tr' c) :
    Run M a (tr' ++ tr) c := by
  induction h' with
  | refl => exact h
  | call past hproc ih => exact .call ih hproc
  | env past hmove ih => exact .env ih hmove

omit [DecidableEq ι] in
/-- A relation between each call and the calls before it. -/
theorem pairwise_of_past {P : Event ι C σ → Event ι C σ → Prop} :
    ∀ {tr : List (Event ι C σ)},
      (∀ later e past, tr = later ++ e :: past → ∀ e' ∈ past, P e e') → tr.Pairwise P := by
  intro tr
  induction tr with
  | nil => exact fun _ => .nil
  | cons e past ih =>
      intro h
      refine .cons (h [] e past rfl) (ih ?_)
      intro later e' past' htr
      exact h (e :: later) e' past' (by rw [htr]; rfl)

/-! ## Calls that happen once -/

/-- The bookkeeping of calls `P` that close a door `D`: once one of them
happened the door is closed, and no two of them happened. -/
def Once (P : Event ι C σ → Prop) (D : σ → Prop) (tr : List (Event ι C σ)) (s : σ) :
    Prop :=
  (∀ e ∈ tr, P e → D s) ∧ tr.Pairwise fun e e' => ¬ (P e ∧ P e')

omit [DecidableEq ι] in
theorem Once.nil (P : Event ι C σ → Prop) (D : σ → Prop) (s : σ) : Once P D [] s :=
  ⟨fun _ h => absurd h List.not_mem_nil, .nil⟩

omit [DecidableEq ι] in
theorem Once.move {P : Event ι C σ → Prop} {D : σ → Prop} {tr : List (Event ι C σ)}
    {s s' : σ} (h : Once P D tr s) (hs : D s → D s') : Once P D tr s' :=
  ⟨fun e he hP => hs (h.1 e he hP), h.2⟩

omit [DecidableEq ι] in
/-- One more call: it keeps the door closed, and if it is one of `P` then
it met the door open and closes it. -/
theorem Once.cons {P : Event ι C σ → Prop} {D : σ → Prop} {tr : List (Event ι C σ)}
    {s' : σ} {e : Event ι C σ} (h : Once P D tr e.pre)
    (hkeep : D e.pre → D s') (hP : P e → ¬ D e.pre ∧ D s') :
    Once P D (e :: tr) s' := by
  refine ⟨fun e' he' hPe' => ?_, .cons (fun e' he' hboth => ?_) h.2⟩
  · rcases List.mem_cons.mp he' with rfl | hmem
    · exact (hP hPe').2
    · exact hkeep (h.1 e' hmem hPe')
  · exact (hP hboth.1).1 (h.1 e' he' hboth.2)

omit [DecidableEq ι] in
/-- When no two calls of a trace satisfy `P`, two that do are the same call. -/
theorem eq_of_pairwise {P : Event ι C σ → Prop} {tr : List (Event ι C σ)}
    (h : tr.Pairwise fun e e' => ¬ (P e ∧ P e')) {e e' : Event ι C σ} (he : e ∈ tr)
    (he' : e' ∈ tr) (hP : P e) (hP' : P e') : e = e' := by
  by_contra hne
  have : Std.Symm fun e e' : Event ι C σ => ¬ (P e ∧ P e') :=
    ⟨fun _ _ hab hba => hab hba.symm⟩
  exact h.forall he he' hne ⟨hP, hP'⟩

omit [DecidableEq ι] in
/-- Two calls of `P` in a trace that has at most one are the same call. -/
theorem Once.unique {P : Event ι C σ → Prop} {D : σ → Prop} {tr : List (Event ι C σ)}
    {s : σ} (h : Once P D tr s) {e e' : Event ι C σ} (he : e ∈ tr) (he' : e' ∈ tr)
    (hP : P e) (hP' : P e') : e = e' :=
  eq_of_pairwise h.2 he he' hP hP'

/-- Two processes whose ghost says that they made a call of `P`, when no
two calls of `P` happened, are the same process. -/
theorem Once.unique_pid {M : Machine C R σ} {m : Monitor C R γ} {g₀ : ι → γ}
    {P : Event ι C σ → Prop} {D : σ → Prop} {tr : List (Event ι C σ)} {s : σ}
    (h : Once P D tr s) (used : γ → Prop) (h₀ : ∀ i, ¬ used (g₀ i))
    (hflip : ∀ i past c pre, ¬ used (ghost M m (g₀ i) i past) →
      used (m.next (ghost M m (g₀ i) i past) c (M.exec c pre).1) → P ⟨i, c, pre⟩)
    {i j : ι} (hi : used (ghost M m (g₀ i) i tr)) (hj : used (ghost M m (g₀ j) j tr)) :
    i = j := by
  have key : ∀ k, used (ghost M m (g₀ k) k tr) → ∃ e ∈ tr, e.pid = k ∧ P e := by
    intro k hk
    obtain ⟨later, ⟨k', c, pre⟩, past, htr, hpid, hbefore, hafter⟩ :=
      exists_establishing (h₀ k) hk
    subst hpid
    exact ⟨_, by rw [htr]; simp, rfl, hflip _ past c pre hbefore hafter⟩
  obtain ⟨e, he, hei, hPe⟩ := key i hi
  obtain ⟨e', he', hej, hPe'⟩ := key j hj
  rw [← hei, ← hej, h.unique he he' hPe hPe']

/-! ## Concrete runs -/

/-- Let process `i` make its next call, if it has one. -/
def Config.fire (M : Machine C R σ) (i : ι)
    (x : List (Event ι C σ) × Config ι C R ε α σ) :
    List (Event ι C σ) × Config ι C R ε α σ :=
  match x.2.procs i with
  | .call c k =>
      (⟨i, c, x.2.store⟩ :: x.1,
        ⟨(M.exec c x.2.store).2,
          Function.update x.2.procs i (k (M.exec c x.2.store).1)⟩)
  | _ => x

/-- Let the processes move in the given order. -/
def Config.schedule (M : Machine C R σ) :
    List ι → List (Event ι C σ) × Config ι C R ε α σ →
      List (Event ι C σ) × Config ι C R ε α σ
  | [], x => x
  | i :: is, x => Config.schedule M is (Config.fire M i x)

theorem Run.schedule {M : Machine C R σ} {start : Config ι C R ε α σ} :
    ∀ (is : List ι) (x : List (Event ι C σ) × Config ι C R ε α σ),
      Run M start x.1 x.2 →
        Run M start (Config.schedule M is x).1 (Config.schedule M is x).2 := by
  intro is
  induction is with
  | nil => exact fun x h => h
  | cons i is ih =>
      intro x h
      refine ih _ ?_
      unfold Config.fire
      split
      · rename_i c k hproc
        exact .call h hproc
      · exact h

theorem Run.ofSchedule (M : Machine C R σ) (start : Config ι C R ε α σ) (is : List ι) :
    Run M start (Config.schedule M is ([], start)).1 (Config.schedule M is ([], start)).2 :=
  Run.schedule is ([], start) .refl

end Effects
