import Mathlib.Logic.Basic

/-!
# Prog — programs made of atomic calls

A request handler is a tree: it ends with a value, ends with an error,
or asks the outside world for one atomic call and goes on with the
reply. The tree says nothing about who answers, so the same program is
run alone on a store (`run`) or interleaved with others
(`Lib/Interleave.lean`).

Reasoning goes through `wp`: a `Monitor` gives each program a ghost
value that every call updates, says which replies are possible and
which calls are allowed, and `wp` is the weakest condition on the ghost
under which every path is allowed and ends well. `Uses` is the footprint
of a program, and `wp_of_uses` the frame rule.
-/

namespace Effects

/-- A program whose calls are drawn from `C`, a call `c` being answered
in `R c`; it stops with an `ε` or returns an `α`. -/
inductive Prog (C : Type) (R : C → Type) (ε α : Type) where
  | pure (a : α)
  | fail (e : ε)
  | call (c : C) (k : R c → Prog C R ε α)

variable {C : Type} {R : C → Type} {ε ε' α β σ γ : Type}

namespace Prog

def bind : Prog C R ε α → (α → Prog C R ε β) → Prog C R ε β
  | .pure a, f => f a
  | .fail e, _ => .fail e
  | .call c k, f => .call c (fun r => (k r).bind f)

instance : Monad (Prog C R ε) where
  pure := .pure
  bind := .bind

/-- Run `h` on the error of a program that stops. -/
def handle : Prog C R ε α → (ε → Prog C R ε' α) → Prog C R ε' α
  | .pure a, _ => .pure a
  | .fail e, h => h e
  | .call c k, h => .call c (fun r => (k r).handle h)

/-- The program that makes one call and returns its reply. -/
def op (c : C) : Prog C R ε (R c) := .call c .pure

/-- Stop with `e` when `b` holds. -/
def stopIf (b : Prop) [Decidable b] (e : ε) : Prog C R ε Unit :=
  if b then .fail e else .pure ()

/-- The value of an option, or stop with `e`. -/
def getOr (e : ε) : Option α → Prog C R ε α
  | some a => .pure a
  | none => .fail e

/-- The program has no call left to make. -/
def ended : Prog C R ε α → Bool
  | .call _ _ => false
  | _ => true

@[simp] theorem pure_bind (a : α) (f : α → Prog C R ε β) :
    (Pure.pure a : Prog C R ε α) >>= f = f a := rfl

@[simp] theorem fail_bind (e : ε) (f : α → Prog C R ε β) :
    (.fail e : Prog C R ε α) >>= f = .fail e := rfl

@[simp] theorem call_bind (c : C) (k : R c → Prog C R ε α) (f : α → Prog C R ε β) :
    (.call c k : Prog C R ε α) >>= f = .call c (fun r => k r >>= f) := rfl

theorem bind_assoc' (p : Prog C R ε α) (f : α → Prog C R ε β) {δ : Type}
    (g : β → Prog C R ε δ) : (p >>= f) >>= g = p >>= fun a => f a >>= g := by
  induction p with
  | pure a => rfl
  | fail e => rfl
  | call c k ih =>
      simp only [call_bind]
      congr 1
      funext r
      exact ih r

/-! ## Running a program alone on a store -/

/-- The sequential meaning: every call is answered by `exec`. -/
def run (exec : (c : C) → σ → R c × σ) : Prog C R ε α → σ → Except ε α × σ
  | .pure a, s => (.ok a, s)
  | .fail e, s => (.error e, s)
  | .call c k, s => (k (exec c s).1).run exec (exec c s).2

theorem run_bind (exec : (c : C) → σ → R c × σ) (p : Prog C R ε α)
    (f : α → Prog C R ε β) (s : σ) :
    (p >>= f).run exec s =
      match p.run exec s with
      | (.ok a, s') => (f a).run exec s'
      | (.error e, s') => (.error e, s') := by
  induction p generalizing s with
  | pure a => rfl
  | fail e => rfl
  | call c k ih => exact ih _ _

/-- A program that returns has returned from its first part. -/
theorem run_bind_ok {exec : (c : C) → σ → R c × σ} {p : Prog C R ε α}
    {f : α → Prog C R ε β} {s s' : σ} {b : β} :
    (p >>= f).run exec s = (.ok b, s') ↔
      ∃ a s₁, p.run exec s = (.ok a, s₁) ∧ (f a).run exec s₁ = (.ok b, s') := by
  rw [run_bind]
  rcases hrun : p.run exec s with ⟨e | a, s₁⟩
  · simp
  · constructor
    · intro h
      exact ⟨a, s₁, rfl, h⟩
    · rintro ⟨_, _, heq, h⟩
      cases heq
      exact h

@[simp] theorem run_pure_ok {exec : (c : C) → σ → R c × σ} {a b : α} {s s' : σ} :
    (Pure.pure a : Prog C R ε α).run exec s = (.ok b, s') ↔ a = b ∧ s = s' := by
  show ((.ok a, s) : Except ε α × σ) = (.ok b, s') ↔ _
  simp

@[simp] theorem run_fail_ok {exec : (c : C) → σ → R c × σ} {e : ε} {b : β} {s s' : σ} :
    (.fail e : Prog C R ε β).run exec s = (.ok b, s') ↔ False := by
  simp [run]

theorem run_stopIf_bind_ok {exec : (c : C) → σ → R c × σ} {b : Prop} [Decidable b] {e : ε}
    {f : Unit → Prog C R ε α} {a : α} {s s' : σ} :
    (stopIf b e >>= f).run exec s = (.ok a, s') ↔ ¬b ∧ (f ()).run exec s = (.ok a, s') := by
  unfold stopIf
  by_cases h : b
  · simp [h]
  · simp only [h, if_false, not_false_eq_true, true_and]
    exact Iff.rfl

theorem run_getOr_bind_ok {exec : (c : C) → σ → R c × σ} {e : ε} {o : Option β}
    {f : β → Prog C R ε α} {a : α} {s s' : σ} :
    (getOr e o >>= f).run exec s = (.ok a, s') ↔
      ∃ b, o = some b ∧ (f b).run exec s = (.ok a, s') := by
  cases o with
  | none => simp [getOr]
  | some b =>
      simp only [Option.some.injEq, exists_eq_left']
      exact Iff.rfl

/-- The same when the store moves on its own between the calls: the `n`-th call meets the
store that `tick n` left. The number of calls made is counted on. -/
def timed (exec : (c : C) → σ → R c × σ) (tick : Nat → σ → σ) :
    Prog C R ε α → Nat → σ → Except ε α × Nat × σ
  | .pure a, n, s => (.ok a, n, s)
  | .fail e, n, s => (.error e, n, s)
  | .call c k, n, s =>
      (k (exec c (tick n s)).1).timed exec tick (n + 1) (exec c (tick n s)).2

/-! ## Footprints -/

/-- Every call the program can make lies in `S`. -/
def Uses (S : C → Prop) : Prog C R ε α → Prop
  | .pure _ => True
  | .fail _ => True
  | .call c k => S c ∧ ∀ r, (k r).Uses S

theorem uses_pure (S : C → Prop) (a : α) :
    (Pure.pure a : Prog C R ε α).Uses S := trivial

theorem uses_fail (S : C → Prop) (e : ε) : (.fail e : Prog C R ε α).Uses S := trivial

theorem uses_op {S : C → Prop} {c : C} (h : S c) :
    (op c : Prog C R ε (R c)).Uses S := ⟨h, fun _ => trivial⟩

theorem uses_stopIf (S : C → Prop) (b : Prop) [Decidable b] (e : ε) :
    (stopIf b e : Prog C R ε Unit).Uses S := by
  unfold stopIf
  split <;> trivial

theorem uses_getOr (S : C → Prop) (e : ε) (o : Option α) :
    (getOr e o : Prog C R ε α).Uses S := by
  cases o <;> trivial

theorem uses_all (p : Prog C R ε α) : p.Uses fun _ => True := by
  induction p with
  | pure a => trivial
  | fail e => trivial
  | call c k ih => exact ⟨trivial, ih⟩

theorem uses_bind {S : C → Prop} {p : Prog C R ε α} {f : α → Prog C R ε β}
    (hp : p.Uses S) (hf : ∀ a, (f a).Uses S) : (p >>= f).Uses S := by
  induction p with
  | pure a => exact hf a
  | fail e => trivial
  | call c k ih => exact ⟨hp.1, fun r => ih r (hp.2 r)⟩

theorem uses_handle {S : C → Prop} {p : Prog C R ε α} {h : ε → Prog C R ε' α}
    (hp : p.Uses S) (hh : ∀ e, (h e).Uses S) : (p.handle h).Uses S := by
  induction p with
  | pure a => trivial
  | fail e => exact hh e
  | call c k ih => exact ⟨hp.1, fun r => ih r (hp.2 r)⟩

theorem Uses.mono {S T : C → Prop} {p : Prog C R ε α} (hp : p.Uses S)
    (h : ∀ c, S c → T c) : p.Uses T := by
  induction p with
  | pure a => trivial
  | fail e => trivial
  | call c k ih => exact ⟨h c hp.1, fun r => ih r (hp.2 r)⟩

/-! ## How a program stops -/

/-- Every path of the program that stops, stops with an error of `E`. -/
def StopsWith (E : ε → Prop) : Prog C R ε α → Prop
  | .pure _ => True
  | .fail e => E e
  | .call _ k => ∀ r, (k r).StopsWith E

theorem stopsWith_all (p : Prog C R ε α) : p.StopsWith fun _ => True := by
  induction p with
  | pure a => trivial
  | fail e => trivial
  | call c k ih => exact ih

theorem stopsWith_pure (E : ε → Prop) (a : α) :
    (Pure.pure a : Prog C R ε α).StopsWith E := trivial

theorem stopsWith_op (E : ε → Prop) (c : C) :
    (op c : Prog C R ε (R c)).StopsWith E := fun _ => trivial

theorem stopsWith_stopIf {E : ε → Prop} (b : Prop) [Decidable b] {e : ε} (h : E e) :
    (stopIf b e : Prog C R ε Unit).StopsWith E := by
  unfold stopIf
  split
  · exact h
  · trivial

theorem stopsWith_getOr {E : ε → Prop} {e : ε} (h : E e) (o : Option α) :
    (getOr e o : Prog C R ε α).StopsWith E := by
  cases o with
  | none => exact h
  | some a => trivial

theorem stopsWith_bind {E : ε → Prop} {p : Prog C R ε α} {f : α → Prog C R ε β}
    (hp : p.StopsWith E) (hf : ∀ a, (f a).StopsWith E) : (p >>= f).StopsWith E := by
  induction p with
  | pure a => exact hf a
  | fail e => exact hp
  | call c k ih => exact fun r => ih r (hp r)

end Prog

/-! ## Monitors and the weakest precondition -/

/-- What a proof watches along a program: the ghost `γ`, the replies a
call can get, the calls allowed and how a call changes the ghost. -/
structure Monitor (C : Type) (R : C → Type) (γ : Type) where
  good : γ → (c : C) → R c → Prop
  ok : γ → C → Prop
  next : γ → (c : C) → R c → γ

namespace Monitor

/-- The monitor of a program run alone: the ghost is the store. -/
def ofExec (exec : (c : C) → σ → R c × σ) : Monitor C R σ where
  good := fun s c r => r = (exec c s).1
  ok := fun _ _ => True
  next := fun s c _ => (exec c s).2

end Monitor

open Prog

/-- From ghost `g`, every path of the program makes allowed calls only,
returns with `Q` and stops with `E`. -/
def wp (m : Monitor C R γ) : Prog C R ε α → (γ → α → Prop) → (γ → ε → Prop) → γ → Prop
  | .pure a, Q, _, g => Q g a
  | .fail e, _, E, g => E g e
  | .call c k, Q, E, g => m.ok g c ∧ ∀ r, m.good g c r → wp m (k r) Q E (m.next g c r)

section
variable {m : Monitor C R γ} {Q Q' : γ → α → Prop} {E E' : γ → ε → Prop} {g : γ}

@[simp] theorem wp_pure {a : α} : wp m (Pure.pure a : Prog C R ε α) Q E g ↔ Q g a :=
  Iff.rfl

@[simp] theorem wp_fail {e : ε} : wp m (.fail e : Prog C R ε α) Q E g ↔ E g e :=
  Iff.rfl

theorem wp_call {c : C} {k : R c → Prog C R ε α} :
    wp m (.call c k) Q E g ↔ m.ok g c ∧ ∀ r, m.good g c r → wp m (k r) Q E (m.next g c r) :=
  Iff.rfl

@[simp] theorem wp_op {c : C} {Q : γ → R c → Prop} :
    wp m (op c : Prog C R ε (R c)) Q E g ↔
      m.ok g c ∧ ∀ r, m.good g c r → Q (m.next g c r) r := Iff.rfl

@[simp] theorem wp_stopIf (b : Prop) [Decidable b] (e : ε) {Q : γ → Unit → Prop} :
    wp m (stopIf b e : Prog C R ε Unit) Q E g ↔ (b → E g e) ∧ (¬ b → Q g ()) := by
  unfold stopIf
  split <;> rename_i h <;> simp [wp, h]

@[simp] theorem wp_getOr (e : ε) (o : Option α) :
    wp m (getOr e o : Prog C R ε α) Q E g ↔
      (o = none → E g e) ∧ ∀ a, o = some a → Q g a := by
  cases o <;> simp [getOr, wp]

@[simp] theorem wp_bind (p : Prog C R ε α) (f : α → Prog C R ε β) {Q : γ → β → Prop} :
    wp m (p >>= f) Q E g ↔ wp m p (fun g a => wp m (f a) Q E g) E g := by
  induction p generalizing g with
  | pure a => exact Iff.rfl
  | fail e => exact Iff.rfl
  | call c k ih =>
      simp only [call_bind, wp]
      exact and_congr_right fun _ => forall_congr' fun r => imp_congr_right fun _ => ih r

@[simp] theorem wp_handle (p : Prog C R ε α) (h : ε → Prog C R ε' α)
    {E : γ → ε' → Prop} :
    wp m (p.handle h) Q E g ↔ wp m p Q (fun g e => wp m (h e) Q E g) g := by
  induction p generalizing g with
  | pure a => exact Iff.rfl
  | fail e => exact Iff.rfl
  | call c k ih =>
      simp only [handle, wp]
      exact and_congr_right fun _ => forall_congr' fun r => imp_congr_right fun _ => ih r

theorem wp_mono {p : Prog C R ε α} (h : wp m p Q E g)
    (hQ : ∀ g a, Q g a → Q' g a) (hE : ∀ g e, E g e → E' g e) : wp m p Q' E' g := by
  induction p generalizing g with
  | pure a => exact hQ g a h
  | fail e => exact hE g e h
  | call c k ih => exact ⟨h.1, fun r hr => ih r (h.2 r hr)⟩

theorem wp_and {p : Prog C R ε α} (h : wp m p Q E g) (h' : wp m p Q' E' g) :
    wp m p (fun g a => Q g a ∧ Q' g a) (fun g e => E g e ∧ E' g e) g := by
  induction p generalizing g with
  | pure a => exact ⟨h, h'⟩
  | fail e => exact ⟨h, h'⟩
  | call c k ih => exact ⟨h.1, fun r hr => ih r (h.2 r hr) (h'.2 r hr)⟩

/-- What is known of the errors a program stops with, whatever the replies. -/
theorem wp_stopsWith {p : Prog C R ε α} {P : ε → Prop} (h : wp m p Q E g)
    (hp : p.StopsWith P) : wp m p Q (fun g e => E g e ∧ P e) g := by
  induction p generalizing g with
  | pure a => exact h
  | fail e => exact ⟨h, hp⟩
  | call c k ih => exact ⟨h.1, fun r hr => ih r (h.2 r hr) (hp r)⟩

/-- A program that has ended fulfils its condition. -/
theorem wp_ended {p : Prog C R ε α} {P : γ → Prop}
    (h : wp m p (fun g _ => P g) (fun g _ => P g) g) (hp : p.ended = true) : P g := by
  cases p with
  | pure a => exact h
  | fail e => exact h
  | call c k => exact absurd hp Bool.false_ne_true

/-- Frame rule: a property of the ghost kept by the calls a program makes
still holds when the program ends. -/
theorem wp_of_uses {S : C → Prop} {p : Prog C R ε α} (hp : p.Uses S) (I : γ → Prop)
    (hS : ∀ g c, I g → S c → m.ok g c ∧ ∀ r, m.good g c r → I (m.next g c r))
    (hg : I g) : wp m p (fun g' _ => I g') (fun g' _ => I g') g := by
  induction p generalizing g with
  | pure a => exact hg
  | fail e => exact hg
  | call c k ih =>
      obtain ⟨hok, hnext⟩ := hS g c hg hp.1
      exact ⟨hok, fun r hr => ih r (hp.2 r) (hnext r hr)⟩

/-- The calls of `S` are allowed and leave the ghost alone. -/
def Monitor.Quiet (m : Monitor C R γ) (S : C → Prop) : Prop :=
  ∀ g c, S c → m.ok g c ∧ ∀ r, m.good g c r → m.next g c r = g

/-- A program whose calls leave the ghost alone ends with the ghost it
started from. -/
theorem wp_of_quiet {S : C → Prop} {p : Prog C R ε α} (hp : p.Uses S) (hS : m.Quiet S)
    (hQ : ∀ a, Q g a) (hE : ∀ e, E g e) : wp m p Q E g := by
  have h : wp m p (fun g' _ => g' = g) (fun g' _ => g' = g) g := by
    refine wp_of_uses hp (· = g) ?_ rfl
    rintro g' c rfl hc
    exact hS g' c hc
  refine wp_mono h ?_ ?_
  · rintro _ a rfl
    exact hQ a
  · rintro _ e rfl
    exact hE e

/-- The same in front of the rest of a program. -/
theorem wp_quiet_bind {S : C → Prop} {p : Prog C R ε α} {f : α → Prog C R ε β}
    {Q : γ → β → Prop} (hp : p.Uses S) (hS : m.Quiet S) (hE : ∀ e, E g e)
    (hf : ∀ a, wp m (f a) Q E g) : wp m (p >>= f) Q E g :=
  (wp_bind p f).mpr (wp_of_quiet hp hS hf hE)

end

/-! ## Safe programs -/

/-- From any ghost, every path of the program makes allowed calls only. -/
def Safe (m : Monitor C R γ) (p : Prog C R ε α) : Prop :=
  ∀ g, wp m p (fun _ _ => True) (fun _ _ => True) g

section
variable {m : Monitor C R γ}

theorem safe_pure (a : α) : Safe m (Pure.pure a : Prog C R ε α) := fun _ => trivial

theorem safe_fail (e : ε) : Safe m (.fail e : Prog C R ε α) := fun _ => trivial

theorem Safe.bind {p : Prog C R ε α} {f : α → Prog C R ε β} (hp : Safe m p)
    (hf : ∀ a, Safe m (f a)) : Safe m (p >>= f) := fun g =>
  (wp_bind p f).mpr (wp_mono (hp g) (fun g' a _ => hf a g') fun _ _ h => h)

theorem Safe.handle {p : Prog C R ε α} {h : ε → Prog C R ε' α} (hp : Safe m p)
    (hh : ∀ e, Safe m (h e)) : Safe m (p.handle h) := fun g =>
  (wp_handle p h).mpr (wp_mono (hp g) (fun _ _ h => h) fun g' e _ => hh e g')

theorem safe_of_uses {S : C → Prop} {p : Prog C R ε α} (hp : p.Uses S)
    (hS : ∀ g c, S c → m.ok g c) : Safe m p := fun _ =>
  wp_of_uses hp (fun _ => True) (fun g c _ hc => ⟨hS g c hc, fun _ _ => trivial⟩) trivial

end

/-! ## Programs that ensure their result -/

/-- From any ghost, every path makes allowed calls only, and returns a
value of `Q` when it returns. -/
def Ensures (m : Monitor C R γ) (p : Prog C R ε α) (Q : α → Prop) : Prop :=
  ∀ g, wp m p (fun _ a => Q a) (fun _ _ => True) g

section
variable {m : Monitor C R γ} {Q Q' : α → Prop}

theorem ensures_pure {a : α} (h : Q a) : Ensures m (Pure.pure a : Prog C R ε α) Q := fun _ => h

theorem ensures_fail (e : ε) : Ensures m (.fail e : Prog C R ε α) Q := fun _ => trivial

theorem ensures_op {c : C} {Q : R c → Prop} (hok : ∀ g, m.ok g c)
    (hQ : ∀ g r, m.good g c r → Q r) : Ensures m (op c : Prog C R ε (R c)) Q := fun g =>
  ⟨hok g, hQ g⟩

theorem ensures_stopIf (b : Prop) [Decidable b] (e : ε) :
    Ensures m (stopIf b e : Prog C R ε Unit) fun _ => ¬b := by
  intro g
  simp

theorem ensures_getOr (e : ε) (o : Option α) :
    Ensures m (getOr e o : Prog C R ε α) fun a => o = some a := by
  intro g
  simp

theorem Ensures.mono {p : Prog C R ε α} (h : Ensures m p Q) (hQ : ∀ a, Q a → Q' a) :
    Ensures m p Q' := fun g => wp_mono (h g) (fun _ => hQ) fun _ _ h => h

theorem Ensures.bind {p : Prog C R ε α} {f : α → Prog C R ε β} {Q' : β → Prop}
    (h : Ensures m p Q) (hf : ∀ a, Q a → Ensures m (f a) Q') : Ensures m (p >>= f) Q' := fun g =>
  (wp_bind p f).mpr (wp_mono (h g) (fun g' a ha => hf a ha g') fun _ _ h => h)

theorem Ensures.safe_bind {p : Prog C R ε α} {f : α → Prog C R ε β}
    (h : Ensures m p Q) (hf : ∀ a, Q a → Safe m (f a)) : Safe m (p >>= f) := fun g =>
  (wp_bind p f).mpr (wp_mono (h g) (fun g' a ha => hf a ha g') fun _ _ h => h)

theorem Safe.ensures {p : Prog C R ε α} (h : Safe m p) : Ensures m p fun _ => True := h

end

/-- The monitor that watches nothing: any call, any reply. -/
def Monitor.free : Monitor C R Unit where
  good := fun _ _ _ => True
  ok := fun _ _ => True
  next := fun _ _ _ => ()

theorem ensures_free (p : Prog C R ε α) : Ensures Monitor.free p fun _ => True := fun _ =>
  wp_of_uses (uses_all p) (fun _ => True) (fun _ _ _ _ => ⟨trivial, fun _ _ => trivial⟩) trivial

/-- What a program returns whatever the replies, it returns under any monitor. -/
theorem Ensures.and_wp {m : Monitor C R γ} {p : Prog C R ε α} {Q : α → Prop}
    {P : γ → α → Prop} {E : γ → ε → Prop} {g : γ} (h : Ensures Monitor.free p Q)
    (hp : wp m p P E g) : wp m p (fun g a => P g a ∧ Q a) E g := by
  induction p generalizing g with
  | pure a => exact ⟨hp, h ()⟩
  | fail e => exact hp
  | call c k ih => exact ⟨hp.1, fun r hr => ih r (fun u => (h u).2 r trivial) (hp.2 r hr)⟩

theorem Ensures.of_run {exec : (c : C) → σ → R c × σ} {p : Prog C R ε α} {Q : α → Prop}
    {s s' : σ} {a : α} (h : Ensures Monitor.free p Q) (hrun : p.run exec s = (.ok a, s')) :
    Q a := by
  induction p generalizing s with
  | pure b =>
      cases hrun
      exact h ()
  | fail e => cases hrun
  | call c k ih => exact ih _ (fun u => (h u).2 _ trivial) hrun

/-! ## What a program has asked and been told -/

/-- The monitor that remembers the calls of a program with the replies, last call first. -/
def Monitor.log (good : (c : C) → R c → Prop) (ok : List ((c : C) × R c) → C → Prop) :
    Monitor C R (List ((c : C) × R c)) where
  good := fun _ c r => good c r
  ok := ok
  next := fun log c r => ⟨c, r⟩ :: log

/-- What a log gains are calls of `S`. -/
def Gains (S : C → Prop) (log log' : List ((c : C) × R c)) : Prop :=
  ∃ gained, log' = gained ++ log ∧ ∀ x ∈ gained, S x.1

section
variable {S : C → Prop} {log log' : List ((c : C) × R c)}

theorem Gains.refl : Gains S log log :=
  ⟨[], rfl, fun _ hx => absurd hx List.not_mem_nil⟩

theorem Gains.cons (h : Gains S log log') {c : C} (hc : S c) (r : R c) :
    Gains S log (⟨c, r⟩ :: log') := by
  obtain ⟨gained, rfl, hgained⟩ := h
  refine ⟨⟨c, r⟩ :: gained, rfl, fun x hx => ?_⟩
  rcases List.mem_cons.mp hx with rfl | hx
  · exact hc
  · exact hgained x hx

theorem Gains.mem (h : Gains S log log') {x : (c : C) × R c} (hx : x ∈ log) : x ∈ log' := by
  obtain ⟨gained, rfl, -⟩ := h
  exact List.mem_append_right _ hx

/-- A call that is not of `S` was in the log before. -/
theorem Gains.mem_of_not (h : Gains S log log') {x : (c : C) × R c} (hx : x ∈ log')
    (hnot : ¬S x.1) : x ∈ log := by
  obtain ⟨gained, rfl, hgained⟩ := h
  rcases List.mem_append.mp hx with hx | hx
  · exact absurd (hgained x hx) hnot
  · exact hx

/-- A program that uses `S` gains calls of `S`. -/
theorem wp_log_of_uses {good : (c : C) → R c → Prop} {ok : List ((c : C) × R c) → C → Prop}
    {p : Prog C R ε α} (hp : p.Uses S) (hok : ∀ log c, S c → ok log c) :
    wp (Monitor.log good ok) p (fun log' _ => Gains S log log') (fun log' _ => Gains S log log')
      log := by
  refine wp_of_uses hp (fun log' => Gains S log log') ?_ .refl
  intro log' c hgains hc
  exact ⟨hok log' c hc, fun r _ => hgains.cons hc r⟩

/-- The same in front of the rest of a program. -/
theorem wp_log_bind {good : (c : C) → R c → Prop} {ok : List ((c : C) × R c) → C → Prop}
    {p : Prog C R ε α} {f : α → Prog C R ε β} {P : ε → Prop}
    {Q : List ((c : C) × R c) → β → Prop} {E : List ((c : C) × R c) → ε → Prop}
    (hp : p.Uses S) (hok : ∀ log c, S c → ok log c) (hstop : p.StopsWith P)
    (hE : ∀ log' e, Gains S log log' → P e → E log' e)
    (hf : ∀ log' a, Gains S log log' → wp (Monitor.log good ok) (f a) Q E log') :
    wp (Monitor.log good ok) (p >>= f) Q E log := by
  refine (wp_bind p f).mpr (wp_mono (wp_stopsWith (wp_log_of_uses hp hok) hstop) ?_ ?_)
  · exact fun log' a hgains => hf log' a hgains
  · exact fun log' e hstopped => hE log' e hstopped.1 hstopped.2

end

/-- The weakest precondition of the store monitor is what running alone
ends with. -/
theorem wp_ofExec {exec : (c : C) → σ → R c × σ} {p : Prog C R ε α}
    {Q : σ → α → Prop} {E : σ → ε → Prop} {s : σ} :
    wp (Monitor.ofExec exec) p Q E s ↔
      match p.run exec s with
      | (.ok a, s') => Q s' a
      | (.error e, s') => E s' e := by
  induction p generalizing s with
  | pure a => exact Iff.rfl
  | fail e => exact Iff.rfl
  | call c k ih =>
      constructor
      · exact fun h => (ih _).mp (h.2 _ rfl)
      · refine fun h => ⟨trivial, ?_⟩
        rintro r rfl
        exact (ih _).mpr h

/-- The outcome of running alone, as a postcondition. -/
theorem wp_run (exec : (c : C) → σ → R c × σ) (p : Prog C R ε α) (s : σ) :
    wp (Monitor.ofExec exec) p (fun s' a => p.run exec s = (.ok a, s'))
      (fun s' e => p.run exec s = (.error e, s')) s := by
  rw [wp_ofExec]
  rcases p.run exec s with ⟨a | e, s'⟩ <;> rfl

theorem run_ok {exec : (c : C) → σ → R c × σ} {p : Prog C R ε α}
    {Q : σ → α → Prop} {E : σ → ε → Prop} {s s' : σ} {a : α}
    (h : wp (Monitor.ofExec exec) p Q E s) (hrun : p.run exec s = (.ok a, s')) :
    Q s' a := by
  rw [wp_ofExec, hrun] at h
  exact h

theorem run_error {exec : (c : C) → σ → R c × σ} {p : Prog C R ε α}
    {Q : σ → α → Prop} {E : σ → ε → Prop} {s s' : σ} {e : ε}
    (h : wp (Monitor.ofExec exec) p Q E s) (hrun : p.run exec s = (.error e, s')) :
    E s' e := by
  rw [wp_ofExec, hrun] at h
  exact h

/-- Calls that read no store: they leave it alone and answer the same in
any. -/
def Storeless (exec : (c : C) → σ → R c × σ) (c : C) : Prop :=
  ∃ r, ∀ s, exec c s = (r, s)

theorem run_storeless {exec : (c : C) → σ → R c × σ} {p : Prog C R ε α}
    (hp : p.Uses (Storeless exec)) : ∃ outcome, ∀ s, p.run exec s = (outcome, s) := by
  induction p with
  | pure a => exact ⟨.ok a, fun _ => rfl⟩
  | fail e => exact ⟨.error e, fun _ => rfl⟩
  | call c k ih =>
      obtain ⟨r, hr⟩ := hp.1
      obtain ⟨outcome, ho⟩ := ih r (hp.2 r)
      refine ⟨outcome, fun s => ?_⟩
      simp only [run, hr]
      exact ho s

/-- Two stores that answer the calls of a program alike: the program ends alike on them. -/
theorem run_simulates {exec : (c : C) → σ → R c × σ} {exec' : (c : C) → γ → R c × γ}
    {S : C → Prop} (I : σ → γ → Prop)
    (hI : ∀ c s t, S c → I s t → (exec c s).1 = (exec' c t).1 ∧ I (exec c s).2 (exec' c t).2)
    {p : Prog C R ε α} (hp : p.Uses S) {s : σ} {t : γ} (h : I s t) :
    (p.run exec s).1 = (p.run exec' t).1 ∧ I (p.run exec s).2 (p.run exec' t).2 := by
  induction p generalizing s t with
  | pure a => exact ⟨rfl, h⟩
  | fail e => exact ⟨rfl, h⟩
  | call c k ih =>
      obtain ⟨hreply, hnext⟩ := hI c s t hp.1 h
      simp only [run]
      rw [hreply]
      exact ih _ (hp.2 _) hnext

/-! ## The calls of a run -/

/-- The calls a program makes alone. -/
def Prog.calls (exec : (c : C) → σ → R c × σ) : Prog C R ε α → σ → List C
  | .pure _, _ => []
  | .fail _, _ => []
  | .call c k, s => c :: (k (exec c s).1).calls exec (exec c s).2

/-- The calls of a run are allowed, each at some state of the monitor, when the stores of
the run answer as the monitor expects. -/
theorem exists_ok_of_mem_calls {exec : (c : C) → σ → R c × σ} {m : Monitor C R γ} {I : σ → Prop}
    (hexec : ∀ g c s, I s → m.good g c (exec c s).1 ∧ I (exec c s).2) {p : Prog C R ε α}
    {Q : γ → α → Prop} {E : γ → ε → Prop} {g : γ} (h : wp m p Q E g) {s : σ} (hs : I s) :
    ∀ c ∈ p.calls exec s, ∃ g', m.ok g' c := by
  induction p generalizing s g with
  | pure a =>
      intro c hmem
      cases hmem
  | fail e =>
      intro c hmem
      cases hmem
  | call c k ih =>
      obtain ⟨hgood, hnext⟩ := hexec g c s hs
      intro c' hmem
      rcases List.mem_cons.mp hmem with rfl | hmem
      · exact ⟨g, h.1⟩
      · exact ih _ (h.2 _ hgood) hnext c' hmem

/-- The same of a monitor without a state. -/
theorem ok_of_mem_calls {exec : (c : C) → σ → R c × σ} {m : Monitor C R Unit} {I : σ → Prop}
    (hexec : ∀ c s, I s → m.good () c (exec c s).1 ∧ I (exec c s).2) {p : Prog C R ε α}
    (h : wp m p (fun _ _ => True) (fun _ _ => True) ()) {s : σ} (hs : I s) :
    ∀ c ∈ p.calls exec s, m.ok () c := by
  intro c hmem
  obtain ⟨g, hok⟩ := exists_ok_of_mem_calls (fun _ => hexec) h hs c hmem
  exact hok

/-- What every call of a run keeps holds of the store it ends with. -/
theorem run_keeps_of_calls {exec : (c : C) → σ → R c × σ} {ok : C → Prop} (I : σ → Prop)
    (hI : ∀ s c, I s → ok c → I (exec c s).2) {p : Prog C R ε α} {s : σ}
    (h : ∀ c ∈ p.calls exec s, ok c) (hs : I s) : I (p.run exec s).2 := by
  induction p generalizing s with
  | pure a => exact hs
  | fail e => exact hs
  | call c k ih =>
      have hcall : ok c := h c List.mem_cons_self
      refine ih _ (fun c' hmem => h c' (List.mem_cons_of_mem _ hmem)) ?_
      exact hI s c hs hcall

/-- The monitor of a program run alone that may make some calls only. -/
def Monitor.allowing (exec : (c : C) → σ → R c × σ) (ok : C → Prop) : Monitor C R σ where
  good := fun s c r => r = (exec c s).1
  ok := fun _ c => ok c
  next := fun s c _ => (exec c s).2

/-- The calls of a run are those its monitor allows. -/
theorem allowed_of_mem_calls {exec : (c : C) → σ → R c × σ} {ok : C → Prop}
    {p : Prog C R ε α} {Q : σ → α → Prop} {E : σ → ε → Prop} {s : σ}
    (h : wp (Monitor.allowing exec ok) p Q E s) : ∀ c ∈ p.calls exec s, ok c := by
  induction p generalizing s with
  | pure a =>
      intro c hmem
      cases hmem
  | fail e =>
      intro c hmem
      cases hmem
  | call c k ih =>
      intro c' hmem
      rcases List.mem_cons.mp hmem with rfl | hmem
      · exact h.1
      · exact ih _ (h.2 _ rfl) c' hmem

/-- What every allowed call keeps holds of the store a run ends with. -/
theorem run_keeps {exec : (c : C) → σ → R c × σ} {ok : C → Prop} (I : σ → Prop)
    (hI : ∀ s c, I s → ok c → I (exec c s).2) {p : Prog C R ε α} {Q : σ → α → Prop}
    {E : σ → ε → Prop} {s : σ} (h : wp (Monitor.allowing exec ok) p Q E s) (hs : I s) :
    I (p.run exec s).2 := by
  induction p generalizing s with
  | pure a => exact hs
  | fail e => exact hs
  | call c k ih => exact ih _ (h.2 _ rfl) (hI s c hs h.1)

/-- The calls of a program that uses `S` lie in `S`. -/
theorem mem_calls_of_uses {exec : (c : C) → σ → R c × σ} {S : C → Prop} {p : Prog C R ε α}
    (hp : p.Uses S) {s : σ} : ∀ c ∈ p.calls exec s, S c := by
  have hwp : wp (Monitor.allowing exec S) p (fun _ _ => True) (fun _ _ => True) s :=
    wp_of_uses hp (fun _ => True) (fun _ _ _ hc => ⟨hc, fun _ _ => trivial⟩) trivial
  exact allowed_of_mem_calls hwp

theorem mem_calls_bind {exec : (c : C) → σ → R c × σ} {p : Prog C R ε α}
    {f : α → Prog C R ε β} {s : σ} {c : C} :
    c ∈ (p >>= f).calls exec s ↔
      c ∈ p.calls exec s ∨
        ∃ a s', p.run exec s = (.ok a, s') ∧ c ∈ (f a).calls exec s' := by
  induction p generalizing s with
  | pure a =>
      show c ∈ (f a).calls exec s ↔ c ∈ [] ∨ _
      constructor
      · exact fun h => .inr ⟨a, s, rfl, h⟩
      · rintro (h | ⟨a', s', hrun, h⟩)
        · cases h
        · cases hrun
          exact h
  | fail e =>
      constructor
      · intro h
        cases h
      · rintro (h | ⟨a', s', hrun, h⟩)
        · cases h
        · cases hrun
  | call c' k ih =>
      show c ∈ c' :: ((k _) >>= f).calls exec _ ↔ c ∈ c' :: (k _).calls exec _ ∨ _
      rw [List.mem_cons, List.mem_cons, ih, or_assoc]
      exact Iff.rfl

-- Both compute by recursion on the program, so a failed unification would run it; from here on
-- they are used through the lemmas above.
attribute [irreducible] Prog.Uses wp

end Effects
