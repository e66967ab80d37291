import PurIdentityServer.Application.Consent
import PurIdentityServer.Lib.Interleave
import Mathlib.Data.Finset.Lattice.Basic

/-!
# Consents — grants of consent at the same time

A grant reads the consent of its pair of subject and client, adds to it
what the user accepts and writes the whole back. Two grants that overlap
may read the same consent, and the later write then drops what the
earlier one added. `consents_never_lost` says when that happens: when a
write meets something that its grant has neither read nor grants itself.

What a consent allows is an element of a lattice, so that "contains" is
`≤` and "both" is `⊔`.
-/

namespace PurIdentityServer

open Effects

/-- What a consent allows: scopes, and keys of authorization details. -/
abbrev Allowance := Finset Scope × Finset String

def Consent.allowance (row : Consent) : Allowance := (row.scopes, row.authorizationDetails)

/-- What is allowed by a row that may be absent. -/
def Consent.allowanceOf (row : Option Consent) : Allowance := (row.map Consent.allowance).getD ⊥

/-- What the store remembers for a pair. -/
def World.allowance (w : World) (subject clientId : String) : Allowance :=
  Consent.allowanceOf (w.consents.find (subject, clientId))

/-- The arguments of `grant`. -/
structure ConsentGrant where
  subject : String
  clientId : String
  scopes : Finset Scope
  authorizationDetails : String := ""

namespace ConsentUseCase

variable (c : ConsentUseCase)

/-- What a grant adds. -/
def allows (g : ConsentGrant) : Allowance :=
  (g.scopes, parseDetailKeys c.platform g.authorizationDetails)

/-- The program of one grant. -/
def granting (g : ConsentGrant) : M Empty Unit :=
  c.grant g.subject g.clientId g.scopes g.authorizationDetails

/-! ## One grant -/

/-- How far a process is with its grant. -/
structure Progress where
  grant : ConsentGrant
  read : Allowance := ⊥
  saved : Bool := false

/-- A process saves nothing but what it has read and what it grants. -/
def grantMonitor : Monitor Call Reply Progress where
  good := fun _ _ _ => True
  ok := fun g call =>
    match call with
    | .saveConsent row => row.subject = g.grant.subject ∧ row.clientId = g.grant.clientId ∧
        row.allowance = c.allows g.grant ⊔ g.read
    | _ => True
  next := fun g call =>
    match call with
    | .findConsent subject clientId => fun found : Option Consent =>
        if subject = g.grant.subject ∧ clientId = g.grant.clientId then
          { g with read := Consent.allowanceOf found }
        else g
    | .saveConsent _ => fun _ => { g with saved := true }
    | _ => fun _ => g

/-- A grant ends once it has saved. -/
theorem wp_granting (g : ConsentGrant) :
    wp c.grantMonitor (c.granting g) (fun g' _ => g'.saved = true) (fun _ _ => True)
      { grant := g } := by
  unfold granting grant
  refine wp_ask_bind.mpr ⟨trivial, fun existing _ => ?_⟩
  refine wp_ask_bind.mpr ⟨trivial, fun now _ => ?_⟩
  have hread : c.grantMonitor.next { grant := g } (.findConsent g.subject g.clientId) existing =
      { grant := g, read := Consent.allowanceOf existing } := if_pos ⟨rfl, rfl⟩
  rw [hread]
  refine wp_ask_bind.mpr ⟨⟨rfl, rfl, ?_⟩, fun _ _ => wp_pure.mpr rfl⟩
  cases existing with
  | none => rfl
  | some row => rfl

end ConsentUseCase

/-! ## What a call does to the consents -/

theorem allowance_save (w : World) (row : Consent) (subject clientId : String) :
    World.allowance { w with consents := w.consents.save row } subject clientId =
      if subject = row.subject ∧ clientId = row.clientId then row.allowance
      else w.allowance subject clientId := by
  unfold World.allowance
  by_cases h : subject = row.subject ∧ clientId = row.clientId
  · obtain ⟨rfl, rfl⟩ := h
    rw [if_pos ⟨rfl, rfl⟩]
    show Consent.allowanceOf ((w.consents.save row).find (row.subject, row.clientId)) = _
    rw [w.consents.find_save_self row]
    rfl
  · rw [if_neg h, Table.find_save_of_ne]
    intro heq
    exact h ⟨congrArg Prod.fst heq, congrArg Prod.snd heq⟩

theorem allowance_exec (ports : Ports) (w : World) {call : Call}
    (h : ∀ row, call ≠ .saveConsent row) (subject clientId : String) :
    (exec ports call w).2.allowance subject clientId = w.allowance subject clientId := by
  cases call with
  | saveConsent row => exact absurd rfl (h row)
  | _ => rfl

theorem allowance_clock (w : World) (t : Instant) (subject clientId : String) :
    World.allowance { w with clock := t } subject clientId = w.allowance subject clientId := rfl

namespace ConsentUseCase

variable (c : ConsentUseCase) (ports : Ports) {ι : Type} [DecidableEq ι]

/-- Where process `i` is with its grant, after the calls of a run. -/
def progress (grants : ι → ConsentGrant) (i : ι) (tr : List (Event ι Call World)) : Progress :=
  ghost (machine ports) c.grantMonitor { grant := grants i } i tr

variable {c ports}

theorem progress_grant (grants : ι → ConsentGrant) (i : ι) (tr : List (Event ι Call World)) :
    (c.progress ports grants i tr).grant = grants i := by
  induction tr with
  | nil => rfl
  | cons e past ih =>
      obtain ⟨j, call, pre⟩ := e
      unfold progress at ih ⊢
      by_cases hj : j = i
      · subst hj
        rw [ghost_cons_self]
        cases call with
        | findConsent subject clientId =>
            refine Eq.trans ?_ ih
            unfold grantMonitor
            dsimp only
            split <;> rfl
        | _ => exact ih
      · rw [ghost_cons_ne hj]
        exact ih

/-- Only its own save makes a grant saved. -/
theorem saved_of_cons {grants : ι → ConsentGrant} {i : ι} {e : Event ι Call World}
    {tr : List (Event ι Call World)} (h : (c.progress ports grants i (e :: tr)).saved = true) :
    (c.progress ports grants i tr).saved = true ∨ e.pid = i ∧ ∃ row, e.call = .saveConsent row := by
  obtain ⟨j, call, pre⟩ := e
  unfold progress at h ⊢
  by_cases hj : j = i
  · subst hj
    rw [ghost_cons_self] at h
    cases call with
    | saveConsent row => exact .inr ⟨rfl, row, rfl⟩
    | findConsent subject clientId =>
        refine .inl (Eq.trans ?_ h)
        unfold grantMonitor
        dsimp only
        split <;> rfl
    | _ => exact .inl h
  · rw [ghost_cons_ne hj] at h
    exact .inl h

/-! ## Runs -/

variable (c ports)

/-- The call leaves everything allowed that was allowed before. -/
def KeepsConsents (e : Event ι Call World) : Prop :=
  ∀ subject clientId, e.pre.allowance subject clientId ≤
    (e.post (machine ports)).allowance subject clientId

/-- What a save replaces is what its grant has read or grants, and nothing else. -/
def Meets (grants : ι → ConsentGrant) (past : List (Event ι Call World))
    (e : Event ι Call World) : Prop :=
  ∀ row, e.call = .saveConsent row →
    e.pre.allowance (grants e.pid).subject (grants e.pid).clientId ≤
      c.allows (grants e.pid) ⊔ (c.progress ports grants e.pid past).read

variable {c ports}

/-- A save that a grant makes keeps the consents exactly when it meets nothing new. -/
theorem keeps_iff_meets {grants : ι → ConsentGrant} {past : List (Event ι Call World)}
    {e : Event ι Call World}
    (hok : c.grantMonitor.ok (c.progress ports grants e.pid past) e.call) :
    KeepsConsents ports e ↔ c.Meets ports grants past e := by
  obtain ⟨i, call, pre⟩ := e
  cases call with
  | saveConsent row =>
      obtain ⟨hsubject, hclient, hrow⟩ := hok
      rw [progress_grant] at hsubject hclient hrow
      have hpost : ∀ subject clientId,
          (Event.post (machine ports) ⟨i, .saveConsent row, pre⟩).allowance subject clientId =
            if subject = row.subject ∧ clientId = row.clientId then row.allowance
            else pre.allowance subject clientId := allowance_save pre row
      constructor
      · intro hkeeps row' _
        have h := hkeeps row.subject row.clientId
        rw [hpost, if_pos ⟨rfl, rfl⟩, hrow, hsubject, hclient] at h
        exact h
      · intro hmeets subject clientId
        rw [hpost]
        split
        · rename_i heq
          obtain ⟨rfl, rfl⟩ := heq
          have h := hmeets row rfl
          rw [hrow, hsubject, hclient]
          exact h
        · exact le_refl _
  | _ =>
      constructor
      · intro _ row hrow
        cases hrow
      · intro _ subject clientId
        exact le_refl _

/-- What a grant has saved stays allowed while every save keeps the consents. -/
theorem saved_stays {grants : ι → ConsentGrant} {start cfg : Config ι Call Reply (Stop Empty)
      Unit World} {tr : List (Event ι Call World)} (hrun : Run (machine ports) start tr cfg)
    (hok : ∀ later e past, tr = later ++ e :: past →
      c.grantMonitor.ok (c.progress ports grants e.pid past) e.call)
    (hkeeps : ∀ e ∈ tr, KeepsConsents ports e) (i : ι)
    (hsaved : (c.progress ports grants i tr).saved = true) :
    c.allows (grants i) ≤ cfg.store.allowance (grants i).subject (grants i).clientId := by
  induction hrun with
  | refl => cases hsaved
  | @call tr cfg j call k past hproc ih =>
      have hpost : ∀ e ∈ tr, KeepsConsents ports e := fun e he =>
        hkeeps e (List.mem_cons_of_mem _ he)
      have hpast : ∀ later e past, tr = later ++ e :: past →
          c.grantMonitor.ok (c.progress ports grants e.pid past) e.call := by
        intro later e past htr
        exact hok (_ :: later) e past (by rw [htr]; rfl)
      rcases saved_of_cons hsaved with hbefore | ⟨rfl, row, rfl⟩
      · exact le_trans (ih hpast hpost hbefore) (hkeeps _ List.mem_cons_self _ _)
      · obtain ⟨hsubject, hclient, hrow⟩ := hok [] _ _ rfl
        rw [progress_grant] at hsubject hclient hrow
        show _ ≤ World.allowance { cfg.store with consents := cfg.store.consents.save row } _ _
        rw [allowance_save, if_pos ⟨hsubject.symm, hclient.symm⟩, hrow]
        exact le_sup_left
  | env past hmove ih =>
      obtain ⟨t, -, hstore⟩ := hmove
      show _ ≤ World.allowance _ _ _
      rw [hstore, allowance_clock]
      exact ih hok hkeeps hsaved

/-- In a run of grants nothing that was allowed is lost, and what every ended grant added is
allowed at the end, exactly when each save meets only what its grant has read or grants. -/
theorem consents_never_lost (ports : Ports) (w : World) (grants : ι → ConsentGrant)
    {tr : List (Event ι Call World)} {cfg : Config ι Call Reply (Stop Empty) Unit World}
    (hrun : Run (machine ports) ⟨w, fun i => c.granting (grants i)⟩ tr cfg) :
    ((∀ e ∈ tr, KeepsConsents ports e) ∧
      ∀ i, cfg.procs i = .pure () →
        c.allows (grants i) ≤ cfg.store.allowance (grants i).subject (grants i).clientId) ↔
      ∀ later e past, tr = later ++ e :: past → c.Meets ports grants past e := by
  obtain ⟨hok, hends⟩ := hrun.allowed (m := c.grantMonitor)
    (Q := fun _ (g : Progress) _ => g.saved = true) (E := fun _ _ _ => True)
    (fun i => c.wp_granting (grants i)) fun _ _ _ => trivial
  constructor
  · rintro ⟨hkeeps, -⟩ later e past htr
    have hmem : e ∈ tr := by
      rw [htr]
      simp
    exact (keeps_iff_meets (hok later e past htr)).mp (hkeeps e hmem)
  · intro hmeets
    have hkeeps : ∀ e ∈ tr, KeepsConsents ports e := by
      intro e hmem
      obtain ⟨later, past, htr⟩ := List.append_of_mem hmem
      exact (keeps_iff_meets (hok later e past htr)).mpr (hmeets later e past htr)
    refine ⟨hkeeps, fun i hended => ?_⟩
    have hend := hends i
    rw [hended] at hend
    have hsaved := wp_pure.mp hend
    exact saved_stays hrun hok hkeeps i hsaved

/-! ## Where a consent comes from -/

section Origin
variable {grants : ι → ConsentGrant}

theorem saved_cons {i : ι} {e : Event ι Call World} {tr : List (Event ι Call World)}
    (h : (c.progress ports grants i tr).saved = true) :
    (c.progress ports grants i (e :: tr)).saved = true := by
  obtain ⟨j, call, pre⟩ := e
  unfold progress at h ⊢
  by_cases hj : j = i
  · subst hj
    rw [ghost_cons_self]
    cases call with
    | saveConsent row => rfl
    | findConsent subject clientId =>
        unfold grantMonitor
        dsimp only
        split <;> exact h
    | _ => exact h
  · rw [ghost_cons_ne hj]
    exact h

/-- What a process has read is what it had read before, or what its lookup met. -/
theorem read_cons (i : ι) (e : Event ι Call World) (tr : List (Event ι Call World)) :
    (c.progress ports grants i (e :: tr)).read = (c.progress ports grants i tr).read ∨
      (c.progress ports grants i (e :: tr)).read =
        e.pre.allowance (grants i).subject (grants i).clientId := by
  have hgrant : (c.progress ports grants i tr).grant = grants i := progress_grant grants i tr
  obtain ⟨j, call, pre⟩ := e
  unfold progress at hgrant ⊢
  by_cases hj : j = i
  · subst hj
    rw [ghost_cons_self]
    cases call with
    | findConsent subject clientId =>
        unfold grantMonitor at hgrant ⊢
        dsimp only
        split
        · rename_i heq
          rw [hgrant] at heq
          obtain ⟨rfl, rfl⟩ := heq
          exact .inr rfl
        · exact .inl rfl
    | _ => exact .inl rfl
  · rw [ghost_cons_ne hj]
    exact .inl rfl

variable (c ports grants)

/-- Grant `i` is one of the pair, and has saved. -/
def Granted (tr : List (Event ι Call World)) (subject clientId : String) (i : ι) : Prop :=
  (c.progress ports grants i tr).saved = true ∧
    (grants i).subject = subject ∧ (grants i).clientId = clientId

/-- Every scope and every detail was granted by the subject to the client. -/
def GrantedBefore (tr : List (Event ι Call World)) (subject clientId : String) (a : Allowance) :
    Prop :=
  (∀ scope ∈ a.1, ∃ i, c.Granted ports grants tr subject clientId i ∧
      scope ∈ (c.allows (grants i)).1) ∧
    ∀ detail ∈ a.2, ∃ i, c.Granted ports grants tr subject clientId i ∧
      detail ∈ (c.allows (grants i)).2

variable {c ports grants}

theorem Granted.cons {tr : List (Event ι Call World)} {subject clientId : String} {i : ι}
    (h : c.Granted ports grants tr subject clientId i) (e : Event ι Call World) :
    c.Granted ports grants (e :: tr) subject clientId i :=
  ⟨saved_cons h.1, h.2⟩

namespace GrantedBefore

variable {tr : List (Event ι Call World)} {subject clientId : String} {a b : Allowance}

theorem bot : c.GrantedBefore ports grants tr subject clientId ⊥ :=
  ⟨fun _ h => absurd h (Finset.notMem_empty _), fun _ h => absurd h (Finset.notMem_empty _)⟩

theorem cons (h : c.GrantedBefore ports grants tr subject clientId a) (e : Event ι Call World) :
    c.GrantedBefore ports grants (e :: tr) subject clientId a := by
  constructor
  · intro scope hscope
    obtain ⟨i, hi, hmem⟩ := h.1 scope hscope
    exact ⟨i, hi.cons e, hmem⟩
  · intro detail hdetail
    obtain ⟨i, hi, hmem⟩ := h.2 detail hdetail
    exact ⟨i, hi.cons e, hmem⟩

theorem sup (ha : c.GrantedBefore ports grants tr subject clientId a)
    (hb : c.GrantedBefore ports grants tr subject clientId b) :
    c.GrantedBefore ports grants tr subject clientId (a ⊔ b) := by
  constructor
  · intro scope hscope
    rcases Finset.mem_union.mp hscope with h | h
    · exact ha.1 scope h
    · exact hb.1 scope h
  · intro detail hdetail
    rcases Finset.mem_union.mp hdetail with h | h
    · exact ha.2 detail h
    · exact hb.2 detail h

theorem mono (h : c.GrantedBefore ports grants tr subject clientId b) (hle : a ≤ b) :
    c.GrantedBefore ports grants tr subject clientId a :=
  ⟨fun scope hscope => h.1 scope (hle.1 hscope), fun detail hdetail => h.2 detail (hle.2 hdetail)⟩

theorem own {i : ι} (h : c.Granted ports grants tr subject clientId i) :
    c.GrantedBefore ports grants tr subject clientId (c.allows (grants i)) :=
  ⟨fun _ hscope => ⟨i, h, hscope⟩, fun _ hdetail => ⟨i, h, hdetail⟩⟩

end GrantedBefore

/-- What the store allows has been granted, when it was empty and every process saves only
what it has read and grants. -/
theorem allowance_granted {α : Type} {start cfg : Config ι Call Reply (Stop Empty) α World}
    {tr : List (Event ι Call World)} (hrun : Run (machine ports) start tr cfg)
    (hnew : start.store.consents = .empty)
    (hstart : ∀ i, wp c.grantMonitor (start.procs i) (fun _ _ => True) (fun _ _ => True)
      { grant := grants i })
    (subject clientId : String) :
    c.GrantedBefore ports grants tr subject clientId (cfg.store.allowance subject clientId) := by
  have hok : ∀ later e past, tr = later ++ e :: past →
      c.grantMonitor.ok (c.progress ports grants e.pid past) e.call :=
    (hrun.allowed (m := c.grantMonitor) (Q := fun _ _ _ => True) (E := fun _ _ _ => True) hstart
      fun _ _ _ => trivial).1
  have hall : (∀ subject clientId, c.GrantedBefore ports grants tr subject clientId
        (cfg.store.allowance subject clientId)) ∧
      ∀ i, c.GrantedBefore ports grants tr (grants i).subject (grants i).clientId
        (c.progress ports grants i tr).read := by
    clear subject clientId
    induction hrun with
    | refl =>
        refine ⟨fun subject clientId => ?_, fun i => .bot⟩
        unfold World.allowance
        rw [hnew]
        exact .bot
    | @call tr cfg i call k past hproc ih =>
        obtain ⟨hstore, hread⟩ := ih fun later e past htr =>
          hok (_ :: later) e past (by rw [htr]; rfl)
        refine ⟨fun subject clientId => ?_, fun j => ?_⟩
        · by_cases hsave : ∃ row, call = .saveConsent row
          · obtain ⟨row, rfl⟩ := hsave
            obtain ⟨hsubject, hclient, hrow⟩ := hok [] _ _ rfl
            rw [progress_grant] at hsubject hclient hrow
            show c.GrantedBefore ports grants _ subject clientId
              (World.allowance { cfg.store with consents := cfg.store.consents.save row } _ _)
            rw [allowance_save]
            split
            · rename_i heq
              obtain ⟨rfl, rfl⟩ := heq
              have hgranted : c.Granted ports grants (⟨i, .saveConsent row, cfg.store⟩ :: tr)
                  row.subject row.clientId i := by
                refine ⟨?_, hsubject.symm, hclient.symm⟩
                unfold progress
                rw [ghost_cons_self]
                rfl
              rw [hrow]
              refine (GrantedBefore.own hgranted).sup ?_
              have h := (hread i).cons ⟨i, .saveConsent row, cfg.store⟩
              rw [← hsubject, ← hclient] at h
              exact h
            · exact (hstore subject clientId).cons _
          · show c.GrantedBefore ports grants _ subject clientId
              ((exec ports call cfg.store).2.allowance subject clientId)
            rw [allowance_exec ports cfg.store fun row h => hsave ⟨row, h⟩]
            exact (hstore subject clientId).cons _
        · have hcons : (c.progress ports grants j (⟨i, call, cfg.store⟩ :: tr)).read =
                (c.progress ports grants j tr).read ∨
              (c.progress ports grants j (⟨i, call, cfg.store⟩ :: tr)).read =
                cfg.store.allowance (grants j).subject (grants j).clientId := read_cons j _ tr
          rcases hcons with h | h
          · rw [h]
            exact (hread j).cons _
          · rw [h]
            exact (hstore _ _).cons _
    | env past hmove ih =>
        obtain ⟨t, -, rfl⟩ := hmove
        exact ih hok
  exact hall.1 subject clientId

end Origin

/-! ## Two grants at once -/

namespace Sample

def consent : ConsentUseCase := { platform := PurIdentityServer.Sample.platform }

/-- Alice lets one client use her profile and her address. -/
def grants : Bool → ConsentGrant
  | false => { subject := "alice", clientId := "app", scopes := {"profile"} }
  | true => { subject := "alice", clientId := "app", scopes := {"email"} }

def start : Config Bool Call Reply (Stop Empty) Unit World where
  store := PurIdentityServer.Sample.world
  procs := fun i => consent.granting (grants i)

def run (order : List Bool) : List (Event Bool Call World) ×
    Config Bool Call Reply (Stop Empty) Unit World :=
  Config.schedule (machine PurIdentityServer.Sample.ports) order ([], start)

/-- Both read before either writes. -/
def overlapping : List Bool := [false, true, false, false, true, true]

def sequential : List Bool := [false, false, false, true, true, true]

theorem run_reached (order : List Bool) :
    Run (machine PurIdentityServer.Sample.ports) start (run order).1 (run order).2 :=
  Run.ofSchedule _ _ _

end Sample

open ConsentUseCase.Sample in
/-- The second write drops the profile that the first one has added. -/
theorem consent_lost : ∃ tr cfg, Run (machine PurIdentityServer.Sample.ports) start tr cfg ∧
    (∀ i, cfg.procs i = .pure ()) ∧
    ¬∀ i, consent.allows (grants i) ≤
      cfg.store.allowance (grants i).subject (grants i).clientId := by
  refine ⟨_, _, run_reached overlapping, ?_, fun h => ?_⟩
  · intro i
    cases i <;> rfl
  · have hprofile := (h false).1 (Finset.mem_singleton_self "profile")
    exact absurd hprofile (by decide)

open ConsentUseCase.Sample in
theorem consents_never_lost_sequential :
    ((∀ e ∈ (run sequential).1, KeepsConsents PurIdentityServer.Sample.ports e) ∧
      ∀ i, (run sequential).2.procs i = .pure () →
        consent.allows (grants i) ≤
          (run sequential).2.store.allowance (grants i).subject (grants i).clientId) ↔
      ∀ later e past, (run sequential).1 = later ++ e :: past →
        consent.Meets PurIdentityServer.Sample.ports grants past e :=
  consents_never_lost PurIdentityServer.Sample.ports PurIdentityServer.Sample.world grants
    (run_reached sequential)

end ConsentUseCase

end PurIdentityServer
