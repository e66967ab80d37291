import PurIdentityServer.Application.IdToken
import PurIdentityServer.Application.TokenCalls

/-!
# Consent — when a user is asked, and what is remembered

A client that requires consent sends every request through the consent
page, unless it is covered by a consent its user has given before. A FAPI
client asks at each request.
-/

namespace PurIdentityServer

open Effects

/-- `authorization_detail_keys` -/
def authorizationDetailKeys (p : Platform) (details : List Json) : Finset String :=
  (details.map p.jsonDumps).toFinset

/-- `_parse_detail_keys` -/
def parseDetailKeys (p : Platform) (authorizationDetails : String) : Finset String :=
  match parseAuthorizationDetails p authorizationDetails with
  | .ok details => authorizationDetailKeys p details
  | .error _ => ∅

/-- `ConsentUseCase` -/
structure ConsentUseCase where
  platform : Platform

namespace ConsentUseCase

variable (c : ConsentUseCase) {ε : Type}

/-- `is_required` -/
def isRequired (client : Client) (subject : String) (scopes : Finset Scope)
    (authorizationDetails : String) (force : Bool) : M ε Bool :=
  if ¬client.requireConsent then pure false
  else if client.fapiEnabled ∨ client.fapi2Enabled then pure true
  else if force then pure true
  else do
    match ← ask (.findConsent subject client.clientId) with
    | none => pure true
    | some stored => pure !(stored.covers scopes (parseDetailKeys c.platform authorizationDetails))

/-- `grant` -/
def grant (subject clientId : String) (scopes : Finset Scope) (authorizationDetails : String) :
    M ε Unit := do
  let existing ← ask (.findConsent subject clientId)
  let now ← ask .now
  let _ ← ask (.saveConsent
    { subject := subject
      clientId := clientId
      scopes := scopes ∪ (existing.map Consent.scopes).getD ∅
      grantedAt := now
      authorizationDetails := parseDetailKeys c.platform authorizationDetails ∪
        (existing.map Consent.authorizationDetails).getD ∅ })
  pure ()

/-- The user is asked, on a store. -/
def Asks (w : World) (client : Client) (subject : String) (scopes : Finset Scope)
    (authorizationDetails : String) (force : Bool) : Prop :=
  client.requireConsent = true ∧
    (client.fapiEnabled = true ∨ client.fapi2Enabled = true ∨ force = true ∨
      ∀ stored, w.consents.find (subject, client.clientId) = some stored →
        stored.covers scopes (parseDetailKeys c.platform authorizationDetails) = false)

theorem isRequired_uses (client : Client) (subject : String) (scopes : Finset Scope)
    (authorizationDetails : String) (force : Bool) :
    (c.isRequired client subject scopes authorizationDetails force : M ε Bool).Uses
      (Call.In [.consents]) := by
  unfold isRequired
  split
  · exact Prog.uses_pure _ _
  split
  · exact Prog.uses_pure _ _
  split
  · exact Prog.uses_pure _ _
  refine Prog.uses_bind (Prog.uses_op rfl) fun stored => ?_
  cases stored <;> exact Prog.uses_pure _ _

theorem grant_uses (subject clientId : String) (scopes : Finset Scope)
    (authorizationDetails : String) :
    (c.grant subject clientId scopes authorizationDetails : M ε Unit).Uses
      (Call.In [.passive, .consents]) := by
  refine Prog.uses_bind (Prog.uses_op rfl) fun existing => ?_
  refine Prog.uses_bind (Prog.uses_op rfl) fun now => ?_
  exact Prog.uses_bind (Prog.uses_op rfl) fun _ => Prog.uses_pure _ _

/-- `isRequired` tells whether the user is asked. -/
theorem run_isRequired (ports : Ports) (w : World) (client : Client) (subject : String)
    (scopes : Finset Scope) (authorizationDetails : String) (force : Bool) :
    ∃ asks, (c.isRequired client subject scopes authorizationDetails force : M ε Bool).run
        (exec ports) w = (.ok asks, w) ∧
      (asks = true ↔ c.Asks w client subject scopes authorizationDetails force) := by
  unfold isRequired Asks
  by_cases hrequire : client.requireConsent = true
  · rw [if_neg (not_not.mpr hrequire)]
    by_cases hfapi : client.fapiEnabled = true ∨ client.fapi2Enabled = true
    · rw [if_pos hfapi]
      exact ⟨true, rfl, by tauto⟩
    rw [if_neg hfapi]
    by_cases hforce : force = true
    · rw [if_pos hforce]
      exact ⟨true, rfl, by tauto⟩
    rw [if_neg hforce, run_ask_bind]
    have hreply : (exec ports (.findConsent subject client.clientId) w).1 =
        w.consents.find (subject, client.clientId) := rfl
    rw [hreply]
    rw [not_or] at hfapi
    cases w.consents.find (subject, client.clientId) with
    | none => exact ⟨true, rfl, by simp [hrequire]⟩
    | some stored => exact ⟨_, rfl, by simp [hrequire, hfapi, hforce]⟩
  · rw [if_pos hrequire]
    exact ⟨false, rfl, by simp [hrequire]⟩

end ConsentUseCase

end PurIdentityServer
