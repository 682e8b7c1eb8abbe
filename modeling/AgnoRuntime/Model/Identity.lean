import AgnoRuntime.Model.Base

/-!
# Whose request it is

`app/core/identity_context.py`: the one place that decides which user and groups
a request is served for. Verifying a bearer token ends in a `VerifiedIdentity` or
in nothing.
-/

namespace AgnoRuntime

/-- `AUTH_MODE`. -/
inductive AuthMode where
  | trustClientUserId | keycloakRequired
deriving DecidableEq

/-- `VerifiedIdentity`; a token without `sub` verifies to no identity at all. -/
structure VerifiedIdentity where
  userId : String
  groups : List String
  userIdGiven : userId ≠ ""
deriving DecidableEq

/-- The settings the services read. -/
structure Settings where
  authMode : AuthMode
  featureQuotaManagement : Bool
  featurePlanningEngine : Bool
  featureExecutionEngine : Bool
deriving DecidableEq

/-- `resolve_effective_user_id`. -/
def resolveEffectiveUserId (identity : Option VerifiedIdentity)
    (clientSuppliedUserId : Option String) (authMode : AuthMode) :
    Option String × List String :=
  match identity with
  | some verified => (some verified.userId, verified.groups)
  | none =>
    match authMode with
    | .keycloakRequired => (none, [])
    | .trustClientUserId => (clientSuppliedUserId, [])

/-- Under `keycloak_required` the client's value does not matter. -/
theorem resolveEffectiveUserId_keycloakRequired (identity : Option VerifiedIdentity)
    (userId userId' : Option String) :
    resolveEffectiveUserId identity userId .keycloakRequired =
      resolveEffectiveUserId identity userId' .keycloakRequired := by
  cases identity <;> rfl

end AgnoRuntime
