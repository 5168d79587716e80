import DqScoring.Common.Uuid

/-!
# Requests

The user of a request and the error that ends one (`presentation/api/auth.py`,
`fastapi.HTTPException`).
-/

namespace DqScoring

/-- The roles of the application. -/
inductive UserRole where
  | workspaceAdmin | dataOwner | dataSteward | dataEngineer | businessViewer
  deriving DecidableEq, Repr

/-- The user of a request. -/
structure AuthenticatedUser where
  userId : Uuid
  tenantId : Uuid
  role : UserRole
  deriving DecidableEq

/-- An `HTTPException`. -/
structure HttpError where
  statusCode : ℕ
  detail : String
  deriving DecidableEq, Repr

end DqScoring
