/-!
# Failed requests

Why a request to the backend brought no answer.
-/

namespace Statute

/-- Why a request to the backend failed. -/
inductive BackendError where
  /-- The backend was not reached, or the connection broke. -/
  | network (detail : String)
  /-- The backend answered with a status that is no success. -/
  | status (code : Nat) (detail : String)
  /-- The answer is not of the expected form. -/
  | undecodable (detail : String)
  /-- The address of the backend is not usable. -/
  | invalidAddress (detail : String)
deriving DecidableEq

namespace BackendError

/-- The error in words. -/
def message : BackendError → String
  | network detail => "Network error: " ++ detail
  | status code detail => "Backend returned error: " ++ toString code ++ " - " ++ detail
  | undecodable detail => "Failed to decode response: " ++ detail
  | invalidAddress detail => "Invalid backend URL: " ++ detail

/-- The backend does not have what was asked for. -/
def isNotFound : BackendError → Bool
  | status 404 _ => true
  | _ => false

end BackendError

end Statute
