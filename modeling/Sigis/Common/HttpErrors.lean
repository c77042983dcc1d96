import Sigis.Accounts.Errors
import Sigis.Domain.Errors

namespace sigis

/-! `common/http_errors.py`, and the handler `create_app` puts before it. -/

/-- `_CODE_TO_STATUS`. -/
def CODE_TO_STATUS : List (String × Nat) :=
  [("NOT_FOUND", 404), ("CONFLICT", 409), ("IDEMPOTENCY_REPLAY", 409), ("FORBIDDEN", 403), ("UNAUTHORIZED", 401),
   ("INVALID_CREDENTIALS", 401), ("ACCOUNT_INACTIVE", 401), ("TOKEN_EXPIRED_OR_INVALID", 400),
   ("EMAIL_ALREADY_EXISTS", 409), ("PHONE_ALREADY_EXISTS", 409), ("INVALID_PHONE_NUMBER", 422),
   ("OUTSIDE_GEOFENCE", 400), ("COPRESENCE_REJECTED", 400), ("MISSION_EXPIRED", 400), ("ALREADY_CHECKED_OUT", 400),
   ("INVARIANT_VIOLATION", 422), ("NOT_IMPLEMENTED", 501), ("HOST_NOT_AUTHORIZED", 403),
   ("MISSION_APPROVAL_REQUIRED", 409)]

/-- `_CODE_TO_STATUS.get(exc.code, 400)`. -/
def status_of_code (code : String) : Nat := (CODE_TO_STATUS.lookup code).getD 400

/-- What the client is answered: the body of `domain_error_handler`, or the `detail` of an
`HTTPException`. -/
inductive HttpBody
  | domain_error (code message : String) (request_id : Option String)
  | detail (detail : accounts.Detail)
deriving DecidableEq, Repr

structure HttpAnswer where
  status_code : Nat
  body : HttpBody
deriving DecidableEq, Repr

/-- `domain_error_handler`, with the identifier the middleware gave the request. -/
def domain_error_handler (request_id : Option String) (code message : String) : HttpAnswer :=
  ⟨status_of_code code, .domain_error code message request_id⟩

/-- The answer to what an endpoint raised. Only domain errors have a handler: any other exception
leaves the application, and the server answers for it. -/
def Error.answer (request_id : Option String) : Error → Option HttpAnswer
  | .domain_error _ message code => some (domain_error_handler request_id code message)
  | _ => none

def accounts.Error.answer (request_id : Option String) : accounts.Error → Option HttpAnswer
  | .domain_error cls message => some (domain_error_handler request_id cls.code message)
  | .HTTPException status_code detail => some ⟨status_code, .detail detail⟩
  | _ => none

end sigis
