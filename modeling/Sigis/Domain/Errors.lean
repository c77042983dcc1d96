namespace sigis

/-- The exception classes of `domain/errors.py` that the modelled code raises. -/
inductive ErrorClass
  | DomainError
  | InvariantViolation
  | GeofenceRejected
  | CoPresenceRejected
  | AlreadyCheckedOut
  | NotFound
  | Conflict
  | Forbidden
  | HostNotAuthorized
  | MissionApprovalRequired
deriving DecidableEq, Repr

/-- The class attribute `code`. -/
def ErrorClass.code : ErrorClass → String
  | .DomainError => "DOMAIN_ERROR"
  | .InvariantViolation => "INVARIANT_VIOLATION"
  | .GeofenceRejected => "OUTSIDE_GEOFENCE"
  | .CoPresenceRejected => "COPRESENCE_REJECTED"
  | .AlreadyCheckedOut => "ALREADY_CHECKED_OUT"
  | .NotFound => "NOT_FOUND"
  | .Conflict => "CONFLICT"
  | .Forbidden => "FORBIDDEN"
  | .HostNotAuthorized => "HOST_NOT_AUTHORIZED"
  | .MissionApprovalRequired => "MISSION_APPROVAL_REQUIRED"

/-- What a request can raise: a domain error with its message and code, or an
exception of Python or of the database layer. -/
inductive Error
  | domain_error (cls : ErrorClass) (message code : String)
  | AssertionError
  | ValueError (message : String)
  | MultipleResultsFound
  /-- A declared primary key or unique constraint refused the flush, or an
  updated row had disappeared. -/
  | IntegrityError
deriving DecidableEq, Repr

/-- `DomainError.__init__`: a given code replaces the one of the class. -/
def ErrorClass.raise (cls : ErrorClass) (message : String) (code : Option String := none) : Error :=
  .domain_error cls message (code.getD cls.code)

def DomainError (message code : String) : Error := ErrorClass.DomainError.raise message (some code)
def InvariantViolation (message : String) : Error := ErrorClass.InvariantViolation.raise message
def GeofenceRejected (message : String) : Error := ErrorClass.GeofenceRejected.raise message
def CoPresenceRejected (message code : String) : Error := ErrorClass.CoPresenceRejected.raise message (some code)
def AlreadyCheckedOut (message : String) : Error := ErrorClass.AlreadyCheckedOut.raise message
def NotFound (message : String) : Error := ErrorClass.NotFound.raise message
def Conflict (message : String) : Error := ErrorClass.Conflict.raise message
def Forbidden (message : String) : Error := ErrorClass.Forbidden.raise message
def HostNotAuthorized (message : String) : Error := ErrorClass.HostNotAuthorized.raise message
def MissionApprovalRequired (message : String) : Error := ErrorClass.MissionApprovalRequired.raise message

end sigis
