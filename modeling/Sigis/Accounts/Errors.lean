namespace sigis.accounts

/-- The exception classes of `domain/errors.py` and `phone_number.py` that the account
operations raise. -/
inductive ErrorClass
  | NotFound
  | EmailAlreadyExists
  | PhoneAlreadyExists
  | InvalidCredentials
  | TokenExpiredOrInvalid
  | AccountInactive
  | InvalidPhoneNumber
deriving DecidableEq, Repr

/-- The class attribute `code`. -/
def ErrorClass.code : ErrorClass → String
  | .NotFound => "NOT_FOUND"
  | .EmailAlreadyExists => "EMAIL_ALREADY_EXISTS"
  | .PhoneAlreadyExists => "PHONE_ALREADY_EXISTS"
  | .InvalidCredentials => "INVALID_CREDENTIALS"
  | .TokenExpiredOrInvalid => "TOKEN_EXPIRED_OR_INVALID"
  | .AccountInactive => "ACCOUNT_INACTIVE"
  | .InvalidPhoneNumber => "INVALID_PHONE_NUMBER"

/-- The `detail` of an `HTTPException`: a text, or the dictionary `domain_error_to_http` builds. -/
inductive Detail
  | text (detail : String)
  | coded (code message : String)
deriving DecidableEq, Repr

/-- What an account request can raise: a domain error with its message, an HTTP error, an
exception of Python or of the database layer, or what the mail server raised. -/
inductive Error
  | domain_error (cls : ErrorClass) (message : String)
  | HTTPException (status_code : Nat) (detail : Detail)
  | ValueError (message : String)
  | AttributeError
  | RuntimeError (message : String)
  /-- A declared primary key or unique constraint refused the flush. -/
  | IntegrityError
  | MailError (exception : String)
  /-- What an endpoint returned does not fit its return annotation. -/
  | ResponseValidationError
deriving DecidableEq, Repr

def NotFound (message : String) : Error := .domain_error .NotFound message
def EmailAlreadyExists (message : String) : Error := .domain_error .EmailAlreadyExists message
def PhoneAlreadyExists (message : String) : Error := .domain_error .PhoneAlreadyExists message
def InvalidCredentials (message : String) : Error := .domain_error .InvalidCredentials message
def TokenExpiredOrInvalid (message : String) : Error := .domain_error .TokenExpiredOrInvalid message
def AccountInactive (message : String) : Error := .domain_error .AccountInactive message
def InvalidPhoneNumber (message : String) : Error := .domain_error .InvalidPhoneNumber message

/-- Raised by the code itself, not by a constraint of the database. -/
def Error.Explicit (e : Error) : Prop := e ≠ .IntegrityError

section explicit

variable {cls : ErrorClass} {status_code : Nat} {detail : Detail} {message : String}

theorem explicit_domain_error : (Error.domain_error cls message).Explicit := Error.noConfusion

theorem explicit_http : (Error.HTTPException status_code detail).Explicit := Error.noConfusion

theorem explicit_value_error : (Error.ValueError message).Explicit := Error.noConfusion

theorem explicit_attribute_error : Error.AttributeError.Explicit := Error.noConfusion

theorem explicit_runtime_error : (Error.RuntimeError message).Explicit := Error.noConfusion

theorem explicit_mail_error : (Error.MailError message).Explicit := Error.noConfusion

end explicit

/-- `raise HTTPException(status_code, detail=str(exc))` for the listed classes; any other
exception goes through. -/
def Error.as_http (classes : List ErrorClass) (status_code : Nat) : Error → Error
  | .domain_error cls message =>
    if cls ∈ classes then .HTTPException status_code (.text message) else .domain_error cls message
  | error => error

/-- An error that is translated stays raised by the code. -/
theorem Error.Explicit.as_http {e : Error} (h : e.Explicit) (classes : List ErrorClass) (status_code : Nat) :
    (e.as_http classes status_code).Explicit := by
  cases e with
  | domain_error cls message =>
    by_cases hcls : cls ∈ classes
    · simp [Error.as_http, Error.Explicit, hcls]
    · simp [Error.as_http, Error.Explicit, hcls]
  | IntegrityError => exact absurd rfl h
  | HTTPException | ValueError | AttributeError | RuntimeError | MailError | ResponseValidationError => exact h

end sigis.accounts
