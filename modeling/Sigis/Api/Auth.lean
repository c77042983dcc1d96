import Sigis.Api.Deps
import Sigis.Application.UseCases.Auth

namespace sigis.accounts

/-! `api/v1/auth.py`. -/

/-- `POST /auth/register`. -/
def register (d : Deployment) (env : Env) (credentials : Credentials) (body : RegisterUserCommand) (s : AccountStore) :
    Except Error UUID × AccountStore :=
  match require_permission d env.now .AUTH_REGISTER_USER credentials s with
  | .error e => (.error e, s)
  | .ok () =>
    let (result, t) := RegisterUser.execute d env body s
    (result.mapError fun e =>
      (e.as_http [.InvalidPhoneNumber] 422).as_http [.EmailAlreadyExists, .PhoneAlreadyExists] 409, t)

def RESET_REQUESTED : String := "Si un compte correspondant existe, un e-mail de réinitialisation a été envoyé."

/-- `POST /auth/request-password-reset`. -/
def request_password_reset (d : Deployment) (env : Env) (body : RequestPasswordResetCommand) (s : AccountStore) :
    Except Error String × AccountStore :=
  let (result, t) := RequestPasswordReset.execute d env body s
  (result.map fun _ => RESET_REQUESTED, t)

end sigis.accounts
