import Sigis.Accounts.Deployment
import Sigis.Rbac.Repository

open guarded

namespace sigis.accounts

/-! `api/deps.py`. -/

/-- What a request carries to be authenticated: the bearer token and the `X-User-Id` header. -/
structure Credentials where
  token : Option String := none
  x_user_id : Option String := none

def AUTHENTICATION_REQUIRED : Error := .HTTPException 401 (.text "Authentification requise.")

/-- `_decode_token`. -/
def decode_token (d : Deployment) (now : Int) (token : String) : Except Error Payload :=
  (d.jwt.decode token d.settings.secret_key d.settings.jwt_algorithm now).mapError fun
    | .ExpiredSignatureError => .HTTPException 401 (.text "Jeton d'accès expiré.")
    | .PyJWTError => .HTTPException 401 (.text "Jeton d'accès invalide.")

def INVALID_TOKEN : Error := .HTTPException 401 (.text "Jeton invalide.")

/-- `UUID(text)`. -/
def parse_uuid (d : Deployment) (text : String) : Except Error UUID :=
  get_or_raise (d.uuid_of text) (.ValueError "badly formed hexadecimal UUID string")

/-- `_extract_user_id`. -/
def extract_user_id (d : Deployment) (payload : Payload) : Except Error UUID := do
  let sub ← get_or_raise (payload.get "sub") INVALID_TOKEN
  raise_if (sub.truthy = false) INVALID_TOKEN
  match sub with
  | .value (.str text) => parse_uuid d text
  | _ => .error .AttributeError

/-- `_extract_role_from_payload`: the claim `role`, or else the first element of the old claim
`roles`. -/
def extract_role_from_payload (payload : Payload) : Option Role :=
  let legacy :=
    match payload.get "roles" with
    | some (.list (.str first :: _)) => Role.of_value first
    | _ => none
  match payload.get "role" with
  | some (.value (.str raw)) => (Role.of_value raw).or legacy
  | _ => legacy

/-- `x_user_id and settings.is_dev`. -/
def dev_user (d : Deployment) (credentials : Credentials) : Option String :=
  credentials.x_user_id.filter fun x_user_id => x_user_id ≠ "" ∧ d.settings.is_dev

/-- `CurrentUserDep`. -/
def current_user (d : Deployment) (now : Int) (credentials : Credentials) : Except Error UUID :=
  match credentials.token with
  | some token => decode_token d now token >>= extract_user_id d
  | none =>
    match dev_user d credentials with
    | some x_user_id => parse_uuid d x_user_id
    | none => .error AUTHENTICATION_REQUIRED

/-- `CurrentUserRoleDep`. -/
def current_user_role (d : Deployment) (now : Int) (credentials : Credentials) : Except Error (Option Role) :=
  match credentials.token with
  | some token => (decode_token d now token).map extract_role_from_payload
  | none => if (dev_user d credentials).isSome then .ok none else .error AUTHENTICATION_REQUIRED

/-- `RequirePermissionDep`. -/
def require_permission (d : Deployment) (now : Int) (required : Permission) (credentials : Credentials)
    (s : AccountStore) : Except Error Unit :=
  match credentials.token with
  | none => if (dev_user d credentials).isSome then .ok () else .error AUTHENTICATION_REQUIRED
  | some token => do
    let payload ← decode_token d now token
    let roles := (extract_role_from_payload payload).toList
    let effective := RolePermissionRepositoryImpl.get_effective_permissions roles s
    raise_if (required ∉ effective) (.HTTPException 403 (.text ("Permission « " ++ required.value ++ " » requise.")))

/-- `RequireRolesDep`. -/
def require_roles (d : Deployment) (now : Int) (required : List Role) (credentials : Credentials) :
    Except Error Unit :=
  match credentials.token with
  | none => .error AUTHENTICATION_REQUIRED
  | some token => do
    let payload ← decode_token d now token
    raise_if (¬ ∃ role ∈ required, extract_role_from_payload payload = some role)
      (.HTTPException 403 (.text "Droits insuffisants pour cette opération."))

variable {d : Deployment} {now : Int} {credentials : Credentials} {role : Role} {required : Permission}
  {s : AccountStore}

/-- The request carries a bearer token that decodes to claims of this role. -/
def BearsRole (d : Deployment) (now : Int) (credentials : Credentials) (role : Role) : Prop :=
  ∃ token payload, credentials.token = some token ∧ decode_token d now token = .ok payload ∧
    extract_role_from_payload payload = some role

/-- A token of a role is admitted when the rows give the role the required permission. -/
theorem require_permission_eq_ok_iff (h : BearsRole d now credentials role) :
    require_permission d now required credentials s = .ok () ↔ required ∈ s.permissions role.value := by
  obtain ⟨token, payload, htoken, hdecode, hrole⟩ := h
  simp only [require_permission, htoken, hdecode, bind_ok, hrole, raise_if_eq_ok, not_not,
    mem_get_effective_permissions, Option.toList_some, List.mem_singleton, exists_eq_left]

theorem require_roles_eq_ok_iff {roles : List Role} (h : BearsRole d now credentials role) :
    require_roles d now roles credentials = .ok () ↔ role ∈ roles := by
  obtain ⟨token, payload, htoken, hdecode, hrole⟩ := h
  simp [require_roles, htoken, hdecode, hrole]

theorem raises_only_decode_token {token : String} : raises_only (decode_token d now token) Error.Explicit := by
  refine raises_only_mapError fun e _ => ?_
  cases e with
  | ExpiredSignatureError => exact explicit_http
  | PyJWTError => exact explicit_http

theorem raises_only_parse_uuid {text : String} : raises_only (parse_uuid d text) Error.Explicit :=
  raises_only_get_or_raise fun _ => explicit_value_error

theorem raises_only_extract_user_id {payload : Payload} : raises_only (extract_user_id d payload) Error.Explicit := by
  refine raises_only_bind (raises_only_get_or_raise fun _ => explicit_http) fun sub _ => ?_
  refine raises_only_bind (raises_only_raise_if fun _ => explicit_http) fun _ _ => ?_
  split
  · exact raises_only_parse_uuid
  · exact raises_only_error explicit_attribute_error

theorem raises_only_current_user : raises_only (current_user d now credentials) Error.Explicit := by
  unfold current_user
  split
  · exact raises_only_bind raises_only_decode_token fun _ _ => raises_only_extract_user_id
  · split
    · exact raises_only_parse_uuid
    · exact raises_only_error explicit_http

theorem raises_only_current_user_role : raises_only (current_user_role d now credentials) Error.Explicit := by
  unfold current_user_role
  split
  · exact raises_only_map raises_only_decode_token
  · split
    · exact raises_only_ok
    · exact raises_only_error explicit_http

theorem raises_only_require_permission :
    raises_only (require_permission d now required credentials s) Error.Explicit := by
  unfold require_permission
  split
  · split
    · exact raises_only_ok
    · exact raises_only_error explicit_http
  · exact raises_only_bind raises_only_decode_token fun _ _ => raises_only_raise_if fun _ => explicit_http

end sigis.accounts
