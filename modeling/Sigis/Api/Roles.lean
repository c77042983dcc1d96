import Sigis.Api.Deps
import Sigis.Lib.Routing
import Sigis.Rbac.Refinement

open guarded routing transactional

namespace sigis.accounts

open Transaction (lift_eq_ok_iff lift_eq_error_iff pure_eq_ok_iff)
open RolePermissionRepositoryImpl (get_permissions_for_role)

/-! The routes up to those of the roles, in the order of their registration and without the common
prefix. The routers that are included after them only see what none of these matches. -/

inductive Method
  | GET
  | POST
  | PUT
  | PATCH
  | DELETE
deriving DecidableEq

inductive Endpoint
  | health
  | bootstrap_full
  | seed_demo_users
  | register
  | login
  | change_password
  | request_password_reset
  | reset_password
  | list_users
  | get_user
  | update_user
  | update_roles
  | list_roles
  | get_role_permissions
  | set_role_permissions
  | add_permission
  | remove_permission
  | reset_permissions
  | list_permissions
deriving DecidableEq

def health_router : List (Route Method Endpoint) := [⟨.GET, [.literal "health"], .health⟩]

def admin_router : List (Route Method Endpoint) :=
  [⟨.POST, [.literal "admin", .literal "bootstrap"], .bootstrap_full⟩,
   ⟨.POST, [.literal "admin", .literal "seed-demo-users"], .seed_demo_users⟩]

def auth_router : List (Route Method Endpoint) :=
  [⟨.POST, [.literal "auth", .literal "register"], .register⟩,
   ⟨.POST, [.literal "auth", .literal "login"], .login⟩,
   ⟨.POST, [.literal "auth", .literal "change-password"], .change_password⟩,
   ⟨.POST, [.literal "auth", .literal "request-password-reset"], .request_password_reset⟩,
   ⟨.POST, [.literal "auth", .literal "reset-password"], .reset_password⟩]

def users_router : List (Route Method Endpoint) :=
  [⟨.GET, [.literal "users"], .list_users⟩,
   ⟨.GET, [.literal "users", .parameter "user_id"], .get_user⟩,
   ⟨.PATCH, [.literal "users", .parameter "user_id"], .update_user⟩,
   ⟨.PATCH, [.literal "users", .parameter "user_id", .literal "roles"], .update_roles⟩]

def roles_router : List (Route Method Endpoint) :=
  [⟨.GET, [.literal "roles"], .list_roles⟩,
   ⟨.GET, [.literal "roles", .parameter "role", .literal "permissions"], .get_role_permissions⟩,
   ⟨.PUT, [.literal "roles", .parameter "role", .literal "permissions"], .set_role_permissions⟩,
   ⟨.POST, [.literal "roles", .parameter "role", .literal "permissions", .parameter "perm"], .add_permission⟩,
   ⟨.DELETE, [.literal "roles", .parameter "role", .literal "permissions", .parameter "perm"], .remove_permission⟩,
   ⟨.POST, [.literal "roles", .parameter "role", .literal "permissions", .literal "reset"], .reset_permissions⟩,
   ⟨.GET, [.literal "roles", .literal "permissions", .literal "catalog"], .list_permissions⟩]

def api_router : List (Route Method Endpoint) :=
  health_router ++ admin_router ++ auth_router ++ users_router ++ roles_router

/-- The dictionary an endpoint that writes permissions answers with. -/
inductive RoleResponse
  | permission (role permission : String) (changed : Bool) (detail : String)
  | permissions (role : String) (permissions : List String) (detail : String)

/-- The type of a value in the dictionary an endpoint returns. -/
inductive ValueType
  | str
  | bool
  | list_str
deriving DecidableEq

def RoleResponse.values : RoleResponse → List ValueType
  | .permission _ _ _ _ => [.str, .str, .bool, .str]
  | .permissions _ _ _ => [.str, .list_str, .str]

/-- FastAPI checks what an endpoint returns against its return annotation, here
`dict[str, list[str]]`. It does so inside the unit of work, which is rolled back when it raises. -/
def serialize_response {α : Type} (values : α → List ValueType) (x : Session α) : Session α := do
  let answer ← x
  if (values answer).all (· = .list_str) then return answer else Transaction.raise .ResponseValidationError

/-- `f"{[r.value for r in Role]}"`. -/
def role_values : String :=
  "[" ++ String.intercalate ", " (Role.members.map fun role => "'" ++ role.value ++ "'") ++ "]"

/-- `_parse_role`. -/
def parse_role (d : Deployment) (role_str : String) : Except Error Role :=
  get_or_raise (Role.of_value (d.upper role_str)) (.HTTPException 404
    (.text ("Rôle « " ++ role_str ++ " » inconnu. Valeurs acceptées : " ++ role_values)))

def unknown_permission (perm_str : String) : Error :=
  .HTTPException 404
    (.text ("Permission « " ++ perm_str ++ " » inconnue. Consultez GET /roles/permissions/catalog"))

/-- `_parse_permission`. -/
def parse_permission (d : Deployment) (perm_str : String) : Except Error Permission :=
  get_or_raise (Permission.of_value (d.upper perm_str)) (unknown_permission perm_str)

def super_admins : List Role := [.SUPER_ADMIN]

/-- `POST /roles/{role}/permissions/{perm}`. -/
def add_permission (d : Deployment) (now : Int) (credentials : Credentials) (role perm : String) :
    Session RoleResponse := do
  require_roles d now super_admins credentials
  let role_enum ← parse_role d role
  let perm_enum ← parse_permission d perm
  let added ← RolePermissionRepositoryImpl.add_permission role_enum perm_enum
  return .permission role_enum.value perm_enum.value added
    (if added then "Permission ajoutée." else "Permission déjà présente (aucune modification).")

/-- `POST /roles/{role}/permissions/reset`. -/
def reset_permissions (d : Deployment) (now : Int) (credentials : Credentials) (role : String) :
    Session RoleResponse := do
  require_roles d now super_admins credentials
  let role_enum ← parse_role d role
  let defaults := default_permissions_for role_enum
  RolePermissionRepositoryImpl.set_permissions role_enum defaults
  return .permissions role_enum.value (sorted_values defaults)
    "Permissions réinitialisées aux valeurs par défaut."

/-- A POST request with this path, in the unit of work of its request; `none` when it is not
dispatched to one of the endpoints for roles. -/
def post_roles (d : Deployment) (now : Int) (credentials : Credentials) (path : List String) (s : AccountStore) :
    Option (Except Error RoleResponse × AccountStore) :=
  match dispatch api_router .POST path with
  | some (.add_permission, params) => do
    let role ← params.lookup "role"
    let perm ← params.lookup "perm"
    return atomically (add_permission d now credentials role perm) s
  | some (.reset_permissions, params) => do
    let role ← params.lookup "role"
    return atomically (serialize_response RoleResponse.values (reset_permissions d now credentials role)) s
  | _ => none

variable {d : Deployment} {now : Int} {credentials : Credentials} {role : Role} {s : AccountStore}

theorem upper_role_value (d : Deployment) (role : Role) : d.upper role.value = role.value := by
  cases role <;> exact (d.upper_of_ascii (by decide)).trans (by decide)

theorem parse_role_value (d : Deployment) (role : Role) : parse_role d role.value = .ok role := by
  rw [parse_role, upper_role_value, Role.of_value_value]
  rfl

theorem parse_permission_reset (d : Deployment) : parse_permission d "reset" = .error (unknown_permission "reset") := by
  rw [parse_permission, d.upper_of_ascii (by decide)]
  rfl

theorem super_admin_admitted (hbears : BearsRole d now credentials .SUPER_ADMIN) :
    require_roles d now super_admins credentials = .ok () :=
  (require_roles_eq_ok_iff hbears).mpr (by simp [super_admins])

/-- The handler, when it is called, does what it is for. -/
theorem reset_permissions_spec (hbears : BearsRole d now credentials .SUPER_ADMIN) (role : Role) (s : AccountStore) :
    ∃ t, reset_permissions d now credentials role.value s =
        .ok (.permissions role.value (sorted_values (default_permissions_for role))
          "Permissions réinitialisées aux valeurs par défaut.", t) ∧
      t.acl = { s.acl.assign role ↑(default_permissions_for role) with
        obsolete := Function.update s.obsolete role.value ∅ } := by
  obtain ⟨t, hset, hacl⟩ := set_permissions_acl role (default_permissions_for role) s
  refine ⟨t, ?_, hacl⟩
  refine Transaction.bind_eq_ok_iff.mpr ⟨(), s, lift_eq_ok_iff.mpr ⟨super_admin_admitted hbears, rfl⟩, ?_⟩
  refine Transaction.bind_eq_ok_iff.mpr ⟨role, s, lift_eq_ok_iff.mpr ⟨parse_role_value d role, rfl⟩, ?_⟩
  exact Transaction.bind_eq_ok_iff.mpr ⟨(), t, hset, pure_eq_ok_iff.mpr ⟨rfl, rfl⟩⟩

/-- No request reaches the handler: the route for one permission is registered before its own,
and covers it. -/
theorem reset_permissions_unreachable (method : Method) (path : List String) (params : Params) :
    dispatch api_router method path ≠ some (.reset_permissions, params) := by
  intro h
  have hsplit : api_router = (health_router ++ admin_router ++ auth_router ++ users_router ++ roles_router.take 5) ++
      ⟨.POST, [.literal "roles", .parameter "role", .literal "permissions", .literal "reset"], .reset_permissions⟩ ::
      roles_router.drop 6 := rfl
  rw [hsplit, dispatch_of_covered] at h
  · obtain ⟨route, hroute, hendpoint⟩ := exists_route_of_dispatch h
    revert hendpoint
    revert route
    decide
  · refine ⟨_, List.mem_append_right _ (List.mem_cons_of_mem _ (List.mem_cons_of_mem _ (List.mem_cons_of_mem _
      List.mem_cons_self))), rfl, ?_⟩
    refine .cons (fun _ h => h) (.cons (fun _ h => h) (.cons (fun _ h => h) (.cons ?_ .nil)))
    rintro text rfl
    simp [Segment.Allows]

/-- The request for a reset is taken for a request to add a permission called `reset`. -/
theorem post_reset (hbears : BearsRole d now credentials .SUPER_ADMIN) (role : Role) (s : AccountStore) :
    post_roles d now credentials ["roles", role.value, "permissions", "reset"] s =
      some (.error (unknown_permission "reset"), s) := by
  have hdispatch : dispatch api_router .POST ["roles", role.value, "permissions", "reset"] =
      some (.add_permission, [("role", role.value), ("perm", "reset")]) := by
    cases role <;> decide
  have hadd : add_permission d now credentials role.value "reset" s = .error (unknown_permission "reset") := by
    refine Transaction.bind_eq_error_iff.mpr (Or.inr ⟨(), s, lift_eq_ok_iff.mpr ⟨super_admin_admitted hbears, rfl⟩, ?_⟩)
    refine Transaction.bind_eq_error_iff.mpr
      (Or.inr ⟨role, s, lift_eq_ok_iff.mpr ⟨parse_role_value d role, rfl⟩, ?_⟩)
    exact Transaction.bind_eq_error_iff.mpr (Or.inl (lift_eq_error_iff.mpr (parse_permission_reset d)))
  rw [post_roles, hdispatch]
  change some (atomically (add_permission d now credentials role.value "reset") s) = _
  rw [atomically_eq_error_iff.mpr ⟨hadd, rfl⟩]

/-- What the request for a reset of a role is documented to do. -/
def ResetsRole (d : Deployment) (now : Int) (credentials : Credentials) (role : Role) (s : AccountStore) : Prop :=
  ∃ t, post_roles d now credentials ["roles", role.value, "permissions", "reset"] s =
      some (.ok (.permissions role.value (sorted_values (default_permissions_for role))
        "Permissions réinitialisées aux valeurs par défaut."), t) ∧
    get_permissions_for_role role t = default_permissions_for role ∧
    ∀ other, other ≠ role → get_permissions_for_role other t = get_permissions_for_role other s

/-- A technical administrator can reset no role: every such request is refused as one for an
unknown permission and changes nothing. -/
theorem reset_never_works (hbears : BearsRole d now credentials .SUPER_ADMIN) (role : Role) (s : AccountStore) :
    ¬ ResetsRole d now credentials role s ∧
      post_roles d now credentials ["roles", role.value, "permissions", "reset"] s =
        some (.error (unknown_permission "reset"), s) := by
  refine ⟨?_, post_reset hbears role s⟩
  rintro ⟨t, hok, -⟩
  rw [post_reset hbears role s] at hok
  cases hok

/-- The token of the technical administrator of a small deployment. -/
theorem bears_super_admin : BearsRole (.small "") 0 { token := some ".SUPER_ADMIN" } .SUPER_ADMIN :=
  ⟨_, _, rfl, rfl, by decide⟩

theorem inspector_is_not_reset : ¬ ResetsRole (.small "") 0 { token := some ".SUPER_ADMIN" } .INSPECTOR .empty := by
  rintro ⟨t, hok, -⟩
  rw [post_reset bears_super_admin] at hok
  cases hok

theorem reset_never_works_inspector :
    ¬ ResetsRole (.small "") 0 { token := some ".SUPER_ADMIN" } .INSPECTOR .empty ∧
      post_roles (.small "") 0 { token := some ".SUPER_ADMIN" } ["roles", "INSPECTOR", "permissions", "reset"] .empty =
        some (.error (unknown_permission "reset"), .empty) :=
  reset_never_works bears_super_admin .INSPECTOR .empty

end sigis.accounts
