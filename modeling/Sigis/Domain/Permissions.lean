import Mathlib.Data.Finset.Basic
import Sigis.Domain.Identity

namespace sigis

/-! `domain/identity/permission.py` and `domain/identity/role_defaults.py`. A `set[Permission]`
is a `Finset Permission`. -/

inductive Permission
  | ESTABLISHMENT_CREATE
  | ESTABLISHMENT_READ
  | ESTABLISHMENT_UPDATE
  | MISSION_CREATE
  | MISSION_READ
  | MISSION_UPDATE
  | MISSION_APPROVE
  | MISSION_CANCEL
  | MISSION_REASSIGN
  | MISSION_OUTCOME_WRITE
  | VISIT_CHECKIN
  | VISIT_HOST_CONFIRM
  | VISIT_CHECKOUT
  | VISIT_READ
  | EXCEPTION_CREATE
  | EXCEPTION_READ
  | EXCEPTION_UPDATE_STATUS
  | EXCEPTION_MANAGE
  | USER_LIST
  | USER_READ
  | USER_UPDATE
  | USER_MANAGE_ROLES
  | AUTH_REGISTER_USER
  | ROLE_READ
  | ROLE_MANAGE_PERMISSIONS
  | REPORT_READ
  | AUDIT_READ
  | TELEMETRY_READ
deriving DecidableEq, Repr

def Permission.value : Permission → String
  | .ESTABLISHMENT_CREATE => "ESTABLISHMENT_CREATE"
  | .ESTABLISHMENT_READ => "ESTABLISHMENT_READ"
  | .ESTABLISHMENT_UPDATE => "ESTABLISHMENT_UPDATE"
  | .MISSION_CREATE => "MISSION_CREATE"
  | .MISSION_READ => "MISSION_READ"
  | .MISSION_UPDATE => "MISSION_UPDATE"
  | .MISSION_APPROVE => "MISSION_APPROVE"
  | .MISSION_CANCEL => "MISSION_CANCEL"
  | .MISSION_REASSIGN => "MISSION_REASSIGN"
  | .MISSION_OUTCOME_WRITE => "MISSION_OUTCOME_WRITE"
  | .VISIT_CHECKIN => "VISIT_CHECKIN"
  | .VISIT_HOST_CONFIRM => "VISIT_HOST_CONFIRM"
  | .VISIT_CHECKOUT => "VISIT_CHECKOUT"
  | .VISIT_READ => "VISIT_READ"
  | .EXCEPTION_CREATE => "EXCEPTION_CREATE"
  | .EXCEPTION_READ => "EXCEPTION_READ"
  | .EXCEPTION_UPDATE_STATUS => "EXCEPTION_UPDATE_STATUS"
  | .EXCEPTION_MANAGE => "EXCEPTION_MANAGE"
  | .USER_LIST => "USER_LIST"
  | .USER_READ => "USER_READ"
  | .USER_UPDATE => "USER_UPDATE"
  | .USER_MANAGE_ROLES => "USER_MANAGE_ROLES"
  | .AUTH_REGISTER_USER => "AUTH_REGISTER_USER"
  | .ROLE_READ => "ROLE_READ"
  | .ROLE_MANAGE_PERMISSIONS => "ROLE_MANAGE_PERMISSIONS"
  | .REPORT_READ => "REPORT_READ"
  | .AUDIT_READ => "AUDIT_READ"
  | .TELEMETRY_READ => "TELEMETRY_READ"

def Permission.members : List Permission :=
  [.ESTABLISHMENT_CREATE, .ESTABLISHMENT_READ, .ESTABLISHMENT_UPDATE, .MISSION_CREATE, .MISSION_READ,
   .MISSION_UPDATE, .MISSION_APPROVE, .MISSION_CANCEL, .MISSION_REASSIGN, .MISSION_OUTCOME_WRITE,
   .VISIT_CHECKIN, .VISIT_HOST_CONFIRM, .VISIT_CHECKOUT, .VISIT_READ, .EXCEPTION_CREATE, .EXCEPTION_READ,
   .EXCEPTION_UPDATE_STATUS, .EXCEPTION_MANAGE, .USER_LIST, .USER_READ, .USER_UPDATE, .USER_MANAGE_ROLES,
   .AUTH_REGISTER_USER, .ROLE_READ, .ROLE_MANAGE_PERMISSIONS, .REPORT_READ, .AUDIT_READ, .TELEMETRY_READ]

/-- `Permission(value)`. -/
def Permission.of_value (value : String) : Option Permission :=
  Permission.members.find? fun perm => perm.value = value

theorem Permission.mem_members (perm : Permission) : perm ∈ Permission.members := by
  cases perm <;> decide

/-- Every member is read back from its own value. -/
@[simp] theorem Permission.of_value_value (perm : Permission) : Permission.of_value perm.value = some perm := by
  cases perm <;> decide

theorem Permission.value_of_value {value : String} {perm : Permission}
    (h : Permission.of_value value = some perm) : perm.value = value := by
  simpa using List.find?_some h

@[simp] theorem Permission.value_inj {p q : Permission} : p.value = q.value ↔ p = q := by
  constructor
  · intro h
    have hp := Permission.of_value_value p
    rw [h, Permission.of_value_value] at hp
    exact (Option.some.inj hp).symm
  · rintro rfl
    rfl

theorem Role.mem_members (role : Role) : role ∈ Role.members := by
  cases role <;> decide

theorem Role.value_of_value {value : String} {role : Role} (h : Role.of_value value = some role) :
    role.value = value := by
  simpa using List.find?_some h

@[simp] theorem Role.value_inj {r q : Role} : r.value = q.value ↔ r = q := by
  constructor
  · intro h
    have hr := Role.of_value_value r
    rw [h, Role.of_value_value] at hr
    exact (Option.some.inj hr).symm
  · rintro rfl
    rfl

/-- `_ALL`. -/
def all_permissions : Finset Permission := Permission.members.toFinset

def ROLE_DEFAULT_PERMISSIONS : Role → Finset Permission
  | .SUPER_ADMIN => all_permissions
  | .NATIONAL_ADMIN =>
    {.ESTABLISHMENT_CREATE, .ESTABLISHMENT_READ, .ESTABLISHMENT_UPDATE, .MISSION_CREATE, .MISSION_READ,
     .MISSION_UPDATE, .MISSION_APPROVE, .MISSION_CANCEL, .MISSION_REASSIGN, .MISSION_OUTCOME_WRITE,
     .VISIT_READ, .EXCEPTION_READ, .EXCEPTION_UPDATE_STATUS, .EXCEPTION_MANAGE, .USER_LIST, .USER_READ,
     .USER_UPDATE, .AUTH_REGISTER_USER, .ROLE_READ, .REPORT_READ, .AUDIT_READ, .TELEMETRY_READ}
  | .REGIONAL_SUPERVISOR =>
    {.ESTABLISHMENT_READ, .MISSION_READ, .MISSION_UPDATE, .MISSION_APPROVE, .MISSION_CANCEL,
     .MISSION_REASSIGN, .MISSION_OUTCOME_WRITE, .VISIT_READ, .EXCEPTION_READ, .EXCEPTION_UPDATE_STATUS,
     .EXCEPTION_MANAGE, .USER_READ, .ROLE_READ, .REPORT_READ}
  | .INSPECTOR =>
    {.ESTABLISHMENT_READ, .MISSION_READ, .MISSION_OUTCOME_WRITE, .VISIT_CHECKIN, .VISIT_CHECKOUT,
     .VISIT_READ, .EXCEPTION_CREATE, .EXCEPTION_READ, .USER_READ, .USER_UPDATE}
  | .HOST =>
    {.ESTABLISHMENT_READ, .MISSION_READ, .VISIT_HOST_CONFIRM, .VISIT_READ, .EXCEPTION_READ, .USER_READ,
     .USER_UPDATE}

def default_permissions_for (role : Role) : Finset Permission := ROLE_DEFAULT_PERMISSIONS role

/-- `sorted(p.value for p in perms)`. -/
def sorted_values (perms : Finset Permission) : List String :=
  ((Permission.members.filter (· ∈ perms)).map Permission.value).mergeSort

/-- The dictionary has a list for every role. -/
def all_default_permissions (role_value : String) : Option (List String) :=
  (Role.of_value role_value).map fun role => sorted_values (ROLE_DEFAULT_PERMISSIONS role)

@[simp] theorem mem_sorted_values {perms : Finset Permission} {value : String} :
    value ∈ sorted_values perms ↔ ∃ perm ∈ perms, perm.value = value := by
  simp only [sorted_values, List.mem_mergeSort, List.mem_map, List.mem_filter, decide_eq_true_eq]
  constructor
  · rintro ⟨perm, ⟨-, hmem⟩, hvalue⟩
    exact ⟨perm, hmem, hvalue⟩
  · rintro ⟨perm, hmem, hvalue⟩
    exact ⟨perm, ⟨perm.mem_members, hmem⟩, hvalue⟩

/-- The technical administrator holds the whole catalogue by default. -/
theorem mem_default_permissions_super_admin (perm : Permission) :
    perm ∈ default_permissions_for .SUPER_ADMIN :=
  List.mem_toFinset.mpr perm.mem_members

/-- Of the roles, only the technical administrator may manage roles by default. -/
theorem manages_roles_iff (role : Role) :
    .USER_MANAGE_ROLES ∈ default_permissions_for role ↔ role = .SUPER_ADMIN := by
  cases role <;> decide

end sigis
