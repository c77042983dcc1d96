import Sigis.Domain.Permissions
import Sigis.Domain.Shared
import Sigis.Lib.Table

open relational

namespace sigis.accounts

/-- An account (`domain/identity/user.py`). -/
structure User where
  id : UUID
  email : String
  full_name : String
  phone_number : String
  hashed_password : String
  role : Role
  is_active : Bool
  created_at : Option datetime
  updated_at : Option datetime := none
deriving DecidableEq, Repr

/-- `user.hashed_password = hashed`. -/
def User.with_password (user : User) (hashed : String) : User := { user with hashed_password := hashed }

/-! The columns of the account tables; the surrogate keys of the reset tokens and of the role
permissions, which nothing reads, are left out. -/

/-- The table `users`. -/
structure UserModel where
  id : UUID
  email : String
  full_name : String
  phone_number : String
  hashed_password : String
  role : String
  is_active : Bool
  created_at : Option datetime
  updated_at : Option datetime
deriving DecidableEq, Repr

/-- The table `password_reset_tokens`, under the hash. -/
structure PasswordResetTokenModel where
  user_id : UUID
  token_hash : String
  expires_at : datetime
  used : Bool
  created_at : datetime
deriving DecidableEq, Repr

/-- The table `role_permissions`. -/
structure RolePermissionModel where
  role : String
  permission : String
deriving DecidableEq, Repr

/-- `uq_users_email` and `uq_users_phone_number`. -/
instance : Row UserModel UUID where
  key r := r.id
  conflict a b := a.email = b.email ∨ a.phone_number = b.phone_number
  conflict_symm a b := by simp [eq_comm]

/-- `token_hash` is unique. -/
instance : Row PasswordResetTokenModel String := ⟨fun r => r.token_hash, fun _ _ => false, fun _ _ => rfl⟩

/-- `uq_role_permission`. -/
instance : Row RolePermissionModel (String × String) :=
  ⟨fun r => (r.role, r.permission), fun _ _ => false, fun _ _ => rfl⟩

@[simp] theorem key_user (r : UserModel) : Row.key r = r.id := rfl

@[simp] theorem key_password_reset_token (r : PasswordResetTokenModel) : Row.key r = r.token_hash := rfl

/-- Accounts differ in identifier, e-mail and number. -/
@[simp] theorem clash_user_iff {a b : UserModel} :
    clash a b ↔ a.id = b.id ∨ a.email = b.email ∨ a.phone_number = b.phone_number := by
  simp [clash, Row.key, Row.conflict]

/-- Tokens differ in their hash. -/
@[simp] theorem clash_password_reset_token_iff {a b : PasswordResetTokenModel} :
    clash a b ↔ a.token_hash = b.token_hash := by
  simp [clash, Row.key, Row.conflict]

/-- A role has a permission once. -/
@[simp] theorem clash_role_permission_iff {a b : RolePermissionModel} : clash a b ↔ a = b := by
  cases a
  cases b
  simp [clash, Row.key, Row.conflict]

/-- What the `DateTime` columns keep of a row. -/
def UserModel.stored (row : UserModel) : UserModel :=
  { row with created_at := row.created_at.map .stored, updated_at := row.updated_at.map .stored }

def PasswordResetTokenModel.stored (row : PasswordResetTokenModel) : PasswordResetTokenModel :=
  { row with expires_at := row.expires_at.stored, created_at := row.created_at.stored }

/-- The `UPDATE` of a row loaded as `loaded` and left as `written`: the columns `update` may
give another value. -/
def UserModel.flush (loaded written current : UserModel) : UserModel :=
  { current with
    full_name := column loaded.full_name written.full_name current.full_name
    phone_number := column loaded.phone_number written.phone_number current.phone_number
    hashed_password := column loaded.hashed_password written.hashed_password current.hashed_password
    is_active := column loaded.is_active written.is_active current.is_active
    role := column loaded.role written.role current.role
    updated_at := bound_column (Option.map .stored) loaded.updated_at written.updated_at current.updated_at }

def PasswordResetTokenModel.flush (loaded written current : PasswordResetTokenModel) :
    PasswordResetTokenModel :=
  { current with used := column loaded.used written.used current.used }

theorem UserModel.key_flush (loaded written current : UserModel) :
    Row.key (UserModel.flush loaded written current) = Row.key current := rfl

theorem PasswordResetTokenModel.keeps_flush (loaded written : PasswordResetTokenModel) :
    Table.Keeps (PasswordResetTokenModel.flush loaded written) := ⟨fun _ => rfl, fun _ _ => rfl⟩

end sigis.accounts
