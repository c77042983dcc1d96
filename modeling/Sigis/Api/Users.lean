import Sigis.Api.Deps
import Sigis.Application.UseCases.Auth

open guarded relational transactional

namespace sigis.accounts

open Transaction (reads reads_bind_eq_ok_iff lift_bind_eq_ok_iff pure_eq_ok_iff)
open accounts.UserAuthRepositoryImpl

/-! `api/v1/users.py`. -/

structure UpdateUserBody where
  full_name : Option String := none
  phone_number : Option String := none
  is_active : Option Bool := none
  role : Option Role := none

structure UserResponse where
  id : UUID
  email : String
  full_name : String
  phone_number : String
  role : String
  is_active : Bool
  created_at : Json

/-- `_user_to_response`. -/
def user_to_response (u : User) : UserResponse where
  id := u.id
  email := u.email
  full_name := u.full_name
  phone_number := u.phone_number
  role := u.role.value
  is_active := u.is_active
  created_at := u.created_at.elim (.str "") .isoformat

/-- `_ADMIN_ROLES`. -/
def ADMIN_ROLES : List Role := [.SUPER_ADMIN, .NATIONAL_ADMIN]

/-- `user_role is not None and user_role in _ADMIN_ROLES`. -/
def is_admin (user_role : Option Role) : Bool := user_role.any fun role => ADMIN_ROLES.contains role

/-- `get_by_id`, with `NotFound` as a response. -/
def get_user_or_404 (user_id : UUID) (s : AccountStore) : Except Error User :=
  (get_by_id user_id s).mapError (Error.as_http [.NotFound] 404)

/-- The guards of `update_user`. -/
def may_update (user_id : UUID) (body : UpdateUserBody) (current_user : UUID) (user_role : Option Role) :
    Except Error Unit := do
  raise_if (current_user ≠ user_id ∧ is_admin user_role = false)
    (.HTTPException 403 (.text "Modification réservée à votre propre profil ou aux administrateurs."))
  raise_if ((body.is_active.isSome ∨ body.role.isSome) ∧ is_admin user_role = false)
    (.HTTPException 403 (.text "Les champs 'is_active' et 'role' sont réservés aux administrateurs."))

/-- The number the account has after the request, when nothing is raised. -/
def UpdateUserBody.new_phone (body : UpdateUserBody) (user_id : UUID) (user : User) (s : AccountStore) :
    Except Error String :=
  match body.phone_number with
  | none => .ok user.phone_number
  | some phone_number => do
    let phone_vo ← (CameroonPhoneNumber.init phone_number).mapError (Error.as_http [.InvalidPhoneNumber] 422)
    if phone_vo.e164 ≠ user.phone_number then
      let existing ← get_by_phone phone_vo.e164 s
      raise_if (existing.any (fun holder => holder.id ≠ user_id) = true)
        (.HTTPException 409 (.text ("Le numéro " ++ phone_vo.e164 ++ " est déjà utilisé.")))
    return phone_vo.e164

/-- The account with the fields of the body that are given. -/
def UpdateUserBody.apply_to (body : UpdateUserBody) (user : User) (phone_number : String) : User :=
  { user with
    full_name := body.full_name.getD user.full_name
    phone_number := phone_number
    is_active := body.is_active.getD user.is_active
    role := body.role.getD user.role }

/-- `await uow.users.update(user)` and what the endpoint reads back. -/
def save_user (env : Env) (user_id : UUID) (user : User) : Session UserResponse := do
  let writes ← reads (update env user)
  emit writes
  let updated ← reads (get_by_id user_id)
  return user_to_response updated

/-- `PATCH /users/{id}`. -/
def update_user (d : Deployment) (env : Env) (credentials : Credentials) (user_id : UUID) (body : UpdateUserBody) :
    Session UserResponse := do
  let current_user ← current_user d env.now credentials
  let user_role ← current_user_role d env.now credentials
  may_update user_id body current_user user_role
  let user ← reads (get_user_or_404 user_id)
  let phone_number ← reads (body.new_phone user_id user)
  save_user env user_id (body.apply_to user phone_number)

/-- `PATCH /users/{id}/roles`. -/
def update_roles (d : Deployment) (env : Env) (credentials : Credentials) (user_id : UUID) (role : Role) :
    Session UserResponse := do
  reads (require_permission d env.now .USER_MANAGE_ROLES credentials)
  let user ← reads (get_user_or_404 user_id)
  save_user env user_id { user with role := role }

variable {d : Deployment} {env : Env} {credentials : Credentials} {user_id : UUID} {body : UpdateUserBody}
  {s t : AccountStore} {user : User} {role : Role} {response : UserResponse} {row : UserModel}

theorem get_user_or_404_eq_ok_iff :
    get_user_or_404 user_id s = .ok user ↔ ∃ row, s.users.get user_id = some row ∧ row.Shows user := by
  rw [get_user_or_404, mapError_eq_ok, get_by_id_eq_ok_iff]

/-- No other account has the number of an account. -/
theorem own_phone (hget : s.users.get user_id = some row) :
    ∀ a ∈ s.users.rows, a.id ≠ user_id → a.phone_number ≠ row.phone_number := by
  intro a ha hne hsame
  have hclash : clash a row := clash_user_iff.mpr (Or.inr (Or.inr hsame))
  have heq : a = row := s.users.eq_of_clash ha (Table.mem_of_get hget) hclash
  exact hne (heq ▸ Table.key_of_get hget)

/-- The number is the one of the account, or a number of the numbering plan that no other
account has. -/
theorem new_phone_eq_ok (hget : s.users.get user_id = some row) (hshows : row.Shows user) {phone : String}
    (h : body.new_phone user_id user s = .ok phone) :
    (phone = row.phone_number ∨ ∃ vo : CameroonPhoneNumber, phone = vo.e164) ∧
      ∀ a ∈ s.users.rows, a.id ≠ user_id → a.phone_number ≠ phone := by
  unfold UpdateUserBody.new_phone at h
  split at h
  · cases h
    rw [hshows.phone_number]
    exact ⟨Or.inl rfl, own_phone hget⟩
  · next phone_number _ =>
    obtain ⟨vo, -, hrest⟩ := bind_eq_ok_iff.mp h
    split at hrest
    · obtain ⟨existing, hexisting, hfree⟩ := bind_eq_ok_iff.mp hrest
      obtain ⟨_, hraise, hreturn⟩ := bind_eq_ok_iff.mp hfree
      cases hreturn
      refine ⟨Or.inr ⟨vo, rfl⟩, ?_⟩
      intro a ha hne hsame
      cases existing with
      | none => exact get_by_phone_eq_ok_none_iff.mp hexisting a ha hsame
      | some holder =>
        obtain ⟨found, hfound, hholder, hphone⟩ := get_by_phone_eq_ok_some hexisting
        have hclash : clash a found := clash_user_iff.mpr (Or.inr (Or.inr (hsame.trans hphone.symm)))
        rw [s.users.eq_of_clash ha hfound hclash] at hne
        rw [raise_if_eq_ok, Option.any_some] at hraise
        exact hraise (decide_eq_true (hholder.id ▸ hne))
    · next hsame =>
      cases hrest
      rw [not_not.mp hsame, hshows.phone_number]
      exact ⟨Or.inl rfl, own_phone hget⟩

theorem save_user_eq_ok (user : User) (hget : s.users.get user.id = some row)
    (h : save_user env user_id user s = .ok (response, t)) :
    Rewrites user row (UserModel.flush row (assigned env user row) row) s t := by
  obtain ⟨writes, hupdate, hrest⟩ := reads_bind_eq_ok_iff.mp h
  obtain ⟨same, hsame, rfl⟩ := update_eq_ok_iff.mp hupdate
  cases Option.some.inj (hsame.symm.trans hget)
  obtain ⟨_, u, hemit, hread⟩ := Transaction.bind_eq_ok_iff.mp hrest
  have hu := (commit_update_eq_some_iff (Table.mem_of_get hget)).mp (emit_eq_ok_iff.mp hemit)
  obtain ⟨updated, -, hreturn⟩ := reads_bind_eq_ok_iff.mp hread
  obtain ⟨-, rfl⟩ := pure_eq_ok_iff.mp hreturn
  exact hu.2

/-- The database does not refuse an account whose number no other one has. -/
theorem raises_only_save_user (user : User) (hget : s.users.get user.id = some row)
    (hphone : ∀ a ∈ s.users.rows, a.id ≠ user.id → a.phone_number ≠ user.phone_number) :
    raises_only (save_user env user_id user s) Error.Explicit := by
  have hrow : row ∈ s.users.rows := Table.mem_of_get hget
  have hid : row.id = user.id := Table.key_of_get hget
  refine Transaction.raises_only_reads_bind (raises_only_update fun _ _ => explicit_domain_error) fun writes hupdate => ?_
  obtain ⟨same, hsame, rfl⟩ := update_eq_ok_iff.mp hupdate
  cases Option.some.inj (hsame.symm.trans hget)
  refine Transaction.raises_only_bind ?_ fun _ t _ => ?_
  · intro e hrefused
    obtain ⟨hnone, -⟩ := emit_eq_error_iff.mp hrefused
    obtain ⟨u, hcommit⟩ := exists_commit_update env hrow (hid ▸ hphone)
    rw [hcommit] at hnone
    cases hnone
  · exact Transaction.raises_only_reads_bind (raises_only_get_by_id (fun _ _ => explicit_domain_error)
      fun _ => explicit_value_error) fun _ _ => Transaction.raises_only_pure

/-- An account that is edited: it is found, shown as `user`, and saved with the columns of `edited`. -/
def Edits (user_id : UUID) (user edited : User) (s t : AccountStore) : Prop :=
  ∃ row new, s.users.get user_id = some row ∧ row.Shows user ∧ Rewrites edited row new s t

theorem update_user_eq_ok (h : update_user d env credentials user_id body s = .ok (response, t)) :
    ∃ requester user_role user phone,
      current_user d env.now credentials = .ok requester ∧
      current_user_role d env.now credentials = .ok user_role ∧
      may_update user_id body requester user_role = .ok () ∧
      body.new_phone user_id user s = .ok phone ∧
      Edits user_id user (body.apply_to user phone) s t := by
  obtain ⟨requester, hrequester, h⟩ := lift_bind_eq_ok_iff.mp h
  obtain ⟨user_role, hrole, h⟩ := lift_bind_eq_ok_iff.mp h
  obtain ⟨_, hmay, h⟩ := lift_bind_eq_ok_iff.mp h
  obtain ⟨user, huser, h⟩ := reads_bind_eq_ok_iff.mp h
  obtain ⟨phone, hphone, hsave⟩ := reads_bind_eq_ok_iff.mp h
  obtain ⟨row, hget, hshows⟩ := get_user_or_404_eq_ok_iff.mp huser
  have hid : user.id = user_id := hshows.id.trans (Table.key_of_get hget)
  have hrewrites := save_user_eq_ok (body.apply_to user phone) (hid.symm ▸ hget) hsave
  exact ⟨requester, user_role, user, phone, hrequester, hrole, hmay, hphone, row, _, hget, hshows, hrewrites⟩

theorem update_roles_eq_ok (h : update_roles d env credentials user_id role s = .ok (response, t)) :
    require_permission d env.now .USER_MANAGE_ROLES credentials s = .ok () ∧
      ∃ user, Edits user_id user { user with role := role } s t := by
  obtain ⟨_, hrequire, h⟩ := reads_bind_eq_ok_iff.mp h
  obtain ⟨user, huser, hsave⟩ := reads_bind_eq_ok_iff.mp h
  obtain ⟨row, hget, hshows⟩ := get_user_or_404_eq_ok_iff.mp huser
  have hid : user.id = user_id := hshows.id.trans (Table.key_of_get hget)
  have hrewrites := save_user_eq_ok { user with role := role } (hid.symm ▸ hget) hsave
  exact ⟨hrequire, user, row, _, hget, hshows, hrewrites⟩

theorem raises_only_get_user_or_404 : raises_only (get_user_or_404 user_id s) Error.Explicit :=
  raises_only_mapError fun e he =>
    (raises_only_get_by_id (fun _ _ => explicit_domain_error) (fun _ => explicit_value_error) e he).as_http _ _

theorem raises_only_new_phone : raises_only (body.new_phone user_id user s) Error.Explicit := by
  unfold UpdateUserBody.new_phone
  split
  · exact raises_only_ok
  · refine raises_only_bind (raises_only_mapError fun e he => ?_) fun vo _ => ?_
    · obtain ⟨message, rfl⟩ := CameroonPhoneNumber.init_eq_error he
      exact explicit_http
    · split
      · exact raises_only_bind (raises_only_get_by_phone fun _ => explicit_value_error) fun _ _ =>
          raises_only_bind (raises_only_raise_if fun _ => explicit_http) fun _ _ => raises_only_pure
      · exact raises_only_pure

/-- The explicit checks answer before the constraints of the database do. -/
theorem raises_only_update_user : raises_only (update_user d env credentials user_id body s) Error.Explicit := by
  refine Transaction.raises_only_lift_bind raises_only_current_user fun requester _ => ?_
  refine Transaction.raises_only_lift_bind raises_only_current_user_role fun user_role _ => ?_
  refine Transaction.raises_only_lift_bind ?_ fun _ _ => ?_
  · exact raises_only_bind (raises_only_raise_if fun _ => explicit_http) fun _ _ =>
      raises_only_raise_if fun _ => explicit_http
  refine Transaction.raises_only_reads_bind raises_only_get_user_or_404 fun user huser => ?_
  refine Transaction.raises_only_reads_bind raises_only_new_phone fun phone hphone => ?_
  obtain ⟨row, hget, hshows⟩ := get_user_or_404_eq_ok_iff.mp huser
  have hid : user.id = user_id := hshows.id.trans (Table.key_of_get hget)
  exact raises_only_save_user (body.apply_to user phone) (hid.symm ▸ hget)
    (hid.symm ▸ (new_phone_eq_ok hget hshows hphone).2)

theorem raises_only_update_roles : raises_only (update_roles d env credentials user_id role s) Error.Explicit := by
  refine Transaction.raises_only_reads_bind raises_only_require_permission fun _ _ => ?_
  refine Transaction.raises_only_reads_bind raises_only_get_user_or_404 fun user huser => ?_
  obtain ⟨row, hget, hshows⟩ := get_user_or_404_eq_ok_iff.mp huser
  have hid : user.id = user_id := hshows.id.trans (Table.key_of_get hget)
  exact raises_only_save_user { user with role := role } (hid.symm ▸ hget)
    (hid.symm ▸ hshows.phone_number.symm ▸ own_phone hget)

end sigis.accounts
