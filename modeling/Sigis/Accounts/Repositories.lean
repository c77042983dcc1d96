import Sigis.Accounts.Deployment
import Sigis.Accounts.Store
import Sigis.Python.Sha256

open guarded relational

namespace sigis.accounts

/-! `infrastructure/persistence/sqlalchemy/auth_repos.py`. -/

/-- `_model_to_user`. -/
def model_to_user (m : UserModel) : Except Error User := do
  let role ← get_or_raise (Role.of_value m.role) (.ValueError ("'" ++ m.role ++ "' is not a valid Role"))
  return {
    id := m.id
    email := m.email
    full_name := m.full_name
    phone_number := m.phone_number
    hashed_password := m.hashed_password
    role := role
    is_active := m.is_active
    created_at := m.created_at
    updated_at := m.updated_at }

namespace UserAuthRepositoryImpl

/-- Raises when there is no such account, or its role is not known. -/
def get_by_id (user_id : UUID) (s : AccountStore) : Except Error User := do
  let row ← get_or_raise (s.users.get user_id) (NotFound ("Utilisateur " ++ user_id.str ++ " introuvable."))
  model_to_user row

/-- The row `get_by_email` selects. -/
def row_by_email (d : Deployment) (email : String) (s : AccountStore) : Option UserModel :=
  s.users.rows.find? fun row => row.email = d.lower email

/-- The account with this e-mail, in small letters. -/
def get_by_email (d : Deployment) (email : String) (s : AccountStore) : Except Error (Option User) :=
  (row_by_email d email s).mapM model_to_user

/-- The account with this number. -/
def get_by_phone (phone_e164 : String) (s : AccountStore) : Except Error (Option User) :=
  (s.users.rows.find? fun row => row.phone_number = phone_e164).mapM model_to_user

/-- The row `create` adds. -/
def new_row (d : Deployment) (user : User) : UserModel where
  id := user.id
  email := d.lower user.email
  full_name := user.full_name
  phone_number := user.phone_number
  hashed_password := user.hashed_password
  role := user.role.value
  is_active := user.is_active
  created_at := user.created_at
  updated_at := user.updated_at

/-- `session.add` of the new row. -/
def create (d : Deployment) (user : User) : List Write := [.add_user (new_row d user)]

/-- The row `update` leaves of the one it selects. -/
def assigned (env : Env) (user : User) (row : UserModel) : UserModel :=
  { row with
    full_name := user.full_name
    phone_number := user.phone_number
    hashed_password := user.hashed_password
    is_active := user.is_active
    role := user.role.value
    updated_at := some (datetime.utc env.written_at) }

/-- The statement of the row that was loaded; a missing account raises. -/
def update (env : Env) (user : User) (s : AccountStore) : Except Error (List Write) := do
  let row ← get_or_raise (s.users.get user.id) (NotFound ("Utilisateur " ++ user.id.str ++ " introuvable."))
  return [.update_user row (assigned env user row)]

end UserAuthRepositoryImpl

/-- `_hash_token`. -/
def hash_token (raw_token : String) : String := sha256.hexdigest raw_token

namespace PasswordResetTokenRepositoryImpl

/-- `session.add` of the hash of the token. -/
def create (env : Env) (user_id : UUID) (raw_token : String) (expires_at : datetime) : List Write :=
  [.add_reset_token {
    user_id := user_id
    token_hash := hash_token raw_token
    expires_at := expires_at
    used := false
    created_at := datetime.utc env.written_at }]

/-- The row with the hash of a token that is neither used nor expired; the bound value of a
`DateTime` column is compared without its offset. -/
def get_valid (env : Env) (raw_token : String) (s : AccountStore) : Option PasswordResetTokenModel :=
  s.password_reset_tokens.rows.find? fun row =>
    row.token_hash = hash_token raw_token ∧ row.used = false ∧ ¬ row.expires_at ≤ (datetime.utc env.read_at).stored

/-- The statement that marks the token with this hash. -/
def mark_used (raw_token : String) (s : AccountStore) : List Write :=
  match s.password_reset_tokens.rows.find? fun row => row.token_hash = hash_token raw_token with
  | none => []
  | some row => [.update_reset_token row { row with used := true }]

end PasswordResetTokenRepositoryImpl

open accounts.UserAuthRepositoryImpl PasswordResetTokenRepositoryImpl

variable {d : Deployment} {env : Env} {s t : AccountStore} {row : UserModel} {user : User}

/-- The columns of the row, and its role read from its value. -/
structure UserModel.Shows (row : UserModel) (user : User) : Prop where
  id : user.id = row.id
  email : user.email = row.email
  full_name : user.full_name = row.full_name
  phone_number : user.phone_number = row.phone_number
  hashed_password : user.hashed_password = row.hashed_password
  role : user.role.value = row.role
  is_active : user.is_active = row.is_active
  created_at : user.created_at = row.created_at
  updated_at : user.updated_at = row.updated_at

/-- A new password leaves the number. -/
theorem UserModel.Shows.same_phone {user : User} (h : row.Shows user) (hashed : String) :
    (user.with_password hashed).phone_number = row.phone_number := h.phone_number

/-- A row with the value of a role is shown. -/
theorem UserModel.exists_shows (h : ∃ role : Role, role.value = row.role) : ∃ user, row.Shows user := by
  obtain ⟨role, hrole⟩ := h
  exact ⟨⟨row.id, row.email, row.full_name, row.phone_number, row.hashed_password, role, row.is_active,
    row.created_at, row.updated_at⟩, rfl, rfl, rfl, rfl, rfl, hrole, rfl, rfl, rfl⟩

/-- A row is mapped to the account it shows. -/
theorem model_to_user_eq_ok_iff : model_to_user row = .ok user ↔ row.Shows user := by
  simp only [model_to_user, bind_eq_ok_iff, get_or_raise_eq_ok, pure_eq_ok, Except.ok.injEq]
  constructor
  · rintro ⟨role, hrole, rfl⟩
    exact ⟨rfl, rfl, rfl, rfl, rfl, Role.value_of_value hrole, rfl, rfl, rfl⟩
  · intro h
    refine ⟨user.role, h.role ▸ Role.of_value_value user.role, ?_⟩
    cases user
    simp [← h.id, ← h.email, ← h.full_name, ← h.phone_number, ← h.hashed_password, ← h.is_active,
      ← h.created_at, ← h.updated_at]

/-- What is read is what the stored row shows. -/
theorem get_by_id_eq_ok_iff {user_id : UUID} :
    get_by_id user_id s = .ok user ↔ ∃ row, s.users.get user_id = some row ∧ row.Shows user := by
  simp only [get_by_id, bind_eq_ok_iff, get_or_raise_eq_ok, model_to_user_eq_ok_iff]

/-- An optional row is mapped when it is there. -/
theorem mapM_model_to_user_eq_ok_iff {found : Option UserModel} {answer : Option User} :
    found.mapM model_to_user = .ok answer ↔
      (found = none ∧ answer = none) ∨
        ∃ row user, found = some row ∧ row.Shows user ∧ answer = some user := by
  cases found with
  | none =>
    change Except.ok none = .ok answer ↔ _
    simp [eq_comm]
  | some row =>
    change (model_to_user row >>= fun user => pure (some user)) = .ok answer ↔ _
    simp only [bind_eq_ok_iff, model_to_user_eq_ok_iff, pure_eq_ok, Except.ok.injEq]
    simp [eq_comm]

/-- No account has the address. -/
theorem get_by_email_eq_ok_none_iff {email : String} :
    get_by_email d email s = .ok none ↔ ∀ row ∈ s.users.rows, row.email ≠ d.lower email := by
  simp [get_by_email, row_by_email, mapM_model_to_user_eq_ok_iff, List.find?_eq_none]

/-- No account has the number. -/
theorem get_by_phone_eq_ok_none_iff {phone_e164 : String} :
    get_by_phone phone_e164 s = .ok none ↔ ∀ row ∈ s.users.rows, row.phone_number ≠ phone_e164 := by
  simp [get_by_phone, mapM_model_to_user_eq_ok_iff, List.find?_eq_none]

/-- The account with the number. -/
theorem get_by_phone_eq_ok_some {phone_e164 : String} (h : get_by_phone phone_e164 s = .ok (some user)) :
    ∃ row ∈ s.users.rows, row.Shows user ∧ row.phone_number = phone_e164 := by
  rcases mapM_model_to_user_eq_ok_iff.mp h with ⟨-, hnone⟩ | ⟨row, shown, hfind, hshows, hsome⟩
  · cases hnone
  · cases hsome
    exact ⟨row, List.mem_of_find?_eq_some hfind, hshows, by simpa using List.find?_some hfind⟩

/-- The row found has the e-mail in small letters. -/
theorem row_by_email_eq_some_iff {email : String} :
    row_by_email d email s = some row ↔ row ∈ s.users.rows ∧ row.email = d.lower email := by
  constructor
  · intro h
    exact ⟨List.mem_of_find?_eq_some h, by simpa using List.find?_some h⟩
  · rintro ⟨hmem, hemail⟩
    cases hfind : row_by_email d email s with
    | none => exact absurd hemail (by simpa using List.find?_eq_none.mp hfind row hmem)
    | some found =>
      have hfound : found.email = d.lower email := by simpa using List.find?_some hfind
      have hclash : clash found row := clash_user_iff.mpr (Or.inr (Or.inl (hfound.trans hemail.symm)))
      rw [s.users.eq_of_clash (List.mem_of_find?_eq_some hfind) hmem hclash]

/-- The account with the address. -/
theorem get_by_email_eq_ok_some_iff {email : String} :
    get_by_email d email s = .ok (some user) ↔
      ∃ row ∈ s.users.rows, row.email = d.lower email ∧ row.Shows user := by
  simp only [get_by_email, mapM_model_to_user_eq_ok_iff, row_by_email_eq_some_iff]
  constructor
  · rintro (⟨-, h⟩ | ⟨row, _, ⟨hmem, hemail⟩, hshows, h⟩)
    · cases h
    · cases h
      exact ⟨row, hmem, hemail, hshows⟩
  · rintro ⟨row, hmem, hemail, hshows⟩
    exact Or.inr ⟨row, user, ⟨hmem, hemail⟩, hshows, rfl⟩

/-- The token is stored, unused, and read strictly before it expires. -/
theorem get_valid_eq_some_iff {raw_token : String} {token : PasswordResetTokenModel} :
    get_valid env raw_token s = some token ↔ token ∈ s.password_reset_tokens.rows ∧
      token.token_hash = hash_token raw_token ∧ token.used = false ∧ env.read_at < token.expires_at.instant := by
  have hlater (row : PasswordResetTokenModel) :
      ¬ row.expires_at ≤ (datetime.utc env.read_at).stored ↔ env.read_at < row.expires_at.instant := by
    rw [datetime.le_def, datetime.instant_stored, not_le]
    rfl
  constructor
  · intro h
    have hsome := List.find?_some h
    simp only [decide_eq_true_eq, hlater] at hsome
    exact ⟨List.mem_of_find?_eq_some h, hsome⟩
  · rintro ⟨hmem, hhash, hused, hexpires⟩
    cases hfind : get_valid env raw_token s with
    | none =>
      have hnone := List.find?_eq_none.mp hfind token hmem
      simp only [decide_eq_true_eq, hlater] at hnone
      exact absurd ⟨hhash, hused, hexpires⟩ hnone
    | some found =>
      have hsome := List.find?_some hfind
      simp only [decide_eq_true_eq] at hsome
      rw [s.password_reset_tokens.eq_of_key (List.mem_of_find?_eq_some hfind) hmem (hsome.1.trans hhash.symm)]

/-- A stored token is marked in its own row. -/
theorem mark_used_of_mem {raw_token : String} {token : PasswordResetTokenModel}
    (hmem : token ∈ s.password_reset_tokens.rows) (hhash : token.token_hash = hash_token raw_token) :
    mark_used raw_token s = [.update_reset_token token { token with used := true }] := by
  have hfind : (s.password_reset_tokens.rows.find? fun row => row.token_hash = hash_token raw_token) =
      some token := by
    rw [← hhash]
    exact Table.get_of_mem hmem
  rw [mark_used, hfind]

/-- An account is updated when its row is there. -/
theorem update_eq_ok_iff {writes : List Write} :
    update env user s = .ok writes ↔
      ∃ row, s.users.get user.id = some row ∧ [.update_user row (assigned env user row)] = writes := by
  simp only [update, bind_eq_ok_iff, get_or_raise_eq_ok, pure_eq_ok, Except.ok.injEq]

section raises_only

variable {p : Error → Prop}

/-- The mapper raises on an unknown role only. -/
theorem raises_only_model_to_user (hvalue : ∀ message, p (.ValueError message)) :
    raises_only (model_to_user row) p :=
  raises_only_bind (raises_only_get_or_raise fun _ => hvalue _) fun _ _ => raises_only_pure

/-- A read by identifier raises on a missing account and on an unknown role. -/
theorem raises_only_get_by_id {user_id : UUID} (hdomain : ∀ cls message, p (.domain_error cls message))
    (hvalue : ∀ message, p (.ValueError message)) : raises_only (get_by_id user_id s) p :=
  raises_only_bind (raises_only_get_or_raise fun _ => hdomain _ _) fun _ _ => raises_only_model_to_user hvalue

theorem raises_only_mapM_model_to_user {found : Option UserModel} (hvalue : ∀ message, p (.ValueError message)) :
    raises_only (found.mapM model_to_user) p := by
  cases found with
  | none => exact raises_only_pure
  | some row => exact raises_only_bind (raises_only_model_to_user hvalue) fun _ _ => raises_only_pure

/-- A read by e-mail raises on an unknown role only. -/
theorem raises_only_get_by_email {email : String} (hvalue : ∀ message, p (.ValueError message)) :
    raises_only (get_by_email d email s) p :=
  raises_only_mapM_model_to_user hvalue

/-- And so does one by number. -/
theorem raises_only_get_by_phone {phone_e164 : String} (hvalue : ∀ message, p (.ValueError message)) :
    raises_only (get_by_phone phone_e164 s) p :=
  raises_only_mapM_model_to_user hvalue

/-- An update raises on a missing account only. -/
theorem raises_only_update (hdomain : ∀ cls message, p (.domain_error cls message)) :
    raises_only (update env user s) p :=
  raises_only_bind (raises_only_get_or_raise fun _ => hdomain _ _) fun _ _ => raises_only_pure

end raises_only

/-- The row `new` is `old` with the columns `update` takes from `user`. -/
structure UserModel.Updated (user : User) (old new : UserModel) : Prop where
  id : new.id = old.id
  email : new.email = old.email
  created_at : new.created_at = old.created_at
  full_name : new.full_name = user.full_name
  phone_number : new.phone_number = user.phone_number
  hashed_password : new.hashed_password = user.hashed_password
  is_active : new.is_active = user.is_active
  role : new.role = user.role.value

/-- What `update` writes into the row it selects. -/
theorem updated_flush : UserModel.Updated user row (UserModel.flush row (assigned env user row) row) :=
  ⟨rfl, rfl, rfl, column_loaded, column_loaded, column_loaded, column_loaded, column_loaded⟩

end sigis.accounts
