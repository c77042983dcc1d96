import Sigis.Accounts.Repositories
import Sigis.Domain.PhoneNumber

open guarded relational transactional

namespace sigis.accounts

open Transaction (reads reads_eq_ok_iff lift_eq_ok_iff pure_eq_ok_iff)
open accounts.UserAuthRepositoryImpl PasswordResetTokenRepositoryImpl

/-! The use cases of `application/use_cases/auth`. Each enters its unit of work, and leaves it
with a commit, before it sends its e-mail. -/

/-- The command of `register_user.py`. -/
structure RegisterUserCommand where
  email : String
  full_name : String
  phone_number : String
  password : String
  role : Role

namespace RegisterUser

/-- The account a registration creates. -/
def new_user (d : Deployment) (env : Env) (cmd : RegisterUserCommand) (phone_vo : CameroonPhoneNumber) : User where
  id := env.user_id
  email := d.lower cmd.email
  full_name := cmd.full_name
  phone_number := phone_vo.e164
  hashed_password := d.pwd_context.hash env.salt cmd.password
  role := cmd.role
  is_active := true
  created_at := some (datetime.utc env.now)

/-- The `async with self._uow` block. -/
def transaction (d : Deployment) (env : Env) (cmd : RegisterUserCommand) (phone_vo : CameroonPhoneNumber) :
    Session User := do
  let existing ← reads (get_by_email d cmd.email)
  raise_if (existing.isSome = true)
    (EmailAlreadyExists ("L'adresse e-mail « " ++ cmd.email ++ " » est déjà utilisée."))
  let existing_phone ← reads (get_by_phone phone_vo.e164)
  raise_if (existing_phone.isSome = true)
    (PhoneAlreadyExists ("Le numéro « " ++ phone_vo.e164 ++ " » est déjà associé à un compte."))
  let user := new_user d env cmd phone_vo
  emit (UserAuthRepositoryImpl.create d user)
  return user

/-- The number is parsed before the unit of work is entered, and the e-mail sent after it is left. -/
def execute (d : Deployment) (env : Env) (cmd : RegisterUserCommand) (s : AccountStore) :
    Except Error UUID × AccountStore :=
  match CameroonPhoneNumber.init cmd.phone_number with
  | .error e => (.error e, s)
  | .ok phone_vo =>
    after_commit (atomically (transaction d env cmd phone_vo) s) fun user => do
      EmailService.send d env (.welcome user.email user.full_name user.role.value)
      return user.id

end RegisterUser

/-- The command of `login.py`. -/
structure LoginCommand where
  email : String
  password : String

/-- What a login answers. -/
structure LoginResult where
  access_token : String
  token_type : String := "bearer"
  user_id : UUID
  role : String

namespace LoginUser

/-- The claims of an access token. -/
def payload (d : Deployment) (env : Env) (user : User) : Payload :=
  [("sub", .value (.str user.id.str)), ("email", .value (.str user.email)),
   ("role", .value (.str user.role.value)),
   -- PyJWT encodes a `datetime` as whole seconds
   ("exp", .value (.int ((env.now + minutes d.settings.access_token_expire_minutes) / 1000000)))]

/-- The account is read in the unit of work, and its password checked outside. -/
def execute (d : Deployment) (env : Env) (cmd : LoginCommand) (s : AccountStore) :
    Except Error LoginResult × AccountStore :=
  after_commit (atomically (reads (get_by_email d cmd.email)) s) fun found =>
    match found with
    | none => .error (InvalidCredentials "Identifiants incorrects.")
    | some user => do
      raise_if (d.pwd_context.verify cmd.password user.hashed_password = false)
        (InvalidCredentials "Identifiants incorrects.")
      raise_if (user.is_active = false) (AccountInactive "Ce compte est désactivé.")
      return {
        access_token := d.jwt.encode (payload d env user) d.settings.secret_key d.settings.jwt_algorithm
        user_id := user.id
        role := user.role.value }

end LoginUser

/-- The command of `change_password.py`. -/
structure ChangePasswordCommand where
  user_id : UUID
  current_password : String
  new_password : String

namespace ChangePassword

/-- The `async with self._uow` block. -/
def transaction (d : Deployment) (env : Env) (cmd : ChangePasswordCommand) : Session User := do
  let user ← reads (get_by_id cmd.user_id)
  raise_if (d.pwd_context.verify cmd.current_password user.hashed_password = false)
    (InvalidCredentials "Mot de passe actuel incorrect.")
  let user := user.with_password (d.pwd_context.hash env.salt cmd.new_password)
  let writes ← reads (update env user)
  emit writes
  return user

/-- The e-mail is sent after the commit. -/
def execute (d : Deployment) (env : Env) (cmd : ChangePasswordCommand) (s : AccountStore) :
    Except Error Unit × AccountStore :=
  after_commit (atomically (transaction d env cmd) s) fun user =>
    EmailService.send d env (.password_changed user.email user.full_name)

end ChangePassword

/-- The command of `request_password_reset.py`. -/
structure RequestPasswordResetCommand where
  email : String

namespace RequestPasswordReset

/-- When a link issued now expires. -/
def expires_at (d : Deployment) (env : Env) : datetime :=
  datetime.utc (env.now + minutes d.settings.reset_token_expire_minutes)

/-- An unknown address returns from inside the block. -/
def transaction (d : Deployment) (env : Env) (cmd : RequestPasswordResetCommand) : Session (Option User) := do
  match ← reads (get_by_email d cmd.email) with
  | none => return none
  | some user =>
    emit (PasswordResetTokenRepositoryImpl.create env user.id env.raw_token (expires_at d env))
    return some user

/-- The link is sent after the commit. -/
def execute (d : Deployment) (env : Env) (cmd : RequestPasswordResetCommand) (s : AccountStore) :
    Except Error Unit × AccountStore :=
  after_commit (atomically (transaction d env cmd) s) fun found =>
    match found with
    | none => .ok ()
    | some user => EmailService.send d env (.password_reset user.email user.full_name env.raw_token)

end RequestPasswordReset

/-- The command of `reset_password.py`. -/
structure ResetPasswordCommand where
  token : String
  new_password : String

namespace ResetPassword

/-- What the block reads, and the statements it leaves pending until the commit. -/
def prepare (d : Deployment) (env : Env) (cmd : ResetPasswordCommand) (s : AccountStore) :
    Except Error (User × List Write) := do
  let token_record ← get_or_raise (get_valid env cmd.token s)
    (TokenExpiredOrInvalid "Le lien de réinitialisation est invalide ou a expiré.")
  let user ← get_by_id token_record.user_id s
  let user := user.with_password (d.pwd_context.hash env.salt cmd.new_password)
  let writes ← update env user s
  return (user, writes ++ mark_used cmd.token s)

/-- The `async with self._uow` block. -/
def transaction (d : Deployment) (env : Env) (cmd : ResetPasswordCommand) : Session User := do
  let (user, writes) ← reads (prepare d env cmd)
  emit writes
  return user

/-- The e-mail is sent after the commit. -/
def execute (d : Deployment) (env : Env) (cmd : ResetPasswordCommand) (s : AccountStore) :
    Except Error Unit × AccountStore :=
  after_commit (atomically (transaction d env cmd) s) fun user =>
    EmailService.send d env (.password_changed user.email user.full_name)

end ResetPassword

variable {d : Deployment} {env : Env} {s t : AccountStore} {user : User}

/-- The columns of the row a session adds for a new account. -/
structure AddsUser (d : Deployment) (user : User) (s t : AccountStore) : Prop where
  new_email : ∀ row ∈ s.users.rows, row.email ≠ d.lower user.email
  new_phone : ∀ row ∈ s.users.rows, row.phone_number ≠ user.phone_number
  new_id : ∀ row ∈ s.users.rows, row.id ≠ user.id
  users : t.users.rows = s.users.rows ++ [(new_row d user).stored]
  tokens : t.password_reset_tokens = s.password_reset_tokens
  permissions : t.role_permissions = s.role_permissions

/-- An account whose columns are new is created. -/
theorem exists_commit_create (d : Deployment) (user : User) (hid : ∀ row ∈ s.users.rows, row.id ≠ user.id)
    (hemail : ∀ row ∈ s.users.rows, row.email ≠ d.lower user.email)
    (hphone : ∀ row ∈ s.users.rows, row.phone_number ≠ user.phone_number) :
    ∃ t, s.commit (UserAuthRepositoryImpl.create d user) = some t := by
  obtain ⟨users, husers⟩ := Table.exists_insert (t := s.users) (r := (new_row d user).stored) (by
    intro row hrow hclash
    rcases clash_user_iff.mp hclash with hsame | hsame | hsame
    · exact hid row hrow hsame
    · exact hemail row hrow hsame
    · exact hphone row hrow hsame)
  refine ⟨{ s with users := users }, ?_⟩
  rw [UserAuthRepositoryImpl.create, AccountStore.commit_singleton, Write.apply]
  exact Option.map_eq_some_iff.mpr ⟨users, husers, rfl⟩

/-- A row that clashes with no stored one is added, and nothing else changes. -/
theorem commit_create_eq_some_iff :
    s.commit (UserAuthRepositoryImpl.create d user) = some t ↔ AddsUser d user s t := by
  rw [UserAuthRepositoryImpl.create, AccountStore.commit_singleton, apply_add_user]
  simp only [Table.insert_eq_some_iff, clash_user_iff, not_or]
  constructor
  · rintro ⟨users, ⟨hfree, hrows⟩, rfl⟩
    exact ⟨fun row hrow => (hfree row hrow).2.1, fun row hrow => (hfree row hrow).2.2,
      fun row hrow => (hfree row hrow).1, hrows, rfl, rfl⟩
  · intro h
    refine ⟨t.users, ⟨fun row hrow => ⟨h.new_id row hrow, h.new_email row hrow, h.new_phone row hrow⟩,
      h.users⟩, ?_⟩
    rw [← h.tokens, ← h.permissions]

/-- The row of an account is rewritten from `user`, and nothing else changes. -/
structure Rewrites (user : User) (old new : UserModel) (s t : AccountStore) : Prop where
  users : Table.Replaces s.users old new t.users
  updated : UserModel.Updated user old new
  tokens : t.password_reset_tokens = s.password_reset_tokens
  permissions : t.role_permissions = s.role_permissions

/-- The row `update` leaves is apart from those of the other accounts when its number is. -/
theorem apart_of_updated {row new : UserModel} (hrow : row ∈ s.users.rows) (hupdated : UserModel.Updated user row new)
    (hphone : ∀ a ∈ s.users.rows, a.id ≠ row.id → a.phone_number ≠ user.phone_number) :
    ∀ a ∈ s.users.rows, a.id ≠ row.id → ¬ clash a new := by
  intro a ha hne hclash
  rcases clash_user_iff.mp hclash with hid | hemail | hsame
  · exact hne (hid.trans hupdated.id)
  · exact hne (congrArg UserModel.id (s.users.eq_of_clash ha hrow
      (clash_user_iff.mpr (Or.inr (Or.inl (hemail.trans hupdated.email))))))
  · exact hphone a ha hne (hsame.trans hupdated.phone_number)

/-- An account is updated when no other one has its number. -/
theorem exists_commit_update (env : Env) {row : UserModel} (hrow : row ∈ s.users.rows)
    (hphone : ∀ a ∈ s.users.rows, a.id ≠ row.id → a.phone_number ≠ user.phone_number) :
    ∃ t, s.commit [.update_user row (assigned env user row)] = some t := by
  obtain ⟨users, husers⟩ := Table.exists_update_of_apart (f := UserModel.flush row (assigned env user row))
    (Table.get_of_mem hrow) (apart_of_updated hrow updated_flush hphone)
  refine ⟨{ s with users := users }, ?_⟩
  rw [AccountStore.commit_singleton, Write.apply]
  exact Option.map_eq_some_iff.mpr ⟨users, husers, rfl⟩

/-- The statements of `update` rewrite the row of the account, unless the row then has the
number of another account. -/
theorem commit_update_eq_some_iff {row : UserModel} (hrow : row ∈ s.users.rows) :
    s.commit [.update_user row (assigned env user row)] = some t ↔
      (∀ a ∈ s.users.rows, a.id ≠ row.id → a.phone_number ≠ user.phone_number) ∧
        Rewrites user row (UserModel.flush row (assigned env user row) row) s t := by
  have hupdated : UserModel.Updated user row (UserModel.flush row (assigned env user row) row) := updated_flush
  rw [AccountStore.commit_singleton, apply_update_user hrow]
  constructor
  · rintro ⟨hfree, users, hreplaces, rfl⟩
    refine ⟨?_, hreplaces, hupdated, rfl, rfl⟩
    intro a ha hne hphone
    exact hfree a ha hne (clash_user_iff.mpr (Or.inr (Or.inr (hphone.trans hupdated.phone_number.symm))))
  · rintro ⟨hfree, h⟩
    refine ⟨apart_of_updated hrow hupdated hfree, t.users, h.users, ?_⟩
    rw [← h.tokens, ← h.permissions]

/-- A row that keeps its number is rewritten in any case. -/
theorem commit_update_of_same_phone {row : UserModel} (hrow : row ∈ s.users.rows)
    (hphone : user.phone_number = row.phone_number) :
    s.commit [.update_user row (assigned env user row)] = some t ↔
      Rewrites user row (UserModel.flush row (assigned env user row) row) s t := by
  rw [commit_update_eq_some_iff hrow, and_iff_right]
  intro a ha hne hsame
  exact hne (congrArg UserModel.id (s.users.eq_of_clash ha hrow
    (clash_user_iff.mpr (Or.inr (Or.inr (hsame.trans hphone))))))

/-- The row of a new reset token is added, and nothing else changes. -/
structure IssuesToken (row : PasswordResetTokenModel) (s t : AccountStore) : Prop where
  new : ∀ token ∈ s.password_reset_tokens.rows, token.token_hash ≠ row.token_hash
  tokens : t.password_reset_tokens.rows = s.password_reset_tokens.rows ++ [row]
  users : t.users = s.users
  permissions : t.role_permissions = s.role_permissions

/-- The row a request for a reset adds. -/
def RequestPasswordReset.token_row (d : Deployment) (env : Env) (user_id : UUID) : PasswordResetTokenModel where
  user_id := user_id
  token_hash := hash_token env.raw_token
  expires_at := (expires_at d env).stored
  used := false
  created_at := (datetime.utc env.written_at).stored

/-- A token whose hash is new is stored. -/
theorem exists_commit_token (user_id : UUID) (expires_at : datetime)
    (hnew : ∀ token ∈ s.password_reset_tokens.rows, token.token_hash ≠ hash_token env.raw_token) :
    ∃ t, s.commit (PasswordResetTokenRepositoryImpl.create env user_id env.raw_token expires_at) = some t := by
  rw [PasswordResetTokenRepositoryImpl.create, AccountStore.commit_singleton]
  obtain ⟨tokens, htokens⟩ := Table.exists_insert (t := s.password_reset_tokens)
    (r := PasswordResetTokenModel.stored ⟨user_id, hash_token env.raw_token, expires_at, false,
      datetime.utc env.written_at⟩) (fun token htoken hclash => hnew token htoken
        (clash_password_reset_token_iff.mp hclash))
  exact ⟨_, apply_add_reset_token.mpr ⟨tokens, htokens, rfl⟩⟩

/-- A new token is added, and nothing else changes. -/
theorem commit_token_eq_some_iff {user_id : UUID} :
    s.commit (PasswordResetTokenRepositoryImpl.create env user_id env.raw_token
        (RequestPasswordReset.expires_at d env)) = some t ↔
      IssuesToken (RequestPasswordReset.token_row d env user_id) s t := by
  rw [PasswordResetTokenRepositoryImpl.create, AccountStore.commit_singleton, apply_add_reset_token]
  simp only [Table.insert_eq_some_iff, clash_password_reset_token_iff]
  constructor
  · rintro ⟨tokens, ⟨hfree, hrows⟩, rfl⟩
    exact ⟨hfree, hrows, rfl, rfl⟩
  · intro h
    refine ⟨t.password_reset_tokens, ⟨h.new, h.tokens⟩, ?_⟩
    rw [← h.users, ← h.permissions]

/-- The row of an account is rewritten from `user` and the token marked as used, and nothing
else changes. -/
structure ResetsPassword (user : User) (old new : UserModel) (token : PasswordResetTokenModel)
    (s t : AccountStore) : Prop where
  users : Table.Replaces s.users old new t.users
  updated : UserModel.Updated user old new
  tokens : Table.Replaces s.password_reset_tokens token { token with used := true } t.password_reset_tokens
  permissions : t.role_permissions = s.role_permissions

/-- A reset rewrites the row of the account and marks the token. -/
theorem commit_reset_eq_some_iff {row : UserModel} {token : PasswordResetTokenModel}
    (hrow : row ∈ s.users.rows) (hphone : user.phone_number = row.phone_number)
    (htoken : token ∈ s.password_reset_tokens.rows) :
    s.commit [.update_user row (assigned env user row),
        .update_reset_token token { token with used := true }] = some t ↔
      ResetsPassword user row (UserModel.flush row (assigned env user row) row) token s t := by
  have hfirst {u : AccountStore} : (Write.update_user row (assigned env user row)).apply s = some u ↔
      Rewrites user row (UserModel.flush row (assigned env user row) row) s u := by
    rw [← commit_update_of_same_phone hrow hphone, AccountStore.commit_singleton]
  have hflush : PasswordResetTokenModel.flush token { token with used := true } token =
      { token with used := true } := by
    simp only [PasswordResetTokenModel.flush, column_loaded]
  simp only [AccountStore.commit_pair, hfirst]
  constructor
  · rintro ⟨u, hrewrites, hmark⟩
    obtain ⟨tokens, hreplaces, rfl⟩ := (apply_update_reset_token (hrewrites.tokens ▸ htoken)).mp hmark
    rw [hflush, hrewrites.tokens] at hreplaces
    exact ⟨hrewrites.users, hrewrites.updated, hreplaces, hrewrites.permissions⟩
  · intro h
    refine ⟨{ s with users := t.users }, ⟨h.users, h.updated, rfl, rfl⟩, ?_⟩
    refine (apply_update_reset_token (s := { s with users := t.users }) htoken).mpr
      ⟨t.password_reset_tokens, hflush.symm ▸ h.tokens, ?_⟩
    rw [← h.permissions]

/-- A registration takes effect when neither the e-mail nor the number nor the identifier is taken. -/
theorem RegisterUser.transaction_eq_ok_iff {cmd : RegisterUserCommand} {phone_vo : CameroonPhoneNumber} :
    RegisterUser.transaction d env cmd phone_vo s = .ok (user, t) ↔
      (∀ row ∈ s.users.rows, row.email ≠ d.lower cmd.email) ∧
        user = RegisterUser.new_user d env cmd phone_vo ∧ AddsUser d user s t := by
  simp only [RegisterUser.transaction, Transaction.bind_eq_ok_iff, reads_eq_ok_iff, lift_eq_ok_iff,
    raise_if_eq_ok, emit_eq_ok_iff, pure_eq_ok_iff, commit_create_eq_some_iff, Bool.not_eq_true,
    Option.isSome_eq_false_iff, Option.isNone_iff_eq_none]
  constructor
  · rintro ⟨_, _, ⟨hemail, rfl⟩, _, _, ⟨rfl, rfl⟩, _, _, ⟨_, rfl⟩, _, _, ⟨rfl, rfl⟩, _, _, hadds, rfl, rfl⟩
    exact ⟨get_by_email_eq_ok_none_iff.mp hemail, rfl, hadds⟩
  · rintro ⟨hemail, rfl, hadds⟩
    exact ⟨none, s, ⟨get_by_email_eq_ok_none_iff.mpr hemail, rfl⟩, (), s, ⟨rfl, rfl⟩, none, s,
      ⟨get_by_phone_eq_ok_none_iff.mpr hadds.new_phone, rfl⟩, (), s, ⟨rfl, rfl⟩, (), t, hadds, rfl, rfl⟩

/-- A change takes effect when the current password verifies, and rewrites one row. -/
theorem ChangePassword.transaction_eq_ok_iff {cmd : ChangePasswordCommand} :
    ChangePassword.transaction d env cmd s = .ok (user, t) ↔
      ∃ row shown, s.users.get cmd.user_id = some row ∧ row.Shows shown ∧
        d.pwd_context.verify cmd.current_password row.hashed_password = true ∧
        user = shown.with_password (d.pwd_context.hash env.salt cmd.new_password) ∧
        Rewrites user row (UserModel.flush row (assigned env user row) row) s t := by
  simp only [ChangePassword.transaction, Transaction.bind_eq_ok_iff, reads_eq_ok_iff, lift_eq_ok_iff,
    raise_if_eq_ok, emit_eq_ok_iff, pure_eq_ok_iff, get_by_id_eq_ok_iff, update_eq_ok_iff,
    Bool.not_eq_false]
  constructor
  · rintro ⟨shown, _, ⟨⟨row, hget, hshows⟩, rfl⟩, _, _, ⟨hverify, rfl⟩, _, _, ⟨⟨same, hsame, rfl⟩, rfl⟩,
      _, _, hcommit, rfl, rfl⟩
    have hid : shown.id = cmd.user_id := hshows.id.trans (Table.key_of_get hget)
    cases Option.some.inj ((hid ▸ hsame : _ = some same).symm.trans hget)
    exact ⟨row, shown, hget, hshows, hshows.hashed_password ▸ hverify, rfl,
      (commit_update_of_same_phone (Table.mem_of_get hget) (hshows.same_phone _)).mp hcommit⟩
  · rintro ⟨row, shown, hget, hshows, hverify, rfl, hrewrites⟩
    have hid : shown.id = cmd.user_id := hshows.id.trans (Table.key_of_get hget)
    exact ⟨shown, s, ⟨⟨row, hget, hshows⟩, rfl⟩, (), s, ⟨hshows.hashed_password.symm ▸ hverify, rfl⟩, _, s,
      ⟨⟨row, hid.symm ▸ hget, rfl⟩, rfl⟩, (), t,
      (commit_update_of_same_phone (Table.mem_of_get hget) (hshows.same_phone _)).mpr hrewrites, rfl, rfl⟩

/-- A request issues a token for a known address, and changes nothing for another one. -/
theorem RequestPasswordReset.transaction_eq_ok_iff {cmd : RequestPasswordResetCommand} {found : Option User} :
    RequestPasswordReset.transaction d env cmd s = .ok (found, t) ↔
      ((∀ row ∈ s.users.rows, row.email ≠ d.lower cmd.email) ∧ found = none ∧ t = s) ∨
        ∃ row user, row ∈ s.users.rows ∧ row.email = d.lower cmd.email ∧ row.Shows user ∧
          found = some user ∧ IssuesToken (token_row d env user.id) s t := by
  simp only [RequestPasswordReset.transaction, Transaction.bind_eq_ok_iff, reads_eq_ok_iff]
  constructor
  · rintro ⟨answer, _, ⟨hread, rfl⟩, h⟩
    cases answer with
    | none =>
      obtain ⟨rfl, rfl⟩ := pure_eq_ok_iff.mp h
      exact Or.inl ⟨get_by_email_eq_ok_none_iff.mp hread, rfl, rfl⟩
    | some user =>
      obtain ⟨row, hrow, hemail, hshows⟩ := get_by_email_eq_ok_some_iff.mp hread
      simp only [Transaction.bind_eq_ok_iff, emit_eq_ok_iff, pure_eq_ok_iff, commit_token_eq_some_iff] at h
      obtain ⟨_, _, hissues, rfl, rfl⟩ := h
      exact Or.inr ⟨row, user, hrow, hemail, hshows, rfl, hissues⟩
  · rintro (⟨hnone, rfl, rfl⟩ | ⟨row, user, hrow, hemail, hshows, rfl, hissues⟩)
    · exact ⟨none, t, ⟨get_by_email_eq_ok_none_iff.mpr hnone, rfl⟩, pure_eq_ok_iff.mpr ⟨rfl, rfl⟩⟩
    · refine ⟨some user, s, ⟨get_by_email_eq_ok_some_iff.mpr ⟨row, hrow, hemail, hshows⟩, rfl⟩, ?_⟩
      exact Transaction.bind_eq_ok_iff.mpr ⟨(), t,
        emit_eq_ok_iff.mpr (commit_token_eq_some_iff.mpr hissues), pure_eq_ok_iff.mpr ⟨rfl, rfl⟩⟩

/-- What a reset has read before it writes. -/
theorem ResetPassword.prepare_eq_ok_iff {cmd : ResetPasswordCommand} {writes : List Write} :
    ResetPassword.prepare d env cmd s = .ok (user, writes) ↔
      ∃ token row shown, get_valid env cmd.token s = some token ∧ s.users.get token.user_id = some row ∧
        row.Shows shown ∧
        user = shown.with_password (d.pwd_context.hash env.salt cmd.new_password) ∧
        writes = [.update_user row (assigned env user row),
          .update_reset_token token { token with used := true }] := by
  simp only [ResetPassword.prepare, guarded.bind_eq_ok_iff, get_or_raise_eq_ok, get_by_id_eq_ok_iff, update_eq_ok_iff,
    pure_eq_ok, Except.ok.injEq, Prod.mk.injEq]
  constructor
  · rintro ⟨token, htoken, shown, ⟨row, hget, hshows⟩, _, ⟨same, hsame, rfl⟩, rfl, rfl⟩
    have hid : shown.id = token.user_id := hshows.id.trans (Table.key_of_get hget)
    cases Option.some.inj ((hid ▸ hsame : _ = some same).symm.trans hget)
    obtain ⟨hmem, hhash, -, -⟩ := get_valid_eq_some_iff.mp htoken
    exact ⟨token, row, shown, htoken, hget, hshows, rfl, by rw [mark_used_of_mem hmem hhash]; rfl⟩
  · rintro ⟨token, row, shown, htoken, hget, hshows, rfl, rfl⟩
    have hid : shown.id = token.user_id := hshows.id.trans (Table.key_of_get hget)
    obtain ⟨hmem, hhash, -, -⟩ := get_valid_eq_some_iff.mp htoken
    exact ⟨token, htoken, shown, ⟨row, hget, hshows⟩, _, ⟨row, hid.symm ▸ hget, rfl⟩, rfl,
      by rw [mark_used_of_mem hmem hhash]; rfl⟩

/-- A reset takes effect when its token is valid and names an account. -/
theorem ResetPassword.transaction_eq_ok_iff {cmd : ResetPasswordCommand} :
    ResetPassword.transaction d env cmd s = .ok (user, t) ↔
      ∃ token row shown, get_valid env cmd.token s = some token ∧ s.users.get token.user_id = some row ∧
        row.Shows shown ∧
        user = shown.with_password (d.pwd_context.hash env.salt cmd.new_password) ∧
        ResetsPassword user row (UserModel.flush row (assigned env user row) row) token s t := by
  have hcommit {token row shown} (htoken : get_valid env cmd.token s = some token)
      (hget : s.users.get token.user_id = some row) (hshows : UserModel.Shows row shown)
      (huser : user = shown.with_password (d.pwd_context.hash env.salt cmd.new_password)) :
      s.commit [.update_user row (assigned env user row),
          .update_reset_token token { token with used := true }] = some t ↔
        ResetsPassword user row (UserModel.flush row (assigned env user row) row) token s t :=
    commit_reset_eq_some_iff (Table.mem_of_get hget) (huser ▸ hshows.same_phone _)
      (get_valid_eq_some_iff.mp htoken).1
  simp only [ResetPassword.transaction, Transaction.bind_eq_ok_iff, reads_eq_ok_iff, emit_eq_ok_iff, Prod.exists]
  constructor
  · rintro ⟨_, writes, _, ⟨hprepare, rfl⟩, _, _, hwrites, hreturn⟩
    obtain ⟨rfl, rfl⟩ := pure_eq_ok_iff.mp hreturn
    obtain ⟨token, row, shown, htoken, hget, hshows, huser, rfl⟩ := prepare_eq_ok_iff.mp hprepare
    exact ⟨token, row, shown, htoken, hget, hshows, huser, (hcommit htoken hget hshows huser).mp hwrites⟩
  · rintro ⟨token, row, shown, htoken, hget, hshows, huser, hresets⟩
    exact ⟨user, _, s, ⟨prepare_eq_ok_iff.mpr ⟨token, row, shown, htoken, hget, hshows, huser, rfl⟩, rfl⟩, (), t,
      (hcommit htoken hget hshows huser).mpr hresets, pure_eq_ok_iff.mpr ⟨rfl, rfl⟩⟩

end sigis.accounts
