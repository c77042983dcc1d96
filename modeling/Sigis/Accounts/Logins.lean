import Sigis.Accounts.Identity

open guarded relational transactional transition

namespace sigis.accounts

open accounts.UserAuthRepositoryImpl AdminSeedDemoUsers

/-- The password a request gives to the account it creates or writes. -/
def AccountCall.password : AccountCall → Option String
  | .RegisterUser cmd => some cmd.password
  | .ChangePassword cmd => some cmd.new_password
  | .ResetPassword cmd => some cmd.new_password
  | .seed_demo_users => some SEED_DEFAULT_PASSWORD
  | .LoginUser _ | .RequestPasswordReset _ | .update_user _ _ _ | .update_roles _ _ _ => none

/-- What is stored of it. -/
def AccountCall.hashed (d : Deployment) (call : AccountCall) (env : Env) : Option String :=
  call.password.map (d.pwd_context.hash env.salt)

/-- Every account has the password it had before, or the one given. -/
def KeepsPasswords (given : Option String) (s t : AccountStore) : Prop :=
  ∀ row ∈ t.users.rows, (∃ old ∈ s.users.rows, old.id = row.id ∧ old.hashed_password = row.hashed_password) ∨
    given = some row.hashed_password

variable {d : Deployment} {env : Env} {s t u : AccountStore} {call : AccountCall} {given : Option String} {user : User}
  {old new row : UserModel}

namespace KeepsPasswords

theorem of_users (h : t.users = s.users) : KeepsPasswords given s t :=
  fun row hrow => Or.inl ⟨row, h ▸ hrow, rfl, rfl⟩

theorem trans (h : KeepsPasswords given s t) (h' : KeepsPasswords given t u) : KeepsPasswords given s u := by
  intro row hrow
  rcases h' row hrow with ⟨old, hold, hid, hsame⟩ | hgiven
  · rcases h old hold with ⟨older, holder, hid', hsame'⟩ | hgiven
    · exact Or.inl ⟨older, holder, hid'.trans hid, hsame'.trans hsame⟩
    · exact Or.inr (hgiven.trans (congrArg some hsame))
  · exact Or.inr hgiven

theorem of_adds (h : AddsUser d user s t) : KeepsPasswords (some user.hashed_password) s t := by
  intro row hrow
  rw [h.users] at hrow
  rcases List.mem_append.mp hrow with hold | hnew
  · exact Or.inl ⟨row, hold, rfl, rfl⟩
  · obtain rfl := List.mem_singleton.mp hnew
    exact Or.inr rfl

/-- A row rewritten with the password it had, or with the one given. -/
theorem of_replaces (hreplaces : Table.Replaces s.users old new t.users)
    (hpassword : new.hashed_password = old.hashed_password ∨ given = some new.hashed_password) :
    KeepsPasswords given s t := by
  refine hreplaces.forall_mem (fun row hrow => Or.inl ⟨row, hrow, rfl, rfl⟩) ?_
  exact hpassword.imp_left fun hsame => ⟨old, hreplaces.stored, hreplaces.key.symm, hsame.symm⟩

theorem of_edits {edited : User} {user_id : UUID} (h : Edits user_id user edited s t)
    (hpassword : edited.hashed_password = user.hashed_password) : KeepsPasswords given s t := by
  obtain ⟨old, new, -, hshows, hrewrites⟩ := h
  refine of_replaces hrewrites.users (Or.inl ?_)
  exact hrewrites.updated.hashed_password.trans (hpassword.trans hshows.hashed_password)

/-- One turn of the loop over the demo accounts. -/
theorem of_seed_account {seed : SeedRow} {result : SeedAccountResult}
    (h : seed_account d env seed s = .ok (result, t)) :
    KeepsPasswords (some (d.pwd_context.hash env.salt SEED_DEFAULT_PASSWORD)) s t := by
  obtain ⟨chosen, v, hread, hrest⟩ := Transaction.bind_eq_ok_iff.mp h
  obtain ⟨-, rfl⟩ := Transaction.reads_eq_ok_iff.mp hread
  cases chosen with
  | already_seeded em =>
    obtain ⟨-, rfl⟩ := Transaction.pure_eq_ok_iff.mp hrest
    exact of_users rfl
  | none =>
    obtain ⟨-, rfl⟩ := Transaction.pure_eq_ok_iff.mp hrest
    exact of_users rfl
  | free em =>
    obtain ⟨phone, w, hphone, hcreate⟩ := Transaction.bind_eq_ok_iff.mp hrest
    obtain ⟨-, rfl⟩ := Transaction.reads_eq_ok_iff.mp hphone
    obtain ⟨_, x, hemit, hreturn⟩ := Transaction.bind_eq_ok_iff.mp hcreate
    obtain ⟨-, rfl⟩ := Transaction.pure_eq_ok_iff.mp hreturn
    exact of_adds (commit_create_eq_some_iff.mp (emit_eq_ok_iff.mp hemit))

theorem of_seed_demo_users {answer : List SeedAccountResult × String}
    (h : execute_seed_demo_users d env s = .ok (answer, t)) :
    KeepsPasswords (some (d.pwd_context.hash env.salt SEED_DEFAULT_PASSWORD)) s t := by
  obtain ⟨results, v, hrows, hreturn⟩ := Transaction.bind_eq_ok_iff.mp h
  obtain ⟨-, rfl⟩ := Transaction.pure_eq_ok_iff.mp hreturn
  refine Transaction.relates_mapM (fun _ => of_users rfl) trans ?_ _ _ _ hrows
  intro seed _ s result t hseed
  exact of_seed_account hseed

end KeepsPasswords

/-- Every account after a request has the password it had before, or the one the request gives. -/
theorem AccountStep.keeps_passwords (hstep : AccountStep d s (call, env) t) :
    KeepsPasswords (call.hashed d env) s t := by
  rcases hstep.effect with rfl | heffect
  · exact .of_users rfl
  cases call with
  | RegisterUser cmd =>
    obtain ⟨phone_vo, -, hadds⟩ := heffect
    exact .of_adds hadds
  | LoginUser cmd => exact heffect.elim
  | ChangePassword cmd =>
    obtain ⟨old, user, new, -, -, -, hrewrites⟩ := heffect
    exact .of_replaces hrewrites.users (Or.inr (congrArg some hrewrites.updated.hashed_password.symm))
  | RequestPasswordReset cmd =>
    obtain ⟨row, -, -, hissues⟩ := heffect
    exact .of_users hissues.users
  | ResetPassword cmd =>
    obtain ⟨token, old, user, new, -, -, -, hresets⟩ := heffect
    exact .of_replaces hresets.users (Or.inr (congrArg some hresets.updated.hashed_password.symm))
  | update_user credentials user_id body =>
    obtain ⟨user_role, user, phone, -, -, -, hedits⟩ := heffect
    exact .of_edits hedits rfl
  | update_roles credentials user_id role =>
    obtain ⟨-, user, hedits⟩ := heffect
    exact .of_edits hedits rfl
  | seed_demo_users =>
    obtain rfl := hstep
    rcases atomically_cases (execute_seed_demo_users d env) s with hsame | ⟨answer, t, hok, ht⟩
    · exact .of_users (congrArg AccountStore.users hsame)
    · change KeepsPasswords _ s (atomically (execute_seed_demo_users d env) s).2
      rw [ht]
      exact .of_seed_demo_users hok

/-- What is stored of the password of an account. -/
def AccountStore.hashed_of (s : AccountStore) (user_id : UUID) : Option String :=
  (s.users.get user_id).map UserModel.hashed_password

theorem hashed_of_eq_some_iff {user_id : UUID} {hashed : String} :
    s.hashed_of user_id = some hashed ↔ ∃ row ∈ s.users.rows, row.id = user_id ∧ row.hashed_password = hashed := by
  simp only [AccountStore.hashed_of, Option.map_eq_some_iff, Table.get_eq_some_iff, and_assoc]
  rfl

theorem AccountStep.gives {label : AccountCall × Env} {user_id : UUID} {hashed : String}
    (hstep : AccountStep d s label t) (ht : t.hashed_of user_id = some hashed)
    (hs : s.hashed_of user_id ≠ some hashed) :
    label.1.hashed d label.2 = some hashed := by
  obtain ⟨row, hrow, rfl, rfl⟩ := hashed_of_eq_some_iff.mp ht
  refine (hstep.keeps_passwords row hrow).resolve_left fun ⟨old, hold, hid, hsame⟩ => hs ?_
  exact hashed_of_eq_some_iff.mpr ⟨old, hold, hid, hsame⟩

/-- The password an account was given last, with the salt drawn for it: whatever the requests since then have
changed of the account, this is what is stored. -/
def LastPassword (d : Deployment) (init : AccountStore) (labels : List (AccountCall × Env)) (s : AccountStore)
    (user_id : UUID) (password salt : String) : Prop :=
  ∃ before call env after t u, labels = before ++ (call, env) :: after ∧ Execution (AccountStep d) init before t ∧
    AccountStep d t (call, env) u ∧ call.password = some password ∧ env.salt = salt ∧
    u.hashed_of user_id = some (d.pwd_context.hash salt password) ∧
    Execution (fun x label y => AccountStep d x label y ∧
      y.hashed_of user_id = some (d.pwd_context.hash salt password)) u after s

/-- Every account has a last password. -/
theorem exists_last_password {init : AccountStore} {labels : List (AccountCall × Env)} (hinit : init.users.rows = [])
    (hrun : Execution (AccountStep d) init labels s) (hrow : row ∈ s.users.rows) :
    ∃ password salt, row.hashed_password = d.pwd_context.hash salt password ∧
      LastPassword d init labels s row.id password salt := by
  have hnone : init.hashed_of row.id ≠ some row.hashed_password := by
    rw [ne_eq, hashed_of_eq_some_iff, hinit]
    rintro ⟨old, hold, -⟩
    cases hold
  have hnow : s.hashed_of row.id = some row.hashed_password := hashed_of_eq_some_iff.mpr ⟨row, hrow, rfl, rfl⟩
  obtain ⟨before, ⟨call, env⟩, after, t, u, hlabels, hbefore, hstep, hgives, hu, hafter⟩ :=
    hrun.exists_last (fun s => s.hashed_of row.id) (fun label hashed => label.1.hashed d label.2 = some hashed)
      AccountStep.gives hnone hnow
  obtain ⟨password, hpassword, heq⟩ := Option.map_eq_some_iff.mp hgives
  rw [← heq] at hu hafter
  exact ⟨password, env.salt, heq.symm, before, call, env, after, t, u, hlabels, hbefore, hstep, hpassword, rfl,
    hu, hafter⟩

/-- A login at the address of an account. -/
theorem LoginUser.execute_of_row {cmd : LoginCommand} (h : Identified d s) (hrow : row ∈ s.users.rows)
    (hemail : d.lower cmd.email = row.email) : ∃ user, row.Shows user ∧
      LoginUser.execute d env cmd s =
        (if d.pwd_context.verify cmd.password row.hashed_password = false then
          .error (InvalidCredentials "Identifiants incorrects.")
        else if row.is_active = false then .error (AccountInactive "Ce compte est désactivé.")
        else .ok {
          access_token := d.jwt.encode (LoginUser.payload d env user) d.settings.secret_key d.settings.jwt_algorithm
          user_id := row.id
          role := row.role }, s) := by
  obtain ⟨user, hfound, hshows⟩ := h.found hrow hemail
  have hread : atomically (Transaction.reads (get_by_email d cmd.email)) s = (.ok (some user), s) :=
    atomically_eq_ok_iff.mpr (Transaction.reads_eq_ok_iff.mpr ⟨hfound, rfl⟩)
  refine ⟨user, hshows, ?_⟩
  rw [LoginUser.execute, hread, after_commit, ← hshows.hashed_password, ← hshows.is_active, ← hshows.id, ← hshows.role]
  by_cases hverify : d.pwd_context.verify cmd.password user.hashed_password = false
  · simp only [if_pos hverify, raise_if, bind_ok]
    rfl
  · by_cases hactive : user.is_active = false
    · simp only [if_neg hverify, if_pos hactive, raise_if, bind_ok]
      rfl
    · simp only [if_neg hverify, if_neg hactive, raise_if, bind_ok]
      rfl

theorem LoginUser.execute_of_unknown {cmd : LoginCommand} (h : ∀ row ∈ s.users.rows, row.email ≠ d.lower cmd.email) :
    LoginUser.execute d env cmd s = (.error (InvalidCredentials "Identifiants incorrects."), s) := by
  have hread : atomically (Transaction.reads (get_by_email d cmd.email)) s = (.ok none, s) :=
    atomically_eq_ok_iff.mpr (Transaction.reads_eq_ok_iff.mpr ⟨get_by_email_eq_ok_none_iff.mpr h, rfl⟩)
  rw [LoginUser.execute, hread]
  rfl

/-- An active account opens to what verifies as the password it was given last, an inactive one says so to that
password alone, and an address of no account answers like a wrong password. -/
structure OpensByLast (d : Deployment) (init : AccountStore) (labels : List (AccountCall × Env)) (s : AccountStore) :
    Prop where
  known : ∀ row ∈ s.users.rows, ∃ password salt, LastPassword d init labels s row.id password salt ∧
    ∀ (env : Env) (cmd : LoginCommand), d.lower cmd.email = row.email → ∃ user, row.Shows user ∧
      LoginUser.execute d env cmd s =
        (if d.pwd_context.verify cmd.password (d.pwd_context.hash salt password) = false then
          .error (InvalidCredentials "Identifiants incorrects.")
        else if row.is_active = false then .error (AccountInactive "Ce compte est désactivé.")
        else .ok {
          access_token := d.jwt.encode (LoginUser.payload d env user) d.settings.secret_key d.settings.jwt_algorithm
          user_id := row.id
          role := row.role }, s)
  unknown : ∀ (env : Env) (cmd : LoginCommand), (∀ row ∈ s.users.rows, row.email ≠ d.lower cmd.email) →
    LoginUser.execute d env cmd s = (.error (InvalidCredentials "Identifiants incorrects."), s)

/-- After every run from no account. -/
theorem login_by_last_password {init : AccountStore} {labels : List (AccountCall × Env)}
    (hlower : d.LowersOnce) (hinit : init.users.rows = [])
    (hrun : Execution (AccountStep d) init labels s) : OpensByLast d init labels s := by
  have hempty : Identified d init := ⟨by simp [hinit], by simp [hinit], by simp [hinit]⟩
  have hidentified : Identified d s := hrun.invariant (Identified d) (fun h hstep => h.step hlower hstep) hempty
  refine ⟨fun row hrow => ?_, fun env cmd hunknown => LoginUser.execute_of_unknown hunknown⟩
  obtain ⟨password, salt, hhashed, hlast⟩ := exists_last_password hinit hrun hrow
  refine ⟨password, salt, hlast, fun env cmd hemail => ?_⟩
  rw [← hhashed]
  exact LoginUser.execute_of_row hidentified hrow hemail

/-- An account is registered, and its password is changed. -/
theorem changed_password_opens :
    ∃ s, Execution (AccountStep (.small "")) .empty
      [(.RegisterUser ⟨"Ada@Sigis.cm", "Ada", "650 00 00 01", "password", .HOST⟩, Env.small 0),
       (.ChangePassword ⟨(Env.small 0).user_id, "password", "new password"⟩, Env.small 1)] s ∧
      s.users.rows.map UserModel.hashed_password = ["salt$new password"] ∧
      OpensByLast (.small "") .empty
        [(.RegisterUser ⟨"Ada@Sigis.cm", "Ada", "650 00 00 01", "password", .HOST⟩, Env.small 0),
         (.ChangePassword ⟨(Env.small 0).user_id, "password", "new password"⟩, Env.small 1)] s := by
  have hrun : Execution (AccountStep (.small "")) .empty
      [(.RegisterUser ⟨"Ada@Sigis.cm", "Ada", "650 00 00 01", "password", .HOST⟩, Env.small 0),
       (.ChangePassword ⟨(Env.small 0).user_id, "password", "new password"⟩, Env.small 1)] _ :=
    .cons rfl (.single rfl)
  exact ⟨_, hrun, by decide +kernel, login_by_last_password (Deployment.lowersOnce_small "") rfl hrun⟩

end sigis.accounts
