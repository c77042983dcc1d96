import Sigis.Api.Users
import Sigis.Application.UseCases.AdminSeedDemoUsers
import Sigis.Lib.Execution

open guarded relational transactional transition

namespace sigis.accounts

open accounts.UserAuthRepositoryImpl PasswordResetTokenRepositoryImpl AdminSeedDemoUsers

/-- The requests that read or write accounts. -/
inductive AccountCall
  | RegisterUser (cmd : RegisterUserCommand)
  | LoginUser (cmd : LoginCommand)
  | ChangePassword (cmd : ChangePasswordCommand)
  | RequestPasswordReset (cmd : RequestPasswordResetCommand)
  | ResetPassword (cmd : ResetPasswordCommand)
  | update_user (credentials : Credentials) (user_id : UUID) (body : UpdateUserBody)
  | update_roles (credentials : Credentials) (user_id : UUID) (role : Role)
  | seed_demo_users

/-- A result of which only the error matters. -/
def outcome {α : Type} (done : Except Error α × AccountStore) : Except Error Unit × AccountStore :=
  (done.1.map fun _ => (), done.2)

@[simp] theorem outcome_snd {α : Type} {done : Except Error α × AccountStore} : (outcome done).2 = done.2 := rfl

theorem outcome_eq_error_iff {α : Type} {done : Except Error α × AccountStore} {e : Error} {t : AccountStore} :
    outcome done = (.error e, t) ↔ done = (.error e, t) := by
  obtain ⟨result, u⟩ := done
  cases result <;> simp [outcome, Except.map]

theorem outcome_eq_ok_iff {α : Type} {done : Except Error α × AccountStore} {t : AccountStore} {u : Unit} :
    outcome done = (.ok u, t) ↔ ∃ a, done = (.ok a, t) := by
  obtain ⟨result, v⟩ := done
  cases result <;> simp [outcome, Except.map]

def AccountCall.serve (d : Deployment) (env : Env) (s : AccountStore) :
    AccountCall → Except Error Unit × AccountStore
  | .RegisterUser cmd => outcome (accounts.RegisterUser.execute d env cmd s)
  | .LoginUser cmd => outcome (accounts.LoginUser.execute d env cmd s)
  | .ChangePassword cmd => outcome (accounts.ChangePassword.execute d env cmd s)
  | .RequestPasswordReset cmd => outcome (accounts.RequestPasswordReset.execute d env cmd s)
  | .ResetPassword cmd => outcome (accounts.ResetPassword.execute d env cmd s)
  | .update_user credentials user_id body =>
    outcome (atomically (accounts.update_user d env credentials user_id body) s)
  | .update_roles credentials user_id role =>
    outcome (atomically (accounts.update_roles d env credentials user_id role) s)
  | .seed_demo_users => outcome (AdminSeedDemoUsers.seed_demo_users d env s)

/-- The demo accounts a request creates, one after the other. -/
def CreatesDemos (d : Deployment) (env : Env) (s : AccountStore) (created : List (SeedRow × User)) (t : AccountStore) :
    Prop :=
  Execution (fun s label t => CreatesDemo d env label.1 label.2 s t) s created t

/-- What a request that changes the tables does to them. -/
def AccountCall.Effect (d : Deployment) (env : Env) (s t : AccountStore) : AccountCall → Prop
  | .RegisterUser cmd => ∃ phone_vo, CameroonPhoneNumber.init cmd.phone_number = .ok phone_vo ∧
      AddsUser d (RegisterUser.new_user d env cmd phone_vo) s t
  | .LoginUser _ => False
  | .ChangePassword cmd => ∃ row user new, s.users.get cmd.user_id = some row ∧ row.Shows user ∧
      d.pwd_context.verify cmd.current_password row.hashed_password = true ∧
      Rewrites (user.with_password (d.pwd_context.hash env.salt cmd.new_password)) row new s t
  | .RequestPasswordReset cmd => ∃ row ∈ s.users.rows, row.email = d.lower cmd.email ∧
      IssuesToken (RequestPasswordReset.token_row d env row.id) s t
  | .ResetPassword cmd => ∃ token row user new, get_valid env cmd.token s = some token ∧
      s.users.get token.user_id = some row ∧ row.Shows user ∧
      ResetsPassword (user.with_password (d.pwd_context.hash env.salt cmd.new_password)) row new token s t
  | .update_user credentials user_id body => ∃ user_role user phone,
      current_user_role d env.now credentials = .ok user_role ∧ (body.role.isSome → is_admin user_role) ∧
      (phone = user.phone_number ∨ ∃ phone_vo : CameroonPhoneNumber, phone = phone_vo.e164) ∧
      Edits user_id user (body.apply_to user phone) s t
  | .update_roles credentials user_id role =>
      require_permission d env.now .USER_MANAGE_ROLES credentials s = .ok () ∧
        ∃ user, Edits user_id user { user with role := role } s t
  | .seed_demo_users => ∃ created, CreatesDemos d env s created t

variable {α : Type} {d : Deployment} {env : Env} {s t : AccountStore} {call : AccountCall}

/-- What a unit of work leaves is what its body left, or what was there before. -/
theorem atomically_cases (x : Session α) (s : AccountStore) :
    (atomically x s).2 = s ∨ ∃ a t, x s = .ok (a, t) ∧ (atomically x s).2 = t := by
  cases hx : x s with
  | error e =>
    rw [atomically_eq_error_iff.mpr ⟨hx, rfl⟩]
    exact Or.inl rfl
  | ok done =>
    obtain ⟨a, t⟩ := done
    rw [atomically_eq_ok_iff.mpr hx]
    exact Or.inr ⟨a, t, rfl, rfl⟩

/-- Sending an e-mail after the commit leaves the tables alone. -/
theorem RegisterUser.execute_cases (d : Deployment) (env : Env) (cmd : RegisterUserCommand) (s : AccountStore) :
    (RegisterUser.execute d env cmd s).2 = s ∨ ∃ phone_vo, CameroonPhoneNumber.init cmd.phone_number = .ok phone_vo ∧
      AddsUser d (RegisterUser.new_user d env cmd phone_vo) s (RegisterUser.execute d env cmd s).2 := by
  unfold RegisterUser.execute
  split
  · exact Or.inl rfl
  · next phone_vo hphone =>
    rcases atomically_cases (RegisterUser.transaction d env cmd phone_vo) s with hsame | ⟨user, t, hok, ht⟩
    · exact Or.inl hsame
    · obtain ⟨-, rfl, hadds⟩ := RegisterUser.transaction_eq_ok_iff.mp hok
      exact Or.inr ⟨phone_vo, hphone, ht ▸ hadds⟩

/-- A request leaves the tables as they are, or has the effect it is for. -/
theorem AccountCall.serve_effect (d : Deployment) (env : Env) (s : AccountStore) (call : AccountCall) :
    (call.serve d env s).2 = s ∨ call.Effect d env s (call.serve d env s).2 := by
  cases call with
  | RegisterUser cmd =>
    rw [serve, outcome_snd, Effect]
    exact RegisterUser.execute_cases d env cmd s
  | LoginUser cmd =>
    rw [serve, outcome_snd, LoginUser.execute, after_commit_snd]
    refine Or.inl ?_
    rcases atomically_cases (Transaction.reads (get_by_email d cmd.email)) s with hsame | ⟨_, t, hok, ht⟩
    · exact hsame
    · exact ht.trans (Transaction.reads_eq_ok_iff.mp hok).2
  | ChangePassword cmd =>
    rw [serve, outcome_snd, ChangePassword.execute, after_commit_snd, Effect]
    refine (atomically_cases (ChangePassword.transaction d env cmd) s).imp_right ?_
    rintro ⟨_, t, hok, ht⟩
    obtain ⟨row, user, hget, hshows, hverify, rfl, hrewrites⟩ := ChangePassword.transaction_eq_ok_iff.mp hok
    exact ⟨row, user, _, hget, hshows, hverify, ht ▸ hrewrites⟩
  | RequestPasswordReset cmd =>
    rw [serve, outcome_snd, RequestPasswordReset.execute, after_commit_snd, Effect]
    rcases atomically_cases (RequestPasswordReset.transaction d env cmd) s with hsame | ⟨_, t, hok, ht⟩
    · exact Or.inl hsame
    · rcases RequestPasswordReset.transaction_eq_ok_iff.mp hok with ⟨-, -, rfl⟩ |
        ⟨row, user, hrow, hemail, hshows, -, hissues⟩
      · exact Or.inl ht
      · exact Or.inr ⟨row, hrow, hemail, hshows.id ▸ ht ▸ hissues⟩
  | ResetPassword cmd =>
    rw [serve, outcome_snd, ResetPassword.execute, after_commit_snd, Effect]
    refine (atomically_cases (ResetPassword.transaction d env cmd) s).imp_right ?_
    rintro ⟨_, t, hok, ht⟩
    obtain ⟨token, row, user, htoken, hget, hshows, rfl, hresets⟩ := ResetPassword.transaction_eq_ok_iff.mp hok
    exact ⟨token, row, user, _, htoken, hget, hshows, ht ▸ hresets⟩
  | update_user credentials user_id body =>
    rw [serve, outcome_snd, Effect]
    refine (atomically_cases (accounts.update_user d env credentials user_id body) s).imp_right ?_
    rintro ⟨_, t, hok, ht⟩
    obtain ⟨requester, user_role, user, phone, -, hrole, hmay, hphone, hedits⟩ := update_user_eq_ok hok
    obtain ⟨row, new, hget, hshows, hrewrites⟩ := hedits
    obtain ⟨_, -, hadmin⟩ := bind_eq_ok_iff.mp hmay
    refine ⟨user_role, user, phone, hrole, ?_, ?_, row, new, hget, hshows, ht ▸ hrewrites⟩
    · intro hgiven
      rw [raise_if_eq_ok] at hadmin
      by_contra hnot
      exact hadmin ⟨Or.inr hgiven, Bool.not_eq_true _ |>.mp hnot⟩
    · rw [hshows.phone_number]
      exact (new_phone_eq_ok hget hshows hphone).1
  | update_roles credentials user_id role =>
    rw [serve, outcome_snd, Effect]
    refine (atomically_cases (accounts.update_roles d env credentials user_id role) s).imp_right ?_
    rintro ⟨_, t, hok, ht⟩
    obtain ⟨hrequire, user, hedits⟩ := update_roles_eq_ok hok
    exact ⟨hrequire, user, ht ▸ hedits⟩
  | seed_demo_users =>
    rw [serve, outcome_snd, AdminSeedDemoUsers.seed_demo_users, Effect]
    refine (atomically_cases (execute_seed_demo_users d env) s).imp_right ?_
    rintro ⟨_, t, hok, ht⟩
    refine ht ▸ execute_seed_demo_users_relates (R := fun s t => ∃ created, CreatesDemos d env s created t)
      (fun _ => ⟨[], .refl⟩) ?_ (fun hcreates => ⟨[(_, _)], .single hcreates⟩) s _ t hok
    rintro s t u ⟨created, hfirst⟩ ⟨more, hrest⟩
    exact ⟨created ++ more, Execution.trans hfirst hrest⟩

/-- One request with what it takes from its surroundings. -/
def AccountStep (d : Deployment) (s : AccountStore) (label : AccountCall × Env) (t : AccountStore) : Prop :=
  (label.1.serve d label.2 s).2 = t

theorem AccountStep.effect {label : AccountCall × Env} (h : AccountStep d s label t) :
    t = s ∨ label.1.Effect d label.2 s t := by
  obtain rfl := h
  exact label.1.serve_effect d label.2 s

theorem AddsUser.get {user : User} {u : UUID} {row : UserModel} (h : AddsUser d user s t)
    (hget : s.users.get u = some row) : t.users.get u = some row := by
  rw [← Table.key_of_get hget]
  refine Table.get_of_mem ?_
  rw [h.users]
  exact List.mem_append_left _ (Table.mem_of_get hget)

theorem CreatesDemos.get {created : List (SeedRow × User)} {u : UUID} {row : UserModel}
    (h : CreatesDemos d env s created t) (hget : s.users.get u = some row) : t.users.get u = some row :=
  h.invariant (fun s => s.users.get u = some row) (fun hget hcreates => hcreates.adds.get hget) hget

end sigis.accounts
