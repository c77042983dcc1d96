import Sigis.Accounts.Tokens
import Sigis.Platform.Trail

open guarded transactional

namespace sigis

namespace accounts

variable {p : JwtPackage} {d : Deployment} {env : Env} {cmd : LoginCommand} {login : LoginResult} {s t : AccountStore}
  {user : User} {now : Int} {credentials : Credentials} {required : Permission}

/-- The second in which a token of a login expires. -/
def Env.expiry (env : Env) (d : Deployment) : Int :=
  (env.now + minutes d.settings.access_token_expire_minutes) / 1000000 * 1000000

/-- A login is of an active account with this address and this password, and its token says whose
it is. -/
structure LoginUser.Opens (d : Deployment) (env : Env) (cmd : LoginCommand) (login : LoginResult) (s : AccountStore)
    (user : User) : Prop where
  account : UserAuthRepositoryImpl.get_by_email d cmd.email s = .ok (some user)
  password : d.pwd_context.verify cmd.password user.hashed_password = true
  active : user.is_active = true
  user_id : login.user_id = user.id
  token : login.access_token =
    d.jwt.encode (LoginUser.payload d env user) d.settings.secret_key d.settings.jwt_algorithm

theorem LoginUser.exists_opens (h : LoginUser.execute d env cmd s = (.ok login, t)) :
    ∃ user, LoginUser.Opens d env cmd login s user := by
  obtain ⟨found, hread, hrest⟩ := after_commit_eq_ok_iff.mp h
  cases found with
  | none => cases hrest
  | some user =>
    simp only [bind_eq_ok_iff, raise_if_eq_ok, pure_eq_ok, Except.ok.injEq, Bool.not_eq_false] at hrest
    obtain ⟨_, hpassword, _, hactive, rfl⟩ := hrest
    obtain ⟨hfound, rfl⟩ := Transaction.reads_eq_ok_iff.mp (atomically_eq_ok_iff.mp hread)
    exact ⟨user, hfound, hpassword, hactive, rfl, rfl⟩

/-- The token bears the role the account has at the login. -/
theorem LoginUser.extract_role_payload :
    extract_role_from_payload (LoginUser.payload d env user) = some user.role := by
  have hrole : (LoginUser.payload d env user).get "role" = some (.value (.str user.role.value)) := rfl
  simp only [extract_role_from_payload, hrole, Role.of_value_value, Option.some_or]

/-- A token of a role is admitted when the rows give the role the required permission, and refused with
its name otherwise. -/
theorem require_permission_of_bears_role {role : Role} (h : BearsRole d now credentials role) :
    require_permission d now required credentials s =
      if required ∈ RolePermissionRepositoryImpl.get_effective_permissions [role] s then .ok ()
      else .error (.HTTPException 403 (.text ("Permission « " ++ required.value ++ " » requise."))) := by
  obtain ⟨token, payload, htoken, hdecode, hrole⟩ := h
  simp only [require_permission, htoken, hdecode, bind_ok, hrole, Option.toList_some, raise_if, ite_not]

namespace LoginUser.Opens

/-- Until it expires the token decodes to its claims, and then no more. -/
theorem decode_token (h : LoginUser.Opens d env cmd login s user) (hp : p.Lawful) (hd : d.jwt = p.access) :
    decode_token d now login.access_token =
      if env.expiry d ≤ now then .error (.HTTPException 401 (.text "Jeton d'accès expiré."))
      else .ok (LoginUser.payload d env user) := by
  have hdecode : d.jwt.decode login.access_token d.settings.secret_key d.settings.jwt_algorithm now =
      validate (LoginUser.payload d env user) [] now := by
    rw [h.token, hd]
    exact hp _ _ _ _ _ (.access ..)
  have hvalidate : validate (LoginUser.payload d env user) [] now =
      if env.expiry d ≤ now then .error .ExpiredSignatureError else .ok (LoginUser.payload d env user) := by
    have hiat : (LoginUser.payload d env user).seconds "iat" = none := rfl
    have hexp : (LoginUser.payload d env user).seconds "exp" =
        some ((env.now + minutes d.settings.access_token_expire_minutes) / 1000000) := rfl
    have hrequired : ¬ ∃ claim ∈ ([] : List String), ((LoginUser.payload d env user).get claim).isNone = true := by
      simp
    rw [validate, raise_if, if_neg hrequired, bind_ok, hiat, hexp, Env.expiry]
    simp only [Option.any_none, Bool.false_eq_true, raise_if, if_false, bind_ok, Option.any_some, decide_eq_true_eq]
    by_cases hexpired : (env.now + minutes d.settings.access_token_expire_minutes) / 1000000 * 1000000 ≤ now
    · rw [if_pos hexpired, if_pos hexpired]
      rfl
    · rw [if_neg hexpired, if_neg hexpired]
      rfl
  rw [accounts.decode_token, hdecode, hvalidate]
  split <;> rfl

theorem extract_user (h : LoginUser.Opens d env cmd login s user) (hid : d.ReadsBack login.user_id) :
    extract_user_id d (LoginUser.payload d env user) = .ok user.id := by
  rw [h.user_id] at hid
  exact extract_user_id_of_sub rfl hid

theorem require_permission_of_expired (h : LoginUser.Opens d env cmd login s user) (hp : p.Lawful)
    (hd : d.jwt = p.access) (htoken : credentials.token = some login.access_token) (hexpired : env.expiry d ≤ now) :
    require_permission d now required credentials t =
      .error (.HTTPException 401 (.text "Jeton d'accès expiré.")) := by
  simp only [require_permission, htoken, h.decode_token hp hd, if_pos hexpired]
  rfl

theorem bears_role (h : LoginUser.Opens d env cmd login s user) (hp : p.Lawful) (hd : d.jwt = p.access)
    (htoken : credentials.token = some login.access_token) (hlive : ¬ env.expiry d ≤ now) :
    BearsRole d now credentials user.role := by
  refine ⟨_, LoginUser.payload d env user, htoken, ?_, LoginUser.extract_role_payload⟩
  rw [h.decode_token hp hd, if_neg hlive]

theorem current_user_of_live (h : LoginUser.Opens d env cmd login s user) (hp : p.Lawful) (hd : d.jwt = p.access)
    (hid : d.ReadsBack login.user_id) (htoken : credentials.token = some login.access_token)
    (hlive : ¬ env.expiry d ≤ now) :
    current_user d now credentials = .ok user.id := by
  simp only [current_user, htoken, h.decode_token hp hd, if_neg hlive, bind_ok]
  exact h.extract_user hid

end LoginUser.Opens

end accounts

open accounts in
/-- The token of a login opens the endpoints that the role of the account at the login may use,
under that account, for as long as the settings give it and no longer: whatever the tables hold by
then, of the rows of accounts only the permissions of that role are read. -/
theorem session_serves {F : Type} [LinearOrder F] [NatCast F] {p : JwtPackage} {d : Deployment} {env : accounts.Env}
    {cmd : LoginCommand} {login : LoginResult} {s t : AccountStore} (hp : p.Lawful) (hd : d.jwt = p.access)
    (hlogin : LoginUser.execute d env cmd s = (.ok login, t)) (hid : d.ReadsBack login.user_id) :
    ∃ user, LoginUser.Opens d env cmd login s user ∧
      ∀ (w : World F) (endpoint : WriteEndpoint F) (sur : Surroundings) (platform : Platform F),
        sur.credentials.token = some login.access_token →
        endpoint.serve w d sur platform =
          if env.expiry d ≤ sur.authenticated_at then
            (.error (.dependency (.HTTPException 401 (.text "Jeton d'accès expiré."))), platform)
          else if endpoint.required ∈
              RolePermissionRepositoryImpl.get_effective_permissions [user.role] platform.accounts then
            ((endpoint.handle w sur user.id platform).1.mapError .endpoint, (endpoint.handle w sur user.id platform).2)
          else
            (.error (.dependency (.HTTPException 403
              (.text ("Permission « " ++ endpoint.required.value ++ " » requise.")))), platform) := by
  obtain ⟨user, hopens⟩ := LoginUser.exists_opens hlogin
  refine ⟨user, hopens, fun w endpoint sur platform htoken => ?_⟩
  rw [WriteEndpoint.serve]
  by_cases hexpired : env.expiry d ≤ sur.authenticated_at
  · rw [if_pos hexpired, hopens.require_permission_of_expired hp hd htoken hexpired]
  rw [if_neg hexpired, require_permission_of_bears_role (hopens.bears_role hp hd htoken hexpired)]
  by_cases hrequired :
      endpoint.required ∈ RolePermissionRepositoryImpl.get_effective_permissions [user.role] platform.accounts
  · rw [if_pos hrequired, if_pos hrequired, hopens.current_user_of_live hp hd hid htoken hexpired]
  · rw [if_neg hrequired, if_neg hrequired]

namespace sessions_pilot

def account : accounts.UserModel :=
  { accounts.numbered.account with id := ⟨"0b9de7a4-58c1-4f2e-8d53-6f0c2a9e7b14"⟩ }

def accounts_store : accounts.AccountStore :=
  { accounts.AccountStore.empty with users := ⟨[account], List.pairwise_singleton _ _⟩ }

theorem logged_in : ∃ login, accounts.LoginUser.execute accounts.numbered.deployment (.small 0)
    ⟨"inspector@sigis.cm", "Changeme@2026"⟩ accounts_store = (.ok login, accounts_store) ∧
    login.user_id = account.id := ⟨_, rfl, rfl⟩

/-- What the request takes from its surroundings, an hour and a minute later. -/
def later (token : String) : Surroundings :=
  { pilot.asked "inspector" .INSPECTOR "1" (minutes 61) with credentials := { token := some token } }

end sessions_pilot

theorem pilot_session_expired : ∃ login : accounts.LoginResult, ∀ platform : Platform ℝ,
    pilot.check_in_request.serve pilot.world accounts.numbered.deployment (sessions_pilot.later login.access_token)
      platform = (.error (.dependency (.HTTPException 401 (.text "Jeton d'accès expiré."))), platform) := by
  obtain ⟨login, hlogin, hid⟩ := sessions_pilot.logged_in
  have hreads : accounts.numbered.deployment.ReadsBack login.user_id := by
    rw [hid]
    exact ⟨by decide, by decide⟩
  obtain ⟨user, -, hserve⟩ := session_serves (F := ℝ) accounts.numbered.lawful accounts.numbered.jwt_deployment hlogin
    hreads
  have hexpired : (accounts.Env.small 0).expiry accounts.numbered.deployment ≤ minutes 61 := by decide
  exact ⟨login, fun platform => (hserve _ _ _ platform rfl).trans (if_pos hexpired)⟩

end sigis
