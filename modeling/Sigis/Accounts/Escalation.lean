import Sigis.Accounts.Requests
import Sigis.Api.Auth
import Sigis.Rbac.Restarts

open guarded relational transactional transition

namespace sigis.accounts

/-- The requests that set the role of an account. -/
inductive RoleEndpoint
  | register (body : RegisterUserCommand)
  | update_user (user_id : UUID) (body : UpdateUserBody)
  | update_roles (user_id : UUID) (role : Role)

/-- A request to one of them, with what it takes from its surroundings. -/
structure RoleRequest where
  credentials : Credentials
  env : Env
  endpoint : RoleEndpoint

/-- The tables after a request, whatever its response. -/
def RoleRequest.serve (d : Deployment) (request : RoleRequest) (s : AccountStore) : AccountStore :=
  match request.endpoint with
  | .register body => (register d request.env request.credentials body s).2
  | .update_user user_id body =>
    ((AccountCall.update_user request.credentials user_id body).serve d request.env s).2
  | .update_roles user_id role =>
    ((AccountCall.update_roles request.credentials user_id role).serve d request.env s).2

/-- The requester's token is of this role. -/
def RoleRequest.By (d : Deployment) (request : RoleRequest) (role : Role) : Prop :=
  BearsRole d request.env.now request.credentials role

/-- One request that carries a token. -/
def RoleStep (d : Deployment) (s : AccountStore) (request : RoleRequest) (t : AccountStore) : Prop :=
  request.credentials.token.isSome ∧ request.serve d s = t

/-- The role of an account. -/
def AccountStore.role_of (s : AccountStore) (user_id : UUID) : Option String :=
  (s.users.get user_id).map UserModel.role

/-- The accounts of the technical administrators. -/
def AccountStore.super_admins (s : AccountStore) : Set UUID :=
  {user_id | s.role_of user_id = some Role.SUPER_ADMIN.value}

/-- An account that was there has another role. -/
def ChangesRole (s t : AccountStore) : Prop :=
  ∃ user_id before after, s.role_of user_id = some before ∧ t.role_of user_id = some after ∧ before ≠ after

/-- There is an account with the role that was not there. -/
def CreatesAccount (role : Role) (s t : AccountStore) : Prop :=
  ∃ user_id, s.role_of user_id = none ∧ t.role_of user_id = some role.value

/-- Every role has its default permissions, and no other one. -/
def DefaultMatrix (s : AccountStore) : Prop :=
  ∀ role permission, permission ∈ s.permissions role.value ↔ permission ∈ default_permissions_for role

/-- What the endpoint asks of the role of the requester, under the default permissions. -/
def RoleEndpoint.Admits (role : Role) : RoleEndpoint → Prop
  | .register _ => .AUTH_REGISTER_USER ∈ default_permissions_for role
  | .update_user _ _ => role ∈ ADMIN_ROLES
  | .update_roles _ _ => .USER_MANAGE_ROLES ∈ default_permissions_for role

/-- Of the roles, only the two administrators may create accounts by default. -/
theorem registers_users_iff (role : Role) :
    .AUTH_REGISTER_USER ∈ default_permissions_for role ↔ role ∈ ADMIN_ROLES := by
  cases role <;> decide

/-- All three of them ask for an administrator. -/
theorem RoleEndpoint.Admits.is_admin {role : Role} {endpoint : RoleEndpoint} (h : endpoint.Admits role) :
    role ∈ ADMIN_ROLES := by
  cases endpoint with
  | register body => exact (registers_users_iff role).mp h
  | update_user user_id body => exact h
  | update_roles user_id new =>
    rw [(manages_roles_iff role).mp h]
    exact List.mem_cons_self

variable {d : Deployment} {env : Env} {credentials : Credentials} {s t init : AccountStore} {now : Int}
  {required : Permission} {request : RoleRequest} {requests : List RoleRequest}

/-- A token is admitted for the role it bears. -/
theorem exists_role_of_require_permission (htoken : credentials.token.isSome)
    (h : require_permission d now required credentials s = .ok ()) :
    ∃ role, BearsRole d now credentials role ∧ required ∈ s.permissions role.value := by
  obtain ⟨token, htoken⟩ := Option.isSome_iff_exists.mp htoken
  simp only [require_permission, htoken] at h
  obtain ⟨payload, hdecode, hraise⟩ := bind_eq_ok_iff.mp h
  simp only [raise_if_eq_ok, not_not, mem_get_effective_permissions, Option.mem_toList] at hraise
  obtain ⟨role, hrole, hrequired⟩ := hraise
  exact ⟨role, ⟨token, payload, htoken, hdecode, hrole⟩, hrequired⟩

/-- The hard-coded check admits a token for the role it bears, too. -/
theorem exists_role_of_is_admin {user_role : Option Role} (htoken : credentials.token.isSome)
    (hrole : current_user_role d now credentials = .ok user_role) (h : is_admin user_role = true) :
    ∃ role ∈ ADMIN_ROLES, BearsRole d now credentials role := by
  obtain ⟨token, htoken⟩ := Option.isSome_iff_exists.mp htoken
  simp only [current_user_role, htoken] at hrole
  cases hdecode : decode_token d now token with
  | error e =>
    rw [hdecode] at hrole
    cases hrole
  | ok payload =>
    rw [hdecode] at hrole
    obtain rfl := Except.ok.inj hrole
    obtain ⟨role, hextract, hadmin⟩ := (Option.any_eq_true _ _).mp h
    exact ⟨role, List.contains_iff_mem.mp hadmin, token, payload, htoken, hdecode, hextract⟩

/-- Editing an account leaves the roles of the other ones alone, and its own unless it is
given another one. -/
theorem Edits.role_of {user edited : User} {user_id : UUID} (h : Edits user_id user edited s t)
    (hrole : edited.role = user.role) : t.role_of = s.role_of := by
  obtain ⟨row, new, hget, hshows, hrewrites⟩ := h
  have hnew : new.role = row.role := by
    rw [hrewrites.updated.role, hrole, hshows.role]
  funext other
  rw [AccountStore.role_of, AccountStore.role_of, hrewrites.users.get, key_user]
  split
  · next hsame =>
    have hstored : s.users.get row.id = some row := Table.get_of_mem hrewrites.users.stored
    rw [← hsame, hstored]
    exact congrArg some hnew
  · rfl

/-- Registering asks for its permission first. -/
theorem register_cases (d : Deployment) (env : Env) (credentials : Credentials) (body : RegisterUserCommand)
    (s : AccountStore) :
    (register d env credentials body s).2 = s ∨
      require_permission d env.now .AUTH_REGISTER_USER credentials s = .ok () ∧
        ∃ user, AddsUser d user s (register d env credentials body s).2 := by
  unfold register
  split
  · exact Or.inl rfl
  · next hrequire =>
    have hcases := RegisterUser.execute_cases d env body s
    generalize RegisterUser.execute d env body s = done at hcases
    obtain ⟨result, t⟩ := done
    refine hcases.imp_right ?_
    rintro ⟨phone_vo, -, hadds⟩
    exact ⟨hrequire, _, hadds⟩

/-- No endpoint writes permissions. -/
theorem RoleStep.permissions (h : RoleStep d s request t) : t.role_permissions = s.role_permissions := by
  obtain ⟨-, rfl⟩ := h
  obtain ⟨credentials, env, endpoint⟩ := request
  cases endpoint with
  | register body =>
    rcases register_cases d env credentials body s with hsame | ⟨-, user, hadds⟩
    · exact congrArg AccountStore.role_permissions hsame
    · exact hadds.permissions
  | update_user user_id body =>
    rcases (AccountCall.update_user credentials user_id body).serve_effect d env s with hsame | heffect
    · exact congrArg AccountStore.role_permissions hsame
    · obtain ⟨_, _, _, -, -, -, _, _, -, -, hrewrites⟩ := heffect
      exact hrewrites.permissions
  | update_roles user_id new =>
    rcases (AccountCall.update_roles credentials user_id new).serve_effect d env s with hsame | heffect
    · exact congrArg AccountStore.role_permissions hsame
    · obtain ⟨-, _, _, _, -, -, hrewrites⟩ := heffect
      exact hrewrites.permissions

/-- No such request writes the permissions. -/
theorem RoleStep.default_matrix (h : DefaultMatrix s) (hstep : RoleStep d s request t) : DefaultMatrix t := by
  intro role permission
  rw [AccountStore.mem_permissions, hstep.permissions]
  exact h role permission

/-- A request that changes the roles comes from a role its endpoint admits. -/
theorem RoleStep.role_of (hmatrix : DefaultMatrix s) (h : RoleStep d s request t) :
    t.role_of = s.role_of ∨ ∃ role, request.By d role ∧ request.endpoint.Admits role := by
  obtain ⟨htoken, rfl⟩ := h
  obtain ⟨credentials, env, endpoint⟩ := request
  cases endpoint with
  | register body =>
    rcases register_cases d env credentials body s with hsame | ⟨hrequire, -⟩
    · exact Or.inl (congrArg AccountStore.role_of hsame)
    · obtain ⟨role, hbears, hgranted⟩ := exists_role_of_require_permission htoken hrequire
      exact Or.inr ⟨role, hbears, (hmatrix role _).mp hgranted⟩
  | update_user user_id body =>
    rcases (AccountCall.update_user credentials user_id body).serve_effect d env s with hsame | heffect
    · exact Or.inl (congrArg AccountStore.role_of hsame)
    · obtain ⟨user_role, user, phone, hrole, hadmin, -, hedits⟩ := heffect
      cases hgiven : body.role with
      | none =>
        refine Or.inl (hedits.role_of ?_)
        rw [UpdateUserBody.apply_to, hgiven]
        rfl
      | some new =>
        obtain ⟨role, hmem, hbears⟩ := exists_role_of_is_admin htoken hrole (hadmin (by rw [hgiven]; rfl))
        exact Or.inr ⟨role, hbears, hmem⟩
  | update_roles user_id new =>
    rcases (AccountCall.update_roles credentials user_id new).serve_effect d env s with hsame | heffect
    · exact Or.inl (congrArg AccountStore.role_of hsame)
    · obtain ⟨role, hbears, hgranted⟩ := exists_role_of_require_permission htoken heffect.1
      exact Or.inr ⟨role, hbears, (hmatrix role _).mp hgranted⟩

/-- After a change some account has another role. -/
theorem ChangesRole.ne (h : ChangesRole s t) : t.role_of ≠ s.role_of := by
  obtain ⟨user_id, before, after, hbefore, hafter, hne⟩ := h
  intro hsame
  rw [hsame, hbefore] at hafter
  exact hne (Option.some.inj hafter)

/-- After a creation an account has a role that had none. -/
theorem CreatesAccount.ne {role : Role} (h : CreatesAccount role s t) : t.role_of ≠ s.role_of := by
  obtain ⟨user_id, hnone, hnew⟩ := h
  intro hsame
  rw [hsame, hnone] at hnew
  cases hnew

/-- What the guards of the endpoints ensure: roles are handed out by the two administrators,
through `/roles` by the one who manages them; where neither of them acts, no role changes and
there is no new technical administrator. -/
structure AdministratorsOnly (d : Deployment) (init : AccountStore) (requests : List RoleRequest)
    (s : AccountStore) : Prop where
  administers : ∀ before request after, Takes (RoleStep d) init requests s before request after →
    (ChangesRole before after ∨ ∃ role, CreatesAccount role before after) →
    ∃ role, request.By d role ∧ role ∈ ADMIN_ROLES ∧ request.endpoint.Admits role
  roles_kept : (∀ request ∈ requests, ∀ role, request.By d role → role ∉ ADMIN_ROLES) → s.role_of = init.role_of
  not_enlarged : (∀ request ∈ requests, ∀ role, request.By d role → role ∉ ADMIN_ROLES) →
    s.super_admins ⊆ init.super_admins

/-- Under the default permissions, roles are handed out by administrators only. -/
theorem administrators_only (hmatrix : DefaultMatrix init) (hrun : Execution (RoleStep d) init requests s) :
    AdministratorsOnly d init requests s := by
  have hbefore {before request after} (htakes : Takes (RoleStep d) init requests s before request after) :
      DefaultMatrix before := by
    obtain ⟨_, -, hearlier⟩ := htakes.before
    exact hearlier.invariant DefaultMatrix RoleStep.default_matrix hmatrix
  have hkept : (∀ request ∈ requests, ∀ role, request.By d role → role ∉ ADMIN_ROLES) →
      s.role_of = init.role_of := by
    intro hothers
    refine hrun.invariant_of_takes (fun t => t.role_of = init.role_of) rfl fun before request after htakes hsame => ?_
    rcases htakes.taken.role_of (hbefore htakes) with hrole | ⟨role, hby, hadmits⟩
    · exact hrole.trans hsame
    · exact absurd hadmits.is_admin (hothers request htakes.mem role hby)
  refine ⟨?_, hkept, ?_⟩
  · intro before request after htakes hwrites
    have hne : after.role_of ≠ before.role_of := hwrites.elim ChangesRole.ne fun ⟨_, hcreates⟩ => hcreates.ne
    obtain ⟨role, hby, hadmits⟩ := (htakes.taken.role_of (hbefore htakes)).resolve_left hne
    exact ⟨role, hby, hadmits.is_admin, hadmits⟩
  · intro hothers user_id hadmin
    rw [AccountStore.super_admins, hkept hothers] at hadmin
    exact hadmin

namespace escalation_pilot

/-- The rows of the default permissions. -/
def default_rows : Table RolePermissionModel where
  rows := Role.members.flatMap fun role =>
    (Permission.members.filter (· ∈ default_permissions_for role)).map fun permission => grant (role.value, permission)
  distinct := by decide +kernel

/-- No account yet. -/
def started : AccountStore := { AccountStore.empty with role_permissions := default_rows }

/-- The token of a national administrator. -/
def national_admin : Credentials := { token := some "00000000-0000-4000-8000-000000000002.NATIONAL_ADMIN" }

/-- A national administrator registers a host. -/
def registration : RoleRequest :=
  ⟨national_admin, Env.small 0, .register ⟨"ada@sigis.cm", "Ada", "650000001", "password", .HOST⟩⟩

/-- The account is made the one of a technical administrator. -/
def promotion : RoleRequest :=
  ⟨national_admin, Env.small 0,
    .update_user ⟨"00000000-0000-4000-8000-000000000001"⟩ { role := some .SUPER_ADMIN }⟩

def registered : AccountStore := registration.serve (.small "") started

def promoted : AccountStore := promotion.serve (.small "") registered

/-- The rows of the first start are the default permissions. -/
theorem default_matrix_started : DefaultMatrix started := by
  intro role permission
  rw [AccountStore.mem_permissions]
  simp only [started, default_rows, List.mem_flatMap, List.mem_map, List.mem_filter, decide_eq_true_eq]
  constructor
  · rintro ⟨other, -, p, ⟨-, hdefault⟩, hgrant⟩
    obtain ⟨hrole, rfl⟩ := Prod.mk.inj (grant_injective hgrant)
    exact Role.value_inj.mp hrole ▸ hdefault
  · exact fun hdefault => ⟨role, role.mem_members, permission, ⟨permission.mem_members, hdefault⟩, rfl⟩

theorem registers : RoleStep (.small "") started registration registered := ⟨rfl, rfl⟩

theorem promotes : RoleStep (.small "") registered promotion promoted := ⟨rfl, rfl⟩

/-- The registration and the promotion. -/
theorem run : Execution (RoleStep (.small "")) started [registration, promotion] promoted :=
  .cons registers (.single promotes)

/-- The token says so. -/
theorem national_admin_of_by {role : Role} {env : Env} {endpoint : RoleEndpoint}
    (h : RoleRequest.By (.small "") ⟨national_admin, env, endpoint⟩ role) : role = .NATIONAL_ADMIN := by
  obtain ⟨token, payload, htoken, hdecode, hrole⟩ := h
  obtain rfl := Option.some.inj htoken
  obtain rfl := Except.ok.inj hdecode
  have hextract : some role = some Role.NATIONAL_ADMIN := hrole.symm.trans (by decide)
  exact Option.some.inj hextract

theorem role_of_registered :
    registered.role_of ⟨"00000000-0000-4000-8000-000000000001"⟩ = some Role.HOST.value := by
  decide +kernel

theorem role_of_promoted :
    promoted.role_of ⟨"00000000-0000-4000-8000-000000000001"⟩ = some Role.SUPER_ADMIN.value := by
  decide +kernel

/-- The promotion makes a technical administrator of a host. -/
theorem promotion_changes_role : ChangesRole registered promoted :=
  ⟨⟨"00000000-0000-4000-8000-000000000001"⟩, Role.HOST.value, Role.SUPER_ADMIN.value, role_of_registered,
    role_of_promoted, by decide⟩

end escalation_pilot

open escalation_pilot in
/-- A national administrator, who does not manage roles, makes an account the one of a
technical administrator, and nobody else acts. -/
theorem national_admin_promotes :
    DefaultMatrix started ∧
    (∃ before request after, Takes (RoleStep (.small "")) started [registration, promotion] promoted
        before request after ∧ ChangesRole before after ∧
      ¬ ∃ role, request.By (.small "") role ∧ .USER_MANAGE_ROLES ∈ default_permissions_for role) ∧
    (∀ request ∈ [registration, promotion], ∀ role, request.By (.small "") role → role ≠ .SUPER_ADMIN) ∧
    ¬ promoted.super_admins ⊆ started.super_admins := by
  refine ⟨default_matrix_started,
    ⟨registered, promotion, promoted, .last (.single registers) promotes, promotion_changes_role, ?_⟩, ?_, ?_⟩
  · rintro ⟨role, hby, hmanages⟩
    obtain rfl := national_admin_of_by hby
    cases (manages_roles_iff .NATIONAL_ADMIN).mp hmanages
  · intro request hrequest role hby
    have hrole : role = .NATIONAL_ADMIN := by
      rcases List.mem_pair.mp hrequest with rfl | rfl
      · exact national_admin_of_by hby
      · exact national_admin_of_by hby
    rw [hrole]
    decide
  · intro hsubset
    have hadmin := hsubset role_of_promoted
    cases hadmin

open escalation_pilot in
theorem administrators_only_promotion :
    AdministratorsOnly (.small "") started [registration, promotion] promoted :=
  administrators_only default_matrix_started run

end sigis.accounts
