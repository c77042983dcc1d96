import Sigis.Api.Platform
import Sigis.ExceptionRequests.Deadlines
import Sigis.Missions.Audited
import Sigis.Missions.Outcomes

open guarded relational transactional transition

namespace sigis

inductive TableName
  | establishments
  | missions
  | site_visits
  | presence_proofs
  | copresence_events
  | idempotency_records
  | used_qr_jti
  | exception_requests
  | mission_outcomes
  | audit_logs
  | role_permissions
deriving DecidableEq, Repr

/-- The tables an endpoint that requires the permission writes. -/
def Permission.writes : Permission → List TableName
  | .ESTABLISHMENT_CREATE | .ESTABLISHMENT_UPDATE => [.establishments]
  | .MISSION_CREATE | .MISSION_UPDATE => [.missions]
  | .MISSION_APPROVE | .MISSION_CANCEL | .MISSION_REASSIGN => [.missions, .audit_logs]
  | .MISSION_OUTCOME_WRITE => [.mission_outcomes, .audit_logs]
  | .VISIT_CHECKIN => [.site_visits, .presence_proofs, .idempotency_records]
  | .VISIT_HOST_CONFIRM => [.site_visits, .presence_proofs, .copresence_events, .idempotency_records, .used_qr_jti]
  | .VISIT_CHECKOUT => [.site_visits, .idempotency_records]
  | .EXCEPTION_CREATE | .EXCEPTION_UPDATE_STATUS => [.exception_requests]
  | .EXCEPTION_MANAGE => [.exception_requests, .audit_logs]
  | _ => []

/-- Whether a request of the role may write the table, under the default permissions; those of a
role are written by the technical administrator alone. -/
def TableName.MayWrite (name : TableName) (role : Role) : Prop :=
  (name = .role_permissions ∧ role = .SUPER_ADMIN) ∨
    ∃ permission ∈ default_permissions_for role, name ∈ permission.writes

instance (name : TableName) (role : Role) : Decidable (name.MayWrite role) :=
  inferInstanceAs (Decidable (_ ∨ ∃ permission ∈ default_permissions_for role, name ∈ permission.writes))

theorem may_write_super_admin (name : TableName) : name.MayWrite .SUPER_ADMIN := by
  cases name <;> decide +kernel

variable {F : Type}

/-- The table is the same on both platforms; of the role permissions, what they grant. -/
def Platform.Same (p q : Platform F) : TableName → Prop
  | .establishments => q.store.establishments = p.store.establishments
  | .missions => q.store.missions = p.store.missions
  | .site_visits => q.store.site_visits = p.store.site_visits
  | .presence_proofs => q.store.presence_proofs = p.store.presence_proofs
  | .copresence_events => q.store.copresence_events = p.store.copresence_events
  | .idempotency_records => q.store.idempotency_records = p.store.idempotency_records
  | .used_qr_jti => q.store.used_qr_jti = p.store.used_qr_jti
  | .exception_requests => q.exception_requests = p.exception_requests
  | .mission_outcomes => q.mission_outcomes = p.mission_outcomes
  | .audit_logs => q.audit_logs = p.audit_logs
  | .role_permissions => q.accounts.acl = p.accounts.acl

variable {p q u : Platform F} {name : TableName}

theorem Platform.Same.refl (p : Platform F) (name : TableName) : p.Same p name := by
  cases name <;> rfl

theorem Platform.Same.trans (h : p.Same q name) (h' : q.Same u name) : p.Same u name := by
  cases name <;> exact Eq.trans h' h

variable [LinearOrder F] [NatCast F] {w : World F} {d : accounts.Deployment} {sur : Surroundings} {user : UUID}

theorem SiteRoute.same (route : SiteRoute F) (hfresh : sur.env.Fresh p.store) (hname : name ∉ route.required.writes) :
    p.Same ((WriteEndpoint.site route).handle w sur user p).2 name := by
  have hserved : Served w p.store ⟨route.request user, sur.env⟩
      (exec w ⟨route.request user, sur.env⟩ p.store).2 := ⟨hfresh, rfl⟩
  change p.Same { p with store := (exec w ⟨route.request user, sur.env⟩ p.store).2 } name
  generalize (exec w ⟨route.request user, sur.env⟩ p.store).2 = t at hserved
  rcases hserved.outcome with rfl | ⟨r, houtcome⟩
  · exact .refl p name
  generalize hrequest : route.request user = request at houtcome
  cases route with
  | create_establishment body | update_establishment id body =>
    cases houtcome <;> cases hrequest
    · cases name <;> first | rfl | exact (hname (by simp [SiteRoute.required, Permission.writes])).elim
    all_goals next hrecord hkey => cases hkey
  | check_in id body | confirm_host id body | check_out_ep id body =>
    cases houtcome <;> cases hrequest
    · exact .refl p name
    next hdone =>
      rw [hdone.frame]
      cases name <;> first | rfl | exact (hname (by simp [SiteRoute.required, Permission.writes])).elim

theorem audit_logs_of_insert_audits_nil {logs more : Table AuditLogModel} (h : insert_audits logs [] = some more) :
    more = logs := (Option.some.inj h).symm

theorem MissionRoute.same (w : World F) (route : MissionRoute) (hfresh : sur.env.Fresh p.store)
    (hname : name ∉ route.required.writes) :
    p.Same ((WriteEndpoint.mission route : WriteEndpoint F).handle w sur user p).2 name := by
  have hcases := audited_database.run_store_cases ⟨route, sur.context user, sur.env⟩
    (⟨p.store, p.audit_logs⟩ : AuditedStore F)
  change p.Same (p.with_audited (MissionCall.serve ⟨route, sur.context user, sur.env⟩ ⟨p.store, p.audit_logs⟩).2) name
  unfold MissionCall.serve
  generalize (audited_database.run ⟨route, sur.context user, sur.env⟩ (⟨p.store, p.audit_logs⟩ : AuditedStore F)).2 = t
    at hcases
  rcases hcases with rfl | ⟨r, pending, hprepare, hcommit⟩
  · exact .refl p name
  have hserve : MissionCall.serve ⟨route, sur.context user, sur.env⟩ ⟨p.store, p.audit_logs⟩ = (.ok r, t) :=
    Database.run_eq_ok_iff.mpr ⟨pending, hprepare, hcommit⟩
  have houtcome := MissionCall.outcome_of_serve (w := w) hfresh hserve
  obtain ⟨_, hprepare', -, hlogs⟩ := MissionCall.serve_eq_ok_iff.mp hserve
  cases hprepare.symm.trans hprepare'
  rw [MissionCall.audits_eq hprepare] at hlogs
  generalize hrequest : MissionCall.request _ = request at houtcome
  obtain ⟨store, logs⟩ := t
  cases route with
  | create_mission body | update_mission id body =>
    obtain rfl := audit_logs_of_insert_audits_nil hlogs
    cases houtcome <;> cases hrequest
    · cases name <;> first | rfl | exact (hname (by simp [MissionRoute.required, Permission.writes])).elim
    all_goals next hrecord hkey => cases hkey
  | approve_mission id | cancel_mission_ep id reason | reassign_mission id inspector =>
    cases houtcome <;> cases hrequest
    · cases name <;> first | rfl | exact (hname (by simp [MissionRoute.required, Permission.writes])).elim
    all_goals next hrecord hkey => cases hkey

theorem post_mission_outcome_same (w : World F) {mission_id : UUID} {body : SubmitMissionOutcomeBody}
    (hname : name ∉ Permission.MISSION_OUTCOME_WRITE.writes) :
    p.Same ((WriteEndpoint.post_mission_outcome mission_id body : WriteEndpoint F).handle w sur user p).2 name := by
  have hcases := (reported_database F).run_store_cases (.outcome ⟨mission_id, body, sur.context user, sur.outcome_env⟩)
    ⟨p.store, p.mission_outcomes, p.audit_logs⟩
  change p.Same (p.with_reported ((reported_database F).run (.outcome ⟨mission_id, body, sur.context user,
    sur.outcome_env⟩) ⟨p.store, p.mission_outcomes, p.audit_logs⟩).2) name
  generalize ((reported_database F).run (.outcome ⟨mission_id, body, sur.context user, sur.outcome_env⟩)
    ⟨p.store, p.mission_outcomes, p.audit_logs⟩).2 = t at hcases
  rcases hcases with rfl | ⟨r, pending, hprepare, hcommit⟩
  · exact .refl p name
  obtain ⟨-, -, -, rfl⟩ := prepare_outcome_eq_ok_iff.mp hprepare
  obtain ⟨store, outcomes, logs⟩ := t
  obtain rfl : store = p.store := (Option.some.inj (ReportedStore.commit_eq_some_iff.mp hcommit).1).symm
  cases name <;> first | rfl | exact (hname (by simp [Permission.writes])).elim

theorem ExceptionRoute.same (w : World F) (route : ExceptionRoute) (hname : name ∉ route.required.writes) :
    p.Same ((WriteEndpoint.exception_request route : WriteEndpoint F).handle w sur user p).2 name := by
  have hcases := (supervised_database F).run_store_cases ⟨route, sur.context user, sur.exception_env⟩
    ⟨p.store, p.exception_requests, p.audit_logs⟩
  change p.Same (p.with_supervised (ExceptionCall.serve ⟨route, sur.context user, sur.exception_env⟩
    ⟨p.store, p.exception_requests, p.audit_logs⟩).2) name
  unfold ExceptionCall.serve
  generalize ((supervised_database F).run ⟨route, sur.context user, sur.exception_env⟩
    ⟨p.store, p.exception_requests, p.audit_logs⟩).2 = t at hcases
  rcases hcases with rfl | ⟨r, pending, hprepare, hcommit⟩
  · exact .refl p name
  obtain ⟨-, hlogs, hstore⟩ := SupervisedStore.commit_eq_some_iff.mp hcommit
  obtain ⟨store, requests, logs⟩ := t
  obtain rfl : store = p.store := hstore
  cases route with
  | create_exception id message | update_exception_status id status =>
    have hnone : pending.audits = [] := by
      obtain ⟨_, -, hreturn⟩ := bind_eq_ok_iff.mp hprepare
      cases hreturn
      rfl
    rw [hnone] at hlogs
    obtain rfl := audit_logs_of_insert_audits_nil hlogs
    cases name <;> first | rfl | exact (hname (by simp [ExceptionRoute.required, Permission.writes])).elim
  | patch_exception_request id body =>
    cases name <;> first | rfl | exact (hname (by simp [ExceptionRoute.required, Permission.writes])).elim

/-- The body of an endpoint writes no table but those of the permission it requires. -/
theorem WriteEndpoint.same (endpoint : WriteEndpoint F) (hfresh : sur.env.Fresh p.store)
    (hname : name ∉ endpoint.required.writes) : p.Same (endpoint.handle w sur user p).2 name := by
  cases endpoint with
  | site route => exact route.same hfresh hname
  | mission route => exact route.same w hfresh hname
  | post_mission_outcome mission_id body => exact post_mission_outcome_same w hname
  | exception_request route => exact route.same w hname

/-- The dependencies of the endpoint let the request through, as one of this user. -/
structure Admitted (d : accounts.Deployment) (p : Platform F) (endpoint : WriteEndpoint F) (sur : Surroundings)
    (user : UUID) : Prop where
  permitted : accounts.require_permission d sur.authenticated_at endpoint.required sur.credentials p.accounts = .ok ()
  user : accounts.current_user d sur.authenticated_at sur.credentials = .ok user

theorem Admitted.serve {endpoint : WriteEndpoint F} (h : Admitted d p endpoint sur user) (w : World F) :
    endpoint.serve w d sur p =
      ((endpoint.handle w sur user p).1.mapError .endpoint, (endpoint.handle w sur user p).2) := by
  simp only [WriteEndpoint.serve, h.permitted, h.user]

/-- A request is admitted, or one of the dependencies raises and it changes nothing. -/
theorem WriteEndpoint.refused_or_admitted (w : World F) (d : accounts.Deployment) (sur : Surroundings)
    (p : Platform F) (endpoint : WriteEndpoint F) :
    (∃ e, (accounts.require_permission d sur.authenticated_at endpoint.required sur.credentials p.accounts = .error e ∨
        accounts.current_user d sur.authenticated_at sur.credentials = .error e) ∧
      endpoint.serve w d sur p = (.error (.dependency e), p)) ∨
    ∃ user, Admitted d p endpoint sur user := by
  cases hpermitted : accounts.require_permission d sur.authenticated_at endpoint.required sur.credentials
      p.accounts with
  | error e => exact Or.inl ⟨e, Or.inl rfl, by simp only [serve, hpermitted]⟩
  | ok _ =>
    cases huser : accounts.current_user d sur.authenticated_at sur.credentials with
    | error e => exact Or.inl ⟨e, Or.inr rfl, by simp only [serve, hpermitted, huser]⟩
    | ok user => exact Or.inr ⟨user, hpermitted, huser⟩

/-- A request that is not admitted changes nothing. -/
theorem WriteEndpoint.serve_cases (w : World F) (d : accounts.Deployment) (sur : Surroundings) (p : Platform F)
    (endpoint : WriteEndpoint F) : (endpoint.serve w d sur p).2 = p ∨
      ∃ user, Admitted d p endpoint sur user ∧ (endpoint.serve w d sur p).2 = (endpoint.handle w sur user p).2 := by
  rcases endpoint.refused_or_admitted w d sur p with ⟨e, -, hserve⟩ | ⟨user, hadmitted⟩
  · exact Or.inl (congrArg Prod.snd hserve)
  · exact Or.inr ⟨user, hadmitted, congrArg Prod.snd (hadmitted.serve w)⟩

theorem accounts.BearsRole.unique {now : Int} {credentials : accounts.Credentials} {role role' : Role}
    (h : accounts.BearsRole d now credentials role) (h' : accounts.BearsRole d now credentials role') :
    role = role' := by
  obtain ⟨token, payload, htoken, hdecode, hrole⟩ := h
  obtain ⟨token', payload', htoken', hdecode', hrole'⟩ := h'
  cases htoken.symm.trans htoken'
  cases hdecode.symm.trans hdecode'
  exact Option.some.inj (hrole.symm.trans hrole')

/-- Where the guard lets a token through, it bears one of the roles. -/
theorem exists_role_of_require_roles {now : Int} {required : List Role} {credentials : accounts.Credentials}
    (h : (accounts.require_roles d now required credentials).isOk = true) :
    ∃ role ∈ required, accounts.BearsRole d now credentials role := by
  cases hguard : accounts.require_roles d now required credentials with
  | error e =>
    rw [hguard] at h
    cases h
  | ok _ =>
    unfold accounts.require_roles at hguard
    split at hguard
    · cases hguard
    · next token htoken =>
      obtain ⟨payload, hdecode, hraise⟩ := bind_eq_ok_iff.mp hguard
      obtain ⟨role, hrole, hextract⟩ := not_not.mp (raise_if_eq_ok.mp hraise)
      exact ⟨role, hrole, token, payload, htoken, hdecode, hextract⟩

/-- A request to the endpoints for roles changes what the rows grant only for the technical
administrator. -/
theorem acl_of_serve_roles {request : accounts.RolesRequest} {s t : accounts.AccountStore}
    {result : Except accounts.Error accounts.RolesAnswer} (hserve : request.serve d s = some (result, t))
    (hnot : ¬ accounts.BearsRole d request.now request.credentials .SUPER_ADMIN) : t.acl = s.acl := by
  have hdoes := accounts.does_serve hserve
  cases hgranted : request.granted d with
  | none => rw [hdoes.same fun _ h => by rw [hgranted] at h; cases h]
  | some asked =>
    obtain ⟨role, hrole, hbears⟩ := exists_role_of_require_roles (Option.filter_eq_some_iff.mp hgranted).2
    rw [(hdoes.granted asked hgranted).1]
    cases asked with
    | list | «show» | «set» | catalog => rfl
    | add | remove => exact absurd (List.mem_singleton.mp hrole ▸ hbears) hnot

/-- Only in development the guard lets a request through that has no token. -/
theorem isSome_token_of_permitted {now : Int} {required : Permission} {credentials : accounts.Credentials}
    {s : accounts.AccountStore} (htoken : d.settings.is_dev = true → credentials.token.isSome = true)
    (h : accounts.require_permission d now required credentials s = .ok ()) : credentials.token.isSome = true := by
  cases hnone : credentials.token with
  | some token => rfl
  | none =>
    simp only [accounts.require_permission, hnone] at h
    split at h
    · next hdev =>
      obtain ⟨_, hfilter⟩ := Option.isSome_iff_exists.mp hdev
      have hdevelopment := (of_decide_eq_true (Option.filter_eq_some_iff.mp hfilter).2).2
      rw [hnone] at htoken
      exact htoken hdevelopment
    · cases h

variable {event : HttpEvent F} {events : List (HttpEvent F)} {init : Platform F}

/-- The default permissions stay until the technical administrator acts. -/
theorem HttpServed.default_matrix (h : HttpServed w d p event q) (hmatrix : accounts.DefaultMatrix p.accounts)
    (hnot : ¬ event.By d .SUPER_ADMIN) : accounts.DefaultMatrix q.accounts := by
  have hkept (hacl : q.accounts.acl = p.accounts.acl) : accounts.DefaultMatrix q.accounts := by
    intro role permission
    have hsame : q.accounts.permissions = p.accounts.permissions := congrArg accounts.Acl.permissions hacl
    rw [hsame]
    exact hmatrix role permission
  cases event with
  | request endpoint sur =>
    obtain ⟨hfresh, rfl⟩ := h
    rcases endpoint.serve_cases w d sur p with hsame | ⟨user, -, hhandle⟩
    · rw [hsame]
      exact hmatrix
    · rw [hhandle] at hkept ⊢
      have hacl : p.Same (endpoint.handle w sur user p).2 .role_permissions :=
        endpoint.same hfresh (by cases endpoint.required <;> decide)
      exact hkept hacl
  | roles request =>
    obtain ⟨result, s, hserve, rfl⟩ := h
    exact hkept (acl_of_serve_roles hserve hnot)
  | restart cutoff env =>
    obtain ⟨hfresh, rfl⟩ := h
    intro role permission
    change permission ∈ (accounts.Restart.execute d p.accounts .lifespan).permissions role.value ↔ _
    rw [accounts.mem_permissions_lifespan, accounts.mem_default_grants_value, hmatrix role permission, or_self]

/-- An event that may not write a table leaves it. -/
theorem HttpServed.same (h : HttpServed w d p event q) (hmatrix : accounts.DefaultMatrix p.accounts)
    (htoken : d.settings.is_dev = true → event.Authenticated) (hroles : ∀ role, event.By d role → ¬ name.MayWrite role)
    (hrestart : name ∈ [.idempotency_records, .role_permissions] → ∀ cutoff env, event ≠ .restart cutoff env) :
    p.Same q name := by
  cases event with
  | request endpoint sur =>
    obtain ⟨hfresh, rfl⟩ := h
    rcases endpoint.serve_cases w d sur p with hsame | ⟨user, hadmitted, hhandle⟩
    · rw [hsame]
      exact .refl p name
    · rw [hhandle]
      obtain ⟨role, hbears, hgranted⟩ := accounts.exists_role_of_require_permission
        (isSome_token_of_permitted htoken hadmitted.permitted) hadmitted.permitted
      refine endpoint.same hfresh fun hwrites => hroles role hbears (Or.inr ⟨_, ?_, hwrites⟩)
      exact (hmatrix role _).mp hgranted
  | roles request =>
    obtain ⟨result, s, hserve, rfl⟩ := h
    cases name with
    | role_permissions =>
      exact acl_of_serve_roles hserve fun hbears => hroles _ hbears (may_write_super_admin _)
    | _ => rfl
  | restart cutoff env =>
    obtain ⟨hfresh, rfl⟩ := h
    have hserved : Served w p.store ⟨.delete_older_than cutoff, env⟩
        (exec w ⟨.delete_older_than cutoff, env⟩ p.store).2 := ⟨hfresh, rfl⟩
    generalize (exec w ⟨.delete_older_than cutoff, env⟩ p.store).2 = t at hserved
    rcases hserved.outcome with rfl | ⟨r, houtcome⟩
    · cases name with
      | role_permissions => exact absurd rfl (hrestart (by decide) cutoff env)
      | _ => rfl
    · cases houtcome with
      | delete_older_than =>
        cases name with
        | role_permissions | idempotency_records => exact absurd rfl (hrestart (by decide) cutoff env)
        | _ => rfl
      | replayed hkey hrecord => cases hkey

/-- Under the default permissions, a run of the platform leaves a table as it was when no request
of the run bears a role that may write it: a host writes nothing but the evidence of visits, an
inspector no mission and no establishment, and nobody in between the permissions of a role. In
development, where a header may stand for a token, every request has to carry one. -/
theorem tables_confined (hmatrix : accounts.DefaultMatrix init.accounts)
    (hrun : Execution (HttpServed w d) init events p)
    (htokens : d.settings.is_dev = true → ∀ event ∈ events, event.Authenticated)
    (hroles : ∀ event ∈ events, ∀ role, event.By d role → ¬ name.MayWrite role)
    (hrestart : name ∈ [.idempotency_records, .role_permissions] → ∀ cutoff env, .restart cutoff env ∉ events) :
    init.Same p name := by
  have hboth : accounts.DefaultMatrix p.accounts ∧ init.Same p name := by
    refine hrun.invariant_of_takes (fun q => accounts.DefaultMatrix q.accounts ∧ init.Same q name)
      ⟨hmatrix, .refl init name⟩ ?_
    rintro q event q' htakes ⟨hbefore, hsame⟩
    have hmem := htakes.mem
    have hnot : ¬ event.By d .SUPER_ADMIN := fun hby => hroles event hmem _ hby (may_write_super_admin name)
    refine ⟨htakes.taken.default_matrix hbefore hnot, hsame.trans ?_⟩
    refine htakes.taken.same hbefore (fun hdev => htokens hdev event hmem) (hroles event hmem) ?_
    rintro hname cutoff env rfl
    exact hrestart hname cutoff env hmem
  exact hboth.2

namespace pilot

/-- Every text is an identifier. -/
def deployment : accounts.Deployment :=
  { accounts.Deployment.small "" with uuid_of := fun text => some ⟨text⟩ }

/-- What a request of this user takes from its surroundings. -/
def asked (user : String) (role : Role) (tag : String) (now : Int) : Surroundings where
  credentials := { token := some (user ++ "." ++ role.value) }
  authenticated_at := now
  request_id := none
  audit_id := ⟨"audit-" ++ tag⟩
  audited_at := now
  env := surroundings tag now
  outcome_env := ⟨⟨"outcome-" ++ tag⟩, now⟩
  exception_env := ⟨⟨"exception-" ++ tag⟩, now⟩

def check_in_request : WriteEndpoint ℝ :=
  .site (.check_in ⟨"mission"⟩ ⟨0, 0, "arrive-1", .QR_STATIC⟩)

def confirm_request : WriteEndpoint ℝ :=
  .site (.confirm_host ⟨"visit-1"⟩ { mission_id := ⟨"mission"⟩, client_request_id := "confirm-1"
                                     qr_token := some ⟨"host-token"⟩ })

/-- The tables of the use cases, with the default permissions and nothing else. -/
def platform (store : Store ℝ) : Platform ℝ :=
  ⟨store, .empty, .empty, .empty, accounts.escalation_pilot.started⟩

/-- The inspector checks in, and the host confirms. -/
def requests : List (HttpEvent ℝ) :=
  [.request check_in_request (asked "inspector" .INSPECTOR "1" 10),
    .request confirm_request (asked "host" .HOST "2" 20)]

theorem bears_inspector :
    accounts.BearsRole deployment 10 (asked "inspector" .INSPECTOR "1" 10).credentials .INSPECTOR :=
  ⟨_, _, rfl, rfl, by decide⟩

theorem bears_host : accounts.BearsRole deployment 20 (asked "host" .HOST "2" 20).credentials .HOST :=
  ⟨_, _, rfl, rfl, by decide⟩

theorem admitted_check_in : Admitted deployment (platform planned) check_in_request
    (asked "inspector" .INSPECTOR "1" 10) ⟨"inspector"⟩ where
  permitted := (accounts.require_permission_eq_ok_iff bears_inspector).mpr
    ((accounts.escalation_pilot.default_matrix_started _ _).mpr (by decide +kernel))
  user := by decide

theorem admitted_confirm : Admitted deployment (platform arrived) confirm_request (asked "host" .HOST "2" 20)
    ⟨"host"⟩ where
  permitted := (accounts.require_permission_eq_ok_iff bears_host).mpr
    ((accounts.escalation_pilot.default_matrix_started _ _).mpr (by decide +kernel))
  user := by decide

theorem run_requests : Execution (HttpServed world deployment) (platform planned) requests
    (platform (confirmed "host")) := by
  have harrive : HttpServed world deployment (platform planned)
      (.request check_in_request (asked "inspector" .INSPECTOR "1" 10)) (platform arrived) := by
    refine ⟨by decide, ?_⟩
    rw [admitted_check_in.serve]
    exact congrArg platform served_arrive.2
  have hconfirm : HttpServed world deployment (platform arrived)
      (.request confirm_request (asked "host" .HOST "2" 20)) (platform (confirmed "host")) := by
    refine ⟨by decide, ?_⟩
    rw [admitted_confirm.serve]
    exact congrArg platform (served_confirm "host").2
  exact .cons harrive (.single hconfirm)

end pilot

theorem pilot_missions_confined :
    (pilot.platform pilot.planned).Same (pilot.platform (pilot.confirmed "host")) .missions :=
  tables_confined accounts.escalation_pilot.default_matrix_started pilot.run_requests
    (fun _ => by simp [pilot.requests, HttpEvent.Authenticated, pilot.asked])
    (by
      intro event hevent role hby
      rcases List.mem_pair.mp hevent with rfl | rfl
      · obtain rfl := hby.unique pilot.bears_inspector
        decide +kernel
      · obtain rfl := hby.unique pilot.bears_host
        decide +kernel)
    (by simp)

end sigis
