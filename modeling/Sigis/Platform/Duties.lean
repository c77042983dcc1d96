import Sigis.Platform.Confinement
import Sigis.Visits.Proofs

open guarded relational transactional transition

namespace sigis

variable {F : Type} [LinearOrder F] [NatCast F] {w : World F} {d : accounts.Deployment} {init p q s : Platform F}
  {event : HttpEvent F} {events : List (HttpEvent F)} {sur : Surroundings} {user : UUID} {v : SiteVisitModel F}

/-- The body of an endpoint leaves the tables of the use cases, or serves a request to one of them. -/
theorem WriteEndpoint.store_served (endpoint : WriteEndpoint F) (hfresh : sur.env.Fresh p.store) :
    (endpoint.handle w sur user p).2.store = p.store ∨
      ∃ call, Served w p.store call (endpoint.handle w sur user p).2.store := by
  cases endpoint with
  | site route => exact Or.inr ⟨_, hfresh, rfl⟩
  | mission route =>
    rcases audited_database.run_store_cases ⟨route, sur.context user, sur.env⟩
      (⟨p.store, p.audit_logs⟩ : AuditedStore F) with hsame | ⟨r, pending, hprepare, hcommit⟩
    · exact Or.inl (congrArg AuditedStore.store hsame)
    · have houtcome := MissionCall.outcome_of_serve (w := w) hfresh
        (Database.run_eq_ok_iff.mpr ⟨pending, hprepare, hcommit⟩)
      exact Or.inr ⟨_, houtcome.served hfresh⟩
  | post_mission_outcome mission_id body =>
    rcases (reported_database F).run_store_cases (.outcome ⟨mission_id, body, sur.context user, sur.outcome_env⟩)
      ⟨p.store, p.mission_outcomes, p.audit_logs⟩ with hsame | ⟨r, pending, hprepare, hcommit⟩
    · exact Or.inl (congrArg ReportedStore.store hsame)
    · obtain ⟨-, -, -, rfl⟩ := prepare_outcome_eq_ok_iff.mp hprepare
      exact Or.inl (Option.some.inj (ReportedStore.commit_eq_some_iff.mp hcommit).1).symm
  | exception_request route =>
    rcases (supervised_database F).run_store_cases ⟨route, sur.context user, sur.exception_env⟩
      ⟨p.store, p.exception_requests, p.audit_logs⟩ with hsame | ⟨r, pending, hprepare, hcommit⟩
    · exact Or.inl (congrArg SupervisedStore.store hsame)
    · exact Or.inl (SupervisedStore.commit_eq_some_iff.mp hcommit).2.2

theorem HttpServed.store_served (h : HttpServed w d p event q) :
    q.store = p.store ∨ ∃ call, Served w p.store call q.store := by
  cases event with
  | request endpoint sur =>
    obtain ⟨hfresh, rfl⟩ := h
    rcases endpoint.serve_cases w d sur p with hsame | ⟨user, -, hhandle⟩
    · exact Or.inl (congrArg Platform.store hsame)
    · rw [hhandle]
      exact endpoint.store_served hfresh
  | roles request =>
    obtain ⟨result, t, -, rfl⟩ := h
    exact Or.inl rfl
  | restart cutoff env =>
    obtain ⟨hfresh, rfl⟩ := h
    exact Or.inr ⟨_, hfresh, rfl⟩

/-- A run of the platform is, on the tables of the use cases, a run of the use cases. -/
theorem exists_run_of_platform (hrun : Execution (HttpServed w d) init events s) :
    ∃ calls, Run w init.store calls s.store :=
  hrun.exists_image Platform.store fun h => h.store_served

/-- A visit is written by an admitted request to one of the routes of a site. -/
theorem HttpServed.visit_step (h : HttpServed w d p event q) (hv : v ∈ q.store.site_visits.rows)
    (hnew : v ∉ p.store.site_visits.rows) : ∃ route sur user r, event = .request (.site route) sur ∧
      sur.env.Fresh p.store ∧ Admitted d p (.site route) sur user ∧
      Outcome w ⟨route.request user, sur.env⟩ p.store r q.store := by
  cases event with
  | request endpoint sur =>
    obtain ⟨hfresh, rfl⟩ := h
    rcases endpoint.serve_cases w d sur p with hsame | ⟨user, hadmitted, hhandle⟩
    · rw [hsame] at hv
      exact absurd hv hnew
    rw [hhandle] at hv ⊢
    have hother (hname : TableName.site_visits ∉ endpoint.required.writes) : False := by
      have hsame : p.Same (endpoint.handle w sur user p).2 .site_visits := endpoint.same hfresh hname
      have hrows : (endpoint.handle w sur user p).2.store.site_visits = p.store.site_visits := hsame
      rw [hrows] at hv
      exact hnew hv
    cases endpoint with
    | site route =>
      have hserved : Served w p.store ⟨route.request user, sur.env⟩
          ((WriteEndpoint.site route).handle w sur user p).2.store := ⟨hfresh, rfl⟩
      rcases hserved.outcome with hsame | ⟨r, houtcome⟩
      · rw [hsame] at hv
        exact absurd hv hnew
      · exact ⟨route, sur, user, r, rfl, hfresh, hadmitted, houtcome⟩
    | mission route =>
      cases route <;>
        exact (hother (by simp [WriteEndpoint.required, MissionRoute.required, Permission.writes])).elim
    | post_mission_outcome mission_id body => exact (hother (by simp [WriteEndpoint.required, Permission.writes])).elim
    | exception_request route =>
      cases route <;> exact (hother (by simp [WriteEndpoint.required, ExceptionRoute.required, Permission.writes])).elim
  | roles request =>
    obtain ⟨result, t, -, rfl⟩ := h
    exact absurd hv hnew
  | restart cutoff env =>
    obtain ⟨hfresh, rfl⟩ := h
    have hserved : Served w p.store ⟨.delete_older_than cutoff, env⟩
        (exec w ⟨.delete_older_than cutoff, env⟩ p.store).2 := ⟨hfresh, rfl⟩
    rcases hserved.outcome with hsame | ⟨r, houtcome⟩
    · rw [hsame] at hv
      exact absurd hv hnew
    · rcases houtcome.visit_cases hv with hold | ⟨_, _, _, _, hrequest, -⟩ | ⟨_, _, _, _, _, _, _, _, _, hrequest, -⟩ |
        ⟨_, _, _, hrequest, -⟩
      · exact absurd hold hnew
      all_goals cases hrequest

omit [NatCast F] in
/-- The row of a visit saved by a check-in is of the mission of the request. -/
theorem CheckedIn.mission_saved_row {env : Env} {cmd : CheckInInspectorCommand F} {x y : Store F} {m : MissionModel}
    {est : EstablishmentModel F} {visit : SiteVisit F} (h : CheckedIn w env cmd x m est visit y)
    (hfresh : env.Fresh x) : (x.saved_row visit).mission_id = cmd.mission_id := (h.saved_row hfresh).1

/-- In every run from a platform without visits, a visit began with an admitted check-in by the
inspector of its mission. -/
theorem exists_check_in_request (hvisits : init.store.site_visits.rows = [])
    (hrun : Execution (HttpServed w d) init events s) (hv : v ∈ s.store.site_visits.rows) :
    ∃ p sur body user q m, Takes (HttpServed w d) init events s p
        (.request (.site (.check_in v.mission_id body)) sur) q ∧
      Admitted d p (.site (.check_in v.mission_id body)) sur user ∧ (∀ u ∈ p.store.site_visits.rows, u.id ≠ v.id) ∧
      (∃ u ∈ q.store.site_visits.rows, u.id = v.id) ∧ s.store.missions.get v.mission_id = some m ∧
      m.inspector_id = user := by
  have hinit : ¬ ∃ u ∈ init.store.site_visits.rows, u.id = v.id := by simp [hvisits]
  obtain ⟨p, event, q, htakes, hbefore, u, hu, hid⟩ :=
    hrun.exists_origin (P := fun s => ∃ u ∈ s.store.site_visits.rows, u.id = v.id) hinit ⟨v, hv, rfl⟩
  have hnew : u ∉ p.store.site_visits.rows := fun hold => hbefore ⟨u, hold, hid⟩
  obtain ⟨route, sur, user, r, rfl, hfresh, hadmitted, houtcome⟩ := htakes.taken.visit_step hu hnew
  rcases houtcome.visit_cases hu with hold | ⟨cmd, m, est, visit, hrequest, hin, rfl⟩ |
    ⟨_, confirmed, _, _, _, _, _, _, _, -, hconfirmed, rfl⟩ | ⟨_, closed, _, -, hout, rfl⟩
  · exact absurd hold hnew
  · cases route with
    | check_in mission_id body =>
      cases hrequest
      obtain ⟨later, hafter⟩ := htakes.after
      obtain ⟨_, hcalls⟩ := exists_run_of_platform hafter
      obtain ⟨v', hv', hadvances⟩ := visit_advances_of_run hcalls hu
      obtain rfl : v' = v := s.store.site_visits.eq_of_key hv' hv (hadvances.id.trans hid)
      have hmission : v'.mission_id = mission_id := hadvances.mission_id.trans (hin.mission_saved_row hfresh)
      obtain ⟨m', hm', hevolves⟩ := mission_evolves_of_run (.cons (houtcome.served hfresh) hcalls) hin.admits.mission
      subst hmission
      exact ⟨p, sur, body, user, q, m', htakes, hadmitted, fun u hu hsame => hbefore ⟨u, hu, hsame⟩, ⟨_, hu, hid⟩, hm',
        hevolves.inspector_id.trans hin.admits.inspector⟩
    | create_establishment | update_establishment | confirm_host | check_out_ep => cases hrequest
  · exact absurd ⟨confirmed, hconfirmed.visits.stored, hid⟩ hbefore
  · exact absurd ⟨closed, hout.visits.stored, hid⟩ hbefore

/-- A validated visit was confirmed by an admitted request, of which it has a proof. -/
theorem exists_confirm_request (hvisits : init.store.site_visits.rows = [])
    (hrun : Execution (HttpServed w d) init events s) (hv : v ∈ s.store.site_visits.rows)
    (hstage : SiteVisitStatus.COPRESENCE_OK.stage ≤ v.status.stage) :
    ∃ p sur body user q proof, Takes (HttpServed w d) init events s p
        (.request (.site (.confirm_host v.id body)) sur) q ∧
      Admitted d p (.site (.confirm_host v.id body)) sur user ∧ proof ∈ s.store.proofs_of v.id ∧
      proof ∉ p.store.presence_proofs.rows ∧ proof ∈ q.store.presence_proofs.rows ∧ proof.actor_user_id = user := by
  have hinit : ¬ ∃ u ∈ init.store.site_visits.rows, u.id = v.id ∧
      SiteVisitStatus.COPRESENCE_OK.stage ≤ u.status.stage := by simp [hvisits]
  obtain ⟨p, event, q, htakes, hbefore, u, hu, hid, hustage⟩ := hrun.exists_origin
    (P := fun s => ∃ u ∈ s.store.site_visits.rows, u.id = v.id ∧
      SiteVisitStatus.COPRESENCE_OK.stage ≤ u.status.stage) hinit ⟨v, hv, rfl, hstage⟩
  have hnew : u ∉ p.store.site_visits.rows := fun hold => hbefore ⟨u, hold, hid, hustage⟩
  obtain ⟨route, sur, user, r, rfl, hfresh, hadmitted, houtcome⟩ := htakes.taken.visit_step hu hnew
  rcases houtcome.visit_cases hu with hold | ⟨_, _, _, _, -, hin, rfl⟩ |
    ⟨cmd, confirmed, m, est, mode, host, consumed, latitude, longitude, hrequest, hconfirmed, rfl⟩ |
    ⟨_, closed, _, -, hout, rfl⟩
  · exact absurd hold hnew
  · rw [(hin.saved_row hfresh).2.1] at hustage
    exact absurd hustage (by decide)
  · cases route with
    | confirm_host site_visit_id body =>
      cases hrequest
      obtain ⟨-, hkey⟩ := Table.get_eq_some_iff.mp hconfirmed.admits.visit
      have hvisit : site_visit_id = v.id := hkey.symm.trans hid
      obtain ⟨later, hafter⟩ := htakes.after
      obtain ⟨_, hcalls⟩ := exists_run_of_platform hafter
      obtain ⟨hfree, hrows⟩ := Table.insert_eq_some_iff.mp hconfirmed.proofs
      subst hvisit
      have hadded : _ ∈ q.store.presence_proofs.rows := hrows ▸ List.mem_append_right _ List.mem_cons_self
      exact ⟨p, sur, body, user, q, _, htakes, hadmitted, List.mem_filter.mpr ⟨mem_proofs_of_run hcalls hadded,
        decide_eq_true hid⟩, fun hold => hfree _ hold (clash_of_key rfl), hadded, rfl⟩
    | create_establishment | update_establishment | check_in | check_out_ep => cases hrequest
  · exact absurd ⟨closed, hout.visits.stored, hid, by rw [hout.admits.validated]⟩ hbefore

theorem role_of_visit_checkin : ∀ role : Role, .VISIT_CHECKIN ∈ default_permissions_for role →
    role ≠ .SUPER_ADMIN → role = .INSPECTOR := by
  intro role
  cases role <;> decide +kernel

theorem role_of_visit_host_confirm : ∀ role : Role, .VISIT_HOST_CONFIRM ∈ default_permissions_for role →
    role ≠ .SUPER_ADMIN → role = .HOST := by
  intro role
  cases role <;> decide +kernel

/-- While the technical administrator does not act, the default permissions stay in place. -/
theorem default_matrix_before (hmatrix : accounts.DefaultMatrix init.accounts)
    (htakes : Takes (HttpServed w d) init events s p event q)
    (hnot : ∀ event ∈ events, ¬ event.By d .SUPER_ADMIN) : accounts.DefaultMatrix p.accounts :=
  Execution.invariant_before (fun p => accounts.DefaultMatrix p.accounts) htakes hmatrix
    fun _ event _ htaken hbefore => htaken.taken.default_matrix hbefore (hnot event htaken.mem)

/-- What a request is admitted for, its role is granted. -/
theorem exists_role_of_admitted {endpoint : WriteEndpoint F}
    (hmatrix : accounts.DefaultMatrix init.accounts)
    (htakes : Takes (HttpServed w d) init events s p (.request endpoint sur) q)
    (htokens : d.settings.is_dev = true → ∀ event ∈ events, event.Authenticated)
    (hnot : ∀ event ∈ events, ¬ event.By d .SUPER_ADMIN) (hadmitted : Admitted d p endpoint sur user) :
    ∃ role, (HttpEvent.request endpoint sur).By d role ∧ endpoint.required ∈ default_permissions_for role ∧
      role ≠ .SUPER_ADMIN := by
  obtain ⟨role, hbears, hgranted⟩ :=
    accounts.exists_role_of_require_permission
      (isSome_token_of_permitted (fun hdev => htokens hdev _ htakes.mem) hadmitted.permitted) hadmitted.permitted
  refine ⟨role, hbears, (default_matrix_before hmatrix htakes hnot role _).mp hgranted, ?_⟩
  rintro rfl
  exact hnot _ htakes.mem hbears

/-- In the run, the user began the visit by a check-in for its mission, under this role. -/
def ArrivedBy (w : World F) (d : accounts.Deployment) (init : Platform F) (events : List (HttpEvent F))
    (s : Platform F) (v : SiteVisitModel F) (user : UUID) (role : Role) : Prop :=
  ∃ p sur body q,
    Takes (HttpServed w d) init events s p (.request (.site (.check_in v.mission_id body)) sur) q ∧
    (∀ u ∈ p.store.site_visits.rows, u.id ≠ v.id) ∧ (∃ u ∈ q.store.site_visits.rows, u.id = v.id) ∧
    (HttpEvent.request (.site (.check_in v.mission_id body)) sur).Of d user ∧
    (HttpEvent.request (.site (.check_in v.mission_id body)) sur).By d role

/-- In the run, the actor of the proof confirmed the visit, which recorded the proof, under this role. -/
def ConfirmedBy (w : World F) (d : accounts.Deployment) (init : Platform F) (events : List (HttpEvent F))
    (s : Platform F) (v : SiteVisitModel F) (proof : PresenceProofModel F) (role : Role) : Prop :=
  ∃ p sur body q, Takes (HttpServed w d) init events s p (.request (.site (.confirm_host v.id body)) sur) q ∧
    proof ∉ p.store.presence_proofs.rows ∧ proof ∈ q.store.presence_proofs.rows ∧
    (HttpEvent.request (.site (.confirm_host v.id body)) sur).Of d proof.actor_user_id ∧
    (HttpEvent.request (.site (.confirm_host v.id body)) sur).By d role

/-- Under the default permissions, in every run of the platform where each user keeps to one role
and the technical administrator does not act, a validated visit took two people: the inspector of
its mission, who checked in for it, and a host, whose confirmation of the visit has a proof. In
development every request has to carry a token. -/
theorem validated_by_two (hvisits : init.store.site_visits.rows = [])
    (hmatrix : accounts.DefaultMatrix init.accounts) (hrun : Execution (HttpServed w d) init events s)
    (htokens : d.settings.is_dev = true → ∀ event ∈ events, event.Authenticated)
    (hnot : ∀ event ∈ events, ¬ event.By d .SUPER_ADMIN)
    (hroles : ∀ event ∈ events, ∀ other ∈ events, ∀ user role role', event.Of d user → other.Of d user →
      event.By d role → other.By d role' → role = role')
    (hv : v ∈ s.store.site_visits.rows) (hstage : SiteVisitStatus.COPRESENCE_OK.stage ≤ v.status.stage) :
    ∃ m proof, s.store.missions.get v.mission_id = some m ∧ proof ∈ s.store.proofs_of v.id ∧
      proof.actor_user_id ≠ m.inspector_id ∧ ArrivedBy w d init events s v m.inspector_id .INSPECTOR ∧
      ConfirmedBy w d init events s v proof .HOST := by
  obtain ⟨p, sur, body, inspector, q, m, harrival, hinspector, hbefore, hbegun, hm, rfl⟩ :=
    exists_check_in_request hvisits hrun hv
  obtain ⟨p', sur', body', host, q', proof, hconfirmation, hhost, hproof, hnew, hadded, rfl⟩ :=
    exists_confirm_request hvisits hrun hv hstage
  obtain ⟨role, hby, hgranted, hadmin⟩ := exists_role_of_admitted hmatrix harrival htokens hnot hinspector
  obtain ⟨role', hby', hgranted', hadmin'⟩ := exists_role_of_admitted hmatrix hconfirmation htokens hnot hhost
  obtain rfl := role_of_visit_checkin role hgranted hadmin
  obtain rfl := role_of_visit_host_confirm role' hgranted' hadmin'
  refine ⟨m, proof, hm, hproof, ?_, ⟨p, sur, body, q, harrival, hbefore, hbegun, hinspector.user, hby⟩,
    ⟨p', sur', body', q', hconfirmation, hnew, hadded, hhost.user, hby'⟩⟩
  intro hsame
  have huser : (HttpEvent.request (.site (.confirm_host v.id body')) sur').Of d m.inspector_id := by
    rw [← hsame]
    exact hhost.user
  cases hroles _ harrival.mem _ hconfirmation.mem _ _ _ hinspector.user huser hby hby'

theorem pilot_validated_by_two : ∃ m proof,
    (pilot.confirmed "host").missions.get ⟨"mission"⟩ = some m ∧
      proof ∈ (pilot.confirmed "host").proofs_of ⟨"visit-1"⟩ ∧ proof.actor_user_id ≠ m.inspector_id ∧
      ArrivedBy pilot.world pilot.deployment (pilot.platform pilot.planned) pilot.requests
        (pilot.platform (pilot.confirmed "host")) pilot.confirmed_visit m.inspector_id .INSPECTOR ∧
      ConfirmedBy pilot.world pilot.deployment (pilot.platform pilot.planned) pilot.requests
        (pilot.platform (pilot.confirmed "host")) pilot.confirmed_visit proof .HOST := by
  refine validated_by_two rfl accounts.escalation_pilot.default_matrix_started pilot.run_requests
    (fun _ => by simp [pilot.requests, HttpEvent.Authenticated, pilot.asked]) ?_ ?_ (v := pilot.confirmed_visit)
    (List.mem_singleton.mpr rfl) (by decide)
  · intro event hevent hby
    rcases List.mem_pair.mp hevent with rfl | rfl
    · cases hby.unique pilot.bears_inspector
    · cases hby.unique pilot.bears_host
  · intro event hevent other hother user role role' hof hof' hby hby'
    rcases List.mem_pair.mp hevent with rfl | rfl <;> rcases List.mem_pair.mp hother with rfl | rfl
    · exact hby.unique hby'
    · obtain rfl := Except.ok.inj (hof.symm.trans pilot.admitted_check_in.user)
      exact absurd (Except.ok.inj (hof'.symm.trans pilot.admitted_confirm.user)) (by decide)
    · obtain rfl := Except.ok.inj (hof.symm.trans pilot.admitted_confirm.user)
      exact absurd (Except.ok.inj (hof'.symm.trans pilot.admitted_check_in.user)) (by decide)
    · exact hby.unique hby'

end sigis
