import Sigis.Api.Audit
import Sigis.Platform.Confinement

open csv guarded paging relational transactional transition

namespace sigis

section export_csv

/-- Whatever is in the log, quotes, commas and line ends included: the file that is exported is
read back as a header and one row for each of the exported entries. These are entries the filters
select, each once, the newest first; the headers of the answer count them and those selected, and
an entry that is selected is only left out by ten thousand others that are no older. -/
theorem audit_export_read_back (plan : Plan AuditLogModel.order_key) (float_repr : ℚ → String)
    (audit_logs : Table AuditLogModel) (filters : AuditListFilters) :
    ∃ entries : List AuditLogModel,
      read_csv_file (export_audit_csv plan float_repr audit_logs filters).content =
        some (audit_csv_header :: entries.map fun e => audit_csv_row (audit_log_to_domain float_repr e)) ∧
      (∀ e ∈ entries, e ∈ audit_logs.rows ∧ filters.selects float_repr e) ∧ entries.Nodup ∧
      (entries.Pairwise fun a b => b.created_at.wall ≤ a.created_at.wall) ∧
      (export_audit_csv plan float_repr audit_logs filters).rows_exported = entries.length ∧
      (export_audit_csv plan float_repr audit_logs filters).total_matching =
        (audit_logs.rows.filter (filters.selects float_repr)).length ∧
      ∀ e ∈ audit_logs.rows, filters.selects float_repr e → e ∉ entries →
        entries.length = 10000 ∧ ∀ a ∈ entries, e.created_at.wall ≤ a.created_at.wall := by
  let selected := AuditLogRepositoryImpl.audit_filter_stmt float_repr audit_logs filters
  have hselected : selected.Nodup := audit_logs.nodup.filter _
  refine ⟨plan.page selected 0 MAX_EXPORT_ROWS, read_export_audit_csv, ?_, ?_, pairwise_page plan,
    List.length_map _, rfl, ?_⟩
  · exact fun e he => List.mem_filter.mp (mem_of_mem_page he)
  · have hpage := ((plan.perm selected).nodup_iff.mpr hselected).sublist (List.drop_sublist 0 _)
    exact hpage.sublist (List.take_sublist _ _)
  · intro e he hselects hout
    have hmem : e ∈ selected := List.mem_filter.mpr ⟨he, hselects⟩
    constructor
    · by_contra hlength
      refine hout ((page_perm plan ?_).mem_iff.mpr hmem)
      rw [length_page, MAX_EXPORT_ROWS] at hlength
      rw [MAX_EXPORT_ROWS]
      omega
    · intro a ha
      have hle : a.order_key ≤ e.order_key := key_le_of_not_mem_page ha hmem hout
      exact hle

end export_csv

variable {F : Type}

/-- The entries a request leaves when it is answered. -/
def WriteEndpoint.entries (endpoint : WriteEndpoint F) (sur : Surroundings) (user : UUID) (r : Response F) :
    List AuditLogModel :=
  match endpoint, r with
  | .mission route, _ => MissionCall.entries ⟨route, sur.context user, sur.env⟩
  | .post_mission_outcome mission_id body, _ =>
    [OutcomeCall.entry ⟨mission_id, body, sur.context user, sur.outcome_env⟩]
  | .exception_request (.patch_exception_request exception_id _), .payload answer =>
    [write_audit (sur.context user) "exception.patch" "exception_request" exception_id
      [("status", (answer.get "status").getD .null)]]
  | _, _ => []

variable [LinearOrder F] [NatCast F] {w : World F} {d : accounts.Deployment} {sur : Surroundings} {user : UUID}
  {init p q s : Platform F} {endpoint : WriteEndpoint F} {r : Response F} {event : HttpEvent F}
  {events : List (HttpEvent F)}

omit [LinearOrder F] [NatCast F] in
theorem ExceptionCall.audits_eq {call : ExceptionCall} {x : SupervisedStore F} {answer : Dict}
    {pending : ExceptionPending} (h : call.prepare x = .ok (answer, pending))
    (hcontext : call.context = sur.context user) :
    pending.audits =
      (WriteEndpoint.exception_request call.route : WriteEndpoint F).entries sur user (.payload answer) := by
  obtain ⟨route, context, env⟩ := call
  obtain rfl : context = sur.context user := hcontext
  cases route with
  | create_exception mission_id message =>
    obtain ⟨m, -, -, rfl⟩ := create_exception_eq_ok_iff.mp h
    rfl
  | update_exception_status exception_id status =>
    obtain ⟨row, -, -, rfl⟩ := update_exception_status_eq_ok_iff.mp h
    rfl
  | patch_exception_request exception_id body =>
    obtain ⟨row, exc, -, -, rfl, rfl⟩ := patch_exception_request_eq_ok_iff.mp h
    rfl

/-- The log after a request that was answered. -/
theorem WriteEndpoint.audit_logs_of_handle (h : endpoint.handle w sur user p = (.ok r, q)) :
    q.audit_logs.rows = p.audit_logs.rows ++ (endpoint.entries sur user r).map .stored := by
  cases endpoint with
  | site route =>
    obtain ⟨-, rfl⟩ := Prod.mk.inj h
    exact (List.append_nil _).symm
  | mission route =>
    obtain ⟨hresult, rfl⟩ := Prod.mk.inj h
    obtain ⟨pending, hprepare, -, hlogs⟩ := MissionCall.serve_eq_ok_iff.mp (Prod.ext hresult rfl)
    rw [MissionCall.audits_eq hprepare] at hlogs
    exact rows_insert_audits hlogs
  | post_mission_outcome mission_id body =>
    obtain ⟨hresult, rfl⟩ := Prod.mk.inj h
    obtain ⟨pending, hprepare, hcommit⟩ := Database.run_eq_ok_iff.mp (Prod.ext hresult rfl)
    obtain ⟨-, -, -, rfl⟩ := prepare_outcome_eq_ok_iff.mp hprepare
    exact rows_insert_audits (ReportedStore.commit_eq_some_iff.mp hcommit).2.2
  | exception_request route =>
    obtain ⟨hresult, rfl⟩ := Prod.mk.inj h
    obtain ⟨answer, hserve, rfl⟩ := map_eq_ok_iff.mp hresult
    obtain ⟨pending, hprepare, hcommit⟩ := Database.run_eq_ok_iff.mp (Prod.ext hserve rfl)
    have hlogs := (SupervisedStore.commit_eq_some_iff.mp hcommit).2.1
    rw [ExceptionCall.audits_eq hprepare rfl] at hlogs
    exact rows_insert_audits hlogs

/-- A request that was refused leaves everything as it was. -/
theorem WriteEndpoint.eq_of_handle_error {e : Error} (h : endpoint.handle w sur user p = (.error e, q)) : q = p := by
  cases endpoint with
  | site route =>
    obtain ⟨hresult, rfl⟩ := Prod.mk.inj h
    exact congrArg (fun store => { p with store := store }) (Database.store_of_run_eq_error (Prod.ext hresult rfl))
  | mission route =>
    obtain ⟨hresult, rfl⟩ := Prod.mk.inj h
    exact congrArg p.with_audited (Database.store_of_run_eq_error (Prod.ext hresult rfl))
  | post_mission_outcome mission_id body =>
    obtain ⟨hresult, rfl⟩ := Prod.mk.inj h
    exact congrArg p.with_reported (Database.store_of_run_eq_error (Prod.ext hresult rfl))
  | exception_request route =>
    obtain ⟨hresult, rfl⟩ := Prod.mk.inj h
    exact congrArg p.with_supervised (Database.store_of_run_eq_error (Prod.ext (map_eq_error hresult) rfl))

/-- A request is answered, and leaves its entries; or it leaves everything as it was. -/
theorem WriteEndpoint.serve_answered (w : World F) (d : accounts.Deployment) (sur : Surroundings) (p : Platform F)
    (endpoint : WriteEndpoint F) : (∃ e, endpoint.serve w d sur p = (.error e, p)) ∨
      ∃ user r q, Admitted d p endpoint sur user ∧ endpoint.handle w sur user p = (.ok r, q) ∧
        endpoint.serve w d sur p = (.ok r, q) := by
  rcases endpoint.refused_or_admitted w d sur p with ⟨e, -, hserve⟩ | ⟨user, hadmitted⟩
  · exact Or.inl ⟨_, hserve⟩
  have hserve := hadmitted.serve w
  cases hhandle : endpoint.handle w sur user p with
  | mk result q =>
    rw [hhandle] at hserve
    cases result with
    | error e =>
      obtain rfl := WriteEndpoint.eq_of_handle_error hhandle
      exact Or.inl ⟨.endpoint e, hserve⟩
    | ok r => exact Or.inr ⟨user, r, q, hadmitted, hhandle, hserve⟩

/-- The request of the step is admitted as one of this user, and answered. -/
structure Answers (w : World F) (d : accounts.Deployment) (p : Platform F) (endpoint : WriteEndpoint F)
    (sur : Surroundings) (user : UUID) (r : Response F) (q : Platform F) : Prop where
  admitted : Admitted d p endpoint sur user
  served : endpoint.serve w d sur p = (.ok r, q)

theorem Admitted.answers (h : Admitted d p endpoint sur user) (hhandle : endpoint.handle w sur user p = (.ok r, q)) :
    Answers w d p endpoint sur user r q where
  admitted := h
  served := by
    rw [h.serve w, hhandle]
    rfl

theorem Answers.handle (h : Answers w d p endpoint sur user r q) : endpoint.handle w sur user p = (.ok r, q) := by
  obtain ⟨hresult, hq⟩ := Prod.mk.inj ((h.admitted.serve w).symm.trans h.served)
  exact Prod.ext (mapError_eq_ok.mp hresult) hq

theorem Answers.audit_logs (h : Answers w d p endpoint sur user r q) :
    q.audit_logs.rows = p.audit_logs.rows ++ (endpoint.entries sur user r).map .stored :=
  WriteEndpoint.audit_logs_of_handle h.handle

/-- The log only grows, and only by the entries of an answered request. -/
theorem HttpServed.audit_logs_cases (h : HttpServed w d p event q) : q.audit_logs.rows = p.audit_logs.rows ∨
    ∃ endpoint sur user r, event = .request endpoint sur ∧ Answers w d p endpoint sur user r q := by
  cases event with
  | request endpoint sur =>
    obtain ⟨-, rfl⟩ := h
    rcases endpoint.serve_answered w d sur p with ⟨e, hserve⟩ | ⟨user, r, q, hadmitted, -, hserve⟩
    · exact Or.inl (by rw [hserve])
    · rw [hserve]
      exact Or.inr ⟨endpoint, sur, user, r, rfl, hadmitted, hserve⟩
  | roles request =>
    obtain ⟨result, t, -, rfl⟩ := h
    exact Or.inl rfl
  | restart cutoff env =>
    obtain ⟨-, rfl⟩ := h
    exact Or.inl rfl

theorem audit_logs_kept (hrun : Execution (HttpServed w d) init events s) :
    init.audit_logs.rows ⊆ s.audit_logs.rows := by
  refine hrun.invariant (fun q => init.audit_logs.rows ⊆ q.audit_logs.rows) ?_ (List.Subset.refl _)
  intro p event q hkept hstep
  rcases hstep.audit_logs_cases with hsame | ⟨endpoint, sur, user, r, -, hanswers⟩
  · rwa [hsame]
  · rw [hanswers.audit_logs]
    exact List.Subset.trans hkept (List.subset_append_left _ _)

/-- What the log holds after a run that began without one. -/
theorem mem_audit_logs_iff (hlogs : init.audit_logs.rows = []) (hrun : Execution (HttpServed w d) init events s)
    {e : AuditLogModel} : e ∈ s.audit_logs.rows ↔ ∃ p endpoint sur user r q,
      Takes (HttpServed w d) init events s p (.request endpoint sur) q ∧ Answers w d p endpoint sur user r q ∧
      ∃ entry ∈ endpoint.entries sur user r, e = entry.stored := by
  constructor
  · intro he
    have hinit : ¬ e ∈ init.audit_logs.rows := by simp [hlogs]
    obtain ⟨p, event, q, htakes, hbefore, hafter⟩ :=
      hrun.exists_origin (P := fun s => e ∈ s.audit_logs.rows) hinit he
    rcases htakes.taken.audit_logs_cases with hsame | ⟨endpoint, sur, user, r, rfl, hanswers⟩
    · rw [hsame] at hafter
      exact absurd hafter hbefore
    · rw [hanswers.audit_logs] at hafter
      obtain ⟨entry, hentry, rfl⟩ := List.mem_map.mp ((List.mem_append.mp hafter).resolve_left hbefore)
      exact ⟨p, endpoint, sur, user, r, q, htakes, hanswers, entry, hentry, rfl⟩
  · rintro ⟨p, endpoint, sur, user, r, q, htakes, hanswers, entry, hentry, rfl⟩
    obtain ⟨later, hafter⟩ := htakes.after
    refine audit_logs_kept hafter ?_
    rw [hanswers.audit_logs]
    exact List.mem_append_right _ (List.mem_map_of_mem hentry)

/-- After every run of the platform that began with an empty log: an export that is not cut off is
read back as one row for each entry the filters select, and these are the entries of the approvals,
cancellations, reassignments, reports and edits of exception requests that were answered, each with
the user whose request it was, the time and what it was about. -/
theorem trail_exported (hlogs : init.audit_logs.rows = []) (hrun : Execution (HttpServed w d) init events s)
    (plan : Plan AuditLogModel.order_key) (float_repr : ℚ → String) (filters : AuditListFilters)
    (hcap : (export_audit_csv plan float_repr s.audit_logs filters).total_matching ≤ MAX_EXPORT_ROWS) :
    ∃ entries : List AuditLogModel, entries.Nodup ∧
      read_csv_file (export_audit_csv plan float_repr s.audit_logs filters).content =
        some (audit_csv_header :: entries.map fun e => audit_csv_row (audit_log_to_domain float_repr e)) ∧
      ∀ e, e ∈ entries ↔ filters.selects float_repr e = true ∧ ∃ p endpoint sur user r q,
        Takes (HttpServed w d) init events s p (.request endpoint sur) q ∧ Answers w d p endpoint sur user r q ∧
        ∃ entry ∈ endpoint.entries sur user r, e = entry.stored := by
  let selected := AuditLogRepositoryImpl.audit_filter_stmt float_repr s.audit_logs filters
  have hpage : (plan.page selected 0 MAX_EXPORT_ROWS).Perm selected := page_perm plan hcap
  refine ⟨plan.page selected 0 MAX_EXPORT_ROWS, hpage.nodup_iff.mpr (s.audit_logs.nodup.filter _),
    read_export_audit_csv, fun e => ?_⟩
  have hselected : e ∈ selected ↔ e ∈ s.audit_logs.rows ∧ filters.selects float_repr e = true := List.mem_filter
  rw [hpage.mem_iff, hselected, mem_audit_logs_iff hlogs hrun, and_comm]

namespace pilot

/-- The director cancels the pilot mission, for a reason that a table has to quote. -/
def cancel_request : WriteEndpoint ℝ := .mission (.cancel_mission_ep ⟨"mission"⟩ "Route coupée, \"pluie\"")

def director : Surroundings := asked "director" .NATIONAL_ADMIN "3" 30

theorem bears_director : accounts.BearsRole deployment 30 director.credentials .NATIONAL_ADMIN :=
  ⟨_, _, rfl, rfl, by decide⟩

theorem admitted_cancel : Admitted deployment (platform planned) cancel_request director ⟨"director"⟩ where
  permitted := (accounts.require_permission_eq_ok_iff bears_director).mpr
    ((accounts.escalation_pilot.default_matrix_started _ _).mpr (by decide +kernel))
  user := by decide

theorem answers_cancel :
    ∃ r q, Answers world deployment (platform planned) cancel_request director ⟨"director"⟩ r q := by
  have hhandle : ∃ r q, cancel_request.handle world director ⟨"director"⟩ (platform planned) = (.ok r, q) := ⟨_, _, rfl⟩
  obtain ⟨r, q, hhandle⟩ := hhandle
  exact ⟨r, q, admitted_cancel.answers hhandle⟩

end pilot

theorem pilot_trail_exported : ∃ r q,
    Answers pilot.world pilot.deployment (pilot.platform pilot.planned) pilot.cancel_request pilot.director
      ⟨"director"⟩ r q ∧
    ∃ entries : List AuditLogModel,
      read_csv_file (export_audit_csv (.by_insertion _) (fun _ => "") q.audit_logs {}).content =
        some (audit_csv_header :: entries.map fun e => audit_csv_row (audit_log_to_domain (fun _ => "") e)) ∧
      (write_audit (pilot.director.context ⟨"director"⟩) "mission.cancel" "mission" ⟨"mission"⟩
        [("reason", .str "Route coupée, \"pluie\"")]).stored ∈ entries := by
  obtain ⟨r, q, hanswers⟩ := pilot.answers_cancel
  have hstep : HttpServed pilot.world pilot.deployment (pilot.platform pilot.planned)
      (.request pilot.cancel_request pilot.director) q :=
    ⟨show (pilot.surroundings "3" 30).Fresh pilot.planned by decide, by rw [hanswers.served]⟩
  have hlength : (export_audit_csv (.by_insertion AuditLogModel.order_key) (fun _ => "") q.audit_logs
      {}).total_matching ≤ MAX_EXPORT_ROWS := by
    refine (List.length_filter_le _ _).trans ?_
    rw [hanswers.audit_logs]
    exact show 1 ≤ 10000 by decide
  obtain ⟨entries, -, hread, hmem⟩ := trail_exported rfl (.single hstep) _ _ _ hlength
  refine ⟨r, q, hanswers, entries, hread, (hmem _).mpr ⟨rfl, ?_⟩⟩
  exact ⟨_, _, _, _, r, q, .last .refl hstep, hanswers, _, List.mem_singleton.mpr rfl, rfl⟩

end sigis
