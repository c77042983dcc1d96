import Sigis.Api.ExceptionRequests
import Sigis.Requests.Progress

open guarded relational transactional transition

namespace sigis

/-- The stored row after a request was assigned over it and flushed. -/
def ExceptionRequestModel.assigned (row : ExceptionRequestModel) (req : ExceptionRequest) : ExceptionRequestModel :=
  ExceptionRequestModel.flush row (apply_exception_request_to_row req row) row

@[simp] theorem ExceptionRequestModel.status_assigned (row : ExceptionRequestModel) (req : ExceptionRequest) :
    (row.assigned req).status = req.status := by
  simp [assigned, flush, apply_exception_request_to_row]

/-- A deadline that is written is stored. -/
@[simp]
theorem ExceptionRequestModel.isSome_sla_due_at_assigned (row : ExceptionRequestModel) (req : ExceptionRequest) :
    (row.assigned req).sla_due_at.isSome = req.sla_due_at.isSome := by
  change (bound_column (Option.map datetime.stored) row.sla_due_at req.sla_due_at row.sla_due_at).isSome = _
  unfold bound_column
  split
  · next h => rw [h]
  · exact Option.isSome_map

/-- Only the status of a row is flushed when only its status was written. -/
theorem ExceptionRequestModel.flush_status (row : ExceptionRequestModel) (status : ExceptionRequestStatus) :
    ExceptionRequestModel.flush row { row with status := status } row = { row with status := status } := by
  simp [flush]

variable {F : Type} {call : ExceptionCall} {init s t : SupervisedStore F} {calls : List ExceptionCall}

/-- Everything an operation that commits can have done with the requests: one case for each. -/
inductive ExceptionCall.Does (call : ExceptionCall) (s : SupervisedStore F) : Table ExceptionRequestModel → Prop
  | create_exception {mission_id message rows} :
      call.route = .create_exception mission_id message →
      s.exception_requests.insert (new_exception_request_row (CreateExceptionRequest.exception_request call.env
        ⟨mission_id, call.context.user, message⟩)).stored = some rows →
      call.Does s rows
  | update_exception_status {exception_id status row rows} :
      call.route = .update_exception_status exception_id status →
      s.exception_requests.get exception_id = some row →
      Table.Replaces s.exception_requests row { row with status := status } rows →
      call.Does s rows
  | patch_exception_request {exception_id body row rows} :
      call.route = .patch_exception_request exception_id body →
      s.exception_requests.get exception_id = some row →
      Table.Replaces s.exception_requests row
        (row.assigned (body.apply_to call.env.now (exception_request_to_domain row))) rows →
      call.Does s rows

theorem SupervisedStore.commit_eq_some_iff {pending : ExceptionPending} :
    s.commit pending = some t ↔
      pending.writes.foldlM ExceptionWrite.apply s.exception_requests = some t.exception_requests ∧
      insert_audits s.audit_logs pending.audits = some t.audit_logs ∧ t.store = s.store := by
  change (pending.writes.foldlM ExceptionWrite.apply s.exception_requests).bind (fun rows =>
    (insert_audits s.audit_logs pending.audits).bind fun logs => some ⟨s.store, rows, logs⟩) = some t ↔ _
  simp only [Option.bind_eq_some_iff, Option.some.injEq]
  constructor
  · rintro ⟨rows, hrows, logs, hlogs, rfl⟩
    exact ⟨hrows, hlogs, rfl⟩
  · rintro ⟨hrows, hlogs, hstore⟩
    exact ⟨_, hrows, _, hlogs, by rw [← hstore]⟩

theorem foldlM_apply_singleton {exception_requests : Table ExceptionRequestModel} {write : ExceptionWrite} :
    [write].foldlM ExceptionWrite.apply exception_requests = write.apply exception_requests := by
  rw [List.foldlM_cons]
  exact bind_pure _

/-- A row that was loaded is replaced. -/
theorem apply_update_eq_some_iff {exception_requests rows : Table ExceptionRequestModel} {id : UUID}
    {row written : ExceptionRequestModel} (hrow : exception_requests.get id = some row) :
    (ExceptionWrite.update_exception_request row written).apply exception_requests = some rows ↔
      Table.Replaces exception_requests row (ExceptionRequestModel.flush row written row) rows := by
  have hkey : exception_requests.get row.id = some row := Table.get_of_mem (Table.mem_of_get hrow)
  exact Table.update_eq_some_iff_replaces (ExceptionRequestModel.keeps_flush row written) hkey

theorem create_exception_eq_ok_iff {context : AuditContext} {env : ExceptionEnv} {mission_id : UUID} {message : String}
    {answer : Dict} {pending : ExceptionPending} :
    create_exception context env mission_id message s = .ok (answer, pending) ↔
      ∃ m, s.store.missions.get mission_id = some m ∧
        answer = [("exception_request_id", .str env.exception_request_id.str), ("status", .str "new")] ∧
        pending = ⟨[.add_exception_request (new_exception_request_row
          (CreateExceptionRequest.exception_request env ⟨mission_id, context.user, message⟩))], []⟩ := by
  simp only [create_exception, CreateExceptionRequest.execute, bind_eq_ok_iff, get_or_raise_eq_ok, pure_eq_ok,
    Except.ok.injEq, Prod.mk.injEq, MissionRepositoryImpl.get_by_id, Option.map_eq_some_iff]
  constructor
  · rintro ⟨_, ⟨_, ⟨m, hm, -⟩, rfl⟩, rfl, rfl⟩
    exact ⟨m, hm, rfl, rfl⟩
  · rintro ⟨m, hm, rfl, rfl⟩
    exact ⟨_, ⟨_, ⟨m, hm, rfl⟩, rfl⟩, rfl, rfl⟩

theorem update_exception_status_eq_ok_iff {exception_id : UUID} {status : ExceptionRequestStatus} {answer : Dict}
    {pending : ExceptionPending} :
    update_exception_status exception_id status s = .ok (answer, pending) ↔
      ∃ row, s.exception_requests.get exception_id = some row ∧
        answer = [("id", .str exception_id.str), ("status", .str status.value)] ∧
        pending = ⟨[.update_exception_request row { row with status := status }], []⟩ := by
  simp only [update_exception_status, bind_eq_ok_iff, get_or_raise_eq_ok, pure_eq_ok, Except.ok.injEq, Prod.mk.injEq,
    ExceptionRequestRepositoryImpl.get_by_id, Option.map_eq_some_iff]
  constructor
  · rintro ⟨_, ⟨row, hrow, -⟩, rfl, rfl⟩
    exact ⟨row, hrow, rfl, by simp only [ExceptionRequestRepositoryImpl.update_status, hrow]⟩
  · rintro ⟨row, hrow, rfl, rfl⟩
    exact ⟨_, ⟨row, hrow, rfl⟩, rfl, by simp only [ExceptionRequestRepositoryImpl.update_status, hrow]⟩

theorem patch_exception_request_eq_ok_iff {context : AuditContext} {env : ExceptionEnv} {exception_id : UUID}
    {body : PatchExceptionBody} {answer : Dict} {pending : ExceptionPending} :
    patch_exception_request context env exception_id body s = .ok (answer, pending) ↔
      ∃ row exc, s.exception_requests.get exception_id = some row ∧
        exc = body.apply_to env.now (exception_request_to_domain row) ∧ answer = exc_dict exc ∧
        pending = ⟨[.update_exception_request row (apply_exception_request_to_row exc row)],
          [write_audit context "exception.patch" "exception_request" exception_id
            [("status", .str exc.status.value)]]⟩ := by
  simp only [patch_exception_request, bind_eq_ok_iff, get_or_raise_eq_ok, pure_eq_ok, Except.ok.injEq, Prod.mk.injEq,
    ExceptionRequestRepositoryImpl.get_by_id, Option.map_eq_some_iff]
  have hupdate : ∀ row, s.exception_requests.get exception_id = some row →
      ExceptionRequestRepositoryImpl.update s.exception_requests
          (body.apply_to env.now (exception_request_to_domain row)) =
        [.update_exception_request row
          (apply_exception_request_to_row (body.apply_to env.now (exception_request_to_domain row)) row)] := by
    intro row hrow
    have hid : (body.apply_to env.now (exception_request_to_domain row)).id = exception_id := Table.key_of_get hrow
    simp only [ExceptionRequestRepositoryImpl.update, hid, hrow]
  constructor
  · rintro ⟨_, ⟨row, hrow, rfl⟩, rfl, rfl⟩
    exact ⟨row, _, hrow, rfl, rfl, by rw [hupdate row hrow]⟩
  · rintro ⟨row, _, hrow, rfl, rfl, rfl⟩
    exact ⟨_, ⟨row, hrow, rfl⟩, rfl, by rw [hupdate row hrow]⟩

/-- A served operation has done what its route does, or has left the store as it was. -/
theorem ExceptionServed.does (h : ExceptionServed s call t) : t = s ∨ call.Does s t.exception_requests := by
  obtain ⟨route, context, env⟩ := call
  cases hserve : ExceptionCall.serve ⟨route, context, env⟩ s with
  | mk result u =>
    obtain rfl : u = t := by rw [← h, hserve]
    cases result with
    | error e => exact Or.inl (Database.store_of_run_eq_error hserve)
    | ok answer =>
      refine Or.inr ?_
      obtain ⟨pending, hprepare, hcommit⟩ := Database.run_eq_ok_iff.mp hserve
      obtain ⟨hrows, -, -⟩ := SupervisedStore.commit_eq_some_iff.mp hcommit
      cases route with
      | create_exception mission_id message =>
        obtain ⟨m, -, -, rfl⟩ := create_exception_eq_ok_iff.mp hprepare
        rw [foldlM_apply_singleton] at hrows
        exact .create_exception rfl hrows
      | update_exception_status exception_id status =>
        obtain ⟨row, hrow, -, rfl⟩ := update_exception_status_eq_ok_iff.mp hprepare
        rw [foldlM_apply_singleton, apply_update_eq_some_iff hrow, ExceptionRequestModel.flush_status] at hrows
        exact .update_exception_status rfl hrow hrows
      | patch_exception_request exception_id body =>
        obtain ⟨row, _, hrow, rfl, -, rfl⟩ := patch_exception_request_eq_ok_iff.mp hprepare
        rw [foldlM_apply_singleton, apply_update_eq_some_iff hrow] at hrows
        exact .patch_exception_request rfl hrow hrows

/-- A PATCH of the status of a stored request is served, whatever the status. -/
theorem ExceptionServed.get_status (h : ExceptionServed s call t) {exception_id : UUID}
    {status : ExceptionRequestStatus} {row : ExceptionRequestModel}
    (hroute : call.route = .update_exception_status exception_id status)
    (hrow : s.exception_requests.get exception_id = some row) :
    t.exception_requests.get exception_id = some { row with status := status } := by
  obtain ⟨route, context, env⟩ := call
  cases hroute
  obtain ⟨rows, hrows⟩ := Table.exists_replaces
    (ExceptionRequestModel.keeps_flush row { row with status := status }) (Table.mem_of_get hrow)
  have hserve : ExceptionCall.serve ⟨.update_exception_status exception_id status, context, env⟩ s =
      (.ok [("id", .str exception_id.str), ("status", .str status.value)], { s with exception_requests := rows }) := by
    refine Database.run_eq_ok_iff.mpr ⟨_, update_exception_status_eq_ok_iff.mpr ⟨row, hrow, rfl, rfl⟩, ?_⟩
    refine SupervisedStore.commit_eq_some_iff.mpr ⟨?_, rfl, rfl⟩
    rw [foldlM_apply_singleton, apply_update_eq_some_iff hrow]
    exact hrows
  rw [← h, hserve, ← ExceptionRequestModel.flush_status, ← Table.key_of_get hrow]
  exact hrows.get_self

/-- A request that is acknowledged has a deadline. -/
def ExceptionRequestModel.KeepsDeadline (row : ExceptionRequestModel) : Prop :=
  row.status = .ACKNOWLEDGED → ∃ due, row.sla_due_at = some due

def SupervisedStore.KeepsDeadlines (s : SupervisedStore F) : Prop :=
  ∀ row ∈ s.exception_requests.rows, row.KeepsDeadline

/-- The operation is a PATCH of the status of a stored request without deadline, to acknowledged. -/
def ExceptionCall.acknowledges_without_deadline (call : ExceptionCall) (s : SupervisedStore F) : Prop :=
  match call.route with
  | .update_exception_status exception_id status => status = .ACKNOWLEDGED ∧
      ∃ row, s.exception_requests.get exception_id = some row ∧ row.sla_due_at = none
  | _ => False

/-- A PATCH of several fields leaves a request with its deadline, or gives it one. -/
theorem keepsDeadline_patched {row : ExceptionRequestModel} {body : PatchExceptionBody} {now : Int}
    (h : row.KeepsDeadline) :
    (row.assigned (body.apply_to now (exception_request_to_domain row))).KeepsDeadline := by
  intro hstatus
  rw [← Option.isSome_iff_exists, ExceptionRequestModel.isSome_sla_due_at_assigned]
  rw [ExceptionRequestModel.status_assigned] at hstatus
  change body.status.getD row.status = .ACKNOWLEDGED at hstatus
  unfold PatchExceptionBody.apply_to
  cases hdue : body.sla_due_at with
  | some due => rfl
  | none =>
    change (if body.status = some .ACKNOWLEDGED ∧ row.sla_due_at = none then some (datetime.utc (now + hours 72))
      else row.sla_due_at).isSome
    split
    · rfl
    · next hkept =>
      cases hbody : body.status with
      | none =>
        rw [hbody, Option.getD_none] at hstatus
        exact Option.isSome_iff_exists.mpr (h hstatus)
      | some status =>
        rw [hbody, Option.getD_some] at hstatus
        subst hstatus
        exact Option.isSome_iff_ne_none.mpr fun hnone => hkept ⟨hbody, hnone⟩

/-- Every operation but one keeps the deadlines. -/
theorem ExceptionServed.keeps_deadlines (h : ExceptionServed s call t) (hs : s.KeepsDeadlines)
    (hcall : ¬ call.acknowledges_without_deadline s) : t.KeepsDeadlines := by
  rcases h.does with rfl | hdoes
  · exact hs
  unfold SupervisedStore.KeepsDeadlines
  generalize t.exception_requests = rows at hdoes
  cases hdoes with
  | create_exception _ hrows => exact Table.forall_mem_insert hrows hs nofun
  | @update_exception_status exception_id status row _ hroute hrow hrows =>
    refine hrows.forall_mem hs fun hstatus => ?_
    cases hdue : row.sla_due_at with
    | some due => exact ⟨due, rfl⟩
    | none =>
      simp only [ExceptionCall.acknowledges_without_deadline, hroute] at hcall
      exact absurd ⟨hstatus, row, hrow, hdue⟩ hcall
  | patch_exception_request _ hrow hrows =>
    exact hrows.forall_mem hs (keepsDeadline_patched (hs _ (Table.mem_of_get hrow)))

/-- In every run from a store that keeps the deadlines, each operation leaves every acknowledged
request with one exactly when none of them acknowledges, by a PATCH of the status alone, a request
without deadline. -/
theorem deadlines_kept_iff (hinit : init.KeepsDeadlines) :
    (∀ x call y, Takes ExceptionServed init calls s x call y → y.KeepsDeadlines) ↔
      ∀ x call y, Takes ExceptionServed init calls s x call y → ¬ call.acknowledges_without_deadline x := by
  constructor
  · intro h x call y htakes hcall
    obtain ⟨route, context, env⟩ := call
    cases route with
    | update_exception_status exception_id status =>
      obtain ⟨rfl, row, hrow, hnone⟩ := hcall
      have hget := htakes.taken.get_status rfl hrow
      obtain ⟨due, hdue⟩ := h _ _ _ htakes _ (Table.mem_of_get hget) rfl
      cases hnone.symm.trans hdue
    | _ => exact hcall
  · intro h x call y htakes
    have hx : x.KeepsDeadlines := Execution.invariant_before SupervisedStore.KeepsDeadlines htakes hinit
      fun x' call' y' htakes' hx' => htakes'.taken.keeps_deadlines hx' (h x' call' y' htakes')
    exact htakes.taken.keeps_deadlines hx (h x call y htakes)

namespace pilot

/-- The inspector reports on the pilot mission. -/
def report : ExceptionCall where
  route := .create_exception ⟨"mission"⟩ "fermé"
  context := ⟨⟨"inspector"⟩, none, ⟨"audit-1"⟩, 5⟩
  env := ⟨⟨"report"⟩, 5⟩

/-- The supervisor acknowledges the report by its status alone. -/
def take_note : ExceptionCall where
  route := .update_exception_status ⟨"report"⟩ .ACKNOWLEDGED
  context := ⟨⟨"supervisor"⟩, none, ⟨"audit-2"⟩, 6⟩
  env := ⟨⟨"unused"⟩, 6⟩

/-- The supervisor acknowledges the report by the other PATCH. -/
def take_charge : ExceptionCall where
  route := .patch_exception_request ⟨"report"⟩ { status := some .ACKNOWLEDGED }
  context := ⟨⟨"supervisor"⟩, none, ⟨"audit-2"⟩, 6⟩
  env := ⟨⟨"unused"⟩, 6⟩

noncomputable def supervised : SupervisedStore ℝ := ⟨planned, .empty, .empty⟩

def report_row : ExceptionRequestModel where
  id := ⟨"report"⟩
  mission_id := ⟨"mission"⟩
  author_user_id := ⟨"inspector"⟩
  created_at := ⟨5, none⟩
  status := .NEW
  message := "fermé"

noncomputable def reported : SupervisedStore ℝ :=
  { supervised with exception_requests := ⟨[report_row], List.pairwise_singleton _ _⟩ }

noncomputable def noted : SupervisedStore ℝ :=
  { supervised with
    exception_requests := ⟨[{ report_row with status := .ACKNOWLEDGED }], List.pairwise_singleton _ _⟩ }

noncomputable def charged : SupervisedStore ℝ where
  store := planned
  exception_requests := ⟨[{ report_row with
    status := .ACKNOWLEDGED
    sla_due_at := some ⟨6 + hours 72, none⟩ }], List.pairwise_singleton _ _⟩
  audit_logs := ⟨[(write_audit take_charge.context "exception.patch" "exception_request" ⟨"report"⟩
    [("status", .str "acknowledged")]).stored], List.pairwise_singleton _ _⟩

theorem served_report : ExceptionServed supervised report reported := by
  rfl

theorem served_take_note : ExceptionServed reported take_note noted := by
  rfl

theorem served_take_charge : ExceptionServed reported take_charge charged := by
  rfl

end pilot

/-- A report that is acknowledged by its status alone has no deadline. -/
theorem acknowledged_without_deadline :
    Execution ExceptionServed pilot.supervised [pilot.report, pilot.take_note] pilot.noted ∧
    pilot.supervised.exception_requests.rows = [] ∧
    (∃ row ∈ pilot.noted.exception_requests.rows, row.status = .ACKNOWLEDGED ∧ row.sla_due_at = none) ∧
    ¬ pilot.noted.KeepsDeadlines := by
  refine ⟨(Execution.single pilot.served_report).snoc pilot.served_take_note, rfl,
    ⟨_, List.mem_singleton.mpr rfl, rfl, rfl⟩, fun h => ?_⟩
  obtain ⟨due, hdue⟩ := h _ (List.mem_singleton.mpr rfl) rfl
  cases hdue

/-- A report that is acknowledged by the other PATCH has a deadline. -/
theorem pilot_deadline_kept : pilot.charged.KeepsDeadlines := by
  have hinit : pilot.supervised.KeepsDeadlines := by
    intro row hrow
    cases hrow
  have hrun := Execution.single pilot.served_report
  refine (deadlines_kept_iff hinit).mpr ?_ _ _ _ (.last hrun pilot.served_take_charge)
  intro x call y htakes
  have hmem := htakes.mem
  simp only [List.cons_append, List.nil_append, List.mem_cons, List.not_mem_nil, or_false] at hmem
  rcases hmem with rfl | rfl
  · exact id
  · exact id

end sigis
