import Sigis.Common.HttpErrors
import Sigis.Requests.Progress
import Sigis.Visits.Defensive

open guarded relational transactional transition

namespace sigis

/-- The error is a domain error, of a code whose status blames the request. -/
def Error.Refuses (e : Error) : Prop :=
  ∃ cls message code, e = .domain_error cls message code ∧ status_of_code code ∈ [400, 403, 404, 409, 422]

section refuses

variable {message code : String} {cls : ErrorClass}

theorem refuses_raise {given : Option String} (h : status_of_code (given.getD cls.code) ∈ [400, 403, 404, 409, 422]) :
    (cls.raise message given).Refuses := ⟨cls, message, _, rfl, h⟩

theorem refuses_not_found : (NotFound message).Refuses := refuses_raise (by decide)

theorem refuses_conflict : (Conflict message).Refuses := refuses_raise (by decide)

theorem refuses_copresence (h : status_of_code code ∈ [400, 403, 404, 409, 422]) :
    (CoPresenceRejected message code).Refuses := refuses_raise h

end refuses

/-- The error refuses the request, or is the assertion of a defensive branch. -/
def Error.Checked (e : Error) : Prop := e = .AssertionError ∨ e.Refuses

theorem Error.Refuses.checked {e : Error} (h : e.Refuses) : e.Checked := Or.inr h

variable {F : Type} {env : Env} {s t : Store F}

/-- The roles of the stored users are roles of the code. -/
def Store.RolesKnown (s : Store F) : Prop := ∀ row ∈ s.users.rows, Role.of_value row.role ≠ none

theorem raises_only_get_user (hroles : s.RolesKnown) {user_id : UUID} :
    raises_only (UserAuthRepositoryImpl.get_by_id s user_id) Error.Refuses := by
  refine raises_only_bind (raises_only_get_or_raise fun _ => refuses_not_found) fun row hrow => ?_
  refine raises_only_bind (raises_only_raise_if fun hunknown => ?_) fun _ _ => raises_only_pure
  exact absurd hunknown (hroles row (Table.mem_of_get (get_or_raise_eq_ok.mp hrow)))

/-- A mission with a token can be saved. -/
theorem raises_only_save_mission {mission : Mission} {p : Error → Prop} (htoken : mission.host_token.isSome) :
    raises_only (MissionRepositoryImpl.save s mission) p := by
  unfold MissionRepositoryImpl.save
  split
  · refine raises_only_bind (raises_only_get_or_raise fun hnone => ?_) fun _ _ => raises_only_pure
    rw [hnone] at htoken
    cases htoken
  · exact raises_only_ok

/-- A mission that is read has a token. -/
theorem host_token_of_get_by_id {mission_id : UUID} {mission : Mission} {e : Error}
    (h : get_or_raise (MissionRepositoryImpl.get_by_id s mission_id) e = .ok mission) : mission.host_token.isSome := by
  obtain ⟨m, -, rfl⟩ := Option.map_eq_some_iff.mp (get_or_raise_eq_ok.mp h)
  rfl

theorem CreateMission.raises_only_refuses (hroles : s.RolesKnown) (cmd : CreateMissionCommand) :
    raises_only (CreateMission.execute env cmd s) Error.Refuses := by
  refine raises_only_bind (raises_only_get_or_raise fun _ => refuses_not_found) fun _ _ => ?_
  refine raises_only_bind (raises_only_get_user hroles) fun _ _ => ?_
  exact raises_only_bind (raises_only_save_mission rfl) fun _ _ => raises_only_pure

theorem ApproveMission.raises_only_refuses (cmd : ApproveMissionCommand) :
    raises_only (ApproveMission.execute cmd s) Error.Refuses := by
  refine raises_only_bind (raises_only_get_or_raise fun _ => refuses_not_found) fun mission hmission => ?_
  refine raises_only_bind (raises_only_raise_if fun _ => refuses_conflict) fun _ _ => ?_
  have htoken := host_token_of_get_by_id hmission
  exact raises_only_bind (raises_only_save_mission htoken) fun _ _ => raises_only_pure

theorem CancelMission.raises_only_refuses (cmd : CancelMissionCommand) :
    raises_only (CancelMission.execute env cmd s) Error.Refuses := by
  refine raises_only_bind (raises_only_get_or_raise fun _ => refuses_not_found) fun mission hmission => ?_
  refine raises_only_bind (raises_only_raise_if fun _ => refuses_conflict) fun _ _ => ?_
  have htoken := host_token_of_get_by_id hmission
  exact raises_only_bind (raises_only_save_mission htoken) fun _ _ => raises_only_pure

theorem ReassignInspector.raises_only_refuses (hroles : s.RolesKnown) (cmd : ReassignInspectorCommand) :
    raises_only (ReassignInspector.execute env cmd s) Error.Refuses := by
  refine raises_only_bind (raises_only_get_or_raise fun _ => refuses_not_found) fun old hold => ?_
  refine raises_only_bind (raises_only_raise_if fun _ => refuses_conflict) fun _ _ => ?_
  refine raises_only_bind (raises_only_get_user hroles) fun _ _ => ?_
  have htoken := host_token_of_get_by_id hold
  refine raises_only_bind (raises_only_save_mission htoken) fun _ _ => ?_
  exact raises_only_bind (raises_only_save_mission rfl) fun _ _ => raises_only_pure

theorem raises_only_update_mission (mission_id : UUID) (body : UpdateMissionBody) :
    raises_only (update_mission mission_id body s) Error.Refuses := by
  refine raises_only_bind (raises_only_get_or_raise fun _ => refuses_not_found) fun mission hmission => ?_
  refine raises_only_bind ?_ fun status _ => ?_
  · unfold UpdateMissionBody.new_status
    split
    · exact raises_only_ok
    · exact raises_only_get_or_raise fun _ => refuses_conflict
  · have htoken := host_token_of_get_by_id hmission
    exact raises_only_bind (raises_only_save_mission htoken) fun _ _ => raises_only_pure

theorem refuses_of_window {now window_start window_end : datetime} :
    raises_only (ensure_mission_window now window_start window_end) Error.Refuses :=
  raises_only_raise_if fun _ => refuses_raise (by decide)

variable [LinearOrder F] [NatCast F] {w : World F}

omit [NatCast F] in
theorem CheckInInspector.raises_only_refuses (cmd : CheckInInspectorCommand F) :
    raises_only (CheckInInspector.execute w env cmd s) Error.Refuses := by
  apply raises_only_idempotent
  refine raises_only_bind (raises_only_get_or_raise fun _ => refuses_not_found) fun mission _ => ?_
  refine raises_only_bind (raises_only_raise_if fun _ => refuses_raise (by decide)) fun _ _ => ?_
  refine raises_only_bind (raises_only_raise_if fun _ => refuses_raise (by decide)) fun _ _ => ?_
  refine raises_only_bind (raises_only_get_or_raise fun _ => refuses_not_found) fun est _ => ?_
  refine raises_only_bind refuses_of_window fun _ _ => ?_
  refine raises_only_bind (raises_only_raise_if fun _ => refuses_raise (by decide)) fun _ _ => ?_
  rw [SiteVisitRepositoryImpl.get_by_mission_id_eq, bind_ok]
  refine raises_only_bind (raises_only_raise_if fun _ => refuses_raise (by decide)) fun _ _ => ?_
  refine raises_only_bind ?_ fun _ _ => raises_only_pure
  exact raises_only_bind (raises_only_raise_if fun _ => refuses_raise (by decide)) fun _ _ => raises_only_pure

omit [LinearOrder F] [NatCast F] in
theorem CheckOutVisit.raises_only_refuses (cmd : CheckOutCommand) :
    raises_only (CheckOutVisit.execute env cmd s) Error.Refuses := by
  apply raises_only_idempotent
  refine raises_only_bind (raises_only_get_or_raise fun _ => refuses_not_found) fun mission _ => ?_
  refine raises_only_bind (raises_only_raise_if fun _ => refuses_raise (by decide)) fun _ _ => ?_
  refine raises_only_bind (raises_only_get_or_raise fun _ => refuses_not_found) fun visit _ => ?_
  refine raises_only_bind (raises_only_raise_if fun _ => refuses_raise (by decide)) fun _ _ => ?_
  refine raises_only_bind ?_ fun _ _ => raises_only_pure
  refine raises_only_bind (raises_only_raise_if fun _ => refuses_raise (by decide)) fun _ _ => ?_
  exact raises_only_bind (raises_only_raise_if fun _ => refuses_raise (by decide)) fun _ _ => raises_only_pure

theorem refuses_of_host_qr_jwt {jwt : PyJWT} {settings : AppSettings} {token : String} {mission : Mission}
    {decoded_at now : Int} :
    raises_only (verify_host_qr_jwt jwt settings token mission decoded_at now) Error.Refuses := by
  refine raises_only_bind (raises_only_mapError fun e _ => ?_) fun payload _ => ?_
  · cases e <;> exact refuses_raise (by decide)
  refine raises_only_bind (raises_only_raise_if fun _ => refuses_copresence (by decide)) fun _ _ => ?_
  refine raises_only_bind (raises_only_raise_if fun _ => refuses_copresence (by decide)) fun _ _ => ?_
  refine raises_only_bind (raises_only_get_or_raise fun _ => refuses_copresence (by decide)) fun _ _ => ?_
  refine raises_only_bind (raises_only_raise_if fun _ => refuses_copresence (by decide)) fun _ _ => ?_
  refine raises_only_bind (raises_only_get_or_raise fun _ => refuses_copresence (by decide)) fun _ _ => ?_
  exact raises_only_bind (raises_only_raise_if fun _ => refuses_copresence (by decide)) fun _ _ => raises_only_pure

theorem ConfirmHostPresence.raises_only_checked_validate {cmd : ConfirmHostCommand F} {visit : SiteVisit F}
    {mission : Mission} {mode : HostValidationMode} :
    raises_only (ConfirmHostPresence.validate w env cmd s visit mission mode) Error.Checked := by
  have hassertion : Error.AssertionError.Checked := Or.inl rfl
  unfold ConfirmHostPresence.validate
  cases mode with
  | APP_GPS =>
    refine raises_only_bind (raises_only_get_or_raise fun _ => refuses_conflict.checked) fun _ _ => ?_
    refine raises_only_bind (raises_only_get_or_raise fun _ => refuses_conflict.checked) fun _ _ => ?_
    refine raises_only_bind (raises_only_get_or_raise fun _ => hassertion) fun _ _ => ?_
    refine raises_only_bind (raises_only_get_or_raise fun _ => hassertion) fun _ _ => ?_
    refine raises_only_bind (raises_only_get_or_raise fun _ => hassertion) fun _ _ => ?_
    refine raises_only_bind ?_ fun _ _ => raises_only_pure
    refine raises_only_bind (raises_only_raise_if fun _ => (refuses_raise (by decide)).checked) fun _ _ => ?_
    exact raises_only_raise_if fun _ => (refuses_raise (by decide)).checked
  | QR_STATIC =>
    dsimp only
    split
    · refine raises_only_bind (fun e he => (refuses_of_host_qr_jwt e he).checked) fun _ _ => ?_
      refine raises_only_bind (raises_only_get_or_raise fun _ => ?_) fun _ _ => raises_only_pure
      exact (refuses_copresence (by decide)).checked
    · refine raises_only_bind ?_ fun _ _ => raises_only_pure
      refine raises_only_bind (raises_only_raise_if fun _ => (refuses_raise (by decide)).checked) fun _ _ => ?_
      exact raises_only_raise_if fun _ => (refuses_raise (by decide)).checked
    · exact raises_only_error refuses_conflict.checked
  | SMS_SHORTCODE =>
    refine raises_only_bind (raises_only_get_or_raise fun _ => refuses_conflict.checked) fun _ _ => ?_
    refine raises_only_bind ?_ fun _ _ => raises_only_pure
    refine raises_only_bind (raises_only_get_or_raise fun _ => (refuses_raise (by decide)).checked) fun _ _ => ?_
    refine raises_only_bind (raises_only_raise_if fun _ => (refuses_raise (by decide)).checked) fun _ _ => ?_
    exact raises_only_raise_if fun _ => (refuses_raise (by decide)).checked

/-- In a filed store the assertions hold. -/
theorem ConfirmHostPresence.raises_only_refuses (hfiled : s.Filed) (cmd : ConfirmHostCommand F) :
    raises_only (ConfirmHostPresence.execute w env cmd s) Error.Refuses := by
  have hchecked : raises_only (ConfirmHostPresence.execute w env cmd s) Error.Checked := by
    apply raises_only_idempotent
    refine raises_only_bind (raises_only_get_or_raise fun _ => refuses_not_found.checked) fun visit _ => ?_
    refine raises_only_bind (raises_only_raise_if fun _ => refuses_conflict.checked) fun _ _ => ?_
    refine raises_only_bind (raises_only_get_or_raise fun _ => refuses_not_found.checked) fun mission _ => ?_
    refine raises_only_bind (raises_only_raise_if fun _ => (refuses_raise (by decide)).checked) fun _ _ => ?_
    refine raises_only_bind (raises_only_get_or_raise fun _ => refuses_not_found.checked) fun est _ => ?_
    refine raises_only_bind (raises_only_raise_if fun _ => (refuses_raise (by decide)).checked) fun _ _ => ?_
    refine raises_only_bind (raises_only_get_or_raise fun _ => refuses_conflict.checked) fun mode _ => ?_
    refine raises_only_bind ConfirmHostPresence.raises_only_checked_validate fun _ _ => ?_
    refine raises_only_bind ?_ fun _ _ => ?_
    · refine raises_only_bind (raises_only_raise_if fun _ => ?_) fun _ _ => raises_only_pure
      exact (refuses_raise (by decide)).checked
    · refine raises_only_bind (raises_only_get_or_raise fun _ => refuses_conflict.checked) fun _ _ => ?_
      exact raises_only_bind (raises_only_get_or_raise fun _ => refuses_conflict.checked) fun _ _ => raises_only_pure
  intro e he
  refine (hchecked e he).resolve_left ?_
  rintro rfl
  exact ConfirmHostPresence.raises_only_ordinary hfiled cmd _ he (by decide)

/-- A request to a use case raises nothing but refusals. -/
theorem Call.raises_only_refuses (hfiled : s.Filed) (hroles : s.RolesKnown) (call : Call F) :
    raises_only (call.prepare w s) Error.Refuses := by
  obtain ⟨request, env⟩ := call
  cases request with
  | create_establishment cmd => exact raises_only_ok
  | update_establishment establishment_id body =>
    refine raises_only_map (raises_only_bind (raises_only_get_or_raise fun _ => refuses_not_found) fun _ _ => ?_)
    exact raises_only_pure
  | create_mission cmd => exact raises_only_map (CreateMission.raises_only_refuses hroles cmd)
  | approve_mission cmd => exact raises_only_map (ApproveMission.raises_only_refuses cmd)
  | cancel_mission cmd => exact raises_only_map (CancelMission.raises_only_refuses cmd)
  | reassign_inspector cmd => exact raises_only_map (ReassignInspector.raises_only_refuses hroles cmd)
  | update_mission mission_id body => exact raises_only_map (raises_only_update_mission mission_id body)
  | check_in cmd => exact raises_only_map (CheckInInspector.raises_only_refuses cmd)
  | confirm_host cmd => exact raises_only_map (ConfirmHostPresence.raises_only_refuses hfiled cmd)
  | check_out cmd => exact raises_only_map (CheckOutVisit.raises_only_refuses cmd)
  | delete_older_than cutoff => exact raises_only_ok

omit [LinearOrder F] [NatCast F] in
/-- A row without other constraints than its key can be added under a new one. -/
theorem exists_insert_of_new {ρ : Type} [Row ρ UUID] (table : Table ρ) (row : ρ)
    (hconflict : ∀ a : ρ, Row.conflict a row = false) (hnew : table.get (Row.key row) = none) :
    ∃ rows, table.insert row = some rows := by
  refine Table.exists_insert ?_
  rintro a ha (hkey | hclash)
  · exact Table.get_eq_none_iff.mp hnew a ha hkey
  · rw [hconflict] at hclash
    cases hclash

omit [LinearOrder F] [NatCast F] in
theorem Env.Fresh.establishment_id (h : env.Fresh s) : s.establishments.get env.establishment_id = none :=
  Table.get_eq_none_iff.mpr fun _ hr =>
    Store.establishment_ne_of_not_mem (h env.establishment_id env.establishment_id_mem) hr

variable {call : Call F} {r : Response F} {writes : List (Write F)}

/-- What a request under new identifiers has prepared, it commits. -/
theorem Call.exists_outcome (hfresh : call.env.Fresh s) (h : call.prepare w s = .ok (r, writes)) :
    ∃ r' t, Outcome w call s r' t := by
  obtain ⟨request, env⟩ := call
  have hnew := hfresh.mission_id
  cases request with
  | create_establishment cmd =>
    obtain ⟨rows, hrows⟩ := exists_insert_of_new s.establishments
      (new_establishment_row (CreateEstablishment.establishment env cmd)).stored (fun _ => rfl) hfresh.establishment_id
    exact ⟨_, _, .create_establishment hrows⟩
  | update_establishment establishment_id body =>
    obtain ⟨_, hexecute, -⟩ := map_payload_eq_ok_iff.mp h
    obtain ⟨row, hrow, -, -⟩ := update_establishment_eq_ok_iff.mp hexecute
    obtain ⟨rows, hrows⟩ := Table.exists_replaces (EstablishmentModel.keeps_flush row (apply_establishment_to_row
      (body.apply_to (establishment_to_domain row)) row)) (Table.mem_of_get hrow)
    exact ⟨_, _, .update_establishment hrow hrows⟩
  | create_mission cmd =>
    obtain ⟨_, hexecute, -⟩ := map_payload_eq_ok_iff.mp h
    obtain ⟨est, user, hest, huser, -, -⟩ := (CreateMission.execute_eq_ok_iff hnew).mp hexecute
    obtain ⟨rows, hrows⟩ := exists_insert_of_new s.missions
      (new_mission_row (CreateMission.mission env cmd) env.host_token).stored (fun _ => rfl) hnew
    exact ⟨_, _, .create_mission hest huser hrows⟩
  | approve_mission cmd =>
    obtain ⟨_, hexecute, -⟩ := map_payload_eq_ok_iff.mp h
    obtain ⟨m, hm, hstatus, -, -⟩ := ApproveMission.execute_eq_ok_iff.mp hexecute
    obtain ⟨rows, hrows⟩ := Table.exists_replaces (MissionModel.keeps_flush m (apply_mission_to_row
      { mission_to_domain m with status := .PLANNED } m)) (Table.mem_of_get hm)
    exact ⟨_, _, .approve_mission hm hstatus hrows⟩
  | cancel_mission cmd =>
    obtain ⟨_, hexecute, -⟩ := map_payload_eq_ok_iff.mp h
    obtain ⟨m, hm, hstatus, -, -⟩ := CancelMission.execute_eq_ok_iff.mp hexecute
    obtain ⟨rows, hrows⟩ := Table.exists_replaces (MissionModel.keeps_flush m (apply_mission_to_row
      ((mission_to_domain m).cancelled (slice_to 4000 cmd.reason) (datetime.utc env.now) cmd.cancelled_by_user_id) m))
      (Table.mem_of_get hm)
    exact ⟨_, _, .cancel_mission hm hstatus rfl hrows⟩
  | reassign_inspector cmd =>
    obtain ⟨_, hexecute, -⟩ := map_payload_eq_ok_iff.mp h
    obtain ⟨m, user, hm, hstatus, huser, -, -⟩ := (ReassignInspector.execute_eq_ok_iff hnew).mp hexecute
    obtain ⟨cancelled, hcancelled⟩ := Table.exists_replaces (MissionModel.keeps_flush m (apply_mission_to_row
      (ReassignInspector.replaced env cmd m) m)) (Table.mem_of_get hm)
    have hne : env.mission_id ≠ m.id := by
      intro heq
      exact Table.get_eq_none_iff.mp hnew m (Table.mem_of_get hm) heq.symm
    obtain ⟨rows, hrows⟩ := exists_insert_of_new cancelled
      (new_mission_row (ReassignInspector.clone env cmd (mission_to_domain m)) env.host_token).stored
      (fun _ => rfl) ((hcancelled.get_other hne).trans hnew)
    exact ⟨_, _, .reassign_inspector hm hstatus huser hcancelled hrows⟩
  | update_mission mission_id body =>
    obtain ⟨_, hexecute, -⟩ := map_payload_eq_ok_iff.mp h
    obtain ⟨m, status, hm, hstatus, -, -⟩ := update_mission_eq_ok_iff.mp hexecute
    obtain ⟨rows, hrows⟩ := Table.exists_replaces (MissionModel.keeps_flush m (apply_mission_to_row
      (body.apply_to (mission_to_domain m) status) m)) (Table.mem_of_get hm)
    exact ⟨_, _, .update_mission hm hstatus hrows⟩
  | check_in cmd =>
    obtain ⟨_, hexecute, -⟩ := map_payload_eq_ok_iff.mp h
    rcases idempotent_eq_ok_iff.mp hexecute with ⟨record, hrecord, -, -⟩ | ⟨hrecord, effects, hbody, -⟩
    · exact ⟨_, _, .replayed rfl hrecord⟩
    · obtain ⟨m, est, hadmits, -, -⟩ := CheckInInspector.body_eq_ok_iff.mp hbody
      obtain ⟨visit, t, hin, -⟩ := hadmits.served hfresh hrecord
      exact ⟨_, t, .check_in hin⟩
  | confirm_host cmd =>
    obtain ⟨_, hexecute, -⟩ := map_payload_eq_ok_iff.mp h
    rcases idempotent_eq_ok_iff.mp hexecute with ⟨record, hrecord, -, -⟩ | ⟨hrecord, effects, hbody, -⟩
    · exact ⟨_, _, .replayed rfl hrecord⟩
    · obtain ⟨v, m, est, mode, host, consumed, latitude, longitude, hadmits, -, -⟩ :=
        ConfirmHostPresence.body_eq_ok_iff.mp hbody
      obtain ⟨t, hconfirmed, -⟩ := hadmits.served hfresh hrecord
      exact ⟨_, t, .confirm_host hconfirmed⟩
  | check_out cmd =>
    obtain ⟨_, hexecute, -⟩ := map_payload_eq_ok_iff.mp h
    rcases idempotent_eq_ok_iff.mp hexecute with ⟨record, hrecord, -, -⟩ | ⟨hrecord, effects, hbody, -⟩
    · exact ⟨_, _, .replayed rfl hrecord⟩
    · obtain ⟨v, m, hadmits, -, -⟩ := CheckOutVisit.body_eq_ok_iff.mp hbody
      obtain ⟨t, hout, -⟩ := hadmits.served (w := w) hfresh hrecord
      exact ⟨_, t, .check_out hout⟩
  | delete_older_than cutoff => exact ⟨_, _, .delete_older_than⟩

theorem Call.exists_commit (hfresh : call.env.Fresh s) (h : call.prepare w s = .ok (r, writes)) :
    ∃ t, s.commit writes = some t := by
  obtain ⟨r', t, houtcome⟩ := Call.exists_outcome hfresh h
  obtain ⟨writes', hprepare, hcommit⟩ := exec_eq_ok_iff_commit.mp (houtcome.exec hfresh)
  cases h.symm.trans hprepare
  exact ⟨t, hcommit⟩

end sigis
