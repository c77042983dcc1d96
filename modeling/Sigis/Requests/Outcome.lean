import Sigis.Requests.Serving

open guarded relational transactional transition

namespace sigis

variable {F : Type} [LinearOrder F] [NatCast F]

/-- Saving a visit adds its row, or replaces the stored one. -/
def Store.SavesVisit (s : Store F) (visit : SiteVisit F) (visits : Table (SiteVisitModel F)) : Prop :=
  (s.site_visits.get visit.id = none ∧
    s.site_visits.insert (new_site_visit_row visit).stored = some visits) ∨
  ∃ v, s.site_visits.get visit.id = some v ∧
    Table.Replaces s.site_visits v (v.assigned visit) visits

/-- A check-in without recorded response that was committed. -/
structure CheckedIn (w : World F) (env : Env) (cmd : CheckInInspectorCommand F) (s : Store F)
    (m : MissionModel) (est : EstablishmentModel F) (visit : SiteVisit F) (t : Store F) : Prop where
  unrecorded : s.recorded cmd.scope cmd.client_request_id = none
  admits : CheckInInspector.Admits w env cmd s m est
  visit_eq : visit = CheckInInspector.visit env cmd
    ((s.visit_of_mission cmd.mission_id).map site_visit_to_domain)
  visits : s.SavesVisit visit t.site_visits
  proofs : s.presence_proofs.insert
    (new_presence_proof_row (CheckInInspector.proof w env cmd est visit.id)).stored =
      some t.presence_proofs
  records : s.idempotency_records.insert
    (new_idempotency_record_row cmd.scope cmd.client_request_id
      (CheckInInspector.payload w cmd est visit.id) env.record_id env.saved_at).stored =
        some t.idempotency_records
  frame : t = { s with
    site_visits := t.site_visits
    presence_proofs := t.presence_proofs
    idempotency_records := t.idempotency_records }

/-- A host confirmation without recorded response that was committed. -/
structure HostConfirmed (w : World F) (env : Env) (cmd : ConfirmHostCommand F) (s : Store F)
    (v : SiteVisitModel F) (m : MissionModel) (est : EstablishmentModel F)
    (mode : HostValidationMode) (host : Option (F × F)) (consumed : List (Write F))
    (latitude longitude : F) (t : Store F) : Prop where
  unrecorded : s.recorded cmd.scope cmd.client_request_id = none
  admits : ConfirmHostPresence.Admits w env cmd s v m est mode host consumed latitude longitude
  jtis : s.commit consumed = some { s with used_qr_jti := t.used_qr_jti }
  visits : Table.Replaces s.site_visits v (v.assigned (ConfirmHostPresence.visit v host))
    t.site_visits
  proofs : s.presence_proofs.insert
    (new_presence_proof_row (ConfirmHostPresence.proof env cmd v latitude longitude)).stored =
      some t.presence_proofs
  events : s.copresence_events.insert
    (new_copresence_event_row (ConfirmHostPresence.event env v) mode).stored =
      some t.copresence_events
  records : s.idempotency_records.insert
    (new_idempotency_record_row cmd.scope cmd.client_request_id (ConfirmHostPresence.payload v)
      env.record_id env.saved_at).stored = some t.idempotency_records
  frame : t = { s with
    site_visits := t.site_visits
    presence_proofs := t.presence_proofs
    copresence_events := t.copresence_events
    idempotency_records := t.idempotency_records
    used_qr_jti := t.used_qr_jti }

/-- A check-out without recorded response that was committed. -/
structure CheckedOut (env : Env) (cmd : CheckOutCommand) (s : Store F) (v : SiteVisitModel F)
    (m : MissionModel) (t : Store F) : Prop where
  unrecorded : s.recorded cmd.scope cmd.client_request_id = none
  admits : CheckOutVisit.Admits cmd s v m
  visits : Table.Replaces s.site_visits v (v.assigned (CheckOutVisit.visit env v)) t.site_visits
  records : s.idempotency_records.insert
    (new_idempotency_record_row cmd.scope cmd.client_request_id (CheckOutVisit.payload env v)
      env.record_id env.saved_at).stored = some t.idempotency_records
  frame : t = { s with
    site_visits := t.site_visits
    idempotency_records := t.idempotency_records }

/-- Everything a request that returns can have done: one case for each request, and one
for the visit requests answered from a record. -/
inductive Outcome (w : World F) : Call F → Store F → Response F → Store F → Prop
  | create_establishment {cmd env s establishments} :
      s.establishments.insert
        (new_establishment_row (CreateEstablishment.establishment env cmd)).stored =
          some establishments →
      Outcome w ⟨.create_establishment cmd, env⟩ s
        (.payload [("establishment_id", .str env.establishment_id.str)])
        { s with establishments := establishments }
  | update_establishment {establishment_id body env s row establishments} :
      s.establishments.get establishment_id = some row →
      Table.Replaces s.establishments row
        (row.assigned (body.apply_to (establishment_to_domain row))) establishments →
      Outcome w ⟨.update_establishment establishment_id body, env⟩ s
        (.establishment (body.apply_to (establishment_to_domain row)))
        { s with establishments := establishments }
  | create_mission {cmd env s est user missions} :
      s.establishments.get cmd.establishment_id = some est →
      UserAuthRepositoryImpl.get_by_id s cmd.inspector_id = .ok user →
      s.missions.insert (new_mission_row (CreateMission.mission env cmd) env.host_token).stored =
        some missions →
      Outcome w ⟨.create_mission cmd, env⟩ s
        (.payload [("mission_id", .str env.mission_id.str), ("host_token", .str env.host_token.str),
          ("status", .str (CreateMission.mission env cmd).status.value)])
        { s with missions := missions }
  | approve_mission {cmd env s m missions} :
      s.missions.get cmd.mission_id = some m → m.status = .DRAFT →
      Table.Replaces s.missions m
        (m.assigned { mission_to_domain m with status := .PLANNED }) missions →
      Outcome w ⟨.approve_mission cmd, env⟩ s (.mission { mission_to_domain m with status := .PLANNED })
        { s with missions := missions }
  | cancel_mission {cmd env s m mission missions} :
      s.missions.get cmd.mission_id = some m → m.status ≠ .COMPLETED →
      mission = (mission_to_domain m).cancelled (slice_to 4000 cmd.reason) (datetime.utc env.now)
        cmd.cancelled_by_user_id →
      Table.Replaces s.missions m (m.assigned mission) missions →
      Outcome w ⟨.cancel_mission cmd, env⟩ s (.mission mission) { s with missions := missions }
  | reassign_inspector {cmd env s m user cancelled missions} :
      s.missions.get cmd.mission_id = some m → ¬ (m.status = .COMPLETED ∨ m.status = .CANCELLED) →
      UserAuthRepositoryImpl.get_by_id s cmd.new_inspector_id = .ok user →
      Table.Replaces s.missions m (m.assigned (ReassignInspector.replaced env cmd m)) cancelled →
      cancelled.insert (new_mission_row (ReassignInspector.clone env cmd (mission_to_domain m))
        env.host_token).stored = some missions →
      Outcome w ⟨.reassign_inspector cmd, env⟩ s
        (.mission (ReassignInspector.clone env cmd (mission_to_domain m)))
        { s with missions := missions }
  | update_mission {mission_id body env s m status missions} :
      s.missions.get mission_id = some m → body.new_status m.status = .ok status →
      Table.Replaces s.missions m
        (m.assigned (body.apply_to (mission_to_domain m) status)) missions →
      Outcome w ⟨.update_mission mission_id body, env⟩ s
        (.mission (body.apply_to (mission_to_domain m) status)) { s with missions := missions }
  | replayed {request : Request F} {env s scope client_request_id record} :
      request.idempotency_key = some (scope, client_request_id) →
      s.recorded scope client_request_id = some record →
      Outcome w ⟨request, env⟩ s (.payload record.response_body) s
  | check_in {cmd env s m est visit t} :
      CheckedIn w env cmd s m est visit t →
      Outcome w ⟨.check_in cmd, env⟩ s (.payload (CheckInInspector.payload w cmd est visit.id)) t
  | confirm_host {cmd env s v m est mode host consumed latitude longitude t} :
      HostConfirmed w env cmd s v m est mode host consumed latitude longitude t →
      Outcome w ⟨.confirm_host cmd, env⟩ s (.payload (ConfirmHostPresence.payload v)) t
  | check_out {cmd env s v m t} :
      CheckedOut env cmd s v m t →
      Outcome w ⟨.check_out cmd, env⟩ s (.payload (CheckOutVisit.payload env v)) t
  | delete_older_than {cutoff env s} :
      Outcome w ⟨.delete_older_than cutoff, env⟩ s
        (.deleted (IdempotencyRepositoryImpl.delete_older_than s cutoff).length)
        { s with idempotency_records := s.idempotency_records.delete fun r => r.older_than cutoff }

variable {w : World F} {call : Call F} {env : Env} {s t : Store F} {r : Response F}

section writes

omit [NatCast F]

omit [LinearOrder F] in
theorem Env.Fresh.mission_id (h : env.Fresh s) : s.missions.get env.mission_id = none :=
  Store.get_mission_of_not_mem (h env.mission_id env.mission_id_mem)

omit [LinearOrder F] in
theorem Env.Fresh.visit_id (h : env.Fresh s) : s.site_visits.get env.visit_id = none :=
  Store.get_site_visit_of_not_mem (h env.visit_id env.visit_id_mem)

/-- Records older than the cutoff are the ones deleted. -/
theorem Store.commit_delete_older_than (s : Store F) (cutoff : datetime) :
    s.commit (IdempotencyRepositoryImpl.delete_older_than s cutoff) =
      some { s with
        idempotency_records := s.idempotency_records.delete fun r => r.older_than cutoff } := by
  have hids : IdempotencyRepositoryImpl.delete_older_than s cutoff =
      ((s.idempotency_records.rows.filter fun r => r.older_than cutoff).map (·.id)).map
        .delete_idempotency_record := by
    simp [IdempotencyRepositoryImpl.delete_older_than]
  rw [hids, Store.commit_delete_idempotency_records]
  congr 2
  apply Table.ext
  refine List.filter_congr ?_
  intro r hr
  by_cases hold : r.older_than cutoff = true
  · have hmem : r.id ∈ (s.idempotency_records.rows.filter fun r => r.older_than cutoff).map (·.id) :=
      List.mem_map_of_mem (List.mem_filter.mpr ⟨hr, hold⟩)
    simp [hmem, hold]
  · have hmem : r.id ∉ (s.idempotency_records.rows.filter fun r => r.older_than cutoff).map (·.id) := by
      rw [List.mem_map]
      rintro ⟨x, hx, hid⟩
      obtain ⟨hx, hxold⟩ := List.mem_filter.mp hx
      rw [s.idempotency_records.eq_of_key hx hr hid] at hxold
      exact hold hxold
    simp [hmem, hold]

theorem Store.commit_save_site_visit {visit : SiteVisit F} {rest : List (Write F)} :
    s.commit (SiteVisitRepositoryImpl.save s visit :: rest) = some t ↔
      ∃ visits, s.SavesVisit visit visits ∧
        Store.commit { s with site_visits := visits } rest = some t := by
  cases hv : s.site_visits.get visit.id with
  | none =>
    rw [SiteVisitRepositoryImpl.save_of_new hv]
    simp [Store.commit_add_site_visit, Store.SavesVisit, hv]
  | some v =>
    rw [SiteVisitRepositoryImpl.save_of_stored hv]
    simp [Store.commit_update_site_visit (Table.mem_of_get hv), Store.SavesVisit, hv,
      SiteVisitModel.assigned]

/-- What a mode consumes only ever adds to the consumed tokens. -/
theorem ConfirmHostPresence.Accepts.commit_eq [NatCast F] {cmd : ConfirmHostCommand F}
    {v : SiteVisitModel F} {m : MissionModel} {mode : HostValidationMode} {host : Option (F × F)}
    {consumed : List (Write F)} (h : ConfirmHostPresence.Accepts w env cmd s v m mode host consumed)
    {now : Store F} (hcommit : now.commit consumed = some t) :
    ∃ jtis, t = { now with used_qr_jti := jtis } := by
  cases h with
  | qr_jwt =>
    obtain ⟨rows, _, hnil⟩ := Store.commit_add_used_qr_jti.mp hcommit
    cases hnil
    exact ⟨rows, rfl⟩
  | app_gps | qr_token | sms =>
    cases hcommit
    exact ⟨_, rfl⟩

omit [LinearOrder F] in
theorem ConfirmHostPresence.save_eq {v : SiteVisitModel F} (h : v ∈ s.site_visits.rows)
    (host : Option (F × F)) :
    SiteVisitRepositoryImpl.save s (ConfirmHostPresence.visit v host) = .update_site_visit v
      (apply_site_visit_to_row (ConfirmHostPresence.visit v host) v) :=
  SiteVisitRepositoryImpl.save_of_stored (by
    rw [show (ConfirmHostPresence.visit v host).id = v.id by cases host <;> rfl]
    exact Table.get_of_mem h)

omit [LinearOrder F] in
theorem CheckOutVisit.save_eq {v : SiteVisitModel F} (h : v ∈ s.site_visits.rows) :
    SiteVisitRepositoryImpl.save s (CheckOutVisit.visit env v) = .update_site_visit v
      (apply_site_visit_to_row (CheckOutVisit.visit env v) v) :=
  SiteVisitRepositoryImpl.save_of_stored (Table.get_of_mem h)

end writes

/-- A request that returns has one of the listed outcomes, as soon as the identifier it
draws for a mission is new. -/
theorem outcome_of_exec_new (hnew : s.missions.get call.env.mission_id = none)
    (h : exec w call s = (.ok r, t)) : Outcome w call s r t := by
  obtain ⟨writes, hprepare, hcommit⟩ := exec_eq_ok_iff_commit.mp h
  obtain ⟨request, env⟩ := call
  cases request with
  | create_establishment cmd =>
    cases hprepare
    obtain ⟨rows, hrows, hnil⟩ := Store.commit_add_establishment.mp hcommit
    cases hnil
    exact .create_establishment hrows
  | update_establishment establishment_id body =>
    obtain ⟨_, hexecute, rfl⟩ := map_payload_eq_ok_iff.mp hprepare
    obtain ⟨row, hrow, rfl, rfl⟩ := update_establishment_eq_ok_iff.mp hexecute
    obtain ⟨rows, hrows, hnil⟩ := (Store.commit_update_establishment (Table.mem_of_get hrow)).mp hcommit
    cases hnil
    exact .update_establishment hrow hrows
  | create_mission cmd =>
    obtain ⟨_, hexecute, rfl⟩ := map_payload_eq_ok_iff.mp hprepare
    obtain ⟨est, user, hest, huser, rfl, rfl⟩ :=
      (CreateMission.execute_eq_ok_iff hnew).mp hexecute
    obtain ⟨rows, hrows, hnil⟩ := Store.commit_add_mission.mp hcommit
    cases hnil
    exact .create_mission hest huser hrows
  | approve_mission cmd =>
    obtain ⟨_, hexecute, rfl⟩ := map_payload_eq_ok_iff.mp hprepare
    obtain ⟨m, hm, hstatus, rfl, rfl⟩ := ApproveMission.execute_eq_ok_iff.mp hexecute
    obtain ⟨rows, hrows, hnil⟩ := (Store.commit_update_mission (Table.mem_of_get hm)).mp hcommit
    cases hnil
    exact .approve_mission hm hstatus hrows
  | cancel_mission cmd =>
    obtain ⟨_, hexecute, rfl⟩ := map_payload_eq_ok_iff.mp hprepare
    obtain ⟨m, hm, hstatus, rfl, rfl⟩ := CancelMission.execute_eq_ok_iff.mp hexecute
    obtain ⟨rows, hrows, hnil⟩ := (Store.commit_update_mission (Table.mem_of_get hm)).mp hcommit
    cases hnil
    exact .cancel_mission hm hstatus rfl hrows
  | reassign_inspector cmd =>
    obtain ⟨_, hexecute, rfl⟩ := map_payload_eq_ok_iff.mp hprepare
    obtain ⟨m, user, hm, hstatus, huser, rfl, rfl⟩ :=
      (ReassignInspector.execute_eq_ok_iff hnew).mp hexecute
    obtain ⟨rows, hrows, hrest⟩ := (Store.commit_update_mission (Table.mem_of_get hm)).mp hcommit
    obtain ⟨rows', hrows', hnil⟩ := Store.commit_add_mission.mp hrest
    cases hnil
    exact .reassign_inspector hm hstatus huser hrows hrows'
  | update_mission mission_id body =>
    obtain ⟨_, hexecute, rfl⟩ := map_payload_eq_ok_iff.mp hprepare
    obtain ⟨m, status, hm, hstatus, rfl, rfl⟩ := update_mission_eq_ok_iff.mp hexecute
    obtain ⟨rows, hrows, hnil⟩ := (Store.commit_update_mission (Table.mem_of_get hm)).mp hcommit
    cases hnil
    exact .update_mission hm hstatus hrows
  | check_in cmd =>
    obtain ⟨_, hexecute, rfl⟩ := map_payload_eq_ok_iff.mp hprepare
    rcases idempotent_eq_ok_iff.mp hexecute with ⟨record, hrecord, rfl, rfl⟩ | ⟨hrecord, effects, hbody, rfl⟩
    · cases hcommit
      exact .replayed rfl hrecord
    · obtain ⟨m, est, hadmits, rfl, rfl⟩ := CheckInInspector.body_eq_ok_iff.mp hbody
      obtain ⟨visits, hvisits, hrest⟩ := Store.commit_save_site_visit.mp hcommit
      obtain ⟨proofs, hproofs, hrest⟩ := Store.commit_add_presence_proof.mp hrest
      obtain ⟨records, hrecords, hnil⟩ := Store.commit_add_idempotency_record.mp hrest
      cases hnil
      exact .check_in ⟨hrecord, hadmits, rfl, hvisits, hproofs, hrecords, rfl⟩
  | confirm_host cmd =>
    obtain ⟨_, hexecute, rfl⟩ := map_payload_eq_ok_iff.mp hprepare
    rcases idempotent_eq_ok_iff.mp hexecute with ⟨record, hrecord, rfl, rfl⟩ | ⟨hrecord, effects, hbody, rfl⟩
    · cases hcommit
      exact .replayed rfl hrecord
    · obtain ⟨v, m, est, mode, host, consumed, latitude, longitude, hadmits, rfl, rfl⟩ :=
        ConfirmHostPresence.body_eq_ok_iff.mp hbody
      rw [List.append_assoc, Store.commit_append] at hcommit
      obtain ⟨u, hconsumed, hrest⟩ := Option.bind_eq_some_iff.mp hcommit
      obtain ⟨jtis, rfl⟩ := hadmits.accepts.commit_eq hconsumed
      have hv := Table.mem_of_get hadmits.visit
      rw [ConfirmHostPresence.save_eq hv] at hrest
      obtain ⟨visits, hvisits, hrest⟩ :=
        (Store.commit_update_site_visit (s := { s with used_qr_jti := jtis }) hv).mp hrest
      obtain ⟨proofs, hproofs, hrest⟩ := Store.commit_add_presence_proof.mp hrest
      obtain ⟨events, hevents, hrest⟩ := Store.commit_add_copresence_event.mp hrest
      obtain ⟨records, hrecords, hnil⟩ := Store.commit_add_idempotency_record.mp hrest
      cases hnil
      exact .confirm_host ⟨hrecord, hadmits, hconsumed, hvisits, hproofs, hevents, hrecords, rfl⟩
  | check_out cmd =>
    obtain ⟨_, hexecute, rfl⟩ := map_payload_eq_ok_iff.mp hprepare
    rcases idempotent_eq_ok_iff.mp hexecute with ⟨record, hrecord, rfl, rfl⟩ | ⟨hrecord, effects, hbody, rfl⟩
    · cases hcommit
      exact .replayed rfl hrecord
    · obtain ⟨v, m, hadmits, rfl, rfl⟩ := CheckOutVisit.body_eq_ok_iff.mp hbody
      have hv := Table.mem_of_get hadmits.visit
      rw [CheckOutVisit.save_eq hv] at hcommit
      obtain ⟨visits, hvisits, hrest⟩ := (Store.commit_update_site_visit hv).mp hcommit
      obtain ⟨records, hrecords, hnil⟩ := Store.commit_add_idempotency_record.mp hrest
      cases hnil
      exact .check_out ⟨hrecord, hadmits, hvisits, hrecords, rfl⟩
  | delete_older_than cutoff =>
    cases hprepare
    rw [Store.commit_delete_older_than] at hcommit
    cases hcommit
    exact .delete_older_than

/-- A request that returns has one of the listed outcomes. -/
theorem outcome_of_exec (hfresh : call.env.Fresh s) (h : exec w call s = (.ok r, t)) :
    Outcome w call s r t := outcome_of_exec_new hfresh.mission_id h

/-- Without a recorded response, a check-in that returns was committed. -/
theorem checked_in_of_exec {env : Env} {cmd : CheckInInspectorCommand F} (hfresh : env.Fresh s)
    (hrecord : s.recorded cmd.scope cmd.client_request_id = none) (h : exec w ⟨.check_in cmd, env⟩ s = (.ok r, t)) :
    ∃ m est visit, CheckedIn w env cmd s m est visit t ∧
      r = .payload (CheckInInspector.payload w cmd est visit.id) := by
  cases outcome_of_exec hfresh h with
  | replayed hkey hrecorded =>
    cases hkey
    rw [hrecord] at hrecorded
    cases hrecorded
  | check_in hin => exact ⟨_, _, _, hin, rfl⟩

/-- Without a recorded response, a confirmation that returns was committed. -/
theorem host_confirmed_of_exec {env : Env} {cmd : ConfirmHostCommand F} (hfresh : env.Fresh s)
    (hrecord : s.recorded cmd.scope cmd.client_request_id = none) (h : exec w ⟨.confirm_host cmd, env⟩ s = (.ok r, t)) :
    ∃ v m est mode host consumed latitude longitude,
      HostConfirmed w env cmd s v m est mode host consumed latitude longitude t ∧
      r = .payload (ConfirmHostPresence.payload v) := by
  cases outcome_of_exec hfresh h with
  | replayed hkey hrecorded =>
    cases hkey
    rw [hrecord] at hrecorded
    cases hrecorded
  | confirm_host hconfirmed => exact ⟨_, _, _, _, _, _, _, _, hconfirmed, rfl⟩

/-- Each listed outcome is what its request does. -/
theorem Outcome.exec_new (hnew : s.missions.get call.env.mission_id = none) (h : Outcome w call s r t) :
    exec w call s = (.ok r, t) := by
  rw [exec_eq_ok_iff_commit]
  cases h with
  | create_establishment hrows =>
    exact ⟨_, rfl, Store.commit_add_establishment.mpr ⟨_, hrows, rfl⟩⟩
  | update_establishment hrow hrows =>
    exact ⟨_, map_payload_eq_ok_iff.mpr
      ⟨_, update_establishment_eq_ok_iff.mpr ⟨_, hrow, rfl, rfl⟩, rfl⟩,
      (Store.commit_update_establishment (Table.mem_of_get hrow)).mpr ⟨_, hrows, rfl⟩⟩
  | create_mission hest huser hrows =>
    exact ⟨_, map_payload_eq_ok_iff.mpr
      ⟨_, (CreateMission.execute_eq_ok_iff hnew).mpr ⟨_, _, hest, huser, rfl, rfl⟩, rfl⟩,
      Store.commit_add_mission.mpr ⟨_, hrows, rfl⟩⟩
  | approve_mission hm hstatus hrows =>
    exact ⟨_, map_payload_eq_ok_iff.mpr
      ⟨_, ApproveMission.execute_eq_ok_iff.mpr ⟨_, hm, hstatus, rfl, rfl⟩, rfl⟩,
      (Store.commit_update_mission (Table.mem_of_get hm)).mpr ⟨_, hrows, rfl⟩⟩
  | cancel_mission hm hstatus hmission hrows =>
    exact ⟨_, map_payload_eq_ok_iff.mpr
      ⟨_, CancelMission.execute_eq_ok_iff.mpr ⟨_, hm, hstatus, hmission, rfl⟩, rfl⟩,
      (Store.commit_update_mission (Table.mem_of_get hm)).mpr ⟨_, hrows, rfl⟩⟩
  | reassign_inspector hm hstatus huser hrows hrows' =>
    exact ⟨_, map_payload_eq_ok_iff.mpr ⟨_, (ReassignInspector.execute_eq_ok_iff hnew).mpr
      ⟨_, _, hm, hstatus, huser, rfl, rfl⟩, rfl⟩,
      (Store.commit_update_mission (Table.mem_of_get hm)).mpr
        ⟨_, hrows, Store.commit_add_mission.mpr ⟨_, hrows', rfl⟩⟩⟩
  | update_mission hm hstatus hrows =>
    exact ⟨_, map_payload_eq_ok_iff.mpr
      ⟨_, update_mission_eq_ok_iff.mpr ⟨_, _, hm, hstatus, rfl, rfl⟩, rfl⟩,
      (Store.commit_update_mission (Table.mem_of_get hm)).mpr ⟨_, hrows, rfl⟩⟩
  | @replayed request env _ scope client_request_id record hkey hrecord =>
    refine ⟨[], ?_, rfl⟩
    cases request <;> cases hkey
    all_goals exact map_payload_eq_ok_iff.mpr ⟨_, idempotent_of_recorded hrecord, rfl⟩
  | check_in h =>
    refine ⟨_, map_payload_eq_ok_iff.mpr ⟨_, idempotent_eq_ok_iff.mpr (Or.inr ⟨h.unrecorded, _,
      CheckInInspector.body_eq_ok_iff.mpr ⟨_, _, h.admits, rfl, rfl⟩, rfl⟩), ?_⟩, ?_⟩
    · rw [h.visit_eq]
    · rw [← h.visit_eq, h.frame]
      exact Store.commit_save_site_visit.mpr ⟨_, h.visits, Store.commit_add_presence_proof.mpr
        ⟨_, h.proofs, Store.commit_add_idempotency_record.mpr ⟨_, h.records, rfl⟩⟩⟩
  | @confirm_host cmd env _ v m est mode host consumed latitude longitude _ h =>
    have hv := Table.mem_of_get h.admits.visit
    refine ⟨_, map_payload_eq_ok_iff.mpr ⟨_, idempotent_eq_ok_iff.mpr (Or.inr ⟨h.unrecorded, _,
      ConfirmHostPresence.body_eq_ok_iff.mpr ⟨_, _, _, _, _, _, _, _, h.admits, rfl, rfl⟩, rfl⟩), rfl⟩,
      ?_⟩
    rw [List.append_assoc, Store.commit_append, h.jtis, Option.bind_some,
      ConfirmHostPresence.save_eq hv, h.frame]
    exact (Store.commit_update_site_visit (s := { s with used_qr_jti := t.used_qr_jti }) hv).mpr
      ⟨_, h.visits, Store.commit_add_presence_proof.mpr ⟨_, h.proofs,
        Store.commit_add_copresence_event.mpr ⟨_, h.events,
          Store.commit_add_idempotency_record.mpr ⟨_, h.records, rfl⟩⟩⟩⟩
  | check_out h =>
    have hv := Table.mem_of_get h.admits.visit
    refine ⟨_, map_payload_eq_ok_iff.mpr ⟨_, idempotent_eq_ok_iff.mpr (Or.inr ⟨h.unrecorded, _,
      CheckOutVisit.body_eq_ok_iff.mpr ⟨_, _, h.admits, rfl, rfl⟩, rfl⟩), rfl⟩, ?_⟩
    rw [CheckOutVisit.save_eq hv, h.frame]
    exact (Store.commit_update_site_visit hv).mpr
      ⟨_, h.visits, Store.commit_add_idempotency_record.mpr ⟨_, h.records, rfl⟩⟩
  | delete_older_than => exact ⟨_, rfl, Store.commit_delete_older_than _ _⟩

theorem Outcome.exec (hfresh : call.env.Fresh s) (h : Outcome w call s r t) :
    exec w call s = (.ok r, t) := h.exec_new hfresh.mission_id

theorem exec_eq_ok_iff (hfresh : call.env.Fresh s) :
    exec w call s = (.ok r, t) ↔ Outcome w call s r t :=
  ⟨outcome_of_exec hfresh, Outcome.exec hfresh⟩

/-- A served request has one of the listed outcomes, or has left the store as it was. -/
theorem Served.outcome (h : Served w s call t) : t = s ∨ ∃ r, Outcome w call s r t := by
  rcases h.cases with ⟨r, hexec⟩ | ⟨_, rfl⟩
  · exact Or.inr ⟨r, outcome_of_exec h.1 hexec⟩
  · exact Or.inl rfl

/-- What every outcome keeps holds after a run. -/
theorem invariant_of_outcomes (I : Store F → Prop) {init : Store F} {calls : List (Call F)} (hrun : Run w init calls s)
    (hinit : I init) (hstep : ∀ {x call r y}, I x → call.env.Fresh x → Outcome w call x r y → I y) : I s := by
  refine hrun.invariant I ?_ hinit
  intro x call y hx hserved
  rcases hserved.outcome with rfl | ⟨r, houtcome⟩
  · exact hx
  · exact hstep hx hserved.1 houtcome

end sigis
