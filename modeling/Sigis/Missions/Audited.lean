import Sigis.Api.MissionEndpoints
import Sigis.Missions.Cancellation

open guarded relational transactional transition

namespace sigis

variable {F : Type}

/-- The request to the use case behind the route: the user of the request is its actor. -/
def MissionCall.request (call : MissionCall) : Request F :=
  match call.route with
  | .create_mission body => .create_mission body
  | .update_mission mission_id body => .update_mission mission_id body
  | .approve_mission mission_id => .approve_mission ⟨mission_id, call.context.user⟩
  | .cancel_mission_ep mission_id reason => .cancel_mission ⟨mission_id, reason, call.context.user⟩
  | .reassign_mission mission_id new_inspector_id =>
    .reassign_inspector ⟨mission_id, new_inspector_id, call.context.user⟩

/-- The entry is by the user of the request, and about the mission. -/
def MissionCall.Enters (call : MissionCall) (mission_id : UUID) (entry : AuditLogModel) : Prop :=
  entry.actor_user_id = some call.context.user ∧ entry.Names mission_id

variable {x y : AuditedStore F} {call : MissionCall} {r : Response F} {pending : Pending F}

variable [LinearOrder F] [NatCast F] {w : World F} {m : MissionModel} {mission : Mission}

/-- What a route prepares on the store is what the request to its use case prepares. -/
theorem MissionCall.prepare_request (h : call.prepare x = .ok (r, pending)) :
    Call.prepare w ⟨call.request, call.env⟩ x.store = .ok (r, pending.writes) := by
  obtain ⟨route, context, env⟩ := call
  cases route with
  | create_mission body =>
    obtain ⟨created, hexecute, rfl, -⟩ := create_mission_eq_ok_iff.mp h
    exact map_payload_eq_ok_iff.mpr ⟨created, hexecute, rfl⟩
  | update_mission mission_id body =>
    obtain ⟨mission, hexecute, rfl, -⟩ := patch_mission_eq_ok_iff.mp h
    exact map_payload_eq_ok_iff.mpr ⟨mission, hexecute, rfl⟩
  | approve_mission mission_id =>
    obtain ⟨mission, hexecute, rfl, -⟩ := approve_mission_eq_ok_iff.mp h
    exact map_payload_eq_ok_iff.mpr ⟨mission, hexecute, rfl⟩
  | cancel_mission_ep mission_id reason =>
    obtain ⟨mission, hexecute, rfl, -⟩ := cancel_mission_ep_eq_ok_iff.mp h
    exact map_payload_eq_ok_iff.mpr ⟨mission, hexecute, rfl⟩
  | reassign_mission mission_id new_inspector_id =>
    obtain ⟨mission, hexecute, rfl, -⟩ := reassign_mission_eq_ok_iff.mp h
    exact map_payload_eq_ok_iff.mpr ⟨mission, hexecute, rfl⟩

omit [LinearOrder F] [NatCast F] in
/-- A route that assigns a mission leaves an entry about it, unless it is the PATCH. -/
theorem MissionCall.audits_of_assigns (h : call.prepare x = .ok (r, pending))
    (hassigns : Call.Assigns (F := F) ⟨call.request, call.env⟩ m mission) :
    (∃ body status, call.route = .update_mission m.id body ∧ body.new_status m.status = .ok status ∧
      mission.status = status) ∨
    ∃ entry, pending.audits = [entry] ∧ call.Enters m.id entry := by
  obtain ⟨route, context, env⟩ := call
  cases route with
  | create_mission body => cases hassigns
  | update_mission mission_id body =>
    generalize hrequest : MissionCall.request _ = request at hassigns
    cases hassigns <;> cases hrequest
    next status hstatus => exact Or.inl ⟨body, status, rfl, hstatus, rfl⟩
  | approve_mission mission_id =>
    obtain ⟨approved, -, -, haudits⟩ := approve_mission_eq_ok_iff.mp h
    refine Or.inr ⟨_, haudits, rfl, Or.inl ?_⟩
    cases hassigns with
    | approve_mission hid => exact congrArg (fun id => some id.str) hid
  | cancel_mission_ep mission_id reason =>
    obtain ⟨cancelled, -, -, haudits⟩ := cancel_mission_ep_eq_ok_iff.mp h
    refine Or.inr ⟨_, haudits, rfl, Or.inl ?_⟩
    cases hassigns with
    | cancel_mission hid => exact congrArg (fun id => some id.str) hid
  | reassign_mission mission_id new_inspector_id =>
    obtain ⟨clone, -, -, haudits⟩ := reassign_mission_eq_ok_iff.mp h
    -- The entry is about the new mission: the old one is in its payload.
    refine Or.inr ⟨_, haudits, rfl, Or.inr ⟨_, rfl, _, List.mem_cons_self, ?_⟩⟩
    cases hassigns with
    | reassign_inspector hid => exact congrArg (fun id => Json.str id.str) hid

omit [NatCast F] in
theorem MissionCall.serve_eq_ok_iff :
    call.serve x = (.ok r, y) ↔ ∃ pending, call.prepare x = .ok (r, pending) ∧
      x.store.commit pending.writes = some y.store ∧
      insert_audits x.audit_logs pending.audits = some y.audit_logs := by
  refine Database.run_eq_ok_iff.trans (exists_congr fun pending => and_congr_right fun _ => ?_)
  change (x.store.commit pending.writes).bind (fun store =>
    (insert_audits x.audit_logs pending.audits).bind fun logs => some ⟨store, logs⟩) = some y ↔ _
  simp only [Option.bind_eq_some_iff, Option.some.injEq]
  constructor
  · rintro ⟨store, hstore, logs, hlogs, rfl⟩
    exact ⟨hstore, hlogs⟩
  · rintro ⟨hstore, hlogs⟩
    exact ⟨_, hstore, _, hlogs, rfl⟩

omit [NatCast F] in
/-- A request that raises commits nothing. -/
theorem MissionCall.eq_of_serve_eq_error {e : Error} (h : (call.serve x).1 = .error e) : (call.serve x).2 = x := by
  have herror : call.serve x = (.error e, (call.serve x).2) := Prod.ext h rfl
  exact Database.store_of_run_eq_error herror

/-- A route that returns has the outcome of the request to its use case. -/
theorem MissionCall.outcome_of_serve (hfresh : call.env.Fresh x.store) (h : call.serve x = (.ok r, y)) :
    Outcome w ⟨call.request, call.env⟩ x.store r y.store := by
  obtain ⟨pending, hprepare, hstore, -⟩ := MissionCall.serve_eq_ok_iff.mp h
  exact outcome_of_exec hfresh (exec_eq_ok_iff_commit.mpr ⟨_, MissionCall.prepare_request hprepare, hstore⟩)

theorem entry_of_insert_audits {logs more : Table AuditLogModel} {entry : AuditLogModel}
    (h : insert_audits logs [entry] = some more) :
    entry.stored ∈ more.rows ∧ entry.stored ∉ logs.rows := by
  obtain ⟨inserted, hinsert, hnil⟩ := Option.bind_eq_some_iff.mp h
  cases hnil
  obtain ⟨hfree, hrows⟩ := Table.insert_eq_some_iff.mp hinsert
  refine ⟨by simp [hrows], fun hmem => ?_⟩
  exact hfree _ hmem (clash_of_key rfl)

/-- Each mission whose status the request changes is named by a new entry, by its user. -/
def MissionCall.AuditsStatus (call : MissionCall) (x y : AuditedStore F) : Prop :=
  ∀ id m m', x.store.missions.get id = some m → y.store.missions.get id = some m' → m'.status ≠ m.status →
    ∃ entry ∈ y.audit_logs.rows, entry ∉ x.audit_logs.rows ∧ call.Enters id entry

/-- A PATCH names no status but the one its mission has. -/
def MissionCall.PatchesNoStatus (call : MissionCall) (x : AuditedStore F) : Prop :=
  ∀ mission_id body m value status, call.route = .update_mission mission_id body →
    x.store.missions.get mission_id = some m → body.status = some value →
    MissionStatus.of_value value = some status → status = m.status

theorem MissionCall.audits_status (hfresh : call.env.Fresh x.store) (h : call.serve x = (.ok r, y))
    (hpatch : call.PatchesNoStatus x) (w : World F) : call.AuditsStatus x y := by
  intro id m m' hm hm' hne
  obtain ⟨pending, hprepare, -, hlogs⟩ := MissionCall.serve_eq_ok_iff.mp h
  cases (MissionCall.outcome_of_serve (w := w) hfresh h).leaves hm' with
  | kept hkept =>
    cases hm.symm.trans hkept
    exact absurd rfl hne
  | @assigned old mission hold hassigns =>
    cases hm.symm.trans hold
    obtain rfl : m.id = id := Table.key_of_get hm
    rcases MissionCall.audits_of_assigns hprepare hassigns with
      ⟨body, status, hroute, hstatus, rfl⟩ | ⟨entry, haudits, huser, hnames⟩
    · refine absurd ?_ hne
      rw [MissionModel.status_assigned]
      cases hbody : body.status with
      | none =>
        rw [UpdateMissionBody.new_status, hbody] at hstatus
        exact (Except.ok.inj hstatus).symm
      | some value =>
        rw [UpdateMissionBody.new_status, hbody] at hstatus
        exact hpatch _ body m value _ hroute hm hbody (get_or_raise_eq_ok.mp hstatus)
    · rw [haudits] at hlogs
      obtain ⟨hmem, hnew⟩ := entry_of_insert_audits hlogs
      exact ⟨entry.stored, hmem, hnew, huser, hnames⟩
  | created hnone => cases hm.symm.trans hnone

omit [NatCast F] in
/-- A PATCH that names a status returns with it, and enters nothing. -/
theorem MissionCall.serve_patch {mission_id : UUID} {body : UpdateMissionBody} {value : String}
    {status : MissionStatus} (hroute : call.route = .update_mission mission_id body)
    (hm : x.store.missions.get mission_id = some m) (hbody : body.status = some value)
    (hstatus : MissionStatus.of_value value = some status) :
    ∃ r y m', call.serve x = (.ok r, y) ∧ y.audit_logs = x.audit_logs ∧
      y.store.missions.get mission_id = some m' ∧ m'.status = status := by
  obtain ⟨route, context, env⟩ := call
  cases hroute
  have hnew : body.new_status m.status = .ok status := by
    rw [UpdateMissionBody.new_status, hbody]
    exact get_or_raise_eq_ok.mpr hstatus
  obtain ⟨rows, hrows⟩ := Table.exists_replaces
    (MissionModel.keeps_flush m (apply_mission_to_row (body.apply_to (mission_to_domain m) status) m))
    (Table.mem_of_get hm)
  refine ⟨_, ⟨{ x.store with missions := rows }, x.audit_logs⟩, m.assigned (body.apply_to (mission_to_domain m) status),
    MissionCall.serve_eq_ok_iff.mpr ⟨⟨_, []⟩, patch_mission_eq_ok_iff.mpr
      ⟨_, update_mission_eq_ok_iff.mpr ⟨m, status, hm, hnew, rfl, rfl⟩, rfl, rfl⟩, ?_, rfl⟩, rfl, ?_, ?_⟩
  · exact (Store.commit_update_mission (Table.mem_of_get hm)).mpr ⟨rows, hrows, rfl⟩
  · obtain rfl : m.id = mission_id := Table.key_of_get hm
    exact hrows.get_self
  · exact MissionModel.status_assigned _ _

variable {init s : AuditedStore F} {calls : List MissionCall}

/-- Whatever a route takes, some world serves it: the routes use nothing of it. -/
theorem World.exists (F : Type) [NatCast F] : Nonempty (World F) :=
  ⟨⟨fun _ _ _ _ => ((0 : Nat) : F), ⟨"", ""⟩, ⟨fun _ _ _ _ _ => .error .PyJWTError⟩⟩⟩

/-- In a run of the mission routes no request that raises enters anything; and each change of the
status of a mission is entered, by the user of the request that made it, exactly when no PATCH
of the run changes a status: it is the one of the routes that leaves no entry. -/
theorem status_changes_audited_iff :
    (∀ x call y, Takes AuditedServed init calls s x call y → call.AuditsStatus x y ∧
      ∀ e, (call.serve x).1 = .error e → y.audit_logs = x.audit_logs) ↔
    ∀ x call y, Takes AuditedServed init calls s x call y → call.PatchesNoStatus x := by
  constructor
  · intro haudits x call y htakes mission_id body m value status hroute hm hbody hstatus
    obtain ⟨hfresh, hserve⟩ := htakes.taken
    obtain ⟨r, t, m', hreturns, hlogs, hm', rfl⟩ := MissionCall.serve_patch hroute hm hbody hstatus
    obtain rfl : t = y := by rw [← hserve, hreturns]
    by_contra hne
    obtain ⟨entry, hentry, hnew, -⟩ := (haudits x call t htakes).1 mission_id m m' hm hm' hne
    rw [hlogs] at hentry
    exact hnew hentry
  · intro hpatch x call y htakes
    obtain ⟨hfresh, rfl⟩ := htakes.taken
    refine ⟨?_, fun e he => by rw [MissionCall.eq_of_serve_eq_error he]⟩
    obtain ⟨w⟩ := World.exists F
    cases hserve : call.serve x with
    | mk result t =>
      cases result with
      | ok r => exact MissionCall.audits_status hfresh hserve (hpatch _ _ _ htakes) w
      | error e =>
        obtain rfl := Database.store_of_run_eq_error hserve
        intro id m m' hm hm' hne
        cases hm.symm.trans hm'
        exact absurd rfl hne

namespace pilot

/-- The supervisor sends the request. -/
def auditor : AuditContext where
  user := ⟨"supervisor"⟩
  request_id := none
  audit_id := ⟨"audit-1"⟩
  audited_at := 2

def strike_route : MissionCall where
  route := .update_mission ⟨"mission"⟩ strike
  context := auditor
  env := surroundings "1" 2

noncomputable def unaudited : AuditedStore ℝ where
  store := planned
  audit_logs := .empty

end pilot

/-- A PATCH cancels the pilot mission, and the log stays empty. -/
theorem status_change_unaudited : ∃ y,
    Execution AuditedServed pilot.unaudited [pilot.strike_route] y ∧
    pilot.unaudited.store.missions.get ⟨"mission"⟩ = some pilot.mission ∧
    pilot.mission.status = .PLANNED ∧
    (∃ m', y.store.missions.get ⟨"mission"⟩ = some m' ∧ m'.status = .CANCELLED) ∧
    y.audit_logs.rows = [] ∧ ¬ pilot.strike_route.AuditsStatus pilot.unaudited y := by
  have hroute : pilot.strike_route.route = .update_mission ⟨"mission"⟩ pilot.strike := rfl
  have hm : pilot.unaudited.store.missions.get ⟨"mission"⟩ = some pilot.mission := rfl
  obtain ⟨r, y, m', hserve, hlogs, hm', hstatus⟩ := MissionCall.serve_patch hroute hm rfl rfl
  have hfresh : pilot.strike_route.env.Fresh pilot.unaudited.store :=
    show (pilot.surroundings "1" 2).Fresh pilot.planned by decide
  have hempty : y.audit_logs.rows = [] := by
    rw [hlogs]
    rfl
  refine ⟨y, Execution.single ⟨hfresh, by rw [hserve]⟩, rfl, rfl, ⟨m', hm', hstatus⟩, hempty, fun haudits => ?_⟩
  obtain ⟨entry, hentry, -⟩ := haudits _ _ _ hm hm' (by rw [hstatus]; decide)
  rw [hempty] at hentry
  cases hentry

end sigis
