import Sigis.Application.Ports

open guarded relational

namespace sigis

structure ApproveMissionCommand where
  mission_id : UUID
  approver_user_id : UUID

structure CancelMissionCommand where
  mission_id : UUID
  reason : String
  cancelled_by_user_id : UUID

structure ReassignInspectorCommand where
  mission_id : UUID
  new_inspector_id : UUID
  actor_user_id : UUID

variable {F : Type}

def ApproveMission.execute (cmd : ApproveMissionCommand) (s : Store F) :
    Except Error (Mission × List (Write F)) := do
  let mission ← get_or_raise (MissionRepositoryImpl.get_by_id s cmd.mission_id)
    (NotFound "Mission introuvable.")
  raise_if (mission.status ≠ .DRAFT)
    (Conflict "Seules les missions en brouillon (draft) peuvent être validées.")
  let mission := { mission with status := .PLANNED }
  let updated ← MissionRepositoryImpl.update s mission
  return (mission, [updated])

/-- The assignments that cancel a mission. -/
def Mission.cancelled (mission : Mission) (reason : String) (cancelled_at : datetime)
    (cancelled_by_user_id : UUID) : Mission :=
  { mission with
    status := .CANCELLED
    cancellation_reason := some reason
    cancelled_at := some cancelled_at
    cancelled_by_user_id := some cancelled_by_user_id }

def CancelMission.execute (env : Env) (cmd : CancelMissionCommand) (s : Store F) :
    Except Error (Mission × List (Write F)) := do
  let mission ← get_or_raise (MissionRepositoryImpl.get_by_id s cmd.mission_id)
    (NotFound "Mission introuvable.")
  raise_if (mission.status = .COMPLETED)
    (Conflict "Une mission terminée ne peut pas être annulée.")
  let mission := mission.cancelled (slice_to 4000 cmd.reason) (datetime.utc env.now)
    cmd.cancelled_by_user_id
  let updated ← MissionRepositoryImpl.update s mission
  return (mission, [updated])

/-- The mission that replaces a reassigned one. -/
def ReassignInspector.clone (env : Env) (cmd : ReassignInspectorCommand) (old : Mission) :
    Mission where
  id := env.mission_id
  establishment_id := old.establishment_id
  inspector_id := cmd.new_inspector_id
  window_start := old.window_start
  window_end := old.window_end
  status := .PLANNED
  host_token := some env.host_token
  sms_code := old.sms_code
  designated_host_user_id := old.designated_host_user_id
  objective := old.objective
  plan_reference := old.plan_reference
  requires_approval := false
  previous_mission_id := some old.id

def ReassignInspector.execute (env : Env) (cmd : ReassignInspectorCommand) (s : Store F) :
    Except Error (Mission × List (Write F)) := do
  let old ← get_or_raise (MissionRepositoryImpl.get_by_id s cmd.mission_id)
    (NotFound "Mission introuvable.")
  raise_if (old.status = .COMPLETED ∨ old.status = .CANCELLED)
    (Conflict "Mission terminée ou annulée : réaffectation impossible.")
  let _ ← UserAuthRepositoryImpl.get_by_id s cmd.new_inspector_id
  let clone := ReassignInspector.clone env cmd old
  let old := old.cancelled "Réaffectation vers une nouvelle mission." (datetime.utc env.now)
    cmd.actor_user_id
  let updated ← MissionRepositoryImpl.update s old
  let saved ← MissionRepositoryImpl.save s clone
  return (clone, [updated, saved])

section specification

variable {env : Env} {s : Store F} {mission : Mission} {writes : List (Write F)}

/-- A mission that is loaded, tested and written with changes that keep its identifier. -/
theorem load_test_update_eq_ok_iff {mission_id : UUID} {absent refusal : Error} (refused : MissionStatus → Prop)
    [DecidablePred refused] (change : Mission → Mission) (hid : ∀ m, (change m).id = m.id) :
    (do
      let mission ← get_or_raise (MissionRepositoryImpl.get_by_id s mission_id) absent
      raise_if (refused mission.status) refusal
      let updated ← MissionRepositoryImpl.update s (change mission)
      return (change mission, [updated])) = .ok (mission, writes) ↔
      ∃ m, s.missions.get mission_id = some m ∧ ¬refused m.status ∧ mission = change (mission_to_domain m) ∧
        writes = [.update_mission m (apply_mission_to_row mission m)] := by
  simp only [bind_eq_ok_iff, get_or_raise_eq_ok, raise_if_eq_ok, pure_eq_ok, Except.ok.injEq, Prod.mk.injEq,
    MissionRepositoryImpl.get_by_id, Option.map_eq_some_iff]
  constructor
  · rintro ⟨_, ⟨m, hm, rfl⟩, _, hstatus, updated, hupdated, rfl, rfl⟩
    rw [MissionRepositoryImpl.update_of_loaded hm (hid _)] at hupdated
    cases hupdated
    exact ⟨m, hm, hstatus, rfl, rfl⟩
  · rintro ⟨m, hm, hstatus, rfl, rfl⟩
    exact ⟨_, ⟨m, hm, rfl⟩, (), hstatus, _, MissionRepositoryImpl.update_of_loaded hm (hid _), rfl, rfl⟩

theorem ApproveMission.execute_eq_ok_iff {cmd : ApproveMissionCommand} :
    ApproveMission.execute cmd s = .ok (mission, writes) ↔
      ∃ m, s.missions.get cmd.mission_id = some m ∧ m.status = .DRAFT ∧
        mission = { mission_to_domain m with status := .PLANNED } ∧
        writes = [.update_mission m (apply_mission_to_row mission m)] := by
  refine (load_test_update_eq_ok_iff (fun status => status ≠ .DRAFT)
    (fun mission => { mission with status := .PLANNED }) fun _ => rfl).trans ?_
  simp only [not_not]

theorem CancelMission.execute_eq_ok_iff {cmd : CancelMissionCommand} :
    CancelMission.execute env cmd s = .ok (mission, writes) ↔
      ∃ m, s.missions.get cmd.mission_id = some m ∧ m.status ≠ .COMPLETED ∧
        mission = (mission_to_domain m).cancelled (slice_to 4000 cmd.reason) (datetime.utc env.now)
          cmd.cancelled_by_user_id ∧
        writes = [.update_mission m (apply_mission_to_row mission m)] :=
  load_test_update_eq_ok_iff (fun status => status = .COMPLETED)
    (fun mission => mission.cancelled (slice_to 4000 cmd.reason) (datetime.utc env.now) cmd.cancelled_by_user_id)
    fun _ => rfl

/-- The old mission as a reassignment leaves it. -/
def ReassignInspector.replaced (env : Env) (cmd : ReassignInspectorCommand) (m : MissionModel) :
    Mission :=
  (mission_to_domain m).cancelled "Réaffectation vers une nouvelle mission." (datetime.utc env.now)
    cmd.actor_user_id

/-- Under a fresh identifier, a mission that is neither completed nor cancelled is
reassigned to an existing user. -/
theorem ReassignInspector.execute_eq_ok_iff {cmd : ReassignInspectorCommand}
    (hnew : s.missions.get env.mission_id = none) :
    ReassignInspector.execute env cmd s = .ok (mission, writes) ↔
      ∃ m user, s.missions.get cmd.mission_id = some m ∧
        ¬ (m.status = .COMPLETED ∨ m.status = .CANCELLED) ∧
        UserAuthRepositoryImpl.get_by_id s cmd.new_inspector_id = .ok user ∧
        mission = ReassignInspector.clone env cmd (mission_to_domain m) ∧
        writes = [.update_mission m (apply_mission_to_row (ReassignInspector.replaced env cmd m) m),
          .add_mission (new_mission_row mission env.host_token)] := by
  have hsave : ∀ m, MissionRepositoryImpl.save s (ReassignInspector.clone env cmd (mission_to_domain m)) =
      .ok (.add_mission (new_mission_row (ReassignInspector.clone env cmd (mission_to_domain m))
        env.host_token)) := fun m => MissionRepositoryImpl.save_of_new hnew rfl
  simp only [ReassignInspector.execute, bind_eq_ok_iff, get_or_raise_eq_ok, raise_if_eq_ok, pure_eq_ok,
    Except.ok.injEq, Prod.mk.injEq, MissionRepositoryImpl.get_by_id, Option.map_eq_some_iff]
  constructor
  · rintro ⟨_, ⟨m, hm, rfl⟩, _, hstatus, user, huser, updated, hupdated, saved, hsaved, rfl, rfl⟩
    rw [MissionRepositoryImpl.update_of_loaded hm rfl] at hupdated
    rw [hsave] at hsaved
    cases hupdated
    cases hsaved
    exact ⟨m, user, hm, hstatus, huser, rfl, rfl⟩
  · rintro ⟨m, user, hm, hstatus, huser, rfl, rfl⟩
    exact ⟨_, ⟨m, hm, rfl⟩, (), hstatus, user, huser, _, MissionRepositoryImpl.update_of_loaded hm rfl, _,
      hsave m, rfl, rfl⟩

end specification

end sigis
