import Sigis.Application.Ports

open guarded relational

namespace sigis

structure UpdateMissionBody where
  window_start : Option datetime := none
  window_end : Option datetime := none
  status : Option String := none
  sms_code : Option String := none
  designated_host_user_id : Option UUID := none
  objective : Option String := none
  plan_reference : Option String := none

/-- The status a PATCH leaves: `MissionStatus(body.status)` when one is given. -/
def UpdateMissionBody.new_status (body : UpdateMissionBody) (current : MissionStatus) :
    Except Error MissionStatus :=
  match body.status with
  | none => .ok current
  | some value =>
    get_or_raise (MissionStatus.of_value value) (Conflict ("Statut inconnu : " ++ value ++ "."))

/-- The mission with the fields of the body that are given, and its new status. -/
def UpdateMissionBody.apply_to (body : UpdateMissionBody) (mission : Mission)
    (status : MissionStatus) : Mission :=
  { mission with
    window_start := body.window_start.getD mission.window_start
    window_end := body.window_end.getD mission.window_end
    status := status
    sms_code := body.sms_code.or mission.sms_code
    designated_host_user_id := body.designated_host_user_id.or mission.designated_host_user_id
    objective := body.objective.or mission.objective
    plan_reference := body.plan_reference.or mission.plan_reference }

variable {F : Type}

/-- `PATCH /missions/{id}`. -/
def update_mission (mission_id : UUID) (body : UpdateMissionBody) (s : Store F) :
    Except Error (Mission × List (Write F)) := do
  let mission ← get_or_raise (MissionRepositoryImpl.get_by_id s mission_id)
    (NotFound "Mission introuvable.")
  let status ← body.new_status mission.status
  let mission := body.apply_to mission status
  let updated ← MissionRepositoryImpl.update s mission
  return (mission, [updated])

theorem update_mission_eq_ok_iff {mission_id : UUID} {body : UpdateMissionBody} {s : Store F}
    {mission : Mission} {writes : List (Write F)} :
    update_mission mission_id body s = .ok (mission, writes) ↔
      ∃ m status, s.missions.get mission_id = some m ∧ body.new_status m.status = .ok status ∧
        mission = body.apply_to (mission_to_domain m) status ∧
        writes = [.update_mission m (apply_mission_to_row mission m)] := by
  simp only [update_mission, bind_eq_ok_iff, get_or_raise_eq_ok, pure_eq_ok, Except.ok.injEq,
    Prod.mk.injEq, MissionRepositoryImpl.get_by_id, Option.map_eq_some_iff]
  constructor
  · rintro ⟨_, ⟨m, hm, rfl⟩, status, hstatus, updated, hupdated, rfl, rfl⟩
    rw [MissionRepositoryImpl.update_of_loaded hm rfl] at hupdated
    cases hupdated
    exact ⟨m, status, hm, hstatus, rfl, rfl⟩
  · rintro ⟨m, status, hm, hstatus, rfl, rfl⟩
    exact ⟨_, ⟨m, hm, rfl⟩, status, hstatus, _, MissionRepositoryImpl.update_of_loaded hm rfl, rfl, rfl⟩

end sigis
