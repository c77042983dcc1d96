import Sigis.Application.Ports

open guarded relational

namespace sigis

structure CreateMissionCommand where
  establishment_id : UUID
  inspector_id : UUID
  window_start : datetime
  window_end : datetime
  sms_code : Option String := none
  objective : Option String := none
  plan_reference : Option String := none
  requires_approval : Bool := false
  designated_host_user_id : Option UUID := none

structure CreateEstablishmentCommand (F : Type) where
  name : String
  center_lat : F
  center_lon : F
  radius_strict_m : F
  radius_relaxed_m : F
  minesec_code : Option String := none
  establishment_type : String := "other"
  contact_email : Option String := none
  contact_phone : Option String := none
  territory_code : Option String := none
  parent_establishment_id : Option UUID := none
  designated_host_user_id : Option UUID := none

variable {F : Type}

/-- The mission `CreateMission.execute` builds. -/
def CreateMission.mission (env : Env) (cmd : CreateMissionCommand) : Mission where
  id := env.mission_id
  establishment_id := cmd.establishment_id
  inspector_id := cmd.inspector_id
  window_start := cmd.window_start
  window_end := cmd.window_end
  status := if cmd.requires_approval then .DRAFT else .PLANNED
  host_token := some env.host_token
  sms_code := cmd.sms_code
  objective := cmd.objective
  plan_reference := cmd.plan_reference
  requires_approval := cmd.requires_approval
  designated_host_user_id := cmd.designated_host_user_id

def CreateMission.execute (env : Env) (cmd : CreateMissionCommand) (s : Store F) :
    Except Error (Dict × List (Write F)) := do
  let _ ← get_or_raise (EstablishmentRepositoryImpl.get_by_id s cmd.establishment_id)
    (NotFound "Établissement introuvable.")
  let _ ← UserAuthRepositoryImpl.get_by_id s cmd.inspector_id
  let mission := CreateMission.mission env cmd
  let saved ← MissionRepositoryImpl.save s mission
  return ([("mission_id", .str mission.id.str),
      ("host_token", .str env.host_token.str),
      ("status", .str mission.status.value)], [saved])

/-- Under a fresh identifier, a mission is created when its establishment and its
inspector exist. -/
theorem CreateMission.execute_eq_ok_iff {env : Env} {cmd : CreateMissionCommand} {s : Store F}
    {payload : Dict} {writes : List (Write F)} (hnew : s.missions.get env.mission_id = none) :
    CreateMission.execute env cmd s = .ok (payload, writes) ↔
      ∃ est user, s.establishments.get cmd.establishment_id = some est ∧
        UserAuthRepositoryImpl.get_by_id s cmd.inspector_id = .ok user ∧
        payload = [("mission_id", .str env.mission_id.str), ("host_token", .str env.host_token.str),
          ("status", .str (CreateMission.mission env cmd).status.value)] ∧
        writes = [.add_mission (new_mission_row (CreateMission.mission env cmd) env.host_token)] := by
  have hsave : MissionRepositoryImpl.save s (CreateMission.mission env cmd) =
      .ok (.add_mission (new_mission_row (CreateMission.mission env cmd) env.host_token)) :=
    MissionRepositoryImpl.save_of_new hnew rfl
  simp only [CreateMission.execute, hsave, bind_ok, bind_eq_ok_iff, get_or_raise_eq_ok, pure_eq_ok,
    Except.ok.injEq, Prod.mk.injEq, EstablishmentRepositoryImpl.get_by_id, Option.map_eq_some_iff]
  constructor
  · rintro ⟨_, ⟨est, hest, rfl⟩, user, huser, rfl, rfl⟩
    exact ⟨est, user, hest, huser, rfl, rfl⟩
  · rintro ⟨est, user, hest, huser, rfl, rfl⟩
    exact ⟨_, ⟨est, hest, rfl⟩, user, huser, rfl, rfl⟩

/-- The establishment `CreateEstablishment.execute` builds. -/
def CreateEstablishment.establishment (env : Env) (cmd : CreateEstablishmentCommand F) :
    Establishment F where
  id := env.establishment_id
  name := cmd.name
  center_lat := cmd.center_lat
  center_lon := cmd.center_lon
  radius_strict_m := cmd.radius_strict_m
  radius_relaxed_m := cmd.radius_relaxed_m
  geometry_version := 1
  minesec_code := cmd.minesec_code
  establishment_type := cmd.establishment_type
  contact_email := cmd.contact_email
  contact_phone := cmd.contact_phone
  territory_code := cmd.territory_code
  parent_establishment_id := cmd.parent_establishment_id
  designated_host_user_id := cmd.designated_host_user_id

def CreateEstablishment.execute (env : Env) (cmd : CreateEstablishmentCommand F) :
    Except Error (Dict × List (Write F)) :=
  .ok ([("establishment_id", .str env.establishment_id.str)],
    [EstablishmentRepositoryImpl.add (CreateEstablishment.establishment env cmd)])

end sigis
