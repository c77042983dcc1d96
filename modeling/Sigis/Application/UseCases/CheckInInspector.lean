import Sigis.Application.Ports

open guarded relational

namespace sigis

structure CheckInInspectorCommand (F : Type) where
  mission_id : UUID
  inspector_user_id : UUID
  latitude : F
  longitude : F
  client_request_id : String
  host_validation_mode : HostValidationMode

def CheckInInspectorCommand.scope {F : Type} (cmd : CheckInInspectorCommand F) : String :=
  "check_in:" ++ cmd.mission_id.str

variable {F : Type} [LinearOrder F]

/-- The body of `execute`, after the idempotency lookup. -/
def CheckInInspector.body (w : World F) (env : Env) (cmd : CheckInInspectorCommand F)
    (s : Store F) : Except Error (Dict × List (Write F)) := do
  let mission ← get_or_raise (MissionRepositoryImpl.get_by_id s cmd.mission_id)
    (NotFound "Mission introuvable.")
  raise_if (mission.status = .DRAFT) (MissionApprovalRequired
    "La mission doit être validée (passage planned) avant tout check-in.")
  raise_if (mission.inspector_id ≠ cmd.inspector_user_id)
    (Forbidden "Cet inspecteur n'est pas assigné à la mission.")
  let est ← get_or_raise (EstablishmentRepositoryImpl.get_by_id s mission.establishment_id)
    (NotFound "Établissement introuvable.")
  let now := datetime.utc env.now
  ensure_mission_window now mission.window_start mission.window_end
  let dist := w.haversine_m cmd.latitude cmd.longitude est.center_lat est.center_lon
  let params : GeofenceParams F := ⟨est.radius_strict_m, est.radius_relaxed_m⟩
  let gf := geofence_status dist params
  raise_if (gf = .REJECTED) (GeofenceRejected "Position hors zone établissement.")
  let stored ← SiteVisitRepositoryImpl.get_by_mission_id s mission.id
  raise_if (∃ visit, stored = some visit ∧ visit.status ≠ .SCHEDULED)
    (Conflict "Une visite est déjà en cours pour cette mission.")
  let visit := stored.getD { id := env.visit_id, mission_id := mission.id }
  let started ← start_check_in visit now cmd.host_validation_mode
  let visit := { started with inspector_lat := some cmd.latitude, inspector_lon := some cmd.longitude }
  let proof : PresenceProof F :=
    { id := env.proof_id
      site_visit_id := visit.id
      actor_user_id := cmd.inspector_user_id
      recorded_at := now
      latitude := cmd.latitude
      longitude := cmd.longitude
      geofence_status := gf }
  let payload : Dict :=
    [("site_visit_id", .str visit.id.str),
      ("geofence_status", .str gf.value),
      ("status", .str visit.status.value)]
  return (payload, [SiteVisitRepositoryImpl.save s visit, PresenceProofRepositoryImpl.add proof])

def CheckInInspector.execute (w : World F) (env : Env) (cmd : CheckInInspectorCommand F)
    (s : Store F) : Except Error (Dict × List (Write F)) :=
  idempotent s env cmd.scope cmd.client_request_id (CheckInInspector.body w env cmd s)

/-- The status of the reported position against the zone of an establishment. -/
def CheckInInspector.geofence (w : World F) (cmd : CheckInInspectorCommand F)
    (est : EstablishmentModel F) : GeofenceStatus :=
  geofence_status (w.haversine_m cmd.latitude cmd.longitude est.center_lat est.center_lon)
    ⟨est.radius_strict_m, est.radius_relaxed_m⟩

/-- Everything a check-in without recorded response requires of the store and the
clock, with the mission and the establishment it finds. -/
structure CheckInInspector.Admits (w : World F) (env : Env) (cmd : CheckInInspectorCommand F)
    (s : Store F) (m : MissionModel) (est : EstablishmentModel F) : Prop where
  mission : s.missions.get cmd.mission_id = some m
  approved : m.status ≠ .DRAFT
  inspector : m.inspector_id = cmd.inspector_user_id
  establishment : s.establishments.get m.establishment_id = some est
  window : in_window (datetime.utc env.now) m.window_start m.window_end
  geofence : CheckInInspector.geofence w cmd est ≠ .REJECTED
  visit : ∀ v, s.visit_of_mission cmd.mission_id = some v → v.status = .SCHEDULED

/-- The visit a check-in saves: a new one unless the mission had one. -/
def CheckInInspector.visit (env : Env) (cmd : CheckInInspectorCommand F)
    (stored : Option (SiteVisit F)) : SiteVisit F :=
  { stored.getD { id := env.visit_id, mission_id := cmd.mission_id } with
    host_validation_mode := some cmd.host_validation_mode
    checked_in_at := some (datetime.utc env.now)
    status := .PENDING_HOST
    inspector_lat := some cmd.latitude
    inspector_lon := some cmd.longitude }

def CheckInInspector.proof (w : World F) (env : Env) (cmd : CheckInInspectorCommand F)
    (est : EstablishmentModel F) (site_visit_id : UUID) : PresenceProof F where
  id := env.proof_id
  site_visit_id := site_visit_id
  actor_user_id := cmd.inspector_user_id
  recorded_at := datetime.utc env.now
  latitude := cmd.latitude
  longitude := cmd.longitude
  geofence_status := CheckInInspector.geofence w cmd est

def CheckInInspector.payload (w : World F) (cmd : CheckInInspectorCommand F)
    (est : EstablishmentModel F) (site_visit_id : UUID) : Dict :=
  [("site_visit_id", .str site_visit_id.str),
    ("geofence_status", .str (CheckInInspector.geofence w cmd est).value),
    ("status", .str SiteVisitStatus.PENDING_HOST.value)]

variable {w : World F} {env : Env} {cmd : CheckInInspectorCommand F} {s : Store F}
  {payload : Dict} {writes : List (Write F)}

/-- The check-in succeeds exactly when it is admitted, and then saves the visit and
the proof of the inspector's presence. -/
theorem CheckInInspector.body_eq_ok_iff :
    CheckInInspector.body w env cmd s = .ok (payload, writes) ↔
      ∃ m est, CheckInInspector.Admits w env cmd s m est ∧
        let visit := CheckInInspector.visit env cmd
          ((s.visit_of_mission cmd.mission_id).map site_visit_to_domain)
        payload = CheckInInspector.payload w cmd est visit.id ∧
        writes = [SiteVisitRepositoryImpl.save s visit, PresenceProofRepositoryImpl.add
          (CheckInInspector.proof w env cmd est visit.id)] := by
  simp only [CheckInInspector.body, bind_eq_ok_iff, get_or_raise_eq_ok, raise_if_eq_ok,
    ensure_mission_window_eq_ok, start_check_in_eq_ok, pure_eq_ok, Except.ok.injEq, Prod.mk.injEq,
    MissionRepositoryImpl.get_by_id, EstablishmentRepositoryImpl.get_by_id,
    SiteVisitRepositoryImpl.get_by_mission_id_eq, Option.map_eq_some_iff, not_exists, not_and,
    not_not, datetime.to_utc_utc]
  constructor
  · rintro ⟨_, ⟨m, hm, rfl⟩, _, hstatus, _, hinspector, _, ⟨est, hest, rfl⟩, _, hwindow, _, hgeofence,
      _, rfl, _, hvisit, _, ⟨_, rfl⟩, rfl, rfl⟩
    have hid : (mission_to_domain m).id = cmd.mission_id := Table.key_of_get hm
    rw [hid] at hvisit ⊢
    refine ⟨m, est, ⟨hm, hstatus, hinspector, hest, hwindow, hgeofence, ?_⟩, rfl, rfl⟩
    intro v hv
    exact hvisit (site_visit_to_domain v) (by rw [hv]; rfl)
  · rintro ⟨m, est, h, rfl, rfl⟩
    have hid : (mission_to_domain m).id = cmd.mission_id := Table.key_of_get h.mission
    refine ⟨_, ⟨m, h.mission, rfl⟩, (), h.approved, (), h.inspector, _, ⟨est, h.establishment, rfl⟩, (),
      h.window, (), h.geofence, _, rfl, (), ?_, _, ⟨?_, rfl⟩, ?_, ?_⟩
    all_goals rw [hid]
    · intro _ hstored
      obtain ⟨v, hv, rfl⟩ := Option.map_eq_some_iff.mp hstored
      exact h.visit v hv
    · cases hv : s.visit_of_mission cmd.mission_id with
      | none => rfl
      | some v => exact h.visit v hv
    · rfl
    · rfl

end sigis
