import Sigis.Persistence.Store

open guarded relational

namespace sigis

variable {F : Type}

/-- Raises when there is no such user, or its role is not known. -/
def UserAuthRepositoryImpl.get_by_id (s : Store F) (user_id : UUID) : Except Error UserModel := do
  let row ← get_or_raise (s.users.get user_id)
    (NotFound ("Utilisateur " ++ user_id.str ++ " introuvable."))
  raise_if (Role.of_value row.role = none)
    (.ValueError ("'" ++ row.role ++ "' is not a valid Role"))
  return row

/-- `session.get` and the mapper. -/
def EstablishmentRepositoryImpl.get_by_id (s : Store F) (establishment_id : UUID) :
    Option (Establishment F) :=
  (s.establishments.get establishment_id).map establishment_to_domain

def MissionRepositoryImpl.get_by_id (s : Store F) (mission_id : UUID) : Option Mission :=
  (s.missions.get mission_id).map mission_to_domain

def SiteVisitRepositoryImpl.get_by_id (s : Store F) (site_visit_id : UUID) :
    Option (SiteVisit F) :=
  (s.site_visits.get site_visit_id).map site_visit_to_domain

/-- The stored visit of a mission. -/
def Store.visit_of_mission (s : Store F) (mission_id : UUID) : Option (SiteVisitModel F) :=
  s.site_visits.rows.find? fun r => r.mission_id = mission_id

/-- `scalar_one_or_none`: the column is unique. -/
def SiteVisitRepositoryImpl.get_by_mission_id (s : Store F) (mission_id : UUID) :
    Except Error (Option (SiteVisit F)) := do
  let row ← scalar_one_or_none .MultipleResultsFound
    (s.site_visits.rows.filter fun r => r.mission_id = mission_id)
  return row.map site_visit_to_domain

/-- The record of a client key in a scope. -/
def Store.recorded (s : Store F) (scope client_key : String) : Option IdempotencyRecordModel :=
  s.idempotency_records.rows.find? fun r => r.scope = scope ∧ r.client_key = client_key

/-- `scalar_one_or_none` under the scope and the key, which are unique together. -/
def IdempotencyRepositoryImpl.get_response (s : Store F) (scope client_key : String) :
    Except Error (Option Dict) := do
  let row ← scalar_one_or_none .MultipleResultsFound
    (s.idempotency_records.rows.filter fun r => r.scope = scope ∧ r.client_key = client_key)
  return row.map fun r => r.response_body

/-- The row a new establishment is stored as. -/
def new_establishment_row (est : Establishment F) : EstablishmentModel F where
  id := est.id
  name := est.name
  center_lat := est.center_lat
  center_lon := est.center_lon
  radius_strict_m := est.radius_strict_m
  radius_relaxed_m := est.radius_relaxed_m
  geometry_version := est.geometry_version
  minesec_code := est.minesec_code
  establishment_type := est.establishment_type
  contact_email := est.contact_email
  contact_phone := est.contact_phone
  territory_code := est.territory_code
  parent_establishment_id := est.parent_establishment_id
  designated_host_user_id := est.designated_host_user_id
  geometry_validated_at := est.geometry_validated_at
  geometry_validated_by_user_id := est.geometry_validated_by_user_id

def EstablishmentRepositoryImpl.add (est : Establishment F) : Write F :=
  .add_establishment (new_establishment_row est)

/-- The loaded row after the assignments of `EstablishmentRepositoryImpl.update`. -/
def apply_establishment_to_row (est : Establishment F) (row : EstablishmentModel F) :
    EstablishmentModel F :=
  { row with
    name := est.name
    center_lat := est.center_lat
    center_lon := est.center_lon
    radius_strict_m := est.radius_strict_m
    radius_relaxed_m := est.radius_relaxed_m
    geometry_version := est.geometry_version
    minesec_code := est.minesec_code
    establishment_type := est.establishment_type
    contact_email := est.contact_email
    contact_phone := est.contact_phone
    territory_code := est.territory_code
    parent_establishment_id := est.parent_establishment_id
    designated_host_user_id := est.designated_host_user_id
    geometry_validated_at := est.geometry_validated_at
    geometry_validated_by_user_id := est.geometry_validated_by_user_id }

/-- The statement of a row that was loaded; a missing one is left alone. -/
def EstablishmentRepositoryImpl.update (s : Store F) (est : Establishment F) : List (Write F) :=
  match s.establishments.get est.id with
  | none => []
  | some row => [.update_establishment row (apply_establishment_to_row est row)]

/-- The row a new mission is stored as. -/
def new_mission_row (mission : Mission) (host_token : UUID) : MissionModel where
  id := mission.id
  establishment_id := mission.establishment_id
  inspector_id := mission.inspector_id
  window_start := mission.window_start
  window_end := mission.window_end
  status := mission.status
  host_token := host_token
  sms_code := mission.sms_code
  designated_host_user_id := mission.designated_host_user_id
  objective := mission.objective
  plan_reference := mission.plan_reference
  requires_approval := mission.requires_approval
  cancellation_reason := mission.cancellation_reason
  cancelled_at := mission.cancelled_at
  cancelled_by_user_id := mission.cancelled_by_user_id
  previous_mission_id := mission.previous_mission_id

/-- The loaded row after the assignments of `MissionRepositoryImpl.save`. -/
def apply_mission_to_row (mission : Mission) (row : MissionModel) : MissionModel :=
  { row with
    status := mission.status
    window_start := mission.window_start
    window_end := mission.window_end
    host_token := mission.host_token.getD row.host_token
    sms_code := mission.sms_code
    designated_host_user_id := mission.designated_host_user_id
    objective := mission.objective
    plan_reference := mission.plan_reference
    requires_approval := mission.requires_approval
    cancellation_reason := mission.cancellation_reason
    cancelled_at := mission.cancelled_at
    cancelled_by_user_id := mission.cancelled_by_user_id
    previous_mission_id := mission.previous_mission_id
    inspector_id := mission.inspector_id
    establishment_id := mission.establishment_id }

/-- Inserts a new mission, which needs its token, and updates one that is stored. -/
def MissionRepositoryImpl.save (s : Store F) (mission : Mission) : Except Error (Write F) :=
  match s.missions.get mission.id with
  | none => do
    let host_token ← get_or_raise mission.host_token
      (.ValueError "host_token requis pour persister une mission.")
    return .add_mission (new_mission_row mission host_token)
  | some row => .ok (.update_mission row (apply_mission_to_row mission row))

def MissionRepositoryImpl.update (s : Store F) (mission : Mission) : Except Error (Write F) :=
  MissionRepositoryImpl.save s mission

/-- The row a new visit is stored as. -/
def new_site_visit_row (visit : SiteVisit F) : SiteVisitModel F where
  id := visit.id
  mission_id := visit.mission_id
  status := visit.status
  host_validation_mode := visit.host_validation_mode
  checked_in_at := visit.checked_in_at
  checked_out_at := visit.checked_out_at
  inspector_lat := visit.inspector_lat
  inspector_lon := visit.inspector_lon
  host_lat := visit.host_lat
  host_lon := visit.host_lon

/-- Inserts a new visit, and updates one that is stored. -/
def SiteVisitRepositoryImpl.save (s : Store F) (visit : SiteVisit F) : Write F :=
  match s.site_visits.get visit.id with
  | none => .add_site_visit (new_site_visit_row visit)
  | some row => .update_site_visit row (apply_site_visit_to_row visit row)

/-- The row of a new proof. -/
def new_presence_proof_row (proof : PresenceProof F) : PresenceProofModel F where
  id := proof.id
  site_visit_id := proof.site_visit_id
  actor_user_id := proof.actor_user_id
  recorded_at := proof.recorded_at
  latitude := proof.latitude
  longitude := proof.longitude
  geofence_status := proof.geofence_status

def PresenceProofRepositoryImpl.add (proof : PresenceProof F) : Write F :=
  .add_presence_proof (new_presence_proof_row proof)

/-- The row of a new event. -/
def new_copresence_event_row (event : CoPresenceEvent)
    (host_validation_mode : HostValidationMode) : CoPresenceEventModel where
  id := event.id
  site_visit_id := event.site_visit_id
  validated_at := event.validated_at
  host_validation_mode := host_validation_mode

def CoPresenceEventRepositoryImpl.add (event : CoPresenceEvent)
    (host_validation_mode : HostValidationMode) : Write F :=
  .add_copresence_event (new_copresence_event_row event host_validation_mode)

/-- `save` draws the record's id and reads the clock itself. -/
def new_idempotency_record_row (scope client_key : String) (response_body : Dict)
    (record_id : UUID) (saved_at : Int) : IdempotencyRecordModel where
  id := record_id
  scope := scope
  client_key := client_key
  created_at := datetime.utc saved_at
  response_body := response_body

/-- The record of a response, under its scope and key. -/
def IdempotencyRepositoryImpl.save (scope client_key : String) (response_body : Dict)
    (record_id : UUID) (saved_at : Int) : Write F :=
  .add_idempotency_record
    (new_idempotency_record_row scope client_key response_body record_id saved_at)

/-- The query compares what the columns store: wall clocks. -/
def IdempotencyRecordModel.older_than (cutoff : datetime) (row : IdempotencyRecordModel) : Bool :=
  row.created_at.wall < cutoff.wall

/-- The records created before the cutoff are deleted one by one. -/
def IdempotencyRepositoryImpl.delete_older_than (s : Store F) (cutoff : datetime) :
    List (Write F) :=
  (s.idempotency_records.rows.filter fun r => r.older_than cutoff).map
    fun r => .delete_idempotency_record r.id

/-- Nothing is added, and `False` returned, when the token's `jti` was consumed. -/
def UsedQrJtiRepositoryImpl.consume (s : Store F) (jti : String) (mission_id : UUID)
    (consumed_at : datetime) : Option (Write F) :=
  match s.used_qr_jti.get jti with
  | some _ => none
  | none => some (.add_used_qr_jti ⟨jti, mission_id, consumed_at⟩)

/-- A stored mission is updated. -/
theorem MissionRepositoryImpl.save_of_stored {s : Store F} {mission : Mission} {m : MissionModel}
    (h : s.missions.get mission.id = some m) :
    MissionRepositoryImpl.save s mission =
      .ok (.update_mission m (apply_mission_to_row mission m)) := by
  simp only [save, h]

/-- A mission that was loaded and changed is written over the row it came from. -/
theorem MissionRepositoryImpl.update_of_loaded {s : Store F} {mission_id : UUID} {mission : Mission}
    {m : MissionModel} (h : s.missions.get mission_id = some m) (hid : mission.id = m.id) :
    MissionRepositoryImpl.update s mission =
      .ok (.update_mission m (apply_mission_to_row mission m)) := by
  have hkey : m.id = mission_id := Table.key_of_get h
  exact MissionRepositoryImpl.save_of_stored (by rw [hid, hkey, h])

/-- A mission that is not stored yet is inserted. -/
theorem MissionRepositoryImpl.save_of_new {s : Store F} {mission : Mission} {host_token : UUID}
    (h : s.missions.get mission.id = none) (htoken : mission.host_token = some host_token) :
    MissionRepositoryImpl.save s mission = .ok (.add_mission (new_mission_row mission host_token)) := by
  simp only [save, h, htoken, get_or_raise_some, bind_ok, pure_eq_ok]

/-- A stored visit is updated. -/
theorem SiteVisitRepositoryImpl.save_of_stored {s : Store F} {visit : SiteVisit F}
    {v : SiteVisitModel F} (h : s.site_visits.get visit.id = some v) :
    SiteVisitRepositoryImpl.save s visit =
      .update_site_visit v (apply_site_visit_to_row visit v) := by
  simp only [save, h]

/-- A visit that is not stored yet is inserted. -/
theorem SiteVisitRepositoryImpl.save_of_new {s : Store F} {visit : SiteVisit F}
    (h : s.site_visits.get visit.id = none) :
    SiteVisitRepositoryImpl.save s visit = .add_site_visit (new_site_visit_row visit) := by
  simp only [save, h]

section assigned

variable [DecidableEq F]

/-- The stored row after a mission was assigned over it and flushed. -/
def MissionModel.assigned (m : MissionModel) (mission : Mission) : MissionModel :=
  MissionModel.flush m (apply_mission_to_row mission m) m

/-- The stored row after a visit was assigned over it and flushed. -/
def SiteVisitModel.assigned (v : SiteVisitModel F) (visit : SiteVisit F) : SiteVisitModel F :=
  SiteVisitModel.flush v (apply_site_visit_to_row visit v) v

/-- The stored row after an establishment was assigned over it and flushed. -/
def EstablishmentModel.assigned (row : EstablishmentModel F) (est : Establishment F) :
    EstablishmentModel F :=
  EstablishmentModel.flush row (apply_establishment_to_row est row) row

end assigned

/-- A nonce is consumed when it has not been yet. -/
theorem UsedQrJtiRepositoryImpl.consume_eq_some_iff {s : Store F} {jti : String} {mission_id : UUID}
    {consumed_at : datetime} {write : Write F} :
    UsedQrJtiRepositoryImpl.consume s jti mission_id consumed_at = some write ↔
      s.used_qr_jti.get jti = none ∧ write = .add_used_qr_jti ⟨jti, mission_id, consumed_at⟩ := by
  unfold consume
  cases s.used_qr_jti.get jti <;> simp [eq_comm]

/-- The query for the visit of a mission never finds several. -/
theorem SiteVisitRepositoryImpl.get_by_mission_id_eq (s : Store F) (mission_id : UUID) :
    SiteVisitRepositoryImpl.get_by_mission_id s mission_id =
      .ok ((s.visit_of_mission mission_id).map site_visit_to_domain) := by
  unfold get_by_mission_id
  rw [scalar_one_or_none_of_length_le]
  · simp [Store.visit_of_mission, List.head?_filter]
  · apply s.site_visits.length_filter_le_one
    intro a b ha hb
    simp only [decide_eq_true_eq] at ha hb
    exact clash_site_visit_of_mission (ha.trans hb.symm)

/-- The query for a record never finds several. -/
theorem IdempotencyRepositoryImpl.get_response_eq (s : Store F) (scope client_key : String) :
    IdempotencyRepositoryImpl.get_response s scope client_key =
      .ok ((s.recorded scope client_key).map fun r => r.response_body) := by
  unfold get_response
  rw [scalar_one_or_none_of_length_le]
  · simp [Store.recorded, List.head?_filter]
  · apply s.idempotency_records.length_filter_le_one
    intro a b ha hb
    simp only [decide_eq_true_eq] at ha hb
    exact clash_idempotency_record (ha.1.trans hb.1.symm) (ha.2.trans hb.2.symm)

/-- The visit of a mission is the stored one that names it. -/
theorem Store.visit_of_mission_eq_some_iff {s : Store F} {mission_id : UUID}
    {v : SiteVisitModel F} :
    s.visit_of_mission mission_id = some v ↔ v ∈ s.site_visits.rows ∧ v.mission_id = mission_id := by
  constructor
  · intro h
    exact ⟨List.mem_of_find?_eq_some h, by simpa using List.find?_some h⟩
  · rintro ⟨hv, rfl⟩
    cases hfind : s.visit_of_mission v.mission_id with
    | none =>
      have hne := List.find?_eq_none.mp hfind v hv
      simp at hne
    | some found =>
      have hmission : found.mission_id = v.mission_id := by simpa using List.find?_some hfind
      rw [s.site_visits.eq_of_clash (List.mem_of_find?_eq_some hfind) hv
        (clash_site_visit_of_mission hmission)]

/-- A mission has no visit when no stored one names it. -/
theorem Store.visit_of_mission_eq_none_iff {s : Store F} {mission_id : UUID} :
    s.visit_of_mission mission_id = none ↔ ∀ v ∈ s.site_visits.rows, v.mission_id ≠ mission_id := by
  simp [Store.visit_of_mission, List.find?_eq_none]

/-- What is recorded is the stored record with the scope and the key. -/
theorem Store.recorded_eq_some_iff {s : Store F} {scope client_key : String}
    {r : IdempotencyRecordModel} :
    s.recorded scope client_key = some r ↔
      r ∈ s.idempotency_records.rows ∧ r.scope = scope ∧ r.client_key = client_key := by
  constructor
  · intro h
    exact ⟨List.mem_of_find?_eq_some h, by simpa using List.find?_some h⟩
  · rintro ⟨hr, rfl, rfl⟩
    cases hfind : s.recorded r.scope r.client_key with
    | none =>
      have hne := List.find?_eq_none.mp hfind r hr
      simp at hne
    | some found =>
      have hfound : found.scope = r.scope ∧ found.client_key = r.client_key := by
        simpa using List.find?_some hfind
      rw [s.idempotency_records.eq_of_clash (List.mem_of_find?_eq_some hfind) hr
        (clash_idempotency_record hfound.1 hfound.2)]

/-- Nothing is recorded when no stored record has them. -/
theorem Store.recorded_eq_none_iff {s : Store F} {scope client_key : String} :
    s.recorded scope client_key = none ↔
      ∀ r ∈ s.idempotency_records.rows, ¬ (r.scope = scope ∧ r.client_key = client_key) := by
  simp [Store.recorded, List.find?_eq_none]

end sigis
