import Sigis.Lib.Table
import Sigis.Domain.Establishment
import Sigis.Domain.Identity
import Sigis.Domain.Mission
import Sigis.Domain.Presence
import Sigis.Domain.SiteVisit

open relational

namespace sigis

/-! Rows of the tables, each with the constraints its model declares. The column `status` of a mission,
a visit or an exception request, a text that only ever is the value of an enumeration, is the member
itself; the `role` of a user is its text, since an earlier version wrote others. -/

/-- The table `users`, as far as the missions read it. -/
structure UserModel where
  id : UUID
  role : String
deriving DecidableEq, Repr

/-- The table `establishments`. -/
structure EstablishmentModel (F : Type) where
  id : UUID
  name : String
  center_lat : F
  center_lon : F
  radius_strict_m : F
  radius_relaxed_m : F
  geometry_version : Nat
  minesec_code : Option String := none
  establishment_type : String := "other"
  contact_email : Option String := none
  contact_phone : Option String := none
  territory_code : Option String := none
  parent_establishment_id : Option UUID := none
  designated_host_user_id : Option UUID := none
  geometry_validated_at : Option datetime := none
  geometry_validated_by_user_id : Option UUID := none
deriving DecidableEq, Repr

/-- The table `missions`. -/
structure MissionModel where
  id : UUID
  establishment_id : UUID
  inspector_id : UUID
  window_start : datetime
  window_end : datetime
  status : MissionStatus
  host_token : UUID
  sms_code : Option String := none
  designated_host_user_id : Option UUID := none
  objective : Option String := none
  plan_reference : Option String := none
  requires_approval : Bool := false
  cancellation_reason : Option String := none
  cancelled_at : Option datetime := none
  cancelled_by_user_id : Option UUID := none
  previous_mission_id : Option UUID := none
deriving DecidableEq, Repr

/-- The table `site_visits`, with one visit for each mission. -/
structure SiteVisitModel (F : Type) where
  id : UUID
  mission_id : UUID
  status : SiteVisitStatus
  host_validation_mode : Option HostValidationMode := none
  checked_in_at : Option datetime := none
  checked_out_at : Option datetime := none
  inspector_lat : Option F := none
  inspector_lon : Option F := none
  host_lat : Option F := none
  host_lon : Option F := none
deriving DecidableEq, Repr

/-- The table `presence_proofs`. -/
structure PresenceProofModel (F : Type) where
  id : UUID
  site_visit_id : UUID
  actor_user_id : UUID
  recorded_at : datetime
  latitude : F
  longitude : F
  geofence_status : GeofenceStatus
deriving DecidableEq, Repr

/-- The table `copresence_events`. -/
structure CoPresenceEventModel where
  id : UUID
  site_visit_id : UUID
  validated_at : datetime
  host_validation_mode : HostValidationMode
deriving DecidableEq, Repr

/-- The table `idempotency_records`, with one record for each scope and key. -/
structure IdempotencyRecordModel where
  id : UUID
  scope : String
  client_key : String
  created_at : datetime
  response_body : Dict
deriving DecidableEq

/-- The table `used_qr_jti`, under the nonce. -/
structure UsedQrJtiModel where
  jti : String
  mission_id : UUID
  consumed_at : datetime
deriving DecidableEq, Repr

variable {F : Type}

instance : Row UserModel UUID := ⟨fun r => r.id, fun _ _ => false, fun _ _ => rfl⟩
instance : Row (EstablishmentModel F) UUID := ⟨fun r => r.id, fun _ _ => false, fun _ _ => rfl⟩
instance : Row MissionModel UUID := ⟨fun r => r.id, fun _ _ => false, fun _ _ => rfl⟩
instance : Row (PresenceProofModel F) UUID := ⟨fun r => r.id, fun _ _ => false, fun _ _ => rfl⟩
instance : Row CoPresenceEventModel UUID := ⟨fun r => r.id, fun _ _ => false, fun _ _ => rfl⟩
instance : Row UsedQrJtiModel String := ⟨fun r => r.jti, fun _ _ => false, fun _ _ => rfl⟩

/-- `mission_id` is unique. -/
instance : Row (SiteVisitModel F) UUID where
  key r := r.id
  conflict a b := a.mission_id = b.mission_id
  conflict_symm a b := by simp [eq_comm]

/-- `uq_idempotency_scope_key`. -/
instance : Row IdempotencyRecordModel UUID where
  key r := r.id
  conflict a b := a.scope = b.scope ∧ a.client_key = b.client_key
  conflict_symm a b := by simp [eq_comm]

@[simp] theorem key_mission (r : MissionModel) : Row.key r = r.id := rfl
@[simp] theorem key_site_visit (r : SiteVisitModel F) : Row.key r = r.id := rfl

/-- Two visits of one mission clash. -/
theorem clash_site_visit_of_mission {a b : SiteVisitModel F} (h : a.mission_id = b.mission_id) :
    clash a b := Or.inr (decide_eq_true h)

/-- Two records of one scope and key clash. -/
theorem clash_idempotency_record {a b : IdempotencyRecordModel} (hscope : a.scope = b.scope)
    (hkey : a.client_key = b.client_key) : clash a b := Or.inr (decide_eq_true ⟨hscope, hkey⟩)

/-! Every `DateTime` column drops the offset it is given. -/

def EstablishmentModel.stored (row : EstablishmentModel F) : EstablishmentModel F :=
  { row with geometry_validated_at := row.geometry_validated_at.map datetime.stored }

def MissionModel.stored (row : MissionModel) : MissionModel :=
  { row with
    window_start := row.window_start.stored
    window_end := row.window_end.stored
    cancelled_at := row.cancelled_at.map datetime.stored }

def SiteVisitModel.stored (row : SiteVisitModel F) : SiteVisitModel F :=
  { row with
    checked_in_at := row.checked_in_at.map datetime.stored
    checked_out_at := row.checked_out_at.map datetime.stored }

def PresenceProofModel.stored (row : PresenceProofModel F) : PresenceProofModel F :=
  { row with recorded_at := row.recorded_at.stored }

def CoPresenceEventModel.stored (row : CoPresenceEventModel) : CoPresenceEventModel :=
  { row with validated_at := row.validated_at.stored }

def IdempotencyRecordModel.stored (row : IdempotencyRecordModel) : IdempotencyRecordModel :=
  { row with created_at := row.created_at.stored }

def UsedQrJtiModel.stored (row : UsedQrJtiModel) : UsedQrJtiModel :=
  { row with consumed_at := row.consumed_at.stored }

/-! `flush loaded written current` is the stored row after the session flushed an object
it had loaded as `loaded` and given the attributes of `written`: only the columns with
another value are in the statement. -/

section flush

variable [DecidableEq F]

/-- The columns of an establishment. -/
def EstablishmentModel.flush (loaded written current : EstablishmentModel F) :
    EstablishmentModel F where
  id := current.id
  name := column loaded.name written.name current.name
  center_lat := column loaded.center_lat written.center_lat current.center_lat
  center_lon := column loaded.center_lon written.center_lon current.center_lon
  radius_strict_m := column loaded.radius_strict_m written.radius_strict_m current.radius_strict_m
  radius_relaxed_m :=
    column loaded.radius_relaxed_m written.radius_relaxed_m current.radius_relaxed_m
  geometry_version :=
    column loaded.geometry_version written.geometry_version current.geometry_version
  minesec_code := column loaded.minesec_code written.minesec_code current.minesec_code
  establishment_type :=
    column loaded.establishment_type written.establishment_type current.establishment_type
  contact_email := column loaded.contact_email written.contact_email current.contact_email
  contact_phone := column loaded.contact_phone written.contact_phone current.contact_phone
  territory_code := column loaded.territory_code written.territory_code current.territory_code
  parent_establishment_id := column loaded.parent_establishment_id
    written.parent_establishment_id current.parent_establishment_id
  designated_host_user_id := column loaded.designated_host_user_id
    written.designated_host_user_id current.designated_host_user_id
  geometry_validated_at := bound_column (Option.map datetime.stored) loaded.geometry_validated_at
    written.geometry_validated_at current.geometry_validated_at
  geometry_validated_by_user_id := column loaded.geometry_validated_by_user_id
    written.geometry_validated_by_user_id current.geometry_validated_by_user_id

/-- The columns of a visit. -/
def SiteVisitModel.flush (loaded written current : SiteVisitModel F) : SiteVisitModel F where
  id := current.id
  mission_id := current.mission_id
  status := column loaded.status written.status current.status
  host_validation_mode := column loaded.host_validation_mode written.host_validation_mode
    current.host_validation_mode
  checked_in_at := bound_column (Option.map datetime.stored) loaded.checked_in_at written.checked_in_at
    current.checked_in_at
  checked_out_at := bound_column (Option.map datetime.stored) loaded.checked_out_at
    written.checked_out_at current.checked_out_at
  inspector_lat := column loaded.inspector_lat written.inspector_lat current.inspector_lat
  inspector_lon := column loaded.inspector_lon written.inspector_lon current.inspector_lon
  host_lat := column loaded.host_lat written.host_lat current.host_lat
  host_lon := column loaded.host_lon written.host_lon current.host_lon

end flush

/-- The columns of a mission. -/
def MissionModel.flush (loaded written current : MissionModel) : MissionModel where
  id := current.id
  establishment_id :=
    column loaded.establishment_id written.establishment_id current.establishment_id
  inspector_id := column loaded.inspector_id written.inspector_id current.inspector_id
  window_start :=
    bound_column datetime.stored loaded.window_start written.window_start current.window_start
  window_end := bound_column datetime.stored loaded.window_end written.window_end current.window_end
  status := column loaded.status written.status current.status
  host_token := column loaded.host_token written.host_token current.host_token
  sms_code := column loaded.sms_code written.sms_code current.sms_code
  designated_host_user_id := column loaded.designated_host_user_id
    written.designated_host_user_id current.designated_host_user_id
  objective := column loaded.objective written.objective current.objective
  plan_reference := column loaded.plan_reference written.plan_reference current.plan_reference
  requires_approval :=
    column loaded.requires_approval written.requires_approval current.requires_approval
  cancellation_reason :=
    column loaded.cancellation_reason written.cancellation_reason current.cancellation_reason
  cancelled_at := bound_column (Option.map datetime.stored) loaded.cancelled_at written.cancelled_at
    current.cancelled_at
  cancelled_by_user_id :=
    column loaded.cancelled_by_user_id written.cancelled_by_user_id current.cancelled_by_user_id
  previous_mission_id :=
    column loaded.previous_mission_id written.previous_mission_id current.previous_mission_id

theorem MissionModel.keeps_flush (loaded written : MissionModel) :
    Table.Keeps (MissionModel.flush loaded written) := ⟨fun _ => rfl, fun _ _ => rfl⟩

theorem SiteVisitModel.keeps_flush [DecidableEq F] (loaded written : SiteVisitModel F) :
    Table.Keeps (SiteVisitModel.flush loaded written) := ⟨fun _ => rfl, fun _ _ => rfl⟩

theorem EstablishmentModel.keeps_flush [DecidableEq F] (loaded written : EstablishmentModel F) :
    Table.Keeps (EstablishmentModel.flush loaded written) := ⟨fun _ => rfl, fun _ _ => rfl⟩

end sigis
