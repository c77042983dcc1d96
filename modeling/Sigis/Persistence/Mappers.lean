import Sigis.Persistence.Models

namespace sigis

variable {F : Type}

def establishment_to_domain (row : EstablishmentModel F) : Establishment F where
  id := row.id
  name := row.name
  center_lat := row.center_lat
  center_lon := row.center_lon
  radius_strict_m := row.radius_strict_m
  radius_relaxed_m := row.radius_relaxed_m
  geometry_version := row.geometry_version
  minesec_code := row.minesec_code
  establishment_type := if row.establishment_type = "" then "other" else row.establishment_type
  contact_email := row.contact_email
  contact_phone := row.contact_phone
  territory_code := row.territory_code
  parent_establishment_id := row.parent_establishment_id
  designated_host_user_id := row.designated_host_user_id
  geometry_validated_at := row.geometry_validated_at
  geometry_validated_by_user_id := row.geometry_validated_by_user_id

def mission_to_domain (row : MissionModel) : Mission where
  id := row.id
  establishment_id := row.establishment_id
  inspector_id := row.inspector_id
  window_start := row.window_start
  window_end := row.window_end
  status := row.status
  host_token := some row.host_token
  sms_code := row.sms_code
  designated_host_user_id := row.designated_host_user_id
  objective := row.objective
  plan_reference := row.plan_reference
  requires_approval := row.requires_approval
  cancellation_reason := row.cancellation_reason
  cancelled_at := row.cancelled_at
  cancelled_by_user_id := row.cancelled_by_user_id
  previous_mission_id := row.previous_mission_id

def site_visit_to_domain (row : SiteVisitModel F) : SiteVisit F where
  id := row.id
  mission_id := row.mission_id
  status := row.status
  host_validation_mode := row.host_validation_mode
  checked_in_at := row.checked_in_at
  checked_out_at := row.checked_out_at
  inspector_lat := row.inspector_lat
  inspector_lon := row.inspector_lon
  host_lat := row.host_lat
  host_lon := row.host_lon

/-- The row object after the assignments of `apply_site_visit_to_row`. -/
def apply_site_visit_to_row (visit : SiteVisit F) (row : SiteVisitModel F) : SiteVisitModel F :=
  { row with
    status := visit.status
    host_validation_mode := visit.host_validation_mode
    checked_in_at := visit.checked_in_at
    checked_out_at := visit.checked_out_at
    inspector_lat := visit.inspector_lat
    inspector_lon := visit.inspector_lon
    host_lat := visit.host_lat
    host_lon := visit.host_lon }

end sigis
