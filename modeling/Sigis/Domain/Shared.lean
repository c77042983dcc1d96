import Mathlib.Data.Nat.Cast.Defs
import Mathlib.Order.MinMax
import Sigis.Lib.Guarded
import Sigis.Python.Json
import Sigis.Python.Text
import Sigis.Domain.Errors

open guarded

namespace sigis

/-- A `UUID`, identified with its canonical text `str(uuid)`. -/
structure UUID where
  str : String
deriving DecidableEq, Repr

@[simp] theorem UUID.str_inj {a b : UUID} : a.str = b.str ↔ a = b := by
  cases a
  cases b
  simp

inductive GeofenceStatus
  | OK
  | APPROXIMATE
  | REJECTED
deriving DecidableEq, Repr

def GeofenceStatus.value : GeofenceStatus → String
  | .OK => "OK"
  | .APPROXIMATE => "APPROXIMATE"
  | .REJECTED => "REJECTED"

inductive HostValidationMode
  | APP_GPS
  | QR_STATIC
  | SMS_SHORTCODE
deriving DecidableEq, Repr

/-- The two radii of a zone (`domain/shared/geofence_rules.py`). -/
structure GeofenceParams (F : Type) where
  radius_meters_strict : F
  radius_meters_relaxed : F

section geofence

variable {F : Type} [LinearOrder F]

def geofence_status (distance_to_center_meters : F) (params : GeofenceParams F) : GeofenceStatus :=
  if distance_to_center_meters ≤ params.radius_meters_strict then .OK
  else if distance_to_center_meters ≤ params.radius_meters_relaxed then .APPROXIMATE
  else .REJECTED

/-- A position is rejected beyond the larger of the two radii, in whatever order
the establishment gives them. -/
theorem geofence_status_ne_rejected_iff {distance : F} {params : GeofenceParams F} :
    geofence_status distance params ≠ .REJECTED ↔
      distance ≤ max params.radius_meters_strict params.radius_meters_relaxed := by
  rw [le_max_iff]
  unfold geofence_status
  by_cases hstrict : distance ≤ params.radius_meters_strict
  · simp [hstrict]
  · by_cases hrelaxed : distance ≤ params.radius_meters_relaxed <;> simp [hstrict, hrelaxed]

theorem geofence_status_eq_ok {distance : F} {params : GeofenceParams F}
    (h : distance ≤ params.radius_meters_strict) : geofence_status distance params = .OK :=
  if_pos h

end geofence

/-- How late and how far away a host may be (`domain/shared/copresence_rules.py`). -/
structure CoPresenceParams (F : Type) where
  max_delay : Int
  max_distance_meters : F
  reinforce_under_meters : Option F

section copresence

variable {F : Type} [LinearOrder F]

def assert_copresence_mode_a (inspector_position_time host_position_time : datetime)
    (distance_meters : F) (params : CoPresenceParams F) : Except Error Unit := do
  let ins_t := inspector_position_time.aware
  let host_t := host_position_time.aware
  raise_if (host_t.instant - ins_t.instant > params.max_delay)
    (CoPresenceRejected "Délai inspecteur → validation hôte dépassé." "COPRESENCE_TIMEOUT")
  raise_if (distance_meters > params.max_distance_meters)
    (CoPresenceRejected "Distance inspecteur–hôte trop grande." "COPRESENCE_DISTANCE")

theorem assert_copresence_mode_a_eq_ok {ins_t host_t : datetime} {distance : F}
    {params : CoPresenceParams F} {u : Unit} :
    assert_copresence_mode_a ins_t host_t distance params = .ok u ↔
      host_t.instant - ins_t.instant ≤ params.max_delay ∧
        distance ≤ params.max_distance_meters := by
  simp [assert_copresence_mode_a, bind_eq_ok_iff]

end copresence

/-- The instant lies in the window, its bounds included: what the window tests compare. -/
def in_window (now window_start window_end : datetime) : Prop :=
  window_start.aware ≤ now.aware ∧ now.aware ≤ window_end.aware

instance (now window_start window_end : datetime) :
    Decidable (in_window now window_start window_end) :=
  inferInstanceAs (Decidable (_ ∧ _))

theorem in_window_iff {now window_start window_end : datetime} :
    in_window now window_start window_end ↔
      window_start.instant ≤ now.instant ∧ now.instant ≤ window_end.instant := by
  simp [in_window, datetime.le_def]

def assert_qr_token_valid (provided_token mission_host_token : UUID)
    (now window_start window_end : datetime) : Except Error Unit := do
  raise_if (provided_token ≠ mission_host_token)
    (CoPresenceRejected "Jeton QR invalide." "INVALID_QR_TOKEN")
  let (nw, ws, we) := (now.aware, window_start.aware, window_end.aware)
  raise_if (¬ (ws ≤ nw ∧ nw ≤ we))
    (CoPresenceRejected "Mission hors fenêtre pour validation QR." "MISSION_EXPIRED")

theorem assert_qr_token_valid_eq_ok {provided expected : UUID} {now ws we : datetime} {u : Unit} :
    assert_qr_token_valid provided expected now ws we = .ok u ↔
      provided = expected ∧ in_window now ws we := by
  simp [assert_qr_token_valid, in_window, bind_eq_ok_iff]

def assert_sms_code_valid (provided_code : String) (mission_sms_code : Option String)
    (now window_start window_end : datetime) : Except Error Unit := do
  -- `not mission_sms_code` holds of None and of the empty string alike.
  let expected ← get_or_raise (mission_sms_code.filter fun code => code ≠ "")
    (CoPresenceRejected "Code SMS non configuré pour cette mission." "SMS_NOT_CONFIGURED")
  raise_if (strip provided_code ≠ strip expected)
    (CoPresenceRejected "Code SMS invalide." "INVALID_SMS_CODE")
  let (nw, ws, we) := (now.aware, window_start.aware, window_end.aware)
  raise_if (¬ (ws ≤ nw ∧ nw ≤ we))
    (CoPresenceRejected "Mission hors fenêtre pour validation SMS." "MISSION_EXPIRED")

theorem assert_sms_code_valid_eq_ok {provided : String} {expected : Option String}
    {now ws we : datetime} {u : Unit} :
    assert_sms_code_valid provided expected now ws we = .ok u ↔
      ∃ code, expected = some code ∧ code ≠ "" ∧ strip provided = strip code ∧
        in_window now ws we := by
  simp [assert_sms_code_valid, in_window, bind_eq_ok_iff, Option.filter_eq_some_iff, and_assoc]

end sigis
