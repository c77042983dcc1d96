import Sigis.Domain.Shared

open guarded

namespace sigis

inductive SiteVisitStatus
  | SCHEDULED
  | CHECKED_IN
  | PENDING_HOST
  | COPRESENCE_OK
  | CHECKED_OUT
  | COMPLETED
  | CANCELLED
deriving DecidableEq, Repr

def SiteVisitStatus.value : SiteVisitStatus → String
  | .SCHEDULED => "scheduled"
  | .CHECKED_IN => "checked_in"
  | .PENDING_HOST => "pending_host_validation"
  | .COPRESENCE_OK => "copresence_validated"
  | .CHECKED_OUT => "checked_out"
  | .COMPLETED => "completed"
  | .CANCELLED => "cancelled"

structure SiteVisit (F : Type) where
  id : UUID
  mission_id : UUID
  status : SiteVisitStatus := .SCHEDULED
  host_validation_mode : Option HostValidationMode := none
  checked_in_at : Option datetime := none
  checked_out_at : Option datetime := none
  inspector_lat : Option F := none
  inspector_lon : Option F := none
  host_lat : Option F := none
  host_lon : Option F := none
deriving DecidableEq, Repr

/-- The visit with the position of the host, where the validation mode sets one. -/
def SiteVisit.with_host {F : Type} (visit : SiteVisit F) : Option (F × F) → SiteVisit F
  | none => visit
  | some (latitude, longitude) =>
    { visit with host_lat := some latitude, host_lon := some longitude }

section with_host

variable {F : Type} (visit : SiteVisit F) (host : Option (F × F))

@[simp] theorem SiteVisit.status_with_host : (visit.with_host host).status = visit.status := by
  cases host <;> rfl

@[simp] theorem SiteVisit.inspector_lat_with_host :
    (visit.with_host host).inspector_lat = visit.inspector_lat := by
  cases host <;> rfl

@[simp] theorem SiteVisit.inspector_lon_with_host :
    (visit.with_host host).inspector_lon = visit.inspector_lon := by
  cases host <;> rfl

end with_host

/-- The window test of a visit (`domain/site_visit/transitions.py`); its bounds belong to it. -/
def ensure_mission_window (now window_start window_end : datetime) : Except Error Unit :=
  let ws := window_start.aware
  let we := window_end.aware
  let nw := now.aware
  raise_if (¬ (ws ≤ nw ∧ nw ≤ we)) (DomainError "Mission hors fenêtre horaire." "MISSION_EXPIRED")

@[simp] theorem ensure_mission_window_eq_ok {now ws we : datetime} {u : Unit} :
    ensure_mission_window now ws we = .ok u ↔ in_window now ws we := by
  simp [ensure_mission_window, in_window]

variable {F : Type}

def start_check_in (visit : SiteVisit F) (now : datetime) (mode : HostValidationMode) :
    Except Error (SiteVisit F) := do
  raise_if (visit.status ≠ .SCHEDULED)
    (InvariantViolation "Check-in impossible depuis cet état.")
  return { visit with
    host_validation_mode := some mode
    checked_in_at := some now.to_utc
    status := .PENDING_HOST }

def mark_copresence_ok (visit : SiteVisit F) : Except Error (SiteVisit F) := do
  raise_if (visit.status ≠ .PENDING_HOST)
    (InvariantViolation "Co-présence invalide depuis cet état.")
  return { visit with status := .COPRESENCE_OK }

def check_out (visit : SiteVisit F) (now : datetime) : Except Error (SiteVisit F) := do
  raise_if (visit.status ≠ .COPRESENCE_OK)
    (InvariantViolation "Check-out impossible sans co-présence validée.")
  raise_if (visit.checked_out_at ≠ none) (AlreadyCheckedOut "Déjà check-out.")
  return { visit with
    checked_out_at := some now.to_utc
    status := .COMPLETED }

theorem start_check_in_eq_ok {visit visit' : SiteVisit F} {now : datetime}
    {mode : HostValidationMode} :
    start_check_in visit now mode = .ok visit' ↔ visit.status = .SCHEDULED ∧
      visit' = { visit with
        host_validation_mode := some mode
        checked_in_at := some now.to_utc
        status := .PENDING_HOST } := by
  simp [start_check_in, bind_eq_ok_iff, @eq_comm _ visit']

theorem mark_copresence_ok_eq_ok {visit visit' : SiteVisit F} :
    mark_copresence_ok visit = .ok visit' ↔ visit.status = .PENDING_HOST ∧
      visit' = { visit with status := .COPRESENCE_OK } := by
  simp [mark_copresence_ok, bind_eq_ok_iff, @eq_comm _ visit']

theorem check_out_eq_ok {visit visit' : SiteVisit F} {now : datetime} :
    check_out visit now = .ok visit' ↔
      visit.status = .COPRESENCE_OK ∧ visit.checked_out_at = none ∧
      visit' = { visit with checked_out_at := some now.to_utc, status := .COMPLETED } := by
  simp [check_out, bind_eq_ok_iff, @eq_comm _ visit']

end sigis
