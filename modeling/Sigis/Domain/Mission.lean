import Sigis.Domain.Shared

namespace sigis

inductive MissionStatus
  | DRAFT
  | PLANNED
  | IN_PROGRESS
  | COMPLETED
  | CANCELLED
deriving DecidableEq, Repr

def MissionStatus.value : MissionStatus → String
  | .DRAFT => "draft"
  | .PLANNED => "planned"
  | .IN_PROGRESS => "in_progress"
  | .COMPLETED => "completed"
  | .CANCELLED => "cancelled"

def MissionStatus.members : List MissionStatus :=
  [.DRAFT, .PLANNED, .IN_PROGRESS, .COMPLETED, .CANCELLED]

/-- `MissionStatus(value)`: the member with that value, or a `ValueError`. -/
def MissionStatus.of_value (value : String) : Option MissionStatus :=
  MissionStatus.members.find? fun status => status.value = value

/-- Every member is read back from its own value. -/
theorem MissionStatus.of_value_value (status : MissionStatus) :
    MissionStatus.of_value status.value = some status := by
  cases status <;> decide

/-- Only the value of a member names it. -/
theorem MissionStatus.value_of_value {value : String} {status : MissionStatus}
    (h : MissionStatus.of_value value = some status) : status.value = value := by
  simpa using List.find?_some h

structure Mission where
  id : UUID
  establishment_id : UUID
  inspector_id : UUID
  window_start : datetime
  window_end : datetime
  status : MissionStatus := .PLANNED
  host_token : Option UUID := none
  sms_code : Option String := none
  designated_host_user_id : Option UUID := none
  objective : Option String := none
  plan_reference : Option String := none
  requires_approval : Bool := false
  cancellation_reason : Option String := none
  cancelled_at : Option datetime := none
  cancelled_by_user_id : Option UUID := none
  previous_mission_id : Option UUID := none
deriving DecidableEq, Repr

end sigis
