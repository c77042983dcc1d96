import Sigis.Domain.Shared

namespace sigis

inductive ExceptionRequestStatus
  | NEW
  | ACKNOWLEDGED
  | RESOLVED
  | ESCALATED
deriving DecidableEq, Repr

def ExceptionRequestStatus.value : ExceptionRequestStatus → String
  | .NEW => "new"
  | .ACKNOWLEDGED => "acknowledged"
  | .RESOLVED => "resolved"
  | .ESCALATED => "escalated"

structure ExceptionRequest where
  id : UUID
  mission_id : UUID
  author_user_id : UUID
  created_at : datetime
  status : ExceptionRequestStatus := .NEW
  message : String := ""
  assigned_to_user_id : Option UUID := none
  internal_comment : Option String := none
  sla_due_at : Option datetime := none
  attachment_url : Option String := none
deriving DecidableEq, Repr

end sigis
