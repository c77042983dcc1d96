import Sigis.Lib.Table
import Sigis.Domain.Shared

open relational

namespace sigis

/-- A row of `audit_logs`; `payload_json` is the dictionary whose `json.dumps` is stored. -/
structure AuditLogModel where
  id : UUID
  created_at : datetime
  actor_user_id : Option UUID
  action : String
  resource_type : String
  resource_id : Option String
  payload_json : Option Dict
  request_id : Option String
deriving DecidableEq

instance : Row AuditLogModel UUID := ⟨fun r => r.id, fun _ _ => false, fun _ _ => rfl⟩

def AuditLogModel.stored (row : AuditLogModel) : AuditLogModel := { row with created_at := row.created_at.stored }

/-- What a route knows of its request: the user that sent it and the identifier the middleware
gave it; and the identifier and the time `write_audit` gives its entry. -/
structure AuditContext where
  user : UUID
  request_id : Option String
  audit_id : UUID
  audited_at : Int

/-- `write_audit`, as the routes call it: with the user of the request as its actor. -/
def write_audit (context : AuditContext) (action resource_type : String) (resource_id : UUID) (payload : Dict) :
    AuditLogModel where
  id := context.audit_id
  created_at := datetime.utc context.audited_at
  actor_user_id := some context.user
  action := action
  resource_type := resource_type
  resource_id := some resource_id.str
  payload_json := some payload
  request_id := context.request_id

/-- The entry says that it is about the mission, as its resource or in its payload. -/
def AuditLogModel.Names (entry : AuditLogModel) (mission_id : UUID) : Prop :=
  entry.resource_id = some mission_id.str ∨
    ∃ payload, entry.payload_json = some payload ∧ ∃ item ∈ payload, item.2 = .str mission_id.str

end sigis
