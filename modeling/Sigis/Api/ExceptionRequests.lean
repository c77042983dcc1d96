import Sigis.Api.MissionEndpoints
import Sigis.Persistence.Listing

open guarded paging relational transactional transition

namespace sigis

def ExceptionRequestModel.stored (row : ExceptionRequestModel) : ExceptionRequestModel :=
  { row with
    created_at := row.created_at.stored
    sla_due_at := row.sla_due_at.map datetime.stored }

/-- The `UPDATE` of a row loaded as `loaded` and given the attributes of `written`. -/
def ExceptionRequestModel.flush (loaded written current : ExceptionRequestModel) : ExceptionRequestModel where
  id := current.id
  mission_id := current.mission_id
  author_user_id := current.author_user_id
  created_at := current.created_at
  status := column loaded.status written.status current.status
  message := column loaded.message written.message current.message
  assigned_to_user_id := column loaded.assigned_to_user_id written.assigned_to_user_id current.assigned_to_user_id
  internal_comment := column loaded.internal_comment written.internal_comment current.internal_comment
  sla_due_at := bound_column (Option.map datetime.stored) loaded.sla_due_at written.sla_due_at current.sla_due_at
  attachment_url := column loaded.attachment_url written.attachment_url current.attachment_url

theorem ExceptionRequestModel.keeps_flush (loaded written : ExceptionRequestModel) :
    Table.Keeps (ExceptionRequestModel.flush loaded written) := ⟨fun _ => rfl, fun _ _ => rfl⟩

inductive ExceptionWrite
  | add_exception_request (row : ExceptionRequestModel)
  | update_exception_request (loaded written : ExceptionRequestModel)

/-- The row a new request is stored as. -/
def new_exception_request_row (req : ExceptionRequest) : ExceptionRequestModel where
  id := req.id
  mission_id := req.mission_id
  author_user_id := req.author_user_id
  created_at := req.created_at
  status := req.status
  message := req.message
  assigned_to_user_id := req.assigned_to_user_id
  internal_comment := req.internal_comment
  sla_due_at := req.sla_due_at
  attachment_url := req.attachment_url

def ExceptionRequestRepositoryImpl.add (req : ExceptionRequest) : ExceptionWrite :=
  .add_exception_request (new_exception_request_row req)

/-- The loaded row after the assignments of `ExceptionRequestRepositoryImpl.update`. -/
def apply_exception_request_to_row (req : ExceptionRequest) (row : ExceptionRequestModel) : ExceptionRequestModel :=
  { row with
    status := req.status
    message := req.message
    assigned_to_user_id := req.assigned_to_user_id
    internal_comment := req.internal_comment
    sla_due_at := req.sla_due_at
    attachment_url := req.attachment_url }

def ExceptionRequestRepositoryImpl.update (exception_requests : Table ExceptionRequestModel)
    (req : ExceptionRequest) : List ExceptionWrite :=
  match exception_requests.get req.id with
  | none => []
  | some row => [.update_exception_request row (apply_exception_request_to_row req row)]

def ExceptionRequestRepositoryImpl.get_by_id (exception_requests : Table ExceptionRequestModel)
    (exception_id : UUID) : Option ExceptionRequest :=
  (exception_requests.get exception_id).map exception_request_to_domain

def ExceptionRequestRepositoryImpl.update_status (exception_requests : Table ExceptionRequestModel)
    (exception_id : UUID) (new_status : ExceptionRequestStatus) : List ExceptionWrite :=
  match exception_requests.get exception_id with
  | none => []
  | some row => [.update_exception_request row { row with status := new_status }]

def ExceptionRequestRepositoryImpl.list_by_mission_id (plan : Plan.Free ExceptionRequestModel)
    (exception_requests : Table ExceptionRequestModel) (mission_id : UUID) : List ExceptionRequest :=
  (plan.order_by (exception_requests.rows.filter fun e => e.mission_id = mission_id)).map exception_request_to_domain

/-- What `uuid4()` and the clock give an operation on exception requests. -/
structure ExceptionEnv where
  exception_request_id : UUID
  now : Int

structure CreateExceptionCommand where
  mission_id : UUID
  author_user_id : UUID
  message : String

variable {F : Type}

/-- The request `CreateExceptionRequest.execute` builds. -/
def CreateExceptionRequest.exception_request (env : ExceptionEnv) (cmd : CreateExceptionCommand) :
    ExceptionRequest where
  id := env.exception_request_id
  mission_id := cmd.mission_id
  author_user_id := cmd.author_user_id
  created_at := datetime.utc env.now
  status := .NEW
  message := slice_to 4000 cmd.message

def CreateExceptionRequest.execute (env : ExceptionEnv) (cmd : CreateExceptionCommand) (s : Store F) :
    Except Error (Dict × List ExceptionWrite) := do
  let _ ← get_or_raise (MissionRepositoryImpl.get_by_id s cmd.mission_id) (NotFound "Mission introuvable.")
  let req := CreateExceptionRequest.exception_request env cmd
  return ([("exception_request_id", .str req.id.str), ("status", .str req.status.value)],
    [ExceptionRequestRepositoryImpl.add req])

/-- The tables of a store, with the exception requests and the audit log. -/
structure SupervisedStore (F : Type) where
  store : Store F
  exception_requests : Table ExceptionRequestModel
  audit_logs : Table AuditLogModel

/-- What the unit of work of an operation holds at its end. -/
structure ExceptionPending where
  writes : List ExceptionWrite
  audits : List AuditLogModel := []

structure PatchExceptionBody where
  status : Option ExceptionRequestStatus := none
  assigned_to_user_id : Option UUID := none
  internal_comment : Option String := none
  sla_due_at : Option datetime := none
  attachment_url : Option String := none

/-- The request with the fields of the body that are given. One that is acknowledged without a
deadline gets one in three days. -/
def PatchExceptionBody.apply_to (body : PatchExceptionBody) (now : Int) (exc : ExceptionRequest) : ExceptionRequest :=
  { exc with
    status := body.status.getD exc.status
    assigned_to_user_id := body.assigned_to_user_id.or exc.assigned_to_user_id
    internal_comment := body.internal_comment.or exc.internal_comment
    sla_due_at :=
      match body.sla_due_at with
      | some due => some due
      | none =>
        if body.status = some .ACKNOWLEDGED ∧ exc.sla_due_at = none then some (datetime.utc (now + hours 72))
        else exc.sla_due_at
    attachment_url := body.attachment_url.or exc.attachment_url }

def exc_dict (e : ExceptionRequest) : Dict :=
  let text (value : Option String) : Json := (value.map Json.str).getD .null
  [("id", .str e.id.str), ("mission_id", .str e.mission_id.str), ("author_user_id", .str e.author_user_id.str),
    ("created_at", .isoformat e.created_at), ("status", .str e.status.value), ("message", .str e.message),
    ("assigned_to_user_id", text (e.assigned_to_user_id.map UUID.str)), ("internal_comment", text e.internal_comment),
    ("sla_due_at", (e.sla_due_at.map Json.isoformat).getD .null), ("attachment_url", text e.attachment_url)]

/-- `POST /missions/{id}/exception-requests`. -/
def create_exception (context : AuditContext) (env : ExceptionEnv) (mission_id : UUID) (message : String)
    (s : SupervisedStore F) : Except Error (Dict × ExceptionPending) := do
  let (created, writes) ← CreateExceptionRequest.execute env ⟨mission_id, context.user, message⟩ s.store
  return (created, ⟨writes, []⟩)

/-- `PATCH /exception-requests/{id}/status`. -/
def update_exception_status (exception_id : UUID) (status : ExceptionRequestStatus) (s : SupervisedStore F) :
    Except Error (Dict × ExceptionPending) := do
  let _ ← get_or_raise (ExceptionRequestRepositoryImpl.get_by_id s.exception_requests exception_id)
    (NotFound "Signalement introuvable.")
  return ([("id", .str exception_id.str), ("status", .str status.value)],
    ⟨ExceptionRequestRepositoryImpl.update_status s.exception_requests exception_id status, []⟩)

/-- `PATCH /exception-requests/{id}`. -/
def patch_exception_request (context : AuditContext) (env : ExceptionEnv) (exception_id : UUID)
    (body : PatchExceptionBody) (s : SupervisedStore F) : Except Error (Dict × ExceptionPending) := do
  let exc ← get_or_raise (ExceptionRequestRepositoryImpl.get_by_id s.exception_requests exception_id)
    (NotFound "Signalement introuvable.")
  let exc := body.apply_to env.now exc
  let entry := write_audit context "exception.patch" "exception_request" exception_id
    [("status", .str exc.status.value)]
  return (exc_dict exc, ⟨ExceptionRequestRepositoryImpl.update s.exception_requests exc, [entry]⟩)

/-- `GET /exception-requests/{id}`. -/
def get_exception_request (exception_id : UUID) (s : SupervisedStore F) : Except Error Dict := do
  let exc ← get_or_raise (ExceptionRequestRepositoryImpl.get_by_id s.exception_requests exception_id)
    (NotFound "Signalement introuvable.")
  return exc_dict exc

/-- The items of a request among those of its mission: `_exception_dict` writes the same ones. -/
def exception_dict (e : ExceptionRequest) : Dict := exc_dict e

/-- `GET /missions/{id}/exception-requests`. -/
def list_mission_exceptions (plan : Plan.Free ExceptionRequestModel) (mission_id : UUID) (s : SupervisedStore F) :
    Except Error (List Dict) := do
  let _ ← get_or_raise (MissionRepositoryImpl.get_by_id s.store mission_id) (NotFound "Mission introuvable.")
  return (ExceptionRequestRepositoryImpl.list_by_mission_id plan s.exception_requests mission_id).map exception_dict

inductive ExceptionRoute
  | create_exception (mission_id : UUID) (message : String)
  | update_exception_status (exception_id : UUID) (status : ExceptionRequestStatus)
  | patch_exception_request (exception_id : UUID) (body : PatchExceptionBody)

/-- A request to one of the routes, with what its execution takes from its surroundings. -/
structure ExceptionCall where
  route : ExceptionRoute
  context : AuditContext
  env : ExceptionEnv

def ExceptionCall.prepare (call : ExceptionCall) (s : SupervisedStore F) : Except Error (Dict × ExceptionPending) :=
  match call.route with
  | .create_exception mission_id message => create_exception call.context call.env mission_id message s
  | .update_exception_status exception_id status => update_exception_status exception_id status s
  | .patch_exception_request exception_id body => patch_exception_request call.context call.env exception_id body s

def ExceptionWrite.apply (exception_requests : Table ExceptionRequestModel) :
    ExceptionWrite → Option (Table ExceptionRequestModel)
  | .add_exception_request row => exception_requests.insert row.stored
  | .update_exception_request loaded written =>
    exception_requests.update loaded.id (ExceptionRequestModel.flush loaded written)

def SupervisedStore.commit (s : SupervisedStore F) (pending : ExceptionPending) : Option (SupervisedStore F) := do
  let exception_requests ← pending.writes.foldlM ExceptionWrite.apply s.exception_requests
  let audit_logs ← insert_audits s.audit_logs pending.audits
  return ⟨s.store, exception_requests, audit_logs⟩

def supervised_database (F : Type) : Database (SupervisedStore F) ExceptionCall Dict ExceptionPending Error where
  prepare := ExceptionCall.prepare
  commit := SupervisedStore.commit
  refused := .IntegrityError

/-- One request in its unit of work. -/
def ExceptionCall.serve (call : ExceptionCall) (s : SupervisedStore F) : Except Error Dict × SupervisedStore F :=
  (supervised_database F).run call s

/-- One request served after the other. -/
def ExceptionServed (s : SupervisedStore F) (call : ExceptionCall) (t : SupervisedStore F) : Prop :=
  (call.serve s).2 = t

end sigis
