import Sigis.Accounts.Escalation
import Sigis.Api.ExceptionRequests
import Sigis.Api.MissionOutcomes
import Sigis.Rbac.Endpoints

open guarded relational transactional transition

namespace sigis

/-- The body of a check-in (`api/v1/site_visits.py`). -/
structure CheckInBody (F : Type) where
  latitude : F
  longitude : F
  client_request_id : String
  host_validation_mode : HostValidationMode

structure ConfirmHostBody (F : Type) where
  mission_id : UUID
  client_request_id : String
  latitude : Option F := none
  longitude : Option F := none
  qr_token : Option UUID := none
  qr_jwt : Option String := none
  sms_code : Option String := none

structure CheckOutBody where
  mission_id : UUID
  client_request_id : String

/-- The routes of `establishments.py` and `site_visits.py` that write. -/
inductive SiteRoute (F : Type)
  | create_establishment (body : CreateEstablishmentCommand F)
  | update_establishment (establishment_id : UUID) (body : UpdateEstablishmentBody F)
  | check_in (mission_id : UUID) (body : CheckInBody F)
  | confirm_host (site_visit_id : UUID) (body : ConfirmHostBody F)
  | check_out_ep (site_visit_id : UUID) (body : CheckOutBody)

/-- The fourteen endpoints for establishments, missions, visits, reports and exception requests that write, all under
`RequirePermissionDep`. The same guard stands before `POST /auth/register`, `PATCH /users/{id}/roles`,
`POST /mobile/events:batch` and `POST /telemetry/events`, which write other tables or none and are not among them. -/
inductive WriteEndpoint (F : Type)
  | site (route : SiteRoute F)
  | mission (route : MissionRoute)
  | post_mission_outcome (mission_id : UUID) (body : SubmitMissionOutcomeBody)
  | exception_request (route : ExceptionRoute)

def SiteRoute.required {F : Type} : SiteRoute F → Permission
  | .create_establishment _ => .ESTABLISHMENT_CREATE
  | .update_establishment _ _ => .ESTABLISHMENT_UPDATE
  | .check_in _ _ => .VISIT_CHECKIN
  | .confirm_host _ _ => .VISIT_HOST_CONFIRM
  | .check_out_ep _ _ => .VISIT_CHECKOUT

def MissionRoute.required : MissionRoute → Permission
  | .create_mission _ => .MISSION_CREATE
  | .update_mission _ _ => .MISSION_UPDATE
  | .approve_mission _ => .MISSION_APPROVE
  | .cancel_mission_ep _ _ => .MISSION_CANCEL
  | .reassign_mission _ _ => .MISSION_REASSIGN

def ExceptionRoute.required : ExceptionRoute → Permission
  | .create_exception _ _ => .EXCEPTION_CREATE
  | .update_exception_status _ _ => .EXCEPTION_UPDATE_STATUS
  | .patch_exception_request _ _ => .EXCEPTION_MANAGE

/-- The permission in the decorator of the endpoint. -/
def WriteEndpoint.required {F : Type} : WriteEndpoint F → Permission
  | .site route => route.required
  | .mission route => route.required
  | .post_mission_outcome _ _ => .MISSION_OUTCOME_WRITE
  | .exception_request route => route.required

/-- The tables those endpoints, the endpoints for roles and the start of the application write. -/
structure Platform (F : Type) where
  store : Store F
  exception_requests : Table ExceptionRequestModel
  mission_outcomes : Table MissionOutcomeModel
  audit_logs : Table AuditLogModel
  accounts : accounts.AccountStore

/-- What a request carries, and takes from its surroundings. -/
structure Surroundings where
  credentials : accounts.Credentials
  authenticated_at : Int
  request_id : Option String
  audit_id : UUID
  audited_at : Int
  env : Env
  outcome_env : OutcomeEnv
  exception_env : ExceptionEnv

/-- The context of the audit entries of a request of this user. -/
def Surroundings.context (sur : Surroundings) (user : UUID) : AuditContext :=
  ⟨user, sur.request_id, sur.audit_id, sur.audited_at⟩

/-- What a request can raise: in a dependency or in the body of its endpoint. -/
inductive HttpError
  | dependency (e : accounts.Error)
  | endpoint (e : Error)

variable {F : Type} [LinearOrder F] [NatCast F]

/-- The request to the use case behind the route: the user of the request is its actor. -/
def SiteRoute.request (user : UUID) : SiteRoute F → Request F
  | .create_establishment body => .create_establishment body
  | .update_establishment establishment_id body => .update_establishment establishment_id body
  | .check_in mission_id body =>
    .check_in ⟨mission_id, user, body.latitude, body.longitude, body.client_request_id, body.host_validation_mode⟩
  | .confirm_host site_visit_id body =>
    .confirm_host ⟨site_visit_id, body.mission_id, user, body.client_request_id, body.latitude, body.longitude,
      body.qr_token, body.qr_jwt, body.sms_code⟩
  | .check_out_ep site_visit_id body => .check_out ⟨site_visit_id, body.mission_id, user, body.client_request_id⟩

section tables

omit [LinearOrder F] [NatCast F]

variable (p : Platform F)

/-- The platform with the tables of one unit of work as it has left them. -/
def Platform.with_audited (s : AuditedStore F) : Platform F := { p with store := s.store, audit_logs := s.audit_logs }

def Platform.with_reported (s : ReportedStore F) : Platform F :=
  { p with store := s.store, mission_outcomes := s.mission_outcomes, audit_logs := s.audit_logs }

def Platform.with_supervised (s : SupervisedStore F) : Platform F :=
  { p with store := s.store, exception_requests := s.exception_requests, audit_logs := s.audit_logs }

end tables

/-- The body of an endpoint, in the unit of work of its request. -/
def WriteEndpoint.handle (w : World F) (sur : Surroundings) (user : UUID) (p : Platform F)
    (endpoint : WriteEndpoint F) : Except Error (Response F) × Platform F :=
  match endpoint with
  | .site route =>
    let (result, store) := exec w ⟨route.request user, sur.env⟩ p.store
    (result, { p with store := store })
  | .mission route =>
    let (result, s) := MissionCall.serve ⟨route, sur.context user, sur.env⟩ ⟨p.store, p.audit_logs⟩
    (result, p.with_audited s)
  | .post_mission_outcome mission_id body =>
    let (result, s) := (reported_database F).run (.outcome ⟨mission_id, body, sur.context user, sur.outcome_env⟩)
      ⟨p.store, p.mission_outcomes, p.audit_logs⟩
    (result, p.with_reported s)
  | .exception_request route =>
    let (result, s) := ExceptionCall.serve ⟨route, sur.context user, sur.exception_env⟩
      ⟨p.store, p.exception_requests, p.audit_logs⟩
    (result.map .payload, p.with_supervised s)

/-- The dependencies, then the body: the permission is checked first. -/
def WriteEndpoint.serve (w : World F) (d : accounts.Deployment) (sur : Surroundings) (p : Platform F)
    (endpoint : WriteEndpoint F) : Except HttpError (Response F) × Platform F :=
  let now := sur.authenticated_at
  match accounts.require_permission d now endpoint.required sur.credentials p.accounts with
  | .error e => (.error (.dependency e), p)
  | .ok () =>
    match accounts.current_user d now sur.credentials with
    | .error e => (.error (.dependency e), p)
    | .ok user =>
      let (result, q) := endpoint.handle w sur user p
      (result.mapError .endpoint, q)

/-- What happens to the platform: a request to one of the endpoints above or to those for roles,
or the start of the application, with the cutoff of its clean-up. -/
inductive HttpEvent (F : Type)
  | request (endpoint : WriteEndpoint F) (sur : Surroundings)
  | roles (request : accounts.RolesRequest)
  | restart (cutoff : datetime) (env : Env)

/-- One event after the other: the identifiers a request draws are new. -/
def HttpServed (w : World F) (d : accounts.Deployment) (p : Platform F) (event : HttpEvent F) (q : Platform F) : Prop :=
  match event with
  | .request endpoint sur => sur.env.Fresh p.store ∧ (endpoint.serve w d sur p).2 = q
  | .roles request => ∃ result s, request.serve d p.accounts = some (result, s) ∧ q = { p with accounts := s }
  | .restart cutoff env =>
    env.Fresh p.store ∧ q = { p with
      store := (exec w ⟨.delete_older_than cutoff, env⟩ p.store).2
      accounts := accounts.Restart.execute d p.accounts .lifespan }

/-- The event is a request whose token is of this role. -/
def HttpEvent.By (d : accounts.Deployment) (event : HttpEvent F) (role : Role) : Prop :=
  match event with
  | .request _ sur => accounts.BearsRole d sur.authenticated_at sur.credentials role
  | .roles call => accounts.BearsRole d call.now call.credentials role
  | .restart _ _ => False

/-- The event is a request whose token is of this user. -/
def HttpEvent.Of (d : accounts.Deployment) (event : HttpEvent F) (user : UUID) : Prop :=
  match event with
  | .request _ sur => accounts.current_user d sur.authenticated_at sur.credentials = .ok user
  | .roles call => accounts.current_user d call.now call.credentials = .ok user
  | .restart _ _ => False

/-- The event is not a request without a token. -/
def HttpEvent.Authenticated : HttpEvent F → Prop
  | .request _ sur => sur.credentials.token.isSome
  | .roles _ | .restart _ _ => True

end sigis
