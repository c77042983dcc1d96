import Sigis.Concurrency.Workflow
import Sigis.Platform.Duties
import Sigis.Platform.Trail
import Sigis.Requests.Refusals

open guarded relational transactional transition

namespace sigis

namespace accounts

variable {d : Deployment} {now : Int} {credentials : Credentials} {required : Permission} {s : AccountStore}

end accounts

variable {F : Type} [LinearOrder F] [NatCast F] {w : World F} {d : accounts.Deployment} {sur : Surroundings}
  {user : UUID} {init p s : Platform F} {events : List (HttpEvent F)} {e : Error}

/-- The identifiers the request draws are new. -/
structure Surroundings.Fresh (sur : Surroundings) (p : Platform F) : Prop where
  env : sur.env.Fresh p.store
  audit : p.audit_logs.get sur.audit_id = none
  outcome : p.mission_outcomes.get sur.outcome_env.outcome_id = none
  exception_request : p.exception_requests.get sur.exception_env.exception_request_id = none

omit [LinearOrder F] [NatCast F] in
theorem MissionCall.raises_only_refuses (call : MissionCall) {x : AuditedStore F} (hroles : x.store.RolesKnown) :
    raises_only (call.prepare x) Error.Refuses := by
  obtain ⟨route, context, env⟩ := call
  cases route with
  | create_mission body =>
    exact raises_only_bind (CreateMission.raises_only_refuses hroles body) fun _ _ => raises_only_pure
  | update_mission id body => exact raises_only_bind (raises_only_update_mission id body) fun _ _ => raises_only_pure
  | approve_mission id => exact raises_only_bind (ApproveMission.raises_only_refuses _) fun _ _ => raises_only_pure
  | cancel_mission_ep id reason =>
    exact raises_only_bind (CancelMission.raises_only_refuses _) fun _ _ => raises_only_pure
  | reassign_mission id inspector =>
    exact raises_only_bind (ReassignInspector.raises_only_refuses hroles _) fun _ _ => raises_only_pure

/-- The answer to a request that raised, if the application has one. -/
def HttpError.answer (request_id : Option String) : HttpError → Option HttpAnswer
  | .dependency e => e.answer request_id
  | .endpoint e => e.answer request_id

namespace pilot

end pilot

end sigis
