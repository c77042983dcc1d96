import Sigis.Application.Ports

open guarded relational

namespace sigis

structure CheckOutCommand where
  site_visit_id : UUID
  mission_id : UUID
  inspector_user_id : UUID
  client_request_id : String

def CheckOutCommand.scope (cmd : CheckOutCommand) : String := "check_out:" ++ cmd.site_visit_id.str

variable {F : Type}

/-- `duration_s`, from the times of arrival and departure. -/
def CheckOutVisit.duration_s (checked_in_at checked_out_at : Option datetime) : Json :=
  match checked_in_at, checked_out_at with
  | some cin, some cout => .float (total_seconds (cout.aware.instant - cin.aware.instant))
  | _, _ => .null

/-- The body of `execute`, after the idempotency lookup. -/
def CheckOutVisit.body (env : Env) (cmd : CheckOutCommand) (s : Store F) :
    Except Error (Dict × List (Write F)) := do
  let mission ← get_or_raise (MissionRepositoryImpl.get_by_id s cmd.mission_id)
    (NotFound "Mission introuvable.")
  raise_if (mission.inspector_id ≠ cmd.inspector_user_id)
    (Forbidden "Seul l'inspecteur assigné peut clôturer.")
  let visit ← get_or_raise (SiteVisitRepositoryImpl.get_by_id s cmd.site_visit_id)
    (NotFound "Visite introuvable.")
  raise_if (visit.mission_id ≠ cmd.mission_id) (Conflict "Mission incohérente.")
  let now := datetime.utc env.now
  let visit ← check_out visit now
  let payload : Dict :=
    [("status", .str visit.status.value),
      ("checked_out_at", visit.checked_out_at.elim .null .isoformat),
      ("presence_duration_seconds",
        CheckOutVisit.duration_s visit.checked_in_at visit.checked_out_at)]
  return (payload, [SiteVisitRepositoryImpl.save s visit])

def CheckOutVisit.execute (env : Env) (cmd : CheckOutCommand) (s : Store F) :
    Except Error (Dict × List (Write F)) :=
  idempotent s env cmd.scope cmd.client_request_id (CheckOutVisit.body env cmd s)

/-- Everything a check-out without recorded response requires of the store, with what
it finds there. -/
structure CheckOutVisit.Admits (cmd : CheckOutCommand) (s : Store F) (v : SiteVisitModel F)
    (m : MissionModel) : Prop where
  mission : s.missions.get cmd.mission_id = some m
  inspector : m.inspector_id = cmd.inspector_user_id
  visit : s.site_visits.get cmd.site_visit_id = some v
  mission_id : v.mission_id = cmd.mission_id
  validated : v.status = .COPRESENCE_OK
  open_visit : v.checked_out_at = none

def CheckOutVisit.visit (env : Env) (v : SiteVisitModel F) : SiteVisit F :=
  { site_visit_to_domain v with
    checked_out_at := some (datetime.utc env.now)
    status := .COMPLETED }

def CheckOutVisit.payload (env : Env) (v : SiteVisitModel F) : Dict :=
  [("status", .str SiteVisitStatus.COMPLETED.value),
    ("checked_out_at", .isoformat (datetime.utc env.now)),
    ("presence_duration_seconds",
      CheckOutVisit.duration_s v.checked_in_at (some (datetime.utc env.now)))]

/-- The check-out succeeds exactly when it is admitted, and then saves the visit. -/
theorem CheckOutVisit.body_eq_ok_iff {env : Env} {cmd : CheckOutCommand} {s : Store F}
    {payload : Dict} {writes : List (Write F)} :
    CheckOutVisit.body env cmd s = .ok (payload, writes) ↔
      ∃ v m, CheckOutVisit.Admits cmd s v m ∧ payload = CheckOutVisit.payload env v ∧
        writes = [SiteVisitRepositoryImpl.save s (CheckOutVisit.visit env v)] := by
  simp only [CheckOutVisit.body, bind_eq_ok_iff, get_or_raise_eq_ok, raise_if_eq_ok, check_out_eq_ok,
    pure_eq_ok, Except.ok.injEq, Prod.mk.injEq, MissionRepositoryImpl.get_by_id,
    SiteVisitRepositoryImpl.get_by_id, Option.map_eq_some_iff, not_not, datetime.to_utc_utc]
  constructor
  · rintro ⟨_, ⟨m, hm, rfl⟩, _, hinspector, _, ⟨v, hv, rfl⟩, _, hmission_id, _, ⟨hstatus, hopen, rfl⟩, rfl,
      rfl⟩
    exact ⟨v, m, ⟨hm, hinspector, hv, hmission_id, hstatus, hopen⟩, rfl, rfl⟩
  · rintro ⟨v, m, h, rfl, rfl⟩
    exact ⟨_, ⟨m, h.mission, rfl⟩, (), h.inspector, _, ⟨v, h.visit, rfl⟩, (), h.mission_id, _,
      ⟨h.validated, h.open_visit, rfl⟩, rfl, rfl⟩

end sigis
