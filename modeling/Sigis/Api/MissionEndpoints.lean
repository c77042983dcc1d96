import Sigis.Common.Audit
import Sigis.Requests.Serving

open guarded relational transactional transition

namespace sigis

variable {F : Type}

/-! The routes of `api/v1/missions.py` that write missions: the use case, and the audit entry that
the route adds to the same unit of work. -/

/-- The tables of a store and the audit log. -/
structure AuditedStore (F : Type) where
  store : Store F
  audit_logs : Table AuditLogModel

/-- What the unit of work of a route holds at its end. -/
structure Pending (F : Type) where
  writes : List (Write F)
  audits : List AuditLogModel := []

/-- `POST /missions`. -/
def create_mission (env : Env) (body : CreateMissionCommand) (s : Store F) : Except Error (Response F × Pending F) := do
  let (created, writes) ← CreateMission.execute env body s
  return (.payload created, ⟨writes, []⟩)

/-- `PATCH /missions/{id}`. -/
def patch_mission (mission_id : UUID) (body : UpdateMissionBody) (s : Store F) :
    Except Error (Response F × Pending F) := do
  let (mission, writes) ← update_mission mission_id body s
  return (.mission mission, ⟨writes, []⟩)

/-- `POST /missions/{id}/approve`. -/
def approve_mission (context : AuditContext) (mission_id : UUID) (s : Store F) :
    Except Error (Response F × Pending F) := do
  let (mission, writes) ← ApproveMission.execute ⟨mission_id, context.user⟩ s
  let entry := write_audit context "mission.approve" "mission" mission_id [("status", .str mission.status.value)]
  return (.mission mission, ⟨writes, [entry]⟩)

/-- `POST /missions/{id}/cancel`. -/
def cancel_mission_ep (context : AuditContext) (env : Env) (mission_id : UUID) (reason : String) (s : Store F) :
    Except Error (Response F × Pending F) := do
  let (mission, writes) ← CancelMission.execute env ⟨mission_id, reason, context.user⟩ s
  let entry := write_audit context "mission.cancel" "mission" mission_id [("reason", .str (slice_to 500 reason))]
  return (.mission mission, ⟨writes, [entry]⟩)

/-- `POST /missions/{id}/reassign`. -/
def reassign_mission (context : AuditContext) (env : Env) (mission_id new_inspector_id : UUID) (s : Store F) :
    Except Error (Response F × Pending F) := do
  let (mission, writes) ← ReassignInspector.execute env ⟨mission_id, new_inspector_id, context.user⟩ s
  let entry := write_audit context "mission.reassign" "mission" mission.id
    [("from_mission_id", .str mission_id.str), ("inspector_id", .str mission.inspector_id.str)]
  return (.mission mission, ⟨writes, [entry]⟩)

section specification

variable {s : Store F} {env : Env} {context : AuditContext} {mission_id : UUID} {r : Response F} {pending : Pending F}

/-- A route adds its entries to what its use case writes. -/
theorem pending_eq_ok_iff {α : Type} {execute : Except Error (α × List (Write F))} (f : α → Response F)
    (entries : α → List AuditLogModel) :
    (do let (a, writes) ← execute; return (f a, (⟨writes, entries a⟩ : Pending F))) = .ok (r, pending) ↔
      ∃ a, execute = .ok (a, pending.writes) ∧ r = f a ∧ pending.audits = entries a := by
  obtain ⟨writes, audits⟩ := pending
  cases execute with
  | error e => simp
  | ok done =>
    obtain ⟨a, ws⟩ := done
    simp only [bind_ok, pure_eq_ok, Except.ok.injEq, Prod.mk.injEq, Pending.mk.injEq]
    constructor
    · rintro ⟨rfl, rfl, rfl⟩
      exact ⟨a, ⟨rfl, rfl⟩, rfl, rfl⟩
    · rintro ⟨_, ⟨rfl, rfl⟩, rfl, rfl⟩
      exact ⟨rfl, rfl, rfl⟩

theorem create_mission_eq_ok_iff {body : CreateMissionCommand} :
    create_mission env body s = .ok (r, pending) ↔
      ∃ created, CreateMission.execute env body s = .ok (created, pending.writes) ∧ r = .payload created ∧
        pending.audits = [] := pending_eq_ok_iff .payload fun _ => []

theorem patch_mission_eq_ok_iff {body : UpdateMissionBody} :
    patch_mission mission_id body s = .ok (r, pending) ↔
      ∃ mission, update_mission mission_id body s = .ok (mission, pending.writes) ∧ r = .mission mission ∧
        pending.audits = [] := pending_eq_ok_iff .mission fun _ => []

theorem approve_mission_eq_ok_iff :
    approve_mission context mission_id s = .ok (r, pending) ↔
      ∃ mission, ApproveMission.execute ⟨mission_id, context.user⟩ s = .ok (mission, pending.writes) ∧
        r = .mission mission ∧ pending.audits = [write_audit context "mission.approve" "mission" mission_id
          [("status", .str mission.status.value)]] :=
  pending_eq_ok_iff .mission fun mission =>
    [write_audit context "mission.approve" "mission" mission_id [("status", .str mission.status.value)]]

theorem cancel_mission_ep_eq_ok_iff {reason : String} :
    cancel_mission_ep context env mission_id reason s = .ok (r, pending) ↔
      ∃ mission, CancelMission.execute env ⟨mission_id, reason, context.user⟩ s = .ok (mission, pending.writes) ∧
        r = .mission mission ∧ pending.audits = [write_audit context "mission.cancel" "mission" mission_id
          [("reason", .str (slice_to 500 reason))]] :=
  pending_eq_ok_iff .mission fun _ =>
    [write_audit context "mission.cancel" "mission" mission_id [("reason", .str (slice_to 500 reason))]]

theorem reassign_mission_eq_ok_iff {new_inspector_id : UUID} :
    reassign_mission context env mission_id new_inspector_id s = .ok (r, pending) ↔
      ∃ mission, ReassignInspector.execute env ⟨mission_id, new_inspector_id, context.user⟩ s =
          .ok (mission, pending.writes) ∧ r = .mission mission ∧
        pending.audits = [write_audit context "mission.reassign" "mission" mission.id
          [("from_mission_id", .str mission_id.str), ("inspector_id", .str mission.inspector_id.str)]] :=
  pending_eq_ok_iff .mission fun mission =>
    [write_audit context "mission.reassign" "mission" mission.id
      [("from_mission_id", .str mission_id.str), ("inspector_id", .str mission.inspector_id.str)]]

end specification

inductive MissionRoute
  | create_mission (body : CreateMissionCommand)
  | update_mission (mission_id : UUID) (body : UpdateMissionBody)
  | approve_mission (mission_id : UUID)
  | cancel_mission_ep (mission_id : UUID) (reason : String)
  | reassign_mission (mission_id new_inspector_id : UUID)

/-- A request to one of the routes, with what its execution takes from its surroundings. -/
structure MissionCall where
  route : MissionRoute
  context : AuditContext
  env : Env

def MissionCall.prepare (call : MissionCall) (s : AuditedStore F) : Except Error (Response F × Pending F) :=
  match call.route with
  | .create_mission body => create_mission call.env body s.store
  | .update_mission mission_id body => patch_mission mission_id body s.store
  | .approve_mission mission_id => approve_mission call.context mission_id s.store
  | .cancel_mission_ep mission_id reason => cancel_mission_ep call.context call.env mission_id reason s.store
  | .reassign_mission mission_id new_inspector_id =>
    reassign_mission call.context call.env mission_id new_inspector_id s.store

/-- The entries of one unit of work are inserted, or it is refused. -/
def insert_audits (logs : Table AuditLogModel) : List AuditLogModel → Option (Table AuditLogModel)
  | [] => some logs
  | entry :: entries => (logs.insert entry.stored).bind fun more => insert_audits more entries

def AuditedStore.commit [DecidableEq F] (s : AuditedStore F) (pending : Pending F) : Option (AuditedStore F) := do
  let store ← s.store.commit pending.writes
  let audit_logs ← insert_audits s.audit_logs pending.audits
  return ⟨store, audit_logs⟩

variable [DecidableEq F]

def audited_database : Database (AuditedStore F) MissionCall (Response F) (Pending F) Error where
  prepare := MissionCall.prepare
  commit := AuditedStore.commit
  refused := .IntegrityError

/-- One request in its unit of work. -/
def MissionCall.serve (call : MissionCall) (s : AuditedStore F) : Except Error (Response F) × AuditedStore F :=
  audited_database.run call s

/-- One request served after the other: the identifiers a request draws are new. -/
def AuditedServed (s : AuditedStore F) (call : MissionCall) (t : AuditedStore F) : Prop :=
  call.env.Fresh s.store ∧ (call.serve s).2 = t

end sigis
