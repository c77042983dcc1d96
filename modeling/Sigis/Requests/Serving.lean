import Sigis.Api.Establishments
import Sigis.Api.Missions
import Sigis.Application.UseCases.CheckInInspector
import Sigis.Application.UseCases.CheckOutVisit
import Sigis.Application.UseCases.ConfirmHostPresence
import Sigis.Application.UseCases.CreateMission
import Sigis.Application.UseCases.MissionWorkflow
import Sigis.Lib.Interleaving

open guarded relational transactional transition

namespace sigis

/-- The requests that read or write missions, establishments and visits, and the
clean-up of the idempotency records. -/
inductive Request (F : Type)
  | create_establishment (cmd : CreateEstablishmentCommand F)
  | update_establishment (establishment_id : UUID) (body : UpdateEstablishmentBody F)
  | create_mission (cmd : CreateMissionCommand)
  | approve_mission (cmd : ApproveMissionCommand)
  | cancel_mission (cmd : CancelMissionCommand)
  | reassign_inspector (cmd : ReassignInspectorCommand)
  | update_mission (mission_id : UUID) (body : UpdateMissionBody)
  | check_in (cmd : CheckInInspectorCommand F)
  | confirm_host (cmd : ConfirmHostCommand F)
  | check_out (cmd : CheckOutCommand)
  | delete_older_than (cutoff : datetime)

inductive Response (F : Type)
  | payload (body : Dict)
  | mission (mission : Mission)
  | establishment (est : Establishment F)
  | deleted (count : Nat)

/-- A request with what its execution takes from its surroundings. -/
structure Call (F : Type) where
  request : Request F
  env : Env

/-- The scope and the client's key of a visit request. -/
def Request.idempotency_key {F : Type} : Request F → Option (String × String)
  | .check_in cmd => some (cmd.scope, cmd.client_request_id)
  | .confirm_host cmd => some (cmd.scope, cmd.client_request_id)
  | .check_out cmd => some (cmd.scope, cmd.client_request_id)
  | _ => none

variable {F : Type} [LinearOrder F] [NatCast F]

/-- What a request computes from the store it reads, with the writes it leaves pending. -/
def Call.prepare (w : World F) (call : Call F) (s : Store F) :
    Except Error (Response F × List (Write F)) :=
  match call.request with
  | .create_establishment cmd =>
    (CreateEstablishment.execute call.env cmd).map (Prod.map .payload id)
  | .update_establishment establishment_id body =>
    (update_establishment establishment_id body s).map (Prod.map .establishment id)
  | .create_mission cmd => (CreateMission.execute call.env cmd s).map (Prod.map .payload id)
  | .approve_mission cmd => (ApproveMission.execute cmd s).map (Prod.map .mission id)
  | .cancel_mission cmd => (CancelMission.execute call.env cmd s).map (Prod.map .mission id)
  | .reassign_inspector cmd => (ReassignInspector.execute call.env cmd s).map (Prod.map .mission id)
  | .update_mission mission_id body => (update_mission mission_id body s).map (Prod.map .mission id)
  | .check_in cmd => (CheckInInspector.execute w call.env cmd s).map (Prod.map .payload id)
  | .confirm_host cmd => (ConfirmHostPresence.execute w call.env cmd s).map (Prod.map .payload id)
  | .check_out cmd => (CheckOutVisit.execute call.env cmd s).map (Prod.map .payload id)
  | .delete_older_than cutoff =>
    let pending := IdempotencyRepositoryImpl.delete_older_than s cutoff
    .ok (.deleted pending.length, pending)

def database (w : World F) : Database (Store F) (Call F) (Response F) (List (Write F)) Error where
  prepare call s := call.prepare w s
  commit := Store.commit
  refused := .IntegrityError

/-- One request in a unit of work of its own: committed when it returns, rolled back
when it raises. -/
def exec (w : World F) (call : Call F) (s : Store F) : Except Error (Response F) × Store F :=
  (database w).run call s

/-- One request served after the other: the identifiers a request draws are new. -/
def Served (w : World F) (s : Store F) (call : Call F) (t : Store F) : Prop :=
  call.env.Fresh s ∧ (exec w call s).2 = t

/-- A sequential run of requests. -/
abbrev Run (w : World F) (init : Store F) (calls : List (Call F)) (s : Store F) : Prop :=
  Execution (Served w) init calls s

omit [LinearOrder F] [NatCast F] in
theorem map_payload_eq_ok_iff {α : Type} {f : α → Response F} {x : Except Error (α × List (Write F))}
    {r : Response F} {writes : List (Write F)} :
    x.map (Prod.map f id) = .ok (r, writes) ↔ ∃ a, x = .ok (a, writes) ∧ r = f a := by
  cases x with
  | error e => simp [Except.map]
  | ok done =>
    simp only [Except.map, Except.ok.injEq, Prod.map, id_eq, Prod.ext_iff]
    constructor
    · rintro ⟨rfl, rfl⟩
      exact ⟨done.1, ⟨rfl, rfl⟩, rfl⟩
    · rintro ⟨_, ⟨rfl, rfl⟩, rfl⟩
      exact ⟨rfl, rfl⟩

variable {w : World F} {call : Call F} {s t : Store F} {r : Response F}

theorem exec_eq_ok_iff_commit :
    exec w call s = (.ok r, t) ↔
      ∃ writes, call.prepare w s = .ok (r, writes) ∧ s.commit writes = some t :=
  Database.run_eq_ok_iff

/-- A request that raises leaves the store as it was. -/
theorem store_of_exec_eq_error {e : Error} (h : exec w call s = (.error e, t)) : t = s :=
  Database.store_of_run_eq_error h

/-- A served request has returned, or has left the store as it was. -/
theorem Served.cases (h : Served w s call t) :
    (∃ r, exec w call s = (.ok r, t)) ∨ ((∃ e, exec w call s = (.error e, s)) ∧ t = s) := by
  obtain ⟨-, rfl⟩ := h
  cases hexec : exec w call s with
  | mk result u =>
    cases result with
    | ok r => exact Or.inl ⟨r, rfl⟩
    | error e =>
      obtain rfl := store_of_exec_eq_error hexec
      exact Or.inr ⟨⟨e, rfl⟩, rfl⟩

end sigis
