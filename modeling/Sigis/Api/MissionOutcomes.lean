import Sigis.Api.MissionEndpoints

open guarded relational transactional transition

namespace sigis

/-- The report of a mission (`domain/mission/mission_outcome.py`). -/
structure MissionOutcome where
  id : UUID
  mission_id : UUID
  summary : String
  notes : Option String
  compliance_level : Option String
  created_at : datetime
  created_by_user_id : UUID
deriving DecidableEq, Repr

structure MissionOutcomeModel where
  id : UUID
  mission_id : UUID
  summary : String
  notes : Option String
  compliance_level : Option String
  created_at : datetime
  created_by_user_id : UUID
deriving DecidableEq, Repr

/-- `uq_mission_outcomes_mission_id`. -/
instance : Row MissionOutcomeModel UUID where
  key r := r.id
  conflict a b := a.mission_id = b.mission_id
  conflict_symm a b := by simp [eq_comm]

theorem clash_mission_outcome_of_mission {a b : MissionOutcomeModel} (h : a.mission_id = b.mission_id) : clash a b :=
  Or.inr (decide_eq_true h)

def MissionOutcomeModel.stored (row : MissionOutcomeModel) : MissionOutcomeModel :=
  { row with created_at := row.created_at.stored }

def mission_outcome_to_domain (row : MissionOutcomeModel) : MissionOutcome where
  id := row.id
  mission_id := row.mission_id
  summary := row.summary
  notes := row.notes
  compliance_level := row.compliance_level
  created_at := row.created_at
  created_by_user_id := row.created_by_user_id

/-- The report of a mission, of which there is one at most (`extra_repos.py`). -/
def MissionOutcomeRepositoryImpl.get_by_mission_id (mission_outcomes : Table MissionOutcomeModel) (mission_id : UUID) :
    Except Error (Option MissionOutcome) := do
  let row ← scalar_one_or_none .MultipleResultsFound (mission_outcomes.rows.filter fun r => r.mission_id = mission_id)
  return row.map mission_outcome_to_domain

/-- The row `MissionOutcomeRepositoryImpl.save` adds. -/
def MissionOutcomeRepositoryImpl.save (outcome : MissionOutcome) : MissionOutcomeModel where
  id := outcome.id
  mission_id := outcome.mission_id
  summary := outcome.summary
  notes := outcome.notes
  compliance_level := outcome.compliance_level
  created_at := outcome.created_at
  created_by_user_id := outcome.created_by_user_id

/-- The command of `SubmitMissionOutcome` (`application/use_cases/mission_workflow.py`). -/
structure SubmitMissionOutcomeCommand where
  mission_id : UUID
  summary : String
  notes : Option String
  compliance_level : Option String
  author_user_id : UUID

/-- What `uuid4()` and the clock give a submission. -/
structure OutcomeEnv where
  outcome_id : UUID
  now : Int

/-- The report `SubmitMissionOutcome.execute` builds; an empty note is none. -/
def SubmitMissionOutcome.outcome (env : OutcomeEnv) (cmd : SubmitMissionOutcomeCommand) : MissionOutcome where
  id := env.outcome_id
  mission_id := cmd.mission_id
  summary := slice_to 8000 cmd.summary
  notes := (cmd.notes.filter fun notes => notes ≠ "").map (slice_to 8000)
  compliance_level := cmd.compliance_level
  created_at := datetime.utc env.now
  created_by_user_id := cmd.author_user_id

variable {F : Type}

def SubmitMissionOutcome.execute (env : OutcomeEnv) (cmd : SubmitMissionOutcomeCommand) (s : Store F)
    (mission_outcomes : Table MissionOutcomeModel) : Except Error (MissionOutcome × MissionOutcomeModel) := do
  let _ ← get_or_raise (MissionRepositoryImpl.get_by_id s cmd.mission_id) (NotFound "Mission introuvable.")
  let existing ← MissionOutcomeRepositoryImpl.get_by_mission_id mission_outcomes cmd.mission_id
  raise_if existing.isSome (Conflict "Un rapport existe déjà pour cette mission.")
  let outcome := SubmitMissionOutcome.outcome env cmd
  return (outcome, MissionOutcomeRepositoryImpl.save outcome)

/-- The body of the request that files a report (`api/v1/missions.py`). -/
structure SubmitMissionOutcomeBody where
  summary : String
  notes : Option String := none
  compliance_level : Option String := none

/-- The dictionary both routes answer with. -/
def outcome_dict (o : MissionOutcome) : Dict :=
  let text (value : Option String) : Json := (value.map Json.str).getD .null
  [("id", .str o.id.str), ("mission_id", .str o.mission_id.str), ("summary", .str o.summary), ("notes", text o.notes),
    ("compliance_level", text o.compliance_level), ("created_at", .isoformat o.created_at),
    ("created_by_user_id", .str o.created_by_user_id.str)]

/-- The tables of a store, with the mission reports and the audit log. -/
structure ReportedStore (F : Type) where
  store : Store F
  mission_outcomes : Table MissionOutcomeModel
  audit_logs : Table AuditLogModel

/-- What the unit of work of a route holds at its end. -/
structure ReportPending (F : Type) where
  writes : List (Write F) := []
  outcomes : List MissionOutcomeModel := []
  audits : List AuditLogModel := []

/-- `POST /missions/{id}/outcome`. -/
def post_mission_outcome (context : AuditContext) (env : OutcomeEnv) (mission_id : UUID)
    (body : SubmitMissionOutcomeBody) (s : ReportedStore F) : Except Error (Response F × ReportPending F) := do
  let (outcome, row) ← SubmitMissionOutcome.execute env
    ⟨mission_id, body.summary, body.notes, body.compliance_level, context.user⟩ s.store s.mission_outcomes
  let entry := write_audit context "mission.outcome" "mission" mission_id [("outcome_id", .str outcome.id.str)]
  return (.payload (outcome_dict outcome), { outcomes := [row], audits := [entry] })

/-- `GET /missions/{id}/outcome`. -/
def get_mission_outcome (mission_id : UUID) (s : ReportedStore F) : Except Error Dict := do
  let found ← MissionOutcomeRepositoryImpl.get_by_mission_id s.mission_outcomes mission_id
  let o ← get_or_raise found (NotFound "Aucun rapport pour cette mission.")
  return outcome_dict o

/-- A submission, with what its execution takes from its surroundings. -/
structure OutcomeCall where
  mission_id : UUID
  body : SubmitMissionOutcomeBody
  context : AuditContext
  env : OutcomeEnv

inductive ReportCall
  | mission (call : MissionCall)
  | outcome (call : OutcomeCall)

def ReportCall.prepare (call : ReportCall) (s : ReportedStore F) : Except Error (Response F × ReportPending F) :=
  match call with
  | .mission call =>
    (call.prepare ⟨s.store, s.audit_logs⟩).map fun done =>
      (done.1, { writes := done.2.writes, audits := done.2.audits })
  | .outcome call => post_mission_outcome call.context call.env call.mission_id call.body s

/-- Reports of one unit of work are inserted, or it is refused. -/
def insert_outcomes (mission_outcomes : Table MissionOutcomeModel) (rows : List MissionOutcomeModel) :
    Option (Table MissionOutcomeModel) :=
  mission_outcomes.insert_all (rows.map .stored)

def ReportedStore.commit [DecidableEq F] (s : ReportedStore F) (pending : ReportPending F) :
    Option (ReportedStore F) := do
  let store ← s.store.commit pending.writes
  let mission_outcomes ← insert_outcomes s.mission_outcomes pending.outcomes
  let audit_logs ← insert_audits s.audit_logs pending.audits
  return ⟨store, mission_outcomes, audit_logs⟩

def reported_database (F : Type) [DecidableEq F] :
    Database (ReportedStore F) ReportCall (Response F) (ReportPending F) Error where
  prepare := ReportCall.prepare
  commit := ReportedStore.commit
  refused := .IntegrityError

section specification

variable {s : ReportedStore F} {r : Response F} {pending : ReportPending F} {mission_id : UUID}

/-- The report of a mission, of which there is at most one. -/
def outcome_of_mission (mission_outcomes : Table MissionOutcomeModel) (mission_id : UUID) :
    Option MissionOutcomeModel :=
  mission_outcomes.rows.find? fun r => r.mission_id = mission_id

theorem outcome_of_mission_eq_some_iff {mission_outcomes : Table MissionOutcomeModel} {row : MissionOutcomeModel} :
    outcome_of_mission mission_outcomes mission_id = some row ↔
      row ∈ mission_outcomes.rows ∧ row.mission_id = mission_id := by
  constructor
  · intro h
    exact ⟨List.mem_of_find?_eq_some h, by simpa using List.find?_some h⟩
  · rintro ⟨hmem, rfl⟩
    cases hfind : outcome_of_mission mission_outcomes row.mission_id with
    | none =>
      have hne := List.find?_eq_none.mp hfind row hmem
      simp at hne
    | some found =>
      have hsame : found.mission_id = row.mission_id := by simpa using List.find?_some hfind
      rw [mission_outcomes.eq_of_clash (List.mem_of_find?_eq_some hfind) hmem (clash_mission_outcome_of_mission hsame)]

theorem MissionOutcomeRepositoryImpl.get_by_mission_id_eq (mission_outcomes : Table MissionOutcomeModel)
    (mission_id : UUID) : get_by_mission_id mission_outcomes mission_id =
      .ok ((outcome_of_mission mission_outcomes mission_id).map mission_outcome_to_domain) := by
  have hlength : (mission_outcomes.rows.filter fun r => r.mission_id = mission_id).length ≤ 1 := by
    refine mission_outcomes.length_filter_le_one _ fun a b ha hb => clash_mission_outcome_of_mission ?_
    exact (of_decide_eq_true ha).trans (of_decide_eq_true hb).symm
  rw [get_by_mission_id, scalar_one_or_none_of_length_le hlength, List.head?_filter]
  rfl

theorem get_mission_outcome_eq_ok_iff {answer : Dict} :
    get_mission_outcome mission_id s = .ok answer ↔
      ∃ row ∈ s.mission_outcomes.rows, row.mission_id = mission_id ∧
        answer = outcome_dict (mission_outcome_to_domain row) := by
  simp only [get_mission_outcome, MissionOutcomeRepositoryImpl.get_by_mission_id_eq, bind_eq_ok_iff,
    get_or_raise_eq_ok, pure_eq_ok, Except.ok.injEq, exists_eq_left', Option.map_eq_some_iff,
    outcome_of_mission_eq_some_iff]
  constructor
  · rintro ⟨_, ⟨row, ⟨hmem, hmission⟩, rfl⟩, rfl⟩
    exact ⟨row, hmem, hmission, rfl⟩
  · rintro ⟨row, hmem, hmission, rfl⟩
    exact ⟨_, ⟨row, ⟨hmem, hmission⟩, rfl⟩, rfl⟩

/-- The report a submission is about to add. -/
def OutcomeCall.outcome (call : OutcomeCall) : MissionOutcome :=
  SubmitMissionOutcome.outcome call.env
    ⟨call.mission_id, call.body.summary, call.body.notes, call.body.compliance_level, call.context.user⟩

/-- The entry a submission is about to make in the audit log. -/
def OutcomeCall.entry (call : OutcomeCall) : AuditLogModel :=
  write_audit call.context "mission.outcome" "mission" call.mission_id [("outcome_id", .str call.env.outcome_id.str)]

theorem prepare_outcome_eq_ok_iff {call : OutcomeCall} :
    (ReportCall.outcome call).prepare s = .ok (r, pending) ↔
      (s.store.missions.get call.mission_id).isSome ∧
      outcome_of_mission s.mission_outcomes call.mission_id = none ∧
      r = .payload (outcome_dict call.outcome) ∧
      pending = { outcomes := [MissionOutcomeRepositoryImpl.save call.outcome], audits := [call.entry] } := by
  simp only [ReportCall.prepare, post_mission_outcome, SubmitMissionOutcome.execute, bind_eq_ok_iff, get_or_raise_eq_ok,
    raise_if_eq_ok, pure_eq_ok, Except.ok.injEq, Prod.mk.injEq, MissionRepositoryImpl.get_by_id,
    MissionOutcomeRepositoryImpl.get_by_mission_id_eq, Option.not_isSome_iff_eq_none, Option.map_eq_none_iff,
    exists_eq_left', Option.map_eq_some_iff]
  constructor
  · rintro ⟨_, ⟨_, ⟨m, hm, -⟩, _, hnone, rfl⟩, rfl, rfl⟩
    exact ⟨by rw [hm]; rfl, hnone, rfl, rfl⟩
  · rintro ⟨hm, hnone, rfl, rfl⟩
    obtain ⟨m, hm⟩ := Option.isSome_iff_exists.mp hm
    exact ⟨_, ⟨_, ⟨m, hm, rfl⟩, (), hnone, rfl⟩, rfl, rfl⟩

/-- A second report is refused. -/
theorem prepare_outcome_of_reported {call : OutcomeCall} (hmission : (s.store.missions.get call.mission_id).isSome)
    (hreported : (outcome_of_mission s.mission_outcomes call.mission_id).isSome) :
    (ReportCall.outcome call).prepare s = .error (Conflict "Un rapport existe déjà pour cette mission.") := by
  obtain ⟨m, hm⟩ := Option.isSome_iff_exists.mp hmission
  simp [ReportCall.prepare, post_mission_outcome, SubmitMissionOutcome.execute, MissionRepositoryImpl.get_by_id, hm,
    MissionOutcomeRepositoryImpl.get_by_mission_id_eq, raise_if, hreported]

theorem ReportedStore.commit_eq_some_iff [DecidableEq F] {t : ReportedStore F} :
    s.commit pending = some t ↔
      s.store.commit pending.writes = some t.store ∧
      insert_outcomes s.mission_outcomes pending.outcomes = some t.mission_outcomes ∧
      insert_audits s.audit_logs pending.audits = some t.audit_logs := by
  change (s.store.commit pending.writes).bind (fun store =>
    (insert_outcomes s.mission_outcomes pending.outcomes).bind fun outcomes =>
      (insert_audits s.audit_logs pending.audits).bind fun logs => some ⟨store, outcomes, logs⟩) = some t ↔ _
  simp only [Option.bind_eq_some_iff, Option.some.injEq]
  constructor
  · rintro ⟨store, hstore, outcomes, houtcomes, logs, hlogs, rfl⟩
    exact ⟨hstore, houtcomes, hlogs⟩
  · rintro ⟨hstore, houtcomes, hlogs⟩
    exact ⟨_, hstore, _, houtcomes, _, hlogs, rfl⟩

end specification

end sigis
