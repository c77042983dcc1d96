import Sigis.Api.MissionOutcomes
import Sigis.Lib.Ledger
import Sigis.Requests.Progress

open guarded relational transactional transition

namespace sigis

variable {F : Type} {s t : ReportedStore F} {call : OutcomeCall} {r : Response F} {pending : ReportPending F}
  {mission_id : UUID}

/-- The entries a route on missions makes. -/
def MissionCall.entries (call : MissionCall) : List AuditLogModel :=
  match call.route with
  | .create_mission _ | .update_mission _ _ => []
  | .approve_mission mission_id =>
    [write_audit call.context "mission.approve" "mission" mission_id [("status", .str MissionStatus.PLANNED.value)]]
  | .cancel_mission_ep mission_id reason =>
    [write_audit call.context "mission.cancel" "mission" mission_id [("reason", .str (slice_to 500 reason))]]
  | .reassign_mission mission_id new_inspector_id =>
    [write_audit call.context "mission.reassign" "mission" call.env.mission_id
      [("from_mission_id", .str mission_id.str), ("inspector_id", .str new_inspector_id.str)]]

/-- The rows of the audit log a request brings. -/
def ReportCall.entries : ReportCall → List AuditLogModel
  | .mission call => call.entries.map .stored
  | .outcome call => [call.entry.stored]

/-- The reports a request brings. -/
def ReportCall.reports : ReportCall → List MissionOutcomeModel
  | .mission _ => []
  | .outcome call => [(MissionOutcomeRepositoryImpl.save call.outcome).stored]

theorem ApproveMission.status_eq {cmd : ApproveMissionCommand} {x : Store F} {mission : Mission}
    {writes : List (Write F)} (h : ApproveMission.execute cmd x = .ok (mission, writes)) :
    mission.status = .PLANNED := by
  obtain ⟨m, -, -, rfl, -⟩ := ApproveMission.execute_eq_ok_iff.mp h
  rfl

theorem ReassignInspector.clone_eq {env : Env} {cmd : ReassignInspectorCommand} {x : Store F} {mission : Mission}
    {writes : List (Write F)} (h : ReassignInspector.execute env cmd x = .ok (mission, writes)) :
    mission.id = env.mission_id ∧ mission.inspector_id = cmd.new_inspector_id := by
  simp only [ReassignInspector.execute, bind_eq_ok_iff, pure_eq_ok, Except.ok.injEq, Prod.mk.injEq] at h
  obtain ⟨old, -, -, -, -, -, -, -, -, -, rfl, -⟩ := h
  exact ⟨rfl, rfl⟩

theorem MissionCall.audits_eq {call : MissionCall} {x : AuditedStore F} {pending : Pending F}
    (h : call.prepare x = .ok (r, pending)) : pending.audits = call.entries := by
  obtain ⟨route, context, env⟩ := call
  cases route with
  | create_mission body =>
    obtain ⟨created, -, -, haudits⟩ := create_mission_eq_ok_iff.mp h
    exact haudits
  | update_mission mission_id body =>
    obtain ⟨mission, -, -, haudits⟩ := patch_mission_eq_ok_iff.mp h
    exact haudits
  | approve_mission mission_id =>
    obtain ⟨mission, hexecute, -, haudits⟩ := approve_mission_eq_ok_iff.mp h
    rw [haudits, ApproveMission.status_eq hexecute]
    rfl
  | cancel_mission_ep mission_id reason =>
    obtain ⟨mission, -, -, haudits⟩ := cancel_mission_ep_eq_ok_iff.mp h
    exact haudits
  | reassign_mission mission_id new_inspector_id =>
    obtain ⟨mission, hexecute, -, haudits⟩ := reassign_mission_eq_ok_iff.mp h
    obtain ⟨hid, hinspector⟩ := ReassignInspector.clone_eq hexecute
    rw [haudits, hid, hinspector]
    rfl

theorem insert_audits_eq_insert_all (logs : Table AuditLogModel) (entries : List AuditLogModel) :
    insert_audits logs entries = logs.insert_all (entries.map .stored) := by
  induction entries generalizing logs with
  | nil => rfl
  | cons entry entries ih =>
    change (logs.insert entry.stored).bind (fun more => insert_audits more entries) =
      (logs.insert entry.stored).bind fun more => more.insert_all (entries.map .stored)
    simp only [ih]

theorem rows_insert_audits {logs more : Table AuditLogModel} {entries : List AuditLogModel}
    (h : insert_audits logs entries = some more) : more.rows = logs.rows ++ entries.map .stored := by
  rw [insert_audits_eq_insert_all] at h
  exact (Table.insert_all_eq_some_iff.mp h).2

section ledger

variable [DecidableEq F]

theorem appends_reports : Appends (reported_database F) (fun s => s.mission_outcomes.rows)
    fun pending => pending.outcomes.map .stored where
  commit h := (Table.insert_all_eq_some_iff.mp (ReportedStore.commit_eq_some_iff.mp h).2.1).2

theorem appends_entries : Appends (reported_database F) (fun s => s.audit_logs.rows)
    fun pending => pending.audits.map .stored where
  commit h := rows_insert_audits (ReportedStore.commit_eq_some_iff.mp h).2.2

omit [DecidableEq F] in
theorem map_pending_eq_ok_iff {x : Except Error (Response F × Pending F)} :
    (x.map fun done => (done.1, ({ writes := done.2.writes, audits := done.2.audits } : ReportPending F))) =
      .ok (r, pending) ↔
        ∃ inner, x = .ok (r, inner) ∧ pending = { writes := inner.writes, audits := inner.audits } := by
  cases x with
  | error e => exact ⟨nofun, nofun⟩
  | ok done =>
    obtain ⟨answer, inner⟩ := done
    constructor
    · rintro ⟨⟩
      exact ⟨inner, rfl, rfl⟩
    · rintro ⟨_, ⟨⟩, rfl⟩
      rfl

theorem brings_reports : Brings (reported_database F) (fun pending => pending.outcomes.map .stored)
    ReportCall.reports := by
  intro call s answer pending h
  cases call with
  | mission call =>
    obtain ⟨inner, -, rfl⟩ := map_pending_eq_ok_iff.mp h
    rfl
  | outcome call =>
    obtain ⟨-, -, -, rfl⟩ := prepare_outcome_eq_ok_iff.mp h
    rfl

theorem brings_entries : Brings (reported_database F) (fun pending => pending.audits.map .stored)
    ReportCall.entries := by
  intro call s answer pending h
  cases call with
  | mission call =>
    obtain ⟨inner, hprepare, rfl⟩ := map_pending_eq_ok_iff.mp h
    exact congrArg (List.map AuditLogModel.stored) (MissionCall.audits_eq hprepare)
  | outcome call =>
    obtain ⟨-, -, -, rfl⟩ := prepare_outcome_eq_ok_iff.mp h
    rfl

omit [DecidableEq F] in
theorem isSome_get_insert {ρ κ : Type} [DecidableEq κ] [Row ρ κ] {t u : Table ρ} {r : ρ} {k : κ}
    (h : t.insert r = some u) (hk : (t.get k).isSome) : (u.get k).isSome := by
  obtain ⟨a, ha⟩ := Option.isSome_iff_exists.mp hk
  exact Option.isSome_iff_exists.mpr ⟨a, Table.get_insert_of_some h ha⟩

theorem Write.isSome_mission {x y : Store F} {write : Write F} {id : UUID} (h : write.apply x = some y)
    (hid : (x.missions.get id).isSome) : (y.missions.get id).isSome := by
  cases write with
  | add_mission row =>
    obtain ⟨rows, hrows, rfl⟩ := Option.map_eq_some_iff.mp h
    exact isSome_get_insert hrows hid
  | update_mission loaded written =>
    obtain ⟨rows, hrows, rfl⟩ := Option.map_eq_some_iff.mp h
    rw [Table.get_update (MissionModel.keeps_flush loaded written) hrows]
    split
    · next hsame => rwa [Option.isSome_map, ← hsame]
    · exact hid
  | delete_idempotency_record record =>
    cases h
    exact hid
  | _ =>
    obtain ⟨rows, hrows, rfl⟩ := Option.map_eq_some_iff.mp h
    exact hid

theorem Store.isSome_mission_of_commit {writes : List (Write F)} {x y : Store F} {id : UUID}
    (h : x.commit writes = some y) (hid : (x.missions.get id).isSome) : (y.missions.get id).isSome := by
  induction writes generalizing x with
  | nil =>
    cases h
    exact hid
  | cons write writes ih =>
    obtain ⟨z, hz, hrest⟩ := Store.commit_cons_eq_some_iff.mp h
    exact ih hrest (write.isSome_mission hz hid)

end ledger

section interleaving

variable [DecidableEq F] {ι : Type} [DecidableEq ι] {request : ι → ReportCall} {s₀ : ReportedStore F}
  {c : Config (ReportedStore F) ι (Response F) (ReportPending F) Error} {labels : List (Event ι)} {i j : ι}

/-- The mission of a submission that has read stays. -/
theorem isSome_mission_of_interleaving
    (hrun : Execution (Step (reported_database F) request) (Config.start s₀) labels c)
    (hi : request i = .outcome call) (hphase : c.phase i = .prepared r pending ∨ c.phase i = .answered r pending) :
    (c.store.store.missions.get call.mission_id).isSome := by
  induction hrun with
  | refl => simp [Config.start] at hphase
  | @snoc labels c event c' hrun hstep ih =>
    have hkept : (c.store.store.missions.get call.mission_id).isSome →
        (c'.store.store.missions.get call.mission_id).isSome := by
      intro hsome
      rcases hstep.store_cases with hstore | ⟨_, _, _, -, -, -, hcommit⟩
      · rwa [hstore]
      · exact Store.isSome_mission_of_commit (ReportedStore.commit_eq_some_iff.mp hcommit).1 hsome
    rcases hphase with hphase | hphase
    · rcases hstep.prepared_cases hphase with hphase | ⟨-, -, hprepare⟩
      · exact hkept (ih (Or.inl hphase))
      · rw [hi] at hprepare
        exact hkept (prepare_outcome_eq_ok_iff.mp hprepare).1
    · rcases hstep.answered_cases hphase with hphase | ⟨-, hphase, -⟩
      · exact hkept (ih (Or.inr hphase))
      · exact hkept (ih (Or.inl hphase))

/-- A submission that has answered has filed its report. -/
theorem report_of_answered (hrun : Execution (Step (reported_database F) request) (Config.start s₀) labels c)
    (hi : request i = .outcome call) (hanswered : c.phase i = .answered r pending) :
    r = .payload (outcome_dict call.outcome) ∧
      (MissionOutcomeRepositoryImpl.save call.outcome).stored ∈ c.store.mission_outcomes.rows := by
  obtain ⟨x, hprepare⟩ := prepared_of_run hrun (Or.inr hanswered)
  rw [hi] at hprepare
  obtain ⟨-, -, rfl, rfl⟩ := prepare_outcome_eq_ok_iff.mp hprepare
  exact ⟨rfl, appends_reports.mem_of_answered hrun hanswered List.mem_cons_self⟩

/-- Whatever the interleaving of submissions and of requests that write missions: the reports and
the audit log are those of the beginning, with what each request that has committed brings, in
the order of the commits; each of them has committed once, and of the submissions for one
mission at most one. -/
theorem reports_of_interleaving
    (hrun : Execution (Step (reported_database F) request) (Config.start s₀) labels c) :
    c.store.mission_outcomes.rows =
      s₀.mission_outcomes.rows ++ (committed labels).flatMap (fun i => (request i).reports) ∧
    c.store.audit_logs.rows = s₀.audit_logs.rows ++ (committed labels).flatMap (fun i => (request i).entries) ∧
    (committed labels).Nodup ∧
    (∀ i, i ∈ committed labels ↔ ∃ answer pending, c.phase i = .answered answer pending) ∧
    ∀ i ∈ committed labels, ∀ j ∈ committed labels, ∀ first second : OutcomeCall, request i = .outcome first →
      request j = .outcome second → first.mission_id = second.mission_id → i = j := by
  refine ⟨appends_reports.view_eq_brings brings_reports hrun, appends_entries.view_eq_brings brings_entries hrun,
    nodup_committed hrun, fun i => mem_committed_iff hrun, ?_⟩
  intro i hi j hj first second hfirst hsecond hmission
  obtain ⟨_, _, hi'⟩ := (mem_committed_iff hrun).mp hi
  obtain ⟨_, _, hj'⟩ := (mem_committed_iff hrun).mp hj
  have hsame := c.store.mission_outcomes.eq_of_clash (report_of_answered hrun hfirst hi').2
    (report_of_answered hrun hsecond hj').2 (clash_mission_outcome_of_mission hmission)
  refine appends_reports.eq_of_added hrun c.store.mission_outcomes.nodup hi hj
    (b := (MissionOutcomeRepositoryImpl.save first.outcome).stored) ?_ ?_
  · rw [brings_reports.added_eq hrun hi, hfirst]
    exact List.mem_cons_self
  · rw [brings_reports.added_eq hrun hj, hsecond, hsame]
    exact List.mem_cons_self

/-- The dictionary of a report, read from its row. -/
theorem outcome_dict_stored (o : MissionOutcome) :
    outcome_dict (mission_outcome_to_domain (MissionOutcomeRepositoryImpl.save o).stored) =
      (outcome_dict o).map fun item => (item.1, item.2.stored) := by
  obtain ⟨id, mission_id, summary, notes, compliance_level, created_at, created_by_user_id⟩ := o
  cases notes <;> cases compliance_level <;> rfl

omit [DecidableEq F] in
theorem get_mission_outcome_of_row {s : ReportedStore F} {row : MissionOutcomeModel}
    (h : row ∈ s.mission_outcomes.rows) :
    get_mission_outcome row.mission_id s = .ok (outcome_dict (mission_outcome_to_domain row)) :=
  get_mission_outcome_eq_ok_iff.mpr ⟨row, h, rfl, rfl⟩

/-- From the moment a submission has answered every further one for its mission is refused, and
changes nothing. -/
theorem conflict_of_answered (hrun : Execution (Step (reported_database F) request) (Config.start s₀) labels c)
    (hi : request i = .outcome call) (hanswered : c.phase i = .answered r pending) {other : OutcomeCall}
    (hother : other.mission_id = call.mission_id) :
    (reported_database F).run (.outcome other) c.store =
      (.error (Conflict "Un rapport existe déjà pour cette mission."), c.store) := by
  have hreported : outcome_of_mission c.store.mission_outcomes other.mission_id =
      some (MissionOutcomeRepositoryImpl.save call.outcome).stored :=
    outcome_of_mission_eq_some_iff.mpr ⟨(report_of_answered hrun hi hanswered).2, hother.symm⟩
  have hmission : (c.store.store.missions.get other.mission_id).isSome :=
    hother ▸ isSome_mission_of_interleaving hrun hi (Or.inr hanswered)
  have hprepare := prepare_outcome_of_reported hmission (by rw [hreported]; rfl)
  simp only [Database.run, reported_database, hprepare]

/-- Whatever the interleaving: the report of a mission that is read is the one that was there at
the beginning or the one a submission has answered, as it was answered but for the offset of its
time; and once a submission has answered, every further one for its mission is a conflict. -/
theorem reports_read_back (hrun : Execution (Step (reported_database F) request) (Config.start s₀) labels c) :
    (∀ mission_id answer, get_mission_outcome mission_id c.store = .ok answer ↔
      get_mission_outcome mission_id s₀ = .ok answer ∨
      ∃ i call posted pending, request i = .outcome call ∧ call.mission_id = mission_id ∧
        c.phase i = .answered (.payload posted) pending ∧
        answer = posted.map fun item => (item.1, item.2.stored)) ∧
    ∀ i call r pending, request i = .outcome call → c.phase i = .answered r pending →
      ∀ other : OutcomeCall, other.mission_id = call.mission_id →
        (reported_database F).run (.outcome other) c.store =
          (.error (Conflict "Un rapport existe déjà pour cette mission."), c.store) := by
  refine ⟨fun mission_id answer => ⟨fun h => ?_, fun h => ?_⟩, fun i call r pending hi hanswered other hother =>
    conflict_of_answered hrun hi hanswered hother⟩
  · obtain ⟨row, hrow, rfl, rfl⟩ := get_mission_outcome_eq_ok_iff.mp h
    rcases appends_reports.mem_cases hrun hrow with hold | ⟨i, r, pending, hanswered, hmem⟩
    · exact Or.inl (get_mission_outcome_of_row hold)
    · obtain ⟨x, hprepare⟩ := prepared_of_run hrun (Or.inr hanswered)
      have hbrings : pending.outcomes.map .stored = (request i).reports := brings_reports hprepare
      rw [hbrings] at hmem
      cases hi : request i with
      | mission call =>
        rw [hi] at hmem
        cases hmem
      | outcome call =>
        rw [hi] at hmem
        obtain rfl := List.mem_singleton.mp hmem
        obtain ⟨rfl, -⟩ := report_of_answered hrun hi hanswered
        exact Or.inr ⟨i, call, _, pending, hi, rfl, hanswered, outcome_dict_stored _⟩
  · rcases h with h | ⟨i, call, posted, pending, hi, rfl, hanswered, rfl⟩
    · obtain ⟨row, hrow, rfl, rfl⟩ := get_mission_outcome_eq_ok_iff.mp h
      have hkept : row ∈ c.store.mission_outcomes.rows := (appends_reports.view_grows hrun).subset hrow
      exact get_mission_outcome_of_row hkept
    · obtain ⟨hposted, hfiled⟩ := report_of_answered hrun hi hanswered
      cases hposted
      rw [← outcome_dict_stored]
      exact get_mission_outcome_of_row hfiled

end interleaving

namespace pilot

/-- A user reports on the pilot mission. -/
def submission (user tag : String) : OutcomeCall where
  mission_id := ⟨"mission"⟩
  body := { summary := "conforme" }
  context := ⟨⟨user⟩, none, ⟨"audit-" ++ tag⟩, 50⟩
  env := ⟨⟨"outcome-" ++ tag⟩, 50⟩

def both : Bool → ReportCall
  | true => .outcome (submission "inspector" "1")
  | false => .outcome (submission "supervisor" "2")

noncomputable def unreported : ReportedStore ℝ := ⟨planned, .empty, .empty⟩

/-- The inspector's report is there. -/
noncomputable def filed : ReportedStore ℝ where
  store := planned
  mission_outcomes := ⟨[(MissionOutcomeRepositoryImpl.save (submission "inspector" "1").outcome).stored],
    List.pairwise_singleton _ _⟩
  audit_logs := ⟨[(submission "inspector" "1").entry.stored], List.pairwise_singleton _ _⟩

/-- What the unit of work of a submission holds. -/
def filing (call : OutcomeCall) : ReportPending ℝ where
  outcomes := [MissionOutcomeRepositoryImpl.save call.outcome]
  audits := [call.entry]

theorem prepare_submission {call : OutcomeCall} (hmission : (planned.missions.get call.mission_id).isSome) :
    (reported_database ℝ).prepare (.outcome call) unreported =
      .ok (.payload (outcome_dict call.outcome), filing call) :=
  prepare_outcome_eq_ok_iff.mpr ⟨hmission, rfl, rfl, rfl⟩

/-- Both have read the mission without a report, and the inspector has committed. -/
noncomputable def one_filed : Config (ReportedStore ℝ) Bool (Response ℝ) (ReportPending ℝ) Error where
  store := filed
  phase := Function.update (Function.update (Function.update (fun _ => .waiting) true
    (.prepared (.payload (outcome_dict (submission "inspector" "1").outcome)) (filing (submission "inspector" "1"))))
    false
    (.prepared (.payload (outcome_dict (submission "supervisor" "2").outcome)) (filing (submission "supervisor" "2"))))
    true
    (.answered (.payload (outcome_dict (submission "inspector" "1").outcome)) (filing (submission "inspector" "1")))

theorem run_one_filed : Execution (Step (reported_database ℝ) both) (Config.start unreported)
    [.read true, .read false, .commit true] one_filed := by
  refine .snoc (.snoc (.single (.read_ok (i := true) rfl (prepare_submission rfl)))
    (.read_ok (i := false) rfl (prepare_submission rfl))) (.commit (i := true) (t := filed) rfl ?_)
  exact ReportedStore.commit_eq_some_iff.mpr ⟨rfl, rfl, rfl⟩

theorem reports_of_one_filed :
    one_filed.store.mission_outcomes.rows =
      [(MissionOutcomeRepositoryImpl.save (submission "inspector" "1").outcome).stored] ∧
    one_filed.store.audit_logs.rows = [(submission "inspector" "1").entry.stored] :=
  have h := reports_of_interleaving run_one_filed
  ⟨h.1, h.2.1⟩

theorem read_back_of_one_filed :
    get_mission_outcome ⟨"mission"⟩ one_filed.store =
      .ok ((outcome_dict (submission "inspector" "1").outcome).map fun item => (item.1, item.2.stored)) ∧
    (reported_database ℝ).run (both false) one_filed.store =
      (.error (Conflict "Un rapport existe déjà pour cette mission."), one_filed.store) :=
  have h := reports_read_back run_one_filed
  ⟨(h.1 _ _).mpr (Or.inr ⟨true, submission "inspector" "1", _, _, rfl, rfl, rfl, rfl⟩),
    h.2 true (submission "inspector" "1") _ _ rfl rfl (submission "supervisor" "2") rfl⟩

end pilot

end sigis
