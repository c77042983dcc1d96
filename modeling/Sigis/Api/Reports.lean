import Sigis.Accounts.Listing
import Sigis.Persistence.Repositories
import Sigis.Requests.Progress

open guarded paging relational

namespace sigis

variable {F : Type}

/-- The total and the counts of a summary. -/
structure Summary where
  total : Nat
  by_status : Counts

/-- `GET /missions/summary`. -/
def missions_summary (s : Store F) (filter : MissionFilter := {}) : Summary :=
  let by_status := MissionRepositoryImpl.count_by_status s filter
  ⟨by_status.total, by_status⟩

/-- `GET /exception-requests/summary`. -/
def exception_requests_summary (exception_requests : Table ExceptionRequestModel)
    (filter : ExceptionRequestFilter := {}) : Summary :=
  let by_status := ExceptionRequestRepositoryImpl.count_by_status exception_requests filter
  ⟨by_status.total, by_status⟩

/-- The plans the database follows for the queries of a report. -/
structure Plans (F : Type) where
  missions : Plan MissionModel.order_key
  exception_requests : Plan ExceptionRequestModel.order_key
  establishments : Plan (EstablishmentModel.order_key (F := F))
  users : Plan accounts.UserModel.order_key

structure ReportsSummary where
  missions_total : Nat
  missions_by_status : Counts
  exception_requests_total : Nat
  exception_requests_by_status : Counts
  establishments_total : Nat
  users_total : Nat

/-- `GET /reports/summary`. -/
def reports_summary (plans : Plans F) (s : Store F) (exception_requests : Table ExceptionRequestModel)
    (a : accounts.AccountStore) : Except accounts.Error ReportsSummary := do
  let missions := MissionRepositoryImpl.list_all plans.missions s
  let exceptions := ExceptionRequestRepositoryImpl.list_all plans.exception_requests exception_requests
  let m_by := Counter (missions.map fun m => m.status.value)
  let e_by := Counter (exceptions.map fun e => e.status.value)
  let (_, establishments_total) := EstablishmentRepositoryImpl.list_page plans.establishments s 0 1
  let (_, users_total) ← accounts.UserAuthRepositoryImpl.list_page plans.users a 0 1
  return {
    missions_total := missions.length
    missions_by_status := m_by
    exception_requests_total := exceptions.length
    exception_requests_by_status := e_by
    establishments_total := establishments_total
    users_total := users_total }

def missions_csv_header : List Json :=
  [.str "id", .str "establishment_id", .str "inspector_id", .str "status", .str "window_start", .str "window_end",
    .str "territory_code"]

/-- The row of one mission. -/
def missions_csv_row (s : Store F) (m : Mission) : List Json :=
  let est := EstablishmentRepositoryImpl.get_by_id s m.establishment_id
  let terr := est.bind fun est => est.territory_code
  [.str m.id.str, .str m.establishment_id.str, .str m.inspector_id.str, .str m.status.value,
    .isoformat m.window_start, .isoformat m.window_end, .str (terr.getD "")]

/-- `GET /reports/missions.csv`, as the rows given to `csv.writer`. -/
def export_missions_csv (plan : Plan MissionModel.order_key) (s : Store F) : List (List Json) :=
  missions_csv_header :: (MissionRepositoryImpl.list_all plan s).map (missions_csv_row s)

variable {s : Store F} {exception_requests : Table ExceptionRequestModel} {a : accounts.AccountStore}
  {plans : Plans F}

theorem list_all_missions (plan : Plan MissionModel.order_key) (s : Store F) :
    MissionRepositoryImpl.list_all plan s = (plan.page s.missions.rows 0 10000).map mission_to_domain := by
  rw [MissionRepositoryImpl.list_all, MissionRepositoryImpl.list_page, MissionRepositoryImpl.mission_select_all]

theorem list_all_exception_requests (plan : Plan ExceptionRequestModel.order_key)
    (exception_requests : Table ExceptionRequestModel) :
    ExceptionRequestRepositoryImpl.list_all plan exception_requests =
      (plan.page exception_requests.rows 0 10000).map exception_request_to_domain := by
  rw [ExceptionRequestRepositoryImpl.list_all, ExceptionRequestRepositoryImpl.list_page,
    ExceptionRequestRepositoryImpl.exception_select_all]

theorem missions_summary_total (s : Store F) : (missions_summary s).total = s.missions.rows.length := by
  rw [missions_summary, MissionRepositoryImpl.count_by_status_eq, total_count_by, List.length_map,
    MissionRepositoryImpl.mission_select_all]

theorem exception_requests_summary_total (exception_requests : Table ExceptionRequestModel) :
    (exception_requests_summary exception_requests).total = exception_requests.rows.length := by
  rw [exception_requests_summary, ExceptionRequestRepositoryImpl.count_by_status_eq, total_count_by, List.length_map,
    ExceptionRequestRepositoryImpl.exception_select_all]

/-- The report is answered when the page of one user is. -/
theorem reports_summary_eq_ok_iff {summary : ReportsSummary} :
    reports_summary plans s exception_requests a = .ok summary ↔
      ∃ users total, accounts.UserAuthRepositoryImpl.list_page plans.users a 0 1 = .ok (users, total) ∧
        summary = {
          missions_total := (MissionRepositoryImpl.list_all plans.missions s).length
          missions_by_status := Counter ((MissionRepositoryImpl.list_all plans.missions s).map fun m => m.status.value)
          exception_requests_total :=
            (ExceptionRequestRepositoryImpl.list_all plans.exception_requests exception_requests).length
          exception_requests_by_status := Counter
            ((ExceptionRequestRepositoryImpl.list_all plans.exception_requests exception_requests).map
              fun e => e.status.value)
          establishments_total := (EstablishmentRepositoryImpl.list_page plans.establishments s 0 1).2
          users_total := total } := by
  simp only [reports_summary, bind_eq_ok_iff, pure_eq_ok, Except.ok.injEq, Prod.exists]
  exact exists_congr fun users => exists_congr fun total => and_congr_right fun _ => eq_comm

theorem exists_reports_summary (plans : Plans F) (s : Store F) (exception_requests : Table ExceptionRequestModel)
    {page : List accounts.User × Nat} (h : accounts.UserAuthRepositoryImpl.list_page plans.users a 0 1 = .ok page) :
    ∃ summary, reports_summary plans s exception_requests a = .ok summary :=
  ⟨_, reports_summary_eq_ok_iff.mpr ⟨page.1, page.2, h, rfl⟩⟩

/-- The report counts 10000 rows of a table at most. -/
theorem totals_of_reports_summary {summary : ReportsSummary}
    (h : reports_summary plans s exception_requests a = .ok summary) :
    summary.missions_total = min 10000 s.missions.rows.length ∧
      summary.exception_requests_total = min 10000 exception_requests.rows.length := by
  obtain ⟨users, total, -, rfl⟩ := reports_summary_eq_ok_iff.mp h
  constructor
  · rw [list_all_missions, List.length_map, length_page, Nat.sub_zero]
  · rw [list_all_exception_requests, List.length_map, length_page, Nat.sub_zero]

/-- What the report and the export say of the missions and the exception requests, next to the
summaries of the two lists and to the table of missions. -/
structure ReportsAgree (plans : Plans F) (s : Store F) (exception_requests : Table ExceptionRequestModel)
    (summary : ReportsSummary) : Prop where
  missions_total : summary.missions_total = (missions_summary s).total
  missions_by_status : summary.missions_by_status.Same (missions_summary s).by_status
  exception_requests_total :
    summary.exception_requests_total = (exception_requests_summary exception_requests).total
  exception_requests_by_status :
    summary.exception_requests_by_status.Same (exception_requests_summary exception_requests).by_status
  missions_csv : ∃ data, export_missions_csv plans.missions s = missions_csv_header :: data ∧
    data.Perm (s.missions.rows.map fun m => missions_csv_row s (mission_to_domain m))

/-- Lists that hold all the rows make the two ways of counting agree. -/
theorem reports_agree_of_le {summary : ReportsSummary} (hmissions : s.missions.rows.length ≤ 10000)
    (hexceptions : exception_requests.rows.length ≤ 10000)
    (h : reports_summary plans s exception_requests a = .ok summary) :
    ReportsAgree plans s exception_requests summary := by
  obtain ⟨users, total, -, rfl⟩ := reports_summary_eq_ok_iff.mp h
  have hall := page_perm plans.missions hmissions
  have hallexceptions := page_perm plans.exception_requests hexceptions
  constructor
  · rw [missions_summary_total, list_all_missions, List.length_map, hall.length_eq]
  · rw [missions_summary, MissionRepositoryImpl.count_by_status_eq, MissionRepositoryImpl.mission_select_all,
      list_all_missions, List.map_map]
    exact counter_same_count_by (hall.map _)
  · rw [exception_requests_summary_total, list_all_exception_requests, List.length_map, hallexceptions.length_eq]
  · rw [exception_requests_summary, ExceptionRequestRepositoryImpl.count_by_status_eq,
      ExceptionRequestRepositoryImpl.exception_select_all, list_all_exception_requests, List.map_map]
    exact counter_same_count_by (hallexceptions.map _)
  · refine ⟨_, rfl, ?_⟩
    rw [list_all_missions, List.map_map]
    exact hall.map _

/-- The plans of a report that differ in the one for the users only. -/
def Plans.of_users (plan : Plan accounts.UserModel.order_key) : Plans F :=
  ⟨.by_insertion _, .by_insertion _, .by_insertion _, plan⟩

/-- Whatever plans the database follows, the report and the export agree with the summaries and the
tables exactly when neither table has more than 10000 rows, and the report is answered: the one
user it loads has a known role. -/
theorem reports_agree_iff (s : Store F) (exception_requests : Table ExceptionRequestModel) (a : accounts.AccountStore) :
    (∀ plans : Plans F, ∃ summary, reports_summary plans s exception_requests a = .ok summary ∧
      ReportsAgree plans s exception_requests summary) ↔
    s.missions.rows.length ≤ 10000 ∧ exception_requests.rows.length ≤ 10000 ∧
      ∀ user ∈ a.users.rows, before accounts.UserModel.order_key a.users.rows user = 0 →
        ∃ role : Role, role.value = user.role := by
  constructor
  · intro h
    obtain ⟨summary, hsummary, hagree⟩ := h (.of_users (.by_insertion _))
    obtain ⟨hmissions, hexceptions⟩ := totals_of_reports_summary hsummary
    rw [hagree.missions_total, missions_summary_total] at hmissions
    rw [hagree.exception_requests_total, exception_requests_summary_total] at hexceptions
    refine ⟨by omega, by omega, fun user huser hbefore => ?_⟩
    obtain ⟨plan, hplan⟩ := exists_plan_first huser hbefore
    obtain ⟨summary, hsummary, -⟩ := h (.of_users plan)
    obtain ⟨users, total, hpage, -⟩ := reports_summary_eq_ok_iff.mp hsummary
    have hknown := accounts.exists_list_page_iff.mp ⟨_, hpage⟩
    rw [accounts.users_select_all] at hknown
    refine hknown user (show user ∈ plan.page a.users.rows 0 1 from ?_)
    rw [hplan]
    exact List.mem_singleton_self user
  · rintro ⟨hmissions, hexceptions, hroles⟩ plans
    have hknown : ∀ user ∈ plans.users.page (accounts.UserAuthRepositoryImpl.users_select_filtered a {}) 0 1,
        ∃ role : Role, role.value = user.role := by
      rw [accounts.users_select_all]
      exact fun user huser => hroles user (mem_of_mem_page huser) (before_of_mem_first huser)
    obtain ⟨page, hpage⟩ := accounts.exists_list_page_iff.mpr hknown
    obtain ⟨summary, hsummary⟩ := exists_reports_summary plans s exception_requests hpage
    exact ⟨summary, hsummary, reports_agree_of_le hmissions hexceptions hsummary⟩

namespace pilot

/-- The mission with a number. -/
def numbered_mission (n : Nat) : MissionModel := { mission with id := ⟨String.ofList (List.replicate n 'm')⟩ }

theorem numbered_mission_id_inj {n k : Nat} (h : (numbered_mission n).id = (numbered_mission k).id) : n = k := by
  have hlist := String.ofList_injective (UUID.mk.inj h)
  simpa using congrArg List.length hlist

def numbered_missions (count : Nat) : Table MissionModel where
  rows := (List.range count).map numbered_mission
  distinct := by
    refine List.pairwise_map.mpr (List.nodup_range.imp fun hne hclash => hne ?_)
    rcases hclash with hkey | hconflict
    · exact numbered_mission_id_inj hkey
    · cases hconflict

theorem length_numbered_missions (count : Nat) : (numbered_missions count).rows.length = count := by
  rw [numbered_missions, List.length_map, List.length_range]

noncomputable def crowded : Store ℝ :=
  { opened with missions := numbered_missions 10001 }

end pilot

/-- With 10001 missions the report counts 10000 of them, as many as the export has rows. -/
theorem mission_not_reported : ∃ summary,
    reports_summary (.of_users (.by_insertion _)) pilot.crowded .empty .empty = .ok summary ∧
    summary.missions_total = 10000 ∧ (missions_summary pilot.crowded).total = 10001 ∧
    (export_missions_csv (.by_insertion _) pilot.crowded).length = 10001 ∧
    ¬ ReportsAgree (.of_users (.by_insertion _)) pilot.crowded .empty summary := by
  have hlength : pilot.crowded.missions.rows.length = 10001 := pilot.length_numbered_missions 10001
  have husers : accounts.UserAuthRepositoryImpl.list_page (.by_insertion _) .empty 0 1 = .ok ([], 0) := rfl
  obtain ⟨summary, hsummary⟩ :=
    exists_reports_summary (.of_users (.by_insertion _)) pilot.crowded (.empty : Table ExceptionRequestModel) husers
  have hmissions := (totals_of_reports_summary hsummary).1
  have htotal := missions_summary_total pilot.crowded
  rw [hlength] at hmissions htotal
  refine ⟨summary, hsummary, hmissions, htotal, ?_, fun hagree => ?_⟩
  · rw [export_missions_csv, List.length_cons, List.length_map, list_all_missions, List.length_map, length_page,
      hlength]
    omega
  · have hsame := hagree.missions_total
    omega

end sigis
