import Sigis.Api.Reports

open paging relational

namespace sigis

variable {F : Type}

/-- What `GET /establishments/summary` answers (`api/v1/establishments.py`). -/
structure EstablishmentsSummary where
  total : Nat
  by_establishment_type : Counts

/-- `GET /establishments/summary`. -/
def establishments_summary (s : Store F) (territory_code : Option String := none) (name_q : Option String := none) :
    EstablishmentsSummary :=
  let by_type := EstablishmentRepositoryImpl.count_by_establishment_type s territory_code name_q
  ⟨by_type.total, by_type⟩

/-- The counts of a column agree with a list that may be restricted to one of its values: they add
up to the total without restriction, and each of them is the total with its value. -/
structure Counts.Agree (counts : Counts) (listed : Option String → Nat) : Prop where
  total : counts.total = listed none
  each : ∀ value, (counts.get value).getD 0 = listed (some value)

theorem get_count_by_getD (values : List String) (value : String) :
    ((count_by values).get value).getD 0 = values.count value := by
  rw [get_count_by]
  by_cases h : value ∈ values
  · rw [if_pos h, Option.getD_some]
  · rw [if_neg h, List.count_eq_zero_of_not_mem h, Option.getD_none]

/-- The rows that have one value in a column are as many as the value occurs there. -/
theorem length_filter_column {α : Type} (rows : List α) (column : α → String) (value : String) :
    (rows.filter fun a => column a = value).length = (rows.map column).count value := by
  rw [← List.countP_eq_length_filter, List.count, List.countP_map]
  exact List.countP_congr fun a _ => by simp

/-- Grouping the selected rows by a column agrees with selecting among them by the column. -/
theorem agree_count_by {α : Type} (rows : List α) (column : α → String) :
    (count_by (rows.map column)).Agree fun value =>
      (rows.filter fun a => unless_none value fun v => column a = v).length where
  total := by
    rw [total_count_by, List.length_map]
    simp [unless_none]
  each value := by
    rw [get_count_by_getD, ← length_filter_column]
    simp [unless_none]

/-- A condition on the status selects among the missions selected without it. -/
theorem MissionRepositoryImpl.mission_select_status (s : Store F) (filter : MissionFilter) (status : Option String) :
    mission_select_filtered s { filter with status := status } =
      (mission_select_filtered s { filter with status := none }).filter fun m =>
        unless_none status fun status => m.status.value = status := by
  unfold mission_select_filtered
  rw [List.filter_filter]
  refine List.filter_congr fun m _ => ?_
  simp [unless_none, Bool.and_comm, Bool.and_left_comm]

/-- A condition on the status selects among the requests selected without it. -/
theorem ExceptionRequestRepositoryImpl.exception_select_status (exception_requests : Table ExceptionRequestModel)
    (filter : ExceptionRequestFilter) (status : Option String) :
    exception_select_filtered exception_requests { filter with status := status } =
      (exception_select_filtered exception_requests { filter with status := none }).filter fun e =>
        unless_none status fun status => e.status.value = status := by
  unfold exception_select_filtered
  rw [List.filter_filter]
  refine List.filter_congr fun e _ => ?_
  simp [unless_none, Bool.and_comm, Bool.and_left_comm, Bool.and_assoc]

theorem MissionRepositoryImpl.agree_count_by_status (plan : Plan MissionModel.order_key) (s : Store F)
    (offset limit : Nat) (filter : MissionFilter) :
    (count_by_status s filter).Agree fun status =>
      (list_page plan s offset limit { filter with status := status }).2 := by
  have hlisted : (fun status => (list_page plan s offset limit { filter with status := status }).2) = _ :=
    funext fun status => congrArg List.length (mission_select_status s filter status)
  rw [hlisted, count_by_status_eq]
  exact agree_count_by _ fun m : MissionModel => m.status.value

theorem ExceptionRequestRepositoryImpl.agree_count_by_status (plan : Plan ExceptionRequestModel.order_key)
    (exception_requests : Table ExceptionRequestModel) (offset limit : Nat) (filter : ExceptionRequestFilter) :
    (count_by_status exception_requests filter).Agree fun status =>
      (list_page plan exception_requests offset limit { filter with status := status }).2 := by
  have hlisted : (fun status => (list_page plan exception_requests offset limit
      { filter with status := status }).2) = _ :=
    funext fun status => congrArg List.length (exception_select_status exception_requests filter status)
  rw [hlisted, count_by_status_eq]
  exact agree_count_by _ fun e : ExceptionRequestModel => e.status.value

/-- For every content of the tables and every filter, the counts by status agree with the totals of
the lists, with whatever plan and page these are fetched; requests that are not assigned are listed
and counted whatever assignee is given beside them; and the pages of a list, each fetched with a
plan of its own, have as many items as its total says. -/
theorem lists_and_summaries_agree {limit : Nat} (hlimit : 1 ≤ limit) (s : Store F)
    (exception_requests : Table ExceptionRequestModel) :
    (∀ (filter : MissionFilter) (plan : Nat → Plan MissionModel.order_key) (one : Plan MissionModel.order_key)
        (offset : Nat),
      (MissionRepositoryImpl.count_by_status s filter).Agree (fun status =>
        (MissionRepositoryImpl.list_page one s offset limit { filter with status := status }).2) ∧
      (gather (fun k skip => MissionRepositoryImpl.list_page (plan k) s skip limit filter) limit).length =
        (MissionRepositoryImpl.list_page one s offset limit filter).2) ∧
    ∀ (filter : ExceptionRequestFilter) (plan : Nat → Plan ExceptionRequestModel.order_key)
        (one : Plan ExceptionRequestModel.order_key) (offset : Nat),
      (ExceptionRequestRepositoryImpl.count_by_status exception_requests filter).Agree (fun status =>
        (ExceptionRequestRepositoryImpl.list_page one exception_requests offset limit
          { filter with status := status }).2) ∧
      (gather (fun k skip => ExceptionRequestRepositoryImpl.list_page (plan k) exception_requests skip limit filter)
        limit).length = (ExceptionRequestRepositoryImpl.list_page one exception_requests offset limit filter).2 ∧
      ∀ assigned_to_user_id : Option UUID,
        ExceptionRequestRepositoryImpl.count_by_status exception_requests
            { filter with unassigned_only := true, assigned_to_user_id := assigned_to_user_id } =
          ExceptionRequestRepositoryImpl.count_by_status exception_requests
            { filter with unassigned_only := true, assigned_to_user_id := none } ∧
        ExceptionRequestRepositoryImpl.list_page one exception_requests offset limit
            { filter with unassigned_only := true, assigned_to_user_id := assigned_to_user_id } =
          ExceptionRequestRepositoryImpl.list_page one exception_requests offset limit
            { filter with unassigned_only := true, assigned_to_user_id := none } := by
  refine ⟨fun filter plan one offset => ⟨?_, ?_⟩, fun filter plan one offset => ⟨?_, ?_, fun id => ⟨?_, ?_⟩⟩⟩
  · exact MissionRepositoryImpl.agree_count_by_status one s offset limit filter
  · exact length_gather plan _ mission_to_domain hlimit
  · exact ExceptionRequestRepositoryImpl.agree_count_by_status one exception_requests offset limit filter
  · exact length_gather plan _ exception_request_to_domain hlimit
  · rfl
  · rfl

/-- The mission of the pilot site is counted as planned, and listed. -/
theorem pilot_mission_counted :
    ((MissionRepositoryImpl.count_by_status pilot.planned {}).get "planned").getD 0 =
      (MissionRepositoryImpl.list_page (.by_insertion _) pilot.planned 0 1 { status := some "planned" }).2 ∧
    (gather (fun _ skip => MissionRepositoryImpl.list_page (.by_insertion _) pilot.planned skip 1 {}) 1).length =
      (MissionRepositoryImpl.list_page (.by_insertion _) pilot.planned 0 1 {}).2 := by
  obtain ⟨hcounts, hlength⟩ :=
    (lists_and_summaries_agree le_rfl pilot.planned .empty).1 {} (fun _ => .by_insertion _) (.by_insertion _) 0
  exact ⟨hcounts.each "planned", hlength⟩

end sigis
