import Mathlib.Data.String.Basic
import Sigis.Domain.ExceptionRequest
import Sigis.Lib.Paging
import Sigis.Persistence.Store
import Sigis.Python.Counter

open paging relational

namespace sigis

/-! The queries that list a table page by page. The plan the database follows for a query is a
parameter: the source fixes the sort key, and no order among rows with the same one. -/

/-- `LIKE`: `%` stands for any characters, `_` for one. -/
def like : List Char → List Char → Bool
  | [], text => text.isEmpty
  | '%' :: pattern, text => text.tails.any (like pattern)
  | '_' :: pattern, text =>
    match text with
    | [] => false
    | _ :: rest => like pattern rest
  | c :: pattern, text =>
    match text with
    | [] => false
    | d :: rest => c = d && like pattern rest

/-- `column.ilike(f"%{term}%")` on the default backend, whose `lower` knows the ASCII letters. -/
def ilike (column term : String) : Bool :=
  like (("%" ++ term ++ "%").toList.map Char.toLower) (column.toList.map Char.toLower)

/-- A condition on a column that is only put when its argument is given. -/
def unless_none {α : Type} (argument : Option α) (condition : α → Bool) : Bool := argument.all condition

/-- `if q:` before a condition on a text: an empty one is not searched for. -/
def unless_empty (argument : Option String) (condition : String → Bool) : Bool :=
  argument.all fun q => q = "" || condition q

/-- The filters of the queries on missions. -/
structure MissionFilter where
  inspector_id : Option UUID := none
  establishment_id : Option UUID := none
  status : Option String := none
  territory_code : Option String := none
  window_from : Option datetime := none
  window_to : Option datetime := none

variable {F : Type}

/-- The missions a filter selects: the join finds one establishment at most, by its identifier. -/
def MissionRepositoryImpl.mission_select_filtered (s : Store F) (filter : MissionFilter) : List MissionModel :=
  s.missions.rows.filter fun m =>
    unless_none filter.territory_code (fun code =>
      (s.establishments.get m.establishment_id).any fun est => est.territory_code = some code) &&
    unless_none filter.inspector_id (fun id => m.inspector_id = id) &&
    unless_none filter.establishment_id (fun id => m.establishment_id = id) &&
    unless_none filter.status (fun status => m.status.value = status) &&
    unless_none filter.window_from (fun dt => dt.stored ≤ m.window_end.stored) &&
    unless_none filter.window_to (fun dt => m.window_start.stored ≤ dt.stored)

/-- `ORDER BY window_start DESC`. -/
def MissionModel.order_key (m : MissionModel) : Intᵒᵈ := OrderDual.toDual m.window_start.wall

/-- One page, newest windows first, and how many missions the filters select. -/
def MissionRepositoryImpl.list_page (plan : Plan MissionModel.order_key) (s : Store F) (offset limit : Nat)
    (filter : MissionFilter := {}) : List Mission × Nat :=
  let q := mission_select_filtered s filter
  ((plan.page q offset limit).map mission_to_domain, q.length)

/-- One page of 10000 rows. -/
def MissionRepositoryImpl.list_all (plan : Plan MissionModel.order_key) (s : Store F)
    (filter : MissionFilter := {}) : List Mission := (list_page plan s 0 10000 filter).1

/-- The query that counts is written apart from the one that lists. It has no condition on the status. -/
def MissionRepositoryImpl.count_by_status (s : Store F) (filter : MissionFilter := {}) : Counts :=
  let joined : List (MissionModel × EstablishmentModel F) :=
    Table.join s.missions.rows s.establishments fun m => m.establishment_id
  let q : List MissionModel := match filter.territory_code with
    | none => s.missions.rows
    | some code => (joined.filter fun pair => pair.2.territory_code = some code).map Prod.fst
  let q := q.filter fun m =>
    unless_none filter.inspector_id (fun id => m.inspector_id = id) &&
    unless_none filter.establishment_id (fun id => m.establishment_id = id) &&
    unless_none filter.window_from (fun dt => dt.stored ≤ m.window_end.stored) &&
    unless_none filter.window_to (fun dt => m.window_start.stored ≤ dt.stored)
  count_by (q.map fun m => m.status.value)

/-- The filters of the queries on establishments. -/
structure EstablishmentFilter where
  territory_code : Option String := none
  name_q : Option String := none
  establishment_type : Option String := none

/-- The rows the filters select. -/
def EstablishmentRepositoryImpl.establishment_select_filtered (s : Store F) (filter : EstablishmentFilter) :
    List (EstablishmentModel F) :=
  s.establishments.rows.filter fun est =>
    unless_none filter.territory_code (fun code => est.territory_code = some code) &&
    unless_empty filter.name_q (fun q => ilike est.name q) &&
    unless_none filter.establishment_type (fun kind => est.establishment_type = kind)

/-- `ORDER BY name`. -/
def EstablishmentModel.order_key (est : EstablishmentModel F) : String := est.name

/-- One page by name, and how many establishments the filters select. -/
def EstablishmentRepositoryImpl.list_page (plan : Plan (EstablishmentModel.order_key (F := F))) (s : Store F)
    (offset limit : Nat) (filter : EstablishmentFilter := {}) : List (Establishment F) × Nat :=
  let q := establishment_select_filtered s filter
  ((plan.page q offset limit).map establishment_to_domain, q.length)

/-- The rows grouped by the type they are stored with. -/
def EstablishmentRepositoryImpl.count_by_establishment_type (s : Store F) (territory_code : Option String := none)
    (name_q : Option String := none) : Counts :=
  let q := s.establishments.rows.filter fun est =>
    unless_none territory_code (fun code => est.territory_code = some code) &&
    unless_empty name_q (fun q => ilike est.name q)
  count_by (q.map fun est => est.establishment_type)

/-- The table `exception_requests`. -/
structure ExceptionRequestModel where
  id : UUID
  mission_id : UUID
  author_user_id : UUID
  created_at : datetime
  status : ExceptionRequestStatus
  message : String
  assigned_to_user_id : Option UUID := none
  internal_comment : Option String := none
  sla_due_at : Option datetime := none
  attachment_url : Option String := none
deriving DecidableEq, Repr

instance : Row ExceptionRequestModel UUID := ⟨fun r => r.id, fun _ _ => false, fun _ _ => rfl⟩

/-- `exception_request_to_domain`. -/
def exception_request_to_domain (row : ExceptionRequestModel) : ExceptionRequest where
  id := row.id
  mission_id := row.mission_id
  author_user_id := row.author_user_id
  created_at := row.created_at
  status := row.status
  message := row.message
  assigned_to_user_id := row.assigned_to_user_id
  internal_comment := row.internal_comment
  sla_due_at := row.sla_due_at
  attachment_url := row.attachment_url

/-- The filters of the queries on exception requests. -/
structure ExceptionRequestFilter where
  status : Option String := none
  mission_id : Option UUID := none
  author_user_id : Option UUID := none
  assigned_to_user_id : Option UUID := none
  unassigned_only : Bool := false
  created_from : Option datetime := none
  created_to : Option datetime := none
  message_q : Option String := none

/-- The assignee is ignored when only unassigned requests are asked for. -/
def ExceptionRequestRepositoryImpl.exception_select_filtered (exception_requests : Table ExceptionRequestModel)
    (filter : ExceptionRequestFilter) : List ExceptionRequestModel :=
  exception_requests.rows.filter fun e =>
    unless_none filter.status (fun status => e.status.value = status) &&
    unless_none filter.mission_id (fun id => e.mission_id = id) &&
    unless_none filter.author_user_id (fun id => e.author_user_id = id) &&
    (if filter.unassigned_only then e.assigned_to_user_id = none
      else unless_none filter.assigned_to_user_id (fun id => e.assigned_to_user_id = some id)) &&
    unless_none filter.created_from (fun dt => dt.stored ≤ e.created_at.stored) &&
    unless_none filter.created_to (fun dt => e.created_at.stored ≤ dt.stored) &&
    unless_empty filter.message_q (fun q => ilike e.message q)

/-- `ORDER BY created_at DESC`. -/
def ExceptionRequestModel.order_key (e : ExceptionRequestModel) : Intᵒᵈ := OrderDual.toDual e.created_at.wall

/-- One page, newest first, and how many requests the filters select. -/
def ExceptionRequestRepositoryImpl.list_page (plan : Plan ExceptionRequestModel.order_key)
    (exception_requests : Table ExceptionRequestModel) (offset limit : Nat)
    (filter : ExceptionRequestFilter := {}) : List ExceptionRequest × Nat :=
  let q := exception_select_filtered exception_requests filter
  ((plan.page q offset limit).map exception_request_to_domain, q.length)

/-- One page of 10000 rows. -/
def ExceptionRequestRepositoryImpl.list_all (plan : Plan ExceptionRequestModel.order_key)
    (exception_requests : Table ExceptionRequestModel) (status : Option String := none) : List ExceptionRequest :=
  (list_page plan exception_requests 0 10000 { status := status }).1

/-- The rows grouped by status. -/
def ExceptionRequestRepositoryImpl.count_by_status (exception_requests : Table ExceptionRequestModel)
    (filter : ExceptionRequestFilter := {}) : Counts :=
  let q := exception_requests.rows.filter fun e =>
    unless_none filter.mission_id (fun id => e.mission_id = id) &&
    unless_none filter.author_user_id (fun id => e.author_user_id = id) &&
    (if filter.unassigned_only then e.assigned_to_user_id = none
      else unless_none filter.assigned_to_user_id (fun id => e.assigned_to_user_id = some id)) &&
    unless_none filter.created_from (fun dt => dt.stored ≤ e.created_at.stored) &&
    unless_none filter.created_to (fun dt => e.created_at.stored ≤ dt.stored) &&
    unless_empty filter.message_q (fun q => ilike e.message q)
  count_by (q.map fun e => e.status.value)

/-- Without a condition on the status, the rows that are counted are the rows that are listed. -/
theorem MissionRepositoryImpl.count_by_status_eq (s : Store F) (filter : MissionFilter) :
    count_by_status s filter =
      count_by ((mission_select_filtered s { filter with status := none }).map fun m => m.status.value) := by
  unfold count_by_status mission_select_filtered
  cases filter.territory_code with
  | none => simp [unless_none]
  | some code =>
    dsimp only
    rw [Table.filter_join s.missions.rows s.establishments (fun m => m.establishment_id)
      fun est => est.territory_code = some code, List.filter_filter]
    simp [unless_none, Bool.and_comm, Bool.and_left_comm, Bool.and_assoc]

/-- Without a condition on the status, the rows that are counted are the rows that are listed. -/
theorem ExceptionRequestRepositoryImpl.count_by_status_eq (exception_requests : Table ExceptionRequestModel)
    (filter : ExceptionRequestFilter) :
    count_by_status exception_requests filter =
      count_by ((exception_select_filtered exception_requests { filter with status := none }).map
        fun e => e.status.value) := by
  simp [count_by_status, exception_select_filtered, unless_none]

/-- Without a filter every mission is selected. -/
theorem MissionRepositoryImpl.mission_select_all (s : Store F) : mission_select_filtered s {} = s.missions.rows := by
  simp [mission_select_filtered, unless_none]

/-- Without a filter every exception request is selected. -/
theorem ExceptionRequestRepositoryImpl.exception_select_all (exception_requests : Table ExceptionRequestModel) :
    exception_select_filtered exception_requests {} = exception_requests.rows := by
  simp [exception_select_filtered, unless_none, unless_empty]

end sigis
