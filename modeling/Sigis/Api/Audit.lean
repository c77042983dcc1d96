import Sigis.Common.Audit
import Sigis.Lib.Csv
import Sigis.Persistence.Listing
import Sigis.Python.Rendering
import Sigis.Python.Text

open csv paging relational

namespace sigis

/-- `AuditLogEntry`, where `payload_json` is the text of the column. -/
structure AuditLogEntry where
  id : UUID
  created_at : datetime
  actor_user_id : Option UUID
  action : String
  resource_type : String
  resource_id : Option String
  payload_json : Option String
  request_id : Option String

/-- How floats are written is a parameter of what `json.dumps` has stored. -/
def audit_log_to_domain (float_repr : ℚ → String) (row : AuditLogModel) : AuditLogEntry where
  id := row.id
  created_at := row.created_at
  actor_user_id := row.actor_user_id
  action := row.action
  resource_type := row.resource_type
  resource_id := row.resource_id
  payload_json := row.payload_json.map (Dict.dumps float_repr)
  request_id := row.request_id

/-- `AuditListFilters`. -/
structure AuditListFilters where
  q : Option String := none
  action : Option String := none
  resource_type : Option String := none
  actor_user_id : Option UUID := none
  created_from : Option datetime := none
  created_to : Option datetime := none

/-- `if q and q.strip():` before a condition on a text without its ends. -/
def unless_blank (argument : Option String) (condition : String → Bool) : Bool :=
  argument.all fun text => strip text = "" || condition (strip text)

/-- `_audit_filter_stmt`: a column without a value is like no term. -/
def AuditListFilters.selects (filters : AuditListFilters) (float_repr : ℚ → String) (e : AuditLogModel) : Bool :=
  unless_blank filters.q (fun term =>
    ilike e.action term || ilike e.resource_type term || e.resource_id.any (ilike · term) ||
      e.request_id.any (ilike · term) || (e.payload_json.map (Dict.dumps float_repr)).any (ilike · term)) &&
  unless_blank filters.action (fun action => e.action = action) &&
  unless_blank filters.resource_type (fun resource_type => e.resource_type = resource_type) &&
  unless_none filters.actor_user_id (fun id => e.actor_user_id = some id) &&
  unless_none filters.created_from (fun dt => dt.stored ≤ e.created_at.stored) &&
  unless_none filters.created_to (fun dt => e.created_at.stored ≤ dt.stored)

def AuditLogRepositoryImpl.audit_filter_stmt (float_repr : ℚ → String) (audit_logs : Table AuditLogModel)
    (filters : AuditListFilters) : List AuditLogModel := audit_logs.rows.filter (filters.selects float_repr)

/-- `ORDER BY created_at DESC`. -/
def AuditLogModel.order_key (e : AuditLogModel) : Intᵒᵈ := OrderDual.toDual e.created_at.wall

variable (plan : Plan AuditLogModel.order_key) (float_repr : ℚ → String) (audit_logs : Table AuditLogModel)
  (filters : AuditListFilters)

def AuditLogRepositoryImpl.list_page (offset limit : Nat) : List AuditLogEntry × Nat :=
  let filtered := audit_filter_stmt float_repr audit_logs filters
  ((plan.page filtered offset limit).map (audit_log_to_domain float_repr), filtered.length)

/-- `_entry_dict` of `api/v1/audit.py`. -/
def entry_dict (e : AuditLogEntry) : Dict :=
  let text (value : Option String) : Json := (value.map Json.str).getD .null
  [("id", .str e.id.str), ("created_at", .isoformat e.created_at),
    ("actor_user_id", text (e.actor_user_id.map fun id => id.str)), ("action", .str e.action),
    ("resource_type", .str e.resource_type), ("resource_id", text e.resource_id),
    ("payload_json", text e.payload_json), ("request_id", text e.request_id)]

/-- `Page`. -/
structure Page (α : Type) where
  items : List α
  total : Nat
  skip : Nat
  limit : Nat

/-- `GET /audit-logs`. -/
def list_audit_logs (skip limit : Nat) : Page Dict :=
  let (items, total) := AuditLogRepositoryImpl.list_page plan float_repr audit_logs filters skip limit
  ⟨items.map entry_dict, total, skip, limit⟩

/-- `_MAX_EXPORT_ROWS`. -/
def MAX_EXPORT_ROWS : Nat := 10000

def audit_csv_header : List String :=
  ["created_at", "actor_user_id", "action", "resource_type", "resource_id", "request_id", "payload_json"]

def audit_csv_row (e : AuditLogEntry) : List String :=
  [e.created_at.isoformat, e.actor_user_id.elim "" (fun id => id.str), e.action, e.resource_type,
    e.resource_id.getD "", e.request_id.getD "", e.payload_json.getD ""]

/-- What the export answers: its content, and the two counts of its headers. -/
structure AuditExport where
  content : String
  total_matching : Nat
  rows_exported : Nat

/-- `GET /audit-logs/export.csv`: the table as `csv.writer` writes it, after a byte order mark. -/
def export_audit_csv : AuditExport :=
  let (rows, total) := AuditLogRepositoryImpl.list_page plan float_repr audit_logs filters 0 MAX_EXPORT_ROWS
  ⟨"\uFEFF" ++ Dialect.excel.write_text (audit_csv_header :: rows.map audit_csv_row), total, rows.length⟩

/-- The table in a file, whose first character may be a byte order mark. -/
def read_csv_file (content : String) : Option (List (List String)) :=
  Dialect.excel.read_text (if content.toList.head? = some '\uFEFF' then String.ofList content.toList.tail else content)

theorem read_csv_file_mark (rows : List (List String)) :
    read_csv_file ("\uFEFF" ++ Dialect.excel.write_text rows) = some rows := by
  have hcontent : ("\uFEFF" ++ Dialect.excel.write_text rows).toList =
      '\uFEFF' :: (Dialect.excel.write_text rows).toList := by
    rw [String.toList_append]
    rfl
  rw [read_csv_file, hcontent, List.head?_cons, if_pos rfl, List.tail_cons, String.ofList_toList, read_write_text]

variable {plan float_repr audit_logs filters}

/-- An export is read back as the entries it was made of. -/
theorem read_export_audit_csv : read_csv_file (export_audit_csv plan float_repr audit_logs filters).content =
    some (audit_csv_header :: (plan.page (AuditLogRepositoryImpl.audit_filter_stmt float_repr audit_logs filters) 0
      MAX_EXPORT_ROWS).map fun e => audit_csv_row (audit_log_to_domain float_repr e)) := by
  rw [export_audit_csv, AuditLogRepositoryImpl.list_page, read_csv_file_mark, List.map_map]
  rfl

end sigis
