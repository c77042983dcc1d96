import Sigis.Domain.Shared
import Sigis.Lib.Connection
import Sigis.Lib.Grouping
import Sigis.Lib.Guarded
import Sigis.Lib.OrderStatistic
import Sigis.Lib.Table

open connections grouping guarded relational

namespace sigis.schema_sync

/-! Of `users` the columns a migration reads or writes; `user_roles` is the table that held the roles before,
any number of them for a user. -/

/-- A user, with the role it has or NULL. -/
structure UsersRow where
  id : UUID
  /-- `none` is NULL. -/
  role : Option String
deriving DecidableEq, Repr

instance instRowUsersRow : Row UsersRow UUID where
  key r := r.id
  conflict _ _ := false
  conflict_symm _ _ := rfl

/-- One role of a user. -/
structure UserRolesRow where
  user_id : UUID
  role : String
deriving DecidableEq, Repr

/-- The table `users`, before and after its column `role` was added. -/
inductive UsersTable
  | without_role (ids : List UUID) (distinct : ids.Nodup)
  | with_role (rows : Table UsersRow)

/-- A table that does not exist is `none`. -/
structure Database where
  users : Option UsersTable
  user_roles : Option (List UserRolesRow)

/-- What the statements of a migration are refused with. -/
inductive SqlError
  | UndefinedTable
  | UndefinedColumn
  | DuplicateColumn
  | NotNullViolation
  | InFailedSqlTransaction
  /-- The driver takes no value of this type. -/
  | InterfaceError
deriving DecidableEq, Repr

/-- `SET role = ...`, for the role chosen for the row. -/
def UsersRow.assign (role : UsersRow → Option String) (row : UsersRow) : UsersRow := { row with role := role row }

theorem UsersRow.keeps_assign (role : UsersRow → Option String) : Table.Keeps (UsersRow.assign role) :=
  ⟨fun _ => rfl, fun _ _ => rfl⟩

namespace Database

/-- `"role" in _column_names(connection, "users")`. -/
def has_role_column (db : Database) : Bool :=
  match db.users with
  | some (.with_role _) => true
  | _ => false

/-- `SELECT user_id, role FROM user_roles`. -/
def select_user_roles (db : Database) : Except SqlError (List UserRolesRow) :=
  get_or_raise db.user_roles .UndefinedTable

/-- `ALTER TABLE users ADD COLUMN role`: the rows there get the default. -/
def add_role_column (default_role : Option String) (db : Database) : Except SqlError Database :=
  match db.users with
  | none => .error .UndefinedTable
  | some (.with_role _) => .error .DuplicateColumn
  | some (.without_role ids distinct) =>
    .ok { db with users := some (.with_role ⟨ids.map fun id => ⟨id, default_role⟩, by
      rw [List.pairwise_map]
      exact distinct.imp fun hne hclash => hclash.elim hne fun hconflict => by cases hconflict⟩) }

/-- `UPDATE users SET role = ...`. -/
def update_roles (role : UsersRow → Option String) (db : Database) : Except SqlError Database :=
  match db.users with
  | none => .error .UndefinedTable
  | some (.without_role _ _) => .error .UndefinedColumn
  | some (.with_role rows) =>
    .ok { db with users := some (.with_role (rows.rewrite_all (UsersRow.assign role) (UsersRow.keeps_assign role))) }

/-- `ALTER TABLE users ALTER COLUMN role SET NOT NULL`, which a NULL in the column refuses. -/
def set_role_not_null (db : Database) : Except SqlError Database :=
  match db.users with
  | none => .error .UndefinedTable
  | some (.without_role _ _) => .error .UndefinedColumn
  | some (.with_role rows) => if ∃ row ∈ rows.rows, row.role = none then .error .NotNullViolation else .ok db

def drop_user_roles (db : Database) : Except SqlError Database :=
  match db.user_roles with
  | none => .error .UndefinedTable
  | some _ => .ok { db with user_roles := none }

end Database

/-- `WHERE id = :id`, for the rows whose identifier the bound value stands for. -/
def role_where (bound : UUID → Bool) (role : String) (row : UsersRow) : Option String :=
  if bound row.id then some role else row.role

/-- `role IS NULL OR role = ''`. -/
def no_role (role : Option String) : Bool := role = none ∨ role = some ""

/-- `role = 'INSPECTOR'`, for the rows whose role counts as none. -/
def inspector_where (empty : Option String → Bool) (row : UsersRow) : Option String :=
  if empty row.role then some "INSPECTOR" else row.role

/-- `connection.execute(text(...))` of a statement. -/
def run (statement : Database → Except SqlError Database) : Procedure Database SqlError Unit :=
  execute .InFailedSqlTransaction statement

def read {α : Type} (select : Database → Except SqlError α) : Procedure Database SqlError α :=
  query .InFailedSqlTransaction select

section run

variable {α : Type} {statement : Database → Except SqlError Database} {select : Database → Except SqlError α}
  {db db' : Database} {e : SqlError} {s : Bool} {a : α}

/-- A statement that succeeds. -/
theorem run_live (h : statement db = .ok db') : run statement (.live s db) = (.ok (), .live s db') := execute_live h

/-- A statement that fails aborts the transaction, where the database is strict. -/
theorem run_live_error (h : statement db = .error e) :
    run statement (.live s db) = (.error e, { db := db, strict := s, aborted := s }) := execute_live_error h

/-- In an aborted transaction every statement is refused. -/
theorem run_of_aborted {c : Connection Database} (h : c.aborted = true) :
    run statement c = (.error .InFailedSqlTransaction, c) := execute_of_aborted h

/-- A query that succeeds. -/
theorem read_live (h : select db = .ok a) : read select (.live s db) = (.ok a, .live s db) := query_live h

theorem read_database_live : read .ok (.live s db) = (.ok db, .live s db) := read_live rfl

end run

/-- The value that comes first in the order of priority; of several that are not in it, the first one. -/
def pick_by (priority : List String) (values : List String) : String :=
  (values.argmin fun r => if r ∈ priority then priority.idxOf r else 99).getD "INSPECTOR"

def ROLE_PRIORITY : List String := ["SUPER_ADMIN", "NATIONAL_ADMIN", "REGIONAL_SUPERVISOR", "INSPECTOR", "HOST"]

/-- `_pick_role`. -/
def pick_role (values : List String) : String := pick_by ROLE_PRIORITY values

/-- `by_user[str(user_id)].append(role)`, over the rows. -/
def by_user (rows : List UserRolesRow) : List (String × List String) :=
  group (rows.map fun row => (row.user_id.str, row.role))

/-- `ensure_users_role_column`. -/
def ensure_users_role_column : Procedure Database SqlError Unit := do
  let db ← read .ok
  if db.users.isNone then return
  if db.has_role_column then return
  run (Database.add_role_column (some "INSPECTOR"))

/-- The update for a user; a key that is no identifier is passed over. Of `binds` it depends whether the driver
takes a `uuid.UUID` in a statement without types: asyncpg does, sqlite3 raises before anything is sent. -/
def copy_role (uuid_of : String → Option UUID) (binds : Bool) (uid_str : String) (rlist : List String) :
    Procedure Database SqlError Unit :=
  let role := pick_role rlist
  match uuid_of uid_str with
  | none => pure ()
  | some uid =>
    if binds then run (Database.update_roles (role_where (fun id => id = uid) role)) else throw .InterfaceError

/-- The column is made mandatory where that is supported. -/
def alter_role (dialect : String) : Procedure Database SqlError Unit :=
  if dialect = "postgresql" then run Database.set_role_not_null else pure ()

/-- What `migrate_user_roles_table` tries. -/
def copy_user_roles (uuid_of : String → Option UUID) (dialect : String) (binds : Bool) :
    Procedure Database SqlError Unit := do
  let rows ← read Database.select_user_roles
  forM (by_user rows) fun g => copy_role uuid_of binds g.1 g.2
  alter_role dialect
  run Database.drop_user_roles

/-- A user is left with some role. -/
def fill_empty_roles : Procedure Database SqlError Unit := run (Database.update_roles (inspector_where no_role))

/-- An error is logged and does not end the function. -/
def migrate_user_roles_table (uuid_of : String → Option UUID) (dialect : String) (binds : Bool) :
    Procedure Database SqlError Unit := do
  let db ← read .ok
  if db.user_roles.isNone ∨ db.users.isNone then return
  if !db.has_role_column then return
  logged (copy_user_roles uuid_of dialect binds)
  logged fill_empty_roles

/-- PostgreSQL takes no statement after a failed one. -/
def strict (dialect : String) : Bool := dialect = "postgresql"

/-- `await conn.run_sync(migrate_user_roles_table)` in a transaction of its own. -/
def migrated (uuid_of : String → Option UUID) (dialect : String) (binds : Bool) (db : Database) :
    Except SqlError Database :=
  begin_ (strict dialect) (migrate_user_roles_table uuid_of dialect binds) db

/-- The two transactions of the lifespan of `main.py` and of `execute_full_bootstrap`. -/
def aligned (uuid_of : String → Option UUID) (dialect : String) (binds : Bool) (db : Database) :
    Except SqlError Database := do
  let db ← begin_ (strict dialect) ensure_users_role_column db
  migrated uuid_of dialect binds db

namespace b2c3d4e5f6a7

def ROLE_PRIORITY : List String := ["SUPER_ADMIN", "NATIONAL_ADMIN", "REGIONAL_SUPERVISOR", "INSPECTOR", "HOST"]

/-- `_pick_role`. -/
def pick_role (values : List String) : String := pick_by ROLE_PRIORITY values

/-- The identifier is bound as a text. -/
def upgrade : Procedure Database SqlError Unit := do
  run (Database.add_role_column none)
  let rows ← read Database.select_user_roles
  forM (by_user rows) fun g => run (Database.update_roles (role_where (fun id => id.str = g.1) (pick_role g.2)))
  run (Database.update_roles (inspector_where fun role => role = none))
  run Database.set_role_not_null
  run Database.drop_user_roles

/-- `alembic upgrade`, in a transaction. -/
def upgraded (dialect : String) (db : Database) : Except SqlError Database := begin_ (strict dialect) upgrade db

inductive DowngradeError
  | DuplicateTable
  | UniqueViolation
  | sql (e : SqlError)
deriving DecidableEq, Repr

def create_user_roles (db : Database) : Except DowngradeError Database :=
  match db.user_roles with
  | none => .ok { db with user_roles := some [] }
  | some _ => .error .DuplicateTable

/-- `SELECT id, role FROM users`. -/
def select_users (db : Database) : Except DowngradeError (List UsersRow) :=
  match db.users with
  | none => .error (.sql .UndefinedTable)
  | some (.without_role _ _) => .error (.sql .UndefinedColumn)
  | some (.with_role users) => .ok users.rows

/-- `INSERT INTO user_roles` of the role of a user: it is mandatory, and a user has it once. -/
def insert_user_role (row : UsersRow) (db : Database) : Except DowngradeError Database :=
  match db.user_roles, row.role with
  | none, _ => .error (.sql .UndefinedTable)
  | some _, none => .error (.sql .NotNullViolation)
  | some rows, some role =>
    if ⟨row.id, role⟩ ∈ rows then .error .UniqueViolation
    else .ok { db with user_roles := some (rows ++ [⟨row.id, role⟩]) }

theorem nodup_ids (users : Table UsersRow) : (users.rows.map UsersRow.id).Nodup :=
  List.pairwise_map.mpr (users.distinct.imp fun hapart heq => hapart (clash_of_key heq))

/-- `ALTER TABLE users DROP COLUMN role`. -/
def drop_role_column (db : Database) : Except DowngradeError Database :=
  match db.users with
  | none => .error (.sql .UndefinedTable)
  | some (.without_role _ _) => .error (.sql .UndefinedColumn)
  | some (.with_role users) =>
    .ok { db with users := some (.without_role (users.rows.map UsersRow.id) (nodup_ids users)) }

def downgrade : Procedure Database DowngradeError Unit := do
  execute (.sql .InFailedSqlTransaction) create_user_roles
  let users ← query (.sql .InFailedSqlTransaction) select_users
  forM users fun row => execute (.sql .InFailedSqlTransaction) (insert_user_role row)
  execute (.sql .InFailedSqlTransaction) drop_role_column

/-- `alembic downgrade`, in a transaction. -/
def downgraded (dialect : String) (db : Database) : Except DowngradeError Database :=
  begin_ (strict dialect) downgrade db

end b2c3d4e5f6a7

end sigis.schema_sync
