import Sigis.Accounts.RoleMigration

open connections relational

namespace sigis.schema_sync

variable {uuid_of : String → Option UUID} {dialect : String} {users : Table UsersRow} {row : UsersRow} {strict : Bool}
  {ids : Option UsersTable} {rows : List UsersRow} {legacy : List UserRolesRow}

namespace b2c3d4e5f6a7

/-- The row of `user_roles` for a user. -/
def role_row (row : UsersRow) : UserRolesRow := ⟨row.id, row.role.getD ""⟩

theorem insert_user_role_eq (hrole : row.role ≠ none) (hnew : ∀ had ∈ legacy, had.user_id ≠ row.id) :
    insert_user_role row ⟨ids, some legacy⟩ = .ok ⟨ids, some (legacy ++ [role_row row])⟩ := by
  obtain ⟨role, hrole⟩ := Option.ne_none_iff_exists'.mp hrole
  have habsent : ⟨row.id, role⟩ ∉ legacy := fun hmem => hnew _ hmem rfl
  simp only [insert_user_role, role_row, hrole, Option.getD_some, if_neg habsent]

/-- The row inserted is of none of the users that follow. -/
theorem role_row_new (hfirst : row.id ∉ rows.map UsersRow.id)
    (hnew : ∀ had ∈ legacy, had.user_id ∉ (row :: rows).map UsersRow.id) :
    ∀ had ∈ legacy ++ [role_row row], had.user_id ∉ rows.map UsersRow.id := by
  intro had hhad
  rcases List.mem_append.mp hhad with hold | hadded
  · exact fun hmem => hnew had hold (List.mem_cons_of_mem _ hmem)
  · rw [List.mem_singleton.mp hadded]
    exact hfirst

/-- A row for each user, when all of them have a role: no two are of one user. -/
theorem forM_insert_user_role (hroles : ∀ row ∈ rows, row.role ≠ none) (hnodup : (rows.map UsersRow.id).Nodup)
    (hnew : ∀ had ∈ legacy, had.user_id ∉ rows.map UsersRow.id) :
    (forM rows fun row => execute (.sql .InFailedSqlTransaction) (insert_user_role row) :
        Procedure Database DowngradeError Unit) (.live strict ⟨ids, some legacy⟩) =
      (.ok (), .live strict ⟨ids, some (legacy ++ rows.map role_row)⟩) := by
  induction rows generalizing legacy with
  | nil =>
    rw [List.map_nil, List.append_nil]
    rfl
  | cons row rows ih =>
    obtain ⟨hrole, hrest⟩ := List.forall_mem_cons.mp hroles
    obtain ⟨hfirst, hothers⟩ := List.nodup_cons.mp hnodup
    have hinsert : insert_user_role row ⟨ids, some legacy⟩ = .ok ⟨ids, some (legacy ++ [role_row row])⟩ :=
      insert_user_role_eq hrole fun had hhad heq => hnew had hhad (heq ▸ List.mem_cons_self)
    rw [List.forM_cons, bind_of_ok (execute_live hinsert), ih hrest hothers (role_row_new hfirst hnew),
      List.append_assoc]
    rfl

/-- A user without a role stops the insertions. -/
theorem forM_insert_refused (hnone : ∃ row ∈ rows, row.role = none) (hnodup : (rows.map UsersRow.id).Nodup)
    (hnew : ∀ had ∈ legacy, had.user_id ∉ rows.map UsersRow.id) :
    ∃ c, (forM rows fun row => execute (.sql .InFailedSqlTransaction) (insert_user_role row) :
        Procedure Database DowngradeError Unit) (.live strict ⟨ids, some legacy⟩) =
      (.error (.sql .NotNullViolation), c) := by
  induction rows generalizing legacy with
  | nil =>
    obtain ⟨row, hrow, -⟩ := hnone
    cases hrow
  | cons row rows ih =>
    rw [List.forM_cons]
    obtain ⟨hfirst, hothers⟩ := List.nodup_cons.mp hnodup
    cases hrole : row.role with
    | none =>
      have hinsert : insert_user_role row ⟨ids, some legacy⟩ = .error (.sql .NotNullViolation) := by
        simp only [insert_user_role, hrole]
      exact ⟨_, bind_of_error (execute_live_error hinsert)⟩
    | some role =>
      have hsome : row.role ≠ none := hrole ▸ Option.some_ne_none role
      have hinsert : insert_user_role row ⟨ids, some legacy⟩ = .ok ⟨ids, some (legacy ++ [role_row row])⟩ :=
        insert_user_role_eq hsome fun had hhad heq => hnew had hhad (heq ▸ List.mem_cons_self)
      rw [bind_of_ok (execute_live hinsert)]
      refine ih ?_ hothers (role_row_new hfirst hnew)
      obtain ⟨other, hother, hnone⟩ := hnone
      rcases List.mem_cons.mp hother with rfl | hrest
      · exact absurd hnone hsome
      · exact ⟨other, hrest, hnone⟩

theorem create_user_roles_live : execute (.sql .InFailedSqlTransaction) create_user_roles
    (.live strict (database users none)) = (.ok (), .live strict (database users (some []))) := execute_live rfl

theorem select_users_live : query (.sql .InFailedSqlTransaction) select_users
    (.live strict (database users (some []))) = (.ok users.rows, .live strict (database users (some []))) :=
  query_live rfl

/-- The rows of `user_roles` after it. -/
def role_rows (users : Table UsersRow) : List UserRolesRow := users.rows.map role_row

theorem forM_insert_live (h : ∀ row ∈ users.rows, row.role ≠ none) :
    (forM users.rows fun row => execute (.sql .InFailedSqlTransaction) (insert_user_role row) :
        Procedure Database DowngradeError Unit) (.live strict (database users (some []))) =
      (.ok (), .live strict (database users (some (role_rows users)))) :=
  forM_insert_user_role h (nodup_ids users) (List.forall_mem_nil _)

theorem downgraded_eq (dialect : String) (h : ∀ row ∈ users.rows, row.role ≠ none) :
    downgraded dialect (database users none) = .ok (roleless users (role_rows users)) := by
  refine begin_of_live ?_
  rw [downgrade, bind_of_ok create_user_roles_live, bind_of_ok select_users_live, bind_of_ok (forM_insert_live h)]
  exact execute_live rfl

theorem downgraded_refused (dialect : String) (h : ∃ row ∈ users.rows, row.role = none) :
    downgraded dialect (database users none) = .error (.sql .NotNullViolation) := by
  obtain ⟨c, hinsert⟩ : ∃ c, (forM users.rows fun row => execute (.sql .InFailedSqlTransaction) (insert_user_role row) :
      Procedure Database DowngradeError Unit) (.live (schema_sync.strict dialect) (database users (some []))) =
      (.error (.sql .NotNullViolation), c) := forM_insert_refused h (nodup_ids users) (List.forall_mem_nil _)
  have hdowngrade : downgrade (.live (schema_sync.strict dialect) (database users none)) =
      (.error (.sql .NotNullViolation), c) := by
    rw [downgrade, bind_of_ok create_user_roles_live, bind_of_ok select_users_live, bind_of_error hinsert]
  rw [downgraded, begin_, hdowngrade]

/-- Under the identifier of a user stands the role of that user, and nothing else. -/
theorem legacy_roles_role_rows (hrow : row ∈ users.rows) :
    legacy_roles (role_rows users) row.id = [row.role.getD ""] := by
  have hget : users.rows.filter (fun other => other.id = row.id) = [row] := users.filter_key hrow
  rw [legacy_roles, role_rows, List.filter_map, List.map_map]
  exact congrArg (List.map (UserRolesRow.role ∘ role_row)) hget

theorem upgraded_role_role_rows (hrow : row ∈ users.rows) (h : row.role ≠ none) :
    upgraded_role (role_rows users) row.id = row.role := by
  obtain ⟨role, hrole⟩ := Option.ne_none_iff_exists'.mp h
  rw [upgraded_role, legacy_roles_role_rows hrow, hrole, if_neg (List.cons_ne_nil _ _)]
  rfl

theorem migrated_role_role_rows (hrow : row ∈ users.rows) (h : row.role ≠ none) :
    migrated_role (role_rows users) (row.assign fun _ => some "INSPECTOR") = cleaned row.role := by
  obtain ⟨role, hrole⟩ := Option.ne_none_iff_exists'.mp h
  have hroles : legacy_roles (role_rows users) (row.assign fun _ => some "INSPECTOR").id = [role] := by
    rw [show (row.assign fun _ => some "INSPECTOR").id = row.id from rfl, legacy_roles_role_rows hrow, hrole]
    rfl
  rw [migrated_role_of_ne_nil (by rw [hroles]; exact List.cons_ne_nil _ _), hroles, hrole]
  rfl

end b2c3d4e5f6a7

/-- What the alignment at the start of the application makes of a revision that was undone: every role again, empty
texts apart, unless the driver takes no identifier and there are users. Then all of them are inspectors, and the table
keeps the roles they had. -/
def realigned (binds : Bool) (users : Table UsersRow) : Database :=
  if binds = true ∨ users.rows = [] then database (assigned users fun row => cleaned row.role) none
  else database (assigned users fun _ => some "INSPECTOR") (some (b2c3d4e5f6a7.role_rows users))

theorem aligned_role_rows (huuid : ∀ row ∈ users.rows, uuid_of row.id.str = some row.id) (dialect : String)
    (binds : Bool) (h : ∀ row ∈ users.rows, row.role ≠ none) :
    aligned uuid_of dialect binds (roleless users (b2c3d4e5f6a7.role_rows users)) = .ok (realigned binds users) := by
  have hempty : b2c3d4e5f6a7.role_rows users = [] ↔ users.rows = [] := List.map_eq_nil_iff
  have hreads : ReadsBack uuid_of (b2c3d4e5f6a7.role_rows users) := List.forall_mem_map.mpr huuid
  by_cases hbinds : binds = true ∨ users.rows = []
  · rw [realigned, if_pos hbinds, aligned_roleless hreads (hbinds.imp_right hempty.mpr)]
    refine congrArg (fun users => Except.ok (database users none)) (Table.ext (List.map_congr_left fun row hrow => ?_))
    exact congrArg (UsersRow.mk row.id) (b2c3d4e5f6a7.migrated_role_role_rows hrow (h row hrow))
  · rw [realigned, if_neg hbinds]
    obtain ⟨hfalse, hrows⟩ := not_or.mp hbinds
    rw [Bool.eq_false_of_not_eq_true hfalse]
    exact aligned_roleless_unbound hreads (mt hempty.mp hrows) dialect users

/-- The revision can be undone exactly when no role is missing. Done again it leaves the users with the roles they
had; the alignment at the start of the application does so where the driver binds the identifiers. -/
theorem roles_survive_downgrade (uuid_of : String → Option UUID) (dialect : String) (binds : Bool)
    (users : Table UsersRow) (huuid : ∀ row ∈ users.rows, uuid_of row.id.str = some row.id) :
    match b2c3d4e5f6a7.downgraded dialect (database users none) with
    | .error e => e = .sql .NotNullViolation ∧ ∃ row ∈ users.rows, row.role = none
    | .ok db =>
      (∀ row ∈ users.rows, row.role ≠ none) ∧
      b2c3d4e5f6a7.upgraded dialect db = .ok (database users none) ∧
      aligned uuid_of dialect binds db = .ok (realigned binds users) := by
  by_cases h : ∃ row ∈ users.rows, row.role = none
  · rw [b2c3d4e5f6a7.downgraded_refused dialect h]
    exact ⟨rfl, h⟩
  push Not at h
  rw [b2c3d4e5f6a7.downgraded_eq dialect h]
  refine ⟨h, ?_, aligned_role_rows huuid dialect binds h⟩
  rw [upgraded_eq]
  refine congrArg (fun users => Except.ok (database users none)) (Table.ext ?_)
  refine (List.map_congr_left fun row hrow => ?_).trans (List.map_id users.rows)
  exact congrArg (UsersRow.mk row.id) (b2c3d4e5f6a7.upgraded_role_role_rows hrow (h row hrow))

/-- A host stays one, but is an inspector after a start over SQLite, whose driver takes no identifier. -/
theorem host_survives_downgrade :
    b2c3d4e5f6a7.downgraded "sqlite" (database (single_user (some "HOST")) none) =
      .ok (roleless (single_user (some "HOST")) [⟨single_id, "HOST"⟩]) ∧
    b2c3d4e5f6a7.upgraded "sqlite" (roleless (single_user (some "HOST")) [⟨single_id, "HOST"⟩]) =
      .ok (database (single_user (some "HOST")) none) ∧
    aligned (fun text => some ⟨text⟩) "sqlite" false (roleless (single_user (some "HOST")) [⟨single_id, "HOST"⟩]) =
      .ok (database (single_user (some "INSPECTOR")) (some [⟨single_id, "HOST"⟩])) := by
  obtain ⟨-, hupgraded, haligned⟩ :=
    roles_survive_downgrade (fun text => some ⟨text⟩) "sqlite" false (single_user (some "HOST")) fun _ _ => rfl
  exact ⟨rfl, hupgraded, haligned.trans rfl⟩

end sigis.schema_sync
