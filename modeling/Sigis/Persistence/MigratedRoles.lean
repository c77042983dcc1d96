import Sigis.Domain.Permissions
import Sigis.Persistence.SchemaSync

open connections grouping order_statistic relational

namespace sigis.schema_sync

variable {values : List String} {value : String} {role : Role}

/-- The texts in the order of priority are the values of the roles. -/
theorem mem_ROLE_PRIORITY : value ∈ ROLE_PRIORITY ↔ ∃ role : Role, role.value = value := by
  have hmembers : ROLE_PRIORITY = Role.members.map Role.value := rfl
  simp [hmembers, Role.mem_members]

/-- The place of a role in the order of priority; unknown texts come after all the roles. -/
def priority_of (value : String) : Nat := if value ∈ ROLE_PRIORITY then ROLE_PRIORITY.idxOf value else 99

/-- A text that is no role comes last. -/
theorem priority_of_unknown (h : value ∉ ROLE_PRIORITY) : priority_of value = 99 := if_neg h

/-- Only the roles come before it. -/
theorem priority_of_lt_iff : priority_of value < 99 ↔ value ∈ ROLE_PRIORITY := by
  by_cases h : value ∈ ROLE_PRIORITY
  · have hplace := List.idxOf_lt_length_of_mem h
    have hlength : ROLE_PRIORITY.length = 5 := rfl
    rw [priority_of, if_pos h]
    exact iff_of_true (by omega) h
  · rw [priority_of_unknown h]
    exact iff_of_false (Nat.lt_irrefl 99) h

/-- Texts of one place that is a role's are the same. -/
theorem eq_of_priority_of_eq {other : String} (h : value ∈ ROLE_PRIORITY)
    (hplace : priority_of other = priority_of value) : other = value := by
  have hother : other ∈ ROLE_PRIORITY := priority_of_lt_iff.mp (hplace ▸ priority_of_lt_iff.mpr h)
  rw [priority_of, priority_of, if_pos h, if_pos hother] at hplace
  exact (List.idxOf_inj hother).mp hplace

/-- The highest-ranked role of these texts. -/
structure Highest (values : List String) (role : Role) : Prop where
  mem : role.value ∈ values
  le : ∀ other : Role, other.value ∈ values → ROLE_PRIORITY.idxOf role.value ≤ ROLE_PRIORITY.idxOf other.value

/-- The role picked is the first of those that come first. -/
theorem pick_role_eq_argmin (values : List String) :
    pick_role values = (values.argmin priority_of).getD "INSPECTOR" := rfl

/-- It is one of the texts. -/
theorem pick_role_mem (h : values ≠ []) : pick_role values ∈ values := by
  rw [pick_role_eq_argmin]
  cases hpicked : values.argmin priority_of with
  | none => exact absurd (List.argmin_eq_none.mp hpicked) h
  | some value => exact List.argmin_mem hpicked

theorem priority_of_value (role : Role) : priority_of role.value = ROLE_PRIORITY.idxOf role.value :=
  if_pos (mem_ROLE_PRIORITY.mpr ⟨role, rfl⟩)

/-- The highest-ranked role is picked, in whatever order the texts are. -/
theorem Highest.pick_role_eq (h : Highest values role) : pick_role values = role.value := by
  have hrole : role.value ∈ ROLE_PRIORITY := mem_ROLE_PRIORITY.mpr ⟨role, rfl⟩
  have hleast : ∀ other ∈ values, other ≠ role.value → priority_of role.value < priority_of other := by
    intro other hother hne
    refine lt_of_le_of_ne ?_ fun heq => hne (eq_of_priority_of_eq hrole heq.symm)
    by_cases hknown : other ∈ ROLE_PRIORITY
    · obtain ⟨known, rfl⟩ := mem_ROLE_PRIORITY.mp hknown
      rw [priority_of_value, priority_of_value]
      exact h.le known hother
    · rw [priority_of_unknown hknown]
      exact (priority_of_lt_iff.mpr hrole).le
  have hpicked : values.argmin priority_of = some role.value := argmin_eq_some_of_forall_lt h.mem hleast
  rw [pick_role_eq_argmin, hpicked]
  rfl

/-- When a role is known, the text picked is the highest-ranked one. -/
theorem exists_highest (h : role.value ∈ values) : ∃ highest, Highest values highest := by
  cases hpicked : values.argmin priority_of with
  | none => simp [List.argmin_eq_none.mp hpicked] at h
  | some value =>
    have hle : ∀ other ∈ values, priority_of value ≤ priority_of other :=
      fun other hother => List.le_of_mem_argmin hother hpicked
    have hknown : value ∈ ROLE_PRIORITY :=
      priority_of_lt_iff.mp ((hle _ h).trans_lt (priority_of_lt_iff.mpr (mem_ROLE_PRIORITY.mpr ⟨role, rfl⟩)))
    obtain ⟨highest, rfl⟩ := mem_ROLE_PRIORITY.mp hknown
    refine ⟨highest, List.argmin_mem hpicked, fun other hother => ?_⟩
    rw [← priority_of_value, ← priority_of_value]
    exact hle _ hother

/-- Without a known role the first text is picked. -/
theorem pick_role_of_unknown (h : ∀ other ∈ value :: values, other ∉ ROLE_PRIORITY) :
    pick_role (value :: values) = value := by
  have hpicked : (value :: values).argmin priority_of = some value := by
    refine argmin_cons_of_forall_le fun other hother => ?_
    rw [priority_of_unknown (h value List.mem_cons_self),
      priority_of_unknown (h other (List.mem_cons_of_mem value hother))]
  rw [pick_role_eq_argmin, hpicked]
  rfl

/-- The revision picks the same. -/
theorem pick_role_revision (values : List String) : b2c3d4e5f6a7.pick_role values = pick_role values := rfl

variable {uuid_of : String → Option UUID} {dialect : String} {binds s : Bool} {users : Table UsersRow}
  {user_roles : Option (List UserRolesRow)} {legacy : List UserRolesRow}

/-- A database whose users have their column. -/
def database (users : Table UsersRow) (user_roles : Option (List UserRolesRow)) : Database :=
  ⟨some (.with_role users), user_roles⟩

/-- The users with the role chosen for each of them. -/
def assigned (users : Table UsersRow) (role : UsersRow → Option String) : Table UsersRow :=
  users.rewrite_all (UsersRow.assign role) (UsersRow.keeps_assign role)

/-- Roles assigned twice are assigned once, the second time from the first. -/
theorem assigned_assigned (users : Table UsersRow) (role next : UsersRow → Option String) :
    assigned (assigned users role) next = assigned users fun row => next (row.assign role) :=
  Table.ext List.map_map

/-! What each statement does to such a database. -/

theorem read_user_roles_live : read Database.select_user_roles (.live s (database users (some legacy))) =
    (.ok legacy, .live s (database users (some legacy))) := read_live rfl

theorem update_roles_live (role : UsersRow → Option String) :
    run (Database.update_roles role) (.live s (database users user_roles)) =
      (.ok (), .live s (database (assigned users role) user_roles)) := run_live rfl

theorem set_role_not_null_live (h : ∀ row ∈ users.rows, row.role ≠ none) :
    run Database.set_role_not_null (.live s (database users user_roles)) =
      (.ok (), .live s (database users user_roles)) :=
  run_live (if_neg fun ⟨row, hrow, hnone⟩ => h row hrow hnone)

/-- The constraint is refused while a role is NULL. -/
theorem set_role_not_null_refused (h : ∃ row ∈ users.rows, row.role = none) :
    run Database.set_role_not_null (.live s (database users user_roles)) =
      (.error .NotNullViolation, ⟨database users user_roles, s, s⟩) := run_live_error (if_pos h)

theorem drop_user_roles_live : run Database.drop_user_roles (.live s (database users (some legacy))) =
    (.ok (), .live s (database users none)) := run_live rfl

/-- Only the roles that are assigned count. -/
theorem assigned_congr {role other : UsersRow → Option String} (h : ∀ row, role row = other row) :
    assigned users role = assigned users other := by
  rw [funext h]

/-- The roles a user had, in the order of the rows. -/
def legacy_roles (legacy : List UserRolesRow) (id : UUID) : List String :=
  (legacy.filter fun row => row.user_id = id).map UserRolesRow.role

/-- The order of the rows of `user_roles` does not change the roles a user has in it. -/
theorem legacy_roles_perm {other : List UserRolesRow} (h : legacy.Perm other) (id : UUID) :
    (legacy_roles legacy id).Perm (legacy_roles other id) := (h.filter _).map _

/-- Under the text of an identifier stand the roles its user had. -/
theorem values_of_str (legacy : List UserRolesRow) (id : UUID) :
    values_of (legacy.map fun row => (row.user_id.str, row.role)) id.str = legacy_roles legacy id := by
  simp only [values_of, legacy_roles, List.filter_map, List.map_map, Function.comp_def, UUID.str_inj]

/-- The loop over the rows collects the roles of each user, in the order of the rows. -/
theorem grouped_by_user (legacy : List UserRolesRow) :
    Grouped (legacy.map fun row => (row.user_id.str, row.role)) (by_user legacy) := grouped_group _

/-- The role of a user once the roles are copied. -/
def copied_role (legacy : List UserRolesRow) (row : UsersRow) : Option String :=
  if legacy_roles legacy row.id = [] then row.role else some (pick_role (legacy_roles legacy row.id))

/-- The updates of a row, one for each key: the one with its identifier counts. -/
theorem foldl_role_where {f : String → List String} (groups : List (String × List String))
    (hvalues : ∀ g ∈ groups, g.2 = f g.1) (row : UsersRow) :
    groups.foldl (fun row g => row.assign (role_where (fun id => id.str = g.1) (pick_role g.2))) row =
      row.assign fun row =>
        if row.id.str ∈ groups.map Prod.fst then some (pick_role (f row.id.str)) else row.role := by
  induction groups generalizing row with
  | nil => rfl
  | cons g groups ih =>
    obtain ⟨hfirst, hrest⟩ := List.forall_mem_cons.mp hvalues
    rw [List.foldl_cons, ih hrest]
    by_cases h : row.id.str = g.1
    · have hkey : row.id.str ∈ (g :: groups).map Prod.fst := by simp [h]
      simp only [UsersRow.assign, role_where, h, hfirst, decide_true, if_true, ite_self, if_pos (h ▸ hkey)]
    · have hkey : row.id.str ∈ (g :: groups).map Prod.fst ↔ row.id.str ∈ groups.map Prod.fst := by simp [h]
      simp only [UsersRow.assign, role_where, h, decide_false, Bool.false_eq_true, if_false, hkey]

/-- The updates of the loop leave a row with the role copied for its user. -/
theorem foldl_by_user (legacy : List UserRolesRow) (row : UsersRow) :
    (by_user legacy).foldl (fun row g => row.assign (role_where (fun id => id.str = g.1) (pick_role g.2))) row =
      row.assign (copied_role legacy) := by
  have hgrouped := grouped_by_user legacy
  rw [foldl_role_where _ hgrouped.values]
  simp only [UsersRow.assign, copied_role, hgrouped.mem_keys, values_of_str, ite_not, ne_eq]

/-- And the table with the roles copied. -/
theorem foldl_assigned (users : Table UsersRow) (legacy : List UserRolesRow) :
    (by_user legacy).foldl
        (fun users g => assigned users (role_where (fun id => id.str = g.1) (pick_role g.2))) users =
      assigned users (copied_role legacy) := by
  refine Table.ext ((Table.rows_foldl_rewrite_all _ _ (fun _ => UsersRow.keeps_assign _) users).trans ?_)
  exact List.map_congr_left fun row _ => foldl_by_user legacy row

/-- The loop over the users, when the identifiers bound reach their rows. -/
theorem forM_update_roles {step : String × List String → Procedure Database SqlError Unit}
    (hstep : ∀ g ∈ by_user legacy,
      step g = run (Database.update_roles (role_where (fun id => id.str = g.1) (pick_role g.2)))) :
    (forM (by_user legacy) step : Procedure Database SqlError Unit) (.live s (database users (some legacy))) =
      (.ok (), .live s (database (assigned users (copied_role legacy)) (some legacy))) := by
  have hupdate : ∀ users, ∀ g ∈ by_user legacy, step g (.live s (database users (some legacy))) =
      (.ok (), .live s (database
        (assigned users (role_where (fun id => id.str = g.1) (pick_role g.2))) (some legacy))) := by
    intro users g hg
    rw [hstep g hg]
    exact update_roles_live _
  rw [← foldl_assigned users legacy]
  exact forM_live (fun users => database users (some legacy)) _ (by_user legacy) hupdate users

/-- A key is the text of the identifier of a row. -/
theorem exists_row_of_mem_by_user {g : String × List String} (h : g ∈ by_user legacy) :
    ∃ row ∈ legacy, row.user_id.str = g.1 := by
  have hkey : g.1 ∈ (by_user legacy).map Prod.fst := List.mem_map_of_mem h
  rw [(grouped_by_user legacy).mem_keys] at hkey
  obtain ⟨role, hrole⟩ := List.exists_mem_of_ne_nil _ hkey
  rw [mem_values_of, List.mem_map] at hrole
  obtain ⟨row, hrow, heq⟩ := hrole
  exact ⟨row, hrow, congrArg Prod.fst heq⟩

/-- The role that is left in the place of another one. -/
def cleaned (role : Option String) : Option String := if no_role role then some "INSPECTOR" else role

/-- The role of a user at the end of the migration. -/
def migrated_role (legacy : List UserRolesRow) (row : UsersRow) : Option String := cleaned (copied_role legacy row)

/-- PostgreSQL refuses NULLs in the column: a user without a role had none before. -/
def NullLeft (dialect : String) (users : Table UsersRow) (legacy : List UserRolesRow) : Prop :=
  dialect = "postgresql" ∧ ∃ row ∈ users.rows, row.role = none ∧ legacy_roles legacy row.id = []

/-- A role stays NULL for want of any row of the user. -/
theorem copied_role_eq_none_iff {row : UsersRow} :
    copied_role legacy row = none ↔ row.role = none ∧ legacy_roles legacy row.id = [] := by
  rw [copied_role]
  split
  · next h => simp [h]
  · next h => simp [h]

/-- A NULL is left for a user without a role and without a row. -/
theorem exists_null_copied_iff : (∃ row ∈ (assigned users (copied_role legacy)).rows, row.role = none) ↔
    ∃ row ∈ users.rows, row.role = none ∧ legacy_roles legacy row.id = [] := by
  simp only [← copied_role_eq_none_iff]
  simp [assigned, UsersRow.assign]

/-- The change of the column goes through when no NULL is left. -/
theorem alter_role_live (hnull : ¬NullLeft dialect users legacy) :
    alter_role dialect (.live s (database (assigned users (copied_role legacy)) user_roles)) =
      (.ok (), .live s (database (assigned users (copied_role legacy)) user_roles)) := by
  rw [alter_role]
  split
  · next h =>
    refine set_role_not_null_live fun row hrow hnone => hnull ⟨h, ?_⟩
    exact exists_null_copied_iff.mp ⟨row, hrow, hnone⟩
  · rfl

/-- PostgreSQL refuses it when one is. -/
theorem alter_role_refused (hnull : NullLeft dialect users legacy) :
    alter_role dialect (.live s (database (assigned users (copied_role legacy)) user_roles)) =
      (.error .NotNullViolation, ⟨database (assigned users (copied_role legacy)) user_roles, s, s⟩) := by
  rw [alter_role, if_pos hnull.1]
  exact set_role_not_null_refused (exists_null_copied_iff.mpr hnull.2)

theorem fill_empty_roles_live : fill_empty_roles (.live s (database users user_roles)) =
    (.ok (), .live s (database (assigned users fun row => cleaned row.role) user_roles)) := update_roles_live _

theorem migrate_user_roles_table_live : migrate_user_roles_table uuid_of dialect binds
      (.live s (database users (some legacy))) =
    (do logged (copy_user_roles uuid_of dialect binds); logged fill_empty_roles : Procedure Database SqlError Unit)
      (.live s (database users (some legacy))) := by
  rw [migrate_user_roles_table, bind_of_ok read_database_live]
  rfl

/-- Without the table there is nothing to copy, and empty roles stay. -/
theorem migrated_none : migrated uuid_of dialect binds (database users none) = .ok (database users none) := by
  refine begin_of_live ?_
  rw [migrate_user_roles_table, bind_of_ok read_database_live]
  rfl

/-- The texts of the identifiers in `user_roles` are read as these identifiers. -/
def ReadsBack (uuid_of : String → Option UUID) (legacy : List UserRolesRow) : Prop :=
  ∀ row ∈ legacy, uuid_of row.user_id.str = some row.user_id

section migration

variable (huuid : ReadsBack uuid_of legacy)
include huuid

/-- The loop of `migrate_user_roles_table`, where the driver refuses no identifier. -/
theorem forM_copy_role (hbinds : binds = true ∨ legacy = []) :
    (forM (by_user legacy) fun g => copy_role uuid_of binds g.1 g.2 : Procedure Database SqlError Unit)
        (.live s (database users (some legacy))) =
      (.ok (), .live s (database (assigned users (copied_role legacy)) (some legacy))) := by
  refine forM_update_roles fun g hg => ?_
  obtain ⟨row, hrow, hid⟩ := exists_row_of_mem_by_user hg
  have htrue : binds = true := by
    rcases hbinds with htrue | rfl
    · exact htrue
    · cases hg
  simp only [copy_role, ← hid, huuid row hrow, UUID.str_inj, htrue, if_true]

/-- The copy goes through, and drops `user_roles`. -/
theorem copy_user_roles_live (hbinds : binds = true ∨ legacy = []) (hnull : ¬NullLeft dialect users legacy) :
    copy_user_roles uuid_of dialect binds (.live s (database users (some legacy))) =
      (.ok (), .live s (database (assigned users (copied_role legacy)) none)) := by
  rw [copy_user_roles, bind_of_ok read_user_roles_live, bind_of_ok (forM_copy_role huuid hbinds),
    bind_of_ok (alter_role_live hnull), drop_user_roles_live]

/-- The copy is refused with the change of the column, on PostgreSQL. -/
theorem copy_user_roles_refused (hbinds : binds = true ∨ legacy = []) (hnull : NullLeft dialect users legacy) :
    copy_user_roles uuid_of dialect binds (.live s (database users (some legacy))) =
      (.error .NotNullViolation,
        ⟨database (assigned users (copied_role legacy)) (some legacy), s, s⟩) := by
  rw [copy_user_roles, bind_of_ok read_user_roles_live, bind_of_ok (forM_copy_role huuid hbinds)]
  exact bind_of_error (alter_role_refused hnull)

/-- A driver that takes no identifier ends the loop at its first update. -/
theorem copy_user_roles_unbound (hlegacy : legacy ≠ []) :
    copy_user_roles uuid_of dialect false (.live s (database users (some legacy))) =
      (.error .InterfaceError, .live s (database users (some legacy))) := by
  rw [copy_user_roles, bind_of_ok read_user_roles_live]
  cases hgroups : by_user legacy with
  | nil =>
    obtain ⟨row, hrow⟩ := List.exists_mem_of_ne_nil _ hlegacy
    have hkey : row.user_id.str ∈ (by_user legacy).map Prod.fst := by
      rw [(grouped_by_user legacy).mem_keys, values_of_str]
      exact List.ne_nil_of_mem (List.mem_map_of_mem (List.mem_filter.mpr ⟨hrow, decide_eq_true rfl⟩))
    rw [hgroups] at hkey
    cases hkey
  | cons g groups =>
    obtain ⟨row, hrow, hid⟩ := exists_row_of_mem_by_user (hgroups ▸ List.mem_cons_self : g ∈ by_user legacy)
    have hfirst : copy_role uuid_of false g.1 g.2 (.live s (database users (some legacy))) =
        (.error .InterfaceError, .live s (database users (some legacy))) := by
      simp only [copy_role, ← hid, huuid row hrow]
      rfl
    rw [List.forM_cons]
    exact bind_of_error (bind_of_error hfirst)

/-- A migration that nothing refuses. -/
theorem migrated_eq (hbinds : binds = true ∨ legacy = []) (hnull : ¬NullLeft dialect users legacy) :
    migrated uuid_of dialect binds (database users (some legacy)) =
      .ok (database (assigned users (migrated_role legacy)) none) := by
  refine begin_of_live ?_
  rw [migrate_user_roles_table_live, bind_of_ok (logged_of_eq (copy_user_roles_live huuid hbinds hnull)),
    logged_of_eq fill_empty_roles_live, assigned_assigned]
  rfl

/-- Where the driver takes no identifier only the empty roles are filled, and the table stays. -/
theorem migrated_unbound (hlegacy : legacy ≠ []) :
    migrated uuid_of dialect false (database users (some legacy)) =
      .ok (database (assigned users fun row => cleaned row.role) (some legacy)) := by
  refine begin_of_live ?_
  rw [migrate_user_roles_table_live, bind_of_ok (logged_of_eq (copy_user_roles_unbound huuid hlegacy)),
    logged_of_eq fill_empty_roles_live]

/-- PostgreSQL rolls the migration back when a user is left without a role. -/
theorem migrated_refused (hbinds : binds = true ∨ legacy = []) (hnull : NullLeft dialect users legacy) :
    migrated uuid_of dialect binds (database users (some legacy)) = .ok (database users (some legacy)) := by
  have hstrict : strict dialect = true := decide_eq_true hnull.1
  have hcopy := logged_of_eq (copy_user_roles_refused (s := strict dialect) huuid hbinds hnull)
  have hfill : fill_empty_roles ⟨database (assigned users (copied_role legacy)) (some legacy), strict dialect,
      strict dialect⟩ = (.error .InFailedSqlTransaction, _) := run_of_aborted hstrict
  have hmigrate : migrate_user_roles_table uuid_of dialect binds
        (.live (strict dialect) (database users (some legacy))) =
      (.ok (), ⟨database (assigned users (copied_role legacy)) (some legacy), strict dialect, strict dialect⟩) := by
    rw [migrate_user_roles_table_live, bind_of_ok hcopy, logged_of_eq hfill]
  exact begin_of_aborted hmigrate hstrict

end migration

/-- The role of a user at the end of the revision. -/
def upgraded_role (legacy : List UserRolesRow) (id : UUID) : Option String :=
  some (if legacy_roles legacy id = [] then "INSPECTOR" else pick_role (legacy_roles legacy id))

/-- The users before the revision. -/
def roleless (users : Table UsersRow) (legacy : List UserRolesRow) : Database where
  users := some (.without_role (users.rows.map UsersRow.id) (List.pairwise_map.mpr
    (users.distinct.imp fun hapart heq => hapart (clash_of_key heq))))
  user_roles := some legacy

/-- The new column holds one value in every row. -/
theorem add_role_column_live (role : Option String) {distinct : (users.rows.map UsersRow.id).Nodup} :
    run (Database.add_role_column role)
        (.live s ⟨some (.without_role (users.rows.map UsersRow.id) distinct), user_roles⟩) =
      (.ok (), .live s (database (assigned users fun _ => role) user_roles)) :=
  run_live (congrArg (fun users => Except.ok (database users user_roles)) (Table.ext List.map_map))

/-- The column is added with its default where it is missing. -/
theorem ensure_users_role_column_without {distinct : (users.rows.map UsersRow.id).Nodup} :
    begin_ (strict dialect) ensure_users_role_column
        ⟨some (.without_role (users.rows.map UsersRow.id) distinct), user_roles⟩ =
      .ok (database (assigned users fun _ => some "INSPECTOR") user_roles) := by
  refine begin_of_live ?_
  rw [ensure_users_role_column, bind_of_ok read_database_live]
  exact add_role_column_live (some "INSPECTOR")

/-- Where the column is, nothing is done. -/
theorem ensure_users_role_column_with :
    begin_ (strict dialect) ensure_users_role_column (database users user_roles) = .ok (database users user_roles) := by
  refine begin_of_live ?_
  rw [ensure_users_role_column, bind_of_ok read_database_live]
  rfl

/-- The three updates of the revision leave each user with the role it is meant to have. -/
theorem assigned_upgraded_role (users : Table UsersRow) (legacy : List UserRolesRow) :
    assigned (assigned (assigned users fun _ => none) (copied_role legacy)) (inspector_where fun role => role = none) =
      assigned users fun row => upgraded_role legacy row.id := by
  rw [assigned_assigned, assigned_assigned]
  refine assigned_congr fun row => ?_
  by_cases h : legacy_roles legacy row.id = []
  · simp [inspector_where, UsersRow.assign, copied_role, upgraded_role, h]
  · simp [inspector_where, UsersRow.assign, copied_role, upgraded_role, h]

/-- The revision goes through, whatever the rows. -/
theorem upgraded_eq (dialect : String) (users : Table UsersRow) (legacy : List UserRolesRow) :
    b2c3d4e5f6a7.upgraded dialect (roleless users legacy) =
      .ok (database (assigned users fun row => upgraded_role legacy row.id) none) := by
  have hloop : (forM (by_user legacy) fun g =>
        run (Database.update_roles (role_where (fun id => id.str = g.1) (b2c3d4e5f6a7.pick_role g.2))) :
          Procedure Database SqlError Unit)
        (.live (strict dialect) (database (assigned users fun _ => none) (some legacy))) =
      (.ok (), .live (strict dialect)
        (database (assigned (assigned users fun _ => none) (copied_role legacy)) (some legacy))) :=
    forM_update_roles fun _ _ => by rw [pick_role_revision]
  have hadd : run (Database.add_role_column none) (.live (strict dialect) (roleless users legacy)) =
      (.ok (), .live (strict dialect) (database (assigned users fun _ => none) (some legacy))) :=
    add_role_column_live none
  have hroles : ∀ row ∈ (assigned users fun row => upgraded_role legacy row.id).rows, row.role ≠ none := by
    simp [assigned, UsersRow.assign, upgraded_role]
  refine begin_of_live ?_
  rw [b2c3d4e5f6a7.upgrade, bind_of_ok hadd, bind_of_ok read_user_roles_live, bind_of_ok hloop,
    bind_of_ok (update_roles_live _), assigned_upgraded_role, bind_of_ok (set_role_not_null_live hroles),
    drop_user_roles_live]

end sigis.schema_sync
