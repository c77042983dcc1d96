import Sigis.Accounts.Deployment
import Sigis.Accounts.RoleMigration
import Sigis.Accounts.Store

open relational

namespace sigis.accounts

open schema_sync

/-- The account tables of a database that an earlier version may have written: `users` has no
column `role` yet, or there still is a table `user_roles`. The column is mandatory. -/
@[ext] structure Installation where
  store : AccountStore
  has_role : Bool
  user_roles : Option (List UserRolesRow)
  /-- Without the column the rows carry no role. -/
  roleless : has_role = false → ∀ row ∈ store.users.rows, row.role = ""

/-- The columns of a row that the schema steps work on. -/
def UserModel.users_row (row : UserModel) : UsersRow := ⟨row.id, some row.role⟩

/-- Rows with distinct identifiers. -/
theorem distinct_users_rows (users : Table UserModel) :
    (users.rows.map UserModel.users_row).Pairwise fun a b => ¬ clash a b :=
  List.pairwise_map.mpr (users.distinct.imp fun hapart hclash => hclash.elim (fun hid => hapart (clash_of_key hid))
    fun hconflict => by cases hconflict)

/-- The table `users` as the schema steps see it. -/
def users_rows (users : Table UserModel) : Table UsersRow :=
  ⟨users.rows.map UserModel.users_row, distinct_users_rows users⟩

/-- The tables as the schema steps see them. -/
def Installation.database (i : Installation) : Database where
  users := some (if i.has_role then .with_role (users_rows i.store.users)
    else .without_role ((users_rows i.store.users).rows.map UsersRow.id)
      (b2c3d4e5f6a7.nodup_ids (users_rows i.store.users)))
  user_roles := i.user_roles

/-- The row with the role it has in a database. -/
def UserModel.with_role_of (db : Database) (row : UserModel) : UserModel :=
  { row with role := (db.role_of row.id).getD "" }

/-- A new role leaves the columns that are unique. -/
theorem UserModel.keeps_with_role_of (db : Database) : Table.Keeps (UserModel.with_role_of db) :=
  ⟨fun _ => rfl, fun _ _ => rfl⟩

/-- Without the column nobody has a role. -/
theorem role_of_without {db : Database} (h : db.has_role_column = false) (id : UUID) : db.role_of id = none := by
  cases db with
  | mk users user_roles =>
    match users with
    | none | some (.without_role _ _) => rfl
    | some (.with_role _) => cases h

/-- Nor do the rows then carry one. -/
theorem roleless_with_role_of {db : Database} (h : db.has_role_column = false) (users : Table UserModel) :
    ∀ row ∈ (users.rewrite_all (UserModel.with_role_of db) (UserModel.keeps_with_role_of db)).rows, row.role = "" := by
  intro row hrow
  obtain ⟨old, -, rfl⟩ := List.mem_map.mp hrow
  rw [UserModel.with_role_of, role_of_without h, Option.getD_none]

/-- The tables once the schema steps have left a database. -/
def Installation.put (i : Installation) (db : Database) : Installation where
  store := { i.store with
    users := i.store.users.rewrite_all (UserModel.with_role_of db) (UserModel.keeps_with_role_of db) }
  has_role := db.has_role_column
  user_roles := db.user_roles
  roleless h := roleless_with_role_of h i.store.users

/-- `ensure_users_role_column` and `migrate_user_roles_table`, each in a transaction of its own. -/
def Installation.align (d : Deployment) (dialect : String) (binds : Bool) (i : Installation) :
    Except SqlError Installation :=
  (aligned d.uuid_of dialect binds i.database).map i.put

/-- The role a user has before `user_roles` is looked at. -/
def Installation.present_role (i : Installation) (row : UsersRow) : Option String :=
  if i.has_role then row.role else some "INSPECTOR"

/-- The role the schema steps leave a user with. -/
def Installation.new_role (binds : Bool) (i : Installation) (row : UsersRow) : Option String :=
  match i.user_roles with
  | none => i.present_role row
  | some legacy =>
    if binds = true ∨ legacy = [] then migrated_role legacy (row.assign i.present_role)
    else cleaned (i.present_role row)

/-- What they leave of the table `user_roles`. -/
def Installation.roles_left (binds : Bool) (i : Installation) : Option (List UserRolesRow) :=
  if binds = true ∨ i.user_roles = some [] then none else i.user_roles

/-- The schema steps change the roles and nothing else of the accounts. -/
structure Aligns (binds : Bool) (i t : Installation) : Prop where
  has_role : t.has_role = true
  user_roles : t.user_roles = i.roles_left binds
  users : t.store.users.rows = i.store.users.rows.map fun row =>
    { row with role := (i.new_role binds row.users_row).getD "" }
  tokens : t.store.password_reset_tokens = i.store.password_reset_tokens
  permissions : t.store.role_permissions = i.store.role_permissions

/-- The identifiers in `user_roles`, if it is there, are read from their texts. -/
def Installation.ReadsBack (d : Deployment) (i : Installation) : Prop :=
  ∀ legacy, i.user_roles = some legacy → schema_sync.ReadsBack d.uuid_of legacy

variable {d : Deployment} {dialect : String} {binds : Bool} {i t u : Installation} {row : UserModel}

theorem mem_users_rows (h : row ∈ i.store.users.rows) : row.users_row ∈ (users_rows i.store.users).rows :=
  List.mem_map_of_mem h

/-- A cleaned role is not NULL. -/
theorem cleaned_ne_none (role : Option String) : cleaned role ≠ none := by
  rw [cleaned]
  split
  · exact Option.some_ne_none _
  · next hrole =>
    rintro rfl
    exact hrole rfl

/-- Nor is it empty. -/
theorem cleaned_ne_empty (role : Option String) : cleaned role ≠ some "" := by
  rw [cleaned]
  split
  · decide
  · next hrole =>
    rintro rfl
    exact hrole rfl

/-- Where no role is NULL none is left so. -/
theorem no_null_left {role : UsersRow → Option String} {users : Table UsersRow} {legacy : List UserRolesRow}
    (hrole : ∀ row ∈ users.rows, role row ≠ none) : ¬ NullLeft dialect (assigned users role) legacy := by
  rintro ⟨-, _, hassigned, hnone, -⟩
  obtain ⟨row, hrow, rfl⟩ := List.mem_map.mp hassigned
  exact hrole row hrow hnone

/-- No user is without a role before the copy. -/
theorem present_role_ne_none (i : Installation) (row : UserModel) : i.present_role row.users_row ≠ none := by
  rw [Installation.present_role]
  split <;> exact Option.some_ne_none _

theorem assigned_role (users : Table UsersRow) : assigned users UsersRow.role = users :=
  Table.ext (List.map_id users.rows)

/-- After the first step the column is there, with the role each user has before the copy. -/
theorem ensure_users_role_column_eq (i : Installation) :
    connections.begin_ (strict dialect) ensure_users_role_column i.database =
      .ok (database (assigned (users_rows i.store.users) i.present_role) i.user_roles) := by
  cases hrole : i.has_role with
  | true =>
    have hpresent : i.present_role = UsersRow.role := by
      funext row
      rw [Installation.present_role, hrole, if_pos rfl]
    rw [hpresent, assigned_role, Installation.database, hrole]
    exact ensure_users_role_column_with
  | false =>
    have hpresent : i.present_role = fun _ => some "INSPECTOR" := by
      funext row
      rw [Installation.present_role, hrole, if_neg Bool.false_ne_true]
    rw [hpresent, Installation.database, hrole]
    exact ensure_users_role_column_without

theorem database_of_has_role (h : i.has_role = true) :
    i.database = schema_sync.database (users_rows i.store.users) i.user_roles := by
  rw [Installation.database, h]
  rfl

/-- What the schema steps lead to. -/
theorem aligned_eq (huuid : i.ReadsBack d) (dialect : String) (binds : Bool) :
    aligned d.uuid_of dialect binds i.database =
      .ok (database (assigned (users_rows i.store.users) (i.new_role binds)) (i.roles_left binds)) := by
  rw [aligned, ensure_users_role_column_eq, guarded.bind_ok]
  cases hroles : i.user_roles with
  | none =>
    have hnew : i.new_role binds = i.present_role := by
      funext row
      rw [Installation.new_role, hroles]
    have hleft : i.roles_left binds = none := by
      rw [Installation.roles_left, hroles, ite_self]
    rw [migrated_none, hnew, hleft]
  | some legacy =>
    by_cases hbinds : binds = true ∨ legacy = []
    · have hnull : ¬ NullLeft dialect (assigned (users_rows i.store.users) i.present_role) legacy := by
        refine no_null_left fun row hrow => ?_
        obtain ⟨user, -, rfl⟩ := List.mem_map.mp hrow
        exact present_role_ne_none i user
      have hnew : i.new_role binds = fun row => migrated_role legacy (row.assign i.present_role) := by
        funext row
        rw [Installation.new_role, hroles]
        exact if_pos hbinds
      have hleft : i.roles_left binds = none := by
        rw [Installation.roles_left, hroles, if_pos (by simpa using hbinds)]
      rw [migrated_eq (huuid legacy hroles) hbinds hnull, assigned_assigned, hnew, hleft]
    · obtain ⟨hfalse, hlegacy⟩ := not_or.mp hbinds
      have hnew : i.new_role binds = fun row => cleaned (row.assign i.present_role).role := by
        funext row
        rw [Installation.new_role, hroles]
        exact if_neg hbinds
      have hleft : i.roles_left binds = some legacy := by
        rw [Installation.roles_left, hroles, if_neg (by simpa using hbinds)]
      rw [hnew, hleft, Bool.eq_false_of_not_eq_true hfalse, migrated_unbound (huuid legacy hroles) hlegacy,
        assigned_assigned]

/-- The schema steps are never refused. -/
theorem exists_align (huuid : i.ReadsBack d) (dialect : String) (binds : Bool) :
    ∃ t, i.align d dialect binds = .ok t ∧ Aligns binds i t := by
  have halign : i.align d dialect binds = .ok (i.put (schema_sync.database
      (assigned (users_rows i.store.users) (i.new_role binds)) (i.roles_left binds))) := by
    rw [Installation.align, aligned_eq huuid]
    rfl
  refine ⟨_, halign, rfl, rfl, ?_, rfl, rfl⟩
  refine List.map_congr_left fun row hrow => ?_
  rw [UserModel.with_role_of]
  congr 2
  exact role_assigned (mem_users_rows hrow) _ _

/-- Two outcomes are one. -/
theorem Aligns.unique (ht : Aligns binds i t) (hu : Aligns binds i u) : t = u := by
  refine Installation.ext ?_ (ht.has_role.trans hu.has_role.symm) (ht.user_roles.trans hu.user_roles.symm)
  have husers : t.store.users = u.store.users := Table.ext (ht.users.trans hu.users.symm)
  exact AccountStore.ext husers (ht.tokens.trans hu.tokens.symm) (ht.permissions.trans hu.permissions.symm)

/-- The rows that are left in `user_roles` were there. -/
theorem Aligns.user_roles_of_some (h : Aligns binds i t) {legacy : List UserRolesRow}
    (hleft : t.user_roles = some legacy) : i.user_roles = some legacy := by
  rw [h.user_roles, Installation.roles_left] at hleft
  split at hleft
  · cases hleft
  · exact hleft

/-- No user is left without a role. -/
theorem new_role_ne_none (binds : Bool) (i : Installation) (row : UserModel) :
    i.new_role binds row.users_row ≠ none := by
  rw [Installation.new_role]
  split
  · exact present_role_ne_none i row
  · split
    · exact cleaned_ne_none _
    · exact cleaned_ne_none _

/-- The outcome is the database the schema steps have left. -/
theorem Aligns.database (huuid : i.ReadsBack d) (dialect : String) (h : Aligns binds i t) :
    aligned d.uuid_of dialect binds i.database = .ok t.database := by
  have husers : users_rows t.store.users = assigned (users_rows i.store.users) (i.new_role binds) := by
    refine Table.ext ?_
    change t.store.users.rows.map UserModel.users_row = (i.store.users.rows.map UserModel.users_row).map _
    rw [h.users, List.map_map, List.map_map]
    refine List.map_congr_left fun row _ => ?_
    obtain ⟨role, hrole⟩ := Option.ne_none_iff_exists'.mp (new_role_ne_none binds i row)
    simp [UserModel.users_row, UsersRow.assign] at hrole ⊢
    rw [hrole, Option.getD_some]
  rw [aligned_eq huuid, database_of_has_role h.has_role, h.user_roles, husers]

/-- Nothing is left for the schema steps to do. -/
structure Installation.Stable (binds : Bool) (i : Installation) : Prop where
  has_role : i.has_role = true
  user_roles : i.user_roles = none ∨
    binds = false ∧ i.user_roles ≠ some [] ∧ ∀ row ∈ i.store.users.rows, row.role ≠ ""

/-- In an aligned database the steps leave every role. -/
theorem Installation.Stable.new_role (h : i.Stable binds) (hrow : row ∈ i.store.users.rows) :
    i.new_role binds row.users_row = some row.role := by
  have hpresent : i.present_role row.users_row = some row.role := by
    rw [Installation.present_role, h.has_role]
    rfl
  rw [Installation.new_role]
  rcases h.user_roles with hnone | ⟨hbinds, hlegacy, hroles⟩
  · rw [hnone, hpresent]
  · split
    · exact hpresent
    · next legacy hsome =>
      have hneither : ¬ (binds = true ∨ legacy = []) := by
        rintro (htrue | rfl)
        · exact Bool.false_ne_true (hbinds.symm.trans htrue)
        · exact hlegacy hsome
      rw [if_neg hneither, hpresent, cleaned_of_ne (hroles row hrow)]

/-- They leave the table `user_roles` too. -/
theorem Installation.Stable.roles_left (h : i.Stable binds) : i.roles_left binds = i.user_roles := by
  rw [Installation.roles_left]
  rcases h.user_roles with hnone | ⟨hbinds, hlegacy, -⟩
  · rw [hnone, ite_self]
  · refine if_neg ?_
    rintro (htrue | hempty)
    · exact Bool.false_ne_true (hbinds.symm.trans htrue)
    · exact hlegacy hempty

/-- An aligned database is its own alignment. -/
theorem Installation.Stable.aligns (h : i.Stable binds) : Aligns binds i i := by
  refine ⟨h.has_role, h.roles_left.symm, ?_, rfl, rfl⟩
  refine (List.map_id i.store.users.rows).symm.trans (List.map_congr_left fun row hrow => ?_)
  rw [h.new_role hrow]
  rfl

/-- And the steps leave it as it is. -/
theorem Installation.Stable.align (h : i.Stable binds) (huuid : i.ReadsBack d)
    (dialect : String) : i.align d dialect binds = .ok i := by
  obtain ⟨t, halign, haligns⟩ := exists_align huuid dialect binds
  rw [halign, haligns.unique h.aligns]

/-- The schema steps have nothing left to do after themselves, and more accounts with a role do not change that. -/
theorem Aligns.stable (h : Aligns binds i t) {accounts : List UserModel} (hrole : u.has_role = true)
    (hleft : u.user_roles = t.user_roles) (hrows : u.store.users.rows = t.store.users.rows ++ accounts)
    (hroles : ∀ row ∈ accounts, row.role ≠ "") : u.Stable binds := by
  refine ⟨hrole, ?_⟩
  rw [hleft, h.user_roles, Installation.roles_left]
  by_cases hnone : binds = true ∨ i.user_roles = some []
  · exact Or.inl (if_pos hnone)
  rw [if_neg hnone]
  obtain ⟨hfalse, hempty⟩ := not_or.mp hnone
  cases hlegacy : i.user_roles with
  | none => exact Or.inl rfl
  | some legacy =>
    refine Or.inr ⟨Bool.eq_false_of_not_eq_true hfalse, hlegacy ▸ hempty, fun row hrow => ?_⟩
    rw [hrows] at hrow
    rcases List.mem_append.mp hrow with hold | hnew
    · rw [h.users] at hold
      obtain ⟨old, -, rfl⟩ := List.mem_map.mp hold
      have hneither : ¬ (binds = true ∨ legacy = []) := by simpa [hlegacy] using hnone
      have hcleaned : i.new_role binds old.users_row = cleaned (i.present_role old.users_row) := by
        rw [Installation.new_role, hlegacy]
        exact if_neg hneither
      obtain ⟨role, hrole⟩ := Option.ne_none_iff_exists'.mp (cleaned_ne_none (i.present_role old.users_row))
      have hne : role ≠ "" := by
        rintro rfl
        exact cleaned_ne_empty _ hrole
      simpa [hcleaned, hrole] using hne
    · exact hroles row hnew

end sigis.accounts
