import Sigis.Accounts.Repositories
import Sigis.Persistence.MigratedRoles

open connections relational

namespace sigis.schema_sync

variable {uuid_of : String → Option UUID} {dialect value : String} {binds : Bool} {values : List String} {role : Role}
  {users : Table UsersRow} {user_roles : Option (List UserRolesRow)} {legacy : List UserRolesRow} {row : UsersRow}

theorem value_ne_empty (role : Role) : role.value ≠ "" := by
  cases role <;> decide

theorem cleaned_of_ne (h : value ≠ "") : cleaned (some value) = some value := by
  simp [cleaned, no_role, h]

theorem cleaned_empty : cleaned (some "") = some "INSPECTOR" := rfl

/-- Without rows a user keeps its role, unless it has none. -/
theorem migrated_role_of_nil (h : legacy_roles legacy row.id = []) : migrated_role legacy row = cleaned row.role := by
  rw [migrated_role, copied_role, if_pos h]

/-- With rows a user gets the one picked among them. -/
theorem migrated_role_of_ne_nil (h : legacy_roles legacy row.id ≠ []) :
    migrated_role legacy row = cleaned (some (pick_role (legacy_roles legacy row.id))) := by
  rw [migrated_role, copied_role, if_neg h]

/-- The highest-ranked role a user had is kept. -/
theorem Highest.migrated_role_eq (h : Highest (legacy_roles legacy row.id) role) :
    migrated_role legacy row = some role.value := by
  rw [migrated_role_of_ne_nil (List.ne_nil_of_mem h.mem), h.pick_role_eq, cleaned_of_ne (value_ne_empty role)]

/-- A user who had empty texts only becomes an inspector. -/
theorem migrated_role_of_empty (hne : legacy_roles legacy row.id ≠ [])
    (h : ∀ value ∈ legacy_roles legacy row.id, value = "") : migrated_role legacy row = some "INSPECTOR" := by
  rw [migrated_role_of_ne_nil hne, h _ (pick_role_mem hne), cleaned_empty]

/-- The highest role does not depend on the order of the texts. -/
theorem Highest.perm {other : List String} (h : Highest values role) (hperm : values.Perm other) :
    Highest other role where
  mem := hperm.mem_iff.mp h.mem
  le q hq := h.le q (hperm.mem_iff.mpr hq)

/-- An inspector, and a user without a role, end with the role of the revision, unless none of those they
had is known. -/
theorem migrated_role_eq_upgraded_role (hrole : cleaned row.role = some "INSPECTOR")
    (hknown : legacy_roles legacy row.id ≠ [] → ∃ role : Role, role.value ∈ legacy_roles legacy row.id) :
    migrated_role legacy row = upgraded_role legacy row.id := by
  rw [upgraded_role]
  by_cases hnil : legacy_roles legacy row.id = []
  · rw [migrated_role_of_nil hnil, hrole, if_pos hnil]
  · obtain ⟨role, hmem⟩ := hknown hnil
    obtain ⟨highest, hhighest⟩ := exists_highest hmem
    rw [hhighest.migrated_role_eq, if_neg hnil, hhighest.pick_role_eq]

/-- A user whose roles this condition is about gets one that is known. -/
def Chosen (values : List String) (role : Option String) : Prop :=
  values ≠ [] → (∃ role : Role, role.value ∈ values) ∨ ((∀ value ∈ values, value = "") ∧ no_role role = false)

/-- Nor does the role a user is migrated to. -/
theorem Chosen.migrated_role_perm {other : List UserRolesRow} (h : Chosen (legacy_roles legacy row.id) row.role)
    (hperm : other.Perm legacy) : migrated_role other row = migrated_role legacy row := by
  have hroles := legacy_roles_perm hperm row.id
  by_cases hnil : legacy_roles legacy row.id = []
  · have hother : legacy_roles other row.id = [] := List.Perm.eq_nil (hnil ▸ hroles)
    rw [migrated_role_of_nil hnil, migrated_role_of_nil hother]
  · obtain ⟨role, hrole⟩ | ⟨hempty, -⟩ := h hnil
    · obtain ⟨highest, hhighest⟩ := exists_highest hrole
      rw [hhighest.migrated_role_eq, (hhighest.perm hroles.symm).migrated_role_eq]
    · have hother : legacy_roles other row.id ≠ [] := fun heq => hnil (List.Perm.eq_nil (heq ▸ hroles.symm))
      rw [migrated_role_of_empty hnil hempty,
        migrated_role_of_empty hother fun value hvalue => hempty value (hroles.mem_iff.mp hvalue)]

/-- The role column of a user. -/
def Database.role_of (db : Database) (id : UUID) : Option String :=
  match db.users with
  | some (.with_role users) => (users.get id).bind UsersRow.role
  | _ => none

/-- The role of a user after the migration, with a driver that binds the identifiers. -/
def role_after (uuid_of : String → Option UUID) (dialect : String) (users : Table UsersRow)
    (legacy : List UserRolesRow) (id : UUID) : Option String :=
  (migrated uuid_of dialect true (database users (some legacy))).toOption.bind fun db => db.role_of id

/-- The role of a user after the revision, which the users come to without a role. -/
def role_of_revision (dialect : String) (users : Table UsersRow) (legacy : List UserRolesRow) (id : UUID) :
    Option String :=
  (b2c3d4e5f6a7.upgraded dialect (roleless users legacy)).toOption.bind fun db => db.role_of id

/-- The role of a user is one of the five, or none. -/
def RolesKnown (users : Table UsersRow) : Prop :=
  ∀ row ∈ users.rows, no_role row.role ∨ ∃ role : Role, row.role = some role.value

/-- What the migration is for. -/
structure Usable (uuid_of : String → Option UUID) (dialect : String) (users : Table UsersRow)
    (legacy : List UserRolesRow) : Prop where
  known : ∀ row ∈ users.rows, ∃ role : Role, role_after uuid_of dialect users legacy row.id = some role.value
  read : ∀ row ∈ users.rows, ∀ m : accounts.UserModel,
    role_after uuid_of dialect users legacy row.id = some m.role → ∃ user, accounts.model_to_user m = .ok user
  highest : ∀ row ∈ users.rows, ∀ role, Highest (legacy_roles legacy row.id) role →
    role_after uuid_of dialect users legacy row.id = some role.value
  order : ∀ other : List UserRolesRow, other.Perm legacy → ∀ row ∈ users.rows,
    role_after uuid_of dialect users other row.id = role_after uuid_of dialect users legacy row.id
  kept : ∀ row ∈ users.rows, legacy_roles legacy row.id = [] →
    role_after uuid_of dialect users legacy row.id = if no_role row.role then some "INSPECTOR" else row.role
  revision : ∀ row ∈ users.rows, no_role row.role →
    role_after uuid_of dialect users legacy row.id = role_of_revision dialect users legacy row.id

/-- The tables it works for. -/
structure Migratable (dialect : String) (users : Table UsersRow) (legacy : List UserRolesRow) : Prop where
  chosen : ∀ row ∈ users.rows, Chosen (legacy_roles legacy row.id) row.role
  not_null : ¬NullLeft dialect users legacy

/-- The role of a stored user is the one assigned. -/
theorem role_assigned (hrow : row ∈ users.rows) (role : UsersRow → Option String)
    (user_roles : Option (List UserRolesRow)) :
    (database (assigned users role) user_roles).role_of row.id = role row := by
  change ((assigned users role).get row.id).bind UsersRow.role = role row
  rw [assigned, Table.get_rewrite_all, show users.get row.id = some row from Table.get_of_mem hrow]
  rfl

/-- The revision gives a user the role picked among its rows. -/
theorem role_of_revision_eq (hrow : row ∈ users.rows) :
    role_of_revision dialect users legacy row.id = upgraded_role legacy row.id := by
  rw [role_of_revision, upgraded_eq]
  exact role_assigned hrow _ none

/-- Whether a NULL is left does not depend on the order of the rows. -/
theorem NullLeft.perm {other : List UserRolesRow} (h : NullLeft dialect users legacy) (hperm : legacy.Perm other) :
    NullLeft dialect users other := by
  obtain ⟨hdialect, row, hrow, hrole, hnil⟩ := h
  have hroles := legacy_roles_perm hperm row.id
  rw [hnil] at hroles
  exact ⟨hdialect, row, hrow, hrole, hroles.nil_eq.symm⟩

section usable

variable (huuid : ∀ id : UUID, uuid_of id.str = some id)
include huuid

/-- After the alignment a user has the role it is migrated to. -/
theorem role_after_eq (hnull : ¬NullLeft dialect users legacy) (hrow : row ∈ users.rows) :
    role_after uuid_of dialect users legacy row.id = migrated_role legacy row := by
  rw [role_after, migrated_eq (fun row _ => huuid row.user_id) (.inl rfl) hnull]
  exact role_assigned hrow _ none

/-- Where the alignment is refused a user keeps its role. -/
theorem role_after_refused (hnull : NullLeft dialect users legacy) (hrow : row ∈ users.rows) :
    role_after uuid_of dialect users legacy row.id = row.role := by
  rw [role_after, migrated_refused (fun row _ => huuid row.user_id) (.inl rfl) hnull]
  change (users.get row.id).bind UsersRow.role = row.role
  rw [show users.get row.id = some row from Table.get_of_mem hrow]
  rfl

/-- Every user is left with a known role. -/
theorem Migratable.known (h : Migratable dialect users legacy)
    (husers : RolesKnown users) (hrow : row ∈ users.rows) :
    ∃ role : Role, role_after uuid_of dialect users legacy row.id = some role.value := by
  rw [role_after_eq huuid h.not_null hrow]
  by_cases hnil : legacy_roles legacy row.id = []
  · rw [migrated_role_of_nil hnil]
    rcases husers row hrow with hnone | ⟨role, hrole⟩
    · exact ⟨.INSPECTOR, if_pos hnone⟩
    · exact ⟨role, by rw [hrole, cleaned_of_ne (value_ne_empty role)]⟩
  · obtain ⟨role, hrole⟩ | ⟨hempty, -⟩ := h.chosen row hrow hnil
    · obtain ⟨highest, hhighest⟩ := exists_highest hrole
      exact ⟨highest, hhighest.migrated_role_eq⟩
    · exact ⟨.INSPECTOR, migrated_role_of_empty hnil hempty⟩

/-- The alignment and the revision give a user without a role the same one. -/
theorem Migratable.revision (h : Migratable dialect users legacy) (hrow : row ∈ users.rows) (hnone : no_role row.role) :
    role_after uuid_of dialect users legacy row.id = role_of_revision dialect users legacy row.id := by
  rw [role_after_eq huuid h.not_null hrow, role_of_revision_eq hrow]
  refine migrated_role_eq_upgraded_role (if_pos hnone) fun hnil => ?_
  refine (h.chosen row hrow hnil).resolve_right fun hempty => ?_
  exact Bool.false_ne_true (hempty.2.symm.trans hnone)

/-- What can be migrated is usable after it. -/
theorem Migratable.usable (h : Migratable dialect users legacy) (husers : RolesKnown users) :
    Usable uuid_of dialect users legacy where
  known row hrow := h.known huuid husers hrow
  read row hrow m hm := by
    obtain ⟨role, hrole⟩ := h.known huuid husers hrow
    rw [hm, Option.some.injEq] at hrole
    obtain ⟨user, hshows⟩ := accounts.UserModel.exists_shows ⟨role, hrole.symm⟩
    exact ⟨user, accounts.model_to_user_eq_ok_iff.mpr hshows⟩
  highest row hrow role hrole := by rw [role_after_eq huuid h.not_null hrow, hrole.migrated_role_eq]
  order other hperm row hrow := by
    have hnull : ¬NullLeft dialect users other := fun hleft => h.not_null (hleft.perm hperm)
    rw [role_after_eq huuid h.not_null hrow, role_after_eq huuid hnull hrow]
    exact (h.chosen row hrow).migrated_role_perm hperm
  kept row hrow hnil := by
    rw [role_after_eq huuid h.not_null hrow, migrated_role_of_nil hnil]
    rfl
  revision row hrow := h.revision huuid hrow

/-- A text that is no role, put before the other rows, is what the user is left with. -/
theorem role_after_of_unknown (hnull : ¬NullLeft dialect users legacy) (hrow : row ∈ users.rows) {stray : UserRolesRow}
    (hstray : stray ∈ legacy) (hid : stray.user_id = row.id) (hne : stray.role ≠ "")
    (hunknown : ∀ value ∈ legacy_roles legacy row.id, value ∉ ROLE_PRIORITY) :
    ∃ other : List UserRolesRow, other.Perm legacy ∧
      role_after uuid_of dialect users other row.id = some stray.role := by
  have hperm : (stray :: legacy.erase stray).Perm legacy := (List.perm_cons_erase hstray).symm
  have hnull' : ¬NullLeft dialect users (stray :: legacy.erase stray) := fun hleft => hnull (hleft.perm hperm)
  have hroles : legacy_roles (stray :: legacy.erase stray) row.id =
      stray.role :: legacy_roles (legacy.erase stray) row.id := by
    simp [legacy_roles, hid]
  have hpicked : pick_role (legacy_roles (stray :: legacy.erase stray) row.id) = stray.role := by
    have hall : ∀ value ∈ legacy_roles (stray :: legacy.erase stray) row.id, value ∉ ROLE_PRIORITY :=
      fun value hvalue => hunknown value ((legacy_roles_perm hperm row.id).mem_iff.mp hvalue)
    rw [hroles] at hall ⊢
    exact pick_role_of_unknown hall
  refine ⟨_, hperm, ?_⟩
  rw [role_after_eq huuid hnull' hrow, migrated_role_of_ne_nil (by simp [hroles]), hpicked, cleaned_of_ne hne]

/-- Usable accounts leave no NULL behind. -/
theorem Usable.not_null (h : Usable uuid_of dialect users legacy) : ¬NullLeft dialect users legacy := by
  intro hnull
  obtain ⟨-, row, hrow, hrole, -⟩ := id hnull
  obtain ⟨role, hknown⟩ := h.known row hrow
  rw [role_after_refused huuid hnull hrow, hrole] at hknown
  cases hknown

/-- A usable account got a role that is known. -/
theorem Usable.chosen (h : Usable uuid_of dialect users legacy) (hrow : row ∈ users.rows) :
    Chosen (legacy_roles legacy row.id) row.role := by
  have hnull := h.not_null huuid
  intro hnil
  by_contra hneither
  rw [not_or] at hneither
  obtain ⟨hnone, hempty⟩ := hneither
  have hunknown : ∀ value ∈ legacy_roles legacy row.id, value ∉ ROLE_PRIORITY := by
    intro value hvalue hknown
    obtain ⟨role, rfl⟩ := mem_ROLE_PRIORITY.mp hknown
    exact hnone ⟨role, hvalue⟩
  by_cases hall : ∀ value ∈ legacy_roles legacy row.id, value = ""
  · have hrole : no_role row.role = true := 
      Bool.eq_true_of_not_eq_false fun hfalse => hempty ⟨hall, hfalse⟩
    have hrevision := h.revision row hrow hrole
    rw [role_after_eq huuid hnull hrow, role_of_revision_eq hrow, migrated_role_of_empty hnil hall, upgraded_role,
      if_neg hnil, hall _ (pick_role_mem hnil)] at hrevision
    exact absurd hrevision (by decide)
  · push Not at hall
    obtain ⟨value, hvalue, hne⟩ := hall
    obtain ⟨stray, hstray, rfl⟩ := List.mem_map.mp hvalue
    obtain ⟨hmem, hid⟩ := List.mem_filter.mp hstray
    obtain ⟨other, hperm, hafter⟩ := role_after_of_unknown huuid hnull hrow hmem (of_decide_eq_true hid) hne hunknown
    obtain ⟨role, hrole⟩ := h.known row hrow
    rw [← h.order other hperm row hrow, hafter, Option.some.injEq] at hrole
    exact hunknown _ hvalue (mem_ROLE_PRIORITY.mpr ⟨role, hrole.symm⟩)

end usable

section aligned

/-- A new column makes everyone an inspector. -/
theorem ensure_users_role_column_roleless :
    begin_ (strict dialect) ensure_users_role_column (roleless users legacy) =
      .ok (database (assigned users fun _ => some "INSPECTOR") (some legacy)) := ensure_users_role_column_without

variable (huuid : ReadsBack uuid_of legacy)
include huuid

/-- A column that is new has no NULL, and its migration is not refused. -/
theorem aligned_roleless (hbinds : binds = true ∨ legacy = []) (dialect : String) (users : Table UsersRow) :
    aligned uuid_of dialect binds (roleless users legacy) =
      .ok (database (assigned users fun row => migrated_role legacy (row.assign fun _ => some "INSPECTOR")) none) := by
  have hnull : ¬NullLeft dialect (assigned users fun _ => some "INSPECTOR") legacy := by
    rintro ⟨-, row, hrow, hrole, -⟩
    obtain ⟨_, -, rfl⟩ := List.mem_map.mp hrow
    cases hrole
  rw [aligned, ensure_users_role_column_roleless, guarded.bind_ok, migrated_eq huuid hbinds hnull, assigned_assigned]

/-- A driver that takes no identifier leaves inspectors, and the table with the roles they had. -/
theorem aligned_roleless_unbound (hlegacy : legacy ≠ []) (dialect : String) (users : Table UsersRow) :
    aligned uuid_of dialect false (roleless users legacy) =
      .ok (database (assigned users fun _ => some "INSPECTOR") (some legacy)) := by
  rw [aligned, ensure_users_role_column_roleless, guarded.bind_ok, migrated_unbound huuid hlegacy, assigned_assigned]
  rfl

/-- From the schema without the column the alignment at the start and the revision lead to the same
database, when every user who had roles had a known one. -/
theorem aligned_eq_upgraded (hknown : ∀ row ∈ users.rows, legacy_roles legacy row.id ≠ [] →
      ∃ role : Role, role.value ∈ legacy_roles legacy row.id) :
    aligned uuid_of dialect true (roleless users legacy) =
      b2c3d4e5f6a7.upgraded dialect (roleless users legacy) := by
  rw [aligned_roleless huuid (.inl rfl), upgraded_eq]
  refine congrArg (fun users => Except.ok (database users none)) (Table.ext (List.map_congr_left fun row hrow => ?_))
  exact congrArg (UsersRow.mk row.id) (migrated_role_eq_upgraded_role rfl (hknown row hrow))

end aligned

/-- For every content of `user_roles` and every users whose role is one of the five or empty: the migration
leaves usable accounts exactly when every user who had roles had a known one (or had empty texts only and
has a role already), and, on PostgreSQL, nobody is left with a NULL. -/
theorem role_migration_usable_iff (uuid_of : String → Option UUID) (huuid : ∀ id : UUID, uuid_of id.str = some id)
    (dialect : String) (users : Table UsersRow) (husers : RolesKnown users) (legacy : List UserRolesRow) :
    Usable uuid_of dialect users legacy ↔ Migratable dialect users legacy :=
  ⟨fun h => ⟨fun _ hrow => h.chosen huuid hrow, h.not_null huuid⟩, fun h => h.usable huuid husers⟩

/-- The identifier of a user. -/
def single_id : UUID := ⟨"0b4e2d5c-7a61-4c3f-8f0e-2f3a9d6b1c01"⟩

/-- A table of this user. -/
def single_user (role : Option String) : Table UsersRow := ⟨[⟨single_id, role⟩], List.pairwise_singleton _ _⟩

/-- A user who was a host and a regional supervisor is a supervisor. -/
theorem supervisor_usable :
    Usable (fun text => some ⟨text⟩) "sqlite" (single_user none)
      [⟨single_id, "HOST"⟩, ⟨single_id, "REGIONAL_SUPERVISOR"⟩] := by
  have husers : RolesKnown (single_user none) := List.forall_mem_singleton.mpr (.inl rfl)
  refine (role_migration_usable_iff (fun text => some ⟨text⟩) (fun _ => rfl) "sqlite" _ husers _).mpr ?_
  constructor
  · exact List.forall_mem_singleton.mpr fun _ => .inl ⟨.REGIONAL_SUPERVISOR, by decide⟩
  · exact fun hnull => absurd hnull.1 (by decide)

/-- A user of the role `ADMIN` keeps this text, with which the account cannot be read. A user without any role
keeps the NULL on PostgreSQL, where the revision makes an inspector of the same user. -/
theorem admin_unusable :
    role_after (fun text => some ⟨text⟩) "sqlite" (single_user none) [⟨single_id, "ADMIN"⟩] single_id = some "ADMIN" ∧
    accounts.model_to_user {
        id := single_id, email := "a@sigis.test", full_name := "A", phone_number := "+237600000001"
        hashed_password := "", role := "ADMIN", is_active := true, created_at := none, updated_at := none } =
      .error (.ValueError "'ADMIN' is not a valid Role") ∧
    ¬Usable (fun text => some ⟨text⟩) "sqlite" (single_user none) [⟨single_id, "ADMIN"⟩] ∧
    role_after (fun text => some ⟨text⟩) "postgresql" (single_user none) [] single_id = none ∧
    role_of_revision "postgresql" (single_user none) [] single_id = some "INSPECTOR" := by
  refine ⟨by decide, by decide, ?_, by decide, by decide⟩
  intro husable
  obtain ⟨role, hrole⟩ := husable.known ⟨single_id, none⟩ List.mem_cons_self
  have hafter : role_after (fun text => some ⟨text⟩) "sqlite" (single_user none) [⟨single_id, "ADMIN"⟩] single_id =
    some "ADMIN" := by decide
  rw [hafter, Option.some.injEq] at hrole
  cases role <;> exact absurd hrole (by decide)

end sigis.schema_sync
