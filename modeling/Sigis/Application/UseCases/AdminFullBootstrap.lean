import Sigis.Accounts.Installation
import Sigis.Application.UseCases.AdminSeedDemoUsers
import Sigis.Rbac.Calls

open relational transactional

namespace sigis.accounts

open Transaction (pure_eq_ok_iff)
open RolePermissionRepositoryImpl

/-! `application/use_cases/admin_full_bootstrap.py`. -/

/-- What `lifespan` does to the role permissions when the application starts. -/
def initialise_permissions : Session (Nat × Nat) := do
  let inserted ← seed_defaults all_default_permissions
  let repaired ← ensure_catalog_permissions_present
  return (inserted, repaired)

set_option linter.dupNamespace false in
structure FullBootstrapResult where
  rbac_defaults_rows_inserted : Nat
  rbac_catalog_rows_inserted : Nat
  roles : List String
  permission_catalog_size : Nat
  default_password : String
  accounts : List AdminSeedDemoUsers.SeedAccountResult

/-- What `execute_full_bootstrap` does in the unit of work, after the schema steps. -/
def execute_full_bootstrap_uow (d : Deployment) (env : Env) : Session FullBootstrapResult := do
  let defaults_inserted ← seed_defaults all_default_permissions
  let catalog_inserted ← ensure_catalog_permissions_present
  let (accounts, pwd) ← AdminSeedDemoUsers.execute_seed_demo_users d env
  return {
    rbac_defaults_rows_inserted := defaults_inserted
    rbac_catalog_rows_inserted := catalog_inserted
    roles := Role.members.map Role.value
    permission_catalog_size := Permission.members.length
    default_password := pwd
    accounts := accounts }

/-- What a bootstrap can raise: a refused statement, or an error of the accounts. -/
inductive BootstrapError
  | sql (e : schema_sync.SqlError)
  | account (e : Error)
deriving DecidableEq, Repr

theorem Installation.roleless_of_has_role {i : Installation} (h : i.has_role = true) (store : AccountStore)
    (hfalse : i.has_role = false) : ∀ row ∈ store.users.rows, row.role = "" :=
  absurd (h.symm.trans hfalse) (by decide)

/-- A unit of work over the tables, whose reads need the column `role`. -/
def Installation.atomically {α : Type} (i : Installation) (session : Session α) :
    Except BootstrapError α × Installation :=
  if h : i.has_role = true then
    let (result, store) := transactional.atomically session i.store
    (result.mapError .account, { i with store := store, roleless := i.roleless_of_has_role h store })
  else (.error (.sql .UndefinedColumn), i)

/-- The schema steps are committed before the unit of work begins, whatever becomes of it. -/
def execute_full_bootstrap (d : Deployment) (dialect : String) (binds : Bool) (env : Env) (i : Installation) :
    Except BootstrapError FullBootstrapResult × Installation :=
  match i.align d dialect binds with
  | .error e => (.error (.sql e), i)
  | .ok aligned => aligned.atomically (execute_full_bootstrap_uow d env)

variable {d : Deployment} {env : Env} {s t : AccountStore} {permission : Permission} {name : String}
  {added : List (String × Permission)}

/-- The default permissions, by the name of the role. -/
def default_grants (name : String) : Set Permission :=
  {permission | ∃ role : Role, role.value = name ∧ permission ∈ default_permissions_for role}

theorem mem_default_grants_value {role : Role} :
    permission ∈ default_grants role.value ↔ permission ∈ default_permissions_for role := by
  constructor
  · rintro ⟨other, hname, hmem⟩
    exact Role.value_inj.mp hname ▸ hmem
  · exact fun hmem => ⟨role, rfl, hmem⟩

theorem valid_all_default_permissions : ValidDefaults all_default_permissions := by
  intro name values hvalues value hvalue
  obtain ⟨role, -, rfl⟩ := Option.map_eq_some_iff.mp hvalues
  obtain ⟨permission, -, hpermission⟩ := mem_sorted_values.mp hvalue
  exact ⟨permission, hpermission⟩

theorem given_all_default_permissions (role : Role) :
    given all_default_permissions role = sorted_values (default_permissions_for role) := by
  rw [given, all_default_permissions, Role.of_value_value]
  rfl

/-- The default dictionary adds what is missing of the default permissions. -/
theorem seed_defaults_all (s : AccountStore) :
    ∃ added t, seed_defaults all_default_permissions s = .ok (added.length, t) ∧
      Seeds (fun pair => pair.2 ∈ default_grants pair.1) added s t := by
  obtain ⟨added, t, hok, hseeds⟩ := seed_defaults_spec valid_all_default_permissions s
  have hwanted (pair : String × Permission) :
      (∃ role : Role, role.value = pair.1 ∧ pair.2.value ∈ given all_default_permissions role) ↔
        pair.2 ∈ default_grants pair.1 := by
    refine exists_congr fun role => and_congr_right fun _ => ?_
    rw [given_all_default_permissions, mem_sorted_values]
    simp
  refine ⟨added, t, hok, hseeds.toGrants, ?_, ?_⟩
  · exact fun pair hpair => (hwanted pair).mp (hseeds.only pair hpair)
  · exact fun pair hpair => hseeds.all pair ((hwanted pair).mpr hpair)

/-- Where the technical administrator has the default permissions, no permission of the
catalogue is missing. -/
theorem ensure_catalog_of_defaults
    (h : ∀ permission, permission ∈ s.permissions Role.SUPER_ADMIN.value) :
    ensure_catalog_permissions_present s = .ok (0, s) := by
  obtain ⟨added, t, hok, hseeds⟩ := ensure_catalog_permissions_present_spec s
  have hnone : added = [] := by
    refine List.eq_nil_iff_forall_not_mem.mpr fun pair hpair => ?_
    exact (hseeds.only pair hpair).2 _ (h pair.2)
  subst hnone
  rw [hok, hseeds.eq_of_nil, List.length_nil]

/-- Both start-up sequences begin by adding what is missing of the defaults. -/
theorem seeds_defaults (s : AccountStore) :
    ∃ added t, seed_defaults all_default_permissions s = .ok (added.length, t) ∧
      ensure_catalog_permissions_present t = .ok (0, t) ∧
      Seeds (fun pair => pair.2 ∈ default_grants pair.1) added s t := by
  obtain ⟨added, t, hok, hseeds⟩ := seed_defaults_all s
  refine ⟨added, t, hok, ensure_catalog_of_defaults fun permission => ?_, hseeds⟩
  exact hseeds.all (_, permission) (mem_default_grants_value.mpr (mem_default_permissions_super_admin permission))

/-- What is granted after a start is what was granted, and the defaults. -/
theorem Seeds.mem_permissions_iff (h : Seeds (fun pair => pair.2 ∈ default_grants pair.1) added s t) :
    permission ∈ t.permissions name ↔ permission ∈ s.permissions name ∨ permission ∈ default_grants name := by
  constructor
  · exact fun hmem => (h.mem_permissions.mp hmem).imp_right (h.only (name, permission))
  · rintro (hold | hdefault)
    · exact h.mem_permissions.mpr (Or.inl hold)
    · exact h.all (name, permission) hdefault

end sigis.accounts
