import Sigis.Application.UseCases.AdminFullBootstrap
import Sigis.Rbac.Refinement

open transactional

namespace sigis.accounts

open RolePermissionRepositoryImpl
open Transaction (pure_eq_ok_iff)

/-- What an administrator does to the permissions of a role. -/
inductive Override
  | add_permission (role : Role) (permission : Permission)
  | remove_permission (role : Role) (permission : Permission)
  | set_permissions (role : Role) (permissions : Finset Permission)

def Override.call : Override → RbacCall
  | .add_permission role permission => .add_permission role permission
  | .remove_permission role permission => .remove_permission role permission
  | .set_permissions role permissions => .set_permissions role permissions

/-- Whether an override decides that a role has a permission, or has not, or leaves it as it is. -/
def Override.verdict (role : Role) (permission : Permission) : Override → Option Bool
  | .add_permission other p => if other = role ∧ p = permission then some true else none
  | .remove_permission other p => if other = role ∧ p = permission then some false else none
  | .set_permissions other permissions => if other = role then some (permission ∈ permissions) else none

/-- The verdict of the last override that has one. -/
def last_verdict (role : Role) (permission : Permission) : List Override → Option Bool
  | [] => none
  | override :: overrides => (last_verdict role permission overrides).or (override.verdict role permission)

/-- Overrides are requests of their own. -/
def overridden (overrides : List Override) (s : AccountStore) : AccountStore :=
  overrides.foldl (fun s override => (atomically override.call.run s).2) s

/-- One more start of the application, or one more call of the bootstrap. The schema steps with
which both begin do not touch the role permissions. -/
inductive Restart
  | lifespan
  | bootstrap (env : Env)

def Restart.execute (d : Deployment) (s : AccountStore) : Restart → AccountStore
  | .lifespan => (atomically initialise_permissions s).2
  | .bootstrap env => (atomically (execute_full_bootstrap_uow d env) s).2

def restarted (d : Deployment) (restarts : List Restart) (s : AccountStore) : AccountStore :=
  restarts.foldl (Restart.execute d) s

/-- However often the application is started again, every role keeps its permissions. -/
def SurvivesRestarts (d : Deployment) (s : AccountStore) : Prop :=
  ∀ restarts role, get_permissions_for_role role (restarted d restarts s) = get_permissions_for_role role s

variable {d : Deployment} {env : Env} {s t u : AccountStore} {role : Role} {permission : Permission} {name : String}

/-- A verdict is what the role has afterwards; without one nothing changes for the pair. -/
theorem mem_permissions_override (override : Override) :
    permission ∈ (atomically override.call.run s).2.permissions role.value ↔
      (override.verdict role permission).elim (permission ∈ s.permissions role.value) (· = true) := by
  obtain ⟨answer, t, hrun, hmeans⟩ := override.call.refines (by cases override <;> trivial) s
  rw [atomically_eq_ok_iff.mpr hrun]
  change permission ∈ t.acl.permissions role.value ↔ _
  cases override with
  | add_permission other p | remove_permission other p =>
    cases answer with
    | inserted | none => exact hmeans.elim
    | changed result =>
      rw [hmeans.2, Acl.mem_assign, Override.verdict]
      by_cases hrole : other = role
      · by_cases hp : p = permission
        · simp [hrole, hp]
        · simp [hrole, hp, Ne.symm hp, AccountStore.acl]
      · simp [hrole, AccountStore.acl]
  | set_permissions other permissions =>
    cases answer with
    | inserted | changed => exact hmeans.elim
    | none =>
      rw [hmeans, Override.verdict]
      change permission ∈ (s.acl.assign other ↑permissions).permissions role.value ↔ _
      rw [Acl.mem_assign]
      by_cases hrole : other = role
      · simp [hrole]
      · simp [hrole, AccountStore.acl]

/-- The last verdict is what the role has after all of the overrides. -/
theorem mem_permissions_overridden (overrides : List Override) :
    permission ∈ (overridden overrides s).permissions role.value ↔
      (last_verdict role permission overrides).elim (permission ∈ s.permissions role.value) (· = true) := by
  induction overrides generalizing s with
  | nil => rfl
  | cons override overrides ih =>
    refine ih.trans ?_
    rw [last_verdict]
    cases last_verdict role permission overrides with
    | some verdict => rfl
    | none => exact mem_permissions_override override

/-- The start of the application adds what is missing of the defaults. -/
theorem mem_permissions_lifespan :
    permission ∈ (Restart.execute d s .lifespan).permissions name ↔
      permission ∈ s.permissions name ∨ permission ∈ default_grants name := by
  obtain ⟨added, t, hok, hensure, hseeds⟩ := seeds_defaults s
  have hrun : initialise_permissions s = .ok ((added.length, 0), t) := by
    refine Transaction.bind_eq_ok_iff.mpr ⟨_, t, hok, ?_⟩
    exact Transaction.bind_eq_ok_iff.mpr ⟨_, t, hensure, pure_eq_ok_iff.mpr ⟨rfl, rfl⟩⟩
  rw [Restart.execute, atomically_eq_ok_iff.mpr hrun]
  exact hseeds.mem_permissions_iff

/-- The bootstrap adds the same, or it raises and nothing is committed. -/
theorem mem_permissions_bootstrap :
    (permission ∈ (Restart.execute d s (.bootstrap env)).permissions name →
      permission ∈ s.permissions name ∨ permission ∈ default_grants name) ∧
    (permission ∈ s.permissions name → permission ∈ (Restart.execute d s (.bootstrap env)).permissions name) := by
  cases hrun : execute_full_bootstrap_uow d env s with
  | error e =>
    rw [Restart.execute, atomically_eq_error_iff.mpr ⟨hrun, rfl⟩]
    exact ⟨Or.inl, id⟩
  | ok done =>
    obtain ⟨result, t⟩ := done
    rw [Restart.execute, atomically_eq_ok_iff.mpr hrun]
    obtain ⟨added, u, hok, hensure, hseeds⟩ := seeds_defaults s
    obtain ⟨_, v, hfirst, hrest⟩ := Transaction.bind_eq_ok_iff.mp hrun
    cases hok.symm.trans hfirst
    obtain ⟨_, w, hsecond, hdemo⟩ := Transaction.bind_eq_ok_iff.mp hrest
    cases hensure.symm.trans hsecond
    have hsame : t.role_permissions = u.role_permissions := by
      obtain ⟨accounts, x, haccounts, hreturn⟩ := Transaction.bind_eq_ok_iff.mp hdemo
      obtain ⟨-, rfl⟩ := pure_eq_ok_iff.mp hreturn
      exact (AdminSeedDemoUsers.execute_seed_demo_users_relates
        (R := fun s t => s.role_permissions = t.role_permissions) (fun _ => rfl) Eq.trans
        (fun hcreates => hcreates.adds.permissions.symm) u accounts t haccounts).symm
    have hmem : permission ∈ t.permissions name ↔
        permission ∈ s.permissions name ∨ permission ∈ default_grants name := by
      rw [AccountStore.mem_permissions, hsame]
      exact hseeds.mem_permissions_iff
    exact ⟨hmem.mp, fun h => hmem.mpr (Or.inl h)⟩

/-- Restarts change no permission exactly where every role has its defaults. -/
theorem survives_restarts_iff :
    SurvivesRestarts d s ↔ ∀ role, ∀ permission ∈ default_permissions_for role,
      permission ∈ s.permissions role.value := by
  constructor
  · intro h role permission hdefault
    rw [← mem_get_permissions_for_role, ← h [.lifespan] role, mem_get_permissions_for_role]
    exact (mem_permissions_lifespan (d := d)).mpr (Or.inr (mem_default_grants_value.mpr hdefault))
  · intro h restarts role
    have hdefaults {name permission} (hmem : permission ∈ default_grants name) : permission ∈ s.permissions name := by
      obtain ⟨role, rfl, hdefault⟩ := hmem
      exact h role permission hdefault
    -- every restart grants what the one before it granted
    have hkept : ∀ name permission,
        permission ∈ (restarted d restarts s).permissions name ↔ permission ∈ s.permissions name := by
      clear h
      induction restarts generalizing s with
      | nil => exact fun _ _ => Iff.rfl
      | cons restart restarts ih =>
        have hone : ∀ name permission,
            permission ∈ (Restart.execute d s restart).permissions name ↔ permission ∈ s.permissions name := by
          intro name permission
          cases restart with
          | lifespan =>
            rw [mem_permissions_lifespan]
            exact or_iff_left_of_imp hdefaults
          | bootstrap env =>
            exact ⟨fun hmem => (mem_permissions_bootstrap.1 hmem).elim id hdefaults, mem_permissions_bootstrap.2⟩
        intro name permission
        rw [← hone]
        exact ih (fun hmem => (hone _ _).mpr (hdefaults hmem)) name permission
    ext permission
    rw [mem_get_permissions_for_role, mem_get_permissions_for_role]
    exact hkept role.value permission

/-- What a table that was initialised once and then overridden grants survives every restart
exactly when no default permission was taken away for good. -/
theorem overrides_survive_iff (d : Deployment) (s : AccountStore) (overrides : List Override) :
    SurvivesRestarts d (overridden overrides (Restart.execute d s .lifespan)) ↔
      ∀ role, ∀ permission ∈ default_permissions_for role, last_verdict role permission overrides ≠ some false := by
  rw [survives_restarts_iff]
  refine forall_congr' fun role => forall_congr' fun permission => imp_congr_right fun hdefault => ?_
  have hinitial : permission ∈ (Restart.execute d s .lifespan).permissions role.value :=
    mem_permissions_lifespan.mpr (Or.inr (mem_default_grants_value.mpr hdefault))
  rw [mem_permissions_overridden]
  cases last_verdict role permission overrides with
  | none => simpa using hinitial
  | some verdict => simp

/-- Inspectors get back the check-in an administrator took from them. -/
theorem removed_default_returns : ¬ SurvivesRestarts (.small "") (overridden
    [.remove_permission .INSPECTOR .VISIT_CHECKIN] (Restart.execute (.small "") .empty .lifespan)) := by
  intro h
  have hmem := survives_restarts_iff.mp h .INSPECTOR .VISIT_CHECKIN (by decide)
  rw [mem_permissions_overridden] at hmem
  revert hmem
  simp [last_verdict, Override.verdict]

end sigis.accounts
