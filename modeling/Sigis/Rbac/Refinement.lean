import Sigis.Api.Deps
import Sigis.Lib.Execution
import Sigis.Rbac.Calls

open relational transactional transition

namespace sigis.accounts

open RolePermissionRepositoryImpl
open Transaction (pure_eq_ok_iff)

/-- What the table of role permissions is for: the permissions of each role. The texts its
rows hold from outside of the catalogue are kept apart. -/
structure Acl where
  permissions : String → Set Permission
  obsolete : String → Set String

def AccountStore.acl (s : AccountStore) : Acl := ⟨s.permissions, s.obsolete⟩

/-- The permissions one list has and another one had not. -/
def Acl.gained (before after : Acl) : Set (String × Permission) :=
  {pair | pair.2 ∈ after.permissions pair.1 ∧ pair.2 ∉ before.permissions pair.1}

/-- The calls that write role permissions. -/
inductive RbacCall
  | add_permission (role : Role) (permission : Permission)
  | remove_permission (role : Role) (permission : Permission)
  | set_permissions (role : Role) (permissions : Finset Permission)
  | seed_defaults (defaults : String → Option (List String))
  | ensure_catalog_permissions_present

inductive RbacAnswer
  | changed (result : Bool)
  | inserted (count : Nat)
  | none

def RbacCall.run : RbacCall → Session RbacAnswer
  | .add_permission role permission => do
    return .changed (← RolePermissionRepositoryImpl.add_permission role permission)
  | .remove_permission role permission => do
    return .changed (← RolePermissionRepositoryImpl.remove_permission role permission)
  | .set_permissions role permissions => do
    RolePermissionRepositoryImpl.set_permissions role permissions
    return .none
  | .seed_defaults defaults => do
    return .inserted (← RolePermissionRepositoryImpl.seed_defaults defaults)
  | .ensure_catalog_permissions_present => do
    return .inserted (← RolePermissionRepositoryImpl.ensure_catalog_permissions_present)

/-- A dictionary of defaults holds permissions of the catalogue. -/
def RbacCall.Valid : RbacCall → Prop
  | .seed_defaults defaults => ValidDefaults defaults
  | _ => True

/-- The list with the permissions of one role replaced. -/
def Acl.assign (acl : Acl) (role : Role) (permissions : Set Permission) : Acl :=
  { acl with permissions := Function.update acl.permissions role.value permissions }

/-- What a call means for the access control list, and what it has to answer. -/
def RbacCall.Means (before after : Acl) : RbacCall → RbacAnswer → Prop
  | .add_permission role permission, .changed result =>
    (result = true ↔ permission ∉ before.permissions role.value) ∧
      after = before.assign role (insert permission (before.permissions role.value))
  | .remove_permission role permission, .changed result =>
    (result = true ↔ permission ∈ before.permissions role.value) ∧
      after = before.assign role (before.permissions role.value \ {permission})
  | .set_permissions role permissions, .none =>
    after = { before.assign role ↑permissions with obsolete := Function.update before.obsolete role.value ∅ }
  | .seed_defaults defaults, .inserted count =>
    count = (before.gained after).ncard ∧
      after = { before with permissions := fun name => before.permissions name ∪
        {permission | ∃ role : Role, role.value = name ∧ permission.value ∈ given defaults role} }
  | .ensure_catalog_permissions_present, .inserted count =>
    count = (before.gained after).ncard ∧
      after = before.assign .SUPER_ADMIN (before.permissions Role.SUPER_ADMIN.value ∪
        {permission | ∀ name, permission ∉ before.permissions name})
  | _, _ => False

variable {s t : AccountStore} {role : Role} {permission : Permission} {added : List (String × Permission)}

theorem Acl.ext {a b : Acl} (hpermissions : ∀ name, a.permissions name = b.permissions name)
    (hobsolete : ∀ name, a.obsolete name = b.obsolete name) : a = b := by
  cases a
  cases b
  simp only [Acl.mk.injEq]
  exact ⟨funext hpermissions, funext hobsolete⟩

theorem Acl.assign_permissions_self (acl : Acl) (role : Role) (permissions : Set Permission) :
    (acl.assign role permissions).permissions role.value = permissions :=
  Function.update_self ..

theorem Acl.assign_permissions_of_ne {name : String} (h : name ≠ role.value) (acl : Acl)
    (permissions : Set Permission) : (acl.assign role permissions).permissions name = acl.permissions name :=
  Function.update_of_ne h ..

/-- What a role has in a list in which another one, or itself, was assigned permissions. -/
theorem Acl.mem_assign {other : Role} {acl : Acl} {permissions : Set Permission} :
    permission ∈ (acl.assign other permissions).permissions role.value ↔
      if other = role then permission ∈ permissions else permission ∈ acl.permissions role.value := by
  by_cases hrole : other = role
  · rw [if_pos hrole, hrole, assign_permissions_self]
  · rw [if_neg hrole, assign_permissions_of_ne fun hvalue => hrole (Role.value_inj.mp hvalue).symm]

theorem Acl.assign_self (acl : Acl) (role : Role) : acl.assign role (acl.permissions role.value) = acl := by
  rw [assign, Function.update_eq_self]

theorem Grants.gained (h : Grants added s t) : added.length = (s.acl.gained t.acl).ncard :=
  h.ncard_eq.symm

/-- Adding the pairs that are wanted and missing means the union with those wanted. -/
theorem Seeds.acl {wanted : String × Permission → Prop} (h : Seeds wanted added s t) :
    t.acl = { s.acl with permissions := fun name => s.permissions name ∪ {p | wanted (name, p)} } := by
  refine Acl.ext ?_ h.obsolete
  intro name
  ext p
  rw [Set.mem_union, Set.mem_ofPred_eq]
  constructor
  · intro hp
    rcases h.mem_permissions.mp hp with hold | hnew
    · exact Or.inl hold
    · exact Or.inr (h.only _ hnew)
  · rintro (hold | hwanted)
    · exact h.mem_permissions.mpr (Or.inl hold)
    · exact h.all _ hwanted

/-- The list of rows that were deleted for one role, or kept, and added for it. -/
theorem Regrants.acl {keeps : RolePermissionModel → Prop} {added : List RolePermissionModel}
    (role : Role) (h : Regrants keeps added s t)
    (hother : ∀ row : RolePermissionModel, row.role ≠ role.value → keeps row)
    (hadded : ∀ row ∈ added, row.role = role.value) :
    t.acl = { s.acl.assign role (t.permissions role.value) with
      obsolete := Function.update s.obsolete role.value (t.obsolete role.value) } := by
  have hsame (row : RolePermissionModel) (hne : row.role ≠ role.value) :
      row ∈ t.role_permissions.rows ↔ row ∈ s.role_permissions.rows := by
    rw [h.mem_iff]
    constructor
    · rintro (⟨hrow, -⟩ | hrow)
      · exact hrow
      · exact absurd (hadded row hrow) hne
    · exact fun hrow => Or.inl ⟨hrow, hother row hne⟩
  refine Acl.ext ?_ ?_
  · intro name
    by_cases hname : name = role.value
    · rw [hname]
      exact (s.acl.assign_permissions_self role _).symm
    · refine Eq.trans ?_ (s.acl.assign_permissions_of_ne hname _).symm
      exact Set.ext fun p => hsame (grant (name, p)) hname
  · intro name
    by_cases hname : name = role.value
    · subst hname
      exact (Function.update_self role.value (t.obsolete role.value) s.obsolete).symm
    · refine Eq.trans ?_ (Function.update_of_ne hname (t.obsolete role.value) s.obsolete).symm
      exact Set.ext fun text => and_congr_right fun _ => hsame ⟨name, text⟩ hname

theorem refines_add_permission (role : Role) (permission : Permission) (s : AccountStore) :
    ∃ answer t, (RbacCall.add_permission role permission).run s = .ok (answer, t) ∧
      (RbacCall.add_permission role permission).Means s.acl t.acl answer := by
  by_cases h : permission ∈ s.permissions role.value
  · refine ⟨.changed false, s, ?_, by simpa [AccountStore.acl] using h, ?_⟩
    · exact Transaction.bind_eq_ok_iff.mpr ⟨_, s, add_permission_of_mem h, pure_eq_ok_iff.mpr ⟨rfl, rfl⟩⟩
    · have hinsert : insert permission (s.acl.permissions role.value) = s.acl.permissions role.value :=
        Set.insert_eq_of_mem h
      rw [hinsert, Acl.assign_self]
  · obtain ⟨t, hok, hgrants⟩ := add_permission_of_not_mem h
    refine ⟨.changed true, t, ?_, by simpa [AccountStore.acl] using h, ?_⟩
    · exact Transaction.bind_eq_ok_iff.mpr ⟨_, t, hok, pure_eq_ok_iff.mpr ⟨rfl, rfl⟩⟩
    · refine Acl.ext ?_ hgrants.obsolete
      intro name
      ext p
      refine hgrants.mem_permissions.trans ?_
      rw [List.mem_singleton, Prod.mk.injEq]
      by_cases hname : name = role.value
      · rw [hname, Acl.assign_permissions_self, Set.mem_insert_iff, or_comm, and_iff_right rfl]
        rfl
      · rw [Acl.assign_permissions_of_ne hname, or_iff_left fun h => hname h.1]
        rfl

theorem refines_remove_permission (role : Role) (permission : Permission) (s : AccountStore) :
    ∃ answer t, (RbacCall.remove_permission role permission).run s = .ok (answer, t) ∧
      (RbacCall.remove_permission role permission).Means s.acl t.acl answer := by
  by_cases h : permission ∈ s.permissions role.value
  · obtain ⟨t, hok, hregrants⟩ := remove_permission_of_mem h
    refine ⟨.changed true, t, ?_, by simpa [AccountStore.acl] using h, ?_⟩
    · exact Transaction.bind_eq_ok_iff.mpr ⟨_, t, hok, pure_eq_ok_iff.mpr ⟨rfl, rfl⟩⟩
    · rw [hregrants.acl role (fun row hne heq => hne (heq ▸ rfl)) (by simp)]
      have hpermissions : t.permissions role.value = s.permissions role.value \ {permission} := by
        ext p
        rw [AccountStore.mem_permissions, hregrants.mem_iff, Set.mem_sdiff, Set.mem_singleton_iff,
          AccountStore.mem_permissions]
        simp [grant]
      have hobsolete : t.obsolete role.value = s.obsolete role.value := by
        ext text
        refine and_congr_right fun hnone => ?_
        rw [hregrants.mem_iff]
        constructor
        · rintro (⟨hrow, -⟩ | hrow)
          · exact hrow
          · cases hrow
        · intro hrow
          refine Or.inl ⟨hrow, ?_⟩
          rintro heq
          cases heq
          rw [Permission.of_value_value] at hnone
          cases hnone
      rw [hpermissions, hobsolete, Function.update_eq_self]
      rfl
  · refine ⟨.changed false, s, ?_, by simpa [AccountStore.acl] using h, ?_⟩
    · exact Transaction.bind_eq_ok_iff.mpr ⟨_, s, remove_permission_of_not_mem h, pure_eq_ok_iff.mpr ⟨rfl, rfl⟩⟩
    · have hsdiff : s.acl.permissions role.value \ {permission} = s.acl.permissions role.value :=
        Set.sdiff_singleton_eq_self h
      rw [hsdiff, Acl.assign_self]

/-- The permissions a role has after they were set, and no row from outside of the catalogue. -/
theorem set_permissions_acl (role : Role) (permissions : Finset Permission) (s : AccountStore) :
    ∃ t, set_permissions role permissions s = .ok ((), t) ∧
      t.acl = { s.acl.assign role ↑permissions with obsolete := Function.update s.obsolete role.value ∅ } := by
  obtain ⟨t, hok, hregrants⟩ := set_permissions_spec role permissions s
  refine ⟨t, hok, ?_⟩
  rw [hregrants.acl role (fun _ hne => hne) (by
    intro row hrow
    obtain ⟨p, -, rfl⟩ := List.mem_map.mp hrow
    rfl)]
  have hrow {text : String} : (⟨role.value, text⟩ : RolePermissionModel) ∈ t.role_permissions.rows ↔
      ∃ p ∈ permissions, grant (role.value, p) = ⟨role.value, text⟩ := by
    rw [hregrants.mem_iff]
    simp [Permission.mem_members]
  have hpermissions : t.permissions role.value = ↑permissions := by
    ext p
    rw [AccountStore.mem_permissions, grant, hrow]
    simp [grant]
  have hobsolete : t.obsolete role.value = ∅ := by
    refine Set.eq_empty_of_forall_notMem ?_
    rintro text ⟨hnone, hmem⟩
    obtain ⟨p, -, heq⟩ := hrow.mp hmem
    cases heq
    rw [Permission.of_value_value] at hnone
    cases hnone
  rw [hpermissions, hobsolete]

/-- Every valid call returns, and does to the rows what it means for the list. -/
theorem RbacCall.refines (call : RbacCall) (hvalid : call.Valid) (s : AccountStore) :
    ∃ answer t, call.run s = .ok (answer, t) ∧ call.Means s.acl t.acl answer := by
  cases call with
  | add_permission role permission => exact refines_add_permission role permission s
  | remove_permission role permission => exact refines_remove_permission role permission s
  | set_permissions role permissions =>
    obtain ⟨t, hok, hacl⟩ := set_permissions_acl role permissions s
    exact ⟨.none, t, Transaction.bind_eq_ok_iff.mpr ⟨(), t, hok, pure_eq_ok_iff.mpr ⟨rfl, rfl⟩⟩, hacl⟩
  | seed_defaults defaults =>
    obtain ⟨added, t, hok, hseeds⟩ := seed_defaults_spec hvalid s
    exact ⟨.inserted added.length, t, Transaction.bind_eq_ok_iff.mpr ⟨_, t, hok, pure_eq_ok_iff.mpr ⟨rfl, rfl⟩⟩,
      hseeds.gained, hseeds.acl⟩
  | ensure_catalog_permissions_present =>
    obtain ⟨added, t, hok, hseeds⟩ := ensure_catalog_permissions_present_spec s
    refine ⟨.inserted added.length, t,
      Transaction.bind_eq_ok_iff.mpr ⟨_, t, hok, pure_eq_ok_iff.mpr ⟨rfl, rfl⟩⟩, hseeds.gained, ?_⟩
    rw [hseeds.acl]
    refine Acl.ext ?_ fun _ => rfl
    intro name
    by_cases hname : name = Role.SUPER_ADMIN.value
    · rw [hname, Acl.assign_permissions_self]
      simp [AccountStore.acl]
    · rw [Acl.assign_permissions_of_ne hname]
      simp [AccountStore.acl, hname]

/-- The rows hold the list: each pair once, and what is read is what the list has. -/
structure Represents (s : AccountStore) (acl : Acl) : Prop where
  nodup : (s.role_permissions.rows.map fun row => (row.role, row.permission)).Nodup
  get_permissions_for_role : ∀ role, ↑(get_permissions_for_role role s) = acl.permissions role.value
  get_effective_permissions : ∀ roles, (↑(get_effective_permissions roles s) : Set Permission) =
    ⋃ role ∈ roles, acl.permissions role.value
  require_permission : ∀ (d : Deployment) now credentials role required, BearsRole d now credentials role →
    (require_permission d now required credentials s = .ok () ↔ required ∈ acl.permissions role.value)

theorem AccountStore.represents (s : AccountStore) : Represents s s.acl where
  nodup := by
    rw [List.nodup_iff_pairwise_ne, List.pairwise_map]
    refine s.role_permissions.distinct.imp ?_
    intro a b hapart heq
    exact hapart (clash_of_key heq)
  get_permissions_for_role _ := coe_get_permissions_for_role
  get_effective_permissions roles := by
    ext permission
    rw [Finset.mem_coe, mem_get_effective_permissions]
    simp [AccountStore.acl]
  require_permission _ _ _ _ _ hbears := require_permission_eq_ok_iff hbears

/-- One call on the table, what it means for the list, and the list that is read after it. -/
structure RbacStep (s : AccountStore) (label : RbacCall × RbacAnswer) (t : AccountStore) : Prop where
  run : label.1.run s = .ok (label.2, t)
  means : label.1.Means s.acl t.acl label.2
  represents : Represents t t.acl

/-- The table of role permissions refines the access control list: every sequence of valid
calls returns, and each of them does and answers what the list asks for. -/
theorem role_permissions_refine {calls : List RbacCall} (hvalid : ∀ call ∈ calls, call.Valid) (s : AccountStore) :
    ∃ answers t, answers.length = calls.length ∧ Execution RbacStep s (calls.zip answers) t := by
  refine Execution.exists_run ?_ s
  intro call hcall s
  obtain ⟨answer, t, hrun, hmeans⟩ := call.refines (hvalid call hcall) s
  exact ⟨answer, t, hrun, hmeans, t.represents⟩

/-- A permission is given and taken away between a seeding with a repeated value and the
completion of the catalogue. -/
theorem role_permissions_refine_seeded :
    ∃ answers t, answers.length = 4 ∧ Execution RbacStep .empty
      (List.zip [.seed_defaults fun _ => some ["MISSION_READ", "MISSION_READ"], .add_permission .HOST .REPORT_READ,
        .remove_permission .HOST .MISSION_READ, .ensure_catalog_permissions_present] answers) t := by
  refine @role_permissions_refine [.seed_defaults _, .add_permission _ _, .remove_permission _ _,
    .ensure_catalog_permissions_present] ?_ .empty
  simp only [List.mem_cons, List.not_mem_nil, or_false, forall_eq_or_imp, forall_eq]
  refine ⟨?_, trivial, trivial, trivial⟩
  intro role values hvalues value hvalue
  cases hvalues
  exact ⟨.MISSION_READ, by simpa [Permission.value, eq_comm] using hvalue⟩

end sigis.accounts
