import Mathlib.Data.Set.Card
import Sigis.Accounts.Store

open relational transactional

namespace sigis.accounts

/-! `infrastructure/persistence/sqlalchemy/role_permission_repo.py`. -/

namespace RolePermissionRepositoryImpl

open Transaction (reads)

/-- `_get_all_rows`. -/
def get_all_rows (role : Role) (s : AccountStore) : List RolePermissionModel :=
  s.role_permissions.rows.filter fun row => row.role = role.value

/-- `_get_row`. -/
def get_row (role : Role) (permission : Permission) (s : AccountStore) : Option RolePermissionModel :=
  s.role_permissions.rows.find? fun row => row.role = role.value ∧ row.permission = permission.value

/-- A permission that is no longer in the catalogue is skipped. -/
def get_permissions_for_role (role : Role) (s : AccountStore) : Finset Permission :=
  ((get_all_rows role s).filterMap fun row => Permission.of_value row.permission).toFinset

def get_effective_permissions (roles : List Role) (s : AccountStore) : Finset Permission :=
  roles.foldl (fun result role => result ∪ get_permissions_for_role role s) ∅

def add_permission (role : Role) (permission : Permission) : Session Bool := do
  match ← reads fun s => .ok (get_row role permission s) with
  | some _ => return false
  | none =>
    emit [.add_role_permission ⟨role.value, permission.value⟩]
    return true

def remove_permission (role : Role) (permission : Permission) : Session Bool := do
  match ← reads fun s => .ok (get_row role permission s) with
  | none => return false
  | some existing =>
    emit [.delete_role_permission existing]
    return true

/-- The rows `set_permissions` deletes: those of a permission to remove, and those that are
no longer in the catalogue. -/
def deletes (to_remove : Finset Permission) (row : RolePermissionModel) : Bool :=
  match Permission.of_value row.permission with
  | some permission => permission ∈ to_remove
  | none => true

/-- The flush inserts before it deletes. -/
def set_permissions (role : Role) (permissions : Finset Permission) : Session Unit := do
  let current ← reads fun s => .ok (get_all_rows role s)
  let current_set := (current.filterMap fun row => Permission.of_value row.permission).toFinset
  let to_add := permissions \ current_set
  let to_remove := current_set \ permissions
  emit ((Permission.members.filter (· ∈ to_add)).map fun permission =>
    .add_role_permission ⟨role.value, permission.value⟩)
  emit ((current.filter (deletes to_remove)).map .delete_role_permission)

/-- What `seed_defaults` inserts for a role the dictionary has no key for, and for any other. -/
def given (defaults : String → Option (List String)) (role : Role) : List String :=
  (defaults role.value).getD (sorted_values (default_permissions_for role))

/-- One turn of the inner loop of `seed_defaults`. -/
def seed_permission (role : Role) (inserted : Nat) (perm_value : String) : Session Nat := do
  match ← reads fun s => .ok (s.role_permissions.rows.find? fun row =>
      row.role = role.value ∧ row.permission = perm_value) with
  | some _ => return inserted
  | none =>
    emit [.add_role_permission ⟨role.value, perm_value⟩]
    return inserted + 1

def seed_defaults (defaults : String → Option (List String)) : Session Nat :=
  Role.members.foldlM (fun inserted role => (given defaults role).foldlM (seed_permission role) inserted) 0

/-- One turn of the loop of `ensure_catalog_permissions_present`, after the values `present`
have been read. -/
def complete_permission (present : List String) (inserted : Nat) (perm : Permission) : Session Nat := do
  if perm.value ∈ present then
    return inserted
  else
    emit [.add_role_permission ⟨Role.SUPER_ADMIN.value, perm.value⟩]
    return inserted + 1

def ensure_catalog_permissions_present : Session Nat := do
  let present ← reads fun s => .ok (s.role_permissions.rows.map (·.permission))
  Permission.members.foldlM (complete_permission present) 0

end RolePermissionRepositoryImpl

open RolePermissionRepositoryImpl

variable {s t u : AccountStore} {role : Role} {permission : Permission}

/-- The row that gives a role a permission of the catalogue. -/
def grant (pair : String × Permission) : RolePermissionModel := ⟨pair.1, pair.2.value⟩

theorem grant_injective : Function.Injective grant := by
  rintro ⟨role, p⟩ ⟨role', q⟩ h
  simp only [grant, RolePermissionModel.mk.injEq, Permission.value_inj] at h
  rw [Prod.ext_iff]
  exact h

/-- The permissions of the catalogue that the rows give to a role. -/
def AccountStore.permissions (s : AccountStore) (role : String) : Set Permission :=
  {permission | grant (role, permission) ∈ s.role_permissions.rows}

/-- The texts outside of the catalogue that the rows give to a role. -/
def AccountStore.obsolete (s : AccountStore) (role : String) : Set String :=
  {text | Permission.of_value text = none ∧ ⟨role, text⟩ ∈ s.role_permissions.rows}

theorem AccountStore.mem_permissions {role : String} :
    permission ∈ s.permissions role ↔ grant (role, permission) ∈ s.role_permissions.rows := Iff.rfl

/-- What is read back for a role is what its rows grant. -/
theorem mem_get_permissions_for_role :
    permission ∈ get_permissions_for_role role s ↔ permission ∈ s.permissions role.value := by
  simp only [get_permissions_for_role, get_all_rows, List.mem_toFinset, List.mem_filterMap, List.mem_filter,
    decide_eq_true_eq, AccountStore.mem_permissions]
  constructor
  · rintro ⟨⟨name, text⟩, ⟨hmem, rfl⟩, hvalue⟩
    obtain rfl := Permission.value_of_value hvalue
    exact hmem
  · intro h
    exact ⟨_, ⟨h, rfl⟩, permission.of_value_value⟩

theorem coe_get_permissions_for_role : ↑(get_permissions_for_role role s) = s.permissions role.value :=
  Set.ext fun _ => mem_get_permissions_for_role

/-- The effective permissions are those of some of the roles. -/
theorem mem_get_effective_permissions {roles : List Role} :
    permission ∈ get_effective_permissions roles s ↔ ∃ role ∈ roles, permission ∈ s.permissions role.value := by
  have hfold (result : Finset Permission) :
      permission ∈ roles.foldl (fun result role => result ∪ get_permissions_for_role role s) result ↔
        permission ∈ result ∨ ∃ role ∈ roles, permission ∈ s.permissions role.value := by
    induction roles generalizing result with
    | nil => simp
    | cons role roles ih =>
      rw [List.foldl_cons, ih, Finset.mem_union, mem_get_permissions_for_role, List.exists_mem_cons_iff, or_assoc]
  rw [get_effective_permissions, hfold]
  simp

theorem get_row_eq_none_iff :
    get_row role permission s = none ↔ permission ∉ s.permissions role.value := by
  rw [AccountStore.mem_permissions, get_row, List.find?_eq_none]
  constructor
  · intro h hmem
    simpa [grant] using h _ hmem
  · rintro h ⟨name, text⟩ hmem hmatch
    obtain ⟨rfl, rfl⟩ := of_decide_eq_true hmatch
    exact h hmem

theorem get_row_eq_some_iff {row : RolePermissionModel} :
    get_row role permission s = some row ↔
      row = grant (role.value, permission) ∧ permission ∈ s.permissions role.value := by
  constructor
  · intro h
    obtain ⟨name, text⟩ := row
    obtain ⟨rfl, rfl⟩ : name = role.value ∧ text = permission.value := by simpa using List.find?_some h
    exact ⟨rfl, List.mem_of_find?_eq_some h⟩
  · rintro ⟨rfl, hmem⟩
    cases hfind : get_row role permission s with
    | none => exact absurd hmem (get_row_eq_none_iff.mp hfind)
    | some row =>
      obtain ⟨name, text⟩ := row
      obtain ⟨rfl, rfl⟩ : name = role.value ∧ text = permission.value := by simpa using List.find?_some hfind
      rfl

/-- The store `t` is `s` with new rows that grant the listed pairs. -/
structure Grants (added : List (String × Permission)) (s t : AccountStore) : Prop where
  rows : t.role_permissions.rows = s.role_permissions.rows ++ added.map grant
  users : t.users = s.users
  tokens : t.password_reset_tokens = s.password_reset_tokens

namespace Grants

variable {added more : List (String × Permission)}

theorem refl (s : AccountStore) : Grants [] s s := ⟨by simp, rfl, rfl⟩

theorem trans (h : Grants added s t) (hmore : Grants more t u) : Grants (added ++ more) s u :=
  ⟨by rw [hmore.rows, h.rows, List.map_append, List.append_assoc], hmore.users.trans h.users,
    hmore.tokens.trans h.tokens⟩

theorem eq_of_nil (h : Grants [] s t) : t = s := by
  have hrows : t.role_permissions = s.role_permissions := Table.ext (by simpa using h.rows)
  cases s
  cases t
  simp only [AccountStore.mk.injEq]
  exact ⟨h.users, h.tokens, hrows⟩

theorem mem_permissions (h : Grants added s t) {role : String} :
    permission ∈ t.permissions role ↔ permission ∈ s.permissions role ∨ (role, permission) ∈ added := by
  rw [AccountStore.mem_permissions, AccountStore.mem_permissions, h.rows, List.mem_append,
    List.mem_map_of_injective grant_injective]

theorem obsolete (h : Grants added s t) (role : String) : t.obsolete role = s.obsolete role := by
  ext text
  simp only [AccountStore.obsolete, Set.mem_ofPred_eq, h.rows, List.mem_append, List.mem_map]
  refine and_congr_right fun hnone => or_iff_left ?_
  rintro ⟨⟨_, p⟩, -, heq⟩
  cases heq
  rw [Permission.of_value_value] at hnone
  cases hnone

/-- The pairs are new, and each is added once. -/
theorem nodup (h : Grants added s t) : added.Nodup := by
  have hdistinct := t.role_permissions.distinct
  rw [h.rows, List.pairwise_append, List.pairwise_map] at hdistinct
  refine hdistinct.2.1.imp ?_
  rintro a _ hab rfl
  exact hab (clash_role_permission_iff.mpr rfl)

theorem not_mem (h : Grants added s t) {pair : String × Permission} (hpair : pair ∈ added) :
    pair.2 ∉ s.permissions pair.1 := by
  have hdistinct := t.role_permissions.distinct
  rw [h.rows, List.pairwise_append] at hdistinct
  intro hmem
  exact hdistinct.2.2 _ hmem _ (List.mem_map_of_mem hpair) (clash_role_permission_iff.mpr rfl)

/-- The number of pairs added is the number of pairs that are granted now and were not. -/
theorem ncard_eq (h : Grants added s t) :
    {pair : String × Permission | pair.2 ∈ t.permissions pair.1 ∧ pair.2 ∉ s.permissions pair.1}.ncard =
      added.length := by
  have hset : {pair : String × Permission | pair.2 ∈ t.permissions pair.1 ∧ pair.2 ∉ s.permissions pair.1} =
      ↑added.toFinset := by
    ext pair
    rw [Set.mem_ofPred_eq, h.mem_permissions, List.coe_toFinset, Set.mem_ofPred_eq]
    constructor
    · rintro ⟨hold | hnew, hnot⟩
      · exact absurd hold hnot
      · exact hnew
    · exact fun hpair => ⟨Or.inr hpair, h.not_mem hpair⟩
  rw [hset, Set.ncard_coe_finset, List.toFinset_card_of_nodup h.nodup]

end Grants

/-- A row that is not stored yet is inserted. -/
theorem emit_grant (pair : String × Permission) (h : pair.2 ∉ s.permissions pair.1) :
    ∃ t, emit [.add_role_permission (grant pair)] s = .ok ((), t) ∧ Grants [pair] s t := by
  have hfree : ∀ a ∈ s.role_permissions.rows, ¬ clash a (grant pair) := by
    rintro a ha hclash
    obtain rfl := clash_role_permission_iff.mp hclash
    exact h ha
  obtain ⟨rows, hrows⟩ := Table.exists_insert hfree
  refine ⟨{ s with role_permissions := rows }, ?_, Table.rows_insert hrows, rfl, rfl⟩
  rw [emit_eq_ok_iff, AccountStore.commit_singleton, apply_add_role_permission]
  exact ⟨rows, hrows, rfl⟩

end sigis.accounts
