import Sigis.Rbac.Repository

open relational transactional

namespace sigis.accounts

open RolePermissionRepositoryImpl
open Transaction (reads_eq_ok_iff pure_eq_ok_iff)

variable {s t : AccountStore} {role : Role} {permission : Permission}

/-- A permission the role already has is not added again. -/
theorem add_permission_of_mem (h : permission ∈ s.permissions role.value) :
    add_permission role permission s = .ok (false, s) := by
  simp only [add_permission, Transaction.bind_eq_ok_iff, reads_eq_ok_iff]
  exact ⟨_, s, ⟨congrArg Except.ok (get_row_eq_some_iff.mpr ⟨rfl, h⟩), rfl⟩, pure_eq_ok_iff.mpr ⟨rfl, rfl⟩⟩

theorem add_permission_of_not_mem (h : permission ∉ s.permissions role.value) :
    ∃ t, add_permission role permission s = .ok (true, t) ∧ Grants [(role.value, permission)] s t := by
  obtain ⟨t, hemit, hgrants⟩ := emit_grant (role.value, permission) h
  refine ⟨t, ?_, hgrants⟩
  simp only [add_permission, Transaction.bind_eq_ok_iff, reads_eq_ok_iff]
  exact ⟨_, s, ⟨congrArg Except.ok (get_row_eq_none_iff.mpr h), rfl⟩,
    Transaction.bind_eq_ok_iff.mpr ⟨(), t, hemit, pure_eq_ok_iff.mpr ⟨rfl, rfl⟩⟩⟩

theorem remove_permission_of_not_mem (h : permission ∉ s.permissions role.value) :
    remove_permission role permission s = .ok (false, s) := by
  simp only [remove_permission, Transaction.bind_eq_ok_iff, reads_eq_ok_iff]
  exact ⟨_, s, ⟨congrArg Except.ok (get_row_eq_none_iff.mpr h), rfl⟩, pure_eq_ok_iff.mpr ⟨rfl, rfl⟩⟩

/-- The rows of the store `t` are those of `s` that `keeps` selects, with those of `added`. -/
structure Regrants (keeps : RolePermissionModel → Prop) (added : List RolePermissionModel)
    (s t : AccountStore) : Prop where
  mem_iff : ∀ row, row ∈ t.role_permissions.rows ↔ (row ∈ s.role_permissions.rows ∧ keeps row) ∨ row ∈ added
  users : t.users = s.users
  tokens : t.password_reset_tokens = s.password_reset_tokens

/-- Rows deleted one after the other are deleted together. -/
theorem commit_deletes (rows : List RolePermissionModel) (s : AccountStore) :
    ∃ t, s.commit (rows.map .delete_role_permission) = some t ∧ Regrants (· ∉ rows) [] s t := by
  induction rows generalizing s with
  | nil => exact ⟨s, rfl, by simp, rfl, rfl⟩
  | cons row rows ih =>
    obtain ⟨t, hcommit, h⟩ := ih { s with role_permissions := s.role_permissions.delete fun r => r = row }
    refine ⟨t, ?_, ?_, h.users, h.tokens⟩
    · rw [List.map_cons, AccountStore.commit_cons]
      exact hcommit
    · intro r
      rw [h.mem_iff, Table.mem_delete_iff]
      simp only [decide_eq_false_iff_not, List.mem_cons, not_or, and_assoc]

theorem remove_permission_of_mem (h : permission ∈ s.permissions role.value) :
    ∃ t, remove_permission role permission s = .ok (true, t) ∧
      Regrants (· ≠ grant (role.value, permission)) [] s t := by
  obtain ⟨t, hcommit, hregrants⟩ := commit_deletes [grant (role.value, permission)] s
  refine ⟨t, ?_, ?_, hregrants.users, hregrants.tokens⟩
  · simp only [remove_permission, Transaction.bind_eq_ok_iff, reads_eq_ok_iff]
    exact ⟨_, s, ⟨congrArg Except.ok (get_row_eq_some_iff.mpr ⟨rfl, h⟩), rfl⟩,
      Transaction.bind_eq_ok_iff.mpr ⟨(), t, emit_eq_ok_iff.mpr hcommit, pure_eq_ok_iff.mpr ⟨rfl, rfl⟩⟩⟩
  · simpa using hregrants.mem_iff

/-- New pairs, each given once, are inserted together. -/
theorem commit_grants (pairs : List (String × Permission)) (hnodup : pairs.Nodup)
    (hnew : ∀ pair ∈ pairs, pair.2 ∉ s.permissions pair.1) :
    ∃ t, s.commit (pairs.map fun pair => .add_role_permission (grant pair)) = some t ∧ Grants pairs s t := by
  induction pairs generalizing s with
  | nil => exact ⟨s, rfl, .refl s⟩
  | cons pair pairs ih =>
    rw [List.nodup_cons] at hnodup
    obtain ⟨u, hemit, hfirst⟩ := emit_grant pair (hnew pair List.mem_cons_self)
    rw [emit_eq_ok_iff, AccountStore.commit_singleton] at hemit
    have hrest : ∀ q ∈ pairs, q.2 ∉ u.permissions q.1 := by
      intro q hq hmem
      rcases hfirst.mem_permissions.mp hmem with hold | hsame
      · exact hnew q (List.mem_cons_of_mem pair hq) hold
      · rw [List.mem_singleton] at hsame
        exact hnodup.1 (hsame ▸ hq)
    obtain ⟨t, hcommit, hmore⟩ := ih hnodup.2 hrest
    refine ⟨t, ?_, hfirst.trans hmore⟩
    rw [List.map_cons, AccountStore.commit_cons, hemit]
    exact hcommit

/-- A row of the role stays when it grants a permission that is kept. -/
theorem notMem_deletes_iff {role : Role} {current_set permissions : Finset Permission} {name text : String} :
    (⟨name, text⟩ : RolePermissionModel) ∉ (get_all_rows role s).filter (deletes (current_set \ permissions)) ↔
      ((⟨name, text⟩ : RolePermissionModel) ∈ s.role_permissions.rows → name = role.value →
        ∃ p, Permission.of_value text = some p ∧ (p ∈ current_set → p ∈ permissions)) := by
  simp only [get_all_rows, List.mem_filter, decide_eq_true_eq, not_and, deletes, Bool.not_eq_true, and_imp]
  refine imp_congr_right fun _ => imp_congr_right fun _ => ?_
  cases Permission.of_value text <;> simp

/-- The rows of the role are replaced by one row for each permission; no other row changes. -/
theorem set_permissions_spec (role : Role) (permissions : Finset Permission) (s : AccountStore) :
    ∃ t, set_permissions role permissions s = .ok ((), t) ∧
      Regrants (·.role ≠ role.value)
        ((Permission.members.filter (· ∈ permissions)).map fun p => grant (role.value, p)) s t := by
  obtain ⟨current_set, hcurrent⟩ : ∃ current_set, current_set =
      ((get_all_rows role s).filterMap fun row => Permission.of_value row.permission).toFinset := ⟨_, rfl⟩
  have hmem (p : Permission) : p ∈ current_set ↔ p ∈ s.permissions role.value := by
    rw [hcurrent]
    exact mem_get_permissions_for_role
  obtain ⟨u, hadd, hgrants⟩ := commit_grants
    ((Permission.members.filter (· ∈ permissions \ current_set)).map (Prod.mk role.value))
    ((List.Nodup.filter _ (by decide)).map (Prod.mk_right_injective role.value)) (by
      intro pair hpair
      obtain ⟨p, hp, rfl⟩ := List.mem_map.mp hpair
      simp only [List.mem_filter, Finset.mem_sdiff, decide_eq_true_eq, hmem] at hp
      exact hp.2.2)
  obtain ⟨t, hdelete, hregrants⟩ := commit_deletes
    ((get_all_rows role s).filter (deletes (current_set \ permissions))) u
  refine ⟨t, ?_, ?_, hregrants.users.trans hgrants.users, hregrants.tokens.trans hgrants.tokens⟩
  · simp only [set_permissions, Transaction.bind_eq_ok_iff, reads_eq_ok_iff]
    refine ⟨_, s, ⟨rfl, rfl⟩, (), u, ?_, ?_⟩
    · rw [List.map_map] at hadd
      rw [emit_eq_ok_iff, ← hcurrent]
      exact hadd
    · rw [emit_eq_ok_iff, ← hcurrent]
      exact hdelete
  · rintro ⟨name, text⟩
    rw [hregrants.mem_iff, hgrants.rows, notMem_deletes_iff]
    simp only [List.mem_append, List.mem_map, List.mem_filter, Finset.mem_sdiff, decide_eq_true_eq, hmem,
      List.not_mem_nil, or_false, Permission.mem_members, true_and]
    constructor
    · rintro ⟨hold | ⟨_, ⟨p, ⟨hp, -⟩, rfl⟩, heq⟩, hkeep⟩
      · by_cases hname : name = role.value
        · obtain ⟨p, hvalue, himp⟩ := hkeep hold hname
          obtain rfl := Permission.value_of_value hvalue
          exact Or.inr ⟨p, himp (hname ▸ hold), by rw [hname]; rfl⟩
        · exact Or.inl ⟨hold, hname⟩
      · exact Or.inr ⟨p, hp, heq⟩
    · rintro (⟨hold, hname⟩ | ⟨p, hp, heq⟩)
      · exact ⟨Or.inl hold, fun _ hsame => absurd hsame hname⟩
      · cases heq
        by_cases hheld : p ∈ s.permissions role.value
        · exact ⟨Or.inl hheld, fun _ _ => ⟨p, p.of_value_value, fun _ => hp⟩⟩
        · exact ⟨Or.inr ⟨(role.value, p), ⟨p, ⟨hp, hheld⟩, rfl⟩, rfl⟩, fun hold => absurd hold hheld⟩

/-- One turn of the seeding adds the pair unless it is granted already. -/
theorem seed_permission_spec (role : Role) (permission : Permission) (n : Nat) (s : AccountStore) :
    ∃ added t, seed_permission role n permission.value s = .ok (n + added.length, t) ∧ Grants added s t ∧
      (∀ pair ∈ added, pair = (role.value, permission)) ∧ permission ∈ t.permissions role.value := by
  by_cases h : permission ∈ s.permissions role.value
  · refine ⟨[], s, ?_, .refl s, by simp, h⟩
    simp only [seed_permission, Transaction.bind_eq_ok_iff, reads_eq_ok_iff]
    exact ⟨_, s, ⟨congrArg Except.ok (get_row_eq_some_iff.mpr ⟨rfl, h⟩), rfl⟩, pure_eq_ok_iff.mpr ⟨rfl, rfl⟩⟩
  · obtain ⟨t, hemit, hgrants⟩ := emit_grant (role.value, permission) h
    refine ⟨_, t, ?_, hgrants, by simp, hgrants.mem_permissions.mpr (Or.inr (by simp))⟩
    simp only [seed_permission, Transaction.bind_eq_ok_iff, reads_eq_ok_iff]
    exact ⟨_, s, ⟨congrArg Except.ok (get_row_eq_none_iff.mpr h), rfl⟩,
      Transaction.bind_eq_ok_iff.mpr ⟨(), t, hemit, pure_eq_ok_iff.mpr ⟨rfl, rfl⟩⟩⟩

/-- The pairs seeding adds: those of `wanted` that are not granted yet. -/
structure Seeds (wanted : String × Permission → Prop) (added : List (String × Permission)) (s t : AccountStore) :
    Prop extends Grants added s t where
  only : ∀ pair ∈ added, wanted pair
  all : ∀ pair, wanted pair → pair.2 ∈ t.permissions pair.1

/-- A loop whose turns each add what is missing of some pairs, and count it, adds what is
missing of all of them. -/
theorem foldlM_seeds {α : Type} (wanted : α → String × Permission → Prop) (turn : Nat → α → Session Nat)
    (items : List α) (hturn : ∀ item ∈ items, ∀ n s, ∃ added t, turn n item s = .ok (n + added.length, t) ∧
      Seeds (wanted item) added s t) (n : Nat) (s : AccountStore) :
    ∃ added t, items.foldlM turn n s = .ok (n + added.length, t) ∧
      Seeds (fun pair => ∃ item ∈ items, wanted item pair) added s t := by
  induction items generalizing n s with
  | nil => exact ⟨[], s, rfl, .refl s, by simp, by simp⟩
  | cons item items ih =>
    obtain ⟨first, u, hfirst, hseeds⟩ := hturn item List.mem_cons_self n s
    obtain ⟨rest, t, hrest, hmore⟩ := ih (fun i hi => hturn i (List.mem_cons_of_mem item hi))
      (n + first.length) u
    refine ⟨first ++ rest, t, ?_, hseeds.toGrants.trans hmore.toGrants, ?_, ?_⟩
    · rw [List.foldlM_cons, List.length_append, ← Nat.add_assoc]
      exact Transaction.bind_eq_ok_iff.mpr ⟨_, u, hfirst, hrest⟩
    · intro pair hpair
      rcases List.mem_append.mp hpair with hpair | hpair
      · exact ⟨item, List.mem_cons_self, hseeds.only pair hpair⟩
      · obtain ⟨i, hi, hwanted⟩ := hmore.only pair hpair
        exact ⟨i, List.mem_cons_of_mem item hi, hwanted⟩
    · rintro pair ⟨i, hi, hwanted⟩
      rcases List.mem_cons.mp hi with rfl | hi
      · exact hmore.mem_permissions.mpr (Or.inl (hseeds.all pair hwanted))
      · exact hmore.all pair ⟨i, hi, hwanted⟩

/-- The dictionary holds permissions of the catalogue only. -/
def ValidDefaults (defaults : String → Option (List String)) : Prop :=
  ∀ role values, defaults role = some values → ∀ value ∈ values, ∃ permission : Permission, permission.value = value

theorem ValidDefaults.given {defaults : String → Option (List String)} (h : ValidDefaults defaults)
    {value : String} (hvalue : value ∈ given defaults role) : ∃ permission : Permission, permission.value = value := by
  unfold RolePermissionRepositoryImpl.given at hvalue
  cases hget : defaults role.value with
  | none =>
    rw [hget, Option.getD_none] at hvalue
    obtain ⟨permission, -, rfl⟩ := mem_sorted_values.mp hvalue
    exact ⟨permission, rfl⟩
  | some values =>
    rw [hget, Option.getD_some] at hvalue
    exact h role.value values hget value hvalue

/-- Seeding adds to each role what is missing of the permissions it is given. -/
theorem seed_defaults_spec {defaults : String → Option (List String)} (hvalid : ValidDefaults defaults)
    (s : AccountStore) :
    ∃ added t, seed_defaults defaults s = .ok (added.length, t) ∧
      Seeds (fun pair => ∃ role : Role, role.value = pair.1 ∧ pair.2.value ∈ given defaults role) added s t := by
  have hinner (role : Role) (n : Nat) (s : AccountStore) :
      ∃ added t, (given defaults role).foldlM (seed_permission role) n s = .ok (n + added.length, t) ∧
        Seeds (fun pair => role.value = pair.1 ∧ pair.2.value ∈ given defaults role) added s t := by
    obtain ⟨added, t, hok, hseeds⟩ := foldlM_seeds
      (fun value pair => role.value = pair.1 ∧ pair.2.value = value) (seed_permission role) (given defaults role) (by
        intro value hvalue n s
        obtain ⟨permission, rfl⟩ := hvalid.given hvalue
        obtain ⟨added, t, hok, hgrants, honly, hall⟩ := seed_permission_spec role permission n s
        refine ⟨added, t, hok, hgrants, ?_, ?_⟩
        · intro pair hpair
          rw [honly pair hpair]
          exact ⟨rfl, rfl⟩
        · rintro ⟨name, p⟩ ⟨rfl, hp⟩
          rw [Permission.value_inj] at hp
          exact hp ▸ hall) n s
    refine ⟨added, t, hok, hseeds.toGrants, ?_, ?_⟩
    · intro pair hpair
      obtain ⟨value, hvalue, hname, rfl⟩ := hseeds.only pair hpair
      exact ⟨hname, hvalue⟩
    · rintro pair ⟨hname, hvalue⟩
      exact hseeds.all pair ⟨_, hvalue, hname, rfl⟩
  obtain ⟨added, t, hok, hseeds⟩ := foldlM_seeds _ _ Role.members (fun role _ => hinner role) 0 s
  refine ⟨added, t, by rw [seed_defaults, hok, Nat.zero_add], hseeds.toGrants, ?_, ?_⟩
  · intro pair hpair
    obtain ⟨role, -, h⟩ := hseeds.only pair hpair
    exact ⟨role, h⟩
  · rintro pair ⟨role, h⟩
    exact hseeds.all pair ⟨role, role.mem_members, h⟩

/-- The texts of the table are those of the permissions some role has. -/
theorem value_mem_texts_iff {p : Permission} :
    p.value ∈ s.role_permissions.rows.map (·.permission) ↔ ∃ name, p ∈ s.permissions name := by
  rw [List.mem_map]
  constructor
  · rintro ⟨⟨name, text⟩, hmem, rfl⟩
    exact ⟨name, hmem⟩
  · rintro ⟨name, hmem⟩
    exact ⟨_, hmem, rfl⟩

/-- What a turn of the completion gives to the technical administrator: its permission, if no role had it. -/
def Lacking (s : AccountStore) (members : List Permission) (pair : String × Permission) : Prop :=
  pair.1 = Role.SUPER_ADMIN.value ∧ pair.2 ∈ members ∧ ∀ name, pair.2 ∉ s.permissions name

/-- One turn of the completion, while the administrator has of its permission only what was there before. -/
theorem complete_permission_spec (p : Permission) (n : Nat) (u : AccountStore)
    (hkept : p ∈ u.permissions Role.SUPER_ADMIN.value → p ∈ s.permissions Role.SUPER_ADMIN.value) :
    ∃ added t, complete_permission (s.role_permissions.rows.map (·.permission)) n p u = .ok (n + added.length, t) ∧
      Seeds (Lacking s [p]) added u t := by
  by_cases hheld : ∃ name, p ∈ s.permissions name
  · refine ⟨[], u, ?_, .refl u, by simp, ?_⟩
    · rw [complete_permission, if_pos (value_mem_texts_iff.mpr hheld)]
      rfl
    · rintro pair ⟨-, hmem, hnone⟩
      obtain ⟨name, hp⟩ := hheld
      exact absurd (List.mem_singleton.mp hmem ▸ hp) (hnone name)
  · obtain ⟨t, hemit, hgrants⟩ := emit_grant (Role.SUPER_ADMIN.value, p) fun hp => hheld ⟨_, hkept hp⟩
    refine ⟨[(Role.SUPER_ADMIN.value, p)], t, ?_, hgrants, ?_, ?_⟩
    · rw [complete_permission, if_neg fun hmem => hheld (value_mem_texts_iff.mp hmem)]
      exact Transaction.bind_eq_ok_iff.mpr ⟨(), t, hemit, pure_eq_ok_iff.mpr ⟨rfl, rfl⟩⟩
    · intro pair hpair
      obtain rfl := List.mem_singleton.mp hpair
      exact ⟨rfl, List.mem_singleton_self p, fun name hp => hheld ⟨name, hp⟩⟩
    · rintro pair ⟨hname, hmem, -⟩
      refine hgrants.mem_permissions.mpr (Or.inr (List.mem_singleton.mpr ?_))
      exact Prod.ext hname (List.mem_singleton.mp hmem)

/-- Over members still to visit, of which the administrator has only what was there before: those
visited have changed rows of the administrator, for other permissions. -/
theorem foldlM_complete_permission (members : List Permission) (hnodup : members.Nodup) (n : Nat) (u : AccountStore)
    (hkept : ∀ p ∈ members, p ∈ u.permissions Role.SUPER_ADMIN.value → p ∈ s.permissions Role.SUPER_ADMIN.value) :
    ∃ added t, members.foldlM (complete_permission (s.role_permissions.rows.map (·.permission))) n u =
        .ok (n + added.length, t) ∧ Seeds (Lacking s members) added u t := by
  induction members generalizing n u with
  | nil => exact ⟨[], u, rfl, .refl u, by simp, by simp [Lacking]⟩
  | cons p members ih =>
    rw [List.nodup_cons] at hnodup
    obtain ⟨first, v, hfirst, hseeds⟩ := complete_permission_spec p n u (hkept p List.mem_cons_self)
    have hrest : ∀ q ∈ members, q ∈ v.permissions Role.SUPER_ADMIN.value →
        q ∈ s.permissions Role.SUPER_ADMIN.value := by
      intro q hq hmem
      rcases hseeds.mem_permissions.mp hmem with hold | hnew
      · exact hkept q (List.mem_cons_of_mem p hq) hold
      · have hsame : q = p := List.mem_singleton.mp (hseeds.only _ hnew).2.1
        exact absurd (hsame ▸ hq) hnodup.1
    obtain ⟨rest, t, hok, hmore⟩ := ih hnodup.2 (n + first.length) v hrest
    refine ⟨first ++ rest, t, ?_, hseeds.toGrants.trans hmore.toGrants, ?_, ?_⟩
    · rw [List.foldlM_cons, List.length_append, ← Nat.add_assoc]
      exact Transaction.bind_eq_ok_iff.mpr ⟨_, v, hfirst, hok⟩
    · intro pair hpair
      rcases List.mem_append.mp hpair with hpair | hpair
      · obtain ⟨hname, hmem, hnone⟩ := hseeds.only pair hpair
        exact ⟨hname, List.mem_cons.mpr (Or.inl (List.mem_singleton.mp hmem)), hnone⟩
      · obtain ⟨hname, hmem, hnone⟩ := hmore.only pair hpair
        exact ⟨hname, List.mem_cons_of_mem p hmem, hnone⟩
    · rintro pair ⟨hname, hmem, hnone⟩
      rcases List.mem_cons.mp hmem with hsame | hmem
      · exact hmore.mem_permissions.mpr (Or.inl (hseeds.all pair ⟨hname, List.mem_singleton.mpr hsame, hnone⟩))
      · exact hmore.all pair ⟨hname, hmem, hnone⟩

/-- Completing the catalogue gives the technical administrator what no role has. -/
theorem ensure_catalog_permissions_present_spec (s : AccountStore) :
    ∃ added t, ensure_catalog_permissions_present s = .ok (added.length, t) ∧
      Seeds (fun pair => pair.1 = Role.SUPER_ADMIN.value ∧ ∀ name, pair.2 ∉ s.permissions name) added s t := by
  obtain ⟨added, t, hok, hseeds⟩ := foldlM_complete_permission (s := s) Permission.members (by decide) 0 s
    fun _ _ h => h
  refine ⟨added, t, ?_, hseeds.toGrants, ?_, ?_⟩
  · simp only [ensure_catalog_permissions_present, Transaction.bind_eq_ok_iff, reads_eq_ok_iff]
    rw [Nat.zero_add] at hok
    exact ⟨_, s, ⟨rfl, rfl⟩, hok⟩
  · intro pair hpair
    obtain ⟨hname, -, hnone⟩ := hseeds.only pair hpair
    exact ⟨hname, hnone⟩
  · rintro pair ⟨hname, hnone⟩
    exact hseeds.all pair ⟨hname, pair.2.mem_members, hnone⟩

end sigis.accounts
