import Mathlib.Data.List.Nodup
import Sigis.Application.UseCases.AdminFullBootstrap

open guarded relational transactional

namespace sigis.accounts

open Transaction (reads reads_eq_ok_iff pure_eq_ok_iff)
open accounts.UserAuthRepositoryImpl
open RolePermissionRepositoryImpl

/-- The answer of a bootstrap that found nothing to do. -/
structure FullBootstrapResult.Nothing (answer : FullBootstrapResult) : Prop where
  defaults : answer.rbac_defaults_rows_inserted = 0
  catalog : answer.rbac_catalog_rows_inserted = 0
  accounts : ∀ account ∈ answer.accounts, account.status = "skipped"

/-- The store `t` is `s` with new accounts. -/
structure AddsAccounts (new : List UserModel) (s t : AccountStore) : Prop where
  users : t.users.rows = s.users.rows ++ new
  tokens : t.password_reset_tokens = s.password_reset_tokens
  permissions : t.role_permissions = s.role_permissions

variable {d : Deployment} {env : Env} {s t u : AccountStore} {user : User} {new more : List UserModel}

theorem AddsAccounts.refl (s : AccountStore) : AddsAccounts [] s s := ⟨(List.append_nil _).symm, rfl, rfl⟩

theorem AddsAccounts.trans (h : AddsAccounts new s t) (hmore : AddsAccounts more t u) :
    AddsAccounts (new ++ more) s u :=
  ⟨by rw [hmore.users, h.users, List.append_assoc], hmore.tokens.trans h.tokens, hmore.permissions.trans h.permissions⟩

theorem AddsUser.adds_accounts (h : AddsUser d user s t) : AddsAccounts [(new_row d user).stored] s t :=
  ⟨h.users, h.tokens, h.permissions⟩

/-- An address that has an account keeps it. -/
theorem AddsAccounts.get_by_email (h : AddsAccounts new s t) {email : String}
    (hfound : get_by_email d email s = .ok (some user)) : get_by_email d email t = .ok (some user) := by
  obtain ⟨row, hrow, hemail, hshows⟩ := get_by_email_eq_ok_some_iff.mp hfound
  refine get_by_email_eq_ok_some_iff.mpr ⟨row, ?_, hemail, hshows⟩
  rw [h.users]
  exact List.mem_append_left new hrow

/-- The account that was added is found under its address. -/
theorem AddsUser.get_by_email (h : AddsUser d user s t) :
    ∃ found : User, found.role = user.role ∧ get_by_email d user.email t = .ok (some found) := by
  have hrole : ∃ role : Role, role.value = (new_row d user).stored.role := ⟨user.role, rfl⟩
  obtain ⟨found, hshows⟩ := UserModel.exists_shows hrole
  refine ⟨found, Role.value_inj.mp hshows.role, get_by_email_eq_ok_some_iff.mpr ⟨_, ?_, rfl, hshows⟩⟩
  rw [h.users]
  exact List.mem_append_right _ List.mem_cons_self

namespace AdminSeedDemoUsers

variable {seed : SeedRow} {role : Role} {variants : List String} {chosen : ChosenEmail} {em : String}

/-- A seed for which the next turn creates no account. -/
def Settled (d : Deployment) (seed : SeedRow) (s : AccountStore) : Prop :=
  ∃ chosen, choose_email d seed.role s (email_variants seed.preferred_email) = .ok chosen ∧ ∀ em, chosen ≠ .free em

/-- A search that ends at an account, or at none, ends there whatever is added. -/
theorem choose_email_of_adds (hadds : AddsAccounts new s t) (h : choose_email d role s variants = .ok chosen)
    (hchosen : ∀ em, chosen ≠ .free em) : choose_email d role t variants = .ok chosen := by
  induction variants with
  | nil => exact h
  | cons variant variants ih =>
    obtain ⟨found, hfound, hrest⟩ := bind_eq_ok_iff.mp h
    cases found with
    | none =>
      cases hrest
      exact absurd rfl (hchosen _)
    | some existing =>
      refine bind_eq_ok_iff.mpr ⟨some existing, hadds.get_by_email hfound, ?_⟩
      dsimp only at hrest ⊢
      split at hrest
      · next hrole => rw [if_pos hrole, hrest]
      · next hrole =>
        rw [if_neg hrole]
        exact ih hrest

/-- A search that ended at a free address ends at the account that was created under it. -/
theorem choose_email_of_created (hadds : AddsUser d user s t) (hemail : user.email = em) (hrole : user.role = role)
    (h : choose_email d role s variants = .ok (.free em)) :
    choose_email d role t variants = .ok (.already_seeded em) := by
  induction variants with
  | nil => cases h
  | cons variant variants ih =>
    obtain ⟨found, hfound, hrest⟩ := bind_eq_ok_iff.mp h
    cases found with
    | none =>
      cases hrest
      obtain ⟨created, hcreated, hget⟩ := hadds.get_by_email
      rw [hemail] at hget
      refine bind_eq_ok_iff.mpr ⟨some created, hget, ?_⟩
      exact if_pos (hcreated.trans hrole)
    | some existing =>
      refine bind_eq_ok_iff.mpr ⟨some existing, hadds.adds_accounts.get_by_email hfound, ?_⟩
      dsimp only at hrest ⊢
      split at hrest
      · cases hrest
      · next hother =>
        rw [if_neg hother]
        exact ih hrest

/-- New accounts leave a settled seed settled. -/
theorem Settled.of_adds (h : Settled d seed s) (hadds : AddsAccounts new s t) : Settled d seed t := by
  obtain ⟨chosen, hchoose, hchosen⟩ := h
  exact ⟨chosen, choose_email_of_adds hadds hchoose hchosen, hchosen⟩

/-- The turn of a settled seed reports that it was skipped, and changes nothing. -/
theorem Settled.skips (h : Settled d seed s) (env : Env) :
    ∃ result, seed_account d env seed s = .ok (result, s) ∧ result.status = "skipped" := by
  obtain ⟨chosen, hchoose, hchosen⟩ := h
  have hskips (result : SeedAccountResult) (hskipped : result.status = "skipped")
      (hturn : ∀ u, reads (fun s => choose_email d seed.role s (email_variants seed.preferred_email)) s =
        .ok (chosen, u) →
        seed_account d env seed s = .ok (result, u)) :
      ∃ result, seed_account d env seed s = .ok (result, s) ∧ result.status = "skipped" :=
    ⟨result, hturn s (reads_eq_ok_iff.mpr ⟨hchoose, rfl⟩), hskipped⟩
  cases chosen with
  | free em => exact absurd rfl (hchosen em)
  | already_seeded em =>
    refine hskips ⟨seed.role.value, em, "skipped", "Compte déjà présent pour ce rôle."⟩ rfl fun u hread => ?_
    exact Transaction.bind_eq_ok_iff.mpr ⟨_, u, hread, rfl⟩
  | none =>
    refine hskips ⟨seed.role.value, seed.preferred_email, "skipped",
      "Aucune variante d'e-mail libre (trop de conflits)."⟩
      rfl fun u hread => ?_
    exact Transaction.bind_eq_ok_iff.mpr ⟨_, u, hread, rfl⟩

/-- A turn settles its seed. It adds the account of its role, or none. -/
theorem seed_account_settles {result : SeedAccountResult} (h : seed_account d env seed s = .ok (result, t)) :
    Settled d seed t ∧ ∃ new, AddsAccounts new s t ∧ List.Sublist (new.map (·.role)) [seed.role.value] := by
  obtain ⟨chosen, u, hread, hrest⟩ := Transaction.bind_eq_ok_iff.mp h
  obtain ⟨hchosen, rfl⟩ := reads_eq_ok_iff.mp hread
  cases chosen with
  | already_seeded em =>
    obtain ⟨-, rfl⟩ := pure_eq_ok_iff.mp hrest
    exact ⟨⟨_, hchosen, fun _ => ChosenEmail.noConfusion⟩, [], .refl t, List.nil_sublist _⟩
  | none =>
    obtain ⟨-, rfl⟩ := pure_eq_ok_iff.mp hrest
    exact ⟨⟨_, hchosen, fun _ => ChosenEmail.noConfusion⟩, [], .refl t, List.nil_sublist _⟩
  | free em =>
    obtain ⟨phone, v, hphone, hcreate⟩ := Transaction.bind_eq_ok_iff.mp hrest
    obtain ⟨-, rfl⟩ := reads_eq_ok_iff.mp hphone
    obtain ⟨_, w, hemit, hreturn⟩ := Transaction.bind_eq_ok_iff.mp hcreate
    obtain ⟨-, rfl⟩ := pure_eq_ok_iff.mp hreturn
    have hadds := commit_create_eq_some_iff.mp (emit_eq_ok_iff.mp hemit)
    have hfound := choose_email_of_created hadds rfl rfl hchosen
    exact ⟨⟨_, hfound, fun _ => ChosenEmail.noConfusion⟩, _, hadds.adds_accounts, List.Sublist.refl _⟩

/-- A loop over seeds settles them all, and adds at most one account for each. -/
theorem mapM_seed_account {seeds : List SeedRow} {results : List SeedAccountResult}
    (h : seeds.mapM (seed_account d env) s = .ok (results, t)) :
    (∀ seed ∈ seeds, Settled d seed t) ∧
      ∃ new, AddsAccounts new s t ∧ List.Sublist (new.map (·.role)) (seeds.map (·.role.value)) := by
  induction seeds generalizing s results with
  | nil =>
    obtain ⟨-, rfl⟩ := pure_eq_ok_iff.mp h
    exact ⟨fun seed hseed => absurd hseed List.not_mem_nil, [], .refl t, List.nil_sublist _⟩
  | cons seed seeds ih =>
    rw [List.mapM_cons] at h
    obtain ⟨first, u, hfirst, hrest⟩ := Transaction.bind_eq_ok_iff.mp h
    obtain ⟨others, v, hothers, hreturn⟩ := Transaction.bind_eq_ok_iff.mp hrest
    obtain ⟨-, rfl⟩ := pure_eq_ok_iff.mp hreturn
    obtain ⟨hsettled, new, hnew, hrole⟩ := seed_account_settles hfirst
    obtain ⟨hlater, more, hmore, hroles⟩ := ih hothers
    refine ⟨List.forall_mem_cons.mpr ⟨hsettled.of_adds hmore, hlater⟩, _, hnew.trans hmore, ?_⟩
    rw [List.map_append]
    exact hrole.append hroles

/-- Over settled seeds the loop reports that each was skipped. -/
theorem mapM_seed_account_of_settled {seeds : List SeedRow} (h : ∀ seed ∈ seeds, Settled d seed s) (env : Env) :
    ∃ results, seeds.mapM (seed_account d env) s = .ok (results, s) ∧
      ∀ result ∈ results, result.status = "skipped" := by
  induction seeds with
  | nil => exact ⟨[], rfl, fun result hresult => absurd hresult List.not_mem_nil⟩
  | cons seed seeds ih =>
    obtain ⟨hseed, hseeds⟩ := List.forall_mem_cons.mp h
    obtain ⟨first, hfirst, hskipped⟩ := hseed.skips env
    obtain ⟨others, hothers, hall⟩ := ih hseeds
    refine ⟨first :: others, ?_, List.forall_mem_cons.mpr ⟨hskipped, hall⟩⟩
    rw [List.mapM_cons]
    exact Transaction.bind_eq_ok_iff.mpr ⟨first, s, hfirst, Transaction.bind_eq_ok_iff.mpr ⟨others, s, hothers, rfl⟩⟩

end AdminSeedDemoUsers

/-- Where all of them are granted, seeding adds nothing. -/
theorem Seeds.eq_of_all {wanted : String × Permission → Prop} {added : List (String × Permission)}
    (h : Seeds wanted added s t) (hall : ∀ pair, wanted pair → pair.2 ∈ s.permissions pair.1) : added = [] ∧ t = s := by
  have hnone : added = [] :=
    List.eq_nil_iff_forall_not_mem.mpr fun pair hpair => h.not_mem hpair (hall pair (h.only pair hpair))
  subst hnone
  exact ⟨rfl, h.eq_of_nil⟩

/-- What the unit of work of a bootstrap has done when it returns: it has added default permissions
and at most one account for each role, and all seeds are settled. -/
theorem execute_full_bootstrap_uow_eq_ok {answer : FullBootstrapResult}
    (h : execute_full_bootstrap_uow d env s = .ok (answer, t)) :
    (∃ rows, t.role_permissions.rows = s.role_permissions.rows ++ rows) ∧
      (∃ new, t.users.rows = s.users.rows ++ new ∧
        List.Sublist (new.map (·.role)) (AdminSeedDemoUsers.SEED_ROWS.map (·.role.value))) ∧
      (∀ pair : String × Permission, pair.2 ∈ default_grants pair.1 → pair.2 ∈ t.permissions pair.1) ∧
      ∀ seed ∈ AdminSeedDemoUsers.SEED_ROWS, AdminSeedDemoUsers.Settled d seed t := by
  obtain ⟨added, u, hdefaults, hcatalog, hseeds⟩ := seeds_defaults s
  obtain ⟨_, _, hfirst, hrest⟩ := Transaction.bind_eq_ok_iff.mp h
  obtain ⟨rfl, rfl⟩ := Prod.mk.inj (Except.ok.inj (hdefaults.symm.trans hfirst))
  obtain ⟨_, _, hsecond, hrest⟩ := Transaction.bind_eq_ok_iff.mp hrest
  obtain ⟨rfl, rfl⟩ := Prod.mk.inj (Except.ok.inj (hcatalog.symm.trans hsecond))
  obtain ⟨_, v, haccounts, hreturn⟩ := Transaction.bind_eq_ok_iff.mp hrest
  obtain ⟨-, rfl⟩ := pure_eq_ok_iff.mp hreturn
  obtain ⟨_, w, hloop, hanswer⟩ := Transaction.bind_eq_ok_iff.mp haccounts
  obtain ⟨-, rfl⟩ := pure_eq_ok_iff.mp hanswer
  obtain ⟨hsettled, new, hadds, hroles⟩ := AdminSeedDemoUsers.mapM_seed_account hloop
  refine ⟨⟨added.map grant, ?_⟩, ⟨new, ?_, hroles⟩, ?_, hsettled⟩
  · rw [hadds.permissions, hseeds.rows]
  · rw [hadds.users, hseeds.users]
  · intro pair hpair
    have hgranted := hseeds.all pair hpair
    rw [AccountStore.mem_permissions, hadds.permissions]
    exact hgranted

/-- Where nothing is missing, the unit of work of a bootstrap changes nothing and says so. -/
theorem execute_full_bootstrap_uow_of_complete (env : Env)
    (hall : ∀ pair : String × Permission, pair.2 ∈ default_grants pair.1 → pair.2 ∈ s.permissions pair.1)
    (hsettled : ∀ seed ∈ AdminSeedDemoUsers.SEED_ROWS, AdminSeedDemoUsers.Settled d seed s) :
    ∃ answer : FullBootstrapResult, execute_full_bootstrap_uow d env s = .ok (answer, s) ∧ answer.Nothing := by
  obtain ⟨added, u, hdefaults, hcatalog, hseeds⟩ := seeds_defaults s
  obtain ⟨rfl, rfl⟩ := hseeds.eq_of_all hall
  obtain ⟨results, hloop, hskipped⟩ := AdminSeedDemoUsers.mapM_seed_account_of_settled hsettled env
  have haccounts : AdminSeedDemoUsers.execute_seed_demo_users d env u =
      .ok ((results, AdminSeedDemoUsers.SEED_DEFAULT_PASSWORD), u) :=
    Transaction.bind_eq_ok_iff.mpr ⟨results, u, hloop, rfl⟩
  refine ⟨_, Transaction.bind_eq_ok_iff.mpr ⟨_, u, hdefaults, Transaction.bind_eq_ok_iff.mpr ⟨_, u, hcatalog,
    Transaction.bind_eq_ok_iff.mpr ⟨_, u, haccounts, rfl⟩⟩⟩, rfl, rfl, hskipped⟩

section installation

variable {dialect : String} {binds : Bool} {p q i j : Installation} {α : Type} {session : Session α} {a : α}
  {e : BootstrapError}

theorem Installation.atomically_eq_ok_iff (h : i.has_role = true) :
    i.atomically session = (.ok a, j) ↔ session i.store = .ok (a, j.store) ∧ j.has_role = true ∧
      j.user_roles = i.user_roles := by
  rw [Installation.atomically, dif_pos h]
  cases hrun : session i.store with
  | error e => simp [transactional.atomically, hrun, Except.mapError]
  | ok done =>
    obtain ⟨b, store⟩ := done
    simp only [transactional.atomically, hrun, Except.mapError, Prod.mk.injEq, Except.ok.injEq, Installation.ext_iff]
    constructor
    · rintro ⟨rfl, rfl, hrole, hroles⟩
      exact ⟨⟨rfl, rfl⟩, hrole.symm.trans h, hroles.symm⟩
    · rintro ⟨⟨rfl, rfl⟩, hrole, hroles⟩
      exact ⟨rfl, rfl, h.trans hrole.symm, hroles.symm⟩

theorem Installation.atomically_eq_error (h : i.has_role = true) (hrun : i.atomically session = (.error e, j)) :
    j = i ∧ ∃ error, e = .account error := by
  rw [Installation.atomically, dif_pos h] at hrun
  cases hsession : session i.store with
  | ok done => simp [transactional.atomically, hsession, Except.mapError] at hrun
  | error error =>
    simp only [transactional.atomically, hsession, Except.mapError, Prod.mk.injEq, Except.error.injEq] at hrun
    exact ⟨hrun.2.symm, error, hrun.1.symm⟩

theorem execute_full_bootstrap_of_align (h : p.align d dialect binds = .ok q) :
    execute_full_bootstrap d dialect binds env p = q.atomically (execute_full_bootstrap_uow d env) := by
  rw [execute_full_bootstrap, h]

/-- Whatever becomes of a bootstrap, the accounts it leaves begin with those the schema steps left. -/
theorem exists_bootstrap_accounts (env : Env) (halign : p.align d dialect binds = .ok q) (h : q.has_role = true) :
    ∃ accounts, (execute_full_bootstrap d dialect binds env p).2.store.users.rows = q.store.users.rows ++ accounts := by
  rw [execute_full_bootstrap_of_align halign]
  cases hrun : q.atomically (execute_full_bootstrap_uow d env) with
  | mk result t =>
    cases result with
    | error e =>
      rw [(Installation.atomically_eq_error h hrun).1]
      exact ⟨[], (List.append_nil _).symm⟩
    | ok answer =>
      obtain ⟨-, ⟨accounts, hrows, -⟩, -⟩ :=
        execute_full_bootstrap_uow_eq_ok ((Installation.atomically_eq_ok_iff h).mp hrun).1
      exact ⟨accounts, hrows⟩

theorem role_ne_empty_of_seeds {new : List UserModel}
    (h : List.Sublist (new.map (·.role)) (AdminSeedDemoUsers.SEED_ROWS.map (·.role.value))) :
    ∀ row ∈ new, row.role ≠ "" := by
  intro row hrow
  obtain ⟨seed, -, hseed⟩ := List.mem_map.mp (h.subset (List.mem_map_of_mem hrow))
  rw [← hseed]
  exact schema_sync.value_ne_empty seed.role

/-- A bootstrap commits the alignment of the schema first, which changes nothing but roles, and nothing
at all in an aligned database. Then it returns, having only added rows, at most one account for each
role, and at once repeated finds nothing to do; or it raises, and leaves what the alignment left. -/
theorem bootstrap_idempotent (d : Deployment) (dialect : String) (binds : Bool) (env : Env) (p : Installation)
    (huuid : p.ReadsBack d) :
    ∃ q, p.align d dialect binds = .ok q ∧ Aligns binds p q ∧
      (p.has_role = true → p.user_roles = none → q = p) ∧
      match execute_full_bootstrap d dialect binds env p with
      | (.ok _, t) =>
        t.has_role = true ∧ t.user_roles = q.user_roles ∧
        (∃ accounts, t.store.users.rows = q.store.users.rows ++ accounts ∧ (accounts.map (·.role)).Nodup) ∧
        (∃ rows, t.store.role_permissions.rows = q.store.role_permissions.rows ++ rows) ∧
        ∀ again : Env, ∃ answer : FullBootstrapResult,
          execute_full_bootstrap d dialect binds again t = (.ok answer, t) ∧ answer.Nothing
      | (.error e, t) => t = q ∧ ∃ error, e = .account error := by
  obtain ⟨q, halign, haligns⟩ := exists_align huuid dialect binds
  refine ⟨q, halign, haligns, fun hrole hroles => ?_, ?_⟩
  · have hstable : p.Stable binds := ⟨hrole, Or.inl hroles⟩
    exact haligns.unique hstable.aligns
  rw [execute_full_bootstrap_of_align halign]
  cases hrun : q.atomically (execute_full_bootstrap_uow d env) with
  | mk result t =>
    cases result with
    | error e => exact Installation.atomically_eq_error haligns.has_role hrun
    | ok answer =>
      obtain ⟨hstore, hrole, hroles⟩ := (Installation.atomically_eq_ok_iff haligns.has_role).mp hrun
      obtain ⟨hrows, ⟨accounts, haccounts, hseeds⟩, hall, hsettled⟩ := execute_full_bootstrap_uow_eq_ok hstore
      refine ⟨hrole, hroles, ⟨accounts, haccounts, hseeds.nodup (by decide)⟩, hrows, fun again => ?_⟩
      have hstable : t.Stable binds := haligns.stable hrole hroles haccounts (role_ne_empty_of_seeds hseeds)
      have hreads : t.ReadsBack d := fun legacy hlegacy => huuid legacy (haligns.user_roles_of_some (hroles ▸ hlegacy))
      obtain ⟨repeated, hrepeated, hnothing⟩ := execute_full_bootstrap_uow_of_complete again hall hsettled
      refine ⟨repeated, ?_, hnothing⟩
      rw [execute_full_bootstrap_of_align (hstable.align hreads dialect)]
      exact (Installation.atomically_eq_ok_iff hrole).mpr ⟨hrepeated, hrole, rfl⟩

end installation

namespace legacy_pilot

/-- An inspector who is a host in the table `user_roles` of an earlier version. -/
def legacy_inspector : UserModel where
  id := schema_sync.single_id
  email := "ada@sigis.cm"
  full_name := "Ada"
  phone_number := "+237690000001"
  hashed_password := "salt$secret"
  role := "INSPECTOR"
  is_active := true
  created_at := none
  updated_at := none

def legacy_installation : Installation where
  store := { AccountStore.empty with users := ⟨[legacy_inspector], List.pairwise_singleton _ _⟩ }
  has_role := true
  user_roles := some [⟨schema_sync.single_id, "HOST"⟩]
  roleless h := absurd h.symm Bool.false_ne_true

theorem reads_back_legacy : legacy_installation.ReadsBack (.small "") := by
  rintro legacy hlegacy
  cases hlegacy
  exact List.forall_mem_singleton.mpr (by decide)

theorem aligned_legacy {q : Installation} (h : Aligns true legacy_installation q) :
    q.store.users.rows = [{ legacy_inspector with role := "HOST" }] := h.users.trans (by decide)

end legacy_pilot

open legacy_pilot in
/-- The bootstrap makes a host of an inspector whose roles of an earlier version were not migrated yet. -/
theorem bootstrap_rewrites_role :
    legacy_inspector ∈ legacy_installation.store.users.rows ∧ legacy_inspector.role = "INSPECTOR" ∧
    (execute_full_bootstrap (.small "") "postgresql" true (.small 0) legacy_installation).2.store.users.get
        legacy_inspector.id = some { legacy_inspector with role := "HOST" } := by
  refine ⟨List.mem_cons_self, rfl, ?_⟩
  obtain ⟨q, halign, haligns⟩ := exists_align reads_back_legacy "postgresql" true
  obtain ⟨accounts, hrows⟩ := exists_bootstrap_accounts (.small 0) halign haligns.has_role
  rw [Table.get, hrows, aligned_legacy haligns]
  rfl

open legacy_pilot in
/-- Its tables are aligned, and a second bootstrap finds nothing to do. -/
theorem legacy_bootstrap : ∃ q, legacy_installation.align (.small "") "postgresql" true = .ok q ∧
    q.store.users.rows = [{ legacy_inspector with role := "HOST" }] ∧ q.user_roles = none ∧
    ∀ answer t, execute_full_bootstrap (.small "") "postgresql" true (.small 0) legacy_installation = (.ok answer, t) →
      ∃ repeated, execute_full_bootstrap (.small "") "postgresql" true (.small 1) t = (.ok repeated, t) ∧
        repeated.Nothing := by
  obtain ⟨q, halign, haligns, -, hrun⟩ :=
    bootstrap_idempotent (.small "") "postgresql" true (.small 0) legacy_installation reads_back_legacy
  refine ⟨q, halign, aligned_legacy haligns, haligns.user_roles, fun answer t hok => ?_⟩
  rw [hok] at hrun
  exact hrun.2.2.2.2 (.small 1)

end sigis.accounts
