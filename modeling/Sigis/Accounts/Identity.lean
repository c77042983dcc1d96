import Sigis.Accounts.Requests

open guarded relational transactional transition

namespace sigis.accounts

open accounts.UserAuthRepositoryImpl AdminSeedDemoUsers

/-- The e-mails are lower-case, the numbers are canonical ones of the numbering plan, and the
roles are roles. -/
structure Identified (d : Deployment) (s : AccountStore) : Prop where
  email : ∀ row ∈ s.users.rows, d.lower row.email = row.email
  phone : ∀ row ∈ s.users.rows, ∃ phone_vo : CameroonPhoneNumber, row.phone_number = phone_vo.e164
  role : ∀ row ∈ s.users.rows, ∃ role : Role, role.value = row.role

variable {d : Deployment} {env : Env} {s t : AccountStore} {user : User} {old new row : UserModel}

theorem Identified.of_users (h : Identified d s) (husers : t.users = s.users) : Identified d t :=
  ⟨husers ▸ h.email, husers ▸ h.phone, husers ▸ h.role⟩

theorem Identified.adds (hlower : d.LowersOnce) (h : Identified d s)
    (hadds : AddsUser d user s t) (hphone : ∃ phone_vo : CameroonPhoneNumber, user.phone_number = phone_vo.e164) :
    Identified d t := by
  constructor
  all_goals
    rw [hadds.users]
    intro row hrow
    rcases List.mem_append.mp hrow with hold | hnew
  · exact h.email row hold
  · obtain rfl := List.mem_singleton.mp hnew
    exact hlower user.email
  · exact h.phone row hold
  · obtain rfl := List.mem_singleton.mp hnew
    exact hphone
  · exact h.role row hold
  · obtain rfl := List.mem_singleton.mp hnew
    exact ⟨user.role, rfl⟩

/-- A row rewritten with the number it had, or with one of the numbering plan. -/
theorem Identified.replaces (h : Identified d s) (hreplaces : Table.Replaces s.users old new t.users)
    (hupdated : UserModel.Updated user old new)
    (hphone : user.phone_number = old.phone_number ∨
      ∃ phone_vo : CameroonPhoneNumber, user.phone_number = phone_vo.e164) : Identified d t := by
  constructor
  all_goals
    intro row hrow
    rcases hreplaces.mem_iff.mp hrow with ⟨hold, -⟩ | rfl
  · exact h.email row hold
  · rw [hupdated.email]
    exact h.email old hreplaces.stored
  · exact h.phone row hold
  · rw [hupdated.phone_number]
    rcases hphone with hsame | hnumber
    · exact hsame ▸ h.phone old hreplaces.stored
    · exact hnumber
  · exact h.role row hold
  · exact ⟨user.role, hupdated.role.symm⟩

theorem Identified.edits {user edited : User} {user_id : UUID} (h : Identified d s)
    (hedits : Edits user_id user edited s t)
    (hphone : edited.phone_number = user.phone_number ∨
      ∃ phone_vo : CameroonPhoneNumber, edited.phone_number = phone_vo.e164) : Identified d t := by
  obtain ⟨row, new, -, hshows, hrewrites⟩ := hedits
  exact h.replaces hrewrites.users hrewrites.updated (hshows.phone_number ▸ hphone)

/-- Every request preserves what identifies the accounts. -/
theorem Identified.step (hlower : d.LowersOnce) {label : AccountCall × Env}
    (h : Identified d s) (hstep : AccountStep d s label t) : Identified d t := by
  rcases hstep.effect with rfl | heffect
  · exact h
  obtain ⟨call, env⟩ := label
  cases call with
  | RegisterUser cmd =>
    obtain ⟨phone_vo, -, hadds⟩ := heffect
    exact h.adds hlower hadds ⟨phone_vo, rfl⟩
  | LoginUser cmd => exact heffect.elim
  | ChangePassword cmd =>
    obtain ⟨row, user, new, -, hshows, -, hrewrites⟩ := heffect
    exact h.replaces hrewrites.users hrewrites.updated (Or.inl (hshows.same_phone _))
  | RequestPasswordReset cmd =>
    obtain ⟨row, -, -, hissues⟩ := heffect
    exact h.of_users hissues.users
  | ResetPassword cmd =>
    obtain ⟨token, row, user, new, -, -, hshows, hresets⟩ := heffect
    exact h.replaces hresets.users hresets.updated (Or.inl (hshows.same_phone _))
  | update_user credentials user_id body =>
    obtain ⟨user_role, user, phone, -, -, hphone, hedits⟩ := heffect
    exact h.edits hedits hphone
  | update_roles credentials user_id role =>
    obtain ⟨-, user, hedits⟩ := heffect
    exact h.edits hedits (Or.inl rfl)
  | seed_demo_users =>
    obtain ⟨created, hcreated⟩ := heffect
    exact hcreated.invariant (Identified d) (fun h hcreates => h.adds hlower hcreates.adds hcreates.phone) h

/-- An account is found by every text that lowers to its e-mail. -/
theorem Identified.found (h : Identified d s) (hrow : row ∈ s.users.rows) {email : String}
    (hemail : d.lower email = row.email) : ∃ user, get_by_email d email s = .ok (some user) ∧ row.Shows user := by
  obtain ⟨user, hshows⟩ := UserModel.exists_shows (h.role row hrow)
  exact ⟨user, get_by_email_eq_ok_some_iff.mpr ⟨row, hrow, hemail.symm, hshows⟩, hshows⟩

theorem raises_only_send {mail : Mail} : raises_only (EmailService.send d env mail) Error.Explicit := by
  intro e he
  obtain ⟨-, exception, -, rfl⟩ := EmailService.send_eq_error he
  exact explicit_mail_error

theorem raises_only_atomically {α : Type} {x : Session α} {p : Error → Prop} (h : raises_only (x s) p) :
    raises_only (atomically x s).1 p := by
  cases hx : x s with
  | error e =>
    rw [atomically_eq_error_iff.mpr ⟨hx, rfl⟩]
    exact raises_only_error (h e hx)
  | ok done =>
    rw [atomically_eq_ok_iff.mpr hx]
    exact raises_only_ok

theorem raises_only_outcome {α : Type} {done : Except Error α × AccountStore} {p : Error → Prop}
    (h : raises_only done.1 p) : raises_only (outcome done).1 p := raises_only_map h

/-- A registration is refused by the database when the drawn identifier is taken, only. -/
theorem raises_only_register (hlower : d.LowersOnce) {cmd : RegisterUserCommand}
    (hfresh : ∀ row ∈ s.users.rows, row.id ≠ env.user_id) :
    raises_only (RegisterUser.execute d env cmd s).1 Error.Explicit := by
  unfold RegisterUser.execute
  split
  · next e hphone =>
    obtain ⟨message, rfl⟩ := CameroonPhoneNumber.init_eq_error hphone
    exact raises_only_error explicit_domain_error
  · next phone_vo _ =>
    refine raises_only_bind (raises_only_atomically ?_) fun user _ =>
      raises_only_bind raises_only_send fun _ _ => raises_only_pure
    refine Transaction.raises_only_reads_bind (raises_only_get_by_email fun _ => explicit_value_error) fun existing hexisting => ?_
    refine Transaction.raises_only_lift_bind (raises_only_raise_if fun _ => explicit_domain_error) fun _ hnone => ?_
    refine Transaction.raises_only_reads_bind (raises_only_get_by_phone fun _ => explicit_value_error) fun holder hholder => ?_
    refine Transaction.raises_only_lift_bind (raises_only_raise_if fun _ => explicit_domain_error) fun _ hfree => ?_
    rw [raise_if_eq_ok, Bool.not_eq_true, Option.isSome_eq_false_iff, Option.isNone_iff_eq_none] at hnone hfree
    subst hnone hfree
    refine Transaction.raises_only_bind ?_ fun _ _ _ => Transaction.raises_only_pure
    intro e hrefused
    obtain ⟨hcommit, -⟩ := emit_eq_error_iff.mp hrefused
    obtain ⟨t, ht⟩ := exists_commit_create d (RegisterUser.new_user d env cmd phone_vo) hfresh
      (fun row hrow hsame => get_by_email_eq_ok_none_iff.mp hexisting row hrow (hsame.trans (hlower cmd.email)))
      (get_by_phone_eq_ok_none_iff.mp hholder)
    rw [ht] at hcommit
    cases hcommit

theorem raises_only_choose_email {role : Role} {variants : List String} :
    raises_only (choose_email d role s variants) Error.Explicit := by
  induction variants with
  | nil => exact raises_only_pure
  | cons variant variants ih =>
    refine raises_only_bind (raises_only_get_by_email fun _ => explicit_value_error) fun found _ => ?_
    cases found with
    | none => exact raises_only_pure
    | some existing =>
      dsimp only
      split
      · exact raises_only_pure
      · exact ih

theorem raises_only_first_candidate {start : Nat} {offsets : List Nat} :
    raises_only (first_candidate start s offsets) Error.Explicit := by
  induction offsets with
  | nil => exact raises_only_error explicit_runtime_error
  | cons offset offsets ih =>
    refine raises_only_bind ?_ fun answer _ => ?_
    · unfold candidate_phone
      split
      · exact raises_only_ok
      · split
        · exact raises_only_ok
        · exact raises_only_bind (raises_only_get_by_phone fun _ => explicit_value_error) fun _ _ => raises_only_pure
    · cases answer with
      | none => exact ih
      | some phone => exact raises_only_pure

theorem raises_only_seed_account {seed : SeedRow} (hfresh : ∀ row ∈ s.users.rows, row.id ≠ env.seed_id seed.role) :
    raises_only (seed_account d env seed s) Error.Explicit := by
  refine Transaction.raises_only_reads_bind raises_only_choose_email fun chosen hchosen => ?_
  cases chosen with
  | already_seeded em => exact Transaction.raises_only_pure
  | none => exact Transaction.raises_only_pure
  | free em =>
    refine Transaction.raises_only_reads_bind raises_only_first_candidate fun phone hphone => ?_
    refine Transaction.raises_only_bind ?_ fun _ _ _ => Transaction.raises_only_pure
    intro e hrefused
    obtain ⟨hcommit, -⟩ := emit_eq_error_iff.mp hrefused
    obtain ⟨-, hnone⟩ := choose_email_eq_free hchosen
    obtain ⟨-, -, hfree⟩ := first_candidate_eq_ok hphone
    obtain ⟨t, ht⟩ := exists_commit_create d (new_user d env seed em phone) hfresh
      (get_by_email_eq_ok_none_iff.mp hnone) hfree
    rw [ht] at hcommit
    cases hcommit

/-- Seeding is refused by the database when a drawn identifier is taken, only: each turn
leaves the identifiers of the turns to come free. -/
theorem raises_only_seed_rows (hinj : Function.Injective env.seed_id) {seeds : List SeedRow}
    (hnodup : (seeds.map SeedRow.role).Nodup)
    (hfresh : ∀ seed ∈ seeds, ∀ row ∈ s.users.rows, row.id ≠ env.seed_id seed.role) :
    raises_only (seeds.mapM (seed_account d env) s) Error.Explicit := by
  induction seeds generalizing s with
  | nil => exact Transaction.raises_only_pure
  | cons seed seeds ih =>
    rw [List.map_cons, List.nodup_cons] at hnodup
    rw [List.mapM_cons]
    refine Transaction.raises_only_bind (raises_only_seed_account (hfresh seed List.mem_cons_self)) ?_
    intro result t hturn
    refine Transaction.raises_only_bind (ih hnodup.2 ?_) fun _ _ _ => Transaction.raises_only_pure
    intro later hlater row hrow
    have hold := hfresh later (List.mem_cons_of_mem seed hlater)
    rcases seed_account_eq_ok hturn with rfl | ⟨user, hcreates⟩
    · exact hold row hrow
    · rw [hcreates.adds.users] at hrow
      rcases List.mem_append.mp hrow with hrow | hrow
      · exact hold row hrow
      · obtain rfl := List.mem_singleton.mp hrow
        change user.id ≠ env.seed_id later.role
        rw [hcreates.id]
        intro hsame
        exact hnodup.1 (hinj hsame ▸ List.mem_map_of_mem hlater)

/-- The requests that create or rename accounts. -/
def AccountCall.NamesAccounts : AccountCall → Prop
  | .RegisterUser _ | .update_user _ _ _ | .update_roles _ _ _ | .seed_demo_users => True
  | _ => False

/-- The identifiers the request draws belong to no account. -/
def AccountCall.DrawsFresh (env : Env) (s : AccountStore) : AccountCall → Prop
  | .RegisterUser _ => ∀ row ∈ s.users.rows, row.id ≠ env.user_id
  | .seed_demo_users => Function.Injective env.seed_id ∧ ∀ role, ∀ row ∈ s.users.rows, row.id ≠ env.seed_id role
  | _ => True

theorem AccountCall.raises_only_serve (hlower : d.LowersOnce) {call : AccountCall}
    (hnames : call.NamesAccounts) (hfresh : call.DrawsFresh env s) :
    raises_only (call.serve d env s).1 Error.Explicit := by
  cases call with
  | RegisterUser cmd =>
    rw [serve]
    exact raises_only_outcome (raises_only_register hlower hfresh)
  | update_user credentials user_id body =>
    rw [serve]
    exact raises_only_outcome (raises_only_atomically raises_only_update_user)
  | update_roles credentials user_id role =>
    rw [serve]
    exact raises_only_outcome (raises_only_atomically raises_only_update_roles)
  | seed_demo_users =>
    rw [serve]
    refine raises_only_outcome (raises_only_atomically ?_)
    refine Transaction.raises_only_bind ?_ fun _ _ _ => Transaction.raises_only_pure
    exact raises_only_seed_rows hfresh.1 (by decide) fun seed _ => hfresh.2 seed.role
  | LoginUser | ChangePassword | RequestPasswordReset | ResetPassword => exact hnames.elim

/-- E-mails are lower-case and found in any case of their letters, no two accounts share an
e-mail or a number, numbers are canonical, and the constraints on both columns refuse no
request: one that draws fresh identifiers is never refused by the database. -/
structure KeepsIdentity (d : Deployment) (s : AccountStore) : Prop where
  lower_case : ∀ row ∈ s.users.rows, d.lower row.email = row.email
  distinct : ∀ a ∈ s.users.rows, ∀ b ∈ s.users.rows, a ≠ b →
    a.email ≠ b.email ∧ a.phone_number ≠ b.phone_number
  canonical : ∀ row ∈ s.users.rows, ∃ phone_vo : CameroonPhoneNumber, row.phone_number = phone_vo.e164
  found : ∀ row ∈ s.users.rows, ∀ email, d.lower email = row.email →
    ∃ user, get_by_email d email s = .ok (some user) ∧ row.Shows user
  never_refused : ∀ (call : AccountCall) (env : Env), call.NamesAccounts → call.DrawsFresh env s →
    (call.serve d env s).1 ≠ .error .IntegrityError

/-- Accounts keep their identity over every run from no account. -/
theorem accounts_keep_identity {init : AccountStore} {labels : List (AccountCall × Env)}
    (hlower : d.LowersOnce) (hinit : init.users.rows = [])
    (hrun : Execution (AccountStep d) init labels s) : KeepsIdentity d s := by
  have hempty : Identified d init := ⟨by simp [hinit], by simp [hinit], by simp [hinit]⟩
  have h : Identified d s := hrun.invariant (Identified d) (fun h hstep => h.step hlower hstep) hempty
  refine ⟨h.email, ?_, h.phone, fun row hrow email hemail => h.found hrow hemail, ?_⟩
  · intro a ha b hb hne
    have hapart : ¬ clash a b := fun hclash => hne (s.users.eq_of_clash ha hb hclash)
    rw [clash_user_iff, not_or, not_or] at hapart
    exact hapart.2
  · intro call env hnames hfresh hrefused
    exact call.raises_only_serve hlower hnames hfresh _ hrefused rfl

/-- A registration with capital letters, and one with the same address in other letters. -/
theorem registered_account_keeps_identity :
    ∃ s, Execution (AccountStep (.small "")) .empty
      [(.RegisterUser ⟨"Ada@Sigis.cm", "Ada", "650 00 00 01", "password", .HOST⟩, Env.small 0),
       (.RegisterUser ⟨"ADA@sigis.cm", "Ada", "650 00 00 02", "password", .SUPER_ADMIN⟩, Env.small 0)] s ∧
      s.users.rows.map (fun row => (row.email, row.phone_number)) = [("ada@sigis.cm", "+237650000001")] ∧
      KeepsIdentity (.small "") s := by
  have hrun : Execution (AccountStep (.small "")) .empty
      [(.RegisterUser ⟨"Ada@Sigis.cm", "Ada", "650 00 00 01", "password", .HOST⟩, Env.small 0),
       (.RegisterUser ⟨"ADA@sigis.cm", "Ada", "650 00 00 02", "password", .SUPER_ADMIN⟩, Env.small 0)] _ :=
    .cons rfl (.single rfl)
  exact ⟨_, hrun, by decide +kernel, accounts_keep_identity (Deployment.lowersOnce_small "") rfl hrun⟩

end sigis.accounts
