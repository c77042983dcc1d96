import Sigis.Accounts.Logins
import Sigis.Accounts.Passwords

open guarded relational transactional transition

namespace sigis.accounts

open accounts.UserAuthRepositoryImpl PasswordResetTokenRepositoryImpl

variable {d : Deployment} {env : Env} {s t s₀ t₀ init : AccountStore} {labels : List (AccountCall × Env)}
  {token_hash : String} {row : UserModel}

/-- A reset with this token has taken effect on the way. -/
def UsedOn (d : Deployment) (token_hash : String) (init : AccountStore) (labels : List (AccountCall × Env))
    (s : AccountStore) : Prop :=
  ∃ x cmd env y, Takes (AccountStep d) init labels s x (.ResetPassword cmd, env) y ∧
    hash_token cmd.token = token_hash ∧ y ≠ x

/-- The token of a link, used or not. -/
def Linked (token_hash : String) (user_id : UUID) (expires_at : datetime) (s : AccountStore) : Prop :=
  ∃ token ∈ s.password_reset_tokens.rows, token.token_hash = token_hash ∧ token.user_id = user_id ∧
    token.expires_at = expires_at

theorem Linked.step {user_id : UUID} {expires_at : datetime} {label : AccountCall × Env}
    (h : Linked token_hash user_id expires_at s) (hstep : AccountStep d s label t) :
    Linked token_hash user_id expires_at t := by
  obtain ⟨token, htoken, hlinked⟩ := h
  obtain ⟨call, env⟩ := label
  rcases hstep.tokens with hsame | ⟨_, _, _, _, _, hissues⟩ | ⟨_, marked, -, -, hreplaces⟩
  · exact ⟨token, hsame ▸ htoken, hlinked⟩
  · exact ⟨token, hissues.tokens ▸ List.mem_append_left _ htoken, hlinked⟩
  · by_cases hkey : token.token_hash = marked.token_hash
    · obtain rfl := s.password_reset_tokens.eq_of_key htoken hreplaces.stored hkey
      exact ⟨_, hreplaces.mem_iff.mpr (Or.inr rfl), hlinked⟩
    · exact ⟨token, hreplaces.mem_iff.mpr (Or.inl ⟨htoken, hkey⟩), hlinked⟩

/-- A token that was not used at first is used after a run exactly when a reset with it took effect. -/
theorem spent_iff_usedOn (hfresh : ¬ Spent token_hash init) (hrun : Execution (AccountStep d) init labels s) :
    Spent token_hash s ↔ UsedOn d token_hash init labels s := by
  constructor
  · intro hspent
    obtain ⟨x, ⟨call, env⟩, y, htakes, hbefore, token, htoken, hhash, hused⟩ := hrun.exists_origin hfresh hspent
    rcases htakes.taken.tokens with hsame | ⟨_, _, _, _, _, hissues⟩ | ⟨cmd, marked, rfl, hvalid, hreplaces⟩
    · exact absurd ⟨token, hsame ▸ htoken, hhash, hused⟩ hbefore
    · rw [hissues.tokens] at htoken
      rcases List.mem_append.mp htoken with hold | hnew
      · exact absurd ⟨token, hold, hhash, hused⟩ hbefore
      · obtain rfl := List.mem_singleton.mp hnew
        cases hused
    · refine ⟨x, cmd, env, y, htakes, ?_, fun heq => hbefore (heq ▸ ⟨token, htoken, hhash, hused⟩)⟩
      rcases hreplaces.mem_iff.mp htoken with ⟨hold, -⟩ | rfl
      · exact absurd ⟨token, hold, hhash, hused⟩ hbefore
      · exact (get_valid_eq_some_iff.mp hvalid).2.1.symm.trans hhash
  · rintro ⟨x, cmd, env, y, htakes, rfl, hne⟩
    obtain ⟨later, hlater⟩ := htakes.after
    exact (spent_of_reset htakes.taken (Or.inl hne)).of_run hlater

/-- What a request for a reset leaves when it changes something. -/
theorem linked_of_request {cmd : RequestPasswordResetCommand} {env₀ : Env}
    (hissue : AccountStep d s₀ (.RequestPasswordReset cmd, env₀) t₀) (hissued : t₀ ≠ s₀) :
    ∃ row ∈ s₀.users.rows, row.email = d.lower cmd.email ∧ t₀.users = s₀.users ∧
      Linked (hash_token env₀.raw_token) row.id (RequestPasswordReset.expires_at d env₀).stored t₀ ∧
      ¬ Spent (hash_token env₀.raw_token) t₀ := by
  obtain ⟨row, hrow, hemail, hissues⟩ := hissue.effect.resolve_left hissued
  have hmem : RequestPasswordReset.token_row d env₀ row.id ∈ t₀.password_reset_tokens.rows :=
    hissues.tokens ▸ List.mem_append_right _ (List.mem_singleton.mpr rfl)
  refine ⟨row, hrow, hemail, hissues.users, ⟨_, hmem, rfl, rfl, rfl⟩, ?_⟩
  rintro ⟨token, htoken, hhash, hused⟩
  obtain rfl := t₀.password_reset_tokens.eq_of_key htoken hmem hhash
  cases hused

/-- The row of an account and that of its token can be written together. -/
theorem exists_resetsPassword {user : User} {token : PasswordResetTokenModel} (env : Env) (hrow : row ∈ s.users.rows)
    (hphone : user.phone_number = row.phone_number) (htoken : token ∈ s.password_reset_tokens.rows) :
    ∃ t, ResetsPassword user row (UserModel.flush row (assigned env user row) row) token s t := by
  have hapart : ∀ a ∈ s.users.rows, a.id ≠ row.id → a.phone_number ≠ user.phone_number := by
    intro a ha hne hsame
    exact hne (congrArg UserModel.id (s.users.eq_of_clash ha hrow
      (clash_user_iff.mpr (Or.inr (Or.inr (hsame.trans hphone))))))
  obtain ⟨u, hcommit⟩ := exists_commit_update env hrow hapart
  have hrewrites := (commit_update_of_same_phone hrow hphone).mp hcommit
  obtain ⟨tokens, hmarks⟩ :=
    Table.exists_replaces (PasswordResetTokenModel.keeps_flush token { token with used := true }) htoken
  have hflush :
      PasswordResetTokenModel.flush token { token with used := true } token = { token with used := true } := by
    simp only [PasswordResetTokenModel.flush, column_loaded]
  exact ⟨{ u with password_reset_tokens := tokens }, hrewrites.users, hrewrites.updated, hflush ▸ hmarks,
    hrewrites.permissions⟩

theorem ResetPassword.serve_of_invalid {cmd : ResetPasswordCommand} (h : get_valid env cmd.token s = none) :
    (AccountCall.ResetPassword cmd).serve d env s =
      (.error (TokenExpiredOrInvalid "Le lien de réinitialisation est invalide ou a expiré."), s) := by
  have hprepare : ResetPassword.prepare d env cmd s =
      .error (TokenExpiredOrInvalid "Le lien de réinitialisation est invalide ou a expiré.") := by
    rw [ResetPassword.prepare, h]
    rfl
  have hbody : ResetPassword.transaction d env cmd s =
      .error (TokenExpiredOrInvalid "Le lien de réinitialisation est invalide ou a expiré.") :=
    Transaction.bind_eq_error_iff.mpr (Or.inl (Transaction.reads_eq_error_iff.mpr hprepare))
  exact outcome_eq_error_iff.mpr (after_commit_eq_error_iff.mpr (Or.inl (atomically_eq_error_iff.mpr ⟨hbody, rfl⟩)))

/-- With a valid token of an account whose role is known, the reset is committed. -/
theorem ResetPassword.exists_step {raw_token new_password : String} {token : PasswordResetTokenModel} {user : User}
    (hvalid : get_valid env raw_token s = some token) (hget : s.users.get token.user_id = some row)
    (hshows : row.Shows user) : ∃ t new, AccountStep d s (.ResetPassword ⟨raw_token, new_password⟩, env) t ∧
      UserModel.Updated (user.with_password (d.pwd_context.hash env.salt new_password)) row new ∧
      Table.Replaces s.users row new t.users := by
  obtain ⟨t, hresets⟩ := exists_resetsPassword env (Table.mem_of_get hget)
    (hshows.same_phone (d.pwd_context.hash env.salt new_password)) (get_valid_eq_some_iff.mp hvalid).1
  have hbody : ResetPassword.transaction d env ⟨raw_token, new_password⟩ s = _ :=
    ResetPassword.transaction_eq_ok_iff.mpr ⟨token, row, user, hvalid, hget, hshows, rfl, hresets⟩
  refine ⟨t, _, ?_, hresets.updated, hresets.users⟩
  rw [AccountStep, AccountCall.serve, outcome_snd, ResetPassword.execute, after_commit_snd,
    atomically_eq_ok_iff.mpr hbody]

/-- The reset gives the account the password and no other account anything, and who has it logs in with that
password, unless the account is inactive. -/
structure LetsIn (d : Deployment) (env : Env) (email new_password : String) (user_id : UUID) (s t : AccountStore) :
    Prop where
  account : ∃ row, t.users.get user_id = some row ∧ row.hashed_password = d.pwd_context.hash env.salt new_password ∧
    ∀ env' : Env, ∃ user, row.Shows user ∧ LoginUser.execute d env' ⟨email, new_password⟩ t =
      (if row.is_active = false then .error (AccountInactive "Ce compte est désactivé.")
      else .ok {
        access_token := d.jwt.encode (LoginUser.payload d env' user) d.settings.secret_key d.settings.jwt_algorithm
        user_id := row.id
        role := row.role }, t)
  others : ∀ other, other ≠ user_id → t.users.get other = s.users.get other

/-- What a reset with a valid token does. -/
theorem letsIn_of_valid {raw_token email new_password : String} {token : PasswordResetTokenModel}
    (hlower : d.LowersOnce)
    (hverify : d.pwd_context.verify new_password (d.pwd_context.hash env.salt new_password) = true)
    (hidentified : Identified d s) (hvalid : get_valid env raw_token s = some token)
    (hget : s.users.get token.user_id = some row) (hemail : d.lower email = row.email)
    (hstep : AccountStep d s (.ResetPassword ⟨raw_token, new_password⟩, env) t) :
    LetsIn d env email new_password token.user_id s t := by
  obtain ⟨user, hshows⟩ := UserModel.exists_shows (hidentified.role row (Table.mem_of_get hget))
  obtain ⟨served, new, hserved, hupdated, hreplaces⟩ := ResetPassword.exists_step hvalid hget hshows
  obtain rfl : served = t := Eq.trans (Eq.symm hserved) hstep
  have hid : row.id = token.user_id := Table.key_of_get hget
  have hnew : new.hashed_password = d.pwd_context.hash env.salt new_password := hupdated.hashed_password
  refine ⟨⟨new, hid ▸ hreplaces.get_self, hnew, fun env' => ?_⟩,
    fun other hother => hreplaces.get_other (fun heq => hother (heq.trans hid))⟩
  have hlogin : ∃ shown, new.Shows shown ∧ LoginUser.execute d env' ⟨email, new_password⟩ served = _ :=
    LoginUser.execute_of_row (hidentified.step hlower hstep) (hreplaces.mem_iff.mpr (Or.inr rfl))
      (hemail.trans hupdated.email.symm)
  obtain ⟨shown, hshown, heq⟩ := hlogin
  rw [hnew, hverify, if_neg (by decide : ¬ true = false)] at heq
  exact ⟨shown, hshown, heq⟩

/-- A link that was sent works from then on until it expires or is used, whatever else is requested in the meantime:
other links, new passwords, other roles and profiles. When it does not work nothing changes. -/
theorem reset_link_works (env : Env) (new_password : String) {earlier : List (AccountCall × Env)}
    {cmd : RequestPasswordResetCommand} {env₀ : Env} (hlower : d.LowersOnce)
    (hverify : d.pwd_context.verify new_password (d.pwd_context.hash env.salt new_password) = true)
    (hinit : init.users.rows = []) (hbefore : Execution (AccountStep d) init earlier s₀)
    (hissue : AccountStep d s₀ (.RequestPasswordReset cmd, env₀) t₀) (hissued : t₀ ≠ s₀)
    (hafter : Execution (AccountStep d) t₀ labels s) :
    ∃ row ∈ s₀.users.rows, row.email = d.lower cmd.email ∧
      (env.read_at < (RequestPasswordReset.expires_at d env₀).instant ∧
          ¬ UsedOn d (hash_token env₀.raw_token) t₀ labels s →
        LetsIn d env cmd.email new_password row.id s
          ((AccountCall.ResetPassword ⟨env₀.raw_token, new_password⟩).serve d env s).2) ∧
      (¬ (env.read_at < (RequestPasswordReset.expires_at d env₀).instant ∧
          ¬ UsedOn d (hash_token env₀.raw_token) t₀ labels s) →
        (AccountCall.ResetPassword ⟨env₀.raw_token, new_password⟩).serve d env s =
          (.error (TokenExpiredOrInvalid "Le lien de réinitialisation est invalide ou a expiré."), s)) := by
  obtain ⟨first, hfirst, hemail, husers, hlinked, hfresh⟩ := linked_of_request hissue hissued
  have hempty : Identified d init := ⟨by simp [hinit], by simp [hinit], by simp [hinit]⟩
  have hidentified : Identified d s := ((hbefore.snoc hissue).trans hafter).invariant (Identified d)
    (fun h hstep => h.step hlower hstep) hempty
  obtain ⟨token, htoken, hhash, huser, hexpires⟩ := hafter.invariant _ (fun h hstep => h.step hstep) hlinked
  have hused : UsedOn d (hash_token env₀.raw_token) t₀ labels s ↔ token.used = true := by
    rw [← spent_iff_usedOn hfresh hafter]
    constructor
    · rintro ⟨spent, hspent, hsame, hmarked⟩
      exact s.password_reset_tokens.eq_of_key htoken hspent (hhash.trans hsame.symm) ▸ hmarked
    · exact fun hmarked => ⟨token, htoken, hhash, hmarked⟩
  have hexpiry : token.expires_at.instant = (RequestPasswordReset.expires_at d env₀).instant := by
    rw [hexpires, datetime.instant_stored, RequestPasswordReset.expires_at, datetime.instant_utc]
    rfl
  have hvalid_iff : get_valid env env₀.raw_token s = some token ↔
      env.read_at < (RequestPasswordReset.expires_at d env₀).instant ∧
        ¬ UsedOn d (hash_token env₀.raw_token) t₀ labels s := by
    rw [get_valid_eq_some_iff, hused, hexpiry, Bool.not_eq_true]
    constructor
    · rintro ⟨-, -, hunused, hlive⟩
      exact ⟨hlive, hunused⟩
    · rintro ⟨hlive, hunused⟩
      exact ⟨htoken, hhash, hunused, hlive⟩
  refine ⟨first, hfirst, hemail, fun hworks => ?_, fun hnot => ?_⟩
  · obtain ⟨row, hget, hsame⟩ := email_of_run hafter (husers ▸ Table.get_of_mem hfirst)
    have hget' : s.users.get token.user_id = some row := huser ▸ hget
    rw [← huser]
    exact letsIn_of_valid hlower hverify hidentified (hvalid_iff.mpr hworks) hget' (hemail.symm.trans hsame.symm) rfl
  · refine ResetPassword.serve_of_invalid (Option.eq_none_iff_forall_ne_some.mpr fun other hother => hnot ?_)
    obtain ⟨hmem, hsame, -, -⟩ := get_valid_eq_some_iff.mp hother
    obtain rfl := s.password_reset_tokens.eq_of_key hmem htoken (hsame.trans hhash.symm)
    exact hvalid_iff.mp hother

/-- An account is registered, a link is sent, and the password is changed in the meantime. -/
theorem link_outlives_change :
    ∃ s₀ s, Execution (AccountStep (.small "")) .empty
        [(.RegisterUser ⟨"ada@sigis.cm", "Ada", "650000001", "password", .HOST⟩, Env.small 0)] s₀ ∧
      Execution (AccountStep (.small "")) s₀
        [(.RequestPasswordReset ⟨"Ada@Sigis.cm"⟩, Env.small 0),
         (.ChangePassword ⟨(Env.small 0).user_id, "password", "other"⟩, Env.small 1)] s ∧
      ∃ row ∈ s₀.users.rows, row.email = "ada@sigis.cm" ∧
        LetsIn (.small "") (Env.small 2) "Ada@Sigis.cm" "new password" row.id s
          ((AccountCall.ResetPassword ⟨"token", "new password"⟩).serve (.small "") (Env.small 2) s).2 := by
  have hbefore : Execution (AccountStep (.small "")) .empty
      [(.RegisterUser ⟨"ada@sigis.cm", "Ada", "650000001", "password", .HOST⟩, Env.small 0)] _ := .single rfl
  have hissue : AccountStep (.small "")
      ((AccountCall.RegisterUser ⟨"ada@sigis.cm", "Ada", "650000001", "password", .HOST⟩).serve (.small "")
        (Env.small 0) .empty).2 (.RequestPasswordReset ⟨"Ada@Sigis.cm"⟩, Env.small 0) _ := rfl
  have hafter (t : AccountStore) : Execution (AccountStep (.small "")) t
      [(.ChangePassword ⟨(Env.small 0).user_id, "password", "other"⟩, Env.small 1)] _ := .single rfl
  obtain ⟨row, hrow, hemail, hworks, -⟩ :=
    reset_link_works (Env.small 2) "new password" (Deployment.lowersOnce_small "") (by decide +kernel) rfl hbefore
      hissue (fun hsame => absurd (congrArg (fun s => s.password_reset_tokens.rows.length) hsame) (by decide +kernel))
      (hafter _)
  refine ⟨_, _, hbefore, .cons hissue (hafter _), row, hrow, hemail.trans (by decide +kernel),
    hworks ⟨by decide +kernel, ?_⟩⟩
  rintro ⟨x, cmd, env, y, htakes, -, -⟩
  have hmem := htakes.mem
  simp at hmem

end sigis.accounts
