import Mathlib.Data.Set.Function
import Sigis.Accounts.Requests

open guarded relational transactional transition

namespace sigis.accounts

open accounts.UserAuthRepositoryImpl PasswordResetTokenRepositoryImpl AdminSeedDemoUsers

/-- What lets a request rewrite the password of an account: the password it has, or a valid
token of its own. -/
def AccountCall.Authorises (d : Deployment) (env : Env) (s : AccountStore) (u : UUID) (row : UserModel) :
    AccountCall → Prop
  | .ChangePassword cmd => cmd.user_id = u ∧ d.pwd_context.verify cmd.current_password row.hashed_password = true
  | .ResetPassword cmd => ∃ token, get_valid env cmd.token s = some token ∧ token.user_id = u
  | _ => False

variable {d : Deployment} {env : Env} {s t init : AccountStore} {call : AccountCall} {u : UUID} {row : UserModel}
  {labels : List (AccountCall × Env)}

/-- An account that is edited keeps its e-mail and its password. -/
theorem Edits.get {user edited : User} {user_id : UUID} (hedits : Edits user_id user edited s t)
    (hpassword : edited.hashed_password = user.hashed_password) (hget : s.users.get u = some row) :
    ∃ row', t.users.get u = some row' ∧ row'.email = row.email ∧ row'.hashed_password = row.hashed_password := by
  obtain ⟨old, new, -, hshows, hrewrites⟩ := hedits
  have hsame : new.hashed_password = old.hashed_password :=
    hrewrites.updated.hashed_password.trans (hpassword.trans hshows.hashed_password)
  exact hrewrites.users.get_related (R := fun a b => b.email = a.email ∧ b.hashed_password = a.hashed_password)
    (fun _ => ⟨rfl, rfl⟩) ⟨hrewrites.updated.email, hsame⟩ hget

/-- A row that is replaced under authority; the other accounts stay as they are. -/
theorem replaces_account {old new : UserModel} (hreplaces : Table.Replaces s.users old new t.users)
    (hemail : new.email = old.email) (hauthorises : call.Authorises d env s old.id old)
    (hget : s.users.get u = some row) :
    ∃ row', t.users.get u = some row' ∧ row'.email = row.email ∧
      (row'.hashed_password ≠ row.hashed_password →
        call.Authorises d env s u row ∧ ∀ v, v ≠ u → t.users.get v = s.users.get v) := by
  obtain rfl : row.id = u := Table.key_of_get hget
  refine hreplaces.get_related (R := fun a b => b.email = a.email ∧ (b.hashed_password ≠ a.hashed_password →
    call.Authorises d env s a.id a ∧ ∀ v, v ≠ a.id → t.users.get v = s.users.get v)) ?_ ?_ hget
  · exact fun _ => ⟨rfl, fun hne => absurd rfl hne⟩
  · exact ⟨hemail, fun _ => ⟨hauthorises, fun v hv => hreplaces.get_other hv⟩⟩

/-- An account stays and keeps its e-mail; its password changes by its old one or by its token. -/
theorem AccountStep.account (hstep : AccountStep d s (call, env) t) (hget : s.users.get u = some row) :
    ∃ row', t.users.get u = some row' ∧ row'.email = row.email ∧
      (row'.hashed_password ≠ row.hashed_password →
        call.Authorises d env s u row ∧ ∀ v, v ≠ u → t.users.get v = s.users.get v) := by
  rcases hstep.effect with rfl | heffect
  · exact ⟨row, hget, rfl, fun hne => absurd rfl hne⟩
  cases call with
  | RegisterUser cmd =>
    obtain ⟨phone_vo, -, hadds⟩ := heffect
    exact ⟨row, hadds.get hget, rfl, fun hne => absurd rfl hne⟩
  | LoginUser cmd => exact heffect.elim
  | ChangePassword cmd =>
    obtain ⟨old, user, new, hold, -, hverify, hrewrites⟩ := heffect
    have hid : old.id = cmd.user_id := Table.key_of_get hold
    exact replaces_account hrewrites.users hrewrites.updated.email ⟨hid.symm, hverify⟩ hget
  | RequestPasswordReset cmd =>
    obtain ⟨_, _, _, hissues⟩ := heffect
    exact ⟨row, hissues.users.symm ▸ hget, rfl, fun hne => absurd rfl hne⟩
  | ResetPassword cmd =>
    obtain ⟨token, old, user, new, htoken, hold, -, hresets⟩ := heffect
    have hid : old.id = token.user_id := Table.key_of_get hold
    exact replaces_account hresets.users hresets.updated.email ⟨token, htoken, hid.symm⟩ hget
  | update_user credentials user_id body =>
    obtain ⟨-, user, phone, -, -, -, hedits⟩ := heffect
    obtain ⟨row', hget', hemail, hsame⟩ := hedits.get rfl hget
    exact ⟨row', hget', hemail, fun hne => absurd hsame hne⟩
  | update_roles credentials user_id role =>
    obtain ⟨-, user, hedits⟩ := heffect
    obtain ⟨row', hget', hemail, hsame⟩ := hedits.get rfl hget
    exact ⟨row', hget', hemail, fun hne => absurd hsame hne⟩
  | seed_demo_users =>
    obtain ⟨created, hcreated⟩ := heffect
    exact ⟨row, CreatesDemos.get hcreated hget, rfl, fun hne => absurd rfl hne⟩

/-- Over a run an account keeps its e-mail. -/
theorem email_of_run (hrun : Execution (AccountStep d) s labels t) (hget : s.users.get u = some row) :
    ∃ row', t.users.get u = some row' ∧ row'.email = row.email := by
  refine hrun.invariant (fun s => ∃ row', s.users.get u = some row' ∧ row'.email = row.email) ?_ ⟨row, hget, rfl⟩
  rintro s ⟨call, env⟩ t ⟨before, hbefore, hemail⟩ hstep
  obtain ⟨after, hafter, hsame, -⟩ := hstep.account hbefore
  exact ⟨after, hafter, hsame.trans hemail⟩

/-- Only a request for a reset adds a token; a reset marks one, and nothing else writes them. -/
theorem AccountStep.tokens (hstep : AccountStep d s (call, env) t) :
    t.password_reset_tokens = s.password_reset_tokens ∨
      (∃ cmd row, call = .RequestPasswordReset cmd ∧ row ∈ s.users.rows ∧ row.email = d.lower cmd.email ∧
        IssuesToken (RequestPasswordReset.token_row d env row.id) s t) ∨
      ∃ cmd token, call = .ResetPassword cmd ∧ get_valid env cmd.token s = some token ∧
        Table.Replaces s.password_reset_tokens token { token with used := true } t.password_reset_tokens := by
  rcases hstep.effect with rfl | heffect
  · exact Or.inl rfl
  cases call with
  | RegisterUser cmd =>
    obtain ⟨phone_vo, -, hadds⟩ := heffect
    exact Or.inl hadds.tokens
  | LoginUser cmd => exact heffect.elim
  | ChangePassword cmd =>
    obtain ⟨_, _, _, _, _, _, hrewrites⟩ := heffect
    exact Or.inl hrewrites.tokens
  | RequestPasswordReset cmd =>
    obtain ⟨row, hrow, hemail, hissues⟩ := heffect
    exact Or.inr (Or.inl ⟨cmd, row, rfl, hrow, hemail, hissues⟩)
  | ResetPassword cmd =>
    obtain ⟨token, _, _, _, htoken, _, _, hresets⟩ := heffect
    exact Or.inr (Or.inr ⟨cmd, token, rfl, htoken, hresets.tokens⟩)
  | update_user credentials user_id body =>
    obtain ⟨_, _, _, _, _, _, _, _, _, _, hrewrites⟩ := heffect
    exact Or.inl hrewrites.tokens
  | update_roles credentials user_id role =>
    obtain ⟨_, _, _, _, _, _, hrewrites⟩ := heffect
    exact Or.inl hrewrites.tokens
  | seed_demo_users =>
    obtain ⟨created, hcreated⟩ := heffect
    exact Or.inl (hcreated.invariant (fun u => u.password_reset_tokens = s.password_reset_tokens)
      (fun h hcreates => hcreates.adds.tokens.trans h) rfl)

/-- A token that was used. -/
def Spent (token_hash : String) (s : AccountStore) : Prop :=
  ∃ token ∈ s.password_reset_tokens.rows, token.token_hash = token_hash ∧ token.used = true

/-- A used token stays used. -/
theorem Spent.of_run {token_hash : String} (hrun : Execution (AccountStep d) s labels t)
    (h : Spent token_hash s) : Spent token_hash t := by
  refine hrun.invariant (Spent token_hash) ?_ h
  rintro s ⟨call, env⟩ t ⟨token, hmem, hhash, hused⟩ hstep
  rcases hstep.tokens with hsame | ⟨_, _, _, _, _, hissues⟩ | ⟨cmd, marked, -, hvalid, hreplaces⟩
  · exact ⟨token, hsame ▸ hmem, hhash, hused⟩
  · exact ⟨token, hissues.tokens ▸ List.mem_append_left _ hmem, hhash, hused⟩
  · obtain ⟨hmarked, -, hunused, -⟩ := get_valid_eq_some_iff.mp hvalid
    refine ⟨token, hreplaces.mem_iff.mpr (Or.inl ⟨hmem, ?_⟩), hhash, hused⟩
    intro hkey
    rw [s.password_reset_tokens.eq_of_key hmem hmarked hkey, hunused] at hused
    cases hused

/-- A valid token is not one that was used. -/
theorem not_spent_of_valid {raw_token : String} {token : PasswordResetTokenModel}
    (hvalid : get_valid env raw_token s = some token) : ¬ Spent (hash_token raw_token) s := by
  rintro ⟨spent, hmem, hhash, hused⟩
  obtain ⟨htoken, hsame, hunused, -⟩ := get_valid_eq_some_iff.mp hvalid
  rw [s.password_reset_tokens.eq_of_key hmem htoken (hhash.trans hsame.symm), hunused] at hused
  cases hused

/-- A reset that returns, or that changes the tables, uses its token. -/
theorem spent_of_reset {cmd : ResetPasswordCommand} (hstep : AccountStep d s (.ResetPassword cmd, env) t)
    (h : t ≠ s ∨ ((AccountCall.ResetPassword cmd).serve d env s).1 = .ok ()) : Spent (hash_token cmd.token) t := by
  have heffect : (AccountCall.ResetPassword cmd).Effect d env s t := by
    rcases h with hne | hok
    · exact hstep.effect.resolve_left hne
    · obtain rfl := hstep
      obtain ⟨u, hexecute⟩ := outcome_eq_ok_iff.mp (Prod.ext hok rfl)
      obtain ⟨user, hbody, -⟩ := after_commit_eq_ok_iff.mp hexecute
      obtain ⟨token, row, user, htoken, hget, hshows, rfl, hresets⟩ :=
        ResetPassword.transaction_eq_ok_iff.mp (atomically_eq_ok_iff.mp hbody)
      exact ⟨token, row, user, _, htoken, hget, hshows, hresets⟩
  obtain ⟨token, _, _, _, hvalid, _, _, hresets⟩ := heffect
  obtain ⟨-, hhash, -, -⟩ := get_valid_eq_some_iff.mp hvalid
  exact ⟨_, hresets.tokens.mem_iff.mpr (Or.inr rfl), hhash, rfl⟩

/-- A stored token of a run that began without any was issued by one of its requests. -/
theorem token_issued {token : PasswordResetTokenModel} (hinit : init.password_reset_tokens.rows = [])
    (hrun : Execution (AccountStep d) init labels s) (htoken : token ∈ s.password_reset_tokens.rows) :
    ∃ s₀ cmd env t₀ row, Takes (AccountStep d) init labels s s₀ (.RequestPasswordReset cmd, env) t₀ ∧
      token.token_hash = hash_token env.raw_token ∧ s₀.users.get token.user_id = some row ∧
      row.email = d.lower cmd.email ∧ token.expires_at = (RequestPasswordReset.expires_at d env).stored := by
  obtain ⟨s₀, ⟨call, env⟩, t₀, htakes, hbefore, after, hafter, hhash, huser, hexpires⟩ :=
    hrun.exists_origin (P := fun s => ∃ r ∈ s.password_reset_tokens.rows,
      r.token_hash = token.token_hash ∧ r.user_id = token.user_id ∧ r.expires_at = token.expires_at)
      (by simp [hinit]) ⟨token, htoken, rfl, rfl, rfl⟩
  rcases htakes.taken.tokens with hsame | ⟨cmd, row, rfl, hrow, hemail, hissues⟩ | ⟨cmd, marked, -, -, hreplaces⟩
  · exact absurd ⟨after, hsame ▸ hafter, hhash, huser, hexpires⟩ hbefore
  · rw [hissues.tokens] at hafter
    rcases List.mem_append.mp hafter with hold | hnew
    · exact absurd ⟨after, hold, hhash, huser, hexpires⟩ hbefore
    · obtain rfl := List.mem_singleton.mp hnew
      exact ⟨s₀, cmd, env, t₀, row, htakes, hhash.symm, huser ▸ Table.get_of_mem hrow, hemail, hexpires.symm⟩
  · rcases hreplaces.mem_iff.mp hafter with ⟨hold, -⟩ | rfl
    · exact absurd ⟨after, hold, hhash, huser, hexpires⟩ hbefore
    · exact absurd ⟨marked, hreplaces.stored, hhash, huser, hexpires⟩ hbefore

/-- The tokens a request draws or presents. -/
def AccountCall.tokens (env : Env) : AccountCall → List String
  | .RequestPasswordReset _ => [env.raw_token]
  | .ResetPassword cmd => [cmd.token]
  | _ => []

def tokens_of (labels : List (AccountCall × Env)) : Set String := {raw | ∃ label ∈ labels, raw ∈ label.1.tokens label.2}

/-- A change of a password by the account that knows it. -/
def ByPassword (d : Deployment) (call : AccountCall) (u : UUID) (row : UserModel) : Prop :=
  ∃ cmd, call = .ChangePassword cmd ∧ cmd.user_id = u ∧
    d.pwd_context.verify cmd.current_password row.hashed_password = true

/-- A change of a password by a token that an earlier request drew for the e-mail of the account,
before it expires, and with which no reset returned or changed anything before. -/
def ByToken (d : Deployment) (init : AccountStore) (earlier : List (AccountCall × Env)) (s : AccountStore)
    (call : AccountCall) (env : Env) (row : UserModel) : Prop :=
  ∃ cmd, call = .ResetPassword cmd ∧
    (∃ s₀ cmd₀ env₀ t₀, Takes (AccountStep d) init earlier s s₀ (.RequestPasswordReset cmd₀, env₀) t₀ ∧
      env₀.raw_token = cmd.token ∧ d.lower cmd₀.email = row.email ∧
      env.read_at < (RequestPasswordReset.expires_at d env₀).instant) ∧
    ∀ s₁ cmd₁ env₁ t₁, Takes (AccountStep d) init earlier s s₁ (.ResetPassword cmd₁, env₁) t₁ →
      cmd₁.token = cmd.token →
        t₁ = s₁ ∧ ((AccountCall.ResetPassword cmd₁).serve d env₁ s₁).1 ≠ .ok ()

/-- The password of an account changes by its old one or by a token of its own, and then no
other account changes: in every run from a store without tokens, as long as the hash tells the
tokens of the run apart. -/
theorem password_authority {earlier : List (AccountCall × Env)} (hinit : init.password_reset_tokens.rows = [])
    (hrun : Execution (AccountStep d) init earlier s) (hstep : AccountStep d s (call, env) t)
    (hinj : Set.InjOn hash_token (tokens_of (earlier ++ [(call, env)]))) (hget : s.users.get u = some row) :
    ∃ row', t.users.get u = some row' ∧ (row'.hashed_password ≠ row.hashed_password →
      (ByPassword d call u row ∨ ByToken d init earlier s call env row) ∧
        ∀ v, v ≠ u → t.users.get v = s.users.get v) := by
  obtain ⟨row', hget', -, hchanged⟩ := hstep.account hget
  refine ⟨row', hget', fun hne => ?_⟩
  obtain ⟨hauthorises, hothers⟩ := hchanged hne
  refine ⟨?_, hothers⟩
  cases call with
  | ChangePassword cmd => exact Or.inl ⟨cmd, rfl, hauthorises⟩
  | ResetPassword cmd =>
    obtain ⟨token, hvalid, hu⟩ := hauthorises
    obtain ⟨htoken, hhash, -, hexpires⟩ := get_valid_eq_some_iff.mp hvalid
    refine Or.inr ⟨cmd, rfl, ?_, ?_⟩
    · obtain ⟨s₀, cmd₀, env₀, t₀, row₀, htakes, hissued, hrow₀, hemail, hstored⟩ :=
        token_issued hinit hrun htoken
      have hdrawn : env₀.raw_token ∈ tokens_of (earlier ++ [(.ResetPassword cmd, env)]) :=
        ⟨_, List.mem_append_left _ htakes.mem, List.mem_singleton.mpr rfl⟩
      have hpresented : cmd.token ∈ tokens_of (earlier ++ [(.ResetPassword cmd, env)]) :=
        ⟨_, List.mem_append_right _ (List.mem_singleton.mpr rfl), List.mem_singleton.mpr rfl⟩
      refine ⟨s₀, cmd₀, env₀, t₀, htakes, hinj hdrawn hpresented (hissued.symm.trans hhash), ?_, ?_⟩
      · obtain ⟨later, hlater⟩ := htakes.after
        obtain ⟨now, hnow, hsame⟩ := email_of_run (Execution.cons htakes.taken hlater) hrow₀
        rw [hu, hget, Option.some.injEq] at hnow
        rw [← hemail, ← hsame, hnow]
      · rw [hstored, datetime.instant_stored] at hexpires
        rw [RequestPasswordReset.expires_at, datetime.instant_utc]
        exact hexpires
    · intro s₁ cmd₁ env₁ t₁ htakes hsame
      obtain ⟨later, hlater⟩ := htakes.after
      by_contra hnot
      have hused : t₁ ≠ s₁ ∨ ((AccountCall.ResetPassword cmd₁).serve d env₁ s₁).1 = .ok () := by
        by_contra hneither
        rw [not_or, not_not] at hneither
        exact hnot hneither
      exact not_spent_of_valid hvalid (hsame ▸ (spent_of_reset htakes.taken hused).of_run hlater)
  | RegisterUser | LoginUser | RequestPasswordReset | update_user | update_roles | seed_demo_users =>
    exact hauthorises.elim

/-- An account is registered, a reset is requested for it, and the token is presented. -/
theorem password_authority_reset :
    ∃ s row, Execution (AccountStep (.small "")) .empty
      [(.RegisterUser ⟨"ada@sigis.cm", "Ada", "650000001", "password", .HOST⟩, Env.small 0),
       (.RequestPasswordReset ⟨"ada@sigis.cm"⟩, Env.small 0)] s ∧
      s.users.get (Env.small 0).user_id = some row ∧
      ∃ row', ((AccountCall.ResetPassword ⟨"token", "new password"⟩).serve (.small "") (Env.small 1) s).2.users.get
          (Env.small 0).user_id = some row' ∧
        (row'.hashed_password ≠ row.hashed_password →
          (ByPassword (.small "") (.ResetPassword ⟨"token", "new password"⟩) (Env.small 0).user_id row ∨
            ByToken (.small "") .empty
              [(.RegisterUser ⟨"ada@sigis.cm", "Ada", "650000001", "password", .HOST⟩, Env.small 0),
               (.RequestPasswordReset ⟨"ada@sigis.cm"⟩, Env.small 0)] s
              (.ResetPassword ⟨"token", "new password"⟩) (Env.small 1) row) ∧
            ∀ v, v ≠ (Env.small 0).user_id →
              ((AccountCall.ResetPassword ⟨"token", "new password"⟩).serve (.small "") (Env.small 1) s).2.users.get v =
                s.users.get v) := by
  have hrun : Execution (AccountStep (.small "")) .empty
      [(.RegisterUser ⟨"ada@sigis.cm", "Ada", "650000001", "password", .HOST⟩, Env.small 0),
       (.RequestPasswordReset ⟨"ada@sigis.cm"⟩, Env.small 0)] _ :=
    .cons rfl (.single rfl)
  refine ⟨_, ⟨(Env.small 0).user_id, "ada@sigis.cm", "Ada", "+237650000001", "salt$password", "HOST", true,
    some ⟨0, none⟩, none⟩, hrun, by decide +kernel, ?_⟩
  refine password_authority rfl hrun rfl ?_ (by decide +kernel)
  rintro a ⟨la, hla, ha⟩ b ⟨lb, hlb, hb⟩ -
  simp only [List.mem_append, List.mem_cons, List.not_mem_nil, or_false] at hla hlb
  rcases hla with (rfl | rfl) | rfl <;> rcases hlb with (rfl | rfl) | rfl <;>
    simp_all [AccountCall.tokens, Env.small]

end sigis.accounts
