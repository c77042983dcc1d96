import Sigis.Accounts.Passwords
import Sigis.Lib.Overlap

open guarded relational transactional transition

namespace sigis.accounts

open accounts.UserAuthRepositoryImpl PasswordResetTokenRepositoryImpl

/-- Resets side by side: each reads the committed store in its own session and commits the new
hash and the used token later, without a lock or a version. -/
def reset_database (d : Deployment) : Database AccountStore (Env × ResetPasswordCommand) User (List Write) Error where
  prepare request s := ResetPassword.prepare d request.1 request.2 s
  commit s writes := s.commit writes
  refused := .IntegrityError

variable {d : Deployment} {env : Env} {cmd : ResetPasswordCommand} {s t u : AccountStore} {ι : Type}
  {request : ι → Env × ResetPasswordCommand} {raw_token : String}

/-- Marking a token that was read unused leaves the one with its hash used, whatever has become
of it. -/
theorem spent_of_mark {token : PasswordResetTokenModel} (hunused : token.used = false)
    (h : (Write.update_reset_token token { token with used := true }).apply s = some t) :
    Spent token.token_hash t := by
  obtain ⟨tokens, hupdate, rfl⟩ := Option.map_eq_some_iff.mp h
  obtain ⟨stored, hstored⟩ := Table.get_isSome_of_update hupdate
  have hget := Table.get_update (PasswordResetTokenModel.keeps_flush token { token with used := true }) hupdate
    token.token_hash
  rw [if_pos rfl, hstored, Option.map_some] at hget
  refine ⟨_, Table.mem_of_get hget, Table.key_of_get hget, ?_⟩
  simp only [PasswordResetTokenModel.flush, hunused]
  rfl

/-- What a reset commits uses its token. -/
theorem spent_of_commit {user : User} {writes : List Write}
    (hprepare : ResetPassword.prepare d env cmd s = .ok (user, writes))
    (hcommit : t.commit writes = some u) : Spent (hash_token cmd.token) u := by
  obtain ⟨token, row, shown, hvalid, -, -, -, rfl⟩ := ResetPassword.prepare_eq_ok_iff.mp hprepare
  obtain ⟨-, hhash, hunused, -⟩ := get_valid_eq_some_iff.mp hvalid
  obtain ⟨v, -, hmark⟩ := AccountStore.commit_pair.mp hcommit
  exact hhash ▸ spent_of_mark hunused hmark

/-- The token of a family of resets that share it is valid when one of them reads, and used
once one of them has committed. -/
theorem reset_gate (htoken : ∀ i, (request i).2.token = raw_token) :
    Gate (reset_database d) request (fun _ => True) (fun _ => True) (Spent (hash_token raw_token)) where
  opened := by
    intro i s answer writes _ hprepare _
    obtain ⟨token, _, _, hvalid, _⟩ := ResetPassword.prepare_eq_ok_iff.mp hprepare
    exact htoken i ▸ not_spent_of_valid hvalid
  closes := fun {i _ _ _ _ _} _ hprepare _ hcommit => htoken i ▸ spent_of_commit hprepare hcommit
  stays := fun {i _ _ _ _ _} hprepare _ hcommit => htoken i ▸ spent_of_commit hprepare hcommit

/-- Whoever reads after a reset has committed is told that the token is invalid. -/
theorem prepare_of_spent (h : Spent (hash_token cmd.token) s) :
    ResetPassword.prepare d env cmd s =
      .error (TokenExpiredOrInvalid "Le lien de réinitialisation est invalide ou a expiré.") := by
  have hnone : get_valid env cmd.token s = none := by
    cases hvalid : get_valid env cmd.token s with
    | none => rfl
    | some token => exact absurd h (not_spent_of_valid hvalid)
  rw [ResetPassword.prepare, hnone]
  rfl

variable [DecidableEq ι] {s₀ : AccountStore} {labels : List (Event ι)}
  {c : Config AccountStore ι User (List Write) Error}

/-- The reset has committed its new password. -/
def Committed (c : Config AccountStore ι User (List Write) Error) (i : ι) : Prop := c.TookEffect (fun _ => True) i

/-- At most one of the resets with one token commits exactly when no two that commit overlap,
as in every run without two that overlap at all; whoever reads after one has committed is
refused. -/
theorem resets_single_use_iff (htoken : ∀ i, (request i).2.token = raw_token)
    (hrun : Execution (Step (reset_database d) request) (Config.start s₀) labels c) :
    ((∀ i j, Committed c i → Committed c j → i = j) ↔
        ∀ i j, i ≠ j → Committed c i → Committed c j → ¬ Overlap (reset_database d) request s₀ labels c i j) ∧
      ((∀ i j, i ≠ j → ¬ Overlap (reset_database d) request s₀ labels c i j) →
        ∀ i j, Committed c i → Committed c j → i = j) ∧
      ∀ i, Committed c i → ∀ j, ResetPassword.prepare d (request j).1 (request j).2 c.store =
        .error (TokenExpiredOrInvalid "Le lien de réinitialisation est invalide ou a expiré.") := by
  have hgate := reset_gate (d := d) htoken
  have hoverlap {i j : ι} (hne : i ≠ j) (hi : Committed c i) (hj : Committed c j) :
      Overlap (reset_database d) request s₀ labels c i j :=
    hgate.overlap_of_holds hrun trivial trivial hne hi (Or.inl hj)
  refine ⟨⟨?_, ?_⟩, ?_, ?_⟩
  · exact fun hsingle i j hne hi hj _ => hne (hsingle i j hi hj)
  · intro hapart i j hi hj
    by_contra hne
    exact hapart i j hne hi hj (hoverlap hne hi hj)
  · intro hapart i j hi hj
    by_contra hne
    exact hapart i j hne (hoverlap hne hi hj)
  · intro i hi j
    exact prepare_of_spent (htoken j ▸ hgate.closed_of_took_effect hrun trivial hi)

namespace password_pilot

def account : UserModel :=
  ⟨⟨"00000000-0000-4000-8000-000000000001"⟩, "ada@sigis.cm", "Ada", "+237650000001", "salt$password", "HOST", true,
    none, none⟩

/-- A valid token of the account. -/
def token : PasswordResetTokenModel := ⟨account.id, hash_token "token", ⟨1000, none⟩, false, ⟨0, none⟩⟩

def store : AccountStore :=
  ⟨⟨[account], List.pairwise_singleton _ _⟩, ⟨[token], List.pairwise_singleton _ _⟩, .empty⟩

/-- Two resets with the same token and different passwords. -/
def rivals (i : Bool) : Env × ResetPasswordCommand := (Env.small 1, ⟨"token", if i then "first" else "second"⟩)

def shown : User := ⟨account.id, account.email, account.full_name, account.phone_number, account.hashed_password, .HOST,
  true, none, none⟩

def written (i : Bool) : User := shown.with_password (if i then "salt$first" else "salt$second")

def session (i : Bool) : List Write :=
  [.update_user account (assigned (Env.small 1) (written i) account),
    .update_reset_token token { token with used := true }]

theorem prepare_rivals (i : Bool) :
    (reset_database (.small "")).prepare (rivals i) store = .ok (written i, session i) := by
  refine ResetPassword.prepare_eq_ok_iff.mpr ⟨token, account, shown, ?_, by decide +kernel, ?_, ?_, rfl⟩
  · exact get_valid_eq_some_iff.mpr ⟨List.mem_singleton.mpr rfl, rfl, rfl, (by decide : (1 : Int) < 1000)⟩
  · exact ⟨rfl, rfl, rfl, rfl, rfl, rfl, rfl, rfl, rfl⟩
  · cases i <;> rfl

end password_pilot

open password_pilot in
/-- Two resets that read the token before either commits both change the password. -/
theorem token_used_twice : ∃ labels c,
    Execution (Step (reset_database (.small "")) rivals) (Config.start store) labels c ∧
      Committed c true ∧ Committed c false := by
  obtain ⟨u, hboth⟩ := Option.isSome_iff_exists.mp
    (show ((store.commit (session true)).bind fun t => t.commit (session false)).isSome by decide +kernel)
  obtain ⟨t, hfirst, hsecond⟩ := Option.bind_eq_some_iff.mp hboth
  exact ⟨[.read true, .read false, .commit true, .commit false], _,
    .cons (.read_ok rfl (prepare_rivals true)) (.cons (.read_ok rfl (prepare_rivals false))
      (.cons (.commit rfl hfirst) (.single (.commit rfl hsecond)))), ⟨_, _, rfl, trivial⟩, _, _, rfl, trivial⟩

open password_pilot in
/-- One of the resets has committed, the other has not read yet. -/
theorem token_used_once : ∃ c,
    Execution (Step (reset_database (.small "")) rivals) (Config.start store) [.read true, .commit true] c ∧
      Committed c true ∧
      ((∀ i j, Committed c i → Committed c j → i = j) ↔
        ∀ i j, i ≠ j → Committed c i → Committed c j →
          ¬ Overlap (reset_database (.small "")) rivals store [.read true, .commit true] c i j) ∧
      ((∀ i j, i ≠ j → ¬ Overlap (reset_database (.small "")) rivals store [.read true, .commit true] c i j) →
        ∀ i j, Committed c i → Committed c j → i = j) ∧
      ∀ i, Committed c i → ∀ j, ResetPassword.prepare (.small "") (rivals j).1 (rivals j).2 c.store =
        .error (TokenExpiredOrInvalid "Le lien de réinitialisation est invalide ou a expiré.") := by
  obtain ⟨t, ht⟩ := Option.isSome_iff_exists.mp (show (store.commit (session true)).isSome by decide +kernel)
  have hrun : Execution (Step (reset_database (.small "")) rivals) (Config.start store) [.read true, .commit true] _ :=
    .cons (.read_ok rfl (prepare_rivals true)) (.single (.commit rfl ht))
  exact ⟨_, hrun, ⟨_, _, rfl, trivial⟩, resets_single_use_iff (fun _ => rfl) hrun⟩

end sigis.accounts
