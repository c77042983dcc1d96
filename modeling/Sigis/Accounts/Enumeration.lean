import Sigis.Accounts.Atomicity
import Sigis.Api.Auth

open guarded transactional

namespace sigis.accounts

open accounts.UserAuthRepositoryImpl

/-- The response with its body, or an error: every exception the endpoint lets through is
answered by the same internal server error. -/
def observable {α : Type} (done : Except Error α × AccountStore) : Option α := done.1.toOption

/-- The e-mail is sent, or only logged where no server is set. -/
def Accepts (d : Deployment) (env : Env) (mail : Mail) : Prop :=
  d.settings.mail_server = "" ∨ env.smtp mail = .ok ()

/-- The account with the address can be written to, if there is one: its role is a role, the
drawn token is new, and the mail server takes its e-mail. -/
def Deliverable (d : Deployment) (env : Env) (email : String) (s : AccountStore) : Prop :=
  ∀ row ∈ s.users.rows, row.email = d.lower email →
    (∃ role : Role, role.value = row.role) ∧
      (∀ token ∈ s.password_reset_tokens.rows, token.token_hash ≠ hash_token env.raw_token) ∧
      Accepts d env (.password_reset row.email row.full_name env.raw_token)

variable {d : Deployment} {env : Env} {s : AccountStore} {body : RequestPasswordResetCommand}

theorem send_eq_ok_iff {mail : Mail} {u : Unit} : EmailService.send d env mail = .ok u ↔ Accepts d env mail := by
  unfold EmailService.send Accepts
  split
  · next hserver => simp [hserver]
  · next hserver =>
    rw [mapError_eq_ok, or_iff_right hserver]

/-- The block ends in every store in which the account can be written to. -/
theorem exists_transaction (h : Deliverable d env body.email s) :
    ∃ found t, RequestPasswordReset.transaction d env body s = .ok (found, t) ∧
      ∀ user, found = some user → Accepts d env (.password_reset user.email user.full_name env.raw_token) := by
  by_cases hnone : ∀ row ∈ s.users.rows, row.email ≠ d.lower body.email
  · refine ⟨none, s, RequestPasswordReset.transaction_eq_ok_iff.mpr (Or.inl ⟨hnone, rfl, rfl⟩), ?_⟩
    intro user hsome
    cases hsome
  · simp only [not_forall, not_not] at hnone
    obtain ⟨row, hrow, hemail⟩ := hnone
    obtain ⟨hrole, hnew, haccepts⟩ := h row hrow hemail
    obtain ⟨user, hshows⟩ := UserModel.exists_shows hrole
    obtain ⟨t, ht⟩ := exists_commit_token user.id (RequestPasswordReset.expires_at d env) hnew
    refine ⟨some user, t, RequestPasswordReset.transaction_eq_ok_iff.mpr
      (Or.inr ⟨row, user, hrow, hemail, hshows, rfl, commit_token_eq_some_iff.mp ht⟩), ?_⟩
    intro shown hshown
    obtain rfl := Option.some.inj hshown
    rw [hshows.email, hshows.full_name]
    exact haccepts

/-- The request is answered normally exactly where the account can be written to. -/
theorem observable_iff :
    observable (request_password_reset d env body s) = some RESET_REQUESTED ↔ Deliverable d env body.email s := by
  have hok : observable (request_password_reset d env body s) = some RESET_REQUESTED ↔
      ∃ t, RequestPasswordReset.execute d env body s = (.ok (), t) := by
    unfold observable request_password_reset
    obtain ⟨result, t⟩ := RequestPasswordReset.execute d env body s
    cases result <;> simp [Except.map, Except.toOption]
  rw [hok]
  constructor
  · rintro ⟨t, hexecute⟩ row hrow hemail
    obtain ⟨found, hbody, hsend⟩ := after_commit_eq_ok_iff.mp hexecute
    rcases RequestPasswordReset.transaction_eq_ok_iff.mp (atomically_eq_ok_iff.mp hbody) with
      ⟨hnone, -⟩ | ⟨same, user, hsame, hsameemail, hshows, rfl, hissues⟩
    · exact absurd hemail (hnone row hrow)
    · obtain rfl : same = row := s.users.eq_of_clash hsame hrow
        (clash_user_iff.mpr (Or.inr (Or.inl (hsameemail.trans hemail.symm))))
      refine ⟨⟨user.role, hshows.role⟩, hissues.new, ?_⟩
      rw [← hshows.email, ← hshows.full_name]
      exact send_eq_ok_iff.mp hsend
  · intro h
    obtain ⟨found, t, hbody, haccepts⟩ := exists_transaction h
    refine ⟨t, after_commit_eq_ok_iff.mpr ⟨found, atomically_eq_ok_iff.mpr hbody, ?_⟩⟩
    cases found with
    | none => rfl
    | some user => exact send_eq_ok_iff.mpr (haccepts user rfl)

/-- Nothing else is ever answered. -/
theorem observable_cases (d : Deployment) (env : Env) (body : RequestPasswordResetCommand) (s : AccountStore) :
    observable (request_password_reset d env body s) = none ∨
      observable (request_password_reset d env body s) = some RESET_REQUESTED := by
  unfold observable request_password_reset
  obtain ⟨result, t⟩ := RequestPasswordReset.execute d env body s
  cases result with
  | error e => exact Or.inl rfl
  | ok u => exact Or.inr rfl

/-- Two stores show the same exactly when the account with the address can be written to in
both or in neither. Against a store without such an account: exactly when it can be written to. -/
theorem enumeration_iff (d : Deployment) (env : Env) (body : RequestPasswordResetCommand) (s₁ s₂ : AccountStore) :
    (observable (request_password_reset d env body s₁) = observable (request_password_reset d env body s₂) ↔
      (Deliverable d env body.email s₁ ↔ Deliverable d env body.email s₂)) ∧
    ((∀ row ∈ s₂.users.rows, row.email ≠ d.lower body.email) →
      (observable (request_password_reset d env body s₁) = observable (request_password_reset d env body s₂) ↔
        Deliverable d env body.email s₁)) := by
  have hiff : observable (request_password_reset d env body s₁) = observable (request_password_reset d env body s₂) ↔
      (Deliverable d env body.email s₁ ↔ Deliverable d env body.email s₂) := by
    rw [← observable_iff, ← observable_iff]
    rcases observable_cases d env body s₁ with h₁ | h₁ <;>
      rcases observable_cases d env body s₂ with h₂ | h₂ <;>
      simp [h₁, h₂]
  refine ⟨hiff, fun hnone => hiff.trans ?_⟩
  have hdeliverable : Deliverable d env body.email s₂ := fun row hrow hemail => absurd hemail (hnone row hrow)
  exact iff_true_right hdeliverable

open mail_pilot in
/-- A mail server that refuses the e-mail tells a registered address from another one. -/
theorem refused_mail_shows_account :
    observable (request_password_reset (.small "smtp.sigis.cm") refusing ⟨"ada@sigis.cm"⟩
        (registration.serve (.small "smtp.sigis.cm") refusing .empty).2) ≠
      observable (request_password_reset (.small "smtp.sigis.cm") refusing ⟨"ada@sigis.cm"⟩ .empty) := by
  decide +kernel

end sigis.accounts
