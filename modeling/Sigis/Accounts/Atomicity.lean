import Sigis.Accounts.Requests

open guarded transactional

namespace sigis.accounts

/-- The requests that send an e-mail once they have committed. -/
def AccountCall.SendsMail : AccountCall → Prop
  | .RegisterUser _ | .ChangePassword _ | .RequestPasswordReset _ | .ResetPassword _ => True
  | _ => False

/-- The same surroundings with a mail server that accepts everything. -/
def Env.mail_accepted (env : Env) : Env := { env with smtp := fun _ => .ok () }

variable {α β : Type} {d : Deployment} {env : Env} {s t : AccountStore} {call : AccountCall} {e : Error} {mail : Mail}

/-- An e-mail that is accepted raises nothing. -/
theorem send_mail_accepted : EmailService.send d env.mail_accepted mail = .ok () := by
  unfold EmailService.send
  split <;> rfl

/-- The mail server raised it. -/
def Error.OfMail (e : Error) : Prop := ∃ exception, e = .MailError exception

/-- What a sending raises comes from the mail server. -/
theorem of_mail_send (h : EmailService.send d env mail = .error e) : e.OfMail := by
  obtain ⟨-, exception, -, heq⟩ := EmailService.send_eq_error h
  exact ⟨exception, heq⟩

theorem domain_error_not_of_mail (cls : ErrorClass) (message : String) : ¬ (Error.domain_error cls message).OfMail := by
  rintro ⟨exception, h⟩
  cases h

theorem value_error_not_of_mail (message : String) : ¬ (Error.ValueError message).OfMail := by
  rintro ⟨exception, h⟩
  cases h

/-- What a constraint refuses does not come from the mail server. -/
theorem raises_only_emit_not_of_mail {writes : List Write} : raises_only (emit writes s) (¬ ·.OfMail) := by
  refine raises_only_emit ?_
  rintro ⟨exception, h⟩
  cases h

/-- The unit of work of a registration never raises what the mail server does. -/
theorem RegisterUser.raises_only_transaction (cmd : RegisterUserCommand) (phone_vo : CameroonPhoneNumber) :
    raises_only (RegisterUser.transaction d env cmd phone_vo s) (¬ ·.OfMail) := by
  refine Transaction.raises_only_reads_bind (raises_only_get_by_email value_error_not_of_mail) fun _ _ => ?_
  refine Transaction.raises_only_lift_bind (raises_only_raise_if fun _ => domain_error_not_of_mail _ _) fun _ _ => ?_
  refine Transaction.raises_only_reads_bind (raises_only_get_by_phone value_error_not_of_mail) fun _ _ => ?_
  refine Transaction.raises_only_lift_bind (raises_only_raise_if fun _ => domain_error_not_of_mail _ _) fun _ _ => ?_
  exact Transaction.raises_only_bind raises_only_emit_not_of_mail fun _ _ _ => Transaction.raises_only_pure

/-- Nor does that of a change of password. -/
theorem ChangePassword.raises_only_transaction (cmd : ChangePasswordCommand) :
    raises_only (ChangePassword.transaction d env cmd s) (¬ ·.OfMail) := by
  refine Transaction.raises_only_reads_bind
    (raises_only_get_by_id domain_error_not_of_mail value_error_not_of_mail) fun _ _ => ?_
  refine Transaction.raises_only_lift_bind (raises_only_raise_if fun _ => domain_error_not_of_mail _ _) fun _ _ => ?_
  refine Transaction.raises_only_reads_bind (raises_only_update domain_error_not_of_mail) fun _ _ => ?_
  exact Transaction.raises_only_bind raises_only_emit_not_of_mail fun _ _ _ => Transaction.raises_only_pure

/-- Nor does that of a request for a link. -/
theorem RequestPasswordReset.raises_only_transaction (cmd : RequestPasswordResetCommand) :
    raises_only (RequestPasswordReset.transaction d env cmd s) (¬ ·.OfMail) := by
  refine Transaction.raises_only_reads_bind (raises_only_get_by_email value_error_not_of_mail) fun found _ => ?_
  cases found with
  | none => exact Transaction.raises_only_pure
  | some user =>
    exact Transaction.raises_only_bind raises_only_emit_not_of_mail fun _ _ _ => Transaction.raises_only_pure

/-- Nor does that of a reset. -/
theorem ResetPassword.raises_only_transaction (cmd : ResetPasswordCommand) :
    raises_only (ResetPassword.transaction d env cmd s) (¬ ·.OfMail) := by
  refine Transaction.raises_only_reads_bind ?_ fun _ _ =>
    Transaction.raises_only_bind raises_only_emit_not_of_mail fun _ _ _ => Transaction.raises_only_pure
  refine raises_only_bind (raises_only_get_or_raise fun _ => domain_error_not_of_mail _ _) fun _ _ => ?_
  refine raises_only_bind (raises_only_get_by_id domain_error_not_of_mail value_error_not_of_mail) fun _ _ => ?_
  exact raises_only_bind (raises_only_update domain_error_not_of_mail) fun _ _ => raises_only_pure

/-- What the mail server raised comes after the commit and does not undo it; anything else comes
from the unit of work, which is rolled back. -/
theorem raise_cases {x : Session α} {send accepted : α → Except Error β}
    (h : after_commit (atomically x s) send = (.error e, t)) (hbody : raises_only (x s) (¬ ·.OfMail))
    (hsend : ∀ a, raises_only (send a) Error.OfMail) (haccepted : ∀ a, ∃ b, accepted a = .ok b) :
    (¬ e.OfMail → t = s) ∧ (e.OfMail → ∃ b, after_commit (atomically x s) accepted = (.ok b, t)) := by
  rcases after_commit_eq_error_iff.mp h with hraised | ⟨a, hdone, herror⟩
  · obtain ⟨hraise, rfl⟩ := atomically_eq_error_iff.mp hraised
    exact ⟨fun _ => rfl, fun hmail => absurd hmail (hbody e hraise)⟩
  · refine ⟨fun hnot => absurd (hsend a e herror) hnot, fun _ => ?_⟩
    obtain ⟨b, hb⟩ := haccepted a
    exact ⟨b, after_commit_eq_ok_iff.mpr ⟨a, hdone, hb⟩⟩

/-- A registration that raises; its number is parsed before anything is written. -/
theorem RegisterUser.raise_cases {cmd : RegisterUserCommand} (h : RegisterUser.execute d env cmd s = (.error e, t)) :
    (¬ e.OfMail → t = s) ∧
      (e.OfMail → ∃ user_id, RegisterUser.execute d env.mail_accepted cmd s = (.ok user_id, t)) := by
  unfold RegisterUser.execute at h ⊢
  split at h
  · next error hphone =>
    obtain ⟨message, rfl⟩ := CameroonPhoneNumber.init_eq_error hphone
    obtain ⟨herror, rfl⟩ := Prod.mk.inj h
    cases herror
    exact ⟨fun _ => rfl, fun hmail => absurd hmail (domain_error_not_of_mail _ _)⟩
  · refine accounts.raise_cases h (raises_only_transaction cmd _) (fun user e herror => ?_) fun user => ⟨user.id, ?_⟩
    · rcases bind_eq_error_iff.mp herror with hsend | ⟨_, -, hreturn⟩
      · exact of_mail_send hsend
      · cases hreturn
    · rw [send_mail_accepted]
      rfl

/-- A request for a link that raises; nothing is sent to an unknown address. -/
theorem RequestPasswordReset.raise_cases {cmd : RequestPasswordResetCommand}
    (h : RequestPasswordReset.execute d env cmd s = (.error e, t)) :
    (¬ e.OfMail → t = s) ∧
      (e.OfMail → ∃ u, RequestPasswordReset.execute d env.mail_accepted cmd s = (.ok u, t)) := by
  refine accounts.raise_cases h (raises_only_transaction cmd) (fun found e herror => ?_) fun found => ⟨(), ?_⟩
  · cases found with
    | none => cases herror
    | some user => exact of_mail_send herror
  · cases found with
    | none => rfl
    | some user => exact send_mail_accepted

/-- A request that raises leaves the tables as they were, unless it is the mail server that
raised: then they are those the same request leaves when its e-mail is accepted. -/
theorem raise_leaves_tables (hcall : call.SendsMail) (h : call.serve d env s = (.error e, t)) :
    (¬ e.OfMail → t = s) ∧ (e.OfMail → call.serve d env.mail_accepted s = (.ok (), t)) := by
  cases call with
  | RegisterUser cmd =>
    rw [AccountCall.serve, outcome_eq_error_iff] at h
    rw [AccountCall.serve, outcome_eq_ok_iff]
    exact RegisterUser.raise_cases h
  | ChangePassword cmd =>
    rw [AccountCall.serve, outcome_eq_error_iff] at h
    rw [AccountCall.serve, outcome_eq_ok_iff]
    exact raise_cases h (ChangePassword.raises_only_transaction cmd) (fun _ _ => of_mail_send)
      fun _ => ⟨(), send_mail_accepted⟩
  | RequestPasswordReset cmd =>
    rw [AccountCall.serve, outcome_eq_error_iff] at h
    rw [AccountCall.serve, outcome_eq_ok_iff]
    exact RequestPasswordReset.raise_cases h
  | ResetPassword cmd =>
    rw [AccountCall.serve, outcome_eq_error_iff] at h
    rw [AccountCall.serve, outcome_eq_ok_iff]
    exact raise_cases h (ResetPassword.raises_only_transaction cmd) (fun _ _ => of_mail_send)
      fun _ => ⟨(), send_mail_accepted⟩
  | LoginUser | update_user | update_roles | seed_demo_users => exact hcall.elim

namespace mail_pilot

def registration : AccountCall := .RegisterUser ⟨"ada@sigis.cm", "Ada", "650000001", "password", .HOST⟩

/-- A mail server that refuses everything. -/
def refusing : Env := { Env.small 0 with smtp := fun _ => .error "SMTPConnectError" }

end mail_pilot

open mail_pilot in
/-- A registration whose e-mail is refused raises, and the account is there. -/
theorem refused_mail_leaves_account :
    (registration.serve (.small "smtp.sigis.cm") refusing .empty).1 = .error (.MailError "SMTPConnectError") ∧
      (registration.serve (.small "smtp.sigis.cm") refusing .empty).2.users.rows.map (·.email) = ["ada@sigis.cm"] := by
  constructor
  · rfl
  · decide +kernel

open mail_pilot in
/-- They are those of a registration whose e-mail is accepted. -/
theorem raise_leaves_tables_refused_mail :
    registration.serve (.small "smtp.sigis.cm") refusing.mail_accepted .empty =
      (.ok (), (registration.serve (.small "smtp.sigis.cm") refusing .empty).2) := by
  have hrefused : registration.serve (.small "smtp.sigis.cm") refusing .empty =
      (.error (.MailError "SMTPConnectError"), (registration.serve (.small "smtp.sigis.cm") refusing .empty).2) :=
    Prod.ext rfl rfl
  have hsends : registration.SendsMail := trivial
  exact (raise_leaves_tables hsends hrefused).2 ⟨_, rfl⟩

end sigis.accounts
