import Sigis.Accounts.Errors
import Sigis.Accounts.Models
import Sigis.Lib.Transaction

open relational transactional

namespace sigis.accounts

/-- The committed tables the account requests read and write. -/
@[ext] structure AccountStore where
  users : Table UserModel
  password_reset_tokens : Table PasswordResetTokenModel
  role_permissions : Table RolePermissionModel

/-- The tables without rows. -/
def AccountStore.empty : AccountStore := ⟨.empty, .empty, .empty⟩

/-- What a session writes: a row to insert, a loaded row with other attribute values, a row
to delete. -/
inductive Write
  | add_user (row : UserModel)
  | update_user (loaded written : UserModel)
  | add_reset_token (row : PasswordResetTokenModel)
  | update_reset_token (loaded written : PasswordResetTokenModel)
  | add_role_permission (row : RolePermissionModel)
  | delete_role_permission (row : RolePermissionModel)

/-- One statement against the tables; `none` when a declared constraint refuses it. -/
def Write.apply (s : AccountStore) : Write → Option AccountStore
  | .add_user row => (s.users.insert row.stored).map fun t => { s with users := t }
  | .update_user loaded written =>
    (s.users.update loaded.id (UserModel.flush loaded written)).map fun t => { s with users := t }
  | .add_reset_token row =>
    (s.password_reset_tokens.insert row.stored).map fun t => { s with password_reset_tokens := t }
  | .update_reset_token loaded written =>
    (s.password_reset_tokens.update loaded.token_hash (PasswordResetTokenModel.flush loaded written)).map
      fun t => { s with password_reset_tokens := t }
  | .add_role_permission row =>
    (s.role_permissions.insert row).map fun t => { s with role_permissions := t }
  | .delete_role_permission row =>
    some { s with role_permissions := s.role_permissions.delete fun r => r = row }

/-- `session.commit()`: every pending statement, or none of them. -/
def AccountStore.commit (s : AccountStore) (writes : List Write) : Option AccountStore := writes.foldlM Write.apply s

/-- The code of one session. What is pending is flushed before every read, so it works on the
tables with its own writes in them; a flush that a constraint refuses aborts it. -/
abbrev Session (α : Type) := Transaction AccountStore Error α

/-- Statements of a session. -/
def emit (writes : List Write) : Session Unit := Transaction.writes (fun s => s.commit writes) .IntegrityError

variable {s t : AccountStore} {writes rest : List Write} {write : Write}

/-- Statements go through when the database takes them. -/
@[simp] theorem emit_eq_ok_iff {u : Unit} : emit writes s = .ok (u, t) ↔ s.commit writes = some t :=
  Transaction.writes_eq_ok_iff

/-- And are refused with an `IntegrityError` when it does not. -/
@[simp] theorem emit_eq_error_iff {e : Error} :
    emit writes s = .error e ↔ s.commit writes = none ∧ .IntegrityError = e :=
  Transaction.writes_eq_error_iff

theorem raises_only_emit {p : Error → Prop} (h : p .IntegrityError) : guarded.raises_only (emit writes s) p := by
  intro e he
  obtain ⟨-, rfl⟩ := emit_eq_error_iff.mp he
  exact h

@[simp] theorem AccountStore.commit_nil : s.commit [] = some s := rfl

/-- Statements are executed one after the other. -/
theorem AccountStore.commit_cons : s.commit (write :: rest) = (write.apply s).bind fun t => t.commit rest := by
  unfold AccountStore.commit
  rw [List.foldlM_cons]
  rfl

theorem AccountStore.commit_singleton : s.commit [write] = write.apply s := by
  rw [AccountStore.commit_cons]
  exact Option.bind_fun_some (write.apply s)

/-- Two statements, one after the other. -/
theorem AccountStore.commit_pair {first second : Write} :
    s.commit [first, second] = some t ↔ ∃ u, first.apply s = some u ∧ second.apply u = some t := by
  rw [AccountStore.commit_cons, Option.bind_eq_some_iff]
  simp only [AccountStore.commit_singleton]

section apply

variable {row : UserModel} {token : PasswordResetTokenModel} {grant : RolePermissionModel}

/-- The insertion of an account. -/
theorem apply_add_user : (Write.add_user row).apply s = some t ↔
    ∃ users, s.users.insert row.stored = some users ∧ { s with users := users } = t := by
  simp only [Write.apply, Option.map_eq_some_iff]

/-- The insertion of a token. -/
theorem apply_add_reset_token : (Write.add_reset_token token).apply s = some t ↔
    ∃ tokens, s.password_reset_tokens.insert token.stored = some tokens ∧
      { s with password_reset_tokens := tokens } = t := by
  simp only [Write.apply, Option.map_eq_some_iff]

/-- The insertion of a permission of a role. -/
theorem apply_add_role_permission : (Write.add_role_permission grant).apply s = some t ↔
    ∃ rows, s.role_permissions.insert grant = some rows ∧ { s with role_permissions := rows } = t := by
  simp only [Write.apply, Option.map_eq_some_iff]

/-- On the row it was loaded from, a flush replaces that row, unless the new one has the
e-mail or the number of another account. -/
theorem apply_update_user {loaded written : UserModel} (h : loaded ∈ s.users.rows) :
    (Write.update_user loaded written).apply s = some t ↔
      (∀ a ∈ s.users.rows, a.id ≠ loaded.id → ¬ clash a (UserModel.flush loaded written loaded)) ∧
        ∃ users, Table.Replaces s.users loaded (UserModel.flush loaded written loaded) users ∧
          { s with users := users } = t := by
  have hget : s.users.get loaded.id = some loaded := Table.get_of_mem h
  simp only [Write.apply, Option.map_eq_some_iff,
    Table.update_eq_some_iff_of_key (UserModel.key_flush loaded written) hget, and_assoc,
    exists_and_left, key_user]

/-- On the row it was loaded from, a flush replaces that row. -/
theorem apply_update_reset_token {loaded written : PasswordResetTokenModel}
    (h : loaded ∈ s.password_reset_tokens.rows) :
    (Write.update_reset_token loaded written).apply s = some t ↔
      ∃ tokens, Table.Replaces s.password_reset_tokens loaded
          (PasswordResetTokenModel.flush loaded written loaded) tokens ∧
        { s with password_reset_tokens := tokens } = t := by
  have hget : s.password_reset_tokens.get loaded.token_hash = some loaded := Table.get_of_mem h
  simp only [Write.apply, Option.map_eq_some_iff,
    Table.update_eq_some_iff_replaces (PasswordResetTokenModel.keeps_flush loaded written) hget]

end apply

end sigis.accounts
