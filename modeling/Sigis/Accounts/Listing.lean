import Mathlib.Order.WithBot
import Sigis.Accounts.Repositories
import Sigis.Persistence.Listing

open guarded paging relational

namespace sigis.accounts

structure UserFilter where
  q : Option String := none
  role : Option Role := none
  is_active : Option Bool := none

/-- A search term of white space alone is not searched for. -/
def UserAuthRepositoryImpl.users_select_filtered (s : AccountStore) (filter : UserFilter) : List UserModel :=
  s.users.rows.filter fun user =>
    unless_empty (filter.q.map strip) (fun term =>
      ilike user.email term || ilike user.full_name term || ilike user.phone_number term) &&
    unless_none filter.role (fun role => user.role = role.value) &&
    unless_none filter.is_active (fun active => user.is_active = active)

/-- `ORDER BY created_at DESC`; a `NULL` is less than any value. -/
def UserModel.order_key (user : UserModel) : (WithBot Int)ᵒᵈ :=
  OrderDual.toDual (user.created_at.map datetime.wall)

def UserAuthRepositoryImpl.list_page (plan : Plan UserModel.order_key) (s : AccountStore) (offset limit : Nat)
    (filter : UserFilter := {}) : Except Error (List User × Nat) := do
  let q := users_select_filtered s filter
  let rows ← (plan.page q offset limit).mapM model_to_user
  return (rows, q.length)

/-- What a row shows, if its role is known. -/
def UserModel.shown (row : UserModel) : Option User := (model_to_user row).toOption

theorem UserModel.shown_eq_some_iff {row : UserModel} {user : User} :
    row.shown = some user ↔ row.Shows user := by
  rw [← model_to_user_eq_ok_iff, UserModel.shown]
  cases model_to_user row <;> simp [Except.toOption]

open accounts.UserAuthRepositoryImpl

variable {s : AccountStore} {filter : UserFilter} {plan : Plan UserModel.order_key} {offset limit total : Nat}
  {users : List User}

theorem list_page_eq_ok_iff :
    list_page plan s offset limit filter = .ok (users, total) ↔
      (plan.page (users_select_filtered s filter) offset limit).map UserModel.shown = users.map some ∧
        total = (users_select_filtered s filter).length := by
  simp only [list_page, bind_eq_ok_iff, pure_eq_ok, Except.ok.injEq, Prod.mk.injEq, mapM_eq_ok_iff]
  constructor
  · rintro ⟨_, hshown, rfl, rfl⟩
    exact ⟨hshown, rfl⟩
  · rintro ⟨hshown, rfl⟩
    exact ⟨users, hshown, rfl, rfl⟩

theorem exists_mapM_model_to_user {rows : List UserModel} :
    (∃ users, rows.mapM model_to_user = .ok users) ↔ ∀ row ∈ rows, ∃ role : Role, role.value = row.role := by
  rw [exists_mapM_iff]
  refine forall₂_congr fun row _ => ?_
  simp only [model_to_user_eq_ok_iff]
  exact ⟨fun ⟨user, hshows⟩ => ⟨user.role, hshows.role⟩, UserModel.exists_shows⟩

/-- A page of users is answered when the roles on it are known. -/
theorem exists_list_page_iff :
    (∃ page, list_page plan s offset limit filter = .ok page) ↔
      ∀ row ∈ plan.page (users_select_filtered s filter) offset limit, ∃ role : Role, role.value = row.role := by
  rw [← exists_mapM_model_to_user, Prod.exists]
  refine exists_congr fun users => ?_
  simp only [list_page_eq_ok_iff, mapM_eq_ok_iff, exists_and_left, exists_eq, and_true]
  exact Iff.rfl

/-- Without a filter all the users are selected. -/
theorem users_select_all (s : AccountStore) : users_select_filtered s {} = s.users.rows := by
  simp [users_select_filtered, unless_empty, unless_none]

end sigis.accounts
