import Sigis.Accounts.Requests

open guarded relational transactional

namespace sigis.accounts

open accounts.UserAuthRepositoryImpl

variable {d : Deployment} {env : Env} {credentials : Credentials} {user_id : UUID} {body : UpdateUserBody}
  {s s' t : AccountStore} {user : User} {row : UserModel} {response : UserResponse}

/-- The test that no other account has the number. -/
def phone_collision (user_id : UUID) (phone_e164 : String) (s : AccountStore) : Except Error Unit := do
  let existing ← get_by_phone phone_e164 s
  raise_if (existing.any (fun holder => holder.id ≠ user_id) = true)
    (.HTTPException 409 (.text ("Le numéro " ++ phone_e164 ++ " est déjà utilisé.")))

/-- The account as the handler saves it, when its checks pass. -/
def edited_user (d : Deployment) (env : Env) (credentials : Credentials) (user_id : UUID) (body : UpdateUserBody)
    (s : AccountStore) : Except Error User := do
  let requester ← current_user d env.now credentials
  let user_role ← current_user_role d env.now credentials
  may_update user_id body requester user_role
  let user ← get_user_or_404 user_id s
  let phone_number ← body.new_phone user_id user s
  return body.apply_to user phone_number

/-- The handler first works out the edited account, and then saves it. -/
theorem update_user_eq : update_user d env credentials user_id body s =
    edited_user d env credentials user_id body s >>= fun user => save_user env user_id user s := by
  simp only [update_user, edited_user, Transaction.lift_bind_apply, Transaction.reads_bind_apply, bind_assoc, pure_bind]

/-- No number given leaves the one there is. -/
theorem new_phone_of_none (h : body.phone_number = none) : body.new_phone user_id user s = .ok user.phone_number := by
  rw [UpdateUserBody.new_phone, h]

/-- A number given is parsed, and looked for among those of the others. -/
theorem new_phone_of_some {raw : String} (h : body.phone_number = some raw) : body.new_phone user_id user s =
    (CameroonPhoneNumber.init raw).mapError (Error.as_http [.InvalidPhoneNumber] 422) >>= fun phone_vo =>
      (if phone_vo.e164 = user.phone_number then .ok () else phone_collision user_id phone_vo.e164 s).map
        fun _ => phone_vo.e164 := by
  rw [UpdateUserBody.new_phone, h]
  refine bind_congr fun phone_vo => ?_
  by_cases hsame : phone_vo.e164 = user.phone_number
  · simp [hsame, Except.map]
  · rw [if_neg hsame, if_pos hsame]
    rw [phone_collision, map_bind]
    exact bind_congr fun existing => bind_pure_eq_map

/-- The number that is saved is the one submitted, in its international form. -/
theorem new_phone_of_submitted {phone raw : String} (h : body.new_phone user_id user s = .ok phone)
    (hraw : body.phone_number = some raw) :
    ∃ phone_vo, CameroonPhoneNumber.init raw = .ok phone_vo ∧ phone = phone_vo.e164 := by
  rw [new_phone_of_some hraw] at h
  obtain ⟨phone_vo, hinit, hrest⟩ := bind_eq_ok_iff.mp h
  obtain ⟨_, -, hphone⟩ := map_eq_ok_iff.mp hrest
  exact ⟨phone_vo, mapError_eq_ok.mp hinit, hphone.symm⟩

/-- The role of the requester, if there is one, is not an administrator's. -/
def Ordinary (d : Deployment) (env : Env) (credentials : Credentials) : Prop :=
  ∀ role, current_user_role d env.now credentials = .ok (some role) → role ∉ ADMIN_ROLES

/-- An ordinary requester is no administrator. -/
theorem Ordinary.not_admin (h : Ordinary d env credentials) {user_role : Option Role}
    (hrole : current_user_role d env.now credentials = .ok user_role) : is_admin user_role = false := by
  cases user_role with
  | none => rfl
  | some role =>
    have hnot := h role hrole
    simpa [is_admin] using hnot

/-- The guards let an ordinary requester through to its own account, without the fields of the administrators. -/
theorem own_of_may_update {requester : UUID} {user_role : Option Role} (hadmin : is_admin user_role = false)
    (h : may_update user_id body requester user_role = .ok ()) :
    requester = user_id ∧ body.is_active = none ∧ body.role = none := by
  obtain ⟨_, hown, hfields⟩ := bind_eq_ok_iff.mp h
  simp only [raise_if_eq_ok, hadmin, and_true, not_or, not_not, Option.not_isSome_iff_eq_none] at hown hfields
  exact ⟨hown, hfields⟩

/-- An account edited by an ordinary request: the row is the same but for the name, the number and the time of the
update, and nothing else in the tables has changed. -/
structure ProfileEdited (user_id : UUID) (body : UpdateUserBody) (s t : AccountStore) : Prop where
  row : ∃ old new, s.users.get user_id = some old ∧ t.users.get user_id = some new ∧
    new = { old with
      full_name := body.full_name.getD old.full_name
      phone_number := new.phone_number
      updated_at := new.updated_at } ∧
    (body.phone_number = none → new.phone_number = old.phone_number) ∧
    ∀ raw, body.phone_number = some raw → ∃ phone_vo, CameroonPhoneNumber.init raw = .ok phone_vo ∧
      new.phone_number = phone_vo.e164 ∧ ∀ a ∈ t.users.rows, a.id ≠ user_id → a.phone_number ≠ phone_vo.e164
  others : ∀ id, id ≠ user_id → t.users.get id = s.users.get id
  tokens : t.password_reset_tokens = s.password_reset_tokens
  permissions : t.role_permissions = s.role_permissions

/-- An ordinary requester edits the profile of their own account. -/
theorem profile_edited (hordinary : Ordinary d env credentials)
    (h : update_user d env credentials user_id body s = .ok (response, t)) :
    current_user d env.now credentials = .ok user_id ∧ ProfileEdited user_id body s t := by
  obtain ⟨requester, user_role, user, phone, hrequester, hrole, hmay, hphone, old, new, hget, hshows, hrewrites⟩ :=
    update_user_eq_ok h
  obtain ⟨rfl, hactive, hbodyrole⟩ := own_of_may_update (hordinary.not_admin hrole) hmay
  have hid : old.id = requester := Table.key_of_get hget
  have hnewphone : new.phone_number = phone := hrewrites.updated.phone_number
  refine ⟨hrequester, ⟨old, new, hget, hid ▸ hrewrites.users.get_self, ?_, ?_, ?_⟩, ?_, hrewrites.tokens,
    hrewrites.permissions⟩
  · have hupdated := hrewrites.updated
    have hname : new.full_name = body.full_name.getD old.full_name := by
      rw [hupdated.full_name, ← hshows.full_name]
      rfl
    have hpassword : new.hashed_password = old.hashed_password := hupdated.hashed_password.trans hshows.hashed_password
    have hrow_active : new.is_active = old.is_active := by
      rw [hupdated.is_active, ← hshows.is_active, UpdateUserBody.apply_to, hactive, Option.getD_none]
    have hrow_role : new.role = old.role := by
      rw [hupdated.role, ← hshows.role, UpdateUserBody.apply_to, hbodyrole, Option.getD_none]
    cases new
    exact (UserModel.mk.injEq ..).mpr ⟨hupdated.id, hupdated.email, hname, rfl, hpassword, hrow_role, hrow_active,
      hupdated.created_at, rfl⟩
  · intro hnone
    rw [hnewphone]
    rw [new_phone_of_none hnone] at hphone
    exact (Except.ok.inj hphone).symm.trans hshows.phone_number
  · intro raw hraw
    obtain ⟨phone_vo, hinit, rfl⟩ := new_phone_of_submitted hphone hraw
    refine ⟨phone_vo, hinit, hnewphone, fun a ha hne => ?_⟩
    rcases hrewrites.users.mem_iff.mp ha with ⟨hold, -⟩ | rfl
    · exact (new_phone_eq_ok hget hshows hphone).2 a hold hne
    · exact absurd (hrewrites.updated.id.trans hid) hne
  · intro id hne
    exact hrewrites.users.get_other (by rwa [key_user, hid])

/-- A row shows one account. -/
theorem UserModel.Shows.unique {other : User} (h : row.Shows user) (hother : row.Shows other) : user = other :=
  Except.ok.inj ((model_to_user_eq_ok_iff.mpr h).symm.trans (model_to_user_eq_ok_iff.mpr hother))

/-- An account that is found and whose number is free is saved and read back. -/
theorem exists_save_user_eq (env : Env) (hget : s.users.get user_id = some row) (hid : user.id = user_id)
    (hphone : ∀ a ∈ s.users.rows, a.id ≠ user_id → a.phone_number ≠ user.phone_number) : ∃ updated t,
      save_user env user_id user s = .ok (user_to_response updated, t) ∧
      (UserModel.flush row (assigned env user row) row).Shows updated ∧
      t.users.get user_id = some (UserModel.flush row (assigned env user row) row) := by
  subst hid
  have hrow : row ∈ s.users.rows := Table.mem_of_get hget
  have hkey : row.id = user.id := Table.key_of_get hget
  obtain ⟨t, hcommit⟩ := exists_commit_update env hrow (hkey.symm ▸ hphone)
  have hrewrites := ((commit_update_eq_some_iff hrow).mp hcommit).2
  have hnew := hrewrites.users.get_self
  rw [key_user, hkey] at hnew
  obtain ⟨updated, hshows⟩ := UserModel.exists_shows ⟨user.role, hrewrites.updated.role.symm⟩
  refine ⟨updated, t, ?_, hshows, hnew⟩
  refine Transaction.reads_bind_eq_ok_iff.mpr ⟨_, update_eq_ok_iff.mpr ⟨row, hget, rfl⟩, ?_⟩
  refine Transaction.bind_eq_ok_iff.mpr ⟨(), t, emit_eq_ok_iff.mpr hcommit, ?_⟩
  exact Transaction.reads_bind_eq_ok_iff.mpr
    ⟨updated, get_by_id_eq_ok_iff.mpr ⟨_, hnew, hshows⟩, Transaction.pure_eq_ok_iff.mpr ⟨rfl, rfl⟩⟩

/-- The edited account keeps its identifier, and its number is nobody else's. -/
theorem edited_user_eq_ok (h : edited_user d env credentials user_id body s = .ok user) :
    ∃ row, s.users.get user_id = some row ∧ user.id = user_id ∧
      ∀ a ∈ s.users.rows, a.id ≠ user_id → a.phone_number ≠ user.phone_number := by
  obtain ⟨requester, -, h⟩ := bind_eq_ok_iff.mp h
  obtain ⟨user_role, -, h⟩ := bind_eq_ok_iff.mp h
  obtain ⟨_, -, h⟩ := bind_eq_ok_iff.mp h
  obtain ⟨shown, hshown, h⟩ := bind_eq_ok_iff.mp h
  obtain ⟨phone, hphone, hreturn⟩ := bind_eq_ok_iff.mp h
  obtain rfl := Except.ok.inj hreturn
  obtain ⟨row, hget, hshows⟩ := get_user_or_404_eq_ok_iff.mp hshown
  exact ⟨row, hget, hshows.id.trans (Table.key_of_get hget), (new_phone_eq_ok hget hshows hphone).2⟩

/-- The checks read the row of the account, and the others through the test of the number only. -/
theorem edited_user_congr (hrow : s'.users.get user_id = s.users.get user_id)
    (hcollision : ∀ raw phone_vo, body.phone_number = some raw → CameroonPhoneNumber.init raw = .ok phone_vo →
      phone_collision user_id phone_vo.e164 s' = phone_collision user_id phone_vo.e164 s) :
    edited_user d env credentials user_id body s' = edited_user d env credentials user_id body s := by
  have huser : get_user_or_404 user_id s' = get_user_or_404 user_id s := by
    rw [get_user_or_404, get_user_or_404, get_by_id, get_by_id, hrow]
  have hphone : ∀ user, body.new_phone user_id user s' = body.new_phone user_id user s := by
    intro user
    cases hraw : body.phone_number with
    | none => rw [new_phone_of_none hraw, new_phone_of_none hraw]
    | some raw =>
      rw [new_phone_of_some hraw, new_phone_of_some hraw]
      cases hinit : CameroonPhoneNumber.init raw with
      | error e => rfl
      | ok phone_vo =>
        simp only [Except.mapError, bind_ok]
        rw [hcollision raw phone_vo hraw hinit]
  simp only [edited_user, huser, hphone]

/-- An edit depends on the row of the account and on who holds the number. -/
theorem update_user_congr (hrow : s'.users.get user_id = s.users.get user_id)
    (hcollision : ∀ raw phone_vo, body.phone_number = some raw → CameroonPhoneNumber.init raw = .ok phone_vo →
      phone_collision user_id phone_vo.e164 s' = phone_collision user_id phone_vo.e164 s) :
    (atomically (update_user d env credentials user_id body) s').1 =
        (atomically (update_user d env credentials user_id body) s).1 ∧
      (atomically (update_user d env credentials user_id body) s').2.users.get user_id =
        (atomically (update_user d env credentials user_id body) s).2.users.get user_id := by
  have hedited : edited_user d env credentials user_id body s' = edited_user d env credentials user_id body s :=
    edited_user_congr hrow hcollision
  cases huser : edited_user d env credentials user_id body s with
  | error e =>
    have hs : update_user d env credentials user_id body s = .error e := by rw [update_user_eq, huser, bind_error]
    have hs' : update_user d env credentials user_id body s' = .error e := by
      rw [update_user_eq, hedited, huser, bind_error]
    rw [atomically_eq_error_iff.mpr ⟨hs, rfl⟩, atomically_eq_error_iff.mpr ⟨hs', rfl⟩]
    exact ⟨rfl, hrow⟩
  | ok user =>
    obtain ⟨row, hget, hid, hphone⟩ := edited_user_eq_ok huser
    obtain ⟨row', hget', -, hphone'⟩ := edited_user_eq_ok (hedited.trans huser)
    obtain rfl := Option.some.inj ((hget.symm.trans hrow.symm).trans hget')
    obtain ⟨updated, t, hsave, hshows, hnew⟩ := exists_save_user_eq env hget hid hphone
    obtain ⟨updated', t', hsave', hshows', hnew'⟩ := exists_save_user_eq env hget' hid hphone'
    have hs : update_user d env credentials user_id body s = .ok (user_to_response updated, t) := by
      rw [update_user_eq, huser, bind_ok, hsave]
    have hs' : update_user d env credentials user_id body s' = .ok (user_to_response updated', t') := by
      rw [update_user_eq, hedited, huser, bind_ok, hsave']
    rw [atomically_eq_ok_iff.mpr hs, atomically_eq_ok_iff.mpr hs']
    exact ⟨by rw [hshows'.unique hshows], hnew'.trans hnew.symm⟩

/-- A request of an ordinary requester edits the name and the number of its own account, to a number no other account
has, and nothing else; one that raises changes nothing; and what comes of it depends on the other accounts
through the test of the number only. -/
theorem profile_edit_confined (hordinary : Ordinary d env credentials) (user_id : UUID) (body : UpdateUserBody)
    (s : AccountStore) :
    (∀ response t, atomically (update_user d env credentials user_id body) s = (.ok response, t) →
      current_user d env.now credentials = .ok user_id ∧ ProfileEdited user_id body s t) ∧
    (∀ e t, atomically (update_user d env credentials user_id body) s = (.error e, t) → t = s) ∧
    ∀ s' : AccountStore, s'.users.get user_id = s.users.get user_id →
      (∀ raw phone_vo, body.phone_number = some raw → CameroonPhoneNumber.init raw = .ok phone_vo →
        phone_collision user_id phone_vo.e164 s' = phone_collision user_id phone_vo.e164 s) →
      (atomically (update_user d env credentials user_id body) s').1 =
          (atomically (update_user d env credentials user_id body) s).1 ∧
        (atomically (update_user d env credentials user_id body) s').2.users.get user_id =
          (atomically (update_user d env credentials user_id body) s).2.users.get user_id := by
  refine ⟨?_, ?_, fun s' => update_user_congr⟩
  · intro response t h
    exact profile_edited hordinary (atomically_eq_ok_iff.mp h)
  · intro e t h
    exact (atomically_eq_error_iff.mp h).2

namespace ada

/-- The account of an inspector. -/
def account : UserModel where
  id := ⟨"00000000-0000-4000-8000-000000000001"⟩
  email := "ada@sigis.cm"
  full_name := "Ada"
  phone_number := "+237650000001"
  hashed_password := "salt$password"
  role := Role.INSPECTOR.value
  is_active := true
  created_at := none
  updated_at := none

def store : AccountStore := { AccountStore.empty with users := ⟨[account], List.pairwise_singleton _ _⟩ }

def bearer : Credentials := { token := some "00000000-0000-4000-8000-000000000001.INSPECTOR" }

/-- Another name and another number. -/
def edit : UpdateUserBody := { full_name := some "Ada L.", phone_number := some "650-00.00 02" }

theorem ordinary : Ordinary (.small "") (.small 0) bearer := by
  intro role hrole
  have hinspector : current_user_role (.small "") (Env.small 0).now bearer = .ok (some .INSPECTOR) := by decide +kernel
  rw [hinspector] at hrole
  cases hrole
  decide

end ada

/-- An inspector gives its account another name and another number. -/
theorem ada_edits_profile : ∃ response t,
    atomically (update_user (.small "") (.small 0) ada.bearer ada.account.id ada.edit) ada.store =
      (.ok response, t) ∧
    response.phone_number = "+237650000002" ∧ ProfileEdited ada.account.id ada.edit ada.store t := by
  refine ⟨_, _, rfl, ?_, ((profile_edit_confined ada.ordinary ada.account.id ada.edit ada.store).1 _ _ rfl).2⟩
  decide +kernel

end sigis.accounts
