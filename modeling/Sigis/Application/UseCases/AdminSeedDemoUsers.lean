import Sigis.Application.UseCases.Auth

open guarded relational transactional

namespace sigis.accounts

open Transaction (reads reads_eq_ok_iff pure_eq_ok_iff)
open accounts.UserAuthRepositoryImpl

/-! `application/use_cases/admin_seed_demo_users.py`. -/

namespace AdminSeedDemoUsers

def SEED_DEFAULT_PASSWORD : String := "Changeme@2026"

/-- A row of `_SEED_ROWS`, its last column as the integer `_first_free_phone` makes of it. -/
structure SeedRow where
  role : Role
  preferred_email : String
  full_name : String
  phone_pref : Nat

def SEED_ROWS : List SeedRow :=
  [⟨.SUPER_ADMIN, "super.admin@sigis.seed", "Super Admin (seed)", 650000001⟩,
   ⟨.NATIONAL_ADMIN, "national.admin@sigis.seed", "National Admin (seed)", 650000002⟩,
   ⟨.REGIONAL_SUPERVISOR, "regional.supervisor@sigis.seed", "Regional Supervisor (seed)", 650000003⟩,
   ⟨.INSPECTOR, "inspector.seed@sigis.seed", "Inspecteur (seed)", 650000004⟩,
   ⟨.HOST, "host.seed@sigis.seed", "Hôte (seed)", 650000005⟩]

structure SeedAccountResult where
  role : String
  email : String
  status : String
  detail : String
deriving DecidableEq, Repr

/-- `_email_variants`. -/
def email_variants (preferred : String) : List String :=
  let local_part := String.ofList (preferred.toList.takeWhile (· ≠ '@'))
  let domain := String.ofList ((preferred.toList.dropWhile (· ≠ '@')).drop 1)
  preferred :: (List.range' 1 49).map fun i => local_part ++ "." ++ toString i ++ "@" ++ domain

/-- What the loop over the variants ends with. -/
inductive ChosenEmail
  | free (email : String)
  | already_seeded (email : String)
  | none

def choose_email (d : Deployment) (role : Role) (s : AccountStore) : List String → Except Error ChosenEmail
  | [] => return .none
  | variant :: variants => do
    let em := d.lower variant
    match ← get_by_email d em s with
    | none => return .free em
    | some existing => if existing.role = role then return .already_seeded em else choose_email d role s variants

/-- One turn of the loop of `_first_free_phone`. -/
def candidate_phone (candidate : Nat) (s : AccountStore) : Except Error (Option String) :=
  if (toString candidate).length ≠ 9 then .ok none
  else
    match CameroonPhoneNumber.init (toString candidate) with
    | .error _ => .ok none
    | .ok vo => do
      let holder ← get_by_phone vo.e164 s
      return if holder.isNone then some vo.e164 else none

def first_candidate (start : Nat) (s : AccountStore) : List Nat → Except Error String
  | [] => .error (.RuntimeError "Impossible d'allouer un numéro de téléphone libre pour le seed.")
  | offset :: offsets => do
    match ← candidate_phone (start + offset) s with
    | some phone => return phone
    | none => first_candidate start s offsets

/-- `_first_free_phone`. -/
def first_free_phone (start : Nat) (s : AccountStore) : Except Error String :=
  first_candidate start s (List.range 500)

def new_user (d : Deployment) (env : Env) (seed : SeedRow) (chosen_email phone_e164 : String) : User where
  id := env.seed_id seed.role
  email := chosen_email
  full_name := seed.full_name
  phone_number := phone_e164
  hashed_password := d.pwd_context.hash env.salt SEED_DEFAULT_PASSWORD
  role := seed.role
  is_active := true
  created_at := some (datetime.utc env.now)

/-- One turn of the loop over `_SEED_ROWS`. -/
def seed_account (d : Deployment) (env : Env) (seed : SeedRow) : Session SeedAccountResult := do
  match ← reads fun s => choose_email d seed.role s (email_variants seed.preferred_email) with
  | .already_seeded em => return ⟨seed.role.value, em, "skipped", "Compte déjà présent pour ce rôle."⟩
  | .none =>
    return ⟨seed.role.value, seed.preferred_email, "skipped",
      "Aucune variante d'e-mail libre (trop de conflits)."⟩
  | .free em =>
    let phone_e164 ← reads (first_free_phone seed.phone_pref)
    emit (UserAuthRepositoryImpl.create d (new_user d env seed em phone_e164))
    return ⟨seed.role.value, em, "created", "Compte créé."⟩

def execute_seed_demo_users (d : Deployment) (env : Env) : Session (List SeedAccountResult × String) := do
  let results ← SEED_ROWS.mapM (seed_account d env)
  return (results, SEED_DEFAULT_PASSWORD)

/-- `POST /admin/seed-demo-users`, in its unit of work. -/
def seed_demo_users (d : Deployment) (env : Env) (s : AccountStore) :
    Except Error (List SeedAccountResult × String) × AccountStore :=
  atomically (execute_seed_demo_users d env) s

variable {d : Deployment} {env : Env} {s t u : AccountStore} {user : User} {seed : SeedRow}

theorem choose_email_eq_free {role : Role} {variants : List String} {em : String}
    (h : choose_email d role s variants = .ok (.free em)) :
    (∃ variant ∈ variants, em = d.lower variant) ∧ get_by_email d em s = .ok none := by
  induction variants with
  | nil => cases h
  | cons variant variants ih =>
    obtain ⟨found, hfound, hrest⟩ := bind_eq_ok_iff.mp h
    cases found with
    | none =>
      cases hrest
      exact ⟨⟨variant, List.mem_cons_self, rfl⟩, hfound⟩
    | some existing =>
      dsimp only at hrest
      split at hrest
      · cases hrest
      · obtain ⟨⟨v, hv, heq⟩, hnone⟩ := ih hrest
        exact ⟨⟨v, List.mem_cons_of_mem variant hv, heq⟩, hnone⟩

/-- The number found is a number of the numbering plan that no account has. -/
theorem first_candidate_eq_ok {start : Nat} {offsets : List Nat} {phone : String}
    (h : first_candidate start s offsets = .ok phone) :
    ∃ vo : CameroonPhoneNumber, phone = vo.e164 ∧ ∀ row ∈ s.users.rows, row.phone_number ≠ phone := by
  induction offsets with
  | nil => cases h
  | cons offset offsets ih =>
    obtain ⟨answer, hanswer, hrest⟩ := bind_eq_ok_iff.mp h
    cases answer with
    | none => exact ih hrest
    | some found =>
      cases hrest
      unfold candidate_phone at hanswer
      split at hanswer
      · cases hanswer
      · split at hanswer
        · cases hanswer
        · next vo _ =>
          obtain ⟨holder, hholder, hfree⟩ := bind_eq_ok_iff.mp hanswer
          cases holder with
          | some user => cases hfree
          | none =>
            cases hfree
            exact ⟨vo, rfl, get_by_phone_eq_ok_none_iff.mp hholder⟩

/-- The account a turn creates: a demo account with a number of the numbering plan. -/
structure CreatesDemo (d : Deployment) (env : Env) (seed : SeedRow) (user : User) (s t : AccountStore) : Prop where
  adds : AddsUser d user s t
  id : user.id = env.seed_id seed.role
  role : user.role = seed.role
  email : ∃ variant, user.email = d.lower variant
  phone : ∃ vo : CameroonPhoneNumber, user.phone_number = vo.e164

/-- A turn that returns creates the account of its role or changes nothing. -/
theorem seed_account_eq_ok {result : SeedAccountResult} (h : seed_account d env seed s = .ok (result, t)) :
    t = s ∨ ∃ user, CreatesDemo d env seed user s t := by
  obtain ⟨chosen, u, hread, hrest⟩ := Transaction.bind_eq_ok_iff.mp h
  obtain ⟨hchosen, rfl⟩ := reads_eq_ok_iff.mp hread
  cases chosen with
  | already_seeded em => exact Or.inl (pure_eq_ok_iff.mp hrest).2
  | none => exact Or.inl (pure_eq_ok_iff.mp hrest).2
  | free em =>
    obtain ⟨phone, v, hphone, hcreate⟩ := Transaction.bind_eq_ok_iff.mp hrest
    obtain ⟨hphone, rfl⟩ := reads_eq_ok_iff.mp hphone
    obtain ⟨_, w, hemit, hreturn⟩ := Transaction.bind_eq_ok_iff.mp hcreate
    obtain ⟨-, rfl⟩ := pure_eq_ok_iff.mp hreturn
    obtain ⟨⟨variant, -, hemail⟩, -⟩ := choose_email_eq_free hchosen
    obtain ⟨vo, hvo, -⟩ := first_candidate_eq_ok hphone
    exact Or.inr ⟨_, commit_create_eq_some_iff.mp (emit_eq_ok_iff.mp hemit), rfl, rfl, ⟨variant, hemail⟩, ⟨vo, hvo⟩⟩

/-- What every turn preserves, the seeding preserves. -/
theorem execute_seed_demo_users_relates {R : AccountStore → AccountStore → Prop} (hrefl : ∀ s, R s s)
    (htrans : ∀ {s t u}, R s t → R t u → R s u)
    (hcreates : ∀ {seed user s t}, CreatesDemo d env seed user s t → R s t) :
    Transaction.Relates R (execute_seed_demo_users d env) := by
  refine Transaction.relates_bind htrans (Transaction.relates_mapM hrefl htrans ?_) ?_
  · intro seed _ s result t h
    rcases seed_account_eq_ok h with rfl | ⟨user, hcreate⟩
    · exact hrefl t
    · exact hcreates hcreate
  · intro results s answer t h
    obtain ⟨-, rfl⟩ := pure_eq_ok_iff.mp h
    exact hrefl t

end AdminSeedDemoUsers

end sigis.accounts
