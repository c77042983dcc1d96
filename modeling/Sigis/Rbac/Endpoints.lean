import Mathlib.Data.List.Sort
import Mathlib.Data.String.Basic
import Sigis.Api.Roles
import Sigis.Lib.Grouping

open grouping guarded relational routing transactional transition

namespace sigis.accounts

open Transaction (lift_bind_apply lift_bind_eq_ok_iff pure_eq_ok_iff reads)
open RolePermissionRepositoryImpl (get_permissions_for_role)

/-- `ORDER BY role, permission`. -/
def row_le (a b : RolePermissionModel) : Bool := a.role < b.role ∨ (a.role = b.role ∧ a.permission ≤ b.permission)

/-- `get_all_roles_permissions`. -/
def RolePermissionRepositoryImpl.get_all_roles_permissions (s : AccountStore) : List (String × List String) :=
  group ((s.role_permissions.rows.mergeSort row_le).map fun row => (row.role, row.permission))

/-- What the endpoints of `api/v1/roles.py` answer with. -/
inductive RolesAnswer
  | written (response : RoleResponse)
  | role (role : String) (permissions : List String)
  | roles (permissions : List (String × List String))

def RolesAnswer.values : RolesAnswer → List ValueType
  | .written response => response.values
  | .role _ _ => [.str, .list_str]
  | .roles permissions => permissions.map fun _ => .list_str

/-- `_admins`. -/
def admins : List Role := [.SUPER_ADMIN, .NATIONAL_ADMIN]

/-- `data.setdefault(key, [])`. -/
def setdefault (data : List (String × List String)) (key : String) : List (String × List String) :=
  if key ∈ data.map Prod.fst then data else data ++ [(key, [])]

/-- `GET /roles`. -/
def list_roles (d : Deployment) (now : Int) (credentials : Credentials) : Session RolesAnswer := do
  require_roles d now admins credentials
  let data ← reads fun s => .ok (RolePermissionRepositoryImpl.get_all_roles_permissions s)
  return .roles (Role.members.foldl (fun data role => setdefault data role.value) data)

/-- `GET /roles/{role}/permissions`. -/
def get_role_permissions (d : Deployment) (now : Int) (credentials : Credentials) (role : String) :
    Session RolesAnswer := do
  require_roles d now admins credentials
  let role_enum ← parse_role d role
  let perms ← reads fun s => .ok (get_permissions_for_role role_enum s)
  return .role role_enum.value (sorted_values perms)

/-- `PUT /roles/{role}/permissions`; the body holds a list of texts. -/
def set_role_permissions (d : Deployment) (now : Int) (credentials : Credentials) (role : String)
    (raw_perms : List String) : Session RolesAnswer := do
  require_roles d now super_admins credentials
  let role_enum ← parse_role d role
  let perms ← (raw_perms.mapM (parse_permission d) : Except Error (List Permission))
  RolePermissionRepositoryImpl.set_permissions role_enum perms.toFinset
  return .role role_enum.value (sorted_values perms.toFinset)

/-- `DELETE /roles/{role}/permissions/{perm}`. -/
def remove_permission (d : Deployment) (now : Int) (credentials : Credentials) (role perm : String) :
    Session RoleResponse := do
  require_roles d now super_admins credentials
  let role_enum ← parse_role d role
  let perm_enum ← parse_permission d perm
  let removed ← RolePermissionRepositoryImpl.remove_permission role_enum perm_enum
  return .permission role_enum.value perm_enum.value removed
    (if removed then "Permission retirée." else "Permission absente (aucune modification).")

/-- The catalogue under the prefixes of its permissions. -/
def permission_catalog : List (String × List String) :=
  group (Permission.members.map fun perm => ((perm.value.splitOn "_").headD "", perm.value))

/-- `GET /roles/permissions/catalog`. -/
def list_permissions (d : Deployment) (now : Int) (credentials : Credentials) : Session RolesAnswer := do
  require_roles d now admins credentials
  return .roles permission_catalog

/-- A request under the prefix of the API; `permissions` is what the body of a PUT holds. -/
structure RolesRequest where
  method : Method
  path : List String
  permissions : List String := []
  credentials : Credentials
  now : Int

/-- The handler the request is dispatched to, unless it is not one of those for roles. The answers
of the two endpoints for one permission are annotated as a plain `dict` and not checked. -/
def RolesRequest.handler (d : Deployment) (request : RolesRequest) : Option (Session RolesAnswer) :=
  match dispatch api_router request.method request.path with
  | some (.list_roles, _) => some (serialize_response RolesAnswer.values (list_roles d request.now request.credentials))
  | some (.get_role_permissions, params) => do
    let role ← params.lookup "role"
    return serialize_response RolesAnswer.values (get_role_permissions d request.now request.credentials role)
  | some (.set_role_permissions, params) => do
    let role ← params.lookup "role"
    return serialize_response RolesAnswer.values
      (set_role_permissions d request.now request.credentials role request.permissions)
  | some (.add_permission, params) => do
    let role ← params.lookup "role"
    let perm ← params.lookup "perm"
    return RolesAnswer.written <$> add_permission d request.now request.credentials role perm
  | some (.remove_permission, params) => do
    let role ← params.lookup "role"
    let perm ← params.lookup "perm"
    return RolesAnswer.written <$> remove_permission d request.now request.credentials role perm
  | some (.reset_permissions, params) => do
    let role ← params.lookup "role"
    return serialize_response RolesAnswer.values
      (RolesAnswer.written <$> reset_permissions d request.now request.credentials role)
  | some (.list_permissions, _) =>
    some (serialize_response RolesAnswer.values (list_permissions d request.now request.credentials))
  | _ => none

/-- The request in its unit of work. -/
def RolesRequest.serve (d : Deployment) (request : RolesRequest) (s : AccountStore) :
    Option (Except Error RolesAnswer × AccountStore) :=
  (request.handler d).map fun x => atomically x s

/-- One request to the endpoints for roles. -/
def RolesServed (d : Deployment) (s : AccountStore) (request : RolesRequest) (t : AccountStore) : Prop :=
  ∃ result, request.serve d s = some (result, t)

/-- What a request can ask of the list. -/
inductive AclRequest
  | list
  | show (role : Role)
  | set (role : Role) (permissions : Finset Permission)
  | add (role : Role) (permission : Permission)
  | remove (role : Role) (permission : Permission)
  | catalog
deriving DecidableEq

/-- The roles that may ask for it. -/
def AclRequest.required : AclRequest → List Role
  | .list | .show _ | .catalog => admins
  | .set _ _ | .add _ _ | .remove _ _ => super_admins

/-- It is asked of the endpoints for one permission, the only ones that change the list. -/
def AclRequest.Writes : AclRequest → Prop
  | .list | .show _ | .set _ _ | .catalog => False
  | .add _ _ | .remove _ _ => True

/-- The list after it. What a request to set the permissions of a role writes is rolled back. -/
def AclRequest.after (acl : Acl) : AclRequest → Acl
  | .list | .show _ | .set _ _ | .catalog => acl
  | .add role permission => acl.assign role (insert permission (acl.permissions role.value))
  | .remove role permission => acl.assign role (acl.permissions role.value \ {permission})

/-- The texts the list has for a role: those of its permissions, and those from outside of the
catalogue. -/
def Acl.texts (acl : Acl) (name : String) : Set String :=
  Permission.value '' acl.permissions name ∪ acl.obsolete name

/-- Each role has one entry, and each entry has the texts of its role once, in order. -/
structure Acl.Lists (acl : Acl) (data : List (String × List String)) : Prop where
  nodup : (data.map Prod.fst).Nodup
  roles : ∀ role : Role, role.value ∈ data.map Prod.fst
  named : ∀ name, (acl.texts name).Nonempty → name ∈ data.map Prod.fst
  sorted : ∀ entry ∈ data, entry.2.Pairwise (· < ·)
  texts : ∀ entry ∈ data, ∀ text, text ∈ entry.2 ↔ text ∈ acl.texts entry.1

/-- What it ends in: the dictionary with the name of the role fits no `dict[str, list[str]]`, so the
permissions of one role are neither shown nor set. -/
def AclRequest.Answers (acl : Acl) : AclRequest → Except Error RolesAnswer → Prop
  | .list, .ok (.roles data) => acl.Lists data
  | .show _, .error e => e = .ResponseValidationError
  | .set _ _, .error e => e = .ResponseValidationError
  | .add role permission, .ok (.written (.permission name text changed _)) =>
    name = role.value ∧ text = permission.value ∧ (changed = true ↔ permission ∉ acl.permissions role.value)
  | .remove role permission, .ok (.written (.permission name text changed _)) =>
    name = role.value ∧ text = permission.value ∧ (changed = true ↔ permission ∈ acl.permissions role.value)
  | .catalog, .ok (.roles data) => data = permission_catalog
  | _, _ => False

variable {d : Deployment} {request : RolesRequest} {requests : List RolesRequest} {s t : AccountStore} {role : Role}
  {permission : Permission} {data : List (String × List String)} {name text : String} {acl : Acl}

/-- The list holds the stored texts of a role. -/
theorem mem_texts_iff : text ∈ s.acl.texts name ↔ (⟨name, text⟩ : RolePermissionModel) ∈ s.role_permissions.rows := by
  rw [Acl.texts, Set.mem_union, Set.mem_image]
  constructor
  · rintro (⟨p, hp, rfl⟩ | ⟨-, hmem⟩)
    · exact hp
    · exact hmem
  · intro hmem
    cases hvalue : Permission.of_value text with
    | none => exact Or.inr ⟨hvalue, hmem⟩
    | some p =>
      obtain rfl := Permission.value_of_value hvalue
      exact Or.inl ⟨p, hmem, rfl⟩

/-- The rows are read in the order of the query. -/
theorem pairwise_mergeSort_rows (rows : List RolePermissionModel) : (rows.mergeSort row_le).Pairwise (row_le · ·) := by
  refine List.pairwise_mergeSort ?_ ?_ rows
  · intro a b c hab hbc
    simp only [row_le, decide_eq_true_eq] at hab hbc ⊢
    rcases hab with hab | ⟨hab, hab'⟩
    · rcases hbc with hbc | ⟨hbc, -⟩
      · exact Or.inl (hab.trans hbc)
      · exact Or.inl (hbc ▸ hab)
    · rw [hab]
      exact hbc.imp_right (And.imp_right hab'.trans)
  · intro a b
    simp only [row_le, Bool.or_eq_true, decide_eq_true_eq]
    rcases lt_trichotomy a.role b.role with h | h | h
    · exact Or.inl (Or.inl h)
    · exact (le_total a.permission b.permission).imp (fun hle => Or.inr ⟨h, hle⟩) fun hle => Or.inr ⟨h.symm, hle⟩
    · exact Or.inr (Or.inl h)

/-- The rows as pairs, in the order of the query. -/
def AccountStore.pairs (s : AccountStore) : List (String × String) :=
  (s.role_permissions.rows.mergeSort row_le).map fun row => (row.role, row.permission)

/-- The pairs that are read are those of the list. -/
theorem mem_pairs_iff : (name, text) ∈ s.pairs ↔ text ∈ s.acl.texts name := by
  rw [mem_texts_iff, AccountStore.pairs, List.mem_map]
  constructor
  · rintro ⟨row, hrow, heq⟩
    cases heq
    exact List.mem_mergeSort.mp hrow
  · exact fun hmem => ⟨_, List.mem_mergeSort.mpr hmem, rfl⟩

/-- The texts of a role come in order, and none of them twice. -/
theorem pairwise_values_of_pairs : (values_of s.pairs name).Pairwise (· < ·) := by
  have hdistinct : (s.role_permissions.rows.mergeSort row_le).Nodup :=
    (List.mergeSort_perm _ _).nodup_iff.mpr s.role_permissions.nodup
  have hsorted := (pairwise_mergeSort_rows s.role_permissions.rows).and hdistinct
  rw [values_of, AccountStore.pairs, List.filter_map, List.map_map, List.pairwise_map]
  refine (hsorted.filter _).imp_of_mem ?_
  rintro a b ha hb ⟨hle, hne⟩
  have ha : a.role = name := of_decide_eq_true (List.mem_filter.mp ha).2
  have hb : b.role = name := of_decide_eq_true (List.mem_filter.mp hb).2
  rw [row_le, decide_eq_true_eq, ha, hb] at hle
  refine (hle.resolve_left (lt_irrefl name)).2.lt_of_ne fun hsame => hne ?_
  cases a
  cases b
  simp_all

/-- The entries of the dictionary before the roles without permissions are added. -/
structure Acl.Entries (acl : Acl) (data : List (String × List String)) : Prop where
  nodup : (data.map Prod.fst).Nodup
  named : ∀ name, (acl.texts name).Nonempty → name ∈ data.map Prod.fst
  sorted : ∀ entry ∈ data, entry.2.Pairwise (· < ·)
  texts : ∀ entry ∈ data, ∀ text, text ∈ entry.2 ↔ text ∈ acl.texts entry.1

/-- The grouped rows are the entries of the list. -/
theorem entries_get_all_roles_permissions (s : AccountStore) :
    s.acl.Entries (RolePermissionRepositoryImpl.get_all_roles_permissions s) := by
  have hgrouped : Grouped s.pairs (RolePermissionRepositoryImpl.get_all_roles_permissions s) := grouped_group _
  refine ⟨hgrouped.nodup, ?_, ?_, ?_⟩
  · rintro name ⟨text, htext⟩
    rw [hgrouped.mem_keys]
    exact List.ne_nil_of_mem (mem_values_of.mpr (mem_pairs_iff.mpr htext))
  · intro entry hentry
    rw [hgrouped.values entry hentry]
    exact pairwise_values_of_pairs
  · intro entry hentry text
    rw [hgrouped.values entry hentry, mem_values_of, mem_pairs_iff]

/-- A default adds its key only. -/
theorem mem_keys_setdefault {key : String} :
    name ∈ (setdefault data key).map Prod.fst ↔ name ∈ data.map Prod.fst ∨ name = key := by
  unfold setdefault
  split
  · next h => exact ⟨Or.inl, fun hname => hname.elim id fun heq => heq ▸ h⟩
  · simp

/-- Roles without permissions are entries too. -/
theorem Acl.Entries.setdefault (h : acl.Entries data) (key : String) : acl.Entries (setdefault data key) := by
  by_cases hkey : key ∈ data.map Prod.fst
  · rw [accounts.setdefault, if_pos hkey]
    exact h
  · refine ⟨?_, fun name hname => mem_keys_setdefault.mpr (Or.inl (h.named name hname)), ?_, ?_⟩
    · rw [accounts.setdefault, if_neg hkey, List.map_append]
      simpa using h.nodup.concat hkey
    all_goals rw [accounts.setdefault, if_neg hkey]; simp only [List.forall_mem_append, List.forall_mem_singleton]
    · exact ⟨h.sorted, List.Pairwise.nil⟩
    · refine ⟨h.texts, fun text => iff_of_false List.not_mem_nil fun htext => hkey (h.named key ⟨text, htext⟩)⟩

/-- Every role has an entry when all of them have been added. -/
theorem Acl.Entries.foldl_setdefault (h : acl.Entries data) (roles : List Role) :
    acl.Entries (roles.foldl (fun data role => accounts.setdefault data role.value) data) ∧
      ∀ name, name ∈ (roles.foldl (fun data role => accounts.setdefault data role.value) data).map Prod.fst ↔
        name ∈ data.map Prod.fst ∨ ∃ role ∈ roles, role.value = name := by
  induction roles generalizing data with
  | nil => exact ⟨h, fun name => by simp⟩
  | cons role roles ih =>
    obtain ⟨hentries, hkeys⟩ := ih (h.setdefault role.value)
    refine ⟨hentries, fun name => ?_⟩
    rw [List.foldl_cons, hkeys, mem_keys_setdefault, or_assoc, List.exists_mem_cons_iff, eq_comm]

/-- What `GET /roles` answers lists the access control list. -/
theorem lists_list_roles (s : AccountStore) :
    s.acl.Lists (Role.members.foldl (fun data role => setdefault data role.value)
      (RolePermissionRepositoryImpl.get_all_roles_permissions s)) := by
  obtain ⟨hentries, hkeys⟩ := (entries_get_all_roles_permissions s).foldl_setdefault Role.members
  exact ⟨hentries.nodup, fun role => (hkeys _).mpr (Or.inr ⟨role, role.mem_members, rfl⟩), hentries.named,
    hentries.sorted, hentries.texts⟩

/-- A role and permissions, as texts name them. -/
def parse_set (d : Deployment) (name : String) (texts : List String) : Except Error (Role × Finset Permission) := do
  let role ← parse_role d name
  let perms ← texts.mapM (parse_permission d)
  return (role, perms.toFinset)

/-- A role and a permission, as texts name them. -/
def parse_pair (d : Deployment) (name perm : String) : Except Error (Role × Permission) := do
  let role ← parse_role d name
  let permission ← parse_permission d perm
  return (role, permission)

/-- What a request asks of the list, when its texts name a role and permissions. -/
def RolesRequest.asks (d : Deployment) (request : RolesRequest) : Option AclRequest :=
  match dispatch api_router request.method request.path with
  | some (.list_roles, _) => some .list
  | some (.get_role_permissions, params) => do
    let role ← params.lookup "role"
    (parse_role d role).toOption.map .show
  | some (.set_role_permissions, params) => do
    let role ← params.lookup "role"
    (parse_set d role request.permissions).toOption.map fun parsed => .set parsed.1 parsed.2
  | some (.add_permission, params) => do
    let role ← params.lookup "role"
    let perm ← params.lookup "perm"
    (parse_pair d role perm).toOption.map fun parsed => .add parsed.1 parsed.2
  | some (.remove_permission, params) => do
    let role ← params.lookup "role"
    let perm ← params.lookup "perm"
    (parse_pair d role perm).toOption.map fun parsed => .remove parsed.1 parsed.2
  | some (.list_permissions, _) => some .catalog
  | _ => none

/-- What it asks, when it may: that depends on its token, not on the rows. -/
def RolesRequest.granted (d : Deployment) (request : RolesRequest) : Option AclRequest :=
  (request.asks d).filter fun asked => (require_roles d request.now asked.required request.credentials).isOk

/-- The error is a refusal: the requester is unknown or may not, or a text names nothing. -/
def Refusal (e : Error) : Prop := ∃ status_code ∈ [401, 403, 404], ∃ detail, e = .HTTPException status_code detail

/-- The endpoint does to the rows what the request asks of the list, if it asks something, and
is a refusal otherwise. -/
structure Does (asked : Option AclRequest) (s : AccountStore) (result : Except Error RolesAnswer)
    (t : AccountStore) : Prop where
  users : t.users = s.users
  tokens : t.password_reset_tokens = s.password_reset_tokens
  same : (∀ wanted, asked = some wanted → ¬ wanted.Writes) → t = s
  granted : ∀ wanted, asked = some wanted → t.acl = wanted.after s.acl ∧ wanted.Answers s.acl result
  refused : asked = none → ∃ e, result = .error e ∧ Refusal e

/-- A requester of another role is refused. -/
theorem raises_only_require_roles {now : Int} {required : List Role} {credentials : Credentials} :
    raises_only (require_roles d now required credentials) Refusal := by
  have hhttp {status_code : Nat} {detail : Detail} (hcode : status_code ∈ [401, 403, 404]) :
      Refusal (.HTTPException status_code detail) := ⟨status_code, hcode, detail, rfl⟩
  unfold require_roles
  split
  · exact raises_only_error (hhttp (by decide))
  · refine raises_only_bind (raises_only_mapError fun e _ => ?_) fun _ _ =>
      raises_only_raise_if fun _ => hhttp (by decide)
    cases e with
    | ExpiredSignatureError => exact hhttp (by decide)
    | PyJWTError => exact hhttp (by decide)

/-- An unknown role is refused. -/
theorem raises_only_parse_role : raises_only (parse_role d text) Refusal :=
  raises_only_get_or_raise fun _ => ⟨404, by decide, _, rfl⟩

/-- An unknown permission is refused. -/
theorem raises_only_parse_permission : raises_only (parse_permission d text) Refusal :=
  raises_only_get_or_raise fun _ => ⟨404, by decide, _, rfl⟩

theorem raises_only_parse_permissions (texts : List String) :
    raises_only (texts.mapM (parse_permission d)) Refusal := by
  induction texts with
  | nil => exact raises_only_pure
  | cons text texts ih =>
    rw [List.mapM_cons]
    exact raises_only_bind raises_only_parse_permission fun _ _ => raises_only_bind ih fun _ _ => raises_only_pure

/-- The guard, the texts of the request, then the rows: none of them is read before. -/
def endpoint {α : Type} (guard : Except Error Unit) (parse : Except Error α) (body : α → Session RolesAnswer) :
    Session RolesAnswer := do
  guard
  let parsed ← parse
  body parsed

/-- An endpoint whose body does to every rows what is wanted of the list does so, or refuses. -/
theorem does_endpoint {α : Type} {guard : Except Error Unit} {parse : Except Error α} {body : α → Session RolesAnswer}
    (wanted : α → AclRequest) (hguard : raises_only guard Refusal) (hparse : raises_only parse Refusal)
    (hbody : ∀ a s, Does (some (wanted a)) s (atomically (body a) s).1 (atomically (body a) s).2)
    (s : AccountStore) :
    Does ((parse.toOption.map wanted).filter fun _ => guard.isOk) s (atomically (endpoint guard parse body) s).1
      (atomically (endpoint guard parse body) s).2 := by
  have hrefused {e : Error} (he : Refusal e) (hraise : endpoint guard parse body s = .error e) :
      Does none s (atomically (endpoint guard parse body) s).1 (atomically (endpoint guard parse body) s).2 := by
    rw [atomically_eq_error_iff.mpr ⟨hraise, rfl⟩]
    exact ⟨rfl, rfl, fun _ => rfl, nofun, fun _ => ⟨e, rfl, he⟩⟩
  cases guard with
  | error e =>
    have hfilter : (parse.toOption.map wanted).filter (fun _ => (Except.error e : Except Error Unit).isOk) = none := by
      cases parse <;> rfl
    rw [hfilter]
    exact hrefused (hguard e rfl) rfl
  | ok _ =>
    cases parse with
    | error e => exact hrefused (hparse e rfl) rfl
    | ok a => exact hbody a s

/-- What an endpoint returns is checked after its guard and its texts. -/
theorem serialize_response_endpoint {α : Type} {guard : Except Error Unit} {parse : Except Error α}
    {body : α → Session RolesAnswer} :
    serialize_response RolesAnswer.values (endpoint guard parse body) =
      endpoint guard parse fun a => serialize_response RolesAnswer.values (body a) := by
  cases guard with
  | error e => rfl
  | ok _ => cases parse <;> rfl

/-- An answer whose values are lists of texts is sent. -/
theorem serialize_response_of_fits {x : Session RolesAnswer} {answer : RolesAnswer} (h : x s = .ok (answer, t))
    (hfits : answer.values.all (· = .list_str) = true) :
    atomically (serialize_response RolesAnswer.values x) s = (.ok answer, t) := by
  refine atomically_eq_ok_iff.mpr (Transaction.bind_eq_ok_iff.mpr ⟨answer, t, h, ?_⟩)
  rw [if_pos hfits]
  rfl

/-- An answer that does not fit is an error, whatever has been written before. -/
theorem serialize_response_of_misfit {x : Session RolesAnswer} {answer : RolesAnswer} (h : x s = .ok (answer, t))
    (hfits : answer.values.all (· = .list_str) = false) :
    atomically (serialize_response RolesAnswer.values x) s = (.error .ResponseValidationError, s) := by
  refine atomically_eq_error_iff.mpr ⟨Transaction.bind_eq_error_iff.mpr (Or.inr ⟨answer, t, h, ?_⟩), rfl⟩
  rw [if_neg (Bool.eq_false_iff.mp hfits)]
  rfl

/-- The list of all roles is such an answer. -/
theorem fits_roles (data : List (String × List String)) :
    (RolesAnswer.roles data).values.all (· = .list_str) = true := by
  simp [RolesAnswer.values]

/-- A request that asks for no change leaves the store as it was. -/
theorem does_of_same (wanted : AclRequest) (hafter : wanted.after s.acl = s.acl) {result : Except Error RolesAnswer}
    (hanswers : wanted.Answers s.acl result) : Does (some wanted) s result s :=
  ⟨rfl, rfl, fun _ => rfl, fun _ h => Option.some.inj h ▸ ⟨hafter.symm, hanswers⟩, fun h => by cases h⟩

/-- A body that returns does in its unit of work what it does. -/
theorem does_of_returns {asked : Option AclRequest} {x : Session RolesAnswer} {answer : RolesAnswer}
    (h : x s = .ok (answer, t)) (hdoes : Does asked s (.ok answer) t) :
    Does asked s (atomically x s).1 (atomically x s).2 := by
  rw [atomically_eq_ok_iff.mpr h]
  exact hdoes

/-- The permissions of a role can be set, whatever is stored. -/
theorem exists_set_permissions (role : Role) (permissions : Finset Permission) (s : AccountStore) :
    ∃ t, RolePermissionRepositoryImpl.set_permissions role permissions s = .ok ((), t) := by
  obtain ⟨t, hok, -⟩ := set_permissions_spec role permissions s
  exact ⟨t, hok⟩

/-- Adding a permission adds it to the list. -/
theorem does_add_permission (role : Role) (permission : Permission) (s : AccountStore) :
    ∃ changed t, RolePermissionRepositoryImpl.add_permission role permission s = .ok (changed, t) ∧
      ∀ detail, Does (some (.add role permission)) s
        (.ok (.written (.permission role.value permission.value changed detail))) t := by
  obtain ⟨answer, t, hrun, hmeans⟩ := refines_add_permission role permission s
  obtain ⟨changed, u, hadd, hpure⟩ := Transaction.bind_eq_ok_iff.mp hrun
  obtain ⟨rfl, rfl⟩ := pure_eq_ok_iff.mp hpure
  have hframe : t.users = s.users ∧ t.password_reset_tokens = s.password_reset_tokens := by
    by_cases hheld : permission ∈ s.permissions role.value
    · cases hadd.symm.trans (add_permission_of_mem hheld)
      exact ⟨rfl, rfl⟩
    · obtain ⟨v, hnew, hgrants⟩ := add_permission_of_not_mem hheld
      cases hadd.symm.trans hnew
      exact ⟨hgrants.users, hgrants.tokens⟩
  refine ⟨changed, t, hadd, fun detail => ⟨hframe.1, hframe.2, fun h => ?_, fun _ h => ?_, fun h => by cases h⟩⟩
  · exact absurd trivial (h _ rfl)
  · cases h
    exact ⟨hmeans.2, rfl, rfl, hmeans.1⟩

/-- Removing a permission takes it from the list. -/
theorem does_remove_permission (role : Role) (permission : Permission) (s : AccountStore) :
    ∃ changed t, RolePermissionRepositoryImpl.remove_permission role permission s = .ok (changed, t) ∧
      ∀ detail, Does (some (.remove role permission)) s
        (.ok (.written (.permission role.value permission.value changed detail))) t := by
  obtain ⟨answer, t, hrun, hmeans⟩ := refines_remove_permission role permission s
  obtain ⟨changed, u, hremove, hpure⟩ := Transaction.bind_eq_ok_iff.mp hrun
  obtain ⟨rfl, rfl⟩ := pure_eq_ok_iff.mp hpure
  have hframe : t.users = s.users ∧ t.password_reset_tokens = s.password_reset_tokens := by
    by_cases hheld : permission ∈ s.permissions role.value
    · obtain ⟨v, hold, hregrants⟩ := remove_permission_of_mem hheld
      cases hremove.symm.trans hold
      exact ⟨hregrants.users, hregrants.tokens⟩
    · cases hremove.symm.trans (remove_permission_of_not_mem hheld)
      exact ⟨rfl, rfl⟩
  refine ⟨changed, t, hremove, fun detail => ⟨hframe.1, hframe.2, fun h => ?_, fun _ h => ?_, fun h => by cases h⟩⟩
  · exact absurd trivial (h _ rfl)
  · cases h
    exact ⟨hmeans.2, rfl, rfl, hmeans.1⟩

section endpoints

variable {now : Int} {credentials : Credentials} {perm : String} {texts : List String} {guard : Except Error Unit}

/-- `GET /roles` answers the list. -/
theorem does_list_roles (s : AccountStore) :
    Does ((some AclRequest.list).filter fun _ => (require_roles d now admins credentials).isOk) s
      (atomically (serialize_response RolesAnswer.values (list_roles d now credentials)) s).1
      (atomically (serialize_response RolesAnswer.values (list_roles d now credentials)) s).2 := by
  have hsame : list_roles d now credentials =
      endpoint (require_roles d now admins credentials) (.ok ()) fun _ => do
        let data ← reads fun s => .ok (RolePermissionRepositoryImpl.get_all_roles_permissions s)
        return .roles (Role.members.foldl (fun data role => setdefault data role.value) data) := rfl
  rw [hsame, serialize_response_endpoint]
  refine does_endpoint (fun _ => .list) raises_only_require_roles raises_only_ok (fun _ s => ?_) s
  rw [serialize_response_of_fits rfl (fits_roles _)]
  exact does_of_same .list rfl (lists_list_roles s)

/-- `GET /roles/permissions/catalog` answers the catalogue. -/
theorem does_list_permissions (s : AccountStore) :
    Does ((some AclRequest.catalog).filter fun _ => (require_roles d now admins credentials).isOk) s
      (atomically (serialize_response RolesAnswer.values (list_permissions d now credentials)) s).1
      (atomically (serialize_response RolesAnswer.values (list_permissions d now credentials)) s).2 := by
  have hsame : list_permissions d now credentials =
      endpoint (require_roles d now admins credentials) (.ok ()) fun _ => pure (.roles permission_catalog) := rfl
  rw [hsame, serialize_response_endpoint]
  refine does_endpoint (fun _ => .catalog) raises_only_require_roles raises_only_ok (fun _ s => ?_) s
  rw [serialize_response_of_fits rfl (fits_roles _)]
  exact does_of_same .catalog rfl rfl

/-- `GET /roles/{role}/permissions` ends in an error, with or without a right to it. -/
theorem does_get_role_permissions (name : String) (s : AccountStore) :
    Does (((parse_role d name).toOption.map AclRequest.show).filter
        fun _ => (require_roles d now admins credentials).isOk) s
      (atomically (serialize_response RolesAnswer.values (get_role_permissions d now credentials name)) s).1
      (atomically (serialize_response RolesAnswer.values (get_role_permissions d now credentials name)) s).2 := by
  have hsame : get_role_permissions d now credentials name =
      endpoint (require_roles d now admins credentials) (parse_role d name) fun role => do
        let perms ← reads fun s => .ok (get_permissions_for_role role s)
        return .role role.value (sorted_values perms) := rfl
  rw [hsame, serialize_response_endpoint]
  refine does_endpoint .show raises_only_require_roles raises_only_parse_role (fun role s => ?_) s
  rw [serialize_response_of_misfit rfl rfl]
  exact does_of_same (.show role) rfl rfl

theorem raises_only_parse_pair : raises_only (parse_pair d name perm) Refusal :=
  raises_only_bind raises_only_parse_role fun _ _ =>
    raises_only_bind raises_only_parse_permission fun _ _ => raises_only_pure

theorem raises_only_parse_set : raises_only (parse_set d name texts) Refusal :=
  raises_only_bind raises_only_parse_role fun _ _ =>
    raises_only_bind (raises_only_parse_permissions texts) fun _ _ => raises_only_pure

/-- `PUT /roles/{role}/permissions` does so too, and its writes are rolled back. -/
theorem does_set_role_permissions (name : String) (texts : List String) (s : AccountStore) :
    Does (((parse_set d name texts).toOption.map fun parsed => AclRequest.set parsed.1 parsed.2).filter
        fun _ => (require_roles d now super_admins credentials).isOk) s
      (atomically (serialize_response RolesAnswer.values (set_role_permissions d now credentials name texts)) s).1
      (atomically (serialize_response RolesAnswer.values (set_role_permissions d now credentials name texts)) s).2 := by
  have hsame : set_role_permissions d now credentials name texts =
      endpoint (require_roles d now super_admins credentials) (parse_set d name texts) fun parsed => do
        RolePermissionRepositoryImpl.set_permissions parsed.1 parsed.2
        return .role parsed.1.value (sorted_values parsed.2) := by
    funext s
    simp only [set_role_permissions, endpoint, parse_set, lift_bind_apply]
    cases require_roles d now super_admins credentials <;> cases parse_role d name <;>
      cases texts.mapM (parse_permission d) <;> rfl
  rw [hsame, serialize_response_endpoint]
  refine does_endpoint _ raises_only_require_roles raises_only_parse_set (fun parsed s => ?_) s
  obtain ⟨t, hok⟩ := exists_set_permissions parsed.1 parsed.2 s
  have hreturns : (do
      RolePermissionRepositoryImpl.set_permissions parsed.1 parsed.2
      return .role parsed.1.value (sorted_values parsed.2) : Session RolesAnswer) s =
        .ok (.role parsed.1.value (sorted_values parsed.2), t) :=
    Transaction.bind_eq_ok_iff.mpr ⟨(), t, hok, pure_eq_ok_iff.mpr ⟨rfl, rfl⟩⟩
  rw [serialize_response_of_misfit hreturns rfl]
  exact does_of_same (.set parsed.1 parsed.2) rfl rfl

/-- `POST /roles/{role}/permissions/{perm}` adds the permission. -/
theorem does_add_permission_endpoint (name perm : String) (s : AccountStore) :
    Does (((parse_pair d name perm).toOption.map fun parsed => AclRequest.add parsed.1 parsed.2).filter
        fun _ => (require_roles d now super_admins credentials).isOk) s
      (atomically (RolesAnswer.written <$> add_permission d now credentials name perm) s).1
      (atomically (RolesAnswer.written <$> add_permission d now credentials name perm) s).2 := by
  have hsame : RolesAnswer.written <$> add_permission d now credentials name perm =
      endpoint (require_roles d now super_admins credentials) (parse_pair d name perm) fun parsed => do
        let added ← RolePermissionRepositoryImpl.add_permission parsed.1 parsed.2
        return .written (.permission parsed.1.value parsed.2.value added
          (if added then "Permission ajoutée." else "Permission déjà présente (aucune modification).")) := by
    funext s
    simp only [add_permission, endpoint, parse_pair, lift_bind_apply, map_eq_pure_bind, bind_assoc, pure_bind]
  rw [hsame]
  refine does_endpoint _ raises_only_require_roles raises_only_parse_pair (fun parsed s => ?_) s
  obtain ⟨changed, t, hok, hdoes⟩ := does_add_permission parsed.1 parsed.2 s
  exact does_of_returns (Transaction.bind_eq_ok_iff.mpr ⟨changed, t, hok, pure_eq_ok_iff.mpr ⟨rfl, rfl⟩⟩) (hdoes _)

/-- `DELETE /roles/{role}/permissions/{perm}` removes it. -/
theorem does_remove_permission_endpoint (name perm : String) (s : AccountStore) :
    Does (((parse_pair d name perm).toOption.map fun parsed => AclRequest.remove parsed.1 parsed.2).filter
        fun _ => (require_roles d now super_admins credentials).isOk) s
      (atomically (RolesAnswer.written <$> remove_permission d now credentials name perm) s).1
      (atomically (RolesAnswer.written <$> remove_permission d now credentials name perm) s).2 := by
  have hsame : RolesAnswer.written <$> remove_permission d now credentials name perm =
      endpoint (require_roles d now super_admins credentials) (parse_pair d name perm) fun parsed => do
        let removed ← RolePermissionRepositoryImpl.remove_permission parsed.1 parsed.2
        return .written (.permission parsed.1.value parsed.2.value removed
          (if removed then "Permission retirée." else "Permission absente (aucune modification).")) := by
    funext s
    simp only [remove_permission, endpoint, parse_pair, lift_bind_apply, map_eq_pure_bind, bind_assoc, pure_bind]
  rw [hsame]
  refine does_endpoint _ raises_only_require_roles raises_only_parse_pair (fun parsed s => ?_) s
  obtain ⟨changed, t, hok, hdoes⟩ := does_remove_permission parsed.1 parsed.2 s
  exact does_of_returns (Transaction.bind_eq_ok_iff.mpr ⟨changed, t, hok, pure_eq_ok_iff.mpr ⟨rfl, rfl⟩⟩) (hdoes _)

/-- Under the roles the request needs, whatever it asks. -/
theorem filter_granted {α : Type} {required : List Role} (parsed : Option α) (wanted : α → AclRequest)
    (hrequired : ∀ a, (wanted a).required = required) :
    ((parsed.map wanted).filter fun asked => (require_roles d now asked.required credentials).isOk) =
      (parsed.map wanted).filter fun _ => (require_roles d now required credentials).isOk := by
  cases parsed with
  | none => rfl
  | some a => simp only [Option.map_some, Option.filter_some, hrequired]

end endpoints

/-- A request is refused, or does to the rows what it asks of the list. -/
theorem does_serve {result : Except Error RolesAnswer} (h : request.serve d s = some (result, t)) :
    Does (request.granted d) s result t := by
  obtain ⟨x, hhandler, hdone⟩ := Option.map_eq_some_iff.mp h
  obtain rfl : (atomically x s).1 = result := congrArg Prod.fst hdone
  obtain rfl : (atomically x s).2 = t := congrArg Prod.snd hdone
  unfold RolesRequest.handler at hhandler
  unfold RolesRequest.granted RolesRequest.asks
  split at hhandler
  · next heq =>
    cases hhandler
    rw [heq]
    exact does_list_roles s
  · next heq =>
    obtain ⟨role, hrole, hreturn⟩ := Option.bind_eq_some_iff.mp hhandler
    cases hreturn
    rw [heq]
    simp only [hrole, Option.bind_eq_bind, Option.bind_some]
    rw [filter_granted _ AclRequest.show fun _ => rfl]
    exact does_get_role_permissions role s
  · next heq =>
    obtain ⟨role, hrole, hreturn⟩ := Option.bind_eq_some_iff.mp hhandler
    cases hreturn
    rw [heq]
    simp only [hrole, Option.bind_eq_bind, Option.bind_some]
    rw [filter_granted _ (fun parsed : Role × Finset Permission => .set parsed.1 parsed.2) fun _ => rfl]
    exact does_set_role_permissions role request.permissions s
  · next heq =>
    obtain ⟨role, hrole, hrest⟩ := Option.bind_eq_some_iff.mp hhandler
    obtain ⟨perm, hperm, hreturn⟩ := Option.bind_eq_some_iff.mp hrest
    cases hreturn
    rw [heq]
    simp only [hrole, hperm, Option.bind_eq_bind, Option.bind_some]
    rw [filter_granted _ (fun parsed : Role × Permission => .add parsed.1 parsed.2) fun _ => rfl]
    exact does_add_permission_endpoint role perm s
  · next heq =>
    obtain ⟨role, hrole, hrest⟩ := Option.bind_eq_some_iff.mp hhandler
    obtain ⟨perm, hperm, hreturn⟩ := Option.bind_eq_some_iff.mp hrest
    cases hreturn
    rw [heq]
    simp only [hrole, hperm, Option.bind_eq_bind, Option.bind_some]
    rw [filter_granted _ (fun parsed : Role × Permission => .remove parsed.1 parsed.2) fun _ => rfl]
    exact does_remove_permission_endpoint role perm s
  · next params heq => exact absurd heq (reset_permissions_unreachable request.method request.path params)
  · next heq =>
    cases hhandler
    rw [heq]
    exact does_list_permissions s
  · cases hhandler

/-- In every run of requests to the endpoints for roles, with any paths, texts and tokens: the
list is the one that the granted requests for one permission ask for, in their order, and no
account has changed. The list and the catalogue are answered as they are; a request for the
permissions of one role, or to set them, ends in an error and changes nothing, also when it is
granted; what is not granted is refused and changes nothing. -/
theorem roles_requests_refine (hrun : Execution (RolesServed d) s requests t) :
    t.acl = (requests.filterMap (RolesRequest.granted d)).foldl AclRequest.after s.acl ∧ t.users = s.users ∧
    t.password_reset_tokens = s.password_reset_tokens ∧
    ∀ (request : RolesRequest) result u, request.serve d t = some (result, u) →
      Does (request.granted d) t result u := by
  have hacl : t.acl = (requests.filterMap (RolesRequest.granted d)).foldl AclRequest.after s.acl ∧
      t.users = s.users ∧ t.password_reset_tokens = s.password_reset_tokens := by
    induction hrun with
    | refl => exact ⟨rfl, rfl, rfl⟩
    | @snoc requests u request v _ hstep ih =>
      obtain ⟨hbefore, husers, htokens⟩ := ih
      obtain ⟨result, hserve⟩ := hstep
      have hdoes := does_serve hserve
      refine ⟨?_, hdoes.users.trans husers, hdoes.tokens.trans htokens⟩
      rw [List.filterMap_append, List.foldl_append, ← hbefore]
      cases hgranted : request.granted d with
      | none => simp [hgranted, hdoes.same fun _ h => by rw [hgranted] at h; cases h]
      | some asked => simp [hgranted, (hdoes.granted asked hgranted).1]
  exact ⟨hacl.1, hacl.2.1, hacl.2.2, fun _ _ _ => does_serve⟩

/-- Whether the request gives the role the permission, or takes it from it, or leaves it as it is. -/
def AclRequest.verdict (role : Role) (permission : Permission) : AclRequest → Option Bool
  | .list | .show _ | .set _ _ | .catalog => none
  | .add other p => if other = role ∧ p = permission then some true else none
  | .remove other p => if other = role ∧ p = permission then some false else none

/-- What a request decides of a pair holds after it, any other pair is as it was. -/
theorem AclRequest.mem_after {asked : AclRequest} :
    permission ∈ (asked.after acl).permissions role.value ↔
      (asked.verdict role permission).elim (permission ∈ acl.permissions role.value) (· = true) := by
  cases asked with
  | list | «show» | «set» | catalog => exact Iff.rfl
  | add other p | remove other p =>
    rw [AclRequest.after, Acl.mem_assign, AclRequest.verdict]
    by_cases hrole : other = role
    · by_cases hp : p = permission
      · simp [hrole, hp]
      · simp [hrole, hp, Ne.symm hp]
    · simp [hrole]

/-- Requests without a verdict leave the pair as it was. -/
theorem mem_foldl_after (asked : List AclRequest) (h : ∀ wanted ∈ asked, wanted.verdict role permission = none) :
    permission ∈ (asked.foldl AclRequest.after acl).permissions role.value ↔
      permission ∈ acl.permissions role.value := by
  induction asked generalizing acl with
  | nil => exact Iff.rfl
  | cons wanted asked ih =>
    obtain ⟨hfirst, hrest⟩ := List.forall_mem_cons.mp h
    rw [List.foldl_cons, ih hrest, AclRequest.mem_after, hfirst]
    rfl

/-- Once a role has been given a permission, or it has been taken from it, and until a granted
request decides the same pair again, whatever else is asked: the permission is stored for the role
or not, `GET` lists it there or not, and a token of the role is admitted for it or not. -/
theorem permission_read_back {write : RolesRequest} {before after : List RolesRequest} {wanted : AclRequest}
    {held : Bool} (hrun : Execution (RolesServed d) s (before ++ write :: after) t)
    (hwrite : write.granted d = some wanted) (hverdict : wanted.verdict role permission = some held)
    (hafter : ∀ request ∈ after, ∀ asked, request.granted d = some asked → asked.verdict role permission = none) :
    (permission ∈ get_permissions_for_role role t ↔ held = true) ∧
    (∀ (request : RolesRequest) result u, request.granted d = some .list → request.serve d t = some (result, u) →
      ∃ data texts, result = .ok (.roles data) ∧ (role.value, texts) ∈ data ∧
        (permission.value ∈ texts ↔ held = true)) ∧
    ∀ credentials now, BearsRole d now credentials role →
      (require_permission d now permission credentials t = .ok () ↔ held = true) := by
  obtain ⟨hacl, -, -, hserved⟩ := roles_requests_refine hrun
  rw [List.filterMap_append, List.filterMap_cons_some hwrite, List.foldl_append, List.foldl_cons] at hacl
  have hspares : ∀ asked ∈ after.filterMap (RolesRequest.granted d), asked.verdict role permission = none := by
    intro asked hasked
    obtain ⟨request, hrequest, hgranted⟩ := List.mem_filterMap.mp hasked
    exact hafter request hrequest asked hgranted
  have hheld : permission ∈ t.permissions role.value ↔ held = true := by
    change permission ∈ t.acl.permissions role.value ↔ _
    rw [hacl, mem_foldl_after _ hspares, AclRequest.mem_after, hverdict]
    rfl
  refine ⟨?_, ?_, ?_⟩
  · rw [mem_get_permissions_for_role, hheld]
  · intro request result u hgranted hserve
    obtain ⟨-, hanswers⟩ := (hserved request result u hserve).granted _ hgranted
    match result, hanswers with
    | .ok (.roles data), hlists =>
      obtain ⟨⟨name, texts⟩, hentry, rfl⟩ := List.mem_map.mp (hlists.roles role)
      refine ⟨data, texts, rfl, hentry, ?_⟩
      rw [hlists.texts _ hentry, mem_texts_iff, ← hheld]
      rfl
  · intro credentials now hbears
    rw [require_permission_eq_ok_iff hbears, hheld]

namespace roles_pilot

/-- The technical administrator gives inspectors the reports. -/
def add : RolesRequest :=
  ⟨.POST, ["roles", "inspector", "permissions", "report_read"], [], { token := some ".SUPER_ADMIN" }, 0⟩

/-- The technical administrator means to leave inspectors one permission. -/
def put : RolesRequest :=
  ⟨.PUT, ["roles", "inspector", "permissions"], ["visit_checkin", "VISIT_CHECKIN"], { token := some ".SUPER_ADMIN" }, 0⟩

/-- The national administrator may not write. -/
def refused : RolesRequest :=
  ⟨.DELETE, ["roles", "INSPECTOR", "permissions", "REPORT_READ"], [], { token := some ".NATIONAL_ADMIN" }, 0⟩

theorem granted_add : add.granted (.small "") = some (.add .INSPECTOR .REPORT_READ) := by decide +kernel

theorem granted_put : put.granted (.small "") = some (.set .INSPECTOR {.VISIT_CHECKIN}) := by decide +kernel

theorem granted_refused : refused.granted (.small "") = none := by decide +kernel

theorem run : ∃ t, Execution (RolesServed (.small "")) .empty [add, put, refused] t :=
  ⟨_, .snoc (.snoc (.single ⟨_, rfl⟩) ⟨_, rfl⟩) ⟨_, rfl⟩⟩

end roles_pilot

open roles_pilot in
/-- Of the three requests only the first one has an effect. -/
theorem inspectors_may_read_reports : ∃ t, Execution (RolesServed (.small "")) .empty [add, put, refused] t ∧
    t.acl = AclRequest.after AccountStore.empty.acl (.add .INSPECTOR .REPORT_READ) := by
  obtain ⟨t, hrun⟩ := run
  refine ⟨t, hrun, (roles_requests_refine hrun).1.trans ?_⟩
  rw [List.filterMap_cons_some granted_add, List.filterMap_cons_some granted_put,
    List.filterMap_cons_none granted_refused]
  rfl

open roles_pilot in
theorem inspectors_read_reports_back : ∃ t, Execution (RolesServed (.small "")) .empty [add, put, refused] t ∧
    .REPORT_READ ∈ get_permissions_for_role .INSPECTOR t := by
  obtain ⟨t, hrun⟩ := run
  have hsplit : Execution (RolesServed (.small "")) .empty ([] ++ add :: [put, refused]) t := hrun
  have hback := permission_read_back hsplit granted_add
    (show AclRequest.verdict .INSPECTOR .REPORT_READ _ = some true from rfl) ?_
  · exact ⟨t, hrun, hback.1.mpr rfl⟩
  · intro request hrequest asked hgranted
    rcases List.mem_pair.mp hrequest with rfl | rfl
    · rw [granted_put] at hgranted
      cases hgranted
      rfl
    · rw [granted_refused] at hgranted
      cases hgranted

end sigis.accounts
