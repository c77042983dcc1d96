import Sigis.ExceptionRequests.Deadlines
import Sigis.Lib.Cells
import Sigis.Lib.Ledger

open guarded paging relational transactional transition

namespace sigis

/-- The keys whose values a PATCH may change. -/
def PatchExceptionBody.sets (body : PatchExceptionBody) : List String :=
  (if body.status.isSome then ["status"] else []) ++
  (if body.assigned_to_user_id.isSome then ["assigned_to_user_id"] else []) ++
  (if body.internal_comment.isSome then ["internal_comment"] else []) ++
  (if body.sla_due_at.isSome ∨ body.status = some .ACKNOWLEDGED then ["sla_due_at"] else []) ++
  (if body.attachment_url.isSome then ["attachment_url"] else [])

/-- The exception request that a request edits. -/
def ExceptionRoute.edits : ExceptionRoute → Option UUID
  | .create_exception _ _ => none
  | .update_exception_status exception_id _ | .patch_exception_request exception_id _ => some exception_id

/-- The keys of the exception request `id` whose values a request may change. -/
def ExceptionRoute.sets (id : UUID) : ExceptionRoute → List String
  | .create_exception _ _ => []
  | .update_exception_status exception_id _ => if exception_id = id then ["status"] else []
  | .patch_exception_request exception_id body => if exception_id = id then body.sets else []

/-- The two requests are the same one, and differ at most under these keys. -/
structure ExceptionRequest.Agrees (a b : ExceptionRequest) (keys : List String) : Prop where
  id : a.id = b.id
  mission_id : a.mission_id = b.mission_id
  author_user_id : a.author_user_id = b.author_user_id
  created_at : a.created_at = b.created_at
  message : a.message = b.message
  status : "status" ∉ keys → a.status = b.status
  assigned_to_user_id : "assigned_to_user_id" ∉ keys → a.assigned_to_user_id = b.assigned_to_user_id
  internal_comment : "internal_comment" ∉ keys → a.internal_comment = b.internal_comment
  sla_due_at : "sla_due_at" ∉ keys → a.sla_due_at = b.sla_due_at
  attachment_url : "attachment_url" ∉ keys → a.attachment_url = b.attachment_url

theorem PatchExceptionBody.agrees_apply_to (body : PatchExceptionBody) (now : Int) (exc : ExceptionRequest) :
    (body.apply_to now exc).Agrees exc body.sets where
  id := rfl
  mission_id := rfl
  author_user_id := rfl
  created_at := rfl
  message := rfl
  status := by
    intro h
    cases hbody : body.status with
    | none => simp [apply_to, hbody]
    | some status => simp [sets, hbody] at h
  assigned_to_user_id := by
    intro h
    cases hbody : body.assigned_to_user_id with
    | none => simp [apply_to, hbody]
    | some user => simp [sets, hbody] at h
  internal_comment := by
    intro h
    cases hbody : body.internal_comment with
    | none => simp [apply_to, hbody]
    | some comment => simp [sets, hbody] at h
  sla_due_at := by
    intro h
    cases hbody : body.sla_due_at with
    | none =>
      have hstatus : body.status ≠ some .ACKNOWLEDGED := by
        intro hstatus
        simp [sets, hbody, hstatus] at h
      simp [apply_to, hbody, hstatus]
    | some due => simp [sets, hbody] at h
  attachment_url := by
    intro h
    cases hbody : body.attachment_url with
    | none => simp [apply_to, hbody]
    | some url => simp [sets, hbody] at h

theorem ExceptionRequest.agrees_status (exc : ExceptionRequest) (status : ExceptionRequestStatus) :
    ExceptionRequest.Agrees { exc with status := status } exc ["status"] where
  id := rfl
  mission_id := rfl
  author_user_id := rfl
  created_at := rfl
  message := rfl
  status := fun h => absurd (List.mem_singleton.mpr rfl) h
  assigned_to_user_id := fun _ => rfl
  internal_comment := fun _ => rfl
  sla_due_at := fun _ => rfl
  attachment_url := fun _ => rfl

theorem Dict.mem_of_get {d : Dict} {key : String} {value : Json} (h : d.get key = some value) : (key, value) ∈ d := by
  obtain ⟨⟨key', value'⟩, hfind, rfl⟩ := Option.map_eq_some_iff.mp h
  have hkey := List.find?_some hfind
  obtain rfl : key' = key := of_decide_eq_true hkey
  exact List.mem_of_find?_eq_some hfind

/-- A statement about the values under one key, key by key. -/
theorem exc_dict_keys {P : String → Prop} (id : P "id") (mission_id : P "mission_id") (author : P "author_user_id")
    (created : P "created_at") (status : P "status") (message : P "message") (assigned : P "assigned_to_user_id")
    (comment : P "internal_comment") (due : P "sla_due_at") (url : P "attachment_url")
    (other : ∀ key, (∀ e, (exc_dict e).get key = none) → P key) (key : String) : P key := by
  by_cases hmem : key ∈ ["id", "mission_id", "author_user_id", "created_at", "status", "message",
    "assigned_to_user_id", "internal_comment", "sla_due_at", "attachment_url"]
  · simp only [List.mem_cons, List.not_mem_nil, or_false] at hmem
    rcases hmem with rfl | rfl | rfl | rfl | rfl | rfl | rfl | rfl | rfl | rfl <;> assumption
  · refine other key fun e => ?_
    have hnone : (exc_dict e).find? (fun item => item.1 = key) = none := by
      refine List.find?_eq_none.mpr fun item hitem hkey => hmem ?_
      rw [← of_decide_eq_true hkey]
      exact List.mem_map_of_mem (f := Prod.fst) hitem
    rw [Dict.get, hnone, Option.map_none]

/-- Requests that agree but for some keys are read alike under the others. -/
theorem ExceptionRequest.Agrees.get_exc_dict {a b : ExceptionRequest} {keys : List String} (h : a.Agrees b keys)
    (key : String) : key ∉ keys → (exc_dict a).get key = (exc_dict b).get key := by
  induction key using exc_dict_keys with
  | id => exact fun _ => congrArg (fun id => some (Json.str (UUID.str id))) h.id
  | mission_id => exact fun _ => congrArg (fun id => some (Json.str (UUID.str id))) h.mission_id
  | author => exact fun _ => congrArg (fun id => some (Json.str (UUID.str id))) h.author_user_id
  | created => exact fun _ => congrArg (fun time => some (Json.isoformat time)) h.created_at
  | message => exact fun _ => congrArg (fun message => some (Json.str message)) h.message
  | status =>
    exact fun hkey => congrArg (fun status => some (Json.str (ExceptionRequestStatus.value status))) (h.status hkey)
  | assigned =>
    exact fun hkey => congrArg (fun user : Option UUID => some (((user.map UUID.str).map Json.str).getD .null))
      (h.assigned_to_user_id hkey)
  | comment =>
    exact fun hkey => congrArg (fun comment : Option String => some ((comment.map Json.str).getD .null))
      (h.internal_comment hkey)
  | due =>
    exact fun hkey => congrArg (fun due : Option datetime => some ((due.map Json.isoformat).getD .null))
      (h.sla_due_at hkey)
  | url =>
    exact fun hkey => congrArg (fun url : Option String => some ((url.map Json.str).getD .null)) (h.attachment_url hkey)
  | other key hnone => exact fun _ => (hnone a).trans (hnone b).symm

theorem isSome_get_exc_dict (a b : ExceptionRequest) (key : String) :
    ((exc_dict a).get key).isSome = ((exc_dict b).get key).isSome := by
  induction key using exc_dict_keys with
  | other key hnone => rw [hnone, hnone]
  | _ => rfl

/-- What is read of a stored request, but for the offsets of times. -/
def ExceptionRequestModel.value (row : ExceptionRequestModel) (key : String) : Option Json :=
  ((exc_dict (exception_request_to_domain row)).get key).map Json.stored

theorem ExceptionRequestModel.isSome_value (a b : ExceptionRequestModel) (key : String) :
    (a.value key).isSome = (b.value key).isSome := by
  simp only [value, Option.isSome_map]
  exact isSome_get_exc_dict _ _ key

/-- The row an edit, prepared on `loaded`, leaves of `current`. -/
def ExceptionRequestModel.edited (loaded : ExceptionRequestModel) (exc : ExceptionRequest)
    (current : ExceptionRequestModel) : ExceptionRequestModel :=
  ExceptionRequestModel.flush loaded (apply_exception_request_to_row exc loaded) current

/-- An edit leaves what it does not change, whatever has happened to the row since it was read. -/
theorem ExceptionRequest.Agrees.edited {exc : ExceptionRequest} {loaded : ExceptionRequestModel} {keys : List String}
    (h : exc.Agrees (exception_request_to_domain loaded) keys) (current : ExceptionRequestModel) :
    (exception_request_to_domain (loaded.edited exc current)).Agrees (exception_request_to_domain current) keys where
  id := rfl
  mission_id := rfl
  author_user_id := rfl
  created_at := rfl
  message := (congrArg (column loaded.message · current.message) h.message).trans column_unchanged
  status := fun hkey => (congrArg (column loaded.status · current.status) (h.status hkey)).trans column_unchanged
  assigned_to_user_id := fun hkey =>
    (congrArg (column loaded.assigned_to_user_id · current.assigned_to_user_id) (h.assigned_to_user_id hkey)).trans
      column_unchanged
  internal_comment := fun hkey =>
    (congrArg (column loaded.internal_comment · current.internal_comment) (h.internal_comment hkey)).trans
      column_unchanged
  sla_due_at := fun hkey =>
    (congrArg (bound_column _ loaded.sla_due_at · current.sla_due_at) (h.sla_due_at hkey)).trans bound_column_unchanged
  attachment_url := fun hkey =>
    (congrArg (column loaded.attachment_url · current.attachment_url) (h.attachment_url hkey)).trans column_unchanged

/-- Under a key where the row is still read as it was when the edit was prepared, the edit leaves
what it answers. -/
theorem ExceptionRequest.Agrees.value_edited {exc : ExceptionRequest} {loaded current : ExceptionRequestModel}
    {keys : List String} (h : exc.Agrees (exception_request_to_domain loaded) keys)
    {key : String} (hsame : current.value key = loaded.value key) :
    (loaded.edited exc current).value key = ((exc_dict exc).get key).map Json.stored := by
  induction key using exc_dict_keys with
  | id => exact hsame.trans (congrArg (fun id => some (Json.str (UUID.str id)).stored) h.id.symm)
  | mission_id => exact hsame.trans (congrArg (fun id => some (Json.str (UUID.str id)).stored) h.mission_id.symm)
  | author => exact hsame.trans (congrArg (fun id => some (Json.str (UUID.str id)).stored) h.author_user_id.symm)
  | created => exact hsame.trans (congrArg (fun time => some (Json.isoformat time).stored) h.created_at.symm)
  | status => exact column_congr (fun status => some (Json.str (ExceptionRequestStatus.value status)).stored) hsame
  | message => exact column_congr (fun message => some (Json.str message).stored) hsame
  | assigned =>
    exact column_congr (fun user : Option UUID => some (((user.map UUID.str).map Json.str).getD .null).stored) hsame
  | comment => exact column_congr (fun comment : Option String => some ((comment.map Json.str).getD .null).stored) hsame
  | due =>
    refine bound_column_congr (fun due : Option datetime => some ((due.map Json.isoformat).getD .null).stored) ?_ hsame
    cases (apply_exception_request_to_row exc loaded).sla_due_at <;> rfl
  | url => exact column_congr (fun url : Option String => some ((url.map Json.str).getD .null).stored) hsame
  | other key hnone => rw [ExceptionRequestModel.value, hnone, hnone]

variable {F ι : Type} {call : ExceptionCall} {s t : SupervisedStore F} {answer : Dict} {pending : ExceptionPending}
  {id : UUID} {key : String}

/-- What a GET reads under a key, but for the offset of a time. -/
def SupervisedStore.value (s : SupervisedStore F) (id : UUID) (key : String) : Option Json :=
  (s.exception_requests.get id).bind fun row => row.value key

/-- What a request answers under a key of the exception request it edits. -/
def ExceptionCall.answers (id : UUID) (key : String) (call : ExceptionCall) (answer : Dict) : Option Json :=
  if call.route.edits = some id then (answer.get key).map Json.stored else none

/-- An edit writes the row it has read, with what it answers in it. -/
structure ExceptionCall.Edits (call : ExceptionCall) (id : UUID) (s : SupervisedStore F) (answer : Dict)
    (pending : ExceptionPending) (row : ExceptionRequestModel) (exc : ExceptionRequest) : Prop where
  read : s.exception_requests.get id = some row
  agrees : exc.Agrees (exception_request_to_domain row) (call.route.sets id)
  writes : pending.writes = [.update_exception_request row (apply_exception_request_to_row exc row)]
  names : answer.get "id" = some (.str id.str)
  answered : ∀ {key value}, answer.get key = some value → (exc_dict exc).get key = some value

theorem ExceptionCall.exists_edit (h : call.prepare s = .ok (answer, pending)) (hedits : call.route.edits = some id) :
    ∃ row exc, call.Edits id s answer pending row exc := by
  obtain ⟨route, context, env⟩ := call
  cases route with
  | create_exception mission_id message => cases hedits
  | update_exception_status exception_id status =>
    obtain rfl := Option.some.inj hedits
    obtain ⟨row, hrow, rfl, rfl⟩ := update_exception_status_eq_ok_iff.mp h
    refine ⟨row, { exception_request_to_domain row with status := status }, hrow, ?_, rfl, rfl, ?_⟩
    · simpa [ExceptionRoute.sets] using (exception_request_to_domain row).agrees_status status
    · intro key value hget
      have hid : row.id = exception_id := Table.key_of_get hrow
      rcases List.mem_pair.mp (Dict.mem_of_get hget) with heq | heq
      · obtain ⟨rfl, rfl⟩ := Prod.mk.inj heq
        exact congrArg (fun id => some (Json.str (UUID.str id))) hid
      · obtain ⟨rfl, rfl⟩ := Prod.mk.inj heq
        rfl
  | patch_exception_request exception_id body =>
    obtain rfl := Option.some.inj hedits
    obtain ⟨row, exc, hrow, rfl, rfl, rfl⟩ := patch_exception_request_eq_ok_iff.mp h
    refine ⟨row, _, hrow, ?_, rfl, ?_, id⟩
    · simpa [ExceptionRoute.sets] using body.agrees_apply_to env.now (exception_request_to_domain row)
    · exact congrArg (fun id => some (Json.str (UUID.str id))) (Table.key_of_get hrow)


/-- What the commit of an edit leaves of the request, whatever has been committed since it read. -/
theorem ExceptionCall.Edits.get_of_commit {row : ExceptionRequestModel} {exc : ExceptionRequest} {u : SupervisedStore F}
    (h : call.Edits id s answer pending row exc) (hcommit : t.commit pending = some u) (id' : UUID) :
    u.exception_requests.get id' =
      if id' = id then (t.exception_requests.get id).map (row.edited exc) else t.exception_requests.get id' := by
  obtain ⟨hrows, -, -⟩ := SupervisedStore.commit_eq_some_iff.mp hcommit
  rw [h.writes, foldlM_apply_singleton] at hrows
  have hid : row.id = id := Table.key_of_get h.read
  rw [← hid]
  exact Table.get_update (ExceptionRequestModel.keeps_flush _ _) hrows id'

/-- What the commit of a creation leaves of the requests. -/
theorem ExceptionCall.get_of_commit_creation {mission_id : UUID} {message : String} {u : SupervisedStore F}
    (hroute : call.route = .create_exception mission_id message) (h : call.prepare s = .ok (answer, pending))
    (hcommit : t.commit pending = some u) :
    t.exception_requests.insert (new_exception_request_row (CreateExceptionRequest.exception_request call.env
      ⟨mission_id, call.context.user, message⟩)).stored = some u.exception_requests := by
  obtain ⟨route, context, env⟩ := call
  cases hroute
  obtain ⟨m, -, -, rfl⟩ := create_exception_eq_ok_iff.mp h
  obtain ⟨hrows, -, -⟩ := SupervisedStore.commit_eq_some_iff.mp hcommit
  rwa [foldlM_apply_singleton] at hrows

theorem ExceptionCall.exists_edit_of_answers {value : Json} (h : call.prepare s = .ok (answer, pending))
    (hanswers : call.answers id key answer = some value) : ∃ row exc, call.Edits id s answer pending row exc ∧
      s.value id key = row.value key ∧ (row.value key).isSome ∧
      ((exc_dict exc).get key).map Json.stored = some value := by
  unfold ExceptionCall.answers at hanswers
  split at hanswers
  · next hedits =>
    obtain ⟨row, exc, hedit⟩ := call.exists_edit h hedits
    obtain ⟨found, hget, rfl⟩ := Option.map_eq_some_iff.mp hanswers
    refine ⟨row, exc, hedit, ?_, ?_, ?_⟩
    · rw [SupervisedStore.value, hedit.read, Option.bind_some]
    · rw [ExceptionRequestModel.value, Option.isSome_map, isSome_get_exc_dict _ exc, hedit.answered hget, Option.isSome]
    · rw [hedit.answered hget, Option.map_some]
  · cases hanswers

/-- The values of the stored requests, each with the requests that may change it. -/
theorem cell_value (id : UUID) (key : String) :
    Cell (supervised_database F) (fun s => s.value id key) (fun call => key ∈ call.route.sets id)
      (ExceptionCall.answers id key) where
  read := by
    intro call s answer pending value hprepare hanswers
    obtain ⟨row, exc, -, hvalue, hsome, -⟩ := call.exists_edit_of_answers hprepare hanswers
    rwa [hvalue]
  unset := by
    intro call s t u answer pending value hprepare hunset hcommit hvalue
    obtain ⟨current, hcurrent, hvalue⟩ := Option.bind_eq_some_iff.mp hvalue
    cases hedits : call.route.edits with
    | none =>
      cases hroute : call.route with
      | create_exception mission_id message =>
        have hinsert := ExceptionCall.get_of_commit_creation hroute hprepare hcommit
        rw [SupervisedStore.value, Table.get_insert_of_some hinsert hcurrent, Option.bind_some, hvalue]
      | update_exception_status exception_id status => simp [hroute, ExceptionRoute.edits] at hedits
      | patch_exception_request exception_id body => simp [hroute, ExceptionRoute.edits] at hedits
    | some id' =>
      obtain ⟨row, exc, hedit⟩ := call.exists_edit hprepare hedits
      rw [SupervisedStore.value, hedit.get_of_commit hcommit]
      split
      · next hid =>
        subst hid
        rw [hcurrent, Option.map_some, Option.bind_some, ← hvalue]
        exact congrArg (Option.map Json.stored) ((hedit.agrees.edited current).get_exc_dict key hunset)
      · rw [hcurrent, Option.bind_some, hvalue]
  current := by
    intro call s t u answer pending value hprepare hanswers hsame hcommit
    obtain ⟨row, exc, hedit, hvalue, hsome, hexc⟩ := call.exists_edit_of_answers hprepare hanswers
    have hrow : t.value id key = row.value key := hsame.trans hvalue
    rw [SupervisedStore.value, hedit.get_of_commit hcommit, if_pos rfl]
    cases hcurrent : t.exception_requests.get id with
    | none =>
      rw [SupervisedStore.value, hcurrent, Option.bind_none] at hrow
      rw [← hrow] at hsome
      cases hsome
    | some current =>
      rw [SupervisedStore.value, hcurrent, Option.bind_some] at hrow
      rw [Option.map_some, Option.bind_some, hedit.agrees.value_edited hrow, hexc]

variable [DecidableEq ι] {request : ι → ExceptionCall} {s₀ : SupervisedStore F} {i : ι}
  {labels before after : List (Event ι)} {c : Config (SupervisedStore F) ι Dict ExceptionPending Error}

theorem get_exception_request_eq_ok_iff {current : Dict} : get_exception_request id s = .ok current ↔
    ∃ row, s.exception_requests.get id = some row ∧ current = exc_dict (exception_request_to_domain row) := by
  simp only [get_exception_request, ExceptionRequestRepositoryImpl.get_by_id, bind_eq_ok_iff, get_or_raise_eq_ok,
    pure_eq_ok, Option.map_eq_some_iff, Except.ok.injEq]
  constructor
  · rintro ⟨_, ⟨row, hrow, rfl⟩, rfl⟩
    exact ⟨row, hrow, rfl⟩
  · rintro ⟨row, hrow, rfl⟩
    exact ⟨_, ⟨row, hrow, rfl⟩, rfl⟩

/-- What a GET reads is what is stored. -/
theorem get_of_value {current : Dict} (h : get_exception_request id s = .ok current) (key : String) :
    (current.get key).map Json.stored = s.value id key := by
  obtain ⟨row, hrow, rfl⟩ := get_exception_request_eq_ok_iff.mp h
  rw [SupervisedStore.value, hrow]
  rfl

theorem exists_get_of_value {value : Json} (h : s.value id key = some value) :
    ∃ current, get_exception_request id s = .ok current := by
  obtain ⟨row, hrow, -⟩ := Option.bind_eq_some_iff.mp h
  exact ⟨_, get_exception_request_eq_ok_iff.mpr ⟨row, hrow, rfl⟩⟩

/-- The value under the key `id` is not changed by any request. -/
theorem id_not_mem_sets (id : UUID) (route : ExceptionRoute) : "id" ∉ route.sets id := by
  cases route with
  | create_exception => exact List.not_mem_nil
  | update_exception_status exception_id status =>
    simp only [ExceptionRoute.sets]
    split <;> simp
  | patch_exception_request exception_id body =>
    simp only [ExceptionRoute.sets]
    split
    · simp only [PatchExceptionBody.sets, List.mem_append, not_or]
      refine ⟨⟨⟨⟨?_, ?_⟩, ?_⟩, ?_⟩, ?_⟩ <;> split <;> simp
    · exact List.not_mem_nil

/-- Whatever the interleaving of creations and PATCHes: what a PATCH of an exception request has
answered is what a GET reads, under every key that no other request has set which committed after
the PATCH had read. No edit of other fields, and none that was there before, undoes it. -/
theorem patch_read_back
    (hrun : Execution (Step (supervised_database F) request) (Config.start s₀) (before ++ .read i :: after) c)
    (hedits : (request i).route.edits = some id) (hanswered : c.phase i = .answered answer pending) :
    ∃ current, get_exception_request id c.store = .ok current ∧
      ∀ key value, answer.get key = some value →
        (∀ j, j ≠ i → .commit j ∈ after → key ∉ (request j).route.sets id) →
        (current.get key).map Json.stored = some value.stored := by
  have hvalue {key : String} {value : Json} (hget : answer.get key = some value)
      (hothers : ∀ j, j ≠ i → .commit j ∈ after → key ∉ (request j).route.sets id) :
      c.store.value id key = some value.stored := by
    refine (cell_value id key).shows_of_answered hrun hanswered ?_ hothers
    rw [ExceptionCall.answers, if_pos hedits, hget, Option.map_some]
  obtain ⟨s, hprepare⟩ := prepared_of_run hrun (Or.inr hanswered)
  obtain ⟨row, exc, hedit⟩ := (request i).exists_edit hprepare hedits
  obtain ⟨current, hcurrent⟩ := exists_get_of_value (hvalue hedit.names fun _ _ _ => id_not_mem_sets id _)
  refine ⟨current, hcurrent, fun key value hget hothers => ?_⟩
  rw [get_of_value hcurrent, hvalue hget hothers]

/-- The exception request a creation stores. -/
def ExceptionCall.created (call : ExceptionCall) : Option ExceptionRequestModel :=
  match call.route with
  | .create_exception mission_id message => some (new_exception_request_row
      (CreateExceptionRequest.exception_request call.env ⟨mission_id, call.context.user, message⟩)).stored
  | _ => none

theorem ExceptionCall.insert_of_commit {row : ExceptionRequestModel} {u : SupervisedStore F}
    (hcreated : call.created = some row) (h : call.prepare s = .ok (answer, pending))
    (hcommit : t.commit pending = some u) : t.exception_requests.insert row = some u.exception_requests := by
  obtain ⟨route, context, env⟩ := call
  cases route with
  | create_exception mission_id message =>
    cases hcreated
    exact ExceptionCall.get_of_commit_creation rfl h hcommit
  | update_exception_status | patch_exception_request => cases hcreated

/-- Whatever the interleaving: once the creation of an exception request has committed, a GET reads
what was created, under every key that no request has set which committed after it. -/
theorem creation_read_back {row : ExceptionRequestModel}
    (hrun : Execution (Step (supervised_database F) request) (Config.start s₀) (before ++ .commit i :: after) c)
    (hcreated : (request i).created = some row) :
    ∃ current, get_exception_request row.id c.store = .ok current ∧
      ∀ key, (∀ j, .commit j ∈ after → key ∉ (request j).route.sets row.id) →
        (current.get key).map Json.stored = row.value key := by
  obtain ⟨d, e, hbefore, hcommitted, hafter⟩ := hrun.exists_split
  have hreached := hbefore.snoc hcommitted
  have hget : e.store.exception_requests.get row.id = some row := by
    cases hcommitted with
    | commit hprepared hcommit =>
      obtain ⟨s, hprepare⟩ := prepared_of_run hbefore (Or.inl hprepared)
      rw [Table.get_insert ((request i).insert_of_commit hcreated hprepare hcommit)]
      exact if_pos rfl
  have hvalue {key : String} {value : Json} (hrow : row.value key = some value)
      (hothers : ∀ j, .commit j ∈ after → key ∉ (request j).route.sets row.id) :
      c.store.value row.id key = some value := by
    refine (cell_value row.id key).stays hreached hafter hothers ?_
    rw [SupervisedStore.value, hget, Option.bind_some, hrow]
  have hid : row.value "id" = some (.str row.id.str) := rfl
  obtain ⟨current, hcurrent⟩ := exists_get_of_value (hvalue hid fun _ _ => id_not_mem_sets row.id _)
  refine ⟨current, hcurrent, fun key hothers => ?_⟩
  obtain ⟨found, hfound, -⟩ := get_exception_request_eq_ok_iff.mp hcurrent
  rw [get_of_value hcurrent]
  cases hrow : row.value key with
  | some value => exact hvalue hrow hothers
  | none =>
    rw [SupervisedStore.value, hfound, Option.bind_some, ← Option.not_isSome_iff_eq_none, found.isSome_value row, hrow]
    exact Bool.false_ne_true

/-- The values of an exception request that no request changes. -/
def identity (item : Dict) : List (Option Json) :=
  ["id", "mission_id", "author_user_id", "created_at"].map item.get

/-- What a write adds to the exception requests of a mission. -/
def ExceptionWrite.adds (mission_id : UUID) : ExceptionWrite → List (List (Option Json))
  | .add_exception_request row =>
    if row.mission_id = mission_id then [identity (exc_dict (exception_request_to_domain row.stored))] else []
  | .update_exception_request _ _ => []

/-- What a request adds to the exception requests of a mission. -/
def ExceptionCall.brings (mission_id : UUID) (call : ExceptionCall) : List (List (Option Json)) :=
  match call.created with
  | some row => if row.mission_id = mission_id then [identity (exc_dict (exception_request_to_domain row))] else []
  | none => []

/-- The exception requests of a mission in the order of their creation, by what is not changed of them. -/
def listed (mission_id : UUID) (exception_requests : Table ExceptionRequestModel) : List (List (Option Json)) :=
  (exception_requests.rows.filter fun e => e.mission_id = mission_id).map fun row =>
    identity (exc_dict (exception_request_to_domain row))

/-- An `UPDATE` leaves what is listed. -/
theorem identity_rewrite (k : UUID) (loaded written row : ExceptionRequestModel) :
    (Table.rewrite k (ExceptionRequestModel.flush loaded written) row).mission_id = row.mission_id ∧
      identity (exc_dict (exception_request_to_domain
        (Table.rewrite k (ExceptionRequestModel.flush loaded written) row))) =
        identity (exc_dict (exception_request_to_domain row)) := by
  unfold Table.rewrite
  split <;> exact ⟨rfl, rfl⟩

theorem listed_of_apply {mission_id : UUID} {rows rows' : Table ExceptionRequestModel} {write : ExceptionWrite}
    (h : write.apply rows = some rows') :
    listed mission_id rows' = listed mission_id rows ++ write.adds mission_id := by
  simp only [listed]
  cases write with
  | add_exception_request row =>
    by_cases hmission : row.mission_id = mission_id
    · rw [Table.filter_insert_of_true h (decide_eq_true hmission), List.map_append, ExceptionWrite.adds,
        if_pos hmission]
      rfl
    · rw [Table.filter_insert_of_false h (decide_eq_false hmission), ExceptionWrite.adds, if_neg hmission,
        List.append_nil]
  | update_exception_request loaded written =>
    have hkept := identity_rewrite loaded.id loaded written
    rw [Table.rows_update h, List.filter_map, List.map_map, ExceptionWrite.adds, List.append_nil]
    simp only [Function.comp_def, hkept]

theorem listed_of_foldlM {mission_id : UUID} {writes : List ExceptionWrite} {rows rows' : Table ExceptionRequestModel}
    (h : writes.foldlM ExceptionWrite.apply rows = some rows') :
    listed mission_id rows' = listed mission_id rows ++ writes.flatMap (ExceptionWrite.adds mission_id) := by
  induction writes generalizing rows with
  | nil =>
    cases h
    exact (List.append_nil _).symm
  | cons write writes ih =>
    rw [List.foldlM_cons] at h
    obtain ⟨more, hmore, hrest⟩ := Option.bind_eq_some_iff.mp h
    rw [ih hrest, listed_of_apply hmore, List.flatMap_cons, List.append_assoc]

theorem appends_listed (mission_id : UUID) : Appends (supervised_database F)
    (fun s => listed mission_id s.exception_requests)
    fun pending => pending.writes.flatMap (ExceptionWrite.adds mission_id) where
  commit h := listed_of_foldlM (SupervisedStore.commit_eq_some_iff.mp h).1

theorem brings_listed (mission_id : UUID) : Brings (supervised_database F)
    (fun pending => pending.writes.flatMap (ExceptionWrite.adds mission_id)) (ExceptionCall.brings mission_id) := by
  rintro ⟨route, context, env⟩ s answer pending h
  cases route with
  | create_exception on message =>
    obtain ⟨m, -, -, rfl⟩ := create_exception_eq_ok_iff.mp h
    exact List.flatMap_singleton ..
  | update_exception_status exception_id status =>
    obtain ⟨row, -, -, rfl⟩ := update_exception_status_eq_ok_iff.mp h
    rfl
  | patch_exception_request exception_id body =>
    obtain ⟨row, exc, -, -, -, rfl⟩ := patch_exception_request_eq_ok_iff.mp h
    rfl

/-- A creation that brings something to a mission has found it. -/
theorem isSome_mission_of_brings {mission_id : UUID} (h : call.prepare s = .ok (answer, pending))
    (hbrings : call.brings mission_id ≠ []) : (s.store.missions.get mission_id).isSome := by
  obtain ⟨route, context, env⟩ := call
  cases route with
  | create_exception on message =>
    obtain ⟨m, hm, -, -⟩ := create_exception_eq_ok_iff.mp h
    by_cases hmission : on = mission_id
    · rw [← hmission, hm]
      rfl
    · refine absurd ?_ hbrings
      exact if_neg hmission
  | update_exception_status | patch_exception_request => exact absurd rfl hbrings

/-- In whatever order the query returns the rows, what is listed are those of the mission. -/
theorem list_by_mission_id_perm (plan : Plan.Free ExceptionRequestModel) (rows : Table ExceptionRequestModel)
    (mission_id : UUID) :
    (((ExceptionRequestRepositoryImpl.list_by_mission_id plan rows mission_id).map exception_dict).map identity).Perm
      (listed mission_id rows) := by
  rw [ExceptionRequestRepositoryImpl.list_by_mission_id, List.map_map, List.map_map]
  exact (plan.perm _).map _

theorem list_mission_exceptions_of_none {plan : Plan.Free ExceptionRequestModel} {mission_id : UUID}
    {s : SupervisedStore F} (h : s.store.missions.get mission_id = none) :
    list_mission_exceptions plan mission_id s = .error (NotFound "Mission introuvable.") := by
  rw [list_mission_exceptions, MissionRepositoryImpl.get_by_id, h]
  rfl

theorem list_mission_exceptions_of_some {plan : Plan.Free ExceptionRequestModel} {mission_id : UUID}
    {s : SupervisedStore F} {m : MissionModel} (h : s.store.missions.get mission_id = some m) :
    list_mission_exceptions plan mission_id s =
      .ok ((ExceptionRequestRepositoryImpl.list_by_mission_id plan s.exception_requests mission_id).map
        exception_dict) := by
  rw [list_mission_exceptions, MissionRepositoryImpl.get_by_id, h]
  rfl

/-- Whatever the interleaving of creations and PATCHes, and in whatever order the queries return
their rows: the exception requests listed for a mission are those that were and those whose
creations on it have committed, each once, with the mission, the author and the time it was created
with; and a creation only commits where the mission exists. -/
theorem mission_exceptions_of_interleaving
    (hrun : Execution (Step (supervised_database F) request) (Config.start s₀) labels c) (mission_id : UUID)
    (plan plan₀ : Plan.Free ExceptionRequestModel) :
    (match s₀.store.missions.get mission_id with
    | none =>
      list_mission_exceptions plan mission_id c.store = .error (NotFound "Mission introuvable.") ∧
        list_mission_exceptions plan₀ mission_id s₀ = .error (NotFound "Mission introuvable.")
    | some _ =>
      ∃ items before, list_mission_exceptions plan mission_id c.store = .ok items ∧
        list_mission_exceptions plan₀ mission_id s₀ = .ok before ∧
        (items.map identity).Perm (before.map identity ++
          (committed labels).flatMap fun i => (request i).brings mission_id)) ∧
    ∀ i ∈ committed labels, (request i).brings mission_id ≠ [] → (s₀.store.missions.get mission_id).isSome := by
  have hcommit {s t : SupervisedStore F} {pending : ExceptionPending} (hs : s.store = s₀.store)
      (h : (supervised_database F).commit s pending = some t) : t.store = s₀.store :=
    (SupervisedStore.commit_eq_some_iff.mp h).2.2.trans hs
  constructor
  · have hlisted := (appends_listed mission_id).view_eq_brings (brings_listed mission_id) hrun
    have hmissions : c.store.store = s₀.store := store_of_run (I := fun s => s.store = s₀.store) hcommit hrun rfl
    cases hmission : s₀.store.missions.get mission_id with
    | none =>
      exact ⟨list_mission_exceptions_of_none (hmissions ▸ hmission), list_mission_exceptions_of_none hmission⟩
    | some m =>
      refine ⟨_, _, list_mission_exceptions_of_some (hmissions ▸ hmission),
        list_mission_exceptions_of_some hmission, ?_⟩
      have hnow := list_by_mission_id_perm plan c.store.exception_requests mission_id
      have hthen := list_by_mission_id_perm plan₀ s₀.exception_requests mission_id
      rw [hlisted] at hnow
      exact hnow.trans (hthen.symm.append_right _)
  · intro i hi hbrings
    obtain ⟨answer, pending, hanswered⟩ := (mem_committed_iff hrun).mp hi
    obtain ⟨s, hs, hprepare⟩ := read_of_run (I := fun s => s.store = s₀.store) hcommit rfl hrun (Or.inr hanswered)
    rw [← hs]
    exact isSome_mission_of_brings hprepare hbrings

namespace pilot

/-- Another supervisor takes the report in hand. -/
def assign : ExceptionCall where
  route := .patch_exception_request ⟨"report"⟩ { assigned_to_user_id := some ⟨"colleague"⟩ }
  context := ⟨⟨"colleague"⟩, none, ⟨"audit-3"⟩, 7⟩
  env := ⟨⟨"unused"⟩, 7⟩

/-- The two supervisors edit the report side by side. -/
def side_by_side : Bool → ExceptionCall
  | true => take_note
  | false => assign

/-- The inspector reports, and the supervisor takes note. -/
def one_after_the_other : Bool → ExceptionCall
  | true => report
  | false => take_note

def noting : Dict := [("id", .str "report"), ("status", .str "acknowledged")]

/-- The assignment is committed between the reading and the commit of the other PATCH. -/
theorem run_side_by_side : ∃ c pending, Execution (Step (supervised_database ℝ) side_by_side) (Config.start reported)
    ([] ++ .read true :: [.read false, .commit false, .commit true]) c ∧ c.phase true = .answered noting pending :=
  ⟨_, _, .snoc (.snoc (.snoc (.single (.read_ok rfl rfl)) (.read_ok rfl rfl)) (.commit rfl rfl)) (.commit rfl rfl), rfl⟩

theorem run_one_after_the_other : ∃ c, Execution (Step (supervised_database ℝ) one_after_the_other)
    (Config.start supervised) ([.read true] ++ .commit true :: [.read false, .commit false]) c ∧
    c.store = noted :=
  ⟨_, .snoc (.snoc (.snoc (.single (.read_ok rfl rfl)) (.commit rfl rfl)) (.read_ok rfl rfl)) (.commit rfl rfl), rfl⟩

end pilot

theorem pilot_notice_read_back : ∃ c current,
    Execution (Step (supervised_database ℝ) pilot.side_by_side) (Config.start pilot.reported)
      [.read true, .read false, .commit false, .commit true] c ∧
    get_exception_request ⟨"report"⟩ c.store = .ok current ∧
    (current.get "status").map Json.stored = some (.str "acknowledged") := by
  obtain ⟨c, pending, hrun, hanswered⟩ := pilot.run_side_by_side
  obtain ⟨current, hcurrent, hkeys⟩ := patch_read_back hrun rfl hanswered
  refine ⟨c, current, hrun, hcurrent, hkeys "status" _ rfl ?_⟩
  intro j hj hcommit
  cases j with
  | true => exact absurd rfl hj
  | false => decide

theorem pilot_report_read_back : ∃ current, get_exception_request ⟨"report"⟩ pilot.noted = .ok current ∧
    (current.get "message").map Json.stored = some (.str "fermé") := by
  obtain ⟨c, hrun, hstore⟩ := pilot.run_one_after_the_other
  obtain ⟨current, hcurrent, hkeys⟩ := creation_read_back hrun rfl
  rw [hstore] at hcurrent
  refine ⟨current, hcurrent, hkeys "message" ?_⟩
  intro j hcommit
  cases j <;> decide

theorem pilot_report_listed :
    (list_mission_exceptions (.by_insertion _) ⟨"mission"⟩ pilot.noted).map (fun items => items.map identity) =
      .ok [[some (.str "report"), some (.str "mission"), some (.str "inspector"), some (.isoformat ⟨5, none⟩)]] := by
  obtain ⟨c, hrun, hstore⟩ := pilot.run_one_after_the_other
  obtain ⟨items, before, hitems, hbefore, hperm⟩ :=
    (mission_exceptions_of_interleaving hrun ⟨"mission"⟩ (.by_insertion _) (.by_insertion _)).1
  rw [← hstore, hitems]
  cases hbefore
  exact congrArg Except.ok (List.perm_singleton.mp hperm)

end sigis
