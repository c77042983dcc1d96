import Sigis.Visits.Stages

open guarded relational transactional transition

namespace sigis

/-- What a visit request does, to which mission or visit. -/
inductive Operation
  | check_in (mission_id : UUID)
  | confirm_host (site_visit_id : UUID)
  | check_out (site_visit_id : UUID)
deriving DecidableEq

namespace Operation

/-- The scope its responses are recorded in. -/
def scope : Operation → String
  | check_in mission_id => "check_in:" ++ mission_id.str
  | confirm_host site_visit_id => "confirm_host:" ++ site_visit_id.str
  | check_out site_visit_id => "check_out:" ++ site_visit_id.str

/-- The status it requires of a visit. -/
def source : Operation → SiteVisitStatus
  | check_in _ => .SCHEDULED
  | confirm_host _ => .PENDING_HOST
  | check_out _ => .COPRESENCE_OK

/-- The status it leaves a visit in. -/
def target : Operation → SiteVisitStatus
  | check_in _ => .PENDING_HOST
  | confirm_host _ => .COPRESENCE_OK
  | check_out _ => .COMPLETED

/-- The visits it is about. -/
def Concerns {F : Type} : Operation → SiteVisitModel F → Prop
  | check_in mission_id, v => v.mission_id = mission_id
  | confirm_host site_visit_id, v => v.id = site_visit_id
  | check_out site_visit_id, v => v.id = site_visit_id

theorem stage_source_lt (op : Operation) : op.source.stage < op.target.stage := by
  cases op <;> simp [source, target, SiteVisitStatus.stage]

/-- Two operations share no scope. -/
theorem scope_inj {op op' : Operation} (h : op.scope = op'.scope) : op = op' := by
  have hchars := congrArg String.toList h
  cases op <;> cases op' <;> simp [scope, String.toList_append] at hchars ⊢
  all_goals exact UUID.str_inj.mp (String.toList_inj.mp hchars)

theorem Concerns.advances {F : Type} {op : Operation} {v v' : SiteVisitModel F} (h : op.Concerns v)
    (hadvances : v.Advances v') : op.Concerns v' := by
  cases op with
  | check_in mission_id => exact hadvances.mission_id.trans h
  | confirm_host site_visit_id => exact hadvances.id.trans h
  | check_out site_visit_id => exact hadvances.id.trans h

end Operation

section request

variable {F : Type} {request : Request F} {op : Operation} {client_request_id : String}

/-- The operation a visit request performs, with its client's key. -/
def Request.operation : Request F → Option (Operation × String)
  | .check_in cmd => some (.check_in cmd.mission_id, cmd.client_request_id)
  | .confirm_host cmd => some (.confirm_host cmd.site_visit_id, cmd.client_request_id)
  | .check_out cmd => some (.check_out cmd.site_visit_id, cmd.client_request_id)
  | _ => none

/-- The key of a response is the operation it answers. -/
theorem Request.idempotency_key_eq_some_iff :
    request.idempotency_key = some (op.scope, client_request_id) ↔
      request.operation = some (op, client_request_id) := by
  have hinj (op' : Operation) : op'.scope = op.scope ↔ op' = op :=
    ⟨Operation.scope_inj, congrArg Operation.scope⟩
  cases request <;> simp only [idempotency_key, operation, reduceCtorEq, Option.some.injEq, Prod.mk.injEq]
  case check_in cmd => exact and_congr_left' (hinj (.check_in cmd.mission_id))
  case confirm_host cmd => exact and_congr_left' (hinj (.confirm_host cmd.site_visit_id))
  case check_out cmd => exact and_congr_left' (hinj (.check_out cmd.site_visit_id))

end request

section status

variable {F : Type} {s : Store F} {op : Operation}

/-- The visits an operation is about can undergo it. -/
def Store.Awaits (s : Store F) (op : Operation) : Prop :=
  ∀ v ∈ s.site_visits.rows, op.Concerns v → v.status = op.source

/-- Some visit has already undergone the operation. -/
def Store.Performed (s : Store F) (op : Operation) : Prop :=
  ∃ v ∈ s.site_visits.rows, op.Concerns v ∧ op.target.stage ≤ v.status.stage

theorem Store.Performed.not_awaits (h : s.Performed op) : ¬ s.Awaits op := by
  intro hawaits
  obtain ⟨v, hv, hconcerns, hstage⟩ := h
  rw [hawaits v hv hconcerns] at hstage
  exact absurd op.stage_source_lt (Nat.not_lt.mpr hstage)

end status

section records

variable {F : Type} {s t : Store F} {scope client_request_id : String} {payload : Dict} {record_id : UUID}
  {saved_at : Int}

/-- Recording a response makes it the one found under its key. -/
theorem Store.recorded_of_inserted (h : s.idempotency_records.insert
    (new_idempotency_record_row scope client_request_id payload record_id saved_at).stored =
      some t.idempotency_records) :
    t.recorded scope client_request_id =
      some (new_idempotency_record_row scope client_request_id payload record_id saved_at).stored := by
  rw [Store.recorded_eq_some_iff, Table.rows_insert h]
  exact ⟨List.mem_append_right _ List.mem_cons_self, rfl, rfl⟩

/-- Recording a response changes what is found under its own key only. -/
theorem Store.recorded_insert_cases {scope' client_request_id' : String} {record : IdempotencyRecordModel}
    (h : s.idempotency_records.insert
      (new_idempotency_record_row scope' client_request_id' payload record_id saved_at).stored =
        some t.idempotency_records)
    (hrecord : t.recorded scope client_request_id = some record) :
    s.recorded scope client_request_id = some record ∨
      (scope' = scope ∧ client_request_id' = client_request_id ∧ record.response_body = payload) := by
  obtain ⟨hmem, hkeys⟩ := Store.recorded_eq_some_iff.mp hrecord
  rw [Table.rows_insert h, List.mem_append, List.mem_singleton] at hmem
  rcases hmem with hold | rfl
  · exact Or.inl (Store.recorded_eq_some_iff.mpr ⟨hold, hkeys⟩)
  · exact Or.inr ⟨hkeys.1, hkeys.2, rfl⟩

end records

variable {F : Type} [LinearOrder F] [NatCast F] {w : World F} {call : Call F} {s t : Store F}
  {r answer : Response F} {op : Operation} {scope client_request_id : String}

/-- What was performed stays performed. -/
theorem Outcome.performed (h : Outcome w call s r t) (hfresh : call.env.Fresh s)
    (hperformed : s.Performed op) : t.Performed op := by
  obtain ⟨v, hv, hconcerns, hstage⟩ := hperformed
  obtain ⟨v', hv', hadvances⟩ := h.visit_advances hfresh hv
  exact ⟨v', hv', hconcerns.advances hadvances, hstage.trans hadvances.stage⟩

/-- A visit request took effect: it returned although its key was not recorded. -/
structure TookEffect (w : World F) (s : Store F) (call : Call F) (op : Operation)
    (client_request_id : String) (answer : Response F) (t : Store F) : Prop where
  operation : call.request.operation = some (op, client_request_id)
  unrecorded : s.recorded op.scope client_request_id = none
  returned : exec w call s = (.ok answer, t)

/-- What a visit request requires of the store and the clock to take effect. -/
def Call.Admitted (w : World F) (s : Store F) (call : Call F) : Prop :=
  match call.request with
  | .check_in cmd => ∃ m est, CheckInInspector.Admits w call.env cmd s m est
  | .confirm_host cmd => ∃ v m est mode host consumed latitude longitude,
      ConfirmHostPresence.Admits w call.env cmd s v m est mode host consumed latitude longitude
  | .check_out cmd => ∃ v m, CheckOutVisit.Admits cmd s v m
  | _ => False

/-- An admitted operation finds its visits in the status it requires. -/
theorem Call.Admitted.awaits (h : call.Admitted w s)
    (hoperation : call.request.operation = some (op, client_request_id)) : s.Awaits op := by
  have hunique {id : UUID} {x : SiteVisitModel F} (hx : s.site_visits.get id = some x) :
      ∀ v ∈ s.site_visits.rows, v.id = id → v = x := by
    intro v hv hid
    exact s.site_visits.eq_of_key hv (Table.mem_of_get hx) (hid.trans (Table.key_of_get hx).symm)
  obtain ⟨request, env⟩ := call
  cases request <;> cases hoperation
  case check_in cmd =>
    obtain ⟨m, est, hadmits⟩ := h
    intro v hv hmission
    exact hadmits.visit v (Store.visit_of_mission_eq_some_iff.mpr ⟨hv, hmission⟩)
  case confirm_host cmd =>
    obtain ⟨x, _, _, _, _, _, _, _, hadmits⟩ := h
    intro v hv hid
    rw [hunique hadmits.visit v hv hid]
    exact hadmits.pending
  case check_out cmd =>
    obtain ⟨x, _, hadmits⟩ := h
    intro v hv hid
    rw [hunique hadmits.visit v hv hid]
    exact hadmits.validated

namespace TookEffect

/-- A visit request takes effect only when it is admitted. -/
theorem admitted (h : TookEffect w s call op client_request_id answer t) : call.Admitted w s := by
  obtain ⟨hoperation, hunrecorded, hreturned⟩ := h
  obtain ⟨writes, hprepare, -⟩ := exec_eq_ok_iff_commit.mp hreturned
  obtain ⟨request, env⟩ := call
  cases request <;> cases hoperation
  case check_in cmd =>
    obtain ⟨_, hexecute, -⟩ := map_payload_eq_ok_iff.mp hprepare
    obtain ⟨_, hbody, -⟩ := body_of_not_recorded hunrecorded hexecute
    obtain ⟨m, est, hadmits, -⟩ := CheckInInspector.body_eq_ok_iff.mp hbody
    exact ⟨m, est, hadmits⟩
  case confirm_host cmd =>
    obtain ⟨_, hexecute, -⟩ := map_payload_eq_ok_iff.mp hprepare
    obtain ⟨_, hbody, -⟩ := body_of_not_recorded hunrecorded hexecute
    obtain ⟨v, m, est, mode, host, consumed, latitude, longitude, hadmits, -⟩ :=
      ConfirmHostPresence.body_eq_ok_iff.mp hbody
    exact ⟨v, m, est, mode, host, consumed, latitude, longitude, hadmits⟩
  case check_out cmd =>
    obtain ⟨_, hexecute, -⟩ := map_payload_eq_ok_iff.mp hprepare
    obtain ⟨_, hbody, -⟩ := body_of_not_recorded hunrecorded hexecute
    obtain ⟨v, m, hadmits, -⟩ := CheckOutVisit.body_eq_ok_iff.mp hbody
    exact ⟨v, m, hadmits⟩

theorem awaits (h : TookEffect w s call op client_request_id answer t) : s.Awaits op :=
  h.admitted.awaits h.operation

/-- Once it took effect an operation is performed, and its answer recorded. -/
theorem performed (h : TookEffect w s call op client_request_id answer t) (hfresh : call.env.Fresh s) :
    t.Performed op ∧ ∃ record, t.recorded op.scope client_request_id = some record ∧
      answer = .payload record.response_body := by
  obtain ⟨hoperation, hunrecorded, hreturned⟩ := h
  have houtcome := outcome_of_exec hfresh hreturned
  have hkey := Request.idempotency_key_eq_some_iff.mpr hoperation
  cases houtcome with
  | replayed hkey' hrecord =>
    cases hkey.symm.trans hkey'
    exact absurd (hrecord.symm.trans hunrecorded) (Option.some_ne_none _)
  | check_in h =>
    cases hoperation
    refine ⟨⟨_, h.visits.mem_iff.mpr (Or.inr rfl), (h.saved_row hfresh).1, ?_⟩, _,
      Store.recorded_of_inserted h.records, rfl⟩
    rw [(h.saved_row hfresh).2.1]
    exact le_rfl
  | confirm_host h =>
    cases hoperation
    refine ⟨⟨_, h.visits.mem_iff.mpr (Or.inr rfl), Table.key_of_get h.admits.visit, ?_⟩, _,
      Store.recorded_of_inserted h.records, rfl⟩
    rw [SiteVisitModel.status_assigned]
    exact le_rfl
  | check_out h =>
    cases hoperation
    refine ⟨⟨_, h.visits.mem_iff.mpr (Or.inr rfl), Table.key_of_get h.admits.visit, ?_⟩, _,
      Store.recorded_of_inserted h.records, rfl⟩
    rw [SiteVisitModel.status_assigned]
    exact le_rfl
  | _ => cases hoperation

end TookEffect

/-- A record found after a request was there before, or is the answer the request has
just recorded. -/
theorem Outcome.recorded_cases (h : Outcome w call s r t) {record : IdempotencyRecordModel}
    (hrecord : t.recorded scope client_request_id = some record) :
    s.recorded scope client_request_id = some record ∨
      (call.request.idempotency_key = some (scope, client_request_id) ∧
        s.recorded scope client_request_id = none ∧ r = .payload record.response_body) := by
  cases h with
  | check_in h | confirm_host h | check_out h =>
    rcases Store.recorded_insert_cases h.records hrecord with hold | ⟨rfl, rfl, hbody⟩
    · exact Or.inl hold
    · exact Or.inr ⟨rfl, h.unrecorded, by rw [hbody]⟩
  | delete_older_than =>
    obtain ⟨hmem, hkeys⟩ := Store.recorded_eq_some_iff.mp hrecord
    exact Or.inl (Store.recorded_eq_some_iff.mpr ⟨(Table.mem_delete_iff.mp hmem).1, hkeys⟩)
  | _ => exact Or.inl hrecord

end sigis
