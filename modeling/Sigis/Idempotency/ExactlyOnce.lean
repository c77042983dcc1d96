import Sigis.Idempotency.Operations
import Sigis.Requests.Progress

open guarded relational transactional transition

namespace sigis

variable {F : Type} {s t u : Store F} {scope client_request_id : String}

/-- A write that leaves the idempotency records alone. -/
def Write.SparesRecords : Write F → Prop
  | .add_idempotency_record _ => False
  | .delete_idempotency_record _ => False
  | _ => True

section writes

variable [DecidableEq F]

theorem Write.SparesRecords.apply {write : Write F} (h : write.SparesRecords)
    (happly : write.apply s = some t) : t.idempotency_records = s.idempotency_records := by
  cases write <;> first
    | exact h.elim
    | (obtain ⟨_, _, rfl⟩ := Option.map_eq_some_iff.mp happly
       rfl)

theorem Store.records_of_commit {writes : List (Write F)} (h : ∀ write ∈ writes, write.SparesRecords)
    (hcommit : s.commit writes = some t) : t.idempotency_records = s.idempotency_records := by
  induction writes generalizing s with
  | nil =>
    cases hcommit
    rfl
  | cons write writes ih =>
    obtain ⟨u, happly, hrest⟩ := Store.commit_cons_eq_some_iff.mp hcommit
    rw [ih (fun x hx => h x (List.mem_cons_of_mem write hx)) hrest,
      (h write List.mem_cons_self).apply happly]

end writes

/-- Recording a response needs its key to be free. -/
theorem Store.unrecorded_of_insert {payload : Dict} {record_id : UUID} {saved_at : Int}
    {records : Table IdempotencyRecordModel} (h : s.idempotency_records.insert
      (new_idempotency_record_row scope client_request_id payload record_id saved_at).stored =
        some records) : s.recorded scope client_request_id = none := by
  rw [Store.recorded_eq_none_iff]
  rintro r hr ⟨hscope, hkey⟩
  exact (Table.insert_eq_some_iff.mp h).1 r hr (clash_idempotency_record hscope hkey)

variable [LinearOrder F] [NatCast F] {w : World F} {call : Call F}

/-- A visit request is its body in the frame of its key, and the body never touches the
records. -/
theorem Call.prepare_of_key (w : World F) (s : Store F)
    (h : call.request.idempotency_key = some (scope, client_request_id)) :
    ∃ body : Except Error (Dict × List (Write F)),
      call.prepare w s =
        (idempotent s call.env scope client_request_id body).map (Prod.map .payload id) ∧
      ∀ payload effects, body = .ok (payload, effects) → ∀ write ∈ effects, write.SparesRecords := by
  obtain ⟨request, env⟩ := call
  have hsave : ∀ visit, (SiteVisitRepositoryImpl.save s visit).SparesRecords := by
    intro visit
    unfold SiteVisitRepositoryImpl.save
    split <;> trivial
  cases request <;> cases h
  case check_in cmd =>
    refine ⟨_, rfl, ?_⟩
    intro payload effects hbody
    obtain ⟨_, _, _, _, rfl⟩ := CheckInInspector.body_eq_ok_iff.mp hbody
    simp only [List.forall_mem_cons, List.not_mem_nil, false_implies, implies_true, and_true]
    exact ⟨hsave _, trivial⟩
  case confirm_host cmd =>
    refine ⟨_, rfl, ?_⟩
    intro payload effects hbody
    obtain ⟨_, _, _, _, _, consumed, _, _, hadmits, _, rfl⟩ :=
      ConfirmHostPresence.body_eq_ok_iff.mp hbody
    simp only [List.forall_mem_append, List.forall_mem_cons, List.not_mem_nil, false_implies,
      implies_true, and_true]
    refine ⟨?_, hsave _, trivial, trivial⟩
    intro write hwrite
    cases hadmits.accepts with
    | qr_jwt =>
      rw [List.mem_singleton.mp hwrite]
      trivial
    | app_gps | qr_token | sms => cases hwrite
  case check_out cmd =>
    refine ⟨_, rfl, ?_⟩
    intro payload effects hbody
    obtain ⟨_, _, _, _, rfl⟩ := CheckOutVisit.body_eq_ok_iff.mp hbody
    simp only [List.forall_mem_cons, List.not_mem_nil, false_implies, implies_true, and_true]
    exact hsave _

/-- A recorded key is answered from its record, and nothing is written. -/
theorem Call.prepare_of_recorded {record : IdempotencyRecordModel}
    (h : call.request.idempotency_key = some (scope, client_request_id))
    (hrecord : s.recorded scope client_request_id = some record) :
    call.prepare w s = .ok (.payload record.response_body, []) := by
  obtain ⟨body, hprepare, -⟩ := Call.prepare_of_key w s h
  rw [hprepare, idempotent_of_recorded hrecord]
  rfl

/-- Without a record, what a visit request leaves pending ends with the record of its
answer. -/
theorem Call.prepare_of_unrecorded {answer : Response F} {writes : List (Write F)}
    (h : call.request.idempotency_key = some (scope, client_request_id))
    (hrecord : s.recorded scope client_request_id = none)
    (hprepare : call.prepare w s = .ok (answer, writes)) :
    ∃ payload effects, answer = .payload payload ∧
      writes = effects ++ [IdempotencyRepositoryImpl.save scope client_request_id payload
        call.env.record_id call.env.saved_at] ∧
      ∀ write ∈ effects, write.SparesRecords := by
  obtain ⟨body, heq, hspares⟩ := Call.prepare_of_key w s h
  rw [heq] at hprepare
  obtain ⟨payload, hbody, rfl⟩ := map_payload_eq_ok_iff.mp hprepare
  obtain ⟨effects, heffects, rfl⟩ := body_of_not_recorded hrecord hbody
  exact ⟨payload, effects, rfl, rfl, hspares payload effects heffects⟩

/-- The response a recorded key answers with. -/
def Store.recorded_response (s : Store F) (scope client_request_id : String) : Option (Response F) :=
  (s.recorded scope client_request_id).map fun record => .payload record.response_body

omit [LinearOrder F] [NatCast F] in
theorem Store.recorded_response_eq_some_iff {answer : Response F} :
    s.recorded_response scope client_request_id = some answer ↔
      ∃ record, s.recorded scope client_request_id = some record ∧
        answer = .payload record.response_body := by
  simp [recorded_response, eq_comm]

/-- Copies of one visit request share the record of their key. -/
theorem shared_of_key {ι : Type} {request : Request F} (env : ι → Env)
    (h : request.idempotency_key = some (scope, client_request_id)) :
    Shared (database w) (fun i => ⟨request, env i⟩)
      (fun s => s.recorded_response scope client_request_id) where
  replay := by
    intro i s a answer writes hrecorded hprepare
    obtain ⟨record, hrecord, rfl⟩ := Store.recorded_response_eq_some_iff.mp hrecorded
    have hreplay : (database w).prepare ⟨request, env i⟩ s = .ok (.payload record.response_body, []) :=
      Call.prepare_of_recorded h hrecord
    rw [hreplay] at hprepare
    cases hprepare
    exact ⟨rfl, fun t => rfl⟩
  fresh := by
    intro i s answer writes t u hrecorded hprepare hcommit
    have hrecord : s.recorded scope client_request_id = none := Option.map_eq_none_iff.mp hrecorded
    obtain ⟨payload, effects, rfl, rfl, hspares⟩ := Call.prepare_of_unrecorded h hrecord hprepare
    change t.commit _ = some u at hcommit
    rw [Store.commit_append] at hcommit
    obtain ⟨t', heffects, hrest⟩ := Option.bind_eq_some_iff.mp hcommit
    obtain ⟨records, hrecords, hnil⟩ := Store.commit_add_idempotency_record.mp hrest
    have hfree := Store.unrecorded_of_insert hrecords
    cases hnil
    have htaken := Store.recorded_of_inserted (s := t') (t := { t' with idempotency_records := records })
      hrecords
    refine ⟨?_, Store.recorded_response_eq_some_iff.mpr ⟨_, htaken, rfl⟩⟩
    have hsame := Store.records_of_commit hspares heffects
    rw [Store.recorded_response, Option.map_eq_none_iff]
    rwa [Store.recorded, hsame] at hfree

/-- However the steps of any number of copies of one visit request interleave: either no
copy has changed the store, and every answer is the response recorded before; or exactly
one has, as if it had run alone, and every other copy that answered gave the response it
recorded and wrote nothing. A copy that has raised has written nothing either. -/
theorem copies_exactly_once {ι : Type} [DecidableEq ι] {request : Request F} {env : ι → Env}
    {labels : List (Event ι)} {c : Config (Store F) ι (Response F) (List (Write F)) Error}
    (hkey : request.idempotency_key = some (scope, client_request_id))
    (hrun : Execution (Step (database w) fun i => ⟨request, env i⟩) (Config.start s) labels c) :
    (c.store = s ∧ ∀ i answer writes, c.phase i = .answered answer writes →
      s.recorded_response scope client_request_id = some answer ∧
        ∀ t : Store F, t.commit writes = some t) ∨
    ∃ k answer writes, c.phase k = .answered answer writes ∧
      exec w ⟨request, env k⟩ s = (.ok answer, c.store) ∧
      c.store.recorded_response scope client_request_id = some answer ∧
      ∀ i, i ≠ k → ∀ answer' writes', c.phase i = .answered answer' writes' →
        answer' = answer ∧ ∀ t : Store F, t.commit writes' = some t := by
  rcases untouched_or_won (shared_of_key env hkey) hrun with h | ⟨k, h⟩
  · exact Or.inl ⟨h.store, fun i answer writes hi => h.answered hi⟩
  · obtain ⟨answer, writes, hk, halone, hrecorded⟩ := h.alone
    refine Or.inr ⟨k, answer, writes, hk, halone, hrecorded, ?_⟩
    intro i hne answer' writes' hi
    obtain ⟨hsame, hnoop⟩ := h.answered hne hi
    exact ⟨Option.some.inj (hsame.symm.trans hrecorded), hnoop⟩

namespace pilot

/-- The arrival, sent twice under one key. -/
noncomputable def arrivals (second : Bool) : Call ℝ :=
  ⟨.check_in (arrive "arrive-1"), surroundings (if second then "2" else "1") 10⟩

theorem exec_arrivals : exec world (arrivals false) planned =
    (.ok (.payload arrival_payload), arrived) := by
  rw [← payload_arrive]
  exact (Outcome.check_in checked_in).exec (show (surroundings "1" 10).Fresh planned by decide)

/-- Both copies read before either commits: the second one is refused. -/
theorem execution_arrivals : ∃ c, Execution (Step (database world) arrivals) (Config.start planned)
    [.read false, .read true, .commit false, .refuse true] c ∧
      c.store = arrived ∧ c.phase true = .failed .IntegrityError := by
  obtain ⟨writes, hprepare, hcommit⟩ := exec_eq_ok_iff_commit.mp exec_arrivals
  obtain ⟨visit, t, hdone, -⟩ := (admits_arrive_planned "arrive-1" "2").served
    (show (surroundings "2" 10).Fresh planned by decide) rfl
  obtain ⟨writes', hprepare', -⟩ := exec_eq_ok_iff_commit.mp
    ((Outcome.check_in hdone).exec (show (surroundings "2" 10).Fresh planned by decide))
  have hrefused : (database world).commit arrived writes' = none := by
    cases h : (database world).commit arrived writes' with
    | none => rfl
    | some u =>
      have hshared : Shared (database world) arrivals
          (fun s => s.recorded_response "check_in:mission" "arrive-1") :=
        shared_of_key (fun second => (arrivals second).env) rfl
      cases (hshared.fresh (i := true) rfl hprepare' h).1
  refine ⟨_, (((Execution.refl.snoc (Step.read_ok rfl hprepare)).snoc
    (Step.read_ok rfl hprepare')).snoc (Step.commit rfl hcommit)).snoc
    (Step.refuse rfl hrefused), rfl, rfl⟩

end pilot

/-- Of the two arrivals exactly one took effect. -/
theorem copies_exactly_once_of_arrivals :
    ∃ c, Execution (Step (database pilot.world) pilot.arrivals) (Config.start pilot.planned)
        [.read false, .read true, .commit false, .refuse true] c ∧
      ∃ k answer, exec pilot.world (pilot.arrivals k) pilot.planned = (.ok answer, c.store) ∧
        c.store.recorded_response "check_in:mission" "arrive-1" = some answer := by
  obtain ⟨c, hrun, hstore, -⟩ := pilot.execution_arrivals
  refine ⟨c, hrun, ?_⟩
  have hkey : (Request.check_in (pilot.arrive "arrive-1")).idempotency_key =
      some ("check_in:mission", "arrive-1") := rfl
  rcases copies_exactly_once hkey hrun with ⟨hsame, -⟩ | ⟨k, answer, writes, -, hk, hrecorded, -⟩
  · have hvisits := congrArg (fun s => s.site_visits.rows.length) (hstore.symm.trans hsame)
    cases hvisits
  · exact ⟨k, answer, hk, hrecorded⟩

end sigis
