import Sigis.Idempotency.Replay

open guarded relational transactional transition

namespace sigis

variable {F : Type}

/-- The caller of a visit request is the one its mission expects: the inspector, or the
designated host if there is one. -/
def Request.Authorised (s : Store F) : Request F → Prop
  | .check_in cmd => ∃ m, s.missions.get cmd.mission_id = some m ∧ m.inspector_id = cmd.inspector_user_id
  | .confirm_host cmd => ∃ v m est, s.site_visits.get cmd.site_visit_id = some v ∧
      s.missions.get v.mission_id = some m ∧ s.establishments.get m.establishment_id = some est ∧
      ∀ user_id, designated_host m est = some user_id → user_id = cmd.host_user_id
  | .check_out cmd => ∃ v m, s.site_visits.get cmd.site_visit_id = some v ∧
      s.missions.get v.mission_id = some m ∧ m.inspector_id = cmd.inspector_user_id
  | _ => True

variable [LinearOrder F] [NatCast F] {w : World F} {call : Call F} {init s t : Store F}
  {calls : List (Call F)} {op : Operation} {client_request_id : String} {answer : Response F}

/-- Only the expected caller is admitted. -/
theorem Call.Admitted.authorised (h : call.Admitted w s) : call.request.Authorised s := by
  obtain ⟨request, env⟩ := call
  cases request with
  | check_in cmd =>
    obtain ⟨m, est, hadmits⟩ := h
    exact ⟨m, hadmits.mission, hadmits.inspector⟩
  | confirm_host cmd =>
    obtain ⟨v, m, est, _, _, _, _, _, hadmits⟩ := h
    exact ⟨v, m, est, hadmits.visit, hadmits.mission_id ▸ hadmits.mission, hadmits.establishment,
      hadmits.authorised⟩
  | check_out cmd =>
    obtain ⟨v, m, hadmits⟩ := h
    exact ⟨v, m, hadmits.visit, hadmits.mission_id ▸ hadmits.mission, hadmits.inspector⟩
  | _ => trivial

/-- Somebody else than the inspector gets the answer recorded for the inspector's key. -/
theorem check_in_answers_other_user :
    Run pilot.world pilot.planned
      [⟨.check_in (pilot.arrive "arrive-1"), pilot.surroundings "1" 10⟩] pilot.arrived ∧
    exec pilot.world
      ⟨.check_in { pilot.arrive "arrive-1" with inspector_user_id := ⟨"other"⟩ },
        pilot.surroundings "2" 20⟩ pilot.arrived =
          (.ok (.payload pilot.arrival_payload), pilot.arrived) ∧
    pilot.arrived.missions.get ⟨"mission"⟩ = some pilot.mission ∧
    pilot.mission.inspector_id ≠ ⟨"other"⟩ := by
  have hrecord : pilot.arrived.recorded (Operation.check_in ⟨"mission"⟩).scope "arrive-1" =
      some (pilot.record "check_in:mission" "arrive-1" pilot.arrival_payload "1" 10) := rfl
  exact ⟨.single pilot.served_arrive, Call.exec_of_recorded rfl hrecord, rfl, by decide⟩

/-- In every run from a store without records: a visit request answered without a record
comes from the caller its mission expects. One answered from a record changes nothing, and
gets what the run gave before, for the same operation and key, to a caller its mission
expected. -/
theorem answered_caller_authorised (hempty : init.idempotency_records.rows = [])
    (hrun : Run w init calls s) (hoperation : call.request.operation = some (op, client_request_id))
    (hexec : exec w call s = (.ok answer, t)) :
    (s.recorded op.scope client_request_id = none → call.request.Authorised s) ∧
    ∀ record, s.recorded op.scope client_request_id = some record →
      t = s ∧ ∃ x first y, Takes (Served w) init calls s x first y ∧
        first.request.operation = some (op, client_request_id) ∧ first.request.Authorised x ∧
        exec w first x = (.ok answer, y) := by
  constructor
  · intro hnew
    have heffect : TookEffect w s call op client_request_id answer t := ⟨hoperation, hnew, hexec⟩
    exact heffect.admitted.authorised
  · intro record hrecord
    rw [Call.exec_of_recorded hoperation hrecord] at hexec
    cases hexec
    refine ⟨rfl, ?_⟩
    rcases recorded_origin hrun hrecord with hinit | ⟨x, first, y, htakes, heffect⟩
    · have hmem := (Store.recorded_eq_some_iff.mp hinit).1
      rw [hempty] at hmem
      cases hmem
    · exact ⟨x, first, y, htakes, heffect.operation, heffect.admitted.authorised, heffect.returned⟩

/-- The inspector's own arrival at the pilot site is authorised. -/
theorem pilot_arrival_authorised :
    (Request.check_in (pilot.arrive "arrive-1")).Authorised pilot.planned := by
  have hoperation : (pilot.arrivals false).request.operation = some (.check_in ⟨"mission"⟩, "arrive-1") := rfl
  exact (answered_caller_authorised rfl (.refl : Run pilot.world pilot.planned [] pilot.planned) hoperation
    pilot.exec_arrivals).1 rfl

end sigis
