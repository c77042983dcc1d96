import Sigis.Idempotency.ExactlyOnce

open guarded relational transactional transition

namespace sigis

variable {F : Type} [LinearOrder F] [NatCast F] {w : World F} {call again : Call F} {init s t : Store F}
  {calls : List (Call F)} {op : Operation} {client_request_id : String} {payload : Dict}

/-- A recorded response is returned as it is, and nothing is written. -/
theorem Call.exec_of_recorded {record : IdempotencyRecordModel}
    (hagain : again.request.operation = some (op, client_request_id))
    (hrecord : s.recorded op.scope client_request_id = some record) :
    exec w again s = (.ok (.payload record.response_body), s) :=
  exec_eq_ok_iff_commit.mpr
    ⟨[], Call.prepare_of_recorded (Request.idempotency_key_eq_some_iff.mpr hagain) hrecord, rfl⟩

/-- The operation is performed, and what its key may still have recorded is the answer. -/
structure Settled (s : Store F) (op : Operation) (client_request_id : String) (payload : Dict) : Prop where
  performed : s.Performed op
  recorded : ∀ record, s.recorded op.scope client_request_id = some record →
    record.response_body = payload

/-- An operation that took effect is settled. -/
theorem TookEffect.settled {answer : Response F} (h : TookEffect w s call op client_request_id answer t)
    (hfresh : call.env.Fresh s) :
    ∃ payload, answer = .payload payload ∧ Settled t op client_request_id payload := by
  obtain ⟨hperformed, record, hrecord, rfl⟩ := h.performed hfresh
  refine ⟨record.response_body, rfl, hperformed, ?_⟩
  intro found hfound
  cases hrecord.symm.trans hfound
  rfl

namespace Settled

/-- Whatever request comes next, a settled operation stays settled. -/
theorem served (h : Settled s op client_request_id payload) (hserved : Served w s call t) :
    Settled t op client_request_id payload := by
  rcases hserved.outcome with rfl | ⟨r, houtcome⟩
  · exact h
  · refine ⟨houtcome.performed hserved.1 h.performed, ?_⟩
    intro record hrecord
    rcases houtcome.recorded_cases hrecord with hold | ⟨hkey, hnone, -⟩
    · exact h.recorded record hold
    · have heffect : TookEffect w s call op client_request_id r t :=
        ⟨Request.idempotency_key_eq_some_iff.mp hkey, hnone, houtcome.exec hserved.1⟩
      exact absurd heffect.awaits h.performed.not_awaits

/-- While its record exists, a settled operation is answered from it. -/
theorem exec_of_recorded (h : Settled s op client_request_id payload)
    (hagain : again.request.operation = some (op, client_request_id)) {record : IdempotencyRecordModel}
    (hrecord : s.recorded op.scope client_request_id = some record) :
    exec w again s = (.ok (.payload payload), s) := by
  rw [← h.recorded record hrecord]
  exact Call.exec_of_recorded hagain hrecord

end Settled

/-- An operation that was performed raises under any key that is not recorded. -/
theorem Store.Performed.exec_raises (h : s.Performed op)
    (hagain : again.request.operation = some (op, client_request_id))
    (hnone : s.recorded op.scope client_request_id = none) : ∃ e, exec w again s = (.error e, s) := by
  cases hexec : exec w again s with
  | mk result u =>
    cases result with
    | ok answer =>
      have heffect : TookEffect w s again op client_request_id answer u := ⟨hagain, hnone, hexec⟩
      exact absurd heffect.awaits h.not_awaits
    | error e =>
      obtain rfl := store_of_exec_eq_error hexec
      exact ⟨e, rfl⟩

/-- A record was there before the run, or was left by the same operation under the same
key. -/
theorem recorded_origin (hrun : Run w init calls s) {record : IdempotencyRecordModel}
    (hrecord : s.recorded op.scope client_request_id = some record) :
    init.recorded op.scope client_request_id = some record ∨
      ∃ x call y, Takes (Served w) init calls s x call y ∧
        TookEffect w x call op client_request_id (.payload record.response_body) y := by
  by_cases hinit : init.recorded op.scope client_request_id = some record
  · exact Or.inl hinit
  · obtain ⟨x, call, y, htakes, hx, hy⟩ := hrun.exists_origin
      (P := fun s => s.recorded op.scope client_request_id = some record) hinit hrecord
    refine Or.inr ⟨x, call, y, htakes, ?_⟩
    rcases htakes.taken.outcome with rfl | ⟨r, houtcome⟩
    · exact absurd hy hx
    · rcases houtcome.recorded_cases hy with hold | ⟨hkey, hnone, rfl⟩
      · exact absurd hold hx
      · exact ⟨Request.idempotency_key_eq_some_iff.mp hkey, hnone, houtcome.exec htakes.taken.1⟩

/-- Over a whole run: what took effect is answered alike while its record exists and
raises after, a record only ever serves the operation and the key that left it, and no
operation takes effect twice. -/
theorem replays_over_run (hrun : Run w init calls s) :
    (∀ x call y op client_request_id answer, Takes (Served w) init calls s x call y →
      TookEffect w x call op client_request_id answer y →
      ∀ again : Call F, again.request.operation = some (op, client_request_id) →
        (∀ record, s.recorded op.scope client_request_id = some record →
          exec w again s = (.ok answer, s)) ∧
        (s.recorded op.scope client_request_id = none → ∃ e, exec w again s = (.error e, s))) ∧
    (∀ (again : Call F) op client_request_id record,
      again.request.operation = some (op, client_request_id) →
      s.recorded op.scope client_request_id = some record →
      exec w again s = (.ok (.payload record.response_body), s) ∧
        (init.recorded op.scope client_request_id = some record ∨
          ∃ x call y, Takes (Served w) init calls s x call y ∧
            TookEffect w x call op client_request_id (.payload record.response_body) y)) ∧
    (∀ x call y op client_request_id answer, Takes (Served w) init calls s x call y →
      TookEffect w x call op client_request_id answer y →
      ∀ (again : Call F) key answer' t, ¬ TookEffect w s again op key answer' t) := by
  have hsettled : ∀ {x call y op client_request_id answer}, Takes (Served w) init calls s x call y →
      TookEffect w x call op client_request_id answer y →
      ∃ payload, answer = .payload payload ∧ Settled s op client_request_id payload := by
    intro x call y op client_request_id answer htakes heffect
    obtain ⟨payload, rfl, hy⟩ := heffect.settled htakes.taken.1
    obtain ⟨later, hlater⟩ := htakes.after
    exact ⟨payload, rfl, hlater.invariant (fun s => Settled s op client_request_id payload)
      (fun h hserved => h.served hserved) hy⟩
  refine ⟨?_, ?_, ?_⟩
  · intro x call y op client_request_id answer htakes heffect again hagain
    obtain ⟨payload, rfl, hs⟩ := hsettled htakes heffect
    exact ⟨fun record hrecord => hs.exec_of_recorded hagain hrecord,
      fun hnone => hs.performed.exec_raises hagain hnone⟩
  · intro again op client_request_id record hagain hrecord
    exact ⟨Call.exec_of_recorded hagain hrecord, recorded_origin hrun hrecord⟩
  · intro x call y op client_request_id answer htakes heffect again key answer' t heffect'
    obtain ⟨payload, rfl, hs⟩ := hsettled htakes heffect
    exact hs.performed.not_awaits heffect'.awaits

/-- The arrival at the pilot site is answered alike after the host's confirmation. -/
theorem replays_over_pilot_run : exec pilot.world
    ⟨.check_in (pilot.arrive "arrive-1"), pilot.surroundings "3" 50⟩ (pilot.confirmed "host") =
      (.ok (.payload pilot.arrival_payload), pilot.confirmed "host") :=
  ((replays_over_run (pilot.run_confirmed "host")).1 pilot.planned _ pilot.arrived
    (.check_in ⟨"mission"⟩) "arrive-1" _
    ⟨[], _, rfl, .refl, pilot.served_arrive, .single (pilot.served_confirm "host")⟩
    ⟨rfl, rfl, pilot.exec_arrivals⟩ _ rfl).1 _ rfl

end sigis
