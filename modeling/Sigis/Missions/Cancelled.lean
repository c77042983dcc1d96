import Sigis.Idempotency.Operations
import Sigis.Requests.Progress
import Sigis.Visits.Lifecycle

open guarded relational transactional transition

namespace sigis

variable {F : Type} {s t : Store F}

/-- The mission a visit request names. -/
def Request.mission_id : Request F → Option UUID
  | .check_in cmd => some cmd.mission_id
  | .confirm_host cmd => some cmd.mission_id
  | .check_out cmd => some cmd.mission_id
  | _ => none

/-- Between two stores no visit of the mission appeared or advanced, and none of its
visits gained a proof or an event. -/
structure Store.SameVisits (s t : Store F) (mission_id : UUID) : Prop where
  visits : ∀ v, v.mission_id = mission_id → (v ∈ t.site_visits.rows ↔ v ∈ s.site_visits.rows)
  proofs : ∀ v ∈ t.site_visits.rows, v.mission_id = mission_id → t.proofs_of v.id = s.proofs_of v.id
  events : ∀ v ∈ t.site_visits.rows, v.mission_id = mission_id → t.events_of v.id = s.events_of v.id

theorem Store.SameVisits.of_tables {id : UUID} (hvisits : t.site_visits = s.site_visits)
    (hproofs : t.presence_proofs = s.presence_proofs) (hevents : t.copresence_events = s.copresence_events) :
    s.SameVisits t id where
  visits v _ := by rw [hvisits]
  proofs v _ _ := by rw [Store.proofs_of, Store.proofs_of, hproofs]
  events v _ _ := by rw [Store.events_of, Store.events_of, hevents]

/-- The proofs of another visit are not touched by a new one. -/
theorem Store.proofs_of_insert {p : PresenceProofModel F} {id : UUID}
    (h : s.presence_proofs.insert p = some t.presence_proofs) (hne : p.site_visit_id ≠ id) :
    t.proofs_of id = s.proofs_of id := Table.filter_insert_of_false h (decide_eq_false hne)

/-- The events of another visit are not touched by a new one. -/
theorem Store.events_of_insert {e : CoPresenceEventModel} {id : UUID}
    (h : s.copresence_events.insert e = some t.copresence_events) (hne : e.site_visit_id ≠ id) :
    t.events_of id = s.events_of id := Table.filter_insert_of_false h (decide_eq_false hne)

/-- A visit replaced within another mission leaves the visits of this one. -/
theorem mem_iff_of_replaces {old new v : SiteVisitModel F}
    (h : Table.Replaces s.site_visits old new t.site_visits) (hnew : new.mission_id = old.mission_id)
    (hne : old.mission_id ≠ v.mission_id) :
    (v ∈ t.site_visits.rows ↔ v ∈ s.site_visits.rows) ∧ (v ∈ s.site_visits.rows → old.id ≠ v.id) := by
  have hid : v ∈ s.site_visits.rows → old.id ≠ v.id := by
    rintro hv hid
    rw [s.site_visits.eq_of_key h.stored hv hid] at hne
    exact hne rfl
  refine ⟨h.mem_iff.trans ⟨?_, fun hv => Or.inl ⟨hv, fun hkey => hid hv hkey.symm⟩⟩, hid⟩
  rintro (⟨hv, -⟩ | rfl)
  · exact hv
  · exact absurd hnew.symm hne

variable [LinearOrder F] [NatCast F] {w : World F} {call : Call F} {init : Store F} {calls : List (Call F)}
  {op : Operation} {client_request_id : String} {answer : Response F}

/-- An admitted request whose key is not recorded takes effect. -/
theorem Call.Admitted.took_effect (h : call.Admitted w s) (hfresh : call.env.Fresh s)
    (hoperation : call.request.operation = some (op, client_request_id))
    (hnone : s.recorded op.scope client_request_id = none) :
    ∃ answer t, TookEffect w s call op client_request_id answer t := by
  obtain ⟨request, env⟩ := call
  cases request <;> cases hoperation
  case check_in cmd =>
    obtain ⟨m, est, hadmits⟩ := h
    obtain ⟨visit, t, hdone, -⟩ := hadmits.served hfresh hnone
    exact ⟨_, t, rfl, hnone, (Outcome.check_in hdone).exec hfresh⟩
  case confirm_host cmd =>
    obtain ⟨v, m, est, mode, host, consumed, latitude, longitude, hadmits⟩ := h
    obtain ⟨t, hdone, -⟩ := hadmits.served hfresh hnone
    exact ⟨_, t, rfl, hnone, (Outcome.confirm_host hdone).exec hfresh⟩
  case check_out cmd =>
    obtain ⟨v, m, hadmits⟩ := h
    obtain ⟨t, hdone, -⟩ := hadmits.served (w := w) hfresh hnone
    exact ⟨_, t, rfl, hnone, (Outcome.check_out hdone).exec hfresh⟩

/-- The request finds its response recorded, or misses a requirement on the caller, the
clock, the positions, the tokens or the visit. -/
def Call.Idle (w : World F) (s : Store F) (call : Call F) : Prop :=
  ∀ op client_request_id, call.request.operation = some (op, client_request_id) →
    s.recorded op.scope client_request_id = none → ¬ call.Admitted w s

variable {id : UUID}

omit [NatCast F] in
theorem CheckedIn.same_visits {env : Env} {cmd : CheckInInspectorCommand F} {m : MissionModel}
    {est : EstablishmentModel F} {visit : SiteVisit F} (h : CheckedIn w env cmd s m est visit t)
    (hfresh : env.Fresh s) (hne : cmd.mission_id ≠ id) : s.SameVisits t id := by
  obtain ⟨hmission, -, hold⟩ := h.saved_row hfresh
  have hvisits : ∀ v : SiteVisitModel F, v.mission_id = id →
      (v ∈ t.site_visits.rows ↔ v ∈ s.site_visits.rows) ∧ (v ∈ s.site_visits.rows → visit.id ≠ v.id) := by
    rintro v rfl
    have hid : v ∈ s.site_visits.rows → visit.id ≠ v.id := fun hv heq => hne (hold v hv heq.symm).1.symm
    refine ⟨h.visits.mem_iff.trans ⟨?_, fun hv => Or.inl ⟨hv, (hid hv).symm⟩⟩, hid⟩
    rintro (⟨hv, -⟩ | rfl)
    · exact hv
    · exact absurd hmission.symm hne
  refine ⟨fun v hv => (hvisits v hv).1, fun v hv hvm => ?_, fun v _ _ => by rw [h.frame]; rfl⟩
  exact Store.proofs_of_insert h.proofs ((hvisits v hvm).2 (((hvisits v hvm).1).mp hv))

theorem HostConfirmed.same_visits {env : Env} {cmd : ConfirmHostCommand F} {v : SiteVisitModel F}
    {m : MissionModel} {est : EstablishmentModel F} {mode : HostValidationMode} {host : Option (F × F)}
    {consumed : List (Write F)} {latitude longitude : F}
    (h : HostConfirmed w env cmd s v m est mode host consumed latitude longitude t)
    (hne : cmd.mission_id ≠ id) : s.SameVisits t id := by
  have hvisits : ∀ x : SiteVisitModel F, x.mission_id = id →
      (x ∈ t.site_visits.rows ↔ x ∈ s.site_visits.rows) ∧ (x ∈ s.site_visits.rows → v.id ≠ x.id) := by
    rintro x rfl
    exact mem_iff_of_replaces h.visits rfl (h.admits.mission_id ▸ hne)
  refine ⟨fun x hx => (hvisits x hx).1, fun x hx hxm => ?_, fun x hx hxm => ?_⟩
  · exact Store.proofs_of_insert h.proofs ((hvisits x hxm).2 (((hvisits x hxm).1).mp hx))
  · exact Store.events_of_insert h.events ((hvisits x hxm).2 (((hvisits x hxm).1).mp hx))

omit [NatCast F] in
theorem CheckedOut.same_visits {env : Env} {cmd : CheckOutCommand} {v : SiteVisitModel F}
    {m : MissionModel} (h : CheckedOut env cmd s v m t) (hne : cmd.mission_id ≠ id) : s.SameVisits t id := by
  refine ⟨?_, fun x _ _ => by rw [h.frame]; rfl, fun x _ _ => by rw [h.frame]; rfl⟩
  rintro x rfl
  exact (mem_iff_of_replaces h.visits rfl (h.admits.mission_id ▸ hne)).1

/-- A step whose request is idle on a mission leaves the visits of the mission. -/
theorem Served.same_visits (h : Served w s call t)
    (hidle : call.request.mission_id = some id → call.Idle w s) : s.SameVisits t id := by
  rcases h.outcome with rfl | ⟨r, houtcome⟩
  · exact .of_tables rfl rfl rfl
  obtain ⟨request, env⟩ := call
  rcases houtcome.visit_tables with ⟨hvisits, hproofs, hevents⟩ | ⟨cmd, m, est, visit, rfl, hin⟩ |
    ⟨cmd, v, m, est, mode, host, consumed, latitude, longitude, rfl, hconfirmed⟩ | ⟨cmd, v, m, rfl, hout⟩
  · exact .of_tables hvisits hproofs hevents
  · refine hin.same_visits h.1 ?_
    rintro rfl
    exact hidle rfl (.check_in cmd.mission_id) _ rfl hin.unrecorded ⟨m, est, hin.admits⟩
  · refine hconfirmed.same_visits ?_
    rintro rfl
    exact hidle rfl (.confirm_host cmd.site_visit_id) _ rfl hconfirmed.unrecorded
      ⟨v, m, est, mode, host, consumed, latitude, longitude, hconfirmed.admits⟩
  · refine hout.same_visits ?_
    rintro rfl
    exact hidle rfl (.check_out cmd.site_visit_id) _ rfl hout.unrecorded ⟨v, m, hout.admits⟩

/-- A request that takes effect changes the visits of the mission it names. -/
theorem TookEffect.not_same_visits (h : TookEffect w s call op client_request_id answer t)
    (hfresh : call.env.Fresh s) (hmission : call.request.mission_id = some id) : ¬ s.SameVisits t id := by
  intro hsame
  have hadmitted := h.admitted
  have houtcome := outcome_of_exec hfresh h.returned
  obtain ⟨⟨v, hv, hconcerns, hstage⟩, -⟩ := h.performed hfresh
  -- The visit that advanced belongs to the mission.
  have hadvanced {x : SiteVisitModel F} {site_visit_id : UUID}
      (hx : s.site_visits.get site_visit_id = some x) (hid : v.id = site_visit_id) :
      v.mission_id = x.mission_id := by
    obtain ⟨x', hx', hadvances⟩ := houtcome.visit_advances hfresh (Table.mem_of_get hx)
    have hkey : Row.key v = Row.key x' := hid.trans ((Table.key_of_get hx).symm.trans hadvances.id.symm)
    rw [t.site_visits.eq_of_key hv hx' hkey]
    exact hadvances.mission_id
  have hvm : v.mission_id = id := by
    obtain ⟨request, env⟩ := call
    have hoperation := h.operation
    cases request <;> cases hoperation
    case check_in cmd => exact hconcerns.trans (Option.some.inj hmission)
    case confirm_host cmd =>
      obtain ⟨x, _, _, _, _, _, _, _, hadmits⟩ := hadmitted
      exact (hadvanced hadmits.visit hconcerns).trans (hadmits.mission_id.trans (Option.some.inj hmission))
    case check_out cmd =>
      obtain ⟨x, _, hadmits⟩ := hadmitted
      exact (hadvanced hadmits.visit hconcerns).trans (hadmits.mission_id.trans (Option.some.inj hmission))
  rw [h.awaits v ((hsame.visits v hvm).mp hv) hconcerns] at hstage
  exact absurd op.stage_source_lt (Nat.not_lt.mpr hstage)

/-- A run leaves the visits of cancelled missions alone exactly when each request on a
cancelled mission is idle: none of the three visit operations looks at the cancellation
itself. -/
theorem cancelled_missions_keep_visits_iff :
    (∀ x call y, Takes (Served w) init calls s x call y →
      ∀ m ∈ x.missions.rows, m.status = .CANCELLED → x.SameVisits y m.id) ↔
    ∀ x call y, Takes (Served w) init calls s x call y →
      ∀ m ∈ x.missions.rows, m.status = .CANCELLED → call.request.mission_id = some m.id →
        call.Idle w x := by
  constructor
  · intro hsame x call y htakes m hm hcancelled hmission op client_request_id hoperation hnone hadmitted
    obtain ⟨hfresh, hexec⟩ := htakes.taken
    obtain ⟨answer, t, heffect⟩ := hadmitted.took_effect hfresh hoperation hnone
    obtain rfl : t = y := by rw [← hexec, heffect.returned]
    exact heffect.not_same_visits hfresh hmission (hsame x call t htakes m hm hcancelled)
  · intro hidle x call y htakes m hm hcancelled
    exact htakes.taken.same_visits (hidle x call y htakes m hm hcancelled)

namespace pilot

def cancel : CancelMissionCommand where
  mission_id := ⟨"mission"⟩
  reason := "Route coupée."
  cancelled_by_user_id := ⟨"supervisor"⟩

def cancelled_mission : MissionModel :=
  { mission with
    status := .CANCELLED
    cancellation_reason := some "Route coupée."
    cancelled_at := some ⟨5, none⟩
    cancelled_by_user_id := some ⟨"supervisor"⟩ }

noncomputable def cancelled : Store ℝ :=
  { planned with missions := ⟨[cancelled_mission], List.pairwise_singleton _ _⟩ }

theorem served_cancel : Served world planned ⟨.cancel_mission cancel, surroundings "0" 5⟩ cancelled := by
  have hreplaces : Table.Replaces planned.missions mission (mission.assigned
      ((mission_to_domain mission).cancelled (slice_to 4000 cancel.reason) (datetime.utc 5)
        cancel.cancelled_by_user_id)) cancelled.missions := by
    refine ⟨List.mem_singleton.mpr rfl, rfl, ?_⟩
    decide
  have houtcome : Outcome world ⟨.cancel_mission cancel, surroundings "0" 5⟩ planned _ cancelled :=
    .cancel_mission rfl (by decide) rfl hreplaces
  exact houtcome.served (show (surroundings "0" 5).Fresh planned by decide)

end pilot

/-- The inspector of a mission cancelled a moment ago checks in: a visit of the cancelled
mission is created. -/
theorem cancelled_mission_checked_in : ∃ t,
    Run pilot.world pilot.planned
      [⟨.cancel_mission pilot.cancel, pilot.surroundings "0" 5⟩,
        ⟨.check_in (pilot.arrive "arrive-1"), pilot.surroundings "1" 10⟩] t ∧
    Served pilot.world pilot.cancelled
      ⟨.check_in (pilot.arrive "arrive-1"), pilot.surroundings "1" 10⟩ t ∧
    pilot.cancelled.missions.get ⟨"mission"⟩ = some pilot.cancelled_mission ∧
    pilot.cancelled_mission.status = .CANCELLED ∧ ¬ pilot.cancelled.SameVisits t ⟨"mission"⟩ := by
  have hfresh : (pilot.surroundings "1" 10).Fresh pilot.cancelled := by decide
  have hadmits : CheckInInspector.Admits pilot.world (pilot.surroundings "1" 10) (pilot.arrive "arrive-1")
      pilot.cancelled pilot.cancelled_mission pilot.school :=
    pilot.admits_arrive rfl (by decide) rfl rfl (pilot.in_window_mission (by decide)) rfl
  obtain ⟨visit, t, hdone, hserved⟩ := hadmits.served hfresh rfl
  refine ⟨t, (Execution.single pilot.served_cancel).snoc hserved, hserved, rfl, rfl, ?_⟩
  have heffect : TookEffect pilot.world pilot.cancelled
      ⟨.check_in (pilot.arrive "arrive-1"), pilot.surroundings "1" 10⟩ (.check_in ⟨"mission"⟩) "arrive-1" _ t :=
    ⟨rfl, rfl, (Outcome.check_in hdone).exec hfresh⟩
  exact heffect.not_same_visits hfresh rfl

end sigis
