import Sigis.Requests.Progress
import Sigis.Visits.Dossier
import Sigis.Visits.Stages

open guarded relational transactional transition

namespace sigis

/-- What no request changes in a stored visit, and when each of the others changes. -/
structure SiteVisitModel.Evolves {F : Type} (v v' : SiteVisitModel F) : Prop where
  id : v'.id = v.id
  mission_id : v'.mission_id = v.mission_id
  host_validation_mode : v'.host_validation_mode = v.host_validation_mode
  checked_in_at : v'.checked_in_at = v.checked_in_at
  inspector_lat : v'.inspector_lat = v.inspector_lat
  inspector_lon : v'.inspector_lon = v.inspector_lon
  host_position : (v'.host_lat = v.host_lat ∧ v'.host_lon = v.host_lon) ∨
    (v.status = .PENDING_HOST ∧ v'.status = .COPRESENCE_OK)
  checked_out_at : v'.checked_out_at = v.checked_out_at ∨
    (v.status = .COPRESENCE_OK ∧ v'.status = .COMPLETED)
  status : v'.status = v.status ∨ (v.status = .PENDING_HOST ∧ v'.status = .COPRESENCE_OK) ∨
    (v.status = .COPRESENCE_OK ∧ v'.status = .COMPLETED)

theorem SiteVisitModel.Evolves.refl {F : Type} (v : SiteVisitModel F) : v.Evolves v :=
  ⟨rfl, rfl, rfl, rfl, rfl, rfl, Or.inl ⟨rfl, rfl⟩, Or.inl rfl, Or.inl rfl⟩

/-- No visit waits to begin: a check-in always makes a new one. -/
def Store.Begun {F : Type} (s : Store F) : Prop := ∀ v ∈ s.site_visits.rows, v.status ≠ .SCHEDULED

variable {F : Type} [LinearOrder F] [NatCast F] {w : World F} {call : Call F} {env : Env}
  {init s t x y : Store F} {calls : List (Call F)} {r : Response F}

section visits

variable {visit : SiteVisit F} {v : SiteVisitModel F} {m : MissionModel} {est : EstablishmentModel F}

omit [NatCast F] in
/-- Where every visit has begun, the visit a check-in saves is a new row. -/
theorem CheckedIn.new_visit {cmd : CheckInInspectorCommand F} (h : CheckedIn w env cmd s m est visit t)
    (hbegun : s.Begun) (hfresh : env.Fresh s) : ∀ v ∈ s.site_visits.rows, v.id ≠ visit.id := by
  intro v hv hid
  exact hbegun v hv ((h.saved_row hfresh).2.2 v hv hid).2

omit [LinearOrder F] [NatCast F] in
theorem visit_evolves_of_replaces {old new : SiteVisitModel F}
    (h : Table.Replaces s.site_visits old new t.site_visits) (hevolves : old.Evolves new)
    (hv : v ∈ s.site_visits.rows) : ∃ v' ∈ t.site_visits.rows, v.Evolves v' := by
  obtain ⟨v', hv', hrelated⟩ := h.get_related SiteVisitModel.Evolves.refl hevolves (Table.get_of_mem hv)
  exact ⟨v', Table.mem_of_get hv', hrelated⟩

theorem HostConfirmed.evolves {cmd : ConfirmHostCommand F} {mode : HostValidationMode}
    {host : Option (F × F)} {consumed : List (Write F)} {latitude longitude : F}
    (h : HostConfirmed w env cmd s v m est mode host consumed latitude longitude t) :
    v.Evolves (v.assigned (ConfirmHostPresence.visit v host)) := by
  rw [SiteVisitModel.assigned_confirmed]
  have hmoved := And.intro h.admits.pending (rfl : SiteVisitStatus.COPRESENCE_OK = .COPRESENCE_OK)
  exact ⟨rfl, rfl, rfl, rfl, rfl, rfl, Or.inr hmoved, Or.inl rfl, Or.inr (Or.inl hmoved)⟩

omit [NatCast F] in
theorem CheckedOut.evolves {cmd : CheckOutCommand} (h : CheckedOut env cmd s v m t) :
    v.Evolves (v.assigned (CheckOutVisit.visit env v)) := by
  rw [SiteVisitModel.assigned_checked_out v env h.admits.open_visit]
  have hmoved := And.intro h.admits.validated (rfl : SiteVisitStatus.COMPLETED = .COMPLETED)
  exact ⟨rfl, rfl, rfl, rfl, rfl, rfl, Or.inl ⟨rfl, rfl⟩, Or.inr hmoved, Or.inr (Or.inr hmoved)⟩

/-- A request that returns leaves every visit begun. -/
theorem Outcome.begun (h : Outcome w call s r t) (hfresh : call.env.Fresh s) (hbegun : s.Begun) : t.Begun := by
  intro v hv
  rcases h.visit_cases hv with hold | ⟨cmd, m, est, visit, -, hin, rfl⟩ |
    ⟨cmd, confirmed, m, est, mode, host, consumed, latitude, longitude, -, hconfirmed, rfl⟩ |
    ⟨cmd, closed, m, -, hout, rfl⟩
  · exact hbegun v hold
  · rw [(hin.saved_row hfresh).2.1]
    decide
  · rw [SiteVisitModel.assigned_confirmed]
    exact show SiteVisitStatus.COPRESENCE_OK ≠ .SCHEDULED by decide
  · rw [SiteVisitModel.assigned_checked_out closed call.env hout.admits.open_visit]
    exact show SiteVisitStatus.COMPLETED ≠ .SCHEDULED by decide

/-- A request that returns changes a stored visit only by a confirmation or a check-out. -/
theorem Outcome.visits_evolve (h : Outcome w call s r t) (hfresh : call.env.Fresh s) (hbegun : s.Begun) :
    ∀ v ∈ s.site_visits.rows, ∃ v' ∈ t.site_visits.rows, v.Evolves v' := by
  intro v hv
  rcases h.visit_tables with ⟨hvisits, -⟩ | ⟨cmd, m, est, visit, -, hin⟩ |
    ⟨cmd, confirmed, m, est, mode, host, consumed, latitude, longitude, -, hconfirmed⟩ | ⟨cmd, closed, m, -, hout⟩
  · rw [hvisits]
    exact ⟨v, hv, .refl v⟩
  · exact ⟨v, hin.visits.mem_iff.mpr (Or.inl ⟨hv, hin.new_visit hbegun hfresh v hv⟩), .refl v⟩
  · exact visit_evolves_of_replaces hconfirmed.visits hconfirmed.evolves hv
  · exact visit_evolves_of_replaces hout.visits hout.evolves hv

end visits

/-- The rows that are only ever added: the proofs, the events and the consumed tokens. -/
structure Store.Extends (s t : Store F) : Prop where
  proofs : s.presence_proofs.rows <+: t.presence_proofs.rows
  events : s.copresence_events.rows <+: t.copresence_events.rows
  jtis : s.used_qr_jti.rows <+: t.used_qr_jti.rows

omit [LinearOrder F] [NatCast F] in
theorem Store.Extends.of_eq (hproofs : t.presence_proofs = s.presence_proofs)
    (hevents : t.copresence_events = s.copresence_events) (hjtis : t.used_qr_jti = s.used_qr_jti) :
    s.Extends t := by
  constructor
  · rw [hproofs]
  · rw [hevents]
  · rw [hjtis]

theorem ConfirmHostPresence.Accepts.jtis_prefix {cmd : ConfirmHostCommand F} {v : SiteVisitModel F}
    {m : MissionModel} {mode : HostValidationMode} {host : Option (F × F)} {consumed : List (Write F)}
    (h : ConfirmHostPresence.Accepts w env cmd s v m mode host consumed)
    (hcommit : s.commit consumed = some t) : s.used_qr_jti.rows <+: t.used_qr_jti.rows := by
  cases h with
  | qr_jwt =>
    obtain ⟨rows, hrows, hnil⟩ := Store.commit_add_used_qr_jti.mp hcommit
    cases hnil
    rw [show rows.rows = _ from Table.rows_insert hrows]
    exact List.prefix_append _ _
  | app_gps | qr_token | sms =>
    cases hcommit
    exact List.prefix_rfl

/-- A request that returns only adds proofs, events and consumed tokens. -/
theorem Outcome.extends (h : Outcome w call s r t) : s.Extends t := by
  cases h with
  | check_in hin =>
    have hevents : t.copresence_events = s.copresence_events := by rw [hin.frame]
    have hjtis : t.used_qr_jti = s.used_qr_jti := by rw [hin.frame]
    refine ⟨?_, by rw [hevents], by rw [hjtis]⟩
    rw [Table.rows_insert hin.proofs]
    exact List.prefix_append _ _
  | confirm_host hconfirmed =>
    have hjtis := hconfirmed.admits.accepts.jtis_prefix hconfirmed.jtis
    refine ⟨?_, ?_, hjtis⟩
    · rw [Table.rows_insert hconfirmed.proofs]
      exact List.prefix_append _ _
    · rw [Table.rows_insert hconfirmed.events]
      exact List.prefix_append _ _
  | check_out hout =>
    rw [hout.frame]
    exact .of_eq rfl rfl rfl
  | _ => exact .of_eq rfl rfl rfl

/-- Every visit stays begun over a run. -/
theorem begun_of_run (hrun : Run w init calls s) (hinit : init.Begun) : s.Begun := by
  refine invariant_of_outcomes Store.Begun hrun hinit ?_
  intro x call r y hbegun hfresh houtcome
  exact houtcome.begun hfresh hbegun

/-- In every run from a store where every visit has begun, no request changes or removes a
proof, an event or a consumed token; of a visit it changes at most the status, one step
on, with the host's position when it confirms and the time of departure when it closes; and
one that raises changes nothing. -/
theorem evidence_kept (hinit : init.Begun) (htakes : Takes (Served w) init calls s x call y) :
    x.Extends y ∧ (∀ v ∈ x.site_visits.rows, ∃ v' ∈ y.site_visits.rows, v.Evolves v') ∧
      ∀ e, (exec w call x).1 = .error e → y = x := by
  obtain ⟨earlier, -, hearlier⟩ := htakes.before
  have hserved := htakes.taken
  refine ⟨?_, ?_, ?_⟩
  · rcases hserved.outcome with rfl | ⟨r, houtcome⟩
    · exact .of_eq rfl rfl rfl
    · exact houtcome.extends
  · rcases hserved.outcome with rfl | ⟨r, houtcome⟩
    · exact fun v hv => ⟨v, hv, .refl v⟩
    · exact houtcome.visits_evolve hserved.1 (begun_of_run hearlier hinit)
  · intro e hraised
    exact store_of_exec_eq_error (Prod.ext hraised hserved.2)

/-- The confirmation at the pilot site keeps the visit it confirms. -/
theorem pilot_evidence_kept :
    ∃ v' ∈ (pilot.confirmed "host").site_visits.rows, pilot.visit.Evolves v' := by
  have hbegun : pilot.planned.Begun := by
    intro v hv
    cases hv
  exact (evidence_kept hbegun (.last (.single pilot.served_arrive) (pilot.served_confirm "host"))).2.1 _
    (List.mem_singleton.mpr rfl)

end sigis
