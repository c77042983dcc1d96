import Sigis.Requests.Progress
import Sigis.Visits.Lifecycle
import Sigis.Visits.Stages

open guarded relational transactional transition

namespace sigis

variable {F : Type} [LinearOrder F]

/-- The proof says where the inspector reported to be, against the zone of the
establishment. -/
structure PresenceProofModel.ReportsArrival (p : PresenceProofModel F) (w : World F)
    (cmd : CheckInInspectorCommand F) (est : EstablishmentModel F) : Prop where
  actor : p.actor_user_id = cmd.inspector_user_id
  latitude : p.latitude = cmd.latitude
  longitude : p.longitude = cmd.longitude
  geofence_status : p.geofence_status = sigis.geofence_status
    (w.haversine_m p.latitude p.longitude est.center_lat est.center_lon)
    ⟨est.radius_strict_m, est.radius_relaxed_m⟩

/-- The proof says that the host confirmed, each coordinate being the one given with the
confirmation or else the one of the inspector's arrival; its status is always `OK`. -/
structure PresenceProofModel.ReportsConfirmation (p : PresenceProofModel F) (cmd : ConfirmHostCommand F)
    (mode : HostValidationMode) (arrival : PresenceProofModel F) : Prop where
  actor : p.actor_user_id = cmd.host_user_id
  site_visit_id : p.site_visit_id = arrival.site_visit_id
  latitude : p.latitude = cmd.latitude.getD arrival.latitude
  longitude : p.longitude = cmd.longitude.getD arrival.longitude
  own_position : mode = .APP_GPS → cmd.latitude = some p.latitude ∧ cmd.longitude = some p.longitude
  geofence_status : p.geofence_status = .OK

variable [NatCast F] {w : World F} {call : Call F} {init s t : Store F} {calls : List (Call F)}
  {r : Response F} {p : PresenceProofModel F}

/-- A stored proof stays, and a new one comes from a check-in or a confirmation. -/
theorem Outcome.proofs_cases (h : Outcome w call s r t) :
    (∀ p ∈ s.presence_proofs.rows, p ∈ t.presence_proofs.rows) ∧
    ∀ p ∈ t.presence_proofs.rows, p ∈ s.presence_proofs.rows ∨
      (∃ cmd m est visit, call.request = .check_in cmd ∧ CheckedIn w call.env cmd s m est visit t ∧
        p = (new_presence_proof_row (CheckInInspector.proof w call.env cmd est visit.id)).stored) ∨
      ∃ cmd v m est mode host consumed latitude longitude, call.request = .confirm_host cmd ∧
        HostConfirmed w call.env cmd s v m est mode host consumed latitude longitude t ∧
        p = (new_presence_proof_row
          (ConfirmHostPresence.proof call.env cmd v latitude longitude)).stored := by
  rcases h.visit_tables with ⟨-, hproofs, -⟩ | ⟨cmd, m, est, visit, hrequest, hin⟩ |
    ⟨cmd, v, m, est, mode, host, consumed, latitude, longitude, hrequest, hconfirmed⟩ |
    ⟨cmd, v, m, hrequest, hout⟩
  · rw [hproofs]
    exact ⟨fun p hp => hp, fun p hp => Or.inl hp⟩
  · rw [Table.rows_insert hin.proofs]
    refine ⟨fun p hp => List.mem_append_left _ hp, fun p hp => ?_⟩
    rcases List.mem_append.mp hp with hp | hp
    · exact Or.inl hp
    · exact Or.inr (Or.inl ⟨cmd, m, est, visit, hrequest, hin, List.mem_singleton.mp hp⟩)
  · rw [Table.rows_insert hconfirmed.proofs]
    refine ⟨fun p hp => List.mem_append_left _ hp, fun p hp => ?_⟩
    rcases List.mem_append.mp hp with hp | hp
    · exact Or.inl hp
    · exact Or.inr (Or.inr ⟨cmd, v, m, est, mode, host, consumed, latitude, longitude, hrequest,
        hconfirmed, List.mem_singleton.mp hp⟩)
  · have hproofs : t.presence_proofs = s.presence_proofs := by rw [hout.frame]
    rw [hproofs]
    exact ⟨fun p hp => hp, fun p hp => Or.inl hp⟩

theorem mem_proofs_of_run (hrun : Run w s calls t) (hp : p ∈ s.presence_proofs.rows) :
    p ∈ t.presence_proofs.rows := by
  refine invariant_of_outcomes (fun t => p ∈ t.presence_proofs.rows) hrun hp ?_
  intro x call r y hx _ houtcome
  exact houtcome.proofs_cases.1 p hx

omit [NatCast F] in
theorem CheckInInspector.reports_arrival (env : Env) (cmd : CheckInInspectorCommand F)
    (est : EstablishmentModel F) (site_visit_id : UUID) :
    (new_presence_proof_row (CheckInInspector.proof w env cmd est site_visit_id)).stored.ReportsArrival w
      cmd est := ⟨rfl, rfl, rfl, rfl⟩

/-- In a filed store, what a confirmation records besides the host's own coordinates are
those of the proof of arrival. -/
theorem HostConfirmed.reports_confirmation {env : Env} {cmd : ConfirmHostCommand F} {v : SiteVisitModel F}
    {m : MissionModel} {est : EstablishmentModel F} {mode : HostValidationMode} {host : Option (F × F)}
    {consumed : List (Write F)} {latitude longitude : F}
    (h : HostConfirmed w env cmd s v m est mode host consumed latitude longitude t) (hfiled : s.Filed) :
    ∃ arrival ∈ s.presence_proofs.rows, arrival.actor_user_id = m.inspector_id ∧
      (new_presence_proof_row (ConfirmHostPresence.proof env cmd v latitude
        longitude)).stored.ReportsConfirmation cmd mode arrival := by
  obtain ⟨arrival, _, hvisit, _, _, hold, _⟩ := h.refines hfiled
  obtain ⟨m', hm', hinspector⟩ := hold.mission
  have hmission : arrival.mission_id = cmd.mission_id := by
    rw [← h.admits.mission_id, ← hvisit]
    rfl
  change s.missions.get arrival.mission_id = some m' at hm'
  rw [hmission, h.admits.mission] at hm'
  cases hm'
  have hmem : arrival.proof ∈ s.presence_proofs.rows := by
    have hproofs : arrival.proof ∈ (Dossier.pending arrival).proofs := List.mem_singleton.mpr rfl
    rw [← hold.proofs] at hproofs
    exact (List.mem_filter.mp hproofs).1
  have hlatitude := h.admits.latitude
  have hlongitude := h.admits.longitude
  have haccepts := h.admits.accepts
  refine ⟨arrival.proof, hmem, hinspector.symm, rfl, ?_, ?_, ?_, ?_, rfl⟩
  · rw [← hvisit]
    rfl
  · rw [← hvisit] at hlatitude
    cases hlat : cmd.latitude <;> rw [hlat] at hlatitude <;> exact (Option.some.inj hlatitude).symm
  · rw [← hvisit] at hlongitude
    cases hlon : cmd.longitude <;> rw [hlon] at hlongitude <;> exact (Option.some.inj hlongitude).symm
  · rintro rfl
    cases haccepts with
    | app_gps hlat hlon =>
      rw [hlat] at hlatitude
      rw [hlon] at hlongitude
      exact ⟨hlat.trans hlatitude, hlon.trans hlongitude⟩

/-- The proof recorded when a host confirms without giving a position: it carries the
inspector's coordinates under the host's name. -/
theorem host_proof_without_position :
    Run pilot.world pilot.planned
      [⟨.check_in (pilot.arrive "arrive-1"), pilot.surroundings "1" 10⟩,
        ⟨.confirm_host (pilot.confirm "host" "confirm-1"), pilot.surroundings "2" 20⟩]
      (pilot.confirmed "host") ∧
    pilot.host_proof "host" "2" ∈ (pilot.confirmed "host").presence_proofs.rows ∧
    (pilot.host_proof "host" "2").actor_user_id = ⟨"host"⟩ ∧
    (pilot.arrive "arrive-1").inspector_user_id ≠ ⟨"host"⟩ ∧
    (pilot.confirm "host" "confirm-1").latitude = none ∧
    (pilot.confirm "host" "confirm-1").longitude = none :=
  ⟨pilot.run_confirmed "host", by simp [pilot.confirmed], rfl,
    show (⟨"inspector"⟩ : UUID) ≠ ⟨"host"⟩ by decide, rfl, rfl⟩

/-- In every run from a store without visits or proofs, each stored proof was recorded by
a check-in, and reports the inspector's own position and its status against the zone as it
then was; or by a confirmation, and reports what the host gave, the arrival's coordinates
for what the host did not give, and `OK`. -/
theorem proofs_report_requests (hvisits : init.site_visits.rows = [])
    (hproofs : init.presence_proofs.rows = []) (hrun : Run w init calls s)
    (hp : p ∈ s.presence_proofs.rows) :
    (∃ x cmd env y m est, Takes (Served w) init calls s x ⟨.check_in cmd, env⟩ y ∧
      p ∉ x.presence_proofs.rows ∧ p ∈ y.presence_proofs.rows ∧
      x.missions.get cmd.mission_id = some m ∧ x.establishments.get m.establishment_id = some est ∧
      p.ReportsArrival w cmd est) ∨
    ∃ x cmd env y v m mode arrival, Takes (Served w) init calls s x ⟨.confirm_host cmd, env⟩ y ∧
      p ∉ x.presence_proofs.rows ∧ p ∈ y.presence_proofs.rows ∧
      x.site_visits.get cmd.site_visit_id = some v ∧ v.host_validation_mode = some mode ∧
      x.missions.get v.mission_id = some m ∧ arrival ∈ x.presence_proofs.rows ∧
      arrival.actor_user_id = m.inspector_id ∧ p.ReportsConfirmation cmd mode arrival := by
  have hinit : p ∉ init.presence_proofs.rows := by simp [hproofs]
  obtain ⟨x, ⟨request, env⟩, y, htakes, hx, hy⟩ :=
    hrun.exists_origin (P := fun s => p ∈ s.presence_proofs.rows) hinit hp
  rcases htakes.taken.outcome with rfl | ⟨r, houtcome⟩
  · exact absurd hy hx
  rcases houtcome.proofs_cases.2 p hy with hold | ⟨cmd, m, est, visit, rfl, hin, rfl⟩ |
    ⟨cmd, v, m, est, mode, host, consumed, latitude, longitude, rfl, hconfirmed, rfl⟩
  · exact absurd hold hx
  · exact Or.inl ⟨x, cmd, env, y, m, est, htakes, hx, hy, hin.admits.mission, hin.admits.establishment,
      CheckInInspector.reports_arrival env cmd est visit.id⟩
  · obtain ⟨earlier, -, hearlier⟩ := htakes.before
    obtain ⟨arrival, harrival, hactor, hreports⟩ :=
      hconfirmed.reports_confirmation (filed_of_run hearlier hvisits)
    exact Or.inr ⟨x, cmd, env, y, v, m, mode, arrival, htakes, hx, hy, hconfirmed.admits.visit,
      hconfirmed.admits.validation_mode, hconfirmed.admits.mission_id ▸ hconfirmed.admits.mission,
      harrival, hactor, hreports⟩

/-- The proof of arrival at the pilot site reports a check-in. -/
theorem pilot_arrival_reported : ∃ cmd est, pilot.arrival_proof.ReportsArrival pilot.world cmd est := by
  rcases proofs_report_requests rfl rfl (.single pilot.served_arrive) (p := pilot.arrival_proof)
    (List.mem_singleton.mpr rfl) with ⟨_, cmd, _, _, _, est, _, _, _, _, _, h⟩ | ⟨_, _, _, _, _, _, _, _, htakes, _⟩
  · exact ⟨cmd, est, h⟩
  · cases List.mem_singleton.mp htakes.mem

/-- A validated visit was confirmed by the run. -/
theorem exists_confirmation (hvisits : init.site_visits.rows = []) (hrun : Run w init calls s)
    {v : SiteVisitModel F} (hv : v ∈ s.site_visits.rows)
    (hstage : SiteVisitStatus.COPRESENCE_OK.stage ≤ v.status.stage) :
    ∃ x cmd env y confirmed m est mode host consumed latitude longitude,
      Takes (Served w) init calls s x ⟨.confirm_host cmd, env⟩ y ∧ confirmed.id = v.id ∧
      HostConfirmed w env cmd x confirmed m est mode host consumed latitude longitude y := by
  have hinit : ¬ ∃ u ∈ init.site_visits.rows, u.id = v.id ∧
      SiteVisitStatus.COPRESENCE_OK.stage ≤ u.status.stage := by simp [hvisits]
  obtain ⟨x, ⟨request, env⟩, y, htakes, hx, u, hu, hid, hustage⟩ := hrun.exists_origin
    (P := fun s => ∃ u ∈ s.site_visits.rows, u.id = v.id ∧
      SiteVisitStatus.COPRESENCE_OK.stage ≤ u.status.stage) hinit ⟨v, hv, rfl, hstage⟩
  have hnew : u ∉ x.site_visits.rows := fun hold => hx ⟨u, hold, hid, hustage⟩
  rcases htakes.taken.outcome with rfl | ⟨r, houtcome⟩
  · exact absurd hu hnew
  rcases houtcome.visit_cases hu with hold | ⟨cmd, m, est, visit, rfl, hin, rfl⟩ |
    ⟨cmd, confirmed, m, est, mode, host, consumed, latitude, longitude, rfl, hconfirmed, rfl⟩ |
    ⟨cmd, closed, m, rfl, hout, rfl⟩
  · exact absurd hold hnew
  · rw [(hin.saved_row htakes.taken.1).2.1] at hustage
    exact absurd hustage (by decide)
  · exact ⟨x, cmd, env, y, confirmed, m, est, mode, host, consumed, latitude, longitude, htakes, hid, hconfirmed⟩
  · exact absurd ⟨closed, hout.visits.stored, hid, by rw [hout.admits.validated]⟩ hx

/-- Without a designated host the inspector confirms the presence of a host alone: the
visit is validated, and every proof of it is the inspector's. -/
theorem inspector_confirms_alone :
    Run pilot.world pilot.planned
      [⟨.check_in (pilot.arrive "arrive-1"), pilot.surroundings "1" 10⟩,
        ⟨.confirm_host (pilot.confirm "inspector" "confirm-1"), pilot.surroundings "2" 20⟩]
      (pilot.confirmed "inspector") ∧
    pilot.confirmed_visit ∈ (pilot.confirmed "inspector").site_visits.rows ∧
    pilot.confirmed_visit.status = .COPRESENCE_OK ∧
    (pilot.confirmed "inspector").missions.get pilot.confirmed_visit.mission_id = some pilot.mission ∧
    ∀ p ∈ (pilot.confirmed "inspector").proofs_of pilot.confirmed_visit.id,
      p.actor_user_id = pilot.mission.inspector_id := by
  refine ⟨pilot.run_confirmed "inspector", List.mem_singleton.mpr rfl, rfl, rfl, ?_⟩
  intro p hp
  have hp' : p ∈ [pilot.arrival_proof, pilot.host_proof "inspector" "2"] := (List.mem_filter.mp hp).1
  rcases List.mem_cons.mp hp' with rfl | hp'
  · rfl
  · rw [List.mem_singleton.mp hp']
    rfl

/-- In every run from a store without visits, a validated visit has a stored proof that a
confirmation of it recorded, whose actor was the designated host if one was set when it was given:
somebody else than the inspector, unless the inspector was designated. -/
theorem validated_visit_has_host_proof (hvisits : init.site_visits.rows = []) (hrun : Run w init calls s)
    {v : SiteVisitModel F} (hv : v ∈ s.site_visits.rows)
    (hstatus : v.status = .COPRESENCE_OK ∨ v.status = .COMPLETED) :
    ∃ p ∈ s.presence_proofs.rows, p.site_visit_id = v.id ∧ ∃ x cmd env y m m' est,
      Takes (Served w) init calls s x ⟨.confirm_host cmd, env⟩ y ∧ cmd.site_visit_id = v.id ∧
      p ∉ x.presence_proofs.rows ∧ p ∈ y.presence_proofs.rows ∧ p.actor_user_id = cmd.host_user_id ∧
      x.missions.get v.mission_id = some m ∧ x.establishments.get m.establishment_id = some est ∧
      s.missions.get v.mission_id = some m' ∧
      ∀ user_id, designated_host m est = some user_id →
        p.actor_user_id = user_id ∧ (user_id ≠ m'.inspector_id → p.actor_user_id ≠ m'.inspector_id) := by
  have hstage : SiteVisitStatus.COPRESENCE_OK.stage ≤ v.status.stage := by
    rcases hstatus with hstatus | hstatus
    · exact Nat.le_of_eq (by rw [hstatus])
    · rw [hstatus]
      decide
  obtain ⟨x, cmd, env, y, confirmed, m, est, mode, host, consumed, latitude, longitude, htakes, hid,
    hconfirmed⟩ := exists_confirmation hvisits hrun hv hstage
  obtain ⟨hx, hkey⟩ := Table.get_eq_some_iff.mp hconfirmed.admits.visit
  obtain ⟨later, hafter⟩ := htakes.after
  have hlater : Run w x (⟨.confirm_host cmd, env⟩ :: later) s := .cons htakes.taken hafter
  obtain ⟨v', hv', hadvances⟩ := visit_advances_of_run hlater hx
  obtain rfl : v' = v := s.site_visits.eq_of_key hv' hv (hadvances.id.trans hid)
  have hmission : x.missions.get v'.mission_id = some m := by
    rw [hadvances.mission_id, hconfirmed.admits.mission_id]
    exact hconfirmed.admits.mission
  obtain ⟨m', hm', hevolves⟩ := mission_evolves_of_run hlater hmission
  obtain ⟨hfree, hrows⟩ := Table.insert_eq_some_iff.mp hconfirmed.proofs
  generalize hp : (new_presence_proof_row (ConfirmHostPresence.proof env cmd confirmed latitude
    longitude)).stored = p at hfree hrows
  have hactor : p.actor_user_id = cmd.host_user_id := by
    rw [← hp]
    rfl
  have hmem : p ∈ y.presence_proofs.rows := by
    rw [hrows]
    exact List.mem_append_right _ (List.mem_singleton.mpr rfl)
  have hvisit : p.site_visit_id = v'.id := by
    rw [← hp, ← hid]
    rfl
  refine ⟨p, mem_proofs_of_run hafter hmem, hvisit, x, cmd, env, y, m, m', est, htakes, hkey.symm.trans hid,
    fun hold => hfree p hold (clash_of_key rfl), hmem, hactor, hmission, hconfirmed.admits.establishment, hm', ?_⟩
  intro user_id hdesignated
  have huser : p.actor_user_id = user_id :=
    hactor.trans (hconfirmed.admits.authorised user_id hdesignated).symm
  exact ⟨huser, fun hne => huser ▸ hne⟩

/-- The validated visit of the pilot site has the proof of its host. -/
theorem pilot_visit_has_host_proof :
    ∃ p ∈ (pilot.confirmed "host").presence_proofs.rows, p.site_visit_id = pilot.confirmed_visit.id ∧
      p.actor_user_id = ⟨"host"⟩ := by
  obtain ⟨p, hp, hvisit, x, cmd, env, y, _, _, _, htakes, _, _, _, hactor, _⟩ :=
    validated_visit_has_host_proof rfl (pilot.run_confirmed "host") (v := pilot.confirmed_visit)
      (List.mem_singleton.mpr rfl) (Or.inl rfl)
  refine ⟨p, hp, hvisit, hactor.trans ?_⟩
  rcases List.mem_cons.mp htakes.mem with hcall | hcall
  · cases hcall
  · cases List.mem_singleton.mp hcall
    rfl

end sigis
