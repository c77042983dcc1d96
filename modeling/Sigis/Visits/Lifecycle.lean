import Sigis.Requests.Progress
import Sigis.Visits.Defensive

open guarded relational transactional transition

namespace sigis

variable {F : Type}

/-- The presence proofs of a visit, in the order they were recorded. -/
def Store.proofs_of (s : Store F) (site_visit_id : UUID) : List (PresenceProofModel F) :=
  s.presence_proofs.rows.filter fun p => p.site_visit_id = site_visit_id

/-- The co-presence events of a visit. -/
def Store.events_of (s : Store F) (site_visit_id : UUID) : List CoPresenceEventModel :=
  s.copresence_events.rows.filter fun e => e.site_visit_id = site_visit_id

/-- The proof was recorded when the visit began, for the inspector of its mission. -/
def Store.ProvesArrival (s : Store F) (v : SiteVisitModel F) (p : PresenceProofModel F) : Prop :=
  v.checked_in_at = some p.recorded_at ∧
    ∃ m, s.missions.get v.mission_id = some m ∧ p.actor_user_id = m.inspector_id

/-- What the columns and the related rows of one visit say together. -/
structure Store.Consistent (s : Store F) (v : SiteVisitModel F) : Prop where
  status : v.status = .PENDING_HOST ∨ v.status = .COPRESENCE_OK ∨ v.status = .COMPLETED
  arrival : v.host_validation_mode.isSome ∧ v.checked_in_at.isSome ∧ v.inspector_lat.isSome ∧
    v.inspector_lon.isSome
  pending : v.status = .PENDING_HOST →
    (∃ p, s.proofs_of v.id = [p] ∧ s.ProvesArrival v p) ∧ s.events_of v.id = []
  confirmed : v.status ≠ .PENDING_HOST →
    ∃ p q e, s.proofs_of v.id = [p, q] ∧ s.ProvesArrival v p ∧ s.events_of v.id = [e] ∧
      q.recorded_at = e.validated_at ∧ v.host_validation_mode = some e.host_validation_mode
  departure : v.checked_out_at.isSome ↔ v.status = .COMPLETED
  host_lat : v.host_lat.isSome ↔ v.host_validation_mode = some .APP_GPS ∧ v.status ≠ .PENDING_HOST
  host_lon : v.host_lon.isSome ↔ v.host_validation_mode = some .APP_GPS ∧ v.status ≠ .PENDING_HOST

/-- The visit of a dossier the store holds is consistent. -/
theorem Store.Holds.consistent {s : Store F} {d : Dossier F} (h : s.Holds d) : s.Consistent d.visit := by
  obtain ⟨m, hm, hinspector⟩ := h.mission
  have hproofs : s.proofs_of d.visit.id = d.proofs := by
    rw [Store.proofs_of, d.id_visit]
    exact h.proofs
  have hevents : s.events_of d.visit.id = d.events := by
    rw [Store.events_of, d.id_visit]
    exact h.events
  have harrival : s.ProvesArrival d.visit d.arrival.proof :=
    ⟨d.checked_in_at_visit, m, by rw [d.mission_id_visit]; exact hm, hinspector.symm⟩
  refine ⟨?_, ?_, ?_, ?_, ?_, ?_, ?_⟩
  · cases d <;> simp [Dossier.visit, CheckIn.visit, Confirmation.visit]
  · simp [d.mode_visit, d.checked_in_at_visit, d.inspector_lat_visit, d.inspector_lon_visit]
  · intro hstatus
    rw [hproofs, hevents]
    rw [d.eq_pending hstatus] at harrival ⊢
    exact ⟨⟨_, rfl, harrival⟩, rfl⟩
  · intro hstatus
    rw [hproofs, hevents]
    cases d with
    | pending => exact absurd rfl hstatus
    | validated arrival confirmation => exact ⟨_, _, _, rfl, harrival, rfl, rfl, rfl⟩
    | completed arrival confirmation departure => exact ⟨_, _, _, rfl, harrival, rfl, rfl, rfl⟩
  · cases d <;> simp [Dossier.visit, CheckIn.visit, Confirmation.visit]
  · cases d <;> simp [Dossier.visit, CheckIn.visit, Confirmation.visit, Confirmation.position_iff]
  · cases d <;> simp [Dossier.visit, CheckIn.visit, Confirmation.visit, Confirmation.position_iff]

variable [LinearOrder F] [NatCast F] {w : World F} {init s : Store F} {calls : List (Call F)}

/-- In every run from a store without visits, each mission has at most one visit, each
visit agrees with its proofs, its event and its mission, and no request ever reaches a
defensive branch of the visit use cases. -/
theorem visits_consistent_of_run (hempty : init.site_visits.rows = []) (hrun : Run w init calls s) :
    (∀ v ∈ s.site_visits.rows, ∀ v' ∈ s.site_visits.rows, v.mission_id = v'.mission_id → v = v') ∧
    (∀ v ∈ s.site_visits.rows, s.Consistent v) ∧
    ∀ (call : Call F), ∀ e ∈ defensive_errors, (exec w call s).1 ≠ .error e := by
  have hfiled := filed_of_run hrun hempty
  refine ⟨?_, ?_, fun call e he => exec_ne_defensive hfiled call he⟩
  · intro v hv v' hv' hmission
    exact s.site_visits.eq_of_clash hv hv' (clash_site_visit_of_mission hmission)
  · intro v hv
    obtain ⟨d, rfl, hd⟩ := hfiled v hv
    exact hd.consistent

/-- The run of the pilot visit leaves its visit consistent. -/
theorem visits_consistent_of_pilot_run :
    (pilot.confirmed "host").Consistent pilot.confirmed_visit :=
  (visits_consistent_of_run rfl (pilot.run_confirmed "host")).2.1 _ (List.mem_singleton.mpr rfl)

end sigis
