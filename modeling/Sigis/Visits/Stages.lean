import Sigis.Requests.Frames

open guarded relational transactional transition

namespace sigis

/-- The place of a status in the life of a visit. -/
def SiteVisitStatus.stage : SiteVisitStatus → Nat
  | .SCHEDULED => 0
  | .CHECKED_IN => 1
  | .PENDING_HOST => 2
  | .COPRESENCE_OK => 3
  | .CHECKED_OUT => 4
  | .COMPLETED => 5
  | .CANCELLED => 6

/-- The same visit, possibly further in its life. -/
structure SiteVisitModel.Advances {F : Type} (v v' : SiteVisitModel F) : Prop where
  id : v'.id = v.id
  mission_id : v'.mission_id = v.mission_id
  stage : v.status.stage ≤ v'.status.stage

theorem SiteVisitModel.Advances.refl {F : Type} (v : SiteVisitModel F) : v.Advances v :=
  ⟨rfl, rfl, le_rfl⟩

theorem SiteVisitModel.Advances.trans {F : Type} {v v' v'' : SiteVisitModel F} (h : v.Advances v')
    (h' : v'.Advances v'') : v.Advances v'' :=
  ⟨h'.id.trans h.id, h'.mission_id.trans h.mission_id, h.stage.trans h'.stage⟩

variable {F : Type} [LinearOrder F] [NatCast F] {w : World F} {call : Call F} {env : Env} {s t : Store F}
  {r : Response F} {visit : SiteVisit F} {visits : Table (SiteVisitModel F)}

omit [NatCast F] in
@[simp] theorem SiteVisitModel.status_assigned (v : SiteVisitModel F) (visit : SiteVisit F) :
    (v.assigned visit).status = visit.status := by
  simp [SiteVisitModel.assigned, SiteVisitModel.flush, apply_site_visit_to_row]

omit [NatCast F] in
/-- A check-in saves a pending visit of its mission, over a scheduled one if the mission
had a visit. -/
theorem CheckedIn.saved_row {cmd : CheckInInspectorCommand F} {m : MissionModel}
    {est : EstablishmentModel F} (h : CheckedIn w env cmd s m est visit t) (hfresh : env.Fresh s) :
    (s.saved_row visit).mission_id = cmd.mission_id ∧ (s.saved_row visit).status = .PENDING_HOST ∧
      ∀ v ∈ s.site_visits.rows, v.id = visit.id → v.mission_id = cmd.mission_id ∧ v.status = .SCHEDULED := by
  have heq := h.visit_eq
  unfold Store.saved_row
  cases hvisit : s.visit_of_mission cmd.mission_id with
  | none =>
    rw [hvisit] at heq
    have hnew : s.site_visits.get visit.id = none := by
      rw [heq]
      exact hfresh.visit_id
    rw [hnew, heq]
    refine ⟨rfl, rfl, ?_⟩
    intro v hv hid
    exact absurd hid (Table.get_eq_none_iff.mp hfresh.visit_id v hv)
  | some v =>
    rw [hvisit] at heq
    obtain ⟨hv, hmission⟩ := Store.visit_of_mission_eq_some_iff.mp hvisit
    have hid : visit.id = v.id := by
      rw [heq]
      rfl
    have hget : s.site_visits.get visit.id = some v := hid ▸ Table.get_of_mem hv
    rw [hget]
    refine ⟨?_, ?_, ?_⟩
    · exact hmission
    · rw [SiteVisitModel.status_assigned, heq]
      rfl
    · intro v' hv' hid'
      obtain rfl : v' = v := s.site_visits.eq_of_key hv' hv (hid'.trans hid)
      exact ⟨hmission, h.admits.visit v' hvisit⟩

omit [LinearOrder F] [NatCast F] in
theorem visit_advances_of_replaces {v old new : SiteVisitModel F}
    (h : Table.Replaces s.site_visits old new t.site_visits) (hadvances : old.Advances new)
    (hv : v ∈ s.site_visits.rows) : ∃ v' ∈ t.site_visits.rows, v.Advances v' := by
  by_cases hid : v.id = old.id
  · obtain rfl : v = old := s.site_visits.eq_of_key hv h.stored hid
    exact ⟨new, h.mem_iff.mpr (Or.inr rfl), hadvances⟩
  · exact ⟨v, h.mem_iff.mpr (Or.inl ⟨hv, hid⟩), .refl v⟩

/-- A stored visit stays, and never goes back. -/
theorem Outcome.visit_advances (h : Outcome w call s r t) (hfresh : call.env.Fresh s)
    {v : SiteVisitModel F} (hv : v ∈ s.site_visits.rows) : ∃ v' ∈ t.site_visits.rows, v.Advances v' := by
  cases h with
  | @check_in cmd env _ m est visit _ h =>
    obtain ⟨hmission, hstatus, hold⟩ := h.saved_row hfresh
    by_cases hid : v.id = visit.id
    · obtain ⟨hvmission, hvstatus⟩ := hold v hv hid
      refine ⟨_, h.visits.mem_iff.mpr (Or.inr rfl), ?_, hmission.trans hvmission.symm, ?_⟩
      · rw [Store.SavesVisit.id_saved_row, hid]
      · rw [hvstatus, hstatus]
        decide
    · exact ⟨v, h.visits.mem_iff.mpr (Or.inl ⟨hv, hid⟩), .refl v⟩
  | confirm_host h =>
    refine visit_advances_of_replaces h.visits ⟨rfl, ?_, ?_⟩ hv
    · rw [SiteVisitModel.assigned_confirmed]
    · rw [SiteVisitModel.assigned_confirmed, h.admits.pending]
      exact Nat.le_succ 2
  | check_out h =>
    refine visit_advances_of_replaces h.visits ⟨rfl, ?_, ?_⟩ hv
    · rw [SiteVisitModel.assigned_checked_out _ _ h.admits.open_visit]
    · rw [SiteVisitModel.assigned_checked_out _ _ h.admits.open_visit, h.admits.validated]
      exact Nat.le_add_right 3 2
  | _ => exact ⟨v, hv, .refl v⟩

/-- A stored visit stays over a run, and never goes back. -/
theorem visit_advances_of_run {calls : List (Call F)} (hrun : Run w s calls t) {v : SiteVisitModel F}
    (hv : v ∈ s.site_visits.rows) : ∃ v' ∈ t.site_visits.rows, v.Advances v' := by
  refine invariant_of_outcomes (fun t => ∃ v' ∈ t.site_visits.rows, v.Advances v') hrun ⟨v, hv, .refl v⟩ ?_
  rintro x call r y ⟨v', hv', hadvances⟩ hfresh houtcome
  obtain ⟨v'', hv'', hadvances'⟩ := houtcome.visit_advances hfresh hv'
  exact ⟨v'', hv'', hadvances.trans hadvances'⟩

end sigis
