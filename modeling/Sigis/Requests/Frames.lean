import Sigis.Requests.Outcome

open guarded relational transactional transition

namespace sigis

/-- What no request changes in a stored mission. -/
structure MissionModel.Evolves (m m' : MissionModel) : Prop where
  id : m'.id = m.id
  establishment_id : m'.establishment_id = m.establishment_id
  inspector_id : m'.inspector_id = m.inspector_id
  host_token : m'.host_token = m.host_token
  requires_approval : m'.requires_approval = m.requires_approval
  previous_mission_id : m'.previous_mission_id = m.previous_mission_id

theorem MissionModel.Evolves.refl (m : MissionModel) : m.Evolves m := ⟨rfl, rfl, rfl, rfl, rfl, rfl⟩

theorem MissionModel.Evolves.trans {m m' m'' : MissionModel} (h : m.Evolves m')
    (h' : m'.Evolves m'') : m.Evolves m'' where
  id := h'.id.trans h.id
  establishment_id := h'.establishment_id.trans h.establishment_id
  inspector_id := h'.inspector_id.trans h.inspector_id
  host_token := h'.host_token.trans h.host_token
  requires_approval := h'.requires_approval.trans h.requires_approval
  previous_mission_id := h'.previous_mission_id.trans h.previous_mission_id

/-- A mission that leaves an attribute of a loaded row as it was leaves its column. -/
structure Mission.Edits (mission : Mission) (m : MissionModel) : Prop where
  establishment_id : mission.establishment_id = m.establishment_id
  inspector_id : mission.inspector_id = m.inspector_id
  host_token : mission.host_token = some m.host_token
  requires_approval : mission.requires_approval = m.requires_approval
  previous_mission_id : mission.previous_mission_id = m.previous_mission_id

theorem Mission.Edits.evolves {mission : Mission} {m : MissionModel} (h : mission.Edits m) :
    m.Evolves (m.assigned mission) := by
  constructor <;>
    simp [MissionModel.assigned, MissionModel.flush, apply_mission_to_row, h.establishment_id,
      h.inspector_id, h.host_token, h.requires_approval, h.previous_mission_id]

/-- The status written over a loaded row is the mission's. -/
@[simp] theorem MissionModel.status_assigned (m : MissionModel) (mission : Mission) :
    (m.assigned mission).status = mission.status := by
  simp [MissionModel.assigned, MissionModel.flush, apply_mission_to_row]

@[simp] theorem MissionModel.id_assigned (m : MissionModel) (mission : Mission) :
    (m.assigned mission).id = m.id := rfl

variable {F : Type} [LinearOrder F] [NatCast F] {w : World F} {call : Call F} {s t : Store F}
  {r : Response F}

omit [LinearOrder F] [NatCast F] in
theorem mission_evolves_of_replaces {missions : Table MissionModel} {m m' m'' : MissionModel}
    (hreplaces : Table.Replaces s.missions m m' missions) (hm : m.Evolves m') {id : UUID}
    (hget : s.missions.get id = some m'') :
    ∃ found, missions.get id = some found ∧ m''.Evolves found :=
  hreplaces.get_related MissionModel.Evolves.refl hm hget

/-- A stored mission stays, with its inspector and its predecessor. -/
theorem Outcome.mission_evolves (h : Outcome w call s r t) {id : UUID} {m : MissionModel}
    (hm : s.missions.get id = some m) : ∃ m', t.missions.get id = some m' ∧ m.Evolves m' := by
  cases h with
  | create_mission _ _ hrows => exact ⟨m, Table.get_insert_of_some hrows hm, .refl m⟩
  | approve_mission _ _ hrows =>
    exact mission_evolves_of_replaces hrows (Mission.Edits.evolves ⟨rfl, rfl, rfl, rfl, rfl⟩) hm
  | cancel_mission _ _ hmission hrows =>
    subst hmission
    exact mission_evolves_of_replaces hrows (Mission.Edits.evolves ⟨rfl, rfl, rfl, rfl, rfl⟩) hm
  | reassign_inspector _ _ _ hrows hrows' =>
    obtain ⟨m', hm', hevolves⟩ :=
      mission_evolves_of_replaces hrows (Mission.Edits.evolves ⟨rfl, rfl, rfl, rfl, rfl⟩) hm
    exact ⟨m', Table.get_insert_of_some hrows' hm', hevolves⟩
  | update_mission _ _ hrows =>
    exact mission_evolves_of_replaces hrows (Mission.Edits.evolves ⟨rfl, rfl, rfl, rfl, rfl⟩) hm
  | check_in h | confirm_host h | check_out h =>
    rw [h.frame]
    exact ⟨m, hm, .refl m⟩
  | _ => exact ⟨m, hm, .refl m⟩

/-- A stored mission stays over a run. -/
theorem mission_evolves_of_run {calls : List (Call F)} (hrun : Run w s calls t) {id : UUID}
    {m : MissionModel} (hm : s.missions.get id = some m) :
    ∃ m', t.missions.get id = some m' ∧ m.Evolves m' := by
  refine invariant_of_outcomes (fun t => ∃ m', t.missions.get id = some m' ∧ m.Evolves m') hrun ⟨m, hm, .refl m⟩ ?_
  rintro x call r y ⟨m', hm', hevolves⟩ _ houtcome
  obtain ⟨m'', hm'', hevolves'⟩ := houtcome.mission_evolves hm'
  exact ⟨m'', hm'', hevolves.trans hevolves'⟩

/-- The row a saved visit is stored as. -/
def Store.saved_row (s : Store F) (visit : SiteVisit F) : SiteVisitModel F :=
  match s.site_visits.get visit.id with
  | none => (new_site_visit_row visit).stored
  | some v => v.assigned visit

namespace Store.SavesVisit

omit [NatCast F]

variable {visit : SiteVisit F} {visits : Table (SiteVisitModel F)}

theorem id_saved_row : (s.saved_row visit).id = visit.id := by
  unfold saved_row
  cases h : s.site_visits.get visit.id with
  | none => rfl
  | some v => exact Table.key_of_get h

theorem mem_iff (h : s.SavesVisit visit visits) {x : SiteVisitModel F} :
    x ∈ visits.rows ↔ (x ∈ s.site_visits.rows ∧ x.id ≠ visit.id) ∨ x = s.saved_row visit := by
  unfold saved_row
  rcases h with ⟨hnone, hinsert⟩ | ⟨v, hv, hreplaces⟩
  · rw [hnone, Table.rows_insert hinsert, List.mem_append, List.mem_singleton]
    have hne : ∀ {x}, x ∈ s.site_visits.rows → x.id ≠ visit.id :=
      fun hx => Table.get_eq_none_iff.mp hnone _ hx
    exact ⟨Or.imp_left fun hx => ⟨hx, hne hx⟩, Or.imp_left And.left⟩
  · rw [hv, hreplaces.mem_iff]
    have hid : Row.key v = visit.id := Table.key_of_get hv
    rw [hid]
    rfl

end Store.SavesVisit

omit [NatCast F] in
/-- A confirmed visit: its status, and the host's position where the mode sets one. -/
theorem SiteVisitModel.assigned_confirmed (v : SiteVisitModel F) (host : Option (F × F)) :
    v.assigned (ConfirmHostPresence.visit v host) =
      { v with
        status := .COPRESENCE_OK
        host_lat := (host.map Prod.fst).or v.host_lat
        host_lon := (host.map Prod.snd).or v.host_lon } := by
  cases host <;>
    simp [SiteVisitModel.assigned, SiteVisitModel.flush, apply_site_visit_to_row,
      ConfirmHostPresence.visit, SiteVisit.with_host, site_visit_to_domain]

omit [NatCast F] in
/-- A closed visit: its status and its time of departure. -/
theorem SiteVisitModel.assigned_checked_out (v : SiteVisitModel F) (env : Env)
    (hopen : v.checked_out_at = none) :
    v.assigned (CheckOutVisit.visit env v) =
      { v with
        status := .COMPLETED
        checked_out_at := some (datetime.utc env.now).stored } := by
  simp [SiteVisitModel.assigned, SiteVisitModel.flush, apply_site_visit_to_row, CheckOutVisit.visit,
    site_visit_to_domain, hopen, bound_column]

end sigis
