import Sigis.Requests.Frames

open guarded relational transactional transition

namespace sigis

/-- Every mission refers to an establishment there is. -/
def Store.Placed {F : Type} (s : Store F) : Prop :=
  ∀ m ∈ s.missions.rows, ∃ est, s.establishments.get m.establishment_id = some est

variable {F : Type} [LinearOrder F] [NatCast F] {w : World F} {call : Call F} {s t : Store F} {r : Response F}
  {calls : List (Call F)}

/-- An establishment stays. -/
theorem Outcome.establishment_stays (h : Outcome w call s r t) {id : UUID} {est : EstablishmentModel F}
    (hest : s.establishments.get id = some est) : ∃ est', t.establishments.get id = some est' := by
  cases h with
  | create_establishment hrows => exact ⟨est, Table.get_insert_of_some hrows hest⟩
  | update_establishment _ hrows =>
    obtain ⟨est', hest', -⟩ := hrows.get_related (R := fun _ _ => True) (fun _ => trivial) trivial hest
    exact ⟨est', hest'⟩
  | check_in h | confirm_host h | check_out h =>
    rw [h.frame]
    exact ⟨est, hest⟩
  | _ => exact ⟨est, hest⟩

/-- The missions after a request are at establishments there were before it. -/
theorem Outcome.missions_placed (h : Outcome w call s r t) (hs : s.Placed) :
    ∀ m ∈ t.missions.rows, ∃ est, s.establishments.get m.establishment_id = some est := by
  have hreplaced : ∀ {m : MissionModel} {mission : Mission} {missions : Table MissionModel},
      Table.Replaces s.missions m (m.assigned mission) missions → mission.Edits m →
      ∀ m' ∈ missions.rows, ∃ est, s.establishments.get m'.establishment_id = some est := by
    intro m mission missions hrows hedits
    refine hrows.forall_mem hs ?_
    rw [hedits.evolves.establishment_id]
    exact hs m hrows.stored
  cases h with
  | create_mission hest _ hrows => exact Table.forall_mem_insert hrows hs ⟨_, hest⟩
  | approve_mission _ _ hrows => exact hreplaced hrows ⟨rfl, rfl, rfl, rfl, rfl⟩
  | cancel_mission _ _ hmission hrows =>
    subst hmission
    exact hreplaced hrows ⟨rfl, rfl, rfl, rfl, rfl⟩
  | reassign_inspector _ _ _ hrows hrows' =>
    have hclone := hs _ hrows.stored
    exact Table.forall_mem_insert hrows' (hreplaced hrows ⟨rfl, rfl, rfl, rfl, rfl⟩) hclone
  | update_mission _ _ hrows => exact hreplaced hrows ⟨rfl, rfl, rfl, rfl, rfl⟩
  | check_in h | confirm_host h | check_out h =>
    rw [h.frame]
    exact hs
  | _ => exact hs

theorem Outcome.placed (h : Outcome w call s r t) (hs : s.Placed) : t.Placed := by
  intro m hm
  obtain ⟨est, hest⟩ := h.missions_placed hs m hm
  exact h.establishment_stays hest

theorem placed_of_run (hrun : Run w s calls t) (hs : s.Placed) : t.Placed :=
  invariant_of_outcomes Store.Placed hrun hs fun hx _ houtcome => houtcome.placed hx

end sigis
