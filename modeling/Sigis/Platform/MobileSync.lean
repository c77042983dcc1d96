import Sigis.Missions.Placed
import Sigis.Persistence.Listing
import Sigis.Platform.Duties

open guarded paging relational transactional transition

namespace sigis

/-- A mission as a device is told of it (`api/v1/mobile.py`). -/
structure SyncMission where
  id : String
  establishment_id : String
  inspector_id : String
  window_start : Json
  window_end : Json
  status : String
  host_token : Option String
  designated_host_user_id : Option String
deriving DecidableEq

structure SyncEstablishment (F : Type) where
  id : String
  name : String
  center_lat : F
  center_lon : F
  radius_strict_m : F
  radius_relaxed_m : F
  territory_code : Option String
  establishment_type : String

structure MobileSync (F : Type) where
  cursor : Json
  missions : List SyncMission
  establishments : List (SyncEstablishment F)
  server_time_utc : Json
  cursor_in : Option String
  sync_id : String

/-- The order in which a set of identifiers is gone through. -/
structure SetOrder where
  iterate : List UUID → List UUID
  perm : ∀ ids, (iterate ids).Perm ids.dedup

def sync_mission (m : Mission) : SyncMission where
  id := m.id.str
  establishment_id := m.establishment_id.str
  inspector_id := m.inspector_id.str
  window_start := .isoformat m.window_start
  window_end := .isoformat m.window_end
  status := m.status.value
  host_token := m.host_token.map UUID.str
  designated_host_user_id := m.designated_host_user_id.map UUID.str

def sync_establishment {F : Type} (est : Establishment F) : SyncEstablishment F where
  id := est.id.str
  name := est.name
  center_lat := est.center_lat
  center_lon := est.center_lon
  radius_strict_m := est.radius_strict_m
  radius_relaxed_m := est.radius_relaxed_m
  territory_code := est.territory_code
  establishment_type := est.establishment_type

/-- The cursor of the request is sent back and not used. -/
def mobile_sync {F : Type} (plan : Plan MissionModel.order_key) (order : SetOrder) (now : Int) (sync_id : UUID)
    (cursor : Option String) (user : UUID) (s : Store F) : MobileSync F :=
  let missions := MissionRepositoryImpl.list_all plan s { inspector_id := some user }
  let est_ids := order.iterate (missions.map Mission.establishment_id)
  { cursor := .isoformat (datetime.utc now)
    missions := missions.map sync_mission
    establishments := est_ids.filterMap fun eid => (EstablishmentRepositoryImpl.get_by_id s eid).map sync_establishment
    server_time_utc := .isoformat (datetime.utc now)
    cursor_in := cursor
    sync_id := sync_id.str }

variable {F : Type} [LinearOrder F] [NatCast F] {w : World F} {s : Store F}

section listed

omit [LinearOrder F] [NatCast F]

variable {plan : Plan MissionModel.order_key} {order : SetOrder} {now : Int} {sync_id : UUID} {cursor : Option String}
  {user : UUID}

/-- The missions of an inspector. -/
def Store.missions_of (s : Store F) (user : UUID) : List MissionModel :=
  s.missions.rows.filter fun m => m.inspector_id = user

theorem mission_select_inspector : MissionRepositoryImpl.mission_select_filtered s { inspector_id := some user } =
    s.missions_of user := by
  simp [MissionRepositoryImpl.mission_select_filtered, Store.missions_of, unless_none]

/-- The rows of the missions a device is told of. -/
def synced_rows (plan : Plan MissionModel.order_key) (user : UUID) (s : Store F) : List MissionModel :=
  plan.page (s.missions_of user) 0 10000

theorem missions_mobile_sync : (mobile_sync plan order now sync_id cursor user s).missions =
    (synced_rows plan user s).map fun row => sync_mission (mission_to_domain row) := by
  simp only [mobile_sync, MissionRepositoryImpl.list_all, MissionRepositoryImpl.list_page, mission_select_inspector,
    List.map_map, synced_rows]
  rfl

theorem mem_synced_rows {row : MissionModel} (h : row ∈ synced_rows plan user s) :
    row ∈ s.missions.rows ∧ row.inspector_id = user := by
  obtain ⟨hrow, hof⟩ := List.mem_filter.mp (mem_of_mem_page h)
  exact ⟨hrow, of_decide_eq_true hof⟩

theorem establishments_mobile_sync : (mobile_sync plan order now sync_id cursor user s).establishments =
    (order.iterate ((synced_rows plan user s).map MissionModel.establishment_id)).filterMap fun eid =>
      (s.establishments.get eid).map fun est => sync_establishment (establishment_to_domain est) := by
  simp only [mobile_sync, MissionRepositoryImpl.list_all, MissionRepositoryImpl.list_page, mission_select_inspector,
    List.map_map, synced_rows, EstablishmentRepositoryImpl.get_by_id, Option.map_map]
  rfl

/-- The establishments a device is told of are those of the missions it is told of, each once. -/
theorem establishment_ids_mobile_sync (hs : s.Placed) :
    ((mobile_sync plan order now sync_id cursor user s).establishments.map SyncEstablishment.id).Perm
      ((mobile_sync plan order now sync_id cursor user s).missions.map SyncMission.establishment_id).dedup := by
  let eids := (synced_rows plan user s).map MissionModel.establishment_id
  have hperm : (order.iterate eids).Perm eids.dedup := order.perm eids
  have hfound : ∀ eid ∈ order.iterate eids, ((s.establishments.get eid).map fun est =>
      sync_establishment (establishment_to_domain est)).map SyncEstablishment.id = some eid.str := by
    intro eid heid
    obtain ⟨row, hrow, rfl⟩ := List.mem_map.mp (List.mem_dedup.mp (hperm.mem_iff.mp heid))
    obtain ⟨est, hest⟩ := hs row (mem_synced_rows hrow).1
    rw [hest]
    exact congrArg (some ∘ UUID.str) (Table.key_of_get hest)
  have hids : (mobile_sync plan order now sync_id cursor user s).establishments.map SyncEstablishment.id =
      (order.iterate eids).map UUID.str := by
    rw [establishments_mobile_sync, List.map_filterMap, List.filterMap_congr hfound]
    exact congrFun List.filterMap_eq_map' _
  have hmissions : (mobile_sync plan order now sync_id cursor user s).missions.map SyncMission.establishment_id =
      eids.map UUID.str := by
    rw [missions_mobile_sync, List.map_map, List.map_map]
    rfl
  rw [hids, hmissions, List.dedup_map_of_injective fun a b => UUID.str_inj.mp]
  exact hperm.map UUID.str

theorem row_of_mem_establishments {est : SyncEstablishment F}
    (h : est ∈ (mobile_sync plan order now sync_id cursor user s).establishments) :
    ∃ row ∈ s.establishments.rows, est = sync_establishment (establishment_to_domain row) := by
  rw [establishments_mobile_sync] at h
  obtain ⟨eid, -, hfound⟩ := List.mem_filterMap.mp h
  obtain ⟨row, hrow, rfl⟩ := Option.map_eq_some_iff.mp hfound
  exact ⟨row, Table.mem_of_get hrow, rfl⟩

end listed

/-- What a device is told is right and can be used without asking for more: its inspector's missions, or of
more than 10000 those whose windows start last, and the establishment of each of them, once. -/
structure MobileSync.Complete (s : Store F) (user : UUID) (sync : MobileSync F) (rows : List MissionModel) : Prop where
  missions : sync.missions = rows.map fun row => sync_mission (mission_to_domain row)
  nodup : rows.Nodup
  subset : rows ⊆ s.missions_of user
  length : rows.length = min 10000 (s.missions_of user).length
  last : ∀ listed ∈ rows, ∀ row ∈ s.missions_of user, row ∉ rows → row.window_start.wall ≤ listed.window_start.wall
  establishments : (sync.establishments.map SyncEstablishment.id).Perm
    (sync.missions.map SyncMission.establishment_id).dedup
  stored : ∀ est ∈ sync.establishments, ∃ row ∈ s.establishments.rows,
    est = sync_establishment (establishment_to_domain row)

variable {d : accounts.Deployment} {init p q : Platform F} {events : List (HttpEvent F)}

/-- Over every run of the platform, whatever plan the query follows and whatever order the set has. -/
theorem mobile_sync_complete (hplaced : init.store.Placed) (hrun : Execution (HttpServed w d) init events p)
    (plan : Plan MissionModel.order_key) (order : SetOrder) (now : Int) (sync_id : UUID) (cursor : Option String)
    (user : UUID) :
    ∃ rows, (mobile_sync plan order now sync_id cursor user p.store).Complete p.store user rows := by
  obtain ⟨calls, hcalls⟩ := exists_run_of_platform hrun
  have hstored : p.store.Placed := placed_of_run hcalls hplaced
  have hnodup : (p.store.missions_of user).Nodup := p.store.missions.nodup.filter _
  refine ⟨synced_rows plan user p.store, ⟨missions_mobile_sync, ?_, fun row => mem_of_mem_page, ?_, ?_,
    establishment_ids_mobile_sync hstored, fun est => row_of_mem_establishments⟩⟩
  · exact ((plan.perm _).nodup_iff.mpr hnodup).sublist ((List.take_sublist _ _).trans (List.drop_sublist _ _))
  · rw [synced_rows, length_page, Nat.sub_zero]
  · intro listed hlisted row hrow hout
    have hkey : listed.order_key ≤ row.order_key := key_le_of_not_mem_page hlisted hrow hout
    exact OrderDual.toDual_le_toDual.mp hkey

/-- What a device was told stays true of what it is told later: while the inspector has no more than 10000
missions none of them goes missing, and none gets another establishment or another token for its host. -/
theorem mobile_sync_keeps (hrun : Execution (HttpServed w d) p events q) {user : UUID}
    (hcap : (q.store.missions_of user).length ≤ 10000) (plan later : Plan MissionModel.order_key)
    (order other : SetOrder) (now now' : Int) (sync_id sync_id' : UUID) (cursor cursor' : Option String) :
    ∀ m ∈ (mobile_sync plan order now sync_id cursor user p.store).missions,
      ∃ m' ∈ (mobile_sync later other now' sync_id' cursor' user q.store).missions,
        m'.id = m.id ∧ m'.inspector_id = m.inspector_id ∧ m'.establishment_id = m.establishment_id ∧
          m'.host_token = m.host_token := by
  obtain ⟨calls, hcalls⟩ := exists_run_of_platform hrun
  intro m hm
  rw [missions_mobile_sync] at hm
  obtain ⟨row, hrow, rfl⟩ := List.mem_map.mp hm
  obtain ⟨hstored, hof⟩ := mem_synced_rows hrow
  obtain ⟨row', hrow', hevolves⟩ := mission_evolves_of_run hcalls (Table.get_of_mem hstored)
  have hlisted : row' ∈ synced_rows later user q.store := by
    refine (page_perm later hcap).mem_iff.mpr (List.mem_filter.mpr ⟨Table.mem_of_get hrow', ?_⟩)
    exact decide_eq_true (hevolves.inspector_id.trans hof)
  refine ⟨sync_mission (mission_to_domain row'), ?_, ?_⟩
  · rw [missions_mobile_sync]
    exact List.mem_map_of_mem hlisted
  · refine ⟨congrArg UUID.str hevolves.id, congrArg UUID.str hevolves.inspector_id,
      congrArg UUID.str hevolves.establishment_id, ?_⟩
    exact congrArg (fun token => some (UUID.str token)) hevolves.host_token

namespace pilot

theorem placed_planned : (platform planned).store.Placed := List.forall_mem_singleton.mpr ⟨school, rfl⟩

/-- The director plans a second mission of the inspector at the school. -/
def second_request : WriteEndpoint ℝ :=
  .mission (.create_mission ⟨⟨"school"⟩, ⟨"inspector"⟩, ⟨200, none⟩, ⟨300, none⟩, none, none, none, false, none⟩)

def planner : Surroundings := asked "director" .NATIONAL_ADMIN "4" 5

theorem bears_planner : accounts.BearsRole deployment 5 planner.credentials .NATIONAL_ADMIN :=
  ⟨_, _, rfl, rfl, by decide⟩

theorem admitted_second : Admitted deployment (platform planned) second_request planner ⟨"director"⟩ where
  permitted := (accounts.require_permission_eq_ok_iff bears_planner).mpr
    ((accounts.escalation_pilot.default_matrix_started _ _).mpr (by decide +kernel))
  user := by decide

theorem exists_second : ∃ q, HttpServed world deployment (platform planned) (.request second_request planner) q ∧
    (q.store.missions_of ⟨"inspector"⟩).map (·.id.str) = ["mission", "mission-4"] := by
  obtain ⟨q, hhandle, hmissions⟩ : ∃ q, (second_request.handle world planner ⟨"director"⟩ (platform planned)).2 = q ∧
      (q.store.missions_of ⟨"inspector"⟩).map (·.id.str) = ["mission", "mission-4"] := ⟨_, rfl, rfl⟩
  refine ⟨q, ⟨show (surroundings "4" 5).Fresh planned by decide, ?_⟩, hmissions⟩
  rw [admitted_second.serve]
  exact hhandle

/-- A set gone through in the order in which its members were met. -/
def first_met : SetOrder := ⟨List.dedup, fun _ => .refl _⟩

/-- What the inspector's device is told. -/
noncomputable def synced (now : Int) (p : Platform ℝ) : MobileSync ℝ :=
  mobile_sync (.by_insertion _) first_met now ⟨"sync"⟩ none ⟨"inspector"⟩ p.store

end pilot

/-- With a second mission planned, the device is told of both. -/
theorem pilot_sync_complete : ∃ q rows,
    (q.store.missions_of ⟨"inspector"⟩).map (·.id.str) = ["mission", "mission-4"] ∧
      (pilot.synced 30 q).Complete q.store ⟨"inspector"⟩ rows := by
  obtain ⟨q, hserved, hmissions⟩ := pilot.exists_second
  obtain ⟨rows, hcomplete⟩ := mobile_sync_complete pilot.placed_planned (.single hserved) (.by_insertion _)
    pilot.first_met 30 ⟨"sync"⟩ none ⟨"inspector"⟩
  exact ⟨q, rows, hmissions, hcomplete⟩

theorem pilot_sync_keeps : ∃ m ∈ (pilot.synced 5 (pilot.platform pilot.planned)).missions,
    ∃ m' ∈ (pilot.synced 30 (pilot.platform (pilot.confirmed "host"))).missions,
      m'.id = m.id ∧ m'.inspector_id = m.inspector_id ∧ m'.establishment_id = m.establishment_id ∧
        m'.host_token = m.host_token := by
  have hcap : ((pilot.platform (pilot.confirmed "host")).store.missions_of ⟨"inspector"⟩).length ≤ 10000 :=
    (List.length_filter_le _ _).trans (show 1 ≤ 10000 by decide)
  have htold : sync_mission (mission_to_domain pilot.mission) ∈
      (pilot.synced 5 (pilot.platform pilot.planned)).missions := List.mem_singleton.mpr rfl
  exact ⟨_, htold, mobile_sync_keeps pilot.run_requests hcap _ _ _ _ _ _ _ _ _ _ _ htold⟩

end sigis
