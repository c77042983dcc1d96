import Sigis.Accounts.Listing
import Sigis.Requests.Progress

open guarded paging relational

namespace sigis

variable {F : Type}

/-- What keeps the identifier of the selected rows keeps them apart. -/
theorem inj_on_filter {ρ β : Type} [Row ρ UUID] (t : Table ρ) (p : ρ → Bool) {f : ρ → β} (id : β → UUID)
    (hid : ∀ a, id (f a) = Row.key a) :
    ∀ a ∈ t.rows.filter p, ∀ b ∈ t.rows.filter p, f a = f b → a = b := by
  intro a ha b hb heq
  refine t.eq_of_key (List.mem_of_mem_filter ha) (List.mem_of_mem_filter hb) ?_
  rw [← hid a, ← hid b, heq]

/-- The pages of a query on a table hold what is made of each selected row exactly once, whatever
plan each page is fetched with. -/
theorem gather_filter_perm_iff {ρ β κ : Type} [Row ρ UUID] [LinearOrder κ] {key : ρ → κ} (t : Table ρ)
    (p : ρ → Bool) (f : ρ → β) (id : β → UUID) (hid : ∀ a, id (f a) = Row.key a) {limit : Nat} (hlimit : 0 < limit) :
    (∀ plan : Nat → Plan key, (gather (fun k skip =>
      (((plan k).page (t.rows.filter p) skip limit).map f, (t.rows.filter p).length)) limit).Perm
        ((t.rows.filter p).map f)) ↔ ∀ k, ¬ Splits key (t.rows.filter p) (k * limit) :=
  gather_perm_iff f (t.nodup.filter p) (inj_on_filter t p id hid) hlimit

namespace accounts

variable {s : AccountStore} {filter : UserFilter} {limit : Nat} {users : List User}

/-- Every selected row has the value of a role. -/
def UserAuthRepositoryImpl.RolesKnown (s : AccountStore) (filter : UserFilter) : Prop :=
  ∀ row ∈ users_select_filtered s filter, ∃ role : Role, role.value = row.role

open accounts.UserAuthRepositoryImpl

/-- When the roles are known, distinct rows show distinct users. -/
theorem shown_inj (hroles : RolesKnown s filter) :
    ∀ a ∈ users_select_filtered s filter, ∀ b ∈ users_select_filtered s filter, a.shown = b.shown → a = b := by
  intro a ha b hb heq
  obtain ⟨user, hshows⟩ := UserModel.exists_shows (hroles a ha)
  have hother := UserModel.shown_eq_some_iff.mpr hshows
  rw [heq] at hother
  refine s.users.eq_of_key (List.mem_of_mem_filter ha) (List.mem_of_mem_filter hb) ?_
  exact hshows.id.symm.trans (UserModel.shown_eq_some_iff.mp hother).id

/-- When the roles are known, every page of users is answered. -/
theorem exists_list_page (hroles : RolesKnown s filter) (plan : Plan UserModel.order_key) (offset limit : Nat) :
    ∃ page, list_page plan s offset limit filter = .ok page := by
  exact exists_list_page_iff.mpr fun row hrow => hroles row (mem_of_mem_page hrow)

/-- Answered pages hold what the rows show exactly when the rows fetched are all the selected ones. -/
theorem gather_users_perm_iff (hroles : RolesKnown s filter) {plan : Nat → Plan UserModel.order_key}
    {pages : Nat → List User × Nat} (hpages : ∀ k, list_page (plan k) s (k * limit) limit filter = .ok (pages k))
    (husers : (users_select_filtered s filter).mapM model_to_user = .ok users) :
    (gather (fun k _ => pages k) limit).Perm users ↔
      (Plan.gathered plan (users_select_filtered s filter) limit).Perm (users_select_filtered s filter) := by
  have hgather : (gather (fun k _ => pages k) limit).map some =
      (Plan.gathered plan (users_select_filtered s filter) limit).map UserModel.shown := by
    unfold gather Plan.gathered
    rw [show (pages 0).2 = _ from (list_page_eq_ok_iff.mp (hpages 0)).2, List.map_flatMap, List.map_flatMap]
    exact List.flatMap_congr fun k _ => (list_page_eq_ok_iff.mp (hpages k)).1.symm
  rw [← List.map_perm_map_iff (Option.some_injective User), hgather, ← mapM_eq_ok_iff.mp husers]
  exact map_perm_iff (fun a => mem_of_mem_gathered) (s.users.nodup.filter _) (shown_inj hroles)

/-- The pages of users hold each selected one once, whatever plan each is fetched with, exactly when
the roles are known and no page begins among users created at one time. -/
theorem gather_users_iff (hlimit : 0 < limit) :
    (∃ users, (users_select_filtered s filter).mapM model_to_user = .ok users ∧
      ∀ plan : Nat → Plan UserModel.order_key, ∃ pages : Nat → List User × Nat,
        (∀ k, list_page (plan k) s (k * limit) limit filter = .ok (pages k)) ∧
        (gather (fun k _ => pages k) limit).Perm users) ↔
    RolesKnown s filter ∧ ∀ k, ¬ Splits UserModel.order_key (users_select_filtered s filter) (k * limit) := by
  have hnodup : (users_select_filtered s filter).Nodup := s.users.nodup.filter _
  rw [← gathered_perm_iff hnodup hlimit]
  constructor
  · rintro ⟨users, husers, hgathers⟩
    have hroles : RolesKnown s filter := exists_mapM_model_to_user.mp ⟨users, husers⟩
    refine ⟨hroles, fun plan => ?_⟩
    obtain ⟨pages, hpages, hperm⟩ := hgathers plan
    exact (gather_users_perm_iff hroles hpages husers).mp hperm
  · rintro ⟨hroles, hperm⟩
    obtain ⟨users, husers⟩ := exists_mapM_model_to_user.mpr hroles
    refine ⟨users, husers, fun plan => ?_⟩
    choose pages hpages using fun k => exists_list_page hroles (plan k) (k * limit) limit
    exact ⟨pages, hpages, (gather_users_perm_iff hroles hpages husers).mpr (hperm plan)⟩

end accounts

/-- For each of the four lists, whatever the database makes of rows with one sort key in each of the
queries: the pages of an unchanged table hold each selected row once exactly when none of them
begins in the middle of rows with one sort key (and, for users, when the rows selected have known
roles). -/
theorem pages_complete_iff {limit : Nat} (hlimit : 1 ≤ limit) (s : Store F)
    (exception_requests : Table ExceptionRequestModel) (a : accounts.AccountStore) :
    (∀ filter, (∀ plan : Nat → Plan MissionModel.order_key,
      (gather (fun k skip => MissionRepositoryImpl.list_page (plan k) s skip limit filter) limit).Perm
        ((MissionRepositoryImpl.mission_select_filtered s filter).map mission_to_domain)) ↔
      ∀ k, ¬ Splits MissionModel.order_key (MissionRepositoryImpl.mission_select_filtered s filter) (k * limit)) ∧
    (∀ filter, (∀ plan : Nat → Plan ExceptionRequestModel.order_key,
      (gather (fun k skip =>
        ExceptionRequestRepositoryImpl.list_page (plan k) exception_requests skip limit filter) limit).Perm
          ((ExceptionRequestRepositoryImpl.exception_select_filtered exception_requests filter).map
            exception_request_to_domain)) ↔
      ∀ k, ¬ Splits ExceptionRequestModel.order_key
        (ExceptionRequestRepositoryImpl.exception_select_filtered exception_requests filter) (k * limit)) ∧
    (∀ filter, (∀ plan : Nat → Plan EstablishmentModel.order_key,
      (gather (fun k skip => EstablishmentRepositoryImpl.list_page (plan k) s skip limit filter) limit).Perm
        ((EstablishmentRepositoryImpl.establishment_select_filtered s filter).map establishment_to_domain)) ↔
      ∀ k, ¬ Splits EstablishmentModel.order_key
        (EstablishmentRepositoryImpl.establishment_select_filtered s filter) (k * limit)) ∧
    ∀ filter, (∃ users, (accounts.UserAuthRepositoryImpl.users_select_filtered a filter).mapM
        accounts.model_to_user = .ok users ∧
      ∀ plan : Nat → Plan accounts.UserModel.order_key, ∃ pages : Nat → List accounts.User × Nat,
        (∀ k, accounts.UserAuthRepositoryImpl.list_page (plan k) a (k * limit) limit filter = .ok (pages k)) ∧
        (gather (fun k _ => pages k) limit).Perm users) ↔
      accounts.UserAuthRepositoryImpl.RolesKnown a filter ∧
        ∀ k, ¬ Splits accounts.UserModel.order_key
          (accounts.UserAuthRepositoryImpl.users_select_filtered a filter) (k * limit) :=
  ⟨fun _ => gather_filter_perm_iff s.missions _ mission_to_domain (fun m => m.id) (fun _ => rfl) hlimit,
    fun _ => gather_filter_perm_iff exception_requests _ exception_request_to_domain (fun e => e.id)
      (fun _ => rfl) hlimit,
    fun _ => gather_filter_perm_iff s.establishments _ establishment_to_domain (fun est => est.id)
      (fun _ => rfl) hlimit,
    fun _ => accounts.gather_users_iff hlimit⟩

namespace pilot

/-- A mission with the window of the pilot mission, as an import makes many of them. -/
def twin : MissionModel := { mission with id := ⟨"twin"⟩, host_token := ⟨"twin-token"⟩ }

noncomputable def twins : Store ℝ :=
  { opened with missions := ⟨[mission, twin], by decide⟩ }

/-- A plan that meets the rows from the last one on. -/
def from_the_last : Plan MissionModel.order_key where
  order_by rows := (Plan.by_insertion MissionModel.order_key).order_by rows.reverse
  perm rows := ((Plan.by_insertion MissionModel.order_key).perm rows.reverse).trans rows.reverse_perm
  sorted rows := (Plan.by_insertion MissionModel.order_key).sorted rows.reverse

/-- The first page follows one plan, the others another. -/
def changing (k : Nat) : Plan MissionModel.order_key := if k = 0 then .by_insertion _ else from_the_last

end pilot

/-- Of two missions with one window, pages of one row show the first twice and the other never. -/
theorem mission_listed_twice :
    MissionRepositoryImpl.mission_select_filtered pilot.twins {} = [pilot.mission, pilot.twin] ∧
    gather (fun k skip => MissionRepositoryImpl.list_page (pilot.changing k) pilot.twins skip 1 {}) 1 =
      [mission_to_domain pilot.mission, mission_to_domain pilot.mission] ∧
    ¬ (gather (fun k skip => MissionRepositoryImpl.list_page (pilot.changing k) pilot.twins skip 1 {}) 1).Perm
      ((MissionRepositoryImpl.mission_select_filtered pilot.twins {}).map mission_to_domain) := by
  have hselected : MissionRepositoryImpl.mission_select_filtered pilot.twins {} = [pilot.mission, pilot.twin] := rfl
  have hlisted : gather (fun k skip => MissionRepositoryImpl.list_page (pilot.changing k) pilot.twins skip 1 {}) 1 =
      [mission_to_domain pilot.mission, mission_to_domain pilot.mission] := by
    unfold gather MissionRepositoryImpl.list_page
    rw [hselected]
    decide
  refine ⟨hselected, hlisted, ?_⟩
  rw [hlisted, hselected]
  decide

/-- The only mission of the pilot site is listed, with the same plans. -/
theorem pilot_mission_listed :
    (gather (fun k skip => MissionRepositoryImpl.list_page (pilot.changing k) pilot.planned skip 1 {}) 1).Perm
      [mission_to_domain pilot.mission] := by
  refine (((pages_complete_iff le_rfl pilot.planned .empty .empty).1 {}).mpr fun k hsplit => ?_) pilot.changing
  obtain ⟨a, -, hbefore, hthrough⟩ := hsplit
  have hlength : through MissionModel.order_key [pilot.mission] a ≤ 1 := through_le_length
  have hselected : MissionRepositoryImpl.mission_select_filtered pilot.planned {} = [pilot.mission] := rfl
  rw [hselected] at hthrough
  omega

end sigis
