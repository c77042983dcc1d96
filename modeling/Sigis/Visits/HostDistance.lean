import Sigis.Domain.GreatCircle
import Sigis.Visits.Admission
import Sigis.Visits.Timeline

open guarded relational transactional transition

namespace sigis

variable {F : Type} [LinearOrder F] [NatCast F]

/-- On its way, the run opened the visit by this check-in, in the zone of this establishment. -/
def OpenedBy (w : World F) (init : Store F) (calls : List (Call F)) (s : Store F) (site_visit_id : UUID)
    (cmd : CheckInInspectorCommand F) (est : EstablishmentModel F) : Prop :=
  ∃ x env y m visit, Takes (Served w) init calls s x ⟨.check_in cmd, env⟩ y ∧ CheckedIn w env cmd x m est visit y ∧
    x.site_visits.get site_visit_id = none ∧ ∃ v, y.site_visits.get site_visit_id = some v

section opened

variable {w : World F} {init s : Store F} {calls : List (Call F)} {v : SiteVisitModel F}

/-- Every visit was opened by a check-in of the run, within the larger radius, and keeps its position. -/
theorem exists_openedBy (hvisits : init.site_visits.rows = []) (hrun : Run w init calls s)
    (hv : v ∈ s.site_visits.rows) :
    ∃ arrive est, OpenedBy w init calls s v.id arrive est ∧ v.inspector_lat = some arrive.latitude ∧
      v.inspector_lon = some arrive.longitude ∧
      w.haversine_m arrive.latitude arrive.longitude est.center_lat est.center_lon ≤
        max est.radius_strict_m est.radius_relaxed_m := by
  obtain ⟨d, rfl, hd⟩ := filed_of_run hrun hvisits v hv
  obtain ⟨x, arrive, env, y, m, est, visit, htakes, hin, hnew, harrival⟩ := exists_arrival hvisits hrun hd
  obtain ⟨earlier, -, hearlier⟩ := htakes.before
  have hopened := (hin.refines (filed_of_run hearlier hvisits) htakes.taken.1).1
  have hzone := geofence_status_ne_rejected_iff.mp hin.admits.geofence
  rw [d.inspector_lat_visit, d.inspector_lon_visit, d.id_visit, harrival]
  rw [harrival] at hnew
  exact ⟨arrive, est, ⟨x, env, y, m, visit, htakes, hin, Table.get_eq_none_iff.mpr hnew, _,
    Table.get_of_mem hopened.visit⟩, rfl, rfl, hzone⟩

end opened

section near

variable {w : World F} {init s t : Store F} {calls : List (Call F)} {call : Call F} {env : Env} {v : SiteVisitModel F}
  {m : MissionModel} {est : EstablishmentModel F} {r : Response F}

/-- A visit confirmed by position holds one within a hundred metres of the inspector's. -/
def SiteVisitModel.HostNear (w : World F) (v : SiteVisitModel F) : Prop :=
  v.host_validation_mode = some .APP_GPS → v.status = .COPRESENCE_OK ∨ v.status = .COMPLETED →
    ∃ inspector_lat inspector_lon latitude longitude, v.inspector_lat = some inspector_lat ∧
      v.inspector_lon = some inspector_lon ∧ v.host_lat = some latitude ∧ v.host_lon = some longitude ∧
      w.haversine_m inspector_lat inspector_lon latitude longitude ≤ ((100 : ℕ) : F)

theorem HostConfirmed.hostNear {cmd : ConfirmHostCommand F} {mode : HostValidationMode} {host : Option (F × F)}
    {consumed : List (Write F)} {latitude longitude : F}
    (h : HostConfirmed w env cmd s v m est mode host consumed latitude longitude t) :
    (v.assigned (ConfirmHostPresence.visit v host)).HostNear w := by
  rw [SiteVisitModel.assigned_confirmed]
  intro hmode _
  have hgps : v.host_validation_mode = some .APP_GPS := hmode
  rw [h.admits.validation_mode] at hgps
  cases hgps
  cases h.admits.accepts with
  | app_gps _ _ hlat hlon _ _ hdistance => exact ⟨_, _, _, _, hlat, hlon, rfl, rfl, hdistance⟩

theorem CheckedOut.hostNear {cmd : CheckOutCommand} (h : CheckedOut env cmd s v m t) (hv : v.HostNear w) :
    (v.assigned (CheckOutVisit.visit env v)).HostNear w := by
  rw [SiteVisitModel.assigned_checked_out v env h.admits.open_visit]
  intro hmode _
  exact hv hmode (Or.inl h.admits.validated)

/-- A request that returns keeps the hosts near the inspectors. -/
theorem Outcome.hosts_near (h : Outcome w call s r t) (hfresh : call.env.Fresh s)
    (hs : ∀ v ∈ s.site_visits.rows, v.HostNear w) : ∀ v ∈ t.site_visits.rows, v.HostNear w := by
  intro v hv
  rcases h.visit_cases hv with hold | ⟨cmd, m, est, visit, -, hin, rfl⟩ |
    ⟨cmd, confirmed, m, est, mode, host, consumed, latitude, longitude, -, hconfirmed, rfl⟩ |
    ⟨cmd, closed, m, -, hout, rfl⟩
  · exact hs v hold
  · -- The visit of a check-in waits for its host.
    intro _ hstatus
    rw [(hin.saved_row hfresh).2.1] at hstatus
    rcases hstatus with hstatus | hstatus <;> cases hstatus
  · exact hconfirmed.hostNear
  · exact hout.hostNear (hs closed hout.visits.stored)

theorem hosts_near_of_run (hvisits : init.site_visits.rows = []) (hrun : Run w init calls s) :
    ∀ v ∈ s.site_visits.rows, v.HostNear w := by
  refine invariant_of_outcomes (fun s => ∀ v ∈ s.site_visits.rows, v.HostNear w) hrun ?_ ?_
  · intro v hv
    rw [hvisits] at hv
    cases hv
  · intro s call r t hs hfresh houtcome
    exact houtcome.hosts_near hfresh hs

end near

section earth

variable {settings : AppSettings} {jwt : PyJWT} {env : Env} {cmd : ConfirmHostCommand ℝ} {init s t : Store ℝ}
  {calls : List (Call ℝ)} {v : SiteVisitModel ℝ} {r : Response ℝ}

/-- The position a visit was confirmed at is within the larger radius, and a hundred metres, of the centre of the zone
it was opened in. -/
def HostNearZone (settings : AppSettings) (jwt : PyJWT) (init : Store ℝ) (calls : List (Call ℝ)) (s : Store ℝ)
    (v : SiteVisitModel ℝ) : Prop :=
  ∃ arrive est latitude longitude, OpenedBy (World.earth settings jwt) init calls s v.id arrive est ∧
    v.host_lat = some latitude ∧ v.host_lon = some longitude ∧
    haversine_m est.center_lat est.center_lon latitude longitude ≤
      max est.radius_strict_m est.radius_relaxed_m + ((100 : ℕ) : ℝ)

/-- A host is near the inspector, and the inspector was near the centre. -/
theorem host_near_zone (hvisits : init.site_visits.rows = []) (hrun : Run (World.earth settings jwt) init calls s)
    (hv : v ∈ s.site_visits.rows) (hmode : v.host_validation_mode = some .APP_GPS)
    (hstatus : v.status = .COPRESENCE_OK ∨ v.status = .COMPLETED) : HostNearZone settings jwt init calls s v := by
  obtain ⟨arrive, est, hopened, hlat, hlon, hzone⟩ := exists_openedBy hvisits hrun hv
  obtain ⟨_, _, latitude, longitude, hilat, hilon, hhlat, hhlon, hdistance⟩ :=
    hosts_near_of_run hvisits hrun v hv hmode hstatus
  obtain rfl := Option.some.inj (hilat.symm.trans hlat)
  obtain rfl := Option.some.inj (hilon.symm.trans hlon)
  refine ⟨arrive, est, latitude, longitude, hopened, hhlat, hhlon, ?_⟩
  have hcentre : haversine_m est.center_lat est.center_lon arrive.latitude arrive.longitude ≤
      max est.radius_strict_m est.radius_relaxed_m := by
    rw [haversine_m_comm]
    exact hzone
  calc haversine_m est.center_lat est.center_lon latitude longitude
      ≤ haversine_m est.center_lat est.center_lon arrive.latitude arrive.longitude +
          haversine_m arrive.latitude arrive.longitude latitude longitude := haversine_m_triangle
    _ ≤ max est.radius_strict_m est.radius_relaxed_m + ((100 : ℕ) : ℝ) := add_le_add hcentre hdistance

/-- A confirmation by position that succeeds stores the position it was given. -/
theorem stored_of_confirm_host (hfresh : env.Fresh s) (hrecord : s.recorded cmd.scope cmd.client_request_id = none)
    (hv : s.site_visits.get cmd.site_visit_id = some v) (hmode : v.host_validation_mode = some .APP_GPS)
    (hexec : exec (World.earth settings jwt) ⟨.confirm_host cmd, env⟩ s = (.ok r, t)) :
    ∃ v', t.site_visits.get cmd.site_visit_id = some v' ∧ v'.host_validation_mode = some .APP_GPS ∧
      v'.status = .COPRESENCE_OK ∧ v'.host_lat = cmd.latitude ∧ v'.host_lon = cmd.longitude := by
  obtain ⟨_, _, _, _, _, _, _, _, hconfirmed, -⟩ := host_confirmed_of_exec hfresh hrecord hexec
  have hvisit := hconfirmed.admits.visit
  obtain rfl := Option.some.inj (hvisit.symm.trans hv)
  obtain rfl := Option.some.inj (hconfirmed.admits.validation_mode.symm.trans hmode)
  have hstored := hconfirmed.effects.visits.get_self
  rw [Table.key_of_get hvisit, if_pos rfl, if_pos rfl] at hstored
  exact ⟨_, hstored, hmode, rfl, rfl, rfl⟩

end earth

/-- Over the reals, for all latitudes and longitudes: the formula is defined, and is a distance along the surface of a
sphere. Therefore, in every run from a store without visits, a confirmation by position that succeeds places the host
within the larger radius and a hundred metres of the centre of the zone the visit was opened in, and every visit that
was so confirmed keeps its host there. -/
theorem haversine_m_is_distance :
    (∀ lat1 lon1 lat2 lon2 : ℝ, haversine_argument lat1 lon1 lat2 lon2 ∈ Set.Icc 0 1 ∧
      haversine_m lat1 lon1 lat2 lon2 =
        2 * 6371000 * Real.arcsin (min 1 (Real.sqrt (haversine_argument lat1 lon1 lat2 lon2))) ∧
      haversine_m lat1 lon1 lat2 lon2 = haversine_m lat2 lon2 lat1 lon1 ∧
      haversine_m lat1 lon1 lat1 lon1 = 0 ∧
      haversine_m lat1 (lon1 + 360) lat2 lon2 = haversine_m lat1 lon1 lat2 lon2 ∧
      haversine_m lat1 lon1 lat2 (lon2 + 360) = haversine_m lat1 lon1 lat2 lon2 ∧
      haversine_m lat1 lon1 lat2 lon2 ≤ Real.pi * 6371000 ∧
      ∀ lat3 lon3, haversine_m lat1 lon1 lat3 lon3 ≤
        haversine_m lat1 lon1 lat2 lon2 + haversine_m lat2 lon2 lat3 lon3) ∧
    ∀ {settings : AppSettings} {jwt : PyJWT} {init s : Store ℝ} {calls : List (Call ℝ)},
      init.site_visits.rows = [] → Run (World.earth settings jwt) init calls s →
      (∀ {env cmd v r t}, env.Fresh s → s.recorded cmd.scope cmd.client_request_id = none →
        s.site_visits.get cmd.site_visit_id = some v → v.host_validation_mode = some .APP_GPS →
        exec (World.earth settings jwt) ⟨.confirm_host cmd, env⟩ s = (.ok r, t) →
        ∃ v', t.site_visits.get cmd.site_visit_id = some v' ∧ v'.host_lat = cmd.latitude ∧
          v'.host_lon = cmd.longitude ∧
          HostNearZone settings jwt init (calls ++ [⟨.confirm_host cmd, env⟩]) t v') ∧
      ∀ v ∈ s.site_visits.rows, v.host_validation_mode = some .APP_GPS →
        v.status = .COPRESENCE_OK ∨ v.status = .COMPLETED → HostNearZone settings jwt init calls s v := by
  refine ⟨?_, ?_⟩
  · intro lat1 lon1 lat2 lon2
    exact ⟨haversine_argument_mem_Icc, haversine_m_eq _ _ _ _, haversine_m_comm, haversine_m_self _ _,
      haversine_m_add_360_left, haversine_m_add_360_right, haversine_m_le, fun lat3 lon3 => haversine_m_triangle⟩
  · intro settings jwt init s calls hvisits hrun
    refine ⟨?_, fun v hv hmode hstatus => host_near_zone hvisits hrun hv hmode hstatus⟩
    intro env cmd v r t hfresh hrecord hv hmode hexec
    obtain ⟨v', hv', hmode', hstatus, hlat, hlon⟩ := stored_of_confirm_host hfresh hrecord hv hmode hexec
    have hserved : Served (World.earth settings jwt) s ⟨.confirm_host cmd, env⟩ t :=
      ⟨hfresh, congrArg Prod.snd hexec⟩
    exact ⟨v', hv', hlat, hlon, host_near_zone hvisits (hrun.snoc hserved) (Table.mem_of_get hv') hmode'
      (Or.inl hstatus)⟩

namespace pilot

/-- The inspector arrives, and will have the host confirm by position. -/
noncomputable def arrive_gps : CheckInInspectorCommand ℝ := { arrive "arrive-1" with host_validation_mode := .APP_GPS }

noncomputable def visit_gps : SiteVisitModel ℝ := { visit with host_validation_mode := some .APP_GPS }

noncomputable def arrived_gps : Store ℝ :=
  { arrived with site_visits := ⟨[visit_gps], List.pairwise_singleton _ _⟩ }

theorem checked_in_gps : CheckedIn world (surroundings "1" 10) arrive_gps planned mission school
    (CheckInInspector.visit (surroundings "1" 10) arrive_gps none) arrived_gps where
  unrecorded := rfl
  admits :=
    have h := admits_arrive_planned "arrive-1" "1"
    ⟨h.mission, h.approved, h.inspector, h.establishment, h.window, h.geofence, h.visit⟩
  visit_eq := rfl
  visits := Or.inl ⟨rfl, Table.insert_eq_some_iff.mpr ⟨by simp [planned, opened], rfl⟩⟩
  proofs := checked_in.proofs
  records := checked_in.records
  frame := rfl

theorem served_arrive_gps : Served world planned ⟨.check_in arrive_gps, surroundings "1" 10⟩ arrived_gps :=
  (Outcome.check_in checked_in_gps).served (by decide)

/-- The host stands where the inspector does. -/
noncomputable def confirm_gps : ConfirmHostCommand ℝ :=
  { confirm "host" "confirm-1" with
    qr_token := none
    latitude := some 0
    longitude := some 0 }

theorem confirmed_gps :
    ∃ r t, exec world ⟨.confirm_host confirm_gps, surroundings "2" 20⟩ arrived_gps = (.ok r, t) := by
  have hdistance : world.haversine_m 0 0 0 0 ≤ ((100 : ℕ) : ℝ) := by
    change haversine_m 0 0 0 0 ≤ _
    rw [haversine_m_self]
    positivity
  have hadmits : ConfirmHostPresence.Admits world (surroundings "2" 20) confirm_gps arrived_gps visit_gps mission school
      .APP_GPS (some (0, 0)) [] 0 0 :=
    { visit := rfl
      mission_id := rfl
      mission := rfl
      approved := by decide
      establishment := rfl
      authorised := by
        intro user_id h
        cases h
      validation_mode := rfl
      accepts := .app_gps rfl rfl rfl rfl rfl (by decide) hdistance
      pending := rfl
      latitude := rfl
      longitude := rfl }
  have hfresh : (surroundings "2" 20).Fresh arrived_gps := by decide
  obtain ⟨t, hconfirmed, -⟩ := hadmits.served hfresh rfl
  exact ⟨_, t, (Outcome.confirm_host hconfirmed).exec hfresh⟩

end pilot

/-- The host of the pilot school confirms by position, near the school. -/
theorem pilot_host_near_zone : ∃ r t, exec pilot.world ⟨.confirm_host pilot.confirm_gps, pilot.surroundings "2" 20⟩
      pilot.arrived_gps = (.ok r, t) ∧
    ∃ v ∈ t.site_visits.rows, v.host_lat = some 0 ∧ v.host_lon = some 0 ∧
      HostNearZone pilot.world.settings pilot.world.jwt pilot.planned
        [⟨.check_in pilot.arrive_gps, pilot.surroundings "1" 10⟩,
          ⟨.confirm_host pilot.confirm_gps, pilot.surroundings "2" 20⟩]
        t v := by
  have hfresh : (pilot.surroundings "2" 20).Fresh pilot.arrived_gps := by decide
  obtain ⟨r, t, hexec⟩ := pilot.confirmed_gps
  have hnear := (haversine_m_is_distance.2 rfl (.single pilot.served_arrive_gps)).1 hfresh rfl
    (show _ = some pilot.visit_gps from rfl) rfl hexec
  obtain ⟨v, hv, hlat, hlon, hzone⟩ := hnear
  exact ⟨r, t, hexec, v, Table.mem_of_get hv, hlat, hlon, hzone⟩

end sigis
