import Mathlib.Data.Fintype.EquivFin
import Sigis.Missions.Placed
import Sigis.Visits.HostDistance
import Sigis.Visits.Lifecycle
import Sigis.Visits.Stages

open guarded relational transactional transition

namespace sigis

variable {F : Type} {s t : Store F} {v : SiteVisitModel F} {m : MissionModel} {now : Int}

/-- The visit waits for a host who has to be near the inspector, and the time for it is over. -/
def SiteVisitModel.Expired (v : SiteVisitModel F) (now : Int) : Prop :=
  v.status = .PENDING_HOST ∧ v.host_validation_mode = some .APP_GPS ∧
    ∀ arrived, v.checked_in_at = some arrived → minutes 15 < now - arrived.instant

theorem SiteVisitModel.Expired.later {later : Int} (h : v.Expired now) (hle : now ≤ later) : v.Expired later := by
  obtain ⟨hstatus, hmode, harrived⟩ := h
  exact ⟨hstatus, hmode, fun arrived heq => (harrived arrived heq).trans_le (Int.sub_le_sub_right hle _)⟩

section stuck

variable [LinearOrder F] [NatCast F] {w : World F} {call : Call F} {r : Response F} {calls : List (Call F)}

omit [LinearOrder F] [NatCast F] in
theorem mem_of_replaces_other {old new : SiteVisitModel F} (h : Table.Replaces s.site_visits old new t.site_visits)
    (hv : v ∈ s.site_visits.rows) (hne : v.status ≠ old.status) : v ∈ t.site_visits.rows := by
  refine h.mem_iff.mpr (Or.inl ⟨hv, fun hid => hne ?_⟩)
  rw [s.site_visits.eq_of_key hv h.stored hid]

/-- Once the time is over no request changes the visit. -/
theorem Outcome.expired_stays (h : Outcome w call s r t) (hfresh : call.env.Fresh s) (hv : v ∈ s.site_visits.rows)
    (hexpired : v.Expired call.env.now) : v ∈ t.site_visits.rows := by
  obtain ⟨hstatus, hmode, harrived⟩ := hexpired
  cases h with
  | @check_in cmd env _ m est visit _ h =>
    obtain ⟨-, -, hold⟩ := h.saved_row hfresh
    refine h.visits.mem_iff.mpr (Or.inl ⟨hv, fun hid => ?_⟩)
    have hscheduled := (hold v hv hid).2
    rw [hstatus] at hscheduled
    cases hscheduled
  | @confirm_host cmd env _ old m est mode host consumed latitude longitude _ h =>
    refine h.visits.mem_iff.mpr (Or.inl ⟨hv, fun hid => ?_⟩)
    obtain rfl : v = old := s.site_visits.eq_of_key hv h.visits.stored hid
    obtain rfl : mode = .APP_GPS := Option.some.inj (h.admits.validation_mode.symm.trans hmode)
    cases h.admits.accepts with
    | app_gps _ _ _ _ heq hdelay => exact absurd hdelay (not_le.mpr (harrived _ heq))
  | check_out h =>
    refine mem_of_replaces_other h.visits hv ?_
    rw [hstatus, h.admits.validated]
    decide
  | _ => exact hv

/-- Nor does any run of them whose clocks do not go back. -/
theorem expired_stays_of_run (hrun : Run w s calls t) (hclock : ∀ call ∈ calls, now ≤ call.env.now)
    (hv : v ∈ s.site_visits.rows) (hexpired : v.Expired now) : v ∈ t.site_visits.rows := by
  refine hrun.invariant_of_takes (fun t => v ∈ t.site_visits.rows) hv ?_
  intro x call y htakes hx
  rcases htakes.taken.outcome with rfl | ⟨r, houtcome⟩
  · exact hx
  · exact houtcome.expired_stays htakes.taken.1 hx (hexpired.later (hclock call htakes.mem))

end stuck

theorem exists_fresh_id (s : Store F) : ∃ id : UUID, id ∉ s.identifiers := by
  have hinj : Function.Injective UUID.mk := fun a b h => congrArg UUID.str h
  have hinfinite : Infinite UUID := .of_injective UUID.mk hinj
  obtain ⟨id, hid⟩ := Infinite.exists_notMem_finset s.identifiers.toFinset
  exact ⟨id, fun hmem => hid (List.mem_toFinset.mpr hmem)⟩

/-- The surroundings of a request at this time. -/
theorem exists_env (s : Store F) (now : Int) : ∃ env : Env, env.now = now ∧ env.Fresh s := by
  obtain ⟨id, hid⟩ := exists_fresh_id s
  refine ⟨⟨now, now, now, now, id, id, id, id, id, id, id⟩, rfl, fun drawn hdrawn => ?_⟩
  have hsame : drawn = id := by simpa [Env.drawn] using hdrawn
  exact hsame ▸ hid

/-- A key the client has not used. -/
theorem exists_unrecorded (s : Store F) (scope : String) : ∃ key, s.recorded scope key = none := by
  obtain ⟨key, hkey⟩ := Infinite.exists_notMem_finset (s.idempotency_records.rows.map fun r => r.client_key).toFinset
  refine ⟨key, Store.recorded_eq_none_iff.mpr fun r hr hsame => hkey ?_⟩
  exact List.mem_toFinset.mpr (List.mem_map.mpr ⟨r, hr, hsame.2⟩)

section complete

variable [LinearOrder F] [NatCast F] {w : World F} {est : EstablishmentModel F}

/-- The mission is planned for this instant, and has a code. -/
def reopening (now : Int) : UpdateMissionBody where
  window_start := some ⟨now, none⟩
  window_end := some ⟨now, none⟩
  status := some MissionStatus.PLANNED.value
  sms_code := some "000000"

theorem bound_column_of_naive_now {loaded : datetime} :
    bound_column datetime.stored loaded ⟨now, none⟩ loaded = ⟨now, none⟩ := by
  unfold bound_column
  split
  · next heq => exact heq.symm
  · rfl

/-- What a confirmation at this instant asks of a mission. -/
structure MissionModel.Ready (m : MissionModel) (now : Int) : Prop where
  status : m.status ≠ .DRAFT
  window : in_window (datetime.utc now) m.window_start m.window_end
  sms_code : m.sms_code = some "000000"

theorem exists_reopened (hm : s.missions.get m.id = some m) (now : Int) :
    ∃ call t m', call.env.now = now ∧ Served w s call t ∧ t.site_visits = s.site_visits ∧
      t.missions.get m.id = some m' ∧ m'.Ready now := by
  obtain ⟨env, hnow, hfresh⟩ := exists_env s now
  let mission := (reopening now).apply_to (mission_to_domain m) .PLANNED
  obtain ⟨missions, hmissions⟩ := Table.exists_replaces
    (MissionModel.keeps_flush m (apply_mission_to_row mission m)) (Table.mem_of_get hm)
  have hstatus : (reopening now).new_status m.status = .ok .PLANNED := by
    rw [UpdateMissionBody.new_status, reopening]
    simp only [MissionStatus.of_value_value, get_or_raise_some]
  have houtcome : Outcome w ⟨.update_mission m.id (reopening now), env⟩ s (.mission mission)
      { s with missions := missions } := .update_mission hm hstatus hmissions
  refine ⟨_, _, m.assigned mission, hnow, houtcome.served hfresh, rfl, hmissions.get_self, ?_, ?_, column_loaded⟩
  · rw [MissionModel.status_assigned]
    exact show MissionStatus.PLANNED ≠ .DRAFT by decide
  · have hstart : (m.assigned mission).window_start = ⟨now, none⟩ := bound_column_of_naive_now
    have hend : (m.assigned mission).window_end = ⟨now, none⟩ := bound_column_of_naive_now
    rw [in_window_iff, hstart, hend, datetime.instant_utc]
    exact ⟨(Int.sub_zero now).le, (Int.sub_zero now).ge⟩

/-- Somebody who may confirm is beside the inspector, with the code of the mission and its token. -/
def beside (v : SiteVisitModel F) (m : MissionModel) (est : EstablishmentModel F) (client_request_id : String) :
    ConfirmHostCommand F where
  site_visit_id := v.id
  mission_id := v.mission_id
  host_user_id := (designated_host m est).getD ⟨"host"⟩
  client_request_id := client_request_id
  latitude := v.inspector_lat
  longitude := v.inspector_lon
  qr_token := some m.host_token
  sms_code := some "000000"

theorem accepts_beside (est : EstablishmentModel F)
    (hhere : ∀ latitude longitude, w.haversine_m latitude longitude latitude longitude ≤ ((100 : ℕ) : F))
    (hconsistent : s.Consistent v) (hready : m.Ready now) (hpending : v.status = .PENDING_HOST)
    (hexpired : ¬ v.Expired now) {env : Env} (hnow : env.now = now) (client_request_id : String) :
    ∃ mode host, v.host_validation_mode = some mode ∧
      ConfirmHostPresence.Accepts w env (beside v m est client_request_id) s v m mode host [] := by
  obtain ⟨hmode, harrived, hlat, hlon⟩ := hconsistent.arrival
  obtain ⟨mode, hmode⟩ := Option.isSome_iff_exists.mp hmode
  obtain ⟨arrived, harrived⟩ := Option.isSome_iff_exists.mp harrived
  obtain ⟨latitude, hlat⟩ := Option.isSome_iff_exists.mp hlat
  obtain ⟨longitude, hlon⟩ := Option.isSome_iff_exists.mp hlon
  subst hnow
  cases mode with
  | APP_GPS =>
    have hdelay : env.now - arrived.instant ≤ minutes 15 := by
      by_contra hlate
      refine hexpired ⟨hpending, hmode, fun other hother => ?_⟩
      obtain rfl := Option.some.inj (harrived.symm.trans hother)
      exact not_le.mp hlate
    exact ⟨_, _, hmode, .app_gps hlat hlon hlat hlon harrived hdelay (hhere latitude longitude)⟩
  | QR_STATIC => exact ⟨_, _, hmode, .qr_token rfl rfl hready.window⟩
  | SMS_SHORTCODE => exact ⟨_, _, hmode, .sms rfl hready.sms_code (by decide) rfl hready.window⟩

theorem exists_confirmed
    (hhere : ∀ latitude longitude, w.haversine_m latitude longitude latitude longitude ≤ ((100 : ℕ) : F))
    (hv : v ∈ s.site_visits.rows) (hconsistent : s.Consistent v) (hm : s.missions.get v.mission_id = some m)
    (hest : s.establishments.get m.establishment_id = some est) (hready : m.Ready now)
    (hpending : v.status = .PENDING_HOST) (hexpired : ¬ v.Expired now) :
    ∃ call t v', call.env.now = now ∧ Served w s call t ∧ t.missions = s.missions ∧ v' ∈ t.site_visits.rows ∧
      v'.id = v.id ∧ v'.mission_id = v.mission_id ∧ v'.status = .COPRESENCE_OK ∧ v'.checked_out_at = none := by
  obtain ⟨env, hnow, hfresh⟩ := exists_env s now
  obtain ⟨key, hkey⟩ := exists_unrecorded s ("confirm_host:" ++ v.id.str)
  obtain ⟨mode, host, hmode, haccepts⟩ := accepts_beside est hhere hconsistent hready hpending hexpired hnow key
  obtain ⟨-, -, hlat, hlon⟩ := hconsistent.arrival
  obtain ⟨latitude, hlat⟩ := Option.isSome_iff_exists.mp hlat
  obtain ⟨longitude, hlon⟩ := Option.isSome_iff_exists.mp hlon
  have hadmits : ConfirmHostPresence.Admits w env (beside v m est key) s v m est mode host [] latitude longitude := by
    refine ⟨Table.get_of_mem hv, rfl, hm, hready.status, hest, ?_, hmode, haccepts, hpending, ?_, ?_⟩
    · intro user_id hdesignated
      simp [beside, hdesignated]
    · simp [beside, hlat]
    · simp [beside, hlon]
  obtain ⟨t, hconfirmed, hserved⟩ := hadmits.served hfresh hkey
  have hopen : v.checked_out_at = none := by
    have hdeparture := hconsistent.departure
    rw [hpending] at hdeparture
    exact Option.not_isSome_iff_eq_none.mp fun hsome => nomatch hdeparture.mp hsome
  refine ⟨_, t, _, hnow, hserved, ?_, hconfirmed.visits.mem_iff.mpr (Or.inr rfl), ?_⟩
  · rw [hconfirmed.frame]
  · rw [SiteVisitModel.assigned_confirmed]
    exact ⟨rfl, rfl, rfl, hopen⟩

theorem exists_checked_out (hv : v ∈ s.site_visits.rows) (hm : s.missions.get v.mission_id = some m)
    (hvalidated : v.status = .COPRESENCE_OK) (hopen : v.checked_out_at = none) (now : Int) :
    ∃ call t v', call.env.now = now ∧ Served w s call t ∧ v' ∈ t.site_visits.rows ∧ v'.id = v.id ∧
      v'.status = .COMPLETED := by
  obtain ⟨env, hnow, hfresh⟩ := exists_env s now
  obtain ⟨key, hkey⟩ := exists_unrecorded s ("check_out:" ++ v.id.str)
  have hadmits : CheckOutVisit.Admits ⟨v.id, v.mission_id, m.inspector_id, key⟩ s v m :=
    ⟨hm, rfl, Table.get_of_mem hv, rfl, hvalidated, hopen⟩
  obtain ⟨t, hout, hserved⟩ := hadmits.served (w := w) hfresh hkey
  refine ⟨_, t, _, hnow, hserved, hout.visits.mem_iff.mpr (Or.inr rfl), ?_⟩
  rw [SiteVisitModel.assigned_checked_out v env hopen]
  exact ⟨rfl, rfl⟩

/-- The visit that waits has its mission made ready again, then somebody beside the inspector confirms it. -/
theorem exists_confirmed_of_pending
    (hhere : ∀ latitude longitude, w.haversine_m latitude longitude latitude longitude ≤ ((100 : ℕ) : F))
    {init : Store F} {calls : List (Call F)} (hplaced : init.Placed) (hempty : init.site_visits.rows = [])
    (hrun : Run w init calls s) (hv : v ∈ s.site_visits.rows) (hm : s.missions.get v.mission_id = some m)
    (hpending : v.status = .PENDING_HOST) (hexpired : ¬ v.Expired now) :
    ∃ later t v' m', Run w s later t ∧ (∀ call ∈ later, now ≤ call.env.now) ∧ v' ∈ t.site_visits.rows ∧
      v'.id = v.id ∧ t.missions.get v'.mission_id = some m' ∧ v'.status = .COPRESENCE_OK ∧
      v'.checked_out_at = none := by
  have hid : m.id = v.mission_id := (Table.get_eq_some_iff.mp hm).2
  obtain ⟨patch, x, m', hpatch, hpatched, hvisits, hm', hready⟩ := exists_reopened (w := w) (hid ▸ hm) now
  have hrun' := hrun.snoc hpatched
  rw [← hvisits] at hv
  have hconsistent := (visits_consistent_of_run hempty hrun').2.1 v hv
  obtain ⟨est, hest⟩ := placed_of_run hrun' hplaced m' (Table.mem_of_get hm')
  rw [hid] at hm'
  obtain ⟨confirm, t, v', hconfirm, hconfirmed, hmissions, hv', hid', hmission, hstatus, hopen⟩ :=
    exists_confirmed hhere hv hconsistent hm' hest hready hpending hexpired
  refine ⟨_, t, v', m', (Execution.single hpatched).snoc hconfirmed, ?_, hv', hid', ?_, hstatus, hopen⟩
  · intro call hcall
    rcases List.mem_cons.mp hcall with rfl | hcall
    · exact hpatch.ge
    · exact List.mem_singleton.mp hcall ▸ hconfirm.ge
  · rw [hmissions, hmission]
    exact hm'

/-- A visit in a run from a store without visits, with every mission at an establishment there is, can still be
completed unless it has expired. -/
theorem exists_completed
    (hhere : ∀ latitude longitude, w.haversine_m latitude longitude latitude longitude ≤ ((100 : ℕ) : F))
    {init : Store F} {calls : List (Call F)} (hplaced : init.Placed) (hempty : init.site_visits.rows = [])
    (hrun : Run w init calls s) (hv : v ∈ s.site_visits.rows) (hexpired : ¬ v.Expired now) :
    ∃ later t, Run w s later t ∧ (∀ call ∈ later, now ≤ call.env.now) ∧
      ∃ v' ∈ t.site_visits.rows, v'.id = v.id ∧ v'.status = .COMPLETED := by
  have hconsistent := (visits_consistent_of_run hempty hrun).2.1 v hv
  rcases hconsistent.status with hpending | hvalidated | hcompleted
  · obtain ⟨⟨p, -, -, m, hm, -⟩, -⟩ := hconsistent.pending hpending
    obtain ⟨later, x, v', m', hlater, hclock, hv', hid', hm', hvalidated, hopen⟩ :=
      exists_confirmed_of_pending hhere hplaced hempty hrun hv hm hpending hexpired
    obtain ⟨out, t, v'', hnow, hout, hv'', hid'', hcompleted⟩ :=
      exists_checked_out (w := w) hv' hm' hvalidated hopen now
    refine ⟨_, t, hlater.snoc hout, ?_, v'', hv'', hid''.trans hid', hcompleted⟩
    intro call hcall
    rcases List.mem_append.mp hcall with hcall | hcall
    · exact hclock call hcall
    · exact List.mem_singleton.mp hcall ▸ hnow.ge
  · obtain ⟨p, q, e, -, ⟨-, m, hm, -⟩, -⟩ := hconsistent.confirmed (by rw [hvalidated]; decide)
    have hopen : v.checked_out_at = none :=
      Option.not_isSome_iff_eq_none.mp fun hsome => nomatch hvalidated ▸ hconsistent.departure.mp hsome
    obtain ⟨out, t, v', hnow, hout, hv', hid', hcompleted⟩ := exists_checked_out (w := w) hv hm hvalidated hopen now
    exact ⟨_, t, .single hout, fun call hcall => List.mem_singleton.mp hcall ▸ hnow.ge, v', hv', hid', hcompleted⟩
  · exact ⟨[], s, .refl, List.forall_mem_nil _, v, hv, rfl, hcompleted⟩

end complete

variable {settings : AppSettings} {jwt : PyJWT} {init s : Store ℝ} {calls : List (Call ℝ)} {v : SiteVisitModel ℝ}

/-- Whatever was served before, requests from now on can still bring a visit to its end, unless it waits in the mode
`APP_GPS` for a host whose quarter of an hour is over; and then none can. -/
theorem visit_completable_iff (hplaced : init.Placed) (hempty : init.site_visits.rows = [])
    (hrun : Run (World.earth settings jwt) init calls s) (hv : v ∈ s.site_visits.rows) (now : Int) :
    (∃ later t, Run (World.earth settings jwt) s later t ∧ (∀ call ∈ later, now ≤ call.env.now) ∧
      ∃ v' ∈ t.site_visits.rows, v'.id = v.id ∧ v'.status = .COMPLETED) ↔ ¬ v.Expired now := by
  constructor
  · rintro ⟨later, t, hlater, hclock, v', hv', hid, hcompleted⟩ hexpired
    have hstays := expired_stays_of_run hlater hclock hv hexpired
    obtain rfl : v' = v := t.site_visits.eq_of_key hv' hstays hid
    exact nomatch hexpired.1.symm.trans hcompleted
  · refine exists_completed ?_ hplaced hempty hrun hv
    intro latitude longitude
    change haversine_m latitude longitude latitude longitude ≤ _
    rw [haversine_m_self]
    exact Nat.cast_nonneg 100

/-- The pilot visit can be completed at any time, as its host shows a QR code; begun in the mode
`APP_GPS`, it no longer can after a quarter of an hour. -/
theorem pilot_visit_completable :
    (∃ later t, Run pilot.world pilot.arrived later t ∧ (∀ call ∈ later, 1000000000 ≤ call.env.now) ∧
      ∃ v' ∈ t.site_visits.rows, v'.id = pilot.visit.id ∧ v'.status = .COMPLETED) ∧
    ¬ ∃ later t, Run pilot.world pilot.arrived_gps later t ∧ (∀ call ∈ later, 1000000000 ≤ call.env.now) ∧
      ∃ v' ∈ t.site_visits.rows, v'.id = pilot.visit_gps.id ∧ v'.status = .COMPLETED := by
  have hplaced : pilot.planned.Placed := List.forall_mem_singleton.mpr ⟨pilot.school, rfl⟩
  constructor
  · refine (visit_completable_iff hplaced rfl (.single pilot.served_arrive) (List.mem_singleton.mpr rfl) _).mpr ?_
    rintro ⟨-, hmode, -⟩
    cases hmode
  · intro hcompletable
    have hexpired : pilot.visit_gps.Expired 1000000000 := by
      refine ⟨rfl, rfl, ?_⟩
      rintro arrived ⟨⟩
      decide
    exact (visit_completable_iff hplaced rfl (.single pilot.served_arrive_gps) (List.mem_singleton.mpr rfl) _).mp
      hcompletable hexpired

end sigis
