import Sigis.Visits.Lifecycle
import Sigis.Visits.Stages

open guarded relational transactional transition

namespace sigis

variable {F : Type} [LinearOrder F] [NatCast F] {w : World F} {env : Env} {s t : Store F} {m : MissionModel}
  {est : EstablishmentModel F} {r : Response F}

section check_in

variable {cmd : CheckInInspectorCommand F}

/-- What the rules ask of a check-in at a mission. -/
structure CheckInInspector.Rules (w : World F) (env : Env) (cmd : CheckInInspectorCommand F) (s : Store F)
    (m : MissionModel) : Prop where
  inspector : cmd.inspector_user_id = m.inspector_id
  window : m.window_start.instant ≤ env.now ∧ env.now ≤ m.window_end.instant
  zone : ∃ est, s.establishments.get m.establishment_id = some est ∧
    w.haversine_m cmd.latitude cmd.longitude est.center_lat est.center_lon ≤
      max est.radius_strict_m est.radius_relaxed_m
  visit : ∀ v ∈ s.site_visits.rows, v.mission_id = cmd.mission_id → v.status = .SCHEDULED

/-- The status a check-in answers: `OK` in the strict zone, and `APPROXIMATE` around it. -/
def CheckInInspector.zone_status (w : World F) (cmd : CheckInInspectorCommand F) (est : EstablishmentModel F) :
    GeofenceStatus :=
  if w.haversine_m cmd.latitude cmd.longitude est.center_lat est.center_lon ≤ est.radius_strict_m then .OK
  else .APPROXIMATE

def CheckInInspector.answer (w : World F) (cmd : CheckInInspectorCommand F) (est : EstablishmentModel F)
    (row : SiteVisitModel F) : Dict :=
  [("site_visit_id", .str row.id.str), ("geofence_status", .str (zone_status w cmd est).value),
    ("status", .str SiteVisitStatus.PENDING_HOST.value)]

/-- What a check-in that succeeds writes, and answers: one visit, new or in the place of a scheduled
one, one proof and one record. -/
structure CheckInInspector.Effects (w : World F) (env : Env) (cmd : CheckInInspectorCommand F) (s : Store F)
    (est : EstablishmentModel F) (row : SiteVisitModel F) (r : Response F) (t : Store F) : Prop where
  visits : s.site_visits.insert row = some t.site_visits ∨
    ∃ scheduled, scheduled.mission_id = cmd.mission_id ∧ scheduled.status = .SCHEDULED ∧
      Table.Replaces s.site_visits scheduled row t.site_visits
  mission_id : row.mission_id = cmd.mission_id
  status : row.status = .PENDING_HOST
  host_validation_mode : row.host_validation_mode = some cmd.host_validation_mode
  inspector_lat : row.inspector_lat = some cmd.latitude
  inspector_lon : row.inspector_lon = some cmd.longitude
  checked_in_at : ∃ arrived, row.checked_in_at = some arrived ∧ arrived.instant = env.now
  proofs : t.presence_proofs.rows = s.presence_proofs.rows ++ [⟨env.proof_id, row.id, cmd.inspector_user_id,
    (datetime.utc env.now).stored, cmd.latitude, cmd.longitude, zone_status w cmd est⟩]
  records : t.idempotency_records.rows = s.idempotency_records.rows ++ [⟨env.record_id, cmd.scope,
    cmd.client_request_id, (datetime.utc env.saved_at).stored, answer w cmd est row⟩]
  response : r = .payload (answer w cmd est row)
  frame : t = { s with
    site_visits := t.site_visits
    presence_proofs := t.presence_proofs
    idempotency_records := t.idempotency_records }

omit [NatCast F] in
/-- A position that is not rejected has the status of its zone. -/
theorem CheckInInspector.geofence_eq_zone_status (h : CheckInInspector.geofence w cmd est ≠ .REJECTED) :
    CheckInInspector.geofence w cmd est = zone_status w cmd est := by
  unfold zone_status
  by_cases hstrict : w.haversine_m cmd.latitude cmd.longitude est.center_lat est.center_lon ≤ est.radius_strict_m
  · rw [if_pos hstrict]
    exact geofence_status_eq_ok hstrict
  · rw [if_neg hstrict]
    have hle := geofence_status_ne_rejected_iff.mp h
    have hrelaxed := (le_max_iff.mp hle).resolve_left hstrict
    rw [CheckInInspector.geofence, geofence_status, if_neg hstrict, if_pos hrelaxed]

omit [NatCast F] in
/-- At a mission past its draft, the rules are what the code requires. -/
theorem CheckInInspector.rules_iff_admits (hm : s.missions.get cmd.mission_id = some m)
    (happroved : m.status ≠ .DRAFT) :
    CheckInInspector.Rules w env cmd s m ↔ ∃ m' est, CheckInInspector.Admits w env cmd s m' est := by
  constructor
  · rintro ⟨hinspector, hwindow, ⟨est, hest, hzone⟩, hvisit⟩
    refine ⟨m, est, hm, happroved, hinspector.symm, hest, ?_, geofence_status_ne_rejected_iff.mpr hzone, ?_⟩
    · rw [in_window_iff, datetime.instant_utc]
      exact hwindow
    · intro v hv
      obtain ⟨hmem, hmission⟩ := Store.visit_of_mission_eq_some_iff.mp hv
      exact hvisit v hmem hmission
  · rintro ⟨m', est, h⟩
    cases hm.symm.trans h.mission
    have hwindow := h.window
    rw [in_window_iff, datetime.instant_utc] at hwindow
    refine ⟨h.inspector.symm, hwindow, ⟨est, h.establishment, geofence_status_ne_rejected_iff.mp h.geofence⟩, ?_⟩
    intro v hv hmission
    exact h.visit v (Store.visit_of_mission_eq_some_iff.mpr ⟨hv, hmission⟩)

omit [NatCast F] in
/-- The row a check-in saves. -/
theorem CheckedIn.saved_row_fields {visit : SiteVisit F} (h : CheckedIn w env cmd s m est visit t) :
    (s.saved_row visit).status = .PENDING_HOST ∧
      (s.saved_row visit).host_validation_mode = some cmd.host_validation_mode ∧
      (s.saved_row visit).inspector_lat = some cmd.latitude ∧ (s.saved_row visit).inspector_lon = some cmd.longitude ∧
      ∃ arrived, (s.saved_row visit).checked_in_at = some arrived ∧ arrived.instant = env.now := by
  rw [h.visit_eq]
  unfold Store.saved_row
  split
  · exact ⟨rfl, rfl, rfl, rfl, _, rfl, datetime.instant_stored _⟩
  · next v _ =>
    refine ⟨SiteVisitModel.status_assigned _ _, ?_, ?_, ?_, ?_⟩
    · simp [SiteVisitModel.assigned, SiteVisitModel.flush, apply_site_visit_to_row, CheckInInspector.visit]
    · simp [SiteVisitModel.assigned, SiteVisitModel.flush, apply_site_visit_to_row, CheckInInspector.visit]
    · simp [SiteVisitModel.assigned, SiteVisitModel.flush, apply_site_visit_to_row, CheckInInspector.visit]
    · change ∃ arrived, bound_column (Option.map datetime.stored) v.checked_in_at (some (datetime.utc env.now))
        v.checked_in_at = some arrived ∧ arrived.instant = env.now
      unfold bound_column
      split
      · next heq => exact ⟨_, heq.symm, datetime.instant_utc _⟩
      · exact ⟨_, rfl, datetime.instant_stored _⟩

omit [NatCast F] in
theorem CheckedIn.effects {visit : SiteVisit F} (h : CheckedIn w env cmd s m est visit t) (hfresh : env.Fresh s) :
    CheckInInspector.Effects w env cmd s est (s.saved_row visit)
      (.payload (CheckInInspector.payload w cmd est visit.id)) t := by
  have hzone := CheckInInspector.geofence_eq_zone_status h.admits.geofence
  have hanswer : CheckInInspector.payload w cmd est visit.id =
      CheckInInspector.answer w cmd est (s.saved_row visit) := by
    rw [CheckInInspector.payload, CheckInInspector.answer, hzone, Store.SavesVisit.id_saved_row]
  obtain ⟨hmission, -, hold⟩ := h.saved_row hfresh
  obtain ⟨hstatus, hmode, hlat, hlon, harrived⟩ := h.saved_row_fields
  refine ⟨?_, hmission, hstatus, hmode, hlat, hlon, harrived, ?_, ?_, congrArg _ hanswer, h.frame⟩
  · unfold Store.saved_row
    rcases h.visits with ⟨hnone, hinsert⟩ | ⟨v, hv, hreplaces⟩
    · rw [hnone]
      exact Or.inl hinsert
    · rw [hv]
      obtain ⟨hvmission, hvstatus⟩ := hold v (Table.mem_of_get hv) (Table.key_of_get hv)
      exact Or.inr ⟨v, hvmission, hvstatus, hreplaces⟩
  · rw [Table.rows_insert h.proofs, Store.SavesVisit.id_saved_row, ← hzone]
    rfl
  · rw [Table.rows_insert h.records, hanswer]
    rfl

/-- A check-in at a mission that is planned or in progress, without recorded response, succeeds
exactly when the rules hold; it then has the effects listed and no others, and when it raises
the store is as it was, without a record of the request. -/
theorem check_in_accepts_iff (hfresh : env.Fresh s) (hm : s.missions.get cmd.mission_id = some m)
    (hopen : m.status = .PLANNED ∨ m.status = .IN_PROGRESS)
    (hrecord : s.recorded cmd.scope cmd.client_request_id = none) :
    ((∃ r t, exec w ⟨.check_in cmd, env⟩ s = (.ok r, t)) ↔ CheckInInspector.Rules w env cmd s m) ∧
    (∀ r t, exec w ⟨.check_in cmd, env⟩ s = (.ok r, t) →
      ∃ est row, s.establishments.get m.establishment_id = some est ∧
        CheckInInspector.Effects w env cmd s est row r t) ∧
    ∀ e t, exec w ⟨.check_in cmd, env⟩ s = (.error e, t) →
      t = s ∧ t.recorded cmd.scope cmd.client_request_id = none := by
  have happroved : m.status ≠ .DRAFT := by
    rcases hopen with h | h <;> rw [h] <;> decide
  rw [CheckInInspector.rules_iff_admits hm happroved]
  refine ⟨⟨?_, ?_⟩, ?_, ?_⟩
  · rintro ⟨r, t, h⟩
    obtain ⟨m', est, visit, hin, -⟩ := checked_in_of_exec hfresh hrecord h
    exact ⟨m', est, hin.admits⟩
  · rintro ⟨m', est, h⟩
    obtain ⟨visit, t, hin, -⟩ := h.served hfresh hrecord
    exact ⟨_, t, (Outcome.check_in hin).exec hfresh⟩
  · intro r t h
    obtain ⟨m', est, visit, hin, rfl⟩ := checked_in_of_exec hfresh hrecord h
    cases hm.symm.trans hin.admits.mission
    exact ⟨est, _, hin.admits.establishment, hin.effects hfresh⟩
  · intro e t h
    obtain rfl := store_of_exec_eq_error h
    exact ⟨rfl, hrecord⟩

/-- The inspector of the pilot mission checks in. -/
theorem pilot_check_in_accepted :
    ∃ r t, exec pilot.world ⟨.check_in (pilot.arrive "arrive-1"), pilot.surroundings "1" 10⟩
    pilot.planned = (.ok r, t) := by
  have hfresh : (pilot.surroundings "1" 10).Fresh pilot.planned := by decide
  have hadmits := pilot.admits_arrive_planned "arrive-1" "1"
  refine (check_in_accepts_iff hfresh (show pilot.planned.missions.get ⟨"mission"⟩ = some pilot.mission from rfl)
    (Or.inl rfl) rfl).1.mpr ?_
  exact (CheckInInspector.rules_iff_admits rfl (by decide)).mpr ⟨_, _, hadmits⟩

end check_in

section confirm_host

variable {cmd : ConfirmHostCommand F} {v : SiteVisitModel F} {mode : HostValidationMode}

/-- The clock is within the window of the mission. -/
def MissionModel.OpenAt (m : MissionModel) (now : Int) : Prop :=
  m.window_start.instant ≤ now ∧ now ≤ m.window_end.instant

/-- What each mode asks. A QR token in the form of a JWT is judged alone. -/
def ConfirmHostPresence.ModeRules (w : World F) (env : Env) (cmd : ConfirmHostCommand F) (s : Store F)
    (v : SiteVisitModel F) (m : MissionModel) : HostValidationMode → Prop
  | .APP_GPS => ∃ latitude longitude inspector_lat inspector_lon checked_in_at,
      cmd.latitude = some latitude ∧ cmd.longitude = some longitude ∧ v.inspector_lat = some inspector_lat ∧
      v.inspector_lon = some inspector_lon ∧ v.checked_in_at = some checked_in_at ∧
      env.now - checked_in_at.instant ≤ minutes 15 ∧
      w.haversine_m inspector_lat inspector_lon latitude longitude ≤ ((100 : ℕ) : F)
  | .QR_STATIC =>
      match cmd.qr_jwt with
      | some token => ∃ jti, verify_host_qr_jwt w.jwt w.settings token (mission_to_domain m) env.jwt_decoded_at
          env.jwt_verified_at = .ok jti ∧ ∀ used ∈ s.used_qr_jti.rows, used.jti ≠ jti
      | none => cmd.qr_token = some m.host_token ∧ m.OpenAt env.now
  | .SMS_SHORTCODE => ∃ sms_code expected, cmd.sms_code = some sms_code ∧ m.sms_code = some expected ∧
      expected ≠ "" ∧ strip sms_code = strip expected ∧ m.OpenAt env.now

/-- What the rules ask of a confirmation of a visit. -/
structure ConfirmHostPresence.Rules (w : World F) (env : Env) (cmd : ConfirmHostCommand F) (s : Store F)
    (m : MissionModel) (v : SiteVisitModel F) : Prop where
  visit : s.site_visits.get cmd.site_visit_id = some v
  mission_id : v.mission_id = cmd.mission_id
  status : v.status = .PENDING_HOST
  host : ∃ est, s.establishments.get m.establishment_id = some est ∧
    (m.designated_host_user_id = some cmd.host_user_id ∨ m.designated_host_user_id = none ∧
      (est.designated_host_user_id = some cmd.host_user_id ∨ est.designated_host_user_id = none))
  mode : ∃ mode, v.host_validation_mode = some mode ∧ ConfirmHostPresence.ModeRules w env cmd s v m mode

/-- What a confirmation that succeeds writes, and answers: the visit in another status, with the
host's position in the mode that asks for it, one proof, one event, one record, and one consumed
token when a JWT was judged. -/
structure ConfirmHostPresence.Effects (w : World F) (env : Env) (cmd : ConfirmHostCommand F) (s : Store F)
    (m : MissionModel) (v : SiteVisitModel F) (mode : HostValidationMode) (r : Response F) (t : Store F) : Prop where
  validation_mode : v.host_validation_mode = some mode
  visits : Table.Replaces s.site_visits v
    { v with
      status := .COPRESENCE_OK
      host_lat := if mode = .APP_GPS then cmd.latitude else v.host_lat
      host_lon := if mode = .APP_GPS then cmd.longitude else v.host_lon } t.site_visits
  proofs : ∃ latitude longitude, cmd.latitude.or v.inspector_lat = some latitude ∧
    cmd.longitude.or v.inspector_lon = some longitude ∧
    t.presence_proofs.rows = s.presence_proofs.rows ++
      [⟨env.proof_id, v.id, cmd.host_user_id, (datetime.utc env.now).stored, latitude, longitude, .OK⟩]
  events : t.copresence_events.rows = s.copresence_events.rows ++
    [⟨env.event_id, v.id, (datetime.utc env.now).stored, mode⟩]
  records : t.idempotency_records.rows = s.idempotency_records.rows ++ [⟨env.record_id, cmd.scope,
    cmd.client_request_id, (datetime.utc env.saved_at).stored, ConfirmHostPresence.payload v⟩]
  jtis : t.used_qr_jti = s.used_qr_jti ∧ ¬ (mode = .QR_STATIC ∧ cmd.qr_jwt.isSome) ∨
    ∃ token jti, mode = .QR_STATIC ∧ cmd.qr_jwt = some token ∧
      verify_host_qr_jwt w.jwt w.settings token (mission_to_domain m) env.jwt_decoded_at env.jwt_verified_at = .ok jti ∧
      t.used_qr_jti.rows = s.used_qr_jti.rows ++ [⟨jti, m.id, (datetime.utc env.now).stored⟩]
  response : r = .payload (ConfirmHostPresence.payload v)
  frame : t = { s with
    site_visits := t.site_visits
    presence_proofs := t.presence_proofs
    copresence_events := t.copresence_events
    idempotency_records := t.idempotency_records
    used_qr_jti := t.used_qr_jti }

/-- The rules of a mode are what the code accepts. -/
theorem ConfirmHostPresence.mode_rules_iff :
    ConfirmHostPresence.ModeRules w env cmd s v m mode ↔
      ∃ host consumed, ConfirmHostPresence.Accepts w env cmd s v m mode host consumed := by
  have hopen : m.OpenAt env.now ↔ in_window (datetime.utc env.now) m.window_start m.window_end := by
    rw [in_window_iff, datetime.instant_utc]
    exact Iff.rfl
  constructor
  · intro h
    cases mode with
    | APP_GPS =>
      obtain ⟨_, _, _, _, _, hlat, hlon, hilat, hilon, harrived, hdelay, hdistance⟩ := h
      exact ⟨_, _, .app_gps hlat hlon hilat hilon harrived hdelay hdistance⟩
    | QR_STATIC =>
      unfold ModeRules at h
      cases hjwt : cmd.qr_jwt with
      | some token =>
        rw [hjwt] at h
        obtain ⟨jti, hverify, hfree⟩ := h
        exact ⟨_, _, .qr_jwt hjwt hverify (Table.get_eq_none_iff.mpr hfree)⟩
      | none =>
        rw [hjwt] at h
        exact ⟨_, _, .qr_token hjwt h.1 (hopen.mp h.2)⟩
    | SMS_SHORTCODE =>
      obtain ⟨_, _, hcode, hexpected, hne, hstrip, hwindow⟩ := h
      exact ⟨_, _, .sms hcode hexpected hne hstrip (hopen.mp hwindow)⟩
  · rintro ⟨host, consumed, h⟩
    cases h with
    | app_gps hlat hlon hilat hilon harrived hdelay hdistance =>
      exact ⟨_, _, _, _, _, hlat, hlon, hilat, hilon, harrived, hdelay, hdistance⟩
    | qr_jwt hjwt hverify hfree =>
      unfold ModeRules
      rw [hjwt]
      exact ⟨_, hverify, Table.get_eq_none_iff.mp hfree⟩
    | qr_token hjwt htoken hwindow =>
      unfold ModeRules
      rw [hjwt]
      exact ⟨htoken, hopen.mpr hwindow⟩
    | sms hcode hexpected hne hstrip hwindow =>
      exact ⟨_, _, hcode, hexpected, hne, hstrip, hopen.mpr hwindow⟩

omit [LinearOrder F] [NatCast F] in
/-- The host that must confirm is the mission's, or else the establishment's, or nobody in particular. -/
theorem authorised_iff {host_user_id : UUID} :
    (∀ user_id, designated_host m est = some user_id → user_id = host_user_id) ↔
      (m.designated_host_user_id = some host_user_id ∨ m.designated_host_user_id = none ∧
        (est.designated_host_user_id = some host_user_id ∨ est.designated_host_user_id = none)) := by
  unfold designated_host
  cases m.designated_host_user_id with
  | some user_id => simp
  | none => cases est.designated_host_user_id <;> simp

/-- In a store where every visit has its dossier, the rules are what the code requires. -/
theorem ConfirmHostPresence.rules_iff_admits (hfiled : s.Filed) (hm : s.missions.get cmd.mission_id = some m)
    (happroved : m.status ≠ .DRAFT) :
    (∃ v, ConfirmHostPresence.Rules w env cmd s m v) ↔ ∃ v m' est mode host consumed latitude longitude,
      ConfirmHostPresence.Admits w env cmd s v m' est mode host consumed latitude longitude := by
  constructor
  · rintro ⟨v, hvisit, hmission, hstatus, ⟨est, hest, hhost⟩, mode, hmode, hrules⟩
    obtain ⟨d, rfl, -⟩ := hfiled v (Table.mem_of_get hvisit)
    obtain ⟨host, consumed, haccepts⟩ := ConfirmHostPresence.mode_rules_iff.mp hrules
    -- The inspector left a position, so there is one for the proof.
    have hlat : ∃ latitude, cmd.latitude.or d.visit.inspector_lat = some latitude := by
      rw [d.inspector_lat_visit]
      cases cmd.latitude <;> exact ⟨_, rfl⟩
    have hlon : ∃ longitude, cmd.longitude.or d.visit.inspector_lon = some longitude := by
      rw [d.inspector_lon_visit]
      cases cmd.longitude <;> exact ⟨_, rfl⟩
    obtain ⟨latitude, hlat⟩ := hlat
    obtain ⟨longitude, hlon⟩ := hlon
    exact ⟨_, m, est, mode, host, consumed, latitude, longitude, hvisit, hmission, hm, happroved, hest,
      authorised_iff.mpr hhost, hmode, haccepts, hstatus, hlat, hlon⟩
  · rintro ⟨v, m', est, mode, host, consumed, latitude, longitude, h⟩
    cases hm.symm.trans h.mission
    exact ⟨v, h.visit, h.mission_id, h.pending, ⟨est, h.establishment, authorised_iff.mp h.authorised⟩, mode,
      h.validation_mode, ConfirmHostPresence.mode_rules_iff.mpr ⟨host, consumed, h.accepts⟩⟩

/-- The position that each mode sets. -/
theorem ConfirmHostPresence.Accepts.position {host : Option (F × F)} {consumed : List (Write F)}
    (h : ConfirmHostPresence.Accepts w env cmd s v m mode host consumed) :
    (host.map Prod.fst).or v.host_lat = (if mode = .APP_GPS then cmd.latitude else v.host_lat) ∧
      (host.map Prod.snd).or v.host_lon = if mode = .APP_GPS then cmd.longitude else v.host_lon := by
  cases h with
  | app_gps hlat hlon =>
    rw [hlat, hlon]
    exact ⟨rfl, rfl⟩
  | qr_jwt | qr_token | sms => exact ⟨rfl, rfl⟩

/-- The token that is consumed, if any. -/
theorem ConfirmHostPresence.Accepts.consumes {host : Option (F × F)} {consumed : List (Write F)}
    {jtis : Table UsedQrJtiModel}
    (h : ConfirmHostPresence.Accepts w env cmd s v m mode host consumed)
    (hcommit : s.commit consumed = some { s with used_qr_jti := jtis }) :
    jtis = s.used_qr_jti ∧ ¬ (mode = .QR_STATIC ∧ cmd.qr_jwt.isSome) ∨
    ∃ token jti, mode = .QR_STATIC ∧ cmd.qr_jwt = some token ∧
      verify_host_qr_jwt w.jwt w.settings token (mission_to_domain m) env.jwt_decoded_at env.jwt_verified_at = .ok jti ∧
      jtis.rows = s.used_qr_jti.rows ++ [⟨jti, m.id, (datetime.utc env.now).stored⟩] := by
  have hkept : consumed = [] → jtis = s.used_qr_jti := by
    rintro rfl
    exact (congrArg Store.used_qr_jti (Option.some.inj hcommit)).symm
  cases h with
  | app_gps => exact Or.inl ⟨hkept rfl, fun h => by cases h.1⟩
  | qr_jwt hjwt hverify =>
    obtain ⟨rows, hrows, hnil⟩ := Store.commit_add_used_qr_jti.mp hcommit
    have hjtis : rows = jtis := congrArg Store.used_qr_jti (Option.some.inj hnil)
    exact Or.inr ⟨_, _, rfl, hjwt, hverify, hjtis ▸ Table.rows_insert hrows⟩
  | qr_token hjwt =>
    refine Or.inl ⟨hkept rfl, fun h => ?_⟩
    rw [hjwt] at h
    cases h.2
  | sms => exact Or.inl ⟨hkept rfl, fun h => by cases h.1⟩

theorem HostConfirmed.effects {host : Option (F × F)} {consumed : List (Write F)} {latitude longitude : F}
    (h : HostConfirmed w env cmd s v m est mode host consumed latitude longitude t) :
    ConfirmHostPresence.Effects w env cmd s m v mode (.payload (ConfirmHostPresence.payload v)) t where
  validation_mode := h.admits.validation_mode
  visits := by
    obtain ⟨hlat, hlon⟩ := h.admits.accepts.position
    rw [← hlat, ← hlon, ← SiteVisitModel.assigned_confirmed]
    exact h.visits
  proofs := ⟨latitude, longitude, h.admits.latitude, h.admits.longitude, Table.rows_insert h.proofs⟩
  events := Table.rows_insert h.events
  records := Table.rows_insert h.records
  jtis := h.admits.accepts.consumes h.jtis
  response := rfl
  frame := h.frame

variable {init : Store F} {calls : List (Call F)}

/-- In a store reached by a run from one without visits: a confirmation at a mission that is planned
or in progress, without recorded response, succeeds exactly when the rules hold; it then has the
effects listed and no others, and when it raises the store is as it was. -/
theorem confirm_host_accepts_iff (hempty : init.site_visits.rows = []) (hrun : Run w init calls s)
    (hfresh : env.Fresh s) (hm : s.missions.get cmd.mission_id = some m)
    (hopen : m.status = .PLANNED ∨ m.status = .IN_PROGRESS)
    (hrecord : s.recorded cmd.scope cmd.client_request_id = none) :
    ((∃ r t, exec w ⟨.confirm_host cmd, env⟩ s = (.ok r, t)) ↔ ∃ v, ConfirmHostPresence.Rules w env cmd s m v) ∧
    (∀ r t, exec w ⟨.confirm_host cmd, env⟩ s = (.ok r, t) →
      ∃ v mode, s.site_visits.get cmd.site_visit_id = some v ∧
        ConfirmHostPresence.Effects w env cmd s m v mode r t) ∧
    ∀ e t, exec w ⟨.confirm_host cmd, env⟩ s = (.error e, t) → t = s := by
  have happroved : m.status ≠ .DRAFT := by
    rcases hopen with h | h <;> rw [h] <;> decide
  rw [ConfirmHostPresence.rules_iff_admits (filed_of_run hrun hempty) hm happroved]
  refine ⟨⟨?_, ?_⟩, ?_, fun e t => store_of_exec_eq_error⟩
  · rintro ⟨r, t, h⟩
    obtain ⟨v, m', est, mode, host, consumed, latitude, longitude, hconfirmed, -⟩ :=
      host_confirmed_of_exec hfresh hrecord h
    exact ⟨v, m', est, mode, host, consumed, latitude, longitude, hconfirmed.admits⟩
  · rintro ⟨v, m', est, mode, host, consumed, latitude, longitude, h⟩
    obtain ⟨t, hconfirmed, -⟩ := h.served hfresh hrecord
    exact ⟨_, t, (Outcome.confirm_host hconfirmed).exec hfresh⟩
  · intro r t h
    obtain ⟨v, m', est, mode, host, consumed, latitude, longitude, hconfirmed, rfl⟩ :=
      host_confirmed_of_exec hfresh hrecord h
    cases hm.symm.trans hconfirmed.admits.mission
    exact ⟨v, mode, hconfirmed.admits.visit, hconfirmed.effects⟩

/-- Somebody shows the QR token of the pilot mission to the arrived inspector. -/
theorem pilot_confirm_host_accepted : ∃ r t,
    exec pilot.world ⟨.confirm_host (pilot.confirm "host" "confirm-1"), pilot.surroundings "2" 20⟩ pilot.arrived =
      (.ok r, t) := by
  have hfresh : (pilot.surroundings "2" 20).Fresh pilot.arrived := by decide
  have hrun : Run pilot.world pilot.planned [_] pilot.arrived := Execution.single pilot.served_arrive
  have hmission : pilot.arrived.missions.get ⟨"mission"⟩ = some pilot.mission := rfl
  have hrules : ∃ v, ConfirmHostPresence.Rules pilot.world (pilot.surroundings "2" 20)
      (pilot.confirm "host" "confirm-1") pilot.arrived pilot.mission v :=
    (ConfirmHostPresence.rules_iff_admits (filed_of_run hrun rfl) hmission (by decide)).mpr
      ⟨_, _, _, _, _, _, _, _, pilot.admits_confirm "host" "confirm-1" "2"⟩
  exact Iff.mpr (And.left (confirm_host_accepts_iff rfl hrun hfresh hmission (Or.inl rfl) rfl)) hrules

end confirm_host

end sigis
