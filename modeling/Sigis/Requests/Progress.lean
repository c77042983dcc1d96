import Sigis.Domain.Distance
import Sigis.Requests.Frames

open guarded relational transactional transition

namespace sigis

/-! An admitted request is served: under fresh identifiers no declared constraint refuses
what it writes. -/

section progress

variable {F : Type} {env : Env} {s : Store F}

section inserts

/-- A proof under a new identifier is inserted. -/
theorem Env.Fresh.insert_proof (h : env.Fresh s) (row : PresenceProofModel F)
    (hid : row.id = env.proof_id) : ∃ rows, s.presence_proofs.insert row = some rows := by
  refine Table.exists_insert ?_
  rintro a ha (hkey | hconflict)
  · exact Store.proof_ne_of_not_mem (h _ env.proof_id_mem) ha (hkey.trans hid)
  · cases hconflict

/-- So is an event. -/
theorem Env.Fresh.insert_event (h : env.Fresh s) (row : CoPresenceEventModel)
    (hid : row.id = env.event_id) : ∃ rows, s.copresence_events.insert row = some rows := by
  refine Table.exists_insert ?_
  rintro a ha (hkey | hconflict)
  · exact Store.event_ne_of_not_mem (h _ env.event_id_mem) ha (hkey.trans hid)
  · cases hconflict

/-- A response whose key is not recorded can be recorded. -/
theorem Env.Fresh.insert_record (h : env.Fresh s) {scope client_request_id : String} (payload : Dict)
    (hrecord : s.recorded scope client_request_id = none) :
    ∃ rows, s.idempotency_records.insert (new_idempotency_record_row scope client_request_id payload
      env.record_id env.saved_at).stored = some rows := by
  refine Table.exists_insert ?_
  rintro a ha (hkey | hconflict)
  · exact Store.record_ne_of_not_mem (h _ env.record_id_mem) ha hkey
  · exact Store.recorded_eq_none_iff.mp hrecord a ha (of_decide_eq_true hconflict)

end inserts

section served

variable [LinearOrder F] [NatCast F] {w : World F} {t : Store F} {call : Call F} {r : Response F}

/-- A request with one of the listed outcomes is served. -/
theorem Outcome.served (h : Outcome w call s r t) (hfresh : call.env.Fresh s) :
    Served w s call t := ⟨hfresh, by rw [h.exec hfresh]⟩

omit [NatCast F] in
/-- The visit of a mission without one, or of its scheduled visit, can be saved. -/
theorem Env.Fresh.saves_check_in (hfresh : env.Fresh s) (cmd : CheckInInspectorCommand F) :
    ∃ visits, s.SavesVisit (CheckInInspector.visit env cmd
      ((s.visit_of_mission cmd.mission_id).map site_visit_to_domain)) visits := by
  cases hvisit : s.visit_of_mission cmd.mission_id with
  | none =>
    obtain ⟨visits, hvisits⟩ := Table.exists_insert (t := s.site_visits)
      (r := (new_site_visit_row (CheckInInspector.visit env cmd none)).stored) (by
        rintro a ha (hkey | hconflict)
        · exact Table.get_eq_none_iff.mp hfresh.visit_id a ha hkey
        · exact Store.visit_of_mission_eq_none_iff.mp hvisit a ha (of_decide_eq_true hconflict))
    exact ⟨visits, Or.inl ⟨hfresh.visit_id, hvisits⟩⟩
  | some v =>
    have hv := (Store.visit_of_mission_eq_some_iff.mp hvisit).1
    obtain ⟨visits, hvisits⟩ := Table.exists_replaces (SiteVisitModel.keeps_flush v
      (apply_site_visit_to_row (CheckInInspector.visit env cmd (some (site_visit_to_domain v))) v)) hv
    exact ⟨visits, Or.inr ⟨v, Table.get_of_mem hv, hvisits⟩⟩

/-- An admitted check-in is served. -/
theorem CheckInInspector.Admits.served {cmd : CheckInInspectorCommand F} {m : MissionModel}
    {est : EstablishmentModel F} (h : CheckInInspector.Admits w env cmd s m est) (hfresh : env.Fresh s)
    (hrecord : s.recorded cmd.scope cmd.client_request_id = none) :
    ∃ visit t, CheckedIn w env cmd s m est visit t ∧ Served w s ⟨.check_in cmd, env⟩ t := by
  obtain ⟨visits, hvisits⟩ := hfresh.saves_check_in cmd
  generalize hvisit : CheckInInspector.visit env cmd
    ((s.visit_of_mission cmd.mission_id).map site_visit_to_domain) = visit at hvisits
  obtain ⟨proofs, hproofs⟩ := hfresh.insert_proof
    (new_presence_proof_row (CheckInInspector.proof w env cmd est visit.id)).stored rfl
  obtain ⟨records, hrecords⟩ := hfresh.insert_record
    (CheckInInspector.payload w cmd est visit.id) hrecord
  have hdone : CheckedIn w env cmd s m est visit { s with
      site_visits := visits
      presence_proofs := proofs
      idempotency_records := records } := ⟨hrecord, h, hvisit.symm, hvisits, hproofs, hrecords, rfl⟩
  exact ⟨visit, _, hdone, (Outcome.check_in hdone).served hfresh⟩

/-- A token that was not consumed can be. -/
theorem ConfirmHostPresence.Accepts.exists_commit {cmd : ConfirmHostCommand F} {v : SiteVisitModel F}
    {m : MissionModel} {mode : HostValidationMode} {host : Option (F × F)} {consumed : List (Write F)}
    (h : ConfirmHostPresence.Accepts w env cmd s v m mode host consumed) :
    ∃ jtis, s.commit consumed = some { s with used_qr_jti := jtis } := by
  cases h with
  | @qr_jwt token jti _ _ hfree =>
    obtain ⟨jtis, hjtis⟩ := Table.exists_insert (t := s.used_qr_jti)
      (r := UsedQrJtiModel.stored ⟨jti, m.id, datetime.utc env.now⟩) (by
        rintro a ha (hkey | hconflict)
        · exact Table.get_eq_none_iff.mp hfree a ha hkey
        · cases hconflict)
    exact ⟨jtis, Store.commit_add_used_qr_jti.mpr ⟨jtis, hjtis, rfl⟩⟩
  | app_gps | qr_token | sms => exact ⟨s.used_qr_jti, rfl⟩

/-- An admitted confirmation is served. -/
theorem ConfirmHostPresence.Admits.served {cmd : ConfirmHostCommand F} {v : SiteVisitModel F}
    {m : MissionModel} {est : EstablishmentModel F} {mode : HostValidationMode} {host : Option (F × F)}
    {consumed : List (Write F)} {latitude longitude : F}
    (h : ConfirmHostPresence.Admits w env cmd s v m est mode host consumed latitude longitude)
    (hfresh : env.Fresh s) (hrecord : s.recorded cmd.scope cmd.client_request_id = none) :
    ∃ t, HostConfirmed w env cmd s v m est mode host consumed latitude longitude t ∧
      Served w s ⟨.confirm_host cmd, env⟩ t := by
  obtain ⟨jtis, hjtis⟩ := h.accepts.exists_commit
  obtain ⟨visits, hvisits⟩ := Table.exists_replaces (SiteVisitModel.keeps_flush v
    (apply_site_visit_to_row (ConfirmHostPresence.visit v host) v)) (Table.mem_of_get h.visit)
  obtain ⟨proofs, hproofs⟩ := hfresh.insert_proof
    (new_presence_proof_row (ConfirmHostPresence.proof env cmd v latitude longitude)).stored rfl
  obtain ⟨events, hevents⟩ := hfresh.insert_event
    (new_copresence_event_row (ConfirmHostPresence.event env v) mode).stored rfl
  obtain ⟨records, hrecords⟩ := hfresh.insert_record (ConfirmHostPresence.payload v) hrecord
  have hdone : HostConfirmed w env cmd s v m est mode host consumed latitude longitude { s with
      site_visits := visits
      presence_proofs := proofs
      copresence_events := events
      idempotency_records := records
      used_qr_jti := jtis } := ⟨hrecord, h, hjtis, hvisits, hproofs, hevents, hrecords, rfl⟩
  exact ⟨_, hdone, (Outcome.confirm_host hdone).served hfresh⟩

/-- An admitted check-out is served. -/
theorem CheckOutVisit.Admits.served {cmd : CheckOutCommand} {v : SiteVisitModel F} {m : MissionModel}
    (h : CheckOutVisit.Admits cmd s v m) (hfresh : env.Fresh s)
    (hrecord : s.recorded cmd.scope cmd.client_request_id = none) :
    ∃ t, CheckedOut env cmd s v m t ∧ Served w s ⟨.check_out cmd, env⟩ t := by
  obtain ⟨visits, hvisits⟩ := Table.exists_replaces (SiteVisitModel.keeps_flush v
    (apply_site_visit_to_row (CheckOutVisit.visit env v) v)) (Table.mem_of_get h.visit)
  obtain ⟨records, hrecords⟩ := hfresh.insert_record (CheckOutVisit.payload env v) hrecord
  have hdone : CheckedOut env cmd s v m { s with
      site_visits := visits
      idempotency_records := records } := ⟨hrecord, h, hvisits, hrecords, rfl⟩
  exact ⟨_, hdone, (Outcome.check_out (w := w) hdone).served hfresh⟩

end served

end progress

/-! One school, one mission planned there, and the requests of one visit, over the reals and
the formula of the source. -/

/-- The world with the distance of the source. -/
noncomputable def World.earth (settings : AppSettings) (jwt : PyJWT) : World ℝ where
  haversine_m := sigis.haversine_m
  settings := settings
  jwt := jwt

namespace pilot

/-- No token decodes. -/
noncomputable def world : World ℝ :=
  .earth ⟨"secret", "HS256"⟩ ⟨fun _ _ _ _ _ => .error .PyJWTError⟩

/-- The school, at the origin. -/
noncomputable def school : EstablishmentModel ℝ where
  id := ⟨"school"⟩
  name := "Lycée de la Cité"
  center_lat := 0
  center_lon := 0
  radius_strict_m := 100
  radius_relaxed_m := 200
  geometry_version := 1

/-- The mission at the school. -/
def mission : MissionModel where
  id := ⟨"mission"⟩
  establishment_id := ⟨"school"⟩
  inspector_id := ⟨"inspector"⟩
  window_start := ⟨0, none⟩
  window_end := ⟨100, none⟩
  status := .PLANNED
  host_token := ⟨"host-token"⟩

/-- The school and its users. -/
noncomputable def opened : Store ℝ where
  users := ⟨[⟨⟨"inspector"⟩, "INSPECTOR"⟩, ⟨⟨"host"⟩, "HOST"⟩], by decide⟩
  establishments := ⟨[school], List.pairwise_singleton _ _⟩
  missions := .empty
  site_visits := .empty
  presence_proofs := .empty
  copresence_events := .empty
  idempotency_records := .empty
  used_qr_jti := .empty

/-- The school with its mission. -/
noncomputable def planned : Store ℝ :=
  { opened with missions := ⟨[mission], List.pairwise_singleton _ _⟩ }

/-- The surroundings of one request at an instant, its draws told apart by a tag. -/
def surroundings (tag : String) (now : Int) : Env where
  now := now
  jwt_decoded_at := now
  jwt_verified_at := now
  saved_at := now
  visit_id := ⟨"visit-" ++ tag⟩
  proof_id := ⟨"proof-" ++ tag⟩
  event_id := ⟨"event-" ++ tag⟩
  record_id := ⟨"record-" ++ tag⟩
  mission_id := ⟨"mission-" ++ tag⟩
  host_token := ⟨"host-token-" ++ tag⟩
  establishment_id := ⟨"school-" ++ tag⟩

/-- The inspector arrives at the centre of the zone. -/
noncomputable def arrive (client_request_id : String) : CheckInInspectorCommand ℝ where
  mission_id := ⟨"mission"⟩
  inspector_user_id := ⟨"inspector"⟩
  latitude := 0
  longitude := 0
  client_request_id := client_request_id
  host_validation_mode := .QR_STATIC

/-- The inspector arrives inside of the zone. -/
theorem geofence_arrive (client_request_id : String) :
    CheckInInspector.geofence world (arrive client_request_id) school = .OK := by
  apply geofence_status_eq_ok
  change haversine_m 0 0 0 0 ≤ 100
  rw [haversine_m_self]
  norm_num

/-- The window is open for the first hundred microseconds. -/
theorem in_window_mission {now : Int} (h : 0 ≤ now ∧ now ≤ 100) :
    in_window (datetime.utc now) mission.window_start mission.window_end := by
  rw [in_window_iff, datetime.instant_utc]
  exact h

/-- In any store with the school and a mission of the inspector there, past its draft and
without visit, the inspector is admitted. -/
theorem admits_arrive {s : Store ℝ} {m : MissionModel} {client_request_id tag : String}
    (hmission : s.missions.get ⟨"mission"⟩ = some m) (happroved : m.status ≠ .DRAFT)
    (hinspector : m.inspector_id = ⟨"inspector"⟩)
    (hschool : s.establishments.get m.establishment_id = some school)
    (hwindow : in_window (datetime.utc 10) m.window_start m.window_end)
    (hvisit : s.visit_of_mission ⟨"mission"⟩ = none) :
    CheckInInspector.Admits world (surroundings tag 10) (arrive client_request_id) s m school where
  mission := hmission
  approved := happroved
  inspector := hinspector
  establishment := hschool
  window := hwindow
  geofence := by
    rw [geofence_arrive]
    decide
  visit := by
    intro v hv
    rw [show (arrive client_request_id).mission_id = ⟨"mission"⟩ from rfl, hvisit] at hv
    cases hv

theorem admits_arrive_planned (client_request_id tag : String) : CheckInInspector.Admits world
    (surroundings tag 10) (arrive client_request_id) planned mission school :=
  admits_arrive rfl (by decide) rfl rfl (in_window_mission (by decide)) rfl

/-- The record a visit request leaves. -/
def record (scope client_request_id : String) (payload : Dict) (tag : String) (now : Int) :
    IdempotencyRecordModel :=
  ⟨⟨"record-" ++ tag⟩, scope, client_request_id, ⟨now, none⟩, payload⟩

/-- The visit after the arrival. -/
noncomputable def visit : SiteVisitModel ℝ where
  id := ⟨"visit-1"⟩
  mission_id := ⟨"mission"⟩
  status := .PENDING_HOST
  host_validation_mode := some .QR_STATIC
  checked_in_at := some ⟨10, none⟩
  inspector_lat := some 0
  inspector_lon := some 0

/-- The proof of the arrival. -/
noncomputable def arrival_proof : PresenceProofModel ℝ where
  id := ⟨"proof-1"⟩
  site_visit_id := ⟨"visit-1"⟩
  actor_user_id := ⟨"inspector"⟩
  recorded_at := ⟨10, none⟩
  latitude := 0
  longitude := 0
  geofence_status := .OK

/-- What the inspector is answered. -/
def arrival_payload : Dict :=
  [("site_visit_id", .str "visit-1"), ("geofence_status", .str "OK"),
    ("status", .str "pending_host_validation")]

/-- The planned mission, after the inspector's arrival. -/
noncomputable def arrived : Store ℝ :=
  { planned with
    site_visits := ⟨[visit], List.pairwise_singleton _ _⟩
    presence_proofs := ⟨[arrival_proof], List.pairwise_singleton _ _⟩
    idempotency_records :=
      ⟨[record "check_in:mission" "arrive-1" arrival_payload "1" 10], List.pairwise_singleton _ _⟩ }

theorem payload_arrive : CheckInInspector.payload world (arrive "arrive-1") school ⟨"visit-1"⟩ =
    arrival_payload := by
  simp only [CheckInInspector.payload, geofence_arrive]
  rfl

/-- The arrival is an admitted check-in. -/
theorem checked_in : CheckedIn world (surroundings "1" 10) (arrive "arrive-1") planned mission school
    (CheckInInspector.visit (surroundings "1" 10) (arrive "arrive-1") none) arrived where
  unrecorded := rfl
  admits := admits_arrive_planned "arrive-1" "1"
  visit_eq := rfl
  visits := Or.inl ⟨rfl, Table.insert_eq_some_iff.mpr ⟨by simp [planned, opened], rfl⟩⟩
  proofs := by
    refine Table.insert_eq_some_iff.mpr ⟨by simp [planned, opened], ?_⟩
    simp only [CheckInInspector.proof, geofence_arrive]
    rfl
  records := by
    refine Table.insert_eq_some_iff.mpr ⟨by simp [planned, opened], ?_⟩
    rw [show (CheckInInspector.visit (surroundings "1" 10) (arrive "arrive-1") none).id = ⟨"visit-1"⟩
      by decide, payload_arrive]
    rfl
  frame := rfl

/-- It is served. -/
theorem served_arrive : Served world planned ⟨.check_in (arrive "arrive-1"), surroundings "1" 10⟩ arrived :=
  (Outcome.check_in checked_in).served (by decide)

/-- Somebody shows the static QR token of the mission, and gives no position. -/
noncomputable def confirm (host_user_id client_request_id : String) : ConfirmHostCommand ℝ where
  site_visit_id := ⟨"visit-1"⟩
  mission_id := ⟨"mission"⟩
  host_user_id := ⟨host_user_id⟩
  client_request_id := client_request_id
  qr_token := some ⟨"host-token"⟩

/-- Whoever confirms, no host being designated, is admitted. -/
theorem admits_confirm (host_user_id client_request_id tag : String) :
    ConfirmHostPresence.Admits world (surroundings tag 20) (confirm host_user_id client_request_id)
      arrived visit mission school .QR_STATIC none [] 0 0 where
  visit := rfl
  mission_id := rfl
  mission := rfl
  approved := by decide
  establishment := rfl
  authorised := by
    intro user_id h
    cases h
  validation_mode := rfl
  accepts := .qr_token rfl rfl (in_window_mission (show (0 : Int) ≤ 20 ∧ (20 : Int) ≤ 100 by decide))
  pending := rfl
  latitude := rfl
  longitude := rfl

/-- The visit after the confirmation. -/
noncomputable def confirmed_visit : SiteVisitModel ℝ := { visit with status := .COPRESENCE_OK }

/-- The proof of the confirmation, with the coordinates of the arrival. -/
noncomputable def host_proof (host_user_id tag : String) : PresenceProofModel ℝ where
  id := ⟨"proof-" ++ tag⟩
  site_visit_id := ⟨"visit-1"⟩
  actor_user_id := ⟨host_user_id⟩
  recorded_at := ⟨20, none⟩
  latitude := 0
  longitude := 0
  geofence_status := .OK

/-- The event of the confirmation. -/
def event (tag : String) : CoPresenceEventModel where
  id := ⟨"event-" ++ tag⟩
  site_visit_id := ⟨"visit-1"⟩
  validated_at := ⟨20, none⟩
  host_validation_mode := .QR_STATIC

/-- What the host is answered. -/
def confirmation_payload : Dict :=
  [("status", .str "copresence_validated"), ("site_visit_id", .str "visit-1")]

/-- The two proofs are apart. -/
theorem not_clash_host_proof (host_user_id tag : String) (htag : (⟨"proof-1"⟩ : UUID) ≠ ⟨"proof-" ++ tag⟩) :
    ¬ clash arrival_proof (host_proof host_user_id tag) := by
  rintro (hkey | hconflict)
  · exact htag hkey
  · cases hconflict

/-- The arrived inspector, after the confirmation. -/
noncomputable def confirmed (host_user_id : String) : Store ℝ :=
  { arrived with
    site_visits := ⟨[confirmed_visit], List.pairwise_singleton _ _⟩
    presence_proofs := ⟨[arrival_proof, host_proof host_user_id "2"],
      List.pairwise_pair.mpr (not_clash_host_proof host_user_id "2" (by decide))⟩
    copresence_events := ⟨[event "2"], List.pairwise_singleton _ _⟩
    idempotency_records :=
      ⟨[record "check_in:mission" "arrive-1" arrival_payload "1" 10,
        record "confirm_host:visit-1" "confirm-1" confirmation_payload "2" 20], by decide⟩ }

/-- The confirmation is an admitted one. -/
theorem host_confirmed (host_user_id : String) :
    HostConfirmed world (surroundings "2" 20) (confirm host_user_id "confirm-1") arrived visit mission
      school .QR_STATIC none [] 0 0 (confirmed host_user_id) where
  unrecorded := rfl
  admits := admits_confirm host_user_id "confirm-1" "2"
  jtis := rfl
  visits := ⟨List.mem_singleton.mpr rfl, rfl, by
    rw [SiteVisitModel.assigned_confirmed]
    rfl⟩
  proofs := Table.insert_eq_some_iff.mpr ⟨by
    intro a ha
    rw [List.mem_singleton.mp ha]
    exact not_clash_host_proof host_user_id "2" (by decide), rfl⟩
  events := Table.insert_eq_some_iff.mpr ⟨by simp [arrived, planned, opened], rfl⟩
  records := Table.insert_eq_some_iff.mpr ⟨by
    intro a ha
    rw [List.mem_singleton.mp ha]
    change ¬ clash (record "check_in:mission" "arrive-1" arrival_payload "1" 10)
      (record "confirm_host:visit-1" "confirm-1" confirmation_payload "2" 20)
    decide, rfl⟩
  frame := rfl

/-- It is served. -/
theorem served_confirm (host_user_id : String) :
    Served world arrived ⟨.confirm_host (confirm host_user_id "confirm-1"), surroundings "2" 20⟩
      (confirmed host_user_id) :=
  (Outcome.confirm_host (host_confirmed host_user_id)).served
    (show (surroundings "2" 20).Fresh arrived by decide)

/-- The run of a visit up to its confirmation. -/
theorem run_confirmed (host_user_id : String) : Run world planned
    [⟨.check_in (arrive "arrive-1"), surroundings "1" 10⟩,
      ⟨.confirm_host (confirm host_user_id "confirm-1"), surroundings "2" 20⟩] (confirmed host_user_id) :=
  (Execution.single served_arrive).snoc (served_confirm host_user_id)

end pilot

end sigis
