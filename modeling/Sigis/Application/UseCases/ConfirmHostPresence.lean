import Sigis.Application.Ports

open guarded relational

namespace sigis

structure ConfirmHostCommand (F : Type) where
  site_visit_id : UUID
  mission_id : UUID
  host_user_id : UUID
  client_request_id : String
  latitude : Option F := none
  longitude : Option F := none
  qr_token : Option UUID := none
  qr_jwt : Option String := none
  sms_code : Option String := none

def ConfirmHostCommand.scope {F : Type} (cmd : ConfirmHostCommand F) : String :=
  "confirm_host:" ++ cmd.site_visit_id.str

variable {F : Type} [LinearOrder F] [NatCast F]

def default_copresence_params : CoPresenceParams F where
  max_delay := minutes 15
  max_distance_meters := (100 : ℕ)
  reinforce_under_meters := some (50 : ℕ)

/-- The branch of the validation mode: the visit with what the branch sets on it, and
the token it consumes. -/
def ConfirmHostPresence.validate (w : World F) (env : Env) (cmd : ConfirmHostCommand F)
    (s : Store F) (visit : SiteVisit F) (mission : Mission) (mode : HostValidationMode) :
    Except Error (SiteVisit F × List (Write F)) :=
  let now := datetime.utc env.now
  match mode with
  | .APP_GPS => do
    let latitude ← get_or_raise cmd.latitude (Conflict "Position hôte requise (mode APP_GPS).")
    let longitude ← get_or_raise cmd.longitude (Conflict "Position hôte requise (mode APP_GPS).")
    let inspector_lat ← get_or_raise visit.inspector_lat .AssertionError
    let inspector_lon ← get_or_raise visit.inspector_lon .AssertionError
    let checked_in_at ← get_or_raise visit.checked_in_at .AssertionError
    let dist := w.haversine_m inspector_lat inspector_lon latitude longitude
    assert_copresence_mode_a checked_in_at now dist default_copresence_params
    return ({ visit with host_lat := some latitude, host_lon := some longitude }, [])
  | .QR_STATIC =>
    match cmd.qr_jwt, cmd.qr_token, mission.host_token with
    | some token, _, _ => do
      let jti ← verify_host_qr_jwt w.jwt w.settings token mission env.jwt_decoded_at
        env.jwt_verified_at
      let consumed ← get_or_raise (UsedQrJtiRepositoryImpl.consume s jti mission.id now)
        (CoPresenceRejected "Jeton QR déjà utilisé." "INVALID_QR_TOKEN")
      return (visit, [consumed])
    | none, some qr_token, some host_token => do
      assert_qr_token_valid qr_token host_token now mission.window_start mission.window_end
      return (visit, [])
    | none, _, _ => .error (Conflict "Jeton QR (UUID ou JWT) requis.")
  | .SMS_SHORTCODE => do
    let sms_code ← get_or_raise cmd.sms_code (Conflict "Code SMS requis.")
    assert_sms_code_valid sms_code mission.sms_code now mission.window_start mission.window_end
    return (visit, [])

/-- The body of `execute`, after the idempotency lookup. -/
def ConfirmHostPresence.body (w : World F) (env : Env) (cmd : ConfirmHostCommand F) (s : Store F) :
    Except Error (Dict × List (Write F)) := do
  let visit ← get_or_raise (SiteVisitRepositoryImpl.get_by_id s cmd.site_visit_id)
    (NotFound "Visite introuvable.")
  raise_if (visit.mission_id ≠ cmd.mission_id) (Conflict "Mission incohérente avec la visite.")
  let mission ← get_or_raise (MissionRepositoryImpl.get_by_id s cmd.mission_id)
    (NotFound "Mission introuvable.")
  raise_if (mission.status = .DRAFT) (MissionApprovalRequired
    "La mission est en attente de validation hiérarchique (statut draft).")
  let est ← get_or_raise (EstablishmentRepositoryImpl.get_by_id s mission.establishment_id)
    (NotFound "Établissement introuvable.")
  let designated := mission.designated_host_user_id.or est.designated_host_user_id
  raise_if (designated ≠ none ∧ designated ≠ some cmd.host_user_id) (HostNotAuthorized
    "Seul l'hôte désigné (mission ou établissement) peut confirmer la co-présence.")
  let mode ← get_or_raise visit.host_validation_mode
    (Conflict "Mode de validation hôte non défini.")
  let now := datetime.utc env.now
  let (visit, consumed) ← ConfirmHostPresence.validate w env cmd s visit mission mode
  let visit ← mark_copresence_ok visit
  let lat ← get_or_raise (cmd.latitude.or visit.inspector_lat)
    (Conflict "Position de référence manquante pour la preuve.")
  let lon ← get_or_raise (cmd.longitude.or visit.inspector_lon)
    (Conflict "Position de référence manquante pour la preuve.")
  let proof : PresenceProof F :=
    { id := env.proof_id
      site_visit_id := visit.id
      actor_user_id := cmd.host_user_id
      recorded_at := now
      latitude := lat
      longitude := lon
      geofence_status := .OK }
  let event : CoPresenceEvent :=
    { id := env.event_id
      site_visit_id := visit.id
      validated_at := now }
  let payload : Dict :=
    [("status", .str visit.status.value), ("site_visit_id", .str visit.id.str)]
  return (payload, consumed ++ [SiteVisitRepositoryImpl.save s visit,
    PresenceProofRepositoryImpl.add proof, CoPresenceEventRepositoryImpl.add event mode])

def ConfirmHostPresence.execute (w : World F) (env : Env) (cmd : ConfirmHostCommand F)
    (s : Store F) : Except Error (Dict × List (Write F)) :=
  idempotent s env cmd.scope cmd.client_request_id (ConfirmHostPresence.body w env cmd s)

/-- The host that must confirm: the mission's, or else its establishment's. -/
def designated_host (m : MissionModel) (est : EstablishmentModel F) : Option UUID :=
  m.designated_host_user_id.or est.designated_host_user_id

/-- What each mode accepts, with the position it sets on the visit and the token it
consumes. -/
inductive ConfirmHostPresence.Accepts (w : World F) (env : Env) (cmd : ConfirmHostCommand F)
    (s : Store F) (v : SiteVisitModel F) (m : MissionModel) :
    HostValidationMode → Option (F × F) → List (Write F) → Prop
  | app_gps {latitude longitude inspector_lat inspector_lon checked_in_at} :
      cmd.latitude = some latitude → cmd.longitude = some longitude →
      v.inspector_lat = some inspector_lat → v.inspector_lon = some inspector_lon →
      v.checked_in_at = some checked_in_at →
      env.now - checked_in_at.instant ≤ minutes 15 →
      w.haversine_m inspector_lat inspector_lon latitude longitude ≤ ((100 : ℕ) : F) →
      ConfirmHostPresence.Accepts w env cmd s v m .APP_GPS (some (latitude, longitude)) []
  | qr_jwt {token jti} :
      cmd.qr_jwt = some token →
      verify_host_qr_jwt w.jwt w.settings token (mission_to_domain m) env.jwt_decoded_at
        env.jwt_verified_at = .ok jti →
      s.used_qr_jti.get jti = none →
      ConfirmHostPresence.Accepts w env cmd s v m .QR_STATIC none
        [.add_used_qr_jti ⟨jti, m.id, datetime.utc env.now⟩]
  | qr_token :
      cmd.qr_jwt = none → cmd.qr_token = some m.host_token →
      in_window (datetime.utc env.now) m.window_start m.window_end →
      ConfirmHostPresence.Accepts w env cmd s v m .QR_STATIC none []
  | sms {sms_code expected} :
      cmd.sms_code = some sms_code → m.sms_code = some expected → expected ≠ "" →
      strip sms_code = strip expected →
      in_window (datetime.utc env.now) m.window_start m.window_end →
      ConfirmHostPresence.Accepts w env cmd s v m .SMS_SHORTCODE none []

/-- Everything a confirmation without recorded response requires of the store and the
clock, with what it finds there and the position of the proof. -/
structure ConfirmHostPresence.Admits (w : World F) (env : Env) (cmd : ConfirmHostCommand F)
    (s : Store F) (v : SiteVisitModel F) (m : MissionModel) (est : EstablishmentModel F)
    (mode : HostValidationMode) (host : Option (F × F)) (consumed : List (Write F))
    (latitude longitude : F) : Prop where
  visit : s.site_visits.get cmd.site_visit_id = some v
  mission_id : v.mission_id = cmd.mission_id
  mission : s.missions.get cmd.mission_id = some m
  approved : m.status ≠ .DRAFT
  establishment : s.establishments.get m.establishment_id = some est
  authorised : ∀ user_id, designated_host m est = some user_id → user_id = cmd.host_user_id
  validation_mode : v.host_validation_mode = some mode
  accepts : ConfirmHostPresence.Accepts w env cmd s v m mode host consumed
  pending : v.status = .PENDING_HOST
  latitude : cmd.latitude.or v.inspector_lat = some latitude
  longitude : cmd.longitude.or v.inspector_lon = some longitude

def ConfirmHostPresence.visit (v : SiteVisitModel F) (host : Option (F × F)) : SiteVisit F :=
  { (site_visit_to_domain v).with_host host with status := .COPRESENCE_OK }

def ConfirmHostPresence.proof (env : Env) (cmd : ConfirmHostCommand F) (v : SiteVisitModel F)
    (latitude longitude : F) : PresenceProof F where
  id := env.proof_id
  site_visit_id := v.id
  actor_user_id := cmd.host_user_id
  recorded_at := datetime.utc env.now
  latitude := latitude
  longitude := longitude
  geofence_status := .OK

def ConfirmHostPresence.event (env : Env) (v : SiteVisitModel F) : CoPresenceEvent where
  id := env.event_id
  site_visit_id := v.id
  validated_at := datetime.utc env.now

def ConfirmHostPresence.payload (v : SiteVisitModel F) : Dict :=
  [("status", .str SiteVisitStatus.COPRESENCE_OK.value), ("site_visit_id", .str v.id.str)]

variable {w : World F} {env : Env} {cmd : ConfirmHostCommand F} {s : Store F}
  {v : SiteVisitModel F} {m : MissionModel} {mode : HostValidationMode} {payload : Dict}
  {visit : SiteVisit F} {writes : List (Write F)}

theorem ConfirmHostPresence.validate_eq_ok_iff :
    ConfirmHostPresence.validate w env cmd s (site_visit_to_domain v) (mission_to_domain m) mode =
        .ok (visit, writes) ↔
      ∃ host, ConfirmHostPresence.Accepts w env cmd s v m mode host writes ∧
        visit = (site_visit_to_domain v).with_host host := by
  constructor
  · intro h
    cases mode with
    | APP_GPS =>
      simp only [validate, bind_eq_ok_iff, get_or_raise_eq_ok, assert_copresence_mode_a_eq_ok,
        pure_eq_ok, Except.ok.injEq, Prod.mk.injEq] at h
      obtain ⟨lat, hlat, lon, hlon, ilat, hilat, ilon, hilon, cin, hcin, _, ⟨hdelay, hdist⟩, rfl, rfl⟩ := h
      rw [datetime.instant_utc] at hdelay
      exact ⟨_, .app_gps hlat hlon hilat hilon hcin hdelay hdist, rfl⟩
    | QR_STATIC =>
      simp only [validate] at h
      split at h
      · next token hjwt =>
        simp only [bind_eq_ok_iff, get_or_raise_eq_ok, UsedQrJtiRepositoryImpl.consume_eq_some_iff, pure_eq_ok,
          Except.ok.injEq, Prod.mk.injEq] at h
        obtain ⟨jti, hjti, _, ⟨hfree, rfl⟩, rfl, rfl⟩ := h
        exact ⟨none, .qr_jwt hjwt hjti hfree, rfl⟩
      · next provided expected hjwt hprovided hexpected =>
        simp only [bind_eq_ok_iff, assert_qr_token_valid_eq_ok, pure_eq_ok, Except.ok.injEq,
          Prod.mk.injEq] at h
        obtain ⟨_, ⟨rfl, hwindow⟩, rfl, rfl⟩ := h
        cases hexpected
        exact ⟨none, .qr_token hjwt hprovided hwindow, rfl⟩
      · cases h
    | SMS_SHORTCODE =>
      simp only [validate, bind_eq_ok_iff, get_or_raise_eq_ok, assert_sms_code_valid_eq_ok, pure_eq_ok,
        Except.ok.injEq, Prod.mk.injEq] at h
      obtain ⟨code, hcode, _, ⟨expected, hexpected, hne, hstrip, hwindow⟩, rfl, rfl⟩ := h
      exact ⟨none, .sms hcode hexpected hne hstrip hwindow, rfl⟩
  · rintro ⟨host, h, rfl⟩
    cases h with
    | app_gps hlat hlon hilat hilon hcin hdelay hdist =>
      simp only [validate, bind_eq_ok_iff, get_or_raise_eq_ok, assert_copresence_mode_a_eq_ok,
        datetime.instant_utc, pure_eq_ok, Except.ok.injEq, Prod.mk.injEq]
      exact ⟨_, hlat, _, hlon, _, hilat, _, hilon, _, hcin, (), ⟨hdelay, hdist⟩, rfl, trivial⟩
    | qr_jwt hjwt hjti hfree =>
      simp only [validate, hjwt, hjti, bind_ok, bind_eq_ok_iff, get_or_raise_eq_ok,
        UsedQrJtiRepositoryImpl.consume_eq_some_iff, pure_eq_ok, Except.ok.injEq, Prod.mk.injEq]
      exact ⟨_, ⟨hfree, rfl⟩, rfl, rfl⟩
    | qr_token hjwt htoken hwindow =>
      simp only [validate, mission_to_domain, hjwt, htoken, bind_eq_ok_iff, assert_qr_token_valid_eq_ok,
        pure_eq_ok, Except.ok.injEq, Prod.mk.injEq]
      exact ⟨(), ⟨trivial, hwindow⟩, rfl, trivial⟩
    | sms hcode hexpected hne hstrip hwindow =>
      simp only [validate, hcode, get_or_raise_some, bind_ok, bind_eq_ok_iff,
        assert_sms_code_valid_eq_ok, pure_eq_ok, Except.ok.injEq, Prod.mk.injEq]
      exact ⟨(), ⟨_, hexpected, hne, hstrip, hwindow⟩, rfl, trivial⟩

/-- The confirmation succeeds exactly when it is admitted, and then saves the visit,
the proof of the host's presence and the co-presence event. -/
theorem ConfirmHostPresence.body_eq_ok_iff :
    ConfirmHostPresence.body w env cmd s = .ok (payload, writes) ↔
      ∃ v m est mode host consumed latitude longitude,
        ConfirmHostPresence.Admits w env cmd s v m est mode host consumed latitude longitude ∧
        payload = ConfirmHostPresence.payload v ∧
        writes = consumed ++
          [SiteVisitRepositoryImpl.save s (ConfirmHostPresence.visit v host),
            PresenceProofRepositoryImpl.add
              (ConfirmHostPresence.proof env cmd v latitude longitude),
            CoPresenceEventRepositoryImpl.add (ConfirmHostPresence.event env v) mode] := by
  simp only [ConfirmHostPresence.body, bind_eq_ok_iff, get_or_raise_eq_ok, raise_if_eq_ok,
    mark_copresence_ok_eq_ok, pure_eq_ok, Except.ok.injEq, Prod.mk.injEq,
    MissionRepositoryImpl.get_by_id, EstablishmentRepositoryImpl.get_by_id,
    SiteVisitRepositoryImpl.get_by_id, Option.map_eq_some_iff, not_and, not_not, Prod.exists]
  constructor
  · rintro ⟨_, ⟨v, hv, rfl⟩, _, hmission_id, _, ⟨m, hm, rfl⟩, _, hstatus, _, ⟨est, hest, rfl⟩, _, hhost,
      mode, hmode, visit, consumed, hvalidate, _, ⟨hpending, rfl⟩, lat, hlat, lon, hlon, rfl, rfl⟩
    obtain ⟨host, haccepts, rfl⟩ := ConfirmHostPresence.validate_eq_ok_iff.mp hvalidate
    simp only [SiteVisit.status_with_host, SiteVisit.inspector_lat_with_host,
      SiteVisit.inspector_lon_with_host] at hpending hlat hlon
    refine ⟨v, m, est, mode, host, consumed, lat, lon, ⟨hv, hmission_id, hm, hstatus, hest, ?_, hmode,
      haccepts, hpending, hlat, hlon⟩, ?_, ?_⟩
    · intro user_id hdesignated
      have h := hhost (ne_of_eq_of_ne hdesignated (Option.some_ne_none user_id))
      exact Option.some.inj (hdesignated.symm.trans h)
    · cases host <;> rfl
    · cases host <;> rfl
  · rintro ⟨v, m, est, mode, host, consumed, lat, lon, h, rfl, rfl⟩
    have hvalidate := ConfirmHostPresence.validate_eq_ok_iff.mpr ⟨host, h.accepts, rfl⟩
    refine ⟨_, ⟨v, h.visit, rfl⟩, (), h.mission_id, _, ⟨m, h.mission, rfl⟩, (), h.approved, _,
      ⟨est, h.establishment, rfl⟩, (), ?_, mode, h.validation_mode, _, consumed, hvalidate, _, ⟨?_, rfl⟩,
      lat, ?_, lon, ?_, ?_, ?_⟩
    · intro hdesignated
      obtain ⟨user_id, huser⟩ := Option.ne_none_iff_exists'.mp hdesignated
      rw [← h.authorised user_id huser]
      exact huser
    · rw [SiteVisit.status_with_host]
      exact h.pending
    · rw [SiteVisit.inspector_lat_with_host]
      exact h.latitude
    · rw [SiteVisit.inspector_lon_with_host]
      exact h.longitude
    · cases host <;> rfl
    · cases host <;> rfl

end sigis
