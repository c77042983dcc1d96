import Sigis.Visits.Dossier

open guarded relational transactional transition

namespace sigis

/-- The errors of the branches the visit use cases keep against impossible rows. -/
def defensive_errors : List Error :=
  [AlreadyCheckedOut "Déjà check-out.", .AssertionError,
    Conflict "Mode de validation hôte non défini.",
    Conflict "Position de référence manquante pour la preuve."]

/-- The error is not one of a defensive branch. -/
def Ordinary (e : Error) : Prop := e ∉ defensive_errors

instance (e : Error) : Decidable (Ordinary e) := inferInstanceAs (Decidable (e ∉ defensive_errors))

variable {F : Type} {env : Env} {s : Store F}

theorem raises_only_idempotent {scope client_request_id : String}
    {body : Except Error (Dict × List (Write F))} {p : Error → Prop} (h : raises_only body p) :
    raises_only (idempotent s env scope client_request_id body) p := by
  cases hrecorded : s.recorded scope client_request_id with
  | some record =>
    rw [idempotent_of_recorded hrecorded]
    exact raises_only_ok
  | none =>
    rw [idempotent_of_not_recorded hrecorded]
    exact raises_only_map h

theorem raises_only_window {now window_start window_end : datetime} :
    raises_only (ensure_mission_window now window_start window_end) Ordinary :=
  raises_only_raise_if fun _ => by decide

theorem raises_only_start_check_in {visit : SiteVisit F} {now : datetime} {mode : HostValidationMode} :
    raises_only (start_check_in visit now mode) Ordinary :=
  raises_only_bind (raises_only_raise_if fun _ => by decide) fun _ _ => raises_only_pure

theorem raises_only_user {user_id : UUID} :
    raises_only (UserAuthRepositoryImpl.get_by_id s user_id) Ordinary := by
  unfold UserAuthRepositoryImpl.get_by_id
  refine raises_only_bind (raises_only_get_or_raise fun _ => ?_) fun row _ => ?_
  · simp [Ordinary, defensive_errors, NotFound, AlreadyCheckedOut, Conflict, ErrorClass.raise]
  · refine raises_only_bind (raises_only_raise_if fun _ => ?_) fun _ _ => raises_only_pure
    simp [Ordinary, defensive_errors, AlreadyCheckedOut, Conflict, ErrorClass.raise]

theorem raises_only_save {mission : Mission} :
    raises_only (MissionRepositoryImpl.save s mission) Ordinary := by
  unfold MissionRepositoryImpl.save
  split
  · exact raises_only_bind (raises_only_get_or_raise fun _ => by decide) fun _ _ => raises_only_pure
  · exact raises_only_ok

theorem raises_only_new_status {body : UpdateMissionBody} {current : MissionStatus} :
    raises_only (body.new_status current) Ordinary := by
  unfold UpdateMissionBody.new_status
  split
  · exact raises_only_ok
  · next value _ =>
    refine raises_only_get_or_raise fun _ => ?_
    have hne : ∀ {tail : String}, tail.toList.head? ≠ some 'S' →
        "Statut inconnu : " ++ value ++ "." ≠ tail := by
      rintro _ hhead rfl
      simp [String.toList_append] at hhead
    simp only [Ordinary, defensive_errors, AlreadyCheckedOut, Conflict, ErrorClass.raise,
      List.mem_cons, Error.domain_error.injEq, reduceCtorEq, false_and, true_and, false_or,
      List.not_mem_nil, or_false, not_or, not_and]
    exact ⟨fun h => absurd h (hne (by decide)), fun h => absurd h (hne (by decide))⟩

theorem ordinary_copresence_rejected (message code : String) : Ordinary (CoPresenceRejected message code) := by
  simp [Ordinary, defensive_errors, CoPresenceRejected, AlreadyCheckedOut, Conflict, ErrorClass.raise]

variable [LinearOrder F] [NatCast F] {w : World F}

omit [NatCast F] in
theorem CheckInInspector.raises_only_ordinary (cmd : CheckInInspectorCommand F) :
    raises_only (CheckInInspector.execute w env cmd s) Ordinary := by
  apply raises_only_idempotent
  unfold CheckInInspector.body
  refine raises_only_bind (raises_only_get_or_raise fun _ => by decide) fun mission _ => ?_
  refine raises_only_bind (raises_only_raise_if fun _ => by decide) fun _ _ => ?_
  refine raises_only_bind (raises_only_raise_if fun _ => by decide) fun _ _ => ?_
  refine raises_only_bind (raises_only_get_or_raise fun _ => by decide) fun est _ => ?_
  refine raises_only_bind raises_only_window fun _ _ => ?_
  refine raises_only_bind (raises_only_raise_if fun _ => by decide) fun _ _ => ?_
  rw [SiteVisitRepositoryImpl.get_by_mission_id_eq, bind_ok]
  refine raises_only_bind (raises_only_raise_if fun _ => by decide) fun _ _ => ?_
  exact raises_only_bind raises_only_start_check_in fun _ _ => raises_only_pure

theorem ConfirmHostPresence.raises_only_validate {cmd : ConfirmHostCommand F} {d : Dossier F}
    {mission : Mission} {mode : HostValidationMode} :
    raises_only (ConfirmHostPresence.validate w env cmd s (site_visit_to_domain d.visit) mission mode)
      Ordinary := by
  have hlat : (site_visit_to_domain d.visit).inspector_lat = some d.arrival.latitude :=
    d.inspector_lat_visit
  have hlon : (site_visit_to_domain d.visit).inspector_lon = some d.arrival.longitude :=
    d.inspector_lon_visit
  have htime : (site_visit_to_domain d.visit).checked_in_at = some d.arrival.time :=
    d.checked_in_at_visit
  unfold ConfirmHostPresence.validate
  cases mode with
  | APP_GPS =>
    refine raises_only_bind (raises_only_get_or_raise fun _ => by decide) fun _ _ => ?_
    refine raises_only_bind (raises_only_get_or_raise fun _ => by decide) fun _ _ => ?_
    rw [hlat, hlon, htime, get_or_raise_some, bind_ok, get_or_raise_some, bind_ok, get_or_raise_some,
      bind_ok]
    refine raises_only_bind ?_ fun _ _ => raises_only_pure
    refine raises_only_bind (raises_only_raise_if fun _ => by decide) fun _ _ => ?_
    exact raises_only_raise_if fun _ => by decide
  | QR_STATIC =>
    dsimp only
    split
    · refine raises_only_bind (raises_only_verify_host_qr_jwt ordinary_copresence_rejected) fun _ _ => ?_
      exact raises_only_bind (raises_only_get_or_raise fun _ => by decide) fun _ _ => raises_only_pure
    · refine raises_only_bind ?_ fun _ _ => raises_only_pure
      refine raises_only_bind (raises_only_raise_if fun _ => by decide) fun _ _ => ?_
      exact raises_only_raise_if fun _ => by decide
    · exact raises_only_error (by decide)
  | SMS_SHORTCODE =>
    refine raises_only_bind (raises_only_get_or_raise fun _ => by decide) fun _ _ => ?_
    refine raises_only_bind ?_ fun _ _ => raises_only_pure
    refine raises_only_bind (raises_only_get_or_raise fun _ => by decide) fun _ _ => ?_
    refine raises_only_bind (raises_only_raise_if fun _ => by decide) fun _ _ => ?_
    exact raises_only_raise_if fun _ => by decide

theorem ConfirmHostPresence.raises_only_ordinary (hfiled : s.Filed) (cmd : ConfirmHostCommand F) :
    raises_only (ConfirmHostPresence.execute w env cmd s) Ordinary := by
  apply raises_only_idempotent
  unfold ConfirmHostPresence.body
  refine raises_only_bind (raises_only_get_or_raise fun _ => by decide) fun visit hvisit => ?_
  obtain ⟨v, hv, rfl⟩ := Option.map_eq_some_iff.mp (get_or_raise_eq_ok.mp hvisit)
  obtain ⟨d, rfl, _⟩ := hfiled v (Table.mem_of_get hv)
  refine raises_only_bind (raises_only_raise_if fun _ => by decide) fun _ _ => ?_
  refine raises_only_bind (raises_only_get_or_raise fun _ => by decide) fun mission hmission => ?_
  obtain ⟨m, _, rfl⟩ := Option.map_eq_some_iff.mp (get_or_raise_eq_ok.mp hmission)
  refine raises_only_bind (raises_only_raise_if fun _ => by decide) fun _ _ => ?_
  refine raises_only_bind (raises_only_get_or_raise fun _ => by decide) fun est _ => ?_
  refine raises_only_bind (raises_only_raise_if fun _ => by decide) fun _ _ => ?_
  rw [show (site_visit_to_domain d.visit).host_validation_mode = _ from d.mode_visit,
    get_or_raise_some, bind_ok]
  refine raises_only_bind ConfirmHostPresence.raises_only_validate ?_
  rintro ⟨visit, consumed⟩ hvalidate
  obtain ⟨host, _, rfl⟩ := ConfirmHostPresence.validate_eq_ok_iff.mp hvalidate
  refine raises_only_bind ?_ fun visit hvisit => ?_
  · exact raises_only_bind (raises_only_raise_if fun _ => by decide) fun _ _ => raises_only_pure
  · obtain ⟨_, rfl⟩ := mark_copresence_ok_eq_ok.mp hvisit
    have hlat : ((site_visit_to_domain d.visit).with_host host).inspector_lat =
        some d.arrival.latitude := (SiteVisit.inspector_lat_with_host _ _).trans d.inspector_lat_visit
    have hlon : ((site_visit_to_domain d.visit).with_host host).inspector_lon =
        some d.arrival.longitude := (SiteVisit.inspector_lon_with_host _ _).trans d.inspector_lon_visit
    refine raises_only_bind (raises_only_get_or_raise fun hnone => ?_) fun _ _ => ?_
    · change cmd.latitude.or ((site_visit_to_domain d.visit).with_host host).inspector_lat = none at hnone
      simp only [hlat, Option.or_eq_none_iff, reduceCtorEq, and_false] at hnone
    · refine raises_only_bind (raises_only_get_or_raise fun hnone => ?_) fun _ _ => raises_only_pure
      change cmd.longitude.or ((site_visit_to_domain d.visit).with_host host).inspector_lon = none at hnone
      simp only [hlon, Option.or_eq_none_iff, reduceCtorEq, and_false] at hnone

omit [LinearOrder F] [NatCast F] in
theorem CheckOutVisit.raises_only_ordinary (hfiled : s.Filed) (cmd : CheckOutCommand) :
    raises_only (CheckOutVisit.execute env cmd s) Ordinary := by
  apply raises_only_idempotent
  unfold CheckOutVisit.body
  refine raises_only_bind (raises_only_get_or_raise fun _ => by decide) fun mission _ => ?_
  refine raises_only_bind (raises_only_raise_if fun _ => by decide) fun _ _ => ?_
  refine raises_only_bind (raises_only_get_or_raise fun _ => by decide) fun visit hvisit => ?_
  obtain ⟨v, hv, rfl⟩ := Option.map_eq_some_iff.mp (get_or_raise_eq_ok.mp hvisit)
  obtain ⟨d, rfl, _⟩ := hfiled v (Table.mem_of_get hv)
  refine raises_only_bind (raises_only_raise_if fun _ => by decide) fun _ _ => ?_
  refine raises_only_bind ?_ fun _ _ => raises_only_pure
  refine raises_only_bind (raises_only_raise_if fun _ => by decide) fun _ hstatus => ?_
  refine raises_only_bind (raises_only_raise_if fun hclosed => ?_) fun _ _ => raises_only_pure
  obtain ⟨arrival, confirmation, rfl⟩ := d.eq_validated (not_not.mp (raise_if_eq_ok.mp hstatus))
  exact absurd rfl hclosed

/-- In a filed store no request reaches a defensive branch. -/
theorem Call.raises_only_ordinary (hfiled : s.Filed) (call : Call F) :
    raises_only (call.prepare w s) Ordinary := by
  obtain ⟨request, env⟩ := call
  cases request with
  | create_establishment cmd => exact raises_only_ok
  | update_establishment establishment_id body =>
    refine raises_only_map (raises_only_bind (raises_only_get_or_raise fun _ => by decide) fun _ _ => ?_)
    exact raises_only_pure
  | create_mission cmd =>
    refine raises_only_map (raises_only_bind (raises_only_get_or_raise fun _ => by decide) fun _ _ => ?_)
    refine raises_only_bind raises_only_user fun _ _ => ?_
    exact raises_only_bind raises_only_save fun _ _ => raises_only_pure
  | approve_mission cmd =>
    refine raises_only_map (raises_only_bind (raises_only_get_or_raise fun _ => by decide) fun _ _ => ?_)
    refine raises_only_bind (raises_only_raise_if fun _ => by decide) fun _ _ => ?_
    exact raises_only_bind raises_only_save fun _ _ => raises_only_pure
  | cancel_mission cmd =>
    refine raises_only_map (raises_only_bind (raises_only_get_or_raise fun _ => by decide) fun _ _ => ?_)
    refine raises_only_bind (raises_only_raise_if fun _ => by decide) fun _ _ => ?_
    exact raises_only_bind raises_only_save fun _ _ => raises_only_pure
  | reassign_inspector cmd =>
    refine raises_only_map (raises_only_bind (raises_only_get_or_raise fun _ => by decide) fun _ _ => ?_)
    refine raises_only_bind (raises_only_raise_if fun _ => by decide) fun _ _ => ?_
    refine raises_only_bind raises_only_user fun _ _ => ?_
    refine raises_only_bind raises_only_save fun _ _ => ?_
    exact raises_only_bind raises_only_save fun _ _ => raises_only_pure
  | update_mission mission_id body =>
    refine raises_only_map (raises_only_bind (raises_only_get_or_raise fun _ => by decide) fun _ _ => ?_)
    refine raises_only_bind raises_only_new_status fun _ _ => ?_
    exact raises_only_bind raises_only_save fun _ _ => raises_only_pure
  | check_in cmd => exact raises_only_map (CheckInInspector.raises_only_ordinary cmd)
  | confirm_host cmd => exact raises_only_map (ConfirmHostPresence.raises_only_ordinary hfiled cmd)
  | check_out cmd => exact raises_only_map (CheckOutVisit.raises_only_ordinary hfiled cmd)
  | delete_older_than cutoff => exact raises_only_ok

theorem exec_ne_defensive (hfiled : s.Filed) (call : Call F) {e : Error} (he : e ∈ defensive_errors) :
    (exec w call s).1 ≠ .error e := by
  intro hexec
  rcases Database.run_error_cases hexec with hprepare | rfl
  · exact call.raises_only_ordinary hfiled e hprepare he
  · exact absurd he (show Error.IntegrityError ∉ defensive_errors by decide)

end sigis
