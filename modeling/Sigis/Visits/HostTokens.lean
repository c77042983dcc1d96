import Sigis.Accounts.Tokens
import Sigis.Visits.Evidence

open guarded relational transactional transition
open sigis.accounts (JwtPackage HostQrInDate host_qr_claims validate_host_qr_iff eq_of_validate)

namespace sigis

section issued

variable {p : JwtPackage} {settings : AppSettings} {mission verified : Mission}
  {ttl_minutes issued_at decoded_at now : Int} {jti token accepted : String}

/-- The second a token is issued in is past when the clock is past its issue, and not before the epoch. -/
theorem host_qr_in_date_iff (hepoch : 0 ≤ issued_at) (hlater : issued_at ≤ decoded_at) :
    HostQrInDate mission ttl_minutes issued_at decoded_at ↔
      decoded_at < min (issued_at + minutes ttl_minutes) mission.window_end.instant / 1000000 * 1000000 := by
  unfold HostQrInDate int_timestamp
  rw [instant_host_qr_expiry, datetime.instant_utc, Int.tdiv_eq_ediv_of_nonneg hepoch]
  generalize min (issued_at + minutes ttl_minutes) mission.window_end.instant = expiry
  rcases le_or_gt 0 expiry with h | h
  · rw [Int.tdiv_eq_ediv_of_nonneg h]
    omega
  · -- An end before the epoch is past, however its second is rounded.
    have htruncated := Int.neg_tdiv expiry 1000000
    rw [Int.tdiv_eq_ediv_of_nonneg (by omega)] at htruncated
    omega

/-- The claims of an issued token, as the check reads them. -/
theorem decode_host_qr_eq_ok_iff (hp : p.Lawful) {host_token : UUID} {payload : Dict} :
    p.host_qr.decode (p.encode_host_qr (host_qr_payload mission host_token ttl_minutes issued_at jti)
        settings.secret_key settings.jwt_algorithm) settings.secret_key settings.jwt_algorithm
        ["exp", "sub", "ht", "jti"] decoded_at = .ok payload ↔
      HostQrInDate mission ttl_minutes issued_at decoded_at ∧
        payload = host_qr_payload mission host_token ttl_minutes issued_at jti := by
  have hrequired : ∀ claim ∈ ["exp", "sub", "ht", "jti"], claim ∈ ["exp", "sub", "ht", "jti"] :=
    fun claim hclaim => hclaim
  have hdecode := hp (host_qr_claims mission host_token ttl_minutes issued_at jti) settings.secret_key
    settings.jwt_algorithm ["exp", "sub", "ht", "jti"] decoded_at (.host_qr ..)
  have hdict : (host_qr_claims mission host_token ttl_minutes issued_at jti).dict =
      host_qr_payload mission host_token ttl_minutes issued_at jti :=
    accounts.Payload.dict_of_dict
  rw [← validate_host_qr_iff hrequired]
  change (p.decode (p.encode (host_qr_claims mission host_token ttl_minutes issued_at jti) settings.secret_key
    settings.jwt_algorithm) settings.secret_key settings.jwt_algorithm ["exp", "sub", "ht", "jti"] decoded_at).map
      accounts.Payload.dict = .ok payload ↔ _
  rw [hdecode]
  constructor
  · intro h
    obtain ⟨claims, hclaims, rfl⟩ := map_eq_ok_iff.mp h
    obtain rfl := eq_of_validate hclaims
    exact ⟨hclaims, hdict⟩
  · rintro ⟨hclaims, rfl⟩
    rw [hclaims]
    exact congrArg Except.ok hdict

/-- At every instant: when the check accepts an issued token, and what it returns. -/
theorem verify_issued_eq_ok_iff (hp : p.Lawful)
    (hissued : create_host_qr_jwt p.encode_host_qr settings ttl_minutes mission issued_at jti = .ok token)
    (hjti : jti.length = 32) :
    verify_host_qr_jwt p.host_qr settings token verified decoded_at now = .ok accepted ↔
      accepted = jti ∧ verified.id = mission.id ∧ verified.host_token = mission.host_token ∧
        HostQrInDate mission ttl_minutes issued_at decoded_at ∧
        verified.window_start.instant ≤ now ∧ now ≤ verified.window_end.instant := by
  obtain ⟨host_token, hhost_token, rfl⟩ := create_host_qr_jwt_eq_ok.mp hissued
  have husable : usable_jti (some (.str jti)) = some jti := if_neg (by omega)
  rw [verify_host_qr_jwt_eq_ok, hhost_token, in_window_iff, datetime.instant_utc]
  constructor
  · rintro ⟨payload, hdecode, -, hsub, ⟨ht, hht, hclaim⟩, hnonce, hwindow⟩
    obtain ⟨hdate, rfl⟩ := (decode_host_qr_eq_ok_iff hp).mp hdecode
    have hid : some (Json.str mission.id.str) = some (.str verified.id.str) := hsub
    have htoken : some (Json.str host_token.str) = some (.str ht.str) := hclaim
    have haccepted : usable_jti (some (.str jti)) = some accepted := hnonce
    simp only [Option.some.injEq, Json.str.injEq, UUID.str_inj] at hid htoken
    rw [husable, Option.some.injEq] at haccepted
    exact ⟨haccepted.symm, hid.symm, hht.trans (congrArg some htoken.symm), hdate, hwindow⟩
  · rintro ⟨rfl, hid, hht, hdate, hwindow⟩
    refine ⟨_, (decode_host_qr_eq_ok_iff hp).mpr ⟨hdate, rfl⟩, rfl, ?_, ⟨host_token, hht, rfl⟩, husable, hwindow⟩
    rw [hid]
    rfl

end issued

section runs

variable {F : Type} [LinearOrder F] [NatCast F] {w : World F} {token jti : String} {site_visit_id : UUID}
  {s t : Store F} {call : Call F} {calls : List (Call F)}

/-- By this call the token confirms a visit that waits for a QR code. -/
structure Call.ConfirmsBy (call : Call F) (token : String) (site_visit_id : UUID) (s t : Store F) : Prop where
  shown : ∃ cmd : ConfirmHostCommand F, call.request = .confirm_host cmd ∧ cmd.site_visit_id = site_visit_id ∧
    cmd.qr_jwt = some token
  waiting : ∃ v, s.site_visits.get site_visit_id = some v ∧ v.host_validation_mode = some .QR_STATIC ∧
    v.status = .PENDING_HOST
  confirmed : ∃ v, t.site_visits.get site_visit_id = some v ∧ v.status = .COPRESENCE_OK

omit [LinearOrder F] [NatCast F] in
theorem Call.ConfirmsBy.changes (h : call.ConfirmsBy token site_visit_id s t) : t ≠ s := by
  rintro rfl
  obtain ⟨v, hv, -, hwaiting⟩ := h.waiting
  obtain ⟨v', hv', hconfirmed⟩ := h.confirmed
  obtain rfl := Option.some.inj (hv.symm.trans hv')
  rw [hwaiting] at hconfirmed
  cases hconfirmed

/-- A token that confirms a visit was accepted under a nonce that nobody had consumed, and consumes it. -/
theorem Call.ConfirmsBy.consumes (h : call.ConfirmsBy token site_visit_id s t) (hserved : Served w s call t) :
    ∃ (mission : Mission) (jti : String), verify_host_qr_jwt w.jwt w.settings token mission call.env.jwt_decoded_at
        call.env.jwt_verified_at = .ok jti ∧
      s.used_qr_jti.get jti = none ∧ ∃ used ∈ t.used_qr_jti.rows, used.jti = jti := by
  obtain ⟨cmd, hrequest, rfl, hshown⟩ := h.shown
  obtain ⟨v, hv, hmode, -⟩ := h.waiting
  obtain ⟨request, env⟩ := call
  cases hrequest
  rcases hserved.outcome with rfl | ⟨r, houtcome⟩
  · exact absurd rfl h.changes
  cases houtcome with
  | replayed => exact absurd rfl h.changes
  | confirm_host hconfirmed =>
    obtain rfl := Option.some.inj (hconfirmed.admits.visit.symm.trans hv)
    obtain rfl := Option.some.inj (hconfirmed.admits.validation_mode.symm.trans hmode)
    have haccepts := hconfirmed.admits.accepts
    have hjtis := hconfirmed.jtis
    generalize hmodes : HostValidationMode.QR_STATIC = mode at haccepts
    cases haccepts with
    | app_gps | sms => cases hmodes
    | qr_token hjwt =>
      rw [hshown] at hjwt
      cases hjwt
    | qr_jwt hjwt hverify hfree =>
      obtain rfl := Option.some.inj (hjwt.symm.trans hshown)
      obtain ⟨rows, hrows, hnil⟩ := Store.commit_add_used_qr_jti.mp hjtis
      cases hnil
      have hinserted := Table.rows_insert hrows
      exact ⟨_, _, hverify, hfree, _, hinserted ▸ List.mem_append_right _ (List.mem_singleton.mpr rfl), rfl⟩

/-- A consumed nonce stays consumed. -/
theorem consumed_of_run (hrun : Run w s calls t) (hused : ∃ used ∈ s.used_qr_jti.rows, used.jti = jti) :
    ∃ used ∈ t.used_qr_jti.rows, used.jti = jti := by
  refine invariant_of_outcomes (fun x => ∃ used ∈ x.used_qr_jti.rows, used.jti = jti) hrun hused ?_
  rintro x call r y ⟨used, hmem, hjti⟩ _ houtcome
  exact ⟨used, houtcome.extends.jtis.subset hmem, hjti⟩

/-- A token that is only ever accepted under one nonce confirms one visit, once. -/
theorem not_confirmsBy_twice (hnonce : ∀ mission decoded_at now accepted,
      verify_host_qr_jwt w.jwt w.settings token mission decoded_at now = .ok accepted → accepted = jti)
    {x y : Store F} {later : Call F} {other_visit_id : UUID} (hfirst : Served w s call t)
    (hconfirms : call.ConfirmsBy token site_visit_id s t) (hbetween : Run w t calls x) (hlast : Served w x later y) :
    ¬ later.ConfirmsBy token other_visit_id x y := by
  intro hagain
  obtain ⟨_, _, hverify, -, hused⟩ := hconfirms.consumes hfirst
  obtain ⟨_, _, hverify', hfree, -⟩ := hagain.consumes hlast
  rw [hnonce _ _ _ _ hverify] at hused
  rw [hnonce _ _ _ _ hverify'] at hfree
  obtain ⟨used, hmem, hjti⟩ := consumed_of_run hbetween hused
  exact Table.get_eq_none_iff.mp hfree used hmem hjti

end runs

/-- The round trip of an issued token. From the epoch on, the check accepts it exactly for its mission and the host
token it was issued under, before the whole second in which its time to live or the window of then ends, and inside the
window of now; it returns the token's own nonce, and raises nothing else than `CoPresenceRejected`. In a run, the token
confirms one visit at most, once. -/
theorem host_qr_round_trip {p : JwtPackage} {settings : AppSettings} {mission : Mission} {ttl_minutes issued_at : Int}
    {jti token : String} (hp : p.Lawful)
    (hissued : create_host_qr_jwt p.encode_host_qr settings ttl_minutes mission issued_at jti = .ok token)
    (hjti : jti.length = 32) :
    (∀ verified decoded_at now, 0 ≤ issued_at → issued_at ≤ decoded_at → ∀ accepted,
      verify_host_qr_jwt p.host_qr settings token verified decoded_at now = .ok accepted ↔
        accepted = jti ∧ verified.id = mission.id ∧ verified.host_token = mission.host_token ∧
          decoded_at < min (issued_at + minutes ttl_minutes) mission.window_end.instant / 1000000 * 1000000 ∧
          verified.window_start.instant ≤ now ∧ now ≤ verified.window_end.instant) ∧
    (∀ verified decoded_at now, raises_only (verify_host_qr_jwt p.host_qr settings token verified decoded_at now)
      fun e => ∃ message code, e = CoPresenceRejected message code) ∧
    ∀ {F : Type} [LinearOrder F] [NatCast F] (w : World F), w.jwt = p.host_qr → w.settings = settings →
      ∀ {init s t x y : Store F} {before between : List (Call F)} {first later : Call F}
        {visit_id other_visit_id : UUID},
        Run w init before s → Served w s first t → Run w t between x → Served w x later y →
          first.ConfirmsBy token visit_id s t → ¬ later.ConfirmsBy token other_visit_id x y := by
  refine ⟨?_, ?_, ?_⟩
  · intro verified decoded_at now hepoch hlater accepted
    rw [verify_issued_eq_ok_iff hp hissued hjti, host_qr_in_date_iff hepoch hlater]
  · intro verified decoded_at now
    exact raises_only_verify_host_qr_jwt fun message code => ⟨message, code, rfl⟩
  · intro F _ _ w hjwt hsettings init s t x y before between first later visit_id other_visit_id _ hfirst hbetween hlast
      hconfirms
    have hnonce : ∀ verified decoded_at now accepted,
        verify_host_qr_jwt w.jwt w.settings token verified decoded_at now = .ok accepted → accepted = jti := by
      intro verified decoded_at now accepted haccepted
      rw [hjwt, hsettings] at haccepted
      exact ((verify_issued_eq_ok_iff hp hissued hjti).mp haccepted).1
    exact not_confirmsBy_twice hnonce hfirst hconfirms hbetween hlast

namespace pilot

/-- The pilot mission, in a window of one hour. -/
def hour_mission : MissionModel := { mission with window_end := ⟨minutes 60, none⟩ }

/-- The inspector has arrived, and waits for the host. -/
noncomputable def waiting : Store ℝ :=
  { arrived with missions := ⟨[hour_mission], List.pairwise_singleton _ _⟩ }

def settings : AppSettings := ⟨"secret", "HS256"⟩

noncomputable def token_world : World ℝ := .earth settings accounts.numbered.package.host_qr

/-- The token of the mission, issued at the start of its window for five minutes. -/
def token : String :=
  accounts.numbered.package.encode_host_qr
    (host_qr_payload (mission_to_domain hour_mission) ⟨"host-token"⟩ 5 0 accounts.numbered.jti)
    settings.secret_key settings.jwt_algorithm

theorem issued : create_host_qr_jwt accounts.numbered.package.encode_host_qr settings 5
    (mission_to_domain hour_mission) 0 accounts.numbered.jti = .ok token := rfl

noncomputable def show_token : Call ℝ where
  request := .confirm_host { confirm "host" "confirm-1" with
    qr_token := none
    qr_jwt := some token }
  env := surroundings "2" 20

theorem verified : verify_host_qr_jwt accounts.numbered.package.host_qr settings token
    (mission_to_domain hour_mission) 20 20 =
    .ok accounts.numbered.jti :=
  (verify_issued_eq_ok_iff accounts.numbered.lawful issued (by decide)).mpr (by decide)

/-- The host shows the token, and the visit is confirmed. -/
theorem token_confirms : ∃ t, Served token_world waiting show_token t ∧
    show_token.ConfirmsBy token ⟨"visit-1"⟩ waiting t := by
  have hadmits : ConfirmHostPresence.Admits token_world (surroundings "2" 20)
      { confirm "host" "confirm-1" with qr_token := none, qr_jwt := some token } waiting visit hour_mission school
      .QR_STATIC none [.add_used_qr_jti ⟨accounts.numbered.jti, ⟨"mission"⟩, datetime.utc 20⟩] 0 0 :=
    { visit := rfl
      mission_id := rfl
      mission := rfl
      approved := by decide
      establishment := rfl
      authorised := by
        intro user_id h
        cases h
      validation_mode := rfl
      accepts := .qr_jwt rfl verified rfl
      pending := rfl
      latitude := rfl
      longitude := rfl }
  obtain ⟨t, hconfirmed, hserved⟩ := hadmits.served (show (surroundings "2" 20).Fresh waiting by decide) rfl
  refine ⟨t, hserved, ⟨_, rfl, rfl, rfl⟩, ⟨visit, rfl, rfl, rfl⟩, _, hconfirmed.visits.get_self, ?_⟩
  rw [SiteVisitModel.assigned_confirmed]

end pilot

/-- The token of the pilot mission is accepted, confirms its visit, and confirms none later. -/
theorem pilot_token_round_trip :
    verify_host_qr_jwt accounts.numbered.package.host_qr pilot.settings pilot.token
      (mission_to_domain pilot.hour_mission) 20 20 = .ok accounts.numbered.jti ∧
    ∃ t, pilot.show_token.ConfirmsBy pilot.token ⟨"visit-1"⟩ pilot.waiting t ∧
      ∀ calls x later y other_visit_id, Run pilot.token_world t calls x → Served pilot.token_world x later y →
        ¬ later.ConfirmsBy pilot.token other_visit_id x y := by
  obtain ⟨haccepted, -, honce⟩ := host_qr_round_trip accounts.numbered.lawful pilot.issued (by decide)
  obtain ⟨t, hserved, hconfirms⟩ := pilot.token_confirms
  refine ⟨(haccepted _ 20 20 (by decide) (by decide) _).mpr (by decide), t, hconfirms, ?_⟩
  intro calls x later y other_visit_id hrun hlast
  exact honce pilot.token_world rfl rfl .refl hserved hrun hlast hconfirms

end sigis
