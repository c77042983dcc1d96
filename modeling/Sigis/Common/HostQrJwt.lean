import Sigis.Domain.Mission

open guarded

namespace sigis

inductive JwtError
  | ExpiredSignatureError
  | PyJWTError
deriving DecidableEq, Repr

/-- The part of the PyJWT package the program calls: `decode` of a token under a key
and one accepted algorithm, with the required claims, at a reading of the clock. -/
structure PyJWT where
  decode : (token key algorithm : String) → (require : List String) → (now : Int) →
    Except JwtError Dict

/-- The settings the confirmation of a host reads. -/
structure AppSettings where
  secret_key : String
  jwt_algorithm : String

def JwtError.to_domain : JwtError → Error
  | .ExpiredSignatureError => CoPresenceRejected "Jeton QR expiré." "INVALID_QR_TOKEN"
  | .PyJWTError => CoPresenceRejected "Jeton QR invalide." "INVALID_QR_TOKEN"

/-- `int(dt.timestamp())`. -/
def int_timestamp (dt : datetime) : Int := dt.instant.tdiv 1000000

/-- `exp` in `create_host_qr_jwt`: the time to live, cut at the end of the window. -/
def host_qr_expiry (mission : Mission) (ttl_minutes now : Int) : datetime :=
  let exp := datetime.utc (now + minutes ttl_minutes)
  let we := mission.window_end.aware
  if ¬ exp ≤ we then we else exp

/-- The claims of the token issued at `now` under the nonce `jti`. -/
def host_qr_payload (mission : Mission) (host_token : UUID) (ttl_minutes now : Int) (jti : String) : Dict :=
  [("sub", .str mission.id.str),
    ("ht", .str host_token.str),
    ("typ", .str "host_qr"),
    ("jti", .str jti),
    ("iat", .int (int_timestamp (datetime.utc now))),
    ("exp", .int (int_timestamp (host_qr_expiry mission ttl_minutes now)))]

/-- `create_host_qr_jwt`, given `jwt.encode`. -/
def create_host_qr_jwt (encode : (payload : Dict) → (key algorithm : String) → String) (settings : AppSettings)
    (ttl_minutes : Int) (mission : Mission) (now : Int) (jti : String) : Except Error String := do
  let host_token ← get_or_raise mission.host_token (.ValueError "host_token manquant pour JWT QR.")
  return encode (host_qr_payload mission host_token ttl_minutes now jti) settings.secret_key settings.jwt_algorithm

/-- A token expires when its time to live or the window of its mission ends. -/
theorem instant_host_qr_expiry (mission : Mission) (ttl_minutes now : Int) :
    (host_qr_expiry mission ttl_minutes now).instant = min (now + minutes ttl_minutes) mission.window_end.instant := by
  unfold host_qr_expiry
  simp only [datetime.le_def, datetime.instant_utc, datetime.instant_aware]
  split
  · next h => rw [datetime.instant_aware, min_eq_right (by omega)]
  · next h => rw [datetime.instant_utc, min_eq_left (by omega)]

theorem create_host_qr_jwt_eq_ok {encode : Dict → String → String → String} {settings : AppSettings}
    {ttl_minutes now : Int} {mission : Mission} {jti token : String} :
    create_host_qr_jwt encode settings ttl_minutes mission now jti = .ok token ↔
      ∃ host_token, mission.host_token = some host_token ∧
        encode (host_qr_payload mission host_token ttl_minutes now jti) settings.secret_key settings.jwt_algorithm =
          token := by
  simp only [create_host_qr_jwt, bind_eq_ok_iff, get_or_raise_eq_ok, pure_eq_ok, Except.ok.injEq]

/-- `jti` when it is a `str` of at least eight characters. -/
def usable_jti : Option Json → Option String
  | some (.str jti) => if jti.length < 8 then none else some jti
  | _ => none

/-- `verify_host_qr_jwt`: PyJWT reads the clock at `decoded_at`, the function itself
later, at `now`. -/
def verify_host_qr_jwt (jwt : PyJWT) (settings : AppSettings) (token : String)
    (mission : Mission) (decoded_at now : Int) : Except Error String := do
  let payload ← (jwt.decode token settings.secret_key settings.jwt_algorithm
    ["exp", "sub", "ht", "jti"] decoded_at).mapError JwtError.to_domain
  raise_if (payload.get "typ" ≠ some (.str "host_qr"))
    (CoPresenceRejected "Type de jeton QR inattendu." "INVALID_QR_TOKEN")
  raise_if (payload.get "sub" ≠ some (.str mission.id.str))
    (CoPresenceRejected "Jeton QR : mission incohérente." "INVALID_QR_TOKEN")
  let host_token ← get_or_raise mission.host_token
    (CoPresenceRejected "Mission sans host_token." "INVALID_QR_TOKEN")
  raise_if (payload.get "ht" ≠ some (.str host_token.str))
    (CoPresenceRejected "Jeton QR : host_token incohérent." "INVALID_QR_TOKEN")
  let jti ← get_or_raise (usable_jti (payload.get "jti"))
    (CoPresenceRejected "Jeton QR : jti manquant." "INVALID_QR_TOKEN")
  let nw := datetime.utc now
  let ws := mission.window_start.aware
  let we := mission.window_end.aware
  raise_if (¬ (ws ≤ nw ∧ nw ≤ we))
    (CoPresenceRejected "Mission hors fenêtre pour validation QR." "MISSION_EXPIRED")
  return jti

/-- An accepted token decodes to claims naming this mission and its host token, and
is presented inside the window. -/
theorem verify_host_qr_jwt_eq_ok {jwt : PyJWT} {settings : AppSettings} {token jti : String}
    {mission : Mission} {decoded_at now : Int} :
    verify_host_qr_jwt jwt settings token mission decoded_at now = .ok jti ↔
      ∃ payload, jwt.decode token settings.secret_key settings.jwt_algorithm
          ["exp", "sub", "ht", "jti"] decoded_at = .ok payload ∧
        payload.get "typ" = some (.str "host_qr") ∧
        payload.get "sub" = some (.str mission.id.str) ∧
        (∃ host_token, mission.host_token = some host_token ∧
          payload.get "ht" = some (.str host_token.str)) ∧
        usable_jti (payload.get "jti") = some jti ∧
        in_window (datetime.utc now) mission.window_start mission.window_end := by
  simp only [verify_host_qr_jwt, bind_eq_ok_iff, mapError_eq_ok, raise_if_eq_ok,
    get_or_raise_eq_ok, pure_eq_ok, Except.ok.injEq, not_not]
  constructor
  · rintro ⟨payload, hdecode, _, htyp, _, hsub, ht, hht, _, hclaim, j, hj, _, hwindow, rfl⟩
    exact ⟨payload, hdecode, htyp, hsub, ⟨ht, hht, hclaim⟩, hj, hwindow⟩
  · rintro ⟨payload, hdecode, htyp, hsub, ⟨ht, hht, hclaim⟩, hj, hwindow⟩
    exact ⟨payload, hdecode, (), htyp, (), hsub, ht, hht, (), hclaim, jti, hj, (), hwindow, rfl⟩

/-- Whatever it is given, the check of a token raises nothing else than `CoPresenceRejected`. -/
theorem raises_only_verify_host_qr_jwt {jwt : PyJWT} {settings : AppSettings} {token : String} {mission : Mission}
    {decoded_at now : Int} {p : Error → Prop} (hp : ∀ message code, p (CoPresenceRejected message code)) :
    raises_only (verify_host_qr_jwt jwt settings token mission decoded_at now) p := by
  refine raises_only_bind (raises_only_mapError fun e _ => ?_) fun payload _ => ?_
  · cases e <;> exact hp _ _
  refine raises_only_bind (raises_only_raise_if fun _ => hp _ _) fun _ _ => ?_
  refine raises_only_bind (raises_only_raise_if fun _ => hp _ _) fun _ _ => ?_
  refine raises_only_bind (raises_only_get_or_raise fun _ => hp _ _) fun _ _ => ?_
  refine raises_only_bind (raises_only_raise_if fun _ => hp _ _) fun _ _ => ?_
  refine raises_only_bind (raises_only_get_or_raise fun _ => hp _ _) fun _ _ => ?_
  exact raises_only_bind (raises_only_raise_if fun _ => hp _ _) fun _ _ => raises_only_pure

end sigis
