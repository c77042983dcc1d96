import Mathlib.Data.Rat.Encodable
import Mathlib.Logic.Equiv.List
import Mathlib.Tactic.DeriveEncodable
import Sigis.Api.Deps
import Sigis.Application.UseCases.Auth

open guarded relational transactional

namespace sigis.accounts

/-- PyJWT, under the key and the algorithm that the access tokens and the tokens of the hosts
share. -/
structure JwtPackage where
  encode : (payload : Payload) → (key algorithm : String) → String
  decode : (token key algorithm : String) → (require : List String) → (now : Int) → Except JwtError Payload

/-- A claim as `verify_host_qr_jwt` sees it: a list is not the text it asks for. -/
def Claim.json : Claim → Json
  | .value json => json
  | .list _ => .null

/-- The claims as `verify_host_qr_jwt` reads them. -/
def Payload.dict (payload : Payload) : Dict := payload.map (Prod.map id Claim.json)

/-- The claims `create_host_qr_jwt` signs. -/
def Payload.of_dict (claims : Dict) : Payload := claims.map (Prod.map id Claim.value)

namespace JwtPackage

/-- As `LoginUser` and `_decode_token` call it: no claim is required. -/
def access (p : JwtPackage) : AccessJWT where
  encode := p.encode
  decode token key algorithm now := p.decode token key algorithm [] now

/-- As `verify_host_qr_jwt` calls it. -/
def host_qr (p : JwtPackage) : PyJWT where
  decode token key algorithm require now := (p.decode token key algorithm require now).map Payload.dict

/-- As `create_host_qr_jwt` calls it. -/
def encode_host_qr (p : JwtPackage) (claims : Dict) (key algorithm : String) : String :=
  p.encode (.of_dict claims) key algorithm

end JwtPackage

/-- The settings both modules read. -/
def Deployment.app_settings (d : Deployment) : AppSettings := ⟨d.settings.secret_key, d.settings.jwt_algorithm⟩

/-- A claim that counts whole seconds. -/
def Payload.seconds (payload : Payload) (key : String) : Option Int :=
  match payload.get key with
  | some (.value (.int n)) => some n
  | _ => none

/-- What `decode` checks of claims that are signed as they should be: those required are there,
and it is neither before `iat` nor past `exp`. -/
def validate (payload : Payload) (require : List String) (now : Int) : Except JwtError Payload := do
  raise_if (∃ claim ∈ require, (payload.get claim).isNone = true) .PyJWTError
  raise_if ((payload.seconds "iat").any (fun iat => now < iat * 1000000) = true) .PyJWTError
  raise_if ((payload.seconds "exp").any (fun exp => exp * 1000000 ≤ now) = true) .ExpiredSignatureError
  return payload

/-- The claims of a token of a host, as the package encodes them. -/
def host_qr_claims (mission : Mission) (host_token : UUID) (ttl_minutes issued_at : Int) (jti : String) : Payload :=
  .of_dict (host_qr_payload mission host_token ttl_minutes issued_at jti)

/-- The claims the program signs. -/
inductive Payload.Issued : Payload → Prop
  | access (d : Deployment) (env : Env) (user : User) : Issued (LoginUser.payload d env user)
  | host_qr (mission : Mission) (host_token : UUID) (ttl_minutes issued_at : Int) (jti : String) :
    Issued (host_qr_claims mission host_token ttl_minutes issued_at jti)

/-- A token of the program decodes, under the key and the algorithm it was encoded with, to its own
claims; what the package makes of others is left open. -/
def JwtPackage.Lawful (p : JwtPackage) : Prop :=
  ∀ (payload : Payload) (key algorithm : String) (require : List String) (now : Int), payload.Issued →
    p.decode (p.encode payload key algorithm) key algorithm require now = validate payload require now

variable {payload : Payload} {require : List String} {now : Int} {key : String} {claims : Dict}

/-- Claims that were signed as a dictionary are read as the same one. -/
theorem Payload.dict_of_dict : (Payload.of_dict claims).dict = claims := by
  unfold Payload.of_dict Payload.dict
  rw [List.map_map]
  exact List.map_id' _

/-- Claims are accepted inside their dates, when those required are there. -/
theorem validate_eq_ok_iff :
    validate payload require now = .ok payload ↔ (∀ claim ∈ require, (payload.get claim).isSome = true) ∧
      (∀ iat, payload.seconds "iat" = some iat → iat * 1000000 ≤ now) ∧
      ∀ exp, payload.seconds "exp" = some exp → now < exp * 1000000 := by
  simp [validate, bind_eq_ok_iff, Option.any_eq_false, ← Option.isSome_iff_ne_none]

/-- What is accepted is what was signed. -/
theorem eq_of_validate {accepted : Payload} (h : validate payload require now = .ok accepted) : accepted = payload := by
  simp only [validate, bind_eq_ok_iff, pure_eq_ok, Except.ok.injEq] at h
  obtain ⟨_, -, _, -, _, -, rfl⟩ := h
  rfl

section host_qr

variable {p : JwtPackage} {d : Deployment} {mission : Mission} {host_token : UUID}
  {ttl_minutes issued_at presented_at : Int}
  {jti token : String}

theorem seconds_iat_host_qr : (host_qr_claims mission host_token ttl_minutes issued_at jti).seconds "iat" =
    some (int_timestamp (datetime.utc issued_at)) := rfl

theorem seconds_exp_host_qr : (host_qr_claims mission host_token ttl_minutes issued_at jti).seconds "exp" =
    some (int_timestamp (host_qr_expiry mission ttl_minutes issued_at)) := rfl

/-- The token is inside its dates: not before the second it was issued in, and before it expires. -/
def HostQrInDate (mission : Mission) (ttl_minutes issued_at presented_at : Int) : Prop :=
  int_timestamp (datetime.utc issued_at) * 1000000 ≤ presented_at ∧
    presented_at < int_timestamp (host_qr_expiry mission ttl_minutes issued_at) * 1000000

instance : Decidable (HostQrInDate mission ttl_minutes issued_at presented_at) := inferInstanceAs (Decidable (_ ∧ _))

/-- A token of a host is accepted inside its dates when no more is required of it than it holds. -/
theorem validate_host_qr_iff {required : List String}
    (hrequired : ∀ claim ∈ required, claim ∈ ["exp", "sub", "ht", "jti"]) :
    validate (host_qr_claims mission host_token ttl_minutes issued_at jti) required presented_at =
        .ok (host_qr_claims mission host_token ttl_minutes issued_at jti) ↔
      HostQrInDate mission ttl_minutes issued_at presented_at := by
  have hheld : ∀ claim ∈ required,
      ((host_qr_claims mission host_token ttl_minutes issued_at jti).get claim).isSome = true := by
    intro claim hclaim
    have hmem := hrequired claim hclaim
    simp only [List.mem_cons, List.not_mem_nil, or_false] at hmem
    rcases hmem with rfl | rfl | rfl | rfl <;> rfl
  rw [validate_eq_ok_iff, seconds_iat_host_qr, seconds_exp_host_qr]
  simp only [Option.some.injEq, forall_eq', HostQrInDate]
  exact and_iff_right hheld

/-- The user is the one the subject spells. -/
theorem extract_user_id_of_sub {id : UUID} (hsub : payload.get "sub" = some (.value (.str id.str)))
    (hid : d.ReadsBack id) : extract_user_id d payload = .ok id := by
  refine bind_eq_ok_iff.mpr ⟨_, get_or_raise_eq_ok.mpr hsub, bind_eq_ok_iff.mpr ⟨(), raise_if_eq_ok.mpr ?_, ?_⟩⟩
  · simp [Claim.truthy, hid.ne_empty]
  · exact get_or_raise_eq_ok.mpr hid.uuid_of

/-- The subject of a token of a host is its mission, and authentication takes it for a user. -/
theorem extract_user_id_host_qr (hid : d.ReadsBack mission.id) :
    extract_user_id d (host_qr_claims mission host_token ttl_minutes issued_at jti) = .ok mission.id :=
  extract_user_id_of_sub rfl hid

/-- Inside its dates a token of a host authenticates as its mission, and only then. -/
theorem current_user_host_qr_iff (hp : p.Lawful) (hd : d.jwt = p.access) (hid : d.ReadsBack mission.id)
    (hissued : create_host_qr_jwt p.encode_host_qr d.app_settings ttl_minutes mission issued_at jti = .ok token)
    {x_user_id : Option String} {user_id : UUID} :
    current_user d presented_at ⟨some token, x_user_id⟩ = .ok user_id ↔
      HostQrInDate mission ttl_minutes issued_at presented_at ∧ user_id = mission.id := by
  obtain ⟨host_token, -, rfl⟩ := create_host_qr_jwt_eq_ok.mp hissued
  have hdecode : d.jwt.decode (p.encode_host_qr (host_qr_payload mission host_token ttl_minutes issued_at jti)
      d.app_settings.secret_key d.app_settings.jwt_algorithm) d.settings.secret_key d.settings.jwt_algorithm
      presented_at =
        validate (host_qr_claims mission host_token ttl_minutes issued_at jti) [] presented_at := by
    rw [hd]
    exact hp _ _ _ _ _ (.host_qr ..)
  have hrequired : ∀ claim ∈ ([] : List String), claim ∈ ["exp", "sub", "ht", "jti"] :=
    fun claim hclaim => absurd hclaim List.not_mem_nil
  simp only [current_user, decode_token, hdecode, bind_eq_ok_iff, mapError_eq_ok]
  rw [← validate_host_qr_iff hrequired]
  constructor
  · rintro ⟨accepted, haccepted, hextract⟩
    obtain rfl := eq_of_validate haccepted
    rw [extract_user_id_host_qr hid] at hextract
    exact ⟨haccepted, (Except.ok.inj hextract).symm⟩
  · rintro ⟨haccepted, rfl⟩
    exact ⟨_, haccepted, extract_user_id_host_qr hid⟩

end host_qr

section access

variable {p : JwtPackage} {d : Deployment} {env : Env} {cmd : LoginCommand} {login : LoginResult} {s t : AccountStore}

/-- A login issues a token for a user. -/
theorem LoginUser.access_token_of_execute (h : LoginUser.execute d env cmd s = (.ok login, t)) :
    ∃ user, login.access_token =
      d.jwt.encode (LoginUser.payload d env user) d.settings.secret_key d.settings.jwt_algorithm := by
  obtain ⟨found, -, hrest⟩ := after_commit_eq_ok_iff.mp h
  cases found with
  | none => cases hrest
  | some user =>
    simp only [bind_eq_ok_iff, raise_if_eq_ok, pure_eq_ok, Except.ok.injEq] at hrest
    obtain ⟨_, -, _, -, rfl⟩ := hrest
    exact ⟨user, rfl⟩

/-- An access token does not hold what is required of a token of a host. -/
theorem verify_access_token (hp : p.Lawful) (hd : d.jwt = p.access) (h : LoginUser.execute d env cmd s = (.ok login, t))
    (mission : Mission) (decoded_at now : Int) :
    verify_host_qr_jwt p.host_qr d.app_settings login.access_token mission decoded_at now =
      .error (CoPresenceRejected "Jeton QR invalide." "INVALID_QR_TOKEN") := by
  obtain ⟨user, htoken⟩ := LoginUser.access_token_of_execute h
  have hdecode : p.decode login.access_token d.app_settings.secret_key d.app_settings.jwt_algorithm
      ["exp", "sub", "ht", "jti"] decoded_at = .error .PyJWTError := by
    rw [htoken, hd]
    refine (hp _ _ _ _ _ (.access ..)).trans ?_
    have hmissing : ∃ claim ∈ ["exp", "sub", "ht", "jti"], ((LoginUser.payload d env user).get claim).isNone = true :=
      ⟨"ht", by decide, rfl⟩
    rw [validate, raise_if, if_pos hmissing]
    rfl
  simp only [verify_host_qr_jwt, JwtPackage.host_qr, hdecode]
  rfl

end access

/-- The kinds of tokens are kept apart exactly while the token of the host is out of its dates: an
access token is never one of a host, and inside its dates that one names its mission as a user. -/
theorem token_kinds_separate_iff {p : JwtPackage} {d : Deployment} {env : Env} {cmd : LoginCommand}
    {login : LoginResult} {s t : AccountStore} {mission : Mission} {ttl_minutes issued_at presented_at : Int}
    {jti token : String}
    (hp : p.Lawful) (hd : d.jwt = p.access) (hid : d.ReadsBack mission.id)
    (hissued : create_host_qr_jwt p.encode_host_qr d.app_settings ttl_minutes mission issued_at jti = .ok token)
    (hlogin : LoginUser.execute d env cmd s = (.ok login, t)) :
    ((∀ x_user_id user_id, current_user d presented_at ⟨some token, x_user_id⟩ ≠ .ok user_id) ∧
      ∀ (other : Mission) (decoded_at now : Int) (accepted : String),
        verify_host_qr_jwt p.host_qr d.app_settings login.access_token other decoded_at now ≠ .ok accepted) ↔
      ¬ HostQrInDate mission ttl_minutes issued_at presented_at := by
  constructor
  · rintro ⟨hrefused, -⟩ hdate
    exact hrefused none mission.id ((current_user_host_qr_iff hp hd hid hissued).mpr ⟨hdate, rfl⟩)
  · intro hdate
    refine ⟨fun x_user_id user_id haccepted => ?_, fun other decoded_at now accepted haccepted => ?_⟩
    · exact hdate ((current_user_host_qr_iff hp hd hid hissued).mp haccepted).1
    · rw [verify_access_token hp hd hlogin] at haccepted
      cases haccepted

namespace numbered

instance encodable_char : Encodable Char := Encodable.ofLeftInverse Char.toNat Char.ofNat Char.ofNat_toNat

instance encodable_string : Encodable String :=
  Encodable.ofLeftInverse String.toList String.ofList fun _ => String.ofList_toList

deriving instance Encodable for datetime

deriving instance Encodable for Json

deriving instance Encodable for Claim

/-- A package whose tokens are as long as the number of what they sign. -/
def package : JwtPackage where
  encode payload key algorithm := String.ofList (List.replicate (Encodable.encode (payload, key, algorithm)) '.')
  decode token key algorithm require now :=
    match (Encodable.decode token.toList.length : Option (Payload × String × String)) with
    | some (payload, key', algorithm') =>
      if key' = key ∧ algorithm' = algorithm then validate payload require now else .error .PyJWTError
    | none => .error .PyJWTError

/-- The package reads back what it signs. -/
theorem lawful : package.Lawful := by
  intro payload key algorithm require now _
  simp [package]

/-- A deployment that shares the package. -/
def deployment : Deployment := { Deployment.small "" with jwt := package.access }

/-- A mission with an open window. -/
def mission : Mission where
  id := ⟨"6f1c3c52-0b3e-4f35-9d5b-0e8d6a3a1b77"⟩
  establishment_id := ⟨"school"⟩
  inspector_id := ⟨"inspector"⟩
  window_start := .utc 0
  window_end := .utc (minutes 60)
  host_token := some ⟨"host-token"⟩

theorem jwt_deployment : deployment.jwt = package.access := rfl

theorem reads_back_mission : deployment.ReadsBack mission.id := ⟨by decide, by decide⟩

def jti : String := "0123456789abcdef0123456789abcdef"

/-- The token of the mission, issued at the start of its window for five minutes. -/
def token : String :=
  package.encode_host_qr (host_qr_payload mission ⟨"host-token"⟩ 5 0 jti) deployment.app_settings.secret_key
    deployment.app_settings.jwt_algorithm

/-- The token is what the mission is issued. -/
theorem issued : create_host_qr_jwt package.encode_host_qr deployment.app_settings 5 mission 0 jti = .ok token := rfl

/-- The account of an inspector. -/
def account : UserModel where
  id := ⟨"inspector"⟩
  email := "inspector@sigis.cm"
  full_name := "Inspecteur"
  phone_number := "+237650000004"
  hashed_password := "salt$Changeme@2026"
  role := "INSPECTOR"
  is_active := true
  created_at := none
  updated_at := none

/-- The account alone. -/
def store : AccountStore := { AccountStore.empty with users := ⟨[account], List.pairwise_singleton _ _⟩ }

/-- The inspector logs in. -/
theorem logged_in : ∃ login, LoginUser.execute deployment (.small 0) ⟨"inspector@sigis.cm", "Changeme@2026"⟩ store =
    (.ok login, store) := ⟨_, rfl⟩

end numbered

/-- One minute after it was issued, the token of a mission authenticates as the user that has the
identifier of the mission. -/
theorem host_qr_token_authenticates :
    numbered.package.Lawful ∧ numbered.deployment.jwt = numbered.package.access ∧
    create_host_qr_jwt numbered.package.encode_host_qr numbered.deployment.app_settings 5 numbered.mission 0
      numbered.jti = .ok numbered.token ∧
    current_user numbered.deployment (minutes 1) ⟨some numbered.token, none⟩ = .ok numbered.mission.id := by
  refine ⟨numbered.lawful, numbered.jwt_deployment, numbered.issued, ?_⟩
  refine (current_user_host_qr_iff numbered.lawful numbered.jwt_deployment numbered.reads_back_mission
    numbered.issued).mpr ⟨?_, rfl⟩
  decide

/-- Five minutes after it was issued, the two kinds are apart. -/
theorem numbered_kinds_separate : ∃ login : LoginResult,
    (∀ x_user_id user_id, current_user numbered.deployment (minutes 5) ⟨some numbered.token, x_user_id⟩ ≠ .ok user_id) ∧
    ∀ (other : Mission) (decoded_at now : Int) (accepted : String),
      verify_host_qr_jwt numbered.package.host_qr numbered.deployment.app_settings login.access_token other decoded_at
        now ≠ .ok accepted := by
  obtain ⟨login, hlogin⟩ := numbered.logged_in
  refine ⟨login, (token_kinds_separate_iff numbered.lawful numbered.jwt_deployment numbered.reads_back_mission
    numbered.issued hlogin).mpr ?_⟩
  decide

end sigis.accounts
