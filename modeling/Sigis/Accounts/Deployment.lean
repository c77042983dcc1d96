import Mathlib.Data.List.Basic
import Sigis.Accounts.Errors
import Sigis.Common.HostQrJwt
import Sigis.Domain.Identity

namespace sigis.accounts

/-- `pwd_context` of passlib; `hash` draws a salt. -/
structure CryptContext where
  hash : (salt secret : String) → String
  verify : (secret hashed : String) → Bool

/-- The value of a claim of an access token. -/
inductive Claim
  | value (json : Json)
  | list (items : List Json)

/-- `bool(claim)`. -/
def Claim.truthy : Claim → Bool
  | .value .null => false
  | .value (.str text) => text ≠ ""
  | .value (.int n) => n ≠ 0
  | .value (.float x) => x ≠ 0
  | .value (.isoformat _) => true
  | .list items => !items.isEmpty

/-- The claims of an access token, in insertion order. -/
abbrev Payload := List (String × Claim)

/-- `payload.get(key)`. -/
def Payload.get (payload : Payload) (key : String) : Option Claim :=
  (payload.find? fun item => item.1 = key).map Prod.snd

/-- The part of the PyJWT package the accounts call. -/
structure AccessJWT where
  encode : (payload : Payload) → (key algorithm : String) → String
  decode : (token key algorithm : String) → (now : Int) → Except JwtError Payload

structure Settings where
  is_dev : Bool
  secret_key : String
  jwt_algorithm : String
  access_token_expire_minutes : Int
  reset_token_expire_minutes : Int
  mail_server : String

/-- What the account operations are given once for all: the settings, the packages for
passwords and tokens, `str.lower`, what `str.upper` makes of a character outside of ASCII, and
the texts `UUID(text)` accepts. -/
structure Deployment where
  settings : Settings
  pwd_context : CryptContext
  jwt : AccessJWT
  lower : String → String
  upper_of : Char → List Char
  uuid_of : String → Option UUID

/-- Texts in small letters are left as they are, as `str.lower` does. -/
def Deployment.LowersOnce (d : Deployment) : Prop := ∀ text, d.lower (d.lower text) = d.lower text

/-- `UUID(str(id))` is the identifier, whose text is not empty. -/
structure Deployment.ReadsBack (d : Deployment) (id : UUID) : Prop where
  uuid_of : d.uuid_of id.str = some id
  ne_empty : id.str ≠ ""

/-- `text.upper()`. -/
def Deployment.upper (d : Deployment) (text : String) : String :=
  String.ofList (text.toList.flatMap fun c => if c.toNat < 128 then [c.toUpper] else d.upper_of c)

/-- ASCII letters are raised whatever becomes of the other characters. -/
theorem Deployment.upper_of_ascii (d : Deployment) {text : String} (h : text.toList.all (·.toNat < 128) = true) :
    d.upper text = String.ofList (text.toList.map Char.toUpper) := by
  rw [upper, List.map_eq_flatMap]
  refine congrArg String.ofList (List.flatMap_congr fun c hc => ?_)
  rw [if_pos (by simpa using List.all_eq_true.mp h c hc)]

/-- A deployment on ASCII texts, with hashes that show their salt and tokens that show the
identifier and the role they were issued for. -/
def Deployment.small (mail_server : String) : Deployment where
  settings := ⟨false, "secret", "HS256", 60, 30, mail_server⟩
  pwd_context := {
    hash := fun salt secret => salt ++ "$" ++ secret
    verify := fun secret hashed => (hashed.toList.dropWhile (· ≠ '$')).drop 1 = secret.toList }
  jwt := {
    encode := fun payload _ _ =>
      match payload.get "sub", payload.get "role" with
      | some (.value (.str sub)), some (.value (.str role)) => sub ++ "." ++ role
      | _, _ => ""
    decode := fun token _ _ _ => .ok
      [("sub", .value (.str (String.ofList (token.toList.takeWhile (· ≠ '.'))))),
       ("role", .value (.str (String.ofList ((token.toList.dropWhile (· ≠ '.')).drop 1))))] }
  lower := fun text => String.ofList (text.toList.map Char.toLower)
  upper_of := fun c => [c]
  uuid_of := fun text => if text.length = 36 then some ⟨text⟩ else none

/-- Lowering leaves no capital letter. -/
theorem toLower_toLower (c : Char) : c.toLower.toLower = c.toLower := by
  by_cases h : c.val ≥ 'A'.val ∧ c.val ≤ 'Z'.val
  · have hshifted : c.toLower.val = c.val + ('a'.val - 'A'.val) := congrArg Char.val (dif_pos h)
    have hlower : ¬ (c.toLower.val ≥ 'A'.val ∧ c.toLower.val ≤ 'Z'.val) := by
      rw [hshifted]
      obtain ⟨hfirst, hlast⟩ := h
      simp only [ge_iff_le, UInt32.le_iff_toNat_le, UInt32.toNat_add] at hfirst hlast ⊢
      simp at hfirst hlast ⊢
      omega
    exact dif_neg hlower
  · have hsame : c.toLower = c := dif_neg h
    rw [hsame, hsame]

theorem Deployment.lowersOnce_small (mail_server : String) : (small mail_server).LowersOnce := by
  intro text
  simp only [small, String.toList_ofList, List.map_map]
  refine congrArg String.ofList (List.map_congr_left fun c _ => ?_)
  exact toLower_toLower c

/-- The e-mails of `EmailService`, with what their templates are given. -/
inductive Mail
  | welcome (to_email full_name role : String)
  | password_reset (to_email full_name reset_token : String)
  | password_changed (to_email full_name : String)
deriving DecidableEq, Repr

/-- What one execution takes from its surroundings: the readings of the clock by the use case
and by the repositories, what it draws at random, and how the mail server reacts. -/
structure Env where
  now : Int
  read_at : Int
  written_at : Int
  user_id : UUID
  seed_id : Role → UUID
  salt : String
  raw_token : String
  smtp : Mail → Except String Unit

/-- Surroundings that show when they were, with a mail server that accepts everything. -/
def Env.small (now : Int) : Env where
  now := now
  read_at := now
  written_at := now
  user_id := ⟨"00000000-0000-4000-8000-000000000001"⟩
  seed_id := fun role => ⟨role.value⟩
  salt := "salt"
  raw_token := "token"
  smtp := fun _ => .ok ()

/-- `EmailService._send`: only logged when no server is set; a failure is raised again. -/
def EmailService.send (d : Deployment) (env : Env) (mail : Mail) : Except Error Unit :=
  if d.settings.mail_server = "" then .ok ()
  else (env.smtp mail).mapError .MailError

/-- A failed sending raises what the mail server raised. -/
theorem EmailService.send_eq_error {d : Deployment} {env : Env} {mail : Mail} {e : Error}
    (h : EmailService.send d env mail = .error e) :
    d.settings.mail_server ≠ "" ∧ ∃ exception, env.smtp mail = .error exception ∧ e = .MailError exception := by
  unfold EmailService.send at h
  split at h
  · cases h
  · next hserver =>
    cases hsmtp : env.smtp mail with
    | ok u =>
      rw [hsmtp] at h
      cases h
    | error exception =>
      rw [hsmtp] at h
      exact ⟨hserver, exception, rfl, (Except.error.inj h).symm⟩

end sigis.accounts
