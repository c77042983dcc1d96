import Sigis.Accounts.Errors
import Sigis.Lib.Guarded
import Sigis.Python.Text

open guarded

namespace sigis.accounts

/-- A character of `_STRIP_RE`. -/
def phone_separator (c : Char) : Bool := isspace c || ['-', '.', '(', ')', '\u00a0'].contains c

/-- `_COUNTRY_PREFIX_RE.sub("", cleaned)`: one `+237` or `237` at the start. -/
def without_country_prefix : List Char → List Char
  | '+' :: '2' :: '3' :: '7' :: rest => rest
  | '2' :: '3' :: '7' :: rest => rest
  | cleaned => cleaned

/-- `_MOBILE_RE` on digits, which hold no line break. -/
def mobile_number : List Char → Bool
  | '6' :: c :: rest => ['5', '6', '7', '9'].contains c && rest.length == 7 && rest.all isdecimal
  | _ => false

/-- `_FIXED_RE`. -/
def fixed_number (digits : List Char) : Bool :=
  ["222".toList, "233".toList, "242".toList, "243".toList].contains (digits.take 3) &&
    (digits.drop 3).length == 6 && (digits.drop 3).all isdecimal

/-- A number of one of the blocks of the numbering plan. -/
structure CameroonPhoneNumber where
  national : List Char
  valid : (mobile_number national || fixed_number national) = true
deriving DecidableEq

namespace CameroonPhoneNumber

/-- `e164`. -/
def e164 (number : CameroonPhoneNumber) : String := "+237" ++ String.ofList number.national

/-- `operator`. -/
def operator (number : CameroonPhoneNumber) : String :=
  let n := number.national
  let startswith (block : String) : Bool := block.toList.isPrefixOf n
  let first (blocks : List String) : Bool := (blocks.map String.toList).contains (n.take 3)
  if startswith "66" then "NEXTTEL"
  else if startswith "67" || first ["650", "651", "652", "653", "654"] then "MTN"
  else if startswith "69" || first ["655", "656", "657", "658", "659"] then "ORANGE"
  else if startswith "222" || startswith "233" then "CAMTEL_FIXE"
  else if startswith "242" || startswith "243" then "CAMTEL_CDMA"
  else "INCONNU"

/-- `_normalize`. -/
def normalize (raw : String) : Except Error (List Char) := do
  let cleaned := (strip raw).toList.filter fun c => !phone_separator c
  let cleaned := without_country_prefix cleaned
  raise_if ((!cleaned.isEmpty && cleaned.all isdigit) = false)
    (InvalidPhoneNumber ("Numéro invalide : « " ++ raw ++ " » (caractères non numériques détectés)."))
  raise_if (cleaned.length ≠ 9)
    (InvalidPhoneNumber ("Numéro invalide : « " ++ raw ++ " » — le numéro national doit avoir " ++
      "9 chiffres (reçu : " ++ toString cleaned.length ++ ")."))
  return cleaned

/-- `__init__`. -/
def init (raw : String) : Except Error CameroonPhoneNumber := do
  let digits ← normalize raw
  if h : (mobile_number digits || fixed_number digits) = true then
    return ⟨digits, h⟩
  else
    .error (InvalidPhoneNumber ("Numéro invalide : « " ++ raw ++ " ». " ++
      "Seuls les numéros camerounais à 9 chiffres sont acceptés " ++
      "(mobiles : 65X-69X ; fixes : 222, 233, 242, 243)."))

/-- A text that is refused raises `InvalidPhoneNumber`. -/
theorem init_eq_error {raw : String} {e : Error} (h : init raw = .error e) :
    ∃ message, e = InvalidPhoneNumber message := by
  rcases bind_eq_error_iff.mp h with hnormalize | ⟨digits, -, hblock⟩
  · rcases bind_eq_error_iff.mp hnormalize with hdigits | ⟨_, -, hrest⟩
    · exact ⟨_, (raise_if_eq_error.mp hdigits).2.symm⟩
    · rcases bind_eq_error_iff.mp hrest with hlength | ⟨_, -, hreturn⟩
      · exact ⟨_, (raise_if_eq_error.mp hlength).2.symm⟩
      · cases hreturn
  · split at hblock
    · cases hblock
    · exact ⟨_, (Except.error.inj hblock).symm⟩

example : (init " +237 650-00.00 01").toOption.map e164 = some "+237650000001" := by decide +kernel

end CameroonPhoneNumber

end sigis.accounts
