import Sigis.Python.Json

namespace sigis

/-- `f"{n:0{width}d}"`. -/
def zero_padded (width n : Nat) : String :=
  let digits := toString n
  String.ofList (List.replicate (width - digits.length) '0') ++ digits

/-- The year, the month and the day of the day that many days after 1970-01-01. -/
def ymd (days : Int) : Int × Int × Int :=
  -- A year counts from the first of March, so that the leap day is its last one; an era has 400 years.
  let days := days + 719468
  let day_of_era := days % 146097
  let year_of_era := (day_of_era - day_of_era / 1460 + day_of_era / 36524 - day_of_era / 146096) / 365
  let day_of_year := day_of_era - (365 * year_of_era + year_of_era / 4 - year_of_era / 100)
  let month := (5 * day_of_year + 2) / 153
  let day := day_of_year - (153 * month + 2) / 5 + 1
  let year := year_of_era + 400 * (days / 146097)
  if month < 10 then (year, month + 3, day) else (year + 1, month - 9, day)

/-- Hours, minutes and seconds, with the microseconds when there are some. -/
def clock (micros : Nat) : String :=
  let seconds := micros / 1000000
  zero_padded 2 (seconds / 3600) ++ ":" ++ zero_padded 2 (seconds / 60 % 60) ++ ":" ++ zero_padded 2 (seconds % 60) ++
    if micros % 1000000 = 0 then "" else "." ++ zero_padded 6 (micros % 1000000)

/-- The offset at the end of `isoformat()`: its seconds are only written when there are some. -/
def offset_text (utcoffset : Int) : String :=
  let micros := utcoffset.natAbs
  (if utcoffset < 0 then "-" else "+") ++
    if micros % 60000000 = 0 then
      zero_padded 2 (micros / 3600000000) ++ ":" ++ zero_padded 2 (micros / 60000000 % 60)
    else clock micros

/-- `dt.isoformat()`. -/
def datetime.isoformat (dt : datetime) : String :=
  let (year, month, day) := ymd (dt.wall / 86400000000)
  zero_padded 4 year.toNat ++ "-" ++ zero_padded 2 month.toNat ++ "-" ++ zero_padded 2 day.toNat ++ "T" ++
    clock (dt.wall % 86400000000).toNat ++ dt.utcoffset.elim "" offset_text

example : datetime.isoformat ⟨1709210096000789, some (-5400000000)⟩ = "2024-02-29T12:34:56.000789-01:30" := by
  decide +kernel

/-- The digits of a number, on so many places. -/
def hex_digits (width n : Nat) : List Char :=
  let digits := Nat.toDigits 16 n
  List.replicate (width - digits.length) '0' ++ digits

/-- A character in a JSON string: beyond ASCII it is written as its UTF-16 units. -/
def json_escaped (c : Char) : List Char :=
  let n := c.toNat
  if c = '"' || c = '\\' then ['\\', c]
  else if c = '\n' then ['\\', 'n']
  else if c = '\r' then ['\\', 'r']
  else if c = '\t' then ['\\', 't']
  else if n = 12 then ['\\', 'f']
  else if n = 8 then ['\\', 'b']
  else if 32 ≤ n && n ≤ 126 then [c]
  else if n < 0x10000 then '\\' :: 'u' :: hex_digits 4 n
  else '\\' :: 'u' :: hex_digits 4 (0xD800 + (n - 0x10000) / 0x400) ++
    '\\' :: 'u' :: hex_digits 4 (0xDC00 + (n - 0x10000) % 0x400)

/-- A text between quotes, with what JSON escapes. -/
def json_string (text : String) : String := "\"" ++ String.ofList (text.toList.flatMap json_escaped) ++ "\""

/-- What is written of a value, with the `repr` of floats as a parameter. -/
def Json.dumps (float_repr : ℚ → String) : Json → String
  | .null => "null"
  | .str text => json_string text
  | .int n => toString n
  | .float x => float_repr x
  | .isoformat dt => json_string dt.isoformat

/-- `json.dumps(d)`. -/
def Dict.dumps (float_repr : ℚ → String) (d : Dict) : String :=
  "\x7b" ++ ", ".intercalate (d.map fun item => json_string item.1 ++ ": " ++ item.2.dumps float_repr) ++ "\x7d"

example : Dict.dumps (fun _ => "") [("status", .str "a\"é\n"), ("n", .null)] =
    "\x7b\"status\": \"a\\\"\\u00e9\\n\", \"n\": null\x7d" := by decide +kernel

end sigis
