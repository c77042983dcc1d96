import Sigis.Python.Datetime

namespace sigis

/-- The values found in response payloads and token claims. `isoformat dt` is the
text `dt.isoformat()`. A dictionary of them is `json.loads` of its own `json.dumps`,
so a recorded response body is kept as the dictionary it encodes. -/
inductive Json
  | null
  | str (text : String)
  | int (n : Int)
  | float (x : ℚ)
  | isoformat (dt : datetime)
deriving DecidableEq

/-- What storage keeps of a value: a time loses its offset. -/
def Json.stored : Json → Json
  | .isoformat dt => .isoformat dt.stored
  | value => value

/-- A `dict[str, object]` as its items, in insertion order. -/
abbrev Dict := List (String × Json)

/-- `d.get(key)`. -/
def Dict.get (d : Dict) (key : String) : Option Json :=
  (d.find? fun item => item.1 = key).map Prod.snd

end sigis
