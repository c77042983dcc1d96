import Sigis.Domain.Shared
import Sigis.Lib.OrderStatistic
import Sigis.Lib.RingBuffer
import Sigis.Python.Numbers

open guarded order_statistic ring_buffer

namespace sigis

/-- What a JSON document may hold. -/
inductive JsonValue
  | scalar (value : Json)
  | list (items : List JsonValue)
  | dict (items : List (String × JsonValue))

structure TelemetryEvent where
  id : String
  ts : datetime
  kind : String
  method : String := ""
  path : String := ""
  status_code : Option Int := none
  duration_ms : Option ℚ := none
  user_id : Option String := none
  request_id : Option String := none
  client_ip : String := ""
  user_agent : String := ""
  action : String := ""
  resource : String := ""
  meta_dict : List (String × JsonValue) := []

/-- `TelemetryEventOut` of `api/v1/telemetry.py`; `ts` is kept as the time whose `isoformat()` it is. -/
structure TelemetryEventOut where
  id : String
  ts : datetime
  kind : String
  method : String
  path : String
  status_code : Option Int
  duration_ms : Option ℚ
  user_id : Option String
  request_id : Option String
  client_ip : String
  user_agent : String
  action : String
  resource : String
  meta_dict : List (String × JsonValue)

def TelemetryEvent.to_dict (e : TelemetryEvent) : TelemetryEventOut where
  id := e.id
  ts := e.ts
  kind := e.kind
  method := e.method
  path := e.path
  status_code := e.status_code
  duration_ms := e.duration_ms
  user_id := e.user_id
  request_id := e.request_id
  client_ip := e.client_ip
  user_agent := e.user_agent
  action := e.action
  resource := e.resource
  meta_dict := e.meta_dict

/-- What an event draws when it is made: its identifier, and the time unless it is given. -/
structure TelemetryEnv where
  event_id : UUID
  now : Int

structure PushAccess where
  method : String
  path : String
  status_code : Int
  duration_ms : ℚ
  user_id : Option String
  request_id : Option String
  client_ip : String
  user_agent : String

structure PushFrontend where
  kind : String
  action : String
  resource : String
  user_id : Option String
  request_id : Option String
  duration_ms : Option ℚ
  path : String
  method : String
  status_code : Option Int
  meta_dict : List (String × JsonValue)
  ts : Option datetime := none

/-- The event a request of the middleware leaves. -/
def PushAccess.event (env : TelemetryEnv) (args : PushAccess) : TelemetryEvent where
  id := env.event_id.str
  ts := datetime.utc env.now
  kind := "http"
  method := args.method
  path := args.path
  status_code := some args.status_code
  duration_ms := some args.duration_ms
  user_id := args.user_id
  request_id := args.request_id
  client_ip := args.client_ip
  user_agent := args.user_agent

/-- The event of a frontend, which names its kind itself. -/
def PushFrontend.event (env : TelemetryEnv) (args : PushFrontend) : TelemetryEvent where
  id := env.event_id.str
  ts := args.ts.getD (datetime.utc env.now)
  kind := args.kind
  action := args.action
  resource := args.resource
  user_id := args.user_id
  request_id := args.request_id
  duration_ms := args.duration_ms
  path := args.path
  method := args.method
  status_code := args.status_code
  meta_dict := args.meta_dict

structure TelemetryStore where
  buf : Deque TelemetryEvent

namespace TelemetryStore

def init (maxlen : Nat := 2000) : TelemetryStore := ⟨.empty maxlen⟩

def push_access (env : TelemetryEnv) (args : PushAccess) (store : TelemetryStore) : TelemetryStore :=
  ⟨store.buf.append (args.event env)⟩

def push_frontend (env : TelemetryEnv) (args : PushFrontend) (store : TelemetryStore) : TelemetryStore :=
  ⟨store.buf.append (args.event env)⟩

/-- A filter of no text lets everything pass. -/
def list_events (store : TelemetryStore) (kind user_id : Option String := none) (skip : Nat := 0)
    (limit : Nat := 200) : List TelemetryEventOut × Nat :=
  let items := store.buf.items.reverse
  let items := if kind.getD "" = "" then items else items.filter fun e => some e.kind = kind
  let items := if user_id.getD "" = "" then items else items.filter fun e => e.user_id = user_id
  let total := items.length
  (((items.drop skip).take limit).map TelemetryEvent.to_dict, total)

end TelemetryStore

/-- What `GET /telemetry/stats` can raise: a place out of a list, or the fields pydantic misses. -/
inductive StatsError
  | IndexError
  | ValidationError (missing : List String)
deriving DecidableEq, Repr

/-- `e.status_code and e.status_code >= 400`. -/
def TelemetryEvent.is_error (e : TelemetryEvent) : Bool := e.status_code.any fun code => code ≠ 0 ∧ 400 ≤ code

/-- `sorted(durations)`. -/
def sorted_durations (durations : List ℚ) : List ℚ := durations.insertionSort (· ≤ ·)

/-- `max(0, int(n * 0.95) - 1)`, the product taken exactly. -/
def p95_idx (n : Nat) : Int := max 0 (((n * 19 / 20 : Nat) : Int) - 1)

namespace TelemetryStore

def http_items (store : TelemetryStore) : List TelemetryEvent := store.buf.items.filter fun e => e.kind = "http"

/-- The durations of the http events that have one. -/
def http_durations (store : TelemetryStore) : List ℚ := store.http_items.filterMap fun e => e.duration_ms

/-- `round(durations[p95_idx], 2) if durations else 0`. -/
def p95_duration_ms (durations : List ℚ) : Except StatsError Json :=
  if durations = [] then .ok (.int 0)
  else do
    let duration ← get_or_raise durations[(p95_idx durations.length).toNat]? StatsError.IndexError
    return .float (round_to duration 2)

/-- The rate and the durations are exact rationals until they are rounded: the code divides doubles. -/
def stats (store : TelemetryStore) : Except StatsError Dict := do
  let items := store.buf.items
  let http_items := store.http_items
  if http_items.isEmpty then
    return [("total_requests", .int 0), ("error_rate_pct", .int 0), ("avg_duration_ms", .int 0),
      ("p95_duration_ms", .int 0), ("buffer_size", .int 0)]
  let errors := http_items.filter TelemetryEvent.is_error
  let durations := sorted_durations store.http_durations
  let p95 ← p95_duration_ms durations
  return [("total_requests", .int http_items.length),
    ("error_rate_pct", .float (round_to ((errors.length : ℚ) / http_items.length * 100) 1)),
    ("avg_duration_ms", if durations = [] then .int 0 else .float (round_to (durations.sum / durations.length) 2)),
    ("p95_duration_ms", p95),
    ("buffer_size", .int store.buf.items.length),
    ("frontend_events", .int (items.filter fun e => e.kind ≠ "http").length)]

end TelemetryStore

structure TelemetryStatsOut where
  total_requests : Int
  error_rate_pct : ℚ
  avg_duration_ms : ℚ
  p95_duration_ms : ℚ
  buffer_size : Int
  frontend_events : Int
deriving DecidableEq, Repr

def TelemetryStatsOut.fields : List String :=
  ["total_requests", "error_rate_pct", "avg_duration_ms", "p95_duration_ms", "buffer_size", "frontend_events"]

/-- An `int` field. -/
def Dict.get_int (d : Dict) (key : String) : Option Int :=
  match d.get key with
  | some (.int n) => some n
  | _ => none

/-- A `float` field, which takes an `int` as well. -/
def Dict.get_float (d : Dict) (key : String) : Option ℚ :=
  match d.get key with
  | some (.float x) => some x
  | some (.int n) => some n
  | _ => none

/-- `TelemetryStatsOut(**d)`. -/
def TelemetryStatsOut.init (d : Dict) : Except StatsError TelemetryStatsOut :=
  get_or_raise
    (do
      return {
        total_requests := ← d.get_int "total_requests"
        error_rate_pct := ← d.get_float "error_rate_pct"
        avg_duration_ms := ← d.get_float "avg_duration_ms"
        p95_duration_ms := ← d.get_float "p95_duration_ms"
        buffer_size := ← d.get_int "buffer_size"
        frontend_events := ← d.get_int "frontend_events" })
    (.ValidationError (fields.filter fun field => (d.get field).isNone))

def get_stats (store : TelemetryStore) : Except StatsError TelemetryStatsOut :=
  store.stats >>= TelemetryStatsOut.init

end sigis
