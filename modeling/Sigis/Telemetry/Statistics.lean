import Sigis.Api.Telemetry

open guarded order_statistic ring_buffer

namespace sigis

inductive Push
  | access (args : PushAccess)
  | frontend (args : PushFrontend)

def Push.event (env : TelemetryEnv) : Push → TelemetryEvent
  | .access args => args.event env
  | .frontend args => args.event env

def TelemetryStore.push (store : TelemetryStore) (call : TelemetryEnv × Push) : TelemetryStore :=
  match call.2 with
  | .access args => store.push_access call.1 args
  | .frontend args => store.push_frontend call.1 args

/-- The store after these calls. -/
def telemetry_run (capacity : Nat) (calls : List (TelemetryEnv × Push)) : TelemetryStore :=
  calls.foldl TelemetryStore.push (.init capacity)

/-- The events of the calls, in order. -/
def pushed_events (calls : List (TelemetryEnv × Push)) : List TelemetryEvent :=
  calls.map fun call => call.2.event call.1

variable {capacity : Nat} {calls : List (TelemetryEnv × Push)} {store : TelemetryStore}

theorem buf_push (store : TelemetryStore) (call : TelemetryEnv × Push) :
    (store.push call).buf = store.buf.append (call.2.event call.1) := by
  obtain ⟨env, push⟩ := call
  cases push <;> rfl

theorem buf_foldl_push (store : TelemetryStore) (calls : List (TelemetryEnv × Push)) :
    (calls.foldl TelemetryStore.push store).buf = (pushed_events calls).foldl Deque.append store.buf := by
  induction calls generalizing store with
  | nil => rfl
  | cons call calls ih =>
    rw [List.foldl_cons, ih, buf_push]
    rfl

/-- The buffer holds the last events pushed. -/
theorem items_telemetry_run (capacity : Nat) (calls : List (TelemetryEnv × Push)) :
    (telemetry_run capacity calls).buf.items = last_items capacity (pushed_events calls) := by
  rw [telemetry_run, buf_foldl_push]
  exact items_foldl_append capacity _

/-- Without filters the events are listed from the last to the first. -/
theorem list_events_eq (skip limit : Nat) : store.list_events none none skip limit =
    (((store.buf.items.reverse.drop skip).take limit).map TelemetryEvent.to_dict, store.buf.items.length) := by
  simp [TelemetryStore.list_events]

variable {n : Nat} {durations : List ℚ}

theorem toNat_p95_idx (n : Nat) : (p95_idx n).toNat = 19 * n / 20 - 1 := by
  rw [p95_idx, Nat.mul_comm]
  omega

theorem toNat_p95_idx_lt (h : 0 < n) : (p95_idx n).toNat < n := by
  rw [toNat_p95_idx]
  omega

theorem perm_sorted_durations (durations : List ℚ) : (sorted_durations durations).Perm durations :=
  List.perm_insertionSort _ durations

theorem length_sorted_durations (durations : List ℚ) : (sorted_durations durations).length = durations.length :=
  (perm_sorted_durations durations).length_eq

theorem sorted_durations_eq_nil_iff : sorted_durations durations = [] ↔ durations = [] := by
  rw [← List.length_eq_zero_iff, length_sorted_durations, List.length_eq_zero_iff]

/-- The place of the percentile is one of the sorted list. -/
theorem exists_p95 (h : durations ≠ []) :
    ∃ value, (sorted_durations durations)[(p95_idx durations.length).toNat]? = some value := by
  have hlt : (p95_idx durations.length).toNat < (sorted_durations durations).length := by
    rw [length_sorted_durations]
    exact toNat_p95_idx_lt (List.length_pos_iff.mpr h)
  exact ⟨_, List.getElem?_eq_getElem hlt⟩

section selected

variable {value : ℚ} (hvalue : (sorted_durations durations)[(p95_idx durations.length).toNat]? = some value)
include hvalue

theorem p95_duration_ms_eq :
    TelemetryStore.p95_duration_ms (sorted_durations durations) = .ok (.float (round_to value 2)) := by
  have hne : sorted_durations durations ≠ [] := by
    intro hnil
    rw [hnil] at hvalue
    cases hvalue
  rw [TelemetryStore.p95_duration_ms, if_neg hne, length_sorted_durations, hvalue]
  rfl

/-- The value selected is no smaller than 95 % of the durations when their number is a multiple of 20, or
when no duration has the rank the share is rounded down to. -/
theorem covers_p95_iff : Covers 19 20 durations value ↔
    20 ∣ durations.length ∨ ∀ d ∈ durations, at_most durations d ≠ 19 * durations.length / 20 := by
  have hperm := perm_sorted_durations durations
  rw [toNat_p95_idx] at hvalue
  obtain ⟨hlt, rfl⟩ := List.getElem?_eq_some_iff.mp hvalue
  have hrank : 19 * (sorted_durations durations).length / 20 = 19 * durations.length / 20 := by
    rw [length_sorted_durations]
  have hsorted : (sorted_durations durations).Pairwise (· ≤ ·) := List.pairwise_insertionSort _ _
  have hdvd : 20 ∣ 19 * durations.length ↔ 20 ∣ durations.length := by omega
  rw [← covers_perm hperm, covers_getElem_iff hsorted (by decide) hrank hlt, length_sorted_durations, hdvd]
  simp only [at_most_perm hperm, hperm.mem_iff]

end selected

/-- Without an http event the statistics have five of the six fields. -/
theorem stats_of_no_http (h : store.http_items = []) : store.stats =
    .ok [("total_requests", .int 0), ("error_rate_pct", .int 0), ("avg_duration_ms", .int 0),
      ("p95_duration_ms", .int 0), ("buffer_size", .int 0)] := by
  rw [TelemetryStore.stats, h]
  rfl

theorem get_stats_of_no_http (h : store.http_items = []) :
    get_stats store = .error (.ValidationError ["frontend_events"]) := by
  rw [get_stats, stats_of_no_http h, bind_ok]
  decide

/-- Requests that failed, in percent. -/
def TelemetryStore.error_rate (store : TelemetryStore) : ℚ :=
  ((store.http_items.filter TelemetryEvent.is_error).length : ℚ) / store.http_items.length * 100

/-- The mean of the durations, 0 without any. -/
def TelemetryStore.avg_duration_ms (store : TelemetryStore) : Json :=
  let durations := sorted_durations store.http_durations
  if durations = [] then .int 0 else .float (round_to (durations.sum / durations.length) 2)

/-- With an http event they have them all. -/
theorem stats_of_http {p95 : Json} (h : store.http_items ≠ [])
    (hp95 : TelemetryStore.p95_duration_ms (sorted_durations store.http_durations) = .ok p95) : store.stats =
    .ok [("total_requests", .int store.http_items.length), ("error_rate_pct", .float (round_to store.error_rate 1)),
      ("avg_duration_ms", store.avg_duration_ms), ("p95_duration_ms", p95),
      ("buffer_size", .int store.buf.items.length),
      ("frontend_events", .int (store.buf.items.filter fun e => e.kind ≠ "http").length)] := by
  have hsome : store.http_items.isEmpty = false := by simpa using h
  rw [TelemetryStore.stats]
  dsimp only
  rw [if_neg (by simp [hsome]), hp95]
  rfl

/-- The number a field holds. -/
def Json.number : Json → Option ℚ
  | .float x => some x
  | .int n => some n
  | _ => none

theorem Dict.get_float_eq (d : Dict) (key : String) : d.get_float key = (d.get key).bind Json.number := by
  rw [Dict.get_float]
  cases d.get key with
  | none => rfl
  | some value => cases value <;> rfl

theorem exists_number_avg_duration_ms (store : TelemetryStore) :
    ∃ avg, store.avg_duration_ms.number = some avg := by
  rw [TelemetryStore.avg_duration_ms]
  split <;> exact ⟨_, rfl⟩

/-- The percentile is a number, and reading it never leaves the list. -/
theorem exists_number_p95_duration_ms (durations : List ℚ) :
    ∃ p95 value, TelemetryStore.p95_duration_ms (sorted_durations durations) = .ok p95 ∧ p95.number = some value := by
  by_cases h : durations = []
  · have hsorted := sorted_durations_eq_nil_iff.mpr h
    exact ⟨.int 0, 0, if_pos hsorted, rfl⟩
  · obtain ⟨value, hvalue⟩ := exists_p95 h
    exact ⟨.float (round_to value 2), round_to value 2, p95_duration_ms_eq hvalue, rfl⟩

theorem error_rate_mem_Icc (store : TelemetryStore) : 0 ≤ store.error_rate ∧ store.error_rate ≤ 100 := by
  have hcount : ((store.http_items.filter TelemetryEvent.is_error).length : ℚ) ≤ store.http_items.length := by
    exact_mod_cast List.length_filter_le _ _
  have hshare := div_le_one_of_le₀ hcount (Nat.cast_nonneg _)
  constructor
  · rw [TelemetryStore.error_rate]
    positivity
  · rw [TelemetryStore.error_rate]
    linarith only [hshare]

/-- Every event is an http one or not. -/
theorem length_http_items_add (store : TelemetryStore) :
    store.http_items.length + (store.buf.items.filter fun e => e.kind ≠ "http").length = store.buf.items.length := by
  rw [List.length_eq_length_filter_add (l := store.buf.items) fun e => decide (e.kind = "http")]
  simp [TelemetryStore.http_items]

/-- What the response of `GET /telemetry/stats` needs of the statistics. -/
structure TelemetryStore.WellFormed (store : TelemetryStore) (d : Dict) (out : TelemetryStatsOut) : Prop where
  stats : store.stats = .ok d
  fields : ∀ field ∈ TelemetryStatsOut.fields, (d.get field).isSome
  init : TelemetryStatsOut.init d = .ok out
  buffer_size : out.buffer_size = store.buf.items.length
  partition : out.total_requests + out.frontend_events = out.buffer_size
  error_rate_pct : 0 ≤ out.error_rate_pct ∧ out.error_rate_pct ≤ 100

/-- The response made of six numbers. -/
theorem init_eq_ok (total_requests buffer_size frontend_events : Int) (error_rate_pct : ℚ) {avg p95 : Json}
    {avg_duration_ms p95_duration_ms : ℚ} (havg : avg.number = some avg_duration_ms)
    (hp95 : p95.number = some p95_duration_ms) :
    TelemetryStatsOut.init [("total_requests", .int total_requests), ("error_rate_pct", .float error_rate_pct),
        ("avg_duration_ms", avg), ("p95_duration_ms", p95), ("buffer_size", .int buffer_size),
        ("frontend_events", .int frontend_events)] =
      .ok ⟨total_requests, error_rate_pct, avg_duration_ms, p95_duration_ms, buffer_size, frontend_events⟩ := by
  have hrate : (Json.float error_rate_pct).number = some error_rate_pct := rfl
  simp [TelemetryStatsOut.init, Dict.get_float_eq, Dict.get_int, Dict.get, hrate, havg, hp95]

theorem exists_wellFormed (h : store.http_items ≠ []) : ∃ d out, store.WellFormed d out := by
  obtain ⟨avg, havg⟩ := exists_number_avg_duration_ms store
  obtain ⟨p95, value, hp95, hvalue⟩ := exists_number_p95_duration_ms store.http_durations
  obtain ⟨hlo, hhi⟩ := error_rate_mem_Icc store
  have hrate : ((0 : Int) : ℚ) ≤ round_to store.error_rate 1 ∧ round_to store.error_rate 1 ≤ ((100 : Int) : ℚ) :=
    round_to_mem_Icc 1 (by exact_mod_cast hlo) (by exact_mod_cast hhi)
  have hpartition := length_http_items_add store
  refine ⟨_, _, {
    stats := stats_of_http h hp95
    fields := by simp [TelemetryStatsOut.fields, Dict.get]
    init := init_eq_ok _ _ _ _ havg hvalue
    buffer_size := rfl
    partition := ?_
    error_rate_pct := ?_ }⟩
  · dsimp only
    omega
  · exact_mod_cast hrate

theorem not_wellFormed_of_no_http (h : store.http_items = []) (d : Dict) (out : TelemetryStatsOut) :
    ¬store.WellFormed d out := by
  intro hwell
  have hd := hwell.stats
  rw [stats_of_no_http h] at hd
  have hfield := hwell.fields "frontend_events" (by decide)
  rw [← Except.ok.inj hd] at hfield
  exact absurd hfield (by decide)

theorem http_items_ne_nil_iff : store.http_items ≠ [] ↔ ∃ e ∈ store.buf.items, e.kind = "http" := by
  rw [TelemetryStore.http_items, ne_eq, List.filter_eq_nil_iff]
  simp

/-- For every capacity and every sequence of calls: the buffer holds the last events pushed, and
`list_events` reports them; the statistics are well-formed exactly when one of these is an http event. -/
theorem statistics_wellFormed_iff (capacity : Nat) (calls : List (TelemetryEnv × Push)) :
    (telemetry_run capacity calls).buf.items = last_items capacity (pushed_events calls) ∧
    (∀ skip limit, (telemetry_run capacity calls).list_events none none skip limit =
      ((((last_items capacity (pushed_events calls)).reverse.drop skip).take limit).map TelemetryEvent.to_dict,
        min capacity calls.length)) ∧
    ((∃ d out, (telemetry_run capacity calls).WellFormed d out) ↔
      ∃ e ∈ last_items capacity (pushed_events calls), e.kind = "http") := by
  have hitems := items_telemetry_run capacity calls
  have hlength : (last_items capacity (pushed_events calls)).length = min capacity calls.length := by
    rw [length_last_items, pushed_events, List.length_map]
  refine ⟨hitems, ?_, ?_⟩
  · intro skip limit
    rw [list_events_eq, hitems, hlength]
  · rw [← hitems, ← http_items_ne_nil_iff]
    constructor
    · rintro ⟨d, out, hwell⟩ hnone
      exact not_wellFormed_of_no_http hnone d out hwell
    · exact exists_wellFormed

/-- A page opened in the browser before any request: the statistics have five fields, and the response
cannot be made of them. -/
theorem frontend_event_alone :
    let env : TelemetryEnv := ⟨⟨"1"⟩, 0⟩
    let page : PushFrontend := {
      kind := "ui", action := "open", resource := "missions", user_id := none, request_id := none
      duration_ms := none, path := "/missions", method := "", status_code := none, meta_dict := [] }
    let store := telemetry_run 2000 [(env, .frontend page)]
    store.buf.items.length = 1 ∧ store.stats = .ok [("total_requests", .int 0), ("error_rate_pct", .int 0),
        ("avg_duration_ms", .int 0), ("p95_duration_ms", .int 0), ("buffer_size", .int 0)] ∧
      get_stats store = .error (.ValidationError ["frontend_events"]) ∧ ¬∃ d out, store.WellFormed d out := by
  intro env page store
  have hnone : store.http_items = [] := by decide
  refine ⟨by decide, stats_of_no_http hnone, get_stats_of_no_http hnone, ?_⟩
  rintro ⟨d, out, hwell⟩
  exact not_wellFormed_of_no_http hnone d out hwell

/-- The statistics answer with the value of this place, rounded. -/
def TelemetryStore.Reports (store : TelemetryStore) (value : ℚ) : Prop :=
  (sorted_durations store.http_durations)[(p95_idx store.http_durations.length).toNat]? = some value ∧
  store.stats.map (fun d => d.get "p95_duration_ms") = .ok (some (.float (round_to value 2)))

instance instDecidableReports (store : TelemetryStore) (value : ℚ) : Decidable (store.Reports value) :=
  inferInstanceAs (Decidable (_ ∧ _))

/-- For every buffer with a duration: the index is one of the sorted durations, and the value selected
there is no smaller than 95 % of them exactly when their number is a multiple of 20 or no duration has the
rank that 95 % is rounded down to. -/
theorem p95_covers_iff (store : TelemetryStore) (hne : store.http_durations ≠ []) :
    0 ≤ p95_idx store.http_durations.length ∧
    p95_idx store.http_durations.length < (sorted_durations store.http_durations).length ∧
    ∃ value, store.Reports value ∧
      (Covers 19 20 store.http_durations value ↔
        20 ∣ store.http_durations.length ∨
          ∀ d ∈ store.http_durations, at_most store.http_durations d ≠ 19 * store.http_durations.length / 20) := by
  have hpos : 0 ≤ p95_idx store.http_durations.length := le_max_left _ _
  have hlt : p95_idx store.http_durations.length < (sorted_durations store.http_durations).length := by
    rw [length_sorted_durations]
    exact (Int.toNat_lt hpos).mp (toNat_p95_idx_lt (List.length_pos_iff.mpr hne))
  obtain ⟨value, hvalue⟩ := exists_p95 hne
  have hhttp : store.http_items ≠ [] := by
    intro hnone
    rw [TelemetryStore.http_durations, hnone] at hne
    exact hne rfl
  have hreported : store.stats.map (fun d => d.get "p95_duration_ms") = .ok (some (.float (round_to value 2))) := by
    rw [stats_of_http hhttp (p95_duration_ms_eq hvalue)]
    rfl
  exact ⟨hpos, hlt, value, ⟨hvalue, hreported⟩, covers_p95_iff hvalue⟩

/-- A request that took this long. -/
def timed_request (duration_ms : ℚ) : TelemetryEnv × Push :=
  (⟨⟨"6d0b9c58-3a0e-4f7e-9a44-0a6f3e5d2b11"⟩, 0⟩, .access {
    method := "GET", path := "/v1/missions", status_code := 200, duration_ms := duration_ms, user_id := none
    request_id := none, client_ip := "10.0.0.7", user_agent := "" })

/-- Of two requests that took 10 and 1000 ms, the shorter one is reported. -/
theorem two_requests_reported :
    let store := telemetry_run 2000 [timed_request 10, timed_request 1000]
    store.http_durations = [10, 1000] ∧ store.Reports 10 ∧ ¬Covers 19 20 store.http_durations 10 := by
  intro store
  decide +kernel

/-- Of twenty requests that took 1 to 20 ms, the last but one is reported. -/
theorem twenty_requests_reported :
    let store := telemetry_run 2000 ((List.range 20).map fun n => timed_request (n + 1))
    ∃ value, store.Reports value ∧ Covers 19 20 store.http_durations value := by
  intro store
  have hlength : store.http_durations.length = 20 := by decide +kernel
  have hne : store.http_durations ≠ [] := List.ne_nil_of_length_pos (hlength.symm ▸ by decide)
  obtain ⟨_, _, value, hreports, hcovers⟩ := p95_covers_iff store hne
  refine ⟨value, hreports, hcovers.mpr (.inl ?_)⟩
  rw [hlength]

end sigis
