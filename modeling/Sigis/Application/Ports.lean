import Sigis.Common.HostQrJwt
import Sigis.Persistence.Repositories

open guarded

namespace sigis

/-- What the use cases are given once for all: the distance function over the numbers
that stand for `float`, the settings, and the PyJWT package. -/
structure World (F : Type) where
  haversine_m : (lat1 lon1 lat2 lon2 : F) → F
  settings : AppSettings
  jwt : PyJWT

/-- What one execution takes from its surroundings: the readings of the clock, and the
identifiers `uuid4()` draws. -/
structure Env where
  now : Int
  jwt_decoded_at : Int
  jwt_verified_at : Int
  saved_at : Int
  visit_id : UUID
  proof_id : UUID
  event_id : UUID
  record_id : UUID
  mission_id : UUID
  host_token : UUID
  establishment_id : UUID

def Env.drawn (env : Env) : List UUID :=
  [env.visit_id, env.proof_id, env.event_id, env.record_id, env.mission_id, env.host_token,
    env.establishment_id]

theorem Env.visit_id_mem (env : Env) : env.visit_id ∈ env.drawn := by simp [Env.drawn]

theorem Env.mission_id_mem (env : Env) : env.mission_id ∈ env.drawn := by simp [Env.drawn]

theorem Env.host_token_mem (env : Env) : env.host_token ∈ env.drawn := by simp [Env.drawn]

theorem Env.proof_id_mem (env : Env) : env.proof_id ∈ env.drawn := by simp [Env.drawn]

theorem Env.event_id_mem (env : Env) : env.event_id ∈ env.drawn := by simp [Env.drawn]

theorem Env.establishment_id_mem (env : Env) : env.establishment_id ∈ env.drawn := by simp [Env.drawn]

theorem Env.record_id_mem (env : Env) : env.record_id ∈ env.drawn := by simp [Env.drawn]

/-- `uuid4()` draws no identifier the store already knows. -/
def Env.Fresh {F : Type} (env : Env) (s : Store F) : Prop := ∀ id ∈ env.drawn, id ∉ s.identifiers

instance {F : Type} (env : Env) (s : Store F) : Decidable (env.Fresh s) :=
  inferInstanceAs (Decidable (∀ id ∈ env.drawn, id ∉ s.identifiers))

variable {F : Type}

/-- The frame of the three visit use cases: the recorded response of the client's key is
returned at once; otherwise the body runs and its payload is recorded in the same
session. -/
def idempotent (s : Store F) (env : Env) (scope client_request_id : String)
    (body : Except Error (Dict × List (Write F))) : Except Error (Dict × List (Write F)) := do
  let cached ← IdempotencyRepositoryImpl.get_response s scope client_request_id
  match cached with
  | some payload => return (payload, [])
  | none =>
    let (payload, writes) ← body
    return (payload, writes ++ [IdempotencyRepositoryImpl.save scope client_request_id payload
      env.record_id env.saved_at])

theorem idempotent_of_recorded {s : Store F} {env : Env} {scope client_request_id : String}
    {body : Except Error (Dict × List (Write F))} {record : IdempotencyRecordModel}
    (h : s.recorded scope client_request_id = some record) :
    idempotent s env scope client_request_id body = .ok (record.response_body, []) := by
  simp [idempotent, IdempotencyRepositoryImpl.get_response_eq, h]

theorem idempotent_of_not_recorded {s : Store F} {env : Env} {scope client_request_id : String}
    {body : Except Error (Dict × List (Write F))} (h : s.recorded scope client_request_id = none) :
    idempotent s env scope client_request_id body =
      body.map fun done => (done.1, done.2 ++ [IdempotencyRepositoryImpl.save scope
        client_request_id done.1 env.record_id env.saved_at]) := by
  simp only [idempotent, IdempotencyRepositoryImpl.get_response_eq, h, Option.map_none, bind_ok]
  cases body <;> rfl

/-- An answered visit request either replays a recorded response and writes nothing, or
has run its body and writes the record last. -/
theorem idempotent_eq_ok_iff {s : Store F} {env : Env} {scope client_request_id : String}
    {body : Except Error (Dict × List (Write F))} {payload : Dict} {writes : List (Write F)} :
    idempotent s env scope client_request_id body = .ok (payload, writes) ↔
      (∃ record, s.recorded scope client_request_id = some record ∧
        payload = record.response_body ∧ writes = []) ∨
      (s.recorded scope client_request_id = none ∧ ∃ effects, body = .ok (payload, effects) ∧
        writes = effects ++ [IdempotencyRepositoryImpl.save scope client_request_id payload
          env.record_id env.saved_at]) := by
  cases hrecorded : s.recorded scope client_request_id with
  | some record =>
    rw [idempotent_of_recorded hrecorded]
    simp [eq_comm]
  | none =>
    rw [idempotent_of_not_recorded hrecorded]
    cases body with
    | error e => simp [Except.map]
    | ok done =>
      obtain ⟨answer, effects⟩ := done
      simp only [Except.map, Except.ok.injEq, Prod.mk.injEq, reduceCtorEq, false_and, exists_false,
        false_or, true_and]
      constructor
      · rintro ⟨rfl, rfl⟩
        exact ⟨effects, ⟨rfl, rfl⟩, rfl⟩
      · rintro ⟨_, ⟨rfl, rfl⟩, rfl⟩
        exact ⟨rfl, rfl⟩

/-- Without a recorded response it is the body that answered. -/
theorem body_of_not_recorded {s : Store F} {env : Env} {scope client_request_id : String}
    {body : Except Error (Dict × List (Write F))} {payload : Dict} {writes : List (Write F)}
    (h : s.recorded scope client_request_id = none)
    (hok : idempotent s env scope client_request_id body = .ok (payload, writes)) :
    ∃ effects, body = .ok (payload, effects) ∧
      writes = effects ++ [IdempotencyRepositoryImpl.save scope client_request_id payload
        env.record_id env.saved_at] := by
  rcases idempotent_eq_ok_iff.mp hok with ⟨record, hrecord, _⟩ | ⟨_, hbody⟩
  · rw [h] at hrecord
    cases hrecord
  · exact hbody

end sigis
