import Sigis.Lib.Interleaving
import Sigis.Mobile.Store
import Sigis.Python.Sha256

open guarded hash_chain relational transactional transition

namespace sigis

variable {F : Type}

/-- `select(entry_hash).order_by(created_at.desc())`, read with `scalar_one_or_none`. -/
def AuditChainRepositoryImpl.get_last_hash (s : MobileStore F) : Except Error (Option String) :=
  scalar_one_or_none .MultipleResultsFound
    ((s.audit_chain_entries.rows.mergeSort fun a b => b.created_at ≤ a.created_at).map (·.entry_hash))

/-- `f"{prev_chain_hash or ''}:{e.event_hash}"`. -/
def chain_text (prev_chain_hash : Option String) (event_hash : String) : String :=
  prev_chain_hash.getD "" ++ ":" ++ event_hash

def chain_hash (prev_chain_hash : Option String) (event_hash : String) : String :=
  sha256.hexdigest (chain_text prev_chain_hash event_hash)

/-- A request with its authenticated user and what its execution takes from its
surroundings: the time, and the identifier of each chain entry it appends. -/
structure Batch (F : Type) where
  user : UUID
  events : List (MobileEventIn F)
  now : Int
  entry_id : Nat → UUID

def Batch.device_row (batch : Batch F) (e : MobileEventIn F) : MobileDeviceModel where
  id := e.device_id
  user_id := batch.user
  public_key_ed25519 := e.device_public_key
  created_at := datetime.utc batch.now
  revoked_at := none

def Batch.event_row (batch : Batch F) (e : MobileEventIn F) : MobileEventModel F where
  id := e.event_id
  event_type := e.type
  mission_id := e.mission_id
  site_visit_id := e.site_visit_id
  actor_user_id := batch.user
  device_id := e.device_id
  client_request_id := e.client_request_id
  captured_at_client := e.captured_at_client
  received_at_server := datetime.utc batch.now
  gps_lat := e.gps.map (·.lat)
  gps_lon := e.gps.map (·.lon)
  gps_accuracy_m := e.gps.bind (·.accuracy_m)
  gps_provider := e.gps.bind (·.provider)
  selfie_sha256 := e.selfie.map (·.sha256)
  selfie_mime := e.selfie.bind (·.mime)
  selfie_w := e.selfie.bind (·.w)
  selfie_h := e.selfie.bind (·.h)
  prev_event_hash := e.prev_event_hash
  event_hash := e.event_hash
  signature_ed25519 := e.signature_ed25519
  raw_json := e

/-- The local variables of the loop and the session it adds rows to. -/
structure IngestState (F : Type) where
  results : List MobileEventResult := []
  session : MobileSession F := {}
  prev_chain_hash : Option String

def MobileEventIn.rejected (e : MobileEventIn F) (reason : String) : MobileEventResult :=
  { event_id := e.event_id, status := .REJECTED, reasons := [reason] }

def MobileEventIn.received (e : MobileEventIn F) : MobileEventResult := { event_id := e.event_id, status := .RECEIVED }

def IngestState.reject (st : IngestState F) (e : MobileEventIn F) (reason : String) : IngestState F :=
  { st with results := st.results ++ [e.rejected reason] }

def IngestState.add_device (st : IngestState F) (device : MobileDeviceModel) : IngestState F :=
  { st with session := { st.session with devices := st.session.devices ++ [device] } }

/-- The event and its chain entry, added to the session. -/
def IngestState.receive (st : IngestState F) (batch : Batch F) (e : MobileEventIn F) : IngestState F :=
  let entry_hash := chain_hash st.prev_chain_hash e.event_hash
  let entry : AuditChainEntryModel := {
    id := batch.entry_id st.session.entries.length
    created_at := datetime.utc batch.now
    resource_type := "mobile_event"
    resource_id := some e.event_id.str
    prev_hash := st.prev_chain_hash
    entry_hash := entry_hash }
  { results := st.results ++ [e.received]
    session := { st.session with
      events := st.session.events ++ [batch.event_row e]
      entries := st.session.entries ++ [entry] }
    prev_chain_hash := some entry_hash }

/-- One turn of the loop. -/
def Batch.ingest_event (batch : Batch F) (s : MobileStore F) (st : IngestState F) (e : MobileEventIn F) :
    IngestState F :=
  if e.actor_user_id ≠ batch.user then st.reject e "ACTOR_MISMATCH"
  else
    match st.session.get_device s e.device_id with
    | none => (st.add_device (batch.device_row e)).receive batch e
    | some device =>
      if device.public_key_ed25519 ≠ e.device_public_key then st.reject e "DEVICE_KEY_MISMATCH"
      else st.receive batch e

/-- The loop over the events, from the hash the chain ends with. -/
def Batch.ingest_events (batch : Batch F) (s : MobileStore F) (prev_chain_hash : Option String) :
    IngestState F :=
  batch.events.foldl (batch.ingest_event s) { prev_chain_hash }

def ingest_events_batch (batch : Batch F) (s : MobileStore F) :
    Except Error (MobileBatchResponse × MobileSession F) := do
  let prev_chain_hash ← AuditChainRepositoryImpl.get_last_hash s
  let st := batch.ingest_events s prev_chain_hash
  .ok (⟨.isoformat (datetime.utc batch.now), st.results⟩, st.session)

def mobile_database : Database (MobileStore F) (Batch F) MobileBatchResponse (MobileSession F) Error where
  prepare := ingest_events_batch
  commit := MobileStore.commit
  refused := .IntegrityError

/-- One batch in a unit of work of its own. -/
def Batch.exec (batch : Batch F) (s : MobileStore F) : Except Error MobileBatchResponse × MobileStore F :=
  mobile_database.run batch s

/-- What happens to the mobile tables: a batch is sent, or the device of a row is revoked. -/
inductive MobileAction (F : Type)
  | send (batch : Batch F)
  | revoke (device_id : UUID) (revoked_at : datetime)

inductive MobileStep : MobileStore F → MobileAction F → MobileStore F → Prop
  | send {s batch} : MobileStep s (.send batch) (batch.exec s).2
  | revoke {s device_id revoked_at rows} :
      s.mobile_devices.update device_id (fun device => { device with revoked_at := some revoked_at.stored }) =
        some rows →
      MobileStep s (.revoke device_id revoked_at) { s with mobile_devices := rows }

/-- A sequential run of batches and revocations. -/
abbrev MobileRun (init : MobileStore F) (actions : List (MobileAction F)) (s : MobileStore F) : Prop :=
  Execution MobileStep init actions s

variable {batch : Batch F} {s t : MobileStore F} {response : MobileBatchResponse}

/-- The hash of the entry appended last. -/
def MobileStore.last_hash (s : MobileStore F) : Option String :=
  s.audit_chain_entries.rows.getLast?.map (·.entry_hash)

theorem get_last_hash_eq_ok_iff {prev : Option String} :
    AuditChainRepositoryImpl.get_last_hash s = .ok prev ↔
      s.audit_chain_entries.rows.length ≤ 1 ∧ prev = s.last_hash := by
  rw [AuditChainRepositoryImpl.get_last_hash, scalar_one_or_none_eq_ok_iff, List.length_map,
    List.length_mergeSort, MobileStore.last_hash]
  refine and_congr_right fun hlength => ?_
  match s.audit_chain_entries.rows, hlength with
  | [], _ => simp
  | [row], _ => simp

theorem get_last_hash_eq_error_iff {e : Error} :
    AuditChainRepositoryImpl.get_last_hash s = .error e ↔
      1 < s.audit_chain_entries.rows.length ∧ e = .MultipleResultsFound := by
  rw [AuditChainRepositoryImpl.get_last_hash, scalar_one_or_none_eq_error_iff, List.length_map,
    List.length_mergeSort]

/-- A batch reads the chain, and returns what its loop answers. -/
theorem ingest_events_batch_eq_ok_iff {session : MobileSession F} :
    ingest_events_batch batch s = .ok (response, session) ↔
      s.audit_chain_entries.rows.length ≤ 1 ∧
        response = ⟨.isoformat (datetime.utc batch.now), (batch.ingest_events s s.last_hash).results⟩ ∧
        session = (batch.ingest_events s s.last_hash).session := by
  simp only [ingest_events_batch, bind_eq_ok_iff, get_last_hash_eq_ok_iff, Except.ok.injEq, Prod.mk.injEq]
  constructor
  · rintro ⟨_, ⟨hlength, rfl⟩, rfl, rfl⟩
    exact ⟨hlength, rfl, rfl⟩
  · rintro ⟨hlength, rfl, rfl⟩
    exact ⟨_, ⟨hlength, rfl⟩, rfl, rfl⟩

/-- A batch returns when the chain can be read and no row it adds breaks a constraint. -/
theorem Batch.exec_eq_ok_iff :
    batch.exec s = (.ok response, t) ↔
      s.audit_chain_entries.rows.length ≤ 1 ∧
        response = ⟨.isoformat (datetime.utc batch.now), (batch.ingest_events s s.last_hash).results⟩ ∧
        (batch.ingest_events s s.last_hash).session.Fits s ∧
        (batch.ingest_events s s.last_hash).session.Added s t := by
  rw [Batch.exec, Database.run_eq_ok_iff]
  simp only [mobile_database, ingest_events_batch_eq_ok_iff, MobileStore.commit_eq_some_iff]
  constructor
  · rintro ⟨_, ⟨hlength, hresponse, rfl⟩, hfits, hadded⟩
    exact ⟨hlength, hresponse, hfits, hadded⟩
  · rintro ⟨hlength, hresponse, hfits, hadded⟩
    exact ⟨_, ⟨hlength, hresponse, rfl⟩, hfits, hadded⟩

/-- A batch sent has returned, or has left the store as it was. -/
theorem Batch.exec_cases (batch : Batch F) (s : MobileStore F) :
    (∃ response, batch.exec s = (.ok response, (batch.exec s).2)) ∨ (batch.exec s).2 = s := by
  cases hexec : batch.exec s with
  | mk result u =>
    cases result with
    | ok response => exact Or.inl ⟨response, rfl⟩
    | error e => exact Or.inr (Database.store_of_run_eq_error hexec)

end sigis
