import Sigis.Lib.HashChain
import Sigis.Lib.Table
import Sigis.Domain.Shared

open hash_chain relational

namespace sigis

/-- The fix an event comes with (`api/v1/schemas.py`). -/
structure MobileGps (F : Type) where
  lat : F
  lon : F
  accuracy_m : Option F := none
  provider : Option String := none
deriving DecidableEq, Repr

structure MobileMediaSelfie where
  sha256 : String
  mime : Option String := none
  w : Option Int := none
  h : Option Int := none
deriving DecidableEq, Repr

/-- An event as the client recorded it; its hash has exactly 64 characters. -/
structure MobileEventIn (F : Type) where
  event_id : UUID
  type : String
  mission_id : UUID
  site_visit_id : Option UUID := none
  actor_user_id : UUID
  device_id : UUID
  device_public_key : String
  client_request_id : String
  captured_at_client : datetime
  client_tz_offset_min : Option Int := none
  gps : Option (MobileGps F) := none
  selfie : Option MobileMediaSelfie := none
  prev_event_hash : Option String := none
  event_hash : String
  signature_ed25519 : String
  event_hash_length : event_hash.length = 64
deriving DecidableEq

inductive MobileEventStatus
  | RECEIVED
  | VALIDATED
  | REJECTED
  | NEEDS_REVIEW
deriving DecidableEq, Repr

def MobileEventStatus.value : MobileEventStatus → String
  | .RECEIVED => "RECEIVED"
  | .VALIDATED => "VALIDATED"
  | .REJECTED => "REJECTED"
  | .NEEDS_REVIEW => "NEEDS_REVIEW"

structure MobileEventResult where
  event_id : UUID
  status : MobileEventStatus
  site_visit_id : Option UUID := none
  reasons : List String := []
deriving DecidableEq, Repr

structure MobileBatchResponse where
  cursor : Json
  results : List MobileEventResult
deriving DecidableEq

structure MobileDeviceModel where
  id : UUID
  user_id : UUID
  public_key_ed25519 : String
  created_at : datetime
  revoked_at : Option datetime
deriving DecidableEq, Repr

/-- `raw_json` is the dump of the event the row was made from, kept as that event. -/
structure MobileEventModel (F : Type) where
  id : UUID
  event_type : String
  mission_id : UUID
  site_visit_id : Option UUID
  actor_user_id : UUID
  device_id : UUID
  client_request_id : String
  captured_at_client : datetime
  received_at_server : datetime
  gps_lat : Option F
  gps_lon : Option F
  gps_accuracy_m : Option F
  gps_provider : Option String
  selfie_sha256 : Option String
  selfie_mime : Option String
  selfie_w : Option Int
  selfie_h : Option Int
  prev_event_hash : Option String
  event_hash : String
  signature_ed25519 : String
  raw_json : MobileEventIn F
deriving DecidableEq

structure AuditChainEntryModel where
  id : UUID
  created_at : datetime
  resource_type : String
  resource_id : Option String
  prev_hash : Option String
  entry_hash : String
deriving DecidableEq, Repr

variable {F : Type}

/-- `uq_mobile_device_user_pk`. -/
instance : Row MobileDeviceModel UUID where
  key r := r.id
  conflict a b := a.user_id = b.user_id ∧ a.public_key_ed25519 = b.public_key_ed25519
  conflict_symm a b := by simp [eq_comm]

/-- `uq_mobile_event_device_client_req` and `uq_mobile_event_device_hash`. -/
instance : Row (MobileEventModel F) UUID where
  key r := r.id
  conflict a b := (a.device_id = b.device_id ∧ a.client_request_id = b.client_request_id) ∨
    (a.device_id = b.device_id ∧ a.event_hash = b.event_hash)
  conflict_symm a b := by simp [eq_comm]

/-- No constraint bears on `prev_hash`. -/
instance : Row AuditChainEntryModel UUID := ⟨fun r => r.id, fun _ _ => false, fun _ _ => rfl⟩

@[simp] theorem key_mobile_device (r : MobileDeviceModel) : Row.key r = r.id := rfl
@[simp] theorem key_audit_chain_entry (r : AuditChainEntryModel) : Row.key r = r.id := rfl

theorem clash_mobile_device_iff {a b : MobileDeviceModel} :
    clash a b ↔ a.id = b.id ∨ (a.user_id = b.user_id ∧ a.public_key_ed25519 = b.public_key_ed25519) := by
  simp [clash, Row.conflict]

theorem clash_audit_chain_entry_iff {a b : AuditChainEntryModel} : clash a b ↔ a.id = b.id := by
  simp [clash, Row.conflict]

def MobileDeviceModel.stored (row : MobileDeviceModel) : MobileDeviceModel :=
  { row with created_at := row.created_at.stored, revoked_at := row.revoked_at.map datetime.stored }

def MobileEventModel.stored (row : MobileEventModel F) : MobileEventModel F :=
  { row with
    captured_at_client := row.captured_at_client.stored
    received_at_server := row.received_at_server.stored }

def AuditChainEntryModel.stored (row : AuditChainEntryModel) : AuditChainEntryModel :=
  { row with created_at := row.created_at.stored }

theorem MobileDeviceModel.keeps_stored : Table.Keeps MobileDeviceModel.stored :=
  ⟨fun _ => rfl, fun _ _ => rfl⟩

theorem MobileEventModel.keeps_stored : Table.Keeps (MobileEventModel.stored (F := F)) :=
  ⟨fun _ => rfl, fun _ _ => rfl⟩

theorem AuditChainEntryModel.keeps_stored : Table.Keeps AuditChainEntryModel.stored :=
  ⟨fun _ => rfl, fun _ _ => rfl⟩

/-- The place of an entry in the chain. -/
def AuditChainEntryModel.link (row : AuditChainEntryModel) : Link String := ⟨row.prev_hash, row.entry_hash⟩

end sigis
