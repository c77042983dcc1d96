import Sigis.Mobile.Models

open relational

namespace sigis

/-- The committed tables a batch of mobile events reads and writes. -/
structure MobileStore (F : Type) where
  mobile_devices : Table MobileDeviceModel
  mobile_events : Table (MobileEventModel F)
  audit_chain_entries : Table AuditChainEntryModel

/-- The rows a session has added and not committed yet. -/
structure MobileSession (F : Type) where
  devices : List MobileDeviceModel := []
  events : List (MobileEventModel F) := []
  entries : List AuditChainEntryModel := []

variable {F : Type} {s t : MobileStore F} {session : MobileSession F}

@[ext] theorem MobileStore.ext (hdevices : s.mobile_devices.rows = t.mobile_devices.rows)
    (hevents : s.mobile_events.rows = t.mobile_events.rows)
    (hentries : s.audit_chain_entries.rows = t.audit_chain_entries.rows) : s = t := by
  cases s
  cases t
  simp only [MobileStore.mk.injEq]
  exact ⟨Table.ext hdevices, Table.ext hevents, Table.ext hentries⟩

def MobileStore.empty : MobileStore F := ⟨.empty, .empty, .empty⟩

/-- `session.get(MobileDeviceModel, id)`. The pending rows are flushed before the read, so
it sees them; a flush that a constraint refuses aborts the request like a refused commit. -/
def MobileSession.get_device (session : MobileSession F) (s : MobileStore F) (id : UUID) :
    Option MobileDeviceModel :=
  (s.mobile_devices.get id).or (session.devices.find? fun device => device.id = id)

/-- `session.commit()`: every added row, or none of them. -/
def MobileStore.commit (s : MobileStore F) (session : MobileSession F) : Option (MobileStore F) := do
  let devices ← s.mobile_devices.insert_all (session.devices.map .stored)
  let events ← s.mobile_events.insert_all (session.events.map .stored)
  let entries ← s.audit_chain_entries.insert_all (session.entries.map .stored)
  some ⟨devices, events, entries⟩

/-- No added row breaks a declared constraint. -/
structure MobileSession.Fits (session : MobileSession F) (s : MobileStore F) : Prop where
  devices : s.mobile_devices.Accepts session.devices
  events : s.mobile_events.Accepts session.events
  entries : s.audit_chain_entries.Accepts session.entries

/-- The store `t` is `s` with the rows of the session. -/
structure MobileSession.Added (session : MobileSession F) (s t : MobileStore F) : Prop where
  devices : t.mobile_devices.rows = s.mobile_devices.rows ++ session.devices.map .stored
  events : t.mobile_events.rows = s.mobile_events.rows ++ session.events.map .stored
  entries : t.audit_chain_entries.rows = s.audit_chain_entries.rows ++ session.entries.map .stored

theorem MobileStore.commit_eq_some_iff :
    s.commit session = some t ↔ session.Fits s ∧ session.Added s t := by
  simp only [MobileStore.commit, Option.bind_eq_bind, Option.bind_eq_some_iff, Table.insert_all_eq_some_iff,
    MobileDeviceModel.keeps_stored.accepts_map_iff, MobileEventModel.keeps_stored.accepts_map_iff,
    AuditChainEntryModel.keeps_stored.accepts_map_iff, Option.some.injEq]
  constructor
  · rintro ⟨devices, ⟨hdevices, hd⟩, events, ⟨hevents, he⟩, entries, ⟨hentries, hc⟩, rfl⟩
    exact ⟨⟨hdevices, hevents, hentries⟩, hd, he, hc⟩
  · rintro ⟨⟨hdevices, hevents, hentries⟩, hd, he, hc⟩
    exact ⟨_, ⟨hdevices, hd⟩, _, ⟨hevents, he⟩, _, ⟨hentries, hc⟩, rfl⟩

/-- Rows that break no constraint are committed. -/
theorem MobileSession.Fits.exists_commit (h : session.Fits s) : ∃ t, s.commit session = some t := by
  obtain ⟨devices, hdevices⟩ :=
    (MobileDeviceModel.keeps_stored.accepts_map_iff.mpr h.devices).exists_insert_all
  obtain ⟨events, hevents⟩ := (MobileEventModel.keeps_stored.accepts_map_iff.mpr h.events).exists_insert_all
  obtain ⟨entries, hentries⟩ :=
    (AuditChainEntryModel.keeps_stored.accepts_map_iff.mpr h.entries).exists_insert_all
  exact ⟨⟨devices, events, entries⟩, by simp [MobileStore.commit, hdevices, hevents, hentries]⟩

end sigis
