import Sigis.Mobile.Verdicts

open guarded hash_chain relational transactional

namespace sigis

variable {F : Type}

/-- The identifiers drawn for the entries of a batch are new. -/
structure Batch.Fresh (batch : Batch F) (s : MobileStore F) : Prop where
  injective : Function.Injective batch.entry_id
  unused : ∀ row ∈ s.audit_chain_entries.rows, ∀ n, row.id ≠ batch.entry_id n

/-- The accepted events repeat no identifier, no request of a device and no hash of a
device, stored or among themselves, and give no two devices of the user one key. -/
structure Batch.Compatible (batch : Batch F) (s : MobileStore F) : Prop where
  events_stored : ∀ row ∈ s.mobile_events.rows, ∀ e ∈ accepted s batch.user batch.events,
    ¬ clash row (batch.event_row e)
  events_apart : (accepted s batch.user batch.events).Pairwise fun a b =>
    ¬ clash (batch.event_row a) (batch.event_row b)
  devices_stored : ∀ device ∈ s.mobile_devices.rows, ∀ e ∈ accepted s batch.user batch.events,
    s.mobile_devices.get e.device_id = none →
      ¬ (device.user_id = batch.user ∧ device.public_key_ed25519 = e.device_public_key)
  devices_apart : ∀ a ∈ accepted s batch.user batch.events, ∀ b ∈ accepted s batch.user batch.events,
    s.mobile_devices.get a.device_id = none → s.mobile_devices.get b.device_id = none →
      a.device_public_key = b.device_public_key → a.device_id = b.device_id

variable {batch : Batch F} {s t : MobileStore F} {prev : Option String} {before : List (MobileEventIn F)}
  {st : IngestState F} {session : MobileSession F} {e : MobileEventIn F}

/-- The unknown device of an accepted event is pending. -/
theorem Registered.exists_row (h : Registered batch s before session) (he : e ∈ accepted s batch.user before)
    (hunknown : s.mobile_devices.get e.device_id = none) :
    ∃ device ∈ session.devices, device.id = e.device_id ∧ device.user_id = batch.user ∧
      device.public_key_ed25519 = e.device_public_key := by
  have hkey := (h.keys e.device_id).trans (mem_accepted_iff.mp he).2.2
  rw [MobileSession.get_device, hunknown, Option.none_or] at hkey
  obtain ⟨device, hfound, hkey⟩ := Option.map_eq_some_iff.mp hkey
  have hmem := List.mem_of_find?_eq_some hfound
  obtain ⟨first, -, hrow, -⟩ := h.rows device hmem
  exact ⟨device, hmem, by simpa using List.find?_some hfound, by rw [hrow]; rfl, hkey⟩

theorem Registered.accepts_iff (h : Registered batch s before session) :
    s.mobile_devices.Accepts session.devices ↔
      (∀ device ∈ s.mobile_devices.rows, ∀ e ∈ accepted s batch.user before,
        s.mobile_devices.get e.device_id = none →
          ¬ (device.user_id = batch.user ∧ device.public_key_ed25519 = e.device_public_key)) ∧
      ∀ a ∈ accepted s batch.user before, ∀ b ∈ accepted s batch.user before,
        s.mobile_devices.get a.device_id = none → s.mobile_devices.get b.device_id = none →
          a.device_public_key = b.device_public_key → a.device_id = b.device_id := by
  constructor
  · intro haccepts
    refine ⟨?_, ?_⟩
    · rintro device hdevice e he hunknown ⟨huser, hkey⟩
      obtain ⟨added, hadded, -, hadded_user, hadded_key⟩ := h.exists_row he hunknown
      refine haccepts.stored device hdevice added hadded (clash_mobile_device_iff.mpr (Or.inr ⟨?_, ?_⟩))
      · rw [huser, hadded_user]
      · rw [hkey, hadded_key]
    · intro a ha b hb ha_unknown hb_unknown hkey
      obtain ⟨x, hx, hx_id, hx_user, hx_key⟩ := h.exists_row ha ha_unknown
      obtain ⟨y, hy, hy_id, hy_user, hy_key⟩ := h.exists_row hb hb_unknown
      have hclash : clash x y := clash_mobile_device_iff.mpr (Or.inr
        ⟨hx_user.trans hy_user.symm, hx_key.trans (hkey.trans hy_key.symm)⟩)
      rw [← hx_id, ← hy_id, haccepts.eq_of_clash hx hy hclash]
  · rintro ⟨hstored, hapart⟩
    refine ⟨?_, ?_⟩
    · intro device hdevice added hadded hclash
      obtain ⟨e, he, rfl, hunknown⟩ := h.rows added hadded
      rcases clash_mobile_device_iff.mp hclash with hid | hpair
      · exact Table.get_eq_none_iff.mp hunknown device hdevice hid
      · exact hstored device hdevice e he hunknown hpair
    · refine h.distinct.imp_of_mem ?_
      intro x y hx hy hne hclash
      obtain ⟨a, ha, rfl, ha_unknown⟩ := h.rows x hx
      obtain ⟨b, hb, rfl, hb_unknown⟩ := h.rows y hy
      rcases clash_mobile_device_iff.mp hclash with hid | hpair
      · exact hne hid
      · exact hne (hapart a ha b hb ha_unknown hb_unknown hpair.2)

theorem Ingested.accepts_events_iff (h : Ingested batch s prev before st) :
    s.mobile_events.Accepts st.session.events ↔
      (∀ row ∈ s.mobile_events.rows, ∀ e ∈ accepted s batch.user before, ¬ clash row (batch.event_row e)) ∧
      (accepted s batch.user before).Pairwise fun a b => ¬ clash (batch.event_row a) (batch.event_row b) := by
  rw [h.events, Table.accepts_iff, List.pairwise_map]
  simp only [List.forall_mem_map]

/-- Entries under new identifiers break no constraint. -/
theorem Ingested.accepts_entries (h : Ingested batch s prev before st) (hfresh : batch.Fresh s) :
    s.audit_chain_entries.Accepts st.session.entries where
  stored := by
    intro row hrow entry hentry hclash
    have hid : entry.id ∈ (List.range st.session.entries.length).map batch.entry_id :=
      h.ids ▸ List.mem_map_of_mem hentry
    obtain ⟨n, -, hn⟩ := List.mem_map.mp hid
    exact hfresh.unused row hrow n ((clash_audit_chain_entry_iff.mp hclash).trans hn.symm)
  apart := by
    have hnodup : (st.session.entries.map (·.id)).Nodup := by
      rw [h.ids]
      exact List.nodup_range.map hfresh.injective
    refine (List.pairwise_map.mp hnodup).imp ?_
    intro a b hne hclash
    exact hne (clash_audit_chain_entry_iff.mp hclash)

/-- A batch that read the chain is committed when its accepted events are compatible with
the store. -/
theorem Batch.fits_iff (hfresh : batch.Fresh s) :
    (batch.ingest_events s prev).session.Fits s ↔ batch.Compatible s := by
  have h := ingested batch s prev
  constructor
  · intro hfits
    obtain ⟨hstored, hapart⟩ := h.accepts_events_iff.mp hfits.events
    obtain ⟨hdevices, hkeys⟩ := h.registered.accepts_iff.mp hfits.devices
    exact ⟨hstored, hapart, hdevices, hkeys⟩
  · intro hcompatible
    refine ⟨?_, ?_, h.accepts_entries hfresh⟩
    · exact h.registered.accepts_iff.mpr ⟨hcompatible.devices_stored, hcompatible.devices_apart⟩
    · exact h.accepts_events_iff.mpr ⟨hcompatible.events_stored, hcompatible.events_apart⟩

/-- A batch returns when the chain has at most one entry and its accepted events are
compatible with the store. -/
theorem Batch.exists_exec_iff (hfresh : batch.Fresh s) :
    (∃ response t, batch.exec s = (.ok response, t)) ↔
      s.audit_chain_entries.rows.length ≤ 1 ∧ batch.Compatible s := by
  simp only [Batch.exec_eq_ok_iff, Batch.fits_iff hfresh]
  constructor
  · rintro ⟨_, t, hlength, rfl, hcompatible, hadded⟩
    exact ⟨hlength, hcompatible⟩
  · rintro ⟨hlength, hcompatible⟩
    have hfits : (batch.ingest_events s s.last_hash).session.Fits s :=
      (Batch.fits_iff hfresh).mpr hcompatible
    obtain ⟨t, ht⟩ := hfits.exists_commit
    exact ⟨_, t, hlength, rfl, hcompatible, (MobileStore.commit_eq_some_iff.mp ht).2⟩

section returns

variable {response : MobileBatchResponse}

theorem Batch.results_of_exec (h : batch.exec s = (.ok response, t)) :
    response.results = batch.events.map (verdict s batch.user batch.events) := by
  obtain ⟨-, rfl, -⟩ := Batch.exec_eq_ok_iff.mp h
  exact (ingested batch s s.last_hash).results

theorem Batch.events_of_exec (h : batch.exec s = (.ok response, t)) :
    t.mobile_events.rows = s.mobile_events.rows ++
      (accepted s batch.user batch.events).map fun e => (batch.event_row e).stored := by
  obtain ⟨-, -, -, hadded⟩ := Batch.exec_eq_ok_iff.mp h
  rw [hadded.events, (ingested batch s s.last_hash).events, List.map_map]
  rfl

/-- The chain goes on from its last entry. -/
theorem Batch.links_of_exec (h : batch.exec s = (.ok response, t)) :
    t.audit_chain_entries.rows.map (·.link) = s.audit_chain_entries.rows.map (·.link) ++
      links chain_hash s.last_hash ((accepted s batch.user batch.events).map (·.event_hash)) := by
  obtain ⟨-, -, -, hadded⟩ := Batch.exec_eq_ok_iff.mp h
  rw [hadded.entries, List.map_append, List.map_map, ← (ingested batch s s.last_hash).links]
  rfl

theorem Batch.resources_of_exec (h : batch.exec s = (.ok response, t)) :
    t.audit_chain_entries.rows.map (·.resource_id) = s.audit_chain_entries.rows.map (·.resource_id) ++
      (accepted s batch.user batch.events).map fun e => some e.event_id.str := by
  obtain ⟨-, -, -, hadded⟩ := Batch.exec_eq_ok_iff.mp h
  rw [hadded.entries, List.map_append, List.map_map, ← (ingested batch s s.last_hash).resources]
  rfl

/-- The entries added carry the identifiers drawn for them. -/
theorem Batch.exists_entry_id (h : batch.exec s = (.ok response, t)) {row : AuditChainEntryModel}
    (hrow : row ∈ t.audit_chain_entries.rows) :
    row ∈ s.audit_chain_entries.rows ∨ ∃ n, row.id = batch.entry_id n := by
  obtain ⟨-, -, -, hadded⟩ := Batch.exec_eq_ok_iff.mp h
  rw [hadded.entries, List.mem_append] at hrow
  refine hrow.imp_right fun hrow => ?_
  obtain ⟨entry, hentry, rfl⟩ := List.mem_map.mp hrow
  have hid : entry.id ∈ (batch.ingest_events s s.last_hash).session.entries.map (·.id) :=
    List.mem_map_of_mem hentry
  rw [(ingested batch s s.last_hash).ids] at hid
  obtain ⟨n, -, hn⟩ := List.mem_map.mp hid
  exact ⟨n, hn.symm⟩

/-- The devices stored are those the loop saw, pending rows included. -/
theorem MobileSession.Added.get_device (h : session.Added s t) (device_id : UUID) :
    t.mobile_devices.get device_id = (s.mobile_devices.get device_id).or
      ((session.devices.find? fun device => device.id = device_id).map .stored) := by
  rw [Table.get, h.devices, List.find?_append, List.find?_map]
  rfl

theorem Batch.registered_key_of_exec (h : batch.exec s = (.ok response, t)) (device_id : UUID) :
    (t.mobile_devices.get device_id).map (·.public_key_ed25519) =
      registered_key s batch.user batch.events device_id := by
  obtain ⟨-, -, -, hadded⟩ := Batch.exec_eq_ok_iff.mp h
  rw [← (ingested batch s s.last_hash).registered.keys, hadded.get_device, MobileSession.get_device]
  cases s.mobile_devices.get device_id with
  | some device => rfl
  | none =>
    rw [Option.none_or, Option.none_or, Option.map_map]
    rfl

/-- A device registered by the end of a batch that returns is stored. -/
theorem Batch.exists_device (h : batch.exec s = (.ok response, t)) {device_id : UUID} {key : String}
    (hkey : registered_key s batch.user batch.events device_id = some key) :
    ∃ device, t.mobile_devices.get device_id = some device ∧ device.public_key_ed25519 = key := by
  rw [← Batch.registered_key_of_exec h] at hkey
  exact Option.map_eq_some_iff.mp hkey

end returns

theorem Batch.exec_of_long_chain (batch : Batch F) (h : 1 < s.audit_chain_entries.rows.length) :
    batch.exec s = (.error .MultipleResultsFound, s) := by
  have hread := get_last_hash_eq_error_iff.mpr ⟨h, rfl⟩
  have hprepare : mobile_database.prepare batch s = .error .MultipleResultsFound := by
    simp only [mobile_database, ingest_events_batch, hread, bind_error]
  simp only [Batch.exec, Database.run, hprepare]

/-- A batch with a row that breaks a constraint is refused as a whole. -/
theorem Batch.exec_of_not_fits (hlength : s.audit_chain_entries.rows.length ≤ 1)
    (h : ¬ (batch.ingest_events s s.last_hash).session.Fits s) : batch.exec s = (.error .IntegrityError, s) := by
  have hprepare : ingest_events_batch batch s = _ := ingest_events_batch_eq_ok_iff.mpr ⟨hlength, rfl, rfl⟩
  have hrefused : s.commit (batch.ingest_events s s.last_hash).session = none := by
    cases hcommit : s.commit (batch.ingest_events s s.last_hash).session with
    | none => rfl
    | some t => exact absurd (MobileStore.commit_eq_some_iff.mp hcommit).1 h
  simp only [Batch.exec, Database.run, mobile_database, hprepare, hrefused]

theorem Batch.exec_of_incompatible (hfresh : batch.Fresh s) (hlength : s.audit_chain_entries.rows.length ≤ 1)
    (h : ¬ batch.Compatible s) : batch.exec s = (.error .IntegrityError, s) :=
  Batch.exec_of_not_fits hlength (mt (Batch.fits_iff hfresh).mp h)

end sigis
