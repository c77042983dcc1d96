import Sigis.Mobile.Resend

open relational transition

namespace sigis

variable {F : Type}

/-- The same device of the same user, with the same key. -/
structure MobileDeviceModel.SameAs (device later : MobileDeviceModel) : Prop where
  id : later.id = device.id
  user_id : later.user_id = device.user_id
  public_key_ed25519 : later.public_key_ed25519 = device.public_key_ed25519

/-- The events a response reports received. -/
def Batch.received (batch : Batch F) (response : MobileBatchResponse) : List (MobileEventIn F) :=
  ((batch.events.zip response.results).filter fun p => p.2.status = .RECEIVED).map Prod.fst

section steps

variable {batch : Batch F} {s t u init : MobileStore F} {response : MobileBatchResponse} {action : MobileAction F}
  {actions more : List (MobileAction F)} {device_id : UUID} {device : MobileDeviceModel} {e : MobileEventIn F}

theorem MobileDeviceModel.SameAs.refl (device : MobileDeviceModel) : device.SameAs device := ⟨rfl, rfl, rfl⟩

theorem MobileDeviceModel.SameAs.trans {a b c : MobileDeviceModel} (h : a.SameAs b) (h' : b.SameAs c) :
    a.SameAs c :=
  ⟨h'.id.trans h.id, h'.user_id.trans h.user_id, h'.public_key_ed25519.trans h.public_key_ed25519⟩

/-- The events reported received are the accepted ones. -/
theorem Batch.received_eq (h : batch.exec s = (.ok response, t)) :
    batch.received response = accepted s batch.user batch.events := by
  rw [Batch.received, Batch.zip_results h, List.filter_map, List.map_map]
  simp only [Function.comp_def, List.map_id_fun', id, verdict_received_iff]
  rfl

/-- A batch that returns leaves every stored device alone. -/
theorem Batch.get_device_of_exec (h : batch.exec s = (.ok response, t))
    (hget : s.mobile_devices.get device_id = some device) : t.mobile_devices.get device_id = some device := by
  obtain ⟨-, -, -, hadded⟩ := Batch.exec_eq_ok_iff.mp h
  rw [hadded.get_device, hget]
  rfl

theorem keeps_revoked_at (revoked_at : datetime) :
    Table.Keeps fun device : MobileDeviceModel => { device with revoked_at := some revoked_at } :=
  ⟨fun _ => rfl, fun _ _ => rfl⟩

/-- No step changes the user or the key of a registered device. -/
theorem MobileStep.get_device (h : MobileStep s action t)
    (hget : s.mobile_devices.get device_id = some device) :
    ∃ later, t.mobile_devices.get device_id = some later ∧ device.SameAs later := by
  cases h with
  | @send batch =>
    rcases batch.exec_cases s with ⟨response, hexec⟩ | hsame
    · exact ⟨device, Batch.get_device_of_exec hexec hget, .refl device⟩
    · rw [hsame]
      exact ⟨device, hget, .refl device⟩
  | revoke hrows =>
    rw [Table.get_update (keeps_revoked_at _) hrows]
    split
    · next heq =>
      rw [← heq, hget]
      exact ⟨_, rfl, rfl, rfl, rfl⟩
    · exact ⟨device, hget, .refl device⟩

theorem get_device_of_run (hrun : MobileRun s actions t)
    (hget : s.mobile_devices.get device_id = some device) :
    ∃ later, t.mobile_devices.get device_id = some later ∧ device.SameAs later := by
  induction hrun with
  | refl => exact ⟨device, hget, .refl device⟩
  | snoc _ hstep ih =>
    obtain ⟨middle, hmiddle, hsame⟩ := ih
    obtain ⟨later, hlater, hsame'⟩ := hstep.get_device hmiddle
    exact ⟨later, hlater, hsame.trans hsame'⟩

end steps

/-- A stored event refers to a registered device with the key it carries, and was sent by
its actor. -/
structure MobileEventModel.Bound (row : MobileEventModel F) (actions : List (MobileAction F))
    (s : MobileStore F) : Prop where
  device : ∃ device, s.mobile_devices.get row.device_id = some device ∧
    row.raw_json.device_id = row.device_id ∧
    row.raw_json.device_public_key = device.public_key_ed25519
  sender : ∃ batch, .send batch ∈ actions ∧ row.raw_json ∈ batch.events ∧ row.actor_user_id = batch.user

/-- A batch rejects the events of other actors and those whose key is not the one their
device has when they are reached; the rows it adds are those of the events it received. -/
structure Batch.Binds (batch : Batch F) (response : MobileBatchResponse) (t u : MobileStore F) : Prop where
  rejects : ∀ before e after, batch.events = before ++ e :: after →
    (e.actor_user_id ≠ batch.user ∨ ∃ key, registered_key t batch.user before e.device_id = some key ∧
      key ≠ e.device_public_key) →
    ∃ result, response.results[before.length]? = some result ∧ result.event_id = e.event_id ∧
      result.status = .REJECTED
  events : u.mobile_events.rows = t.mobile_events.rows ++
    (batch.received response).map fun e => (batch.event_row e).stored
  entries : u.audit_chain_entries.rows.map (·.resource_id) =
    t.audit_chain_entries.rows.map (·.resource_id) ++
      (batch.received response).map fun e => some e.event_id.str

section binding

variable {batch : Batch F} {s t u init : MobileStore F} {response : MobileBatchResponse} {action : MobileAction F}
  {actions : List (MobileAction F)} {row : MobileEventModel F} {e : MobileEventIn F}

theorem MobileEventModel.Bound.step (h : row.Bound actions s) (hstep : MobileStep s action t) :
    row.Bound (actions ++ [action]) t := by
  obtain ⟨⟨device, hget, hid, hkey⟩, batch, hsent, hevent, hactor⟩ := h
  obtain ⟨later, hlater, hsame⟩ := hstep.get_device hget
  exact ⟨⟨later, hlater, hid, hkey.trans hsame.public_key_ed25519.symm⟩, batch,
    List.mem_append_left _ hsent, hevent, hactor⟩

/-- The events a batch adds are bound when it returns. -/
theorem bound_of_accepted (hexec : batch.exec s = (.ok response, t))
    (he : e ∈ accepted s batch.user batch.events) :
    ((batch.event_row e).stored).Bound (actions ++ [.send batch]) t := by
  obtain ⟨hmem, -, hkey⟩ := mem_accepted_iff.mp he
  obtain ⟨device, hdevice, hdevice_key⟩ := Batch.exists_device hexec hkey
  exact ⟨⟨device, hdevice, rfl, hdevice_key.symm⟩, batch, by simp, hmem, rfl⟩

/-- In every run from a store without events each stored event is bound. -/
theorem bound_of_run (hinit : init.mobile_events.rows = []) (hrun : MobileRun init actions s) :
    ∀ row ∈ s.mobile_events.rows, row.Bound actions s := by
  induction hrun with
  | refl => simp [hinit]
  | @snoc actions s action t _ hstep ih =>
    intro row hrow
    have hold (hrow : row ∈ s.mobile_events.rows) : row.Bound (actions ++ [action]) t := (ih row hrow).step hstep
    cases hstep with
    | revoke => exact hold hrow
    | @send batch =>
      rcases batch.exec_cases s with ⟨response, hexec⟩ | hsame
      · rw [Batch.events_of_exec hexec] at hrow
        rcases List.mem_append.mp hrow with hrow | hrow
        · exact hold hrow
        · obtain ⟨e, he, rfl⟩ := List.mem_map.mp hrow
          exact bound_of_accepted hexec he
      · rw [hsame] at hrow
        exact hold hrow

theorem verdict_rejected {user : UUID} {before : List (MobileEventIn F)} (h : ¬ Accepts s user before e) :
    (verdict s user before e).status = .REJECTED := by
  rw [verdict, if_neg h]
  rfl

/-- A batch that returns binds its events. -/
theorem Batch.binds_of_exec (hexec : batch.exec t = (.ok response, u)) : batch.Binds response t u where
  rejects := by
    intro before e after hsplit hmismatch
    have hrejected : ¬ Accepts t batch.user batch.events e := by
      rintro ⟨hactor, hkey⟩
      rcases hmismatch with hother | ⟨key, hregistered, hne⟩
      · exact hother hactor
      · rw [hsplit, registered_key_append hregistered] at hkey
        exact hne (Option.some.inj hkey)
    refine ⟨verdict t batch.user batch.events e, ?_, event_id_verdict e, verdict_rejected hrejected⟩
    rw [Batch.results_of_exec hexec, List.getElem?_map]
    simp [hsplit]
  events := by
    rw [Batch.received_eq hexec]
    exact Batch.events_of_exec hexec
  entries := by
    rw [Batch.received_eq hexec]
    exact Batch.resources_of_exec hexec

/-- Whatever is sent, the key of a registered device never changes, every stored event is
bound, and every batch that returns binds its events. -/
theorem device_key_binding (hinit : init.mobile_events.rows = []) (hrun : MobileRun init actions s) :
    (∀ before after t device_id device, actions = before ++ after → MobileRun init before t →
      MobileRun t after s → t.mobile_devices.get device_id = some device →
        ∃ later, s.mobile_devices.get device_id = some later ∧
          later.public_key_ed25519 = device.public_key_ed25519) ∧
      (∀ row ∈ s.mobile_events.rows, row.Bound actions s) ∧
      ∀ t batch u response, Takes MobileStep init actions s t (.send batch) u →
        batch.exec t = (.ok response, u) → batch.Binds response t u := by
  refine ⟨?_, bound_of_run hinit hrun, fun t batch u response _ hexec => Batch.binds_of_exec hexec⟩
  intro before after t device_id device _ _ hafter hget
  obtain ⟨later, hlater, hsame⟩ := get_device_of_run hafter hget
  exact ⟨later, hlater, hsame.public_key_ed25519⟩

end binding

namespace mobile_pilot

theorem AfterFirst.step {response : MobileBatchResponse} {s : MobileStore Nat} (h : AfterFirst response s) :
    MobileStep .empty (.send first) s := by
  have hsend : MobileStep .empty (.send first) (first.exec .empty).2 := .send
  rwa [h.exec] at hsend

end mobile_pilot

open mobile_pilot in
theorem pilot_device_key_binding : ∃ response s, first.exec .empty = (.ok response, s) ∧
    s.mobile_events.rows ≠ [] ∧ (∀ row ∈ s.mobile_events.rows, row.Bound [.send first] s) ∧
    first.Binds response .empty s := by
  obtain ⟨response, s, h⟩ := exists_after_first
  obtain ⟨-, hbound, hbinds⟩ := device_key_binding rfl (.single h.step)
  exact ⟨response, s, h.exec, by simp [h.events], hbound, hbinds _ _ _ _ (.last .refl h.step) h.exec⟩

section attribution

variable {batch : Batch F} {s t u init : MobileStore F} {response : MobileBatchResponse} {action : MobileAction F}
  {actions : List (MobileAction F)} {device_id : UUID} {e : MobileEventIn F}

/-- A step that registers a device is a batch, and the device is its user's. -/
theorem MobileStep.registers (h : MobileStep s action t) (hnone : s.mobile_devices.get device_id = none)
    {device : MobileDeviceModel} (hget : t.mobile_devices.get device_id = some device) :
    ∃ first, action = .send first ∧ device.user_id = first.user := by
  cases h with
  | @send batch =>
    refine ⟨batch, rfl, ?_⟩
    rcases batch.exec_cases s with ⟨response, hexec⟩ | hsame
    · obtain ⟨-, -, -, hadded⟩ := Batch.exec_eq_ok_iff.mp hexec
      rw [hadded.get_device, hnone, Option.none_or] at hget
      obtain ⟨added, hfound, rfl⟩ := Option.map_eq_some_iff.mp hget
      obtain ⟨e, -, rfl, -⟩ :=
        (ingested batch s s.last_hash).registered.rows added (List.mem_of_find?_eq_some hfound)
      rfl
    · rw [hsame, hnone] at hget
      cases hget
  | revoke hrows =>
    rw [Table.get_update (keeps_revoked_at _) hrows] at hget
    split at hget
    · next heq =>
      rw [← heq, hnone] at hget
      cases hget
    · rw [hnone] at hget
      cases hget

/-- A device of a run from a store without devices has the user of the batch that
registered it. -/
theorem exists_registration (hinit : init.mobile_devices.rows = []) (hrun : MobileRun init actions s)
    {device : MobileDeviceModel} (hget : s.mobile_devices.get device_id = some device) :
    ∃ x first y, Takes MobileStep init actions s x (.send first) y ∧
      x.mobile_devices.get device_id = none ∧ y.mobile_devices.get device_id ≠ none ∧
      device.user_id = first.user := by
  have hnone : init.mobile_devices.get device_id = none := by
    rw [Table.get_eq_none_iff, hinit]
    simp
  obtain ⟨x, action, y, htakes, hx, hy⟩ := hrun.exists_origin
    (P := fun x => x.mobile_devices.get device_id ≠ none) (not_not.mpr hnone) (by simp [hget])
  have hx : x.mobile_devices.get device_id = none := not_not.mp hx
  obtain ⟨added, hadded⟩ := Option.ne_none_iff_exists'.mp hy
  obtain ⟨first, rfl, huser⟩ := htakes.taken.registers hx hadded
  obtain ⟨after, hafter⟩ := htakes.after
  obtain ⟨later, hlater, hsame⟩ := get_device_of_run hafter hadded
  obtain rfl := Option.some.inj (hlater.symm.trans hget)
  exact ⟨x, first, y, htakes, hx, hy, hsame.user_id.trans huser⟩

/-- The same devices are registered, with the same keys. -/
def MobileStore.SameKeys (s t : MobileStore F) : Prop :=
  ∀ device_id, (s.mobile_devices.get device_id).map (·.public_key_ed25519) =
    (t.mobile_devices.get device_id).map (·.public_key_ed25519)

/-- One of the events registers a device with a key that another device of the sender has,
which `uq_mobile_device_user_pk` forbids. -/
def Batch.RepeatsKey (batch : Batch F) (events : List (MobileEventIn F)) (s : MobileStore F) : Prop :=
  ∃ e ∈ events, s.mobile_devices.get e.device_id = none ∧
    ∃ device ∈ s.mobile_devices.rows, device.user_id = batch.user ∧
      device.public_key_ed25519 = e.device_public_key

/-- Which events are accepted depends on the registered keys only. -/
theorem accepted_congr {user : UUID} {events : List (MobileEventIn F)} (h : s.SameKeys t) :
    accepted s user events = accepted t user events := by
  have hregistered (device_id : UUID) : registered_key s user events device_id =
      registered_key t user events device_id := by rw [registered_key, registered_key, h]
  refine List.filter_congr fun e _ => ?_
  rw [decide_eq_decide, Accepts, Accepts, hregistered]

theorem MobileStore.SameKeys.get_eq_none (h : s.SameKeys t) :
    s.mobile_devices.get device_id = none ↔ t.mobile_devices.get device_id = none := by
  rw [← Option.map_eq_none_iff, h, Option.map_eq_none_iff]

/-- The loop compares keys: it takes the same turns over the same registered keys. -/
theorem MobileStore.SameKeys.ingest_event (h : s.SameKeys t) (st : IngestState F) (e : MobileEventIn F) :
    batch.ingest_event s st e = batch.ingest_event t st e := by
  have hkeys : (st.session.get_device s e.device_id).map (·.public_key_ed25519) =
      (st.session.get_device t e.device_id).map (·.public_key_ed25519) := by
    rw [MobileSession.get_device, MobileSession.get_device, Option.map_or, Option.map_or, h]
  rw [Batch.ingest_event, Batch.ingest_event]
  cases hs : st.session.get_device s e.device_id with
  | none =>
    rw [hs, Option.map_none, eq_comm, Option.map_eq_none_iff] at hkeys
    rw [hkeys]
  | some device =>
    rw [hs, Option.map_some, eq_comm, Option.map_eq_some_iff] at hkeys
    obtain ⟨other, hother, hkey⟩ := hkeys
    simp only [hother, hkey]

theorem MobileStore.SameKeys.ingest_events (h : s.SameKeys t) (prev : Option String) :
    batch.ingest_events s prev = batch.ingest_events t prev := by
  have hturn : batch.ingest_event s = batch.ingest_event t := by
    funext st e
    exact h.ingest_event st e
  rw [Batch.ingest_events, Batch.ingest_events, hturn]

/-- Over the same registered keys the devices a committed batch adds are refused only for a
key of another device of the sender. -/
theorem Batch.accepts_devices_iff (hexec : batch.exec t = (.ok response, u)) (h : s.SameKeys t) :
    s.mobile_devices.Accepts (batch.ingest_events s s.last_hash).session.devices ↔
      ¬ batch.RepeatsKey (batch.received response) s := by
  obtain ⟨-, -, hfits, -⟩ := Batch.exec_eq_ok_iff.mp hexec
  obtain ⟨-, hapart⟩ := (ingested batch t t.last_hash).registered.accepts_iff.mp hfits.devices
  rw [(ingested batch s s.last_hash).registered.accepts_iff, accepted_congr h, Batch.received_eq hexec]
  constructor
  · rintro ⟨hstored, -⟩ ⟨e, he, hunknown, device, hdevice, hpair⟩
    exact hstored device hdevice e he hunknown hpair
  · intro hrepeats
    refine ⟨?_, ?_⟩
    · intro device hdevice e he hunknown hpair
      exact hrepeats ⟨e, he, hunknown, device, hdevice, hpair⟩
    · intro a ha b hb ha_unknown hb_unknown
      exact hapart a ha b hb (h.get_eq_none.mp ha_unknown) (h.get_eq_none.mp hb_unknown)

/-- A committed batch, sent to a store with the same events, the same chain and the same
registered keys: it is refused for a repeated key, and answered the same otherwise. -/
theorem Batch.exec_of_same_keys (hexec : batch.exec t = (.ok response, u)) (h : s.SameKeys t)
    (hevents : s.mobile_events = t.mobile_events) (hentries : s.audit_chain_entries = t.audit_chain_entries) :
    (batch.RepeatsKey (batch.received response) s → batch.exec s = (.error .IntegrityError, s)) ∧
      (¬ batch.RepeatsKey (batch.received response) s → ∃ v, batch.exec s = (.ok response, v)) := by
  obtain ⟨hlength, rfl, hfits, -⟩ := Batch.exec_eq_ok_iff.mp hexec
  have hlast : s.last_hash = t.last_hash := by rw [MobileStore.last_hash, hentries, MobileStore.last_hash]
  have hloop : batch.ingest_events s s.last_hash = batch.ingest_events t t.last_hash := by
    rw [hlast, h.ingest_events]
  rw [← hentries] at hlength
  refine ⟨?_, ?_⟩
  · intro hrepeats
    refine Batch.exec_of_not_fits hlength fun hrefuted => ?_
    exact (Batch.accepts_devices_iff hexec h).mp hrefuted.devices hrepeats
  · intro hrepeats
    have hfits' : (batch.ingest_events s s.last_hash).session.Fits s := by
      refine ⟨(Batch.accepts_devices_iff hexec h).mpr hrepeats, ?_, ?_⟩
      · rw [hloop, hevents]
        exact hfits.events
      · rw [hloop, hentries]
        exact hfits.entries
    obtain ⟨v, hcommit⟩ := hfits'.exists_commit
    refine ⟨v, Batch.exec_eq_ok_iff.mpr ⟨hlength, ?_, MobileStore.commit_eq_some_iff.mp hcommit⟩⟩
    rw [hloop]

/-- An event received comes from the user of its batch and carries the key its device is
registered with. The device belongs to the user of the batch that first registered it.
Over the same registered keys the same events are received, whatever the devices' users
and revocations, unless the batch is refused as a whole for a key of another device of its
sender. -/
theorem device_attribution (hinit : init.mobile_devices.rows = []) (hrun : MobileRun init actions s)
    (htakes : Takes MobileStep init actions s t (.send batch) u)
    (hexec : batch.exec t = (.ok response, u)) :
    (∀ e ∈ batch.received response, e.actor_user_id = batch.user ∧
      ∃ device, u.mobile_devices.get e.device_id = some device ∧
        device.public_key_ed25519 = e.device_public_key ∧
        ∃ x first y, Takes MobileStep init actions s x (.send first) y ∧
          x.mobile_devices.get e.device_id = none ∧ y.mobile_devices.get e.device_id ≠ none ∧
          device.user_id = first.user) ∧
      ∀ t' : MobileStore F, t'.SameKeys t →
        (∀ u' response', batch.exec t' = (.ok response', u') →
          batch.received response' = batch.received response) ∧
        (t'.mobile_events = t.mobile_events → t'.audit_chain_entries = t.audit_chain_entries →
          (batch.RepeatsKey (batch.received response) t' → batch.exec t' = (.error .IntegrityError, t')) ∧
            (¬ batch.RepeatsKey (batch.received response) t' → ∃ u', batch.exec t' = (.ok response, u'))) := by
  refine ⟨?_, ?_⟩
  · intro e he
    rw [Batch.received_eq hexec] at he
    obtain ⟨-, hactor, hkey⟩ := mem_accepted_iff.mp he
    obtain ⟨device, hdevice, hdevice_key⟩ := Batch.exists_device hexec hkey
    refine ⟨hactor, device, hdevice, hdevice_key, ?_⟩
    obtain ⟨before, after, rfl, hbefore, hstep, hafter⟩ := htakes
    obtain ⟨x, first, y, horigin, hregistration⟩ :=
      exists_registration hinit (hbefore.snoc hstep) hdevice
    refine ⟨x, first, y, ?_, hregistration⟩
    simpa using horigin.trans hafter
  · intro t' hkeys
    refine ⟨fun u' response' hexec' => ?_, Batch.exec_of_same_keys hexec hkeys⟩
    rw [Batch.received_eq hexec, Batch.received_eq hexec', accepted_congr hkeys]

end attribution

namespace mobile_pilot

/-- Another user sends an event of the tablet, with its key. -/
def foreign : Batch Nat := batch 'b' colleague [event colleague tablet '1']

end mobile_pilot

open mobile_pilot in
/-- The tablet registered by the agent is revoked; an event of the colleague is received
from it all the same. -/
theorem foreign_revoked_received : ∃ t u response device,
    MobileRun .empty [.send first, .revoke tablet (datetime.utc 1)] t ∧
    foreign.exec t = (.ok response, u) ∧ foreign.received response = [event colleague tablet '1'] ∧
    t.mobile_devices.get tablet = some device ∧ device.user_id ≠ colleague ∧ device.revoked_at ≠ none := by
  obtain ⟨_, s, h⟩ := exists_after_first
  obtain ⟨rows, hrows, -⟩ := Table.update_of_keeps (keeps_revoked_at (datetime.utc 1).stored) h.get_tablet
  have hrevoke : MobileStep s (.revoke tablet (datetime.utc 1)) { s with mobile_devices := rows } :=
    .revoke hrows
  have hdevice : rows.get tablet = _ := Table.get_update (keeps_revoked_at _) hrows tablet
  rw [if_pos rfl, h.get_tablet, Option.map_some] at hdevice
  have hformed : foreign.WellFormed { s with mobile_devices := rows } := by
    refine Batch.well_formed_of_known (fresh_batch h.ids) rfl rfl hdevice rfl ?_
    show ∀ row ∈ s.mobile_events.rows, _
    rw [h.events]
    decide +kernel
  obtain ⟨response, u, hexec, -⟩ := hformed.continues_iff.mpr h.length.le
  refine ⟨_, u, response, _, .cons h.step (.single hrevoke), hexec, ?_, hdevice, by decide +kernel, by simp⟩
  rw [Batch.received_eq hexec, hformed.accepted_eq]
  rfl

open mobile_pilot in
/-- The first event of the tablet is its agent's. -/
theorem pilot_device_attribution : ∃ response s, first.exec .empty = (.ok response, s) ∧
    first.received response = [event agent tablet '0'] ∧
    ∀ e ∈ first.received response, e.actor_user_id = first.user ∧
      ∃ device, s.mobile_devices.get e.device_id = some device ∧
        device.public_key_ed25519 = e.device_public_key := by
  obtain ⟨response, s, h⟩ := exists_after_first
  have hattribution := (device_attribution rfl (.single h.step) (.last .refl h.step) h.exec).1
  refine ⟨response, s, h.exec, ?_, fun e he => ?_⟩
  · rw [Batch.received_eq h.exec, first_well_formed.accepted_eq]
    rfl
  · obtain ⟨hactor, device, hdevice, hkey, -⟩ := hattribution e he
    exact ⟨hactor, device, hdevice, hkey⟩

end sigis
