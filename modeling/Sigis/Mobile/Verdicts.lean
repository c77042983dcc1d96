import Sigis.Mobile.Ingest

open hash_chain relational

namespace sigis

variable {F : Type}

/-- The key a device is registered with once `before` has been processed: the stored one,
or the one its user's first event that names the device carries. -/
def registered_key (s : MobileStore F) (user : UUID) (before : List (MobileEventIn F)) (device_id : UUID) :
    Option String :=
  ((s.mobile_devices.get device_id).map (·.public_key_ed25519)).or
    ((before.find? fun e => e.actor_user_id = user ∧ e.device_id = device_id).map (·.device_public_key))

/-- The event comes from the user and carries the key its device is registered with. -/
def Accepts (s : MobileStore F) (user : UUID) (before : List (MobileEventIn F)) (e : MobileEventIn F) : Prop :=
  e.actor_user_id = user ∧ registered_key s user before e.device_id = some e.device_public_key

instance (s : MobileStore F) (user : UUID) (before : List (MobileEventIn F)) (e : MobileEventIn F) :
    Decidable (Accepts s user before e) := inferInstanceAs (Decidable (_ ∧ _))

/-- The answer to an event. -/
def verdict (s : MobileStore F) (user : UUID) (before : List (MobileEventIn F)) (e : MobileEventIn F) :
    MobileEventResult :=
  if Accepts s user before e then e.received
  else e.rejected (if e.actor_user_id = user then "DEVICE_KEY_MISMATCH" else "ACTOR_MISMATCH")

def accepted (s : MobileStore F) (user : UUID) (events : List (MobileEventIn F)) : List (MobileEventIn F) :=
  events.filter fun e => Accepts s user events e

section prefixes

variable {s : MobileStore F} {user : UUID} {before more : List (MobileEventIn F)} {e : MobileEventIn F}
  {device_id : UUID} {key : String}

theorem registered_key_of_get {device : MobileDeviceModel} (h : s.mobile_devices.get device_id = some device) :
    registered_key s user before device_id = some device.public_key_ed25519 := by
  simp [registered_key, h]

/-- A key once registered stays. -/
theorem registered_key_append (h : registered_key s user before device_id = some key) :
    registered_key s user (before ++ more) device_id = some key := by
  unfold registered_key at h ⊢
  rw [Option.or_eq_some_iff] at h ⊢
  refine h.imp_right fun ⟨hnone, hfound⟩ => ⟨hnone, ?_⟩
  obtain ⟨first, hfirst, rfl⟩ := Option.map_eq_some_iff.mp hfound
  rw [List.find?_append, hfirst]
  rfl

/-- The device of an event of the user is registered once the event has been processed. -/
theorem exists_registered_key (he : e ∈ before) (huser : e.actor_user_id = user) :
    ∃ key, registered_key s user before e.device_id = some key := by
  unfold registered_key
  cases s.mobile_devices.get e.device_id with
  | some device => exact ⟨_, rfl⟩
  | none =>
    cases hfound : before.find? fun x => x.actor_user_id = user ∧ x.device_id = e.device_id with
    | some first => exact ⟨_, rfl⟩
    | none =>
      have hmiss := List.find?_eq_none.mp hfound e he
      simp [huser] at hmiss

/-- Whether an event is accepted is settled once it has been processed. -/
theorem accepts_append_iff (he : e ∈ before) : Accepts s user (before ++ more) e ↔ Accepts s user before e := by
  unfold Accepts
  refine and_congr_right fun huser => ?_
  obtain ⟨key, hkey⟩ := exists_registered_key (s := s) he huser
  rw [registered_key_append hkey, hkey]

theorem verdict_append (he : e ∈ before) : verdict s user (before ++ more) e = verdict s user before e := by
  unfold verdict
  simp only [accepts_append_iff he]

theorem mem_accepted_iff : e ∈ accepted s user before ↔ e ∈ before ∧ Accepts s user before e := by
  simp [accepted]

theorem accepted_append_singleton :
    accepted s user (before ++ [e]) =
      accepted s user before ++ if Accepts s user (before ++ [e]) e then [e] else [] := by
  have hbefore : before.filter (fun x => Accepts s user (before ++ [e]) x) = accepted s user before := by
    refine List.filter_congr fun x hx => ?_
    rw [decide_eq_decide]
    exact accepts_append_iff hx
  rw [accepted, List.filter_append, hbefore, List.filter_singleton]
  by_cases h : Accepts s user (before ++ [e]) e <;> simp [h]

theorem map_verdict_append_singleton :
    (before ++ [e]).map (verdict s user (before ++ [e])) =
      before.map (verdict s user before) ++ [verdict s user (before ++ [e]) e] := by
  rw [List.map_append, List.map_singleton]
  congr 1
  exact List.map_congr_left fun x hx => verdict_append hx

theorem mem_accepted_append (h : e ∈ accepted s user before) : e ∈ accepted s user (before ++ more) := by
  obtain ⟨hmem, haccepts⟩ := mem_accepted_iff.mp h
  exact mem_accepted_iff.mpr ⟨List.mem_append_left more hmem, (accepts_append_iff hmem).mpr haccepts⟩

/-- An event of another user registers nothing. -/
theorem registered_key_snoc_of_ne (h : e.actor_user_id ≠ user) :
    registered_key s user (before ++ [e]) device_id = registered_key s user before device_id := by
  simp [registered_key, List.find?_append, h]

/-- An event registers its own device only, when it is not registered yet. -/
theorem registered_key_snoc (h : e.actor_user_id = user) :
    registered_key s user (before ++ [e]) device_id =
      (registered_key s user before device_id).or
        (if e.device_id = device_id then some e.device_public_key else none) := by
  unfold registered_key
  rw [List.find?_append, Option.or_assoc]
  congr 1
  by_cases hdevice : e.device_id = device_id
  · cases before.find? fun x => x.actor_user_id = user ∧ x.device_id = device_id <;>
      simp [h, hdevice]
  · simp [h, hdevice]

/-- An event whose device is registered already registers nothing. -/
theorem registered_key_snoc_of_some (huser : e.actor_user_id = user)
    (h : registered_key s user before e.device_id = some key) :
    registered_key s user (before ++ [e]) device_id = registered_key s user before device_id := by
  rw [registered_key_snoc huser]
  by_cases hdevice : e.device_id = device_id
  · rw [← hdevice, h, Option.some_or]
  · rw [if_neg hdevice, Option.or_none]

end prefixes

/-- The devices pending in the session once `before` has been processed. -/
structure Registered (batch : Batch F) (s : MobileStore F) (before : List (MobileEventIn F))
    (session : MobileSession F) : Prop where
  keys : ∀ device_id, (session.get_device s device_id).map (·.public_key_ed25519) =
    registered_key s batch.user before device_id
  rows : ∀ device ∈ session.devices, ∃ e ∈ accepted s batch.user before, device = batch.device_row e ∧
    s.mobile_devices.get e.device_id = none
  distinct : session.devices.Pairwise fun a b => a.id ≠ b.id

/-- What the loop has answered and added once `before` has been processed. -/
structure Ingested (batch : Batch F) (s : MobileStore F) (prev : Option String)
    (before : List (MobileEventIn F)) (st : IngestState F) : Prop where
  results : st.results = before.map (verdict s batch.user before)
  events : st.session.events = (accepted s batch.user before).map batch.event_row
  links : st.session.entries.map (·.link) =
    links chain_hash prev ((accepted s batch.user before).map (·.event_hash))
  resources : st.session.entries.map (·.resource_id) =
    (accepted s batch.user before).map fun e => some e.event_id.str
  ids : st.session.entries.map (·.id) = (List.range st.session.entries.length).map batch.entry_id
  head : st.prev_chain_hash = head chain_hash prev ((accepted s batch.user before).map (·.event_hash))
  registered : Registered batch s before st.session

variable {batch : Batch F} {s : MobileStore F} {prev : Option String} {before : List (MobileEventIn F)}
  {st : IngestState F} {e : MobileEventIn F}

theorem ingested_nil : Ingested batch s prev [] { prev_chain_hash := prev } where
  results := rfl
  events := rfl
  links := rfl
  resources := rfl
  ids := rfl
  head := rfl
  registered := by
    refine ⟨fun device_id => ?_, by simp, List.Pairwise.nil⟩
    simp [MobileSession.get_device, registered_key]

/-- An event that registers nothing leaves the pending devices as they are. -/
theorem Registered.same {session : MobileSession F} (h : Registered batch s before session)
    (hsame : ∀ device_id, registered_key s batch.user (before ++ [e]) device_id =
      registered_key s batch.user before device_id) : Registered batch s (before ++ [e]) session where
  keys device_id := (h.keys device_id).trans (hsame device_id).symm
  rows device hdevice := by
    obtain ⟨first, hfirst, hrow⟩ := h.rows device hdevice
    exact ⟨first, mem_accepted_append hfirst, hrow⟩
  distinct := h.distinct

/-- The first event of the user that names an unknown device registers it. -/
theorem Registered.add {session : MobileSession F} (h : Registered batch s before session)
    (huser : e.actor_user_id = batch.user) (hunknown : session.get_device s e.device_id = none) :
    Registered batch s (before ++ [e])
      { session with devices := session.devices ++ [batch.device_row e] } := by
  obtain ⟨hstored, hpending⟩ := Option.or_eq_none_iff.mp hunknown
  have hnone : registered_key s batch.user before e.device_id = none := by
    rw [← h.keys, hunknown]
    rfl
  have haccepts : Accepts s batch.user (before ++ [e]) e :=
    ⟨huser, by rw [registered_key_snoc huser, hnone, if_pos rfl, Option.none_or]⟩
  refine ⟨fun device_id => ?_, fun device hdevice => ?_, ?_⟩
  · rw [registered_key_snoc huser, ← h.keys]
    simp only [MobileSession.get_device, List.find?_append, List.find?_singleton, ← Option.or_assoc,
      Batch.device_row]
    generalize (s.mobile_devices.get device_id).or
      (session.devices.find? fun device => device.id = device_id) = found
    by_cases hdevice : e.device_id = device_id <;> cases found <;> simp [hdevice]
  · rcases List.mem_append.mp hdevice with hdevice | hdevice
    · obtain ⟨first, hfirst, hrow⟩ := h.rows device hdevice
      exact ⟨first, mem_accepted_append hfirst, hrow⟩
    · exact ⟨e, mem_accepted_iff.mpr ⟨by simp, haccepts⟩, List.mem_singleton.mp hdevice, hstored⟩
  · refine List.pairwise_append.mpr ⟨h.distinct, List.pairwise_singleton _ _, ?_⟩
    intro device hdevice added hadded
    rw [List.mem_singleton.mp hadded]
    simpa [Batch.device_row] using List.find?_eq_none.mp hpending device hdevice

/-- One chain entry for each event added. -/
theorem Ingested.length_entries (h : Ingested batch s prev before st) :
    st.session.entries.length = st.session.events.length := by
  have hlength := congrArg List.length h.resources
  rwa [List.length_map, List.length_map, ← List.length_map (f := batch.event_row), ← h.events] at hlength

/-- An event that is not accepted adds its answer and nothing else. -/
theorem Ingested.reject (h : Ingested batch s prev before st) (hrejected : ¬ Accepts s batch.user (before ++ [e]) e)
    {reason : String} (hreason : verdict s batch.user (before ++ [e]) e = e.rejected reason)
    (hregistered : Registered batch s (before ++ [e]) st.session) :
    Ingested batch s prev (before ++ [e]) (st.reject e reason) := by
  have hsame : accepted s batch.user (before ++ [e]) = accepted s batch.user before := by
    rw [accepted_append_singleton, if_neg hrejected, List.append_nil]
  refine ⟨?_, ?_, ?_, ?_, h.ids, ?_, hregistered⟩
  · rw [map_verdict_append_singleton, hreason, ← h.results]
    rfl
  · rw [hsame]
    exact h.events
  · rw [hsame]
    exact h.links
  · rw [hsame]
    exact h.resources
  · rw [hsame]
    exact h.head

/-- An accepted event adds its answer, its row and its chain entry. -/
theorem Ingested.receive (h : Ingested batch s prev before st) (haccepts : Accepts s batch.user (before ++ [e]) e)
    {devices : List MobileDeviceModel}
    (hregistered : Registered batch s (before ++ [e]) { st.session with devices }) :
    Ingested batch s prev (before ++ [e])
      (({ st with session := { st.session with devices } } : IngestState F).receive batch e) := by
  have hmore : accepted s batch.user (before ++ [e]) = accepted s batch.user before ++ [e] := by
    rw [accepted_append_singleton, if_pos haccepts]
  have hverdict : verdict s batch.user (before ++ [e]) e = e.received := if_pos haccepts
  refine ⟨?_, ?_, ?_, ?_, ?_, ?_, hregistered.keys, hregistered.rows, hregistered.distinct⟩
  · rw [map_verdict_append_singleton, hverdict, ← h.results]
    rfl
  · rw [hmore, List.map_append, ← h.events]
    rfl
  · rw [hmore, List.map_append, List.map_singleton, links_concat, ← h.links, ← h.head]
    simp [IngestState.receive, AuditChainEntryModel.link]
  · rw [hmore, List.map_append, ← h.resources]
    simp [IngestState.receive]
  · simp [IngestState.receive, List.range_succ, h.ids]
  · rw [hmore, List.map_append, List.map_singleton, head_concat, ← h.head]
    rfl

/-- One turn of the loop. -/
theorem Ingested.step (h : Ingested batch s prev before st) (e : MobileEventIn F) :
    Ingested batch s prev (before ++ [e]) (batch.ingest_event s st e) := by
  unfold Batch.ingest_event
  split
  · next huser =>
    have hrejected : ¬ Accepts s batch.user (before ++ [e]) e := fun haccepts => huser haccepts.1
    refine h.reject hrejected (by rw [verdict, if_neg hrejected, if_neg huser]) ?_
    exact h.registered.same fun device_id => registered_key_snoc_of_ne huser
  · next huser =>
    have huser : e.actor_user_id = batch.user := not_not.mp huser
    split
    · next hdevice =>
      have hnone : registered_key s batch.user before e.device_id = none := by
        rw [← h.registered.keys, hdevice]
        rfl
      refine h.receive ⟨huser, ?_⟩ (h.registered.add huser hdevice)
      rw [registered_key_snoc huser, hnone, if_pos rfl, Option.none_or]
    · next device hdevice =>
      have hkey : registered_key s batch.user before e.device_id = some device.public_key_ed25519 := by
        rw [← h.registered.keys, hdevice]
        rfl
      have hsame {device_id : UUID} : registered_key s batch.user (before ++ [e]) device_id =
          registered_key s batch.user before device_id := registered_key_snoc_of_some huser hkey
      have hregistered : Registered batch s (before ++ [e]) st.session := h.registered.same fun _ => hsame
      split
      · next hmismatch =>
        have hrejected : ¬ Accepts s batch.user (before ++ [e]) e := by
          rintro ⟨-, haccepts⟩
          rw [hsame, hkey] at haccepts
          exact hmismatch (Option.some.inj haccepts)
        exact h.reject hrejected (by rw [verdict, if_neg hrejected, if_pos huser]) hregistered
      · next hmatch =>
        refine h.receive ⟨huser, ?_⟩ hregistered
        rw [hsame, hkey, not_not.mp hmatch]

/-- The loop answers each event and adds the rows of the accepted ones. -/
theorem ingested (batch : Batch F) (s : MobileStore F) (prev : Option String) :
    Ingested batch s prev batch.events (batch.ingest_events s prev) := by
  have hloop (events : List (MobileEventIn F)) : Ingested batch s prev events
      (events.foldl (batch.ingest_event s) { prev_chain_hash := prev }) := by
    induction events using List.reverseRecOn with
    | nil => exact ingested_nil
    | append_singleton before e ih =>
      rw [List.foldl_append]
      exact ih.step e
  exact hloop batch.events

end sigis
