import Sigis.Mobile.AuditChain

open guarded hash_chain relational transactional transition

namespace sigis

variable {F : Type}

/-- Fresh events of the sender, each with the key of its device. -/
structure Batch.WellFormed (batch : Batch F) (s : MobileStore F) : Prop where
  fresh : batch.Fresh s
  compatible : batch.Compatible s
  accepts : ∀ e ∈ batch.events, Accepts s batch.user batch.events e

/-- The batch returns, with its events chained to the last entry. -/
def Batch.Continues (batch : Batch F) (s : MobileStore F) : Prop :=
  ∃ response t, batch.exec s = (.ok response, t) ∧
    t.audit_chain_entries.rows.map (·.link) = s.audit_chain_entries.rows.map (·.link) ++
      links chain_hash s.last_hash (batch.events.map (·.event_hash))

section runs

variable {batch : Batch F} {init s t u : MobileStore F} {actions : List (MobileAction F)}

theorem Batch.WellFormed.accepted_eq (h : batch.WellFormed s) :
    accepted s batch.user batch.events = batch.events := by
  rw [accepted, List.filter_eq_self]
  intro e he
  exact decide_eq_true (h.accepts e he)

/-- One new event of a registered device, with its key, is a well-formed batch. -/
theorem Batch.well_formed_of_known {e : MobileEventIn F} {device : MobileDeviceModel} (hfresh : batch.Fresh s)
    (hevents : batch.events = [e]) (huser : e.actor_user_id = batch.user)
    (hdevice : s.mobile_devices.get e.device_id = some device)
    (hkey : device.public_key_ed25519 = e.device_public_key)
    (hnew : ∀ row ∈ s.mobile_events.rows, ¬ clash row (batch.event_row e)) : batch.WellFormed s := by
  have haccepts : Accepts s batch.user batch.events e :=
    ⟨huser, (registered_key_of_get hdevice).trans (congrArg some hkey)⟩
  have haccepted : accepted s batch.user batch.events = [e] := by
    rw [accepted, hevents, List.filter_singleton, decide_eq_true (hevents ▸ haccepts)]
    rfl
  refine ⟨hfresh, ⟨?_, ?_, ?_, ?_⟩, ?_⟩
  · rw [haccepted]
    simpa using hnew
  · rw [haccepted]
    exact List.pairwise_singleton _ _
  · simp [haccepted, hdevice]
  · simp [haccepted]
  · simpa [hevents] using haccepts

theorem Batch.WellFormed.continues_iff (h : batch.WellFormed s) :
    batch.Continues s ↔ s.audit_chain_entries.rows.length ≤ 1 := by
  constructor
  · rintro ⟨response, t, hexec, -⟩
    exact (Batch.exec_eq_ok_iff.mp hexec).1
  · intro hlength
    obtain ⟨response, t, hexec⟩ := (Batch.exists_exec_iff h.fresh).mpr ⟨hlength, h.compatible⟩
    refine ⟨response, t, hexec, ?_⟩
    rw [Batch.links_of_exec hexec, h.accepted_eq]

/-- The events an action sends. -/
def MobileAction.events : MobileAction F → List (MobileEventIn F)
  | .send batch => batch.events
  | .revoke _ _ => []

/-- A batch that continues the chain adds one entry for each of its events. -/
theorem length_of_continues (h : batch.Continues s) : (batch.exec s).2.audit_chain_entries.rows.length =
    s.audit_chain_entries.rows.length + batch.events.length := by
  obtain ⟨response, t, hexec, hlinks⟩ := h
  have hlength := congrArg List.length hlinks
  rw [List.length_append, List.length_map, List.length_map, length_links, List.length_map] at hlength
  rw [hexec, hlength]

/-- Along a run whose batches continue the chain, it has an entry for each event sent. -/
theorem length_of_run (hrun : MobileRun init actions s)
    (hcontinues : ∀ before batch after t, actions = before ++ .send batch :: after →
      MobileRun init before t → t.audit_chain_entries.rows.length =
        init.audit_chain_entries.rows.length + (before.flatMap (·.events)).length → batch.Continues t) :
    s.audit_chain_entries.rows.length =
      init.audit_chain_entries.rows.length + (actions.flatMap (·.events)).length := by
  induction hrun with
  | refl => simp
  | @snoc earlier t action u hrun hstep ih =>
    have ht := ih fun before batch after x hsplit hx hlength =>
      hcontinues before batch (after ++ [action]) x (by rw [hsplit]; simp) hx hlength
    rw [List.flatMap_append, List.length_append, ← Nat.add_assoc, ← ht]
    cases hstep with
    | @send batch => exact (length_of_continues (hcontinues _ _ _ _ rfl hrun ht)).trans (by simp [MobileAction.events])
    | revoke => simp [MobileAction.events]

/-- The head of the chain is read exactly while the chain has at most one entry; the
well-formed batches of a run return and continue the chain exactly when, before each of
them, the entries there were and the events sent since make at most one. -/
theorem chain_continues_iff (hrun : MobileRun init actions s)
    (hformed : ∀ before batch after t, actions = before ++ .send batch :: after →
      MobileRun init before t → batch.WellFormed t) :
    (∀ t : MobileStore F, AuditChainRepositoryImpl.get_last_hash t = .ok t.last_hash ↔
        t.audit_chain_entries.rows.length ≤ 1) ∧
      ((∀ before batch after t, actions = before ++ .send batch :: after →
          MobileRun init before t → batch.Continues t) ↔
        ∀ before batch after, actions = before ++ .send batch :: after →
          init.audit_chain_entries.rows.length + (before.flatMap (·.events)).length ≤ 1) := by
  refine ⟨fun t => by simp [get_last_hash_eq_ok_iff], ?_, ?_⟩
  · intro hcontinues before batch after hsplit
    obtain ⟨t, u, ht, -⟩ := (hsplit ▸ hrun).exists_split
    have hlength := length_of_run ht fun first batch' rest x hfirst hx _ =>
      hcontinues first batch' (rest ++ .send batch :: after) x (by rw [hsplit, hfirst]; simp) hx
    rw [← hlength]
    exact (hformed _ _ _ _ hsplit ht).continues_iff.mp (hcontinues _ _ _ _ hsplit ht)
  · intro hshort before batch after t hsplit ht
    have hlength := length_of_run ht fun first batch' rest x hfirst hx hx_length => by
      have hsplit' : actions = first ++ .send batch' :: (rest ++ .send batch :: after) := by
        rw [hsplit, hfirst]
        simp
      exact (hformed _ _ _ _ hsplit' hx).continues_iff.mpr (hx_length ▸ hshort _ _ _ hsplit')
    exact (hformed _ _ _ _ hsplit ht).continues_iff.mpr (hlength ▸ hshort _ _ _ hsplit)

end runs

namespace mobile_pilot

/-- One more event of the same device. -/
def next : Batch Nat := batch 'b' agent [event agent tablet '2']

theorem entry_id_inj {mark mark' : Char} {n m : Nat} :
    entry_id mark n = entry_id mark' m ↔ mark = mark' ∧ n = m := by
  simp [entry_id, String.ofList_inj, List.replicate_inj]

/-- A mark that no entry carries yet makes the identifiers of a batch new. -/
theorem fresh_batch {mark : Char} {user : UUID} {events : List (MobileEventIn Nat)} {s : MobileStore Nat}
    (hunused : ∀ row ∈ s.audit_chain_entries.rows, ∃ mark' n, row.id = entry_id mark' n ∧ mark' ≠ mark) :
    (batch mark user events).Fresh s where
  injective n m h := (entry_id_inj.mp h).2
  unused row hrow n heq := by
    obtain ⟨mark', m, hid, hne⟩ := hunused row hrow
    exact hne (entry_id_inj.mp (hid.symm.trans heq)).1

theorem pair_well_formed : pair.WellFormed .empty where
  fresh := fresh_batch (by simp [MobileStore.empty])
  compatible := by
    refine ⟨by simp [MobileStore.empty], by decide +kernel, by simp [MobileStore.empty], by decide +kernel⟩
  accepts := by decide +kernel

theorem next_well_formed {response : MobileBatchResponse} {s : MobileStore Nat}
    (h : pair.exec .empty = (.ok response, s)) : next.WellFormed s := by
  have hregistered : registered_key .empty pair.user pair.events tablet = some "ed25519-public-key" := by
    decide +kernel
  obtain ⟨device, hdevice, hkey⟩ := Batch.exists_device h hregistered
  refine Batch.well_formed_of_known (fresh_batch ?_) rfl rfl hdevice hkey ?_
  · intro row hrow
    rcases Batch.exists_entry_id h hrow with hrow | ⟨n, hid⟩
    · cases hrow
    · exact ⟨'a', n, hid, by decide⟩
  · rw [Batch.events_of_exec h]
    decide +kernel

end mobile_pilot

open mobile_pilot in
/-- After a batch of two events the chain has two entries, and the next batch, one fresh
event of the same device, raises. -/
theorem chain_of_two_blocks : ∃ response s, pair.exec .empty = (.ok response, s) ∧ next.WellFormed s ∧
    AuditChainRepositoryImpl.get_last_hash s = .error .MultipleResultsFound ∧
    next.exec s = (.error .MultipleResultsFound, s) := by
  obtain ⟨response, s, hexec, hlinks⟩ := pair_well_formed.continues_iff.mpr (by decide)
  have hlength : 1 < s.audit_chain_entries.rows.length := by
    have hcount := congrArg List.length hlinks
    rw [List.length_map] at hcount
    rw [hcount]
    decide
  exact ⟨response, s, hexec, next_well_formed hexec, get_last_hash_eq_error_iff.mpr ⟨hlength, rfl⟩,
    next.exec_of_long_chain hlength⟩

open mobile_pilot in
/-- A first batch continues the chain. -/
theorem pilot_chain_continues : pair.Continues .empty := by
  have hrun : MobileRun .empty [.send pair] (pair.exec .empty).2 := .single .send
  have hfirst {before after : List (MobileAction Nat)} {sent : Batch Nat}
      (h : [.send pair] = before ++ .send sent :: after) : before = [] ∧ sent = pair := by
    cases before with
    | nil => exact ⟨rfl, by simpa using (List.cons.inj h).1.symm⟩
    | cons action before => simp at h
  refine (chain_continues_iff hrun ?_).2.mpr ?_ [] pair [] .empty rfl .refl
  · intro before sent after t hsplit ht
    obtain ⟨rfl, rfl⟩ := hfirst hsplit
    rw [ht.eq_of_nil]
    exact pair_well_formed
  · intro before sent after hsplit
    obtain ⟨rfl, rfl⟩ := hfirst hsplit
    decide

end sigis
