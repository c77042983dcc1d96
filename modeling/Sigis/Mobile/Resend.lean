import Sigis.Mobile.Blocking

open relational transition

namespace sigis

variable {F : Type}

/-- The batch returns one result for each event, in order, and stores each event it
reports received exactly once. -/
def Batch.ItemByItem (batch : Batch F) (s : MobileStore F) : Prop :=
  ∃ response t, batch.exec s = (.ok response, t) ∧
    response.results.map (·.event_id) = batch.events.map (·.event_id) ∧
    ∀ e result, (e, result) ∈ batch.events.zip response.results → result.status = .RECEIVED →
      ∃ row, (t.mobile_events.rows.filter fun r => r.id = e.event_id) = [row] ∧ row.raw_json = e

section results

variable {batch : Batch F} {s t : MobileStore F} {response : MobileBatchResponse} {e : MobileEventIn F}
  {result : MobileEventResult} {before : List (MobileEventIn F)}

theorem event_id_verdict (e : MobileEventIn F) : (verdict s batch.user before e).event_id = e.event_id := by
  unfold verdict
  split <;> rfl

theorem verdict_received_iff {user : UUID} :
    (verdict s user before e).status = .RECEIVED ↔ Accepts s user before e := by
  unfold verdict
  split
  · next h => simp [MobileEventIn.received, h]
  · next h => simp [MobileEventIn.rejected, h]

/-- Each event with the answer it gets. -/
theorem Batch.zip_results (h : batch.exec s = (.ok response, t)) : batch.events.zip response.results =
    batch.events.map fun e => (e, verdict s batch.user batch.events e) := by
  rw [Batch.results_of_exec h, ← List.zip_map', List.map_id']

/-- A batch goes item by item exactly when the chain has at most one entry and the events
it accepts break no constraint. -/
theorem item_by_item_iff (hfresh : batch.Fresh s) :
    batch.ItemByItem s ↔ s.audit_chain_entries.rows.length ≤ 1 ∧ batch.Compatible s := by
  rw [← Batch.exists_exec_iff hfresh]
  constructor
  · rintro ⟨response, t, hexec, -⟩
    exact ⟨response, t, hexec⟩
  · rintro ⟨response, t, hexec⟩
    refine ⟨response, t, hexec, ?_, ?_⟩
    · rw [Batch.results_of_exec hexec, List.map_map]
      exact List.map_congr_left fun e _ => event_id_verdict e
    · intro e result hmem hstatus
      rw [Batch.zip_results hexec, List.mem_map] at hmem
      obtain ⟨e, he, hpair⟩ := hmem
      cases hpair
      have haccepted : e ∈ accepted s batch.user batch.events :=
        mem_accepted_iff.mpr ⟨he, verdict_received_iff.mp hstatus⟩
      have hrow : (batch.event_row e).stored ∈ t.mobile_events.rows := by
        rw [Batch.events_of_exec hexec]
        exact List.mem_append_right _ (List.mem_map.mpr ⟨e, haccepted, rfl⟩)
      exact ⟨_, t.mobile_events.filter_key hrow, rfl⟩

end results

namespace mobile_pilot

def first : Batch Nat := batch 'a' agent [event agent tablet '0']

/-- The first batch sent again, with one more event. -/
def resend : Batch Nat := batch 'b' agent [event agent tablet '0', event agent tablet '1']

theorem first_well_formed : first.WellFormed .empty where
  fresh := fresh_batch (by simp [MobileStore.empty])
  compatible := by
    refine ⟨by simp [MobileStore.empty], by decide +kernel, by simp [MobileStore.empty], by decide +kernel⟩
  accepts := by decide +kernel

/-- The tables once the first batch has been committed. -/
structure AfterFirst (response : MobileBatchResponse) (s : MobileStore Nat) : Prop where
  exec : first.exec .empty = (.ok response, s)
  devices : s.mobile_devices.rows = [(first.device_row (event agent tablet '0')).stored]
  events : s.mobile_events.rows = [(first.event_row (event agent tablet '0')).stored]
  length : s.audit_chain_entries.rows.length = 1
  ids : ∀ row ∈ s.audit_chain_entries.rows, ∃ mark n, row.id = entry_id mark n ∧ mark ≠ 'b'

theorem exists_after_first : ∃ response s, AfterFirst response s := by
  obtain ⟨response, s, hexec, hlinks⟩ := first_well_formed.continues_iff.mpr (by decide)
  refine ⟨response, s, hexec, ?_, ?_, ?_, ?_⟩
  · obtain ⟨-, -, -, hadded⟩ := Batch.exec_eq_ok_iff.mp hexec
    rw [hadded.devices]
    decide +kernel
  · rw [Batch.events_of_exec hexec, first_well_formed.accepted_eq]
    rfl
  · have hcount := congrArg List.length hlinks
    rw [List.length_map] at hcount
    rw [hcount]
    decide
  · intro row hrow
    rcases Batch.exists_entry_id hexec hrow with hrow | ⟨n, hid⟩
    · cases hrow
    · exact ⟨'a', n, hid, by decide⟩

theorem AfterFirst.get_tablet {response : MobileBatchResponse} {s : MobileStore Nat}
    (h : AfterFirst response s) :
    s.mobile_devices.get tablet = some (first.device_row (event agent tablet '0')).stored := by
  rw [Table.get, h.devices]
  decide +kernel

end mobile_pilot

open mobile_pilot in
/-- A batch whose answer was lost is sent again with one more event: it raises, and the new
event is not stored. -/
theorem resend_refused : ∃ response s, first.exec .empty = (.ok response, s) ∧ resend.Fresh s ∧
    resend.exec s = (.error .IntegrityError, s) ∧
    s.mobile_events.get (event agent tablet '1').event_id = none := by
  obtain ⟨response, s, h⟩ := exists_after_first
  have hfresh : resend.Fresh s := fresh_batch h.ids
  have haccepts : Accepts s agent resend.events (event agent tablet '0') :=
    ⟨rfl, registered_key_of_get h.get_tablet⟩
  refine ⟨response, s, h.exec, hfresh, Batch.exec_of_incompatible hfresh h.length.le ?_, ?_⟩
  · intro hcompatible
    have hstored : (first.event_row (event agent tablet '0')).stored ∈ s.mobile_events.rows := by
      rw [h.events]
      exact List.mem_singleton.mpr rfl
    exact hcompatible.events_stored _ hstored _ (mem_accepted_iff.mpr ⟨List.mem_cons_self, haccepts⟩)
      (clash_of_key rfl)
  · rw [Table.get_eq_none_iff, h.events]
    decide +kernel

open mobile_pilot in
theorem pilot_item_by_item : first.ItemByItem .empty :=
  (item_by_item_iff first_well_formed.fresh).mpr ⟨by decide, first_well_formed.compatible⟩

end sigis
