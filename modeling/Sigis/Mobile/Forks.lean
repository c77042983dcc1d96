import Sigis.Lib.Apart
import Sigis.Mobile.AuditChain

open hash_chain relational transactional transition

namespace sigis

/-- The entries form one linear chain: one of them starts it, every other one follows
another, and no two follow the same. -/
structure MobileStore.LinearChain {F : Type} (s : MobileStore F) : Prop where
  one_start : s.audit_chain_entries.rows ≠ [] →
    ∃! row, row ∈ s.audit_chain_entries.rows ∧ row.prev_hash = none
  follows : ∀ row ∈ s.audit_chain_entries.rows, row.prev_hash ≠ none →
    ∃ other ∈ s.audit_chain_entries.rows, other ≠ row ∧ row.prev_hash = some other.entry_hash
  apart : s.audit_chain_entries.rows.Pairwise fun a b => a.prev_hash ≠ b.prev_hash

/-- The entries are the chain of the stored events. -/
structure MobileStore.Chained {F : Type} (s : MobileStore F) : Prop where
  links : s.audit_chain_entries.rows.map (·.link) =
    links chain_hash none (s.mobile_events.rows.map (·.event_hash))
  lengths : ∀ row ∈ s.mobile_events.rows, row.event_hash.length = 64

section chain

variable {F : Type} {s t : MobileStore F} {batch : Batch F} {response : MobileBatchResponse}

theorem linear_chain_of_links (h : Linear (s.audit_chain_entries.rows.map (·.link))) : s.LinearChain := by
  have hprev (before after : List AuditChainEntryModel) (row : AuditChainEntryModel)
      (hsplit : s.audit_chain_entries.rows = before ++ row :: after) :
      row.prev_hash = before.getLast?.map (·.entry_hash) := by
    have hfollows := h.follows (before.map (·.link)) row.link (after.map (·.link)) (by simp [hsplit])
    rw [List.getLast?_map, Option.map_map] at hfollows
    exact hfollows
  have hapart := List.pairwise_map.mp h.apart
  refine ⟨?_, ?_, hapart⟩
  · intro hrows
    obtain ⟨first, rest, hsplit⟩ := List.exists_cons_of_ne_nil hrows
    have hfirst : first.prev_hash = none := hprev [] rest first hsplit
    refine ⟨first, ⟨by simp [hsplit], hfirst⟩, ?_⟩
    rintro row ⟨hrow, hnone⟩
    rw [hsplit] at hrow hapart
    rcases List.mem_cons.mp hrow with rfl | hrow
    · rfl
    · exact absurd (hfirst.trans hnone.symm) ((List.pairwise_cons.mp hapart).1 row hrow)
  · intro row hrow hne
    obtain ⟨before, after, hsplit⟩ := List.append_of_mem hrow
    rw [hprev before after row hsplit] at hne ⊢
    cases hlast : before.getLast? with
    | none => simp [hlast] at hne
    | some other =>
      have hmem : other ∈ before := List.mem_of_getLast? hlast
      refine ⟨other, by simp [hsplit, hmem], ?_, rfl⟩
      rintro rfl
      have hdistinct := s.audit_chain_entries.distinct
      rw [hsplit, List.pairwise_append] at hdistinct
      exact hdistinct.2.2 other hmem other List.mem_cons_self (clash_of_key rfl)

/-- Without a collision among the texts it hashes, the chain of the stored events is
linear. -/
theorem MobileStore.Chained.linear (h : s.Chained)
    (hinj : Set.InjOn sha256.hexdigest {text |
      text ∈ chain_texts (s.mobile_events.rows.map (·.event_hash))}) : s.LinearChain := by
  have hlengths : ∀ hashes ∈ [s.mobile_events.rows.map (·.event_hash)], ∀ x ∈ hashes, x.length = 64 := by
    simpa using h.lengths
  have hchains := injOn_chain_hash hlengths (by simpa using hinj)
  refine linear_chain_of_links ?_
  rw [h.links]
  exact linear_links (by simpa using hchains)

theorem MobileStore.Chained.last_hash_eq (h : s.Chained) :
    s.last_hash = head chain_hash none (s.mobile_events.rows.map (·.event_hash)) :=
  last_entry_hash_of_links h.links

/-- A batch that returns extends the chain with the events it stores. -/
theorem MobileStore.Chained.exec (h : s.Chained) (hexec : batch.exec s = (.ok response, t)) : t.Chained where
  links := by
    rw [Batch.links_of_exec hexec, Batch.events_of_exec hexec, h.links, h.last_hash_eq, List.map_append,
      links_append, List.map_map]
    rfl
  lengths := by
    rw [Batch.events_of_exec hexec]
    intro row hrow
    rcases List.mem_append.mp hrow with hrow | hrow
    · exact h.lengths row hrow
    · obtain ⟨e, -, rfl⟩ := List.mem_map.mp hrow
      exact e.event_hash_length

/-- The first entry of a batch follows the last one its batch found. -/
theorem prev_hash_of_head? {entry : AuditChainEntryModel}
    (h : entry ∈ (batch.ingest_events s s.last_hash).session.entries.head?) : entry.prev_hash = s.last_hash := by
  obtain ⟨rest, hentries⟩ := List.head?_eq_some_iff.mp h
  have hlinks := (ingested batch s s.last_hash).links
  rw [hentries, List.map_cons] at hlinks
  cases hhashes : (accepted s batch.user batch.events).map (·.event_hash) with
  | nil =>
    rw [hhashes] at hlinks
    cases hlinks
  | cons first more =>
    rw [hhashes] at hlinks
    exact congrArg Link.prev_hash (List.cons.inj hlinks).1

end chain

section interleaving

variable {F ι : Type} {request : ι → Batch F} {s₀ : MobileStore F} {labels : List (Event ι)}
  {c : Config (MobileStore F) ι MobileBatchResponse (MobileSession F) Error}

/-- A batch without chain entries to append has nothing to write. -/
theorem idles_without_entries : Idles mobile_database request fun session => session.entries ≠ [] where
  unchanged := by
    intro i s response session u v hprepare hidle hcommit
    obtain ⟨-, -, rfl⟩ := ingest_events_batch_eq_ok_iff.mp hprepare
    have h := ingested (request i) s s.last_hash
    have hevents : ((request i).ingest_events s s.last_hash).session.events = [] := by
      rw [← List.length_eq_zero_iff, ← h.length_entries, not_not.mp hidle]
      rfl
    have haccepted : accepted s (request i).user (request i).events = [] := by
      rwa [h.events, List.map_eq_nil_iff] at hevents
    have hdevices : ((request i).ingest_events s s.last_hash).session.devices = [] := by
      rw [List.eq_nil_iff_forall_not_mem]
      intro device hdevice
      obtain ⟨e, he, -⟩ := h.registered.rows device hdevice
      rw [haccepted] at he
      cases he
    have hadded := (MobileStore.commit_eq_some_iff.mp hcommit).2
    exact MobileStore.ext (by simp [hadded.devices, hdevices]) (by simp [hadded.events, hevents])
      (by simp [hadded.entries, not_not.mp hidle])

/-- Some entry already follows the one the first entry of the session follows. -/
def MobileSession.Forestalled (session : MobileSession F) (s : MobileStore F) : Prop :=
  ∃ row ∈ s.audit_chain_entries.rows, ∃ entry ∈ session.entries.head?, row.prev_hash = entry.prev_hash

/-- Batches contend for the end of the chain. -/
theorem contested_end : Contested mobile_database request (fun session => session.entries ≠ [])
    MobileSession.Forestalled
    (fun s => ¬ s.audit_chain_entries.rows.Pairwise fun a b => a.prev_hash ≠ b.prev_hash) where
  toIdles := idles_without_entries
  first := by
    intro i j s u response response' v w hv hw hv_counts hw_counts hcommit
    obtain ⟨-, -, rfl⟩ := ingest_events_batch_eq_ok_iff.mp hv
    obtain ⟨-, -, rfl⟩ := ingest_events_batch_eq_ok_iff.mp hw
    have hadded := (MobileStore.commit_eq_some_iff.mp hcommit).2
    have hfirst := prev_hash_of_head? (List.head_mem_head? hv_counts)
    have hother := prev_hash_of_head? (List.head_mem_head? hw_counts)
    refine ⟨(List.head _ hv_counts).stored, ?_, List.head _ hw_counts, List.head_mem_head? hw_counts,
      hfirst.trans hother.symm⟩
    rw [hadded.entries]
    exact List.mem_append_right _ (List.mem_map_of_mem (List.head_mem hv_counts))
  second := by
    rintro s u w ⟨row, hrow, entry, hentry, hprev⟩ - hcommit hpairwise
    have hadded := (MobileStore.commit_eq_some_iff.mp hcommit).2
    rw [hadded.entries, List.pairwise_append] at hpairwise
    have hmem : entry.stored ∈ w.entries.map AuditChainEntryModel.stored :=
      List.mem_map_of_mem (List.mem_of_mem_head? hentry)
    exact hpairwise.2.2 row hrow entry.stored hmem hprev
  taken_stays := by
    rintro s u v w ⟨row, hrow, hentry⟩ hcommit
    have hadded := (MobileStore.commit_eq_some_iff.mp hcommit).2
    exact ⟨row, by rw [hadded.entries]; exact List.mem_append_left _ hrow, hentry⟩
  spoiled_stays := by
    intro s u v hspoiled hcommit hpairwise
    have hadded := (MobileStore.commit_eq_some_iff.mp hcommit).2
    rw [hadded.entries] at hpairwise
    exact hspoiled (List.pairwise_append.mp hpairwise).1

variable [DecidableEq ι]

/-- However the steps of any batches interleave, as long as the texts the chain hashes do
not collide it is linear exactly when no two of the batches that appended entries overlap. -/
theorem chain_linear_iff_apart (hchained : s₀.Chained)
    (hrun : Execution (Step mobile_database request) (Config.start s₀) labels c)
    (hinj : Set.InjOn sha256.hexdigest {text |
      text ∈ chain_texts (c.store.mobile_events.rows.map (·.event_hash))}) :
    c.store.LinearChain ↔
      Apart mobile_database request (fun session => session.entries ≠ []) s₀ labels c := by
  constructor
  · intro hlinear i j hne hi hj hoverlap
    exact contested_end.spoiled_of_overlap hne hoverlap hi hj hlinear.apart
  · intro hapart
    obtain ⟨order, -, -, hserved⟩ := exists_order_of_apart idles_without_entries hrun hapart
    have hchained : c.store.Chained := by
      refine hserved.invariant MobileStore.Chained ?_ hchained
      rintro s i t hs ⟨response, hexec⟩
      exact hs.exec hexec
    exact hchained.linear hinj

end interleaving

namespace mobile_pilot

/-- Two batches of one event each, from two devices. -/
def rivals : Bool → Batch Nat
  | false => batch 'a' agent [event agent tablet '0']
  | true => batch 'b' colleague [event colleague phone '1']

/-- What each rival computes from the empty tables. -/
def session (i : Bool) : MobileSession Nat := ((rivals i).ingest_events .empty none).session

def answer (i : Bool) : MobileBatchResponse :=
  ⟨.isoformat (datetime.utc 0), ((rivals i).ingest_events .empty none).results⟩

theorem prepare_rivals (i : Bool) :
    mobile_database.prepare (rivals i) .empty = .ok (answer i, session i) := by
  refine ingest_events_batch_eq_ok_iff.mpr ⟨by decide, ?_, rfl⟩
  cases i <;> rfl

theorem fits_rivals (i : Bool) : (session i).Fits .empty := by
  cases i <;> exact ⟨⟨by decide +kernel, by decide +kernel⟩, ⟨by decide +kernel, by decide +kernel⟩,
    ⟨by decide +kernel, by decide +kernel⟩⟩

/-- The second rival still fits once the first has committed. -/
theorem fits_after {t : MobileStore Nat} (h : (session false).Added .empty t) : (session true).Fits t := by
  obtain ⟨hdevices, hevents, hentries⟩ := h
  refine ⟨⟨?_, by decide +kernel⟩, ⟨?_, by decide +kernel⟩, ⟨?_, by decide +kernel⟩⟩
  · rw [hdevices]
    decide +kernel
  · rw [hevents]
    decide +kernel
  · rw [hentries]
    decide +kernel

end mobile_pilot

open mobile_pilot in
/-- Two batches that read the empty chain before either commits both start it. -/
theorem chain_forks : ∃ labels c, Execution (Step mobile_database rivals) (Config.start .empty) labels c ∧
    ¬ c.store.LinearChain := by
  obtain ⟨t, ht⟩ := (fits_rivals false).exists_commit
  have hfirst := (MobileStore.commit_eq_some_iff.mp ht).2
  obtain ⟨u, hu⟩ := (fits_after hfirst).exists_commit
  have hsecond := (MobileStore.commit_eq_some_iff.mp hu).2
  have hforked : ¬ u.LinearChain := by
    intro hlinear
    have hapart := hlinear.apart
    rw [hsecond.entries, hfirst.entries] at hapart
    revert hapart
    decide +kernel
  exact ⟨[.read false, .read true, .commit false, .commit true], _,
    .cons (.read_ok rfl (prepare_rivals false)) (.cons (.read_ok rfl (prepare_rivals true))
      (.cons (.commit rfl ht) (.single (.commit rfl hu)))), hforked⟩

open mobile_pilot in
/-- One of the rivals has committed, the other has not read yet. -/
theorem pilot_chain_linear : ∃ c, Execution (Step mobile_database rivals) (Config.start .empty)
    [.read false, .commit false] c ∧ c.store.audit_chain_entries.rows ≠ [] ∧ c.store.LinearChain := by
  obtain ⟨t, ht⟩ := (fits_rivals false).exists_commit
  have hadded := (MobileStore.commit_eq_some_iff.mp ht).2
  refine ⟨_, .cons (.read_ok rfl (prepare_rivals false)) (.single (.commit rfl ht)), ?_, ?_⟩
  · show t.audit_chain_entries.rows ≠ []
    rw [hadded.entries]
    decide +kernel
  · have hchained : (MobileStore.empty (F := Nat)).Chained := ⟨rfl, by simp [MobileStore.empty]⟩
    refine (chain_linear_iff_apart hchained
      (.cons (.read_ok rfl (prepare_rivals false)) (.single (.commit rfl ht))) ?_).mpr ?_
    · show Set.InjOn sha256.hexdigest {text | text ∈ chain_texts (t.mobile_events.rows.map (·.event_hash))}
      have htexts : chain_texts (t.mobile_events.rows.map (·.event_hash)) =
          [chain_text none (event agent tablet '0').event_hash] := by
        rw [hadded.events]
        decide +kernel
      rw [htexts]
      intro a ha b hb _
      rw [List.mem_singleton.mp ha, List.mem_singleton.mp hb]
    · intro i j hne hi hj
      -- The other rival is still waiting.
      cases i with
      | true =>
        obtain ⟨_, _, hanswered, -⟩ := hi
        simp [Config.start] at hanswered
      | false =>
        cases j with
        | false => exact absurd rfl hne
        | true =>
          obtain ⟨_, _, hanswered, -⟩ := hj
          simp [Config.start] at hanswered

end sigis
