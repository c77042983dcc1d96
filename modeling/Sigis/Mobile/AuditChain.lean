import Mathlib.Data.Set.Insert
import Sigis.Mobile.Constraints

open hash_chain relational transition

namespace sigis

variable {F : Type}

/-- The texts hashed by a chain of these events, from its first entry on. -/
def chain_texts (event_hashes : List String) : List String :=
  (inputs chain_hash none event_hashes).map fun input => chain_text input.1 input.2

theorem length_chain_hash (prev : Option String) (event_hash : String) :
    (chain_hash prev event_hash).length = 64 := sha256.length_hexdigest _

/-- An event hash of 64 characters is read off the end of the text, colons or not, and
what is left tells whether an entry came before. -/
theorem chain_text_inj {p q : Option String} {g h : String} (hp : ∀ x ∈ p, x.length = 64)
    (hq : ∀ x ∈ q, x.length = 64) (hg : g.length = 64) (hh : h.length = 64)
    (heq : chain_text p g = chain_text q h) : p = q ∧ g = h := by
  have hlists : ((p.getD "").toList ++ [':']) ++ g.toList = ((q.getD "").toList ++ [':']) ++ h.toList := by
    simpa [chain_text] using congrArg String.toList heq
  have hlast : g.toList.length = h.toList.length := by
    rw [String.length_toList, String.length_toList, hg, hh]
  obtain ⟨hfirst, hsame⟩ := List.append_inj' hlists hlast
  refine ⟨?_, String.toList_inj.mp hsame⟩
  have hprev : p.getD "" = q.getD "" := String.toList_inj.mp (List.append_inj' hfirst rfl).1
  cases p with
  | none =>
    cases q with
    | none => rfl
    | some y =>
      have hlength := hq y rfl
      rw [← show "" = y from hprev] at hlength
      cases hlength
  | some x =>
    cases q with
    | none =>
      have hlength := hp x rfl
      rw [show x = "" from hprev] at hlength
      cases hlength
    | some y => exact congrArg some hprev

/-- Where the texts of chains do not collide neither do the hashes of their entries. -/
theorem injOn_chain_hash {event_hashes : List (List String)}
    (hlength : ∀ hashes ∈ event_hashes, ∀ h ∈ hashes, h.length = 64)
    (hinj : Set.InjOn sha256.hexdigest {text | ∃ hashes ∈ event_hashes, text ∈ chain_texts hashes}) :
    Set.InjOn (fun input => chain_hash input.1 input.2)
      {input | ∃ hashes ∈ event_hashes, input ∈ inputs chain_hash none hashes} := by
  have hprev {hashes : List String} {input : Option String × String}
      (hinput : input ∈ inputs chain_hash none hashes) : ∀ x ∈ input.1, x.length = 64 := by
    intro x hx
    have hmem : input.1 ∈ (inputs chain_hash none hashes).map Prod.fst ++ [head chain_hash none hashes] :=
      List.mem_append_left _ (List.mem_map_of_mem hinput)
    rcases prev_cases hmem with hnone | ⟨before, -, hsome⟩
    · rw [hnone] at hx
      cases hx
    · rw [hsome] at hx
      cases hx
      exact length_chain_hash _ _
  have hevent {hashes : List String} {input : Option String × String}
      (hinput : input ∈ inputs chain_hash none hashes) : input.2 ∈ hashes := by
    have hmem : input.2 ∈ (inputs chain_hash none hashes).map Prod.snd := List.mem_map_of_mem hinput
    rwa [map_snd_inputs] at hmem
  rintro a ⟨xs, hxs, ha⟩ b ⟨ys, hys, hb⟩ hhash
  have htext : chain_text a.1 a.2 = chain_text b.1 b.2 :=
    hinj ⟨xs, hxs, List.mem_map_of_mem ha⟩ ⟨ys, hys, List.mem_map_of_mem hb⟩ hhash
  obtain ⟨hfst, hsnd⟩ := chain_text_inj (hprev ha) (hprev hb) (hlength xs hxs _ (hevent ha))
    (hlength ys hys _ (hevent hb)) htext
  exact Prod.ext hfst hsnd

/-- Entries that chain these events end with the head of their chain. -/
theorem last_entry_hash_of_links {rows : List AuditChainEntryModel} {event_hashes : List String}
    (h : rows.map (·.link) = links chain_hash none event_hashes) :
    rows.getLast?.map (·.entry_hash) = head chain_hash none event_hashes := by
  rw [head_eq, ← h, List.getLast?_map, Option.map_map, Option.or_none]
  rfl

section evidence

variable {first second : Batch F} {s t : MobileStore F} {prev : Option String}

/-- The last entry of a chain started by the loop has the hash the loop ends with. -/
theorem last_entry_hash (batch : Batch F) (s : MobileStore F) :
    (batch.ingest_events s none).session.entries.getLast?.map (·.entry_hash) =
      head chain_hash none ((batch.ingest_events s none).session.events.map (·.event_hash)) := by
  have h := ingested batch s none
  have hevents : (batch.ingest_events s none).session.events.map (·.event_hash) =
      (accepted s batch.user batch.events).map (·.event_hash) := by
    rw [h.events, List.map_map]
    rfl
  rw [hevents, last_entry_hash_of_links h.links]

/-- Events the loop adds have hashes of 64 characters. -/
theorem length_event_hash (batch : Batch F) (s : MobileStore F) :
    ∀ h ∈ (batch.ingest_events s prev).session.events.map (·.event_hash), h.length = 64 := by
  rw [(ingested batch s prev).events, List.map_map]
  intro h hmem
  obtain ⟨e, -, rfl⟩ := List.mem_map.mp hmem
  exact e.event_hash_length

/-- The chain is tamper-evident: two chains whose texts do not collide and which end with
the same hash were made of the same events. -/
theorem chain_tamper_evident
    (hinj : Set.InjOn sha256.hexdigest {text |
      text ∈ chain_texts ((first.ingest_events s none).session.events.map (·.event_hash)) ∨
      text ∈ chain_texts ((second.ingest_events t none).session.events.map (·.event_hash))})
    (hlast : (first.ingest_events s none).session.entries.getLast?.map (·.entry_hash) =
      (second.ingest_events t none).session.entries.getLast?.map (·.entry_hash)) :
    (first.ingest_events s none).session.entries.length =
        (second.ingest_events t none).session.entries.length ∧
      (first.ingest_events s none).session.events.map (·.event_hash) =
        (second.ingest_events t none).session.events.map (·.event_hash) := by
  rw [last_entry_hash, last_entry_hash] at hlast
  have hlength : ∀ hashes ∈ [(first.ingest_events s none).session.events.map (·.event_hash),
      (second.ingest_events t none).session.events.map (·.event_hash)], ∀ h ∈ hashes, h.length = 64 := by
    intro hashes hmem
    rcases List.mem_pair.mp hmem with rfl | rfl
    · exact length_event_hash first s
    · exact length_event_hash second t
  have hchains := injOn_chain_hash hlength (by simpa using hinj)
  have hsame := eq_of_head_eq (by simpa using hchains) hlast
  refine ⟨?_, hsame⟩
  have hlength := congrArg List.length hsame
  rwa [List.length_map, List.length_map, ← (ingested first s none).length_entries,
    ← (ingested second t none).length_entries] at hlength

end evidence

namespace mobile_pilot

def agent : UUID := ⟨"2b1c6a0e-5d0f-4c55-9a57-3f1c2f0a7d11"⟩

def colleague : UUID := ⟨"c0a4d5be-8b0e-4a63-9a0c-1f6de0a4b7f2"⟩

def tablet : UUID := ⟨"7f3d9b52-0c8e-4a1b-8f5e-6f0f5b9e2c44"⟩

def phone : UUID := ⟨"e8b7c1f0-2f44-4e0b-b6a1-9d3a6c5e8f10"⟩

/-- An event told apart by one digit. -/
def event (user device : UUID) (digit : Char) : MobileEventIn Nat where
  event_id := ⟨String.ofList (List.replicate 32 digit)⟩
  type := "CHECK_IN"
  mission_id := ⟨"mission"⟩
  actor_user_id := user
  device_id := device
  device_public_key := "ed25519-public-key"
  client_request_id := String.ofList (List.replicate 8 digit)
  captured_at_client := datetime.utc 0
  event_hash := String.ofList (List.replicate 64 digit)
  signature_ed25519 := "ed25519-signature-of-the-event-hash"
  event_hash_length := by simp

/-- Entries are numbered after a mark of their batch. -/
def entry_id (mark : Char) (n : Nat) : UUID := ⟨String.ofList (mark :: List.replicate n '0')⟩

def batch (mark : Char) (user : UUID) (events : List (MobileEventIn Nat)) : Batch Nat where
  user := user
  events := events
  now := 0
  entry_id := entry_id mark

def pair : Batch Nat := batch 'a' agent [event agent tablet '0', event agent tablet '1']

/-- Events with the same hashes, of another user and device. -/
def mirror : Batch Nat := batch 'b' colleague [event colleague phone '0', event colleague phone '1']

def hashes : List String := [(event agent tablet '0').event_hash, (event agent tablet '1').event_hash]

/-- The two texts that `hashes` chains have different digests. -/
theorem injOn_hashes : Set.InjOn sha256.hexdigest {text | text ∈ chain_texts hashes} := by
  have hapart : (chain_texts hashes).Pairwise fun a b => sha256.hexdigest a ≠ sha256.hexdigest b := by
    decide +kernel
  intro a ha b hb heq
  by_contra hne
  have hsymm : Std.Symm fun a b => sha256.hexdigest a ≠ sha256.hexdigest b := ⟨fun _ _ h => h.symm⟩
  exact hapart.forall ha hb hne heq

theorem pair_hashes : (pair.ingest_events .empty none).session.events.map (·.event_hash) = hashes := by
  decide +kernel

theorem mirror_hashes : (mirror.ingest_events .empty none).session.events.map (·.event_hash) = hashes := by
  decide +kernel

end mobile_pilot

open mobile_pilot in
theorem pilot_chain_tamper_evident :
    (pair.ingest_events .empty none).session.entries.length =
        (mirror.ingest_events .empty none).session.entries.length ∧
      (pair.ingest_events .empty none).session.events.map (·.event_hash) =
        (mirror.ingest_events .empty none).session.events.map (·.event_hash) :=
  chain_tamper_evident (by simpa [pair_hashes, mirror_hashes] using injOn_hashes)
    (by rw [last_entry_hash, last_entry_hash, pair_hashes, mirror_hashes])

end sigis
