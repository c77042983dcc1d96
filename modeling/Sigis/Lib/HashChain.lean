import Mathlib.Data.List.Induction
import Mathlib.Data.List.Nodup
import Mathlib.Data.Set.Function

namespace hash_chain

/-- An entry of a chain: the hash of the entry before it, when there is one, and its own. -/
structure Link (δ : Type) where
  prev_hash : Option δ
  entry_hash : δ

variable {δ α : Type} (hash : Option δ → α → δ)

/-- What the chain of `events` hashes when it continues from `prev`: each event with the
hash before it. -/
def inputs (prev : Option δ) : List α → List (Option δ × α)
  | [] => []
  | event :: rest => (prev, event) :: inputs (some (hash prev event)) rest

/-- The links of a chain that goes on from a hash. -/
def links (prev : Option δ) (events : List α) : List (Link δ) :=
  (inputs hash prev events).map fun input => ⟨input.1, hash input.1 input.2⟩

/-- The hash of the last entry, or `prev` when there is none. -/
def head (prev : Option δ) (events : List α) : Option δ :=
  events.foldl (fun prev event => some (hash prev event)) prev

variable {hash} {prev : Option δ} {event : α} {events more : List α}

@[simp] theorem inputs_nil : inputs hash prev [] = [] := rfl

@[simp] theorem links_nil : links hash prev [] = [] := rfl

@[simp] theorem head_nil : head hash prev [] = prev := rfl

/-- What is hashed for more events goes on from the head of the first ones. -/
theorem inputs_append :
    inputs hash prev (events ++ more) = inputs hash prev events ++ inputs hash (head hash prev events) more := by
  induction events generalizing prev with
  | nil => rfl
  | cons event events ih =>
    rw [List.cons_append, inputs, ih]
    rfl

/-- A chain continues from the hash of its last entry. -/
theorem links_append :
    links hash prev (events ++ more) = links hash prev events ++ links hash (head hash prev events) more := by
  rw [links, inputs_append, List.map_append]
  rfl

@[simp] theorem inputs_concat :
    inputs hash prev (events ++ [event]) = inputs hash prev events ++ [(head hash prev events, event)] :=
  inputs_append

@[simp] theorem links_concat :
    links hash prev (events ++ [event]) =
      links hash prev events ++ [⟨head hash prev events, hash (head hash prev events) event⟩] := links_append

@[simp] theorem head_concat :
    head hash prev (events ++ [event]) = some (hash (head hash prev events) event) := by
  simp [head]

/-- One link for each event. -/
theorem length_links : (links hash prev events).length = events.length := by
  induction events using List.reverseRecOn with
  | nil => rfl
  | append_singleton events event ih => simp [ih]

/-- The head is the hash of the entry appended last. -/
theorem head_eq : head hash prev events = ((links hash prev events).getLast?.map Link.entry_hash).or prev := by
  induction events using List.reverseRecOn with
  | nil => simp
  | append_singleton events event ih => simp

/-- The hashed events are the events, in their order. -/
@[simp] theorem map_snd_inputs : (inputs hash prev events).map Prod.snd = events := by
  induction events generalizing prev with
  | nil => rfl
  | cons event events ih => rw [inputs, List.map_cons, ih]

/-- What is hashed stays hashed when events are appended. -/
theorem mem_inputs_append {input : Option δ × α} (h : input ∈ inputs hash prev events) :
    input ∈ inputs hash prev (events ++ more) := by
  rw [inputs_append]
  exact List.mem_append_left _ h

section evidence

variable {xs ys : List α}

/-- Chains whose inputs do not collide and whose heads agree are chains of the same
events. -/
theorem eq_of_head_eq
    (hinj : Set.InjOn (fun input => hash input.1 input.2)
      {input | input ∈ inputs hash none xs ∨ input ∈ inputs hash none ys})
    (hhead : head hash none xs = head hash none ys) : xs = ys := by
  induction xs using List.reverseRecOn generalizing ys with
  | nil =>
    rcases ys.eq_nil_or_concat with rfl | ⟨ys, y, rfl⟩
    · rfl
    · rw [List.concat_eq_append, head_concat] at hhead
      cases hhead
  | append_singleton xs x ih =>
    rcases ys.eq_nil_or_concat with rfl | ⟨ys, y, rfl⟩
    · rw [head_concat] at hhead
      cases hhead
    · rw [List.concat_eq_append] at hhead hinj ⊢
      rw [head_concat, head_concat, Option.some.injEq] at hhead
      have hinput : (head hash none xs, x) = (head hash none ys, y) :=
        hinj (Or.inl (by simp)) (Or.inr (by simp)) hhead
      obtain ⟨hbefore, rfl⟩ := Prod.mk.inj hinput
      have hsub : {input | input ∈ inputs hash none xs ∨ input ∈ inputs hash none ys} ⊆
          {input | input ∈ inputs hash none (xs ++ [x]) ∨ input ∈ inputs hash none (ys ++ [x])} := by
        intro input hmem
        exact hmem.imp mem_inputs_append mem_inputs_append
      rw [ih (hinj.mono hsub) hbefore]

end evidence

/-- One line of entries: each follows the entry just before it, the first one follows
none, and no two follow the same. -/
structure Linear (chain : List (Link δ)) : Prop where
  follows : ∀ before entry after, chain = before ++ entry :: after →
    entry.prev_hash = before.getLast?.map Link.entry_hash
  apart : chain.Pairwise fun a b => a.prev_hash ≠ b.prev_hash

/-- Each link carries the hash of the link before it. -/
theorem prev_hash_of_split {before after : List (Link δ)} {entry : Link δ}
    (h : links hash none events = before ++ entry :: after) :
    entry.prev_hash = before.getLast?.map Link.entry_hash := by
  induction events using List.reverseRecOn generalizing after with
  | nil => simp at h
  | append_singleton events event ih =>
    rw [links_concat] at h
    rcases after.eq_nil_or_concat with rfl | ⟨after, last, rfl⟩
    · obtain ⟨rfl, hentry⟩ := List.append_inj' h rfl
      obtain rfl := (List.cons.inj hentry).1
      rw [head_eq, Option.or_none]
    · rw [List.concat_eq_append, ← List.cons_append, ← List.append_assoc] at h
      exact ih (List.append_inj' h rfl).1

/-- An event is hashed over the start of the chain or over the hash of an entry, and so
is the event to come. -/
theorem prev_cases {p : Option δ} (h : p ∈ (inputs hash prev events).map Prod.fst ++ [head hash prev events]) :
    p = prev ∨ ∃ input ∈ inputs hash prev events, p = some (hash input.1 input.2) := by
  induction events using List.reverseRecOn with
  | nil => exact Or.inl (by simpa using h)
  | append_singleton events event ih =>
    rw [inputs_concat, List.map_append, List.mem_append] at h
    rcases h with h | h
    · rcases ih h with hprev | ⟨input, hinput, hp⟩
      · exact Or.inl hprev
      · exact Or.inr ⟨input, mem_inputs_append hinput, hp⟩
    · refine Or.inr ⟨(head hash prev events, event), by simp, ?_⟩
      rw [List.mem_singleton.mp h, head_concat]

/-- Where inputs do not collide no two events are hashed over the same entry. -/
theorem nodup_prevs
    (hinj : Set.InjOn (fun input => hash input.1 input.2) {input | input ∈ inputs hash none events}) :
    ((inputs hash none events).map Prod.fst ++ [head hash none events]).Nodup := by
  induction events using List.reverseRecOn with
  | nil => simp
  | append_singleton events event ih =>
    have hbefore := ih (hinj.mono fun input hmem => mem_inputs_append hmem)
    rw [inputs_concat, List.map_append, List.map_singleton, head_concat]
    refine hbefore.append (List.nodup_singleton _) (List.disjoint_singleton.mpr ?_)
    intro hmem
    rcases prev_cases hmem with hnone | ⟨input, hinput, hhash⟩
    · cases hnone
    · -- The last event would be hashed over the same entry as an earlier one.
      have hsame : (head hash none events, event) = input :=
        hinj (by simp) (mem_inputs_append hinput) (Option.some.inj hhash)
      have hhead : head hash none events ∈ (inputs hash none events).map Prod.fst :=
        List.mem_map.mpr ⟨input, hinput, by rw [← hsame]⟩
      exact (List.disjoint_of_nodup_append hbefore) hhead (List.mem_singleton.mpr rfl)

/-- A chain whose inputs do not collide is one line. -/
theorem linear_links
    (hinj : Set.InjOn (fun input => hash input.1 input.2) {input | input ∈ inputs hash none events}) :
    Linear (links hash none events) where
  follows _ _ _ := prev_hash_of_split
  apart := by
    have hnodup := (List.nodup_append.mp (nodup_prevs hinj)).1
    rw [links, List.pairwise_map]
    exact List.pairwise_map.mp hnodup

end hash_chain
