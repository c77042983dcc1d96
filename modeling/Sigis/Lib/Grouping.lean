import Mathlib.Data.List.Induction
import Mathlib.Data.List.Nodup

namespace grouping

variable {κ α : Type} [DecidableEq κ] {pairs : List (κ × α)} {groups : List (κ × List α)} {key k : κ} {a : α}

/-- `groups[key].append(a)` on a `defaultdict(list)`: its keys in the order they were first used. -/
def append_to (key : κ) (a : α) : List (κ × List α) → List (κ × List α)
  | [] => [(key, [a])]
  | (k, values) :: groups =>
    if k = key then (k, values ++ [a]) :: groups else (k, values) :: append_to key a groups

/-- The values of the pairs under their keys. -/
def group (pairs : List (κ × α)) : List (κ × List α) :=
  pairs.foldl (fun groups pair => append_to pair.1 pair.2 groups) []

/-- The values paired with a key, in order. -/
def values_of (pairs : List (κ × α)) (key : κ) : List α := (pairs.filter fun pair => pair.1 = key).map Prod.snd

theorem values_of_append (pairs more : List (κ × α)) (key : κ) :
    values_of (pairs ++ more) key = values_of pairs key ++ values_of more key := by
  rw [values_of, List.filter_append, List.map_append, values_of, values_of]

theorem values_of_singleton (key k : κ) (a : α) : values_of [(key, a)] k = if key = k then [a] else [] := by
  by_cases h : key = k <;> simp [values_of, h]

theorem mem_values_of : a ∈ values_of pairs key ↔ (key, a) ∈ pairs := by
  simp [values_of]

/-- A key that was used stays where it is, a new one comes last. -/
theorem keys_append_to (key : κ) (a : α) (groups : List (κ × List α)) :
    (append_to key a groups).map Prod.fst =
      if key ∈ groups.map Prod.fst then groups.map Prod.fst else groups.map Prod.fst ++ [key] := by
  induction groups with
  | nil => rfl
  | cons head groups ih =>
    obtain ⟨k, values⟩ := head
    rw [append_to]
    by_cases h : k = key
    · rw [if_pos h, if_pos (by simp [h])]
      rfl
    · have hmem : key ∈ k :: groups.map Prod.fst ↔ key ∈ groups.map Prod.fst := by simp [Ne.symm h]
      rw [if_neg h, List.map_cons, ih, List.map_cons, if_congr hmem rfl rfl]
      split <;> rfl

theorem mem_keys_append_to : k ∈ (append_to key a groups).map Prod.fst ↔ k ∈ groups.map Prod.fst ∨ k = key := by
  rw [keys_append_to]
  split
  · next h => exact ⟨Or.inl, fun hk => hk.elim id fun heq => heq ▸ h⟩
  · rw [List.mem_append, List.mem_singleton]

theorem nodup_keys_append_to (h : (groups.map Prod.fst).Nodup) :
    ((append_to key a groups).map Prod.fst).Nodup := by
  rw [keys_append_to]
  split
  · exact h
  · next hnew => simpa using h.concat hnew

/-- When each key has its values of `f`, the key used has one value more. -/
theorem values_append_to {f : κ → List α} (hnodup : (groups.map Prod.fst).Nodup)
    (hvalues : ∀ g ∈ groups, g.2 = f g.1) (hnew : key ∉ groups.map Prod.fst → f key = []) :
    ∀ g ∈ append_to key a groups, g.2 = f g.1 ++ if key = g.1 then [a] else [] := by
  induction groups with
  | nil =>
    intro g hg
    rw [append_to, List.mem_singleton] at hg
    simp [hg, hnew]
  | cons head groups ih =>
    obtain ⟨k, values⟩ := head
    rw [List.map_cons, List.nodup_cons] at hnodup
    obtain ⟨hhead, hrest⟩ := List.forall_mem_cons.mp hvalues
    rw [append_to]
    split
    · next h =>
      subst h
      refine List.forall_mem_cons.mpr ⟨by simpa using hhead, fun g hg => ?_⟩
      have hmem : g.1 ∈ groups.map Prod.fst := List.mem_map_of_mem hg
      have hne : k ≠ g.1 := fun heq => hnodup.1 (heq ▸ hmem)
      rw [if_neg hne, List.append_nil, hrest g hg]
    · next h =>
      refine List.forall_mem_cons.mpr ⟨by simpa [Ne.symm h] using hhead, ih hnodup.2 hrest fun hkey => hnew ?_⟩
      simpa [Ne.symm h] using hkey

/-- The keys are distinct, and each stands before all its values. -/
structure Grouped (pairs : List (κ × α)) (groups : List (κ × List α)) : Prop where
  nodup : (groups.map Prod.fst).Nodup
  values : ∀ g ∈ groups, g.2 = values_of pairs g.1
  mem_keys : ∀ k, k ∈ groups.map Prod.fst ↔ values_of pairs k ≠ []

theorem Grouped.append (h : Grouped pairs groups) (key : κ) (a : α) :
    Grouped (pairs ++ [(key, a)]) (append_to key a groups) where
  nodup := nodup_keys_append_to h.nodup
  values g hg := by
    rw [values_of_append, values_of_singleton]
    exact values_append_to h.nodup h.values (fun hnew => by simpa [h.mem_keys] using hnew) g hg
  mem_keys k := by
    rw [mem_keys_append_to, h.mem_keys, values_of_append, values_of_singleton]
    by_cases hk : key = k
    · simp [hk]
    · simp [hk, Ne.symm hk]

theorem grouped_group (pairs : List (κ × α)) : Grouped pairs (group pairs) := by
  induction pairs using List.reverseRecOn with
  | nil => exact ⟨List.nodup_nil, by simp [group], by simp [group, values_of]⟩
  | append_singleton pairs pair ih =>
    rw [group, List.foldl_append]
    exact ih.append pair.1 pair.2

end grouping
