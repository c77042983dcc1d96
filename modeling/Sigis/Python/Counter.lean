import Mathlib.Algebra.BigOperators.Group.List.Lemmas
import Mathlib.Data.List.Dedup

namespace sigis

/-- A `dict[str, int]` as its items. -/
abbrev Counts := List (String × Nat)

/-- `d.get(key)`. -/
def Counts.get (d : Counts) (key : String) : Option Nat := (d.find? fun item => item.1 = key).map Prod.snd

/-- The two dictionaries are equal: the order of the items does not count. -/
def Counts.Same (d d' : Counts) : Prop := ∀ key, d.get key = d'.get key

/-- `sum(d.values())`. -/
def Counts.total (d : Counts) : Nat := d.foldr (fun item n => item.2 + n) 0

/-- `d[value] = d.get(value, 0) + 1`. -/
def Counts.increment (value : String) : Counts → Counts
  | [] => [(value, 1)]
  | (key, n) :: rest => if key = value then (key, n + 1) :: rest else (key, n) :: Counts.increment value rest

/-- `Counter(values)`. -/
def Counter (values : List String) : Counts := values.foldl (fun d value => d.increment value) []

/-- `SELECT column, count(*) ... GROUP BY column` over the values of the column. -/
def count_by (values : List String) : Counts := values.dedup.map fun value => (value, values.count value)

variable {values more : List String} {key : String}

@[simp] theorem get_nil : Counts.get [] key = none := rfl

theorem get_cons {name : String} {n : Nat} {d : Counts} :
    Counts.get ((name, n) :: d) key = if name = key then some n else d.get key := by
  unfold Counts.get
  by_cases h : name = key <;> simp [h]

/-- Counting a value adds one under it. -/
theorem get_increment (d : Counts) (value key : String) :
    (d.increment value).get key = if value = key then some ((d.get key).getD 0 + 1) else d.get key := by
  induction d with
  | nil => exact get_cons
  | cons item rest ih =>
    obtain ⟨name, n⟩ := item
    unfold Counts.increment
    by_cases hname : name = value
    · subst hname
      rw [if_pos rfl, get_cons, get_cons]
      by_cases hkey : name = key <;> simp [hkey]
    · rw [if_neg hname, get_cons, get_cons, ih]
      by_cases hkey : name = key
      · subst hkey
        simp [Ne.symm hname]
      · simp [hkey]

/-- Counting several values adds under each how often it occurs. -/
theorem get_foldl_increment (values : List String) (d : Counts) (key : String) :
    (values.foldl (fun d value => d.increment value) d).get key =
      if key ∈ values then some ((d.get key).getD 0 + values.count key) else d.get key := by
  induction values generalizing d with
  | nil => simp
  | cons value rest ih =>
    rw [List.foldl_cons, ih, get_increment]
    by_cases hkey : value = key
    · subst hkey
      by_cases hrest : value ∈ rest
      · simp [hrest, Nat.add_assoc, Nat.add_comm 1]
      · simp [hrest, List.count_eq_zero_of_not_mem hrest]
    · simp [hkey, Ne.symm hkey, List.count_cons_of_ne hkey]

/-- A `Counter` holds how often each value occurs. -/
theorem get_counter : (Counter values).get key = if key ∈ values then some (values.count key) else none := by
  rw [Counter, get_foldl_increment]
  simp

/-- Grouping holds how often each value occurs. -/
theorem get_count_by : (count_by values).get key = if key ∈ values then some (values.count key) else none := by
  have hget : ∀ keys : List String, Counts.get (keys.map fun value => (value, values.count value)) key =
      if key ∈ keys then some (values.count key) else none := by
    intro keys
    induction keys with
    | nil => simp
    | cons value rest ih =>
      rw [List.map_cons, get_cons, ih]
      by_cases hkey : value = key
      · simp [hkey]
      · simp [hkey, Ne.symm hkey]
  rw [count_by, hget]
  simp only [List.mem_dedup]

/-- Counting in Python and grouping in SQL agree, in whatever order the values come. -/
theorem counter_same_count_by (h : values.Perm more) : (Counter values).Same (count_by more) := by
  intro key
  rw [get_counter, get_count_by, h.count_eq, if_congr h.mem_iff rfl rfl]

/-- The groups together hold all the rows. -/
theorem total_count_by (values : List String) : (count_by values).total = values.length := by
  have htotal : ∀ keys : List String, Counts.total (keys.map fun value => (value, values.count value)) =
      (keys.map fun value => values.count value).sum := by
    intro keys
    induction keys with
    | nil => rfl
    | cons value rest ih => simpa [Counts.total] using ih
  rw [count_by, htotal]
  exact List.sum_map_count_dedup_eq_length values

end sigis
