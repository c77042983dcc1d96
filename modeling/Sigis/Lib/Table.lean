import Mathlib.Data.List.Basic
import Mathlib.Data.List.Pairwise

namespace relational

/-- The constraints a table declares: its primary key, and the pairs of rows that
some further unique constraint forbids. -/
class Row (ρ : Type) (κ : outParam Type) where
  key : ρ → κ
  conflict : ρ → ρ → Bool
  conflict_symm : ∀ a b, conflict a b = conflict b a

variable {ρ κ : Type} [Row ρ κ]

/-- Two rows that no table may hold together. -/
def clash (a b : ρ) : Prop := Row.key a = Row.key b ∨ Row.conflict a b = true

instance [DecidableEq κ] (a b : ρ) : Decidable (clash a b) :=
  inferInstanceAs (Decidable (_ ∨ _))

/-- Clashing goes both ways. -/
theorem clash.symm {a b : ρ} (h : clash a b) : clash b a :=
  h.imp Eq.symm fun hconflict => (Row.conflict_symm b a).trans hconflict

/-- Rows with one key clash. -/
theorem clash_of_key {a b : ρ} (h : Row.key a = Row.key b) : clash a b := Or.inl h

/-- A table: its rows in insertion order, no two of which break a declared
constraint. -/
structure Table (ρ : Type) {κ : Type} [Row ρ κ] where
  rows : List ρ
  distinct : rows.Pairwise fun a b => ¬ clash a b

namespace Table

/-- A table is its rows. -/
@[ext] theorem ext {t u : Table ρ} (h : t.rows = u.rows) : t = u := by
  cases t
  cases u
  cases h
  rfl

/-- The table without rows. -/
def empty : Table ρ := ⟨[], List.Pairwise.nil⟩

@[simp] theorem rows_empty : (empty : Table ρ).rows = [] := rfl

/-- Rows of one table that clash are the same row. -/
theorem eq_of_clash (t : Table ρ) {a b : ρ} (ha : a ∈ t.rows) (hb : b ∈ t.rows)
    (h : clash a b) : a = b := by
  by_contra hne
  have hsymm : Std.Symm fun x y : ρ => ¬ clash x y := ⟨fun _ _ hxy hyx => hxy hyx.symm⟩
  exact t.distinct.forall ha hb hne h

/-- No two rows of a table have one key. -/
theorem eq_of_key (t : Table ρ) {a b : ρ} (ha : a ∈ t.rows) (hb : b ∈ t.rows)
    (h : Row.key a = Row.key b) : a = b := t.eq_of_clash ha hb (clash_of_key h)

/-- No row is stored twice. -/
theorem nodup (t : Table ρ) : t.rows.Nodup := by
  refine t.distinct.imp fun h heq => h ?_
  exact clash_of_key (congrArg Row.key heq)

/-- A selection of rows that clash pairwise has at most one row. -/
theorem length_filter_le_one (t : Table ρ) (p : ρ → Bool)
    (hp : ∀ a b, p a = true → p b = true → clash a b) : (t.rows.filter p).length ≤ 1 := by
  have hdistinct := t.distinct.filter p
  match hrows : t.rows.filter p with
  | [] => simp
  | [_] => simp
  | a :: b :: rest =>
    have ha : p a = true := List.of_mem_filter (hrows ▸ List.mem_cons_self)
    have hb : p b = true := List.of_mem_filter (hrows ▸ List.mem_cons_of_mem a List.mem_cons_self)
    rw [hrows, List.pairwise_cons] at hdistinct
    exact absurd (hp a b ha hb) (hdistinct.1 b List.mem_cons_self)

section lookup

variable [DecidableEq κ]

/-- A stored row is the only one with its key. -/
theorem filter_key (t : Table ρ) {r : ρ} (hr : r ∈ t.rows) :
    (t.rows.filter fun a => Row.key a = Row.key r) = [r] := by
  have hmem : r ∈ t.rows.filter fun a => Row.key a = Row.key r := by simpa using hr
  have hlength := t.length_filter_le_one (fun a => Row.key a = Row.key r) fun a b ha hb =>
    clash_of_key ((of_decide_eq_true ha).trans (of_decide_eq_true hb).symm)
  match hrows : t.rows.filter fun a => Row.key a = Row.key r with
  | [] => simp [hrows] at hmem
  | [a] =>
    rw [hrows, List.mem_singleton] at hmem
    rw [hmem]
  | _ :: _ :: _ => simp [hrows] at hlength

/-- The row with primary key `k`. -/
def get (t : Table ρ) (k : κ) : Option ρ := t.rows.find? fun r => Row.key r = k

/-- What is found under a key is the stored row with that key. -/
theorem get_eq_some_iff {t : Table ρ} {k : κ} {r : ρ} :
    t.get k = some r ↔ r ∈ t.rows ∧ Row.key r = k := by
  constructor
  · intro h
    exact ⟨List.mem_of_find?_eq_some h, by simpa using List.find?_some h⟩
  · rintro ⟨hmem, rfl⟩
    cases hget : t.get (Row.key r) with
    | none =>
      have hnone := List.find?_eq_none.mp hget r hmem
      simp at hnone
    | some found =>
      have hfound : Row.key found = Row.key r := by simpa using List.find?_some hget
      rw [t.eq_of_key (List.mem_of_find?_eq_some hget) hmem hfound]

/-- Nothing is found under a key that no row has. -/
theorem get_eq_none_iff {t : Table ρ} {k : κ} :
    t.get k = none ↔ ∀ r ∈ t.rows, Row.key r ≠ k := by
  simp [get, List.find?_eq_none]

/-- What is found is stored. -/
theorem mem_of_get {t : Table ρ} {k : κ} {r : ρ} (h : t.get k = some r) : r ∈ t.rows :=
  (get_eq_some_iff.mp h).1

theorem key_of_get {t : Table ρ} {k : κ} {r : ρ} (h : t.get k = some r) : Row.key r = k :=
  (get_eq_some_iff.mp h).2

/-- A stored row is found under its key. -/
theorem get_of_mem {t : Table ρ} {r : ρ} (h : r ∈ t.rows) : t.get (Row.key r) = some r :=
  get_eq_some_iff.mpr ⟨h, rfl⟩

/-- `JOIN ... ON ref = key`: each row beside the rows of the table that it refers to. -/
def join {α : Type} (rows : List α) (t : Table ρ) (ref : α → κ) : List (α × ρ) :=
  rows.flatMap fun a => (t.rows.filter fun r => Row.key r = ref a).map fun r => (a, r)

/-- What a row refers to is one row of the table, or none. -/
theorem filter_key_eq_toList (t : Table ρ) (k : κ) :
    (t.rows.filter fun r => Row.key r = k) = (t.get k).toList := by
  cases hget : t.get k with
  | none => simpa using get_eq_none_iff.mp hget
  | some r =>
    obtain ⟨hmem, rfl⟩ := get_eq_some_iff.mp hget
    exact t.filter_key hmem

/-- A join that is restricted to some rows of the table selects the rows that refer to one of them. -/
theorem filter_join {α : Type} (rows : List α) (t : Table ρ) (ref : α → κ) (p : ρ → Bool) :
    ((join rows t ref).filter fun pair => p pair.2).map Prod.fst = rows.filter fun a => (t.get (ref a)).any p := by
  induction rows with
  | nil => rfl
  | cons a rows ih =>
    rw [join] at ih
    rw [join, List.flatMap_cons, List.filter_append, List.map_append, ih, filter_key_eq_toList, List.filter_cons]
    cases t.get (ref a) with
    | none => rfl
    | some r => cases hp : p r <;> simp [hp]

end lookup

section insert

variable [DecidableEq κ]

/-- `INSERT`: the row is appended, unless it clashes with a stored one. -/
def insert (t : Table ρ) (r : ρ) : Option (Table ρ) :=
  if h : ∀ a ∈ t.rows, ¬ clash a r then
    some ⟨t.rows ++ [r], by
      rw [List.pairwise_append]
      exact ⟨t.distinct, List.pairwise_singleton _ _, by simpa using h⟩⟩
  else none

/-- A row is inserted when it clashes with no stored one, and then stands at the end. -/
theorem insert_eq_some_iff {t u : Table ρ} {r : ρ} :
    t.insert r = some u ↔ (∀ a ∈ t.rows, ¬ clash a r) ∧ u.rows = t.rows ++ [r] := by
  unfold insert
  split
  · next h =>
    rw [Option.some.injEq, Table.ext_iff]
    exact ⟨fun hu => ⟨h, hu.symm⟩, fun hu => hu.2.symm⟩
  · next h => simp [h]

theorem rows_insert {t u : Table ρ} {r : ρ} (h : t.insert r = some u) :
    u.rows = t.rows ++ [r] := (insert_eq_some_iff.mp h).2

/-- An insertion changes what is found under the key of its row, and under no other. -/
theorem get_insert {t u : Table ρ} {r : ρ} (h : t.insert r = some u) (k : κ) :
    u.get k = if Row.key r = k then some r else t.get k := by
  obtain ⟨hfree, hrows⟩ := insert_eq_some_iff.mp h
  by_cases hk : Row.key r = k
  · rw [if_pos hk, get_eq_some_iff, hrows]
    exact ⟨by simp, hk⟩
  · rw [if_neg hk]
    simp [get, hrows, List.find?_append, hk]

/-- What was found before an insertion is found after it. -/
theorem get_insert_of_some {t u : Table ρ} {r a : ρ} {k : κ} (h : t.insert r = some u)
    (hget : t.get k = some a) : u.get k = some a := by
  have hne : Row.key r ≠ k := by
    intro hk
    have hfree := (insert_eq_some_iff.mp h).1 a (mem_of_get hget)
    exact hfree (clash_of_key ((key_of_get hget).trans hk.symm))
  rw [get_insert h, if_neg hne, hget]

/-- A selection of an extended table is the selection, with the new row if it is
selected. -/
theorem filter_insert {t u : Table ρ} {r : ρ} (h : t.insert r = some u) (p : ρ → Bool) :
    u.rows.filter p = t.rows.filter p ++ if p r then [r] else [] := by
  rw [rows_insert h, List.filter_append, List.filter_singleton]
  cases p r <;> rfl

/-- A selection that the new row does not meet is left as it was. -/
theorem filter_insert_of_false {t u : Table ρ} {r : ρ} (h : t.insert r = some u) {p : ρ → Bool}
    (hp : p r = false) : u.rows.filter p = t.rows.filter p := by
  rw [filter_insert h, hp, if_neg (by decide), List.append_nil]

/-- A selection that the new row meets has it at its end. -/
theorem filter_insert_of_true {t u : Table ρ} {r : ρ} (h : t.insert r = some u) {p : ρ → Bool}
    (hp : p r = true) : u.rows.filter p = t.rows.filter p ++ [r] := by
  rw [filter_insert h, hp, if_pos rfl]

/-- What holds of the stored rows and of a new one holds of the extended table's. -/
theorem forall_mem_insert {t u : Table ρ} {r : ρ} (h : t.insert r = some u) {P : ρ → Prop}
    (hstored : ∀ a ∈ t.rows, P a) (hnew : P r) : ∀ a ∈ u.rows, P a := by
  intro a ha
  rw [rows_insert h, List.mem_append, List.mem_singleton] at ha
  rcases ha with ha | rfl
  · exact hstored a ha
  · exact hnew

/-- A row that clashes with no stored one is inserted. -/
theorem exists_insert {t : Table ρ} {r : ρ} (h : ∀ a ∈ t.rows, ¬ clash a r) :
    ∃ u, t.insert r = some u := by
  unfold insert
  rw [dif_pos h]
  exact ⟨_, rfl⟩

end insert

section update

variable [DecidableEq κ]

/-- A rewriting of rows that leaves the columns of the declared constraints alone. -/
structure Keeps (f : ρ → ρ) : Prop where
  key : ∀ r, Row.key (f r) = Row.key r
  conflict : ∀ r a, Row.conflict (f r) a = Row.conflict r a

omit [DecidableEq κ] in
/-- A rewritten row clashes with those the row clashed with. -/
theorem Keeps.clash_iff {f : ρ → ρ} (hf : Keeps f) (a b : ρ) : clash (f a) b ↔ clash a b := by
  simp only [clash, hf.key, hf.conflict]

/-- The row with key `k` rewritten by `f`. -/
def rewrite (k : κ) (f : ρ → ρ) (r : ρ) : ρ := if Row.key r = k then f r else r

/-- `UPDATE ... WHERE key = k`: refused when no row matches, or when the rewritten
rows would clash. -/
def update (t : Table ρ) (k : κ) (f : ρ → ρ) : Option (Table ρ) :=
  if h : (t.get k).isSome ∧ (t.rows.map (rewrite k f)).Pairwise fun a b => ¬ clash a b then
    some ⟨t.rows.map (rewrite k f), h.2⟩
  else none

/-- Rewriting the row of one key keeps keys and constraints if the rewriting does. -/
theorem Keeps.rewrite {f : ρ → ρ} (hf : Keeps f) (k : κ) : Keeps (rewrite k f) := by
  constructor
  · intro r
    by_cases h : Row.key r = k <;> simp [Table.rewrite, h, hf.key]
  · intro r a
    by_cases h : Row.key r = k <;> simp [Table.rewrite, h, hf.conflict]

omit [DecidableEq κ] in
/-- Rewritten rows are as far apart as they were. -/
theorem Keeps.pairwise {f : ρ → ρ} (hf : Keeps f) (t : Table ρ) :
    (t.rows.map f).Pairwise fun a b => ¬ clash a b := by
  rw [List.pairwise_map]
  refine t.distinct.imp ?_
  intro a b hab hfab
  exact hab ((hf.clash_iff b a).mp ((hf.clash_iff a (f b)).mp hfab).symm).symm

/-- An update rewrites the row of its key, in its place. -/
theorem rows_update {t u : Table ρ} {k : κ} {f : ρ → ρ} (h : t.update k f = some u) :
    u.rows = t.rows.map (rewrite k f) := by
  unfold update at h
  split at h
  · cases h
    rfl
  · cases h

/-- An update that goes through has found its row. -/
theorem get_isSome_of_update {t u : Table ρ} {k : κ} {f : ρ → ρ} (h : t.update k f = some u) :
    ∃ r, t.get k = some r := by
  unfold update at h
  split at h
  · next hcond => exact Option.isSome_iff_exists.mp hcond.1
  · cases h

/-- An update that keeps the constrained columns of a stored row succeeds. -/
theorem update_of_keeps {t : Table ρ} {k : κ} {f : ρ → ρ} {r : ρ} (hf : Keeps f)
    (hget : t.get k = some r) :
    ∃ u, t.update k f = some u ∧ u.rows = t.rows.map (rewrite k f) := by
  refine ⟨⟨t.rows.map (rewrite k f), (hf.rewrite k).pairwise t⟩, ?_, rfl⟩
  unfold update
  rw [dif_pos ⟨by simp [hget], (hf.rewrite k).pairwise t⟩]

/-- An update changes what is found under its key, and under no other. -/
theorem get_update {t u : Table ρ} {k : κ} {f : ρ → ρ} (hf : Keeps f)
    (h : t.update k f = some u) (j : κ) :
    u.get j = if j = k then (t.get k).map f else t.get j := by
  have hrows := rows_update h
  cases hget : t.get j with
  | none =>
    have hnone : u.get j = none := by
      rw [get_eq_none_iff, hrows]
      simpa [(hf.rewrite k).key] using get_eq_none_iff.mp hget
    rw [hnone]
    split
    · next hjk => simp [← hjk, hget]
    · rfl
  | some r =>
    obtain ⟨hmem, hkey⟩ := get_eq_some_iff.mp hget
    have hsome : u.get j = some (rewrite k f r) := by
      rw [get_eq_some_iff, hrows]
      exact ⟨List.mem_map_of_mem hmem, ((hf.rewrite k).key r).trans hkey⟩
    rw [hsome]
    split
    · next hjk =>
      subst hjk
      simp [hget, Table.rewrite, hkey]
    · next hjk => simp [Table.rewrite, hkey, hjk]

omit [DecidableEq κ] in
/-- `UPDATE ... SET` of columns that no constraint is about, on the rows that `f` changes. -/
def rewrite_all (t : Table ρ) (f : ρ → ρ) (hf : Keeps f) : Table ρ := ⟨t.rows.map f, hf.pairwise t⟩

omit [DecidableEq κ] in
@[simp] theorem rows_rewrite_all (t : Table ρ) (f : ρ → ρ) (hf : Keeps f) :
    (t.rewrite_all f hf).rows = t.rows.map f := rfl

/-- Under each key the rewritten row is found. -/
theorem get_rewrite_all (t : Table ρ) (f : ρ → ρ) (hf : Keeps f) (k : κ) :
    (t.rewrite_all f hf).get k = (t.get k).map f := by
  simp only [get, rows_rewrite_all, List.find?_map, Function.comp_def, hf.key]

omit [DecidableEq κ] in
/-- Updates of all the rows one after the other are updates of each row one after the other. -/
theorem rows_foldl_rewrite_all {ι : Type} (items : List ι) (f : ι → ρ → ρ) (hf : ∀ i, Keeps (f i)) (t : Table ρ) :
    (items.foldl (fun t i => t.rewrite_all (f i) (hf i)) t).rows =
      t.rows.map fun r => items.foldl (fun r i => f i r) r := by
  induction items generalizing t with
  | nil => exact (List.map_id _).symm
  | cons i items ih =>
    rw [List.foldl_cons, ih, rows_rewrite_all, List.map_map]
    rfl

/-- The table `u` is `t` with the stored row `old` replaced by `new`. -/
structure Replaces (t : Table ρ) (old new : ρ) (u : Table ρ) : Prop where
  stored : old ∈ t.rows
  key : Row.key new = Row.key old
  rows : u.rows = t.rows.map fun r => if Row.key r = Row.key old then new else r

/-- On the row an update was prepared from, its statement puts the rewritten row. -/
theorem map_rewrite {t : Table ρ} {k : κ} {r : ρ} (f : ρ → ρ) (hget : t.get k = some r) :
    t.rows.map (rewrite k f) = t.rows.map fun x => if Row.key x = Row.key r then f r else x := by
  obtain ⟨hmem, rfl⟩ := get_eq_some_iff.mp hget
  refine List.map_congr_left ?_
  intro x hx
  by_cases h : Row.key x = Row.key r
  · rw [Table.rewrite, if_pos h, if_pos h, t.eq_of_key hx hmem h]
  · rw [Table.rewrite, if_neg h, if_neg h]

/-- A row put in the place of another one leaves the rows apart when it is apart from the others. -/
theorem pairwise_replaced_iff {t : Table ρ} {r new : ρ} (hmem : r ∈ t.rows) :
    ((t.rows.map fun x => if Row.key x = Row.key r then new else x).Pairwise fun a b => ¬ clash a b) ↔
      ∀ a ∈ t.rows, Row.key a ≠ Row.key r → ¬ clash a new := by
  rw [List.pairwise_map]
  have hsymm : Std.Symm fun x y : ρ => ¬ clash (if Row.key x = Row.key r then new else x)
      (if Row.key y = Row.key r then new else y) := ⟨fun _ _ hxy hyx => hxy hyx.symm⟩
  constructor
  · intro h a ha hne
    have hapart := h.forall ha hmem fun heq => hne (congrArg Row.key heq)
    rwa [if_neg hne, if_pos rfl] at hapart
  · intro h
    refine t.distinct.imp_of_mem ?_
    intro a b ha hb hab
    by_cases hka : Row.key a = Row.key r
    · by_cases hkb : Row.key b = Row.key r
      · exact absurd (clash_of_key (hka.trans hkb.symm)) hab
      · rw [if_pos hka, if_neg hkb]
        exact fun hclash => h b hb hkb hclash.symm
    · by_cases hkb : Row.key b = Row.key r
      · rw [if_neg hka, if_pos hkb]
        exact h a ha hka
      · rwa [if_neg hka, if_neg hkb]

/-- An update run on the row it was prepared from replaces that row. -/
theorem update_eq_some_iff_replaces {t u : Table ρ} {k : κ} {f : ρ → ρ} {r : ρ} (hf : Keeps f)
    (hget : t.get k = some r) : t.update k f = some u ↔ Replaces t r (f r) u := by
  obtain ⟨v, hv, hvrows⟩ := update_of_keeps hf hget
  rw [hv, Option.some.injEq, Table.ext_iff, hvrows, map_rewrite f hget]
  exact ⟨fun h => ⟨mem_of_get hget, hf.key r, h.symm⟩, fun h => h.rows.symm⟩

/-- A row that is apart from the others can be put in the place of a stored one. -/
theorem exists_update_of_apart {t : Table ρ} {k : κ} {f : ρ → ρ} {r : ρ} (hget : t.get k = some r)
    (hapart : ∀ a ∈ t.rows, Row.key a ≠ k → ¬ clash a (f r)) : ∃ u, t.update k f = some u := by
  obtain ⟨hmem, rfl⟩ := get_eq_some_iff.mp hget
  unfold update
  rw [dif_pos ⟨by simp [hget], by rwa [map_rewrite f hget, pairwise_replaced_iff hmem]⟩]
  exact ⟨_, rfl⟩

/-- An update that may change constrained columns, but not the key, replaces its row unless
the new one clashes with another row. -/
theorem update_eq_some_iff_of_key {t u : Table ρ} {k : κ} {f : ρ → ρ} {r : ρ}
    (hkey : ∀ x, Row.key (f x) = Row.key x) (hget : t.get k = some r) :
    t.update k f = some u ↔
      (∀ a ∈ t.rows, Row.key a ≠ k → ¬ clash a (f r)) ∧ Replaces t r (f r) u := by
  obtain ⟨hmem, rfl⟩ := get_eq_some_iff.mp hget
  constructor
  · intro h
    have hrows := (rows_update h).trans (map_rewrite f hget)
    refine ⟨?_, hmem, hkey r, hrows⟩
    rw [← pairwise_replaced_iff hmem, ← hrows]
    exact u.distinct
  · rintro ⟨hapart, hreplaces⟩
    obtain ⟨v, hv⟩ := exists_update_of_apart hget hapart
    rw [hv, Option.some.injEq]
    exact Table.ext (((rows_update hv).trans (map_rewrite f hget)).trans hreplaces.rows.symm)

/-- A stored row can be replaced by one that keeps its constrained columns. -/
theorem exists_replaces {t : Table ρ} {f : ρ → ρ} (hf : Keeps f) {r : ρ} (hr : r ∈ t.rows) :
    ∃ u, Replaces t r (f r) u := by
  obtain ⟨u, hu, -⟩ := update_of_keeps hf (get_of_mem hr)
  exact ⟨u, (update_eq_some_iff_replaces hf (get_of_mem hr)).mp hu⟩

namespace Replaces

variable {t u : Table ρ} {old new : ρ}

/-- The rows are the others as they were, and the new one. -/
theorem mem_iff (h : Replaces t old new u) {x : ρ} :
    x ∈ u.rows ↔ (x ∈ t.rows ∧ Row.key x ≠ Row.key old) ∨ x = new := by
  rw [h.rows, List.mem_map]
  constructor
  · rintro ⟨r, hr, rfl⟩
    by_cases hk : Row.key r = Row.key old
    · exact Or.inr (if_pos hk)
    · rw [if_neg hk]
      exact Or.inl ⟨hr, hk⟩
  · rintro (⟨hx, hk⟩ | rfl)
    · exact ⟨x, hx, if_neg hk⟩
    · exact ⟨old, h.stored, if_pos rfl⟩

/-- What holds of the stored rows and of the one put in the place of another holds of all. -/
theorem forall_mem (h : Replaces t old new u) {P : ρ → Prop} (hstored : ∀ a ∈ t.rows, P a) (hnew : P new) :
    ∀ a ∈ u.rows, P a := by
  intro a ha
  rcases h.mem_iff.mp ha with ⟨ha, -⟩ | rfl
  · exact hstored a ha
  · exact hnew

theorem get (h : Replaces t old new u) (k : κ) :
    u.get k = if Row.key old = k then some new else t.get k := by
  by_cases hk : Row.key old = k
  · rw [if_pos hk, get_eq_some_iff, h.mem_iff]
    exact ⟨Or.inr rfl, h.key.trans hk⟩
  · rw [if_neg hk]
    cases hget : t.get k with
    | none =>
      rw [get_eq_none_iff] at hget ⊢
      intro x hx
      rcases h.mem_iff.mp hx with ⟨hx, _⟩ | rfl
      · exact hget x hx
      · rwa [h.key]
    | some r =>
      obtain ⟨hr, hkey⟩ := get_eq_some_iff.mp hget
      rw [get_eq_some_iff, h.mem_iff]
      exact ⟨Or.inl ⟨hr, fun heq => hk (heq.symm.trans hkey)⟩, hkey⟩

theorem get_self (h : Replaces t old new u) : u.get (Row.key old) = some new := by
  rw [h.get, if_pos rfl]

theorem get_old (h : Replaces t old new u) : t.get (Row.key old) = some old :=
  get_of_mem h.stored

/-- Under another key nothing has changed. -/
theorem get_other (h : Replaces t old new u) {k : κ} (hk : k ≠ Row.key old) : u.get k = t.get k := by
  rw [h.get, if_neg hk.symm]

/-- Replacing a row by itself changes nothing. -/
theorem eq_of_self (h : Replaces t old old u) : u = t := by
  have hrows : (t.rows.map fun r => if Row.key r = Row.key old then old else r) = t.rows.map id := by
    refine List.map_congr_left ?_
    intro r hr
    by_cases hk : Row.key r = Row.key old
    · rw [if_pos hk, t.eq_of_key hr h.stored hk, id]
    · rw [if_neg hk, id]
  exact Table.ext (h.rows.trans (hrows.trans (List.map_id t.rows)))

/-- A reflexive relation from the old row to the new one relates each row found before to
the one found after. -/
theorem get_related {R : ρ → ρ → Prop} (h : Replaces t old new u) (hrefl : ∀ r, R r r)
    (hnew : R old new) {k : κ} {r : ρ} (hget : t.get k = some r) : ∃ r', u.get k = some r' ∧ R r r' := by
  rw [h.get]
  by_cases hk : Row.key old = k
  · rw [if_pos hk]
    have hsame : r = old := Option.some.inj (hget.symm.trans (hk ▸ h.get_old))
    exact ⟨new, rfl, hsame ▸ hnew⟩
  · rw [if_neg hk]
    exact ⟨r, hget, hrefl r⟩

end Replaces

end update

section insert_all

variable [DecidableEq κ]

/-- Several rows inserted one after the other. -/
def insert_all (t : Table ρ) (rows : List ρ) : Option (Table ρ) := rows.foldlM insert t

/-- Rows that clash neither with a stored one nor with each other. -/
structure Accepts (t : Table ρ) (rows : List ρ) : Prop where
  stored : ∀ a ∈ t.rows, ∀ r ∈ rows, ¬ clash a r
  apart : rows.Pairwise fun a b => ¬ clash a b

omit [DecidableEq κ] in
/-- A table accepts rows that clash with none of its own and are apart from each other. -/
theorem accepts_iff {t : Table ρ} {rows : List ρ} : t.Accepts rows ↔
    (∀ a ∈ t.rows, ∀ r ∈ rows, ¬ clash a r) ∧ rows.Pairwise fun a b => ¬ clash a b :=
  ⟨fun h => ⟨h.stored, h.apart⟩, fun h => ⟨h.1, h.2⟩⟩

/-- Rows that the table accepts are appended in their order. -/
theorem insert_all_eq_some_iff {t u : Table ρ} {rows : List ρ} :
    t.insert_all rows = some u ↔ t.Accepts rows ∧ u.rows = t.rows ++ rows := by
  rw [accepts_iff, and_assoc]
  induction rows generalizing t with
  | nil => simp [insert_all, Table.ext_iff, eq_comm]
  | cons r rows ih =>
    have hcons : t.insert_all (r :: rows) = (t.insert r).bind fun v => v.insert_all rows := rfl
    rw [hcons, Option.bind_eq_some_iff]
    simp only [insert_eq_some_iff, ih]
    constructor
    · rintro ⟨v, ⟨hfree, hv⟩, hrest, hpairwise, hu⟩
      rw [hv] at hrest hu
      simp only [List.mem_append, List.mem_singleton] at hrest
      refine ⟨?_, List.pairwise_cons.mpr ⟨fun b hb => hrest r (Or.inr rfl) b hb, hpairwise⟩, by simp [hu]⟩
      intro a ha b hb
      rcases List.mem_cons.mp hb with rfl | hb
      · exact hfree a ha
      · exact hrest a (Or.inl ha) b hb
    · rintro ⟨hfree, hpairwise, hu⟩
      obtain ⟨hr, hpairwise⟩ := List.pairwise_cons.mp hpairwise
      obtain ⟨v, hv⟩ := exists_insert fun a ha => hfree a ha r List.mem_cons_self
      obtain ⟨hfirst, hv⟩ := insert_eq_some_iff.mp hv
      refine ⟨v, ⟨hfirst, hv⟩, ?_, hpairwise, by simp [hu, hv]⟩
      intro a ha b hb
      rw [hv, List.mem_append, List.mem_singleton] at ha
      rcases ha with ha | rfl
      · exact hfree a ha b (List.mem_cons_of_mem r hb)
      · exact hr b hb

omit [DecidableEq κ] in
/-- Rewriting the other columns of new rows lets the table accept the same rows. -/
theorem Keeps.accepts_map_iff {f : ρ → ρ} (hf : Keeps f) {t : Table ρ} {rows : List ρ} :
    t.Accepts (rows.map f) ↔ t.Accepts rows := by
  have hright (a b : ρ) : clash a (f b) ↔ clash a b :=
    ⟨fun h => ((hf.clash_iff b a).mp h.symm).symm, fun h => ((hf.clash_iff b a).mpr h.symm).symm⟩
  simp only [accepts_iff, List.forall_mem_map, List.pairwise_map, hright, hf.clash_iff]

/-- Rows the table accepts are inserted. -/
theorem Accepts.exists_insert_all {t : Table ρ} {rows : List ρ} (h : t.Accepts rows) :
    ∃ u, t.insert_all rows = some u := by
  have hdistinct : (t.rows ++ rows).Pairwise fun a b => ¬ clash a b :=
    List.pairwise_append.mpr ⟨t.distinct, h.apart, h.stored⟩
  exact ⟨⟨t.rows ++ rows, hdistinct⟩, insert_all_eq_some_iff.mpr ⟨h, rfl⟩⟩

/-- Accepted rows that clash are the same row. -/
theorem Accepts.eq_of_clash {t : Table ρ} {rows : List ρ} (h : t.Accepts rows) {a b : ρ} (ha : a ∈ rows)
    (hb : b ∈ rows) (hclash : clash a b) : a = b := by
  obtain ⟨u, hu⟩ := h.exists_insert_all
  have hrows := (insert_all_eq_some_iff.mp hu).2
  exact u.eq_of_clash (by simp [hrows, ha]) (by simp [hrows, hb]) hclash

end insert_all

/-- `DELETE` of every row a test selects. -/
def delete (t : Table ρ) (selected : ρ → Bool) : Table ρ :=
  ⟨t.rows.filter fun r => !selected r, t.distinct.filter _⟩

/-- A deletion leaves the rows it does not select. -/
theorem mem_delete_iff {t : Table ρ} {selected : ρ → Bool} {r : ρ} :
    r ∈ (t.delete selected).rows ↔ r ∈ t.rows ∧ selected r = false := by
  simp [delete]

end Table

/-- One column of an `UPDATE` built from a loaded row: a column that was not given
another value is not part of the statement, so the stored value stays; a changed one
is written. -/
def column {α : Type} [DecidableEq α] (loaded written current : α) : α :=
  if written = loaded then current else written

/-- A column whose type rewrites the values bound to it. -/
def bound_column {α : Type} [DecidableEq α] (bind : α → α) (loaded written current : α) : α :=
  if written = loaded then current else bind written

section column

variable {α : Type} [DecidableEq α] {bind : α → α} {loaded written current : α}

/-- A column given the value it was loaded with is not in the statement. -/
@[simp] theorem column_unchanged : column loaded loaded current = current := if_pos rfl

@[simp] theorem bound_column_unchanged : bound_column bind loaded loaded current = current :=
  if_pos rfl

/-- On the row it was loaded from, a column ends with the written value. -/
@[simp] theorem column_loaded : column loaded written loaded = written := by
  unfold column
  split
  · next h => exact h.symm
  · rfl

/-- A column given another value is in the statement. -/
theorem column_changed (h : written ≠ loaded) : column loaded written current = written :=
  if_neg h

/-- Where what is read of a column is the same on both rows, the written value is read after it. -/
theorem column_congr {β : Type} (f : α → β) (h : f current = f loaded) :
    f (column loaded written current) = f written := by
  unfold column
  split
  · next heq => rw [h, heq]
  · rfl

/-- What a column shows is what it was given, when storing the value does not change what it shows. -/
theorem bound_column_congr {β : Type} (f : α → β) (hbind : f (bind written) = f written) (h : f current = f loaded) :
    f (bound_column bind loaded written current) = f written := by
  unfold bound_column
  split
  · next heq => rw [h, heq]
  · exact hbind

/-- A column given another value is stored as the driver binds it. -/
theorem bound_column_changed (h : written ≠ loaded) :
    bound_column bind loaded written current = bind written := if_neg h

end column

end relational
