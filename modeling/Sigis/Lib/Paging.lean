import Mathlib.Data.List.Perm.Basic
import Mathlib.Data.List.Sort

namespace paging

variable {α β κ : Type} [LinearOrder κ] {key : α → κ}

/-- A way to put rows in the order of their keys: among rows with one key it is free. -/
structure Plan (key : α → κ) where
  order_by : List α → List α
  perm : ∀ rows, (order_by rows).Perm rows
  sorted : ∀ rows, (order_by rows).Pairwise fun a b => key a ≤ key b

/-- The order of a query without `ORDER BY`: any. -/
abbrev Plan.Free (α : Type) : Type := Plan fun _ : α => ()

/-- `ORDER BY key LIMIT limit OFFSET offset`. -/
def Plan.page (plan : Plan key) (rows : List α) (offset limit : Nat) : List α :=
  ((plan.order_by rows).drop offset).take limit

/-- A page holds rows of the query. -/
theorem mem_of_mem_page {plan : Plan key} {rows : List α} {offset limit : Nat} {a : α}
    (h : a ∈ plan.page rows offset limit) : a ∈ rows :=
  (plan.perm rows).mem_iff.mp (List.mem_of_mem_drop (List.mem_of_mem_take h))

/-- The number of pages at 0, `limit`, 2 `limit` and so on, below `total`. -/
def page_count (total limit : Nat) : Nat := (total + limit - 1) / limit

/-- A page is asked for while rows are left. -/
theorem lt_page_count_iff {total limit k : Nat} (h : 0 < limit) : k < page_count total limit ↔ k * limit < total := by
  rw [page_count, Nat.lt_iff_add_one_le, Nat.le_div_iff_mul_le h, Nat.add_mul, Nat.one_mul]
  omega

/-- What a client has gathered that asks for one page after the other until it has skipped
the total it was told. -/
def gather (list_page : Nat → Nat → List β × Nat) (limit : Nat) : List β :=
  (List.range (page_count (list_page 0 0).2 limit)).flatMap fun k => (list_page k (k * limit)).1

/-- The number of rows whose key comes before that of a row. -/
def before (key : α → κ) (rows : List α) (a : α) : Nat := rows.countP fun b => key b < key a

/-- The number of rows whose key comes before that of a row, or is the same. -/
def through (key : α → κ) (rows : List α) (a : α) : Nat := rows.countP fun b => key b ≤ key a

/-- Rows with one key lie on both sides of the position. -/
def Splits (key : α → κ) (rows : List α) (position : Nat) : Prop :=
  ∃ a ∈ rows, before key rows a < position ∧ position < through key rows a

instance (rows : List α) (position : Nat) : Decidable (Splits key rows position) :=
  inferInstanceAs (Decidable (∃ a ∈ rows, before key rows a < position ∧ position < through key rows a))

section sorted

variable {rows sorted : List α} {i : Nat} {a : α}

/-- How many rows come before a key does not depend on their order. -/
theorem before_perm (h : sorted.Perm rows) : before key sorted a = before key rows a := h.countP_eq _

/-- Nor does how many come up to it. -/
theorem through_perm (h : sorted.Perm rows) : through key sorted a = through key rows a := h.countP_eq _

/-- Rows that stand later have no smaller keys. -/
theorem key_le_of_le (h : sorted.Pairwise fun a b => key a ≤ key b) {j : Nat} (hij : i ≤ j)
    (hi : i < sorted.length) (hj : j < sorted.length) : key sorted[i] ≤ key sorted[j] := by
  rcases hij.lt_or_eq with hlt | rfl
  · exact List.pairwise_iff_getElem.mp h i j hi hj hlt
  · exact le_rfl

/-- The rows before a position are counted when the property holds for all of them. -/
theorem le_countP_of_take {p : α → Bool} (hi : i ≤ sorted.length) (h : ∀ b ∈ sorted.take i, p b) :
    i ≤ sorted.countP p := by
  have htake : (sorted.take i).countP p = i := by
    rw [List.countP_eq_length.mpr h, List.length_take, Nat.min_eq_left hi]
  exact htake.symm.le.trans ((List.take_sublist i sorted).countP_le)

/-- Only rows before the position are counted when the property fails from there on. -/
theorem countP_le_of_drop {p : α → Bool} (h : ∀ b ∈ sorted.drop i, ¬ p b) : sorted.countP p ≤ i := by
  have hdrop : (sorted.drop i).countP p = 0 := List.countP_eq_zero.mpr h
  have hsplit : sorted.countP p = (sorted.take i).countP p + (sorted.drop i).countP p := by
    rw [← List.countP_append, List.take_append_drop]
  have htake : (sorted.take i).countP p ≤ (sorted.take i).length := List.countP_le_length
  rw [List.length_take] at htake
  omega

/-- A row stands at or after the rows with smaller keys. -/
theorem before_le (h : sorted.Pairwise fun a b => key a ≤ key b) (hi : i < sorted.length) :
    before key sorted sorted[i] ≤ i := by
  refine countP_le_of_drop fun b hb => ?_
  obtain ⟨j, hj, rfl⟩ := List.mem_drop_iff_getElem.mp hb
  have hle := key_le_of_le h (Nat.le_add_right i j) hi (by omega)
  simpa using not_lt.mpr hle

/-- A row stands before the rows with greater keys. -/
theorem lt_through (h : sorted.Pairwise fun a b => key a ≤ key b) (hi : i < sorted.length) :
    i < through key sorted sorted[i] := by
  refine le_countP_of_take hi fun b hb => ?_
  obtain ⟨j, hj, rfl⟩ := List.mem_take_iff_getElem.mp hb
  have hle := key_le_of_le h (show j ≤ i by omega) (by omega) hi
  simpa using hle

/-- The row at a position among those with the key of `a` has that key. -/
theorem key_eq_of_between (h : sorted.Pairwise fun a b => key a ≤ key b) (hi : i < sorted.length)
    (hbefore : before key sorted a ≤ i) (hthrough : i < through key sorted a) : key sorted[i] = key a := by
  refine le_antisymm ?_ ?_
  · by_contra hlt
    refine hthrough.not_ge (countP_le_of_drop fun b hb => ?_)
    obtain ⟨j, hj, rfl⟩ := List.mem_drop_iff_getElem.mp hb
    have hle := key_le_of_le h (Nat.le_add_right i j) hi (by omega)
    simpa using (not_le.mp hlt).trans_le hle
  · by_contra hlt
    refine hbefore.not_gt (le_countP_of_take hi fun b hb => ?_)
    obtain ⟨j, hj, rfl⟩ := List.mem_take_iff_getElem.mp hb
    have hle := key_le_of_le h (show j ≤ i by omega) (by omega) hi
    simpa using hle.trans_lt (not_le.mp hlt)

theorem through_le_length : through key rows a ≤ rows.length := List.countP_le_length

/-- At a position that splits no key, every order of the rows puts the same rows first. -/
theorem take_perm_of_not_splits {position : Nat} (hperm : sorted.Perm rows)
    (h : sorted.Pairwise fun a b => key a ≤ key b) (hsplit : ¬ Splits key rows position) :
    (sorted.take position).Perm (rows.filter fun a => through key rows a ≤ position) := by
  have hfirst : ∀ a ∈ sorted.take position, through key rows a ≤ position := by
    intro a ha
    obtain ⟨i, hi, rfl⟩ := List.mem_take_iff_getElem.mp ha
    have hbefore := before_le h (i := i) (by omega)
    rw [before_perm hperm] at hbefore
    by_contra hlt
    exact hsplit ⟨_, hperm.mem_iff.mp (List.getElem_mem _), by omega, not_le.mp hlt⟩
  have hlast : ∀ a ∈ sorted.drop position, ¬ through key rows a ≤ position := by
    intro a ha
    obtain ⟨i, hi, rfl⟩ := List.mem_drop_iff_getElem.mp ha
    have hthrough := lt_through h (i := position + i) (by omega)
    rw [through_perm hperm] at hthrough
    omega
  have hfilter : sorted.filter (fun a => through key rows a ≤ position) = sorted.take position := by
    rw [← List.take_append_drop position sorted, List.filter_append, List.filter_eq_self.mpr (by simpa using hfirst),
      List.filter_eq_nil_iff.mpr (by simpa using hlast), List.append_nil, List.take_append_drop]
  rw [← hfilter]
  exact hperm.filter _

/-- At a position that splits a key, two orders of distinct rows put different rows first. -/
theorem exists_other_order {position : Nat} (hperm : sorted.Perm rows) (hnodup : rows.Nodup)
    (h : sorted.Pairwise fun a b => key a ≤ key b) (hsplit : Splits key rows position) :
    ∃ other : List α, other.Perm rows ∧ (other.Pairwise fun a b => key a ≤ key b) ∧
      ¬ (other.take position).Perm (sorted.take position) := by
  obtain ⟨a, ha, hbefore, hthrough⟩ := hsplit
  rw [← before_perm hperm] at hbefore
  rw [← through_perm hperm] at hthrough
  have hlength : position < sorted.length := hthrough.trans_le through_le_length
  obtain ⟨i, rfl⟩ : ∃ i, position = i + 1 := ⟨position - 1, by omega⟩
  have hi : i < sorted.length := by omega
  -- The rows on the two sides of the position have one key, so they can change places.
  have hkey : key sorted[i] = key sorted[i + 1] :=
    (key_eq_of_between h hi (by omega) (by omega)).trans (key_eq_of_between h hlength (by omega) hthrough).symm
  have hsorted : sorted = sorted.take i ++ sorted[i] :: sorted[i + 1] :: sorted.drop (i + 2) := by
    rw [List.getElem_cons_drop, List.getElem_cons_drop, List.take_append_drop]
  have hswap : (sorted.take i ++ sorted[i + 1] :: sorted[i] :: sorted.drop (i + 2)).Perm sorted := by
    conv_rhs => rw [hsorted]
    exact (List.Perm.swap _ _ _).append_left _
  refine ⟨sorted.take i ++ sorted[i + 1] :: sorted[i] :: sorted.drop (i + 2), hswap.trans hperm, ?_, ?_⟩
  · rw [hsorted] at h
    simp only [List.pairwise_append, List.pairwise_cons, List.mem_cons, forall_eq_or_imp] at h ⊢
    obtain ⟨hfirst, ⟨⟨-, hleft⟩, hright, hrest⟩, hcross⟩ := h
    refine ⟨hfirst, ⟨⟨hkey.ge, hright⟩, hleft, hrest⟩, fun b hb => ?_⟩
    obtain ⟨hbleft, hbright, hbrest⟩ := hcross b hb
    exact ⟨hbright, hbleft, hbrest⟩
  · have hother : (sorted.take i ++ sorted[i + 1] :: sorted[i] :: sorted.drop (i + 2)).take (i + 1) =
        sorted.take i ++ [sorted[i + 1]] := by
      rw [List.take_append, List.length_take, Nat.min_eq_left hi.le, List.take_of_length_le (by simp)]
      simp
    rw [hother, List.take_succ_eq_append_getElem hi, List.perm_append_left_iff, List.singleton_perm_singleton]
    have hdistinct : sorted.Nodup := hperm.nodup_iff.mpr hnodup
    intro heq
    have := (List.Nodup.getElem_inj_iff hdistinct).mp heq
    omega

end sorted

section gathered

variable {rows : List α} {limit : Nat}

/-- Consecutive pages of one list make up its beginning. -/
theorem flatMap_pages (rows : List α) (limit count : Nat) :
    ((List.range count).flatMap fun k => (rows.drop (k * limit)).take limit) = rows.take (count * limit) := by
  induction count with
  | zero => simp
  | succ count ih =>
    rw [List.range_succ, List.flatMap_append, ih, List.flatMap_singleton, Nat.succ_mul, List.take_add]

/-- The pages have room for every row. -/
theorem length_le_pages {total : Nat} (h : 0 < limit) : total ≤ page_count total limit * limit := by
  by_contra hlt
  exact lt_irrefl _ ((lt_page_count_iff h).mpr (not_le.mp hlt))

/-- The rows of all the pages, each fetched with a plan of its own. -/
def Plan.gathered (plan : Nat → Plan key) (rows : List α) (limit : Nat) : List α :=
  (List.range (page_count rows.length limit)).flatMap fun k => (plan k).page rows (k * limit) limit

/-- Pages fetched with one plan make up the ordered rows. -/
theorem gathered_same (plan : Plan key) (h : 0 < limit) :
    Plan.gathered (fun _ => plan) rows limit = plan.order_by rows := by
  have hlength := @length_le_pages limit rows.length h
  rw [← (plan.perm rows).length_eq] at hlength
  unfold Plan.gathered Plan.page
  rw [flatMap_pages, ← (plan.perm rows).length_eq, List.take_of_length_le hlength]

/-- A plan that orders some rows in a given way. -/
noncomputable def Plan.choosing (plan : Plan key) (other : List α) (hperm : other.Perm rows)
    (hsorted : other.Pairwise fun a b => key a ≤ key b) : Plan key := by
  classical exact {
    order_by := fun l => if l = rows then other else plan.order_by l
    perm := fun l => by
      split
      · next heq => exact heq ▸ hperm
      · exact plan.perm l
    sorted := fun l => by
      split
      · exact hsorted
      · exact plan.sorted l }

/-- A plan can follow any order that is sorted by the key. -/
theorem order_by_choosing (plan : Plan key) {other : List α} (hperm : other.Perm rows)
    (hsorted : other.Pairwise fun a b => key a ≤ key b) : (plan.choosing other hperm hsorted).order_by rows = other :=
  if_pos rfl

/-- There is a way to order rows. -/
def Plan.by_insertion (key : α → κ) : Plan key where
  order_by := List.insertionSort fun a b => key a ≤ key b
  perm := List.perm_insertionSort _
  sorted := List.pairwise_insertionSort _

/-- Pages fetched with one plan up to a position, and with another from there on. -/
theorem gathered_switched (second first : Plan key) (hlimit : 0 < limit) {k : Nat}
    (hk : k ≤ page_count rows.length limit) :
    Plan.gathered (fun j => if j < k then second else first) rows limit =
      (second.order_by rows).take (k * limit) ++ (first.order_by rows).drop (k * limit) := by
  obtain ⟨more, hmore⟩ := Nat.exists_eq_add_of_le hk
  have hlength := @length_le_pages limit rows.length hlimit
  rw [hmore, Nat.add_mul] at hlength
  unfold Plan.gathered
  rw [hmore, List.range_add, List.flatMap_append, List.flatMap_map]
  congr 1
  · rw [← flatMap_pages]
    refine List.flatMap_congr fun j hj => ?_
    simp only [if_pos (List.mem_range.mp hj), Plan.page]
  · have hdrop : ((first.order_by rows).drop (k * limit)).take (more * limit) =
        (first.order_by rows).drop (k * limit) := by
      refine List.take_of_length_le ?_
      rw [List.length_drop, (first.perm rows).length_eq]
      omega
    rw [← hdrop, ← flatMap_pages]
    refine List.flatMap_congr fun j _ => ?_
    simp only [if_neg (show ¬ k + j < k by omega), Plan.page, List.drop_drop, Nat.add_mul]

/-- Whatever plan each query follows, the pages hold each row once exactly when no page begins in
the middle of the rows of one key. -/
theorem gathered_perm_iff (hnodup : rows.Nodup) (hlimit : 0 < limit) :
    (∀ plan : Nat → Plan key, (Plan.gathered plan rows limit).Perm rows) ↔ ∀ k, ¬ Splits key rows (k * limit) := by
  constructor
  · intro hgathers k hsplit
    let first : Plan key := .by_insertion key
    obtain ⟨other, hperm, hsorted, hne⟩ := exists_other_order (first.perm rows) hnodup (first.sorted rows) hsplit
    have hk : k ≤ page_count rows.length limit := by
      obtain ⟨a, -, -, hthrough⟩ := hsplit
      exact ((lt_page_count_iff hlimit).mpr (hthrough.trans_le through_le_length)).le
    have hgathered := gathered_switched (first.choosing other hperm hsorted) first hlimit hk
    rw [order_by_choosing first hperm hsorted] at hgathered
    have hsame : (other.take (k * limit) ++ (first.order_by rows).drop (k * limit)).Perm
        ((first.order_by rows).take (k * limit) ++ (first.order_by rows).drop (k * limit)) := by
      rw [← hgathered, List.take_append_drop]
      exact (hgathers _).trans (first.perm rows).symm
    exact hne ((List.perm_append_right_iff _).mp hsame)
  · intro hsplit plan
    let one : Plan key := .by_insertion key
    -- Each page holds the rows that a fixed plan puts on it.
    have hpage : ∀ k, ((plan k).page rows (k * limit) limit).Perm (one.page rows (k * limit) limit) := by
      intro k
      have hfirst := (take_perm_of_not_splits ((plan k).perm rows) ((plan k).sorted rows) (hsplit k)).trans
        (take_perm_of_not_splits (one.perm rows) (one.sorted rows) (hsplit k)).symm
      have hnext := (take_perm_of_not_splits ((plan k).perm rows) ((plan k).sorted rows) (hsplit (k + 1))).trans
        (take_perm_of_not_splits (one.perm rows) (one.sorted rows) (hsplit (k + 1))).symm
      rw [Nat.succ_mul, List.take_add, List.take_add] at hnext
      exact (List.perm_append_left_iff _).mp ((hfirst.symm.append_right _).trans hnext)
    have hone : (Plan.gathered plan rows limit).Perm (Plan.gathered (fun _ => one) rows limit) :=
      List.Perm.flatMap_left _ fun k _ => hpage k
    rw [gathered_same one hlimit] at hone
    exact hone.trans (one.perm rows)

end gathered

/-- The rows that are gathered are rows of the table. -/
theorem mem_of_mem_gathered {rows : List α} {limit : Nat} {plan : Nat → Plan key} {a : α}
    (h : a ∈ Plan.gathered plan rows limit) : a ∈ rows := by
  obtain ⟨k, -, ha⟩ := List.mem_flatMap.mp h
  exact mem_of_mem_page ha

/-- What is made of distinct rows is a rearrangement of what is made of all of them exactly
when the rows are. -/
theorem map_perm_iff {rows more : List α} {f : α → β} (hsub : more ⊆ rows) (hnodup : rows.Nodup)
    (hinj : ∀ a ∈ rows, ∀ b ∈ rows, f a = f b → a = b) :
    (more.map f).Perm (rows.map f) ↔ more.Perm rows := by
  constructor
  · intro h
    have hmap : (rows.map f).Nodup := hnodup.map_on hinj
    have hmore : more.Nodup := (h.nodup_iff.mpr hmap).of_map
    have hlength := h.length_eq
    rw [List.length_map, List.length_map] at hlength
    exact (List.subperm_of_subset hmore hsub).perm_of_length_le hlength.ge
  · exact fun h => h.map f

/-- A client that gathers the pages of a query holds what is made of each row exactly once, whatever
plan each page is fetched with, exactly when no page begins in the middle of the rows of one
key. -/
theorem gather_perm_iff {rows : List α} {limit : Nat} (f : α → β) (hnodup : rows.Nodup)
    (hinj : ∀ a ∈ rows, ∀ b ∈ rows, f a = f b → a = b) (hlimit : 0 < limit) :
    (∀ plan : Nat → Plan key,
      (gather (fun k skip => (((plan k).page rows skip limit).map f, rows.length)) limit).Perm (rows.map f)) ↔
    ∀ k, ¬ Splits key rows (k * limit) := by
  rw [← gathered_perm_iff hnodup hlimit]
  refine forall_congr' fun plan => ?_
  have hgather : gather (fun k skip => (((plan k).page rows skip limit).map f, rows.length)) limit =
      (Plan.gathered plan rows limit).map f := List.map_flatMap.symm
  rw [hgather]
  exact map_perm_iff (fun a => mem_of_mem_gathered) hnodup hinj

/-- A client that gathers pages fetched with one plan holds what is made of the ordered rows. -/
theorem gather_same (plan : Plan key) (rows : List α) (f : α → β) {limit : Nat} (hlimit : 0 < limit) :
    gather (fun _ skip => ((plan.page rows skip limit).map f, rows.length)) limit = (plan.order_by rows).map f := by
  rw [← gathered_same plan hlimit]
  exact List.map_flatMap.symm

/-- A page holds as many rows as are left, up to its limit. -/
theorem length_page (plan : Plan key) (rows : List α) (offset limit : Nat) :
    (plan.page rows offset limit).length = min limit (rows.length - offset) := by
  rw [Plan.page, List.length_take, List.length_drop, (plan.perm rows).length_eq]

/-- Whatever plan each page is fetched with, the pages together are as long as the table. -/
theorem length_gathered (plan : Nat → Plan key) (rows : List α) {limit : Nat} (hlimit : 0 < limit) :
    (Plan.gathered plan rows limit).length = rows.length := by
  let one : Plan key := .by_insertion key
  have hsame : (Plan.gathered plan rows limit).length = (Plan.gathered (fun _ => one) rows limit).length := by
    unfold Plan.gathered
    rw [List.length_flatMap, List.length_flatMap]
    simp only [length_page]
  rw [hsame, gathered_same one hlimit, (one.perm rows).length_eq]

/-- Together the pages are as long as the query. -/
theorem length_gather (plan : Nat → Plan key) (rows : List α) (f : α → β) {limit : Nat} (hlimit : 0 < limit) :
    (gather (fun k skip => (((plan k).page rows skip limit).map f, rows.length)) limit).length = rows.length := by
  have hgather : gather (fun k skip => (((plan k).page rows skip limit).map f, rows.length)) limit =
      (Plan.gathered plan rows limit).map f := List.map_flatMap.symm
  rw [hgather, List.length_map, length_gathered plan rows hlimit]

section first

variable {rows : List α} {limit : Nat}

/-- A page that is long enough holds all the rows. -/
theorem page_perm (plan : Plan key) (h : rows.length ≤ limit) : (plan.page rows 0 limit).Perm rows := by
  rw [← (plan.perm rows).length_eq] at h
  rw [Plan.page, List.drop_zero, List.take_of_length_le h]
  exact plan.perm rows

/-- A row that is not among the first ones comes after each of them. -/
theorem key_le_of_not_mem_page {plan : Plan key} {a b : α}
    (ha : a ∈ plan.page rows 0 limit) (hb : b ∈ rows) (hout : b ∉ plan.page rows 0 limit) : key a ≤ key b := by
  rw [Plan.page, List.drop_zero] at ha hout
  have hb' : b ∈ (plan.order_by rows).take limit ++ (plan.order_by rows).drop limit := by
    rw [List.take_append_drop]
    exact (plan.perm rows).mem_iff.mpr hb
  have hsorted := plan.sorted rows
  rw [← List.take_append_drop limit (plan.order_by rows), List.pairwise_append] at hsorted
  exact hsorted.2.2 a ha b ((List.mem_append.mp hb').resolve_left hout)

/-- The first page is sorted by the key. -/
theorem pairwise_page (plan : Plan key) :
    (plan.page rows 0 limit).Pairwise fun a b => key a ≤ key b :=
  (plan.sorted rows).sublist ((List.take_sublist _ _).trans (List.drop_sublist _ _))

/-- No row comes before those of a first page of one row. -/
theorem before_of_mem_first {plan : Plan key} {a : α} (h : a ∈ plan.page rows 0 1) : before key rows a = 0 := by
  rw [Plan.page, List.drop_zero] at h
  obtain ⟨i, hi, rfl⟩ := List.mem_take_iff_getElem.mp h
  obtain rfl : i = 0 := by omega
  rw [← before_perm (plan.perm rows)]
  exact Nat.le_zero.mp (before_le (plan.sorted rows) (by omega))

/-- Some plan puts a row first that no row comes before. -/
theorem exists_plan_first {a : α} (ha : a ∈ rows) (hbefore : before key rows a = 0) :
    ∃ plan : Plan key, plan.page rows 0 1 = [a] := by
  obtain ⟨left, right, rfl⟩ := List.append_of_mem ha
  let one : Plan key := .by_insertion key
  have hrest := one.perm (left ++ right)
  have hperm : (a :: one.order_by (left ++ right)).Perm (left ++ a :: right) :=
    (hrest.cons a).trans List.perm_middle.symm
  have hsorted : (a :: one.order_by (left ++ right)).Pairwise fun a b => key a ≤ key b := by
    refine List.pairwise_cons.mpr ⟨fun b hb => ?_, one.sorted _⟩
    have hmem := hperm.mem_iff.mp (List.mem_cons_of_mem a hb)
    have hnot := List.countP_eq_zero.mp hbefore b hmem
    exact not_lt.mp (by simpa using hnot)
  refine ⟨one.choosing _ hperm hsorted, ?_⟩
  rw [Plan.page, order_by_choosing one hperm hsorted]
  rfl

end first

end paging
