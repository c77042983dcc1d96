import Mathlib.Data.List.Count
import Mathlib.Data.List.MinMax
import Mathlib.Data.List.Sort

namespace order_statistic

variable {α : Type} [LinearOrder α] {l : List α} {i : Nat} {x y : α}

/-- How many of the values are no larger than `x`. -/
def at_most (l : List α) (x : α) : Nat := l.countP (· ≤ x)

theorem at_most_perm {l' : List α} (h : l.Perm l') : at_most l x = at_most l' x := h.countP_eq _

theorem at_most_mono (h : x ≤ y) : at_most l x ≤ at_most l y := by
  refine List.countP_mono_left fun a _ ha => ?_
  rw [decide_eq_true_eq] at ha ⊢
  exact ha.trans h

/-- The smallest value is above `x` when no value is at most `x`. -/
theorem at_most_eq_zero_of_lt {a : α} (h : (a :: l).Pairwise (· ≤ ·)) (ha : x < a) : at_most (a :: l) x = 0 := by
  refine List.countP_eq_zero.mpr fun b hb => ?_
  have hle : a ≤ b := by
    rcases List.mem_cons.mp hb with rfl | hb
    · exact le_rfl
    · exact (List.pairwise_cons.mp h).1 b hb
  simpa using ha.trans_le hle

/-- In ascending order the values that are at most `x` come first. -/
theorem lt_at_most_iff (h : l.Pairwise (· ≤ ·)) (hi : i < l.length) : i < at_most l x ↔ l[i] ≤ x := by
  induction l generalizing i with
  | nil => exact absurd hi (Nat.not_lt_zero i)
  | cons a l ih =>
    have hrest := (List.pairwise_cons.mp h).2
    rcases le_or_gt a x with ha | ha
    · have hcount : at_most (a :: l) x = at_most l x + 1 := List.countP_cons_of_pos (by simpa using ha)
      cases i with
      | zero => simpa [hcount] using ha
      | succ i =>
        rw [hcount, Nat.succ_lt_succ_iff, List.getElem_cons_succ]
        exact ih hrest (Nat.lt_of_succ_lt_succ hi)
    · have hmem : (a :: l)[i] ∈ a :: l := List.getElem_mem hi
      have hzero := at_most_eq_zero_of_lt h ha
      rw [hzero]
      refine iff_of_false (Nat.not_lt_zero i) fun hle => ?_
      exact List.countP_eq_zero.mp hzero _ hmem (by simpa using hle)

/-- The value at a place of the ascending order is no smaller than those that stand up to there. -/
theorem lt_at_most_getElem (h : l.Pairwise (· ≤ ·)) (hi : i < l.length) : i < at_most l l[i] :=
  (lt_at_most_iff h hi).mpr le_rfl

/-- The value is no smaller than the share `p / q` of the values. -/
def Covers (p q : Nat) (l : List α) (x : α) : Prop := p * l.length ≤ q * at_most l x

instance (p q : Nat) (l : List α) (x : α) : Decidable (Covers p q l x) := inferInstanceAs (Decidable (_ ≤ _))

theorem covers_perm {p q : Nat} {l' : List α} (h : l.Perm l') : Covers p q l x ↔ Covers p q l' x := by
  rw [Covers, Covers, h.length_eq, at_most_perm h]

/-- The value whose rank is the share rounded down covers it when nothing is lost in the rounding, or
when the next value ties with it: then no value has exactly that rank. -/
theorem covers_getElem_iff {p q rank : Nat} (h : l.Pairwise (· ≤ ·)) (hq : 0 < q) (hrank : p * l.length / q = rank)
    (hi : rank - 1 < l.length) :
    Covers p q l l[rank - 1] ↔ q ∣ p * l.length ∨ ∀ x ∈ l, at_most l x ≠ rank := by
  have hcount := lt_at_most_getElem h hi
  have hdown : q * rank ≤ p * l.length := hrank ▸ Nat.mul_div_le _ _
  have hup : p * l.length < q * (rank + 1) := hrank ▸ Nat.lt_mul_div_succ _ hq
  constructor
  · intro hcovers
    by_contra hneither
    push Not at hneither
    obtain ⟨hdvd, x, hx, hexact⟩ := hneither
    have hpos : 0 < at_most l x := List.countP_pos_iff.mpr ⟨x, hx, by simp⟩
    have hle : l[rank - 1] ≤ x := (lt_at_most_iff h hi).mp (by omega)
    have hsame : p * l.length ≤ q * rank := hcovers.trans (Nat.mul_le_mul_left q ((at_most_mono hle).trans hexact.le))
    exact hdvd ⟨rank, hsame.antisymm hdown⟩
  · rintro (⟨share, hexact⟩ | htied)
    · have hshare : share = rank := by rw [← hrank, hexact, Nat.mul_div_cancel_left share hq]
      rw [Covers, hexact, hshare]
      exact Nat.mul_le_mul_left q (by omega)
    · have hne := htied _ (List.getElem_mem hi)
      have hnext : rank + 1 ≤ at_most l l[rank - 1] := by omega
      exact hup.le.trans (Nat.mul_le_mul_left q hnext)

section argmin

variable {ι : Type} {f : ι → α} {keys : List ι} {k m : ι}

/-- A single place of the least value is found wherever it stands. -/
theorem argmin_eq_some_of_forall_lt (hm : m ∈ keys) (h : ∀ k ∈ keys, k ≠ m → f m < f k) :
    keys.argmin f = some m := by
  cases hargmin : keys.argmin f with
  | none => simp [List.argmin_eq_none.mp hargmin] at hm
  | some found =>
    rw [Option.some.injEq]
    by_contra hne
    have hle := List.le_of_mem_argmin hm hargmin
    exact (h found (List.argmin_mem hargmin) hne).not_ge hle

/-- Of several places of the least value the first one is found. -/
theorem argmin_cons_of_forall_le (h : ∀ m ∈ keys, f k ≤ f m) : (k :: keys).argmin f = some k := by
  rw [List.argmin_cons]
  cases hargmin : keys.argmin f with
  | none => rfl
  | some m => exact if_neg (h m (List.argmin_mem hargmin)).not_gt

end argmin

end order_statistic
