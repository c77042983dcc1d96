import Mathlib.Data.List.Basic
import Mathlib.Data.List.Induction

namespace ring_buffer

variable {α : Type}

/-- `collections.deque(maxlen=...)`: at most so many items, the newest last. -/
structure Deque (α : Type) where
  maxlen : Nat
  items : List α
  bounded : items.length ≤ maxlen

def Deque.empty (maxlen : Nat) : Deque α := ⟨maxlen, [], Nat.zero_le maxlen⟩

/-- A full deque lets its oldest item go. -/
def Deque.append (d : Deque α) (a : α) : Deque α where
  maxlen := d.maxlen
  items := (d.items ++ [a]).drop (d.items.length + 1 - d.maxlen)
  bounded := by
    rw [List.length_drop, List.length_append, List.length_singleton]
    omega

@[simp] theorem Deque.maxlen_append (d : Deque α) (a : α) : (d.append a).maxlen = d.maxlen := rfl

theorem Deque.items_append (d : Deque α) (a : α) :
    (d.append a).items = (d.items ++ [a]).drop (d.items.length + 1 - d.maxlen) := rfl

/-- The last `n` items of a list, all of them when there are no more. -/
def last_items (n : Nat) (items : List α) : List α := items.drop (items.length - n)

theorem length_last_items (n : Nat) (items : List α) : (last_items n items).length = min n items.length := by
  rw [last_items, List.length_drop]
  omega

/-- Of the last items and one more, the last ones are the last of all. -/
theorem drop_last_items_append (n : Nat) (items : List α) (a : α) :
    (last_items n items ++ [a]).drop ((last_items n items).length + 1 - n) = last_items n (items ++ [a]) := by
  rw [length_last_items, last_items, last_items, List.length_append, List.length_singleton]
  rcases Nat.le_total items.length n with hfits | hfull
  · rw [Nat.sub_eq_zero_of_le hfits, List.drop_zero, Nat.min_eq_right hfits]
  · have hlong : items.length - n ≤ items.length := Nat.sub_le _ _
    rw [← List.drop_append_of_le_length hlong, List.drop_drop]
    congr 1
    omega

/-- A deque that starts empty holds the last items appended. -/
theorem items_foldl_append (maxlen : Nat) (items : List α) :
    (items.foldl Deque.append (Deque.empty maxlen)).items = last_items maxlen items := by
  have hmaxlen : ∀ items : List α, (items.foldl Deque.append (Deque.empty maxlen)).maxlen = maxlen := by
    intro items
    induction items using List.reverseRecOn with
    | nil => rfl
    | append_singleton items a ih => rw [List.foldl_append, List.foldl_cons, List.foldl_nil, Deque.maxlen_append, ih]
  induction items using List.reverseRecOn with
  | nil => exact List.drop_nil.symm
  | append_singleton items a ih =>
    rw [List.foldl_append, List.foldl_cons, List.foldl_nil, Deque.items_append, hmaxlen, ih, drop_last_items_append]

end ring_buffer
