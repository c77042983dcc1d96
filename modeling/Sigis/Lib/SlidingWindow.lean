import Mathlib.Algebra.Order.Group.Defs
import Mathlib.Algebra.Order.Sub.Basic
import Mathlib.Data.List.Basic
import Mathlib.Data.List.Induction

namespace sliding_window

section log

variable {α κ T : Type} [DecidableEq κ] [LinearOrder T] [AddCommGroup T]
variable (key : α → κ) (time : α → T) (window : T) (limit : Nat)

/-- The calls of a key in the window that ends at `t`, which leaves its first instant out. -/
def within (log : List α) (k : κ) (t : T) : List α :=
  log.filter fun call => key call = k ∧ t - window < time call ∧ time call ≤ t

/-- The limiter that forgets nothing: fewer calls of the key than the limit were admitted in the
window that ends with the call. -/
def Admits (log : List α) (call : α) : Prop := (within key time window log (key call) (time call)).length < limit

instance (log : List α) (call : α) : Decidable (Admits key time window limit log call) :=
  inferInstanceAs (Decidable ((within key time window log (key call) (time call)).length < limit))

/-- The log after a call: with it when it is admitted. -/
def record (log : List α) (call : α) : List α :=
  if Admits key time window limit log call then log ++ [call] else log

/-- The calls admitted of a list of calls, after those of a log. -/
def admitted (log calls : List α) : List α := calls.foldl (record key time window limit) log

variable {key time window limit} {log calls : List α} {call : α} {k : κ} {t : T}

/-- The calls in the window are those of both parts of the log. -/
theorem within_append (log more : List α) :
    within key time window (log ++ more) k t = within key time window log k t ++ within key time window more k t :=
  List.filter_append ..

theorem record_of_admits (h : Admits key time window limit log call) :
    record key time window limit log call = log ++ [call] := if_pos h

theorem record_of_not_admits (h : ¬ Admits key time window limit log call) :
    record key time window limit log call = log := if_neg h

@[simp]
theorem admitted_nil : admitted key time window limit log [] = log := rfl

/-- Calls are admitted one after the other. -/
theorem admitted_append (more : List α) : admitted key time window limit log (calls ++ more) =
    admitted key time window limit (admitted key time window limit log calls) more := List.foldl_append

theorem admitted_cons : admitted key time window limit log (call :: calls) =
    admitted key time window limit (record key time window limit log call) calls := rfl

theorem admitted_snoc : admitted key time window limit log (calls ++ [call]) =
    record key time window limit (admitted key time window limit log calls) call := by
  rw [admitted_append, admitted_cons, admitted_nil]

/-- What is admitted was asked for. -/
theorem mem_of_mem_admitted {a : α} (h : a ∈ admitted key time window limit [] calls) : a ∈ calls := by
  induction calls using List.reverseRecOn with
  | nil => exact h
  | append_singleton calls call ih =>
    rw [admitted_snoc, record] at h
    split at h
    · exact List.mem_append.mpr ((List.mem_append.mp h).imp ih id)
    · exact List.mem_append_left _ (ih h)

/-- Only the calls of the key are looked at. -/
theorem within_filter :
    within key time window (log.filter fun a => key a = k) k t = within key time window log k t := by
  rw [within, within, List.filter_filter]
  exact List.filter_congr fun a _ => by grind

/-- Only the calls of the same key count. -/
theorem admits_filter : Admits key time window limit (log.filter fun a => key a = key call) call ↔
    Admits key time window limit log call := by
  rw [Admits, Admits, within_filter]

/-- Logs with the same calls of the key admit the same. -/
theorem admits_congr {more : List α}
    (h : (log.filter fun a => key a = key call) = more.filter fun a => key a = key call) :
    Admits key time window limit log call ↔ Admits key time window limit more call := by
  rw [← admits_filter, h, admits_filter]

/-- A call of the key is recorded as if no other key had been called. -/
theorem filter_record_self : (record key time window limit log call).filter (fun a => key a = key call) =
    record key time window limit (log.filter fun a => key a = key call) call := by
  by_cases h : Admits key time window limit log call
  · rw [record_of_admits h, record_of_admits (admits_filter.mpr h), List.filter_append]
    simp
  · rw [record_of_not_admits h, record_of_not_admits (mt admits_filter.mp h)]

/-- A call of another key leaves the calls of the key. -/
theorem filter_record_of_ne (hk : key call ≠ k) : (record key time window limit log call).filter (fun a => key a = k) =
    log.filter fun a => key a = k := by
  by_cases h : Admits key time window limit log call
  · rw [record_of_admits h, List.filter_append]
    simp [hk]
  · rw [record_of_not_admits h]

/-- The calls of a key are admitted as if no other key were called. -/
theorem filter_admitted : (admitted key time window limit log calls).filter (fun a => key a = k) =
    admitted key time window limit (log.filter fun a => key a = k) (calls.filter fun a => key a = k) := by
  induction calls generalizing log with
  | nil => rfl
  | cons call calls ih =>
    rw [admitted_cons, ih]
    by_cases hk : key call = k
    · subst hk
      rw [filter_record_self, List.filter_cons_of_pos (by simp), admitted_cons]
    · rw [filter_record_of_ne hk, List.filter_cons_of_neg (by simpa using hk)]

section clock

variable [IsOrderedAddMonoid T] {u : T}

/-- Of calls made by `t`, a window that ends later holds no more than the window that ends at `t`. -/
theorem length_within_le (htime : ∀ a ∈ log, time a ≤ t) (htu : t ≤ u) :
    (within key time window log k u).length ≤ (within key time window log k t).length := by
  rw [within, within, ← List.countP_eq_length_filter, ← List.countP_eq_length_filter]
  refine List.countP_mono_left fun a ha => ?_
  simp only [decide_eq_true_eq]
  rintro ⟨hk, hlower, -⟩
  exact ⟨hk, (sub_le_sub_right htu window).trans_lt hlower, htime a ha⟩

/-- No window holds more calls of a key than the limit. -/
def Bounded (key : α → κ) (time : α → T) (window : T) (limit : Nat) (log : List α) : Prop :=
  ∀ k t, (within key time window log k t).length ≤ limit

/-- The bound holds after one more call. -/
theorem Bounded.record (hbounded : Bounded key time window limit log) (htime : ∀ a ∈ log, time a ≤ time call) :
    Bounded key time window limit (record key time window limit log call) := by
  intro k t
  by_cases h : Admits key time window limit log call
  · rw [record_of_admits h, within_append, List.length_append]
    by_cases hin : key call = k ∧ t - window < time call ∧ time call ≤ t
    · -- the window holds the new call, so its other calls were in the window when that came
      have hone : (within key time window [call] k t).length = 1 := by simp [within, hin]
      have hbefore : (within key time window log k t).length ≤ (within key time window log k (time call)).length :=
        length_within_le htime hin.2.2
      have hfew : (within key time window log k (time call)).length < limit := hin.1 ▸ h
      omega
    · have hnone : within key time window [call] k t = [] := by simpa [within] using hin
      rw [hnone]
      exact hbounded k t
  · rw [record_of_not_admits h]
    exact hbounded k t

/-- Of calls made one after the other, no window holds more admitted ones of a key than the limit. -/
theorem bounded_admitted (hclock : calls.Pairwise fun a b => time a ≤ time b) :
    Bounded key time window limit (admitted key time window limit [] calls) := by
  induction calls using List.reverseRecOn with
  | nil => exact fun _ _ => Nat.zero_le _
  | append_singleton calls call ih =>
    obtain ⟨hcalls, -, hlast⟩ := List.pairwise_append.mp hclock
    rw [admitted_snoc]
    exact (ih hcalls).record fun a ha => hlast a (mem_of_mem_admitted ha) call List.mem_cons_self

end clock

end log

section bucket

variable {T : Type} [LinearOrder T] [AddCommGroup T] (window : T)

/-- What a bucket keeps of its times at `t`. -/
def recent (times : List T) (t : T) : List T := times.filter (t - window < ·)

/-- From `t` on, the bucket and the times differ only in what has left the window. -/
def Shows (bucket times : List T) (t : T) : Prop := ∀ u, t ≤ u → recent window bucket u = recent window times u

variable {window} {bucket times : List T} {t u : T}

theorem Shows.nil : Shows window [] [] t := fun _ _ => rfl

/-- A bucket that shows the window shows every later one. -/
theorem Shows.later (h : Shows window bucket times t) (htu : t ≤ u) : Shows window bucket times u :=
  fun v huv => h v (htu.trans huv)

/-- So it does with one more reading at its end. -/
theorem Shows.append (h : Shows window bucket times t) (x : T) : Shows window (bucket ++ [x]) (times ++ [x]) t := by
  intro u htu
  have hbefore := h u htu
  rw [recent, recent] at hbefore ⊢
  rw [List.filter_append, List.filter_append, hbefore]

/-- A bucket may be pruned at any time from `t` on. -/
theorem Shows.recent [IsOrderedAddMonoid T] (h : Shows window bucket times t) :
    Shows window (recent window bucket t) times t := by
  intro u htu
  rw [← h u htu, sliding_window.recent, sliding_window.recent, sliding_window.recent, List.filter_filter]
  refine List.filter_congr fun x _ => ?_
  have hdrop : u - window < x → t - window < x := (sub_le_sub_right htu window).trans_lt
  grind

end bucket

/-- The times of the calls of a key. -/
def times_of {α κ T : Type} [DecidableEq κ] (key : α → κ) (time : α → T) (log : List α) (k : κ) : List T :=
  (log.filter fun a => key a = k).map time

section times

variable {α κ T : Type} [DecidableEq κ] {key : α → κ} {time : α → T} {log : List α} {call : α} {k : κ}

/-- A call adds its time to those of its key. -/
theorem times_of_append_self : times_of key time (log ++ [call]) (key call) =
    times_of key time log (key call) ++ [time call] := by
  simp [times_of]

/-- A call adds nothing to the times of other keys. -/
theorem times_of_append_of_ne (h : key call ≠ k) :
    times_of key time (log ++ [call]) k = times_of key time log k := by
  simp [times_of, h]

/-- After the calls of a log, the recent times of a key are its calls in the window. -/
theorem length_recent_times_of [LinearOrder T] [AddCommGroup T] {window t : T} (htime : ∀ a ∈ log, time a ≤ t) :
    (recent window (times_of key time log k) t).length = (within key time window log k t).length := by
  rw [recent, times_of, within, List.filter_map, List.length_map, List.filter_filter]
  congr 1
  refine List.filter_congr fun a ha => ?_
  have hle := htime a ha
  grind

end times

end sliding_window
