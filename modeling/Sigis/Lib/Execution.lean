import Mathlib.Data.List.Basic
import Mathlib.Order.Basic

namespace transition

/-- Labelled runs of a step relation: the labels taken since `init`, in order, and
the state they lead to. -/
inductive Execution {σ ℓ : Type} (step : σ → ℓ → σ → Prop) (init : σ) : List ℓ → σ → Prop
  | refl : Execution step init [] init
  | snoc {labels s l t} : Execution step init labels s → step s l t →
      Execution step init (labels ++ [l]) t

/-- The run with these labels, from `init` to `final`, takes the step `l` from `s` to
`t` on its way. -/
def Takes {σ ℓ : Type} (step : σ → ℓ → σ → Prop) (init : σ) (labels : List ℓ) (final : σ)
    (s : σ) (l : ℓ) (t : σ) : Prop :=
  ∃ before after, labels = before ++ l :: after ∧ Execution step init before s ∧ step s l t ∧
    Execution step t after final

variable {σ ℓ : Type} {step : σ → ℓ → σ → Prop} {init s t u v x : σ} {labels more : List ℓ} {l k : ℓ}

namespace Execution

theorem single (h : step s l t) : Execution step s [l] t := Execution.snoc .refl h

theorem trans (h : Execution step s labels t) (hmore : Execution step t more u) :
    Execution step s (labels ++ more) u := by
  induction hmore with
  | refl => simpa using h
  | snoc _ hstep ih =>
    rw [← List.append_assoc]
    exact ih.snoc hstep

theorem cons (hstep : step s l t) (h : Execution step t labels u) :
    Execution step s (l :: labels) u := (single hstep).trans h

/-- The run that takes no step stays. -/
theorem eq_of_nil (h : Execution step init [] s) : s = init := by
  generalize hlabels : ([] : List ℓ) = labels at h
  cases h with
  | refl => rfl
  | snoc => simp at hlabels

/-- A property every step keeps holds after every run from a state that has it. -/
theorem invariant (I : σ → Prop) (hstep : ∀ {s l t}, I s → step s l t → I t)
    (h : Execution step init labels s) (hinit : I init) : I s := by
  induction h with
  | refl => exact hinit
  | snoc _ hlast ih => exact hstep ih hlast

end Execution

namespace Takes

theorem taken (h : Takes step init labels u s l t) : step s l t := by
  obtain ⟨_, _, _, _, hstep, _⟩ := h
  exact hstep

theorem mem (h : Takes step init labels u s l t) : l ∈ labels := by
  obtain ⟨before, after, rfl, _⟩ := h
  simp

/-- The state a step is taken from is itself reached by a run. -/
theorem before (h : Takes step init labels u s l t) :
    ∃ earlier, earlier <+: labels ∧ Execution step init earlier s := by
  obtain ⟨before, after, rfl, hrun, _⟩ := h
  exact ⟨before, List.prefix_append _ _, hrun⟩

theorem after (h : Takes step init labels u s l t) : ∃ later, Execution step t later u := by
  obtain ⟨_, after, _, _, _, hrun⟩ := h
  exact ⟨after, hrun⟩

theorem snoc (h : Takes step init labels u s l t) (hlast : step u k v) :
    Takes step init (labels ++ [k]) v s l t := by
  obtain ⟨before, after, rfl, hrun, hstep, hrest⟩ := h
  exact ⟨before, after ++ [k], by simp, hrun, hstep, hrest.snoc hlast⟩

theorem trans (h : Takes step init labels u s l t) (hmore : Execution step u more v) :
    Takes step init (labels ++ more) v s l t := by
  obtain ⟨before, after, rfl, hrun, hstep, hrest⟩ := h
  exact ⟨before, after ++ more, by simp, hrun, hstep, hrest.trans hmore⟩

theorem last (hrun : Execution step init labels s) (hstep : step s l t) :
    Takes step init (labels ++ [l]) t s l t := ⟨labels, [], rfl, hrun, hstep, .refl⟩

/-- A step of a part of a run is a step of the run. -/
theorem within {first rest : List ℓ} (hfirst : Execution step init first s) (h : Takes step s labels t u l v)
    (hrest : Execution step t rest x) : Takes step init (first ++ labels ++ rest) x u l v := by
  obtain ⟨before, after, rfl, hrun, hstep, hmore⟩ := h
  exact ⟨first ++ before, after ++ rest, by simp, hfirst.trans hrun, hstep, hmore.trans hrest⟩

end Takes

namespace Execution

/-- Where every call is answered in every state, every list of calls has a run. -/
theorem exists_run {ι α : Type} {step : σ → ι × α → σ → Prop} {calls : List ι}
    (hstep : ∀ call ∈ calls, ∀ s, ∃ answer t, step s (call, answer) t) (s : σ) :
    ∃ answers t, answers.length = calls.length ∧ Execution step s (calls.zip answers) t := by
  induction calls generalizing s with
  | nil => exact ⟨[], s, rfl, .refl⟩
  | cons call calls ih =>
    obtain ⟨answer, t, hfirst⟩ := hstep call List.mem_cons_self s
    obtain ⟨answers, u, hlength, hrest⟩ := ih (fun c hc => hstep c (List.mem_cons_of_mem call hc)) t
    exact ⟨answer :: answers, u, by simp [hlength], .cons hfirst hrest⟩

/-- A run seen through a function of its states, where each step is seen as a step or not at all. -/
theorem exists_image {τ κ : Type} {step' : τ → κ → τ → Prop} (f : σ → τ)
    (hstep : ∀ {s l t}, step s l t → f t = f s ∨ ∃ k, step' (f s) k (f t)) (h : Execution step init labels s) :
    ∃ seen, Execution step' (f init) seen (f s) := by
  induction h with
  | refl => exact ⟨[], .refl⟩
  | snoc _ hlast ih =>
    obtain ⟨seen, hseen⟩ := ih
    rcases hstep hlast with hsame | ⟨k, hk⟩
    · exact ⟨seen, hsame ▸ hseen⟩
    · exact ⟨seen ++ [k], hseen.snoc hk⟩

/-- What holds after a run but not before it became true at one of its steps. -/
theorem exists_origin {P : σ → Prop} (h : Execution step init labels s)
    (hinit : ¬ P init) (hs : P s) :
    ∃ t l u, Takes step init labels s t l u ∧ ¬ P t ∧ P u := by
  induction h with
  | refl => exact absurd hs hinit
  | @snoc before t l u hrun hlast ih =>
    by_cases ht : P t
    · obtain ⟨x, k, y, htakes, hx, hy⟩ := ih ht
      exact ⟨x, k, y, htakes.snoc hlast, hx, hy⟩
    · exact ⟨t, l, u, .last hrun hlast, ht, hs⟩

/-- A value that no state had before the run was written by one of its steps, and no step since has changed it. -/
theorem exists_last {β : Type} (value : σ → Option β) (wrote : ℓ → β → Prop) {b : β}
    (hwrote : ∀ {s l t}, step s l t → value t = some b → value s ≠ some b → wrote l b)
    (h : Execution step init labels s) (hinit : value init ≠ some b) (hs : value s = some b) :
    ∃ before l after t u, labels = before ++ l :: after ∧ Execution step init before t ∧ step t l u ∧ wrote l b ∧
      value u = some b ∧ Execution (fun x k y => step x k y ∧ value y = some b) u after s := by
  induction h with
  | refl => exact absurd hs hinit
  | @snoc labels t k u hrun hlast ih =>
    by_cases ht : value t = some b
    · obtain ⟨before, l, after, x, y, rfl, hbefore, hstep, hl, hy, hafter⟩ := ih ht
      exact ⟨before, l, after ++ [k], x, y, by simp, hbefore, hstep, hl, hy, hafter.snoc ⟨hlast, hs⟩⟩
    · exact ⟨labels, k, [], t, u, rfl, hrun, hlast, hwrote hlast hs ht, hs, .refl⟩

/-- A run takes each of its labels, between the labels before it and those after it. -/
theorem exists_split {before after : List ℓ} (h : Execution step init (before ++ l :: after) s) :
    ∃ t u, Execution step init before t ∧ step t l u ∧ Execution step u after s := by
  generalize hlabels : before ++ l :: after = labels at h
  induction h generalizing after with
  | refl => simp at hlabels
  | @snoc labels s k u hrun hlast ih =>
    rcases after.eq_nil_or_concat with rfl | ⟨rest, k', rfl⟩
    · obtain ⟨rfl, hl⟩ := List.append_inj' hlabels rfl
      cases hl
      exact ⟨s, u, hrun, hlast, .refl⟩
    · rw [List.concat_eq_append, ← List.cons_append, ← List.append_assoc] at hlabels
      obtain ⟨rfl, hk⟩ := List.append_inj' hlabels rfl
      cases hk
      obtain ⟨t, v, hbefore, hstep, hafter⟩ := ih rfl
      rw [List.concat_eq_append]
      exact ⟨t, v, hbefore, hstep, hafter.snoc hlast⟩

/-- An invariant only has to be kept by the steps the run takes. -/
theorem invariant_of_takes (I : σ → Prop) (h : Execution step init labels s) (hinit : I init)
    (hstep : ∀ t l u, Takes step init labels s t l u → I t → I u) : I s := by
  induction h with
  | refl => exact hinit
  | @snoc before t l u hrun hlast ih =>
    refine hstep t l u (.last hrun hlast) (ih ?_)
    intro x k y htakes
    exact hstep x k y (htakes.snoc hlast)

/-- Such an invariant holds of every state the run takes a step from. -/
theorem invariant_before (I : σ → Prop) (h : Takes step init labels u s l t) (hinit : I init)
    (hstep : ∀ x k y, Takes step init labels u x k y → I x → I y) : I s := by
  obtain ⟨before, after, rfl, hrun, hlast, hrest⟩ := h
  refine hrun.invariant_of_takes I hinit fun x k y htakes => hstep x k y ?_
  exact htakes.trans (.cons hlast hrest)

/-- From `s` to `t` a version counts whether a value has changed. -/
def Counted {β : Type} (version : σ → ℕ) (value : σ → β) (s t : σ) : Prop :=
  (value t = value s ∧ version t = version s) ∨ (value t ≠ value s ∧ version t = version s + 1)

section version

variable {β : Type} {version : σ → ℕ} {value : σ → β}

/-- A version that counts the changes of a value never goes back over a run. -/
theorem version_le (h : Execution step s labels t)
    (hstep : ∀ u l v, Takes step s labels t u l v → Counted version value u v) : version s ≤ version t := by
  refine h.invariant_of_takes (fun u => version s ≤ version u) (Nat.le_refl _) fun u l v htakes hle => ?_
  rcases hstep u l v htakes with ⟨-, hversion⟩ | ⟨-, hversion⟩ <;> omega

/-- Such a version is the same at the two ends of a run exactly when no step has changed the value. -/
theorem version_eq_iff (h : Execution step s labels t)
    (hstep : ∀ u l v, Takes step s labels t u l v → Counted version value u v) :
    version t = version s ↔ ∀ u l v, Takes step s labels t u l v → value v = value u := by
  constructor
  · rintro heq u l v ⟨before, after, rfl, hbefore, hlast, hafter⟩
    have hfirst : version s ≤ version u := by
      refine hbefore.version_le fun x k y htakes => hstep x k y ?_
      exact htakes.trans (.cons hlast hafter)
    have hrest : version v ≤ version t := by
      refine hafter.version_le fun x k y htakes => hstep x k y ?_
      simpa using htakes.within (hbefore.snoc hlast) .refl
    rcases hstep u l v ⟨before, after, rfl, hbefore, hlast, hafter⟩ with ⟨hvalue, -⟩ | ⟨-, hversion⟩
    · exact hvalue
    · omega
  · intro hall
    refine h.invariant_of_takes (fun u => version u = version s) rfl fun u l v htakes heq => ?_
    rcases hstep u l v htakes with ⟨-, hversion⟩ | ⟨hvalue, -⟩
    · exact hversion.trans heq
    · exact absurd (hall u l v htakes) hvalue

end version

section clock

variable {τ : Type} [Preorder τ] {clock : ℓ → τ}

/-- Over a clock that never goes back, a property of the state and the time that time keeps
and that every step keeps holds after every run, at any time past its readings. -/
theorem invariant_at (I : τ → σ → Prop) (h : Execution step init labels s)
    (hclock : labels.Pairwise fun l k => clock l ≤ clock k) (hinit : ∀ now, I now init)
    (hlater : ∀ {now later s}, now ≤ later → I now s → I later s)
    (hstep : ∀ {s l t}, I (clock l) s → step s l t → I (clock l) t) {now : τ}
    (hnow : ∀ l ∈ labels, clock l ≤ now) : I now s := by
  induction h generalizing now with
  | refl => exact hinit now
  | @snoc before s l t hrun hlast ih =>
    obtain ⟨hbefore, -, hl⟩ := List.pairwise_append.mp hclock
    have hs : I (clock l) s := ih hbefore fun k hk => hl k hk l (List.mem_singleton.mpr rfl)
    exact hlater (hnow l (by simp)) (hstep hs hlast)

/-- Some time is past every reading of such a clock. -/
theorem exists_past [Nonempty τ] (hclock : labels.Pairwise fun l k => clock l ≤ clock k) :
    ∃ now, ∀ l ∈ labels, clock l ≤ now := by
  rcases labels.eq_nil_or_concat with rfl | ⟨before, l, rfl⟩
  · exact ⟨Classical.arbitrary τ, by simp⟩
  · obtain ⟨-, -, hl⟩ := List.pairwise_append.mp (List.concat_eq_append ▸ hclock)
    refine ⟨clock l, ?_⟩
    intro k hk
    rcases List.mem_append.mp (List.concat_eq_append ▸ hk) with hk | hk
    · exact hl k hk l (List.mem_singleton.mpr rfl)
    · rw [List.mem_singleton.mp hk]

end clock

end Execution

end transition
