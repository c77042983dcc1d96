import Mathlib.Data.List.Nodup
import Sigis.Lib.Interleaving

open transition

namespace transactional

variable {σ ρ α ω ε ι τ : Type} {db : Database σ ρ α ω ε} {request : ι → ρ} {effective : ω → Prop}
  {s₀ : σ} {c c' d : Config σ ι α ω ε} {event : Event ι} {labels : List (Event ι)} {i j : ι}

/-- The request holds writes that count, which it has not committed. -/
def Config.Holds (c : Config σ ι α ω ε) (effective : ω → Prop) (i : ι) : Prop :=
  ∃ answer writes, c.phase i = .prepared answer writes ∧ effective writes

/-- The request has committed writes that count. -/
def Config.TookEffect (c : Config σ ι α ω ε) (effective : ω → Prop) (i : ι) : Prop :=
  ∃ answer writes, c.phase i = .answered answer writes ∧ effective writes

variable [DecidableEq ι]

section steps

/-- Pending and committed writes were computed from some store. -/
theorem prepared_of_run (hrun : Execution (Step db request) (Config.start s₀) labels c) {answer : α}
    {writes : ω} (h : c.phase i = .prepared answer writes ∨ c.phase i = .answered answer writes) :
    ∃ s, db.prepare (request i) s = .ok (answer, writes) := by
  induction hrun with
  | refl => simp [Config.start] at h
  | snoc _ hstep ih =>
    rcases h with h | h
    · rcases hstep.prepared_cases h with h | ⟨_, _, hprepare⟩
      · exact ih (Or.inl h)
      · exact ⟨_, hprepare⟩
    · rcases hstep.answered_cases h with h | ⟨_, h, _⟩
      · exact ih (Or.inr h)
      · exact ih (Or.inl h)

/-- A request takes effect by committing what it held. -/
theorem Step.took_effect_cases (hstep : Step db request c event c') (h : c'.TookEffect effective i) :
    c.TookEffect effective i ∨ (event = .commit i ∧ ∃ answer writes,
      c.phase i = .prepared answer writes ∧ effective writes ∧
        db.commit c.store writes = some c'.store) := by
  obtain ⟨answer, writes, h, heffective⟩ := h
  rcases hstep.answered_cases h with h | ⟨hevent, h, hcommit⟩
  · exact Or.inl ⟨answer, writes, h, heffective⟩
  · exact Or.inr ⟨hevent, answer, writes, h, heffective, hcommit⟩

theorem Step.took_effect_mono (hstep : Step db request c event c') (h : c.TookEffect effective i) :
    c'.TookEffect effective i := by
  obtain ⟨answer, writes, h, heffective⟩ := h
  exact ⟨answer, writes, hstep.answered_mono h, heffective⟩

theorem Step.took_effect_iff (hstep : Step db request c event c') (hevent : event ≠ .commit i) :
    c'.TookEffect effective i ↔ c.TookEffect effective i :=
  ⟨fun h => (hstep.took_effect_cases h).resolve_right fun h => hevent h.1, hstep.took_effect_mono⟩

/-- A commit makes at most its own request take effect. -/
theorem took_effect_commit_iff {answer : α} {writes : ω} {t : σ} {k : ι}
    (hprepared : c.phase k = .prepared answer writes) :
    Config.TookEffect ⟨t, Function.update c.phase k (.answered answer writes)⟩ effective i ↔
      c.TookEffect effective i ∨ (i = k ∧ effective writes) := by
  by_cases hik : i = k
  · subst hik
    simp [Config.TookEffect, hprepared]
  · simp [Config.TookEffect, hik]

end steps

omit [DecidableEq ι] in
/-- A list without repetitions whose entries are all equal has at most one. -/
theorem length_le_one_of_nodup {order : List ι} (hnodup : order.Nodup)
    (h : ∀ i ∈ order, ∀ j ∈ order, i = j) : order.length ≤ 1 := by
  match order with
  | [] => exact Nat.zero_le 1
  | [i] => exact Nat.le_refl 1
  | i :: j :: rest =>
    have hij : i = j := h i (by simp) j (by simp)
    simp [hij] at hnodup

section order

/-- What a commit does to a part of the store: writes that count apply the effect of
their request to it as it then is, other writes leave it alone. -/
structure Effects (db : Database σ ρ α ω ε) (request : ι → ρ) (effective : ω → Prop) (view : σ → τ)
    (effect : ι → τ → τ) : Prop where
  applied : ∀ {i s answer writes t u}, db.prepare (request i) s = .ok (answer, writes) →
    effective writes → db.commit t writes = some u → view u = effect i (view t)
  idle : ∀ {i s answer writes t u}, db.prepare (request i) s = .ok (answer, writes) →
    ¬ effective writes → db.commit t writes = some u → view u = view t

variable {view : σ → τ} {effect : ι → τ → τ}

/-- Whatever the interleaving, the view of the store is what the requests that took
effect make of it, one after the other in the order of their commits. -/
theorem Effects.exists_order (heffects : Effects db request effective view effect)
    (hrun : Execution (Step db request) (Config.start s₀) labels c) :
    ∃ order : List ι, (order.map Event.commit).Sublist labels ∧ order.Nodup ∧
      (∀ i, i ∈ order ↔ c.TookEffect effective i) ∧
      view c.store = order.foldl (fun x i => effect i x) (view s₀) := by
  induction hrun with
  | refl => exact ⟨[], List.nil_sublist _, List.nodup_nil, by simp [Config.TookEffect, Config.start], rfl⟩
  | @snoc labels c event c' hrun hstep ih =>
    obtain ⟨order, hsublist, hnodup, hmem, hview⟩ := ih
    have hlonger : (order.map Event.commit).Sublist (labels ++ [event]) :=
      hsublist.trans (List.sublist_append_left labels [event])
    have hsame (hevent : ∀ i, event ≠ .commit i) (i : ι) : i ∈ order ↔ c'.TookEffect effective i := by
      rw [hmem, hstep.took_effect_iff (hevent i)]
    cases hstep with
    | read_ok | read_error | refuse => exact ⟨order, hlonger, hnodup, hsame (by simp), hview⟩
    | @commit k answer writes t hprepared hcommit =>
      obtain ⟨s, hprepare⟩ := prepared_of_run hrun (Or.inl hprepared)
      by_cases heffective : effective writes
      · have hk : k ∉ order := by
          rw [hmem]
          rintro ⟨_, _, hanswered, _⟩
          cases hprepared.symm.trans hanswered
        refine ⟨order ++ [k], ?_, hnodup.append (List.nodup_singleton k) (List.disjoint_singleton.mpr hk),
          ?_, ?_⟩
        · rw [List.map_append]
          exact hsublist.append (List.Sublist.refl _)
        · intro i
          rw [List.mem_append, List.mem_singleton, hmem, took_effect_commit_iff hprepared]
          simp [heffective]
        · rw [heffects.applied hprepare heffective hcommit, hview, List.foldl_append]
          rfl
      · refine ⟨order, hlonger, hnodup, ?_, ?_⟩
        · intro i
          rw [hmem, took_effect_commit_iff hprepared]
          simp [heffective]
        · rw [heffects.idle hprepare heffective hcommit, hview]

end order

section gate

/-- At some moment of the run both requests had read and neither had committed. -/
def Overlap (db : Database σ ρ α ω ε) (request : ι → ρ) (s₀ : σ) (labels : List (Event ι))
    (c : Config σ ι α ω ε) (i j : ι) : Prop :=
  ∃ before after d, labels = before ++ after ∧
    Execution (Step db request) (Config.start s₀) before d ∧ Execution (Step db request) d after c ∧
    (∃ answer writes, d.phase i = .prepared answer writes) ∧
    ∃ answer writes, d.phase j = .prepared answer writes

theorem Overlap.symm (h : Overlap db request s₀ labels c i j) : Overlap db request s₀ labels c j i := by
  obtain ⟨before, after, d, heq, hbefore, hafter, hi, hj⟩ := h
  exact ⟨before, after, d, heq, hbefore, hafter, hj, hi⟩

theorem Overlap.snoc (h : Overlap db request s₀ labels c i j) (hstep : Step db request c event c') :
    Overlap db request s₀ (labels ++ [event]) c' i j := by
  obtain ⟨before, after, d, rfl, hbefore, hafter, hi, hj⟩ := h
  exact ⟨before, after ++ [event], d, by simp, hbefore, hafter.snoc hstep, hi, hj⟩

/-- A gate: requests of a kind only prepare writes that count while it is open, their
commits close it, and no request opens it again. -/
structure Gate (db : Database σ ρ α ω ε) (request : ι → ρ) (effective : ω → Prop) (kind : ι → Prop)
    (closed : σ → Prop) : Prop where
  opened : ∀ {i s answer writes}, kind i → db.prepare (request i) s = .ok (answer, writes) →
    effective writes → ¬ closed s
  closes : ∀ {i s answer writes t u}, kind i → db.prepare (request i) s = .ok (answer, writes) →
    effective writes → db.commit t writes = some u → closed u
  stays : ∀ {i s answer writes t u}, db.prepare (request i) s = .ok (answer, writes) →
    closed t → db.commit t writes = some u → closed u

variable {kind : ι → Prop} {closed : σ → Prop}

/-- Once a request of the kind took effect the gate is closed. -/
theorem Gate.closed_of_took_effect (hgate : Gate db request effective kind closed)
    (hrun : Execution (Step db request) (Config.start s₀) labels c) (hkind : kind i)
    (h : c.TookEffect effective i) : closed c.store := by
  induction hrun with
  | refl =>
    obtain ⟨_, _, hanswered, _⟩ := h
    cases hanswered
  | snoc hrun hstep ih =>
    rcases hstep.took_effect_cases h with h | ⟨_, answer, writes, hprepared, heffective, hcommit⟩
    · rcases hstep.store_cases with hstore | ⟨k, answer, writes, _, hk, _, hcommit⟩
      · rw [hstore]
        exact ih h
      · obtain ⟨s, hprepare⟩ := prepared_of_run hrun (Or.inl hk)
        exact hgate.stays hprepare (ih h) hcommit
    · obtain ⟨s, hprepare⟩ := prepared_of_run hrun (Or.inl hprepared)
      exact hgate.closes hkind hprepare heffective hcommit

/-- A request that took effect overlaps every other one of its kind that took effect or
still may. -/
theorem Gate.overlap_of_holds (hgate : Gate db request effective kind closed)
    (hrun : Execution (Step db request) (Config.start s₀) labels c) (hi : kind i) (hj : kind j)
    (hne : i ≠ j) (htook : c.TookEffect effective i)
    (h : c.TookEffect effective j ∨ c.Holds effective j) : Overlap db request s₀ labels c i j := by
  induction hrun generalizing i j with
  | refl =>
    obtain ⟨_, _, hanswered, _⟩ := htook
    cases hanswered
  | @snoc labels c event c' hrun hstep ih =>
    rcases hstep.took_effect_cases htook with htook | ⟨hevent, answer, writes, hprepared, heffective, _⟩
    · rcases h with h | ⟨answer, writes, h, heffective⟩
      · rcases hstep.took_effect_cases h with h | ⟨_, answer, writes, h, heffective, _⟩
        · exact (ih hi hj hne htook (Or.inl h)).snoc hstep
        · exact (ih hi hj hne htook (Or.inr ⟨answer, writes, h, heffective⟩)).snoc hstep
      · rcases hstep.prepared_cases h with h | ⟨_, _, hprepare⟩
        · exact (ih hi hj hne htook (Or.inr ⟨answer, writes, h, heffective⟩)).snoc hstep
        · exact absurd (hgate.closed_of_took_effect hrun hi htook) (hgate.opened hj hprepare heffective)
    · rcases h with h | ⟨answer', writes', h, _⟩
      · rcases hstep.took_effect_cases h with h | ⟨hevent', _⟩
        · exact ((ih hj hi hne.symm h (Or.inr ⟨answer, writes, hprepared, heffective⟩)).symm).snoc hstep
        · cases hevent.symm.trans hevent'
          exact absurd rfl hne
      · rcases hstep.prepared_cases h with h | ⟨hevent', _⟩
        · exact ⟨labels, [event], c, rfl, hrun, .single hstep, ⟨_, _, hprepared⟩, _, _, h⟩
        · cases hevent.symm.trans hevent'

/-- Behind a gate closed from the start no request of the kind ever takes effect. -/
theorem Gate.not_took_effect_of_closed (hgate : Gate db request effective kind closed)
    (hrun : Execution (Step db request) (Config.start s₀) labels c) (hclosed : closed s₀) :
    closed c.store ∧ ∀ i, kind i → ¬ c.Holds effective i ∧ ¬ c.TookEffect effective i := by
  induction hrun with
  | refl =>
    refine ⟨hclosed, fun i _ => ⟨?_, ?_⟩⟩
    · rintro ⟨_, _, hprepared, _⟩
      cases hprepared
    · rintro ⟨_, _, hanswered, _⟩
      cases hanswered
  | @snoc labels c event c' hrun hstep ih =>
    obtain ⟨hstill, hnone⟩ := ih
    refine ⟨?_, fun i hi => ⟨?_, ?_⟩⟩
    · rcases hstep.store_cases with hstore | ⟨k, answer, writes, _, hk, _, hcommit⟩
      · rwa [hstore]
      · obtain ⟨s, hprepare⟩ := prepared_of_run hrun (Or.inl hk)
        exact hgate.stays hprepare hstill hcommit
    · rintro ⟨answer, writes, h, heffective⟩
      rcases hstep.prepared_cases h with h | ⟨_, _, hprepare⟩
      · exact (hnone i hi).1 ⟨answer, writes, h, heffective⟩
      · exact hgate.opened hi hprepare heffective hstill
    · intro h
      rcases hstep.took_effect_cases h with h | ⟨_, answer, writes, h, heffective, _⟩
      · exact (hnone i hi).2 h
      · exact (hnone i hi).1 ⟨answer, writes, h, heffective⟩

omit [DecidableEq ι] in
/-- A gate on what the effects of commits make of a view. -/
theorem Effects.gate {view : σ → τ} {effect : ι → τ → τ} {closed : τ → Prop}
    (heffects : Effects db request effective view effect)
    (hopened : ∀ {i s answer writes}, kind i → db.prepare (request i) s = .ok (answer, writes) →
      effective writes → ¬ closed (view s))
    (hcloses : ∀ {i x}, kind i → closed (effect i x))
    (hstays : ∀ {i x}, closed x → closed (effect i x)) :
    Gate db request effective kind (fun s => closed (view s)) where
  opened := hopened
  closes := by
    intro i s answer writes t u hi hprepare heffective hcommit
    rw [heffects.applied hprepare heffective hcommit]
    exact hcloses hi
  stays := by
    intro i s answer writes t u hprepare hclosed hcommit
    by_cases heffective : effective writes
    · rw [heffects.applied hprepare heffective hcommit]
      exact hstays hclosed
    · rwa [heffects.idle hprepare heffective hcommit]

end gate

end transactional
