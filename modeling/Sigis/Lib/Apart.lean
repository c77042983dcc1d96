import Sigis.Lib.Overlap

open transition

namespace transactional

variable {σ ρ α ω ε ι : Type} {db : Database σ ρ α ω ε} {request : ι → ρ} {effective : ω → Prop} {s₀ : σ}
  {c c' d : Config σ ι α ω ε} {event : Event ι} {labels : List (Event ι)} {i j : ι}

/-- Writes that do not count leave the store as it was. -/
structure Idles (db : Database σ ρ α ω ε) (request : ι → ρ) (effective : ω → Prop) : Prop where
  unchanged : ∀ {i s answer writes t u}, db.prepare (request i) s = .ok (answer, writes) →
    ¬ effective writes → db.commit t writes = some u → u = t

variable [DecidableEq ι]

section apart

/-- Of the requests that took effect no two were between their reads and their commits at
the same time. -/
def Apart (db : Database σ ρ α ω ε) (request : ι → ρ) (effective : ω → Prop) (s₀ : σ)
    (labels : List (Event ι)) (c : Config σ ι α ω ε) : Prop :=
  ∀ i j, i ≠ j → c.TookEffect effective i → c.TookEffect effective j → ¬ Overlap db request s₀ labels c i j

theorem Apart.of_snoc (h : Apart db request effective s₀ (labels ++ [event]) c')
    (hstep : Step db request c event c') : Apart db request effective s₀ labels c := by
  intro i j hne hi hj hoverlap
  exact h i j hne (hstep.took_effect_mono hi) (hstep.took_effect_mono hj) (hoverlap.snoc hstep)

/-- Pending writes that count are still those the store asks for, unless their request
overlaps another one that took effect. -/
theorem current_or_overlaps
    (hidle : Idles db request effective)
    (hrun : Execution (Step db request) (Config.start s₀) labels c) {answer : α} {writes : ω}
    (hprepared : c.phase i = .prepared answer writes) :
    db.prepare (request i) c.store = .ok (answer, writes) ∨
      ∃ j, j ≠ i ∧ c.TookEffect effective j ∧ Overlap db request s₀ labels c i j := by
  induction hrun with
  | refl => cases hprepared
  | @snoc labels c event c' hrun hstep ih =>
    rcases hstep.prepared_cases hprepared with hold | ⟨rfl, hwaiting, hprepare⟩
    · rcases ih hold with hcurrent | ⟨j, hne, htook, hoverlap⟩
      · rcases hstep.store_cases with hstore | ⟨k, a, v, rfl, hk, hanswered, hcommit⟩
        · rw [hstore]
          exact Or.inl hcurrent
        · by_cases heffective : effective v
          · refine Or.inr ⟨k, ?_, ⟨a, v, hanswered, heffective⟩, ?_⟩
            · rintro rfl
              cases hprepared.symm.trans hanswered
            · exact ⟨labels, [.commit k], c, rfl, hrun, .single hstep, ⟨_, _, hold⟩, _, _, hk⟩
          · obtain ⟨s, hprepare⟩ := prepared_of_run hrun (Or.inl hk)
            rw [hidle.unchanged hprepare heffective hcommit]
            exact Or.inl hcurrent
      · exact Or.inr ⟨j, hne, hstep.took_effect_mono htook, hoverlap.snoc hstep⟩
    · rcases hstep.store_cases with hstore | ⟨k, a, v, hevent, -⟩
      · rw [hstore]
        exact Or.inl hprepare
      · cases hevent

/-- Requests that take effect apart from each other run one after the other, in the order
of their commits. -/
theorem exists_order_of_apart
    (hidle : Idles db request effective)
    (hrun : Execution (Step db request) (Config.start s₀) labels c)
    (hapart : Apart db request effective s₀ labels c) :
    ∃ order : List ι, (order.map Event.commit).Sublist labels ∧
      (∀ i, i ∈ order ↔ c.TookEffect effective i) ∧
      Execution (fun s i t => ∃ answer, db.run (request i) s = (.ok answer, t)) s₀ order c.store := by
  induction hrun with
  | refl => exact ⟨[], List.nil_sublist _, by simp [Config.TookEffect, Config.start], .refl⟩
  | @snoc labels c event c' hrun hstep ih =>
    obtain ⟨order, hsublist, hmem, hserved⟩ := ih (hapart.of_snoc hstep)
    have htaken := hstep
    have hlonger : (order.map Event.commit).Sublist (labels ++ [event]) :=
      hsublist.trans (List.sublist_append_left labels [event])
    have hsame (hevent : ∀ i, event ≠ .commit i) (i : ι) : i ∈ order ↔ c'.TookEffect effective i := by
      rw [hmem, htaken.took_effect_iff (hevent i)]
    cases hstep with
    | read_ok | read_error | refuse => exact ⟨order, hlonger, hsame (by simp), hserved⟩
    | @commit k answer writes t hprepared hcommit =>
      by_cases heffective : effective writes
      · have htook : Config.TookEffect ⟨t, Function.update c.phase k (.answered answer writes)⟩ effective k :=
          ⟨answer, writes, Function.update_self k _ c.phase, heffective⟩
        have hcurrent : db.prepare (request k) c.store = .ok (answer, writes) := by
          refine (current_or_overlaps hidle hrun hprepared).resolve_right ?_
          rintro ⟨j, hne, hj, hoverlap⟩
          exact hapart k j hne.symm htook (htaken.took_effect_mono hj) (hoverlap.snoc htaken)
        refine ⟨order ++ [k], ?_, ?_, hserved.snoc ⟨answer, ?_⟩⟩
        · rw [List.map_append]
          exact hsublist.append (List.Sublist.refl _)
        · intro i
          rw [List.mem_append, List.mem_singleton, hmem, took_effect_commit_iff hprepared]
          simp [heffective]
        · exact Database.run_eq_ok_iff.mpr ⟨writes, hcurrent, hcommit⟩
      · obtain ⟨s, hprepare⟩ := prepared_of_run hrun (Or.inl hprepared)
        refine ⟨order, hlonger, ?_, ?_⟩
        · intro i
          rw [hmem, took_effect_commit_iff hprepared]
          simp [heffective]
        · rw [hidle.unchanged hprepare heffective hcommit]
          exact hserved

end apart

section contested

variable {taken : ω → σ → Prop} {spoiled : σ → Prop}

/-- Writes that take a place in the store: of those prepared from one store the first to
commit takes the place of all, and writes committed to a place already taken spoil it. -/
structure Contested (db : Database σ ρ α ω ε) (request : ι → ρ) (effective : ω → Prop)
    (taken : ω → σ → Prop) (spoiled : σ → Prop) : Prop extends Idles db request effective where
  first : ∀ {i j s u answer answer' v w}, db.prepare (request i) s = .ok (answer, v) →
    db.prepare (request j) s = .ok (answer', w) → effective v → effective w → db.commit s v = some u →
      taken w u
  second : ∀ {s u w}, taken w s → effective w → db.commit s w = some u → spoiled u
  taken_stays : ∀ {s u v w}, taken w s → db.commit s v = some u → taken w u
  spoiled_stays : ∀ {s u v}, spoiled s → db.commit s v = some u → spoiled u

/-- The place of the pending writes of `i` is lost once `j` has taken effect. -/
structure LosesTo (effective : ω → Prop) (taken : ω → σ → Prop) (spoiled : σ → Prop) (i j : ι)
    (c : Config σ ι α ω ε) : Prop where
  read : c.phase i ≠ .waiting
  lost : ∀ answer writes, c.phase i = .prepared answer writes → effective writes →
    c.TookEffect effective j → taken writes c.store ∨ spoiled c.store

/-- A step keeps what a commit keeps. -/
theorem Step.store_stays {P : σ → Prop} (hstep : Step db request c event c')
    (hcommit : ∀ {s u writes}, P s → db.commit s writes = some u → P u) (h : P c.store) : P c'.store := by
  rcases hstep.store_cases with hstore | ⟨i, answer, writes, -, -, -, hcommitted⟩
  · rwa [hstore]
  · exact hcommit h hcommitted

theorem Step.read_stays (hstep : Step db request c event c') (h : c.phase i ≠ .waiting) :
    c'.phase i ≠ .waiting := by
  intro hwaiting
  cases hstep with
  | read_ok | read_error | commit | refuse =>
    rcases update_eq_iff.mp hwaiting with ⟨_, heq⟩ | ⟨_, hphase⟩
    · cases heq
    · exact h hphase

theorem Contested.stays (h : Contested db request effective taken spoiled) {writes : ω}
    (hstep : Step db request c event c') (hlost : taken writes c.store ∨ spoiled c.store) :
    taken writes c'.store ∨ spoiled c'.store :=
  hlost.imp (hstep.store_stays h.taken_stays) (hstep.store_stays h.spoiled_stays)

/-- Pending writes that count are those the store asks for, or their place is lost. -/
theorem Contested.current_or_lost (h : Contested db request effective taken spoiled)
    (hrun : Execution (Step db request) (Config.start s₀) labels c) {answer : α} {writes : ω}
    (hprepared : c.phase i = .prepared answer writes) (heffective : effective writes) :
    db.prepare (request i) c.store = .ok (answer, writes) ∨ taken writes c.store ∨ spoiled c.store := by
  induction hrun generalizing i answer writes with
  | refl => cases hprepared
  | @snoc labels c event c' hrun hstep ih =>
    rcases hstep.prepared_cases hprepared with hold | ⟨rfl, -, hprepare⟩
    · rcases ih hold heffective with hcurrent | hlost
      · rcases hstep.store_cases with hstore | ⟨k, a, v, rfl, hk, -, hcommit⟩
        · rw [hstore]
          exact Or.inl hcurrent
        · by_cases hcounts : effective v
          · refine Or.inr ?_
            rcases ih hk hcounts with hsame | htaken | hspoiled
            · exact Or.inl (h.first hsame hcurrent hcounts heffective hcommit)
            · exact Or.inr (h.second htaken hcounts hcommit)
            · exact Or.inr (h.spoiled_stays hspoiled hcommit)
          · obtain ⟨s, hprepare⟩ := prepared_of_run hrun (Or.inl hk)
            rw [h.unchanged hprepare hcounts hcommit]
            exact Or.inl hcurrent
      · exact Or.inr (h.stays hstep hlost)
    · rcases hstep.store_cases with hstore | ⟨k, a, v, hevent, -⟩
      · rw [hstore]
        exact Or.inl hprepare
      · cases hevent

/-- Of two requests that are both between their reads and their commits, the first to take
effect takes the place of the other. -/
theorem Contested.loses_to (h : Contested db request effective taken spoiled)
    (hbefore : Execution (Step db request) (Config.start s₀) labels d) {more : List (Event ι)}
    (hafter : Execution (Step db request) d more c)
    (hi : ∃ answer writes, d.phase i = .prepared answer writes)
    (hj : ∃ answer writes, d.phase j = .prepared answer writes) :
    LosesTo effective taken spoiled i j c := by
  induction hafter with
  | refl =>
    obtain ⟨_, _, hi⟩ := hi
    obtain ⟨_, _, hj⟩ := hj
    refine ⟨by simp [hi], ?_⟩
    rintro _ _ _ _ ⟨_, _, hanswered, -⟩
    cases hj.symm.trans hanswered
  | @snoc more c event c' hafter hstep ih =>
    have hrun := hbefore.trans hafter
    refine ⟨hstep.read_stays ih.read, ?_⟩
    intro answer writes hprepared heffective htook
    rcases hstep.prepared_cases hprepared with hold | ⟨-, hwaiting, -⟩
    · rcases hstep.took_effect_cases htook with htook | ⟨-, a, v, hk, hcounts, hcommit⟩
      · exact h.stays hstep (ih.lost answer writes hold heffective htook)
      · rcases h.current_or_lost hrun hk hcounts with hsame | htaken | hspoiled
        · rcases h.current_or_lost hrun hold heffective with hcurrent | hlost
          · exact Or.inl (h.first hsame hcurrent hcounts heffective hcommit)
          · exact h.stays hstep hlost
        · exact Or.inr (h.second htaken hcounts hcommit)
        · exact Or.inr (h.spoiled_stays hspoiled hcommit)
    · exact absurd hwaiting ih.read

/-- Two requests that overlap and both take effect spoil the store. -/
theorem Contested.spoiled_of_overlap (h : Contested db request effective taken spoiled)
    (hne : i ≠ j)
    (hoverlap : Overlap db request s₀ labels c i j) (hi : c.TookEffect effective i)
    (hj : c.TookEffect effective j) : spoiled c.store := by
  obtain ⟨before, after, d, -, hbefore, hafter, hdi, hdj⟩ := hoverlap
  induction hafter with
  | refl =>
    obtain ⟨_, _, hprepared⟩ := hdi
    obtain ⟨_, _, hanswered, -⟩ := hi
    cases hprepared.symm.trans hanswered
  | @snoc more c event c' hafter hstep ih =>
    rcases hstep.took_effect_cases hi with hi | ⟨hevent, a, w, hk, hcounts, hcommit⟩
    · rcases hstep.took_effect_cases hj with hj | ⟨-, a, w, hk, hcounts, hcommit⟩
      · exact hstep.store_stays h.spoiled_stays (ih hi hj)
      · rcases (h.loses_to hbefore hafter hdj hdi).lost a w hk hcounts hi with htaken | hspoiled
        · exact h.second htaken hcounts hcommit
        · exact h.spoiled_stays hspoiled hcommit
    · rcases hstep.took_effect_cases hj with hj | ⟨hevent', -⟩
      · rcases (h.loses_to hbefore hafter hdi hdj).lost a w hk hcounts hj with htaken | hspoiled
        · exact h.second htaken hcounts hcommit
        · exact h.spoiled_stays hspoiled hcommit
      · cases hevent.symm.trans hevent'
        exact absurd rfl hne

end contested

end transactional
