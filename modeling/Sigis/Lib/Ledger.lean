import Mathlib.Data.List.Pairwise
import Sigis.Lib.Serial

open transition

namespace transactional

variable {σ ρ α ω ε ι β : Type} {db : Database σ ρ α ω ε} {request : ι → ρ} {s₀ : σ}
  {c c' : Config σ ι α ω ε} {event : Event ι} {labels : List (Event ι)} {i : ι}
  {view : σ → List β} {adds : ω → List β} {brings : ρ → List β} {answer : α} {writes : ω}

/-- A list the store shows, to which a commit adds what its writes bring. -/
structure Appends (db : Database σ ρ α ω ε) (view : σ → List β) (adds : ω → List β) : Prop where
  commit : ∀ {s t writes}, db.commit s writes = some t → view t = view s ++ adds writes

/-- What a request has added: nothing before it answers. -/
def Config.added (c : Config σ ι α ω ε) (adds : ω → List β) (i : ι) : List β :=
  match c.phase i with
  | .answered _ writes => adds writes
  | _ => []

theorem Config.added_of_answered (h : c.phase i = .answered answer writes) : c.added adds i = adds writes := by
  rw [Config.added, h]

variable [DecidableEq ι]

/-- A step leaves what the requests that have committed before it added. -/
theorem Step.added_of_answered (hstep : Step db request c event c') (h : c.phase i = .answered answer writes) :
    c'.added adds i = c.added adds i := by
  rw [Config.added_of_answered h, Config.added_of_answered (hstep.answered_mono h)]

theorem Step.flatMap_added (adds : ω → List β) (hstep : Step db request c event c')
    (hrun : Execution (Step db request) (Config.start s₀) labels c) :
    (committed labels).flatMap (c'.added adds) = (committed labels).flatMap (c.added adds) := by
  refine List.flatMap_congr fun i hi => ?_
  obtain ⟨answer, writes, h⟩ := (mem_committed_iff hrun).mp hi
  exact hstep.added_of_answered h

/-- Whatever the interleaving, the list is the one it began as, with what the requests that have
answered added, in the order of their commits. -/
theorem Appends.view_eq (h : Appends db view adds)
    (hrun : Execution (Step db request) (Config.start s₀) labels c) :
    view c.store = view s₀ ++ (committed labels).flatMap (c.added adds) := by
  induction hrun with
  | refl => simp [committed, Config.start]
  | @snoc labels c event c' hrun hstep ih =>
    have hkept := hstep.flatMap_added adds hrun
    cases hstep with
    | read_ok | read_error | refuse => rw [committed_snoc_of_ne (by simp), hkept, ih]
    | commit hprepared hcommit =>
      rw [committed_snoc_commit, List.flatMap_append, List.flatMap_singleton, hkept,
        Config.added_of_answered (Function.update_self ..), ← List.append_assoc, ← ih]
      exact h.commit hcommit

/-- A request commits at most once. -/
theorem nodup_committed (hrun : Execution (Step db request) (Config.start s₀) labels c) : (committed labels).Nodup := by
  induction hrun with
  | refl => simp [committed]
  | @snoc labels c event c' hrun hstep ih =>
    cases hstep with
    | read_ok | read_error | refuse => rwa [committed_snoc_of_ne (by simp)]
    | @commit i answer writes t hprepared =>
      rw [committed_snoc_commit, List.nodup_append]
      refine ⟨ih, List.nodup_singleton i, ?_⟩
      rintro j hj _ hi rfl
      obtain rfl := List.mem_singleton.mp hi
      obtain ⟨_, _, hanswered⟩ := (mem_committed_iff hrun).mp hj
      rw [hprepared] at hanswered
      cases hanswered

/-- What every commit keeps holds after every run. -/
theorem store_of_run {I : σ → Prop} (hcommit : ∀ {s t writes}, I s → db.commit s writes = some t → I t)
    (hrun : Execution (Step db request) c labels c') (hinit : I c.store) : I c'.store := by
  refine hrun.invariant (fun d => I d.store) ?_ hinit
  intro d event d' hd hstep
  rcases hstep.store_cases with hsame | ⟨_, _, _, -, -, -, hcommitted⟩
  · rwa [hsame]
  · exact hcommit hd hcommitted

/-- It held of the store that a request read. -/
theorem read_of_run {I : σ → Prop} (hcommit : ∀ {s t writes}, I s → db.commit s writes = some t → I t) (hinit : I s₀)
    (hrun : Execution (Step db request) (Config.start s₀) labels c)
    (h : c.phase i = .prepared answer writes ∨ c.phase i = .answered answer writes) :
    ∃ s, I s ∧ db.prepare (request i) s = .ok (answer, writes) := by
  induction hrun with
  | refl => simp [Config.start] at h
  | @snoc labels c event c' hrun hstep ih =>
    rcases h with h | h
    · rcases hstep.prepared_cases h with h | ⟨-, -, hprepare⟩
      · exact ih (Or.inl h)
      · exact ⟨c.store, store_of_run hcommit hrun hinit, hprepare⟩
    · rcases hstep.answered_cases h with h | ⟨-, h, -⟩
      · exact ih (Or.inr h)
      · exact ih (Or.inl h)

/-- What a request adds does not depend on the store it reads. -/
def Brings (db : Database σ ρ α ω ε) (adds : ω → List β) (brings : ρ → List β) : Prop :=
  ∀ {r s answer writes}, db.prepare r s = .ok (answer, writes) → adds writes = brings r

/-- What a request that has committed added is what it brings. -/
theorem Brings.added_eq (h : Brings db adds brings) (hrun : Execution (Step db request) (Config.start s₀) labels c)
    (hi : i ∈ committed labels) : c.added adds i = brings (request i) := by
  obtain ⟨answer, writes, hanswered⟩ := (mem_committed_iff hrun).mp hi
  obtain ⟨s, hprepare⟩ := prepared_of_run hrun (Or.inr hanswered)
  rw [Config.added_of_answered hanswered, h hprepare]

/-- Where it does not, the list tells which requests have committed, and in which order. -/
theorem Appends.view_eq_brings (h : Appends db view adds) (hbrings : Brings db adds brings)
    (hrun : Execution (Step db request) (Config.start s₀) labels c) :
    view c.store = view s₀ ++ (committed labels).flatMap fun i => brings (request i) := by
  rw [h.view_eq hrun]
  congr 1
  exact List.flatMap_congr fun i hi => hbrings.added_eq hrun hi

/-- Where the list repeats nothing, no two requests that have committed added the same. -/
theorem Appends.eq_of_added (h : Appends db view adds)
    (hrun : Execution (Step db request) (Config.start s₀) labels c) (hnodup : (view c.store).Nodup) {j : ι} {b : β}
    (hi : i ∈ committed labels) (hj : j ∈ committed labels) (hbi : b ∈ c.added adds i) (hbj : b ∈ c.added adds j) :
    i = j := by
  rw [h.view_eq hrun] at hnodup
  have hapart := (List.nodup_flatMap.mp (List.nodup_append.mp hnodup).2.1).2
  by_contra hne
  have : Std.Symm (Function.onFun List.Disjoint (c.added adds)) := ⟨fun _ _ hdisjoint _ hb ha => hdisjoint ha hb⟩
  exact hapart.forall hi hj hne hbi hbj

/-- What a request that has answered added is in the list. -/
theorem Appends.mem_of_answered (h : Appends db view adds)
    (hrun : Execution (Step db request) (Config.start s₀) labels c)
    (hanswered : c.phase i = .answered answer writes) {b : β} (hb : b ∈ adds writes) : b ∈ view c.store := by
  rw [h.view_eq hrun]
  refine List.mem_append_right _ (List.mem_flatMap.mpr ⟨i, (mem_committed_iff hrun).mpr ⟨_, _, hanswered⟩, ?_⟩)
  rwa [Config.added_of_answered hanswered]

/-- What is in the list was there at the beginning, or a request that has answered added it. -/
theorem Appends.mem_cases (h : Appends db view adds)
    (hrun : Execution (Step db request) (Config.start s₀) labels c) {b : β} (hb : b ∈ view c.store) :
    b ∈ view s₀ ∨ ∃ i answer writes, c.phase i = .answered answer writes ∧ b ∈ adds writes := by
  rw [h.view_eq hrun, List.mem_append, List.mem_flatMap] at hb
  refine hb.imp_right ?_
  rintro ⟨i, hi, hb⟩
  obtain ⟨answer, writes, hanswered⟩ := (mem_committed_iff hrun).mp hi
  rw [Config.added_of_answered hanswered] at hb
  exact ⟨i, answer, writes, hanswered, hb⟩

/-- The list only grows. -/
theorem Appends.view_grows (h : Appends db view adds) (hrun : Execution (Step db request) c labels c') :
    view c.store <+: view c'.store := by
  refine hrun.invariant (fun d => view c.store <+: view d.store) ?_ (List.prefix_refl _)
  intro d event d' hprefix hstep
  rcases hstep.store_cases with hstore | ⟨_, _, writes, -, -, -, hcommit⟩
  · rwa [hstore]
  · rw [h.commit hcommit]
    exact hprefix.trans (List.prefix_append _ _)

end transactional
