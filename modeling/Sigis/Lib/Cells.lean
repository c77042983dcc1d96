import Sigis.Lib.Overlap

open transition

namespace transactional

variable {σ ρ α ω ε ι β : Type} {db : Database σ ρ α ω ε} {request : ι → ρ} {s₀ s : σ}
  {c c' c'' : Config σ ι α ω ε} {event : Event ι} {i : ι} {before after : List (Event ι)}
  {shows : σ → Option β} {sets : ρ → Prop} {answers : ρ → α → Option β} {answer : α} {writes : ω} {b : β}

/-- A value the store may show. The writes of a request that does not set it leave it, and writes
committed while it is what their request read leave it as the request answers. -/
structure Cell (db : Database σ ρ α ω ε) (shows : σ → Option β) (sets : ρ → Prop) (answers : ρ → α → Option β) :
    Prop where
  read : ∀ {r s answer writes b}, db.prepare r s = .ok (answer, writes) → answers r answer = some b →
    (shows s).isSome
  unset : ∀ {r s t u answer writes b}, db.prepare r s = .ok (answer, writes) → ¬ sets r →
    db.commit t writes = some u → shows t = some b → shows u = some b
  current : ∀ {r s t u answer writes b}, db.prepare r s = .ok (answer, writes) → answers r answer = some b →
    shows t = shows s → db.commit t writes = some u → shows u = some b

variable [DecidableEq ι]

/-- A request that has raised does not answer any more. -/
theorem Step.failed_mono (hstep : Step db request c event c') {error : ε} (h : c.phase i = .failed error) :
    c'.phase i = .failed error := by
  cases hstep with
  | read_ok hphase => exact update_eq_iff.mpr (Or.inr ⟨by rintro rfl; simp [h] at hphase, h⟩)
  | read_error hphase => exact update_eq_iff.mpr (Or.inr ⟨by rintro rfl; simp [h] at hphase, h⟩)
  | commit hphase => exact update_eq_iff.mpr (Or.inr ⟨by rintro rfl; simp [h] at hphase, h⟩)
  | refuse hphase => exact update_eq_iff.mpr (Or.inr ⟨by rintro rfl; simp [h] at hphase, h⟩)

/-- Pending writes stay pending until their request commits them, or is refused. -/
theorem Step.pending_cases (hstep : Step db request c event c') (h : c.phase i = .prepared answer writes) :
    (event ≠ .commit i ∧ c'.phase i = .prepared answer writes) ∨
      (event = .commit i ∧ c'.phase i = .answered answer writes ∧ db.commit c.store writes = some c'.store) ∨
      ∃ error, c'.phase i = .failed error := by
  cases hstep with
  | read_ok hwaiting | read_error hwaiting =>
    exact Or.inl ⟨by simp, update_eq_iff.mpr (Or.inr ⟨by rintro rfl; simp [h] at hwaiting, h⟩)⟩
  | @commit j a w t hprepared hcommit =>
    by_cases hj : j = i
    · subst hj
      cases h.symm.trans hprepared
      exact Or.inr (Or.inl ⟨rfl, Function.update_self .., hcommit⟩)
    · exact Or.inl ⟨by simpa using hj, update_eq_iff.mpr (Or.inr ⟨fun heq => hj heq.symm, h⟩)⟩
  | @refuse j =>
    by_cases hj : j = i
    · subst hj
      exact Or.inr (Or.inr ⟨_, Function.update_self ..⟩)
    · exact Or.inl ⟨by simp, update_eq_iff.mpr (Or.inr ⟨fun heq => hj heq.symm, h⟩)⟩

/-- What a request answers is what it held after it read. -/
theorem answer_of_pending (hpending : c.phase i = .prepared answer writes)
    (hrun : Execution (Step db request) c after c') {answer' : α} {writes' : ω}
    (hanswered : c'.phase i = .answered answer' writes') : answer' = answer ∧ writes' = writes := by
  have hphase : c'.phase i = .prepared answer writes ∨ c'.phase i = .answered answer writes ∨
      ∃ error, c'.phase i = .failed error := by
    refine hrun.invariant (fun x => x.phase i = .prepared answer writes ∨ x.phase i = .answered answer writes ∨
      ∃ error, x.phase i = .failed error) ?_ (Or.inl hpending)
    rintro x event x' (hprepared | hdone | ⟨error, hfailed⟩) hstep
    · rcases hstep.pending_cases hprepared with ⟨-, hsame⟩ | ⟨-, hdone, -⟩ | hfailed
      · exact Or.inl hsame
      · exact Or.inr (Or.inl hdone)
      · exact Or.inr (Or.inr hfailed)
    · exact Or.inr (Or.inl (hstep.answered_mono hdone))
    · exact Or.inr (Or.inr ⟨error, hstep.failed_mono hfailed⟩)
  rw [hanswered] at hphase
  simpa using hphase

/-- A request that answers has computed its answer, and its writes, from the store it read. -/
theorem pending_of_read (hread : Step db request c (.read i) c') (hrun : Execution (Step db request) c' after c'')
    (hanswered : c''.phase i = .answered answer writes) :
    db.prepare (request i) c.store = .ok (answer, writes) ∧ c'.phase i = .prepared answer writes ∧
      c'.store = c.store := by
  cases hread with
  | @read_error _ error =>
    have hfailed : c''.phase i = .failed error :=
      hrun.invariant (fun x => x.phase i = .failed error) (fun hx hstep => hstep.failed_mono hx)
        (Function.update_self ..)
    cases hfailed.symm.trans hanswered
  | @read_ok _ a w hwaiting hprepare =>
    obtain ⟨rfl, rfl⟩ := answer_of_pending (Function.update_self ..) hrun hanswered
    exact ⟨hprepare, Function.update_self .., rfl⟩

/-- Where the request `i` stands with its cell: before its commit the cell is what it read,
afterwards what it answers. -/
def Config.Keeps (c : Config σ ι α ω ε) (shows : σ → Option β) (s : σ) (i : ι) (answer : α) (writes : ω) (b : β) :
    Prop :=
  (c.phase i = .prepared answer writes ∧ shows c.store = shows s) ∨
    (c.phase i = .answered answer writes ∧ shows c.store = some b) ∨ ∃ error, c.phase i = .failed error

/-- What is in the cell stays there in a step that is not the commit of a request that sets it. -/
theorem Cell.step (h : Cell db shows sets answers) (hstep : Step db request c event c')
    (hcomputed : ∀ j answer writes, c.phase j = .prepared answer writes →
      ∃ s, db.prepare (request j) s = .ok (answer, writes))
    (hothers : ∀ j, event = .commit j → ¬ sets (request j)) (hshows : shows c.store = some b) :
    shows c'.store = some b := by
  rcases hstep.store_cases with hstore | ⟨j, a, w, rfl, hj, -, hcommit⟩
  · rwa [hstore]
  · obtain ⟨s, hprepare⟩ := hcomputed j a w hj
    exact h.unset hprepare (hothers j rfl) hcommit hshows

/-- And over a run without such commits. -/
theorem Cell.stays (h : Cell db shows sets answers) (hrun : Execution (Step db request) (Config.start s₀) before c)
    (hafter : Execution (Step db request) c after c') (hothers : ∀ j, .commit j ∈ after → ¬ sets (request j))
    (hshows : shows c.store = some b) : shows c'.store = some b := by
  refine hafter.invariant_of_takes (fun x => shows x.store = some b) hshows ?_
  intro x event x' htakes hx
  obtain ⟨earlier, -, hearlier⟩ := htakes.before
  refine h.step htakes.taken (fun j a w hj => prepared_of_run (hrun.trans hearlier) (Or.inl hj)) ?_ hx
  rintro j rfl
  exact hothers j htakes.mem

theorem Cell.keeps_step (h : Cell db shows sets answers) (hstep : Step db request c event c')
    (hprepare : db.prepare (request i) s = .ok (answer, writes)) (hanswers : answers (request i) answer = some b)
    (hcomputed : ∀ j answer writes, c.phase j = .prepared answer writes →
      ∃ s, db.prepare (request j) s = .ok (answer, writes))
    (hothers : ∀ j, j ≠ i → event = .commit j → ¬ sets (request j)) (hkeeps : c.Keeps shows s i answer writes b) :
    c'.Keeps shows s i answer writes b := by
  have hcell (hother : event ≠ .commit i) {x : β} (hx : shows c.store = some x) : shows c'.store = some x := by
    refine h.step hstep hcomputed ?_ hx
    rintro j rfl
    exact hothers j (fun heq => hother (congrArg _ heq)) rfl
  rcases hkeeps with ⟨hphase, hshows⟩ | ⟨hphase, hshows⟩ | ⟨error, hphase⟩
  · rcases hstep.pending_cases hphase with ⟨hother, hsame⟩ | ⟨-, hdone, hcommit⟩ | hfailed
    · obtain ⟨x, hx⟩ := Option.isSome_iff_exists.mp (h.read hprepare hanswers)
      exact Or.inl ⟨hsame, (hcell hother (hshows.trans hx)).trans hx.symm⟩
    · exact Or.inr (Or.inl ⟨hdone, h.current hprepare hanswers hshows hcommit⟩)
    · exact Or.inr (Or.inr hfailed)
  · refine Or.inr (Or.inl ⟨hstep.answered_mono hphase, hcell ?_ hshows⟩)
    rintro rfl
    cases hstep with
    | commit hprepared => cases hprepared.symm.trans hphase
  · exact Or.inr (Or.inr ⟨error, hstep.failed_mono hphase⟩)

/-- What a request has answered for a cell is in it, unless another request that sets the cell has
committed since it read. -/
theorem Cell.shows_of_answered (h : Cell db shows sets answers)
    (hrun : Execution (Step db request) (Config.start s₀) (before ++ .read i :: after) c)
    (hanswered : c.phase i = .answered answer writes) (hanswers : answers (request i) answer = some b)
    (hothers : ∀ j, j ≠ i → .commit j ∈ after → ¬ sets (request j)) : shows c.store = some b := by
  obtain ⟨d, e, hbefore, hread, hafter⟩ := hrun.exists_split
  have hreached := hbefore.snoc hread
  obtain ⟨hprepare, hpending, hstore⟩ := pending_of_read hread hafter hanswered
  have hkeeps : c.Keeps shows d.store i answer writes b := by
    refine hafter.invariant_of_takes (fun x => x.Keeps shows d.store i answer writes b)
      (Or.inl ⟨hpending, congrArg shows hstore⟩) ?_
    intro x event x' htakes hx
    obtain ⟨earlier, -, hearlier⟩ := htakes.before
    refine h.keeps_step htakes.taken hprepare hanswers ?_ ?_ hx
    · exact fun j a' w' hj => prepared_of_run (hreached.trans hearlier) (Or.inl hj)
    · rintro j hne rfl
      exact hothers j hne htakes.mem
  rcases hkeeps with ⟨hphase, -⟩ | ⟨-, hshows⟩ | ⟨error, hphase⟩
  · cases hphase.symm.trans hanswered
  · exact hshows
  · cases hphase.symm.trans hanswered

end transactional
