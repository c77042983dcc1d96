import Mathlib.Logic.Function.Basic
import Sigis.Lib.Execution

open transition

namespace transactional

/-- A database as its requests see it: what a request computes from the store it
reads (an answer and pending writes, or an error), and what applying pending writes to
a store gives, if no constraint refuses them. -/
structure Database (σ ρ α ω ε : Type) where
  prepare : ρ → σ → Except ε (α × ω)
  commit : σ → ω → Option σ
  refused : ε

variable {σ ρ α ω ε ι : Type} {db : Database σ ρ α ω ε}

section run

/-- A request run in a transaction of its own: committed when it returns, rolled back
when it raises. -/
def Database.run (db : Database σ ρ α ω ε) (r : ρ) (s : σ) : Except ε α × σ :=
  match db.prepare r s with
  | .error error => (.error error, s)
  | .ok (answer, writes) =>
    match db.commit s writes with
    | none => (.error db.refused, s)
    | some t => (.ok answer, t)

variable {r : ρ} {s t : σ} {answer : α} {error : ε}

theorem Database.run_eq_ok_iff :
    db.run r s = (.ok answer, t) ↔
      ∃ writes, db.prepare r s = .ok (answer, writes) ∧ db.commit s writes = some t := by
  unfold Database.run
  constructor
  · intro h
    split at h
    · simp at h
    · next writes hprepare =>
      split at h
      · simp at h
      · next hcommit =>
        simp only [Prod.mk.injEq, Except.ok.injEq] at h
        obtain ⟨rfl, rfl⟩ := h
        exact ⟨writes, hprepare, hcommit⟩
  · rintro ⟨writes, hprepare, hcommit⟩
    simp only [hprepare, hcommit]

/-- A request that raises leaves the store as it was. -/
theorem Database.store_of_run_eq_error (h : db.run r s = (.error error, t)) : t = s := by
  unfold Database.run at h
  split at h
  · exact (Prod.mk.inj h).2.symm
  · split at h
    · exact (Prod.mk.inj h).2.symm
    · simp at h

/-- A request run alone leaves the store as it was, or what its commit made of it. -/
theorem Database.run_store_cases (db : Database σ ρ α ω ε) (r : ρ) (s : σ) : (db.run r s).2 = s ∨
    ∃ answer writes, db.prepare r s = .ok (answer, writes) ∧ db.commit s writes = some (db.run r s).2 := by
  cases hrun : db.run r s with
  | mk result t =>
    cases result with
    | error e => exact Or.inl (Database.store_of_run_eq_error hrun)
    | ok answer =>
      obtain ⟨writes, hprepare, hcommit⟩ := Database.run_eq_ok_iff.mp hrun
      exact Or.inr ⟨answer, writes, hprepare, hcommit⟩

theorem Database.run_error_cases (h : (db.run r s).1 = .error error) :
    db.prepare r s = .error error ∨ error = db.refused := by
  unfold Database.run at h
  split at h
  · next hprepare => exact Or.inl (hprepare.trans (congrArg Except.error (Except.error.inj h)))
  · split at h
    · exact Or.inr (Except.error.inj h).symm
    · cases h

end run

/-- Where a request stands: it has not read yet, it holds its answer and its pending
writes, it has committed them, or it has raised. -/
inductive Phase (α ω ε : Type)
  | waiting
  | prepared (answer : α) (writes : ω)
  | answered (answer : α) (writes : ω)
  | failed (error : ε)

structure Config (σ ι α ω ε : Type) where
  store : σ
  phase : ι → Phase α ω ε

inductive Event (ι : Type)
  | read (i : ι)
  | commit (i : ι)
  | refuse (i : ι)

variable [DecidableEq ι] {request : ι → ρ}

/-- One step of a family of requests running side by side: some request reads the
committed store and computes, or applies what it computed to the store as it then is. -/
inductive Step (db : Database σ ρ α ω ε) (request : ι → ρ) :
    Config σ ι α ω ε → Event ι → Config σ ι α ω ε → Prop
  | read_ok {c i answer writes} : c.phase i = .waiting →
      db.prepare (request i) c.store = .ok (answer, writes) →
      Step db request c (.read i)
        ⟨c.store, Function.update c.phase i (.prepared answer writes)⟩
  | read_error {c i error} : c.phase i = .waiting →
      db.prepare (request i) c.store = .error error →
      Step db request c (.read i) ⟨c.store, Function.update c.phase i (.failed error)⟩
  | commit {c i answer writes t} : c.phase i = .prepared answer writes →
      db.commit c.store writes = some t →
      Step db request c (.commit i) ⟨t, Function.update c.phase i (.answered answer writes)⟩
  | refuse {c i answer writes} : c.phase i = .prepared answer writes →
      db.commit c.store writes = none →
      Step db request c (.refuse i) ⟨c.store, Function.update c.phase i (.failed db.refused)⟩

/-- Nothing has been read yet. -/
def Config.start (s : σ) : Config σ ι α ω ε := ⟨s, fun _ => .waiting⟩

section steps

variable {c c' : Config σ ι α ω ε} {event : Event ι} {i : ι} {answer : α} {writes : ω}

theorem update_eq_iff {β : Type} {f : ι → β} {j : ι} {x y : β} :
    Function.update f i x j = y ↔ (j = i ∧ x = y) ∨ (j ≠ i ∧ f j = y) := by
  by_cases h : j = i
  · subst h
    simp
  · simp [h]

/-- Pending writes were computed from the store their request read. -/
theorem Step.prepared_cases (hstep : Step db request c event c')
    (h : c'.phase i = .prepared answer writes) :
    c.phase i = .prepared answer writes ∨
      (event = .read i ∧ c.phase i = .waiting ∧
        db.prepare (request i) c.store = .ok (answer, writes)) := by
  cases hstep with
  | read_ok hwaiting hprepare =>
    rcases update_eq_iff.mp h with ⟨rfl, heq⟩ | ⟨_, h⟩
    · cases heq
      exact Or.inr ⟨rfl, hwaiting, hprepare⟩
    · exact Or.inl h
  | read_error =>
    rcases update_eq_iff.mp h with ⟨_, heq⟩ | ⟨_, h⟩
    · cases heq
    · exact Or.inl h
  | commit =>
    rcases update_eq_iff.mp h with ⟨_, heq⟩ | ⟨_, h⟩
    · cases heq
    · exact Or.inl h
  | refuse =>
    rcases update_eq_iff.mp h with ⟨_, heq⟩ | ⟨_, h⟩
    · cases heq
    · exact Or.inl h

/-- A request answers by committing what it had prepared. -/
theorem Step.answered_cases (hstep : Step db request c event c')
    (h : c'.phase i = .answered answer writes) :
    c.phase i = .answered answer writes ∨
      (event = .commit i ∧ c.phase i = .prepared answer writes ∧
        db.commit c.store writes = some c'.store) := by
  cases hstep with
  | read_ok =>
    rcases update_eq_iff.mp h with ⟨_, heq⟩ | ⟨_, h⟩
    · cases heq
    · exact Or.inl h
  | read_error =>
    rcases update_eq_iff.mp h with ⟨_, heq⟩ | ⟨_, h⟩
    · cases heq
    · exact Or.inl h
  | commit hprepared hcommit =>
    rcases update_eq_iff.mp h with ⟨rfl, heq⟩ | ⟨_, h⟩
    · cases heq
      exact Or.inr ⟨rfl, hprepared, hcommit⟩
    · exact Or.inl h
  | refuse =>
    rcases update_eq_iff.mp h with ⟨_, heq⟩ | ⟨_, h⟩
    · cases heq
    · exact Or.inl h

/-- Only a commit changes the store. -/
theorem Step.store_cases (hstep : Step db request c event c') :
    c'.store = c.store ∨ ∃ i answer writes, event = .commit i ∧
      c.phase i = .prepared answer writes ∧ c'.phase i = .answered answer writes ∧
      db.commit c.store writes = some c'.store := by
  cases hstep with
  | read_ok => exact Or.inl rfl
  | read_error => exact Or.inl rfl
  | @commit i answer writes t hprepared hcommit =>
    exact Or.inr ⟨i, answer, writes, rfl, hprepared, Function.update_self i _ c.phase, hcommit⟩
  | refuse => exact Or.inl rfl

/-- A request that has answered keeps its answer. -/
theorem Step.answered_mono (hstep : Step db request c event c')
    (h : c.phase i = .answered answer writes) : c'.phase i = .answered answer writes := by
  cases hstep with
  | read_ok hphase => exact update_eq_iff.mpr (Or.inr ⟨by rintro rfl; simp [h] at hphase, h⟩)
  | read_error hphase => exact update_eq_iff.mpr (Or.inr ⟨by rintro rfl; simp [h] at hphase, h⟩)
  | commit hphase => exact update_eq_iff.mpr (Or.inr ⟨by rintro rfl; simp [h] at hphase, h⟩)
  | refuse hphase => exact update_eq_iff.mpr (Or.inr ⟨by rintro rfl; simp [h] at hphase, h⟩)

end steps

section exactly_once

/-- A family of requests sharing one record: while it is there they answer it and
write nothing; without it, what they write brings the record along, and is refused when
the record has appeared in between. -/
structure Shared (db : Database σ ρ α ω ε) (request : ι → ρ) (recorded : σ → Option α) : Prop where
  replay : ∀ {i s a answer writes}, recorded s = some a →
    db.prepare (request i) s = .ok (answer, writes) →
    answer = a ∧ ∀ t, db.commit t writes = some t
  fresh : ∀ {i s answer writes t u}, recorded s = none →
    db.prepare (request i) s = .ok (answer, writes) → db.commit t writes = some u →
    recorded t = none ∧ recorded u = some answer

variable {recorded : σ → Option α} {s₀ : σ} {c c' : Config σ ι α ω ε} {event : Event ι}
  {labels : List (Event ι)} {k : ι}

/-- No request has changed the store yet. -/
structure Untouched (db : Database σ ρ α ω ε) (request : ι → ρ) (recorded : σ → Option α) (s₀ : σ)
    (c : Config σ ι α ω ε) : Prop where
  store : c.store = s₀
  prepared : ∀ {i answer writes}, c.phase i = .prepared answer writes →
    db.prepare (request i) s₀ = .ok (answer, writes)
  answered : ∀ {i answer writes}, c.phase i = .answered answer writes →
    recorded s₀ = some answer ∧ ∀ t, db.commit t writes = some t

/-- The request `k` has changed the store, alone. -/
structure Won (db : Database σ ρ α ω ε) (request : ι → ρ) (recorded : σ → Option α) (s₀ : σ) (k : ι)
    (c : Config σ ι α ω ε) : Prop where
  unrecorded : recorded s₀ = none
  alone : ∃ answer writes, c.phase k = .answered answer writes ∧
    db.run (request k) s₀ = (.ok answer, c.store) ∧ recorded c.store = some answer
  prepared : ∀ {i answer writes}, c.phase i = .prepared answer writes →
    db.prepare (request i) s₀ = .ok (answer, writes) ∨
      (recorded c.store = some answer ∧ ∀ t, db.commit t writes = some t)
  answered : ∀ {i answer writes}, i ≠ k → c.phase i = .answered answer writes →
    recorded c.store = some answer ∧ ∀ t, db.commit t writes = some t

omit [DecidableEq ι] in
theorem untouched_start : Untouched db request recorded s₀ (Config.start s₀) where
  store := rfl
  prepared h := by simp [Config.start] at h
  answered h := by simp [Config.start] at h

/-- The store stays untouched until some request changes it. -/
theorem Untouched.step (hshared : Shared db request recorded)
    (h : Untouched db request recorded s₀ c) (hstep : Step db request c event c') :
    Untouched db request recorded s₀ c' ∨ ∃ k, Won db request recorded s₀ k c' := by
  have hprepared : ∀ {j a w}, c'.phase j = .prepared a w →
      db.prepare (request j) s₀ = .ok (a, w) := by
    intro j a w hj
    rcases hstep.prepared_cases hj with hj | ⟨_, _, hprepare⟩
    · exact h.prepared hj
    · rwa [h.store] at hprepare
  cases hrecorded : recorded s₀ with
  | some found =>
    have hreplay : ∀ {j a w}, db.prepare (request j) s₀ = .ok (a, w) →
        a = found ∧ ∀ t, db.commit t w = some t := hshared.replay hrecorded
    refine Or.inl ⟨?_, hprepared, ?_⟩
    · rcases hstep.store_cases with hstore | ⟨i, a, w, _, hi, _, hcommit⟩
      · exact hstore.trans h.store
      · rw [(hreplay (h.prepared hi)).2, h.store] at hcommit
        exact (Option.some.inj hcommit).symm
    · intro j a w hj
      rcases hstep.answered_cases hj with hj | ⟨_, hj, _⟩
      · exact h.answered hj
      · obtain ⟨rfl, hnoop⟩ := hreplay (h.prepared hj)
        exact ⟨hrecorded, hnoop⟩
  | none =>
    have hnone : ∀ {j a w}, c.phase j ≠ .answered a w := by
      intro j a w hj
      rw [(h.answered hj).1] at hrecorded
      cases hrecorded
    rcases hstep.store_cases with hstore | ⟨i, a, w, rfl, hi, hi', hcommit⟩
    · refine Or.inl ⟨hstore.trans h.store, hprepared, ?_⟩
      intro j a w hj
      rcases hstep.answered_cases hj with hj | ⟨_, hj, hcommit⟩
      · exact absurd hj hnone
      · have hnow := (hshared.fresh hrecorded (h.prepared hj) hcommit).2
        rw [hstore, h.store, hrecorded] at hnow
        cases hnow
    · rw [h.store] at hcommit
      have hnow := (hshared.fresh hrecorded (h.prepared hi) hcommit).2
      refine Or.inr ⟨i, hrecorded, ⟨a, w, hi', ?_, hnow⟩, fun hj => Or.inl (hprepared hj), ?_⟩
      · exact Database.run_eq_ok_iff.mpr ⟨w, h.prepared hi, hcommit⟩
      · intro j a' w' hne hj
        rcases hstep.answered_cases hj with hj | ⟨heq, _⟩
        · exact absurd hj hnone
        · cases heq
          exact absurd rfl hne

/-- Once a request has changed the store no other one does. -/
theorem Won.step (hshared : Shared db request recorded)
    (h : Won db request recorded s₀ k c) (hstep : Step db request c event c') :
    Won db request recorded s₀ k c' := by
  obtain ⟨found, written, hk, hrun, hrecorded⟩ := h.alone
  -- What was prepared from the store without the record is refused now.
  have hreplay : ∀ {j a w t}, c.phase j = .prepared a w → db.commit c.store w = some t →
      recorded c.store = some a ∧ ∀ t, db.commit t w = some t := by
    intro j a w t hj hcommit
    rcases h.prepared hj with hstale | hreplay
    · have hnone := (hshared.fresh h.unrecorded hstale hcommit).1
      rw [hnone] at hrecorded
      cases hrecorded
    · exact hreplay
  have hstore : c'.store = c.store := by
    rcases hstep.store_cases with hstore | ⟨i, a, w, _, hi, _, hcommit⟩
    · exact hstore
    · rw [(hreplay hi hcommit).2] at hcommit
      exact (Option.some.inj hcommit).symm
  refine ⟨h.unrecorded, ⟨found, written, hstep.answered_mono hk, ?_, ?_⟩, ?_, ?_⟩
  · rwa [hstore]
  · rwa [hstore]
  · intro j a w hj
    rw [hstore]
    rcases hstep.prepared_cases hj with hj | ⟨_, _, hprepare⟩
    · exact h.prepared hj
    · obtain ⟨rfl, hnoop⟩ := hshared.replay hrecorded hprepare
      exact Or.inr ⟨hrecorded, hnoop⟩
  · intro j a w hne hj
    rw [hstore]
    rcases hstep.answered_cases hj with hj | ⟨_, hj, hcommit⟩
    · exact h.answered hne hj
    · exact hreplay hj hcommit

/-- Whatever the interleaving, at most one request changes the store, as if it had run
alone. -/
theorem untouched_or_won (hshared : Shared db request recorded)
    (hrun : Execution (Step db request) (Config.start s₀) labels c) :
    Untouched db request recorded s₀ c ∨ ∃ k, Won db request recorded s₀ k c := by
  refine hrun.invariant (fun c => Untouched db request recorded s₀ c ∨
    ∃ k, Won db request recorded s₀ k c) ?_ (Or.inl untouched_start)
  rintro c event c' (h | ⟨k, h⟩) hstep
  · exact h.step hshared hstep
  · exact Or.inr ⟨k, h.step hshared hstep⟩

end exactly_once

end transactional
