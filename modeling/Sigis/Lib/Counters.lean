import Mathlib.Data.List.Induction
import Sigis.Lib.Ledger

open transition

namespace transactional

variable {σ ρ α ω ε ι : Type} [DecidableEq ι] {db : Database σ ρ α ω ε} {request : ι → ρ} {s₀ : σ}
  {c c' d : Config σ ι α ω ε} {event : Event ι} {labels : List (Event ι)} {i j : ι} {n m n₀ : ℕ}

/-- What a step leads to is told by what happens in it. -/
theorem Step.unique (hstep : Step db request c event c') (hother : Step db request c event d) : c' = d := by
  cases hstep with
  | read_ok hwaiting hprepare =>
    cases hother with
    | read_ok _ hprepare' =>
      cases hprepare.symm.trans hprepare'
      rfl
    | read_error _ hprepare' => cases hprepare.symm.trans hprepare'
  | read_error hwaiting hprepare =>
    cases hother with
    | read_ok _ hprepare' => cases hprepare.symm.trans hprepare'
    | read_error _ hprepare' =>
      cases hprepare.symm.trans hprepare'
      rfl
  | commit hprepared hcommit =>
    cases hother with
    | commit hprepared' hcommit' =>
      cases hprepared.symm.trans hprepared'
      cases hcommit.symm.trans hcommit'
      rfl
  | refuse hprepared hcommit =>
    cases hother with
    | refuse hprepared' hcommit' =>
      cases hprepared.symm.trans hprepared'
      rfl

/-- And so is what a run leads to. -/
theorem run_unique (hrun : Execution (Step db request) c labels c') (hother : Execution (Step db request) c labels d) :
    c' = d := by
  induction hrun generalizing d with
  | refl => exact hother.eq_of_nil.symm
  | @snoc labels x event c' _ hstep ih =>
    obtain ⟨y, z, hfirst, hlast, hrest⟩ := Execution.exists_split hother
    obtain rfl := ih hfirst
    obtain rfl := hrest.eq_of_nil
    exact hstep.unique hlast

/-- Two requests that overlap did so before the last step, or both still wait for their commit after it. -/
theorem overlap_snoc_iff (hrun : Execution (Step db request) (Config.start s₀) labels c)
    (hstep : Step db request c event c') : Overlap db request s₀ (labels ++ [event]) c' i j ↔
      Overlap db request s₀ labels c i j ∨
        ((∃ answer writes, c'.phase i = .prepared answer writes) ∧
          ∃ answer writes, c'.phase j = .prepared answer writes) := by
  constructor
  · rintro ⟨before, after, x, heq, hbefore, hafter, hi, hj⟩
    cases after using List.reverseRecOn with
    | nil =>
      obtain rfl := hafter.eq_of_nil
      exact Or.inr ⟨hi, hj⟩
    | append_singleton after last =>
      rw [← List.append_assoc] at heq
      obtain ⟨rfl, hlast⟩ := List.append_inj' heq rfl
      obtain ⟨y, z, hfirst, -, -⟩ := Execution.exists_split hafter
      obtain rfl := run_unique hrun (hbefore.trans hfirst)
      exact Or.inl ⟨before, after, x, rfl, hbefore, hfirst, hi, hj⟩
  · rintro (h | ⟨hi, hj⟩)
    · exact h.snoc hstep
    · exact ⟨labels ++ [event], [], c', (List.append_nil _).symm, hrun.snoc hstep, .refl, hi, hj⟩

/-- A request that has committed does not wait any more. -/
theorem not_prepared_of_committed (hrun : Execution (Step db request) (Config.start s₀) labels c)
    (hj : j ∈ committed labels) {answer : α} {writes : ω} : c.phase j ≠ .prepared answer writes := by
  obtain ⟨_, _, hanswered⟩ := (mem_committed_iff hrun).mp hj
  rw [hanswered]
  simp

/-- Once a request has committed no further event makes another one overlap it. -/
theorem overlap_snoc_iff_of_committed (hrun : Execution (Step db request) (Config.start s₀) labels c)
    (hstep : Step db request c event c') (hj : j ∈ committed (labels ++ [event])) :
    Overlap db request s₀ (labels ++ [event]) c' i j ↔ Overlap db request s₀ labels c i j := by
  rw [overlap_snoc_iff hrun hstep, or_iff_left]
  rintro ⟨-, answer, writes, hprepared⟩
  exact not_prepared_of_committed (hrun.snoc hstep) hj hprepared

/-- A request that overlaps another one has read. -/
theorem Overlap.read (h : Overlap db request s₀ labels c i j) : c.phase i ≠ .waiting := by
  obtain ⟨before, after, x, -, -, hafter, ⟨answer, writes, hprepared⟩, -⟩ := h
  refine hafter.invariant (fun y => y.phase i ≠ .waiting) ?_ (by simp [hprepared])
  intro y event z hy hstep hwaiting
  cases hstep with
  | read_ok | read_error | commit | refuse =>
    rcases update_eq_iff.mp hwaiting with ⟨-, heq⟩ | ⟨-, hphase⟩
    · cases heq
    · exact hy hphase

/-- A number the store shows. A request that counts answers the number after the one it reads, and
its writes set that; the writes of the others leave it. -/
structure Counter (db : Database σ ρ α ω ε) (shows : σ → Option ℕ) (counts : ρ → Prop) (answers : α → Option ℕ) :
    Prop where
  read : ∀ {r s answer writes}, db.prepare r s = .ok (answer, writes) → counts r →
    ∃ n, shows s = some n ∧ answers answer = some (n + 1)
  counted : ∀ {r s t u answer writes n}, db.prepare r s = .ok (answer, writes) → counts r →
    answers answer = some n → (shows t).isSome → db.commit t writes = some u → shows u = some n
  kept : ∀ {r s t u answer writes n}, db.prepare r s = .ok (answer, writes) → ¬ counts r →
    shows t = some n → db.commit t writes = some u → shows u = some n

/-- The request has answered this number. -/
def Config.Answers (c : Config σ ι α ω ε) (answers : α → Option ℕ) (i : ι) (n : ℕ) : Prop :=
  ∃ answer writes, c.phase i = .answered answer writes ∧ answers answer = some n

/-- The request will answer this number, once it commits. -/
def Config.Announces (c : Config σ ι α ω ε) (answers : α → Option ℕ) (i : ι) (n : ℕ) : Prop :=
  ∃ answer writes, c.phase i = .prepared answer writes ∧ answers answer = some n

/-- No two requests that count and have committed overlap. -/
def CountApart (db : Database σ ρ α ω ε) (request : ι → ρ) (counts : ρ → Prop) (s₀ : σ) (labels : List (Event ι))
    (c : Config σ ι α ω ε) : Prop :=
  ∀ i ∈ committed labels, ∀ j ∈ committed labels, i ≠ j → counts (request i) → counts (request j) →
    ¬ Overlap db request s₀ labels c i j

/-- No two requests that count have answered the same number. -/
def Config.Distinguishes (c : Config σ ι α ω ε) (request : ι → ρ) (counts : ρ → Prop) (answers : α → Option ℕ) :
    Prop :=
  ∀ i j n, counts (request i) → counts (request j) → c.Answers answers i n → c.Answers answers j n → i = j

/-- A request that counts has committed since this one read. -/
def Overtaken (db : Database σ ρ α ω ε) (request : ι → ρ) (counts : ρ → Prop) (s₀ : σ) (labels : List (Event ι))
    (c : Config σ ι α ω ε) (i : ι) : Prop :=
  ∃ j ∈ committed labels, counts (request j) ∧ Overlap db request s₀ labels c i j

section counted

variable {shows : σ → Option ℕ} {counts : ρ → Prop} [DecidablePred counts] {answers : α → Option ℕ}

/-- How many requests that count have committed. -/
def total (request : ι → ρ) (counts : ρ → Prop) [DecidablePred counts] (labels : List (Event ι)) : ℕ :=
  (committed labels).countP fun i => counts (request i)

/-- The number shown, told by the requests that have committed, and by how they overlap. -/
structure Tally (db : Database σ ρ α ω ε) (request : ι → ρ) (shows : σ → Option ℕ) (counts : ρ → Prop)
    [DecidablePred counts] (answers : α → Option ℕ) (s₀ : σ) (n₀ : ℕ) (labels : List (Event ι))
    (c : Config σ ι α ω ε) (m : ℕ) : Prop where
  shown : shows c.store = some m
  ge : n₀ ≤ m
  le : m ≤ n₀ + total request counts labels
  eq_iff : m = n₀ + total request counts labels ↔ CountApart db request counts s₀ labels c
  answered : CountApart db request counts s₀ labels c →
    ∀ i n, counts (request i) → c.Answers answers i n → n ≤ m
  covered : CountApart db request counts s₀ labels c →
    ∀ n, n₀ < n → n ≤ m → ∃ i, counts (request i) ∧ c.Answers answers i n
  distinguishes_iff : c.Distinguishes request counts answers ↔ CountApart db request counts s₀ labels c
  announced : ∀ i n, counts (request i) → c.Announces answers i n →
    (n = m + 1 ∧ ¬ Overtaken db request counts s₀ labels c i) ∨
      (n₀ < n ∧ n ≤ n₀ + total request counts labels ∧ Overtaken db request counts s₀ labels c i)

/-- Nothing has been counted at the start. -/
theorem tally_start (hshows : shows s₀ = some n₀) :
    Tally db request shows counts answers s₀ n₀ [] (Config.start s₀ : Config σ ι α ω ε) n₀ where
  shown := hshows
  ge := Nat.le_refl n₀
  le := Nat.le_refl n₀
  eq_iff := iff_of_true rfl (by simp [CountApart, committed])
  answered _ i n _ h := by simp [Config.Answers, Config.start] at h
  covered _ n hlt hle := absurd hle (Nat.not_le.mpr hlt)
  distinguishes_iff := iff_of_true (by simp [Config.Distinguishes, Config.Answers, Config.start])
    (by simp [CountApart, committed])
  announced i n _ h := by simp [Config.Announces, Config.start] at h

section idle

variable (hidle : ∀ i, event = .commit i → ¬ counts (request i))

include hidle

omit [DecidableEq ι] [DecidablePred counts] in
/-- An event that commits no counting request adds none to those committed. -/
theorem mem_committed_snoc_of_idle (hj : counts (request j)) :
    j ∈ committed (labels ++ [event]) ↔ j ∈ committed labels := by
  cases event with
  | read | refuse => rw [committed_snoc_of_ne (by simp)]
  | commit i =>
    rw [committed_snoc_commit, List.mem_append, or_iff_left]
    rintro hji
    rw [List.mem_singleton.mp hji] at hj
    exact hidle i rfl hj

omit [DecidableEq ι] in
/-- Nor does it add to the total. -/
theorem total_snoc_of_idle : total request counts (labels ++ [event]) = total request counts labels := by
  unfold total
  cases event with
  | read | refuse => rw [committed_snoc_of_ne (by simp)]
  | commit i => simp [committed_snoc_commit, hidle i rfl]

omit [DecidablePred counts] in
/-- Nor does it answer a counting request. -/
theorem answers_iff_of_idle (hstep : Step db request c event c') (hi : counts (request i)) :
    c'.Answers answers i n ↔ c.Answers answers i n := by
  constructor
  · rintro ⟨answer, writes, hanswered, hn⟩
    rcases hstep.answered_cases hanswered with h | ⟨hevent, -, -⟩
    · exact ⟨answer, writes, h, hn⟩
    · exact absurd hi (hidle i hevent)
  · rintro ⟨answer, writes, hanswered, hn⟩
    exact ⟨answer, writes, hstep.answered_mono hanswered, hn⟩

omit [DecidablePred counts] in
/-- Nor does it let one overtake another. -/
theorem overtaken_iff_of_idle (hrun : Execution (Step db request) (Config.start s₀) labels c)
    (hstep : Step db request c event c') : Overtaken db request counts s₀ (labels ++ [event]) c' i ↔
      Overtaken db request counts s₀ labels c i := by
  constructor
  · rintro ⟨j, hj, hcounts, hoverlap⟩
    exact ⟨j, (mem_committed_snoc_of_idle hidle hcounts).mp hj, hcounts,
      (overlap_snoc_iff_of_committed hrun hstep hj).mp hoverlap⟩
  · rintro ⟨j, hj, hcounts, hoverlap⟩
    exact ⟨j, (mem_committed_snoc_of_idle hidle hcounts).mpr hj, hcounts, hoverlap.snoc hstep⟩

omit [DecidablePred counts] in
/-- Nor does it make two of them overlap. -/
theorem countApart_iff_of_idle (hrun : Execution (Step db request) (Config.start s₀) labels c)
    (hstep : Step db request c event c') : CountApart db request counts s₀ (labels ++ [event]) c' ↔
      CountApart db request counts s₀ labels c := by
  constructor
  · intro h i hi j hj hne hci hcj hoverlap
    exact h i ((mem_committed_snoc_of_idle hidle hci).mpr hi) j ((mem_committed_snoc_of_idle hidle hcj).mpr hj) hne
      hci hcj (hoverlap.snoc hstep)
  · intro h i hi j hj hne hci hcj hoverlap
    exact h i ((mem_committed_snoc_of_idle hidle hci).mp hi) j ((mem_committed_snoc_of_idle hidle hcj).mp hj) hne
      hci hcj ((overlap_snoc_iff_of_committed hrun hstep hj).mp hoverlap)

omit [DecidablePred counts] in
/-- Nor does it change what the store shows. -/
theorem Counter.shows_of_idle (hcounter : Counter db shows counts answers)
    (hrun : Execution (Step db request) (Config.start s₀) labels c) (hstep : Step db request c event c')
    (hm : shows c.store = some m) : shows c'.store = some m := by
  rcases hstep.store_cases with hstore | ⟨i, answer, writes, hevent, hi, -, hcommit⟩
  · rwa [hstore]
  · obtain ⟨s, hprepare⟩ := prepared_of_run hrun (Or.inl hi)
    exact hcounter.kept hprepare (hidle i hevent) hm hcommit

/-- The tally is kept by every event that commits no counting request. -/
theorem Tally.idle (h : Tally db request shows counts answers s₀ n₀ labels c m)
    (hcounter : Counter db shows counts answers) (hrun : Execution (Step db request) (Config.start s₀) labels c)
    (hstep : Step db request c event c') :
    Tally db request shows counts answers s₀ n₀ (labels ++ [event]) c' m := by
  have htotal : total request counts (labels ++ [event]) = total request counts labels := total_snoc_of_idle hidle
  have hapart := countApart_iff_of_idle hidle hrun hstep
  refine ⟨hcounter.shows_of_idle hidle hrun hstep h.shown, h.ge, ?_, ?_, ?_, ?_, ?_, ?_⟩
  · exact htotal ▸ h.le
  · rw [htotal, hapart]
    exact h.eq_iff
  · intro hcount i n hi hanswers
    exact h.answered (hapart.mp hcount) i n hi ((answers_iff_of_idle hidle hstep hi).mp hanswers)
  · intro hcount n hlt hle
    obtain ⟨i, hi, hanswers⟩ := h.covered (hapart.mp hcount) n hlt hle
    exact ⟨i, hi, (answers_iff_of_idle hidle hstep hi).mpr hanswers⟩
  · rw [hapart, ← h.distinguishes_iff]
    constructor
    · intro hd i j n hi hj hni hnj
      exact hd i j n hi hj ((answers_iff_of_idle hidle hstep hi).mpr hni)
        ((answers_iff_of_idle hidle hstep hj).mpr hnj)
    · intro hd i j n hi hj hni hnj
      exact hd i j n hi hj ((answers_iff_of_idle hidle hstep hi).mp hni) ((answers_iff_of_idle hidle hstep hj).mp hnj)
  · rintro i n hi ⟨answer, writes, hprepared, hn⟩
    rw [htotal, overtaken_iff_of_idle hidle hrun hstep]
    rcases hstep.prepared_cases hprepared with hprepared | ⟨-, hwaiting, hprepare⟩
    · exact h.announced i n hi ⟨answer, writes, hprepared, hn⟩
    · -- A request that reads now has been overtaken by none.
      obtain ⟨shown, hshown, hanswers⟩ := hcounter.read hprepare hi
      obtain rfl := Option.some.inj (h.shown.symm.trans hshown)
      refine Or.inl ⟨Option.some.inj (hn.symm.trans hanswers), ?_⟩
      rintro ⟨j, -, -, hoverlap⟩
      exact hoverlap.read hwaiting

end idle

section commit

omit [DecidablePred counts] in
/-- A commit answers its own request with what it announced, and no other one. -/
theorem answers_commit_iff (hstep : Step db request c (.commit i) c') (hn : c.Announces answers i n) {k : ℕ} :
    c'.Answers answers j k ↔ c.Answers answers j k ∨ (j = i ∧ k = n) := by
  obtain ⟨_, _, hprepared, hn⟩ := hn
  cases hstep with
  | commit hprepared' hcommit =>
    cases hprepared.symm.trans hprepared'
    by_cases hji : j = i
    · subst hji
      simp [Config.Answers, hprepared, hn, eq_comm]
    · simp [Config.Answers, hji]

omit [DecidableEq ι] in
/-- A commit that counts adds one to the total. -/
theorem total_snoc_commit (hi : counts (request i)) :
    total request counts (labels ++ [.commit i]) = total request counts labels + 1 := by
  simp [total, committed_snoc_commit, hi]

omit [DecidableEq ι] in
theorem mem_committed_snoc : j ∈ committed (labels ++ [.commit i]) ↔ j ∈ committed labels ∨ j = i := by
  rw [committed_snoc_commit, List.mem_append, List.mem_singleton]

variable (hrun : Execution (Step db request) (Config.start s₀) labels c) (hstep : Step db request c (.commit i) c')
  (hi : counts (request i)) (hn : c.Announces answers i n)

include hrun hstep hi hn

omit [DecidablePred counts] in
/-- Counting requests are apart after a commit when they were and nobody overtook it. -/
theorem countApart_commit_iff : CountApart db request counts s₀ (labels ++ [.commit i]) c' ↔
    CountApart db request counts s₀ labels c ∧ ¬ Overtaken db request counts s₀ labels c i := by
  obtain ⟨_, _, hprepared, -⟩ := hn
  have hnew : i ∉ committed labels := fun hmem => not_prepared_of_committed hrun hmem hprepared
  constructor
  · intro h
    refine ⟨fun j hj k hk hne hcj hck hoverlap => ?_, ?_⟩
    · exact h j (mem_committed_snoc.mpr (Or.inl hj)) k (mem_committed_snoc.mpr (Or.inl hk)) hne hcj hck
        (hoverlap.snoc hstep)
    · rintro ⟨j, hj, hcj, hoverlap⟩
      have hne : i ≠ j := fun heq => hnew (heq ▸ hj)
      exact h i (mem_committed_snoc.mpr (Or.inr rfl)) j (mem_committed_snoc.mpr (Or.inl hj)) hne hi hcj
        (hoverlap.snoc hstep)
  · rintro ⟨hapart, hcurrent⟩ j hj k hk hne hcj hck hoverlap
    have hearlier := (overlap_snoc_iff_of_committed hrun hstep hk).mp hoverlap
    rcases mem_committed_snoc.mp hj with hjold | rfl
    · rcases mem_committed_snoc.mp hk with hkold | rfl
      · exact hapart j hjold k hkold hne hcj hck hearlier
      · exact hcurrent ⟨j, hjold, hcj, hearlier.symm⟩
    · rcases mem_committed_snoc.mp hk with hkold | rfl
      · exact hcurrent ⟨k, hkold, hck, hearlier⟩
      · exact hne rfl

/-- It overtakes every request that still waits for its own commit. -/
theorem Tally.announced_commit (h : Tally db request shows counts answers s₀ n₀ labels c m) (j : ι) (k : ℕ)
    (hj : counts (request j)) (hk : c'.Announces answers j k) :
    n₀ < k ∧ k ≤ n₀ + total request counts (labels ++ [.commit i]) ∧
      Overtaken db request counts s₀ (labels ++ [.commit i]) c' j := by
  obtain ⟨_, _, hprepared, -⟩ := hn
  obtain ⟨answer, writes, hwaits, hk⟩ := hk
  have hmem : i ∈ committed (labels ++ [.commit i]) := mem_committed_snoc.mpr (Or.inr rfl)
  rcases hstep.prepared_cases hwaits with hwaits | ⟨hevent, -, -⟩
  · have hge := h.ge
    have hle := h.le
    rw [total_snoc_commit hi]
    refine ⟨?_, ?_, i, hmem, hi, labels, [.commit i], c, rfl, hrun, .single hstep, ⟨_, _, hwaits⟩, _, _, hprepared⟩
    · rcases h.announced j k hj ⟨answer, writes, hwaits, hk⟩ with ⟨heq, -⟩ | ⟨hlt, -, -⟩ <;> omega
    · rcases h.announced j k hj ⟨answer, writes, hwaits, hk⟩ with ⟨heq, -⟩ | ⟨-, hbound, -⟩ <;> omega
  · cases hevent

/-- Not overtaken, it counts one more. -/
theorem Tally.commit_current (h : Tally db request shows counts answers s₀ n₀ labels c m)
    (hshown : shows c'.store = some n) (heq : n = m + 1) (hcurrent : ¬ Overtaken db request counts s₀ labels c i) :
    Tally db request shows counts answers s₀ n₀ (labels ++ [.commit i]) c' n := by
  have hle := h.le
  have hge := h.ge
  have htotal : total request counts (labels ++ [.commit i]) = total request counts labels + 1 := total_snoc_commit hi
  have hapart : CountApart db request counts s₀ (labels ++ [.commit i]) c' ↔
      CountApart db request counts s₀ labels c := by
    rw [countApart_commit_iff hrun hstep hi hn, and_iff_left hcurrent]
  have hanswers {j : ι} {k : ℕ} := answers_commit_iff (j := j) (k := k) hstep hn
  refine ⟨hshown, by omega, by omega, ?_, ?_, ?_, ?_, fun j k hj hk => Or.inr ?_⟩
  · rw [hapart, htotal, ← h.eq_iff]
    omega
  · intro hcount j k hj hk
    rcases hanswers.mp hk with hk | ⟨-, rfl⟩
    · have hold := h.answered (hapart.mp hcount) j k hj hk
      omega
    · exact Nat.le_refl _
  · intro hcount k hlt hkn
    by_cases hk : k = n
    · exact ⟨i, hi, hanswers.mpr (Or.inr ⟨rfl, hk⟩)⟩
    · obtain ⟨j, hj, hanswered⟩ := h.covered (hapart.mp hcount) k hlt (by omega)
      exact ⟨j, hj, hanswers.mpr (Or.inl hanswered)⟩
  · rw [hapart, ← h.distinguishes_iff]
    constructor
    · intro hd j l k hj hl hjk hlk
      exact hd j l k hj hl (hanswers.mpr (Or.inl hjk)) (hanswers.mpr (Or.inl hlk))
    · intro hd j l k hj hl hjk hlk
      -- Nobody has answered its number before.
      have hfirst {j : ι} (hj : counts (request j)) : ¬ c.Answers answers j n := by
        intro hjn
        have hold := h.answered (h.distinguishes_iff.mp hd) j n hj hjn
        omega
      rcases hanswers.mp hjk with hjk | ⟨rfl, rfl⟩
      · rcases hanswers.mp hlk with hlk | ⟨rfl, rfl⟩
        · exact hd j l k hj hl hjk hlk
        · exact absurd hjk (hfirst hj)
      · rcases hanswers.mp hlk with hlk | ⟨rfl, -⟩
        · exact absurd hlk (hfirst hl)
        · rfl
  · exact h.announced_commit hrun hstep hi hn j k hj hk

/-- Overtaken, it answers a number that has been answered. -/
theorem Tally.commit_overtaken (h : Tally db request shows counts answers s₀ n₀ labels c m)
    (hshown : shows c'.store = some n) (hlt : n₀ < n) (hle : n ≤ n₀ + total request counts labels)
    (hovertaken : Overtaken db request counts s₀ labels c i) :
    Tally db request shows counts answers s₀ n₀ (labels ++ [.commit i]) c' n := by
  have htotal : total request counts (labels ++ [.commit i]) = total request counts labels + 1 := total_snoc_commit hi
  have hnot : ¬ CountApart db request counts s₀ (labels ++ [.commit i]) c' := by
    rw [countApart_commit_iff hrun hstep hi hn]
    exact fun hboth => hboth.2 hovertaken
  have hanswers {j : ι} {k : ℕ} := answers_commit_iff (j := j) (k := k) hstep hn
  refine ⟨hshown, by omega, by omega, iff_of_false (by omega) hnot, fun hcount => absurd hcount hnot,
    fun hcount => absurd hcount hnot, iff_of_false ?_ hnot, fun j k hj hk => Or.inr ?_⟩
  · intro hd
    have hcount : CountApart db request counts s₀ labels c := by
      refine h.distinguishes_iff.mp fun j l k hj hl hjk hlk => ?_
      exact hd j l k hj hl (hanswers.mpr (Or.inl hjk)) (hanswers.mpr (Or.inl hlk))
    obtain ⟨j, hj, hjn⟩ := h.covered hcount n hlt (h.eq_iff.mpr hcount ▸ hle)
    obtain rfl := hd j i n hj hi (hanswers.mpr (Or.inl hjn)) (hanswers.mpr (Or.inr ⟨rfl, rfl⟩))
    obtain ⟨_, _, hprepared, -⟩ := hn
    obtain ⟨_, _, hanswered, -⟩ := hjn
    cases hprepared.symm.trans hanswered
  · exact h.announced_commit hrun hstep hi hn j k hj hk

omit hn in
/-- The tally is kept by the commit of a counting request. -/
theorem Tally.commit (h : Tally db request shows counts answers s₀ n₀ labels c m)
    (hcounter : Counter db shows counts answers) :
    ∃ n, Tally db request shows counts answers s₀ n₀ (labels ++ [.commit i]) c' n := by
  have hcommits := hstep
  cases hcommits with
  | @commit _ answer writes t hprepared hcommit =>
  obtain ⟨s, hprepare⟩ := prepared_of_run hrun (Or.inl hprepared)
  obtain ⟨k, -, hn⟩ := hcounter.read hprepare hi
  have hshown := hcounter.counted hprepare hi hn (by rw [h.shown]; rfl) hcommit
  have hannounces : c.Announces answers i (k + 1) := ⟨answer, writes, hprepared, hn⟩
  rcases h.announced i (k + 1) hi hannounces with ⟨heq, hcurrent⟩ | ⟨hlt, hle, hovertaken⟩
  · exact ⟨_, h.commit_current hrun hstep hi hannounces hshown heq hcurrent⟩
  · exact ⟨_, h.commit_overtaken hrun hstep hi hannounces hshown hlt hle hovertaken⟩

end commit

/-- Whatever the interleaving: the number shown is at most what the requests that count make of it one after the
other, it is that exactly when no two of them overlap, and exactly then no two of them have answered the same. -/
theorem Counter.exists_tally (h : Counter db shows counts answers)
    (hrun : Execution (Step db request) (Config.start s₀) labels c) (hshows : shows s₀ = some n₀) :
    ∃ m, Tally db request shows counts answers s₀ n₀ labels c m := by
  induction hrun with
  | refl => exact ⟨n₀, tally_start hshows⟩
  | @snoc labels c event c' hrun hstep ih =>
    obtain ⟨m, htally⟩ := ih
    by_cases hidle : ∀ i, event = .commit i → ¬ counts (request i)
    · exact ⟨m, htally.idle hidle h hrun hstep⟩
    · obtain ⟨i, hevent⟩ := not_forall.mp hidle
      obtain ⟨rfl, hi⟩ := Classical.not_imp.mp hevent
      exact htally.commit hrun hstep (not_not.mp hi) h

end counted

end transactional
