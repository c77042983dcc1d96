import Sigis.Lib.Overlap

open transition

namespace transactional

section committed

variable {ι : Type}

/-- The request whose writes an event applies. -/
def Event.committed : Event ι → Option ι
  | .commit i => some i
  | _ => none

/-- The requests that committed, in the order of their commits. -/
def committed (labels : List (Event ι)) : List ι := labels.filterMap Event.committed

theorem committed_snoc_commit (labels : List (Event ι)) (i : ι) :
    committed (labels ++ [.commit i]) = committed labels ++ [i] := by
  simp [committed, Event.committed]

theorem committed_snoc_of_ne {labels : List (Event ι)} {event : Event ι} (h : ∀ i, event ≠ .commit i) :
    committed (labels ++ [event]) = committed labels := by
  cases event with
  | commit i => exact absurd rfl (h i)
  | read | refuse => simp [committed, Event.committed]

end committed

variable {σ ρ α ω ε ι : Type} {db : Database σ ρ α ω ε} {request : ι → ρ} {s₀ : σ}
  {c c' : Config σ ι α ω ε} {event : Event ι} {labels : List (Event ι)} {i j : ι}

/-- Requests that can be served one after the other in the order of their commits. What a
request drew is `fresh` in a store; what it computed from one store is `current` in
another; the commit of `j` `spoils` what `i` read from a store. -/
structure Serialises (db : Database σ ρ α ω ε) (request : ι → ρ) (serves : σ → ι → σ → Prop)
    (fresh : ι → σ → Prop) (current : ι → σ → σ → Prop) (spoils : ι → σ → ι → Prop) : Prop where
  read : ∀ {i s answer writes}, fresh i s → db.prepare (request i) s = .ok (answer, writes) →
    current i s s
  sound : ∀ {i s t u answer writes}, fresh i t → current i s t →
    db.prepare (request i) s = .ok (answer, writes) → db.commit t writes = some u → serves t i u
  fresh_kept : ∀ {i j t u}, i ≠ j → fresh i t → fresh j t → serves t j u → fresh i u
  current_kept : ∀ {i j s t u}, current i s t → ¬ spoils i s j → fresh j t → serves t j u →
    current i s u

variable [DecidableEq ι] {serves : σ → ι → σ → Prop} {fresh : ι → σ → Prop} {current : ι → σ → σ → Prop}
  {spoils : ι → σ → ι → Prop}

/-- No request commits over a commit that spoiled what it had read. -/
def Spared (db : Database σ ρ α ω ε) (request : ι → ρ) (spoils : ι → σ → ι → Prop) (s₀ : σ)
    (labels : List (Event ι)) : Prop :=
  ∀ i j before d after, labels = before ++ .read i :: after →
    Execution (Step db request) (Config.start s₀) before d → spoils i d.store j →
      ¬ [.commit j, .commit i].Sublist after

theorem Spared.of_snoc (h : Spared db request spoils s₀ (labels ++ [event])) :
    Spared db request spoils s₀ labels := by
  rintro i j before d after rfl hbefore hspoils hsublist
  exact h i j before d (after ++ [event]) (by simp) hbefore hspoils
    (hsublist.trans (List.sublist_append_left after [event]))

/-- What the request read, and whether it still stands. -/
structure ReadBy (db : Database σ ρ α ω ε) (request : ι → ρ) (current : ι → σ → σ → Prop)
    (spoils : ι → σ → ι → Prop) (s₀ : σ) (labels : List (Event ι)) (t : σ) (i : ι) (answer : α)
    (writes : ω) (d : Config σ ι α ω ε) (before after : List (Event ι)) : Prop where
  labels : labels = before ++ .read i :: after
  reached : Execution (Step db request) (Config.start s₀) before d
  prepared : db.prepare (request i) d.store = .ok (answer, writes)
  stands : current i d.store t ∨ ∃ j, spoils i d.store j ∧ .commit j ∈ after

/-- A run whose commits so far were served in their order. -/
structure Serial (db : Database σ ρ α ω ε) (request : ι → ρ) (serves : σ → ι → σ → Prop)
    (fresh : ι → σ → Prop) (current : ι → σ → σ → Prop) (spoils : ι → σ → ι → Prop) (s₀ : σ)
    (labels : List (Event ι)) (c : Config σ ι α ω ε) : Prop where
  served : Execution serves s₀ (committed labels) c.store
  fresh : ∀ i, (∀ answer writes, c.phase i ≠ .answered answer writes) → fresh i c.store
  reads : ∀ i answer writes, c.phase i = .prepared answer writes → ∃ d before after,
    ReadBy db request current spoils s₀ labels c.store i answer writes d before after

/-- A step that commits nothing keeps a run serial. -/
theorem Serial.step_of_store (h : Serial db request serves fresh current spoils s₀ labels c)
    (hserialises : Serialises db request serves fresh current spoils)
    (hrun : Execution (Step db request) (Config.start s₀) labels c) (hstep : Step db request c event c')
    (hstore : c'.store = c.store) (hevent : ∀ i, event ≠ .commit i) :
    Serial db request serves fresh current spoils s₀ (labels ++ [event]) c' := by
  refine ⟨?_, ?_, ?_⟩
  · rw [committed_snoc_of_ne hevent, hstore]
    exact h.served
  · intro i hopen
    rw [hstore]
    exact h.fresh i fun answer writes hanswered => hopen answer writes (hstep.answered_mono hanswered)
  · intro i answer writes hprepared
    rw [hstore]
    rcases hstep.prepared_cases hprepared with hold | ⟨rfl, hwaiting, hprepare⟩
    · obtain ⟨d, before, after, rfl, hreached, hprepare, hstands⟩ := h.reads i answer writes hold
      refine ⟨d, before, after ++ [event], by simp, hreached, hprepare, hstands.imp_right ?_⟩
      rintro ⟨j, hspoils, hmem⟩
      exact ⟨j, hspoils, List.mem_append_left [event] hmem⟩
    · have hfresh : fresh i c.store := h.fresh i fun a v hdone => by cases hwaiting.symm.trans hdone
      exact ⟨c, labels, [], rfl, hrun, hprepare, Or.inl (hserialises.read hfresh hprepare)⟩

/-- A commit of what still stands keeps a run serial. -/
theorem Serial.step_of_commit (h : Serial db request serves fresh current spoils s₀ labels c)
    (hserialises : Serialises db request serves fresh current spoils)
    (hspared : Spared db request spoils s₀ (labels ++ [.commit i]))
    (hstep : Step db request c (.commit i) c') {answer : α} {writes : ω}
    (hprepared : c.phase i = .prepared answer writes) (hanswered : c'.phase i = .answered answer writes)
    (hcommit : db.commit c.store writes = some c'.store) :
    Serial db request serves fresh current spoils s₀ (labels ++ [.commit i]) c' := by
  obtain ⟨d, before, after, rfl, hreached, hprepare, hstands⟩ := h.reads i answer writes hprepared
  have hfresh : fresh i c.store := h.fresh i fun a v hdone => by cases hprepared.symm.trans hdone
  have hcurrent : current i d.store c.store := by
    refine hstands.resolve_right ?_
    rintro ⟨j, hspoils, hmem⟩
    refine hspared i j before d (after ++ [.commit i]) (by simp) hreached hspoils ?_
    exact (List.singleton_sublist.mpr hmem).append (List.Sublist.refl [Event.commit i])
  have hserved : serves c.store i c'.store := hserialises.sound hfresh hcurrent hprepare hcommit
  refine ⟨?_, ?_, ?_⟩
  · rw [committed_snoc_commit]
    exact h.served.snoc hserved
  · intro k hopen
    have hne : k ≠ i := by
      rintro rfl
      exact hopen _ _ hanswered
    have hk : fresh k c.store :=
      h.fresh k fun a v hdone => hopen a v (hstep.answered_mono hdone)
    exact hserialises.fresh_kept hne hk hfresh hserved
  · intro k a v hk
    rcases hstep.prepared_cases hk with hk | ⟨hread, -⟩
    · obtain ⟨e, first, rest, hlabels, hread, hprepare', hstands'⟩ := h.reads k a v hk
      refine ⟨e, first, rest ++ [.commit i], by rw [hlabels]; simp, hread, hprepare', ?_⟩
      rcases hstands' with hstands' | ⟨j, hspoils, hmem⟩
      · by_cases hspoils : spoils k e.store i
        · exact Or.inr ⟨i, hspoils, List.mem_append_right rest (List.mem_singleton.mpr rfl)⟩
        · exact Or.inl (hserialises.current_kept hstands' hspoils hfresh hserved)
      · exact Or.inr ⟨j, hspoils, List.mem_append_left _ hmem⟩
    · cases hread

/-- Unless some request commits over a commit that spoiled what it had read, an
interleaving leaves the store that serving its requests in the order of their commits
leaves. -/
theorem Serialises.served (h : Serialises db request serves fresh current spoils)
    (hfresh : ∀ i, fresh i s₀) (hrun : Execution (Step db request) (Config.start s₀) labels c)
    (hspared : Spared db request spoils s₀ labels) :
    Execution serves s₀ (committed labels) c.store := by
  have hserial : Serial db request serves fresh current spoils s₀ labels c := by
    induction hrun with
    | refl =>
      refine ⟨.refl, fun i _ => hfresh i, fun i answer writes hprepared => ?_⟩
      cases hprepared
    | @snoc labels c event c' hrun hstep ih =>
      have hbefore := ih hspared.of_snoc
      have htaken := hstep
      cases hstep with
      | read_ok | read_error | refuse => exact hbefore.step_of_store h hrun htaken rfl (by simp)
      | commit hprepared hcommit =>
        exact hbefore.step_of_commit h hspared htaken hprepared (Function.update_self _ _ _) hcommit
  exact hserial.served

/-- A request is among the committed ones exactly when it has answered. -/
theorem mem_committed_iff (hrun : Execution (Step db request) (Config.start s₀) labels c) :
    i ∈ committed labels ↔ ∃ answer writes, c.phase i = .answered answer writes := by
  induction hrun with
  | refl => simp [committed, Config.start]
  | @snoc labels c event c' hrun hstep ih =>
    have hsame (hevent : ∀ k, event ≠ .commit k) : i ∈ committed (labels ++ [event]) ↔
        ∃ answer writes, c'.phase i = .answered answer writes := by
      rw [committed_snoc_of_ne hevent, ih]
      constructor
      · rintro ⟨answer, writes, h⟩
        exact ⟨answer, writes, hstep.answered_mono h⟩
      · rintro ⟨answer, writes, h⟩
        exact ⟨answer, writes, (hstep.answered_cases h).resolve_right fun h => hevent i h.1⟩
    cases hstep with
    | read_ok | read_error | refuse => exact hsame (by simp)
    | @commit k answer writes t hprepared hcommit =>
      rw [committed_snoc_commit, List.mem_append, List.mem_singleton, ih]
      by_cases hik : i = k
      · subst hik
        simp
      · simp [hik]

end transactional
