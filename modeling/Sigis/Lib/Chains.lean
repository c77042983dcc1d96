import Mathlib.Logic.Relation

namespace chains

open Relation

/-- A relation that falls into simple chains: an element has at most one predecessor and at
most one successor, and none comes back to itself. -/
structure SimpleChains {α : Type} (r : α → α → Prop) : Prop where
  acyclic : ∀ a, ¬ TransGen r a a
  left_unique : ∀ {a b c}, r a c → r b c → a = b
  right_unique : ∀ {a b c}, r a b → r a c → b = c

namespace SimpleChains

variable {α β : Type} {r : α → α → Prop} {a b c : α}

theorem empty (h : ∀ a b, ¬ r a b) : SimpleChains r where
  acyclic := by
    intro a hcycle
    obtain ⟨b, hab, -⟩ := TransGen.head'_iff.mp hcycle
    exact h a b hab
  left_unique hac := (h _ _ hac).elim
  right_unique hab := (h _ _ hab).elim

/-- From the old end `p` of a chain to the new element `n`. -/
def Extended (r : α → α → Prop) (p n a b : α) : Prop := r a b ∨ (a = p ∧ b = n)

section extend

variable {p n : α}

/-- A path that takes the new link ends there. -/
theorem transGen_extended (hout : ∀ b, ¬ r n b) (hne : n ≠ p) (h : TransGen (Extended r p n) a b) :
    b = n ∨ TransGen r a b := by
  induction h with
  | single hab =>
    rcases hab with hab | ⟨-, hb⟩
    · exact Or.inr (.single hab)
    · exact Or.inl hb
  | @tail b c _ hbc ih =>
    rcases hbc with hbc | ⟨rfl, hc⟩
    · rcases ih with rfl | ih
      · exact (hout c hbc).elim
      · exact Or.inr (ih.tail hbc)
    · exact Or.inl hc

/-- A new element after the end of a chain leaves the chains simple. -/
theorem extend (h : SimpleChains r) (hend : ∀ b, ¬ r p b) (hin : ∀ a, ¬ r a n) (hout : ∀ b, ¬ r n b) (hne : n ≠ p) :
    SimpleChains (Extended r p n) where
  acyclic := by
    intro a hcycle
    rcases transGen_extended hout hne hcycle with rfl | hold
    · obtain ⟨b, hab, -⟩ := TransGen.head'_iff.mp hcycle
      rcases hab with hab | ⟨heq, -⟩
      · exact hout b hab
      · exact hne heq
    · exact h.acyclic a hold
  left_unique := by
    rintro a b c (hac | ⟨rfl, rfl⟩) (hbc | ⟨rfl, hc⟩)
    · exact h.left_unique hac hbc
    · exact (hin a (hc ▸ hac)).elim
    · exact (hin b hbc).elim
    · rfl
  right_unique := by
    rintro a b c (hab | ⟨rfl, rfl⟩) (hac | ⟨ha, rfl⟩)
    · exact h.right_unique hab hac
    · exact (hend b (ha ▸ hab)).elim
    · exact (hend c hac).elim
    · rfl

end extend

/-- Of two elements of one chain, one leads to the other. -/
theorem comparable (h : SimpleChains r) (hab : EqvGen r a b) : ReflTransGen r a b ∨ ReflTransGen r b a := by
  have hforward : ∀ {a b c}, ReflTransGen r a b → ReflTransGen r a c → ReflTransGen r b c ∨ ReflTransGen r c b :=
    fun hab hac => ReflTransGen.total_of_right_unique (fun _ _ _ => h.right_unique) hab hac
  have hbackward : ∀ {a b c}, ReflTransGen r b a → ReflTransGen r c a → ReflTransGen r b c ∨ ReflTransGen r c b := by
    intro a b c hba hca
    have htotal := ReflTransGen.total_of_right_unique (r := Function.swap r) (fun _ _ _ => h.left_unique)
      (reflTransGen_swap.mpr hba) (reflTransGen_swap.mpr hca)
    exact htotal.symm.imp reflTransGen_swap.mp reflTransGen_swap.mp
  induction hab with
  | rel a b hab => exact Or.inl (.single hab)
  | refl a => exact Or.inl .refl
  | symm a b _ ih => exact ih.symm
  | trans a b c _ _ ih ih' =>
    rcases ih with hab | hba
    · rcases ih' with hbc | hcb
      · exact Or.inl (hab.trans hbc)
      · exact hbackward hab hcb
    · rcases ih' with hbc | hcb
      · exact hforward hba hbc
      · exact Or.inr (hcb.trans hba)

/-- Every element of its chain leads to one that has no successor. -/
theorem leads_to_end (h : SimpleChains r) (hab : EqvGen r a b) (hend : ∀ c, ¬ r b c) : ReflTransGen r a b := by
  rcases h.comparable hab with hlead | hlead
  · exact hlead
  · rcases hlead.cases_head with rfl | ⟨c, hbc, -⟩
    · exact .refl
    · exact (hend c hbc).elim

/-- A chain has at most one end. -/
theorem end_unique (h : SimpleChains r) (hab : EqvGen r a b) (ha : ∀ c, ¬ r a c) (hb : ∀ c, ¬ r b c) : a = b := by
  rcases (h.leads_to_end hab hb).cases_head with rfl | ⟨c, hac, -⟩
  · rfl
  · exact (ha c hac).elim

end SimpleChains

end chains
