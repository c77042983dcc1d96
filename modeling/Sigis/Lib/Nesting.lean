namespace nesting

/-- Blocks one after the other, each with the blocks inside it and the way it is left. -/
inductive Nesting (ε : Type)
  | done
  | block (inner : Nesting ε) (leave : ε) (rest : Nesting ε)

variable {σ ε : Type} {enter : σ → σ} {leave : ε → σ → σ}

/-- What the blocks make of a state when every entry and every exit changes it. -/
def Nesting.run (enter : σ → σ) (leave : ε → σ → σ) : Nesting ε → σ → σ
  | .done, s => s
  | .block inner e rest, s => rest.run enter leave (leave e (inner.run enter leave (enter s)))

/-- A property that entries and exits keep is kept by all blocks, whatever their nesting. -/
theorem Nesting.invariant (I : σ → Prop) (henter : ∀ {s}, I s → I (enter s))
    (hleave : ∀ {e s}, I s → I (leave e s)) (blocks : Nesting ε) {s : σ} (h : I s) : I (blocks.run enter leave s) := by
  induction blocks generalizing s with
  | done => exact h
  | block inner e rest ihinner ihrest => exact ihrest (hleave (ihinner (henter h)))

end nesting
