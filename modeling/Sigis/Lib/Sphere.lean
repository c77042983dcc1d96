import Mathlib.Analysis.InnerProductSpace.PiL2
import Mathlib.Geometry.Euclidean.Angle.Unoriented.TriangleInequality

open InnerProductGeometry

namespace sphere

noncomputable def versine (x : ℝ) : ℝ := 1 - Real.cos x

theorem versine_eq (x : ℝ) : versine x = 2 * Real.sin (x / 2) ^ 2 := by
  rw [versine, Real.sin_sq_eq_half_sub, mul_div_cancel₀ x two_ne_zero]
  ring

/-- The point of the unit sphere at a latitude `φ` and a longitude `l`, in radians. -/
noncomputable def point (φ l : ℝ) : EuclideanSpace ℝ (Fin 3) :=
  WithLp.toLp _ ![Real.cos φ * Real.cos l, Real.cos φ * Real.sin l, Real.sin φ]

variable (φ l φ₁ l₁ φ₂ l₂ : ℝ)

theorem inner_point : inner ℝ (point φ₁ l₁) (point φ₂ l₂) =
    1 - (versine (φ₂ - φ₁) + Real.cos φ₁ * Real.cos φ₂ * versine (l₂ - l₁)) := by
  have hinner : inner ℝ (point φ₁ l₁) (point φ₂ l₂) =
      Real.cos φ₁ * Real.cos φ₂ * Real.cos (l₂ - l₁) + Real.sin φ₁ * Real.sin φ₂ := by
    simp only [point, PiLp.inner_apply, Fin.sum_univ_three, RCLike.inner_apply, conj_trivial, Real.cos_sub]
    simp
    ring
  rw [hinner, versine, versine, Real.cos_sub φ₂ φ₁]
  ring

theorem norm_point : ‖point φ l‖ = 1 := by
  have hinner := inner_point φ l φ l
  rw [sub_self, sub_self, versine, Real.cos_zero, sub_self, mul_zero, add_zero, sub_zero,
    real_inner_self_eq_norm_sq] at hinner
  exact (pow_eq_one_iff_of_nonneg (norm_nonneg _) two_ne_zero).mp hinner

theorem point_add_two_pi : point φ (l + 2 * Real.pi) = point φ l := by
  rw [point, Real.cos_add_two_pi, Real.sin_add_two_pi, point]

theorem versine_angle : versine (angle (point φ₁ l₁) (point φ₂ l₂)) =
    versine (φ₂ - φ₁) + Real.cos φ₁ * Real.cos φ₂ * versine (l₂ - l₁) := by
  rw [versine, cos_angle, norm_point, norm_point, inner_point, one_mul, div_one]
  ring

/-- The law of haversines, for the angle between two points of the sphere. -/
theorem sin_sq_half_angle : Real.sin (angle (point φ₁ l₁) (point φ₂ l₂) / 2) ^ 2 =
    Real.sin ((φ₂ - φ₁) / 2) ^ 2 + Real.cos φ₁ * Real.cos φ₂ * Real.sin ((l₂ - l₁) / 2) ^ 2 := by
  have hlaw := versine_angle φ₁ l₁ φ₂ l₂
  rw [versine_eq, versine_eq, versine_eq] at hlaw
  linarith

/-- An angle is twice the arcsine of the root of its haversine. -/
theorem two_mul_arcsin_sqrt {V : Type} [NormedAddCommGroup V] [InnerProductSpace ℝ V] (x y : V) :
    2 * Real.arcsin (Real.sqrt (Real.sin (angle x y / 2) ^ 2)) = angle x y := by
  have hnonneg := angle_nonneg x y
  have hle := angle_le_pi x y
  have hsin : 0 ≤ Real.sin (angle x y / 2) := Real.sin_nonneg_of_nonneg_of_le_pi (by linarith) (by linarith)
  rw [Real.sqrt_sq hsin, Real.arcsin_sin (by linarith) (by linarith)]
  ring

end sphere
