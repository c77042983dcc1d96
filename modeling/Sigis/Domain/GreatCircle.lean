import Sigis.Domain.Distance
import Sigis.Lib.Sphere

open InnerProductGeometry

namespace sigis

/-- A position as a point of the unit sphere. -/
noncomputable def sphere_point (lat lon : ℝ) : EuclideanSpace ℝ (Fin 3) := sphere.point (radians lat) (radians lon)

variable {lat1 lon1 lat2 lon2 lat3 lon3 lat lon : ℝ}

theorem radians_sub (x y : ℝ) : radians (x - y) = radians x - radians y := by
  unfold radians
  ring

theorem radians_add_360 (x : ℝ) : radians (x + 360) = radians x + 2 * Real.pi := by
  unfold radians
  ring

theorem haversine_argument_eq : haversine_argument lat1 lon1 lat2 lon2 =
    Real.sin (angle (sphere_point lat1 lon1) (sphere_point lat2 lon2) / 2) ^ 2 := by
  rw [sphere_point, sphere_point, sphere.sin_sq_half_angle, haversine_argument, radians_sub, radians_sub]

/-- The argument of the square root is between zero and one, so that the root and the arcsine are defined. -/
theorem haversine_argument_mem_Icc : haversine_argument lat1 lon1 lat2 lon2 ∈ Set.Icc 0 1 := by
  rw [haversine_argument_eq]
  exact ⟨sq_nonneg _, Real.sin_sq_le_one _⟩

/-- The formula gives the angle between two positions, seen from the centre of the earth, times its radius. -/
theorem haversine_m_eq_angle :
    haversine_m lat1 lon1 lat2 lon2 = 6371000 * angle (sphere_point lat1 lon1) (sphere_point lat2 lon2) := by
  have hroot : Real.sqrt (haversine_argument lat1 lon1 lat2 lon2) ≤ 1 :=
    Real.sqrt_le_one.mpr haversine_argument_mem_Icc.2
  have hangle := sphere.two_mul_arcsin_sqrt (sphere_point lat1 lon1) (sphere_point lat2 lon2)
  rw [← haversine_argument_eq] at hangle
  rw [haversine_m_eq, min_eq_right hroot, ← hangle]
  ring

theorem sphere_point_add_360 : sphere_point lat (lon + 360) = sphere_point lat lon := by
  rw [sphere_point, radians_add_360, sphere.point_add_two_pi, sphere_point]

theorem haversine_m_comm : haversine_m lat1 lon1 lat2 lon2 = haversine_m lat2 lon2 lat1 lon1 := by
  rw [haversine_m_eq_angle, haversine_m_eq_angle, angle_comm]

theorem haversine_m_add_360_left : haversine_m lat1 (lon1 + 360) lat2 lon2 = haversine_m lat1 lon1 lat2 lon2 := by
  rw [haversine_m_eq_angle, haversine_m_eq_angle, sphere_point_add_360]

theorem haversine_m_add_360_right : haversine_m lat1 lon1 lat2 (lon2 + 360) = haversine_m lat1 lon1 lat2 lon2 := by
  rw [haversine_m_eq_angle, haversine_m_eq_angle, sphere_point_add_360]

/-- No two positions are farther apart than half the circumference. -/
theorem haversine_m_le : haversine_m lat1 lon1 lat2 lon2 ≤ Real.pi * 6371000 := by
  have hangle := angle_le_pi (sphere_point lat1 lon1) (sphere_point lat2 lon2)
  rw [haversine_m_eq_angle]
  linarith

theorem haversine_m_triangle :
    haversine_m lat1 lon1 lat3 lon3 ≤ haversine_m lat1 lon1 lat2 lon2 + haversine_m lat2 lon2 lat3 lon3 := by
  have hangle := angle_le_angle_add_angle (sphere_point lat1 lon1) (sphere_point lat2 lon2) (sphere_point lat3 lon3)
  rw [haversine_m_eq_angle, haversine_m_eq_angle, haversine_m_eq_angle]
  linarith

end sigis
