import Mathlib.Analysis.SpecialFunctions.Trigonometric.Inverse

namespace sigis

/-- `math.radians`. -/
noncomputable def radians (x : ℝ) : ℝ := x * Real.pi / 180

/-- The great-circle distance in metres, over exact reals. -/
noncomputable def haversine_m (lat1 lon1 lat2 lon2 : ℝ) : ℝ :=
  let r := 6371000
  let p1 := radians lat1
  let p2 := radians lat2
  let dphi := radians (lat2 - lat1)
  let dl := radians (lon2 - lon1)
  let a := Real.sin (dphi / 2) ^ 2 + Real.cos p1 * Real.cos p2 * Real.sin (dl / 2) ^ 2
  2 * r * Real.arcsin (min 1 (Real.sqrt a))

/-- What `haversine_m` takes the square root of. -/
noncomputable def haversine_argument (lat1 lon1 lat2 lon2 : ℝ) : ℝ :=
  Real.sin (radians (lat2 - lat1) / 2) ^ 2 +
    Real.cos (radians lat1) * Real.cos (radians lat2) * Real.sin (radians (lon2 - lon1) / 2) ^ 2

theorem haversine_m_eq (lat1 lon1 lat2 lon2 : ℝ) : haversine_m lat1 lon1 lat2 lon2 =
    2 * 6371000 * Real.arcsin (min 1 (Real.sqrt (haversine_argument lat1 lon1 lat2 lon2))) := rfl

/-- Equal positions are at distance zero. -/
theorem haversine_m_self (lat lon : ℝ) : haversine_m lat lon lat lon = 0 := by
  simp [haversine_m, radians]

end sigis
