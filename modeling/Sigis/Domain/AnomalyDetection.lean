import Sigis.Domain.GreatCircle
import Sigis.Domain.Shared

open guarded

namespace sigis

/-- The kinds of anomalies (`domain/shared/anomaly_detection.py`). -/
inductive AnomalyType
  | GPS_CLONE
  | VISIT_TOO_SHORT
  | GPS_POOR_QUALITY
  | RAPID_CHECKINS
  | IMPOSSIBLE_TRAVEL
  | DEVICE_KEY_MISMATCH
deriving DecidableEq, Repr

inductive AnomalySeverity
  | LOW
  | MEDIUM
  | HIGH
deriving DecidableEq, Repr

/-- A part of an f-string: a text, or a number printed with so many decimals. -/
inductive FString (F : Type)
  | text (s : String)
  | float (x : F) (decimals : Nat)
  | rational (x : ℚ) (decimals : Nat)
deriving DecidableEq, Repr

structure Anomaly (F : Type) where
  id : UUID
  type : AnomalyType
  severity : AnomalySeverity
  description : List (FString F)
  entity_type : String
  entity_id : UUID
  inspector_id : Option UUID := none
  detected_at : datetime
deriving DecidableEq, Repr

/-- A fix: `(lat, lon, time)`. -/
structure Location (F : Type) where
  lat : F
  lon : F
  time : datetime

section detection

variable {F : Type} (haversine_m : F → F → F → F → F)

/-- The anomaly of one previous fix, `__post_init__` reading the clock at `now`. -/
def clone_anomaly (inspector_id : UUID) (dist : F) (time_gap : ℚ) (now : Int) : Anomaly F where
  id := ⟨"00000000-0000-0000-0000-000000000003"⟩
  type := .GPS_CLONE
  severity := .HIGH
  description := [.text "Check-in same location ", .float dist 0, .text "m apart, ", .rational time_gap 1,
    .text "min gap"]
  entity_type := "presence_proof"
  entity_id := ⟨"00000000-0000-0000-0000-000000000000"⟩
  inspector_id := some inspector_id
  detected_at := .utc now

/-- `haversine_m(current_lat, current_lon, prev_lat, prev_lon)`. -/
def Location.distance (current prev : Location F) : F := haversine_m current.lat current.lon prev.lat prev.lon

/-- `(current_time - prev_time).total_seconds() / 60`, of two times that have a difference, as an
exact rational. -/
def Location.time_gap (current prev : Location F) : ℚ :=
  total_seconds (current.time.instant - prev.time.instant) / 60

variable [LinearOrder F]

/-- The loop over the previous fixes; `clock k` is what the clock reads when the anomaly after `k` others
is made. -/
def clone_loop (clock : Nat → Int) (inspector_id : UUID) (current : Location F) (max_radius_meters : F)
    (min_time_gap_minutes : ℚ) : List (Location F) → List (Anomaly F) → Except TypeError (List (Anomaly F))
  | [], anomalies => .ok anomalies
  | prev :: rest, anomalies => do
    let dist := current.distance haversine_m prev
    let elapsed ← current.time.sub prev.time
    let time_gap := total_seconds elapsed / 60
    if dist ≤ max_radius_meters ∧ time_gap ≤ min_time_gap_minutes then
      clone_loop clock inspector_id current max_radius_meters min_time_gap_minutes rest
        (anomalies ++ [clone_anomaly inspector_id dist time_gap (clock anomalies.length)])
    else clone_loop clock inspector_id current max_radius_meters min_time_gap_minutes rest anomalies

def detect_gps_clone_scenario [NatCast F] (clock : Nat → Int) (inspector_id : UUID)
    (prev_locations : List (Location F)) (current : Location F) (max_radius_meters : F := ((50 : Nat) : F))
    (min_time_gap_minutes : ℚ := 1) : Except TypeError (Option (List (Anomaly F))) := do
  let anomalies ← clone_loop haversine_m clock inspector_id current max_radius_meters min_time_gap_minutes
    prev_locations []
  return if anomalies = [] then none else some anomalies

variable {haversine_m} {clock : Nat → Int} {inspector_id : UUID} {current prev : Location F}
  {prev_locations : List (Location F)} {max_radius_meters : F} {min_time_gap_minutes : ℚ}

/-- The anomaly is about the fix. -/
def IsClone (haversine_m : F → F → F → F → F) (inspector_id : UUID) (current prev : Location F) (a : Anomaly F) :
    Prop :=
  ∃ now, a = clone_anomaly inspector_id (current.distance haversine_m prev) (current.time_gap prev) now

/-- The test of the loop. -/
def Flagged (haversine_m : F → F → F → F → F) (current : Location F) (max_radius_meters : F)
    (min_time_gap_minutes : ℚ) (prev : Location F) : Prop :=
  current.distance haversine_m prev ≤ max_radius_meters ∧ current.time_gap prev ≤ min_time_gap_minutes

instance Flagged.decidable (current : Location F) (max_radius_meters : F) (min_time_gap_minutes : ℚ) :
    DecidablePred (Flagged haversine_m current max_radius_meters min_time_gap_minutes) :=
  fun _ => inferInstanceAs (Decidable (_ ∧ _))

theorem clone_loop_cons {anomalies : List (Anomaly F)} (hcomparable : current.time.Comparable prev.time) :
    clone_loop haversine_m clock inspector_id current max_radius_meters min_time_gap_minutes (prev :: prev_locations)
        anomalies =
      clone_loop haversine_m clock inspector_id current max_radius_meters min_time_gap_minutes prev_locations
        (if Flagged haversine_m current max_radius_meters min_time_gap_minutes prev then
          anomalies ++ [clone_anomaly inspector_id (current.distance haversine_m prev) (current.time_gap prev)
            (clock anomalies.length)]
        else anomalies) := by
  rw [clone_loop, datetime.sub_eq_ok_iff.mpr ⟨hcomparable, rfl⟩, bind_ok]
  exact (apply_ite _ _ _ _).symm

/-- Over fixes whose times have a difference to the current one, the loop adds an anomaly for each flagged fix. -/
theorem exists_clone_loop_eq (haversine_m : F → F → F → F → F) (clock : Nat → Int) (inspector_id : UUID)
    (max_radius_meters : F) (min_time_gap_minutes : ℚ)
    (hcomparable : ∀ prev ∈ prev_locations, current.time.Comparable prev.time) (anomalies : List (Anomaly F)) :
    ∃ found, clone_loop haversine_m clock inspector_id current max_radius_meters min_time_gap_minutes prev_locations
        anomalies = .ok (anomalies ++ found) ∧
      List.Forall₂ (IsClone haversine_m inspector_id current)
        (prev_locations.filter (Flagged haversine_m current max_radius_meters min_time_gap_minutes)) found := by
  induction prev_locations generalizing anomalies with
  | nil => exact ⟨[], by rw [clone_loop, List.append_nil], .nil⟩
  | cons prev rest ih =>
    obtain ⟨hprev, hrest⟩ := List.forall_mem_cons.mp hcomparable
    rw [clone_loop_cons hprev]
    by_cases hflagged : Flagged haversine_m current max_radius_meters min_time_gap_minutes prev
    · rw [if_pos hflagged, List.filter_cons_of_pos (by simpa using hflagged)]
      obtain ⟨found, hloop, hfound⟩ := ih hrest _
      exact ⟨_ :: found, by rw [hloop, List.append_assoc, List.singleton_append], .cons ⟨_, rfl⟩ hfound⟩
    · rw [if_neg hflagged, List.filter_cons_of_neg (by simpa using hflagged)]
      exact ih hrest _

/-- The loop raises on the first fix whose time has no difference to the current one. -/
theorem comparable_of_clone_loop {anomalies result : List (Anomaly F)}
    (h : clone_loop haversine_m clock inspector_id current max_radius_meters min_time_gap_minutes prev_locations
      anomalies = .ok result) : ∀ prev ∈ prev_locations, current.time.Comparable prev.time := by
  induction prev_locations generalizing anomalies with
  | nil => simp
  | cons prev rest ih =>
    obtain ⟨elapsed, helapsed, -⟩ := bind_eq_ok_iff.mp h
    have hprev := (datetime.sub_eq_ok_iff.mp helapsed).1
    rw [clone_loop_cons hprev] at h
    exact List.forall_mem_cons.mpr ⟨hprev, ih h⟩

variable [NatCast F]

/-- The anomalies a call returns, `None` standing for no anomaly. -/
theorem exists_detect_eq (haversine_m : F → F → F → F → F) (clock : Nat → Int) (inspector_id : UUID)
    (max_radius_meters : F) (min_time_gap_minutes : ℚ)
    (hcomparable : ∀ prev ∈ prev_locations, current.time.Comparable prev.time) : ∃ result,
      detect_gps_clone_scenario haversine_m clock inspector_id prev_locations current max_radius_meters
        min_time_gap_minutes = .ok result ∧
      List.Forall₂ (IsClone haversine_m inspector_id current)
        (prev_locations.filter (Flagged haversine_m current max_radius_meters min_time_gap_minutes))
        (result.getD []) ∧
      (result = none ↔ ∀ prev ∈ prev_locations, ¬ Flagged haversine_m current max_radius_meters min_time_gap_minutes
        prev) := by
  obtain ⟨found, hloop, hfound⟩ := exists_clone_loop_eq haversine_m clock inspector_id max_radius_meters
    min_time_gap_minutes hcomparable []
  have hnone : found = [] ↔ ∀ prev ∈ prev_locations,
      ¬ Flagged haversine_m current max_radius_meters min_time_gap_minutes prev := by
    rw [← List.length_eq_zero_iff, ← hfound.length_eq, List.length_eq_zero_iff, List.filter_eq_nil_iff]
    simp only [decide_eq_true_eq]
  refine ⟨_, bind_eq_ok_iff.mpr ⟨_, hloop, rfl⟩, ?_, ?_⟩
  · by_cases hempty : found = [] <;> simpa [hempty] using hfound
  · rw [List.nil_append, ← hnone]
    by_cases hempty : found = [] <;> simp [hempty]

theorem comparable_of_detect {result : Option (List (Anomaly F))}
    (h : detect_gps_clone_scenario haversine_m clock inspector_id prev_locations current max_radius_meters
      min_time_gap_minutes = .ok result) : ∀ prev ∈ prev_locations, current.time.Comparable prev.time := by
  obtain ⟨anomalies, hloop, -⟩ := bind_eq_ok_iff.mp h
  exact comparable_of_clone_loop hloop

/-- The two fixes are within the radius and within the gap of each other. -/
def Clones (haversine_m : F → F → F → F → F) (current : Location F) (max_radius_meters : F)
    (min_time_gap_minutes : ℚ) (prev : Location F) : Prop :=
  current.distance haversine_m prev ≤ max_radius_meters ∧ |current.time_gap prev| ≤ min_time_gap_minutes

instance Clones.decidable (current : Location F) (max_radius_meters : F) (min_time_gap_minutes : ℚ) :
    DecidablePred (Clones haversine_m current max_radius_meters min_time_gap_minutes) :=
  fun _ => inferInstanceAs (Decidable (_ ∧ _))

/-- What is asked of the detection: an anomaly for each clone of the current fix and `None` without one, as
many whatever the order of the fixes, and two fixes that flag each other whichever is the current one. -/
structure ClonesDetected (haversine_m : F → F → F → F → F) (inspector_id : UUID) (prev_locations : List (Location F))
    (current : Location F) (max_radius_meters : F) (min_time_gap_minutes : ℚ) : Prop where
  flagged : ∀ clock, ∃ result,
    detect_gps_clone_scenario haversine_m clock inspector_id prev_locations current max_radius_meters
      min_time_gap_minutes = .ok result ∧
    List.Forall₂ (IsClone haversine_m inspector_id current)
      (prev_locations.filter (Clones haversine_m current max_radius_meters min_time_gap_minutes)) (result.getD []) ∧
    (result = none ↔ ∀ prev ∈ prev_locations, ¬ Clones haversine_m current max_radius_meters min_time_gap_minutes prev)
  unordered : ∀ clock clock' other, List.Perm other prev_locations → ∃ result result',
    detect_gps_clone_scenario haversine_m clock inspector_id prev_locations current max_radius_meters
      min_time_gap_minutes = .ok result ∧
    detect_gps_clone_scenario haversine_m clock' inspector_id other current max_radius_meters
      min_time_gap_minutes = .ok result' ∧ (result.getD []).length = (result'.getD []).length
  symmetric : ∀ clock clock', ∀ prev ∈ prev_locations, ∃ result result',
    detect_gps_clone_scenario haversine_m clock inspector_id [prev] current max_radius_meters
      min_time_gap_minutes = .ok result ∧
    detect_gps_clone_scenario haversine_m clock' inspector_id [current] prev max_radius_meters
      min_time_gap_minutes = .ok result' ∧ (result = none ↔ result' = none)

end detection

variable {inspector_id : UUID} {prev_locations : List (Location ℝ)} {current prev : Location ℝ}
  {max_radius_meters : ℝ} {min_time_gap_minutes : ℚ}

theorem Location.distance_comm (current prev : Location ℝ) :
    prev.distance haversine_m current = current.distance haversine_m prev := haversine_m_comm

theorem Location.time_gap_swap (current prev : Location ℝ) : prev.time_gap current = -current.time_gap prev := by
  unfold Location.time_gap total_seconds
  push_cast
  ring

/-- Fixes are clones when each is flagged by the other. -/
theorem clones_iff_flagged : Clones haversine_m current max_radius_meters min_time_gap_minutes prev ↔
    Flagged haversine_m current max_radius_meters min_time_gap_minutes prev ∧
      Flagged haversine_m prev max_radius_meters min_time_gap_minutes current := by
  unfold Clones Flagged
  rw [Location.distance_comm current prev, Location.time_gap_swap current prev, abs_le']
  constructor
  · rintro ⟨hdist, hlater, hearlier⟩
    exact ⟨⟨hdist, hlater⟩, hdist, hearlier⟩
  · rintro ⟨⟨hdist, hlater⟩, -, hearlier⟩
    exact ⟨hdist, hlater, hearlier⟩

/-- Of two fixes within the radius, one at least is flagged by the other. -/
theorem flagged_or_flagged (hgap : 0 ≤ min_time_gap_minutes)
    (hdist : current.distance haversine_m prev ≤ max_radius_meters) :
    Flagged haversine_m current max_radius_meters min_time_gap_minutes prev ∨
      Flagged haversine_m prev max_radius_meters min_time_gap_minutes current := by
  have hback : prev.distance haversine_m current ≤ max_radius_meters := by rwa [Location.distance_comm]
  rcases le_total (current.time_gap prev) 0 with hpast | hpast
  · exact Or.inl ⟨hdist, hpast.trans hgap⟩
  · refine Or.inr ⟨hback, ?_⟩
    rw [Location.time_gap_swap]
    linarith

/-- A call on one fix answers `None` when it is not flagged. -/
theorem exists_detect_one (current prev : Location ℝ) (clock : Nat → Int) (inspector_id : UUID)
    (max_radius_meters : ℝ) (min_time_gap_minutes : ℚ) (hcomparable : current.time.Comparable prev.time) : ∃ result,
      detect_gps_clone_scenario haversine_m clock inspector_id [prev] current max_radius_meters
        min_time_gap_minutes = .ok result ∧
      (result = none ↔ ¬ Flagged haversine_m current max_radius_meters min_time_gap_minutes prev) := by
  obtain ⟨result, hdetect, -, hnone⟩ := exists_detect_eq haversine_m clock inspector_id
    max_radius_meters min_time_gap_minutes (List.forall_mem_singleton.mpr hcomparable)
  exact ⟨result, hdetect, hnone.trans List.forall_mem_singleton⟩

/-- The number of anomalies is the same whatever the order of the fixes. -/
theorem exists_detect_perm {other : List (Location ℝ)} (clock clock' : Nat → Int) (inspector_id : UUID)
    (max_radius_meters : ℝ) (min_time_gap_minutes : ℚ)
    (hcomparable : ∀ prev ∈ prev_locations, current.time.Comparable prev.time) (hperm : other.Perm prev_locations) :
    ∃ result result',
      detect_gps_clone_scenario haversine_m clock inspector_id prev_locations current max_radius_meters
        min_time_gap_minutes = .ok result ∧
      detect_gps_clone_scenario haversine_m clock' inspector_id other current max_radius_meters
        min_time_gap_minutes = .ok result' ∧ (result.getD []).length = (result'.getD []).length := by
  obtain ⟨result, hdetect, hfound, -⟩ := exists_detect_eq haversine_m clock inspector_id
    max_radius_meters min_time_gap_minutes hcomparable
  obtain ⟨result', hdetect', hfound', -⟩ := exists_detect_eq haversine_m clock' inspector_id
    max_radius_meters min_time_gap_minutes fun prev hprev => hcomparable prev (hperm.mem_iff.mp hprev)
  refine ⟨result, result', hdetect, hdetect', ?_⟩
  rw [← hfound.length_eq, ← hfound'.length_eq, (hperm.filter _).length_eq]

/-- Two fixes flag each other in both orders or in none, where the detection is as it should be. -/
theorem ClonesDetected.flagged_iff (h : ClonesDetected haversine_m inspector_id prev_locations current
    max_radius_meters min_time_gap_minutes) (hprev : prev ∈ prev_locations)
    (hcomparable : current.time.Comparable prev.time) :
    Flagged haversine_m current max_radius_meters min_time_gap_minutes prev ↔
      Flagged haversine_m prev max_radius_meters min_time_gap_minutes current := by
  obtain ⟨result, result', hdetect, hdetect', hsymmetric⟩ := h.symmetric (fun _ => 0) (fun _ => 0) prev hprev
  obtain ⟨first, hfirst, hnone⟩ := exists_detect_one current prev (fun _ => 0) inspector_id max_radius_meters
    min_time_gap_minutes hcomparable
  obtain ⟨second, hsecond, hnone'⟩ := exists_detect_one prev current (fun _ => 0) inspector_id
    max_radius_meters min_time_gap_minutes hcomparable.symm
  cases hdetect.symm.trans hfirst
  cases hdetect'.symm.trans hsecond
  exact not_iff_not.mp (hnone.symm.trans (hsymmetric.trans hnone'))

/-- Fixes within the radius that flag each other in both orders or in none are clones. -/
theorem clones_of_flagged_iff (hgap : 0 ≤ min_time_gap_minutes)
    (hdist : current.distance haversine_m prev ≤ max_radius_meters)
    (hboth : Flagged haversine_m current max_radius_meters min_time_gap_minutes prev ↔
      Flagged haversine_m prev max_radius_meters min_time_gap_minutes current) :
    Clones haversine_m current max_radius_meters min_time_gap_minutes prev := by
  rw [clones_iff_flagged]
  rcases flagged_or_flagged hgap hdist with hflagged | hflagged
  · exact ⟨hflagged, hboth.mp hflagged⟩
  · exact ⟨hboth.mpr hflagged, hflagged⟩

section near

variable (hnear : current.distance haversine_m prev ≤ max_radius_meters →
  |current.time_gap prev| ≤ min_time_gap_minutes)
include hnear

/-- Where being within the radius means being within the gap, the loop flags the clones. -/
theorem flagged_iff_clones : Flagged haversine_m current max_radius_meters min_time_gap_minutes prev ↔
    Clones haversine_m current max_radius_meters min_time_gap_minutes prev :=
  ⟨fun hflagged => ⟨hflagged.1, hnear hflagged.1⟩, fun hclones => (clones_iff_flagged.mp hclones).1⟩

theorem flagged_back_iff_clones : Flagged haversine_m prev max_radius_meters min_time_gap_minutes current ↔
    Clones haversine_m current max_radius_meters min_time_gap_minutes prev := by
  constructor
  · intro hback
    have hdist := hback.1
    rw [Location.distance_comm] at hdist
    exact ⟨hdist, hnear hdist⟩
  · exact fun hclones => (clones_iff_flagged.mp hclones).2

end near

/-- Clones are detected as they should exactly when the times have differences and no fix within the radius is
further than the gap from the current one in time: the loop takes the difference with its sign, so that it flags
every later fix at the place, and two fixes far apart in time flag each other in one order only. -/
theorem clones_detected_iff (inspector_id : UUID) (prev_locations : List (Location ℝ)) (current : Location ℝ)
    (max_radius_meters : ℝ) (hgap : 0 ≤ min_time_gap_minutes) :
    ClonesDetected haversine_m inspector_id prev_locations current max_radius_meters min_time_gap_minutes ↔
      ∀ prev ∈ prev_locations, current.time.Comparable prev.time ∧
        (current.distance haversine_m prev ≤ max_radius_meters → |current.time_gap prev| ≤ min_time_gap_minutes) := by
  constructor
  · intro h prev hprev
    obtain ⟨result, -, hdetect, -⟩ := h.symmetric (fun _ => 0) (fun _ => 0) prev hprev
    have hcomparable := comparable_of_detect hdetect prev (List.mem_singleton_self prev)
    exact ⟨hcomparable, fun hdist => (clones_of_flagged_iff hgap hdist (h.flagged_iff hprev hcomparable)).2⟩
  · intro h
    have hcomparable : ∀ prev ∈ prev_locations, current.time.Comparable prev.time := fun prev hprev => (h prev hprev).1
    have hfilter : prev_locations.filter (Flagged haversine_m current max_radius_meters min_time_gap_minutes) =
        prev_locations.filter (Clones haversine_m current max_radius_meters min_time_gap_minutes) :=
      List.filter_congr fun prev hprev => decide_eq_decide.mpr (flagged_iff_clones (h prev hprev).2)
    refine ⟨fun clock => ?_, fun clock clock' other hperm => ?_, fun clock clock' prev hprev => ?_⟩
    · obtain ⟨result, hdetect, hfound, hnone⟩ := exists_detect_eq haversine_m clock inspector_id
        max_radius_meters min_time_gap_minutes hcomparable
      refine ⟨result, hdetect, hfilter ▸ hfound, hnone.trans (forall₂_congr fun prev hprev => ?_)⟩
      rw [flagged_iff_clones (h prev hprev).2]
    · exact exists_detect_perm clock clock' inspector_id max_radius_meters min_time_gap_minutes hcomparable hperm
    · obtain ⟨first, hfirst, hnone⟩ := exists_detect_one current prev clock inspector_id max_radius_meters
        min_time_gap_minutes (hcomparable prev hprev)
      obtain ⟨second, hsecond, hnone'⟩ := exists_detect_one prev current clock' inspector_id max_radius_meters
        min_time_gap_minutes (hcomparable prev hprev).symm
      refine ⟨first, second, hfirst, hsecond, ?_⟩
      rw [hnone, hnone', flagged_iff_clones (h prev hprev).2, flagged_back_iff_clones (h prev hprev).2]

namespace pilot

/-- The inspector at one place, some seconds after midnight. -/
noncomputable def fix (seconds : Int) : Location ℝ := ⟨0, 0, .utc (seconds * 1000000)⟩

theorem distance_fix (a b : Int) : (fix a).distance haversine_m (fix b) = 0 := haversine_m_self 0 0

theorem time_gap_fix (a b : Int) : (fix a).time_gap (fix b) = (a - b : ℚ) / 60 := by
  simp only [fix, Location.time_gap, total_seconds, datetime.instant_utc]
  push_cast
  ring

end pilot

/-- The three fixes of the half minute before are clones. -/
theorem pilot_clones_detected :
    ClonesDetected haversine_m ⟨"inspector"⟩ [pilot.fix 0, pilot.fix 10, pilot.fix 20] (pilot.fix 30) 50 1 := by
  refine (clones_detected_iff ⟨"inspector"⟩ _ (pilot.fix 30) 50 zero_le_one).mpr ?_
  have hgap {seconds : Int} (h : |(30 - seconds : ℚ) / 60| ≤ 1) :
      (pilot.fix 30).time.Comparable (pilot.fix seconds).time ∧
        ((pilot.fix 30).distance haversine_m (pilot.fix seconds) ≤ 50 →
          |(pilot.fix 30).time_gap (pilot.fix seconds)| ≤ 1) := by
    refine ⟨rfl, fun _ => ?_⟩
    rw [pilot.time_gap_fix]
    exact_mod_cast h
  intro prev hprev
  simp only [List.mem_cons, List.not_mem_nil, or_false] at hprev
  rcases hprev with rfl | rfl | rfl
  all_goals exact hgap (by norm_num [abs_le])

/-- A fix that is uploaded after one of an hour later is flagged, though they are no clones. -/
theorem later_fix_flagged : ∃ anomalies,
    detect_gps_clone_scenario haversine_m (fun _ => 0) ⟨"inspector"⟩ [pilot.fix 3600] (pilot.fix 0) 50 1 =
      .ok (some anomalies) ∧
    ¬ Clones haversine_m (pilot.fix 0) 50 1 (pilot.fix 3600) ∧
    ¬ ClonesDetected haversine_m ⟨"inspector"⟩ [pilot.fix 3600] (pilot.fix 0) 50 1 := by
  have hflagged : Flagged haversine_m (pilot.fix 0) 50 1 (pilot.fix 3600) := by
    rw [Flagged, pilot.distance_fix, pilot.time_gap_fix]
    norm_num
  have hclones : ¬ Clones haversine_m (pilot.fix 0) 50 1 (pilot.fix 3600) := by
    rw [Clones, pilot.distance_fix, pilot.time_gap_fix]
    norm_num
  obtain ⟨result, hdetect, hnone⟩ := exists_detect_one (pilot.fix 0) (pilot.fix 3600) (fun _ => 0) ⟨"inspector"⟩
    50 1 rfl
  cases result with
  | none => exact absurd hflagged (hnone.mp rfl)
  | some anomalies =>
    refine ⟨anomalies, hdetect, hclones, fun h => ?_⟩
    obtain ⟨found, hfound, -, hnothing⟩ := h.flagged fun _ => 0
    cases hdetect.symm.trans hfound
    cases hnothing.mpr (List.forall_mem_singleton.mpr hclones)

end sigis
