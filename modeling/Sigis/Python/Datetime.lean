import Mathlib.Data.Rat.Defs
import Mathlib.Order.Basic

namespace sigis

/-- What Python raises on operands that an operator does not combine. -/
structure TypeError where
  message : String
deriving DecidableEq, Repr

/-- What Python raises when a date would leave the years 1 to 9999. -/
structure OverflowError where
deriving DecidableEq, Repr

/-- A Python `datetime`: the wall-clock fields, counted in microseconds from
1970-01-01T00:00, and the UTC offset in microseconds when it is aware. -/
structure datetime where
  wall : Int
  utcoffset : Option Int
deriving DecidableEq, Repr

namespace datetime

/-- The instant an aware value denotes; a naive one is read as UTC. -/
def instant (dt : datetime) : Int := dt.wall - dt.utcoffset.getD 0

/-- `datetime.now(UTC)` when the clock stands at `instant`. -/
def utc (instant : Int) : datetime := ⟨instant, some 0⟩

/-- `dt if dt.tzinfo else dt.replace(tzinfo=UTC)`, the `_aware` helper of the domain. -/
def aware (dt : datetime) : datetime :=
  if dt.utcoffset.isSome then dt else { dt with utcoffset := some 0 }

/-- `dt.astimezone(UTC) if dt.tzinfo else dt.replace(tzinfo=UTC)`. -/
def to_utc (dt : datetime) : datetime := utc dt.instant

/-- What a `DateTime` column of the default SQLite backend keeps: the wall-clock
fields, without the offset. -/
def stored (dt : datetime) : datetime := ⟨dt.wall, none⟩

/-- Aware values are ordered by the instants they denote. -/
instance : LE datetime := ⟨fun a b => a.instant ≤ b.instant⟩

instance (a b : datetime) : Decidable (a ≤ b) := inferInstanceAs (Decidable (a.instant ≤ b.instant))

/-- Two values have a difference when both are aware or both are naive. -/
def Comparable (a b : datetime) : Prop := a.utcoffset.isSome = b.utcoffset.isSome

instance (a b : datetime) : Decidable (a.Comparable b) := inferInstanceAs (Decidable (_ = _))

/-- `a - b`, in microseconds. -/
def sub (a b : datetime) : Except TypeError Int :=
  if a.Comparable b then .ok (a.instant - b.instant)
  else .error ⟨"can't subtract offset-naive and offset-aware datetimes"⟩

/-- Two times have a difference when both have an offset or neither has. -/
theorem sub_eq_ok_iff {a b : datetime} {d : Int} : a.sub b = .ok d ↔ a.Comparable b ∧ d = a.instant - b.instant := by
  unfold sub
  split <;> simp [*, eq_comm]

theorem Comparable.symm {a b : datetime} (h : a.Comparable b) : b.Comparable a := Eq.symm h

/-- The wall-clock fields lie between `datetime.min` and `datetime.max`. -/
def Representable (dt : datetime) : Prop := -62135596800000000 ≤ dt.wall ∧ dt.wall ≤ 253402300799999999

instance (dt : datetime) : Decidable dt.Representable := inferInstanceAs (Decidable (_ ∧ _))

/-- The value whose wall clock stands `duration` microseconds later. -/
def shift (dt : datetime) (duration : Int) : datetime := { dt with wall := dt.wall + duration }

/-- `dt + duration`. A duration too long for a `timedelta` takes every date out of range. -/
def add (dt : datetime) (duration : Int) : Except OverflowError datetime :=
  if (dt.shift duration).Representable then .ok (dt.shift duration) else .error {}

theorem le_def {a b : datetime} : a ≤ b ↔ a.instant ≤ b.instant := Iff.rfl

@[simp] theorem instant_utc (i : Int) : (utc i).instant = i := by simp [instant, utc]

@[simp] theorem instant_aware (dt : datetime) : dt.aware.instant = dt.instant := by
  cases dt with
  | mk wall utcoffset => cases utcoffset <;> simp [aware, instant]

@[simp] theorem to_utc_utc (i : Int) : (utc i).to_utc = utc i := by simp [to_utc]

/-- What is stored names the wall clock as if in UTC. -/
@[simp] theorem instant_stored (dt : datetime) : dt.stored.instant = dt.wall :=
  Int.sub_zero dt.wall

@[simp] theorem stored_stored (dt : datetime) : dt.stored.stored = dt.stored := rfl

end datetime

/-- `timedelta(minutes=m)`. -/
def minutes (m : Int) : Int := m * 60 * 1000000

/-- `timedelta(hours=h)`. -/
def hours (h : Int) : Int := minutes (h * 60)

/-- `timedelta.total_seconds()` of a duration in microseconds. -/
def total_seconds (duration : Int) : ℚ := duration / 1000000

end sigis
