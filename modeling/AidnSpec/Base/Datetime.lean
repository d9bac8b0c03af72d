import AidnSpec.Base.Schema

/-!
# Arithmetic of `datetime`

Times are counted in microseconds after the epoch; before the first and behind the last one there is
an overflow. Times with and without a zone are not comparable. The text of a time is that of
`datetime.isoformat`, which is not in the sources.
-/

namespace AidnSpec.Base

/-- `datetime.isoformat`. -/
class IsoFormat where
  isoformat : Instant → String
  isoformat_ne_empty : ∀ time, isoformat time ≠ ""

/-- `datetime.max`. -/
def lastMicrosecond : Int := 253402300799999999

/-- `datetime.min`. -/
def firstMicrosecond : Int := -62135596800000000

/-- `time.astimezone(UTC)`. -/
def Instant.toUtc (time : Instant) : Except PyError Int :=
  if firstMicrosecond ≤ time.micros ∧ time.micros ≤ lastMicrosecond then .ok time.micros
  else .error ⟨.overflow, "date value out of range"⟩

/-- `time + timedelta(seconds=seconds)`. -/
def plusSeconds (time seconds : Int) : Except PyError Int :=
  if time + 1000000 * seconds ≤ lastMicrosecond then .ok (time + 1000000 * seconds)
  else .error ⟨.overflow, "date value out of range"⟩

theorem plusSeconds_eq_ok {time seconds later : Int} :
    plusSeconds time seconds = .ok later ↔
      time + 1000000 * seconds ≤ lastMicrosecond ∧ time + 1000000 * seconds = later := by
  unfold plusSeconds
  split_ifs with h
  · simp [h]
  · simp [h]

/-- `a <= b`. -/
def Instant.notAfter (a b : Instant) : Except PyError Bool :=
  if a.aware = b.aware then .ok (a.micros ≤ b.micros)
  else raiseType "can't compare offset-naive and offset-aware datetimes"

end AidnSpec.Base
