/-!
# Instants

A reading of a clock in seconds and nanoseconds. Readings are ordered by their seconds and, within
a second, by their nanoseconds.
-/

namespace PageFlip

/-- A point on a clock. -/
structure Instant where
  sec : Int64
  nsec : Int64
deriving DecidableEq

namespace Instant

/-- The reading in whole microseconds, as an unsigned word. -/
def usec (t : Instant) : UInt64 :=
  t.sec.toUInt64 * 1000000 + t.nsec.toUInt64 / 1000

/-- The reading in whole milliseconds, as an unsigned word. -/
def msec (t : Instant) : UInt64 :=
  t.sec.toUInt64 * 1000 + t.nsec.toUInt64 / 1000000

/-- The nanoseconds from the start of the clock. -/
def toNanoseconds (t : Instant) : Int :=
  t.sec.toInt * 1000000000 + t.nsec.toInt

/-- The nanoseconds that have passed at `now` since `t`; none if `now` is earlier. -/
def age (t now : Instant) : Nat :=
  (now.toNanoseconds - t.toNanoseconds).toNat

instance : Ord Instant :=
  ⟨fun a b => (compare a.sec b.sec).then (compare a.nsec b.nsec)⟩

/-- The reading with its two parts named. -/
def describe (t : Instant) : String :=
  s!"Time \x7b tv_sec: {t.sec.toInt}, tv_nsec: {t.nsec.toInt} \x7d"

/-- No time has passed since the instant itself. -/
theorem age_self (t : Instant) : t.age t = 0 := by
  simp [age]

end Instant

end PageFlip
