import PageFlip.Display.Instant
import PageFlip.Text.Padded

/-!
# Timestamps

A reading of the wall clock as a date of the Gregorian calendar and a time of day, down to
milliseconds. Timestamps exist from the start of the clock, the first day of 1970, to the end of
the year 9999.
-/

namespace PageFlip.Log

/-- A date of the Gregorian calendar. -/
structure Date where
  year : Nat
  month : Nat
  day : Nat
deriving DecidableEq

namespace Date

/-- The days of 400 years, after which the calendar repeats itself. -/
def daysPerEra : Nat := 146097

/-- The days from the first of March of the year zero to the first of January 1970. -/
def epoch : Nat := 719468

/-- The date a number of days after the first of January 1970. Years are counted from March, so
that a leap day is the last day of its year. -/
def ofDays (days : Nat) : Date :=
  let days := days + epoch
  let era := days / daysPerEra
  let day := days % daysPerEra
  -- The leap days are taken out first: one in 1460 days, but for the last of every 36524.
  let year := (day - day / 1460 + day / 36524 - day / 146096) / 365
  let dayOfYear := day - (365 * year + year / 4 - year / 100)
  -- From March on, five months have 153 days.
  let month := (5 * dayOfYear + 2) / 153
  let newYear := 10 ≤ month
  { year := 400 * era + year + (if newYear then 1 else 0)
    month := if newYear then month - 9 else month + 3
    day := dayOfYear - (153 * month + 2) / 5 + 1 }

example : ofDays 0 = ⟨1970, 1, 1⟩ := by decide

example : ofDays 11016 = ⟨2000, 2, 29⟩ := by decide

example : ofDays 2932896 = ⟨9999, 12, 31⟩ := by decide

end Date

/-- The seconds from the start of the clock to the first timestamp that is too late. -/
def timestampLimit : Nat := 253402300800

/-- The timestamp of a reading; none before 1970 and after 9999. -/
def timestamp? (t : Instant) : Option String :=
  match t.sec.toInt with
  | .negSucc _ => none
  | .ofNat sec =>
    if timestampLimit ≤ sec then none
    else
      let date := Date.ofDays (sec / 86400)
      let time := sec % 86400
      let two := Text.digits 2
      some <| s!"{Text.digits 4 date.year}-{two date.month}-{two date.day}T" ++
        s!"{two (time / 3600)}:{two (time / 60 % 60)}:{two (time % 60)}." ++
        s!"{Text.digits 3 (t.nsec.toInt.toNat / 1000000)}Z"

end PageFlip.Log
