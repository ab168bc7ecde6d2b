import BuildSession.Text.Decimal

/-!
# Points in time

An `Instant` counts seconds from the start of 1970 and nanoseconds within the second. The last
second of a minute may last two seconds (a leap second). `Instant.text` renders it in the Gregorian
calendar with as many groups of three decimals as it takes.
-/

namespace BuildSession

/-- Seconds since the start of 1970, UTC, and nanoseconds within the second. -/
structure Instant where
  seconds : Int
  nanos : Nat
  deriving DecidableEq

namespace Instant

def epoch : Instant := ⟨0, 0⟩

/-- The instant of these counts, if the calendar reaches it and only the last second of a minute
is longer than a second. -/
def of? (seconds : Int) (nanos : Nat) : Option Instant :=
  if -8334601228800 ≤ seconds ∧ seconds ≤ 8210266876799
      ∧ (nanos < 1000000000 ∨ nanos < 2000000000 ∧ seconds % 60 = 59) then
    some ⟨seconds, nanos⟩
  else none

/-- Year, month and day of the day that is so many days after the start of 1970. Years are
counted from March here, so that a leap day ends its year. -/
def civil (days : Int) : Int × Nat × Nat :=
  let shifted := days + 719468
  let era := shifted / 146097
  let dayOfEra := (shifted % 146097).toNat
  let yearOfEra := (dayOfEra - dayOfEra / 1460 + dayOfEra / 36524 - dayOfEra / 146096) / 365
  let dayOfYear := dayOfEra - (365 * yearOfEra + yearOfEra / 4 - yearOfEra / 100)
  let monthFromMarch := (5 * dayOfYear + 2) / 153
  let day := dayOfYear - (153 * monthFromMarch + 2) / 5 + 1
  let month := if monthFromMarch < 10 then monthFromMarch + 3 else monthFromMarch - 9
  (era * 400 + yearOfEra + (if month ≤ 2 then 1 else 0), month, day)

/-- A year, with a sign when it does not have four digits. -/
def yearText (year : Int) : List Char :=
  if 0 ≤ year ∧ year ≤ 9999 then Decimal.writePadded 4 year.toNat
  else (if year < 0 then '-' else '+') :: Decimal.writePadded 4 year.natAbs

/-- The decimals of a second, in the fewest groups of three that are exact. -/
def fractionText (nanos : Nat) : List Char :=
  if nanos = 0 then []
  else if nanos % 1000000 = 0 then '.' :: Decimal.writePadded 3 (nanos / 1000000)
  else if nanos % 1000 = 0 then '.' :: Decimal.writePadded 6 (nanos / 1000)
  else '.' :: Decimal.writePadded 9 nanos

/-- The instant as `YYYY-MM-DDTHH:MM:SSZ` with its decimals. -/
def text (t : Instant) : String :=
  let (year, month, day) := civil (t.seconds / 86400)
  let second := (t.seconds % 86400).toNat
  let two := Decimal.writePadded 2
  let leap := t.nanos / 1000000000
  String.ofList (
    yearText year ++ '-' :: two month ++ '-' :: two day ++ 'T' :: two (second / 3600)
      ++ ':' :: two (second / 60 % 60) ++ ':' :: two (second % 60 + leap)
      ++ fractionText (t.nanos % 1000000000) ++ ['Z'])

end Instant

end BuildSession
