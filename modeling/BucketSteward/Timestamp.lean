import BucketSteward.Calendar

/-!
Points in time, in UTC. A point is a whole second and the nanoseconds after it; a leap second
belongs to second 59 of its minute and runs from 10⁹ to 2·10⁹ nanoseconds. The years reach from
-262143 to 262142.

`floor` is the whole second a point lies in, and `cut` drops the fraction but stays inside a leap
second.
-/

namespace BucketSteward

namespace Timestamp

def firstYear : Int := -262143

def lastYear : Int := 262142

/-- The first second of the first year. -/
def firstSecond : Int := Date.toDays ⟨firstYear, 1, 1⟩ * 86400

/-- The last second of the last year. -/
def lastSecond : Int := Date.toDays ⟨lastYear, 12, 31⟩ * 86400 + 86399

end Timestamp

structure Timestamp where
  /-- Seconds since 1970-01-01T00:00:00Z, leap seconds not counted. -/
  second : Int
  nano : Nat
  nano_lt : nano < 2000000000
  /-- A leap second ends a minute. Setting the nanoseconds of a point by hand could make one of any other
  second as well, but nothing does that: a point is read from a text, where only a second 60 makes a leap
  second, or it is a whole second. -/
  second_of_leap : 1000000000 ≤ nano → second % 60 = 59
  first_le : Timestamp.firstSecond ≤ second
  le_last : second ≤ Timestamp.lastSecond
  deriving DecidableEq

namespace Timestamp

/-- The point at a second and a nanosecond, where there is one. -/
def at? (second : Int) (nano : Nat) : Option Timestamp :=
  if h : nano < 2000000000 ∧ (1000000000 ≤ nano → second % 60 = 59)
      ∧ firstSecond ≤ second ∧ second ≤ lastSecond then
    some ⟨second, nano, h.1, h.2.1, h.2.2.1, h.2.2.2⟩
  else none

def isLeap (t : Timestamp) : Bool :=
  1000000000 ≤ t.nano

/-- The whole second a point lies in; for a leap second that is second 59. -/
def floor (t : Timestamp) : Timestamp :=
  { t with
    nano := 0
    nano_lt := by decide
    second_of_leap := fun h => absurd h (by decide) }

/-- The point without its fraction of a second. -/
def cut (t : Timestamp) : Timestamp :=
  if h : 1000000000 ≤ t.nano then
    { t with
      nano := 1000000000
      nano_lt := by decide
      second_of_leap := fun _ => t.second_of_leap h }
  else t.floor

end Timestamp

end BucketSteward
