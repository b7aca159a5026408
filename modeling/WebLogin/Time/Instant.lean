import WebLogin.Time.Duration

/-!
# Instants

A point in time as nanoseconds since the start of 1970 in UTC, from the start of the year -9999 to
the end of the year 9999. Cut to whole seconds it goes down, also before 1970. Told with
another offset from UTC it is the same point in time, so an offset is no part of it.
-/

namespace WebLogin

/-- A point in time. -/
structure Instant where
  nanoseconds : Int
  lower : -377705116800 * 1000000000 ≤ nanoseconds
  upper : nanoseconds < 253402300800 * 1000000000
  deriving DecidableEq

namespace Instant

instance : Repr Instant := ⟨fun t n => reprPrec t.nanoseconds n⟩

/-- The instant so many nanoseconds after the start of 1970, if it is in range. -/
def ofNanoseconds? (n : Int) : Option Instant :=
  if h : -377705116800 * 1000000000 ≤ n ∧ n < 253402300800 * 1000000000 then some ⟨n, h.1, h.2⟩
  else none

/-- The instant so many seconds after the start of 1970, if it is in range. -/
def ofSeconds? (n : Int) : Option Instant := ofNanoseconds? (n * 1000000000)

/-- The start of 1970. -/
def epoch : Instant := ⟨0, by decide, by decide⟩

instance : Inhabited Instant := ⟨epoch⟩

/-- The seconds since the start of 1970, rounded down. -/
def seconds (t : Instant) : Int := t.nanoseconds / 1000000000

/-- What the seconds leave. -/
def subsecond (t : Instant) : Int := t.nanoseconds % 1000000000

/-- The instant after a span, if it is in range. -/
def add? (t : Instant) (d : Duration) : Option Instant :=
  ofNanoseconds? (t.nanoseconds + d.nanoseconds)

/-- The nanoseconds from one instant to another. -/
def since (t earlier : Instant) : Int := t.nanoseconds - earlier.nanoseconds

instance : LT Instant := ⟨fun a b => a.nanoseconds < b.nanoseconds⟩

instance (a b : Instant) : Decidable (a < b) := Int.decLt a.nanoseconds b.nanoseconds

instance : LE Instant := ⟨fun a b => a.nanoseconds ≤ b.nanoseconds⟩

instance (a b : Instant) : Decidable (a ≤ b) := Int.decLe a.nanoseconds b.nanoseconds

/-! ## Calendar -/

/-- A date and time of day in UTC, in the Gregorian calendar extended to all years. -/
structure Calendar where
  year : Int
  /-- From 1 to 12. -/
  month : Nat
  /-- From 1 to 31. -/
  day : Nat
  /-- From 0 for Sunday to 6. -/
  weekday : Nat
  /-- The seconds since midnight. -/
  secondOfDay : Nat
  deriving Repr

/-- The date and time of day of an instant. Days are counted in eras of 400 years that start on the
first of March, so that a leap day ends its year. -/
def calendar (t : Instant) : Calendar :=
  let days := t.seconds / 86400
  let shifted := days + 719468
  let era := shifted / 146097
  let dayOfEra := (shifted % 146097).toNat
  let yearOfEra := (dayOfEra - dayOfEra / 1460 + dayOfEra / 36524 - dayOfEra / 146096) / 365
  let dayOfYear := dayOfEra - (365 * yearOfEra + yearOfEra / 4 - yearOfEra / 100)
  let monthFromMarch := (5 * dayOfYear + 2) / 153
  let month := if monthFromMarch < 10 then monthFromMarch + 3 else monthFromMarch - 9
  { year := yearOfEra + era * 400 + (if month ≤ 2 then 1 else 0)
    month
    day := dayOfYear - (153 * monthFromMarch + 2) / 5 + 1
    weekday := ((days + 4) % 7).toNat
    secondOfDay := (t.seconds % 86400).toNat }

end Instant

end WebLogin
