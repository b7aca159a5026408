/-!
# Durations

A span of time in whole nanoseconds, of either sign, whose seconds fit into 64 bits. Cut to whole
seconds it goes towards zero.
-/

namespace WebLogin

/-- A span of time. -/
structure Duration where
  nanoseconds : Int
  lower : -9223372036854775808999999999 ≤ nanoseconds
  upper : nanoseconds ≤ 9223372036854775807999999999
  deriving DecidableEq

namespace Duration

instance : Repr Duration := ⟨fun d n => reprPrec d.nanoseconds n⟩

/-- The span of so many nanoseconds, if it is in range. -/
def ofNanoseconds? (n : Int) : Option Duration :=
  if h : -9223372036854775808999999999 ≤ n ∧ n ≤ 9223372036854775807999999999 then
    some ⟨n, h.1, h.2⟩
  else none

/-- The span of so many seconds, if it is in range. -/
def ofSeconds? (n : Int) : Option Duration :=
  if h : -0x8000000000000000 ≤ n ∧ n < 0x8000000000000000 then
    some ⟨n * 1000000000, by omega, by omega⟩
  else none

def greatest : Duration := ⟨9223372036854775807999999999, by decide, by decide⟩

def least : Duration := ⟨-9223372036854775808999999999, by decide, by decide⟩

def zero : Duration := ⟨0, by decide, by decide⟩

/-- The whole seconds, towards zero. -/
def wholeSeconds (d : Duration) : Int := d.nanoseconds.tdiv 1000000000

/-- What the whole seconds leave, with the sign of the span. -/
def subsecond (d : Duration) : Int := d.nanoseconds.tmod 1000000000

/-- The units of the text of a span, with their length in nanoseconds. -/
def units : List (Nat × String) :=
  [(86400000000000, "d"), (3600000000000, "h"), (60000000000, "m"), (1000000000, "s"),
   (1000000, "ms"), (1000, "µs"), (1, "ns")]

/-- The amounts of the units that are not zero, greatest unit first. -/
def unitTexts : List (Nat × String) → Nat → String
  | [], _ => ""
  | (size, name) :: rest, n =>
    (if n / size = 0 then "" else toString (n / size) ++ name) ++ unitTexts rest (n % size)

/-- The text of a span: a sign and each unit with its amount. -/
def text (d : Duration) : String :=
  if d.nanoseconds = 0 then "0s"
  else (if d.nanoseconds < 0 then "-" else "") ++ unitTexts units d.nanoseconds.natAbs

end Duration

end WebLogin
