/-!
# Decimal text of doubles

A double is kept as its 64 bits. `shortest` finds the decimal with the fewest digits that reads back
as the same double, and of those the nearest; `Layout` says where the point goes. `ofDecimal?` goes
the other way for a significand and a power of ten.
-/

namespace WebLogin.Double

/-! ## The parts of a double -/

/-- Whether the sign bit is set. -/
def isNegative (bits : UInt64) : Bool := bits >>> 63 = 1

/-- The magnitude of a finite double as `m * 2 ^ q`, with the exponent `q` raised by 1074. -/
def parts (bits : UInt64) : Nat × Nat :=
  let fraction := bits.toNat % 0x10000000000000
  let exponent := bits.toNat / 0x10000000000000 % 0x800
  if exponent = 0 then (fraction, 0) else (0x10000000000000 + fraction, exponent - 1)

/-! ## Fewest digits -/

/-- A decimal magnitude, `digits * 10 ^ exponent`. -/
structure Decimal where
  digits : Nat
  exponent : Int
  deriving DecidableEq, Repr

/-- The numbers that round to a double, in quarters of its last place: from `low` to `high`, both
over `scale`, the ends included or not. The double itself is `value`. -/
structure Interval where
  low : Nat
  value : Nat
  high : Nat
  scale : Nat
  closed : Bool
  deriving Repr

/-- The interval of a magnitude `m * 2 ^ (q - 1074)` that is not zero. Below a power of two the
doubles are twice as dense. -/
def Interval.ofParts (m q : Nat) : Interval :=
  let unit := Nat.pow 2 q
  let below := if m = 0x10000000000000 ∧ q ≠ 0 then 1 else 2
  ⟨(4 * m - below) * unit, 4 * m * unit, (4 * m + 2) * unit, Nat.pow 2 1076, m % 2 = 0⟩

/-- Whether `digits * up / down` lies in the interval. -/
def Interval.holds (i : Interval) (digits up down : Nat) : Bool :=
  let x := digits * up * i.scale
  if i.closed then i.low * down ≤ x && x ≤ i.high * down
  else i.low * down < x && x < i.high * down

/-- The point of the grid of multiples of `up / down` that lies in the interval and is nearest to
the double; of two equally near ones the even one. -/
def Interval.nearest? (i : Interval) (up down : Nat) : Option Nat :=
  let step := up * i.scale
  let floor := i.value * down / step
  let rest := i.value * down % step
  let order :=
    if 2 * rest < step ∨ (2 * rest = step ∧ floor % 2 = 0) then [floor, floor + 1]
    else [floor + 1, floor]
  order.find? fun d => d ≠ 0 && i.holds d up down

/-- The decimal of the coarsest power of ten that has a point in the interval: it has the fewest
digits. Powers are tried from `10 ^ 309` down. -/
def shortest (m q : Nat) : Decimal :=
  let i := Interval.ofParts m q
  let at? (k : Int) : Option Decimal :=
    (i.nearest? (Nat.pow 10 k.toNat) (Nat.pow 10 (-k).toNat)).map fun d => ⟨d, k⟩
  ((List.range 634).findSome? fun (j : Nat) => at? (309 - j)).getD ⟨0, 0⟩

/-! ## Where the point goes -/

/-- The layout of a decimal text. -/
structure Layout where
  /-- The greatest number of digits before the point that is written without an exponent. -/
  mostBefore : Int
  /-- The greatest number of zeros after the point that is written without an exponent. -/
  mostZeros : Int

/-- The text of a decimal that is not zero, in the given layout. It has a point or an exponent, and
the exponent has a sign. -/
def Layout.write (layout : Layout) (d : Decimal) : List Char :=
  let digits := Nat.toDigits 10 d.digits
  let before : Int := digits.length + d.exponent
  let zeros (n : Int) : List Char := List.replicate n.toNat '0'
  if 0 ≤ d.exponent ∧ before ≤ layout.mostBefore then
    digits ++ zeros d.exponent ++ ['.', '0']
  else if 0 < before ∧ before ≤ layout.mostBefore then
    digits.take before.toNat ++ '.' :: digits.drop before.toNat
  else if before ≤ 0 ∧ -layout.mostZeros ≤ before then
    ['0', '.'] ++ zeros (-before) ++ digits
  else
    let sign := if 0 < before then ['+'] else []
    let exponent := sign ++ (toString (before - 1)).toList
    match digits with
    | [d] => d :: 'e' :: exponent
    | d :: rest => d :: '.' :: rest ++ 'e' :: exponent
    | [] => []

/-- The text of a finite double. Zero keeps its sign. -/
def Layout.text (layout : Layout) (bits : UInt64) : List Char :=
  let (m, q) := parts bits
  let magnitude := if m = 0 then ['0', '.', '0'] else layout.write (shortest m q)
  if isNegative bits then '-' :: magnitude else magnitude

/-! ## Reading -/

/-- The double nearest to a power of ten, `10 ^ n` with `n ≤ 308`. -/
def powerOfTen (n : Nat) : Float := Float.ofScientific 1 false n

/-- The greatest power of ten that a double holds. -/
def greatestPower : Nat := 308

/-- Divides by `10 ^ n`, in steps of the greatest power and then by what remains. A quotient of zero
stays zero. -/
def divideByPower (x : Float) (n : Nat) : Float :=
  if n ≤ greatestPower then x / powerOfTen n
  else if x == 0 then x
  else divideByPower (x / powerOfTen greatestPower) (n - greatestPower)
termination_by n
decreasing_by simp only [greatestPower] at *; omega

/-- The magnitude `significand * 10 ^ exponent` as a double: the significand is rounded, then
multiplied or divided by the rounded power, so the last place can be off by one. None if the result
leaves the range of doubles. -/
def ofDecimal? (significand : UInt64) (exponent : Int) : Option Float :=
  let x := significand.toFloat
  if exponent < 0 then some (divideByPower x exponent.natAbs)
  else if exponent.toNat ≤ greatestPower then
    let y := x * powerOfTen exponent.toNat
    if y.isInf then none else some y
  else if x == 0 then some x
  else none

end WebLogin.Double
