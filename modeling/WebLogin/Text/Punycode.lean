/-!
# Punycode

Text of any characters in letters, digits and dashes: first the characters of ASCII, then, after a
dash, the others as numbers that tell where each one is inserted. Numbers are written in base 36
with thresholds that adapt to the sizes met so far.
-/

namespace WebLogin.Punycode

/-! ## Numbers -/

def digitChar (d : Nat) : Char :=
  Char.ofNat (if d < 26 then 'a'.toNat + d else '0'.toNat + (d - 26))

/-- The digit of a character of either case. -/
def digit? (c : Char) : Option Nat :=
  if c.isDigit then some (c.toNat - '0'.toNat + 26)
  else if c.isAlpha then some (c.toLower.toNat - 'a'.toNat)
  else none

/-- The threshold of a digit: a smaller digit ends its number. -/
def threshold (bias position : Nat) : Nat :=
  if position ≤ bias then 1 else min 26 (position - bias)

theorem threshold_pos (bias position : Nat) : 0 < threshold bias position := by
  unfold threshold
  split <;> omega

/-- The digits of a number from a position on. -/
def digits (bias position n : Nat) : List Char :=
  let t := threshold bias position
  if n < t then [digitChar n]
  else digitChar (t + (n - t) % (36 - t)) :: digits bias (position + 36) ((n - t) / (36 - t))
termination_by n
decreasing_by
  have positive := threshold_pos bias position
  exact Nat.lt_of_le_of_lt (Nat.div_le_self _ _) (by omega)

/-- What is left of a number when it is small enough, and how often it was made smaller. -/
def scale (n : Nat) : Nat × Nat :=
  if _h : 455 < n then
    let (rest, times) := scale (n / 35)
    (rest, times + 1)
  else (n, 0)
termination_by n
decreasing_by omega

/-- The bias after a number among so many characters. -/
def adapt (n count : Nat) (first : Bool) : Nat :=
  let n := if first then n / 700 else n / 2
  let (rest, times) := scale (n + n / count)
  36 * times + 36 * rest / (rest + 38)

/-! ## Writing -/

/-- What is written so far, and what the next number depends on. -/
structure Encoder where
  written : List Char := []
  /-- The number to be written next, as far as it is known. -/
  delta : Nat := 0
  bias : Nat := 72
  /-- The number of characters that are dealt with. -/
  handled : Nat

/-- Passes one character of the text on the way to those of a code. -/
def Encoder.pass (basic code : Nat) (e : Encoder) (c : Char) : Encoder :=
  if c.toNat < code then { e with delta := e.delta + 1 }
  else if c.toNat = code then
    { written := e.written ++ digits e.bias 36 e.delta
      delta := 0
      bias := adapt e.delta (e.handled + 1) (e.handled == basic)
      handled := e.handled + 1 }
  else e

/-- Writes all characters of some codes, which ascend. -/
def Encoder.run (text : List Char) (basic : Nat) : (codes : List Nat) → (next : Nat) → Encoder →
    Encoder
  | [], _, e => e
  | code :: codes, next, e =>
    let e := { e with delta := e.delta + (code - next) * (e.handled + 1) }
    let e := text.foldl (Encoder.pass basic code) e
    Encoder.run text basic codes (code + 1) { e with delta := e.delta + 1 }

/-- Whether a character is of ASCII. -/
def isBasic (c : Char) : Bool := c.toNat < 128

/-- The written form of a text. -/
def encode (text : List Char) : List Char :=
  let basic := text.filter isBasic
  let codes := ((text.filter (!isBasic ·)).map Char.toNat).eraseDups.mergeSort
  let start : Encoder := { handled := basic.length }
  (if basic = [] then [] else basic ++ ['-']) ++
    (Encoder.run text basic.length codes 128 start).written

/-! ## Reading -/

/-- What is read so far, and the number that is being read. -/
structure Decoder where
  text : List Char
  code : Nat := 128
  place : Nat := 0
  bias : Nat := 72
  number : Nat := 0
  weight : Nat := 1
  position : Nat := 36

/-- Whether no number is unfinished. -/
def Decoder.isWhole (d : Decoder) : Bool := d.position == 36

/-- Puts the character in that a finished number stands for. -/
def Decoder.insert? (d : Decoder) (number : Nat) : Option Decoder :=
  let count := d.text.length + 1
  let total := d.place + number
  let code := d.code + total / count
  let place := total % count
  if code < 0x110000 ∧ (code < 0xD800 ∨ 0xDFFF < code) then
    some {
      text := d.text.take place ++ Char.ofNat code :: d.text.drop place
      code
      place := place + 1
      bias := adapt number count (d.place == 0) }
  else none

/-- Takes the next character of a written form. Places and weights have 32 bits. -/
def Decoder.step (d : Decoder) (c : Char) : Option Decoder := do
  let digit ← digit? c
  let number := d.number + digit * d.weight
  let t := threshold d.bias d.position
  let weight := d.weight * (36 - t)
  if 0x100000000 ≤ d.place + number then none
  else if digit < t then d.insert? number
  else if 0x100000000 ≤ weight then none
  else some { d with number, weight, position := d.position + 36 }

/-- The parts of a written form before and after the last dash, which is no such dash if nothing
stands before it. -/
def cutBasic (written : List Char) : List Char × List Char :=
  let numbers := (written.reverse.takeWhile (· ≠ '-')).reverse
  match written.take (written.length - numbers.length - 1) with
  | [] => ([], written)
  | basic => (basic, numbers)

/-- The text of a written form. -/
def decode? (written : List Char) : Option (List Char) := do
  let (basic, numbers) := cutBasic written
  let d ← numbers.foldlM Decoder.step { text := basic }
  if d.isWhole && basic.all isBasic then some d.text else none

end WebLogin.Punycode
