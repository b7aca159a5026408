import WebLogin.Bytes.Hex
import WebLogin.Bytes.Utf8

/-!
# Percent coding

A byte outside a chosen set is written as a percent sign and two capital hexadecimal digits. Reading
takes every percent sign with two digits of either case for a byte and leaves the rest as it is.
-/

namespace WebLogin.Percent

/-- The byte that a percent sign and two more bytes stand for. -/
def escaped? (sign high low : UInt8) : Option UInt8 :=
  if sign = '%'.toUInt8 then do
    let h ← Hex.value? (Char.ofNat high.toNat)
    let l ← Hex.value? (Char.ofNat low.toNat)
    return UInt8.ofNat (16 * h + l)
  else none

/-- The bytes that a coded text stands for. -/
def decode : List UInt8 → List UInt8
  | b :: high :: low :: rest =>
    match escaped? b high low with
    | some byte => byte :: decode rest
    | none => b :: decode (high :: low :: rest)
  | b :: rest => b :: decode rest
  | [] => []

/-- A byte as a percent sign and two digits. -/
def escape (b : UInt8) : List Char :=
  ['%', (Hex.digit (b.toNat / 16)).toUpper, (Hex.digit (b.toNat % 16)).toUpper]

/-- The coded form of bytes, with those in a set left as they are. The set has to be of ASCII. -/
def encodeBytes (keep : UInt8 → Bool) (bytes : List UInt8) : List Char :=
  bytes.flatMap fun b => if keep b then [Char.ofNat b.toNat] else escape b

/-- The coded form of a text. -/
def encode (keep : UInt8 → Bool) (text : List Char) : List Char :=
  encodeBytes keep (Utf8.encode text)

/-- A byte for each of some characters of ASCII. -/
def isOneOf (chars : List Char) (b : UInt8) : Bool := chars.any fun c => c.toNat == b.toNat

/-- A letter or digit of ASCII. -/
def isAlphanumeric (b : UInt8) : Bool :=
  (48 ≤ b && b ≤ 57) || (65 ≤ b && b ≤ 90) || (97 ≤ b && b ≤ 122)

/-- A control character of ASCII. -/
def isControl (b : UInt8) : Bool := b < 32 || b == 127

end WebLogin.Percent
