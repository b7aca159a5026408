import WebLogin.Text.Split
import WebLogin.Bytes.Hex

/-!
# Addresses of hosts

An address of 32 bits is written as four decimal numbers, one of 128 bits as eight hexadecimal
groups, of which the longest run of zeros is left out. A group run `::ffff:` in front of an address
of 32 bits is written with its last part in decimal.
-/

namespace WebLogin

/-- An address of a host. -/
inductive Address where
  /-- Four bytes. -/
  | short (bytes : List Nat)
  /-- Eight groups of 16 bits. -/
  | long (groups : List Nat)
  deriving DecidableEq, Repr

namespace Address

/-! ## Writing -/

/-- The decimal form of four bytes. -/
def shortText (bytes : List Nat) : List Char :=
  List.intercalate ['.'] (bytes.map (Nat.toDigits 10))

/-- The length of the run of zeros at the front. -/
def zeroRun (groups : List Nat) : Nat := (groups.takeWhile (· = 0)).length

/-- The place and the length of the first longest run of zeros among groups that start at the given
place. -/
def longestZeroRun : (place : Nat) → List Nat → Nat × Nat
  | place, [] => (place, 0)
  | place, g :: rest =>
    let here := zeroRun (g :: rest)
    let later := longestZeroRun (place + 1) rest
    if later.2 ≤ here then (place, here) else later

def groupsText (groups : List Nat) : List Char :=
  List.intercalate [':'] (groups.map (Nat.toDigits 16))

/-- Groups with the longest run of two or more zeros left out. -/
def compressedText (groups : List Nat) : List Char :=
  let (place, length) := longestZeroRun 0 groups
  if length < 2 then groupsText groups
  else groupsText (groups.take place) ++ [':', ':'] ++ groupsText (groups.drop (place + length))

def text : Address → String
  | .short bytes => String.ofList (shortText bytes)
  | .long groups =>
    match groups with
    | [0, 0, 0, 0, 0, 0xFFFF, high, low] =>
      String.ofList ("::ffff:".toList ++ shortText [high / 256, high % 256, low / 256, low % 256])
    | _ => String.ofList (compressedText groups)

/-! ## Reading -/

/-- A decimal number below a bound. -/
def decimalBelow? (bound : Nat) (digits : List Char) : Option Nat :=
  if digits = [] ∨ !digits.all Char.isDigit then none
  else
    let n := digits.foldl (fun n c => 10 * n + (c.toNat - '0'.toNat)) 0
    if n < bound then some n else none

/-- A decimal number below 256 without leading zeros. -/
def byte? (digits : List Char) : Option Nat :=
  if digits.head? = some '0' ∧ digits.length > 1 then none else decimalBelow? 256 digits

def short? (text : List Char) : Option (List Nat) := do
  let bytes ← (Text.splitAll '.' text).mapM byte?
  if bytes.length = 4 then some bytes else none

/-- A group of one to four hexadecimal digits. -/
def group? (digits : List Char) : Option Nat :=
  if digits = [] ∨ digits.length > 4 then none
  else digits.foldlM (fun n c => (Hex.value? c).map (16 * n + ·)) 0

/-- Groups with colons between them, of which the last may be an address of 32 bits. -/
def groups? (text : List Char) : Option (List Nat) :=
  if text = [] then some []
  else do
    let pieces := Text.splitAll ':' text
    let front ← pieces.dropLast.mapM group?
    let last := pieces.getLastD []
    match short? last with
    | some [a, b, c, d] => return front ++ [256 * a + b, 256 * c + d]
    | _ => return front ++ [← group? last]

/-- The parts before and after the first two colons in a row. -/
def cutGap? : List Char → Option (List Char × List Char)
  | ':' :: ':' :: rest => some ([], rest)
  | c :: rest => (cutGap? rest).map fun (before, after) => (c :: before, after)
  | [] => none

/-- Eight groups, of which a run may be left out. -/
def long? (text : List Char) : Option (List Nat) :=
  match cutGap? text with
  | none => (groups? text).filter (·.length = 8)
  | some (before, after) => do
    let front ← groups? before
    let back ← groups? after
    if front.length + back.length < 8 ∧ !before.contains '.' then
      some (front ++ List.replicate (8 - front.length - back.length) 0 ++ back)
    else none

/-- The address that a text spells. -/
def ofChars? (text : List Char) : Option Address :=
  match short? text with
  | some bytes => some (.short bytes)
  | none => (long? text).map .long

/-- The address of 128 bits in brackets, which a percent sign and the number of a network may
follow. -/
def bracketed? (text : List Char) : Option (List Nat) := do
  if text.getLast? ≠ some ']' then none
  match Text.cutFirst? '%' text.dropLast with
  | none => long? text.dropLast
  | some (address, scope) => do
    discard (decimalBelow? 0x100000000 scope)
    long? address

/-- The address in front of a port. One of 128 bits stands in brackets. -/
def ofSocket? (text : List Char) : Option Address := do
  let (host, port) ← Text.cutLast? ':' text
  discard (decimalBelow? 0x10000 port)
  match host with
  | '[' :: rest => (bracketed? rest).map .long
  | _ => (short? host).map .short

end Address

end WebLogin
