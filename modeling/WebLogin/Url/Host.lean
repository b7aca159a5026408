import WebLogin.Url.Basic
import WebLogin.Url.Domain

/-!
# Reading hosts

The host of a URL is a name, an address of 32 bits in one of its many spellings, or an address of
128 bits in brackets. A name whose last part is a number has to be an address.
-/

namespace WebLogin.Url

/-! ## Addresses of 32 bits -/

/-- The digits of a part of an address and their base: hexadecimal after `0x`, octal after a `0`. -/
def numberForm : List Char → Nat × List Char
  | '0' :: 'x' :: digits => (16, digits)
  | '0' :: 'X' :: digits => (16, digits)
  | '0' :: d :: digits => (8, d :: digits)
  | digits => (10, digits)

/-- The number of a part of an address. No digits after `0x` are a zero. -/
def number? (part : List Char) : Option Nat :=
  if part = [] then none
  else
    let (base, digits) := numberForm part
    digits.foldlM (fun n c => do
      let digit ← Hex.value? c
      if digit < base then some (base * n + digit) else none) 0

/-- The parts of a name between dots, without an empty last one. -/
def nameParts (name : List Char) : List (List Char) :=
  let parts := Text.splitAll '.' name
  if parts.getLast? = some [] then parts.dropLast else parts

/-- Whether a name ends in a number, and so has to be an address. -/
def endsInNumber (name : List Char) : Bool :=
  match (nameParts name).getLast? with
  | some last => (last ≠ [] && last.all Char.isDigit) || (number? last).isSome
  | none => false

/-- The bytes of a number, highest first. -/
def bytesOf : (count : Nat) → Nat → List Nat
  | 0, _ => []
  | count + 1, n => n / Nat.pow 256 count % 256 :: bytesOf count n

/-- The four bytes of up to four numbers. Each but the last is one byte; the last fills what is
left. -/
def shortAddress? (name : List Char) : Option (List Nat) := do
  let numbers ← (nameParts name).mapM number?
  let front := numbers.dropLast
  let last ← numbers.getLast?
  if numbers.length ≤ 4 ∧ front.all (· < 256) ∧ last < Nat.pow 256 (4 - front.length) then
    some (front ++ bytesOf (4 - front.length) last)
  else none

/-! ## Hosts -/

def bracketed (text : List Char) : Except Fault Host :=
  if text.getLast? = some ']' then
    match Address.long? text.dropLast with
    | some groups => .ok (.address (.long groups))
    | none => .error .invalidLongAddress
  else .error .invalidLongAddress

/-- The host of a URL whose scheme is one of the special ones. -/
def Host.read : List Char → Except Fault Host
  | '[' :: text => bracketed text
  | text => do
    let name ← Domain.read text
    if name = [] then throw .emptyHost
    if endsInNumber name then
      match shortAddress? name with
      | some bytes => return .address (.short bytes)
      | none => throw .invalidShortAddress
    else return .name (String.ofList name)

/-- The bytes that stand for themselves where only control characters are coded. -/
def isVisible (b : UInt8) : Bool := !Percent.isControl b && b < 128

/-- The marks that the host of another scheme must not have. -/
def forbiddenOpaqueMarks : List Char :=
  ['\x00', '\t', '\n', '\r', ' ', '#', '/', ':', '<', '>', '?', '@', '[', '\\', ']', '^', '|']

/-- The host of a URL of another scheme: its text is kept. -/
def Host.readOpaque : List Char → Except Fault Host
  | '[' :: text => bracketed text
  | text =>
    if text.any forbiddenOpaqueMarks.contains then .error .invalidDomainCharacter
    else .ok (.name (String.ofList (Percent.encode isVisible text)))

end WebLogin.Url
