import WebLogin.Bytes.Utf8

/-!
# Base64 without padding

Three bytes are written as four symbols of six bits. Two alphabets differ in their last two
symbols. Reading is strict: no padding, no foreign symbol, and no bits left over in the last symbol,
so that each list of bytes has one written form. A fault names the byte offset where reading failed.
-/

namespace WebLogin.Base64

/-- The choice of the last two symbols. -/
inductive Alphabet where
  /-- Ends in `+` and `/`. -/
  | standard
  /-- Ends in `-` and `_`, which need no escape in a URL. -/
  | urlSafe
  deriving DecidableEq, Repr

/-- Why a text is no written form. -/
inductive Fault where
  /-- A byte that is no symbol. -/
  | invalidSymbol (byte : UInt8) (offset : Nat)
  /-- One symbol is left over after the last full group. -/
  | invalidLength (length : Nat)
  /-- The last symbol has bits that belong to no byte. -/
  | invalidLastSymbol (byte : UInt8) (offset : Nat)
  /-- Padding where it would be well placed, but none is written. -/
  | padding
  deriving DecidableEq, Repr

def Fault.message : Fault → String
  | .invalidSymbol byte offset => s!"Invalid symbol {byte}, offset {offset}."
  | .invalidLength length => s!"Invalid input length: {length}"
  | .invalidLastSymbol byte offset => s!"Invalid last symbol {byte}, offset {offset}."
  | .padding => "Invalid padding"

/-- The symbols for 62 and 63. -/
def Alphabet.lastTwo : Alphabet → Char × Char
  | .standard => ('+', '/')
  | .urlSafe => ('-', '_')

/-- The symbol of a value below 64. -/
def Alphabet.symbol (alphabet : Alphabet) (value : Nat) : Char :=
  if value < 26 then Char.ofNat ('A'.toNat + value)
  else if value < 52 then Char.ofNat ('a'.toNat + (value - 26))
  else if value < 62 then Char.ofNat ('0'.toNat + (value - 52))
  else if value = 62 then alphabet.lastTwo.1
  else alphabet.lastTwo.2

/-- The value of a symbol, given as a byte. -/
def Alphabet.value? (alphabet : Alphabet) (byte : UInt8) : Option Nat :=
  let n := byte.toNat
  if 'A'.toNat ≤ n ∧ n ≤ 'Z'.toNat then some (n - 'A'.toNat)
  else if 'a'.toNat ≤ n ∧ n ≤ 'z'.toNat then some (n - 'a'.toNat + 26)
  else if '0'.toNat ≤ n ∧ n ≤ '9'.toNat then some (n - '0'.toNat + 52)
  else if n = alphabet.lastTwo.1.toNat then some 62
  else if n = alphabet.lastTwo.2.toNat then some 63
  else none

/-- The padding byte. -/
def pad : UInt8 := '='.toUInt8

def encode (alphabet : Alphabet) : List UInt8 → List Char
  | a :: b :: c :: rest =>
    alphabet.symbol (a.toNat / 4) ::
    alphabet.symbol (a.toNat % 4 * 16 + b.toNat / 16) ::
    alphabet.symbol (b.toNat % 16 * 4 + c.toNat / 64) ::
    alphabet.symbol (c.toNat % 64) :: encode alphabet rest
  | [a, b] =>
    [alphabet.symbol (a.toNat / 4),
     alphabet.symbol (a.toNat % 4 * 16 + b.toNat / 16),
     alphabet.symbol (b.toNat % 16 * 4)]
  | [a] => [alphabet.symbol (a.toNat / 4), alphabet.symbol (a.toNat % 4 * 16)]
  | [] => []

/-- The bytes of up to four values. One value alone makes no byte. -/
def group : List Nat → List UInt8
  | [a, b, c, d] =>
    [UInt8.ofNat (a * 4 + b / 16), UInt8.ofNat (b % 16 * 16 + c / 4), UInt8.ofNat (c % 4 * 64 + d)]
  | [a, b, c] => [UInt8.ofNat (a * 4 + b / 16), UInt8.ofNat (b % 16 * 16 + c / 4)]
  | [a, b] => [UInt8.ofNat (a * 4 + b / 16)]
  | _ => []

/-- The values of symbols of which the first has the given offset. -/
def values (alphabet : Alphabet) (offset : Nat) : List UInt8 → Except Fault (List Nat)
  | [] => .ok []
  | b :: rest =>
    match alphabet.value? b with
    | none => .error (.invalidSymbol b offset)
    | some v => do return v :: (← values alphabet (offset + 1) rest)

/-- Reads the last group, of at most four bytes. -/
def decodeLast (alphabet : Alphabet) (offset : Nat) (bytes : List UInt8) :
    Except Fault (List UInt8) := do
  let symbols := bytes.takeWhile (· != pad)
  let pads := bytes.dropWhile (· != pad)
  let vs ← values alphabet offset symbols
  if !pads.isEmpty then
    if symbols.length < 2 || pads.any (· != pad) then
      throw (.invalidSymbol pad (offset + symbols.length))
    else
      throw .padding
  let unused := match vs with
    | [_, b] => b % 16
    | [_, _, c] => c % 4
    | _ => 0
  if vs.length = 1 then
    throw (.invalidLength (offset + 1))
  else if unused ≠ 0 then
    throw (.invalidLastSymbol (symbols.getLastD pad) (offset + symbols.length - 1))
  else
    return group vs

/-- Reads groups of four bytes; the last group may be shorter. -/
def decodeGroups (alphabet : Alphabet) (offset : Nat) : List UInt8 → Except Fault (List UInt8)
  | a :: b :: c :: d :: e :: rest => do
    let vs ← values alphabet offset [a, b, c, d]
    return group vs ++ (← decodeGroups alphabet (offset + 4) (e :: rest))
  | bytes => decodeLast alphabet offset bytes

/-- A last byte that would be left over alone and is neither symbol nor padding: it is reported
before anything else. -/
def strayLast? (alphabet : Alphabet) (bytes : List UInt8) : Option UInt8 :=
  match bytes.getLast? with
  | some b =>
    if bytes.length % 4 = 1 ∧ b ≠ pad ∧ alphabet.value? b = none then some b else none
  | none => none

/-- The bytes that a text of symbols, itself given as bytes, stands for. -/
def decode (alphabet : Alphabet) (bytes : List UInt8) : Except Fault (List UInt8) :=
  match strayLast? alphabet bytes with
  | some b => .error (.invalidSymbol b (bytes.length - 1))
  | none => decodeGroups alphabet 0 bytes

/-- The written form of some bytes. -/
def text (alphabet : Alphabet) (bytes : List UInt8) : String :=
  String.ofList (encode alphabet bytes)

/-- The bytes that a string stands for. -/
def bytes (alphabet : Alphabet) (s : String) : Except Fault (List UInt8) :=
  decode alphabet (Utf8.bytes s)

end WebLogin.Base64
