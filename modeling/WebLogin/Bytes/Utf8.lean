/-!
# UTF-8

Text as bytes. Reading reports the first place where the bytes stop being text: either a sequence
that no continuation could mend, with its length, or a sequence that the end cuts short. `front`
reads one scalar value; `decode` and `decodeEach` differ only in what they do with a bad sequence.
-/

namespace WebLogin.Utf8

/-- Why bytes are not text. The index is that of the first byte outside the readable beginning. -/
inductive Fault where
  /-- The sequence of `length` bytes that starts at `index` begins no scalar value. -/
  | invalid (length index : Nat)
  /-- The bytes end inside the scalar value that starts at `index`. -/
  | incomplete (index : Nat)
  deriving DecidableEq, Repr

def Fault.message : Fault → String
  | .invalid length index => s!"invalid utf-8 sequence of {length} bytes from index {index}"
  | .incomplete index => s!"incomplete utf-8 byte sequence from index {index}"

def encode (text : List Char) : List UInt8 := text.flatMap String.utf8EncodeChar

def bytes (s : String) : List UInt8 := encode s.toList

/-- A continuation byte, `10xxxxxx`. -/
def isContinuation (b : UInt8) : Bool := 0x80 ≤ b && b ≤ 0xBF

/-- What stands at the front of a list of bytes. -/
inductive Front where
  /-- A scalar value of `length` bytes. -/
  | char (c : Char) (length : Nat)
  /-- `length` bytes that begin no scalar value. -/
  | invalid (length : Nat)
  /-- The beginning of a scalar value, cut short by the end. -/
  | incomplete
  deriving DecidableEq, Repr

/-- The second bytes that may follow a first byte: surrogates, overlong forms and values past the
last scalar value are shut out here. -/
def secondRange (first : UInt8) : UInt8 × UInt8 :=
  if first = 0xE0 then (0xA0, 0xBF)
  else if first = 0xED then (0x80, 0x9F)
  else if first = 0xF0 then (0x90, 0xBF)
  else if first = 0xF4 then (0x80, 0x8F)
  else (0x80, 0xBF)

/-- How many bytes the scalar value that starts with this byte takes; none if no value does. -/
def width? (first : UInt8) : Option Nat :=
  if first ≤ 0x7F then some 1
  else if 0xC2 ≤ first && first ≤ 0xDF then some 2
  else if 0xE0 ≤ first && first ≤ 0xEF then some 3
  else if 0xF0 ≤ first && first ≤ 0xF4 then some 4
  else none

/-- The low six bits of a continuation byte. -/
def payload (b : UInt8) : Nat := b.toNat % 64

/-- Reads the front of a non-empty list of bytes, given as its first byte and the rest. -/
def front (first : UInt8) (rest : List UInt8) : Front :=
  let inSecond (b : UInt8) : Bool := (secondRange first).1 ≤ b && b ≤ (secondRange first).2
  match width? first with
  | some 1 => .char (Char.ofNat first.toNat) 1
  | some 2 =>
    match rest with
    | [] => .incomplete
    | b :: _ =>
      if inSecond b then .char (Char.ofNat (first.toNat % 32 * 64 + payload b)) 2
      else .invalid 1
  | some 3 =>
    match rest with
    | [] => .incomplete
    | [b] => if inSecond b then .incomplete else .invalid 1
    | b :: c :: _ =>
      if !inSecond b then .invalid 1
      else if !isContinuation c then .invalid 2
      else .char (Char.ofNat ((first.toNat % 16 * 64 + payload b) * 64 + payload c)) 3
  | some _ =>
    match rest with
    | [] => .incomplete
    | [b] => if inSecond b then .incomplete else .invalid 1
    | [b, c] =>
      if !inSecond b then .invalid 1
      else if !isContinuation c then .invalid 2
      else .incomplete
    | b :: c :: d :: _ =>
      if !inSecond b then .invalid 1
      else if !isContinuation c then .invalid 2
      else if !isContinuation d then .invalid 3
      else
        let high := (first.toNat % 8 * 64 + payload b) * 64 + payload c
        .char (Char.ofNat (high * 64 + payload d)) 4
  | none => .invalid 1

/-- The text of the bytes, of which the first has the given index. -/
def decodeFrom (index : Nat) (bytes : List UInt8) : Except Fault (List Char) :=
  match bytes with
  | [] => .ok []
  | first :: rest =>
    match front first rest with
    | .char c length => do
      let text ← decodeFrom (index + length) (rest.drop (length - 1))
      return c :: text
    | .invalid length => .error (.invalid length index)
    | .incomplete => .error (.incomplete index)
termination_by bytes.length
decreasing_by simp only [List.length_drop, List.length_cons]; omega

def decode (bytes : List UInt8) : Except Fault (List Char) := decodeFrom 0 bytes

/-- The scalar values of the bytes, with none for each bad sequence. -/
def decodeEach (bytes : List UInt8) : List (Option Char) :=
  match bytes with
  | [] => []
  | first :: rest =>
    match front first rest with
    | .char c length => some c :: decodeEach (rest.drop (length - 1))
    | .invalid length => none :: decodeEach (rest.drop (length - 1))
    | .incomplete => [none]
termination_by bytes.length
decreasing_by all_goals simp only [List.length_drop, List.length_cons]; omega

/-- The text of the bytes, with a replacement character for each bad sequence. -/
def decodeLossy (bytes : List UInt8) : List Char := (decodeEach bytes).map (·.getD '\uFFFD')

end WebLogin.Utf8
