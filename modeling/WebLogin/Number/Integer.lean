/-!
# Reading integers

An integer of 64 bits with a sign is written as an optional sign and decimal digits. The first
character that cannot be taken decides the fault.
-/

namespace WebLogin.Integer

/-- Why a text is no integer of 64 bits. -/
inductive Fault where
  | empty
  | invalidDigit
  | tooLarge
  | tooSmall
  deriving DecidableEq, Repr

def Fault.message : Fault → String
  | .empty => "cannot parse integer from empty string"
  | .invalidDigit => "invalid digit found in string"
  | .tooLarge => "number too large to fit in target type"
  | .tooSmall => "number too small to fit in target type"

/-- Adds digits to a magnitude that may not pass `limit`; `overflow` is the fault if it does. -/
def readDigits (limit : Nat) (overflow : Fault) : Nat → List Char → Except Fault Nat
  | n, [] => .ok n
  | n, c :: rest =>
    if c.isDigit then
      let m := 10 * n + (c.toNat - '0'.toNat)
      if m ≤ limit then readDigits limit overflow m rest else .error overflow
    else .error .invalidDigit

def read : List Char → Except Fault Int
  | [] => .error .empty
  | '-' :: rest =>
    if rest = [] then .error .invalidDigit
    else (readDigits 0x8000000000000000 .tooSmall 0 rest).map fun n => -(n : Int)
  | '+' :: rest =>
    if rest = [] then .error .invalidDigit
    else (readDigits 0x7fffffffffffffff .tooLarge 0 rest).map Int.ofNat
  | text => (readDigits 0x7fffffffffffffff .tooLarge 0 text).map Int.ofNat

end WebLogin.Integer
