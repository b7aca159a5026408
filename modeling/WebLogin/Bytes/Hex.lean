/-!
# Hexadecimal text

Two lowercase digits for each byte, the higher half first. Reading accepts digits of either case;
`decode?_encode` says that it gives back what was written.
-/

namespace WebLogin.Hex

/-- The sixteen digits in order of value. -/
def digits : List Char :=
  ['0', '1', '2', '3', '4', '5', '6', '7', '8', '9', 'a', 'b', 'c', 'd', 'e', 'f']

/-- The lowercase digit of a value below sixteen. -/
def digit (n : Nat) : Char := digits.getD n '0'

/-- The value of a digit of either case. -/
def value? (c : Char) : Option Nat :=
  if '0' ≤ c ∧ c ≤ '9' then some (c.toNat - '0'.toNat)
  else if 'a' ≤ c ∧ c ≤ 'f' then some (c.toNat - 'a'.toNat + 10)
  else if 'A' ≤ c ∧ c ≤ 'F' then some (c.toNat - 'A'.toNat + 10)
  else none

def encode : List UInt8 → List Char
  | [] => []
  | b :: rest => digit (b.toNat / 16) :: digit (b.toNat % 16) :: encode rest

/-- The text of the bytes, as a string. -/
def text (bytes : List UInt8) : String := String.ofList (encode bytes)

/-- The bytes of a text of digit pairs. -/
def decode? : List Char → Option (List UInt8)
  | [] => some []
  | high :: low :: rest => do
    let h ← value? high
    let l ← value? low
    return UInt8.ofNat (16 * h + l) :: (← decode? rest)
  | [_] => none

theorem value?_digit {n : Nat} (h : n < 16) : value? (digit n) = some n := by
  have all : ∀ m ∈ List.range 16, value? (digit m) = some m := by decide
  exact all n (List.mem_range.mpr h)

theorem decode?_encode (bytes : List UInt8) : decode? (encode bytes) = some bytes := by
  induction bytes with
  | nil => rfl
  | cons b rest ih =>
    have hb : b.toNat < 256 := b.toNat_lt
    have high : b.toNat / 16 < 16 := by omega
    have low : b.toNat % 16 < 16 := by omega
    have whole : 16 * (b.toNat / 16) + b.toNat % 16 = b.toNat := by omega
    simp only [encode, decode?, value?_digit high, value?_digit low, ih, whole,
      UInt8.ofNat_toNat, Option.bind_eq_bind, Option.bind_some, Option.pure_def]

theorem encode_injective {bytes other : List UInt8} (h : encode bytes = encode other) :
    bytes = other := by
  have hBytes := congrArg decode? h
  rw [decode?_encode, decode?_encode] at hBytes
  exact Option.some.inj hBytes

@[simp] theorem length_encode (bytes : List UInt8) : (encode bytes).length = 2 * bytes.length := by
  induction bytes with
  | nil => rfl
  | cons b rest ih => simp [encode, ih]; omega

theorem digit_mem (n : Nat) : digit n ∈ digits := by
  unfold digit
  rw [List.getD_eq_getElem?_getD]
  cases h : digits[n]? with
  | none => decide
  | some c => exact List.mem_of_getElem? h

/-- Every character written is one of the sixteen digits. -/
theorem mem_digits_of_mem_encode {bytes : List UInt8} {c : Char} (h : c ∈ encode bytes) :
    c ∈ digits := by
  induction bytes with
  | nil => simp [encode] at h
  | cons b rest ih =>
    simp only [encode, List.mem_cons] at h
    rcases h with rfl | rfl | h
    · exact digit_mem _
    · exact digit_mem _
    · exact ih h

end WebLogin.Hex
