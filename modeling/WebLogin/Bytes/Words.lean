/-!
# Words and blocks of bytes

A hash or a cipher reads a message as blocks of a fixed size and a block as words. `chunks` cuts a
list into blocks, `wordsBE` and `wordsLE` read words with the first byte highest or lowest, and
`bytesBE`, `bytesLE` write a word back. `natLE` and `bytesOfNat` do the same for numbers of any
size, least byte first.
-/

namespace WebLogin.Bytes

/-! ## Blocks -/

/-- Consecutive pieces of `n` elements. The last piece may be shorter, and none is empty. -/
def chunks {α : Type} (n : Nat) (l : List α) : List (List α) :=
  match l with
  | [] => []
  | a :: rest => if n = 0 then [] else (a :: rest.take (n - 1)) :: chunks n (rest.drop (n - 1))
termination_by l.length
decreasing_by simp only [List.length_drop, List.length_cons]; omega

/-! ## Words of four bytes -/

/-- The four bytes of a word, highest first. -/
def bytesBE (w : UInt32) : List UInt8 :=
  [(w >>> 24).toUInt8, (w >>> 16).toUInt8, (w >>> 8).toUInt8, w.toUInt8]

/-- The four bytes of a word, lowest first. -/
def bytesLE (w : UInt32) : List UInt8 :=
  [w.toUInt8, (w >>> 8).toUInt8, (w >>> 16).toUInt8, (w >>> 24).toUInt8]

@[simp] theorem length_bytesBE (w : UInt32) : (bytesBE w).length = 4 := rfl

@[simp] theorem length_bytesLE (w : UInt32) : (bytesLE w).length = 4 := rfl

/-- The words of a message whose bytes come highest first. Up to three bytes at the end that fill
no word are left out. -/
def wordsBE : List UInt8 → List UInt32
  | a :: b :: c :: d :: rest =>
    (a.toUInt32 <<< 24 ||| b.toUInt32 <<< 16 ||| c.toUInt32 <<< 8 ||| d.toUInt32) :: wordsBE rest
  | _ => []

/-- The words of a message whose bytes come lowest first. -/
def wordsLE : List UInt8 → List UInt32
  | a :: b :: c :: d :: rest =>
    (a.toUInt32 ||| b.toUInt32 <<< 8 ||| c.toUInt32 <<< 16 ||| d.toUInt32 <<< 24) :: wordsLE rest
  | _ => []

/-! ## Numbers -/

/-- The number that the bytes spell, least byte first. -/
def natLE : List UInt8 → Nat
  | [] => 0
  | b :: rest => b.toNat + 256 * natLE rest

/-- The lowest `count` bytes of a number, least byte first. -/
def bytesOfNat : (count : Nat) → Nat → List UInt8
  | 0, _ => []
  | count + 1, n => UInt8.ofNat (n % 256) :: bytesOfNat count (n / 256)

@[simp] theorem length_bytesOfNat (count n : Nat) : (bytesOfNat count n).length = count := by
  induction count generalizing n with
  | zero => rfl
  | succ count ih => simp [bytesOfNat, ih]

end WebLogin.Bytes
