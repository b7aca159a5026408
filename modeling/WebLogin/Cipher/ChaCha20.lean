import WebLogin.Bytes.Words

/-!
# ChaCha20

A stream of bytes from a key, a nonce and a block counter. A message is encrypted, and decrypted
again, by adding the stream to it bit by bit; `apply_apply` says that the second time undoes the
first.
-/

namespace WebLogin.ChaCha20

open Bytes

/-- The sixteen words that a block is mixed in. -/
abbrev State := Vector UInt32 16

/-- Turns a word to the left by `n` places, `0 < n < 32`. -/
def rotateLeft (w n : UInt32) : UInt32 := w <<< n ||| w >>> (32 - n)

/-- Mixes four words with one another. -/
def quarterRound (s : State) (a b c d : Fin 16) : State :=
  let s := s.set a (s[a] + s[b])
  let s := s.set d (rotateLeft (s[d] ^^^ s[a]) 16)
  let s := s.set c (s[c] + s[d])
  let s := s.set b (rotateLeft (s[b] ^^^ s[c]) 12)
  let s := s.set a (s[a] + s[b])
  let s := s.set d (rotateLeft (s[d] ^^^ s[a]) 8)
  let s := s.set c (s[c] + s[d])
  s.set b (rotateLeft (s[b] ^^^ s[c]) 7)

/-- A round on the columns of the square of words, then one on its diagonals. -/
def doubleRound (s : State) : State :=
  let s := quarterRound s 0 4 8 12
  let s := quarterRound s 1 5 9 13
  let s := quarterRound s 2 6 10 14
  let s := quarterRound s 3 7 11 15
  let s := quarterRound s 0 5 10 15
  let s := quarterRound s 1 6 11 12
  let s := quarterRound s 2 7 8 13
  quarterRound s 3 4 9 14

/-- The words before mixing: four constants, the key, the counter and the nonce. -/
def start (key nonce : List UInt8) (counter : UInt32) : State :=
  let words := [0x61707865, 0x3320646e, 0x79622d32, 0x6b206574] ++ wordsLE key ++
    counter :: wordsLE nonce
  Vector.ofFn fun i => words.getD i 0

/-- One block of 64 bytes of the stream. -/
def block (key nonce : List UInt8) (counter : UInt32) : List UInt8 :=
  let s := start key nonce counter
  let mixed := (List.range 10).foldl (fun s _ => doubleRound s) s
  (s.zipWith (· + ·) mixed).toList.flatMap bytesLE

/-- The first `count` blocks of the stream from a counter on. -/
def stream (key nonce : List UInt8) (counter : UInt32) : (count : Nat) → List UInt8
  | 0 => []
  | count + 1 => block key nonce counter ++ stream key nonce (counter + 1) count

/-- Adds the stream, from block 1 on, to a message. -/
def apply (key nonce message : List UInt8) : List UInt8 :=
  message.zipWith (· ^^^ ·) (stream key nonce 1 ((message.length + 63) / 64))

@[simp] theorem length_block (key nonce : List UInt8) (counter : UInt32) :
    (block key nonce counter).length = 64 := by
  unfold block
  generalize (Vector.zipWith _ _ _ : State) = words
  have each : ∀ l : List UInt32, (l.flatMap bytesLE).length = 4 * l.length := by
    intro l
    induction l with
    | nil => rfl
    | cons w l ih => simp [ih]; omega
  simp [each]

@[simp] theorem length_stream (key nonce : List UInt8) (counter : UInt32) (count : Nat) :
    (stream key nonce counter count).length = 64 * count := by
  induction count generalizing counter with
  | zero => rfl
  | succ count ih => simp [stream, ih]; omega

@[simp] theorem length_apply (key nonce message : List UInt8) :
    (apply key nonce message).length = message.length := by
  simp [apply]
  omega

theorem zipWith_xor_zipWith_xor {message stream : List UInt8} (h : message.length ≤ stream.length) :
    (message.zipWith (· ^^^ ·) stream).zipWith (· ^^^ ·) stream = message := by
  induction message generalizing stream with
  | nil => simp
  | cons b message ih =>
    cases stream with
    | nil => simp at h
    | cons s stream =>
      simp only [List.length_cons, Nat.add_le_add_iff_right] at h
      have hByte : b ^^^ s ^^^ s = b := by rw [UInt8.xor_assoc, UInt8.xor_self, UInt8.xor_zero]
      rw [List.zipWith_cons_cons, List.zipWith_cons_cons, ih h, hByte]

theorem apply_apply (key nonce message : List UInt8) :
    apply key nonce (apply key nonce message) = message := by
  have enough : message.length ≤ (stream key nonce 1 ((message.length + 63) / 64)).length := by
    rw [length_stream]
    omega
  have same := zipWith_xor_zipWith_xor enough
  unfold apply
  rw [List.length_zipWith, Nat.min_eq_left enough]
  exact same

end WebLogin.ChaCha20
