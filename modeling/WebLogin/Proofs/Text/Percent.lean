import WebLogin.Proofs.Bytes.Utf8
import WebLogin.Text.Percent

/-!
# Percent coding is undone by reading

* `decode_escape`: an escaped byte is read as that byte.
* `decode_encode`: a written text is read back, whichever bytes stand for themselves, as long as they are
  of ASCII and the percent sign is not one of them.
* `mem_encode`: the characters that are written.
-/

namespace WebLogin.Percent

/-! ## Percent signs -/

/-- The byte of a percent sign. -/
def sign : UInt8 := '%'.toUInt8

theorem decode_cons {b : UInt8} (hb : b ≠ sign) (rest : List UInt8) :
    decode (b :: rest) = b :: decode rest := by
  rcases rest with _ | ⟨high, _ | ⟨low, rest⟩⟩
  · simp only [decode]
  · simp only [decode]
  · have hNone : escaped? b high low = none := if_neg hb
    rw [decode, hNone]

theorem decode_sign {high low byte : UInt8} (h : escaped? sign high low = some byte)
    (rest : List UInt8) : decode (sign :: high :: low :: rest) = byte :: decode rest := by
  rw [decode, h]

/-- The byte of a capital digit. -/
def digitByte (n : Nat) : UInt8 := UInt8.ofNat (Hex.digit n).toUpper.toNat

theorem digitByte_spec {n : Nat} (hn : n < 16) :
    Hex.value? (Char.ofNat (digitByte n).toNat) = some n ∧ (Hex.digit n).toUpper.toNat < 128 ∧
      (Hex.digit n).toUpper.isAlphanum = true := by
  have hAll : ∀ m ∈ List.range 16, Hex.value? (Char.ofNat (digitByte m).toNat) = some m ∧
      (Hex.digit m).toUpper.toNat < 128 ∧ (Hex.digit m).toUpper.isAlphanum = true := by decide
  exact hAll n (List.mem_range.mpr hn)

theorem decode_escape (b : UInt8) (rest : List UInt8) :
    decode (sign :: digitByte (b.toNat / 16) :: digitByte (b.toNat % 16) :: rest) =
      b :: decode rest := by
  have hb : b.toNat < 256 := b.toNat_lt
  obtain ⟨hHigh, -, -⟩ := digitByte_spec (n := b.toNat / 16) (by omega)
  obtain ⟨hLow, -, -⟩ := digitByte_spec (n := b.toNat % 16) (by omega)
  have hWhole : 16 * (b.toNat / 16) + b.toNat % 16 = b.toNat := by omega
  refine decode_sign ?_ rest
  rw [escaped?, if_pos (show sign = '%'.toUInt8 from rfl), hHigh, hLow]
  simp only [Option.bind_eq_bind, Option.bind_some, Option.pure_def, hWhole, UInt8.ofNat_toNat]

/-! ## Bytes that stand for themselves -/

/-- The bytes of a set are of ASCII, and the percent sign is not one of them. -/
def Keepable (keep : UInt8 → Bool) : Prop := ∀ b, keep b = true → b.toNat < 128 ∧ b ≠ sign

/-- A byte as it is written. -/
def code (keep : UInt8 → Bool) (b : UInt8) : List Char :=
  if keep b then [Char.ofNat b.toNat] else escape b

/-- The byte of a character of ASCII. -/
def byteOf (c : Char) : UInt8 := UInt8.ofNat c.toNat

variable {keep : UInt8 → Bool}

theorem mem_code {b : UInt8} {c : Char} (hc : c ∈ code keep b) :
    (keep b = true ∧ c = Char.ofNat b.toNat) ∨ c = '%' ∨ ∃ n < 16, c = (Hex.digit n).toUpper := by
  have hb : b.toNat < 256 := b.toNat_lt
  unfold code at hc
  split at hc
  · next hKeep => exact .inl ⟨hKeep, List.mem_singleton.mp hc⟩
  · simp only [escape, List.mem_cons, List.not_mem_nil, or_false] at hc
    rcases hc with hSign | hHigh | hLow
    · exact .inr (.inl hSign)
    · exact .inr (.inr ⟨_, by omega, hHigh⟩)
    · exact .inr (.inr ⟨_, by omega, hLow⟩)

/-- What is written consists of bytes that stand for themselves, percent signs and capital digits. -/
theorem mem_encode {text : List Char} {c : Char} (hc : c ∈ encode keep text) :
    (∃ b, keep b = true ∧ c = Char.ofNat b.toNat) ∨ c = '%' ∨ ∃ n < 16, c = (Hex.digit n).toUpper := by
  obtain ⟨b, -, hCode⟩ := List.mem_flatMap.mp hc
  exact (mem_code hCode).imp_left fun hKept => ⟨b, hKept⟩

theorem lt_of_mem_encode (hKeep : Keepable keep) {text : List Char} {c : Char}
    (hc : c ∈ encode keep text) : c.toNat < 128 := by
  rcases mem_encode hc with ⟨b, hKept, rfl⟩ | rfl | ⟨n, hn, rfl⟩
  · have hLess := (hKeep b hKept).1
    rw [Utf8.toNat_ofNat (by omega)]
    exact hLess
  · decide
  · exact (digitByte_spec hn).2.1

theorem decode_code (hKeep : Keepable keep) (b : UInt8) (rest : List UInt8) :
    decode ((code keep b).map byteOf ++ rest) = b :: decode rest := by
  unfold code
  split
  · next hKept =>
    obtain ⟨hLess, hSign⟩ := hKeep b hKept
    have hByte : byteOf (Char.ofNat b.toNat) = b := by
      rw [byteOf, Utf8.toNat_ofNat (by omega), UInt8.ofNat_toNat]
    rw [List.map_singleton, hByte]
    exact decode_cons hSign rest
  · exact decode_escape b rest

theorem decode_codes (hKeep : Keepable keep) (bytes : List UInt8) :
    decode ((encodeBytes keep bytes).map byteOf) = bytes := by
  induction bytes with
  | nil => rfl
  | cons b bytes ih =>
    have hSplit : encodeBytes keep (b :: bytes) = code keep b ++ encodeBytes keep bytes := rfl
    rw [hSplit, List.map_append, decode_code hKeep, ih]

/-- A written text is read back as its bytes. -/
theorem decode_encode (hKeep : Keepable keep) (text : List Char) :
    decode (Utf8.encode (encode keep text)) = Utf8.encode text := by
  rw [Utf8.encode_ascii fun c hc => lt_of_mem_encode hKeep hc]
  exact decode_codes hKeep (Utf8.encode text)

end WebLogin.Percent
