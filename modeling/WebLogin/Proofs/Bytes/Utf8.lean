import WebLogin.Bytes.Utf8

/-!
# Text and its bytes

Reading UTF-8 is the exact inverse of writing it, in both directions.

* `front_encodeChar`, `encodeChar_of_front`: the front of a list of bytes is a scalar value `c`
  exactly if the list starts with the bytes of `c`. Overlong forms, surrogates and values past the
  last one are shut out by the range of the second byte (`Follows`).
* `decode_eq_ok_iff`: a list of bytes is read as a text exactly if it is the one written for it.
* `encode_ne_of_front_invalid`: bytes that begin with no character are those of no text.
* `decodeEach_encode`: a reader that goes on after bad sequences finds none in written text.
-/

namespace WebLogin.Utf8

/-! ## Bytes by their numbers -/

/-- The numbers of a second byte that may follow a first byte. -/
def Follows (first b : UInt8) : Prop :=
  0x80 ≤ b.toNat ∧ b.toNat ≤ 0xBF ∧
  (first.toNat = 0xE0 → 0xA0 ≤ b.toNat) ∧ (first.toNat = 0xED → b.toNat ≤ 0x9F) ∧
  (first.toNat = 0xF0 → 0x90 ≤ b.toNat) ∧ (first.toNat = 0xF4 → b.toNat ≤ 0x8F)

theorem inSecond_iff (first b : UInt8) :
    ((secondRange first).1 ≤ b && b ≤ (secondRange first).2) = true ↔ Follows first b := by
  simp only [secondRange, ← UInt8.toNat_inj, UInt8.le_iff_toNat_le, Bool.and_eq_true,
    decide_eq_true_eq, Follows]
  by_cases h1 : first.toNat = 0xE0
  · simp [h1]; omega
  by_cases h2 : first.toNat = 0xED
  · simp [h2]; omega
  by_cases h3 : first.toNat = 0xF0
  · simp [h3]; omega
  by_cases h4 : first.toNat = 0xF4
  · simp [h4]; omega
  simp [h1, h2, h3, h4]

/-- A continuation byte by its number. -/
def Continues (b : UInt8) : Prop := 0x80 ≤ b.toNat ∧ b.toNat ≤ 0xBF

theorem isContinuation_iff (b : UInt8) : isContinuation b = true ↔ Continues b := by
  simp [isContinuation, UInt8.le_iff_toNat_le, Continues]

theorem width?_eq (b : UInt8) :
    width? b =
      if b.toNat ≤ 0x7F then some 1
      else if 0xC2 ≤ b.toNat ∧ b.toNat ≤ 0xDF then some 2
      else if 0xE0 ≤ b.toNat ∧ b.toNat ≤ 0xEF then some 3
      else if 0xF0 ≤ b.toNat ∧ b.toNat ≤ 0xF4 then some 4
      else none := by
  simp only [width?, UInt8.le_iff_toNat_le, Bool.and_eq_true, decide_eq_true_eq]
  rfl

/-! ## The front of a list of bytes -/

theorem front_one {a : UInt8} {rest : List UInt8} (ha : a.toNat ≤ 0x7F) :
    front a rest = .char (Char.ofNat a.toNat) 1 := by
  have hw : width? a = some 1 := by rw [width?_eq, if_pos ha]
  simp only [front, hw]

theorem front_two {a b : UInt8} {rest : List UInt8} (ha : 0xC2 ≤ a.toNat ∧ a.toNat ≤ 0xDF)
    (hb : Continues b) :
    front a (b :: rest) = .char (Char.ofNat (a.toNat % 32 * 64 + b.toNat % 64)) 2 := by
  have hw : width? a = some 2 := by rw [width?_eq, if_neg (by omega), if_pos ha]
  have hs := (inSecond_iff a b).mpr (by unfold Follows; unfold Continues at hb; omega)
  simp only [front, hw, hs, if_true, payload]

theorem front_three {a b c : UInt8} {rest : List UInt8} (ha : 0xE0 ≤ a.toNat ∧ a.toNat ≤ 0xEF)
    (hb : Follows a b) (hc : Continues c) :
    front a (b :: c :: rest) =
      .char (Char.ofNat ((a.toNat % 16 * 64 + b.toNat % 64) * 64 + c.toNat % 64)) 3 := by
  have hw : width? a = some 3 := by
    rw [width?_eq, if_neg (by omega), if_neg (by omega), if_pos ha]
  have hs := (inSecond_iff a b).mpr hb
  simp [front, hw, hs, (isContinuation_iff c).mpr hc, payload]

theorem front_four {a b c d : UInt8} {rest : List UInt8} (ha : 0xF0 ≤ a.toNat ∧ a.toNat ≤ 0xF4)
    (hb : Follows a b) (hc : Continues c) (hd : Continues d) :
    front a (b :: c :: d :: rest) =
      .char (Char.ofNat
        (((a.toNat % 8 * 64 + b.toNat % 64) * 64 + c.toNat % 64) * 64 + d.toNat % 64)) 4 := by
  have hw : width? a = some 4 := by
    rw [width?_eq, if_neg (by omega), if_neg (by omega), if_neg (by omega), if_pos ha]
  have hs := (inSecond_iff a b).mpr hb
  simp [front, hw, hs, (isContinuation_iff c).mpr hc, (isContinuation_iff d).mpr hd, payload]

/-- A byte that begins a sequence of two is not followed by the begin of another one. -/
theorem front_two_invalid {a b : UInt8} {rest : List UInt8} (ha : 0xC2 ≤ a.toNat ∧ a.toNat ≤ 0xDF)
    (hb : ¬Continues b) : front a (b :: rest) = .invalid 1 := by
  have hw : width? a = some 2 := by rw [width?_eq, if_neg (by omega), if_pos ha]
  have hs : ¬((secondRange a).1 ≤ b && b ≤ (secondRange a).2) = true := by
    rw [inSecond_iff]
    unfold Follows
    unfold Continues at hb
    omega
  simp [front, hw, hs]

theorem encodeChar_eq (c : Char) :
    String.utf8EncodeChar c =
      if c.toNat ≤ 0x7f then [UInt8.ofNat c.toNat]
      else if c.toNat ≤ 0x7ff then
        [UInt8.ofNat (c.toNat / 64 % 32 + 192), UInt8.ofNat (c.toNat % 64 + 128)]
      else if c.toNat ≤ 0xffff then
        [UInt8.ofNat (c.toNat / 4096 % 16 + 224), UInt8.ofNat (c.toNat / 64 % 64 + 128),
         UInt8.ofNat (c.toNat % 64 + 128)]
      else
        [UInt8.ofNat (c.toNat / 262144 % 8 + 240), UInt8.ofNat (c.toNat / 4096 % 64 + 128),
         UInt8.ofNat (c.toNat / 64 % 64 + 128), UInt8.ofNat (c.toNat % 64 + 128)] := rfl

/-- The bytes of a scalar value are read as that value, whatever follows them. -/
theorem front_encodeChar (c : Char) (rest : List UInt8) :
    ∃ first tail, String.utf8EncodeChar c = first :: tail ∧
      front first (tail ++ rest) = .char c (tail.length + 1) := by
  have valid : c.toNat < 0xD800 ∨ 0xDFFF < c.toNat ∧ c.toNat < 0x110000 := c.valid
  have same : Char.ofNat c.toNat = c := Char.ofNat_toNat c
  have small {n : Nat} (h : n < 256) : (UInt8.ofNat n).toNat = n := UInt8.toNat_ofNat_of_lt' h
  rw [encodeChar_eq]
  generalize c.toNat = v at *
  split
  · next h =>
    refine ⟨_, _, rfl, ?_⟩
    have ha := small (show v < 256 by omega)
    rw [front_one (by omega), ha, same]
    rfl
  split
  · next h0 h =>
    have ha := small (show v / 64 % 32 + 192 < 256 by omega)
    have hb := small (show v % 64 + 128 < 256 by omega)
    refine ⟨_, _, rfl, ?_⟩
    have value : (v / 64 % 32 + 192) % 32 * 64 + (v % 64 + 128) % 64 = v := by omega
    rw [List.cons_append, front_two (by omega) (by unfold Continues; omega), ha, hb, value, same]
    rfl
  split
  · next h0 h1 h =>
    have ha := small (show v / 4096 % 16 + 224 < 256 by omega)
    have hb := small (show v / 64 % 64 + 128 < 256 by omega)
    have hc := small (show v % 64 + 128 < 256 by omega)
    refine ⟨_, _, rfl, ?_⟩
    have value : ((v / 4096 % 16 + 224) % 16 * 64 + (v / 64 % 64 + 128) % 64) * 64 +
        (v % 64 + 128) % 64 = v := by omega
    rw [List.cons_append, List.cons_append,
      front_three (by omega) (by unfold Follows; omega) (by unfold Continues; omega), ha, hb, hc,
      value, same]
    rfl
  · next h0 h1 h2 =>
    have ha := small (show v / 262144 % 8 + 240 < 256 by omega)
    have hb := small (show v / 4096 % 64 + 128 < 256 by omega)
    have hc := small (show v / 64 % 64 + 128 < 256 by omega)
    have hd := small (show v % 64 + 128 < 256 by omega)
    refine ⟨_, _, rfl, ?_⟩
    have value : (((v / 262144 % 8 + 240) % 8 * 64 + (v / 4096 % 64 + 128) % 64) * 64 +
        (v / 64 % 64 + 128) % 64) * 64 + (v % 64 + 128) % 64 = v := by omega
    rw [List.cons_append, List.cons_append, List.cons_append,
      front_four (by omega) (by unfold Follows; omega) (by unfold Continues; omega)
        (by unfold Continues; omega), ha, hb, hc, hd, value, same]
    rfl

theorem width?_cases {b : UInt8} {n : Nat} (h : width? b = some n) :
    (n = 1 ∧ b.toNat ≤ 0x7F) ∨ (n = 2 ∧ 0xC2 ≤ b.toNat ∧ b.toNat ≤ 0xDF) ∨
    (n = 3 ∧ 0xE0 ≤ b.toNat ∧ b.toNat ≤ 0xEF) ∨ (n = 4 ∧ 0xF0 ≤ b.toNat ∧ b.toNat ≤ 0xF4) := by
  rw [width?_eq] at h
  split at h
  · next h1 => exact .inl ⟨by simpa using h.symm, h1⟩
  split at h
  · next h2 => exact .inr (.inl ⟨by simpa using h.symm, h2⟩)
  split at h
  · next h3 => exact .inr (.inr (.inl ⟨by simpa using h.symm, h3⟩))
  split at h
  · next h4 => exact .inr (.inr (.inr ⟨by simpa using h.symm, h4⟩))
  · cases h

theorem toNat_ofNat {n : Nat} (h : n < 0xD800 ∨ 0xDFFF < n ∧ n < 0x110000) :
    (Char.ofNat n).toNat = n := by
  have valid : n.isValidChar := h
  rw [Char.ofNat, dif_pos valid]
  rfl

theorem eq_ofNat {b : UInt8} {n : Nat} (h : b.toNat = n) : UInt8.ofNat n = b := by
  rw [← h, UInt8.ofNat_toNat]

/-! ## What stands at the front -/

theorem char_two {a : UInt8} {rest : List UInt8} {c : Char} {n : Nat}
    (ha : 0xC2 ≤ a.toNat ∧ a.toNat ≤ 0xDF) (h : front a rest = .char c n) :
    ∃ b more, rest = b :: more ∧ Follows a b ∧ n = 2 ∧
      c = Char.ofNat (a.toNat % 32 * 64 + b.toNat % 64) := by
  have hw : width? a = some 2 := by rw [width?_eq, if_neg (by omega), if_pos ha]
  cases rest with
  | nil => simp [front, hw] at h
  | cons b more =>
    simp only [front, hw] at h
    split at h
    · next hs =>
      obtain ⟨rfl, rfl⟩ := Front.char.inj h
      exact ⟨b, more, rfl, (inSecond_iff a b).mp hs, rfl, rfl⟩
    · cases h

theorem char_three {a : UInt8} {rest : List UInt8} {c : Char} {n : Nat}
    (ha : 0xE0 ≤ a.toNat ∧ a.toNat ≤ 0xEF) (h : front a rest = .char c n) :
    ∃ b d more, rest = b :: d :: more ∧ Follows a b ∧ Continues d ∧ n = 3 ∧
      c = Char.ofNat ((a.toNat % 16 * 64 + b.toNat % 64) * 64 + d.toNat % 64) := by
  have hw : width? a = some 3 := by
    rw [width?_eq, if_neg (by omega), if_neg (by omega), if_pos ha]
  cases rest with
  | nil => simp [front, hw] at h
  | cons b rest =>
    cases rest with
    | nil =>
      simp only [front, hw] at h
      split at h
      · cases h
      · cases h
    | cons d more =>
      simp only [front, hw, Bool.not_eq_true'] at h
      split at h
      · cases h
      split at h
      · cases h
      · next hs hd =>
        obtain ⟨rfl, rfl⟩ := Front.char.inj h
        exact ⟨b, d, more, rfl, (inSecond_iff a b).mp (Bool.not_eq_false _ ▸ hs),
          (isContinuation_iff d).mp (Bool.not_eq_false _ ▸ hd), rfl, rfl⟩

theorem char_four {a : UInt8} {rest : List UInt8} {c : Char} {n : Nat}
    (ha : 0xF0 ≤ a.toNat ∧ a.toNat ≤ 0xF4) (h : front a rest = .char c n) :
    ∃ b d e more, rest = b :: d :: e :: more ∧ Follows a b ∧ Continues d ∧ Continues e ∧ n = 4 ∧
      c = Char.ofNat
        (((a.toNat % 8 * 64 + b.toNat % 64) * 64 + d.toNat % 64) * 64 + e.toNat % 64) := by
  have hw : width? a = some 4 := by
    rw [width?_eq, if_neg (by omega), if_neg (by omega), if_neg (by omega), if_pos ha]
  cases rest with
  | nil => simp [front, hw] at h
  | cons b rest =>
    cases rest with
    | nil =>
      simp only [front, hw] at h
      split at h
      · cases h
      · cases h
    | cons d rest =>
      cases rest with
      | nil =>
        simp only [front, hw] at h
        split at h
        · cases h
        split at h
        · cases h
        · cases h
      | cons e more =>
        simp only [front, hw, Bool.not_eq_true'] at h
        split at h
        · cases h
        split at h
        · cases h
        split at h
        · cases h
        · next hs hd he =>
          obtain ⟨rfl, rfl⟩ := Front.char.inj h
          exact ⟨b, d, e, more, rfl, (inSecond_iff a b).mp (Bool.not_eq_false _ ▸ hs),
            (isContinuation_iff d).mp (Bool.not_eq_false _ ▸ hd),
            (isContinuation_iff e).mp (Bool.not_eq_false _ ▸ he), rfl, rfl⟩

/-- A scalar value that is read at the front is written with the bytes that were read. -/
theorem encodeChar_of_front {a : UInt8} {rest : List UInt8} {c : Char} {n : Nat}
    (h : front a rest = .char c n) :
    ∃ tail more, rest = tail ++ more ∧ n = tail.length + 1 ∧
      String.utf8EncodeChar c = a :: tail := by
  cases hw : width? a with
  | none => simp [front, hw] at h
  | some w =>
    rcases width?_cases hw with ⟨-, ha⟩ | ⟨-, ha⟩ | ⟨-, ha⟩ | ⟨-, ha⟩
    · rw [front_one ha] at h
      obtain ⟨rfl, rfl⟩ := Front.char.inj h
      refine ⟨[], rest, rfl, rfl, ?_⟩
      rw [encodeChar_eq, toNat_ofNat (by omega), if_pos ha, eq_ofNat rfl]
    · obtain ⟨b, more, rfl, hb, rfl, rfl⟩ := char_two ha h
      unfold Follows at hb
      refine ⟨[b], more, rfl, rfl, ?_⟩
      rw [encodeChar_eq, toNat_ofNat (by omega), if_neg (by omega), if_pos (by omega),
        @eq_ofNat a _ (by omega), @eq_ofNat b _ (by omega)]
    · obtain ⟨b, d, more, rfl, hb, hd, rfl, rfl⟩ := char_three ha h
      unfold Follows at hb
      unfold Continues at hd
      refine ⟨[b, d], more, rfl, rfl, ?_⟩
      rw [encodeChar_eq, toNat_ofNat (by omega), if_neg (by omega), if_neg (by omega),
        if_pos (by omega), @eq_ofNat a _ (by omega), @eq_ofNat b _ (by omega),
        @eq_ofNat d _ (by omega)]
    · obtain ⟨b, d, e, more, rfl, hb, hd, he, rfl, rfl⟩ := char_four ha h
      unfold Follows at hb
      unfold Continues at hd he
      refine ⟨[b, d, e], more, rfl, rfl, ?_⟩
      rw [encodeChar_eq, toNat_ofNat (by omega), if_neg (by omega), if_neg (by omega),
        if_neg (by omega), @eq_ofNat a _ (by omega), @eq_ofNat b _ (by omega),
        @eq_ofNat d _ (by omega), @eq_ofNat e _ (by omega)]

/-! ## Whole texts -/

theorem decodeFrom_encode (index : Nat) (text : List Char) :
    decodeFrom index (encode text) = .ok text := by
  induction text generalizing index with
  | nil => rw [encode, List.flatMap_nil, decodeFrom]
  | cons c text ih =>
    obtain ⟨first, tail, hc, hfront⟩ := front_encodeChar c (encode text)
    have split : encode (c :: text) = first :: (tail ++ encode text) := by
      simp [encode, hc]
    rw [split, decodeFrom, hfront]
    simp [ih, bind, Except.bind, pure, Except.pure]

/-- What is written is read back. -/
theorem decode_encode (text : List Char) : decode (encode text) = .ok text :=
  decodeFrom_encode 0 text

theorem encode_of_decodeFrom {index : Nat} {bytes : List UInt8} {text : List Char}
    (h : decodeFrom index bytes = .ok text) : encode text = bytes := by
  fun_induction decodeFrom index bytes generalizing text with
  | case1 => cases h; rfl
  | case2 index first rest c n hf ih =>
    obtain ⟨tail, more, rfl, rfl, hc⟩ := encodeChar_of_front hf
    rw [Nat.add_sub_cancel, List.drop_left] at h ih
    cases hd : decodeFrom (index + (tail.length + 1)) more with
    | error fault => rw [hd] at h; cases h
    | ok text' =>
      rw [hd] at h
      cases h
      rw [← ih hd, encode, List.flatMap_cons, hc]
      rfl
  | case3 => cases h
  | case4 => cases h

/-- Only one list of bytes is read as a text: the one that is written for it. -/
theorem decode_eq_ok_iff {bytes : List UInt8} {text : List Char} :
    decode bytes = .ok text ↔ bytes = encode text :=
  ⟨fun h => (encode_of_decodeFrom h).symm, fun h => h ▸ decode_encode text⟩

theorem encode_append (front back : List Char) :
    encode (front ++ back) = encode front ++ encode back :=
  List.flatMap_append

theorem bytes_append (a b : String) : bytes (a ++ b) = bytes a ++ bytes b := by
  rw [bytes, String.toList_append, encode_append]
  rfl

theorem encode_cons_ascii {c : Char} (hc : c.toNat < 128) (rest : List Char) :
    encode (c :: rest) = UInt8.ofNat c.toNat :: encode rest := by
  have hOne : encode [c] = [UInt8.ofNat c.toNat] := by
    rw [encode, List.flatMap_singleton, encodeChar_eq, if_pos (Nat.le_of_lt_succ hc)]
  rw [← List.singleton_append, encode_append, hOne, List.singleton_append]

/-- A text of ASCII has one byte for each character. -/
theorem encode_ascii {text : List Char} (h : ∀ c ∈ text, c.toNat < 128) :
    encode text = text.map fun c => UInt8.ofNat c.toNat := by
  induction text with
  | nil => rfl
  | cons c text ih =>
    rw [encode_cons_ascii (h c List.mem_cons_self), ih fun d hd => h d (List.mem_cons_of_mem _ hd)]
    rfl

theorem encode_injective {a b : List Char} (h : encode a = encode b) : a = b := by
  have hread := decode_encode a
  rw [h, decode_encode] at hread
  exact (Except.ok.inj hread).symm

/-- What is written has a scalar value at its front. -/
theorem encode_ne_of_front_invalid {first : UInt8} {rest : List UInt8} {n : Nat}
    (hFront : front first rest = .invalid n) (text : List Char) : encode text ≠ first :: rest := by
  intro hText
  have hRead := decode_encode text
  rw [hText, decode, decodeFrom, hFront] at hRead
  cases hRead

theorem decodeEach_encode (text : List Char) : decodeEach (encode text) = text.map some := by
  induction text with
  | nil => rw [encode, List.flatMap_nil, decodeEach, List.map_nil]
  | cons c text ih =>
    obtain ⟨first, tail, hc, hfront⟩ := front_encodeChar c (encode text)
    have split : encode (c :: text) = first :: (tail ++ encode text) := by
      simp [encode, hc]
    rw [split, decodeEach, hfront]
    simp [ih]

end WebLogin.Utf8
