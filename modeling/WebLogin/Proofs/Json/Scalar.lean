import WebLogin.Json.Writer
import WebLogin.Json.Tree

/-!
# Written scalars and their tokens

What the writer makes of a number or a string is cut into one token, which means that number or
that string.

* `wordToken?_number`: the text of an integer that is kept exactly is a word for that integer.
* `tokensFrom?_word`: a word is cut off at the first character that ends it.
* `tokensFrom?_string`: a string in quotes is cut off at its closing quote, with every escape read
  back, whatever the string holds.
-/

namespace WebLogin.Json

/-! ## Integers -/

theorem digitsValue_toDigits (n : Nat) : digitsValue (Nat.toDigits 10 n) = n := by
  rw [digitsValue, ← Nat.ofDigitChars_eq_foldl, Nat.ofDigitChars_ten_toDigits]

theorem isDigit_of_mem_toDigits {n : Nat} {c : Char} (h : c ∈ Nat.toDigits 10 n) :
    c.isDigit = true :=
  Nat.isDigit_of_mem_toDigits (by decide) (by decide) h

/-- Only zero is written with a zero in front. -/
theorem head?_toDigits_ne_zero {n : Nat} (h : 0 < n) : (Nat.toDigits 10 n).head? ≠ some '0' := by
  induction n using Nat.strongRecOn with
  | ind n ih =>
    by_cases hlt : n < 10
    · rw [Nat.toDigits_of_lt_base hlt]
      have all : ∀ m ∈ List.range 10, 0 < m → [Nat.digitChar m].head? ≠ some '0' := by decide
      exact all n (List.mem_range.mpr hlt) h
    · have hlow := ih (n / 10) (by omega) (by omega)
      rw [Nat.toDigits_of_base_le (by decide) (by omega), List.head?_append]
      cases hd : (Nat.toDigits 10 (n / 10)).head? with
      | none => exact absurd (List.head?_eq_none_iff.mp hd) Nat.toDigits_ne_nil
      | some c =>
        rw [hd] at hlow
        simpa using hlow

/-- A run of digits as an integer may be written: not empty, and without a zero in front of more. -/
structure IntegerDigits (digits : List Char) : Prop where
  digit : ∀ c ∈ digits, c.isDigit = true
  notEmpty : digits ≠ []
  noZero : ¬(digits.head? = some '0' ∧ digits.length > 1)

theorem integerDigits_toDigits (n : Nat) : IntegerDigits (Nat.toDigits 10 n) where
  digit _ := isDigit_of_mem_toDigits
  notEmpty := Nat.toDigits_ne_nil
  noZero := by
    rintro ⟨hzero, hlong⟩
    rcases Nat.eq_zero_or_pos n with rfl | hpos
    · simp at hlong
    · exact head?_toDigits_ne_zero hpos hzero

theorem IntegerDigits.ne_minus {digits rest : List Char} (h : IntegerDigits digits) :
    digits ≠ '-' :: rest := by
  rintro rfl
  exact absurd (h.digit '-' List.mem_cons_self) (by decide)

theorem IntegerDigits.takeWhile {digits : List Char} (h : IntegerDigits digits) :
    digits.takeWhile Char.isDigit = digits := by
  have hall : (digits ++ []).takeWhile Char.isDigit = digits ++ [].takeWhile Char.isDigit :=
    List.takeWhile_append_of_pos h.digit
  simpa using hall

theorem IntegerDigits.dropWhile {digits : List Char} (h : IntegerDigits digits) :
    digits.dropWhile Char.isDigit = [] := by
  have hall : (digits ++ []).dropWhile Char.isDigit = [].dropWhile Char.isDigit :=
    List.dropWhile_append_of_pos h.digit
  simpa using hall

theorem ofChars?_digits {digits : List Char} (h : IntegerDigits digits) :
    Numeral.ofChars? digits = some ⟨false, digits, none, none⟩ := by
  have hcond : ¬(digits = [] ∨ (digits.head? = some '0' ∧ digits.length > 1)) := fun hor =>
    hor.elim h.notEmpty h.noZero
  unfold Numeral.ofChars?
  split
  next negative text heq =>
    obtain ⟨rfl, rfl⟩ : false = negative ∧ digits = text := by
      split at heq
      · exact absurd rfl h.ne_minus
      · exact Prod.mk.inj heq
    simp only [h.takeWhile, h.dropWhile, hcond, if_false]
    simp

theorem ofChars?_neg_digits {digits : List Char} (h : IntegerDigits digits) :
    Numeral.ofChars? ('-' :: digits) = some ⟨true, digits, none, none⟩ := by
  have hcond : ¬(digits = [] ∨ (digits.head? = some '0' ∧ digits.length > 1)) := fun hor =>
    hor.elim h.notEmpty h.noZero
  unfold Numeral.ofChars?
  simp only [h.takeWhile, h.dropWhile, hcond, if_false]
  simp

/-- The numbers that are kept exactly. -/
def Number.Exact : Number → Prop
  | .integer n => leastInteger ≤ n ∧ n ≤ greatestInteger
  | .double _ => False

theorem number?_of_toDigits {n : Nat} (h : n < 0x10000000000000000) :
    Numeral.number? ⟨false, Nat.toDigits 10 n, none, none⟩ = some (.integer n) := by
  simp [Numeral.number?, digitsValue_toDigits, h]

theorem number?_of_neg_toDigits {n : Nat} (hpos : 0 < n) (h : n ≤ 0x8000000000000000) :
    Numeral.number? ⟨true, Nat.toDigits 10 n, none, none⟩ = some (.integer (-n)) := by
  simp [Numeral.number?, digitsValue_toDigits, h, hpos]

theorem wordToken?_of_numeral {word : List Char} {numeral : Numeral}
    (h : Numeral.ofChars? word = some numeral) :
    wordToken? word.reverse = some (.number numeral.number?) := by
  unfold wordToken?
  rw [List.reverse_reverse]
  have hnot (literal : List Char) (hl : Numeral.ofChars? literal = none) : word ≠ literal := by
    rintro rfl
    rw [hl] at h
    cases h
  rw [if_neg (hnot _ (by decide)), if_neg (hnot _ (by decide)), if_neg (hnot _ (by decide)), h]
  rfl

theorem wordToken?_number {n : Number} (h : n.Exact) :
    wordToken? n.write.reverse = some (.number (some n)) := by
  cases n with
  | double bits => exact absurd h id
  | integer n =>
    simp only [Number.Exact, leastInteger, greatestInteger] at h
    simp only [Number.write]
    split
    · next hneg =>
      rw [wordToken?_of_numeral (ofChars?_neg_digits (integerDigits_toDigits n.natAbs)),
        number?_of_neg_toDigits (by omega) (by omega)]
      have hn : -(n.natAbs : Int) = n := by omega
      rw [hn]
    · next hneg =>
      rw [wordToken?_of_numeral (ofChars?_digits (integerDigits_toDigits n.natAbs)),
        number?_of_toDigits (by omega)]
      have hn : (n.natAbs : Int) = n := by omega
      rw [hn]

/-! ## Words -/

/-- A rest before which a word ends: the end of the text, or a character that ends it. -/
def EndsWord (rest : List Char) : Prop := ∀ c ∈ rest.head?, endsWord c = true

theorem start_of_digit {c : Char} (h : c.isDigit = true ∨ c = '-') : start c = (none, .word [c]) := by
  have hne (d : Char) (hd : d.isDigit = false) (hm : d ≠ '-') : c ≠ d := by
    rintro rfl
    rcases h with h | h
    · rw [hd] at h; cases h
    · exact hm h
  have hblank : isBlank c = false := by
    simp only [isBlank, Bool.or_eq_false_iff, beq_eq_false_iff_ne]
    exact ⟨⟨⟨hne _ (by decide) (by decide), hne _ (by decide) (by decide)⟩,
      hne _ (by decide) (by decide)⟩, hne _ (by decide) (by decide)⟩
  unfold start
  rw [if_neg (hne _ (by decide) (by decide)), if_neg (hne _ (by decide) (by decide)),
    if_neg (hne _ (by decide) (by decide)), if_neg (hne _ (by decide) (by decide)),
    if_neg (hne _ (by decide) (by decide)), if_neg (hne _ (by decide) (by decide)),
    if_neg (hne _ (by decide) (by decide)), if_neg (by simp [hblank])]

/-- A character of which only words are made. -/
def IsWordChar (c : Char) : Prop := start c = (none, .word [c])

theorem endsWord_of_isWordChar {c : Char} (h : IsWordChar c) : endsWord c = false := by
  unfold endsWord
  rw [h]

theorem isWordChar_of_mem_write {n : Number} (hn : n.Exact) {c : Char} (h : c ∈ n.write) :
    IsWordChar c := by
  cases n with
  | double bits => exact absurd hn id
  | integer n =>
    simp only [Number.write] at h
    split at h
    · rcases List.mem_cons.mp h with rfl | h
      · exact start_of_digit (.inr rfl)
      · exact start_of_digit (.inl (isDigit_of_mem_toDigits h))
    · exact start_of_digit (.inl (isDigit_of_mem_toDigits h))

theorem tokensFrom?_cons {α : Type} {step : α → Mode → Option (List Token × Mode)} {c : α}
    {mode next : Mode} {done : List Token} (h : step c mode = some (done, next)) (rest : List α) :
    tokensFrom? step mode (c :: rest) = (tokensFrom? step next rest).map (done ++ ·) := by
  simp only [tokensFrom?, h, Option.bind_eq_bind, Option.bind_some]
  cases tokensFrom? step next rest <;> rfl

theorem tokensFrom?_silent {α : Type} {step : α → Mode → Option (List Token × Mode)} {c : α}
    {mode next : Mode} (h : step c mode = some ([], next)) (rest : List α) :
    tokensFrom? step mode (c :: rest) = tokensFrom? step next rest := by
  rw [tokensFrom?_cons h]
  cases tokensFrom? step next rest <;> rfl

theorem step_inWord {c : Char} (h : IsWordChar c) (chars : List Char) :
    Mode.step c (.word chars) = some ([], .word (c :: chars)) := by
  simp [Mode.step, endsWord_of_isWordChar h]

theorem step_startWord {c : Char} (h : IsWordChar c) :
    Mode.step c .between = some ([], .word [c]) := by
  have hstart : start c = (none, .word [c]) := h
  simp [Mode.step, hstart]

theorem step_endWord {c : Char} {chars : List Char} {token : Token}
    (hc : endsWord c = true) (htoken : wordToken? chars = some token) :
    Mode.step c (.word chars) = some (token :: (start c).1.toList, (start c).2) := by
  simp [Mode.step, hc, htoken]

theorem tokensFrom?_inWord {word chars rest : List Char} (h : ∀ c ∈ word, IsWordChar c) :
    tokensFrom? Mode.step (.word chars) (word ++ rest) =
      tokensFrom? Mode.step (.word (word.reverse ++ chars)) rest := by
  induction word generalizing chars with
  | nil => rfl
  | cons c word ih =>
    rw [List.cons_append, tokensFrom?_silent (step_inWord (h c List.mem_cons_self) chars),
      ih fun d hd => h d (List.mem_cons_of_mem _ hd), List.reverse_cons, List.append_assoc]
    rfl

/-- A word that is a token is cut off where it ends. -/
theorem tokensFrom?_word {word rest : List Char} {token : Token} (hne : word ≠ [])
    (hchars : ∀ c ∈ word, IsWordChar c) (htoken : wordToken? word.reverse = some token)
    (hrest : EndsWord rest) :
    tokensFrom? Mode.step .between (word ++ rest) =
      (tokensFrom? Mode.step .between rest).map (token :: ·) := by
  obtain ⟨c, word, rfl⟩ := List.exists_cons_of_ne_nil hne
  rw [List.cons_append, tokensFrom?_silent (step_startWord (hchars c List.mem_cons_self)),
    tokensFrom?_inWord fun d hd => hchars d (List.mem_cons_of_mem _ hd), ← List.reverse_cons]
  cases rest with
  | nil =>
    rw [tokensFrom?, Mode.finish, htoken]
    rfl
  | cons d rest =>
    have hbetween : Mode.step d .between = some ((start d).1.toList, (start d).2) := rfl
    rw [tokensFrom?_cons (step_endWord (hrest d rfl) htoken), tokensFrom?_cons hbetween]
    cases tokensFrom? Mode.step (start d).2 rest <;> rfl

/-! ## Strings -/

/-- The piece that a written character is read as: a control character without a letter of its own
is read as a code unit. -/
def pieceOf (c : Char) : Piece :=
  if c = '"' ∨ c = '\\' ∨ c = '\x08' ∨ c = '\x0c' ∨ c = '\n' ∨ c = '\r' ∨ c = '\t' then .char c
  else if c < ' ' then .unit c.toNat
  else .char c

theorem tokensFrom?_letterEscape {letter c : Char} (hu : letter ≠ 'u')
    (h : escaped? letter = some c) (pieces : List Piece) (rest : List Char) :
    tokensFrom? Mode.step (.string pieces) ('\\' :: letter :: rest) =
      tokensFrom? Mode.step (.string (.char c :: pieces)) rest := by
  have hslash : Mode.step '\\' (.string pieces) = some ([], .escape pieces) := rfl
  have hletter : Mode.step letter (.escape pieces) = some ([], .string (.char c :: pieces)) := by
    simp [Mode.step, hu, h]
  rw [tokensFrom?_silent hslash, tokensFrom?_silent hletter]

theorem hex_value?_digitChar {n : Nat} (h : n < 16) : Hex.value? (Nat.digitChar n) = some n := by
  have all : ∀ m ∈ List.range 16, Hex.value? (Nat.digitChar m) = some m := by decide
  exact all n (List.mem_range.mpr h)

theorem tokensFrom?_unitEscape {c : Char} (h : c.toNat < 32) (pieces : List Piece)
    (rest : List Char) :
    tokensFrom? Mode.step (.string pieces) ('\\' :: 'u' :: '0' :: '0' :: (controlDigits c ++ rest)) =
      tokensFrom? Mode.step (.string (.unit c.toNat :: pieces)) rest := by
  have hslash : Mode.step '\\' (.string pieces) = some ([], .escape pieces) := rfl
  have hu : Mode.step 'u' (.escape pieces) = some ([], .unit pieces 0 0) := rfl
  have hzero₁ : Mode.step '0' (.unit pieces 0 0) = some ([], .unit pieces 1 0) := rfl
  have hzero₂ : Mode.step '0' (.unit pieces 1 0) = some ([], .unit pieces 2 0) := rfl
  have hhigh : Mode.step (Nat.digitChar (c.toNat / 16)) (.unit pieces 2 0) =
      some ([], .unit pieces 3 (c.toNat / 16)) := by
    simp [Mode.step, hex_value?_digitChar (show c.toNat / 16 < 16 by omega)]
  have hlow : Mode.step (Nat.digitChar (c.toNat % 16)) (.unit pieces 3 (c.toNat / 16)) =
      some ([], .string (.unit c.toNat :: pieces)) := by
    have hvalue : 16 * (c.toNat / 16) + c.toNat % 16 = c.toNat := by omega
    simp [Mode.step, hex_value?_digitChar (show c.toNat % 16 < 16 by omega), hvalue]
  rw [tokensFrom?_silent hslash, tokensFrom?_silent hu, tokensFrom?_silent hzero₁,
    tokensFrom?_silent hzero₂, controlDigits, List.cons_append, List.cons_append, List.nil_append,
    tokensFrom?_silent hhigh, tokensFrom?_silent hlow]

theorem tokensFrom?_escapeChar (c : Char) (pieces : List Piece) (rest : List Char) :
    tokensFrom? Mode.step (.string pieces) (escapeChar c ++ rest) =
      tokensFrom? Mode.step (.string (pieceOf c :: pieces)) rest := by
  unfold escapeChar
  split
  · next h => subst h; exact tokensFrom?_letterEscape (by decide) rfl pieces rest
  split
  · next h => subst h; exact tokensFrom?_letterEscape (by decide) rfl pieces rest
  split
  · next h => subst h; exact tokensFrom?_letterEscape (by decide) rfl pieces rest
  split
  · next h => subst h; exact tokensFrom?_letterEscape (by decide) rfl pieces rest
  split
  · next h => subst h; exact tokensFrom?_letterEscape (by decide) rfl pieces rest
  split
  · next h => subst h; exact tokensFrom?_letterEscape (by decide) rfl pieces rest
  split
  · next h => subst h; exact tokensFrom?_letterEscape (by decide) rfl pieces rest
  next h1 h2 h3 h4 h5 h6 h7 =>
  split
  · next h =>
    have hpiece : pieceOf c = .unit c.toNat := by simp [pieceOf, h1, h2, h3, h4, h5, h6, h7, h]
    rw [hpiece]
    exact tokensFrom?_unitEscape h pieces rest
  · next h =>
    have hpiece : pieceOf c = .char c := by simp [pieceOf, h]
    have hstep : Mode.step c (.string pieces) = some ([], .string (.char c :: pieces)) := by
      simp [Mode.step, h1, h2, h]
    rw [hpiece]
    exact tokensFrom?_silent hstep rest

theorem tokensFrom?_escapeChars (text : List Char) (pieces : List Piece) (rest : List Char) :
    tokensFrom? Mode.step (.string pieces) (text.flatMap escapeChar ++ rest) =
      tokensFrom? Mode.step (.string ((text.map pieceOf).reverse ++ pieces)) rest := by
  induction text generalizing pieces with
  | nil => rfl
  | cons c text ih =>
    rw [List.flatMap_cons, List.append_assoc, tokensFrom?_escapeChar, ih]
    simp

/-- A piece stands for a character. -/
def Piece.Spells (piece : Piece) (c : Char) : Prop :=
  piece = .char c ∨ piece = .unit c.toNat ∧ c.toNat < 32

theorem pieceOf_spells (c : Char) : (pieceOf c).Spells c := by
  unfold pieceOf
  split
  · exact .inl rfl
  split
  · next h => exact .inr ⟨rfl, h⟩
  · exact .inl rfl

theorem text?_unit {u : Nat} (h : u < 32) (rest : List Piece) :
    Piece.text? (.unit u :: rest) = (Piece.text? rest).map (Char.ofNat u :: ·) := by
  by_cases hpair : ∃ low more, rest = .unit low :: more
  · obtain ⟨low, more, rfl⟩ := hpair
    rw [Piece.text?, if_neg (by omega), if_neg (by omega)]
    cases Piece.text? (.unit low :: more) <;> rfl
  · have hunfold : Piece.text? (.unit u :: rest) =
        if 0xD800 ≤ u ∧ u < 0xE000 then none
        else do return Char.ofNat u :: (← Piece.text? rest) := by
      rw [Piece.text?]
      intro low more hrest
      exact hpair ⟨low, more, hrest⟩
    rw [hunfold, if_neg (by omega)]
    cases Piece.text? rest <;> rfl

theorem text?_pieces (text : List Char) : Piece.text? (text.map pieceOf) = some text := by
  induction text with
  | nil => rfl
  | cons c text ih =>
    rcases pieceOf_spells c with hc | ⟨hc, hlow⟩
    · rw [List.map_cons, hc, Piece.text?, ih]
      rfl
    · rw [List.map_cons, hc, text?_unit hlow, ih, Option.map_some, Char.ofNat_toNat]

theorem tokensFrom?_string (s : String) (rest : List Char) :
    tokensFrom? Mode.step .between (writeString s ++ rest) =
      (tokensFrom? Mode.step .between rest).map (.string (some s) :: ·) := by
  have hopen : Mode.step '"' .between = some ([], .string []) := rfl
  have hclose (pieces : List Piece) :
      Mode.step '"' (.string pieces) = some ([stringToken pieces], .between) := rfl
  have htoken : stringToken ((s.toList.map pieceOf).reverse ++ []) = .string (some s) := by
    simp [stringToken, text?_pieces]
  simp only [writeString, List.cons_append, List.append_assoc]
  rw [tokensFrom?_silent hopen, tokensFrom?_escapeChars, List.nil_append,
    tokensFrom?_cons (hclose _), htoken]
  rfl

end WebLogin.Json
