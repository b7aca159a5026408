import Mathlib.Data.List.TakeWhile
import WebLogin.Proofs.Json.Reading

/-!
# The grammar of JSON

A JSON text is a row of tokens with blanks between them, and the tokens are those of a value: the
elements of an array between brackets, the members of an object between braces, with commas between
them. The grammar says nothing of meaning, depth or repeated keys. Whatever the reader takes is of
this form.

* `Numeric`, `Spelling`, `Lexeme`: the characters of a number, of a character in a string, of a token.
* `spells_of_tokensFrom?`: a text is cut into tokens that it spells.
* `Tree.tokens`, `tokens_of_build?`: the tokens that build a tree are the tokens of that tree.
* `IsText`, `isText_of_parse?`: a text that has a value is a JSON text.
-/

namespace WebLogin.Json

/-! ## Numbers -/

/-- One digit or more. -/
def IsDigits (text : List Char) : Prop := text ≠ [] ∧ ∀ c ∈ text, c.isDigit = true

/-- The part of a number before the point: no zero in front of other digits. -/
def IsInteger (text : List Char) : Prop := IsDigits text ∧ (text.head? = some '0' → text = ['0'])

/-- The part of a number from the point on, if there is one. -/
def IsFraction (text : List Char) : Prop :=
  text = [] ∨ ∃ digits, IsDigits digits ∧ text = '.' :: digits

/-- The exponent of a number, if there is one. -/
def IsExponent (text : List Char) : Prop :=
  text = [] ∨ ∃ mark ∈ ['e', 'E'], ∃ sign ∈ [[], ['+'], ['-']], ∃ digits,
    IsDigits digits ∧ text = mark :: (sign ++ digits)

/-- The text of a number. -/
def Numeric (text : List Char) : Prop :=
  ∃ sign ∈ [[], ['-']], ∃ integer fraction exponent,
    IsInteger integer ∧ IsFraction fraction ∧ IsExponent exponent ∧
      text = sign ++ (integer ++ (fraction ++ exponent))

theorem isDigits_takeWhile {text : List Char} (hSome : text.takeWhile Char.isDigit ≠ []) :
    IsDigits (text.takeWhile Char.isDigit) :=
  ⟨hSome, fun _ hc => List.mem_takeWhile_imp hc⟩

theorem isDigits_of_not {digits : List Char} (hNot : ¬(digits = [] ∨ (!digits.all Char.isDigit) = true)) :
    IsDigits digits := by
  obtain ⟨hSome, hAll⟩ := not_or.mp hNot
  exact ⟨hSome, by simpa using hAll⟩

theorem isInteger_takeWhile {text : List Char} (hNot : ¬(text.takeWhile Char.isDigit = [] ∨
      (text.takeWhile Char.isDigit).head? = some '0' ∧ (text.takeWhile Char.isDigit).length > 1)) :
    IsInteger (text.takeWhile Char.isDigit) := by
  obtain ⟨hSome, hZero⟩ := not_or.mp hNot
  refine ⟨isDigits_takeWhile hSome, fun hHead => ?_⟩
  cases hDigits : text.takeWhile Char.isDigit with
  | nil => exact absurd hDigits hSome
  | cons c rest =>
    rw [hDigits] at hZero hHead
    cases rest with
    | nil => simpa using hHead
    | cons d rest => exact absurd ⟨hHead, by simp⟩ hZero

/-- What is read after the fraction is an exponent. -/
theorem isExponent_of_eq_some {α : Type} (make : Option (Bool × List Char) → α) {text : List Char}
    {a : α}
    (h : (match text with
      | [] => some (make none)
      | e :: rest =>
        if e ≠ 'e' ∧ e ≠ 'E' then none
        else
          match (match rest with
            | '-' :: digits => (true, digits)
            | '+' :: digits => (false, digits)
            | digits => (false, digits)) with
          | (down, digits) =>
            if digits = [] ∨ !digits.all Char.isDigit then none
            else some (make (some (down, digits)))) = some a) : IsExponent text := by
  split at h
  · exact .inl rfl
  next mark rest =>
  split at h
  · cases h
  next hMark =>
  have hMark : mark ∈ ['e', 'E'] := by
    by_contra hNot
    exact hMark (by simpa using hNot)
  split at h
  next down digits hCut =>
  have hRest : ∃ sign ∈ [[], ['+'], ['-']], rest = sign ++ digits := by
    split at hCut
    · cases hCut
      exact ⟨['-'], by simp, rfl⟩
    · cases hCut
      exact ⟨['+'], by simp, rfl⟩
    · cases hCut
      exact ⟨[], by simp, rfl⟩
  obtain ⟨sign, hSign, rfl⟩ := hRest
  split at h
  · cases h
  next hDigits =>
  exact .inr ⟨mark, hMark, sign, hSign, digits, isDigits_of_not hDigits, rfl⟩

/-- A number text is cut after its sign, after its integer and after its fraction. -/
theorem numeric_of_ofChars? {text : List Char} {numeral : Numeral}
    (hNumeral : Numeral.ofChars? text = some numeral) : Numeric text := by
  revert hNumeral
  fun_cases Numeral.ofChars? text with
  | case1 => intro h; cases h
  | case2 negative unsigned hSign integer rest jp hInteger =>
    intro h
    simp only [jp] at h
    clear jp
    have hText : ∃ sign ∈ [[], ['-']], text = sign ++ unsigned := by
      split at hSign
      · cases hSign
        exact ⟨['-'], by simp, rfl⟩
      · cases hSign
        exact ⟨[], by simp, rfl⟩
    have hRest : unsigned = integer ++ rest := List.takeWhile_append_dropWhile.symm
    have hInteger : IsInteger integer := isInteger_takeWhile hInteger
    clear_value rest integer
    obtain ⟨sign, hMinus, rfl⟩ := hText
    suffices ∃ fraction exponent, IsFraction fraction ∧ IsExponent exponent ∧
        rest = fraction ++ exponent by
      obtain ⟨fraction, exponent, hFraction, hExponent, rfl⟩ := this
      exact ⟨sign, hMinus, integer, fraction, exponent, hInteger, hFraction, hExponent, by rw [hRest]⟩
    clear hSign hRest
    split at h
    · next digits =>
      split at h
      · cases h
      next hDigits =>
      have hFraction : IsFraction ('.' :: digits.takeWhile Char.isDigit) :=
        .inr ⟨_, isDigits_takeWhile (by simpa using hDigits), rfl⟩
      refine ⟨_, digits.dropWhile Char.isDigit, hFraction, ?_, by simp⟩
      exact isExponent_of_eq_some
        (fun exponent => Numeral.mk negative integer (some (digits.takeWhile Char.isDigit)) exponent) h
    · split at h
      · cases h
      refine ⟨[], rest, .inl rfl, ?_, rfl⟩
      exact isExponent_of_eq_some (fun exponent => Numeral.mk negative integer none exponent) h

/-! ## Strings -/

/-- A character of a string as it may be written. -/
inductive Spelling : List Char → Prop where
  | plain {c : Char} (hQuote : c ≠ '"') (hBackslash : c ≠ '\\') (hControl : ¬c < ' ') : Spelling [c]
  | letter {c : Char} (hc : c ∈ ['"', '\\', '/', 'b', 'f', 'n', 'r', 't']) : Spelling ['\\', c]
  | unit {digits : List Char} (hFour : digits.length = 4)
      (hHex : ∀ c ∈ digits, (Hex.value? c).isSome) : Spelling ('\\' :: 'u' :: digits)

/-- What may stand between quotes. -/
def Quotable (text : List Char) : Prop :=
  ∃ spellings : List (List Char), (∀ s ∈ spellings, Spelling s) ∧ text = spellings.flatten

theorem quotable_nil : Quotable [] := ⟨[], by simp, rfl⟩

theorem Quotable.append {text spelling : List Char} (hText : Quotable text)
    (hSpelling : Spelling spelling) : Quotable (text ++ spelling) := by
  obtain ⟨spellings, hAll, rfl⟩ := hText
  refine ⟨spellings ++ [spelling], ?_, by simp⟩
  intro s hs
  rcases List.mem_append.mp hs with hBefore | hLast
  · exact hAll s hBefore
  · rwa [List.mem_singleton.mp hLast]

theorem spelling_of_escaped? {c e : Char} (h : escaped? c = some e) : Spelling ['\\', c] := by
  unfold escaped? at h
  split at h
  all_goals first
    | exact .letter (by decide)
    | cases h

/-! ## Tokens -/

/-- The characters of a token. -/
inductive Lexeme : Token → List Char → Prop where
  | openObject : Lexeme .openObject ['\x7b']
  | closeObject : Lexeme .closeObject ['\x7d']
  | openArray : Lexeme .openArray ['[']
  | closeArray : Lexeme .closeArray [']']
  | colon : Lexeme .colon [':']
  | comma : Lexeme .comma [',']
  | null : Lexeme .null ['n', 'u', 'l', 'l']
  | trueWord : Lexeme (.bool true) ['t', 'r', 'u', 'e']
  | falseWord : Lexeme (.bool false) ['f', 'a', 'l', 's', 'e']
  | number {n : Option Number} {text : List Char} (h : Numeric text) : Lexeme (.number n) text
  | string {s : Option String} {text : List Char} (h : Quotable text) :
      Lexeme (.string s) ('"' :: (text ++ ['"']))

def IsBlanks (text : List Char) : Prop := ∀ c ∈ text, isBlank c = true

/-- A row of tokens with blanks around them. -/
inductive Spells : List Token → List Char → Prop where
  | nil {blanks : List Char} (hBlanks : IsBlanks blanks) : Spells [] blanks
  | cons {blanks lexeme rest : List Char} {token : Token} {tokens : List Token}
      (hBlanks : IsBlanks blanks) (hToken : Lexeme token lexeme) (hRest : Spells tokens rest) :
      Spells (token :: tokens) (blanks ++ (lexeme ++ rest))

theorem lexeme_of_wordToken? {chars : List Char} {token : Token}
    (hWord : wordToken? chars = some token) : Lexeme token chars.reverse := by
  unfold wordToken? at hWord
  dsimp only at hWord
  split at hWord
  · next hNull =>
    cases hWord
    exact hNull ▸ .null
  · split at hWord
    · next hTrue =>
      cases hWord
      exact hTrue ▸ .trueWord
    · split at hWord
      · next hFalse =>
        cases hWord
        exact hFalse ▸ .falseWord
      · obtain ⟨numeral, hNumeral, rfl⟩ := Option.map_eq_some_iff.mp hWord
        exact .number (numeric_of_ofChars? hNumeral)

/-! ## Cutting a text -/

/-- What has been read of the token that is open. -/
inductive Mode.Holds : Mode → List Char → Prop where
  | between : Holds .between []
  | word (chars : List Char) : Holds (.word chars) chars.reverse
  | string {pieces : List Piece} {text : List Char} (h : Quotable text) :
      Holds (.string pieces) ('"' :: text)
  | escape {pieces : List Piece} {text : List Char} (h : Quotable text) :
      Holds (.escape pieces) ('"' :: (text ++ ['\\']))
  | unit {pieces : List Piece} {value : Nat} {text digits : List Char} (h : Quotable text)
      (hFew : digits.length < 4) (hHex : ∀ c ∈ digits, (Hex.value? c).isSome) :
      Holds (.unit pieces digits.length value) ('"' :: (text ++ '\\' :: 'u' :: digits))

/-- The rest of a text continues what is open, after any blanks. -/
def Mode.Continues (mode : Mode) (tokens : List Token) (rest : List Char) : Prop :=
  ∀ blanks opened, IsBlanks blanks → mode.Holds opened → Spells tokens (blanks ++ (opened ++ rest))

theorem isBlanks_nil : IsBlanks [] := by simp [IsBlanks]

/-- One lexeme before what continues after it. -/
theorem Mode.Continues.cons {tokens : List Token} {rest blanks lexeme : List Char} {token : Token}
    (h : Mode.between.Continues tokens rest) (hBlanks : IsBlanks blanks)
    (hToken : Lexeme token lexeme) : Spells (token :: tokens) (blanks ++ (lexeme ++ rest)) :=
  .cons hBlanks hToken (h [] [] isBlanks_nil .between)

/-- A character between tokens is a token, or begins one, or is blank. -/
theorem spells_start {c : Char} {tokens : List Token} {rest : List Char}
    (h : (start c).2.Continues tokens rest) {blanks : List Char} (hBlanks : IsBlanks blanks) :
    Spells ((start c).1.toList ++ tokens) (blanks ++ c :: rest) := by
  revert h
  fun_cases start c with
  | case1 hc => exact fun h => hc ▸ h.cons hBlanks .openObject
  | case2 _ hc => exact fun h => hc ▸ h.cons hBlanks .closeObject
  | case3 _ _ hc => exact fun h => hc ▸ h.cons hBlanks .openArray
  | case4 _ _ _ hc => exact fun h => hc ▸ h.cons hBlanks .closeArray
  | case5 _ _ _ _ hc => exact fun h => hc ▸ h.cons hBlanks .colon
  | case6 _ _ _ _ _ hc => exact fun h => hc ▸ h.cons hBlanks .comma
  | case7 _ _ _ _ _ _ hc => exact fun h => hc ▸ h blanks ['"'] hBlanks (.string quotable_nil)
  | case8 _ _ _ _ _ _ _ hBlank =>
    intro h
    have hMore : IsBlanks (blanks ++ [c]) := by
      intro d hd
      rcases List.mem_append.mp hd with hBefore | hLast
      · exact hBlanks d hBefore
      · rwa [List.mem_singleton.mp hLast]
    simpa using h (blanks ++ [c]) [] hMore .between
  | case9 => exact fun h => h blanks [c] hBlanks (.word [c])

theorem Mode.Continues.step {c : Char} {mode next : Mode} {now later : List Token}
    {rest : List Char} (hStep : mode.step c = some (now, next)) (h : next.Continues later rest) :
    mode.Continues (now ++ later) (c :: rest) := by
  intro blanks opened hBlanks hOpened
  cases hOpened with
  | between =>
    cases hStep
    exact spells_start h hBlanks
  | word chars =>
    simp only [Mode.step] at hStep
    split at hStep
    · obtain ⟨token, hWord, hNext⟩ := Option.bind_eq_some_iff.mp hStep
      cases hNext
      exact .cons hBlanks (lexeme_of_wordToken? hWord) (spells_start h isBlanks_nil)
    · cases hStep
      simpa using h blanks _ hBlanks (.word (c :: chars))
  | @string pieces text hText =>
    simp only [Mode.step] at hStep
    split at hStep
    · next hQuote =>
      cases hStep
      have hToken : Lexeme (stringToken pieces) ('"' :: (text ++ ['"'])) := .string hText
      simpa [hQuote] using h.cons hBlanks hToken
    · next hQuote =>
      split at hStep
      · next hBackslash =>
        cases hStep
        simpa [hBackslash] using h blanks _ hBlanks (.escape hText)
      · next hBackslash =>
        split at hStep
        · cases hStep
        · next hControl =>
          cases hStep
          simpa using h blanks _ hBlanks (.string (hText.append (.plain hQuote hBackslash hControl)))
  | @escape pieces text hText =>
    simp only [Mode.step] at hStep
    split at hStep
    · next hUnit =>
      cases hStep
      have hNone := @Mode.Holds.unit pieces 0 text [] hText (by simp) (by simp)
      simpa [hUnit] using h blanks _ hBlanks hNone
    · obtain ⟨e, hLetter, hNext⟩ := Option.map_eq_some_iff.mp hStep
      cases hNext
      simpa using h blanks _ hBlanks (.string (hText.append (spelling_of_escaped? hLetter)))
  | @unit pieces value text digits hText hFew hHex =>
    obtain ⟨digit, hDigit, hNext⟩ := Option.bind_eq_some_iff.mp hStep
    have hAll : ∀ d ∈ digits ++ [c], (Hex.value? d).isSome := by
      intro d hd
      rcases List.mem_append.mp hd with hBefore | hLast
      · exact hHex d hBefore
      · rw [List.mem_singleton.mp hLast, hDigit]
        rfl
    dsimp only at hNext
    split at hNext
    · next hThree =>
      cases hNext
      have hUnit : Spelling ('\\' :: 'u' :: (digits ++ [c])) := .unit (by simp [hThree]) hAll
      simpa using h blanks _ hBlanks (.string (hText.append hUnit))
    · next hThree =>
      cases hNext
      have hMore := @Mode.Holds.unit pieces (16 * value + digit) text (digits ++ [c]) hText
        (by simp; omega) hAll
      rw [List.length_append] at hMore
      simpa using h blanks _ hBlanks hMore

/-- A text is cut into tokens that it spells. -/
theorem spells_of_tokensFrom? {text : List Char} {mode : Mode} {tokens : List Token}
    (hTokens : tokensFrom? Mode.step mode text = some tokens) : mode.Continues tokens text := by
  induction text generalizing mode tokens with
  | nil =>
    intro blanks opened hBlanks hOpened
    cases hOpened with
    | between =>
      cases hTokens
      simpa using Spells.nil hBlanks
    | word chars =>
      obtain ⟨token, hWord, rfl⟩ := Option.map_eq_some_iff.mp hTokens
      exact .cons hBlanks (lexeme_of_wordToken? hWord) (.nil isBlanks_nil)
    | string => cases hTokens
    | escape => cases hTokens
    | unit => cases hTokens
  | cons c text ih =>
    simp only [tokensFrom?, Option.bind_eq_bind, Option.bind_eq_some_iff] at hTokens
    obtain ⟨⟨now, next⟩, hStep, later, hLater, hAll⟩ := hTokens
    cases hAll
    exact (ih hLater).step hStep


/-! ## The tokens of a tree -/

mutual

/-- The tokens of a tree. -/
def Tree.tokens : Tree → List Token
  | .null => [.null]
  | .bool b => [.bool b]
  | .number n => [.number n]
  | .string s => [.string s]
  | .array elements =>
    .openArray :: (List.intercalate [.comma] (Tree.elementTokens elements) ++ [.closeArray])
  | .object members =>
    .openObject :: (List.intercalate [.comma] (Tree.memberTokens members) ++ [.closeObject])

/-- The tokens of each element. -/
def Tree.elementTokens : List Tree → List (List Token)
  | [] => []
  | t :: ts => t.tokens :: Tree.elementTokens ts

/-- The tokens of each member. -/
def Tree.memberTokens : List (Option String × Tree) → List (List Token)
  | [] => []
  | (key, t) :: ms => (.string key :: .colon :: t.tokens) :: Tree.memberTokens ms

end

theorem Tree.elementTokens_eq (ts : List Tree) : Tree.elementTokens ts = ts.map Tree.tokens := by
  induction ts with
  | nil => rfl
  | cons t ts ih => rw [Tree.elementTokens, ih, List.map_cons]

theorem Tree.memberTokens_eq (ms : List (Option String × Tree)) :
    Tree.memberTokens ms = ms.map fun m => .string m.1 :: .colon :: m.2.tokens := by
  induction ms with
  | nil => rfl
  | cons m ms ih => rw [Tree.memberTokens, ih, List.map_cons]

/-- Rows of tokens with a comma after each. -/
def withCommas (rows : List (List Token)) : List Token := rows.flatMap (· ++ [.comma])

theorem withCommas_eq {rows : List (List Token)} (hSome : rows ≠ []) :
    withCommas rows = List.intercalate [.comma] rows ++ [.comma] := by
  induction rows with
  | nil => exact absurd rfl hSome
  | cons row rows ih =>
    cases rows with
    | nil => simp [withCommas, List.intercalate]
    | cons next rows =>
      have hRest := ih (List.cons_ne_nil next rows)
      have hFirst : withCommas (row :: next :: rows) = row ++ .comma :: withCommas (next :: rows) := by
        simp [withCommas]
      rw [hFirst, hRest]
      simp [List.intercalate, List.intersperse]

/-- The tokens inside brackets that end where a comma is expected next, where `before` is what was
read before the brackets and `rows` are the tokens of what is complete between them. -/
theorem eq_of_comma {tokens before : List Token} {bracket : Token} {rows : List (List Token)}
    (hBracket : bracket ≠ .comma)
    (hTokens : tokens ++ [.comma] = before ++ bracket :: withCommas rows) :
    tokens = before ++ bracket :: List.intercalate [.comma] rows := by
  cases rows with
  | nil =>
    have hLast : Token.comma = bracket := by
      simpa [withCommas] using congrArg List.getLast? hTokens
    exact absurd hLast.symm hBracket
  | cons row rows =>
    rw [withCommas_eq (List.cons_ne_nil row rows), ← List.cons_append, ← List.append_assoc] at hTokens
    exact List.append_cancel_right hTokens

/-! ## Building a tree -/

/-- The tokens of what is open, up to the place where the next part of it begins. -/
def Frame.tokens : Frame → List Token
  | .array done => .openArray :: withCommas (Tree.elementTokens done.reverse)
  | .object done => .openObject :: withCommas (Tree.memberTokens done.reverse)
  | .member done key =>
    .openObject :: (withCommas (Tree.memberTokens done.reverse) ++ [.string key, .colon])

/-- The tokens of all that is open. -/
def stackTokens : List Frame → List Token
  | [] => []
  | frame :: stack => stackTokens stack ++ frame.tokens

namespace Builder

/-- The tokens that lead to a tree in the making. -/
inductive Built : Builder → List Token → Prop where
  | value {stack : List Frame} : Built ⟨stack, .value⟩ (stackTokens stack)
  | element {stack : List Frame} :
      Built ⟨.array [] :: stack, .element⟩ (stackTokens (.array [] :: stack))
  | key {stack : List Frame} : Built ⟨stack, .key⟩ (stackTokens stack)
  | member {stack : List Frame} :
      Built ⟨.object [] :: stack, .member⟩ (stackTokens (.object [] :: stack))
  | colon {stack : List Frame} {tokens : List Token}
      (h : tokens ++ [.colon] = stackTokens stack) : Built ⟨stack, .colon⟩ tokens
  | more {stack : List Frame} {tokens : List Token}
      (h : tokens ++ [.comma] = stackTokens stack) : Built ⟨stack, .more⟩ tokens
  | finished (tree : Tree) : Built ⟨[], .finished tree⟩ tree.tokens

theorem built_deliver {tree : Tree} {stack : List Frame} {next : Builder}
    (h : deliver tree stack = some next) : next.Built (stackTokens stack ++ tree.tokens) := by
  cases stack with
  | nil =>
    cases h
    exact .finished tree
  | cons frame stack =>
    cases frame with
    | array done =>
      cases h
      refine .more ?_
      simp [stackTokens, Frame.tokens, withCommas, Tree.elementTokens_eq]
    | member done key =>
      cases h
      refine .more ?_
      simp [stackTokens, Frame.tokens, withCommas, Tree.memberTokens_eq]
    | object done => cases h

theorem built_closeArray {stack : List Frame} {next : Builder} {tokens : List Token}
    (hTokens : tokens ++ [.comma] = stackTokens stack) (h : closeArray stack = some next) :
    next.Built (tokens ++ [.closeArray]) := by
  unfold closeArray at h
  split at h
  · next done stack =>
    have hInside := eq_of_comma (by simp) hTokens
    have hClosed := built_deliver h
    rw [hInside]
    simpa [Tree.tokens] using hClosed
  · cases h

theorem built_closeObject {stack : List Frame} {next : Builder} {tokens : List Token}
    (hTokens : tokens ++ [.comma] = stackTokens stack) (h : closeObject stack = some next) :
    next.Built (tokens ++ [.closeObject]) := by
  unfold closeObject at h
  split at h
  · next done stack =>
    have hInside := eq_of_comma (by simp) hTokens
    have hClosed := built_deliver h
    rw [hInside]
    simpa [Tree.tokens] using hClosed
  · cases h

theorem built_startValue {stack : List Frame} {token : Token} {next : Builder}
    (h : startValue stack token = some next) : next.Built (stackTokens stack ++ [token]) := by
  cases token with
  | null => exact built_deliver h
  | bool b => exact built_deliver h
  | number n => exact built_deliver h
  | string s => exact built_deliver h
  | openArray => cases h; exact .element
  | openObject => cases h; exact .member
  | closeArray => cases h
  | closeObject => cases h
  | colon => cases h
  | comma => cases h

theorem built_startMember {stack : List Frame} {token : Token} {next : Builder}
    (h : startMember stack token = some next) : next.Built (stackTokens stack ++ [token]) := by
  unfold startMember at h
  split at h
  · split at h
    · cases h
      refine .colon ?_
      simp [stackTokens, Frame.tokens]
    · cases h
  · cases h

/-- A token that is taken is the next one of the tree in the making. -/
theorem Built.step {b next : Builder} {tokens : List Token} {token : Token} (hBuilt : b.Built tokens)
    (hStep : b.step token = some next) : next.Built (tokens ++ [token]) := by
  cases hBuilt with
  | value => exact built_startValue hStep
  | @element stack =>
    simp only [Builder.step] at hStep
    split at hStep
    · next hClose =>
      have hClosed : next.Built (stackTokens stack ++ (Tree.array []).tokens) := built_deliver hStep
      simpa [hClose, stackTokens, Frame.tokens, Tree.tokens, Tree.elementTokens, withCommas] using hClosed
    · exact built_startValue hStep
  | key => exact built_startMember hStep
  | @member stack =>
    simp only [Builder.step] at hStep
    split at hStep
    · next hClose =>
      have hClosed : next.Built (stackTokens stack ++ (Tree.object []).tokens) := built_deliver hStep
      simpa [hClose, stackTokens, Frame.tokens, Tree.tokens, Tree.memberTokens, withCommas] using hClosed
    · exact built_startMember hStep
  | colon h =>
    simp only [Builder.step] at hStep
    split at hStep
    · next hColon =>
      cases hStep
      rw [hColon, h]
      exact .value
    · cases hStep
  | more h =>
    simp only [Builder.step] at hStep
    split at hStep
    · cases hStep
      rw [h]
      exact .value
    · cases hStep
      rw [h]
      exact .key
    · exact built_closeArray h hStep
    · exact built_closeObject h hStep
    · cases hStep
  | finished tree => cases hStep

theorem Built.run {b last : Builder} {before tokens : List Token} (hBuilt : b.Built before)
    (hRun : b.run tokens = some last) : last.Built (before ++ tokens) := by
  induction tokens generalizing b before with
  | nil =>
    cases hRun
    simpa using hBuilt
  | cons token tokens ih =>
    rw [run_cons] at hRun
    obtain ⟨next, hStep, hRest⟩ := Option.bind_eq_some_iff.mp hRun
    simpa using ih (hBuilt.step hStep) hRest

end Builder

/-- Only the tokens of a tree build it. -/
theorem tokens_of_build? {tokens : List Token} {tree : Tree} (h : build? tokens = some tree) :
    tokens = tree.tokens := by
  obtain ⟨last, hRun, hTree⟩ := Option.bind_eq_some_iff.mp h
  have hStart : (Builder.mk [] .value).Built [] := .value
  have hBuilt : last.Built tokens := hStart.run hRun
  cases hBuilt with
  | finished found =>
    cases hTree
    rfl
  | value => cases hTree
  | element => cases hTree
  | key => cases hTree
  | member => cases hTree
  | colon => cases hTree
  | more => cases hTree

/-! ## Texts -/

/-- The grammar of a JSON text. -/
def IsText (text : List Char) : Prop := ∃ tree : Tree, Spells tree.tokens text

theorem isText_of_ofChars? {text : List Char} {tree : Tree} (h : Tree.ofChars? text = some tree) :
    IsText text := by
  obtain ⟨tokens, hTokens, hBuild⟩ := Option.bind_eq_some_iff.mp h
  have hSpells := spells_of_tokensFrom? hTokens [] [] isBlanks_nil .between
  rw [tokens_of_build? hBuild] at hSpells
  exact ⟨tree, hSpells⟩

theorem isText_of_parse? {s : String} {v : Json} (h : parse? s = some v) : IsText s.toList := by
  obtain ⟨tree, hTree, -⟩ := Option.bind_eq_some_iff.mp h
  exact isText_of_ofChars? hTree

theorem Tree.exists_tokens (tree : Tree) : ∃ first rest, tree.tokens = first :: rest := by
  cases tree with
  | array elements => exact ⟨.openArray, _, rfl⟩
  | object members => exact ⟨.openObject, _, rfl⟩
  | null => exact ⟨.null, [], rfl⟩
  | bool b => exact ⟨.bool b, [], rfl⟩
  | number n => exact ⟨.number n, [], rfl⟩
  | string s => exact ⟨.string s, [], rfl⟩

theorem isBlank_of_isDigit {c : Char} (hDigit : c.isDigit = true) : isBlank c = false := by
  have hNot (d : Char) (hd : d ∈ [' ', '\n', '\t', '\r']) : c ≠ d := by
    rintro rfl
    simp at hd
    rcases hd with rfl | rfl | rfl | rfl <;> cases hDigit
  simp [isBlank, hNot]

theorem Lexeme.exists_not_blank {token : Token} {text : List Char} (h : Lexeme token text) :
    ∃ c ∈ text, isBlank c = false := by
  cases h with
  | number hNumber =>
    obtain ⟨sign, -, integer, fraction, exponent, hInteger, -, -, rfl⟩ := hNumber
    obtain ⟨c, hc⟩ := List.exists_mem_of_ne_nil integer hInteger.1.1
    exact ⟨c, by simp [hc], isBlank_of_isDigit (hInteger.1.2 c hc)⟩
  | string hText => exact ⟨'"', List.mem_cons_self, rfl⟩
  | _ => exact ⟨_, List.mem_cons_self, rfl⟩

/-- A blank text is no JSON text. -/
theorem not_isText_of_isBlanks {text : List Char} (hBlanks : IsBlanks text) : ¬IsText text := by
  rintro ⟨tree, hSpells⟩
  obtain ⟨first, rest, hTokens⟩ := tree.exists_tokens
  rw [hTokens] at hSpells
  cases hSpells with
  | cons _ hFirst _ =>
    obtain ⟨c, hc, hNot⟩ := hFirst.exists_not_blank
    have hBlank := hBlanks c (by simp [hc])
    rw [hNot] at hBlank
    cases hBlank

end WebLogin.Json
