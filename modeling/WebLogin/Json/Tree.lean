import WebLogin.Bytes.Hex
import WebLogin.Bytes.Utf8
import WebLogin.Json.Value

/-!
# The form of a JSON text

A tree keeps what is written: members in order, repeated keys included, and a mark where a scalar
is well formed but has no meaning, such as half of a surrogate pair or a number out of range. A
reader that skips a member never looks at such a mark, and `Tree.value?` refuses it.

`tokens?` cuts a text into tokens, one character at a time, and `tokensOfBytes?` does so with bytes
that need be text only outside strings; `build?` builds the tree with a stack of the arrays and
objects that are still open.
-/

namespace WebLogin.Json

/-! ## Trees -/

/-- What a text says, as it says it. -/
inductive Tree where
  | null
  | bool (b : Bool)
  /-- A number; none if it is out of range. -/
  | number (n : Option Number)
  /-- A string; none if an escape in it is half of a surrogate pair or if its bytes are no text. -/
  | string (s : Option String)
  | array (elements : List Tree)
  | object (members : List (Option String × Tree))
  deriving Repr

namespace Tree

mutual

/-- How many arrays and objects lie in one another, at most. -/
def depth : Tree → Nat
  | .array elements => elementsDepth elements + 1
  | .object members => membersDepth members + 1
  | _ => 0

def elementsDepth : List Tree → Nat
  | [] => 0
  | t :: ts => max t.depth (elementsDepth ts)

def membersDepth : List (Option String × Tree) → Nat
  | [] => 0
  | (_, t) :: ts => max t.depth (membersDepth ts)

end

mutual

/-- The value of a tree, if every scalar in it has a meaning. -/
def value? : Tree → Option Json
  | .null => some .null
  | .bool b => some (.bool b)
  | .number n => n.map .number
  | .string s => s.map .string
  | .array elements => (elementValues? elements).map .array
  | .object members => (memberValues? members).map Json.ofMembers

def elementValues? : List Tree → Option (List Json)
  | [] => some []
  | t :: ts => do return (← t.value?) :: (← elementValues? ts)

def memberValues? : List (Option String × Tree) → Option (List (String × Json))
  | [] => some []
  | (k, t) :: ts => do return ((← k), (← t.value?)) :: (← memberValues? ts)

end

mutual

def ofValue : Json → Tree
  | .null => .null
  | .bool b => .bool b
  | .number n => .number (some n)
  | .string s => .string (some s)
  | .array elements => .array (ofElements elements)
  | .object members => .object (ofMemberValues members)

def ofElements : List Json → List Tree
  | [] => []
  | v :: vs => ofValue v :: ofElements vs

def ofMemberValues : List (String × Json) → List (Option String × Tree)
  | [] => []
  | (k, v) :: vs => (some k, ofValue v) :: ofMemberValues vs

end

end Tree

/-! ## Tokens -/

/-- A token of a text. -/
inductive Token where
  | openObject
  | closeObject
  | openArray
  | closeArray
  | colon
  | comma
  | null
  | bool (b : Bool)
  | number (n : Option Number)
  | string (s : Option String)
  deriving DecidableEq, Repr

/-- A piece of a string. -/
inductive Piece where
  | char (c : Char)
  /-- A UTF-16 code unit that an escape names by its number. -/
  | unit (u : Nat)
  /-- Bytes that are no text. -/
  | blot
  deriving DecidableEq, Repr

/-- The text of the pieces. Two code units of a surrogate pair must follow one another. -/
def Piece.text? : List Piece → Option (List Char)
  | [] => some []
  | .blot :: _ => none
  | .char c :: rest => do return c :: (← text? rest)
  | .unit high :: .unit low :: rest =>
    if 0xD800 ≤ high ∧ high < 0xDC00 then
      if 0xDC00 ≤ low ∧ low < 0xE000 then do
        let c := Char.ofNat (0x10000 + (high - 0xD800) * 0x400 + (low - 0xDC00))
        return c :: (← text? rest)
      else none
    else if 0xDC00 ≤ high ∧ high < 0xE000 then none
    else do return Char.ofNat high :: (← text? (.unit low :: rest))
  | .unit u :: rest =>
    if 0xD800 ≤ u ∧ u < 0xE000 then none
    else do return Char.ofNat u :: (← text? rest)

/-- The token of a string of pieces, given from the last one on. -/
def stringToken (pieces : List Piece) : Token :=
  .string ((Piece.text? pieces.reverse).map String.ofList)

/-! ### Numbers -/

/-- The value of a run of digits. -/
def digitsValue (digits : List Char) : Nat :=
  digits.foldl (fun n c => 10 * n + (c.toNat - '0'.toNat)) 0

/-- The digits of a significand that fit into 64 bits: as many of the leading ones as do. -/
def leadingSignificand : (n : Nat) → List Char → Nat × List Char
  | n, [] => (n, [])
  | n, c :: rest =>
    let m := 10 * n + (c.toNat - '0'.toNat)
    if m < 0x10000000000000000 then leadingSignificand m rest else (n, c :: rest)

/-- A number text cut at its point and its exponent mark. -/
structure Numeral where
  negative : Bool
  integer : List Char
  fraction : Option (List Char)
  exponent : Option (Bool × List Char)
  deriving Repr

/-- Cuts a number text. None if it is not of the form of a number. -/
def Numeral.ofChars? (text : List Char) : Option Numeral := do
  let (negative, text) := match text with
    | '-' :: rest => (true, rest)
    | _ => (false, text)
  let integer := text.takeWhile Char.isDigit
  let text := text.dropWhile Char.isDigit
  if integer = [] ∨ (integer.head? = some '0' ∧ integer.length > 1) then none
  let (fraction, text) := match text with
    | '.' :: rest => (some (rest.takeWhile Char.isDigit), rest.dropWhile Char.isDigit)
    | _ => (none, text)
  if fraction = some [] then none
  match text with
  | [] => return ⟨negative, integer, fraction, none⟩
  | e :: rest =>
    if e ≠ 'e' ∧ e ≠ 'E' then none
    let (down, digits) := match rest with
      | '-' :: digits => (true, digits)
      | '+' :: digits => (false, digits)
      | digits => (false, digits)
    if digits = [] ∨ !digits.all Char.isDigit then none
    return ⟨negative, integer, fraction, some (down, digits)⟩

def signedDouble (negative : Bool) (x : Float) : Number :=
  .double (if negative then (-x).toBits else x.toBits)

/-- The greatest exponent that is added up; past it a number is zero or out of range. -/
def greatestExponent : Nat := 0x7fffffff

/-- The meaning of a number text; none if it is out of range. Without point and exponent it is an
integer, if it is in the range of integers; minus zero is a double. Else the leading digits that fit
into 64 bits make the significand, and the other digits before the point count as zeros. -/
def Numeral.number? (numeral : Numeral) : Option Number :=
  let n := digitsValue numeral.integer
  let plain := numeral.fraction.isNone ∧ numeral.exponent.isNone
  if plain ∧ !numeral.negative ∧ n < 0x10000000000000000 then some (.integer n)
  else if plain ∧ numeral.negative ∧ 0 < n ∧ n ≤ 0x8000000000000000 then some (.integer (-n))
  else
    let (significand, dropped) := leadingSignificand 0 numeral.integer
    let (significand, scale) : Nat × Int :=
      match numeral.fraction with
      | none => (significand, dropped.length)
      | some digits =>
        let (all, left) := leadingSignificand significand digits
        (all, dropped.length - (digits.length - left.length : Nat))
    let double? (exponent : Int) : Option Number :=
      (Double.ofDecimal? (UInt64.ofNat significand) exponent).map (signedDouble numeral.negative)
    match numeral.exponent with
    | none => double? scale
    | some (down, digits) =>
      let e := digitsValue digits
      if e ≤ greatestExponent then double? (if down then scale - e else scale + e)
      else if significand = 0 ∨ down then some (signedDouble numeral.negative 0)
      else none

/-! ### Cutting a text -/

/-- The token of a word, given from its last character on. It is a literal or a number. -/
def wordToken? (chars : List Char) : Option Token :=
  let word := chars.reverse
  if word = ['n', 'u', 'l', 'l'] then some .null
  else if word = ['t', 'r', 'u', 'e'] then some (.bool true)
  else if word = ['f', 'a', 'l', 's', 'e'] then some (.bool false)
  else (Numeral.ofChars? word).map fun numeral => .number numeral.number?

/-- What the next character continues. What is there of it is given from its end on. -/
inductive Mode where
  /-- Nothing: a token may start. -/
  | between
  /-- A literal or a number. -/
  | word (chars : List Char)
  /-- A string. -/
  | string (pieces : List Piece)
  /-- A string, after a backslash. -/
  | escape (pieces : List Piece)
  /-- A string, after `\u` and some digits of the given value. -/
  | unit (pieces : List Piece) (count value : Nat)

/-- Whether a character stands between tokens. -/
def isBlank (c : Char) : Bool := c == ' ' || c == '\n' || c == '\t' || c == '\r'

/-- What a character starts when no token is open: a token of its own, or a mode. -/
def start (c : Char) : Option Token × Mode :=
  if c = '\x7b' then (some .openObject, .between)
  else if c = '\x7d' then (some .closeObject, .between)
  else if c = '[' then (some .openArray, .between)
  else if c = ']' then (some .closeArray, .between)
  else if c = ':' then (some .colon, .between)
  else if c = ',' then (some .comma, .between)
  else if c = '"' then (none, .string [])
  else if isBlank c then (none, .between)
  else (none, .word [c])

/-- Whether a character ends a word before it. -/
def endsWord (c : Char) : Bool :=
  match start c with
  | (none, .word _) => false
  | _ => true

/-- The character that an escape of one letter stands for. -/
def escaped? : Char → Option Char
  | '"' => some '"'
  | '\\' => some '\\'
  | '/' => some '/'
  | 'b' => some '\x08'
  | 'f' => some '\x0c'
  | 'n' => some '\n'
  | 'r' => some '\r'
  | 't' => some '\t'
  | _ => none

/-- What the next character completes, and what it leaves open. -/
def Mode.step (c : Char) : Mode → Option (List Token × Mode)
  | .between =>
    let (token, mode) := start c
    some (token.toList, mode)
  | .word chars =>
    if endsWord c then do
      let word ← wordToken? chars
      let (token, mode) := start c
      return (word :: token.toList, mode)
    else some ([], .word (c :: chars))
  | .string pieces =>
    if c = '"' then some ([stringToken pieces], .between)
    else if c = '\\' then some ([], .escape pieces)
    else if c < ' ' then none
    else some ([], .string (.char c :: pieces))
  | .escape pieces =>
    if c = 'u' then some ([], .unit pieces 0 0)
    else (escaped? c).map fun e => ([], .string (.char e :: pieces))
  | .unit pieces count value => do
    let value := 16 * value + (← Hex.value? c)
    if count = 3 then some ([], .string (.unit value :: pieces))
    else some ([], .unit pieces (count + 1) value)

/-- What the next character completes and leaves open, where bytes that are no text stand for none.
Such bytes may stand in a string. -/
def Mode.stepBytes : Option Char → Mode → Option (List Token × Mode)
  | some c, mode => mode.step c
  | none, .string pieces => some ([], .string (.blot :: pieces))
  | none, _ => none

/-- What the end of a text completes. -/
def Mode.finish : Mode → Option (List Token)
  | .between => some []
  | .word chars => (wordToken? chars).map ([·])
  | _ => none

/-- The tokens of an input that continues in the given mode. -/
def tokensFrom? {α : Type} (step : α → Mode → Option (List Token × Mode)) :
    Mode → List α → Option (List Token)
  | mode, [] => mode.finish
  | mode, c :: rest => do
    let (tokens, mode) ← step c mode
    return tokens ++ (← tokensFrom? step mode rest)

def tokens? (text : List Char) : Option (List Token) := tokensFrom? Mode.step .between text

def tokensOfBytes? (bytes : List UInt8) : Option (List Token) :=
  tokensFrom? Mode.stepBytes .between (Utf8.decodeEach bytes)

/-! ## Building a tree -/

/-- An array or an object that is still open, with what is done of it from the end on. -/
inductive Frame where
  | array (done : List Tree)
  | object (done : List (Option String × Tree))
  /-- An object whose last key waits for its value. -/
  | member (done : List (Option String × Tree)) (key : Option String)

/-- What may come next. -/
inductive Expect where
  | value
  /-- A value, or the end of the array that was just opened. -/
  | element
  | key
  /-- A key, or the end of the object that was just opened. -/
  | member
  | colon
  /-- A comma, or the end of the innermost open array or object. -/
  | more
  /-- Nothing: the tree is complete. -/
  | finished (tree : Tree)

/-- A tree in the making, the innermost open part first. -/
structure Builder where
  stack : List Frame
  expect : Expect

namespace Builder

/-- Puts a complete tree where it belongs. -/
def deliver (tree : Tree) : List Frame → Option Builder
  | [] => some ⟨[], .finished tree⟩
  | .array done :: stack => some ⟨.array (tree :: done) :: stack, .more⟩
  | .member done key :: stack => some ⟨.object ((key, tree) :: done) :: stack, .more⟩
  | .object _ :: _ => none

def closeArray : List Frame → Option Builder
  | .array done :: stack => deliver (.array done.reverse) stack
  | _ => none

def closeObject : List Frame → Option Builder
  | .object done :: stack => deliver (.object done.reverse) stack
  | _ => none

def startValue (stack : List Frame) : Token → Option Builder
  | .null => deliver .null stack
  | .bool b => deliver (.bool b) stack
  | .number n => deliver (.number n) stack
  | .string s => deliver (.string s) stack
  | .openArray => some ⟨.array [] :: stack, .element⟩
  | .openObject => some ⟨.object [] :: stack, .member⟩
  | _ => none

def startMember (stack : List Frame) : Token → Option Builder
  | .string s =>
    match stack with
    | .object done :: stack => some ⟨.member done s :: stack, .colon⟩
    | _ => none
  | _ => none

def step (b : Builder) (token : Token) : Option Builder :=
  match b.expect with
  | .value => startValue b.stack token
  | .element => if token = .closeArray then closeArray b.stack else startValue b.stack token
  | .key => startMember b.stack token
  | .member => if token = .closeObject then closeObject b.stack else startMember b.stack token
  | .colon => if token = .colon then some ⟨b.stack, .value⟩ else none
  | .more =>
    match token, b.stack with
    | .comma, .array _ :: _ => some ⟨b.stack, .value⟩
    | .comma, .object _ :: _ => some ⟨b.stack, .key⟩
    | .closeArray, stack => closeArray stack
    | .closeObject, stack => closeObject stack
    | _, _ => none
  | .finished _ => none

/-- Takes tokens one after the other. -/
def run (b : Builder) (tokens : List Token) : Option Builder := tokens.foldlM step b

/-- The tree, once it is complete. -/
def tree? (b : Builder) : Option Tree :=
  match b.expect with
  | .finished tree => some tree
  | _ => none

end Builder

/-- The tree of a whole text of tokens. -/
def build? (tokens : List Token) : Option Tree :=
  ((Builder.mk [] .value).run tokens).bind Builder.tree?

def Tree.ofChars? (text : List Char) : Option Tree := (tokens? text).bind build?

def Tree.ofBytes? (bytes : List UInt8) : Option Tree := (tokensOfBytes? bytes).bind build?

def tree? (s : String) : Option Tree := Tree.ofChars? s.toList

/-! ## Values -/

/-- The greatest depth of a value that is read. -/
def greatestDepth : Nat := 127

/-- The value of a tree that is not too deep. -/
def Tree.shallowValue? (t : Tree) : Option Json :=
  if t.depth ≤ greatestDepth then t.value? else none

/-- The value that a string spells. -/
def parse? (s : String) : Option Json := (tree? s).bind Tree.shallowValue?

end WebLogin.Json
