import WebLogin.Bytes.Utf8

/-!
# Headers

The name of a header is a token, kept in small letters. Its value is a list of bytes without control
characters, tab excepted; only a value of visible ASCII, space and tab is read as text.
-/

namespace WebLogin

/-- The characters of a token other than letters and digits. -/
def tokenMarks : List Char :=
  ['!', '#', '$', '%', '&', '\'', '*', '+', '-', '.', '^', '_', '`', '|', '~']

/-- Whether a character may stand in a token. -/
def isTokenChar (c : Char) : Bool := c.isAlphanum || tokenMarks.contains c

/-- Whether a text is the name of a header in small letters. -/
def isHeaderName (text : List Char) : Bool :=
  !text.isEmpty && text.length < 0x10000 && text.all fun c => isTokenChar c && !c.isUpper

/-- The name of a header. -/
structure HeaderName where
  text : String
  valid : isHeaderName text.toList = true
  deriving DecidableEq

namespace HeaderName

instance : Repr HeaderName := ⟨fun n k => reprPrec n.text k⟩

/-- The name that a text spells in letters of either case. -/
def ofString? (s : String) : Option HeaderName :=
  let small := String.ofList (s.toList.map Char.toLower)
  if h : isHeaderName small.toList = true then some ⟨small, h⟩ else none

/-- The wording for a text that is no name. -/
def invalidMessage : String := "invalid HTTP header name"

end HeaderName

/-- Whether a byte may stand in the value of a header. -/
def isHeaderByte (b : UInt8) : Bool := (32 ≤ b && b != 127) || b == 9

/-- The value of a header. -/
structure HeaderValue where
  bytes : List UInt8
  valid : bytes.all isHeaderByte = true
  deriving DecidableEq

namespace HeaderValue

instance : Repr HeaderValue := ⟨fun v k => reprPrec v.bytes k⟩

def ofBytes? (bytes : List UInt8) : Option HeaderValue :=
  if h : bytes.all isHeaderByte = true then some ⟨bytes, h⟩ else none

def ofString? (s : String) : Option HeaderValue := ofBytes? (Utf8.bytes s)

/-- The wording for a text that is no value. -/
def invalidMessage : String := "failed to parse header value"

/-- Visible ASCII, space and tab. -/
def isReadable (b : UInt8) : Bool := (32 ≤ b && b < 127) || b == 9

/-- The text of a value, if all of it is readable. -/
def text? (v : HeaderValue) : Option String :=
  if v.bytes.all isReadable then some (String.ofList (v.bytes.map fun b => Char.ofNat b.toNat))
  else none

end HeaderValue

/-- The headers of a message in order; a name may stand more than once. -/
abbrev Headers := List (HeaderName × HeaderValue)

namespace Headers

/-- The first value of a name. -/
def first? (h : Headers) (name : HeaderName) : Option HeaderValue :=
  (h.find? fun e => e.1 = name).map (·.2)

/-- All values of a name in order. -/
def all (h : Headers) (name : HeaderName) : List HeaderValue :=
  (h.filter fun e => e.1 = name).map (·.2)

/-- The headers without those of a name. -/
def erase (h : Headers) (name : HeaderName) : Headers := h.filter fun e => e.1 ≠ name

/-- The headers with one value for a name, in place of all former ones. -/
def set (h : Headers) (name : HeaderName) (value : HeaderValue) : Headers :=
  h.erase name ++ [(name, value)]

/-- The headers with one value more for a name. -/
def append (h : Headers) (name : HeaderName) (value : HeaderValue) : Headers := h ++ [(name, value)]

end Headers

end WebLogin
