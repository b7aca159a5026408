import WebLogin.Text.Percent
import WebLogin.Text.Split

/-!
# Paths of URLs

A path is a list of segments. A segment of one dot is left out, and one of two dots takes its
predecessor away; a dot may be written as `%2e`. Where such a segment comes last, an empty one
stands in its place.
-/

namespace WebLogin.Url

/-! ## Bytes that stay -/

/-- The bytes that a fragment leaves as they are. -/
def isPlainInFragment (b : UInt8) : Bool :=
  !Percent.isControl b && b < 128 && !Percent.isOneOf [' ', '"', '<', '>', '\x60'] b

/-- The bytes that a path leaves as they are. -/
def isPlainInPath (b : UInt8) : Bool :=
  isPlainInFragment b && !Percent.isOneOf ['#', '?', '\x7b', '\x7d'] b

/-- The bytes that a name or a password leaves as they are. -/
def isPlainInCredentials (b : UInt8) : Bool :=
  isPlainInPath b && !Percent.isOneOf ['/', ':', ';', '=', '@', '[', '\\', ']', '^', '|'] b

/-- The bytes that a query leaves as they are; one of a special scheme has no apostrophe. -/
def isPlainInQuery (special : Bool) (b : UInt8) : Bool :=
  !Percent.isControl b && b < 128 && !Percent.isOneOf [' ', '"', '#', '<', '>'] b &&
    !(special && Percent.isOneOf ['\''] b)

/-! ## Characters -/

/-- Whether a character is passed over wherever it stands in a URL. -/
def isSkipped (c : Char) : Bool := c == '\t' || c == '\n' || c == '\r'

/-- The text without characters that are passed over. -/
def seen (text : List Char) : List Char := text.filter (!isSkipped ·)

/-- A text with every backslash turned into a slash. -/
def withSlashes (text : List Char) : List Char := text.map fun c => if c = '\\' then '/' else c

/-- The text without one slash at its front. -/
def dropSlash : List Char → List Char
  | '/' :: rest => rest
  | text => text

/-! ## Segments -/

def small (segment : List Char) : String := String.ofList (segment.map Char.toLower)

/-- Whether a segment is one dot. -/
def isSingleDot (segment : List Char) : Bool := [".", "%2e"].contains (small segment)

/-- Whether a segment is two dots. -/
def isDoubleDot (segment : List Char) : Bool :=
  ["..", ".%2e", "%2e.", "%2e%2e"].contains (small segment)

/-- Whether a segment names a drive: a letter and a colon or a bar. -/
def isDrive : List Char → Bool
  | [letter, mark] => letter.isAlpha && (mark == ':' || mark == '|')
  | _ => false

/-- The settled segments, given from the last one on, without the last one. A drive stays. -/
def shorten : List (List Char) → List (List Char)
  | [] => []
  | last :: before => if isDrive last then last :: before else before

/-- The settled segments with one more, which may be the last one. -/
def addSegment (settled : List (List Char)) (last : Bool) (segment : List Char) :
    List (List Char) :=
  let settle (settled : List (List Char)) := if last then [] :: settled else settled
  if isDoubleDot segment then settle (shorten settled)
  else if isSingleDot segment then settle settled
  else segment :: settled

/-- The segments of a path with the dots resolved, after those that are settled. All are given from
the last one on. -/
def resolve (settled : List (List Char)) : List (List Char) → List (List Char)
  | [] => settled
  | segment :: rest => resolve (addSegment settled rest.isEmpty segment) rest

def segments (text : List Char) : List (List Char) :=
  (resolve [] (Text.splitAll '/' text)).reverse

/-! ## Texts -/

/-- The text of a path of segments. -/
def pathText (segments : List (List Char)) : List Char :=
  '/' :: List.intercalate ['/'] (segments.map (Percent.encode isPlainInPath))

/-- The path without the slashes, but one, that it starts with. -/
def trimSlashes (path : List Char) : List Char := '/' :: path.dropWhile (· = '/')

end WebLogin.Url
