import WebLogin.Text.Punycode
import WebLogin.Url.Domain.Composition
import WebLogin.Url.Domain.Folding
import WebLogin.Url.Domain.Joining

/-!
# Labels of names

A label is written in ASCII. One with other characters is written in Punycode after `xn--`, and one
that is written so has to be the code of a text that could stand in its place.
-/

namespace WebLogin.Url.Domain

/-! ## Characters -/

/-- The signs that a name must not have. -/
def forbiddenSigns : List Char :=
  ['%', '#', '/', ':', '<', '>', '?', '@', '[', '\\', ']', '^', '|']

/-- Whether a character must not stand in a name. -/
def isForbidden (c : Char) : Bool := c ≤ ' ' || c == '\x7f' || forbiddenSigns.contains c

/-- The characters that a text of a name stands for, composed; none if one must not occur. -/
def characters? (text : List Char) : Option (List Char) :=
  ((foldAll? text).map compose).filter fun name => !name.any isForbidden

/-! ## Labels -/

/-- A label as it is written and as it is read. -/
structure Label where
  written : List Char
  text : List Char
  deriving DecidableEq, Repr

/-- The greatest length of a label with characters outside ASCII. -/
def greatestLength : Nat := 1000

/-- The greatest length of what follows the mark of a label in Punycode. -/
def greatestCodeLength : Nat := 2000

/-- Whether characters make a label: the first one is no mark, joiners make a difference, and there
are not too many. -/
def isSound (text : List Char) : Bool :=
  !text.head?.any Text.isMark && joinersStand [] text &&
    (text.all Punycode.isBasic || text.length ≤ greatestLength)

/-- What stands before a label in Punycode. -/
def codedMark : List Char := ['x', 'n', '-', '-']

namespace Label

/-- The label that is written in Punycode. The text of the code is spelled as names are, and has no
full stop. -/
def ofCoded? (written : List Char) : Option Label := do
  let code := written.drop codedMark.length
  if written.getLast? = some '-' ∨ greatestCodeLength < code.length then none
  let text ← Punycode.decode? code
  if characters? text = some text ∧ !text.contains '.' ∧ isSound text then some { written, text }
  else none

def ofChars? (text : List Char) : Option Label :=
  if codedMark.isPrefixOf text then ofCoded? text
  else if isSound text then
    let written := if text.all Punycode.isBasic then text else codedMark ++ Punycode.encode text
    some { written, text }
  else none

end Label

end WebLogin.Url.Domain
