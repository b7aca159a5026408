/-!
# Blanks

The characters with the property White_Space, and text without those at its ends.
-/

namespace WebLogin.Text

/-- Whether a character has the property White_Space. -/
def isBlank (c : Char) : Bool :=
  let n := c.toNat
  (0x09 ≤ n && n ≤ 0x0D) || n == 0x20 || n == 0x85 || n == 0xA0 || n == 0x1680 ||
    (0x2000 ≤ n && n ≤ 0x200A) || n == 0x2028 || n == 0x2029 || n == 0x202F || n == 0x205F ||
    n == 0x3000

/-- The text without blanks at its ends. -/
def trimChars (text : List Char) : List Char :=
  ((text.dropWhile isBlank).reverse.dropWhile isBlank).reverse

/-- The string without blanks at its ends. -/
def trim (s : String) : String := String.ofList (trimChars s.toList)

/-- The string with the capital letters of ASCII made small. -/
def lowercase (s : String) : String := String.ofList (s.toList.map Char.toLower)

end WebLogin.Text
