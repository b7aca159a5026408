import WebLogin.Text.Visible

/-!
# Descriptions

Texts for readers of logs. A quoted text has its quotes, its backslashes and the characters that
cannot be seen escaped; a record has its name in front of its fields, and a secret is not shown.
-/

namespace WebLogin.Text

/-- A character by its number in hexadecimal. -/
def numberEscape (c : Char) : List Char :=
  ['\\', 'u', '\x7b'] ++ Nat.toDigits 16 c.toNat ++ ['\x7d']

/-- A character of a quoted text. -/
def quoteChar (c : Char) : List Char :=
  if c = '"' then ['\\', '"']
  else if c = '\\' then ['\\', '\\']
  else if c = '\n' then ['\\', 'n']
  else if c = '\r' then ['\\', 'r']
  else if c = '\t' then ['\\', 't']
  else if c = '\x00' then ['\\', '0']
  else if isVisible c then [c]
  else numberEscape c

def quote (s : String) : String := String.ofList ('"' :: s.toList.flatMap quoteChar ++ ['"'])

/-- A record with its name and the texts of its fields. -/
def describe (name : String) (fields : List String) : String :=
  name ++ " \x7b " ++ String.intercalate ", " fields ++ " \x7d"

/-- What is shown of a field that is not shown. -/
def hidden (name : String) : String := name ++ ": " ++ quote "[REDACTED]"

/-- What is shown of fields that are not even named. -/
def more : String := ".."

end WebLogin.Text
