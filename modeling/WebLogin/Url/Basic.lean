import WebLogin.Text.Form
import WebLogin.Web.Address

/-!
# URLs

A URL in its parts, each in its written form. `Url.text` puts the parts together, and
`Url.appendPair` adds a pair to the query and leaves all other parts alone.
-/

namespace WebLogin

namespace Url

/-- What a URL names as its host. -/
inductive Host where
  /-- A name, which may be empty. -/
  | name (text : String)
  | address (address : Address)
  deriving DecidableEq, Repr

/-- The text of a host. An address of 128 bits stands in brackets and has no decimal part. -/
def Host.text : Host → String
  | .name text => text
  | .address (.short bytes) => String.ofList (Address.shortText bytes)
  | .address (.long groups) => String.ofList ('[' :: Address.compressedText groups ++ [']'])

/-- Whose resources a URL is about. -/
structure Authority where
  user : String := ""
  password : String := ""
  host : Host
  /-- The port, unless it is the one that the scheme implies. -/
  port : Option Nat := none
  deriving DecidableEq, Repr

namespace Authority

/-- The name and password in front of the host. -/
def credentials (a : Authority) : String :=
  if a.user = "" ∧ a.password = "" then ""
  else a.user ++ (if a.password = "" then "" else ":" ++ a.password) ++ "@"

def text (a : Authority) : String :=
  a.credentials ++ a.host.text ++
    match a.port with
    | some port => ":" ++ toString port
    | none => ""

end Authority

end Url

/-- A URL in its parts. -/
structure Url where
  scheme : String
  authority : Option Url.Authority
  path : String
  query : Option String := none
  fragment : Option String := none
  deriving DecidableEq, Repr

namespace Url

/-- The authority with its mark. A path that would be taken for an authority has a dot before it. -/
def authorityText (u : Url) : String :=
  match u.authority with
  | some authority => "//" ++ authority.text
  | none => if ['/', '/'].isPrefixOf u.path.toList then "/." else ""

/-- A part with its mark, if it is there. -/
def marked (mark : String) : Option String → String
  | some part => mark ++ part
  | none => ""

def text (u : Url) : String :=
  u.scheme ++ ":" ++ u.authorityText ++ u.path ++ marked "?" u.query ++ marked "#" u.fragment

/-- The names and values in the query. -/
def pairs (u : Url) : List (String × String) := Form.pairs (u.query.getD "").toList

/-- The query with one pair more. -/
def extendQuery (query : Option String) (name value : String) : String :=
  let pair := String.ofList (Form.encodePair name value)
  match query with
  | none => pair
  | some query => if query = "" then pair else query ++ "&" ++ pair

/-- The URL with one pair more in its query. -/
def appendPair (u : Url) (name value : String) : Url :=
  { u with query := some (extendQuery u.query name value) }

end Url

end WebLogin
