import WebLogin.Url.File

/-!
# Reading URLs

An absolute URL is read from a text: the scheme, then what the scheme makes of the slashes that
follow, then query and fragment. The schemes of the web have a host and take a backslash for a
slash; files may do without a host; every other scheme has an authority only after two slashes.
-/

namespace WebLogin.Url

/-- How URLs of a scheme are read. -/
inductive SchemeKind where
  /-- A scheme of the web, with its port. -/
  | web (port : Nat)
  | file
  | other
  deriving DecidableEq, Repr

def SchemeKind.ofScheme : String → SchemeKind
  | "http" => .web 80
  | "ws" => .web 80
  | "https" => .web 443
  | "wss" => .web 443
  | "ftp" => .web 21
  | "file" => .file
  | _ => .other

/-- Whether a scheme is one of the special ones. -/
def SchemeKind.isSpecial : SchemeKind → Bool
  | .other => false
  | _ => true

/-- The text without control characters and spaces at its ends. -/
def trimControls (text : List Char) : List Char :=
  ((text.dropWhile (· ≤ ' ')).reverse.dropWhile (· ≤ ' ')).reverse

/-- Whether a character may stand in a scheme after its first letter. -/
def isSchemeChar (c : Char) : Bool := c.isAlphanum || c == '+' || c == '-' || c == '.'

/-- The scheme in small letters and what follows its colon. -/
def cutScheme? (text : List Char) : Option (String × List Char) := do
  let (front, rest) ← Text.cutFirst? ':' text
  let scheme := seen front
  let first ← scheme.head?
  if first.isAlpha && scheme.all isSchemeChar then
    some (String.ofList (scheme.map Char.toLower), rest)
  else none

/-! ## Authorities -/

/-- A name and a password in front of a host. -/
def credentials (text : List Char) : String × String :=
  let (user, password) := (Text.cutFirst? ':' text).getD (text, [])
  (String.ofList (Percent.encode isPlainInCredentials user),
   String.ofList (Percent.encode isPlainInCredentials password))

/-- The host and what follows it from the first colon outside brackets. -/
def cutHost (inside : Bool) : List Char → List Char × List Char
  | [] => ([], [])
  | c :: rest =>
    if c = ':' ∧ !inside then ([], c :: rest)
    else
      let (host, port) := cutHost (c = '[' || (inside && c ≠ ']')) rest
      (c :: host, port)

def portNumber? (digits : List Char) : Option Nat :=
  let n := digits.foldl (fun n c => 10 * n + (c.toNat - '0'.toNat)) 0
  if n < 0x10000 then some n else none

/-- The port after a host, which may have no digits, and what follows the digits. -/
def readPort (implied : Option Nat) : List Char → Except Fault (Option Nat × List Char)
  | ':' :: text =>
    let digits := text.takeWhile Char.isDigit
    let rest := text.dropWhile Char.isDigit
    match portNumber? digits with
    | none => .error .invalidPort
    | some port =>
      if rest = [] ∨ rest.head? = some '\\' then
        .ok (if digits = [] ∨ implied = some port then none else some port, rest)
      else .error .invalidPort
  | rest => .ok (none, rest)

/-- The authority of a text that ends before its path, and what belongs to the path after all. Here
`more` says that something follows the text. -/
def readAuthority (kind : SchemeKind) (text : List Char) (more : Bool) :
    Except Fault (Authority × List Char) := do
  let (front, place) := (Text.cutLast? '@' text).getD ([], text)
  if front = [] ∧ place = [] ∧ text ≠ [] ∧ more then throw .emptyHost
  let (user, password) := credentials front
  let (host, after) := cutHost false place
  match kind with
  | .web implied =>
    if host = [] then throw .emptyHost
    let host ← Host.read host
    let (port, rest) ← readPort (some implied) after
    return ({ user, password, host, port }, rest)
  | _ =>
    let read ← Host.readOpaque host
    if host = [] ∧ after ≠ [] then throw .emptyHost
    let (port, rest) ← readPort none after
    if host = [] ∧ (user ≠ "" ∨ password ≠ "") then throw .emptyHost
    return ({ user, password, host := read, port }, rest)

/-! ## The part before query and fragment -/

/-- Whether a character ends an authority. -/
def endsAuthority (special : Bool) (c : Char) : Bool :=
  c == '/' || c == '?' || c == '#' || (special && c == '\\')

/-- Whether a character ends a path. -/
def endsPath (c : Char) : Bool := c == '?' || c == '#'

/-- A URL without query and fragment whose authority follows. -/
def readWithAuthority (scheme : String) (kind : SchemeKind) (text : List Char) (more : Bool) :
    Except Fault Url := do
  let special := kind.isSpecial
  let place := text.takeWhile fun c => !endsAuthority special c
  let (authority, left) ← readAuthority kind place (more || place.length < text.length)
  let path := left ++ text.dropWhile fun c => !endsAuthority special c
  let path :=
    if special then pathText (segments (dropSlash (withSlashes path)))
    else if path = [] then []
    else pathText (segments (dropSlash path))
  return { scheme, authority := some authority, path := String.ofList path }

/-- A URL of another scheme without query and fragment. -/
def readOther (scheme : String) (text : List Char) (more : Bool) : Except Fault Url :=
  match text with
  | '/' :: '/' :: rest => readWithAuthority scheme .other rest more
  | '/' :: rest =>
    .ok { scheme, authority := none, path := String.ofList (pathText (segments rest)) }
  | text =>
    .ok { scheme, authority := none, path := String.ofList (Percent.encode isVisible text) }

/-- A URL without query and fragment. Here `more` says that one of them follows. -/
def readFront (scheme : String) (text : List Char) (more : Bool) : Except Fault Url :=
  match SchemeKind.ofScheme scheme with
  | .web port =>
    let text := (seen text).dropWhile fun c => c = '/' || c = '\\'
    readWithAuthority scheme (.web port) text more
  | .file => readFile scheme text
  | .other => readOther scheme (seen text) more

/-! ## Whole URLs -/

/-- The query of the text that follows a path. -/
def readQuery (special : Bool) (tail : List Char) : Option String :=
  match tail.takeWhile (· ≠ '#') with
  | _ :: query => some (String.ofList (Percent.encode (isPlainInQuery special) query))
  | [] => none

/-- The fragment of the text that follows a path. -/
def readFragment (tail : List Char) : Option String :=
  (Text.cutFirst? '#' tail).map fun (_, fragment) =>
    String.ofList (Percent.encode isPlainInFragment fragment)

def ofString? (s : String) : Except Fault Url :=
  match cutScheme? (trimControls s.toList) with
  | none => .error .relativeWithoutBase
  | some (scheme, rest) => do
    let front := rest.takeWhile fun c => !endsPath c
    let tail := seen (rest.dropWhile fun c => !endsPath c)
    let url ← readFront scheme front (tail ≠ [])
    let special := (SchemeKind.ofScheme scheme).isSpecial
    return { url with query := readQuery special tail, fragment := readFragment tail }

end WebLogin.Url
