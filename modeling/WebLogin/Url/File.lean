import WebLogin.Url.Host
import WebLogin.Url.Path

/-!
# URLs of files

A file has a path and may have a host, and a backslash in either is a slash. A path that starts with
a drive, such as `C:`, is one of this machine, whatever the host. What a URL passes over, such as a
tab, still parts a drive from a name that follows it.
-/

namespace WebLogin.Url

/-! ## Paths -/

/-- Where a file is, as far as its path is read. -/
structure FilePlace where
  host : Host
  /-- The segments from the last one on. -/
  settled : List (List Char) := []
  deriving Repr

/-- The drive and the name of a segment in which something that is passed over stands between the
two. -/
def cutDrive? (segment : List Char) : Option (List Char × List Char) :=
  match Text.cutFirst? ':' segment with
  | some (front, c :: rest) =>
    let drive := seen front ++ [':']
    if isDrive drive ∧ isSkipped c ∧ seen rest ≠ [] then some (drive, seen rest) else none
  | _ => none

/-- The place with one segment more, which may be the last one. A drive in front gets its colon, and
leaves no host if it has the segment for itself. -/
def FilePlace.add (p : FilePlace) (last : Bool) (segment : List Char) : FilePlace :=
  if p.settled = [] ∧ isDrive (seen segment) then
    { host := .name "", settled := [(seen segment).take 1 ++ [':']] }
  else
    match if p.settled = [] then cutDrive? segment else none with
    | some (drive, name) => { p with settled := [name, drive] }
    | none => { p with settled := addSegment p.settled last (seen segment) }

/-- The place after all segments. -/
def FilePlace.run (p : FilePlace) : List (List Char) → FilePlace
  | [] => p
  | segment :: rest => (p.add rest.isEmpty segment).run rest

/-- The file of a path on a host. -/
def fileUrl (scheme : String) (host : Host) (path : List Char) : Url :=
  let place := FilePlace.run { host } (Text.splitAll '/' path)
  { scheme
    authority := some { host := place.host }
    path := String.ofList (trimSlashes (pathText place.settled.reverse)) }

/-! ## Hosts -/

/-- The host of a file; this machine needs no name. -/
def readFileHost (text : List Char) : Except Fault Host := do
  if text = [] then return .name ""
  let host ← Host.read text
  return if host = .name "localhost" then .name "" else host

/-- What follows a slash at the front. -/
def afterSlash? : List Char → Option (List Char)
  | [] => none
  | c :: rest => if isSkipped c then afterSlash? rest else if c = '/' then some rest else none

/-- A file without query and fragment. Two slashes are followed by a host, unless a drive stands in
its place. -/
def readFile (scheme : String) (text : List Char) : Except Fault Url :=
  let text := withSlashes text
  match afterSlash? text with
  | none => .ok (fileUrl scheme (.name "") text)
  | some path =>
    match afterSlash? path with
    | none => .ok (fileUrl scheme (.name "") path)
    | some rest => do
      let place := seen (rest.takeWhile (· ≠ '/'))
      let path := rest.dropWhile (· ≠ '/')
      if isDrive place then return fileUrl scheme (.name "") rest
      let host ← readFileHost place
      return fileUrl scheme host (if host = .name "" then path else dropSlash path)

end WebLogin.Url
