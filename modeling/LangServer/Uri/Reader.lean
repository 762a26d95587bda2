import LangServer.Uri.Host

/-!
# URIs

A document is known by its URI. Clients may spell one URI in many ways; `Uri.parse?` reads any
spelling of an absolute URI and gives its normal form, so that two spellings of one URI give
equal values.

In the normal form the scheme is in small letters, the host is normal, a default port is left
out, the segments `.` and `..` of a path are carried out, and characters that cannot stand in a
part of a URI are percent-encoded. Schemes that browsers know are special: their slashes may be
backslashes, and they always have a host and a path. A scheme with neither slashes nor host has
an opaque path that is only encoded.

## Main definitions

* `Uri.parse?`: the normal form of a spelling.
* `Uri.normalPath`: a path without the segments `.` and `..`.
-/

namespace LangServer

/-- A URI in normal form. -/
structure Uri where
  text : String
  deriving DecidableEq, Repr

namespace Uri

/-! ### Schemes -/

/-- What kind of scheme a URI has. -/
inductive SchemeKind where
  | file
  /-- Another special scheme, with its default port. -/
  | special (port : Nat)
  | plain
  deriving DecidableEq, Repr

/-- The kind of a scheme in small letters. -/
def schemeKind (scheme : Text) : SchemeKind :=
  match String.ofList scheme with
  | "file" => .file
  | "http" => .special 80
  | "https" => .special 443
  | "ws" => .special 80
  | "wss" => .special 443
  | "ftp" => .special 21
  | _ => .plain

/-- Whether the kind of scheme is special. -/
def SchemeKind.isSpecial : SchemeKind → Bool
  | .plain => false
  | _ => true

/-- Characters of a scheme after the first. -/
def isSchemeChar (c : Char) : Bool :=
  c.isAlphanum || c = '+' || c = '-' || c = '.'

/-- The scheme of a URI in small letters, and what follows its colon. -/
def scheme? (s : Text) : Option (Text × Text) :=
  match s with
  | [] => none
  | c :: _ =>
    if c.isAlpha then
      (Text.expect ':' (s.dropWhile isSchemeChar)).map fun r =>
        ((s.takeWhile isSchemeChar).map Char.toLower, r)
    else none

/-! ### Paths -/

/-- Whether a character parts the segments of a path. -/
def isSlash (special : Bool) (c : Char) : Bool :=
  c = '/' || (special && c = '\\')

/-- A segment that means the directory itself. -/
def isSingleDot (segment : Text) : Bool :=
  [".", "%2e"].contains (String.ofList (segment.map Char.toLower))

/-- A segment that means the directory above. -/
def isDoubleDot (segment : Text) : Bool :=
  ["..", ".%2e", "%2e.", "%2e%2e"].contains (String.ofList (segment.map Char.toLower))

/-- Whether a segment is a letter and a colon, or a bar in place of the colon. -/
def isDriveLetter : Text → Bool
  | [a, b] => a.isAlpha && (b = ':' || b = '|')
  | _ => false

/-- Whether a text starts with a drive, after which it ends or a part of a URI does. -/
def startsWithDrive : Text → Bool
  | a :: b :: r => isDriveLetter [a, b] && r.head?.all "/\\?#".toList.contains
  | _ => false

/-- The segments of a path. -/
def segments (special : Bool) (s : Text) : List Text :=
  List.splitOn '/' (if special then s.map fun c => if c = '\\' then '/' else c else s)

/-- A path in reverse without its last segment. The first segment stays, and so does one that is a
drive. -/
def goUp : Text → Text
  | '/' :: r =>
    let segment := (r.takeWhile (· ≠ '/')).reverse
    if r.contains '/' && !startsWithDrive (segment ++ ['/']) then r.dropWhile (· ≠ '/')
    else '/' :: r
  | r => r.dropWhile (· ≠ '/')

/-- A path in reverse with a slash at its end. -/
def withSlash : Text → Text
  | '/' :: r => '/' :: r
  | r => '/' :: r

/-- A path in reverse after some more segments, and whether the path of a file got a drive for its
first segment. All segments but the last have a slash after them. -/
def addSegments (file : Bool) (path : Text) : List Text → Text × Bool
  | [] => (path, false)
  | segment :: rest =>
    let ended (p : Text) : Text := if rest = [] then p else '/' :: p
    let segment := encode encodedInPath segment
    if isDoubleDot segment then
      let up := goUp path
      addSegments file (if rest = [] then up else withSlash up) rest
    else if isSingleDot segment then addSegments file (withSlash path) rest
    else if file && path = ['/'] && isDriveLetter segment then
      ((addSegments file (ended (':' :: segment.take 1 ++ path)) rest).1, true)
    else addSegments file (ended (segment.reverse ++ path)) rest

/-- The normal form of a path of which `start` has been read, and whether the path of a file has a
drive. The path of a file starts with one slash. -/
def normalPath (kind : SchemeKind) (start s : Text) : Text × Bool :=
  let (path, drive) := addSegments (kind = .file) start.reverse (segments kind.isSpecial s)
  let path := path.reverse
  (if kind = .file then '/' :: path.dropWhile (· = '/') else path, drive)

/-! ### Authorities -/

/-- The user of an authority in normal form. A password that is empty is left out, and so is a
user without name and password. -/
def normalUser (user : Text) : Text :=
  let name := encode encodedInUserinfo (user.takeWhile (· ≠ ':'))
  let password := encode encodedInUserinfo ((user.dropWhile (· ≠ ':')).drop 1)
  if name = [] ∧ password = [] then []
  else if password = [] then name ++ ['@']
  else name ++ ':' :: password ++ ['@']

/-- The user before the last at-sign of an authority, if it has one, and what follows. -/
def splitUser (s : Text) : Option Text × Text :=
  if s.contains '@' then
    let host := (s.reverse.takeWhile (· ≠ '@')).reverse
    (some (s.take (s.length - host.length - 1)), host)
  else (none, s)

/-- The host of an authority before its port, and the port with its colon. A colon between
brackets does not count. -/
def splitPort (inBrackets : Bool) : Text → Text × Text
  | [] => ([], [])
  | c :: r =>
    if c = ':' ∧ ¬ inBrackets then ([], c :: r)
    else
      let inBrackets := if c = '[' then true else if c = ']' then false else inBrackets
      let (host, port) := splitPort inBrackets r
      (c :: host, port)

/-- A port in normal form and what follows it: digits that make a number below 65536, left out if
it is the default. A backslash ends a port. -/
def port? (default : Option Nat) (s : Text) : Option (Text × Text) :=
  match s with
  | ':' :: r =>
    let digits := r.takeWhile Char.isDigit
    let rest := r.dropWhile Char.isDigit
    let n := Text.numeral 10 digits
    if rest.head?.any (· ≠ '\\') ∨ 65535 < n then none
    else if digits = [] ∨ default = some n then some ([], rest)
    else some (':' :: Text.decimal n, rest)
  | s => some ([], s)

/-- An authority in normal form, and the path after it. A special scheme needs a host, and so do a
user and a port, and an at-sign before the end of the authority where more of the URI follows. -/
def authority? (kind : SchemeKind) (more : Bool) (s : Text) : Option (Text × Text) := do
  let slash := isSlash kind.isSpecial
  let path := s.dropWhile (!slash ·)
  let (user?, hostAndPort) := splitUser (s.takeWhile (!slash ·))
  let user := normalUser (user?.getD [])
  let (host, port) := splitPort false hostAndPort
  let bareSign := user? = some [] ∧ hostAndPort = [] ∧ (path ≠ [] ∨ more)
  if bareSign ∨ (host = [] ∧ (kind.isSpecial ∨ port ≠ [] ∨ user ≠ [])) then none
  else
    let default := match kind with
      | .special n => some n
      | _ => none
    let host ← if kind.isSpecial then specialHost? host else plainHost? host
    let (port, rest) ← port? default port
    return (user ++ host ++ port, rest ++ path)

/-! ### Whole URIs -/

/-- The host and path of a file in normal form. The host of this machine is left out, and a drive
stands in place of a host. -/
def fileBody? (s : Text) : Option Text :=
  let slash := isSlash true
  let path (start s : Text) : Text := (normalPath .file start s).1
  match s with
  | a :: b :: r =>
    if slash a && slash b then
      let host := r.takeWhile (!slash ·)
      let rest := r.dropWhile (!slash ·)
      if isDriveLetter host then some ("//".toList ++ path ['/'] r)
      else if host = [] then some ("//".toList ++ path ['/'] rest)
      else
        (specialHost? host).map fun name =>
          if name = "localhost".toList then "//".toList ++ path ['/'] rest
          else
            let (path, drive) := normalPath .file ['/'] (rest.drop 1)
            "//".toList ++ (if drive then [] else name) ++ path
    else if slash a then some ("//".toList ++ path [] s)
    else some ("//".toList ++ path ['/'] s)
  | s => some ("//".toList ++ path ['/'] s)

/-- The authority and path of a URI in normal form; `more` says whether a query or a fragment
follows. -/
def body? (kind : SchemeKind) (more : Bool) (s : Text) : Option Text :=
  match kind with
  | .file => fileBody? s
  | .special _ =>
    (authority? kind more (s.dropWhile (isSlash true))).map fun (a, rest) =>
      "//".toList ++ a ++ (normalPath kind ['/'] (rest.drop 1)).1
  | .plain =>
    match s with
    | '/' :: '/' :: r =>
      (authority? kind more r).map fun (a, rest) =>
        let start : Text := if rest.head?.any (· ≠ '/') then ['/'] else []
        "//".toList ++ a ++ (normalPath kind start rest).1
    | '/' :: r =>
      let path := (normalPath kind ['/'] r).1
      some (if "//".toList.isPrefixOf path then "/.".toList ++ path else path)
    | s => some (encode encodedEverywhere s)

/-- A text without control characters and spaces at its ends, and without line breaks and tabs
anywhere. -/
def cleaned (s : Text) : Text :=
  let isEdge (c : Char) : Bool := c.toNat ≤ 0x20
  let s := ((s.dropWhile isEdge).reverse.dropWhile isEdge).reverse
  s.filter fun c => c ≠ '\t' ∧ c ≠ '\n' ∧ c ≠ '\r'

/-- The normal form of a spelling of an absolute URI. -/
def parse? (spelling : String) : Option Uri := do
  let (scheme, s) ← scheme? (cleaned spelling.toList)
  let kind := schemeKind scheme
  let isMore (c : Char) : Bool := c = '?' || c = '#'
  let body ← body? kind (s.any isMore) (s.takeWhile (!isMore ·))
  let query := match (s.takeWhile (· ≠ '#')).dropWhile (· ≠ '?') with
    | '?' :: q => '?' :: encode (encodedInQuery kind.isSpecial) q
    | _ => []
  let fragment := match s.dropWhile (· ≠ '#') with
    | '#' :: f => '#' :: encode encodedInFragment f
    | _ => []
  return ⟨String.ofList (scheme ++ ':' :: body ++ query ++ fragment)⟩

end Uri

end LangServer
