import PolicyKeeper.Url.Host
import PolicyKeeper.Text.Blank

/-!
# URLs

A URL is read to its normal form: scheme and host in lower case, the default port left out, dot
segments resolved, and in each part the characters escaped that cannot stand there. The text of a
URL that was read is its normal form. `Url.resolve` follows a relative path from a URL, in which dot
segments count as well.

The schemes that are special have a host and a path that starts with a slash, and take a backslash
for a slash. A URL of another scheme may be a scheme and an opaque path, with nothing in it to
resolve.
-/

namespace PolicyKeeper

namespace Url

/-- The special schemes and their default ports. -/
def specialSchemes : List (String × Option Nat) :=
  [("http", some 80), ("https", some 443), ("ws", some 80), ("wss", some 443), ("ftp", some 21),
    ("file", none)]

/-- Whether a scheme is special. -/
def isSpecial (scheme : String) : Bool := (specialSchemes.lookup scheme).isSome

/-- Who serves a URL: a user perhaps, a host that may be empty, and a port unless it is the
default. -/
structure Authority where
  user : String := ""
  password : String := ""
  host : String := ""
  port : Option Nat := none
deriving DecidableEq, Inhabited, Repr

/-- What a URL names at its authority. -/
inductive Path where
  /-- A text that is not taken apart. -/
  | opaquePath (text : String)
  /-- Segments, each with a slash in front. -/
  | segments (segments : List String)
deriving DecidableEq, Inhabited, Repr

end Url

/-- A URL in normal form. -/
structure Url where
  scheme : String
  authority : Option Url.Authority := none
  path : Url.Path
  query : Option String := none
  fragment : Option String := none
deriving DecidableEq, Inhabited, Repr

namespace Url

/-! ## Text -/

/-- Segments as a text. -/
def renderSegments (segments : List String) : String :=
  String.join (segments.map fun s => "/" ++ s)

/-- The authority as a text. -/
def Authority.render (a : Authority) : String :=
  let password := if a.password.isEmpty then "" else ":" ++ a.password
  let user := if a.user.isEmpty && a.password.isEmpty then "" else a.user ++ password ++ "@"
  let port :=
    match a.port with
    | some p => ":" ++ toString p
    | none => ""
  "//" ++ user ++ a.host ++ port

/-- A part with the mark in front of it, if there is one. -/
def renderPart (mark : String) : Option String → String
  | some text => mark ++ text
  | none => ""

/-- The text of a URL. -/
def render (u : Url) : String :=
  let before :=
    match u.authority, u.path with
    | some a, _ => a.render
    | none, .segments ("" :: _ :: _) => "/."
    | none, _ => ""
  let path :=
    match u.path with
    | .opaquePath text => text
    | .segments segments => renderSegments segments
  u.scheme ++ ":" ++ before ++ path ++ renderPart "?" u.query ++ renderPart "#" u.fragment

/-! ## Paths -/

/-- Whether a segment stands for the place it is at. -/
def isSingleDot (segment : String) : Bool :=
  let s := Text.lowerAscii segment
  s == "." || s == "%2e"

/-- Whether a segment stands for the place above. -/
def isDoubleDot (segment : String) : Bool :=
  let s := Text.lowerAscii segment
  s == ".." || s == ".%2e" || s == "%2e." || s == "%2e%2e"

/-- Whether a segment names a drive: a letter and a colon, or a bar for it. -/
def isDrive (segment : String) : Bool :=
  match segment.toList with
  | [letter, mark] => letter.isAlpha && (mark == ':' || mark == '|')
  | _ => false

/-- The place above a place in a path. There is none above a drive. -/
def above (base : List String) : List String :=
  if base.getLast?.any isDrive then base else base.dropLast

/-- Follows segments from a place in a path. Dots at the end leave a slash there. -/
def walk (base : List String) : List String → List String
  | [] => base
  | [last] =>
    if isDoubleDot last then above base ++ [""]
    else if isSingleDot last then base ++ [""]
    else base ++ [last]
  | s :: rest =>
    if isDoubleDot s then walk (above base) rest
    else if isSingleDot s then walk base rest
    else walk (base ++ [s]) rest

/-- The segments of a URL's path; an opaque path has none. -/
def segments (u : Url) : List String :=
  match u.path with
  | .segments segments => segments
  | .opaquePath _ => []

/-- The URL with a slash at the end of its path. -/
def closed (u : Url) : Url :=
  if u.segments.getLast? = some "" then u else { u with path := .segments (u.segments ++ [""]) }

/-- The URL that a relative path of the given segments leads to. It takes the place of the last
segment, and nothing of the query or the fragment is left. -/
def resolve (u : Url) (relative : List String) : Url :=
  { u with path := .segments (walk u.segments.dropLast relative), query := none, fragment := none }

/-! ## Reading -/

/-- The text without the spaces and controls around it, and without tabs and line breaks. -/
def stripped (text : String) : List Char :=
  let outer (c : Char) : Bool := c.toNat ≤ 0x20
  let inner := ((text.toList.dropWhile outer).reverse.dropWhile outer).reverse
  inner.filter fun c => !(c == '\t' || c == '\n' || c == '\r')

/-- Cuts at a scheme's colon: the scheme in lower case and what follows. -/
def readScheme? (cs : List Char) : Option (String × List Char) :=
  match cs with
  | [] => none
  | c :: _ =>
    let inScheme (c : Char) : Bool := c.isAlphanum || c == '+' || c == '-' || c == '.'
    match c.isAlpha, cs.dropWhile inScheme with
    | true, ':' :: rest =>
      some (Text.lowerAscii (String.ofList (cs.takeWhile inScheme)), rest)
    | _, _ => none

/-- Cuts at the last `@`: what is before it, and what is after it. -/
def cutAtLastAt? (cs : List Char) : Option (List Char × List Char) :=
  match cs.reverse.dropWhile (· != '@') with
  | [] => none
  | _ :: before => some (before.reverse, (cs.reverse.takeWhile (· != '@')).reverse)

/-- Cuts a host from its port at the first colon outside brackets. -/
def cutAtPort (inBrackets : Bool) : List Char → List Char × Option (List Char)
  | [] => ([], none)
  | c :: rest =>
    if c = ':' ∧ !inBrackets then ([], some rest)
    else
      let inside := if c = '[' then true else if c = ']' then false else inBrackets
      let (host, port) := cutAtPort inside rest
      (c :: host, port)

/-- Reads a port. The default port of the scheme, and an empty one, are none. -/
def readPort? (scheme : String) (cs : List Char) : Option (Option Nat) :=
  if cs.isEmpty then some none
  else do
    let p ← if cs.all Char.isDigit then numberInBase? 10 cs else none
    if 65535 < p then none
    else if specialSchemes.lookup scheme = some (some p) then return none
    else return some p

/-- Reads what is between the slashes and the path. -/
def readAuthority? (scheme : String) (cs : List Char) : Option Authority := do
  let (user, password, rest) : String × String × List Char :=
    match cutAtLastAt? cs with
    | none => ("", "", cs)
    | some (before, rest) =>
      let user := before.takeWhile (· != ':')
      let password := (before.dropWhile (· != ':')).drop 1
      (encodeWith keptInUser (String.ofList user), encodeWith keptInUser (String.ofList password),
        rest)
  let (host, port) := cutAtPort false rest
  if host.isEmpty then
    if isSpecial scheme ∨ port.isSome ∨ (cutAtLastAt? cs).isSome then none else return {}
  else
    let host ← readHost? (isSpecial scheme) host
    return { user, password, host, port := ← readPort? scheme (port.getD []) }

/-- The parts after the authority: a path, a query behind `?`, and a fragment behind `#`. -/
structure Tail where
  path : List Char
  query : Option String
  fragment : Option String

/-- Cuts the parts after the authority from each other. -/
def Tail.ofChars (special : Bool) (cs : List Char) : Tail :=
  let beforeFragment := cs.takeWhile (· != '#')
  let path := beforeFragment.takeWhile (· != '?')
  { path
    query := ((beforeFragment.dropWhile (· != '?')).tail?).map fun q =>
      encodeWith (keptInQuery special) (String.ofList q)
    fragment := ((cs.dropWhile (· != '#')).tail?).map fun f =>
      encodeWith keptInFragment (String.ofList f) }

/-- The segments of a written path, without the slash in front. -/
def pathSegments (special : Bool) (cs : List Char) : List String :=
  let cs := if special then cs.map fun c => if c = '\\' then '/' else c else cs
  let cs :=
    match cs with
    | '/' :: rest => rest
    | cs => cs
  (Text.splitChars '/' cs).map fun s => encodeWith keptInPath (String.ofList s)

/-- A URL with an authority, from what follows the slashes. -/
def readServed? (scheme : String) (cs : List Char) : Option Url := do
  let special := isSpecial scheme
  let ends (c : Char) : Bool := c == '/' || c == '?' || c == '#' || (special && c == '\\')
  let authority ← readAuthority? scheme (cs.takeWhile fun c => !ends c)
  let tail := Tail.ofChars special (cs.dropWhile fun c => !ends c)
  let segments :=
    if tail.path.isEmpty && !special then [] else walk [] (pathSegments special tail.path)
  return { scheme, authority := some authority, path := .segments segments, query := tail.query,
           fragment := tail.fragment }

/-- The path of a file as it is written: a colon behind the letter of a drive that it starts with,
and no empty segments in front. -/
def filePath (segments : List String) : List String :=
  let segments :=
    match segments with
    | first :: rest => if isDrive first then (first.replace "|" ":") :: rest else segments
    | [] => []
  match segments.dropWhile String.isEmpty with
  | [] => [""]
  | segments => segments

/-- A URL of a file, from what follows the scheme. Two slashes stand in front of a host, unless it
is a drive, and a path that starts with a drive has no host. -/
def readFile? (cs : List Char) : Option Url := do
  let isSlash (c : Char) : Bool := c == '/' || c == '\\'
  let ends (c : Char) : Bool := isSlash c || c == '?' || c == '#'
  let (host, rest) : List Char × List Char :=
    match cs with
    | a :: b :: rest =>
      let host := rest.takeWhile fun c => !ends c
      if !(isSlash a && isSlash b) then ([], cs)
      else if isDrive (String.ofList host) then ([], rest)
      else (host, rest.drop host.length)
    | _ => ([], cs)
  let host ← if host.isEmpty then some "" else readHost? true host
  let tail := Tail.ofChars true rest
  let segments := walk [] (pathSegments true tail.path)
  let served := host != "localhost" && !segments.head?.any isDrive
  return { scheme := "file", authority := some { host := if served then host else "" }
           path := .segments (filePath segments), query := tail.query, fragment := tail.fragment }

/-- Reads a URL. -/
def parse? (text : String) : Option Url := do
  let (scheme, rest) ← readScheme? (stripped text)
  if scheme = "file" then readFile? rest
  else if isSpecial scheme then
    readServed? scheme (rest.dropWhile fun c => c == '/' || c == '\\')
  else
    match rest with
    | '/' :: '/' :: rest => readServed? scheme rest
    | '/' :: _ =>
      let tail := Tail.ofChars false rest
      return { scheme, path := .segments (walk [] (pathSegments false tail.path)),
               query := tail.query, fragment := tail.fragment }
    | _ =>
      let tail := Tail.ofChars false rest
      return { scheme, path := .opaquePath (encodeWith isPrintableByte (String.ofList tail.path)),
               query := tail.query, fragment := tail.fragment }

end Url

end PolicyKeeper
