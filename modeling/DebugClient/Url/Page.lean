import DebugClient.Url.Host
/-!
# URL pages — the path and the fragment of a URL

Of a URL only its place inside the host is ever shown: the segments of
its path, and its fragment. `Page.read?` reads them off a URL text, and
refuses a text that is no absolute URL: the scheme, the credentials, the
host and the port number are read to that end only.

Blanks and controls around the text and tabs and line ends inside it,
its breaks, are dropped; only in the path of a file a break behind a drive
letter counts (`cutDrive?`). Special schemes have a host and a path of
their own, with backslashes for slashes; a scheme that is followed by no
slash at all has an opaque path, which has no segments.
-/

namespace DebugClient

namespace Url

/-- The place a URL names inside its host. -/
structure Page where
  /-- Segments of the path; none if the path is opaque or empty. -/
  segments : List String
  /-- What follows the number sign. -/
  fragment : Option String
  deriving DecidableEq

/-- How a scheme shapes the rest of its URLs. -/
inductive Scheme where
  /-- The scheme of local files. -/
  | file
  /-- A scheme whose URLs always have a host. -/
  | special
  /-- Any other scheme. -/
  | other
  deriving DecidableEq

namespace Scheme

/-- The kind of a scheme by its name. -/
def ofName (name : String) : Scheme :=
  if name = "file" then .file
  else if ["http", "https", "ws", "wss", "ftp"].contains name then .special
  else .other

/-- Whether a backslash separates like a slash. -/
def isSpecial (s : Scheme) : Bool := s ≠ .other

/-- Whether a character is a slash to the scheme. -/
def isSlash (s : Scheme) (c : Char) : Bool := c = '/' || (s.isSpecial && c = '\\')

end Scheme

namespace Page

/-- Characters escaped in a fragment. -/
def fragmentSet (c : Char) : Bool :=
  c.toNat < 0x20 || 0x7F ≤ c.toNat || c = ' ' || c = '"' || c = '<' || c = '>' || c = '`'

/-- Characters escaped in a path. -/
def pathSet (c : Char) : Bool :=
  fragmentSet c || c = '#' || c = '?' || c = '\x7b' || c = '\x7d'

/-- Whether a character only breaks lines or columns of a URL text. -/
def isBreak (c : Char) : Bool := c = '\t' || c = '\n' || c = '\r'

/-- Drops what stands around a URL text. -/
def trim (cs : List Char) : List Char :=
  let outside (c : Char) : Bool := c.toNat ≤ 0x20
  ((cs.dropWhile outside).reverse.dropWhile outside).reverse

/-- Drops the breaks. -/
def joinLines (cs : List Char) : List Char := cs.filter (!isBreak ·)

/-- Drops so many characters, breaks not counted. -/
def skip : Nat → List Char → List Char
  | 0, cs => cs
  | _, [] => []
  | n + 1, c :: rest => if isBreak c then skip (n + 1) rest else skip n rest

/-- Splits off the scheme: a letter, then letters, digits and three
marks, up to a colon. -/
def scheme? (cs : List Char) : Option (String × List Char) :=
  let (name, rest) := cs.span fun c => c.isAlphanum || c = '+' || c = '-' || c = '.'
  match name, rest with
  | first :: _, ':' :: rest =>
    if first.isAlpha then some (String.ofList (name.map Char.toLower), rest) else none
  | _, _ => none

/-- Whether a segment is a drive letter: a letter and a colon or bar. -/
def isDrive (segment : List Char) : Bool :=
  match segment with
  | [d, m] => d.isAlpha && (m = ':' || m = '|')
  | _ => false

/-- Whether a segment names the current directory. -/
def isHere (segment : List Char) : Bool :=
  segment.map Char.toLower = ".".toList || segment.map Char.toLower = "%2e".toList

/-- Whether a segment names the directory above. -/
def isUp (segment : List Char) : Bool :=
  ["..", "%2e.", ".%2e", "%2e%2e"].any fun s => segment.map Char.toLower = s.toList

/-- Whether a segment begins like a drive letter and ends there or at a
backslash. -/
def isDriveLike (segment : List Char) : Bool :=
  isDrive (segment.take 2) && (segment.drop 2).head?.all (· = '\\')

/-- Drops the last segment; one that is like a drive letter stays. -/
def shorten (path : List (List Char)) : List (List Char) :=
  if path.getLast?.any isDriveLike then path else path.dropLast

/-- Splits a segment behind a drive letter that a break follows, unless
nothing else does. -/
def cutDrive? (segment : List Char) : Option (List Char × List Char) :=
  let drive := (joinLines segment).take 2
  let behind := skip 2 segment
  if isDrive drive ∧ drive.getLast? = some ':' ∧ behind.head?.any isBreak ∧ joinLines behind ≠ [] then
    some (drive, joinLines behind)
  else none

/-- Adds a segment without breaks to a path. The first one of a file may be a
drive letter, and is then written with a colon. -/
def add (scheme : Scheme) (path : List (List Char)) (segment : List Char) : List (List Char) :=
  let segment :=
    if scheme = .file ∧ path = [] ∧ isDrive segment then segment.take 1 ++ [':'] else segment
  path ++ [Percent.encode pathSet segment]

/-- Adds segments to a path, directory names resolved. A directory name
at the end leaves an empty segment. A drive letter that a break follows is
a segment of its own, and what follows it is then taken as it stands. -/
def resolve (scheme : Scheme) (path : List (List Char)) : List (List Char) → List (List Char)
  | [] => path
  | segment :: rest =>
    match if scheme = .file ∧ path = [] then cutDrive? segment else none with
    | some (drive, behind) => resolve scheme [drive, Percent.encode pathSet behind] rest
    | none =>
      let segment := joinLines segment
      if isUp segment then
        resolve scheme (shorten path ++ if rest = [] then [[]] else []) rest
      else if isHere segment then resolve scheme (path ++ if rest = [] then [[]] else []) rest
      else resolve scheme (add scheme path segment) rest

/-- Splits at every slash of a scheme. -/
def splitPath (scheme : Scheme) (cs : List Char) : List (List Char) :=
  splitAt '/' (cs.map fun c => if scheme.isSlash c then '/' else c)

/-- Cuts off the query and the fragment. -/
def cutTail (cs : List Char) : List Char × Option (List Char) :=
  let (front, tail) := cs.span (· ≠ '#')
  (front.takeWhile (· ≠ '?'), match tail with | [] => none | _ :: fragment => some fragment)

/-- The page of a path, given by its segments if it has some, and of a
fragment. -/
def ofParts (scheme : Scheme) (path : Option (List Char)) (fragment : Option (List Char)) : Page where
  segments :=
    match path with
    | none => []
    | some path => (resolve scheme [] (splitPath scheme path)).map String.ofList
  fragment := fragment.map fun f => String.ofList (Percent.encode fragmentSet (joinLines f))

/-- The page of the text behind the first slash of a path, with its tail. -/
def behindSlash (scheme : Scheme) (cs : List Char) : Page :=
  let (path, fragment) := cutTail cs
  ofParts scheme (some path) fragment

/-- The page of a path text with its tail. An opaque or empty path has no
segments. -/
def ofPath (scheme : Scheme) (cs : List Char) : Page :=
  match cs with
  | c :: rest =>
    if scheme.isSlash c then behindSlash scheme rest else ofParts scheme none (cutTail cs).2
  | [] => ofParts scheme none none

/-- Whether a text is a port number: digits of at most a 16-bit number. -/
def isPortNumber (cs : List Char) : Bool :=
  cs.all Char.isDigit && decide (Json.Numeral.digitsValue cs ≤ 0xFFFF)

/-- Splits an authority at the colon in front of the port number, if it
has one outside of brackets. -/
def cutNumber (bracketed : Bool) : List Char → List Char × Option (List Char)
  | [] => ([], none)
  | c :: rest =>
    if c = ':' ∧ !bracketed then ([], some rest)
    else
      let (host, number) :=
        cutNumber (if c = '[' then true else if c = ']' then false else bracketed) rest
      (c :: host, number)

/-- What stands behind the last at sign, and what stands in front of it if
there is one. -/
def cutCredentials (cs : List Char) : List Char × Option (List Char) :=
  let (behind, front) := cs.reverse.span (· ≠ '@')
  (behind.reverse, match front with | [] => none | _ :: front => some front.reverse)

/-- Whether there may be no host: the scheme is not special, no
credentials are given, and nothing follows an at sign that stands
alone. -/
def mayLackHost (special : Bool) (credentials : Option (List Char)) (last : Bool) : Bool :=
  !special &&
    match credentials with
    | none => true
    | some [] => last
    | some front => front = [':']

/-- Reads an authority with what follows it, and gives what of it belongs
to the path. Only a backslash behind the port number of a scheme that is
not special is in the path already. -/
def afterAuthority? (special : Bool) (authority rest : List Char) : Option (List Char) :=
  let (server, credentials) := cutCredentials authority
  let (host, number) := cutNumber false server
  if host = [] then
    if number.isNone && mayLackHost special credentials rest.isEmpty then some rest else none
  else if Host.isValid special host then
    match number with
    | none => some rest
    | some number =>
      let (digits, tail) := number.span (· ≠ '\\')
      if isPortNumber digits then some (if tail = [] then rest else '/' :: tail ++ rest) else none
  else none

/-- The page behind the two slashes of an authority. -/
def afterSlashes? (scheme : Scheme) (cs : List Char) : Option Page :=
  let (authority, rest) := cs.span fun c => !(scheme.isSlash c || c = '?' || c = '#')
  (afterAuthority? scheme.isSpecial authority rest).map fun path =>
    ofPath scheme
      (match path with
        | c :: _ => if scheme.isSpecial && !scheme.isSlash c then '/' :: path else path
        | [] => if scheme.isSpecial then ['/'] else [])

/-- The text behind the first slash, if it begins with one. -/
def dropSlash (cs : List Char) : List Char :=
  match joinLines cs with
  | c :: _ => if Scheme.file.isSlash c then skip 1 cs else cs
  | [] => cs

/-- The page of a file URL behind the two slashes of the host. A drive letter
in the place of the host belongs to the path; behind this machine the
slash in front of the path parts two segments. -/
def ofFileHost? (cs : List Char) : Option Page :=
  let host := (joinLines cs).takeWhile fun c => !(Scheme.file.isSlash c || c = '?' || c = '#')
  let tail := skip host.length cs
  if isDrive host then some (behindSlash .file cs)
  else if Host.isLocal host then some (behindSlash .file tail)
  else if Host.isValid true host then some (behindSlash .file (dropSlash tail))
  else none

/-- The page of a file URL behind the scheme. -/
def ofFile? (cs : List Char) : Option Page :=
  match joinLines cs with
  | a :: b :: _ =>
    if Scheme.file.isSlash a && Scheme.file.isSlash b then ofFileHost? (skip 2 cs)
    else some (behindSlash .file (dropSlash cs))
  | _ => some (behindSlash .file (dropSlash cs))

/-- Reads the page of an absolute URL. -/
def read? (url : String) : Option Page := do
  let whole := trim url.toList
  let text := joinLines whole
  let (name, rest) ← scheme? text
  match Scheme.ofName name with
  | .file => ofFile? (skip (text.length - rest.length) whole)
  | .special => afterSlashes? .special (rest.dropWhile Scheme.special.isSlash)
  | .other =>
    match rest with
    | '/' :: '/' :: rest => afterSlashes? .other rest
    | rest => some (ofPath .other rest)

end Page

end Url

end DebugClient
