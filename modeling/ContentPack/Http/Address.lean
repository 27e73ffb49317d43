import ContentPack.Http.Host
import ContentPack.Text.Digit

/-!
# Addresses

The addresses of a content service. `Address.parse?` reads the text of an address, `Address.text`
writes it, and `Address.target` is what is asked of the host. Segments `.` and `..` of a path are
resolved, and characters that cannot stand in a part of an address are written as percent escapes
of their bytes.
-/

namespace ContentPack.Http

/-! ### Paths -/

/-- Resolve one segment against those before it, which are given in reverse; the empty segment
before the first slash stays. -/
def resolveSegment (before : List (List Char)) (segment : List Char) : List (List Char) :=
  if segment = ['.'] then before
  else if segment = ['.', '.'] then
    (if before = [[]] then before else before.drop 1)
  else segment :: before

/-- A path without segments `.` and `..`. -/
def normalizePath (path : List Char) : List Char :=
  ['/'].intercalate ((Text.splitOn '/' path).foldl resolveSegment []).reverse

/-! ### The parts of a text -/

/-- The parts of the text of an address, of which any may be absent. -/
structure AddressParts where
  /-- The scheme, before the first colon. -/
  scheme : List Char := []
  /-- The authority, between two slashes and the path. -/
  authority : List Char := []
  /-- The path. -/
  path : List Char := []
  /-- The query, after a question mark. -/
  query : Option (List Char) := none
  /-- The fragment, after a number sign. -/
  fragment : Option (List Char) := none
  deriving DecidableEq, Repr

namespace AddressParts

/-- A scheme starts with a letter and goes on with letters, digits, `+`, `.` and `-`. -/
def isScheme : List Char → Bool
  | [] => false
  | c :: cs => c.isAlpha && cs.all fun c => c.isAlphanum || ['+', '.', '-'].contains c

/-- Split off a scheme. A colon at the start ends an empty one. -/
def splitScheme (cs : List Char) : List Char × List Char :=
  match Text.cut ':' cs with
  | (name, some rest) => if name.isEmpty || isScheme name then (name, rest) else ([], cs)
  | (_, none) => ([], cs)

/-- Split off an authority. -/
def splitAuthority (cs : List Char) : List Char × List Char :=
  match cs with
  | '/' :: '/' :: rest =>
    let authority := rest.takeWhile fun c => !(['/', '?'].contains c)
    (authority, rest.drop authority.length)
  | _ => ([], cs)

/-- The parts of a text. -/
def ofText (cs : List Char) : AddressParts :=
  let (cs, fragment) := Text.cut '#' cs
  let (scheme, rest) := splitScheme cs
  let (authority, rest) := splitAuthority rest
  let (path, query) := Text.cut '?' rest
  { scheme, authority, path, query, fragment }

/-- The user of an authority, its host, and what follows the host behind a colon; a host may stand
in brackets. -/
def splitHost (authority : List Char) : List Char × List Char × List Char :=
  let (user, place) := Text.cutLast '@' authority
  let (host, rest) :=
    match place, Text.cutLast ']' place with
    | '[' :: _, (some inside, after) => (inside ++ [']'], after)
    | _, _ => (place.takeWhile (· != ':'), place.dropWhile (· != ':'))
  (user.getD [], host, if rest.head? = some ':' then rest.drop 1 else rest)

/-- The port that is meant when a scheme says nothing else. -/
def defaultPort (scheme : List Char) : Option Int :=
  match String.ofList scheme with
  | "ftp" => some 21
  | "http" | "ws" => some 80
  | "https" | "wss" => some 443
  | _ => none

/-- The port that a text says, if it says one: nothing for an empty text and for the port that is
meant anyway. -/
def readPort? (scheme port : List Char) : Option (Option Int) :=
  if port.isEmpty then some none
  else (Text.readInteger? port).map fun n => if defaultPort scheme = some n then none else some n

end AddressParts

/-! ### Addresses -/

/-- An address. -/
structure Address where
  /-- The scheme, in small letters; an address without one is relative. -/
  scheme : List Char := []
  /-- The name of a user, perhaps with a password. -/
  user : List Char := []
  /-- The host; one with colons is written in brackets. -/
  host : List Char := []
  /-- The port, unless the scheme says it. -/
  port : Option Int := none
  /-- The path. -/
  path : List Char := []
  /-- The query. -/
  query : Option (List Char) := none
  /-- The fragment. -/
  fragment : Option (List Char) := none
  deriving DecidableEq, Repr

/-- The longest text of an address and of each of its parts. -/
def Address.maxLength : Nat := 65536

namespace AddressParts

/-- After an authority a path starts with a slash; without a scheme and an authority it does not
start with two slashes or a colon. -/
def isPath (hasScheme hasAuthority : Bool) (path : List Char) : Bool :=
  if hasAuthority then path.isEmpty || ['/'].isPrefixOf path
  else hasScheme || !(['/', '/'].isPrefixOf path || [':'].isPrefixOf path)

/-- The address with some parts, if they can make one. The path is resolved unless it stands
alone. -/
def address? (p : AddressParts) : Option Address := do
  let parts := [p.scheme, p.authority, p.path, p.query.getD [], p.fragment.getD []]
  guard (parts.all fun part => part.length ≤ Address.maxLength)
  let (user, host, port) := splitHost p.authority
  let host ← Host.encode? host
  let port ← readPort? p.scheme port
  let hasAuthority := !user.isEmpty || !host.isEmpty || port.isSome
  guard (isPath (!p.scheme.isEmpty) hasAuthority p.path)
  let path := if p.scheme.isEmpty && !hasAuthority then p.path else normalizePath p.path
  return {
    scheme := p.scheme.map Char.toLower
    user := escape isUserChar user
    host, port
    path := escape isPathChar path
    query := p.query.map (escape isQueryChar)
    fragment := p.fragment.map (escape isFragmentChar) }

end AddressParts

namespace Address

/-- A text of bounded length without control characters. -/
def isAllowed (cs : List Char) : Bool :=
  cs.length ≤ maxLength && cs.all fun c => ' ' ≤ c && c != '\x7f'

/-- The address that a text denotes. -/
def parse? (cs : List Char) : Option Address :=
  if isAllowed cs then (AddressParts.ofText cs).address? else none

/-- The text of the authority. -/
def authority (a : Address) : List Char :=
  (if a.user.isEmpty then [] else a.user ++ ['@']) ++
    (if a.host.contains ':' then '[' :: a.host ++ [']'] else a.host) ++
    (match a.port with
      | some n => ':' :: (toString n).toList
      | none => [])

/-- The parts of an address. -/
def parts (a : Address) : AddressParts :=
  { scheme := a.scheme, authority := a.authority, path := a.path, query := a.query
    fragment := a.fragment }

/-- What is asked of the host: the path, or a slash, and the query. -/
def target (a : Address) : List Char :=
  (if a.path.isEmpty then ['/'] else a.path) ++
    match a.query with
    | some query => '?' :: query
    | none => []

/-- The text of an address. -/
def text (a : Address) : List Char :=
  (if a.scheme.isEmpty then [] else a.scheme ++ [':']) ++
    (if a.authority.isEmpty then [] else '/' :: '/' :: a.authority) ++ a.path ++
    (match a.query with
      | some query => '?' :: query
      | none => []) ++
    (match a.fragment with
      | some fragment => '#' :: fragment
      | none => [])

/-- The address has a scheme and a host. -/
def isAbsolute (a : Address) : Bool := !a.scheme.isEmpty && !a.host.isEmpty

/-- The text starts with what can be taken for a scheme. -/
def seemsSchemed (a : Address) : Bool :=
  let start := a.text.takeWhile fun c => c != '/' && c != ':'
  !start.isEmpty && a.text[start.length]? == some ':'

/-- A request can be sent to the host. -/
def checkHost (a : Address) : Except AddressFault Unit := Host.check a.host

/-- The address at another host. -/
def withHost? (a : Address) (host : List Char) : Option Address :=
  ({ a with host } : Address).parts.address?

/-- The address with another path and query. -/
def withTarget? (a : Address) (target : List Char) : Option Address :=
  let (path, query) := Text.cut '?' target
  { a.parts with path, query : AddressParts }.address?

/-- The address of a folder: its target ends with a slash. -/
def folder? (a : Address) : Option Address :=
  if a.target.getLast? = some '/' then some a else a.withTarget? (a.target ++ ['/'])

/-- The address of something below a folder. -/
def below? (folder : Address) (path : List Char) : Option Address := do
  let a ← parse? path
  if a.isAbsolute then return a
  folder.withTarget? (folder.target ++ a.target.dropWhile (· == '/'))

/-- The address with versions as the values of the query. -/
def withVersions (a : Address) (versions : List Int) : Address :=
  { a with
    query := some (['&'].intercalate (versions.map fun v => ("v=" ++ toString v).toList)) }

end Address

end ContentPack.Http
