import ContentPack.Http.Address

/-!
# References

A reference is read at a place, the address of a document: it says how to get from there to another
address (`Reference.join?`). A redirection leads to the address that a reference denotes at the
address that was asked (`Address.redirectedFrom`).

Only schemes with paths of segments have relative references, and only some schemes have hosts or
parameters; parameters follow the last segment of a path behind a semicolon.
-/

namespace ContentPack.Http

/-! ### Schemes -/

/-- The schemes that have relative references. -/
def relativeSchemes : List String :=
  ["", "ftp", "http", "gopher", "nntp", "imap", "wais", "file", "https", "shttp", "mms", "prospero",
    "rtsp", "rtsps", "rtspu", "sftp", "svn", "svn+ssh", "ws", "wss"]

/-- The schemes that have hosts. -/
def hostSchemes : List String :=
  ["", "ftp", "http", "gopher", "nntp", "telnet", "imap", "wais", "file", "mms", "https", "shttp",
    "snews", "prospero", "rtsp", "rtsps", "rtspu", "rsync", "svn", "svn+ssh", "sftp", "nfs", "git",
    "git+ssh", "ws", "wss"]

/-- The schemes that have parameters. -/
def parameterSchemes : List String :=
  ["", "ftp", "hdl", "prospero", "http", "imap", "https", "shttp", "rtsp", "rtsps", "rtspu", "sip",
    "sips", "mms", "sftp", "tel"]

/-- A scheme is among some. -/
def isOneOf (schemes : List String) (scheme : List Char) : Bool :=
  schemes.contains (String.ofList scheme)

/-! ### References -/

/-- The parts of a reference; what is absent is empty. -/
structure Reference where
  /-- The scheme. -/
  scheme : List Char := []
  /-- The authority. -/
  authority : List Char := []
  /-- The path without the parameters. -/
  path : List Char := []
  /-- The parameters of the last segment. -/
  parameters : List Char := []
  /-- The query. -/
  query : List Char := []
  /-- The fragment. -/
  fragment : List Char := []
  deriving DecidableEq, Repr

namespace Reference

/-- Split off the parameters of the last segment. -/
def splitParameters (path : List Char) : List Char × List Char :=
  let last := path.reverse.takeWhile (· != '/') |>.reverse
  match Text.cut ';' last with
  | (segment, some parameters) =>
    (path.take (path.length - last.length) ++ segment, parameters)
  | (_, none) => (path, [])

/-- The parts of a text, which has a certain scheme if it does not say another one. -/
def ofText (scheme cs : List Char) : Reference :=
  let (scheme, rest) := match Text.cut ':' cs with
    | (name, some rest) =>
      if AddressParts.isScheme name then (name.map Char.toLower, rest) else (scheme, cs)
    | (_, none) => (scheme, cs)
  let (authority, rest) := match rest with
    | '/' :: '/' :: rest =>
      let authority := rest.takeWhile fun c => !(['/', '?', '#'].contains c)
      (authority, rest.drop authority.length)
    | _ => ([], rest)
  let (rest, fragment) := Text.cut '#' rest
  let (path, query) := Text.cut '?' rest
  let (path, parameters) :=
    if isOneOf parameterSchemes scheme then splitParameters path else (path, [])
  { scheme, authority, path, parameters, query := query.getD [], fragment := fragment.getD [] }

/-- A mark and a part, unless the part is empty. -/
def marked (mark : Char) (part : List Char) : List Char := if part.isEmpty then [] else mark :: part

/-- The text of a reference. A host makes a path start with a slash. -/
def text (r : Reference) : List Char :=
  let path := r.path ++ marked ';' r.parameters
  let path :=
    if !r.authority.isEmpty || (!r.scheme.isEmpty && isOneOf hostSchemes r.scheme) ||
        ['/', '/'].isPrefixOf path then
      '/' :: '/' :: r.authority ++
        (if path.isEmpty || ['/'].isPrefixOf path then path else '/' :: path)
    else path
  (if r.scheme.isEmpty then [] else r.scheme ++ [':']) ++ path ++ marked '?' r.query ++
    marked '#' r.fragment

/-! ### Authorities -/

/-- What may stand in the brackets of an authority: eight groups, or a form that is still to come,
which has a number behind a `v` and a point after it. -/
def isBracketed (cs : List Char) : Bool :=
  match cs with
  | 'v' :: rest =>
    match Text.cut '.' rest with
    | (number, some form) => !number.isEmpty && number.all Host.isHexDigit && !form.isEmpty
    | _ => false
  | cs => Host.isGroups cs

/-- If an authority has brackets, both are there, and what the first ones hold may stand there. -/
def isAuthority (authority : List Char) : Bool :=
  match Text.cut '[' authority with
  | (_, some rest) => authority.contains ']' && isBracketed (Text.cut ']' rest).1
  | (_, none) => !authority.contains ']'

/-! ### Joining -/

/-- The segments of the folder of a path: without the part after the last slash. -/
def folder (path : List Char) : List (List Char) :=
  let segments := Text.splitOn '/' path
  if segments.getLast? = some [] then segments else segments.dropLast

/-- Resolve a segment against those before it, which are given in reverse. -/
def climb (before : List (List Char)) (segment : List Char) : List (List Char) :=
  if segment = ['.', '.'] then before.drop 1
  else if segment = ['.'] then before
  else segment :: before

/-- Without the empty pieces between the first and the last. -/
def dropInnerEmpty : List (List Char) → List (List Char)
  | [] => []
  | first :: rest =>
    first :: (rest.dropLast.filter (!·.isEmpty) ++ rest.drop (rest.length - 1))

/-- A path relative to another one. -/
def joinPath (base path : List Char) : List Char :=
  let segments :=
    if ['/'].isPrefixOf path then Text.splitOn '/' path
    else dropInnerEmpty (folder base ++ Text.splitOn '/' path)
  let resolved := (segments.foldl climb []).reverse
  let ending := match segments.getLast? with
    | some ['.'] | some ['.', '.'] => [[]]
    | _ => []
  let joined := ['/'].intercalate (resolved ++ ending)
  if joined.isEmpty then ['/'] else joined

/-- The text of the address that a reference denotes at a place. -/
def joinTo (base r : Reference) (reference : List Char) : List Char :=
  if r.scheme ≠ base.scheme || !isOneOf relativeSchemes r.scheme then reference
  else if isOneOf hostSchemes r.scheme && !r.authority.isEmpty then r.text
  else
    let authority := if isOneOf hostSchemes r.scheme then base.authority else r.authority
    if r.path.isEmpty && r.parameters.isEmpty then
      text { r with
        authority, path := base.path, parameters := base.parameters
        query := if r.query.isEmpty then base.query else r.query }
    else text { r with authority, path := joinPath base.path r.path }

/-- The text of the address that the text of a reference denotes at the text of a place, unless the
authority of one of them is none. -/
def join? (place reference : List Char) : Option (List Char) :=
  if place.isEmpty then some reference
  else if reference.isEmpty then some place
  else
    let base := ofText [] place
    let r := ofText base.scheme reference
    if isAuthority base.authority && isAuthority r.authority then some (joinTo base r reference)
    else none

end Reference

/-! ### Redirections -/

namespace Address

/-- The address that a redirection to another one leads to from a place. With a scheme but no host
it keeps the host, and without either it is a reference. -/
def redirectedFrom (next place : Address) : Except AddressFault Address := do
  let some next :=
    if !next.scheme.isEmpty && next.host.isEmpty then next.withHost? place.host else some next
    | throw .malformed
  let address ←
    if next.isAbsolute then pure next
    else
      let some text := Reference.join? place.text next.text | throw .brackets
      let some address := parse? text | throw .malformed
      pure address
  address.checkHost
  return address

end Address

end ContentPack.Http
