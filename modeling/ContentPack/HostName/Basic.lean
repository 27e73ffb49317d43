import ContentPack.HostName.Label

/-!
# Names of hosts

The name of a host is made of labels with points between them; a point may stand at its end.
`HostName.encode` writes a name in ASCII, and `HostName.check` finds out whether one in ASCII can be
read.
-/

namespace ContentPack.HostName

/-- The points of all scripts. -/
def points : List Char := ['.', '\u3002', '\uFF0E', '\uFF61']

/-- The labels of a name. -/
def labels : List Char → List (List Char)
  | [] => [[]]
  | c :: cs =>
    if points.contains c then [] :: labels cs
    else match labels cs with
      | label :: rest => (c :: label) :: rest
      | [] => [[c]]

/-- The labels of a name that is not too long, and whether a point stands at its end. -/
def split (name : List Char) : Except HostFault (List (List Char) × Bool) :=
  let all := labels name
  if Label.maxName < name.length || all == [[]] then .error .form
  else if all.getLast? == some [] then .ok (all.dropLast, true)
  else .ok (all, false)

/-- A name in ASCII. -/
def encode (name : List Char) : Except HostFault (List Char) := do
  let (labels, hasEnd) ← split name
  let encoded ← labels.mapM Label.encode
  let encoded := ['.'].intercalate (encoded ++ if hasEnd then [[]] else [])
  if encoded.length < Label.maxName + (if hasEnd then 1 else 0) then return encoded else throw .form

/-- All labels of a name can be read. -/
def check (name : List Char) : Except HostFault Unit := do
  let (labels, _) ← split name
  labels.forM Label.checkEither

end ContentPack.HostName
