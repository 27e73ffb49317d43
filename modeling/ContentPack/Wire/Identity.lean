import ContentPack.Wire.Fault

/-!
# Identities and references on the wire

An identity is an object with a kind, an identifier and, for the page of a subtopic, an index. A
reference also has a version, and perhaps the declared subtopic of a page.
-/

namespace ContentPack.Wire

/-- The text of a field; without the field it is empty. -/
def textField (j : Json) (name : String) : String := text (field name j)

/-- The items of a field. -/
def itemsField (j : Json) (name : String) : List Json := items (field name j)

/-- The whole number of a field. -/
def wholeField? (j : Json) (name : String) : Option Int := (field? name j).map whole

/-- An identity. -/
def readId (j : Json) : Reading StructureId :=
  match Kind.ofName? (textField j "kind") with
  | none => .error (.named "ValueError")
  | some kind =>
    let index := wholeField? j "index"
    match StructureId.ofParts? kind (textField j "id") index with
    | some id => .ok id
    | none => misused (.indexMismatch kind (textField j "id") index)

/-- The declared subtopic beside something; a value that is empty is none. -/
def readSubtopic (j : Json) : Reading (Option Subtopic) :=
  match (field? "subtopic" j).filter (!·.isEmptyValue) with
  | none => .ok none
  | some s => (orMisfit (Schema.subtopic.run "Subtopic" s)).map some

/-- A reference with the subtopic beside it. -/
def readPinned (j : Json) : Reading (Reference × Option Subtopic) := do
  let id ← readId j
  let subtopic ← readSubtopic j
  let n := whole (field "version" j)
  match Version.ofInt? n with
  | some v => return (⟨id, v⟩, subtopic)
  | none => misused (.versionBelowOne n id)

/-- The title of a declared subtopic. -/
def title (s : Option Subtopic) : Json := optional (fun s => .str s.title) s

end ContentPack.Wire
