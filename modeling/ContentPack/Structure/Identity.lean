import ContentPack.Content.Model
import ContentPack.Text.Quoted

/-!
# Identities and references

A `StructureId` says which structure is meant, whatever its version; the index of a subtopic is
part of its identity and of no other. A `Locator` says where a source of content keeps a structure.
A `Reference` pins a structure to one version.
-/

namespace ContentPack

/-- The kinds of versioned structures. -/
inductive Kind where
  /-- A topic. -/
  | topic
  /-- The page of a subtopic. -/
  | subtopic
  /-- A story. -/
  | story
  /-- An exploration. -/
  | exploration
  /-- A skill. -/
  | skill
  deriving DecidableEq, Repr, Inhabited

namespace Kind

/-- Every kind. -/
def all : List Kind := [topic, subtopic, story, exploration, skill]

/-- The name of a kind. -/
def name : Kind → String
  | topic => "topic"
  | subtopic => "subtopic"
  | story => "story"
  | exploration => "exploration"
  | skill => "skill"

/-- The kind with a name. -/
def ofName? (name : String) : Option Kind := all.find? (·.name == name)

end Kind

/-- The identity of a structure, apart from its version. -/
inductive StructureId where
  /-- A topic. -/
  | topic (id : String)
  /-- The page of a subtopic of a topic. -/
  | subtopic (topicId : String) (index : Int)
  /-- A story. -/
  | story (id : String)
  /-- An exploration. -/
  | exploration (id : String)
  /-- A skill. -/
  | skill (id : String)
  deriving DecidableEq, Repr, Inhabited

namespace StructureId

/-- The kind of the structure. -/
def kind : StructureId → Kind
  | topic _ => .topic
  | subtopic _ _ => .subtopic
  | story _ => .story
  | exploration _ => .exploration
  | skill _ => .skill

/-- What follows the kind in the text of an identity; pages are addressed by their topic and the
index of their subtopic. -/
def key : StructureId → String
  | topic id | story id | exploration id | skill id => id
  | subtopic topicId index => topicId ++ "/" ++ toString index

/-- The text of an identity. -/
def text (id : StructureId) : String := id.kind.name ++ ":" ++ id.key

/-- The identity made of a kind, an identifier and an index, which must be there exactly for a
subtopic. -/
def ofParts? (kind : Kind) (id : String) (index : Option Int) : Option StructureId :=
  match kind, index with
  | .topic, none => some (.topic id)
  | .subtopic, some index => some (.subtopic id index)
  | .story, none => some (.story id)
  | .exploration, none => some (.exploration id)
  | .skill, none => some (.skill id)
  | _, _ => none

end StructureId

/-- Where a source of content keeps a structure: under a key, apart from those of other kinds. -/
structure Locator where
  /-- The kind of the structure. -/
  kind : Kind
  /-- The key; that of a page holds the topic and the index of the subtopic. -/
  key : String
  deriving DecidableEq, Repr, Inhabited

/-- Where a source keeps the structure. -/
def StructureId.locator (id : StructureId) : Locator := ⟨id.kind, id.key⟩

/-- A structure pinned to one version. -/
structure Reference where
  /-- The structure. -/
  id : StructureId
  /-- The version. -/
  version : Version
  deriving DecidableEq, Repr, Inhabited

namespace Reference

/-- The text of a reference. -/
def text (r : Reference) : String := r.id.text ++ "@v" ++ toString r.version.number

/-- The same structure at another version. -/
def atVersion (r : Reference) (version : Version) : Reference := { r with version }

/-- The same structure one version earlier. -/
def previous? (r : Reference) : Option Reference := r.version.previous?.map r.atVersion

end Reference

end ContentPack
