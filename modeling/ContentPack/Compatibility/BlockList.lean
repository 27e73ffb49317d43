import ContentPack.Compatibility.Checker

/-!
# Block lists

A block list names versions of structures that must not be used, each with its reasons. A structure
gets the reasons of every entry that covers its version, in the order of the list.
-/

namespace ContentPack

/-- Versions of one structure that must not be used. -/
structure BlockedVersions where
  /-- The kind of the structure. -/
  kind : String
  /-- The identifier of the structure; a page has that of its topic and its index. -/
  id : String
  /-- The blocked versions; nothing blocks every version. -/
  versions : Option (List Int) := none
  /-- The reasons. -/
  reasons : List String
  deriving DecidableEq, Repr

namespace BlockedVersions

/-- The entry covers a version of a structure. -/
def covers (entry : BlockedVersions) (kind : Kind) (id : String) (version : Version) : Bool :=
  entry.kind == kind.name && entry.id == id &&
    match entry.versions with
    | none => true
    | some versions => versions.contains version.toInt

/-- The verdict of a block list on one version of a structure. -/
def verdict (entries : List BlockedVersions) (kind : Kind) (id : String) (version : Version) :
    Verdict :=
  .ofReasons <| (entries.filter (·.covers kind id version)).flatMap fun entry =>
    entry.reasons.map fun reason =>
      { kind := kind.name, structureId := id, version := some version.toInt, reason }

/-- The checker of a block list. -/
def checker (entries : List BlockedVersions) : Checker where
  topic t := verdict entries .topic t.id t.version
  page p _ :=
    verdict entries .subtopic (StructureId.subtopic p.topicId p.subtopicIndex).key p.version
  story s := verdict entries .story s.id s.version
  exploration e := verdict entries .exploration e.id e.version
  skill s := verdict entries .skill s.id s.version

end BlockedVersions

end ContentPack
