import ContentPack.Compatibility.Checker

/-!
# Limits on schema versions

An application understands the schema of each kind of structure up to some version. `SchemaLimits`
holds these versions, and `SchemaLimits.checker` rejects what is newer, what is written in a
language that is not supported, and pages that do not belong to the subtopic that declares them.
Skills and pages may be in any language.
-/

namespace ContentPack

/-- The newest schema version that is understood, for each kind. -/
structure SchemaLimits where
  /-- Of topics. -/
  topic : Int := 4
  /-- Of pages. -/
  page : Int := 4
  /-- Of stories. -/
  story : Int := 5
  /-- Of explorations. -/
  exploration : Int := 55
  /-- Of skills. -/
  skill : Int := 4
  deriving DecidableEq, Repr

namespace SchemaLimits

/-- A reason about one version of a structure. -/
def reject (kind : Kind) (id : String) (version : Version) (reason : String) : Rejection :=
  { kind := kind.name, structureId := id, version := some version.toInt, reason }

/-- The reason to reject a schema version above its limit. -/
def schemaReasons (kind : Kind) (id : String) (version : Version) (schema limit : Int) :
    List Rejection :=
  if schema ≤ limit then []
  else
    [reject kind id version
      ("Unsupported schema version " ++ toString schema ++ " (max " ++ toString limit ++ ").")]

/-- The reason to reject a language that is not supported. -/
def languageReasons (kind : Kind) (id : String) (version : Version) (code : String) :
    List Rejection :=
  if Language.ofCode code = .unspecified then
    [reject kind id version ("Unsupported language code '" ++ code ++ "'.")]
  else []

/-- The reason to reject a page that the declared subtopic does not expect. -/
def declarationReasons (page : SubtopicPage) (id : String) (subtopic : Option Subtopic) :
    List Rejection :=
  match subtopic with
  | none => [reject .subtopic id page.version "Topic does not declare this subtopic."]
  | some declared =>
    if declared.id = page.subtopicIndex then []
    else
      [reject .subtopic id page.version
        ("Page belongs to subtopic " ++ toString page.subtopicIndex ++ ", expected " ++
          toString declared.id ++ ".")]

/-- The checker with these limits. -/
def checker (limits : SchemaLimits) : Checker where
  topic t := .ofReasons <|
    schemaReasons .topic t.id t.version t.schemaVersion limits.topic ++
      languageReasons .topic t.id t.version t.languageCode
  page p subtopic :=
    let id := (StructureId.subtopic p.topicId p.subtopicIndex).key
    .ofReasons <|
      schemaReasons .subtopic id p.version p.schemaVersion limits.page ++
        declarationReasons p id subtopic
  story s := .ofReasons <|
    schemaReasons .story s.id s.version s.schemaVersion limits.story ++
      languageReasons .story s.id s.version s.languageCode
  exploration c :=
    let e := c.exploration
    .ofReasons <|
      schemaReasons .exploration e.id e.version e.schemaVersion limits.exploration ++
        languageReasons .exploration e.id e.version e.languageCode
  skill s := .ofReasons <|
    schemaReasons .skill s.id s.version s.schemaVersion limits.skill

end SchemaLimits

end ContentPack
