import ContentPack.Wire.Fault

/-!
# Settings on the wire

How the variables of a process are read, and how settings are handed to other programs: one object
for every part, with all of its fields.
-/

namespace ContentPack.Wire

/-! ### Variables -/

/-- A variable that a process can have. -/
def readVariable : String × Json → Reading (String × String)
  | (name, .str value) =>
    if name.isEmpty then .error (.named "OSError")
    else if EnvFile.isSettable name value then .ok (name, value)
    else .error (settingsFault .unsettable)
  | _ => .error (.named "TypeError")

/-- The variables of a process. -/
def readEnvironment (j : Json) : Reading Environment := (entries j).mapM readVariable

/-! ### Settings -/

/-- How content is fetched. -/
def fetchSettings (s : FetchSettings) : Json :=
  .obj [("base_url", optional .str s.baseUrl), ("request_timeout", .real s.requestTimeout),
    ("max_retries", .int s.maxRetries)]

/-- How versions are resolved. -/
def resolverSettings (s : ResolverSettings) : Json :=
  .obj [("version_fetch_window", .int s.versionFetchWindow),
    ("max_skill_closure_rounds", .int s.maxSkillClosureRounds),
    ("max_concurrent_fetches", .int s.maxConcurrentFetches)]

/-- Which schema versions are understood. -/
def schemaLimits (s : SchemaLimits) : Json :=
  .obj [("max_topic_schema_version", .int s.topic),
    ("max_subtopic_page_schema_version", .int s.page),
    ("max_story_schema_version", .int s.story),
    ("max_exploration_schema_version", .int s.exploration),
    ("max_skill_schema_version", .int s.skill)]

/-- The settings of all parts. -/
def settings (s : Settings) : Json :=
  .obj [("fetch", fetchSettings s.fetch), ("resolver", resolverSettings s.resolver),
    ("compatibility", schemaLimits s.compatibility)]

end ContentPack.Wire
