import ContentPack.Compatibility.SchemaLimits
import ContentPack.Schema.Decoder

/-!
# Settings

The settings of the three parts: how content is fetched, how versions are resolved, and which
schema versions are understood. Each part is read from an object with exactly its fields.
-/

namespace ContentPack

/-- How content is fetched. -/
structure FetchSettings where
  /-- The base address of the content service. -/
  baseUrl : Option String := none
  /-- How long to wait for an answer, in seconds. -/
  requestTimeout : Binary64 := .ofInt 30
  /-- How often a request is attempted. -/
  maxRetries : Int := 3
  deriving Repr

/-- How versions are resolved. -/
structure ResolverSettings where
  /-- How many older versions are asked for together. -/
  versionFetchWindow : Int := 1
  /-- How many rounds a closure of skills may take. -/
  maxSkillClosureRounds : Int := 32
  /-- How many structures are resolved at once. -/
  maxConcurrentFetches : Int := 16
  deriving Repr

/-- The settings of all parts. -/
structure Settings where
  /-- How content is fetched. -/
  fetch : FetchSettings := {}
  /-- How versions are resolved. -/
  resolver : ResolverSettings := {}
  /-- Which schema versions are understood. -/
  compatibility : SchemaLimits := {}
  deriving Repr

/-! ### Reading -/

/-- A part of the settings: its name, the names of its fields and how they are read. -/
structure SettingsPart (α : Type) where
  /-- The name of the schema. -/
  name : String
  /-- The names of the fields. -/
  fields : List String
  /-- How the fields are read. -/
  decode : Table String Json → Checked α

namespace SettingsPart

open Decoder

/-- Read a part from an object. -/
def read {α : Type} (part : SettingsPart α) (j : Json) : Except Misfit α :=
  (closedModel part.fields part.decode).run part.name j

/-- How content is fetched. -/
def fetch : SettingsPart FetchSettings where
  name := "FetchSettings"
  fields := ["base_url", "request_timeout", "max_retries"]
  decode f :=
    let default : FetchSettings := {}
    FetchSettings.mk <$> withDefault "base_url" none (optional string) f <*>
      withDefault "request_timeout" default.requestTimeout number f <*>
      withDefault "max_retries" default.maxRetries integer f

/-- How versions are resolved. -/
def resolver : SettingsPart ResolverSettings where
  name := "ResolverSettings"
  fields := ["version_fetch_window", "max_skill_closure_rounds", "max_concurrent_fetches"]
  decode f :=
    let default : ResolverSettings := {}
    ResolverSettings.mk <$>
      withDefault "version_fetch_window" default.versionFetchWindow (integerAtLeast 1) f <*>
      withDefault "max_skill_closure_rounds" default.maxSkillClosureRounds (integerAtLeast 1) f <*>
      withDefault "max_concurrent_fetches" default.maxConcurrentFetches (integerAtLeast 1) f

/-- Which schema versions are understood. -/
def compatibility : SettingsPart SchemaLimits where
  name := "CompatibilitySettings"
  fields := ["max_topic_schema_version", "max_subtopic_page_schema_version",
    "max_story_schema_version", "max_exploration_schema_version", "max_skill_schema_version"]
  decode f :=
    let default : SchemaLimits := {}
    SchemaLimits.mk <$> withDefault "max_topic_schema_version" default.topic integer f <*>
      withDefault "max_subtopic_page_schema_version" default.page integer f <*>
      withDefault "max_story_schema_version" default.story integer f <*>
      withDefault "max_exploration_schema_version" default.exploration integer f <*>
      withDefault "max_skill_schema_version" default.skill integer f

end SettingsPart

end ContentPack
