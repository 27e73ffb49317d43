import ContentPack.Content.Loaded
import ContentPack.Schema.Decoder

/-!
# Schemas of content

The schema of every structure: the names of its fields, which of them must be there, and the values
of the others when they are absent. `readDocument` reads what is served for a kind.
-/

namespace ContentPack.Schema

open Decoder

/-- A list of identifiers that may be absent. -/
def identifiers (name : String) (fields : Table String Json) : Checked (List String) :=
  withDefault name [] (list string) fields

/-- A text that may be absent. -/
def text (name : String) (fields : Table String Json) : Checked String :=
  withDefault name "" string fields

/-- The code of the language, English when it is absent. -/
def languageCode (fields : Table String Json) : Checked String :=
  withDefault "language_code" "en" string fields

/-- The version of the schema, one when it is absent. -/
def schemaVersion (fields : Table String Json) : Checked Int :=
  withDefault "schema_version" 1 integer fields

/-- Exactly the code of a language. -/
def languageOfCode (code : String) : Except Problem Language :=
  match Language.withCode? code with
  | some language => .ok language
  | none => .error .enumValue

/-- A language by its code. -/
def language : Decoder Language
  | .str code => (Checked.valid code).refine languageOfCode
  | _ => .problem .enumValue

/-- A reason for a rejection. -/
def rejection : Decoder Rejection := model fun f =>
  Rejection.mk <$> required "kind" string f <*> required "structure_id" string f <*>
    withDefault "version" none (optional integer) f <*> required "reason" string f

/-- A declared subtopic. -/
def subtopic : Decoder Subtopic := model fun f =>
  Subtopic.mk <$> required "id" integer f <*> text "title" f <*> identifiers "skill_ids" f <*>
    withDefault "url_fragment" none (optional string) f

/-- A topic. -/
def topic : Decoder Topic := model fun f =>
  Topic.mk <$> required "id" string f <*> required "version" version f <*> text "name" f <*>
    text "description" f <*> languageCode f <*> schemaVersion f <*>
    withDefault "subtopics" [] (list subtopic) f <*> identifiers "canonical_story_ids" f <*>
    identifiers "additional_story_ids" f <*> identifiers "uncategorized_skill_ids" f

/-- The page of a subtopic. -/
def subtopicPage : Decoder SubtopicPage := model fun f =>
  SubtopicPage.mk <$> required "topic_id" string f <*> required "subtopic_index" integer f <*>
    required "version" version f <*> languageCode f <*> schemaVersion f <*>
    text "page_contents_html" f

/-- A chapter of a story. -/
def chapter : Decoder Chapter := model fun f =>
  Chapter.mk <$> required "id" string f <*> text "title" f <*> text "description" f <*>
    withDefault "exploration_id" none (optional string) f <*>
    identifiers "prerequisite_skill_ids" f <*> identifiers "acquired_skill_ids" f

/-- A story. -/
def story : Decoder Story := model fun f =>
  Story.mk <$> required "id" string f <*> required "version" version f <*> text "title" f <*>
    text "description" f <*> languageCode f <*> schemaVersion f <*>
    withDefault "nodes" [] (list chapter) f

/-- A card of an exploration. -/
def card : Decoder Card := model fun f =>
  Card.mk <$> text "content_html" f <*>
    withDefault "linked_skill_id" none (optional string) f <*>
    identifiers "tagged_skill_misconception_ids" f

/-- An exploration. -/
def exploration : Decoder Exploration := model fun f =>
  Exploration.mk <$> required "id" string f <*> required "version" version f <*>
    text "title" f <*> languageCode f <*> schemaVersion f <*>
    withDefault "states" [] (table anyKey card) f

/-- The translations of an exploration into one language. -/
def translation : Decoder Translation := model fun f =>
  Translation.mk <$> required "exploration_id" string f <*> required "version" integer f <*>
    required "language_code" string f <*>
    withDefault "translations" [] (table anyKey string) f

/-- An exploration with its translations. -/
def completeExploration : Decoder CompleteExploration := model fun f =>
  CompleteExploration.mk <$> required "exploration" exploration f <*>
    withDefault "translations" [] (table languageOfCode translation) f

/-- A skill. -/
def skill : Decoder Skill := model fun f =>
  Skill.mk <$> required "id" string f <*> required "version" version f <*>
    text "description" f <*> languageCode f <*> schemaVersion f <*>
    text "explanation_html" f <*> identifiers "worked_examples" f <*>
    identifiers "prerequisite_skill_ids" f

/-- A complete pack. -/
def topicPack : Decoder TopicPack := model fun f =>
  TopicPack.mk <$> required "topic" topic f <*>
    required "subtopic_pages" (table numeral subtopicPage) f <*>
    required "stories" (table anyKey story) f <*>
    required "explorations" (table anyKey completeExploration) f <*>
    required "referenced_skills" (table anyKey skill) f <*>
    required "default_language" language f

/-! ### Served structures -/

/-- The name of the schema of what is served for a kind of structure. -/
def documentName : Kind → String
  | .topic => "Topic"
  | .subtopic => "SubtopicPage"
  | .story => "Story"
  | .exploration => "Exploration"
  | .skill => "Skill"

/-- The decoder of what is served for a kind of structure. -/
def documentDecoder : Kind → Decoder Document
  | .topic => fun j => (topic j).map .topic
  | .subtopic => fun j => (subtopicPage j).map .page
  | .story => fun j => (story j).map .story
  | .exploration => fun j => (exploration j).map .exploration
  | .skill => fun j => (skill j).map .skill

/-- Read what is served for a kind of structure. -/
def readDocument (kind : Kind) (j : Json) : Except Misfit Document :=
  (documentDecoder kind).run (documentName kind) j

/-- The name of the schema of translations. -/
def translationName : String := "ExplorationTranslation"

/-- Read the translations of an exploration into one language. -/
def readTranslation (j : Json) : Except Misfit Translation := translation.run translationName j

end ContentPack.Schema
