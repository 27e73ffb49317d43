import ContentPack.Content.Model
import ContentPack.Json.Basic

/-!
# Summaries of packs

What is told of a pack: its topic, its language, and the versions of its parts by their keys.
-/

namespace ContentPack

/-- The versions of the parts of a group by their keys. -/
def versionsByKey {κ ν : Type} (key : κ → String) (version : ν → Version) (table : Table κ ν) :
    Json :=
  .obj (table.map fun (k, value) => (key k, .int (version value).toInt))

/-- The summary of a pack. -/
def TopicPack.summary (p : TopicPack) : Json :=
  .obj [("topic_id", .str p.topic.id), ("topic_version", .int p.topic.version.toInt),
    ("default_language", .str p.defaultLanguage.code),
    ("subtopic_pages", versionsByKey toString SubtopicPage.version p.subtopicPages),
    ("stories", versionsByKey id Story.version p.stories),
    ("explorations", versionsByKey id CompleteExploration.version p.explorations),
    ("skills", versionsByKey id Skill.version p.skills)]

end ContentPack
