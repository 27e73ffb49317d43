import ContentPack.Content.Loaded
import ContentPack.Fragment

/-!
# Content on the wire

How structures are handed to other programs as JSON. An object has all fields of its structure. A
table is a list of pairs, so that the order of its keys is part of the value.
-/

namespace ContentPack.Wire

/-- A list of texts. -/
def texts (xs : List String) : Json := .arr (xs.map .str)

/-- A value, or `null`. -/
def optional {α : Type} (write : α → Json) : Option α → Json
  | some value => write value
  | none => .null

/-- A table as a list of pairs. -/
def table {κ ν : Type} (key : κ → Json) (value : ν → Json) (t : Table κ ν) : Json :=
  .arr (t.map fun (k, v) => .arr [key k, value v])

/-- A version. -/
def version (v : Version) : Json := .int v.toInt

/-- A declared subtopic. -/
def subtopic (s : Subtopic) : Json :=
  .obj [("id", .int s.id), ("title", .str s.title), ("skill_ids", texts s.skillIds),
    ("url_fragment", optional .str s.urlFragment)]

/-- A topic. -/
def topic (t : Topic) : Json :=
  .obj [("id", .str t.id), ("version", version t.version), ("name", .str t.name),
    ("description", .str t.description), ("language_code", .str t.languageCode),
    ("schema_version", .int t.schemaVersion), ("subtopics", .arr (t.subtopics.map subtopic)),
    ("canonical_story_ids", texts t.canonicalStoryIds),
    ("additional_story_ids", texts t.additionalStoryIds),
    ("uncategorized_skill_ids", texts t.uncategorizedSkillIds)]

/-- The page of a subtopic. -/
def page (p : SubtopicPage) : Json :=
  .obj [("topic_id", .str p.topicId), ("subtopic_index", .int p.subtopicIndex),
    ("version", version p.version), ("language_code", .str p.languageCode),
    ("schema_version", .int p.schemaVersion), ("page_contents_html", .str p.contents)]

/-- A chapter of a story. -/
def chapter (c : Chapter) : Json :=
  .obj [("id", .str c.id), ("title", .str c.title), ("description", .str c.description),
    ("exploration_id", optional .str c.explorationId),
    ("prerequisite_skill_ids", texts c.prerequisiteSkillIds),
    ("acquired_skill_ids", texts c.acquiredSkillIds)]

/-- A story. -/
def story (s : Story) : Json :=
  .obj [("id", .str s.id), ("version", version s.version), ("title", .str s.title),
    ("description", .str s.description), ("language_code", .str s.languageCode),
    ("schema_version", .int s.schemaVersion), ("nodes", .arr (s.chapters.map chapter))]

/-- A card of an exploration. -/
def card (c : Card) : Json :=
  .obj [("content_html", .str c.content), ("linked_skill_id", optional .str c.linkedSkillId),
    ("tagged_skill_misconception_ids", texts c.misconceptionTags)]

/-- An exploration. -/
def exploration (e : Exploration) : Json :=
  .obj [("id", .str e.id), ("version", version e.version), ("title", .str e.title),
    ("language_code", .str e.languageCode), ("schema_version", .int e.schemaVersion),
    ("states", table .str card e.cards)]

/-- The translations of an exploration into one language. -/
def translation (t : Translation) : Json :=
  .obj [("exploration_id", .str t.explorationId), ("version", .int t.version),
    ("language_code", .str t.languageCode), ("translations", table .str .str t.texts)]

/-- A language. -/
def language (l : Language) : Json := .str l.code

/-- An exploration with its translations. -/
def completeExploration (c : CompleteExploration) : Json :=
  .obj [("exploration", exploration c.exploration),
    ("translations", table language translation c.translations)]

/-- A skill. -/
def skill (s : Skill) : Json :=
  .obj [("id", .str s.id), ("version", version s.version), ("description", .str s.description),
    ("language_code", .str s.languageCode), ("schema_version", .int s.schemaVersion),
    ("explanation_html", .str s.explanation), ("worked_examples", texts s.workedExamples),
    ("prerequisite_skill_ids", texts s.prerequisiteSkillIds)]

/-- A complete pack. -/
def pack (p : TopicPack) : Json :=
  .obj [("topic", topic p.topic), ("subtopic_pages", table .int page p.subtopicPages),
    ("stories", table .str story p.stories),
    ("explorations", table .str completeExploration p.explorations),
    ("referenced_skills", table .str skill p.skills),
    ("default_language", language p.defaultLanguage)]

/-- Some of the fields of a pack. -/
def fragment (f : Fragment) : Json :=
  .obj [("topic", optional topic f.topic),
    ("subtopic_pages", optional (table .int page) f.subtopicPages),
    ("stories", optional (table .str story) f.stories),
    ("explorations", optional (table .str completeExploration) f.explorations),
    ("referenced_skills", optional (table .str skill) f.skills),
    ("default_language", optional language f.defaultLanguage)]

/-- A structure as it is served. -/
def document : Document → Json
  | .topic t => topic t
  | .page p => page p
  | .story s => story s
  | .exploration e => exploration e
  | .skill s => skill s

/-- A structure with everything that belongs to it. -/
def loaded : Loaded → Json
  | .topic t => topic t
  | .page p => page p
  | .story s => story s
  | .exploration e => completeExploration e
  | .skill s => skill s

end ContentPack.Wire
