import ContentPack.Content.Language
import ContentPack.Table
import ContentPack.Version

/-!
# Versioned content

The structures that make up a topic pack: a topic declares subtopics and names stories, a subtopic
has one page, the chapters of a story name explorations, and all of them name skills. Every
structure gives the rich text it holds (`htmlFragments`) and the skills it names outside of rich
text (`directSkillIds`).
-/

namespace ContentPack

/-- A subtopic as its topic declares it. -/
structure Subtopic where
  /-- The index of the subtopic within its topic. -/
  id : Int
  /-- The title. -/
  title : String := ""
  /-- The skills that the subtopic teaches. -/
  skillIds : List String := []
  /-- The last part of the address of the page. -/
  urlFragment : Option String := none
  deriving DecidableEq, Repr

/-- A topic: the root of a pack. -/
structure Topic where
  /-- The identifier. -/
  id : String
  /-- The version. -/
  version : Version
  /-- The name. -/
  name : String := ""
  /-- The description, as rich text. -/
  description : String := ""
  /-- The code of the language it is written in. -/
  languageCode : String := "en"
  /-- The version of its schema. -/
  schemaVersion : Int := 1
  /-- The declared subtopics. -/
  subtopics : List Subtopic := []
  /-- The stories that belong to the topic. -/
  canonicalStoryIds : List String := []
  /-- The stories that only go with it. -/
  additionalStoryIds : List String := []
  /-- The skills that belong to no subtopic. -/
  uncategorizedSkillIds : List String := []
  deriving DecidableEq, Repr

namespace Topic

/-- The declared subtopics by index; a later declaration of an index replaces an earlier one in its
place. -/
def subtopicTable (t : Topic) : Table Int Subtopic :=
  Table.ofEntries (t.subtopics.map fun s => (s.id, s))

/-- The stories of the topic, each once. -/
def storyIds (t : Topic) : List String := (t.canonicalStoryIds ++ t.additionalStoryIds).eraseDups

/-- The rich text of the topic. -/
def htmlFragments (t : Topic) : List String := [t.description]

/-- The skills that the topic and its subtopics name. -/
def directSkillIds (t : Topic) : List String :=
  (t.uncategorizedSkillIds ++ t.subtopics.flatMap (·.skillIds)).eraseDups

end Topic

/-- The page of a subtopic. -/
structure SubtopicPage where
  /-- The identifier of the topic. -/
  topicId : String
  /-- The index of the subtopic. -/
  subtopicIndex : Int
  /-- The version. -/
  version : Version
  /-- The code of the language it is written in. -/
  languageCode : String := "en"
  /-- The version of its schema. -/
  schemaVersion : Int := 1
  /-- The contents, as rich text. -/
  contents : String := ""
  deriving DecidableEq, Repr

namespace SubtopicPage

/-- The rich text of the page. -/
def htmlFragments (p : SubtopicPage) : List String := [p.contents]

/-- A page names skills only in its rich text. -/
def directSkillIds (_ : SubtopicPage) : List String := []

end SubtopicPage

/-- A chapter of a story. -/
structure Chapter where
  /-- The identifier. -/
  id : String
  /-- The title. -/
  title : String := ""
  /-- The description, as rich text. -/
  description : String := ""
  /-- The exploration that the chapter plays. -/
  explorationId : Option String := none
  /-- The skills that the chapter asks for. -/
  prerequisiteSkillIds : List String := []
  /-- The skills that the chapter teaches. -/
  acquiredSkillIds : List String := []
  deriving DecidableEq, Repr

/-- A story: chapters in order. -/
structure Story where
  /-- The identifier. -/
  id : String
  /-- The version. -/
  version : Version
  /-- The title. -/
  title : String := ""
  /-- The description, as rich text. -/
  description : String := ""
  /-- The code of the language it is written in. -/
  languageCode : String := "en"
  /-- The version of its schema. -/
  schemaVersion : Int := 1
  /-- The chapters. -/
  chapters : List Chapter := []
  deriving DecidableEq, Repr

namespace Story

/-- The explorations of the chapters, each once. A chapter may have none. -/
def explorationIds (s : Story) : List String :=
  ((s.chapters.filterMap (·.explorationId)).filter (!·.isEmpty)).eraseDups

/-- The rich text of the story and of its chapters. -/
def htmlFragments (s : Story) : List String := s.description :: s.chapters.map (·.description)

/-- The skills that the chapters name. -/
def directSkillIds (s : Story) : List String :=
  (s.chapters.flatMap fun c => c.prerequisiteSkillIds ++ c.acquiredSkillIds).eraseDups

end Story

/-- A card of an exploration. -/
structure Card where
  /-- The contents, as rich text. -/
  content : String := ""
  /-- The skill that the card practises. -/
  linkedSkillId : Option String := none
  /-- Tags that join a skill and one of its misconceptions by a hyphen. -/
  misconceptionTags : List String := []
  deriving DecidableEq, Repr

/-- The skill of a misconception tag: what stands before its last hyphen. A tag without a hyphen
names no skill. -/
def skillOfMisconception? (tag : String) : Option String :=
  let cs := tag.toList
  if cs.contains '-' then
    some (String.ofList ((cs.reverse.dropWhile (· != '-')).drop 1).reverse)
  else none

/-- An exploration: cards by name. -/
structure Exploration where
  /-- The identifier. -/
  id : String
  /-- The version. -/
  version : Version
  /-- The title. -/
  title : String := ""
  /-- The code of the language it is written in. -/
  languageCode : String := "en"
  /-- The version of its schema. -/
  schemaVersion : Int := 1
  /-- The cards by name. -/
  cards : Table String Card := []
  deriving DecidableEq, Repr

namespace Exploration

/-- The rich text of the cards. -/
def htmlFragments (e : Exploration) : List String := e.cards.values.map (·.content)

/-- The skills that cards practise, then the skills of their misconception tags. -/
def directSkillIds (e : Exploration) : List String :=
  let linked := (e.cards.values.filterMap (·.linkedSkillId)).filter (!·.isEmpty)
  let tagged := e.cards.values.flatMap fun card =>
    card.misconceptionTags.filterMap skillOfMisconception?
  (linked ++ tagged).eraseDups

end Exploration

/-- The translations of one version of an exploration into one language. -/
structure Translation where
  /-- The identifier of the exploration. -/
  explorationId : String
  /-- The version of the exploration; what is served may have any number here. -/
  version : Int
  /-- The code of the language. -/
  languageCode : String
  /-- Rich text by the name of the content it translates. -/
  texts : Table String String := []
  deriving DecidableEq, Repr

/-- An exploration with its translations into the supported languages. -/
structure CompleteExploration where
  /-- The exploration. -/
  exploration : Exploration
  /-- The translations by language. -/
  translations : Table Language Translation := []
  deriving DecidableEq, Repr

namespace CompleteExploration

/-- The identifier of the exploration. -/
def id (c : CompleteExploration) : String := c.exploration.id

/-- The version of the exploration. -/
def version (c : CompleteExploration) : Version := c.exploration.version

/-- The rich text of the exploration, then that of its translations. -/
def htmlFragments (c : CompleteExploration) : List String :=
  c.exploration.htmlFragments ++ c.translations.values.flatMap (·.texts.values)

/-- The skills that the exploration names. -/
def directSkillIds (c : CompleteExploration) : List String := c.exploration.directSkillIds

end CompleteExploration

/-- A skill with its concept card. -/
structure Skill where
  /-- The identifier. -/
  id : String
  /-- The version. -/
  version : Version
  /-- The description, as rich text. -/
  description : String := ""
  /-- The code of the language it is written in. -/
  languageCode : String := "en"
  /-- The version of its schema. -/
  schemaVersion : Int := 1
  /-- The explanation, as rich text. -/
  explanation : String := ""
  /-- Worked examples, as rich text. -/
  workedExamples : List String := []
  /-- The skills that are needed first. -/
  prerequisiteSkillIds : List String := []
  deriving DecidableEq, Repr

namespace Skill

/-- The rich text of the skill. -/
def htmlFragments (s : Skill) : List String := s.description :: s.explanation :: s.workedExamples

/-- The skills that are needed first, each once. -/
def directSkillIds (s : Skill) : List String := s.prerequisiteSkillIds.eraseDups

end Skill

/-- A topic with everything that it names, directly or through something else. -/
structure TopicPack where
  /-- The topic. -/
  topic : Topic
  /-- The pages by the index of their subtopic. -/
  subtopicPages : Table Int SubtopicPage
  /-- The stories by identifier. -/
  stories : Table String Story
  /-- The explorations by identifier. -/
  explorations : Table String CompleteExploration
  /-- The skills by identifier. -/
  skills : Table String Skill
  /-- The language of the topic. -/
  defaultLanguage : Language
  deriving DecidableEq, Repr

end ContentPack
