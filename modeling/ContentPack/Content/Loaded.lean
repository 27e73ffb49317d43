import ContentPack.Content.Model
import ContentPack.Structure.Identity

/-!
# Served and loaded structures

A `Document` is one version of a structure as it is served. A `Loaded` structure is what a document
becomes once everything that belongs to it has been fetched: an exploration is joined with its
translations, the other kinds are complete as they are.
-/

namespace ContentPack

/-- One version of a structure as it is served. -/
inductive Document where
  /-- A topic. -/
  | topic (topic : Topic)
  /-- The page of a subtopic. -/
  | page (page : SubtopicPage)
  /-- A story. -/
  | story (story : Story)
  /-- An exploration without its translations. -/
  | exploration (exploration : Exploration)
  /-- A skill. -/
  | skill (skill : Skill)
  deriving DecidableEq, Repr

namespace Document

/-- The version of the document. -/
def version : Document → Version
  | topic t => t.version
  | page p => p.version
  | story s => s.version
  | exploration e => e.version
  | skill s => s.version

/-- The structure that the document says it is a version of. -/
def id : Document → StructureId
  | topic t => .topic t.id
  | page p => .subtopic p.topicId p.subtopicIndex
  | story s => .story s.id
  | exploration e => .exploration e.id
  | skill s => .skill s.id

end Document

/-- One version of a structure with everything that belongs to it. -/
inductive Loaded where
  /-- A topic. -/
  | topic (topic : Topic)
  /-- The page of a subtopic. -/
  | page (page : SubtopicPage)
  /-- A story. -/
  | story (story : Story)
  /-- An exploration with its translations. -/
  | exploration (exploration : CompleteExploration)
  /-- A skill. -/
  | skill (skill : Skill)
  deriving DecidableEq, Repr

namespace Loaded

/-- The version of the structure. -/
def version : Loaded → Version
  | topic t => t.version
  | page p => p.version
  | story s => s.version
  | exploration e => e.version
  | skill s => s.version

/-- The rich text of the structure. -/
def htmlFragments : Loaded → List String
  | topic t => t.htmlFragments
  | page p => p.htmlFragments
  | story s => s.htmlFragments
  | exploration e => e.htmlFragments
  | skill s => s.htmlFragments

/-- The skills that the structure names outside of rich text. -/
def directSkillIds : Loaded → List String
  | topic t => t.directSkillIds
  | page p => p.directSkillIds
  | story s => s.directSkillIds
  | exploration e => e.directSkillIds
  | skill s => s.directSkillIds

/-! ### The structure, if it is of a kind -/

/-- The topic. -/
def topic? : Loaded → Option Topic
  | topic t => some t
  | _ => none

/-- The page. -/
def page? : Loaded → Option SubtopicPage
  | page p => some p
  | _ => none

/-- The story. -/
def story? : Loaded → Option Story
  | story s => some s
  | _ => none

/-- The exploration. -/
def exploration? : Loaded → Option CompleteExploration
  | exploration e => some e
  | _ => none

/-- The skill. -/
def skill? : Loaded → Option Skill
  | skill s => some s
  | _ => none

end Loaded

end ContentPack
