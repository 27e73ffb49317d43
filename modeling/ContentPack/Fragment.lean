import ContentPack.Content.Model
import ContentPack.Error

/-!
# Fragments of packs

A fragment has some of the fields of a pack. Fragments are combined if no field is populated in both
of them, and a fragment with all fields is a pack.
-/

namespace ContentPack

/-- Some of the fields of a pack. -/
structure Fragment where
  /-- The topic. -/
  topic : Option Topic := none
  /-- The pages by the index of their subtopic. -/
  subtopicPages : Option (Table Int SubtopicPage) := none
  /-- The stories by identifier. -/
  stories : Option (Table String Story) := none
  /-- The explorations by identifier. -/
  explorations : Option (Table String CompleteExploration) := none
  /-- The skills by identifier. -/
  skills : Option (Table String Skill) := none
  /-- The language of the topic. -/
  defaultLanguage : Option Language := none
  deriving DecidableEq, Repr

namespace Fragment

/-- The fragment without any field. -/
def empty : Fragment := {}

/-- The value of a field of which at most one side is populated. -/
def pick {α : Type} (name : String) : Option α → Option α → Except Misuse (Option α)
  | some _, some _ => .error (.populatedTwice name)
  | some value, none => .ok (some value)
  | none, right => .ok right

/-- The fields of both sides. -/
def combine (left right : Fragment) : Except Misuse Fragment := do
  let topic ← pick "topic" left.topic right.topic
  let subtopicPages ← pick "subtopic_pages" left.subtopicPages right.subtopicPages
  let stories ← pick "stories" left.stories right.stories
  let explorations ← pick "explorations" left.explorations right.explorations
  let skills ← pick "referenced_skills" left.skills right.skills
  let defaultLanguage ← pick "default_language" left.defaultLanguage right.defaultLanguage
  return { topic, subtopicPages, stories, explorations, skills, defaultLanguage }

/-- The name of a field that is not populated. -/
def missingName {α : Type} (name : String) (value : Option α) : List String :=
  if value.isSome then [] else [name]

/-- The names of the fields that are not populated. -/
def missing (f : Fragment) : List String :=
  missingName "topic" f.topic ++ missingName "subtopic_pages" f.subtopicPages ++
    missingName "stories" f.stories ++ missingName "explorations" f.explorations ++
    missingName "referenced_skills" f.skills ++ missingName "default_language" f.defaultLanguage

/-- The pack with the fields of a fragment, which must all be populated. -/
def toPack (f : Fragment) : Except Misuse TopicPack :=
  match f with
  | ⟨some topic, some subtopicPages, some stories, some explorations, some skills,
      some defaultLanguage⟩ =>
    .ok { topic, subtopicPages, stories, explorations, skills, defaultLanguage }
  | _ => .error (.incomplete f.missing)

/-! ### Fragments of one field -/

/-- The pages of indexes. -/
def ofPages (pages : List (Int × SubtopicPage)) : Fragment :=
  { subtopicPages := some (Table.ofEntries pages) }

/-- Stories under their own identifiers. -/
def ofStories (stories : List Story) : Fragment :=
  { stories := some (Table.ofEntries (stories.map fun s => (s.id, s))) }

/-- Explorations under their own identifiers. -/
def ofExplorations (explorations : List CompleteExploration) : Fragment :=
  { explorations := some (Table.ofEntries (explorations.map fun e => (e.id, e))) }

/-- Skills under their own identifiers. -/
def ofSkills (skills : List Skill) : Fragment :=
  { skills := some (Table.ofEntries (skills.map fun s => (s.id, s))) }

end Fragment

end ContentPack
