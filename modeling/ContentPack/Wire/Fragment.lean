import ContentPack.Wire.Identity

/-!
# Fragments on the wire

How fragments of a pack are read: an object with some of the fields of a pack, where a table is a
list of pairs.
-/

namespace ContentPack.Wire

/-- A table that is given as a list of pairs. -/
def readTable {κ ν : Type} [DecidableEq κ] (key : Json → κ) (name : String) (d : Decoder ν)
    (j : Json) : Reading (Table κ ν) := do
  let pairs ← (items j).mapM fun pair => match items pair with
    | [k, v] => return (key k, ← orMisfit (d.run name v))
    | _ => throw (.named "ValueError")
  return Table.ofEntries pairs

/-- A language by its code. -/
def readLanguage (j : Json) : Reading Language :=
  match Language.withCode? (text j) with
  | some language => .ok language
  | none => .error (.named "ValueError")

/-- Some of the fields of a pack. -/
def readFragment (j : Json) : Reading Fragment := do
  let read {α : Type} (name : String) (f : Json → Reading α) : Reading (Option α) :=
    match field? name j with
    | none => .ok none
    | some v => (f v).map some
  return {
    topic := ← read "topic" fun v => orMisfit (Schema.topic.run "Topic" v)
    subtopicPages := ← read "subtopic_pages" (readTable whole "SubtopicPage" Schema.subtopicPage)
    stories := ← read "stories" (readTable text "Story" Schema.story)
    explorations := ← read "explorations"
      (readTable text "CompleteExploration" Schema.completeExploration)
    skills := ← read "referenced_skills" (readTable text "Skill" Schema.skill)
    defaultLanguage := ← read "default_language" readLanguage }

end ContentPack.Wire
