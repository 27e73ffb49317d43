import ContentPack.Table

/-!
# Progress

While a pack is put together, the groups of its structures report how many structures they have and
which of them are there. A `Tracker` follows these reports and keeps one task for every group that
was heard of, as a display of progress shows it.
-/

namespace ContentPack

/-- The groups of structures that are counted together. -/
inductive Group where
  /-- Stories. -/
  | story
  /-- Pages of subtopics. -/
  | subtopic
  /-- Explorations. -/
  | exploration
  /-- Skills. -/
  | skill
  deriving DecidableEq, Repr, Inhabited

namespace Group

/-- Every group. -/
def all : List Group := [story, subtopic, exploration, skill]

/-- The name of a group. -/
def name : Group → String
  | story => "story"
  | subtopic => "subtopic"
  | exploration => "exploration"
  | skill => "skill"

/-- The group with a name. -/
def ofName? (name : String) : Option Group := all.find? (·.name == name)

end Group

/-- A report of progress. -/
inductive Event where
  /-- A group has a number of structures. -/
  | count (group : Group) (count : Int)
  /-- The structure at a place of a group is there. -/
  | item (group : Group) (index : Int)
  /-- A group starts again. -/
  | reset (group : Group)
  /-- All groups start again. -/
  | resetAll
  deriving DecidableEq, Repr

/-- The task of a group, as it is shown. -/
structure Task where
  /-- What it is about. -/
  description : String
  /-- The number of structures. -/
  total : Int
  /-- The number of structures that are there. -/
  completed : Nat := 0
  deriving DecidableEq, Repr

/-- What is known of the groups. -/
structure Tracker where
  /-- The reported numbers of structures. -/
  counts : Table Group Int := []
  /-- The places of the structures that are there. -/
  seen : Table Group (List Int) := []
  /-- The tasks, in the order in which they were first needed. -/
  tasks : Table Group Task := []
  deriving Repr

namespace Tracker

/-- Nothing was reported. -/
def empty : Tracker := {}

/-- The reported number of structures of a group. -/
def count (t : Tracker) (group : Group) : Int := (t.counts.get? group).getD 0

/-- The places of the structures of a group that are there. -/
def places (t : Tracker) (group : Group) : List Int := (t.seen.get? group).getD []

/-- How many structures of a group are there. -/
def downloaded (t : Tracker) (group : Group) : Nat := (t.places group).length

/-- The task of a group, which is new if there was none. -/
def task (t : Tracker) (group : Group) : Task :=
  (t.tasks.get? group).getD { description := "[cyan]" ++ group.name ++ "s", total := t.count group }

/-- Start a group again. -/
def reset (t : Tracker) (group : Group) : Tracker where
  counts := t.counts.put group 0
  seen := t.seen.put group []
  tasks :=
    match t.tasks.get? group with
    | some task => t.tasks.put group { task with total := 0, completed := 0 }
    | none => t.tasks

/-- Take note of a number of structures. -/
def setCount (t : Tracker) (group : Group) (count : Int) : Tracker :=
  let t := { t with counts := t.counts.put group count }
  { t with tasks := t.tasks.put group { t.task group with total := count } }

/-- Take note of a structure that is there; places that the count does not reach are ignored, and
so are places that were reported before. -/
def addItem (t : Tracker) (group : Group) (index : Int) : Tracker :=
  if t.count group ≤ index || (t.places group).contains index then t
  else
    let places := t.places group ++ [index]
    { t with
      seen := t.seen.put group places
      tasks := t.tasks.put group { t.task group with completed := places.length } }

/-- Take note of a report. -/
def report (t : Tracker) : Event → Tracker
  | .count group count => t.setCount group count
  | .item group index => t.addItem group index
  | .reset group => t.reset group
  | .resetAll => Group.all.foldl reset t

end Tracker

end ContentPack
