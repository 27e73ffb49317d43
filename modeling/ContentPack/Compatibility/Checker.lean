import ContentPack.Content.Loaded
import ContentPack.Outcome

/-!
# Compatibility checks

A `Checker` decides for one version of a structure, looked at on its own, whether it can be used.
The check of a page also sees the subtopic that the topic declares for it.
-/

namespace ContentPack

/-- The answer of a check. -/
inductive Verdict where
  /-- The version can be used. -/
  | compatible
  /-- The version cannot be used, for these reasons. -/
  | incompatible (reasons : List Rejection)
  deriving DecidableEq, Repr

namespace Verdict

/-- Any reason at all makes a version incompatible. -/
def ofReasons : List Rejection → Verdict
  | [] => compatible
  | reasons => incompatible reasons

/-- The outcome of loading a value that got this verdict. -/
def outcome {α : Type} (value : α) : Verdict → Outcome α
  | compatible => .success value
  | incompatible reasons => .failure reasons

end Verdict

/-- Checks for every kind of structure. -/
structure Checker where
  /-- The check of a topic. -/
  topic : Topic → Verdict := fun _ => .compatible
  /-- The check of a page against the declared subtopic. -/
  page : SubtopicPage → Option Subtopic → Verdict := fun _ _ => .compatible
  /-- The check of a story. -/
  story : Story → Verdict := fun _ => .compatible
  /-- The check of an exploration. -/
  exploration : CompleteExploration → Verdict := fun _ => .compatible
  /-- The check of a skill. -/
  skill : Skill → Verdict := fun _ => .compatible

namespace Checker

/-- The checker that accepts everything. -/
def permissive : Checker := {}

/-- Check a structure of any kind. -/
def check (c : Checker) (subtopic : Option Subtopic) : Loaded → Verdict
  | .topic t => c.topic t
  | .page p => c.page p subtopic
  | .story s => c.story s
  | .exploration e => c.exploration e
  | .skill s => c.skill s

/-- The outcome of loading a structure. -/
def judge (c : Checker) (subtopic : Option Subtopic) (loaded : Loaded) : Outcome Loaded :=
  (c.check subtopic loaded).outcome loaded

end Checker

end ContentPack
