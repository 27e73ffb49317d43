import ContentPack.ConceptCard
import ContentPack.Resolver

/-!
# Closures of skills

A skill refers to other skills. The closure of a list of skills holds these skills and every skill
that is referred to from within, in the order in which they are met. It is found in rounds: a round
resolves all skills that are known and adds those that they refer to, until nothing is added. The
number of rounds is bounded.
-/

namespace ContentPack.SkillClosure

variable {σ : Type}

open Work

/-- Skills with those that they refer to, each once. -/
def expand (current : List String) (skills : List Loaded) : List String :=
  (current ++ skills.flatMap Loaded.skillIds).eraseDups

/-- The errands for a list of skills. -/
def errands (ids : List String) : List Errand :=
  ids.mapIdx fun index id => { id := .skill id, event := some (.item .skill index) }

/-- Resolve a list of skills. -/
def round (r : Resolver Loaded σ) (limit : Option Nat) (current : List String) :
    Work Loaded σ (Outcome (List Loaded)) := do
  report (.count .skill current.length)
  return .flatten (← r.resolveAll limit (errands current))

/-- At most a number of further rounds, of the number of rounds that there are in all. -/
def grow (r : Resolver Loaded σ) (limit : Option Nat) (rounds : Nat) :
    Nat → List String → Work Loaded σ (Outcome (List Loaded))
  | 0, current => throw (.closureLimit rounds current.length)
  | left + 1, current => do
    match ← round r limit current with
    | .success skills =>
      let expanded := expand current skills
      if expanded.length = current.length then return .success skills
      report (.reset .skill)
      grow r limit rounds left expanded
    | outcome => return outcome

/-- There is at least one round. -/
def roundLimit (maxRounds : Int) : Nat := (max 1 maxRounds).toNat

/-- The closure of a list of skills. -/
def resolve (r : Resolver Loaded σ) (limit : Option Nat) (maxRounds : Int)
    (seeds : List String) : Work Loaded σ (Outcome (List Loaded)) :=
  grow r limit (roundLimit maxRounds) (roundLimit maxRounds) seeds.eraseDups

end ContentPack.SkillClosure
