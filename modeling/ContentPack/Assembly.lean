import ContentPack.Fragment
import ContentPack.Settings.Basic
import ContentPack.SkillClosure

/-!
# The assembly of packs

A pack is put together from a version of its topic: the pages of its subtopics and its stories are
resolved at the same time, then the explorations of the stories, then the closure of all skills that
any of them refers to. If some structure has no version that can be used, the version of the topic
is dropped, and it is tried again from the next older one, as long as there is one.
-/

namespace ContentPack

/-- How packs are put together. -/
structure Assembler (σ : Type) where
  /-- How versions are found. -/
  resolver : Resolver Loaded σ
  /-- How many rounds a closure of skills may take. -/
  maxRounds : Int := 32
  /-- How many structures are resolved at the same time. -/
  limit : Option Nat := some 16

namespace Assembler

variable {σ : Type}

open Work

/-- Put packs together from a source, with a checker and settings. -/
def ofSettings (source : Source σ) (checker : Checker) (settings : ResolverSettings) :
    Assembler σ where
  resolver := { source, judge := checker.judge, window := settings.versionFetchWindow }
  maxRounds := settings.maxSkillClosureRounds
  limit := FanOut.seatLimit (some settings.maxConcurrentFetches)

/-! ### The groups of a pack -/

/-- The errands of a group, each with the report of its place. -/
def errands (group : Group) (ids : List (StructureId × Option Subtopic)) : List Errand :=
  ids.mapIdx fun index (id, subtopic) => { id, subtopic, event := some (.item group index) }

/-- The pages of loaded structures under the indexes of their subtopics. -/
def pagesFragment (indexes : List Int) (loaded : List Loaded) : Fragment :=
  .ofPages ((indexes.zip loaded).filterMap fun (index, l) => l.page?.map (index, ·))

/-- The pages and the stories of a topic. -/
def loadPagesAndStories (a : Assembler σ) (topic : Topic) :
    Work Loaded σ (Outcome Fragment × Outcome Fragment) := do
  let subtopics := topic.subtopicTable
  report (.count .subtopic subtopics.length)
  report (.count .story topic.storyIds.length)
  let pages := errands .subtopic (subtopics.map fun (index, subtopic) =>
    (.subtopic topic.id index, some subtopic))
  let stories := errands .story (topic.storyIds.map fun id => (.story id, none))
  let outcomes ← a.resolver.resolveAll a.limit (pages ++ stories) 2
  return (.combineAll (outcomes.take pages.length) (pagesFragment subtopics.keys),
    .combineAll (outcomes.drop pages.length) fun loaded =>
      .ofStories (loaded.filterMap Loaded.story?))

/-- The explorations that stories name, each once. -/
def explorationIds (stories : Fragment) : List String :=
  ((stories.stories.getD []).values.flatMap Story.explorationIds).eraseDups

/-- The explorations of stories. -/
def loadExplorations (a : Assembler σ) (stories : Fragment) :
    Work Loaded σ (Outcome Fragment) := do
  let ids := explorationIds stories
  report (.count .exploration ids.length)
  let outcomes ← a.resolver.resolveAll a.limit
    (errands .exploration (ids.map fun id => (.exploration id, none)))
  return .combineAll outcomes fun loaded => .ofExplorations (loaded.filterMap Loaded.exploration?)

/-- The structures of a fragment apart from its skills. -/
def structures (f : Fragment) : List Loaded :=
  f.topic.toList.map .topic ++ (f.subtopicPages.getD []).values.map .page ++
    (f.stories.getD []).values.map .story ++ (f.explorations.getD []).values.map .exploration

/-- The skills that structures refer to, and the skills that these refer to. -/
def loadSkills (a : Assembler σ) (structures : List Loaded) :
    Work Loaded σ (Outcome Fragment) := do
  let skills ← SkillClosure.resolve a.resolver a.limit a.maxRounds
    (structures.flatMap Loaded.skillIds)
  return skills.map fun loaded => .ofSkills (loaded.filterMap Loaded.skill?)

/-- The skills of a topic, which are known once everything else is; else the first outcome without
a value stands for them. -/
def loadSkillsOf (a : Assembler σ) (topic : Topic) (pages stories explorations : Outcome Fragment) :
    Work Loaded σ (Outcome Fragment) :=
  pages.bindM fun pages => stories.bindM fun stories => explorations.bindM fun explorations =>
    a.loadSkills (.topic topic :: structures pages ++ structures stories ++ structures explorations)

/-! ### One version of a topic -/

/-- The fragments of a pack, in order. -/
def loadFragments (a : Assembler σ) (topic : Topic) :
    Work Loaded σ (List (Outcome Fragment)) := do
  let (pages, stories) ← a.loadPagesAndStories topic
  let explorations ← stories.bindM a.loadExplorations
  let skills ← a.loadSkillsOf topic pages stories explorations
  let language := Language.ofCode topic.languageCode
  return [pages, stories, explorations, skills, .success { defaultLanguage := some language }]

/-- The fragments of a pack, combined. -/
def assemble (a : Assembler σ) (topic : Topic) : Work Loaded σ (Outcome Fragment) := do
  Outcome.reduceM (fun left right => ofMisuse (left.combine right))
    (.success { topic := some topic }) (← a.loadFragments topic)

/-- Try to put a pack together from the newest version of its topic that can be used. -/
def attempt (a : Assembler σ) (topicId : String) : Work Loaded σ (Outcome TopicPack) := do
  modify fun session => { session with attempts := session.attempts + 1 }
  let topic ← a.resolver.resolve (.topic topicId)
  let fragment ← (topic.bind fun loaded => match loaded.topic? with
    | some topic => .success topic
    | none => .failure []).bindM a.assemble
  fragment.mapM fun fragment => ofMisuse fragment.toPack

/-! ### All versions of a topic -/

/-- After a failed attempt, drop the newest version of the topic and try again, at most a number of
times and as long as there is an older version. -/
def retry (a : Assembler σ) (topicId : String) :
    Nat → Outcome TopicPack → Work Loaded σ (Outcome TopicPack)
  | left + 1, .failure reasons => do
    report .resetAll
    if (← get).cache.versionCount (.topic topicId) ≤ 1 then return .failure reasons
    let newest ← readCache (·.newest (.topic topicId))
    changeCache (·.invalidate newest)
    a.retry topicId left (← a.attempt topicId)
  | _, outcome => return outcome

/-- The pack of the newest version of a topic from which one can be put together, or why there is
none from the oldest. -/
def run (a : Assembler σ) (topicId : String) : Work Loaded σ (Outcome TopicPack) := do
  let outcome ← a.attempt topicId
  a.retry topicId ((← get).cache.versionCount (.topic topicId)) outcome

/-- The pack of a run, or the error that it ends with; every reason is given once. -/
def packOf (topicId : String) : Outcome TopicPack → Except Error TopicPack
  | .success pack => .ok pack
  | .failure reasons => .error (.incompatibleTopic topicId reasons.eraseDups)
  | .pending => .error (.misuse (.pendingPack topicId))

/-- The pack of a topic. -/
def resolve (a : Assembler σ) (topicId : String) : Work Loaded σ TopicPack := do
  ofExcept (packOf topicId (← a.run topicId))

end Assembler

end ContentPack
