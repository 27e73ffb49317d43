import ContentPack.Compatibility.Checker
import ContentPack.FanOut
import ContentPack.Session

/-!
# The search for compatible versions

The resolver finds the newest version of a structure that can be used. It walks down from the newest
version: a version is loaded when it is needed, together with pending ones below it, and once the
version below an incompatible one is loaded, the incompatible one is dropped from the cache. If no
version can be used, the outcome is that of the oldest one.

A walk stops wherever it waits for an answer, so walks for several structures can be interleaved:
`visit` moves one walk on by one step, and `resolveAll` visits all walks in turn until they have
ended. A turn of visits brings every walk closer to its end, which bounds the number of turns. The
first walk that fails ends all of them, but not at once: the news takes some turns (`grace`).
-/

namespace ContentPack

/-- How versions are found: where they come from, when they can be used, and how many are asked for
together. -/
structure Resolver (α σ : Type) where
  /-- Where versions come from. -/
  source : Source σ
  /-- The outcome of loading a structure, given the declared subtopic of a page. -/
  judge : Option Subtopic → Loaded → Outcome α
  /-- How many older versions are asked for together. -/
  window : Int := 1

/-- A structure to find, and a report for when it is found. -/
structure Errand where
  /-- The structure. -/
  id : StructureId
  /-- The declared subtopic of a page. -/
  subtopic : Option Subtopic := none
  /-- The report. -/
  event : Option Event := none
  deriving Repr

/-- What a load is for. -/
inductive Purpose where
  /-- To learn the newest version. -/
  | newest
  /-- To load the versions of a batch, because the walk came to a version of it. -/
  | version (version : Version) (lastInvalid : Option Version) (batch : List Version)
  /-- To load the versions of a batch, because the oldest version is the last resort. -/
  | oldest (version : Version) (batch : List Version)

/-- A walk down the versions of a structure. -/
inductive Walk (α : Type) where
  /-- The walk has not started. -/
  | fresh
  /-- The walk waits for a load. -/
  | loading (purpose : Purpose) (load : Load)
  /-- The walk has failed; what it asked for may still be under way. -/
  | failed (error : Error) (load : Load)
  /-- The walk has ended. -/
  | ended (outcome : Outcome α)

/-- How many more loads a walk may need, once the newest version is known. -/
def Walk.loadsLeft {α : Type} : Walk α → Nat
  | .loading (.version version _ _) _ => version.number + 1
  | _ => 1

namespace Resolver

variable {α σ : Type}

open Work

/-- Start to load a version, together with pending ones below it. -/
def loadVersion (r : Resolver α σ) (e : Errand) (version : Version)
    (purpose : List Version → Purpose) : Work α σ (Walk α) := do
  let batch ← readCache (·.pendingWindow ⟨e.id, version⟩ r.window)
  let request := Request.versions e.id.locator (batch.map Version.toInt)
  return .loading (purpose batch) (Load.ask r.source.delays request)

/-- The last resort: the oldest version. -/
def resort (r : Resolver α σ) (e : Errand) : Work α σ (Walk α) := do
  let oldest ← readCache (·.newest e.id)
  match ← readCache (·.get oldest) with
  | .pending => r.loadVersion e oldest.version (.oldest oldest.version)
  | outcome => return .ended outcome

/-- Take note of the outcome of a version: the version above it, which cannot be used, is dropped,
and the walk ends, or it goes on as it goes on below. -/
def conclude (e : Errand) (lastInvalid : Option Version) (outcome : Outcome α)
    (below : Work α σ (Walk α)) : Work α σ (Walk α) := do
  if let some above := lastInvalid then
    changeCache (·.invalidate ⟨e.id, above⟩)
  if outcome.isSuccess then return .ended outcome else below

/-- Come to a version, which is loaded if it is pending. -/
def arrive (r : Resolver α σ) (e : Errand) (version : Version) (lastInvalid : Option Version)
    (below : Work α σ (Walk α)) : Work α σ (Walk α) := do
  match ← readCache (·.get ⟨e.id, version⟩) with
  | .pending => r.loadVersion e version (.version version lastInvalid)
  | outcome => conclude e lastInvalid outcome below

/-- Walk down from a version with a number of older ones. -/
def descend (r : Resolver α σ) (e : Errand) : Nat → Option Version → Work α σ (Walk α)
  | 0, lastInvalid => r.arrive e (.after 0) lastInvalid (r.resort e)
  | n + 1, lastInvalid =>
    r.arrive e (.after (n + 1)) lastInvalid (r.descend e n (some (.after (n + 1))))

/-- Walk on below a version that cannot be used. -/
def below (r : Resolver α σ) (e : Errand) (version : Version) : Work α σ (Walk α) :=
  match version.previous? with
  | some older => r.descend e (older.number - 1) (some version)
  | none => r.resort e

/-- Walk down from the newest version. -/
def enter (r : Resolver α σ) (e : Errand) : Work α σ (Walk α) := do
  let newest ← readCache (·.newest e.id)
  r.descend e (newest.version.number - 1) none

/-- Start a walk; the newest version is asked for if the structure is not tracked. -/
def begin (r : Resolver α σ) (e : Errand) : Work α σ (Walk α) := do
  if (← get).cache.tracks e.id then r.enter e
  else return .loading .newest (Load.ask r.source.delays (.latest e.id.locator))

/-- Track a structure from its newest version, unless it is tracked meanwhile. -/
def track (r : Resolver α σ) (e : Errand) (loaded : Loaded) : Work α σ Unit := do
  unless (← get).cache.tracks e.id do
    changeCache fun cache =>
      .ok (cache.track ⟨e.id, loaded.version⟩ e.subtopic (r.judge e.subtopic loaded))

/-- Write the outcomes of the versions of a batch, for each of which there must be a structure. -/
def store (r : Resolver α σ) (e : Errand) (batch : List Version) (loaded : List Loaded) :
    Work α σ Unit := do
  if loaded.length ≠ batch.length then
    throw (.fetch (.wrongCount e.id batch.length loaded.length))
  (batch.zip loaded).forM fun (version, one) =>
    changeCache (·.put ⟨e.id, version⟩ (r.judge e.subtopic one))

/-- The outcome of a version after it was loaded. -/
def loadedOutcome (e : Errand) (version : Version) : Work α σ (Outcome α) := do
  match ← readCache (·.get ⟨e.id, version⟩) with
  | .pending => throw (.misuse (.stillPending ⟨e.id, version⟩))
  | outcome => return outcome

/-- Go on with a walk once a load has ended well. -/
def resume (r : Resolver α σ) (e : Errand) (purpose : Purpose) (loaded : List Loaded) :
    Work α σ (Walk α) := do
  match purpose with
  | .newest =>
    loaded.forM (r.track e)
    r.enter e
  | .version version lastInvalid batch =>
    r.store e batch loaded
    conclude e lastInvalid (← loadedOutcome e version) (r.below e version)
  | .oldest version batch =>
    r.store e batch loaded
    return .ended (← loadedOutcome e version)

/-- Look once for the answers that a load waits for; the walk goes on if the load has ended. -/
def look (r : Resolver α σ) (e : Errand) (purpose : Purpose) (load : Load)
    (goOn : Walk α → Work α σ (Walk α)) : Work α σ (Walk α) := do
  match ← ask (load.visit r.source) with
  | .ended (.ok loaded) _ => goOn (← r.resume e purpose loaded)
  | .ended (.error failure) parts => return .failed (.fetch failure) (.ended (.error failure) parts)
  | load => return .loading purpose load

/-- Go on as long as answers come at once, for at most a number of loads. -/
def pursue (r : Resolver α σ) (e : Errand) : Nat → Walk α → Work α σ (Walk α)
  | n + 1, .loading purpose load => r.look e purpose load (r.pursue e n)
  | _, walk => return walk

/-- Go on up to where an answer does not come at once. -/
def advance (r : Resolver α σ) (e : Errand) : Walk α → Work α σ (Walk α)
  | .loading purpose load =>
    r.look e purpose load fun walk => r.pursue e walk.loadsLeft walk
  | .failed error load => return .failed error (← ask (load.linger r.source))
  | walk => return walk

/-- Move a walk on by one step; an error ends the walk and nothing else. -/
def visit (r : Resolver α σ) (e : Errand) (walk : Walk α) : Work α σ (Walk α) :=
  tryCatch
    (match walk with
      | .fresh => do r.advance e (← r.begin e)
      | walk => r.advance e walk)
    fun error => return .failed error (.ended (.ok []) [])

/-! ### Several walks -/

/-- Work on several walks, with the error of the first that failed. -/
abbrev JointWork (α σ : Type) := StateT (Option Error) (Work α σ)

/-- Visit the walk of an errand; a walk that has ended is reported and gives its outcome. A walk
that has failed lingers as long as something that it asked for is under way. -/
def attend (r : Resolver α σ) (e : Errand) (walk : Walk α) :
    JointWork α σ (Move (Walk α) (Outcome α)) := do
  match ← r.visit e walk with
  | .ended outcome =>
    if let some event := e.event then (report event : Work α σ Unit)
    return .leave outcome
  | .failed error load =>
    modify fun first => first.or (some error)
    return if load.isIdle then .leave .pending else .linger (.failed error load)
  | walk => return .stay walk

/-- Errands that are worked on at the same time. -/
abbrev Batch (α : Type) := FanOut Errand (Walk α) (Outcome α)

/-- How many turns the walks go on after the first error, given how many joins lie between them and
whoever waits for them: the news takes two turns for each of them, and one at the end. -/
def grace (joins : Nat) : Nat := 2 * joins + 1

/-- Visit all walks for a number of turns, or until the news of the first error has come. -/
def turns (r : Resolver α σ) (joins : Nat) : Nat → Batch α → Work α σ (Batch α)
  | 0, batch => return batch
  | n + 1, batch => do
    if batch.isDone then return batch
    let (batch, failure) ← (batch.turn (fun _ => .fresh) r.attend).run none
    match failure with
    | none => r.turns joins n batch
    | some error =>
      discard ((batch.turns (fun _ => .fresh) r.attend (grace joins)).run none)
      throw error

/-- Visit all walks until every walk that had a seat after the first turn has ended: first until
each of them knows its newest version, then until none can have a load left. -/
def wave (r : Resolver α σ) (joins : Nat) (batch : Batch α) : Work α σ (Batch α) := do
  let batch ← r.turns joins (Load.visits r.source) batch
  let loads := (batch.seats.map fun seat => seat.task.loadsLeft).foldl max 0
  r.turns joins (loads * Load.visits r.source) batch

/-- Visit all walks for a number of waves. -/
def waves (r : Resolver α σ) (joins : Nat) : Nat → Batch α → Work α σ (Batch α)
  | 0, batch => return batch
  | n + 1, batch => do waves r joins n (← r.wave joins batch)

/-- The outcomes of all errands, in their order. No more than a number of them are worked on at the
same time; an errand without a seat gets one in a later wave, so there are enough waves. -/
def resolveAll (r : Resolver α σ) (limit : Option Nat) (errands : List Errand)
    (joins : Nat := 1) : Work α σ (List (Outcome α)) := do
  let batch ← r.waves joins errands.length (FanOut.start limit errands)
  return (List.range errands.length).map fun position => (batch.result? position).getD .pending

/-- The newest version of a structure that can be used, or why its oldest version cannot. -/
def resolve (r : Resolver α σ) (id : StructureId) (subtopic : Option Subtopic := none) :
    Work α σ (Outcome α) := do
  return (← r.resolveAll none [{ id, subtopic }] 0).headD .pending

end Resolver

end ContentPack
