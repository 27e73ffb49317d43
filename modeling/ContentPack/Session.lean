import ContentPack.Cache
import ContentPack.Fetch.Load
import ContentPack.Progress

/-!
# Sessions

One search for a pack works on one session: a cache of versions, the state of the source, and the
reports of progress. `Work` is what changes a session and may be given up; what was changed before
stays changed.
-/

namespace ContentPack

/-- What a search works on: a cache of values of type `α` and a source with states of type `σ`. -/
structure Session (α σ : Type) where
  /-- The versions that were met. -/
  cache : Cache α := .empty
  /-- The state of the source. -/
  remote : σ
  /-- The reports of progress, in order. -/
  events : List Event := []
  /-- How often it was tried to put a pack together. -/
  attempts : Nat := 0

/-- What changes a session and may be given up. -/
abbrev Work (α σ : Type) := ExceptT Error (StateM (Session α σ))

namespace Work

variable {α σ β : Type}

/-- A result, where misuse is an error. -/
def ofMisuse : Except Misuse β → Work α σ β
  | .ok value => pure value
  | .error what => throw (.misuse what)

/-- Read something off the cache. -/
def readCache (read : Cache α → Except Misuse β) : Work α σ β := do
  ofMisuse (read (← get).cache)

/-- Change the cache. -/
def changeCache (change : Cache α → Except Misuse (Cache α)) : Work α σ Unit := do
  let cache ← ofMisuse (change (← get).cache)
  modify fun session => { session with cache }

/-- Ask the source for something. -/
def ask (question : StateM σ β) : Work α σ β := do
  let session ← get
  let (answer, remote) := question session.remote
  set { session with remote }
  return answer

/-- Report progress. -/
def report (event : Event) : Work α σ Unit :=
  modify fun session => { session with events := session.events ++ [event] }

end Work

end ContentPack
