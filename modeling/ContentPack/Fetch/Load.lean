import ContentPack.Fetch.Source

/-!
# Loads

A load asks for one or several versions of a structure and joins every exploration among them with
its translations into all supported languages. The translations of all explorations of a load are
asked for together, once the explorations are there. A load fails with the first failure.

`Load.visit` looks once for every answer that is waited for. Explorations of a list of versions are
joined one visit later than a single one, and what comes of a join is handed on some visits after
it is known (`Load.lag`); whatever else was asked for goes on until then, and after it
(`Load.linger`). `Load.visits` bounds how often a load has to be visited before it has ended.
-/

namespace ContentPack

/-- A structure on its way to being complete. -/
inductive Part where
  /-- Nothing is missing. -/
  | whole (loaded : Loaded)
  /-- An exploration and the places of its translations. -/
  | exploration (exploration : Exploration) (slots : Table Language (Slot Translation))

namespace Part

variable {σ : Type}

/-- What there is after a structure was served. -/
def ofDocument (delays : Nat) : Document → Part
  | .topic t => whole (.topic t)
  | .page p => whole (.page p)
  | .story s => whole (.story s)
  | .exploration e => exploration e (Language.supported.map (·, .waiting delays))
  | .skill s => whole (.skill s)

/-- The request for the translations of an exploration into a language. -/
def request (e : Exploration) (language : Language) : Request :=
  .translation e.id e.version.toInt language.code

/-- Look once for every translation that is missing. -/
def visit (s : Source σ) : Part → StateM σ Part
  | whole loaded => return whole loaded
  | exploration e slots => return exploration e (← slots.mapM fun (language, slot) =>
      return (language, ← s.visit (request e language) slot))

/-- The first translation that failed. -/
def failure? : Part → Option FetchFailure
  | whole _ => none
  | exploration _ slots => slots.values.findSome? Slot.failure?

/-- The complete structure, if nothing is missing. -/
def loaded? : Part → Option Loaded
  | whole loaded => some loaded
  | exploration e slots => do
    let translations ← slots.mapM fun (language, slot) => slot.value?.map (language, ·)
    return .exploration ⟨e, translations⟩

/-- No translation is waited for. -/
def isSettled : Part → Bool
  | whole _ => true
  | exploration _ slots => !slots.values.any Slot.isWaiting

/-- The structure has to be joined with others. -/
def isJoined : Part → Bool
  | whole _ => false
  | exploration _ _ => true

end Part

/-- A load of versions of a structure. -/
inductive Load where
  /-- The structures themselves are waited for. -/
  | asking (request : Request) (slot : Slot request.Reply)
  /-- Translations are asked for after the next visit. -/
  | opening (lag : Nat) (parts : List Part)
  /-- Translations are waited for. -/
  | joining (lag : Nat) (parts : List Part)
  /-- The result is handed on after a number of visits. -/
  | closing (left : Nat) (result : Except FetchFailure (List Loaded)) (parts : List Part)
  /-- The load has ended; requests for its parts may still be under way. -/
  | ended (result : Except FetchFailure (List Loaded)) (parts : List Part)

namespace Load

variable {σ : Type}

/-- Start a load from a source with a number of delays. -/
def ask (delays : Nat) (request : Request) : Load := asking request (.waiting delays)

/-- How many visits after it is known the result of a join is handed on: two for the join of one
exploration, and two more for the join of a list of them. -/
def lag : Request → Nat
  | .versions _ _ => 4
  | _ => 2

/-- The result of parts, if it is known: the first failure, or all structures. -/
def result? (parts : List Part) : Option (Except FetchFailure (List Loaded)) :=
  match parts.findSome? Part.failure? with
  | some failure => some (.error failure)
  | none => (parts.mapM Part.loaded?).map .ok

/-- The load after the structures came. -/
def ofParts (request : Request) (parts : List Part) : Load :=
  if parts.any Part.isJoined then
    match request with
    | .versions _ _ => opening (lag request) parts
    | _ => joining (lag request) parts
  else ended ((result? parts).getD (.ok [])) []

/-- The load after its parts were visited. -/
def join (lag : Nat) (parts : List Part) : Load :=
  match result? parts with
  | some result => closing lag result parts
  | none => joining lag parts

/-- Look once for every answer that is waited for. -/
def visit (s : Source σ) : Load → StateM σ Load
  | asking request slot => do
    match ← s.visit request slot with
    | .waiting left => return asking request (.waiting left)
    | .answered (.error failure) => return ended (.error failure) []
    | .answered (.ok reply) =>
      return ofParts request ((request.documents reply).map (Part.ofDocument s.delays))
  | opening lag parts => return joining lag parts
  | joining lag parts => return join lag (← parts.mapM (Part.visit s))
  | closing (left + 2) result parts =>
    return closing (left + 1) result (← parts.mapM (Part.visit s))
  | closing _ result parts => return ended result (← parts.mapM (Part.visit s))
  | ended result parts => return ended result parts

/-- Go on with what is under way after the end of a load. -/
def linger (s : Source σ) : Load → StateM σ Load
  | ended result parts => return ended result (← parts.mapM (Part.visit s))
  | load => load.visit s

/-- Nothing is under way. -/
def isIdle : Load → Bool
  | ended _ parts => parts.all Part.isSettled
  | _ => false

/-- The number of visits after which every load has ended: each of the two answers that it waits
for may be put off, and then comes, and a join takes some visits before and after it. -/
def visits (s : Source σ) : Nat := 2 * (s.delays + 1) + 5

/-- Visit a load a number of times, or until it has ended. -/
def run (s : Source σ) : Nat → Load → StateM σ Load
  | 0, load => return load
  | _, ended result parts => return ended result parts
  | n + 1, load => do run s n (← load.visit s)

end Load

/-- Load versions of a structure on its own, and wait for the result. -/
def Source.load (s : Source σ) (request : Request) :
    StateM σ (Option (Except FetchFailure (List Loaded))) := do
  match ← (Load.ask s.delays request).run s (Load.visits s) with
  | .ended result parts =>
    discard ((Load.ended result parts).linger s)
    return some result
  | _ => return none

end ContentPack
