import ContentPack.Fetch.Request

/-!
# Sources of content

A source answers requests while its state changes, for instance a log of what it was asked. It may
put an answer off, but only `delays` times; then the answer comes with `settle`. So whoever waits
for an answer can let others go on meanwhile, and still every answer comes.

A `Slot` is the place of an answer that is waited for, and `Source.visit` moves it on by one step.
-/

namespace ContentPack

/-- A source of content with states of type `σ`. -/
structure Source (σ : Type) where
  /-- How often an answer may be put off. -/
  delays : Nat
  /-- Ask, and perhaps get an answer. -/
  poll : (r : Request) → σ → Option r.Answer × σ
  /-- Ask, and get an answer. -/
  settle : (r : Request) → σ → r.Answer × σ

/-- The place of an answer with a value of type `α`. -/
inductive Slot (α : Type) where
  /-- The answer may still be put off a number of times. -/
  | waiting (left : Nat)
  /-- The answer came. -/
  | answered (answer : Except FetchFailure α)

namespace Slot

variable {α : Type}

/-- The answer has not come yet. -/
def isWaiting : Slot α → Bool
  | waiting _ => true
  | answered _ => false

/-- The value of the answer. -/
def value? : Slot α → Option α
  | answered (.ok value) => some value
  | _ => none

/-- The failure of the answer. -/
def failure? : Slot α → Option FetchFailure
  | answered (.error failure) => some failure
  | _ => none

end Slot

namespace Source

variable {σ : Type}

/-- Look for an answer once. -/
def visit (s : Source σ) (r : Request) : Slot r.Reply → StateM σ (Slot r.Reply)
  | .waiting 0 => fun state =>
    let (answer, state) := s.settle r state
    (.answered answer, state)
  | .waiting (left + 1) => fun state =>
    match s.poll r state with
    | (none, state) => (.waiting left, state)
    | (some answer, state) => (.answered answer, state)
  | slot => pure slot

/-- Wait for an answer that may still be put off a number of times. -/
def await (s : Source σ) (r : Request) : Nat → StateM σ r.Answer
  | 0 => s.settle r
  | left + 1 => fun state =>
    match s.poll r state with
    | (none, state) => s.await r left state
    | (some answer, state) => (answer, state)

/-- Ask, and wait for the answer. -/
def fetch (s : Source σ) (r : Request) : StateM σ r.Answer := s.await r s.delays

end Source

end ContentPack
