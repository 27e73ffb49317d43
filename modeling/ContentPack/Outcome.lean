/-!
# Outcomes of loads

Loading a structure has three outcomes: it has not been tried yet, it gave a value that can be
used, or it gave a value that was rejected for stated reasons. Outcomes are composed by three
rules. What is pending makes the whole pending; else reasons are collected from left to right; only
when all parts succeeded is anything computed from their values.

The functions that compute take place in any monad, so that they may fail or leave a trace;
`map`, `bind`, `combine` and `combineAll` are the pure ones.
-/

namespace ContentPack

/-- One reason why a version of a structure was rejected. -/
structure Rejection where
  /-- The kind of the structure. -/
  kind : String
  /-- The identifier of the structure. -/
  structureId : String
  /-- The rejected version. -/
  version : Option Int := none
  /-- The reason, in words. -/
  reason : String
  deriving DecidableEq, Repr

/-- A reason as one line of text. -/
def Rejection.text (r : Rejection) : String :=
  let version := match r.version with
    | some v => " v" ++ toString v
    | none => ""
  r.kind ++ " " ++ r.structureId ++ version ++ ": " ++ r.reason

/-- The reasons as a list with one line each. -/
def Rejection.report (reasons : List Rejection) : String :=
  "\n".intercalate (reasons.map fun r => "- " ++ r.text)

/-- The outcome of a load, or of several composed loads. -/
inductive Outcome (α : Type) where
  /-- Not tried yet. -/
  | pending
  /-- Loaded, and can be used. -/
  | success (value : α)
  /-- Loaded, and rejected. -/
  | failure (reasons : List Rejection)
  deriving DecidableEq, Repr, Inhabited

namespace Outcome

variable {α β γ : Type} {m : Type → Type} [Monad m]

/-- The load has not been tried. -/
def isPending : Outcome α → Bool
  | pending => true
  | _ => false

/-- The load gave a value that can be used. -/
def isSuccess : Outcome α → Bool
  | success _ => true
  | _ => false

/-- The value of a success. -/
def value? : Outcome α → Option α
  | success value => some value
  | _ => none

/-! ### One outcome -/

/-- Go on with the value of a success; the other outcomes pass through. -/
def bindM (o : Outcome α) (next : α → m (Outcome β)) : m (Outcome β) :=
  match o with
  | pending => pure pending
  | success value => next value
  | failure reasons => pure (failure reasons)

/-- Compute from the value of a success; the other outcomes pass through. -/
def mapM (f : α → m β) (o : Outcome α) : m (Outcome β) :=
  o.bindM fun value => success <$> f value

/-- Go on with the value of a success. -/
def bind (o : Outcome α) (next : α → Outcome β) : Outcome β :=
  match o with
  | pending => pending
  | success value => next value
  | failure reasons => failure reasons

/-- Compute from the value of a success. -/
def map (f : α → β) (o : Outcome α) : Outcome β := o.bind fun value => success (f value)

/-! ### Two outcomes -/

/-- Compute from the values of two successes. -/
def combineM (f : α → β → m γ) (left : Outcome α) (right : Outcome β) : m (Outcome γ) :=
  match left, right with
  | pending, _ | _, pending => pure pending
  | failure r, failure s => pure (failure (r ++ s))
  | failure r, success _ => pure (failure r)
  | success _, failure s => pure (failure s)
  | success a, success b => success <$> f a b

/-- Compute from the values of two successes. -/
def combine (f : α → β → γ) (left : Outcome α) (right : Outcome β) : Outcome γ :=
  match left, right with
  | pending, _ | _, pending => pending
  | failure r, failure s => failure (r ++ s)
  | failure r, success _ => failure r
  | success _, failure s => failure s
  | success a, success b => success (f a b)

/-! ### Any number of outcomes -/

/-- The values of successes in order, as one outcome. -/
def flatten (outcomes : List (Outcome α)) : Outcome (List α) :=
  outcomes.foldl (combine fun values value => values ++ [value]) (success [])

/-- Compute from the values of all outcomes, in order. -/
def combineAllM (outcomes : List (Outcome α)) (f : List α → m β) : m (Outcome β) :=
  (flatten outcomes).mapM f

/-- Compute from the values of all outcomes, in order. -/
def combineAll (outcomes : List (Outcome α)) (f : List α → β) : Outcome β :=
  (flatten outcomes).map f

/-- Combine a first outcome with the others, from the left. -/
def reduceM (f : α → α → m α) (first : Outcome α) (others : List (Outcome α)) :
    m (Outcome α) :=
  others.foldlM (combineM f) first

end Outcome

end ContentPack
