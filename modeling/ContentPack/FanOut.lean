/-!
# Bounded fan-out

Items are worked on at the same time, but never more than a number of them. Every item that is
worked on has a seat, and the others wait in a queue. In a turn every seat is visited, and then free
seats are given to the queue; a seat whose item is finished at its first visit is free again at
once. When an item leaves its seat later, the next item in the queue takes its place; so items start
in their order, and the number of seats does not grow. What comes out is listed by the position of
the item and not by the time at which it was finished.
-/

namespace ContentPack

/-- An item that is worked on, the work that remains, and its position among all items. -/
structure Seat (ι π : Type) where
  /-- The position of the item. -/
  position : Nat
  /-- The item. -/
  item : ι
  /-- The work that remains. -/
  task : π
  /-- The item keeps others from being worked on. -/
  isTaken : Bool := true

/-- What an item does after a visit. -/
inductive Move (π ρ : Type) where
  /-- It stays, and there is more work. -/
  | stay (task : π)
  /-- It leaves with a result. -/
  | leave (result : ρ)
  /-- It gives its seat to others, but there is more work. -/
  | linger (task : π)

/-- Items that are worked on, that wait, and that are finished. -/
structure FanOut (ι π ρ : Type) where
  /-- The seats, in the order in which they are visited. -/
  seats : List (Seat ι π) := []
  /-- How many seats are free. -/
  free : Nat := 0
  /-- The items that wait for a seat, with their positions. -/
  queue : List (Nat × ι) := []
  /-- The results of finished items, by position, in the order in which they came. -/
  finished : List (Nat × ρ) := []

namespace FanOut

variable {ι π ρ : Type}

/-- The number of seats for a limit: none and zero are no limit, and there is at least one seat. -/
def seatLimit (limit : Option Int) : Option Nat :=
  match limit with
  | none | some 0 => none
  | some n => some (max 1 n).toNat

/-- Take a seat. -/
def sit (fresh : ι → π) (waiting : Nat × ι) : Seat ι π :=
  ⟨waiting.1, waiting.2, fresh waiting.2, true⟩

/-- Items in their order, and as many free seats as the limit allows. -/
def start (limit : Option Nat) (items : List ι) : FanOut ι π ρ where
  free := limit.getD items.length
  queue := items.mapIdx fun position item => (position, item)

/-- The work on an item goes on. -/
def stay (f : FanOut ι π ρ) (seat : Seat ι π) (task : π) : FanOut ι π ρ :=
  { f with seats := f.seats ++ [{ seat with task }] }

/-- The place of an item is given to the next one, or is free. -/
def giveUp (fresh : ι → π) (f : FanOut ι π ρ) (seat : Seat ι π) : FanOut ι π ρ :=
  if seat.isTaken then
    match f.queue with
    | [] => { f with free := f.free + 1 }
    | next :: queue => { f with seats := f.seats ++ [sit fresh next], queue }
  else f

/-- An item does what it does after a visit. -/
def move (fresh : ι → π) (f : FanOut ι π ρ) (seat : Seat ι π) : Move π ρ → FanOut ι π ρ
  | .stay task => f.stay seat task
  | .linger task => (f.giveUp fresh seat).stay { seat with isTaken := false } task
  | .leave result =>
    let f := f.giveUp fresh seat
    { f with finished := f.finished ++ [(seat.position, result)] }

variable {m : Type → Type} [Monad m]

/-- Visit the item of a seat and seat it, or the next one, behind those that were visited. -/
def step (fresh : ι → π) (visit : ι → π → m (Move π ρ)) (f : FanOut ι π ρ) (seat : Seat ι π) :
    m (FanOut ι π ρ) := do
  return f.move fresh seat (← visit seat.item seat.task)

/-- Give free seats to waiting items, as long as there are any; each is visited at once. -/
def fill (fresh : ι → π) (visit : ι → π → m (Move π ρ)) :
    List (Nat × ι) → FanOut ι π ρ → m (FanOut ι π ρ)
  | [], f => return f
  | next :: queue, f =>
    match f.free with
    | 0 => return { f with queue := next :: queue }
    | free + 1 => do fill fresh visit queue (← step fresh visit { f with free } (sit fresh next))

/-- Visit every seat once, and give free seats away. -/
def turn (fresh : ι → π) (visit : ι → π → m (Move π ρ)) (f : FanOut ι π ρ) :
    m (FanOut ι π ρ) := do
  let f ← f.seats.foldlM (step fresh visit) { f with seats := [] }
  fill fresh visit f.queue { f with queue := [] }

/-- Nothing is worked on, and nothing waits. -/
def isDone (f : FanOut ι π ρ) : Bool := f.seats.isEmpty && f.queue.isEmpty

/-- Visit every seat a number of times. -/
def turns (fresh : ι → π) (visit : ι → π → m (Move π ρ)) :
    Nat → FanOut ι π ρ → m (FanOut ι π ρ)
  | 0, f => return f
  | n + 1, f => do
    if f.isDone then return f
    else turns fresh visit n (← f.turn fresh visit)

/-- The result of the item at a position, if it is finished. -/
def result? (f : FanOut ι π ρ) (position : Nat) : Option ρ :=
  (f.finished.find? (·.1 == position)).map (·.2)

end FanOut

end ContentPack
