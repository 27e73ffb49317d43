import ContentPack.Progress
import ContentPack.Wire.Request

/-!
# Reports of progress on the wire

The reports on a group are listed in their order, where items that were reported between two other
reports are one entry with their indexes in order.
-/

namespace ContentPack.Wire

/-- Entries, with the items that were reported since the last one. -/
structure Trail where
  /-- The entries. -/
  entries : List Json := []
  /-- The indexes of the items since then. -/
  seen : List Int := []

namespace Trail

/-- The entries, with an entry for the items that were reported since the last one. -/
def closed (t : Trail) : List Json :=
  if t.seen.isEmpty then t.entries
  else t.entries ++ [.arr [.str "items", wholes (t.seen.mergeSort (· ≤ ·))]]

/-- Add an entry. -/
def add (t : Trail) (parts : List Json) : Trail := { entries := t.closed ++ [.arr parts] }

/-- Take note of a report, if it is on a group. -/
def note (group : Group) (t : Trail) : Event → Trail
  | .item g index => if g = group then { t with seen := t.seen ++ [index] } else t
  | .count g n => if g = group then t.add [.str "count", .int n] else t
  | .reset g => if g = group then t.add [.str "reset"] else t
  | .resetAll => t.add [.str "reset_all"]

end Trail

/-- The reports on a group. -/
def events (group : Group) (reports : List Event) : Json :=
  .arr (reports.foldl (Trail.note group) {}).closed

end ContentPack.Wire
