/-!
# Ranges of code points

Properties of characters are given by the ranges of the code points that have them.
-/

namespace ContentPack.Text

/-- Ranges of code points, each by its first and its last one. -/
abbrev Ranges := List (Nat × Nat)

/-- A code point lies in one of the ranges. -/
def Ranges.contains (r : Ranges) (n : Nat) : Bool :=
  r.any fun (first, last) => first ≤ n && n ≤ last

end ContentPack.Text
