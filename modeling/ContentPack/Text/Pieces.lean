/-!
# Pieces of a text

A text is cut at the first or the last mark that it holds, or into pieces at every one.
-/

namespace ContentPack.Text

/-- The pieces of a text between separators. -/
def splitOn (separator : Char) : List Char → List (List Char)
  | [] => [[]]
  | c :: cs =>
    let pieces := splitOn separator cs
    if c = separator then [] :: pieces
    else match pieces with
      | piece :: rest => (c :: piece) :: rest
      | [] => [[c]]

/-- What stands before the first mark and after it; without a mark, all stands before it. -/
def cut (mark : Char) : List Char → List Char × Option (List Char)
  | [] => ([], none)
  | c :: cs =>
    if c = mark then ([], some cs)
    else
      let (before, after) := cut mark cs
      (c :: before, after)

/-- What stands before the last mark and after it; without a mark, all stands after it. -/
def cutLast (mark : Char) (cs : List Char) : Option (List Char) × List Char :=
  match cut mark cs.reverse with
  | (after, some before) => (some before.reverse, after.reverse)
  | (_, none) => (none, cs)

end ContentPack.Text
