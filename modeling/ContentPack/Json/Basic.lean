import ContentPack.Number.Binary64
import ContentPack.Table

/-!
# JSON values

Objects keep the order of their keys, and whole numbers are kept apart from numbers written with a
fraction or an exponent. A key that is written twice keeps its first place and its last value
(`Json.putField`).
-/

namespace ContentPack

/-- A JSON value. -/
inductive Json where
  /-- `null` -/
  | null
  /-- `true` or `false` -/
  | bool (b : Bool)
  /-- A number without fraction and exponent, of any size. -/
  | int (n : Int)
  /-- Any other number. -/
  | real (x : Binary64)
  /-- A string. -/
  | str (s : String)
  /-- An array. -/
  | arr (items : List Json)
  /-- An object, in the order of its keys. -/
  | obj (fields : List (String × Json))
  deriving Repr, Inhabited

namespace Json

/-- The value of a key of an object; nothing for other values. -/
def get? (key : String) : Json → Option Json
  | .obj fields => Table.get? key fields
  | _ => none

/-- The value is empty in the sense that it can be skipped: `null`, `false`, zero, an empty string,
array or object. -/
def isEmptyValue : Json → Bool
  | .null => true
  | .bool b => !b
  | .int n => n == 0
  | .real x => x.isZero
  | .str s => s.isEmpty
  | .arr items => items.isEmpty
  | .obj fields => fields.isEmpty

end Json

end ContentPack
