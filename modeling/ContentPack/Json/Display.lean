import ContentPack.Json.Basic
import ContentPack.Number.Shortest
import ContentPack.Text.Quoted

/-!
# Values in messages

How a value is shown inside a message: strings are quoted, lists stand in brackets and objects in
braces, and the three constants are `None`, `True` and `False`.
-/

namespace ContentPack.Json

mutual

/-- The value as it is shown in a message. -/
def display : Json → String
  | .null => "None"
  | .bool b => if b then "True" else "False"
  | .int n => toString n
  | .real x => x.text
  | .str s => Text.quoted s
  | .arr items => "[" ++ ", ".intercalate (displayItems items) ++ "]"
  | .obj fields => "\x7b" ++ ", ".intercalate (displayFields fields) ++ "\x7d"

/-- The items of a list, each shown. -/
def displayItems : List Json → List String
  | [] => []
  | item :: items => display item :: displayItems items

/-- The fields of an object, each shown. -/
def displayFields : List (String × Json) → List String
  | [] => []
  | (key, value) :: fields => (Text.quoted key ++ ": " ++ display value) :: displayFields fields

end

/-- The value in the middle of a sentence: a text itself, and any other value as it is shown. -/
def plainDisplay : Json → String
  | .str s => s
  | j => j.display

end ContentPack.Json
