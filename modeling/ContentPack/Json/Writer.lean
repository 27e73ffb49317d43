import ContentPack.Json.Basic
import ContentPack.Number.Shortest
import ContentPack.Text.Quoted

/-!
# Writing JSON

`Json.write` writes a value on one line, with a space after every comma and colon. Only quotes,
backslashes and control characters are escaped.
-/

namespace ContentPack.Json

/-- One character inside a string. -/
def escapeChar (c : Char) : List Char :=
  match c with
  | '"' => ['\\', '"']
  | '\\' => ['\\', '\\']
  | '\n' => ['\\', 'n']
  | '\r' => ['\\', 'r']
  | '\t' => ['\\', 't']
  | '\x08' => ['\\', 'b']
  | '\x0c' => ['\\', 'f']
  | c => if c.toNat < 0x20 then '\\' :: 'u' :: Text.hexDigits 4 c.toNat else [c]

/-- A string with its quotes. -/
def writeString (s : String) : String :=
  String.ofList ('"' :: (s.toList.flatMap escapeChar ++ ['"']))

/-- A number that is not whole. -/
def writeReal (x : Binary64) : String :=
  if x.isNaN then "NaN"
  else if x.isFinite then x.text
  else if x.isNegative then "-Infinity" else "Infinity"

mutual

/-- A value on one line. -/
def write : Json → String
  | .null => "null"
  | .bool b => if b then "true" else "false"
  | .int n => toString n
  | .real x => writeReal x
  | .str s => writeString s
  | .arr items => "[" ++ ", ".intercalate (writeItems items) ++ "]"
  | .obj fields => "\x7b" ++ ", ".intercalate (writeFields fields) ++ "\x7d"

/-- The items of an array, each written. -/
def writeItems : List Json → List String
  | [] => []
  | item :: items => write item :: writeItems items

/-- The fields of an object, each written. -/
def writeFields : List (String × Json) → List String
  | [] => []
  | (key, value) :: fields => (writeString key ++ ": " ++ write value) :: writeFields fields

end

end ContentPack.Json
