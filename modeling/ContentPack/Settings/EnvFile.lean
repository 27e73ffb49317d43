import ContentPack.Table
import ContentPack.Text.Blank

/-!
# Files of environment variables

A file sets variables, one binding after another. A binding is a name, perhaps after the word
`export`, and after an equals sign a value: between quotes, where escapes are read and lines may
end, or plain up to the end of the line or to a blank with a `#` after it. Lines that are no binding
are skipped up to their end, and a name without an equals sign has no value.

In a value `${NAME}` stands for the value of another variable and `${NAME:-text}` for that value or
else the text.
-/

namespace ContentPack.EnvFile

/-! ### Lines and blanks -/

/-- The text with every end of a line written as a line feed. -/
def unifyLineEnds : List Char → List Char
  | [] => []
  | '\r' :: '\n' :: rest => '\n' :: unifyLineEnds rest
  | '\r' :: rest => '\n' :: unifyLineEnds rest
  | c :: rest => c :: unifyLineEnds rest

/-- A blank that does not end a line. -/
def isInlineBlank (c : Char) : Bool := Text.isBlank c && c != '\n'

/-- The text after blanks within a line. -/
def skipInline (cs : List Char) : List Char := cs.dropWhile isInlineBlank

/-- The text after the end of the line. -/
def skipLine (cs : List Char) : List Char := (cs.dropWhile (· != '\n')).drop 1

/-! ### Names and values -/

/-- The text after the word `export`, if blanks follow it. -/
def skipExport (cs : List Char) : List Char :=
  if "export".toList.isPrefixOf cs then
    let rest := cs.drop 6
    if (rest.head?.map isInlineBlank).getD false then skipInline rest else cs
  else cs

/-- A name and the text after it; a comment has no name. -/
def readName : List Char → Option (Option String × List Char)
  | '#' :: rest => some (none, '#' :: rest)
  | '\'' :: rest =>
    let name := rest.takeWhile (· != '\'')
    match rest.drop name.length with
    | _ :: after => if name.isEmpty then none else some (some (String.ofList name), after)
    | [] => none
  | cs =>
    let name := cs.takeWhile fun c => c != '=' && c != '#' && !Text.isBlank c
    if name.isEmpty then none
    else some (some (String.ofList name), cs.drop name.length)

/-- The place of the quote that ends a value; a backslash keeps the character after it from being
one. -/
def closing? (quote : Char) : Nat → List Char → Option Nat
  | _, [] => none
  | place, '\\' :: _ :: rest => closing? quote (place + 2) rest
  | place, c :: rest => if c = quote then some place else closing? quote (place + 1) rest

/-- What an escaped character stands for in single quotes. -/
def singleEscape? : Char → Option Char
  | '\\' => some '\\'
  | '\'' => some '\''
  | _ => none

/-- What an escaped character stands for in double quotes. -/
def doubleEscape? : Char → Option Char
  | '\\' => some '\\'
  | '\'' => some '\''
  | '"' => some '"'
  | 'a' => some '\x07'
  | 'b' => some '\x08'
  | 'f' => some '\x0c'
  | 'n' => some '\n'
  | 'r' => some '\r'
  | 't' => some '\t'
  | 'v' => some '\x0b'
  | _ => none

/-- Replace escapes by what they stand for. -/
def unescape (meaning? : Char → Option Char) : List Char → List Char
  | '\\' :: c :: rest =>
    match meaning? c with
    | some d => d :: unescape meaning? rest
    | none => '\\' :: unescape meaning? (c :: rest)
  | c :: rest => c :: unescape meaning? rest
  | [] => []

/-- A value in quotes and the text after it. -/
def readQuoted (quote : Char) (meaning? : Char → Option Char) (cs : List Char) :
    Option (String × List Char) := do
  let place ← closing? quote 0 cs
  return (String.ofList (unescape meaning? (cs.take place)), cs.drop (place + 1))

/-- The value before a comment, which starts with blanks and a `#`. -/
def dropComment : List Char → List Char
  | [] => []
  | c :: rest =>
    if isInlineBlank c && (skipInline rest).head? = some '#' then [] else c :: dropComment rest

/-- A plain value and the text after it; blanks around the value do not belong to it. -/
def readPlain (cs : List Char) : String × List Char :=
  let line := cs.takeWhile (· != '\n')
  (String.ofList (Text.trimChars Text.isBlank (dropComment line)), cs.drop line.length)

/-- A value and the text after it. -/
def readValue (cs : List Char) : Option (String × List Char) :=
  match skipInline cs with
  | '\'' :: rest => readQuoted '\'' singleEscape? rest
  | '"' :: rest => readQuoted '"' doubleEscape? rest
  | _ => some (readPlain cs)

/-! ### Bindings -/

/-- A name with its value, if it has one. -/
abbrev Binding := String × Option String

/-- The end of a binding: perhaps a comment, then the end of the line. -/
def readEnd (cs : List Char) : Option (List Char) :=
  let rest := skipInline cs
  let rest := if rest.head? = some '#' then rest.dropWhile (· != '\n') else rest
  match rest with
  | [] => some []
  | '\n' :: after => some after
  | _ => none

/-- What remains of a binding after its name. -/
def readAssignment (cs : List Char) : Option (Option String × List Char) :=
  match skipInline cs with
  | '=' :: rest => (readValue rest).map fun (value, rest) => (some value, rest)
  | rest => some (none, rest)

/-- The bindings of a text, of which at most a number of lines are read. Where something else
stands, the text is skipped up to the end of the line. -/
def readBindings : Nat → List Char → List Binding
  | 0, _ => []
  | n + 1, cs =>
    let start := cs.dropWhile Text.isBlank
    if start.isEmpty then []
    else
      let start := skipExport start
      match readName start with
      | none => readBindings n (skipLine start)
      | some (name, rest) =>
        match readAssignment rest with
        | none => readBindings n (skipLine ((skipInline rest).drop 1 |> skipInline))
        | some (value, rest) =>
          match readEnd rest with
          | none => readBindings n (skipLine rest)
          | some rest =>
            match name with
            | some name => (name, value) :: readBindings n rest
            | none => readBindings n rest

/-- The text without the mark of the byte order, which may come first. -/
def dropMark : List Char → List Char
  | '\uFEFF' :: rest => rest
  | cs => cs

/-- The bindings of a file. -/
def bindings (text : String) : List Binding :=
  let cs := unifyLineEnds (dropMark text.toList)
  readBindings cs.length cs

/-! ### References to other variables -/

/-- A reference after its first two characters: the name, the text for when there is no value, and
what follows. -/
def readReference (cs : List Char) : Option (String × String × List Char) :=
  let name := cs.takeWhile fun c => c != '\x7d' && c != ':'
  match cs.drop name.length with
  | '\x7d' :: rest => some (String.ofList name, "", rest)
  | ':' :: '-' :: rest =>
    let default := rest.takeWhile (· != '\x7d')
    match rest.drop default.length with
    | _ :: after => some (String.ofList name, String.ofList default, after)
    | [] => none
  | _ => none

/-- Replace references by the values of variables. -/
def expandChars (value? : String → Option String) : Nat → List Char → List Char
  | 0, cs => cs
  | _, [] => []
  | n + 1, c :: rest =>
    match c, rest with
    | '$', '\x7b' :: inner =>
      match readReference inner with
      | some (name, default, after) =>
        ((value? name).getD default).toList ++ expandChars value? n after
      | none => c :: expandChars value? n rest
    | _, _ => c :: expandChars value? n rest

/-- Replace references by the values of variables. -/
def expand (value? : String → Option String) (text : String) : String :=
  String.ofList (expandChars value? text.length text.toList)

/-- The value of a variable for a reference: that of the process, else the one set so far; a name
without a value counts as empty. -/
def known? (process : Table String String) (set : Table String (Option String)) (name : String) :
    Option String :=
  (process.get? name).or ((set.get? name).map (·.getD ""))

/-- The variables that a file sets, with their references replaced. -/
def assignments (process : Table String String) (text : String) : Table String (Option String) :=
  (bindings text).foldl (fun set (name, value) =>
    set.put name (value.map (expand (known? process set)))) []

/-- Whether a process can have such a variable: a name ends at an equals sign, and both a name and
a value end at a null character. -/
def isSettable (name value : String) : Bool :=
  !name.contains '=' && !name.contains '\x00' && !value.contains '\x00'

/-- Set the variables of a file one after another; what was set before stays. The result is `none`
if one of them cannot be set. -/
def load? (process : Table String String) (text : String) : Option (Table String String) :=
  (assignments process text).foldlM (fun set (name, value) =>
    match set.get? name, value with
    | none, some value => if isSettable name value then some (set.put name value) else none
    | _, _ => some set) process

end ContentPack.EnvFile
