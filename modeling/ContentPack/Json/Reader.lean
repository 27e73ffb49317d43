import ContentPack.Json.Basic
import ContentPack.Text.Numeral

/-!
# Reading JSON

`Json.read?` reads one value and refuses anything after it. The three words `NaN`, `Infinity` and
`-Infinity` are read as numbers, and control characters inside strings are refused.
-/

namespace ContentPack.Json

/-- What a reading step gives: a result and the characters after it, unless the text does not
follow the grammar. -/
abbrev Read (α : Type) := Option (α × List Char)

/-- The text after spaces, tabs and line ends. -/
def skipBlanks (cs : List Char) : List Char :=
  cs.dropWhile fun c => c == ' ' || c == '\t' || c == '\n' || c == '\r'

/-! ### Numbers -/

/-- A point and the digits after it; nothing if no digit follows. -/
def splitFraction : List Char → List Char × List Char
  | '.' :: rest =>
    let digits := rest.takeWhile Char.isDigit
    if digits.isEmpty then ([], '.' :: rest) else (digits, rest.dropWhile Char.isDigit)
  | cs => ([], cs)

/-- An exponent mark with its sign and digits; nothing if no digit follows. -/
def splitExponent (cs : List Char) : Option Int × List Char :=
  match cs with
  | c :: rest =>
    if c == 'e' || c == 'E' then
      let (isNegative, body) :=
        match rest with
        | '-' :: r => (true, r)
        | '+' :: r => (false, r)
        | r => (false, r)
      let digits := body.takeWhile Char.isDigit
      if digits.isEmpty then (none, cs)
      else
        let n : Int := Text.decimalValue digits
        (some (if isNegative then -n else n), body.dropWhile Char.isDigit)
    else (none, cs)
  | [] => (none, [])

/-- A number after its sign. -/
def readUnsigned (isNegative : Bool) (cs : List Char) : Read Json :=
  let run := cs.takeWhile Char.isDigit
  let whole := match run with
    | '0' :: _ => ['0']
    | _ => run
  if whole.isEmpty then none
  else
    let (fraction, rest) := splitFraction (cs.drop whole.length)
    let (power, rest) := splitExponent rest
    if fraction.isEmpty && power.isNone then
      let n : Int := Text.decimalValue whole
      some (.int (if isNegative then -n else n), rest)
    else
      let digits := Text.decimalValue (whole ++ fraction)
      some (.real (.ofDecimal isNegative digits (power.getD 0 - fraction.length)), rest)

/-- A number with its sign, or `-Infinity`. -/
def readNumber : List Char → Read Json
  | '-' :: 'I' :: 'n' :: 'f' :: 'i' :: 'n' :: 'i' :: 't' :: 'y' :: rest =>
    some (.real (.infinity true), rest)
  | '-' :: rest => readUnsigned true rest
  | cs => readUnsigned false cs

/-! ### Strings -/

/-- The value of a digit in base sixteen. -/
def hexValue? (c : Char) : Option Nat :=
  if c.isDigit then some (c.toNat - '0'.toNat)
  else if 'a' ≤ c ∧ c ≤ 'f' then some (c.toNat - 'a'.toNat + 10)
  else if 'A' ≤ c ∧ c ≤ 'F' then some (c.toNat - 'A'.toNat + 10)
  else none

/-- The value of four digits in base sixteen. -/
def hexQuad? (a b c d : Char) : Option Nat := do
  let a ← hexValue? a
  let b ← hexValue? b
  let c ← hexValue? c
  let d ← hexValue? d
  return ((a * 16 + b) * 16 + c) * 16 + d

/-- The character that a short escape stands for. -/
def shortEscape? : Char → Option Char
  | '"' => some '"'
  | '\\' => some '\\'
  | '/' => some '/'
  | 'b' => some '\x08'
  | 'f' => some '\x0c'
  | 'n' => some '\n'
  | 'r' => some '\r'
  | 't' => some '\t'
  | _ => none

/-- The code units of a string up to its closing quote, and the text after it. -/
def readUnits : List Char → Read (List Nat)
  | [] => none
  | '"' :: rest => some ([], rest)
  | '\\' :: 'u' :: a :: b :: c :: d :: rest =>
    match hexQuad? a b c d with
    | some unit => (readUnits rest).map fun (units, r) => (unit :: units, r)
    | none => none
  | '\\' :: c :: rest =>
    match shortEscape? c with
    | some e => (readUnits rest).map fun (units, r) => (e.toNat :: units, r)
    | none => none
  | c :: rest =>
    if c.toNat < 0x20 || c == '\\' then none
    else (readUnits rest).map fun (units, r) => (c.toNat :: units, r)

/-- The unit is the first half of a surrogate pair. -/
def isHighSurrogate (n : Nat) : Bool := 0xD800 ≤ n && n < 0xDC00

/-- The unit is the second half of a surrogate pair. -/
def isLowSurrogate (n : Nat) : Bool := 0xDC00 ≤ n && n < 0xE000

/-- The character with a code point; a lone surrogate becomes the replacement character. -/
def scalarChar (n : Nat) : Char :=
  if isHighSurrogate n || isLowSurrogate n then '\uFFFD' else Char.ofNat n

/-- The characters of a list of code units: the two halves of a pair make one character. -/
def joinUnits : List Nat → List Char
  | [] => []
  | [n] => [scalarChar n]
  | high :: low :: rest =>
    if isHighSurrogate high && isLowSurrogate low then
      Char.ofNat (0x10000 + (high - 0xD800) * 0x400 + (low - 0xDC00)) :: joinUnits rest
    else scalarChar high :: joinUnits (low :: rest)

/-- A string after its opening quote. -/
def readString (cs : List Char) : Read String :=
  (readUnits cs).map fun (units, rest) => (String.ofList (joinUnits units), rest)

/-! ### Values -/

/-- The text after a word, if the text starts with it. -/
def afterWord? (word : List Char) (cs : List Char) : Option (List Char) :=
  if word.isPrefixOf cs then some (cs.drop word.length) else none

/-- A value that holds no other value. -/
def readScalar (cs : List Char) : Read Json :=
  if let '"' :: rest := cs then (readString rest).map fun (s, r) => (.str s, r)
  else if let some rest := afterWord? "null".toList cs then some (.null, rest)
  else if let some rest := afterWord? "true".toList cs then some (.bool true, rest)
  else if let some rest := afterWord? "false".toList cs then some (.bool false, rest)
  else if let some rest := afterWord? "NaN".toList cs then some (.real .nan, rest)
  else if let some rest := afterWord? "Infinity".toList cs then some (.real (.infinity false), rest)
  else readNumber cs

mutual

/-- A value, whose first character is the first of the text. Every call reads at least one
character, so the length of the text is fuel enough. -/
def readValue : Nat → List Char → Read Json
  | 0, _ => none
  | fuel + 1, cs =>
    match cs with
    | '[' :: rest =>
      match skipBlanks rest with
      | ']' :: rest => some (.arr [], rest)
      | rest => (readItems fuel rest).map fun (items, r) => (.arr items, r)
    | '\x7b' :: rest =>
      match skipBlanks rest with
      | '\x7d' :: rest => some (.obj [], rest)
      | rest =>
        (readFields fuel rest).map fun (fields, r) =>
          (.obj (Table.ofEntries fields), r)
    | cs => readScalar cs

/-- The items of an array, up to its closing bracket. -/
def readItems : Nat → List Char → Option (List Json × List Char)
  | 0, _ => none
  | fuel + 1, cs => do
    let (item, rest) ← readValue fuel cs
    match skipBlanks rest with
    | ']' :: rest => return ([item], rest)
    | ',' :: rest =>
      let (items, rest) ← readItems fuel (skipBlanks rest)
      return (item :: items, rest)
    | _ => none

/-- The fields of an object, up to its closing brace. -/
def readFields : Nat → List Char → Option (List (String × Json) × List Char)
  | 0, _ => none
  | fuel + 1, cs => do
    let '"' :: rest := cs | none
    let (key, rest) ← readString rest
    let ':' :: rest := skipBlanks rest | none
    let (value, rest) ← readValue fuel (skipBlanks rest)
    match skipBlanks rest with
    | '\x7d' :: rest => return ([(key, value)], rest)
    | ',' :: rest =>
      let (fields, rest) ← readFields fuel (skipBlanks rest)
      return ((key, value) :: fields, rest)
    | _ => none

end

/-- Read one value from a text, with nothing but blanks around it. -/
def readChars? (cs : List Char) : Option Json := do
  let (value, rest) ← readValue (cs.length + 1) (skipBlanks cs)
  if (skipBlanks rest).isEmpty then return value else none

/-- Read one value from a text, with nothing but blanks around it. -/
def read? (s : String) : Option Json := readChars? s.toList

end ContentPack.Json
