import ContentPack.Markup.NamedReferences

/-!
# Character references

A reference stands for a character by its name or by its code point. References are read by two
rules. Inside an attribute (`decodeAttribute`) a name without a semicolon is left alone when a
letter, a digit or an equals sign follows it. In text that was escaped once more (`unescape`) the
longest name that fits is taken, and code points that must not appear in text are dropped.
-/

namespace ContentPack.Markup

/-! ### Code points -/

/-- What the code points from `0x80` to `0x9F` stand for when they are written as numbers. -/
def c1Replacements : List Nat := [
  0x20AC, 0x81, 0x201A, 0x192, 0x201E, 0x2026, 0x2020, 0x2021,
  0x2C6, 0x2030, 0x160, 0x2039, 0x152, 0x8D, 0x17D, 0x8F,
  0x90, 0x2018, 0x2019, 0x201C, 0x201D, 0x2022, 0x2013, 0x2014,
  0x2DC, 0x2122, 0x161, 0x203A, 0x153, 0x9D, 0x17E, 0x178]

/-- The character that replaces what is no character. -/
def replacement : Char := '\uFFFD'

/-- The character with a code point that was written as a number. -/
def numberedChar (n : Nat) : Char :=
  if n = 0 ∨ (0xD800 ≤ n ∧ n < 0xE000) ∨ 0x10FFFF < n then replacement
  else if 0x80 ≤ n ∧ n < 0xA0 then Char.ofNat (c1Replacements.getD (n - 0x80) n)
  else Char.ofNat n

/-- The code point is a control or is reserved never to be a character. -/
def isForbidden (n : Nat) : Bool :=
  (1 ≤ n && n ≤ 8) || n == 0xB || (0xE ≤ n && n ≤ 0x1F) || n == 0x7F ||
    (0xFDD0 ≤ n && n ≤ 0xFDEF) || (n ≤ 0x10FFFF && 0xFFFE ≤ n % 0x10000)

/-- The value of a digit in base sixteen. -/
def hexDigitValue (c : Char) : Nat :=
  if c.isDigit then c.toNat - '0'.toNat
  else if 'a' ≤ c then c.toNat - 'a'.toNat + 10
  else c.toNat - 'A'.toNat + 10

/-- The character is a digit in base sixteen. -/
def isHexDigit (c : Char) : Bool :=
  c.isDigit || ('a' ≤ c && c ≤ 'f') || ('A' ≤ c && c ≤ 'F')

/-- One if the list starts with a semicolon, else zero. -/
def semicolonLength : List Char → Nat
  | ';' :: _ => 1
  | _ => 0

/-- The code point of a numbered reference, given what follows the ampersand, and how many
characters it takes. -/
def numbered? : List Char → Option (Nat × Nat)
  | '#' :: rest =>
    let (base, isDigit, skipped, body) : Nat × (Char → Bool) × Nat × List Char :=
      match rest with
      | 'x' :: body | 'X' :: body => (16, isHexDigit, 2, body)
      | body => (10, Char.isDigit, 1, body)
    let digits := body.takeWhile isDigit
    if digits.isEmpty then none
    else
      let value := digits.foldl (fun n c => base * n + hexDigitValue c) 0
      some (value, skipped + digits.length + semicolonLength (body.drop digits.length))
  | _ => none

/-! ### Names -/

/-- The characters that a name stands for. -/
def namedChars? (name : List Char) : Option (List Char) :=
  (namedReferences.lookup (String.ofList name)).map (·.map Char.ofNat)

/-- The name may be written without a semicolon. -/
def isUnterminated (name : List Char) : Bool := unterminatedNames.contains (String.ofList name)

/-- The longest start of a text, of at most `n` characters, that may be written without a
semicolon. -/
def longestUnterminated : Nat → List Char → Option (List Char)
  | 0, _ => none
  | n + 1, cs =>
    let candidate := cs.take (n + 1)
    if isUnterminated candidate then some candidate else longestUnterminated n cs

/-- The characters of a name at the start of a text, and the length of the name. A semicolon ends a
name; without one the longest name counts. -/
def named? (run rest : List Char) : Option (List Char × Nat) :=
  let terminated := if semicolonLength rest = 1 then namedChars? run else none
  match terminated with
  | some chars => some (chars, run.length + 1)
  | none => do
    let name ← longestUnterminated run.length run
    let chars ← namedChars? name
    return (chars, name.length)

/-! ### The two rules -/

/-- A reference inside an attribute, given what follows the ampersand: its characters and its
length. -/
def attributeReference? (cs : List Char) : Option (List Char × Nat) :=
  match numbered? cs with
  | some (n, length) => some ([numberedChar n], length)
  | none =>
    let run := cs.takeWhile Char.isAlphanum
    match named? run (cs.drop run.length) with
    | none => none
    | some (chars, length) =>
      if run.length < length then some (chars, length)
      else
        match cs.drop length with
        | c :: _ => if c.isAlphanum || c == '=' then none else some (chars, length)
        | [] => some (chars, length)

/-- The character ends a name in escaped text. -/
def endsName (c : Char) : Bool :=
  c == '\t' || c == '\n' || c == '\x0c' || c == ' ' || c == '<' || c == '&' || c == '#' || c == ';'

/-- The most characters that are looked at for a name. -/
def maxNameLength : Nat := 32

/-- A reference in escaped text, given what follows the ampersand: its characters and its length. -/
def textReference? (cs : List Char) : Option (List Char × Nat) :=
  match numbered? cs with
  | some (n, length) => some (if isForbidden n then [] else [numberedChar n], length)
  | none =>
    let run := (cs.takeWhile (!endsName ·)).take maxNameLength
    named? run (cs.drop run.length)

/-- Replace references by the rule `read`, after leaving out `skip` characters. -/
def replaceReferences (read : List Char → Option (List Char × Nat)) : Nat → List Char → List Char
  | _, [] => []
  | skip + 1, _ :: rest => replaceReferences read skip rest
  | 0, c :: rest =>
    if c == '&' then
      match read rest with
      | some (chars, length) => chars ++ replaceReferences read length rest
      | none => c :: replaceReferences read 0 rest
    else c :: replaceReferences read 0 rest

/-- The value of an attribute as it was meant. -/
def decodeAttribute (cs : List Char) : List Char := replaceReferences attributeReference? 0 cs

/-- Text without its escapes. -/
def unescape (cs : List Char) : List Char := replaceReferences textReference? 0 cs

end ContentPack.Markup
