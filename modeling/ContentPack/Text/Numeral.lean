import ContentPack.Text.Blank

/-!
# Whole numbers in text

How a whole number is read from text. The plain form is an optional minus sign and decimal digits
that start with a zero only if they are just that zero (`Numeral.readPlain`). Any other text is
first brought into plain form (`Numeral.plainForm?`): white space around it, a plus sign, zeros
and underscores before the first other digit, zeros after a point and single underscores go.
-/

namespace ContentPack.Text

/-- The value of decimal digits. -/
def decimalValue (cs : List Char) : Nat :=
  cs.foldl (fun n c => 10 * n + (c.toNat - '0'.toNat)) 0

/-- The most digits of a whole number. -/
def maxNumeralLength : Nat := 4300

/-- What a text says as a whole number. -/
inductive Numeral where
  /-- The number. -/
  | number (n : Int)
  /-- No number. -/
  | malformed
  /-- A number with too many digits. -/
  | tooLong
  deriving DecidableEq, Repr

namespace Numeral

/-! ### The plain form -/

/-- The number of the other sign. -/
def negate : Numeral → Numeral
  | .number n => .number (-n)
  | other => other

/-- Read digits without a sign. That there are too many of them is seen before what follows. -/
def readDigits (cs : List Char) : Numeral :=
  let digits := cs.takeWhile Char.isDigit
  if digits.isEmpty || (digits.head? == some '0' && digits != ['0']) then .malformed
  else if maxNumeralLength < digits.length then .tooLong
  else if digits.length < cs.length then .malformed
  else .number (decimalValue digits)

/-- Read a numeral in plain form. -/
def readPlain : List Char → Numeral
  | '-' :: rest => (readDigits rest).negate
  | rest => readDigits rest

/-! ### Towards the plain form -/

/-- Drop what may follow a leading zero: zeros and underscores, up to another digit or a minus
sign. A zero right before a point stays, and of nothing but zeros the last character. -/
def afterZeros? (last : Char) : List Char → Option (List Char)
  | [] => some [last]
  | c :: rest =>
    if c == '0' || c == '_' then afterZeros? c rest
    else if c.isDigit || c == '-' then some (c :: rest)
    else if c == '.' then some (last :: c :: rest)
    else none

/-- Drop the leading zeros of a text that starts with a digit or a minus sign. -/
def dropZeros? : List Char → Option (List Char)
  | '0' :: rest => afterZeros? '0' rest
  | c :: rest => if c.isDigit || c == '-' then some (c :: rest) else none
  | [] => none

/-- The part before the first point, if zeros and nothing else follow it. -/
def dropZeroFraction (cs : List Char) : List Char :=
  match cs.dropWhile (· != '.') with
  | _ :: zeros =>
    if !zeros.isEmpty && zeros.all (· == '0') then cs.takeWhile (· != '.') else cs
  | [] => cs

/-- Whether two underscores are neighbours. -/
def hasDoubleUnderscore : List Char → Bool
  | '_' :: '_' :: _ => true
  | _ :: rest => hasDoubleUnderscore rest
  | [] => false

/-- The text without its underscores, if they are single and inside it. -/
def dropUnderscores (cs : List Char) : List Char :=
  if cs.head? == some '_' || cs.getLast? == some '_' || hasDoubleUnderscore cs then cs
  else cs.filter (· != '_')

/-- The digits of a text without a sign, as far as they can be brought into plain form. -/
def plainDigits? (cs : List Char) : Option (List Char) :=
  (dropZeros? cs).map fun rest => dropUnderscores (dropZeroFraction rest)

/-- Bring a text into plain form. One sign may stand before it. -/
def plainForm? (cs : List Char) : Option (List Char) :=
  match trimChars isWhiteSpace cs with
  | '+' :: '-' :: _ => none
  | '-' :: '-' :: _ => none
  | '-' :: rest => (plainDigits? rest).map ('-' :: ·)
  | '+' :: rest => plainDigits? rest
  | rest => plainDigits? rest

/-- Read a whole number. -/
def read (s : String) : Numeral :=
  match readPlain s.toList with
  | .malformed => ((plainForm? s.toList).map readPlain).getD .malformed
  | plain => plain

end Numeral

end ContentPack.Text
