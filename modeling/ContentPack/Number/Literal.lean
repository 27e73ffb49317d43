import ContentPack.Number.Binary64
import ContentPack.Text.Numeral

/-!
# Decimal literals

How a number is read from text: one sign, digits with at most one point among or beside them, and an
exponent; or a word for infinity or for no number. White space may stand around it. If the text is
no literal as it stands, single underscores between characters are left out.
-/

namespace ContentPack

namespace Literal

/-- The digits before and after the point; at least one of them is there. -/
def splitPoint? (cs : List Char) : Option (List Char × List Char) :=
  let whole := cs.takeWhile (· != '.')
  let fraction := (cs.drop whole.length).drop 1
  if (whole ++ fraction).all Char.isDigit && !(whole ++ fraction).isEmpty then
    some (whole, fraction)
  else none

/-- The sign and what follows it. -/
def splitSign : List Char → Bool × List Char
  | '-' :: rest => (true, rest)
  | '+' :: rest => (false, rest)
  | rest => (false, rest)

/-- The value of an exponent. -/
def exponent? (cs : List Char) : Option Int :=
  let (isNegative, digits) := splitSign cs
  if !digits.isEmpty && digits.all Char.isDigit then
    let n : Int := Text.decimalValue digits
    some (if isNegative then -n else n)
  else none

/-- A letter that starts an exponent. -/
def isExponentMark (c : Char) : Bool := c == 'e' || c == 'E'

/-- A number without its sign. -/
def unsigned? (isNegative : Bool) (cs : List Char) : Option Binary64 := do
  let mantissa := cs.takeWhile (!isExponentMark ·)
  let exponent ← match cs.drop mantissa.length with
    | [] => some 0
    | _ :: digits => exponent? digits
  let (whole, fraction) ← splitPoint? mantissa
  return .ofDecimal isNegative (Text.decimalValue (whole ++ fraction))
    (exponent - (fraction.length : Int))

/-- A literal, without anything around it. -/
def parse? (cs : List Char) : Option Binary64 :=
  let (isNegative, body) := splitSign cs
  match String.ofList (body.map Char.toLower) with
  | "inf" | "infinity" => some (.infinity isNegative)
  | "nan" => some .nan
  | _ => unsigned? isNegative body

/-- Two underscores stand side by side. -/
def hasDoubleUnderscore : List Char → Bool
  | '_' :: '_' :: _ => true
  | _ :: rest => hasDoubleUnderscore rest
  | [] => false

/-- The text without its underscores, if there are any and each stands alone and inside. -/
def withoutUnderscores? (cs : List Char) : Option (List Char) :=
  if cs.contains '_' && !hasDoubleUnderscore cs && cs.head? != some '_' &&
      cs.getLast? != some '_' then
    some (cs.filter (· != '_'))
  else none

end Literal

/-- The number that a text says. -/
def Binary64.ofText? (s : String) : Option Binary64 :=
  (Literal.parse? (Text.trimChars Text.isWhiteSpace s.toList)).or
    ((Literal.withoutUnderscores? s.toList).bind Literal.parse?)

end ContentPack
