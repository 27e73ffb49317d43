import ContentPack.Number.Binary64

/-!
# Shortest decimal text of a number

`Binary64.shortest` finds the fewest decimal digits that read back as the number, and of those the
nearest to it. `Binary64.text` writes them: positionally from `0.0001` up to below `10 ^ 16`, and
with an exponent of at least two digits elsewhere.
-/

namespace ContentPack

/-- The decimal number `digits · 10 ^ exponent`. -/
structure Decimal where
  /-- The digits, as one natural number. -/
  digits : Nat
  /-- The power of ten of the last digit. -/
  exponent : Int
  deriving DecidableEq, Repr

namespace Binary64

/-! ### The digits -/

/-- Candidates on the decimal grid of the given last place: the neighbours of `num / den`, the
nearer one first, and the even one first where both are as near. -/
def gridNeighbours (num den : Nat) (place : Int) : List Nat :=
  let scaledNum := if 0 ≤ place then num else num * Nat.pow 10 (-place).toNat
  let scaledDen := if 0 ≤ place then den * Nat.pow 10 place.toNat else den
  let low := scaledNum / scaledDen
  let twice := 2 * (scaledNum % scaledDen)
  if twice < scaledDen || (twice == scaledDen && low % 2 == 0) then [low, low + 1]
  else [low + 1, low]

/-- The decimal reads back as the number with this unsigned pattern. -/
def readsBack (unsigned : Nat) (d : Decimal) : Bool :=
  (ofDecimal false d.digits d.exponent).bits.toNat == unsigned

/-- The first decimal that reads back, on grids whose last place falls by one from `place`. -/
def shortestFrom (unsigned num den : Nat) : Nat → Int → Decimal
  | 0, place => ⟨(gridNeighbours num den place).headD 0, place⟩
  | steps + 1, place =>
    match ((gridNeighbours num den place).map (⟨·, place⟩)).find? (readsBack unsigned) with
    | some d => d
    | none => shortestFrom unsigned num den steps (place - 1)

/-- The number of digits of the whole part of a quotient, less one; negative below one. -/
def decimalExponent (num den : Nat) : Int :=
  if den ≤ num then (Nat.toDigits 10 (num / den)).length - 1
  else -((Nat.toDigits 10 (den / num)).length : Int)

/-- The shortest decimal that reads back as the magnitude of a finite number. Seventeen digits are
always enough. The search starts one place high, because a quotient just below a power of ten may
round up to it; so the answer never ends in a zero, which a higher place would have dropped. -/
def shortest (x : Binary64) : Decimal :=
  if x.isZero then ⟨0, 0⟩
  else
    let (num, den) := x.magnitude
    shortestFrom (x.bits.toNat % Nat.pow 2 63) num den 19 (decimalExponent num den + 1)

/-! ### The text -/

/-- Characters of a decimal between `10 ^ -5` and `10 ^ 16`: a point always, and a digit on both of
its sides. -/
def positional (digits : List Char) (exponent : Int) : List Char :=
  if 0 ≤ exponent then digits ++ List.replicate exponent.toNat '0' ++ ['.', '0']
  else
    let places := (-exponent).toNat
    if places < digits.length then
      digits.take (digits.length - places) ++ '.' :: digits.drop (digits.length - places)
    else '0' :: '.' :: List.replicate (places - digits.length) '0' ++ digits

/-- Characters of a decimal with an exponent: one digit, a point if more follow, and a signed
exponent of at least two digits. -/
def scientific (digits : List Char) (leading : Int) : List Char :=
  let whole := digits.take 1
  let rest := digits.drop 1
  let power := Nat.toDigits 10 leading.natAbs
  whole ++ (if rest.isEmpty then [] else '.' :: rest) ++
    'e' :: (if leading < 0 then '-' else '+') ::
      (List.replicate (2 - power.length) '0' ++ power)

/-- The text of a number: `nan`, `inf`, or the shortest decimal with its sign. -/
def text (x : Binary64) : String :=
  if x.isNaN then "nan"
  else if !x.isFinite then if x.isNegative then "-inf" else "inf"
  else
    let d := x.shortest
    let digits := Nat.toDigits 10 d.digits
    let leading : Int := d.exponent + digits.length - 1
    let body :=
      if -4 ≤ leading && leading < 16 then positional digits d.exponent
      else scientific digits leading
    String.ofList (if x.isNegative then '-' :: body else body)

end Binary64

end ContentPack
