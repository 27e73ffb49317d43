/-!
# Binary64 numbers

A double-precision number is kept as its bit pattern, so that every statement about it is a
statement about natural numbers. A finite pattern stands for `± m · 2 ^ q` (`significand`,
`scale`); `ofRatio` goes the other way and rounds a quotient to the nearest pattern, a tie to the
even one.
-/

namespace ContentPack

/-- A double-precision number, by its bit pattern. -/
structure Binary64 where
  /-- Sign in bit 63, exponent in bits 52 to 62, fraction in bits 0 to 51. -/
  bits : UInt64
  deriving DecidableEq, Repr, Inhabited

namespace Binary64

/-! ### Reading a pattern -/

/-- The sign bit is set. -/
def isNegative (x : Binary64) : Bool := Nat.pow 2 63 ≤ x.bits.toNat

/-- The eleven exponent bits. -/
def exponentField (x : Binary64) : Nat := x.bits.toNat / Nat.pow 2 52 % Nat.pow 2 11

/-- The fifty-two fraction bits. -/
def fractionField (x : Binary64) : Nat := x.bits.toNat % Nat.pow 2 52

/-- Neither an infinity nor a NaN. -/
def isFinite (x : Binary64) : Bool := x.exponentField != 2047

/-- Not a number: the exponent bits are all set and the fraction is not zero. -/
def isNaN (x : Binary64) : Bool := x.exponentField == 2047 && x.fractionField != 0

/-- The whole number `m` of `± m · 2 ^ scale`. -/
def significand (x : Binary64) : Nat :=
  if x.exponentField = 0 then x.fractionField else Nat.pow 2 52 + x.fractionField

/-- The power `q` of `± significand · 2 ^ q`. -/
def scale (x : Binary64) : Int :=
  if x.exponentField = 0 then -1074 else (x.exponentField : Int) - 1075

/-- The number is `0.0` or `-0.0`. -/
def isZero (x : Binary64) : Bool := x.exponentField == 0 && x.fractionField == 0

/-- The magnitude as a numerator and a denominator, for a finite number. -/
def magnitude (x : Binary64) : Nat × Nat :=
  if 0 ≤ x.scale then (x.significand * Nat.pow 2 x.scale.toNat, 1)
  else (x.significand, Nat.pow 2 (-x.scale).toNat)

/-- The number as an integer, if it is one. -/
def toInt? (x : Binary64) : Option Int :=
  if !x.isFinite then none
  else
    let (num, den) := x.magnitude
    if num % den = 0 then
      some (if x.isNegative then -((num / den : Nat) : Int) else ((num / den : Nat) : Int))
    else none

/-! ### Rounding to the nearest pattern -/

/-- Positive infinity, as a pattern without its sign. -/
def infinityBits : Nat := 2047 * Nat.pow 2 52

/-- The quotient rounded to the nearest natural number, a tie to the even one. -/
def roundHalfEven (num den : Nat) : Nat :=
  let quotient := num / den
  let twice := 2 * (num % den)
  if den < twice || (twice == den && quotient % 2 == 1) then quotient + 1 else quotient

/-- The pattern nearest to the positive quotient `num / den`, without a sign. The number of bits of
the quotient gives the power of two of the last place; below the normal range that power stays at
`-1074`, and past the largest finite number the answer is infinity. -/
def nearestBits (num den : Nat) : Nat :=
  if num = 0 then 0
  else
    let guess : Int := (Nat.log2 num : Int) - (Nat.log2 den : Int) - 52
    let isSmall : Bool :=
      if 0 ≤ guess then num < Nat.pow 2 52 * (den * Nat.pow 2 guess.toNat)
      else num * Nat.pow 2 (-guess).toNat < Nat.pow 2 52 * den
    let fitted := if isSmall then guess - 1 else guess
    let q := if fitted < -1074 then -1074 else fitted
    let m :=
      if 0 ≤ q then roundHalfEven num (den * Nat.pow 2 q.toNat)
      else roundHalfEven (num * Nat.pow 2 (-q).toNat) den
    let raw := (q + 1074).toNat * Nat.pow 2 52 + m
    if infinityBits ≤ raw then infinityBits else raw

/-- A pattern from its unsigned part and its sign. -/
def ofUnsigned (isNegative : Bool) (unsigned : Nat) : Binary64 :=
  ⟨UInt64.ofNat (if isNegative then Nat.pow 2 63 + unsigned else unsigned)⟩

/-- The number nearest to `± num / den`. -/
def ofRatio (isNegative : Bool) (num den : Nat) : Binary64 :=
  ofUnsigned isNegative (nearestBits num den)

/-- The number nearest to `± digits · 10 ^ exponent`. Powers far outside the range of finite
numbers are answered without being computed. -/
def ofDecimal (isNegative : Bool) (digits : Nat) (exponent : Int) : Binary64 :=
  let places : Int := (Nat.toDigits 10 digits).length
  if digits = 0 then ofUnsigned isNegative 0
  else if 400 < exponent + places then ofUnsigned isNegative infinityBits
  else if exponent + places < -400 then ofUnsigned isNegative 0
  else if 0 ≤ exponent then ofRatio isNegative (digits * Nat.pow 10 exponent.toNat) 1
  else ofRatio isNegative digits (Nat.pow 10 (-exponent).toNat)

/-- The number nearest to an integer. -/
def ofInt (n : Int) : Binary64 := ofRatio (n < 0) n.natAbs 1

/-- Positive or negative infinity. -/
def infinity (isNegative : Bool) : Binary64 := ofUnsigned isNegative infinityBits

/-- The quiet NaN. -/
def nan : Binary64 := ofUnsigned false (infinityBits + Nat.pow 2 51)

/-! ### Sign and comparison -/

/-- The same magnitude with the other sign. -/
def neg (x : Binary64) : Binary64 :=
  ofUnsigned (!x.isNegative) (x.bits.toNat % Nat.pow 2 63)

end Binary64

end ContentPack
