/-!
# Punycode

A label with any characters is written with letters, digits and hyphens: first its characters of
ASCII and a hyphen, and then, as a row of numbers, what has to be put in and where. A number is
written with digits in base thirty-six, the lowest one first; a digit below the threshold of its
position is the last one. Thresholds depend on a bias, which follows the size of the numbers.
-/

namespace ContentPack.HostName.Punycode

/-! ### Digits and thresholds -/

/-- The number of digits. -/
def base : Nat := 36

/-- The threshold of a position. -/
def threshold (bias position : Nat) : Nat := min 26 (max 1 (base * (position + 1) - bias))

theorem threshold_pos (bias position : Nat) : 0 < threshold bias position := by
  unfold threshold
  omega

/-- A digit: a letter, or a figure after the letters. -/
def digit (n : Nat) : Char := Char.ofNat (if n < 26 then 'a'.toNat + n else '0'.toNat + (n - 26))

/-- The value of a digit; capital letters count as small ones. -/
def digitValue? (c : Char) : Option Nat :=
  if c.isDigit then some (c.toNat - '0'.toNat + 26)
  else if c.isAlpha then some (c.toLower.toNat - 'a'.toNat)
  else none

/-- The first bias. -/
def firstBias : Nat := 72

/-- The bias for numbers of a size, counted from another one. -/
def biasOf (size bias : Nat) : Nat :=
  if 455 < size then biasOf (size / 35) (bias + base) else bias + base * size / (size + 38)
termination_by size
decreasing_by exact Nat.div_lt_self (by omega) (by omega)

/-- The bias after a number, with which a text came to a length. -/
def nextBias (number length : Nat) (isFirst : Bool) : Nat :=
  let size := if isFirst then number / 700 else number / 2
  biasOf (size + size / length) 0

/-- The code point of the first character that is not of ASCII. -/
def firstPoint : Nat := 128

/-! ### Writing -/

/-- The digits of a number from a position on. -/
def writeNumber (bias position n : Nat) : List Char :=
  let t := threshold bias position
  if n < t then [digit n]
  else digit (t + (n - t) % (base - t)) :: writeNumber bias (position + 1) ((n - t) / (base - t))
termination_by n
decreasing_by
  have := threshold_pos bias position
  exact Nat.lt_of_le_of_lt (Nat.div_le_self _ _) (by omega)

/-- What was written, and what is to be counted before the next number. -/
structure Writer where
  /-- The digits. -/
  written : List Char := []
  /-- The bias. -/
  bias : Nat := firstBias
  /-- The number of characters that are written. -/
  length : Nat
  /-- What was counted since the last number. -/
  count : Nat := 0
  /-- No number was written. -/
  isFirst : Bool := true

namespace Writer

/-- Write what was counted as a number. -/
def flush (w : Writer) : Writer :=
  { written := w.written ++ writeNumber w.bias 0 w.count
    bias := nextBias w.count (w.length + 1) w.isFirst
    length := w.length + 1
    isFirst := false }

/-- Come to a character of the label, when characters of a code point are written. -/
def visit (point : Nat) (w : Writer) (n : Nat) : Writer :=
  if n < point then { w with count := w.count + 1 }
  else if n = point then w.flush
  else w

/-- Write the characters of a code point, when those before another one are written. -/
def writePoint (label : List Nat) (state : Writer × Nat) (point : Nat) : Writer × Nat :=
  let (w, reached) := state
  let w := { w with count := w.count + (point - reached) * (w.length + 1) }
  let w := label.foldl (visit point) w
  ({ w with count := w.count + 1 }, point + 1)

end Writer

/-- Write a label. -/
def encode (label : List Nat) : List Char :=
  let basic := label.filter (· < firstPoint)
  let points := ((label.filter (firstPoint ≤ ·)).eraseDups).mergeSort (· ≤ ·)
  let (w, _) := points.foldl (Writer.writePoint label) ({ length := basic.length }, firstPoint)
  basic.map Char.ofNat ++ (if basic.isEmpty then [] else ['-']) ++ w.written

/-! ### Reading -/

/-- What was read, and how far a number is read. -/
structure Reader where
  /-- The label. -/
  label : List Nat
  /-- The bias. -/
  bias : Nat := firstBias
  /-- The code point that was put in last. -/
  point : Nat := firstPoint
  /-- The place behind it. -/
  place : Nat := 0
  /-- The number, as far as it is read. -/
  number : Nat := 0
  /-- What the next digit stands for. -/
  weight : Nat := 1
  /-- The position of the next digit. -/
  position : Nat := 0
  /-- No number was read. -/
  isFirst : Bool := true

namespace Reader

/-- Put in a character, as the number says. -/
def insert? (r : Reader) : Option Reader :=
  let length := r.label.length + 1
  let point := r.point + (r.place + r.number) / length
  let place := (r.place + r.number) % length
  if 0x10FFFF < point then none
  else
    some {
      label := r.label.take place ++ point :: r.label.drop place
      bias := nextBias r.number length r.isFirst
      point
      place := place + 1
      isFirst := false }

/-- Read a digit. -/
def step (r : Reader) (c : Char) : Option Reader := do
  let value ← digitValue? c
  let t := threshold r.bias r.position
  let r := { r with number := r.number + value * r.weight }
  if value < t then r.insert?
  else return { r with weight := r.weight * (base - t), position := r.position + 1 }

end Reader

/-- The characters before the last hyphen, and those after it. -/
def split (cs : List Char) : List Char × List Char :=
  let digits := (cs.reverse.takeWhile (· != '-')).reverse
  ((cs.take (cs.length - digits.length)).dropLast, digits)

/-- Read a label; the last number must be complete. -/
def decode? (cs : List Char) : Option (List Nat) := do
  let (basic, digits) := split cs
  let r ← digits.foldlM Reader.step { label := basic.map Char.toNat }
  guard (r.position == 0)
  return r.label

end ContentPack.HostName.Punycode
