import ContentPack.Json.Basic

/-!
# Values as numbers and as collections

Values are compared by what they stand for (`Json.same`): booleans count as one and zero, a number
with a fraction may equal a whole number, and the order of the keys of an object does not matter.
Numbers, texts and lists can be added (`Json.sum`).
-/

namespace ContentPack.Json

/-! ### Numbers -/

/-- The whole number that a value is; booleans count as one and zero. -/
def whole? : Json → Option Int
  | .int n => some n
  | .bool b => some (if b then 1 else 0)
  | _ => none

/-- Why values have no sum. -/
inductive SumFault where
  /-- Values of these kinds cannot be added. -/
  | wrongKind
  /-- A whole number is too large to be added to a number with a fraction. -/
  | tooLarge
  deriving DecidableEq, Repr

/-- The number nearest to a value, if there is a finite one. -/
def nearest (j : Json) : Except SumFault Binary64 :=
  match j, j.whole? with
  | .real x, _ => .ok x
  | _, some n => if (Binary64.ofInt n).isFinite then .ok (.ofInt n) else .error .tooLarge
  | _, none => .error .wrongKind

/-- The value is a number, with or without a fraction. -/
def isNumber : Json → Bool
  | .real _ => true
  | j => j.whole?.isSome

/-- The sum of numbers, or texts or lists one after the other. -/
def sum (a b : Json) : Except SumFault Json :=
  match a.whole?, b.whole? with
  | some m, some n => .ok (.int (m + n))
  | _, _ => match a, b with
    | .str s, .str t => .ok (.str (s ++ t))
    | .arr xs, .arr ys => .ok (.arr (xs ++ ys))
    | a, b =>
      if a.isNumber && b.isNumber then do
        let x ← a.nearest
        let y ← b.nearest
        return .real ⟨(Float.ofBits x.bits + Float.ofBits y.bits).toBits⟩
      else .error .wrongKind

/-- The number of the other sign. -/
def negative? : Json → Option Json
  | .real x => some (.real x.neg)
  | j => j.whole?.map fun n => .int (-n)

/-! ### Collections -/

/-- The items of a list, the characters of a text or the keys of an object. -/
def elements? : Json → Option (List Json)
  | .arr xs => some xs
  | .str s => some (s.toList.map fun c => .str (String.ofList [c]))
  | .obj fields => some (fields.map fun (key, _) => .str key)
  | _ => none

/-! ### Equality -/

/-- Numbers with fractions are the same when they are equal; no number is the same as a NaN. -/
def sameReal (x y : Binary64) : Bool :=
  !x.isNaN && !y.isNaN && (x == y || (x.isZero && y.isZero))

mutual

/-- Two values stand for the same. -/
def same (a b : Json) : Bool :=
  match a, b with
  | .null, .null => true
  | .str s, .str t => s == t
  | .arr xs, .arr ys => sameItems xs ys
  | .obj fields, .obj others => fields.length == others.length && sameFields fields others
  | .real x, .real y => sameReal x y
  | .real x, b => b.whole?.any fun n => x.toInt? == some n
  | a, .real y => a.whole?.any fun n => y.toInt? == some n
  | a, b => a.whole?.isSome && a.whole? == b.whole?

/-- Two lists have the same items. -/
def sameItems (xs ys : List Json) : Bool :=
  match xs, ys with
  | [], [] => true
  | x :: xs, y :: ys => same x y && sameItems xs ys
  | _, _ => false

/-- Every one of some fields is the same among others. -/
def sameFields (fields others : List (String × Json)) : Bool :=
  match fields with
  | [] => true
  | (key, value) :: fields =>
    (match Table.get? key others with
      | some other => same value other
      | none => false) && sameFields fields others

end

end ContentPack.Json
