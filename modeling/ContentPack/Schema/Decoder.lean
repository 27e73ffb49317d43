import ContentPack.Error
import ContentPack.Number.Literal

/-!
# Reading values by a schema

A decoder turns a JSON value into a value of a type, or says everything that is wrong with it.
Decoders for the fields of an object are combined so that the issues of all fields are collected,
in the order of the schema.
-/

namespace ContentPack

/-- A value, or everything that is wrong with it. -/
inductive Checked (α : Type) where
  /-- The value. -/
  | valid (value : α)
  /-- What is wrong. -/
  | invalid (issues : List Issue)
  deriving Repr

namespace Checked

variable {α β : Type}

/-- Compute from a valid value. -/
def map (f : α → β) : Checked α → Checked β
  | valid value => valid (f value)
  | invalid issues => invalid issues

/-- Apply a function to an argument; the issues of both are collected. -/
def apply (f : Checked (α → β)) (x : Checked α) : Checked β :=
  match f, x with
  | valid f, valid x => valid (f x)
  | valid _, invalid issues => invalid issues
  | invalid issues, valid _ => invalid issues
  | invalid issues, invalid more => invalid (issues ++ more)

instance : Applicative Checked where
  pure := valid
  seq f x := apply f (x ())

/-- A single problem at the value itself. -/
def problem (p : Problem) : Checked α := invalid [⟨[], p⟩]

/-- Say that the value stands at a part of a larger one. -/
def within (part : PathPart) : Checked α → Checked α
  | valid value => valid value
  | invalid issues => invalid (issues.map fun i => { i with path := part :: i.path })

/-- A further condition on a valid value. -/
def refine (f : α → Except Problem β) : Checked α → Checked β
  | valid value => match f value with
    | .ok refined => valid refined
    | .error p => problem p
  | invalid issues => invalid issues

/-- All values in order, or the issues of all of them. -/
def all : List (Checked α) → Checked (List α)
  | [] => valid []
  | x :: xs => apply (map List.cons x) (all xs)

end Checked

/-- How a JSON value becomes a value of a type. -/
abbrev Decoder (α : Type) := Json → Checked α

namespace Decoder

variable {α κ ν : Type}

/-! ### Plain values -/

/-- A string. -/
def string : Decoder String
  | .str s => .valid s
  | _ => .problem .stringType

/-- The whole number that a text says. -/
def numeral (s : String) : Except Problem Int :=
  match Text.Numeral.read s with
  | .number n => .ok n
  | .malformed => .error .intParsing
  | .tooLong => .error .intParsingSize

/-- A whole number. Booleans count as one and zero, other numbers must have no fraction and be
below `2 ^ 63` in magnitude, and texts are read as numerals. -/
def integer : Decoder Int
  | .int n => .valid n
  | .bool b => .valid (if b then 1 else 0)
  | .real x =>
    if !x.isFinite then .problem .finiteNumber
    else
      match x.toInt? with
      | none => .problem .intFromFloat
      | some n => if n.natAbs < Nat.pow 2 63 then .valid n else .problem .intParsingSize
  | .str s => (Checked.valid s).refine numeral
  | _ => .problem .intType

/-- A whole number that is not below a bound. -/
def integerAtLeast (bound : Int) : Decoder Int := fun j =>
  (integer j).refine fun n => if bound ≤ n then .ok n else .error .greaterThanEqual

/-- A number. Booleans count as one and zero, and texts are read as literals. -/
def number : Decoder Binary64
  | .int n => .valid (.ofInt n)
  | .bool b => .valid (.ofInt (if b then 1 else 0))
  | .real x => .valid x
  | .str s => (Checked.valid s).refine fun s => match Binary64.ofText? s with
    | some x => .ok x
    | none => .error .floatParsing
  | _ => .problem .floatType

/-- A version. -/
def version : Decoder Version := fun j =>
  (integer j).refine fun n => match Version.ofInt? n with
    | some v => .ok v
    | none => .error .greaterThanEqual

/-- A value, or `null`. -/
def optional (d : Decoder α) : Decoder (Option α)
  | .null => .valid none
  | j => (d j).map some

/-- A list of values. -/
def list (d : Decoder α) : Decoder (List α)
  | .arr items =>
    Checked.all (items.mapIdx fun i item => (d item).within (.position i))
  | _ => .problem .listType

/-! ### Objects -/

/-- One entry of a table: issues of the key come first, under the key and the word `[key]`. -/
def entry (key : String → Except Problem κ) (d : Decoder ν) (field : String × Json) :
    Checked (κ × ν) :=
  let k : Checked κ := ((Checked.valid field.1).refine key).within (.field "[key]")
  (Checked.apply (k.map Prod.mk) (d field.2)).within (.field field.1)

/-- A table with keys of a kind. -/
def table [DecidableEq κ] (key : String → Except Problem κ) (d : Decoder ν) :
    Decoder (Table κ ν)
  | .obj fields => (Checked.all (fields.map (entry key d))).map Table.ofEntries
  | _ => .problem .dictType

/-- Any text as a key. -/
def anyKey (s : String) : Except Problem String := .ok s

/-- An object that is read field by field; what other fields hold does not matter. -/
def model (read : Table String Json → Checked α) : Decoder α
  | .obj fields => read fields
  | _ => .problem .modelType

/-- An object that is read field by field and has no fields beside the named ones. -/
def closedModel (names : List String) (read : Table String Json → Checked α) : Decoder α :=
  model fun fields =>
    let unknown := fields.keys.filter (!names.contains ·)
    let noUnknown : Checked Unit := match unknown with
      | [] => .valid ()
      | unknown => .invalid (unknown.map fun name => ⟨[.field name], .extraForbidden⟩)
    (read fields).map (fun value _ => value) |>.apply noUnknown

/-- A field that must be there. -/
def required (name : String) (d : Decoder α) (fields : Table String Json) : Checked α :=
  match fields.get? name with
  | some j => (d j).within (.field name)
  | none => .invalid [⟨[.field name], .missing⟩]

/-- A field with a value for when it is absent. -/
def withDefault (name : String) (default : α) (d : Decoder α) (fields : Table String Json) :
    Checked α :=
  match fields.get? name with
  | some j => (d j).within (.field name)
  | none => .valid default

/-- The value, or the misfit under the name of a schema. -/
def run (name : String) (d : Decoder α) (j : Json) : Except Misfit α :=
  match d j with
  | .valid value => .ok value
  | .invalid issues => .error ⟨name, issues⟩

end Decoder

end ContentPack
