/-!
# Versions

The versions of a structure are numbered from one. A `Version` carries the proof of that, so no
operation on versions has to check it again.
-/

namespace ContentPack

/-- The number of a version of a structure. -/
structure Version where
  /-- The number, counted from one. -/
  number : Nat
  /-- There is no version zero. -/
  one_le : 1 ≤ number
  deriving DecidableEq, Repr

namespace Version

/-- The oldest version. -/
def first : Version := ⟨1, Nat.le_refl 1⟩

instance : Inhabited Version := ⟨first⟩

/-- The version with a number, if the number is at least one. -/
def ofInt? (n : Int) : Option Version :=
  if h : 1 ≤ n.toNat then some ⟨n.toNat, h⟩ else none

/-- The version after `n` older ones. -/
def after (n : Nat) : Version := ⟨n + 1, Nat.succ_le_succ (Nat.zero_le n)⟩

/-- The version before, if there is one. -/
def previous? (v : Version) : Option Version :=
  if h : 1 ≤ v.number - 1 then some ⟨v.number - 1, h⟩ else none

/-- The number as an integer. -/
def toInt (v : Version) : Int := v.number

@[ext] theorem ext {v w : Version} (h : v.number = w.number) : v = w := by
  cases v; cases w; cases h; rfl

@[simp] theorem number_after (n : Nat) : (after n).number = n + 1 := rfl

theorem previous?_after_zero : (after 0).previous? = none := rfl

theorem previous?_after_succ (n : Nat) : (after (n + 1)).previous? = some (after n) := rfl

end Version

end ContentPack
