/-!
# Tables in insertion order

A table is a list of entries with distinct keys, in the order in which the keys were first put.
Putting a key again replaces its value in place, so a table remembers the first place and the last
value of every key.
-/

namespace ContentPack

/-- Entries in the order in which their keys were first put. -/
abbrev Table (κ ν : Type) := List (κ × ν)

namespace Table

variable {κ ν : Type} [DecidableEq κ]

/-- Set a key: in its place if it is there, else at the end. -/
def put (key : κ) (value : ν) : Table κ ν → Table κ ν
  | [] => [(key, value)]
  | (k, v) :: rest => if k = key then (k, value) :: rest else (k, v) :: put key value rest

/-- The value of a key. -/
def get? (key : κ) : Table κ ν → Option ν
  | [] => none
  | (k, v) :: rest => if k = key then some v else get? key rest

/-- Put entries one after another. -/
def ofEntries (entries : List (κ × ν)) : Table κ ν :=
  entries.foldl (fun table (k, v) => table.put k v) []

/-- The keys, in order. -/
def keys (table : Table κ ν) : List κ := table.map (·.1)

/-- The values, in the order of their keys. -/
def values (table : Table κ ν) : List ν := table.map (·.2)

/-! ### What a put does to look-ups -/

@[simp] theorem get?_nil (key : κ) : get? key ([] : Table κ ν) = none := rfl

theorem get?_put_self (key : κ) (value : ν) (table : Table κ ν) :
    (table.put key value).get? key = some value := by
  induction table with
  | nil => simp [put, get?]
  | cons entry rest ih =>
    by_cases h : entry.1 = key
    · simp [put, get?, h]
    · simp [put, get?, h, ih]

theorem get?_put_of_ne {key other : κ} (h : key ≠ other) (value : ν) (table : Table κ ν) :
    (table.put key value).get? other = table.get? other := by
  induction table with
  | nil => simp [put, get?, h]
  | cons entry rest ih =>
    by_cases hk : entry.1 = key
    · simp [put, get?, hk, h]
    · simp only [put, hk, if_false, get?, ih]

theorem get?_put (key other : κ) (value : ν) (table : Table κ ν) :
    (table.put key value).get? other = if key = other then some value else table.get? other := by
  by_cases h : key = other
  · rw [if_pos h, ← h, get?_put_self]
  · rw [if_neg h, get?_put_of_ne h]

end Table

end ContentPack
