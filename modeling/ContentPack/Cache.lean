import ContentPack.Error

/-!
# The cache of versions

For every structure that a run has met, the cache holds the outcomes of its versions `1` to `n`,
where `n` is the newest version that still counts. A structure is tracked from its newest version;
older versions are pending until they are loaded. Versions are dropped from the top, one at a time,
and the last one stays.

A `History` keeps the outcomes as a list whose places are the versions, so it cannot have gaps.
-/

namespace ContentPack

/-! ### The versions of one structure -/

/-- The outcomes of the versions of one structure, from the first to the newest. -/
structure History (α : Type) where
  /-- The subtopic that was declared when the structure was first met. -/
  subtopic : Option Subtopic := none
  /-- The outcomes, the one of version one first. -/
  outcomes : List (Outcome α)
  /-- There is always a newest version. -/
  nonempty : outcomes ≠ []

namespace History

variable {α : Type}

/-- All older versions are pending. -/
def start (newest : Version) (subtopic : Option Subtopic) (outcome : Outcome α) : History α where
  subtopic := subtopic
  outcomes := List.replicate (newest.number - 1) .pending ++ [outcome]
  nonempty := by simp

/-- The newest version. -/
def newest (h : History α) : Version :=
  ⟨h.outcomes.length, List.length_pos_iff.mpr h.nonempty⟩

/-- The outcome of a version, if there is an entry for it. -/
def get? (h : History α) (version : Version) : Option (Outcome α) :=
  h.outcomes[version.number - 1]?

/-- The history with another outcome for a version; nothing changes without an entry for it. -/
def set (h : History α) (version : Version) (outcome : Outcome α) : History α where
  subtopic := h.subtopic
  outcomes := h.outcomes.set (version.number - 1) outcome
  nonempty := by simpa using h.nonempty

/-- The history without its newest version, if another one remains. -/
def dropNewest? (h : History α) : Option (History α) :=
  if rest : h.outcomes.dropLast ≠ [] then some ⟨h.subtopic, h.outcomes.dropLast, rest⟩ else none

/-- The versions, the first one first. -/
def versions (h : History α) : List Version := (List.range h.outcomes.length).map Version.after

/-- The pending versions from version `n` down to the first one that is not pending, at most
`width` of them, listed upwards. -/
def pendingRun (outcomes : List (Outcome α)) : Nat → Nat → List Version
  | 0, _ => []
  | _, 0 => []
  | n + 1, width + 1 =>
    match outcomes[n]? with
    | some .pending => pendingRun outcomes n width ++ [.after n]
    | _ => []

end History

/-! ### The cache -/

/-- The histories of all tracked structures. -/
structure Cache (α : Type) where
  /-- The histories by structure. -/
  histories : Table StructureId (History α) := []

namespace Cache

variable {α : Type}

/-- Nothing is tracked yet. -/
def empty : Cache α := {}

instance : Inhabited (Cache α) := ⟨empty⟩

/-- The history of a structure. -/
def history? (c : Cache α) (id : StructureId) : Option (History α) := c.histories.get? id

/-- The history of a structure that must be tracked. -/
def history (c : Cache α) (id : StructureId) : Except Misuse (History α) :=
  match c.history? id with
  | some h => .ok h
  | none => .error (.notTracked id)

/-- The structure is tracked. -/
def tracks (c : Cache α) (id : StructureId) : Bool := (c.history? id).isSome

/-- The number of tracked structures. -/
def size (c : Cache α) : Nat := c.histories.length

/-- The cache with another history of a structure. -/
def withHistory (c : Cache α) (id : StructureId) (h : History α) : Cache α :=
  ⟨c.histories.put id h⟩

/-- Track a structure from its newest version; what was known of it is forgotten. -/
def track (c : Cache α) (newest : Reference) (subtopic : Option Subtopic) (outcome : Outcome α) :
    Cache α :=
  c.withHistory newest.id (.start newest.version subtopic outcome)

/-- The outcome of a version. -/
def get (c : Cache α) (r : Reference) : Except Misuse (Outcome α) := do
  let h ← c.history r.id
  match h.get? r.version with
  | some outcome => return outcome
  | none => throw (.noEntry r)

/-- Write the outcome of a version; an outcome for a version that was dropped is ignored. -/
def put (c : Cache α) (r : Reference) (outcome : Outcome α) : Except Misuse (Cache α) := do
  let h ← c.history r.id
  return c.withHistory r.id (h.set r.version outcome)

/-- The newest version of a structure. -/
def newest (c : Cache α) (id : StructureId) : Except Misuse Reference := do
  return ⟨id, (← c.history id).newest⟩

/-- The number of versions of a structure, zero if it is not tracked. -/
def versionCount (c : Cache α) (id : StructureId) : Nat :=
  match c.history? id with
  | some h => h.outcomes.length
  | none => 0

/-- The versions of a structure, the first one first. -/
def references (c : Cache α) (id : StructureId) : Except Misuse (List Reference) := do
  return (← c.history id).versions.map (⟨id, ·⟩)

/-- The pending versions to load together when a version is needed: that version and those below
it, as long as they are pending, at most `window` of them and at least the first. -/
def pendingWindow (c : Cache α) (r : Reference) (window : Int) : Except Misuse (List Version) := do
  let h ← c.history r.id
  return History.pendingRun h.outcomes r.version.number (max 1 window).toNat

/-- Drop the newest version of a structure. -/
def invalidate (c : Cache α) (r : Reference) : Except Misuse (Cache α) := do
  let h ← c.history r.id
  if h.newest ≠ r.version then throw (.notNewest r)
  match h.dropNewest? with
  | some rest => return c.withHistory r.id rest
  | none => throw (.lastVersion r.id)

end Cache

end ContentPack
