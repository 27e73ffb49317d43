import ContentPack.Fetch.Source

/-!
# Stores in memory

A store holds versions of structures and translations of explorations. Adding a version again
replaces it. A store serves as a source: it notes what it is asked, and answers one step later.
Translations that it does not have are empty.
-/

namespace ContentPack

/-- Versions of structures, and translations. -/
structure Store where
  /-- The versions of every structure. -/
  documents : Table Locator (Table Version Document) := []
  /-- The translations by exploration, version and code of the language. -/
  translations : Table (String × Int × String) Translation := []

namespace Store

/-- Nothing is stored. -/
def empty : Store := {}

instance : Inhabited Store := ⟨empty⟩

/-! ### Contents -/

/-- The stored versions of a structure. -/
def versionsOf (s : Store) (place : Locator) : Table Version Document :=
  (s.documents.get? place).getD []

/-- Store a version of the structure that it belongs to. -/
def add (s : Store) (document : Document) : Store :=
  { s with
    documents := s.documents.put document.id.locator
      ((s.versionsOf document.id.locator).put document.version document) }

/-- Store translations. -/
def addTranslation (s : Store) (t : Translation) : Store :=
  { s with translations := s.translations.put (t.explorationId, t.version, t.languageCode) t }

/-- A version of a structure. -/
def version? (s : Store) (place : Locator) (version : Int) : Option Document := do
  (s.versionsOf place).get? (← Version.ofInt? version)

/-- The entry with the greater version, the earlier one of equals. -/
def newer (left right : Version × Document) : Version × Document :=
  if left.1.number < right.1.number then right else left

/-- The newest version of a structure. -/
def latest? (s : Store) (place : Locator) : Option Document :=
  match s.versionsOf place with
  | [] => none
  | entry :: rest => some (rest.foldl newer entry).2

/-- The translations of a version of an exploration. -/
def translation (s : Store) (explorationId : String) (version : Int) (languageCode : String) :
    Translation :=
  (s.translations.get? (explorationId, version, languageCode)).getD
    { explorationId, version, languageCode }

/-! ### Answers -/

/-- The answer to a request. Of a list of versions all must be there. -/
def answer (s : Store) : (r : Request) → r.Answer
  | .latest place =>
    match s.latest? place with
    | some document => .ok document
    | none => .error (.unknown place)
  | .versions place versions =>
    match versions.filter fun v => (s.version? place v).isNone with
    | [] => .ok (versions.filterMap (s.version? place))
    | missing => .error (.unknownVersions missing place)
  | .translation explorationId version languageCode =>
    .ok (s.translation explorationId version languageCode)

/-- The store as a source that notes what it is asked. -/
def source (s : Store) : Source (List Request) where
  delays := 1
  poll := fun r asked => (none, asked ++ [r])
  settle := fun r asked => (s.answer r, asked)

end Store

end ContentPack
