import ContentPack.Wire.Identity

/-!
# Requests on the wire

Requests go by the name of a method with arguments, and a log lists them by the name of the method,
the key of the structure and the versions.
-/

namespace ContentPack.Wire

/-- What the methods for a kind of structure are named for. -/
def methodNoun : Kind → String
  | .subtopic => "subtopic_page"
  | kind => kind.name

/-- The method that asks for the newest version. -/
def latestMethod (kind : Kind) : String := "fetch_latest_" ++ methodNoun kind

/-- The method that asks for versions. -/
def versionsMethod (kind : Kind) : String := "fetch_" ++ methodNoun kind ++ "_by_versions"

/-- The method that asks for translations. -/
def translationMethod : String := "fetch_exploration_translation"

/-- A request in a log: the method, the key and the versions. -/
def call : Request → String × String × List Int
  | .latest place => (latestMethod place.kind, place.key, [])
  | .versions place versions => (versionsMethod place.kind, place.key, versions)
  | .translation id version language => (translationMethod, id ++ "/" ++ language, [version])

/-- Whole numbers. -/
def wholes (xs : List Int) : Json := .arr (xs.map .int)

/-- A request in a log. -/
def request (r : Request) : Json :=
  let (method, key, versions) := call r
  .arr [.str method, .str key, wholes versions]

/-- The place that arguments start with, and the arguments after it. -/
def readPlace? : Kind → List Json → Option (Locator × List Json)
  | .subtopic, topic :: index :: rest =>
    some (⟨.subtopic, Json.plainDisplay topic ++ "/" ++ Json.plainDisplay index⟩, rest)
  | .subtopic, _ => none
  | kind, id :: rest => some (⟨kind, Json.plainDisplay id⟩, rest)
  | _, [] => none

/-- The request for the newest version with arguments. -/
def readLatest? (kind : Kind) (arguments : List Json) : Option Request :=
  match readPlace? kind arguments with
  | some (place, []) => some (.latest place)
  | _ => none

/-- The request for versions with arguments. -/
def readVersions? (kind : Kind) (arguments : List Json) : Option Request :=
  match readPlace? kind arguments with
  | some (place, [.arr versions]) => some (.versions place (versions.map whole))
  | _ => none

/-- The request for translations with arguments. -/
def readTranslation? : List Json → Option Request
  | [id, version, language] =>
    some (.translation (Json.plainDisplay id) (whole version) (Json.plainDisplay language))
  | _ => none

/-- How the arguments of a method are read, if there is such a method. -/
def readArguments? (method : String) : Option (List Json → Option Request) :=
  match Kind.all.find? (latestMethod · == method), Kind.all.find? (versionsMethod · == method) with
  | some kind, _ => some (readLatest? kind)
  | none, some kind => some (readVersions? kind)
  | none, none => if method = translationMethod then some readTranslation? else none

/-- The request for a method with arguments. -/
def readRequest (method : String) (arguments : List Json) : Reading Request := do
  let some read := readArguments? method | throw (.named "AttributeError")
  let some request := read arguments | throw (.named "TypeError")
  return request

/-- A reply. -/
def reply : (r : Request) → r.Reply → Json
  | .latest _, d => document d
  | .versions _ _, ds => .arr (ds.map document)
  | .translation _ _ _, t => translation t

end ContentPack.Wire
