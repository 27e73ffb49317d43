import ContentPack.Json.Reader
import ContentPack.Settings.Basic
import ContentPack.Settings.EnvFile
import ContentPack.Text.Case

/-!
# Settings from environment variables

Every field of the settings can be set by a variable, whose name is the name of the field behind
the mark of its part. The case of names does not matter; of several names that differ only in case
the last one counts.
-/

namespace ContentPack

/-- The variables of a process, in the order in which they were set. -/
abbrev Environment := Table String String

/-- Why settings cannot be read. -/
inductive SettingsFault where
  /-- A value does not fit its field. -/
  | misfit (misfit : Misfit)
  /-- The value for a whole part is no JSON. -/
  | notJson (name : String)
  /-- A file sets a variable that a process cannot have. -/
  | unsettable
  deriving DecidableEq, Repr

namespace Environment

/-- The value of a variable, whatever the case of its name. -/
def value? (e : Environment) (name : String) : Option String :=
  (e.reverse.find? fun entry => Text.lower entry.1.toList == Text.lower name.toList).map (·.2)

/-- The object of the fields of a part that variables set. -/
def fields (e : Environment) (mark : String) (names : List String) : Table String Json :=
  names.filterMap fun name => (e.value? (mark ++ name)).map fun value => (name, .str value)

/-- Read a part of the settings; fields that are given directly come before variables. -/
def readPart {α : Type} (e : Environment) (mark : String) (part : SettingsPart α)
    (given : Table String Json := []) : Except SettingsFault α :=
  let all := (e.fields mark part.fields).filter (fun field => (given.get? field.1).isNone)
  match part.read (.obj (given ++ all)) with
  | .ok value => .ok value
  | .error misfit => .error (.misfit misfit)

/-- A variable for a whole part has no effect, but it must be JSON. -/
def checkWhole (e : Environment) (name : String) : Except SettingsFault Unit :=
  match (e.value? name).map Json.read? with
  | some none => .error (.notJson name)
  | _ => .ok ()

/-- The mark of the variables for how content is fetched. -/
def fetchMark : String := "topic_pack_fetch_"

/-- The mark of the variables for how versions are resolved. -/
def resolverMark : String := "topic_pack_resolver_"

/-- The mark of the variables for which schema versions are understood. -/
def compatibilityMark : String := "topic_pack_compat_"

/-- The variables for whole parts. -/
def wholes : List String := ["fetch", "resolver", "compatibility"]

/-- All variables that matter, in lower case. -/
def names : List String :=
  SettingsPart.fetch.fields.map (fetchMark ++ ·) ++
    SettingsPart.resolver.fields.map (resolverMark ++ ·) ++
    SettingsPart.compatibility.fields.map (compatibilityMark ++ ·) ++ wholes

/-- The settings that variables give. -/
def settings (e : Environment) : Except SettingsFault Settings := do
  let fetch ← e.readPart fetchMark .fetch
  let resolver ← e.readPart resolverMark .resolver
  let compatibility ← e.readPart compatibilityMark .compatibility
  wholes.forM e.checkWhole
  return { fetch, resolver, compatibility }

/-- The variable that keeps files from being read. -/
def noFilesName : String := "PYTHON_DOTENV_DISABLED"

/-- The words that say yes. -/
def affirmations : List String := ["1", "true", "t", "yes", "y"]

/-- A text for comparing words: small letters, and no long s. -/
def foldWord (s : String) : String :=
  String.ofList ((Text.lower s.toList).map fun c => if c = '\u017F' then 's' else c)

/-- Files are read. -/
def readsFiles (e : Environment) : Bool :=
  match e.get? noFilesName with
  | some answer => !affirmations.contains (foldWord answer)
  | none => true

/-- The settings that variables and a file of further variables give. -/
def settingsWithFile (e : Environment) (file : String) : Except SettingsFault Settings :=
  if e.readsFiles then
    match EnvFile.load? e file with
    | some e => settings e
    | none => .error .unsettable
  else settings e

end Environment

end ContentPack
