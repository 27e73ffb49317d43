import ContentPack.Settings.Environment
import ContentPack.Fetch.Fixture
import ContentPack.FileTree
import ContentPack.Wire.Outcome

/-!
# Faults on the wire

Why an input has no answer: a value that does not fit its schema, an error, or a fault that is told
by its name alone. `Reading` is what is read from an input.
-/

namespace ContentPack.Wire

/-- Why there is no answer. -/
inductive Fault where
  /-- A value does not fit its schema. -/
  | misfit (m : Misfit)
  /-- Work was given up. -/
  | error (e : Error)
  /-- A fault with a name. -/
  | named (name : String)

/-- What is told of a fault. -/
def Fault.fields : Fault → Table String Json
  | .misfit m => Wire.misfit m
  | .error e => Wire.error e
  | .named name => [("error", .str name)]

/-- What is read from an input, or why it cannot be read. -/
abbrev Reading := Except Fault

/-- A misuse. -/
def misused {α : Type} (what : Misuse) : Reading α := .error (.error (.misuse what))

/-- A value, where a misfit is a fault. -/
def orMisfit {α : Type} (r : Except Misfit α) : Reading α := r.mapError .misfit

/-- A value, where misuse is a fault. -/
def orMisuse {α : Type} (r : Except Misuse α) : Reading α := r.mapError fun m => .error (.misuse m)

/-- A value, where an error is a fault. -/
def orError {α : Type} (r : Except Error α) : Reading α := r.mapError .error

/-- The answer, or what is told of the fault. -/
def settle (r : Reading Json) : Json :=
  match r with
  | .ok answer => answer
  | .error fault => .obj fault.fields

/-- Settings that cannot be read. -/
def settingsFault : SettingsFault → Fault
  | .misfit m => .misfit m
  | .notJson _ => .named "SettingsError"
  | .unsettable => .named "ValueError"

/-- A file that cannot be opened. -/
def fileFault : FileFault → Fault
  | .missing => .named "FileNotFoundError"
  | .isDirectory => .named "IsADirectoryError"
  | .notDirectory => .named "NotADirectoryError"
  | .tooLong => .named "OSError"
  | .nullCharacter => .named "ValueError"
  | .noHome => .named "RuntimeError"

/-- A fixture that cannot be read. -/
def fixtureFault : FixtureFault → Fault
  | .notAnObject => .named "AttributeError"
  | .notAList => .named "TypeError"
  | .misfit m => .misfit m

end ContentPack.Wire
