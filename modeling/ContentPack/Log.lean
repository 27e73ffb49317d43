import ContentPack.FileTree
import ContentPack.Text.Pieces

/-!
# Logs

Loggers have names whose parts are separated by points; a logger is below those whose names are
made of its first parts. A record is taken if its level is above zero and not below the level of its
logger, or of the nearest logger above that has one. It then goes to the handlers of the logger and
of those above, up to the first one that was set up, as far as it is not below their levels.

A `Journal` holds the loggers that there are and the lines that were written to files.
-/

namespace ContentPack

namespace Log

/-- Where a handler writes. -/
inductive Medium where
  /-- A console with colours. -/
  | richConsole
  /-- A plain console. -/
  | console
  /-- A file. -/
  | file (place : Place)
  deriving DecidableEq, Repr

namespace Medium

/-- The format of a line with everything about a record. -/
def longFormat : String := "%(asctime)s | %(name)s | %(levelname)s | %(message)s"

/-- The format of a line with the message alone. -/
def shortFormat : String := "%(message)s"

/-- The name of the kind of handler. -/
def handlerName : Medium → String
  | richConsole => "RichHandler"
  | console => "StreamHandler"
  | file _ => "FileHandler"

/-- The format of lines. -/
def format : Medium → String
  | richConsole => shortFormat
  | console | file _ => longFormat

end Medium

/-- A handler of records. -/
structure Handler where
  /-- Where it writes. -/
  medium : Medium
  /-- The least level that it takes. -/
  level : Int
  deriving DecidableEq, Repr

/-- A logger. -/
structure Logger where
  /-- The least level that it takes; zero leaves this to the logger above. -/
  level : Int := 0
  /-- Its handlers, in order. -/
  handlers : List Handler := []
  /-- Records go on to the logger above. -/
  passesOn : Bool := true
  deriving DecidableEq, Repr

/-- How a logger is set up. -/
structure Setup where
  /-- The level. -/
  level : Int := 20
  /-- The file to write to as well. -/
  file : Option String := none
  /-- The console has colours. -/
  isRich : Bool := true
  deriving DecidableEq, Repr

/-- The levels with names. -/
def levels : List (Int × String) :=
  [(10, "DEBUG"), (20, "INFO"), (30, "WARNING"), (40, "ERROR"), (50, "CRITICAL")]

/-- The name of a level. -/
def levelName (level : Int) : String :=
  match levels.find? (·.1 == level) with
  | some (_, name) => name
  | none => "Level " ++ toString level

/-- The level with a name; some have two. -/
def levelOfName? (name : String) : Option Int :=
  match name with
  | "NOTSET" => some 0
  | "WARN" => some 30
  | "FATAL" => some 50
  | name => (levels.find? (·.2 == name)).map (·.1)

/-- The level that counts where no logger has one. -/
def defaultLevel : Int := 30

/-- The names above a name that is given from its end on, the nearest first: what is before a point.
Of two points side by side the second one alone counts. -/
def namesAbove : List Char → List String
  | [] => []
  | ['.'] => [""]
  | '.' :: c :: before => String.ofList (c :: before).reverse :: namesAbove before
  | _ :: before => namesAbove before

/-- The lines of a text. -/
def lines : List Char → List (List Char)
  | [] => [[]]
  | '\r' :: '\n' :: cs => [] :: lines cs
  | c :: cs =>
    if c = '\n' || c = '\r' then [] :: lines cs
    else match lines cs with
      | line :: rest => (c :: line) :: rest
      | [] => [[c]]

/-- A line of a file without its first column, which a record fills with the time. -/
def dropTime (line : List Char) : List Char :=
  match Text.cut '|' line with
  | (before, some (' ' :: after)) => if before.getLast? = some ' ' then after else line
  | _ => line

/-- The lines of a record in a file, without its time. -/
def recordLines (name : String) (level : Int) (message : String) : List String :=
  match lines (name ++ " | " ++ levelName level ++ " | " ++ message).toList with
  | [] => []
  | first :: rest => String.ofList first :: rest.map fun line => String.ofList (dropTime line)

end Log

open Log

/-- The loggers that there are, and the files that were written. -/
structure Journal where
  /-- The loggers by name. -/
  loggers : Table String Logger := []
  /-- The files. -/
  tree : FileTree := .usual
  /-- The directory of the files. -/
  folder : Place := ["var", "log"]
  /-- The lines of files, without their times. -/
  written : Table Place (List String) := []
  deriving Repr

namespace Journal

/-- There is no logger. -/
def empty : Journal := {}

/-- A logger; a new one has no level and no handlers. -/
def logger (j : Journal) (name : String) : Logger := (j.loggers.get? name).getD {}

/-! ### Set-ups -/

/-- The media of a set-up, of which one may be a file. -/
def media (j : Journal) (setup : Setup) : Except FileFault (List Medium) := do
  let screen := if setup.isRich then Medium.richConsole else Medium.console
  match setup.file.filter (!·.isEmpty) with
  | none => return [screen]
  | some path => return [screen, .file (← j.tree.target j.folder path)]

/-- Open the file of a medium, which is there from then on. -/
def openFile (j : Journal) : Medium → Journal
  | .file place =>
    { j with
      tree := j.tree.touch place
      written := j.written.put place ((j.written.get? place).getD []) }
  | _ => j

/-- Set up a logger. Its level is set each time, its handlers only once. -/
def setUp (j : Journal) (name : String) (setup : Setup) : Except FileFault Journal := do
  let logger := { j.logger name with level := setup.level, passesOn := false }
  if logger.handlers.isEmpty then
    let media ← j.media setup
    let handlers := media.map fun medium => ({ medium, level := setup.level } : Handler)
    return media.foldl openFile { j with loggers := j.loggers.put name { logger with handlers } }
  else return { j with loggers := j.loggers.put name logger }

/-! ### Records -/

/-- The nearest logger above. -/
def above? (j : Journal) (name : String) : Option String :=
  (namesAbove name.toList.reverse).find? fun above => (j.loggers.get? above).isSome

/-- A logger and those above it, of which there are at most a number. -/
def lineage (j : Journal) : Nat → String → List Logger
  | 0, name => [j.logger name]
  | n + 1, name =>
    j.logger name ::
      match j.above? name with
      | some above => j.lineage n above
      | none => []

/-- The level that counts for a lineage. -/
def effectiveLevel (lineage : List Logger) : Int :=
  ((lineage.map (·.level)).find? (· ≠ 0)).getD defaultLevel

/-- The handlers that the records of a lineage go to. -/
def handlersOf : List Logger → List Handler
  | [] => []
  | logger :: rest => logger.handlers ++ (if logger.passesOn then handlersOf rest else [])

/-- Write a record to the file of a handler that takes its level. -/
def write (level : Int) (text : List String) (j : Journal) (handler : Handler) : Journal :=
  match handler.medium with
  | .file place =>
    if handler.level ≤ level then
      { j with written := j.written.put place ((j.written.get? place).getD [] ++ text) }
    else j
  | _ => j

/-- Log a record. -/
def log (j : Journal) (name : String) (level : Int) (message : String) : Journal :=
  let j := { j with loggers := j.loggers.put name (j.logger name) }
  let lineage := j.lineage name.length name
  if 0 < level ∧ effectiveLevel lineage ≤ level then
    (handlersOf lineage).foldl (write level (recordLines name level message)) j
  else j

/-- The files of the directory by their names, with their lines. -/
def files (j : Journal) : Table String (List String) :=
  j.written.filterMap fun (place, lines) =>
    if place.dropLast = j.folder then place.getLast?.map (·, lines) else none

end Journal

end ContentPack
