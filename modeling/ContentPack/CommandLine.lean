import ContentPack.Assembly
import ContentPack.Fetch.Fixture
import ContentPack.FileTree
import ContentPack.Http.Connection
import ContentPack.Json.Writer
import ContentPack.Settings.Environment
import ContentPack.Summary
import ContentPack.Text.Digit

/-!
# The command line

`[-v] resolve --topic-id ID (--fixture PATH | --base-url URL) [--checker NAME] [--no-progress]`
resolves the pack of a topic and prints its summary, or why there is none.

Options may be shortened as long as their names stay unique, and a value may follow an equals sign.
`CommandLine.read` reads the arguments and `CommandLine.run` gives the output; reading files and
environment variables is left to the program around it.
-/

namespace ContentPack.CommandLine

/-! ### Arguments -/

/-- What an argument looks like to a command with certain options. -/
inductive Token where
  /-- A value. -/
  | plain
  /-- A long option, perhaps with a value after an equals sign. -/
  | long (name : String) (value : Option String)
  /-- Short options in one argument. -/
  | short (letters : List Char)
  /-- An option that there is not. -/
  | unknown
  /-- The start of several options. -/
  | ambiguous
  deriving DecidableEq, Repr

/-- Two hyphens alone, after which there are no options. -/
def separator : String := "--"

/-- Digits, with at most one point, which digits follow; the end of a line may come after them. -/
def isUnsignedNumber (cs : List Char) : Bool :=
  let cs := if cs.getLast? = some '\n' then cs.dropLast else cs
  let whole := cs.takeWhile Text.isDecimalDigit
  match cs.drop whole.length with
  | [] => !whole.isEmpty
  | '.' :: fraction => !fraction.isEmpty && fraction.all Text.isDecimalDigit
  | _ => false

/-- A long option by its name or the start of it. -/
def longOption (names : List String) (argument : List Char) : Token :=
  let start := argument.takeWhile (· != '=')
  let value := match argument.drop start.length with
    | _ :: value => some (String.ofList value)
    | [] => none
  if names.contains (String.ofList start) then .long (String.ofList start) value
  else
    match names.filter fun name => start.isPrefixOf name.toList with
    | [] => .unknown
    | [name] => .long name value
    | _ => .ambiguous

/-- Short options in one argument; an equals sign may stand behind the first one. -/
def shortOptions (c : Char) : List Char → Token
  | '=' :: d :: rest => .short (c :: d :: rest)
  | rest => .short (c :: rest)

/-- What an argument looks like. Negative numbers and arguments with a space are values, unless they
are options. -/
def classify (names : List String) (letters : List Char) (argument : String) : Token :=
  let orValue (token : Token) (rest : List Char) : Token :=
    if token = .unknown && (isUnsignedNumber rest || rest.contains ' ') then .plain else token
  match argument.toList with
  | '-' :: '-' :: rest => orValue (longOption names ('-' :: '-' :: rest)) ('-' :: rest)
  | '-' :: c :: rest =>
    orValue (if letters.contains c then shortOptions c rest else .unknown) (c :: rest)
  | _ => .plain

/-! ### Invocations -/

/-- Where content comes from. -/
inductive Place where
  /-- A file with a fixture. -/
  | fixture (path : String)
  /-- A content service, perhaps at an address that is given. -/
  | service (baseUrl : Option String)
  deriving DecidableEq, Repr

/-- What is to be done. -/
structure Invocation where
  /-- Say more in the log. -/
  isVerbose : Bool := false
  /-- The topic, if its name is a text. -/
  topicId : Option String
  /-- Where content comes from. -/
  place : Place
  /-- Schema versions are checked. -/
  checksSchemas : Bool := false
  /-- Progress is shown. -/
  showsProgress : Bool := true
  deriving DecidableEq, Repr

/-- What the arguments say. -/
inductive Reading where
  /-- Something is to be done. -/
  | invocation (invocation : Invocation)
  /-- Help is asked for. -/
  | help
  /-- Nothing that can be done. -/
  | invalid
  deriving DecidableEq, Repr

/-- The value of an option; two hyphens alone behind an equals sign are the value that is no
text. -/
abbrev Value := Option String

/-- The value behind an equals sign. -/
def Value.ofText (s : String) : Value := if s = separator then none else some s

/-- The options that were read. -/
structure Options where
  /-- The topic. -/
  topicId : Option Value := none
  /-- The path of a fixture. -/
  fixture : Option Value := none
  /-- The address of a service. -/
  baseUrl : Option Value := none
  /-- Schema versions are checked. -/
  checksSchemas : Bool := false
  /-- Progress is shown. -/
  showsProgress : Bool := true

/-- The long options of the command. -/
def longNames : List String :=
  ["--help", "--topic-id", "--fixture", "--base-url", "--checker", "--no-progress"]

/-- The options with the value of one more. -/
def Options.set? (o : Options) (name : String) (value : Value) : Option Options :=
  match name with
  | "--topic-id" => some { o with topicId := some value }
  | "--fixture" => some { o with fixture := some value }
  | "--base-url" => some { o with baseUrl := some value }
  | "--checker" =>
    match value with
    | none | some "permissive" => some { o with checksSchemas := false }
    | some "schema" => some { o with checksSchemas := true }
    | some _ => none
  | _ => none

/-- The place of a fixture; no path and an empty one mean a service. -/
def Place.ofPath (path : Value) : Place :=
  match path.filter (!·.isEmpty) with
  | some path => .fixture path
  | none => .service none

/-- The invocation that options make: there must be a topic and exactly one place. -/
def Options.invocation? (o : Options) (isVerbose : Bool) : Option Invocation := do
  let topicId ← o.topicId
  let place ← match o.fixture, o.baseUrl with
    | some path, none => some (.ofPath path)
    | none, some baseUrl => some (.service baseUrl)
    | _, _ => none
  return { isVerbose, topicId, place, checksSchemas := o.checksSchemas,
           showsProgress := o.showsProgress }

/-- Read the arguments after the name of the command. -/
def readOptions (isVerbose : Bool) (o : Options) : List String → Reading
  | [] =>
    match o.invocation? isVerbose with
    | some invocation => .invocation invocation
    | none => .invalid
  | argument :: rest =>
    if argument = separator then .invalid
    else
      match classify longNames ['h'] argument, rest with
      | .long "--help" none, _ => .help
      | .short letters, _ => if letters.all (· == 'h') then .help else .invalid
      | .long "--no-progress" none, rest =>
        readOptions isVerbose { o with showsProgress := false } rest
      | .long name (some value), rest =>
        match o.set? name (.ofText value) with
        | some o => readOptions isVerbose o rest
        | none => .invalid
      | .long name none, value :: rest =>
        if value ≠ separator && classify longNames ['h'] value = .plain then
          match o.set? name (some value) with
          | some o => readOptions isVerbose o rest
          | none => .invalid
        else .invalid
      | _, _ => .invalid

/-- The name of the command. -/
def commandName : String := "resolve"

/-- Read all arguments; only the options before the name of the command are general ones. -/
def readFrom (isVerbose : Bool) : List String → Reading
  | [] => .invalid
  | argument :: rest =>
    if argument = separator then .invalid
    else
      match classify ["--help", "--verbose"] ['h', 'v'] argument with
      | .long "--help" none => .help
      | .long "--verbose" none => readFrom true rest
      | .short letters =>
        if !letters.all ['h', 'v'].contains then .invalid
        else if letters.contains 'h' then .help
        else readFrom true rest
      | .plain => if argument = commandName then readOptions isVerbose {} rest else .invalid
      | _ => .invalid

/-- Read all arguments. -/
def read (arguments : List String) : Reading := readFrom false arguments

/-! ### Output -/

/-- What a run ends with. -/
inductive Ending where
  /-- A code and what is printed. -/
  | exit (code : Nat) (output : String)
  /-- The file with the fixture cannot be opened. -/
  | noFile (fault : FileFault)
  /-- The file holds no JSON. -/
  | notJson
  /-- The file holds no fixture. -/
  | badFixture (fault : FixtureFault)
  /-- The settings cannot be read. -/
  | badSettings (fault : SettingsFault)
  /-- The service cannot be asked at its address. -/
  | badAddress (fault : AddressFault)
  /-- The name of the topic is no text. -/
  | noTopic
  deriving DecidableEq, Repr

/-- What is printed of an error: why there is no pack, and nothing for other errors, which are left
to the log. -/
def endingOfError : Error → Ending
  | .incompatibleTopic topicId reasons =>
    .exit 1 ((Json.obj [("topic_id", .str topicId),
      ("failures", .arr (reasons.map fun r => .str r.text))]).write ++ "\n")
  | .fetch (.unsendable _ fault) => .badAddress fault
  | _ => .exit 2 ""

/-- What is printed of a result. -/
def endingOf : Except Error TopicPack → Ending
  | .ok pack => .exit 0 (pack.summary.write ++ "\n")
  | .error e => endingOfError e

/-- Read the store from the text of a fixture. -/
def readStore (text : Except FileFault String) : Except Ending Store := do
  let text ← text.mapError .noFile
  let some fixture := Json.read? text | throw .notJson
  (Store.ofFixture fixture).mapError .badFixture

/-- The settings of an environment. -/
def readSettings (environment : Environment) : Except Ending Settings :=
  environment.settings.mapError .badSettings

/-- The client for a service; none can be reached from here, and waiting for one is in vain. -/
def readClient (settings : FetchSettings) (baseUrl : Option String) :
    Except Ending (Http.Client Unit) := do
  let connection ← (Http.Connection.configure settings baseUrl).mapError endingOfError
  match connection.client? fun _ => return .error (.request (.exchange .connect)) with
  | some client => return { client with retries := 0 }
  | none => throw (.badAddress .malformed)

/-- Resolve the pack of the topic of an invocation from a source. -/
def resolveFrom {σ : Type} (source : Source σ) (state : σ) (i : Invocation)
    (settings : Settings) : Ending :=
  match i.topicId with
  | none => .noTopic
  | some topicId =>
    let checker := if i.checksSchemas then settings.compatibility.checker else .permissive
    let assembler := Assembler.ofSettings source checker settings.resolver
    endingOf (((assembler.resolve topicId).run).run { remote := state }).1

/-- Do what an invocation asks for. Settings are read before the fixture if the checker needs
them. -/
def perform (i : Invocation) (environment : Environment)
    (readFile : String → Except FileFault String) : Except Ending Ending := do
  if i.checksSchemas then discard (readSettings environment)
  match i.place with
  | .fixture path =>
    let store ← readStore (readFile path)
    return resolveFrom store.source [] i (← readSettings environment)
  | .service baseUrl =>
    let settings ← readSettings environment
    let client ← readClient settings.fetch baseUrl
    return resolveFrom client.source () i settings

/-- Do what arguments ask for. -/
def run (arguments : List String) (environment : Environment)
    (readFile : String → Except FileFault String) : Option Ending :=
  match read arguments with
  | .invocation i =>
    match perform i environment readFile with
    | .ok ending | .error ending => some ending
  | _ => none

end ContentPack.CommandLine
