import ContentPack.CommandLine

/-!
# The program

Reads arguments, environment variables and the fixture, and prints what `CommandLine` says. Why a
run failed goes to the standard error.
-/

namespace ContentPack.CommandLine

/-- How the program is used. -/
def usage : String :=
  "usage: [-v] resolve --topic-id ID (--fixture PATH | --base-url URL)\n" ++
  "         [--checker permissive|schema] [--no-progress]"

/-- The variables of the process that settings are read from. -/
def readEnvironment : IO Environment := do
  let mut environment : Environment := []
  for name in Environment.names do
    for spelling in [name, name.toUpper] do
      if let some value ← IO.getEnv spelling then
        environment := environment.put spelling value
  return environment

/-- The text of a file, unless it cannot be read. -/
def readText (path : String) : IO (Except FileFault String) := do
  try
    return .ok (← IO.FS.readFile path)
  catch _ =>
    return .error .missing

/-- Print what a run ends with, and give its code. -/
def Ending.report : Ending → IO UInt32
  | .exit code output => do
    (← IO.getStdout).putStr output
    return code.toUInt32
  | .noFile _ => fail "The fixture cannot be read."
  | .notJson => fail "The fixture is no JSON."
  | .badFixture _ => fail "The fixture does not fit its schema."
  | .badSettings _ => fail "The settings cannot be read."
  | .badAddress _ => fail "The service has no address to be asked at."
  | .noTopic => fail "No topic is named."
where
  fail (message : String) : IO UInt32 := do
    IO.eprintln message
    return 1

end ContentPack.CommandLine

open ContentPack CommandLine in
/-- Do what the arguments ask for. -/
def main (arguments : List String) : IO UInt32 := do
  match read arguments with
  | .help =>
    IO.println usage
    return 0
  | .invalid =>
    IO.eprintln usage
    return 2
  | .invocation i =>
    let text ← match i.place with
      | .fixture path => readText path
      | .service _ => pure (.error .missing)
    match perform i (← readEnvironment) fun _ => text with
    | .ok ending | .error ending => ending.report
