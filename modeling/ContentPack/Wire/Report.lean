import ContentPack.Json.Arithmetic
import ContentPack.Wire.Fault

/-!
# Reports on the wire

A report is made from the name of a class of errors and named arguments. Each class has arguments of
its own, the first of which must be there; the others are details of the report, if the class takes
any.
-/

namespace ContentPack.Wire

/-- The arguments that a class has names for. -/
def ownArguments : ErrorClass → List String
  | .incompatibleTopic => ["topic_id", "failures"]
  | .closureLimit => ["message", "rounds"]
  | .fetch => ["message", "structure"]
  | .general | .configuration | .logic => ["message", "details"]

/-- A class takes arguments with any names as details. -/
def takesDetails : ErrorClass → Bool
  | .closureLimit | .fetch => true
  | .general | .configuration | .logic | .incompatibleTopic => false

/-- The names of arguments fit a class. -/
def areArguments (errorClass : ErrorClass) (names : List String) : Bool :=
  (ownArguments errorClass).head?.all names.contains &&
    (takesDetails errorClass || names.all (ownArguments errorClass).contains)

/-- The report of a class with a message and details; a message is a text. -/
def readMessage (errorClass : ErrorClass) (arguments details : Json) : Reading Report :=
  match arguments.get? "message" with
  | some (.str message) => .ok ⟨errorClass, message, details⟩
  | _ => .error (.named "TypeError")

/-- The report that the name of a class and arguments make. -/
def readReport (name : String) (arguments : Json) : Reading Report := do
  let some errorClass := ErrorClass.all.find? (·.name == name) | throw (.named "AttributeError")
  let failures ← (items (field "failures" arguments)).mapM fun f => orMisfit (readRejection f)
  unless areArguments errorClass ((entries arguments).map (·.1)) do throw (.named "TypeError")
  match errorClass with
  | .incompatibleTopic =>
    let topicId := (field "topic_id" arguments).plainDisplay
    return (Error.incompatibleTopic topicId failures).report
  | .closureLimit | .fetch =>
    let own := ownArguments errorClass
    readMessage errorClass arguments
      (.obj ((entries arguments).filter fun (key, _) => !own.contains key))
  | .general | .configuration | .logic =>
    readMessage errorClass arguments (field "details" arguments)

/-- The texts among values. -/
def allTexts? (values : List Json) : Option (List String) :=
  values.mapM fun
    | .str s => some s
    | _ => none

/-- The keys or items of details in order, if they have one. -/
def detailNames? (details : Json) : Option (List Json) :=
  if details.isEmptyValue then some []
  else do
    match ← details.elements? with
    | [value] => return [value]
    | values => return ((← allTexts? values).mergeSort (· ≤ ·)).map .str

/-- A report. -/
def report (r : Report) : Reading Json := do
  let some details := detailNames? r.details | throw (.named "TypeError")
  return .obj [("text", .str r.text), ("kind", .str r.errorClass.name),
    ("bases", texts (r.errorClass.ancestors.map (·.name))), ("details", .arr details),
    ("message", .str r.message)]

end ContentPack.Wire
