import ContentPack.Wire.Content
import ContentPack.Schema.Content

/-!
# Outcomes and errors on the wire

How outcomes of loads, reasons and errors are handed to other programs as JSON, and how outcomes
and reasons are read.
-/

namespace ContentPack.Wire

/-! ### Plain values that are read -/

/-- The text of a value; other values have none. -/
def text : Json → String
  | .str s => s
  | _ => ""

/-- The whole number of a value; booleans count as one and zero, and other values as zero. -/
def whole : Json → Int
  | .int n => n
  | .bool b => if b then 1 else 0
  | _ => 0

/-- The items of a value; only an array has any. -/
def items : Json → List Json
  | .arr items => items
  | _ => []

/-- The entries of a value; only an object has any. -/
def entries : Json → Table String Json
  | .obj fields => fields
  | _ => []

/-- A field, `null` when it is absent. -/
def field (name : String) (j : Json) : Json := (j.get? name).getD .null

/-- A field that is neither absent nor `null`. -/
def field? (name : String) (j : Json) : Option Json :=
  match j.get? name with
  | some .null | none => none
  | some value => some value

/-! ### Outcomes -/

/-- A reason, as a list of its parts. -/
def rejection (r : Rejection) : Json :=
  .arr [.str r.kind, .str r.structureId, optional .int r.version, .str r.reason]

/-- The reason that a list of parts is. -/
def readRejection (j : Json) : Except Misfit Rejection :=
  Schema.rejection.run "CompatibilityFailure"
    (.obj (["kind", "structure_id", "version", "reason"].zip (items j)))

/-- An outcome. -/
def outcome {α : Type} (write : α → Json) : Outcome α → Json
  | .pending => .obj [("pending", .bool true)]
  | .success value => .obj [("success", write value)]
  | .failure reasons => .obj [("failure", .arr (reasons.map rejection))]

/-- The outcome that an object is. -/
def readOutcome (j : Json) : Except Misfit (Outcome Json) :=
  match j.get? "success", j.get? "failure" with
  | some value, _ => .ok (.success value)
  | none, some reasons => return .failure (← (items reasons).mapM readRejection)
  | none, none => .ok .pending

mutual

/-- A value in which every object is a list of pairs. -/
def paired : Json → Json
  | .arr items => .arr (pairedItems items)
  | .obj fields => .arr (pairedFields fields)
  | j => j

/-- Items in which every object is a list of pairs. -/
def pairedItems : List Json → List Json
  | [] => []
  | item :: items => paired item :: pairedItems items

/-- Fields as pairs. -/
def pairedFields : List (String × Json) → List Json
  | [] => []
  | (key, value) :: fields => .arr [.str key, paired value] :: pairedFields fields

end

/-! ### Errors -/

/-- A part of a place inside a value. -/
def pathPart : PathPart → Json
  | .field name => .str name
  | .position index => .int index

/-- Issues with their places. -/
def issues (xs : List Issue) : Json :=
  .arr (xs.map fun i =>
    .obj [("loc", .arr (i.path.map pathPart)), ("type", .str i.problem.code)])

/-- What is told of a value that does not fit its schema. -/
def misfit (m : Misfit) : Table String Json :=
  [("error", .str "ValidationError"), ("model", .str m.model), ("errors", issues m.issues)]

/-- What is told of a failed request beside its message. -/
def requestFault : RequestFault → Table String Json
  | .status code => [("cause", .str "HTTPStatusError"), ("status", .int code)]
  | .exchange fault => [("cause", .str fault.name)]

/-- The name under which it is told that a request could not be sent. -/
def addressFault : AddressFault → String
  | .malformed => "InvalidURL"
  | .host .form => "IDNAError"
  | .host .character => "InvalidCodepoint"
  | .host .context => "InvalidCodepointContext"
  | .host .direction => "IDNABidiError"
  | .unwritten => "UnicodeEncodeError"
  | .noScheme | .brackets => "ValueError"
  | .closed => "RuntimeError"

/-- What is told of an error beside its class and message. -/
def errorDetails : Error → Table String Json
  | .closureLimit rounds _ => [("rounds", .int rounds)]
  | .incompatibleTopic topicId reasons =>
    [("topic_id", .str topicId), ("failures", .arr (reasons.map rejection))]
  | .fetch failure =>
    ("structure", .str failure.subject) ::
      match failure with
      | .request _ fault => requestFault fault
      | .malformed _ misfit =>
        [("cause", .str "ValidationError"), ("errors", issues misfit.issues)]
      | _ => []
  | _ => []

/-- What is told of an error. -/
def error : Error → Table String Json
  | .fetch (.unsendable _ fault) => [("error", .str (addressFault fault))]
  | e => ("error", .str e.report.errorClass.name) :: ("message", .str e.report.text) ::
      errorDetails e

end ContentPack.Wire
