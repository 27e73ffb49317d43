import ContentPack.Compatibility.BlockList
import ContentPack.Settings.Basic
import ContentPack.Wire.Outcome

/-!
# Checkers on the wire

How a checker is described: it accepts everything, it has limits on schema versions, or it blocks
versions for stated reasons.
-/

namespace ContentPack.Wire

/-- The reason of a rule that states none. -/
def plainReason : String := "rejected"

/-- A rule that blocks versions. -/
def readRule (j : Json) : BlockedVersions :=
  { kind := text (field "kind" j)
    id := text (field "id" j)
    versions := (field? "versions" j).map fun versions => (items versions).map whole
    reasons := match field? "reasons" j with
      | some reasons => (items reasons).map text
      | none => [plainReason] }

/-- A checker. -/
def readChecker : Option Json → Except Misfit Checker
  | none => .ok .permissive
  | some j =>
    match text (field "type" j) with
    | "schema" =>
      (SettingsPart.compatibility.read ((field? "constraints" j).getD (.obj []))).map
        SchemaLimits.checker
    | "rules" => .ok (BlockedVersions.checker ((items (field "rules" j)).map readRule))
    | _ => .ok .permissive

end ContentPack.Wire
