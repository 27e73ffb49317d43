import ContentPack.Http.Playback
import ContentPack.Json.Writer
import ContentPack.Wire.Outcome

/-!
# Recordings on the wire

How the answers of a recorded service are read: an answer has a status, a place where it is found
instead, and a body that is a JSON value, a text or bytes in base 64; or it is the name of a fault.
-/

namespace ContentPack.Wire

/-! ### Base 64 -/

/-- The value of a digit. -/
def base64Digit? (c : Char) : Option Nat :=
  if 'A' ≤ c && c ≤ 'Z' then some (c.toNat - 'A'.toNat)
  else if 'a' ≤ c && c ≤ 'z' then some (c.toNat - 'a'.toNat + 26)
  else if '0' ≤ c && c ≤ '9' then some (c.toNat - '0'.toNat + 52)
  else if c == '+' then some 62
  else if c == '/' then some 63
  else none

/-- The bytes of digits: four digits are three bytes, and a shorter end is one byte less than its
number of digits. -/
def base64Bytes : List Nat → List Nat
  | a :: b :: c :: d :: rest =>
    (a * 4 + b / 16) :: (b % 16 * 16 + c / 4) :: (c % 4 * 64 + d) :: base64Bytes rest
  | [a, b, c] => [a * 4 + b / 16, b % 16 * 16 + c / 4]
  | [a, b] => [a * 4 + b / 16]
  | _ => []

/-- The bytes of a text in base 64. -/
def readBase64 (s : String) : List Nat := base64Bytes (s.toList.filterMap base64Digit?)

/-! ### Answers -/

/-- The bytes of a text. -/
def bytes (s : String) : List Nat := s.toUTF8.toList.map (·.toNat)

/-- The body of an answer; without any it is `null`. -/
def readBody (j : Json) : List Nat :=
  match j.get? "text", j.get? "b64" with
  | some s, _ => bytes (text s)
  | none, some s => readBase64 (text s)
  | none, none => bytes (field "json" j).write

/-- The fault of an attempt by its name. -/
def attemptFault (name : String) : Http.AttemptFault :=
  if name = addressFault .malformed then .address .malformed
  else .request (.exchange ((ExchangeFault.ofName? name).getD .exchange))

/-- An answer of a service. -/
def readResponse (j : Json) : Except Http.AttemptFault Http.Response :=
  match field? "raise" j with
  | some name => .error (attemptFault (text name))
  | none =>
    .ok
      { status := (((field? "status" j).map whole).getD 200).toNat
        body := readBody j
        location := (field? "location" j).map text }

/-- A service with its answers by target. -/
def readRecording (j : Json) : Http.Playback :=
  { routes := (entries j).map fun (target, answers) =>
      (target, (items answers).map readResponse) }

end ContentPack.Wire
