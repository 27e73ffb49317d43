import ContentPack.Http.Client

/-!
# Recorded services

A recording lists, for every target, the answers that a service gives in turn; the last one is
given again and again. Playing it back is a transport, and leaves a log of the targets.
-/

namespace ContentPack.Http

/-- A recorded service, as far as it was played back. -/
structure Playback where
  /-- The answers that are still to come, by target. -/
  routes : Table String (List (Except AttemptFault Response)) := []
  /-- The targets that were requested, in order. -/
  requested : List String := []

namespace Playback

/-- The body of the answer for an unknown target. -/
def notFoundBody : String := "\x7b\"error\": \"not found\"\x7d"

/-- The answer for a target that was not recorded. -/
def notFound : Response := { status := 404, body := notFoundBody.toUTF8.toList.map (·.toNat) }

/-- Give the next answer for a target. -/
def transport : Transport Playback := fun target p =>
  let p := { p with requested := p.requested ++ [target] }
  match p.routes.get? target with
  | some (answer :: next :: rest) =>
    (answer, { p with routes := p.routes.put target (next :: rest) })
  | some [answer] => (answer, p)
  | _ => (.ok notFound, p)

end Playback

end ContentPack.Http
