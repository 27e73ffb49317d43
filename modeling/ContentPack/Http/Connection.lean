import ContentPack.Http.Client
import ContentPack.Settings.Basic

/-!
# Connections to a content service

What a client needs to know before it can ask: the base address, how long it waits and how often it
tries. What is not given comes from the settings.
-/

namespace ContentPack.Http

/-- How a content service is reached. -/
structure Connection where
  /-- The base address, without slashes at its end. -/
  baseUrl : String
  /-- How long to wait for an answer, in seconds. -/
  timeout : Binary64
  /-- How often a request is attempted, at least once. -/
  maxRetries : Int
  deriving Repr

namespace Connection

/-- The text without slashes at its end. -/
def trimSlashes (s : String) : String := String.ofList (Text.dropEnd (· == '/') s.toList)

/-- A base address must be given, or be part of the settings. -/
def configure (settings : FetchSettings) (baseUrl : Option String)
    (timeout : Option Binary64 := none) (maxRetries : Option Int := none) :
    Except Error Connection :=
  let given := (baseUrl.filter (!·.isEmpty)).or settings.baseUrl
  let base := trimSlashes (given.getD "")
  if base.isEmpty then
    .error (.configuration
      "A content service base URL is required (TOPIC_PACK_FETCH_BASE_URL).")
  else
    .ok
      { baseUrl := base
        timeout := timeout.getD settings.requestTimeout
        maxRetries := max 1 (maxRetries.getD settings.maxRetries) }

/-- The client that asks over a transport, if the base address is one. -/
def client? {τ : Type} (c : Connection) (transport : Transport τ) : Option (Client τ) := do
  let base ← (← Address.parse? c.baseUrl.toList).folder?
  return { base, retries := (c.maxRetries - 1).toNat, transport }

end Connection

end ContentPack.Http
