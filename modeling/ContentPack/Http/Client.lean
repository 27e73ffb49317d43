import ContentPack.Fetch.Source
import ContentPack.Http.Reference
import ContentPack.Json.Encoding
import ContentPack.Schema.Content

/-!
# Content over a connection

A content service answers under a base address:

* `{collection}/{id}` is the newest version of a structure,
* `{collection}/{id}/versions?v=1&v=2` are versions of it, in that order,
* `explorations/{id}/versions/{version}/translations/{language}` are translations.

A client follows redirections. A request whose attempt fails through a fault of the transport or of
the server is attempted again, up to a number of attempts; every attempt that is not the last can
put the answer off. A request without an address is not attempted, and nothing is sent by a client
that was closed.
-/

namespace ContentPack.Http

/-- An answer of a server. -/
structure Response where
  /-- The status. -/
  status : Nat := 200
  /-- The bytes of the body. -/
  body : List Nat := []
  /-- Where the answer is found instead. -/
  location : Option String := none
  deriving DecidableEq, Repr

namespace Response

/-- The status tells success. -/
def isSuccess (r : Response) : Bool := 200 ≤ r.status && r.status < 300

/-- The statuses of redirections. -/
def redirectStatuses : List Nat := [301, 302, 303, 307, 308]

/-- Where a redirection leads. -/
def redirection? (r : Response) : Option String :=
  if redirectStatuses.contains r.status then r.location else none

end Response

/-- Why an attempt failed. -/
inductive AttemptFault where
  /-- The exchange failed, or its answer is no success. -/
  | request (fault : RequestFault)
  /-- There is no address to ask or to go on to. -/
  | address (fault : AddressFault)
  deriving DecidableEq, Repr

/-- Another attempt may succeed. -/
def AttemptFault.isTransient : AttemptFault → Bool
  | request fault => fault.isTransient
  | address _ => false

/-! ### Clients -/

/-- What sends a request for a target and waits for the answer. -/
abbrev Transport (τ : Type) := String → StateM τ (Except AttemptFault Response)

/-- Where and how requests are made. -/
structure Client (τ : Type) where
  /-- The base address, which is that of a folder. -/
  base : Address
  /-- How often a request is attempted, apart from the last time. -/
  retries : Nat
  /-- The transport. -/
  transport : Transport τ
  /-- Requests can be sent. -/
  isOpen : Bool := true

/-! ### Paths -/

/-- The collection of a kind of structure. -/
def collection : Kind → String
  | .topic => "topics"
  | .subtopic => "subtopic_pages"
  | .story => "stories"
  | .exploration => "explorations"
  | .skill => "skills"

/-- The path of a structure. -/
def structurePath (place : Locator) : String := "/" ++ collection place.kind ++ "/" ++ place.key

/-- The path of a request below the base. -/
def requestPath : Request → String
  | .latest place => structurePath place
  | .versions place _ => structurePath place ++ "/versions"
  | .translation explorationId version languageCode =>
    structurePath ⟨.exploration, explorationId⟩ ++ "/versions/" ++ toString version ++
      "/translations/" ++ languageCode

/-- The address of a request. -/
def requestAddress (base : Address) (r : Request) : Except AddressFault Address := do
  let some address := base.below? (requestPath r).toList | throw .malformed
  let address := match r with
    | .versions _ versions => address.withVersions versions
    | _ => address
  address.checkHost
  return address

/-! ### Replies -/

/-- A value read by its schema. -/
def readReply {α : Type} (path : String) (read : Json → Except Misfit α) (j : Json) :
    Except FetchFailure α :=
  match read j with
  | .ok value => .ok value
  | .error misfit => .error (.malformed path misfit)

/-- The reply that a value is. -/
def reply (path : String) : (r : Request) → Json → r.Answer
  | .latest id => readReply path (Schema.readDocument id.kind)
  | .versions id _ => fun
    | .arr items => items.mapM (readReply path (Schema.readDocument id.kind))
    | _ => .error (.notAList path)
  | .translation _ _ _ => readReply path Schema.readTranslation

/-- The answer to a request after its last attempt. -/
def conclude (r : Request) : Except AttemptFault Response → r.Answer
  | .error (.request fault) => .error (.request (requestPath r) fault)
  | .error (.address fault) => .error (.unsendable (requestPath r) fault)
  | .ok response =>
    match Json.readBytes? response.body with
    | some value => reply (requestPath r) r value
    | none => .error (.invalidJson (requestPath r))

/-! ### Redirections -/

/-- The address that a redirection leads to from an address. -/
def nextAddress (address : Address) (location : String) : Except AttemptFault Address :=
  match Address.parse? location.toList with
  | none => .error (.request (.exchange .remoteProtocol))
  | some named => (named.redirectedFrom address).mapError .address

/-- What an answer from an address comes to: the result of the attempt, or the address that it goes
on to. -/
def arrive (address : Address) :
    Except AttemptFault Response → Except AttemptFault Response ⊕ Address
  | .error fault => .inl (.error fault)
  | .ok response =>
    if response.location.any fun s => s.toList.any (127 < ·.toNat) then
      .inl (.error (.address .unwritten))
    else if !address.seemsSchemed then
      .inl (.error (.address .noScheme))
    else match response.redirection? with
      | none =>
        .inl (if response.isSuccess then .ok response
          else .error (.request (.status response.status)))
      | some location =>
        match nextAddress address location with
        | .error fault => .inl (.error fault)
        | .ok next => .inr next

namespace Client

variable {τ : Type}

/-! ### Attempts -/

/-- The most redirections that are followed. -/
def maxRedirects : Nat := 20

/-- Request an address, and follow redirections as long as more may follow. That there are too many
is seen only when there is an address to go on to. -/
def follow (c : Client τ) : Nat → Address → StateM τ (Except AttemptFault Response)
  | 0, address => do
    match arrive address (← c.transport (String.ofList address.target)) with
    | .inl result => return result
    | .inr _ => return .error (.request (.exchange .tooManyRedirects))
  | more + 1, address => do
    match arrive address (← c.transport (String.ofList address.target)) with
    | .inl result => return result
    | .inr next => c.follow more next

/-- Attempt a request of an address once. -/
def attempt (c : Client τ) (address : Address) : StateM τ (Except AttemptFault Response) :=
  if c.isOpen then c.follow maxRedirects address else return .error (.address .closed)

/-! ### The source -/

/-- What is known without a request: no versions are no structures, and a path may have no
address. -/
def prepare (c : Client τ) (r : Request) : Address ⊕ r.Answer :=
  match r with
  | .versions _ [] => .inr (.ok [])
  | r =>
    match requestAddress c.base r with
    | .ok address => .inl address
    | .error fault => .inr (.error (.unsendable (requestPath r) fault))

/-- The service as a source: an attempt that failed through a fault that may pass puts the answer
off. -/
def source (c : Client τ) : Source τ where
  delays := c.retries
  poll := fun r state =>
    match c.prepare r with
    | .inr answer => (some answer, state)
    | .inl address =>
      match c.attempt address state with
      | (.error fault, state) =>
        (if fault.isTransient then none else some (conclude r (.error fault)), state)
      | (.ok response, state) => (some (conclude r (.ok response)), state)
  settle := fun r state =>
    match c.prepare r with
    | .inr answer => (answer, state)
    | .inl address =>
      let (result, state) := c.attempt address state
      (conclude r result, state)

/-- The client after it was closed. -/
def close (c : Client τ) : Client τ := { c with isOpen := false }

end Client

end ContentPack.Http
