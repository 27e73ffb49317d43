import ContentPack.Json.Display
import ContentPack.Outcome
import ContentPack.Structure.Identity

/-!
# Errors

Why work was given up. `Error` lists the causes with what they know; `Error.report` puts a cause
into words. Errors are sorted into classes, each below a more general one (`ErrorClass.ancestors`),
and a report may carry details beside its message.
-/

namespace ContentPack

/-! ### Reports -/

/-- The classes of errors. -/
inductive ErrorClass where
  /-- Any error of this library. -/
  | general
  /-- A setting is invalid. -/
  | configuration
  /-- A closure of skills grew past its bound. -/
  | closureLimit
  /-- Something could not be fetched. -/
  | fetch
  /-- An operation was used outside its contract. -/
  | logic
  /-- No version of a topic has a compatible closure. -/
  | incompatibleTopic
  deriving DecidableEq, Repr, Inhabited

namespace ErrorClass

/-- The name of a class. -/
def name : ErrorClass → String
  | general => "TopicPackError"
  | configuration => "ConfigurationError"
  | closureLimit => "SkillClosureLimitError"
  | fetch => "FetchError"
  | logic => "LogicError"
  | incompatibleTopic => "IncompatibleTopicError"

/-- Every class. -/
def all : List ErrorClass := [general, configuration, closureLimit, fetch, logic, incompatibleTopic]

/-- The more general classes, the nearest first. -/
def ancestors : ErrorClass → List ErrorClass
  | general => []
  | closureLimit => [configuration, general]
  | configuration | fetch | logic | incompatibleTopic => [general]

end ErrorClass

/-- What is told about an error. -/
structure Report where
  /-- The class. -/
  errorClass : ErrorClass
  /-- The message. -/
  message : String
  /-- What is told beside the message, mostly an object of named values. -/
  details : Json := .obj []
  deriving Repr

/-- The message, with the details if there are any. -/
def Report.text (r : Report) : String :=
  if r.details.isEmptyValue then r.message
  else r.message ++ " | Details: " ++ r.details.plainDisplay

/-! ### Causes -/

/-- A use of an operation outside its contract. -/
inductive Misuse where
  /-- An index is missing for a subtopic, or present for another kind. -/
  | indexMismatch (kind : Kind) (id : String) (index : Option Int)
  /-- A version below one. -/
  | versionBelowOne (version : Int) (id : StructureId)
  /-- A structure that the cache does not track. -/
  | notTracked (id : StructureId)
  /-- A version that the cache has no entry for. -/
  | noEntry (reference : Reference)
  /-- A version other than the newest one cannot be dropped. -/
  | notNewest (reference : Reference)
  /-- The last version of a structure cannot be dropped. -/
  | lastVersion (id : StructureId)
  /-- A version is still pending after it was loaded. -/
  | stillPending (reference : Reference)
  /-- A field is populated by two fragments. -/
  | populatedTwice (field : String)
  /-- A fragment lacks fields of a pack. -/
  | incomplete (fields : List String)
  /-- A list of outcomes that is reduced has no first element. -/
  | emptyReduction
  /-- A success has no failure to pass on. -/
  | passedSuccess (shown : String)
  /-- A pack is still pending at the end of a run. -/
  | pendingPack (topicId : String)
  deriving DecidableEq, Repr

namespace Misuse

/-- The identity of wrong parts, as it is shown in a message. -/
def showParts (kind : Kind) (id : String) (index : Option Int) : String :=
  let shownIndex := match index with
    | some n => toString n
    | none => "None"
  "StructureId(kind=<StructureKind." ++ kind.name.toUpper ++ ": " ++ Text.quoted kind.name ++
    ">, id=" ++ Text.quoted id ++ ", subtopic_index=" ++ shownIndex ++ ")"

/-- The misuse in words. -/
def message : Misuse → String
  | indexMismatch kind id index =>
    "subtopic_index must be set exactly for subtopic IDs: " ++ showParts kind id index
  | versionBelowOne version id =>
    "Structure versions start at 1, got " ++ toString version ++ " for " ++ id.text ++ "."
  | notTracked id => "Structure " ++ id.text ++ " is not tracked."
  | noEntry reference => "No cached entry for " ++ reference.text ++ "."
  | notNewest reference =>
    "Can only invalidate the most recent version of a structure, not " ++ reference.text ++ "."
  | lastVersion id => "Cannot remove the final version of " ++ id.text ++ "."
  | stillPending reference => "Expected " ++ reference.text ++ " to be loaded."
  | populatedTwice field =>
    "Both fragments populate '" ++ field ++ "'; expected exactly one to."
  | incomplete fields =>
    "Topic pack fragment is incomplete; missing: " ++ ", ".intercalate fields ++ "."
  | emptyReduction => "Cannot reduce an empty list of load results."
  | passedSuccess shown =>
    "Cannot pass through a successful result: Success(value=" ++ shown ++ ")"
  | pendingPack topicId => "Pack result should not be pending for topic: " ++ topicId ++ "."

end Misuse

/-- The ways in which an exchange over a connection can fail before there is an answer. -/
inductive ExchangeFault where
  /-- No connection in time. -/
  | connectTimeout
  /-- No data in time. -/
  | readTimeout
  /-- Data could not be sent in time. -/
  | writeTimeout
  /-- No free connection in time. -/
  | poolTimeout
  /-- Something took too long. -/
  | timeout
  /-- No connection. -/
  | connect
  /-- Data could not be received. -/
  | read
  /-- Data could not be sent. -/
  | write
  /-- The connection could not be closed. -/
  | close
  /-- The network failed. -/
  | network
  /-- The request breaks the protocol. -/
  | localProtocol
  /-- The answer breaks the protocol. -/
  | remoteProtocol
  /-- The protocol was broken. -/
  | protocol
  /-- The proxy failed. -/
  | proxy
  /-- The protocol is not spoken. -/
  | unsupportedProtocol
  /-- The transport failed. -/
  | transport
  /-- The encoding of the answer is wrong. -/
  | decoding
  /-- The answer was redirected too often. -/
  | tooManyRedirects
  /-- The request failed. -/
  | request
  /-- The exchange failed. -/
  | exchange
  deriving DecidableEq, Repr

namespace ExchangeFault

/-- Every fault. -/
def all : List ExchangeFault :=
  [connectTimeout, readTimeout, writeTimeout, poolTimeout, timeout, connect, read, write, close,
    network, localProtocol, remoteProtocol, protocol, proxy, unsupportedProtocol, transport,
    decoding, tooManyRedirects, request, exchange]

/-- The name of a fault. -/
def name : ExchangeFault → String
  | connectTimeout => "ConnectTimeout"
  | readTimeout => "ReadTimeout"
  | writeTimeout => "WriteTimeout"
  | poolTimeout => "PoolTimeout"
  | timeout => "TimeoutException"
  | connect => "ConnectError"
  | read => "ReadError"
  | write => "WriteError"
  | close => "CloseError"
  | network => "NetworkError"
  | localProtocol => "LocalProtocolError"
  | remoteProtocol => "RemoteProtocolError"
  | protocol => "ProtocolError"
  | proxy => "ProxyError"
  | unsupportedProtocol => "UnsupportedProtocol"
  | transport => "TransportError"
  | decoding => "DecodingError"
  | tooManyRedirects => "TooManyRedirects"
  | request => "RequestError"
  | exchange => "HTTPError"

/-- The fault with a name. -/
def ofName? (name : String) : Option ExchangeFault := all.find? (·.name == name)

/-- The transport is at fault, so another attempt may succeed. -/
def isTransient : ExchangeFault → Bool
  | decoding | tooManyRedirects | request | exchange => false
  | _ => true

end ExchangeFault

/-- Why a request over a connection failed. -/
inductive RequestFault where
  /-- The answer has a status that is no success. -/
  | status (code : Nat)
  /-- The exchange itself failed. -/
  | exchange (fault : ExchangeFault)
  deriving DecidableEq, Repr

/-- Another attempt may succeed: the transport or the server is at fault. -/
def RequestFault.isTransient : RequestFault → Bool
  | status code => 500 ≤ code
  | exchange fault => fault.isTransient

/-- What is wrong with the name of a host. -/
inductive HostFault where
  /-- The name is not formed as it should be. -/
  | form
  /-- A character that no name has. -/
  | character
  /-- A character in a place where it cannot stand. -/
  | context
  /-- A mixture of directions of writing. -/
  | direction
  deriving DecidableEq, Repr

/-- Why a request cannot be sent to an address. -/
inductive AddressFault where
  /-- The text is no address. -/
  | malformed
  /-- The name of the host cannot be read. -/
  | host (fault : HostFault)
  /-- An answer names an address with characters that it cannot be written with. -/
  | unwritten
  /-- The address has no scheme, so an answer from there cannot be taken. -/
  | noScheme
  /-- The brackets of an authority hold nothing that may stand there. -/
  | brackets
  /-- The client was closed. -/
  | closed
  deriving DecidableEq, Repr

/-- A part of a place inside a value. -/
inductive PathPart where
  /-- A field of an object. -/
  | field (name : String)
  /-- An item of an array. -/
  | position (index : Nat)
  deriving DecidableEq, Repr

/-- Why a value does not fit its schema. -/
inductive Problem where
  /-- A required field is absent. -/
  | missing
  /-- Not a string. -/
  | stringType
  /-- Not a whole number. -/
  | intType
  /-- A string that does not read as a whole number. -/
  | intParsing
  /-- A whole number that is too large to be read. -/
  | intParsingSize
  /-- A number with a fraction. -/
  | intFromFloat
  /-- Not a number. -/
  | floatType
  /-- A string that does not read as a number. -/
  | floatParsing
  /-- An infinity, or not a number. -/
  | finiteNumber
  /-- A number below its least value. -/
  | greaterThanEqual
  /-- Not a list. -/
  | listType
  /-- Not an object. -/
  | dictType
  /-- Not a value of the model. -/
  | modelType
  /-- Not one of the values of an enumeration. -/
  | enumValue
  /-- A field that the schema does not have. -/
  | extraForbidden
  deriving DecidableEq, Repr

/-- The name of a problem. -/
def Problem.code : Problem → String
  | missing => "missing"
  | stringType => "string_type"
  | intType => "int_type"
  | intParsing => "int_parsing"
  | intParsingSize => "int_parsing_size"
  | intFromFloat => "int_from_float"
  | floatType => "float_type"
  | floatParsing => "float_parsing"
  | finiteNumber => "finite_number"
  | greaterThanEqual => "greater_than_equal"
  | listType => "list_type"
  | dictType => "dict_type"
  | modelType => "model_type"
  | enumValue => "enum"
  | extraForbidden => "extra_forbidden"

/-- A place inside a value and what is wrong there. -/
structure Issue where
  /-- The place, from the outside in. -/
  path : List PathPart
  /-- What is wrong. -/
  problem : Problem
  deriving DecidableEq, Repr

/-- A value that does not fit its schema. -/
structure Misfit where
  /-- The name of the schema. -/
  model : String
  /-- What is wrong, in the order of the schema. -/
  issues : List Issue
  deriving DecidableEq, Repr

/-- Why something could not be fetched. -/
inductive FetchFailure where
  /-- A structure that is not served. -/
  | unknown (place : Locator)
  /-- Versions of a structure that are not served. -/
  | unknownVersions (versions : List Int) (place : Locator)
  /-- As many versions were asked for, and another number came. -/
  | wrongCount (id : StructureId) (requested received : Nat)
  /-- A request failed. -/
  | request (path : String) (fault : RequestFault)
  /-- A request could not be sent, or its answer not be taken. -/
  | unsendable (path : String) (fault : AddressFault)
  /-- An answer is not JSON. -/
  | invalidJson (path : String)
  /-- An answer should be a list and is not. -/
  | notAList (path : String)
  /-- An answer does not fit its schema. -/
  | malformed (path : String) (misfit : Misfit)
  deriving DecidableEq, Repr

namespace FetchFailure

/-- The failure in words. -/
def message : FetchFailure → String
  | unknown place => "Unknown " ++ place.kind.name ++ ": " ++ place.key
  | unknownVersions versions place =>
    "Unknown versions [" ++ ", ".intercalate (versions.map toString) ++ "] of " ++
      place.kind.name ++ " " ++ place.key
  | wrongCount _ requested received =>
    "Requested " ++ toString requested ++ " version(s) but received " ++ toString received ++ "."
  | request path _ => "Request failed: GET " ++ path
  | unsendable path _ => "No address for " ++ path
  | invalidJson path => "Invalid JSON from GET " ++ path
  | notAList path => "Expected a list of versions from " ++ path
  | malformed path misfit => "Malformed " ++ misfit.model ++ " from " ++ path

/-- What could not be fetched. -/
def subject : FetchFailure → String
  | unknown place | unknownVersions _ place => place.key
  | wrongCount id _ _ => id.text
  | request path _ | unsendable path _ | invalidJson path | notAList path | malformed path _ => path

end FetchFailure

/-- Why work was given up. -/
inductive Error where
  /-- An operation was used outside its contract. -/
  | misuse (what : Misuse)
  /-- A setting is invalid. -/
  | configuration (message : String)
  /-- A closure of skills still grew after its last round. -/
  | closureLimit (rounds skillCount : Nat)
  /-- Something could not be fetched. -/
  | fetch (failure : FetchFailure)
  /-- No version of a topic has a compatible closure. -/
  | incompatibleTopic (topicId : String) (reasons : List Rejection)
  deriving DecidableEq, Repr

/-- An error in words. -/
def Error.report : Error → Report
  | .misuse what => ⟨.logic, what.message, .obj []⟩
  | .configuration message => ⟨.configuration, message, .obj []⟩
  | .closureLimit rounds skillCount =>
    ⟨.closureLimit, "Skill closure still growing after " ++ toString rounds ++
      " rounds; check for generated or runaway skill references.",
      .obj [("skill_count", .int skillCount)]⟩
  | .fetch failure => ⟨.fetch, failure.message, .obj []⟩
  | .incompatibleTopic topicId reasons =>
    ⟨.incompatibleTopic, "Failed to load complete topic pack with ID: " ++ topicId ++
      ". Encountered failures:\n" ++ Rejection.report reasons ++ ".", .obj []⟩

end ContentPack
