import ContentPack.Content.Loaded
import ContentPack.Error

/-!
# Requests

What can be asked of a source of content: the newest version of a structure, some of its versions,
or the translations of one version of an exploration into one language. Every request has a type of
replies.
-/

namespace ContentPack

/-- What is asked of a source. -/
inductive Request where
  /-- The newest version of a structure. -/
  | latest (place : Locator)
  /-- Some versions of a structure, in the order of the list. -/
  | versions (place : Locator) (versions : List Int)
  /-- The translations of a version of an exploration. -/
  | translation (explorationId : String) (version : Int) (languageCode : String)
  deriving DecidableEq, Repr

namespace Request

/-- What a source replies. -/
abbrev Reply : Request → Type
  | latest _ => Document
  | versions _ _ => List Document
  | translation _ _ _ => Translation

/-- A reply, or why there is none. -/
abbrev Answer (r : Request) : Type := Except FetchFailure r.Reply

/-- The structures of a reply. -/
def documents : (r : Request) → r.Reply → List Document
  | latest _, document => [document]
  | versions _ _, documents => documents
  | translation _ _ _, _ => []

end Request

end ContentPack
