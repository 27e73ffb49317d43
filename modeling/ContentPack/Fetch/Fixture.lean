import ContentPack.Fetch.Store
import ContentPack.Schema.Content

/-!
# Fixtures

A fixture is an object with a list of structures, one version each, in a section for every kind,
and with a section of translations. `Store.ofFixture` fills a store from it; the sections are read
in a fixed order, and the first value that does not fit is reported.
-/

namespace ContentPack

/-- Why a value is no fixture. -/
inductive FixtureFault where
  /-- The value is no object. -/
  | notAnObject
  /-- A section has no items. -/
  | notAList
  /-- An item does not fit its schema. -/
  | misfit (misfit : Misfit)
  deriving DecidableEq, Repr

namespace Fixture

/-- The items of a section: those of an array, the keys of an object and the characters of a
string. A section that is absent or empty has none. -/
def items (section? : Option Json) : Except FixtureFault (List Json) :=
  match section? with
  | none => .ok []
  | some value =>
    if value.isEmptyValue then .ok []
    else match value with
      | .arr items => .ok items
      | .obj fields => .ok (fields.map fun field => .str field.1)
      | .str s => .ok (s.toList.map fun c => .str (String.ofList [c]))
      | _ => .error .notAList

/-- The section of a kind of structure. -/
def sectionName : Kind → String
  | .topic => "topics"
  | .subtopic => "subtopic_pages"
  | .story => "stories"
  | .exploration => "explorations"
  | .skill => "skills"

/-- The section of translations. -/
def translationSection : String := "translations"

end Fixture

namespace Store

open Fixture

/-- The store with the structures of one section. -/
def addSection (s : Store) (fixture : Json) (kind : Kind) : Except FixtureFault Store := do
  (← items (fixture.get? (sectionName kind))).foldlM (fun s item =>
    match Schema.readDocument kind item with
    | .ok document => .ok (s.add document)
    | .error misfit => .error (.misfit misfit)) s

/-- The store with the translations of a fixture. -/
def addTranslations (s : Store) (fixture : Json) : Except FixtureFault Store := do
  (← items (fixture.get? translationSection)).foldlM (fun s item =>
    match Schema.readTranslation item with
    | .ok translation => .ok (s.addTranslation translation)
    | .error misfit => .error (.misfit misfit)) s

/-- The store that a fixture describes. -/
def ofFixture (fixture : Json) : Except FixtureFault Store := do
  match fixture with
  | .obj _ => (← Kind.all.foldlM (addSection · fixture) empty).addTranslations fixture
  | _ => throw .notAnObject

end Store

end ContentPack
