import ContentPack.Content.Loaded
import ContentPack.Markup.StartTag

/-!
# Concept cards in rich text

Rich text refers to a skill by an element that shows its concept card. The identifier stands in an
attribute of that element as a quoted string that was escaped before it was written into the
attribute. `ConceptCard.skillIds` reads the skills off a text, and `Loaded.skillIds` lists all the
skills that a structure refers to.
-/

namespace ContentPack

namespace ConceptCard

/-- The name of the element that shows a concept card. -/
def tagName : String := "oppia-noninteractive-skillreview"

/-- The attribute that holds the identifier of the skill. -/
def attributeName : String := "skill_id-with-value"

/-- The identifier that an attribute holds: without its escapes, the blanks and the quotes around
it, and the blanks inside the quotes. -/
def decodeId (value : String) : String :=
  let unescaped := Text.trimChars Text.isBlank (Markup.unescape value.toList)
  String.ofList (Text.trimChars Text.isBlank (Text.trimChars (· == '"') unescaped))

/-- The skill that a tag shows the concept card of. -/
def skillOfTag? (tag : Markup.StartTag) : Option String :=
  if tag.name = tagName then
    let id := decodeId ((tag.attribute? attributeName).getD "")
    if id.isEmpty then none else some id
  else none

/-- The skills of the concept cards of a text, each once, in the order of the text. -/
def skillIds (html : String) : List String :=
  if html.isEmpty then []
  else ((Markup.startTags html).filterMap skillOfTag?).eraseDups

/-- The skills of the concept cards of several texts, each once. -/
def skillIdsOfAll (fragments : List String) : List String :=
  (fragments.flatMap skillIds).eraseDups

end ConceptCard

/-- The skills that a structure refers to, each once: those of its concept cards, then those that
it names otherwise. -/
def Loaded.skillIds (loaded : Loaded) : List String :=
  (ConceptCard.skillIdsOfAll loaded.htmlFragments ++ loaded.directSkillIds).eraseDups

end ContentPack
