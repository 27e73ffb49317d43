import ContentPack.Markup.CharacterReference

/-!
# Start tags

`startTags` lists the start tags of an HTML text with their attributes, in the order of the text.
Comments and declarations hold no tags, nor do the elements whose content is plain text, up to
their end tag. Names are compared in small letters, and a tag that the text breaks off in is no tag.
-/

namespace ContentPack.Markup

/-- A start tag. -/
structure StartTag where
  /-- The name, in small letters. -/
  name : String
  /-- The attributes in order, their names in small letters. -/
  attributes : List (String × String)
  deriving DecidableEq, Repr

/-- The own part of a name: without a part in braces that it starts with. -/
def ownName (name : String) : String :=
  match name.toList with
  | '\x7b' :: rest =>
    match rest.dropWhile (· != '\x7d') with
    | _ :: own => String.ofList own
    | [] => name
  | _ => name

/-- The value of an attribute. Of attributes with the same name the first counts, and of those that
only share their own names the last. -/
def StartTag.attribute? (tag : StartTag) (name : String) : Option String :=
  let distinct := tag.attributes.eraseDupsBy fun a b => a.1 == b.1
  (distinct.reverse.find? fun a => ownName a.1 == name).map (·.2)

/-! ### Pieces of a tag -/

/-- Line ends are written in one way: a carriage return, with or without a line feed after it,
becomes a line feed. -/
def normalizeLines : List Char → List Char
  | [] => []
  | '\r' :: '\n' :: rest => '\n' :: normalizeLines rest
  | '\r' :: rest => '\n' :: normalizeLines rest
  | c :: rest => c :: normalizeLines rest

/-- The blank characters of HTML. -/
def isHtmlBlank (c : Char) : Bool := c == ' ' || c == '\t' || c == '\n' || c == '\x0c'

/-- The character ends the name of a tag. -/
def endsTagName (c : Char) : Bool := isHtmlBlank c || c == '/' || c == '>'

/-- The character ends the name of an attribute. -/
def endsAttributeName (c : Char) : Bool := endsTagName c || c == '='

/-- A name in small letters. -/
def smallName (cs : List Char) : String :=
  String.ofList (cs.map fun c => if c == '\x00' then replacement else c.toLower)

/-- The value of an attribute with its references replaced. -/
def attributeValue (cs : List Char) : String :=
  String.ofList (decodeAttribute (cs.map fun c => if c == '\x00' then replacement else c))

/-- A value between quotes, after the first of them; nothing if the second one is missing. -/
def quotedValue? (quote : Char) (cs : List Char) : Option (String × List Char) :=
  match cs.dropWhile (· != quote) with
  | [] => none
  | _ :: rest => some (attributeValue (cs.takeWhile (· != quote)), rest)

/-- What follows the name of an attribute: its value, empty if there is none. -/
def valueAfterName? (cs : List Char) : Option (String × List Char) :=
  match cs.dropWhile isHtmlBlank with
  | '=' :: rest =>
    match rest.dropWhile isHtmlBlank with
    | '"' :: rest => quotedValue? '"' rest
    | '\'' :: rest => quotedValue? '\'' rest
    | rest =>
      let endsValue := fun c => isHtmlBlank c || c == '>'
      some (attributeValue (rest.takeWhile (!endsValue ·)), rest.dropWhile (!endsValue ·))
  | rest => some ("", rest)

/-- What a tag holds after its name. -/
structure TagRest where
  /-- The attributes. -/
  attributes : List (String × String)
  /-- A slash stands before the closing bracket. -/
  isSelfClosed : Bool
  /-- The text after the tag. -/
  after : List Char

/-- The rest of a tag after its name; nothing if the text ends first. Each step takes at least one
character, so the length of the text is fuel enough. -/
def tagRest? : Nat → List Char → Option TagRest
  | 0, _ => none
  | _, [] => none
  | _ + 1, '>' :: rest => some ⟨[], false, rest⟩
  | _ + 1, '/' :: '>' :: rest => some ⟨[], true, rest⟩
  | fuel + 1, c :: rest =>
    if isHtmlBlank c || c == '/' then tagRest? fuel rest
    else do
      let name := c :: rest.takeWhile (!endsAttributeName ·)
      let (value, rest) ← valueAfterName? (rest.dropWhile (!endsAttributeName ·))
      let more ← tagRest? fuel rest
      return { more with attributes := (smallName name, value) :: more.attributes }

/-! ### Text that holds no tags -/

/-- The text after the next closing bracket. -/
def afterBracket (cs : List Char) : List Char := (cs.dropWhile (· != '>')).drop 1

/-- The text after the end of a comment. -/
def afterComment : List Char → List Char
  | [] => []
  | '-' :: '-' :: '>' :: rest => rest
  | '-' :: '-' :: '!' :: '>' :: rest => rest
  | _ :: rest => afterComment rest

/-- The text after a comment, given what follows its first two hyphens; a bracket right there ends
it at once. -/
def afterCommentStart : List Char → List Char
  | '>' :: rest => rest
  | '-' :: '>' :: rest => rest
  | cs => afterComment cs

/-- The text after a declaration, given what follows its exclamation mark. -/
def afterDeclaration : List Char → List Char
  | '-' :: '-' :: rest => afterCommentStart rest
  | cs => afterBracket cs

/-- A tag name stands at the start of the text, in capital or small letters, and ends there. -/
def startsWithName (name : List Char) (cs : List Char) : Bool :=
  (cs.take name.length).map Char.toLower == name &&
    match cs.drop name.length with
    | c :: _ => endsTagName c
    | [] => false

/-- How a script reads its own content: comment marks hide its end tag when another script is
opened between them. -/
inductive ScriptMode where
  /-- Outside of comment marks. -/
  | plain
  /-- Inside of comment marks. -/
  | escaped
  /-- Inside of comment marks, after another script was opened. -/
  | doubleEscaped
  deriving DecidableEq, Repr

/-- The text from the end tag of a script on. -/
def fromScriptEnd : ScriptMode → List Char → List Char
  | _, [] => []
  | mode, '<' :: rest =>
    let opens := startsWithName "script".toList rest
    let closes := startsWithName "/script".toList rest
    match mode with
    | .plain =>
      if closes then '<' :: rest
      else fromScriptEnd (if "!--".toList.isPrefixOf rest then .escaped else .plain) rest
    | .escaped =>
      if closes then '<' :: rest
      else fromScriptEnd (if opens then .doubleEscaped else .escaped) rest
    | .doubleEscaped => fromScriptEnd (if closes then .escaped else .doubleEscaped) rest
  | mode, '-' :: rest =>
    fromScriptEnd (if "->".toList.isPrefixOf rest then .plain else mode) rest
  | mode, _ :: rest => fromScriptEnd mode rest

/-- The text from the end tag of a name on. -/
def fromEndTag (name : List Char) : List Char → List Char
  | [] => []
  | c :: rest =>
    if c == '<' && startsWithName ('/' :: name) rest then c :: rest else fromEndTag name rest

/-- The elements whose content is plain text up to their end tag. -/
def plainTextNames : List String :=
  ["title", "textarea", "style", "xmp", "iframe", "noembed", "noframes"]

/-- The text after the content of an element, where that content is plain text. -/
def afterContent (name : String) (cs : List Char) : List Char :=
  if name = "script" then fromScriptEnd .plain cs
  else if name = "plaintext" then []
  else if plainTextNames.contains name then fromEndTag name.toList cs
  else cs

/-! ### The tags of a text -/

/-- The start tags of a text. Each step takes at least one character, so the length of the text is
fuel enough. -/
def startTagsFrom : Nat → List Char → List StartTag
  | 0, _ => []
  | _, [] => []
  | fuel + 1, '<' :: '!' :: rest => startTagsFrom fuel (afterDeclaration rest)
  | fuel + 1, '<' :: '?' :: rest => startTagsFrom fuel (afterBracket rest)
  | fuel + 1, '<' :: '/' :: rest =>
    if (rest.headD ' ').isAlpha then
      match tagRest? (rest.length + 1) (rest.dropWhile (!endsTagName ·)) with
      | some tag => startTagsFrom fuel tag.after
      | none => []
    else startTagsFrom fuel (afterBracket rest)
  | fuel + 1, '<' :: c :: rest =>
    if c.isAlpha then
      let name := smallName (c :: rest.takeWhile (!endsTagName ·))
      match tagRest? (rest.length + 1) (rest.dropWhile (!endsTagName ·)) with
      | some tag =>
        let after := if tag.isSelfClosed then tag.after else afterContent name tag.after
        ⟨name, tag.attributes⟩ :: startTagsFrom fuel after
      | none => []
    else startTagsFrom fuel (c :: rest)
  | fuel + 1, _ :: rest => startTagsFrom fuel rest

/-- The start tags of an HTML text. -/
def startTags (html : String) : List StartTag :=
  let cs := normalizeLines html.toList
  startTagsFrom (cs.length + 1) cs

end ContentPack.Markup
