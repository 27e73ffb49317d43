import ContentPack.ConceptCard
import ContentPack.Proofs.Markup.Tags

/-!
# Concept cards that are written out

Rich text is written as text, concept cards and paragraphs, one after another (`Piece`,
`ConceptCard.write`). The identifier of a skill is put between quotes and escaped, and what comes of
that is the value of an attribute, so it is escaped once more. Reading undoes both, and takes the
quotes away: `skillIds` lists the skills of all cards that were written, each once and in their
order, whatever stands between them (`skillIds_write`).
-/

namespace ContentPack

/-! ### Trimming -/

namespace Text

variable {p : Char → Bool} {cs : List Char}

theorem dropWhile_eq_self (h : ∀ c ∈ cs.head?, p c = false) : cs.dropWhile p = cs := by
  cases cs with
  | nil => rfl
  | cons c cs =>
    have hc := h c rfl
    exact List.dropWhile_cons_of_neg (by rw [hc]; decide)

theorem dropEnd_eq_self (h : ∀ c ∈ cs.getLast?, p c = false) : dropEnd p cs = cs := by
  unfold dropEnd
  rw [dropWhile_eq_self, List.reverse_reverse]
  rw [List.head?_reverse]
  exact h

/-- Nothing is trimmed where nothing of the class stands at either end. -/
theorem trimChars_eq_self (hhead : ∀ c ∈ cs.head?, p c = false)
    (hlast : ∀ c ∈ cs.getLast?, p c = false) : trimChars p cs = cs := by
  unfold trimChars dropStart
  rw [dropWhile_eq_self hhead, dropEnd_eq_self hlast]

/-- What was put around a text is trimmed. -/
theorem trimChars_around {c : Char} (hc : p c = true) (hcs : ∀ d ∈ cs, p d = false) :
    trimChars p (c :: (cs ++ [c])) = cs := by
  have hend : dropEnd p (cs ++ [c]) = cs := by
    have hrev : cs.reverse.dropWhile p = cs.reverse :=
      dropWhile_eq_self fun d hd => hcs d (List.mem_reverse.mp (List.mem_of_mem_head? hd))
    unfold dropEnd
    rw [List.reverse_append, List.reverse_singleton, List.singleton_append,
      List.dropWhile_cons_of_pos hc, hrev, List.reverse_reverse]
  unfold trimChars dropStart
  rw [List.dropWhile_cons_of_pos hc]
  cases cs with
  | nil =>
    rw [List.nil_append, List.dropWhile_cons_of_pos hc]
    rfl
  | cons d cs =>
    have hd := hcs d List.mem_cons_self
    rw [List.cons_append, List.dropWhile_cons_of_neg (by rw [hd]; decide), ← List.cons_append, hend]

end Text

namespace ConceptCard

open Markup

/-! ### Identifiers -/

/-- **An identifier of a skill that reads back**: some printable characters without quotes, of which
neither the first nor the last is a space. -/
def isPlainId (id : String) : Bool :=
  !id.toList.isEmpty && id.toList.all (fun c => isPrintableAscii c && c != '"') &&
    id.toList.head? != some ' ' && id.toList.getLast? != some ' '

/-- The identifier between quotes, with its escapes. -/
def writeId (id : String) : String := String.ofList (escape ('"' :: (id.toList ++ ['"'])))

/-- Of the printable characters only the space is blank. -/
theorem isBlank_eq_false {c : Char} (hc : isPrintableAscii c = true) (hspace : c ≠ ' ') :
    Text.isBlank c = false := by
  have hnat : c.toNat ≠ 0x20 := fun heq => hspace (Char.toNat_inj.mp heq)
  simp only [isPrintableAscii, Bool.and_eq_true, decide_eq_true_eq] at hc
  simp only [Text.isBlank, Text.isWhiteSpace, Bool.or_eq_false_iff, Bool.and_eq_false_iff,
    decide_eq_false_iff_not, beq_eq_false_iff_ne]
  omega

/-- **An identifier reads back**, although it was put between quotes and escaped. -/
theorem decodeId_writeId {id : String} (h : isPlainId id = true) : decodeId (writeId id) = id := by
  simp only [isPlainId, Bool.and_eq_true, List.all_eq_true, bne_iff_ne] at h
  obtain ⟨⟨⟨-, hchars⟩, hhead⟩, hlast⟩ := h
  have hquoted : Text.trimChars Text.isBlank ('"' :: (id.toList ++ ['"'])) =
      '"' :: (id.toList ++ ['"']) := by
    refine Text.trimChars_eq_self ?_ ?_
    · intro c hc
      obtain rfl := Option.some.inj hc
      decide
    · intro c hc
      rw [← List.cons_append, List.getLast?_concat] at hc
      obtain rfl := Option.some.inj hc
      decide
  have hid : Text.trimChars (· == '"') ('"' :: (id.toList ++ ['"'])) = id.toList := by
    refine Text.trimChars_around (by decide) fun c hc => ?_
    rw [beq_eq_false_iff_ne]
    exact (hchars c hc).2
  have hblank : Text.trimChars Text.isBlank id.toList = id.toList := by
    refine Text.trimChars_eq_self ?_ ?_
    · intro c hc
      refine isBlank_eq_false (hchars c (List.mem_of_mem_head? hc)).1 ?_
      rintro rfl
      exact hhead hc
    · intro c hc
      refine isBlank_eq_false (hchars c (List.mem_of_getLast? hc)).1 ?_
      rintro rfl
      exact hlast hc
  simp only [decodeId, writeId, String.toList_ofList, unescape_escape, hquoted, hid, hblank,
    String.ofList_toList]

/-! ### Pieces of rich text -/

/-- The tag of a concept card, with other attributes before and after the identifier. -/
def cardTag (skillId : String) (before after : List (String × String)) : StartTag :=
  ⟨tagName, before ++ (attributeName, writeId skillId) :: after⟩

/-- The tag of a paragraph. -/
def paragraphTag : StartTag := ⟨"p", []⟩

/-- A piece of rich text. -/
inductive Piece where
  /-- Text. -/
  | text (content : String)
  /-- The concept card of a skill: an element without content, or a tag that closes itself. -/
  | card (skillId : String) (before after : List (String × String)) (isSelfClosed : Bool)
  /-- The start of a paragraph. -/
  | paragraphStart
  /-- The end of a paragraph. -/
  | paragraphEnd

namespace Piece

/-- The piece as it is written. -/
def write : Piece → List Char
  | text content => escape content.toList
  | card skillId before after isSelfClosed =>
    (cardTag skillId before after).write isSelfClosed ++
      if isSelfClosed then [] else writeEndTag tagName
  | paragraphStart => paragraphTag.write false
  | paragraphEnd => writeEndTag paragraphTag.name

/-- The skill that the piece refers to. -/
def skillId? : Piece → Option String
  | card skillId _ _ _ => some skillId
  | _ => none

/-- The start tag of the piece. -/
def tag? : Piece → Option StartTag
  | card skillId before after _ => some (cardTag skillId before after)
  | paragraphStart => some paragraphTag
  | _ => none

/-- **The piece can be read back**: its text is printable, its identifier and its other attributes
are plain, and none of these has the name of the attribute of the identifier. -/
def isPlain : Piece → Bool
  | text content => content.toList.all isPrintableAscii
  | card skillId before after _ =>
    isPlainId skillId && (before ++ after).all fun a => isPlainAttribute a && a.1 != attributeName
  | _ => true

end Piece

/-- Rich text, piece by piece. -/
def write (pieces : List Piece) : String := String.ofList (pieces.flatMap Piece.write)

section Card

variable {skillId : String} {before after : List (String × String)}

theorem isPlainAttribute_id (h : isPlainId skillId = true) :
    isPlainAttribute (attributeName, writeId skillId) = true := by
  have hchars : ('"' :: (skillId.toList ++ ['"'])).all isPrintableAscii = true := by
    simp only [isPlainId, Bool.and_eq_true, List.all_eq_true] at h
    have hid : skillId.toList.all isPrintableAscii = true :=
      List.all_eq_true.mpr fun c hc => (h.1.1.2 c hc).1
    simp only [List.all_cons, List.all_append, hid]
    decide
  have hname : isPlainName attributeName = true := by decide
  simp only [isPlainAttribute, hname, writeId, String.toList_ofList,
    all_isPrintableAscii_escape hchars, Bool.and_self]

theorem isPlain_cardTag (h : isPlainId skillId = true)
    (hothers : ∀ a ∈ before ++ after, isPlainAttribute a = true) :
    (cardTag skillId before after).isPlain = true := by
  have hattributes : (before ++ (attributeName, writeId skillId) :: after).all isPlainAttribute =
      true := by
    rw [List.all_append, List.all_cons, isPlainAttribute_id h]
    rw [← List.all_eq_true, List.all_append] at hothers
    exact hothers
  have hname : (isTagName tagName &&
      !("script" :: "plaintext" :: plainTextNames).contains tagName) = true := by decide
  exact Bool.and_eq_true_iff.mpr ⟨hname, hattributes⟩

/-- **A concept card shows its skill**, whatever its other attributes are. -/
theorem skillOfTag?_cardTag (h : isPlainId skillId = true)
    (hothers : ∀ a ∈ before ++ after, isPlainAttribute a = true ∧ a.1 ≠ attributeName) :
    skillOfTag? (cardTag skillId before after) = some skillId := by
  have hname : isPlainName attributeName = true := by decide
  have hattribute : (cardTag skillId before after).attribute? attributeName =
      some (writeId skillId) := by
    refine StartTag.attribute?_eq hname (List.mem_append_right _ List.mem_cons_self) ?_
    intro a ha hown
    have hmem : a = (attributeName, writeId skillId) ∨ a ∈ before ++ after := by
      rcases List.mem_append.mp ha with ha | ha
      · exact Or.inr (List.mem_append_left _ ha)
      · exact (List.mem_cons.mp ha).imp_right (List.mem_append_right _)
    refine hmem.resolve_right fun ha => ?_
    obtain ⟨hplain, hne⟩ := hothers a ha
    rw [ownName_eq (Bool.and_eq_true_iff.mp hplain).1] at hown
    exact hne hown
  have hne : ¬skillId.isEmpty = true := by
    intro hempty
    rw [String.isEmpty_iff.mp hempty] at h
    cases h
  unfold skillOfTag?
  rw [if_pos (show (cardTag skillId before after).name = tagName from rfl), hattribute,
    Option.getD_some, decodeId_writeId h]
  exact if_neg hne

end Card

/-! ### Rich text -/

namespace Piece

theorem of_isPlain_card {skillId : String} {before after : List (String × String)}
    {isSelfClosed : Bool} (h : (card skillId before after isSelfClosed).isPlain = true) :
    isPlainId skillId = true ∧
      ∀ a ∈ before ++ after, isPlainAttribute a = true ∧ a.1 ≠ attributeName := by
  simp only [isPlain, Bool.and_eq_true, List.all_eq_true, bne_iff_ne] at h
  exact h

/-- **A piece has its own start tag**, if it has one, and then come those of what follows. -/
theorem hasTags_append {piece : Piece} (hplain : piece.isPlain = true) {cs : List Char}
    {tags : List StartTag} (h : HasTags cs tags) :
    HasTags (piece.write ++ cs) (piece.tag?.toList ++ tags) := by
  cases piece with
  | text content => exact h.text (notMem_escape (by decide) (by decide) _)
  | paragraphStart => exact h.startTag (by decide) false
  | paragraphEnd => exact h.endTag (by decide)
  | card skillId before after isSelfClosed =>
    obtain ⟨hid, hothers⟩ := of_isPlain_card hplain
    have hcard := isPlain_cardTag hid fun a ha => (hothers a ha).1
    cases isSelfClosed with
    | true =>
      show HasTags ((cardTag skillId before after).write true ++ [] ++ cs) _
      rw [List.append_nil]
      exact h.startTag hcard true
    | false =>
      show HasTags ((cardTag skillId before after).write false ++ writeEndTag tagName ++ cs) _
      rw [List.append_assoc]
      exact (h.endTag (by decide)).startTag hcard false

theorem all_isPrintableAscii_write {piece : Piece} (hplain : piece.isPlain = true) :
    piece.write.all isPrintableAscii = true := by
  cases piece with
  | text content => exact all_isPrintableAscii_escape hplain
  | paragraphStart => decide
  | paragraphEnd => decide
  | card skillId before after isSelfClosed =>
    obtain ⟨hid, hothers⟩ := of_isPlain_card hplain
    have hcard := isPlain_cardTag hid fun a ha => (hothers a ha).1
    show ((cardTag skillId before after).write isSelfClosed ++ _).all isPrintableAscii = true
    rw [List.all_append, StartTag.all_isPrintableAscii_write hcard]
    cases isSelfClosed <;> decide

/-- What a piece refers to is what its tag refers to. -/
theorem skillOfTag?_tag? {piece : Piece} (hplain : piece.isPlain = true) :
    piece.tag?.bind skillOfTag? = piece.skillId? := by
  cases piece with
  | text content => rfl
  | paragraphStart => decide
  | paragraphEnd => rfl
  | card skillId before after isSelfClosed =>
    obtain ⟨hid, hothers⟩ := of_isPlain_card hplain
    rw [tag?, Option.bind_some, skillOfTag?_cardTag hid hothers]
    rfl

/-- **The tags of the text are those of its pieces.** -/
theorem hasTags_flatMap_write {pieces : List Piece} (h : ∀ piece ∈ pieces, piece.isPlain = true) :
    HasTags (pieces.flatMap write) (pieces.filterMap tag?) := by
  induction pieces with
  | nil => exact hasTags_nil
  | cons piece pieces ih =>
    have htags := hasTags_append (h piece List.mem_cons_self)
      (ih fun other hother => h other (List.mem_cons_of_mem _ hother))
    rw [List.flatMap_cons, List.filterMap_cons]
    cases hpiece : piece.tag? with
    | none =>
      rw [hpiece] at htags
      exact htags
    | some tag =>
      rw [hpiece] at htags
      exact htags

end Piece

/-- The skills of the concept cards of a text, in its order and as often as they are shown. -/
def shownSkillIds (html : String) : List String := (startTags html).filterMap skillOfTag?

/-- All skills of a text count, also if it is empty. -/
theorem skillIds_eq (html : String) : skillIds html = (shownSkillIds html).eraseDups := by
  unfold skillIds
  split
  · rename_i hempty
    rw [String.isEmpty_iff.mp hempty]
    rfl
  · rfl

/-- **The skills of concept cards read back** from the text that the pieces make up. -/
theorem shownSkillIds_write {pieces : List Piece} (h : ∀ piece ∈ pieces, piece.isPlain = true) :
    shownSkillIds (write pieces) = pieces.filterMap Piece.skillId? := by
  have hprintable : (pieces.flatMap Piece.write).all isPrintableAscii = true := by
    rw [List.all_flatMap, List.all_eq_true]
    exact fun piece hpiece => Piece.all_isPrintableAscii_write (h piece hpiece)
  rw [shownSkillIds, write, (Piece.hasTags_flatMap_write h).startTags_eq hprintable,
    List.filterMap_filterMap]
  exact List.filterMap_congr fun piece hpiece => Piece.skillOfTag?_tag? (h piece hpiece)

theorem skillIds_pieces {pieces : List Piece} (h : ∀ piece ∈ pieces, piece.isPlain = true) :
    skillIds (write pieces) = (pieces.filterMap Piece.skillId?).eraseDups := by
  rw [skillIds_eq, shownSkillIds_write h]

/-- **Reading undoes writing.** Let texts be made up of pieces that can be read back: of text, of
concept cards in either form, and of paragraphs, in any order. The skills of each of the texts are
those of its cards, each once and in their order, and the skills of all of them are those of all
cards. -/
theorem skillIds_write (documents : List (List Piece))
    (h : ∀ pieces ∈ documents, ∀ piece ∈ pieces, piece.isPlain = true) :
    (∀ pieces ∈ documents,
      skillIds (write pieces) = (pieces.filterMap Piece.skillId?).eraseDups) ∧
    skillIdsOfAll (documents.map write) =
      (documents.flatMap fun pieces => pieces.filterMap Piece.skillId?).eraseDups := by
  have heach : ∀ pieces ∈ documents,
      skillIds (write pieces) = (pieces.filterMap Piece.skillId?).eraseDups :=
    fun pieces hpieces => skillIds_pieces (h pieces hpieces)
  refine ⟨heach, ?_⟩
  unfold skillIdsOfAll
  rw [List.flatMap_map, List.flatMap_congr heach]
  exact eraseDups_flatMap_eraseDups ..

namespace Lesson

/-- Two texts with identifiers that look escaped or that hold characters with a meaning. -/
def documents : List (List Piece) :=
  [[.paragraphStart, .text "Q&A <1>", .card "a&amp;b" [("class", "x")] [] false, .text " & ",
      .card "it's;<p>" [] [("text-with-value", "&quot;x&quot;")] true, .paragraphEnd,
      .card "a&amp;b" [] [] true],
    [.card "&quot;" [] [] false, .text "&lt;", .card "it's;<p>" [] [] false]]

/-- **The identifiers come out as they were put in**, and no other one does. -/
theorem documents_read_back :
    (∀ pieces ∈ documents, ∀ piece ∈ pieces, piece.isPlain = true) ∧
    documents.map (fun pieces => skillIds (write pieces)) =
      [["a&amp;b", "it's;<p>"], ["&quot;", "it's;<p>"]] ∧
    skillIdsOfAll (documents.map write) = ["a&amp;b", "it's;<p>", "&quot;"] := by
  have hplain : ∀ pieces ∈ documents, ∀ piece ∈ pieces, piece.isPlain = true := by decide +kernel
  obtain ⟨heach, hall⟩ := skillIds_write documents hplain
  refine ⟨hplain, ?_, ?_⟩
  · rw [List.map_congr_left heach]
    decide +kernel
  · rw [hall]
    decide +kernel

/-- What was between quotes is escaped twice. -/
example : write [.card "it's" [] [] true, .text "<"] =
    "<oppia-noninteractive-skillreview " ++
      "skill_id-with-value=\"&amp;quot;it&amp;#x27;s&amp;quot;\"/>&lt;" := by
  decide +kernel

end Lesson

end ConceptCard

end ContentPack
