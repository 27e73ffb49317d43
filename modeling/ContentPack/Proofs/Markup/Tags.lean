import ContentPack.Markup.StartTag
import ContentPack.Proofs.Markup.Escapes

/-!
# Tags that are written out

A start tag is written with its attributes between double quotes, and their values are escaped
(`StartTag.write`). Such a tag reads back, whatever follows it, and so does what follows
(`HasTags.startTag`); end tags and text without brackets add nothing (`HasTags.endTag`,
`HasTags.text`).

The fuel of the readers is no part of these statements: `IsRest` and `HasTags` say what is read with
any fuel that is greater than the length of the text.
-/

namespace ContentPack.Markup

/-! ### Characters -/

/-- The printable characters of ASCII. -/
def isPrintableAscii (c : Char) : Bool := 0x20 ≤ c.toNat && c.toNat ≤ 0x7E

theorem notMem_of_all_isPrintableAscii {cs : List Char} (h : cs.all isPrintableAscii = true)
    {c : Char} (hc : isPrintableAscii c = false) : c ∉ cs := by
  intro hmem
  rw [List.all_eq_true.mp h c hmem] at hc
  cases hc

theorem all_isPrintableAscii_escape {cs : List Char} (h : cs.all isPrintableAscii = true) :
    (escape cs).all isPrintableAscii = true :=
  all_escape (by decide) h

/-! ### Names -/

/-- The characters that are read in a name as they are written. -/
def nameChars : List Char := "abcdefghijklmnopqrstuvwxyz0123456789-_".toList

/-- **A plain name** is read as it is written. -/
def isPlainName (name : String) : Bool :=
  !name.toList.isEmpty && name.toList.all nameChars.contains

theorem of_mem_nameChars {c : Char} (h : c ∈ nameChars) :
    isPrintableAscii c = true ∧ c.toLower = c ∧ endsAttributeName c = false := by
  have hall : nameChars.all (fun c =>
      isPrintableAscii c && c.toLower == c && !endsAttributeName c) = true := by decide
  have hc := List.all_eq_true.mp hall c h
  simp only [Bool.and_eq_true, beq_iff_eq, Bool.not_eq_true'] at hc
  exact ⟨hc.1.1, hc.1.2, hc.2⟩

theorem of_endsAttributeName_eq_false {c : Char} (h : endsAttributeName c = false) :
    isHtmlBlank c = false ∧ c ≠ '/' ∧ c ≠ '>' := by
  simp only [endsAttributeName, endsTagName, Bool.or_eq_false_iff, beq_eq_false_iff_ne] at h
  exact ⟨h.1.1.1, h.1.1.2, h.1.2⟩

theorem not_endsTagName {cs : List Char} (h : ∀ c ∈ cs, c ∈ nameChars) :
    ∀ c ∈ cs, (!endsTagName c) = true := by
  intro c hc
  rw [(Bool.or_eq_false_iff.mp (of_mem_nameChars (h c hc)).2.2).1]
  rfl

/-- A plain name consists of plain characters, of which there is at least one. -/
theorem exists_of_isPlainName {name : String} (h : isPlainName name = true) :
    ∃ c cs, name.toList = c :: cs ∧ ∀ d ∈ c :: cs, d ∈ nameChars := by
  obtain ⟨hnil, hall⟩ := Bool.and_eq_true_iff.mp h
  rw [List.all_eq_true] at hall
  cases hname : name.toList with
  | nil =>
    rw [hname] at hnil
    cases hnil
  | cons c cs =>
    rw [hname] at hall
    exact ⟨c, cs, rfl, fun d hd => List.contains_iff_mem.mp (hall d hd)⟩

theorem smallName_eq {cs : List Char} (h : ∀ c ∈ cs, c ∈ nameChars) :
    smallName cs = String.ofList cs := by
  have hmap : (cs.map fun c => if c == '\x00' then replacement else c.toLower) = cs := by
    refine (List.map_congr_left fun c hc => ?_).trans (List.map_id _)
    obtain ⟨hprintable, hlower, -⟩ := of_mem_nameChars (h c hc)
    have hnull : ¬(c == '\x00') = true := by
      rw [beq_iff_eq]
      rintro rfl
      cases hprintable
    rw [if_neg hnull, hlower, id]
  unfold smallName
  rw [hmap]

/-! ### Attributes -/

/-- **A plain attribute** has a plain name and a value of printable characters. -/
def isPlainAttribute (a : String × String) : Bool :=
  isPlainName a.1 && a.2.toList.all isPrintableAscii

/-- An attribute, after a space. -/
def writeAttribute (a : String × String) : List Char :=
  ' ' :: (a.1.toList ++ '=' :: '"' :: (escape a.2.toList ++ ['"']))

theorem attributeValue_escape {cs : List Char} (h : cs.all isPrintableAscii = true) :
    attributeValue (escape cs) = String.ofList cs := by
  have hnull : '\x00' ∉ escape cs :=
    notMem_of_all_isPrintableAscii (all_isPrintableAscii_escape h) (by decide)
  have hmap : ((escape cs).map fun c => if c == '\x00' then replacement else c) = escape cs := by
    refine (List.map_congr_left fun c hc => ?_).trans (List.map_id _)
    have hc' : ¬(c == '\x00') = true := by
      rw [beq_iff_eq]
      rintro rfl
      exact hnull hc
    rw [if_neg hc', id]
  unfold attributeValue
  rw [hmap, decodeAttribute_escape]

/-- An escaped value ends at the quote behind it. -/
theorem quotedValue?_escape {cs : List Char} (h : cs.all isPrintableAscii = true)
    (rest : List Char) :
    quotedValue? '"' (escape cs ++ '"' :: rest) = some (String.ofList cs, rest) := by
  have hrun : ∀ c ∈ escape cs, (c != '"') = true := by
    intro c hc
    rw [bne_iff_ne]
    rintro rfl
    exact notMem_escape (by decide) (by decide) cs hc
  unfold quotedValue?
  rw [dropWhile_append_stop hrun (by decide), takeWhile_append_stop hrun (by decide)]
  simp only [attributeValue_escape h]

/-- **What is left of a tag after its name**, as it is read with all fuel that is enough. -/
def IsRest (cs : List Char) (tag : TagRest) : Prop :=
  ∀ fuel, cs.length < fuel → tagRest? fuel cs = some tag

namespace IsRest

theorem close (rest : List Char) : IsRest ('>' :: rest) ⟨[], false, rest⟩ := by
  intro fuel hfuel
  obtain ⟨fuel, rfl⟩ := Nat.exists_eq_add_one_of_ne_zero (Nat.ne_zero_of_lt hfuel)
  rw [tagRest?]

theorem selfClose (rest : List Char) : IsRest ('/' :: '>' :: rest) ⟨[], true, rest⟩ := by
  intro fuel hfuel
  obtain ⟨fuel, rfl⟩ := Nat.exists_eq_add_one_of_ne_zero (Nat.ne_zero_of_lt hfuel)
  rw [tagRest?]

variable {cs : List Char} {tag : TagRest}

theorem space (h : IsRest cs tag) : IsRest (' ' :: cs) tag := by
  intro fuel hfuel
  obtain ⟨fuel, rfl⟩ := Nat.exists_eq_add_one_of_ne_zero (Nat.ne_zero_of_lt hfuel)
  rw [tagRest?, if_pos (by decide)]
  · exact h fuel (Nat.lt_of_succ_lt_succ hfuel)
  · intro heq
    cases heq
  · intro _ heq
    cases heq

/-- An attribute reads back. -/
theorem named {c : Char} {name value : List Char} (hname : ∀ d ∈ c :: name, d ∈ nameChars)
    (hvalue : value.all isPrintableAscii = true) (h : IsRest cs tag) :
    IsRest (c :: name ++ '=' :: '"' :: (escape value ++ '"' :: cs))
      { tag with
        attributes := (String.ofList (c :: name), String.ofList value) :: tag.attributes } := by
  have hends : ∀ d ∈ c :: name, endsAttributeName d = false :=
    fun d hd => (of_mem_nameChars (hname d hd)).2.2
  have hrun : ∀ d ∈ name, (!endsAttributeName d) = true := by
    intro d hd
    rw [hends d (List.mem_cons_of_mem _ hd)]
    rfl
  obtain ⟨hblank, hslash, hbracket⟩ := of_endsAttributeName_eq_false (hends c List.mem_cons_self)
  have hstart : ¬(isHtmlBlank c || c == '/') = true := by
    rw [hblank, Bool.false_or, beq_iff_eq]
    exact hslash
  have hafter : valueAfterName? ('=' :: '"' :: (escape value ++ '"' :: cs)) =
      some (String.ofList value, cs) := quotedValue?_escape hvalue cs
  intro fuel hfuel
  obtain ⟨fuel, rfl⟩ := Nat.exists_eq_add_one_of_ne_zero (Nat.ne_zero_of_lt hfuel)
  have hlength : cs.length < fuel := by
    simp only [List.cons_append, List.length_append, List.length_cons] at hfuel
    omega
  rw [List.cons_append, tagRest?, if_neg hstart, takeWhile_append_stop hrun (by decide),
    dropWhile_append_stop hrun (by decide), hafter]
  · show (tagRest? fuel cs).bind (fun more => some { more with
      attributes := (smallName (c :: name), String.ofList value) :: more.attributes }) = _
    rw [h fuel hlength, smallName_eq hname]
    rfl
  · exact hbracket
  · exact fun _ heq => absurd heq hslash

/-- **Attributes read back.** -/
theorem attributes (h : IsRest cs tag) {attributes : List (String × String)}
    (hplain : ∀ a ∈ attributes, isPlainAttribute a = true) :
    IsRest (attributes.flatMap writeAttribute ++ cs)
      { tag with attributes := attributes ++ tag.attributes } := by
  induction attributes with
  | nil => exact h
  | cons a attributes ih =>
    obtain ⟨hname, hvalue⟩ := Bool.and_eq_true_iff.mp (hplain a List.mem_cons_self)
    have hrest := ih fun b hb => hplain b (List.mem_cons_of_mem _ hb)
    obtain ⟨c, name, heq, hchars⟩ := exists_of_isPlainName hname
    have hnamed := (hrest.named hchars hvalue).space
    rw [← heq, String.ofList_toList, String.ofList_toList] at hnamed
    simp only [List.flatMap_cons, writeAttribute, List.cons_append, List.append_assoc,
      List.nil_append]
    exact hnamed

end IsRest

/-! ### Start tags, end tags and text -/

/-- A plain name that starts with a letter, as those of tags do. -/
def isTagName (name : String) : Bool := isPlainName name && (name.toList.headD ' ').isAlpha

/-- **A plain tag** has a name that does not announce plain text, and plain attributes. -/
def StartTag.isPlain (tag : StartTag) : Bool :=
  isTagName tag.name && !("script" :: "plaintext" :: plainTextNames).contains tag.name &&
    tag.attributes.all isPlainAttribute

/-- A start tag. -/
def StartTag.write (tag : StartTag) (isSelfClosed : Bool) : List Char :=
  '<' :: (tag.name.toList ++ (tag.attributes.flatMap writeAttribute ++
    if isSelfClosed then ['/', '>'] else ['>']))

/-- An end tag. -/
def writeEndTag (name : String) : List Char := '<' :: '/' :: (name.toList ++ ['>'])

/-- **The start tags of a text**, as they are read with all fuel that is enough. -/
def HasTags (cs : List Char) (tags : List StartTag) : Prop :=
  ∀ fuel, cs.length < fuel → startTagsFrom fuel cs = tags

theorem exists_of_isTagName {name : String} (h : isTagName name = true) :
    ∃ c cs, name.toList = c :: cs ∧ c.isAlpha = true ∧ ∀ d ∈ c :: cs, d ∈ nameChars := by
  obtain ⟨hname, halpha⟩ := Bool.and_eq_true_iff.mp h
  obtain ⟨c, cs, heq, hchars⟩ := exists_of_isPlainName hname
  rw [heq] at halpha
  exact ⟨c, cs, heq, halpha, hchars⟩

theorem afterContent_eq {name : String}
    (h : ("script" :: "plaintext" :: plainTextNames).contains name = false) (cs : List Char) :
    afterContent name cs = cs := by
  simp only [List.contains_cons, Bool.or_eq_false_iff, beq_eq_false_iff_ne] at h
  unfold afterContent
  rw [if_neg h.1, if_neg h.2.1, if_neg (by rw [h.2.2]; decide)]

theorem hasTags_nil : HasTags [] [] := by
  intro fuel hfuel
  obtain ⟨fuel, rfl⟩ := Nat.exists_eq_add_one_of_ne_zero (Nat.ne_zero_of_lt hfuel)
  rfl

section Steps

variable {cs : List Char} {tags : List StartTag}

/-- Text without brackets holds no tags. -/
theorem HasTags.text (h : HasTags cs tags) {text : List Char} (htext : '<' ∉ text) :
    HasTags (text ++ cs) tags := by
  induction text with
  | nil => exact h
  | cons c text ih =>
    have hc := List.ne_of_not_mem_cons htext
    have htext := List.not_mem_of_not_mem_cons htext
    intro fuel hfuel
    obtain ⟨fuel, rfl⟩ := Nat.exists_eq_add_one_of_ne_zero (Nat.ne_zero_of_lt hfuel)
    -- a character that is no bracket starts no tag, whatever follows it
    rw [List.cons_append, startTagsFrom]
    · exact ih htext fuel (Nat.lt_of_succ_lt_succ hfuel)
    · exact fun _ heq => absurd heq.symm hc
    · exact fun _ heq => absurd heq.symm hc
    · exact fun _ heq => absurd heq.symm hc
    · exact fun _ _ heq => absurd heq.symm hc

/-- What follows the name of a tag ends that name. -/
theorem exists_rest (attributes : List (String × String)) (isSelfClosed : Bool) (cs : List Char) :
    ∃ stop more, attributes.flatMap writeAttribute ++
        ((if isSelfClosed then ['/', '>'] else ['>']) ++ cs) = stop :: more ∧
      endsTagName stop = true := by
  cases attributes with
  | nil =>
    cases isSelfClosed with
    | false => exact ⟨'>', cs, rfl, rfl⟩
    | true => exact ⟨'/', '>' :: cs, rfl, rfl⟩
  | cons a attributes => exact ⟨' ', _, rfl, rfl⟩

theorem isRest_write {attributes : List (String × String)}
    (hplain : attributes.all isPlainAttribute = true) (isSelfClosed : Bool) (cs : List Char) :
    IsRest (attributes.flatMap writeAttribute ++
      ((if isSelfClosed then ['/', '>'] else ['>']) ++ cs)) ⟨attributes, isSelfClosed, cs⟩ := by
  have hclosed : IsRest ((if isSelfClosed then ['/', '>'] else ['>']) ++ cs)
      ⟨[], isSelfClosed, cs⟩ := by
    cases isSelfClosed with
    | false => exact .close cs
    | true => exact .selfClose cs
  have hrest := hclosed.attributes (List.all_eq_true.mp hplain)
  rw [List.append_nil] at hrest
  exact hrest

/-- **A tag reads back.** -/
theorem HasTags.startTag (h : HasTags cs tags) {tag : StartTag} (hplain : tag.isPlain = true)
    (isSelfClosed : Bool) : HasTags (tag.write isSelfClosed ++ cs) (tag :: tags) := by
  simp only [StartTag.isPlain, Bool.and_eq_true, Bool.not_eq_true'] at hplain
  obtain ⟨⟨hname, hcontent⟩, hattributes⟩ := hplain
  obtain ⟨c, name, heq, halpha, hchars⟩ := exists_of_isTagName hname
  obtain ⟨stop, more, hbody, hstop⟩ := exists_rest tag.attributes isSelfClosed cs
  have hrest := isRest_write hattributes isSelfClosed cs
  have hrun := not_endsTagName fun d hd => hchars d (List.mem_cons_of_mem _ hd)
  have hnext : (!endsTagName stop) = false := by
    rw [hstop]
    rfl
  intro fuel hfuel
  obtain ⟨fuel, rfl⟩ := Nat.exists_eq_add_one_of_ne_zero (Nat.ne_zero_of_lt hfuel)
  have hlength : cs.length < fuel := by
    simp only [StartTag.write, List.cons_append, List.length_cons, List.length_append] at hfuel
    omega
  simp only [StartTag.write, heq, List.cons_append, List.append_assoc]
  rw [hbody] at hrest ⊢
  rw [startTagsFrom, if_pos halpha, takeWhile_append_stop hrun hnext,
    dropWhile_append_stop hrun hnext, smallName_eq hchars, ← heq, String.ofList_toList]
  · have hread : tagRest? ((name ++ stop :: more).length + 1) (stop :: more) =
        some ⟨tag.attributes, isSelfClosed, cs⟩ := by
      refine hrest _ ?_
      rw [List.length_append]
      omega
    simp only [hread, afterContent_eq hcontent, ite_self, h fuel hlength]
  -- a letter does not start a declaration or an end tag
  · rintro rfl
    cases halpha
  · rintro rfl
    cases halpha
  · rintro rfl
    cases halpha

/-- An end tag adds nothing. -/
theorem HasTags.endTag (h : HasTags cs tags) {name : String} (hname : isTagName name = true) :
    HasTags (writeEndTag name ++ cs) tags := by
  obtain ⟨c, chars, heq, halpha, hchars⟩ := exists_of_isTagName hname
  have hrun := not_endsTagName hchars
  intro fuel hfuel
  obtain ⟨fuel, rfl⟩ := Nat.exists_eq_add_one_of_ne_zero (Nat.ne_zero_of_lt hfuel)
  have hlength : cs.length < fuel := by
    simp only [writeEndTag, List.cons_append, List.length_cons, List.length_append] at hfuel
    omega
  simp only [writeEndTag, heq, List.cons_append, List.append_assoc, List.nil_append]
  have hdrop : (c :: chars ++ '>' :: cs).dropWhile (!endsTagName ·) = '>' :: cs :=
    dropWhile_append_stop hrun (by decide) cs
  have hread : tagRest? ((c :: (chars ++ '>' :: cs)).length + 1) ('>' :: cs) =
      some ⟨[], false, cs⟩ := by
    refine IsRest.close cs _ ?_
    simp only [List.length_cons, List.length_append]
    omega
  rw [List.cons_append] at hdrop
  rw [startTagsFrom, List.headD_cons, if_pos halpha, hdrop]
  simp only [hread, h fuel hlength]

end Steps

/-! ### Printable text -/

theorem normalizeLines_eq {cs : List Char} (h : '\r' ∉ cs) : normalizeLines cs = cs := by
  induction cs with
  | nil => rfl
  | cons c cs ih =>
    have hc := List.ne_of_not_mem_cons h
    rw [normalizeLines, ih (List.not_mem_of_not_mem_cons h)]
    · exact fun _ heq => absurd heq.symm hc
    · exact fun heq => absurd heq.symm hc

theorem HasTags.startTags_eq {cs : List Char} {tags : List StartTag} (h : HasTags cs tags)
    (hcs : cs.all isPrintableAscii = true) : startTags (String.ofList cs) = tags := by
  unfold startTags
  rw [String.toList_ofList, normalizeLines_eq (notMem_of_all_isPrintableAscii hcs (by decide))]
  exact h _ (Nat.lt_succ_self _)

theorem all_isPrintableAscii_name {name : String} (h : isPlainName name = true) :
    name.toList.all isPrintableAscii = true := by
  obtain ⟨c, cs, heq, hchars⟩ := exists_of_isPlainName h
  rw [heq, List.all_eq_true]
  exact fun d hd => (of_mem_nameChars (hchars d hd)).1

theorem all_isPrintableAscii_writeAttribute {a : String × String}
    (h : isPlainAttribute a = true) : (writeAttribute a).all isPrintableAscii = true := by
  obtain ⟨hname, hvalue⟩ := Bool.and_eq_true_iff.mp h
  simp only [writeAttribute, List.all_cons, List.all_append, List.all_nil,
    all_isPrintableAscii_name hname, all_isPrintableAscii_escape hvalue]
  decide

theorem StartTag.all_isPrintableAscii_write {tag : StartTag} (h : tag.isPlain = true)
    (isSelfClosed : Bool) : (tag.write isSelfClosed).all isPrintableAscii = true := by
  simp only [StartTag.isPlain, isTagName, Bool.and_eq_true] at h
  obtain ⟨⟨⟨hname, -⟩, -⟩, hattributes⟩ := h
  have hwritten : (tag.attributes.flatMap writeAttribute).all isPrintableAscii = true := by
    rw [List.all_flatMap, List.all_eq_true]
    exact fun a ha => all_isPrintableAscii_writeAttribute (List.all_eq_true.mp hattributes a ha)
  simp only [write, List.all_cons, List.all_append, all_isPrintableAscii_name hname, hwritten]
  cases isSelfClosed <;> decide

/-! ### Looking attributes up -/

/-- The own name of a plain name is the name. -/
theorem ownName_eq {name : String} (h : isPlainName name = true) : ownName name = name := by
  obtain ⟨c, cs, heq, hchars⟩ := exists_of_isPlainName h
  unfold ownName
  rw [heq]
  split
  · rename_i hbrace
    obtain ⟨rfl, -⟩ := List.cons.inj hbrace
    exact absurd (hchars _ List.mem_cons_self) (by decide)
  · rfl

/-- The only attribute with a plain name is found. -/
theorem StartTag.attribute?_eq {tag : StartTag} {name value : String}
    (hname : isPlainName name = true) (h : (name, value) ∈ tag.attributes)
    (hown : ∀ a ∈ tag.attributes, ownName a.1 = name → a = (name, value)) :
    tag.attribute? name = some value := by
  -- of the attributes with the same name, one is left
  obtain ⟨a, ha, heq⟩ := exists_mem_eraseDupsBy (r := fun a b : String × String => a.1 == b.1)
    (fun a => beq_self_eq_true a.1) h
  have hname' : ownName a.1 = name := by
    rw [← beq_iff_eq.mp heq]
    exact ownName_eq hname
  unfold attribute?
  cases hfind : (tag.attributes.eraseDupsBy fun a b => a.1 == b.1).reverse.find?
      fun a => ownName a.1 == name with
  | none =>
    have hnone := List.find?_eq_none.mp hfind a (List.mem_reverse.mpr ha)
    exact absurd (beq_iff_eq.mpr hname') hnone
  | some b =>
    have hb := List.mem_reverse.mp (List.mem_of_find?_eq_some hfind)
    have hfound := List.find?_some hfind
    simp only [hfind, Option.map_some, hown b (mem_of_mem_eraseDupsBy hb) (beq_iff_eq.mp hfound)]

end ContentPack.Markup
