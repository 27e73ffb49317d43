import ContentPack.ConceptCard
import ContentPack.Proofs.ConceptCards
import ContentPack.Proofs.Lists

/-!
# The skills that an exploration mentions

An exploration mentions skills in four places: in the concept cards of its cards, in those of the
translated texts, as the skill that a card practises, and in misconception tags
(`CompleteExploration.Mentions`). The skills are gathered place by place, and repetitions are erased
text by text, over all texts, among those named outside of rich text, and at last over everything.
What comes of it is the list of all mentions in the order of the exploration
(`CompleteExploration.mentions`), each skill at its first one (`skillIds_mentioned`).

A misconception tag is split at its last hyphen, so that the identifier of the skill may hold
hyphens itself: the skill is read back exactly if the other part holds none
(`skillOfMisconception?_eq_some_iff`).
-/

namespace ContentPack

/-! ### Misconception tags -/

/-- The tag of a misconception of a skill. -/
def misconceptionTag (skillId misconceptionId : String) : String :=
  skillId ++ "-" ++ misconceptionId

theorem toList_misconceptionTag (skillId misconceptionId : String) :
    (misconceptionTag skillId misconceptionId).toList =
      skillId.toList ++ '-' :: misconceptionId.toList := by
  simp [misconceptionTag]

/-- A text with a hyphen is the tag of some skill, which ends where the last hyphen stands. -/
theorem exists_misconceptionTag {tag : String} (h : '-' ∈ tag.toList) :
    ∃ skillId misconceptionId : String, '-' ∉ misconceptionId.toList ∧
      tag = misconceptionTag skillId misconceptionId := by
  -- the first hyphen of the reversed text is the last one of the text
  obtain ⟨after, before, hsplit, hafter⟩ :=
    List.eq_append_cons_of_mem (List.mem_reverse.mpr h)
  refine ⟨String.ofList before.reverse, String.ofList after.reverse, ?_, ?_⟩
  · rwa [String.toList_ofList, List.mem_reverse]
  · apply String.toList_injective
    rw [toList_misconceptionTag, String.toList_ofList, String.toList_ofList,
      ← List.reverse_reverse tag.toList, hsplit]
    simp

/-- **The skill of a tag reads back**, whatever hyphens it holds itself. -/
theorem skillOfMisconception?_misconceptionTag (skillId : String) {misconceptionId : String}
    (h : '-' ∉ misconceptionId.toList) :
    skillOfMisconception? (misconceptionTag skillId misconceptionId) = some skillId := by
  -- read from its end, the tag starts with a run that no hyphen stops
  have hrun : ∀ c ∈ misconceptionId.toList.reverse, (c != '-') = true := by
    intro c hc
    rw [bne_iff_ne]
    exact fun heq => h (heq ▸ List.mem_reverse.mp hc)
  have hrest : (skillId.toList ++ '-' :: misconceptionId.toList).reverse.dropWhile (· != '-') =
      '-' :: skillId.toList.reverse := by
    rw [List.reverse_append, List.reverse_cons, List.append_assoc, List.singleton_append]
    exact dropWhile_append_stop hrun (by decide) _
  have hhyphen : (skillId.toList ++ '-' :: misconceptionId.toList).contains '-' = true := by simp
  unfold skillOfMisconception?
  simp only [toList_misconceptionTag, hhyphen, hrest, if_true, List.drop_one, List.tail_cons,
    List.reverse_reverse, String.ofList_toList]

/-- A text without a hyphen is the tag of no skill. -/
theorem skillOfMisconception?_eq_none_iff {tag : String} :
    skillOfMisconception? tag = none ↔ '-' ∉ tag.toList := by
  simp [skillOfMisconception?]

/-- **A tag names the skill that it was made of**, and no other one. -/
theorem skillOfMisconception?_eq_some_iff {tag skillId : String} :
    skillOfMisconception? tag = some skillId ↔
      ∃ misconceptionId : String, '-' ∉ misconceptionId.toList ∧
        tag = misconceptionTag skillId misconceptionId := by
  constructor
  · intro h
    have hhyphen : '-' ∈ tag.toList := by
      by_contra hnone
      rw [skillOfMisconception?_eq_none_iff.mpr hnone] at h
      cases h
    obtain ⟨skillId', misconceptionId, hplain, rfl⟩ := exists_misconceptionTag hhyphen
    rw [skillOfMisconception?_misconceptionTag skillId' hplain] at h
    obtain rfl := Option.some.inj h
    exact ⟨misconceptionId, hplain, rfl⟩
  · rintro ⟨misconceptionId, hplain, rfl⟩
    exact skillOfMisconception?_misconceptionTag skillId hplain

/-! ### Concept cards of several texts -/

namespace ConceptCard

/-- To erase repetitions text by text makes no difference. -/
theorem skillIdsOfAll_eq (fragments : List String) :
    skillIdsOfAll fragments = (fragments.flatMap shownSkillIds).eraseDups := by
  have hskills : skillIds = fun html => (shownSkillIds html).eraseDups := funext skillIds_eq
  unfold skillIdsOfAll
  rw [hskills]
  exact eraseDups_flatMap_eraseDups ..

end ConceptCard

/-! ### Explorations -/

namespace CompleteExploration

open ConceptCard

variable {c : CompleteExploration} {skillId : String}

/-- The skills of the concept cards of the exploration: card by card, then translation by
translation and text by text. -/
def shownMentions (c : CompleteExploration) : List String :=
  (c.exploration.cards.values.flatMap fun card => shownSkillIds card.content) ++
    c.translations.values.flatMap fun translation => translation.texts.values.flatMap shownSkillIds

/-- The skills that cards practise, card by card; an empty identifier stands for none. -/
def practisedMentions (c : CompleteExploration) : List String :=
  c.exploration.cards.values.filterMap fun card => card.linkedSkillId.filter (!·.isEmpty)

/-- The skills of misconception tags, card by card and tag by tag. -/
def taggedMentions (c : CompleteExploration) : List String :=
  c.exploration.cards.values.flatMap fun card =>
    card.misconceptionTags.filterMap skillOfMisconception?

/-- **All mentions of skills**, in the order of the exploration and with their repetitions. -/
def mentions (c : CompleteExploration) : List String :=
  c.shownMentions ++ c.practisedMentions ++ c.taggedMentions

/-- **The exploration mentions a skill.** -/
inductive Mentions (c : CompleteExploration) (skillId : String) : Prop
  /-- A card shows its concept card. -/
  | shown (card : Card) : card ∈ c.exploration.cards.values →
      skillId ∈ shownSkillIds card.content → Mentions c skillId
  /-- A translated text shows its concept card. -/
  | translated (translation : Translation) (text : String) : translation ∈ c.translations.values →
      text ∈ translation.texts.values → skillId ∈ shownSkillIds text → Mentions c skillId
  /-- A card practises it. -/
  | practised (card : Card) : card ∈ c.exploration.cards.values →
      card.linkedSkillId = some skillId → skillId ≠ "" → Mentions c skillId
  /-- A card has the tag of one of its misconceptions. -/
  | tagged (card : Card) (misconceptionId : String) : card ∈ c.exploration.cards.values →
      '-' ∉ misconceptionId.toList →
      misconceptionTag skillId misconceptionId ∈ card.misconceptionTags → Mentions c skillId

theorem flatMap_htmlFragments : c.htmlFragments.flatMap shownSkillIds = c.shownMentions := by
  unfold htmlFragments Exploration.htmlFragments shownMentions
  rw [List.flatMap_append, List.flatMap_map, List.flatMap_assoc]

theorem directSkillIds_eq :
    c.directSkillIds = (c.practisedMentions ++ c.taggedMentions).eraseDups := by
  unfold directSkillIds Exploration.directSkillIds practisedMentions taggedMentions
  rw [List.filter_filterMap]

/-- **Each mentioned skill is listed at its first mention.** -/
theorem skillIds_eq_eraseDups : (Loaded.exploration c).skillIds = c.mentions.eraseDups := by
  calc (Loaded.exploration c).skillIds
      = (skillIdsOfAll c.htmlFragments ++ c.directSkillIds).eraseDups := rfl
    _ = (c.shownMentions.eraseDups ++
          (c.practisedMentions ++ c.taggedMentions).eraseDups).eraseDups := by
        rw [skillIdsOfAll_eq, flatMap_htmlFragments, directSkillIds_eq]
    _ = (c.shownMentions ++ (c.practisedMentions ++ c.taggedMentions)).eraseDups :=
        eraseDups_append_eraseDups ..
    _ = c.mentions.eraseDups := by rw [mentions, List.append_assoc]

theorem mem_shownMentions_iff :
    skillId ∈ c.shownMentions ↔
      (∃ card ∈ c.exploration.cards.values, skillId ∈ shownSkillIds card.content) ∨
        ∃ translation ∈ c.translations.values, ∃ text ∈ translation.texts.values,
          skillId ∈ shownSkillIds text := by
  simp only [shownMentions, List.mem_append, List.mem_flatMap]

theorem mem_practisedMentions_iff :
    skillId ∈ c.practisedMentions ↔
      ∃ card ∈ c.exploration.cards.values, card.linkedSkillId = some skillId ∧ skillId ≠ "" := by
  simp only [practisedMentions, List.mem_filterMap, Option.filter_eq_some_iff, Bool.not_eq_true',
    ← Bool.not_eq_true, String.isEmpty_iff, ne_eq]

theorem mem_taggedMentions_iff :
    skillId ∈ c.taggedMentions ↔
      ∃ card ∈ c.exploration.cards.values, ∃ misconceptionId : String,
        '-' ∉ misconceptionId.toList ∧
          misconceptionTag skillId misconceptionId ∈ card.misconceptionTags := by
  simp only [taggedMentions, List.mem_flatMap, List.mem_filterMap,
    skillOfMisconception?_eq_some_iff]
  constructor
  · rintro ⟨card, hcard, tag, htag, misconceptionId, hplain, rfl⟩
    exact ⟨card, hcard, misconceptionId, hplain, htag⟩
  · rintro ⟨card, hcard, misconceptionId, hplain, htag⟩
    exact ⟨card, hcard, _, htag, misconceptionId, hplain, rfl⟩

/-- **What is mentioned is among the mentions**, and nothing else is. -/
theorem mem_mentions_iff : skillId ∈ c.mentions ↔ c.Mentions skillId := by
  rw [mentions, List.mem_append, List.mem_append, mem_shownMentions_iff, mem_practisedMentions_iff,
    mem_taggedMentions_iff]
  constructor
  · rintro (((⟨card, hcard, hshown⟩ | ⟨translation, htranslation, text, htext, hshown⟩) |
      ⟨card, hcard, hlink, hne⟩) | ⟨card, hcard, misconceptionId, hplain, htag⟩)
    · exact .shown card hcard hshown
    · exact .translated translation text htranslation htext hshown
    · exact .practised card hcard hlink hne
    · exact .tagged card misconceptionId hcard hplain htag
  · intro h
    cases h with
    | shown card hcard hshown => exact Or.inl (Or.inl (Or.inl ⟨card, hcard, hshown⟩))
    | translated translation text htranslation htext hshown =>
      exact Or.inl (Or.inl (Or.inr ⟨translation, htranslation, text, htext, hshown⟩))
    | practised card hcard hlink hne => exact Or.inl (Or.inr ⟨card, hcard, hlink, hne⟩)
    | tagged card misconceptionId hcard hplain htag =>
      exact Or.inr ⟨card, hcard, misconceptionId, hplain, htag⟩

/-- **No mention of a skill is lost or misread.** The skills of an exploration are its mentions
without repetitions, each at its first one: those of the concept cards of its cards, of its
translated texts, those that its cards practise, and those of its misconception tags. These are the
skills that it mentions and no others, as a tag names the skill that it was made of, and names none
if it holds no hyphen. -/
theorem skillIds_mentioned (c : CompleteExploration) :
    (Loaded.exploration c).skillIds.Nodup ∧
      (Loaded.exploration c).skillIds = c.mentions.eraseDups ∧
      (∀ skillId, skillId ∈ (Loaded.exploration c).skillIds ↔ c.Mentions skillId) ∧
      (∀ tag skillId, skillOfMisconception? tag = some skillId ↔
        ∃ misconceptionId : String, '-' ∉ misconceptionId.toList ∧
          tag = misconceptionTag skillId misconceptionId) ∧
      ∀ tag, skillOfMisconception? tag = none ↔ '-' ∉ tag.toList := by
  rw [skillIds_eq_eraseDups]
  refine ⟨nodup_eraseDups _, rfl, fun skillId => ?_, fun _ _ => skillOfMisconception?_eq_some_iff,
    fun _ => skillOfMisconception?_eq_none_iff⟩
  rw [List.mem_eraseDups, mem_mentions_iff]

namespace Fractions

/-- A text that shows the concept cards of some skills. -/
def text (skillIds : List String) : String :=
  write (skillIds.map fun skillId => .card skillId [] [] false)

/-- An exploration that mentions skills in all four places, some of them in several. -/
def lesson : CompleteExploration where
  exploration :=
    { id := "fractions", version := .first
      cards :=
        [("Halves",
            { content := text ["halves", "long-division"], linkedSkillId := some "quarters"
              misconceptionTags := ["long-division-2", "mixed-numbers-1", "quarters"] }),
          ("End",
            { content := text ["halves"], linkedSkillId := some ""
              misconceptionTags := ["mixed-1"] })] }
  translations :=
    [(.hindi,
        { explorationId := "fractions", version := 1, languageCode := "hi"
          texts := [("content_0", text ["thirds"]), ("hint_1", text ["quarters", "halves"])] })]

theorem shownSkillIds_text {skillIds : List String}
    (h : ∀ skillId ∈ skillIds, isPlainId skillId = true) :
    shownSkillIds (text skillIds) = skillIds := by
  rw [text, shownSkillIds_write, List.filterMap_map]
  · exact List.filterMap_some
  · intro piece hpiece
    obtain ⟨skillId, hskillId, rfl⟩ := List.mem_map.mp hpiece
    simp [Piece.isPlain, h skillId hskillId]

theorem shownMentions_lesson :
    lesson.shownMentions =
      ["halves", "long-division", "halves", "thirds", "quarters", "halves"] := by
  simp (disch := decide +kernel) only [shownMentions, lesson, Table.values, List.map_cons,
    List.map_nil, List.flatMap_cons, List.flatMap_nil, shownSkillIds_text, List.append_nil,
    List.cons_append, List.nil_append]

/-- **Every skill is listed at its first mention**: hyphens stay in the identifiers, and neither the
empty link nor the tag without a hyphen adds a skill. -/
theorem lesson_mentions :
    (Loaded.exploration lesson).skillIds =
        ["halves", "long-division", "thirds", "quarters", "mixed-numbers", "mixed"] ∧
      lesson.Mentions "mixed-numbers" ∧ ¬lesson.Mentions "" := by
  obtain ⟨-, hskills, hmentions, -⟩ := skillIds_mentioned lesson
  have heq : (Loaded.exploration lesson).skillIds =
      ["halves", "long-division", "thirds", "quarters", "mixed-numbers", "mixed"] := by
    rw [hskills, mentions, shownMentions_lesson]
    decide +kernel
  rw [← hmentions, ← hmentions, heq]
  exact ⟨rfl, by decide, by decide⟩

end Fractions

end CompleteExploration

end ContentPack
