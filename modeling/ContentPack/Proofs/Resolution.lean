import ContentPack.Compatibility.BlockList
import ContentPack.Proofs.Attempt

/-!
# What a resolved pack is

For a store in memory, `Store.resolvePack` is the one run that resolves a topic. Unless a request
fails or a closure of skills grows past its bound, it gives the pack of the newest acceptable
version of the topic, or it reports that there is none (`resolvePack_newest_acceptable`).

What is in the pack is the closure of its version of the topic, each structure in its newest
compatible version (`TopicPack.IsClosure`). Neither the settings nor the versions that were tried
before leave a trace in it (`resolvePack_isClosure`).
-/

namespace ContentPack

/-- The pack of a topic, as it is resolved from a store in memory, or why there is none. -/
def Store.resolvePack (store : Store) (checker : Checker) (settings : ResolverSettings)
    (topicId : String) : Except Error TopicPack :=
  (ExceptT.run ((Assembler.ofSettings store.source checker settings).resolve topicId)
    { remote := [] }).1

/-- A store in memory is a source, too. -/
theorem Store.resolvePack_source (store : Store) (checker : Checker) (settings : ResolverSettings)
    (topicId : String) : store.source.resolvePack [] checker settings topicId =
      store.resolvePack checker settings topicId := rfl

section

variable {store : Store} {checker : Checker}

/-- A run ends as a search from an empty cache ends. -/
theorem resolvePack_cases (hs : store.Faithful) (hindex : checker.ByIndex)
    (settings : ResolverSettings) (topicId : String) :
    (∃ o, Assembler.Ends store checker topicId o ∧
        store.resolvePack checker settings topicId = Assembler.packOf topicId o) ∨
      ∃ error, store.resolvePack checker settings topicId = .error error ∧ error.IsExcused := by
  have hsound : (Cache.empty : Cache Loaded).Sound (topicFacts store checker) := by
    intro id h hh
    cases hh
  have hrun := Assembler.ensures_run (a := .ofSettings store.source checker settings)
    (s := { remote := [] }) hs hindex rfl (FanOut.seatLimit_ne_zero _) topicId hsound
  exact Source.resolvePack_of_run hrun

/-- The version of a topic that a pack was put together from is the greatest acceptable one. -/
structure TopicPack.IsNewest (pack : TopicPack) (store : Store) (checker : Checker)
    (topicId : String) : Prop where
  /-- It is a stored version. -/
  stored : store.stored? (.topic topicId) pack.topic.version = some (.topic pack.topic)
  /-- It is acceptable. -/
  acceptable : pack.topic.Acceptable store checker
  /-- No acceptable version is newer. -/
  greatest : ∀ v t, store.stored? (.topic topicId) v = some (.topic t) →
    t.Acceptable store checker → v.number ≤ pack.topic.version.number

end

/-- **A run finds the newest acceptable version of a topic.** If no request fails and no closure of
skills grows past its bound, the result is a pack of the greatest acceptable version whenever there
is one, and the topic is reported as incompatible exactly if there is none. -/
theorem resolvePack_newest_acceptable (documents : List Document) (translations : List Translation)
    (checker : Checker) (hindex : checker.ByIndex) (settings : ResolverSettings)
    (topicId : String)
    (hexcused : ∀ error, (Store.ofContents documents translations).resolvePack checker settings
      topicId = .error error → ¬error.IsExcused) :
    ((∃ v t, (Store.ofContents documents translations).stored? (.topic topicId) v =
          some (.topic t) ∧ t.Acceptable (Store.ofContents documents translations) checker) →
        ∃ pack, (Store.ofContents documents translations).resolvePack checker settings topicId =
            .ok pack ∧
          pack.IsNewest (Store.ofContents documents translations) checker topicId) ∧
      ((∃ reasons, (Store.ofContents documents translations).resolvePack checker settings topicId =
          .error (.incompatibleTopic topicId reasons)) ↔
        ∀ v t, (Store.ofContents documents translations).stored? (.topic topicId) v =
          some (.topic t) → ¬t.Acceptable (Store.ofContents documents translations) checker) := by
  have hs := Store.faithful_ofContents documents translations
  generalize Store.ofContents documents translations = store at hs hexcused ⊢
  rcases resolvePack_cases hs hindex settings topicId with
    ⟨o, hends, hresult⟩ | ⟨error, hresult, herror⟩
  · rw [hresult]
    rcases hends with ⟨t, m, v, rfl, hstored, hacceptable, habove⟩ | ⟨reasons, rfl, huseless⟩
    · have hversion : t.version = v := hs.version_eq hstored
      subst hversion
      refine ⟨fun _ => ⟨m.pack, rfl, hstored, hacceptable, ?_⟩, ?_⟩
      · intro w t' ht' hacceptable'
        by_contra hlt
        exact habove w (not_le.mp hlt) t' ht' hacceptable'
      · constructor
        · rintro ⟨reasons, heq⟩
          cases heq
        · exact fun hnone => absurd hacceptable (hnone _ t hstored)
    · refine ⟨?_, fun _ => huseless, fun _ => ⟨_, rfl⟩⟩
      rintro ⟨v, t, ht, hacceptable⟩
      exact absurd hacceptable (huseless v t ht)
  · exact absurd herror (hexcused error hresult)

/-- A topic whose second version needs a story that `blockedStory` rejects. -/
def fallbackDocuments : List Document := [
  .topic { id := "t", version := .first, canonicalStoryIds := ["s"], subtopics := [{ id := 1 }] },
  .topic { id := "t", version := .after 1, canonicalStoryIds := ["r"] },
  .page { topicId := "t", subtopicIndex := 1, version := .first },
  .story { id := "s", version := .first, chapters := [{ id := "c", explorationId := some "e" }] },
  .story { id := "r", version := .first },
  .exploration { id := "e", version := .first }]

/-- The checker that accepts everything but one story. -/
def blockedStory : Checker :=
  BlockedVersions.checker [{ kind := "story", id := "r", reasons := ["blocked"] }]

theorem exists_fallback :
    ∃ pack, (Store.ofContents fallbackDocuments []).resolvePack blockedStory {} "t" = .ok pack ∧
      pack.topic.version = .first := by
  have hversion : ((Store.ofContents fallbackDocuments []).resolvePack blockedStory {}
      "t").toOption.map (·.topic.version) = some .first := by decide +kernel
  cases hpack : (Store.ofContents fallbackDocuments []).resolvePack blockedStory {} "t" with
  | ok pack =>
    rw [hpack] at hversion
    exact ⟨pack, rfl, Option.some.inj hversion⟩
  | error error =>
    rw [hpack] at hversion
    cases hversion

/-- The run falls back to the first version. -/
theorem resolvePack_fallback_newest :
    ∃ pack, (Store.ofContents fallbackDocuments []).resolvePack blockedStory {} "t" = .ok pack ∧
      pack.topic.version = .first ∧
      pack.IsNewest (Store.ofContents fallbackDocuments []) blockedStory "t" := by
  obtain ⟨pack, hpack, hversion⟩ := exists_fallback
  obtain ⟨hfinds, hreports⟩ := resolvePack_newest_acceptable fallbackDocuments [] blockedStory
    (fun _ _ _ _ => rfl) {} "t" (by
      intro error herror
      rw [hpack] at herror
      cases herror)
  rw [hpack] at hfinds hreports
  refine ⟨pack, hpack, hversion, ?_⟩
  -- there is an acceptable version, or the topic would be reported
  have hacceptable : ∃ v t, (Store.ofContents fallbackDocuments []).stored? (.topic "t") v =
      some (.topic t) ∧ t.Acceptable (Store.ofContents fallbackDocuments []) blockedStory := by
    by_contra hnone
    push Not at hnone
    obtain ⟨reasons, hreasons⟩ := hreports.mpr hnone
    cases hreasons
  obtain ⟨_, heq, hnewest⟩ := hfinds hacceptable
  obtain rfl := Except.ok.inj heq
  exact hnewest

/-! ### What is in a pack -/

/-- **A pack is the closure of its topic**: in every section there is exactly what is referred to,
in the order in which it is, and each structure in its newest compatible version. -/
structure TopicPack.IsClosure (pack : TopicPack) (store : Store) (checker : Checker) : Prop where
  /-- There is a page for every declared subtopic. -/
  pageKeys : pack.subtopicPages.keys = (pack.topic.subtopics.map (·.id)).eraseDups
  /-- It is the newest compatible version of the page. -/
  pages : ∀ index page, (index, page) ∈ pack.subtopicPages →
    pack.topic.newest store checker (.subtopic pack.topic.id index) (.page page)
  /-- There are the canonical stories, then the additional ones. -/
  storyKeys : pack.stories.keys =
    (pack.topic.canonicalStoryIds ++ pack.topic.additionalStoryIds).eraseDups
  /-- They are the newest compatible versions of the stories. -/
  stories : ∀ name story, (name, story) ∈ pack.stories →
    pack.topic.newest store checker (.story name) (.story story)
  /-- There are the explorations that the chapters of the stories name. -/
  explorationKeys : pack.explorations.keys =
    (pack.stories.values.flatMap fun story =>
      (story.chapters.filterMap (·.explorationId)).filter (!·.isEmpty)).eraseDups
  /-- They are the newest compatible versions of the explorations. -/
  explorations : ∀ name exploration, (name, exploration) ∈ pack.explorations →
    pack.topic.newest store checker (.exploration name) (.exploration exploration)
  /-- There is the least closure of the skills that anything in the pack refers to. -/
  skillKeys : ∀ name, name ∈ pack.skills.keys ↔
    SkillClosure.Needs (fun other => pack.topic.newest store checker (.skill other))
      (skillSeeds pack.topic pack.subtopicPages.values pack.stories.values
        pack.explorations.values) name
  /-- Every skill is there once. -/
  nodup_skillKeys : pack.skills.keys.Nodup
  /-- They are the newest compatible versions of the skills. -/
  skills : ∀ name skill, (name, skill) ∈ pack.skills →
    pack.topic.newest store checker (.skill name) (.skill skill)
  /-- The language is that of the topic. -/
  language : pack.defaultLanguage = .ofCode pack.topic.languageCode

section

variable {store : Store} {checker : Checker} {t : Topic}

/-- The pack of materials is a closure. -/
theorem Materials.isClosure (hs : store.Faithful) (m : Materials store checker t) :
    m.pack.IsClosure store checker := by
  obtain ⟨hnodup, -, hneeds⟩ := m.exists_skill_ids hs
  constructor
  case pageKeys =>
    rw [m.keys_pages, m.pack_topic]
    unfold Topic.subtopicTable
    rw [Table.keys_ofEntries, List.map_map]
    rfl
  case pages =>
    intro index page hmem
    rw [m.pack_topic]
    exact List.forall₂_zip m.pages_newest hmem
  case storyKeys =>
    rw [m.keys_stories, map_story_id hs m.stories_newest, m.pack_topic]
    rfl
  case stories =>
    intro name story hmem
    rw [m.pack_topic]
    obtain ⟨_, hstory, heq⟩ := List.mem_map.mp hmem
    obtain ⟨rfl, rfl⟩ := Prod.mk.inj heq
    exact m.newest_of_mem_stories hs hstory
  case explorationKeys =>
    -- each story names an exploration once already, which makes no difference
    rw [m.keys_explorations, map_exploration_id hs m.explorations_newest, m.values_stories]
    exact eraseDups_flatMap_eraseDups m.stories fun story =>
      (story.chapters.filterMap (·.explorationId)).filter (!·.isEmpty)
  case explorations =>
    intro name exploration hmem
    rw [m.pack_topic]
    obtain ⟨_, he, heq⟩ := List.mem_map.mp hmem
    obtain ⟨rfl, rfl⟩ := Prod.mk.inj heq
    exact m.newest_of_mem_explorations hs he
  case skillKeys =>
    intro name
    rw [m.keys_skills, m.values_pages, m.values_stories, m.values_explorations, m.pack_topic]
    exact hneeds name
  case nodup_skillKeys =>
    rw [m.keys_skills]
    exact hnodup
  case skills =>
    intro name skill hmem
    rw [m.pack_topic]
    obtain ⟨_, hskill, heq⟩ := List.mem_map.mp hmem
    obtain ⟨rfl, rfl⟩ := Prod.mk.inj heq
    exact m.newest_of_mem_skills hs hskill
  case language => rw [m.pack_defaultLanguage, m.pack_topic]

end

/-- **A pack is exactly the closure of its topic**, and nothing else plays a part: neither the
settings nor the versions of the topic that were tried and dropped before. -/
theorem resolvePack_isClosure (documents : List Document) (translations : List Translation)
    (checker : Checker) (hindex : checker.ByIndex) (settings : ResolverSettings)
    (topicId : String) (pack : TopicPack)
    (hpack : (Store.ofContents documents translations).resolvePack checker settings topicId =
      .ok pack) :
    pack.IsClosure (Store.ofContents documents translations) checker ∧
      ∀ settings' pack', (Store.ofContents documents translations).resolvePack checker settings'
        topicId = .ok pack' → pack'.topic = pack.topic → pack' = pack := by
  have hs := Store.faithful_ofContents documents translations
  generalize Store.ofContents documents translations = store at hs hpack ⊢
  -- whatever the settings are, a pack comes from the materials of its topic
  have hmaterials : ∀ settings pack, store.resolvePack checker settings topicId = .ok pack →
      ∃ (t : Topic) (m : Materials store checker t), pack = m.pack := by
    intro settings pack hpack
    rcases resolvePack_cases hs hindex settings topicId with
      ⟨o, hends, hresult⟩ | ⟨error, hresult, -⟩
    · rw [hresult] at hpack
      rcases hends with ⟨t, m, -, rfl, -⟩ | ⟨reasons, rfl, -⟩
      · exact ⟨t, m, (Except.ok.inj hpack).symm⟩
      · cases hpack
    · rw [hresult] at hpack
      cases hpack
  obtain ⟨t, m, rfl⟩ := hmaterials settings pack hpack
  refine ⟨m.isClosure hs, ?_⟩
  intro settings' pack' hpack' htopic
  obtain ⟨t', m', rfl⟩ := hmaterials settings' pack' hpack'
  obtain rfl : t' = t := htopic
  exact m'.unique m

/-- The dropped second version leaves no trace. -/
theorem resolvePack_fallback_isClosure :
    ∃ pack, (Store.ofContents fallbackDocuments []).resolvePack blockedStory {} "t" = .ok pack ∧
      pack.IsClosure (Store.ofContents fallbackDocuments []) blockedStory := by
  obtain ⟨pack, hpack, -⟩ := exists_fallback
  exact ⟨pack, hpack, (resolvePack_isClosure fallbackDocuments [] blockedStory
    (fun _ _ _ _ => rfl) {} "t" pack hpack).1⟩

end ContentPack
