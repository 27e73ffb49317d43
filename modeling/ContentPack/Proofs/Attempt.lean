import ContentPack.Proofs.Fragments
import ContentPack.Proofs.Parts
import ContentPack.Proofs.Retry

/-!
# One attempt to put a pack together

The groups of a pack come to fragments, one for each field. If none of them failed, they are
combined to the pack of the materials (`ensures_assemble`); else the topic lacks something. So an
attempt gives the pack of the newest version of the topic that is left, if that version is
acceptable (`ensures_attempt`).
-/

namespace ContentPack.Assembler

open Work Resolver

variable {store : Store} {checker : Checker} {t : Topic} {a : Assembler (List Request)}
  {window : Int} {s : Session Loaded (List Request)}

/-! ### The fragments of a pack -/

theorem structures_ofPages {indexes : List Int} {pages : List SubtopicPage}
    (hlength : indexes.length = pages.length) (hnodup : indexes.Nodup) :
    structures (.ofPages (indexes.zip pages)) = pages.map .page := by
  unfold structures Fragment.ofPages
  simp only [Table.ofEntries_zip_of_nodup hnodup hlength, Option.toList_none, List.map_nil,
    List.nil_append, Option.getD_some, Option.getD_none, Table.values, List.append_nil]
  congr 1
  exact List.map_snd_zip (Nat.le_of_eq hlength.symm)

theorem structures_ofStories {stories : List Story} (hnodup : (stories.map (·.id)).Nodup) :
    structures (.ofStories stories) = stories.map .story := by
  unfold structures Fragment.ofStories
  simp only [Table.ofEntries_map_of_nodup hnodup, Option.toList_none, List.map_nil, List.nil_append,
    Option.getD_some, Option.getD_none, Table.values, List.append_nil, List.map_map]
  rfl

theorem structures_ofExplorations {explorations : List CompleteExploration}
    (hnodup : (explorations.map (·.id)).Nodup) :
    structures (.ofExplorations explorations) = explorations.map .exploration := by
  unfold structures Fragment.ofExplorations
  simp only [Table.ofEntries_map_of_nodup hnodup, Option.toList_none, List.map_nil, List.nil_append,
    Option.getD_some, Option.getD_none, Table.values, List.append_nil, List.map_map]
  rfl

/-- The fragments of the materials of a pack. -/
def fragments (m : Materials store checker t) : List Fragment :=
  [.ofPages (t.subtopicTable.keys.zip m.pages), .ofStories m.stories,
    .ofExplorations m.explorations, .ofSkills m.skills,
    { defaultLanguage := some (.ofCode t.languageCode) }]

/-- The fragments of a pack are combined to the pack. -/
theorem exists_toPack (hs : store.Faithful) (m : Materials store checker t) :
    ∃ f, (fragments m).foldlM Fragment.combine { topic := some t } = .ok f ∧
      f.toPack = .ok m.pack := by
  have hpages : t.subtopicTable.keys.Nodup := Table.nodup_keys_ofEntries _
  have hstories : (m.stories.map (·.id)).Nodup :=
    Materials.map_story_id hs m.stories_newest ▸ nodup_eraseDups _
  have hexplorations : (m.explorations.map (·.id)).Nodup :=
    Materials.map_exploration_id hs m.explorations_newest ▸ nodup_eraseDups _
  have hskills : (m.skills.map (·.id)).Nodup := (m.exists_skill_ids hs).1
  refine ⟨_, rfl, ?_⟩
  unfold Fragment.toPack Materials.pack
  simp only [Table.ofEntries_zip_of_nodup hpages m.pages_newest.length_eq,
    Table.ofEntries_map_of_nodup hstories, Table.ofEntries_map_of_nodup hexplorations,
    Table.ofEntries_map_of_nodup hskills]

/-! ### Skills -/

section Skills

variable {pages : List SubtopicPage} {stories : List Story}
  {explorations : List CompleteExploration}

/-- The skills that the pack refers to are skills that the topic needs. -/
theorem closure_of_mem_skillSeeds
    (hpages : List.Forall₂ (fun index p =>
      t.newest store checker (.subtopic t.id index) (.page p)) t.subtopicTable.keys pages)
    (hstories : List.Forall₂ (fun name story =>
      t.newest store checker (.story name) (.story story)) t.storyIds stories)
    (hexplorations : List.Forall₂ (fun name e =>
      t.newest store checker (.exploration name) (.exploration e))
      (storyExplorationIds stories) explorations)
    {name : String} (hname : name ∈ skillSeeds t pages stories explorations) :
    Closure (t.newest store checker) t (.skill name) := by
  have hskill : ∀ {l : Loaded}, name ∈ l.skillIds → .skill name ∈ l.references :=
    fun h => List.mem_append_right _ (List.mem_map.mpr ⟨name, h, rfl⟩)
  have hstory : ∀ {story : Story}, story ∈ stories → ∃ storyId,
      Closure (t.newest store checker) t (.story storyId) ∧
        t.newest store checker (.story storyId) (.story story) := by
    intro story hmem
    obtain ⟨storyId, hstoryId, hnewest⟩ := exists_left_of_forall₂ hstories hmem
    refine ⟨storyId, .direct ?_, hnewest⟩
    refine List.mem_append_left _ (List.mem_append_right _ ?_)
    exact List.mem_map.mpr ⟨storyId, hstoryId, rfl⟩
  obtain ⟨l, hl, hname⟩ := List.mem_flatMap.mp hname
  simp only [List.mem_append, List.mem_cons, List.mem_map] at hl
  -- it is the topic, a page, a story or an exploration that refers to the skill
  rcases hl with ((rfl | ⟨p, hp, rfl⟩) | ⟨story, hmem, rfl⟩) | ⟨e, he, rfl⟩
  · exact .direct (hskill hname)
  · obtain ⟨index, hindex, hnewest⟩ := exists_left_of_forall₂ hpages hp
    refine .step (.direct ?_) hnewest (hskill hname)
    refine List.mem_append_left _ (List.mem_append_left _ ?_)
    exact List.mem_map.mpr ⟨index, hindex, rfl⟩
  · obtain ⟨storyId, hclosure, hnewest⟩ := hstory hmem
    exact .step hclosure hnewest (hskill hname)
  · obtain ⟨id, hid, hnewest⟩ := exists_left_of_forall₂ hexplorations he
    obtain ⟨story, hmem, hid⟩ := List.mem_flatMap.mp (List.mem_eraseDups.mp hid)
    obtain ⟨storyId, hclosure, hstory'⟩ := hstory hmem
    refine .step (.step hclosure hstory' ?_) hnewest (hskill hname)
    exact List.mem_append_left _ (List.mem_map.mpr ⟨id, hid, rfl⟩)

/-- **Skills** are resolved once everything else is there. -/
theorem ensures_loadSkills (hs : store.Faithful)
    (ha : a.resolver = .ofStore store checker window) (hlimit : a.limit ≠ some 0)
    (hsound : s.cache.Sound (topicFacts store checker))
    (hpages : List.Forall₂ (fun index p =>
      t.newest store checker (.subtopic t.id index) (.page p)) t.subtopicTable.keys pages)
    (hstories : List.Forall₂ (fun name story =>
      t.newest store checker (.story name) (.story story)) t.storyIds stories)
    (hexplorations : List.Forall₂ (fun name e =>
      t.newest store checker (.exploration name) (.exploration e))
      (storyExplorationIds stories) explorations) :
    Ensures (a.loadSkills (.topic t :: structures (.ofPages (t.subtopicTable.keys.zip pages)) ++
        structures (.ofStories stories) ++ structures (.ofExplorations explorations))) s
      (fun o rest => KeepsTopics store checker s rest ∧
        Loads t store checker (fun f => ∃ skills, f = Fragment.ofSkills skills ∧
          SkillClosure.Reaches (SkillClosure.newestSkill store checker)
            (skillSeeds t pages stories explorations).eraseDups (skills.map .skill)) o)
      (fun error _ => error.IsExcused) := by
  rw [structures_ofPages hpages.length_eq (Table.nodup_keys_ofEntries _),
    structures_ofStories (Materials.map_story_id hs hstories ▸ nodup_eraseDups _),
    structures_ofExplorations (Materials.map_exploration_id hs hexplorations ▸ nodup_eraseDups _)]
  unfold loadSkills
  rw [ensures_bind, ha]
  refine (SkillClosure.ensures_resolve hs hlimit a.maxRounds
    (skillSeeds t pages stories explorations) hsound).mono ?_ (fun _ _ => id)
  rintro o rest ⟨hkeeps, ⟨loaded, rfl, hreaches⟩ | ⟨reasons, rfl, hlacks⟩⟩
  · -- the rounds end with skills, so nothing is lost when they are put into a fragment
    obtain ⟨final, -, hnewest, -⟩ := hreaches.exists_ids SkillClosure.newestSkill_unique
      (nodup_eraseDups _) (fun _ h => h) (fun _ h => .seed h)
    have hnewest' : List.Forall₂ (t.newest store checker) (final.map .skill) loaded :=
      List.forall₂_map_left_iff.mpr hnewest
    obtain ⟨skills, rfl, -⟩ := exists_typed Loaded.skill
      (fun name l h => by
        obtain ⟨skill, hskill, -⟩ := hs.exists_skill h.stored
        exact ⟨skill, hskill⟩) hnewest'
    refine ⟨hkeeps, Or.inl ⟨_, rfl, skills, ?_, hreaches⟩⟩
    show Fragment.ofSkills ((skills.map Loaded.skill).filterMap Loaded.skill?) = _
    rw [List.filterMap_map]
    exact congrArg Fragment.ofSkills (List.filterMap_some ..)
  · refine ⟨hkeeps, Or.inr ⟨reasons, rfl, hlacks.lacks ?_⟩⟩
    exact fun name hname => closure_of_mem_skillSeeds hpages hstories hexplorations hname

end Skills

/-! ### The pack of a topic -/

/-- **The fragments of a pack** are those of its materials, or one of them failed. -/
theorem ensures_loadFragments (hs : store.Faithful) (hc : checker.ByIndex)
    (ha : a.resolver = .ofStore store checker window) (hlimit : a.limit ≠ some 0)
    (hsound : s.cache.Sound (topicFacts store checker)) :
    Ensures (a.loadFragments t) s
      (fun outcomes rest => KeepsTopics store checker s rest ∧
        ((∃ m : Materials store checker t, outcomes = (fragments m).map .success) ∨
          (Fails t outcomes ∧ t.Lacks store checker)))
      (fun error _ => error.IsExcused) := by
  unfold loadFragments
  rw [ensures_bind]
  refine (ensures_loadPagesAndStories hs hc ha hlimit hsound).mono ?_ (fun _ _ => id)
  rintro ⟨pagesOutcome, storiesOutcome⟩ s₁ ⟨hkeeps₁, hpages, hstories⟩
  simp only at hpages hstories ⊢
  rw [ensures_bind]
  rcases hstories with ⟨_, rfl, stories, rfl, hstories⟩ | ⟨reasons, rfl, hlacks⟩
  · -- the stories are there, so the explorations are looked for
    refine (ensures_loadExplorations hs hc ha hlimit hkeeps₁.sound hstories).mono ?_
      (fun _ _ => id)
    rintro explorationsOutcome s₂ ⟨hkeeps₂, hexplorations⟩
    have hkeeps := hkeeps₁.trans hkeeps₂
    rw [ensures_bind]
    -- the first group that failed stands for all later ones
    rcases hpages with ⟨_, rfl, pages, rfl, hpages⟩ | ⟨reasons, rfl, hlacks⟩
    · rcases hexplorations with ⟨_, rfl, explorations, rfl, hexplorations⟩ | ⟨reasons, rfl, hlacks⟩
      · refine (ensures_loadSkills hs ha hlimit hkeeps₂.sound hpages hstories
          hexplorations).mono ?_ (fun _ _ => id)
        rintro _ s₃ ⟨hkeeps₃, ⟨_, rfl, skills, rfl, hskills⟩ | ⟨reasons, rfl, hlacks⟩⟩
        · exact ⟨hkeeps.trans hkeeps₃, Or.inl ⟨⟨pages, stories, explorations, skills, hpages,
            hstories, hexplorations, hskills⟩, rfl⟩⟩
        · exact ⟨hkeeps.trans hkeeps₃, Or.inr ⟨⟨[_, _, _], _, reasons, [_], rfl, by simp, rfl⟩,
            hlacks⟩⟩
      · exact ⟨hkeeps, Or.inr ⟨⟨[_, _], _, reasons, [_, _], rfl, by simp, rfl⟩, hlacks⟩⟩
    · refine ⟨hkeeps, Or.inr ⟨⟨[], _, reasons, [_, _, _, _], rfl, ?_, rfl⟩, hlacks⟩⟩
      rcases hexplorations with ⟨_, rfl, -⟩ | ⟨reasons', rfl, -⟩ <;> simp
  · -- without stories there are neither explorations nor skills
    rw [show (Outcome.failure reasons).bindM a.loadExplorations =
      (pure (.failure reasons) : Work Loaded (List Request) _) from rfl, ensures_pure]
    rcases hpages with ⟨_, rfl, pages, rfl, -⟩ | ⟨reasons', rfl, -⟩
    · exact ⟨hkeeps₁, Or.inr ⟨⟨[_], _, reasons, [_, _, _], rfl, by simp, rfl⟩, hlacks⟩⟩
    · exact ⟨hkeeps₁, Or.inr ⟨⟨[], _, reasons', [_, _, _, _], rfl, by simp, rfl⟩, hlacks⟩⟩

/-- **The pack of a topic is put together**, or the topic lacks something. -/
theorem ensures_assemble (hs : store.Faithful) (hc : checker.ByIndex)
    (ha : a.resolver = .ofStore store checker window) (hlimit : a.limit ≠ some 0)
    (hsound : s.cache.Sound (topicFacts store checker)) :
    Ensures (a.assemble t) s
      (fun o rest => KeepsTopics store checker s rest ∧
        Loads t store checker (fun f => ∃ m : Materials store checker t,
          f.toPack = .ok m.pack) o)
      (fun error _ => error.IsExcused) := by
  unfold assemble
  rw [ensures_bind]
  refine (ensures_loadFragments hs hc ha hlimit hsound).mono ?_ (fun _ _ => id)
  rintro outcomes rest ⟨hkeeps, ⟨m, rfl⟩ | ⟨hfails, hlacks⟩⟩
  · obtain ⟨f, hcombine, hpack⟩ := exists_toPack hs m
    refine (ensures_combine hcombine).mono ?_ (fun _ _ hfalse => hfalse.elim)
    rintro _ _ ⟨rfl, rfl⟩
    exact ⟨hkeeps, Or.inl ⟨f, rfl, m, hpack⟩⟩
  · refine (ensures_combine_of_fails hfails).mono ?_ (fun _ _ hfalse => hfalse.elim)
    rintro o _ ⟨rfl, rfl⟩
    exact ⟨hkeeps, Or.inr ⟨_, rfl, hlacks⟩⟩

/-! ### One version of a topic -/

/-- **What an attempt leaves**: the newest version of the topic that is left is acceptable, and its
pack was put together, or it is of no use. -/
def Attempted (store : Store) (checker : Checker) (topicId : String) (bound : Option Nat)
    (o : Outcome TopicPack) (s : Session Loaded (List Request)) : Prop :=
  s.cache.Sound (topicFacts store checker) ∧
    ∃ h, s.cache.history? (.topic topicId) = some h ∧
      (∀ n, bound = some n → h.newest.number ≤ n) ∧
      ((∃ (t : Topic) (m : Materials store checker t), o = .success m.pack ∧
          store.stored? (.topic topicId) h.newest = some (.topic t) ∧
          t.Acceptable store checker) ∨
        ∃ reasons, o = .failure reasons ∧
          (topicFacts store checker).Useless (.topic topicId) h.newest)

/-- The newest version of a topic is looked for. -/
theorem ensures_resolveTopic (hs : store.Faithful) {topicId : String}
    (hsound : s.cache.Sound (topicFacts store checker)) :
    Ensures ((ofStore store checker window).resolve (.topic topicId)) s
      (fun o rest => rest.cache.Sound (topicFacts store checker) ∧ s.cache.Shrinks rest.cache ∧
        ∃ h, rest.cache.history? (.topic topicId) = some h ∧ h.Settled o)
      (fun error _ => error.IsExcused) := by
  have hdecides : ∀ e ∈ [({ id := .topic topicId } : Errand)],
      Decides (topicFacts store checker) store (ofStore store checker window) e := by
    intro e he
    obtain rfl := List.mem_singleton.mp he
    exact fun _ => rfl
  unfold Resolver.resolve
  rw [ensures_bind]
  refine (ensures_resolveAlone hs store.source_answers checker.judge_ne_pending hdecides
    (List.nodup_singleton _) (by simp) 0 hsound).mono ?_ (fun error _ hfetch => Or.inl hfetch)
  rintro outcomes rest ⟨hsound', hshrinks, -, hsettled⟩
  obtain ⟨o, _, ⟨h, hh, -, hsettled'⟩, hnil, rfl⟩ := List.forall₂_cons_left_iff.mp hsettled
  obtain rfl := List.forall₂_nil_left_iff.mp hnil
  exact ⟨hsound', hshrinks, h, hh, hsettled'⟩

/-- **An attempt** gives the pack of the newest version of the topic that is left, if that version
is acceptable. -/
theorem ensures_attempt (hs : store.Faithful) (hc : checker.ByIndex)
    (ha : a.resolver = .ofStore store checker window) (hlimit : a.limit ≠ some 0)
    (topicId : String) (hsound : s.cache.Sound (topicFacts store checker)) :
    Ensures (a.attempt topicId) s
      (Attempted store checker topicId
        ((s.cache.history? (.topic topicId)).map (·.newest.number)))
      (fun error _ => error.IsExcused) := by
  unfold attempt
  rw [ensures_bind, ensures_modify, ensures_bind, ha]
  refine (ensures_resolveTopic (s := { s with attempts := s.attempts + 1 }) hs hsound).mono ?_
    (fun _ _ => id)
  rintro o s₁ ⟨hsound₁, hshrinks, h, hh, hsettled⟩
  have hbound : ∀ n, (s.cache.history? (.topic topicId)).map (·.newest.number) = some n →
      h.newest.number ≤ n := fun n hn => hshrinks.newest_le hh hn
  have hverdict := (hsound₁ _ h hh).verdict_eq hsettled.newest hsettled.ne_pending
  rcases hsettled.last with ⟨l, rfl⟩ | ⟨-, reasons, rfl⟩
  · -- the newest version that is left is compatible, so everything that it needs is looked for
    obtain ⟨l', hl', hjudge⟩ := Option.map_eq_some_iff.mp hverdict
    obtain ⟨hcheck, rfl⟩ := Checker.judge_eq_success_iff.mp hjudge
    obtain ⟨t, rfl, -⟩ := hs.exists_topic hl'
    rw [ensures_bind]
    refine (ensures_assemble hs hc ha hlimit hsound₁).mono ?_ (fun _ _ => id)
    rintro o s₂ ⟨hkeeps, ⟨f, rfl, m, hpack⟩ | ⟨reasons, rfl, hlacks⟩⟩
    · have hh₂ := (hkeeps.topics topicId).trans hh
      show Ensures (Outcome.success <$> ofMisuse f.toPack) s₂ _ _
      rw [hpack]
      exact ⟨hkeeps.sound, h, hh₂, hbound, Or.inl ⟨t, m, rfl, hl', m.acceptable hs hcheck⟩⟩
    · -- it lacks something, so it is of no use
      refine ⟨hkeeps.sound, h, (hkeeps.topics topicId).trans hh, hbound,
        Or.inr ⟨reasons, rfl, ?_⟩⟩
      intro t' ht'
      rw [hl'] at ht'
      obtain rfl := Loaded.topic.inj (Option.some.inj ht')
      exact hlacks.not_acceptable
  · exact ⟨hsound₁, h, hh, hbound, Or.inr ⟨reasons, rfl,
      (topicFacts store checker).useless_of_failure hverdict⟩⟩

/-! ### All versions of a topic -/

/-- **What a run ends with**: the pack of the newest acceptable version of the topic, or a failure
if no version is acceptable. -/
def Ends (store : Store) (checker : Checker) (topicId : String) (o : Outcome TopicPack) : Prop :=
  (∃ (t : Topic) (m : Materials store checker t) (v : Version), o = .success m.pack ∧
      store.stored? (.topic topicId) v = some (.topic t) ∧ t.Acceptable store checker ∧
      ∀ w, v.number < w.number → (topicFacts store checker).Useless (.topic topicId) w) ∨
    ∃ reasons, o = .failure reasons ∧ ∀ v, (topicFacts store checker).Useless (.topic topicId) v

/-- After an attempt the run ends, or the next older version is tried. -/
theorem Attempted.tried {topicId : String} {bound : Option Nat} {o : Outcome TopicPack}
    (h : Attempted store checker topicId bound o s) :
    Tried (fun cache => cache.Sound (topicFacts store checker)) (Ends store checker topicId) topicId
      bound o s := by
  obtain ⟨hsound, h, hh, hbound, ⟨t, m, rfl, hstored, hacceptable⟩ | ⟨reasons, rfl, huseless⟩⟩ := h
  · exact ⟨h, hh, hbound, Or.inl ⟨_, rfl, Or.inl ⟨t, m, h.newest, rfl, hstored, hacceptable,
      (hsound _ h hh).above⟩⟩⟩
  · refine ⟨h, hh, hbound, Or.inr ⟨reasons, rfl, ?_, ?_⟩⟩
    · -- the oldest version is of no use either
      intro hlast
      exact Or.inr ⟨reasons, rfl, (hsound _ h hh).useless_of_oldest hlast huseless⟩
    · -- what is left is sound, because the version that was dropped is of no use
      intro h' hnum hfirst
      exact hsound.withHistory ((hsound _ h hh).drop hnum hfirst huseless)

/-- **A run ends with the pack of the newest acceptable version of the topic**, or with a failure if
no version is acceptable. -/
theorem ensures_run (hs : store.Faithful) (hc : checker.ByIndex)
    (ha : a.resolver = .ofStore store checker window) (hlimit : a.limit ≠ some 0)
    (topicId : String) (hsound : s.cache.Sound (topicFacts store checker)) :
    Ensures (a.run topicId) s (fun o _ => Ends store checker topicId o)
      (fun error _ => error.IsExcused) :=
  ensures_run_of_attempts (fun cache => cache.Sound (topicFacts store checker))
    (fun _ hsound => (ensures_attempt hs hc ha hlimit topicId hsound).mono
      (fun _ _ => Attempted.tried) (fun _ _ => id))
    hsound

end ContentPack.Assembler
