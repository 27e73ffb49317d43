import ContentPack.Assembly
import ContentPack.Proofs.SkillClosure

/-!
# What a pack is made of

The materials of a pack are the newest compatible versions of everything that its topic needs, in
the order in which they are referred to (`Materials`). They are determined by the version of the
topic (`Materials.unique`), and they cover its closure (`Materials.acceptable`).
-/

namespace ContentPack

variable {store : Store} {checker : Checker} {t : Topic}

/-- The explorations of stories, each once. -/
def storyExplorationIds (stories : List Story) : List String :=
  (stories.flatMap Story.explorationIds).eraseDups

/-- The skills that a topic and its pages, stories and explorations refer to. -/
def skillSeeds (t : Topic) (pages : List SubtopicPage) (stories : List Story)
    (explorations : List CompleteExploration) : List String :=
  (.topic t :: pages.map Loaded.page ++ stories.map Loaded.story ++
    explorations.map Loaded.exploration).flatMap Loaded.skillIds

/-- **The materials of a pack**: the newest compatible versions of everything that a topic needs. -/
structure Materials (store : Store) (checker : Checker) (t : Topic) where
  /-- The pages. -/
  pages : List SubtopicPage
  /-- The stories. -/
  stories : List Story
  /-- The explorations. -/
  explorations : List CompleteExploration
  /-- The skills. -/
  skills : List Skill
  /-- There is a page for every declared subtopic. -/
  pages_newest : List.Forall₂ (fun index p =>
    t.newest store checker (.subtopic t.id index) (.page p)) t.subtopicTable.keys pages
  /-- There are the stories that the topic names. -/
  stories_newest : List.Forall₂ (fun name s => t.newest store checker (.story name) (.story s))
    t.storyIds stories
  /-- There are the explorations that the stories name. -/
  explorations_newest : List.Forall₂ (fun name e =>
    t.newest store checker (.exploration name) (.exploration e))
    (storyExplorationIds stories) explorations
  /-- There is the closure of the skills that any of these refers to. -/
  skills_newest : SkillClosure.Reaches (SkillClosure.newestSkill store checker)
    (skillSeeds t pages stories explorations).eraseDups (skills.map .skill)

namespace Materials

/-- The pack that is put together. -/
def pack (m : Materials store checker t) : TopicPack where
  topic := t
  subtopicPages := t.subtopicTable.keys.zip m.pages
  stories := m.stories.map fun s => (s.id, s)
  explorations := m.explorations.map fun e => (e.id, e)
  skills := m.skills.map fun s => (s.id, s)
  defaultLanguage := .ofCode t.languageCode

section Sections

variable (m : Materials store checker t)

theorem pack_topic : m.pack.topic = t := by
  unfold pack
  rfl

theorem pack_defaultLanguage : m.pack.defaultLanguage = .ofCode t.languageCode := by
  simp only [pack]

theorem keys_pages : m.pack.subtopicPages.keys = t.subtopicTable.keys :=
  List.map_fst_zip (Nat.le_of_eq m.pages_newest.length_eq)

theorem values_pages : m.pack.subtopicPages.values = m.pages :=
  List.map_snd_zip (Nat.le_of_eq m.pages_newest.length_eq.symm)

theorem keys_stories : m.pack.stories.keys = m.stories.map (·.id) := by
  unfold pack Table.keys
  rw [List.map_map]
  rfl

theorem values_stories : m.pack.stories.values = m.stories := by
  unfold pack Table.values
  rw [List.map_map]
  exact List.map_id m.stories

theorem keys_explorations : m.pack.explorations.keys = m.explorations.map (·.id) := by
  unfold pack Table.keys
  rw [List.map_map]
  rfl

theorem values_explorations : m.pack.explorations.values = m.explorations := by
  unfold pack Table.values
  rw [List.map_map]
  exact List.map_id m.explorations

theorem keys_skills : m.pack.skills.keys = m.skills.map (·.id) := by
  unfold pack Table.keys
  rw [List.map_map]
  rfl

end Sections

theorem rightUnique_newest {κ ν : Type} (id : κ → StructureId) {load : ν → Loaded}
    (hload : ∀ {v v'}, load v = load v' → v = v') :
    Relator.RightUnique fun k v => t.newest store checker (id k) (load v) :=
  fun _ _ _ h h' => hload (Store.Newest.unique h h')

/-- **The version of the topic determines the pack.** -/
theorem unique (m m' : Materials store checker t) : m.pack = m'.pack := by
  obtain ⟨pages, stories, explorations, skills, hpages, hstories, hexplorations, hskills⟩ := m
  obtain ⟨pages', stories', explorations', skills', hpages', hstories', hexplorations',
    hskills'⟩ := m'
  obtain rfl : pages = pages' :=
    List.right_unique_forall₂' (rightUnique_newest _ Loaded.page.inj) hpages hpages'
  obtain rfl : stories = stories' :=
    List.right_unique_forall₂' (rightUnique_newest _ Loaded.story.inj) hstories hstories'
  obtain rfl : explorations = explorations' :=
    List.right_unique_forall₂' (rightUnique_newest _ Loaded.exploration.inj) hexplorations
      hexplorations'
  have hmap := hskills.unique SkillClosure.newestSkill_unique hskills'
  obtain rfl : skills = skills' :=
    List.map_injective_iff.mpr (fun _ _ => Loaded.skill.inj) hmap
  rfl

/-! ### Everything is kept under its own identifier -/

section Ids

variable (hs : store.Faithful)

include hs

/-- Versions that are stored under names bear these names. -/
theorem map_name_eq {ν : Type} (id : String → StructureId) (load : ν → Loaded)
    (nameOf : ν → String)
    (hname : ∀ v name, (load v).id = id name → nameOf v = name) {names : List String}
    {values : List ν}
    (h : List.Forall₂ (fun name v => store.stored? (id name) (load v).version = some (load v))
      names values) : values.map nameOf = names := by
  induction h with
  | nil => rfl
  | cons hstored _ ih =>
    rw [List.map_cons, ih, hname _ _ (hs.id_eq hstored)]

theorem map_story_id {names : List String} {stories : List Story}
    (h : List.Forall₂ (fun name s => t.newest store checker (.story name) (.story s)) names
      stories) : stories.map (·.id) = names :=
  map_name_eq hs .story .story (·.id)
    (fun _ _ heq => StructureId.story.inj heq) (h.imp fun _ _ hnewest => hnewest.stored)

theorem map_exploration_id {names : List String} {explorations : List CompleteExploration}
    (h : List.Forall₂ (fun name e => t.newest store checker (.exploration name) (.exploration e))
      names explorations) : explorations.map (·.id) = names :=
  map_name_eq hs .exploration .exploration (·.id)
    (fun _ _ heq => StructureId.exploration.inj heq) (h.imp fun _ _ hnewest => hnewest.stored)

theorem map_skill_id {names : List String} {skills : List Skill}
    (h : List.Forall₂ (SkillClosure.newestSkill store checker) names (skills.map .skill)) :
    skills.map (·.id) = names := by
  rw [List.forall₂_map_right_iff] at h
  exact map_name_eq hs .skill .skill (·.id)
    (fun _ _ heq => StructureId.skill.inj heq) (h.imp fun _ _ hnewest => hnewest.stored)

/-- The stories of a pack are kept under their own identifiers. -/
theorem newest_of_mem_stories (m : Materials store checker t) {story : Story}
    (h : story ∈ m.stories) : t.newest store checker (.story story.id) (.story story) := by
  have hnewest := m.stories_newest
  rw [← map_story_id hs hnewest, List.forall₂_map_left_iff, List.forall₂_same] at hnewest
  exact hnewest story h

theorem newest_of_mem_explorations (m : Materials store checker t) {e : CompleteExploration}
    (h : e ∈ m.explorations) : t.newest store checker (.exploration e.id) (.exploration e) := by
  have hnewest := m.explorations_newest
  rw [← map_exploration_id hs hnewest, List.forall₂_map_left_iff, List.forall₂_same] at hnewest
  exact hnewest e h

/-- The skills of a pack are the least closure. -/
theorem exists_skill_ids (m : Materials store checker t) :
    (m.skills.map (·.id)).Nodup ∧
      List.Forall₂ (SkillClosure.newestSkill store checker) (m.skills.map (·.id))
        (m.skills.map .skill) ∧
      ∀ name, name ∈ m.skills.map (·.id) ↔
        SkillClosure.Needs (SkillClosure.newestSkill store checker)
          (skillSeeds t m.pages m.stories m.explorations) name := by
  obtain ⟨final, hnodup, hnewest, hneeds⟩ :=
    m.skills_newest.exists_ids SkillClosure.newestSkill_unique (nodup_eraseDups _)
      (fun name (hname : name ∈ skillSeeds t m.pages m.stories m.explorations) =>
        List.mem_eraseDups.mpr hname)
      (fun name hname => .seed (List.mem_eraseDups.mp hname))
  rw [map_skill_id hs hnewest]
  exact ⟨hnodup, hnewest, hneeds⟩

theorem newest_of_mem_skills (m : Materials store checker t) {skill : Skill}
    (h : skill ∈ m.skills) : t.newest store checker (.skill skill.id) (.skill skill) := by
  obtain ⟨-, hnewest, -⟩ := m.exists_skill_ids hs
  rw [List.forall₂_map_left_iff, List.forall₂_map_right_iff, List.forall₂_same] at hnewest
  exact hnewest skill h

/-! ### The closure of the topic -/

/-- What a pack is for. -/
def Has (m : Materials store checker t) : StructureId → Prop
  | .topic _ => False
  | .subtopic topicId index => topicId = t.id ∧ index ∈ t.subtopicTable.keys
  | .story name => name ∈ t.storyIds
  | .exploration name => name ∈ storyExplorationIds m.stories
  | .skill name => name ∈ m.skills.map (·.id)

/-- What a pack holds, apart from its topic. -/
def parts (m : Materials store checker t) : List Loaded :=
  m.pages.map .page ++ m.stories.map .story ++ m.explorations.map .exploration ++
    m.skills.map .skill

theorem exists_newest (m : Materials store checker t) {id : StructureId} (h : m.Has id) :
    ∃ l ∈ m.parts, t.newest store checker id l := by
  unfold parts
  cases id with
  | topic name => exact h.elim
  | subtopic topicId index =>
    obtain ⟨rfl, hindex⟩ := h
    obtain ⟨p, hp, hnewest⟩ := exists_right_of_forall₂ m.pages_newest hindex
    exact ⟨.page p, by simp [hp], hnewest⟩
  | story name =>
    obtain ⟨s, hmem, hnewest⟩ := exists_right_of_forall₂ m.stories_newest h
    exact ⟨.story s, by simp [hmem], hnewest⟩
  | exploration name =>
    obtain ⟨e, he, hnewest⟩ := exists_right_of_forall₂ m.explorations_newest h
    exact ⟨.exploration e, by simp [he], hnewest⟩
  | skill name =>
    obtain ⟨-, hnewest, -⟩ := m.exists_skill_ids hs
    obtain ⟨l, hl, hnewest⟩ := exists_right_of_forall₂ hnewest h
    exact ⟨l, List.mem_append_right _ hl, hnewest⟩

/-- The skills that anything in a pack refers to are in the pack. -/
theorem has_skill (m : Materials store checker t) {l : Loaded}
    (hl : l = .topic t ∨ l ∈ m.parts) {name : String} (hname : name ∈ l.skillIds) :
    m.Has (.skill name) := by
  obtain ⟨-, hnewest, hneeds⟩ := m.exists_skill_ids hs
  refine (hneeds name).mpr ?_
  -- it is a structure that the closure of skills starts from, or a skill of the closure
  have hcase : l ∈ .topic t :: m.pages.map Loaded.page ++ m.stories.map Loaded.story ++
      m.explorations.map Loaded.exploration ∨ l ∈ m.skills.map Loaded.skill := by
    rcases hl with rfl | hl
    · exact Or.inl (by simp)
    · unfold parts at hl
      rcases List.mem_append.mp hl with hl | hl
      · exact Or.inl (List.mem_cons_of_mem _ hl)
      · exact Or.inr hl
  rcases hcase with hseed | hskill
  · exact .seed (List.mem_flatMap.mpr ⟨l, hseed, hname⟩)
  · obtain ⟨other, hother, hl'⟩ := exists_left_of_forall₂ hnewest hskill
    exact .step ((hneeds other).mp hother) hl' hname

/-- **A pack is for everything that its topic needs.** -/
theorem has_of_closure (m : Materials store checker t) {id : StructureId}
    (h : Closure (t.newest store checker) t id) : m.Has id := by
  induction h with
  | @direct id hid =>
    unfold Loaded.references at hid
    simp only [List.mem_append, List.mem_map] at hid
    rcases hid with (⟨index, hindex, rfl⟩ | ⟨name, hname, rfl⟩) | ⟨name, hname, rfl⟩
    · exact ⟨rfl, hindex⟩
    · exact hname
    · exact m.has_skill hs (Or.inl rfl) hname
  | @step id other l _ hl hother ih =>
    -- the version of a member that is followed is the one in the pack
    obtain ⟨l', hmem, hnewest⟩ := m.exists_newest hs ih
    obtain rfl := Store.Newest.unique hl hnewest
    unfold Loaded.references at hother
    rw [List.mem_append] at hother
    rcases hother with hother | hother
    · cases l with
      | topic t' => simp [parts] at hmem
      | story s =>
        obtain ⟨name, hname, rfl⟩ := List.mem_map.mp hother
        have hstory : s ∈ m.stories := by simpa [parts] using hmem
        exact List.mem_eraseDups.mpr (List.mem_flatMap.mpr ⟨s, hstory, hname⟩)
      | page p => cases hother
      | exploration e => cases hother
      | skill s => cases hother
    · obtain ⟨name, hname, rfl⟩ := List.mem_map.mp hother
      exact m.has_skill hs (Or.inr hmem) hname

/-- **A compatible topic that there are materials for is acceptable.** -/
theorem acceptable (m : Materials store checker t) (ht : checker.topic t = .compatible) :
    t.Acceptable store checker where
  accepted := ht
  closed id hid := by
    obtain ⟨l, -, hnewest⟩ := m.exists_newest hs (m.has_of_closure hs hid)
    exact ⟨l, hnewest.toCompatible⟩

end Ids

end Materials

/-! ### What a topic lacks -/

/-- Something that the topic needs has no compatible version. -/
def Topic.Lacks (t : Topic) (store : Store) (checker : Checker) : Prop :=
  ∃ id, Closure (t.newest store checker) t id ∧
    ∀ l, ¬store.Compatible checker (t.declared id) id l

/-- A compatible topic that is not acceptable lacks something. -/
theorem Topic.lacks_of_not_acceptable (ht : checker.topic t = .compatible)
    (h : ¬t.Acceptable store checker) : t.Lacks store checker := by
  unfold Topic.Lacks
  by_contra hnone
  push Not at hnone
  exact h ⟨ht, hnone⟩

theorem Topic.Lacks.not_acceptable (h : t.Lacks store checker) : ¬t.Acceptable store checker := by
  intro hacceptable
  obtain ⟨id, hid, hnone⟩ := h
  obtain ⟨l, hl⟩ := hacceptable.closed id hid
  exact hnone l hl

/-- A skill that is lacked is lacked by a topic that needs all of the skills it comes from. -/
theorem SkillClosure.LacksSkill.lacks {seeds : List String}
    (h : SkillClosure.LacksSkill store checker seeds)
    (hseeds : ∀ name ∈ seeds, Closure (t.newest store checker) t (.skill name)) :
    t.Lacks store checker := by
  obtain ⟨name, hneeds, hnone⟩ := h
  refine ⟨.skill name, ?_, hnone⟩
  clear hnone
  induction hneeds with
  | seed hname => exact hseeds _ hname
  | step _ hl hother ih =>
    refine .step ih hl ?_
    exact List.mem_append_right _ (List.mem_map.mpr ⟨_, hother, rfl⟩)

end ContentPack
