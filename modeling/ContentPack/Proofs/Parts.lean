import ContentPack.Proofs.Errands
import ContentPack.Proofs.Materials

/-!
# How the parts of a pack are resolved

The parts of a pack are resolved in groups: pages and stories, then explorations, then skills.
Each group comes to a success with the materials of the pack, or to a failure if the topic lacks
something (`Loads`). No group touches the history of the topic.
-/

namespace ContentPack

open Work Resolver

variable {store : Store} {checker : Checker} {t : Topic}

/-! ### Between the newest versions and what is found -/

theorem kind_of_newest (hs : store.Faithful) {id : StructureId} {l : Loaded} {t' : Topic}
    (h : t.newest store checker id l) (hl : l = .topic t') : id.kind = .topic := by
  have hkind := congrArg Locator.kind (hs.locator_eq h.stored)
  rw [hl] at hkind
  exact hkind.symm

/-- What is found of a structure that a topic needs is what the topic needs. -/
theorem check_of_closure (hs : store.Faithful) (hc : checker.ByIndex) {id : StructureId}
    (h : Closure (t.newest store checker) t id) (l : Loaded) :
    checker.check (t.declared id) l = checker.check id.bare l :=
  Topic.check_declared hc (h.declares fun hnewest hl => kind_of_newest hs hnewest hl) l

/-- **What a group comes to**: a success with what the topic needs, or a failure if it lacks
something. -/
def Loads (t : Topic) (store : Store) (checker : Checker) {β : Type} (good : β → Prop)
    (o : Outcome β) : Prop :=
  (∃ b, o = .success b ∧ good b) ∨ ∃ reasons, o = .failure reasons ∧ t.Lacks store checker

theorem Loads.mono {β : Type} {good good' : β → Prop} {o : Outcome β}
    (h : Loads t store checker good o) (hgood : ∀ b, good b → good' b) :
    Loads t store checker good' o := by
  rcases h with ⟨b, rfl, hb⟩ | hfailure
  · exact Or.inl ⟨b, rfl, hgood b hb⟩
  · exact Or.inr hfailure

/-- The outcomes of a group of structures that a topic needs. -/
theorem loads_combineAll (hs : store.Faithful) (hc : checker.ByIndex) {ids : List StructureId}
    {outcomes : List (Outcome Loaded)} (hids : ∀ id ∈ ids, Closure (t.newest store checker) t id)
    (h : List.Forall₂ (Finds store checker) ids outcomes) {β : Type} (f : List Loaded → β) :
    Loads t store checker
      (fun b => ∃ loaded, List.Forall₂ (t.newest store checker) ids loaded ∧ b = f loaded)
      (.combineAll outcomes f) := by
  unfold Outcome.combineAll
  rcases finds_flatten h with ⟨loaded, hflatten, hloaded⟩ | ⟨reasons, hflatten, id, hid, hnone⟩
  · rw [hflatten]
    refine Or.inl ⟨f loaded, rfl, loaded, ?_, rfl⟩
    refine ((List.forall₂_and_left _ _).mpr ⟨hids, hloaded⟩).imp ?_
    rintro id l ⟨hid, hnewest⟩
    exact hnewest.congr fun _ l _ => (check_of_closure hs hc hid l).symm
  · rw [hflatten]
    refine Or.inr ⟨reasons, rfl, id, hids id hid, ?_⟩
    exact fun l hl => hnone l (hl.congr fun _ l _ => check_of_closure hs hc (hids id hid) l)

/-- Versions of structures of one kind. -/
theorem exists_typed {κ ν : Type} {id : κ → StructureId} (load : ν → Loaded)
    {keys : List κ} {loaded : List Loaded}
    (hload : ∀ k l, t.newest store checker (id k) l → ∃ v, l = load v)
    (h : List.Forall₂ (t.newest store checker) (keys.map id) loaded) :
    ∃ values, loaded = values.map load ∧
      List.Forall₂ (fun k v => t.newest store checker (id k) (load v)) keys values := by
  rw [List.forall₂_map_left_iff] at h
  exact exists_map_of_forall₂ load hload h

/-! ### Groups of errands -/

namespace Assembler

theorem fits_of_mem_namedErrands {group : Group} {id : String → StructureId} {names : List String}
    (hkind : ∀ name, (id name).kind ≠ .topic) (hbare : ∀ name, (id name).bare = none) {e : Errand}
    (he : e ∈ namedErrands group id names) : Fits checker e := by
  obtain ⟨name, -, hid, hsubtopic⟩ := exists_of_mem_namedErrands he
  exact ⟨by rw [hid]; exact hkind name, fun l => by rw [hsubtopic, hid, hbare]⟩

variable {a : Assembler (List Request)} {window : Int} {s : Session Loaded (List Request)}

/-- What a topic declares is checked by its index. -/
theorem check_of_mem_subtopicTable (hc : checker.ByIndex) {entry : Int × Subtopic}
    (hentry : entry ∈ t.subtopicTable) (l : Loaded) :
    checker.check (some entry.2) l =
      checker.check (StructureId.bare (.subtopic t.id entry.1)) l := by
  have hget : t.subtopicTable.get? entry.1 = some entry.2 :=
    (Table.get?_eq_some_iff (Table.nodup_keys_ofEntries _)).mpr hentry
  exact hc.check_eq (Topic.id_of_declared hget) l

theorem fits_of_mem_pageErrands (hc : checker.ByIndex) {e : Errand} (he : e ∈ pageErrands t) :
    Fits checker e := by
  obtain ⟨index, declared, hmem, hid, hsubtopic⟩ := exists_of_mem_pageErrands he
  refine ⟨by rw [hid]; simp [StructureId.kind], fun l => ?_⟩
  rw [hsubtopic, hid]
  exact check_of_mem_subtopicTable hc hmem l

theorem filterMap_zip_page {indexes : List Int} (pages : List SubtopicPage) :
    (indexes.zip (pages.map Loaded.page)).filterMap
      (fun (index, l) => l.page?.map (index, ·)) = indexes.zip pages := by
  induction indexes generalizing pages with
  | nil => rfl
  | cons index indexes ih =>
    cases pages with
    | nil => rfl
    | cons page pages =>
      rw [List.map_cons, List.zip_cons_cons, List.filterMap_cons, ih]
      rfl

/-- **Pages and stories** are resolved together. -/
theorem ensures_loadPagesAndStories (hs : store.Faithful) (hc : checker.ByIndex)
    (ha : a.resolver = .ofStore store checker window) (hlimit : a.limit ≠ some 0)
    (hsound : s.cache.Sound (topicFacts store checker)) :
    Ensures (a.loadPagesAndStories t) s
      (fun o rest => KeepsTopics store checker s rest ∧
        Loads t store checker (fun f => ∃ pages,
          f = Fragment.ofPages (t.subtopicTable.keys.zip pages) ∧
          List.Forall₂ (fun index p => t.newest store checker (.subtopic t.id index) (.page p))
            t.subtopicTable.keys pages) o.1 ∧
        Loads t store checker (fun f => ∃ stories, f = Fragment.ofStories stories ∧
          List.Forall₂ (fun name story => t.newest store checker (.story name) (.story story))
            t.storyIds stories) o.2)
      (fun error _ => error.IsExcused) := by
  let pages := pageErrands t
  let stories := namedErrands .story .story t.storyIds
  have hids : (pages ++ stories).map (·.id) =
      t.subtopicTable.keys.map (.subtopic t.id) ++ t.storyIds.map .story := by
    rw [List.map_append, map_id_pageErrands, map_id_namedErrands]
  have hnodup : ((pages ++ stories).map (·.id)).Nodup := nodup_pageErrands_storyErrands t
  have hfits : ∀ e ∈ pages ++ stories, Fits checker e := by
    intro e he
    rcases List.mem_append.mp he with he | he
    · exact fits_of_mem_pageErrands hc he
    · exact fits_of_mem_namedErrands (by simp [StructureId.kind]) (fun _ => rfl) he
  unfold loadPagesAndStories
  rw [ensures_bind, ensures_report, ensures_bind, ensures_report, ensures_bind, ha]
  refine (ensures_find hs hfits hnodup hlimit 2 (by exact hsound)).mono ?_
    (fun error _ hfetch => Or.inl hfetch)
  rintro outcomes rest ⟨hkeeps, hfinds⟩
  rw [hids] at hfinds
  -- the first outcomes are those of the pages
  have hlength : pages.length =
      (t.subtopicTable.keys.map (StructureId.subtopic t.id)).length := by
    rw [← map_id_pageErrands, List.length_map]
  have hpages := List.forall₂_take pages.length hfinds
  have hstories := List.forall₂_drop pages.length hfinds
  rw [List.take_left' hlength.symm] at hpages
  rw [List.drop_left' hlength.symm] at hstories
  refine ⟨⟨hkeeps.sound, hkeeps.topics⟩, ?_, ?_⟩
  · refine (loads_combineAll hs hc ?_ hpages _).mono ?_
    · intro id hid
      exact .direct (List.mem_append_left _ (List.mem_append_left _ hid))
    · rintro f ⟨loaded, hloaded, rfl⟩
      obtain ⟨pages, rfl, hpages'⟩ := exists_typed Loaded.page
        (fun index l h => hs.exists_page h.stored) hloaded
      refine ⟨pages, ?_, hpages'⟩
      unfold pagesFragment
      rw [filterMap_zip_page]
  · refine (loads_combineAll hs hc ?_ hstories _).mono ?_
    · intro id hid
      exact .direct (List.mem_append_left _ (List.mem_append_right _ hid))
    · rintro f ⟨loaded, hloaded, rfl⟩
      obtain ⟨stories, rfl, hstories'⟩ := exists_typed Loaded.story
        (fun name l h => by
          obtain ⟨story, hstory, -⟩ := hs.exists_story h.stored
          exact ⟨story, hstory⟩) hloaded
      refine ⟨stories, ?_, hstories'⟩
      rw [List.filterMap_map]
      exact congrArg Fragment.ofStories (List.filterMap_some ..)

/-- Of stories under different identifiers, none is lost in a fragment. -/
theorem explorationIds_ofStories {stories : List Story} (hnodup : (stories.map (·.id)).Nodup) :
    explorationIds (.ofStories stories) = storyExplorationIds stories := by
  unfold explorationIds Fragment.ofStories
  rw [Option.getD_some, Table.ofEntries_map_of_nodup hnodup]
  unfold Table.values
  rw [List.map_map]
  unfold storyExplorationIds
  congr 2
  exact List.map_id stories

/-- **Explorations** are resolved once the stories are there. -/
theorem ensures_loadExplorations (hs : store.Faithful) (hc : checker.ByIndex)
    (ha : a.resolver = .ofStore store checker window) (hlimit : a.limit ≠ some 0)
    (hsound : s.cache.Sound (topicFacts store checker)) {stories : List Story}
    (hstories : List.Forall₂ (fun name story =>
      t.newest store checker (.story name) (.story story)) t.storyIds stories) :
    Ensures (a.loadExplorations (.ofStories stories)) s
      (fun o rest => KeepsTopics store checker s rest ∧
        Loads t store checker (fun f => ∃ explorations, f = Fragment.ofExplorations explorations ∧
          List.Forall₂ (fun name e => t.newest store checker (.exploration name) (.exploration e))
            (storyExplorationIds stories) explorations) o)
      (fun error _ => error.IsExcused) := by
  have hvalues : explorationIds (.ofStories stories) = storyExplorationIds stories :=
    explorationIds_ofStories (Materials.map_story_id hs hstories ▸ nodup_eraseDups _)
  let explorations := namedErrands .exploration .exploration (storyExplorationIds stories)
  have hids : explorations.map (·.id) = (storyExplorationIds stories).map .exploration :=
    map_id_namedErrands ..
  have hnodup := nodup_explorationErrands (.ofStories stories)
  rw [hvalues] at hnodup
  have hfits : ∀ e ∈ explorations, Fits checker e := fun e he =>
    fits_of_mem_namedErrands (by simp [StructureId.kind]) (fun _ => rfl) he
  unfold loadExplorations
  rw [ensures_bind, ensures_report, ensures_bind, ha, hvalues]
  refine (ensures_find hs hfits hnodup hlimit 1 (by exact hsound)).mono ?_
    (fun error _ hfetch => Or.inl hfetch)
  rintro outcomes rest ⟨hkeeps, hfinds⟩
  rw [hids] at hfinds
  refine ⟨⟨hkeeps.sound, hkeeps.topics⟩, (loads_combineAll hs hc ?_ hfinds _).mono ?_⟩
  · -- an exploration is needed because a story of the pack names it
    intro id hid
    obtain ⟨name, hname, rfl⟩ := List.mem_map.mp hid
    obtain ⟨story, hstory, hname⟩ := List.mem_flatMap.mp (List.mem_eraseDups.mp hname)
    obtain ⟨storyId, hstoryId, hnewest⟩ := exists_left_of_forall₂ hstories hstory
    refine .step (.direct ?_) hnewest ?_
    · refine List.mem_append_left _ (List.mem_append_right _ ?_)
      exact List.mem_map.mpr ⟨storyId, hstoryId, rfl⟩
    · exact List.mem_append_left _ (List.mem_map.mpr ⟨name, hname, rfl⟩)
  · rintro f ⟨loaded, hloaded, rfl⟩
    obtain ⟨explorations, rfl, hexplorations⟩ := exists_typed Loaded.exploration
      (fun name l h => by
        obtain ⟨e, he, -⟩ := hs.exists_exploration h.stored
        exact ⟨e, he⟩) hloaded
    refine ⟨explorations, ?_, hexplorations⟩
    rw [List.filterMap_map]
    exact congrArg Fragment.ofExplorations (List.filterMap_some ..)

end Assembler

end ContentPack
