import ContentPack.Proofs.Attempt
import ContentPack.Proofs.Sections

/-!
# Reports on the parts of a topic

The report on the parts of a topic has the reasons against every part that cannot be used: the
pages, the stories, the explorations once all stories are there, and the skills once everything
else is there (`Topic.Report`). A failed attempt repeats the reasons of earlier parts in the place
of later ones that were not looked for; each once, its reasons are those of the report
(`Regime.Gathers.exists_report`).
-/

namespace ContentPack

/-! ### Reports -/

/-- **The report on the parts of a topic**, given what every structure comes to. -/
structure Topic.Report (t : Topic) (comesTo : StructureId → Outcome Loaded → Prop) where
  /-- The pages, in the order of the subtopics. -/
  pages : List (Outcome Loaded)
  /-- The stories, in the order in which the topic names them. -/
  stories : List (Outcome Loaded)
  /-- The explorations, in the order in which the stories name them. -/
  explorations : List (Outcome Loaded)
  /-- The closure of the skills. -/
  skills : Outcome (List Loaded)
  /-- There is an outcome for every declared subtopic. -/
  pages_comesTo : List.Forall₂ (fun index o => comesTo (.subtopic t.id index) o)
    t.subtopicTable.keys pages
  /-- There is one for every story. -/
  stories_comesTo : List.Forall₂ (fun name o => comesTo (.story name) o) t.storyIds stories
  /-- Once all stories are there, there is one for every exploration that they name. -/
  explorations_comesTo : ∀ loaded : List Story,
    stories = (loaded.map Loaded.story).map .success →
    List.Forall₂ (fun name o => comesTo (.exploration name) o) (storyExplorationIds loaded)
      explorations
  /-- Else the explorations are not looked for. -/
  explorations_nil : (∃ reasons, .failure reasons ∈ stories) → explorations = []
  /-- Once everything else is there, there are the rounds of the closure of skills. -/
  skills_comesTo : ∀ (p : List SubtopicPage) (s : List Story) (e : List CompleteExploration),
    pages = (p.map Loaded.page).map .success → stories = (s.map Loaded.story).map .success →
    explorations = (e.map Loaded.exploration).map .success →
    SkillClosure.Rounds (fun name => comesTo (.skill name)) (skillSeeds t p s e).eraseDups skills
  /-- Else the skills are not looked for. -/
  skills_pending : (∃ reasons, .failure reasons ∈ pages ++ stories ++ explorations) →
    skills = .pending

namespace Topic.Report

variable {t : Topic} {comesTo comesTo' : StructureId → Outcome Loaded → Prop}

/-- **The reasons in a report**, each once: of the pages, the stories, the explorations and the
skills. -/
def reasons (report : t.Report comesTo) : List Rejection :=
  (report.pages.flatMap Outcome.reasons ++ report.stories.flatMap Outcome.reasons ++
    report.explorations.flatMap Outcome.reasons ++ report.skills.reasons).eraseDups

end Topic.Report

theorem SkillClosure.Rounds.mono {comesTo comesTo' : String → Outcome Loaded → Prop}
    (hcomesTo : ∀ name o, comesTo name o → comesTo' name o) {ids : List String}
    {o : Outcome (List Loaded)} (h : Rounds comesTo ids o) : Rounds comesTo' ids o := by
  induction h with
  | closed hskills hsame => exact .closed (hskills.imp fun _ _ => hcomesTo _ _) hsame
  | fails houtcomes hflatten => exact .fails (houtcomes.imp hcomesTo) hflatten
  | grows hskills hmore _ ih => exact .grows (hskills.imp fun _ _ => hcomesTo _ _) hmore ih

namespace Topic.Report

variable {t : Topic} {comesTo comesTo' : StructureId → Outcome Loaded → Prop}

/-- A report is one on whatever the parts of the topic come to. -/
def map (report : t.Report comesTo)
    (hcomesTo : ∀ id o, t.Declares id → id.kind ≠ .topic → comesTo id o → comesTo' id o) :
    t.Report comesTo' where
  pages := report.pages
  stories := report.stories
  explorations := report.explorations
  skills := report.skills
  pages_comesTo := by
    refine List.forall₂_iff_zip.mpr ⟨report.pages_comesTo.length_eq, fun hzip => ?_⟩
    exact hcomesTo _ _ ⟨rfl, (List.of_mem_zip hzip).1⟩ (by simp [StructureId.kind])
      (List.forall₂_zip report.pages_comesTo hzip)
  stories_comesTo := report.stories_comesTo.imp fun name o =>
    hcomesTo (.story name) o trivial (by simp [StructureId.kind])
  explorations_comesTo loaded hloaded :=
    (report.explorations_comesTo loaded hloaded).imp fun name o =>
      hcomesTo (.exploration name) o trivial (by simp [StructureId.kind])
  explorations_nil := report.explorations_nil
  skills_comesTo p s e hp hs he :=
    (report.skills_comesTo p s e hp hs he).mono fun name o =>
      hcomesTo (.skill name) o trivial (by simp [StructureId.kind])
  skills_pending := report.skills_pending

theorem reasons_map (report : t.Report comesTo)
    (hcomesTo : ∀ id o, t.Declares id → id.kind ≠ .topic → comesTo id o → comesTo' id o) :
    (report.map hcomesTo).reasons = report.reasons := by
  simp only [reasons, map]

end Topic.Report

/-! ### What an attempt reports -/

open Assembler

variable {σ : Type}

/-- What structures come to is of their kinds, and apart from pages it bears their names. -/
def IsTyped (comesTo : StructureId → Outcome Loaded → Prop) : Prop :=
  ∀ id l, comesTo id (.success l) → l.id.kind = id.kind ∧ (id.kind ≠ .subtopic → l.id = id)

section Typed

variable {comesTo : StructureId → Outcome Loaded → Prop} (htyped : IsTyped comesTo)

include htyped

theorem IsTyped.exists_pages {topicId : String} {indexes : List Int} {loaded : List Loaded}
    (h : List.Forall₂ (fun index o => comesTo (.subtopic topicId index) o) indexes
      (loaded.map .success)) : ∃ pages : List SubtopicPage, loaded = pages.map .page := by
  rw [List.forall₂_map_right_iff] at h
  obtain ⟨pages, rfl, -⟩ := exists_map_of_forall₂ Loaded.page (fun index l hl => by
    have hkind := (htyped _ l hl).1
    cases l <;> simp only [Loaded.id, StructureId.kind, reduceCtorEq] at hkind
    exact ⟨_, rfl⟩) h
  exact ⟨pages, rfl⟩

theorem IsTyped.exists_named {ν : Type} {id : String → StructureId} (load : ν → Loaded)
    (nameOf : ν → String) (hkind : ∀ name, (id name).kind ≠ .subtopic)
    (hload : ∀ name l, l.id = id name → ∃ v, l = load v)
    (hname : ∀ name v, (load v).id = id name → nameOf v = name) {names : List String}
    {loaded : List Loaded}
    (h : List.Forall₂ (fun name o => comesTo (id name) o) names (loaded.map .success)) :
    ∃ values : List ν, loaded = values.map load ∧ values.map nameOf = names := by
  rw [List.forall₂_map_right_iff] at h
  have hids : List.Forall₂ (fun name (l : Loaded) => l.id = id name) names loaded :=
    h.imp fun name l hl => (htyped _ l hl).2 (hkind name)
  obtain ⟨values, rfl, hvalues⟩ := exists_map_of_forall₂ load hload hids
  refine ⟨values, rfl, ?_⟩
  have hnames : List.Forall₂ (fun name v => nameOf v = name) names values := hvalues.imp hname
  rw [← List.forall₂_eq_eq_eq, List.forall₂_map_left_iff]
  exact hnames.flip

theorem IsTyped.exists_stories {names : List String} {loaded : List Loaded}
    (h : List.Forall₂ (fun name o => comesTo (.story name) o) names (loaded.map .success)) :
    ∃ stories : List Story, loaded = stories.map .story ∧ stories.map (·.id) = names := by
  refine htyped.exists_named Loaded.story (·.id) (by simp [StructureId.kind]) ?_
    (fun _ _ hid => StructureId.story.inj hid) h
  intro name l hid
  cases l <;> simp only [Loaded.id, reduceCtorEq] at hid
  exact ⟨_, rfl⟩

theorem IsTyped.exists_explorations {names : List String} {loaded : List Loaded}
    (h : List.Forall₂ (fun name o => comesTo (.exploration name) o) names
      (loaded.map .success)) :
    ∃ explorations : List CompleteExploration, loaded = explorations.map .exploration ∧
      explorations.map (·.id) = names := by
  refine htyped.exists_named Loaded.exploration (·.id) (by simp [StructureId.kind]) ?_
    (fun _ _ hid => StructureId.exploration.inj hid) h
  intro name l hid
  cases l <;> simp only [Loaded.id, reduceCtorEq] at hid
  exact ⟨_, rfl⟩

end Typed

/-! ### Failures among outcomes -/

namespace Outcome

variable {α β γ : Type} {outcomes : List (Outcome α)} {f : List α → β}

theorem exists_of_combineAll_success {b : β} (h : combineAll outcomes f = .success b) :
    ∃ values, outcomes = values.map .success ∧ b = f values := by
  unfold combineAll at h
  cases hflatten : flatten outcomes with
  | success values =>
    rw [hflatten] at h
    exact ⟨values, flatten_eq_success_iff.mp hflatten, (Outcome.success.inj h).symm⟩
  | _ =>
    rw [hflatten] at h
    cases h

theorem exists_of_combineAll_failure {reasons : List Rejection}
    (h : combineAll outcomes f = .failure reasons) : ∃ part, .failure part ∈ outcomes := by
  unfold combineAll at h
  cases hflatten : flatten outcomes with
  | failure reasons => exact exists_failure_of_flatten hflatten
  | _ =>
    rw [hflatten] at h
    cases h

theorem flatMap_reasons_map_success (values : List α) :
    (values.map success).flatMap reasons = [] :=
  List.flatMap_eq_nil_iff.mpr fun o ho => by
    obtain ⟨_, -, rfl⟩ := List.mem_map.mp ho
    rfl

theorem failure_notMem_map_success (values : List α) :
    ¬∃ reasons, .failure reasons ∈ values.map success := by
  rintro ⟨reasons, hmem⟩
  obtain ⟨item, -, heq⟩ := List.mem_map.mp hmem
  cases heq

/-- What was gone on with was a success, or else its reasons stand for what would have come. -/
theorem Continues.cases {step : α → Outcome γ → Prop} {o : Outcome α} {o' : Outcome γ}
    (h : o.Continues step o') : (∃ value, o = .success value ∧ step value o') ∨
      (∃ reasons, o = .failure reasons) ∧ o'.reasons = o.reasons := by
  cases h with
  | success h => exact Or.inl ⟨_, rfl, h⟩
  | failure => exact Or.inr ⟨⟨_, rfl⟩, rfl⟩

end Outcome

/-! ### The fragments of typed structures -/

theorem storiesFragment_map (stories : List Story) :
    storiesFragment (stories.map .story) = .ofStories stories := by
  unfold storiesFragment
  rw [List.filterMap_map]
  exact congrArg Fragment.ofStories (List.filterMap_some ..)

theorem explorationsFragment_map (explorations : List CompleteExploration) :
    explorationsFragment (explorations.map .exploration) = .ofExplorations explorations := by
  unfold explorationsFragment
  rw [List.filterMap_map]
  exact congrArg Fragment.ofExplorations (List.filterMap_some ..)

/-- Nothing is lost when structures are put into fragments. -/
theorem skillIds_of_fragments {t : Topic} {p : List SubtopicPage} {s : List Story}
    {e : List CompleteExploration} (hlength : t.subtopicTable.keys.length = p.length)
    (hstories : (s.map (·.id)).Nodup) (hexplorations : (e.map (·.id)).Nodup) :
    (.topic t :: structures (pagesFragment t.subtopicTable.keys (p.map .page)) ++
        structures (storiesFragment (s.map .story)) ++
        structures (explorationsFragment (e.map .exploration))).flatMap Loaded.skillIds =
      skillSeeds t p s e := by
  have hpages : pagesFragment t.subtopicTable.keys (p.map .page) =
      .ofPages (t.subtopicTable.keys.zip p) := by
    unfold pagesFragment
    rw [filterMap_zip_page]
  have hkeys : t.subtopicTable.keys.Nodup := Table.nodup_keys_ofEntries _
  rw [hpages, structures_ofPages hlength hkeys, storiesFragment_map,
    structures_ofStories hstories, explorationsFragment_map,
    structures_ofExplorations hexplorations]
  rfl

namespace Regime

variable {r : Resolver Loaded σ} {R : Regime r} {t : Topic}
  {pages stories explorations : List (Outcome Loaded)}

/-- The report where some structure has no version that can be used, so that there are no skills. -/
theorem exists_report_of_failure
    (hpages : List.Forall₂ (fun index o => R.Settles (.subtopic t.id index) o)
      t.subtopicTable.keys pages)
    (hstories : List.Forall₂ (fun name o => R.Settles (.story name) o) t.storyIds stories)
    (hexplorations : ∀ loaded : List Story,
      stories = (loaded.map Loaded.story).map .success →
      List.Forall₂ (fun name o => R.Settles (.exploration name) o) (storyExplorationIds loaded)
        explorations)
    (hnil : (∃ reasons, .failure reasons ∈ stories) → explorations = [])
    (hfailure : ∃ reasons, .failure reasons ∈ pages ++ stories ++ explorations)
    {more : List Rejection}
    (hmore : more ⊆ pages.flatMap Outcome.reasons ++ stories.flatMap Outcome.reasons ++
      explorations.flatMap Outcome.reasons) :
    ∃ report : t.Report R.Settles,
      (pages.flatMap Outcome.reasons ++ stories.flatMap Outcome.reasons ++
        explorations.flatMap Outcome.reasons ++ more).eraseDups = report.reasons := by
  refine ⟨⟨pages, stories, explorations, .pending, hpages, hstories, hexplorations, hnil, ?_,
    fun _ => rfl⟩, ?_⟩
  · rintro p s e rfl rfl rfl
    obtain ⟨reasons, hmem⟩ := hfailure
    rcases List.mem_append.mp hmem with hmem | hmem
    · rcases List.mem_append.mp hmem with hmem | hmem
      · exact (Outcome.failure_notMem_map_success _ ⟨reasons, hmem⟩).elim
      · exact (Outcome.failure_notMem_map_success _ ⟨reasons, hmem⟩).elim
    · exact (Outcome.failure_notMem_map_success _ ⟨reasons, hmem⟩).elim
  · rw [eraseDups_append_of_subset hmore]
    show _ = List.eraseDups (_ ++ [])
    rw [List.append_nil]

/-- The report where everything but skills is there. -/
theorem exists_report_of_rounds {p : List SubtopicPage} {s : List Story}
    {e : List CompleteExploration} {all : Outcome (List Loaded)}
    (hpages : List.Forall₂ (fun index o => R.Settles (.subtopic t.id index) o)
      t.subtopicTable.keys ((p.map Loaded.page).map .success))
    (hstories : List.Forall₂ (fun name o => R.Settles (.story name) o) t.storyIds
      ((s.map Loaded.story).map .success))
    (hexplorations : List.Forall₂ (fun name o => R.Settles (.exploration name) o)
      (storyExplorationIds s) ((e.map Loaded.exploration).map .success))
    (hrounds : SkillClosure.Rounds (fun name => R.Settles (.skill name))
      (skillSeeds t p s e).eraseDups all) :
    ∃ report : t.Report R.Settles, all.reasons.eraseDups = report.reasons := by
  -- the outcomes determine the values
  have hinj : ∀ {ν : Type} {load : ν → Loaded}, load.Injective → ∀ {values values' : List ν},
      (values.map load).map Outcome.success = (values'.map load).map Outcome.success →
        values = values' := fun hload _ _ heq =>
    List.map_injective_iff.mpr hload
      (List.map_injective_iff.mpr (fun _ _ => Outcome.success.inj) heq)
  refine ⟨{
    pages := _
    stories := _
    explorations := _
    skills := all
    pages_comesTo := hpages
    stories_comesTo := hstories
    explorations_comesTo := fun loaded heq =>
      hinj (fun _ _ => Loaded.story.inj) heq ▸ hexplorations
    explorations_nil := fun hfailure => (Outcome.failure_notMem_map_success _ hfailure).elim
    skills_comesTo := fun p' s' e' hp hs he => by
      rw [← hinj (fun _ _ => Loaded.page.inj) hp, ← hinj (fun _ _ => Loaded.story.inj) hs,
        ← hinj (fun _ _ => Loaded.exploration.inj) he]
      exact hrounds
    skills_pending := ?_ }, ?_⟩
  · rintro ⟨reasons, hmem⟩
    rcases List.mem_append.mp hmem with hmem | hmem
    · rcases List.mem_append.mp hmem with hmem | hmem
      · exact (Outcome.failure_notMem_map_success _ ⟨reasons, hmem⟩).elim
      · exact (Outcome.failure_notMem_map_success _ ⟨reasons, hmem⟩).elim
    · exact (Outcome.failure_notMem_map_success _ ⟨reasons, hmem⟩).elim
  · unfold Topic.Report.reasons
    rw [Outcome.flatMap_reasons_map_success, Outcome.flatMap_reasons_map_success,
      Outcome.flatMap_reasons_map_success]
    rfl

/-- **The reasons of all parts are those of the report.** -/
theorem Gathers.exists_report {outcomes : List (Outcome Fragment)}
    (h : R.Gathers t pages outcomes) (htyped : IsTyped R.Settles) :
    ∃ report : t.Report R.Settles,
      (outcomes.flatMap Outcome.reasons).eraseDups = report.reasons := by
  obtain ⟨hpages, stories, hstories, explorations, skills, hexplorations, hskills, rfl⟩ := h
  have hP := Outcome.reasons_combineAll (pending_notMem_of_settles hpages)
    (pagesFragment t.subtopicTable.keys)
  have hS := Outcome.reasons_combineAll (pending_notMem_of_settles hstories) storiesFragment
  simp only [List.flatMap_cons, List.flatMap_nil, hP, hS, ← List.append_assoc]
  show ∃ report : t.Report R.Settles, List.eraseDups (_ ++ [] ++ []) = report.reasons
  rw [List.append_nil, List.append_nil]
  have hsubset : ∀ {left middle right : List Rejection}, left ⊆ left ++ middle ++ right := by
    intro left middle right reason hmem
    exact List.mem_append_left _ (List.mem_append_left _ hmem)
  rcases hexplorations.cases with ⟨f, hf, es, hes, rfl⟩ | ⟨⟨reasons, hfailure⟩, hX⟩
  · -- the stories are there
    obtain ⟨loaded, rfl, rfl⟩ := Outcome.exists_of_combineAll_success hf
    obtain ⟨s, rfl, hnames⟩ := htyped.exists_stories hstories
    have hdecided : .pending ∉ es := pending_notMem_of_settles hes
    have hX := Outcome.reasons_combineAll hdecided explorationsFragment
    rw [storiesFragment_map, explorationIds_ofStories (hnames ▸ nodup_eraseDups _)] at hes
    rw [hX]
    have hexplorations' : ∀ loaded : List Story,
        (s.map Loaded.story).map Outcome.success = (loaded.map Loaded.story).map .success →
        List.Forall₂ (fun name o => R.Settles (.exploration name) o) (storyExplorationIds loaded)
          es := by
      intro loaded heq
      have hsame : s = loaded := List.map_injective_iff.mpr (fun _ _ => Loaded.story.inj)
        (List.map_injective_iff.mpr (fun _ _ => Outcome.success.inj) heq)
      exact hsame ▸ hes
    have hnil : (∃ reasons, .failure reasons ∈ (s.map Loaded.story).map Outcome.success) →
        es = [] := fun hfailure => (Outcome.failure_notMem_map_success _ hfailure).elim
    rcases hskills.cases with ⟨p, hp, hskills⟩ | ⟨⟨reasons, hfailure⟩, hK⟩
    · obtain ⟨loaded, rfl, rfl⟩ := Outcome.exists_of_combineAll_success hp
      obtain ⟨p, rfl⟩ := htyped.exists_pages hpages
      rcases hskills.cases with ⟨f, hf', hskills⟩ | ⟨⟨reasons, hfailure⟩, -⟩
      · obtain rfl := Outcome.success.inj (hf.symm.trans hf')
        rcases hskills.cases with ⟨e, he, all, hrounds, rfl⟩ | ⟨⟨reasons, hfailure⟩, hK⟩
        · -- everything else is there
          obtain ⟨loaded, rfl, rfl⟩ := Outcome.exists_of_combineAll_success he
          obtain ⟨e, rfl, hnames'⟩ := htyped.exists_explorations hes
          rw [skillIds_of_fragments (by rw [hpages.length_eq, List.length_map, List.length_map])
            (hnames ▸ nodup_eraseDups _) (hnames' ▸ nodup_eraseDups _)] at hrounds
          obtain ⟨report, hreport⟩ := exists_report_of_rounds hpages hstories hes hrounds
          refine ⟨report, hreport ▸ ?_⟩
          rw [Outcome.flatMap_reasons_map_success, Outcome.flatMap_reasons_map_success,
            Outcome.flatMap_reasons_map_success, Outcome.reasons_map]
          rfl
        · obtain ⟨part, hpart⟩ := Outcome.exists_of_combineAll_failure hfailure
          refine exists_report_of_failure hpages hstories hexplorations' hnil
            ⟨part, List.mem_append_right _ hpart⟩ ?_
          rw [hK, hX]
          exact List.subset_append_right _ _
      · rw [hf] at hfailure
        cases hfailure
    · obtain ⟨part, hpart⟩ := Outcome.exists_of_combineAll_failure hfailure
      refine exists_report_of_failure hpages hstories hexplorations' hnil
        ⟨part, List.mem_append_left _ (List.mem_append_left _ hpart)⟩ ?_
      rw [hK, hP]
      exact hsubset
  · -- some story is not there, so nothing else is looked for
    obtain ⟨part, hpart⟩ := Outcome.exists_of_combineAll_failure hfailure
    have hmore : explorations.reasons ++ skills.reasons ⊆
        pages.flatMap Outcome.reasons ++ stories.flatMap Outcome.reasons ++ [] := by
      rw [List.append_nil, hX, hS]
      refine List.append_subset.mpr ⟨List.subset_append_right _ _, ?_⟩
      rcases hskills.cases with ⟨p, -, hskills⟩ | ⟨-, hK⟩
      · rcases hskills.cases with ⟨f, hf, -⟩ | ⟨-, hK⟩
        · rw [hfailure] at hf
          cases hf
        · rw [hK, hS]
          exact List.subset_append_right _ _
      · rw [hK, hP]
        exact List.subset_append_left _ _
    have hexplorations' : ∀ loaded : List Story,
        stories = (loaded.map Loaded.story).map .success →
        List.Forall₂ (fun name o => R.Settles (.exploration name) o) (storyExplorationIds loaded)
          [] := by
      rintro loaded rfl
      exact (Outcome.failure_notMem_map_success _ ⟨part, hpart⟩).elim
    obtain ⟨report, hreport⟩ := exists_report_of_failure hpages hstories hexplorations'
      (fun _ => rfl) ⟨part, List.mem_append_left _ (List.mem_append_right _ hpart)⟩ hmore
    refine ⟨report, hreport ▸ ?_⟩
    simp only [List.flatMap_nil, List.append_nil, List.append_assoc]

end Regime

end ContentPack
