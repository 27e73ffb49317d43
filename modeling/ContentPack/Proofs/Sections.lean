import ContentPack.Proofs.Errands
import ContentPack.Proofs.Fragments
import ContentPack.Proofs.Outcome
import ContentPack.Proofs.Search.Regime

/-!
# How a pack is put together from any source

Whatever the source answers, every group of a pack comes to a fragment with one field or to a
failure, and the fragments are combined (`Regime.ensures_assemble`); the run is given up only if a
request fails or a closure of skills grows past its bound. What is known of the cache is kept, as a
`Regime` has it, and the pages in a pack are those that the cache is settled on
(`Regime.ensures_attempt`).

What a group comes to is that of the outcomes that its structures are settled on: the explorations
are looked for once the stories are there, and the skills, in rounds (`SkillClosure.Rounds`), once
everything else is there (`Regime.Gathers`). So the reasons of a failed attempt are those of its
groups (`Regime.FailsWith`).
-/

namespace ContentPack

open Work Assembler

variable {σ : Type}

namespace SkillClosure

/-- **The rounds of a closure of skills**, given what each skill comes to: they go on as long as all
skills are there and some are added. -/
inductive Rounds (comesTo : String → Outcome Loaded → Prop) :
    List String → Outcome (List Loaded) → Prop
  /-- Nothing is added. -/
  | closed {ids : List String} {skills : List Loaded} :
      List.Forall₂ (fun name skill => comesTo name (.success skill)) ids skills →
      (expand ids skills).length = ids.length → Rounds comesTo ids (.success skills)
  /-- Some skills have no version that can be used. -/
  | fails {ids : List String} {outcomes : List (Outcome Loaded)} {reasons : List Rejection} :
      List.Forall₂ comesTo ids outcomes → Outcome.flatten outcomes = .failure reasons →
      Rounds comesTo ids (.failure reasons)
  /-- There is another round with what was added. -/
  | grows {ids : List String} {skills : List Loaded} {o : Outcome (List Loaded)} :
      List.Forall₂ (fun name skill => comesTo name (.success skill)) ids skills →
      (expand ids skills).length ≠ ids.length → Rounds comesTo (expand ids skills) o →
      Rounds comesTo ids o

theorem Rounds.isDecided {comesTo : String → Outcome Loaded → Prop} {ids : List String}
    {o : Outcome (List Loaded)} (h : Rounds comesTo ids o) : o.IsDecided fun _ => True := by
  induction h with
  | closed => exact Or.inl ⟨_, rfl, trivial⟩
  | fails => exact Or.inr ⟨_, rfl⟩
  | grows _ _ _ ih => exact ih

end SkillClosure

/-- The stories of loaded structures. -/
def Assembler.storiesFragment (loaded : List Loaded) : Fragment :=
  .ofStories (loaded.filterMap Loaded.story?)

/-- The explorations of loaded structures. -/
def Assembler.explorationsFragment (loaded : List Loaded) : Fragment :=
  .ofExplorations (loaded.filterMap Loaded.exploration?)

/-- The skills of loaded structures. -/
def Assembler.skillsFragment (loaded : List Loaded) : Fragment :=
  .ofSkills (loaded.filterMap Loaded.skill?)

namespace Regime

/-! ### Groups -/

section Groups

variable {a : Assembler σ} {R : Regime a.resolver} {t : Topic} {s : Session Loaded σ}

/-- What the explorations of stories come to. -/
def FindsExplorations {r : Resolver Loaded σ} (R : Regime r) (stories : Fragment)
    (o : Outcome Fragment) : Prop :=
  ∃ explorations, List.Forall₂ (fun name o => R.Settles (.exploration name) o)
      (explorationIds stories) explorations ∧
    o = .combineAll explorations explorationsFragment

/-- What the skills of structures come to. -/
def FindsSkills {r : Resolver Loaded σ} (R : Regime r) (structures : List Loaded)
    (o : Outcome Fragment) : Prop :=
  ∃ all, SkillClosure.Rounds (fun name => R.Settles (.skill name))
      (structures.flatMap Loaded.skillIds).eraseDups all ∧
    o = all.map skillsFragment

/-- **Pages and stories** are settled. -/
theorem ensures_loadPagesAndStories (hknown : R.KnownIn s.cache) (hlimit : a.limit ≠ some 0)
    (hpages : ∀ e ∈ pageErrands t, s.cache.history? e.id = none → (R.search e).Opens) :
    Ensures (a.loadPagesAndStories t) s
      (fun o rest => R.Leaves [.subtopic, .story] s.cache rest.cache ∧
        (∃ pages, List.Forall₂ (fun index page =>
            rest.cache.IsSettled (.subtopic t.id index) page) t.subtopicTable.keys pages ∧
          o.1 = .combineAll pages (pagesFragment t.subtopicTable.keys)) ∧
        ∃ stories, List.Forall₂ (fun name o => R.Settles (.story name) o) t.storyIds stories ∧
          o.2 = .combineAll stories storiesFragment)
      (fun error _ => error.IsExcused) := by
  let pages := pageErrands t
  let stories := namedErrands .story .story t.storyIds
  have hids : (pages ++ stories).map (·.id) =
      t.subtopicTable.keys.map (.subtopic t.id) ++ t.storyIds.map .story := by
    rw [List.map_append, map_id_pageErrands, map_id_namedErrands]
  have hkinds : ∀ e ∈ pages ++ stories, e.id.kind ∈ [Kind.subtopic, Kind.story] := by
    intro e he
    rcases List.mem_append.mp he with he | he
    · obtain ⟨index, declared, -, hid, -⟩ := exists_of_mem_pageErrands he
      simp [hid, StructureId.kind]
    · obtain ⟨name, -, hid, -⟩ := exists_of_mem_namedErrands he
      simp [hid, StructureId.kind]
  have hopens : ∀ e ∈ pages ++ stories, s.cache.history? e.id = none → (R.search e).Opens := by
    intro e he hnone
    rcases List.mem_append.mp he with he | he
    · exact hpages e he hnone
    · obtain ⟨name, -, hid, hsubtopic⟩ := exists_of_mem_namedErrands he
      exact R.opens (by simp [hid, StructureId.kind]) hsubtopic
  unfold loadPagesAndStories
  rw [ensures_bind, ensures_report, ensures_bind, ensures_report, ensures_bind]
  refine (R.ensures_resolveAll (by exact hknown) hkinds (by exact hopens)
    (nodup_pageErrands_storyErrands t) hlimit 2).mono ?_ (fun error _ hfetch => Or.inl hfetch)
  rintro outcomes rest ⟨hleaves, hsettled⟩
  have hsettled' : List.Forall₂ rest.cache.IsSettled
      (t.subtopicTable.keys.map (.subtopic t.id) ++ t.storyIds.map .story) outcomes := by
    rw [← hids, List.forall₂_map_left_iff]
    exact hsettled
  -- the first outcomes are those of the pages
  have hlength : pages.length =
      (t.subtopicTable.keys.map (StructureId.subtopic t.id)).length := by
    rw [← map_id_pageErrands, List.length_map]
  have hpages' := List.forall₂_take pages.length hsettled'
  have hstories' := List.forall₂_drop pages.length hsettled'
  rw [List.take_left' hlength.symm, List.forall₂_map_left_iff] at hpages'
  rw [List.drop_left' hlength.symm] at hstories'
  rw [List.forall₂_map_left_iff] at hstories'
  exact ⟨hleaves, ⟨_, hpages', rfl⟩, _, hstories'.imp fun _ _ => hleaves.known.settles, rfl⟩

/-- **Explorations** are settled. -/
theorem ensures_loadExplorations (hknown : R.KnownIn s.cache) (hlimit : a.limit ≠ some 0)
    (stories : Fragment) :
    Ensures (a.loadExplorations stories) s
      (fun o rest => R.FindsExplorations stories o ∧ R.Leaves [.exploration] s.cache rest.cache)
      (fun error _ => error.IsExcused) := by
  have hkinds : ∀ e ∈ namedErrands .exploration .exploration (explorationIds stories),
      e.id.kind ∈ [Kind.exploration] := by
    intro e he
    obtain ⟨name, -, hid, -⟩ := exists_of_mem_namedErrands he
    simp [hid, StructureId.kind]
  have hopens : ∀ e ∈ namedErrands .exploration .exploration (explorationIds stories),
      s.cache.history? e.id = none → (R.search e).Opens := by
    intro e he _
    obtain ⟨name, -, hid, hsubtopic⟩ := exists_of_mem_namedErrands he
    exact R.opens (by simp [hid, StructureId.kind]) hsubtopic
  unfold loadExplorations
  rw [ensures_bind, ensures_report, ensures_bind]
  refine (R.ensures_resolveAll (by exact hknown) hkinds (by exact hopens)
    (nodup_explorationErrands stories) hlimit 1).mono ?_ (fun error _ hfetch => Or.inl hfetch)
  rintro outcomes rest ⟨hleaves, hsettled⟩
  refine ⟨⟨outcomes, ?_, rfl⟩, hleaves⟩
  have hsettled' : List.Forall₂ R.Settles
      ((explorationIds stories).map .exploration) outcomes := by
    rw [← map_id_namedErrands .exploration, List.forall₂_map_left_iff]
    exact hsettled.imp fun _ _ => hleaves.known.settles
  exact List.forall₂_map_left_iff.mp hsettled'

/-- Rounds of a closure of **skills**. -/
theorem ensures_grow {r : Resolver Loaded σ} {R : Regime r} {limit : Option Nat}
    (hlimit : limit ≠ some 0) (rounds left : Nat) :
    ∀ {current : List String} {s : Session Loaded σ}, R.KnownIn s.cache → current.Nodup →
      Ensures (SkillClosure.grow r limit rounds left current) s
        (fun o rest => SkillClosure.Rounds (fun name => R.Settles (.skill name)) current o ∧
          R.Leaves [.skill] s.cache rest.cache)
        (fun error _ => error.IsExcused) := by
  induction left with
  | zero =>
    intro current s _ _
    exact Or.inr ⟨rounds, current.length, rfl⟩
  | succ left ih =>
    intro current s hknown hnodup
    have hkinds : ∀ e ∈ SkillClosure.errands current, e.id.kind ∈ [Kind.skill] := by
      intro e he
      obtain ⟨name, -, hid, -⟩ := SkillClosure.exists_of_mem_errands he
      simp [hid, StructureId.kind]
    have hopens : ∀ e ∈ SkillClosure.errands current, s.cache.history? e.id = none →
        (R.search e).Opens := by
      intro e he _
      obtain ⟨name, -, hid, hsubtopic⟩ := SkillClosure.exists_of_mem_errands he
      exact R.opens (by simp [hid, StructureId.kind]) hsubtopic
    unfold SkillClosure.grow SkillClosure.round
    rw [ensures_bind, ensures_bind, ensures_report, ensures_bind]
    refine (R.ensures_resolveAll (by exact hknown) hkinds (by exact hopens)
      (SkillClosure.nodup_errands hnodup) hlimit 1).mono ?_ (fun error _ hfetch => Or.inl hfetch)
    rintro outcomes rest ⟨hleaves, hsettled⟩
    have hround : List.Forall₂ (fun name => R.Settles (.skill name)) current outcomes := by
      have hsettled' : List.Forall₂ R.Settles (current.map .skill) outcomes := by
        rw [← SkillClosure.map_id_errands, List.forall₂_map_left_iff]
        exact hsettled.imp fun _ _ => hleaves.known.settles
      exact List.forall₂_map_left_iff.mp hsettled'
    rw [ensures_pure]
    rcases Outcome.isDecided_flatten (pending_notMem_of_settled hsettled) with
      ⟨skills, hflatten, hskills⟩ | ⟨reasons, hflatten⟩ <;> rw [hflatten]
    · rw [hskills, List.forall₂_map_right_iff] at hround
      simp only
      split
      · rename_i hsame
        exact ⟨.closed hround hsame, hleaves⟩
      · rename_i hmore
        rw [ensures_bind, ensures_report]
        refine (ih (by exact hleaves.known) SkillClosure.nodup_expand).mono ?_ (fun _ _ => id)
        rintro o rest' ⟨hrounds, hleaves'⟩
        exact ⟨.grows hround hmore hrounds, (hleaves.trans hleaves').mono (by simp)⟩
    · exact ⟨.fails hround hflatten, hleaves⟩

theorem ensures_loadSkills (hknown : R.KnownIn s.cache) (hlimit : a.limit ≠ some 0)
    (structures : List Loaded) :
    Ensures (a.loadSkills structures) s
      (fun o rest => R.FindsSkills structures o ∧ R.Leaves [.skill] s.cache rest.cache)
      (fun error _ => error.IsExcused) := by
  unfold loadSkills SkillClosure.resolve
  rw [ensures_bind]
  refine (R.ensures_grow hlimit _ _ hknown (nodup_eraseDups _)).mono ?_ (fun _ _ => id)
  rintro o rest ⟨hrounds, hleaves⟩
  exact ⟨⟨o, hrounds, rfl⟩, hleaves⟩

end Groups

/-! ### One version of a topic -/

section Topics

variable {a : Assembler σ} {R : Regime a.resolver} {t : Topic} {s : Session Loaded σ}

/-- What the searches for the parts of a topic leave. -/
abbrev LeavesParts (R : Regime a.resolver) (cache cache' : Cache Loaded) : Prop :=
  R.Leaves [.subtopic, .story, .exploration, .skill] cache cache'

/-- The pages of a topic are settled on outcomes. -/
def PagesSettled (t : Topic) (cache : Cache Loaded) (pages : List (Outcome Loaded)) : Prop :=
  List.Forall₂ (fun index page => cache.IsSettled (.subtopic t.id index) page)
    t.subtopicTable.keys pages

theorem PagesSettled.of_leaves {kinds : List Kind} {cache cache' : Cache Loaded}
    {pages : List (Outcome Loaded)} (h : PagesSettled t cache pages)
    (hleaves : R.Leaves kinds cache cache') (hkinds : .subtopic ∉ kinds) :
    PagesSettled t cache' pages :=
  h.imp fun _ _ hsettled => hsettled.of_history?_eq (hleaves.others _ hkinds)

/-- **What the parts of a topic come to**, with the outcomes that its pages are settled on. -/
def Gathers {r : Resolver Loaded σ} (R : Regime r) (t : Topic) (pages : List (Outcome Loaded))
    (outcomes : List (Outcome Fragment)) : Prop :=
  List.Forall₂ (fun index o => R.Settles (.subtopic t.id index) o) t.subtopicTable.keys pages ∧
    ∃ stories, List.Forall₂ (fun name o => R.Settles (.story name) o) t.storyIds stories ∧
      ∃ explorations skills,
        (Outcome.combineAll stories storiesFragment).Continues R.FindsExplorations explorations ∧
        (Outcome.combineAll pages (pagesFragment t.subtopicTable.keys)).Continues (fun p =>
          (Outcome.combineAll stories storiesFragment).Continues fun s =>
            explorations.Continues fun e =>
              R.FindsSkills (.topic t :: structures p ++ structures s ++ structures e)) skills ∧
        outcomes = [.combineAll pages (pagesFragment t.subtopicTable.keys),
          .combineAll stories storiesFragment, explorations, skills,
          .success { defaultLanguage := some (.ofCode t.languageCode) }]

theorem FindsExplorations.isDecided {stories : Fragment} {o : Outcome Fragment}
    (h : R.FindsExplorations stories o) :
    o.IsDecided fun f => ∃ explorations, f = Fragment.ofExplorations explorations := by
  obtain ⟨explorations, hsettles, rfl⟩ := h
  refine (Outcome.isDecided_combineAll (pending_notMem_of_settles hsettles) _).mono ?_
  rintro f ⟨loaded, -, rfl⟩
  exact ⟨_, rfl⟩

theorem FindsSkills.isDecided {structures : List Loaded} {o : Outcome Fragment}
    (h : R.FindsSkills structures o) :
    o.IsDecided fun f => ∃ skills, f = Fragment.ofSkills skills := by
  obtain ⟨all, hrounds, rfl⟩ := h
  rcases hrounds.isDecided with ⟨loaded, rfl, -⟩ | ⟨reasons, rfl⟩
  · exact Or.inl ⟨_, rfl, _, rfl⟩
  · exact Or.inr ⟨reasons, rfl⟩

/-- Each part has one field, or one of them failed. -/
theorem Gathers.cases {pages : List (Outcome Loaded)} {outcomes : List (Outcome Fragment)}
    (h : R.Gathers t pages outcomes) :
    (∃ loaded stories explorations skills, pages = loaded.map .success ∧
        outcomes = [pagesFragment t.subtopicTable.keys loaded, .ofStories stories,
          .ofExplorations explorations, .ofSkills skills,
          { defaultLanguage := some (.ofCode t.languageCode) }].map .success) ∨
      Fails t outcomes := by
  obtain ⟨hpages, stories, hstories, explorations, skills, hexplorations, hskills, rfl⟩ := h
  have hdecided := Outcome.isDecided_combineAll (pending_notMem_of_settles hstories)
    storiesFragment
  have hexplorations' := hexplorations.isDecided fun _ _ h => h.isDecided
  have hskills' := hskills.isDecided fun _ _ h => h.isDecided fun _ _ h => h.isDecided
    fun _ _ h => h.isDecided
  -- the first part that failed ends the fragments that can be combined
  rcases Outcome.isDecided_combineAll (pending_notMem_of_settles hpages)
    (pagesFragment t.subtopicTable.keys) with ⟨_, hp, loaded, rfl, rfl⟩ | ⟨reasons, hp⟩
  · rcases hdecided with ⟨_, hs, _, -, rfl⟩ | ⟨reasons, hs⟩
    · rcases hexplorations' with ⟨_, rfl, es, rfl⟩ | ⟨reasons, rfl⟩
      · rcases hskills' with ⟨_, rfl, all, rfl⟩ | ⟨reasons, rfl⟩
        · exact Or.inl ⟨loaded, _, es, all, rfl, by rw [hp, hs]; rfl⟩
        · exact Or.inr ⟨[_, _, _], _, reasons, [_], by rw [hp, hs]; rfl, by simp, rfl⟩
      · exact Or.inr ⟨[_, _], _, reasons, [_, _], by rw [hp, hs]; rfl, by
          simpa using hskills'.ne_pending.symm, rfl⟩
    · exact Or.inr ⟨[_], _, reasons, [_, _, _], by rw [hp, hs]; rfl, by
        simpa using ⟨hexplorations'.ne_pending.symm, hskills'.ne_pending.symm⟩, rfl⟩
  · exact Or.inr ⟨[], _, reasons, [_, _, _, _], by rw [hp]; rfl, by
      simpa using ⟨hdecided.ne_pending.symm, hexplorations'.ne_pending.symm,
        hskills'.ne_pending.symm⟩, rfl⟩

/-- **The fragments of a pack** are what its parts come to. -/
theorem ensures_loadFragments (hknown : R.KnownIn s.cache) (hlimit : a.limit ≠ some 0)
    (hpages : ∀ e ∈ pageErrands t, s.cache.history? e.id = none → (R.search e).Opens) :
    Ensures (a.loadFragments t) s
      (fun outcomes rest => LeavesParts R s.cache rest.cache ∧
        ∃ pages, PagesSettled t rest.cache pages ∧ R.Gathers t pages outcomes)
      (fun error _ => error.IsExcused) := by
  unfold loadFragments
  rw [ensures_bind]
  refine (R.ensures_loadPagesAndStories hknown hlimit hpages).mono ?_ (fun _ _ => id)
  rintro ⟨_, _⟩ s₁ ⟨hleaves₁, ⟨pages, hpages₁, rfl⟩, stories, hstories, rfl⟩
  have hp := (Outcome.isDecided_combineAll (pending_notMem_of_settled hpages₁)
    (pagesFragment t.subtopicTable.keys)).ne_pending
  have hs := (Outcome.isDecided_combineAll (pending_notMem_of_settles hstories)
    storiesFragment).ne_pending
  simp only
  rw [ensures_bind]
  -- the explorations are looked for once the stories are there
  refine (ensures_bindM hs (fun rest => R.Leaves [.exploration] s₁.cache rest.cache)
    (.refl hleaves₁.known _) fun f _ =>
      R.ensures_loadExplorations hleaves₁.known hlimit f).mono ?_ (fun _ _ => id)
  rintro explorations s₂ ⟨hexplorations, hleaves₂⟩
  have he := (hexplorations.isDecided fun _ _ h => h.isDecided).ne_pending
  have hkept := Leaves.refl hleaves₂.known [.skill]
  rw [ensures_bind]
  unfold loadSkillsOf
  -- and the skills once everything else is there
  refine (ensures_bindM hp _ hkept fun p _ => ensures_bindM hs _ hkept fun s _ =>
    ensures_bindM he _ hkept fun e _ =>
      R.ensures_loadSkills hleaves₂.known hlimit _).mono ?_ (fun _ _ => id)
  rintro skills s₃ ⟨hskills, hleaves₃⟩
  exact ⟨(hleaves₁.trans (hleaves₂.trans hleaves₃)).mono (by simp), pages,
    (PagesSettled.of_leaves hpages₁ hleaves₂ (by simp)).of_leaves hleaves₃ (by simp),
    hpages₁.imp fun _ _ => hleaves₁.known.settles, stories, hstories, explorations, skills,
    hexplorations, hskills, rfl⟩

/-- **A topic fails with reasons** if what its parts come to has these reasons. -/
def FailsWith {r : Resolver Loaded σ} (R : Regime r) (t : Topic) (reasons : List Rejection) :
    Prop :=
  ∃ pages outcomes, R.Gathers t pages outcomes ∧ reasons = outcomes.flatMap Outcome.reasons

/-- A page in a fragment is one that was loaded. -/
theorem mem_of_mem_ofEntries_pages {indexes : List Int} {loaded : List Loaded} {index : Int}
    {page : SubtopicPage} (h : (index, page) ∈ Table.ofEntries ((indexes.zip loaded).filterMap
      fun (index, l) => l.page?.map (index, ·))) : (index, .page page) ∈ indexes.zip loaded := by
  obtain ⟨⟨i, l⟩, hmem, heq⟩ := List.mem_filterMap.mp (Table.mem_of_mem_ofEntries h)
  obtain ⟨p, hp, heq⟩ := Option.map_eq_some_iff.mp heq
  obtain ⟨rfl, rfl⟩ := Prod.mk.inj heq
  cases l <;> cases hp
  exact hmem

/-- The pages of a pack are declared by its topic, and they are those that the cache is settled
on. -/
def SettledPages (pack : TopicPack) (cache : Cache Loaded) : Prop :=
  ∀ index page, (index, page) ∈ pack.subtopicPages → index ∈ pack.topic.subtopicTable.keys ∧
    cache.IsSettled (.subtopic pack.topic.id index) (.success (.page page))

/-- **The fragments of a topic are combined**: the result is a pack, or a failure. -/
theorem ensures_assemble (hknown : R.KnownIn s.cache) (hlimit : a.limit ≠ some 0)
    (hpages : ∀ e ∈ pageErrands t, s.cache.history? e.id = none → (R.search e).Opens) :
    Ensures (a.assemble t) s
      (fun o rest => LeavesParts R s.cache rest.cache ∧ (∃ pages, PagesSettled t rest.cache pages) ∧
        ((∃ f pack, o = .success f ∧ f.toPack = .ok pack ∧ pack.topic = t ∧
            SettledPages pack rest.cache) ∨
          ∃ reasons, o = .failure reasons ∧ R.FailsWith t reasons))
      (fun error _ => error.IsExcused) := by
  unfold assemble
  rw [ensures_bind]
  refine (R.ensures_loadFragments hknown hlimit hpages).mono ?_ (fun _ _ => id)
  rintro outcomes rest ⟨hleaves, pages, hsettled, hgathers⟩
  rcases hgathers.cases with ⟨loaded, stories, explorations, skills, rfl, rfl⟩ | hfails
  · refine (ensures_combine rfl).mono ?_
      (fun _ _ hfalse => hfalse.elim)
    rintro _ rest ⟨rfl, rfl⟩
    refine ⟨hleaves, ⟨_, hsettled⟩, Or.inl ⟨_, _, rfl, rfl, rfl, ?_⟩⟩
    intro index page hmem
    have hloaded : List.Forall₂ (fun index l =>
        rest.cache.IsSettled (.subtopic t.id index) (.success l)) t.subtopicTable.keys loaded :=
      List.forall₂_map_right_iff.mp hsettled
    have hzip := mem_of_mem_ofEntries_pages hmem
    exact ⟨(List.of_mem_zip hzip).1, List.forall₂_zip hloaded hzip⟩
  · refine (ensures_combine_of_fails hfails).mono ?_ (fun _ _ hfalse => hfalse.elim)
    rintro o _ ⟨rfl, rfl⟩
    exact ⟨hleaves, ⟨pages, hsettled⟩, Or.inr ⟨_, rfl, pages, outcomes, hgathers, rfl⟩⟩

/-- The newest version of a topic is settled. -/
theorem ensures_resolveTopic (topicId : String) (hknown : R.KnownIn s.cache) :
    Ensures (a.resolver.resolve (.topic topicId)) s
      (fun o rest => R.Leaves [.topic] s.cache rest.cache ∧
        rest.cache.IsSettled (.topic topicId) o)
      (fun error _ => error.IsExcused) := by
  have hsingle : ∀ e ∈ [({ id := .topic topicId } : Errand)],
      e = { id := .topic topicId } := fun e he => List.mem_singleton.mp he
  unfold Resolver.resolve
  rw [ensures_bind]
  have hkinds : ∀ e ∈ [({ id := .topic topicId } : Errand)], e.id.kind ∈ [Kind.topic] := by
    intro e he
    simp [hsingle e he, StructureId.kind]
  have hopens : ∀ e ∈ [({ id := .topic topicId } : Errand)], s.cache.history? e.id = none →
      (R.search e).Opens := by
    intro e he _
    exact R.opens (by simp [hsingle e he, StructureId.kind]) (by rw [hsingle e he])
  refine (R.ensures_resolveAll hknown hkinds hopens (List.nodup_singleton _) (by simp) 0).mono ?_
    (fun error _ hfetch => Or.inl hfetch)
  · rintro outcomes rest ⟨hleaves, hsettled⟩
    obtain ⟨o, _, hsettled', hnil, rfl⟩ := List.forall₂_cons_left_iff.mp hsettled
    obtain rfl := List.forall₂_nil_left_iff.mp hnil
    exact ⟨hleaves, hsettled'⟩

/-- **The reasons against the outcome that a topic is settled on**: its own, or those of its
parts. -/
inductive Objects {r : Resolver Loaded σ} (R : Regime r) :
    Outcome Loaded → List Rejection → Prop
  /-- No version of the topic can be used. -/
  | rejected {reasons : List Rejection} : Objects R (.failure reasons) reasons
  /-- Its parts come to a failure. -/
  | lacking {t : Topic} {reasons : List Rejection} :
      R.FailsWith t reasons → Objects R (.success (.topic t)) reasons
  /-- Something else came instead of a topic. -/
  | misplaced {l : Loaded} : l.topic? = none → Objects R (.success l) []

/-- **What an attempt comes to**, with the outcome that the topic is settled on: a pack of a version
of the topic, or a failure after all pages of that version were looked for. -/
def Attempted {r : Resolver Loaded σ} (R : Regime r) (topicId : String) (cache : Cache Loaded)
    (o : Outcome TopicPack) : Prop :=
  ∃ topic, cache.IsSettled (.topic topicId) topic ∧
    ((∃ pack, o = .success pack ∧ topic = .success (.topic pack.topic) ∧ SettledPages pack cache) ∨
      (∃ reasons, o = .failure reasons ∧ R.Objects topic reasons) ∧
        ∀ t, topic = .success (.topic t) → ∃ pages, PagesSettled t cache pages)

/-- **An attempt** comes to a pack or to a failure. -/
theorem ensures_attempt (topicId : String) (hknown : R.KnownIn s.cache) (hlimit : a.limit ≠ some 0)
    (hpages : ∀ cache t, R.Leaves [.topic] s.cache cache →
      cache.IsSettled (.topic topicId) (.success (.topic t)) →
      ∀ e ∈ pageErrands t, cache.history? e.id = none → (R.search e).Opens) :
    Ensures (a.attempt topicId) s
      (fun o rest => (∃ kinds, R.Leaves kinds s.cache rest.cache) ∧
        R.Attempted topicId rest.cache o)
      (fun error _ => error.IsExcused) := by
  unfold attempt
  rw [ensures_bind, ensures_modify, ensures_bind]
  refine (R.ensures_resolveTopic topicId (by exact hknown)).mono ?_ (fun _ _ => id)
  rintro o s₁ ⟨hleaves₁, hsettled⟩
  rw [ensures_bind]
  -- only a version of a topic is looked into
  rcases o with _ | (t | p | story | e | skill) | reasons
  case success.topic =>
    refine (R.ensures_assemble hleaves₁.known hlimit (hpages _ t hleaves₁ hsettled)).mono ?_
      (fun _ _ => id)
    rintro o s₂ ⟨hleaves₂, hpages₂, ⟨f, pack, rfl, hpack, rfl, hsettledPages⟩ |
      ⟨reasons, rfl, hfails⟩⟩
    · have hsettled₂ := hsettled.of_history?_eq (hleaves₂.others (.topic topicId) (by
        simp [StructureId.kind]))
      show Ensures (Outcome.success <$> ofMisuse f.toPack) s₂ _ _
      rw [hpack]
      exact ⟨⟨_, hleaves₁.trans hleaves₂⟩, _, hsettled₂, Or.inl ⟨pack, rfl, rfl, hsettledPages⟩⟩
    · have hsettled₂ := hsettled.of_history?_eq (hleaves₂.others (.topic topicId) (by
        simp [StructureId.kind]))
      refine ⟨⟨_, hleaves₁.trans hleaves₂⟩, _, hsettled₂,
        Or.inr ⟨⟨reasons, rfl, .lacking hfails⟩, ?_⟩⟩
      intro t' ht'
      obtain rfl := Loaded.topic.inj (Outcome.success.inj ht')
      exact hpages₂
  case pending => exact absurd rfl hsettled.ne_pending
  case failure =>
    refine ⟨⟨_, hleaves₁⟩, _, hsettled, Or.inr ⟨⟨_, rfl, .rejected⟩, ?_⟩⟩
    intro t ht
    cases ht
  all_goals
    refine ⟨⟨_, hleaves₁⟩, _, hsettled, Or.inr ⟨⟨_, rfl, .misplaced rfl⟩, ?_⟩⟩
    intro t ht
    cases ht

end Topics

end Regime

end ContentPack
