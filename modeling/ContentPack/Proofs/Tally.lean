import ContentPack.Proofs.Advance

/-!
# What an attempt has counted

If an attempt gives a pack, the group of each of its sections is complete: as many structures were
counted, and as many are there, as the section has entries (`TopicPack.IsCounted`). The sections are
as long as the lists of structures that were looked for, because what is found under different
identifiers has different identifiers (`IsTyped`).

However an attempt ends, its reports are steady, and at most so many rounds of a closure of skills
begin in it as there may be (`Regime.ensures_attempt_counted`).
-/

namespace ContentPack

open Work Tracker Assembler

variable {σ : Type}

/-- The number of entries of the section of a group, if it is populated. -/
def Fragment.section? (f : Fragment) : Group → Option Nat
  | .subtopic => f.subtopicPages.map (·.length)
  | .story => f.stories.map (·.length)
  | .exploration => f.explorations.map (·.length)
  | .skill => f.skills.map (·.length)

/-- The number of entries of the section of a group. -/
def TopicPack.sectionSize (pack : TopicPack) : Group → Nat
  | .subtopic => pack.subtopicPages.length
  | .story => pack.stories.length
  | .exploration => pack.explorations.length
  | .skill => pack.skills.length

/-- The groups of all sections of a fragment are complete. -/
def Fragment.IsCounted (f : Fragment) (t : Tracker) : Prop :=
  ∀ group n, f.section? group = some n → t.IsComplete group n

/-- **The groups of all sections of a pack are complete.** -/
def TopicPack.IsCounted (pack : TopicPack) (t : Tracker) : Prop :=
  ∀ group, t.IsComplete group (pack.sectionSize group)

/-- A fragment stays counted as long as its groups are spared. -/
theorem Fragment.IsCounted.of_advances {f : Fragment} {groups : List Group} {rounds : Nat}
    {s t : Session Loaded σ} (h : f.IsCounted (of s.events))
    (hadvances : s.Advances groups rounds t)
    (hgroups : ∀ group ∈ groups, f.section? group = none) : f.IsCounted (of t.events) := by
  intro group n hn
  refine hadvances.isComplete (h group n hn) fun hmem => ?_
  rw [hgroups group hmem] at hn
  cases hn

/-! ### The sections of typed structures -/

section Typed

variable {comesTo : StructureId → Outcome Loaded → Prop} (htyped : IsTyped comesTo)

include htyped

theorem IsTyped.exists_skills {names : List String} {loaded : List Loaded}
    (h : List.Forall₂ (fun name o => comesTo (.skill name) o) names (loaded.map .success)) :
    ∃ skills : List Skill, loaded = skills.map .skill ∧ skills.map (·.id) = names := by
  refine htyped.exists_named Loaded.skill (·.id) (by simp [StructureId.kind]) ?_
    (fun _ _ hid => StructureId.skill.inj hid) h
  intro name l hid
  cases l <;> simp only [Loaded.id, reduceCtorEq] at hid
  exact ⟨_, rfl⟩

theorem IsTyped.pages_length {topicId : String} {indexes : List Int} {loaded : List Loaded}
    (h : List.Forall₂ (fun index o => comesTo (.subtopic topicId index) o) indexes
      (loaded.map .success)) (hnodup : indexes.Nodup) :
    (pagesFragment indexes loaded).subtopicPages.map (·.length) = some indexes.length := by
  obtain ⟨pages, rfl⟩ := htyped.exists_pages h
  have hlength : indexes.length = pages.length := by
    rw [h.length_eq, List.length_map, List.length_map]
  unfold pagesFragment Fragment.ofPages
  rw [filterMap_zip_page, Option.map_some, Table.ofEntries_zip_of_nodup hnodup hlength,
    List.length_zip, hlength, Nat.min_self]

theorem IsTyped.stories_length {names : List String} {loaded : List Loaded}
    (h : List.Forall₂ (fun name o => comesTo (.story name) o) names (loaded.map .success))
    (hnodup : names.Nodup) :
    (storiesFragment loaded).stories.map (·.length) = some names.length := by
  obtain ⟨stories, rfl, hnames⟩ := htyped.exists_stories h
  rw [storiesFragment_map, Fragment.ofStories, Option.map_some,
    Table.ofEntries_map_of_nodup (hnames ▸ hnodup), List.length_map, ← hnames, List.length_map]

theorem IsTyped.explorations_length {names : List String} {loaded : List Loaded}
    (h : List.Forall₂ (fun name o => comesTo (.exploration name) o) names (loaded.map .success))
    (hnodup : names.Nodup) :
    (explorationsFragment loaded).explorations.map (·.length) = some names.length := by
  obtain ⟨explorations, rfl, hnames⟩ := htyped.exists_explorations h
  rw [explorationsFragment_map, Fragment.ofExplorations, Option.map_some,
    Table.ofEntries_map_of_nodup (hnames ▸ hnodup), List.length_map, ← hnames, List.length_map]

theorem IsTyped.skills_length {names : List String} {skills : List Loaded}
    (h : SkillClosure.Rounds (fun name => comesTo (.skill name)) names (.success skills))
    (hnodup : names.Nodup) :
    (skillsFragment skills).skills.map (·.length) = some skills.length := by
  generalize ho : Outcome.success skills = o at h
  induction h with
  | @closed ids found hfound hsame =>
    obtain rfl := Outcome.success.inj ho
    obtain ⟨skills, rfl, hnames⟩ := htyped.exists_skills (List.forall₂_map_right_iff.mpr hfound)
    have hfilter : (skills.map Loaded.skill).filterMap Loaded.skill? = skills := by
      rw [List.filterMap_map]
      exact List.filterMap_some ..
    unfold skillsFragment
    rw [hfilter, Fragment.ofSkills, Option.map_some,
      Table.ofEntries_map_of_nodup (hnames ▸ hnodup), List.length_map, List.length_map]
  | fails => cases ho
  | grows _ _ _ ih => exact ih SkillClosure.nodup_expand ho

end Typed

/-! ### Groups -/

namespace Regime

variable {a : Assembler σ} {R : Regime a.resolver} {t : Topic} {s : Session Loaded σ}

/-- No structure of any group is there. -/
def IsFresh (s : Session Loaded σ) : Prop := ∀ group, (of s.events).places group = []

/-- What is a success is counted, if what is found is typed. -/
def Counts (R : Regime a.resolver) (o : Outcome Fragment) (s : Session Loaded σ) : Prop :=
  IsTyped R.Settles → ∀ f, o = .success f → f.IsCounted (of s.events)

section Groups

variable (hdecided : ∀ subtopic l, a.resolver.judge subtopic l ≠ .pending)
  (hlimit : a.limit ≠ some 0)

include hdecided hlimit

/-- **Pages and stories** are counted. -/
theorem ensures_loadPagesAndStories_counted (hknown : R.KnownIn s.cache)
    (hpages : ∀ e ∈ pageErrands t, s.cache.history? e.id = none → (R.search e).Opens)
    (hsteady : Steady s.events) (hfresh : IsFresh s) :
    Ensures (a.loadPagesAndStories t) s
      (fun o rest => R.Leaves [.subtopic, .story] s.cache rest.cache ∧
        s.Advances [.subtopic, .story] 0 rest ∧
        (IsTyped R.Settles → ∀ f f', o = (.success f, .success f') →
          f.IsCounted (of rest.events) ∧ f'.IsCounted (of rest.events)) ∧
        (∀ f, o.1 = .success f → ∃ pages, f = .ofPages pages) ∧
        ∀ f, o.2 = .success f → ∃ stories, f = .ofStories stories)
      (fun error rest => error.IsExcused ∧ s.Advances [.subtopic, .story] 0 rest) := by
  refine ((R.ensures_loadPagesAndStories hknown hlimit hpages).both
    (ensures_loadPagesAndStories_advances hdecided hsteady (hfresh _) (hfresh _))).mono ?_
    (fun _ _ => id)
  rintro ⟨_, _⟩ rest ⟨⟨hleaves, ⟨pages, hpages', rfl⟩, stories, hstories, rfl⟩, hadvances, hall⟩
  refine ⟨hleaves, hadvances, ?_, ?_, ?_⟩
  · intro htyped f f' heq
    obtain ⟨hsubtopics, hstories'⟩ := hall f f' heq
    obtain ⟨hf, hf'⟩ := Prod.mk.inj heq
    obtain ⟨loaded, rfl, rfl⟩ := Outcome.exists_of_combineAll_success hf
    obtain ⟨loaded', rfl, rfl⟩ := Outcome.exists_of_combineAll_success hf'
    have hp := htyped.pages_length (hpages'.imp fun _ _ => hleaves.known.settles)
      (Table.nodup_keys_ofEntries _)
    have hs := htyped.stories_length hstories (nodup_eraseDups _)
    constructor
    · intro group n hn
      cases group with
      | subtopic =>
        obtain rfl := Option.some.inj (hp.symm.trans hn)
        rw [Table.keys, List.length_map]
        exact hsubtopics
      | _ => cases hn
    · intro group n hn
      cases group with
      | story =>
        obtain rfl := Option.some.inj (hs.symm.trans hn)
        exact hstories'
      | _ => cases hn
  · intro f hf
    obtain ⟨loaded, -, rfl⟩ := Outcome.exists_of_combineAll_success hf
    exact ⟨_, rfl⟩
  · intro f hf
    obtain ⟨loaded, -, rfl⟩ := Outcome.exists_of_combineAll_success hf
    exact ⟨_, rfl⟩

theorem ensures_loadExplorations_counted (hknown : R.KnownIn s.cache) (hsteady : Steady s.events)
    (hfresh : (of s.events).places .exploration = []) (stories : Fragment) :
    Ensures (a.loadExplorations stories) s
      (fun o rest => R.Leaves [.exploration] s.cache rest.cache ∧
        s.Advances [.exploration] 0 rest ∧ R.Counts o rest ∧
        ∀ f, o = .success f → ∃ explorations, f = .ofExplorations explorations)
      (fun error rest => error.IsExcused ∧ s.Advances [.exploration] 0 rest) := by
  refine ((R.ensures_loadExplorations hknown hlimit stories).both
    (ensures_loadExplorations_advances hdecided hsteady hfresh stories)).mono ?_ (fun _ _ => id)
  rintro o rest ⟨⟨⟨found, hfound, rfl⟩, hleaves⟩, hadvances, hall⟩
  refine ⟨hleaves, hadvances, ?_, ?_⟩
  · intro htyped f hf group n hn
    have hcomplete := hall f hf
    obtain ⟨loaded, rfl, rfl⟩ := Outcome.exists_of_combineAll_success hf
    have hlength := htyped.explorations_length hfound (nodup_eraseDups _)
    cases group with
    | exploration =>
      obtain rfl := Option.some.inj (hlength.symm.trans hn)
      exact hcomplete
    | _ => cases hn
  · intro f hf
    obtain ⟨loaded, -, rfl⟩ := Outcome.exists_of_combineAll_success hf
    exact ⟨_, rfl⟩

theorem ensures_loadSkills_counted (hknown : R.KnownIn s.cache) (hsteady : Steady s.events)
    (hfresh : (of s.events).places .skill = []) (structures : List Loaded) :
    Ensures (a.loadSkills structures) s
      (fun o rest => R.Leaves [.skill] s.cache rest.cache ∧
        s.Advances [.skill] (SkillClosure.roundLimit a.maxRounds) rest ∧ R.Counts o rest)
      (fun error rest => error.IsExcused ∧
        s.Advances [.skill] (SkillClosure.roundLimit a.maxRounds) rest) := by
  unfold loadSkills SkillClosure.resolve
  rw [ensures_bind]
  refine ((R.ensures_grow hlimit _ _ hknown (nodup_eraseDups _)).both
    (SkillClosure.ensures_grow_advances hdecided a.limit _ _ hsteady hfresh)).mono ?_
    (fun _ _ => id)
  rintro o rest ⟨⟨hrounds, hleaves⟩, hadvances, hall⟩
  refine ⟨hleaves, hadvances, ?_⟩
  intro htyped f hf group n hn
  cases o with
  | success skills =>
    obtain rfl := Outcome.success.inj hf
    have hlength := htyped.skills_length hrounds (nodup_eraseDups _)
    cases group with
    | skill =>
      obtain rfl := Option.some.inj (hlength.symm.trans hn)
      exact hall skills rfl
    | _ => cases hn
  | pending => cases hf
  | failure reasons => cases hf

/-! ### One version of a topic -/

/-- **The fragments of a pack** are counted, if all of them are there. -/
theorem ensures_loadFragments_counted (hknown : R.KnownIn s.cache)
    (hpages : ∀ e ∈ pageErrands t, s.cache.history? e.id = none → (R.search e).Opens)
    (hsteady : Steady s.events) (hfresh : IsFresh s) :
    Ensures (a.loadFragments t) s
      (fun outcomes rest => s.Advances Group.all (SkillClosure.roundLimit a.maxRounds) rest ∧
        (IsTyped R.Settles → ∀ fragments : List Fragment, outcomes = fragments.map .success →
          ∀ f ∈ fragments, f.IsCounted (of rest.events)))
      (fun _ rest => s.Advances Group.all (SkillClosure.roundLimit a.maxRounds) rest) := by
  unfold loadFragments
  rw [ensures_bind]
  refine (ensures_loadPagesAndStories_counted hdecided hlimit hknown hpages hsteady hfresh).mono ?_
    (fun _ _ h => h.2.mono (by decide) (Nat.zero_le _))
  rintro ⟨pages, stories⟩ s₁ ⟨hleaves₁, hadvances₁, hcounted₁, hofPages, hofStories⟩
  have hfresh₁ := hadvances₁.places_eq_nil (hfresh .exploration) (by decide)
  simp only
  rw [ensures_bind]
  -- the explorations are looked for once the stories are there
  refine (ensures_bindM_success
    (K := fun rest => R.Leaves [.exploration] s₁.cache rest.cache ∧
      s₁.Advances [.exploration] 0 rest)
    (Q := fun _ e rest => (IsTyped R.Settles → e.IsCounted (of rest.events)) ∧
      ∃ explorations, e = .ofExplorations explorations)
    (E := fun _ rest => s₁.Advances [.exploration] 0 rest)
    ⟨.refl hleaves₁.known _, .refl hadvances₁.steady _ _⟩ fun f _ => ?_).mono ?_ ?_
  · refine (ensures_loadExplorations_counted hdecided hlimit hleaves₁.known hadvances₁.steady
      hfresh₁ f).mono ?_ (fun _ _ h => h.2)
    rintro o rest ⟨hleaves, hadvances, hcounts, hof⟩
    exact ⟨⟨hleaves, hadvances⟩, fun e he => ⟨fun htyped => hcounts htyped e he, hof e he⟩⟩
  swap
  · exact fun _ _ h => (hadvances₁.trans h).mono (by decide) (Nat.zero_le _)
  rintro explorations s₂ ⟨⟨hleaves₂, hadvances₂⟩, hcounted₂⟩
  have hfresh₂ := hadvances₂.places_eq_nil
    (hadvances₁.places_eq_nil (hfresh .skill) (by decide)) (by decide)
  have hjoin : ∀ {rest : Session Loaded σ},
      s₂.Advances [.skill] (SkillClosure.roundLimit a.maxRounds) rest →
      s.Advances Group.all (SkillClosure.roundLimit a.maxRounds) rest :=
    fun h => ((hadvances₁.trans hadvances₂).trans h).mono (by decide) (by omega)
  let K := fun rest : Session Loaded σ =>
    s₂.Advances [.skill] (SkillClosure.roundLimit a.maxRounds) rest
  have hkept : K s₂ := .refl hadvances₂.steady _ _
  rw [ensures_bind]
  unfold loadSkillsOf
  -- and the skills once everything else is there
  refine (ensures_bindM_success (K := K) hkept fun p _ =>
    ensures_bindM_success (K := K) hkept fun f _ =>
    ensures_bindM_success (K := K) hkept fun e _ =>
      (ensures_loadSkills_counted hdecided hlimit hleaves₂.known hadvances₂.steady hfresh₂
        (.topic t :: structures p ++ structures f ++ structures e)).mono
        (fun o rest h => ⟨h.2.1, fun k hk htyped => h.2.2 htyped k hk⟩)
        (fun _ _ h => h.2)).mono ?_ (fun _ _ => hjoin)
  rintro skills s₃ ⟨hadvances₃, hcounted₃⟩
  refine ⟨hjoin hadvances₃, ?_⟩
  intro htyped fragments heq
  obtain ⟨p, _, rfl, hp, heq⟩ := List.map_eq_cons_iff.mp heq.symm
  obtain ⟨f, _, rfl, hf, heq⟩ := List.map_eq_cons_iff.mp heq
  obtain ⟨e, _, rfl, he, heq⟩ := List.map_eq_cons_iff.mp heq
  obtain ⟨k, _, rfl, hk, heq⟩ := List.map_eq_cons_iff.mp heq
  obtain ⟨l, _, rfl, hl, heq⟩ := List.map_eq_cons_iff.mp heq
  obtain rfl := List.map_eq_nil_iff.mp heq
  -- later groups spare earlier ones
  obtain ⟨hp₁, hf₁⟩ := hcounted₁ htyped p f (by rw [hp, hf])
  obtain ⟨_, rfl⟩ := hofPages p hp.symm
  obtain ⟨_, rfl⟩ := hofStories f hf.symm
  obtain ⟨_, -, he₂, _, rfl⟩ := hcounted₂ e he.symm
  obtain ⟨_, -, _, -, _, -, hk₃⟩ := hcounted₃ k hk.symm
  have hskill : ∀ group ∈ [Group.skill], group = .skill := fun _ => List.mem_singleton.mp
  have hexploration : ∀ group ∈ [Group.exploration], group = .exploration :=
    fun _ => List.mem_singleton.mp
  intro fragment hfragment
  simp only [List.mem_cons, List.not_mem_nil, or_false] at hfragment
  rcases hfragment with rfl | rfl | rfl | rfl | rfl
  · exact (hp₁.of_advances hadvances₂ fun g hg => hexploration g hg ▸ rfl).of_advances hadvances₃
      fun g hg => hskill g hg ▸ rfl
  · exact (hf₁.of_advances hadvances₂ fun g hg => hexploration g hg ▸ rfl).of_advances hadvances₃
      fun g hg => hskill g hg ▸ rfl
  · exact (he₂ htyped).of_advances hadvances₃ fun g hg => hskill g hg ▸ rfl
  · exact hk₃ htyped
  · obtain rfl := Outcome.success.inj hl
    intro group n hn
    cases group <;> cases hn

theorem ensures_assemble_counted (hknown : R.KnownIn s.cache)
    (hpages : ∀ e ∈ pageErrands t, s.cache.history? e.id = none → (R.search e).Opens)
    (hsteady : Steady s.events) (hfresh : IsFresh s) :
    Ensures (a.assemble t) s
      (fun o rest => s.Advances Group.all (SkillClosure.roundLimit a.maxRounds) rest ∧
        (IsTyped R.Settles → ∀ f pack, o = .success f → f.toPack = .ok pack →
          pack.IsCounted (of rest.events)))
      (fun _ rest => s.Advances Group.all (SkillClosure.roundLimit a.maxRounds) rest) := by
  unfold assemble
  rw [ensures_bind]
  refine ((R.ensures_loadFragments hknown hlimit hpages).both
    (ensures_loadFragments_counted hdecided hlimit hknown hpages hsteady hfresh)).mono ?_
    (fun _ _ h => h.2)
  rintro outcomes rest ⟨⟨-, pages, -, hgathers⟩, hadvances, hcounted⟩
  rcases hgathers.cases with ⟨loaded, stories, explorations, skills, -, rfl⟩ | hfails
  · -- each section of the pack is that of one fragment
    refine (ensures_combine rfl).mono ?_ (fun _ _ hfalse => hfalse.elim)
    rintro _ _ ⟨rfl, rfl⟩
    refine ⟨hadvances, fun htyped f pack hf hpack group => ?_⟩
    obtain rfl := Outcome.success.inj hf
    obtain rfl := Except.ok.inj hpack
    have hall := hcounted htyped _ rfl
    simp only [List.forall_mem_cons] at hall
    obtain ⟨hp, hf, he, hk, -⟩ := hall
    cases group with
    | subtopic => exact hp .subtopic _ rfl
    | story => exact hf .story _ rfl
    | exploration => exact he .exploration _ rfl
    | skill => exact hk .skill _ rfl
  · refine (ensures_combine_of_fails hfails).mono ?_ (fun _ _ hfalse => hfalse.elim)
    rintro o _ ⟨rfl, rfl⟩
    exact ⟨hadvances, fun _ f _ hf => by cases hf⟩

/-- **An attempt** counts itself, it brings all groups forward, and the pack that it gives is
counted. -/
theorem ensures_attempt_counted (topicId : String) (hknown : R.KnownIn s.cache)
    (hpages : ∀ cache t, R.Leaves [.topic] s.cache cache →
      cache.IsSettled (.topic topicId) (.success (.topic t)) →
      ∀ e ∈ pageErrands t, cache.history? e.id = none → (R.search e).Opens)
    (hsteady : Steady s.events) (hfresh : IsFresh s) :
    let started := { s with attempts := s.attempts + 1 }
    Ensures (a.attempt topicId) s
      (fun o rest => started.Advances Group.all (SkillClosure.roundLimit a.maxRounds) rest ∧
        (IsTyped R.Settles → ∀ pack, o = .success pack → pack.IsCounted (of rest.events)))
      (fun _ rest => started.Advances Group.all (SkillClosure.roundLimit a.maxRounds) rest) := by
  intro started
  unfold attempt
  rw [ensures_bind, ensures_modify, ensures_bind]
  refine ((R.ensures_resolveTopic topicId (by exact hknown)).both
    (ensures_resolve_advances hdecided (.topic topicId) none (by exact hsteady))).mono ?_
    (fun _ _ h => h.2.mono (List.nil_subset _) (Nat.zero_le _))
  rintro o s₁ ⟨⟨hleaves, hsettled⟩, hadvances⟩
  have hfresh₁ : IsFresh s₁ := fun group =>
    hadvances.places_eq_nil (hfresh group) List.not_mem_nil
  have hjoin : ∀ {rest : Session Loaded σ},
      s₁.Advances Group.all (SkillClosure.roundLimit a.maxRounds) rest →
      started.Advances Group.all (SkillClosure.roundLimit a.maxRounds) rest :=
    fun h => (hadvances.trans h).mono (List.Subset.refl _) (by omega)
  rw [ensures_bind]
  refine (ensures_bindM_success
    (K := fun rest => s₁.Advances Group.all (SkillClosure.roundLimit a.maxRounds) rest)
    (Q := fun _ f rest => IsTyped R.Settles → ∀ pack, f.toPack = .ok pack →
      pack.IsCounted (of rest.events))
    (.refl hadvances.steady _ _) fun t ht => ?_).mono ?_ (fun _ _ => hjoin)
  · -- only a version of a topic is looked into
    have htopic : o = .success (.topic t) := by
      rcases o with _ | (t' | p | story | e | skill) | reasons <;> cases ht
      rfl
    refine (ensures_assemble_counted hdecided hlimit hleaves.known
      (hpages _ t hleaves (htopic ▸ hsettled)) hadvances.steady hfresh₁).mono ?_ (fun _ _ => id)
    rintro o' rest ⟨h, hcounted⟩
    exact ⟨h, fun f hf htyped pack hpack => hcounted htyped f pack hf hpack⟩
  · rintro fragment s₂ ⟨h, hcounted⟩
    cases fragment with
    | success f =>
      obtain ⟨_, -, hpack⟩ := hcounted f rfl
      show Ensures (Outcome.success <$> ofMisuse f.toPack) s₂ _ _
      cases htoPack : f.toPack with
      | ok pack =>
        refine ⟨hjoin h, fun htyped pack' hpack' => ?_⟩
        exact hpack htyped pack' (htoPack.trans (congrArg _ (Outcome.success.inj hpack')))
      | error what => exact hjoin h
    | pending => exact ⟨hjoin h, fun _ _ hpack => by cases hpack⟩
    | failure reasons => exact ⟨hjoin h, fun _ _ hpack => by cases hpack⟩

end Groups

end Regime

end ContentPack
