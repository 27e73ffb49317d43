import ContentPack.Proofs.Errands
import ContentPack.Proofs.Found

/-!
# What a closure of skills is

A closure of skills `Needs` the skills that it starts from, and those that the newest compatible
versions of its members refer to. Rounds that add what is referred to until nothing is added
(`Reaches`) end with exactly these skills (`Reaches.exists_ids`), and they can end in one way only
(`Reaches.unique`). That is what is resolved, if every skill has a compatible version
(`ensures_resolve`); else some skill of the closure has none.
-/

namespace ContentPack

namespace SkillClosure

/-! ### Rounds -/

section Rounds

variable {newest : String → Loaded → Prop} {ids : List String} {skills : List Loaded}

/-- **The least closure of skills**, given the version of each skill. -/
inductive Needs (newest : String → Loaded → Prop) (seeds : List String) : String → Prop
  /-- The closure starts from it. -/
  | seed {name : String} : name ∈ seeds → Needs newest seeds name
  /-- A member refers to it. -/
  | step {name other : String} {l : Loaded} : Needs newest seeds name → newest name l →
      other ∈ l.skillIds → Needs newest seeds other

/-- **Rounds that end**: as long as skills are added, there is another round. -/
inductive Reaches (newest : String → Loaded → Prop) : List String → List Loaded → Prop
  /-- Nothing is added. -/
  | closed {ids : List String} {skills : List Loaded} : List.Forall₂ newest ids skills →
      (expand ids skills).length = ids.length → Reaches newest ids skills
  /-- There is another round with what was added. -/
  | grows {ids : List String} {skills all : List Loaded} : List.Forall₂ newest ids skills →
      (expand ids skills).length ≠ ids.length → Reaches newest (expand ids skills) all →
      Reaches newest ids all

theorem mem_expand {name : String} :
    name ∈ expand ids skills ↔ name ∈ ids ∨ ∃ l ∈ skills, name ∈ l.skillIds := by
  unfold expand
  rw [List.mem_eraseDups, List.mem_append, List.mem_flatMap]

/-- If the number of skills does not change, none was added. -/
theorem mem_of_length_expand (hnodup : ids.Nodup) (h : (expand ids skills).length = ids.length)
    {name : String} (hname : name ∈ expand ids skills) : name ∈ ids := by
  have hexpand : expand ids skills =
      ids ++ ((skills.flatMap Loaded.skillIds).removeAll ids).eraseDups :=
    eraseDups_append_of_nodup hnodup _
  rw [hexpand, List.length_append] at h
  have hnil : ((skills.flatMap Loaded.skillIds).removeAll ids).eraseDups = [] :=
    List.length_eq_zero_iff.mp (by omega)
  rw [hexpand, hnil, List.append_nil] at hname
  exact hname

/-- Rounds end in one way only. -/
theorem Reaches.unique (hunique : Relator.RightUnique newest)
    {all all' : List Loaded} (h : Reaches newest ids all) (h' : Reaches newest ids all') :
    all = all' := by
  induction h with
  | closed hskills hsame =>
    cases h' with
    | closed hskills' _ => exact List.right_unique_forall₂' hunique hskills hskills'
    | grows hskills' hmore _ =>
      rw [List.right_unique_forall₂' hunique hskills' hskills] at hmore
      exact absurd hsame hmore
  | grows hskills hmore _ ih =>
    cases h' with
    | closed hskills' hsame =>
      rw [List.right_unique_forall₂' hunique hskills' hskills] at hsame
      exact absurd hsame hmore
    | grows hskills' _ hreaches =>
      rw [List.right_unique_forall₂' hunique hskills' hskills] at hreaches
      exact ih hreaches

/-- **Rounds end with the least closure**, in which every skill is there once. -/
theorem Reaches.exists_ids (hunique : Relator.RightUnique newest) {seeds : List String}
    {all : List Loaded} (h : Reaches newest ids all) (hnodup : ids.Nodup)
    (hseeds : ∀ name ∈ seeds, name ∈ ids)
    (hneeds : ∀ name ∈ ids, Needs newest seeds name) :
    ∃ final : List String, final.Nodup ∧ List.Forall₂ newest final all ∧
      (∀ name, name ∈ final ↔ Needs newest seeds name) := by
  induction h with
  | @closed ids skills hskills hsame =>
    refine ⟨ids, hnodup, hskills, fun name => ⟨hneeds name, ?_⟩⟩
    intro hname
    induction hname with
    | seed hname => exact hseeds _ hname
    | @step name other l _ hl hother ih =>
      -- the member has one version only, and that is among the skills of the last round
      obtain ⟨l', hl', hnewest⟩ := exists_right_of_forall₂ hskills ih
      rw [hunique hl hnewest] at hother
      exact mem_of_length_expand hnodup hsame (mem_expand.mpr (Or.inr ⟨l', hl', hother⟩))
  | grows hskills hmore hreaches ih =>
    refine ih nodup_expand ?_ ?_
    · exact fun name hname => mem_expand.mpr (Or.inl (hseeds name hname))
    · intro name hname
      rcases mem_expand.mp hname with hname | ⟨l, hl, hname⟩
      · exact hneeds name hname
      · obtain ⟨other, hother, hnewest⟩ := exists_left_of_forall₂ hskills hl
        exact .step (hneeds other hother) hnewest hname

end Rounds

/-! ### What is resolved -/

variable {store : Store} {checker : Checker} {window : Int}

theorem fits_of_mem_errands {ids : List String} {e : Errand} (he : e ∈ errands ids) :
    Resolver.Fits checker e := by
  obtain ⟨name, -, hid, hsubtopic⟩ := exists_of_mem_errands he
  exact ⟨by simp [hid, StructureId.kind], fun l => by rw [hsubtopic, hid]; rfl⟩

/-- The newest compatible versions of skills. -/
def newestSkill (store : Store) (checker : Checker) (name : String) : Loaded → Prop :=
  store.Newest checker none (.skill name)

theorem newestSkill_unique : Relator.RightUnique (newestSkill store checker) :=
  fun _ _ _ h h' => h.unique h'

/-- Some skill of a closure has no compatible version. -/
def LacksSkill (store : Store) (checker : Checker) (seeds : List String) : Prop :=
  ∃ name, Needs (newestSkill store checker) seeds name ∧
    ∀ l, ¬store.Compatible checker none (.skill name) l

/-- **Rounds are made until nothing is added**, or until a skill has no compatible version. -/
theorem ensures_grow (hs : store.Faithful) {limit : Option Nat} (hlimit : limit ≠ some 0)
    {seeds : List String} (rounds left : Nat) :
    ∀ {current : List String} {s : Session Loaded (List Request)},
      s.cache.Sound (topicFacts store checker) → current.Nodup →
      (∀ name ∈ current, Needs (newestSkill store checker) seeds name) →
      Work.Ensures (grow (.ofStore store checker window) limit rounds left current) s
        (fun o rest => Resolver.KeepsTopics store checker s rest ∧
          ((∃ skills, o = .success skills ∧
              Reaches (newestSkill store checker) current skills) ∨
            ∃ reasons, o = .failure reasons ∧ LacksSkill store checker seeds))
        (fun error _ => error.IsExcused) := by
  induction left with
  | zero =>
    -- the bound is reached, which is an excuse
    intro current s _ _ _
    exact Or.inr ⟨rounds, current.length, rfl⟩
  | succ left ih =>
    intro current s hsound hnodup hneeds
    have hids := nodup_errands hnodup
    unfold grow round
    rw [Work.ensures_bind, Work.ensures_bind, Work.ensures_report, Work.ensures_bind]
    refine (Resolver.ensures_find hs (fun e => fits_of_mem_errands) hids hlimit 1
      (by exact hsound)).mono ?_ (fun error _ hfetch => Or.inl hfetch)
    rintro outcomes s₁ ⟨hkeeps, hfinds⟩
    have hkeeps₁ : Resolver.KeepsTopics store checker s s₁ := ⟨hkeeps.sound, hkeeps.topics⟩
    rw [map_id_errands] at hfinds
    rw [Work.ensures_pure]
    rcases finds_flatten hfinds with
      ⟨skills, hflatten, hskills⟩ | ⟨reasons, hflatten, id, hid, hnone⟩
    · rw [List.forall₂_map_left_iff] at hskills
      have hnewest : List.Forall₂ (newestSkill store checker) current skills := hskills
      rw [hflatten]
      simp only
      split
      · rename_i hsame
        exact ⟨hkeeps₁, Or.inl ⟨skills, rfl, .closed hnewest hsame⟩⟩
      · rename_i hmore
        rw [Work.ensures_bind, Work.ensures_report]
        -- what is added is needed, because a member refers to it
        have hneeds' : ∀ name ∈ expand current skills,
            Needs (newestSkill store checker) seeds name := by
          intro name hname
          rcases mem_expand.mp hname with hname | ⟨l, hl, hname⟩
          · exact hneeds name hname
          · obtain ⟨other, hother, hl'⟩ := exists_left_of_forall₂ hnewest hl
            exact .step (hneeds other hother) hl' hname
        refine (ih (by exact hkeeps₁.sound) nodup_expand hneeds').mono ?_ (fun _ _ => id)
        rintro o s₂ ⟨hkeeps₂, hcase⟩
        refine ⟨hkeeps₁.trans ⟨hkeeps₂.sound, hkeeps₂.topics⟩, ?_⟩
        rcases hcase with ⟨all, rfl, hreaches⟩ | hlacks
        · exact Or.inl ⟨all, rfl, .grows hnewest hmore hreaches⟩
        · exact Or.inr hlacks
    · -- a member has no compatible version
      rw [hflatten]
      simp only
      obtain ⟨name, hname, rfl⟩ := List.mem_map.mp hid
      exact ⟨hkeeps₁, Or.inr ⟨reasons, rfl, name, hneeds name hname, hnone⟩⟩

/-- **The closure of skills is resolved**, or some skill in it has no compatible version. -/
theorem ensures_resolve (hs : store.Faithful) {limit : Option Nat} (hlimit : limit ≠ some 0)
    (maxRounds : Int) (seeds : List String) {s : Session Loaded (List Request)}
    (hsound : s.cache.Sound (topicFacts store checker)) :
    Work.Ensures (resolve (.ofStore store checker window) limit maxRounds seeds) s
      (fun o rest => Resolver.KeepsTopics store checker s rest ∧
        ((∃ skills, o = .success skills ∧
            Reaches (newestSkill store checker) seeds.eraseDups skills) ∨
          ∃ reasons, o = .failure reasons ∧ LacksSkill store checker seeds))
      (fun error _ => error.IsExcused) :=
  ensures_grow hs hlimit _ _ hsound (nodup_eraseDups seeds) fun _ hname =>
    .seed (List.mem_eraseDups.mp hname)

end SkillClosure

end ContentPack
