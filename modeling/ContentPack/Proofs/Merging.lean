import ContentPack.Fragment
import ContentPack.Proofs.Lists
import Mathlib.Data.List.Induction
import Mathlib.Tactic.Common

/-!
# Merging fragments in any order

A `Fragment.Merging` is a way to merge fragments: two parts are combined at a time, and each part is
a fragment or was merged before. A merging fails exactly if some field is populated by two of the
fragments; else its result depends on neither order nor bracketing, and holds in each field what the
one fragment has there that populates it (`Fragment.merging_laws`). So a pack comes of the fragments
exactly if every field is populated by exactly one of them.

The fields are looked up by what they are called (`Fragment.get`), so that every law is stated once
for all of them: when two fragments can be combined and to what (`combine_eq_ok_iff`), which field
is at fault if they cannot (`exists_of_combine_eq_error`), and what is carried over into a pack
(`toPack_eq_ok_iff`).
-/

namespace ContentPack

/-! ### Fields -/

/-- The fields of a pack. -/
inductive PackField where
  | topic
  | subtopicPages
  | stories
  | explorations
  | skills
  | defaultLanguage
  deriving DecidableEq, Repr

namespace PackField

/-- What a field is called in messages. -/
def name : PackField → String
  | topic => "topic"
  | subtopicPages => "subtopic_pages"
  | stories => "stories"
  | explorations => "explorations"
  | skills => "referenced_skills"
  | defaultLanguage => "default_language"

/-- What a field holds. -/
def Value : PackField → Type
  | topic => Topic
  | subtopicPages => Table Int SubtopicPage
  | stories => Table String Story
  | explorations => Table String CompleteExploration
  | skills => Table String Skill
  | defaultLanguage => Language

end PackField

/-- The value of a field of a pack. -/
def TopicPack.get (pack : TopicPack) : (field : PackField) → field.Value
  | .topic => pack.topic
  | .subtopicPages => pack.subtopicPages
  | .stories => pack.stories
  | .explorations => pack.explorations
  | .skills => pack.skills
  | .defaultLanguage => pack.defaultLanguage

namespace Fragment

/-- The value of a field, if it is populated. -/
def get (f : Fragment) : (field : PackField) → Option field.Value
  | .topic => f.topic
  | .subtopicPages => f.subtopicPages
  | .stories => f.stories
  | .explorations => f.explorations
  | .skills => f.skills
  | .defaultLanguage => f.defaultLanguage

/-- The field is populated; an empty section is a value, too. -/
def populates (field : PackField) (f : Fragment) : Bool := (f.get field).isSome

/-- The fragments that populate a field. -/
def populators (field : PackField) (fragments : List Fragment) : List Fragment :=
  fragments.filter (populates field)

@[ext] theorem ext_get {f g : Fragment} (h : ∀ field, f.get field = g.get field) : f = g := by
  cases f
  cases g
  have htopic := h .topic
  have hpages := h .subtopicPages
  have hstories := h .stories
  have hexplorations := h .explorations
  have hskills := h .skills
  have hlanguage := h .defaultLanguage
  simp only [get] at htopic hpages hstories hexplorations hskills hlanguage
  simp only [mk.injEq]
  exact ⟨htopic, hpages, hstories, hexplorations, hskills, hlanguage⟩

theorem get_empty (field : PackField) : empty.get field = none := by
  cases field <;> rfl

/-! ### Two fragments -/

theorem pick_eq_ok_iff {α : Type} {name : String} {left right value : Option α} :
    pick name left right = .ok value ↔
      (left = none ∧ value = right) ∨ (right = none ∧ value = left) := by
  cases left <;> cases right <;> simp [pick, eq_comm]

theorem pick_eq_error_iff {α : Type} {name : String} {left right : Option α} {what : Misuse} :
    pick name left right = .error what ↔
      what = .populatedTwice name ∧ left.isSome = true ∧ right.isSome = true := by
  cases left <;> cases right <;> simp [pick, eq_comm]

/-- **What two fragments are combined to**: each field is taken over from one side, and the other
side does not have it. -/
theorem combine_eq_ok_iff {left right f : Fragment} :
    left.combine right = .ok f ↔
      ∀ field, (left.get field = none ∧ f.get field = right.get field) ∨
        (right.get field = none ∧ f.get field = left.get field) := by
  unfold combine
  simp only [bind_eq_ok_iff, pick_eq_ok_iff]
  constructor
  · rintro ⟨_, htopic, _, hpages, _, hstories, _, hexplorations, _, hskills, _, hlanguage, hf⟩
    obtain rfl := Except.ok.inj hf
    intro field
    cases field with
    | topic => exact htopic
    | subtopicPages => exact hpages
    | stories => exact hstories
    | explorations => exact hexplorations
    | skills => exact hskills
    | defaultLanguage => exact hlanguage
  · intro h
    exact ⟨_, h .topic, _, h .subtopicPages, _, h .stories, _, h .explorations, _, h .skills,
      _, h .defaultLanguage, rfl⟩

/-- **The field at fault** is populated on both sides. -/
theorem exists_of_combine_eq_error {left right : Fragment} {what : Misuse}
    (h : left.combine right = .error what) :
    ∃ field : PackField, what = .populatedTwice field.name ∧ left.populates field = true ∧
      right.populates field = true := by
  unfold combine at h
  simp only [bind_eq_error_iff, pick_eq_error_iff] at h
  rcases h with h | ⟨_, -, h | ⟨_, -, h | ⟨_, -, h | ⟨_, -, h | ⟨_, -, h | ⟨_, -, h⟩⟩⟩⟩⟩⟩
  · exact ⟨.topic, h⟩
  · exact ⟨.subtopicPages, h⟩
  · exact ⟨.stories, h⟩
  · exact ⟨.explorations, h⟩
  · exact ⟨.skills, h⟩
  · exact ⟨.defaultLanguage, h⟩
  · cases h

theorem empty_combine (f : Fragment) : empty.combine f = .ok f := by
  rw [combine_eq_ok_iff]
  exact fun field => Or.inl ⟨get_empty field, rfl⟩

theorem combine_empty (f : Fragment) : f.combine empty = .ok f := by
  rw [combine_eq_ok_iff]
  exact fun field => Or.inr ⟨get_empty field, rfl⟩

/-! ### From a fragment to a pack -/

/-- **A pack takes all values over**, and needs them all. -/
theorem toPack_eq_ok_iff {f : Fragment} {pack : TopicPack} :
    f.toPack = .ok pack ↔ ∀ field, f.get field = some (pack.get field) := by
  obtain ⟨topic, pages, stories, explorations, skills, language⟩ := f
  constructor
  · intro h
    unfold toPack at h
    split at h
    · rename_i heq
      obtain ⟨rfl, rfl, rfl, rfl, rfl, rfl⟩ := mk.inj heq
      obtain rfl := Except.ok.inj h
      intro field
      cases field <;> rfl
    · cases h
  · intro h
    have htopic : topic = some pack.topic := h .topic
    have hpages : pages = some pack.subtopicPages := h .subtopicPages
    have hstories : stories = some pack.stories := h .stories
    have hexplorations : explorations = some pack.explorations := h .explorations
    have hskills : skills = some pack.skills := h .skills
    have hlanguage : language = some pack.defaultLanguage := h .defaultLanguage
    subst htopic hpages hstories hexplorations hskills hlanguage
    rfl

theorem exists_toPack_eq_ok {f : Fragment} (h : ∀ field, f.populates field = true) :
    ∃ pack, f.toPack = .ok pack := by
  obtain ⟨topic, htopic⟩ := Option.isSome_iff_exists.mp (h .topic)
  obtain ⟨pages, hpages⟩ := Option.isSome_iff_exists.mp (h .subtopicPages)
  obtain ⟨stories, hstories⟩ := Option.isSome_iff_exists.mp (h .stories)
  obtain ⟨explorations, hexplorations⟩ := Option.isSome_iff_exists.mp (h .explorations)
  obtain ⟨skills, hskills⟩ := Option.isSome_iff_exists.mp (h .skills)
  obtain ⟨language, hlanguage⟩ := Option.isSome_iff_exists.mp (h .defaultLanguage)
  refine ⟨⟨topic, pages, stories, explorations, skills, language⟩, ?_⟩
  rw [toPack_eq_ok_iff]
  intro field
  cases field with
  | topic => exact htopic
  | subtopicPages => exact hpages
  | stories => exact hstories
  | explorations => exact hexplorations
  | skills => exact hskills
  | defaultLanguage => exact hlanguage

/-! ### What fragments hold together -/

theorem populators_append (field : PackField) (fragments more : List Fragment) :
    populators field (fragments ++ more) = populators field fragments ++ populators field more :=
  List.filter_append ..

theorem populators_perm {fragments others : List Fragment} (h : fragments.Perm others)
    (field : PackField) : (populators field fragments).Perm (populators field others) :=
  h.filter _

/-- **The fragment collects others**: it has in each field what the only one of them has there that
populates the field, and nothing if there is none. -/
def Collects (f : Fragment) (fragments : List Fragment) : Prop :=
  ∀ field, (f.get field = none ∧ populators field fragments = []) ∨
    ∃ g, f.get field = g.get field ∧ g.populates field = true ∧ populators field fragments = [g]

section Collects

variable {f f' left right : Fragment} {fragments others : List Fragment} {field : PackField}

theorem collects_singleton (f : Fragment) : f.Collects [f] := by
  intro field
  by_cases h : f.populates field = true
  · exact Or.inr ⟨f, rfl, h, List.filter_cons_of_pos h⟩
  · have hnone : f.get field = none := by simpa [populates] using h
    exact Or.inl ⟨hnone, List.filter_cons_of_neg h⟩

theorem Collects.perm (h : f.Collects fragments) (hperm : fragments.Perm others) :
    f.Collects others := by
  intro field
  have hsame := populators_perm hperm field
  rcases h field with ⟨hnone, hnil⟩ | ⟨g, hget, hg, hsingle⟩
  · rw [hnil] at hsame
    exact Or.inl ⟨hnone, hsame.nil_eq.symm⟩
  · rw [hsingle] at hsame
    exact Or.inr ⟨g, hget, hg, (List.singleton_perm.mp hsame).symm⟩

/-- There is no other fragment that collects the same ones. -/
theorem Collects.unique (h : f.Collects fragments) (h' : f'.Collects fragments) : f = f' := by
  ext1 field
  rcases h field with ⟨hnone, hnil⟩ | ⟨g, hget, -, hsingle⟩
  · rcases h' field with ⟨hnone', -⟩ | ⟨g', -, -, hsingle'⟩
    · rw [hnone, hnone']
    · rw [hnil] at hsingle'
      cases hsingle'
  · rcases h' field with ⟨-, hnil'⟩ | ⟨g', hget', -, hsingle'⟩
    · rw [hsingle] at hnil'
      cases hnil'
    · rw [hsingle] at hsingle'
      rw [hget, hget', (List.cons.inj hsingle').1]

/-- A field of the collection is populated by one fragment, or by none. -/
theorem Collects.length_populators (h : f.Collects fragments) (field : PackField) :
    (populators field fragments).length = if f.populates field then 1 else 0 := by
  rcases h field with ⟨hnone, hnil⟩ | ⟨g, hget, hg, hsingle⟩
  · simp [populates, hnone, hnil]
  · have hf : f.populates field = true := by
      rw [populates, hget]
      exact hg
    simp [hsingle, hf]

theorem Collects.populators_eq_nil (h : f.Collects fragments) (hnone : f.get field = none) :
    populators field fragments = [] := by
  rw [← List.length_eq_zero_iff, h.length_populators, populates, hnone]
  rfl

/-- What two fragments are combined to collects what both collect. -/
theorem Collects.combine (hleft : left.Collects fragments) (hright : right.Collects others)
    (h : left.combine right = .ok f) : f.Collects (fragments ++ others) := by
  intro field
  rw [populators_append]
  rcases combine_eq_ok_iff.mp h field with ⟨hnone, hf⟩ | ⟨hnone, hf⟩
  · rw [hleft.populators_eq_nil hnone, List.nil_append, hf]
    exact hright field
  · rw [hright.populators_eq_nil hnone, List.append_nil, hf]
    exact hleft field

theorem Collects.exists_toPack_iff (h : f.Collects fragments) :
    (∃ pack, f.toPack = .ok pack) ↔ ∀ field, (populators field fragments).length = 1 := by
  constructor
  · rintro ⟨pack, hpack⟩ field
    have hvalue := toPack_eq_ok_iff.mp hpack field
    simp [h.length_populators, populates, hvalue]
  · intro hall
    refine exists_toPack_eq_ok fun field => ?_
    by_contra hnot
    have hlength := h.length_populators field
    rw [if_neg hnot, hall field] at hlength
    cases hlength

/-- The values of a pack are those of the fragments. -/
theorem Collects.exists_populators_eq (h : f.Collects fragments) {pack : TopicPack}
    (hpack : f.toPack = .ok pack) (field : PackField) :
    ∃ g, populators field fragments = [g] ∧ g.get field = some (pack.get field) := by
  have hvalue := toPack_eq_ok_iff.mp hpack field
  rcases h field with ⟨hnone, -⟩ | ⟨g, hget, -, hsingle⟩
  · rw [hnone] at hvalue
    cases hvalue
  · exact ⟨g, hsingle, hget ▸ hvalue⟩

end Collects

/-! ### Merging in any order -/

/-- **A way to merge fragments**, two parts at a time. -/
inductive Merging where
  /-- A fragment as it is. -/
  | single (f : Fragment)
  /-- Two parts, each merged beforehand. -/
  | both (left right : Merging)

namespace Merging

/-- The fragments that are merged, from left to right. -/
def parts : Merging → List Fragment
  | single f => [f]
  | both left right => left.parts ++ right.parts

/-- What comes of merging them. -/
def result : Merging → Except Misuse Fragment
  | single f => .ok f
  | both left right => do (← left.result).combine (← right.result)

theorem collects_of_result_eq_ok {m : Merging} {f : Fragment} (h : m.result = .ok f) :
    f.Collects m.parts := by
  induction m generalizing f with
  | single g =>
    obtain rfl := Except.ok.inj h
    exact collects_singleton g
  | both left right ihleft ihright =>
    obtain ⟨l, hl, h⟩ := bind_eq_ok_iff.mp h
    obtain ⟨r, hr, hcombine⟩ := bind_eq_ok_iff.mp h
    exact (ihleft hl).combine (ihright hr) hcombine

/-- **The field at fault** is populated by two of the fragments. -/
theorem exists_of_result_eq_error {m : Merging} {what : Misuse} (h : m.result = .error what) :
    ∃ field : PackField, what = .populatedTwice field.name ∧
      2 ≤ (populators field m.parts).length := by
  induction m with
  | single g => cases h
  | both left right ihleft ihright =>
    have hlength : ∀ field, (populators field (both left right).parts).length =
        (populators field left.parts).length + (populators field right.parts).length := by
      intro field
      rw [parts, populators_append, List.length_append]
    rcases bind_eq_error_iff.mp h with hl | ⟨l, hl, h⟩
    · obtain ⟨field, hwhat, htwo⟩ := ihleft hl
      exact ⟨field, hwhat, by rw [hlength]; omega⟩
    · rcases bind_eq_error_iff.mp h with hr | ⟨r, hr, hcombine⟩
      · obtain ⟨field, hwhat, htwo⟩ := ihright hr
        exact ⟨field, hwhat, by rw [hlength]; omega⟩
      · -- each part has a value of the field
        obtain ⟨field, hwhat, hleft, hright⟩ := exists_of_combine_eq_error hcombine
        have hone := (collects_of_result_eq_ok hl).length_populators field
        have hone' := (collects_of_result_eq_ok hr).length_populators field
        rw [if_pos hleft] at hone
        rw [if_pos hright] at hone'
        exact ⟨field, hwhat, by rw [hlength]; omega⟩

/-- Combining fragments one after another is a way to merge them. -/
theorem exists_result_eq_foldlM (first : Fragment) (rest : List Fragment) :
    ∃ m : Merging, m.parts = first :: rest ∧ m.result = rest.foldlM Fragment.combine first := by
  induction rest using List.reverseRecOn with
  | nil => exact ⟨single first, rfl, rfl⟩
  | append_singleton front last ih =>
    obtain ⟨m, hparts, hresult⟩ := ih
    refine ⟨both m (single last), ?_, ?_⟩
    · rw [parts, hparts]
      rfl
    · rw [List.foldlM_append, ← hresult]
      simp only [result, List.foldlM_cons, List.foldlM_nil, bind_pure]
      rfl

end Merging

/-- **Fragments are a partial commutative monoid.** However fragments are merged, in whatever order
and bracketing, the merging fails exactly if a field is populated by two of them, which the error
then names. Otherwise every way to merge them has the same result, which collects the values of
their fields; it makes a pack exactly if each field is populated by exactly one fragment, and the
pack has these values. Combining them one after another is one of the ways, and the empty fragment
changes nothing. -/
theorem merging_laws (fragments : List Fragment) :
    (∀ m : Merging, m.parts.Perm fragments →
      ((∃ what, m.result = .error what) ↔
        ∃ field, 2 ≤ (populators field fragments).length) ∧
      (∀ what, m.result = .error what → ∃ field : PackField,
        what = .populatedTwice field.name ∧ 2 ≤ (populators field fragments).length) ∧
      ∀ f, m.result = .ok f →
        (∀ m' : Merging, m'.parts.Perm fragments → m'.result = .ok f) ∧
        f.Collects fragments ∧
        ((∃ pack, f.toPack = .ok pack) ↔
          ∀ field, (populators field fragments).length = 1) ∧
        ∀ pack, f.toPack = .ok pack → ∀ field, ∃ g,
          populators field fragments = [g] ∧ g.get field = some (pack.get field)) ∧
    (∀ first rest, fragments = first :: rest → ∃ m : Merging,
      m.parts = fragments ∧ m.result = rest.foldlM Fragment.combine first) ∧
    ∀ f, empty.combine f = .ok f ∧ f.combine empty = .ok f := by
  have herror : ∀ {m : Merging} {what}, m.parts.Perm fragments → m.result = .error what →
      ∃ field : PackField, what = .populatedTwice field.name ∧
        2 ≤ (populators field fragments).length := by
    intro m what hperm hresult
    obtain ⟨field, hwhat, htwo⟩ := Merging.exists_of_result_eq_error hresult
    rw [(populators_perm hperm field).length_eq] at htwo
    exact ⟨field, hwhat, htwo⟩
  have hok : ∀ {m : Merging} {f}, m.parts.Perm fragments → m.result = .ok f →
      f.Collects fragments :=
    fun hperm hresult => (Merging.collects_of_result_eq_ok hresult).perm hperm
  have hone : ∀ {f : Fragment}, f.Collects fragments → ∀ field,
      ¬2 ≤ (populators field fragments).length := by
    intro f hcollects field
    rw [hcollects.length_populators]
    split <;> omega
  refine ⟨?_, ?_, fun f => ⟨empty_combine f, combine_empty f⟩⟩
  · intro m hperm
    refine ⟨⟨?_, ?_⟩, fun what => herror hperm, ?_⟩
    · rintro ⟨what, hresult⟩
      obtain ⟨field, -, htwo⟩ := herror hperm hresult
      exact ⟨field, htwo⟩
    · rintro ⟨field, htwo⟩
      cases hresult : m.result with
      | error what => exact ⟨what, rfl⟩
      | ok f => exact absurd htwo (hone (hok hperm hresult) field)
    · intro f hresult
      have hcollects := hok hperm hresult
      refine ⟨?_, hcollects, hcollects.exists_toPack_iff, fun pack =>
        hcollects.exists_populators_eq⟩
      intro m' hperm'
      cases hresult' : m'.result with
      | error what =>
        obtain ⟨field, -, htwo⟩ := herror hperm' hresult'
        exact absurd htwo (hone hcollects field)
      | ok f' => rw [hcollects.unique (hok hperm' hresult')]
  · rintro first rest rfl
    exact Merging.exists_result_eq_foldlM first rest

/-! ### Three fragments of a pack without content -/

namespace Bare

/-- The fields that come with the topic. -/
def root : Fragment :=
  { topic := some { id := "t", version := .first }, defaultLanguage := some .english }

/-- Sections without entries. -/
def sections : Fragment :=
  { subtopicPages := some [], stories := some [], explorations := some [] }

/-- No skills. -/
def skills : Fragment := ofSkills []

/-- **A pack without content comes of its fragments in any order**; sections without entries are
populated. -/
theorem merges_backwards :
    let forwards := Merging.both (.both (.single root) (.single sections)) (.single skills)
    let backwards := Merging.both (.single skills) (.both (.single sections) (.single root))
    forwards.parts.Perm [root, sections, skills] ∧ backwards.parts.Perm [root, sections, skills] ∧
      ∃ f pack, forwards.result = .ok f ∧ backwards.result = .ok f ∧ f.toPack = .ok pack ∧
        some pack.topic = root.topic := by
  intro forwards backwards
  have hforwards : forwards.parts.Perm [root, sections, skills] := .refl _
  have hbackwards : backwards.parts.Perm [root, sections, skills] := by decide +kernel
  obtain ⟨f, hresult⟩ : ∃ f, forwards.result = .ok f := ⟨_, rfl⟩
  obtain ⟨-, -, hlaws⟩ := (merging_laws [root, sections, skills]).1 forwards hforwards
  obtain ⟨hother, -, hpack, hvalues⟩ := hlaws f hresult
  obtain ⟨pack, htoPack⟩ := hpack.mpr fun field => by cases field <;> rfl
  refine ⟨hforwards, hbackwards, f, pack, hresult, hother backwards hbackwards, htoPack, ?_⟩
  obtain ⟨g, hg, hvalue⟩ := hvalues pack htoPack .topic
  -- only the first fragment has a topic
  obtain rfl : root = g := (List.cons.inj hg).1
  exact hvalue.symm

/-- Two sections without entries are still one too many. -/
example : skills.combine skills = .error (.populatedTwice "referenced_skills") := rfl

end Bare

end Fragment

end ContentPack
