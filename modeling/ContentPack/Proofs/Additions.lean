import ContentPack.Proofs.Contents
import Mathlib.Data.List.Forall2
import Mathlib.Data.List.Induction
import Mathlib.Tactic.Common

/-!
# Stores as additions leave them

A store is filled by additions: versions of structures, and translations. Every addition has a key,
and it lasts until there is another one with its key (`Addition.IsLast`). A store holds the last
additions and nothing else (`Store.get?_versionsOf_eq_some_iff`,
`Store.get?_translations_eq_some_iff`), by induction on the additions from the last one back.

So the answers of a store say which additions it was filled with (`Store.HoldsLast`): the newest
version of a structure, the versions that are asked for in their order, or what is missing.
-/

namespace ContentPack

/-! ### Additions -/

/-- What is added to a store. -/
inductive Addition where
  /-- A version of a structure. -/
  | document (document : Document)
  /-- Translations of a version of an exploration. -/
  | translation (translation : Translation)

namespace Addition

/-- Add it to a store. -/
def addTo (store : Store) : Addition → Store
  | document d => store.add d
  | translation t => store.addTranslation t

/-- What an addition is kept under. -/
inductive Key where
  /-- A version of a structure. -/
  | version (id : StructureId) (version : Version)
  /-- A version of an exploration and the code of a language. -/
  | translation (explorationId : String) (version : Int) (languageCode : String)
  deriving DecidableEq

/-- The key of an addition. -/
def key : Addition → Key
  | document d => .version d.id d.version
  | translation t => .translation t.explorationId t.version t.languageCode

/-- **The addition was made, and none with the same key after it.** -/
def IsLast (additions : List Addition) (a : Addition) : Prop :=
  ∃ before after, additions = before ++ a :: after ∧ ∀ b ∈ after, b.key ≠ a.key

variable {additions : List Addition} {a b : Addition}

theorem IsLast.mem (h : IsLast additions a) : a ∈ additions := by
  obtain ⟨before, after, rfl, -⟩ := h
  simp

theorem not_isLast_nil (a : Addition) : ¬IsLast [] a := fun h => by simpa using h.mem

/-- One more addition is the last one with its key, and it leaves those with other keys. -/
theorem isLast_concat :
    IsLast (additions ++ [a]) b ↔ b = a ∨ (IsLast additions b ∧ b.key ≠ a.key) := by
  constructor
  · rintro ⟨before, after, heq, hafter⟩
    cases after using List.reverseRecOn with
    | nil =>
      obtain ⟨-, hlast⟩ := List.append_inj' heq rfl
      exact Or.inl (List.cons.inj hlast).1.symm
    | append_singleton after last =>
      rw [← List.cons_append, ← List.append_assoc] at heq
      obtain ⟨rfl, hlast⟩ := List.append_inj' heq rfl
      obtain rfl := (List.cons.inj hlast).1
      exact Or.inr ⟨⟨before, after, rfl, fun c hc => hafter c (by simp [hc])⟩,
        fun heq => hafter a (by simp) heq.symm⟩
  · rintro (rfl | ⟨⟨before, after, rfl, hafter⟩, hne⟩)
    · exact ⟨additions, [], rfl, by simp⟩
    · refine ⟨before, after ++ [a], by simp, fun c hc => ?_⟩
      rcases List.mem_append.mp hc with hc | hc
      · exact hafter c hc
      · rw [List.mem_singleton.mp hc]
        exact hne.symm

/-- If no key is used twice, every addition lasts. -/
theorem isLast_iff_mem (h : (additions.map key).Nodup) : IsLast additions a ↔ a ∈ additions := by
  refine ⟨IsLast.mem, fun ha => ?_⟩
  obtain ⟨before, after, rfl⟩ := List.append_of_mem ha
  refine ⟨before, after, rfl, fun b hb heq => ?_⟩
  rw [List.map_append, List.map_cons] at h
  have hnotMem := (List.nodup_cons.mp (List.nodup_append.mp h).2.1).1
  exact hnotMem (heq ▸ List.mem_map_of_mem hb)

/-- For every addition there is a last one with its key. -/
theorem exists_isLast (ha : a ∈ additions) : ∃ b, IsLast additions b ∧ b.key = a.key := by
  induction additions using List.reverseRecOn with
  | nil => cases ha
  | append_singleton additions c ih =>
    by_cases hkey : a.key = c.key
    · exact ⟨c, isLast_concat.mpr (Or.inl rfl), hkey.symm⟩
    · have hmem : a ∈ additions := by
        rcases List.mem_append.mp ha with hmem | hmem
        · exact hmem
        · exact absurd (congrArg key (List.mem_singleton.mp hmem)) hkey
      obtain ⟨b, hb, heq⟩ := ih hmem
      exact ⟨b, isLast_concat.mpr (Or.inr ⟨hb, heq ▸ hkey⟩), heq⟩

end Addition

/-! ### What a store holds -/

namespace Store

open Addition

/-- The store that additions fill. -/
def ofAdditions (additions : List Addition) : Store := additions.foldl addTo empty

theorem ofAdditions_concat (additions : List Addition) (a : Addition) :
    ofAdditions (additions ++ [a]) = a.addTo (ofAdditions additions) := by
  unfold ofAdditions
  rw [List.foldl_append]
  rfl

theorem faithful_ofAdditions (additions : List Addition) : (ofAdditions additions).Faithful := by
  induction additions using List.reverseRecOn with
  | nil => exact faithful_empty
  | append_singleton additions a ih =>
    rw [ofAdditions_concat]
    cases a with
    | document d => exact ih.add d
    | translation t => exact ih.addTranslation t

theorem get?_translations_addTranslation (s : Store) (t : Translation) (id : String)
    (version : Int) (code : String) :
    (s.addTranslation t).translations.get? (id, version, code) =
      if t.explorationId = id ∧ t.version = version ∧ t.languageCode = code then some t
      else s.translations.get? (id, version, code) := by
  show (s.translations.put (t.explorationId, t.version, t.languageCode) t).get? _ = _
  rw [Table.get?_put]
  simp only [Prod.mk.injEq]

/-- What a store holds under a key. -/
def kept? (s : Store) : Key → Option Addition
  | .version id v => ((s.versionsOf id.locator).get? v).map .document
  | .translation id v code => (s.translations.get? (id, v, code)).map .translation

theorem kept?_empty (k : Key) : empty.kept? k = none := by
  cases k <;> rfl

/-- An addition replaces what was held under its key, and nothing else. -/
theorem kept?_addTo (s : Store) (a : Addition) (k : Key) :
    (a.addTo s).kept? k = if a.key = k then some a else s.kept? k := by
  cases a with
  | document d =>
    cases k with
    | version id v =>
      show (((s.add d).versionsOf id.locator).get? v).map Addition.document = _
      rw [get?_versionsOf_add]
      simp only [StructureId.locator_injective.eq_iff, eq_comm (a := id), key, Key.version.injEq]
      split <;> rfl
    | translation id v code => exact (if_neg (by simp [key])).symm
  | translation t =>
    cases k with
    | version id v => exact (if_neg (by simp [key])).symm
    | translation id v code =>
      show ((s.addTranslation t).translations.get? (id, v, code)).map Addition.translation = _
      rw [get?_translations_addTranslation]
      simp only [key, Key.translation.injEq]
      split <;> rfl

/-- **A store holds the last additions**, each under its key. -/
theorem kept?_ofAdditions_eq_some_iff {additions : List Addition} {k : Key} {a : Addition} :
    (ofAdditions additions).kept? k = some a ↔ IsLast additions a ∧ a.key = k := by
  induction additions using List.reverseRecOn with
  | nil => exact iff_of_false (by simp [ofAdditions, kept?_empty]) fun h => not_isLast_nil a h.1
  | append_singleton additions b ih =>
    rw [ofAdditions_concat, kept?_addTo, isLast_concat]
    by_cases hkey : b.key = k
    · rw [if_pos hkey, Option.some.injEq]
      constructor
      · rintro rfl
        exact ⟨Or.inl rfl, hkey⟩
      · rintro ⟨rfl | ⟨-, hne⟩, heq⟩
        · rfl
        · exact absurd (heq.trans hkey.symm) hne
    · rw [if_neg hkey, ih]
      constructor
      · rintro ⟨hlast, rfl⟩
        exact ⟨Or.inr ⟨hlast, fun heq => hkey heq.symm⟩, rfl⟩
      · rintro ⟨rfl | ⟨hlast, -⟩, heq⟩
        · exact absurd heq hkey
        · exact ⟨hlast, heq⟩

/-- What was never added is not held. -/
theorem kept?_ofAdditions_eq_none_iff {additions : List Addition} {k : Key} :
    (ofAdditions additions).kept? k = none ↔ ∀ a ∈ additions, a.key ≠ k := by
  rw [Option.eq_none_iff_forall_ne_some]
  constructor
  · rintro h a ha rfl
    obtain ⟨b, hb⟩ := exists_isLast ha
    exact h b (kept?_ofAdditions_eq_some_iff.mpr hb)
  · intro h a ha
    obtain ⟨hlast, hkey⟩ := kept?_ofAdditions_eq_some_iff.mp ha
    exact h a hlast.mem hkey

section Kept

variable {additions : List Addition} {id : StructureId} {d : Document}

theorem get?_versionsOf_eq_some_iff {v : Version} :
    ((ofAdditions additions).versionsOf id.locator).get? v = some d ↔
      IsLast additions (.document d) ∧ d.id = id ∧ d.version = v := by
  rw [← Key.version.injEq, ← key, ← kept?_ofAdditions_eq_some_iff]
  simp [kept?]

/-- A structure is held at its own place only. -/
theorem get?_versionsOf_eq_some_iff_locator {place : Locator} {v : Version} :
    ((ofAdditions additions).versionsOf place).get? v = some d ↔
      IsLast additions (.document d) ∧ d.id.locator = place ∧ d.version = v := by
  constructor
  · intro h
    obtain ⟨hversion, rfl⟩ := (faithful_ofAdditions additions).own place v d h
    exact ⟨(get?_versionsOf_eq_some_iff.mp h).1, rfl, hversion⟩
  · rintro ⟨hlast, rfl, hversion⟩
    exact get?_versionsOf_eq_some_iff.mpr ⟨hlast, rfl, hversion⟩

theorem get?_translations_eq_some_iff {explorationId : String} {v : Int} {code : String}
    {t : Translation} :
    (ofAdditions additions).translations.get? (explorationId, v, code) = some t ↔
      IsLast additions (.translation t) ∧ t.explorationId = explorationId ∧ t.version = v ∧
        t.languageCode = code := by
  rw [← Key.translation.injEq, ← key, ← kept?_ofAdditions_eq_some_iff]
  simp [kept?]

theorem get?_versionsOf_eq_none_iff {v : Version} :
    ((ofAdditions additions).versionsOf id.locator).get? v = none ↔
      ∀ d, .document d ∈ additions → d.id = id → d.version ≠ v := by
  have hkept : (ofAdditions additions).kept? (.version id v) = none ↔ _ :=
    kept?_ofAdditions_eq_none_iff
  rw [kept?, Option.map_eq_none_iff] at hkept
  rw [hkept]
  constructor
  · rintro h d hd rfl rfl
    exact h (.document d) hd rfl
  · intro h a ha hkey
    cases a with
    | document d => exact h d ha (Key.version.inj hkey).1 (Key.version.inj hkey).2
    | translation t => cases hkey

theorem get?_translations_eq_none_iff {explorationId : String} {v : Int} {code : String} :
    (ofAdditions additions).translations.get? (explorationId, v, code) = none ↔
      ∀ t, .translation t ∈ additions →
        ¬(t.explorationId = explorationId ∧ t.version = v ∧ t.languageCode = code) := by
  have hkept : (ofAdditions additions).kept? (.translation explorationId v code) = none ↔ _ :=
    kept?_ofAdditions_eq_none_iff
  rw [kept?, Option.map_eq_none_iff] at hkept
  rw [hkept]
  constructor
  · rintro h t ht ⟨rfl, rfl, rfl⟩
    exact h (.translation t) ht rfl
  · intro h a ha hkey
    cases a with
    | document d => cases hkey
    | translation t => exact h t ha (Key.translation.inj hkey)

end Kept

/-! ### What the additions tell -/

section Additions

variable {additions : List Addition} {id : StructureId} {d : Document}

theorem version?_ofAdditions_eq_some_iff {n : Int} :
    (ofAdditions additions).version? id.locator n = some d ↔
      d.id = id ∧ d.version.toInt = n ∧ IsLast additions (.document d) := by
  rw [version?_eq_some_iff]
  constructor
  · rintro ⟨v, rfl, hd⟩
    obtain ⟨hlast, hid, rfl⟩ := get?_versionsOf_eq_some_iff.mp hd
    exact ⟨hid, rfl, hlast⟩
  · rintro ⟨hid, rfl, hlast⟩
    exact ⟨d.version, rfl, get?_versionsOf_eq_some_iff.mpr ⟨hlast, hid, rfl⟩⟩

theorem version?_ofAdditions_eq_none_iff {n : Int} :
    (ofAdditions additions).version? id.locator n = none ↔
      ∀ d, .document d ∈ additions → d.id = id → d.version.toInt ≠ n := by
  constructor
  · rintro hnone d hd rfl rfl
    rw [version?_toInt, get?_versionsOf_eq_none_iff] at hnone
    exact hnone d hd rfl rfl
  · intro h
    rw [Option.eq_none_iff_forall_ne_some]
    intro d hd
    obtain ⟨hid, hversion, hlast⟩ := version?_ofAdditions_eq_some_iff.mp hd
    exact h d hlast.mem hid hversion

/-- **The newest version is served** as it was added last. -/
theorem answer_latest_ofAdditions_eq_ok_iff :
    (ofAdditions additions).answer (.latest id.locator) = .ok d ↔
      d.id = id ∧ IsLast additions (.document d) ∧
        ∀ e, .document e ∈ additions → e.id = id → e.version.number ≤ d.version.number := by
  rw [(faithful_ofAdditions additions).answer_latest_eq_ok_iff, get?_versionsOf_eq_some_iff]
  constructor
  · rintro ⟨⟨hlast, hid, -⟩, hmax⟩
    refine ⟨hid, hlast, ?_⟩
    intro e he heid
    -- what was added last in place of an older edition has its number
    by_contra hlt
    refine get?_versionsOf_eq_none_iff.mp ?_ e he heid rfl
    rw [Option.eq_none_iff_forall_ne_some]
    intro f hf
    exact hlt (hmax e.version f hf)
  · rintro ⟨hid, hlast, hmax⟩
    refine ⟨⟨hlast, hid, rfl⟩, ?_⟩
    intro w e he
    obtain ⟨helast, heid, rfl⟩ := get?_versionsOf_eq_some_iff.mp he
    exact hmax e helast.mem heid

theorem answer_latest_ofAdditions_eq_error_iff {failure : FetchFailure} :
    (ofAdditions additions).answer (.latest id.locator) = .error failure ↔
      failure = .unknown id.locator ∧ ∀ d, .document d ∈ additions → d.id ≠ id := by
  rw [answer_latest_eq_error_iff]
  simp only [get?_versionsOf_eq_none_iff]
  refine and_congr_right fun _ => ⟨fun h d hd hid => h d.version d hd hid rfl, ?_⟩
  exact fun h v d hd hid _ => h d hd hid

/-- **Translations are served** as they were added last, or empty if they were not added. -/
theorem answer_translation_ofAdditions_eq_ok_iff {explorationId : String} {v : Int}
    {code : String} {t : Translation} :
    (ofAdditions additions).answer (.translation explorationId v code) = .ok t ↔
      (IsLast additions (.translation t) ∧ t.explorationId = explorationId ∧ t.version = v ∧
          t.languageCode = code) ∨
        (t = { explorationId, version := v, languageCode := code } ∧
          ∀ u, .translation u ∈ additions →
            ¬(u.explorationId = explorationId ∧ u.version = v ∧ u.languageCode = code)) := by
  rw [← get?_translations_eq_some_iff, ← get?_translations_eq_none_iff]
  cases h : (ofAdditions additions).translations.get? (explorationId, v, code) <;>
    simp [answer, translation, h, eq_comm]

end Additions

/-- **The last addition with a key wins.** This is what a store with some additions answers,
whatever it was asked before. -/
structure HoldsLast (s : Store) (additions : List Addition) : Prop where
  /-- The newest version is served as it was added last. -/
  latest : ∀ id asked d, (s.source.fetch (.latest id.locator) asked).1 = .ok d ↔
    d.id = id ∧ IsLast additions (.document d) ∧
      ∀ e, .document e ∈ additions → e.id = id → e.version.number ≤ d.version.number
  /-- Of a structure that was never added there is none. -/
  unknown : ∀ id asked, (∃ failure,
      (s.source.fetch (.latest id.locator) asked).1 = .error failure) ↔
    ∀ d, .document d ∈ additions → d.id ≠ id
  /-- Versions are served in the order in which they are asked for, as they were added last. -/
  versions : ∀ id (numbers : List Int) asked documents,
    (s.source.fetch (.versions id.locator numbers) asked).1 = .ok documents ↔
      List.Forall₂ (fun n d => d.id = id ∧ d.version.toInt = n ∧ IsLast additions (.document d))
        numbers documents
  /-- All of them must have been added. -/
  unknownVersions : ∀ id (numbers : List Int) asked, (∃ failure,
      (s.source.fetch (.versions id.locator numbers) asked).1 = .error failure) ↔
    ∃ n ∈ numbers, ∀ d, .document d ∈ additions → d.id = id → d.version.toInt ≠ n
  /-- Translations are served as they were added last, or empty if they were never added. -/
  translations : ∀ explorationId v code asked t,
    (s.source.fetch (.translation explorationId v code) asked).1 = .ok t ↔
      (IsLast additions (.translation t) ∧ t.explorationId = explorationId ∧ t.version = v ∧
          t.languageCode = code) ∨
        (t = { explorationId, version := v, languageCode := code } ∧
          ∀ u, .translation u ∈ additions →
            ¬(u.explorationId = explorationId ∧ u.version = v ∧ u.languageCode = code))

theorem holdsLast_ofAdditions (additions : List Addition) :
    (ofAdditions additions).HoldsLast additions where
  latest _ _ _ := answer_latest_ofAdditions_eq_ok_iff
  unknown id _ := by
    constructor
    · rintro ⟨failure, hfailure⟩
      exact (answer_latest_ofAdditions_eq_error_iff.mp hfailure).2
    · intro hnone
      exact ⟨_, answer_latest_ofAdditions_eq_error_iff.mpr ⟨rfl, hnone⟩⟩
  versions id numbers _ documents := by
    show (ofAdditions additions).answer (.versions id.locator numbers) = .ok documents ↔ _
    rw [answer_versions_eq_ok_iff]
    simp only [version?_ofAdditions_eq_some_iff]
  unknownVersions id numbers _ := by
    simp only [← version?_ofAdditions_eq_none_iff]
    constructor
    · rintro ⟨failure, hfailure⟩
      exact (answer_versions_eq_error_iff.mp hfailure).2
    · intro hnone
      exact ⟨_, answer_versions_eq_error_iff.mpr ⟨rfl, hnone⟩⟩
  translations _ _ _ _ _ := answer_translation_ofAdditions_eq_ok_iff

end Store

end ContentPack
