import ContentPack.Fetch.Store
import ContentPack.Proofs.Table

/-!
# Stores that were filled with documents and translations

A store in memory starts empty, and then documents and translations are added to it
(`Store.ofContents`). Such a store is `Store.Faithful`: what it holds under a place and a version
is a document of that place and version. So a version that is loaded is a version of the structure
that was asked for (`Store.Faithful.locator_eq`, `Store.Faithful.version_eq`), and the newest one
is the greatest (`Store.Faithful.latest?_eq_some`).

What a store answers is read off what it holds: the newest version of a structure
(`Store.Faithful.answer_latest_eq_ok_iff`), versions in the order in which they are asked for
(`Store.answer_versions_eq_ok_iff`), or what is missing.

`Store.stored?` is a version as it comes out of a complete load: an exploration together with its
translations into all supported languages.
-/

namespace ContentPack

/-- The structure that a loaded version says it belongs to. -/
def Loaded.id : Loaded → StructureId
  | topic t => .topic t.id
  | page p => .subtopic p.topicId p.subtopicIndex
  | story s => .story s.id
  | exploration e => .exploration e.id
  | skill s => .skill s.id

/-- The number of a version reads back. -/
theorem Version.ofInt?_toInt (v : Version) : Version.ofInt? v.toInt = some v := by
  have hnum : v.toInt.toNat = v.number := Int.toNat_natCast v.number
  unfold ofInt?
  rw [dif_pos (by rw [hnum]; exact v.one_le)]
  congr 1

/-! ### Which structure is kept at a place -/

/-- A number that is written out consists of a sign and digits. -/
theorem toList_toString_int (index : Int) :
    (toString index).toList = if index < 0 then '-' :: Nat.toDigits 10 index.natAbs
      else Nat.toDigits 10 index.natAbs := by
  rw [Int.toString_eq_repr]
  cases index with
  | ofNat n =>
    rw [if_neg (show ¬Int.ofNat n < 0 from Int.not_lt.mpr (Int.natCast_nonneg n))]
    exact String.toList_ofList
  | negSucc n =>
    rw [if_pos (by omega)]
    show ("-" ++ n.succ.repr).toList = _
    rw [String.toList_append, Nat.repr, String.toList_ofList, String.toList_ofList]
    rfl

/-- What is not a digit is not there. -/
theorem notMem_toDigits {c : Char} (hc : c.isDigit = false) (n : Nat) : c ∉ Nat.toDigits 10 n := by
  intro hmem
  rw [Nat.isDigit_of_mem_toDigits (by decide) (by decide) hmem] at hc
  cases hc

theorem slash_notMem_toString (index : Int) : '/' ∉ (toString index).toList := by
  have hdigits : '/' ∉ Nat.toDigits 10 index.natAbs := notMem_toDigits rfl _
  rw [toList_toString_int]
  split
  · exact List.not_mem_cons_of_ne_of_not_mem (by decide) hdigits
  · exact hdigits

theorem toDigits_injective : Function.Injective (Nat.toDigits 10) := by
  intro n m h
  have hn := Nat.ofDigitChars_toDigits (b := 10) (n := n) (by decide) (by decide)
  rw [h, Nat.ofDigitChars_toDigits (by decide) (by decide)] at hn
  exact hn.symm

/-- A number can be read off its text. -/
theorem toString_int_injective : Function.Injective (toString : Int → String) := by
  intro index index' h
  have hchars := congrArg String.toList h
  have hminus : ∀ n m, '-' :: Nat.toDigits 10 n ≠ Nat.toDigits 10 m := by
    intro n m heq
    exact notMem_toDigits (c := '-') rfl m (heq ▸ List.mem_cons_self)
  rw [toList_toString_int, toList_toString_int] at hchars
  split at hchars
  · split at hchars
    · have habs := toDigits_injective (List.cons.inj hchars).2
      omega
    · exact absurd hchars (hminus _ _)
  · split at hchars
    · exact absurd hchars.symm (hminus _ _)
    · have habs := toDigits_injective hchars
      omega

/-- **No two structures are kept at one place.** -/
theorem StructureId.locator_injective : Function.Injective locator := by
  intro id other h
  obtain ⟨hkind, hkey⟩ := Locator.mk.inj h
  cases id <;> cases other <;> simp only [kind, reduceCtorEq] at hkind
  case subtopic.subtopic topicId index topicId' index' =>
    -- the index is what follows the last slash
    have hchars : topicId.toList ++ '/' :: (toString index).toList =
        topicId'.toList ++ '/' :: (toString index').toList := by
      have htext := congrArg String.toList hkey
      simp only [key, String.toList_append, List.append_assoc] at htext
      exact htext
    obtain ⟨htopic, hindex⟩ := eq_of_append_cons_eq hchars (slash_notMem_toString index)
      (slash_notMem_toString index')
    rw [String.toList_inj.mp htopic, toString_int_injective (String.toList_inj.mp hindex)]
  all_goals
    simp only [key] at hkey
    rw [hkey]

namespace Store

/-- The store that holds documents and translations, of which later ones replace earlier ones. -/
def ofContents (documents : List Document) (translations : List Translation) : Store :=
  translations.foldl addTranslation (documents.foldl add empty)

/-- A document together with what belongs to it. -/
def complete (s : Store) : Document → Loaded
  | .topic t => .topic t
  | .page p => .page p
  | .story st => .story st
  | .exploration e =>
    .exploration ⟨e, Language.supported.map fun language =>
      (language, s.translation e.id e.version.toInt language.code)⟩
  | .skill sk => .skill sk

/-- A version of a structure, as it is loaded from the store. -/
def stored? (s : Store) (id : StructureId) (v : Version) : Option Loaded :=
  ((s.versionsOf id.locator).get? v).map s.complete

/-- **The store has a gap** at a structure: there is no version of it, or an older one is
missing. -/
def HasGap (s : Store) (id : StructureId) : Prop :=
  (∀ v, s.stored? id v = none) ∨
    ∃ v w, v.number ≤ w.number ∧ s.stored? id v = none ∧ s.stored? id w ≠ none

@[simp] theorem id_complete (s : Store) (d : Document) : (s.complete d).id = d.id := by
  cases d <;> rfl

@[simp] theorem version_complete (s : Store) (d : Document) :
    (s.complete d).version = d.version := by
  cases d <;> rfl

theorem version?_toInt (s : Store) (place : Locator) (v : Version) :
    s.version? place v.toInt = (s.versionsOf place).get? v := by
  unfold version?
  rw [Version.ofInt?_toInt]
  rfl

/-! ### Faithful stores -/

/-- **A faithful store**: every document is kept at its own place under its own version, once. -/
structure Faithful (s : Store) : Prop where
  /-- The versions of a structure are distinct. -/
  nodup : ∀ place, (s.versionsOf place).keys.Nodup
  /-- What is kept under a version is that version of that structure. -/
  own : ∀ place v d, (s.versionsOf place).get? v = some d →
    d.version = v ∧ d.id.locator = place

theorem faithful_empty : empty.Faithful where
  nodup _ := List.nodup_nil
  own _ _ _ h := by cases h

theorem versionsOf_add (s : Store) (d : Document) (place : Locator) :
    (s.add d).versionsOf place =
      if place = d.id.locator then (s.versionsOf place).put d.version d
      else s.versionsOf place := by
  show ((s.documents.put d.id.locator _).get? place).getD [] = _
  simp only [Table.get?_put, eq_comm (b := place)]
  split
  · rename_i h
    rw [h]
    rfl
  · rfl

theorem get?_versionsOf_add (s : Store) (d : Document) (place : Locator) (version : Version) :
    ((s.add d).versionsOf place).get? version =
      if place = d.id.locator ∧ d.version = version then some d
      else (s.versionsOf place).get? version := by
  rw [versionsOf_add]
  by_cases hplace : place = d.id.locator
  · rw [if_pos hplace, Table.get?_put]
    simp only [hplace, true_and]
  · rw [if_neg hplace, if_neg fun h => hplace h.1]

/-- Adding a document keeps a store faithful. -/
theorem Faithful.add {s : Store} (hs : s.Faithful) (d : Document) : (s.add d).Faithful where
  nodup place := by
    rw [versionsOf_add]
    split
    · exact Table.nodup_keys_put (hs.nodup place) _ _
    · exact hs.nodup place
  own place v e h := by
    rw [get?_versionsOf_add] at h
    split at h
    · rename_i hown
      obtain rfl := Option.some.inj h
      exact ⟨hown.2, hown.1.symm⟩
    · exact hs.own place v e h

/-- Translations do not touch the documents. -/
theorem Faithful.addTranslation {s : Store} (hs : s.Faithful) (t : Translation) :
    (s.addTranslation t).Faithful := ⟨hs.nodup, hs.own⟩

theorem faithful_ofContents (documents : List Document) (translations : List Translation) :
    (ofContents documents translations).Faithful := by
  have hdocuments : ∀ (documents : List Document) (s : Store), s.Faithful →
      (documents.foldl Store.add s).Faithful := by
    intro documents
    induction documents with
    | nil => intro s hs; exact hs
    | cons d rest ih => intro s hs; exact ih (s.add d) (hs.add d)
  have htranslations : ∀ (translations : List Translation) (s : Store), s.Faithful →
      (translations.foldl Store.addTranslation s).Faithful := by
    intro translations
    induction translations with
    | nil => intro s hs; exact hs
    | cons t rest ih => intro s hs; exact ih (s.addTranslation t) (hs.addTranslation t)
  exact htranslations _ _ (hdocuments _ _ faithful_empty)

section Faithful

variable {s : Store} (hs : s.Faithful) {id : StructureId} {v : Version} {l : Loaded}

include hs

theorem Faithful.version_eq (hl : s.stored? id v = some l) : l.version = v := by
  obtain ⟨d, hd, rfl⟩ := Option.map_eq_some_iff.mp hl
  rw [version_complete]
  exact (hs.own _ _ _ hd).1

theorem Faithful.locator_eq (hl : s.stored? id v = some l) : l.id.locator = id.locator := by
  obtain ⟨d, hd, rfl⟩ := Option.map_eq_some_iff.mp hl
  rw [id_complete]
  exact (hs.own _ _ _ hd).2

theorem Faithful.id_eq (hl : s.stored? id v = some l) : l.id = id :=
  StructureId.locator_injective (hs.locator_eq hl)

theorem Faithful.exists_topic {name : String} (hl : s.stored? (.topic name) v = some l) :
    ∃ t, l = .topic t ∧ t.id = name := by
  have hid := hs.id_eq hl
  cases l <;> simp only [Loaded.id, reduceCtorEq, StructureId.topic.injEq] at hid
  exact ⟨_, rfl, hid⟩

theorem Faithful.exists_story {name : String} (hl : s.stored? (.story name) v = some l) :
    ∃ st, l = .story st ∧ st.id = name := by
  have hid := hs.id_eq hl
  cases l <;> simp only [Loaded.id, reduceCtorEq, StructureId.story.injEq] at hid
  exact ⟨_, rfl, hid⟩

theorem Faithful.exists_exploration {name : String}
    (hl : s.stored? (.exploration name) v = some l) :
    ∃ e, l = .exploration e ∧ e.id = name := by
  have hid := hs.id_eq hl
  cases l <;> simp only [Loaded.id, reduceCtorEq, StructureId.exploration.injEq] at hid
  exact ⟨_, rfl, hid⟩

theorem Faithful.exists_skill {name : String} (hl : s.stored? (.skill name) v = some l) :
    ∃ sk, l = .skill sk ∧ sk.id = name := by
  have hid := hs.id_eq hl
  cases l <;> simp only [Loaded.id, reduceCtorEq, StructureId.skill.injEq] at hid
  exact ⟨_, rfl, hid⟩

theorem Faithful.exists_page {name : String} {index : Int}
    (hl : s.stored? (.subtopic name index) v = some l) : ∃ p, l = .page p := by
  have hkind : l.id.kind = .subtopic := congrArg Locator.kind (hs.locator_eq hl)
  cases l <;> simp only [Loaded.id, StructureId.kind, reduceCtorEq] at hkind
  exact ⟨_, rfl⟩

end Faithful

/-! ### What a store answers -/

/-- The newest of some entries is one of them, and none is newer. -/
theorem foldl_newer_spec (entry : Version × Document) (entries : List (Version × Document)) :
    entries.foldl newer entry ∈ entry :: entries ∧
      ∀ other ∈ entry :: entries, other.1.number ≤ (entries.foldl newer entry).1.number := by
  induction entries generalizing entry with
  | nil => simp
  | cons next rest ih =>
    obtain ⟨hmem, hmax⟩ := ih (newer entry next)
    have hnewer : newer entry next = entry ∨ newer entry next = next := by
      unfold newer
      split
      · exact Or.inr rfl
      · exact Or.inl rfl
    have hboth : entry.1.number ≤ (newer entry next).1.number ∧
        next.1.number ≤ (newer entry next).1.number := by
      unfold newer
      split <;> constructor <;> omega
    rw [List.foldl_cons]
    constructor
    · rcases List.mem_cons.mp hmem with h | h
      · rw [h]
        rcases hnewer with h' | h' <;> rw [h'] <;> simp
      · exact List.mem_cons_of_mem _ (List.mem_cons_of_mem _ h)
    · intro other hother
      have hbest := hmax _ List.mem_cons_self
      rcases List.mem_cons.mp hother with rfl | hother
      · exact Nat.le_trans hboth.1 hbest
      · rcases List.mem_cons.mp hother with rfl | hother
        · exact Nat.le_trans hboth.2 hbest
        · exact hmax _ (List.mem_cons_of_mem _ hother)

/-- The newest version is kept, and no version is newer. -/
theorem Faithful.latest?_eq_some {s : Store} (hs : s.Faithful) {place : Locator} {d : Document}
    (h : s.latest? place = some d) :
    (s.versionsOf place).get? d.version = some d ∧
      ∀ w e, (s.versionsOf place).get? w = some e → w.number ≤ d.version.number := by
  unfold latest? at h
  split at h
  · cases h
  · rename_i entry rest hversions
    obtain ⟨hmem, hmax⟩ := foldl_newer_spec entry rest
    rw [← hversions] at hmem hmax
    have hentry := (Table.get?_eq_some_iff (hs.nodup place)).mpr hmem
    obtain rfl := Option.some.inj h
    obtain ⟨hversion, -⟩ := hs.own place _ _ hentry
    rw [hversion]
    refine ⟨hentry, ?_⟩
    intro w e he
    exact hmax _ ((Table.get?_eq_some_iff (hs.nodup place)).mp he)

/-- There is a newest version of every structure with a version. -/
theorem exists_latest? {s : Store} {place : Locator} {v : Version} {d : Document}
    (h : (s.versionsOf place).get? v = some d) : ∃ e, s.latest? place = some e := by
  unfold latest?
  split
  · rename_i hversions
    rw [hversions] at h
    cases h
  · exact ⟨_, rfl⟩

theorem Faithful.latest?_eq_some_iff {s : Store} (hs : s.Faithful) {place : Locator}
    {d : Document} :
    s.latest? place = some d ↔ (s.versionsOf place).get? d.version = some d ∧
      ∀ w e, (s.versionsOf place).get? w = some e → w.number ≤ d.version.number := by
  refine ⟨hs.latest?_eq_some, fun ⟨hd, hmax⟩ => ?_⟩
  obtain ⟨e, he⟩ := exists_latest? hd
  obtain ⟨hget, hmax'⟩ := hs.latest?_eq_some he
  have hversion : e.version = d.version :=
    Version.ext (Nat.le_antisymm (hmax _ e hget) (hmax' _ d hd))
  rw [hversion, hd] at hget
  rw [he, hget]

/-- The newest version of a structure is the answer. -/
theorem Faithful.answer_latest_eq_ok_iff {s : Store} (hs : s.Faithful) {place : Locator}
    {d : Document} :
    s.answer (.latest place) = .ok d ↔ (s.versionsOf place).get? d.version = some d ∧
      ∀ w e, (s.versionsOf place).get? w = some e → w.number ≤ d.version.number := by
  rw [← hs.latest?_eq_some_iff]
  cases h : s.latest? place <;> simp [answer, h]

theorem latest?_eq_none_iff {s : Store} {place : Locator} :
    s.latest? place = none ↔ ∀ v, (s.versionsOf place).get? v = none := by
  constructor
  · intro hnone v
    rw [Option.eq_none_iff_forall_ne_some]
    intro d hd
    obtain ⟨e, he⟩ := exists_latest? hd
    simp [hnone] at he
  · intro h
    unfold latest?
    split
    · rfl
    · rename_i entry rest hversions
      have hentry := h entry.1
      simp [hversions, Table.get?] at hentry

/-- The request fails if the structure has no version. -/
theorem answer_latest_eq_error_iff {s : Store} {place : Locator} {failure : FetchFailure} :
    s.answer (.latest place) = .error failure ↔
      failure = .unknown place ∧ ∀ v, (s.versionsOf place).get? v = none := by
  rw [← latest?_eq_none_iff]
  cases h : s.latest? place <;> simp [answer, h, eq_comm]

/-- A version by its number. -/
theorem version?_eq_some_iff {s : Store} {place : Locator} {n : Int} {d : Document} :
    s.version? place n = some d ↔
      ∃ v : Version, v.toInt = n ∧ (s.versionsOf place).get? v = some d := by
  constructor
  · intro h
    obtain ⟨v, hv, hd⟩ := Option.bind_eq_some_iff.mp h
    refine ⟨v, ?_, hd⟩
    unfold Version.ofInt? at hv
    split at hv
    · obtain rfl := Option.some.inj hv
      simp only [Version.toInt]
      omega
    · cases hv
  · rintro ⟨v, rfl, hd⟩
    rw [version?_toInt, hd]

section Versions

variable {s : Store} {place : Locator} {numbers : List Int}

/-- All versions that are asked for are the answer, in their order. -/
theorem answer_versions_eq_ok_iff {documents : List Document} :
    s.answer (.versions place numbers) = .ok documents ↔
      List.Forall₂ (fun n d => s.version? place n = some d) numbers documents := by
  rw [forall₂_eq_some_iff]
  cases hmissing : numbers.filter fun n => (s.version? place n).isNone with
  | nil => simp [answer, hmissing, eq_comm]
  | cons n rest => simp [answer, hmissing]

/-- The request fails if one of them is missing, and names those that are. -/
theorem answer_versions_eq_error_iff {failure : FetchFailure} :
    s.answer (.versions place numbers) = .error failure ↔
      failure = .unknownVersions (numbers.filter fun n => (s.version? place n).isNone) place ∧
        ∃ n ∈ numbers, s.version? place n = none := by
  have hnil : (numbers.filter fun n => (s.version? place n).isNone) ≠ [] ↔
      ∃ n ∈ numbers, s.version? place n = none := by
    simp [List.filter_eq_nil_iff]
  rw [← hnil]
  cases hmissing : numbers.filter fun n => (s.version? place n).isNone with
  | nil => simp [answer, hmissing]
  | cons n rest => simp [answer, hmissing, eq_comm]

end Versions

/-- If all versions of a list are kept, they are served in its order; else the request fails. -/
theorem answer_versions (s : Store) (place : Locator) (versions : List Version) :
    (∃ documents, s.answer (.versions place (versions.map Version.toInt)) = .ok documents ∧
        List.Forall₂ (fun v d => (s.versionsOf place).get? v = some d) versions documents) ∨
      (∃ failure, s.answer (.versions place (versions.map Version.toInt)) = .error failure ∧
        ∃ v ∈ versions, (s.versionsOf place).get? v = none) := by
  cases hanswer : s.answer (.versions place (versions.map Version.toInt)) with
  | ok documents =>
    have hserved := answer_versions_eq_ok_iff.mp hanswer
    simp only [List.forall₂_map_left_iff, version?_toInt] at hserved
    exact Or.inl ⟨documents, rfl, hserved⟩
  | error failure =>
    obtain ⟨-, n, hn, hnone⟩ := answer_versions_eq_error_iff.mp hanswer
    obtain ⟨v, hv, rfl⟩ := List.mem_map.mp hn
    rw [version?_toInt] at hnone
    exact Or.inr ⟨failure, rfl, v, hv, hnone⟩

end Store

end ContentPack
