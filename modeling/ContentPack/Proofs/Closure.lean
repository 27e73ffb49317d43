import ContentPack.Compatibility.Checker
import ContentPack.ConceptCard
import ContentPack.Proofs.Contents

/-!
# The closure of a topic

A structure refers to others (`Loaded.references`): a topic to the pages of its subtopics, to its
stories and to skills, a story to explorations and to skills, everything else to skills. What a
topic needs depends on the versions that are picked: the `Closure` of a topic holds what it refers
to, and what the picked version of a member refers to.

A topic is `Acceptable` if it is compatible and everything in its closure has a compatible version,
where the newest compatible versions (`Store.Newest`) are picked.
-/

namespace ContentPack

/-! ### Compatible versions -/

/-- Of the declared subtopic of a page, only its index counts. -/
def Checker.ByIndex (c : Checker) : Prop :=
  ∀ page (declared declared' : Subtopic), declared.id = declared'.id →
    c.page page (some declared) = c.page page (some declared')

theorem Checker.ByIndex.check_eq {c : Checker} (hc : c.ByIndex) {declared declared' : Subtopic}
    (h : declared.id = declared'.id) (l : Loaded) :
    c.check (some declared) l = c.check (some declared') l := by
  cases l with
  | page p => exact hc p declared declared' h
  | _ => rfl

/-- A stored version of a structure that the checker accepts. -/
structure Store.Compatible (store : Store) (checker : Checker) (subtopic : Option Subtopic)
    (id : StructureId) (l : Loaded) : Prop where
  /-- It is a stored version. -/
  stored : store.stored? id l.version = some l
  /-- The checker accepts it. -/
  accepted : checker.check subtopic l = .compatible

/-- **The newest compatible version** of a structure. -/
structure Store.Newest (store : Store) (checker : Checker) (subtopic : Option Subtopic)
    (id : StructureId) (l : Loaded) : Prop extends
    store.Compatible checker subtopic id l where
  /-- No compatible version is newer. -/
  greatest : ∀ l', store.Compatible checker subtopic id l' →
    l'.version.number ≤ l.version.number

theorem Store.Newest.unique {store : Store} {checker : Checker} {subtopic : Option Subtopic}
    {id : StructureId} {l l' : Loaded} (h : store.Newest checker subtopic id l)
    (h' : store.Newest checker subtopic id l') : l = l' := by
  have hle := h.greatest l' h'.toCompatible
  have hle' := h'.greatest l h.toCompatible
  have hversion : l.version = l'.version := Version.ext (Nat.le_antisymm hle' hle)
  have hstored := h.stored
  rw [hversion, h'.stored] at hstored
  exact (Option.some.inj hstored).symm

/-- Checks that agree on what is stored accept the same versions. -/
theorem Store.Compatible.congr {store : Store} {checker : Checker}
    {subtopic subtopic' : Option Subtopic} {id : StructureId} {l : Loaded}
    (hcheck : ∀ v l, store.stored? id v = some l →
      checker.check subtopic l = checker.check subtopic' l)
    (h : store.Compatible checker subtopic id l) : store.Compatible checker subtopic' id l :=
  ⟨h.stored, by rw [← hcheck _ _ h.stored, h.accepted]⟩

theorem Store.Newest.congr {store : Store} {checker : Checker}
    {subtopic subtopic' : Option Subtopic} {id : StructureId} {l : Loaded}
    (hcheck : ∀ v l, store.stored? id v = some l →
      checker.check subtopic l = checker.check subtopic' l)
    (h : store.Newest checker subtopic id l) : store.Newest checker subtopic' id l :=
  ⟨h.toCompatible.congr hcheck, fun l' hl' =>
    h.greatest l' (hl'.congr fun v l hl => (hcheck v l hl).symm)⟩

/-! ### References -/

/-- A subtopic for the check of a page, of which only the index counts. -/
def StructureId.bare : StructureId → Option Subtopic
  | .subtopic _ index => some { id := index }
  | _ => none

namespace Topic

/-- The subtopic as which a topic declares the page of an index. -/
def declared (t : Topic) : StructureId → Option Subtopic
  | .subtopic topicId index => if topicId = t.id then t.subtopicTable.get? index else none
  | _ => none

/-- A page that is declared, or anything that is not a page. -/
def Declares (t : Topic) : StructureId → Prop
  | .subtopic topicId index => topicId = t.id ∧ index ∈ t.subtopicTable.keys
  | _ => True

/-- A subtopic is declared under its own index. -/
theorem id_of_declared {t : Topic} {index : Int} {subtopic : Subtopic}
    (h : t.subtopicTable.get? index = some subtopic) : subtopic.id = index := by
  have hmem := (Table.get?_eq_some_iff (Table.nodup_keys_ofEntries _)).mp h
  obtain ⟨declared, -, heq⟩ := List.mem_map.mp (Table.mem_of_mem_ofEntries hmem)
  obtain ⟨rfl, rfl⟩ := Prod.mk.inj heq
  rfl

theorem declared_of_mem {t : Topic} {index : Int} {subtopic : Subtopic}
    (h : (index, subtopic) ∈ t.subtopicTable) :
    t.declared (.subtopic t.id index) = some subtopic := by
  unfold declared
  simp only [if_true]
  exact (Table.get?_eq_some_iff (Table.nodup_keys_ofEntries _)).mpr h

/-- The page of a declared subtopic is checked against a subtopic with its index. -/
theorem check_declared {checker : Checker} (hc : checker.ByIndex) {t : Topic} {id : StructureId}
    (h : t.Declares id) (l : Loaded) :
    checker.check (t.declared id) l = checker.check id.bare l := by
  cases id with
  | subtopic topicId index =>
    obtain ⟨rfl, hindex⟩ := h
    obtain ⟨entry, hentry, rfl⟩ := List.mem_map.mp hindex
    have hget : t.subtopicTable.get? entry.1 = some entry.2 :=
      (Table.get?_eq_some_iff (Table.nodup_keys_ofEntries _)).mpr hentry
    rw [declared_of_mem hentry]
    exact hc.check_eq (id_of_declared hget) l
  | _ => rfl

end Topic

/-- **What a version of a structure refers to.** -/
def Loaded.references (l : Loaded) : List StructureId :=
  (match l with
    | .topic t => t.subtopicTable.keys.map (.subtopic t.id) ++ t.storyIds.map .story
    | .story s => s.explorationIds.map .exploration
    | _ => []) ++ l.skillIds.map .skill

/-- **What a topic needs**: what it refers to, and what the picked versions of what it needs refer
to. -/
inductive Closure (pick : StructureId → Loaded → Prop) (t : Topic) : StructureId → Prop
  /-- The topic refers to it. -/
  | direct {id : StructureId} : id ∈ (Loaded.topic t).references → Closure pick t id
  /-- Something that the topic needs refers to it. -/
  | step {id other : StructureId} {l : Loaded} : Closure pick t id → pick id l →
      other ∈ l.references → Closure pick t other

/-- The newest compatible versions of what a topic needs. -/
def Topic.newest (t : Topic) (store : Store) (checker : Checker) (id : StructureId) :
    Loaded → Prop :=
  store.Newest checker (t.declared id) id

/-- **An acceptable version of a topic**: it is compatible, and everything in its closure has a
compatible version. -/
structure Topic.Acceptable (t : Topic) (store : Store) (checker : Checker) : Prop where
  /-- The checker accepts the topic. -/
  accepted : checker.topic t = .compatible
  /-- Everything that it needs has a compatible version. -/
  closed : ∀ id, Closure (t.newest store checker) t id →
    ∃ l, store.Compatible checker (t.declared id) id l

/-! ### What is in a closure -/

/-- Only topics refer to pages, and to those of their own subtopics. -/
theorem mem_references_subtopic {l : Loaded} {topicId : String} {index : Int}
    (h : .subtopic topicId index ∈ l.references) :
    ∃ t, l = .topic t ∧ topicId = t.id ∧ index ∈ t.subtopicTable.keys := by
  unfold Loaded.references at h
  cases l with
  | topic t =>
    simp only [List.mem_append, List.mem_map, StructureId.subtopic.injEq, reduceCtorEq, and_false,
      exists_false, or_false] at h
    obtain ⟨i, hi, htopic, rfl⟩ := h
    exact ⟨t, rfl, htopic.symm, hi⟩
  | page p => simp at h
  | story s => simp at h
  | exploration e => simp at h
  | skill s => simp at h

/-- Nothing refers to a topic. -/
theorem topic_notMem_references {l : Loaded} {topicId : String} :
    .topic topicId ∉ l.references := by
  intro h
  unfold Loaded.references at h
  cases l <;> simp at h

namespace Closure

variable {pick : StructureId → Loaded → Prop} {t : Topic} {id : StructureId}

/-- Everything in a closure is referred to. -/
theorem exists_references (h : Closure pick t id) :
    id ∈ (Loaded.topic t).references ∨ ∃ other l, pick other l ∧ id ∈ l.references ∧
      Closure pick t other := by
  cases h with
  | direct h => exact Or.inl h
  | step h hpick hmem => exact Or.inr ⟨_, _, hpick, hmem, h⟩

theorem not_topic {topicId : String} (h : Closure pick t (.topic topicId)) : False := by
  rcases h.exists_references with h | ⟨other, l, -, h, -⟩ <;>
    exact topic_notMem_references h

/-- The closure holds a page only if the topic declares it. -/
theorem declares
    (hkind : ∀ {id l t'}, pick id l → l = .topic t' → id.kind = .topic)
    (h : Closure pick t id) : t.Declares id := by
  unfold Topic.Declares
  split
  · rename_i topicId index
    have hdirect : ∃ t', Loaded.topic t = .topic t' ∧ topicId = t'.id ∧
        index ∈ t'.subtopicTable.keys := by
      rcases h.exists_references with h | ⟨other, l, hpick, h, hother⟩
      · exact mem_references_subtopic h
      · -- a member that refers to a page would be a topic, and nothing refers to a topic
        obtain ⟨t', rfl, -⟩ := mem_references_subtopic h
        have hother' := hkind hpick rfl
        cases other <;> simp only [StructureId.kind, reduceCtorEq] at hother'
        exact hother.not_topic.elim
    obtain ⟨t', heq, hdeclares⟩ := hdirect
    obtain rfl := Loaded.topic.inj heq
    exact hdeclares
  · exact trivial

end Closure

end ContentPack
