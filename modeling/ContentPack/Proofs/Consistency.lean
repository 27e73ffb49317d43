import ContentPack.Proofs.Resolution

/-!
# Consistent closures

A consistent closure of a topic is a choice of one compatible version for everything that the topic
needs when the chosen versions are followed (`Topic.IsConsistent`).

Only the version of the topic is ever stepped back. For everything else the search settles on the
newest compatible version, whatever that version refers to. So a topic can be reported although it
has a consistent closure (`misses_consistent`). But then some older version was chosen in it: the
newest compatible version of a member refers to something that the closure leaves out
(`exists_newer_of_incompatible`).

This takes a checker that goes by the index of a declared subtopic only. Else what a page came to
under the declaration of a newer version of the topic still counts when an older one is tried.
-/

namespace ContentPack

/-! ### Choices of versions -/

/-- **A consistent closure**: the topic is compatible, and so is the chosen version of everything
that it needs. -/
structure Topic.IsConsistent (t : Topic) (store : Store) (checker : Checker)
    (choice : StructureId → Loaded) : Prop where
  /-- The checker accepts the topic. -/
  accepted : checker.topic t = .compatible
  /-- What is chosen is stored, and the checker accepts it. -/
  chosen : ∀ id, Closure (fun id l => choice id = l) t id →
    store.Compatible checker (t.declared id) id (choice id)

namespace Closure

variable {pick pick' : StructureId → Loaded → Prop} {t : Topic} {id : StructureId}

/-- A closure that has something that another one lacks leaves it at some member of both. -/
theorem exists_leaving (h : Closure pick t id) (hnot : ¬Closure pick' t id) :
    ∃ member l other, Closure pick t member ∧ Closure pick' t member ∧ pick member l ∧
      other ∈ l.references ∧ ¬Closure pick' t other := by
  induction h with
  | direct hid => exact absurd (.direct hid) hnot
  | @step member other l hmember hl hother ih =>
    by_cases hmember' : Closure pick' t member
    · exact ⟨member, l, other, hmember, hmember', hl, hother, hnot⟩
    · exact ih hmember'

end Closure

/-- **A consistent closure of a topic that is not acceptable** holds an older version than the
newest compatible one of something, where the newest refers to something else. -/
theorem Topic.IsConsistent.exists_newer {t : Topic} {store : Store} {checker : Checker}
    {choice : StructureId → Loaded} (hchoice : t.IsConsistent store checker choice)
    (hnot : ¬t.Acceptable store checker) :
    ∃ id l other, Closure (fun id l => choice id = l) t id ∧ t.newest store checker id l ∧
      (choice id).version.number < l.version.number ∧ other ∈ l.references ∧
      ¬Closure (fun id l => choice id = l) t other := by
  obtain ⟨missing, hmissing, hnone⟩ := lacks_of_not_acceptable hchoice.accepted hnot
  have hout : ¬Closure (fun id l => choice id = l) t missing := fun h =>
    hnone _ (hchoice.chosen missing h)
  obtain ⟨id, l, other, -, hid, hl, hother, hleft⟩ := hmissing.exists_leaving hout
  refine ⟨id, l, other, hid, hl, ?_, hother, hleft⟩
  have hle := hl.greatest _ (hchoice.chosen id hid)
  -- at the same version there would be the same references
  by_contra hlt
  have hversion : (choice id).version = l.version :=
    Version.ext (Nat.le_antisymm hle (not_lt.mp hlt))
  have hstored := (hchoice.chosen id hid).stored
  rw [hversion, hl.stored] at hstored
  exact hleft (.step hid (Option.some.inj hstored).symm hother)

/-! ### Topics that are reported as incompatible -/

/-- **What is missed when a topic is reported as incompatible.** In every consistent closure of a
version of the topic there is something of which the newest compatible version was not chosen, and
that version refers to something outside of the closure. -/
theorem exists_newer_of_incompatible (documents : List Document) (translations : List Translation)
    (checker : Checker) (hindex : checker.ByIndex) (settings : ResolverSettings)
    (topicId : String) (reasons : List Rejection)
    (hreported : (Store.ofContents documents translations).resolvePack checker settings topicId =
      .error (.incompatibleTopic topicId reasons))
    (v : Version) (t : Topic) (choice : StructureId → Loaded)
    (ht : (Store.ofContents documents translations).stored? (.topic topicId) v = some (.topic t))
    (hchoice : t.IsConsistent (Store.ofContents documents translations) checker choice) :
    ∃ id l other, Closure (fun id l => choice id = l) t id ∧
      t.newest (Store.ofContents documents translations) checker id l ∧
      (choice id).version.number < l.version.number ∧ other ∈ l.references ∧
      ¬Closure (fun id l => choice id = l) t other := by
  have hs := Store.faithful_ofContents documents translations
  refine hchoice.exists_newer ?_
  rcases resolvePack_cases hs hindex settings topicId with
    ⟨o, hends, hresult⟩ | ⟨error, hresult, hexcused⟩
  · rw [hresult] at hreported
    rcases hends with ⟨t', m, v', rfl, -⟩ | ⟨reasons', rfl, huseless⟩
    · cases hreported
    · exact huseless v t ht
  · obtain rfl := Except.error.inj (hresult.symm.trans hreported)
    rcases hexcused with ⟨_, heq⟩ | ⟨_, _, heq⟩ <;> cases heq

/-! ### Consistent closures that are missed -/

/-- **A complete store**: below a version there is every older one, and of everything that is
referred to there is a version. -/
def Store.IsComplete (store : Store) : Prop :=
  ∀ entry ∈ store.documents, ∀ kept ∈ entry.2,
    (∀ n < kept.1.number, (entry.2.get? (.after n)).isSome) ∧
      ∀ other ∈ (store.complete kept.2).references, store.versionsOf other.locator ≠ []

instance (store : Store) : Decidable store.IsComplete :=
  inferInstanceAs <| Decidable <| ∀ entry ∈ store.documents, ∀ kept ∈ entry.2,
    (∀ n < kept.1.number, (entry.2.get? (.after n)).isSome) ∧
      ∀ other ∈ (store.complete kept.2).references, store.versionsOf other.locator ≠ []

/-- **A consistent closure is missed**: the store is complete, and the topic is reported. -/
structure Topic.IsMissed (t : Topic) (store : Store) (checker : Checker)
    (choice : StructureId → Loaded) : Prop where
  /-- The store lacks nothing. -/
  complete : store.IsComplete
  /-- The topic is reported as incompatible. -/
  reported : ∃ reasons,
    store.resolvePack checker {} t.id = .error (.incompatibleTopic t.id reasons)
  /-- This version of the topic is stored. -/
  stored : store.stored? (.topic t.id) t.version = some (.topic t)
  /-- It has a consistent closure. -/
  consistent : t.IsConsistent store checker choice

namespace Stepped

/-- The only version of the topic. -/
def topic : Topic := { id := "t", version := .first, canonicalStoryIds := ["s"] }

/-- The older version of its story, which stands alone. -/
def story : Story := { id := "s", version := .first }

/-- The topic, its story, and the exploration that the newer version of the story names. -/
def store : Store := .ofContents
  [.topic topic, .story story,
    .story { story with version := .after 1,
                        chapters := [{ id := "c", explorationId := some "e" }] },
    .exploration { id := "e", version := .first }] []

/-- The checker that accepts everything but the exploration. -/
def checker : Checker :=
  BlockedVersions.checker [{ kind := "exploration", id := "e", reasons := ["blocked"] }]

theorem resolvePack_eq : store.resolvePack checker {} "t" = .error (.incompatibleTopic "t"
    [{ kind := "exploration", structureId := "e", version := some 1, reason := "blocked" }]) := by
  decide +kernel

/-- The topic needs nothing but its story if the older version of that is chosen. -/
theorem eq_story_of_closure {id : StructureId}
    (h : Closure (fun _ l => Loaded.story story = l) topic id) : id = .story "s" := by
  induction h with
  | @direct id hid =>
    have hreferences : (Loaded.topic topic).references = [.story "s"] := by decide +kernel
    rw [hreferences] at hid
    exact List.mem_singleton.mp hid
  | step _ hl hother _ =>
    have hreferences : (Loaded.story story).references = [] := by decide +kernel
    rw [← hl, hreferences] at hother
    cases hother

/-- The older version of the story gives a consistent closure. -/
theorem isConsistent : topic.IsConsistent store checker fun _ => .story story where
  accepted := by decide +kernel
  chosen id hid := by
    obtain rfl := eq_story_of_closure hid
    exact ⟨by decide +kernel, by decide +kernel⟩

theorem isMissed : topic.IsMissed store checker fun _ => .story story where
  complete := by decide +kernel
  reported := ⟨_, resolvePack_eq⟩
  stored := by decide +kernel
  consistent := isConsistent

/-- The older version of the story was not the newest compatible one. -/
theorem exists_newer_of_stepped :
    ∃ id l other, Closure (fun _ l => Loaded.story story = l) topic id ∧
      topic.newest store checker id l ∧ story.version.number < l.version.number ∧
      other ∈ l.references ∧ ¬Closure (fun _ l => Loaded.story story = l) topic other :=
  exists_newer_of_incompatible _ [] checker (fun _ _ _ _ => rfl) {} "t" _ resolvePack_eq .first
    topic (fun _ => .story story) isMissed.stored isConsistent

end Stepped

namespace Redeclared

/-- A version of the topic, which declares its only subtopic under a title. -/
def topic (v : Version) (title : String) : Topic :=
  { id := "t", version := v, subtopics := [{ id := 1, title }] }

/-- The only version of the page of the subtopic. -/
def page : SubtopicPage := { topicId := "t", subtopicIndex := 1, version := .first }

/-- Two versions of the topic under different titles, and the page. -/
def store : Store := .ofContents
  [.topic (topic .first "old"), .topic (topic (.after 1) "new"), .page page] []

/-- The checker that accepts the page under the title of the older version only. -/
def checker : Checker where
  page _ declared := if declared.map (·.title) = some "old" then .compatible
    else .incompatible [{ kind := "subtopic", structureId := "t/1", reason := "title" }]

theorem resolvePack_eq : store.resolvePack checker {} "t" = .error (.incompatibleTopic "t"
    [{ kind := "subtopic", structureId := "t/1", reason := "title" }]) := by
  decide +kernel

/-- The older version of the topic needs nothing but the page. -/
theorem eq_page_of_closure {id : StructureId}
    (h : Closure (fun _ l => Loaded.page page = l) (topic .first "old") id) :
    id = .subtopic "t" 1 := by
  induction h with
  | @direct id hid =>
    have hreferences : (Loaded.topic (topic .first "old")).references = [.subtopic "t" 1] := by
      decide +kernel
    rw [hreferences] at hid
    exact List.mem_singleton.mp hid
  | step _ hl hother _ =>
    have hreferences : (Loaded.page page).references = [] := by decide +kernel
    rw [← hl, hreferences] at hother
    cases hother

/-- There is one version of the page. -/
theorem eq_page_of_stored {v : Version} {l : Loaded}
    (h : store.stored? (.subtopic "t" 1) v = some l) : l = .page page := by
  have hs : store.Faithful := Store.faithful_ofContents ..
  have hversions : store.versionsOf (StructureId.subtopic "t" 1).locator =
      [(.first, .page page)] := by decide +kernel
  obtain ⟨d, hd, rfl⟩ := Option.map_eq_some_iff.mp h
  have hentry := (Table.get?_eq_some_iff (hs.nodup _)).mp hd
  rw [hversions, List.mem_singleton] at hentry
  obtain ⟨rfl, rfl⟩ := Prod.mk.inj hentry
  rfl

theorem isMissed : (topic .first "old").IsMissed store checker fun _ => .page page where
  complete := by decide +kernel
  reported := ⟨_, resolvePack_eq⟩
  stored := by decide +kernel
  consistent :=
    { accepted := rfl
      chosen := fun id hid => by
        obtain rfl := eq_page_of_closure hid
        exact ⟨by decide +kernel, by decide +kernel⟩ }

/-- The page has no newer version. -/
theorem newest {id : StructureId}
    (h : Closure (fun _ l => Loaded.page page = l) (topic .first "old") id) :
    (topic .first "old").newest store checker id (.page page) where
  toCompatible := isMissed.consistent.chosen id h
  greatest l hl := by
    obtain rfl := eq_page_of_closure h
    rw [eq_page_of_stored hl.stored]

end Redeclared

/-- **The search misses consistent closures.** In one of them an older version of a story is
chosen. The other one holds the newest version of everything, but its page was rejected under the
declaration of a newer version of the topic. -/
theorem misses_consistent :
    Stepped.topic.IsMissed Stepped.store Stepped.checker (fun _ => .story Stepped.story) ∧
      (Redeclared.topic .first "old").IsMissed Redeclared.store Redeclared.checker
        (fun _ => .page Redeclared.page) ∧
      ∀ id, Closure (fun _ l => Loaded.page Redeclared.page = l)
          (Redeclared.topic .first "old") id →
        (Redeclared.topic .first "old").newest Redeclared.store Redeclared.checker id
          (.page Redeclared.page) :=
  ⟨Stepped.isMissed, Redeclared.isMissed, fun _ => Redeclared.newest⟩

end ContentPack
