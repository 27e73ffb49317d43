import ContentPack.Fetch.Fixture
import ContentPack.Proofs.Additions
import ContentPack.Proofs.Lists
import ContentPack.Proofs.Resolution

/-!
# Stores hold what was added last

A store is a map on which the last addition with a key wins, and no two keys are confused
(`Store.last_addition_wins`). So if no key is used twice, the order of the additions does not matter
(`Store.source_ofAdditions_congr`).

A fixture is a way to write additions down (`Fixture.additions`, `Store.ofFixture_obj`). Its entries
are read one by one, so they add the same in any order (`Fixture.Reorders.exists_additions`); and no
two of them have the same key if this can be said of every section
(`Fixture.IsDistinct.nodup_keys`).
-/

namespace ContentPack

/-! ### The order of additions -/

namespace Store

open Addition

/-- A store is what it has under its keys, as far as answers are concerned. -/
theorem answer_congr {s s' : Store} (hs : s.Faithful) (hs' : s'.Faithful)
    (hversions : ∀ place v, (s'.versionsOf place).get? v = (s.versionsOf place).get? v)
    (htranslations : ∀ k, s'.translations.get? k = s.translations.get? k) (r : Request) :
    s'.answer r = s.answer r := by
  cases r with
  | latest place =>
    have hlatest : s'.latest? place = s.latest? place := by
      ext d
      rw [hs'.latest?_eq_some_iff, hs.latest?_eq_some_iff]
      simp only [hversions]
    simp only [answer, hlatest]
  | versions place numbers =>
    have hversion : s'.version? place = s.version? place := by
      ext n : 1
      simp only [version?, hversions]
    simp only [answer, hversion]
  | translation explorationId v code =>
    simp only [answer, translation, htranslations]

/-- If no two additions have the same key, their order does not matter. -/
theorem source_ofAdditions_congr {additions additions' : List Addition}
    (hperm : additions'.Perm additions) (hkeys : (additions.map key).Nodup) :
    (ofAdditions additions').source = (ofAdditions additions).source := by
  have hkeys' : (additions'.map key).Nodup := (hperm.map key).nodup_iff.mpr hkeys
  have hlast : ∀ a, IsLast additions' a ↔ IsLast additions a := by
    intro a
    rw [isLast_iff_mem hkeys', isLast_iff_mem hkeys, hperm.mem_iff]
  have hversions : ∀ place v, ((ofAdditions additions').versionsOf place).get? v =
      ((ofAdditions additions).versionsOf place).get? v := by
    intro place v
    ext d
    rw [get?_versionsOf_eq_some_iff_locator, get?_versionsOf_eq_some_iff_locator, hlast]
  have htranslations : ∀ k, (ofAdditions additions').translations.get? k =
      (ofAdditions additions).translations.get? k := by
    intro k
    ext t
    rw [get?_translations_eq_some_iff, get?_translations_eq_some_iff, hlast]
  have hanswer := answer_congr (faithful_ofAdditions additions) (faithful_ofAdditions additions')
    hversions htranslations
  unfold source
  simp only [hanswer]

end Store

/-! ### Fixtures -/

namespace Fixture

/-- What is read from the entries of a section, in their order. -/
def readSection {α : Type} (fixture : Json) (name : String) (read : Json → Except Misfit α) :
    Except FixtureFault (List α) := do
  (← items (fixture.get? name)).mapM fun item => (read item).mapError .misfit

/-- The structures of a kind. -/
def documents (fixture : Json) (kind : Kind) : Except FixtureFault (List Document) :=
  readSection fixture (sectionName kind) (Schema.readDocument kind)

/-- The translations. -/
def translations (fixture : Json) : Except FixtureFault (List Translation) :=
  readSection fixture translationSection Schema.readTranslation

/-- What a fixture adds to a store. -/
def additions (fixture : Json) : Except FixtureFault (List Addition) := do
  let sections ← Kind.all.mapM (documents fixture)
  return sections.flatten.map .document ++ (← translations fixture).map .translation

/-- The names of all sections. -/
def sectionNames : List String := Kind.all.map sectionName ++ [translationSection]

/-- **The other fixture has the same entries in every section**, in some order. -/
def Reorders (fixture other : Json) : Prop :=
  (∃ fields, other = .obj fields) ∧ ∀ name ∈ sectionNames, ∃ entries entries',
    items (fixture.get? name) = .ok entries ∧ items (other.get? name) = .ok entries' ∧
      entries'.Perm entries

/-- **No two entries of a section are the same** version of a structure, or translations of the same
version of an exploration into the same language. -/
structure IsDistinct (fixture : Json) : Prop where
  /-- The versions of structures. -/
  documents : ∀ kind ds, documents fixture kind = .ok ds →
    (ds.map fun d => (d.id, d.version)).Nodup
  /-- The translations. -/
  translations : ∀ ts, translations fixture = .ok ts →
    (ts.map fun t => (t.explorationId, t.version, t.languageCode)).Nodup

/-- What a result is required to be is decided by the result, if there is one. -/
instance decidableForallOk {ε α : Type} (x : Except ε α) (p : α → Prop) [DecidablePred p] :
    Decidable (∀ a, x = .ok a → p a) :=
  match x with
  | .ok a => decidable_of_iff (p a) ⟨fun h _ heq => Except.ok.inj heq ▸ h, fun h => h a rfl⟩
  | .error _ => isTrue fun _ heq => nomatch heq

end Fixture

namespace Store

open Fixture

/-- To add entries as they are read is to read the section first. -/
theorem foldlM_items {α : Type} {read : Json → Except Misfit α} {put : Store → α → Store}
    {step : Store → Json → Except FixtureFault Store}
    (hstep : ∀ s entry, step s entry = (return put s (← (read entry).mapError .misfit)))
    (fixture : Json) (name : String) (s : Store) :
    (do (← items (fixture.get? name)).foldlM step s) =
      (return (← readSection fixture name read).foldl put s) := by
  obtain rfl : step = fun s entry => (return put s (← (read entry).mapError .misfit)) := by
    funext s entry
    exact hstep s entry
  unfold readSection
  cases items (fixture.get? name) with
  | error fault => rfl
  | ok entries => exact foldlM_eq_mapM _ put entries s

theorem addSection_eq (s : Store) (fixture : Json) (kind : Kind) :
    s.addSection fixture kind = (return (← Fixture.documents fixture kind).foldl add s) := by
  refine foldlM_items (fun s entry => ?_) fixture (sectionName kind) s
  cases Schema.readDocument kind entry <;> rfl

theorem addTranslations_eq (s : Store) (fixture : Json) :
    s.addTranslations fixture =
      (return (← Fixture.translations fixture).foldl addTranslation s) := by
  refine foldlM_items (fun s entry => ?_) fixture translationSection s
  cases Schema.readTranslation entry <;> rfl

/-- **A store is filled with what its fixture adds**, and fails where an entry does not fit. -/
theorem ofFixture_obj (fields : Table String Json) :
    ofFixture (.obj fields) = (return ofAdditions (← additions (.obj fields))) := by
  have hsections : Kind.all.foldlM (addSection · (.obj fields)) empty =
      (return (← Kind.all.mapM (Fixture.documents (.obj fields))).foldl
        (fun s ds => ds.foldl add s) empty) := by
    refine Eq.trans ?_ (foldlM_eq_mapM _ _ Kind.all empty)
    refine congrArg (List.foldlM · empty Kind.all) ?_
    funext s kind
    exact addSection_eq s _ kind
  simp only [ofFixture, hsections, additions]
  cases Kind.all.mapM (Fixture.documents (.obj fields)) with
  | error fault => rfl
  | ok sections =>
    show addTranslations _ (.obj fields) = _
    rw [addTranslations_eq]
    cases Fixture.translations (.obj fields) with
    | error fault => rfl
    | ok ts =>
      show Except.ok _ = Except.ok _
      rw [ofAdditions, List.foldl_append, List.foldl_map, List.foldl_map, List.foldl_flatten]
      rfl

theorem ofFixture_eq_ok_iff {fixture : Json} {s : Store} :
    ofFixture fixture = .ok s ↔ (∃ fields, fixture = .obj fields) ∧
      ∃ as, additions fixture = .ok as ∧ s = ofAdditions as := by
  by_cases hobj : ∃ fields, fixture = .obj fields
  · obtain ⟨fields, rfl⟩ := hobj
    rw [ofFixture_obj, bind_eq_ok_iff]
    simp [pure, Except.pure, eq_comm]
  · refine iff_of_false ?_ fun h => hobj h.1
    intro h
    unfold ofFixture at h
    split at h
    · exact hobj ⟨_, rfl⟩
    · cases h

end Store

/-! ### The order of entries -/

namespace Fixture

variable {fixture other : Json}

/-- What is read from one section of a reordered fixture. -/
theorem Reorders.exists_readSection {α : Type} {name : String} {read : Json → Except Misfit α}
    {values : List α} (h : Reorders fixture other) (hname : name ∈ sectionNames)
    (hvalues : readSection fixture name read = .ok values) :
    ∃ values', readSection other name read = .ok values' ∧ values'.Perm values := by
  obtain ⟨entries, entries', hentries, hentries', hperm⟩ := h.2 name hname
  unfold readSection at hvalues ⊢
  rw [hentries] at hvalues
  rw [hentries']
  exact exists_mapM_perm hperm hvalues

theorem sectionName_mem (kind : Kind) : sectionName kind ∈ sectionNames := by
  cases kind <;> decide

/-- What is read from the sections of some kinds. -/
theorem Reorders.exists_sections {kinds : List Kind} {sections : List (List Document)}
    (h : Reorders fixture other) (hsections : kinds.mapM (documents fixture) = .ok sections) :
    ∃ sections', kinds.mapM (documents other) = .ok sections' ∧
      sections'.flatten.Perm sections.flatten := by
  simp only [mapM_eq_ok_iff] at hsections ⊢
  induction hsections with
  | nil => exact ⟨[], List.Forall₂.nil, List.Perm.refl _⟩
  | cons hkind _ ih =>
    obtain ⟨ds, hds, hperm⟩ := h.exists_readSection (sectionName_mem _) hkind
    obtain ⟨rest, hrest, hperm'⟩ := ih
    exact ⟨ds :: rest, List.Forall₂.cons hds hrest, hperm.append hperm'⟩

/-- **A reordered fixture adds the same**, in some order. -/
theorem Reorders.exists_additions {as : List Addition} (h : Reorders fixture other)
    (has : additions fixture = .ok as) :
    ∃ as', additions other = .ok as' ∧ as'.Perm as := by
  obtain ⟨sections, hsections, hrest⟩ := bind_eq_ok_iff.mp has
  obtain ⟨ts, hts, heq⟩ := bind_eq_ok_iff.mp hrest
  obtain ⟨sections', hsections', hperm⟩ := h.exists_sections hsections
  obtain ⟨ts', hts', hperm'⟩ := h.exists_readSection (by simp [sectionNames]) hts
  refine ⟨_, bind_eq_ok_iff.mpr ⟨sections', hsections', bind_eq_ok_iff.mpr ⟨ts', hts', rfl⟩⟩, ?_⟩
  rw [← Except.ok.inj heq]
  exact (hperm.map _).append (hperm'.map _)

theorem kind_of_readDocument {kind : Kind} {entry : Json} {d : Document}
    (h : Schema.readDocument kind entry = .ok d) : d.id.kind = kind := by
  have hrun : ∀ {α : Type} (decoder : Decoder α) (document : α → Document),
      (∀ a, (document a).id.kind = kind) →
      Decoder.run (Schema.documentName kind) (fun j => (decoder j).map document) entry = .ok d →
      d.id.kind = kind := by
    intro α decoder document hkind hok
    unfold Decoder.run at hok
    cases hvalue : decoder entry with
    | invalid issues => simp [hvalue, Checked.map] at hok
    | valid a =>
      simp only [hvalue, Checked.map, Except.ok.injEq] at hok
      exact hok ▸ hkind a
  cases kind with
  | topic => exact hrun Schema.topic .topic (fun _ => rfl) h
  | subtopic => exact hrun Schema.subtopicPage .page (fun _ => rfl) h
  | story => exact hrun Schema.story .story (fun _ => rfl) h
  | exploration => exact hrun Schema.exploration .exploration (fun _ => rfl) h
  | skill => exact hrun Schema.skill .skill (fun _ => rfl) h

theorem kind_of_mem_documents {kind : Kind} {ds : List Document} {d : Document}
    (h : documents fixture kind = .ok ds) (hd : d ∈ ds) : d.id.kind = kind := by
  obtain ⟨entries, -, hentries⟩ := bind_eq_ok_iff.mp h
  obtain ⟨entry, -, hentry⟩ := exists_left_of_forall₂ (mapM_eq_ok_iff.mp hentries) hd
  cases hread : Schema.readDocument kind entry with
  | error misfit => simp [hread, Except.mapError] at hentry
  | ok e =>
    simp only [hread, Except.mapError, Except.ok.injEq] at hentry
    exact hentry ▸ kind_of_readDocument hread

/-- Structures of different kinds are different, so it is enough to look at every section. -/
theorem IsDistinct.nodup_sections {kinds : List Kind} {sections : List (List Document)}
    (h : IsDistinct fixture) (hsections : kinds.mapM (Fixture.documents fixture) = .ok sections)
    (hkinds : kinds.Nodup) :
    (sections.flatten.map fun d => (d.id, d.version)).Nodup ∧
      ∀ d ∈ sections.flatten, d.id.kind ∈ kinds := by
  rw [mapM_eq_ok_iff] at hsections
  induction hsections with
  | nil => exact ⟨List.nodup_nil, by simp⟩
  | @cons kind ds kinds sections hds _ ih =>
    obtain ⟨hkind, hkinds⟩ := List.nodup_cons.mp hkinds
    obtain ⟨hnodup, hmem⟩ := ih hkinds
    rw [List.flatten_cons, List.map_append]
    constructor
    · refine (h.documents kind ds hds).append hnodup ?_
      intro k hk hk'
      obtain ⟨d, hd, rfl⟩ := List.mem_map.mp hk
      obtain ⟨e, he, heq⟩ := List.mem_map.mp hk'
      apply hkind
      rw [← kind_of_mem_documents hds hd, ← (Prod.mk.inj heq).1]
      exact hmem e he
    · intro d hd
      rcases List.mem_append.mp hd with hd | hd
      · exact kind_of_mem_documents hds hd ▸ List.mem_cons_self
      · exact List.mem_cons_of_mem _ (hmem d hd)

/-- **No two additions have the same key.** -/
theorem IsDistinct.nodup_keys {as : List Addition} (h : IsDistinct fixture)
    (has : additions fixture = .ok as) : (as.map Addition.key).Nodup := by
  obtain ⟨sections, hsections, hrest⟩ := bind_eq_ok_iff.mp has
  obtain ⟨ts, hts, heq⟩ := bind_eq_ok_iff.mp hrest
  obtain ⟨hdocuments, -⟩ := h.nodup_sections hsections (by decide)
  have hversions : Function.Injective fun k : StructureId × Version =>
      Addition.Key.version k.1 k.2 := by
    rintro ⟨_, _⟩ ⟨_, _⟩ heq
    simpa using heq
  have hlanguages : Function.Injective fun k : String × Int × String =>
      Addition.Key.translation k.1 k.2.1 k.2.2 := by
    rintro ⟨_, _, _⟩ ⟨_, _, _⟩ heq
    simpa using heq
  have hdocuments := hdocuments.map hversions
  have htranslations := (h.translations ts hts).map hlanguages
  rw [List.map_map] at hdocuments htranslations
  rw [← Except.ok.inj heq, List.map_append, List.map_map, List.map_map]
  refine hdocuments.append htranslations ?_
  intro k hk hk'
  obtain ⟨d, -, rfl⟩ := List.mem_map.mp hk
  obtain ⟨t, -, hkey⟩ := List.mem_map.mp hk'
  cases hkey

end Fixture

/-! ### Stores in all -/

open Fixture in
/-- **The last addition with a key wins, and no two keys are confused.** A store answers with what
was added last, for structures with any names and pages with any numbers. So the entries of a
fixture can be put into any order, unless two of them have the same key: nothing that is fetched
changes, and no pack. -/
theorem Store.last_addition_wins :
    (∀ additions, (ofAdditions additions).HoldsLast additions) ∧
    Function.Injective StructureId.locator ∧
    (∀ topicId index topicId' index', (StructureId.subtopic topicId index).locator =
      (StructureId.subtopic topicId' index').locator ↔ topicId = topicId' ∧ index = index') ∧
    ∀ fixture reordered store, ofFixture fixture = .ok store → IsDistinct fixture →
      Reorders fixture reordered → ∃ store', ofFixture reordered = .ok store' ∧
        (∀ request asked, store'.source.fetch request asked = store.source.fetch request asked) ∧
        ∀ checker settings topicId, store'.resolvePack checker settings topicId =
          store.resolvePack checker settings topicId := by
  refine ⟨holdsLast_ofAdditions, StructureId.locator_injective, ?_, ?_⟩
  · intro topicId index topicId' index'
    rw [StructureId.locator_injective.eq_iff, StructureId.subtopic.injEq]
  · intro fixture reordered store hstore hdistinct hreorders
    obtain ⟨-, as, has, rfl⟩ := ofFixture_eq_ok_iff.mp hstore
    obtain ⟨as', has', hperm⟩ := hreorders.exists_additions has
    have hsource := source_ofAdditions_congr hperm (hdistinct.nodup_keys has)
    refine ⟨_, ofFixture_eq_ok_iff.mpr ⟨hreorders.1, as', has', rfl⟩, ?_, ?_⟩
    · intro request asked
      rw [hsource]
    · intro checker settings topicId
      unfold resolvePack
      rw [hsource]

/-! ### Pages of topics with a slash -/

namespace Slashes

/-- An entry for a page. -/
def page (topicId : String) (index version : Int) : Json :=
  .obj [("topic_id", .str topicId), ("subtopic_index", .int index), ("version", .int version)]

/-- An entry for a translation. -/
def translation (languageCode : String) : Json :=
  .obj [("exploration_id", .str "e"), ("version", .int 1), ("language_code", .str languageCode)]

/-- Pages and translations. -/
def fixture : Json :=
  .obj [("subtopic_pages", .arr [page "a/1" 2 1, page "a" (-1) 1, page "a/1" 2 2]),
    ("translations", .arr [translation "ar", translation "hi"])]

/-- The same entries in another order. -/
def reordered : Json :=
  .obj [("translations", .arr [translation "hi", translation "ar"]),
    ("subtopic_pages", .arr [page "a" (-1) 1, page "a/1" 2 2, page "a/1" 2 1])]

/-- The store that is filled from a fixture. -/
def storeOf (fixture : Json) : Store := (Store.ofFixture fixture).toOption.getD .empty

theorem isDistinct : Fixture.IsDistinct fixture where
  documents kind := by cases kind <;> decide +kernel
  translations := by decide +kernel

theorem reorders : Fixture.Reorders fixture reordered := by
  refine ⟨⟨_, rfl⟩, ?_⟩
  intro name hname
  simp only [Fixture.sectionNames, Kind.all, List.map_cons, List.map_nil, List.cons_append,
    List.nil_append, List.mem_cons, List.not_mem_nil, or_false] at hname
  rcases hname with rfl | rfl | rfl | rfl | rfl | rfl
  · exact ⟨[], [], rfl, rfl, List.Perm.nil⟩
  · exact ⟨_, _, rfl, rfl, List.perm_append_singleton _ [_, _]⟩
  · exact ⟨[], [], rfl, rfl, List.Perm.nil⟩
  · exact ⟨[], [], rfl, rfl, List.Perm.nil⟩
  · exact ⟨[], [], rfl, rfl, List.Perm.nil⟩
  · exact ⟨_, _, rfl, rfl, List.Perm.swap _ _ _⟩

/-- The pages stand in another order in the store, and are served alike. -/
theorem reordered_serves_alike :
    (storeOf reordered).documents.keys = (storeOf fixture).documents.keys.reverse ∧
    (storeOf reordered).documents.keys = [⟨.subtopic, "a/-1"⟩, ⟨.subtopic, "a/1/2"⟩] ∧
    (∀ request asked, (storeOf reordered).source.fetch request asked =
      (storeOf fixture).source.fetch request asked) ∧
    ∀ checker settings topicId, (storeOf reordered).resolvePack checker settings topicId =
      (storeOf fixture).resolvePack checker settings topicId := by
  obtain ⟨store, hstore, hfetch, hpack⟩ := Store.last_addition_wins.2.2.2 fixture reordered
    (storeOf fixture) rfl isDistinct reorders
  have heq : storeOf reordered = store := by
    rw [storeOf, hstore]
    rfl
  refine ⟨by decide +kernel, by decide +kernel, ?_, ?_⟩
  · rw [heq]
    exact hfetch
  · rw [heq]
    exact hpack

end Slashes

end ContentPack
