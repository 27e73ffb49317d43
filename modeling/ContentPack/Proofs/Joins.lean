import ContentPack.Proofs.Additions
import ContentPack.Proofs.Schedules

/-!
# Explorations and the translations they are joined with

Whatever was added to a store and in which order, an exploration that is loaded from it is joined
with the translations that were added last for exactly this exploration, this version and each of
the supported languages (`Addition.joined?`, `Source.load_joins`).

A load ends with what the store serves, however the answers are put off
(`Source.Answers.load_eq`, `Source.Yields.eq_served`). So it remains to see what a store holds
that was filled by additions (`Store.get?_versionsOf_ofAdditions`,
`Store.get?_translations_ofAdditions`), by induction on the additions from the last one back.
-/

namespace ContentPack

/-! ### Every load ends -/

section Load

variable {σ : Type} {s : Source σ} {request : Request}

theorem Load.Reached.exists_run_eq {load : Load} (h : load.Reached s request) {n : Nat}
    (hn : load.Within s n) (state : σ) :
    ∃ result parts state', load.run s n state = (.ended result parts, state') ∧
      (Load.ended result parts).Reached s request := by
  -- by induction on the visits that are left, each of which brings the load closer to its end
  induction n generalizing load state with
  | zero =>
    obtain ⟨result, parts, rfl⟩ := exists_ended_of_within_zero hn
    exact ⟨result, parts, state, rfl, h⟩
  | succ n ih =>
    cases load with
    | ended result parts => exact ⟨result, parts, state, rfl, h⟩
    | asking r slot => exact ih (h.visit state) (hn.visit state) _
    | opening lag parts => exact ih (h.visit state) (hn.visit state) _
    | joining lag parts => exact ih (h.visit state) (hn.visit state) _
    | closing left result parts => exact ih (h.visit state) (hn.visit state) _

/-- **Every load has a result**, whatever the source is. -/
theorem Source.exists_load_eq (s : Source σ) (request : Request) (state : σ) :
    ∃ result, (s.load request state).1 = some result ∧ s.Yields request result := by
  obtain ⟨result, parts, state', hrun, hreached⟩ :=
    Load.Reached.ask.exists_run_eq (Load.within_ask s request) state
  refine ⟨result, ?_, parts, hreached⟩
  simp only [load, bind, StateT.bind, hrun]
  rfl

/-- **A load ends with what the store serves**, however the answers are put off. -/
theorem Source.Answers.load_eq {store : Store} (ha : s.Answers store) (request : Request)
    (state : σ) : (s.load request state).1 = some (store.served request) := by
  obtain ⟨result, hload, hyields⟩ := s.exists_load_eq request state
  rw [hload, hyields.eq_served ha]

/-- **A load for a request ends with some structures**, in whatever state of the source it is
started, and whatever the state of the source is at each of its visits. -/
def Source.Brings (s : Source σ) (request : Request) (loaded : List Loaded) : Prop :=
  (∀ state, (s.load request state).1 = some (.ok loaded)) ∧
    ∀ result, s.Yields request result → result = .ok loaded

theorem Source.Answers.brings {store : Store} (ha : s.Answers store) {reply : request.Reply}
    (h : store.answer request = .ok reply) :
    s.Brings request ((request.documents reply).map store.complete) := by
  have hserved := Load.served_of_answer h
  refine ⟨fun state => ?_, fun result hresult => ?_⟩
  · rw [ha.load_eq, hserved]
  · rw [hresult.eq_served ha, hserved]

end Load

/-! ### Additions -/

namespace Addition

/-- The exploration that is added, if it is the version of the exploration. -/
def exploration? (id : String) (version : Version) : Addition → Option Exploration
  | document (.exploration e) => if e.id = id ∧ e.version = version then some e else none
  | _ => none

/-- The translations that are added, if they are for the version of the exploration and for the
language. -/
def translation? (id : String) (version : Version) (language : Language) :
    Addition → Option Translation
  | translation t =>
    if t.explorationId = id ∧ t.version = version.toInt ∧ t.languageCode = language.code then some t
    else none
  | _ => none

/-- The version of the exploration that was added last. -/
def lastExploration? (additions : List Addition) (id : String) (version : Version) :
    Option Exploration :=
  (additions.filterMap (exploration? id version)).getLast?

/-- The translations for the version of the exploration and the language that were added last. -/
def lastTranslation? (additions : List Addition) (id : String) (version : Version)
    (language : Language) : Option Translation :=
  (additions.filterMap (translation? id version language)).getLast?

/-- **What a version of an exploration is to be joined with**: the translations that were added
last for each of the supported languages, or empty ones. -/
def joined? (additions : List Addition) (id : String) (version : Version) :
    Option CompleteExploration :=
  (lastExploration? additions id version).map fun e =>
    ⟨e, Language.supported.map fun language =>
      (language, (lastTranslation? additions id version language).getD
        { explorationId := id, version := version.toInt, languageCode := language.code })⟩

section Last

variable {additions : List Addition} {id : String} {version : Version}

theorem getLast?_filterMap_concat {α : Type} (f : Addition → Option α) (additions : List Addition)
    (a : Addition) :
    ((additions ++ [a]).filterMap f).getLast? = (f a).or (additions.filterMap f).getLast? := by
  rw [List.filterMap_append, List.getLast?_append, List.filterMap_cons]
  cases f a <;> rfl

theorem of_lastExploration? {e : Exploration}
    (h : lastExploration? additions id version = some e) : e.id = id ∧ e.version = version := by
  obtain ⟨a, -, ha⟩ := List.mem_filterMap.mp (List.mem_of_getLast? h)
  unfold exploration? at ha
  split at ha
  · split at ha
    · rename_i hown
      exact Option.some.inj ha ▸ hown
    · cases ha
  · cases ha

theorem of_lastTranslation? {language : Language} {t : Translation}
    (h : lastTranslation? additions id version language = some t) :
    t.explorationId = id ∧ t.version = version.toInt ∧ t.languageCode = language.code := by
  obtain ⟨a, -, ha⟩ := List.mem_filterMap.mp (List.mem_of_getLast? h)
  unfold translation? at ha
  split at ha
  · split at ha
    · rename_i hown
      exact Option.some.inj ha ▸ hown
    · cases ha
  · cases ha

/-- **Nothing foreign is joined**: every part is for the exploration, its version and its
language. -/
theorem own_of_joined? {c : CompleteExploration} (h : joined? additions id version = some c) :
    c.id = id ∧ c.version = version ∧ c.translations.keys = Language.supported ∧
      ∀ language t, (language, t) ∈ c.translations →
        t.explorationId = id ∧ t.version = version.toInt ∧ t.languageCode = language.code := by
  obtain ⟨e, he, rfl⟩ := Option.map_eq_some_iff.mp h
  obtain ⟨hid, hversion⟩ := of_lastExploration? he
  refine ⟨hid, hversion, ?_, ?_⟩
  · exact (List.map_map ..).trans (List.map_id _)
  · intro language t hentry
    obtain ⟨language', -, heq⟩ := List.mem_map.mp hentry
    obtain ⟨rfl, rfl⟩ := Prod.mk.inj heq
    cases hlast : lastTranslation? additions id version language' with
    -- the empty translation has the coordinates that were asked for
    | none => exact ⟨rfl, rfl, rfl⟩
    | some t => exact of_lastTranslation? hlast

end Last

end Addition

/-! ### What a store holds -/

namespace Store

open Addition

variable {additions : List Addition} {id : String} {version : Version}

/-- A store holds the exploration that was added last. -/
theorem get?_versionsOf_ofAdditions (additions : List Addition) (id : String) (version : Version) :
    ((ofAdditions additions).versionsOf (StructureId.exploration id).locator).get? version =
      (lastExploration? additions id version).map .exploration := by
  induction additions using List.reverseRecOn with
  | nil => rfl
  | append_singleton additions a ih =>
    rw [ofAdditions_concat, lastExploration?, getLast?_filterMap_concat]
    cases a with
    | translation t => exact ih
    | document d =>
      refine (get?_versionsOf_add ..).trans ?_
      cases d with
      | exploration e =>
        have hplace : (StructureId.exploration id).locator =
            (Document.exploration e).id.locator ↔ e.id = id :=
          ⟨fun h => (congrArg Locator.key h).symm, fun h => h ▸ rfl⟩
        simp only [hplace, exploration?, Document.version]
        split
        · rfl
        · exact ih
      -- structures of other kinds have other places
      | topic t => exact (if_neg fun h => by cases congrArg Locator.kind h.1).trans ih
      | page p => exact (if_neg fun h => by cases congrArg Locator.kind h.1).trans ih
      | story s => exact (if_neg fun h => by cases congrArg Locator.kind h.1).trans ih
      | skill s => exact (if_neg fun h => by cases congrArg Locator.kind h.1).trans ih

theorem get?_translations_ofAdditions (additions : List Addition) (id : String)
    (version : Version) (language : Language) :
    (ofAdditions additions).translations.get? (id, version.toInt, language.code) =
      lastTranslation? additions id version language := by
  induction additions using List.reverseRecOn with
  | nil => rfl
  | append_singleton additions a ih =>
    rw [ofAdditions_concat, lastTranslation?, getLast?_filterMap_concat]
    cases a with
    | document d => exact ih
    | translation t =>
      refine (get?_translations_addTranslation ..).trans ?_
      simp only [translation?]
      split
      · rfl
      · exact ih

/-- **A version of an exploration is served together with what it is to be joined with.** -/
theorem stored?_ofAdditions (additions : List Addition) (id : String) (version : Version) :
    (ofAdditions additions).stored? (.exploration id) version =
      (joined? additions id version).map .exploration := by
  rw [stored?, get?_versionsOf_ofAdditions, joined?]
  cases hlast : lastExploration? additions id version with
  | none => rfl
  | some e =>
    obtain ⟨rfl, rfl⟩ := of_lastExploration? hlast
    simp only [Option.map_some, complete, translation, get?_translations_ofAdditions]

/-- What is kept of an exploration is what is to be joined. -/
theorem exists_joined?_of_get? {d : Document}
    (h : ((ofAdditions additions).versionsOf (StructureId.exploration id).locator).get? version =
      some d) :
    ∃ exploration, joined? additions id version = some exploration ∧
      (ofAdditions additions).complete d = .exploration exploration := by
  have hstored := stored?_ofAdditions additions id version
  rw [stored?, h, Option.map_some] at hstored
  obtain ⟨exploration, hjoined, hcomplete⟩ := Option.map_eq_some_iff.mp hstored.symm
  exact ⟨exploration, hjoined, hcomplete.symm⟩

theorem exists_get?_of_joined? (h : (joined? additions id version).isSome) :
    ∃ d, ((ofAdditions additions).versionsOf (StructureId.exploration id).locator).get? version =
      some d := by
  obtain ⟨exploration, hjoined⟩ := Option.isSome_iff_exists.mp h
  obtain ⟨e, he, -⟩ := Option.map_eq_some_iff.mp hjoined
  exact ⟨.exploration e, by rw [get?_versionsOf_ofAdditions, he, Option.map_some]⟩

/-- Versions that were added are served in the order in which they are asked for. -/
theorem exists_answer_versions {versions : List Version}
    (h : ∀ v ∈ versions, (joined? additions id v).isSome) :
    ∃ documents, (ofAdditions additions).answer (.versions (StructureId.exploration id).locator
        (versions.map Version.toInt)) = .ok documents ∧
      ∃ explorations : List CompleteExploration,
        versions.map (joined? additions id) = explorations.map some ∧
        documents.map (ofAdditions additions).complete = explorations.map .exploration := by
  rcases answer_versions (ofAdditions additions) (StructureId.exploration id).locator versions with
    ⟨documents, hanswer, hdocuments⟩ | ⟨-, -, v, hv, hnone⟩
  · refine ⟨documents, hanswer, ?_⟩
    clear hanswer h
    -- by induction on the places of the request
    induction hdocuments with
    | nil => exact ⟨[], rfl, rfl⟩
    | cons hget _ ih =>
      obtain ⟨exploration, hjoined, hcomplete⟩ := exists_joined?_of_get? hget
      obtain ⟨explorations, hrest, hrest'⟩ := ih
      refine ⟨exploration :: explorations, ?_, ?_⟩
      · rw [List.map_cons, List.map_cons, hjoined, hrest]
      · rw [List.map_cons, List.map_cons, hcomplete, hrest']
  · obtain ⟨d, hd⟩ := exists_get?_of_joined? (h v hv)
    rw [hnone] at hd
    cases hd

/-- The newest version that was added is served. -/
theorem exists_answer_latest (h : (joined? additions id version).isSome) :
    ∃ d, (ofAdditions additions).answer (.latest (StructureId.exploration id).locator) = .ok d ∧
      ∃ exploration, joined? additions id d.version = some exploration ∧
        (ofAdditions additions).complete d = .exploration exploration ∧
        ∀ w, (joined? additions id w).isSome → w.number ≤ d.version.number := by
  obtain ⟨old, hold⟩ := exists_get?_of_joined? h
  obtain ⟨d, hlatest⟩ := exists_latest? hold
  obtain ⟨hget, hmax⟩ := (faithful_ofAdditions additions).latest?_eq_some hlatest
  obtain ⟨exploration, hjoined, hcomplete⟩ := exists_joined?_of_get? hget
  refine ⟨d, ?_, exploration, hjoined, hcomplete, ?_⟩
  · simp only [answer, hlatest]
  · intro w hw
    obtain ⟨e, he⟩ := exists_get?_of_joined? hw
    exact hmax w e he

end Store

/-! ### What a load ends with -/

open Addition in
/-- **Explorations are joined with what belongs to them.** Let a source answer as a store does that
was filled by additions, and put the answers off as it likes. A load of versions of an exploration
that were added ends with one exploration for each of them, in the order of the request, joined
with the translations that were added last for the exploration, the version and each supported
language, or with empty ones; and so does a load of the newest version. Nothing that is joined is
for another exploration, another version or another language. -/
theorem Source.load_joins (additions : List Addition) (id : String) {σ : Type} (source : Source σ)
    (ha : source.Answers (.ofAdditions additions)) :
    (∀ versions : List Version, (∀ v ∈ versions, (joined? additions id v).isSome) →
      ∃ explorations : List CompleteExploration,
        versions.map (joined? additions id) = explorations.map some ∧
        source.Brings (.versions (StructureId.exploration id).locator (versions.map Version.toInt))
          (explorations.map .exploration)) ∧
    (∀ v, (joined? additions id v).isSome →
      ∃ newest exploration, joined? additions id newest = some exploration ∧
        (∀ w, (joined? additions id w).isSome → w.number ≤ newest.number) ∧
        source.Brings (.latest (StructureId.exploration id).locator) [.exploration exploration]) ∧
    ∀ v exploration, joined? additions id v = some exploration →
      exploration.id = id ∧ exploration.version = v ∧
        exploration.translations.keys = Language.supported ∧
        ∀ language t, (language, t) ∈ exploration.translations →
          t.explorationId = id ∧ t.version = v.toInt ∧ t.languageCode = language.code := by
  refine ⟨?_, ?_, fun v exploration => own_of_joined?⟩
  · intro versions hversions
    obtain ⟨documents, hanswer, explorations, hjoined, hcomplete⟩ :=
      Store.exists_answer_versions hversions
    exact ⟨explorations, hjoined, hcomplete ▸ ha.brings hanswer⟩
  · intro v hv
    obtain ⟨d, hanswer, exploration, hjoined, hcomplete, hmax⟩ := Store.exists_answer_latest hv
    have hbrings := ha.brings hanswer
    rw [show (Request.documents _ d).map _ = [_] from congrArg (fun l => [l]) hcomplete] at hbrings
    exact ⟨d.version, exploration, hjoined, hmax, hbrings⟩

/-! ### Two neighbouring versions -/

namespace Neighbours

/-- A version of an exploration in a language. -/
def exploration (id : String) (version : Version) (languageCode : String) : Exploration :=
  { id, version, languageCode }

/-- A translation with a title. -/
def translation (id : String) (version : Int) (languageCode title : String) : Translation :=
  { explorationId := id, version, languageCode, texts := [("title", title)] }

/-- Two versions of an exploration, with different translations, and one of another exploration;
an exploration and a translation are added again. -/
def additions : List Addition :=
  [.translation (translation "e" 1 "hi" "eka"),
    .document (.exploration (exploration "e" (.after 1) "en")),
    .document (.exploration (exploration "e" .first "en")),
    .document (.exploration (exploration "f" .first "en")),
    .translation (translation "f" 1 "ar" "wahid"),
    .translation (translation "e" 2 "pt" "um"),
    .document (.exploration (exploration "e" (.after 1) "sw")),
    .translation (translation "e" 2 "pt" "dois")]

/-- An exploration that has one translation and no other one. -/
def join (e : Exploration) (own : Language) (title : String) : CompleteExploration :=
  ⟨e, Language.supported.map fun language =>
    (language, if language = own then translation e.id e.version.toInt language.code title
      else { explorationId := e.id, version := e.version.toInt, languageCode := language.code })⟩

/-- The versions, each with its translations. -/
def joins : List CompleteExploration :=
  [join (exploration "e" (.after 1) "sw") .brazilianPortuguese "dois",
    join (exploration "e" .first "en") .hindi "eka"]

/-- **Each version gets its own translations**, though half of the answers are late. -/
theorem late_brings_joins :
    (Store.ofAdditions additions).late.Answers (.ofAdditions additions) ∧
    (∀ v ∈ [.after 1, .first], (Addition.joined? additions "e" v).isSome) ∧
    (Store.ofAdditions additions).late.Brings
      (.versions (StructureId.exploration "e").locator ([.after 1, .first].map Version.toInt))
      (joins.map .exploration) := by
  have hlate := Store.late_answers (.ofAdditions additions)
  have hversions : ∀ v ∈ [.after 1, .first], (Addition.joined? additions "e" v).isSome := by
    decide +kernel
  obtain ⟨explorations, hjoined, hbrings⟩ :=
    (Source.load_joins additions "e" _ hlate).1 _ hversions
  have hjoins : [.after 1, .first].map (Addition.joined? additions "e") = joins.map some := by
    decide +kernel
  have heq : explorations = joins :=
    List.map_injective_iff.mpr (fun _ _ => Option.some.inj) (hjoined.symm.trans hjoins)
  exact ⟨hlate, hversions, heq ▸ hbrings⟩

end Neighbours

end ContentPack
