import ContentPack.Proofs.Resolution
import ContentPack.Proofs.Search.Trace
import ContentPack.Proofs.Simulation

/-!
# What a run fetches

A run resolves the same structures again and again: skills in every round of their closure, and
everything in every attempt at an older version of the topic. Still it asks for every version once
(`resolvePack_fetches_once`): searches keep the requests for each structure known from the cache
(`Session.Traced`), and so does a run, because it only drops a version of the topic after it was
loaded (`Assembler.tracing`).
-/

namespace ContentPack

/-! ### The requests of a structure are told apart -/

/-- The versions that are asked for, if the request is one for versions of a structure. -/
def Request.versions? (id : StructureId) : Request → Option (List Int)
  | .versions place batch => if place = id.locator then some batch else none
  | _ => none

/-- **The fetches for a structure** with a newest version and blocks of older ones: that version is
asked for once and then the blocks, and every version with its translations. -/
structure Fetches (store : Store) (width : Nat) (id : StructureId) (log : List Request)
    (newest : Version) (batches : List (List Version)) : Prop where
  /-- It is the newest version that is stored. -/
  ends : store.EndsAt id newest
  /-- It is asked for once. -/
  latest : log.count (.latest id.locator) = 1
  /-- The older versions are asked for block by block. -/
  versions : log.filterMap (Request.versions? id) = batches.map (List.map Version.toInt)
  /-- The first block ends below the newest version, and the others each below the last one. -/
  blocks : ∃ rest, Blocks width (newest.number - 1) batches rest
  /-- No version is asked for twice. -/
  distinct : batches.flatten.Nodup
  /-- The newest version is not asked for again. -/
  older : ∀ v ∈ batches.flatten, v.number < newest.number
  /-- Every version of an exploration is translated once into every language. -/
  translations : ∀ name (v : Version), ∀ language ∈ Language.supported, id = .exploration name →
    log.count (.translation name v.toInt language.code) =
      if v = newest ∨ v ∈ batches.flatten then 1 else 0
  /-- These are all requests, in this order. -/
  trace : asked id log = id.requests newest batches

section Counts

variable {id : StructureId} {log : List Request} {newest v : Version}
  {batches : List (List Version)} {name : String} {language : Language}

theorem count_asked (r : Request) (h : r.concerns id) : (asked id log).count r = log.count r :=
  List.count_filter h

theorem filterMap_versions?_asked :
    (asked id log).filterMap (Request.versions? id) = log.filterMap (Request.versions? id) := by
  unfold asked
  rw [List.filterMap_filter]
  refine List.filterMap_congr fun r _ => ?_
  cases r with
  | versions place batch =>
    by_cases hplace : place = id.locator <;> simp [Request.concerns, Request.versions?, hplace]
  | latest place => exact ite_self none
  | translation name version code => exact ite_self none

/-- Among translations there is nothing else. -/
theorem exists_of_mem_translations {r : Request} (h : r ∈ id.translations v) :
    ∃ name version code, r = .translation name version code := by
  cases id with
  | exploration name =>
    obtain ⟨language, -, rfl⟩ := List.mem_map.mp h
    exact ⟨_, _, _, rfl⟩
  | _ => cases h

theorem filterMap_versions?_translations (id : StructureId) (versions : List Version) :
    (versions.flatMap id.translations).filterMap (Request.versions? id) = [] := by
  refine List.filterMap_eq_nil_iff.mpr ?_
  intro r hr
  obtain ⟨v, -, hr⟩ := List.mem_flatMap.mp hr
  obtain ⟨_, _, _, rfl⟩ := exists_of_mem_translations hr
  rfl

theorem count_latest_translations (id : StructureId) (versions : List Version) :
    (versions.flatMap id.translations).count (.latest id.locator) = 0 := by
  refine List.count_eq_zero.mpr ?_
  intro hmem
  obtain ⟨v, -, hr⟩ := List.mem_flatMap.mp hmem
  obtain ⟨_, _, _, heq⟩ := exists_of_mem_translations hr
  cases heq

/-- The requests for blocks are those for their versions, and translations. -/
theorem filterMap_versions?_requests :
    (id.requests newest batches).filterMap (Request.versions? id) =
      batches.map (List.map Version.toInt) := by
  have hbatches : (batches.flatMap id.requestsFor).filterMap (Request.versions? id) =
      batches.map (List.map Version.toInt) := by
    induction batches with
    | nil => rfl
    | cons batch rest ih =>
      have hbatch : (id.requestsFor batch).filterMap (Request.versions? id) =
          [batch.map Version.toInt] := by
        have hversions : Request.versions? id (.versions id.locator (batch.map Version.toInt)) =
            some (batch.map Version.toInt) := if_pos rfl
        unfold StructureId.requestsFor
        rw [List.filterMap_cons_some hversions, filterMap_versions?_translations]
      rw [List.flatMap_cons, List.filterMap_append, ih, hbatch]
      rfl
  have hnewest := filterMap_versions?_translations id [newest]
  rw [List.flatMap_singleton] at hnewest
  unfold StructureId.requests
  rw [List.filterMap_append, List.filterMap_cons_none rfl, hnewest, hbatches]
  rfl

theorem count_latest_requests :
    (id.requests newest batches).count (.latest id.locator) = 1 := by
  have hbatches : (batches.flatMap id.requestsFor).count (.latest id.locator) = 0 := by
    refine List.count_eq_zero.mpr ?_
    intro hmem
    obtain ⟨batch, -, hmem⟩ := List.mem_flatMap.mp hmem
    rcases List.mem_cons.mp hmem with heq | hmem
    · cases heq
    · exact List.count_eq_zero.mp (count_latest_translations id batch) hmem
  have hnewest := count_latest_translations id [newest]
  rw [List.flatMap_singleton] at hnewest
  unfold StructureId.requests
  rw [List.count_append, List.count_cons_self, hnewest, hbatches]

/-- A version is translated once into every language. -/
theorem count_translations (name : String) (v : Version)
    (hlanguage : language ∈ Language.supported) (versions : List Version) :
    (versions.flatMap (StructureId.exploration name).translations).count
      (.translation name v.toInt language.code) = versions.count v := by
  induction versions with
  | nil => rfl
  | cons w rest ih =>
    rw [List.flatMap_cons, List.count_append, ih, List.count_cons, Nat.add_comm]
    congr 1
    -- the codes of the languages are distinct
    show ((Language.supported.map Language.code).map fun code =>
      Request.translation name w.toInt code).count _ = _
    have hinjective : ∀ code code', Request.translation name w.toInt code =
        .translation name w.toInt code' → code = code' := by
      intro code code' heq
      exact (Request.translation.inj heq).2.2
    by_cases hw : w = v
    · subst hw
      rw [if_pos (beq_self_eq_true w)]
      have hcodes : (Language.supported.map Language.code).Nodup := by decide
      exact List.count_eq_one_of_mem (hcodes.map hinjective)
        (List.mem_map.mpr ⟨_, List.mem_map.mpr ⟨language, hlanguage, rfl⟩, rfl⟩)
    · have hne : ¬(w == v) = true := fun heq => hw (eq_of_beq heq)
      rw [if_neg hne]
      refine List.count_eq_zero.mpr ?_
      intro hmem
      obtain ⟨code, -, heq⟩ := List.mem_map.mp hmem
      exact hw (Version.ext (Int.ofNat.inj (Request.translation.inj heq).2.1))

theorem count_translation_requests (hlanguage : language ∈ Language.supported) :
    ((StructureId.exploration name).requests newest batches).count
      (.translation name v.toInt language.code) = (newest :: batches.flatten).count v := by
  have hbatches : (batches.flatMap (StructureId.exploration name).requestsFor).count
      (.translation name v.toInt language.code) = batches.flatten.count v := by
    induction batches with
    | nil => rfl
    | cons batch rest ih =>
      rw [List.flatMap_cons, List.count_append, ih, List.flatten_cons, List.count_append]
      congr 1
      unfold StructureId.requestsFor
      rw [List.count_cons_of_ne (by simp), count_translations name v hlanguage]
  have hnewest := count_translations name v hlanguage [newest]
  rw [List.flatMap_singleton] at hnewest
  unfold StructureId.requests
  rw [List.count_append, List.count_cons_of_ne (by simp), hnewest, hbatches, ← List.count_append]
  rfl

end Counts

/-- **What is known from a history** is what was fetched. -/
theorem History.Traced.fetches {α : Type} {store : Store} {width : Nat} {id : StructureId}
    {h : History α} {log : List Request} {newest : Version} {batches : List (List Version)}
    {rest : Nat} (ht : h.Traced store width id (asked id log) newest batches rest) :
    Fetches store width id log newest batches where
  ends := ht.ends
  latest := by
    have hconcerns : (Request.latest id.locator).concerns id := decide_eq_true rfl
    rw [← count_asked _ hconcerns, ht.log_eq]
    exact count_latest_requests
  versions := by
    rw [← filterMap_versions?_asked, ht.log_eq]
    exact filterMap_versions?_requests
  blocks := ⟨rest, ht.blocks⟩
  distinct := ht.blocks.nodup_flatten
  older v hv := by
    have hle := (ht.blocks.mem_flatten.mp hv).2
    have hone := newest.one_le
    omega
  translations := by
    rintro name v language hlanguage rfl
    have hnodup : (newest :: batches.flatten).Nodup := by
      refine List.nodup_cons.mpr ⟨?_, ht.blocks.nodup_flatten⟩
      intro hmem
      have hle := (ht.blocks.mem_flatten.mp hmem).2
      have hone := newest.one_le
      omega
    have hconcerns : (Request.translation name v.toInt language.code).concerns
        (.exploration name) := decide_eq_true rfl
    rw [← count_asked _ hconcerns, ht.log_eq, count_translation_requests hlanguage,
      hnodup.count]
    simp only [List.mem_cons]
  trace := ht.log_eq

/-- What is pending was not fetched, and everything else was. -/
theorem History.Traced.pending_iff {α : Type} {store : Store} {width : Nat} {id : StructureId}
    {h : History α} {log : List Request} {newest : Version} {batches : List (List Version)}
    {rest : Nat} (ht : h.Traced store width id log newest batches rest) {v : Version}
    (hv : v.number ≤ newest.number) :
    h.get? v = some .pending ↔ v ≠ newest ∧ v ∉ batches.flatten := by
  have hone := newest.one_le
  have hle := ht.blocks.rest_le
  have hfetched : v ≠ newest ∧ v ∉ batches.flatten ↔ v.number ≤ rest := by
    rw [ht.blocks.mem_flatten]
    constructor
    · rintro ⟨hne, hnot⟩
      have hne' : v.number ≠ newest.number := fun hnum => hne (Version.ext hnum)
      omega
    · intro hrest
      refine ⟨?_, by omega⟩
      rintro rfl
      omega
  rw [hfetched]
  constructor
  · exact fun hget => (ht.pending v _ hget).mp rfl
  · intro hrest
    obtain ⟨o, ho⟩ := h.exists_get? (Nat.le_trans hrest ht.rest_le)
    rw [ho, (ht.pending v o ho).mpr hrest]

/-! ### Whole runs -/

namespace Assembler

open Work Resolver

variable {store : Store} {checker : Checker} {settings : ResolverSettings} {topicId : String}
  {s : Session Loaded (List Request)}

/-- **A run keeps the requests known from the cache.** Once the topic was found, its newest version
is not pending, so it may be dropped. -/
def tracing (store : Store) (width : Nat) (topicId : String) :
    Keeping (List Request) topicId where
  Before s := s.Traced store width
  After s := s.Traced store width ∧ ∃ o, s.cache.IsSettled (.topic topicId) o
  before h := h.1
  attempt h := h
  report _ h := h
  drop := by
    rintro s h rest ⟨htraced, o, h', hh', hsettled⟩ hh hdrop id
    obtain rfl := Option.some.inj (hh.symm.trans hh')
    have hid := htraced id
    by_cases heq : id = .topic topicId
    · subst heq
      rw [hh] at hid
      obtain ⟨newest, batches, left, ht⟩ := hid
      rw [Cache.history?_withHistory_self]
      refine ⟨newest, batches, left, ht.drop ?_ hdrop⟩
      rw [hsettled.newest]
      exact fun hpending => hsettled.ne_pending (Option.some.inj hpending)
    · rw [Cache.history?_withHistory_of_ne _ _ heq]
      exact hid

theorem ensures_resolveTopic_traced (hs : store.Faithful) {window : Int}
    (htraced : s.Traced store (width window)) :
    Ensures ((ofStore store checker window).resolve (.topic topicId)) s
      (fun _ rest => (tracing store (width window) topicId).After rest)
      (fun error _ => ∃ failure, error = .fetch failure) := by
  have hids : ([{ id := .topic topicId }] : List Errand).map (·.id) |>.Nodup :=
    List.nodup_singleton _
  unfold Resolver.resolve
  rw [ensures_bind]
  refine (ensures_resolveAll_traced hs hids (by simp) 0 htraced).mono ?_ (fun _ _ => id)
  rintro outcomes rest ⟨htraced', -, hends⟩
  obtain ⟨o, _, hsettled, -, rfl⟩ := List.forall₂_cons_left_iff.mp hends
  exact ⟨htraced', o, hsettled⟩

/-- Later searches leave the topic settled. -/
theorem ensures_searches_traced (hs : store.Faithful) {window : Int} {errands : List Errand}
    (hids : (errands.map (·.id)).Nodup) {limit : Option Nat} (hlimit : limit ≠ some 0)
    (joins : Nat) (hafter : (tracing store (width window) topicId).After s) :
    Ensures ((ofStore store checker window).resolveAll limit errands joins) s
      (fun _ rest => (tracing store (width window) topicId).After rest)
      (fun error _ => ∃ failure, error = .fetch failure) := by
  obtain ⟨htraced, o, hsettled⟩ := hafter
  refine (ensures_resolveAll_traced hs hids hlimit joins htraced).mono ?_ (fun _ _ => id)
  rintro outcomes rest ⟨htraced', hothers, hends⟩
  refine ⟨htraced', ?_⟩
  by_cases hmem : ∃ e ∈ errands, e.id = .topic topicId
  · obtain ⟨e, he, hid⟩ := hmem
    obtain ⟨o', -, hsettled'⟩ := exists_right_of_forall₂ hends he
    exact ⟨o', hid ▸ hsettled'⟩
  · exact ⟨o, hsettled.of_history?_eq (hothers _ fun e he hid => hmem ⟨e, he, hid⟩)⟩

/-- **A run leaves the requests known from the cache**, unless a request fails. -/
theorem ensures_resolve_traced (hs : store.Faithful) (checker : Checker)
    (settings : ResolverSettings) (topicId : String) :
    Ensures ((Assembler.ofSettings store.source checker settings).resolve topicId)
      { remote := [] }
      (fun _ rest => rest.Traced store (width settings.versionFetchWindow))
      (fun error rest => (∃ failure, error = .fetch failure) ∨
        rest.Traced store (width settings.versionFetchWindow)) := by
  have hstart : ({ remote := [] } : Session Loaded (List Request)).Traced store
      (width settings.versionFetchWindow) := fun _ => rfl
  refine (Keeping.ensures_resolve (tracing store (width settings.versionFetchWindow) topicId)
    ?_ ?_ hstart).mono (fun _ _ hafter => hafter.1) (fun _ _ => id)
  · intro s hbefore
    exact (ensures_resolveTopic_traced hs hbefore).mono (fun _ _ => id) fun _ _ => Or.inl
  · intro errands hids joins s hafter
    exact (ensures_searches_traced hs hids (FanOut.seatLimit_ne_zero _) joins hafter).mono
      (fun _ _ => id) fun _ _ => Or.inl

end Assembler

/-- The session that a run for a topic leaves. -/
def Store.afterPack (store : Store) (checker : Checker) (settings : ResolverSettings)
    (topicId : String) : Session Loaded (List Request) :=
  (ExceptT.run ((Assembler.ofSettings store.source checker settings).resolve topicId)
    { remote := [] }).2

/-- Versions are only asked for while they are pending. -/
theorem Resolver.exists_batch_of_loadVersion {α σ : Type} {r : Resolver α σ} {e : Errand}
    {v : Version} {purpose : List Version → Purpose} {s rest : Session α σ} {walk : Walk α}
    (h : ExceptT.run (r.loadVersion e v purpose) s = (.ok walk, rest)) :
    ∃ batch, walk = .loading (purpose batch)
        (Load.ask r.source.delays (.versions e.id.locator (batch.map Version.toInt))) ∧
      ∀ w ∈ batch, s.cache.get ⟨e.id, w⟩ = .ok .pending := by
  have hensures : Work.Ensures (r.loadVersion e v purpose) s
      (fun walk _ => ∃ batch, walk = .loading (purpose batch)
          (Load.ask r.source.delays (.versions e.id.locator (batch.map Version.toInt))) ∧
        ∀ w ∈ batch, s.cache.get ⟨e.id, w⟩ = .ok .pending)
      (fun _ _ => True) := by
    unfold Resolver.loadVersion
    rw [Work.ensures_bind]
    cases hh : s.cache.history? e.id with
    | none =>
      have hwindow : s.cache.pendingWindow ⟨e.id, v⟩ r.window = .error (.notTracked e.id) := by
        simp only [Cache.pendingWindow, Cache.history, hh, bind, Except.bind]
      rw [Work.ensures_readCache_error hwindow]
      exact trivial
    | some h =>
      rw [Work.ensures_readCache_ok (Cache.pendingWindow_of_history? hh v r.window)]
      refine ⟨_, rfl, fun w hw => ?_⟩
      exact Cache.get_of_history? hh (History.of_mem_pendingRun hw).2
  unfold Work.Ensures at hensures
  rw [h] at hensures
  exact hensures

/-- **Every version is fetched once.** In a run in which no request fails, whatever its attempts and
the rounds of its closures are, the newest version of a structure is asked for once, and the older
ones in blocks, each ending just below the last one. What is pending in the end was not asked for,
and everything else was, also what was dropped; and versions are only asked for while they are
pending. -/
theorem resolvePack_fetches_once (documents : List Document) (translations : List Translation)
    (checker : Checker) (settings : ResolverSettings) (topicId : String)
    (hfetch : ∀ failure, (Store.ofContents documents translations).resolvePack checker settings
      topicId ≠ .error (.fetch failure)) :
    let store := Store.ofContents documents translations
    let rest := store.afterPack checker settings topicId
    (∀ id, (rest.cache.history? id = none ∧ asked id rest.remote = []) ∨
      ∃ h newest batches, rest.cache.history? id = some h ∧
        Fetches store (Resolver.width settings.versionFetchWindow) id rest.remote newest batches ∧
        h.newest.number ≤ newest.number ∧
        ∀ v, v.number ≤ newest.number →
          (h.get? v = some .pending ↔ v ≠ newest ∧ v ∉ batches.flatten)) ∧
    ∀ (s s' : Session Loaded (List Request)) (e : Errand) (v : Version)
        (purpose : List Version → Purpose) (walk : Walk Loaded),
      ExceptT.run ((Resolver.ofStore store checker settings.versionFetchWindow).loadVersion e v
        purpose) s = (.ok walk, s') →
      ∃ batch, walk = .loading (purpose batch) (Load.ask store.source.delays
          (.versions e.id.locator (batch.map Version.toInt))) ∧
        ∀ w ∈ batch, s.cache.get ⟨e.id, w⟩ = .ok .pending := by
  intro store rest
  refine ⟨fun id => ?_, fun s s' e v purpose walk hload =>
    Resolver.exists_batch_of_loadVersion hload⟩
  have htraced : rest.Traced store (Resolver.width settings.versionFetchWindow) := by
    rcases (Assembler.ensures_resolve_traced (Store.faithful_ofContents documents translations)
      checker settings topicId).run with
      ⟨pack, last, hrun, hlast⟩ | ⟨error, last, hrun, ⟨failure, rfl⟩ | hlast⟩
    · obtain rfl : rest = last := congrArg Prod.snd hrun
      exact hlast
    · exact absurd (congrArg Prod.fst hrun) (hfetch failure)
    · obtain rfl : rest = last := congrArg Prod.snd hrun
      exact hlast
  have hid := htraced id
  cases hh : rest.cache.history? id with
  | none =>
    rw [hh] at hid
    exact Or.inl ⟨rfl, hid⟩
  | some h =>
    rw [hh] at hid
    obtain ⟨newest, batches, left, ht⟩ := hid
    exact Or.inr ⟨h, newest, batches, rfl, ht.fetches, ht.newest_le, fun v hv => ht.pending_iff hv⟩

/-! ### A run with two attempts -/

namespace Frugal

/-- A topic with two versions, of which the newer one has a second story, and an exploration. -/
def documents : List Document :=
  [.topic { id := "t", version := .first, canonicalStoryIds := ["s"] },
    .topic { id := "t", version := .after 1, canonicalStoryIds := ["s", "u"] },
    .story { id := "u", version := .first }] ++
  (List.range 6).map (fun n => .story { id := "s", version := .after n,
                                        chapters := [{ id := "c", explorationId := some "e" }] }) ++
  (List.range 2).map fun n => .exploration { id := "e", version := .after n }

/-- The store. -/
def store : Store := .ofContents documents []

/-- The checker that rejects the second story, and the newer versions of the other structures. -/
def checker : Checker := BlockedVersions.checker
  [{ kind := "story", id := "u", reasons := ["blocked"] },
    { kind := "story", id := "s", versions := some [3, 4, 5, 6], reasons := ["blocked"] },
    { kind := "exploration", id := "e", versions := some [2], reasons := ["blocked"] }]

/-- Two versions are asked for together. -/
def settings : ResolverSettings := { versionFetchWindow := 2 }

/-- **Both attempts need the story, but it is fetched once**: the newest version, and then two
blocks of two. -/
theorem fetches_story :
    (∀ failure, store.resolvePack checker settings "t" ≠ .error (.fetch failure)) ∧
      (store.afterPack checker settings "t").attempts = 2 ∧
      ∃ newest batches, Fetches store 2 (.story "s") (store.afterPack checker settings "t").remote
        newest batches ∧ batches.map (List.map Version.toInt) = [[4, 5], [2, 3]] := by
  have hpack : (store.resolvePack checker settings "t").isOk := by decide +kernel
  have hfetch : ∀ failure, store.resolvePack checker settings "t" ≠ .error (.fetch failure) := by
    intro failure hfailure
    rw [hfailure] at hpack
    cases hpack
  refine ⟨hfetch, by decide +kernel, ?_⟩
  rcases (resolvePack_fetches_once documents [] checker settings "t" hfetch).1 (.story "s") with
    ⟨-, hnone⟩ | ⟨h, newest, batches, -, hfetches, -, -⟩
  · have hasked : asked (.story "s") (store.afterPack checker settings "t").remote ≠ [] := by
      decide +kernel
    exact absurd hnone hasked
  · refine ⟨newest, batches, hfetches, ?_⟩
    rw [← hfetches.versions]
    decide +kernel

/-- The exploration is fetched with its translations, and so is its older version. -/
example : asked (.exploration "e") (store.afterPack checker settings "t").remote =
    (StructureId.exploration "e").requests (.after 1) [[.first]] := by
  decide +kernel

end Frugal

end ContentPack
