import ContentPack.Proofs.Closure
import ContentPack.Proofs.Resolution
import ContentPack.Proofs.Sections

/-!
# The declarations that pages are checked against

A page is checked against the subtopic that a version of its topic declares. The verdict stays in
the cache when that version is dropped, so an older version of the topic gets the page that was
found for a newer one. In a pack, each page is the newest version that is compatible as the newest
compatible version of the topic that declares the subtopic at all declares it
(`page_of_introducing`). The version of the topic in the pack may be an older one, and it may
declare the subtopic in a way that the page does not fit (`Leftover.keeps_unfit_page`).

What is known of the cache is that every page in it is settled under one declaration, and that
versions of the topic are only dropped after all pages that they declare were looked for
(`DroppedAfterPages`).
-/

namespace ContentPack

/-- **The version of a topic that counts for a page**: the newest compatible one that declares its
subtopic. -/
structure Store.Introduces (store : Store) (checker : Checker) (topicId : String) (index : Int)
    (t : Topic) : Prop where
  /-- It is compatible. -/
  compatible : store.Compatible checker none (.topic topicId) (.topic t)
  /-- It declares the subtopic. -/
  declares : index ∈ t.subtopicTable.keys
  /-- No newer compatible version declares it. -/
  greatest : ∀ t', store.Compatible checker none (.topic topicId) (.topic t') →
    index ∈ t'.subtopicTable.keys → t'.version.number ≤ t.version.number

/-- The declaration that a structure is checked against: only pages have one. -/
def Store.Governs (store : Store) (checker : Checker) :
    StructureId → Option Subtopic → Prop
  | .subtopic topicId index, declared => ∃ t, store.Introduces checker topicId index t ∧
      declared = t.declared (.subtopic topicId index)
  | _, declared => declared = none

section

variable {σ : Type} {store : Store} {checker : Checker} {topicId : String}

/-! ### Facts under a declaration -/

/-- What is true of the versions of structures under a declaration, where some versions of a topic
are of no use. -/
def droppedFacts (store : Store) (checker : Checker) (topicId : String) (dropped : List Version)
    (declared : Option Subtopic) : Facts where
  verdict id v := (store.stored? id v).map (checker.judge declared)
  Useless id v := (id = .topic topicId ∧ v ∈ dropped) ∨
    (Facts.ofJudge store (checker.judge declared)).Useless id v
  useless_of_none h := Or.inr ((Facts.ofJudge store (checker.judge declared)).useless_of_none h)
  useless_of_failure h :=
    Or.inr ((Facts.ofJudge store (checker.judge declared)).useless_of_failure h)

/-- What cannot be used under a declaration is not compatible. -/
theorem not_compatible_of_useless {declared : Option Subtopic} {id : StructureId} {l : Loaded}
    (h : (Facts.ofJudge store (checker.judge declared)).Useless id l.version) :
    ¬store.Compatible checker declared id l := by
  intro hl
  refine h l ?_
  rw [hl.stored, Option.map_some, Checker.judge_eq_success_iff.mpr ⟨hl.accepted, rfl⟩]

/-- A verdict that is a success is on a compatible version. -/
theorem compatible_of_verdict (hs : store.Faithful) {declared : Option Subtopic} {id : StructureId}
    {v : Version} {l : Loaded}
    (h : (store.stored? id v).map (checker.judge declared) = some (.success l)) :
    store.Compatible checker declared id l ∧ l.version = v := by
  obtain ⟨l', hl', hjudge⟩ := Option.map_eq_some_iff.mp h
  obtain ⟨hcheck, rfl⟩ := Checker.judge_eq_success_iff.mp hjudge
  have hversion := hs.version_eq hl'
  exact ⟨⟨hversion ▸ hl', hcheck⟩, hversion⟩

/-- Dropping more versions of a topic does not hurt. -/
theorem sound_of_dropped {dropped dropped' : List Version} (hsubset : dropped ⊆ dropped')
    {declared : Option Subtopic} {id : StructureId} {h : History Loaded}
    (hsound : h.Sound (droppedFacts store checker topicId dropped declared) id) :
    h.Sound (droppedFacts store checker topicId dropped' declared) id where
  known := hsound.known
  above v hv := (hsound.above v hv).imp_left fun hdropped => ⟨hdropped.1, hsubset hdropped.2⟩
  stored := hsound.stored

/-- A page on which a search has ended is the newest version that is compatible under its
declaration. -/
theorem newest_of_settled (hs : store.Faithful) {dropped : List Version}
    {declared : Option Subtopic} {id : StructureId} (hid : id ≠ .topic topicId)
    {h : History Loaded}
    (hsound : h.Sound (droppedFacts store checker topicId dropped declared) id) {l : Loaded}
    (hsettled : h.Settled (.success l)) : store.Newest checker declared id l := by
  obtain ⟨hcompatible, hversion⟩ := compatible_of_verdict hs
    (hsound.verdict_eq hsettled.newest hsettled.ne_pending)
  refine ⟨hcompatible, ?_⟩
  intro l' hl'
  rw [hversion]
  by_contra hlt
  rcases hsound.above _ (not_le.mp hlt) with ⟨htopic, -⟩ | huseless
  · exact hid htopic
  · exact not_compatible_of_useless huseless hl'

/-- Only the check of a page looks at the declaration. -/
theorem judge_eq_of_kind (hs : store.Faithful) {id : StructureId} (hkind : id.kind ≠ .subtopic)
    {v : Version} {l : Loaded} (hl : store.stored? id v = some l)
    (declared declared' : Option Subtopic) :
    checker.judge declared l = checker.judge declared' l := by
  obtain rfl := hs.id_eq hl
  cases l with
  | page p => exact absurd rfl hkind
  | _ => rfl

/-! ### Searches under one declaration -/

section Searches

variable {r : Resolver Loaded σ} {dropped : List Version}

/-- The verdicts of a search are facts under a declaration that counts. -/
def Resolver.Follows (r : Resolver Loaded σ) (store : Store) (checker : Checker)
    (topicId : String) (dropped : List Version) (e : Errand) (declared : Option Subtopic) : Prop :=
  store.Governs checker e.id declared ∧
    Decides (droppedFacts store checker topicId dropped declared) store r e

/-- **A search under one declaration** keeps a history sound under it. Once it has ended, a search
that knows another declaration does not change the history. -/
def declaredInvariant (hs : store.Faithful) (ha : r.source.Answers store)
    (hdecided : ∀ subtopic l, r.judge subtopic l ≠ .pending) (checker : Checker)
    (topicId : String) (dropped : List Version) (e : Errand) : Resolver.SearchInvariant r e where
  Holds h := ∃ declared, store.Governs checker e.id declared ∧
    h.Sound (droppedFacts store checker topicId dropped declared) e.id ∧
    (Resolver.Decides (droppedFacts store checker topicId dropped declared) store r e ∨
      ∃ o, h.Settled o)
  Opens := ∃ declared, r.Follows store checker topicId dropped e declared
  Fails := True
  decided := hdecided e.subtopic
  trims := by
    rintro h h' ⟨declared, hgoverns, hsound, hcase⟩ t
    refine ⟨declared, hgoverns, hsound.trims t, hcase.imp_right ?_⟩
    rintro ⟨o, hsettled⟩
    exact ⟨o, (hsettled.eq_of_trims t).symm ▸ hsettled⟩
  start := by
    rintro l ⟨declared, hgoverns, hdecides⟩ hyields
    exact ⟨declared, hgoverns,
      Resolver.sound_tracked hs hdecides (hyields.eq_served ha).symm, Or.inl hdecides⟩
  unknown _ _ := trivial
  learn := by
    rintro h v lastInvalid loaded ⟨declared, hgoverns, hsound, hdecides | ⟨o, hsettled⟩⟩ hat
      hpending hyields -
    · refine ⟨declared, hgoverns, hsound.write ?_, Or.inl hdecides⟩
      exact fun _ => Resolver.verdict_of_mem_entries hdecides (hyields.eq_served ha).symm
    · exact absurd hpending (hsettled.not_at_pending hat)
  refused _ _ _ _ := trivial
  miscounted _ _ _ _ _ := trivial

/-- **Every page is settled under one declaration**, and everything else is sound. -/
def declaredRegime (hs : store.Faithful) (ha : r.source.Answers store)
    (hjudge : r.judge = checker.judge) (topicId : String) (dropped : List Version) :
    Regime r where
  Known id h := ∃ declared, store.Governs checker id declared ∧
    h.Sound (droppedFacts store checker topicId dropped declared) id ∧
    (id.kind ≠ .subtopic ∨ ∃ o, h.Settled o)
  search := declaredInvariant hs ha (hjudge ▸ checker.judge_ne_pending) checker topicId dropped
  holds := by
    rintro e h ⟨declared, hgoverns, hsound, hcase⟩
    refine ⟨declared, hgoverns, hsound, hcase.imp_left ?_⟩
    -- what is no page is judged in the same way under every declaration
    intro hkind v
    show (store.stored? e.id v).map _ = _
    rw [hjudge]
    exact Option.map_congr fun l hl => judge_eq_of_kind hs hkind hl _ _
  known := by
    rintro e h o ⟨declared, hgoverns, hsound, -⟩ hsettled
    exact ⟨declared, hgoverns, hsound, Or.inr ⟨o, hsettled⟩⟩
  opens := by
    intro e hkind hsubtopic
    refine ⟨none, ?_, ?_⟩
    · unfold Store.Governs
      split
      · rename_i hid
        exact absurd (by rw [hid]; rfl) hkind
      · rfl
    · intro v
      rw [hsubtopic, hjudge]
      rfl

end Searches

/-! ### Versions of a topic -/

section Versions

variable {a : Assembler σ} {dropped : List Version}

/-- **Versions of a topic are only dropped after all pages that they declare were looked for.** -/
def DroppedAfterPages (store : Store) (checker : Checker) (topicId : String)
    (dropped : List Version) (cache : Cache Loaded) : Prop :=
  ∀ t, store.Compatible checker none (.topic topicId) (.topic t) → t.version ∈ dropped →
    ∀ index ∈ t.subtopicTable.keys, cache.history? (.subtopic topicId index) ≠ none

theorem DroppedAfterPages.of_shrinks {cache cache' : Cache Loaded}
    (h : DroppedAfterPages store checker topicId dropped cache) (hshrinks : cache.Shrinks cache') :
    DroppedAfterPages store checker topicId dropped cache' := by
  intro t ht hdropped index hindex
  obtain ⟨history, hhistory⟩ := Option.ne_none_iff_exists'.mp (h t ht hdropped index hindex)
  obtain ⟨history', hhistory', -⟩ := hshrinks _ history hhistory
  rw [hhistory']
  exact Option.some_ne_none _

/-- What is known of a topic. -/
theorem Regime.KnownIn.sound_topic {r : Resolver Loaded σ} {hs : store.Faithful}
    {ha : r.source.Answers store} {hjudge : r.judge = checker.judge} {cache : Cache Loaded}
    (hknown : (declaredRegime hs ha hjudge topicId dropped).KnownIn cache) {h : History Loaded}
    (hh : cache.history? (.topic topicId) = some h) :
    h.Sound (droppedFacts store checker topicId dropped none) (.topic topicId) := by
  obtain ⟨_, rfl, hsound, -⟩ := hknown _ h hh
  exact hsound

/-- A topic is settled on its newest compatible version that was not dropped. -/
theorem compatible_of_settled (hs : store.Faithful) {h : History Loaded} {t : Topic}
    (hsound : h.Sound (droppedFacts store checker topicId dropped none) (.topic topicId))
    (hsettled : h.Settled (.success (.topic t))) :
    store.Compatible checker none (.topic topicId) (.topic t) ∧ t.version = h.newest ∧
      t.id = topicId := by
  obtain ⟨hcompatible, hversion⟩ := compatible_of_verdict hs
    (hsound.verdict_eq hsettled.newest hsettled.ne_pending)
  refine ⟨hcompatible, hversion, ?_⟩
  obtain ⟨_, heq, hid⟩ := hs.exists_topic hcompatible.stored
  exact Loaded.topic.inj heq ▸ hid

/-- **The first version of a topic that comes to a page introduces it.** -/
theorem introduces_of_untracked (hs : store.Faithful) {cache : Cache Loaded} {h : History Loaded}
    {t : Topic} (hdropped : DroppedAfterPages store checker topicId dropped cache)
    (hsound : h.Sound (droppedFacts store checker topicId dropped none) (.topic topicId))
    (hsettled : h.Settled (.success (.topic t))) {index : Int}
    (hindex : index ∈ t.subtopicTable.keys)
    (hnone : cache.history? (.subtopic topicId index) = none) :
    store.Introduces checker topicId index t := by
  obtain ⟨hcompatible, hversion, -⟩ := compatible_of_settled hs hsound hsettled
  refine ⟨hcompatible, hindex, ?_⟩
  intro t' ht' hindex'
  rw [hversion]
  by_contra hlt
  -- a newer version was dropped, so the page would have been looked for
  rcases hsound.above _ (not_le.mp hlt) with ⟨-, hmem⟩ | huseless
  · exact hdropped t' ht' hmem index hindex' hnone
  · exact not_compatible_of_useless (l := .topic t') huseless ht'

/-- What is known stays known when the newest version of the topic is dropped. -/
theorem Regime.KnownIn.drop {r : Resolver Loaded σ} {hs : store.Faithful}
    {ha : r.source.Answers store} {hjudge : r.judge = checker.judge} {cache : Cache Loaded}
    (hknown : (declaredRegime hs ha hjudge topicId dropped).KnownIn cache) {h h' : History Loaded}
    (hh : cache.history? (.topic topicId) = some h)
    (hnum : h'.newest.number + 1 = h.newest.number) (hfirst : h'.outcomes <+: h.outcomes) :
    (declaredRegime hs ha hjudge topicId (h.newest :: dropped)).KnownIn
      (cache.withHistory (.topic topicId) h') := by
  have hsubset : dropped ⊆ h.newest :: dropped := List.subset_cons_self ..
  have hknown' : (declaredRegime hs ha hjudge topicId (h.newest :: dropped)).KnownIn cache := by
    intro id h₀ hh₀
    obtain ⟨declared, hgoverns, hsound, hcase⟩ := hknown id h₀ hh₀
    exact ⟨declared, hgoverns, sound_of_dropped hsubset hsound, hcase⟩
  refine hknown'.withHistory ⟨none, rfl, ?_, Or.inl (by simp [StructureId.kind])⟩
  exact (hknown'.sound_topic hh).drop hnum hfirst (Or.inl ⟨rfl, List.mem_cons_self⟩)

/-- A version of the topic may be dropped after its pages were looked for. -/
theorem DroppedAfterPages.drop (hs : store.Faithful) {cache : Cache Loaded}
    (hdropped : DroppedAfterPages store checker topicId dropped cache) {h : History Loaded}
    {topic : Outcome Loaded}
    (hsound : h.Sound (droppedFacts store checker topicId dropped none) (.topic topicId))
    (hsettled : h.Settled topic)
    (hpages : ∀ t, topic = .success (.topic t) → ∃ pages, Regime.PagesSettled t cache pages)
    (h' : History Loaded) :
    DroppedAfterPages store checker topicId (h.newest :: dropped)
      (cache.withHistory (.topic topicId) h') := by
  intro t ht hmem index hindex
  rw [Cache.history?_withHistory_of_ne _ _ StructureId.noConfusion]
  rcases List.mem_cons.mp hmem with hversion | hmem
  · -- what is stored at this version is what the search came to
    have hverdict : (store.stored? (.topic topicId) h.newest).map (checker.judge none) =
        some topic := hsound.verdict_eq hsettled.newest hsettled.ne_pending
    have hstored : store.stored? (.topic topicId) h.newest = some (.topic t) := hversion ▸ ht.stored
    rw [hstored, Option.map_some, Checker.judge_eq_success_iff.mpr ⟨ht.accepted, rfl⟩] at hverdict
    obtain ⟨pages, hpages'⟩ := hpages t (Option.some.inj hverdict).symm
    obtain ⟨_, heq, rfl⟩ := hs.exists_topic hstored
    obtain rfl := Loaded.topic.inj heq
    obtain ⟨page, -, h'', hh'', -⟩ := exists_right_of_forall₂ hpages' hindex
    rw [hh'']
    exact Option.some_ne_none _
  · exact hdropped t ht hmem index hindex

/-- **What is known between attempts.** -/
def DeclarationsKept (hs : store.Faithful) (ha : a.resolver.source.Answers store)
    (hjudge : a.resolver.judge = checker.judge) (topicId : String) (cache : Cache Loaded) : Prop :=
  ∃ dropped, (declaredRegime hs ha hjudge topicId dropped).KnownIn cache ∧
    DroppedAfterPages store checker topicId dropped cache

/-- **How a run ends**, where every page is settled under one declaration: with a pack of the pages
that are settled, or with the reasons against the oldest version of the topic. -/
def EndsDeclared (hs : store.Faithful) (ha : a.resolver.source.Answers store)
    (hjudge : a.resolver.judge = checker.judge) (topicId : String) (o : Outcome TopicPack) : Prop :=
  ∃ dropped cache h topic, (declaredRegime hs ha hjudge topicId dropped).KnownIn cache ∧
    cache.history? (.topic topicId) = some h ∧ h.Settled topic ∧
    ((∃ pack, o = .success pack ∧ topic = .success (.topic pack.topic) ∧
        Regime.SettledPages pack cache) ∨
      h.newest.number ≤ 1 ∧ ∃ reasons, o = .failure reasons ∧
        (declaredRegime hs ha hjudge topicId dropped).Objects topic reasons)

/-- An attempt gives a pack, or it looks for all pages of its version of the topic. -/
theorem ensures_attempt_declared (hs : store.Faithful) (ha : a.resolver.source.Answers store)
    (hjudge : a.resolver.judge = checker.judge) (hlimit : a.limit ≠ some 0)
    {s : Session Loaded σ} (hkept : DeclarationsKept hs ha hjudge topicId s.cache) :
    Work.Ensures (a.attempt topicId) s
      (Assembler.Tried (DeclarationsKept hs ha hjudge topicId) (EndsDeclared hs ha hjudge topicId)
        topicId ((s.cache.history? (.topic topicId)).map (·.newest.number)))
      (fun error _ => error.IsExcused) := by
  obtain ⟨dropped, hknown, hdropped⟩ := hkept
  let R := declaredRegime hs ha hjudge topicId dropped
  refine (R.ensures_attempt topicId hknown hlimit ?_).mono ?_ (fun _ _ => id)
  · -- a page that is not tracked yet is declared by the version that introduces it
    rintro cache t hleaves ⟨h, hh, hsettled⟩ e he hnone
    obtain ⟨index, declared, hmem, hid, hsubtopic⟩ := Assembler.exists_of_mem_pageErrands he
    have hsound := hleaves.known.sound_topic hh
    obtain ⟨-, -, rfl⟩ := compatible_of_settled hs hsound hsettled
    rw [hid] at hnone
    have hintroduces := introduces_of_untracked hs (hdropped.of_shrinks hleaves.shrinks) hsound
      hsettled (List.mem_map.mpr ⟨_, hmem, rfl⟩) hnone
    refine ⟨e.subtopic, ?_, ?_⟩
    · rw [hid, hsubtopic]
      exact ⟨t, hintroduces, (Topic.declared_of_mem hmem).symm⟩
    · intro v
      rw [hjudge]
      rfl
  rintro o rest ⟨⟨kinds, hleaves⟩, topic, ⟨h, hh, hsettled⟩, hcase⟩
  have hsound := hleaves.known.sound_topic hh
  refine ⟨h, hh, fun n hn => hleaves.shrinks.newest_le hh hn, ?_⟩
  rcases hcase with ⟨pack, rfl, hpack⟩ | ⟨⟨reasons, rfl, hobjects⟩, hpages⟩
  · exact Or.inl ⟨pack, rfl, dropped, rest.cache, h, topic, hleaves.known, hh, hsettled,
      Or.inl ⟨pack, rfl, hpack⟩⟩
  · refine Or.inr ⟨reasons, rfl, ?_, ?_⟩
    · intro hone
      exact ⟨dropped, rest.cache, h, topic, hleaves.known, hh, hsettled,
        Or.inr ⟨hone, reasons, rfl, hobjects⟩⟩
    · intro h' hnum hfirst
      exact ⟨_, hleaves.known.drop hh hnum hfirst,
        (hdropped.of_shrinks hleaves.shrinks).drop hs hsound hsettled hpages h'⟩

/-- **A run ends as its pages were declared**, unless it is given up. -/
theorem resolvePack_declared (hs : store.Faithful) (checker : Checker) (settings : ResolverSettings)
    (topicId : String) :
    (∃ o, EndsDeclared (a := .ofSettings store.source checker settings) hs store.source_answers rfl
          topicId o ∧
        store.resolvePack checker settings topicId = Assembler.packOf topicId o) ∨
      ∃ error, store.resolvePack checker settings topicId = .error error ∧ error.IsExcused := by
  let a := Assembler.ofSettings store.source checker settings
  have ha : a.resolver.source.Answers store := store.source_answers
  have hempty : DeclarationsKept hs ha rfl topicId (Cache.empty : Cache Loaded) :=
    ⟨[], Regime.knownIn_empty, fun _ _ hmem => absurd hmem List.not_mem_nil⟩
  exact Source.resolvePack_of_run (Assembler.ensures_run_of_attempts (s := { remote := [] }) _
    (fun _ hkept => ensures_attempt_declared hs ha rfl (FanOut.seatLimit_ne_zero _) hkept) hempty)

/-- **The pages of a pack** are the newest that are compatible as the versions of the topic declare
them that count. -/
def FollowsIntroductions (store : Store) (checker : Checker) (topicId : String)
    (pack : TopicPack) : Prop :=
  pack.topic.id = topicId ∧ ∀ index page, (index, page) ∈ pack.subtopicPages →
    ∃ t, store.Introduces checker topicId index t ∧
      pack.topic.version.number ≤ t.version.number ∧
      store.Newest checker (t.declared (.subtopic topicId index)) (.subtopic topicId index)
        (.page page)

/-- The pages of a pack are as they were introduced. -/
theorem EndsDeclared.follows {hs : store.Faithful} {ha : a.resolver.source.Answers store}
    {hjudge : a.resolver.judge = checker.judge} {pack : TopicPack}
    (h : EndsDeclared hs ha hjudge topicId (.success pack)) :
    FollowsIntroductions store checker topicId pack := by
  obtain ⟨dropped, cache, h, topic, hknown, hh, hsettled, hcase⟩ := h
  rcases hcase with ⟨_, heq, rfl, hpages⟩ | ⟨-, reasons, heq, -⟩
  · obtain rfl := Outcome.success.inj heq
    obtain ⟨hcompatible, -, rfl⟩ := compatible_of_settled hs (hknown.sound_topic hh) hsettled
    refine ⟨rfl, ?_⟩
    intro index page hmem
    obtain ⟨hindex, h', hh', hsettled'⟩ := hpages index page hmem
    obtain ⟨_, ⟨t, hintroduces, rfl⟩, hsound', -⟩ := hknown _ h' hh'
    exact ⟨t, hintroduces, hintroduces.greatest _ hcompatible hindex,
      newest_of_settled hs StructureId.noConfusion hsound' hsettled'⟩
  · cases heq

end Versions

end

/-! ### What becomes of the pages of a pack -/

/-- **A page in a pack was found for the version of the topic that introduces it**: it is the newest
version that is compatible as that version declares it. It is the newest that is compatible as the
topic in the pack declares it if the checks under both declarations agree. -/
theorem page_of_introducing (documents : List Document) (translations : List Translation)
    (checker : Checker) (settings : ResolverSettings) (topicId : String) (pack : TopicPack)
    (hpack : (Store.ofContents documents translations).resolvePack checker settings topicId =
      .ok pack)
    (index : Int) (page : SubtopicPage) (hpage : (index, page) ∈ pack.subtopicPages) :
    pack.topic.id = topicId ∧
      ∃ t, (Store.ofContents documents translations).Introduces checker topicId index t ∧
        pack.topic.version.number ≤ t.version.number ∧
        t.newest (Store.ofContents documents translations) checker (.subtopic topicId index)
          (.page page) ∧
        ((∀ v l, (Store.ofContents documents translations).stored? (.subtopic topicId index) v =
            some l → checker.check (t.declared (.subtopic topicId index)) l =
              checker.check (pack.topic.declared (.subtopic topicId index)) l) →
          pack.topic.newest (Store.ofContents documents translations) checker
            (.subtopic topicId index) (.page page)) := by
  have hs := Store.faithful_ofContents documents translations
  generalize Store.ofContents documents translations = store at hs hpack ⊢
  rcases resolvePack_declared hs checker settings topicId with
    ⟨o, hends, hresult⟩ | ⟨error, hresult, -⟩
  · rw [hpack] at hresult
    cases o with
    | success found =>
      obtain rfl := Except.ok.inj hresult
      obtain ⟨hid, hpages⟩ := hends.follows
      obtain ⟨t, hintroduces, hle, hnewest⟩ := hpages index page hpage
      exact ⟨hid, t, hintroduces, hle, hnewest, fun hagree => hnewest.congr hagree⟩
    | failure reasons => cases hresult
    | pending => cases hresult
  · rw [hpack] at hresult
    cases hresult

namespace Leftover

/-- A version of the topic, which declares its only subtopic under a title. -/
def topic (v : Version) (title : String) (storyIds : List String) : Topic :=
  { id := "t", version := v, canonicalStoryIds := storyIds, subtopics := [{ id := 1, title }] }

/-- The only version of the page of the subtopic. -/
def page : SubtopicPage := { topicId := "t", subtopicIndex := 1, version := .first }

/-- Two versions of the topic under different titles, the page, and a story of the newer one. -/
def documents : List Document :=
  [.topic (topic .first "old" []), .topic (topic (.after 1) "new" ["s"]), .page page,
    .story { id := "s", version := .first }]

/-- The checker that accepts the page under the title of the newer version only, and no story. -/
def checker : Checker where
  page _ declared := if declared.map (·.title) = some "new" then .compatible
    else .incompatible [{ kind := "subtopic", structureId := "t/1", reason := "title" }]
  story _ := .incompatible [{ kind := "story", structureId := "s", reason := "blocked" }]

/-- The pack of the older version, with the page that was found for the newer one. -/
def pack : TopicPack where
  topic := topic .first "old" []
  subtopicPages := [(1, page)]
  stories := []
  explorations := []
  skills := []
  defaultLanguage := .ofCode (topic .first "old" []).languageCode

theorem resolvePack_eq :
    (Store.ofContents documents []).resolvePack checker {} "t" = .ok pack := by decide +kernel

/-- The page was found for the newer version of the topic. -/
theorem introduced :
    (1, page) ∈ pack.subtopicPages ∧
      ∃ t, (Store.ofContents documents []).Introduces checker "t" 1 t ∧
        t.newest (Store.ofContents documents []) checker (.subtopic "t" 1) (.page page) := by
  have hpage : (1, page) ∈ pack.subtopicPages := List.mem_singleton.mpr rfl
  obtain ⟨-, t, hintroduces, -, hnewest, -⟩ :=
    page_of_introducing documents [] checker {} "t" pack resolvePack_eq 1 page hpage
  exact ⟨hpage, t, hintroduces, hnewest⟩

/-- **A pack keeps a page that does not fit its topic**: under the declaration of the topic in the
pack the checker rejects the page. -/
theorem keeps_unfit_page :
    (Store.ofContents documents []).resolvePack checker {} "t" = .ok pack ∧
      (1, page) ∈ pack.subtopicPages ∧
      pack.topic.subtopicTable.get? 1 = some { id := 1, title := "old" } ∧
      checker.page page (some { id := 1, title := "old" }) ≠ .compatible :=
  ⟨resolvePack_eq, by decide +kernel, by decide +kernel, by decide +kernel⟩

end Leftover

end ContentPack
