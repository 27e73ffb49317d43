import ContentPack.Proofs.Consistency
import ContentPack.Proofs.Declarations
import ContentPack.Proofs.Reports

/-!
# The reasons that are reported

If there is no pack, the reasons are those of the last attempt, which is made at the first version
of the topic: the reasons against that version, or else the report on its parts
(`Store.Explains`). In the report there are the reasons against the first version of every part
that has no compatible one.

A page comes to what it came to for the version of the topic that introduces it
(`reported_reasons`). So a page can be reported that is compatible as the first version of the topic
declares it (`Redeclared.reports_fit_page`).
-/

namespace ContentPack

/-! ### What structures come to under the declarations that count -/

/-- **What a search for a structure comes to** under a declaration: its newest compatible version,
or else the reasons against its first version. -/
inductive Store.ComesTo (store : Store) (checker : Checker) (declared : Option Subtopic)
    (id : StructureId) : Outcome Loaded → Prop
  /-- There is a compatible version. -/
  | compatible {l : Loaded} : store.Newest checker declared id l →
      ComesTo store checker declared id (.success l)
  /-- There is none. -/
  | incompatible {l : Loaded} {reasons : List Rejection} :
      (∀ l', ¬store.Compatible checker declared id l') → store.stored? id .first = some l →
      checker.check declared l = .incompatible reasons →
      ComesTo store checker declared id (.failure reasons)

theorem Store.ComesTo.congr {store : Store} {checker : Checker}
    {declared declared' : Option Subtopic} {id : StructureId} {o : Outcome Loaded}
    (hcheck : ∀ v l, store.stored? id v = some l →
      checker.check declared l = checker.check declared' l)
    (h : store.ComesTo checker declared id o) : store.ComesTo checker declared' id o := by
  cases h with
  | compatible hnewest => exact .compatible (hnewest.congr hcheck)
  | incompatible hnone hstored hrejected =>
    refine .incompatible ?_ hstored ((hcheck _ _ hstored).symm.trans hrejected)
    exact fun l' hl' => hnone l' (hl'.congr fun v l hl => (hcheck v l hl).symm)

section Declared

variable {σ : Type} {store : Store} {checker : Checker} {topicId : String}
  {r : Resolver Loaded σ} {dropped : List Version}

/-- A structure comes to what its search settles on, under the declaration that counts. -/
def Store.ComesToDeclared (store : Store) (checker : Checker) (id : StructureId)
    (o : Outcome Loaded) : Prop :=
  ∃ declared, store.Governs checker id declared ∧ store.ComesTo checker declared id o

/-- A structure comes to what is found under the declaration of a version of the topic. -/
def Store.ComesToOwn (store : Store) (checker : Checker) (t : Topic) (id : StructureId)
    (o : Outcome Loaded) : Prop :=
  store.ComesTo checker (t.declared id) id o

/-- A failure that a search settles on is that of the first version. -/
theorem History.Sound.stored_first {declared : Option Subtopic} {id : StructureId}
    {h : History Loaded} {reasons : List Rejection}
    (hsound : h.Sound (droppedFacts store checker topicId dropped declared) id)
    (hsettled : h.Settled (.failure reasons)) :
    ∃ l, store.stored? id .first = some l ∧ checker.check declared l = .incompatible reasons := by
  have hfirst : h.newest = .first := by
    rcases hsettled.last with ⟨l, hl⟩ | ⟨hone, -⟩
    · cases hl
    · exact Version.ext hone
  have hverdict : (store.stored? id h.newest).map (checker.judge declared) =
      some (.failure reasons) := hsound.verdict_eq hsettled.newest hsettled.ne_pending
  obtain ⟨l, hl, hjudge⟩ := Option.map_eq_some_iff.mp hverdict
  refine ⟨l, hfirst ▸ hl, ?_⟩
  unfold Checker.judge at hjudge
  cases hcheck : checker.check declared l with
  | compatible =>
    rw [hcheck] at hjudge
    cases hjudge
  | incompatible own =>
    rw [hcheck] at hjudge
    exact congrArg Verdict.incompatible (Outcome.failure.inj hjudge)

/-- **What a search settles on is what the structure comes to.** -/
theorem comesTo_of_settled (hs : store.Faithful) {declared : Option Subtopic} {id : StructureId}
    (hid : id ≠ .topic topicId) {h : History Loaded} {o : Outcome Loaded}
    (hsound : h.Sound (droppedFacts store checker topicId dropped declared) id)
    (hsettled : h.Settled o) : store.ComesTo checker declared id o := by
  cases o with
  | pending => exact absurd rfl hsettled.ne_pending
  | success l => exact .compatible (newest_of_settled hs hid hsound hsettled)
  | failure reasons =>
    obtain ⟨l, hl, hcheck⟩ := hsound.stored_first hsettled
    refine .incompatible ?_ hl hcheck
    intro l' hl'
    have hone : h.newest.number = 1 := by
      rcases hsettled.last with ⟨_, heq⟩ | ⟨hone, -⟩
      · cases heq
      · exact hone
    by_cases hversion : l'.version = .first
    · -- the first version is not compatible
      have hstored := hl'.stored
      rw [hversion, hl] at hstored
      have haccepted := hl'.accepted
      rw [← Option.some.inj hstored, hcheck] at haccepted
      cases haccepted
    · -- what is above was dropped
      have hlt : h.newest.number < l'.version.number := by
        have hle := l'.version.one_le
        have hne : l'.version.number ≠ 1 := fun hnum => hversion (Version.ext hnum)
        omega
      rcases hsound.above _ hlt with ⟨htopic, -⟩ | huseless
      · exact hid htopic
      · exact not_compatible_of_useless huseless hl'

variable {hs : store.Faithful} {ha : r.source.Answers store} {hjudge : r.judge = checker.judge}

theorem comesToDeclared_of_settles {id : StructureId} (hid : id ≠ .topic topicId)
    {o : Outcome Loaded} (h : (declaredRegime hs ha hjudge topicId dropped).Settles id o) :
    store.ComesToDeclared checker id o := by
  obtain ⟨h, ⟨declared, hgoverns, hsound, -⟩, hsettled⟩ := h
  exact ⟨declared, hgoverns, comesTo_of_settled hs hid hsound hsettled⟩

theorem isTyped_declaredRegime :
    IsTyped (declaredRegime hs ha hjudge topicId dropped).Settles := by
  rintro id l ⟨h, ⟨declared, -, hsound, -⟩, hsettled⟩
  obtain ⟨hcompatible, -⟩ := compatible_of_verdict hs
    (hsound.verdict_eq hsettled.newest hsettled.ne_pending)
  have hid := hs.id_eq hcompatible.stored
  exact ⟨congrArg StructureId.kind hid, fun _ => hid⟩

end Declared

/-! ### The reasons of a run -/

/-- **Reasons why there is no pack**, given what every structure comes to for a version of the
topic: those against the first version, or else those in the report on its parts. -/
inductive Store.Explains (store : Store) (checker : Checker)
    (comesTo : Topic → StructureId → Outcome Loaded → Prop) (topicId : String) :
    List Rejection → Prop
  /-- The first version of the topic is not compatible. -/
  | rejected {t : Topic} {own : List Rejection} :
      store.stored? (.topic topicId) .first = some (.topic t) →
      checker.topic t = .incompatible own → Explains store checker comesTo topicId own.eraseDups
  /-- It is compatible, and this is the report on its parts. -/
  | lacking {t : Topic} (report : t.Report (comesTo t)) :
      store.stored? (.topic topicId) .first = some (.topic t) → checker.topic t = .compatible →
      Explains store checker comesTo topicId report.reasons

section

variable {σ : Type} {store : Store} {checker : Checker} {topicId : String} {a : Assembler σ}
  {hs : store.Faithful} {ha : a.resolver.source.Answers store}
  {hjudge : a.resolver.judge = checker.judge}

/-- **The reasons that a run ends with** are explained under the declarations that count. -/
theorem EndsDeclared.explains {raw : List Rejection}
    (h : EndsDeclared hs ha hjudge topicId (.failure raw)) :
    store.Explains checker (fun _ => store.ComesToDeclared checker) topicId raw.eraseDups := by
  obtain ⟨dropped, cache, h, topic, hknown, hh, hsettled, hcase⟩ := h
  have hsound := hknown.sound_topic hh
  rcases hcase with ⟨_, heq, -⟩ | ⟨hone, _, heq, hobjects⟩
  · cases heq
  · obtain rfl := Outcome.failure.inj heq
    cases hobjects with
    | rejected =>
      obtain ⟨l, hl, hcheck⟩ := hsound.stored_first hsettled
      obtain ⟨t, rfl, -⟩ := hs.exists_topic hl
      exact .rejected hl hcheck
    | @lacking t _ hfails =>
      obtain ⟨pages, outcomes, hgathers, rfl⟩ := hfails
      obtain ⟨hcompatible, hversion, -⟩ := compatible_of_settled hs hsound hsettled
      have hfirst : t.version = .first := by
        rw [hversion]
        exact Version.ext (Nat.le_antisymm hone h.one_le_newest)
      have hstored : store.stored? (.topic topicId) t.version = some (.topic t) :=
        hcompatible.stored
      obtain ⟨report, hreport⟩ := hgathers.exists_report isTyped_declaredRegime
      have hcomesTo : ∀ id o, t.Declares id → id.kind ≠ .topic →
          (declaredRegime hs ha hjudge topicId dropped).Settles id o →
          store.ComesToDeclared checker id o := by
        intro id o _ hkind
        exact comesToDeclared_of_settles fun hid => hkind (by rw [hid]; rfl)
      rw [hreport, ← report.reasons_map hcomesTo]
      exact .lacking _ (hfirst ▸ hstored) hcompatible.accepted
    | misplaced hnone =>
      obtain ⟨hcompatible, -⟩ := compatible_of_verdict hs
        (hsound.verdict_eq hsettled.newest hsettled.ne_pending)
      obtain ⟨t, rfl, -⟩ := hs.exists_topic hcompatible.stored
      cases hnone

end

/-- **The reasons that are reported** are those against the first version of the topic, or those in
the report on its parts, where each page comes to what it came to for the version of the topic that
introduces it. They are those under the own declarations of the first version if the checks under
both declarations agree. -/
theorem reported_reasons (documents : List Document) (translations : List Translation)
    (checker : Checker) (settings : ResolverSettings) (topicId : String)
    (reasons : List Rejection)
    (hreported : (Store.ofContents documents translations).resolvePack checker settings topicId =
      .error (.incompatibleTopic topicId reasons)) :
    (Store.ofContents documents translations).Explains checker
        (fun _ => (Store.ofContents documents translations).ComesToDeclared checker) topicId
        reasons ∧
      ((∀ t index declared,
          (Store.ofContents documents translations).stored? (.topic topicId) .first =
            some (.topic t) →
          index ∈ t.subtopicTable.keys →
          (Store.ofContents documents translations).Governs checker (.subtopic topicId index)
            declared →
          ∀ v l, (Store.ofContents documents translations).stored? (.subtopic topicId index) v =
            some l →
            checker.check declared l =
              checker.check (t.declared (.subtopic topicId index)) l) →
        (Store.ofContents documents translations).Explains checker
          ((Store.ofContents documents translations).ComesToOwn checker) topicId reasons) := by
  have hs := Store.faithful_ofContents documents translations
  generalize Store.ofContents documents translations = store at hs hreported ⊢
  have hexplains : store.Explains checker (fun _ => store.ComesToDeclared checker) topicId
      reasons := by
    rcases resolvePack_declared hs checker settings topicId with
      ⟨o, hends, hresult⟩ | ⟨error, hresult, hexcused⟩
    · rw [hreported] at hresult
      cases o with
      | success pack => cases hresult
      | pending => cases hresult
      | failure raw =>
        obtain ⟨-, rfl⟩ := Error.incompatibleTopic.inj (Except.error.inj hresult)
        exact hends.explains
    · obtain rfl := Except.error.inj (hresult.symm.trans hreported)
      rcases hexcused with ⟨_, heq⟩ | ⟨_, _, heq⟩ <;> cases heq
  refine ⟨hexplains, fun hsame => ?_⟩
  cases hexplains with
  | rejected hstored hrejected => exact .rejected hstored hrejected
  | @lacking t report hstored haccepted =>
    obtain ⟨_, heq, hid⟩ := hs.exists_topic hstored
    obtain rfl := Loaded.topic.inj heq
    have hcomesTo : ∀ id o, t.Declares id → id.kind ≠ .topic →
        store.ComesToDeclared checker id o → store.ComesToOwn checker t id o := by
      rintro id o hdeclares - ⟨declared, hgoverns, hcomesTo⟩
      cases id with
      | subtopic name index =>
        obtain ⟨rfl, hindex⟩ := hdeclares
        subst hid
        exact hcomesTo.congr (hsame t index declared hstored hindex hgoverns)
      | _ =>
        obtain rfl : declared = none := hgoverns
        exact hcomesTo
    rw [← report.reasons_map hcomesTo]
    exact .lacking _ hstored haccepted

namespace Stepped

/-- The exploration of the only story is reported. -/
theorem explains_exploration : store.Explains checker (store.ComesToOwn checker) "t"
    [{ kind := "exploration", structureId := "e", version := some 1, reason := "blocked" }] :=
  (reported_reasons _ [] checker {} "t" _ resolvePack_eq).2 fun _ _ _ _ _ _ _ l _ => by
    cases l <;> rfl

end Stepped

namespace Redeclared

/-- There is nothing to report of the older version of the topic. -/
theorem reasons_eq_nil (report : (topic .first "old").Report
    (store.ComesToOwn checker (topic .first "old"))) : report.reasons = [] := by
  obtain ⟨pages, stories, explorations, skills, hpages, hstories, hexplorations, -, hskills, -⟩ :=
    report
  have hkeys : (topic .first "old").subtopicTable.keys = [1] := by decide +kernel
  have hstoryIds : (topic .first "old").storyIds = [] := by decide +kernel
  have hseeds : skillSeeds (topic .first "old") [page] [] [] = [] := by decide +kernel
  rw [hstoryIds] at hstories
  obtain rfl := List.forall₂_nil_left_iff.mp hstories
  obtain rfl := List.forall₂_nil_left_iff.mp (hexplorations [] rfl)
  rw [hkeys] at hpages
  obtain ⟨o, _, hpage, hnil, rfl⟩ := List.forall₂_cons_left_iff.mp hpages
  obtain rfl := List.forall₂_nil_left_iff.mp hnil
  have hdirect : Closure (fun _ l => Loaded.page page = l) (topic .first "old")
      (.subtopic "t" 1) := .direct (by decide +kernel)
  -- the page is compatible as the older version declares it
  cases hpage with
  | incompatible hnone => exact (hnone _ (isMissed.consistent.chosen _ hdirect)).elim
  | compatible hnewest =>
    obtain rfl := eq_page_of_stored hnewest.stored
    have hrounds := hskills [page] [] [] rfl rfl rfl
    rw [hseeds] at hrounds
    have hskills : skills.reasons = [] := by
      cases hrounds with
      | closed => rfl
      | fails houtcomes hflatten =>
        obtain rfl := List.forall₂_nil_left_iff.mp houtcomes
        cases hflatten
      | grows hmore hlength =>
        obtain rfl := List.forall₂_nil_left_iff.mp hmore
        exact absurd rfl hlength
    unfold Topic.Report.reasons
    rw [hskills]
    rfl

/-- **A page is reported although it is compatible** as the first version of the topic declares it.
Its reason is that of an earlier attempt, at a newer version of the topic. -/
theorem reports_fit_page :
    store.resolvePack checker {} "t" = .error (.incompatibleTopic "t"
        [{ kind := "subtopic", structureId := "t/1", reason := "title" }]) ∧
      ¬store.Explains checker (store.ComesToOwn checker) "t"
        [{ kind := "subtopic", structureId := "t/1", reason := "title" }] := by
  refine ⟨resolvePack_eq, ?_⟩
  generalize hreasons : ([{ kind := "subtopic", structureId := "t/1", reason := "title" }] :
    List Rejection) = reasons
  intro hexplains
  cases hexplains with
  | rejected _ hrejected => cases hrejected
  | @lacking t report hstored =>
    have hfirst : store.stored? (.topic "t") .first = some (.topic (topic .first "old")) :=
      isMissed.stored
    rw [hfirst] at hstored
    obtain rfl := Loaded.topic.inj (Option.some.inj hstored)
    rw [reasons_eq_nil report] at hreasons
    cases hreasons

end Redeclared

end ContentPack
