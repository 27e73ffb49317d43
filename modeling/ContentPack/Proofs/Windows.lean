import ContentPack.Proofs.Agreement
import ContentPack.Proofs.Consistency
import ContentPack.Proofs.Declarations
import ContentPack.Proofs.Search.Prefetch

/-!
# How many versions are loaded together makes no difference

Two runs that differ in how many versions are loaded together keep caches that are tied
(`Cache.Tied`): what is still pending may differ, but not what it will come to. Pages are tied by
the outcome that they are settled on, because their verdicts depend on who asks for them.

So whatever a run comes to with some number of versions, it comes to the same if versions are loaded
one by one, unless a request fails. If nothing is missing below a stored version, then the
number makes no difference at all (`resolveWithWindow_eq`).
-/

namespace ContentPack

section

variable {σ σ' : Type} {store : Store} {checker : Checker} {id : StructureId}
  {h h' : History Loaded}

/-! ### Caches that are tied -/

/-- **Histories that searches cannot tell apart.** -/
structure History.Tied (store : Store) (checker : Checker) (id : StructureId)
    (h h' : History Loaded) : Prop where
  /-- They go up to the same version. -/
  newest : h'.newest = h.newest
  /-- What the versions will come to is the same. -/
  ahead : id.kind ≠ .subtopic → h.SameAhead store (checker.judge none) id h'
  /-- A page is settled on the same outcome. -/
  page : id.kind = .subtopic → ∃ o, h.Settled o ∧ h'.Settled o

/-- **Caches that searches cannot tell apart.** -/
def Cache.Tied (store : Store) (checker : Checker) (cache cache' : Cache Loaded) : Prop :=
  ∀ id, Option.Rel (History.Tied store checker id) (cache.history? id) (cache'.history? id)

/-- Tied caches belong together. -/
theorem Cache.matching_tied : Matching (Tied store checker) where
  newest {cache cache'} htied id := by
    have hid := htied id
    generalize cache.history? id = known, cache'.history? id = known' at hid ⊢
    cases hid with
    | none => rfl
    | some hsame => exact congrArg some hsame.newest.symm
  drop {cache cache' topicId h h' rest rest'} htied hh hh' hrest hrest' := by
    intro id
    by_cases hid : id = .topic topicId
    · subst hid
      have hsame := htied (.topic topicId)
      rw [hh, hh'] at hsame
      cases hsame with
      | some hsame =>
        have hahead := (hsame.ahead (by simp [StructureId.kind])).drop hrest hrest'
        rw [history?_withHistory_self, history?_withHistory_self]
        exact .some ⟨hahead.newest, fun _ => hahead, fun hkind => by cases hkind⟩
    · rw [history?_withHistory_of_ne _ _ hid, history?_withHistory_of_ne _ _ hid]
      exact htied id

namespace Resolver

variable {r : Resolver Loaded σ} {r' : Resolver Loaded σ'} {e : Errand} {o : Outcome Loaded}
  {last : History Loaded}

theorem LeadsTo.settled_last (hleads : LeadsTo r store e h o last) : last.Settled o := by
  induction hleads with
  | settled hsettled => exact hsettled
  | load _ _ _ _ ih => exact ih
  | drop _ _ _ ih => exact ih

/-- What is the same ahead for a search is tied once the search has ended. -/
theorem tied_of_sameAhead (hs : store.Faithful) {last' : History Loaded}
    (hsame : last.SameAhead store (checker.judge e.subtopic) e.id last')
    (hsettled : last.Settled o) (hsettled' : last'.Settled o) :
    last.Tied store checker e.id last' where
  newest := hsame.newest
  ahead hkind := hsame.congr fun _ _ hl => judge_eq_of_kind hs hkind hl _ _
  page _ := ⟨o, hsettled, hsettled'⟩

/-- **Searches from tied histories come to the same outcome**, and leave tied histories. -/
theorem Arrives.of_tied (hs : store.Faithful) (hjudge : r.judge = checker.judge)
    (hjudge' : r'.judge = checker.judge) (hr' : r'.IsSupplied store)
    {known known' : Option (History Loaded)}
    (hknown : Option.Rel (History.Tied store checker e.id) known known')
    (harrives : Arrives r store e known o last) :
    ∃ last', Arrives r' store e known' o last' ∧ last.Tied store checker e.id last' := by
  have hdecided : ∀ l, r.judge e.subtopic l ≠ .pending := hjudge ▸ checker.judge_ne_pending _
  -- histories that are the same ahead stay so
  have hfollow : ∀ {h h'}, LeadsTo r store e h o last →
      h.SameAhead store (checker.judge e.subtopic) e.id h' →
      ∃ last', LeadsTo r' store e h' o last' ∧ last.Tied store checker e.id last' := by
    intro h h' hleads hsame
    obtain ⟨last', hleads', hsame'⟩ :=
      hleads.of_sameAhead hr' (hjudge'.trans hjudge.symm) hdecided (hjudge ▸ hsame)
    exact ⟨last', hleads',
      tied_of_sameAhead hs (hjudge ▸ hsame') hleads.settled_last hleads'.settled_last⟩
  cases hknown with
  | none =>
    obtain ⟨l, hserved, hleads⟩ := harrives
    have hsame : r'.tracked e l = r.tracked e l := by
      unfold tracked
      rw [hjudge, hjudge']
    obtain ⟨last', hleads', htied⟩ := hfollow hleads (.refl _)
    exact ⟨last', ⟨l, hserved, hsame ▸ hleads'⟩, htied⟩
  | @some h h' htied =>
    by_cases hkind : e.id.kind = .subtopic
    · -- a page is settled
      obtain ⟨o', hsettled, hsettled'⟩ := htied.page hkind
      obtain ⟨rfl, rfl⟩ := (leadsTo_of_settled hsettled).mp harrives
      exact ⟨h', .settled hsettled', htied⟩
    · refine hfollow harrives ((htied.ahead hkind).congr ?_)
      exact fun _ _ hl => judge_eq_of_kind hs hkind hl _ _

/-- **Searches from tied caches simulate each other**, where failures of requests are forgiven. -/
theorem simulates_resolveAll (hs : store.Faithful) (ha : r.source.Answers store)
    (ha' : r'.source.Answers store) (hjudge : r.judge = checker.judge)
    (hjudge' : r'.judge = checker.judge) (hr' : r'.IsSupplied store) {errands : List Errand}
    (hids : (errands.map (·.id)).Nodup) {limit limit' : Option Nat} (hlimit : limit ≠ some 0)
    (hlimit' : limit' ≠ some 0) (joins joins' : Nat) :
    Work.SimulatesOver (Cache.Tied store checker) True (r.resolveAll limit errands joins)
      (r'.resolveAll limit' errands joins') := by
  intro s s' htied
  have hdecided : ∀ subtopic l, r.judge subtopic l ≠ .pending :=
    hjudge ▸ checker.judge_ne_pending
  have hdecided' : ∀ subtopic l, r'.judge subtopic l ≠ .pending :=
    hjudge' ▸ checker.judge_ne_pending
  rcases (searches_resolveAll ha hdecided hids hlimit joins s).run with
    ⟨outcomes, rest, hrun, harrived⟩ | ⟨error, rest, hrun, ⟨failure, rfl⟩, -⟩
  · have hmeet : ∀ {e o}, (∃ last, rest.cache.history? e.id = some last ∧
          Arrives r store e (s.cache.history? e.id) o last) →
        ∃ last last', rest.cache.history? e.id = some last ∧
          Arrives r' store e (s'.cache.history? e.id) o last' ∧
          last.Tied store checker e.id last' := by
      rintro e o ⟨last, hlast, harrives⟩
      obtain ⟨last', harrives', hsame⟩ :=
        harrives.of_tied hs hjudge hjudge' hr' (htied e.id)
      exact ⟨last, last', hlast, harrives', hsame⟩
    rcases (searches_resolveAll ha' hdecided' hids hlimit' joins' s').run with
      ⟨outcomes', rest', hrun', harrived'⟩ | ⟨error', rest', hrun', -, e, he, hnone⟩
    · rw [hrun, hrun']
      have hsame : List.Forall₂ (· = ·) outcomes outcomes' := by
        refine forall₂_trans ?_ harrived.ends.flip harrived'.ends
        rintro o e o' hend ⟨_, -, harrives'⟩
        obtain ⟨_, _, -, harrives'', -⟩ := hmeet hend
        exact (harrives''.unique harrives').1
      obtain rfl : outcomes = outcomes' := List.forall₂_eq_eq_eq ▸ hsame
      refine .value fun id => ?_
      cases id using Resolver.sought_or_not errands with
      | sought e he =>
        obtain ⟨o, -, hend⟩ := exists_right_of_forall₂ harrived.ends he
        obtain ⟨o', -, last'', hlast'', hfound⟩ := exists_right_of_forall₂ harrived'.ends he
        obtain ⟨last, last', hlast, harrives', htied'⟩ := hmeet hend
        obtain ⟨-, rfl⟩ := harrives'.unique hfound
        rw [hlast, hlast'']
        exact .some htied'
      | other id hnot =>
        rw [harrived.spares id hnot, harrived'.spares id hnot]
        exact htied id
    · -- the other searches lead somewhere, too
      obtain ⟨o, -, hend⟩ := exists_right_of_forall₂ harrived.ends he
      obtain ⟨_, last', -, harrives', -⟩ := hmeet hend
      exact absurd harrives' (hnone o last')
  · rw [hrun]
    exact .forgiven trivial

end Resolver

/-! ### Whole runs -/

/-- The pack of a topic, as it is resolved with a number of versions that are loaded together. -/
def Store.resolveWithWindow (store : Store) (checker : Checker) (settings : ResolverSettings)
    (topicId : String) (window : Int) : Except Error TopicPack :=
  store.resolvePack checker { settings with versionFetchWindow := window } topicId

/-- With another number of versions that are loaded together a run comes to the same, unless a
request of the first run fails. -/
theorem Store.resolveWithWindow_agrees (hs : store.Faithful) (settings : ResolverSettings)
    (topicId : String) (window window' : Int)
    (hsupplied : (Resolver.ofStore store checker window').IsSupplied store) :
    (∃ failure, store.resolveWithWindow checker settings topicId window =
        .error (.fetch failure)) ∨
      ResultsAgree (store.resolveWithWindow checker settings topicId window)
        (store.resolveWithWindow checker settings topicId window') := by
  have hsimulates : Work.SimulatesOver (Cache.Tied store checker) True
      (Assembler.resolve (.ofSettings store.source checker
        { settings with versionFetchWindow := window }) topicId)
      (Assembler.resolve (.ofSettings store.source checker
        { settings with versionFetchWindow := window' }) topicId) := by
    refine Assembler.simulatesOver_resolve Cache.matching_tied ?_ ?_ ?_ ?_ topicId
    · intro errands hids limit limit' hlimit hlimit' joins
      exact Resolver.simulates_resolveAll hs store.source_answers store.source_answers rfl rfl
        hsupplied hids hlimit hlimit' joins joins
    · rfl
    · exact FanOut.seatLimit_ne_zero _
    · exact FanOut.seatLimit_ne_zero _
  have hrun := hsimulates { remote := [] } { remote := [] } fun _ => .none
  unfold resolveWithWindow resolvePack
  revert hrun
  generalize ExceptT.run (Assembler.resolve (.ofSettings store.source checker
    { settings with versionFetchWindow := window }) topicId) _ = left
  generalize ExceptT.run (Assembler.resolve (.ofSettings store.source checker
    { settings with versionFetchWindow := window' }) topicId) _ = right
  intro hrun
  cases hrun with
  | value => exact Or.inr (.ok _)
  | error => exact Or.inr (.error (Or.inl rfl))
  | failed => exact Or.inl ⟨_, rfl⟩
  | forgiven => exact Or.inl ⟨_, rfl⟩

/-- **Loading versions ahead makes no difference.** Whatever a run comes to with some number of
versions that are loaded together, apart from a failed request, it comes to the same if they are
loaded one by one. If nothing is missing below a stored version, the number makes no difference at
all. -/
theorem resolveWithWindow_eq (documents : List Document) (translations : List Translation)
    (checker : Checker) (settings : ResolverSettings) (topicId : String) :
    (∀ window, (∀ failure, (Store.ofContents documents translations).resolveWithWindow checker
          settings topicId window ≠ .error (.fetch failure)) →
        (Store.ofContents documents translations).resolveWithWindow checker settings topicId 1 =
          (Store.ofContents documents translations).resolveWithWindow checker settings topicId
            window) ∧
      ((Store.ofContents documents translations).IsGapless → ∀ window window',
        ResultsAgree
          ((Store.ofContents documents translations).resolveWithWindow checker settings topicId
            window)
          ((Store.ofContents documents translations).resolveWithWindow checker settings topicId
            window')) := by
  have hs := Store.faithful_ofContents documents translations
  generalize Store.ofContents documents translations = store at hs ⊢
  constructor
  · intro window hfetch
    rcases store.resolveWithWindow_agrees hs settings topicId window 1
        (Resolver.isSupplied_of_window_one store rfl) with ⟨failure, hfailure⟩ | hagree
    · exact absurd hfailure (hfetch failure)
    · exact (hagree.eq_of_ne_fetch hfetch).symm
  · intro hgapless window window'
    have hsupplied : ∀ window, (Resolver.ofStore store checker window).IsSupplied store :=
      fun _ => Resolver.isSupplied_of_isGapless _ hgapless
    rcases store.resolveWithWindow_agrees hs settings topicId window window' (hsupplied _) with
      ⟨failure, hfailure⟩ | hagree
    · -- then the request of the other run fails, too
      rcases store.resolveWithWindow_agrees hs settings topicId window' window (hsupplied _) with
        ⟨failure', hfailure'⟩ | hagree'
      · rw [hfailure, hfailure']
        exact .error (Or.inr ⟨⟨failure, rfl⟩, failure', rfl⟩)
      · exact hagree'.symm
    · exact hagree

/-! ### An instance -/

/-- A store in which every version has all older ones is gapless. -/
theorem Store.isGapless_of_isComplete (hs : store.Faithful) (hcomplete : store.IsComplete) :
    store.IsGapless := by
  intro id v w hle hv
  unfold stored? at hv ⊢
  rw [ne_eq, Option.map_eq_none_iff] at hv ⊢
  obtain ⟨d, hd⟩ := Option.ne_none_iff_exists'.mp hv
  have hplace : store.documents.get? id.locator = some (store.versionsOf id.locator) := by
    unfold versionsOf at hd ⊢
    cases hget : store.documents.get? id.locator with
    | none =>
      rw [hget] at hd
      cases hd
    | some versions => rfl
  have hkept := (Table.get?_eq_some_iff (hs.nodup _)).mp hd
  by_cases heq : w = v
  · exact heq ▸ hv
  · have hone := w.one_le
    have hne : w.number ≠ v.number := fun hnum => heq (Version.ext hnum)
    have hsome := (hcomplete _ (Table.mem_of_get? hplace) _ hkept).1 (w.number - 1) (by
      simp only
      omega)
    rw [show Version.after (w.number - 1) = w from Version.ext (by
      rw [Version.number_after]
      omega)] at hsome
    exact Option.isSome_iff_ne_none.mp hsome

end

namespace Ahead

/-- A topic with a story of four versions. -/
def documents : List Document :=
  .topic { id := "t", version := .first, canonicalStoryIds := ["s"] } ::
    (List.range 4).map fun n => .story { id := "s", version := .after n }

/-- The checker that rejects the newest two versions of the story. -/
def checker : Checker :=
  BlockedVersions.checker
    [{ kind := "story", id := "s", versions := some [3, 4], reasons := ["new"] }]

/-- The second version of the story is found, however many versions are loaded together. -/
theorem resolveWithWindow_two_three :
    (Store.ofContents documents []).resolveWithWindow checker {} "t" 1 =
        (Store.ofContents documents []).resolveWithWindow checker {} "t" 3 ∧
      ResultsAgree ((Store.ofContents documents []).resolveWithWindow checker {} "t" 2)
        ((Store.ofContents documents []).resolveWithWindow checker {} "t" 3) := by
  obtain ⟨hone, hany⟩ := resolveWithWindow_eq documents [] checker {} "t"
  refine ⟨hone 3 ?_, hany ?_ 2 3⟩
  · have hpack : ((Store.ofContents documents []).resolveWithWindow checker {} "t" 3).isOk := by
      decide +kernel
    intro failure hfailure
    rw [hfailure] at hpack
    cases hpack
  · exact Store.isGapless_of_isComplete (Store.faithful_ofContents ..) (by decide +kernel)

/-- If the first version of the story is missing, it must not be loaded ahead. -/
example :
    let store := Store.ofContents (documents.eraseIdx 1) []
    (store.resolveWithWindow checker {} "t" 1).isOk ∧
      store.resolveWithWindow checker {} "t" 3 = .error (.fetch (.unknownVersions [1]
        ⟨.story, "s"⟩)) := by
  decide +kernel

end Ahead

end ContentPack
