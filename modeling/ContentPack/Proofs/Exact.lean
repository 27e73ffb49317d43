import ContentPack.Proofs.Found
import ContentPack.Proofs.Loop
import ContentPack.Proofs.Schedules

/-!
# Progress over whole runs

Let a source answer as a store in memory does, whenever it puts off an answer, so that structures
may come in any order. What is found then bears the identifier that it was looked for under
(`ownRegime`), so the sections of a pack are as long as the groups that were counted.

The reports of a whole run are steady (`Assembler.Descends.steady`), so its progress is exact. A
pack that an attempt gives was counted in that attempt, and a run without a pack ends right after
all groups have started again (`Assembler.Loop.counted`).
-/

namespace ContentPack

open Work Tracker

variable {σ : Type}

/-! ### What is found bears its identifier -/

namespace Resolver

variable {r : Resolver Loaded σ} {checker : Checker} {store : Store}

/-- A search in a store finds what bears the identifier of its structure. -/
def ownInvariant (hs : store.Faithful) (ha : r.source.Answers store)
    (hjudge : r.judge = checker.judge) (e : Errand) : SearchInvariant r e where
  Holds h := h.AllFound fun _ l => l.id = e.id
  Opens := True
  Fails := True
  decided := judge_decides_errand hjudge e
  trims hall t := hall.trims t
  start _ hyields := by
    obtain ⟨_, heq, hstored, -⟩ := stored?_of_served_latest hs (hyields.eq_served ha).symm
    obtain rfl := List.singleton_inj.mp heq
    exact allFound_tracked hjudge (hs.id_eq hstored)
  unknown _ _ := trivial
  learn hall _ _ hyields _ := by
    refine allFound_write hjudge hall fun entry hentry => ?_
    have hstored := stored?_of_served (hyields.eq_served ha).symm
    exact hs.id_eq (List.forall₂_zip hstored hentry)
  refused _ _ _ _ := trivial
  miscounted _ _ _ _ _ := trivial

end Resolver

/-- **What is found bears its identifier**, in every history. -/
def ownRegime {r : Resolver Loaded σ} {checker : Checker} {store : Store} (hs : store.Faithful)
    (ha : r.source.Answers store) (hjudge : r.judge = checker.judge) : Regime r where
  Known id h := h.AllFound fun _ l => l.id = id
  search := r.ownInvariant hs ha hjudge
  holds h := h
  known h _ := h
  opens _ _ := trivial

theorem isTyped_ownRegime {r : Resolver Loaded σ} {checker : Checker} {store : Store}
    {hs : store.Faithful} {ha : r.source.Answers store} {hjudge : r.judge = checker.judge} :
    IsTyped (ownRegime hs ha hjudge).Settles := by
  rintro id l ⟨h, hall, hsettled⟩
  have hid : l.id = id := hall _ l hsettled.newest
  exact ⟨congrArg StructureId.kind hid, fun _ => hid⟩

/-! ### The end of a run -/

namespace Assembler

variable {a : Assembler σ} {topicId : String} {store : Store} {checker : Checker}
  {s rest : Session Loaded σ} {trials : List (Trial σ)}
  {result : Except Error (Outcome TopicPack)}

/-- **What is counted when a loop ends**: a pack, or nothing at all. -/
structure Counted (result : Except Error (Outcome TopicPack)) (rest : Session Loaded σ) : Prop where
  /-- All sections of the pack are counted. -/
  success : ∀ pack, result = .ok (.success pack) → pack.IsCounted (of rest.events)
  /-- Without a pack, nothing is. -/
  failure : ∀ reasons, result = .ok (.failure reasons) →
    ∀ group, (of rest.events).IsComplete group 0

/-- After a reset nothing is counted. -/
theorem isComplete_restarted (s : Session Loaded σ) (group : Group) :
    (of s.restarted.events).IsComplete group 0 := by
  have hreset : of s.restarted.events = (of s.events).report .resetAll := of_concat ..
  obtain ⟨hcount, hplaces⟩ : ((of s.events).report .resetAll).count group = 0 ∧
      ((of s.events).report .resetAll).places group = [] := report_resetAll
  rw [hreset]
  refine ⟨hcount, ?_⟩
  unfold Tracker.downloaded
  rw [hplaces]
  rfl

theorem Counted.of_error (error : Error) : Counted (.error error) rest := by
  constructor
  · intro pack h
    cases h
  · intro reasons h
    cases h

section Answered

variable (hs : store.Faithful) (ha : a.resolver.source.Answers store)
  (hjudge : a.resolver.judge = checker.judge) (hlimit : a.limit ≠ some 0)

include hlimit

/-- **An attempt counts its pack**, and what is found still bears its identifier. -/
theorem trial_counted (hknown : (ownRegime hs ha hjudge).KnownIn s.cache)
    (hsteady : Steady s.events) (hfresh : Regime.IsFresh s) {o : Outcome TopicPack}
    (ho : (a.trial topicId s).result = .ok o) :
    (∀ pack, o = .success pack → pack.IsCounted (of (a.trial topicId s).after.events)) ∧
      (ownRegime hs ha hjudge).KnownIn (a.trial topicId s).after.cache := by
  have hattempt := ((ownRegime hs ha hjudge).ensures_attempt topicId hknown hlimit
    (fun _ _ _ _ _ _ _ => trivial)).both (Regime.ensures_attempt_counted
      (Resolver.judge_decides hjudge) hlimit topicId hknown (fun _ _ _ _ _ _ _ => trivial)
      hsteady hfresh)
  obtain ⟨o', t, hrun, ⟨⟨_, hleaves⟩, -⟩, -, hcounted⟩ | ⟨error, t, hrun, -⟩ := hattempt.run
  · obtain ⟨hresult, rfl⟩ := trial_of_run hrun
    obtain rfl := Except.ok.inj (hresult.symm.trans ho)
    exact ⟨hcounted isTyped_ownRegime, hleaves.known⟩
  · obtain ⟨hresult, -⟩ := trial_of_run hrun
    rw [hresult] at ho
    cases ho

/-- **A loop ends with its pack counted**, or else with nothing counted. -/
theorem Loop.counted (hloop : a.Loop topicId s trials result rest)
    (hknown : (ownRegime hs ha hjudge).KnownIn s.cache) (hsteady : Steady s.events)
    (hfresh : Regime.IsFresh s) : Counted result rest := by
  induction hloop with
  | @ends s hends =>
    refine ⟨fun pack hpack => ?_, fun reasons hreasons => ?_⟩
    · exact (trial_counted hs ha hjudge hlimit hknown hsteady hfresh hpack).1 pack rfl
    · rw [Trial.failed_iff.mpr ⟨reasons, hreasons⟩] at hends
      cases hends
  | @exhausted s hfailed hone =>
    obtain ⟨reasons, hreasons⟩ := Trial.failed_iff.mp hfailed
    refine ⟨fun pack hpack => ?_, fun _ _ => isComplete_restarted _⟩
    rw [hreasons] at hpack
    cases hpack
  | @again s next rest trials result hfailed hmore hdrop hloop ih =>
    obtain ⟨reasons, hreasons⟩ := Trial.failed_iff.mp hfailed
    have hregular :=
      isRegular_trial (Resolver.judge_decides hjudge) hlimit topicId hsteady hfresh
    obtain ⟨n, hspans⟩ := hregular.tracked _ hreasons
    obtain ⟨history, hh, rfl⟩ := hspans.exists_history?
    rw [hspans.count] at hmore
    obtain ⟨h', -, hfirst, rfl⟩ := exists_of_fallBack hdrop hh hmore
    obtain ⟨hsteady', hfresh'⟩ := fresh_of_restarted rfl hregular.advances.steady
    obtain ⟨-, hknown'⟩ := trial_counted hs ha hjudge hlimit hknown hsteady hfresh hreasons
    have hdropped : h'.AllFound fun _ l => l.id = .topic topicId :=
      History.AllFound.of_initial (hknown' _ history hh) hfirst
    exact ih (hknown'.withHistory hdropped) hsteady' hfresh'
  | stuck => exact .of_error _

end Answered

/-- **Progress is exact over whole runs.** Let a source answer as a store of documents, and put off
answers as it may. Then the progress of a run for the pack of a topic is exact at any time, however
many attempts there are and whatever order structures come in. If the run gives a pack, all its
sections are counted; if the topic is incompatible, nothing is counted in the end. -/
theorem resolve_isExact (documents : List Document) (translations : List Translation)
    (source : Source σ) (ha : source.Answers (.ofContents documents translations)) (remote : σ)
    (checker : Checker) (settings : ResolverSettings) (topicId : String) :
    ∃ result rest, ExceptT.run ((Assembler.ofSettings source checker settings).resolve topicId)
        { remote } = (result, rest) ∧
      IsExact rest.events ∧
      (∀ pack, result = .ok pack → pack.IsCounted (of rest.events)) ∧
      ∀ id reasons, result = .error (.incompatibleTopic id reasons) →
        ∀ group, (of rest.events).IsComplete group 0 := by
  have hs : (Store.ofContents documents translations).Faithful := Store.faithful_ofContents ..
  have hlimit : (ofSettings source checker settings).limit ≠ some 0 := FanOut.seatLimit_ne_zero _
  have hfresh : Regime.IsFresh ({ remote } : Session Loaded σ) := fun _ => rfl
  have hends : ∃ trials, (ofSettings source checker settings).Loop topicId { remote } trials _ _ :=
    loop_of_run checker.judge_ne_pending hlimit steady_nil hfresh
  obtain ⟨trials, hloop⟩ := hends
  have hsteady := (hloop.descends checker.judge_ne_pending hlimit steady_nil hfresh).steady
  have hcounted := hloop.counted hs ha rfl hlimit Regime.knownIn_empty steady_nil hfresh
  have hblank := ensures_run_blank (a := ofSettings source checker settings) (s := { remote })
    topicId checker.judge_ne_pending hlimit
  refine ⟨_, _, run_resolve, hsteady.isExact, ?_, ?_⟩
  · intro pack hpack
    exact hcounted.success pack (eq_success_of_packOf hpack)
  · intro id reasons hreasons
    obtain ⟨o, t, hrun, hpending⟩ | ⟨error, t, hrun, hexcused⟩ := hblank.run
    · rw [hrun] at hcounted hreasons ⊢
      cases o with
      | success pack => cases hreasons
      | pending => exact absurd rfl hpending
      | failure own => exact hcounted.failure own rfl
    · -- no error of a run says that its topic is incompatible
      rw [hrun] at hreasons
      obtain rfl := Except.error.inj hreasons
      rcases hexcused with ⟨_, heq⟩ | ⟨_, _, heq⟩ <;> cases heq

end Assembler

/-! ### Two attempts with two rounds each -/

namespace Rounds

/-- A topic with two versions, each of which names a skill that needs another one. -/
def documents : List Document := [
  .topic { id := "t", version := .first, canonicalStoryIds := ["s"],
           uncategorizedSkillIds := ["l"] },
  .topic { id := "t", version := .after 1, canonicalStoryIds := ["s"],
           uncategorizedSkillIds := ["k"] },
  .story { id := "s", version := .first },
  .skill { id := "k", version := .first, prerequisiteSkillIds := ["b"] },
  .skill { id := "b", version := .first },
  .skill { id := "l", version := .first, prerequisiteSkillIds := ["m"] },
  .skill { id := "m", version := .first }]

/-- The store. -/
def store : Store := .ofContents documents []

/-- The checker that rejects the skill behind the newer version. -/
def checker : Checker :=
  BlockedVersions.checker [{ kind := "skill", id := "b", reasons := ["blocked"] }]

/-- A run that has to wait for the answers of the store. -/
def done : Except Error TopicPack × Session Loaded Bool :=
  ExceptT.run ((Assembler.ofSettings store.late checker {}).resolve "t") { remote := false }

/-- **The pack of the second attempt is counted**; the skills of each attempt take two rounds. -/
theorem counts_second_attempt :
    store.late.Answers store ∧ ∃ pack, done.1 = .ok pack ∧ IsExact done.2.events ∧
      pack.IsCounted (of done.2.events) ∧ pack.sectionSize .skill = 2 ∧
      done.2.events.count .resetAll = 1 ∧ done.2.events.count (.reset .skill) = 2 := by
  refine ⟨store.late_answers, ?_⟩
  obtain ⟨result, rest, hrun, hexact, hcounted, -⟩ := Assembler.resolve_isExact documents []
    store.late store.late_answers false checker {} "t"
  have hdone : done = (result, rest) := hrun
  have hsize : done.1.toOption.map (·.sectionSize .skill) = some 2 := by decide +kernel
  have hreset : done.2.events.count .resetAll = 1 := by decide +kernel
  have hrounds : done.2.events.count (.reset .skill) = 2 := by decide +kernel
  rw [hdone] at hsize hreset hrounds ⊢
  cases result with
  | ok pack =>
    exact ⟨pack, rfl, hexact, hcounted pack rfl, Option.some.inj hsize, hreset, hrounds⟩
  | error error => cases hsize

end Rounds

end ContentPack
