import ContentPack.Proofs.Loop
import ContentPack.Proofs.Resolution
import ContentPack.Proofs.Search.Greatest

/-!
# How many attempts a run makes

Let the answers of a source on a topic agree with versions of it up to a newest one
(`Source.Agrees`); whatever else it answers, and whether requests fail, is left open. An attempt is
made at the greatest version that can be used and was not tried yet, and at no version if there is
none. So a run that is not given up makes one attempt for each version that can be used, from the
newest down to the one that its pack is of. If there is no pack, it makes one more attempt unless
the last one was made at the first version (`Assembler.run_counts_down`).

What is known of the topic is that its history is sound, where the versions that were tried before
are of no use (`Facts.below`).
-/

namespace ContentPack

open Work Tracker

variable {σ : Type}

/-- **What a source answers on a structure agrees** with the versions up to one; requests may fail.
-/
structure Source.Agrees (source : Source σ) (id : StructureId) (newest : Version)
    (content : Version → Loaded) : Prop where
  /-- If it answers what the newest version is, it is this one. -/
  latest : ∀ loaded, source.Yields (.latest id.locator) (.ok loaded) → loaded = [content newest]
  /-- If it answers a request for versions, these are the versions. -/
  versions : ∀ (batch : List Version) loaded, (∀ v ∈ batch, v.number ≤ newest.number) →
    source.Yields (.versions id.locator (batch.map Version.toInt)) (.ok loaded) →
    loaded = batch.map content
  /-- The versions belong to the structure. -/
  id_eq : ∀ v, v.number ≤ newest.number → (content v).id = id
  /-- They are the versions that they are asked for as. -/
  version_eq : ∀ v, v.number ≤ newest.number → (content v).version = v

theorem Source.ServesUpTo.agrees {source : Source σ} {id : StructureId} {newest : Version}
    {content : Version → Loaded} (h : source.ServesUpTo id newest content) :
    source.Agrees id newest content where
  latest _ hyields := Except.ok.inj (h.latest _ hyields)
  versions batch _ hbatch hyields := Except.ok.inj (h.versions batch _ hbatch hyields)
  id_eq := h.id_eq
  version_eq := h.version_eq

/-- Facts where the versions above a number are of no use, because they were tried. -/
def Facts.below (F : Facts) (top : Nat) : Facts where
  verdict := F.verdict
  Useless id v := top < v.number ∨ F.Useless id v
  useless_of_none h := Or.inr (F.useless_of_none h)
  useless_of_failure h := Or.inr (F.useless_of_failure h)

/-- Trying more versions does not hurt. -/
theorem History.Sound.below_mono {F : Facts} {top top' : Nat} (hle : top' ≤ top) {id : StructureId}
    {h : History Loaded} (hsound : h.Sound (F.below top) id) : h.Sound (F.below top') id where
  known := hsound.known
  above v hv := (hsound.above v hv).imp_left fun hlt => Nat.lt_of_le_of_lt hle hlt
  stored := hsound.stored

/-- **The versions that can be used**, up to a number, from the newest on. -/
structure ListsCompatible (verdict : Version → Verdict) (top : Nat) (versions : List Version) :
    Prop where
  /-- Newer versions come first. -/
  sorted : versions.Pairwise fun v w => w.number < v.number
  /-- These are the versions that can be used. -/
  mem_iff : ∀ v, v ∈ versions ↔ v.number ≤ top ∧ verdict v = .compatible

namespace ListsCompatible

variable {verdict : Version → Verdict} {top : Nat} {c : Version} {versions : List Version}

theorem of_cons (h : ListsCompatible verdict top (c :: versions)) :
    c.number ≤ top ∧ verdict c = .compatible := (h.mem_iff c).mp List.mem_cons_self

theorem tail (h : ListsCompatible verdict top (c :: versions)) :
    ListsCompatible verdict (c.number - 1) versions := by
  obtain ⟨hless, hsorted⟩ := List.pairwise_cons.mp h.sorted
  obtain ⟨htop, -⟩ := h.of_cons
  refine ⟨hsorted, fun v => ⟨fun hv => ?_, fun ⟨hle, hcompatible⟩ => ?_⟩⟩
  · have hlt := hless v hv
    exact ⟨by omega, ((h.mem_iff v).mp (List.mem_cons_of_mem _ hv)).2⟩
  · have hone := c.one_le
    have hmem := (h.mem_iff v).mpr ⟨by omega, hcompatible⟩
    refine (List.mem_cons.mp hmem).resolve_left fun heq => ?_
    rw [heq] at hle
    omega

end ListsCompatible

/-! ### What is known of a topic -/

/-- The check of a topic does not look at a subtopic. -/
theorem Checker.judge_of_topic (checker : Checker) {l : Loaded} {topicId : String}
    (h : l.id = .topic topicId) (subtopic : Option Subtopic) :
    checker.judge subtopic l = checker.judge none l := by
  cases l with
  | topic t => rfl
  | _ => cases h

section Topic

variable {r : Resolver Loaded σ} {checker : Checker} {topicId : String} {newest : Version}
  {content : Version → Loaded}

/-- What is true of the versions of a topic that were not tried yet. -/
def topicVersions (checker : Checker) (newest : Version) (content : Version → Loaded) (top : Nat) :
    Facts :=
  (Facts.upTo newest fun v => checker.judge none (content v)).below top

/-- Searches keep the history of a topic sound, and of other structures they may keep anything. -/
def topicInvariant (hagrees : r.source.Agrees (.topic topicId) newest content)
    (hjudge : r.judge = checker.judge) (top : Nat) (e : Errand) :
    Resolver.SearchInvariant r e where
  Holds h := e.id = .topic topicId → h.Sound (topicVersions checker newest content top) e.id
  Opens := True
  Fails := True
  decided := Resolver.judge_decides_errand hjudge e
  trims hsound t hid := (hsound hid).trims t
  start {l} _ hyields hid := by
    rw [hid] at hyields
    obtain rfl := List.singleton_inj.mp (hagrees.latest _ hyields)
    have hversion := hagrees.version_eq newest (Nat.le_refl _)
    refine History.sound_start e.subtopic ?_ ?_
    · rw [hversion, hjudge, checker.judge_of_topic (hagrees.id_eq newest (Nat.le_refl _))]
      exact if_pos (Nat.le_refl _)
    · intro v hv
      rw [hversion] at hv
      exact if_neg (Nat.not_le_of_lt hv)
  unknown _ _ := trivial
  learn {h v lastInvalid loaded} hsound hat _ hyields _ hid := by
    have hbatch : ∀ w ∈ r.batch h v, w.number ≤ newest.number := by
      intro w hw
      have hle := (History.of_mem_pendingRun hw).1
      have hle' := hat.le_newest
      obtain ⟨stored, hstored, hverdict⟩ := (hsound hid).stored
      by_contra hgt
      exact hverdict (if_neg (by omega))
    unfold Resolver.versionsRequest at hyields
    rw [hid] at hyields
    obtain rfl := hagrees.versions _ _ hbatch hyields
    refine (hsound hid).write ?_
    intro entry hentry
    unfold Resolver.entries at hentry
    rw [← List.map_prod_left_eq_zip, List.map_map] at hentry
    obtain ⟨w, hw, rfl⟩ := List.mem_map.mp hentry
    show (if w.number ≤ newest.number then _ else none) = some (r.judge e.subtopic (content w))
    rw [if_pos (hbatch w hw), hjudge, checker.judge_of_topic (hagrees.id_eq w (hbatch w hw))]
    rfl
  refused _ _ _ _ := trivial
  miscounted _ _ _ _ _ := trivial

/-- **What is known of a topic**, and nothing of other structures. -/
def topicRegime (hagrees : r.source.Agrees (.topic topicId) newest content)
    (hjudge : r.judge = checker.judge) (top : Nat) : Regime r where
  Known id h := id = .topic topicId → h.Sound (topicVersions checker newest content top) id
  search := topicInvariant hagrees hjudge top
  holds h := h
  known h _ := h
  opens _ _ := trivial

/-- **An attempt is made at the greatest version that can be used**, if there is one. -/
theorem settled_at_greatest {top : Nat} (htop : top ≤ newest.number) {id : StructureId}
    {h : History Loaded} {topic : Outcome Loaded}
    (hsound : h.Sound (topicVersions checker newest content top) id) (hsettled : h.Settled topic)
    (hle : h.newest.number ≤ top) {versions : List Version}
    (hlists : ListsCompatible (fun v => checker.check none (content v)) top versions) :
    (versions = [] ∧ h.newest.number = 1 ∧ ∃ reasons, topic = .failure reasons) ∨
      ∃ below, versions = h.newest :: below ∧ topic = .success (content h.newest) := by
  have hverdict : (if h.newest.number ≤ newest.number then
      some (checker.judge none (content h.newest)) else none) = some topic :=
    hsound.verdict_eq hsettled.newest hsettled.ne_pending
  rw [if_pos (Nat.le_trans hle htop)] at hverdict
  have hjudge := Option.some.inj hverdict
  -- nothing that can be used is above the newest version that is left
  have habove : ∀ v ∈ versions, v.number ≤ h.newest.number := by
    intro v hv
    obtain ⟨hv, hcompatible⟩ := (hlists.mem_iff v).mp hv
    by_contra hlt
    rcases hsound.above v (by omega) with hgt | huseless
    · omega
    · exact huseless (by omega) _ (Checker.judge_eq_success_iff.mpr ⟨hcompatible, rfl⟩)
  rcases hsettled.last with ⟨l, rfl⟩ | ⟨hone, reasons, rfl⟩
  · obtain ⟨hcompatible, rfl⟩ := Checker.judge_eq_success_iff.mp hjudge
    have hmem := (hlists.mem_iff h.newest).mpr ⟨hle, hcompatible⟩
    cases versions with
    | nil => cases hmem
    | cons c below =>
      have hc : c = h.newest := by
        have hle' := habove c List.mem_cons_self
        rcases List.mem_cons.mp hmem with heq | hmem
        · exact heq.symm
        · have hlt := (List.pairwise_cons.mp hlists.sorted).1 _ hmem
          omega
      exact Or.inr ⟨below, by rw [hc], rfl⟩
  · refine Or.inl ⟨?_, hone, reasons, rfl⟩
    rw [List.eq_nil_iff_forall_not_mem]
    intro v hv
    have hle' := habove v hv
    have hone' := v.one_le
    obtain rfl : v = h.newest := Version.ext (by omega)
    have hcompatible : checker.check none (content h.newest) = .compatible :=
      ((hlists.mem_iff _).mp hv).2
    rw [Checker.judge_eq_success_iff.mpr ⟨hcompatible, rfl⟩] at hjudge
    cases hjudge

end Topic

/-! ### Counting attempts -/

namespace Assembler

variable {a : Assembler σ} {checker : Checker} {topicId : String} {newest : Version}
  {content : Version → Loaded} {s rest : Session Loaded σ}

/-- **How many attempts are made**, given the versions that can be used: as many as there are from
the newest one down to the one of the pack. If there is no pack, they are all tried, and then the
first version, unless that was the last of them. -/
structure CountsDown (content : Version → Loaded) (versions : List Version)
    (trials : List (Trial σ)) (result : Except Error (Outcome TopicPack)) : Prop where
  /-- The pack is of the version that the last attempt was made at. -/
  success : ∀ pack, result = .ok (.success pack) → ∃ j, trials.length = j + 1 ∧
    ∃ v, versions[j]? = some v ∧ content v = .topic pack.topic
  /-- Without a pack, all versions that can be used were tried. -/
  failure : ∀ reasons, result = .ok (.failure reasons) →
    trials.length = if versions.getLast? = some .first then versions.length
      else versions.length + 1
  /-- There is no other way to end, unless the run is given up. -/
  decided : result ≠ .ok .pending

/-- What is known of the topic before an attempt: nothing was tried, or everything above a number
was. -/
structure AwaitsAttempt (hagrees : a.resolver.source.Agrees (.topic topicId) newest content)
    (hjudge : a.resolver.judge = checker.judge) (top : Nat) (s : Session Loaded σ) : Prop where
  /-- The reports are steady. -/
  steady : Steady s.events
  /-- Nothing is there. -/
  fresh : Regime.IsFresh s
  /-- The history of the topic is sound. -/
  known : (topicRegime hagrees hjudge top).KnownIn s.cache
  /-- There are no versions that are not known. -/
  le_newest : top ≤ newest.number
  /-- The versions are left up to the number. -/
  left : (s.cache.history? (.topic topicId) = none ∧ top = newest.number) ∨
    ∃ h, s.cache.history? (.topic topicId) = some h ∧ h.newest.number = top

variable {hagrees : a.resolver.source.Agrees (.topic topicId) newest content}
  {hjudge : a.resolver.judge = checker.judge} {top : Nat} {versions : List Version}

/-- **What an attempt comes to**, unless it is given up. -/
theorem AwaitsAttempt.settles (h : AwaitsAttempt hagrees hjudge top s)
    (hlimit : a.limit ≠ some 0) {o : Outcome TopicPack}
    (ho : (a.trial topicId s).result = .ok o) :
    ∃ history topic, (a.trial topicId s).after.cache.history? (.topic topicId) = some history ∧
      history.Sound (topicVersions checker newest content top) (.topic topicId) ∧
      history.Settled topic ∧ history.newest.number ≤ top ∧
      o ≠ .pending ∧ ∀ pack, o = .success pack → topic = .success (.topic pack.topic) := by
  have hattempt := (topicRegime hagrees hjudge top).ensures_attempt topicId h.known hlimit
    (fun _ _ _ _ _ _ _ => trivial)
  obtain ⟨o', t, hrun, ⟨⟨kinds, hleaves⟩, topic, ⟨history, hh, hsettled⟩, hcase⟩⟩ |
    ⟨error, t, hrun, -⟩ := hattempt.run
  · obtain ⟨hresult, rfl⟩ := trial_of_run hrun
    obtain rfl := Except.ok.inj (hresult.symm.trans ho)
    have hsound := hleaves.known _ history hh rfl
    refine ⟨history, topic, hh, hsound, hsettled, ?_, ?_, ?_⟩
    · rcases h.left with ⟨-, rfl⟩ | ⟨before, hbefore, rfl⟩
      · -- the versions go up to one that is known
        obtain ⟨v, hv, hverdict⟩ := hsound.stored
        by_contra hgt
        exact hverdict (if_neg (by omega))
      · obtain ⟨_, hh', hle⟩ := hleaves.shrinks _ before hbefore
        obtain rfl := Option.some.inj (hh.symm.trans hh')
        exact hle
    · rintro rfl
      rcases hcase with ⟨_, heq, -⟩ | ⟨⟨_, heq, -⟩, -⟩ <;> cases heq
    · rintro pack rfl
      rcases hcase with ⟨_, heq, htopic, -⟩ | ⟨⟨_, heq, -⟩, -⟩
      · rw [Outcome.success.inj heq]
        exact htopic
      · cases heq
  · obtain ⟨hresult, -⟩ := trial_of_run hrun
    rw [hresult] at ho
    cases ho

/-- **The next attempt** is made below the version of a failed one. -/
theorem AwaitsAttempt.next (h : AwaitsAttempt hagrees hjudge top s) (hlimit : a.limit ≠ some 0)
    {history : History Loaded}
    (hh : (a.trial topicId s).after.cache.history? (.topic topicId) = some history)
    (hsound : history.Sound (topicVersions checker newest content top) (.topic topicId))
    (hle : history.newest.number ≤ top) (hmore : 1 < history.newest.number)
    {next : Session Loaded σ}
    (hdrop : ExceptT.run (fallBack topicId) (a.trial topicId s).after.restarted = (.ok (), next)) :
    AwaitsAttempt hagrees hjudge (history.newest.number - 1) next := by
  obtain ⟨h', hnum, hfirst, rfl⟩ := exists_of_fallBack hdrop hh hmore
  have hdecided := Resolver.judge_decides hjudge
  have hregular := isRegular_trial hdecided hlimit topicId h.steady h.fresh
  obtain ⟨hsteady, hfresh⟩ := fresh_of_restarted rfl hregular.advances.steady
  have hone := h.le_newest
  refine ⟨hsteady, hfresh, ?_, by omega, Or.inr ⟨h', ?_, by omega⟩⟩
  · rintro id history' hh' rfl
    rw [Cache.history?_withHistory_self] at hh'
    obtain rfl := Option.some.inj hh'
    have hlt : history.newest.number - 1 < history.newest.number := by omega
    exact (hsound.below_mono (by omega)).drop hnum hfirst (Or.inl hlt)
  · exact Cache.history?_withHistory_self ..

/-- **The attempts of a loop go down the versions that can be used.** -/
theorem Loop.countsDown {trials : List (Trial σ)} {result : Except Error (Outcome TopicPack)}
    (hloop : a.Loop topicId s trials result rest) (hlimit : a.limit ≠ some 0)
    (h : AwaitsAttempt hagrees hjudge top s)
    (hlists : ListsCompatible (fun v => checker.check none (content v)) top versions) :
    CountsDown content versions trials result := by
  induction hloop generalizing top versions with
  | @ends s hends =>
    constructor
    · intro pack hpack
      obtain ⟨history, topic, -, hsound, hsettled, hle, -, htopic⟩ := h.settles hlimit hpack
      obtain rfl := htopic pack rfl
      refine ⟨0, rfl, history.newest, ?_⟩
      rcases settled_at_greatest h.le_newest hsound hsettled hle hlists with
        ⟨-, -, _, hfailure⟩ | ⟨below, rfl, hsuccess⟩
      · cases hfailure
      · exact ⟨rfl, (Outcome.success.inj hsuccess).symm⟩
    · intro reasons hreasons
      rw [Trial.failed_iff.mpr ⟨reasons, hreasons⟩] at hends
      cases hends
    · intro hpending
      obtain ⟨_, _, -, -, -, -, hdecided, -⟩ := h.settles hlimit hpending
      exact hdecided rfl
  | @exhausted s hfailed hone =>
    constructor
    · intro pack hpack
      obtain ⟨reasons, hreasons⟩ := Trial.failed_iff.mp hfailed
      rw [hpack] at hreasons
      cases hreasons
    · intro reasons hreasons
      obtain ⟨history, topic, hh, hsound, hsettled, hle, -⟩ := h.settles hlimit hreasons
      rw [Cache.versionCount_of_history? hh] at hone
      rcases settled_at_greatest h.le_newest hsound hsettled hle hlists with
        ⟨rfl, -, -⟩ | ⟨below, rfl, -⟩
      · rfl
      · -- the attempt was made at the first version, so there are no others below
        have hfirst : history.newest = .first :=
          Version.ext (Nat.le_antisymm hone history.one_le_newest)
        have hnil : below = [] := by
          rw [List.eq_nil_iff_forall_not_mem]
          intro v hv
          have hlt := (List.pairwise_cons.mp hlists.sorted).1 v hv
          have hone' := v.one_le
          rw [hfirst] at hlt
          exact absurd hlt (Nat.not_lt.mpr hone')
        rw [hnil, hfirst]
        rfl
    · intro hpending
      obtain ⟨_, _, -, -, -, -, hdecided, -⟩ := h.settles hlimit hpending
      exact hdecided rfl
  | @again s next rest trials result hfailed hmore hdrop hloop ih =>
    obtain ⟨reasons, ho⟩ := Trial.failed_iff.mp hfailed
    obtain ⟨history, topic, hh, hsound, hsettled, hle, -⟩ := h.settles hlimit ho
    rw [Cache.versionCount_of_history? hh] at hmore
    have hmore' : 1 < history.newest.number := hmore
    rcases settled_at_greatest h.le_newest hsound hsettled hle hlists with
      ⟨-, hone, -⟩ | ⟨below, rfl, -⟩
    · omega
    · have hnext := ih (h.next hlimit hh hsound hle hmore' hdrop) hlists.tail
      constructor
      · intro pack hpack
        obtain ⟨j, hj, v, hv, hcontent⟩ := hnext.success pack hpack
        exact ⟨j + 1, congrArg (· + 1) hj, v, hv, hcontent⟩
      · intro reasons hreasons
        rw [List.length_cons, hnext.failure reasons hreasons]
        -- if nothing below can be used, one more attempt is made, as this was not the first version
        cases below with
        | nil =>
          have hne : history.newest ≠ .first := fun heq => by
            rw [heq] at hmore'
            exact absurd hmore' (Nat.lt_irrefl 1)
          rw [if_neg (by simp), if_neg (by simpa using hne)]
          rfl
        | cons c below =>
          rw [List.getLast?_cons_cons]
          split <;> rfl
      · exact hnext.decided
  | stuck hfailed hmore hstuck =>
    constructor <;> nofun

/-- There are no more attempts than versions. -/
theorem Loop.length_le {trials : List (Trial σ)} {result : Except Error (Outcome TopicPack)}
    (hloop : a.Loop topicId s trials result rest) (hlimit : a.limit ≠ some 0)
    (h : AwaitsAttempt hagrees hjudge top s) : trials.length ≤ top := by
  have hone : 1 ≤ top := by
    rcases h.left with ⟨-, rfl⟩ | ⟨history, -, rfl⟩
    · exact newest.one_le
    · exact history.one_le_newest
  cases hloop with
  | ends | exhausted | stuck => exact hone
  | again hfailed hmore hdrop hloop =>
    obtain ⟨reasons, ho⟩ := Trial.failed_iff.mp hfailed
    obtain ⟨history, topic, hh, hsound, -, hle, -⟩ := h.settles hlimit ho
    rw [Cache.versionCount_of_history? hh] at hmore
    have hnext := h.next hlimit hh hsound hle hmore hdrop
    obtain ⟨h', hnum, -, rfl⟩ := exists_of_fallBack hdrop hh hmore
    have hdescends :=
      hloop.descends (Resolver.judge_decides hjudge) hlimit hnext.steady hnext.fresh
    obtain ⟨hlength, -⟩ :=
      hdescends.bounded _ (Cache.spans_of_history? (Cache.history?_withHistory_self ..))
    rw [List.length_cons]
    omega

/-- **A run counts down the versions of its topic.** Whatever the source answers, the loop over the
versions ends as the run does: the newest versions that its attempts leave decrease, each attempt
takes at most so many rounds of a closure of skills as there may be, and all groups start again once
for each failed attempt. If the answers on the topic agree with its versions up to one, there are no
more attempts than versions, and the versions that can be used say how many there are. -/
theorem run_counts_down (source : Source σ) (remote : σ) (checker : Checker)
    (settings : ResolverSettings) (topicId : String) :
    let a := Assembler.ofSettings source checker settings
    ∃ trials result rest, ExceptT.run (a.run topicId) { remote } = (result, rest) ∧
      a.Loop topicId { remote } trials result rest ∧
      Descends topicId (SkillClosure.roundLimit settings.maxSkillClosureRounds) { remote } trials
        result rest ∧
      ∀ newest content, source.Agrees (.topic topicId) newest content →
        trials.length ≤ newest.number ∧
        ∀ versions, ListsCompatible (fun v => checker.check none (content v)) newest.number
          versions → CountsDown content versions trials result := by
  intro a
  have hlimit : a.limit ≠ some 0 := FanOut.seatLimit_ne_zero _
  have hfresh : Regime.IsFresh ({ remote } : Session Loaded σ) := fun _ => rfl
  have hends : ∃ trials, a.Loop topicId { remote } trials _ _ :=
    loop_of_run checker.judge_ne_pending hlimit steady_nil hfresh
  obtain ⟨trials, hloop⟩ := hends
  refine ⟨trials, _, _, rfl, hloop,
    hloop.descends checker.judge_ne_pending hlimit steady_nil hfresh, ?_⟩
  intro newest content hagrees
  have hjudge : a.resolver.judge = checker.judge := rfl
  have hawaits : AwaitsAttempt hagrees hjudge newest.number { remote } :=
    ⟨steady_nil, hfresh, Regime.knownIn_empty, Nat.le_refl _, Or.inl ⟨rfl, rfl⟩⟩
  exact ⟨hloop.length_le hlimit hawaits, fun versions hlists =>
    hloop.countsDown hlimit hawaits hlists⟩

end Assembler

/-! ### One version down -/

namespace Fallback

/-- The versions of a topic, the newer of which needs a story that is rejected. -/
def store : Store := .ofContents fallbackDocuments []

/-- What the versions of the topic are. -/
def content (v : Version) : Loaded :=
  (store.stored? (.topic "t") v).getD
    (.topic { id := "t", version := .after 1, canonicalStoryIds := ["r"] })

theorem agrees : store.source.Agrees (.topic "t") (.after 1) content := by
  have hs : store.Faithful := Store.faithful_ofContents ..
  have hholds : store.HoldsUpTo (.topic "t")
      (.topic { id := "t", version := .after 1, canonicalStoryIds := ["r"] }) :=
    .of_keys hs (by decide +kernel) (by decide +kernel)
  exact (hholds.serves hs store.source_answers).agrees

/-- Either version passes the check of the topic itself. -/
theorem listsCompatible :
    ListsCompatible (fun v => blockedStory.check none (content v)) 2 [.after 1, .first] := by
  refine ⟨by decide, fun v => ⟨fun hv => ?_, fun ⟨hle, _⟩ => ?_⟩⟩
  · rcases List.mem_pair.mp hv with rfl | rfl <;> decide +kernel
  · have hone := v.one_le
    have hcases : v.number = 2 ∨ v.number = 1 := by omega
    exact List.mem_pair.mpr (hcases.imp Version.ext Version.ext)

/-- **Two attempts are made** for a pack of the first version. -/
theorem takes_two_attempts :
    ∃ trials pack rest, (Assembler.ofSettings store.source blockedStory {}).Loop "t"
        { remote := [] } trials (.ok (.success pack)) rest ∧
      pack.topic.version = .first ∧ trials.length = 2 := by
  obtain ⟨trials, result, rest, hrun, hloop, -, hcounts⟩ :=
    Assembler.run_counts_down store.source [] blockedStory {} "t"
  obtain ⟨pack, hpack, hversion⟩ := exists_fallback
  have hresult : result >>= Assembler.packOf "t" = .ok pack := by
    rw [← hpack]
    unfold Store.resolvePack
    rw [Assembler.run_resolve]
    exact congrArg (fun done => done.1 >>= Assembler.packOf "t") hrun.symm
  obtain rfl := Assembler.eq_success_of_packOf hresult
  obtain ⟨j, hlength, v, hv, hcontent⟩ :=
    ((hcounts (.after 1) content agrees).2 _ listsCompatible).success pack rfl
  refine ⟨trials, pack, rest, hloop, hversion, ?_⟩
  -- the pack is not of the second version
  have hfirst : v = .first := by
    have hle := ((listsCompatible.mem_iff v).mp (List.mem_of_getElem? hv)).1
    rw [← agrees.version_eq v hle, hcontent]
    exact hversion
  subst hfirst
  match j, hv with
  | 0, hv => cases hv
  | 1, _ => exact hlength

end Fallback

end ContentPack
