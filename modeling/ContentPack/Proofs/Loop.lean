import ContentPack.Proofs.Calls
import ContentPack.Proofs.Retry
import ContentPack.Proofs.Safety
import ContentPack.Proofs.Tally
import Mathlib.Data.List.Chain

/-!
# The loop over the versions of a topic

A run makes one attempt after another until one of them does not fail, or until there is no older
version of the topic. Nothing in this loop (`Assembler.Loop`) bounds the number of attempts, so it
need not end by itself. It does end, whatever the source answers (`Assembler.loop_of_run`): a failed
attempt leaves its topic tracked, and the next one starts with one version less
(`Assembler.Descends.lowers`). A run is the only course that the loop can take
(`Assembler.Loop.unique`).
-/

namespace ContentPack

open Work Tracker

variable {α σ : Type}

/-- The session in which all groups start again. -/
def Session.restarted (s : Session α σ) : Session α σ :=
  { s with events := s.events ++ [.resetAll] }

namespace Assembler

/-- An attempt with the sessions before and after it. -/
structure Trial (σ : Type) where
  /-- The session before the attempt. -/
  before : Session Loaded σ
  /-- How the attempt ended. -/
  result : Except Error (Outcome TopicPack)
  /-- The session after the attempt. -/
  after : Session Loaded σ

/-- The attempt failed; an attempt that was given up did not. -/
def Trial.failed (trial : Trial σ) : Bool :=
  match trial.result with
  | .ok (.failure _) => true
  | _ => false

/-- The attempt that is made in a session. -/
def trial (a : Assembler σ) (topicId : String) (s : Session Loaded σ) : Trial σ where
  before := s
  result := (ExceptT.run (a.attempt topicId) s).1
  after := (ExceptT.run (a.attempt topicId) s).2

/-- **The loop over the versions of a topic**, from a session: the attempts that are made, how the
loop ends, and the session that is left. -/
inductive Loop (a : Assembler σ) (topicId : String) : Session Loaded σ → List (Trial σ) →
    Except Error (Outcome TopicPack) → Session Loaded σ → Prop
  /-- An attempt that does not fail ends the loop. -/
  | ends {s : Session Loaded σ} : (a.trial topicId s).failed = false →
      Loop a topicId s [a.trial topicId s] (a.trial topicId s).result (a.trial topicId s).after
  /-- So does a failed one, if there is no older version. -/
  | exhausted {s : Session Loaded σ} : (a.trial topicId s).failed = true →
      (a.trial topicId s).after.cache.versionCount (.topic topicId) ≤ 1 →
      Loop a topicId s [a.trial topicId s] (a.trial topicId s).result
        (a.trial topicId s).after.restarted
  /-- Else the loop goes on after the newest version was dropped. -/
  | again {s next rest : Session Loaded σ} {trials : List (Trial σ)}
      {result : Except Error (Outcome TopicPack)} : (a.trial topicId s).failed = true →
      1 < (a.trial topicId s).after.cache.versionCount (.topic topicId) →
      ExceptT.run (fallBack topicId) (a.trial topicId s).after.restarted = (.ok (), next) →
      Loop a topicId next trials result rest →
      Loop a topicId s (a.trial topicId s :: trials) result rest
  /-- The newest version might not be dropped. -/
  | stuck {s rest : Session Loaded σ} {error : Error} : (a.trial topicId s).failed = true →
      1 < (a.trial topicId s).after.cache.versionCount (.topic topicId) →
      ExceptT.run (fallBack topicId) (a.trial topicId s).after.restarted = (.error error, rest) →
      Loop a topicId s [a.trial topicId s] (.error error) rest

variable {a : Assembler σ} {topicId : String} {s rest rest' : Session Loaded σ}

/-- The pack of a topic is that of its run. -/
theorem run_resolve : ExceptT.run (a.resolve topicId) s =
    ((ExceptT.run (a.run topicId) s).1 >>= packOf topicId,
      (ExceptT.run (a.run topicId) s).2) := by
  unfold resolve
  rw [run_bind]
  rcases ExceptT.run (a.run topicId) s with ⟨error | o, t⟩
  · rfl
  · show ExceptT.run (ofExcept (packOf topicId o) : Work Loaded σ TopicPack) t = _
    cases hpack : packOf topicId o with
    | ok pack => exact congrArg (·, t) hpack.symm
    | error error => exact congrArg (·, t) hpack.symm

/-- A run that gives a pack succeeds with it. -/
theorem eq_success_of_packOf {result : Except Error (Outcome TopicPack)} {pack : TopicPack}
    (h : result >>= packOf topicId = .ok pack) : result = .ok (.success pack) := by
  rcases result with error | ⟨_ | _ | _⟩
  all_goals cases h
  rfl

variable {trials trials' : List (Trial σ)} {result result' : Except Error (Outcome TopicPack)}

/-- **The loop can take one course only.** -/
theorem Loop.unique (h : a.Loop topicId s trials result rest)
    (h' : a.Loop topicId s trials' result' rest') :
    trials = trials' ∧ result = result' ∧ rest = rest' := by
  -- what the attempt came to, and how many versions are left, decide between the constructors
  induction h generalizing trials' with
  | ends hends =>
    cases h' with
    | ends => exact ⟨rfl, rfl, rfl⟩
    | exhausted hfailed | again hfailed | stuck hfailed =>
      rw [hends] at hfailed
      cases hfailed
  | exhausted hfailed hone =>
    cases h' with
    | ends hends =>
      rw [hfailed] at hends
      cases hends
    | exhausted => exact ⟨rfl, rfl, rfl⟩
    | again _ hmore | stuck _ hmore => omega
  | again hfailed hmore hdrop _ ih =>
    cases h' with
    | ends hends =>
      rw [hfailed] at hends
      cases hends
    | exhausted _ hone => omega
    | again _ _ hdrop' h' =>
      obtain ⟨-, rfl⟩ := Prod.mk.inj (hdrop.symm.trans hdrop')
      obtain ⟨rfl, rfl, rfl⟩ := ih h'
      exact ⟨rfl, rfl, rfl⟩
    | stuck _ _ hstuck => cases (Prod.mk.inj (hdrop.symm.trans hstuck)).1
  | stuck hfailed hmore hstuck =>
    cases h' with
    | ends hends =>
      rw [hfailed] at hends
      cases hends
    | exhausted _ hone => omega
    | again _ _ hdrop => cases (Prod.mk.inj (hdrop.symm.trans hstuck)).1
    | stuck _ _ hstuck' =>
      obtain ⟨herror, rfl⟩ := Prod.mk.inj (hstuck.symm.trans hstuck')
      obtain rfl := Except.error.inj herror
      exact ⟨rfl, rfl, rfl⟩

theorem Loop.head?_eq (h : a.Loop topicId s trials result rest) :
    trials.head? = some (a.trial topicId s) := by
  cases h <;> rfl

/-! ### One attempt -/

theorem trial_of_run (h : ExceptT.run (a.attempt topicId) s = (result, rest)) :
    (a.trial topicId s).result = result ∧ (a.trial topicId s).after = rest := by
  unfold trial
  rw [h]
  exact ⟨rfl, rfl⟩

theorem Trial.failed_iff {trial : Trial σ} :
    trial.failed = true ↔ ∃ reasons, trial.result = .ok (.failure reasons) := by
  unfold failed
  constructor
  · intro h
    split at h
    · exact ⟨_, ‹_›⟩
    · cases h
  · rintro ⟨reasons, hresult⟩
    rw [hresult]

/-- An attempt that is given up ends the loop. -/
theorem loop_of_error {error : Error}
    (h : ExceptT.run (a.attempt topicId) s = (.error error, rest)) :
    a.Loop topicId s [a.trial topicId s] (.error error) rest := by
  obtain ⟨hresult, hafter⟩ := trial_of_run h
  have hends : a.Loop topicId s _ _ _ := .ends (by rw [Trial.failed, hresult])
  rw [hresult, hafter] at hends
  exact hends

/-- **What an attempt does in any case**: it counts itself, it brings all groups forward, and unless
it is given up, it leaves its topic tracked. -/
structure Trial.IsRegular (topicId : String) (rounds : Nat) (trial : Trial σ) : Prop where
  /-- All groups are brought forward. -/
  advances : { trial.before with attempts := trial.before.attempts + 1 }.Advances Group.all rounds
    trial.after
  /-- The topic is tracked. -/
  tracked : ∀ o, trial.result = .ok o → ∃ n, trial.after.cache.Spans (.topic topicId) n

section Facts

variable (hdecided : ∀ subtopic l, a.resolver.judge subtopic l ≠ .pending)
  (hlimit : a.limit ≠ some 0)

include hdecided hlimit

theorem isRegular_trial (topicId : String) (hsteady : Steady s.events)
    (hfresh : Regime.IsFresh s) :
    (a.trial topicId s).IsRegular topicId (SkillClosure.roundLimit a.maxRounds) := by
  let R : Regime a.resolver := .blank hdecided
  have hknown : R.KnownIn s.cache := fun _ _ _ => trivial
  have hattempt := (R.ensures_attempt topicId hknown hlimit (fun _ _ _ _ _ _ _ => trivial)).both
    (Regime.ensures_attempt_counted (R := R) hdecided hlimit topicId hknown
      (fun _ _ _ _ _ _ _ => trivial) hsteady hfresh)
  obtain ⟨o, t, hrun, ⟨-, topic, ⟨h, hh, -⟩, -⟩, hadvances, -⟩ |
    ⟨error, t, hrun, -, hadvances⟩ := hattempt.run
  · obtain ⟨-, rfl⟩ := trial_of_run hrun
    exact ⟨hadvances, fun _ _ => ⟨_, Cache.spans_of_history? hh⟩⟩
  · obtain ⟨hresult, rfl⟩ := trial_of_run hrun
    refine ⟨hadvances, fun o ho => ?_⟩
    rw [hresult] at ho
    cases ho

omit hdecided hlimit in
/-- The newest version of several can be dropped. -/
theorem run_fallBack {h : History Loaded} (hh : s.cache.history? (.topic topicId) = some h)
    (hmore : 1 < h.newest.number) :
    ∃ h', h'.newest.number + 1 = h.newest.number ∧ h'.outcomes <+: h.outcomes ∧
      ExceptT.run (fallBack topicId) s =
        (.ok (), { s with cache := s.cache.withHistory (.topic topicId) h' }) := by
  obtain ⟨h', hdrop, hnum, hfirst, -⟩ := History.exists_dropNewest? (h := h) (by omega)
  have hfall : Ensures (fallBack topicId) s
      (fun _ rest => rest = { s with cache := s.cache.withHistory (.topic topicId) h' })
      (fun _ _ => False) := by
    unfold fallBack
    rw [ensures_bind, ensures_readCache_ok (Cache.newest_of_history? hh),
      ensures_changeCache_ok (Cache.invalidate_of_history? hh hdrop)]
  obtain ⟨_, rest, hrun, rfl⟩ | ⟨_, _, -, hfalse⟩ := hfall.run
  · exact ⟨h', hnum, hfirst, hrun⟩
  · exact hfalse.elim

omit hdecided hlimit in
/-- What is left when the newest version of several was dropped. -/
theorem exists_of_fallBack {h : History Loaded} {next : Session Loaded σ}
    (hdrop : ExceptT.run (fallBack topicId) s = (.ok (), next))
    (hh : s.cache.history? (.topic topicId) = some h) (hmore : 1 < h.newest.number) :
    ∃ h', h'.newest.number + 1 = h.newest.number ∧ h'.outcomes <+: h.outcomes ∧
      next = { s with cache := s.cache.withHistory (.topic topicId) h' } := by
  obtain ⟨h', hnum, hfirst, hrun⟩ := run_fallBack hh hmore
  exact ⟨h', hnum, hfirst, (Prod.mk.inj (hdrop.symm.trans hrun)).2⟩

omit hdecided hlimit in
/-- **What the next attempt starts with**: one version less, and nothing that is there. -/
theorem Trial.IsRegular.fallBack {trial : Trial σ} {rounds : Nat}
    (h : trial.IsRegular topicId rounds) (hfailed : trial.failed = true)
    (hmore : 1 < trial.after.cache.versionCount (.topic topicId)) :
    ∃ next, ExceptT.run (Assembler.fallBack topicId) trial.after.restarted = (.ok (), next) ∧
      next.events = trial.after.restarted.events ∧ next.attempts = trial.after.attempts ∧
      next.cache.Spans (.topic topicId)
        (trial.after.cache.versionCount (.topic topicId) - 1) := by
  obtain ⟨reasons, ho⟩ := Trial.failed_iff.mp hfailed
  obtain ⟨n, hspans⟩ := h.tracked _ ho
  obtain ⟨history, hhistory, rfl⟩ := hspans.exists_history?
  rw [hspans.count] at hmore ⊢
  obtain ⟨h', hnum, -, hrun⟩ := run_fallBack (s := trial.after.restarted) hhistory hmore
  refine ⟨_, hrun, rfl, rfl, ?_⟩
  have hspans' := Cache.spans_of_history?
    (Cache.history?_withHistory_self trial.after.cache (.topic topicId) h')
  have hless : h'.newest.number = history.newest.number - 1 := by omega
  exact hless ▸ hspans'

omit hdecided hlimit in
/-- After a reset nothing is there. -/
theorem fresh_of_restarted {next : Session Loaded σ} (hevents : next.events = s.restarted.events)
    (hsteady : Steady s.events) : Steady next.events ∧ Regime.IsFresh next := by
  unfold Regime.IsFresh
  rw [hevents]
  refine ⟨steady_concat.mpr ⟨hsteady, trivial⟩, fun group => ?_⟩
  show (of (s.events ++ [.resetAll])).places group = []
  rw [of_concat]
  exact report_resetAll.2

/-! ### All attempts -/

omit hdecided hlimit in
theorem run_retry_failure (left : Nat) (reasons : List Rejection) (t : Session Loaded σ) :
    ExceptT.run (a.retry topicId (left + 1) (.failure reasons)) t =
      if t.cache.versionCount (.topic topicId) ≤ 1 then (.ok (.failure reasons), t.restarted)
      else ExceptT.run (fallBack topicId >>= fun _ => a.attempt topicId >>= a.retry topicId left)
        t.restarted := by
  rw [retry_failure, run_report_bind, run_get_bind]
  split <;> rfl

/-- After an attempt, the loop goes on as `retry` does, if this may make enough attempts. -/
theorem loop_of_retry (left : Nat) : ∀ {s : Session Loaded σ} {o : Outcome TopicPack},
    Steady s.events → Regime.IsFresh s → (a.trial topicId s).result = .ok o →
    (a.trial topicId s).after.cache.versionCount (.topic topicId) ≤ left →
    ∃ trials, a.Loop topicId s trials
      (ExceptT.run (a.retry topicId left o) (a.trial topicId s).after).1
      (ExceptT.run (a.retry topicId left o) (a.trial topicId s).after).2 := by
  induction left with
  | zero =>
    intro s o hsteady hfresh ho hzero
    -- there is always a version left
    obtain ⟨n, hspans⟩ := (isRegular_trial hdecided hlimit topicId hsteady hfresh).tracked o ho
    rw [hspans.count] at hzero
    have hone := hspans.one_le
    omega
  | succ left ih =>
    intro s o hsteady hfresh ho hle
    have hregular := isRegular_trial hdecided hlimit topicId hsteady hfresh
    have hends : (a.trial topicId s).failed = false → a.Loop topicId s [a.trial topicId s] (.ok o)
        (a.trial topicId s).after := fun hfalse => ho ▸ .ends hfalse
    cases o with
    | success pack => exact ⟨_, hends (by rw [Trial.failed, ho])⟩
    | pending => exact ⟨_, hends (by rw [Trial.failed, ho])⟩
    | failure reasons =>
      have hfailed := Trial.failed_iff.mpr ⟨reasons, ho⟩
      by_cases hone : (a.trial topicId s).after.cache.versionCount (.topic topicId) ≤ 1
      · have hexhausted := Loop.exhausted hfailed hone
        rw [ho] at hexhausted
        rw [run_retry_failure, if_pos hone]
        exact ⟨_, hexhausted⟩
      · have hmore : 1 < (a.trial topicId s).after.cache.versionCount (.topic topicId) := by omega
        obtain ⟨next, hdrop, hevents, -, hspans⟩ := hregular.fallBack hfailed hmore
        obtain ⟨hsteady', hfresh'⟩ := fresh_of_restarted hevents hregular.advances.steady
        rw [run_retry_failure, if_neg hone]
        rw [run_bind, hdrop]
        dsimp only
        rw [run_bind]
        have hregular' := isRegular_trial hdecided hlimit topicId hsteady' hfresh'
        rcases hattempt : ExceptT.run (a.attempt topicId) next with ⟨error | o', t⟩
        · exact ⟨_, .again hfailed hmore hdrop (loop_of_error hattempt)⟩
        · obtain ⟨hresult, hafter⟩ := trial_of_run hattempt
          -- an attempt does not add versions
          obtain ⟨m, hm, hspans'⟩ := hregular'.advances.changes.exists_spans hspans
          obtain ⟨trials, hloop⟩ := ih hsteady' hfresh' hresult (by
            rw [hspans'.count]
            omega)
          rw [hafter] at hloop
          exact ⟨_, .again hfailed hmore hdrop hloop⟩

/-- **The loop ends as the run does**, whatever the source answers. -/
theorem loop_of_run (hsteady : Steady s.events) (hfresh : Regime.IsFresh s) :
    ∃ trials, a.Loop topicId s trials (ExceptT.run (a.run topicId) s).1
      (ExceptT.run (a.run topicId) s).2 := by
  unfold run
  rw [run_bind]
  rcases hattempt : ExceptT.run (a.attempt topicId) s with ⟨error | o, t⟩
  · exact ⟨_, loop_of_error hattempt⟩
  · obtain ⟨hresult, hafter⟩ := trial_of_run hattempt
    dsimp only
    rw [run_get_bind, ← hafter]
    exact loop_of_retry hdecided hlimit _ hsteady hfresh hresult (Nat.le_refl _)

/-- **How the attempts of a loop follow one another.** -/
structure Descends (topicId : String) (rounds : Nat) (s : Session Loaded σ)
    (trials : List (Trial σ)) (result : Except Error (Outcome TopicPack))
    (rest : Session Loaded σ) : Prop where
  /-- Each attempt begins at most so many rounds of a closure of skills. -/
  rounds : ∀ trial ∈ trials, ∃ reported, trial.after.events = trial.before.events ++ reported ∧
    reported.countP Event.isRound ≤ rounds
  /-- A failed attempt lowers the number of versions, or it ends the loop. -/
  lowers : trials.IsChain fun x y => x.failed = true ∧
    y.before.cache.versionCount (.topic topicId) < x.after.cache.versionCount (.topic topicId)
  /-- The newest versions that are left by the attempts decrease. -/
  decreasing : trials.Pairwise fun x y => ∃ v w : Version,
    x.after.cache.newest (.topic topicId) = .ok ⟨.topic topicId, v⟩ ∧
      y.after.cache.newest (.topic topicId) = .ok ⟨.topic topicId, w⟩ ∧ w.number < v.number
  /-- There are no more attempts than versions, and no attempt adds a version. -/
  bounded : ∀ n, s.cache.Spans (.topic topicId) n → trials.length ≤ n ∧
    ∀ trial ∈ trials, ∃ m ≤ n, trial.after.cache.Spans (.topic topicId) m
  /-- All attempts are counted. -/
  attempts : rest.attempts = s.attempts + trials.length
  /-- All groups start again once for each failed attempt. -/
  resets : rest.events.count .resetAll =
    s.events.count .resetAll + trials.countP Trial.failed
  /-- The reports are steady. -/
  steady : Steady rest.events
  /-- The loop ends as its last attempt does. -/
  last : ∃ trial, trials.getLast? = some trial ∧ trial.result = result

omit hdecided hlimit in
theorem Trial.IsRegular.count_resetAll {trial : Trial σ} {rounds : Nat}
    (h : trial.IsRegular topicId rounds) :
    trial.after.events.count .resetAll = trial.before.events.count .resetAll := by
  obtain ⟨reported, hevents, hreset, -⟩ := h.advances.reports
  rw [hevents, List.count_append, List.count_eq_zero.mpr hreset, Nat.add_zero]

omit hdecided hlimit in
theorem Trial.IsRegular.rounds {trial : Trial σ} {rounds : Nat}
    (h : trial.IsRegular topicId rounds) :
    ∃ reported, trial.after.events = trial.before.events ++ reported ∧
      reported.countP Event.isRound ≤ rounds := by
  obtain ⟨reported, hevents, -, hrounds⟩ := h.advances.reports
  exact ⟨reported, hevents, hrounds⟩

omit hdecided hlimit in
/-- A loop of one attempt. -/
theorem Trial.IsRegular.descends {rounds : Nat} (h : (a.trial topicId s).IsRegular topicId rounds)
    (hattempts : rest.attempts = (a.trial topicId s).after.attempts)
    (hresets : rest.events.count .resetAll = (a.trial topicId s).after.events.count .resetAll +
      [a.trial topicId s].countP Trial.failed) (hsteady : Steady rest.events) :
    Descends topicId rounds s [a.trial topicId s] (a.trial topicId s).result rest where
  rounds := List.forall_mem_singleton.mpr h.rounds
  lowers := .singleton _
  decreasing := List.pairwise_singleton _ _
  bounded _ hn := ⟨hn.one_le, List.forall_mem_singleton.mpr (h.advances.changes.exists_spans hn)⟩
  attempts := hattempts.trans h.advances.attempts
  resets := by
    rw [hresets, h.count_resetAll]
    rfl
  steady := hsteady
  last := ⟨_, rfl, rfl⟩

/-- **Attempts go down the versions of the topic.** -/
theorem Loop.descends (h : a.Loop topicId s trials result rest) (hsteady : Steady s.events)
    (hfresh : Regime.IsFresh s) :
    Descends topicId (SkillClosure.roundLimit a.maxRounds) s trials result rest := by
  induction h with
  | @ends s hends =>
    have hregular := isRegular_trial hdecided hlimit topicId hsteady hfresh
    refine hregular.descends rfl ?_ hregular.advances.steady
    rw [List.countP_singleton, hends]
    rfl
  | @exhausted s hfailed hone =>
    have hregular := isRegular_trial hdecided hlimit topicId hsteady hfresh
    refine hregular.descends rfl ?_ (fresh_of_restarted rfl hregular.advances.steady).1
    unfold Session.restarted
    rw [List.count_append, List.countP_singleton, hfailed]
    rfl
  | @again s next rest trials result hfailed hmore hdrop hloop ih =>
    have hregular := isRegular_trial hdecided hlimit topicId hsteady hfresh
    -- the rest of the loop starts with one version less than the attempt has left
    obtain ⟨next', hdrop', hevents, hattempts, hspans⟩ := hregular.fallBack hfailed hmore
    obtain ⟨-, rfl⟩ := Prod.mk.inj (hdrop.symm.trans hdrop')
    obtain ⟨hsteady', hfresh'⟩ := fresh_of_restarted hevents hregular.advances.steady
    have hrest := ih hsteady' hfresh'
    obtain ⟨hlength, hbelow⟩ := hrest.bounded _ hspans
    obtain ⟨reasons, ho⟩ := Trial.failed_iff.mp hfailed
    obtain ⟨n, hn⟩ := hregular.tracked _ ho
    rw [hn.count] at hspans hlength hbelow hmore
    obtain ⟨last, hlast, hresult⟩ := hrest.last
    refine ⟨?_, ?_, ?_, ?_, ?_, ?_, hrest.steady, last, ?_, hresult⟩
    · exact List.forall_mem_cons.mpr ⟨hregular.rounds, hrest.rounds⟩
    · refine List.isChain_cons.mpr ⟨fun trial htrial => ⟨hfailed, ?_⟩, hrest.lowers⟩
      obtain rfl := Option.some.inj (hloop.head?_eq.symm.trans htrial)
      show next.cache.versionCount _ < _
      rw [hspans.count, hn.count]
      omega
    · refine List.pairwise_cons.mpr ⟨fun trial htrial => ?_, hrest.decreasing⟩
      obtain ⟨m, hm, hm'⟩ := hbelow trial htrial
      obtain ⟨v, hv, rfl⟩ := hn.exists_newest
      obtain ⟨w, hw, rfl⟩ := hm'.exists_newest
      exact ⟨v, w, hv, hw, by omega⟩
    · intro k hk
      obtain ⟨m, hm, hm'⟩ := hregular.advances.changes.exists_spans hk
      have hsame : n = m := hn.count.symm.trans hm'.count
      refine ⟨by rw [List.length_cons]; omega, List.forall_mem_cons.mpr ⟨⟨m, hm, hm'⟩, ?_⟩⟩
      intro trial htrial
      obtain ⟨m', hle, hm''⟩ := hbelow trial htrial
      exact ⟨m', by omega, hm''⟩
    · rw [hrest.attempts, hattempts, hregular.advances.attempts, List.length_cons]
      show s.attempts + 1 + trials.length = _
      omega
    · rw [hrest.resets, hevents, List.countP_cons, hfailed]
      unfold Session.restarted
      rw [List.count_append, hregular.count_resetAll]
      show List.count _ s.events + 1 + _ = _ + (_ + 1)
      omega
    · rw [List.getLast?_cons, hlast]
      rfl
  | @stuck s rest error hfailed hmore hstuck =>
    -- the newest version of several can be dropped
    have hregular := isRegular_trial hdecided hlimit topicId hsteady hfresh
    obtain ⟨next, hdrop, -⟩ := hregular.fallBack hfailed hmore
    cases (Prod.mk.inj (hdrop.symm.trans hstuck)).1

end Facts

end Assembler

end ContentPack
