import ContentPack.Proofs.Operations
import Mathlib.Order.Bounds.Basic

/-!
# The versions that are loaded together

A version is loaded together with the pending ones right below it. After any operations on a cache,
`Cache.pendingWindow` lists the longest run of pending versions that ends at the version that is
asked for and is not longer than the window (`Cache.pendingWindow_isGreatest`). A window below one
counts as one.

`History.pendingRun` goes down one version at a time, and so does the proof: a run that goes on
below a pending version is one longer than the longest run there (`History.isGreatest_succ`).
-/

namespace ContentPack

variable {α σ : Type}

namespace History

variable {outcomes : List (Outcome α)} {n width k : Nat}

/-- The first `n` outcomes end with at least `k` pending ones. -/
def EndsPending (outcomes : List (Outcome α)) (n k : Nat) : Prop :=
  k ≤ n ∧ ∀ i < n, n ≤ i + k → outcomes[i]? = some .pending

theorem endsPending_zero (outcomes : List (Outcome α)) (n : Nat) : EndsPending outcomes n 0 :=
  ⟨Nat.zero_le n, fun i hi hle => absurd hle (by omega)⟩

theorem endsPending_succ :
    EndsPending outcomes (n + 1) (k + 1) ↔
      outcomes[n]? = some .pending ∧ EndsPending outcomes n k := by
  constructor
  · rintro ⟨hk, h⟩
    exact ⟨h n (by omega) (by omega), by omega, fun i hi hle => h i (by omega) (by omega)⟩
  · rintro ⟨hlast, hk, h⟩
    refine ⟨by omega, fun i hi hle => ?_⟩
    obtain rfl | hlt : i = n ∨ i < n := by omega
    · exact hlast
    · exact h i hlt (by omega)

/-- Below a pending version the run goes on. -/
theorem isGreatest_succ (hlast : outcomes[n]? = some .pending)
    (h : IsGreatest {k | k ≤ width ∧ EndsPending outcomes n k} k) :
    IsGreatest {k | k ≤ width + 1 ∧ EndsPending outcomes (n + 1) k} (k + 1) := by
  obtain ⟨⟨hwidth, hends⟩, hmax⟩ := h
  refine ⟨⟨by omega, endsPending_succ.mpr ⟨hlast, hends⟩⟩, ?_⟩
  rintro j ⟨hj, hj'⟩
  cases j with
  | zero => exact Nat.zero_le _
  | succ j => exact Nat.succ_le_succ (hmax ⟨by omega, (endsPending_succ.mp hj').2⟩)

/-- **A run is as long as it can be**, and it is listed upwards. -/
theorem exists_pendingRun (outcomes : List (Outcome α)) (n width : Nat) :
    ∃ k, (pendingRun outcomes n width).map Version.number = List.range' (n + 1 - k) k ∧
      IsGreatest {k | k ≤ width ∧ EndsPending outcomes n k} k := by
  -- by induction on the version that the run ends at, as the run itself goes down
  induction n generalizing width with
  | zero =>
    refine ⟨0, by simp [pendingRun], ⟨Nat.zero_le _, endsPending_zero _ _⟩, ?_⟩
    rintro j ⟨-, hj, -⟩
    exact hj
  | succ n ih =>
    cases width with
    | zero =>
      refine ⟨0, by simp [pendingRun], ⟨Nat.le_refl _, endsPending_zero _ _⟩, ?_⟩
      rintro j ⟨hj, -⟩
      exact hj
    | succ width =>
      unfold pendingRun
      split
      · rename_i hlast
        obtain ⟨k, hrun, hgreatest⟩ := ih width
        refine ⟨k + 1, ?_, isGreatest_succ hlast hgreatest⟩
        have hk : k ≤ n := hgreatest.1.2.1
        have hend : n + 1 - k + k = n + 1 := by omega
        rw [List.map_append, hrun, Nat.add_sub_add_right, List.range'_1_concat, hend]
        simp
      · -- the version itself is loaded, or it is not there
        rename_i hlast
        refine ⟨0, by simp, ⟨Nat.zero_le _, endsPending_zero _ _⟩, ?_⟩
        rintro j ⟨-, hj⟩
        cases j with
        | zero => exact Nat.le_refl _
        | succ j => exact (hlast (endsPending_succ.mp hj).1).elim

/-- A run starts at a version exactly if this is pending. -/
theorem pendingRun_eq_nil_iff {h : History α} {v : Version} (hwidth : 1 ≤ width) :
    pendingRun h.outcomes v.number width = [] ↔ h.get? v ≠ some .pending := by
  constructor
  · intro hnil hpending
    have hmem := mem_pendingRun_self hwidth hpending
    simp [hnil] at hmem
  · intro hne
    obtain ⟨k, hrun, ⟨-, hk, hends⟩, -⟩ := exists_pendingRun h.outcomes v.number width
    obtain rfl : k = 0 := by
      by_contra hpos
      have hone := v.one_le
      exact hne (hends (v.number - 1) (by omega) (by omega))
    simpa using hrun

end History

namespace Cache

/-- The version and those below it, `k` versions in all, are there and pending. -/
def IsPendingRun (c : Cache α) (r : Reference) (k : Nat) : Prop :=
  k ≤ r.version.number ∧ ∀ v : Version, v.number ≤ r.version.number →
    r.version.number < v.number + k → c.get ⟨r.id, v⟩ = .ok .pending

theorem isPendingRun_iff {c : Cache α} {r : Reference} {h : History α}
    (hh : c.history? r.id = some h) (k : Nat) :
    c.IsPendingRun r k ↔ History.EndsPending h.outcomes r.version.number k := by
  refine and_congr_right fun _ => ⟨fun hall i hi hle => ?_, fun hall v hv hlt => ?_⟩
  · exact (get_eq_ok_iff hh).mp (hall (.after i) hi (by simp; omega))
  · have hone := v.one_le
    exact (get_eq_ok_iff hh).mpr (hall (v.number - 1) (by omega) (by omega))

/-- **The longest run of pending versions is listed.** After any operations, let a version of a
tracked structure be asked for, which need not be there, and any window. The reply lists the `k`
versions that end with this one, upwards, where `k` is the greatest number within the window, but at
least one, for which all of these versions are there and pending. So nothing is listed exactly if
the version is not there or not pending. The cache stays as it is. -/
theorem pendingWindow_isGreatest (ops : List (Operation α)) (remote : σ) (r : Reference)
    (window : Int) (htracked : (performAll ops { remote }).cache.tracks r.id = true) :
    let s := performAll ops { remote }
    ∃ vs k, (Operation.pendingWindow r window).reply s = .ok (.versions vs) ∧
      vs.map Version.number = List.range' (r.version.number + 1 - k) k ∧
      IsGreatest {k : Nat | (k : Int) ≤ max 1 window ∧ s.cache.IsPendingRun r k} k ∧
      (vs = [] ↔ (∀ o, s.cache.get r ≠ .ok o) ∨ ∃ o, s.cache.get r = .ok o ∧ o ≠ .pending) ∧
      (Operation.pendingWindow r window).after s = s := by
  intro s
  obtain ⟨h, hh⟩ := exists_history?_of_tracks htracked
  have hwindow : 1 ≤ (max 1 window).toNat := by omega
  obtain ⟨k, hrun, hgreatest⟩ :=
    History.exists_pendingRun h.outcomes r.version.number (max 1 window).toNat
  have hset : {k : Nat | (k : Int) ≤ max 1 window ∧ s.cache.IsPendingRun r k} =
      {k | k ≤ (max 1 window).toNat ∧ History.EndsPending h.outcomes r.version.number k} := by
    ext j
    have hj : (j : Int) ≤ max 1 window ↔ j ≤ (max 1 window).toNat := by omega
    exact and_congr hj (isPendingRun_iff hh j)
  refine ⟨_, k, ?_, hrun, hset ▸ hgreatest, ?_, Operation.after_of_isReading rfl s⟩
  · show (ExceptT.run (Operation.perform (.pendingWindow r window)) s).1 = _
    rw [Operation.perform, run_readCache, pendingWindow_of_history? hh]
  · rw [History.pendingRun_eq_nil_iff hwindow]
    have hget : ∀ o, s.cache.get r = .ok o ↔ h.get? r.version = some o := fun o =>
      get_eq_ok_iff hh
    simp only [hget, ne_eq]
    cases h.get? r.version with
    | none => simp
    | some o => simp

/-! ### A story with a loaded version among pending ones -/

namespace Holes

/-- Versions of the story. -/
def version (n : Nat) : Reference := ⟨.story "s", .after n⟩

/-- The second of five versions is loaded, and the fifth is dropped. -/
def operations : List (Operation Nat) :=
  [.track (version 4) none (.failure []), .put (version 1) (.success 0), .invalidate (version 4)]

/-- **A run stops above the version that is loaded**, although the window is wider. -/
theorem stops_above_loaded :
    let s := performAll operations { remote := () }
    s.cache.tracks (version 3).id = true ∧
      (Operation.pendingWindow (version 3) 8).reply s = .ok (.versions [.after 2, .after 3]) ∧
      s.cache.IsPendingRun (version 3) 2 ∧ ∀ k, s.cache.IsPendingRun (version 3) k → k ≤ 2 := by
  intro s
  have htracked : s.cache.tracks (version 3).id = true := rfl
  have hreply : (Operation.pendingWindow (version 3) 8).reply s =
      .ok (.versions [.after 2, .after 3]) := rfl
  obtain ⟨vs, k, hreply', hrun, hgreatest, -, -⟩ :=
    pendingWindow_isGreatest operations () (version 3) 8 htracked
  obtain rfl : [.after 2, .after 3] = vs := by
    rw [hreply] at hreply'
    simpa using hreply'
  obtain rfl : 2 = k := by simpa using congrArg List.length hrun
  refine ⟨htracked, hreply, hgreatest.1.2, fun k hk => hgreatest.2 ⟨?_, hk⟩⟩
  have hle : k ≤ 4 := hk.1
  omega

/-- A window below one counts as one. -/
example : (Operation.pendingWindow (version 3) (-2)).reply
    (performAll operations { remote := () }) = .ok (.versions [.after 3]) := rfl

end Holes

end Cache

end ContentPack
