import ContentPack.Proofs.Search.Course
import ContentPack.Proofs.Search.Served

/-!
# What is loaded ahead makes no difference

When a version is needed, a resolver loads some of the pending versions below it at the same time.
So two resolvers that differ in how many those are leave histories that differ in what is still
pending. What the versions will come to is the same, though: a pending version is foreseen to come
to the verdict on what is stored of it (`History.foreseen`), and what is loaded is what was foreseen
(`History.foreseen_write`).

A search goes by what is foreseen. If one resolver is led to an end, and the other one is served
whenever a version that it needs is stored, then the other one is led to the same outcome
(`Resolver.LeadsTo.of_sameAhead`). A resolver is served in this way if it loads versions one by one,
or if no version is missing below a stored one.
-/

namespace ContentPack

variable {α σ σ' : Type}

/-! ### What is foreseen -/

section Foreseen

variable {store : Store} {judge : Loaded → Outcome α} {id : StructureId} {h h' : History α}

/-- **What a version will come to**: the outcome that is known, or the verdict on what is stored. -/
def History.foreseen (store : Store) (judge : Loaded → Outcome α) (id : StructureId)
    (h : History α) (v : Version) : Option (Outcome α) :=
  match h.get? v with
  | some .pending => (store.stored? id v).map judge
  | known => known

/-- **Histories that are the same ahead**: they may differ in what is still pending. -/
structure History.SameAhead (store : Store) (judge : Loaded → Outcome α) (id : StructureId)
    (h h' : History α) : Prop where
  /-- They go up to the same version. -/
  newest : h'.newest = h.newest
  /-- What the versions will come to is the same. -/
  foreseen : ∀ v, h'.foreseen store judge id v = h.foreseen store judge id v

namespace History

theorem foreseen_of_get? {v : Version} {o : Outcome α} (hv : h.get? v = some o)
    (ho : o ≠ .pending) : h.foreseen store judge id v = some o := by
  unfold foreseen
  rw [hv]
  cases o with
  | pending => exact absurd rfl ho
  | _ => rfl

theorem foreseen_of_pending {v : Version} (hv : h.get? v = some .pending) :
    h.foreseen store judge id v = (store.stored? id v).map judge := by
  unfold foreseen
  rw [hv]

/-- Only an entry comes to an outcome. -/
theorem exists_get?_of_foreseen {v : Version} {o : Outcome α}
    (hv : h.foreseen store judge id v = some o) : ∃ o', h.get? v = some o' := by
  cases hget : h.get? v with
  | some o' => exact ⟨o', rfl⟩
  | none =>
    unfold foreseen at hv
    rw [hget] at hv
    cases hv

/-- Writing what was foreseen changes nothing ahead. -/
theorem foreseen_set {v : Version} {o : Outcome α} (hv : h.foreseen store judge id v = some o)
    (ho : o ≠ .pending) (w : Version) :
    (h.set v o).foreseen store judge id w = h.foreseen store judge id w := by
  by_cases hw : w = v
  · subst hw
    obtain ⟨o', ho'⟩ := exists_get?_of_foreseen hv
    have hset : (h.set w o).get? w = some o := by
      rw [get?_set, if_pos rfl, ho']
      rfl
    rw [foreseen_of_get? hset ho, hv]
  · unfold foreseen
    rw [get?_set, if_neg hw]

theorem foreseen_write {entries : List (Version × Outcome α)}
    (hentries : ∀ entry ∈ entries, h.foreseen store judge id entry.1 = some entry.2 ∧
      entry.2 ≠ .pending) (w : Version) :
    (h.write entries).foreseen store judge id w = h.foreseen store judge id w := by
  induction entries generalizing h with
  | nil => rfl
  | cons entry rest ih =>
    obtain ⟨hentry, hrest⟩ := List.forall_mem_cons.mp hentries
    have hset := foreseen_set hentry.1 hentry.2
    refine (ih (h := h.set entry.1 entry.2) ?_).trans (hset w)
    intro other hother
    rw [hset]
    exact hrest other hother

theorem SameAhead.refl (h : History α) : h.SameAhead store judge id h := ⟨rfl, fun _ => rfl⟩

theorem SameAhead.trans {h'' : History α} (hsame : h.SameAhead store judge id h')
    (hsame' : h'.SameAhead store judge id h'') : h.SameAhead store judge id h'' where
  newest := hsame'.newest.trans hsame.newest
  foreseen v := (hsame'.foreseen v).trans (hsame.foreseen v)

theorem SameAhead.symm (hsame : h.SameAhead store judge id h') :
    h'.SameAhead store judge id h where
  newest := hsame.newest.symm
  foreseen v := (hsame.foreseen v).symm

/-- What was not dropped is as it was. -/
theorem foreseen_of_initial (hfirst : h'.outcomes <+: h.outcomes) {v : Version}
    (hv : v.number ≤ h'.newest.number) :
    h'.foreseen store judge id v = h.foreseen store judge id v := by
  unfold foreseen
  rw [get?_eq_of_initial hfirst hv]

theorem foreseen_of_lt {v : Version} (hv : h.newest.number < v.number) :
    h.foreseen store judge id v = none := by
  unfold foreseen
  rw [get?_eq_none_of_lt h hv]

/-- The newest version may be dropped from both. -/
theorem SameAhead.drop {rest rest' : History α} (hsame : h.SameAhead store judge id h')
    (hdrop : h.dropNewest? = some rest) (hdrop' : h'.dropNewest? = some rest') :
    rest.SameAhead store judge id rest' := by
  obtain ⟨hnum, hfirst⟩ := of_dropNewest? hdrop
  obtain ⟨hnum', hfirst'⟩ := of_dropNewest? hdrop'
  rw [hsame.newest] at hnum'
  refine ⟨Version.ext (by omega), fun v => ?_⟩
  by_cases hv : v.number ≤ rest.newest.number
  · rw [foreseen_of_initial hfirst hv, foreseen_of_initial hfirst' (by omega), hsame.foreseen]
  · rw [foreseen_of_lt (by omega), foreseen_of_lt (by omega)]

/-- Verdicts that agree on what is stored foresee the same. -/
theorem foreseen_congr {judge' : Loaded → Outcome α}
    (hjudge : ∀ v l, store.stored? id v = some l → judge' l = judge l) (v : Version) :
    h.foreseen store judge' id v = h.foreseen store judge id v := by
  unfold foreseen
  split
  · exact Option.map_congr fun l hl => hjudge v l hl
  · rfl

theorem SameAhead.congr {judge' : Loaded → Outcome α}
    (hjudge : ∀ v l, store.stored? id v = some l → judge' l = judge l)
    (hsame : h.SameAhead store judge id h') : h.SameAhead store judge' id h' where
  newest := hsame.newest
  foreseen v := by rw [foreseen_congr hjudge, foreseen_congr hjudge, hsame.foreseen]

end History

end Foreseen

/-! ### Searches go by what is foreseen -/

/-- Nothing is missing below a stored version. -/
def Store.IsGapless (store : Store) : Prop :=
  ∀ id v w, w.number ≤ v.number → store.stored? id v ≠ none → store.stored? id w ≠ none

namespace Resolver

variable {r : Resolver α σ} {r' : Resolver α σ'} {store : Store} {e : Errand}
  {h h' last : History α} {o : Outcome α}

/-- **A resolver is served whenever a version that it needs is stored**: what it loads together
with it is stored, too. -/
def IsSupplied (r : Resolver α σ) (store : Store) : Prop :=
  ∀ id (h : History α) v, store.stored? id v ≠ none →
    ∀ w ∈ r.batch h v, store.stored? id w ≠ none

/-- One by one, versions are served if they are stored. -/
theorem isSupplied_of_window_one (store : Store) (hwindow : r.window = 1) : r.IsSupplied store := by
  intro id h v hv w hw
  unfold batch at hw
  rw [hwindow] at hw
  -- there is no room for another version
  have hsingle : ∀ n, w ∈ History.pendingRun h.outcomes n 1 → w.number = n := by
    intro n hmem
    cases n with
    | zero => simp [History.pendingRun] at hmem
    | succ n =>
      unfold History.pendingRun at hmem
      split at hmem
      · have hnil : History.pendingRun h.outcomes n 0 = [] := by cases n <;> rfl
        rw [hnil, List.nil_append, List.mem_singleton] at hmem
        exact hmem ▸ rfl
      · cases hmem
  rwa [Version.ext (hsingle v.number hw)]

theorem isSupplied_of_isGapless (r : Resolver α σ) (hstore : store.IsGapless) :
    r.IsSupplied store := by
  intro id h v hv w hw
  exact hstore id v w (History.of_mem_pendingRun hw).1 hv

/-- What is loaded was foreseen. -/
theorem sameAhead_write {v : Version} {loaded : List Loaded}
    (hdecided : ∀ l, r.judge e.subtopic l ≠ .pending)
    (hserved : store.served (versionsRequest e (r.batch h v)) = .ok loaded) :
    h.SameAhead store (r.judge e.subtopic) e.id (h.write (entries r e (r.batch h v) loaded)) := by
  refine ⟨History.newest_write .., History.foreseen_write ?_⟩
  intro entry hentry
  obtain ⟨⟨w, l⟩, hmem, rfl⟩ := List.mem_map.mp hentry
  have hpending : h.get? w = some .pending :=
    (History.of_mem_pendingRun (List.of_mem_zip hmem).1).2
  have hstored := List.forall₂_zip (stored?_of_served hserved) hmem
  refine ⟨?_, hdecided l⟩
  rw [History.foreseen_of_pending hpending, hstored]
  rfl

/-- What is foreseen of the newest version is known after one load at most. -/
theorem exists_known (hr : r.IsSupplied store) (hdecided : ∀ l, r.judge e.subtopic l ≠ .pending)
    (hforeseen : h.foreseen store (r.judge e.subtopic) e.id h.newest = some o) :
    ∃ h', h.SameAhead store (r.judge e.subtopic) e.id h' ∧ h'.get? h'.newest = some o ∧
      ∀ {o' last}, LeadsTo r store e h' o' last → LeadsTo r store e h o' last := by
  obtain ⟨known, hknown⟩ := History.exists_get?_of_foreseen hforeseen
  by_cases hpending : known = .pending
  · subst hpending
    have hstored : store.stored? e.id h.newest ≠ none := by
      intro hnone
      rw [History.foreseen_of_pending hknown, hnone] at hforeseen
      cases hforeseen
    -- the version is loaded, together with others that are stored, too
    cases hserved : store.served (versionsRequest e (r.batch h h.newest)) with
    | error failure =>
      obtain ⟨w, hw, hnone⟩ := exists_none_of_served hserved
      exact absurd hnone (hr e.id h h.newest hstored w hw)
    | ok loaded =>
      have hlength := (stored?_of_served hserved).length_eq.symm
      have hsame := sameAhead_write hdecided hserved
      refine ⟨_, hsame, ?_, .load hknown hserved hlength⟩
      have hmem : h.newest ∈ (entries r e (r.batch h h.newest) loaded).map (·.1) := by
        rw [map_fst_entries hlength]
        exact History.mem_pendingRun_self (by omega) hknown
      obtain ⟨entry, hentry, -, hget⟩ := History.exists_get?_write hmem (Nat.le_refl _)
      obtain ⟨pair, -, rfl⟩ := List.mem_map.mp hentry
      have hahead := hsame.foreseen h.newest
      rw [hforeseen, History.foreseen_of_get? hget (hdecided _)] at hahead
      rw [hsame.newest, hget, ← hahead]
  · refine ⟨h, .refl h, ?_, id⟩
    rwa [History.foreseen_of_get? hknown hpending, ← hknown] at hforeseen

/-- **Searches from histories that are the same ahead come to the same outcome.** -/
theorem LeadsTo.of_sameAhead (hr' : r'.IsSupplied store) (hjudge : r'.judge = r.judge)
    (hdecided : ∀ l, r.judge e.subtopic l ≠ .pending) (hleads : LeadsTo r store e h o last)
    (hsame : h.SameAhead store (r.judge e.subtopic) e.id h') :
    ∃ last', LeadsTo r' store e h' o last' ∧
      last.SameAhead store (r.judge e.subtopic) e.id last' := by
  have hdecided' : ∀ l, r'.judge e.subtopic l ≠ .pending := hjudge ▸ hdecided
  -- where the first search knows its newest version, the other one comes to know it
  have hmeet : ∀ {h h' : History α} {o : Outcome α},
      h.SameAhead store (r.judge e.subtopic) e.id h' → h.get? h.newest = some o → o ≠ .pending →
      ∃ h'', h.SameAhead store (r.judge e.subtopic) e.id h'' ∧ h''.get? h''.newest = some o ∧
        ∀ {o' last}, LeadsTo r' store e h'' o' last → LeadsTo r' store e h' o' last := by
    intro h h' o hsame hnewest ho
    have hforeseen : h'.foreseen store (r'.judge e.subtopic) e.id h'.newest = some o := by
      rw [hjudge, hsame.foreseen, hsame.newest, History.foreseen_of_get? hnewest ho]
    obtain ⟨h'', hsame'', hknown, hback⟩ := exists_known hr' hdecided' hforeseen
    rw [hjudge] at hsame''
    exact ⟨h'', hsame.trans hsame'', hknown, hback⟩
  induction hleads generalizing h' with
  | @settled h o hsettled =>
    obtain ⟨h'', hsame'', hknown, hback⟩ := hmeet hsame hsettled.newest hsettled.ne_pending
    refine ⟨h'', hback (.settled ⟨hknown, ?_⟩), hsame''⟩
    rw [hsame''.newest]
    exact hsettled.last
  | load _ hserved _ _ ih =>
    exact ih ((sameAhead_write hdecided hserved).symm.trans hsame)
  | @drop h rest last o reasons hfailure hdrop _ ih =>
    obtain ⟨h'', hsame'', hknown, hback⟩ := hmeet hsame hfailure (by simp)
    have hnum := (History.of_dropNewest? hdrop).1
    have hone := rest.one_le_newest
    obtain ⟨rest', hdrop', -⟩ := History.exists_dropNewest? (h := h'') (by
      rw [hsame''.newest]
      omega)
    obtain ⟨last', hleads', hsame'⟩ := ih (hsame''.drop hdrop hdrop')
    exact ⟨last', hback (.drop hknown hdrop' hleads'), hsame'⟩

end Resolver

end ContentPack
