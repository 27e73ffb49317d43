import ContentPack.Proofs.Search.Alone

/-!
# The course of a search in a store

Where a search ends does not depend on when the answers come. What it finds in the end is read off
the store and the history that it starts from: a pending newest version is loaded together with
pending ones below it, a failure is dropped, and a success or the only version is the end
(`Resolver.LeadsTo`). A walk drops a failure only after it has loaded what is below, which makes no
difference (`Resolver.leadsTo_of_at`).

So a search keeps where its history leads to (`Resolver.courseInvariant`), and searches for
different structures end where their histories lead to, whatever source they ask
(`Resolver.searches_resolveAll`).
-/

namespace ContentPack

variable {α σ σ' : Type}

/-! ### Outcomes are written below the newest version -/

namespace History

variable {h h' : History α}

theorem dropNewest?_set (v : Version) (o : Outcome α) :
    (h.set v o).dropNewest? = h.dropNewest?.map fun rest => rest.set v o := by
  have houtcomes : (h.set v o).outcomes.dropLast = h.outcomes.dropLast.set (v.number - 1) o := by
    show (h.outcomes.set (v.number - 1) o).dropLast = _
    rw [List.dropLast_eq_take, List.dropLast_eq_take, List.take_set, List.length_set]
  unfold dropNewest?
  by_cases hrest : h.outcomes.dropLast = []
  · have hrest' : (h.set v o).outcomes.dropLast = [] := by
      rw [houtcomes, hrest]
      rfl
    rw [dif_neg (not_not.mpr hrest), dif_neg (not_not.mpr hrest')]
    rfl
  · have hrest' : (h.set v o).outcomes.dropLast ≠ [] := by
      rw [houtcomes]
      simpa using hrest
    rw [dif_pos hrest, dif_pos hrest', Option.map_some]
    congr 1
    unfold set
    congr 1

/-- What is written stays when the newest version is dropped. -/
theorem dropNewest?_write (entries : List (Version × Outcome α)) :
    (h.write entries).dropNewest? = h.dropNewest?.map fun rest => rest.write entries := by
  induction entries generalizing h with
  | nil => exact Option.map_id'.symm ▸ rfl
  | cons entry rest ih =>
    show ((h.set entry.1 entry.2).write rest).dropNewest? = _
    rw [ih, dropNewest?_set, Option.map_map]
    rfl

/-- Only what is below counts for a pending run. -/
theorem pendingRun_congr {outcomes outcomes' : List (Outcome α)} {n : Nat}
    (h : ∀ i < n, outcomes[i]? = outcomes'[i]?) (width : Nat) :
    pendingRun outcomes n width = pendingRun outcomes' n width := by
  induction n generalizing width with
  | zero => cases width <;> rfl
  | succ n ih =>
    cases width with
    | zero => rfl
    | succ width =>
      unfold pendingRun
      rw [h n (Nat.lt_succ_self n), ih fun i hi => h i (Nat.lt_succ_of_lt hi)]

end History

namespace Resolver

variable {r : Resolver α σ} {store : Store} {e : Errand} {h h' last last' : History α}
  {o o' : Outcome α} {v : Version} {lastInvalid : Option Version}

/-! ### Where a history leads to -/

/-- **Where a search in a store leads to** from a history. -/
inductive LeadsTo (r : Resolver α σ) (store : Store) (e : Errand) :
    History α → Outcome α → History α → Prop
  /-- The search has ended. -/
  | settled {h : History α} {o : Outcome α} : h.Settled o → LeadsTo r store e h o h
  /-- The newest version is loaded. -/
  | load {h last : History α} {o : Outcome α} {loaded : List Loaded}
      (pending : h.get? h.newest = some .pending)
      (served : store.served (versionsRequest e (r.batch h h.newest)) = .ok loaded)
      (length : loaded.length = (r.batch h h.newest).length)
      (rest : LeadsTo r store e (h.write (entries r e (r.batch h h.newest) loaded)) o last) :
      LeadsTo r store e h o last
  /-- The newest version is a failure, and it is dropped. -/
  | drop {h h' last : History α} {o : Outcome α} {reasons : List Rejection}
      (failure : h.get? h.newest = some (.failure reasons)) (dropped : h.dropNewest? = some h')
      (rest : LeadsTo r store e h' o last) : LeadsTo r store e h o last

theorem not_dropNewest?_of_settled (hsettled : h.Settled o) {reasons : List Rejection}
    (hfailure : h.get? h.newest = some (.failure reasons)) : h.dropNewest? ≠ some h' := by
  intro hdrop
  rcases hsettled.last with ⟨l, rfl⟩ | ⟨hone, -⟩
  · rw [hsettled.newest] at hfailure
    cases hfailure
  · have hnum := (History.of_dropNewest? hdrop).1
    have hone' := h'.one_le_newest
    omega

/-- Where a search has ended, it leads nowhere else. -/
theorem leadsTo_of_settled (hsettled : h.Settled o') :
    LeadsTo r store e h o last ↔ o = o' ∧ last = h := by
  constructor
  · intro hleads
    cases hleads with
    | settled hsettled' =>
      have hnewest := hsettled'.newest
      rw [hsettled.newest] at hnewest
      exact ⟨(Option.some.inj hnewest).symm, rfl⟩
    | load hpending =>
      rw [hsettled.newest] at hpending
      exact absurd (Option.some.inj hpending) hsettled.ne_pending
    | drop hfailure hdrop => exact absurd hdrop (not_dropNewest?_of_settled hsettled hfailure)
  · rintro ⟨rfl, rfl⟩
    exact .settled hsettled

theorem leadsTo_of_pending (hpending : h.get? h.newest = some .pending) :
    LeadsTo r store e h o last ↔
      ∃ loaded, store.served (versionsRequest e (r.batch h h.newest)) = .ok loaded ∧
        loaded.length = (r.batch h h.newest).length ∧
        LeadsTo r store e (h.write (entries r e (r.batch h h.newest) loaded)) o last := by
  constructor
  · intro hleads
    cases hleads with
    | settled hsettled =>
      rw [hsettled.newest] at hpending
      exact absurd (Option.some.inj hpending) hsettled.ne_pending
    | load _ hserved hlength hrest => exact ⟨_, hserved, hlength, hrest⟩
    | drop hfailure _ _ =>
      rw [hpending] at hfailure
      cases hfailure
  · rintro ⟨loaded, hserved, hlength, hrest⟩
    exact .load hpending hserved hlength hrest

theorem leadsTo_of_drop {reasons : List Rejection}
    (hfailure : h.get? h.newest = some (.failure reasons)) (hdrop : h.dropNewest? = some h') :
    LeadsTo r store e h o last ↔ LeadsTo r store e h' o last := by
  constructor
  · intro hleads
    cases hleads with
    | settled hsettled => exact absurd hdrop (not_dropNewest?_of_settled hsettled hfailure)
    | load hpending _ _ _ =>
      rw [hfailure] at hpending
      cases hpending
    | drop _ hdrop' hrest =>
      rw [hdrop] at hdrop'
      exact Option.some.inj hdrop' ▸ hrest
  · exact .drop hfailure hdrop

/-- **A search leads to one end.** -/
theorem LeadsTo.unique (h₁ : LeadsTo r store e h o last) (h₂ : LeadsTo r store e h o' last') :
    o = o' ∧ last = last' := by
  induction h₁ with
  | settled hsettled =>
    obtain ⟨rfl, rfl⟩ := (leadsTo_of_settled hsettled).mp h₂
    exact ⟨rfl, rfl⟩
  | load hpending hserved _ _ ih =>
    obtain ⟨loaded', hserved', -, hrest'⟩ := (leadsTo_of_pending hpending).mp h₂
    rw [hserved] at hserved'
    obtain rfl := Except.ok.inj hserved'
    exact ih hrest'
  | drop hfailure hdrop _ ih => exact ih ((leadsTo_of_drop hfailure hdrop).mp h₂)

/-- Only what is judged, and how many versions are loaded together, counts. -/
theorem LeadsTo.congr {r' : Resolver α σ'} {e' : Errand} (hjudge : r'.judge = r.judge)
    (hwindow : r'.window = r.window) (hid : e'.id = e.id) (hsubtopic : e'.subtopic = e.subtopic)
    (hleads : LeadsTo r store e h o last) : LeadsTo r' store e' h o last := by
  have hbatch : ∀ h v, r'.batch h v = r.batch h v := by
    intro h v
    unfold batch
    rw [hwindow]
  have hentries : ∀ batch loaded, entries r' e' batch loaded = entries r e batch loaded := by
    intro batch loaded
    unfold entries
    rw [hjudge, hsubtopic]
  induction hleads with
  | settled hsettled => exact .settled hsettled
  | load hpending hserved hlength _ ih =>
    rw [← hbatch] at hserved hlength
    rw [← hbatch, ← hentries] at ih
    refine .load hpending ?_ hlength ih
    unfold versionsRequest at hserved ⊢
    rw [hid]
    exact hserved
  | drop hfailure hdrop _ ih => exact .drop hfailure hdrop ih

/-- Dropping failures from the top makes no difference. -/
theorem leadsTo_of_trims (t : h.Trims h') :
    LeadsTo r store e h o last ↔ LeadsTo r store e h' o last := by
  -- by induction on how many versions are gone
  obtain ⟨k, hk⟩ := Nat.exists_eq_add_of_le t.newest_le
  induction k generalizing h with
  | zero => rw [t.eq_of_newest hk.symm]
  | succ k ih =>
    have hone := h'.one_le_newest
    obtain ⟨top, htop⟩ := h.exists_get? (Nat.le_refl _)
    obtain ⟨reasons, rfl⟩ := t.dropped h.newest top (by omega) htop
    obtain ⟨rest, hdrop, hnum, trest⟩ := History.exists_trims (by omega) htop
    rw [leadsTo_of_drop htop hdrop]
    exact ih (trest.of_le t (by omega)) (by omega)

/-- What is written for a batch does not touch the failure above it. -/
theorem get?_write_entries_of_lt {w : Version} (hlt : v.number < w.number) (loaded : List Loaded) :
    (h.write (entries r e (r.batch h v) loaded)).get? w = h.get? w := by
  refine h.get?_write_of_notMem ?_
  intro hmem
  obtain ⟨entry, hentry, rfl⟩ := List.mem_map.mp hmem
  obtain ⟨pair, hpair, rfl⟩ := List.mem_map.mp hentry
  have hle := (History.of_mem_pendingRun (List.of_mem_zip hpair).1).1
  exact absurd hlt (Nat.not_lt.mpr hle)

/-- **Where a walk leads to that waits for a version**: the version is loaded next, and the failure
above it may be dropped before or after. -/
theorem leadsTo_of_at (hat : h.At v lastInvalid) (hpending : h.get? v = some .pending) :
    LeadsTo r store e h o last ↔
      ∃ loaded, store.served (versionsRequest e (r.batch h v)) = .ok loaded ∧
        loaded.length = (r.batch h v).length ∧
        LeadsTo r store e (h.write (entries r e (r.batch h v) loaded)) o last := by
  cases lastInvalid with
  | none =>
    obtain rfl : h.newest = v := hat
    exact leadsTo_of_pending hpending
  | some above =>
    obtain ⟨rfl, hnum, reasons, hfailure⟩ := hat
    have hone := v.one_le
    obtain ⟨rest, hdrop, hnum', hfirst, -⟩ := History.exists_dropNewest? (h := h) (by omega)
    have hnewest : rest.newest = v := Version.ext (by omega)
    have hpending' : rest.get? rest.newest = some .pending := by
      rw [hnewest, History.get?_eq_of_initial hfirst (by omega), hpending]
    have hbatch : r.batch rest v = r.batch h v := by
      refine History.pendingRun_congr ?_ _
      intro i hi
      exact History.get?_eq_of_initial (v := .after i) hfirst (by rw [Version.number_after]; omega)
    rw [leadsTo_of_drop hfailure hdrop, leadsTo_of_pending hpending', hnewest, hbatch]
    refine exists_congr fun loaded => and_congr_right fun _ => and_congr_right fun _ => ?_
    -- the failure is still there when the version is loaded, and it may be dropped now
    have hfailure' : (h.write (entries r e (r.batch h v) loaded)).get?
        (h.write (entries r e (r.batch h v) loaded)).newest = some (.failure reasons) := by
      rw [History.newest_write, get?_write_entries_of_lt (by omega), hfailure]
    refine (leadsTo_of_drop hfailure' ?_).symm
    rw [History.dropNewest?_write, hdrop]
    rfl

/-! ### Where a search leads to -/

/-- **Where a search leads to** from what is known of its structure: if nothing is known, it starts
from the newest version that is stored. -/
def Arrives (r : Resolver α σ) (store : Store) (e : Errand) (known : Option (History α))
    (o : Outcome α) (last : History α) : Prop :=
  match known with
  | some h => LeadsTo r store e h o last
  | none => ∃ l, store.served (.latest e.id.locator) = .ok [l] ∧
      LeadsTo r store e (r.tracked e l) o last

theorem Arrives.unique {known : Option (History α)} (h₁ : Arrives r store e known o last)
    (h₂ : Arrives r store e known o' last') : o = o' ∧ last = last' := by
  cases known with
  | some h => exact LeadsTo.unique h₁ h₂
  | none =>
    obtain ⟨l, hserved, hleads⟩ := h₁
    obtain ⟨l', hserved', hleads'⟩ := h₂
    rw [hserved] at hserved'
    obtain rfl := List.singleton_inj.mp (Except.ok.inj hserved')
    exact hleads.unique hleads'

theorem Arrives.congr {r' : Resolver α σ'} {e' : Errand} (hjudge : r'.judge = r.judge)
    (hwindow : r'.window = r.window) (hid : e'.id = e.id) (hsubtopic : e'.subtopic = e.subtopic)
    {known : Option (History α)} (harrives : Arrives r store e known o last) :
    Arrives r' store e' known o last := by
  cases known with
  | some h => exact LeadsTo.congr hjudge hwindow hid hsubtopic harrives
  | none =>
    obtain ⟨l, hserved, hleads⟩ := harrives
    refine ⟨l, hid ▸ hserved, ?_⟩
    unfold tracked at hleads ⊢
    rw [hjudge, hsubtopic]
    exact hleads.congr hjudge hwindow hid hsubtopic

/-- The report of an errand does not count. -/
theorem arrives_bare_iff {known : Option (History α)} :
    Arrives r store { id := e.id, subtopic := e.subtopic } known o last ↔
      Arrives r store e known o last := by
  have hid : ({ id := e.id, subtopic := e.subtopic } : Errand).id = e.id := rfl
  exact ⟨.congr rfl rfl hid.symm rfl, .congr rfl rfl hid rfl⟩

/-- **A search leads to the same end** from what is known now as from what was known before. -/
def SameCourse (r : Resolver α σ) (store : Store) (e : Errand) (known known' : Option (History α)) :
    Prop :=
  ∀ o last, Arrives r store e known o last ↔ Arrives r store e known' o last

namespace SameCourse

variable {known : Option (History α)} {loaded : List Loaded} {failure : FetchFailure}

/-- The structure is tracked from the newest version that is stored. -/
theorem start {l : Loaded} (hsame : SameCourse r store e known none)
    (hserved : store.served (.latest e.id.locator) = .ok [l]) :
    SameCourse r store e known (some (r.tracked e l)) := by
  intro o last
  refine (hsame o last).trans ⟨?_, fun hleads => ⟨l, hserved, hleads⟩⟩
  rintro ⟨l', hserved', hleads⟩
  rw [hserved] at hserved'
  exact List.singleton_inj.mp (Except.ok.inj hserved') ▸ hleads

/-- Without a newest version a search leads nowhere. -/
theorem not_arrives_of_unknown (hsame : SameCourse r store e known none)
    (hserved : store.served (.latest e.id.locator) = .error failure) :
    ¬Arrives r store e known o last := by
  intro harrives
  obtain ⟨l, hserved', -⟩ := (hsame o last).mp harrives
  rw [hserved] at hserved'
  cases hserved'

theorem trims (hsame : SameCourse r store e known (some h)) (t : h.Trims h') :
    SameCourse r store e known (some h') :=
  fun o last => (hsame o last).trans (leadsTo_of_trims t)

/-- The versions that a walk waits for are written as they are stored. -/
theorem learn (hsame : SameCourse r store e known (some h)) (hat : h.At v lastInvalid)
    (hpending : h.get? v = some .pending)
    (hserved : store.served (versionsRequest e (r.batch h v)) = .ok loaded)
    (hlength : loaded.length = (r.batch h v).length) :
    SameCourse r store e known (some (h.write (entries r e (r.batch h v) loaded))) := by
  intro o last
  refine (hsame o last).trans ((leadsTo_of_at hat hpending).trans ?_)
  constructor
  · rintro ⟨loaded', hserved', -, hleads⟩
    rw [hserved] at hserved'
    exact Except.ok.inj hserved' ▸ hleads
  · exact fun hleads => ⟨loaded, hserved, hlength, hleads⟩

/-- Without these versions a search leads nowhere. -/
theorem not_arrives_of_refused (hsame : SameCourse r store e known (some h))
    (hat : h.At v lastInvalid) (hpending : h.get? v = some .pending)
    (hserved : ∀ loaded, store.served (versionsRequest e (r.batch h v)) = .ok loaded →
      loaded.length ≠ (r.batch h v).length) :
    ¬Arrives r store e known o last := by
  intro harrives
  obtain ⟨loaded, hserved', hlength, -⟩ :=
    (leadsTo_of_at hat hpending).mp ((hsame o last).mp harrives)
  exact hserved loaded hserved' hlength

end SameCourse

/-- The newest version that a search may meet. -/
def newestMet (store : Store) (e : Errand) : Option (History α) → Nat
  | some h => h.newest.number
  | none => match store.served (.latest e.id.locator) with
    | .ok (l :: _) => l.version.number
    | _ => 0

/-- **A search keeps where it leads to**, and a request fails only if it leads nowhere. -/
def courseInvariant (ha : r.source.Answers store) (e : Errand)
    (hdecided : ∀ l, r.judge e.subtopic l ≠ .pending) (known : Option (History α)) :
    SearchInvariant r e where
  Holds h := h.newest.number ≤ newestMet store e known ∧ SameCourse r store e known (some h)
  Opens := known = none
  Fails := ∀ o last, ¬Arrives r store e known o last
  decided := hdecided
  trims hholds t := ⟨Nat.le_trans t.newest_le hholds.1, hholds.2.trims t⟩
  start := by
    rintro l rfl hyields
    have hserved := (hyields.eq_served ha).symm
    refine ⟨?_, SameCourse.start (fun _ _ => Iff.rfl) hserved⟩
    unfold newestMet
    rw [hserved]
    exact Nat.le_of_eq (congrArg Version.number (History.newest_start ..))
  unknown := by
    rintro failure rfl hyields o last
    exact SameCourse.not_arrives_of_unknown (fun _ _ => Iff.rfl) (hyields.eq_served ha).symm
  learn := by
    rintro h v lastInvalid loaded ⟨hmet, hsame⟩ hat hpending hyields hlength
    exact ⟨by rwa [History.newest_write],
      hsame.learn hat hpending (hyields.eq_served ha).symm hlength⟩
  refused := by
    rintro h v lastInvalid failure ⟨-, hsame⟩ hat hpending hyields o last
    refine hsame.not_arrives_of_refused hat hpending ?_
    intro loaded hserved
    rw [← hyields.eq_served ha] at hserved
    cases hserved
  miscounted := by
    rintro h v lastInvalid loaded ⟨-, hsame⟩ hat hpending hyields hlength o last
    refine hsame.not_arrives_of_refused hat hpending ?_
    intro loaded' hserved
    rw [← hyields.eq_served ha] at hserved
    exact Except.ok.inj hserved ▸ hlength

/-- A search may start from what is known. -/
theorem ready_course {ha : r.source.Answers store} {hdecided : ∀ l, r.judge e.subtopic l ≠ .pending}
    (cache : Cache α) :
    (courseInvariant ha e hdecided (cache.history? e.id)).Ready cache where
  holds h hh := by
    rw [hh]
    exact ⟨Nat.le_refl _, fun _ _ => Iff.rfl⟩
  opens hh := hh

/-- Where a search has ended, it has led to. -/
theorem arrives_of_settled {ha : r.source.Answers store}
    {hdecided : ∀ l, r.judge e.subtopic l ≠ .pending} {known : Option (History α)}
    (hholds : (courseInvariant ha e hdecided known).Holds h) (hsettled : h.Settled o) :
    Arrives r store e known o h :=
  (hholds.2 o h).mpr (.settled hsettled)

/-! ### Searches for different structures -/

/-- Structures that no errand is for are left as they are. -/
def Spares (errands : List Errand) (cache cache' : Cache α) : Prop :=
  ∀ id, (∀ e ∈ errands, e.id ≠ id) → cache'.history? id = cache.history? id

/-- **Where searches for different structures end**: each where it leads to, and other structures
are not touched. -/
structure Arrived (r : Resolver α σ) (store : Store) (errands : List Errand) (cache : Cache α)
    (outcomes : List (Outcome α)) (cache' : Cache α) : Prop where
  /-- Other structures are left as they are. -/
  spares : Spares errands cache cache'
  /-- Each search has ended where it leads to. -/
  ends : List.Forall₂ (fun e o => ∃ last, cache'.history? e.id = some last ∧
    Arrives r store e (cache.history? e.id) o last) errands outcomes

/-- One of the searches leads nowhere. -/
def Strays (r : Resolver α σ) (store : Store) (errands : List Errand) (cache : Cache α) : Prop :=
  ∃ e ∈ errands, ∀ o last, ¬Arrives r store e (cache.history? e.id) o last

theorem Arrived.not_strays {errands : List Errand} {cache cache' : Cache α}
    {outcomes : List (Outcome α)} (h : Arrived r store errands cache outcomes cache') :
    ¬Strays r store errands cache := by
  rintro ⟨e, he, hnone⟩
  obtain ⟨o, -, last, -, hfound⟩ := exists_right_of_forall₂ h.ends he
  exact hnone o last hfound

/-- **Work that searches for structures**: its searches end where they lead to, and it is given up
with a failed request only if one of them leads nowhere. -/
def Searches (r : Resolver α σ) (store : Store) (errands : List Errand)
    (x : Work α σ (List (Outcome α))) : Prop :=
  ∀ s, Work.Ensures x s
    (fun outcomes rest => Arrived r store errands s.cache outcomes rest.cache)
    (fun error _ => (∃ failure, error = .fetch failure) ∧ Strays r store errands s.cache)

theorem searches_resolveAll (ha : r.source.Answers store)
    (hdecided : ∀ subtopic l, r.judge subtopic l ≠ .pending) {errands : List Errand}
    (hids : (errands.map (·.id)).Nodup) {limit : Option Nat} (hlimit : limit ≠ some 0)
    (joins : Nat) : r.Searches store errands (r.resolveAll limit errands joins) := by
  intro s
  refine (ensures_resolveApart
    (fun e => courseInvariant ha e (hdecided e.subtopic) (s.cache.history? e.id)) hids hlimit joins
    (fun e _ => ready_course s.cache)).mono ?_ (fun _ _ => id)
  rintro outcomes rest ⟨⟨-, hspares⟩, hsettled⟩
  refine ⟨hspares, hsettled.imp ?_⟩
  rintro e o ⟨last, hlast, hholds, hs⟩
  exact ⟨last, hlast, arrives_of_settled hholds hs⟩

/-- A single search ends where it leads to. -/
theorem ensures_resolve_course (ha : r.source.Answers store)
    (hdecided : ∀ subtopic l, r.judge subtopic l ≠ .pending) (e : Errand) (s : Session α σ) :
    Work.Ensures (r.resolve e.id e.subtopic) s
      (fun o rest => Arrived r store [e] s.cache [o] rest.cache)
      (fun error _ => (∃ failure, error = .fetch failure) ∧ Strays r store [e] s.cache) := by
  have hids : ([({ id := e.id, subtopic := e.subtopic } : Errand)].map (·.id)).Nodup :=
    List.nodup_singleton _
  unfold resolve
  rw [Work.ensures_bind]
  refine (searches_resolveAll ha hdecided hids (by simp) 0 s).mono ?_ ?_
  · rintro outcomes rest ⟨hspares, hends⟩
    cases hends with
    | cons hend hnil =>
      cases hnil
      obtain ⟨last, hlast, hfound⟩ := hend
      refine ⟨fun id hid => hspares id fun e' he' => ?_, .cons ⟨last, hlast, ?_⟩ .nil⟩
      · obtain rfl := List.mem_singleton.mp he'
        exact hid e (List.mem_singleton.mpr rfl)
      · exact arrives_bare_iff.mp hfound
  · rintro error rest ⟨hfetch, e', he', hnone⟩
    obtain rfl := List.mem_singleton.mp he'
    refine ⟨hfetch, e, List.mem_singleton.mpr rfl, fun o last hfound => ?_⟩
    exact hnone o last (arrives_bare_iff.mpr hfound)

end Resolver

end ContentPack
