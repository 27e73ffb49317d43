import ContentPack.Compatibility.BlockList
import ContentPack.Proofs.Outcome
import ContentPack.Proofs.Search.Newest

/-!
# Walks for the same structure

Walks for one structure that share a cache are visited in the order of a schedule
(`Resolver.interleave`). They are harmless if every one of them ends as a search on its own ends,
and leaves the same cache (`Resolver.IsHarmless`).

This holds as long as nothing is dropped: for a single walk, and if a search ends at the newest
version, because that can be used or is the only one. In every other case a walk can be overtaken.
It has seen the newest version fail and waits for the one below it, while another walk drops the
newest version; then it drops the newest version again, which is a misuse
(`Resolver.isHarmless_iff`).
-/

namespace ContentPack

namespace Resolver

/-! ### Schedules -/

section Schedules

variable {α σ : Type}

/-- Visit the walk at a place, if there is one. -/
def visitAt (r : Resolver α σ) (e : Errand) (p : List (Walk α) × Session α σ) (place : Nat) :
    List (Walk α) × Session α σ :=
  match p.1[place]? with
  | some walk => (p.1.set place (r.step e (walk, p.2)).1, (r.step e (walk, p.2)).2)
  | none => p

/-- Visit walks for the same errand in the order of a schedule. -/
def interleave (r : Resolver α σ) (e : Errand) (p : List (Walk α) × Session α σ)
    (schedule : List Nat) : List (Walk α) × Session α σ :=
  schedule.foldl (r.visitAt e) p

/-- **Walks for the same structure are harmless**: once each of them was visited often enough,
whatever the schedule was, all of them have ended as a search on its own ends, and the cache is the
same. -/
def IsHarmless (r : Resolver α σ) (id : StructureId) (subtopic : Option Subtopic) (n : Nat)
    (start : Session α σ) : Prop :=
  ∃ o alone, ExceptT.run (r.resolve id subtopic) start = (.ok o, alone) ∧
    ∃ enough, ∀ schedule : List Nat, (∀ place < n, enough ≤ schedule.count place) →
      ∃ rest, r.interleave { id, subtopic } (List.replicate n .fresh, start) schedule =
          (List.replicate n (.ended o), rest) ∧ rest.cache = alone.cache

variable {r : Resolver α σ} {e : Errand} {p : List (Walk α) × Session α σ} {place : Nat}
  {walk : Walk α} {s : Session α σ}

theorem visitAt_of_getElem? (h : p.1[place]? = some walk) :
    r.visitAt e p place =
      (p.1.set place (r.step e (walk, p.2)).1, (r.step e (walk, p.2)).2) := by
  unfold visitAt
  rw [h]

theorem visitAt_of_none (h : p.1[place]? = none) : r.visitAt e p place = p := by
  unfold visitAt
  rw [h]

theorem length_visitAt : (r.visitAt e p place).1.length = p.1.length := by
  cases h : p.1[place]? with
  | none => rw [visitAt_of_none h]
  | some walk =>
    rw [visitAt_of_getElem? h]
    exact List.length_set

theorem length_interleave (schedule : List Nat) :
    (r.interleave e p schedule).1.length = p.1.length := by
  induction schedule generalizing p with
  | nil => rfl
  | cons place rest ih => exact ih.trans length_visitAt

theorem interleave_append (schedule rest : List Nat) :
    r.interleave e p (schedule ++ rest) = r.interleave e (r.interleave e p schedule) rest :=
  List.foldl_append

/-- A walk without a visit stays where it is. -/
theorem getElem?_interleave_of_notMem {schedule : List Nat} (h : place ∉ schedule) :
    (r.interleave e p schedule).1[place]? = p.1[place]? := by
  induction schedule generalizing p with
  | nil => rfl
  | cons other rest ih =>
    rw [List.mem_cons, not_or] at h
    obtain ⟨hne, hrest⟩ := h
    refine (ih hrest).trans ?_
    cases hother : p.1[other]? with
    | none => rw [visitAt_of_none hother]
    | some walk =>
      rw [visitAt_of_getElem? hother]
      exact List.getElem?_set_ne fun heq => hne heq.symm

/-- Visits of one walk only go along its path. -/
theorem interleave_replicate (h : p.1[place]? = some walk) (k : Nat) :
    r.interleave e p (List.replicate k place) =
      (p.1.set place ((r.step e)^[k] (walk, p.2)).1, ((r.step e)^[k] (walk, p.2)).2) := by
  induction k generalizing p walk with
  | zero =>
    obtain ⟨hlt, rfl⟩ := List.getElem?_eq_some_iff.mp h
    show p = (p.1.set place p.1[place], p.2)
    rw [List.set_getElem_self]
  | succ k ih =>
    obtain ⟨hlt, -⟩ := List.getElem?_eq_some_iff.mp h
    rw [List.replicate_succ]
    show r.interleave e (r.visitAt e p place) (List.replicate k place) = _
    rw [visitAt_of_getElem? h, ih (List.getElem?_set_self hlt), List.set_set]
    rfl

/-- Of a single walk, only the visits count. -/
theorem interleave_singleton (schedule : List Nat) :
    r.interleave e ([walk], s) schedule =
      ([((r.step e)^[schedule.count 0] (walk, s)).1],
        ((r.step e)^[schedule.count 0] (walk, s)).2) := by
  induction schedule generalizing walk s with
  | nil => rfl
  | cons place rest ih =>
    show r.interleave e (r.visitAt e ([walk], s) place) rest = _
    cases place with
    | zero =>
      have hfirst : (([walk], s) : List (Walk α) × Session α σ).1[0]? = some walk := rfl
      rw [visitAt_of_getElem? hfirst, List.count_cons_self]
      exact ih
    | succ place =>
      rw [visitAt_of_none (p := ([walk], s)) rfl, List.count_cons_of_ne (Nat.succ_ne_zero place)]
      exact ih

/-- **What every visit keeps holds after a schedule**, with fewer visits to go for each walk. -/
theorem near_of_interleave (Near : Session α σ → Walk α → Nat → Prop)
    (hself : ∀ {s walk k}, Near s walk k →
      Near (r.step e (walk, s)).2 (r.step e (walk, s)).1 (k - 1))
    (hother : ∀ {s walk k other k'}, Near s walk k → Near s other k' →
      Near (r.step e (walk, s)).2 other k')
    (schedule : List Nat) : ∀ {p : List (Walk α) × Session α σ} (bound : Nat → Nat),
      (∀ place walk, p.1[place]? = some walk → Near p.2 walk (bound place)) →
      ∀ place walk, (r.interleave e p schedule).1[place]? = some walk →
        Near (r.interleave e p schedule).2 walk (bound place - schedule.count place) := by
  induction schedule with
  | nil => exact fun _ h => h
  | cons visited rest ih =>
    intro p bound h place walk hwalk
    cases hvisited : p.1[visited]? with
    | none =>
      -- there is no walk at that place, and so it is not the one in question
      have hsame : r.visitAt e p visited = p := visitAt_of_none hvisited
      have hrest : r.interleave e p (visited :: rest) = r.interleave e p rest :=
        congrArg (fun p => r.interleave e p rest) hsame
      rw [hrest] at hwalk ⊢
      have hne : visited ≠ place := by
        rintro rfl
        have hlt := (List.getElem?_eq_some_iff.mp hwalk).1
        rw [length_interleave] at hlt
        exact absurd hlt (not_lt.mpr (List.getElem?_eq_none_iff.mp hvisited))
      rw [List.count_cons_of_ne hne]
      exact ih bound h place walk hwalk
    | some current =>
      -- the walk that is visited has one visit less to go, and the others keep theirs
      have hnext : ∀ other walk, (r.visitAt e p visited).1[other]? = some walk →
          Near (r.visitAt e p visited).2 walk
            (if visited = other then bound other - 1 else bound other) := by
        intro other walk hwalk
        rw [visitAt_of_getElem? hvisited] at hwalk ⊢
        obtain ⟨hlt, -⟩ := List.getElem?_eq_some_iff.mp hvisited
        by_cases heq : visited = other
        · subst heq
          rw [List.getElem?_set_self hlt] at hwalk
          rw [if_pos rfl, ← Option.some.inj hwalk]
          exact hself (h visited current hvisited)
        · rw [List.getElem?_set_ne heq] at hwalk
          rw [if_neg heq]
          exact hother (h visited current hvisited) (h other walk hwalk)
      have hrest := ih _ hnext place walk hwalk
      by_cases heq : visited = place
      · subst heq
        rw [if_pos rfl, Nat.sub_sub, Nat.add_comm] at hrest
        rw [List.count_cons_self]
        exact hrest
      · rw [if_neg heq] at hrest
        rw [List.count_cons_of_ne heq]
        exact hrest

end Schedules

/-! ### Searches that end at the newest version -/

section Shares

variable {r : Resolver Loaded (List Request)} {e : Errand} {newest : Loaded}
  {s : Session Loaded (List Request)} {walk : Walk Loaded} {k : Nat}

/-- The cache with nothing but the newest version of one structure. -/
def newestOnly (r : Resolver Loaded (List Request)) (e : Errand) (newest : Loaded) :
    Cache Loaded :=
  Cache.empty.withHistory e.id (tracked r e newest)

theorem history?_newestOnly :
    (newestOnly r e newest).history? e.id = some (tracked r e newest) :=
  Cache.history?_withHistory_self ..

theorem withHistory_newestOnly :
    (newestOnly r e newest).withHistory e.id (tracked r e newest) = newestOnly r e newest :=
  Cache.withHistory_withHistory ..

/-- **Where walks can stand that all end at the newest version**: they seek it, or they have ended
with its outcome and it is tracked. -/
def Shares (r : Resolver Loaded (List Request)) (e : Errand) (newest : Loaded)
    (s : Session Loaded (List Request)) (walk : Walk Loaded) (k : Nat) : Prop :=
  (Seeks r e k walk ∧ (s.cache = .empty ∨ s.cache = newestOnly r e newest)) ∨
    (walk = .ended (r.judge e.subtopic newest) ∧ s.cache = newestOnly r e newest)

/-- After its last visit a walk has ended. -/
theorem Shares.eq_ended (h : Shares r e newest s walk 0) :
    walk = .ended (r.judge e.subtopic newest) ∧ s.cache = newestOnly r e newest :=
  h.resolve_left fun hseeks => not_seeks_zero hseeks.1

/-- A visit keeps this, and it tracks the newest version at most. -/
theorem Shares.step
    (hserved : ∀ result, r.source.Yields (.latest e.id.locator) result → result = .ok [newest])
    (hsettled : (tracked r e newest).Settled (r.judge e.subtopic newest))
    (h : Shares r e newest s walk k) :
    Shares r e newest (r.step e (walk, s)).2 (r.step e (walk, s)).1 (k - 1) ∧
      ((r.step e (walk, s)).2.cache = s.cache ∨
        (r.step e (walk, s)).2.cache = newestOnly r e newest) := by
  rcases h with ⟨hseeks, hcache⟩ | ⟨rfl, hcache⟩
  · have hhistory : s.cache.history? e.id = none ∨
        s.cache.history? e.id = some (tracked r e newest) := by
      rcases hcache with hempty | hnewest
      · rw [hempty]
        exact Or.inl rfl
      · rw [hnewest]
        exact Or.inr history?_newestOnly
    have htracked : s.cache.withHistory e.id (tracked r e newest) = newestOnly r e newest := by
      rcases hcache with hempty | hnewest
      · rw [hempty]
        rfl
      · rw [hnewest, withHistory_newestOnly]
    -- it may be served now, and then it goes down to its end at once
    refine step_of_ensures (Q := fun walk' rest => Shares r e newest rest walk' (k - 1) ∧
      (rest.cache = s.cache ∨ rest.cache = newestOnly r e newest)) ?_
    refine ensures_visit_seeks hserved hhistory hseeks ?_ ?_
    · intro walk' remote hseeks'
      exact ⟨Or.inl ⟨hseeks', hcache⟩, Or.inl rfl⟩
    · intro remote goOn hgoOn
      refine ensures_enter_settled (Session.history?_withHistory ..) hsettled hgoOn ?_
      exact ⟨Or.inr ⟨rfl, htracked⟩, Or.inr htracked⟩
  · -- a walk that has ended stays where it is
    have hsame := iterate_ended (r := r) (e := e) (s := s) (r.judge e.subtopic newest) 1
    rw [Function.iterate_one] at hsame
    rw [hsame]
    exact ⟨Or.inr ⟨rfl, hcache⟩, Or.inl rfl⟩

/-- A visit of another walk does not move a walk. -/
theorem Shares.other {other : Walk Loaded} {k' : Nat}
    (hserved : ∀ result, r.source.Yields (.latest e.id.locator) result → result = .ok [newest])
    (hsettled : (tracked r e newest).Settled (r.judge e.subtopic newest))
    (h : Shares r e newest s walk k) (h' : Shares r e newest s other k') :
    Shares r e newest (r.step e (walk, s)).2 other k' := by
  have hcache := (h.step hserved hsettled).2
  rcases h' with ⟨hseeks, hold⟩ | ⟨hended, hold⟩
  · refine Or.inl ⟨hseeks, ?_⟩
    rcases hcache with hsame | hnewest
    · rw [hsame]
      exact hold
    · exact Or.inr hnewest
  · refine Or.inr ⟨hended, ?_⟩
    rcases hcache with hsame | hnewest
    · rw [hsame, hold]
    · exact hnewest

/-- Walks that were visited often enough have all ended at the newest version. -/
theorem interleave_of_settled
    (hserved : ∀ result, r.source.Yields (.latest e.id.locator) result → result = .ok [newest])
    (hsettled : (tracked r e newest).Settled (r.judge e.subtopic newest)) {n : Nat} (hn : 1 ≤ n)
    {schedule : List Nat}
    (hschedule : ∀ place < n, Load.visits r.source ≤ schedule.count place)
    (remote : List Request) :
    ∃ rest, r.interleave e (List.replicate n .fresh, { remote }) schedule =
        (List.replicate n (.ended (r.judge e.subtopic newest)), rest) ∧
      rest.cache = newestOnly r e newest := by
  have hstart : ∀ (place : Nat) walk,
      (List.replicate n (.fresh : Walk Loaded))[place]? = some walk →
      Shares r e newest { remote } walk (Load.visits r.source) := by
    intro place walk hwalk
    obtain rfl := List.eq_of_mem_replicate (List.mem_of_getElem? hwalk)
    exact Or.inl ⟨Nat.le_refl _, Or.inl rfl⟩
  have hnear := near_of_interleave (Shares r e newest)
    (fun h => (h.step hserved hsettled).1) (fun h h' => h.other hserved hsettled h') schedule
    (p := (List.replicate n .fresh, { remote })) (fun _ => Load.visits r.source) hstart
  have hlength := length_interleave (r := r) (e := e)
    (p := (List.replicate n .fresh, ({ remote } : Session Loaded (List Request)))) schedule
  rw [List.length_replicate] at hlength
  generalize r.interleave e (List.replicate n .fresh, { remote }) schedule = p at hnear hlength
  have hended : ∀ place < n, ∀ walk, p.1[place]? = some walk →
      walk = .ended (r.judge e.subtopic newest) ∧ p.2.cache = newestOnly r e newest := by
    intro place hplace walk hwalk
    have h := hnear place walk hwalk
    rw [Nat.sub_eq_zero_of_le (hschedule place hplace)] at h
    exact h.eq_ended
  refine ⟨p.2, Prod.ext (List.eq_replicate_iff.mpr ⟨hlength, ?_⟩) rfl, ?_⟩
  · intro walk hwalk
    obtain ⟨place, hplace⟩ := List.getElem?_of_mem hwalk
    have hlt := (List.getElem?_eq_some_iff.mp hplace).1
    exact (hended place (hlength ▸ hlt) walk hplace).1
  · have hfirst : p.1[0]? = some p.1[0] := List.getElem?_eq_getElem (hlength ▸ hn)
    exact (hended 0 hn _ hfirst).2

end Shares

/-! ### Walks that are overtaken -/

section Overtaken

variable {store : Store} {r : Resolver Loaded (List Request)} {e : Errand} {newest : Loaded}
  {above v : Version} {s : Session Loaded (List Request)} {walk : Walk Loaded}

/-- **An overtaken walk** waits for a version and would drop the one above it, which is gone, or it
has failed. -/
def Overtaken (r : Resolver Loaded (List Request)) (e : Errand) (above v : Version)
    (walk : Walk Loaded) (s : Session Loaded (List Request)) : Prop :=
  (∃ batch load h, walk = .loading (.version v (some above) batch) load ∧
    load.Reached r.source (versionsRequest e batch) ∧ s.cache.history? e.id = some h ∧
    h.newest.number < above.number) ∨
    ∃ error load, walk = .failed error load

theorem Overtaken.ne_ended (h : Overtaken r e above v walk s) (o : Outcome Loaded) :
    walk ≠ .ended o := by
  rintro rfl
  rcases h with ⟨_, _, _, heq, -⟩ | ⟨_, _, heq⟩ <;> cases heq

/-- Once the version is loaded, the walk fails: the version above it cannot be dropped again. -/
theorem ensures_resume_overtaken {h : History Loaded} (hh : s.cache.history? e.id = some h)
    (hlt : h.newest.number < above.number) (batch : List Version) (loaded : List Loaded) :
    Work.Ensures (r.resume e (.version v (some above) batch) loaded) s (fun _ _ => False)
      (fun _ _ => True) := by
  unfold resume
  rw [Work.ensures_bind]
  by_cases hlength : loaded.length = batch.length
  · refine (ensures_store hh hlength).mono ?_ (fun _ _ _ => trivial)
    rintro _ rest rfl
    have hh' := Session.history?_withHistory s e.id (h.write (entries r e batch loaded))
    -- writing does not bring back the version that is gone
    have hne : (h.write (entries r e batch loaded)).newest ≠ above := by
      intro heq
      rw [← heq, History.newest_write] at hlt
      exact Nat.lt_irrefl _ hlt
    unfold loadedOutcome
    rw [Work.ensures_bind, Work.ensures_bind]
    -- its own version may be gone as well, which is noticed even earlier
    by_cases hgone : (h.write (entries r e batch loaded)).newest.number < v.number
    · exact (Work.ensures_readCache_error (Cache.get_of_lt hh' hgone)).mpr trivial
    · obtain ⟨o, ho⟩ := History.exists_get? _ (not_lt.mp hgone)
      rw [Work.ensures_readCache_ok (Cache.get_of_history? hh' ho)]
      split
      · exact trivial
      · rw [Work.ensures_pure]
        unfold conclude
        rw [Work.ensures_bind]
        exact (Work.ensures_changeCache_error (Cache.invalidate_of_ne hh' hne)).mpr trivial
  · exact (ensures_store_of_ne hlength).mono (fun _ _ hfalse => hfalse.elim) (fun _ _ _ => trivial)

/-- **An overtaken walk never ends.** -/
theorem Overtaken.step (h : Overtaken r e above v walk s) :
    Overtaken r e above v (r.step e (walk, s)).1 (r.step e (walk, s)).2 := by
  refine step_of_ensures (Q := Overtaken r e above v) ?_
  unfold visit
  rw [Work.ensures_tryCatch]
  refine Work.Ensures.mono (Q := Overtaken r e above v) (E := fun _ _ => True) ?_
    (fun _ _ => id) (fun error rest _ => Or.inr ⟨error, _, rfl⟩)
  rcases h with ⟨batch, load, h, rfl, hreached, hh, hlt⟩ | ⟨error, load, rfl⟩
  · refine ensures_look hreached ?_ ?_ ?_
    · intro load' remote _ _ hreached' _ _
      exact Or.inl ⟨batch, load', h, rfl, hreached', hh, hlt⟩
    · intro failure parts remote _ _
      exact Or.inr ⟨_, _, rfl⟩
    · intro loaded _ remote _ _
      rw [Work.ensures_bind]
      refine (ensures_resume_overtaken (s := { s with remote }) hh hlt batch loaded).mono ?_
        (fun _ _ => id)
      exact fun _ _ hfalse => hfalse.elim
  · exact Or.inr ⟨error, _, rfl⟩

theorem Overtaken.iterate (k : Nat) (h : Overtaken r e above v walk s) :
    Overtaken r e above v ((r.step e)^[k] (walk, s)).1 ((r.step e)^[k] (walk, s)).2 := by
  induction k with
  | zero => exact h
  | succ k ih =>
    rw [Function.iterate_succ_apply']
    exact ih.step

/-- A walk comes to wait for the version below the newest one, if that failed. -/
theorem exists_waiting (hr : r.source = store.source)
    (hserved : ∀ result, r.source.Yields (.latest e.id.locator) result → result = .ok [newest])
    {n : Nat} {reasons : List Rejection} (hversion : newest.version = .after (n + 1))
    (hfailure : r.judge e.subtopic newest = .failure reasons) (k : Nat) :
    ∀ (walk : Walk Loaded) (s : Session Loaded (List Request)), Seeks r e k walk →
      s.cache = .empty → ∃ a batch load rest, (r.step e)^[a] (walk, s) =
          (.loading (.version (.after n) (some (.after (n + 1))) batch) load, rest) ∧
        load.Reached r.source (versionsRequest e batch) ∧
        rest.cache = newestOnly r e newest := by
  induction k with
  | zero =>
    intro walk s hseeks _
    exact (not_seeks_zero hseeks).elim
  | succ k ih =>
    intro walk s hseeks hempty
    have hhistory : s.cache.history? e.id = none := by
      rw [hempty]
      rfl
    have hvisit : Work.Ensures (r.visit e walk) s
        (fun walk' rest => (Seeks r e k walk' ∧ rest.cache = .empty) ∨
          ∃ batch load,
            walk' = .loading (.version (.after n) (some (.after (n + 1))) batch) load ∧
            load.Reached r.source (versionsRequest e batch) ∧
            rest.cache = newestOnly r e newest)
        (fun _ _ => False) := by
      refine ensures_visit_seeks hserved (Or.inl hhistory) hseeks ?_ ?_
      · intro walk' remote hseeks'
        exact Or.inl ⟨hseeks', hempty⟩
      · intro remote goOn hgoOn
        refine ensures_enter_failure hr (Session.history?_withHistory ..) hversion hfailure hgoOn ?_
        intro batch load remote' hreached
        refine Or.inr ⟨batch, load, rfl, hreached, ?_⟩
        show s.cache.withHistory e.id (tracked r e newest) = _
        rw [hempty]
        rfl
    rcases step_of_ensures hvisit with ⟨hseeks', hempty'⟩ | ⟨batch, load, hwalk, hreached, hcache⟩
    · obtain ⟨a, batch, load, rest, hpath, hrest⟩ := ih _ _ hseeks' hempty'
      exact ⟨a + 1, batch, load, rest, hpath, hrest⟩
    · exact ⟨1, batch, load, _, Prod.ext hwalk rfl, hreached, hcache⟩

end Overtaken

/-- **The schedule by which a walk is overtaken**: the walk at place one is visited, then the one at
place zero, then the first one again, and at last everyone else. -/
def overtaking (first second enough n : Nat) : List Nat :=
  List.replicate first 1 ++ (List.replicate second 0 ++ (List.replicate enough 1 ++
    ((List.range n).filter (· ≠ 1)).flatMap (List.replicate enough)))

theorem le_count_overtaking {first second enough n place : Nat} (hplace : place < n) :
    enough ≤ (overtaking first second enough n).count place := by
  have hsublist : (List.replicate enough place).Sublist (overtaking first second enough n) := by
    unfold overtaking
    refine List.Sublist.trans ?_ (List.sublist_append_right _ _)
    refine List.Sublist.trans ?_ (List.sublist_append_right _ _)
    by_cases hone : place = 1
    · rw [hone]
      exact List.sublist_append_left _ _
    · refine List.Sublist.trans ?_ (List.sublist_append_right _ _)
      refine List.sublist_flatten_of_mem (List.mem_map.mpr ⟨place, ?_, rfl⟩)
      exact List.mem_filter.mpr ⟨List.mem_range.mpr hplace, decide_eq_true hone⟩
  calc enough = (List.replicate enough place).count place := List.count_replicate_self.symm
    _ ≤ (overtaking first second enough n).count place := hsublist.count_le place

theorem getElem?_interleave_overtaking {α σ : Type} {r : Resolver α σ} {e : Errand}
    {start rest rest' : Session α σ} {walk walk' : Walk α} {first second n : Nat} (enough : Nat)
    (hn : 2 ≤ n) (hfirst : (r.step e)^[first] (.fresh, start) = (walk, rest))
    (hsecond : (r.step e)^[second] (.fresh, rest) = (walk', rest')) :
    (r.interleave e (List.replicate n .fresh, start) (overtaking first second enough n)).1[1]? =
      some ((r.step e)^[enough] (walk, rest')).1 := by
  have hone : (List.replicate n (.fresh : Walk α))[1]? = some .fresh :=
    List.getElem?_replicate_of_lt hn
  have hzero : ((List.replicate n (.fresh : Walk α)).set 1 walk)[0]? = some .fresh := by
    rw [List.getElem?_set_ne Nat.one_ne_zero]
    exact List.getElem?_replicate_of_lt (by omega)
  have hagain : (((List.replicate n (.fresh : Walk α)).set 1 walk).set 0 walk')[1]? =
      some walk := by
    rw [List.getElem?_set_ne Nat.zero_ne_one]
    exact List.getElem?_set_self (by rw [List.length_replicate]; omega)
  have hothers : 1 ∉ ((List.range n).filter (· ≠ 1)).flatMap (List.replicate enough) := by
    intro hmem
    obtain ⟨place, hplace, hreplicate⟩ := List.mem_flatMap.mp hmem
    have hne := of_decide_eq_true (List.mem_filter.mp hplace).2
    exact hne (List.eq_of_mem_replicate hreplicate).symm
  unfold overtaking
  rw [interleave_append, interleave_append, interleave_append,
    getElem?_interleave_of_notMem hothers,
    interleave_replicate (p := (List.replicate n .fresh, start)) hone, hfirst,
    interleave_replicate (p := ((List.replicate n .fresh).set 1 walk, rest)) hzero, hsecond,
    interleave_replicate (p := (((List.replicate n .fresh).set 1 walk).set 0 walk', rest')) hagain]
  exact List.getElem?_set_self (by simp only [List.length_set, List.length_replicate]; omega)

end Resolver

/-! ### A store with every version -/

/-- **The store holds a structure**: every version of it up to the newest one. -/
structure Store.HoldsUpTo (store : Store) (id : StructureId) (newest : Loaded) : Prop where
  /-- The newest version is stored. -/
  stored : store.stored? id newest.version = some newest
  /-- So are the older ones. -/
  older : ∀ v, v.number ≤ newest.version.number → store.stored? id v ≠ none
  /-- There are no newer ones. -/
  newer : ∀ v, newest.version.number < v.number → store.stored? id v = none

/-- The versions can be read off the store. -/
theorem Store.HoldsUpTo.of_keys {store : Store} (hs : store.Faithful) {id : StructureId}
    {newest : Loaded} (hstored : store.stored? id newest.version = some newest)
    (hkeys : (store.versionsOf id.locator).keys =
      (List.range newest.version.number).map Version.after) : store.HoldsUpTo id newest where
  stored := hstored
  older v hv hnone := by
    have hone := v.one_le
    have hmem : v ∈ (store.versionsOf id.locator).keys := by
      rw [hkeys]
      refine List.mem_map.mpr ⟨v.number - 1, List.mem_range.mpr (by omega), ?_⟩
      exact Version.ext (Nat.sub_add_cancel hone)
    obtain ⟨⟨_, d⟩, hentry, rfl⟩ := List.mem_map.mp hmem
    have hget := (Table.get?_eq_some_iff (hs.nodup _)).mpr hentry
    unfold Store.stored? at hnone
    rw [hget] at hnone
    cases hnone
  newer v hv := by
    by_contra hsome
    obtain ⟨l, hl⟩ := Option.ne_none_iff_exists'.mp hsome
    obtain ⟨d, hd, -⟩ := Option.map_eq_some_iff.mp hl
    have hentry := (Table.get?_eq_some_iff (hs.nodup _)).mp hd
    have hmem : v ∈ (store.versionsOf id.locator).keys := List.mem_map.mpr ⟨_, hentry, rfl⟩
    rw [hkeys] at hmem
    obtain ⟨n, hn, rfl⟩ := List.mem_map.mp hmem
    have hlt := List.mem_range.mp hn
    rw [Version.number_after] at hv
    omega

section Holds

variable {store : Store} {checker : Checker} {window : Int} {id : StructureId}
  {subtopic : Option Subtopic} {newest : Loaded}

theorem Store.HoldsUpTo.not_hasGap (h : store.HoldsUpTo id newest) : ¬store.HasGap id := by
  rintro (hnone | ⟨v, w, hle, hv, hw⟩)
  · exact h.older newest.version (Nat.le_refl _) (hnone _)
  · refine h.older v (Nat.le_trans hle ?_) hv
    by_contra hlt
    exact hw (h.newer w (not_le.mp hlt))

/-- The newest version is served when it is asked for. -/
theorem Store.HoldsUpTo.served (h : store.HoldsUpTo id newest) (hs : store.Faithful) :
    store.served (.latest id.locator) = .ok [newest] :=
  Resolver.served_latest_of_stored? hs h.stored h.newer

theorem Store.HoldsUpTo.yields (h : store.HoldsUpTo id newest) (hs : store.Faithful)
    (result : Except FetchFailure (List Loaded))
    (hyields : store.source.Yields (.latest id.locator) result) : result = .ok [newest] :=
  (hyields.eq_served store.source_answers).trans (h.served hs)

/-- The history that a walk starts from is sound. -/
theorem Store.HoldsUpTo.sound_tracked (h : store.HoldsUpTo id newest) (hs : store.Faithful)
    (checker : Checker) (window : Int) (subtopic : Option Subtopic) :
    (Resolver.tracked (.ofStore store checker window) { id, subtopic } newest).Sound
      (.ofJudge store (checker.judge subtopic)) id := by
  have hdecides : Resolver.Decides (.ofJudge store (checker.judge subtopic)) store
      (.ofStore store checker window) { id, subtopic } := fun _ => rfl
  exact Resolver.sound_tracked hs hdecides (h.served hs)

/-- A search that starts from nothing ends, and so does the path of its walk. -/
theorem Store.HoldsUpTo.exists_path (h : store.HoldsUpTo id newest) (hs : store.Faithful)
    (checker : Checker) (window : Int) (subtopic : Option Subtopic) (remote : List Request) :
    ∃ k o rest, ((Resolver.ofStore store checker window).step { id, subtopic })^[k]
        (.fresh, { remote }) = (.ended o, rest) ∧
      ExceptT.run ((Resolver.ofStore store checker window).resolve id subtopic) { remote } =
        (.ok o, rest) := by
  obtain ⟨k, o, rest, hpath, hrun, -⟩ := Resolver.exists_path
    (F := .ofJudge store (checker.judge subtopic)) (r := .ofStore store checker window) hs
    store.source_answers checker.judge_ne_pending (fun _ => rfl) h.not_hasGap { remote }
    (fun _ hh => by cases hh)
  exact ⟨k, o, rest, hpath, hrun⟩

/-- Of a single walk, the others that a schedule may name do not matter. -/
theorem isHarmless_one (hs : store.Faithful) (h : store.HoldsUpTo id newest)
    (remote : List Request) :
    (Resolver.ofStore store checker window).IsHarmless id subtopic 1 { remote } := by
  obtain ⟨k, o, rest, hpath, hrun⟩ := h.exists_path hs checker window subtopic remote
  refine ⟨o, rest, hrun, k, ?_⟩
  intro schedule hschedule
  obtain ⟨more, hmore⟩ := Nat.exists_eq_add_of_le (hschedule 0 Nat.one_pos)
  refine ⟨rest, ?_, rfl⟩
  show Resolver.interleave _ _ ([.fresh], { remote }) schedule = ([.ended o], rest)
  rw [Resolver.interleave_singleton, hmore, Nat.add_comm, Function.iterate_add_apply, hpath,
    Resolver.iterate_ended]

/-- A search ends at the newest version if that is the only one or can be used. -/
theorem settled_tracked (store : Store) (window : Int) (hnewest : newest.version.number = 1 ∨
    checker.check subtopic newest = .compatible) :
    (Resolver.tracked (.ofStore store checker window) { id, subtopic } newest).Settled
      (checker.judge subtopic newest) := by
  unfold Resolver.tracked
  constructor
  · rw [History.newest_start]
    exact History.get?_start_newest ..
  · rw [History.newest_start]
    rcases hnewest with hone | hcompatible
    · cases hjudge : checker.judge subtopic newest with
      | pending => exact absurd hjudge (checker.judge_ne_pending _ _)
      | success l => exact Or.inl ⟨l, rfl⟩
      | failure reasons => exact Or.inr ⟨hone, reasons, rfl⟩
    · exact Or.inl ⟨newest, Checker.judge_eq_success_iff.mpr ⟨hcompatible, rfl⟩⟩

/-- A search that ends at the newest version tracks it and nothing else. -/
theorem Store.HoldsUpTo.exists_resolve (h : store.HoldsUpTo id newest) (hs : store.Faithful)
    (window : Int) (hnewest : newest.version.number = 1 ∨
      checker.check subtopic newest = .compatible) (remote : List Request) :
    ∃ alone, ExceptT.run ((Resolver.ofStore store checker window).resolve id subtopic) { remote } =
        (.ok (checker.judge subtopic newest), alone) ∧
      alone.cache =
        Resolver.newestOnly (.ofStore store checker window) { id, subtopic } newest := by
  obtain ⟨k, o, alone, hpath, hrun⟩ := h.exists_path hs checker window subtopic remote
  -- the search is a schedule of one walk
  have hcount : ∀ place < 1, Load.visits store.source ≤
      (List.replicate (Load.visits store.source + k) 0).count place := by
    intro place hplace
    rw [Nat.lt_one_iff.mp hplace, List.count_replicate_self]
    exact Nat.le_add_right _ _
  obtain ⟨rest, hinterleave, hcache⟩ := Resolver.interleave_of_settled (h.yields hs)
    (settled_tracked store window hnewest) (Nat.le_refl 1) hcount remote
  have hsame : ([Walk.ended o], alone) = ([.ended (checker.judge subtopic newest)], rest) := by
    refine Eq.trans ?_ hinterleave
    show _ = Resolver.interleave _ _ ([.fresh], { remote }) _
    rw [Resolver.interleave_singleton, List.count_replicate_self, Function.iterate_add_apply,
      hpath, Resolver.iterate_ended]
  obtain ⟨hended, rfl⟩ := Prod.mk.inj hsame
  obtain rfl := Walk.ended.inj (List.singleton_inj.mp hended)
  exact ⟨alone, hrun, hcache⟩

/-- Walks are harmless if a search ends at the newest version. -/
theorem isHarmless_of_newest (hs : store.Faithful) (h : store.HoldsUpTo id newest)
    (hnewest : newest.version.number = 1 ∨ checker.check subtopic newest = .compatible) {n : Nat}
    (hn : 1 ≤ n) (remote : List Request) :
    (Resolver.ofStore store checker window).IsHarmless id subtopic n { remote } := by
  obtain ⟨alone, hrun, hcache⟩ := h.exists_resolve hs window hnewest remote
  refine ⟨_, alone, hrun, Load.visits store.source, ?_⟩
  intro schedule hschedule
  obtain ⟨rest, hinterleave, hcache'⟩ := Resolver.interleave_of_settled (h.yields hs)
    (settled_tracked store window hnewest) hn hschedule remote
  exact ⟨rest, hinterleave, hcache'.trans hcache.symm⟩

/-- If the newest version failed and there is an older one, a search does not end at it. -/
theorem Store.HoldsUpTo.newest_lt (h : store.HoldsUpTo id newest)
    (htwo : 2 ≤ newest.version.number) {reasons : List Rejection}
    (hfailure : checker.judge subtopic newest = .failure reasons) {left : History Loaded}
    (hsound : left.Sound
      (.ofJudge store (checker.judge subtopic)) id)
    {o : Outcome Loaded} (hsettled : left.Settled o) :
    left.newest.number < newest.version.number := by
  have hverdict : (store.stored? id left.newest).map (checker.judge subtopic) = some o :=
    hsound.verdict_eq hsettled.newest hsettled.ne_pending
  by_contra hge
  rcases Nat.lt_or_eq_of_le (not_lt.mp hge) with hlt | heq
  · rw [h.newer _ hlt] at hverdict
    cases hverdict
  · rw [← Version.ext heq, h.stored, Option.map_some, hfailure] at hverdict
    obtain rfl := Option.some.inj hverdict
    rcases hsettled.last with ⟨l, hl⟩ | ⟨hone, -⟩
    · cases hl
    · omega

/-- **Walks are not harmless** if the newest version failed and there is an older one: a walk is
overtaken. -/
theorem not_isHarmless (hs : store.Faithful) (h : store.HoldsUpTo id newest)
    (htwo : 2 ≤ newest.version.number) {reasons : List Rejection}
    (hfailure : checker.judge subtopic newest = .failure reasons) {n : Nat} (hn : 2 ≤ n)
    (remote : List Request) :
    ¬(Resolver.ofStore store checker window).IsHarmless id subtopic n { remote } := by
  rintro ⟨o, alone, -, enough, hall⟩
  obtain ⟨m, hversion⟩ : ∃ m, newest.version = .after (m + 1) :=
    ⟨newest.version.number - 2, Version.ext (by rw [Version.number_after]; omega)⟩
  obtain ⟨first, batch, load, rest, hfirst, hreached, hcache⟩ := Resolver.exists_waiting
    (r := .ofStore store checker window) (e := { id, subtopic }) rfl (h.yields hs) hversion hfailure
    (Load.visits store.source) .fresh { remote } (Nat.le_refl _) rfl
  -- another walk goes on from the newest version to its end
  have hhistory : rest.cache.history? id =
      some (Resolver.tracked (.ofStore store checker window) { id, subtopic } newest) := by
    rw [hcache]
    exact Resolver.history?_newestOnly
  have hsound := h.sound_tracked hs checker window subtopic
  obtain ⟨second, o', rest', hsecond, -, left, hleft, hsound', hsettled⟩ := Resolver.exists_path
    (r := .ofStore store checker window) hs store.source_answers checker.judge_ne_pending
    (fun _ => rfl) h.not_hasGap rest
    (fun h' hh' => by
      rw [hhistory] at hh'
      exact Option.some.inj hh' ▸ hsound)
  have hlt := h.newest_lt htwo hfailure hsound' hsettled
  -- by the end of the schedule the first walk must have ended, but an overtaken walk never does
  obtain ⟨final, hfinal, -⟩ := hall (Resolver.overtaking first second enough n) fun place hplace =>
    Resolver.le_count_overtaking hplace
  have hwalk := Resolver.getElem?_interleave_overtaking enough hn hfirst hsecond
  rw [hfinal, List.getElem?_replicate_of_lt hn] at hwalk
  have hovertaken : Resolver.Overtaken (.ofStore store checker window) { id, subtopic }
      (.after (m + 1)) (.after m)
      (.loading (.version (.after m) (some (.after (m + 1))) batch) load) rest' :=
    Or.inl ⟨batch, load, left, rfl, hreached, hleft, hversion ▸ hlt⟩
  exact (hovertaken.iterate enough).ne_ended o (Option.some.inj hwalk).symm

end Holds

/-! ### When walks are harmless -/

/-- **Walks for the same structure are harmless in three cases only**: there is one of them, there
is one version, or the newest version can be used. -/
theorem isHarmless_iff (documents : List Document) (translations : List Translation)
    (checker : Checker) (window : Int) (id : StructureId) (subtopic : Option Subtopic)
    (newest : Loaded) (h : (Store.ofContents documents translations).HoldsUpTo id newest) (n : Nat)
    (hn : 1 ≤ n) :
    (Resolver.ofStore (Store.ofContents documents translations) checker window).IsHarmless id
        subtopic n { remote := [] } ↔
      n = 1 ∨ newest.version.number = 1 ∨ checker.check subtopic newest = .compatible := by
  have hs := Store.faithful_ofContents documents translations
  constructor
  · intro hharmless
    by_contra hnot
    rw [not_or, not_or] at hnot
    obtain ⟨hone, hversion, hcheck⟩ := hnot
    have hfirst := newest.version.one_le
    cases hjudge : checker.judge subtopic newest with
    | pending => exact checker.judge_ne_pending _ _ hjudge
    | success l => exact hcheck (Checker.judge_eq_success_iff.mp hjudge).1
    | failure reasons => exact not_isHarmless hs h (by omega) hjudge (by omega) [] hharmless
  · rintro (rfl | hnewest)
    · exact isHarmless_one hs h []
    · exact isHarmless_of_newest hs h hnewest hn []

namespace Redundant

/-- A version of a story that can be used. -/
def older : Story := { id := "s", version := .first }

/-- A version of the story that is blocked. -/
def newer : Story := { id := "s", version := .after 1 }

/-- Both versions. -/
def store : Store := .ofContents [.story older, .story newer] []

/-- The checker that rejects the newer version. -/
def checker : Checker := BlockedVersions.checker
  [{ kind := "story", id := "s", versions := some [2], reasons := ["blocked"] }]

theorem holdsUpTo : store.HoldsUpTo (.story "s") (.story newer) :=
  .of_keys (Store.faithful_ofContents ..) (by decide +kernel) (by decide +kernel)

/-- One walk is harmless and two are not. -/
theorem isHarmless_one_not_two :
    (Resolver.ofStore store checker 1).IsHarmless (.story "s") none 1 { remote := [] } ∧
      ¬(Resolver.ofStore store checker 1).IsHarmless (.story "s") none 2 { remote := [] } := by
  refine ⟨(isHarmless_iff _ [] checker 1 (.story "s") none (.story newer) holdsUpTo 1
    (by decide)).mpr (Or.inl rfl), ?_⟩
  intro hharmless
  rcases (isHarmless_iff _ [] checker 1 (.story "s") none (.story newer) holdsUpTo 2
    (by decide)).mp hharmless with hone | hversion | hcheck
  · exact absurd hone (by decide)
  · exact absurd hversion (by decide)
  · exact absurd hcheck (by decide +kernel)

/-- **The second of two walks fails** when they take turns: it drops the newer version again. A
search on its own finds the older version. -/
theorem drops_twice :
    store.HoldsUpTo (.story "s") (.story newer) ∧
      (ExceptT.run ((Resolver.ofStore store checker 1).resolve (.story "s")) { remote := [] }).1 =
        .ok (.success (.story older)) ∧
      ((Resolver.ofStore store checker 1).interleave { id := .story "s" }
        ([.fresh, .fresh], { remote := [] }) [0, 1, 0, 1, 0, 1]).1.map (fun
          | .failed (.misuse what) _ => some what
          | _ => none) = [none, some (.notNewest ⟨.story "s", .after 1⟩)] :=
  ⟨holdsUpTo, by decide +kernel, by decide +kernel⟩

end Redundant

end ContentPack
