import ContentPack.Proofs.Search.Path

/-!
# Walks that learn the newest version

A walk `Seeks` the newest version until it is served. What it does then depends on the cache alone:
it goes down from there (`Resolver.ensures_visit_seeks`). If a search ends at the newest version,
so does the walk (`Resolver.ensures_enter_settled`); if the newest version failed, the walk waits
for the one below it (`Resolver.ensures_enter_failure`).
-/

namespace ContentPack.Resolver

open Work

variable {α σ : Type} {r : Resolver α σ} {e : Errand} {newest : Loaded} {s : Session α σ}
  {walk : Walk α} {k : Nat} {Q : Walk α → Session α σ → Prop}

/-- A walk that has not learned the newest version, but has after `k` visits. -/
def Seeks (r : Resolver α σ) (e : Errand) (k : Nat) : Walk α → Prop
  | .fresh => Load.visits r.source ≤ k
  | .loading .newest load =>
    1 ≤ k ∧ load.Within r.source k ∧ load.Reached r.source (.latest e.id.locator)
  | _ => False

/-- Such a walk has not started, or it asks for the newest version; there are visits to go. -/
theorem Seeks.cases (h : Seeks r e k walk) :
    1 ≤ k ∧ ((walk = .fresh ∧ Load.visits r.source ≤ k) ∨
      ∃ load, walk = .loading .newest load ∧ load.Within r.source k ∧
        load.Reached r.source (.latest e.id.locator)) := by
  cases walk with
  | fresh => exact ⟨Nat.le_trans (Load.one_le_visits _) h, Or.inl ⟨rfl, h⟩⟩
  | loading purpose load =>
    cases purpose with
    | newest =>
      obtain ⟨hk, hload⟩ := h
      exact ⟨hk, Or.inr ⟨load, rfl, hload⟩⟩
    | version v lastInvalid batch => exact h.elim
    | oldest v batch => exact h.elim
  | failed error load => exact h.elim
  | ended outcome => exact h.elim

/-- After its last visit a walk has learned the newest version. -/
theorem not_seeks_zero : ¬Seeks r e 0 walk :=
  fun h => absurd h.cases.1 (Nat.not_succ_le_zero 0)

/-- What is done with a walk after it has gone down: one that waits is looked at. -/
structure Pursues (r : Resolver α σ) (e : Errand) (goOn : Walk α → Work α σ (Walk α)) :
    Prop where
  /-- A walk that has ended stays where it is. -/
  ended : ∀ o, goOn (.ended o) = pure (.ended o)
  /-- A walk that waits for a version is looked at. -/
  version : ∀ v lastInvalid batch load, ∃ next,
    goOn (.loading (.version v lastInvalid batch) load) =
      r.look e (.version v lastInvalid batch) load next

theorem pursues_advance (r : Resolver α σ) (e : Errand) :
    Pursues r e (r.advance e) :=
  ⟨fun _ => rfl, fun _ _ _ _ => ⟨_, rfl⟩⟩

theorem pursues_pursue (r : Resolver α σ) (e : Errand) :
    Pursues r e fun walk => r.pursue e walk.loadsLeft walk :=
  ⟨fun _ => rfl, fun _ _ _ _ => ⟨_, rfl⟩⟩

/-- Once a structure is tracked, it is not tracked again. -/
theorem ensures_track (hcache : s.cache.history? e.id = none ∨
    s.cache.history? e.id = some (tracked r e newest)) :
    Ensures (r.track e newest) s (fun _ rest => rest = s.withHistory e.id (tracked r e newest))
      (fun _ _ => False) := by
  unfold track
  rw [ensures_bind, ensures_get]
  rcases hcache with hnone | hsome
  · rw [Cache.tracks_of_none hnone]
    unfold tracked
    exact rfl
  · rw [Cache.tracks_of_history? hsome, if_pos rfl, ensures_pure,
      s.withHistory_of_history? _ _ hsome]

/-- A look at a walk that seeks the newest version. -/
theorem ensures_look_seeks
    (hserved : ∀ result, r.source.Yields (.latest e.id.locator) result → result = .ok [newest])
    (hcache : s.cache.history? e.id = none ∨ s.cache.history? e.id = some (tracked r e newest))
    {load : Load} (hseeks : Seeks r e k (.loading .newest load))
    (hwait : ∀ walk' remote, Seeks r e (k - 1) walk' → Q walk' { s with remote })
    (henter : ∀ remote goOn, Pursues r e goOn →
      Ensures (r.enter e >>= goOn) ({ s with remote }.withHistory e.id (tracked r e newest)) Q
        (fun _ _ => False)) :
    Ensures (r.advance e (.loading .newest load)) s Q (fun _ _ => False) := by
  obtain ⟨hk, hload, hreached⟩ := hseeks
  refine ensures_look hreached ?_ ?_ ?_
  · intro load' remote _ _ hreached' hnext hpositive
    have hload' := hnext (k - 1) (by rwa [Nat.sub_add_cancel hk])
    exact hwait _ remote ⟨hpositive _ hload', hload', hreached'⟩
  · intro failure parts remote _ hyields
    cases hserved _ hyields
  · intro loaded _ remote _ hyields
    obtain rfl := Except.ok.inj (hserved _ hyields)
    have henter' := henter remote _ (pursues_pursue r e)
    rw [ensures_bind] at henter' ⊢
    unfold resume
    show Ensures (forM [newest] (r.track e) >>= fun _ => r.enter e) _ _ _
    rw [List.forM_cons, List.forM_nil, ensures_bind, ensures_bind]
    refine (ensures_track (s := { s with remote }) hcache).mono ?_ (fun _ _ => id)
    rintro _ _ rfl
    exact henter'

/-- **A visit of a walk that seeks the newest version**: it still seeks it, or it goes down from
it. -/
theorem ensures_visit_seeks
    (hserved : ∀ result, r.source.Yields (.latest e.id.locator) result → result = .ok [newest])
    (hcache : s.cache.history? e.id = none ∨ s.cache.history? e.id = some (tracked r e newest))
    (hseeks : Seeks r e k walk)
    (hwait : ∀ walk' remote, Seeks r e (k - 1) walk' → Q walk' { s with remote })
    (henter : ∀ remote goOn, Pursues r e goOn →
      Ensures (r.enter e >>= goOn) ({ s with remote }.withHistory e.id (tracked r e newest)) Q
        (fun _ _ => False)) :
    Ensures (r.visit e walk) s Q (fun _ _ => False) := by
  unfold visit
  rw [ensures_tryCatch]
  refine Ensures.mono (Q := Q) (E := fun _ _ => False) ?_ (fun _ _ => id)
    (fun _ _ hfalse => hfalse.elim)
  obtain ⟨hone, ⟨rfl, hvisits⟩ | ⟨load, rfl, hload⟩⟩ := hseeks.cases
  · -- a walk that starts asks for the newest version, unless another one has tracked it
    simp only
    unfold begin
    rw [ensures_bind, ensures_bind, ensures_get]
    rcases hcache with hnone | hsome
    · rw [Cache.tracks_of_none hnone]
      exact ensures_look_seeks hserved (Or.inl hnone)
        ⟨hone, (Load.within_ask r.source _).mono hvisits, .ask⟩ hwait henter
    · rw [Cache.tracks_of_history? hsome, if_pos rfl]
      have henter' := henter s.remote _ (pursues_advance r e)
      rw [ensures_bind] at henter'
      have hsame : ({ s with remote := s.remote }.withHistory e.id (tracked r e newest)) = s :=
        s.withHistory_of_history? _ _ hsome
      rw [hsame] at henter'
      exact henter'
  · exact ensures_look_seeks hserved hcache ⟨hone, hload⟩ hwait henter

/-- A walk ends at once where a search ends. -/
theorem ensures_enter_settled {h : History α} (hh : s.cache.history? e.id = some h)
    {o : Outcome α} (hsettled : h.Settled o) {goOn : Walk α → Work α σ (Walk α)}
    (hgoOn : Pursues r e goOn) (hended : Q (.ended o) s) :
    Ensures (r.enter e >>= goOn) s Q (fun _ _ => False) := by
  rw [ensures_bind]
  refine (ensures_enter hh).mono ?_ (fun _ _ => id)
  rintro walk _ ⟨h', rfl, t, hhalts⟩
  obtain rfl := hsettled.eq_of_trims t
  obtain rfl := hhalts.standing.eq_ended hsettled
  rw [hgoOn.ended, ensures_pure, s.withHistory_of_history? _ _ hh]
  exact hended

/-! ### Walks that have to wait -/

section Store

variable {store : Store} {r : Resolver Loaded (List Request)} {s : Session Loaded (List Request)}
  {Q : Walk Loaded → Session Loaded (List Request) → Prop}

/-- The first look at a load from a store finds no answer. -/
theorem ensures_look_ask (hr : r.source = store.source) {purpose : Purpose} {request : Request}
    {goOn : Walk Loaded → Work Loaded (List Request) (Walk Loaded)}
    (hwait : ∀ load remote, load.Reached r.source request →
      Q (.loading purpose load) { s with remote }) :
    Ensures (r.look e purpose (Load.ask r.source.delays request) goOn) s Q (fun _ _ => False) := by
  have hvisit : (Load.ask r.source.delays request).visit r.source s.remote =
      (.asking request (.waiting 0), s.remote ++ [request]) := by
    rw [hr]
    rfl
  have hreached : ((Load.ask r.source.delays request).visit r.source s.remote).1.Reached r.source
      request := .visit .ask s.remote
  rw [hvisit] at hreached
  unfold look
  rw [ensures_bind, ensures_ask, hvisit]
  exact hwait _ _ hreached

/-- If the newest version failed, a walk waits for the one below it. -/
theorem ensures_enter_failure (hr : r.source = store.source) {n : Nat} {reasons : List Rejection}
    (hh : s.cache.history? e.id = some (tracked r e newest))
    (hversion : newest.version = .after (n + 1))
    (hfailure : r.judge e.subtopic newest = .failure reasons)
    {goOn : Walk Loaded → Work Loaded (List Request) (Walk Loaded)} (hgoOn : Pursues r e goOn)
    (hwait : ∀ batch load remote, load.Reached r.source (versionsRequest e batch) →
      Q (.loading (.version (.after n) (some (.after (n + 1))) batch) load) { s with remote }) :
    Ensures (r.enter e >>= goOn) s Q (fun _ _ => False) := by
  have hstart : (tracked r e newest).newest = .after (n + 1) := by
    unfold tracked
    rw [History.newest_start, hversion]
  have hnewest : s.cache.newest e.id = .ok ⟨e.id, .after (n + 1)⟩ := by
    rw [← hstart]
    exact Cache.newest_of_history? hh
  have hfailed : s.cache.get ⟨e.id, .after (n + 1)⟩ = .ok (.failure reasons) := by
    refine Cache.get_of_history? hh ?_
    rw [← hfailure, ← hversion]
    exact History.get?_start_newest ..
  -- everything below the newest version is pending
  have hpending : s.cache.get ⟨e.id, .after n⟩ = .ok .pending := by
    refine Cache.get_of_history? hh (History.get?_start_of_lt _ _ ?_)
    rw [hversion]
    exact Nat.lt_succ_self _
  obtain ⟨below, hbelow⟩ : ∃ below, r.descend e n (some (.after (n + 1))) =
      r.arrive e (.after n) (some (.after (n + 1))) below := by
    cases n <;> exact ⟨_, rfl⟩
  let batch := r.batch (tracked r e newest) (.after n)
  have hwindow : s.cache.pendingWindow ⟨e.id, .after n⟩ r.window = .ok batch :=
    Cache.pendingWindow_of_history? hh (.after n) r.window
  unfold enter
  rw [ensures_bind, ensures_bind, ensures_readCache_ok hnewest]
  show Ensures (r.descend e (n + 1) none) s _ _
  unfold descend arrive
  rw [ensures_bind, ensures_readCache_ok hfailed]
  -- nothing is dropped above the newest version
  show Ensures (r.descend e n (some (.after (n + 1)))) s _ _
  rw [hbelow]
  unfold arrive
  rw [ensures_bind, ensures_readCache_ok hpending]
  show Ensures (r.loadVersion e (.after n) (.version (.after n) (some (.after (n + 1))))) s _ _
  unfold loadVersion
  rw [ensures_bind, ensures_readCache_ok hwindow, ensures_pure]
  obtain ⟨next, hnext⟩ := hgoOn.version (.after n) (some (.after (n + 1))) batch
    (Load.ask r.source.delays (versionsRequest e batch))
  show Ensures (goOn (.loading _ (Load.ask r.source.delays (versionsRequest e batch)))) s _ _
  rw [hnext]
  exact ensures_look_ask hr fun load remote hreached => hwait _ _ remote hreached

end Store

end ContentPack.Resolver
