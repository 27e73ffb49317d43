import ContentPack.Proofs.Search.Descent
import ContentPack.Proofs.Search.Pace

/-!
# What one visit does to a walk

A `WalkInvariant` is what a walk keeps of the history of its structure and of the source that it
asks, whatever that answers. A walk that works on a structure alone (`Resolver.Lone`) still does so
after every visit: once the load that it waits for has ended, its versions are written to the
history and the walk goes down to the next pending version (`ensures_visit_comes`). The only
failures are those of requests. A visit brings such a walk closer to its end, as it does any walk
(`ensures_visit`).

A search that does not look at the source is given by what it keeps of the history alone
(`SearchInvariant`).
-/

namespace ContentPack.Resolver

open Work

variable {α σ : Type} {r : Resolver α σ} {e : Errand} {s : Session α σ} {h : History α}
  {v : Version} {lastInvalid : Option Version}

/-! ### The end of a load -/

/-- The newest version of a structure, and nothing but pending ones below it. -/
def tracked (r : Resolver α σ) (e : Errand) (newest : Loaded) : History α :=
  .start newest.version e.subtopic (r.judge e.subtopic newest)

/-- The outcomes of the versions of a batch. -/
def entries (r : Resolver α σ) (e : Errand) (batch : List Version) (loaded : List Loaded) :
    List (Version × Outcome α) :=
  (batch.zip loaded).map fun entry => (entry.1, r.judge e.subtopic entry.2)

theorem map_fst_entries {batch : List Version} {loaded : List Loaded}
    (hlength : loaded.length = batch.length) :
    (entries r e batch loaded).map (·.1) = batch := by
  unfold entries
  rw [List.map_map]
  exact List.map_fst_zip (Nat.le_of_eq hlength.symm)

section Found

variable {r : Resolver Loaded σ} {checker : Checker} {h : History Loaded}
  {P : Version → Loaded → Prop}

/-- A resolver that judges by a checker decides everything that is loaded. -/
theorem judge_decides (hjudge : r.judge = checker.judge) (subtopic : Option Subtopic) (l : Loaded) :
    r.judge subtopic l ≠ .pending := by
  rw [hjudge]
  exact checker.judge_ne_pending subtopic l

theorem judge_decides_errand (hjudge : r.judge = checker.judge) (e : Errand) (l : Loaded) :
    r.judge e.subtopic l ≠ .pending :=
  judge_decides hjudge e.subtopic l

theorem allFound_tracked (hjudge : r.judge = checker.judge) {l : Loaded} (hl : P l.version l) :
    (r.tracked e l).AllFound P := by
  refine History.allFound_start e.subtopic fun l' hsuccess => ?_
  rw [hjudge] at hsuccess
  obtain ⟨-, rfl⟩ := Checker.judge_eq_success_iff.mp hsuccess
  exact hl

theorem allFound_write (hjudge : r.judge = checker.judge) (hall : h.AllFound P)
    {batch : List Version} {loaded : List Loaded}
    (hentries : ∀ entry ∈ batch.zip loaded, P entry.1 entry.2) :
    (h.write (entries r e batch loaded)).AllFound P := by
  refine hall.write fun entry hentry l hsuccess => ?_
  obtain ⟨pair, hpair, rfl⟩ := List.mem_map.mp hentry
  simp only [hjudge] at hsuccess
  obtain ⟨-, rfl⟩ := Checker.judge_eq_success_iff.mp hsuccess
  exact hentries pair hpair

end Found

/-- The outcomes of a batch are written. -/
theorem ensures_store {batch : List Version} {loaded : List Loaded}
    (hh : s.cache.history? e.id = some h) (hlength : loaded.length = batch.length) :
    Ensures (r.store e batch loaded) s
      (fun _ rest => rest = s.withHistory e.id (h.write (entries r e batch loaded)))
      (fun _ _ => False) := by
  have hlen : ¬loaded.length ≠ batch.length := fun hne => hne hlength
  -- by induction on what is written, in any session
  have hall : ∀ (pairs : List (Version × Loaded)) {s : Session α σ} {h : History α},
      s.cache.history? e.id = some h →
      Ensures (forM pairs fun pair =>
        changeCache (·.put ⟨e.id, pair.1⟩ (r.judge e.subtopic pair.2))) s
      (fun _ rest => rest = s.withHistory e.id
        (h.write (pairs.map fun entry => (entry.1, r.judge e.subtopic entry.2))))
      (fun _ _ => False) := by
    intro pairs
    induction pairs with
    | nil =>
      intro s h hh
      exact (s.withHistory_of_history? _ _ hh).symm
    | cons pair rest ih =>
      intro s h hh
      have hput := Cache.put_of_history? hh pair.1 (r.judge e.subtopic pair.2)
      rw [List.forM_cons, ensures_bind, ensures_changeCache_ok hput]
      refine (ih (Session.history?_withHistory s e.id _)).mono ?_ (fun _ _ => id)
      rintro _ _ rfl
      exact Session.withHistory_withHistory ..
  unfold store
  rw [if_neg hlen]
  exact hall _ hh

/-- If another number of structures came than was asked for, the load failed. -/
theorem ensures_store_of_ne {batch : List Version} {loaded : List Loaded}
    (hlength : loaded.length ≠ batch.length) :
    Ensures (r.store e batch loaded) s (fun _ _ => False)
      (fun error rest => (∃ failure, error = .fetch failure) ∧ rest = s) := by
  unfold store
  rw [if_pos hlength]
  exact ⟨⟨_, rfl⟩, rfl⟩

/-! ### What a walk keeps -/

/-- **What a walk keeps** of the history of its structure, if that is tracked, and of the state of
the source that it asks. -/
structure WalkInvariant (r : Resolver α σ) (e : Errand) where
  /-- What holds while nothing is asked for. -/
  Rests : Option (History α) → σ → Prop
  /-- What holds while a load for a request is under way. -/
  Awaits : Option (History α) → Request → Load → σ → Prop
  /-- What holds once a load has failed. -/
  Fails : Option (History α) → σ → Prop
  /-- What the walk may do to the source. -/
  Moves : σ → σ → Prop
  /-- What others may do to the source. -/
  Bears : σ → σ → Prop
  /-- Every version that is loaded is decided. -/
  decided : ∀ l, r.judge e.subtopic l ≠ .pending
  moves_refl : ∀ st, Moves st st
  moves_trans : ∀ {st st' st''}, Moves st st' → Moves st' st'' → Moves st st''
  bears_rests : ∀ {known st st'}, Bears st st' → Rests known st → Rests known st'
  bears_awaits : ∀ {known request load st st'}, Bears st st' → Awaits known request load st →
    Awaits known request load st'
  /-- Failures may be dropped from the top. -/
  trims : ∀ {h h' st}, Rests (some h) st → h.Trims h' → Rests (some h') st
  /-- The newest version may be asked for. -/
  opens : ∀ {st}, Rests none st →
    Awaits none (.latest e.id.locator) (Load.ask r.source.delays (.latest e.id.locator)) st
  /-- The version that the walk has come to may be asked for. -/
  asks : ∀ {h st v lastInvalid}, Rests (some h) st → h.At v lastInvalid →
    h.get? v = some .pending →
    Awaits (some h) (versionsRequest e (r.batch h v))
      (Load.ask r.source.delays (versionsRequest e (r.batch h v))) st
  /-- A load may be looked at. -/
  looks : ∀ {known request load st}, Awaits known request load st →
    Moves st (load.visit r.source st).2
  /-- A load may still be under way after it was looked at. -/
  waits : ∀ {known request load load' st st'}, Awaits known request load st →
    load.visit r.source st = (load', st') → (∀ result parts, load' ≠ .ended result parts) →
    Awaits known request load' st'
  /-- The structure may be tracked from its newest version. -/
  start : ∀ {load l parts st st'}, Awaits none (.latest e.id.locator) load st →
    load.visit r.source st = (.ended (.ok [l]) parts, st') →
    r.source.Yields (.latest e.id.locator) (.ok [l]) → Rests (some (r.tracked e l)) st'
  /-- The newest version may not be served. -/
  unknown : ∀ {load failure parts st st'}, Awaits none (.latest e.id.locator) load st →
    load.visit r.source st = (.ended (.error failure) parts, st') →
    r.source.Yields (.latest e.id.locator) (.error failure) → Fails none st'
  /-- The versions that a walk waits for may be written. -/
  learn : ∀ {h v lastInvalid load loaded parts st st'},
    Awaits (some h) (versionsRequest e (r.batch h v)) load st → h.At v lastInvalid →
    h.get? v = some .pending →
    load.visit r.source st = (.ended (.ok loaded) parts, st') →
    r.source.Yields (versionsRequest e (r.batch h v)) (.ok loaded) →
    loaded.length = (r.batch h v).length →
    Rests (some (h.write (entries r e (r.batch h v) loaded))) st'
  /-- They may not be served. -/
  refused : ∀ {h v lastInvalid load failure parts st st'},
    Awaits (some h) (versionsRequest e (r.batch h v)) load st → h.At v lastInvalid →
    h.get? v = some .pending →
    load.visit r.source st = (.ended (.error failure) parts, st') →
    r.source.Yields (versionsRequest e (r.batch h v)) (.error failure) → Fails (some h) st'
  /-- Another number of versions may be served. -/
  miscounted : ∀ {h v lastInvalid load loaded parts st st'},
    Awaits (some h) (versionsRequest e (r.batch h v)) load st → h.At v lastInvalid →
    h.get? v = some .pending →
    load.visit r.source st = (.ended (.ok loaded) parts, st') →
    r.source.Yields (versionsRequest e (r.batch h v)) (.ok loaded) →
    loaded.length ≠ (r.batch h v).length → Fails (some h) st'

variable {W : WalkInvariant r e}

/-- What holds of a walk that knows the newest version. -/
def WalkInvariant.Keeps (W : WalkInvariant r e) (h : History α) (walk : Walk α) (st : σ) : Prop :=
  match walk with
  | .loading (.version _ _ batch) load => W.Awaits (some h) (versionsRequest e batch) load st
  | _ => W.Rests (some h) st

/-- A walk that comes to a halt may ask for the version that it needs. -/
theorem Halts.keeps {walk : Walk α} {st : σ} (hhalts : Halts r e h walk)
    (hrests : W.Rests (some h) st) : W.Keeps h walk st := by
  cases hhalts with
  | asks hat pending => exact W.asks hrests hat pending
  | ended settled => exact hrests

/-- What is left of the history of a structure is not newer than what there was. -/
def Lowers (id : StructureId) (cache : Cache α) (h : History α) : Prop :=
  ∀ h₀, cache.history? id = some h₀ → h.newest.number ≤ h₀.newest.number

theorem lowers_of_trims {cache : Cache α} {id : StructureId} {h h' : History α}
    (hh : cache.history? id = some h) (t : h.Trims h') : Lowers id cache h' := by
  intro h₀ hh₀
  rw [hh] at hh₀
  rw [← Option.some.inj hh₀]
  exact t.newest_le

theorem lowers_of_none {cache : Cache α} {id : StructureId} {h : History α}
    (hh : cache.history? id = none) : Lowers id cache h := by
  intro h₀ hh₀
  rw [hh] at hh₀
  cases hh₀

/-- No history but that of one structure was touched, and nothing newer is tracked in that one. -/
def Touches (id : StructureId) (cache cache' : Cache α) : Prop :=
  cache' = cache ∨ ∃ h, cache' = cache.withHistory id h ∧ Lowers id cache h

theorem Touches.trans {id : StructureId} {cache cache' cache'' : Cache α}
    (h : Touches id cache cache') (h' : Touches id cache' cache'') : Touches id cache cache'' := by
  rcases h with rfl | ⟨first, rfl, hfirst⟩
  · exact h'
  · rcases h' with rfl | ⟨second, rfl, hsecond⟩
    · exact Or.inr ⟨first, rfl, hfirst⟩
    · refine Or.inr ⟨second, Cache.withHistory_withHistory .., ?_⟩
      intro h₀ hh₀
      exact Nat.le_trans (hsecond first (Cache.history?_withHistory_self ..)) (hfirst h₀ hh₀)

/-- **What a walk affects**: no history but that of its structure, and the source as it may. -/
structure Affects (W : WalkInvariant r e) (s rest : Session α σ) : Prop where
  /-- No other history is touched, and nothing newer is tracked in this one. -/
  touches : Touches e.id s.cache rest.cache
  /-- The source was asked. -/
  moves : W.Moves s.remote rest.remote

theorem Affects.refl (s : Session α σ) : Affects W s s := ⟨Or.inl rfl, W.moves_refl _⟩

theorem Affects.withHistory (hlowers : Lowers e.id s.cache h) :
    Affects W s (s.withHistory e.id h) :=
  ⟨Or.inr ⟨h, rfl, hlowers⟩, W.moves_refl _⟩

theorem Affects.trans {s' s'' : Session α σ} (h : Affects W s s') (h' : Affects W s' s'') :
    Affects W s s'' :=
  ⟨h.touches.trans h'.touches, W.moves_trans h.moves h'.moves⟩

/-- A walk is given up because a request has failed. -/
def Quits (W : WalkInvariant r e) (s rest : Session α σ) : Prop :=
  W.Fails (rest.cache.history? e.id) rest.remote ∧ Affects W s rest

/-- The errors that a walk is given up with. -/
def QuitsWith (W : WalkInvariant r e) (s : Session α σ) (error : Error) (rest : Session α σ) :
    Prop :=
  (∃ failure, error = .fetch failure) ∧ Quits W s rest

/-- A request has failed, and so has the walk. -/
def Refused (W : WalkInvariant r e) (walk : Walk α) (rest : Session α σ) : Prop :=
  ∃ failure load, walk = .failed (.fetch failure) load ∧
    W.Fails (rest.cache.history? e.id) rest.remote

/-- **Where a walk stands**: in a history as the walk keeps it. -/
def Stands (W : WalkInvariant r e) (s : Session α σ) (walk : Walk α) (rest : Session α σ) : Prop :=
  ∃ h, rest.cache.history? e.id = some h ∧ Affects W s rest ∧ W.Keeps h walk rest.remote ∧
    Standing r e h walk

/-- **Where a walk goes on**: it stands in the history, or a request has failed. -/
def Goes (W : WalkInvariant r e) (s : Session α σ) (walk : Walk α) (rest : Session α σ) : Prop :=
  Stands W s walk rest ∨ (Refused W walk rest ∧ Affects W s rest)

/-- What was done before does not matter. -/
theorem QuitsWith.of_affects {s' rest : Session α σ} {error : Error} (haffects : Affects W s s')
    (hquits : QuitsWith W s' error rest) : QuitsWith W s error rest :=
  ⟨hquits.1, hquits.2.1, haffects.trans hquits.2.2⟩

theorem Stands.of_affects {s' : Session α σ} {walk : Walk α} {rest : Session α σ}
    (haffects : Affects W s s') (hstands : Stands W s' walk rest) : Stands W s walk rest := by
  obtain ⟨h, hh, haffects', hcase⟩ := hstands
  exact ⟨h, hh, haffects.trans haffects', hcase⟩

theorem Goes.of_affects {s' : Session α σ} {walk : Walk α} {rest : Session α σ}
    (haffects : Affects W s s') (hgoes : Goes W s' walk rest) : Goes W s walk rest :=
  hgoes.imp (.of_affects haffects) fun hrefused => ⟨hrefused.1, haffects.trans hrefused.2⟩

theorem Stops.stands {walk : Walk α} {rest : Session α σ} (hh : s.cache.history? e.id = some h)
    (hrests : W.Rests (some h) s.remote) (hstops : Stops r e s h walk rest) :
    Stands W s walk rest := by
  obtain ⟨h', rfl, t, hhalts⟩ := hstops
  exact ⟨h', Session.history?_withHistory .., .withHistory (lowers_of_trims hh t),
    hhalts.keeps (W.trims hrests t), hhalts.standing⟩

/-! ### The end of a load that a walk waits for -/

/-- Once a version is loaded, the walk goes on with it and below it. -/
theorem ensures_resume_version (hh : s.cache.history? e.id = some h) (hat : h.At v lastInvalid)
    (hv : h.get? v = some .pending) {loaded : List Loaded}
    (hlearn : loaded.length = (r.batch h v).length →
      W.Rests (some (h.write (entries r e (r.batch h v) loaded))) s.remote)
    (hmiscounted : loaded.length ≠ (r.batch h v).length → W.Fails (some h) s.remote) :
    Ensures (r.resume e (.version v lastInvalid (r.batch h v)) loaded) s (Stands W s)
      (QuitsWith W s) := by
  unfold resume
  rw [ensures_bind]
  by_cases hlength : loaded.length = (r.batch h v).length
  · have hbatch := map_fst_entries (r := r) (e := e) hlength
    have hmem : v ∈ r.batch h v := History.mem_pendingRun_self (by omega) hv
    -- the version is known now, and the walk has not moved
    obtain ⟨entry, hentry, -, hget⟩ : ∃ entry ∈ entries r e (r.batch h v) loaded, entry.1 = v ∧
        (h.write (entries r e (r.batch h v) loaded)).get? v = some entry.2 :=
      History.exists_get?_write (hbatch.symm ▸ hmem) hat.le_newest
    have hat' : (h.write (entries r e (r.batch h v) loaded)).At v lastInvalid := by
      refine hat.of_le (h.newest_write _) ?_
      intro w hw
      refine h.get?_write_of_notMem ?_
      rw [hbatch]
      intro hmem'
      have hle := (History.of_mem_pendingRun hmem').1
      omega
    have hpending : entry.2 ≠ .pending := by
      obtain ⟨pair, -, rfl⟩ := List.mem_map.mp hentry
      exact W.decided pair.2
    refine (ensures_store hh hlength).mono ?_ (fun _ _ hfalse => hfalse.elim)
    rintro _ _ rfl
    have hh' := Session.history?_withHistory s e.id (h.write (entries r e (r.batch h v) loaded))
    have hread := Cache.get_of_history? hh' hget
    unfold loadedOutcome
    rw [ensures_bind, ensures_bind, ensures_readCache_ok hread]
    split
    · rename_i heq
      exact absurd heq hpending
    · rw [ensures_pure]
      refine (ensures_known hh' hat' hget hpending fun reasons s' h'' hh'' hnewest hfailure =>
        ensures_below hh'' hnewest hfailure).mono ?_ (fun _ _ hfalse => hfalse.elim)
      intro walk rest hstops
      refine (hstops.stands hh' (hlearn hlength)).of_affects (.withHistory ?_)
      intro h₀ hh₀
      rw [hh] at hh₀
      rw [History.newest_write, Option.some.inj hh₀]
  · refine (ensures_store_of_ne hlength).mono (fun _ _ hfalse => hfalse.elim) ?_
    rintro error _ ⟨hfailure, rfl⟩
    exact ⟨hfailure, hh ▸ hmiscounted hlength, .refl _⟩

/-- Once the newest version is there, the structure is tracked from it and the walk goes down. -/
theorem ensures_resume_newest (hh : s.cache.history? e.id = none) {l : Loaded}
    (hrests : W.Rests (some (r.tracked e l)) s.remote) :
    Ensures (r.resume e .newest [l]) s (Stands W s) (fun _ _ => False) := by
  have htrack : Ensures (r.track e l) s (fun _ rest => rest = s.withHistory e.id (r.tracked e l))
      (fun _ _ => False) := by
    unfold track
    rw [ensures_bind, ensures_get, Cache.tracks_of_none hh]
    exact rfl
  unfold resume
  show Ensures (forM [l] (r.track e) >>= fun _ => r.enter e) s _ _
  rw [List.forM_cons, List.forM_nil, ensures_bind, ensures_bind]
  refine htrack.mono ?_ (fun _ _ => id)
  rintro _ _ rfl
  rw [ensures_pure]
  refine (ensures_enter (Session.history?_withHistory s e.id _)).mono ?_ (fun _ _ => id)
  intro walk rest hstops
  exact (hstops.stands (Session.history?_withHistory ..) hrests).of_affects
    (.withHistory (lowers_of_none hh))

/-! ### One look -/

/-- What a look at a load affects. -/
theorem WalkInvariant.affects_of_visit {known : Option (History α)} {request : Request}
    {load load' : Load} {remote : σ} (W : WalkInvariant r e)
    (hawaits : W.Awaits known request load s.remote)
    (hvisit : load.visit r.source s.remote = (load', remote)) :
    Affects W s { s with remote } := by
  have hmoves := W.looks hawaits
  rw [hvisit] at hmoves
  exact ⟨Or.inl rfl, hmoves⟩

/-- A look at a walk that waits for a version. -/
theorem ensures_look_version (hh : s.cache.history? e.id = some h) {load : Load}
    (hawaits : W.Awaits (some h) (versionsRequest e (r.batch h v)) load s.remote)
    {goOn : Walk α → Work α σ (Walk α)} (hat : h.At v lastInvalid)
    (hv : h.get? v = some .pending)
    (hreached : load.Reached r.source (versionsRequest e (r.batch h v)))
    (hgoOn : ∀ walk s h', s.cache.history? e.id = some h' → W.Keeps h' walk s.remote →
      Standing r e h' walk → Ensures (goOn walk) s (Goes W s) (QuitsWith W s)) :
    Ensures (r.look e (.version v lastInvalid (r.batch h v)) load goOn) s (Goes W s)
      (QuitsWith W s) := by
  refine ensures_look hreached ?_ ?_ ?_
  · intro load' remote hvisit hended hreached' _ _
    exact Or.inl ⟨h, hh, W.affects_of_visit hawaits hvisit, W.waits hawaits hvisit hended,
      .loading hat hv hreached'⟩
  · intro failure parts remote hvisit hyields
    refine Or.inr ⟨⟨failure, _, rfl, ?_⟩, W.affects_of_visit hawaits hvisit⟩
    exact hh ▸ W.refused hawaits hat hv hvisit hyields
  · intro loaded parts remote hvisit hyields
    have haffects := W.affects_of_visit hawaits hvisit
    rw [ensures_bind]
    refine (ensures_resume_version (W := W) (s := { s with remote }) hh hat hv
      (W.learn hawaits hat hv hvisit hyields)
      (W.miscounted hawaits hat hv hvisit hyields)).mono ?_
      (fun _ _ hquits => hquits.of_affects haffects)
    -- the versions are known now, and the walk has gone down
    rintro walk rest ⟨h', hh', haffects', hkeeps', hstanding⟩
    refine (hgoOn walk rest h' hh' hkeeps' hstanding).mono ?_ ?_
    · exact fun walk' rest' hgoes => hgoes.of_affects (haffects.trans haffects')
    · exact fun error rest' hquits => hquits.of_affects (haffects.trans haffects')

/-- **A walk goes on as long as answers come at once.** -/
theorem ensures_pursue (n : Nat) :
    ∀ {s : Session α σ} {h : History α} {walk : Walk α},
      s.cache.history? e.id = some h → W.Keeps h walk s.remote → Standing r e h walk →
      Ensures (r.pursue e n walk) s (Goes W s) (QuitsWith W s) := by
  induction n with
  | zero =>
    intro s h walk hh hkeeps hstanding
    unfold pursue
    exact Or.inl ⟨h, hh, .refl s, hkeeps, hstanding⟩
  | succ n ih =>
    intro s h walk hh hkeeps hstanding
    cases hstanding with
    | ended settled =>
      unfold pursue
      exact Or.inl ⟨h, hh, .refl s, hkeeps, .ended settled⟩
    | loading hat hv hreached =>
      unfold pursue
      exact ensures_look_version hh hkeeps hat hv hreached fun _ _ _ => ih

/-- A walk that knows the newest version is visited. -/
theorem ensures_advance_standing (hh : s.cache.history? e.id = some h) {walk : Walk α}
    (hkeeps : W.Keeps h walk s.remote) (hstanding : Standing r e h walk) :
    Ensures (r.advance e walk) s (Goes W s) (QuitsWith W s) := by
  cases hstanding with
  | ended settled => exact Or.inl ⟨h, hh, .refl s, hkeeps, .ended settled⟩
  | loading hat hv hreached =>
    exact ensures_look_version hh hkeeps hat hv hreached fun _ _ _ => ensures_pursue _

/-! ### One visit -/

/-- **A walk that works alone on a structure**: nothing is known of the structure until the walk
tracks it, and then the walk stands in the history. -/
def Lone (W : WalkInvariant r e) (s : Session α σ) : Walk α → Prop
  | .fresh => W.Rests (s.cache.history? e.id) s.remote
  | .loading .newest load => s.cache.history? e.id = none ∧
      W.Awaits none (.latest e.id.locator) load s.remote ∧
      load.Reached r.source (.latest e.id.locator)
  | walk => ∃ h, s.cache.history? e.id = some h ∧ W.Keeps h walk s.remote ∧ Standing r e h walk

theorem Lone.of_standing {walk : Walk α} (hh : s.cache.history? e.id = some h)
    (hkeeps : W.Keeps h walk s.remote) (hstanding : Standing r e h walk) : Lone W s walk := by
  cases hstanding with
  | loading hat hv hreached => exact ⟨h, hh, hkeeps, .loading hat hv hreached⟩
  | ended settled => exact ⟨h, hh, hkeeps, .ended settled⟩

/-- A walk has not started, or asks for the newest version, or stands in the history. -/
theorem Lone.cases {walk : Walk α} (h : Lone W s walk) :
    (walk = .fresh ∧ W.Rests (s.cache.history? e.id) s.remote) ∨
    (∃ load, walk = .loading .newest load ∧ s.cache.history? e.id = none ∧
      W.Awaits none (.latest e.id.locator) load s.remote ∧
      load.Reached r.source (.latest e.id.locator)) ∨
    ∃ h, s.cache.history? e.id = some h ∧ W.Keeps h walk s.remote ∧ Standing r e h walk := by
  cases walk with
  | fresh => exact Or.inl ⟨rfl, h⟩
  | loading purpose load =>
    cases purpose with
    | newest => exact Or.inr (Or.inl ⟨load, rfl, h⟩)
    | version v lastInvalid batch => exact Or.inr (Or.inr h)
    | oldest v batch => exact Or.inr (Or.inr h)
  | failed error load => exact Or.inr (Or.inr h)
  | ended outcome => exact Or.inr (Or.inr h)

/-- Only the history of its own structure matters to a walk, and what others do to the source does
not. -/
theorem Lone.of_history?_eq {s' : Session α σ} {walk : Walk α} (h : Lone W s walk)
    (hsame : s'.cache.history? e.id = s.cache.history? e.id)
    (hbears : W.Bears s.remote s'.remote) : Lone W s' walk := by
  rcases h.cases with ⟨rfl, hrests⟩ | ⟨load, rfl, hh, hawaits, hreached⟩ |
    ⟨h, hh, hkeeps, hstanding⟩
  · have hrests' := W.bears_rests hbears hrests
    rw [← hsame] at hrests'
    exact hrests'
  · exact ⟨hsame.trans hh, W.bears_awaits hbears hawaits, hreached⟩
  · refine .of_standing (hsame.trans hh) ?_ hstanding
    cases hstanding with
    | loading _ _ _ => exact W.bears_awaits hbears hkeeps
    | ended _ => exact W.bears_rests hbears hkeeps

/-- What a walk that works alone waits for was asked for. -/
theorem Lone.begun {walk : Walk α} (h : Lone W s walk) :
    walk = .fresh ∨ walk.HasBegun r.source := by
  rcases h.cases with ⟨rfl, -⟩ | ⟨load, rfl, -, -, hreached⟩ | ⟨h, -, -, hstanding⟩
  · exact Or.inl rfl
  · exact Or.inr ⟨_, hreached⟩
  · cases hstanding with
    | loading _ _ hreached => exact Or.inr ⟨_, hreached⟩
    | ended settled => exact Or.inr settled.ne_pending

/-- **Where a walk comes to**: it touches the history of one structure only, and it still works
alone, or a request has failed. -/
structure Comes (W : WalkInvariant r e) (s : Session α σ) (walk : Walk α)
    (rest : Session α σ) : Prop where
  /-- No other history is touched, and the source was asked. -/
  affects : Affects W s rest
  /-- The walk goes on, or a request has failed. -/
  lone : Lone W rest walk ∨ Refused W walk rest

theorem Goes.comes {walk : Walk α} {rest : Session α σ} (hgoes : Goes W s walk rest) :
    Comes W s walk rest := by
  rcases hgoes with ⟨h, hh, haffects, hkeeps, hstanding⟩ | ⟨hrefused, haffects⟩
  · exact ⟨haffects, Or.inl (.of_standing hh hkeeps hstanding)⟩
  · exact ⟨haffects, Or.inr hrefused⟩

theorem Quits.comes {rest : Session α σ} (hquits : Quits W s rest) (failure : FetchFailure)
    (load : Load) : Comes W s (.failed (.fetch failure) load) rest :=
  ⟨hquits.2, Or.inr ⟨failure, load, rfl, hquits.1⟩⟩

/-- A walk that asks for the newest version. -/
theorem ensures_advance_newest (hh : s.cache.history? e.id = none) {load : Load}
    (hawaits : W.Awaits none (.latest e.id.locator) load s.remote)
    (hreached : load.Reached r.source (.latest e.id.locator)) :
    Ensures (r.advance e (.loading .newest load)) s (Comes W s) (QuitsWith W s) := by
  refine ensures_look hreached ?_ ?_ ?_
  · intro load' remote hvisit hended hreached' _ _
    exact ⟨W.affects_of_visit hawaits hvisit,
      Or.inl ⟨hh, W.waits hawaits hvisit hended, hreached'⟩⟩
  · intro failure parts remote hvisit hyields
    have hfails := W.unknown hawaits hvisit hyields
    rw [← hh] at hfails
    exact Quits.comes ⟨hfails, W.affects_of_visit hawaits hvisit⟩ failure _
  · intro loaded parts remote hvisit hyields
    have haffects := W.affects_of_visit hawaits hvisit
    obtain ⟨l, rfl⟩ := hyields.exists_single
    rw [ensures_bind]
    refine (ensures_resume_newest (W := W) (s := { s with remote }) hh
      (W.start hawaits hvisit hyields)).mono ?_ (fun _ _ hfalse => hfalse.elim)
    rintro walk rest ⟨h', hh', haffects', hkeeps', hstanding⟩
    refine (ensures_pursue _ hh' hkeeps' hstanding).mono ?_ ?_
    · exact fun walk' rest' hgoes => (hgoes.of_affects (haffects.trans haffects')).comes
    · exact fun error rest' hquits => hquits.of_affects (haffects.trans haffects')

/-- A walk that starts is one that asks for the newest version, or it goes down from what is
known. -/
theorem ensures_advance_fresh (hrests : W.Rests (s.cache.history? e.id) s.remote) :
    Ensures (r.begin e >>= r.advance e) s (Comes W s) (QuitsWith W s) := by
  unfold begin
  rw [ensures_bind, ensures_bind, ensures_get]
  cases hh : s.cache.history? e.id with
  | none =>
    rw [hh] at hrests
    rw [Cache.tracks_of_none hh]
    exact ensures_advance_newest hh (W.opens hrests) .ask
  | some h =>
    rw [hh] at hrests
    rw [Cache.tracks_of_history? hh]
    refine (ensures_enter hh).mono ?_ (fun _ _ hfalse => hfalse.elim)
    intro walk rest hstops
    obtain ⟨h', hh', haffects, hkeeps', hstanding⟩ := hstops.stands hh hrests
    refine (ensures_advance_standing hh' hkeeps' hstanding).mono ?_ ?_
    · exact fun walk' rest' hgoes => (hgoes.of_affects haffects).comes
    · exact fun error rest' hquits => hquits.of_affects haffects

/-- A visit leaves a walk that works alone on its own. -/
theorem ensures_visit_comes {walk : Walk α} (hlone : Lone W s walk) :
    Ensures (r.visit e walk) s (Comes W s) (fun _ _ => False) := by
  unfold visit
  rw [ensures_tryCatch]
  refine Ensures.mono (Q := Comes W s) (E := QuitsWith W s) ?_ (fun _ _ => id) ?_
  · rcases hlone.cases with
      ⟨rfl, hrests⟩ | ⟨load, rfl, hh, hawaits, hreached⟩ | ⟨h, hh, hkeeps, hstanding⟩
    · exact ensures_advance_fresh hrests
    · exact ensures_advance_newest hh hawaits hreached
    · have hgoes := ensures_advance_standing hh hkeeps hstanding
      cases hstanding with
      | loading _ _ _ => exact hgoes.mono (fun _ _ => Goes.comes) (fun _ _ => id)
      | ended _ => exact hgoes.mono (fun _ _ => Goes.comes) (fun _ _ => id)
  · rintro _ rest ⟨⟨failure, rfl⟩, hquits⟩
    exact hquits.comes failure _

/-- **What a visit does**: it touches the history of one structure only, the walk still works
alone or a request has failed, and it is closer to its end. -/
structure Visited (W : WalkInvariant r e) (s : Session α σ) (walk walk' : Walk α)
    (rest : Session α σ) : Prop extends Comes W s walk' rest, Walk.Nearer r.source 1 walk walk'

/-- **A visit brings a walk that works alone on.** -/
theorem ensures_visit {walk : Walk α} (hlone : Lone W s walk) :
    Ensures (r.visit e walk) s (Visited W s walk) (fun _ _ => False) := by
  refine ((ensures_visit_comes hlone).and (ensures_visit_nearer hlone.begun s)).mono ?_
    (fun _ _ => id)
  exact fun walk' rest ⟨hcomes, hnearer⟩ => ⟨hcomes, hnearer⟩

/-! ### What a search keeps of a history -/

/-- **What a search keeps** of the history of its structure, whatever the source answers. -/
structure SearchInvariant (r : Resolver α σ) (e : Errand) where
  /-- What holds of the history. -/
  Holds : History α → Prop
  /-- The structure may be tracked by the search. -/
  Opens : Prop
  /-- A request of the search may fail. -/
  Fails : Prop
  /-- Every version that is loaded is decided. -/
  decided : ∀ l, r.judge e.subtopic l ≠ .pending
  /-- Failures may be dropped from the top. -/
  trims : ∀ {h h'}, Holds h → h.Trims h' → Holds h'
  /-- The structure may be tracked from its newest version. -/
  start : ∀ {l}, Opens → r.source.Yields (.latest e.id.locator) (.ok [l]) → Holds (r.tracked e l)
  /-- The newest version may not be served. -/
  unknown : ∀ {failure}, Opens → r.source.Yields (.latest e.id.locator) (.error failure) → Fails
  /-- The versions that a walk waits for may be written. -/
  learn : ∀ {h v lastInvalid loaded}, Holds h → h.At v lastInvalid → h.get? v = some .pending →
    r.source.Yields (versionsRequest e (r.batch h v)) (.ok loaded) →
    loaded.length = (r.batch h v).length → Holds (h.write (entries r e (r.batch h v) loaded))
  /-- They may not be served. -/
  refused : ∀ {h v lastInvalid failure}, Holds h → h.At v lastInvalid →
    h.get? v = some .pending →
    r.source.Yields (versionsRequest e (r.batch h v)) (.error failure) → Fails
  /-- Another number of versions may be served. -/
  miscounted : ∀ {h v lastInvalid loaded}, Holds h → h.At v lastInvalid →
    h.get? v = some .pending → r.source.Yields (versionsRequest e (r.batch h v)) (.ok loaded) →
    loaded.length ≠ (r.batch h v).length → Fails

/-- Such a search keeps the same whatever the state of the source is. -/
def SearchInvariant.toWalk (I : SearchInvariant r e) : WalkInvariant r e where
  Rests known _ := known.elim I.Opens I.Holds
  Awaits known _ _ _ := known.elim I.Opens I.Holds
  Fails _ _ := I.Fails
  Moves _ _ := True
  Bears _ _ := True
  decided := I.decided
  moves_refl _ := trivial
  moves_trans _ _ := trivial
  bears_rests _ h := h
  bears_awaits _ h := h
  trims := I.trims
  opens h := h
  asks h _ _ := h
  looks _ := trivial
  waits h _ _ := h
  start h _ hyields := I.start h hyields
  unknown h _ hyields := I.unknown h hyields
  learn h hat hv _ hyields hlength := I.learn h hat hv hyields hlength
  refused h hat hv _ hyields := I.refused h hat hv hyields
  miscounted h hat hv _ hyields hlength := I.miscounted h hat hv hyields hlength

/-- **A search may begin**: the history of its structure is as the search keeps it, or the search
may track the structure. -/
structure SearchInvariant.Ready (I : SearchInvariant r e) (cache : Cache α) : Prop where
  /-- What is known is as the search keeps it. -/
  holds : ∀ h, cache.history? e.id = some h → I.Holds h
  /-- If nothing is known, the search may track the structure. -/
  opens : cache.history? e.id = none → I.Opens

theorem SearchInvariant.Ready.rests {I : SearchInvariant r e} {cache : Cache α}
    (hready : I.Ready cache) (st : σ) : I.toWalk.Rests (cache.history? e.id) st := by
  cases hh : cache.history? e.id with
  | none => exact hready.opens hh
  | some h => exact hready.holds h hh

/-- All that two invariants say is kept. -/
def SearchInvariant.both (I J : SearchInvariant r e) : SearchInvariant r e where
  Holds h := I.Holds h ∧ J.Holds h
  Opens := I.Opens ∧ J.Opens
  Fails := I.Fails ∧ J.Fails
  decided := I.decided
  trims h t := ⟨I.trims h.1 t, J.trims h.2 t⟩
  start h hyields := ⟨I.start h.1 hyields, J.start h.2 hyields⟩
  unknown h hyields := ⟨I.unknown h.1 hyields, J.unknown h.2 hyields⟩
  learn h hat hv hyields hlength :=
    ⟨I.learn h.1 hat hv hyields hlength, J.learn h.2 hat hv hyields hlength⟩
  refused h hat hv hyields := ⟨I.refused h.1 hat hv hyields, J.refused h.2 hat hv hyields⟩
  miscounted h hat hv hyields hlength :=
    ⟨I.miscounted h.1 hat hv hyields hlength, J.miscounted h.2 hat hv hyields hlength⟩

/-- A search whose source may answer anything. -/
def blankInvariant (e : Errand) (hdecided : ∀ l, r.judge e.subtopic l ≠ .pending) :
    SearchInvariant r e where
  Holds _ := True
  Opens := True
  Fails := True
  decided := hdecided
  trims _ _ := trivial
  start _ _ := trivial
  unknown _ _ := trivial
  learn _ _ _ _ _ := trivial
  refused _ _ _ _ := trivial
  miscounted _ _ _ _ _ := trivial

end ContentPack.Resolver
