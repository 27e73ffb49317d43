import ContentPack.Proofs.Search.Standing

/-!
# How a walk goes down the versions that are known

The walk looks at one version after another. When it has seen the version below a failure, the
failure is dropped (`ensures_conclude`), so while it goes down only failures are dropped from the
top of the history. It stops at a version that is pending, or at the end of the search
(`ensures_descend`, `ensures_below`, `ensures_enter`); no operation of the cache is misused.
-/

namespace ContentPack.Resolver

open Work

variable {α σ : Type} {r : Resolver α σ} {e : Errand} {s : Session α σ} {h : History α}
  {v : Version} {lastInvalid : Option Version} {Q : Walk α → Session α σ → Prop}
  {E : Error → Session α σ → Prop}

/-- **Where a walk stops**: only failures were dropped from the history. -/
def Stops (r : Resolver α σ) (e : Errand) (s : Session α σ) (h : History α) (walk : Walk α)
    (rest : Session α σ) : Prop :=
  ∃ h', rest = s.withHistory e.id h' ∧ h.Trims h' ∧ Halts r e h' walk

/-- Stopping later is stopping. -/
theorem Stops.of_trims {h' : History α} {walk : Walk α} {rest : Session α σ} (t : h.Trims h')
    (hstops : Stops r e (s.withHistory e.id h') h' walk rest) : Stops r e s h walk rest := by
  obtain ⟨h'', rfl, t', hhalts⟩ := hstops
  refine ⟨h'', ?_, t.trans t', hhalts⟩
  rw [Session.withHistory_withHistory]

/-! ### One version -/

/-- A load of a pending version is started. -/
theorem ensures_loadVersion (hh : s.cache.history? e.id = some h) (hat : h.At v lastInvalid)
    (hv : h.get? v = some .pending) :
    Ensures (r.loadVersion e v (.version v lastInvalid)) s (Stops r e s h)
      (fun _ _ => False) := by
  have hwindow : s.cache.pendingWindow ⟨e.id, v⟩ r.window = .ok (r.batch h v) :=
    Cache.pendingWindow_of_history? hh v r.window
  unfold loadVersion
  rw [ensures_bind, ensures_readCache_ok hwindow, ensures_pure]
  exact ⟨h, (s.withHistory_of_history? _ _ hh).symm, .refl h, .asks hat hv⟩

/-- The failure above a version is dropped once the version is known; then the version is the
newest one. -/
theorem ensures_conclude {o : Outcome α} {below : Work α σ (Walk α)}
    (hh : s.cache.history? e.id = some h) (hat : h.At v lastInvalid)
    (hgo : ∀ h', h.Trims h' → h'.newest = v →
      Ensures (if o.isSuccess then return .ended o else below) (s.withHistory e.id h') Q E) :
    Ensures (conclude e lastInvalid o below) s Q E := by
  unfold conclude
  cases lastInvalid with
  | none =>
    -- there is nothing to drop at the newest version
    have hsame := hgo h (.refl h) hat
    rw [s.withHistory_of_history? _ _ hh] at hsame
    exact hsame
  | some above =>
    obtain ⟨rfl, hnum, reasons, hfailure⟩ := hat
    have hone := v.one_le
    obtain ⟨h', hdrop, hnewest, t⟩ := History.exists_trims (by omega) hfailure
    have hinvalidate := Cache.invalidate_of_history? hh hdrop
    rw [ensures_bind, ensures_changeCache_ok hinvalidate]
    exact hgo h' t (Version.ext (by omega))

/-- At the only version that is left, which failed, the search ends. -/
theorem ensures_resort {reasons : List Rejection} (hh : s.cache.history? e.id = some h)
    (hone : h.newest.number = 1) (hfailure : h.get? h.newest = some (.failure reasons)) :
    Ensures (r.resort e) s (Stops r e s h) (fun _ _ => False) := by
  have hnewest : s.cache.newest e.id = .ok ⟨e.id, h.newest⟩ := Cache.newest_of_history? hh
  have hget : s.cache.get ⟨e.id, h.newest⟩ = .ok (.failure reasons) :=
    Cache.get_of_history? hh hfailure
  unfold resort
  rw [ensures_bind, ensures_readCache_ok hnewest, ensures_bind, ensures_readCache_ok hget,
    ensures_pure]
  exact ⟨h, (s.withHistory_of_history? _ _ hh).symm, .refl h,
    .ended ⟨hfailure, Or.inr ⟨hone, reasons, rfl⟩⟩⟩

/-- A version that is known ends the search, or the walk goes on below it. -/
theorem ensures_known {o : Outcome α} {below : Work α σ (Walk α)}
    (hh : s.cache.history? e.id = some h) (hat : h.At v lastInvalid) (hv : h.get? v = some o)
    (ho : o ≠ .pending)
    (hbelow : ∀ reasons s h', s.cache.history? e.id = some h' → h'.newest = v →
      h'.get? v = some (.failure reasons) → Ensures below s (Stops r e s h') (fun _ _ => False)) :
    Ensures (conclude e lastInvalid o below) s (Stops r e s h) (fun _ _ => False) := by
  refine ensures_conclude hh hat ?_
  intro h' t hnewest
  have hv' : h'.get? v = some o := by
    rw [t.get?_eq (by rw [hnewest]), hv]
  cases o with
  | pending => exact absurd rfl ho
  | success l =>
    exact ⟨h', rfl, t, .ended ⟨by rw [hnewest, hv'], Or.inl ⟨l, rfl⟩⟩⟩
  | failure reasons =>
    refine (hbelow reasons _ h' (Session.history?_withHistory ..) hnewest hv').mono ?_
      (fun _ _ => id)
    exact fun walk rest hstops => hstops.of_trims t

/-! ### All versions from one on down -/

/-- **A walk goes down the versions that are known** and stops at one that is pending, or at the
end of the search. -/
theorem ensures_descend (n : Nat) :
    ∀ {s : Session α σ} {h : History α} {lastInvalid : Option Version},
      s.cache.history? e.id = some h → h.At (.after n) lastInvalid →
      Ensures (r.descend e n lastInvalid) s (Stops r e s h) (fun _ _ => False) := by
  induction n with
  | zero =>
    -- below the oldest version there is only the last resort
    intro s h lastInvalid hh hat
    obtain ⟨o, ho⟩ := h.exists_get? hat.le_newest
    have hget : s.cache.get ⟨e.id, .after 0⟩ = .ok o := Cache.get_of_history? hh ho
    unfold descend arrive
    rw [ensures_bind, ensures_readCache_ok hget]
    split
    · exact ensures_loadVersion hh hat ho
    · rename_i hpending
      refine ensures_known hh hat ho hpending ?_
      intro reasons s' h' hh' hnewest hfailure
      exact ensures_resort hh' (by rw [hnewest]; rfl) (by rw [hnewest, hfailure])
  | succ n ih =>
    intro s h lastInvalid hh hat
    obtain ⟨o, ho⟩ := h.exists_get? hat.le_newest
    have hget : s.cache.get ⟨e.id, .after (n + 1)⟩ = .ok o := Cache.get_of_history? hh ho
    unfold descend arrive
    rw [ensures_bind, ensures_readCache_ok hget]
    split
    · exact ensures_loadVersion hh hat ho
    · rename_i hpending
      refine ensures_known hh hat ho hpending ?_
      intro reasons s' h' hh' hnewest hfailure
      -- the version that failed is dropped when the one below it is known
      have hat' : h'.At (.after n) (some (.after (n + 1))) :=
        ⟨hnewest, rfl, reasons, hfailure⟩
      exact ih hh' hat'

/-- A walk goes on below the newest version, which failed. -/
theorem ensures_below {reasons : List Rejection} (hh : s.cache.history? e.id = some h)
    (hnewest : h.newest = v) (hfailure : h.get? v = some (.failure reasons)) :
    Ensures (r.below e v) s (Stops r e s h) (fun _ _ => False) := by
  subst hnewest
  obtain ⟨n, hn⟩ : ∃ n, h.newest = .after n :=
    ⟨h.newest.number - 1, Version.ext (by
      have := h.one_le_newest
      rw [Version.number_after]
      omega)⟩
  unfold below
  cases n with
  | zero =>
    rw [hn, Version.previous?_after_zero]
    exact ensures_resort hh (by rw [hn]; rfl) hfailure
  | succ n =>
    rw [hn, Version.previous?_after_succ]
    rw [hn] at hfailure
    exact ensures_descend n hh ⟨hn, rfl, reasons, hfailure⟩

/-- A walk goes down from the newest version. -/
theorem ensures_enter (hh : s.cache.history? e.id = some h) :
    Ensures (r.enter e) s (Stops r e s h) (fun _ _ => False) := by
  have hnewest : s.cache.newest e.id = .ok ⟨e.id, h.newest⟩ := Cache.newest_of_history? hh
  have hone := h.one_le_newest
  have hat : h.At (.after (h.newest.number - 1)) none :=
    Version.ext (by rw [Version.number_after]; omega)
  unfold enter
  rw [ensures_bind, ensures_readCache_ok hnewest]
  exact ensures_descend _ hh hat

end ContentPack.Resolver
