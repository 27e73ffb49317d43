import ContentPack.Cache
import ContentPack.Proofs.Table
import Mathlib.Data.List.Infix
import Mathlib.Tactic.Common

/-!
# What the operations of the cache do to the histories in it

Every operation on the cache touches the history of one structure. So there is one equation for
each operation (`Cache.get_of_history`, `Cache.invalidate_of_history`, ...) that says what it
gives if the history is known, and all others stay as they are (`Cache.history?_withHistory`).

A search only ever drops versions from the top of a history that were found to be unusable. What
is left then is `History.Trims`: a first part of the outcomes, above which there are failures.
-/

namespace ContentPack

variable {α : Type}

/-! ### One history -/

namespace History

theorem one_le_newest (h : History α) : 1 ≤ h.newest.number := h.newest.one_le

theorem get?_eq_none_of_lt (h : History α) {v : Version} (hv : h.newest.number < v.number) :
    h.get? v = none := by
  have hlen : h.outcomes.length < v.number := hv
  exact List.getElem?_eq_none (by omega)

/-- There is an entry for every version up to the newest. -/
theorem exists_get? (h : History α) {v : Version} (hv : v.number ≤ h.newest.number) :
    ∃ o, h.get? v = some o := by
  have hlen : v.number ≤ h.outcomes.length := hv
  have hone := v.one_le
  exact ⟨_, List.getElem?_eq_getElem (show v.number - 1 < h.outcomes.length by omega)⟩

theorem le_newest_of_get? {h : History α} {v : Version} {o : Outcome α} (hv : h.get? v = some o) :
    v.number ≤ h.newest.number := by
  by_contra hlt
  rw [get?_eq_none_of_lt h (not_le.mp hlt)] at hv
  cases hv

theorem newest_set (h : History α) (v : Version) (o : Outcome α) :
    (h.set v o).newest = h.newest := by
  ext
  exact List.length_set

theorem get?_set (h : History α) (v w : Version) (o : Outcome α) :
    (h.set v o).get? w = if w = v then (h.get? w).map fun _ => o else h.get? w := by
  have hv := v.one_le
  have hw := w.one_le
  show (h.outcomes.set (v.number - 1) o)[w.number - 1]? = _
  by_cases hwv : w = v
  · subst hwv
    rw [if_pos rfl, List.getElem?_set_self']
    rfl
  · have hne : v.number - 1 ≠ w.number - 1 := fun heq => hwv (Version.ext (by omega))
    rw [if_neg hwv, List.getElem?_set_ne hne]
    rfl

theorem newest_start (newest : Version) (subtopic : Option Subtopic) (o : Outcome α) :
    (start newest subtopic o).newest = newest := by
  have hone := newest.one_le
  ext
  show (List.replicate (newest.number - 1) _ ++ [o]).length = newest.number
  rw [List.length_append, List.length_replicate, List.length_singleton]
  omega

theorem get?_start_newest (newest : Version) (subtopic : Option Subtopic) (o : Outcome α) :
    (start newest subtopic o).get? newest = some o := by
  show (List.replicate (newest.number - 1) Outcome.pending ++ [o])[newest.number - 1]? = some o
  rw [List.getElem?_append_right (by simp)]
  simp

theorem get?_start_of_lt {newest v : Version} (subtopic : Option Subtopic) (o : Outcome α)
    (hv : v.number < newest.number) : (start newest subtopic o).get? v = some .pending := by
  have hone := v.one_le
  show (List.replicate (newest.number - 1) Outcome.pending ++ [o])[v.number - 1]? = _
  rw [List.getElem?_append_left (by rw [List.length_replicate]; omega),
    List.getElem?_replicate_of_lt (by omega)]

/-- The history with outcomes for several versions, written one after another. -/
def write (h : History α) (entries : List (Version × Outcome α)) : History α :=
  entries.foldl (fun h entry => h.set entry.1 entry.2) h

theorem newest_write (h : History α) (entries : List (Version × Outcome α)) :
    (h.write entries).newest = h.newest := by
  induction entries generalizing h with
  | nil => rfl
  | cons entry rest ih => exact (ih (h.set entry.1 entry.2)).trans (h.newest_set ..)

/-- Other versions are left alone. -/
theorem get?_write_of_notMem (h : History α) {entries : List (Version × Outcome α)} {v : Version}
    (hv : v ∉ entries.map (·.1)) : (h.write entries).get? v = h.get? v := by
  induction entries generalizing h with
  | nil => rfl
  | cons entry rest ih =>
    rw [List.map_cons, List.mem_cons, not_or] at hv
    refine (ih (h.set entry.1 entry.2) hv.2).trans ?_
    rw [get?_set, if_neg hv.1]

/-- A version has an outcome that is written for it, if it is not above the newest one. -/
theorem exists_get?_write {h : History α} {entries : List (Version × Outcome α)} {v : Version}
    (hmem : v ∈ entries.map (·.1)) (hv : v.number ≤ h.newest.number) :
    ∃ entry ∈ entries, entry.1 = v ∧ (h.write entries).get? v = some entry.2 := by
  induction entries generalizing h with
  | nil => cases hmem
  | cons entry rest ih =>
    by_cases hrest : v ∈ rest.map (·.1)
    · obtain ⟨last, hlast, hfst, hget⟩ :=
        ih hrest (h := h.set entry.1 entry.2) (by rwa [newest_set])
      exact ⟨last, List.mem_cons_of_mem _ hlast, hfst, hget⟩
    · -- this is the last entry for the version, which counts
      have hentry : v = entry.1 := (List.mem_cons.mp hmem).resolve_right hrest
      obtain ⟨old, hold⟩ := h.exists_get? hv
      refine ⟨entry, List.mem_cons_self, hentry.symm, ?_⟩
      show ((h.set entry.1 entry.2).write rest).get? v = some entry.2
      rw [get?_write_of_notMem _ hrest, get?_set, if_pos hentry, hold]
      rfl

/-! ### Dropping versions from the top -/

/-- **What a search leaves of a history**: only versions above the new newest one are gone, and
each of them was a failure. -/
structure Trims (h h' : History α) : Prop where
  /-- What is left is a first part. -/
  kept : h'.outcomes <+: h.outcomes
  /-- The declared subtopic is the same. -/
  subtopic : h'.subtopic = h.subtopic
  /-- What is gone could not be used. -/
  dropped : ∀ v o, h'.newest.number < v.number → h.get? v = some o →
    ∃ reasons, o = .failure reasons

theorem Trims.refl (h : History α) : Trims h h where
  kept := List.prefix_refl _
  subtopic := rfl
  dropped _ _ hv hget := absurd (le_newest_of_get? hget) (not_le.mpr hv)

theorem Trims.newest_le {h h' : History α} (t : Trims h h') :
    h'.newest.number ≤ h.newest.number := t.kept.length_le

/-- What is left has the outcomes that it had. -/
theorem get?_eq_of_initial {h h' : History α} (hfirst : h'.outcomes <+: h.outcomes) {v : Version}
    (hv : v.number ≤ h'.newest.number) : h'.get? v = h.get? v := by
  obtain ⟨rest, hrest⟩ := hfirst
  have hone := v.one_le
  have hlen : v.number ≤ h'.outcomes.length := hv
  show h'.outcomes[v.number - 1]? = h.outcomes[v.number - 1]?
  rw [← hrest, List.getElem?_append_left (by omega)]

theorem Trims.get?_eq {h h' : History α} (t : Trims h h') {v : Version}
    (hv : v.number ≤ h'.newest.number) : h'.get? v = h.get? v := get?_eq_of_initial t.kept hv

theorem Trims.get?_of_get? {h h' : History α} (t : Trims h h') {v : Version} {o : Outcome α}
    (hv : h'.get? v = some o) : h.get? v = some o := by
  rw [← t.get?_eq (le_newest_of_get? hv), hv]

theorem Trims.trans {h h' h'' : History α} (t : Trims h h') (t' : Trims h' h'') :
    Trims h h'' where
  kept := t'.kept.trans t.kept
  subtopic := t'.subtopic.trans t.subtopic
  dropped v o hv hget := by
    by_cases hle : v.number ≤ h'.newest.number
    · exact t'.dropped v o hv (by rw [t.get?_eq hle, hget])
    · exact t.dropped v o (not_le.mp hle) hget

/-- If nothing is gone, nothing has changed. -/
theorem Trims.eq_of_newest {h h' : History α} (t : Trims h h')
    (hnum : h'.newest.number = h.newest.number) : h' = h := by
  -- of the same length, the first part is the whole
  have houtcomes := t.kept.eq_of_length hnum
  have hsubtopic := t.subtopic
  obtain ⟨_, _, _⟩ := h
  obtain ⟨_, _, _⟩ := h'
  obtain rfl : _ = _ := houtcomes
  obtain rfl : _ = _ := hsubtopic
  rfl

/-- Of two that are left, the shorter one is left of the longer one. -/
theorem Trims.of_le {h h' h'' : History α} (t : Trims h h') (t' : Trims h h'')
    (hle : h''.newest.number ≤ h'.newest.number) : Trims h' h'' where
  kept := List.prefix_of_prefix_length_le t'.kept t.kept hle
  subtopic := t'.subtopic.trans t.subtopic.symm
  dropped v o hv ho := t'.dropped v o hv (t.get?_of_get? ho)

/-- The newest version can be dropped if there is another one. -/
theorem exists_dropNewest? {h : History α} (htwo : 2 ≤ h.newest.number) :
    ∃ h', h.dropNewest? = some h' ∧ h'.newest.number + 1 = h.newest.number ∧
      h'.outcomes <+: h.outcomes ∧ h'.subtopic = h.subtopic := by
  have hlen : 2 ≤ h.outcomes.length := htwo
  have hrest : h.outcomes.dropLast ≠ [] := by
    rw [← List.length_pos_iff, List.length_dropLast]
    omega
  have hnum : h.outcomes.dropLast.length + 1 = h.outcomes.length := by
    rw [List.length_dropLast]
    omega
  exact ⟨⟨h.subtopic, h.outcomes.dropLast, hrest⟩, dif_pos hrest, hnum,
    List.dropLast_prefix _, rfl⟩

/-- What is left without the newest version. -/
theorem of_dropNewest? {h h' : History α} (hdrop : h.dropNewest? = some h') :
    h'.newest.number + 1 = h.newest.number ∧ h'.outcomes <+: h.outcomes := by
  unfold dropNewest? at hdrop
  split at hdrop
  · rename_i hrest
    obtain rfl := Option.some.inj hdrop
    have hlen := List.length_pos_iff.mpr h.nonempty
    refine ⟨?_, List.dropLast_prefix _⟩
    show h.outcomes.dropLast.length + 1 = h.outcomes.length
    rw [List.length_dropLast]
    omega
  · cases hdrop

/-- If the newest version is a failure, what is left without it is what a search leaves. -/
theorem exists_trims {h : History α} {reasons : List Rejection}
    (htwo : 2 ≤ h.newest.number) (hget : h.get? h.newest = some (.failure reasons)) :
    ∃ h', h.dropNewest? = some h' ∧ h'.newest.number + 1 = h.newest.number ∧ Trims h h' := by
  obtain ⟨h', hdrop, hnum, hfirst, hsubtopic⟩ := exists_dropNewest? htwo
  refine ⟨h', hdrop, hnum, hfirst, hsubtopic, ?_⟩
  intro v o hv ho
  have hle := le_newest_of_get? ho
  -- only the newest version is gone
  have heq : v = h.newest := Version.ext (by omega)
  rw [heq, hget] at ho
  exact ⟨reasons, (Option.some.inj ho).symm⟩

/-! ### Pending versions -/

/-- The versions of a pending run are pending, and none is above its start. -/
theorem of_mem_pendingRun {outcomes : List (Outcome α)} {v : Version} :
    ∀ {n width : Nat}, v ∈ pendingRun outcomes n width →
      v.number ≤ n ∧ outcomes[v.number - 1]? = some .pending := by
  intro n
  induction n with
  | zero => intro width hv; simp [pendingRun] at hv
  | succ n ih =>
    intro width hv
    cases width with
    | zero => simp [pendingRun] at hv
    | succ width =>
      unfold pendingRun at hv
      split at hv
      · rename_i hpending
        rcases List.mem_append.mp hv with hv | hv
        · obtain ⟨hle, hget⟩ := ih hv
          exact ⟨by omega, hget⟩
        · obtain rfl := List.mem_singleton.mp hv
          exact ⟨le_rfl, hpending⟩
      · simp at hv

/-- A pending version starts a pending run. -/
theorem mem_pendingRun_self {h : History α} {v : Version} {width : Nat} (hwidth : 1 ≤ width)
    (hv : h.get? v = some .pending) : v ∈ pendingRun h.outcomes v.number width := by
  obtain ⟨width, rfl⟩ : ∃ w, width = w + 1 := ⟨width - 1, by omega⟩
  obtain ⟨number, hone⟩ := v
  obtain ⟨n, rfl⟩ : ∃ n, number = n + 1 := ⟨number - 1, by omega⟩
  have hget : h.outcomes[n]? = some .pending := hv
  unfold pendingRun
  rw [hget]
  exact List.mem_append_right _ (List.mem_singleton.mpr rfl)

end History

/-! ### The cache -/

namespace Cache

variable {c : Cache α} {id : StructureId} {h : History α}

@[simp] theorem history?_withHistory_self (c : Cache α) (id : StructureId) (h : History α) :
    (c.withHistory id h).history? id = some h := Table.get?_put_self ..

theorem history?_withHistory_of_ne (c : Cache α) {id other : StructureId} (h : History α)
    (hne : other ≠ id) : (c.withHistory id h).history? other = c.history? other :=
  Table.get?_put_of_ne hne.symm ..

/-- The last history that is written counts. -/
theorem withHistory_withHistory (c : Cache α) (id : StructureId) (h h' : History α) :
    (c.withHistory id h).withHistory id h' = c.withHistory id h' :=
  congrArg Cache.mk (Table.put_put id h h' c.histories)

/-- Writing the history that is there changes nothing. -/
theorem withHistory_of_history? (hh : c.history? id = some h) : c.withHistory id h = c :=
  congrArg Cache.mk (Table.put_of_get? hh)

theorem history_of_history? (hh : c.history? id = some h) : c.history id = .ok h := by
  unfold history
  rw [hh]

theorem tracks_of_history? (hh : c.history? id = some h) : c.tracks id = true := by
  unfold tracks
  rw [hh]
  rfl

theorem tracks_of_none (hh : c.history? id = none) : c.tracks id = false := by
  unfold tracks
  rw [hh]
  rfl

theorem newest_of_history? (hh : c.history? id = some h) :
    c.newest id = .ok ⟨id, h.newest⟩ := by
  unfold newest
  rw [history_of_history? hh]
  rfl

theorem versionCount_of_history? (hh : c.history? id = some h) :
    c.versionCount id = h.newest.number := by
  unfold versionCount
  rw [hh]
  rfl

theorem get_of_history? {v : Version} {o : Outcome α} (hh : c.history? id = some h)
    (hv : h.get? v = some o) : c.get ⟨id, v⟩ = .ok o := by
  simp only [get, history_of_history? hh, bind, Except.bind, hv]
  rfl

theorem get_of_lt {v : Version} (hh : c.history? id = some h)
    (hv : h.newest.number < v.number) : c.get ⟨id, v⟩ = .error (.noEntry ⟨id, v⟩) := by
  simp only [get, history_of_history? hh, bind, Except.bind, h.get?_eq_none_of_lt hv]
  rfl

theorem put_of_history? (hh : c.history? id = some h) (v : Version) (o : Outcome α) :
    c.put ⟨id, v⟩ o = .ok (c.withHistory id (h.set v o)) := by
  unfold put
  rw [history_of_history? hh]
  rfl

theorem pendingWindow_of_history? (hh : c.history? id = some h) (v : Version) (window : Int) :
    c.pendingWindow ⟨id, v⟩ window =
      .ok (History.pendingRun h.outcomes v.number (max 1 window).toNat) := by
  unfold pendingWindow
  rw [history_of_history? hh]
  rfl

theorem invalidate_of_history? {h' : History α} (hh : c.history? id = some h)
    (hdrop : h.dropNewest? = some h') :
    c.invalidate ⟨id, h.newest⟩ = .ok (c.withHistory id h') := by
  have hsame : ¬h.newest ≠ h.newest := fun hne => hne rfl
  simp only [invalidate, history_of_history? hh, bind, Except.bind, hdrop, if_neg hsame]
  rfl

/-- Nothing can be dropped of what is not tracked. -/
theorem invalidate_of_none (hh : c.history? id = none) (v : Version) :
    c.invalidate ⟨id, v⟩ = .error (.notTracked id) := by
  simp only [invalidate, history, hh, bind, Except.bind]

/-- The only version cannot be dropped. -/
theorem invalidate_of_last (hh : c.history? id = some h) (hlast : h.dropNewest? = none) :
    c.invalidate ⟨id, h.newest⟩ = .error (.lastVersion id) := by
  have hsame : ¬h.newest ≠ h.newest := fun hne => hne rfl
  simp only [invalidate, history_of_history? hh, bind, Except.bind, hlast, if_neg hsame]
  rfl

/-- Only the newest version can be dropped. -/
theorem invalidate_of_ne {v : Version} (hh : c.history? id = some h) (hv : h.newest ≠ v) :
    c.invalidate ⟨id, v⟩ = .error (.notNewest ⟨id, v⟩) := by
  simp only [invalidate, history_of_history? hh, bind, Except.bind, if_pos hv]
  rfl

end Cache

end ContentPack
