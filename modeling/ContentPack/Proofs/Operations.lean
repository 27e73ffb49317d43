import ContentPack.Proofs.Changes

/-!
# Any operations on a cache

A cache may be used in ways in which no search uses it: structures are tracked again, outcomes are
written for versions that are not there, versions are dropped that cannot be dropped. What is in it
then is known from the operations alone (`Cache.AreIn`): how many versions of a structure are left,
and what was last written for a version since the structure was last tracked.

An operation that is refused leaves everything as it is, and every operation spares all structures
but its own (`Cache.IsLawful`). Operations run as they do in a search, where an error does not undo
what was done before it; so this is not due to how errors are passed on.
-/

namespace ContentPack

variable {α σ : Type}

/-! ### Entries -/

/-- The entries of a history by version, the first version first. -/
def History.entries (h : History α) : Table Version (Outcome α) := h.versions.zip h.outcomes

/-- The entries of a structure by version; there are none if it is not tracked. -/
def Cache.entries (cache : Cache α) (id : StructureId) : Table Version (Outcome α) :=
  match cache.history? id with
  | some h => h.entries
  | none => []

namespace History

variable {h h' : History α}

@[simp] theorem length_versions (h : History α) : h.versions.length = h.outcomes.length := by
  rw [versions, List.length_map, List.length_range]

theorem keys_entries (h : History α) : h.entries.keys = h.versions :=
  List.map_fst_zip (Nat.le_of_eq h.length_versions)

/-- Each version has one entry. -/
theorem nodup_keys_entries (h : History α) : h.entries.keys.Nodup := by
  rw [keys_entries, versions]
  refine List.Nodup.map (fun n m heq => ?_) List.nodup_range
  exact Nat.succ.inj (congrArg Version.number heq)

/-- Without its newest version, a history has the other entries. -/
theorem entries_of_initial (hnum : h'.newest.number + 1 = h.newest.number)
    (hfirst : h'.outcomes <+: h.outcomes) : h'.entries = h.entries.filter (·.1 ≠ h.newest) := by
  obtain ⟨rest, hrest⟩ := hfirst
  have hlen : h'.outcomes.length + 1 = h.outcomes.length := hnum
  obtain ⟨last, rfl⟩ : ∃ last, rest = [last] := by
    rw [← List.length_eq_one_iff]
    rw [← hrest, List.length_append] at hlen
    omega
  have hversions : h.versions = h'.versions ++ [h.newest] := by
    have hnewest : h.newest = .after h'.outcomes.length := Version.ext hlen.symm
    rw [versions, ← hlen, List.range_succ, List.map_append, hnewest]
    rfl
  have hentries : h.entries = h'.entries ++ [(h.newest, last)] := by
    rw [entries, hversions, ← hrest, List.zip_append h'.length_versions]
    rfl
  have hnotMem : h.newest ∉ h'.versions := by
    have hnodup := h.nodup_keys_entries
    rw [keys_entries, hversions, List.nodup_append] at hnodup
    exact fun hmem => hnodup.2.2 _ hmem _ List.mem_cons_self rfl
  rw [hentries, List.filter_append, List.filter_eq_self.mpr]
  · simp
  · intro entry hentry
    have hkey : entry.1 ∈ h'.versions := by
      rw [← keys_entries]
      exact List.mem_map.mpr ⟨entry, hentry, rfl⟩
    exact decide_eq_true fun heq => hnotMem (heq ▸ hkey)

end History

namespace Cache

open Work

variable {cache : Cache α} {id : StructureId} {h : History α} {s : Session α σ}

theorem entries_of_history? (hh : cache.history? id = some h) : cache.entries id = h.entries := by
  unfold entries
  rw [hh]

theorem entries_of_none (hh : cache.history? id = none) : cache.entries id = [] := by
  unfold entries
  rw [hh]

/-! ### Operations -/

/-- An operation on a cache. -/
inductive Operation (α : Type) where
  /-- Track a structure from its newest version. -/
  | track (r : Reference) (subtopic : Option Subtopic) (outcome : Outcome α)
  /-- Write the outcome of a version. -/
  | put (r : Reference) (outcome : Outcome α)
  /-- Read the outcome of a version. -/
  | get (r : Reference)
  /-- Drop the newest version of a structure. -/
  | invalidate (r : Reference)
  /-- Read the newest version of a structure. -/
  | newest (id : StructureId)
  /-- List the versions of a structure. -/
  | references (id : StructureId)
  /-- List the pending versions to load together with a version. -/
  | pendingWindow (r : Reference) (window : Int)
  /-- Count the versions of a structure. -/
  | versionCount (id : StructureId)

/-- What an operation replies. -/
inductive Reply (α : Type) where
  /-- Nothing. -/
  | done
  /-- An outcome. -/
  | outcome (o : Outcome α)
  /-- A reference. -/
  | reference (r : Reference)
  /-- References. -/
  | references (rs : List Reference)
  /-- Versions. -/
  | versions (vs : List Version)
  /-- A number. -/
  | count (n : Nat)

namespace Operation

/-- The structure that an operation is about. -/
def target : Operation α → StructureId
  | track r _ _ | put r _ | get r | invalidate r | pendingWindow r _ => r.id
  | newest id | references id | versionCount id => id

/-- The operation only reads. -/
def isReading : Operation α → Bool
  | track _ _ _ | put _ _ | invalidate _ => false
  | _ => true

/-- An operation at work. -/
def perform : Operation α → Work α σ (Reply α)
  | track r subtopic o => do
    changeCache fun cache => .ok (cache.track r subtopic o)
    return .done
  | put r o => do
    changeCache (·.put r o)
    return .done
  | get r => return .outcome (← readCache (·.get r))
  | invalidate r => do
    changeCache (·.invalidate r)
    return .done
  | newest id => return .reference (← readCache (·.newest id))
  | references id => return .references (← readCache (·.references id))
  | pendingWindow r window => return .versions (← readCache (·.pendingWindow r window))
  | versionCount id => return .count (← readCache fun cache => .ok (cache.versionCount id))

/-- The reply to an operation, or the error that it is refused with. -/
def reply (op : Operation α) (s : Session α σ) : Except Error (Reply α) :=
  (ExceptT.run op.perform s).1

/-- The session after an operation, whether it is refused or not. -/
def after (op : Operation α) (s : Session α σ) : Session α σ := (ExceptT.run op.perform s).2

/-- How many versions of a structure are left after an operation: all of them if the structure is
tracked, and one less if the newest of several is dropped. -/
def leftAfter (id : StructureId) (left : Nat) : Operation α → Nat
  | track r _ _ => if r.id = id then r.version.number else left
  | invalidate r => if r.id = id ∧ r.version.number = left ∧ 2 ≤ left then left - 1 else left
  | _ => left

/-- What was last written for a version after an operation. When a structure is tracked, nothing is
known of its older versions, and there are no newer ones. -/
def writtenAfter (r : Reference) (written : Option (Outcome α)) :
    Operation α → Option (Outcome α)
  | track top _ o =>
    if top.id = r.id then
      if r.version = top.version then some o
      else if r.version.number < top.version.number then some .pending else none
    else written
  | put r' o => if r' = r then some o else written
  | _ => written

end Operation

/-- The session after some operations. -/
def performAll (ops : List (Operation α)) (s : Session α σ) : Session α σ :=
  ops.foldl (fun s op => op.after s) s

/-- How many versions of a structure are left after some operations; zero before it is tracked. -/
def left (ops : List (Operation α)) (id : StructureId) : Nat :=
  ops.foldl (Operation.leftAfter id) 0

/-- What was last written for a version, since its structure was last tracked. -/
def written (ops : List (Operation α)) (r : Reference) : Option (Outcome α) :=
  ops.foldl (Operation.writtenAfter r) none

/-- **A cache holds what some operations have left in it.** -/
structure AreIn (ops : List (Operation α)) (cache : Cache α) : Prop where
  /-- Structures are tracked once. -/
  nodup : cache.histories.keys.Nodup
  /-- A structure is tracked if a version is left. -/
  tracks : ∀ id, cache.tracks id = true ↔ 1 ≤ left ops id
  /-- It has one entry for each version that is left. -/
  keys : ∀ id, (cache.entries id).keys = (List.range (left ops id)).map .after
  /-- The versions are counted, also if there are none. -/
  count : ∀ id, cache.versionCount id = left ops id
  /-- The versions of what is tracked are listed upwards. -/
  references : ∀ id, cache.tracks id = true →
    cache.references id = .ok ((List.range (left ops id)).map fun i => ⟨id, .after i⟩)
  /-- The newest version is the last one that is left. -/
  newest : ∀ id v, cache.newest id = .ok ⟨id, v⟩ ↔ v.number = left ops id
  /-- Versions that are left can be read, and no others. -/
  reads : ∀ r : Reference, (∃ o, cache.get r = .ok o) ↔ r.version.number ≤ left ops r.id
  /-- What is read is what was last written. -/
  get : ∀ r o, cache.get r = .ok o → written ops r = some o

/-- **An operation obeys the rules** on a session. -/
structure IsLawful (op : Operation α) (s : Session α σ) : Prop where
  /-- If it is refused, it was misused, and everything stays as it is. -/
  refused : ∀ error, op.reply s = .error error → op.after s = s ∧ ∃ what, error = .misuse what
  /-- All other structures keep their entries. -/
  spares : ∀ id, id ≠ op.target → (op.after s).cache.history? id = s.cache.history? id
  /-- Reading changes nothing. -/
  reads : op.isReading = true → op.after s = s
  /-- Writing is refused for what is not tracked, and it adds and removes no version. -/
  put : ∀ r o, op = .put r o →
    ((∃ reply, op.reply s = .ok reply) ↔ s.cache.tracks r.id = true) ∧
    ∀ id, ((op.after s).cache.entries id).keys = (s.cache.entries id).keys
  /-- Only the newest of several versions can be dropped, and then it is the only entry that is
  removed. -/
  invalidate : ∀ r, op = .invalidate r →
    ((∃ reply, op.reply s = .ok reply) ↔
      r.version.number = s.cache.versionCount r.id ∧ 2 ≤ s.cache.versionCount r.id) ∧
    ((∃ reply, op.reply s = .ok reply) →
      (op.after s).cache.entries r.id = (s.cache.entries r.id).filter (·.1 ≠ r.version))

/-! ### How operations run -/

theorem run_readCache {β : Type} (read : Cache α → Except Misuse β) (f : β → Reply α)
    (s : Session α σ) :
    ExceptT.run (do return f (← readCache read) : Work α σ (Reply α)) s =
      match read s.cache with
      | .ok value => (.ok (f value), s)
      | .error what => (.error (.misuse what), s) := by
  rw [run_bind]
  unfold readCache
  rw [run_get_bind]
  cases read s.cache <;> rfl

theorem run_changeCache (change : Cache α → Except Misuse (Cache α)) (s : Session α σ) :
    ExceptT.run (do changeCache change; return .done : Work α σ (Reply α)) s =
      match change s.cache with
      | .ok cache => (.ok .done, { s with cache })
      | .error what => (.error (.misuse what), s) := by
  rw [run_bind]
  unfold changeCache
  rw [run_get_bind, run_bind]
  cases change s.cache <;> rfl

namespace Operation

/-- The operation changes the cache in this way. -/
def Makes (op : Operation α) (change : Cache α → Except Misuse (Cache α)) : Prop :=
  ∀ σ : Type, (op.perform : Work α σ (Reply α)) = do changeCache change; return .done

variable {op : Operation α} {change : Cache α → Except Misuse (Cache α)} {changed : Cache α}
  {what : Misuse}

theorem makes_put (r : Reference) (o : Outcome α) : (put r o).Makes (·.put r o) :=
  fun _ => rfl

theorem makes_invalidate (r : Reference) :
    (invalidate r : Operation α).Makes (·.invalidate r) := fun _ => rfl

theorem Makes.reply_of_ok (hmakes : op.Makes change) (h : change s.cache = .ok changed) :
    op.reply s = .ok .done := by
  unfold reply
  rw [hmakes, run_changeCache, h]

theorem Makes.after_of_ok (hmakes : op.Makes change) (h : change s.cache = .ok changed) :
    op.after s = { s with cache := changed } := by
  unfold after
  rw [hmakes, run_changeCache, h]

theorem Makes.reply_of_error (hmakes : op.Makes change) (h : change s.cache = .error what) :
    op.reply s = .error (.misuse what) := by
  unfold reply
  rw [hmakes, run_changeCache, h]

theorem Makes.after_of_error (hmakes : op.Makes change) (h : change s.cache = .error what) :
    op.after s = s := by
  unfold after
  rw [hmakes, run_changeCache, h]

/-- An operation that changes the cache is accepted if the change can be made. -/
theorem Makes.reply_eq_ok_iff (hmakes : op.Makes change) :
    (∃ reply, op.reply s = .ok reply) ↔ ∃ changed, change s.cache = .ok changed := by
  cases h : change s.cache with
  | ok changed => exact ⟨fun _ => ⟨changed, rfl⟩, fun _ => ⟨.done, hmakes.reply_of_ok h⟩⟩
  | error what =>
    rw [hmakes.reply_of_error h]
    constructor
    · rintro ⟨_, heq⟩
      cases heq
    · rintro ⟨_, heq⟩
      cases heq

/-- If the change cannot be made, everything stays as it is. -/
theorem Makes.refused (hmakes : op.Makes change) {error : Error}
    (herror : op.reply s = .error error) : op.after s = s ∧ ∃ what, error = .misuse what := by
  cases h : change s.cache with
  | ok changed =>
    rw [hmakes.reply_of_ok h] at herror
    cases herror
  | error what =>
    rw [hmakes.reply_of_error h] at herror
    exact ⟨hmakes.after_of_error h, what, (Except.error.inj herror).symm⟩

/-- An operation that reads leaves the session as it is. -/
theorem after_of_isReading (h : op.isReading = true) (s : Session α σ) : op.after s = s := by
  have hread : ∀ {β : Type} (read : Cache α → Except Misuse β) (f : β → Reply α),
      (ExceptT.run (do return f (← readCache read) : Work α σ (Reply α)) s).2 = s := by
    intro β read f
    rw [run_readCache]
    cases read s.cache <;> rfl
  cases op with
  | track | put | invalidate => cases h
  | get | newest | references | pendingWindow | versionCount => exact hread _ _

theorem refused_of_isReading (h : op.isReading = true) {error : Error}
    (herror : op.reply s = .error error) : op.after s = s ∧ ∃ what, error = .misuse what := by
  refine ⟨after_of_isReading h s, ?_⟩
  have hread : ∀ {β : Type} (read : Cache α → Except Misuse β) (f : β → Reply α),
      (ExceptT.run (do return f (← readCache read) : Work α σ (Reply α)) s).1 = .error error →
      ∃ what, error = .misuse what := by
    intro β read f heq
    rw [run_readCache] at heq
    cases hcache : read s.cache with
    | ok value =>
      rw [hcache] at heq
      cases heq
    | error what =>
      rw [hcache] at heq
      exact ⟨what, (Except.error.inj heq).symm⟩
  cases op with
  | track | put | invalidate => cases h
  | get | newest | references | pendingWindow | versionCount => exact hread _ _ herror

end Operation

/-! ### One operation -/

/-- Nothing is written for what is not tracked. -/
theorem put_of_none (hh : cache.history? id = none) (v : Version) (o : Outcome α) :
    cache.put ⟨id, v⟩ o = .error (.notTracked id) := by
  simp only [put, history, hh, bind, Except.bind]

/-- The history of each structure is as long as versions are left, and it holds what was written. -/
structure Recounts (ops : List (Operation α)) (cache : Cache α) : Prop where
  /-- Structures are tracked once. -/
  nodup : cache.histories.keys.Nodup
  /-- Of what is not tracked nothing is left. -/
  untracked : ∀ id, cache.history? id = none → left ops id = 0
  /-- This is how many versions are left. -/
  newest : ∀ id h, cache.history? id = some h → h.newest.number = left ops id
  /-- This was written for them. -/
  get? : ∀ id h, cache.history? id = some h → ∀ v, v.number ≤ h.newest.number →
    h.get? v = written ops ⟨id, v⟩

theorem left_concat (ops : List (Operation α)) (op : Operation α) (id : StructureId) :
    left (ops ++ [op]) id = op.leftAfter id (left ops id) := List.foldl_concat ..

theorem written_concat (ops : List (Operation α)) (op : Operation α) (r : Reference) :
    written (ops ++ [op]) r = op.writtenAfter r (written ops r) := List.foldl_concat ..

/-- Whatever changes the cache changes the history of one structure. -/
theorem Recounts.withHistory {ops : List (Operation α)} {op : Operation α}
    (hrecounts : Recounts ops cache) {h' : History α}
    (hothers : ∀ other, other ≠ id → op.leftAfter other (left ops other) = left ops other ∧
      ∀ v, op.writtenAfter ⟨other, v⟩ (written ops ⟨other, v⟩) = written ops ⟨other, v⟩)
    (hnewest : h'.newest.number = op.leftAfter id (left ops id))
    (hget : ∀ v, v.number ≤ h'.newest.number →
      h'.get? v = op.writtenAfter ⟨id, v⟩ (written ops ⟨id, v⟩)) :
    Recounts (ops ++ [op]) (cache.withHistory id h') where
  nodup := Table.nodup_keys_put hrecounts.nodup _ _
  untracked other hother := by
    by_cases heq : other = id
    · subst heq
      rw [history?_withHistory_self] at hother
      cases hother
    · rw [history?_withHistory_of_ne _ _ heq] at hother
      rw [left_concat, (hothers other heq).1]
      exact hrecounts.untracked other hother
  newest other h hh := by
    rw [left_concat]
    by_cases heq : other = id
    · subst heq
      rw [history?_withHistory_self] at hh
      obtain rfl := Option.some.inj hh
      exact hnewest
    · rw [history?_withHistory_of_ne _ _ heq] at hh
      rw [(hothers other heq).1]
      exact hrecounts.newest other h hh
  get? other h hh v hv := by
    rw [written_concat]
    by_cases heq : other = id
    · subst heq
      rw [history?_withHistory_self] at hh
      obtain rfl := Option.some.inj hh
      exact hget v hv
    · rw [history?_withHistory_of_ne _ _ heq] at hh
      rw [(hothers other heq).2]
      exact hrecounts.get? other h hh v hv

/-- An operation that changes nothing, neither in the cache nor in what is known. -/
theorem Recounts.idle {ops : List (Operation α)} {op : Operation α}
    (hrecounts : Recounts ops cache)
    (hleft : ∀ id, op.leftAfter id (left ops id) = left ops id)
    (hwritten : ∀ r : Reference, r.version.number ≤ left ops r.id →
      op.writtenAfter r (written ops r) = written ops r) : Recounts (ops ++ [op]) cache where
  nodup := hrecounts.nodup
  untracked id hid := by rw [left_concat, hleft, hrecounts.untracked id hid]
  newest id h hh := by rw [left_concat, hleft, hrecounts.newest id h hh]
  get? id h hh v hv := by
    rw [written_concat, hwritten _ (by rw [← hrecounts.newest id h hh]; exact hv),
      hrecounts.get? id h hh v hv]

theorem Recounts.track {ops : List (Operation α)} (hrecounts : Recounts ops cache) (r : Reference)
    (subtopic : Option Subtopic) (o : Outcome α) :
    Recounts (ops ++ [.track r subtopic o])
      (cache.withHistory r.id (.start r.version subtopic o)) := by
  refine hrecounts.withHistory (fun other hother => ⟨if_neg hother.symm, fun v =>
    if_neg hother.symm⟩) ?_ ?_
  · rw [History.newest_start]
    exact (if_pos rfl).symm
  · intro v hv
    rw [History.newest_start] at hv
    unfold Operation.writtenAfter
    simp only [if_true]
    split
    · rename_i heq
      rw [heq, History.get?_start_newest]
    · -- older versions are pending
      rename_i hne
      have hlt : v.number < r.version.number :=
        Nat.lt_of_le_of_ne hv fun hnum => hne (Version.ext hnum)
      rw [if_pos hlt, History.get?_start_of_lt subtopic o hlt]

theorem Recounts.put {ops : List (Operation α)} (hrecounts : Recounts ops s.cache) (r : Reference)
    (o : Outcome α) : Recounts (ops ++ [.put r o]) ((Operation.put r o).after s).cache := by
  obtain ⟨id, w⟩ := r
  have hmakes := Operation.makes_put ⟨id, w⟩ o
  cases hh : s.cache.history? id with
  | none =>
    -- nothing is written, and nothing is left that could be read
    rw [hmakes.after_of_error (put_of_none hh w o)]
    refine hrecounts.idle (fun _ => rfl) fun other hother => if_neg ?_
    rintro rfl
    have hone : 1 ≤ left ops id := Nat.le_trans w.one_le hother
    rw [hrecounts.untracked id hh] at hone
    cases hone
  | some h =>
    rw [hmakes.after_of_ok (put_of_history? hh w o)]
    refine hrecounts.withHistory (fun other hother => ⟨rfl, fun v => if_neg fun heq =>
      hother (congrArg Reference.id heq).symm⟩) ?_ ?_
    · rw [History.newest_set]
      exact hrecounts.newest id h hh
    · intro v hv
      rw [History.newest_set] at hv
      obtain ⟨old, hold⟩ := h.exists_get? hv
      rw [History.get?_set]
      by_cases heq : v = w
      · subst heq
        rw [if_pos rfl, hold]
        exact (if_pos rfl).symm
      · have hr : (⟨id, w⟩ : Reference) ≠ ⟨id, v⟩ := fun hr =>
          heq (congrArg Reference.version hr).symm
        rw [if_neg heq]
        exact (hrecounts.get? id h hh v hv).trans (if_neg hr).symm

theorem Recounts.invalidate {ops : List (Operation α)} (hrecounts : Recounts ops s.cache)
    (r : Reference) :
    Recounts (ops ++ [.invalidate r]) ((Operation.invalidate r).after s).cache := by
  obtain ⟨id, w⟩ := r
  have hone := w.one_le
  have hmakes := Operation.makes_invalidate (α := α) ⟨id, w⟩
  -- what cannot be dropped does not count as dropped
  have hrefused : ¬(w.number = left ops id ∧ 2 ≤ left ops id) →
      Recounts (ops ++ [.invalidate ⟨id, w⟩]) s.cache := by
    intro hnot
    refine hrecounts.idle (fun other => if_neg ?_) fun _ _ => rfl
    rintro ⟨rfl, hdrops⟩
    exact hnot hdrops
  cases hh : s.cache.history? id with
  | none =>
    rw [hmakes.after_of_error (invalidate_of_none hh w)]
    exact hrefused fun ⟨hnum, _⟩ => by
      rw [hrecounts.untracked id hh] at hnum
      omega
  | some h =>
    have hleft := hrecounts.newest id h hh
    by_cases hnewest : h.newest = w
    · subst hnewest
      cases hrest : h.dropNewest? with
      | none =>
        rw [hmakes.after_of_error (invalidate_of_last hh hrest)]
        refine hrefused fun ⟨_, htwo⟩ => ?_
        obtain ⟨h', hdrop, -⟩ := History.exists_dropNewest? (hleft.symm ▸ htwo)
        rw [hdrop] at hrest
        cases hrest
      | some h' =>
        rw [hmakes.after_of_ok (invalidate_of_history? hh hrest)]
        obtain ⟨hnum, hfirst⟩ := History.of_dropNewest? hrest
        have hone' := h'.one_le_newest
        have hdrops : id = id ∧ h.newest.number = left ops id ∧ 2 ≤ left ops id :=
          ⟨rfl, hleft, by omega⟩
        refine hrecounts.withHistory (fun other hother => ⟨if_neg fun hdrops =>
          hother hdrops.1.symm, fun _ => rfl⟩) ?_ ?_
        · refine Eq.trans ?_ (if_pos hdrops).symm
          omega
        · intro v hv
          rw [History.get?_eq_of_initial hfirst hv]
          exact hrecounts.get? id h hh v (by omega)
    · rw [hmakes.after_of_error (invalidate_of_ne hh hnewest)]
      exact hrefused fun ⟨hnum, _⟩ => hnewest (Version.ext (hleft.trans hnum.symm))

/-- **What is known from the operations stays known** after one more, whether it is refused or
not. -/
theorem Recounts.after {ops : List (Operation α)} (hrecounts : Recounts ops s.cache)
    (op : Operation α) : Recounts (ops ++ [op]) (op.after s).cache := by
  cases op with
  | track r subtopic o => exact hrecounts.track r subtopic o
  | put r o => exact hrecounts.put r o
  | invalidate r => exact hrecounts.invalidate r
  | get | newest | references | pendingWindow | versionCount =>
    rw [Operation.after_of_isReading rfl]
    exact hrecounts.idle (fun _ => rfl) fun _ _ => rfl

theorem recounts_empty : Recounts [] (Cache.empty : Cache α) where
  nodup := List.nodup_nil
  untracked _ _ := rfl
  newest _ _ hh := by cases hh
  get? _ _ hh := by cases hh

/-- **After any operations** it is known what is in the cache. -/
theorem recounts_performAll (ops : List (Operation α)) (remote : σ) :
    Recounts ops (performAll ops { remote }).cache := by
  induction ops using List.reverseRecOn with
  | nil => exact recounts_empty
  | append_singleton ops op ih =>
    rw [performAll, List.foldl_concat]
    exact ih.after op

/-! ### What can be observed -/

theorem Recounts.left_eq_zero {ops : List (Operation α)} (hrecounts : Recounts ops cache)
    (hid : cache.tracks id ≠ true) : cache.history? id = none ∧ left ops id = 0 :=
  have hnone := Option.not_isSome_iff_eq_none.mp hid
  ⟨hnone, hrecounts.untracked id hnone⟩

theorem Recounts.spans {ops : List (Operation α)} (hrecounts : Recounts ops cache)
    (hid : cache.tracks id = true) : cache.Spans id (left ops id) := by
  obtain ⟨h, hh⟩ := exists_history?_of_tracks hid
  exact hrecounts.newest id h hh ▸ spans_of_history? hh

theorem Recounts.areIn {ops : List (Operation α)} (hrecounts : Recounts ops cache) :
    AreIn ops cache where
  nodup := hrecounts.nodup
  tracks id := by
    refine ⟨fun hid => (hrecounts.spans hid).one_le, fun hone => ?_⟩
    by_contra hid
    rw [(hrecounts.left_eq_zero hid).2] at hone
    cases hone
  keys id := by
    by_cases hid : cache.tracks id = true
    · obtain ⟨h, hh⟩ := exists_history?_of_tracks hid
      rw [entries_of_history? hh, History.keys_entries, ← hrecounts.newest id h hh]
      rfl
    · obtain ⟨hnone, hzero⟩ := hrecounts.left_eq_zero hid
      rw [entries_of_none hnone, hzero]
      rfl
  count id := by
    by_cases hid : cache.tracks id = true
    · exact (hrecounts.spans hid).count
    · obtain ⟨hnone, hzero⟩ := hrecounts.left_eq_zero hid
      rw [versionCount, hnone, hzero]
  references id hid := (hrecounts.spans hid).references
  newest id v := by
    by_cases hid : cache.tracks id = true
    · obtain ⟨top, htop, hnum⟩ := (hrecounts.spans hid).exists_newest
      rw [htop, ← hnum]
      refine ⟨fun heq => ?_, fun heq => by rw [Version.ext heq]⟩
      cases heq
      rfl
    · obtain ⟨hnone, hzero⟩ := hrecounts.left_eq_zero hid
      have hone := v.one_le
      simp only [Cache.newest, history, hnone, bind, Except.bind, hzero]
      refine ⟨fun heq => ?_, fun heq => by omega⟩
      cases heq
  reads r := by
    by_cases hid : cache.tracks r.id = true
    · exact (hrecounts.spans hid).get r.version
    · obtain ⟨hnone, hzero⟩ := hrecounts.left_eq_zero hid
      have hone := r.version.one_le
      rw [hzero]
      constructor
      · rintro ⟨o, ho⟩
        obtain ⟨h, hh, -⟩ := exists_history?_of_get ho
        rw [hnone] at hh
        cases hh
      · intro hle
        omega
  get r o ho := by
    obtain ⟨h, hh, hget⟩ := exists_history?_of_get ho
    rw [← hrecounts.get? r.id h hh r.version (History.le_newest_of_get? hget), hget]

/-! ### The rules -/

namespace Operation

theorem keys_after_put (r : Reference) (o : Outcome α) (s : Session α σ) (id : StructureId) :
    (((put r o).after s).cache.entries id).keys = (s.cache.entries id).keys := by
  cases hput : s.cache.put r o with
  | error what => rw [(makes_put r o).after_of_error hput]
  | ok changed =>
    rw [(makes_put r o).after_of_ok hput]
    obtain ⟨h, hh, rfl⟩ := exists_of_put hput
    by_cases hid : id = r.id
    · subst hid
      rw [entries_of_history? (history?_withHistory_self ..), entries_of_history? hh,
        History.keys_entries, History.keys_entries, History.versions, History.set, List.length_set]
      rfl
    · rw [entries, history?_withHistory_of_ne _ _ hid]
      rfl

theorem put_eq_ok_iff (r : Reference) (o : Outcome α) :
    (∃ changed, cache.put r o = .ok changed) ↔ cache.tracks r.id = true := by
  constructor
  · rintro ⟨changed, hput⟩
    obtain ⟨h, hh, -⟩ := exists_of_put hput
    exact tracks_of_history? hh
  · intro hid
    obtain ⟨h, hh⟩ := exists_history?_of_tracks hid
    exact ⟨_, put_of_history? hh r.version o⟩

theorem invalidate_eq_ok_iff (r : Reference) :
    (∃ changed, cache.invalidate r = .ok changed) ↔
      r.version.number = cache.versionCount r.id ∧ 2 ≤ cache.versionCount r.id := by
  constructor
  · rintro ⟨changed, hdrop⟩
    obtain ⟨h, h', hh, hversion, -, hnum, -⟩ := exists_of_invalidate hdrop
    have hone := h'.one_le_newest
    rw [versionCount_of_history? hh, hversion]
    exact ⟨rfl, by omega⟩
  · rintro ⟨hnum, htwo⟩
    cases hh : cache.history? r.id with
    | none =>
      rw [Cache.versionCount, hh] at htwo
      cases htwo
    | some h =>
      rw [versionCount_of_history? hh] at hnum htwo
      obtain ⟨h', hdrop, -⟩ := History.exists_dropNewest? htwo
      obtain ⟨id, v⟩ := r
      obtain rfl : v = h.newest := Version.ext hnum
      exact ⟨_, invalidate_of_history? hh hdrop⟩

theorem entries_of_invalidate {r : Reference} {changed : Cache α}
    (hdrop : cache.invalidate r = .ok changed) :
    changed.entries r.id = (cache.entries r.id).filter (·.1 ≠ r.version) := by
  obtain ⟨h, h', hh, hversion, rfl, hnum, hfirst⟩ := exists_of_invalidate hdrop
  rw [entries_of_history? (history?_withHistory_self ..), entries_of_history? hh, hversion,
    History.entries_of_initial hnum hfirst]

theorem history?_after_of_ne {op : Operation α} (hid : id ≠ op.target) (s : Session α σ) :
    (op.after s).cache.history? id = s.cache.history? id := by
  cases op with
  | track r subtopic o => exact history?_withHistory_of_ne _ _ hid
  | put r o =>
    cases hput : s.cache.put r o with
    | error what => rw [(makes_put r o).after_of_error hput]
    | ok changed =>
      rw [(makes_put r o).after_of_ok hput]
      obtain ⟨h, -, rfl⟩ := exists_of_put hput
      exact history?_withHistory_of_ne _ _ hid
  | invalidate r =>
    cases hdrop : s.cache.invalidate r with
    | error what => rw [(makes_invalidate r).after_of_error hdrop]
    | ok changed =>
      rw [(makes_invalidate r).after_of_ok hdrop]
      obtain ⟨h, h', -, -, rfl, -⟩ := exists_of_invalidate hdrop
      exact history?_withHistory_of_ne _ _ hid
  | get | newest | references | pendingWindow | versionCount => rw [after_of_isReading rfl]

/-- **Every operation obeys the rules** on every session. -/
theorem isLawful (op : Operation α) (s : Session α σ) : IsLawful op s where
  refused error herror := by
    cases op with
    | track => cases herror
    | put r o => exact (makes_put r o).refused herror
    | invalidate r => exact (makes_invalidate r).refused herror
    | get | newest | references | pendingWindow | versionCount =>
      exact refused_of_isReading rfl herror
  spares id hid := history?_after_of_ne hid s
  reads hreading := after_of_isReading hreading s
  put r o heq := by
    subst heq
    exact ⟨(makes_put r o).reply_eq_ok_iff.trans (put_eq_ok_iff r o), keys_after_put r o s⟩
  invalidate r heq := by
    subst heq
    have hmakes := makes_invalidate (α := α) r
    refine ⟨hmakes.reply_eq_ok_iff.trans (invalidate_eq_ok_iff r), fun hok => ?_⟩
    obtain ⟨changed, hdrop⟩ := hmakes.reply_eq_ok_iff.mp hok
    rw [hmakes.after_of_ok hdrop]
    exact entries_of_invalidate hdrop

end Operation

/-- **What operations do to a cache.** After any operations on an empty cache, each of which may be
refused, the cache holds what they have left in it, and the next operation obeys the rules. -/
theorem performAll_isLawful (ops : List (Operation α)) (remote : σ) :
    AreIn ops (performAll ops { remote }).cache ∧
      ∀ op, IsLawful op (performAll ops { remote }) :=
  ⟨(recounts_performAll ops remote).areIn, fun op => op.isLawful _⟩

end Cache

end ContentPack
