import ContentPack.Proofs.Cache
import ContentPack.Proofs.Load
import ContentPack.Proofs.Work

/-!
# Where a search for a version can stand

`Facts` is what is true of the versions of structures, whether a search knows it or not: the
outcome of each stored version, and which versions cannot be part of a result. A history is
`History.Sound` if it knows nothing but facts, and if only useless versions were dropped from it.
Everything a search does to a history keeps it sound (`sound_start`, `Sound.set`, `Sound.trims`).

A walk down the versions stands `At` a version if that is the newest one, or if the one above it
is the newest one, a failure that is dropped next. The walk ends when the history is `Settled` on
an outcome: that of its newest version, which is a success or the only version left.
`Resolver.Standing` puts this together for a walk and the history that it works on, whatever the
source is that it loads from.
-/

namespace ContentPack

/-- **What is true of the versions of structures.** -/
structure Facts where
  /-- The outcome of a version, if it is stored. -/
  verdict : StructureId → Version → Option (Outcome Loaded)
  /-- The version is of no use. -/
  Useless : StructureId → Version → Prop
  /-- What is not stored is of no use. -/
  useless_of_none : ∀ {id v}, verdict id v = none → Useless id v
  /-- What failed on its own is of no use. -/
  useless_of_failure : ∀ {id v reasons}, verdict id v = some (.failure reasons) → Useless id v

namespace History

/-! ### Sound histories -/

section Sound

variable {F : Facts} {id : StructureId} {h h' : History Loaded}

/-- **A sound history** knows nothing but facts, the versions above it are of no use, and it does
not go beyond the stored ones. -/
structure Sound (F : Facts) (id : StructureId) (h : History Loaded) : Prop where
  /-- What is not pending is a fact. -/
  known : ∀ v o, h.get? v = some o → o = .pending ∨ F.verdict id v = some o
  /-- Nothing useful was dropped. -/
  above : ∀ v, h.newest.number < v.number → F.Useless id v
  /-- The versions go up to a stored one at most. -/
  stored : ∃ v, h.newest.number ≤ v.number ∧ F.verdict id v ≠ none

theorem sound_start {newest : Version} {o : Outcome Loaded} (subtopic : Option Subtopic)
    (ho : F.verdict id newest = some o)
    (hnewest : ∀ v, newest.number < v.number → F.verdict id v = none) :
    Sound F id (start newest subtopic o) where
  known v o' hv := by
    have hle := le_newest_of_get? hv
    rw [newest_start] at hle
    by_cases heq : v = newest
    · subst heq
      rw [get?_start_newest] at hv
      exact Or.inr (ho.trans hv)
    · -- everything below the newest version is pending
      have hlt : v.number < newest.number :=
        Nat.lt_of_le_of_ne hle fun hnum => heq (Version.ext hnum)
      rw [get?_start_of_lt subtopic o hlt] at hv
      exact Or.inl (Option.some.inj hv).symm
  above v hv := by
    rw [newest_start] at hv
    exact F.useless_of_none (hnewest v hv)
  stored := by
    refine ⟨newest, Nat.le_of_eq (by rw [newest_start]), ?_⟩
    rw [ho]
    exact Option.some_ne_none o

theorem Sound.set (hs : h.Sound F id) {v : Version} {o : Outcome Loaded}
    (ho : F.verdict id v = some o) : (h.set v o).Sound F id where
  known w o' hw := by
    rw [get?_set] at hw
    by_cases heq : w = v
    · rw [if_pos heq] at hw
      obtain ⟨-, -, rfl⟩ := Option.map_eq_some_iff.mp hw
      exact Or.inr (heq ▸ ho)
    · rw [if_neg heq] at hw
      exact hs.known w o' hw
  above w hw := hs.above w (by rwa [newest_set] at hw)
  stored := by
    rw [newest_set]
    exact hs.stored

theorem Sound.write {entries : List (Version × Outcome Loaded)} (hs : h.Sound F id)
    (hentries : ∀ entry ∈ entries, F.verdict id entry.1 = some entry.2) :
    (h.write entries).Sound F id := by
  induction entries generalizing h with
  | nil => exact hs
  | cons entry rest ih =>
    refine ih (hs.set (hentries entry List.mem_cons_self)) ?_
    intro other hother
    exact hentries other (List.mem_cons_of_mem _ hother)

/-- Dropping failures keeps a history sound. -/
theorem Sound.trims (hs : h.Sound F id) (t : Trims h h') : h'.Sound F id where
  known v o hv := hs.known v o (t.get?_of_get? hv)
  above v hv := by
    by_cases hle : v.number ≤ h.newest.number
    · -- it was dropped, so it had failed
      obtain ⟨o, ho⟩ := h.exists_get? hle
      obtain ⟨reasons, rfl⟩ := t.dropped v o hv ho
      rcases hs.known v _ ho with hpending | hfailure
      · cases hpending
      · exact F.useless_of_failure hfailure
    · exact hs.above v (not_le.mp hle)
  stored := by
    obtain ⟨v, hv, hstored⟩ := hs.stored
    exact ⟨v, Nat.le_trans t.newest_le hv, hstored⟩

/-- So does dropping a newest version that is of no use. -/
theorem Sound.drop (hs : h.Sound F id) (hnum : h'.newest.number + 1 = h.newest.number)
    (hfirst : h'.outcomes <+: h.outcomes) (huseless : F.Useless id h.newest) :
    h'.Sound F id where
  known v o hv := by
    have hv' := get?_eq_of_initial hfirst (le_newest_of_get? hv)
    exact hs.known v o (hv'.symm.trans hv)
  above v hv := by
    by_cases heq : v = h.newest
    · rw [heq]
      exact huseless
    · refine hs.above v ?_
      have hne : v.number ≠ h.newest.number := fun hnum' => heq (Version.ext hnum')
      omega
  stored := by
    obtain ⟨v, hv, hstored⟩ := hs.stored
    exact ⟨v, by omega, hstored⟩

/-- What a sound history says of a version that is not pending is true. -/
theorem Sound.verdict_eq (hs : h.Sound F id) {v : Version} {o : Outcome Loaded}
    (hv : h.get? v = some o) (ho : o ≠ .pending) : F.verdict id v = some o :=
  (hs.known v o hv).resolve_left ho

end Sound

/-! ### What was found -/

section Found

variable {P : Version → Loaded → Prop} {h h' : History Loaded}

/-- Everything that was found is as a predicate says of a version and a structure. -/
def AllFound (P : Version → Loaded → Prop) (h : History Loaded) : Prop :=
  ∀ v l, h.get? v = some (.success l) → P v l

theorem AllFound.imp {Q : Version → Loaded → Prop} (hall : h.AllFound P)
    (himp : ∀ v l, P v l → Q v l) : h.AllFound Q :=
  fun v l hv => himp v l (hall v l hv)

theorem allFound_start {newest : Version} {o : Outcome Loaded} (subtopic : Option Subtopic)
    (ho : ∀ l, o = .success l → P newest l) : (start newest subtopic o).AllFound P := by
  intro v l hv
  have hle := le_newest_of_get? hv
  rw [newest_start] at hle
  by_cases heq : v = newest
  · subst heq
    rw [get?_start_newest] at hv
    exact ho l (Option.some.inj hv)
  · -- everything below the newest version is pending
    have hlt : v.number < newest.number :=
      Nat.lt_of_le_of_ne hle fun hnum => heq (Version.ext hnum)
    rw [get?_start_of_lt subtopic o hlt] at hv
    cases hv

theorem AllFound.set (hall : h.AllFound P) {v : Version} {o : Outcome Loaded}
    (ho : ∀ l, o = .success l → P v l) : (h.set v o).AllFound P := by
  intro w l hw
  rw [get?_set] at hw
  by_cases heq : w = v
  · rw [if_pos heq] at hw
    obtain ⟨-, -, hl⟩ := Option.map_eq_some_iff.mp hw
    exact heq ▸ ho l hl
  · rw [if_neg heq] at hw
    exact hall w l hw

theorem AllFound.write {entries : List (Version × Outcome Loaded)} (hall : h.AllFound P)
    (hentries : ∀ entry ∈ entries, ∀ l, entry.2 = .success l → P entry.1 l) :
    (h.write entries).AllFound P := by
  induction entries generalizing h with
  | nil => exact hall
  | cons entry rest ih =>
    obtain ⟨hentry, hrest⟩ := List.forall_mem_cons.mp hentries
    exact ih (hall.set hentry) hrest

theorem AllFound.trims (hall : h.AllFound P) (t : Trims h h') : h'.AllFound P :=
  fun v l hv => hall v l (t.get?_of_get? hv)

theorem AllFound.of_initial (hall : h.AllFound P) (hfirst : h'.outcomes <+: h.outcomes) :
    h'.AllFound P := by
  intro v l hv
  have hv' := get?_eq_of_initial hfirst (le_newest_of_get? hv)
  exact hall v l (hv'.symm.trans hv)

end Found

/-! ### Where a walk stands -/

variable {α : Type} {h h' : History α}

/-- **A walk has come to a version**: it is the newest one, or the newest one is the failure above
it, which is dropped next. -/
def At (h : History α) (v : Version) : Option Version → Prop
  | none => h.newest = v
  | some above => h.newest = above ∧ above.number = v.number + 1 ∧
      ∃ reasons, h.get? above = some (.failure reasons)

theorem At.le_newest {lastInvalid : Option Version} {v : Version} (hat : h.At v lastInvalid) :
    v.number ≤ h.newest.number := by
  cases lastInvalid with
  | none =>
    have heq : h.newest = v := hat
    rw [heq]
  | some above =>
    obtain ⟨rfl, hnum, -⟩ := hat
    omega

/-- What becomes known of the versions from there on down does not move a walk. -/
theorem At.of_le {lastInvalid : Option Version} {v : Version} (hat : h.At v lastInvalid)
    (hnewest : h'.newest = h.newest)
    (hget : ∀ w, v.number < w.number → h'.get? w = h.get? w) : h'.At v lastInvalid := by
  cases lastInvalid with
  | none => exact hnewest.trans hat
  | some above =>
    obtain ⟨htop, hnum, hfailure⟩ := hat
    refine ⟨hnewest.trans htop, hnum, ?_⟩
    rw [hget above (by omega)]
    exact hfailure

/-- **A search has ended with an outcome**: that of the newest version that is left, which can be
used or is the only one. -/
structure Settled (h : History α) (o : Outcome α) : Prop where
  /-- It is the outcome of the newest version. -/
  newest : h.get? h.newest = some o
  /-- If it is no success, there is no other version. -/
  last : (∃ l, o = .success l) ∨ (h.newest.number = 1 ∧ ∃ reasons, o = .failure reasons)

theorem Settled.ne_pending {o : Outcome α} (hs : h.Settled o) : o ≠ .pending := by
  rcases hs.last with ⟨l, rfl⟩ | ⟨-, reasons, rfl⟩
  · intro h
    cases h
  · intro h
    cases h

/-- Where a search has ended, a walk waits for no version. -/
theorem Settled.not_at_pending {o : Outcome α} (hsettled : h.Settled o)
    {v : Version} {lastInvalid : Option Version} (hat : h.At v lastInvalid) :
    h.get? v ≠ some .pending := by
  intro hpending
  cases lastInvalid with
  | none =>
    obtain rfl : h.newest = v := hat
    rw [hsettled.newest] at hpending
    exact hsettled.ne_pending (Option.some.inj hpending)
  | some above =>
    -- the version above failed, so it is not the only one
    obtain ⟨rfl, hnum, reasons, hfailure⟩ := hat
    rw [hsettled.newest] at hfailure
    obtain rfl := Option.some.inj hfailure
    have hone := v.one_le
    rcases hsettled.last with ⟨l, hl⟩ | ⟨hlast, -⟩
    · cases hl
    · omega

/-- Nothing can be dropped from a history on which a search has ended. -/
theorem Settled.eq_of_trims {o : Outcome α} (hs : h.Settled o) (t : Trims h h') : h' = h := by
  have hnum : h'.newest.number = h.newest.number := by
    by_contra hne
    have hle := t.newest_le
    have hone := h'.one_le_newest
    obtain ⟨reasons, rfl⟩ := t.dropped h.newest o (by omega) hs.newest
    rcases hs.last with ⟨l, hl⟩ | ⟨hlast, -⟩
    · cases hl
    · omega
  exact t.eq_of_newest hnum

end History

/-! ### Walks that wait for a version, and walks that have ended -/

/-- The session with another history of a structure. -/
def Session.withHistory {α σ : Type} (s : Session α σ) (id : StructureId) (h : History α) :
    Session α σ := { s with cache := s.cache.withHistory id h }

namespace Session

variable {α σ : Type} (s : Session α σ) (id : StructureId) (h h' : History α)

@[simp] theorem history?_withHistory :
    (s.withHistory id h).cache.history? id = some h := Cache.history?_withHistory_self ..

@[simp] theorem withHistory_withHistory :
    (s.withHistory id h).withHistory id h' = s.withHistory id h' :=
  congrArg (fun cache => ({ s with cache } : Session α σ)) (Cache.withHistory_withHistory ..)

theorem withHistory_of_history? (hh : s.cache.history? id = some h) : s.withHistory id h = s :=
  congrArg (fun cache => ({ s with cache } : Session α σ)) (Cache.withHistory_of_history? hh)

end Session

namespace Resolver

/-- Find versions in a store, with a checker and a window. -/
def ofStore (store : Store) (checker : Checker) (window : Int) :
    Resolver Loaded (List Request) :=
  { source := store.source, judge := checker.judge, window }

variable {α σ : Type}

/-- The versions that are loaded together when one of them is needed. -/
def batch (r : Resolver α σ) (h : History α) (v : Version) : List Version :=
  History.pendingRun h.outcomes v.number (max 1 r.window).toNat

/-- The request for versions of a structure. -/
def versionsRequest (e : Errand) (batch : List Version) : Request :=
  .versions e.id.locator (batch.map Version.toInt)

/-- **A walk that knows the newest version** waits for the version it has come to, or it has
ended. -/
inductive Standing (r : Resolver α σ) (e : Errand) (h : History α) : Walk α → Prop
  /-- The version is pending, and it is loaded together with pending ones below it. -/
  | loading {v : Version} {lastInvalid : Option Version} {load : Load} (hat : h.At v lastInvalid)
      (pending : h.get? v = some .pending)
      (reached : load.Reached r.source (versionsRequest e (r.batch h v))) :
      Standing r e h (.loading (.version v lastInvalid (r.batch h v)) load)
  /-- The search has ended. -/
  | ended {o : Outcome α} (settled : h.Settled o) : Standing r e h (.ended o)

/-- **Where a walk comes to a halt**: it has just asked for the version that it has come to, or it
has ended. -/
inductive Halts (r : Resolver α σ) (e : Errand) (h : History α) : Walk α → Prop
  /-- The version is pending. -/
  | asks {v : Version} {lastInvalid : Option Version} (hat : h.At v lastInvalid)
      (pending : h.get? v = some .pending) :
      Halts r e h (.loading (.version v lastInvalid (r.batch h v))
        (Load.ask r.source.delays (versionsRequest e (r.batch h v))))
  /-- The search has ended. -/
  | ended {o : Outcome α} (settled : h.Settled o) : Halts r e h (.ended o)

theorem Halts.standing {r : Resolver α σ} {e : Errand} {h : History α} {walk : Walk α}
    (hhalts : Halts r e h walk) : Standing r e h walk := by
  cases hhalts with
  | asks hat pending => exact .loading hat pending .ask
  | ended settled => exact .ended settled

/-- Where a search has ended, a walk has ended. -/
theorem Standing.eq_ended {r : Resolver α σ} {e : Errand} {h : History α} {walk : Walk α}
    {o : Outcome α} (hsettled : h.Settled o) (hstanding : Standing r e h walk) :
    walk = .ended o := by
  cases hstanding with
  | ended settled =>
    have hnewest := settled.newest
    rw [hsettled.newest] at hnewest
    rw [Option.some.inj hnewest]
  | loading hat pending => exact absurd pending (hsettled.not_at_pending hat)

end Resolver

end ContentPack
