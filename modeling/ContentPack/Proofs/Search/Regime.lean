import ContentPack.Proofs.Search.Alone

/-!
# What searches keep of a whole cache

A `Regime` says for every structure what is known of its history between searches, and what a search
for it keeps. Searches for different structures keep what is known of all structures, settle their
own, and leave the others alone (`Regime.ensures_resolveAll`). The errors that they end with come
from requests only.
-/

namespace ContentPack

variable {α σ : Type}

/-- The history of a structure is settled on an outcome. -/
def Cache.IsSettled (cache : Cache α) (id : StructureId) (o : Outcome α) : Prop :=
  ∃ h, cache.history? id = some h ∧ h.Settled o

theorem Cache.IsSettled.ne_pending {cache : Cache α} {id : StructureId} {o : Outcome α}
    (h : cache.IsSettled id o) : o ≠ .pending := by
  obtain ⟨_, -, hsettled⟩ := h
  exact hsettled.ne_pending

theorem Cache.IsSettled.of_history?_eq {cache cache' : Cache α} {id : StructureId} {o : Outcome α}
    (h : cache.IsSettled id o) (hsame : cache'.history? id = cache.history? id) :
    cache'.IsSettled id o := by
  obtain ⟨h, hh, hsettled⟩ := h
  exact ⟨h, hsame.trans hh, hsettled⟩

/-- No settled outcome is pending. -/
theorem pending_notMem_of_settled {ι : Type} {id : ι → StructureId} {cache : Cache α}
    {items : List ι} {outcomes : List (Outcome α)}
    (h : List.Forall₂ (fun i o => cache.IsSettled (id i) o) items outcomes) :
    .pending ∉ outcomes := by
  intro hmem
  obtain ⟨i, -, hsettled⟩ := exists_left_of_forall₂ h hmem
  exact hsettled.ne_pending rfl

/-- **A regime**: what is known of the histories of a cache, and what searches keep. -/
structure Regime (r : Resolver α σ) where
  /-- What is known of the history of a structure between searches. -/
  Known : StructureId → History α → Prop
  /-- What a search keeps. -/
  search : ∀ e, Resolver.SearchInvariant r e
  /-- A search may start from what is known. -/
  holds : ∀ {e h}, Known e.id h → (search e).Holds h
  /-- What a search keeps is known once it has ended. -/
  known : ∀ {e h o}, (search e).Holds h → h.Settled o → Known e.id h
  /-- Everything but the page of a subtopic may be tracked at any time. -/
  opens : ∀ {e : Errand}, e.id.kind ≠ .subtopic → e.subtopic = none → (search e).Opens

namespace Regime

variable {r : Resolver α σ} (R : Regime r)

/-- Every history of the cache is known. -/
def KnownIn (cache : Cache α) : Prop := ∀ id h, cache.history? id = some h → R.Known id h

/-- **What searches for structures of some kinds leave**: what is known stays known, nothing newer
is tracked, and structures of other kinds are not touched. -/
structure Leaves (kinds : List Kind) (cache cache' : Cache α) : Prop where
  /-- Every history is known. -/
  known : R.KnownIn cache'
  /-- Nothing newer is tracked than before. -/
  shrinks : cache.Shrinks cache'
  /-- Structures of other kinds are as they were. -/
  others : ∀ id : StructureId, id.kind ∉ kinds → cache'.history? id = cache.history? id

/-- **A search settles a structure on an outcome**: that of a history that may be known. -/
def Settles (id : StructureId) (o : Outcome α) : Prop := ∃ h, R.Known id h ∧ h.Settled o

variable {R}

/-- What is settled in a cache is settled by a search. -/
theorem KnownIn.settles {cache : Cache α} (hknown : R.KnownIn cache) {id : StructureId}
    {o : Outcome α} (hsettled : cache.IsSettled id o) : R.Settles id o := by
  obtain ⟨h, hh, hsettled⟩ := hsettled
  exact ⟨h, hknown id h hh, hsettled⟩

/-- A search does not settle on a pending outcome. -/
theorem pending_notMem_of_settles {ι : Type} {id : ι → StructureId} {items : List ι}
    {outcomes : List (Outcome α)}
    (h : List.Forall₂ (fun i o => R.Settles (id i) o) items outcomes) : .pending ∉ outcomes := by
  intro hmem
  obtain ⟨i, -, _, -, hsettled⟩ := exists_left_of_forall₂ h hmem
  exact hsettled.ne_pending rfl

theorem knownIn_empty : R.KnownIn .empty := by
  intro id h hh
  cases hh

theorem Leaves.refl {cache : Cache α} (hknown : R.KnownIn cache) (kinds : List Kind) :
    R.Leaves kinds cache cache :=
  ⟨hknown, .refl cache, fun _ _ => rfl⟩

theorem Leaves.mono {kinds kinds' : List Kind} {cache cache' : Cache α}
    (h : R.Leaves kinds cache cache') (hkinds : kinds ⊆ kinds') : R.Leaves kinds' cache cache' :=
  ⟨h.known, h.shrinks, fun id hid => h.others id fun hmem => hid (hkinds hmem)⟩

theorem Leaves.trans {kinds kinds' : List Kind} {cache cache' cache'' : Cache α}
    (h : R.Leaves kinds cache cache') (h' : R.Leaves kinds' cache' cache'') :
    R.Leaves (kinds ++ kinds') cache cache'' where
  known := h'.known
  shrinks := h.shrinks.trans h'.shrinks
  others id hid := by
    rw [List.mem_append, not_or] at hid
    exact (h'.others id hid.2).trans (h.others id hid.1)

/-- Searches are ready where everything is known, if they may track what is not there. -/
theorem KnownIn.ready {cache : Cache α} (hknown : R.KnownIn cache) {e : Errand}
    (hopens : cache.history? e.id = none → (R.search e).Opens) : (R.search e).Ready cache :=
  ⟨fun h hh => R.holds (hknown e.id h hh), hopens⟩

theorem KnownIn.withHistory {cache : Cache α} (hknown : R.KnownIn cache) {id : StructureId}
    {h : History α} (hh : R.Known id h) : R.KnownIn (cache.withHistory id h) := by
  intro other h' hh'
  by_cases hother : other = id
  · subst hother
    rw [Cache.history?_withHistory_self] at hh'
    exact Option.some.inj hh' ▸ hh
  · rw [Cache.history?_withHistory_of_ne _ _ hother] at hh'
    exact hknown other h' hh'

/-- **Searches for different structures** settle them, unless a request fails. -/
theorem ensures_resolveAll {errands : List Errand} {kinds : List Kind} {s : Session α σ}
    (hknown : R.KnownIn s.cache) (hkinds : ∀ e ∈ errands, e.id.kind ∈ kinds)
    (hopens : ∀ e ∈ errands, s.cache.history? e.id = none → (R.search e).Opens)
    (hids : (errands.map (·.id)).Nodup) {limit : Option Nat} (hlimit : limit ≠ some 0)
    (joins : Nat) :
    Work.Ensures (r.resolveAll limit errands joins) s
      (fun outcomes rest => R.Leaves kinds s.cache rest.cache ∧
        List.Forall₂ (fun e o => rest.cache.IsSettled e.id o) errands outcomes)
      (fun error _ => ∃ failure, error = .fetch failure) := by
  have hready : ∀ e ∈ errands, (R.search e).Ready s.cache :=
    fun e he => hknown.ready (hopens e he)
  refine (Resolver.ensures_resolveApart R.search hids hlimit joins hready).mono ?_
    (fun _ _ hfails => hfails.1)
  rintro outcomes rest ⟨⟨hshrinks, hothers⟩, hsettled⟩
  refine ⟨⟨?_, hshrinks, ?_⟩, hsettled.imp fun e o ⟨h, hh, _, hs⟩ => ⟨h, hh, hs⟩⟩
  · intro id
    -- what was looked for is settled, and everything else is as it was
    cases id using Resolver.sought_or_not errands with
    | sought e he =>
      intro h hh
      obtain ⟨o, -, h', hh', hholds, hsettled'⟩ := exists_right_of_forall₂ hsettled he
      rw [hh'] at hh
      exact Option.some.inj hh ▸ R.known hholds hsettled'
    | other id hnot =>
      intro h hh
      exact hknown id h (hothers id hnot ▸ hh)
  · intro id hid
    exact hothers id fun e he heq => hid (heq ▸ hkinds e he)

end Regime

end ContentPack
