import ContentPack.Proofs.Group
import ContentPack.Proofs.Search.Served
import Mathlib.Logic.Relation

/-!
# What searches for different structures find

Walks for different structures do not meet: each works alone on the history of its own structure
(`Resolver.apartInvariant`), as long as what one does to the source does not matter to the others.
So each ends as if there were no other: the history is settled on the outcome, and it is as the
walk keeps it (`ensures_resolveTogether`, `ensures_resolveApart`). If the source answers as a store,
it is sound (`ensures_resolveAlone`).

If the history is settled on a success, that is the newest version that is of use; if it is settled
on a failure, no version is of use (`History.Settled.found`).
-/

namespace ContentPack

variable {σ : Type} {F : Facts} {store : Store}

/-- **What a search finds**: the newest version that is of use, or none. -/
def Facts.Found (F : Facts) (id : StructureId) (o : Outcome Loaded) : Prop :=
  (∃ l v, o = .success l ∧ F.verdict id v = some (.success l) ∧
    ∀ w, v.number < w.number → F.Useless id w) ∨
  ∃ reasons, o = .failure reasons ∧ ∀ v, F.Useless id v

/-- If the oldest version is of no use either, none is. -/
theorem History.Sound.useless_of_oldest {id : StructureId} {h : History Loaded}
    (hsound : h.Sound F id) (holdest : h.newest.number ≤ 1)
    (huseless : F.Useless id h.newest) (v : Version) : F.Useless id v := by
  rcases Nat.lt_or_eq_of_le (Nat.le_trans holdest v.one_le) with hlt | heq
  · exact hsound.above v hlt
  · exact Version.ext heq ▸ huseless

theorem History.Settled.found {id : StructureId} {h : History Loaded} {o : Outcome Loaded}
    (hsettled : h.Settled o) (hsound : h.Sound F id) : F.Found id o := by
  have hverdict := hsound.verdict_eq hsettled.newest hsettled.ne_pending
  rcases hsettled.last with ⟨l, rfl⟩ | ⟨hone, reasons, rfl⟩
  · exact Or.inl ⟨l, h.newest, rfl, hverdict, hsound.above⟩
  · exact Or.inr ⟨reasons, rfl,
      hsound.useless_of_oldest (Nat.le_of_eq hone) (F.useless_of_failure hverdict)⟩

/-- Every history is sound. -/
def Cache.Sound (F : Facts) (cache : Cache Loaded) : Prop :=
  ∀ id h, cache.history? id = some h → h.Sound F id

theorem Cache.Sound.withHistory {cache : Cache Loaded} (hsound : cache.Sound F)
    {id : StructureId} {h : History Loaded} (hh : h.Sound F id) :
    (cache.withHistory id h).Sound F := by
  intro other h' hh'
  by_cases hother : other = id
  · subst hother
    rw [Cache.history?_withHistory_self] at hh'
    exact Option.some.inj hh' ▸ hh
  · rw [Cache.history?_withHistory_of_ne _ _ hother] at hh'
    exact hsound other h' hh'

/-- Nothing newer is tracked than before. -/
def Cache.Shrinks {α : Type} (cache cache' : Cache α) : Prop :=
  ∀ id h, cache.history? id = some h →
    ∃ h', cache'.history? id = some h' ∧ h'.newest.number ≤ h.newest.number

theorem Cache.Shrinks.refl {α : Type} (cache : Cache α) : cache.Shrinks cache :=
  fun _ h hh => ⟨h, hh, Nat.le_refl _⟩

theorem Cache.Shrinks.trans {α : Type} {cache cache' cache'' : Cache α} (h : cache.Shrinks cache')
    (h' : cache'.Shrinks cache'') : cache.Shrinks cache'' := by
  intro id first hfirst
  obtain ⟨second, hsecond, hle⟩ := h id first hfirst
  obtain ⟨third, hthird, hle'⟩ := h' id second hsecond
  exact ⟨third, hthird, Nat.le_trans hle' hle⟩

/-- A bound on the newest version of a structure stays one. -/
theorem Cache.Shrinks.newest_le {α : Type} {cache cache' : Cache α}
    (hshrinks : cache.Shrinks cache') {id : StructureId} {h : History α}
    (hh : cache'.history? id = some h) {n : Nat}
    (hn : (cache.history? id).map (·.newest.number) = some n) : h.newest.number ≤ n := by
  obtain ⟨h₀, hh₀, rfl⟩ := Option.map_eq_some_iff.mp hn
  obtain ⟨h', hh', hle⟩ := hshrinks id h₀ hh₀
  rw [hh] at hh'
  exact Option.some.inj hh' ▸ hle

namespace Resolver

open Work

section Apart

variable {α : Type} {r : Resolver α σ} {cache cache' : Cache α}

theorem Touches.history?_eq {id other : StructureId} (h : Touches id cache cache')
    (hne : other ≠ id) : cache'.history? other = cache.history? other := by
  rcases h with rfl | ⟨h, rfl, -⟩
  · rfl
  · exact Cache.history?_withHistory_of_ne _ _ hne

theorem Touches.shrinks {id : StructureId} (h : Touches id cache cache') :
    cache.Shrinks cache' := by
  intro other h₀ hh₀
  by_cases hother : other = id
  · subst hother
    rcases h with rfl | ⟨h, rfl, hlowers⟩
    · exact ⟨h₀, hh₀, Nat.le_refl _⟩
    · exact ⟨h, Cache.history?_withHistory_self .., hlowers h₀ hh₀⟩
  · exact ⟨h₀, (h.history?_eq hother).trans hh₀, Nat.le_refl _⟩

/-- What others may do to the source is all that walks for other structures do. -/
def Apart (W : ∀ e, WalkInvariant r e) : Prop :=
  ∀ {e e' : Errand} {st st' : σ}, e.id ≠ e'.id → (W e).Moves st st' → (W e').Bears st st'

/-- What walks for some errands do to the source. -/
def MovedBy (W : ∀ e, WalkInvariant r e) (errands : List Errand) : σ → σ → Prop :=
  Relation.ReflTransGen fun st st' => ∃ e ∈ errands, (W e).Moves st st'

/-- **Walks for different structures**, each alone with the history of its structure. -/
def apartInvariant (W : ∀ e, WalkInvariant r e) (hapart : Apart W) (errands : List Errand) :
    JointInvariant r errands where
  standing e walk s := walk.IsUnderWay ∧ Lone (W e) s walk
  settled e o s := ∃ h, s.cache.history? e.id = some h ∧ (W e).Rests (some h) s.remote ∧ h.Settled o
  kept s s' := s.cache.Shrinks s'.cache ∧ (∀ id, (∀ e ∈ errands, e.id ≠ id) →
    s'.cache.history? id = s.cache.history? id) ∧ MovedBy W errands s.remote s'.remote
  kept_refl s := ⟨.refl s.cache, fun _ _ => rfl, .refl⟩
  kept_trans h h' := ⟨h.1.trans h'.1, fun id hid => (h'.2.1 id hid).trans (h.2.1 id hid),
    h.2.2.trans h'.2.2⟩
  fails error := (∃ failure, error = .fetch failure) ∧
    ∃ e ∈ errands, ∃ known st, (W e).Fails known st
  apart e' e := e'.id ≠ e.id
  kept_report hreports := by
    obtain ⟨_, _, _, _, rfl⟩ := hreports
    exact ⟨.refl _, fun _ _ => rfl, .refl⟩
  standing_report hreports h := by
    obtain ⟨_, _, _, _, rfl⟩ := hreports
    rename_i walk _ _
    cases walk <;> exact h
  settled_report hreports h := by
    obtain ⟨_, _, _, _, rfl⟩ := hreports
    exact h
  isUnderWay h := h.1
  learns h := Walk.learns_visits h.2.begun
  within h hknown := Walk.within_of_learns_zero h.2.begun hknown
  visit {e walk s} he h := by
    refine (ensures_visit h.2).mono ?_ (fun _ _ => id)
    rintro walk' rest ⟨⟨⟨htouches, hmoves⟩, hlone⟩, -, hlearns, hwithin⟩
    -- a visit writes to the history of its own structure only
    have hother : ∀ id, id ≠ e.id → rest.cache.history? id = s.cache.history? id :=
      fun id hid => htouches.history?_eq hid
    rcases hlone with hlone | ⟨failure, load, rfl, hfails⟩
    · right
      refine ⟨⟨htouches.shrinks, fun id hid => hother id (hid e he).symm,
        .single ⟨e, he, hmoves⟩⟩, ?_, ?_, hlearns, hwithin⟩
      · intro e' _ hne
        have hsame := hother e'.id hne
        have hbears := hapart hne.symm hmoves
        constructor
        · exact fun other hother' => ⟨hother'.1, hother'.2.of_history?_eq hsame hbears⟩
        · rintro o ⟨h', hh', hrests, hsettled⟩
          exact ⟨h', hsame.trans hh', (W e').bears_rests hbears hrests, hsettled⟩
      · rcases hlone.cases with ⟨rfl, -⟩ | ⟨load, rfl, -⟩ | ⟨h', hh', hkeeps, hstanding⟩
        · exact Or.inr ⟨trivial, hlone⟩
        · exact Or.inr ⟨trivial, hlone⟩
        · cases hstanding with
          | loading _ _ _ => exact Or.inr ⟨trivial, hlone⟩
          | ended settled => exact Or.inl ⟨_, rfl, h', hh', hkeeps, settled⟩
    · exact Or.inl ⟨_, load, rfl, ⟨failure, rfl⟩, e, he, _, _, hfails⟩

/-- **Walks for different structures end as if each were alone**, unless a request fails. -/
theorem ensures_resolveTogether (W : ∀ e, WalkInvariant r e) (hapart : Apart W)
    {errands : List Errand} (hids : (errands.map (·.id)).Nodup) {limit : Option Nat}
    (hlimit : limit ≠ some 0) (joins : Nat) {s : Session α σ}
    (hrests : ∀ e ∈ errands, (W e).Rests (s.cache.history? e.id) s.remote) :
    Ensures (r.resolveAll limit errands joins) s
      (fun outcomes rest => (s.cache.Shrinks rest.cache ∧
        (∀ id, (∀ e ∈ errands, e.id ≠ id) → rest.cache.history? id = s.cache.history? id) ∧
        MovedBy W errands s.remote rest.remote) ∧
        List.Forall₂ (fun e o => ∃ h, rest.cache.history? e.id = some h ∧
          (W e).Rests (some h) rest.remote ∧ h.Settled o) errands outcomes)
      (fun error _ => (∃ failure, error = .fetch failure) ∧
        ∃ e ∈ errands, ∃ known st, (W e).Fails known st) := by
  have hfresh : ∀ e ∈ errands, (apartInvariant W hapart errands).standing e .fresh s :=
    fun e he => ⟨trivial, hrests e he⟩
  have hplaced : (apartInvariant W hapart errands).ArePlacedApart :=
    JointInvariant.arePlacedApart_of_nodup _ hids id
  exact ensures_resolveAll (apartInvariant W hapart errands) hplaced hlimit joins hfresh

/-- Searches that do not look at the source do not disturb each other. -/
theorem apart_toWalk (I : ∀ e, SearchInvariant r e) : Apart fun e => (I e).toWalk :=
  fun _ _ => trivial

/-- **Searches for different structures end as if each were alone**, unless a request fails. -/
theorem ensures_resolveApart (I : ∀ e, SearchInvariant r e) {errands : List Errand}
    (hids : (errands.map (·.id)).Nodup) {limit : Option Nat} (hlimit : limit ≠ some 0)
    (joins : Nat) {s : Session α σ} (hready : ∀ e ∈ errands, (I e).Ready s.cache) :
    Ensures (r.resolveAll limit errands joins) s
      (fun outcomes rest => (s.cache.Shrinks rest.cache ∧
        ∀ id, (∀ e ∈ errands, e.id ≠ id) → rest.cache.history? id = s.cache.history? id) ∧
        List.Forall₂ (fun e o => ∃ h, rest.cache.history? e.id = some h ∧
          (I e).Holds h ∧ h.Settled o) errands outcomes)
      (fun error _ => (∃ failure, error = .fetch failure) ∧ ∃ e ∈ errands, (I e).Fails) := by
  refine (ensures_resolveTogether _ (apart_toWalk I) hids hlimit joins
    fun e he => (hready e he).rests _).mono ?_ ?_
  · rintro outcomes rest ⟨⟨hshrinks, hothers, -⟩, hsettled⟩
    exact ⟨⟨hshrinks, hothers⟩, hsettled⟩
  · rintro error rest ⟨hfetch, e, he, _, _, hfails⟩
    exact ⟨hfetch, e, he, hfails⟩

end Apart

variable {r : Resolver Loaded σ}

/-- **Searches in a store** keep the cache sound. -/
theorem ensures_resolveAlone (hs : store.Faithful) (ha : r.source.Answers store)
    (hdecided : ∀ subtopic l, r.judge subtopic l ≠ .pending) {errands : List Errand}
    (hF : ∀ e ∈ errands, Decides F store r e) (hids : (errands.map (·.id)).Nodup)
    {limit : Option Nat} (hlimit : limit ≠ some 0) (joins : Nat) {s : Session Loaded σ}
    (hsound : s.cache.Sound F) :
    Ensures (r.resolveAll limit errands joins) s
      (fun outcomes rest => rest.cache.Sound F ∧ s.cache.Shrinks rest.cache ∧
        (∀ id, (∀ e ∈ errands, e.id ≠ id) →
          rest.cache.history? id = s.cache.history? id) ∧
        List.Forall₂ (fun e o => ∃ h, rest.cache.history? e.id = some h ∧
          h.Sound F e.id ∧ h.Settled o) errands outcomes)
      (fun error _ => ∃ failure, error = .fetch failure) := by
  refine (ensures_resolveApart (fun e => factsInvariant F hs ha e (hdecided e.subtopic)) hids hlimit
    joins ?_).mono ?_ (fun _ _ hfails => hfails.1)
  · exact fun e he => ⟨fun h hh => ⟨hF e he, hsound e.id h hh⟩, fun _ => hF e he⟩
  rintro outcomes rest ⟨⟨hshrinks, hkept⟩, hsettled⟩
  have hsettled' : List.Forall₂ (fun e o => ∃ h, rest.cache.history? e.id = some h ∧
      h.Sound F e.id ∧ h.Settled o) errands outcomes := by
    refine hsettled.imp ?_
    rintro e o ⟨h, hh, ⟨-, hsound'⟩, hsettled'⟩
    exact ⟨h, hh, hsound', hsettled'⟩
  refine ⟨?_, hshrinks, hkept, hsettled'⟩
  intro id
  -- the history of a structure that was looked for is settled, and any other is as it was
  cases id using sought_or_not errands with
  | sought e he =>
    intro h hh
    obtain ⟨o, -, h', hh', hsound', -⟩ := exists_right_of_forall₂ hsettled' he
    rw [hh'] at hh
    exact Option.some.inj hh ▸ hsound'
  | other id hnot =>
    intro h hh
    exact hsound id h (hkept id hnot ▸ hh)

end Resolver

end ContentPack
