import ContentPack.Proofs.Closure
import ContentPack.Proofs.Outcome
import ContentPack.Proofs.Search.Alone

/-!
# What the searches for the parts of a pack find

For a search, a version of a topic is of no use if it is not acceptable, and a version of anything
else if it is not compatible (`topicFacts`). So the searches for several structures find the newest
compatible version of each of them, or that there is none (`Resolver.ensures_find`), and their
outcomes together are a success exactly if all of them have one (`finds_flatten`).
-/

namespace ContentPack

variable {store : Store} {checker : Checker}

/-- **What is true of stored versions**: a version of a topic is of use if it is acceptable, and
any other version if it is compatible. -/
def topicFacts (store : Store) (checker : Checker) : Facts where
  verdict id v := (store.stored? id v).map (checker.judge id.bare)
  Useless id v :=
    match id with
    | .topic _ => ∀ t, store.stored? id v = some (.topic t) → ¬t.Acceptable store checker
    | _ => ∀ l, store.stored? id v = some l → checker.check id.bare l ≠ .compatible
  useless_of_none {id v} h := by
    have hnone : store.stored? id v = none := Option.map_eq_none_iff.mp h
    split
    · intro t ht
      rw [hnone] at ht
      cases ht
    · intro l hl
      rw [hnone] at hl
      cases hl
  useless_of_failure {id v reasons} h := by
    obtain ⟨l, hl, hjudge⟩ := Option.map_eq_some_iff.mp h
    have hcheck : checker.check id.bare l ≠ .compatible := by
      intro hcompatible
      rw [Checker.judge_eq_success_iff.mpr ⟨hcompatible, rfl⟩] at hjudge
      cases hjudge
    split
    · intro t ht hacceptable
      rw [hl] at ht
      rw [Option.some.inj ht] at hcheck
      exact hcheck hacceptable.accepted
    · intro l' hl'
      rw [hl] at hl'
      exact Option.some.inj hl' ▸ hcheck

/-! ### Structures other than topics -/

/-- **What is found of a structure**: its newest compatible version, or that it has none. -/
def Finds (store : Store) (checker : Checker) (id : StructureId) (o : Outcome Loaded) : Prop :=
  (∃ l, o = .success l ∧ store.Newest checker id.bare id l) ∨
    ∃ reasons, o = .failure reasons ∧ ∀ l, ¬store.Compatible checker id.bare id l

/-- A version that is of no use is not compatible. -/
theorem not_accepted_of_useless {id : StructureId} (hkind : id.kind ≠ .topic) {v : Version}
    (h : (topicFacts store checker).Useless id v) {l : Loaded}
    (hl : store.stored? id v = some l) : checker.check id.bare l ≠ .compatible := by
  cases id with
  | topic name => exact absurd rfl hkind
  | _ => exact h l hl

theorem Facts.Found.finds (hs : store.Faithful) {id : StructureId} (hkind : id.kind ≠ .topic)
    {o : Outcome Loaded} (h : (topicFacts store checker).Found id o) :
    Finds store checker id o := by
  rcases h with ⟨l, v, rfl, hverdict, habove⟩ | ⟨reasons, rfl, hnone⟩
  · left
    obtain ⟨l', hl', hjudge⟩ := Option.map_eq_some_iff.mp hverdict
    obtain ⟨hcheck, rfl⟩ := Checker.judge_eq_success_iff.mp hjudge
    have hversion := hs.version_eq hl'
    refine ⟨l', rfl, ⟨by rw [hversion, hl'], hcheck⟩, ?_⟩
    intro other hother
    by_contra hlt
    rw [hversion, not_le] at hlt
    exact not_accepted_of_useless hkind (habove _ hlt) hother.stored hother.accepted
  · right
    refine ⟨reasons, rfl, ?_⟩
    intro l hl
    exact not_accepted_of_useless hkind (hnone _) hl.stored hl.accepted

/-- The outcomes of several structures come to a success if each has a compatible version, and else
to a failure. -/
theorem finds_flatten {ids : List StructureId} {outcomes : List (Outcome Loaded)}
    (h : List.Forall₂ (Finds store checker) ids outcomes) :
    (∃ loaded, Outcome.flatten outcomes = .success loaded ∧
        List.Forall₂ (fun id l => store.Newest checker id.bare id l) ids loaded) ∨
      ∃ reasons, Outcome.flatten outcomes = .failure reasons ∧
        ∃ id ∈ ids, ∀ l, ¬store.Compatible checker id.bare id l := by
  cases hflatten : Outcome.flatten outcomes with
  | pending =>
    -- no search ends with a pending outcome
    obtain ⟨id, -, hfinds⟩ :=
      exists_left_of_forall₂ h (Outcome.flatten_eq_pending_iff.mp hflatten)
    rcases hfinds with ⟨l, heq, -⟩ | ⟨reasons, heq, -⟩ <;> cases heq
  | success loaded =>
    left
    refine ⟨loaded, rfl, ?_⟩
    rw [Outcome.flatten_eq_success_iff.mp hflatten, List.forall₂_map_right_iff] at h
    refine h.imp ?_
    rintro id l (⟨l', heq, hnewest⟩ | ⟨reasons, heq, -⟩)
    · rw [Outcome.success.inj heq]
      exact hnewest
    · cases heq
  | failure reasons =>
    right
    obtain ⟨part, hpart⟩ := Outcome.exists_failure_of_flatten hflatten
    obtain ⟨id, hid, hfinds⟩ := exists_left_of_forall₂ h hpart
    refine ⟨reasons, rfl, id, hid, ?_⟩
    rcases hfinds with ⟨l, heq, -⟩ | ⟨_, -, hnone⟩
    · cases heq
    · exact hnone

namespace Resolver

/-- An errand for a structure other than a topic, whose declared subtopic has its index. -/
structure Fits (checker : Checker) (e : Errand) : Prop where
  /-- Topics are not looked for together with their parts. -/
  kind : e.id.kind ≠ .topic
  /-- The check of a page sees the declared subtopic. -/
  check : ∀ l, checker.check e.subtopic l = checker.check e.id.bare l

theorem Fits.decides {e : Errand} (h : Fits checker e) (window : Int) :
    Decides (topicFacts store checker) store (ofStore store checker window) e := by
  intro v
  show (store.stored? e.id v).map (checker.judge e.id.bare) =
    (store.stored? e.id v).map (checker.judge e.subtopic)
  congr 1
  funext l
  unfold Checker.judge
  rw [h.check]

/-- What stays as it is while the parts of a pack are looked for. -/
structure KeepsTopics (store : Store) (checker : Checker) (s rest : Session Loaded (List Request)) :
    Prop where
  /-- Nothing is known but facts. -/
  sound : rest.cache.Sound (topicFacts store checker)
  /-- The histories of topics are not touched. -/
  topics : ∀ name, rest.cache.history? (.topic name) = s.cache.history? (.topic name)

theorem KeepsTopics.trans {s s' s'' : Session Loaded (List Request)}
    (h : KeepsTopics store checker s s') (h' : KeepsTopics store checker s' s'') :
    KeepsTopics store checker s s'' where
  sound := h'.sound
  topics name := (h'.topics name).trans (h.topics name)

/-- **The newest compatible version of each of several structures is found**, or that there is none,
unless a request fails. -/
theorem ensures_find (hs : store.Faithful) {window : Int} {errands : List Errand}
    (hfits : ∀ e ∈ errands, Fits checker e) (hids : (errands.map (·.id)).Nodup)
    {limit : Option Nat} (hlimit : limit ≠ some 0) (joins : Nat)
    {s : Session Loaded (List Request)} (hsound : s.cache.Sound (topicFacts store checker)) :
    Work.Ensures ((ofStore store checker window).resolveAll limit errands joins) s
      (fun outcomes rest => KeepsTopics store checker s rest ∧
        List.Forall₂ (Finds store checker) (errands.map (·.id)) outcomes)
      (fun error _ => ∃ failure, error = .fetch failure) := by
  refine (ensures_resolveAlone hs store.source_answers checker.judge_ne_pending
    (fun e he => (hfits e he).decides window) hids hlimit joins hsound).mono ?_ (fun _ _ => id)
  rintro outcomes rest ⟨hsound', -, hkept, hsettled⟩
  refine ⟨⟨hsound', ?_⟩, ?_⟩
  · intro name
    refine hkept _ ?_
    intro e he heq
    exact (hfits e he).kind (by rw [heq]; rfl)
  · rw [List.forall₂_map_left_iff]
    refine ((List.forall₂_and_left _ _).mpr ⟨hfits, hsettled⟩).imp ?_
    rintro e o ⟨hfit, h, -, hsound'', hsettled'⟩
    exact (hsettled'.found hsound'').finds hs hfit.kind

end Resolver

end ContentPack
