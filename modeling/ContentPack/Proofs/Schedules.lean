import ContentPack.Proofs.Agreement
import ContentPack.Proofs.Calls
import ContentPack.Proofs.Resolution
import Mathlib.Algebra.Order.BigOperators.Group.List
import Mathlib.Algebra.Order.Group.Nat

/-!
# Schedules make no difference

Calls for different structures that share a session do not meet: whatever the order is in which
their walks are visited, and whenever the answers of the source come, every call comes closer to
its end with every visit, and others do not touch its structure (`Calls.Underway`). So every call
comes to what its search leads to, as if the calls were made one after another, in any order
(`Calls.IsScheduleFree`), and what a topic is resolved to does not depend on how many structures
are looked for at the same time (`schedules_agree`).
-/

namespace ContentPack

open Work Resolver

variable {α σ : Type} {store : Store} {r : Resolver α σ}

/-! ### Calls one after another -/

section InTurn

variable {errands order : List Errand} {start cache : Cache α} {s : Session α σ}

/-- **Calls one after another search for their structures.** -/
theorem searches_mapM_resolve (ha : r.source.Answers store)
    (hdecided : ∀ subtopic l, r.judge subtopic l ≠ .pending) (hids : (errands.map (·.id)).Nodup) :
    r.Searches store errands (errands.mapM fun e => r.resolve e.id e.subtopic) := by
  induction errands with
  | nil => exact fun s => ⟨fun _ _ => rfl, .nil⟩
  | cons e errands ih =>
    intro s
    rw [List.map_cons, List.nodup_cons] at hids
    have hne : ∀ e' ∈ errands, e'.id ≠ e.id := fun e' he' heq =>
      hids.1 (heq ▸ List.mem_map_of_mem he')
    rw [List.mapM_cons, ensures_bind]
    refine (ensures_resolve_course ha hdecided e s).mono ?_ ?_
    · rintro o middle ⟨hspares, hends⟩
      obtain ⟨last, hlast, hfound⟩ := (List.forall₂_cons.mp hends).1
      -- the first call does not touch what is known of the others
      have hsame : ∀ e' ∈ errands, middle.cache.history? e'.id = s.cache.history? e'.id := by
        intro e' he'
        refine hspares e'.id fun e'' he'' heq => ?_
        obtain rfl := List.mem_singleton.mp he''
        exact hne e' he' heq.symm
      rw [ensures_bind]
      refine (ih hids.2 middle).mono ?_ ?_
      · rintro outcomes rest ⟨hspares', hends'⟩
        refine ⟨fun id hid => ?_, .cons ⟨last, ?_, hfound⟩ ?_⟩
        · rw [hspares' id fun e' he' => hid e' (List.mem_cons_of_mem _ he'),
            hspares id fun e' he' => hid e' (List.mem_singleton.mp he' ▸ List.mem_cons_self)]
        · exact (hspares' e.id hne).trans hlast
        · refine ((List.forall₂_and_left _ _).mpr ⟨hsame, hends'⟩).imp ?_
          rintro e' o' ⟨hsame', last', hlast', hfound'⟩
          exact ⟨last', hlast', hsame' ▸ hfound'⟩
      · rintro error rest ⟨hfetch, e', he', hnone⟩
        exact ⟨hfetch, e', List.mem_cons_of_mem _ he', hsame e' he' ▸ hnone⟩
    · rintro error rest ⟨hfetch, e', he', hnone⟩
      exact ⟨hfetch, e', List.mem_singleton.mp he' ▸ List.mem_cons_self, hnone⟩

/-- Work that searches for structures comes to where the searches end. -/
theorem Resolver.Searches.exists_run {x : Work α σ (List (Outcome α))}
    {outcomes : List (Outcome α)} (hx : r.Searches store errands x)
    (halike : s.cache.Alike start) (harrived : r.Arrived store errands start outcomes cache) :
    ∃ rest, ExceptT.run x s = (.ok outcomes, rest) ∧ rest.cache.Alike cache := by
  rcases (hx s).run with ⟨_, rest, hrun, harrived'⟩ | ⟨_, _, _, -, hstrays⟩
  · obtain ⟨rfl, hrest⟩ := harrived'.agree rfl rfl halike harrived
    exact ⟨rest, hrun, hrest⟩
  · exact (harrived.not_strays (hstrays.congr rfl rfl halike)).elim

/-- Where searches end is said errand by errand, so their order does not count. -/
theorem arrived_map_iff {outcome : Errand → Outcome α} :
    r.Arrived store errands start (errands.map outcome) cache ↔ Spares errands start cache ∧
      ∀ e ∈ errands, ∃ last, cache.history? e.id = some last ∧
        Arrives r store e (start.history? e.id) (outcome e) last := by
  have hends : List.Forall₂ (fun e o => ∃ last, cache.history? e.id = some last ∧
      Arrives r store e (start.history? e.id) o last) errands (errands.map outcome) ↔
        ∀ e ∈ errands, ∃ last, cache.history? e.id = some last ∧
          Arrives r store e (start.history? e.id) (outcome e) last := by
    rw [List.forall₂_map_right_iff, List.forall₂_same]
  exact ⟨fun h => ⟨h.spares, hends.mp h.ends⟩, fun h => ⟨h.1, hends.mpr h.2⟩⟩

theorem Resolver.Arrived.perm {outcome : Errand → Outcome α}
    (h : r.Arrived store errands start (errands.map outcome) cache) (horder : order.Perm errands) :
    r.Arrived store order start (order.map outcome) cache := by
  obtain ⟨hspares, hfound⟩ := arrived_map_iff.mp h
  refine arrived_map_iff.mpr ⟨fun id hid => ?_, fun e he => hfound e (horder.mem_iff.mp he)⟩
  exact hspares id fun e he => hid e (horder.mem_iff.mpr he)

end InTurn

/-! ### Calls that are visited in any order -/

section Visits

variable {e : Errand} {I : SearchInvariant r e} {bound k : Nat} {walk : Walk α} {s : Session α σ}

/-- **A call is at most some visits from its end**, or a request has failed: its walk works alone,
and it knows the newest version, which is bounded, or it will know it in time. -/
def Nears (I : SearchInvariant r e) (bound k : Nat) (s : Session α σ) (walk : Walk α) : Prop :=
  (∃ rest, Refused I.toWalk walk rest) ∨ Lone I.toWalk s walk ∧ (walk.Within r.source k ∨
    ∃ j, walk.Learns r.source j ∧ j + (bound + 1) * Load.visits r.source ≤ k)

theorem Nears.of_history?_eq {s' : Session α σ} (h : Nears I bound k s walk)
    (hsame : s'.cache.history? e.id = s.cache.history? e.id) : Nears I bound k s' walk :=
  h.imp_right fun ⟨hlone, hcase⟩ => ⟨hlone.of_history?_eq hsame trivial, hcase⟩

/-- A walk that knows the newest version ends in time. -/
theorem within_bound_of_learns_zero (hbound : ∀ h, I.Holds h → h.newest.number ≤ bound)
    (hlone : Lone I.toWalk s walk) (hlearns : walk.Learns r.source 0) :
    walk.Within r.source ((bound + 1) * Load.visits r.source) := by
  refine (Walk.within_of_learns_zero hlone.begun hlearns).mono (Nat.mul_le_mul_right _ ?_)
  rcases hlone.cases with ⟨rfl, -⟩ | ⟨load, rfl, -⟩ | ⟨h, -, hholds, hstanding⟩
  · exact Nat.succ_le_succ (Nat.zero_le _)
  · exact Nat.succ_le_succ (Nat.zero_le _)
  · cases hstanding with
    | loading hat _ _ =>
      exact Nat.succ_le_succ (Nat.le_trans hat.le_newest (hbound h hholds))
    | ended _ => exact Nat.succ_le_succ (Nat.zero_le _)

/-- **A visit brings a call closer to its end**, and touches its own structure only. -/
theorem Nears.step (hbound : ∀ h, I.Holds h → h.newest.number ≤ bound)
    (h : Nears I bound k s walk) :
    Nears I bound (k - 1) (r.step e (walk, s)).2 (r.step e (walk, s)).1 ∧
      Touches e.id s.cache (r.step e (walk, s)).2.cache := by
  rcases h with ⟨rest, failure, load, rfl, hfails⟩ | ⟨hlone, hcase⟩
  · -- what is left of a walk that has failed changes nothing
    have hvisit : Ensures (r.visit e (.failed (.fetch failure) load)) s
        (fun walk' rest => (∃ load', walk' = .failed (.fetch failure) load') ∧
          rest.cache = s.cache) (fun _ _ => False) := by
      unfold visit
      rw [ensures_tryCatch]
      exact ⟨⟨_, rfl⟩, rfl⟩
    obtain ⟨⟨load', hfailed⟩, hcache⟩ := step_of_ensures hvisit
    exact ⟨Or.inl ⟨rest, failure, load', hfailed, hfails⟩, Or.inl hcache⟩
  · obtain ⟨⟨haffects, hlone'⟩, -, hlearns, hwithin⟩ := step_of_ensures (ensures_visit hlone)
    refine ⟨hlone'.symm.imp (fun hrefused => ⟨_, hrefused⟩) fun hlone' => ⟨hlone', ?_⟩,
      haffects.touches⟩
    -- once the newest version is known, what is left is bounded
    have hstep : ∀ k, walk.Within r.source k →
        (r.step e (walk, s)).1.Within r.source (k - 1) := by
      intro k hk
      cases k with
      | zero => exact hwithin 0 (hk.mono (Nat.zero_le 1))
      | succ k => exact hwithin k hk
    rcases hcase with hk | ⟨j, hj, hle⟩
    · exact Or.inl (hstep k hk)
    · cases j with
      | zero =>
        have hk := (within_bound_of_learns_zero hbound hlone hj).mono (by omega : _ ≤ k)
        exact Or.inl (hstep k hk)
      | succ j => exact Or.inr ⟨j, hlearns j hj, by omega⟩

/-- Without visits to go, a call has ended. -/
theorem Nears.ended (hnears : Nears I bound 0 s walk) :
    (∃ rest, Refused I.toWalk walk rest) ∨
      ∃ h o, walk = .ended o ∧ s.cache.history? e.id = some h ∧ I.Holds h ∧ h.Settled o := by
  refine hnears.imp_right ?_
  rintro ⟨hlone, hwithin | ⟨j, -, hle⟩⟩
  · rcases hlone.cases with ⟨rfl, -⟩ | ⟨load, rfl, -⟩ | ⟨h, hh, hholds, hstanding⟩
    · exact hwithin.elim
    · exact hwithin.elim
    · cases hstanding with
      | loading _ _ _ => exact (Walk.not_isUnderWay_of_within_zero hwithin trivial).elim
      | ended hsettled => exact ⟨h, _, rfl, hh, hholds, hsettled⟩
  · have hone := Load.one_le_visits r.source
    have hpos : 0 < (bound + 1) * Load.visits r.source := Nat.mul_pos (Nat.succ_pos _) hone
    omega

end Visits

namespace Calls

section Underway

variable {I : ∀ e, SearchInvariant r e} {bound : Errand → Nat} {left : Nat → Nat}
  {errands : List Errand} {start : Cache α} {c : Calls α σ}

/-- **Calls for different structures on their way**, each with a number of visits to go. -/
structure Underway (I : ∀ e, SearchInvariant r e) (bound : Errand → Nat) (left : Nat → Nat)
    (errands : List Errand) (start : Cache α) (c : Calls α σ) : Prop where
  /-- The calls are for the errands. -/
  calls : c.walks.map (·.1) = errands
  /-- Each call comes closer to its end. -/
  nears : ∀ place e walk, c.walks[place]? = some (e, walk) →
    Nears (I e) (bound e) (left place) c.session walk
  /-- Other structures are not touched. -/
  spares : Spares errands start c.session.cache

theorem Underway.mem (h : Underway I bound left errands start c) {place : Nat} {e : Errand}
    {walk : Walk α} (hcall : c.walks[place]? = some (e, walk)) : errands[place]? = some e := by
  rw [← h.calls, List.getElem?_map, hcall]
  rfl

/-- **A visit of one call** does not touch the others. -/
theorem Underway.visit (hbound : ∀ e h, (I e).Holds h → h.newest.number ≤ bound e)
    (hids : (errands.map (·.id)).Nodup) (h : Underway I bound left errands start c)
    (place : Nat) :
    Underway I bound (fun other => left other - [place].count other) errands start
      (c.visit r place) := by
  unfold Calls.visit
  split
  · rename_i e walk hcall
    obtain ⟨hstep, htouches⟩ := (h.nears place e walk hcall).step (hbound e)
    have hplace := h.mem hcall
    constructor
    case calls =>
      obtain ⟨hlt, rfl⟩ := List.getElem?_eq_some_iff.mp hplace
      rw [List.map_set, h.calls]
      exact List.set_getElem_self hlt
    case nears =>
      intro other e' walk' hcall'
      by_cases hother : place = other
      · subst hother
        obtain ⟨hlt, -⟩ := List.getElem?_eq_some_iff.mp hcall
        rw [List.getElem?_set_self hlt] at hcall'
        obtain ⟨rfl, rfl⟩ := Prod.mk.inj (Option.some.inj hcall')
        rw [List.count_singleton_self]
        exact hstep
      · rw [List.getElem?_set_ne hother] at hcall'
        rw [List.count_singleton, beq_false_of_ne hother]
        refine (h.nears other e' walk' hcall').of_history?_eq (htouches.history?_eq ?_)
        -- different places are for different structures
        intro hid
        obtain ⟨hlt', -⟩ := List.getElem?_eq_some_iff.mp hplace
        refine hother ((List.getElem?_inj (by rwa [List.length_map]) hids).mp ?_)
        rw [List.getElem?_map, List.getElem?_map, hplace, h.mem hcall', Option.map_some,
          Option.map_some, hid]
    case spares =>
      intro id hid
      have hmem := List.mem_of_getElem? hplace
      exact (htouches.history?_eq (hid e hmem).symm).trans (h.spares id hid)
  · rename_i hnone
    refine ⟨h.calls, ?_, h.spares⟩
    intro other e walk hcall
    have hne : place ≠ other := by
      rintro rfl
      rw [hnone] at hcall
      cases hcall
    rw [List.count_singleton, beq_false_of_ne hne]
    exact h.nears other e walk hcall

/-- **Calls are visited in the order of a schedule.** -/
theorem Underway.run (hbound : ∀ e h, (I e).Holds h → h.newest.number ≤ bound e)
    (hids : (errands.map (·.id)).Nodup) (schedule : List Nat) :
    ∀ {left : Nat → Nat} {c : Calls α σ}, Underway I bound left errands start c →
      Underway I bound (fun place => left place - schedule.count place) errands start
        (c.run r (schedule.map .visit)) := by
  induction schedule with
  | nil => exact fun h => h
  | cons place rest ih =>
    intro left c h
    have hrest := ih (h.visit hbound hids place)
    have hleft : (fun other => left other - [place].count other - rest.count other) =
        fun other => left other - (place :: rest).count other := by
      funext other
      have hcount : ([place] ++ rest).count other = [place].count other + rest.count other :=
        List.count_append
      rw [List.singleton_append] at hcount
      omega
    rw [hleft] at hrest
    exact hrest

/-- No call has been visited yet. -/
theorem underway_start {session : Session α σ} {enough : Nat}
    (hready : ∀ e ∈ errands, (I e).Ready session.cache)
    (henough : ∀ e ∈ errands,
      Load.visits r.source + (bound e + 1) * Load.visits r.source ≤ enough) :
    Underway I bound (fun _ => enough) errands session.cache (Calls.start errands session) where
  calls := by
    show (errands.map (·, Walk.fresh)).map (·.1) = errands
    rw [List.map_map]
    exact List.map_id _
  nears place e walk hcall := by
    obtain ⟨e', he', heq⟩ := List.mem_map.mp (List.mem_of_getElem? hcall)
    obtain ⟨rfl, rfl⟩ := Prod.mk.inj heq
    exact Or.inr ⟨(hready e' he').rests session.remote, Or.inr ⟨_, Nat.le_refl _, henough e' he'⟩⟩
  spares _ _ := rfl

/-- **All calls have ended**, or their requests have failed. -/
theorem Underway.ended (h : Underway I bound left errands start c)
    (hleft : ∀ place < errands.length, left place = 0) :
    ∀ call ∈ c.walks, (∃ rest, Refused (I call.1).toWalk call.2 rest) ∨
      ∃ last o, call.2 = .ended o ∧
      c.session.cache.history? call.1.id = some last ∧ (I call.1).Holds last ∧
      last.Settled o := by
  rintro ⟨e, walk⟩ hcall
  obtain ⟨place, hplace⟩ := List.mem_iff_getElem?.mp hcall
  obtain ⟨hlt, -⟩ := List.getElem?_eq_some_iff.mp (h.mem hplace)
  have hnears := h.nears place e walk hplace
  rw [hleft place hlt] at hnears
  exact hnears.ended

end Underway

/-! ### Calls do not depend on their schedule -/

/-- **Calls have ended as they do when they do not share a session at the same time.** -/
structure EndAsAlone (r : Resolver α σ) (errands : List Errand) (start : Session α σ)
    (outcome : Errand → Outcome α) (c : Calls α σ) : Prop where
  /-- Every call has come to its outcome. -/
  walks : c.walks = errands.map fun e => (e, .ended (outcome e))
  /-- Calls that are made one after another, in any order, come to the same and leave the same. -/
  inTurn : ∀ s : Session α σ, s.cache.Alike start.cache → ∀ order : List Errand,
    order.Perm errands →
    ∃ rest, ExceptT.run (order.mapM fun e => r.resolve e.id e.subtopic) s =
        (.ok (order.map outcome), rest) ∧
      rest.cache.Alike c.session.cache
  /-- So do calls that are made together, whatever the number of those is that may be under way. -/
  together : ∀ s : Session α σ, s.cache.Alike start.cache → ∀ (limit : Option Nat) (joins : Nat),
    limit ≠ some 0 →
    ∃ rest, ExceptT.run (r.resolveAll limit errands joins) s = (.ok (errands.map outcome), rest) ∧
      rest.cache.Alike c.session.cache

/-- No request of a call has failed. -/
def IsFetched (c : Calls α σ) : Prop :=
  ∀ call ∈ c.walks, ∀ failure load, call.2 ≠ .failed (.fetch failure) load

/-- **Calls do not depend on their schedule**: if each is visited often enough, they end as they do
alone, whatever the order of the visits is. This is so if no request fails, and no request does if
none does while the calls are made one after another. -/
def IsScheduleFree (r : Resolver α σ) (errands : List Errand) (start : Session α σ) : Prop :=
  ∃ (enough : Nat) (outcome : Errand → Outcome α), ∀ schedule : List Nat,
    (∀ place < errands.length, enough ≤ schedule.count place) →
    let c := (Calls.start errands start).run r (schedule.map .visit)
    (c.IsFetched ∨ ∃ outcomes rest,
      ExceptT.run (errands.mapM fun e => r.resolve e.id e.subtopic) start = (.ok outcomes, rest)) →
    EndAsAlone r errands start outcome c

/-- What a search comes to is a matter of its errand. -/
theorem exists_outcome (r : Resolver α σ) (store : Store) (cache : Cache α) :
    ∃ outcome : Errand → Outcome α, ∀ e o last, Arrives r store e (cache.history? e.id) o last →
      o = outcome e := by
  have h : ∀ e, ∃ o, ∀ o' last, Arrives r store e (cache.history? e.id) o' last → o' = o := by
    intro e
    by_cases harrives : ∃ o last, Arrives r store e (cache.history? e.id) o last
    · obtain ⟨o, last, hfound⟩ := harrives
      exact ⟨o, fun o' last' hfound' => (hfound'.unique hfound).1⟩
    · exact ⟨default, fun o' last' hfound' => absurd ⟨o', last', hfound'⟩ harrives⟩
  choose outcome houtcome using h
  exact ⟨outcome, houtcome⟩

/-- Calls that have come to where their searches end, have ended as they do alone. -/
theorem endAsAlone_of_arrived (ha : r.source.Answers store)
    (hdecided : ∀ subtopic l, r.judge subtopic l ≠ .pending) {errands : List Errand}
    (hids : (errands.map (·.id)).Nodup) {start : Session α σ} {outcome : Errand → Outcome α}
    {c : Calls α σ} (hcalls : c.walks.map (·.1) = errands)
    (hended : ∀ call ∈ c.walks, call.2 = .ended (outcome call.1))
    (harrived : r.Arrived store errands start.cache (errands.map outcome) c.session.cache) :
    EndAsAlone r errands start outcome c where
  walks := by
    calc c.walks = c.walks.map fun call => (call.1, .ended (outcome call.1)) := by
          refine (List.map_id _).symm.trans (List.map_congr_left fun call hcall => ?_)
          exact Prod.ext rfl (hended call hcall)
      _ = (c.walks.map (·.1)).map fun e => (e, .ended (outcome e)) := by rw [List.map_map]; rfl
      _ = errands.map fun e => (e, .ended (outcome e)) := by rw [hcalls]
  inTurn s halike order horder := by
    have hids' : (order.map (·.id)).Nodup := (horder.map _).nodup_iff.mpr hids
    exact (searches_mapM_resolve ha hdecided hids').exists_run halike (harrived.perm horder)
  together s halike limit joins hlimit :=
    (searches_resolveAll ha hdecided hids hlimit joins).exists_run halike harrived

/-- Calls for different structures do not depend on their schedule, if the answers are those of a
store. -/
theorem isScheduleFree_of_answers (ha : r.source.Answers store)
    (hdecided : ∀ subtopic l, r.judge subtopic l ≠ .pending) {errands : List Errand}
    (hids : (errands.map (·.id)).Nodup) (start : Session α σ) :
    IsScheduleFree r errands start := by
  obtain ⟨outcome, houtcome⟩ := exists_outcome r store start.cache
  let I := fun e => courseInvariant ha e (hdecided e.subtopic) (start.cache.history? e.id)
  let bound := fun e => newestMet store e (start.cache.history? e.id)
  have hbound : ∀ e h, (I e).Holds h → h.newest.number ≤ bound e := fun e h hholds => hholds.1
  let visits := fun e => Load.visits r.source + (bound e + 1) * Load.visits r.source
  refine ⟨(errands.map visits).sum, outcome, ?_⟩
  intro schedule hschedule c hfetched
  have hstart : Underway I bound (fun _ => (errands.map visits).sum) errands start.cache
      (Calls.start errands start) :=
    underway_start (fun e _ => ready_course start.cache)
      fun e he => List.le_sum_of_mem (List.mem_map_of_mem he)
  have hrun := hstart.run hbound hids schedule
  have hmem : ∀ call ∈ c.walks, call.1 ∈ errands := fun call hcall =>
    hrun.calls ▸ List.mem_map_of_mem hcall
  have hrefused : ∀ call ∈ c.walks, ¬∃ rest, Refused (I call.1).toWalk call.2 rest := by
    rintro call hcall ⟨rest, failure, load, hfailed, hnone⟩
    rcases hfetched with hfetched | ⟨outcomes, rest, hinTurn⟩
    · exact hfetched call hcall failure load hfailed
    · -- the same request would fail while the calls are made one after another
      have harrived := searches_mapM_resolve ha hdecided hids start
      unfold Ensures at harrived
      rw [hinTurn] at harrived
      exact harrived.not_strays ⟨call.1, hmem call hcall, hnone⟩
  have hends : ∀ call ∈ c.walks, call.2 = .ended (outcome call.1) ∧
      ∃ last, c.session.cache.history? call.1.id = some last ∧
        Arrives r store call.1 (start.cache.history? call.1.id) (outcome call.1) last := by
    intro call hcall
    rcases hrun.ended (fun place hlt => Nat.sub_eq_zero_of_le (hschedule place hlt)) call hcall with
      hfailed | ⟨last, o, hended, hlast, hholds, hsettled⟩
    · exact absurd hfailed (hrefused call hcall)
    · have hfound := arrives_of_settled hholds hsettled
      obtain rfl := houtcome call.1 o last hfound
      exact ⟨hended, last, hlast, hfound⟩
  refine endAsAlone_of_arrived ha hdecided hids hrun.calls (fun call hcall => (hends call hcall).1)
    (arrived_map_iff.mpr ⟨hrun.spares, fun e he => ?_⟩)
  rw [← hrun.calls] at he
  obtain ⟨call, hcall, rfl⟩ := List.mem_map.mp he
  exact (hends call hcall).2

end Calls

/-- **Schedules make no difference.** Calls for different structures on one store do not depend on
the order in which they are visited, nor on when the store answers. So the pack that a topic is
resolved to, or the error, is the same whenever answers come, and whatever the number of structures
is that are looked for at the same time. -/
theorem schedules_agree (documents : List Document) (translations : List Translation)
    (checker : Checker) :
    (∀ {σ : Type} (source : Source σ) (window : Int) (errands : List Errand)
        (start : Session Loaded σ),
      source.Answers (.ofContents documents translations) → (errands.map (·.id)).Nodup →
      Calls.IsScheduleFree { source, judge := checker.judge, window } errands start) ∧
    ∀ {σ σ' : Type} (source : Source σ) (source' : Source σ') (remote : σ) (remote' : σ')
        (settings : ResolverSettings) (concurrent : Int) (topicId : String),
      source.Answers (.ofContents documents translations) →
      source'.Answers (.ofContents documents translations) →
      ResultsAgree (source.resolvePack remote checker settings topicId)
        (source'.resolvePack remote' checker { settings with maxConcurrentFetches := concurrent }
          topicId) := by
  constructor
  · intro σ source window errands start ha hids
    exact Calls.isScheduleFree_of_answers ha checker.judge_ne_pending hids start
  · intro σ σ' source source' remote remote' settings concurrent topicId ha ha'
    exact Source.resolvePack_agrees ha ha' remote remote' checker settings concurrent topicId

/-- A source that puts off every other answer. -/
def Store.late (s : Store) : Source Bool where
  delays := 1
  poll r now := (if now then some (s.answer r) else none, !now)
  settle r now := (s.answer r, now)

theorem Store.late_answers (s : Store) : s.late.Answers s where
  poll r now answer h := by
    cases now with
    | false => cases h
    | true => exact (Option.some.inj h).symm
  settle _ _ := rfl

namespace Late

/-- A store with a topic that has two versions, and a story that is blocked. -/
def waited : Store := .ofContents fallbackDocuments []

/-- A resolver that has to wait for the answers of the store. -/
def resolver : Resolver Loaded Bool :=
  { source := waited.late, judge := blockedStory.judge, window := 1 }

/-- Calls for the topic and for the story. -/
def errands : List Errand := [{ id := .topic "t" }, { id := .story "r" }]

/-- If the calls take turns, the topic is found and the story is not. If answers are put off and
structures are looked for one by one, the topic falls back to its first version all the same. -/
theorem schedules_agree_late :
    Calls.IsScheduleFree resolver errands { remote := false } ∧
      ((Calls.start errands { remote := false }).run resolver
        ((List.replicate 9 [0, 1]).flatten.map .visit)).walks.map (fun
          | (_, .ended (.success l)) => some (some l.version)
          | (_, .ended (.failure _)) => some none
          | _ => none) = [some (some (.after 1)), some none] ∧
      ∃ pack, waited.late.resolvePack false blockedStory { maxConcurrentFetches := 1 } "t" =
          .ok pack ∧
        pack.topic.version = .first := by
  obtain ⟨hcalls, hpacks⟩ := schedules_agree fallbackDocuments [] blockedStory
  refine ⟨hcalls waited.late 1 errands { remote := false } waited.late_answers (by decide +kernel),
    by decide +kernel, ?_⟩
  obtain ⟨pack, hpack, hversion⟩ := exists_fallback
  have hagree := hpacks waited.source waited.late [] false {} 1 "t" waited.source_answers
    waited.late_answers
  rw [Store.resolvePack_source, show waited.resolvePack blockedStory {} "t" = _ from hpack]
    at hagree
  exact ⟨pack, hagree.eq_ok, hversion⟩

end Late

end ContentPack
