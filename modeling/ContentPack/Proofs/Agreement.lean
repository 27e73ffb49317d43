import ContentPack.Proofs.Search.Course
import ContentPack.Proofs.Simulation

/-!
# Runs on different sources agree

Two pieces of work agree (`Work.Agree`) if from caches that hold the same they come to the same
value and leave caches that hold the same, or are given up with the same error, where all failures
of requests count as one.

Searches for different structures agree if their sources answer as one store
(`Resolver.agree_resolveAll`), whenever the answers come and however many structures are looked for
at the same time. So do whole runs (`Source.resolvePack_agrees`).
-/

namespace ContentPack

variable {α σ σ' β γ : Type}

/-! ### Work that agrees -/

/-- Caches that hold the same histories. -/
def Cache.Alike (cache cache' : Cache α) : Prop := ∀ id, cache.history? id = cache'.history? id

theorem Cache.Alike.withHistory {cache cache' : Cache α} (halike : cache.Alike cache')
    (id : StructureId) (h : History α) :
    (cache.withHistory id h).Alike (cache'.withHistory id h) := by
  intro other
  by_cases hother : other = id
  · subst hother
    rw [history?_withHistory_self, history?_withHistory_self]
  · rw [history?_withHistory_of_ne _ _ hother, history?_withHistory_of_ne _ _ hother]
    exact halike other

/-- The same value, or errors that agree. -/
inductive ResultsAgree : Except Error β → Except Error β → Prop
  | ok (value : β) : ResultsAgree (.ok value) (.ok value)
  | error {error error' : Error} : error.Agrees error' → ResultsAgree (.error error) (.error error')

theorem ResultsAgree.eq_ok {value : β} {result : Except Error β}
    (h : ResultsAgree (.ok value) result) : result = .ok value := by
  cases h
  rfl

theorem ResultsAgree.symm {result result' : Except Error β} (h : ResultsAgree result result') :
    ResultsAgree result' result := by
  cases h with
  | ok value => exact .ok value
  | error hagrees => exact .error (hagrees.imp Eq.symm And.symm)

/-- Apart from failures of requests the results are the same. -/
theorem ResultsAgree.eq_of_ne_fetch {result result' : Except Error β}
    (h : ResultsAgree result result') (hfetch : ∀ failure, result ≠ .error (.fetch failure)) :
    result = result' := by
  cases h with
  | ok value => rfl
  | error hagrees =>
    rcases hagrees with rfl | ⟨⟨failure, rfl⟩, -⟩
    · rfl
    · exact absurd rfl (hfetch failure)

/-- Caches that hold the same belong together. -/
theorem Cache.matching_alike : Matching (Alike (α := α)) where
  newest halike id := by rw [halike id]
  drop {cache cache' topicId h h' rest rest'} halike hh hh' hrest hrest' := by
    rw [halike, hh'] at hh
    obtain rfl := Option.some.inj hh
    obtain rfl := Option.some.inj (hrest.symm.trans hrest')
    exact halike.withHistory _ _

namespace Work

/-- **Work agrees**: from caches that hold the same it comes to the same. -/
def Agree (x : Work α σ β) (x' : Work α σ' β) : Prop :=
  ∀ s s', s.cache.Alike s'.cache →
    match ExceptT.run x s, ExceptT.run x' s' with
    | (.ok value, rest), (.ok value', rest') => value = value' ∧ rest.cache.Alike rest'.cache
    | (.error error, _), (.error error', _) => error.Agrees error'
    | _, _ => False

/-- Work agrees if it simulates the other work and no failure is forgiven. -/
theorem agree_iff_simulates {x : Work α σ β} {x' : Work α σ' β} :
    Agree x x' ↔ SimulatesOver Cache.Alike False x x' := by
  refine forall_congr' fun s => forall_congr' fun s' => imp_congr_right fun _ => ?_
  constructor
  · intro hrun
    rcases hleft : ExceptT.run x s with ⟨error | value, rest⟩ <;>
      rcases hright : ExceptT.run x' s' with ⟨error' | value', rest'⟩ <;>
      rw [hleft, hright] at hrun
    · rcases hrun with rfl | ⟨⟨failure, rfl⟩, failure', rfl⟩
      · exact .error trivial
      · exact .failed
    · exact hrun.elim
    · exact hrun.elim
    · obtain ⟨rfl, halike⟩ := hrun
      exact .value halike
  · generalize ExceptT.run x s = left
    generalize ExceptT.run x' s' = right
    intro hrun
    cases hrun with
    | value halike => exact ⟨rfl, halike⟩
    | error => exact Or.inl rfl
    | failed => exact Or.inr ⟨⟨_, rfl⟩, _, rfl⟩
    | forgiven hfalse => exact hfalse.elim

end Work

/-! ### Searches that agree -/

open Work

namespace Resolver

/-- **Two resolvers on one store**: they differ in when answers come only. -/
structure Matches (store : Store) (r : Resolver α σ) (r' : Resolver α σ') : Prop where
  /-- The first source answers as the store. -/
  answers : r.source.Answers store
  /-- So does the second one. -/
  answers' : r'.source.Answers store
  /-- What is loaded is judged in the same way. -/
  judge : r'.judge = r.judge
  /-- The same number of versions is loaded together. -/
  window : r'.window = r.window
  /-- What is loaded is decided. -/
  decided : ∀ subtopic l, r.judge subtopic l ≠ .pending

variable {store : Store} {r : Resolver α σ} {r' : Resolver α σ'}

section Arrived

variable {errands : List Errand} {cache cache' : Cache α}

theorem Strays.congr (hjudge : r'.judge = r.judge) (hwindow : r'.window = r.window)
    (halike : cache.Alike cache') (h : Strays r store errands cache) :
    Strays r' store errands cache' := by
  obtain ⟨e, he, hnone⟩ := h
  refine ⟨e, he, fun o last hfound => hnone o last ?_⟩
  rw [halike e.id]
  exact hfound.congr hjudge.symm hwindow.symm rfl rfl

/-- **Where searches end is determined.** -/
theorem Arrived.agree {outcomes outcomes' : List (Outcome α)} {left right : Cache α}
    (hjudge : r'.judge = r.judge) (hwindow : r'.window = r.window)
    (halike : cache.Alike cache') (h : Arrived r store errands cache outcomes left)
    (h' : Arrived r' store errands cache' outcomes' right) :
    outcomes = outcomes' ∧ left.Alike right := by
  have hunique : ∀ {e o o' last last'}, Arrives r store e (cache.history? e.id) o last →
      Arrives r' store e (cache'.history? e.id) o' last' → o = o' ∧ last = last' := by
    intro e o o' last last' hfound hfound'
    rw [halike e.id] at hfound
    exact (hfound.congr hjudge hwindow rfl rfl).unique hfound'
  constructor
  · have hsame : List.Forall₂ (· = ·) outcomes outcomes' := by
      refine forall₂_trans ?_ h.ends.flip h'.ends
      rintro o e o' ⟨last, -, hfound⟩ ⟨last', -, hfound'⟩
      exact (hunique hfound hfound').1
    exact List.forall₂_eq_eq_eq ▸ hsame
  · intro id
    cases id using Resolver.sought_or_not errands with
    | sought e he =>
      obtain ⟨o, -, last, hlast, hfound⟩ := exists_right_of_forall₂ h.ends he
      obtain ⟨o', -, last', hlast', hfound'⟩ := exists_right_of_forall₂ h'.ends he
      rw [hlast, hlast', (hunique hfound hfound').2]
    | other id hnot =>
      rw [h.spares id hnot, h'.spares id hnot, halike id]

end Arrived

/-- **Searches for different structures agree**, whatever the numbers of those are that go on at the
same time. -/
theorem agree_resolveAll (h : Matches store r r') {errands : List Errand}
    (hids : (errands.map (·.id)).Nodup) {limit limit' : Option Nat} (hlimit : limit ≠ some 0)
    (hlimit' : limit' ≠ some 0) (joins joins' : Nat) :
    Agree (r.resolveAll limit errands joins) (r'.resolveAll limit' errands joins') := by
  intro s s' halike
  have hdecided' : ∀ subtopic l, r'.judge subtopic l ≠ .pending := h.judge ▸ h.decided
  rcases (searches_resolveAll h.answers h.decided hids hlimit joins s).run with
      ⟨outcomes, rest, hrun, harrived⟩ | ⟨error, rest, hrun, hfetch, hstrays⟩ <;>
    rcases (searches_resolveAll h.answers' hdecided' hids hlimit' joins' s').run with
      ⟨outcomes', rest', hrun', harrived'⟩ | ⟨error', rest', hrun', hfetch', hstrays'⟩ <;>
    rw [hrun, hrun']
  · exact harrived.agree h.judge h.window halike harrived'
  · have hstrays := hstrays'.congr h.judge.symm h.window.symm fun id => (halike id).symm
    exact harrived.not_strays hstrays
  · exact harrived'.not_strays (hstrays.congr h.judge h.window halike)
  · exact Or.inr ⟨hfetch, hfetch'⟩

end Resolver

/-! ### Runs that agree -/

namespace Assembler

/-- **Two assemblers on one store**: they differ in when answers come, and in how many structures
are looked for at the same time. -/
structure Matches (store : Store) (a : Assembler σ) (a' : Assembler σ') : Prop where
  /-- They find versions in the same store. -/
  resolver : a.resolver.Matches store a'.resolver
  /-- A closure of skills may take the same number of rounds. -/
  maxRounds : a'.maxRounds = a.maxRounds
  /-- The first one looks for something. -/
  limit : a.limit ≠ some 0
  /-- So does the second one. -/
  limit' : a'.limit ≠ some 0

variable {store : Store} {a : Assembler σ} {a' : Assembler σ'}

/-- The runs agree. -/
theorem Matches.agree_resolve (h : Matches store a a') (topicId : String) :
    Agree (a.resolve topicId) (a'.resolve topicId) := by
  refine agree_iff_simulates.mpr (simulatesOver_resolve Cache.matching_alike ?_ h.maxRounds h.limit
    h.limit' topicId)
  intro errands hids limit limit' hlimit hlimit' joins
  exact agree_iff_simulates.mp
    (Resolver.agree_resolveAll h.resolver hids hlimit hlimit' joins joins)

end Assembler

/-- **Runs on one store agree**, whenever the answers come, and whatever the number of structures is
that are looked for at the same time. -/
theorem Source.resolvePack_agrees {store : Store} {source : Source σ} {source' : Source σ'}
    (ha : source.Answers store) (ha' : source'.Answers store) (remote : σ) (remote' : σ')
    (checker : Checker) (settings : ResolverSettings) (concurrent : Int) (topicId : String) :
    ResultsAgree (source.resolvePack remote checker settings topicId)
      (source'.resolvePack remote' checker { settings with maxConcurrentFetches := concurrent }
        topicId) := by
  have hmatches : Assembler.Matches store (.ofSettings source checker settings)
      (.ofSettings source' checker { settings with maxConcurrentFetches := concurrent }) := {
    resolver := ⟨ha, ha', rfl, rfl, checker.judge_ne_pending⟩
    maxRounds := rfl
    limit := FanOut.seatLimit_ne_zero _
    limit' := FanOut.seatLimit_ne_zero _ }
  have hagree := hmatches.agree_resolve topicId { remote } { remote := remote' } fun _ => rfl
  unfold Source.resolvePack
  rcases hleft : ExceptT.run ((Assembler.ofSettings source checker settings).resolve topicId)
      { remote } with ⟨error | pack, rest⟩ <;>
    rcases hright : ExceptT.run ((Assembler.ofSettings source' checker
      { settings with maxConcurrentFetches := concurrent }).resolve topicId)
      { remote := remote' } with ⟨error' | pack', rest'⟩ <;>
    rw [hleft, hright] at hagree
  · exact .error hagree
  · exact hagree.elim
  · exact hagree.elim
  · obtain ⟨rfl, -⟩ := hagree
    exact .ok pack

end ContentPack
