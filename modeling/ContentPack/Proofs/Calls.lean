import ContentPack.Assembly
import ContentPack.Proofs.Changes
import ContentPack.Proofs.Outcome
import ContentPack.Proofs.Search.Path

/-!
# Calls that share a cache

Any number of calls for structures share a session, and what happens next is that one of them is
visited, or that a topic falls back to an older version (`Calls.run`). Whatever the order is and
whatever the source answers, the cache has its shape at any time, and it evolves as changes let it
(`Calls.isShaped_evolves`). This also holds if calls end with errors.
-/

namespace ContentPack

variable {α σ : Type}

open Work

/-- Drop the newest version of a topic, as a run does after an attempt that failed. -/
def Assembler.fallBack (topicId : String) : Work α σ Unit := do
  let newest ← readCache (·.newest (.topic topicId))
  changeCache (·.invalidate newest)

/-- After a failed attempt a run falls back, unless there is only one version. -/
theorem Assembler.retry_failure (a : Assembler σ) (topicId : String) (left : Nat)
    (reasons : List Rejection) :
    a.retry topicId (left + 1) (.failure reasons) = (do
      report .resetAll
      if (← get).cache.versionCount (.topic topicId) ≤ 1 then return .failure reasons
      fallBack topicId
      a.retry topicId left (← a.attempt topicId)) := by
  simp only [retry, fallBack, bind_assoc]

/-- **Calls that share a session**: what each of them is for, and where its walk has come to. -/
structure Calls (α σ : Type) where
  /-- The calls. -/
  walks : List (Errand × Walk α)
  /-- The session. -/
  session : Session α σ

/-- **What happens next.** -/
inductive Action where
  /-- The walk of the call at a place is visited. -/
  | visit (place : Nat)
  /-- A topic falls back to an older version. -/
  | fallBack (topicId : String)

namespace Calls

/-- No walk has started yet. -/
def start (errands : List Errand) (session : Session α σ) : Calls α σ :=
  ⟨errands.map (·, .fresh), session⟩

/-- Visit the walk of the call at a place, if there is one. -/
def visit (r : Resolver α σ) (c : Calls α σ) (place : Nat) : Calls α σ :=
  match c.walks[place]? with
  | some (e, walk) =>
    let next := r.step e (walk, c.session)
    ⟨c.walks.set place (e, next.1), next.2⟩
  | none => c

/-- The calls after something has happened. -/
def act (r : Resolver α σ) (c : Calls α σ) : Action → Calls α σ
  | .visit place => c.visit r place
  | .fallBack topicId =>
    { c with session := (ExceptT.run (Assembler.fallBack topicId) c.session).2 }

/-- The calls after one thing has happened after another. -/
def run (r : Resolver α σ) (c : Calls α σ) (actions : List Action) : Calls α σ :=
  actions.foldl (act r) c

variable {r : Resolver α σ}

/-- Whatever happens next only changes the cache. -/
theorem changes_act (hdecided : ∀ subtopic l, r.judge subtopic l ≠ .pending) (c : Calls α σ)
    (action : Action) : c.session.cache.Changes (c.act r action).session.cache := by
  cases action with
  | visit place =>
    show c.session.cache.Changes (c.visit r place).session.cache
    unfold visit
    split
    · rename_i e walk hwalk
      exact Resolver.changes_step (hdecided e.subtopic) walk c.session
    · exact .refl
  | fallBack topicId =>
    have honly : Respects (fun s rest => s.cache.Changes rest.cache)
        (Assembler.fallBack topicId : Work α σ Unit) :=
      (respects_readCache permits_changes _).bind permits_changes fun newest =>
        respects_invalidate permits_changes newest
    exact honly.run c.session

theorem changes_run (hdecided : ∀ subtopic l, r.judge subtopic l ≠ .pending)
    (actions : List Action) :
    ∀ c : Calls α σ, c.session.cache.Changes (c.run r actions).session.cache := by
  induction actions with
  | nil => exact fun c => .refl
  | cons action rest ih => exact fun c => (changes_act hdecided c action).trans (ih _)

/-- **The cache keeps its shape**, whatever calls share it, whatever happens in which order, and
whatever the source answers: at any time every structure has exactly one entry for each version up
to one. From then on the number of versions does not grow, and what was loaded stays loaded until
it is dropped as the newest version. -/
theorem isShaped_evolves (source : Source σ) (remote : σ) (checker : Checker) (window : Int)
    (errands : List Errand) (before after : List Action) :
    let c := (start errands { remote }).run { source, judge := checker.judge, window } before
    c.session.cache.IsShaped ∧ c.session.cache.Evolves
      (c.run { source, judge := checker.judge, window } after).session.cache := by
  intro c
  have hbefore : (Cache.empty : Cache Loaded).Changes c.session.cache :=
    changes_run checker.judge_ne_pending before (start errands { remote })
  exact ⟨hbefore.isShaped, (changes_run checker.judge_ne_pending after c).evolves⟩

end Calls

end ContentPack
