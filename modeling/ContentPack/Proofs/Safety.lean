import ContentPack.Proofs.Retry
import ContentPack.Proofs.Sections

/-!
# No run misuses its parts

Whatever the source answers and however slow it is, a run ends with a pack, with the reasons why
there is none, with a request that failed, or with a closure of skills that grew past its bound. So
every version that is read is there, nothing is pending after it was loaded, only the newest of
several versions is dropped, and the fragments of a pack fill all of its fields, each once:
everything else would end the run as a misuse (`Source.resolvePack_ne_misuse`).
-/

namespace ContentPack

variable {σ : Type}

/-- Nothing is known of what the source holds. -/
def Regime.blank {α : Type} {r : Resolver α σ}
    (hdecided : ∀ subtopic l, r.judge subtopic l ≠ .pending) : Regime r where
  Known _ _ := True
  search e := Resolver.blankInvariant e (hdecided e.subtopic)
  holds _ := trivial
  known _ _ := trivial
  opens _ _ := trivial

namespace Assembler

open Work

variable {a : Assembler σ} {s : Session Loaded σ}

/-- A run is given up for a request that failed, or for a closure that grew past its bound. -/
theorem ensures_run_blank (topicId : String)
    (hdecided : ∀ subtopic l, a.resolver.judge subtopic l ≠ .pending) (hlimit : a.limit ≠ some 0) :
    Ensures (a.run topicId) s (fun o _ => o ≠ .pending) (fun error _ => error.IsExcused) := by
  have hattempt : ∀ s : Session Loaded σ, True → Ensures (a.attempt topicId) s
      (Tried (fun _ => True) (fun o => o ≠ .pending) topicId
        ((s.cache.history? (.topic topicId)).map (·.newest.number)))
      (fun error _ => error.IsExcused) := by
    intro s _
    let R : Regime a.resolver := .blank hdecided
    refine (R.ensures_attempt topicId (fun _ _ _ => trivial) hlimit
      (fun _ _ _ _ _ _ _ => trivial)).mono ?_ (fun _ _ => id)
    rintro o rest ⟨⟨kinds, hleaves⟩, topic, ⟨h, hh, -⟩, hcase⟩
    refine ⟨h, hh, fun n hn => hleaves.shrinks.newest_le hh hn, ?_⟩
    rcases hcase with ⟨pack, rfl, -⟩ | ⟨⟨reasons, rfl, -⟩, -⟩
    · exact Or.inl ⟨pack, rfl, by simp⟩
    · exact Or.inr ⟨reasons, rfl, by simp, fun _ _ _ => trivial⟩
  exact ensures_run_of_attempts (fun _ => True) hattempt trivial

end Assembler

/-- **How a run can end without a pack**: a request failed, a closure of skills grew past its bound,
or no version of the topic is left. -/
theorem Source.excused_or_incompatible {source : Source σ} {remote : σ} {checker : Checker}
    {settings : ResolverSettings} {topicId : String} {error : Error}
    (h : source.resolvePack remote checker settings topicId = .error error) :
    error.IsExcused ∨ ∃ reasons, error = .incompatibleTopic topicId reasons := by
  have hrun := Assembler.ensures_run_blank (a := .ofSettings source checker settings)
    (s := { remote }) topicId checker.judge_ne_pending (FanOut.seatLimit_ne_zero _)
  rcases Source.resolvePack_of_run hrun with ⟨o, hpending, hresult⟩ | ⟨_, hresult, hexcused⟩
  · rw [hresult] at h
    cases o with
    | pending => exact absurd rfl hpending
    | success pack => cases h
    | failure reasons => exact Or.inr ⟨_, (Except.error.inj h).symm⟩
  · rw [hresult] at h
    exact Or.inl (Except.error.inj h ▸ hexcused)

/-- **No run misuses its parts**, whatever the source answers, and the outcome of a run is never
pending. -/
theorem Source.resolvePack_ne_misuse (source : Source σ) (remote : σ) (checker : Checker)
    (settings : ResolverSettings) (topicId : String) :
    (∀ what, source.resolvePack remote checker settings topicId ≠ .error (.misuse what)) ∧
      ∀ rest, ExceptT.run ((Assembler.ofSettings source checker settings).run topicId) { remote } ≠
        (.ok .pending, rest) := by
  constructor
  · intro what h
    rcases Source.excused_or_incompatible h with
      (⟨_, hmisuse⟩ | ⟨_, _, hmisuse⟩) | ⟨_, hmisuse⟩ <;> cases hmisuse
  · intro rest h
    have hrun := Assembler.ensures_run_blank (a := .ofSettings source checker settings)
      (s := { remote }) topicId checker.judge_ne_pending (FanOut.seatLimit_ne_zero _)
    unfold Work.Ensures at hrun
    rw [h] at hrun
    exact hrun rfl

end ContentPack
