import ContentPack.Compatibility.Checker
import Mathlib.Data.List.Induction
import Mathlib.Tactic.Common

/-!
# The outcome of a check, and what a list of outcomes comes to

`Outcome.flatten` is pending exactly if one of the outcomes is (`flatten_eq_pending_iff`), it is a
success exactly if all of them are (`flatten_eq_success_iff`), and a failure comes from a failure
(`exists_failure_of_flatten`), with the reasons of all of them in order (`reasons_flatten`). All of
this is read off the last outcome of the list (`flatten_concat`).
-/

namespace ContentPack

/-! ### The outcome of a check -/

theorem Checker.judge_eq_success_iff {checker : Checker} {subtopic : Option Subtopic}
    {l l' : Loaded} :
    checker.judge subtopic l = .success l' ↔ checker.check subtopic l = .compatible ∧ l = l' := by
  unfold Checker.judge
  cases checker.check subtopic l with
  | compatible => simp [Verdict.outcome]
  | incompatible reasons => simp [Verdict.outcome]

theorem Checker.judge_eq_failure_iff {checker : Checker} {subtopic : Option Subtopic} {l : Loaded}
    {reasons : List Rejection} :
    checker.judge subtopic l = .failure reasons ↔
      checker.check subtopic l = .incompatible reasons := by
  unfold Checker.judge
  cases checker.check subtopic l with
  | compatible => simp [Verdict.outcome]
  | incompatible reasons => simp [Verdict.outcome]

theorem Checker.judge_ne_pending (checker : Checker) (subtopic : Option Subtopic) (l : Loaded) :
    checker.judge subtopic l ≠ .pending := by
  unfold Checker.judge
  cases checker.check subtopic l with
  | compatible => simp [Verdict.outcome]
  | incompatible reasons => simp [Verdict.outcome]

/-! ### The outcome of a list -/

namespace Outcome

variable {α β : Type}

@[simp] theorem flatten_nil : flatten ([] : List (Outcome α)) = .success [] := rfl

theorem flatten_concat (front : List (Outcome α)) (last : Outcome α) :
    flatten (front ++ [last]) =
      combine (fun values value => values ++ [value]) (flatten front) last := by
  unfold flatten
  rw [List.foldl_append]
  rfl

theorem flatten_eq_pending_iff {outcomes : List (Outcome α)} :
    flatten outcomes = .pending ↔ .pending ∈ outcomes := by
  induction outcomes using List.reverseRecOn with
  | nil => simp
  | append_singleton front last ih =>
    rw [flatten_concat, List.mem_append, ← ih]
    cases flatten front <;> cases last <;> simp [combine]

theorem flatten_eq_success_iff {outcomes : List (Outcome α)} {values : List α} :
    flatten outcomes = .success values ↔ outcomes = values.map .success := by
  induction outcomes using List.reverseRecOn generalizing values with
  | nil =>
    rw [flatten_nil, Outcome.success.injEq]
    exact ⟨fun h => by rw [← h]; rfl, fun h => (List.map_eq_nil_iff.mp h.symm).symm⟩
  | append_singleton front last ih =>
    rw [flatten_concat]
    constructor
    · intro h
      cases hfront : flatten front <;> cases last <;> rw [hfront] at h <;>
        simp only [combine, reduceCtorEq, Outcome.success.injEq] at h
      rw [← h, List.map_append, ih.mp hfront]
      rfl
    · intro h
      cases values using List.reverseRecOn with
      | nil => simp at h
      | append_singleton initial value =>
        rw [List.map_append] at h
        obtain ⟨hinitial, hlast⟩ := List.append_inj' h rfl
        rw [ih.mpr hinitial, (List.cons.inj hlast).1]
        rfl

theorem exists_failure_of_flatten {outcomes : List (Outcome α)} {reasons : List Rejection}
    (h : flatten outcomes = .failure reasons) : ∃ part, .failure part ∈ outcomes := by
  induction outcomes using List.reverseRecOn generalizing reasons with
  | nil => cases h
  | append_singleton front last ih =>
    rw [flatten_concat] at h
    cases hlast : last with
    | failure part => exact ⟨part, by simp⟩
    | pending =>
      rw [hlast] at h
      cases hfront : flatten front <;> rw [hfront] at h <;> cases h
    | success value =>
      rw [hlast] at h
      cases hfront : flatten front with
      | failure part =>
        obtain ⟨part, hpart⟩ := ih hfront
        exact ⟨part, List.mem_append_left _ hpart⟩
      | pending => rw [hfront] at h; cases h
      | success values => rw [hfront] at h; cases h

/-! ### Reasons -/

/-- The reasons of a failure. -/
def reasons : Outcome α → List Rejection
  | failure reasons => reasons
  | _ => []

theorem reasons_map (f : α → β) (o : Outcome α) : (o.map f).reasons = o.reasons := by
  cases o <;> rfl

/-- A list of outcomes has the reasons of all of them, in order. -/
theorem reasons_flatten {outcomes : List (Outcome α)} (h : .pending ∉ outcomes) :
    (flatten outcomes).reasons = outcomes.flatMap reasons := by
  induction outcomes using List.reverseRecOn with
  | nil => rfl
  | append_singleton front last ih =>
    rw [List.mem_append, not_or] at h
    have hfront : flatten front ≠ .pending := fun heq => h.1 (flatten_eq_pending_iff.mp heq)
    have hlast : last ≠ .pending := fun heq => h.2 (List.mem_singleton.mpr heq.symm)
    rw [flatten_concat, List.flatMap_append, List.flatMap_singleton, ← ih h.1]
    cases hflatten : flatten front with
    | pending => exact absurd hflatten hfront
    | success values => cases last <;> first | exact absurd rfl hlast | rfl
    | failure part =>
      cases last with
      | pending => exact absurd rfl hlast
      | success value => exact (List.append_nil part).symm
      | failure more => rfl

theorem reasons_combineAll {outcomes : List (Outcome α)} (h : .pending ∉ outcomes)
    (f : List α → β) : (combineAll outcomes f).reasons = outcomes.flatMap reasons := by
  unfold combineAll
  rw [reasons_map, reasons_flatten h]

/-! ### Decided outcomes -/

/-- The outcome is a success with a good value, or a failure. -/
def IsDecided (good : α → Prop) (o : Outcome α) : Prop :=
  (∃ value, o = .success value ∧ good value) ∨ ∃ reasons, o = .failure reasons

theorem IsDecided.mono {good good' : α → Prop} {o : Outcome α} (h : o.IsDecided good)
    (hgood : ∀ value, good value → good' value) : o.IsDecided good' := by
  rcases h with ⟨value, rfl, hvalue⟩ | hfailure
  · exact Or.inl ⟨value, rfl, hgood value hvalue⟩
  · exact Or.inr hfailure

/-- Outcomes none of which is pending come to a success if all of them are one, or to a failure. -/
theorem isDecided_flatten {outcomes : List (Outcome α)} (h : .pending ∉ outcomes) :
    (flatten outcomes).IsDecided fun values => outcomes = values.map .success := by
  cases hflatten : flatten outcomes with
  | pending => exact absurd (flatten_eq_pending_iff.mp hflatten) h
  | success values => exact Or.inl ⟨values, rfl, flatten_eq_success_iff.mp hflatten⟩
  | failure reasons => exact Or.inr ⟨reasons, rfl⟩

theorem IsDecided.ne_pending {good : α → Prop} {o : Outcome α} (h : o.IsDecided good) :
    o ≠ .pending := by
  rcases h with ⟨value, rfl, -⟩ | ⟨reasons, rfl⟩ <;> simp

/-- **What comes of going on with an outcome**: something from the value of a success, or the same
failure. -/
inductive Continues (step : α → Outcome β → Prop) : Outcome α → Outcome β → Prop
  /-- There was a value to go on with. -/
  | success {value : α} {o : Outcome β} : step value o → Continues step (.success value) o
  /-- The failure stands for what would have come. -/
  | failure {reasons : List Rejection} : Continues step (.failure reasons) (.failure reasons)

theorem Continues.isDecided {step : α → Outcome β → Prop} {good : β → Prop} {o : Outcome α}
    {o' : Outcome β} (h : Continues step o o')
    (hstep : ∀ value o', step value o' → o'.IsDecided good) : o'.IsDecided good := by
  cases h with
  | success h => exact hstep _ _ h
  | failure => exact Or.inr ⟨_, rfl⟩

theorem isDecided_combineAll {outcomes : List (Outcome α)} (h : .pending ∉ outcomes)
    (f : List α → β) :
    (combineAll outcomes f).IsDecided fun b =>
      ∃ values, outcomes = values.map .success ∧ b = f values := by
  unfold combineAll
  rcases isDecided_flatten h with ⟨values, hflatten, hvalues⟩ | ⟨reasons, hflatten⟩
  · rw [hflatten]
    exact Or.inl ⟨f values, rfl, values, hvalues, rfl⟩
  · rw [hflatten]
    exact Or.inr ⟨reasons, rfl⟩

end Outcome

end ContentPack
