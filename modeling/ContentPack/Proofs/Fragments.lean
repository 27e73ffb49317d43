import ContentPack.Assembly
import ContentPack.Proofs.Work

/-!
# How fragments of a pack are combined

The fragments of a pack are combined one after another. If all of them are there, the result is
that of combining them (`ensures_combine`); if one of them failed, the result is a failure with the
reasons of all of them (`ensures_combine_of_fails`).
-/

namespace ContentPack.Assembler

open Work

variable {σ : Type} {s : Session Loaded σ} {Q : Outcome Fragment → Session Loaded σ → Prop}
  {E : Error → Session Loaded σ → Prop}

/-- Fragments that are all there are combined one after another. -/
theorem ensures_reduce_successes {first f : Fragment} {front : List Fragment}
    (rest : List (Outcome Fragment)) (h : front.foldlM Fragment.combine first = .ok f) :
    Ensures (Outcome.reduceM (fun left right => ofMisuse (left.combine right))
        (.success first) (front.map .success ++ rest)) s Q E ↔
      Ensures (Outcome.reduceM (fun left right => ofMisuse (left.combine right))
        (.success f) rest) s Q E := by
  induction front generalizing first with
  | nil =>
    obtain rfl := Except.ok.inj h
    exact Iff.rfl
  | cons next front ih =>
    rw [List.foldlM_cons] at h
    cases hcombine : first.combine next with
    | error what =>
      rw [hcombine] at h
      cases h
    | ok combined =>
      rw [hcombine] at h
      rw [← ih h]
      unfold Outcome.reduceM
      rw [List.map_cons, List.cons_append, List.foldlM_cons, ensures_bind]
      simp only [Outcome.combineM, hcombine, ofMisuse]
      exact Iff.rfl

/-- After a failure there is a failure, with the reasons of all. -/
theorem ensures_reduce_failure {reasons : List Rejection} {others : List (Outcome Fragment)}
    (hpending : .pending ∉ others) :
    Ensures (Outcome.reduceM (fun left right => ofMisuse (left.combine right))
        (.failure reasons) others : Work Loaded σ (Outcome Fragment)) s
      (fun o rest => rest = s ∧ o = .failure (reasons ++ others.flatMap Outcome.reasons))
      (fun _ _ => False) := by
  unfold Outcome.reduceM
  induction others generalizing reasons with
  | nil => exact ⟨rfl, congrArg Outcome.failure (List.append_nil reasons).symm⟩
  | cons next others ih =>
    rw [List.mem_cons, not_or] at hpending
    rw [List.foldlM_cons, ensures_bind, List.flatMap_cons]
    cases next with
    | pending => exact absurd rfl hpending.1
    | success f => exact ih hpending.2
    | failure more =>
      rw [← List.append_assoc]
      exact ih hpending.2

/-- All fragments are there, and they are combined. -/
theorem ensures_combine {first f : Fragment} {fragments : List Fragment}
    (h : fragments.foldlM Fragment.combine first = .ok f) :
    Ensures (Outcome.reduceM (fun left right => ofMisuse (left.combine right))
        (.success first) (fragments.map .success)) s
      (fun o rest => rest = s ∧ o = .success f) (fun _ _ => False) := by
  have hreduce := ensures_reduce_successes [] (s := s)
    (Q := fun o rest => rest = s ∧ o = .success f) (E := fun _ _ => False) h
  rw [List.append_nil] at hreduce
  exact hreduce.mpr ⟨rfl, rfl⟩

/-- Some fragment of a pack failed, and those before it can be combined. -/
def Fails (t : Topic) (outcomes : List (Outcome Fragment)) : Prop :=
  ∃ (front : List Fragment) (f : Fragment) (reasons : List Rejection)
    (others : List (Outcome Fragment)),
    outcomes = front.map .success ++ .failure reasons :: others ∧ .pending ∉ others ∧
      front.foldlM Fragment.combine { topic := some t } = .ok f

theorem ensures_combine_of_fails {t : Topic} {outcomes : List (Outcome Fragment)}
    (h : Fails t outcomes) :
    Ensures (Outcome.reduceM (fun left right => ofMisuse (left.combine right))
        (.success { topic := some t }) outcomes) s
      (fun o rest => rest = s ∧ o = .failure (outcomes.flatMap Outcome.reasons))
      (fun _ _ => False) := by
  obtain ⟨front, f, reasons, others, rfl, hpending, hfront⟩ := h
  -- what comes before the first failure has no reasons
  have hnil : (front.map Outcome.success).flatMap Outcome.reasons = [] :=
    List.flatMap_eq_nil_iff.mpr fun o ho => by
      obtain ⟨_, -, rfl⟩ := List.mem_map.mp ho
      rfl
  rw [ensures_reduce_successes _ hfront, List.flatMap_append, hnil, List.nil_append,
    List.flatMap_cons]
  exact ensures_reduce_failure hpending

end ContentPack.Assembler
