import ContentPack.Proofs.Outcome

/-!
# Two folds of outcomes

A list of outcomes comes to one of three things: it is pending, it has the reasons of all failures,
or something is computed once from all values (`Outcome.combineAllM_of_pending`,
`Outcome.combineAllM_of_failure`, `Outcome.combineAllM_of_success`).

Outcomes can also be combined pairwise from the left (`Outcome.reduceM`). This comes to the same,
but it computes on the way: the operation runs along the values of the successes at the front, up to
the first outcome that is none, whatever comes later (`Outcome.reduceM_success`). All of this holds
in any monad. So an operation that leaves a trace or gives up is run as often, and on the same
values, as these equations say.
-/

namespace ContentPack.Outcome

variable {α β : Type} {m : Type → Type} [Monad m]

/-! ### What all outcomes come to -/

/-- The first outcome comes before the others. -/
theorem flatten_cons (first : Outcome α) (others : List (Outcome α)) :
    flatten (first :: others) = combine List.cons first (flatten others) := by
  induction others using List.reverseRecOn with
  | nil => cases first <;> rfl
  | append_singleton front last ih =>
    rw [← List.cons_append, flatten_concat, flatten_concat, ih]
    cases first <;> cases flatten front <;> cases last <;> simp [combine]

theorem flatten_of_failure {outcomes : List (Outcome α)} (hpending : .pending ∉ outcomes)
    {part : List Rejection} (hpart : .failure part ∈ outcomes) :
    flatten outcomes = .failure (outcomes.flatMap reasons) := by
  rw [← reasons_flatten hpending]
  rcases isDecided_flatten hpending with ⟨values, hflatten, rfl⟩ | ⟨all, hflatten⟩
  · simp at hpart
  · rw [hflatten]
    rfl

/-- If an outcome is pending, nothing is computed. -/
theorem combineAllM_of_pending {outcomes : List (Outcome α)} (h : .pending ∈ outcomes)
    (f : List α → m β) : combineAllM outcomes f = pure .pending := by
  unfold combineAllM
  rw [flatten_eq_pending_iff.mpr h]
  rfl

/-- If an outcome is a failure, nothing is computed either. -/
theorem combineAllM_of_failure {outcomes : List (Outcome α)} (hpending : .pending ∉ outcomes)
    {part : List Rejection} (hpart : .failure part ∈ outcomes) (f : List α → m β) :
    combineAllM outcomes f = pure (.failure (outcomes.flatMap reasons)) := by
  unfold combineAllM
  rw [flatten_of_failure hpending hpart]
  rfl

theorem combineAllM_of_success (values : List α) (f : List α → m β) :
    combineAllM (values.map .success) f = .success <$> f values := by
  unfold combineAllM
  rw [flatten_eq_success_iff.mpr rfl]
  rfl

/-! ### Combining from the left -/

/-- The values of the successes before the first outcome that is none. -/
def leading (outcomes : List (Outcome α)) : List α :=
  (outcomes.takeWhile isSuccess).filterMap value?

theorem leading_success_cons (value : α) (rest : List (Outcome α)) :
    leading (.success value :: rest) = value :: leading rest := rfl

theorem leading_cons {first : Outcome α} (h : first.isSuccess = false)
    (rest : List (Outcome α)) : leading (first :: rest) = [] := by
  simp [leading, h]

/-- The values fold from the left, where there is one. -/
def foldValues (g : α → α → α) (fallback : α) : List α → α
  | [] => fallback
  | value :: values => values.foldl g value

/-- A success does not matter for what is not computed from it. -/
theorem combineAll_success_cons (value : α) (rest : List (Outcome α)) (b : β) :
    (combineAll (.success value :: rest) fun _ => b) = combineAll rest fun _ => b := by
  unfold combineAll
  rw [flatten_cons]
  cases flatten rest <;> rfl

section Reduce

variable (g : α → α → m α)

theorem reduceM_cons (first next : Outcome α) (rest : List (Outcome α)) :
    reduceM g first (next :: rest) = combineM g first next >>= (reduceM g · rest) := by
  unfold reduceM
  rw [List.foldlM_cons]

variable [LawfulMonad m]

/-- Nothing is computed behind an outcome that is no success. -/
theorem reduceM_of_not_success {first : Outcome α} (h : first.isSuccess = false)
    (others : List (Outcome α)) :
    reduceM g first others = pure ((flatten (first :: others)).bind fun _ => .pending) := by
  -- by induction on the others, each of which goes into the first one
  induction others generalizing first with
  | nil =>
    cases first with
    | success value => cases h
    | pending => rfl
    | failure reasons => rfl
  | cons next rest ih =>
    have hnext : ∃ o : Outcome α, o.isSuccess = false ∧ combineM g first next = pure o ∧
        flatten (o :: rest) = flatten (first :: next :: rest) := by
      simp only [flatten_cons]
      cases first with
      | success value => cases h
      | pending => exact ⟨.pending, rfl, rfl, rfl⟩
      | failure reasons =>
        cases next with
        | pending => exact ⟨.pending, rfl, rfl, rfl⟩
        | success value =>
          refine ⟨.failure reasons, rfl, rfl, ?_⟩
          cases flatten rest <;> rfl
        | failure more =>
          refine ⟨.failure (reasons ++ more), rfl, rfl, ?_⟩
          cases flatten rest <;> simp [combine]
    obtain ⟨o, ho, hcombine, hall⟩ := hnext
    rw [reduceM_cons, hcombine, pure_bind, ih ho, hall]

/-- What comes of outcomes of which the first is no success is not computed from their values. -/
theorem bind_flatten_cons {first : Outcome α} (h : first.isSuccess = false)
    (others : List (Outcome α)) (f : List α → β) :
    ((flatten (first :: others)).bind fun _ => .pending) = combineAll (first :: others) f := by
  unfold combineAll
  rw [flatten_cons]
  cases first with
  | success value => cases h
  | pending => rfl
  | failure reasons => cases flatten others <;> rfl

/-- **The operation runs along the successes at the front**, and then all outcomes come to what they
come to, with its result in the place of the values. -/
theorem reduceM_success (value : α) (others : List (Outcome α)) :
    reduceM g (.success value) others =
      (fun a => combineAll (.success value :: others) fun _ => a) <$>
        (leading others).foldlM g value := by
  induction others generalizing value with
  | nil => simp [reduceM, leading, combineAll, flatten, combine, map, bind]
  | cons next rest ih =>
    have hstop : next.isSuccess = false → combineM g (.success value) next = pure next →
        reduceM g (.success value) (next :: rest) =
          (fun a => combineAll (.success value :: next :: rest) fun _ => a) <$>
            (leading (next :: rest)).foldlM g value := by
      intro hnext hcombine
      rw [reduceM_cons, hcombine, pure_bind, leading_cons hnext, List.foldlM_nil, map_pure,
        combineAll_success_cons, reduceM_of_not_success g hnext, bind_flatten_cons hnext]
    cases next with
    | pending => exact hstop rfl rfl
    | failure reasons => exact hstop rfl rfl
    | success w =>
      have hcombine : combineM g (.success value) (.success w) = .success <$> g value w := rfl
      rw [reduceM_cons, hcombine, leading_success_cons, List.foldlM_cons, map_bind, bind_map_left]
      refine bind_congr fun u => ?_
      rw [ih u]
      simp only [combineAll_success_cons]

/-- The operation runs along the leading values, whatever the first outcome is. -/
theorem reduceM_of_leading {first : Outcome α} {others : List (Outcome α)} {value : α}
    {values : List α} (h : leading (first :: others) = value :: values) :
    reduceM g first others =
      (fun a => combineAll (first :: others) fun _ => a) <$> values.foldlM g value := by
  cases first with
  | success v =>
    obtain ⟨rfl, rfl⟩ := List.cons.inj h
    exact reduceM_success g v others
  | pending => cases h
  | failure reasons => cases h

theorem reduceM_of_leading_nil {first : Outcome α} {others : List (Outcome α)}
    (h : leading (first :: others) = []) :
    reduceM g first others = pure ((flatten (first :: others)).bind fun _ => .pending) ∧
      ∀ f : List α → α, reduceM g first others = pure (combineAll (first :: others) f) := by
  have hfirst : first.isSuccess = false := by
    cases first with
    | success value => cases h
    | pending => rfl
    | failure reasons => rfl
  have hreduce := reduceM_of_not_success g hfirst others
  exact ⟨hreduce, fun f => by rw [hreduce, bind_flatten_cons hfirst]⟩

end Reduce

theorem leading_map_success (values : List α) : leading (values.map .success) = values := by
  induction values with
  | nil => rfl
  | cons value values ih => rw [List.map_cons, leading_success_cons, ih]

/-- Only what is computed from all values matters. -/
theorem combineAll_congr {outcomes : List (Outcome α)} {f f' : List α → β}
    (h : f (leading outcomes) = f' (leading outcomes)) :
    combineAll outcomes f = combineAll outcomes f' := by
  unfold combineAll
  cases hflatten : flatten outcomes with
  | pending => rfl
  | failure reasons => rfl
  | success values =>
    obtain rfl := flatten_eq_success_iff.mp hflatten
    rw [leading_map_success] at h
    exact congrArg success h

theorem combineAllM_pure [LawfulMonad m] (outcomes : List (Outcome α)) (f : List α → β) :
    (combineAllM outcomes (fun values => pure (f values)) : m (Outcome β)) =
      pure (combineAll outcomes f) := by
  unfold combineAllM combineAll
  cases flatten outcomes with
  | pending => rfl
  | failure reasons => rfl
  | success values => exact map_pure ..

/-- **An operation that always gives a value** makes the two folds the same. -/
theorem reduceM_pure [LawfulMonad m] (g : α → α → α) (fallback : α) (first : Outcome α)
    (others : List (Outcome α)) :
    (reduceM (fun a b => pure (g a b)) first others : m (Outcome α)) =
      combineAllM (first :: others) fun values => pure (foldValues g fallback values) := by
  rw [combineAllM_pure]
  cases hleading : leading (first :: others) with
  | nil => exact (reduceM_of_leading_nil _ hleading).2 _
  | cons value values =>
    rw [reduceM_of_leading _ hleading, List.foldlM_pure, map_pure]
    congr 1
    apply combineAll_congr
    rw [hleading]
    rfl

/-- **The operation gives up** exactly if it does so along the leading values. -/
theorem reduceM_eq_error_iff {ε : Type} (g : α → α → Except ε α) (first : Outcome α)
    (others : List (Outcome α)) (error : ε) :
    reduceM g first others = .error error ↔ ∃ value values,
      leading (first :: others) = value :: values ∧ values.foldlM g value = .error error := by
  cases hleading : leading (first :: others) with
  | nil =>
    rw [(reduceM_of_leading_nil g hleading).1]
    simp [pure, Except.pure]
  | cons value values =>
    rw [reduceM_of_leading g hleading]
    have hpart : (∃ v vs, value :: values = v :: vs ∧ vs.foldlM g v = .error error) ↔
        values.foldlM g value = .error error := by
      constructor
      · rintro ⟨v, vs, heq, herror⟩
        obtain ⟨rfl, rfl⟩ := List.cons.inj heq
        exact herror
      · exact fun herror => ⟨value, values, rfl, herror⟩
    rw [hpart]
    cases values.foldlM g value <;> simp [Functor.map, Except.map]

/-! ### The laws -/

/-- **Outcomes fold in two ways that agree.** In any monad, a list of outcomes is pending if one of
them is; else it has the reasons of all failures in order, if there is one; else something is
computed once from all values. The operation that combines a first outcome with others from the left
runs along the leading values exactly, and what is left then is what all outcomes come to. If it
always gives a value, this is the same as to fold all values; and if it may give up, the whole gives
up exactly if it gives up along the leading values, whatever comes behind them. -/
theorem fold_laws [LawfulMonad m] :
    (∀ (outcomes : List (Outcome α)) (f : List α → m β),
      (.pending ∈ outcomes → combineAllM outcomes f = pure .pending) ∧
      (.pending ∉ outcomes → (∃ part, .failure part ∈ outcomes) →
        combineAllM outcomes f = pure (.failure (outcomes.flatMap reasons))) ∧
      ∀ values, outcomes = values.map .success →
        combineAllM outcomes f = .success <$> f values) ∧
    ∀ (first : Outcome α) (others : List (Outcome α)),
      (∀ (g : α → α → α) (fallback : α),
        (reduceM (fun a b => pure (g a b)) first others : m (Outcome α)) =
          combineAllM (first :: others) fun values => pure (foldValues g fallback values)) ∧
      (∀ (g : α → α → m α) (f : List α → α), leading (first :: others) = [] →
        reduceM g first others = pure (combineAll (first :: others) f)) ∧
      (∀ (g : α → α → m α) (value : α) (values : List α),
        leading (first :: others) = value :: values →
        reduceM g first others =
          (fun a => combineAll (first :: others) fun _ => a) <$> values.foldlM g value) ∧
      ∀ (ε : Type) (g : α → α → Except ε α) (error : ε),
        reduceM g first others = .error error ↔ ∃ value values,
          leading (first :: others) = value :: values ∧ values.foldlM g value = .error error := by
  refine ⟨fun outcomes f => ⟨fun h => combineAllM_of_pending h f, ?_, ?_⟩, fun first others => ?_⟩
  · rintro hpending ⟨part, hpart⟩
    exact combineAllM_of_failure hpending hpart f
  · rintro values rfl
    exact combineAllM_of_success values f
  · exact ⟨fun g fallback => reduceM_pure g fallback first others,
      fun g f h => (reduceM_of_leading_nil g h).2 f, fun g _ _ h => reduceM_of_leading g h,
      fun _ g error => reduceM_eq_error_iff g first others error⟩

/-! ### An operation that leaves a trace and gives up -/

namespace Traced

/-- Add numbers, note what is added, and give up at three. -/
def add (a b : Nat) : ExceptT String (StateM (List (Nat × Nat))) Nat := do
  modify (· ++ [(a, b)])
  if b = 3 then throw "three" else return a + b

/-- **The operation gives up before the pending outcome is met**, and it did not run for what is
behind the number at which it gives up. -/
theorem gives_up_at_three :
    let others := [.success 2, .success 3, .success 4, .pending]
    leading (.success 1 :: others) = [1, 2, 3, 4] ∧
      ExceptT.run (reduceM add (.success 1) others) [] = (.error "three", [(1, 2), (3, 3)]) ∧
      ExceptT.run (combineAllM (.success 1 :: others) fun values => add 0 values.length) [] =
        (.ok .pending, []) := by
  intro others
  have hleading : leading (.success 1 :: others) = [1, 2, 3, 4] := rfl
  obtain ⟨hall, hreduce⟩ := fold_laws (α := Nat) (β := Nat)
    (m := ExceptT String (StateM (List (Nat × Nat))))
  obtain ⟨-, -, halong, -⟩ := hreduce (.success 1) others
  refine ⟨hleading, ?_, ?_⟩
  · rw [halong add 1 [2, 3, 4] hleading]
    rfl
  · rw [(hall _ _).1 (by simp [others])]
    rfl

end Traced

end ContentPack.Outcome
