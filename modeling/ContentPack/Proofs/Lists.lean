import Mathlib.Data.List.Forall2
import Mathlib.Data.List.Induction
import Mathlib.Data.List.Nodup
import Mathlib.Data.List.Perm.Basic
import Mathlib.Tactic.Common

/-!
# Lists whose items are taken one by one

`List.eraseDups` keeps the first occurrences. It changes nothing in a list without repetitions
(`eraseDups_of_nodup`), and what is added behind such a list leaves it in place
(`eraseDups_append_of_nodup`).

`List.Forall₂` joins the items of two lists place by place: what holds of one step holds of all of
them when a state is passed through a list (`forall₂_mapM`), and steps that may fail are all taken
exactly if none of them fails (`mapM_eq_ok_iff`).
-/

namespace ContentPack

/-! ### First occurrences -/

section EraseDups

variable {α β : Type} [DecidableEq α]

theorem nodup_eraseDups (l : List α) : l.eraseDups.Nodup := by
  induction hn : l.length using Nat.strongRecOn generalizing l with
  | _ n ih =>
    cases l with
    | nil => simp
    | cons a l =>
      rw [List.eraseDups_cons, List.nodup_cons]
      have hlen := List.length_filter_le (fun b => !b == a) l
      rw [List.length_cons] at hn
      exact ⟨by simp, ih _ (by omega) _ rfl⟩

/-- Nothing is erased from a list without repetitions. -/
theorem eraseDups_of_nodup {l : List α} (h : l.Nodup) : l.eraseDups = l := by
  induction l with
  | nil => rfl
  | cons a l ih =>
    obtain ⟨ha, hl⟩ := List.nodup_cons.mp h
    have hfilter : l.filter (fun b => !b == a) = l := by
      apply List.filter_eq_self.mpr
      intro b hb
      have hne : b ≠ a := fun heq => ha (heq ▸ hb)
      simp [hne]
    rw [List.eraseDups_cons, hfilter, ih hl]

/-- A list without repetitions stays in place when more is added behind it. -/
theorem eraseDups_append_of_nodup {l : List α} (h : l.Nodup) (more : List α) :
    (l ++ more).eraseDups = l ++ (more.removeAll l).eraseDups := by
  rw [List.eraseDups_append, eraseDups_of_nodup h]

/-- What was there before adds nothing. -/
theorem eraseDups_append_of_subset {l more : List α} (h : more ⊆ l) :
    (l ++ more).eraseDups = l.eraseDups := by
  have hnil : more.removeAll l = [] := by
    unfold List.removeAll
    rw [List.filter_eq_nil_iff]
    intro a ha
    simp [h ha]
  rw [List.eraseDups_append, hnil]
  exact List.append_nil _

theorem eraseDups_filter (p : α → Bool) (l : List α) :
    (l.filter p).eraseDups = l.eraseDups.filter p := by
  induction hn : l.length using Nat.strongRecOn generalizing l with
  | _ n ih =>
    cases l with
    | nil => rfl
    | cons a l =>
      have hlen := List.length_filter_le (fun b => !b == a) l
      rw [List.length_cons] at hn
      have hrest := ih _ (by omega) (l.filter fun b => !b == a) rfl
      rw [List.eraseDups_cons, List.filter_cons]
      by_cases hp : p a = true
      · rw [if_pos hp, List.eraseDups_cons, List.filter_cons, if_pos hp, ← hrest]
        simp only [List.filter_filter, Bool.and_comm]
      · -- what repeats the first item is left out with it
        rw [if_neg hp, List.filter_cons, if_neg hp, ← hrest]
        congr 1
        rw [List.filter_filter]
        apply List.filter_congr
        intro b _
        by_cases hba : b = a
        · subst hba
          simp [hp]
        · simp [hba]

/-- Repetitions within the parts of a concatenation need not be erased beforehand. -/
theorem eraseDups_append_eraseDups (l more : List α) :
    (l.eraseDups ++ more.eraseDups).eraseDups = (l ++ more).eraseDups := by
  rw [List.eraseDups_append, List.eraseDups_append, eraseDups_of_nodup (nodup_eraseDups l)]
  congr 1
  have hsame : more.eraseDups.removeAll l.eraseDups = more.eraseDups.removeAll l := by
    unfold List.removeAll
    apply List.filter_congr
    intro b _
    simp
  rw [hsame]
  unfold List.removeAll
  rw [← eraseDups_filter, eraseDups_of_nodup (nodup_eraseDups _)]

/-- What is left of a list is one of its items. -/
theorem mem_of_mem_eraseDupsBy {r : β → β → Bool} {l : List β} {b : β}
    (h : b ∈ l.eraseDupsBy r) : b ∈ l := by
  induction hn : l.length using Nat.strongRecOn generalizing l with
  | _ n ih =>
    cases l with
    | nil => exact h
    | cons a l =>
      rw [List.eraseDupsBy_cons] at h
      have hlen := List.length_filter_le (fun b => decide (r b a = false)) l
      rw [List.length_cons] at hn
      rcases List.mem_cons.mp h with rfl | h
      · exact List.mem_cons_self
      · exact List.mem_cons_of_mem _ (List.mem_filter.mp (ih _ (by omega) h rfl)).1

/-- An item that is not left of a list is related to one that is. -/
theorem exists_mem_eraseDupsBy {r : β → β → Bool} (hr : ∀ b, r b b = true) {l : List β} {b : β}
    (h : b ∈ l) : ∃ a ∈ l.eraseDupsBy r, r b a = true := by
  induction hn : l.length using Nat.strongRecOn generalizing l with
  | _ n ih =>
    cases l with
    | nil => cases h
    | cons a l =>
      rw [List.eraseDupsBy_cons]
      have hlen := List.length_filter_le (fun b => decide (r b a = false)) l
      rw [List.length_cons] at hn
      by_cases hba : r b a = true
      · exact ⟨a, List.mem_cons_self, hba⟩
      · rcases List.mem_cons.mp h with rfl | h
        · exact absurd (hr b) hba
        · have hmem : b ∈ l.filter fun b => decide (r b a = false) :=
            List.mem_filter.mpr ⟨h, by simpa using hba⟩
          obtain ⟨c, hc, hbc⟩ := ih _ (by omega) hmem rfl
          exact ⟨c, List.mem_cons_of_mem _ hc, hbc⟩

theorem eraseDups_flatMap_eraseDups (l : List β) (f : β → List α) :
    (l.flatMap fun b => (f b).eraseDups).eraseDups = (l.flatMap f).eraseDups := by
  induction l with
  | nil => rfl
  | cons b l ih =>
    rw [List.flatMap_cons, List.flatMap_cons, ← eraseDups_append_eraseDups, ih,
      eraseDups_of_nodup (nodup_eraseDups (f b)), eraseDups_append_eraseDups]

end EraseDups

/-! ### Parts of a list -/

/-- Lists that are split by the last occurrence of an item are equal part by part. -/
theorem eq_of_append_cons_eq {α : Type} [DecidableEq α] {a : α} {l l' r r' : List α}
    (h : l ++ a :: r = l' ++ a :: r') (hr : a ∉ r) (hr' : a ∉ r') : l = l' ∧ r = r' := by
  have htake : ∀ {l r : List α}, a ∉ r →
      (l ++ a :: r).reverse.takeWhile (· ≠ a) = r.reverse := by
    intro l r hr
    rw [List.reverse_append, List.reverse_cons, List.append_assoc, List.takeWhile_append_of_pos,
      List.singleton_append, List.takeWhile_cons_of_neg (by simp), List.append_nil]
    intro b hb
    have hne : b ≠ a := fun heq => hr (heq ▸ List.mem_reverse.mp hb)
    simpa using hne
  have hrev : r.reverse = r'.reverse := by
    rw [← htake (l := l) hr, h, htake hr']
  obtain rfl := List.reverse_injective hrev
  exact ⟨List.append_cancel_right h, rfl⟩

section Runs

variable {α : Type} {p : α → Bool} {run : List α} {stop : α}

/-- A run ends where an item stops it. -/
theorem takeWhile_append_stop (hrun : ∀ a ∈ run, p a = true) (hstop : p stop = false)
    (rest : List α) : (run ++ stop :: rest).takeWhile p = run := by
  rw [List.takeWhile_append_of_pos hrun, List.takeWhile_cons_of_neg (by rw [hstop]; decide),
    List.append_nil]

theorem dropWhile_append_stop (hrun : ∀ a ∈ run, p a = true) (hstop : p stop = false)
    (rest : List α) : (run ++ stop :: rest).dropWhile p = stop :: rest := by
  rw [List.dropWhile_append_of_pos hrun, List.dropWhile_cons_of_neg (by rw [hstop]; decide)]

end Runs

/-! ### The greatest number of a list -/

theorem le_foldl_max {l : List Nat} (init : Nat) {n : Nat} (h : n ≤ init ∨ n ∈ l) :
    n ≤ l.foldl max init := by
  induction l generalizing init with
  | nil => exact h.resolve_right List.not_mem_nil
  | cons m l ih =>
    refine ih (max init m) ?_
    rcases h with hle | hmem
    · exact Or.inl (by omega)
    · rcases List.mem_cons.mp hmem with rfl | hmem
      · exact Or.inl (by omega)
      · exact Or.inr hmem

/-! ### Place by place -/

section Forall₂

variable {β γ σ : Type} {R : β → γ → Prop}

/-- An item on the right has an item on the left. -/
theorem exists_left_of_forall₂ {left : List β} {right : List γ} (h : List.Forall₂ R left right)
    {c : γ} (hc : c ∈ right) : ∃ b ∈ left, R b c := by
  induction h with
  | nil => cases hc
  | cons hbc _ ih =>
    rcases List.mem_cons.mp hc with rfl | hc
    · exact ⟨_, List.mem_cons_self, hbc⟩
    · obtain ⟨b, hb, hR⟩ := ih hc
      exact ⟨b, List.mem_cons_of_mem _ hb, hR⟩

/-- An item on the left has an item on the right. -/
theorem exists_right_of_forall₂ {left : List β} {right : List γ} (h : List.Forall₂ R left right)
    {b : β} (hb : b ∈ left) : ∃ c ∈ right, R b c :=
  exists_left_of_forall₂ h.flip hb

/-- Values that are all of one form. -/
theorem exists_map_of_forall₂ {δ : Type} (load : δ → γ) {left : List β} {right : List γ}
    (hload : ∀ b c, R b c → ∃ d, c = load d) (h : List.Forall₂ R left right) :
    ∃ values, right = values.map load ∧ List.Forall₂ (fun b d => R b (load d)) left values := by
  induction h with
  | nil => exact ⟨[], rfl, List.Forall₂.nil⟩
  | cons hbc _ ih =>
    obtain ⟨d, rfl⟩ := hload _ _ hbc
    obtain ⟨values, rfl, hvalues⟩ := ih
    exact ⟨d :: values, rfl, List.Forall₂.cons hbc hvalues⟩

/-- Two lists are joined by way of a list between them. -/
theorem forall₂_trans {δ : Type} {S : γ → δ → Prop} {T : β → δ → Prop} {left : List β}
    {middle : List γ} {right : List δ} (h : ∀ b c d, R b c → S c d → T b d)
    (hR : List.Forall₂ R left middle) (hS : List.Forall₂ S middle right) :
    List.Forall₂ T left right := by
  induction hR generalizing right with
  | nil =>
    cases hS
    exact List.Forall₂.nil
  | cons hbc _ ih =>
    cases hS with
    | cons hcd hrest => exact List.Forall₂.cons (h _ _ _ hbc hcd) (ih hrest)

/-- What holds of every item, whatever the state is, holds of all items. -/
theorem forall₂_mapM {f : β → StateM σ γ} {items : List β}
    (h : ∀ item ∈ items, ∀ state, R item (f item state).1) (state : σ) :
    List.Forall₂ R items (items.mapM f state).1 := by
  induction items generalizing state with
  | nil => exact List.Forall₂.nil
  | cons item rest ih =>
    rw [List.mapM_cons]
    refine List.Forall₂.cons (h item List.mem_cons_self state) ?_
    exact ih (fun other hother => h other (List.mem_cons_of_mem _ hother)) _

/-- What one step may do to the state, all of them may do. -/
theorem rel_mapM {T : σ → σ → Prop} (refl : ∀ state, T state state)
    (trans : ∀ {first second third}, T first second → T second third → T first third)
    {f : β → StateM σ γ} {items : List β} (h : ∀ item ∈ items, ∀ state, T state (f item state).2)
    (state : σ) : T state (items.mapM f state).2 := by
  induction items generalizing state with
  | nil => exact refl state
  | cons item rest ih =>
    rw [List.mapM_cons]
    refine trans (h item List.mem_cons_self state) ?_
    exact ih (fun other hother => h other (List.mem_cons_of_mem _ hother)) _

/-- What one step adds to a log, all of them add in their order. -/
theorem snd_mapM_append {δ : Type} {f : β → StateM (List δ) γ} {new : β → List δ} {items : List β}
    (h : ∀ item ∈ items, ∀ log, (f item log).2 = log ++ new item) (log : List δ) :
    (items.mapM f log).2 = log ++ items.flatMap new := by
  induction items generalizing log with
  | nil => exact (List.append_nil log).symm
  | cons item rest ih =>
    rw [List.mapM_cons, List.flatMap_cons, ← List.append_assoc, ← h item List.mem_cons_self log]
    exact ih (fun other hother => h other (List.mem_cons_of_mem _ hother)) _

end Forall₂

/-! ### Steps that may fail -/

section Except

variable {ε α β γ : Type}

theorem bind_eq_ok_iff {x : Except ε α} {next : α → Except ε β} {b : β} :
    x >>= next = .ok b ↔ ∃ a, x = .ok a ∧ next a = .ok b := by
  cases x <;> simp [bind, Except.bind]

theorem bind_eq_error_iff {x : Except ε α} {next : α → Except ε β} {e : ε} :
    x >>= next = .error e ↔ x = .error e ∨ ∃ a, x = .ok a ∧ next a = .error e := by
  cases x <;> simp [bind, Except.bind]

theorem mapM_eq_ok_iff {f : α → Except ε β} {items : List α} {values : List β} :
    items.mapM f = .ok values ↔ List.Forall₂ (fun a b => f a = .ok b) items values := by
  induction items generalizing values with
  | nil => simp [pure, Except.pure, eq_comm]
  | cons a items ih =>
    rw [List.mapM_cons, List.forall₂_cons_left_iff, bind_eq_ok_iff]
    simp only [bind_eq_ok_iff, ih]
    constructor
    · rintro ⟨b, hb, rest, hrest, heq⟩
      exact ⟨b, rest, hb, hrest, (Except.ok.inj heq).symm⟩
    · rintro ⟨b, rest, hb, hrest, rfl⟩
      exact ⟨b, hb, rest, hrest, rfl⟩

theorem mapM_eq_some_iff {f : α → Option β} {items : List α} {values : List β} :
    items.mapM f = some values ↔ List.Forall₂ (fun a b => f a = some b) items values := by
  induction items generalizing values with
  | nil => simp [pure, eq_comm]
  | cons a items ih =>
    rw [List.mapM_cons, List.forall₂_cons_left_iff]
    simp only [Option.bind_eq_bind, Option.bind_eq_some_iff, Option.pure_def, Option.some.injEq, ih]
    constructor
    · rintro ⟨b, hb, rest, hrest, rfl⟩
      exact ⟨b, rest, hb, hrest, rfl⟩
    · rintro ⟨b, rest, hb, hrest, rfl⟩
      exact ⟨b, hb, rest, hrest, rfl⟩

/-- All items have values exactly if none of them has none. -/
theorem forall₂_eq_some_iff {f : α → Option β} {items : List α} {values : List β} :
    List.Forall₂ (fun a b => f a = some b) items values ↔
      (items.filter fun a => (f a).isNone) = [] ∧ values = items.filterMap f := by
  induction items generalizing values with
  | nil => simp
  | cons a items ih =>
    rw [List.forall₂_cons_left_iff, List.filter_cons, List.filterMap_cons]
    cases hb : f a with
    | none => simp
    | some b =>
      simp only [ih, Option.some.injEq, Option.isNone_some, Bool.false_eq_true, if_false]
      constructor
      · rintro ⟨_, values, rfl, ⟨hnil, rfl⟩, rfl⟩
        exact ⟨hnil, rfl⟩
      · rintro ⟨hnil, rfl⟩
        exact ⟨b, _, rfl, ⟨hnil, rfl⟩, rfl⟩

theorem exists_eq_none_of_mapM {f : α → Option β} {items : List α} (h : items.mapM f = none) :
    ∃ a ∈ items, f a = none := by
  induction items with
  | nil => cases h
  | cons a items ih =>
    cases hb : f a with
    | none => exact ⟨a, List.mem_cons_self, hb⟩
    | some b =>
      rw [List.mapM_cons, hb] at h
      obtain ⟨a', ha', hnone⟩ := ih (by cases hrest : items.mapM f <;> simp_all)
      exact ⟨a', List.mem_cons_of_mem _ ha', hnone⟩

/-- Items in another order have their values in another order. -/
theorem exists_mapM_perm {f : α → Except ε β} {items items' : List α} {values : List β}
    (hperm : items'.Perm items) (h : items.mapM f = .ok values) :
    ∃ values', items'.mapM f = .ok values' ∧ values'.Perm values := by
  obtain ⟨values', hvalues, hperm'⟩ := List.perm_comp_forall₂ hperm (mapM_eq_ok_iff.mp h)
  exact ⟨values', mapM_eq_ok_iff.mpr hvalues, hperm'⟩

/-- To put values in place as they are read is to read all of them first. -/
theorem foldlM_eq_mapM (f : α → Except ε β) (put : γ → β → γ) (items : List α) (c : γ) :
    items.foldlM (fun c a => return put c (← f a)) c = (return (← items.mapM f).foldl put c) := by
  induction items generalizing c with
  | nil => rfl
  | cons a items ih =>
    rw [List.foldlM_cons, List.mapM_cons]
    cases f a with
    | error e => rfl
    | ok b =>
      refine (ih (put c b)).trans ?_
      cases items.mapM f <;> rfl

end Except

end ContentPack
