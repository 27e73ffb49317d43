import ContentPack.Proofs.Lists
import Mathlib.Data.Nat.Find

/-!
# Items by their distance

Items refer to others. Those that can be reached from some seeds are met in the order of their
distance (`met`), and those at one distance (`layer`) in the order in which the layer before refers
to them. A layer holds exactly the items that so many references lead to and not fewer
(`mem_layer_iff`); and to add all that is referred to from within adds the next layer
(`eraseDups_met_append`).
-/

namespace ContentPack.Layers

variable {α : Type} {refs : α → List α} {seeds : List α} {x y : α} {d d' : Nat}

/-! ### Distances -/

/-- **Paths of references** from a seed, with their length. -/
inductive Leads (refs : α → List α) (seeds : List α) : Nat → α → Prop
  /-- Nothing leads to a seed. -/
  | seed {x : α} : x ∈ seeds → Leads refs seeds 0 x
  /-- One more reference. -/
  | step {d : Nat} {x y : α} : Leads refs seeds d x → y ∈ refs x → Leads refs seeds (d + 1) y

/-- **The distance of an item** is the length of a shortest path to it. -/
structure IsAt (refs : α → List α) (seeds : List α) (d : Nat) (x : α) : Prop where
  /-- There is such a path. -/
  path : Leads refs seeds d x
  /-- There is no shorter one. -/
  shortest : ∀ d' < d, ¬Leads refs seeds d' x

theorem IsAt.unique (h : IsAt refs seeds d x) (h' : IsAt refs seeds d' x) : d = d' := by
  rcases Nat.lt_trichotomy d d' with hlt | heq | hlt
  · exact absurd h.path (h'.shortest d hlt)
  · exact heq
  · exact absurd h'.path (h.shortest d' hlt)

/-- What is led to has a distance. -/
theorem Leads.exists_isAt (h : Leads refs seeds d x) : ∃ d' ≤ d, IsAt refs seeds d' x := by
  classical
  have hpath : ∃ d, Leads refs seeds d x := ⟨d, h⟩
  exact ⟨Nat.find hpath, Nat.find_min' hpath h, Nat.find_spec hpath, fun _ => Nat.find_min hpath⟩

/-! ### Layers -/

variable [DecidableEq α]

/-- What was met before a layer, and the layer: what the last one refers to and was not met. -/
def split (refs : α → List α) (seeds : List α) : Nat → List α × List α
  | 0 => ([], seeds.eraseDups)
  | d + 1 =>
    let (before, layer) := split refs seeds d
    (before ++ layer, ((layer.flatMap refs).removeAll (before ++ layer)).eraseDups)

/-- The items at a distance, in the order in which they are met. -/
def layer (refs : α → List α) (seeds : List α) (d : Nat) : List α := (split refs seeds d).2

/-- The items up to a distance, in the order in which they are met. -/
def met (refs : α → List α) (seeds : List α) (d : Nat) : List α :=
  (split refs seeds d).1 ++ (split refs seeds d).2

@[simp]
theorem met_zero : met refs seeds 0 = seeds.eraseDups := rfl

theorem met_succ : met refs seeds (d + 1) = met refs seeds d ++ layer refs seeds (d + 1) := rfl

theorem layer_succ : layer refs seeds (d + 1) =
    (((layer refs seeds d).flatMap refs).removeAll (met refs seeds d)).eraseDups := rfl

theorem met_mono (h : d ≤ d') : met refs seeds d ⊆ met refs seeds d' := by
  induction h with
  | refl => exact List.Subset.refl _
  | step _ ih => exact List.Subset.trans ih (List.subset_append_left _ _)

theorem mem_layer_succ : y ∈ layer refs seeds (d + 1) ↔
    (∃ x ∈ layer refs seeds d, y ∈ refs x) ∧ y ∉ met refs seeds d := by
  rw [layer_succ, List.mem_eraseDups]
  unfold List.removeAll
  rw [List.mem_filter, List.mem_flatMap]
  simp

/-- Every item is met once. -/
theorem nodup_met : (met refs seeds d).Nodup := by
  induction d with
  | zero => exact nodup_eraseDups seeds
  | succ d ih =>
    refine List.nodup_append.mpr ⟨ih, nodup_eraseDups _, ?_⟩
    rintro x hx _ hx' rfl
    exact (mem_layer_succ.mp hx').2 hx

/-- What is referred to from within is met at the next distance, if not before. -/
theorem mem_met_succ (hx : x ∈ met refs seeds d) (hy : y ∈ refs x) :
    y ∈ met refs seeds (d + 1) := by
  have hlayer : ∀ {d : Nat}, x ∈ layer refs seeds d → y ∈ met refs seeds (d + 1) := by
    intro d hx
    rw [met_succ, List.mem_append]
    by_cases hmet : y ∈ met refs seeds d
    · exact Or.inl hmet
    · exact Or.inr (mem_layer_succ.mpr ⟨⟨x, hx, hy⟩, hmet⟩)
  induction d with
  | zero => exact hlayer hx
  | succ d ih =>
    rcases List.mem_append.mp hx with hx | hx
    · exact met_mono (Nat.le_succ _) (ih hx)
    · exact hlayer hx

theorem Leads.mem_met (h : Leads refs seeds d x) : x ∈ met refs seeds d := by
  induction h with
  | seed hx => exact List.mem_eraseDups.mpr hx
  | step _ hy ih => exact mem_met_succ ih hy

theorem leads_of_mem_layer (h : x ∈ layer refs seeds d) : Leads refs seeds d x := by
  induction d generalizing x with
  | zero => exact .seed (List.mem_eraseDups.mp h)
  | succ d ih =>
    obtain ⟨⟨y, hy, hx⟩, -⟩ := mem_layer_succ.mp h
    exact .step (ih hy) hx

theorem exists_leads_of_mem_met (h : x ∈ met refs seeds d) :
    ∃ d' ≤ d, Leads refs seeds d' x := by
  induction d with
  | zero => exact ⟨0, le_rfl, leads_of_mem_layer h⟩
  | succ d ih =>
    rcases List.mem_append.mp h with h | h
    · obtain ⟨d', hle, hpath⟩ := ih h
      exact ⟨d', Nat.le_succ_of_le hle, hpath⟩
    · exact ⟨d + 1, le_rfl, leads_of_mem_layer h⟩

/-- **A layer holds exactly the items at its distance.** -/
theorem mem_layer_iff : x ∈ layer refs seeds d ↔ IsAt refs seeds d x := by
  constructor
  · intro h
    refine ⟨leads_of_mem_layer h, fun d' hlt hpath => ?_⟩
    cases d with
    | zero => exact Nat.not_lt_zero _ hlt
    | succ d => exact (mem_layer_succ.mp h).2 (met_mono (Nat.le_of_lt_succ hlt) hpath.mem_met)
  · intro h
    cases d with
    | zero => exact h.path.mem_met
    | succ d =>
      rcases List.mem_append.mp h.path.mem_met with hmet | hlayer
      · -- a shorter path leads to what was met before
        obtain ⟨d', hle, hpath⟩ := exists_leads_of_mem_met hmet
        exact absurd hpath (h.shortest d' (Nat.lt_succ_of_le hle))
      · exact hlayer

/-- **What was met are the items up to a distance.** -/
theorem mem_met_iff : x ∈ met refs seeds d ↔ ∃ d' ≤ d, IsAt refs seeds d' x := by
  constructor
  · intro h
    obtain ⟨d', hle, hpath⟩ := exists_leads_of_mem_met h
    obtain ⟨d'', hle', hat⟩ := hpath.exists_isAt
    exact ⟨d'', Nat.le_trans hle' hle, hat⟩
  · rintro ⟨d', hle, hat⟩
    exact met_mono hle hat.path.mem_met

/-- **To add all that is referred to adds the next layer.** -/
theorem eraseDups_met_append :
    (met refs seeds d ++ (met refs seeds d).flatMap refs).eraseDups = met refs seeds (d + 1) := by
  rw [eraseDups_append_of_nodup nodup_met, met_succ, layer_succ]
  congr 2
  cases d with
  | zero => rfl
  | succ d =>
    -- what is referred to from before the last layer was met with it
    have hold : ((met refs seeds d).flatMap refs).removeAll (met refs seeds (d + 1)) = [] := by
      unfold List.removeAll
      rw [List.filter_eq_nil_iff]
      intro y hy
      obtain ⟨x, hx, hxy⟩ := List.mem_flatMap.mp hy
      simp [mem_met_succ hx hxy]
    have hsplit : (met refs seeds (d + 1)).flatMap refs =
        (met refs seeds d).flatMap refs ++ (layer refs seeds (d + 1)).flatMap refs := by
      rw [met_succ, List.flatMap_append]
    rw [hsplit]
    unfold List.removeAll at hold ⊢
    rw [List.filter_append, hold, List.nil_append]

/-- Once a layer is empty, all that can be reached was met. -/
theorem Leads.mem_met_of_layer_eq_nil (hnil : layer refs seeds (d + 1) = [])
    (h : Leads refs seeds d' x) : x ∈ met refs seeds d := by
  induction h with
  | seed hx => exact met_mono (Nat.zero_le d) (List.mem_eraseDups.mpr hx)
  | step _ hy ih =>
    have hmet := mem_met_succ ih hy
    rw [met_succ, hnil, List.append_nil] at hmet
    exact hmet

/-- Nothing lies beyond the last layer that is not empty. -/
theorem IsAt.le_of_layer_eq_nil (hnil : layer refs seeds (d + 1) = [])
    (h : IsAt refs seeds d' x) : d' ≤ d := by
  obtain ⟨d'', hle, hat⟩ := mem_met_iff.mp (h.path.mem_met_of_layer_eq_nil hnil)
  rwa [h.unique hat]

end ContentPack.Layers
