import ContentPack.Progress
import Mathlib.Data.List.DropRight
import Mathlib.Data.List.Induction
import Mathlib.Data.List.Nodup
import Mathlib.Data.List.Perm.Subperm
import Mathlib.Tactic.Common

/-!
# Exact progress

What was reported on a group since it last started again says how many structures the group has
(`latestCount`) and which of them are there (`reportedPlaces`). A tracker may know less, because it
ignores places that its count does not reach, and places that it has seen.

Reports are `Steady` if every report can be taken as it is after those before it: a structure that
is there has a new place below the count, and a count is reported only while no structure is there.
Then progress is exact (`Steady.isExact`): nothing is ignored, and there are never more structures
than the count says. Structures that are reported in any order, each once, keep reports steady and
complete their groups (`Steady.items`).
-/

namespace ContentPack

/-! ### What was reported since a group started again -/

namespace Event

/-- The report lets a group start again. -/
def restarts (group : Group) : Event → Bool
  | .reset g => g = group
  | .resetAll => true
  | _ => false

/-- The number of structures of a group in a report. -/
def count? (group : Group) : Event → Option Int
  | .count g n => if g = group then some n else none
  | _ => none

/-- The place of a structure of a group in a report. -/
def place? (group : Group) : Event → Option Int
  | .item g index => if g = group then some index else none
  | _ => none

end Event

/-- The reports since a group last started again. -/
def sinceRestart (group : Group) (events : List Event) : List Event :=
  events.rtakeWhile fun e => !e.restarts group

/-- The number of structures of a group that was reported last, since it started again. -/
def latestCount (group : Group) (events : List Event) : Int :=
  ((sinceRestart group events).filterMap (Event.count? group)).getLastD 0

/-- The places of structures of a group that were reported since it started again. -/
def reportedPlaces (group : Group) (events : List Event) : List Int :=
  (sinceRestart group events).filterMap (Event.place? group)

section Concat

variable {group : Group} {events : List Event} {e : Event}

theorem sinceRestart_concat : sinceRestart group (events ++ [e]) =
    if e.restarts group then [] else sinceRestart group events ++ [e] := by
  unfold sinceRestart
  rw [List.rtakeWhile_concat]
  cases e.restarts group <;> rfl

theorem latestCount_concat : latestCount group (events ++ [e]) =
    if e.restarts group then 0 else (e.count? group).getD (latestCount group events) := by
  unfold latestCount
  rw [sinceRestart_concat]
  split
  · rfl
  · rw [List.filterMap_append]
    cases hcount : e.count? group with
    | none => simp [hcount]
    | some n => simp [hcount, List.getLastD_eq_getLast?]

theorem reportedPlaces_concat : reportedPlaces group (events ++ [e]) =
    if e.restarts group then [] else reportedPlaces group events ++ (e.place? group).toList := by
  unfold reportedPlaces
  rw [sinceRestart_concat]
  split
  · rfl
  · rw [List.filterMap_append]
    cases hplace : e.place? group <;> simp [hplace]

end Concat

/-! ### What a tracker knows after a report -/

namespace Tracker

variable {t t' : Tracker} {g group : Group} {events : List Event}

/-- The tracker that has followed reports. -/
def follow (t : Tracker) (events : List Event) : Tracker := events.foldl report t

/-- The tracker of reports. -/
def of (events : List Event) : Tracker := empty.follow events

theorem of_append (events more : List Event) : of (events ++ more) = (of events).follow more :=
  List.foldl_append

theorem of_concat (events : List Event) (e : Event) : of (events ++ [e]) = (of events).report e :=
  of_append events [e]

theorem count_reset : (t.reset g).count group = if g = group then 0 else t.count group := by
  unfold count reset
  rw [Table.get?_put]
  split <;> rfl

theorem places_reset : (t.reset g).places group = if g = group then [] else t.places group := by
  unfold places reset
  rw [Table.get?_put]
  split <;> rfl

theorem count_setCount (n : Int) :
    (t.setCount g n).count group = if g = group then n else t.count group := by
  unfold count setCount
  rw [Table.get?_put]
  split <;> rfl

theorem count_addItem (index : Int) : (t.addItem g index).count group = t.count group := by
  unfold addItem
  split <;> rfl

theorem report_resetAll :
    (t.report .resetAll).count group = 0 ∧ (t.report .resetAll).places group = [] := by
  constructor
  · show ((((t.reset .story).reset .subtopic).reset .exploration).reset .skill).count group = 0
    simp only [count_reset]
    cases group <;> rfl
  · show ((((t.reset .story).reset .subtopic).reset .exploration).reset .skill).places group = []
    simp only [places_reset]
    cases group <;> rfl

/-! ### What is shown -/

/-- **What is shown is what is known**: the task of a group has the count as its total, and as many
structures are completed as are there. -/
def IsShown (t : Tracker) : Prop :=
  ∀ group, (t.tasks.get? group = none → t.places group = []) ∧
    ∀ task, t.tasks.get? group = some task →
      task.total = t.count group ∧ task.completed = t.downloaded group

theorem IsShown.of_eq (h : t.IsShown) (htasks : t'.tasks.get? group = t.tasks.get? group)
    (hcount : t'.count group = t.count group) (hplaces : t'.places group = t.places group) :
    (t'.tasks.get? group = none → t'.places group = []) ∧
      ∀ task, t'.tasks.get? group = some task →
        task.total = t'.count group ∧ task.completed = t'.downloaded group := by
  unfold downloaded
  rw [htasks, hcount, hplaces]
  exact h group

theorem IsShown.task (h : t.IsShown) (group : Group) :
    (t.task group).total = t.count group ∧ (t.task group).completed = t.downloaded group := by
  unfold Tracker.task
  cases htask : t.tasks.get? group with
  | none =>
    -- a new task has completed nothing, and nothing is there
    have hplaces := (h group).1 htask
    exact ⟨rfl, by simp [downloaded, hplaces]⟩
  | some task => exact (h group).2 task htask

theorem IsShown.reset (h : t.IsShown) (g : Group) : (t.reset g).IsShown := by
  intro group
  by_cases hg : g = group
  · subst hg
    have hplaces : (t.reset g).places g = [] := by rw [places_reset, if_pos rfl]
    refine ⟨fun _ => hplaces, fun task htask => ?_⟩
    unfold downloaded
    rw [hplaces, count_reset, if_pos rfl]
    cases hold : t.tasks.get? g with
    | none =>
      simp only [Tracker.reset, hold] at htask
      cases htask
    | some old =>
      simp only [Tracker.reset, hold, Table.get?_put_self] at htask
      obtain rfl := Option.some.inj htask
      exact ⟨rfl, rfl⟩
  · refine h.of_eq ?_ (by rw [count_reset, if_neg hg]) (by rw [places_reset, if_neg hg])
    cases hold : t.tasks.get? g with
    | none => simp only [Tracker.reset, hold]
    | some old => simp only [Tracker.reset, hold, Table.get?_put_of_ne hg]

theorem IsShown.setCount (h : t.IsShown) (g : Group) (n : Int) : (t.setCount g n).IsShown := by
  intro group
  by_cases hg : g = group
  · subst hg
    have htask : (t.setCount g n).tasks.get? g =
        some { Tracker.task { t with counts := t.counts.put g n } g with total := n } :=
      Table.get?_put_self ..
    refine ⟨fun hnone => ?_, fun task hsome => ?_⟩
    · rw [htask] at hnone
      cases hnone
    · rw [htask] at hsome
      obtain rfl := Option.some.inj hsome
      -- a new count does not change how many structures are there
      have hcompleted : (Tracker.task { t with counts := t.counts.put g n } g).completed =
          (t.task g).completed := by
        unfold Tracker.task
        cases t.tasks.get? g <;> rfl
      rw [count_setCount, if_pos rfl]
      exact ⟨rfl, hcompleted.trans (h.task g).2⟩
  · exact h.of_eq (Table.get?_put_of_ne hg ..) (by rw [count_setCount, if_neg hg]) rfl

theorem IsShown.addItem (h : t.IsShown) (g : Group) (index : Int) :
    (t.addItem g index).IsShown := by
  intro group
  unfold Tracker.addItem
  split
  · exact h group
  · by_cases hg : g = group
    · subst hg
      have hplaces : ∀ places tasks,
          ({ t with seen := t.seen.put g places, tasks } : Tracker).places g = places :=
        fun places _ => congrArg (Option.getD · []) (Table.get?_put_self ..)
      refine ⟨fun hnone => ?_, fun task hsome => ?_⟩
      · rw [Table.get?_put_self] at hnone
        cases hnone
      · rw [Table.get?_put_self] at hsome
        obtain rfl := Option.some.inj hsome
        exact ⟨(h.task g).1, congrArg List.length (hplaces _ _).symm⟩
    · refine h.of_eq (Table.get?_put_of_ne hg ..) rfl ?_
      exact congrArg (Option.getD · []) (Table.get?_put_of_ne hg ..)

/-- **What is shown is what is known**, whatever is reported. -/
theorem isShown_of (events : List Event) : (of events).IsShown := by
  induction events using List.reverseRecOn with
  | nil => exact fun group => ⟨fun _ => rfl, fun task htask => by cases htask⟩
  | append_singleton events e ih =>
    rw [of_concat]
    cases e with
    | count g n => exact ih.setCount g n
    | item g index => exact ih.addItem g index
    | reset g => exact ih.reset g
    | resetAll => exact (((ih.reset .story).reset .subtopic).reset .exploration).reset .skill

/-! ### Reports that are taken as they are -/

/-- **A report can be taken as it is.** -/
def Admits (t : Tracker) : Event → Prop
  | .item group index => 0 ≤ index ∧ index < t.count group ∧ index ∉ t.places group
  | .count group n => 0 ≤ n ∧ t.places group = []
  | .reset _ | .resetAll => True

/-- A structure with a new place below the count is there from then on. -/
theorem places_report_item {index : Int} (h : t.Admits (.item g index)) :
    (t.report (.item g index)).places group =
      t.places group ++ (Event.place? group (.item g index)).toList := by
  obtain ⟨-, hlt, hnew⟩ := h
  have hcond : (decide (t.count g ≤ index) || (t.places g).contains index) = false := by
    simp [hlt, hnew]
  show (t.addItem g index).places group = _
  unfold addItem
  rw [if_neg (by rw [hcond]; exact Bool.false_ne_true)]
  unfold Event.place?
  by_cases hg : g = group
  · subst hg
    simp [places, Table.get?_put_self]
  · simp [places, Table.get?_put_of_ne hg, hg]

theorem count_report (e : Event) : (t.report e).count group =
    if e.restarts group then 0 else (e.count? group).getD (t.count group) := by
  cases e with
  | count g n =>
    show (t.setCount g n).count group = _
    rw [count_setCount]
    by_cases hg : g = group <;> simp [Event.restarts, Event.count?, hg]
  | item g index => exact count_addItem index
  | reset g =>
    show (t.reset g).count group = _
    rw [count_reset]
    simp [Event.restarts, Event.count?]
  | resetAll => exact report_resetAll.1

theorem places_report {e : Event} (h : t.Admits e) : (t.report e).places group =
    if e.restarts group then [] else t.places group ++ (e.place? group).toList := by
  cases e with
  | count g n => exact (List.append_nil _).symm
  | item g index => exact places_report_item h
  | reset g =>
    show (t.reset g).places group = _
    rw [places_reset]
    simp [Event.restarts, Event.place?]
  | resetAll => exact report_resetAll.2

end Tracker

open Tracker

/-- **Steady reports**: each can be taken as it is after those before it. -/
def Steady (events : List Event) : Prop :=
  ∀ before e, before ++ [e] <+: events → (of before).Admits e

section Steadiness

variable {group : Group} {events before : List Event} {e : Event}

theorem steady_nil : Steady [] := by
  intro before e hinitial
  exact absurd (List.prefix_nil.mp hinitial) (List.concat_ne_nil e before)

theorem steady_concat : Steady (events ++ [e]) ↔ Steady events ∧ (of events).Admits e := by
  constructor
  · intro h
    exact ⟨fun before e' hinitial => h before e' (hinitial.trans (List.prefix_append _ _)),
      h events e (List.prefix_refl _)⟩
  · rintro ⟨hsteady, hlast⟩ before e' hinitial
    rcases List.prefix_concat_iff.mp hinitial with heq | hinitial
    · obtain ⟨rfl, hsame⟩ := List.append_inj' heq rfl
      obtain rfl := List.singleton_inj.mp hsame
      exact hlast
    · exact hsteady before e' hinitial

theorem Steady.of_initial (h : Steady events) (hinitial : before <+: events) : Steady before :=
  fun _ _ hinitial' => h _ _ (hinitial'.trans hinitial)

/-- **After steady reports a tracker knows what was reported.** -/
theorem Steady.followed (h : Steady events) (group : Group) :
    (of events).count group = latestCount group events ∧
      (of events).places group = reportedPlaces group events := by
  induction events using List.reverseRecOn with
  | nil => exact ⟨rfl, rfl⟩
  | append_singleton events e ih =>
    obtain ⟨hsteady, hlast⟩ := steady_concat.mp h
    obtain ⟨hcount, hplaces⟩ := ih hsteady
    rw [of_concat, count_report, places_report hlast, latestCount_concat, reportedPlaces_concat,
      hcount, hplaces]
    exact ⟨rfl, rfl⟩

/-- The structures that are there have different places below the count. -/
theorem Steady.distinct (h : Steady events) (group : Group) :
    ((of events).places group).Nodup ∧
      ∀ index ∈ (of events).places group, 0 ≤ index ∧ index < (of events).count group := by
  induction events using List.reverseRecOn with
  | nil => exact ⟨List.nodup_nil, fun _ hindex => absurd hindex List.not_mem_nil⟩
  | append_singleton events e ih =>
    obtain ⟨hsteady, hlast⟩ := steady_concat.mp h
    obtain ⟨hnodup, hbelow⟩ := ih hsteady
    rw [of_concat, count_report, places_report hlast]
    by_cases hrestarts : e.restarts group = true
    · rw [if_pos hrestarts, if_pos hrestarts]
      exact ⟨List.nodup_nil, fun _ hindex => absurd hindex List.not_mem_nil⟩
    · rw [if_neg hrestarts, if_neg hrestarts]
      cases e with
      | count g n =>
        simp only [Event.place?, Option.toList_none, List.append_nil]
        refine ⟨hnodup, fun index hindex => ?_⟩
        by_cases hg : g = group
        · -- nothing is there while a count is reported
          rw [← hg, hlast.2] at hindex
          cases hindex
        · simp only [Event.count?, if_neg hg, Option.getD_none]
          exact hbelow index hindex
      | item g index =>
        simp only [Event.count?, Event.place?, Option.getD_none]
        by_cases hg : g = group
        · obtain ⟨hzero, hlt, hnew⟩ := hg ▸ hlast
          rw [if_pos hg, Option.toList_some]
          refine ⟨List.nodup_append.mpr ⟨hnodup, List.nodup_singleton _, ?_⟩,
            fun other hother => ?_⟩
          · intro i hi j hj heq
            exact hnew (List.mem_singleton.mp hj ▸ heq ▸ hi)
          · rcases List.mem_append.mp hother with hmem | hmem
            · exact hbelow other hmem
            · obtain rfl := List.mem_singleton.mp hmem
              exact ⟨hzero, hlt⟩
        · rw [if_neg hg, Option.toList_none, List.append_nil]
          exact ⟨hnodup, hbelow⟩
      | reset g =>
        simp only [Event.place?, Option.toList_none, List.append_nil]
        exact ⟨hnodup, hbelow⟩
      | resetAll => exact absurd rfl hrestarts

/-- There are no more different places below a number than that number. -/
theorem length_le_of_below {places : List Int} {n : Int} (hnodup : places.Nodup)
    (hbelow : ∀ index ∈ places, 0 ≤ index ∧ index < n) : (places.length : Int) ≤ max 0 n := by
  -- as natural numbers, the places are a part of the range below the number
  have hsubset : places.map Int.toNat ⊆ List.range n.toNat := by
    intro i hi
    obtain ⟨index, hindex, rfl⟩ := List.mem_map.mp hi
    have hlt := hbelow index hindex
    exact List.mem_range.mpr (by omega)
  have hnodup' : (places.map Int.toNat).Nodup := by
    refine List.Nodup.map_on (fun i hi j hj heq => ?_) hnodup
    have hi' := hbelow i hi
    have hj' := hbelow j hj
    omega
  have hle := (List.subperm_of_subset hnodup' hsubset).length_le
  rw [List.length_map, List.length_range] at hle
  omega

theorem Steady.bounded (h : Steady events) (group : Group) :
    ((of events).downloaded group : Int) ≤ max 0 ((of events).count group) :=
  length_le_of_below (h.distinct group).1 (h.distinct group).2

theorem Steady.count_nonneg (h : Steady events) (group : Group) : 0 ≤ (of events).count group := by
  induction events using List.reverseRecOn with
  | nil => exact Int.le_refl 0
  | append_singleton events e ih =>
    obtain ⟨hsteady, hlast⟩ := steady_concat.mp h
    have hcount := ih hsteady
    rw [of_concat, count_report]
    split
    · exact Int.le_refl 0
    · cases e with
      | count g n =>
        simp only [Event.count?]
        split
        · exact hlast.1
        · exact hcount
      | _ => exact hcount

end Steadiness

/-- **Progress is exact**: at any time what is known of a group is what was reported since it last
started again. -/
structure IsExact (events : List Event) : Prop where
  /-- A structure that is there has a place below the latest count, and no place is there twice. -/
  admitted : ∀ before group index, before ++ [.item group index] <+: events →
    0 ≤ index ∧ index < latestCount group before ∧ index ∉ reportedPlaces group before
  /-- No report is ignored. -/
  followed : ∀ before, before <+: events → ∀ group,
    (of before).count group = latestCount group before ∧
      (of before).places group = reportedPlaces group before
  /-- There are never more structures than the count says. -/
  bounded : ∀ before, before <+: events → ∀ group,
    ((of before).downloaded group : Int) ≤ (of before).count group
  /-- What is known is shown. -/
  shown : ∀ before, before <+: events → (of before).IsShown

theorem Steady.isExact {events : List Event} (h : Steady events) : IsExact events where
  admitted before group index hinitial := by
    have hbefore : Steady before := h.of_initial ((List.prefix_append _ _).trans hinitial)
    obtain ⟨hcount, hplaces⟩ := hbefore.followed group
    obtain ⟨hzero, hlt, hnew⟩ := h before _ hinitial
    exact ⟨hzero, hcount ▸ hlt, hplaces ▸ hnew⟩
  followed before hinitial := (h.of_initial hinitial).followed
  bounded before hinitial group := by
    have hbounded := (h.of_initial hinitial).bounded group
    have hcount := (h.of_initial hinitial).count_nonneg group
    omega
  shown before _ := isShown_of before

/-! ### Structures that are there in any order -/

/-- **A group is complete**: all of a number of structures are there. -/
def Tracker.IsComplete (t : Tracker) (group : Group) (n : Nat) : Prop :=
  t.count group = n ∧ t.downloaded group = n

/-- **Nothing else has changed**: apart from some groups, as much is known as before. -/
def Tracker.Spares (groups : List Group) (t t' : Tracker) : Prop :=
  ∀ group ∉ groups, t'.count group = t.count group ∧ t'.places group = t.places group

/-- The reports on all structures of a group. -/
def itemsOf (group : Group) (n : Nat) : List Event :=
  (List.range n).map fun index : Nat => .item group index

/-- The reports on all structures of groups with their sizes. -/
def itemsOfAll (sizes : List (Group × Nat)) : List Event :=
  sizes.flatMap fun (group, n) => itemsOf group n

section Items

variable {events reported : List Event} {group : Group} {n : Nat} {sizes : List (Group × Nat)}

theorem mem_itemsOf {e : Event} : e ∈ itemsOf group n ↔ ∃ index < n, e = .item group index := by
  unfold itemsOf
  simp only [List.mem_map, List.mem_range, eq_comm]

theorem nodup_itemsOf (group : Group) (n : Nat) : (itemsOf group n).Nodup := by
  refine List.Nodup.map ?_ List.nodup_range
  intro i j heq
  exact Int.ofNat_inj.mp (Event.item.inj heq).2

theorem mem_itemsOfAll {e : Event} :
    e ∈ itemsOfAll sizes ↔ ∃ size ∈ sizes, ∃ index < size.2, e = .item size.1 index := by
  unfold itemsOfAll
  simp only [List.mem_flatMap, mem_itemsOf]

theorem nodup_itemsOfAll (hgroups : (sizes.map (·.1)).Nodup) : (itemsOfAll sizes).Nodup := by
  refine List.nodup_flatMap.mpr ⟨fun size _ => nodup_itemsOf size.1 size.2, ?_⟩
  refine (List.pairwise_map.mp hgroups).imp ?_
  intro size size' hne e he he'
  obtain ⟨i, -, rfl⟩ := mem_itemsOf.mp he
  obtain ⟨j, -, heq⟩ := mem_itemsOf.mp he'
  exact hne (Event.item.inj heq).1

theorem filterMap_place?_itemsOf (group : Group) (n : Nat) :
    (itemsOf group n).filterMap (Event.place? group) =
      (List.range n).map fun index : Nat => (index : Int) := by
  unfold itemsOf
  rw [List.filterMap_map, ← List.filterMap_eq_map]
  refine List.filterMap_congr fun index _ => ?_
  simp [Event.place?]

theorem filterMap_place?_eq_nil (h : ∀ e ∈ events, ∀ index, e ≠ .item group index) :
    events.filterMap (Event.place? group) = [] := by
  refine List.filterMap_eq_nil_iff.mpr fun e he => ?_
  cases e with
  | item g index =>
    refine if_neg fun heq => ?_
    exact h _ he index (by rw [heq])
  | _ => rfl

theorem places_itemsOfAll (hgroups : (sizes.map (·.1)).Nodup) {size : Group × Nat}
    (hsize : size ∈ sizes) :
    (itemsOfAll sizes).filterMap (Event.place? size.1) =
      (List.range size.2).map fun index : Nat => (index : Int) := by
  induction sizes with
  | nil => cases hsize
  | cons first sizes ih =>
    obtain ⟨hfirst, hgroups'⟩ := List.nodup_cons.mp hgroups
    unfold itemsOfAll
    rw [List.flatMap_cons, List.filterMap_append]
    -- either the first group is meant, or one of the others; the rest reports on other groups
    rcases List.mem_cons.mp hsize with rfl | hmem
    · rw [filterMap_place?_itemsOf]
      refine (congrArg _ (filterMap_place?_eq_nil fun e he i heq => ?_)).trans (List.append_nil _)
      obtain ⟨other, hother, j, -, hitem⟩ := mem_itemsOfAll.mp he
      rw [hitem] at heq
      exact hfirst (List.mem_map.mpr ⟨other, hother, (Event.item.inj heq).1⟩)
    · rw [filterMap_place?_eq_nil fun e he i heq => ?_, List.nil_append]
      · exact ih hgroups' hmem
      · obtain ⟨j, -, hitem⟩ := mem_itemsOf.mp he
        rw [hitem] at heq
        exact hfirst (List.mem_map.mpr ⟨size, hmem, (Event.item.inj heq).1.symm⟩)

/-- **Structures that are there in any order, each once**, keep reports steady. -/
theorem Steady.append_items (h : Steady events) (hnodup : reported.Nodup)
    (hitems : ∀ e ∈ reported, (∃ g i, e = .item g i) ∧ (of events).Admits e) :
    Steady (events ++ reported) ∧ ∀ group,
      (of (events ++ reported)).count group = (of events).count group ∧
        (of (events ++ reported)).places group =
          (of events).places group ++ reported.filterMap (Event.place? group) := by
  induction reported using List.reverseRecOn with
  | nil =>
    rw [List.append_nil]
    exact ⟨h, fun group => ⟨rfl, (List.append_nil _).symm⟩⟩
  | append_singleton front e ih =>
    obtain ⟨hfront, -, hne⟩ := List.nodup_append.mp hnodup
    have hnew : e ∉ front := fun hmem => hne e hmem e List.mem_cons_self rfl
    obtain ⟨hsteady, hknown⟩ := ih hfront fun e' he' => hitems e' (List.mem_append_left _ he')
    obtain ⟨⟨g, i, rfl⟩, hzero, hlt, hunseen⟩ :=
      hitems e (List.mem_append_right _ List.mem_cons_self)
    -- the place is still new, because it is not among those that were reported in between
    have hadmits : (of (events ++ front)).Admits (.item g i) := by
      refine ⟨hzero, (hknown g).1.symm ▸ hlt, ?_⟩
      rw [(hknown g).2, List.mem_append]
      rintro (hmem | hmem)
      · exact hunseen hmem
      · obtain ⟨e', he', hplace⟩ := List.mem_filterMap.mp hmem
        obtain ⟨⟨g', i', rfl⟩, -⟩ := hitems e' (List.mem_append_left _ he')
        simp only [Event.place?] at hplace
        split at hplace
        · rename_i hg
          rw [hg, Option.some.inj hplace] at he'
          exact hnew he'
        · cases hplace
    rw [← List.append_assoc]
    refine ⟨steady_concat.mpr ⟨hsteady, hadmits⟩, fun group => ?_⟩
    rw [of_concat, count_report, places_report hadmits, (hknown group).1, (hknown group).2,
      List.filterMap_append, List.append_assoc]
    have hlast : [Event.item g i].filterMap (Event.place? group) =
        (Event.place? group (.item g i)).toList := by
      cases hplace : Event.place? group (.item g i) <;> simp [hplace]
    exact ⟨rfl, by rw [hlast]; rfl⟩

/-- **Groups are completed** by reports on all of their structures, in any order. -/
theorem Steady.items (h : Steady events) (hgroups : (sizes.map (·.1)).Nodup)
    (hsizes : ∀ size ∈ sizes,
      (of events).count size.1 = size.2 ∧ (of events).places size.1 = [])
    (hreported : reported.Subperm (itemsOfAll sizes)) :
    Steady (events ++ reported) ∧
      (of events).Spares (sizes.map (·.1)) (of (events ++ reported)) ∧
      (reported.Perm (itemsOfAll sizes) → ∀ size ∈ sizes,
        (of (events ++ reported)).IsComplete size.1 size.2) := by
  have hnodup : reported.Nodup := by
    obtain ⟨_, hperm, hsub⟩ := hreported
    exact hperm.nodup_iff.mp ((nodup_itemsOfAll hgroups).sublist hsub)
  have hitems : ∀ e ∈ reported, ∃ size ∈ sizes, ∃ index < size.2, e = .item size.1 index :=
    fun e he => mem_itemsOfAll.mp (hreported.subset he)
  obtain ⟨hsteady, hknown⟩ := h.append_items hnodup fun e he => by
    obtain ⟨size, hsize, index, hlt, rfl⟩ := hitems e he
    obtain ⟨hcount, hplaces⟩ := hsizes size hsize
    refine ⟨⟨_, _, rfl⟩, by omega, by rw [hcount]; omega, ?_⟩
    rw [hplaces]
    exact List.not_mem_nil
  refine ⟨hsteady, fun group hgroup => ⟨(hknown group).1, ?_⟩, fun hperm size hsize => ?_⟩
  · rw [(hknown group).2]
    refine (congrArg _ (filterMap_place?_eq_nil fun e he i heq => ?_)).trans (List.append_nil _)
    obtain ⟨size, hsize, index, -, rfl⟩ := hitems e he
    exact hgroup (List.mem_map.mpr ⟨size, hsize, (Event.item.inj heq).1⟩)
  · obtain ⟨hcount, hplaces⟩ := hsizes size hsize
    refine ⟨(hknown size.1).1.trans hcount, ?_⟩
    -- in any order there are as many places as in the reports on all structures
    have hlength := (hperm.filterMap (Event.place? size.1)).length_eq
    rw [places_itemsOfAll hgroups hsize, List.length_map, List.length_range] at hlength
    unfold downloaded
    rw [(hknown size.1).2, hplaces, List.nil_append, hlength]

end Items

end ContentPack
