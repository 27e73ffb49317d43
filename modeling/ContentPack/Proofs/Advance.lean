import ContentPack.Proofs.Errands
import ContentPack.Proofs.Events
import ContentPack.Proofs.Reports
import ContentPack.Proofs.Tracker

/-!
# How searches for groups bring a run forward

The structures of a group are looked for after their number was reported, and each of them is
reported when its search ends. `Session.Advances` says what this does to a session: reports that
were steady stay steady, other groups are spared, no attempt is counted, and not all groups start
again. If all structures of a group get outcomes, the group is complete.

Pages and stories are looked for together (`ensures_loadPagesAndStories_advances`), then come
explorations (`ensures_loadExplorations_advances`), and skills in rounds, before each of which the
group of skills starts again (`ensures_grow_advances`).
-/

namespace ContentPack

open Work Tracker

variable {α β γ σ : Type}

/-- A round of a closure of skills begins with this report. -/
def Event.isRound : Event → Bool
  | .count .skill _ => true
  | _ => false

/-- **What a part of an attempt does to a session**, if it reports on some groups and takes at most
a number of rounds of a closure of skills. -/
structure Session.Advances (groups : List Group) (rounds : Nat) (s t : Session α σ) : Prop where
  /-- No attempt is counted. -/
  attempts : t.attempts = s.attempts
  /-- The cache is changed. -/
  changes : s.cache.Changes t.cache
  /-- Not all groups start again, and only so many rounds begin. -/
  reports : ∃ reported, t.events = s.events ++ reported ∧ .resetAll ∉ reported ∧
    reported.countP Event.isRound ≤ rounds
  /-- The reports are steady. -/
  steady : Steady t.events
  /-- Other groups are spared. -/
  spares : (of s.events).Spares groups (of t.events)

namespace Session.Advances

variable {groups groups' : List Group} {rounds rounds' : Nat} {s t u : Session α σ}

theorem refl (hsteady : Steady s.events) (groups : List Group) (rounds : Nat) :
    s.Advances groups rounds s where
  attempts := rfl
  changes := .refl
  reports := ⟨[], (List.append_nil _).symm, List.not_mem_nil, Nat.zero_le _⟩
  steady := hsteady
  spares _ _ := ⟨rfl, rfl⟩

theorem trans (h : s.Advances groups rounds t) (h' : t.Advances groups' rounds' u) :
    s.Advances (groups ++ groups') (rounds + rounds') u where
  attempts := h'.attempts.trans h.attempts
  changes := h.changes.trans h'.changes
  reports := by
    obtain ⟨reported, hevents, hreset, hrounds⟩ := h.reports
    obtain ⟨reported', hevents', hreset', hrounds'⟩ := h'.reports
    refine ⟨reported ++ reported', ?_, ?_, ?_⟩
    · rw [hevents', hevents, List.append_assoc]
    · rw [List.mem_append, not_or]
      exact ⟨hreset, hreset'⟩
    · rw [List.countP_append]
      exact Nat.add_le_add hrounds hrounds'
  steady := h'.steady
  spares group hgroup := by
    rw [List.mem_append, not_or] at hgroup
    obtain ⟨hcount, hplaces⟩ := h.spares group hgroup.1
    obtain ⟨hcount', hplaces'⟩ := h'.spares group hgroup.2
    exact ⟨hcount'.trans hcount, hplaces'.trans hplaces⟩

theorem mono (h : s.Advances groups rounds t) (hgroups : groups ⊆ groups')
    (hrounds : rounds ≤ rounds') : s.Advances groups' rounds' t :=
  { h with
    reports := by
      obtain ⟨reported, hevents, hreset, hle⟩ := h.reports
      exact ⟨reported, hevents, hreset, Nat.le_trans hle hrounds⟩
    spares := fun group hgroup => h.spares group fun hmem => hgroup (hgroups hmem) }

/-- A group that is spared is as complete as before. -/
theorem isComplete (h : s.Advances groups rounds t) {group : Group} {n : Nat}
    (hcomplete : (of s.events).IsComplete group n) (hgroup : group ∉ groups) :
    (of t.events).IsComplete group n := by
  obtain ⟨hcount, hplaces⟩ := h.spares group hgroup
  refine ⟨hcount.trans hcomplete.1, ?_⟩
  unfold downloaded
  rw [hplaces]
  exact hcomplete.2

theorem places_eq_nil (h : s.Advances groups rounds t) {group : Group}
    (hnil : (of s.events).places group = []) (hgroup : group ∉ groups) :
    (of t.events).places group = [] :=
  (h.spares group hgroup).2.trans hnil

/-- When one group starts again, the others are spared, and nothing of it is there. -/
theorem reset (hsteady : Steady s.events) (group : Group) :
    s.Advances [group] 0 { s with events := s.events ++ [.reset group] } ∧
      (of (s.events ++ [.reset group])).places group = [] := by
  refine ⟨⟨rfl, .refl, ⟨[.reset group], rfl, by simp, Nat.le_refl 0⟩,
    steady_concat.mpr ⟨hsteady, trivial⟩, fun other hother => ?_⟩, ?_⟩
  · have hne : group ≠ other := fun heq => hother (List.mem_singleton.mpr heq.symm)
    rw [of_concat]
    exact ⟨count_reset.trans (if_neg hne), places_reset.trans (if_neg hne)⟩
  · rw [of_concat]
    exact places_reset.trans (if_pos rfl)

end Session.Advances

open Session

/-! ### One search for some groups -/

/-- The reports on the numbers of structures of groups. -/
def countsOf (sizes : List (Group × Nat)) : List Event :=
  sizes.map fun (group, n) => .count group n

theorem Steady.counts {events : List Event} (h : Steady events) {sizes : List (Group × Nat)}
    (hgroups : (sizes.map (·.1)).Nodup)
    (hfresh : ∀ size ∈ sizes, (of events).places size.1 = []) :
    Steady (events ++ countsOf sizes) ∧
      (∀ size ∈ sizes, (of (events ++ countsOf sizes)).count size.1 = size.2) ∧
      (∀ group, (of (events ++ countsOf sizes)).places group = (of events).places group) ∧
      (of events).Spares (sizes.map (·.1)) (of (events ++ countsOf sizes)) := by
  induction sizes using List.reverseRecOn with
  | nil =>
    rw [countsOf, List.map_nil, List.append_nil]
    exact ⟨h, fun _ hsize => absurd hsize List.not_mem_nil, fun _ => rfl, fun _ _ => ⟨rfl, rfl⟩⟩
  | append_singleton sizes last ih =>
    rw [List.map_append, List.nodup_append] at hgroups
    obtain ⟨hgroups', -, hne⟩ := hgroups
    obtain ⟨hsteady, hcounts, hplaces, hspares⟩ := ih hgroups' fun size hsize =>
      hfresh size (List.mem_append_left _ hsize)
    have hlast : (of (events ++ countsOf sizes)).places last.1 = [] :=
      (hplaces last.1).trans (hfresh last (List.mem_append_right _ List.mem_cons_self))
    have hadmits : (of (events ++ countsOf sizes)).Admits (.count last.1 last.2) :=
      ⟨Int.natCast_nonneg _, hlast⟩
    have hevents : events ++ countsOf (sizes ++ [last]) =
        events ++ countsOf sizes ++ [.count last.1 last.2] := by
      unfold countsOf
      rw [List.map_append, List.append_assoc]
      rfl
    rw [hevents, of_concat]
    refine ⟨steady_concat.mpr ⟨hsteady, hadmits⟩, ?_, hplaces, ?_⟩
    · intro size hsize
      show ((of (events ++ countsOf sizes)).setCount last.1 last.2).count size.1 = _
      rw [count_setCount]
      rcases List.mem_append.mp hsize with hmem | hmem
      · rw [if_neg fun heq => hne _ (List.mem_map.mpr ⟨size, hmem, rfl⟩) _ (by simp) heq.symm]
        exact hcounts size hmem
      · obtain rfl := List.mem_singleton.mp hmem
        rw [if_pos rfl]
    · intro group hgroup
      rw [List.map_append, List.mem_append, not_or] at hgroup
      refine ⟨?_, hplaces group⟩
      show ((of (events ++ countsOf sizes)).setCount last.1 last.2).count group = _
      rw [count_setCount, if_neg fun heq => hgroup.2 (List.mem_singleton.mpr heq.symm)]
      exact (hspares group hgroup.1).1

section Searches

variable {r : Resolver α σ} {s : Session α σ}
  (hdecided : ∀ subtopic l, r.judge subtopic l ≠ .pending)

include hdecided

/-- **Searches for groups**, after their numbers of structures were reported, complete them if all
structures get outcomes. -/
theorem ensures_resolveAll_advances (limit : Option Nat) (errands : List Errand) (joins : Nat)
    (sizes : List (Group × Nat)) (hgroups : (sizes.map (·.1)).Nodup)
    (hevents : errands.filterMap (·.event) = itemsOfAll sizes) (hsteady : Steady s.events)
    (hfresh : ∀ size ∈ sizes, (of s.events).places size.1 = []) :
    Ensures (r.resolveAll limit errands joins) { s with events := s.events ++ countsOf sizes }
      (fun outcomes t => outcomes.length = errands.length ∧
        s.Advances (sizes.map (·.1)) ((countsOf sizes).countP Event.isRound) t ∧
        (.pending ∉ outcomes → ∀ size ∈ sizes, (of t.events).IsComplete size.1 size.2))
      (fun _ t => s.Advances (sizes.map (·.1)) ((countsOf sizes).countP Event.isRound) t) := by
  obtain ⟨hsteady', hcounts, hplaces, hspares⟩ := hsteady.counts hgroups hfresh
  have hadvances : ∀ {t : Session α σ} {reported : List Event},
      Resolver.Tells (errands.filterMap (·.event)) { s with events := s.events ++ countsOf sizes } t
        reported →
      s.Advances (sizes.map (·.1)) ((countsOf sizes).countP Event.isRound) t ∧
        (reported.Perm (errands.filterMap (·.event)) →
          ∀ size ∈ sizes, (of t.events).IsComplete size.1 size.2) := by
    intro t reported h
    rw [hevents] at h ⊢
    obtain ⟨hsteady'', hspares', hcomplete⟩ := hsteady'.items hgroups
      (fun size hsize => ⟨hcounts size hsize, (hplaces size.1).trans (hfresh size hsize)⟩) h.subperm
    rw [← h.events] at hsteady'' hspares' hcomplete
    -- what is expected are structures that are there
    have hitem : ∀ e ∈ reported, e ≠ .resetAll ∧ Event.isRound e = false := by
      intro e he
      obtain ⟨size, -, index, -, rfl⟩ := mem_itemsOfAll.mp (h.subperm.subset he)
      exact ⟨Event.noConfusion, rfl⟩
    have hnone : reported.countP Event.isRound = 0 :=
      List.countP_eq_zero.mpr fun e he => by simp [(hitem e he).2]
    refine ⟨⟨h.attempts, h.changes, ⟨countsOf sizes ++ reported, ?_, ?_, ?_⟩, hsteady'', ?_⟩,
      hcomplete⟩
    · rw [h.events, List.append_assoc]
    · rw [List.mem_append, not_or]
      refine ⟨fun hmem => ?_, fun hmem => (hitem _ hmem).1 rfl⟩
      obtain ⟨_, -, heq⟩ := List.mem_map.mp hmem
      cases heq
    · rw [List.countP_append, hnone, Nat.add_zero]
    · intro group hgroup
      obtain ⟨hcount, hplace⟩ := hspares group hgroup
      obtain ⟨hcount', hplace'⟩ := hspares' group hgroup
      exact ⟨hcount'.trans hcount, hplace'.trans hplace⟩
  refine (Resolver.ensures_resolveAll_events hdecided limit errands joins _).mono ?_ ?_
  · rintro outcomes t ⟨hlength, reported, htells, hperm⟩
    obtain ⟨h, hcomplete⟩ := hadvances htells
    exact ⟨hlength, h, fun hpending => hcomplete (hperm hpending)⟩
  · rintro error t ⟨reported, htells⟩
    exact (hadvances htells).1

/-- A search that reports nothing leaves all groups as they are. -/
theorem ensures_resolve_advances (id : StructureId) (subtopic : Option Subtopic)
    (hsteady : Steady s.events) :
    Ensures (r.resolve id subtopic) s (fun _ t => s.Advances [] 0 t)
      (fun _ t => s.Advances [] 0 t) := by
  have hsearch := ensures_resolveAll_advances hdecided none [{ id, subtopic }] 0 []
    List.nodup_nil rfl hsteady fun _ hsize => absurd hsize List.not_mem_nil
  have hsession : { s with events := s.events ++ countsOf [] } = s := by
    rw [countsOf, List.map_nil, List.append_nil]
  rw [hsession] at hsearch
  unfold Resolver.resolve
  rw [ensures_bind]
  exact hsearch.mono (fun _ _ h => h.2.1) (fun _ _ h => h)

end Searches

/-! ### The groups of a pack -/

theorem filterMap_event {errands : List Errand} {events : List Event}
    (h : errands.map (·.event) = events.map some) : errands.filterMap (·.event) = events := by
  have hsome : (errands.map (·.event)).filterMap id = (events.map some).filterMap id :=
    congrArg _ h
  rw [List.filterMap_map, List.filterMap_map] at hsome
  exact hsome.trans List.filterMap_some

theorem Assembler.filterMap_event_errands (group : Group)
    (ids : List (StructureId × Option Subtopic)) :
    (errands group ids).filterMap (·.event) = itemsOf group ids.length := by
  refine filterMap_event ?_
  unfold errands itemsOf
  apply List.ext_getElem
  · simp
  · intro i _ _
    simp

theorem SkillClosure.filterMap_event_errands (ids : List String) :
    (errands ids).filterMap (·.event) = itemsOf .skill ids.length := by
  refine filterMap_event ?_
  unfold errands itemsOf
  apply List.ext_getElem
  · simp
  · intro i _ _
    simp

theorem Outcome.pending_notMem_of_flatten {outcomes : List (Outcome β)} {values : List β}
    (h : flatten outcomes = .success values) : .pending ∉ outcomes := by
  intro hmem
  rw [flatten_eq_pending_iff.mpr hmem] at h
  cases h

theorem Outcome.pending_notMem_of_combineAll {outcomes : List (Outcome β)} {f : List β → γ}
    {value : γ} (h : combineAll outcomes f = .success value) : .pending ∉ outcomes := by
  obtain ⟨values, rfl, -⟩ := exists_of_combineAll_success h
  exact pending_notMem_of_flatten (flatten_eq_success_iff.mpr rfl)

namespace Assembler

variable {a : Assembler σ} {t : Topic} {s : Session Loaded σ}
  (hdecided : ∀ subtopic l, a.resolver.judge subtopic l ≠ .pending)

include hdecided

/-- **Pages and stories** are completed together. -/
theorem ensures_loadPagesAndStories_advances (hsteady : Steady s.events)
    (hpages : (of s.events).places .subtopic = []) (hstories : (of s.events).places .story = []) :
    Ensures (a.loadPagesAndStories t) s
      (fun o rest => s.Advances [.subtopic, .story] 0 rest ∧
        (∀ f f', o = (.success f, .success f') →
          (of rest.events).IsComplete .subtopic t.subtopicTable.length ∧
            (of rest.events).IsComplete .story t.storyIds.length))
      (fun _ rest => s.Advances [.subtopic, .story] 0 rest) := by
  let pages := errands .subtopic (t.subtopicTable.map fun entry =>
    (.subtopic t.id entry.1, some entry.2))
  let stories := errands .story (t.storyIds.map fun id => (.story id, none))
  let sizes := [(Group.subtopic, t.subtopicTable.length), (Group.story, t.storyIds.length)]
  have hevents : (pages ++ stories).filterMap (·.event) = itemsOfAll sizes := by
    rw [List.filterMap_append, filterMap_event_errands, filterMap_event_errands, List.length_map,
      List.length_map]
    simp only [itemsOfAll, sizes, List.flatMap_cons, List.flatMap_nil, List.append_nil]
  have hfresh : ∀ size ∈ sizes, (of s.events).places size.1 = [] := by
    intro size hsize
    simp only [sizes, List.mem_cons, List.not_mem_nil, or_false] at hsize
    rcases hsize with rfl | rfl
    · exact hpages
    · exact hstories
  have hgroups : (sizes.map (·.1)).Nodup := show [Group.subtopic, Group.story].Nodup by decide
  have hsearch := ensures_resolveAll_advances hdecided a.limit (pages ++ stories) 2 sizes hgroups
    hevents hsteady hfresh
  unfold loadPagesAndStories
  rw [ensures_bind, ensures_report, ensures_bind, ensures_report, ensures_bind]
  simp only [List.append_assoc]
  refine hsearch.mono ?_ (fun _ _ h => h)
  rintro outcomes rest ⟨-, hadvances, hcomplete⟩
  refine ⟨hadvances, ?_⟩
  intro f f' heq
  obtain ⟨hpart, hpart'⟩ := Prod.mk.inj heq
  have hpending : .pending ∉ outcomes := by
    rw [← List.take_append_drop pages.length outcomes, List.mem_append, not_or]
    exact ⟨Outcome.pending_notMem_of_combineAll hpart, Outcome.pending_notMem_of_combineAll hpart'⟩
  have hall := hcomplete hpending
  exact ⟨hall (.subtopic, _) List.mem_cons_self,
    hall (.story, _) (List.mem_cons_of_mem _ List.mem_cons_self)⟩

theorem ensures_loadExplorations_advances (hsteady : Steady s.events)
    (hfresh : (of s.events).places .exploration = []) (stories : Fragment) :
    Ensures (a.loadExplorations stories) s
      (fun o rest => s.Advances [.exploration] 0 rest ∧
        ∀ f, o = .success f →
          (of rest.events).IsComplete .exploration (explorationIds stories).length)
      (fun _ rest => s.Advances [.exploration] 0 rest) := by
  let ids : List (StructureId × Option Subtopic) :=
    (explorationIds stories).map fun id => (.exploration id, none)
  let sizes := [(Group.exploration, (explorationIds stories).length)]
  have hevents : (errands .exploration ids).filterMap (·.event) = itemsOfAll sizes := by
    rw [filterMap_event_errands, List.length_map]
    exact (List.append_nil _).symm
  have hsearch := ensures_resolveAll_advances hdecided a.limit (errands .exploration ids) 1 sizes
    (List.nodup_singleton _) hevents hsteady fun size hsize => List.mem_singleton.mp hsize ▸ hfresh
  unfold loadExplorations
  rw [ensures_bind, ensures_report, ensures_bind]
  refine hsearch.mono ?_ (fun _ _ h => h)
  rintro outcomes rest ⟨-, hadvances, hcomplete⟩
  exact ⟨hadvances, fun f hf => hcomplete (Outcome.pending_notMem_of_combineAll hf) _
    List.mem_cons_self⟩

end Assembler

/-- **Rounds of a closure of skills** begin at most as often as there are rounds left. If they end
well, the skills of the last one are complete. -/
theorem SkillClosure.ensures_grow_advances {r : Resolver Loaded σ}
    (hdecided : ∀ subtopic l, r.judge subtopic l ≠ .pending) (limit : Option Nat)
    (rounds left : Nat) :
    ∀ {current : List String} {s : Session Loaded σ}, Steady s.events →
      (of s.events).places .skill = [] →
      Ensures (grow r limit rounds left current) s
        (fun o rest => s.Advances [.skill] left rest ∧
          ∀ skills, o = .success skills → (of rest.events).IsComplete .skill skills.length)
        (fun _ rest => s.Advances [.skill] left rest) := by
  induction left with
  | zero => exact fun hsteady _ => .refl hsteady _ _
  | succ left ih =>
    intro current s hsteady hfresh
    let sizes := [(Group.skill, current.length)]
    have hevents : (errands current).filterMap (·.event) = itemsOfAll sizes := by
      rw [filterMap_event_errands]
      exact (List.append_nil _).symm
    have hsearch := ensures_resolveAll_advances hdecided limit (errands current) 1 sizes
      (List.nodup_singleton _) hevents hsteady fun size hsize =>
        List.mem_singleton.mp hsize ▸ hfresh
    unfold grow round
    rw [ensures_bind, ensures_bind, ensures_report, ensures_bind]
    refine hsearch.mono ?_ (fun _ _ h => h.mono (List.Subset.refl _) (by simp [sizes, countsOf,
      Event.isRound]))
    rintro outcomes s₁ ⟨hlength, hadvances, hcomplete⟩
    rw [ensures_pure]
    have hround : s.Advances [.skill] 1 s₁ := hadvances
    cases hflatten : Outcome.flatten outcomes with
    | success skills =>
      obtain rfl := Outcome.flatten_eq_success_iff.mp hflatten
      have hsame : skills.length = current.length := by
        rw [List.length_map] at hlength
        rw [hlength, ← List.length_map (·.id), map_id_errands, List.length_map]
      simp only
      split
      · refine ⟨hround.mono (List.Subset.refl _) (by omega), ?_⟩
        rintro _ heq
        obtain rfl := Outcome.success.inj heq
        rw [hsame]
        exact hcomplete (Outcome.pending_notMem_of_flatten hflatten) _ List.mem_cons_self
      · -- the group of skills starts again, and the next round begins
        obtain ⟨hreset, hnil⟩ := Session.Advances.reset hround.steady .skill
        have hsum : 1 + 0 + left ≤ left + 1 := by omega
        have hjoin : ∀ {rest : Session Loaded σ},
            ({ s₁ with events := s₁.events ++ [.reset .skill] } : Session Loaded σ).Advances
              [.skill] left rest → s.Advances [.skill] (left + 1) rest :=
          fun h => ((hround.trans hreset).trans h).mono (by simp) hsum
        rw [ensures_bind, ensures_report]
        refine (ih hreset.steady hnil).mono ?_ (fun _ _ => hjoin)
        rintro o rest ⟨h, hskills⟩
        exact ⟨hjoin h, hskills⟩
    | pending => exact ⟨hround.mono (List.Subset.refl _) (by omega), fun _ heq => by cases heq⟩
    | failure reasons =>
      exact ⟨hround.mono (List.Subset.refl _) (by omega), fun _ heq => by cases heq⟩

end ContentPack
