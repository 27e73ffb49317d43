import ContentPack.Proofs.Advance
import ContentPack.Proofs.Incompatibility
import ContentPack.Proofs.Layers
import Mathlib.Data.List.MinMax

/-!
# Closures of skills are searched breadth first

A skill refers to those that its newest compatible version refers to (`Store.skillRefs`), and each
round of a closure adds the next layer of them (`SkillClosure.ensures_grow_ends`). So the distances
of the skills from the seeds tell how a closure ends (`SkillClosure.Ends`), and they leave one way
only (`SkillClosure.Ends.unique`). That is how every run on a store in memory ends
(`SkillClosure.resolve_ends`).

A search for a skill can fail only if it `Stalls`: there is no version of the skill, or an older one
is missing and the newest one is not compatible. Then a version that could be used may lie below the
gap and is not found (`Gapped.resolve_refused`).
-/

namespace ContentPack

/-! ### What a skill comes to -/

section Store

variable {store : Store} {checker : Checker} {name : String} {l : Loaded}

/-- The compatible versions of a skill. -/
def Store.fitting (store : Store) (checker : Checker) (name : String) : List Loaded :=
  ((store.versionsOf (StructureId.skill name).locator).values.map store.complete).filter
    fun l => checker.check none l = .compatible

/-- The newest compatible version of a skill. -/
def Store.newest? (store : Store) (checker : Checker) (name : String) : Option Loaded :=
  (store.fitting checker name).argmax (·.version.number)

/-- The skills that a skill refers to in its newest compatible version. -/
def Store.skillRefs (store : Store) (checker : Checker) (name : String) : List String :=
  (store.newest? checker name).elim [] Loaded.skillIds

/-- The reasons against the first version of a skill. -/
def Store.firstReasons (store : Store) (checker : Checker) (name : String) : List Rejection :=
  (store.stored? (.skill name) .first).elim [] fun l => (checker.judge none l).reasons

/-- What a search for a skill comes to. -/
def Store.skillOutcome (store : Store) (checker : Checker) (name : String) : Outcome Loaded :=
  (store.newest? checker name).elim (.failure (store.firstReasons checker name)) .success

theorem Store.Faithful.mem_fitting (hs : store.Faithful) :
    l ∈ store.fitting checker name ↔ store.Compatible checker none (.skill name) l := by
  unfold fitting Table.values
  rw [List.mem_filter, decide_eq_true_eq, List.map_map, List.mem_map]
  constructor
  · rintro ⟨⟨⟨v, d⟩, hmem, rfl⟩, haccepted⟩
    have hstored : store.stored? (.skill name) v = some (store.complete d) := by
      unfold stored?
      rw [(Table.get?_eq_some_iff (hs.nodup _)).mpr hmem]
      rfl
    have hversion := hs.version_eq hstored
    exact ⟨hversion ▸ hstored, haccepted⟩
  · rintro ⟨hstored, haccepted⟩
    obtain ⟨d, hd, hcomplete⟩ := Option.map_eq_some_iff.mp hstored
    exact ⟨⟨(l.version, d), (Table.get?_eq_some_iff (hs.nodup _)).mp hd, hcomplete⟩, haccepted⟩

theorem Store.Faithful.newest_of_newest? (hs : store.Faithful)
    (h : store.newest? checker name = some l) : store.Newest checker none (.skill name) l where
  toCompatible := hs.mem_fitting.mp (List.argmax_mem h)
  greatest _ hl' :=
    List.le_of_mem_argmax (f := fun l : Loaded => l.version.number) (hs.mem_fitting.mpr hl') h

theorem Store.Faithful.newest?_eq_none_iff (hs : store.Faithful) :
    store.newest? checker name = none ↔ ∀ l, ¬store.Compatible checker none (.skill name) l := by
  unfold newest?
  rw [List.argmax_eq_none, List.eq_nil_iff_forall_not_mem]
  exact forall_congr' fun l => not_congr hs.mem_fitting

/-- **The newest compatible version** of a skill is found among the stored ones. -/
theorem Store.Faithful.newest?_eq_some_iff (hs : store.Faithful) :
    store.newest? checker name = some l ↔ store.Newest checker none (.skill name) l := by
  refine ⟨hs.newest_of_newest?, fun h => ?_⟩
  cases hnewest : store.newest? checker name with
  | none => exact absurd h.toCompatible (hs.newest?_eq_none_iff.mp hnewest l)
  | some l' => rw [(hs.newest_of_newest? hnewest).unique h]

theorem Store.ComesTo.eq_skillOutcome (hs : store.Faithful) {o : Outcome Loaded}
    (h : store.ComesTo checker none (.skill name) o) : o = store.skillOutcome checker name := by
  unfold skillOutcome
  cases h with
  | compatible hnewest => rw [hs.newest?_eq_some_iff.mpr hnewest, Option.elim_some]
  | incompatible hnone hstored hrejected =>
    unfold firstReasons
    rw [hs.newest?_eq_none_iff.mpr hnone, Option.elim_none, hstored, Option.elim_some,
      Checker.judge_eq_failure_iff.mpr hrejected]
    rfl

theorem Store.skillOutcome_ne_pending : store.skillOutcome checker name ≠ .pending := by
  unfold skillOutcome
  cases store.newest? checker name <;> exact fun h => by cases h

/-- A skill has reasons if it has no compatible version. -/
theorem Store.reasons_skillOutcome : (store.skillOutcome checker name).reasons =
    if (store.newest? checker name).isNone then store.firstReasons checker name else [] := by
  unfold skillOutcome
  cases store.newest? checker name <;> rfl

end Store

/-! ### Rounds -/

namespace SkillClosure

open Work Layers

variable {store : Store} {checker : Checker} {window : Int} {limit : Option Nat}
  {seeds ids : List String} {name : String} {d : Nat}
  {s : Session Loaded (List Request)}

/-- **A search for a skill can fail**: there is no version of the skill, or an older one is missing
and the newest one is not compatible. -/
structure Stalls (store : Store) (checker : Checker) (name : String) : Prop where
  /-- A version is missing. -/
  gap : store.HasGap (.skill name)
  /-- The newest version, if there is one, cannot be used. -/
  newest : ∀ l, store.stored? (.skill name) l.version = some l →
    (∀ v, l.version.number < v.number → store.stored? (.skill name) v = none) →
    checker.check none l ≠ .compatible

/-- **What is known of a skill** is true, and if its newest version can be used, no other is asked
for. -/
structure Knows (store : Store) (checker : Checker) (name : String) (h : History Loaded) :
    Prop where
  /-- Nothing is known but facts. -/
  sound : h.Sound (droppedFacts store checker "" [] none) (.skill name)
  /-- A search ends at the newest version if it can. -/
  newest : ∀ l, store.served (.latest (StructureId.skill name).locator) = .ok [l] →
    ∀ l', checker.judge none l = .success l' → h.Settled (.success l')

/-- What a search for a skill keeps. -/
def skillInvariant (hs : store.Faithful) (checker : Checker) (window : Int) (e : Errand)
    (hdecided : ∀ l, checker.judge e.subtopic l ≠ .pending) :
    Resolver.SearchInvariant (.ofStore store checker window) e :=
  (Resolver.factsInvariant (droppedFacts store checker "" [] none) hs store.source_answers e
    hdecided).both (Resolver.newestInvariant store.source_answers e hdecided)

section Errand

variable (hs : store.Faithful) {e : Errand} (hid : e.id = .skill name)
  (hsubtopic : e.subtopic = none) {hdecided : ∀ l, checker.judge e.subtopic l ≠ .pending}

include hid hsubtopic

theorem holds_skillInvariant {h : History Loaded} :
    (skillInvariant hs checker window e hdecided).Holds h ↔ Knows store checker name h := by
  obtain ⟨id, subtopic, event⟩ := e
  obtain rfl : id = .skill name := hid
  obtain rfl : subtopic = none := hsubtopic
  exact ⟨fun h => ⟨h.1.2, h.2⟩, fun h => ⟨⟨fun _ => rfl, h.sound⟩, h.newest⟩⟩

theorem opens_skillInvariant : (skillInvariant hs checker window e hdecided).Opens := by
  obtain ⟨id, subtopic, event⟩ := e
  obtain rfl : subtopic = none := hsubtopic
  exact ⟨fun _ => rfl, trivial⟩

theorem stalls_of_fails (h : (skillInvariant hs checker window e hdecided).Fails) :
    Stalls store checker name := by
  obtain ⟨id, subtopic, event⟩ := e
  obtain rfl : id = .skill name := hid
  obtain rfl : subtopic = none := hsubtopic
  obtain ⟨hgap, hnewest⟩ := h
  refine ⟨hgap, fun l hl hmax haccepted => ?_⟩
  exact hnewest l (Resolver.served_latest_of_stored? hs hl hmax) l
    (Checker.judge_eq_success_iff.mpr ⟨haccepted, rfl⟩)

end Errand

/-- The caches whose histories of skills are all right. -/
def KnowsSkills (store : Store) (checker : Checker) (cache : Cache Loaded) : Prop :=
  ∀ name h, cache.history? (.skill name) = some h → Knows store checker name h

/-- The report on the number of skills begins a round, and those on the skills do not. -/
theorem countP_isRound_of_tells {rest : Session Loaded (List Request)} {reported : List Event}
    {number : Int} (h : Resolver.Tells ((errands ids).filterMap (·.event))
      { s with events := s.events ++ [.count .skill number] } rest reported) :
    rest.events.countP Event.isRound = s.events.countP Event.isRound + 1 := by
  have hnone : reported.countP Event.isRound = 0 := by
    refine List.countP_eq_zero.mpr fun event hevent => ?_
    obtain ⟨e, he, heq⟩ := List.mem_filterMap.mp (h.subperm.subset hevent)
    obtain ⟨i, hi, rfl⟩ := List.mem_mapIdx.mp he
    obtain rfl := Option.some.inj heq
    exact Bool.false_ne_true
  rw [h.events, List.countP_append, hnone, List.countP_append]
  rfl

/-- The outcomes of searches for skills are what the skills come to. -/
theorem eq_map_skillOutcome (hs : store.Faithful) {cache : Cache Loaded}
    {outcomes : List (Outcome Loaded)}
    (h : List.Forall₂ (fun e o => ∃ h, cache.history? e.id = some h ∧
      (skillInvariant hs checker window e (checker.judge_ne_pending _)).Holds h ∧ h.Settled o)
      (errands ids) outcomes) :
    outcomes = ids.map (store.skillOutcome checker) := by
  have hcomesTo : List.Forall₂ (fun id o => store.ComesTo checker none id o)
      ((errands ids).map (·.id)) outcomes := by
    rw [List.forall₂_map_left_iff]
    have hskills : ∀ e ∈ errands ids, ∃ name ∈ ids, e.id = .skill name ∧ e.subtopic = none :=
      fun e => exists_of_mem_errands
    refine ((List.forall₂_and_left _ _).mpr ⟨hskills, h⟩).imp ?_
    rintro e o ⟨⟨name, -, hid, hsubtopic⟩, h, -, hholds, hsettled⟩
    have hknows := (holds_skillInvariant hs hid hsubtopic).mp hholds
    rw [hid]
    exact comesTo_of_settled hs StructureId.noConfusion hknows.sound hsettled
  rw [map_id_errands, List.forall₂_map_left_iff] at hcomesTo
  refine List.forall₂_eq_eq_eq ▸ List.forall₂_map_right_iff.mpr (hcomesTo.flip.imp ?_)
  exact fun o name h => h.eq_skillOutcome hs

/-- **What a round comes to** depends on the store and the checker only, unless a search fails. -/
theorem ensures_round (hs : store.Faithful) (hlimit : limit ≠ some 0) (hnodup : ids.Nodup)
    (hknows : KnowsSkills store checker s.cache) :
    Ensures (round (.ofStore store checker window) limit ids) s
      (fun o rest => (KnowsSkills store checker rest.cache ∧
          o = .flatten (ids.map (store.skillOutcome checker))) ∧
        rest.events.countP Event.isRound = s.events.countP Event.isRound + 1)
      (fun error rest => ((∃ failure, error = .fetch failure) ∧
          ∃ name ∈ ids, Stalls store checker name) ∧
        rest.events.countP Event.isRound = s.events.countP Event.isRound + 1) := by
  have hready : ∀ e ∈ errands ids,
      (skillInvariant hs checker window e (checker.judge_ne_pending _)).Ready s.cache := by
    intro e he
    obtain ⟨name, -, hid, hsubtopic⟩ := exists_of_mem_errands he
    refine ⟨fun h hh => ?_, fun _ => opens_skillInvariant hs hid hsubtopic⟩
    exact (holds_skillInvariant hs hid hsubtopic).mpr (hknows name h (hid ▸ hh))
  unfold round
  rw [ensures_bind, ensures_report, ensures_bind]
  refine ((Resolver.ensures_resolveApart _ (nodup_errands hnodup) hlimit 1 (by exact hready)).both
    (Resolver.ensures_resolveAll_events checker.judge_ne_pending limit (errands ids) 1 _)).mono
    ?_ ?_
  · rintro outcomes rest ⟨⟨⟨-, hkept⟩, hsettled⟩, -, reported, htells, -⟩
    rw [ensures_pure, eq_map_skillOutcome hs hsettled]
    refine ⟨⟨fun name h hh => ?_, rfl⟩, countP_isRound_of_tells htells⟩
    by_cases hsought : ∃ e ∈ errands ids, e.id = .skill name
    · obtain ⟨e, he, hid⟩ := hsought
      obtain ⟨name', -, hid', hsubtopic⟩ := exists_of_mem_errands he
      obtain ⟨o, -, h', hh', hholds, -⟩ := exists_right_of_forall₂ hsettled he
      obtain rfl : h' = h := Option.some.inj (hh'.symm.trans (hid ▸ hh))
      exact (holds_skillInvariant hs hid hsubtopic).mp hholds
    · have hsame := hkept (.skill name) fun e he hid => hsought ⟨e, he, hid⟩
      exact hknows name h (hsame ▸ hh)
  · rintro error rest ⟨⟨hfetch, e, he, hfails⟩, reported, htells⟩
    obtain ⟨name, hname, hid, hsubtopic⟩ := exists_of_mem_errands he
    have hstalls := stalls_of_fails hs hid hsubtopic hfails
    exact ⟨⟨hfetch, name, hname, hstalls⟩, countP_isRound_of_tells htells⟩

/-! ### How closures end -/

/-- All skills at a distance from the seeds have a compatible version. -/
def Clear (store : Store) (checker : Checker) (seeds : List String) (d : Nat) : Prop :=
  ∀ name, IsAt (store.skillRefs checker) seeds d name → store.newest? checker name ≠ none

/-- **How a closure ends**, and after how many rounds, by the distances of skills. A layer holds
the skills at a distance, in the order in which they are found (`Layers.mem_layer_iff`), and what is
met are the skills up to a distance, each once (`Layers.mem_met_iff`, `Layers.nodup_met`). -/
inductive Ends (store : Store) (checker : Checker) (seeds : List String) (bound : Nat) :
    Except Error (Outcome (List Loaded)) → Nat → Prop
  /-- Some skill has no compatible version. Those at the least such distance are reported. -/
  | lacking {d : Nat} : d < bound → (∀ d' < d, Clear store checker seeds d') →
      ¬Clear store checker seeds d →
      Ends store checker seeds bound
        (.ok (.failure (((layer (store.skillRefs checker) seeds d).filter
          fun name => (store.newest? checker name).isNone).flatMap
            (store.firstReasons checker)))) (d + 1)
  /-- Nothing lies beyond a distance, and there is something at it, if at all. -/
  | closed {d : Nat} {skills : List Loaded} : d < bound →
      (∀ d' ≤ d, Clear store checker seeds d') →
      (∀ d' name, IsAt (store.skillRefs checker) seeds d' name → d' ≤ d) →
      (d = 0 ∨ ∃ name, IsAt (store.skillRefs checker) seeds d name) →
      List.Forall₂ (newestSkill store checker) (met (store.skillRefs checker) seeds d) skills →
      Ends store checker seeds bound (.ok (.success skills)) (d + 1)
  /-- Something lies beyond the bound. -/
  | grown {name : String} : (∀ d < bound, Clear store checker seeds d) →
      IsAt (store.skillRefs checker) seeds bound name →
      Ends store checker seeds bound
        (.error (.closureLimit bound (met (store.skillRefs checker) seeds bound).length)) bound
  /-- A search fails. -/
  | refused {d n : Nat} {name : String} {failure : FetchFailure} : d < bound →
      (∀ d' < d, Clear store checker seeds d') →
      IsAt (store.skillRefs checker) seeds d name → Stalls store checker name →
      Ends store checker seeds bound (.error (.fetch failure)) n

/-- What is added are the skills that the others refer to. -/
theorem expand_eq (hs : store.Faithful) {skills : List Loaded}
    (h : List.Forall₂ (newestSkill store checker) ids skills) :
    expand ids skills = (ids ++ ids.flatMap (store.skillRefs checker)).eraseDups := by
  have hrefs : skills.flatMap Loaded.skillIds = ids.flatMap (store.skillRefs checker) := by
    induction h with
    | nil => rfl
    | cons hl _ ih =>
      rw [List.flatMap_cons, List.flatMap_cons, ih]
      unfold Store.skillRefs
      rw [hs.newest?_eq_some_iff.mpr hl, Option.elim_some]
  unfold expand
  rw [hrefs]

/-- Skills that all have compatible versions come to the newest ones. -/
theorem exists_flatten_eq_success (hs : store.Faithful)
    (h : ∀ name ∈ ids, store.newest? checker name ≠ none) :
    ∃ skills, Outcome.flatten (ids.map (store.skillOutcome checker)) = .success skills ∧
      List.Forall₂ (newestSkill store checker) ids skills := by
  simp only [Outcome.flatten_eq_success_iff]
  induction ids with
  | nil => exact ⟨[], rfl, .nil⟩
  | cons name ids ih =>
    obtain ⟨l, hl⟩ := Option.ne_none_iff_exists'.mp (h name List.mem_cons_self)
    obtain ⟨skills, hmap, hskills⟩ := ih fun other hother => h other (List.mem_cons_of_mem _ hother)
    refine ⟨l :: skills, ?_, .cons (hs.newest_of_newest? hl) hskills⟩
    unfold Store.skillOutcome at hmap ⊢
    rw [List.map_cons, List.map_cons, hmap, hl, Option.elim_some]

theorem flatMap_reasons : (ids.map (store.skillOutcome checker)).flatMap Outcome.reasons =
    (ids.filter fun name => (store.newest? checker name).isNone).flatMap
      (store.firstReasons checker) := by
  induction ids with
  | nil => rfl
  | cons name ids ih =>
    rw [List.map_cons, List.flatMap_cons, ih, Store.reasons_skillOutcome, List.filter_cons]
    split
    · rw [List.flatMap_cons]
    · exact List.nil_append _

/-- If one of them has none, the reasons are those against the first versions of all that have
none. -/
theorem flatten_eq_failure (hname : name ∈ ids) (hnone : store.newest? checker name = none) :
    Outcome.flatten (ids.map (store.skillOutcome checker)) =
      .failure ((ids.filter fun name => (store.newest? checker name).isNone).flatMap
        (store.firstReasons checker)) := by
  have hpending : .pending ∉ ids.map (store.skillOutcome checker) := by
    intro hmem
    obtain ⟨name, -, heq⟩ := List.mem_map.mp hmem
    exact Store.skillOutcome_ne_pending heq
  have hreasons := Outcome.reasons_flatten hpending
  rw [flatMap_reasons] at hreasons
  cases hflatten : Outcome.flatten (ids.map (store.skillOutcome checker)) with
  | pending => exact absurd (Outcome.flatten_eq_pending_iff.mp hflatten) hpending
  | success skills =>
    -- the skill without a compatible version does not come to a success
    have hmem := List.mem_map_of_mem (f := store.skillOutcome checker) hname
    rw [Outcome.flatten_eq_success_iff.mp hflatten] at hmem
    obtain ⟨l, -, heq⟩ := List.mem_map.mp hmem
    unfold Store.skillOutcome at heq
    rw [hnone] at heq
    cases heq
  | failure reasons =>
    rw [hflatten] at hreasons
    rw [← hreasons]
    rfl

/-- What is met up to a distance that is clear has a compatible version. -/
theorem newest?_ne_none_of_mem_met (h : ∀ d' ≤ d, Clear store checker seeds d')
    (hname : name ∈ met (store.skillRefs checker) seeds d) : store.newest? checker name ≠ none := by
  obtain ⟨d', hle, hat⟩ := mem_met_iff.mp hname
  exact h d' hle name hat

/-- What lacks a compatible version among what was met is at the last distance. -/
theorem filter_met (h : ∀ d' < d, Clear store checker seeds d') :
    (met (store.skillRefs checker) seeds d).filter
        (fun name => (store.newest? checker name).isNone) =
      (layer (store.skillRefs checker) seeds d).filter
        fun name => (store.newest? checker name).isNone := by
  cases d with
  | zero => rfl
  | succ d =>
    have hnil : (met (store.skillRefs checker) seeds d).filter
        (fun name => (store.newest? checker name).isNone) = [] := by
      refine List.filter_eq_nil_iff.mpr fun name hname => ?_
      rw [Option.isNone_iff_eq_none]
      exact newest?_ne_none_of_mem_met (fun d' hle => h d' (Nat.lt_succ_of_le hle)) hname
    rw [met_succ, List.filter_append, hnil, List.nil_append]

/-- A round in which nothing is lacking finds the next layer. -/
theorem exists_flatten_met (hs : store.Faithful) (h : ∀ d' ≤ d, Clear store checker seeds d') :
    ∃ skills, Outcome.flatten
        ((met (store.skillRefs checker) seeds d).map (store.skillOutcome checker)) =
          .success skills ∧
      List.Forall₂ (newestSkill store checker) (met (store.skillRefs checker) seeds d) skills ∧
      expand (met (store.skillRefs checker) seeds d) skills =
        met (store.skillRefs checker) seeds (d + 1) := by
  obtain ⟨skills, hflatten, hskills⟩ := exists_flatten_eq_success hs
    fun name hname => newest?_ne_none_of_mem_met h hname
  refine ⟨skills, hflatten, hskills, ?_⟩
  rw [expand_eq hs hskills, eraseDups_met_append]

/-- Else it reports what is lacking, all of which is in the last layer. -/
theorem flatten_met_of_not_clear (hclear : ∀ d' < d, Clear store checker seeds d')
    (hlacking : ¬Clear store checker seeds d) :
    Outcome.flatten ((met (store.skillRefs checker) seeds d).map (store.skillOutcome checker)) =
      .failure (((layer (store.skillRefs checker) seeds d).filter
        fun name => (store.newest? checker name).isNone).flatMap (store.firstReasons checker)) := by
  unfold Clear at hlacking
  push Not at hlacking
  obtain ⟨name, hat, hnone⟩ := hlacking
  rw [flatten_eq_failure (mem_met_iff.mpr ⟨d, Nat.le_refl d, hat⟩) hnone, filter_met hclear]

/-- **Rounds go from one distance to the next.** -/
theorem ensures_grow_ends (hs : store.Faithful) (hlimit : limit ≠ some 0) {bound : Nat}
    (hbound : 0 < bound) (left : Nat) :
    ∀ {d : Nat} {s : Session Loaded (List Request)}, d + left = bound →
      (∀ d' < d, Clear store checker seeds d') →
      (d = 0 ∨ ∃ name, IsAt (store.skillRefs checker) seeds d name) →
      KnowsSkills store checker s.cache → s.events.countP Event.isRound = d →
      Ensures (grow (.ofStore store checker window) limit bound left
          (met (store.skillRefs checker) seeds d)) s
        (fun o rest => Ends store checker seeds bound (.ok o)
          (rest.events.countP Event.isRound))
        (fun error rest => Ends store checker seeds bound (.error error)
          (rest.events.countP Event.isRound)) := by
  induction left with
  | zero =>
    intro d s hd hclear hat _ hcount
    obtain rfl : d = bound := hd
    obtain ⟨name, hat⟩ := hat.resolve_left (Nat.ne_of_gt hbound)
    show Ends store checker seeds d _ (s.events.countP Event.isRound)
    rw [hcount]
    exact .grown hclear hat
  | succ left ih =>
    intro d s hd hclear hat hknows hcount
    have hlt : d < bound := by omega
    unfold grow
    rw [ensures_bind]
    refine (ensures_round hs hlimit nodup_met hknows).mono ?_ ?_
    · rintro o rest ⟨⟨hknows', rfl⟩, hcount'⟩
      rw [hcount] at hcount'
      by_cases hclear' : Clear store checker seeds d
      · have hupTo : ∀ d' ≤ d, Clear store checker seeds d' := fun d' hle =>
          (Nat.lt_or_eq_of_le hle).elim (hclear d') fun heq => heq ▸ hclear'
        obtain ⟨skills, hflatten, hskills, hexpand⟩ := exists_flatten_met hs hupTo
        rw [hflatten]
        simp only
        rw [hexpand, met_succ, List.length_append]
        split
        · rename_i hsame
          have hnil : layer (store.skillRefs checker) seeds (d + 1) = [] :=
            List.length_eq_zero_iff.mp (by omega)
          rw [ensures_pure, hcount']
          exact .closed hlt hupTo (fun _ _ hat' => hat'.le_of_layer_eq_nil hnil) hat hskills
        · rename_i hmore
          rw [ensures_bind, ensures_report]
          obtain ⟨name, hname⟩ := List.exists_mem_of_ne_nil
            (layer (store.skillRefs checker) seeds (d + 1)) fun hnil => hmore (by rw [hnil]; rfl)
          refine ih (by omega) (fun d' hlt' => hupTo d' (Nat.le_of_lt_succ hlt'))
            (Or.inr ⟨name, mem_layer_iff.mp hname⟩) hknows' ?_
          rw [List.countP_append, hcount']
          rfl
      · rw [flatten_met_of_not_clear hclear hclear']
        simp only
        rw [ensures_pure, hcount']
        exact .lacking hlt hclear hclear'
    · rintro error rest ⟨⟨⟨failure, rfl⟩, name, hname, hstalls⟩, -⟩
      obtain ⟨d', hle, hat'⟩ := mem_met_iff.mp hname
      exact .refused (Nat.lt_of_le_of_lt hle hlt)
        (fun d'' hlt' => hclear d'' (Nat.lt_of_lt_of_le hlt' hle)) hat' hstalls

/-- **A closure ends in one way only** if no search within the bound can fail. -/
theorem Ends.unique {bound n n' : Nat} {result result' : Except Error (Outcome (List Loaded))}
    (hserved : ∀ d < bound, ∀ name, IsAt (store.skillRefs checker) seeds d name →
      ¬Stalls store checker name)
    (h : Ends store checker seeds bound result n) (h' : Ends store checker seeds bound result' n') :
    result = result' ∧ n = n' := by
  -- where a skill is lacking is not within what is closed
  have hwithin : ∀ {d d' : Nat}, ¬Clear store checker seeds d →
      (∀ d'' ≤ d', Clear store checker seeds d'') →
      (∀ d'' name, IsAt (store.skillRefs checker) seeds d'' name → d'' ≤ d') → False := by
    intro d d' hlacking hclear hlast
    refine hlacking fun name hat => ?_
    exact hclear d (hlast d name hat) name hat
  cases h with
  | refused hlt _ hat hstalls => exact absurd hstalls (hserved _ hlt _ hat)
  | @lacking d hlt hclear hlacking =>
    cases h' with
    | refused hlt' _ hat' hstalls' => exact absurd hstalls' (hserved _ hlt' _ hat')
    | @lacking d' _ hclear' hlacking' =>
      rcases Nat.lt_trichotomy d d' with hless | rfl | hmore
      · exact absurd (hclear' d hless) hlacking
      · exact ⟨rfl, rfl⟩
      · exact absurd (hclear d' hmore) hlacking'
    | closed _ hclear' hlast' => exact (hwithin hlacking hclear' hlast').elim
    | grown hclear' => exact absurd (hclear' d hlt) hlacking
  | @closed d skills hlt hclear hlast hat hskills =>
    cases h' with
    | refused hlt' _ hat' hstalls' => exact absurd hstalls' (hserved _ hlt' _ hat')
    | lacking _ _ hlacking' => exact (hwithin hlacking' hclear hlast).elim
    | @closed d' skills' _ _ hlast' hat' hskills' =>
      obtain rfl : d = d' := by
        refine Nat.le_antisymm ?_ ?_
        · rcases hat with rfl | ⟨name, hat⟩
          · exact Nat.zero_le d'
          · exact hlast' d name hat
        · rcases hat' with rfl | ⟨name, hat'⟩
          · exact Nat.zero_le d
          · exact hlast d' name hat'
      obtain rfl := List.right_unique_forall₂' newestSkill_unique hskills hskills'
      exact ⟨rfl, rfl⟩
    | grown _ hat' => exact absurd (hlast bound _ hat') (Nat.not_le_of_lt hlt)
  | grown hclear hat =>
    cases h' with
    | refused hlt' _ hat' hstalls' => exact absurd hstalls' (hserved _ hlt' _ hat')
    | lacking hlt' _ hlacking' => exact absurd (hclear _ hlt') hlacking'
    | closed hlt' _ hlast' => exact absurd (hlast' bound _ hat) (Nat.not_le_of_lt hlt')
    | grown => exact ⟨rfl, rfl⟩

/-- A closure that starts in the first round ends as the distances say. -/
theorem ensures_resolve_ends (hs : store.Faithful) (hlimit : limit ≠ some 0) (maxRounds : Int)
    (seeds : List String) (hknows : KnowsSkills store checker s.cache)
    (hevents : s.events.countP Event.isRound = 0) :
    Ensures (resolve (.ofStore store checker window) limit maxRounds seeds) s
      (fun o rest => Ends store checker seeds (roundLimit maxRounds) (.ok o)
        (rest.events.countP Event.isRound))
      (fun error rest => Ends store checker seeds (roundLimit maxRounds) (.error error)
        (rest.events.countP Event.isRound)) := by
  have hbound : 0 < roundLimit maxRounds := by
    unfold roundLimit
    omega
  exact ensures_grow_ends hs hlimit hbound _ (Nat.zero_add _)
    (fun d hd => absurd hd (Nat.not_lt_zero d)) (Or.inl rfl) hknows hevents

/-- **A closure of skills is a breadth-first search with a bound**: from an empty cache, it ends as
the distances of the skills from the seeds say, after the number of rounds that they say. -/
theorem resolve_ends (documents : List Document) (translations : List Translation)
    (checker : Checker) (window : Int) (concurrent : Option Int) (maxRounds : Int)
    (seeds : List String) (asked : List Request) :
    let store := Store.ofContents documents translations
    let run := ExceptT.run (resolve (.ofStore store checker window) (FanOut.seatLimit concurrent)
      maxRounds seeds) { remote := asked }
    Ends store checker seeds (roundLimit maxRounds) run.1 (run.2.events.countP Event.isRound) := by
  intro store run
  have hempty : KnowsSkills store checker Cache.empty := by
    intro name h hh
    cases hh
  have hensures : Ensures (resolve (.ofStore store checker window) (FanOut.seatLimit concurrent)
      maxRounds seeds) { remote := asked } _ _ :=
    ensures_resolve_ends (Store.faithful_ofContents documents translations)
      (FanOut.seatLimit_ne_zero concurrent) maxRounds seeds hempty rfl
  rcases hensures.run with ⟨o, rest, hrun, hends⟩ | ⟨error, rest, hrun, hends⟩
  · rw [show run = (.ok o, rest) from hrun]
    exact hends
  · rw [show run = (.error error, rest) from hrun]
    exact hends

end SkillClosure

/-! ### A gap below a version that cannot be used -/

namespace Gapped

open SkillClosure Layers

/-- A skill whose second version is missing. -/
def documents : List Document :=
  [.skill { id := "a", version := .first }, .skill { id := "a", version := .after 2 }]

/-- The checker that rejects the third version. -/
def checker : Checker := BlockedVersions.checker
  [{ kind := "skill", id := "a", versions := some [3], reasons := ["blocked"] }]

/-- The store that holds the skill. -/
def store : Store := .ofContents documents []

/-- **A compatible version is not found** beyond a gap. The skill exists, and it refers to no other
one. -/
theorem resolve_refused :
    (∀ d name, IsAt (store.skillRefs checker) ["a"] d name → d = 0 ∧ name = "a") ∧
      store.newest? checker "a" = some (.skill { id := "a", version := .first }) ∧
      (ExceptT.run (resolve (.ofStore store checker 1) none 32 ["a"]) { remote := [] }).1 =
        .error (.fetch (.unknownVersions [2] (StructureId.skill "a").locator)) := by
  refine ⟨fun d name hat => ?_, by decide +kernel, by decide +kernel⟩
  have hnil : layer (store.skillRefs checker) ["a"] (0 + 1) = [] := by decide +kernel
  have hmet := hat.path.mem_met_of_layer_eq_nil hnil
  refine ⟨Nat.le_zero.mp (hat.le_of_layer_eq_nil hnil), ?_⟩
  rw [met_zero] at hmet
  exact List.mem_singleton.mp (List.mem_eraseDups.mp hmet)

end Gapped

end ContentPack
