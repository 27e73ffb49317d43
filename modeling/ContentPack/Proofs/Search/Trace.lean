import ContentPack.Proofs.Requests
import ContentPack.Proofs.Search.Regime

/-!
# What a search asks for

The pending versions of a structure are always its oldest ones: everything else was asked for, in
blocks of consecutive versions from the newest one down (`Blocks`). So what was asked for a
structure so far is known from its history (`History.Traced`): the newest version once, and then the
blocks, each version with its translations.

A search keeps this, whatever is asked for other structures meanwhile (`Resolver.traceInvariant`),
and so do searches for several structures (`Resolver.ensures_resolveAll_traced`).
-/

namespace ContentPack

variable {α : Type}

/-! ### Blocks of versions -/

/-- The newest of the first `left` versions, at most `width` of them, listed upwards. -/
def block (width left : Nat) : List Version :=
  (List.range' (left - min width left) (min width left)).map Version.after

/-- **Blocks of versions**, one below the other: the first of them ends at version `left`, and
below the last of them there are `rest` versions. -/
inductive Blocks (width left : Nat) : List (List Version) → Nat → Prop
  /-- There is no block yet. -/
  | nil : Blocks width left [] left
  /-- The next block ends just below the last one. -/
  | snoc {blocks : List (List Version)} {rest : Nat} : Blocks width left blocks rest → 0 < rest →
      Blocks width left (blocks ++ [block width rest]) (rest - width)

theorem mem_block {width left : Nat} {v : Version} :
    v ∈ block width left ↔ left - width < v.number ∧ v.number ≤ left := by
  unfold block
  rw [List.mem_map]
  constructor
  · rintro ⟨n, hn, rfl⟩
    obtain ⟨i, hi, rfl⟩ := List.mem_range'.mp hn
    rw [Version.number_after]
    omega
  · rintro ⟨hlt, hle⟩
    have hone := v.one_le
    refine ⟨v.number - 1, ?_, Version.ext (Nat.sub_add_cancel hone)⟩
    rw [List.mem_range'_1]
    omega

theorem after_injective : Function.Injective Version.after := by
  intro n m h
  exact Nat.succ.inj (congrArg Version.number h)

theorem nodup_block (width left : Nat) : (block width left).Nodup := by
  have hrange : (List.range' (left - min width left) (min width left)).Nodup := List.nodup_range'
  exact hrange.map after_injective

namespace Blocks

variable {width left rest : Nat} {blocks : List (List Version)}

theorem rest_le (h : Blocks width left blocks rest) : rest ≤ left := by
  induction h with
  | nil => exact Nat.le_refl _
  | snoc _ _ ih => exact Nat.le_trans (Nat.sub_le ..) ih

/-- **The blocks hold all versions that are not left below them.** -/
theorem mem_flatten (h : Blocks width left blocks rest) {v : Version} :
    v ∈ blocks.flatten ↔ rest < v.number ∧ v.number ≤ left := by
  induction h with
  | nil =>
    constructor
    · exact fun hv => absurd hv List.not_mem_nil
    · rintro ⟨hlt, hle⟩
      omega
  | @snoc blocks rest h _ ih =>
    have hle := h.rest_le
    rw [List.flatten_append, List.mem_append, ih, List.flatten_singleton, mem_block]
    omega

/-- No version is in two blocks. -/
theorem nodup_flatten (h : Blocks width left blocks rest) : blocks.flatten.Nodup := by
  induction h with
  | nil => exact List.nodup_nil
  | @snoc blocks rest h _ ih =>
    rw [List.flatten_append, List.flatten_singleton]
    refine List.nodup_append.mpr ⟨ih, nodup_block width rest, ?_⟩
    rintro v hv w hw rfl
    exact absurd (mem_block.mp hw).2 (Nat.not_le_of_lt (h.mem_flatten.mp hv).1)

end Blocks

/-- The pending versions below a version are a block if all of them are pending. -/
theorem History.pendingRun_eq_block {outcomes : List (Outcome α)} {n : Nat}
    (h : ∀ i < n, outcomes[i]? = some .pending) (width : Nat) :
    pendingRun outcomes n width = block width n := by
  induction n generalizing width with
  | zero => cases width <;> rfl
  | succ n ih =>
    cases width with
    | zero =>
      unfold pendingRun block
      rw [Nat.zero_min]
      rfl
    | succ width =>
      have hmin : min (width + 1) (n + 1) = min width n + 1 := by omega
      have hstart : n + 1 - (min width n + 1) = n - min width n := by omega
      have hend : n - min width n + min width n = n := by omega
      unfold pendingRun
      rw [h n (Nat.lt_succ_self n)]
      show pendingRun outcomes n width ++ [.after n] = _
      rw [ih fun i hi => h i (Nat.lt_succ_of_lt hi)]
      unfold block
      rw [hmin, hstart, List.range'_1_concat, List.map_append, List.map_singleton, hend]

/-! ### The requests for a structure -/

/-- What is asked for when versions are loaded together. -/
def StructureId.requestsFor (id : StructureId) (versions : List Version) : List Request :=
  .versions id.locator (versions.map Version.toInt) :: versions.flatMap id.translations

/-- What is asked for when the newest version is loaded, and then blocks of older ones. -/
def StructureId.requests (id : StructureId) (newest : Version) (batches : List (List Version)) :
    List Request :=
  .latest id.locator :: id.translations newest ++ batches.flatMap id.requestsFor

/-- The newest version of a structure that is stored. -/
structure Store.EndsAt (s : Store) (id : StructureId) (newest : Version) : Prop where
  /-- It is stored. -/
  stored : ∃ l, s.stored? id newest = some l
  /-- There are no newer ones. -/
  newer : ∀ v, newest.number < v.number → s.stored? id v = none

/-- **What was asked for a structure so far**: its newest version and then blocks of older ones. The
versions that were not asked for are pending, and no others are. -/
structure History.Traced (store : Store) (width : Nat) (id : StructureId) (h : History α)
    (log : List Request) (newest : Version) (batches : List (List Version)) (rest : Nat) :
    Prop where
  /-- The newest version was asked for first. -/
  ends : store.EndsAt id newest
  /-- Older versions were asked for in blocks. -/
  blocks : Blocks width (newest.number - 1) batches rest
  /-- That is what was asked for. -/
  log_eq : log = id.requests newest batches
  /-- What is left is pending. -/
  pending : ∀ v o, h.get? v = some o → (o = .pending ↔ v.number ≤ rest)
  /-- What is left was not dropped. -/
  rest_le : rest ≤ h.newest.number
  /-- The versions do not go beyond the newest one. -/
  newest_le : h.newest.number ≤ newest.number

namespace History.Traced

variable {store : Store} {width : Nat} {id : StructureId} {h h' : History α} {log : List Request}
  {newest v : Version} {batches : List (List Version)} {rest : Nat} {lastInvalid : Option Version}

/-- Failures are not pending, so they may be dropped. -/
theorem trims (ht : h.Traced store width id log newest batches rest) (t : h.Trims h') :
    h'.Traced store width id log newest batches rest where
  ends := ht.ends
  blocks := ht.blocks
  log_eq := ht.log_eq
  pending v o hv := ht.pending v o (t.get?_of_get? hv)
  rest_le := by
    by_contra hlt
    have hrest := ht.rest_le
    -- otherwise a pending version was dropped
    obtain ⟨o, ho⟩ := h.exists_get? (v := .after h'.newest.number) (by
      rw [Version.number_after]
      omega)
    obtain ⟨reasons, rfl⟩ := t.dropped _ o (Nat.lt_succ_self _) ho
    have hpending := (ht.pending _ _ ho).mpr (by
      rw [Version.number_after]
      omega)
    cases hpending
  newest_le := Nat.le_trans t.newest_le ht.newest_le

/-- If the newest version is not pending, it may be dropped. -/
theorem drop (ht : h.Traced store width id log newest batches rest)
    (hnewest : h.get? h.newest ≠ some .pending) (hdrop : h.dropNewest? = some h') :
    h'.Traced store width id log newest batches rest where
  ends := ht.ends
  blocks := ht.blocks
  log_eq := ht.log_eq
  pending v o hv := by
    have hfirst := (of_dropNewest? hdrop).2
    exact ht.pending v o ((get?_eq_of_initial hfirst (le_newest_of_get? hv)).symm.trans hv)
  rest_le := by
    have hnum := (of_dropNewest? hdrop).1
    obtain ⟨o, ho⟩ := h.exists_get? (Nat.le_refl _)
    by_contra hlt
    have hrest := ht.rest_le
    have hpending := (ht.pending _ _ ho).mpr (by omega)
    exact hnewest (hpending ▸ ho)
  newest_le := by
    have hnum := (of_dropNewest? hdrop).1
    have hle := ht.newest_le
    omega

/-- A walk comes to the newest version that is left. -/
theorem eq_rest_of_at (ht : h.Traced store width id log newest batches rest)
    (hat : h.At v lastInvalid) (hv : h.get? v = some .pending) : v.number = rest := by
  have hle := (ht.pending v _ hv).mp rfl
  have hrest := ht.rest_le
  cases lastInvalid with
  | none =>
    obtain rfl : h.newest = v := hat
    omega
  | some above =>
    obtain ⟨rfl, hnum, reasons, hfailure⟩ := hat
    -- the version above it is a failure, so it is not left
    have hlt : ¬h.newest.number ≤ rest := by
      intro hle'
      have hpending := (ht.pending _ _ hfailure).mpr hle'
      cases hpending
    omega

theorem batch_eq {σ : Type} {r : Resolver α σ} (hwidth : width = (max 1 r.window).toNat)
    (ht : h.Traced store width id log newest batches rest) (hat : h.At v lastInvalid)
    (hv : h.get? v = some .pending) : r.batch h v = block width rest := by
  unfold Resolver.batch
  rw [ht.eq_rest_of_at hat hv, ← hwidth]
  refine History.pendingRun_eq_block ?_ _
  intro i hi
  have hrest := ht.rest_le
  obtain ⟨o, ho⟩ := h.exists_get? (v := .after i) (by
    rw [Version.number_after]
    omega)
  have hpending := (ht.pending _ _ ho).mpr (by
    rw [Version.number_after]
    omega)
  exact hpending ▸ ho

/-- The structure is tracked from its newest version. -/
theorem start {o : Outcome α} (hends : store.EndsAt id newest) (subtopic : Option Subtopic)
    (ho : o ≠ .pending) : (History.start newest subtopic o).Traced store width id
      (.latest id.locator :: id.translations newest) newest [] (newest.number - 1) where
  ends := hends
  blocks := .nil
  log_eq := (List.append_nil _).symm
  pending v o' hv := by
    have hle := le_newest_of_get? hv
    rw [newest_start] at hle
    by_cases heq : v = newest
    · subst heq
      rw [get?_start_newest] at hv
      have hone := v.one_le
      constructor
      · rintro rfl
        exact absurd (Option.some.inj hv) ho
      · intro hlt
        omega
    · have hlt : v.number < newest.number :=
        Nat.lt_of_le_of_ne hle fun hnum => heq (Version.ext hnum)
      rw [get?_start_of_lt subtopic o hlt] at hv
      exact iff_of_true (Option.some.inj hv).symm (by omega)
  rest_le := by
    rw [newest_start]
    exact Nat.sub_le ..
  newest_le := by rw [newest_start]

/-- The next block is written. -/
theorem write (ht : h.Traced store width id log newest batches rest) (hrest : 0 < rest)
    {entries : List (Version × Outcome α)} (hkeys : entries.map (·.1) = block width rest)
    (hdecided : ∀ entry ∈ entries, entry.2 ≠ .pending) :
    (h.write entries).Traced store width id (log ++ id.requestsFor (block width rest)) newest
      (batches ++ [block width rest]) (rest - width) where
  ends := ht.ends
  blocks := ht.blocks.snoc hrest
  log_eq := by
    rw [ht.log_eq]
    unfold StructureId.requests
    rw [List.flatMap_append, List.flatMap_singleton, List.append_assoc]
  pending v o hv := by
    have hle := le_newest_of_get? hv
    rw [newest_write] at hle
    by_cases hmem : v ∈ block width rest
    · -- it was just written
      obtain ⟨entry, hentry, -, hget⟩ := exists_get?_write (hkeys.symm ▸ hmem) hle
      rw [hv] at hget
      obtain rfl := Option.some.inj hget
      have hlt := (mem_block.mp hmem).1
      exact iff_of_false (hdecided entry hentry) (Nat.not_le_of_lt hlt)
    · rw [get?_write_of_notMem _ (hkeys.symm ▸ hmem)] at hv
      rw [mem_block] at hmem
      rw [ht.pending v o hv]
      omega
  rest_le := by
    rw [newest_write]
    exact Nat.le_trans (Nat.sub_le ..) ht.rest_le
  newest_le := by
    rw [newest_write]
    exact ht.newest_le

end History.Traced

/-- **What was asked for a structure so far** is known from what is known of its versions. -/
def IsTraced (store : Store) (width : Nat) (id : StructureId) (known : Option (History α))
    (log : List Request) : Prop :=
  match known with
  | none => log = []
  | some h => ∃ newest batches rest, h.Traced store width id log newest batches rest

/-- **What was asked for every structure so far** is known from the cache. -/
def Session.Traced (store : Store) (width : Nat) (s : Session α (List Request)) : Prop :=
  ∀ id, IsTraced store width id (s.cache.history? id) (asked id s.remote)

/-! ### What follows a request -/

namespace Store.Faithful

variable {store : Store} {id : StructureId} (hs : store.Faithful)

include hs

theorem endsAt_of_served {l : Loaded} (h : store.served (.latest id.locator) = .ok [l]) :
    store.EndsAt id l.version ∧
      store.follow (.latest id.locator) = id.translations l.version := by
  obtain ⟨_, heq, hl, hnewer⟩ := Resolver.stored?_of_served_latest hs h
  obtain rfl := List.singleton_inj.mp heq
  refine ⟨⟨⟨l, hl⟩, hnewer⟩, ?_⟩
  rw [follow_of_served h, List.flatMap_singleton, hs.id_eq hl]

theorem follow_versions {e : Errand} {batch : List Version} {loaded : List Loaded}
    (h : store.served (Resolver.versionsRequest e batch) = .ok loaded) :
    Resolver.versionsRequest e batch :: store.follow (Resolver.versionsRequest e batch) =
      e.id.requestsFor batch := by
  rw [follow_of_served h]
  refine congrArg (_ :: ·) ?_
  have hstored := Resolver.stored?_of_served h
  clear h
  induction hstored with
  | nil => rfl
  | cons hl _ ih => rw [List.flatMap_cons, List.flatMap_cons, ih, hs.id_eq hl, hs.version_eq hl]

/-- The newest version is asked for with what belongs to it. -/
theorem concerns_latest (id : StructureId) :
    ∀ r ∈ .latest id.locator :: store.follow (.latest id.locator), r.concerns id := by
  intro r hr
  rcases List.mem_cons.mp hr with rfl | hr
  · exact decide_eq_true rfl
  · cases hserved : store.served (.latest id.locator) with
    | error failure =>
      rw [follow_of_served_error hserved] at hr
      cases hr
    | ok loaded =>
      obtain ⟨l, rfl, -⟩ := Resolver.stored?_of_served_latest hs hserved
      rw [(hs.endsAt_of_served hserved).2] at hr
      exact StructureId.concerns_of_mem_translations hr

/-- So are older versions. -/
theorem concerns_versions (e : Errand) (batch : List Version) :
    ∀ r ∈ Resolver.versionsRequest e batch :: store.follow (Resolver.versionsRequest e batch),
      r.concerns e.id := by
  intro r hr
  rcases List.mem_cons.mp hr with rfl | hfollow
  · exact decide_eq_true rfl
  · cases hserved : store.served (Resolver.versionsRequest e batch) with
    | error failure =>
      rw [follow_of_served_error hserved] at hfollow
      cases hfollow
    | ok loaded =>
      rw [hs.follow_versions hserved] at hr
      rcases List.mem_cons.mp hr with rfl | hr
      · exact decide_eq_true rfl
      · obtain ⟨v, -, hr⟩ := List.mem_flatMap.mp hr
        exact StructureId.concerns_of_mem_translations hr

end Store.Faithful

namespace Resolver

/-! ### What one search keeps of the log -/

section Owes

variable {store : Store} {width : Nat} {id : StructureId} {known : Option (History α)}
  {request : Request} {load load' : Load} {log log' : List Request}

/-- **What holds of the log while a load is under way**: what was asked for, together with what the
load has still to ask for, is what was asked for before and what is asked for by the load. -/
structure Owes (store : Store) (width : Nat) (id : StructureId) (known : Option (History α))
    (request : Request) (load : Load) (log : List Request) : Prop where
  /-- The load waits for nothing but the store. -/
  prompt : load.IsPrompt
  /-- It asks for nothing but the structure. -/
  concerns : ∀ r ∈ load.owed store, r.concerns id
  /-- What was asked for before is known. -/
  before : ∃ before, IsTraced store width id known before ∧
    asked id log ++ load.owed store = before ++ request :: store.follow request

theorem owes_ask (htraced : IsTraced store width id known (asked id log))
    (hconcerns : ∀ r ∈ request :: store.follow request, r.concerns id) :
    Owes store width id known request (Load.ask store.source.delays request) log :=
  ⟨Load.isPrompt_ask store request, hconcerns, _, htraced, rfl⟩

theorem Owes.visit (ho : Owes store width id known request load log)
    (hvisit : load.visit store.source log = (load', log')) :
    Owes store width id known request load' log' ∧
      ∃ new, log' = log ++ new ∧ ∀ r ∈ new, r.concerns id := by
  obtain ⟨hprompt, new, hlog, howed⟩ := ho.prompt.visit log
  obtain ⟨before, htraced, hbefore⟩ := ho.before
  have hconcerns := ho.concerns
  rw [hvisit] at hprompt hlog howed
  obtain rfl : log' = log ++ new := hlog
  rw [howed] at hconcerns hbefore
  have hnew : ∀ r ∈ new, r.concerns id := fun r hr => hconcerns r (List.mem_append_left _ hr)
  refine ⟨⟨hprompt, fun r hr => hconcerns r (List.mem_append_right _ hr), before, htraced, ?_⟩,
    new, rfl, hnew⟩
  rw [asked_append, asked_of_concerns hnew, List.append_assoc]
  exact hbefore

/-- A load that has ended has asked for everything. -/
theorem Owes.ended (ho : Owes store width id known request load log)
    {result : Except FetchFailure (List Loaded)} {parts : List Part}
    (hvisit : load.visit store.source log = (.ended result parts, log')) :
    ∃ before, IsTraced store width id known before ∧
      asked id log' = before ++ request :: store.follow request := by
  obtain ⟨before, htraced, hbefore⟩ := (ho.visit hvisit).1.before
  exact ⟨before, htraced, (List.append_nil _).symm.trans hbefore⟩

end Owes

variable {store : Store} {checker : Checker} {window : Int}

/-- How many versions are loaded together at most. -/
def width (window : Int) : Nat := (max 1 window).toNat

/-- **A search in a store** asks for the newest version once, and then for blocks of older ones. -/
def traceInvariant (hs : store.Faithful) (checker : Checker) (window : Int) (e : Errand) :
    WalkInvariant (ofStore store checker window) e where
  Rests known log := IsTraced store (width window) e.id known (asked e.id log)
  Awaits := Owes store (width window) e.id
  Fails _ _ := True
  Moves log log' := ∃ new, log' = log ++ new ∧ ∀ r ∈ new, r.concerns e.id
  Bears log log' := asked e.id log' = asked e.id log
  decided := checker.judge_ne_pending e.subtopic
  moves_refl log := ⟨[], (List.append_nil log).symm, fun _ hr => absurd hr List.not_mem_nil⟩
  moves_trans := by
    rintro log _ _ ⟨new, rfl, hnew⟩ ⟨more, rfl, hmore⟩
    refine ⟨new ++ more, List.append_assoc .., ?_⟩
    exact fun r hr => (List.mem_append.mp hr).elim (hnew r) (hmore r)
  bears_rests hbears hrests := hbears ▸ hrests
  bears_awaits hbears ho := by
    obtain ⟨before, htraced, hbefore⟩ := ho.before
    exact ⟨ho.prompt, ho.concerns, before, htraced, hbears ▸ hbefore⟩
  trims := by
    rintro h h' log ⟨newest, batches, rest, ht⟩ t
    exact ⟨newest, batches, rest, ht.trims t⟩
  opens hrests := owes_ask hrests (hs.concerns_latest e.id)
  asks hrests _ _ := owes_ask hrests (hs.concerns_versions e _)
  looks ho := (ho.visit rfl).2
  waits ho hvisit _ := (ho.visit hvisit).1
  start {load l parts st st'} ho hvisit hyields := by
    have hserved := (hyields.eq_served store.source_answers).symm
    obtain ⟨before, hnone, hasked⟩ := ho.ended hvisit
    obtain ⟨hends, hfollow⟩ := hs.endsAt_of_served hserved
    obtain rfl : before = [] := hnone
    rw [hfollow] at hasked
    refine ⟨l.version, [], l.version.number - 1, ?_⟩
    rw [hasked]
    exact .start hends e.subtopic (checker.judge_ne_pending _ _)
  unknown _ _ _ := trivial
  learn {h v lastInvalid load loaded parts st st'} ho hat hv hvisit hyields hlength := by
    have hserved := (hyields.eq_served store.source_answers).symm
    obtain ⟨before, ⟨newest, batches, rest, ht⟩, hasked⟩ := ho.ended hvisit
    have hbatch := ht.batch_eq (r := ofStore store checker window) rfl hat hv
    have hrest : 0 < rest := by
      rw [← ht.eq_rest_of_at hat hv]
      exact v.one_le
    refine ⟨newest, batches ++ [block (width window) rest], rest - width window, ?_⟩
    rw [hasked, hs.follow_versions hserved, hbatch]
    refine ht.write hrest ((map_fst_entries (hbatch ▸ hlength))) ?_
    intro entry hentry
    obtain ⟨pair, -, rfl⟩ := List.mem_map.mp hentry
    exact checker.judge_ne_pending _ _
  refused _ _ _ _ _ := trivial
  miscounted _ _ _ _ _ _ := trivial

/-! ### What several searches keep of the log -/

/-- Searches for different structures ask for different things. -/
theorem apart_trace (hs : store.Faithful) (checker : Checker) (window : Int) :
    Apart (traceInvariant hs checker window) := by
  rintro e e' log _ hne ⟨new, rfl, hnew⟩
  show asked e'.id (log ++ new) = asked e'.id log
  rw [asked_append, asked_of_ne hne.symm hnew, List.append_nil]

/-- Searches for other structures do not ask for this one. -/
theorem asked_of_movedBy (hs : store.Faithful) {errands : List Errand} {id : StructureId}
    (hne : ∀ e ∈ errands, id ≠ e.id) {log log' : List Request}
    (h : MovedBy (traceInvariant hs checker window) errands log log') :
    asked id log' = asked id log := by
  induction h with
  | refl => rfl
  | tail _ hstep ih =>
    obtain ⟨e, he, new, rfl, hnew⟩ := hstep
    rw [asked_append, asked_of_ne (hne e he) hnew, List.append_nil]
    exact ih

/-- **Searches in a store ask for every version once.** -/
theorem ensures_resolveAll_traced (hs : store.Faithful) {errands : List Errand}
    (hids : (errands.map (·.id)).Nodup) {limit : Option Nat} (hlimit : limit ≠ some 0)
    (joins : Nat) {s : Session Loaded (List Request)} (htraced : s.Traced store (width window)) :
    Work.Ensures ((ofStore store checker window).resolveAll limit errands joins) s
      (fun outcomes rest => rest.Traced store (width window) ∧
        (∀ id, (∀ e ∈ errands, e.id ≠ id) → rest.cache.history? id = s.cache.history? id) ∧
        List.Forall₂ (fun e o => rest.cache.IsSettled e.id o) errands outcomes)
      (fun error _ => ∃ failure, error = .fetch failure) := by
  refine (ensures_resolveTogether (traceInvariant hs checker window)
    (apart_trace hs checker window) hids hlimit joins fun e _ => htraced e.id).mono ?_
    (fun _ _ hfails => hfails.1)
  rintro outcomes rest ⟨⟨-, hothers, hmoved⟩, hends⟩
  refine ⟨?_, hothers, hends.imp fun e o ⟨h, hh, _, hsettled⟩ => ⟨h, hh, hsettled⟩⟩
  intro id
  cases id using sought_or_not errands with
  | sought e he =>
    obtain ⟨o, -, h, hh, hrests, -⟩ := exists_right_of_forall₂ hends he
    rw [hh]
    exact hrests
  | other id hnot =>
    -- nothing else was asked for
    have hsame : asked id rest.remote = asked id s.remote :=
      asked_of_movedBy hs (fun e he => (hnot e he).symm) hmoved
    rw [hothers id hnot, hsame]
    exact htraced id

end Resolver

end ContentPack
