import ContentPack.Proofs.Faults
import ContentPack.Proofs.Search.Visit

/-!
# What a search in a store finds out

A source that answers as a store serves what the store holds of a structure, or the store has a
gap. So if the verdicts on a structure are facts (`Resolver.Decides`), a search keeps a sound
history sound, and it fails only at a gap (`Resolver.factsInvariant`). If the newest version can be
used, nothing else is asked for, so a gap does no harm (`Resolver.newestInvariant`).
-/

namespace ContentPack

/-- What is true of the versions of structures that are judged on their own. -/
def Facts.ofJudge (store : Store) (judge : Loaded → Outcome Loaded) : Facts where
  verdict id v := (store.stored? id v).map judge
  Useless id v := ∀ l, (store.stored? id v).map judge ≠ some (.success l)
  useless_of_none h l := by
    rw [h]
    exact (Option.some_ne_none _).symm
  useless_of_failure h l := by
    rw [h]
    intro heq
    cases heq

namespace Resolver

/-! ### What is served is stored -/

theorem stored?_of_served {store : Store} {e : Errand} {batch : List Version}
    {loaded : List Loaded} (h : store.served (versionsRequest e batch) = .ok loaded) :
    List.Forall₂ (fun v l => store.stored? e.id v = some l) batch loaded := by
  rcases store.answer_versions e.id.locator batch with
    ⟨documents, hanswer, hdocuments⟩ | ⟨failure, hanswer, -⟩
  · have hserved := Load.served_of_answer hanswer
    unfold versionsRequest at h
    rw [hserved] at h
    rw [← Except.ok.inj h, Request.documents, List.forall₂_map_right_iff]
    refine hdocuments.imp ?_
    intro v d hd
    unfold Store.stored?
    rw [hd]
    rfl
  · unfold versionsRequest Store.served at h
    rw [hanswer] at h
    cases h

/-- A request for versions fails if one of them is missing. -/
theorem exists_none_of_served {store : Store} {e : Errand} {batch : List Version}
    {failure : FetchFailure} (h : store.served (versionsRequest e batch) = .error failure) :
    ∃ v ∈ batch, store.stored? e.id v = none := by
  rcases store.answer_versions e.id.locator batch with
    ⟨documents, hanswer, -⟩ | ⟨failure', -, v, hv, hnone⟩
  · unfold versionsRequest Store.served at h
    rw [hanswer] at h
    cases h
  · refine ⟨v, hv, ?_⟩
    unfold Store.stored?
    rw [hnone]
    rfl

/-- The request for the newest version fails if there is none. -/
theorem hasGap_of_served_latest {store : Store} {id : StructureId} {failure : FetchFailure}
    (h : store.served (.latest id.locator) = .error failure) : store.HasGap id := by
  left
  intro v
  by_contra hstored
  obtain ⟨l, hl⟩ := Option.ne_none_iff_exists'.mp hstored
  obtain ⟨d, hd, -⟩ := Option.map_eq_some_iff.mp hl
  obtain ⟨newest, hnewest⟩ := Store.exists_latest? hd
  unfold Store.served Store.answer at h
  simp only [hnewest] at h
  cases h

/-- The newest version is served alone. -/
theorem stored?_of_served_latest {store : Store} (hs : store.Faithful) {id : StructureId}
    {loaded : List Loaded} (h : store.served (.latest id.locator) = .ok loaded) :
    ∃ l, loaded = [l] ∧ store.stored? id l.version = some l ∧
      ∀ v, l.version.number < v.number → store.stored? id v = none := by
  cases hlatest : store.latest? id.locator with
  | none =>
    unfold Store.served Store.answer at h
    simp only [hlatest] at h
    cases h
  | some d =>
    obtain ⟨hd, hmax⟩ := hs.latest?_eq_some hlatest
    have hanswer : store.answer (.latest id.locator) = .ok d := by
      unfold Store.answer
      simp only [hlatest]
    rw [Load.served_of_answer hanswer] at h
    refine ⟨store.complete d, (Except.ok.inj h).symm, ?_, ?_⟩
    · rw [Store.version_complete]
      unfold Store.stored?
      rw [hd]
      rfl
    · intro v hv
      rw [Store.version_complete] at hv
      unfold Store.stored?
      rw [Option.map_eq_none_iff]
      by_contra hsome
      obtain ⟨e, he⟩ := Option.ne_none_iff_exists'.mp hsome
      exact absurd (hmax v e he) (not_le.mpr hv)

/-- A stored version that is the greatest one is the newest version that is served. -/
theorem served_latest_of_stored? {store : Store} (hs : store.Faithful) {id : StructureId}
    {l : Loaded} (hl : store.stored? id l.version = some l)
    (hmax : ∀ v, l.version.number < v.number → store.stored? id v = none) :
    store.served (.latest id.locator) = .ok [l] := by
  cases hserved : store.served (.latest id.locator) with
  | error failure =>
    obtain ⟨d, hd, -⟩ := Option.map_eq_some_iff.mp hl
    obtain ⟨newest, hnewest⟩ := Store.exists_latest? hd
    unfold Store.served Store.answer at hserved
    simp only [hnewest] at hserved
    cases hserved
  | ok loaded =>
    obtain ⟨l', rfl, hl', hmax'⟩ := stored?_of_served_latest hs hserved
    have hle : l'.version.number ≤ l.version.number := by
      by_contra hlt
      rw [hmax _ (not_le.mp hlt)] at hl'
      cases hl'
    have hge : l.version.number ≤ l'.version.number := by
      by_contra hlt
      rw [hmax' _ (not_le.mp hlt)] at hl
      cases hl
    rw [Version.ext (Nat.le_antisymm hle hge), hl] at hl'
    rw [Option.some.inj hl']

/-! ### What is served is a fact -/

variable {σ : Type} {F : Facts} {r : Resolver Loaded σ} {store : Store} {e : Errand}
  {h : History Loaded} {v : Version} {lastInvalid : Option Version}

/-- The verdicts on a structure are those on what the store holds of it. -/
def Decides (F : Facts) (store : Store) (r : Resolver Loaded σ) (e : Errand) : Prop :=
  ∀ v, F.verdict e.id v = (store.stored? e.id v).map (r.judge e.subtopic)

theorem verdict_of_mem_entries (hF : Decides F store r e) {batch : List Version}
    {loaded : List Loaded} (h : store.served (versionsRequest e batch) = .ok loaded)
    {entry : Version × Outcome Loaded} (hentry : entry ∈ entries r e batch loaded) :
    F.verdict e.id entry.1 = some entry.2 := by
  obtain ⟨⟨v, l⟩, hmem, rfl⟩ := List.mem_map.mp hentry
  have hstored := List.forall₂_zip (stored?_of_served h) hmem
  rw [hF, hstored]
  rfl

/-- What is tracked from the newest version is sound. -/
theorem sound_tracked (hs : store.Faithful) (hF : Decides F store r e) {l : Loaded}
    (h : store.served (.latest e.id.locator) = .ok [l]) : (r.tracked e l).Sound F e.id := by
  obtain ⟨_, heq, hl, hmax⟩ := stored?_of_served_latest hs h
  obtain rfl := List.singleton_inj.mp heq
  refine History.sound_start e.subtopic ?_ ?_
  · rw [hF, hl]
    rfl
  · -- nothing is stored above the newest version, so a history may start there
    intro v hv
    rw [hF, hmax v hv]
    rfl

/-- The versions that a walk needs are only missing if the store has a gap. -/
theorem hasGap_of_served_versions (hF : Decides F store r e) (hsound : h.Sound F e.id)
    (hat : h.At v lastInvalid) {failure : FetchFailure}
    (hserved : store.served (versionsRequest e (r.batch h v)) = .error failure) :
    store.HasGap e.id := by
  obtain ⟨w, hw, hnone⟩ := exists_none_of_served hserved
  obtain ⟨newest, hnewest, hverdict⟩ := hsound.stored
  have hle := (History.of_mem_pendingRun hw).1
  have hle' := hat.le_newest
  refine Or.inr ⟨w, newest, by omega, hnone, ?_⟩
  intro hnone'
  rw [hF, hnone'] at hverdict
  exact hverdict rfl

/-- **A search in a store keeps a history sound**, and fails only if the store has a gap. -/
def factsInvariant (F : Facts) (hs : store.Faithful) (ha : r.source.Answers store) (e : Errand)
    (hdecided : ∀ l, r.judge e.subtopic l ≠ .pending) : SearchInvariant r e where
  Holds h := Decides F store r e ∧ h.Sound F e.id
  Opens := Decides F store r e
  Fails := store.HasGap e.id
  decided := hdecided
  trims hholds t := ⟨hholds.1, hholds.2.trims t⟩
  start hF hyields := ⟨hF, sound_tracked hs hF (hyields.eq_served ha).symm⟩
  unknown _ hyields := hasGap_of_served_latest (hyields.eq_served ha).symm
  learn hholds _ _ hyields _ :=
    ⟨hholds.1, hholds.2.write fun _ => verdict_of_mem_entries hholds.1 (hyields.eq_served ha).symm⟩
  refused hholds hat _ hyields :=
    hasGap_of_served_versions hholds.1 hholds.2 hat (hyields.eq_served ha).symm
  miscounted _ _ _ hyields hlength :=
    absurd (stored?_of_served (hyields.eq_served ha).symm).length_eq.symm hlength

/-- **If the newest version can be used, the search ends there**, and nothing is asked for again. -/
def newestInvariant (ha : r.source.Answers store) (e : Errand)
    (hdecided : ∀ l, r.judge e.subtopic l ≠ .pending) : SearchInvariant r e where
  Holds h := ∀ l, store.served (.latest e.id.locator) = .ok [l] →
    ∀ l', r.judge e.subtopic l = .success l' → h.Settled (.success l')
  Opens := True
  Fails := ∀ l, store.served (.latest e.id.locator) = .ok [l] →
    ∀ l', r.judge e.subtopic l ≠ .success l'
  decided := hdecided
  trims hholds t l hserved l' hjudge := by
    have hsettled := hholds l hserved l' hjudge
    rwa [hsettled.eq_of_trims t]
  start {l} _ hyields l' hserved l'' hjudge := by
    obtain rfl : l = l' := List.singleton_inj.mp
      (Except.ok.inj ((hyields.eq_served ha).trans hserved))
    refine ⟨?_, Or.inl ⟨l'', rfl⟩⟩
    unfold tracked
    rw [hjudge, History.newest_start]
    exact History.get?_start_newest ..
  unknown _ hyields l hserved := by
    have heq := (hyields.eq_served ha).trans hserved
    cases heq
  learn hholds hat hv _ _ l hserved l' hjudge :=
    absurd hv ((hholds l hserved l' hjudge).not_at_pending hat)
  refused hholds hat hv _ l hserved l' hjudge :=
    absurd hv ((hholds l hserved l' hjudge).not_at_pending hat)
  miscounted hholds hat hv _ _ l hserved l' hjudge :=
    absurd hv ((hholds l hserved l' hjudge).not_at_pending hat)

end Resolver

end ContentPack
