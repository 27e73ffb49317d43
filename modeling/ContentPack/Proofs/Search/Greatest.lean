import ContentPack.Proofs.Interleaving
import ContentPack.Proofs.Changes
import ContentPack.Proofs.Search.Solo

/-!
# The greatest version that can be used

If a source serves the versions of a structure up to one (`Source.ServesUpTo`), a search for a
structure that is not tracked yet ends with the greatest of these versions that can be used, and
leaves the entries up to it; if none can be used, it ends with the failure of the oldest version and
leaves that entry only (`Resolver.Finds`). Then the search is over (`Resolver.IsOver`): every later
search for the structure gives the same outcome, leaves the session as it is and asks for nothing,
whatever was searched for in between.

That is `Resolver.resolve_finds_greatest`. The walk keeps a sound history (`servedInvariant`), and
where a sound history is settled, there is nothing to find above it.
-/

namespace ContentPack

variable {σ : Type}

/-! ### What is served -/

/-- **The versions of a structure up to one are served**, each as the version that it is. -/
structure Source.ServesUpTo (source : Source σ) (id : StructureId) (newest : Version)
    (content : Version → Loaded) : Prop where
  /-- The newest version is served when it is asked for. -/
  latest : ∀ result, source.Yields (.latest id.locator) result → result = .ok [content newest]
  /-- So are any versions up to it, in the order in which they are asked for. -/
  versions : ∀ (batch : List Version) result, (∀ v ∈ batch, v.number ≤ newest.number) →
    source.Yields (.versions id.locator (batch.map Version.toInt)) result →
    result = .ok (batch.map content)
  /-- What is served belongs to the structure. -/
  id_eq : ∀ v, v.number ≤ newest.number → (content v).id = id
  /-- It has the version that it is served as. -/
  version_eq : ∀ v, v.number ≤ newest.number → (content v).version = v

/-- A store that holds the versions of a structure up to one serves them. -/
theorem Store.HoldsUpTo.serves {store : Store} (hs : store.Faithful) {id : StructureId}
    {newest : Loaded} (h : store.HoldsUpTo id newest) {source : Source σ}
    (ha : source.Answers store) :
    source.ServesUpTo id newest.version fun v => (store.stored? id v).getD newest := by
  have hstored : ∀ v, v.number ≤ newest.version.number →
      store.stored? id v = some ((store.stored? id v).getD newest) := by
    intro v hv
    obtain ⟨l, hl⟩ := Option.ne_none_iff_exists'.mp (h.older v hv)
    rw [hl, Option.getD_some]
  refine ⟨?_, ?_, fun v hv => Store.Faithful.id_eq hs (hstored v hv),
    fun v hv => Store.Faithful.version_eq hs (hstored v hv)⟩
  · intro result hyields
    rw [h.stored]
    exact (hyields.eq_served ha).trans (h.served hs)
  · intro batch result hbatch hyields
    have hserved := hyields.eq_served ha
    cases result with
    | error failure =>
      obtain ⟨v, hv, hnone⟩ := Resolver.exists_none_of_served (e := { id }) hserved.symm
      exact absurd hnone (h.older v (hbatch v hv))
    | ok loaded =>
      have hall := Resolver.stored?_of_served (e := { id }) hserved.symm
      have hmap : loaded = batch.map fun v => (store.stored? id v).getD newest := by
        clear hserved hyields hbatch
        induction hall with
        | nil => rfl
        | cons hl _ ih => rw [List.map_cons, hl, Option.getD_some, ← ih]
      rw [hmap]

/-- What is true of versions up to one that are judged on their own. -/
def Facts.upTo (newest : Version) (judge : Version → Outcome Loaded) : Facts where
  verdict _ v := if v.number ≤ newest.number then some (judge v) else none
  Useless _ v := v.number ≤ newest.number → ∀ l, judge v ≠ .success l
  useless_of_none h hle := by simp [hle] at h
  useless_of_failure h hle l := by
    rw [if_pos hle] at h
    rw [Option.some.inj h]
    exact fun heq => by cases heq

/-- Versions that are loaded together are among those that are served. -/
theorem History.Sound.le_of_mem_batch {r : Resolver Loaded σ} {id : StructureId} {newest : Version}
    {judge : Version → Outcome Loaded} {h : History Loaded}
    (hsound : h.Sound (.upTo newest judge) id) {v : Version} {lastInvalid : Option Version}
    (hat : h.At v lastInvalid) :
    ∀ w ∈ r.batch h v, w.number ≤ newest.number := by
  intro w hw
  have hle := (History.of_mem_pendingRun hw).1
  have hle' := hat.le_newest
  obtain ⟨top, htop, hstored⟩ := hsound.stored
  by_contra hgt
  exact hstored (if_neg (by omega))

namespace Resolver

open Work

/-- A search for a structure whose versions up to one are served keeps a sound history, and does not
fail. -/
def servedInvariant {r : Resolver Loaded σ} {e : Errand} {newest : Version}
    {content : Version → Loaded} (hserves : r.source.ServesUpTo e.id newest content)
    (hdecided : ∀ l, r.judge e.subtopic l ≠ .pending) : SearchInvariant r e where
  Holds h := h.Sound (.upTo newest fun v => r.judge e.subtopic (content v)) e.id
  Opens := True
  Fails := False
  decided := hdecided
  trims hsound t := hsound.trims t
  start {l} _ hyields := by
    obtain rfl := List.singleton_inj.mp (Except.ok.inj (hserves.latest _ hyields))
    have hversion := hserves.version_eq newest (Nat.le_refl _)
    refine History.sound_start e.subtopic ?_ ?_
    · rw [hversion]
      exact if_pos (Nat.le_refl _)
    · intro v hv
      rw [hversion] at hv
      exact if_neg (Nat.not_le_of_lt hv)
  unknown _ hyields := by cases hserves.latest _ hyields
  learn := by
    intro h v lastInvalid loaded hsound hat _ hyields _
    obtain rfl := Except.ok.inj (hserves.versions _ _ (hsound.le_of_mem_batch hat) hyields)
    refine hsound.write ?_
    intro entry hentry
    unfold entries at hentry
    rw [← List.map_prod_left_eq_zip, List.map_map] at hentry
    obtain ⟨w, hw, rfl⟩ := List.mem_map.mp hentry
    exact if_pos (hsound.le_of_mem_batch hat w hw)
  refused := by
    intro h v lastInvalid failure hsound hat _ hyields
    cases hserves.versions _ _ (hsound.le_of_mem_batch hat) hyields
  miscounted := by
    intro h v lastInvalid loaded hsound hat _ hyields hlength
    obtain rfl := Except.ok.inj (hserves.versions _ _ (hsound.le_of_mem_batch hat) hyields)
    exact hlength (List.length_map _)

/-! ### Searches that are over -/

section Over

variable {α : Type} {r : Resolver α σ} {id : StructureId} {subtopic : Option Subtopic}
  {h : History α} {o : Outcome α} {s t : Session α σ}

/-- **A search is over in a cache**: whatever the source is and however it is asked, a search for
the structure has the outcome and leaves the session as it is. As the source may be any, it is not
asked. -/
def IsOver (judge : Option Subtopic → Loaded → Outcome α) (id : StructureId) (o : Outcome α)
    (cache : Cache α) : Prop :=
  ∀ {τ : Type} (source : Source τ) (window : Int) (subtopic : Option Subtopic) (s : Session α τ),
    s.cache = cache →
    ExceptT.run ({ source, judge, window : Resolver α τ }.resolve id subtopic) s = (.ok o, s)

/-- What a search for some structure leaves of a session, also if it is given up. -/
def Leaves (r : Resolver α σ) (s t : Session α σ) : Prop :=
  ∃ id subtopic, t = (ExceptT.run (r.resolve id subtopic) s).2

/-- A walk ends at once where a search has ended. -/
theorem glance_settled (hh : s.cache.history? id = some h) (hsettled : h.Settled o) :
    r.glance { id, subtopic } (.fresh, s) = (.ended o, s) := by
  have henter : Ensures (r.enter { id, subtopic }) s (fun walk rest => walk = .ended o ∧ rest = s)
      (fun _ _ => False) := by
    refine (ensures_enter hh).mono ?_ (fun _ _ hfalse => hfalse)
    rintro walk _ ⟨h', rfl, t, hhalts⟩
    obtain rfl := hsettled.eq_of_trims t
    exact ⟨hhalts.standing.eq_ended hsettled, s.withHistory_of_history? _ _ hh⟩
  obtain ⟨_, rest, hrun, rfl, hrest⟩ | ⟨_, _, -, hfalse⟩ := henter.run
  · show caught (r.begin { id, subtopic }) _ = _
    have hget : ExceptT.run (get : Work α σ (Session α σ)) s = (.ok s, s) := rfl
    unfold begin
    rw [caught_bind, hget]
    dsimp only
    rw [Cache.tracks_of_history? hh, if_pos rfl]
    unfold caught
    rw [hrun, hrest]
  · exact hfalse.elim

/-- So a search that has ended gives its outcome again, and changes nothing. -/
theorem run_resolve_settled (hdecided : ∀ subtopic l, r.judge subtopic l ≠ .pending)
    (hh : s.cache.history? id = some h) (hsettled : h.Settled o) :
    ExceptT.run (r.resolve id subtopic) s = (.ok o, s) := by
  have hpath : ∀ {k walk rest}, (r.glance { id, subtopic })^[k] (.fresh, s) = (walk, rest) →
      walk = .fresh ∨ (walk = .ended o ∧ rest = s) := by
    rintro (_ | k) walk rest hk
    · exact Or.inl (Prod.mk.inj hk).1.symm
    · rw [Function.iterate_succ_apply, glance_settled hh hsettled, iterate_glance_ended] at hk
      obtain ⟨rfl, rfl⟩ := Prod.mk.inj hk
      exact Or.inr ⟨rfl, rfl⟩
  have hsolo := ensures_resolve_solo (s := s)
    (W := (blankInvariant { id, subtopic } (hdecided subtopic)).toWalk) hdecided (fun _ => trivial)
    (SearchInvariant.Ready.rests ⟨fun _ _ => trivial, fun _ => trivial⟩ s.remote)
  obtain ⟨o', rest, hrun, -, -, k, hk⟩ | ⟨_, rest, -, -, -, -, k, load, start, hk, -⟩ := hsolo.run
  · obtain hfresh | ⟨hended, rfl⟩ := hpath hk
    · cases hfresh
    · cases hended
      exact hrun
  · obtain hfresh | ⟨hended, -⟩ := hpath hk
    · cases hfresh
    · cases hended

/-- Searches for other structures, and for this one, leave it as it is. -/
theorem Leaves.history? (hdecided : ∀ subtopic l, r.judge subtopic l ≠ .pending)
    (hleaves : r.Leaves s t) (hh : s.cache.history? id = some h) (hsettled : h.Settled o) :
    t.cache.history? id = some h := by
  obtain ⟨other, subtopic, rfl⟩ := hleaves
  by_cases hother : other = id
  · subst hother
    rw [run_resolve_settled hdecided hh hsettled]
    exact hh
  · let W := (blankInvariant (r := r) { id := other, subtopic } (hdecided subtopic)).toWalk
    have hrests : W.Rests (s.cache.history? other) s.remote :=
      SearchInvariant.Ready.rests ⟨fun _ _ => trivial, fun _ => trivial⟩ s.remote
    have hsolo := ensures_resolve_solo (W := W) hdecided (fun _ => trivial) hrests
    obtain ⟨_, rest, hrun, -, ⟨htouches, -⟩, -⟩ | ⟨_, rest, hrun, -, -, htouches, -⟩ := hsolo.run
    · rw [hrun]
      exact (htouches.history?_eq (Ne.symm hother)).trans hh
    · rw [hrun]
      exact (htouches.history?_eq (Ne.symm hother)).trans hh

/-- **Where a search has ended, it is over**, and so it is after any other searches. -/
theorem isOver_of_settled (hdecided : ∀ subtopic l, r.judge subtopic l ≠ .pending)
    (hh : s.cache.history? id = some h) (hsettled : h.Settled o)
    (hreaches : Relation.ReflTransGen r.Leaves s t) : IsOver r.judge id o t.cache := by
  have hkept : t.cache.history? id = some h := by
    induction hreaches with
    | refl => exact hh
    | tail _ hleaves ih => exact hleaves.history? hdecided ih hsettled
  intro τ source window subtopic s' hs'
  exact run_resolve_settled hdecided (by rw [hs', hkept]) hsettled

end Over

/-! ### What a search finds -/

/-- **What a search finds** among the versions of a structure up to one, and what it leaves of
them, given what the check says of each. -/
inductive Finds (verdict : Version → Verdict) (content : Version → Loaded) (newest : Version)
    (id : StructureId) (o : Outcome Loaded) (cache : Cache Loaded) : Prop
  /-- It finds the greatest version that can be used, and leaves the entries up to it. -/
  | greatest {k : Version} (le_newest : k.number ≤ newest.number)
      (compatible : verdict k = .compatible)
      (above : ∀ v, k.number < v.number → v.number ≤ newest.number → verdict v ≠ .compatible)
      (success : o = .success (content k)) (spans : cache.Spans id k.number)
      (entry : cache.get ⟨id, k⟩ = .ok o)
  /-- If there is none, it finds why the oldest one cannot be used, and leaves its entry only. -/
  | oldest (incompatible : ∀ v, v.number ≤ newest.number → verdict v ≠ .compatible)
      {reasons : List Rejection} (rejected : verdict .first = .incompatible reasons)
      (failure : o = .failure reasons) (spans : cache.Spans id 1)
      (entry : cache.get ⟨id, .first⟩ = .ok o)

/-- Where a sound history is settled, nothing can be found above. -/
theorem finds_of_settled {checker : Checker} {subtopic : Option Subtopic}
    {content : Version → Loaded} {newest : Version} {id : StructureId} {h : History Loaded}
    {o : Outcome Loaded} {cache : Cache Loaded} (hh : cache.history? id = some h)
    (hsound : h.Sound (.upTo newest fun v => checker.judge subtopic (content v)) id)
    (hsettled : h.Settled o) :
    Finds (fun v => checker.check subtopic (content v)) content newest id o cache := by
  have hspans := Cache.spans_of_history? hh
  have hentry := Cache.get_of_history? hh hsettled.newest
  have hverdict : (if h.newest.number ≤ newest.number then
      some (checker.judge subtopic (content h.newest)) else none) = some o :=
    hsound.verdict_eq hsettled.newest hsettled.ne_pending
  have habove : ∀ v, h.newest.number < v.number → v.number ≤ newest.number →
      checker.check subtopic (content v) ≠ .compatible := by
    intro v hv hle hcompatible
    exact hsound.above v hv hle _ (Checker.judge_eq_success_iff.mpr ⟨hcompatible, rfl⟩)
  by_cases hle : h.newest.number ≤ newest.number
  · rw [if_pos hle] at hverdict
    have hjudge := Option.some.inj hverdict
    rcases hsettled.last with ⟨l, rfl⟩ | ⟨hone, reasons, rfl⟩
    · obtain ⟨hcompatible, rfl⟩ := Checker.judge_eq_success_iff.mp hjudge
      exact .greatest hle hcompatible habove rfl hspans hentry
    · obtain hfirst : h.newest = .first := Version.ext hone
      rw [hfirst] at hjudge hentry habove
      rw [hone] at hspans
      have hrejected := Checker.judge_eq_failure_iff.mp hjudge
      refine .oldest ?_ hrejected rfl hspans hentry
      intro v hv
      rcases Nat.lt_or_eq_of_le v.one_le with hlt | heq
      · exact habove v hlt hv
      · obtain rfl : Version.first = v := Version.ext heq
        rw [hrejected]
        exact fun hcompatible => by cases hcompatible
  · rw [if_neg hle] at hverdict
    cases hverdict

/-- **The backward search finds the newest version that can be used.** Let the versions of a
structure up to one be served, and let it not be tracked. Whatever the checker and the window are, a
search gives the structure of the greatest version that can be used and leaves the entries up to
it; if there is none, it gives the failure of the oldest version and leaves its entry. Then the
search is over, whatever is searched for later. -/
theorem resolve_finds_greatest (source : Source σ) (checker : Checker) (window : Int)
    (id : StructureId) (subtopic : Option Subtopic) (newest : Version) (content : Version → Loaded)
    (hserves : source.ServesUpTo id newest content) (s : Session Loaded σ)
    (huntracked : s.cache.tracks id = false) :
    let r : Resolver Loaded σ := { source, judge := checker.judge, window }
    ∃ o rest, ExceptT.run (r.resolve id subtopic) s = (.ok o, rest) ∧
      Finds (fun v => checker.check subtopic (content v)) content newest id o rest.cache ∧
      ∀ later, Relation.ReflTransGen r.Leaves rest later →
        IsOver checker.judge id o later.cache := by
  intro r
  have hnone : s.cache.history? id = none := by
    unfold Cache.tracks at huntracked
    exact Option.not_isSome_iff_eq_none.mp (by rw [huntracked]; exact Bool.false_ne_true)
  let W := (servedInvariant (r := r) (e := { id, subtopic }) hserves
    (checker.judge_ne_pending subtopic)).toWalk
  have hrests : W.Rests (s.cache.history? id) s.remote := by
    rw [hnone]
    trivial
  have hsolo := ensures_resolve_solo (W := W) checker.judge_ne_pending (fun hfails => hfails) hrests
  obtain ⟨o, rest, hrun, ⟨h, hh, hsound, hstanding⟩, -, -⟩ | ⟨_, rest, -, -, hfails, -⟩ := hsolo.run
  · cases hstanding with
    | ended hsettled =>
      exact ⟨o, rest, hrun, finds_of_settled hh hsound hsettled, fun later hlater =>
        isOver_of_settled checker.judge_ne_pending hh hsettled hlater⟩
  · exact hfails.elim

end Resolver

/-! ### Five versions -/

namespace Ladder

/-- A version of a story. -/
def rung (v : Version) : Loaded := .story { id := "s", version := v }

/-- Five versions of the story. -/
def store : Store :=
  .ofContents ((List.range 5).map fun n => .story { id := "s", version := .after n }) []

/-- The checker that rejects the second, the fourth and the fifth version. -/
def checker : Checker := BlockedVersions.checker
  [{ kind := "story", id := "s", versions := some [2, 4, 5], reasons := ["blocked"] }]

theorem servesUpTo : store.source.ServesUpTo (.story "s") (.after 4) fun v =>
    (store.stored? (.story "s") v).getD (rung (.after 4)) := by
  have hs : store.Faithful := Store.faithful_ofContents ..
  have hholds : store.HoldsUpTo (.story "s") (rung (.after 4)) :=
    .of_keys hs (by decide +kernel) (by decide +kernel)
  exact hholds.serves hs store.source_answers

/-- **The third version is found**, and the second, which cannot be used, is left below it. -/
theorem finds_third :
    (Cache.empty : Cache Loaded).tracks (.story "s") = false ∧
      ∃ rest, ExceptT.run ((Resolver.ofStore store checker 2).resolve (.story "s"))
          { remote := [] } = (.ok (.success (rung (.after 2))), rest) ∧
        rest.cache.Spans (.story "s") 3 ∧
        Resolver.IsOver checker.judge (.story "s") (.success (rung (.after 2))) rest.cache := by
  refine ⟨rfl, ?_⟩
  obtain ⟨o, rest, hrun, hfinds, hover⟩ := Resolver.resolve_finds_greatest store.source checker 2
    (.story "s") none (.after 4) _ servesUpTo { remote := [] } rfl
  have houtcome : (ExceptT.run ((Resolver.ofStore store checker 2).resolve (.story "s"))
      { remote := [] }).1 = .ok (.success (rung (.after 2))) := by decide +kernel
  have ho : o = .success (rung (.after 2)) := by
    have hfirst : Except.ok o = .ok (.success (rung (.after 2))) :=
      (congrArg Prod.fst hrun).symm.trans houtcome
    exact Except.ok.inj hfirst
  subst ho
  refine ⟨rest, hrun, ?_, hover rest .refl⟩
  cases hfinds with
  | @greatest k le_newest _ _ success spans _ =>
    -- what is served has the version that it is served as
    have hversion := servesUpTo.version_eq k le_newest
    rw [← Outcome.success.inj success] at hversion
    rw [← hversion] at spans
    exact spans
  | oldest _ _ failure _ _ => cases failure

/-- The checker that rejects every version. -/
def strict : Checker := BlockedVersions.checker
  [{ kind := "story", id := "s", reasons := ["blocked"] }]

/-- If no version can be used, the oldest one says why, and no other is left. -/
example :
    let r := Resolver.ofStore store strict 2
    let done := ExceptT.run (r.resolve (.story "s")) { remote := [] }
    done.1 = .ok (strict.judge none (rung .first)) ∧
      done.2.cache.versionCount (.story "s") = 1 := by
  decide +kernel

end Ladder

end ContentPack
