import ContentPack.Proofs.Interleaving
import ContentPack.Proofs.Search.Course
import ContentPack.Proofs.Search.Solo

/-!
# A search that is tried again after failed requests

A request may fail in the middle of a search, when a version that cannot be used is still there, and
others are already dropped. What is known then leads to the same end as what was known before
(`Resolver.falteringInvariant`), since a load that is hit by a fault writes nothing. So a search
that is tried again until it is not given up finds what it would have found at once, and leaves the
same cache (`Resolver.insist_eq_resolve`). There is one fault less to come with every try, which
bounds the number of tries.
-/

namespace ContentPack

variable {α σ : Type} {store : Store} {faults : σ → Nat}

/-! ### Loads in spite of faults -/

/-- **A load goes on as it should**, with at most `n` faults to come, or it was hit by a fault, and
there are fewer to come. -/
def Load.Accounted (store : Store) (request : Request) (faults : σ → Nat) (n : Nat) (load : Load)
    (state : σ) : Prop :=
  (load.Serves store request ∧ faults state ≤ n) ∨ (load.IsDoomed request ∧ faults state < n)

theorem Load.Accounted.visit {source : Source σ} (hf : source.Falters store faults)
    {request : Request} {n : Nat} {load load' : Load} {state state' : σ}
    (h : load.Accounted store request faults n state)
    (hvisit : load.visit source state = (load', state')) :
    load'.Accounted store request faults n state' := by
  have hload : (load.visit source state).1 = load' := congrArg Prod.fst hvisit
  have hstate : (load.visit source state).2 = state' := congrArg Prod.snd hvisit
  rcases h with ⟨hserves, hle⟩ | ⟨hdoomed, hlt⟩
  · have hcounts := hserves.counts hf state
    rw [hload, hstate] at hcounts
    rcases hcounts with ⟨hserves', hle'⟩ | ⟨hdoomed', hlt'⟩
    · exact Or.inl ⟨hserves', Nat.le_trans hle' hle⟩
    · exact Or.inr ⟨hdoomed', Nat.lt_of_lt_of_le hlt' hle⟩
  · have hdoomed' := hdoomed.visit source state
    have hle := load.le_visit hf state
    rw [hload] at hdoomed'
    rw [hstate] at hle
    exact Or.inr ⟨hdoomed', Nat.lt_of_le_of_lt hle hlt⟩

namespace Resolver

variable {r : Resolver α σ} {e : Errand} {known : Option (History α)} {n : Nat}

/-! ### Searches in spite of faults -/

/-- **A search keeps where it leads to** in spite of `n` faults: a request fails only if there are
fewer faults to come, or if the search leads nowhere. -/
def falteringInvariant (hf : r.source.Falters store faults) (e : Errand)
    (hdecided : ∀ l, r.judge e.subtopic l ≠ .pending) (known : Option (History α)) (n : Nat) :
    WalkInvariant r e where
  Rests known' st := faults st ≤ n ∧ SameCourse r store e known known'
  Awaits known' request load st :=
    load.Accounted store request faults n st ∧ SameCourse r store e known known'
  Fails known' st := (faults st < n ∧ SameCourse r store e known known') ∨
    ∀ o last, ¬Arrives r store e known o last
  Moves _ _ := True
  Bears st st' := faults st' ≤ faults st
  decided := hdecided
  moves_refl _ := trivial
  moves_trans _ _ := trivial
  bears_rests hle h := ⟨Nat.le_trans hle h.1, h.2⟩
  bears_awaits := by
    rintro known' request load st st' hle ⟨⟨hserves, hn⟩ | ⟨hdoomed, hn⟩, hsame⟩
    · exact ⟨Or.inl ⟨hserves, Nat.le_trans hle hn⟩, hsame⟩
    · exact ⟨Or.inr ⟨hdoomed, Nat.lt_of_le_of_lt hle hn⟩, hsame⟩
  trims h t := ⟨h.1, h.2.trims t⟩
  opens h := ⟨Or.inl ⟨Load.serves_ask _ _ _, h.1⟩, h.2⟩
  asks h _ _ := ⟨Or.inl ⟨Load.serves_ask _ _ _, h.1⟩, h.2⟩
  looks _ := trivial
  waits h hvisit _ := ⟨h.1.visit hf hvisit, h.2⟩
  start := by
    rintro load l parts st st' ⟨haccounted, hsame⟩ hvisit -
    rcases haccounted.visit hf hvisit with ⟨hserves, hle⟩ | ⟨hfaulty, -⟩
    · exact ⟨hle, hsame.start hserves.symm⟩
    · exact hfaulty.elim
  unknown := by
    rintro load failure parts st st' ⟨haccounted, hsame⟩ hvisit -
    rcases haccounted.visit hf hvisit with ⟨hserves, -⟩ | ⟨-, hlt⟩
    · exact Or.inr fun o last => hsame.not_arrives_of_unknown hserves.symm
    · exact Or.inl ⟨hlt, hsame⟩
  learn := by
    rintro h v lastInvalid load loaded parts st st' ⟨haccounted, hsame⟩ hat hpending hvisit -
      hlength
    rcases haccounted.visit hf hvisit with ⟨hserves, hle⟩ | ⟨hfaulty, -⟩
    · exact ⟨hle, hsame.learn hat hpending hserves.symm hlength⟩
    · exact absurd (hlength.trans (List.length_map _).symm) hfaulty
  refused := by
    rintro h v lastInvalid load failure parts st st' ⟨haccounted, hsame⟩ hat hpending hvisit -
    rcases haccounted.visit hf hvisit with ⟨hserves, -⟩ | ⟨-, hlt⟩
    · have hserved : .error failure = store.served (versionsRequest e (r.batch h v)) := hserves
      refine Or.inr fun o last => hsame.not_arrives_of_refused hat hpending ?_
      intro loaded hloaded
      rw [← hserved] at hloaded
      cases hloaded
    · exact Or.inl ⟨hlt, hsame⟩
  miscounted := by
    rintro h v lastInvalid load loaded parts st st' ⟨haccounted, hsame⟩ hat hpending hvisit -
      hlength
    rcases haccounted.visit hf hvisit with ⟨hserves, -⟩ | ⟨-, hlt⟩
    · have hserved : .ok loaded = store.served (versionsRequest e (r.batch h v)) := hserves
      refine Or.inr fun o last => hsame.not_arrives_of_refused hat hpending ?_
      intro loaded' hloaded
      rw [← hserved] at hloaded
      exact Except.ok.inj hloaded ▸ hlength
    · exact Or.inl ⟨hlt, hsame⟩

theorem lingers_falteringInvariant {hf : r.source.Falters store faults}
    {hdecided : ∀ l, r.judge e.subtopic l ≠ .pending} :
    (falteringInvariant hf e hdecided known n).Lingers := by
  rintro known' load st (⟨hlt, hsame⟩ | hnone)
  · exact Or.inl ⟨Nat.lt_of_le_of_lt (load.le_linger hf st) hlt, hsame⟩
  · exact Or.inr hnone

section Insist

variable {id : StructureId} {subtopic : Option Subtopic} {s : Session α σ}

/-- **A search in spite of faults** ends where it leads to, or there is one fault less to come. -/
theorem ensures_resolve_faltering (hf : r.source.Falters store faults)
    (hdecided : ∀ subtopic l, r.judge subtopic l ≠ .pending)
    (hsame : SameCourse r store { id, subtopic } known (s.cache.history? id))
    (hn : faults s.remote ≤ n)
    (harrives : ∃ o last, Arrives r store { id, subtopic } known o last) :
    Work.Ensures (r.resolve id subtopic) s
      (fun o rest => Touches id s.cache rest.cache ∧
        ∃ last, rest.cache.history? id = some last ∧
          Arrives r store { id, subtopic } known o last)
      (fun error rest => (∃ failure, error = .fetch failure) ∧ Touches id s.cache rest.cache ∧
        faults rest.remote < n ∧
        SameCourse r store { id, subtopic } known (rest.cache.history? id)) := by
  have hlingers : (falteringInvariant hf { id, subtopic } (hdecided subtopic) known n).Lingers :=
    lingers_falteringInvariant
  refine (ensures_resolve_solo hdecided hlingers ⟨hn, hsame⟩).mono ?_ ?_
  · rintro o rest ⟨⟨last, hlast, ⟨-, hsame'⟩, hstanding⟩, haffects, -⟩
    cases hstanding with
    | ended hsettled =>
      exact ⟨haffects.touches, last, hlast, (hsame' o last).mpr (.settled hsettled)⟩
  · rintro error rest ⟨hfetch, hlt | hnone, htouches, -⟩
    · exact ⟨hfetch, htouches, hlt⟩
    · obtain ⟨o, last, hfound⟩ := harrives
      exact absurd hfound (hnone o last)

/-- Search again after a failed request, at most a number of times. -/
def insist (r : Resolver α σ) (id : StructureId) (subtopic : Option Subtopic) :
    Nat → Work α σ (Outcome α)
  | 0 => r.resolve id subtopic
  | n + 1 => tryCatch (r.resolve id subtopic) fun
    | .fetch _ => r.insist id subtopic n
    | error => throw error

/-- **A search that is tried again ends where it leads to**, if there are as many tries as
faults. -/
theorem ensures_insist (hf : r.source.Falters store faults)
    (hdecided : ∀ subtopic l, r.judge subtopic l ≠ .pending) {cache : Cache α}
    (harrives : ∃ o last, Arrives r store { id, subtopic } known o last) (n : Nat) :
    ∀ {s : Session α σ}, Touches id cache s.cache →
      SameCourse r store { id, subtopic } known (s.cache.history? id) → faults s.remote ≤ n →
      Work.Ensures (r.insist id subtopic n) s
        (fun o rest => Touches id cache rest.cache ∧
          ∃ last, rest.cache.history? id = some last ∧
            Arrives r store { id, subtopic } known o last)
        (fun _ _ => False) := by
  induction n with
  | zero =>
    intro s htouches hsame hn
    refine (ensures_resolve_faltering hf hdecided hsame hn harrives).mono ?_ ?_
    · exact fun o rest h => ⟨htouches.trans h.1, h.2⟩
    · exact fun error rest h => Nat.not_lt_zero _ h.2.2.1
  | succ n ih =>
    intro s htouches hsame hn
    unfold insist
    rw [Work.ensures_tryCatch]
    refine (ensures_resolve_faltering hf hdecided hsame hn harrives).mono ?_ ?_
    · exact fun o rest h => ⟨htouches.trans h.1, h.2⟩
    · rintro _ rest ⟨⟨failure, rfl⟩, htouches', hlt, hsame'⟩
      exact ih (htouches.trans htouches') hsame' (Nat.le_of_lt_succ hlt)

/-- A structure of which nothing was known has the history that is left of it. -/
theorem Touches.eq_withHistory {cache cache' : Cache α} {last : History α}
    (h : Touches id cache cache') (hnone : cache.history? id = none)
    (hlast : cache'.history? id = some last) : cache' = cache.withHistory id last := by
  rcases h with rfl | ⟨h, rfl, -⟩
  · rw [hnone] at hlast
    cases hlast
  · rw [Cache.history?_withHistory_self] at hlast
    rw [Option.some.inj hlast]

/-- **A call in which a load ends in vain is given up**, and it leaves the session as it was when
that load was started, but for the state of the source. -/
theorem resolve_of_missed (hdecided : ∀ subtopic l, r.judge subtopic l ≠ .pending) {k n : Nat}
    {purpose : Purpose} {request : Request} {start : Session α σ}
    {result : Except FetchFailure (List Loaded)} {parts : List Part} {st : σ}
    (hpath : (r.glance { id, subtopic })^[k] (.fresh, s) =
      (.loading purpose (Load.ask r.source.delays request), start))
    (hrun : (Load.ask r.source.delays request).run r.source n start.remote =
      (.ended result parts, st)) (hmissed : purpose.IsMissedBy result) :
    ∃ failure rest, ExceptT.run (r.resolve id subtopic) s = (.error (.fetch failure), rest) ∧
      rest = { start with remote := rest.remote } := by
  obtain ⟨j, failure, left, hfailed⟩ :=
    exists_glances_of_missed (e := { id, subtopic }) n hmissed hrun
  have hend : (r.glance { id, subtopic })^[j + k] (.fresh, s) =
      (.failed (.fetch failure) left, { start with remote := st }) := by
    rw [Function.iterate_add_apply, hpath, hfailed]
  -- the path of the walk has one end
  have hsame : ∀ (k' : Nat) (p : Walk α × Session α σ),
      (r.glance { id, subtopic })^[k'] (.fresh, s) = p →
      (r.glance { id, subtopic })^[j + k] p = p →
      p = (.failed (.fetch failure) left, { start with remote := st }) := by
    rintro k' p rfl hfixed
    rw [← hfixed, ← Function.iterate_add_apply, Nat.add_comm, Function.iterate_add_apply, hend,
      iterate_glance_failed]
  have hlingers : ((blankInvariant { id, subtopic } (hdecided subtopic)).toWalk).Lingers :=
    fun h => h
  have hready : (blankInvariant { id, subtopic } (hdecided subtopic)).Ready s.cache :=
    ⟨fun _ _ => trivial, fun _ => trivial⟩
  rcases (ensures_resolve_solo hdecided hlingers (hready.rests s.remote)).run with
    ⟨o, rest, -, -, -, k', hpath'⟩ |
    ⟨error, rest, hresolve, -, -, -, k', load, start', hpath', hrest⟩
  · have heq := hsame k' _ hpath' (iterate_glance_ended o _)
    cases (Prod.mk.inj heq).1
  · obtain ⟨hwalk, rfl⟩ := Prod.mk.inj (hsame k' _ hpath' (iterate_glance_failed error _))
    obtain ⟨rfl, -⟩ := Walk.failed.inj hwalk
    exact ⟨failure, rest, hresolve, hrest⟩

end Insist

end Resolver

/-! ### Faults make no difference -/

/-- A search for a structure that is stored leads somewhere. -/
theorem Store.HoldsUpTo.exists_arrives {id : StructureId} {newest : Loaded}
    (h : store.HoldsUpTo id newest) (hs : store.Faithful) (checker : Checker) (window : Int)
    (subtopic : Option Subtopic) :
    ∃ o last, Resolver.Arrives (.ofStore store checker window) store { id, subtopic } none o
      last := by
  obtain ⟨-, o, rest, -, hrun⟩ := h.exists_path hs checker window subtopic []
  have hcourse := Resolver.ensures_resolve_course (r := .ofStore store checker window)
    store.source_answers checker.judge_ne_pending { id, subtopic } { remote := [] }
  unfold Work.Ensures at hcourse
  rw [hrun] at hcourse
  obtain ⟨last, -, harrives⟩ := (List.forall₂_cons.mp hcourse.ends).1
  exact ⟨o, last, harrives⟩

namespace Resolver

/-- **Failed requests never corrupt a search.** A call in which a load ends in vain is given up and
leaves the session as it was when that load was started, but for the state of the source; and calls
that are made until one is not given up find what a search without faults finds, with the same
cache. -/
theorem insist_eq_resolve (documents : List Document) (translations : List Translation)
    (checker : Checker) (window : Int) (id : StructureId) (subtopic : Option Subtopic)
    (newest : Loaded) (h : (Store.ofContents documents translations).HoldsUpTo id newest)
    (source : Source σ) (faults : σ → Nat)
    (hf : source.Falters (.ofContents documents translations) faults) :
    let r : Resolver Loaded σ := { source, judge := checker.judge, window }
    (∀ (s start : Session Loaded σ) (k n : Nat) (purpose : Purpose) (request : Request)
        (result : Except FetchFailure (List Loaded)) (parts : List Part) (st : σ),
      (r.glance { id, subtopic })^[k] (.fresh, s) =
        (.loading purpose (Load.ask source.delays request), start) →
      (Load.ask source.delays request).run source n start.remote = (.ended result parts, st) →
      purpose.IsMissedBy result →
      ∃ failure rest, ExceptT.run (r.resolve id subtopic) s = (.error (.fetch failure), rest) ∧
        rest = { start with remote := rest.remote }) ∧
    ∀ remote, ∃ o once rest,
      ExceptT.run ((Resolver.ofStore (.ofContents documents translations) checker window).resolve
        id subtopic) { remote := [] } = (.ok o, once) ∧
      ExceptT.run (r.insist id subtopic (faults remote)) { remote } = (.ok o, rest) ∧
      rest.cache = once.cache := by
  intro r
  have hs := Store.faithful_ofContents documents translations
  obtain ⟨o, last, harrives⟩ := h.exists_arrives hs checker window subtopic
  refine ⟨?_, fun remote => ?_⟩
  · intro s start k n purpose request result parts st hpath hrun hmissed
    exact resolve_of_missed checker.judge_ne_pending hpath hrun hmissed
  -- both searches start from nothing, and they lead to the same end
  have hjudge : r.judge =
      (ofStore (.ofContents documents translations) checker window).judge := rfl
  have harrives' : Arrives r (.ofContents documents translations) { id, subtopic } none o last :=
    harrives.congr hjudge rfl rfl rfl
  have honce := ensures_resolve_faltering
    (r := .ofStore (.ofContents documents translations) checker window) (s := { remote := [] })
    (Store.source_answers _).falters checker.judge_ne_pending (fun _ _ => Iff.rfl)
    (Nat.le_refl 0) ⟨o, last, harrives⟩
  have hinsist := ensures_insist (r := r) (s := { remote }) hf checker.judge_ne_pending
    ⟨o, last, harrives'⟩ (faults remote) (Or.inl rfl) (fun _ _ => Iff.rfl) (Nat.le_refl _)
  rcases honce.run with ⟨o₁, once, hrun₁, htouches₁, last₁, hlast₁, hfound₁⟩ |
    ⟨error, rest, -, -, -, hlt, -⟩
  · rcases hinsist.run with ⟨o₂, rest, hrun₂, htouches₂, last₂, hlast₂, hfound₂⟩ |
      ⟨error, rest, -, hfalse⟩
    · obtain ⟨rfl, rfl⟩ := hfound₁.unique harrives
      obtain ⟨rfl, rfl⟩ := hfound₂.unique harrives'
      refine ⟨_, once, rest, hrun₁, hrun₂, ?_⟩
      rw [htouches₁.eq_withHistory rfl hlast₁, htouches₂.eq_withHistory rfl hlast₂]
    · exact hfalse.elim
  · exact absurd hlt (Nat.not_lt_zero _)

end Resolver

/-! ### A source with mishaps -/

/-- What may happen to a call. -/
inductive Mishap where
  /-- It fails. -/
  | refusal
  /-- No version comes, if some are asked for; otherwise the call fails. -/
  | shortage

/-- The answer to a call that a mishap happens to. -/
def Mishap.answer (mishap : Mishap) (r : Request) : r.Answer :=
  match mishap, r with
  | .shortage, .versions _ (_ :: _) => .ok []
  | _, _ => .error (.invalidJson "")

/-- The store as a source with mishaps, in the order of the calls; for most calls there is none. -/
def Store.troubled (s : Store) : Source (List (Option Mishap)) where
  delays := 0
  poll _ calls := (none, calls)
  settle r calls := match calls with
    | some mishap :: rest => (mishap.answer r, rest)
    | none :: rest => (s.answer r, rest)
    | [] => (s.answer r, [])

theorem Mishap.isFault_answer (mishap : Mishap) (r : Request) : r.IsFault (mishap.answer r) := by
  unfold Mishap.answer
  split
  · exact Nat.succ_ne_zero _ ∘ Eq.symm
  · exact trivial

theorem Store.troubled_falters (s : Store) :
    s.troubled.Falters s fun calls => (calls.filterMap id).length where
  waits _ _ _ := Nat.le_refl _
  poll _ _ _ hanswer := by cases hanswer
  settle r calls := by
    match calls with
    | some mishap :: rest => exact Or.inr ⟨mishap.isFault_answer r, Nat.lt_succ_self _⟩
    | none :: rest => exact Or.inl ⟨rfl, Nat.le_refl _⟩
    | [] => exact Or.inl ⟨rfl, Nat.le_refl _⟩

namespace Troubled

/-- An exploration with three versions. -/
def documents : List Document :=
  [0, 1, 2].map fun n => .exploration { id := "x", version := .after n }

/-- The checker that rejects the two newer versions. -/
def checker : Checker := BlockedVersions.checker
  [{ kind := "exploration", id := "x", versions := some [2, 3], reasons := ["blocked"] }]

/-- A version with its translations. -/
def version (v : Version) : Loaded :=
  (Store.ofContents documents []).complete (.exploration { id := "x", version := v })

theorem holdsUpTo :
    (Store.ofContents documents []).HoldsUpTo (.exploration "x") (version (.after 2)) :=
  .of_keys (Store.faithful_ofContents ..) (by decide +kernel) (by decide +kernel)

/-- The first call fails. Of the two older versions that are asked for together, a translation
fails, and then none of them comes. -/
def calls : List (Option Mishap) :=
  let languages := Language.supported.map fun _ => none
  [some .refusal, none] ++ languages ++ [none] ++ languages ++ [some .refusal] ++
    languages.dropLast ++ [some .shortage]

/-- The resolver that asks for two versions together. -/
def resolver : Resolver Loaded (List (Option Mishap)) :=
  { source := (Store.ofContents documents []).troubled, judge := checker.judge, window := 2 }

/-- **Four calls find the oldest version**: the first of them tracks nothing, and the next two do
not get past the older versions. -/
theorem insist_troubled :
    (Store.ofContents documents []).HoldsUpTo (.exploration "x") (version (.after 2)) ∧
      (Store.ofContents documents []).troubled.Falters (.ofContents documents [])
        (fun calls => (calls.filterMap id).length) ∧
      (∃ failure rest, ExceptT.run (resolver.resolve (.exploration "x")) { remote := calls } =
        (.error (.fetch failure), rest) ∧ rest.cache = .empty) ∧
      (ExceptT.run (resolver.insist (.exploration "x") none 2) { remote := calls }).1 =
        .error (.fetch (.wrongCount (.exploration "x") 2 0)) ∧
      ∃ once rest,
        ExceptT.run ((Resolver.ofStore (.ofContents documents []) checker 2).resolve
          (.exploration "x")) { remote := [] } = (.ok (.success (version .first)), once) ∧
        ExceptT.run (resolver.insist (.exploration "x") none 3) { remote := calls } =
          (.ok (.success (version .first)), rest) ∧
        rest.cache = once.cache := by
  obtain ⟨hmissed, hinsist⟩ := Resolver.insist_eq_resolve documents [] checker 2 (.exploration "x")
    none _ holdsUpTo _ _ (Store.troubled_falters _)
  refine ⟨holdsUpTo, Store.troubled_falters _, ?_, by decide +kernel, ?_⟩
  · -- the first load of the first call is that of the newest version
    obtain ⟨failure, rest, hrun, hrest⟩ :=
      hmissed { remote := calls } { remote := calls } 1 1 .newest _ _ _ _ rfl rfl trivial
    exact ⟨failure, rest, hrun, by rw [hrest]⟩
  · obtain ⟨o, once, rest, honce, hrun, hcache⟩ := hinsist calls
    have ho : (ExceptT.run (resolver.insist (.exploration "x") none 3) { remote := calls }).1 =
        .ok (.success (version .first)) := by decide +kernel
    have heq : Except.ok o = Except.ok (.success (version .first)) :=
      (congrArg Prod.fst hrun).symm.trans ho
    obtain rfl := Except.ok.inj heq
    exact ⟨once, rest, honce, hrun, hcache⟩

end Troubled

end ContentPack
