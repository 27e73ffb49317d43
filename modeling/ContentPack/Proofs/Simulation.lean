import ContentPack.Proofs.Errands
import ContentPack.Proofs.Outcome
import ContentPack.Proofs.Retry

/-!
# Runs that simulate each other

A piece of work simulates another one (`Work.Simulates`) if from sessions that belong together it
comes to the same value and leaves sessions that belong together, or is given up with the same
error, where all failures of requests count as one. A simulation may also forgive failures of
requests: then nothing is said about the second piece of work where the first one is given up with
one.

Work that is put together from work that simulates does so too. Which sessions belong together may
depend on whether the topic was found (`Assembler.Link`). So one assembler simulates another one if
its searches do (`Assembler.Simulates.resolve`). If sessions belong together by their caches alone,
these have to agree on the newest versions, and to belong together still when the same version of a
topic is dropped from both (`Cache.Matching`). An assembler also simulates itself, so a
run keeps what its searches keep of a session (`Assembler.Keeping.ensures_resolve`).
-/

namespace ContentPack

variable {α σ σ' β γ : Type}

/-- The same error, or two failures of requests. -/
def Error.Agrees (error error' : Error) : Prop :=
  error = error' ∨ (∃ failure, error = .fetch failure) ∧ ∃ failure, error' = .fetch failure

namespace Work

variable {E P Q R : Session α σ → Session α σ' → Prop} {forgiving : Prop}

/-- **The ends of two runs belong together.** -/
inductive EndTogether (E : Session α σ → Session α σ' → Prop) (forgiving : Prop)
    (Q : Session α σ → Session α σ' → Prop) :
    Except Error β × Session α σ → Except Error β × Session α σ' → Prop
  /-- Both come to the same value. -/
  | value {value : β} {rest : Session α σ} {rest' : Session α σ'} :
      Q rest rest' → EndTogether E forgiving Q (.ok value, rest) (.ok value, rest')
  /-- Both are given up with the same error. -/
  | error {error : Error} {rest : Session α σ} {rest' : Session α σ'} :
      E rest rest' → EndTogether E forgiving Q (.error error, rest) (.error error, rest')
  /-- Requests of both have failed. -/
  | failed {failure failure' : FetchFailure} {rest : Session α σ} {rest' : Session α σ'} :
      EndTogether E forgiving Q (.error (.fetch failure), rest) (.error (.fetch failure'), rest')
  /-- The failure of a request is forgiven. -/
  | forgiven {failure : FetchFailure} {rest : Session α σ}
      {result : Except Error β × Session α σ'} :
      forgiving → EndTogether E forgiving Q (.error (.fetch failure), rest) result

/-- **Work simulates other work**: from sessions that belong together both come to the same. -/
def Simulates (E : Session α σ → Session α σ' → Prop) (forgiving : Prop)
    (P Q : Session α σ → Session α σ' → Prop) (x : Work α σ β) (x' : Work α σ' β) : Prop :=
  ∀ s s', P s s' → EndTogether E forgiving Q (ExceptT.run x s) (ExceptT.run x' s')

theorem simulates_pure (value : β) :
    Simulates E forgiving P P (pure value : Work α σ β) (pure value : Work α σ' β) :=
  fun _ _ hsessions => .value hsessions

theorem simulates_throw (hE : ∀ {s s'}, P s s' → E s s') (error : Error) :
    Simulates E forgiving P Q (throw error : Work α σ β) (throw error : Work α σ' β) :=
  fun _ _ hsessions => .error (hE hsessions)

theorem Simulates.bind {x : Work α σ β} {x' : Work α σ' β} {f : β → Work α σ γ}
    {f' : β → Work α σ' γ} (hx : Simulates E forgiving P Q x x')
    (hf : ∀ value, Simulates E forgiving Q R (f value) (f' value)) :
    Simulates E forgiving P R (x >>= f) (x' >>= f') := by
  intro s s' hsessions
  have hrun := hx s s' hsessions
  rw [run_bind, run_bind]
  revert hrun
  generalize ExceptT.run x s = left
  generalize ExceptT.run x' s' = right
  intro hrun
  cases hrun with
  | value hrest => exact hf _ _ _ hrest
  | error hrest => exact .error hrest
  | failed => exact .failed
  | forgiven hforgiving => exact .forgiven hforgiving

/-- What is read off the session may differ, if that makes no difference. -/
theorem Simulates.get_bind {f : Session α σ → Work α σ β} {f' : Session α σ' → Work α σ' β}
    (hf : ∀ s s', P s s' → Simulates E forgiving P Q (f s) (f' s')) :
    Simulates E forgiving P Q (get >>= f) (get >>= f') := by
  intro s s' hsessions
  exact hf s s' hsessions s s' hsessions

theorem simulates_ofMisuse (hE : ∀ {s s'}, P s s' → E s s') (result : Except Misuse β) :
    Simulates E forgiving P P (ofMisuse result : Work α σ β) (ofMisuse result : Work α σ' β) := by
  cases result with
  | ok value => exact simulates_pure value
  | error what => exact simulates_throw hE _

/-- Work goes on with what is read off both caches. -/
theorem simulates_readCache_bind {read : Cache α → Except Misuse β} {f : β → Work α σ γ}
    {f' : β → Work α σ' γ} (hE : ∀ {s s'}, P s s' → E s s')
    (hread : ∀ s s', P s s' → read s.cache = read s'.cache)
    (hf : ∀ cache value, read cache = .ok value → Simulates E forgiving P Q (f value) (f' value)) :
    Simulates E forgiving P Q (readCache read >>= f) (readCache read >>= f') := by
  have hrun : ∀ {σ : Type} (s : Session α σ) (result : Except Misuse β),
      read s.cache = result →
        ExceptT.run (readCache read) s = ExceptT.run (ofMisuse result : Work α σ β) s := by
    rintro σ s _ rfl
    rfl
  intro s s' hsessions
  rw [run_bind, run_bind]
  cases hs : read s.cache with
  | error what =>
    rw [hrun s _ hs, hrun s' _ (hread _ _ hsessions ▸ hs)]
    exact .error (hE hsessions)
  | ok value =>
    rw [hrun s _ hs, hrun s' _ (hread _ _ hsessions ▸ hs)]
    exact hf _ value hs _ _ hsessions

/-- A change has the same effect on both caches, or it is refused by both. -/
theorem simulates_changeCache {change : Cache α → Except Misuse (Cache α)}
    (hE : ∀ {s s'}, P s s' → E s s')
    (hchange : ∀ s s', P s s' →
      (∃ next next', change s.cache = .ok next ∧ change s'.cache = .ok next' ∧
        Q { s with cache := next } { s' with cache := next' }) ∨
        ∃ what, change s.cache = .error what ∧ change s'.cache = .error what) :
    Simulates E forgiving P Q (changeCache change : Work α σ Unit)
      (changeCache change : Work α σ' Unit) := by
  intro s s' hsessions
  unfold changeCache
  show EndTogether E forgiving Q
    (ExceptT.run (ofMisuse (change s.cache) >>= fun cache =>
      modify fun session => { session with cache }) s)
    (ExceptT.run (ofMisuse (change s'.cache) >>= fun cache =>
      modify fun session => { session with cache }) s')
  rcases hchange _ _ hsessions with ⟨next, next', hnext, hnext', hrest⟩ | ⟨what, hwhat, hwhat'⟩
  · rw [hnext, hnext']
    exact .value hrest
  · rw [hwhat, hwhat']
    exact .error (hE hsessions)

/-! ### Outcomes -/

theorem Simulates.bindM {f : β → Work α σ (Outcome γ)} {f' : β → Work α σ' (Outcome γ)}
    (hf : ∀ value, Simulates E forgiving P P (f value) (f' value)) (o : Outcome β) :
    Simulates E forgiving P P (o.bindM f) (o.bindM f') := by
  cases o with
  | success value => exact hf value
  | _ => exact simulates_pure _

theorem Simulates.mapM {f : β → Work α σ γ} {f' : β → Work α σ' γ}
    (hf : ∀ value, Simulates E forgiving P P (f value) (f' value)) (o : Outcome β) :
    Simulates E forgiving P P (o.mapM f) (o.mapM f') := by
  refine .bindM ?_ o
  intro value
  show Simulates E forgiving P P (Outcome.success <$> f value) (Outcome.success <$> f' value)
  rw [map_eq_pure_bind, map_eq_pure_bind]
  exact (hf value).bind fun _ => simulates_pure _

theorem Simulates.reduceM {f : β → β → Work α σ β} {f' : β → β → Work α σ' β}
    (hf : ∀ left right, Simulates E forgiving P P (f left right) (f' left right))
    (others : List (Outcome β)) : ∀ first, Simulates E forgiving P P
      (Outcome.reduceM f first others) (Outcome.reduceM f' first others) := by
  unfold Outcome.reduceM
  induction others with
  | nil => exact fun first => simulates_pure first
  | cons next rest ih =>
    intro first
    rw [List.foldlM_cons, List.foldlM_cons]
    refine Simulates.bind ?_ ih
    have hmap : ∀ left right, Simulates E forgiving P P (Outcome.success <$> f left right)
        (Outcome.success <$> f' left right) := by
      intro left right
      rw [map_eq_pure_bind, map_eq_pure_bind]
      exact (hf left right).bind fun _ => simulates_pure _
    cases first <;> cases next
    case success.success left right => exact hmap left right
    all_goals exact simulates_pure _

end Work

open Work

/-! ### Sessions that belong together -/

/-- **Which sessions belong together** in runs for a topic. They agree on the newest versions once
the topic was found, and then that of the topic may be dropped from both. -/
structure Assembler.Link (σ σ' : Type) (topicId : String) where
  /-- Before the topic is found. -/
  Before : Session Loaded σ → Session Loaded σ' → Prop
  /-- Once it is found. -/
  After : Session Loaded σ → Session Loaded σ' → Prop
  /-- Where both runs are given up. -/
  Failed : Session Loaded σ → Session Loaded σ' → Prop
  /-- Failures of requests are forgiven. -/
  forgiving : Prop
  /-- A run may be given up at any time. -/
  failed : ∀ {s s'}, After s s' → Failed s s'
  /-- Attempts are counted. -/
  attempt : ∀ {s s'}, Before s s' →
    Before { s with attempts := s.attempts + 1 } { s' with attempts := s'.attempts + 1 }
  /-- Progress is reported. -/
  report : ∀ {s s'} event, After s s' →
    After { s with events := s.events ++ [event] } { s' with events := s'.events ++ [event] }
  /-- The same structures are tracked, with the same newest versions. -/
  newest : ∀ {s s'}, After s s' → ∀ id,
    (s.cache.history? id).map (·.newest) = (s'.cache.history? id).map (·.newest)
  /-- The newest version of the topic may be dropped from both. -/
  drop : ∀ {s s'} {h h' rest rest' : History Loaded}, After s s' →
    s.cache.history? (.topic topicId) = some h → s'.cache.history? (.topic topicId) = some h' →
    h.dropNewest? = some rest → h'.dropNewest? = some rest' →
    Before { s with cache := s.cache.withHistory (.topic topicId) rest }
      { s' with cache := s'.cache.withHistory (.topic topicId) rest' }

/-- The newest version of a structure is one of it. -/
theorem Cache.id_of_newest {cache : Cache α} {id : StructureId} {newest : Reference}
    (h : cache.newest id = .ok newest) : newest.id = id := by
  unfold Cache.newest at h
  cases hh : cache.history id with
  | error what =>
    rw [hh] at h
    cases h
  | ok history =>
    rw [hh] at h
    exact Except.ok.inj h ▸ rfl

namespace Assembler.Link

variable {topicId : String} {L : Link σ σ' topicId} {s : Session Loaded σ} {s' : Session Loaded σ'}
  {id : StructureId}

/-- Work simulates other work once the topic was found. -/
abbrev Keeps (L : Link σ σ' topicId) (x : Work Loaded σ β) (x' : Work Loaded σ' β) : Prop :=
  Work.Simulates L.Failed L.forgiving L.After L.After x x'

theorem keeps_report (event : Event) :
    L.Keeps (Work.report event : Work Loaded σ Unit) (Work.report event : Work Loaded σ' Unit) :=
  fun _ _ hsessions => .value (L.report event hsessions)

theorem exists_history? (hsessions : L.After s s') {h : History Loaded}
    (hh : s.cache.history? id = some h) :
    ∃ h', s'.cache.history? id = some h' ∧ h'.newest = h.newest := by
  have hnewest := L.newest hsessions id
  rw [hh, Option.map_some, eq_comm, Option.map_eq_some_iff] at hnewest
  exact hnewest

theorem history?_eq_none (hsessions : L.After s s') (hh : s.cache.history? id = none) :
    s'.cache.history? id = none := by
  have hnewest := L.newest hsessions id
  rw [hh, Option.map_none, eq_comm, Option.map_eq_none_iff] at hnewest
  exact hnewest

theorem versionCount_eq (hsessions : L.After s s') (id : StructureId) :
    s.cache.versionCount id = s'.cache.versionCount id := by
  unfold Cache.versionCount
  cases hh : s.cache.history? id with
  | none => rw [L.history?_eq_none hsessions hh]
  | some h =>
    obtain ⟨h', hh', hnewest⟩ := L.exists_history? hsessions hh
    rw [hh']
    exact (congrArg Version.number hnewest).symm

theorem newest_eq (hsessions : L.After s s') (id : StructureId) :
    s.cache.newest id = s'.cache.newest id := by
  cases hh : s.cache.history? id with
  | none =>
    unfold Cache.newest Cache.history
    rw [hh, L.history?_eq_none hsessions hh]
  | some h =>
    obtain ⟨h', hh', hnewest⟩ := L.exists_history? hsessions hh
    rw [Cache.newest_of_history? hh, Cache.newest_of_history? hh', hnewest]

/-- The newest version of the topic is dropped from both caches, or from none. -/
theorem simulates_invalidate (v : Version) :
    Work.Simulates L.Failed L.forgiving L.After L.Before
      (changeCache (·.invalidate ⟨.topic topicId, v⟩) : Work Loaded σ Unit)
      (changeCache (·.invalidate ⟨.topic topicId, v⟩) : Work Loaded σ' Unit) := by
  refine simulates_changeCache L.failed fun s s' hsessions => ?_
  cases hh : s.cache.history? (.topic topicId) with
  | none =>
    have hh' := L.history?_eq_none hsessions hh
    exact Or.inr ⟨_, Cache.invalidate_of_none hh v, Cache.invalidate_of_none hh' v⟩
  | some h =>
    obtain ⟨h', hh', hsame⟩ := L.exists_history? hsessions hh
    by_cases hv : h.newest = v
    · subst hv
      rw [← hsame]
      by_cases htwo : 2 ≤ h.newest.number
      · obtain ⟨rest, hrest, -⟩ := History.exists_dropNewest? htwo
        obtain ⟨rest', hrest', -⟩ := History.exists_dropNewest? (h := h') (by rwa [hsame])
        refine Or.inl ⟨_, _, ?_, Cache.invalidate_of_history? hh' hrest', L.drop hsessions hh hh'
          hrest hrest'⟩
        rw [hsame]
        exact Cache.invalidate_of_history? hh hrest
      · have hlast : ∀ {h₀ : History Loaded}, h₀.newest = h.newest → h₀.dropNewest? = none := by
          intro h₀ heq
          by_contra hsome
          obtain ⟨rest, hrest⟩ := Option.ne_none_iff_exists'.mp hsome
          have hnum := (History.of_dropNewest? hrest).1
          have hone := rest.one_le_newest
          rw [heq] at hnum
          omega
        refine Or.inr ⟨_, ?_, Cache.invalidate_of_last hh' (hlast hsame)⟩
        rw [hsame]
        exact Cache.invalidate_of_last hh (hlast rfl)
    · exact Or.inr ⟨_, Cache.invalidate_of_ne hh hv, Cache.invalidate_of_ne hh' (hsame ▸ hv)⟩

end Assembler.Link

/-! ### Assemblers -/

namespace Assembler

variable {topicId : String} {L : Link σ σ' topicId} {a : Assembler σ} {a' : Assembler σ'}

/-- **An assembler simulates another one**: its searches do. -/
structure Simulates (L : Link σ σ' topicId) (a : Assembler σ) (a' : Assembler σ') : Prop where
  /-- The topic is found by both, or by none. -/
  topic : Work.Simulates L.Failed L.forgiving L.Before L.After
    (a.resolver.resolve (.topic topicId)) (a'.resolver.resolve (.topic topicId))
  /-- Searches for different structures simulate each other. -/
  searches : ∀ {errands : List Errand}, (errands.map (·.id)).Nodup → ∀ joins,
    L.Keeps (a.resolver.resolveAll a.limit errands joins)
      (a'.resolver.resolveAll a'.limit errands joins)
  /-- A closure of skills may take the same number of rounds. -/
  maxRounds : a'.maxRounds = a.maxRounds

namespace Simulates

theorem loadPagesAndStories (h : Simulates L a a') (t : Topic) :
    L.Keeps (a.loadPagesAndStories t) (a'.loadPagesAndStories t) := by
  unfold Assembler.loadPagesAndStories
  refine (L.keeps_report _).bind fun _ => (L.keeps_report _).bind fun _ => ?_
  exact (h.searches (nodup_pageErrands_storyErrands t) 2).bind fun _ => simulates_pure _

theorem loadExplorations (h : Simulates L a a') (stories : Fragment) :
    L.Keeps (a.loadExplorations stories) (a'.loadExplorations stories) := by
  unfold Assembler.loadExplorations
  refine (L.keeps_report _).bind fun _ => ?_
  exact (h.searches (nodup_explorationErrands stories) 1).bind fun _ => simulates_pure _

/-- The rounds of a closure of skills simulate each other one by one. -/
theorem grow (h : Simulates L a a') (rounds left : Nat) :
    ∀ {current : List String}, current.Nodup →
      L.Keeps (SkillClosure.grow a.resolver a.limit rounds left current)
        (SkillClosure.grow a'.resolver a'.limit rounds left current) := by
  induction left with
  | zero => exact fun _ => simulates_throw L.failed _
  | succ left ih =>
    intro current hnodup
    have hround : L.Keeps (SkillClosure.round a.resolver a.limit current)
        (SkillClosure.round a'.resolver a'.limit current) := by
      unfold SkillClosure.round
      refine (L.keeps_report _).bind fun _ => ?_
      exact (h.searches (SkillClosure.nodup_errands hnodup) 1).bind fun _ => simulates_pure _
    unfold SkillClosure.grow
    refine hround.bind fun o => ?_
    cases o with
    | success skills =>
      show L.Keeps (if _ then _ else _) (if _ then _ else _)
      split
      · exact simulates_pure _
      · exact (L.keeps_report _).bind fun _ => ih SkillClosure.nodup_expand
    | _ => exact simulates_pure _

theorem loadSkills (h : Simulates L a a') (structures : List Loaded) :
    L.Keeps (a.loadSkills structures) (a'.loadSkills structures) := by
  unfold Assembler.loadSkills SkillClosure.resolve
  rw [h.maxRounds]
  exact (h.grow _ _ (nodup_eraseDups _)).bind fun _ => simulates_pure _

theorem loadFragments (h : Simulates L a a') (t : Topic) :
    L.Keeps (a.loadFragments t) (a'.loadFragments t) := by
  unfold Assembler.loadFragments
  refine (h.loadPagesAndStories t).bind fun groups => ?_
  refine (Work.Simulates.bindM h.loadExplorations groups.2).bind fun explorations => ?_
  refine Work.Simulates.bind ?_ fun skills => simulates_pure _
  unfold loadSkillsOf
  exact .bindM (fun _ => .bindM (fun _ => .bindM (fun _ => h.loadSkills _) _) _) _

theorem assemble (h : Simulates L a a') (t : Topic) :
    L.Keeps (a.assemble t) (a'.assemble t) := by
  unfold Assembler.assemble
  exact (h.loadFragments t).bind fun outcomes =>
    .reduceM (fun _ _ => simulates_ofMisuse L.failed _) outcomes _

/-- The topic is found, and the pack is put together. -/
theorem attempt (h : Simulates L a a') :
    Work.Simulates L.Failed L.forgiving L.Before L.After (a.attempt topicId)
      (a'.attempt topicId) := by
  unfold Assembler.attempt
  refine Work.Simulates.bind (fun _ _ hsessions => .value (L.attempt hsessions)) fun _ =>
    h.topic.bind fun topic => ?_
  refine (Work.Simulates.bindM h.assemble _).bind fun fragment => ?_
  exact .mapM (fun _ => simulates_ofMisuse L.failed _) fragment

/-- Versions are dropped and tried in the same order. -/
theorem retry (h : Simulates L a a') (left : Nat) :
    ∀ o, L.Keeps (a.retry topicId left o) (a'.retry topicId left o) := by
  induction left with
  | zero => exact fun o => simulates_pure o
  | succ left ih =>
    intro o
    cases o with
    | failure reasons =>
      unfold Assembler.retry
      refine (L.keeps_report _).bind fun _ => .get_bind fun s s' hsessions => ?_
      rw [L.versionCount_eq hsessions]
      split
      · exact simulates_pure _
      · refine simulates_readCache_bind L.failed
          (fun _ _ hsessions => L.newest_eq hsessions _) fun cache newest hnewest => ?_
        have hid : newest.id = .topic topicId := Cache.id_of_newest hnewest
        obtain ⟨_, v⟩ := newest
        subst hid
        exact (L.simulates_invalidate v).bind fun _ => h.attempt.bind ih
    | _ => exact simulates_pure _

theorem run (h : Simulates L a a') :
    Work.Simulates L.Failed L.forgiving L.Before L.After (a.run topicId) (a'.run topicId) := by
  unfold Assembler.run
  refine h.attempt.bind fun o => .get_bind fun s s' hsessions => ?_
  rw [L.versionCount_eq hsessions]
  exact h.retry _ o

/-- **Runs simulate each other** if their searches do. -/
theorem resolve (h : Simulates L a a') :
    Work.Simulates L.Failed L.forgiving L.Before L.After (a.resolve topicId)
      (a'.resolve topicId) := by
  unfold Assembler.resolve
  refine h.run.bind fun o => ?_
  cases packOf topicId o with
  | ok pack => exact simulates_pure pack
  | error error => exact simulates_throw L.failed error

end Simulates

end Assembler

/-! ### Caches that belong together -/

/-- **Caches that belong together** agree on the newest versions, and they still belong together
when the same version of a topic is dropped from both. -/
structure Cache.Matching (R : Cache α → Cache α → Prop) : Prop where
  /-- The same structures are tracked, with the same newest versions. -/
  newest : ∀ {cache cache' : Cache α}, R cache cache' → ∀ id,
    (cache.history? id).map (·.newest) = (cache'.history? id).map (·.newest)
  /-- The newest version of a topic may be dropped from both. -/
  drop : ∀ {cache cache' : Cache α} {topicId : String} {h h' rest rest' : History α},
    R cache cache' → cache.history? (.topic topicId) = some h →
      cache'.history? (.topic topicId) = some h' → h.dropNewest? = some rest →
      h'.dropNewest? = some rest' →
      R (cache.withHistory (.topic topicId) rest) (cache'.withHistory (.topic topicId) rest')

/-- Sessions belong together if their caches do. -/
def Session.Over (R : Cache α → Cache α → Prop) (s : Session α σ) (s' : Session α σ') : Prop :=
  R s.cache s'.cache

/-- Work simulates other work, whatever the caches are where both are given up. -/
def Work.SimulatesOver (R : Cache α → Cache α → Prop) (forgiving : Prop) (x : Work α σ β)
    (x' : Work α σ' β) : Prop :=
  Work.Simulates (fun _ _ => True) forgiving (Session.Over R) (Session.Over R) x x'

namespace Assembler

variable {R : Cache Loaded → Cache Loaded → Prop} {a : Assembler σ} {a' : Assembler σ'}

/-- Sessions that belong together by their caches alone. -/
def Link.ofMatching (hR : Cache.Matching R) (forgiving : Prop) (topicId : String) :
    Link σ σ' topicId where
  Before := Session.Over R
  After := Session.Over R
  Failed _ _ := True
  forgiving := forgiving
  failed _ := trivial
  attempt hsessions := hsessions
  report _ hsessions := hsessions
  newest hsessions := hR.newest hsessions
  drop hsessions := hR.drop hsessions

/-- **Runs simulate each other by their caches** if their searches do. -/
theorem simulatesOver_resolve (hR : Cache.Matching R) {forgiving : Prop}
    (hsearches : ∀ {errands : List Errand}, (errands.map (·.id)).Nodup →
      ∀ {limit limit' : Option Nat}, limit ≠ some 0 → limit' ≠ some 0 → ∀ joins,
        Work.SimulatesOver R forgiving (a.resolver.resolveAll limit errands joins)
          (a'.resolver.resolveAll limit' errands joins))
    (hmaxRounds : a'.maxRounds = a.maxRounds) (hlimit : a.limit ≠ some 0)
    (hlimit' : a'.limit ≠ some 0) (topicId : String) :
    Work.SimulatesOver R forgiving (a.resolve topicId) (a'.resolve topicId) := by
  have hsimulates : Simulates (.ofMatching hR forgiving topicId) a a' := {
    topic := by
      unfold Resolver.resolve
      refine (hsearches ?_ (by simp) (by simp) 0).bind fun _ => simulates_pure _
      exact List.nodup_singleton _
    searches := fun hids joins => hsearches hids hlimit hlimit' joins
    maxRounds := hmaxRounds }
  exact hsimulates.resolve

end Assembler

/-! ### What a run keeps -/

/-- The same session, of which something holds. -/
def Session.Same (P : Session α σ → Prop) (s s' : Session α σ) : Prop := s = s' ∧ P s

/-- Work simulates itself if it keeps what holds of a session. -/
theorem Work.simulates_same_iff {E P Q : Session α σ → Prop} {x : Work α σ β} :
    Simulates (Session.Same E) False (Session.Same P) (Session.Same Q) x x ↔
      ∀ s, P s → Ensures x s (fun _ rest => Q rest)
        (fun error rest => (∃ failure, error = .fetch failure) ∨ E rest) := by
  constructor
  · intro h s hs
    have hrun := h s s ⟨rfl, hs⟩
    unfold Ensures
    revert hrun
    rcases ExceptT.run x s with ⟨error | value, rest⟩
    · intro hrun
      cases hrun with
      | error hrest => exact Or.inr hrest.2
      | failed => exact Or.inl ⟨_, rfl⟩
      | forgiven hfalse => exact hfalse.elim
    · intro hrun
      cases hrun with
      | value hrest => exact hrest.2
  · rintro h s _ ⟨rfl, hs⟩
    rcases (h s hs).run with ⟨value, rest, hrun, hrest⟩ | ⟨error, rest, hrun, hcase⟩
    · rw [hrun]
      exact .value ⟨rfl, hrest⟩
    · rw [hrun]
      rcases hcase with ⟨failure, rfl⟩ | hrest
      · exact .failed
      · exact .error ⟨rfl, hrest⟩

namespace Assembler

/-- **What a run for a topic keeps of its session**: more of it holds once the topic was found, so
that its newest version may be dropped. -/
structure Keeping (σ : Type) (topicId : String) where
  /-- Before the topic is found. -/
  Before : Session Loaded σ → Prop
  /-- Once it is found. -/
  After : Session Loaded σ → Prop
  /-- Then what holds before still holds. -/
  before : ∀ {s}, After s → Before s
  /-- Attempts are counted. -/
  attempt : ∀ {s}, Before s → Before { s with attempts := s.attempts + 1 }
  /-- Progress is reported. -/
  report : ∀ {s} event, After s → After { s with events := s.events ++ [event] }
  /-- The newest version of the topic may be dropped. -/
  drop : ∀ {s} {h rest : History Loaded}, After s → s.cache.history? (.topic topicId) = some h →
    h.dropNewest? = some rest →
    Before { s with cache := s.cache.withHistory (.topic topicId) rest }

variable {topicId : String} (K : Keeping σ topicId) {a : Assembler σ}

/-- The run belongs together with itself. -/
def Keeping.link : Link σ σ topicId where
  Before := Session.Same K.Before
  After := Session.Same K.After
  Failed := Session.Same K.Before
  forgiving := False
  failed h := h.imp_right K.before
  attempt := by
    rintro s _ ⟨rfl, h⟩
    exact ⟨rfl, K.attempt h⟩
  report := by
    rintro s _ event ⟨rfl, h⟩
    exact ⟨rfl, K.report event h⟩
  newest := by
    rintro s _ ⟨rfl, -⟩ id
    rfl
  drop := by
    rintro s _ h h' rest rest' ⟨rfl, hs⟩ hh hh' hrest hrest'
    obtain rfl := Option.some.inj (hh.symm.trans hh')
    obtain rfl := Option.some.inj (hrest.symm.trans hrest')
    exact ⟨rfl, K.drop hs hh hrest⟩

/-- **A run keeps what its searches keep**, unless a request fails. -/
theorem Keeping.ensures_resolve
    (htopic : ∀ s, K.Before s → Ensures (a.resolver.resolve (.topic topicId)) s
      (fun _ rest => K.After rest)
      (fun error rest => (∃ failure, error = .fetch failure) ∨ K.Before rest))
    (hsearches : ∀ {errands : List Errand}, (errands.map (·.id)).Nodup → ∀ joins s, K.After s →
      Ensures (a.resolver.resolveAll a.limit errands joins) s (fun _ rest => K.After rest)
        (fun error rest => (∃ failure, error = .fetch failure) ∨ K.Before rest))
    {s : Session Loaded σ} (hs : K.Before s) :
    Ensures (a.resolve topicId) s (fun _ rest => K.After rest)
      (fun error rest => (∃ failure, error = .fetch failure) ∨ K.Before rest) := by
  have hsimulates : Simulates K.link a a := {
    topic := simulates_same_iff.mpr htopic
    searches := fun hids joins => simulates_same_iff.mpr (hsearches hids joins)
    maxRounds := rfl }
  exact simulates_same_iff.mp hsimulates.resolve s hs

end Assembler

end ContentPack
