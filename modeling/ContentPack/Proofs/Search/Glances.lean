import ContentPack.Proofs.Search.Path

/-!
# A walk, one look at a time

If answers come at once, a single visit looks at one load after another. `Resolver.glance` makes one
look and no more, so a path of glances passes every session in which a load is started. A visit is
some glances (`exists_glances_of_step`).

A load that fails, or that ends with another number of versions than its purpose needs, leaves the
session in which it was started as it was, but for the state of the source
(`exists_glances_of_missed`).
-/

namespace ContentPack

/-- The result of a load is of no use for its purpose: the load has failed, or there is another
number of versions than in the batch. -/
def Purpose.IsMissedBy (purpose : Purpose) : Except FetchFailure (List Loaded) → Prop
  | .error _ => True
  | .ok loaded =>
    match purpose with
    | .newest => False
    | .version _ _ batch | .oldest _ batch => loaded.length ≠ batch.length

/-- A load that has ended is not visited any more. -/
theorem Load.run_ended {σ : Type} (source : Source σ) (n : Nat)
    (result : Except FetchFailure (List Loaded)) (parts : List Part) (st : σ) :
    (ended result parts).run source n st = (ended result parts, st) := by
  cases n <;> rfl

/-- Any other load is visited. -/
theorem Load.run_succ {σ : Type} {source : Source σ} {load load' : Load} {st st' : σ}
    (hended : ∀ result parts, load ≠ .ended result parts)
    (hvisit : load.visit source st = (load', st')) (n : Nat) :
    load.run source (n + 1) st = load'.run source n st' := by
  have hrun : load.run source (n + 1) st =
      (load.visit source st).1.run source n (load.visit source st).2 := by
    cases load with
    | ended result parts => exact absurd rfl (hended result parts)
    | asking request slot => rfl
    | opening lag parts => rfl
    | joining lag parts => rfl
    | closing left result parts => rfl
  rw [hrun, hvisit]

namespace Resolver

variable {α σ : Type} {r : Resolver α σ} {e : Errand} {walk : Walk α} {s rest : Session α σ}
  {purpose : Purpose} {load : Load}

/-! ### Glances -/

/-- What is left of a walk and its session; an error ends the walk. -/
def caught (x : Work α σ (Walk α)) (s : Session α σ) : Walk α × Session α σ :=
  match ExceptT.run x s with
  | (.ok walk, rest) => (walk, rest)
  | (.error error, rest) => (.failed error (.ended (.ok []) []), rest)

/-- A walk starts, or it looks once at the load that it waits for. -/
def glance (r : Resolver α σ) (e : Errand) (p : Walk α × Session α σ) : Walk α × Session α σ :=
  match p.1 with
  | .fresh => caught (r.begin e) p.2
  | .loading purpose load => caught (r.look e purpose load pure) p.2
  | _ => p

theorem caught_bind {β : Type} (x : Work α σ β) (f : β → Work α σ (Walk α)) (s : Session α σ) :
    caught (x >>= f) s =
      match ExceptT.run x s with
      | (.ok value, rest) => caught (f value) rest
      | (.error error, rest) => (.failed error (.ended (.ok []) []), rest) := by
  unfold caught
  rw [Work.run_bind]
  rcases ExceptT.run x s with ⟨error | value, rest⟩ <;> rfl

/-- A walk that has ended stays where it is. -/
theorem iterate_glance_ended (o : Outcome α) (k : Nat) :
    (r.glance e)^[k] (.ended o, s) = (.ended o, s) :=
  Function.iterate_fixed rfl k

/-- So does one that has failed. -/
theorem iterate_glance_failed (error : Error) (k : Nat) :
    (r.glance e)^[k] (.failed error load, s) = (.failed error load, s) :=
  Function.iterate_fixed rfl k

/-! ### One look -/

/-- What a look does, with what is done after a load that ended well. -/
theorem caught_look (goOn : Walk α → Work α σ (Walk α)) :
    caught (r.look e purpose load goOn) s =
      match load.visit r.source s.remote with
      | (.ended (.ok loaded) _, remote) =>
        caught (r.resume e purpose loaded >>= goOn) { s with remote }
      | (.ended (.error failure) parts, remote) =>
        (.failed (.fetch failure) (.ended (.error failure) parts), { s with remote })
      | (load, remote) => (.loading purpose load, { s with remote }) := by
  have hask : ExceptT.run (Work.ask (load.visit r.source) : Work α σ Load) s =
      (.ok (load.visit r.source s.remote).1,
        { s with remote := (load.visit r.source s.remote).2 }) := rfl
  unfold look
  rw [caught_bind, hask]
  rcases load.visit r.source s.remote with ⟨load', remote⟩
  cases load' with
  | ended result parts => cases result <;> rfl
  | asking request slot => rfl
  | opening lag parts => rfl
  | joining lag parts => rfl
  | closing left result parts => rfl

/-- A load that has not ended is looked at again. -/
theorem glance_of_waits {load' : Load} {remote : σ}
    (hvisit : load.visit r.source s.remote = (load', remote))
    (hended : ∀ result parts, load' ≠ .ended result parts) :
    r.glance e (.loading purpose load, s) = (.loading purpose load', { s with remote }) := by
  show caught (r.look e purpose load pure) s = _
  rw [caught_look, hvisit]
  cases load' with
  | ended result parts => exact absurd rfl (hended result parts)
  | asking request slot => rfl
  | opening lag parts => rfl
  | joining lag parts => rfl
  | closing left result parts => rfl

/-- **A load that ends in vain** ends its walk, and nothing is written. -/
theorem glance_of_missed {result : Except FetchFailure (List Loaded)} {parts : List Part}
    {remote : σ} (hvisit : load.visit r.source s.remote = (.ended result parts, remote))
    (hmissed : purpose.IsMissedBy result) :
    ∃ failure left, r.glance e (.loading purpose load, s) =
      (.failed (.fetch failure) left, { s with remote }) := by
  have hstore : ∀ {batch : List Version} {loaded : List Loaded}, loaded.length ≠ batch.length →
      ExceptT.run (r.store e batch loaded) { s with remote } =
        (.error (.fetch (.wrongCount e.id batch.length loaded.length)), { s with remote }) := by
    intro batch loaded hlength
    unfold store
    rw [if_pos hlength]
    rfl
  show ∃ failure left, caught (r.look e purpose load pure) s = _
  rw [caught_look, hvisit]
  cases result with
  | error failure => exact ⟨failure, _, rfl⟩
  | ok loaded =>
    dsimp only
    cases purpose with
    | newest => exact hmissed.elim
    | version v lastInvalid batch =>
      refine ⟨.wrongCount e.id batch.length loaded.length, .ended (.ok []) [], ?_⟩
      unfold resume
      rw [bind_assoc, caught_bind, hstore hmissed]
    | oldest v batch =>
      refine ⟨.wrongCount e.id batch.length loaded.length, .ended (.ok []) [], ?_⟩
      unfold resume
      rw [bind_assoc, caught_bind, hstore hmissed]

/-! ### A load from its start to its end -/

/-- **A load that ends in vain leaves the session as it was**, but for the state of the source: no
version is written, tracked or dropped. -/
theorem exists_glances_of_missed {result : Except FetchFailure (List Loaded)} {parts : List Part}
    {remote : σ} (n : Nat) (hmissed : purpose.IsMissedBy result) :
    ∀ {load : Load} {s : Session α σ},
      load.run r.source n s.remote = (.ended result parts, remote) →
      ∃ k failure left, (r.glance e)^[k] (.loading purpose load, s) =
        (.failed (.fetch failure) left, { s with remote }) := by
  -- a look at a load that has ended is the last one
  have hlast : ∀ {s : Session α σ} {load : Load},
      load.visit r.source s.remote = (.ended result parts, remote) →
      ∃ k failure left, (r.glance e)^[k] (.loading purpose load, s) =
        (.failed (.fetch failure) left, { s with remote }) := by
    intro s load hvisit
    obtain ⟨failure, left, hglance⟩ := glance_of_missed (e := e) hvisit hmissed
    exact ⟨1, failure, left, hglance⟩
  induction n with
  | zero =>
    intro load s hrun
    obtain ⟨rfl, rfl⟩ := Prod.mk.inj hrun
    exact hlast rfl
  | succ n ih =>
    intro load s hrun
    by_cases hended : ∃ result' parts', load = .ended result' parts'
    · obtain ⟨result', parts', rfl⟩ := hended
      rw [Load.run_ended] at hrun
      obtain ⟨hload, rfl⟩ := Prod.mk.inj hrun
      exact hlast (congrArg (·, s.remote) hload)
    · have hended' : ∀ result' parts', load ≠ .ended result' parts' :=
        fun result' parts' heq => hended ⟨result', parts', heq⟩
      rcases hvisit : load.visit r.source s.remote with ⟨load', remote'⟩
      rw [Load.run_succ hended' hvisit] at hrun
      by_cases hnext : ∃ result' parts', load' = .ended result' parts'
      · obtain ⟨result', parts', rfl⟩ := hnext
        rw [Load.run_ended] at hrun
        exact hlast (hvisit.trans hrun)
      · have hnext' : ∀ result' parts', load' ≠ .ended result' parts' :=
          fun result' parts' heq => hnext ⟨result', parts', heq⟩
        obtain ⟨k, failure, left, hpath⟩ := ih (s := { s with remote := remote' }) hrun
        refine ⟨k + 1, failure, left, ?_⟩
        rw [Function.iterate_succ_apply, glance_of_waits hvisit hnext']
        exact hpath

/-! ### A visit is some glances -/

/-- Work that comes to where some glances lead to. -/
def IsGlances (r : Resolver α σ) (e : Errand) (walk : Walk α) (x : Work α σ (Walk α)) : Prop :=
  ∀ s, ∃ k, caught x s = (r.glance e)^[k] (walk, s)

theorem isGlances_pure (walk : Walk α) : IsGlances r e walk (pure walk) := fun _ => ⟨0, rfl⟩

theorem isGlances_look {goOn : Walk α → Work α σ (Walk α)}
    (hgoOn : ∀ walk, IsGlances r e walk (goOn walk)) :
    IsGlances r e (.loading purpose load) (r.look e purpose load goOn) := by
  intro s
  rcases hvisit : load.visit r.source s.remote with ⟨load', remote⟩
  by_cases hended : ∃ result parts, load' = .ended result parts
  · obtain ⟨failure | loaded, parts, rfl⟩ := hended
    · refine ⟨1, ?_⟩
      show _ = caught (r.look e purpose load pure) s
      rw [caught_look, caught_look, hvisit]
    · -- the load has ended well, and the walk goes on
      have hglance : r.glance e (.loading purpose load, s) =
          caught (r.resume e purpose loaded) { s with remote } := by
        show caught (r.look e purpose load pure) s = _
        rw [caught_look, hvisit]
        exact congrArg (caught · _) (bind_pure _)
      rw [caught_look, hvisit]
      dsimp only
      rw [caught_bind]
      rcases hrun : ExceptT.run (r.resume e purpose loaded) { s with remote } with
        ⟨error | next, rest⟩
      · refine ⟨1, ?_⟩
        show _ = r.glance e (.loading purpose load, s)
        rw [hglance, caught, hrun]
      · obtain ⟨k, hk⟩ := hgoOn next rest
        refine ⟨k + 1, ?_⟩
        rw [Function.iterate_succ_apply, hglance, caught, hrun]
        exact hk
  · have hended' : ∀ result parts, load' ≠ .ended result parts :=
      fun result parts heq => hended ⟨result, parts, heq⟩
    refine ⟨1, ?_⟩
    show _ = r.glance e (.loading purpose load, s)
    rw [glance_of_waits hvisit hended', caught_look, hvisit]
    cases load' with
    | ended result parts => exact absurd rfl (hended' result parts)
    | asking request slot => rfl
    | opening lag parts => rfl
    | joining lag parts => rfl
    | closing left result parts => rfl

theorem isGlances_pursue (n : Nat) (walk : Walk α) : IsGlances r e walk (r.pursue e n walk) := by
  induction n generalizing walk with
  | zero =>
    unfold pursue
    exact isGlances_pure walk
  | succ n ih =>
    cases walk with
    | loading purpose load =>
      unfold pursue
      exact isGlances_look ih
    | fresh => exact isGlances_pure _
    | failed error load => exact isGlances_pure _
    | ended o => exact isGlances_pure _

/-- A walk that has failed is not glanced at any more, but what it asked for goes on. -/
theorem isGlances_advance (hfailed : ∀ error load, walk ≠ .failed error load) :
    IsGlances r e walk (r.advance e walk) := by
  cases walk with
  | loading purpose load => exact isGlances_look fun walk => isGlances_pursue _ walk
  | failed error load => exact absurd rfl (hfailed error load)
  | fresh => exact isGlances_pure _
  | ended o => exact isGlances_pure _

/-- No walk fails when it starts. -/
theorem ne_failed_of_begin (hrun : ExceptT.run (r.begin e) s = (.ok walk, rest)) (error : Error)
    (load : Load) : walk ≠ .failed error load := by
  have hbegin : Work.Ensures (r.begin e) s (fun walk _ => walk ≠ .failed error load)
      (fun _ _ => True) := by
    unfold begin
    rw [Work.ensures_bind, Work.ensures_get]
    cases hh : s.cache.history? e.id with
    | none =>
      rw [Cache.tracks_of_none hh]
      exact fun heq => by cases heq
    | some h =>
      rw [Cache.tracks_of_history? hh]
      refine (ensures_enter hh).mono ?_ (fun _ _ _ => trivial)
      rintro walk' rest' ⟨h', -, -, hhalts⟩
      cases hhalts with
      | asks _ _ => exact fun heq => by cases heq
      | ended _ => exact fun heq => by cases heq
  unfold Work.Ensures at hbegin
  rw [hrun] at hbegin
  exact hbegin

/-- **A visit is some glances.** -/
theorem exists_glances_of_step (hfailed : ∀ error load, walk ≠ .failed error load)
    (s : Session α σ) : ∃ k, r.step e (walk, s) = (r.glance e)^[k] (walk, s) := by
  -- an error ends the walk in a visit, too
  have hcaught : ∀ x : Work α σ (Walk α),
      caught (tryCatch x fun error => return .failed error (.ended (.ok []) [])) s =
        caught x s := by
    intro x
    unfold caught
    rw [Work.run_tryCatch]
    rcases ExceptT.run x s with ⟨error | walk, rest⟩ <;> rfl
  have hadvance : ∀ {walk : Walk α}, r.step e (walk, s) = caught (r.advance e walk) s →
      (∀ error load, walk ≠ .failed error load) →
      ∃ k, r.step e (walk, s) = (r.glance e)^[k] (walk, s) := by
    intro walk hstep hfailed
    rw [hstep]
    exact isGlances_advance hfailed s
  cases walk with
  | fresh =>
    have hstep : r.step e (.fresh, s) = caught (r.begin e >>= r.advance e) s := hcaught _
    rw [hstep, caught_bind]
    rcases hrun : ExceptT.run (r.begin e) s with ⟨error | next, rest⟩
    · refine ⟨1, ?_⟩
      show _ = caught (r.begin e) s
      rw [caught, hrun]
    · obtain ⟨k, hk⟩ := isGlances_advance (r := r) (e := e) (ne_failed_of_begin hrun) rest
      refine ⟨k + 1, ?_⟩
      rw [Function.iterate_succ_apply]
      show caught (r.advance e next) rest = (r.glance e)^[k] (caught (r.begin e) s)
      rw [hk, caught, hrun]
  | loading purpose load => exact hadvance (hcaught (r.advance e (.loading purpose load))) hfailed
  | failed error load => exact absurd rfl (hfailed error load)
  | ended o => exact hadvance (hcaught (r.advance e (.ended o))) hfailed

end Resolver

end ContentPack
