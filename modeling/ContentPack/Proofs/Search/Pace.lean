import ContentPack.Proofs.Load
import ContentPack.Proofs.Work

/-!
# How long a search takes

`Walk.Learns` and `Walk.Within` bound the visits after which a walk knows the newest version, and
those after which it has ended. They do not depend on what others do to the session: whatever a walk
finds in the cache and whatever the source answers, it only goes down. It has the versions below it
to load, and then the last resort. So every visit brings a walk closer to its end, in any session
(`Resolver.ensures_visit_nearer`).
-/

namespace ContentPack

variable {α σ β γ : Type}

namespace Work

/-- **What the work may return** in any session, if it returns. -/
def Returns (P : β → Prop) (x : Work α σ β) : Prop :=
  ∀ s, Ensures x s (fun value _ => P value) (fun _ _ => True)

variable {P Q : β → Prop} {x : Work α σ β}

theorem returns_true (x : Work α σ β) : Returns (fun _ => True) x := ensures_true x

theorem returns_pure {value : β} (h : P value) : Returns P (pure value : Work α σ β) := fun _ => h

theorem returns_throw (error : Error) : Returns P (throw error : Work α σ β) := fun _ => trivial

theorem Returns.mono (hx : Returns P x) (h : ∀ value, P value → Q value) : Returns Q x :=
  fun s => (hx s).mono (fun value _ => h value) (fun _ _ => id)

theorem Returns.bind {f : β → Work α σ γ} {Q : γ → Prop} (hx : Returns P x)
    (hf : ∀ value, P value → Returns Q (f value)) : Returns Q (x >>= f) := by
  intro s
  rw [ensures_bind]
  exact (hx s).mono (fun value rest hvalue => hf value hvalue rest) (fun _ _ => id)

/-- What follows may not depend on what is returned first. -/
theorem Returns.after {f : β → Work α σ γ} {Q : γ → Prop} (hf : ∀ value, Returns Q (f value)) :
    Returns Q (x >>= f) :=
  (returns_true x).bind fun value _ => hf value

end Work

/-! ### Visits to go -/

namespace Walk

variable {source : Source σ} {walk walk' walk'' : Walk α}

/-- The walk has not ended. -/
def IsUnderWay : Walk α → Prop
  | failed _ _ | ended _ => False
  | _ => True

/-- After `k` visits the walk knows the newest version. -/
def Learns (source : Source σ) : Walk α → Nat → Prop
  | fresh, k => Load.visits source ≤ k
  | loading .newest load, k => 1 ≤ k ∧ load.Within source k
  | _, _ => True

/-- After `k` visits the walk has ended: every version from there on down may need a load, and so
may the last resort. -/
def Within (source : Source σ) : Walk α → Nat → Prop
  | loading (.version v _ _) load, k =>
    ∃ j, 1 ≤ j ∧ load.Within source j ∧ v.number * Load.visits source + j ≤ k
  | loading (.oldest _ _) load, k => 1 ≤ k ∧ load.Within source k
  | ended _, _ => True
  | failed _ _, _ => True
  | _, _ => False

theorem Learns.mono {k k' : Nat} (h : walk.Learns source k) (hk : k ≤ k') :
    walk.Learns source k' := by
  unfold Learns at h ⊢
  split at h
  · exact Nat.le_trans h hk
  · exact ⟨Nat.le_trans h.1 hk, h.2.mono hk⟩
  · exact trivial

/-- A walk whose end is near knows the newest version. -/
theorem Within.learns {k : Nat} (h : walk.Within source k) (j : Nat) : walk.Learns source j := by
  cases walk with
  | fresh => exact h.elim
  | loading purpose load =>
    cases purpose with
    | newest => exact h.elim
    | version v lastInvalid batch => exact trivial
    | oldest v batch => exact trivial
  | failed error load => exact trivial
  | ended o => exact trivial

theorem Within.mono {k k' : Nat} (h : walk.Within source k) (hk : k ≤ k') :
    walk.Within source k' := by
  unfold Within at h ⊢
  split at h
  · obtain ⟨j, hj, hload, hle⟩ := h
    exact ⟨j, hj, hload, Nat.le_trans hle hk⟩
  · exact ⟨Nat.le_trans h.1 hk, h.2.mono hk⟩
  · exact trivial
  · exact trivial
  · exact h.elim

/-- Without visits to go, a walk has ended. -/
theorem not_isUnderWay_of_within_zero (h : walk.Within source 0) : ¬walk.IsUnderWay := by
  unfold Within at h
  split at h
  · obtain ⟨j, hj, -, hle⟩ := h
    omega
  · exact absurd h.1 (Nat.not_succ_le_zero 0)
  · exact id
  · exact id
  · exact h.elim

/-- What a walk that needs a version has to do is less than it has loads left for. -/
theorem within_loadsLeft {v : Version} {lastInvalid : Option Version} {batch : List Version}
    {load : Load} (h : load.Within source (Load.visits source)) :
    Within (α := α) source (.loading (.version v lastInvalid batch) load)
      (loadsLeft (α := α) (.loading (.version v lastInvalid batch) load) *
        Load.visits source) :=
  ⟨Load.visits source, Load.one_le_visits source, h, Nat.le_of_eq (Nat.succ_mul _ _).symm⟩

/-! ### Walks that come closer to their ends -/

/-- **A walk that has begun**: it waits for a load that visits have come to, or it has failed, or it
has ended with an outcome. -/
def HasBegun (source : Source σ) : Walk α → Prop
  | fresh => False
  | loading _ load => ∃ request, load.Reached source request
  | failed _ _ => True
  | ended o => o ≠ .pending

/-- **A walk that has an end ahead**, after at most `k` visits. -/
structure Ends (source : Source σ) (k : Nat) (walk : Walk α) : Prop where
  /-- It has begun. -/
  begun : walk.HasBegun source
  /-- It has no more visits to go. -/
  within : walk.Within source k

/-- **A walk has come closer to its end** by a number of visits. -/
structure Nearer (source : Source σ) (n : Nat) (walk walk' : Walk α) : Prop where
  /-- It has begun. -/
  begun : walk'.HasBegun source
  /-- It is closer to knowing the newest version. -/
  learns : ∀ k, walk.Learns source (k + n) → walk'.Learns source k
  /-- It is closer to its end. -/
  within : ∀ k, walk.Within source (k + n) → walk'.Within source k

theorem Ends.mono {k k' : Nat} (h : walk.Ends source k) (hk : k ≤ k') : walk.Ends source k' :=
  ⟨h.begun, h.within.mono hk⟩

/-- A walk learns the newest version in time, also if it has not started. -/
theorem learns_visits (h : walk = fresh ∨ walk.HasBegun source) :
    walk.Learns source (Load.visits source) := by
  obtain rfl | hbegun := h
  · exact Nat.le_refl _
  · cases walk with
    | fresh => exact hbegun.elim
    | loading purpose load =>
      obtain ⟨request, hreached⟩ := hbegun
      cases purpose with
      | newest => exact ⟨Load.one_le_visits _, hreached.within⟩
      | version v lastInvalid batch => exact trivial
      | oldest v batch => exact trivial
    | failed error load => exact trivial
    | ended o => exact trivial

/-- Once it knows the newest version, it ends in time. -/
theorem within_of_learns_zero (h : walk = fresh ∨ walk.HasBegun source)
    (hlearns : walk.Learns source 0) :
    walk.Within source (walk.loadsLeft * Load.visits source) := by
  obtain rfl | hbegun := h
  · exact absurd hlearns (Nat.not_le_of_lt (Load.one_le_visits _))
  · cases walk with
    | fresh => exact hbegun.elim
    | loading purpose load =>
      obtain ⟨request, hreached⟩ := hbegun
      cases purpose with
      | newest => exact absurd hlearns.1 (Nat.not_succ_le_zero 0)
      | version v lastInvalid batch => exact within_loadsLeft hreached.within
      | oldest v batch =>
        show 1 ≤ 1 * _ ∧ load.Within source (1 * _)
        rw [Nat.one_mul]
        exact ⟨Load.one_le_visits _, hreached.within⟩
    | failed error load => exact trivial
    | ended o => exact trivial

theorem Nearer.refl (h : walk.HasBegun source) : walk.Nearer source 0 walk :=
  ⟨h, fun _ => id, fun _ => id⟩

theorem Nearer.trans {m n : Nat} (h : walk.Nearer source m walk')
    (h' : walk'.Nearer source n walk'') : walk.Nearer source (n + m) walk'' where
  begun := h'.begun
  learns k hk := h'.learns k (h.learns _ (by rwa [Nat.add_assoc]))
  within k hk := h'.within k (h.within _ (by rwa [Nat.add_assoc]))

theorem Nearer.of_succ {n : Nat} (h : walk.Nearer source (n + 1) walk') :
    walk.Nearer source n walk' where
  begun := h.begun
  learns k hk := h.learns k (hk.mono (Nat.le_succ _))
  within k hk := h.within k (hk.mono (Nat.le_succ _))

/-- A walk that has failed or ended has no visits to go. -/
theorem nearer_failed (n : Nat) (error : Error) (load : Load) :
    walk.Nearer source n (.failed error load) :=
  ⟨trivial, fun _ _ => trivial, fun _ _ => trivial⟩

theorem nearer_ended (n : Nat) {o : Outcome α} (ho : o ≠ .pending) :
    walk.Nearer source n (.ended o) :=
  ⟨ho, fun _ _ => trivial, fun _ _ => trivial⟩

end Walk

namespace Resolver

open Work

variable {r : Resolver α σ} {e : Errand} {v : Version} {k : Nat} {s : Session α σ}

/-! ### Down the versions -/

/-- The load of a version that the walk has come to. -/
theorem returns_loadVersion (lastInvalid : Option Version)
    (hk : (v.number + 1) * Load.visits r.source ≤ k) :
    Returns (Walk.Ends r.source k) (r.loadVersion e v (.version v lastInvalid)) := by
  unfold loadVersion
  refine .after fun batch => returns_pure ⟨⟨_, .ask⟩, ?_⟩
  exact (Walk.within_loadsLeft (Load.within_ask _ _)).mono hk

/-- The last resort is one more load at most. -/
theorem returns_resort (hk : Load.visits r.source ≤ k) :
    Returns (Walk.Ends r.source k) (r.resort e) := by
  unfold resort loadVersion
  refine .after fun oldest => .after fun o => ?_
  split
  · refine .after fun batch => returns_pure ⟨⟨_, .ask⟩, ?_⟩
    exact ⟨Nat.le_trans (Load.one_le_visits _) hk, (Load.within_ask _ _).mono hk⟩
  · rename_i hpending
    exact returns_pure ⟨hpending, trivial⟩

theorem returns_conclude {lastInvalid : Option Version} {o : Outcome α}
    {below : Work α σ (Walk α)} (ho : o ≠ .pending)
    (hbelow : Returns (Walk.Ends r.source k) below) :
    Returns (Walk.Ends r.source k) (conclude e lastInvalid o below) := by
  have hend : Returns (Walk.Ends r.source k) (if o.isSuccess then return .ended o else below) := by
    split
    · exact returns_pure ⟨ho, trivial⟩
    · exact hbelow
  unfold conclude
  cases lastInvalid with
  | none => exact hend
  | some above => exact .after fun _ => hend

theorem returns_arrive {lastInvalid : Option Version} {below : Work α σ (Walk α)}
    (hk : (v.number + 1) * Load.visits r.source ≤ k)
    (hbelow : Returns (Walk.Ends r.source k) below) :
    Returns (Walk.Ends r.source k) (r.arrive e v lastInvalid below) := by
  unfold arrive
  refine .after fun o => ?_
  split
  · exact returns_loadVersion lastInvalid hk
  · rename_i hpending
    exact returns_conclude hpending hbelow

/-- **A walk goes down**, and it never comes to the same version again. -/
theorem returns_descend (n : Nat) :
    ∀ lastInvalid, Returns (Walk.Ends r.source ((n + 2) * Load.visits r.source))
      (r.descend e n lastInvalid) := by
  induction n with
  | zero =>
    refine fun lastInvalid => returns_arrive (Nat.le_refl _) (returns_resort ?_)
    exact Nat.le_mul_of_pos_left _ (by omega)
  | succ n ih =>
    refine fun lastInvalid => returns_arrive (Nat.le_refl _) ((ih _).mono fun walk hends => ?_)
    exact hends.mono (Nat.mul_le_mul_right _ (by omega))

theorem returns_below (v : Version) :
    Returns (Walk.Ends r.source (v.number * Load.visits r.source)) (r.below e v) := by
  obtain ⟨n, rfl⟩ : ∃ n, v = .after n :=
    ⟨v.number - 1, Version.ext (Nat.sub_add_cancel v.one_le).symm⟩
  unfold below
  cases n with
  | zero =>
    rw [Version.previous?_after_zero]
    exact returns_resort (Nat.le_mul_of_pos_left _ Nat.one_pos)
  | succ n =>
    rw [Version.previous?_after_succ]
    exact returns_descend n _

theorem returns_enter : Returns (fun walk => ∃ k, Walk.Ends r.source k walk) (r.enter e) := by
  unfold enter
  exact .after fun newest => (returns_descend _ none).mono fun walk hends => ⟨_, hends⟩

/-! ### One visit -/

/-- What is read after a load has ended is no outcome if it is pending. -/
theorem returns_loadedOutcome (v : Version) :
    Returns (· ≠ .pending) (loadedOutcome e v : Work α σ (Outcome α)) := by
  unfold loadedOutcome
  refine .after fun o => ?_
  split
  · exact returns_throw _
  · rename_i hpending
    exact returns_pure hpending

/-- **What a walk goes on to once a load has ended** takes fewer visits than what it had to go. -/
theorem returns_resume (purpose : Purpose) (load : Load) (loaded : List Loaded) :
    Returns (Walk.Nearer r.source 1 (.loading purpose load)) (r.resume e purpose loaded) := by
  unfold resume
  cases purpose with
  | newest =>
    refine .after fun _ => returns_enter.mono ?_
    rintro walk ⟨k, hends⟩
    exact ⟨hends.begun, fun j _ => hends.within.learns j, fun _ hwithin => hwithin.elim⟩
  | version v lastInvalid batch =>
    refine .after fun _ => (returns_loadedOutcome v).bind fun o ho => ?_
    refine (returns_conclude ho (returns_below v)).mono fun walk hends => ?_
    refine ⟨hends.begun, fun j _ => hends.within.learns j, ?_⟩
    rintro k ⟨j, hj, -, hle⟩
    exact hends.within.mono (by omega)
  | oldest v batch =>
    exact .after fun _ => (returns_loadedOutcome v).bind fun o ho =>
      returns_pure (Walk.nearer_ended 1 ho)

/-- A load that is looked at still waits, or it has ended with something that the source yields. -/
theorem ensures_look {request : Request} {purpose : Purpose} {load : Load}
    {goOn : Walk α → Work α σ (Walk α)} {Q : Walk α → Session α σ → Prop}
    {E : Error → Session α σ → Prop} (hreached : load.Reached r.source request)
    (hwait : ∀ load' remote, load.visit r.source s.remote = (load', remote) →
      (∀ result parts, load' ≠ .ended result parts) → load'.Reached r.source request →
      (∀ k, load.Within r.source (k + 1) → load'.Within r.source k) →
      (∀ k, load'.Within r.source k → 1 ≤ k) →
      Q (.loading purpose load') { s with remote })
    (hfail : ∀ failure parts remote,
      load.visit r.source s.remote = (.ended (.error failure) parts, remote) →
      r.source.Yields request (.error failure) →
      Q (.failed (.fetch failure) (.ended (.error failure) parts)) { s with remote })
    (hgo : ∀ loaded parts remote,
      load.visit r.source s.remote = (.ended (.ok loaded) parts, remote) →
      r.source.Yields request (.ok loaded) →
      Ensures (r.resume e purpose loaded >>= goOn) { s with remote } Q E) :
    Ensures (r.look e purpose load goOn) s Q E := by
  have hreached' := hreached.visit s.remote
  have hwithin : ∀ k, load.Within r.source (k + 1) →
      (load.visit r.source s.remote).1.Within r.source k := fun k h => h.visit s.remote
  unfold look
  rw [ensures_bind, ensures_ask]
  rcases hvisit : load.visit r.source s.remote with ⟨load', remote⟩
  rw [hvisit] at hreached' hwithin
  dsimp only at hreached' hwithin ⊢
  -- a load that has not ended has visits to go
  have hpositive : (∀ result parts, load' ≠ .ended result parts) →
      ∀ k, load'.Within r.source k → 1 ≤ k := by
    intro hended k hk
    cases k with
    | zero =>
      obtain ⟨result, parts, heq⟩ := Load.exists_ended_of_within_zero hk
      exact absurd heq (hended result parts)
    | succ k => omega
  split
  · exact hgo _ _ _ hvisit ⟨_, hreached'⟩
  · exact hfail _ _ _ hvisit ⟨_, hreached'⟩
  · rename_i hok herror
    have hended : ∀ result parts, load' ≠ .ended result parts := by
      rintro (failure | loaded) parts rfl
      · exact herror failure parts rfl
      · exact hok loaded parts rfl
    exact hwait _ _ hvisit hended hreached' hwithin (hpositive hended)

/-- A look at a load brings it closer to its end, or it has ended. -/
theorem returns_look {purpose : Purpose} {load : Load} {goOn : Walk α → Work α σ (Walk α)}
    (hbegun : (Walk.loading purpose load : Walk α).HasBegun r.source)
    (hgoOn : ∀ walk, walk.HasBegun r.source → Returns (Walk.Nearer r.source 0 walk) (goOn walk)) :
    Returns (Walk.Nearer r.source 1 (.loading purpose load)) (r.look e purpose load goOn) := by
  obtain ⟨request, hreached⟩ := hbegun
  intro s
  refine ensures_look hreached ?_ ?_ ?_
  · intro load' remote _ _ hreached' hnext hpositive
    refine ⟨⟨request, hreached'⟩, ?_, ?_⟩
    · intro k hlearns
      cases purpose with
      | newest => exact ⟨hpositive k (hnext k hlearns.2), hnext k hlearns.2⟩
      | version v lastInvalid batch => exact trivial
      | oldest v batch => exact trivial
    · intro k hwithin
      cases purpose with
      | newest => exact hwithin.elim
      | version v lastInvalid batch =>
        obtain ⟨j, hj, hload, hle⟩ := hwithin
        have hload' : load'.Within r.source (j - 1) := hnext _ (by rwa [Nat.sub_add_cancel hj])
        exact ⟨j - 1, hpositive _ hload', hload', by omega⟩
      | oldest v batch => exact ⟨hpositive k (hnext k hwithin.2), hnext k hwithin.2⟩
  · exact fun failure parts remote _ _ => Walk.nearer_failed 1 _ _
  · intro loaded parts remote _ _
    refine (returns_resume purpose load loaded).bind (fun walk hnearer => ?_) _
    exact (hgoOn walk hnearer.begun).mono fun walk' => hnearer.trans

theorem returns_pursue (n : Nat) :
    ∀ walk : Walk α, walk.HasBegun r.source →
      Returns (Walk.Nearer r.source 0 walk) (r.pursue e n walk) := by
  induction n with
  | zero => exact fun walk hbegun => returns_pure (.refl hbegun)
  | succ n ih =>
    intro walk hbegun
    cases walk with
    | loading purpose load =>
      exact (returns_look hbegun ih).mono fun walk' => Walk.Nearer.of_succ
    | fresh => exact hbegun.elim
    | failed error load => exact returns_pure (.refl hbegun)
    | ended o => exact returns_pure (.refl hbegun)

theorem returns_advance {walk : Walk α} (hbegun : walk.HasBegun r.source) :
    Returns (Walk.Nearer r.source 1 walk) (r.advance e walk) := by
  cases walk with
  | loading purpose load => exact returns_look hbegun fun walk => returns_pursue _ walk
  | failed error load => exact .after fun _ => returns_pure (Walk.nearer_failed 1 _ _)
  | fresh => exact hbegun.elim
  | ended o => exact returns_pure (Walk.nearer_ended 1 hbegun)

/-- A walk that begins has as many visits to go as it takes to learn the newest version. -/
theorem returns_begin : Returns (Walk.Nearer r.source 0 .fresh) (r.begin e) := by
  unfold begin
  refine .after fun s => ?_
  split
  · refine returns_enter.mono ?_
    rintro walk ⟨k, hends⟩
    exact ⟨hends.begun, fun j _ => hends.within.learns j, fun _ hwithin => hwithin.elim⟩
  · refine returns_pure ⟨⟨_, .ask⟩, fun k hk => ?_, fun _ hwithin => hwithin.elim⟩
    exact ⟨Nat.le_trans (Load.one_le_visits _) hk, (Load.within_ask _ _).mono hk⟩

/-- **A visit brings a walk closer to its end**, in any session. -/
theorem ensures_visit_nearer {walk : Walk α} (h : walk = .fresh ∨ walk.HasBegun r.source)
    (s : Session α σ) :
    Ensures (r.visit e walk) s (fun walk' _ => walk.Nearer r.source 1 walk')
      (fun _ _ => False) := by
  unfold visit
  rw [ensures_tryCatch]
  refine Ensures.mono (Q := fun walk' _ => walk.Nearer r.source 1 walk') (E := fun _ _ => True) ?_
    (fun _ _ => id) fun _ _ _ => Walk.nearer_failed 1 _ _
  rcases h with rfl | hbegun
  · exact (returns_begin.bind fun walk hnearer =>
      (returns_advance hnearer.begun).mono fun walk' => hnearer.trans) s
  · cases walk with
    | fresh => exact hbegun.elim
    | loading purpose load => exact returns_advance hbegun s
    | failed error load => exact returns_advance hbegun s
    | ended o => exact returns_advance hbegun s

end Resolver

end ContentPack
