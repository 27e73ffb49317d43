import ContentPack.Proofs.Search.Pace

/-!
# How work on several walks ends

Work on several walks never gives up on its own: it goes on, and keeps the error of the first walk
that has failed (`JointWork.Steady`). `JointWork.Ensures x s Q P` says that if no walk fails, then
`Q` holds of what is returned, and that a walk fails only with an error of which `P` holds.

A `JointInvariant` is what holds of the walks for several errands as long as none of them has
failed. It is kept by a visit of any of them, so it may be used for all of them together
(`JointInvariant.ensures_attend`), if the visit for one errand leaves the others alone
(`JointInvariant.ArePlacedApart`).
-/

namespace ContentPack.Resolver

variable {α σ β γ : Type}

namespace JointWork

/-- The work is done whatever happens, and the first error is kept. -/
def Steady (x : JointWork α σ β) : Prop :=
  ∀ first s, Work.Ensures (x.run first) s
    (fun out _ => ∀ error, first = some error → out.2 = some error) (fun _ _ => False)

/-- **How joint work ends**: with no error, or with that of the first walk that has failed. -/
def Ensures (x : JointWork α σ β) (s : Session α σ) (done : β → Session α σ → Prop)
    (failed : Error → Prop) : Prop :=
  Work.Ensures (x.run none) s
    (fun out rest =>
      match out.2 with
      | none => done out.1 rest
      | some error => failed error)
    (fun _ _ => False)

variable {s : Session α σ} {Q Q' : β → Session α σ → Prop} {P : Error → Prop}

theorem steady_pure (value : β) : Steady (pure value : JointWork α σ β) :=
  fun _ _ _ herror => herror

theorem Steady.bind {x : JointWork α σ β} {f : β → JointWork α σ γ} (hx : Steady x)
    (hf : ∀ value, Steady (f value)) : Steady (x >>= f) := by
  intro first s
  rw [StateT.run_bind, Work.ensures_bind]
  refine (hx first s).mono ?_ (fun _ _ => id)
  intro out rest hout
  refine (hf out.1 out.2 rest).mono ?_ (fun _ _ => id)
  intro out' _ hout' error hfirst
  exact hout' error (hout error hfirst)

theorem ensures_pure {value : β} (h : Q value s) :
    Ensures (pure value : JointWork α σ β) s Q P := h

theorem Ensures.mono {x : JointWork α σ β} (h : Ensures x s Q P)
    (done : ∀ value rest, Q value rest → Q' value rest) : Ensures x s Q' P := by
  refine Work.Ensures.mono h ?_ (fun _ _ => id)
  rintro ⟨value, _ | error⟩ rest hout
  · exact done value rest hout
  · exact hout

/-- After a failure, the work that is left is done all the same. -/
theorem Ensures.bind {x : JointWork α σ β} {f : β → JointWork α σ γ}
    {Q' : γ → Session α σ → Prop} (hx : Ensures x s Q P) (hsteady : ∀ value, Steady (f value))
    (hf : ∀ value rest, Q value rest → Ensures (f value) rest Q' P) :
    Ensures (x >>= f) s Q' P := by
  unfold Ensures
  rw [StateT.run_bind, Work.ensures_bind]
  refine Work.Ensures.mono hx ?_ (fun _ _ => id)
  rintro ⟨value, _ | error⟩ rest hout
  · exact hf value rest hout
  · -- a walk has failed before, so whatever follows keeps its error
    refine (hsteady value (some error) rest).mono ?_ (fun _ _ => id)
    rintro ⟨value', first⟩ _ hfirst
    have hfirst' : first = some error := hfirst _ rfl
    subst hfirst'
    exact hout

/-- Work on one walk does not see the errors of others. -/
theorem ensures_run_lift (x : Work α σ β) (first : Option Error)
    {Q : β × Option Error → Session α σ → Prop} {E : Error → Session α σ → Prop} :
    Work.Ensures ((liftM x : JointWork α σ β).run first) s Q E ↔
      Work.Ensures x s (fun value rest => Q (value, first) rest) E := by
  show Work.Ensures (x >>= fun value => pure (value, first)) s Q E ↔ _
  rw [Work.ensures_bind]
  exact Iff.rfl

end JointWork

/-- A visit is never given up. -/
theorem ensures_visit_steady (r : Resolver α σ) (e : Errand) (walk : Walk α) (s : Session α σ) :
    Work.Ensures (r.visit e walk) s (fun _ _ => True) (fun _ _ => False) := by
  unfold visit
  rw [Work.ensures_tryCatch]
  exact (Work.ensures_true _ s).mono (fun _ _ _ => trivial) (fun _ _ _ => trivial)

/-! ### What holds of several walks -/

/-- One of the errands was reported. -/
def Reports (errands : List Errand) (s s' : Session α σ) : Prop :=
  ∃ e ∈ errands, ∃ event, e.event = some event ∧ s' = { s with events := s.events ++ [event] }

/-- **What holds of the walks for some errands**, as long as none of them has failed. -/
structure JointInvariant (r : Resolver α σ) (errands : List Errand) where
  /-- What holds of the walk for an errand while it is under way. -/
  standing : Errand → Walk α → Session α σ → Prop
  /-- What holds of the outcome of an errand. -/
  settled : Errand → Outcome α → Session α σ → Prop
  /-- What stays as it is. -/
  kept : Session α σ → Session α σ → Prop
  /-- The errors that a walk can fail with. -/
  fails : Error → Prop
  /-- A visit for the second errand leaves the first one alone. -/
  apart : Errand → Errand → Prop
  kept_refl : ∀ s, kept s s
  kept_trans : ∀ {s s' s''}, kept s s' → kept s' s'' → kept s s''
  /-- Reports do not matter. -/
  kept_report : ∀ {s s'}, Reports errands s s' → kept s s'
  standing_report : ∀ {e walk s s'}, Reports errands s s' → standing e walk s → standing e walk s'
  settled_report : ∀ {e o s s'}, Reports errands s s' → settled e o s → settled e o s'
  /-- A walk is under way until it is over. -/
  isUnderWay : ∀ {e walk s}, standing e walk s → walk.IsUnderWay
  /-- It does not take long to learn the newest version. -/
  learns : ∀ {e walk s}, standing e walk s → walk.Learns r.source (Load.visits r.source)
  /-- Then there are only so many versions to load. -/
  within : ∀ {e walk s}, standing e walk s → walk.Learns r.source 0 →
    walk.Within r.source (walk.loadsLeft * Load.visits r.source)
  /-- A visit keeps all of this, also for the errands that it leaves alone. -/
  visit : ∀ {e walk s}, e ∈ errands → standing e walk s →
    Work.Ensures (r.visit e walk) s
      (fun walk' rest =>
        (∃ error load, walk' = .failed error load ∧ fails error) ∨
          (kept s rest ∧
            (∀ e' ∈ errands, apart e' e →
              (∀ other, standing e' other s → standing e' other rest) ∧
                ∀ o, settled e' o s → settled e' o rest) ∧
            ((∃ o, walk' = .ended o ∧ settled e o rest) ∨ standing e walk' rest) ∧
            (∀ k, walk.Learns r.source (k + 1) → walk'.Learns r.source k) ∧
            ∀ k, walk.Within r.source (k + 1) → walk'.Within r.source k))
      (fun _ _ => False)

namespace JointInvariant

variable {r : Resolver α σ} {errands : List Errand} (I : JointInvariant r errands) {e : Errand}
  {s : Session α σ} {walk : Walk α}

/-- The walks for other errands are where they were. -/
def Frames (e : Errand) (s rest : Session α σ) : Prop :=
  I.kept s rest ∧ ∀ e' ∈ errands, I.apart e' e →
    (∀ walk, I.standing e' walk s → I.standing e' walk rest) ∧
      ∀ o, I.settled e' o s → I.settled e' o rest

/-- Errands in different places leave each other alone. -/
def ArePlacedApart : Prop :=
  ∀ {p q : Nat} {e e' : Errand}, errands[p]? = some e → errands[q]? = some e' → q ≠ p →
    I.apart e' e

/-- Errands in different places are for different structures, if no structure is there twice. -/
theorem arePlacedApart_of_nodup (hids : (errands.map (·.id)).Nodup)
    (hapart : ∀ {e e' : Errand}, e'.id ≠ e.id → I.apart e' e) : I.ArePlacedApart := by
  intro p q e e' hp hq hne
  refine hapart fun heq => ?_
  have hp' : (errands.map (·.id))[p]? = some e.id := by rw [List.getElem?_map, hp]; rfl
  have hq' : (errands.map (·.id))[q]? = some e.id := by rw [List.getElem?_map, hq, ← heq]; rfl
  have hlt : q < (errands.map (·.id)).length := (List.getElem?_eq_some_iff.mp hq').1
  exact hne ((List.getElem?_inj hlt hids).mp (hq'.trans hp'.symm))

/-- A bound on the visits to go that every visit lowers. -/
def IsPace (r : Resolver α σ) (near : Walk α → Nat → Prop) : Prop :=
  near = Walk.Learns r.source ∨ near = Walk.Within r.source

theorem steady_attend : JointWork.Steady (r.attend e walk) := by
  intro first s
  unfold attend
  rw [StateT.run_bind, Work.ensures_bind, JointWork.ensures_run_lift]
  refine (ensures_visit_steady r e _ s).mono ?_ (fun _ _ => id)
  rintro walk' rest -
  cases walk' with
  | ended outcome =>
    simp only
    cases e.event with
    | none => exact fun _ => id
    | some event =>
      rw [StateT.run_bind, Work.ensures_bind, JointWork.ensures_run_lift, Work.ensures_report]
      exact fun _ => id
  | failed error load =>
    intro error' herror'
    show first.or (some error) = some error'
    rw [herror']
    rfl
  | fresh => exact fun _ => id
  | loading purpose load => exact fun _ => id

/-- **A visit of one of several walks**: it stays, or it leaves with its outcome. -/
theorem ensures_attend (he : e ∈ errands) (hstanding : I.standing e walk s)
    {near : Walk α → Nat → Prop} (hnear : IsPace r near) :
    JointWork.Ensures (r.attend e walk) s (fun move rest => I.Frames e s rest ∧
      ((∃ walk', move = .stay walk' ∧ I.standing e walk' rest ∧
          ∀ k, near walk (k + 1) → near walk' k) ∨
        ∃ o, move = .leave o ∧ I.settled e o rest)) I.fails := by
  unfold attend JointWork.Ensures
  rw [StateT.run_bind, Work.ensures_bind, JointWork.ensures_run_lift]
  refine (I.visit he hstanding).mono ?_ (fun _ _ => id)
  rintro walk' rest (⟨error, load, rfl, hfails⟩ | ⟨hkept, hframe, hcase, hlearns, hwithin⟩)
  · exact hfails
  · have hframes : I.Frames e s rest := ⟨hkept, hframe⟩
    rcases hcase with ⟨o, rfl, hsettled⟩ | hstanding'
    · simp only
      cases hevent : e.event with
      | none => exact ⟨hframes, Or.inr ⟨o, rfl, hsettled⟩⟩
      | some event =>
        -- the end of a walk is reported, which moves no other walk
        rw [StateT.run_bind, Work.ensures_bind, JointWork.ensures_run_lift, Work.ensures_report]
        have hreports : Reports errands rest { rest with events := rest.events ++ [event] } :=
          ⟨e, he, event, hevent, rfl⟩
        refine ⟨⟨I.kept_trans hkept (I.kept_report hreports), ?_⟩,
          Or.inr ⟨o, rfl, I.settled_report hreports hsettled⟩⟩
        intro e' he' hne
        obtain ⟨hwalks, houtcomes⟩ := hframe e' he' hne
        exact ⟨fun other h => I.standing_report hreports (hwalks other h),
          fun o' h => I.settled_report hreports (houtcomes o' h)⟩
    · have hpace : ∀ k, near walk (k + 1) → near walk' k := by
        rcases hnear with rfl | rfl
        · exact hlearns
        · exact hwithin
      have hunder := I.isUnderWay hstanding'
      -- only a walk that is under way stays
      cases walk' with
      | ended outcome => exact hunder.elim
      | failed error load => exact hunder.elim
      | fresh => exact ⟨hframes, Or.inl ⟨_, rfl, hstanding', hpace⟩⟩
      | loading purpose load => exact ⟨hframes, Or.inl ⟨_, rfl, hstanding', hpace⟩⟩

end JointInvariant

/-- **Walks that share a session** all come to their ends, also if several of them are for the same
structure. -/
def endingInvariant (r : Resolver α σ) (errands : List Errand) : JointInvariant r errands where
  standing _ walk _ := walk.IsUnderWay ∧ (walk = .fresh ∨ walk.HasBegun r.source)
  settled _ o _ := o ≠ .pending
  kept _ _ := True
  fails _ := True
  apart _ _ := True
  kept_refl _ := trivial
  kept_trans _ _ := trivial
  kept_report _ := trivial
  standing_report _ h := h
  settled_report _ h := h
  isUnderWay h := h.1
  learns h := Walk.learns_visits h.2
  within h hknown := Walk.within_of_learns_zero h.2 hknown
  visit {_ walk _} _ h := by
    refine (ensures_visit_nearer h.2 _).mono ?_ (fun _ _ => id)
    rintro walk' rest ⟨hbegun, hlearns, hwithin⟩
    cases walk' with
    | fresh => exact hbegun.elim
    | failed error load => exact Or.inl ⟨error, load, rfl, trivial⟩
    | ended o =>
      exact Or.inr ⟨trivial, fun _ _ _ => ⟨fun _ => id, fun _ => id⟩, Or.inl ⟨o, rfl, hbegun⟩,
        hlearns, hwithin⟩
    | loading purpose load =>
      exact Or.inr ⟨trivial, fun _ _ _ => ⟨fun _ => id, fun _ => id⟩,
        Or.inr ⟨trivial, Or.inr hbegun⟩, hlearns, hwithin⟩

end ContentPack.Resolver
