import ContentPack.Proofs.Search.Glances

/-!
# A search on its own, and the session that it leaves

A search for one structure has one seat (`Batch.seated`), and a turn visits it (`turn_seated`). So
the search goes along the path of its walk, and it is given up where the walk fails: what the walk
has asked for goes on for one more turn, which changes the state of the source only
(`ensures_turns_seated`).

Together with the turns that are enough for every search this says where a search ends and which
session it leaves, also if a request fails (`ensures_resolve_solo`).
-/

namespace ContentPack.Resolver

open Work

variable {α σ : Type} {r : Resolver α σ} {e : Errand} {W : WalkInvariant r e}
  {walk : Walk α} {s rest : Session α σ}

/-! ### One seat -/

/-- The batch of a search on its own, with its walk. -/
def Batch.seated (e : Errand) (walk : Walk α) : Batch α := { seats := [⟨0, e, walk, true⟩] }

/-- The batch of a search on its own that has an outcome. -/
def Batch.left (o : Outcome α) : Batch α := { free := 1, finished := [(0, o)] }

/-- The batch of a search on its own whose walk has failed. -/
def Batch.lingering (e : Errand) (walk : Walk α) : Batch α :=
  { seats := [⟨0, e, walk, false⟩], free := 1 }

/-- What a move makes of the one seat. -/
def Batch.moved (e : Errand) (walk : Walk α) (taken : Bool) (free : Nat) :
    Move (Walk α) (Outcome α) → Batch α :=
  ({ free } : Batch α).move (fun _ => .fresh) ⟨0, e, walk, taken⟩

/-- A turn visits the one seat, and nobody waits for it. -/
theorem turn_single (walk : Walk α) (taken : Bool) (free : Nat) :
    FanOut.turn (fun _ => .fresh) r.attend { seats := [⟨0, e, walk, taken⟩], free } =
      (r.attend e walk >>= fun move => pure (Batch.moved e walk taken free move) :
        JointWork α σ (Batch α)) := by
  unfold FanOut.turn FanOut.step
  simp only [List.foldlM_cons, List.foldlM_nil, bind_assoc, pure_bind]
  refine congrArg (r.attend e walk >>= ·) (funext fun move => ?_)
  cases move <;> cases taken <;> rfl

/-- A walk that lingers is visited once. -/
theorem turns_lingering (walk : Walk α) :
    (Batch.lingering e walk).turns (fun _ => .fresh) r.attend 1 =
      (r.attend e walk >>= fun move => pure (Batch.moved e walk false 1 move) :
        JointWork α σ (Batch α)) := by
  unfold FanOut.turns
  rw [if_neg (show ¬(Batch.lingering e walk).isDone = true from Bool.false_ne_true)]
  unfold Batch.lingering
  rw [turn_single]
  unfold FanOut.turns
  rw [bind_pure]

/-- A search that has not begun takes the seat. -/
theorem turn_start :
    FanOut.turn (fun _ => .fresh) r.attend (FanOut.start none [e]) =
      (r.attend e .fresh >>= fun move => pure (Batch.moved e .fresh true 0 move) :
        JointWork α σ (Batch α)) := by
  unfold FanOut.turn FanOut.start FanOut.step
  show (pure _ >>= fun f => FanOut.fill _ _ [(0, e)] { free := 1 } : JointWork α σ (Batch α)) = _
  unfold FanOut.fill FanOut.step FanOut.fill
  simp only [bind_assoc, pure_bind]
  rfl

/-! ### Where the walk is -/

/-- **Where a search on its own is**: its walk works alone, and some glances lead to it. -/
structure Passes (W : WalkInvariant r e) (s : Session α σ) (walk : Walk α) (rest : Session α σ) :
    Prop where
  /-- Nobody else works on the structure. -/
  lone : Lone W rest walk
  /-- No other history is touched. -/
  affects : Affects W s rest
  /-- The walk goes along one path. -/
  path : ∃ k, (r.glance e)^[k] (.fresh, s) = (walk, rest)

/-- **How a search on its own is given up**: a request has failed, and after that only the state of
the source has changed. -/
structure GivenUp (W : WalkInvariant r e) (s : Session α σ) (error : Error) (rest : Session α σ) :
    Prop where
  /-- A request has failed. -/
  fetch : ∃ failure, error = .fetch failure
  /-- It was one that may fail. -/
  fails : W.Fails (rest.cache.history? e.id) rest.remote
  /-- No other history is touched. -/
  touches : Touches e.id s.cache rest.cache
  /-- The path of the walk ends with the failure. -/
  path : ∃ k load start, (r.glance e)^[k] (.fresh, s) = (.failed error load, start) ∧
    rest = { start with remote := rest.remote }

/-- What is left of a failed load does not undo the failure. -/
def WalkInvariant.Lingers (W : WalkInvariant r e) : Prop :=
  ∀ {known : Option (History α)} {load : Load} {st : σ}, W.Fails known st →
    W.Fails known (load.linger r.source st).2

theorem Lone.ne_failed (hlone : Lone W s walk) (error : Error) (load : Load) :
    walk ≠ .failed error load := by
  rintro rfl
  obtain ⟨h, -, -, hstanding⟩ := hlone
  cases hstanding

/-- What is left of a walk that has failed does not matter to the search. -/
theorem GivenUp.linger {error : Error} (hgiven : GivenUp W s error rest) {load : Load}
    (hlingers : W.Lingers) :
    GivenUp W s error { rest with remote := (load.linger r.source rest.remote).2 } := by
  obtain ⟨hfetch, hfails, htouches, k, failed, start, hpath, hrest⟩ := hgiven
  refine ⟨hfetch, hlingers hfails, htouches, k, failed, start, hpath, ?_⟩
  rw [hrest]

/-! ### One visit -/

/-- A visit of the one seat: the walk stays, or it leaves, or a request has failed. -/
theorem ensures_attend_solo (hevent : e.event = none) (hpasses : Passes W s walk rest) :
    Ensures ((r.attend e walk).run none) rest
      (fun out rest' =>
        (∃ walk', out = (.stay walk', none) ∧ Passes W s walk' rest') ∨
        (∃ o, out = (.leave o, none) ∧ Passes W s (.ended o) rest') ∨
        ∃ error, out.2 = some error ∧ GivenUp W s error rest' ∧
          (out.1 = .leave .pending ∨ ∃ load, out.1 = .linger (.failed error load)))
      (fun _ _ => False) := by
  obtain ⟨hlone, haffects, k, hpath⟩ := hpasses
  obtain ⟨more, hmore⟩ := exists_glances_of_step (r := r) (e := e) hlone.ne_failed rest
  unfold attend
  rw [StateT.run_bind, ensures_bind, JointWork.ensures_run_lift]
  refine ((ensures_visit_comes hlone).and ensures_visit_step).mono ?_ (fun _ _ => id)
  rintro walk' rest' ⟨hcomes, hstep⟩
  have hpath' : (r.glance e)^[more + k] (.fresh, s) = (walk', rest') := by
    rw [Function.iterate_add_apply, hpath, ← hmore, hstep]
  have haffects' := haffects.trans hcomes.affects
  rcases hcomes.lone with hlone' | ⟨failure, load, rfl, hfails⟩
  · have hpasses' : Passes W s walk' rest' := ⟨hlone', haffects', _, hpath'⟩
    cases walk' with
    | ended o =>
      simp only [hevent]
      exact Or.inr (Or.inl ⟨o, rfl, hpasses'⟩)
    | failed error load => exact absurd rfl (hlone'.ne_failed error load)
    | fresh => exact Or.inl ⟨_, rfl, hpasses'⟩
    | loading purpose load => exact Or.inl ⟨_, rfl, hpasses'⟩
  · refine Or.inr (Or.inr ⟨.fetch failure, rfl,
      ⟨⟨failure, rfl⟩, hfails, haffects'.touches, _, load, rest', hpath', rfl⟩, ?_⟩)
    show (if load.isIdle then _ else _) = _ ∨ ∃ left, (if load.isIdle then _ else _) = _
    split
    · exact Or.inl rfl
    · exact Or.inr ⟨load, rfl⟩

/-- A visit of a walk that has failed only goes on with what was asked for. -/
theorem ensures_attend_failed (error : Error) (load : Load) (first : Option Error) :
    Ensures ((r.attend e (.failed error load)).run first) s
      (fun _ rest => rest = { s with remote := (load.linger r.source s.remote).2 })
      (fun _ _ => False) := by
  unfold attend
  rw [StateT.run_bind, ensures_bind, JointWork.ensures_run_lift]
  unfold visit
  rw [ensures_tryCatch]
  unfold advance
  rw [ensures_bind, ensures_ask, ensures_pure]
  exact rfl

/-! ### Some turns -/

/-- The batch of a search on its own: its walk has the seat, or it has left. -/
def Batch.IsSolo (e : Errand) (walk : Walk α) (batch : Batch α) : Prop :=
  batch = .seated e walk ∨ ∃ o, walk = .ended o ∧ batch = .left o

/-- After the failure there is one more turn. -/
theorem ensures_grace {error : Error} (hgiven : GivenUp W s error rest)
    (hlingers : W.Lingers)
    {walk : Walk α} {move : Move (Walk α) (Outcome α)}
    (hmove : move = .leave .pending ∨ ∃ load, move = .linger (.failed error load)) :
    Ensures (((Batch.moved e walk true 0 move).turns (fun _ => .fresh) r.attend
      (grace 0)).run none) rest (fun _ rest' => GivenUp W s error rest') (fun _ _ => False) := by
  rcases hmove with rfl | ⟨load, rfl⟩
  · exact hgiven
  · show Ensures (((Batch.lingering e (.failed error load)).turns (fun _ => .fresh) r.attend 1 :
      JointWork α σ (Batch α)).run none) rest _ _
    rw [turns_lingering, StateT.run_bind, ensures_bind]
    refine (ensures_attend_failed error load none).mono ?_ (fun _ _ => id)
    rintro out _ rfl
    exact hgiven.linger hlingers

/-- **Some turns of a search on its own.** -/
theorem ensures_turns_solo (hevent : e.event = none)
    (hlingers : W.Lingers)
    (n : Nat) :
    ∀ {walk : Walk α} {rest : Session α σ} {batch : Batch α}, Passes W s walk rest →
      (batch.IsSolo e walk ∨ (1 ≤ n ∧ walk = .fresh ∧ batch = FanOut.start none [e])) →
      Ensures (r.turns 0 n batch) rest
        (fun batch' rest' => ∃ walk', Passes W s walk' rest' ∧ batch'.IsSolo e walk')
        (GivenUp W s) := by
  induction n with
  | zero =>
    intro walk rest batch hpasses hbatch
    exact ⟨walk, hpasses, hbatch.resolve_right fun h => absurd h.1 (Nat.not_succ_le_zero 0)⟩
  | succ n ih =>
    intro walk rest batch hpasses hbatch
    by_cases hleft : ∃ o, walk = .ended o ∧ batch = .left o
    · obtain ⟨o, rfl, rfl⟩ := hleft
      exact ⟨_, hpasses, Or.inr ⟨o, rfl, rfl⟩⟩
    -- otherwise the walk is visited
    have hturn : batch.turn (fun _ => .fresh) r.attend =
        (r.attend e walk >>= fun move => pure (Batch.moved e walk true 0 move)) := by
      rcases hbatch with (rfl | hsome) | ⟨-, rfl, rfl⟩
      · exact turn_single walk true 0
      · exact absurd hsome hleft
      · exact turn_start
    have hdone : batch.isDone = false := by
      rcases hbatch with (rfl | hsome) | ⟨-, rfl, rfl⟩
      · rfl
      · exact absurd hsome hleft
      · rfl
    unfold turns
    rw [hdone, hturn]
    show Ensures (StateT.run _ none >>= _) rest _ _
    rw [StateT.run_bind, ensures_bind, ensures_bind]
    refine (ensures_attend_solo hevent hpasses).mono ?_ (fun _ _ hfalse => hfalse.elim)
    rintro ⟨move, first⟩ rest'
      (⟨walk', hout, hpasses'⟩ | ⟨o, hout, hpasses'⟩ | ⟨error, hfirst, hgiven, hmove⟩)
    · obtain ⟨rfl, rfl⟩ := Prod.mk.inj hout
      exact ih hpasses' (Or.inl (Or.inl rfl))
    · obtain ⟨rfl, rfl⟩ := Prod.mk.inj hout
      exact ih hpasses' (Or.inl (Or.inr ⟨o, rfl, rfl⟩))
    · obtain rfl : first = some error := hfirst
      show Ensures (discard _ >>= fun _ => throw error) rest' _ _
      rw [ensures_bind, ensures_discard]
      exact (ensures_grace hgiven hlingers hmove).mono (fun _ _ hgiven' => hgiven')
        (fun _ _ hfalse => hfalse.elim)

/-! ### The whole search -/

/-- All the turns that a search on its own has. -/
theorem ensures_wave_solo (hevent : e.event = none) (hlingers : W.Lingers)
    (hrests : W.Rests (s.cache.history? e.id) s.remote) :
    Ensures (r.wave 0 (FanOut.start none [e])) s
      (fun batch rest => ∃ walk, Passes W s walk rest ∧ batch.IsSolo e walk) (GivenUp W s) := by
  unfold wave
  rw [ensures_bind]
  have hpasses : Passes W s .fresh s := ⟨hrests, .refl s, 0, rfl⟩
  refine (ensures_turns_solo hevent hlingers _ hpasses
    (Or.inr ⟨Load.one_le_visits _, rfl, rfl⟩)).mono ?_ (fun _ _ => id)
  rintro batch rest ⟨walk, hpasses, hsolo⟩
  exact ensures_turns_solo hevent hlingers _ hpasses (Or.inl hsolo)

/-- **A search on its own ends where the path of its walk ends**; if a request fails, it is given up
in the session in which its walk has failed, but for the state of the source. -/
theorem ensures_resolve_solo {id : StructureId} {subtopic : Option Subtopic}
    {W : WalkInvariant r { id, subtopic }}
    (hdecided : ∀ subtopic l, r.judge subtopic l ≠ .pending) (hlingers : W.Lingers)
    (hrests : W.Rests (s.cache.history? id) s.remote) :
    Ensures (r.resolve id subtopic) s (fun o rest => Passes W s (.ended o) rest)
      (GivenUp W s) := by
  have hids : ([({ id, subtopic } : Errand)].map (·.id)).Nodup := List.nodup_singleton _
  have hall := ensures_resolveApart (fun e => blankInvariant e (hdecided e.subtopic)) hids
    (Option.some_ne_none 0).symm 0 (s := s) fun _ _ => ⟨fun _ _ => trivial, fun _ => trivial⟩
  have hsolo : Ensures (r.resolveAll none [{ id, subtopic }] 0) s
      (fun outcomes rest => ∃ walk batch, Passes W s walk rest ∧
        Batch.IsSolo { id, subtopic } walk batch ∧
        outcomes = [(batch.result? 0).getD .pending]) (GivenUp W s) := by
    unfold resolveAll
    rw [ensures_bind]
    show Ensures (r.wave 0 (FanOut.start none [{ id, subtopic }]) >>= pure) s _ _
    rw [bind_pure]
    refine (ensures_wave_solo rfl hlingers hrests).mono ?_ (fun _ _ hgiven => hgiven)
    rintro batch rest ⟨walk, hpasses, hsolo⟩
    exact ⟨walk, batch, hpasses, hsolo, rfl⟩
  unfold resolve
  rw [ensures_bind]
  unfold Ensures at hall hsolo ⊢
  rcases hrun : ExceptT.run (r.resolveAll none [{ id, subtopic }] 0) s with ⟨error | outcomes, rest⟩
  · rw [hrun] at hsolo
    exact hsolo
  · -- there are enough turns for the walk to end
    rw [hrun] at hall hsolo
    obtain ⟨-, hends⟩ := hall
    obtain ⟨walk, batch, hpasses, rfl | ⟨o, rfl, rfl⟩, rfl⟩ := hsolo
    · obtain ⟨h, -, -, hsettled⟩ := (List.forall₂_cons.mp hends).1
      exact absurd rfl hsettled.ne_pending
    · exact hpasses

end ContentPack.Resolver
