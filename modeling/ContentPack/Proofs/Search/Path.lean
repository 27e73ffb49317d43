import ContentPack.Proofs.Search.Alone

/-!
# The path of one walk

A visit never gives up, so a walk and the session that it works on have one next state
(`Resolver.step`), and what is visited again and again goes along one path. A search on its own is
such a path: it ends where the walk ends (`Resolver.exists_path`), and there is no further step
(`Resolver.iterate_ended`).
-/

namespace ContentPack.Resolver

variable {α σ : Type}

/-- A walk and its session after one visit. -/
def step (r : Resolver α σ) (e : Errand) (p : Walk α × Session α σ) : Walk α × Session α σ :=
  match ExceptT.run (r.visit e p.1) p.2 with
  | (.ok walk, rest) => (walk, rest)
  | (.error error, rest) => (.failed error (.ended (.ok []) []), rest)

section Step

variable {r : Resolver α σ} {e : Errand} {walk : Walk α} {s : Session α σ}

/-- What a visit ensures holds after the step. -/
theorem step_of_ensures {Q : Walk α → Session α σ → Prop}
    (h : Work.Ensures (r.visit e walk) s Q (fun _ _ => False)) :
    Q (r.step e (walk, s)).1 (r.step e (walk, s)).2 := by
  rcases h.run with ⟨walk', rest, hrun, hQ⟩ | ⟨error, rest, -, hfalse⟩
  · unfold step
    rw [hrun]
    exact hQ
  · exact hfalse.elim

/-- A visit makes the step. -/
theorem ensures_visit_step :
    Work.Ensures (r.visit e walk) s (fun walk' rest => r.step e (walk, s) = (walk', rest))
      (fun _ _ => False) := by
  have hsteady := ensures_visit_steady r e walk s
  rcases hsteady.run with ⟨walk', rest, hrun, -⟩ | ⟨error, rest, -, hfalse⟩
  · unfold Work.Ensures
    rw [hrun]
    unfold step
    rw [hrun]
  · exact hfalse.elim

/-- A walk that has ended stays where it is. -/
theorem iterate_ended (o : Outcome α) (k : Nat) :
    (r.step e)^[k] (.ended o, s) = (.ended o, s) :=
  Function.iterate_fixed rfl k

end Step

/-! ### A search on its own -/

/-- What holds of the walk for one errand without a report, together with the path that it is
on. -/
def JointInvariant.onPath {r : Resolver α σ} {e : Errand} (I : JointInvariant r [e])
    (hevent : e.event = none) (start : Session α σ) : JointInvariant r [e] where
  standing e' walk s := I.standing e' walk s ∧ ∃ k, (r.step e)^[k] (.fresh, start) = (walk, s)
  settled e' o s := I.settled e' o s ∧ ∃ k, (r.step e)^[k] (.fresh, start) = (.ended o, s)
  kept := I.kept
  fails := I.fails
  apart e' e := e'.id ≠ e.id
  kept_refl := I.kept_refl
  kept_trans := I.kept_trans
  kept_report := I.kept_report
  standing_report := by
    rintro e' walk s s' ⟨reported, hreported, event, hsome, -⟩
    rw [List.mem_singleton.mp hreported, hevent] at hsome
    cases hsome
  settled_report := by
    rintro e' o s s' ⟨reported, hreported, event, hsome, -⟩
    rw [List.mem_singleton.mp hreported, hevent] at hsome
    cases hsome
  isUnderWay h := I.isUnderWay h.1
  learns h := I.learns h.1
  within h := I.within h.1
  visit {e' walk s} he' h := by
    obtain rfl := List.mem_singleton.mp he'
    obtain ⟨hstanding, k, hpath⟩ := h
    have hboth := (I.visit he' hstanding).and ensures_visit_step
    refine hboth.mono ?_ (fun _ _ => id)
    rintro walk' rest ⟨hfailed | ⟨hkept, -, hcase, hpace⟩, hstep⟩
    · exact Or.inl hfailed
    · have hnext : (r.step e')^[k + 1] (.fresh, start) = (walk', rest) := by
        rw [Function.iterate_succ_apply', hpath, hstep]
      refine Or.inr ⟨hkept, ?_, ?_, hpace⟩
      · intro other hother hne
        rw [List.mem_singleton.mp hother] at hne
        exact absurd rfl hne
      · rcases hcase with ⟨o, rfl, hsettled⟩ | hstanding'
        · exact Or.inl ⟨o, rfl, hsettled, k + 1, hnext⟩
        · exact Or.inr ⟨hstanding', k + 1, hnext⟩

/-- **A search on its own ends where the path of its walk ends**, if the store has no gap. -/
theorem exists_path {F : Facts} {store : Store} {r : Resolver Loaded σ} {id : StructureId}
    {subtopic : Option Subtopic} (hs : store.Faithful) (ha : r.source.Answers store)
    (hdecided : ∀ subtopic l, r.judge subtopic l ≠ .pending)
    (hF : Decides F store r { id, subtopic }) (hgap : ¬store.HasGap id) (start : Session Loaded σ)
    (hsound : ∀ h, start.cache.history? id = some h → h.Sound F id) :
    ∃ k o rest, (r.step { id, subtopic })^[k] (.fresh, start) = (.ended o, rest) ∧
      ExceptT.run (r.resolve id subtopic) start = (.ok o, rest) ∧
      ∃ h, rest.cache.history? id = some h ∧ h.Sound F id ∧ h.Settled o := by
  let e : Errand := { id, subtopic }
  -- one errand is a group of its own, and the path of its walk is kept along with the invariant
  let I := (apartInvariant _ (apart_toWalk fun e => factsInvariant F hs ha e (hdecided e.subtopic))
    [e]).onPath rfl start
  have hfresh : ∀ e' ∈ [e], I.standing e' .fresh start := by
    intro e' he'
    obtain rfl := List.mem_singleton.mp he'
    have hready : (factsInvariant F hs ha e (hdecided subtopic)).Ready start.cache :=
      ⟨fun h hh => ⟨hF, hsound h hh⟩, fun _ => hF⟩
    exact ⟨⟨trivial, hready.rests start.remote⟩, 0, rfl⟩
  have hplaced : I.ArePlacedApart :=
    I.arePlacedApart_of_nodup (List.nodup_singleton _) fun hne => hne
  have hall := ensures_resolveAll I hplaced (Option.some_ne_none 0).symm 0 hfresh
  rcases hall.run with ⟨outcomes, rest, hrun, -, hsettled⟩ | ⟨error, rest, -, hfails⟩
  · cases hsettled with
    | cons hsettled hnil =>
      cases hnil
      obtain ⟨⟨h, hh, ⟨-, hsound'⟩, hsettled⟩, k, hpath⟩ := hsettled
      refine ⟨k, _, rest, hpath, ?_, h, hh, hsound', hsettled⟩
      unfold resolve
      rw [ExceptT.run_bind]
      change StateT.bind (ExceptT.run (r.resolveAll none [e] 0)) _ start = _
      unfold StateT.bind
      rw [hrun]
      rfl
  · obtain ⟨-, e', he', _, _, hgap'⟩ := hfails
    rw [List.mem_singleton.mp he'] at hgap'
    exact absurd hgap' hgap

end ContentPack.Resolver
