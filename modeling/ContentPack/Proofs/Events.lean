import ContentPack.Proofs.Changes
import Mathlib.Data.List.Perm.Subperm

/-!
# What searches report

A visit reports nothing (`Resolver.permits_quiet`); only when a walk ends, the event of its errand
is reported. Every errand has at most one walk, which leaves its place when it ends
(`Batch.Reported`), so what several searches report are events of their errands, each at most once,
in whatever order the walks end. This also holds if a request fails, while the other walks go on.

If every errand gets an outcome, the events of all of them are reported
(`Resolver.ensures_resolveAll_events`).
-/

namespace ContentPack.Resolver

open Work

variable {α σ β γ : Type} {r : Resolver α σ} {errands : List Errand} {start s s' : Session α σ}

/-! ### Joint work, whatever fails -/

/-- **Joint work ends so**, whether a walk fails or not. -/
def JointWork.Always (x : JointWork α σ β) (s : Session α σ) (done : β → Session α σ → Prop) :
    Prop :=
  ∀ first, Work.Ensures (x.run first) s (fun out rest => done out.1 rest) (fun _ _ => False)

theorem JointWork.Always.bind {x : JointWork α σ β} {f : β → JointWork α σ γ}
    {Q : β → Session α σ → Prop} {Q' : γ → Session α σ → Prop} (hx : JointWork.Always x s Q)
    (hf : ∀ value rest, Q value rest → JointWork.Always (f value) rest Q') :
    JointWork.Always (x >>= f) s Q' := by
  intro first
  rw [StateT.run_bind, ensures_bind]
  refine (hx first).mono ?_ (fun _ _ => id)
  exact fun out rest hout => hf out.1 rest hout out.2

/-! ### One visit -/

/-- Nothing is reported, and no attempt is counted; only the cache is changed. -/
structure Quiet (s rest : Session α σ) : Prop where
  /-- Nothing is reported. -/
  events : rest.events = s.events
  /-- No attempt is counted. -/
  attempts : rest.attempts = s.attempts
  /-- The cache is changed. -/
  changes : s.cache.Changes rest.cache

theorem permits_quiet : Permits (Quiet : Session α σ → Session α σ → Prop) where
  refl _ := ⟨rfl, rfl, .refl⟩
  trans h h' := ⟨h'.events.trans h.events, h'.attempts.trans h.attempts, h.changes.trans h'.changes⟩
  ask _ _ := ⟨rfl, rfl, .refl⟩
  change h := ⟨rfl, rfl, .single h⟩

/-- A walk that has ended reports its event; any other walk leaves without an outcome, if it
leaves. -/
theorem always_attend (hdecided : ∀ subtopic l, r.judge subtopic l ≠ .pending) (e : Errand)
    (walk : Walk α) :
    JointWork.Always (r.attend e walk) s (fun move rest =>
      (∃ o s₁, move = .leave o ∧ Quiet s s₁ ∧
        rest = { s₁ with events := s₁.events ++ e.event.toList }) ∨
      (Quiet s rest ∧ ∀ o, move = .leave o → o = .pending)) := by
  intro first
  unfold attend
  rw [StateT.run_bind, ensures_bind, JointWork.ensures_run_lift]
  have hvisit : Respects Quiet (r.visit e walk) := respects_visit permits_quiet (hdecided _) walk
  refine ((ensures_visit_steady r e walk s).both (hvisit s)).mono ?_ (fun _ _ h => h.1)
  rintro walk' rest ⟨-, hquiet⟩
  cases walk' with
  | ended outcome =>
    simp only
    cases e.event with
    | none => exact Or.inl ⟨outcome, rest, rfl, hquiet, by simp⟩
    | some event =>
      rw [StateT.run_bind, ensures_bind, JointWork.ensures_run_lift, ensures_report]
      exact Or.inl ⟨outcome, rest, rfl, hquiet, rfl⟩
  | failed error load =>
    refine Or.inr ⟨hquiet, ?_⟩
    show ∀ o, (if load.isIdle then (Move.leave .pending : Move (Walk α) (Outcome α))
      else .linger (.failed error load)) = .leave o → o = .pending
    intro o ho
    split at ho
    · exact (Move.leave.inj ho).symm
    · cases ho
  | fresh => exact Or.inr ⟨hquiet, fun o ho => by cases ho⟩
  | loading purpose load => exact Or.inr ⟨hquiet, fun o ho => by cases ho⟩

/-! ### Who was reported -/

/-- The positions of those still to be visited, of the seats, of those still to be seated, and of
those that wait. -/
def Batch.unreported (rest : Seats α) (waiting : List (Nat × Errand)) (batch : Batch α) :
    List Nat :=
  rest.map (·.position) ++ batch.seats.map (·.position) ++ waiting.map (·.1) ++
    batch.queue.map (·.1)

/-- **Who was reported**, since the searches started, and in which order: nobody twice, and nobody
whose walk may still end. -/
structure Batch.Reported (errands : List Errand) (start : Session α σ) (rest : Seats α)
    (waiting : List (Nat × Errand)) (batch : Batch α) (order : List Nat) (s : Session α σ) :
    Prop where
  /-- Nobody is there twice. -/
  nodup : (order ++ unreported rest waiting batch).Nodup
  /-- Whoever has a seat has an errand. -/
  seated : ∀ seat ∈ rest ++ batch.seats, errands[seat.position]? = some seat.item
  /-- So does whoever waits. -/
  waits : ∀ next ∈ waiting ++ batch.queue, errands[next.1]? = some next.2
  /-- So does whoever was reported. -/
  bounded : ∀ p ∈ order, p < errands.length
  /-- Whoever got an outcome was reported. -/
  ends : ∀ entry ∈ batch.finished, entry.2 = .pending ∨ entry.1 ∈ order
  /-- These are the reports. -/
  events : s.events = start.events ++ order.filterMap fun p => errands[p]?.bind (·.event)
  /-- No attempt is counted. -/
  attempts : s.attempts = start.attempts
  /-- The cache is changed. -/
  changes : start.cache.Changes s.cache

namespace Batch

variable {rest : Seats α} {waiting : List (Nat × Errand)} {batch : Batch α} {order : List Nat}
  {seat : Seat Errand (Walk α)}

/-- Nobody is there twice as long as nobody is there more often than before. -/
theorem Reported.nodup_of_count {rest' : Seats α} {waiting' : List (Nat × Errand)}
    {batch' : Batch α} {order' : List Nat}
    (h : Reported errands start rest waiting batch order s)
    (hcount : ∀ p, (order' ++ unreported rest' waiting' batch').count p ≤
      (order ++ unreported rest waiting batch).count p) :
    (order' ++ unreported rest' waiting' batch').Nodup :=
  List.nodup_iff_count_le_one.mpr fun p =>
    Nat.le_trans (hcount p) (List.nodup_iff_count_le_one.mp h.nodup p)

theorem Reported.of_quiet (h : Reported errands start rest waiting batch order s)
    (hquiet : Quiet s s') : Reported errands start rest waiting batch order s' :=
  { h with
    events := hquiet.events.trans h.events
    attempts := hquiet.attempts.trans h.attempts
    changes := h.changes.trans hquiet.changes }

/-- The next one takes a seat that is given up. -/
theorem Reported.giveUp (h : Reported errands start rest waiting batch order s)
    (seat : Seat Errand (Walk α)) :
    Reported errands start rest waiting (batch.giveUp (fun _ => .fresh) seat) order s := by
  unfold FanOut.giveUp
  split
  · obtain ⟨seats, free, queue, finished⟩ := batch
    cases queue with
    | nil => exact { h with }
    | cons next queue =>
      -- the next one in the queue takes the seat, with its own position
      refine { h with nodup := h.nodup_of_count fun p => ?_, seated := ?_, waits := ?_ }
      · simp only [unreported, FanOut.sit, List.map_append, List.map_cons, List.map_nil,
          List.count_append, List.count_cons, List.count_nil]
        omega
      · intro other hother
        simp only [List.mem_append, List.mem_singleton] at hother
        rcases hother with hmem | hmem | rfl
        · exact h.seated other (List.mem_append_left _ hmem)
        · exact h.seated other (List.mem_append_right _ hmem)
        · exact h.waits next (List.mem_append_right _ List.mem_cons_self)
      · intro other hother
        refine h.waits other ?_
        rcases List.mem_append.mp hother with hmem | hmem
        · exact List.mem_append_left _ hmem
        · exact List.mem_append_right _ (List.mem_cons_of_mem _ hmem)
  · exact h

/-- A walk that goes on keeps its position. -/
theorem Reported.stay (h : Reported errands start (seat :: rest) waiting batch order s)
    (taken : Bool) (walk : Walk α) :
    Reported errands start rest waiting (batch.stay { seat with isTaken := taken } walk) order
      s := by
  have hitem := h.seated seat (List.mem_append_left _ List.mem_cons_self)
  refine { h with nodup := h.nodup_of_count fun p => ?_, seated := ?_ }
  · simp only [unreported, FanOut.stay, List.map_append, List.map_cons, List.map_nil,
      List.count_append, List.count_cons, List.count_nil]
    omega
  · intro other hother
    simp only [FanOut.stay, List.mem_append, List.mem_singleton] at hother
    rcases hother with hmem | hmem | rfl
    · exact h.seated other (List.mem_append_left _ (List.mem_cons_of_mem _ hmem))
    · exact h.seated other (List.mem_append_right _ hmem)
    · exact hitem

/-- A walk that leaves without an outcome leaves its position. -/
theorem Reported.leave (h : Reported errands start (seat :: rest) waiting batch order s) :
    Reported errands start rest waiting
      { batch with finished := batch.finished ++ [(seat.position, .pending)] } order s := by
  refine { h with nodup := h.nodup_of_count fun p => ?_, seated := ?_, ends := ?_ }
  · simp only [unreported, List.map_cons, List.count_append, List.count_cons]
    omega
  · intro other hother
    exact h.seated other (List.mem_cons_of_mem _ hother)
  · intro entry hentry
    rcases List.mem_append.mp hentry with hmem | hmem
    · exact h.ends entry hmem
    · obtain rfl := List.mem_singleton.mp hmem
      exact Or.inl rfl

/-- A walk that ends is reported, and it has left its position. -/
theorem Reported.report (h : Reported errands start (seat :: rest) waiting batch order s)
    (o : Outcome α) :
    Reported errands start rest waiting
      { batch with finished := batch.finished ++ [(seat.position, o)] }
      (order ++ [seat.position]) { s with events := s.events ++ seat.item.event.toList } := by
  have hitem := h.seated seat (List.mem_append_left _ List.mem_cons_self)
  refine ⟨h.nodup_of_count fun p => ?_, ?_, h.waits, ?_, ?_, ?_, h.attempts, h.changes⟩
  · simp only [unreported, List.map_cons, List.count_append, List.count_cons, List.count_nil]
    omega
  · intro other hother
    exact h.seated other (List.mem_cons_of_mem _ hother)
  · intro p hp
    rcases List.mem_append.mp hp with hmem | hmem
    · exact h.bounded p hmem
    · obtain rfl := List.mem_singleton.mp hmem
      exact (List.getElem?_eq_some_iff.mp hitem).1
  · intro entry hentry
    rcases List.mem_append.mp hentry with hmem | hmem
    · exact (h.ends entry hmem).imp_right (List.mem_append_left _)
    · obtain rfl := List.mem_singleton.mp hmem
      exact Or.inr (List.mem_append_right _ List.mem_cons_self)
  · have hlast : [seat.position].filterMap (fun p => errands[p]?.bind (·.event)) =
        seat.item.event.toList := by
      rw [List.filterMap_cons, hitem, Option.bind_some]
      cases seat.item.event <;> rfl
    rw [h.events, List.filterMap_append, hlast, List.append_assoc]

/-! ### Turns -/

/-- Some were reported. -/
def HasReported (errands : List Errand) (start : Session α σ) (rest : Seats α)
    (waiting : List (Nat × Errand)) (batch : Batch α) (s : Session α σ) : Prop :=
  ∃ order, Reported errands start rest waiting batch order s

section Turns

variable (hdecided : ∀ subtopic l, r.judge subtopic l ≠ .pending)

include hdecided

/-- **A visit of one seat** reports at most the one who has it. -/
theorem always_step (h : HasReported errands start (seat :: rest) waiting batch s) :
    JointWork.Always (FanOut.step (fun _ => .fresh) r.attend batch seat) s
      (HasReported errands start rest waiting) := by
  obtain ⟨order, h⟩ := h
  refine (always_attend hdecided seat.item seat.task).bind ?_
  rintro move s' (⟨o, s₁, rfl, hquiet, rfl⟩ | ⟨hquiet, hpending⟩) first
  · -- the seat is given up first, and its position is reported then
    exact ⟨_, ((h.of_quiet hquiet).giveUp seat).report o⟩
  · have h' := h.of_quiet hquiet
    cases move with
    | stay task => exact ⟨order, h'.stay seat.isTaken task⟩
    | linger task => exact ⟨order, (h'.giveUp seat).stay false task⟩
    | leave o =>
      obtain rfl := hpending o rfl
      exact ⟨order, (h'.giveUp seat).leave⟩

theorem always_visitSeats (rest : Seats α) :
    ∀ {batch : Batch α} {s : Session α σ}, HasReported errands start rest waiting batch s →
      JointWork.Always (rest.foldlM (FanOut.step (fun _ => .fresh) r.attend) batch) s
        (HasReported errands start [] waiting) := by
  induction rest with
  | nil => exact fun h _ => h
  | cons seat rest ih =>
    intro batch s h
    rw [List.foldlM_cons]
    exact (always_step hdecided h).bind fun _ _ h' => ih h'

theorem always_fill (waiting : List (Nat × Errand)) :
    ∀ {batch : Batch α} {s : Session α σ}, HasReported errands start [] waiting batch s →
      JointWork.Always (FanOut.fill (fun _ => .fresh) r.attend waiting batch) s
        (HasReported errands start [] []) := by
  induction waiting with
  | nil => exact fun h _ => h
  | cons next waiting ih =>
    rintro batch s ⟨order, h⟩
    unfold FanOut.fill
    cases hfree : batch.free with
    | zero =>
      -- no seat is left, and whoever waits stays in the queue
      refine fun _ => ⟨order, { h with nodup := h.nodup_of_count fun p => ?_, waits := ?_ }⟩
      · simp only [unreported, List.map_nil, List.count_append, List.count_nil]
        omega
      · exact fun other hother => h.waits other (List.mem_append_left _ hother)
    | succ free =>
      have h' : HasReported errands start [FanOut.sit (fun _ => .fresh) next] waiting
          { batch with free } s := by
        refine ⟨order, { h with nodup := h.nodup_of_count fun p => ?_, seated := ?_, waits := ?_ }⟩
        · simp only [unreported, FanOut.sit, List.map_cons, List.map_nil, List.count_append,
            List.count_cons, List.count_nil]
          omega
        · intro seat hseat
          rcases List.mem_cons.mp hseat with rfl | hmem
          · exact h.waits next (List.mem_append_left _ List.mem_cons_self)
          · exact h.seated seat hmem
        · exact fun other hother => h.waits other (List.mem_cons_of_mem _ hother)
      exact (always_step hdecided h').bind fun _ _ h₁ => ih h₁

/-- **A turn** reports whose walks end in it. -/
theorem always_turn (h : HasReported errands start [] [] batch s) :
    JointWork.Always (batch.turn (fun _ => .fresh) r.attend) s
      (HasReported errands start [] []) := by
  have h₀ : HasReported errands start batch.seats [] { batch with seats := [] } s := by
    obtain ⟨order, h⟩ := h
    refine ⟨order, { h with nodup := h.nodup_of_count fun p => ?_, seated := ?_ }⟩
    · simp only [unreported, List.map_nil, List.count_append, List.count_nil]
      omega
    · intro seat hseat
      rw [List.append_nil] at hseat
      exact h.seated seat hseat
  refine (always_visitSeats hdecided batch.seats h₀).bind ?_
  rintro batch₁ s₁ ⟨order, h₁⟩
  -- those who wait are taken out of the queue
  have h₁' : HasReported errands start [] batch₁.queue { batch₁ with queue := [] } s₁ := by
    refine ⟨order, { h₁ with nodup := h₁.nodup_of_count fun p => ?_, waits := ?_ }⟩
    · simp only [unreported, List.map_nil, List.count_append, List.count_nil]
      omega
    · intro next hnext
      rw [List.append_nil] at hnext
      exact h₁.waits next hnext
  exact always_fill hdecided batch₁.queue h₁'

theorem always_turns (n : Nat) :
    ∀ {batch : Batch α} {s : Session α σ}, HasReported errands start [] [] batch s →
      JointWork.Always (batch.turns (fun _ => .fresh) r.attend n) s
        (HasReported errands start [] []) := by
  induction n with
  | zero => exact fun h _ => h
  | succ n ih =>
    intro batch s h
    unfold FanOut.turns
    split
    · exact fun _ => h
    · exact (always_turn hdecided h).bind fun _ _ h' => ih h'

/-- **Some turns**, also those after a failure. -/
theorem ensures_turns_reported (joins n : Nat) :
    ∀ {batch : Batch α} {s : Session α σ}, HasReported errands start [] [] batch s →
      Ensures (r.turns joins n batch) s (HasReported errands start [] [])
        (fun _ s' => ∃ batch', HasReported errands start [] [] batch' s') := by
  induction n with
  | zero => exact fun h => h
  | succ n ih =>
    intro batch s h
    unfold turns
    split
    · exact h
    · rw [ensures_bind]
      refine (always_turn hdecided h none).mono ?_ (fun _ _ hfalse => hfalse.elim)
      rintro ⟨batch₁, _ | error⟩ s₁ h₁
      · exact ih h₁
      · simp only
        rw [ensures_bind, ensures_discard]
        refine (always_turns hdecided (grace joins) h₁ none).mono ?_
          (fun _ _ hfalse => hfalse.elim)
        exact fun out _ h₂ => ⟨out.1, h₂⟩

theorem ensures_waves_reported (joins n : Nat) :
    ∀ {batch : Batch α} {s : Session α σ}, HasReported errands start [] [] batch s →
      Ensures (r.waves joins n batch) s (HasReported errands start [] [])
        (fun _ s' => ∃ batch', HasReported errands start [] [] batch' s') := by
  induction n with
  | zero => exact fun h => h
  | succ n ih =>
    intro batch s h
    unfold waves wave
    rw [ensures_bind, ensures_bind]
    refine (ensures_turns_reported hdecided joins _ h).mono ?_ (fun _ _ => id)
    intro batch₁ s₁ h₁
    refine (ensures_turns_reported hdecided joins _ h₁).mono ?_ (fun _ _ => id)
    exact fun batch₂ s₂ h₂ => ih h₂

end Turns

/-! ### Events -/

theorem filterMap_range (errands : List Errand) :
    ((List.range errands.length).filterMap fun p => errands[p]?.bind (·.event)) =
      errands.filterMap (·.event) := by
  have hmap : (List.range errands.length).map (errands[·]?) = errands.map some := by
    apply List.ext_getElem
    · simp
    · intro i _ _
      simp
  have hcomp : (fun p : Nat => errands[p]?.bind (·.event)) =
      (fun e? : Option Errand => e?.bind (·.event)) ∘ fun p => errands[p]? := rfl
  rw [hcomp, ← List.filterMap_map, hmap, List.filterMap_map]
  rfl

theorem Reported.subperm (h : Reported errands start rest waiting batch order s) :
    (order.filterMap fun p => errands[p]?.bind (·.event)).Subperm
      (errands.filterMap (·.event)) := by
  have hnodup : order.Nodup := (List.nodup_append.mp h.nodup).1
  obtain ⟨some, hperm, hsub⟩ := List.subperm_of_subset hnodup
    (fun p hp => List.mem_range.mpr (h.bounded p hp))
  rw [← filterMap_range]
  exact ⟨_, hperm.filterMap _, hsub.filterMap _⟩

/-- If everyone got an outcome, everyone was reported. -/
theorem Reported.perm (h : Reported errands start rest waiting batch order s)
    (hpending : .pending ∉ (List.range errands.length).map fun position =>
      (batch.result? position).getD .pending) :
    (order.filterMap fun p => errands[p]?.bind (·.event)).Perm (errands.filterMap (·.event)) := by
  have hnodup : order.Nodup := (List.nodup_append.mp h.nodup).1
  rw [← filterMap_range]
  -- each position has an outcome, so it was reported
  refine List.Perm.filterMap _ ((List.perm_ext_iff_of_nodup hnodup List.nodup_range).mpr ?_)
  intro p
  refine ⟨fun hp => List.mem_range.mpr (h.bounded p hp), fun hp => ?_⟩
  have hne : (batch.result? p).getD .pending ≠ .pending :=
    fun heq => hpending (List.mem_map.mpr ⟨p, hp, heq⟩)
  unfold FanOut.result? at hne
  cases hfound : batch.finished.find? (·.1 == p) with
  | none =>
    rw [hfound] at hne
    exact absurd rfl hne
  | some entry =>
    rw [hfound] at hne
    have hfirst : (entry.1 == p) = true :=
      List.find?_some (p := fun x : Nat × Outcome α => x.1 == p) hfound
    have hposition : entry.1 = p := beq_iff_eq.mp hfirst
    rw [← hposition]
    exact (h.ends entry (List.mem_of_find?_eq_some hfound)).resolve_left hne

theorem reported_start (limit : Option Nat) (errands : List Errand) (s : Session α σ) :
    Reported errands s [] [] (FanOut.start limit errands : Batch α) [] s := by
  have hmap : (errands.mapIdx fun position item => (position, item)).map (·.1) =
      List.range errands.length := by
    apply List.ext_getElem
    · simp
    · intro i _ _
      simp
  refine ⟨?_, ?_, ?_, ?_, ?_, ?_, rfl, .refl⟩
  · simp only [unreported, FanOut.start, List.map_nil, List.nil_append, hmap]
    exact List.nodup_range
  · intro seat hseat
    cases hseat
  · intro next hnext
    simp only [FanOut.start, List.nil_append] at hnext
    obtain ⟨i, hi, rfl⟩ := List.mem_mapIdx.mp hnext
    exact List.getElem?_eq_getElem hi
  · intro p hp
    cases hp
  · intro entry hentry
    cases hentry
  · exact (List.append_nil _).symm

end Batch

/-- **What searches leave**, with what they have reported: the cache is changed, no attempt is
counted, and what is expected is reported at most once. -/
structure Tells (expected : List Event) (s rest : Session α σ) (reported : List Event) : Prop where
  /-- These are the reports. -/
  events : rest.events = s.events ++ reported
  /-- They are expected. -/
  subperm : reported.Subperm expected
  /-- No attempt is counted. -/
  attempts : rest.attempts = s.attempts
  /-- The cache is changed. -/
  changes : s.cache.Changes rest.cache

theorem Batch.Reported.tells {rest : Seats α} {waiting : List (Nat × Errand)} {batch : Batch α}
    {order : List Nat} (h : Reported errands start rest waiting batch order s) :
    Tells (errands.filterMap (·.event)) start s
      (order.filterMap fun p => errands[p]?.bind (·.event)) :=
  ⟨h.events, h.subperm, h.attempts, h.changes⟩

/-- **What searches report**: events of their errands, each at most once, and all of them if all
errands get outcomes. -/
theorem ensures_resolveAll_events (hdecided : ∀ subtopic l, r.judge subtopic l ≠ .pending)
    (limit : Option Nat) (errands : List Errand) (joins : Nat) (s : Session α σ) :
    Ensures (r.resolveAll limit errands joins) s
      (fun outcomes rest => outcomes.length = errands.length ∧
        ∃ reported, Tells (errands.filterMap (·.event)) s rest reported ∧
          (.pending ∉ outcomes → reported.Perm (errands.filterMap (·.event))))
      (fun _ rest => ∃ reported, Tells (errands.filterMap (·.event)) s rest reported) := by
  unfold resolveAll
  rw [ensures_bind]
  refine (Batch.ensures_waves_reported hdecided joins _
    ⟨[], Batch.reported_start limit errands s⟩).mono ?_ ?_
  · rintro batch rest ⟨order, h⟩
    refine ⟨?_, _, h.tells, h.perm⟩
    rw [List.length_map, List.length_range]
  · rintro error rest ⟨batch, order, h⟩
    exact ⟨_, h.tells⟩

end ContentPack.Resolver
