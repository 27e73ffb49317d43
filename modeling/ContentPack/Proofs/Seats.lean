import ContentPack.Assembly
import ContentPack.Proofs.Events
import ContentPack.Proofs.FanOut
import ContentPack.Proofs.Group
import ContentPack.Proofs.Retry

/-!
# Searches that share seats

A batch of searches is a fan-out whose loads are walks. Without its walks it is a fan-out of the
items that are searched for (`Resolver.Mirrors`), which takes the steps that calls can take, and
what the session is told are the reports of these steps (`Resolver.HasRun`). One visit keeps this,
so all turns do, unless a walk fails (`Resolver.ensures_resolveAll_run`).

So the bound and the order of what calls return hold of searches, too: at no moment a batch has more
seats than the limit says, and when it returns, every item has its outcome (`FanOut.fans_out`).
-/

namespace ContentPack

open FanOut (Ticket Call Entry Reached tickets)

namespace Resolver

open Work

variable {α σ : Type} {r : Resolver α σ} {m : Int}

/-! ### Items and searches -/

/-- A structure that is searched for, with the declared subtopic of a page. -/
abbrev Target := StructureId × Option Subtopic

/-- The search for an item, with the report of its place. -/
def errandOf (t : Ticket Target) : Errand :=
  { id := t.item.1, subtopic := t.item.2, event := some t.event }

/-- The searches for groups are the searches for the items of calls. -/
theorem map_errandOf_tickets (calls : List (Call Target)) :
    (tickets calls).map errandOf =
      calls.flatMap fun c => Assembler.errands c.group c.items := by
  induction calls using List.reverseRecOn with
  | nil => rfl
  | append_singleton calls c ih =>
    rw [FanOut.tickets_concat, List.map_append, ih, List.flatMap_append, List.flatMap_singleton]
    congr 1
    apply List.ext_getElem?
    intro index
    simp only [Call.tickets, Assembler.errands, List.getElem?_map, List.getElem?_mapIdx,
      Option.map_map]
    rfl

/-- **The seat of an item, and that of its walk**: the load of the item is the walk. -/
structure SameSeat (source : Source σ) (seat : Seat (Ticket Target) Bool)
    (other : Seat Errand (Walk α)) : Prop where
  /-- They are for the same position. -/
  position : other.position = seat.position
  /-- The walk is the search for the item. -/
  item : other.item = errandOf seat.item
  /-- Both keep others from being worked on, or neither does. -/
  isTaken : other.isTaken = seat.isTaken
  /-- If the load has begun, so has the walk. -/
  begun : seat.task = true → other.task.HasBegun source
  /-- If the load has not begun, the walk has not, either. -/
  fresh : seat.task = false → other.task = .fresh

/-- **A batch without its walks** is a fan-out of items, also while `rest` is still to be visited
and `waiting` still to be seated. -/
structure Mirrors (source : Source σ) (seats : List (Seat (Ticket Target) Bool))
    (held : List (Nat × Ticket Target)) (f : FanOut (Ticket Target) Bool (Outcome α))
    (rest : Seats α) (waiting : List (Nat × Errand)) (batch : Batch α) : Prop where
  /-- Those still to be visited. -/
  rest : List.Forall₂ (SameSeat source) seats rest
  /-- Those who were visited. -/
  seats : List.Forall₂ (SameSeat source) f.seats batch.seats
  /-- Those still to be seated. -/
  waiting : waiting = held.map fun e => (e.1, errandOf e.2)
  /-- Those who wait. -/
  queue : batch.queue = f.queue.map fun e => (e.1, errandOf e.2)
  /-- As many seats are free. -/
  free : batch.free = f.free
  /-- The same outcomes have come. -/
  finished : batch.finished = f.finished

/-- Nothing has begun in a seat that was just taken. -/
theorem sameSeat_sit (source : Source σ) (next : Nat × Ticket Target) :
    SameSeat source (FanOut.sit (fun _ => false) next)
      (FanOut.sit (fun _ => (.fresh : Walk α)) (next.1, errandOf next.2)) :=
  ⟨rfl, rfl, rfl, nofun, fun _ => rfl⟩

section Mirrors

variable {source : Source σ} {seat : Seat (Ticket Target) Bool}
  {seats : List (Seat (Ticket Target) Bool)} {held : List (Nat × Ticket Target)}
  {f : FanOut (Ticket Target) Bool (Outcome α)} {other : Seat Errand (Walk α)} {rest : Seats α}
  {waiting : List (Nat × Errand)} {batch : Batch α}

/-- A walk that stays has begun. -/
theorem Mirrors.stay (h : Mirrors source seats held f rest waiting batch)
    (hseat : SameSeat source seat other) {walk : Walk α} (hbegun : walk.HasBegun source) :
    Mirrors source seats held (f.stay seat true) rest waiting (batch.stay other walk) := by
  have hstays : SameSeat source { seat with task := true } { other with task := walk } :=
    { hseat with begun := fun _ => hbegun, fresh := nofun }
  exact { h with seats := List.rel_append h.seats (List.Forall₂.cons hstays List.Forall₂.nil) }

theorem Mirrors.giveUp (h : Mirrors source seats held f rest waiting batch)
    (hseat : SameSeat source seat other) :
    Mirrors source seats held (f.giveUp (fun _ => false) seat) rest waiting
      (batch.giveUp (fun _ => .fresh) other) := by
  obtain ⟨visited, free, queue, finished⟩ := f
  obtain ⟨visited', free', queue', finished'⟩ := batch
  obtain ⟨hrest, hseats, hwaiting, hqueue, hfree, hfinished⟩ := h
  simp only at hseats hqueue hfree hfinished
  subst hqueue hfree hfinished
  unfold FanOut.giveUp
  rw [hseat.isTaken]
  cases seat.isTaken with
  | false => exact ⟨hrest, hseats, hwaiting, rfl, rfl, rfl⟩
  | true =>
    cases queue with
    | nil => exact ⟨hrest, hseats, hwaiting, rfl, rfl, rfl⟩
    | cons next queue =>
      refine ⟨hrest, List.rel_append hseats ?_, hwaiting, rfl, rfl, rfl⟩
      exact List.Forall₂.cons (sameSeat_sit source next) List.Forall₂.nil

theorem Mirrors.leave (h : Mirrors source seats held f rest waiting batch)
    (hseat : SameSeat source seat other) (o : Outcome α) :
    Mirrors source seats held (f.move (fun _ => false) seat (.leave o)) rest waiting
      (batch.move (fun _ => .fresh) other (.leave o)) := by
  have hgiveUp := h.giveUp hseat
  refine { hgiveUp with finished := ?_ }
  show _ ++ [(other.position, o)] = _ ++ [(seat.position, o)]
  rw [hgiveUp.finished, hseat.position]

end Mirrors

/-! ### Visits -/

variable {calls : List (Call Target)} {start s : Session α σ} {rest : Seats α}
  {waiting : List (Nat × Errand)} {batch : Batch α}

/-- **A batch takes the steps that calls can take**, and the reports of these steps are what the
session is told. -/
def HasRun (source : Source σ) (m : Int) (calls : List (Call Target)) (start : Session α σ)
    (rest : Seats α) (waiting : List (Nat × Errand)) (batch : Batch α) (s : Session α σ) : Prop :=
  ∃ seats held f log, Reached m calls (FanOut.around f seats held) log ∧
    Mirrors source seats held f rest waiting batch ∧
    s.events = start.events ++ log.filterMap Entry.event?

/-- At first nothing has happened. -/
theorem hasRun_start (source : Source σ) (hm : 1 ≤ m) (calls : List (Call Target))
    (s : Session α σ) :
    HasRun source m calls s [] [] (.start (FanOut.seatLimit (some m))
      (calls.flatMap fun c => Assembler.errands c.group c.items) : Batch α) s := by
  rw [← map_errandOf_tickets]
  refine ⟨[], [], .start (FanOut.seatLimit (some m)) (tickets calls), [], ?_, ?_, by simp⟩
  · rw [FanOut.around_nil]
    exact FanOut.reached_start hm calls
  · refine ⟨List.Forall₂.nil, List.Forall₂.nil, rfl, ?_, ?_, rfl⟩
    · apply List.ext_getElem?
      intro position
      simp [FanOut.start, Function.comp_def]
    · simp only [FanOut.start, List.length_map]

/-- **A batch keeps the bound**, also in the middle of a turn. -/
theorem HasRun.length_le {source : Source σ} (hm : 1 ≤ m)
    (h : HasRun source m calls start rest waiting batch s) :
    ((rest.length + batch.seats.length : Nat) : Int) ≤ m := by
  obtain ⟨seats, held, f, log, hreached, hmirrors, -⟩ := h
  have hlimit := (hreached.keeps hm).limit
  have hrest := hmirrors.rest.length_eq
  have hseats := hmirrors.seats.length_eq
  simp only [FanOut.around, List.length_append] at hlimit
  omega

/-- A walk that has not failed goes on in silence, or it leaves with its report. -/
theorem ensures_attend_reports (hdecided : ∀ subtopic l, r.judge subtopic l ≠ .pending) (e : Errand)
    {walk : Walk α} (hwalk : walk = .fresh ∨ walk.HasBegun r.source) :
    JointWork.Ensures (r.attend e walk) s (fun move rest =>
      (∃ walk', move = .stay walk' ∧ walk'.HasBegun r.source ∧ rest.events = s.events) ∨
        ∃ o, move = .leave o ∧ rest.events = s.events ++ e.event.toList) (fun _ => True) := by
  unfold attend JointWork.Ensures
  rw [StateT.run_bind, ensures_bind, JointWork.ensures_run_lift]
  have hvisit : Respects Quiet (r.visit e walk) := respects_visit permits_quiet (hdecided _) walk
  refine ((ensures_visit_nearer hwalk s).both (hvisit s)).mono ?_ (fun _ _ h => h.1)
  rintro walk' rest ⟨hnearer, hquiet⟩
  cases walk' with
  | ended outcome =>
    simp only
    cases e.event with
    | none => exact Or.inr ⟨outcome, rfl, by simp [hquiet.events]⟩
    | some event =>
      rw [StateT.run_bind, ensures_bind, JointWork.ensures_run_lift, ensures_report]
      exact Or.inr ⟨outcome, rfl, by simp [hquiet.events]⟩
  | failed error load => exact trivial
  | fresh => exact hnearer.begun.elim
  | loading purpose load => exact Or.inl ⟨_, rfl, hnearer.begun, hquiet.events⟩

section Run

variable (hm : 1 ≤ m) (hdecided : ∀ subtopic l, r.judge subtopic l ≠ .pending)

include hm hdecided

/-- **A visit of one seat** is a few of these steps. -/
theorem ensures_step_run {other : Seat Errand (Walk α)}
    (h : HasRun r.source m calls start (other :: rest) waiting batch s) :
    JointWork.Ensures (FanOut.step (fun _ => .fresh) r.attend batch other) s
      (fun batch' s' => HasRun r.source m calls start rest waiting batch' s' ∧
        (batch.queue = [] → batch'.queue = [])) (fun _ => True) := by
  obtain ⟨_, held, f, log, hreached, hmirrors, hevents⟩ := h
  obtain ⟨seat, seats, hseat, hrest, rfl⟩ := List.forall₂_cons_right_iff.mp hmirrors.rest
  have hmirrors : Mirrors r.source seats held f rest waiting batch :=
    { hmirrors with rest := hrest }
  have htaken := ((hreached.keeps hm).seated seat List.mem_cons_self).2.1
  have hopened : (if seat.task then log else log ++ [.began seat.item]).filterMap Entry.event? =
      log.filterMap Entry.event? := by
    split <;> simp [Entry.event?]
  have hwalk : other.task = .fresh ∨ other.task.HasBegun r.source := by
    cases htask : seat.task with
    | false => exact Or.inl (hseat.fresh htask)
    | true => exact Or.inr (hseat.begun htask)
  refine (ensures_attend_reports hdecided other.item hwalk).bind
    (fun _ => JointWork.steady_pure _) ?_
  rintro move s' (⟨walk, rfl, hbegun, hs'⟩ | ⟨o, rfl, hs'⟩)
  · refine JointWork.ensures_pure
      ⟨⟨seats, held, _, _, hreached.goOn, hmirrors.stay hseat hbegun, ?_⟩, id⟩
    rw [hs', hopened, hevents]
  · refine JointWork.ensures_pure ⟨⟨seats, held, _, _, hreached.leave htaken o,
      hmirrors.leave hseat o, ?_⟩, fun hqueue => FanOut.queue_move _ hqueue _ _⟩
    rw [hs', hevents, List.filterMap_append, hopened, hseat.item, List.append_assoc]
    rfl

theorem ensures_visitSeats_run (rest : Seats α) :
    ∀ {batch : Batch α} {s : Session α σ}, HasRun r.source m calls start rest waiting batch s →
      JointWork.Ensures (rest.foldlM (FanOut.step (fun _ => .fresh) r.attend) batch) s
        (HasRun r.source m calls start [] waiting) (fun _ => True) := by
  induction rest with
  | nil => exact fun h => JointWork.ensures_pure h
  | cons other rest ih =>
    intro batch s h
    rw [List.foldlM_cons]
    exact (ensures_step_run hm hdecided h).bind (fun _ => Batch.steady_visitSeats rest _)
      fun _ _ h' => ih h'.1

theorem ensures_fill_run (waiting : List (Nat × Errand)) :
    ∀ {batch : Batch α} {s : Session α σ}, HasRun r.source m calls start [] waiting batch s →
      batch.queue = [] →
      JointWork.Ensures (FanOut.fill (fun _ => .fresh) r.attend waiting batch) s
        (HasRun r.source m calls start [] []) (fun _ => True) := by
  induction waiting with
  | nil => exact fun h _ => JointWork.ensures_pure h
  | cons next waiting ih =>
    rintro batch s ⟨seats, held, f, log, hreached, hmirrors, hevents⟩ hqueue
    obtain rfl := List.forall₂_nil_right_iff.mp hmirrors.rest
    have hfqueue : f.queue = [] := List.map_eq_nil_iff.mp (hmirrors.queue.symm.trans hqueue)
    unfold FanOut.fill
    cases hfree : batch.free with
    | zero =>
      -- no seat is left, and whoever waits stays in the queue
      refine JointWork.ensures_pure ⟨[], [], { f with queue := held }, log, ?_, ?_, hevents⟩
      · simpa [FanOut.around, hfqueue] using hreached
      · exact { hmirrors with
          waiting := rfl, queue := hmirrors.waiting, free := by rw [← hmirrors.free, hfree] }
    | succ free =>
      obtain ⟨ticket, held, rfl, rfl, rfl⟩ := List.map_eq_cons_iff.mp hmirrors.waiting.symm
      have h' : HasRun r.source m calls start
          [FanOut.sit (fun _ => .fresh) (ticket.1, errandOf ticket.2)]
          (held.map fun e => (e.1, errandOf e.2)) { batch with free } s := by
        refine ⟨_, held, { f with free }, log,
          hreached.seatNext hfqueue (hmirrors.free.symm.trans hfree), ?_, hevents⟩
        exact { hmirrors with
          rest := List.Forall₂.cons (sameSeat_sit r.source ticket) List.Forall₂.nil
          waiting := rfl
          free := rfl }
      refine (ensures_step_run hm hdecided h').bind (fun _ => Batch.steady_fill _ _) ?_
      exact fun _ _ h₁ => ih h₁.1 (h₁.2 hqueue)

/-- **A turn** is a run of such steps. -/
theorem ensures_turn_run (h : HasRun r.source m calls start [] [] batch s) :
    JointWork.Ensures (batch.turn (fun _ => .fresh) r.attend) s
      (HasRun r.source m calls start [] []) (fun _ => True) := by
  have h₀ : HasRun r.source m calls start batch.seats [] { batch with seats := [] } s := by
    obtain ⟨seats, held, f, log, hreached, hmirrors, hevents⟩ := h
    obtain rfl := List.forall₂_nil_right_iff.mp hmirrors.rest
    refine ⟨f.seats, held, { f with seats := [] }, log, ?_, ?_, hevents⟩
    · simpa [FanOut.around] using hreached
    · exact { hmirrors with rest := hmirrors.seats, seats := List.Forall₂.nil }
  refine (ensures_visitSeats_run hm hdecided batch.seats h₀).bind
    (fun _ => Batch.steady_fill _ _) ?_
  rintro batch₁ s₁ ⟨seats, held, f, log, hreached, hmirrors, hevents⟩
  obtain rfl := List.forall₂_nil_right_iff.mp hmirrors.rest
  obtain rfl := List.map_eq_nil_iff.mp hmirrors.waiting.symm
  -- those who wait are taken out of the queue
  refine ensures_fill_run hm hdecided batch₁.queue ⟨[], f.queue, { f with queue := [] }, log, ?_,
    { hmirrors with waiting := hmirrors.queue, queue := rfl }, hevents⟩ rfl
  simpa [FanOut.around] using hreached

theorem ensures_turns_run (joins n : Nat) :
    ∀ {batch : Batch α} {s : Session α σ}, HasRun r.source m calls start [] [] batch s →
      Ensures (r.turns joins n batch) s (HasRun r.source m calls start [] [])
        (fun _ _ => True) := by
  induction n with
  | zero => exact fun h => h
  | succ n ih =>
    intro batch s h
    unfold turns
    split
    · exact h
    · rw [ensures_bind]
      refine Work.Ensures.mono (ensures_turn_run hm hdecided h) ?_ (fun _ _ hfalse => hfalse.elim)
      rintro ⟨batch₁, _ | error⟩ s₁ h₁
      · exact ih h₁
      · -- a walk has failed, so there is nothing to return
        simp only
        rw [ensures_bind]
        exact (ensures_true _ s₁).mono (fun _ _ _ => trivial) (fun _ _ => id)

theorem ensures_waves_run (joins n : Nat) :
    ∀ {batch : Batch α} {s : Session α σ}, HasRun r.source m calls start [] [] batch s →
      Ensures (r.waves joins n batch) s (HasRun r.source m calls start [] [])
        (fun _ _ => True) := by
  induction n with
  | zero => exact fun h => h
  | succ n ih =>
    intro batch s h
    unfold waves wave
    rw [ensures_bind, ensures_bind]
    refine (ensures_turns_run hm hdecided joins _ h).mono ?_ (fun _ _ => id)
    intro batch₁ s₁ h₁
    refine (ensures_turns_run hm hdecided joins _ h₁).mono ?_ (fun _ _ => id)
    exact fun batch₂ s₂ h₂ => ih h₂

/-- **Searches for the items of calls** are a run of the steps that calls can take, and it goes on
until every item is finished. -/
theorem ensures_resolveAll_run (calls : List (Call Target)) (joins : Nat) (s : Session α σ) :
    Ensures (r.resolveAll (FanOut.seatLimit (some m))
        (calls.flatMap fun c => Assembler.errands c.group c.items) joins) s
      (fun outcomes rest => .pending ∉ outcomes ∧
        ∃ (fan : FanOut (Ticket Target) Bool (Outcome α)) (log : _), Reached m calls fan log ∧
          outcomes.map some = (List.range (tickets calls).length).map fan.result? ∧
          rest.events = s.events ++ log.filterMap Entry.event?)
      (fun _ _ => True) := by
  have hrun : Ensures (r.resolveAll (FanOut.seatLimit (some m))
      (calls.flatMap fun c => Assembler.errands c.group c.items) joins) s
      (fun outcomes rest => ∃ (fan : FanOut (Ticket Target) Bool (Outcome α)) (log : _),
        Reached m calls fan log ∧
        outcomes = (List.range (tickets calls).length).map (fun position =>
          (fan.result? position).getD .pending) ∧
        rest.events = s.events ++ log.filterMap Entry.event?) (fun _ _ => True) := by
    unfold resolveAll
    rw [ensures_bind]
    refine (ensures_waves_run hm hdecided joins _ (hasRun_start r.source hm calls s)).mono ?_
      (fun _ _ => id)
    rintro batch rest ⟨seats, held, f, log, hreached, hmirrors, hevents⟩
    obtain rfl := List.forall₂_nil_right_iff.mp hmirrors.rest
    obtain rfl := List.map_eq_nil_iff.mp hmirrors.waiting.symm
    refine ⟨f, log, FanOut.around_nil f ▸ hreached, ?_, hevents⟩
    rw [← map_errandOf_tickets, List.length_map]
    simp only [FanOut.result?, hmirrors.finished]
  have hended := ensures_resolveAll_ended r
    (calls.flatMap fun c => Assembler.errands c.group c.items)
    (FanOut.seatLimit_ne_zero (some m)) joins s
  refine (hended.and hrun).mono ?_ (fun _ _ => id)
  rintro outcomes rest ⟨hpending, fan, log, hreached, rfl, hevents⟩
  refine ⟨hpending, fan, log, hreached, ?_, hevents⟩
  rw [List.map_map]
  refine List.map_congr_left fun position hposition => ?_
  cases hresult : fan.result? position with
  | some o => simp only [Function.comp_apply, hresult, Option.getD_some]
  | none =>
    -- an item without a result would have a pending outcome
    refine absurd (List.mem_map.mpr ⟨position, hposition, ?_⟩) hpending
    rw [hresult, Option.getD_none]

end Run

end Resolver

/-! ### The bound and the results -/

namespace FanOut

variable {ι ρ σ : Type} {m : Int}

/-- **A shared fan-out keeps its bound and loses nothing.** Let calls share the seats of a limit,
come in at any time and have their items loaded in any order. At no moment more loads are under way
than the limit says. When a call returns, each of its items was loaded once and then reported once,
under its own index and the group of the call, and the results are in the order of the items; until
then there is something to go on with.

What runs is of this kind: turns in which items are visited, whatever their loads do, and searches
for groups, unless one of them fails. After any number of turns no more walks have seats than the
limit says, and in the end every item has an outcome, which is its own result. -/
theorem fans_out (hm : 1 ≤ m) :
    (∀ (calls : List (Call ι)) (fan : FanOut (Ticket ι) Bool ρ) (log : List (Entry ι ρ)),
      Reached m calls fan log →
      (∀ past, past <+: log → ∀ ts : List (Ticket ι), ts.Nodup →
        (∀ t ∈ ts, t.IsUnderWay past) → (ts.length : Int) ≤ m) ∧
      (∀ e ∈ log, e.ticket ∈ tickets calls) ∧
      (∀ number results, results? calls fan number = some results →
        ∃ c, calls[number]? = some c ∧ results.length = c.items.length ∧
          ∀ (index : Nat) item r, c.items[index]? = some item → results[index]? = some r →
            history log (number, index) = [.began ⟨number, c.group, index, item⟩,
              .ended ⟨number, c.group, index, item⟩ r,
              .reported ⟨number, c.group, index, item⟩ (.item c.group index)]) ∧
      ∀ (number : Nat) c, calls[number]? = some c → results? calls fan number = none →
        fan.seats ≠ [] ∨ (fan.queue ≠ [] ∧ fan.free ≠ 0)) ∧
    (∀ calls : List (Call ι), Reached m calls
      (.start (seatLimit (some m)) (tickets calls) : FanOut (Ticket ι) Bool ρ) []) ∧
    (∀ (calls : List (Call ι)) (fan : FanOut (Ticket ι) Bool ρ) (log : List (Entry ι ρ)),
      Reached m calls fan log → ∀ (load : Ticket ι → StateM σ (Option ρ)) (n : Nat) (state : σ),
        Reached m calls (fan.turns (fun _ => false) (Ticket.visit load) n (state, log)).1
          (fan.turns (fun _ => false) (Ticket.visit load) n (state, log)).2.2) ∧
    ∀ (source : Source σ) (checker : Checker) (window : Int) (calls : List (Call Resolver.Target))
      (joins : Nat) (s rest : Session Loaded σ),
      let r : Resolver Loaded σ := { source, judge := checker.judge, window }
      let errands := calls.flatMap fun c => Assembler.errands c.group c.items
      (∀ (k n : Nat) (batch : Resolver.Batch Loaded),
        ExceptT.run (r.waves joins k (.start (seatLimit (some m)) errands) >>=
            r.turns joins n) s = (.ok batch, rest) →
          (batch.seats.length : Int) ≤ m ∧ Resolver.HasRun source m calls s [] [] batch rest) ∧
      ∀ outcomes : List (Outcome Loaded),
        ExceptT.run (r.resolveAll (seatLimit (some m)) errands joins) s = (.ok outcomes, rest) →
          .pending ∉ outcomes ∧
          ∃ (fan : FanOut (Ticket Resolver.Target) Bool (Outcome Loaded)) (log : _),
            Reached m calls fan log ∧
            outcomes.map some = (List.range (tickets calls).length).map fan.result? ∧
            rest.events = s.events ++ log.filterMap Entry.event? := by
  refine ⟨?_, reached_start hm, fun calls fan log h load n state => h.turns hm load n state, ?_⟩
  · intro calls fan log h
    have hkeeps := h.keeps hm
    refine ⟨?_, hkeeps.own, fun number results => hkeeps.of_results?,
      fun number c => hkeeps.exists_next hm⟩
    intro past hpast ts hts hunderWay
    have hlength := h.length_le hm hpast hts hunderWay
    omega
  · intro source checker window calls joins s rest r errands
    constructor
    · intro k n batch hrun
      have hensures : Work.Ensures (r.waves joins k (.start (seatLimit (some m)) errands) >>=
          r.turns joins n) s (Resolver.HasRun source m calls s [] []) (fun _ _ => True) := by
        rw [Work.ensures_bind]
        refine (Resolver.ensures_waves_run hm checker.judge_ne_pending joins k
          (Resolver.hasRun_start source hm calls s)).mono ?_ (fun _ _ => id)
        exact fun _ _ h => Resolver.ensures_turns_run hm checker.judge_ne_pending joins n h
      unfold Work.Ensures at hensures
      rw [hrun] at hensures
      exact ⟨by simpa using hensures.length_le hm, hensures⟩
    · intro outcomes hrun
      have hensures := Resolver.ensures_resolveAll_run (r := r) hm checker.judge_ne_pending calls
        joins s
      unfold Work.Ensures at hensures
      rw [hrun] at hensures
      exact hensures

/-! ### Two calls at the same time -/

namespace Shared

/-- Two calls; the second one repeats an item. -/
def calls : List (Call String) := [⟨.story, ["a"]⟩, ⟨.subtopic, ["b", "b"]⟩]

/-- The loads of the second call end sooner. -/
def load (t : Ticket String) : StateM Nat (Option String) := fun clock =>
  (if 4 ≤ clock + 3 * t.call then some (t.item ++ toString t.index) else none, clock + 1)

/-- What a number of turns come to, with two seats. -/
def after (turns : Nat) : FanOut (Ticket String) Bool String × Nat × List (Entry String String) :=
  (FanOut.start (seatLimit (some 2)) (tickets calls)).turns (fun _ => false) (Ticket.visit load)
    turns (0, [])

/-- The second call returns while the first one waits; no three loads are ever under way. -/
theorem second_returns_first :
    results? calls (after 1).1 1 = some ["b0", "b1"] ∧ results? calls (after 1).1 0 = none ∧
    results? calls (after 4).1 0 = some ["a0"] ∧
    history (after 4).2.2 (1, 1) = [.began ⟨1, .subtopic, 1, "b"⟩,
      .ended ⟨1, .subtopic, 1, "b"⟩ "b1",
      .reported ⟨1, .subtopic, 1, "b"⟩ (.item .subtopic 1)] ∧
    ∀ past, past <+: (after 4).2.2 → ∀ ts : List (Ticket String), ts.Nodup →
      (∀ t ∈ ts, t.IsUnderWay past) → (ts.length : Int) ≤ 2 := by
  obtain ⟨hreached, hstart, hturns, -⟩ :=
    fans_out (m := 2) (ι := String) (ρ := String) (σ := Nat) (by decide)
  have h4 := hreached calls _ _ (hturns calls _ _ (hstart calls) load 4 0)
  have hreturned : results? calls (after 4).1 1 = some ["b0", "b1"] := by decide +kernel
  obtain ⟨c, hc, -, hhistory⟩ := h4.2.2.1 1 _ hreturned
  obtain rfl := Option.some.inj hc
  exact ⟨by decide +kernel, by decide +kernel, by decide +kernel, hhistory 1 "b" "b1" rfl rfl, h4.1⟩

end Shared

end FanOut

end ContentPack
