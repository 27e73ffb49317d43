import ContentPack.Proofs.Joint

/-!
# Structures that are resolved at the same time

`Batch.Holds` says that every errand of a group has its place: it has a seat, it waits, or it is
finished, and what holds of it there is kept by a `JointInvariant`. One visit keeps this
(`ensures_step`), and so does a whole turn (`ensures_turn`). A turn brings every seated walk one
visit closer to its end, unless one of them finishes (`Brought`).

So every wave finishes an errand (`ensures_wave`), and there are as many waves as errands: all
errands get their outcomes (`ensures_resolveAll`). No walk has to be left alone for that, so
searches end also if several of them are for the same structure (`ensures_resolveAll_ended`).
-/

namespace ContentPack.Resolver

variable {α σ : Type} {r : Resolver α σ} {errands : List Errand}

/-- Walks that have a seat. -/
abbrev Seats (α : Type) := List (Seat Errand (Walk α))

/-! ### Every errand has its place -/

/-- The positions of those still to be visited, of the seats, of those still to be seated, of those
that wait, and of those that are finished. -/
def Batch.positions (rest : Seats α) (waiting : List (Nat × Errand)) (batch : Batch α) :
    List Nat :=
  rest.map (·.position) ++ batch.seats.map (·.position) ++ waiting.map (·.1) ++
    batch.queue.map (·.1) ++ batch.finished.map (·.1)

/-- What holds of the errands in their places. -/
structure Batch.Keeps (I : JointInvariant r errands) (rest : Seats α)
    (waiting : List (Nat × Errand)) (batch : Batch α) (s : Session α σ) : Prop where
  /-- Whoever has a seat is under way. -/
  seated : ∀ seat ∈ rest ++ batch.seats, errands[seat.position]? = some seat.item ∧
    I.standing seat.item seat.task s ∧ seat.isTaken = true
  /-- Whoever waits has not started. -/
  waits : ∀ next ∈ waiting ++ batch.queue, errands[next.1]? = some next.2 ∧
    I.standing next.2 .fresh s
  /-- Whoever is finished has an outcome. -/
  ends : ∀ entry ∈ batch.finished, ∃ e, errands[entry.1]? = some e ∧ I.settled e entry.2 s

/-- **Every errand has its place**, also while `rest` is still to be visited and `waiting` still to
be seated. -/
structure Batch.Holds (I : JointInvariant r errands) (rest : Seats α)
    (waiting : List (Nat × Errand)) (batch : Batch α) (s : Session α σ) : Prop where
  /-- No position is lost, and none is there twice. -/
  placed : (positions rest waiting batch).Perm (List.range errands.length)
  /-- What holds in the places. -/
  keeps : Keeps I rest waiting batch s

/-- **How far a batch was brought**: nothing that was finished is lost, and there are as many seats
as before; if nothing was finished, every walk is one visit closer to its end. -/
structure Batch.Brought (near : Walk α → Nat → Prop) (rest : Seats α) (batch batch' : Batch α) :
    Prop where
  /-- Nothing that was finished is lost. -/
  more : batch.finished.length ≤ batch'.finished.length
  /-- A seat is taken or free. -/
  room : batch'.free + batch'.seats.length = batch.free + batch.seats.length + rest.length
  /-- Nobody comes to wait. -/
  nobody : batch.queue = [] → batch'.queue = []
  /-- Something was finished, or the walks are closer to their ends. -/
  closer : batch.finished.length < batch'.finished.length ∨
    (batch'.free = batch.free ∧ batch'.queue = batch.queue ∧
      ∀ k, (∀ seat ∈ batch.seats, near seat.task k) →
        (∀ seat ∈ rest, near seat.task (k + 1)) → ∀ seat ∈ batch'.seats, near seat.task k)

namespace Batch

variable {I : JointInvariant r errands} {rest : Seats α} {waiting : List (Nat × Errand)}
  {batch batch' batch'' : Batch α} {s s' : Session α σ} {seat : Seat Errand (Walk α)}
  {near : Walk α → Nat → Prop}

theorem Brought.refl (near : Walk α → Nat → Prop) (batch : Batch α) :
    Brought near [] batch batch where
  more := Nat.le_refl _
  room := rfl
  nobody := id
  closer := Or.inr ⟨rfl, rfl, fun _ h _ => h⟩

theorem Brought.cons (h : Brought near [seat] batch batch')
    (h' : Brought near rest batch' batch'') : Brought near (seat :: rest) batch batch'' where
  more := Nat.le_trans h.more h'.more
  room := by
    have hroom := h.room
    have hroom' := h'.room
    rw [List.length_singleton] at hroom
    rw [List.length_cons]
    omega
  nobody hqueue := h'.nobody (h.nobody hqueue)
  closer := by
    rcases h.closer with hlt | ⟨hfree, hqueue, hnear⟩
    · exact Or.inl (Nat.lt_of_lt_of_le hlt h'.more)
    · rcases h'.closer with hlt | ⟨hfree', hqueue', hnear'⟩
      · exact Or.inl (Nat.lt_of_le_of_lt h.more hlt)
      · refine Or.inr ⟨hfree'.trans hfree, hqueue'.trans hqueue, ?_⟩
        intro k hseats hrest
        refine hnear' k (hnear k hseats ?_) ?_
        · intro other hother
          obtain rfl := List.mem_singleton.mp hother
          exact hrest other List.mem_cons_self
        · exact fun other hother => hrest other (List.mem_cons_of_mem _ hother)

/-! ### One visit -/

/-- What holds in other places does not change by a visit. -/
theorem Keeps.frame {e : Errand} (h : Keeps I rest waiting batch s) (hframes : I.Frames e s s')
    (hother : ∀ p ∈ positions rest waiting batch, ∀ e', errands[p]? = some e' → I.apart e' e) :
    Keeps I rest waiting batch s' := by
  have hframe : ∀ p ∈ positions rest waiting batch, ∀ e', errands[p]? = some e' →
      (∀ walk, I.standing e' walk s → I.standing e' walk s') ∧
        ∀ o, I.settled e' o s → I.settled e' o s' := by
    intro p hp e' he'
    exact hframes.2 e' (List.mem_of_getElem? he') (hother p hp e' he')
  unfold positions at hframe
  simp only [List.mem_append, List.mem_map] at hframe
  constructor
  · intro seat hseat
    obtain ⟨hitem, hstanding, htaken⟩ := h.seated seat hseat
    refine ⟨hitem, (hframe seat.position ?_ _ hitem).1 _ hstanding, htaken⟩
    rcases List.mem_append.mp hseat with hmem | hmem
    · exact Or.inl (Or.inl (Or.inl (Or.inl ⟨seat, hmem, rfl⟩)))
    · exact Or.inl (Or.inl (Or.inl (Or.inr ⟨seat, hmem, rfl⟩)))
  · intro next hnext
    obtain ⟨hitem, hstanding⟩ := h.waits next hnext
    refine ⟨hitem, (hframe next.1 ?_ _ hitem).1 _ hstanding⟩
    rcases List.mem_append.mp hnext with hmem | hmem
    · exact Or.inl (Or.inl (Or.inr ⟨next, hmem, rfl⟩))
    · exact Or.inl (Or.inr ⟨next, hmem, rfl⟩)
  · intro entry hentry
    obtain ⟨e', hitem, hsettled⟩ := h.ends entry hentry
    exact ⟨e', hitem, (hframe entry.1 (Or.inr ⟨entry, hentry, rfl⟩) _ hitem).2 _ hsettled⟩

/-- No position is lost as long as each is there as often as before. -/
theorem Holds.placed_of_count {rest' : Seats α} {waiting' : List (Nat × Errand)}
    (h : Holds I rest waiting batch s)
    (hcount : ∀ p, (positions rest' waiting' batch').count p =
      (positions rest waiting batch).count p) :
    (positions rest' waiting' batch').Perm (List.range errands.length) :=
  (List.perm_iff_count.mpr hcount).trans h.placed

/-- The errand of a walk that stays has a place, with the walk that is left. -/
theorem Holds.stay {walk : Walk α} (h : Holds I (seat :: rest) waiting batch s)
    (hkeeps : Keeps I rest waiting batch s') (hstanding : I.standing seat.item walk s') :
    Holds I rest waiting (batch.stay seat walk) s' := by
  obtain ⟨hitem, -, htaken⟩ := h.keeps.seated seat (List.mem_append_left _ List.mem_cons_self)
  refine ⟨?_, ?_, hkeeps.waits, hkeeps.ends⟩
  · refine h.placed_of_count fun p => ?_
    simp only [positions, FanOut.stay, List.map_append, List.map_cons, List.map_nil,
      List.count_append, List.count_cons, List.count_nil]
    omega
  · intro other hother
    simp only [FanOut.stay, List.mem_append, List.mem_singleton] at hother
    rcases hother with hmem | hmem | rfl
    · exact hkeeps.seated other (List.mem_append_left _ hmem)
    · exact hkeeps.seated other (List.mem_append_right _ hmem)
    · exact ⟨hitem, hstanding, htaken⟩

/-- A seat that nobody waits for is free. -/
theorem leave_of_queue_nil (htaken : seat.isTaken = true) (hqueue : batch.queue = [])
    (o : Outcome α) :
    batch.move (fun _ => .fresh) seat (.leave o) =
      { batch with
        free := batch.free + 1
        finished := batch.finished ++ [(seat.position, o)] } := by
  unfold FanOut.move FanOut.giveUp
  rw [if_pos htaken, hqueue]

/-- The next one takes the seat. -/
theorem leave_of_queue_cons {next : Nat × Errand} {queue : List (Nat × Errand)}
    (htaken : seat.isTaken = true) (hqueue : batch.queue = next :: queue) (o : Outcome α) :
    batch.move (fun _ => .fresh) seat (.leave o) =
      { batch with
        seats := batch.seats ++ [FanOut.sit (fun _ => .fresh) next]
        queue
        finished := batch.finished ++ [(seat.position, o)] } := by
  unfold FanOut.move FanOut.giveUp
  rw [if_pos htaken, hqueue]

/-- The errand of a walk that leaves is finished, and the next one takes its seat. -/
theorem Holds.leave {o : Outcome α} (h : Holds I (seat :: rest) waiting batch s)
    (hkeeps : Keeps I rest waiting batch s') (hsettled : I.settled seat.item o s') :
    Holds I rest waiting (batch.move (fun _ => .fresh) seat (.leave o)) s' := by
  obtain ⟨hitem, -, htaken⟩ := h.keeps.seated seat (List.mem_append_left _ List.mem_cons_self)
  have hends : ∀ entry ∈ batch.finished ++ [(seat.position, o)],
      ∃ e, errands[entry.1]? = some e ∧ I.settled e entry.2 s' := by
    intro entry hentry
    rcases List.mem_append.mp hentry with hmem | hmem
    · exact hkeeps.ends entry hmem
    · obtain rfl := List.mem_singleton.mp hmem
      exact ⟨seat.item, hitem, hsettled⟩
  cases hqueue : batch.queue with
  | nil =>
    -- its position goes over to those that are finished
    rw [leave_of_queue_nil htaken hqueue]
    refine ⟨?_, hkeeps.seated, hkeeps.waits, hends⟩
    refine h.placed_of_count fun p => ?_
    simp only [positions, List.map_append, List.map_cons, List.map_nil, List.count_append,
      List.count_cons, List.count_nil]
    omega
  | cons next queue =>
    -- and that of the next one from the queue to the seats
    have hwaits := hkeeps.waits
    rw [hqueue] at hwaits
    rw [leave_of_queue_cons htaken hqueue]
    refine ⟨?_, ?_, ?_, hends⟩
    · refine h.placed_of_count fun p => ?_
      simp only [positions, hqueue, FanOut.sit, List.map_append, List.map_cons, List.map_nil,
        List.count_append, List.count_cons, List.count_nil]
      omega
    · intro other hother
      simp only [List.mem_append, List.mem_singleton] at hother
      rcases hother with hmem | hmem | rfl
      · exact hkeeps.seated other (List.mem_append_left _ hmem)
      · exact hkeeps.seated other (List.mem_append_right _ hmem)
      · obtain ⟨hitem', hstanding'⟩ := hwaits next (List.mem_append_right _ List.mem_cons_self)
        exact ⟨hitem', hstanding', rfl⟩
    · intro other hother
      refine hwaits other ?_
      rcases List.mem_append.mp hother with hmem | hmem
      · exact List.mem_append_left _ hmem
      · exact List.mem_append_right _ (List.mem_cons_of_mem _ hmem)

theorem steady_step (batch : Batch α) (seat : Seat Errand (Walk α)) :
    JointWork.Steady (FanOut.step (fun _ => .fresh) r.attend batch seat) :=
  JointInvariant.steady_attend.bind fun _ => JointWork.steady_pure _

theorem steady_visitSeats (rest : Seats α) (batch : Batch α) :
    JointWork.Steady (rest.foldlM (FanOut.step (fun _ => .fresh) r.attend) batch) := by
  induction rest generalizing batch with
  | nil => exact JointWork.steady_pure _
  | cons seat rest ih =>
    rw [List.foldlM_cons]
    exact (steady_step batch seat).bind ih

theorem steady_fill (waiting : List (Nat × Errand)) (batch : Batch α) :
    JointWork.Steady (FanOut.fill (fun _ => .fresh) r.attend waiting batch) := by
  induction waiting generalizing batch with
  | nil => exact JointWork.steady_pure _
  | cons next waiting ih =>
    unfold FanOut.fill
    split
    · exact JointWork.steady_pure _
    · exact (steady_step _ _).bind ih

theorem steady_turn (batch : Batch α) :
    JointWork.Steady (batch.turn (fun _ => .fresh) r.attend) :=
  (steady_visitSeats _ _).bind fun _ => steady_fill _ _

theorem steady_turns (n : Nat) (batch : Batch α) :
    JointWork.Steady (batch.turns (fun _ => .fresh) r.attend n) := by
  induction n generalizing batch with
  | zero => exact JointWork.steady_pure _
  | succ n ih =>
    unfold FanOut.turns
    split
    · exact JointWork.steady_pure _
    · exact (steady_turn batch).bind ih

/-- **A visit of one seat**: every errand has its place, and the batch was brought on. -/
theorem ensures_step (hapart : I.ArePlacedApart) (hnear : JointInvariant.IsPace r near)
    (h : Holds I (seat :: rest) waiting batch s) :
    JointWork.Ensures (FanOut.step (fun _ => .fresh) r.attend batch seat) s
      (fun batch' s' => Holds I rest waiting batch' s' ∧ I.kept s s' ∧
        Brought near [seat] batch batch') I.fails := by
  obtain ⟨hitem, hstanding, htaken⟩ :=
    h.keeps.seated seat (List.mem_append_left _ List.mem_cons_self)
  -- the position of the seat is not taken twice, so the others are left alone
  have hnodup : (seat.position :: positions rest waiting batch).Nodup :=
    h.placed.nodup_iff.mpr List.nodup_range
  have hother : ∀ p ∈ positions rest waiting batch, ∀ e', errands[p]? = some e' →
      I.apart e' seat.item := by
    intro p hp e' he'
    refine hapart hitem he' ?_
    rintro rfl
    exact (List.nodup_cons.mp hnodup).1 hp
  have hrest : Keeps I rest waiting batch s :=
    ⟨fun other hmem => h.keeps.seated other (List.mem_cons_of_mem _ hmem), h.keeps.waits,
      h.keeps.ends⟩
  refine (I.ensures_attend (List.mem_of_getElem? hitem) hstanding hnear).bind
    (fun _ => JointWork.steady_pure _) ?_
  rintro move s' ⟨hframes, ⟨walk, rfl, hstanding', hpace⟩ | ⟨o, rfl, hsettled⟩⟩
  · -- the walk stays in its seat, one visit closer to its end
    refine JointWork.ensures_pure ⟨h.stay (hrest.frame hframes hother) hstanding', hframes.1, ?_⟩
    refine ⟨Nat.le_refl _, ?_, id, Or.inr ⟨rfl, rfl, ?_⟩⟩
    · simp only [FanOut.move, FanOut.stay, List.length_append, List.length_singleton]
      omega
    · intro k hseats hseat other hmem
      simp only [FanOut.move, FanOut.stay, List.mem_append, List.mem_singleton] at hmem
      rcases hmem with hmem | rfl
      · exact hseats other hmem
      · exact hpace k (hseat seat (List.mem_singleton.mpr rfl))
  · -- the walk has ended, so something is finished
    refine JointWork.ensures_pure ⟨h.leave (hrest.frame hframes hother) hsettled, hframes.1, ?_⟩
    cases hqueue : batch.queue with
    | nil =>
      rw [leave_of_queue_nil htaken hqueue]
      refine ⟨?_, ?_, fun _ => hqueue, Or.inl ?_⟩
      · simp only [List.length_append, List.length_singleton]
        omega
      · simp only [List.length_singleton]
        omega
      · simp only [List.length_append, List.length_singleton]
        omega
    | cons next queue =>
      rw [leave_of_queue_cons htaken hqueue]
      refine ⟨?_, ?_, fun hnil => absurd (hqueue.symm.trans hnil) (List.cons_ne_nil _ _),
        Or.inl ?_⟩
      · simp only [List.length_append, List.length_singleton]
        omega
      · simp only [List.length_append, List.length_singleton]
        omega
      · simp only [List.length_append, List.length_singleton]
        omega

/-! ### One turn -/

/-- All seats are visited. -/
theorem ensures_visitSeats (hapart : I.ArePlacedApart)
    (hnear : JointInvariant.IsPace r near) (rest : Seats α) :
    ∀ {batch : Batch α} {s : Session α σ}, Holds I rest waiting batch s →
      JointWork.Ensures (rest.foldlM (FanOut.step (fun _ => .fresh) r.attend) batch) s
        (fun batch' s' => Holds I [] waiting batch' s' ∧ I.kept s s' ∧
          Brought near rest batch batch') I.fails := by
  induction rest with
  | nil =>
    intro batch s h
    exact JointWork.ensures_pure ⟨h, I.kept_refl s, Brought.refl near batch⟩
  | cons seat rest ih =>
    intro batch s h
    rw [List.foldlM_cons]
    refine (ensures_step hapart hnear h).bind (fun _ => steady_visitSeats rest _) ?_
    rintro batch' s' ⟨h', hkept, hbrought⟩
    refine (ih h').mono ?_
    rintro batch'' s'' ⟨h'', hkept', hbrought'⟩
    exact ⟨h'', I.kept_trans hkept hkept', hbrought.cons hbrought'⟩

/-- No free seat is left for those who wait. -/
def IsFull (batch : Batch α) : Prop := batch.free = 0 ∨ batch.queue = []

/-- **What giving seats away does**: no seat is free while someone waits, and whoever gets a seat
is visited. -/
structure Filled (near : Walk α → Nat → Prop) (waiting : List (Nat × Errand))
    (batch batch' : Batch α) : Prop where
  /-- Nothing that was finished is lost. -/
  more : batch.finished.length ≤ batch'.finished.length
  /-- A seat is taken or free. -/
  room : batch'.free + batch'.seats.length = batch.free + batch.seats.length
  /-- No seat is free while someone waits. -/
  full : batch'.IsFull
  /-- Something was finished, or the walks are as close to their ends as they were. -/
  closer : batch.finished.length < batch'.finished.length ∨
    ∀ k, (∀ seat ∈ batch.seats, near seat.task k) →
      (near .fresh (k + 1) ∨ batch.free = 0 ∨ waiting = []) →
      ∀ seat ∈ batch'.seats, near seat.task k

/-- Free seats are given to those who wait. -/
theorem ensures_fill (hapart : I.ArePlacedApart)
    (hnear : JointInvariant.IsPace r near) (waiting : List (Nat × Errand)) :
    ∀ {batch : Batch α} {s : Session α σ}, Holds I [] waiting batch s → batch.queue = [] →
      JointWork.Ensures (FanOut.fill (fun _ => .fresh) r.attend waiting batch) s
        (fun batch' s' => Holds I [] [] batch' s' ∧ I.kept s s' ∧
          Filled near waiting batch batch') I.fails := by
  induction waiting with
  | nil =>
    intro batch s h hqueue
    exact JointWork.ensures_pure ⟨h, I.kept_refl s, Nat.le_refl _, rfl, Or.inr hqueue,
      Or.inr fun _ hseats _ => hseats⟩
  | cons next waiting ih =>
    intro batch s h hqueue
    unfold FanOut.fill
    cases hfree : batch.free with
    | zero =>
      -- no seat is left, and whoever waits stays in the queue
      refine JointWork.ensures_pure ⟨⟨?_, h.keeps.seated, ?_, h.keeps.ends⟩, I.kept_refl s,
        Nat.le_refl _, by rw [hfree], Or.inl rfl, Or.inr fun _ hseats _ => hseats⟩
      · have hplaced := h.placed
        simp only [positions, hqueue, List.map_nil, List.append_nil] at hplaced ⊢
        exact hplaced
      · intro other hother
        refine h.keeps.waits other ?_
        rw [hqueue, List.append_nil]
        exact hother
    | succ free =>
      -- the next one takes a free seat and is visited, like any walk in a turn
      have hnext := h.keeps.waits next (List.mem_append_left _ List.mem_cons_self)
      have h' : Holds I [FanOut.sit (fun _ => .fresh) next] waiting { batch with free } s := by
        refine ⟨?_, ?_, ?_, h.keeps.ends⟩
        · refine h.placed_of_count fun p => ?_
          simp only [positions, FanOut.sit, List.map_cons, List.map_nil, List.count_append,
            List.count_cons, List.count_nil]
          omega
        · intro seat hseat
          rcases List.mem_cons.mp hseat with rfl | hmem
          · exact ⟨hnext.1, hnext.2, rfl⟩
          · exact h.keeps.seated seat hmem
        · exact fun other hother => h.keeps.waits other (List.mem_cons_of_mem _ hother)
      refine (ensures_step hapart hnear h').bind (fun _ => steady_fill waiting _) ?_
      rintro batch₁ s₁ ⟨h₁, hkept₁, hbrought⟩
      refine (ih h₁ (hbrought.nobody hqueue)).mono ?_
      rintro batch₂ s₂ ⟨h₂, hkept₂, hfilled⟩
      refine ⟨h₂, I.kept_trans hkept₁ hkept₂, Nat.le_trans hbrought.more hfilled.more, ?_,
        hfilled.full, ?_⟩
      · have hroom := hbrought.room
        have hroom' := hfilled.room
        simp only [List.length_singleton] at hroom
        omega
      · rcases hbrought.closer with hlt | ⟨-, -, hseat⟩
        · exact Or.inl (Nat.lt_of_lt_of_le hlt hfilled.more)
        · rcases hfilled.closer with hlt | hrest
          · exact Or.inl (Nat.lt_of_le_of_lt hbrought.more hlt)
          · right
            rintro k hseats (hfresh | hzero | hnil)
            · refine hrest k (hseat k hseats ?_) (Or.inl hfresh)
              intro other hother
              obtain rfl := List.mem_singleton.mp hother
              exact hfresh
            · omega
            · cases hnil

/-- **What a turn does**: every walk is one visit closer to its end, unless something was
finished. -/
structure Turned (near : Walk α → Nat → Prop) (batch batch' : Batch α) : Prop where
  /-- Nothing that was finished is lost. -/
  more : batch.finished.length ≤ batch'.finished.length
  /-- A seat is taken or free. -/
  room : batch'.free + batch'.seats.length = batch.free + batch.seats.length
  /-- No seat is free while someone waits. -/
  full : batch'.IsFull
  /-- Something was finished, or the walks are closer to their ends. -/
  closer : batch.finished.length < batch'.finished.length ∨
    ∀ k, (∀ seat ∈ batch.seats, near seat.task (k + 1)) → (near .fresh (k + 1) ∨ batch.IsFull) →
      ∀ seat ∈ batch'.seats, near seat.task k

/-- **A turn of visits** keeps every errand in its place and brings every walk on. -/
theorem ensures_turn (hapart : I.ArePlacedApart) (hnear : JointInvariant.IsPace r near)
    (h : Holds I [] [] batch s) :
    JointWork.Ensures (batch.turn (fun _ => .fresh) r.attend) s
      (fun batch' s' => Holds I [] [] batch' s' ∧ I.kept s s' ∧ Turned near batch batch')
      I.fails := by
  -- the seats are taken out of the batch and put back one by one
  have h₀ : Holds I batch.seats [] { batch with seats := [] } s := by
    refine ⟨?_, ?_, h.keeps.waits, h.keeps.ends⟩
    · have hplaced := h.placed
      simp only [positions, List.map_nil, List.append_nil, List.nil_append] at hplaced ⊢
      exact hplaced
    · intro seat hseat
      rw [List.append_nil] at hseat
      exact h.keeps.seated seat hseat
  refine (ensures_visitSeats hapart hnear batch.seats h₀).bind (fun _ => steady_fill _ _) ?_
  rintro batch₁ s₁ ⟨h₁, hkept₁, hbrought⟩
  -- so are those who wait
  have h₁' : Holds I [] batch₁.queue { batch₁ with queue := [] } s₁ := by
    refine ⟨?_, h₁.keeps.seated, ?_, h₁.keeps.ends⟩
    · have hplaced := h₁.placed
      simp only [positions, List.map_nil, List.append_nil] at hplaced ⊢
      exact hplaced
    · intro next hnext
      rw [List.append_nil] at hnext
      exact h₁.keeps.waits next hnext
  refine (ensures_fill hapart hnear batch₁.queue h₁' rfl).mono ?_
  rintro batch₂ s₂ ⟨h₂, hkept₂, hfilled⟩
  refine ⟨h₂, I.kept_trans hkept₁ hkept₂, Nat.le_trans hbrought.more hfilled.more, ?_,
    hfilled.full, ?_⟩
  · have hroom := hbrought.room
    have hroom' : batch₂.free + batch₂.seats.length = batch₁.free + batch₁.seats.length :=
      hfilled.room
    simp only [List.length_nil] at hroom
    omega
  · rcases hbrought.closer with hlt | ⟨hfree, hqueue, hseats⟩
    · exact Or.inl (Nat.lt_of_lt_of_le hlt hfilled.more)
    · rcases hfilled.closer with hlt | hfill
      · exact Or.inl (Nat.lt_of_le_of_lt hbrought.more hlt)
      · right
        intro k hclose hroom
        refine hfill k (hseats k (fun _ hmem => by cases hmem) hclose) ?_
        rcases hroom with hfresh | hzero | hnil
        · exact Or.inl hfresh
        · exact Or.inr (Or.inl (hfree.trans hzero))
        · exact Or.inr (Or.inr (hqueue.trans hnil))

/-! ### Enough turns -/

/-- **Some turns**: nothing that was finished is lost, and if nothing more was finished, no walk has
visits to go. -/
theorem ensures_turns (hapart : I.ArePlacedApart) (hnear : JointInvariant.IsPace r near)
    (joins n : Nat) {c : Nat} :
    ∀ {batch : Batch α} {s : Session α σ}, Holds I [] [] batch s → c ≤ batch.finished.length →
      (c < batch.finished.length ∨ (∀ seat ∈ batch.seats, near seat.task n) ∧
        (near .fresh n ∨ batch.IsFull)) →
      Work.Ensures (r.turns joins n batch) s
        (fun batch' s' => Holds I [] [] batch' s' ∧ I.kept s s' ∧
          batch.finished.length ≤ batch'.finished.length ∧
          batch'.free + batch'.seats.length = batch.free + batch.seats.length ∧
          (c < batch'.finished.length ∨ (∀ seat ∈ batch'.seats, near seat.task 0) ∧
            (1 ≤ n ∨ batch.IsFull → batch'.IsFull)))
        (fun error _ => I.fails error) := by
  induction n with
  | zero =>
    intro batch s h hc hcase
    refine ⟨h, I.kept_refl s, Nat.le_refl _, rfl, ?_⟩
    rcases hcase with hlt | ⟨hclose, -⟩
    · exact Or.inl hlt
    · refine Or.inr ⟨hclose, ?_⟩
      rintro (hone | hfull)
      · omega
      · exact hfull
  | succ n ih =>
    intro batch s h hc hcase
    unfold turns
    split
    · -- nothing is left to be done
      rename_i hdone
      unfold FanOut.isDone at hdone
      rw [Bool.and_eq_true, List.isEmpty_iff, List.isEmpty_iff] at hdone
      refine ⟨h, I.kept_refl s, Nat.le_refl _, rfl, Or.inr ⟨?_, fun _ => Or.inr hdone.2⟩⟩
      intro seat hseat
      rw [hdone.1] at hseat
      cases hseat
    · rw [Work.ensures_bind]
      refine Work.Ensures.mono (ensures_turn hapart hnear h) ?_ (fun _ _ hfalse => hfalse.elim)
      rintro ⟨batch₁, _ | error⟩ s₁ hout
      · obtain ⟨h₁, hkept₁, hturned⟩ := hout
        have hc₁ := Nat.le_trans hc hturned.more
        refine (ih h₁ hc₁ ?_).mono ?_ (fun _ _ => id)
        · rcases hcase with hlt | ⟨hclose, hroom⟩
          · exact Or.inl (Nat.lt_of_lt_of_le hlt hturned.more)
          · rcases hturned.closer with hlt | hseats
            · exact Or.inl (Nat.lt_of_le_of_lt hc hlt)
            · exact Or.inr ⟨hseats n hclose hroom, Or.inr hturned.full⟩
        · rintro batch₂ s₂ ⟨h₂, hkept₂, hc₂, hroom₂, hcase₂⟩
          refine ⟨h₂, I.kept_trans hkept₁ hkept₂, Nat.le_trans hturned.more hc₂,
            hroom₂.trans hturned.room, ?_⟩
          rcases hcase₂ with hlt | ⟨hclose₂, hfull₂⟩
          · exact Or.inl hlt
          · exact Or.inr ⟨hclose₂, fun _ => hfull₂ (Or.inr hturned.full)⟩
      · -- a walk has failed: its error is the one that counts, whatever else is visited
        simp only
        rw [Work.ensures_bind, Work.ensures_discard]
        refine (steady_turns (grace joins) batch₁ none s₁).mono ?_
          (fun _ _ hfalse => hfalse.elim)
        exact fun _ _ _ => hout

theorem Holds.length_eq (h : Holds I [] [] batch s) :
    batch.seats.length + batch.queue.length + batch.finished.length = errands.length := by
  have hlen := h.placed.length_eq
  simp only [positions, List.map_nil, List.nil_append, List.append_nil, List.length_append,
    List.length_map, List.length_range] at hlen
  omega

/-- **A wave finishes an errand**, if there is one left. -/
theorem ensures_wave (hapart : I.ArePlacedApart) (joins : Nat)
    (h : Holds I [] [] batch s) (hroom : 1 ≤ batch.free + batch.seats.length) :
    Work.Ensures (r.wave joins batch) s
      (fun batch' s' => Holds I [] [] batch' s' ∧ I.kept s s' ∧
        1 ≤ batch'.free + batch'.seats.length ∧
        min (batch.finished.length + 1) errands.length ≤ batch'.finished.length)
      (fun error _ => I.fails error) := by
  have hlearns : batch.finished.length < batch.finished.length ∨
      (∀ seat ∈ batch.seats, seat.task.Learns r.source (Load.visits r.source)) ∧
        (Walk.Learns r.source (.fresh : Walk α) (Load.visits r.source) ∨ batch.IsFull) :=
    Or.inr ⟨fun seat hseat => I.learns (h.keeps.seated seat hseat).2.1,
      Or.inl (Nat.le_refl _)⟩
  unfold wave
  rw [Work.ensures_bind]
  -- first everyone learns the newest version
  refine (ensures_turns hapart (Or.inl rfl) joins _ h (Nat.le_refl _) hlearns).mono ?_
    (fun _ _ => id)
  rintro batch₁ s₁ ⟨h₁, hkept₁, hc₁, hroom₁, hcase₁⟩
  -- whoever has learned the newest version has a bounded number of versions to load
  have hwithin : batch.finished.length < batch₁.finished.length ∨
      (∀ seat ∈ batch₁.seats, seat.task.Within r.source
        ((batch₁.seats.map fun seat => seat.task.loadsLeft).foldl max 0 *
          Load.visits r.source)) ∧
        (Walk.Within r.source (.fresh : Walk α)
          ((batch₁.seats.map fun seat => seat.task.loadsLeft).foldl max 0 *
            Load.visits r.source) ∨ batch₁.IsFull) := by
    rcases hcase₁ with hlt | ⟨hknown, hfull⟩
    · exact Or.inl hlt
    · refine Or.inr ⟨?_, Or.inr (hfull (Or.inl (Load.one_le_visits _)))⟩
      intro seat hseat
      refine (I.within (h₁.keeps.seated seat hseat).2.1 (hknown seat hseat)).mono ?_
      refine Nat.mul_le_mul_right _ (le_foldl_max _ (Or.inr ?_))
      exact List.mem_map.mpr ⟨seat, hseat, rfl⟩
  refine (ensures_turns hapart (Or.inr rfl) joins _ h₁ hc₁ hwithin).mono ?_ (fun _ _ => id)
  rintro batch₂ s₂ ⟨h₂, hkept₂, hc₂, hroom₂, hcase₂⟩
  refine ⟨h₂, I.kept_trans hkept₁ hkept₂, by omega, ?_⟩
  rcases hcase₂ with hlt | ⟨hend, hfull⟩
  · omega
  · -- a walk that is under way has visits to go, so there are no seats
    have hseats : batch₂.seats = [] := by
      rw [List.eq_nil_iff_forall_not_mem]
      intro seat hseat
      exact Walk.not_isUnderWay_of_within_zero (hend seat hseat)
        (I.isUnderWay (h₂.keeps.seated seat hseat).2.1)
    have hlen := h₂.length_eq
    rw [hseats] at hlen hroom₂
    by_cases hlt : batch.finished.length < batch₂.finished.length
    · omega
    · have hfull₂ : batch₂.IsFull := by
        rcases hcase₁ with hlt' | ⟨-, hfull₁⟩
        · omega
        · exact hfull (Or.inr (hfull₁ (Or.inl (Load.one_le_visits _))))
      rcases hfull₂ with hfree | hqueue
      · simp only [List.length_nil] at hroom₂
        omega
      · rw [hqueue] at hlen
        simp only [List.length_nil] at hlen
        omega

/-- As many waves as errands are enough. -/
theorem ensures_waves (hapart : I.ArePlacedApart) (joins n : Nat) :
    ∀ {batch : Batch α} {s : Session α σ}, Holds I [] [] batch s →
      1 ≤ batch.free + batch.seats.length →
      Work.Ensures (r.waves joins n batch) s
        (fun batch' s' => Holds I [] [] batch' s' ∧ I.kept s s' ∧
          min (batch.finished.length + n) errands.length ≤ batch'.finished.length)
        (fun error _ => I.fails error) := by
  induction n with
  | zero =>
    intro batch s h _
    exact ⟨h, I.kept_refl s, Nat.min_le_left _ _⟩
  | succ n ih =>
    intro batch s h hroom
    unfold waves
    rw [Work.ensures_bind]
    refine (ensures_wave hapart joins h hroom).mono ?_ (fun _ _ => id)
    rintro batch₁ s₁ ⟨h₁, hkept₁, hroom₁, hfinished₁⟩
    refine (ih h₁ hroom₁).mono ?_ (fun _ _ => id)
    rintro batch₂ s₂ ⟨h₂, hkept₂, hfinished₂⟩
    exact ⟨h₂, I.kept_trans hkept₁ hkept₂, by omega⟩

theorem holds_start (limit : Option Nat)
    (hfresh : ∀ e ∈ errands, I.standing e .fresh s) :
    Holds I [] [] (FanOut.start limit errands) s := by
  refine ⟨?_, ?_, ?_, ?_⟩
  · have hmap : (errands.mapIdx fun position item => (position, item)).map (·.1) =
        List.range errands.length := by
      apply List.ext_getElem
      · simp
      · intro i _ _
        simp
    simp only [positions, FanOut.start, List.map_nil, List.nil_append, List.append_nil, hmap]
    exact List.Perm.refl _
  · intro seat hseat
    cases hseat
  · intro next hnext
    simp only [FanOut.start, List.nil_append] at hnext
    obtain ⟨i, hi, rfl⟩ := List.mem_mapIdx.mp hnext
    exact ⟨List.getElem?_eq_getElem hi, hfresh _ (List.getElem_mem hi)⟩
  · intro entry hentry
    cases hentry

/-- Once as many errands are finished as there are, every errand has its outcome. -/
theorem Holds.forall₂ (h : Holds I [] [] batch s)
    (hfinished : errands.length ≤ batch.finished.length) :
    List.Forall₂ (fun e o => I.settled e o s) errands
      ((List.range errands.length).map fun position =>
        (batch.result? position).getD .pending) := by
  have hlen := h.length_eq
  have hseats : batch.seats = [] := List.length_eq_zero_iff.mp (by omega)
  have hqueue : batch.queue = [] := List.length_eq_zero_iff.mp (by omega)
  have hplaced := h.placed
  simp only [positions, hseats, hqueue, List.map_nil, List.nil_append] at hplaced
  rw [List.forall₂_iff_get]
  refine ⟨by simp, ?_⟩
  intro i hi _
  -- an outcome that is found at a position is that of the errand there
  have hmem : i ∈ batch.finished.map (·.1) :=
    hplaced.mem_iff.mpr (List.mem_range.mpr hi)
  obtain ⟨entry, hentry, hposition⟩ := List.mem_map.mp hmem
  have hfound : (batch.finished.find? (·.1 == i)).isSome := by
    rw [List.find?_isSome]
    exact ⟨entry, hentry, beq_iff_eq.mpr hposition⟩
  obtain ⟨found, hfound⟩ := Option.isSome_iff_exists.mp hfound
  have hfirst : (found.1 == i) = true :=
    List.find?_some (p := fun x : Nat × Outcome α => x.1 == i) hfound
  have hi' : found.1 = i := beq_iff_eq.mp hfirst
  obtain ⟨e, he, hsettled⟩ := h.keeps.ends found (List.mem_of_find?_eq_some hfound)
  have hresult : (batch.result? i).getD .pending = found.2 := by
    unfold FanOut.result?
    rw [hfound]
    rfl
  rw [hi', List.getElem?_eq_getElem hi] at he
  simp only [List.get_eq_getElem, List.getElem_map, List.getElem_range, hresult]
  rw [Option.some.inj he]
  exact hsettled

end Batch

/-- **Structures that are resolved at the same time** all get their outcomes, unless a request
fails. -/
theorem ensures_resolveAll (I : JointInvariant r errands) (hapart : I.ArePlacedApart)
    {limit : Option Nat} (hlimit : limit ≠ some 0) (joins : Nat) {s : Session α σ}
    (hfresh : ∀ e ∈ errands, I.standing e .fresh s) :
    Work.Ensures (r.resolveAll limit errands joins) s
      (fun outcomes rest => I.kept s rest ∧
        List.Forall₂ (fun e o => I.settled e o rest) errands outcomes)
      (fun error _ => I.fails error) := by
  have hstart := Batch.holds_start (I := I) limit hfresh
  have hwaves : Work.Ensures (r.waves joins errands.length (FanOut.start limit errands)) s
      (fun batch' s' => Batch.Holds I [] [] batch' s' ∧ I.kept s s' ∧
        errands.length ≤ batch'.finished.length)
      (fun error _ => I.fails error) := by
    by_cases hnil : errands.length = 0
    · rw [hnil]
      exact ⟨hstart, I.kept_refl s, Nat.zero_le _⟩
    · have hroom : 1 ≤ (FanOut.start limit errands : Batch α).free +
          (FanOut.start limit errands : Batch α).seats.length := by
        unfold FanOut.start
        cases limit with
        | none =>
          simp only [Option.getD_none, List.length_nil]
          omega
        | some n =>
          have hn : n ≠ 0 := fun heq => hlimit (by rw [heq])
          simp only [Option.getD_some, List.length_nil]
          omega
      refine (Batch.ensures_waves hapart joins _ hstart hroom).mono ?_ (fun _ _ => id)
      rintro batch' s' ⟨h', hkept, hfinished⟩
      refine ⟨h', hkept, ?_⟩
      simp only [FanOut.start, List.length_nil] at hfinished
      omega
  unfold resolveAll
  rw [Work.ensures_bind]
  refine hwaves.mono ?_ (fun _ _ => id)
  rintro batch' s' ⟨h', hkept, hfinished⟩
  exact ⟨hkept, h'.forall₂ hfinished⟩

/-- **Searches that run at the same time end**, whatever the source answers: unless one of them
fails, every errand has an outcome. -/
theorem ensures_resolveAll_ended (r : Resolver α σ) (errands : List Errand) {limit : Option Nat}
    (hlimit : limit ≠ some 0) (joins : Nat) (s : Session α σ) :
    Work.Ensures (r.resolveAll limit errands joins) s (fun outcomes _ => .pending ∉ outcomes)
      (fun _ _ => True) := by
  have hfresh : ∀ e ∈ errands, (endingInvariant r errands).standing e .fresh s :=
    fun _ _ => ⟨trivial, Or.inl rfl⟩
  refine (ensures_resolveAll (endingInvariant r errands) (fun _ _ _ => trivial) hlimit joins
    hfresh).mono ?_ (fun _ _ => id)
  rintro outcomes rest ⟨-, hsettled⟩ hmem
  obtain ⟨_, -, hdecided⟩ := exists_left_of_forall₂ hsettled hmem
  exact hdecided rfl

/-- The structure of an errand, or a structure that no errand is for: the cases of a fact about all
structures after a search for some. -/
theorem sought_or_not (errands : List Errand) {motive : StructureId → Prop}
    (sought : ∀ e ∈ errands, motive e.id)
    (other : ∀ id, (∀ e ∈ errands, e.id ≠ id) → motive id) (id : StructureId) : motive id := by
  by_cases hmem : ∃ e ∈ errands, e.id = id
  · obtain ⟨e, he, rfl⟩ := hmem
    exact sought e he
  · exact other id fun e he heq => hmem ⟨e, he, heq⟩

end ContentPack.Resolver
