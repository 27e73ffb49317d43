import ContentPack.FanOut
import ContentPack.Progress
import ContentPack.Proofs.Lists
import Mathlib.Data.List.Perm.Subperm

/-!
# Calls that share a fan-out

Several calls, each with the items of one group, share one `FanOut`. Calls come in at any time, free
seats are given to any items that wait, and loads end in any order (`FanOut.Reached`). Every item of
a call has a `FanOut.Ticket`, so that items that are repeated are told apart, and what happens to it
is logged.

At every moment the log and the state of a fan-out tell the same (`FanOut.Keeps`): there is nothing
in the log of an item that waits, its load has begun if it has a seat, and has ended and was
reported once it is finished. From that it follows that loads are bounded by the number of seats,
and that a call has the results of its own items when all of them are there (`FanOut.fans_out`).
-/

namespace ContentPack.FanOut

variable {ι ρ σ : Type} {m : Int}

/-! ### Calls and tickets -/

/-- Items of a group that are to be loaded. -/
structure Call (ι : Type) where
  /-- The group of the items. -/
  group : Group
  /-- The items, which may be repeated. -/
  items : List ι

/-- One item of one call. -/
structure Ticket (ι : Type) where
  /-- The number of the call. -/
  call : Nat
  /-- The group of the call. -/
  group : Group
  /-- The place of the item among the items of its call. -/
  index : Nat
  /-- The item. -/
  item : ι

/-- The call and the index, which no other item has. -/
def Ticket.place (t : Ticket ι) : Nat × Nat := (t.call, t.index)

/-- The items of a call. -/
def Call.tickets (c : Call ι) (number : Nat) : List (Ticket ι) :=
  c.items.mapIdx fun index item => ⟨number, c.group, index, item⟩

/-- The items of all calls. -/
def tickets (calls : List (Call ι)) : List (Ticket ι) :=
  (calls.mapIdx fun number c => c.tickets number).flatten

/-- The number of items before those of a call. -/
def offset (calls : List (Call ι)) (number : Nat) : Nat := (tickets (calls.take number)).length

/-- What a call returns, in the order of its items, as soon as all of them are finished. -/
def results? {π : Type} (calls : List (Call ι)) (fan : FanOut (Ticket ι) π ρ) (number : Nat) :
    Option (List ρ) := do
  let c ← calls[number]?
  (List.range c.items.length).mapM fun index => fan.result? (offset calls number + index)

section Tickets

variable {calls : List (Call ι)} {t t' : Ticket ι}

theorem tickets_concat (calls : List (Call ι)) (c : Call ι) :
    tickets (calls ++ [c]) = tickets calls ++ c.tickets calls.length := by
  unfold tickets
  rw [List.mapIdx_concat, List.flatten_concat]

theorem mem_call_tickets {c : Call ι} {number : Nat} :
    t ∈ c.tickets number ↔
      t.call = number ∧ t.group = c.group ∧ c.items[t.index]? = some t.item := by
  rw [Call.tickets, List.mem_mapIdx]
  constructor
  · rintro ⟨index, hindex, rfl⟩
    exact ⟨rfl, rfl, List.getElem?_eq_getElem hindex⟩
  · rintro ⟨rfl, hgroup, hitem⟩
    obtain ⟨hindex, heq⟩ := List.getElem?_eq_some_iff.mp hitem
    exact ⟨t.index, hindex, by rw [heq, ← hgroup]⟩

theorem call_lt_of_mem (h : t ∈ tickets calls) : t.call < calls.length := by
  induction calls using List.reverseRecOn with
  | nil => cases h
  | append_singleton calls c ih =>
    rw [tickets_concat] at h
    rw [List.length_append, List.length_singleton]
    rcases List.mem_append.mp h with h | h
    · have hlt := ih h
      omega
    · rw [(mem_call_tickets.mp h).1]
      omega

/-- No two items have the same call and index. -/
theorem nodup_places (calls : List (Call ι)) : ((tickets calls).map Ticket.place).Nodup := by
  induction calls using List.reverseRecOn with
  | nil => exact List.nodup_nil
  | append_singleton calls c ih =>
    rw [tickets_concat, List.map_append]
    refine ih.append ?_ ?_
    · rw [List.nodup_iff_getElem?_ne_getElem?]
      intro i j hij hj
      simp only [Call.tickets, List.length_map, List.length_mapIdx] at hj
      simp only [Call.tickets, List.getElem?_map, List.getElem?_mapIdx,
        List.getElem?_eq_getElem hj, List.getElem?_eq_getElem (Nat.lt_trans hij hj),
        Option.map_some, Ticket.place, ne_eq, Option.some.injEq, Prod.mk.injEq, true_and]
      omega
    · intro place hplace hplace'
      obtain ⟨t, ht, rfl⟩ := List.mem_map.mp hplace
      obtain ⟨t', ht', heq⟩ := List.mem_map.mp hplace'
      have hlt := call_lt_of_mem ht
      have hcall := (mem_call_tickets.mp ht').1
      have hsame : t'.call = t.call := congrArg Prod.fst heq
      omega

theorem eq_of_place_eq {p q : Nat} (hp : (tickets calls)[p]? = some t)
    (hq : (tickets calls)[q]? = some t') (h : t.place = t'.place) : p = q := by
  obtain ⟨hlt, -⟩ := List.getElem?_eq_some_iff.mp hp
  refine (List.getElem?_inj (l := (tickets calls).map Ticket.place) ?_ (nodup_places calls)).mp ?_
  · rw [List.length_map]
    exact hlt
  · rw [List.getElem?_map, List.getElem?_map, hp, hq, Option.map_some, Option.map_some, h]

/-- The position of an item. -/
theorem getElem?_tickets {number index : Nat} {c : Call ι} {item : ι}
    (hc : calls[number]? = some c) (hitem : c.items[index]? = some item) :
    (tickets calls)[offset calls number + index]? = some ⟨number, c.group, index, item⟩ := by
  induction calls using List.reverseRecOn with
  | nil => cases hc
  | append_singleton calls last ih =>
    have hlt := (List.getElem?_eq_some_iff.mp hc).1
    rw [List.length_append, List.length_singleton] at hlt
    rw [tickets_concat]
    by_cases hnumber : number < calls.length
    · rw [List.getElem?_append_left hnumber] at hc
      have hget := ih hc
      have hoffset : offset (calls ++ [last]) number = offset calls number := by
        rw [offset, offset, List.take_append_of_le_length (by omega)]
      rw [hoffset, List.getElem?_append_left (List.getElem?_eq_some_iff.mp hget).1, hget]
    · obtain rfl : number = calls.length := by omega
      have hoffset : offset (calls ++ [last]) calls.length = (tickets calls).length := by
        rw [offset, List.take_left]
      rw [List.getElem?_append_right (by omega)] at hc
      simp only [Nat.sub_self, List.getElem?_cons_zero, Option.some.injEq] at hc
      rw [hoffset, List.getElem?_append_right (by omega), Nat.add_sub_cancel_left, Call.tickets,
        List.getElem?_mapIdx, hc, hitem]
      rfl

end Tickets

/-! ### What happens to an item -/

/-- An entry of the log. -/
inductive Entry (ι ρ : Type) where
  /-- The load of an item begins. -/
  | began (ticket : Ticket ι)
  /-- The load of an item ends with a result. -/
  | ended (ticket : Ticket ι) (result : ρ)
  /-- An item is reported. -/
  | reported (ticket : Ticket ι) (event : Event)

/-- The item that an entry is about. -/
def Entry.ticket : Entry ι ρ → Ticket ι
  | began t => t
  | ended t _ => t
  | reported t _ => t

/-- The event that is reported. -/
def Entry.event? : Entry ι ρ → Option Event
  | reported _ event => some event
  | _ => none

/-- The entries about one item. -/
def history (log : List (Entry ι ρ)) (place : Nat × Nat) : List (Entry ι ρ) :=
  log.filter fun e => e.ticket.place = place

/-- The report of an item: its own index in the group of its call. -/
def Ticket.event (t : Ticket ι) : Event := .item t.group t.index

/-- The load of an item has begun and not ended. -/
def Ticket.IsUnderWay (log : List (Entry ι ρ)) (t : Ticket ι) : Prop :=
  .began t ∈ log ∧ ∀ r, .ended t r ∉ log

/-- A load that is under way was under way before, if it did not begin meanwhile. -/
theorem Ticket.IsUnderWay.of_append {log entries : List (Entry ι ρ)} {t : Ticket ι}
    (h : t.IsUnderWay (log ++ entries)) (hentries : .began t ∉ entries) : t.IsUnderWay log := by
  obtain ⟨hbegan, hended⟩ := h
  constructor
  · exact (List.mem_append.mp hbegan).resolve_right hentries
  · exact fun r hr => hended r (List.mem_append_left _ hr)

/-- Look after an item once. Its load, which begins with the first visit, may end or go on. -/
def Ticket.visit (load : Ticket ι → StateM σ (Option ρ)) (t : Ticket ι) (isBegun : Bool) :
    StateM (σ × List (Entry ι ρ)) (Move Bool ρ) := fun (state, log) =>
  let log := if isBegun then log else log ++ [.began t]
  match load t state with
  | (none, state) => (.stay true, state, log)
  | (some r, state) => (.leave r, state, log ++ [.ended t r, .reported t t.event])

/-- **The states that calls come to** which share the seats of one limit, with what was logged. It
is left open when calls come in, who gets a free seat, and in which order loads begin and end. -/
inductive Reached (m : Int) :
    List (Call ι) → FanOut (Ticket ι) Bool ρ → List (Entry ι ρ) → Prop where
  /-- All seats are free. -/
  | start : Reached m [] (.start (seatLimit (some m)) []) []
  /-- Another call comes in, and its items wait. -/
  | called {calls fan log} (c : Call ι) : Reached m calls fan log →
      Reached m (calls ++ [c]) { fan with
        queue := fan.queue ++ (c.tickets calls.length).mapIdx fun index t =>
          ((tickets calls).length + index, t) } log
  /-- Seats are visited in any order, and so are items that wait. -/
  | rearranged {calls fan log seats queue} : Reached m calls fan log → seats.Perm fan.seats →
      queue.Perm fan.queue → Reached m calls { fan with seats, queue } log
  /-- An item gets a free seat. -/
  | admitted {calls fan log next queue free} : Reached m calls fan log →
      fan.queue = next :: queue → fan.free = free + 1 →
      Reached m calls
        { fan with free, queue, seats := sit (fun _ => false) next :: fan.seats } log
  /-- A load begins. -/
  | begun {calls fan log seat seats} : Reached m calls fan log → fan.seats = seat :: seats →
      seat.task = false →
      Reached m calls { fan with seats := { seat with task := true } :: seats }
        (log ++ [.began seat.item])
  /-- A load ends; its item is reported and its seat is free. -/
  | finished {calls fan log seat seats} (r : ρ) : Reached m calls fan log →
      fan.seats = seat :: seats → seat.task = true →
      Reached m calls { fan with
        seats, free := fan.free + 1, finished := fan.finished ++ [(seat.position, r)] }
        (log ++ [.ended seat.item r, .reported seat.item seat.item.event])

/-! ### What the log tells -/

section History

variable {log entries : List (Entry ι ρ)} {place : Nat × Nat}

theorem history_append_of_eq (h : ∀ e ∈ entries, e.ticket.place = place) :
    history (log ++ entries) place = history log place ++ entries := by
  rw [history, List.filter_append, ← history, List.filter_eq_self.mpr]
  simpa using h

theorem history_append_of_ne (h : ∀ e ∈ entries, e.ticket.place ≠ place) :
    history (log ++ entries) place = history log place := by
  rw [history, List.filter_append, ← history, List.filter_eq_nil_iff.mpr, List.append_nil]
  simpa using h

theorem mem_history {e : Entry ι ρ} : e ∈ history log place ↔ e ∈ log ∧ e.ticket.place = place := by
  simp [history]

theorem history_eq_nil (h : ∀ e ∈ log, e.ticket.place ≠ place) : history log place = [] := by
  rw [List.eq_nil_iff_forall_not_mem]
  intro e he
  exact h e (mem_history.mp he).1 (mem_history.mp he).2

end History

/-- **The log tells what the state tells.** Every item waits, has a seat or is finished, and has
left its traces in the log; the seats are as many as the limit says. -/
structure Keeps (m : Int) (calls : List (Call ι)) (fan : FanOut (Ticket ι) Bool ρ)
    (log : List (Entry ι ρ)) : Prop where
  /-- No seat is lost. -/
  limit : fan.free + fan.seats.length = m.toNat
  /-- Every item is at one place. -/
  positions : (fan.seats.map Seat.position ++ (fan.queue.map Prod.fst ++
    fan.finished.map Prod.fst)).Perm (List.range (tickets calls).length)
  /-- Items that wait have left no trace. -/
  waiting : ∀ e ∈ fan.queue, (tickets calls)[e.1]? = some e.2 ∧ history log e.2.place = []
  /-- The load of an item that has a seat begins. -/
  seated : ∀ s ∈ fan.seats, (tickets calls)[s.position]? = some s.item ∧ s.isTaken = true ∧
    history log s.item.place = if s.task then [.began s.item] else []
  /-- The load of an item that is finished has begun and ended once, and then it was reported. -/
  done : ∀ e ∈ fan.finished, ∃ t, (tickets calls)[e.1]? = some t ∧
    history log t.place = [.began t, .ended t e.2, .reported t t.event]
  /-- Nothing else is logged. -/
  own : ∀ e ∈ log, e.ticket ∈ tickets calls

theorem seatLimit_of_one_le (hm : 1 ≤ m) : seatLimit (some m) = some m.toNat := by
  have hmax : max 1 m = m := by omega
  unfold seatLimit
  split
  · rename_i heq
    cases heq
  · rename_i heq
    obtain rfl := Option.some.inj heq
    omega
  · rename_i n _ heq
    obtain rfl := Option.some.inj heq
    rw [hmax]

namespace Keeps

variable {calls : List (Call ι)} {fan : FanOut (Ticket ι) Bool ρ} {log : List (Entry ι ρ)}

theorem start (hm : 1 ≤ m) : Keeps m ([] : List (Call ι))
    (.start (seatLimit (some m)) [] : FanOut (Ticket ι) Bool ρ) [] where
  limit := by
    rw [seatLimit_of_one_le hm]
    rfl
  positions := List.Perm.refl _
  waiting _ he := by cases he
  seated _ hs := by cases hs
  done _ he := by cases he
  own _ he := by cases he

theorem called (h : Keeps m calls fan log) (c : Call ι) :
    Keeps m (calls ++ [c]) { fan with
      queue := fan.queue ++ (c.tickets calls.length).mapIdx fun index t =>
        ((tickets calls).length + index, t) } log := by
  have hold : ∀ {p : Nat} {t : Ticket ι}, (tickets calls)[p]? = some t →
      (tickets (calls ++ [c]))[p]? = some t := by
    intro p t ht
    rw [tickets_concat, List.getElem?_append_left (List.getElem?_eq_some_iff.mp ht).1, ht]
  constructor
  · exact h.limit
  · have hnew : ((c.tickets calls.length).mapIdx fun index t =>
        ((tickets calls).length + index, t)).map Prod.fst =
          (List.range (c.tickets calls.length).length).map ((tickets calls).length + ·) := by
      apply List.ext_getElem <;> simp
    rw [tickets_concat, List.length_append, List.range_add, List.map_append, hnew]
    refine List.Perm.trans ?_ (h.positions.append_right _)
    rw [List.append_assoc, List.append_assoc, List.append_assoc]
    exact (List.perm_append_comm.append_left _).append_left _
  · intro e he
    rcases List.mem_append.mp he with he | he
    · exact ⟨hold (h.waiting e he).1, (h.waiting e he).2⟩
    · obtain ⟨index, hindex, rfl⟩ := List.mem_mapIdx.mp he
      constructor
      · rw [tickets_concat, List.getElem?_append_right (by omega), Nat.add_sub_cancel_left]
        exact List.getElem?_eq_getElem hindex
      · -- the log is about earlier calls
        apply history_eq_nil
        intro e he heq
        have hlt := call_lt_of_mem (h.own e he)
        have hcall := (mem_call_tickets.mp (List.getElem_mem hindex)).1
        have hsame := congrArg Prod.fst heq
        simp only [Ticket.place] at hsame
        omega
  · exact fun s hs => ⟨hold (h.seated s hs).1, (h.seated s hs).2⟩
  · intro e he
    obtain ⟨t, ht, hhistory⟩ := h.done e he
    exact ⟨t, hold ht, hhistory⟩
  · intro e he
    rw [tickets_concat]
    exact List.mem_append_left _ (h.own e he)

theorem rearranged (h : Keeps m calls fan log) {seats : List (Seat (Ticket ι) Bool)}
    {queue : List (Nat × Ticket ι)} (hseats : seats.Perm fan.seats)
    (hqueue : queue.Perm fan.queue) : Keeps m calls { fan with seats, queue } log := by
  constructor
  · show fan.free + seats.length = _
    rw [hseats.length_eq, h.limit]
  · exact ((hseats.map _).append ((hqueue.map _).append_right _)).trans h.positions
  · exact fun e he => h.waiting e (hqueue.subset he)
  · exact fun s hs => h.seated s (hseats.subset hs)
  · exact h.done
  · exact h.own

theorem admitted (h : Keeps m calls fan log) {next : Nat × Ticket ι}
    {queue : List (Nat × Ticket ι)} {free : Nat} (hqueue : fan.queue = next :: queue)
    (hfree : fan.free = free + 1) :
    Keeps m calls { fan with free, queue, seats := sit (fun _ => false) next :: fan.seats }
      log := by
  obtain ⟨hnext, hhistory⟩ := h.waiting next (by simp [hqueue])
  constructor
  · have hlimit := h.limit
    show free + (fan.seats.length + 1) = _
    omega
  · have hpositions := h.positions
    rw [hqueue] at hpositions
    exact List.perm_middle.symm.trans hpositions
  · intro e he
    exact h.waiting e (by simp [hqueue, he])
  · intro s hs
    rcases List.mem_cons.mp hs with rfl | hs
    · exact ⟨hnext, rfl, hhistory⟩
    · exact h.seated s hs
  · exact h.done
  · exact h.own

section Seat

variable {seat : Seat (Ticket ι) Bool} {seats : List (Seat (Ticket ι) Bool)}

/-- Every other item is another one. -/
theorem place_ne (h : Keeps m calls fan log) (hseats : fan.seats = seat :: seats) {p : Nat}
    {t : Ticket ι} (hp : p ∈ seats.map Seat.position ++ (fan.queue.map Prod.fst ++
      fan.finished.map Prod.fst)) (ht : (tickets calls)[p]? = some t) :
    seat.item.place ≠ t.place := by
  intro heq
  have hposition := eq_of_place_eq (h.seated seat (by simp [hseats])).1 ht heq
  have hnodup := h.positions.nodup_iff.mpr List.nodup_range
  rw [hseats, List.map_cons, List.cons_append, List.nodup_cons] at hnodup
  exact hnodup.1 (hposition ▸ hp)

/-- What is logged of an item with a seat leaves no trace at the others. -/
theorem others (h : Keeps m calls fan log) (hseats : fan.seats = seat :: seats)
    {entries : List (Entry ι ρ)} (hentries : ∀ e ∈ entries, e.ticket = seat.item) :
    (∀ e ∈ fan.queue,
      (tickets calls)[e.1]? = some e.2 ∧ history (log ++ entries) e.2.place = []) ∧
    (∀ s ∈ seats, (tickets calls)[s.position]? = some s.item ∧ s.isTaken = true ∧
      history (log ++ entries) s.item.place = if s.task then [.began s.item] else []) ∧
    (∀ e ∈ fan.finished, ∃ t, (tickets calls)[e.1]? = some t ∧
      history (log ++ entries) t.place = [.began t, .ended t e.2, .reported t t.event]) ∧
    ∀ e ∈ log ++ entries, e.ticket ∈ tickets calls := by
  have hhistory : ∀ {p : Nat} {t : Ticket ι}, p ∈ seats.map Seat.position ++
      (fan.queue.map Prod.fst ++ fan.finished.map Prod.fst) → (tickets calls)[p]? = some t →
      history (log ++ entries) t.place = history log t.place := by
    intro p t hp ht
    apply history_append_of_ne
    intro e he
    rw [hentries e he]
    exact h.place_ne hseats hp ht
  refine ⟨?_, ?_, ?_, ?_⟩
  · intro e he
    obtain ⟨ht, hlog⟩ := h.waiting e he
    rw [hhistory (by simp [List.mem_map_of_mem he]) ht]
    exact ⟨ht, hlog⟩
  · intro s hs
    obtain ⟨ht, htaken, hlog⟩ := h.seated s (by simp [hseats, hs])
    rw [hhistory (by simp [List.mem_map_of_mem hs]) ht]
    exact ⟨ht, htaken, hlog⟩
  · intro e he
    obtain ⟨t, ht, hlog⟩ := h.done e he
    refine ⟨t, ht, ?_⟩
    rw [hhistory (by simp [List.mem_map_of_mem he]) ht, hlog]
  · intro e he
    rcases List.mem_append.mp he with he | he
    · exact h.own e he
    · rw [hentries e he]
      exact List.mem_of_getElem? (h.seated seat (by simp [hseats])).1

theorem begun (h : Keeps m calls fan log) (hseats : fan.seats = seat :: seats)
    (htask : seat.task = false) :
    Keeps m calls { fan with seats := { seat with task := true } :: seats }
      (log ++ [.began seat.item]) := by
  obtain ⟨hitem, htaken, hlog⟩ := h.seated seat (by simp [hseats])
  have hentries : ∀ e ∈ [(.began seat.item : Entry ι ρ)], e.ticket = seat.item := by
    simp [Entry.ticket]
  obtain ⟨hwaiting, hseated, hdone, hown⟩ := h.others hseats hentries
  have hlimit := h.limit
  have hpositions := h.positions
  rw [hseats] at hlimit hpositions
  refine ⟨hlimit, hpositions, hwaiting, ?_, hdone, hown⟩
  intro s hs
  rcases List.mem_cons.mp hs with rfl | hs
  · refine ⟨hitem, htaken, ?_⟩
    rw [history_append_of_eq (by simp [Entry.ticket]), hlog, htask]
    rfl
  · exact hseated s hs

theorem finished (h : Keeps m calls fan log) (hseats : fan.seats = seat :: seats)
    (htask : seat.task = true) (r : ρ) :
    Keeps m calls
      { fan with seats, free := fan.free + 1, finished := fan.finished ++ [(seat.position, r)] }
      (log ++ [.ended seat.item r, .reported seat.item seat.item.event]) := by
  obtain ⟨hitem, -, hlog⟩ := h.seated seat (by simp [hseats])
  have hentries : ∀ e ∈ [(.ended seat.item r : Entry ι ρ), .reported seat.item seat.item.event],
      e.ticket = seat.item := by
    simp [Entry.ticket]
  obtain ⟨hwaiting, hseated, hdone, hown⟩ := h.others hseats hentries
  have hlimit := h.limit
  have hpositions := h.positions
  rw [hseats] at hlimit hpositions
  refine ⟨?_, ?_, hwaiting, hseated, ?_, hown⟩
  · simp only [List.length_cons] at hlimit
    show fan.free + 1 + seats.length = _
    omega
  · refine List.Perm.trans ?_ hpositions
    rw [List.map_append, List.map_cons, List.map_nil, ← List.append_assoc, ← List.append_assoc]
    exact List.perm_append_singleton _ _ |>.trans (by rw [List.append_assoc]; rfl)
  · intro e he
    rcases List.mem_append.mp he with he | he
    · exact hdone e he
    · obtain rfl := List.mem_singleton.mp he
      refine ⟨seat.item, hitem, ?_⟩
      rw [history_append_of_eq (by simp [Entry.ticket]), hlog, htask]
      rfl

end Seat

/-- An item waits, has a seat or is finished. -/
theorem exists_stage (h : Keeps m calls fan log) {p : Nat} {t : Ticket ι}
    (ht : (tickets calls)[p]? = some t) :
    (p, t) ∈ fan.queue ∨ (∃ s ∈ fan.seats, s.position = p ∧ s.item = t) ∨
      ∃ r, (p, r) ∈ fan.finished := by
  have hp := h.positions.symm.subset
    (List.mem_range.mpr (List.getElem?_eq_some_iff.mp ht).1)
  simp only [List.mem_append, List.mem_map] at hp
  rcases hp with ⟨s, hs, rfl⟩ | ⟨e, he, rfl⟩ | ⟨e, he, rfl⟩
  · have hitem := (h.seated s hs).1
    rw [ht] at hitem
    exact Or.inr (Or.inl ⟨s, hs, rfl, (Option.some.inj hitem).symm⟩)
  · have hitem := (h.waiting e he).1
    rw [ht] at hitem
    obtain rfl := Option.some.inj hitem
    exact Or.inl he
  · exact Or.inr (Or.inr ⟨e.2, he⟩)

/-- A load that is under way has a seat. -/
theorem exists_seat (h : Keeps m calls fan log) {t : Ticket ι} (ht : t.IsUnderWay log) :
    t ∈ fan.seats.map Seat.item := by
  obtain ⟨hbegan, hended⟩ := ht
  obtain ⟨p, hp⟩ := List.mem_iff_getElem?.mp (h.own _ hbegan)
  have hp : (tickets calls)[p]? = some t := hp
  have hmem : .began t ∈ history log t.place := mem_history.mpr ⟨hbegan, rfl⟩
  rcases h.exists_stage hp with hqueue | ⟨s, hs, -, rfl⟩ | ⟨r, hr⟩
  · rw [(h.waiting _ hqueue).2] at hmem
    cases hmem
  · exact List.mem_map_of_mem hs
  · obtain ⟨t', ht', hlog⟩ := h.done _ hr
    obtain rfl := Option.some.inj (ht'.symm.trans hp)
    have hmem : .ended t' r ∈ history log t'.place := by simp [hlog]
    exact absurd (mem_history.mp hmem).1 (hended r)

/-- There are no more loads under way than there are seats. -/
theorem length_le (h : Keeps m calls fan log) {ts : List (Ticket ι)} (hts : ts.Nodup)
    (hunderWay : ∀ t ∈ ts, t.IsUnderWay log) : ts.length ≤ m.toNat := by
  have hsubset : ts ⊆ fan.seats.map Seat.item := fun t ht => h.exists_seat (hunderWay t ht)
  have hlength := (hts.subperm hsubset).length_le
  have hlimit := h.limit
  rw [List.length_map] at hlength
  omega

theorem mem_finished {p : Nat} {r : ρ} (h : fan.result? p = some r) : (p, r) ∈ fan.finished := by
  obtain ⟨e, he, rfl⟩ := Option.map_eq_some_iff.mp h
  have hp : e.1 = p := by simpa using List.find?_some he
  exact hp ▸ List.mem_of_find?_eq_some he

/-- The result of an item is the one with which its load ended. -/
theorem history_of_result? (h : Keeps m calls fan log) {p : Nat} {t : Ticket ι} {r : ρ}
    (ht : (tickets calls)[p]? = some t) (hr : fan.result? p = some r) :
    history log t.place = [.began t, .ended t r, .reported t t.event] := by
  obtain ⟨t', ht', hlog⟩ := h.done _ (mem_finished hr)
  obtain rfl := Option.some.inj (ht'.symm.trans ht)
  exact hlog

/-- **A call returns the results of its own items**, each of which was loaded once and then
reported. -/
theorem of_results? (h : Keeps m calls fan log) {number : Nat} {results : List ρ}
    (hresults : results? calls fan number = some results) :
    ∃ c, calls[number]? = some c ∧ results.length = c.items.length ∧
      ∀ (index : Nat) item r, c.items[index]? = some item → results[index]? = some r →
        history log (number, index) = [.began ⟨number, c.group, index, item⟩,
          .ended ⟨number, c.group, index, item⟩ r,
          .reported ⟨number, c.group, index, item⟩ (.item c.group index)] := by
  obtain ⟨c, hc, hmapM⟩ := Option.bind_eq_some_iff.mp hresults
  obtain ⟨hlength, hget⟩ := List.forall₂_iff_get.mp (mapM_eq_some_iff.mp hmapM)
  rw [List.length_range] at hlength
  refine ⟨c, hc, hlength.symm, ?_⟩
  intro index item r hitem hr
  obtain ⟨hindex, rfl⟩ := List.getElem?_eq_some_iff.mp hr
  have hresult := hget index (by simpa [hlength] using hindex) hindex
  simp only [List.get_eq_getElem, List.getElem_range] at hresult
  exact h.history_of_result? (getElem?_tickets hc hitem) hresult

/-- As long as a call has not returned, there is a load to go on with or to start. -/
theorem exists_next (h : Keeps m calls fan log) (hm : 1 ≤ m) {number : Nat} {c : Call ι}
    (hc : calls[number]? = some c) (hresults : results? calls fan number = none) :
    fan.seats ≠ [] ∨ (fan.queue ≠ [] ∧ fan.free ≠ 0) := by
  rw [results?, hc] at hresults
  obtain ⟨index, hindex, hnone⟩ := exists_eq_none_of_mapM hresults
  have hitem := List.getElem?_eq_getElem (List.mem_range.mp hindex)
  rcases h.exists_stage (getElem?_tickets hc hitem) with hqueue | ⟨s, hs, -⟩ | ⟨r, hr⟩
  · by_cases hseats : fan.seats = []
    · have hlimit := h.limit
      rw [hseats, List.length_nil] at hlimit
      exact Or.inr ⟨List.ne_nil_of_mem hqueue, by omega⟩
    · exact Or.inl hseats
  · exact Or.inl (List.ne_nil_of_mem hs)
  · rw [result?, Option.map_eq_none_iff, List.find?_eq_none] at hnone
    simpa using hnone _ hr

end Keeps

/-- **The log tells what the state tells, at every moment.** -/
theorem Reached.keeps {calls : List (Call ι)} {fan : FanOut (Ticket ι) Bool ρ}
    {log : List (Entry ι ρ)} (hm : 1 ≤ m) (h : Reached m calls fan log) :
    Keeps m calls fan log := by
  induction h with
  | start => exact Keeps.start hm
  | called c _ ih => exact ih.called c
  | rearranged _ hseats hqueue ih => exact ih.rearranged hseats hqueue
  | admitted _ hqueue hfree ih => exact ih.admitted hqueue hfree
  | begun _ hseats htask ih => exact ih.begun hseats htask
  | finished r _ hseats htask ih => exact ih.finished hseats htask r

/-- **Never are more loads under way than there are seats**, at any moment that the log tells of. -/
theorem Reached.length_le {calls : List (Call ι)} {fan : FanOut (Ticket ι) Bool ρ}
    {log : List (Entry ι ρ)} (hm : 1 ≤ m) (h : Reached m calls fan log) {past : List (Entry ι ρ)}
    (hpast : past <+: log) {ts : List (Ticket ι)} (hts : ts.Nodup)
    (hunderWay : ∀ t ∈ ts, t.IsUnderWay past) : ts.length ≤ m.toNat := by
  induction h generalizing past with
  | start =>
    obtain rfl := List.prefix_nil.mp hpast
    exact (Keeps.start (ρ := ρ) hm).length_le hts hunderWay
  | called c _ ih => exact ih hpast hunderWay
  | rearranged _ _ _ ih => exact ih hpast hunderWay
  | admitted _ _ _ ih => exact ih hpast hunderWay
  | begun hreached hseats htask ih =>
    rcases List.prefix_concat_iff.mp hpast with rfl | hpast
    · exact ((hreached.keeps hm).begun hseats htask).length_le hts hunderWay
    · exact ih hpast hunderWay
  | @finished _ _ log seat _ r _ _ _ ih =>
    -- no load begins here, so none is under way that was not before
    rw [List.append_cons] at hpast
    rcases List.prefix_concat_iff.mp hpast with rfl | hpast
    · refine ih (List.prefix_refl log) fun t ht => ?_
      exact ((hunderWay t ht).of_append (by simp)).of_append (by simp)
    · rcases List.prefix_concat_iff.mp hpast with rfl | hpast
      · exact ih (List.prefix_refl log) fun t ht => (hunderWay t ht).of_append (by simp)
      · exact ih hpast hunderWay

/-! ### What runs -/

/-- Nobody comes to wait by a move. -/
theorem queue_move {π : Type} (fresh : ι → π) {f : FanOut ι π ρ} (hqueue : f.queue = [])
    (seat : Seat ι π) (next : Move π ρ) : (f.move fresh seat next).queue = [] := by
  have hgiveUp : (f.giveUp fresh seat).queue = [] := by
    unfold giveUp
    rw [hqueue]
    split
    · rfl
    · exact hqueue
  cases next with
  | stay task => exact hqueue
  | leave r => exact hgiveUp
  | linger task => exact hgiveUp

section Run

variable {calls : List (Call ι)} {fan f : FanOut (Ticket ι) Bool ρ} {log : List (Entry ι ρ)}
  {seat : Seat (Ticket ι) Bool} {seats : List (Seat (Ticket ι) Bool)}
  {held : List (Nat × Ticket ι)}

/-- Seats that are still to be visited, and items that are not given a seat for now. -/
def around (f : FanOut (Ticket ι) Bool ρ) (seats : List (Seat (Ticket ι) Bool))
    (held : List (Nat × Ticket ι)) : FanOut (Ticket ι) Bool ρ :=
  { f with seats := seats ++ f.seats, queue := f.queue ++ held }

theorem around_nil (f : FanOut (Ticket ι) Bool ρ) : f.around [] [] = f := by
  simp [around]

/-- The first visit begins a load. -/
theorem Reached.opened (h : Reached m calls fan log) (hseats : fan.seats = seat :: seats) :
    Reached m calls { fan with seats := { seat with task := true } :: seats }
      (if seat.task then log else log ++ [.began seat.item]) := by
  cases htask : seat.task with
  | false => exact h.begun hseats htask
  | true =>
    have hsame : { fan with seats := { seat with task := true } :: seats } = fan := by
      rw [← htask, ← hseats]
    rw [hsame]
    exact h

theorem Reached.seated (h : Reached m calls fan log) (hseats : seats.Perm fan.seats) :
    Reached m calls { fan with seats } log :=
  h.rearranged hseats (List.Perm.refl _)

/-- Whoever is visited sits behind the others. -/
theorem behind_perm (seats visited : List (Seat (Ticket ι) Bool)) (seat : Seat (Ticket ι) Bool) :
    (seats ++ (visited ++ [seat])).Perm (seat :: (seats ++ visited)) := by
  rw [← List.append_assoc]
  exact List.perm_append_singleton _ _

/-- A load goes on. -/
theorem Reached.goOn (h : Reached m calls (f.around (seat :: seats) held) log) :
    Reached m calls ((f.stay seat true).around seats held)
      (if seat.task then log else log ++ [.began seat.item]) :=
  (h.opened rfl).seated (behind_perm seats f.seats _)

/-- A load ends. To leave a seat to the next item is to leave it free, and then to give it away. -/
theorem Reached.leave (h : Reached m calls (f.around (seat :: seats) held) log)
    (htaken : seat.isTaken = true) (r : ρ) :
    Reached m calls ((f.move (fun _ => false) seat (.leave r)).around seats held)
      ((if seat.task then log else log ++ [.began seat.item]) ++
        [.ended seat.item r, .reported seat.item seat.item.event]) := by
  have hfinished := (h.opened rfl).finished r rfl rfl
  obtain ⟨visited, free, queue, finished⟩ := f
  simp only [move, giveUp, htaken, if_true]
  cases queue with
  | nil => exact hfinished
  | cons next queue => exact (hfinished.admitted rfl rfl).seated (behind_perm seats visited _)

/-- **A visit is a few of the steps** that a fan-out can take. -/
theorem Reached.step (h : Reached m calls (f.around (seat :: seats) held) log)
    (htaken : seat.isTaken = true) (load : Ticket ι → StateM σ (Option ρ)) (state : σ) :
    Reached m calls
      ((f.step (fun _ => false) (Ticket.visit load) seat (state, log)).1.around seats held)
      (f.step (fun _ => false) (Ticket.visit load) seat (state, log)).2.2 := by
  have hvisit : f.step (fun _ => false) (Ticket.visit load) seat (state, log) =
      (f.move (fun _ => false) seat (Ticket.visit load seat.item seat.task (state, log)).1,
        (Ticket.visit load seat.item seat.task (state, log)).2) := rfl
  rw [hvisit, Ticket.visit]
  cases hload : load seat.item state with
  | mk result state' =>
    cases result with
    | none => exact h.goOn
    | some r => exact h.leave htaken r

/-- All seats are visited. -/
theorem Reached.visitSeats (hm : 1 ≤ m) (h : Reached m calls (f.around seats held) log)
    (load : Ticket ι → StateM σ (Option ρ)) (state : σ) :
    Reached m calls
      ((seats.foldlM (FanOut.step (fun _ => false) (Ticket.visit load)) f (state, log)).1.around
        [] held)
      (seats.foldlM (FanOut.step (fun _ => false) (Ticket.visit load)) f (state, log)).2.2 := by
  induction seats generalizing f log state with
  | nil => exact h
  | cons seat seats ih =>
    have htaken := ((h.keeps hm).seated seat List.mem_cons_self).2.1
    rw [List.foldlM_cons]
    exact ih (h.step htaken load state) _

/-- A free seat is given away. -/
theorem Reached.seatNext {next : Nat × Ticket ι}
    (h : Reached m calls (f.around [] (next :: held)) log) (hqueue : f.queue = [])
    {free : Nat} (hfree : f.free = free + 1) :
    Reached m calls (FanOut.around { f with free } [sit (fun _ => false) next] held) log := by
  obtain ⟨visited, _, queue, finished⟩ := f
  obtain rfl : queue = [] := hqueue
  exact h.admitted rfl hfree

/-- All free seats are given away. -/
theorem Reached.fill (h : Reached m calls (f.around [] held) log) (hqueue : f.queue = [])
    (load : Ticket ι → StateM σ (Option ρ)) (state : σ) :
    Reached m calls
      (FanOut.fill (fun _ => false) (Ticket.visit load) held f (state, log)).1
      (FanOut.fill (fun _ => false) (Ticket.visit load) held f (state, log)).2.2 := by
  induction held generalizing f log state with
  | nil =>
    rw [around_nil] at h
    exact h
  | cons next held ih =>
    obtain ⟨visited, free, queue, finished⟩ := f
    obtain rfl : queue = [] := hqueue
    cases free with
    | zero => exact h
    | succ free =>
      exact ih ((h.seatNext rfl rfl).step rfl load state) (queue_move _ rfl _ _) _

/-- **A turn keeps to the states** that calls come to. -/
theorem Reached.turn (h : Reached m calls fan log) (hm : 1 ≤ m)
    (load : Ticket ι → StateM σ (Option ρ)) (state : σ) :
    Reached m calls (fan.turn (fun _ => false) (Ticket.visit load) (state, log)).1
      (fan.turn (fun _ => false) (Ticket.visit load) (state, log)).2.2 := by
  have hall : Reached m calls (FanOut.around { fan with seats := [] } fan.seats []) log := by
    simpa [around] using h
  have hvisited := hall.visitSeats hm load state
  unfold FanOut.turn
  refine Reached.fill ?_ rfl load _
  simpa [around] using hvisited

/-- **Whatever is loaded, and for however many turns**, a fan-out keeps to the states that calls
come to. -/
theorem Reached.turns (h : Reached m calls fan log) (hm : 1 ≤ m)
    (load : Ticket ι → StateM σ (Option ρ)) (n : Nat) (state : σ) :
    Reached m calls (fan.turns (fun _ => false) (Ticket.visit load) n (state, log)).1
      (fan.turns (fun _ => false) (Ticket.visit load) n (state, log)).2.2 := by
  induction n generalizing fan log state with
  | zero => exact h
  | succ n ih =>
    unfold FanOut.turns
    cases fan.isDone with
    | true => exact h
    | false => exact ih (h.turn hm load state) _

end Run

/-! ### The bound and the results -/

/-- Calls may come in before anything else happens. -/
theorem reached_start (hm : 1 ≤ m) (calls : List (Call ι)) :
    Reached m calls
      (.start (seatLimit (some m)) (tickets calls) : FanOut (Ticket ι) Bool ρ) [] := by
  induction calls using List.reverseRecOn with
  | nil => exact Reached.start
  | append_singleton calls c ih =>
    have hcalled := ih.called c
    have hsame : (FanOut.start (seatLimit (some m)) (tickets (calls ++ [c])) :
        FanOut (Ticket ι) Bool ρ) = { FanOut.start (seatLimit (some m)) (tickets calls) with
          queue := (tickets calls).mapIdx (fun position t => (position, t)) ++
            (c.tickets calls.length).mapIdx fun index t =>
              ((tickets calls).length + index, t) } := by
      rw [tickets_concat, seatLimit_of_one_le hm]
      simp [FanOut.start, List.mapIdx_append, Nat.add_comm]
    rw [hsame]
    exact hcalled

end ContentPack.FanOut
