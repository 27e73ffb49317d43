import ContentPack.Fetch.Load
import ContentPack.Proofs.Contents

/-!
# When a load ends, and what it ends with

`Load.Within` bounds the visits after which a load has ended: every visit lowers the bound by one
(`Load.Within.visit`), and `Load.visits` is a bound for a load that has just been started
(`Load.within_ask`). This holds for every source, and so does what a load can come to at all
(`Load.Reached`, `Source.Yields`): a load of the newest version ends with one structure, if with
any (`Source.Yields.exists_single`).
-/

namespace ContentPack

variable {α σ : Type}

/-! ### How long an answer is waited for -/

/-- After how many visits the answer is there. -/
def Slot.left : Slot α → Nat
  | waiting n => n + 1
  | answered _ => 0

theorem Source.left_visit (s : Source σ) (r : Request) (slot : Slot r.Reply) (state : σ) :
    (s.visit r slot state).1.left ≤ slot.left - 1 := by
  cases slot with
  | answered answer => exact Nat.zero_le _
  | waiting n =>
    cases n with
    | zero => exact Nat.zero_le _
    | succ n =>
      simp only [visit]
      split
      · exact Nat.le_refl _
      · exact Nat.zero_le _

namespace Part

/-- No answer for the part is waited for any more after a number of visits. -/
def Settles (n : Nat) : Part → Prop
  | whole _ => True
  | exploration _ slots => ∀ entry ∈ slots, entry.2.left ≤ n

theorem Settles.visit {n : Nat} {part : Part} (h : part.Settles n) (s : Source σ) (state : σ) :
    (part.visit s state).1.Settles (n - 1) := by
  cases part with
  | whole loaded => exact trivial
  | exploration e slots =>
    intro entry hentry
    have hpairs : List.Forall₂
        (fun (old new : Language × Slot Translation) => new.2.left ≤ old.2.left - 1) slots
        ((slots.mapM fun (entry : Language × Slot Translation) => do
            return (entry.1, ← s.visit (request e entry.1) entry.2)) state).1 :=
      forall₂_mapM (fun item _ state => s.left_visit (request e item.1) item.2 state) state
    obtain ⟨old, hold, hle⟩ := exists_left_of_forall₂ hpairs hentry
    have hn := h old hold
    omega

theorem Settles.mono {n n' : Nat} {part : Part} (h : part.Settles n) (hn : n ≤ n') :
    part.Settles n' := by
  cases part with
  | whole loaded => exact trivial
  | exploration e slots => exact fun entry hentry => Nat.le_trans (h entry hentry) hn

theorem settles_ofDocument (delays : Nat) (d : Document) :
    (ofDocument delays d).Settles (delays + 1) := by
  cases d with
  | exploration e =>
    intro entry hentry
    obtain ⟨language, -, rfl⟩ := List.mem_map.mp hentry
    exact Nat.le_refl _
  | _ => exact trivial

/-- A part for which nothing is waited for is complete, or one of its translations failed. -/
theorem exists_loaded? {part : Part} (h : part.Settles 0) (hfailure : part.failure? = none) :
    ∃ loaded, part.loaded? = some loaded := by
  cases part with
  | whole loaded => exact ⟨loaded, rfl⟩
  | exploration e slots =>
    -- every place is answered, and with a translation
    have hvalues : ∀ entry ∈ slots, ∃ value, entry.2.value? = some value := by
      intro entry hentry
      have hleft := h entry hentry
      have hnone := List.findSome?_eq_none_iff.mp hfailure entry.2
        (List.mem_map.mpr ⟨entry, hentry, rfl⟩)
      rcases hslot : entry.2 with n | ⟨failure | value⟩
      · rw [hslot] at hleft
        exact absurd hleft (Nat.not_succ_le_zero n)
      · rw [hslot] at hnone
        cases hnone
      · exact ⟨value, rfl⟩
    have htable : ∃ table, (slots.mapM fun (entry : Language × Slot Translation) =>
        entry.2.value?.map (entry.1, ·)) = some table := by
      clear h hfailure
      induction slots with
      | nil => exact ⟨[], rfl⟩
      | cons entry rest ih =>
        obtain ⟨value, hvalue⟩ := hvalues entry List.mem_cons_self
        obtain ⟨table, htable⟩ := ih fun other hother =>
          hvalues other (List.mem_cons_of_mem _ hother)
        refine ⟨(entry.1, value) :: table, ?_⟩
        rw [List.mapM_cons, hvalue, htable]
        rfl
    obtain ⟨table, htable⟩ := htable
    refine ⟨.exploration ⟨e, table⟩, ?_⟩
    show (do
      let translations ← slots.mapM fun (entry : Language × Slot Translation) =>
        entry.2.value?.map (entry.1, ·)
      return Loaded.exploration ⟨e, translations⟩) = _
    rw [htable]
    rfl

end Part

namespace Load

/-- Parts for which nothing is waited for have a result. -/
theorem exists_result? {parts : List Part} (h : ∀ part ∈ parts, part.Settles 0) :
    ∃ result, result? parts = some result := by
  unfold result?
  split
  · exact ⟨_, rfl⟩
  · rename_i hfailure
    have hloaded : ∃ loaded, parts.mapM Part.loaded? = some loaded := by
      induction parts with
      | nil => exact ⟨[], rfl⟩
      | cons part rest ih =>
        rw [List.findSome?_eq_none_iff] at hfailure
        obtain ⟨l, hl⟩ := Part.exists_loaded? (h part List.mem_cons_self)
          (hfailure part List.mem_cons_self)
        obtain ⟨loaded, hloaded⟩ := ih (fun other hother => h other (List.mem_cons_of_mem _ hother))
          (List.findSome?_eq_none_iff.mpr fun other hother =>
            hfailure other (List.mem_cons_of_mem _ hother))
        refine ⟨l :: loaded, ?_⟩
        rw [List.mapM_cons, hl, hloaded]
        rfl
    obtain ⟨loaded, hloaded⟩ := hloaded
    rw [hloaded]
    exact ⟨_, rfl⟩

/-- Without an exploration everything is there at once. -/
theorem settles_of_not_joined {documents : List Document} {delays : Nat}
    (h : ¬(documents.map (Part.ofDocument delays)).any Part.isJoined = true) :
    ∀ part ∈ documents.map (Part.ofDocument delays), part.Settles 0 := by
  intro part hpart
  obtain ⟨d, -, rfl⟩ := List.mem_map.mp hpart
  cases d with
  | exploration e => exact absurd (List.any_eq_true.mpr ⟨_, hpart, rfl⟩) h
  | _ => exact trivial

/-! ### How long a load takes -/

/-- **The end of a load is near**: after `k` visits it has ended. -/
def Within (s : Source σ) : Load → Nat → Prop
  | asking _ slot, k => max 1 slot.left + s.delays + 6 ≤ k
  | opening lag parts, k => ∃ n, (∀ part ∈ parts, part.Settles n) ∧
      1 + max 1 n + max 1 lag ≤ k
  | joining lag parts, k => ∃ n, (∀ part ∈ parts, part.Settles n) ∧ max 1 n + max 1 lag ≤ k
  | closing left _ _, k => max 1 left ≤ k
  | ended _ _, _ => True

variable {s : Source σ} {load : Load}

theorem one_le_visits (s : Source σ) : 1 ≤ visits s := by
  unfold visits
  omega

theorem within_ask (s : Source σ) (request : Request) :
    (ask s.delays request).Within s (visits s) := by
  show max 1 (s.delays + 1) + s.delays + 6 ≤ 2 * (s.delays + 1) + 5
  omega

theorem exists_ended_of_within_zero (h : load.Within s 0) :
    ∃ result parts, load = ended result parts := by
  cases load with
  | ended result parts => exact ⟨result, parts, rfl⟩
  | asking request slot =>
    have hle : max 1 slot.left + s.delays + 6 ≤ 0 := h
    omega
  | opening lag parts =>
    obtain ⟨n, -, hle⟩ := h
    omega
  | joining lag parts =>
    obtain ⟨n, -, hle⟩ := h
    omega
  | closing left result parts =>
    have hle : max 1 left ≤ 0 := h
    omega

theorem Within.mono {k k' : Nat} (h : load.Within s k) (hk : k ≤ k') : load.Within s k' := by
  cases load with
  | ended result parts => exact trivial
  | asking request slot => exact Nat.le_trans h hk
  | opening lag parts =>
    obtain ⟨n, hn, hle⟩ := h
    exact ⟨n, hn, Nat.le_trans hle hk⟩
  | joining lag parts =>
    obtain ⟨n, hn, hle⟩ := h
    exact ⟨n, hn, Nat.le_trans hle hk⟩
  | closing left result parts => exact Nat.le_trans h hk

theorem within_ofParts {request : Request} {parts : List Part} {k : Nat}
    (h : ∀ part ∈ parts, part.Settles (s.delays + 1)) (hk : s.delays + 6 ≤ k) :
    (ofParts request parts).Within s k := by
  have hlag : lag request ≤ 4 := by
    cases request <;> simp [lag]
  unfold ofParts
  split
  · split
    · exact ⟨s.delays + 1, h, by omega⟩
    · exact ⟨s.delays + 1, h, by omega⟩
  · exact trivial

/-- What is asked for is still waited for, or the request failed, or it was answered. -/
theorem visit_asking (s : Source σ) (request : Request) (slot : Slot request.Reply) (state : σ) :
    (∃ left, (s.visit request slot state).1 = .waiting left ∧
      ((asking request slot).visit s state).1 = asking request (.waiting left)) ∨
    (∃ failure, (s.visit request slot state).1 = .answered (.error failure) ∧
      ((asking request slot).visit s state).1 = ended (.error failure) []) ∨
    ∃ reply, (s.visit request slot state).1 = .answered (.ok reply) ∧
      ((asking request slot).visit s state).1 =
        ofParts request ((request.documents reply).map (Part.ofDocument s.delays)) := by
  rcases hvisit : s.visit request slot state with ⟨left | ⟨failure | reply⟩, rest⟩
  · exact Or.inl ⟨left, rfl, by simp only [visit, bind, StateT.bind, hvisit]; rfl⟩
  · exact Or.inr (Or.inl ⟨failure, rfl, by simp only [visit, bind, StateT.bind, hvisit]; rfl⟩)
  · exact Or.inr (Or.inr ⟨reply, rfl, by simp only [visit, bind, StateT.bind, hvisit]; rfl⟩)

/-- The source is asked once. -/
theorem snd_visit_asking (s : Source σ) (request : Request) (slot : Slot request.Reply)
    (state : σ) :
    ((asking request slot).visit s state).2 = (s.visit request slot state).2 := by
  rcases hvisit : s.visit request slot state with ⟨left | ⟨failure | reply⟩, rest⟩
  · simp only [visit, bind, StateT.bind, hvisit]; rfl
  · simp only [visit, bind, StateT.bind, hvisit]; rfl
  · simp only [visit, bind, StateT.bind, hvisit]; rfl

/-- **Every visit brings a load closer to its end.** -/
theorem Within.visit {k : Nat} (h : load.Within s (k + 1)) (state : σ) :
    (load.visit s state).1.Within s k := by
  cases load with
  | asking request slot =>
    have hle : max 1 slot.left + s.delays + 6 ≤ k + 1 := h
    have hvisit := s.left_visit request slot state
    rcases visit_asking s request slot state with
      ⟨left, hslot, hnext⟩ | ⟨failure, -, hnext⟩ | ⟨reply, -, hnext⟩ <;> rw [hnext]
    · rw [hslot] at hvisit
      have hleft : left + 1 ≤ slot.left - 1 := hvisit
      show max 1 (left + 1) + s.delays + 6 ≤ k
      omega
    · exact trivial
    · refine within_ofParts ?_ (by omega)
      intro part hpart
      obtain ⟨d, -, rfl⟩ := List.mem_map.mp hpart
      exact Part.settles_ofDocument s.delays d
  | opening lag parts =>
    obtain ⟨n, hn, hle⟩ := h
    exact ⟨n, hn, by omega⟩
  | joining lag parts =>
    obtain ⟨n, hn, hle⟩ := h
    have hparts : ∀ part ∈ (parts.mapM (Part.visit s) state).1, part.Settles (n - 1) := by
      intro part hpart
      have hpairs : List.Forall₂ (fun old new => old.Settles n → Part.Settles (n - 1) new) parts
          (parts.mapM (Part.visit s) state).1 :=
        forall₂_mapM (fun part _ state hpart => hpart.visit s state) state
      obtain ⟨old, hold, hsettles⟩ := exists_left_of_forall₂ hpairs hpart
      exact hsettles (hn old hold)
    show Within s (join lag (parts.mapM (Part.visit s) state).1) k
    unfold join
    split
    · -- there is a result, which is handed on after the lag
      show max 1 lag ≤ k
      omega
    · rename_i hnone
      -- a visit that leaves no result was not the last one
      have htwo : 2 ≤ n := by
        by_contra hlt
        have hzero : n - 1 = 0 := by omega
        rw [hzero] at hparts
        obtain ⟨result, hresult⟩ := exists_result? hparts
        rw [hnone] at hresult
        cases hresult
      exact ⟨n - 1, hparts, by omega⟩
  | closing left result parts =>
    have hle : max 1 left ≤ k + 1 := h
    rcases left with _ | _ | left
    · exact trivial
    · exact trivial
    · show max 1 (left + 1) ≤ k
      omega
  | ended result parts => exact trivial

theorem within_visits_of_next {next : Load}
    (hnext : ∀ k, load.Within s (k + 1) → next.Within s k) (h : load.Within s (visits s)) :
    next.Within s (visits s) := by
  have hvisits : load.Within s (visits s - 1 + 1) := by
    rwa [Nat.sub_add_cancel (one_le_visits s)]
  exact (hnext _ hvisits).mono (Nat.sub_le _ _)

/-! ### What a load can come to -/

/-- **What a load for a request can come to** by visits, whatever the states of the source are. -/
inductive Reached (s : Source σ) (request : Request) : Load → Prop
  /-- It has just been started. -/
  | ask : Reached s request (ask s.delays request)
  /-- It was visited once more. -/
  | visit {load : Load} (h : Reached s request load) (state : σ) :
      Reached s request (load.visit s state).1

theorem Reached.within {request : Request} (h : load.Reached s request) :
    load.Within s (visits s) := by
  induction h with
  | ask => exact within_ask s request
  | visit _ state ih => exact within_visits_of_next (fun _ hk => hk.visit state) ih

/-- A load of a single structure. -/
def IsSingle : Load → Prop
  | asking request _ => ∀ reply, (request.documents reply).length = 1
  | opening _ parts | joining _ parts => parts.length = 1
  | closing _ result _ | ended result _ => ∀ loaded, result = .ok loaded → loaded.length = 1

/-- There is a structure for every part. -/
theorem length_eq_of_result? {parts : List Part} {loaded : List Loaded}
    (h : result? parts = some (.ok loaded)) : loaded.length = parts.length := by
  unfold result? at h
  split at h
  · cases Option.some.inj h
  · obtain ⟨all, hall, heq⟩ := Option.map_eq_some_iff.mp h
    obtain rfl := Except.ok.inj heq
    clear h heq
    induction parts generalizing all with
    | nil =>
      obtain rfl := Option.some.inj hall
      rfl
    | cons part rest ih =>
      rename_i hnone
      rw [List.findSome?_cons] at hnone
      rw [List.mapM_cons] at hall
      obtain ⟨one, -, hall⟩ := Option.bind_eq_some_iff.mp hall
      obtain ⟨others, hothers, hall⟩ := Option.bind_eq_some_iff.mp hall
      have hrest : rest.findSome? Part.failure? = none := by
        split at hnone
        · cases hnone
        · exact hnone
      rw [← Option.some.inj hall, List.length_cons, List.length_cons, ih hrest others hothers]

theorem IsSingle.join {lag : Nat} {parts : List Part} (h : parts.length = 1) :
    (join lag parts).IsSingle := by
  unfold Load.join
  split
  · rename_i result hresult
    rintro loaded rfl
    rw [length_eq_of_result? hresult, h]
  · exact h

theorem IsSingle.ofParts {request : Request} {documents : List Document} {delays : Nat}
    (h : documents.length = 1) :
    (ofParts request (documents.map (Part.ofDocument delays))).IsSingle := by
  have hparts : (documents.map (Part.ofDocument delays)).length = 1 := by
    rw [List.length_map, h]
  unfold Load.ofParts
  split
  · split
    · exact hparts
    · exact hparts
  · rename_i hjoined
    obtain ⟨result, hresult⟩ := exists_result? (settles_of_not_joined hjoined)
    rintro loaded hloaded
    rw [hresult, Option.getD_some] at hloaded
    rw [length_eq_of_result? (hloaded ▸ hresult), hparts]

/-- No part is lost in a visit. -/
theorem length_visitParts (s : Source σ) (parts : List Part) (state : σ) :
    (parts.mapM (Part.visit s) state).1.length = parts.length :=
  (forall₂_mapM (R := fun _ _ => True) (fun _ _ _ => trivial) state).length_eq.symm

theorem IsSingle.visit (h : load.IsSingle) (s : Source σ) (state : σ) :
    (load.visit s state).1.IsSingle := by
  cases load with
  | asking request slot =>
    rcases visit_asking s request slot state with
      ⟨left, -, hnext⟩ | ⟨failure, -, hnext⟩ | ⟨reply, -, hnext⟩ <;> rw [hnext]
    · exact h
    · intro loaded hloaded
      cases hloaded
    · exact .ofParts (h reply)
  | opening lag parts => exact h
  | joining lag parts => exact .join ((length_visitParts s parts state).trans h)
  | closing left result parts =>
    rcases left with _ | _ | left
    · exact h
    · exact h
    · exact h
  | ended result parts => exact h

end Load

/-- A load for the request can end with the result. -/
def Source.Yields (s : Source σ) (request : Request)
    (result : Except FetchFailure (List Loaded)) : Prop :=
  ∃ parts, (Load.ended result parts).Reached s request

/-- **A load of the newest version ends with one structure**, if with any. -/
theorem Source.Yields.exists_single {s : Source σ} {place : Locator} {loaded : List Loaded}
    (h : s.Yields (.latest place) (.ok loaded)) : ∃ l, loaded = [l] := by
  obtain ⟨parts, h⟩ := h
  have hsingle : ∀ {load : Load}, load.Reached s (.latest place) → load.IsSingle := by
    intro load h
    induction h with
    | ask => exact fun _ => rfl
    | visit _ state ih => exact ih.visit s state
  exact List.length_eq_one_iff.mp (hsingle h loaded rfl)

end ContentPack
