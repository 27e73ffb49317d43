import ContentPack.Proofs.Load

/-!
# What a load from a store ends with, in spite of faults

A source may answer as a store in memory does (`Source.Answers`), or it may do so but for a number
of faults, each of which is a failure or another number of documents than was asked for
(`Source.Falters`). A load from such a source ends with the documents that the store answers with,
each complete, unless it was hit by a fault on its way, and then there is one fault less to come:
either `Load.Serves` holds of it, or it is doomed (`Load.IsDoomed`), which every visit preserves
(`Load.Serves.counts`, `Load.IsDoomed.visit`).

Without faults a load is not doomed, so it ends with what the store serves
(`Source.Yields.eq_served`).
-/

namespace ContentPack

variable {σ : Type}

/-! ### Sources that answer as a store -/

/-- The source answers every request as a store does, whenever it answers. -/
structure Source.Answers (source : Source σ) (s : Store) : Prop where
  /-- An answer that comes early is that of the store. -/
  poll : ∀ r state answer, (source.poll r state).1 = some answer → answer = s.answer r
  /-- So is one that comes in the end. -/
  settle : ∀ r state, (source.settle r state).1 = s.answer r

theorem Store.source_answers (s : Store) : s.source.Answers s where
  poll _ _ _ h := by cases h
  settle _ _ := rfl

/-- What a load from a store ends with: the documents that are asked for, each complete. -/
def Store.served (s : Store) (request : Request) : Except FetchFailure (List Loaded) :=
  (s.answer request).map fun reply => (request.documents reply).map s.complete

/-! ### Faults -/

/-- Another number of versions than was asked for. -/
def Request.Miscounts : Request → Nat → Prop
  | .versions _ asked, count => count ≠ asked.length
  | _, _ => False

/-- **The answer is a fault**: a failure, or another number of versions than was asked for. -/
def Request.IsFault (request : Request) : request.Answer → Prop
  | .error _ => True
  | .ok reply => request.Miscounts (request.documents reply).length

/-- What comes is good, or it is bad and there is one fault less to come. -/
def Counts (faults : σ → Nat) (state state' : σ) (good bad : Prop) : Prop :=
  (good ∧ faults state' ≤ faults state) ∨ (bad ∧ faults state' < faults state)

namespace Counts

variable {faults : σ → Nat} {state state' state'' : σ} {good bad good' bad' : Prop}

theorem le (h : Counts faults state state' good bad) : faults state' ≤ faults state := by
  rcases h with ⟨-, hle⟩ | ⟨-, hlt⟩
  · exact hle
  · exact Nat.le_of_lt hlt

theorem imp (h : Counts faults state state' good bad) (hgood : good → good')
    (hbad : bad → bad') : Counts faults state state' good' bad' :=
  Or.imp (And.imp_left hgood) (And.imp_left hbad) h

/-- Of two that come, each may be bad. -/
theorem and (h : Counts faults state state' good bad)
    (h' : Counts faults state' state'' good' bad') :
    Counts faults state state'' (good ∧ good') (bad ∨ bad') := by
  rcases h with ⟨hgood, hle⟩ | ⟨hbad, hlt⟩
  · rcases h' with ⟨hgood', hle'⟩ | ⟨hbad', hlt'⟩
    · exact Or.inl ⟨⟨hgood, hgood'⟩, Nat.le_trans hle' hle⟩
    · exact Or.inr ⟨Or.inr hbad', Nat.lt_of_lt_of_le hlt' hle⟩
  · exact Or.inr ⟨Or.inl hbad, Nat.lt_of_le_of_lt h'.le hlt⟩

end Counts

/-- What comes for every item is good, or it is bad for one of them. -/
theorem counts_mapM {β γ δ : Type} {faults : σ → Nat} {f : β → StateM σ γ} {R : δ → β → Prop}
    {good : δ → γ → Prop} {bad : γ → Prop}
    (h : ∀ d item state, R d item →
      Counts faults state (f item state).2 (good d (f item state).1) (bad (f item state).1))
    {ds : List δ} {items : List β} (hitems : List.Forall₂ R ds items) (state : σ) :
    Counts faults state (items.mapM f state).2 (List.Forall₂ good ds (items.mapM f state).1)
      (∃ c ∈ (items.mapM f state).1, bad c) := by
  induction hitems generalizing state with
  | nil => exact Or.inl ⟨.nil, Nat.le_refl _⟩
  | @cons d item _ rest hitem _ ih =>
    rw [List.mapM_cons]
    refine ((h d item state hitem).and (ih (f item state).2)).imp ?_ ?_
    · exact fun hgood => .cons hgood.1 hgood.2
    · rintro (hbad | ⟨c, hc, hbad⟩)
      · exact ⟨_, List.mem_cons_self, hbad⟩
      · exact ⟨c, List.mem_cons_of_mem _ hc, hbad⟩

/-- **The source answers as a store does, but for some faults**, the number of which is bounded by
its state. -/
structure Source.Falters (source : Source σ) (s : Store) (faults : σ → Nat) : Prop where
  /-- Whoever asks does not make faults. -/
  waits : ∀ r state, (source.poll r state).1 = none → faults (source.poll r state).2 ≤ faults state
  /-- An answer that comes early is that of the store, or a fault. -/
  poll : ∀ r state answer, (source.poll r state).1 = some answer →
    Counts faults state (source.poll r state).2 (answer = s.answer r) (r.IsFault answer)
  /-- So is one that comes in the end. -/
  settle : ∀ r state, Counts faults state (source.settle r state).2
    ((source.settle r state).1 = s.answer r) (r.IsFault (source.settle r state).1)

/-- A source that answers as a store has no faults. -/
theorem Source.Answers.falters {source : Source σ} {s : Store} (ha : source.Answers s) :
    source.Falters s fun _ => 0 where
  waits _ _ _ := Nat.le_refl _
  poll r state answer hanswer := Or.inl ⟨ha.poll r state answer hanswer, Nat.le_refl _⟩
  settle r state := Or.inl ⟨ha.settle r state, Nat.le_refl _⟩

section Falters

variable {source : Source σ} {s : Store} {faults : σ → Nat}

/-! ### One answer -/

/-- An answer in its place is that of the store. -/
def Slot.Serves (s : Store) (r : Request) (slot : Slot r.Reply) : Prop :=
  ∀ answer, slot = .answered answer → answer = s.answer r

/-- An answer in its place is a fault. -/
def Slot.IsFaulty (r : Request) (slot : Slot r.Reply) : Prop :=
  ∃ answer, slot = .answered answer ∧ r.IsFault answer

theorem Source.Falters.visit (hf : source.Falters s faults) {r : Request} {slot : Slot r.Reply}
    (h : slot.Serves s r) (state : σ) :
    Counts faults state (source.visit r slot state).2 ((source.visit r slot state).1.Serves s r)
      ((source.visit r slot state).1.IsFaulty r) := by
  rcases slot with n | old
  · cases n with
    | zero =>
      refine (hf.settle r state).imp ?_ ?_
      · rintro hanswer answer heq
        rw [← Slot.answered.inj heq, hanswer]
      · exact fun hfault => ⟨_, rfl, hfault⟩
    | succ n =>
      rcases hpoll : source.poll r state with ⟨_ | early, rest⟩
      · have hwaits := hf.waits r state (congrArg Prod.fst hpoll)
        simp only [Source.visit, hpoll] at hwaits ⊢
        exact Or.inl ⟨fun answer heq => (by cases heq), hwaits⟩
      · have hcounts := hf.poll r state early (congrArg Prod.fst hpoll)
        simp only [Source.visit, hpoll] at hcounts ⊢
        refine hcounts.imp ?_ ?_
        · rintro rfl answer heq
          exact (Slot.answered.inj heq).symm
        · exact fun hfault => ⟨_, rfl, hfault⟩
  · exact Or.inl ⟨h, Nat.le_refl _⟩

/-- A visit of any place does not make faults. -/
theorem Source.Falters.le_visit (hf : source.Falters s faults) (r : Request) (slot : Slot r.Reply)
    (state : σ) : faults (source.visit r slot state).2 ≤ faults state := by
  rcases slot with n | old
  · have hserves : Slot.Serves s r (.waiting n) := fun _ heq => by cases heq
    exact (hf.visit hserves state).le
  · exact Nat.le_refl _

/-! ### One structure -/

namespace Part

/-- An answered place of a translation holds the translation that is stored. -/
def Translates (s : Store) (e : Exploration) (language : Language)
    (entry : Language × Slot Translation) : Prop :=
  entry.1 = language ∧ entry.2.Serves s (request e language)

/-- The part is on its way to a stored document. -/
def Of (s : Store) (d : Document) : Part → Prop
  | whole loaded => loaded = s.complete d
  | exploration e slots =>
    d = .exploration e ∧ List.Forall₂ (Translates s e) Language.supported slots

/-- A translation of the part has failed. -/
def IsSpoilt (part : Part) : Prop := part.failure? ≠ none

/-- Look once for one translation. -/
def visitEntry (source : Source σ) (e : Exploration) (entry : Language × Slot Translation) :
    StateM σ (Language × Slot Translation) := do
  return (entry.1, ← source.visit (request e entry.1) entry.2)

theorem of_ofDocument (s : Store) (delays : Nat) (d : Document) : Of s d (ofDocument delays d) := by
  cases d with
  | exploration e =>
    refine ⟨rfl, List.forall₂_map_right_iff.mpr (List.forall₂_same.mpr ?_)⟩
    intro language _
    exact ⟨rfl, fun answer h => by cases h⟩
  | _ => exact rfl

theorem isSpoilt_of_mem {e : Exploration} {slots : Table Language (Slot Translation)}
    {entry : Language × Slot Translation} (hentry : entry ∈ slots) {failure : FetchFailure}
    (hfailed : entry.2 = .answered (.error failure)) : (exploration e slots).IsSpoilt := by
  intro hnone
  have hslot := List.findSome?_eq_none_iff.mp hnone entry.2 (List.mem_map.mpr ⟨entry, hentry, rfl⟩)
  rw [hfailed] at hslot
  cases hslot

/-- **A visit of a part** goes on to the stored document, or a translation fails. -/
theorem Of.counts (hf : source.Falters s faults) {d : Document} {part : Part} (h : Of s d part)
    (state : σ) : Counts faults state (part.visit source state).2
      (Of s d (part.visit source state).1) (part.visit source state).1.IsSpoilt := by
  cases part with
  | whole loaded => exact Or.inl ⟨h, Nat.le_refl _⟩
  | exploration e slots =>
    obtain ⟨rfl, hslots⟩ := h
    have hcounts : Counts faults state ((exploration e slots).visit source state).2
        (List.Forall₂ (Translates s e) Language.supported
          (slots.mapM (visitEntry source e) state).1)
        (∃ entry ∈ (slots.mapM (visitEntry source e) state).1,
          entry.2.IsFaulty (request e entry.1)) := by
      refine counts_mapM ?_ hslots state
      rintro language ⟨l, slot⟩ state ⟨rfl, hserves⟩
      exact (hf.visit (r := request e l) hserves state).imp (fun hserves' => ⟨rfl, hserves'⟩) id
    refine hcounts.imp (fun hslots' => ⟨rfl, hslots'⟩) ?_
    -- of a translation only the failure is a fault
    rintro ⟨entry, hentry, failure | translation, hanswer, hfault⟩
    · exact isSpoilt_of_mem hentry hanswer
    · exact hfault.elim

/-- Nothing fails, and what is complete is complete as it is stored. -/
theorem Of.failure?_eq_none {s : Store} {d : Document} {part : Part} (h : Of s d part) :
    part.failure? = none := by
  cases part with
  | whole loaded => rfl
  | exploration e slots =>
    refine List.findSome?_eq_none_iff.mpr ?_
    intro slot hslot
    obtain ⟨entry, hentry, rfl⟩ := List.mem_map.mp hslot
    obtain ⟨language, -, -, hanswer⟩ := exists_left_of_forall₂ h.2 hentry
    rcases hslot : entry.2 with n | answer
    · rfl
    · rw [hanswer answer hslot]
      rfl

theorem Of.loaded?_eq {s : Store} {d : Document} {part : Part} (h : Of s d part)
    {loaded : Loaded} (hloaded : part.loaded? = some loaded) : loaded = s.complete d := by
  cases part with
  | whole l => rw [← Option.some.inj hloaded, h]
  | exploration e slots =>
    obtain ⟨rfl, hslots⟩ := h
    -- by induction on the languages, since each of them has its own place
    have htable : ∀ (languages : List Language) (slots : Table Language (Slot Translation)),
        List.Forall₂ (Translates s e) languages slots → ∀ table,
        (slots.mapM fun (entry : Language × Slot Translation) =>
          entry.2.value?.map (entry.1, ·)) = some table →
        table = languages.map fun language =>
          (language, s.translation e.id e.version.toInt language.code) := by
      intro languages slots hslots
      induction hslots with
      | nil => intro table h; exact (Option.some.inj h).symm
      | @cons language entry _ rest hentry _ ih =>
        intro table h
        rw [List.mapM_cons] at h
        obtain ⟨value, hvalue, h⟩ := Option.bind_eq_some_iff.mp h
        obtain ⟨others, hothers, h⟩ := Option.bind_eq_some_iff.mp h
        rw [← Option.some.inj h, List.map_cons, ih others hothers]
        congr 1
        obtain ⟨rfl, hanswer⟩ := hentry
        rcases hslot : entry.2 with n | answer
        · rw [hslot] at hvalue
          cases hvalue
        · rw [hslot, hanswer answer hslot] at hvalue
          exact (Option.some.inj hvalue).symm
    obtain ⟨table, htable', hloaded⟩ := Option.bind_eq_some_iff.mp hloaded
    rw [← Option.some.inj hloaded, htable _ _ hslots _ htable']
    rfl

/-- What has failed stays failed. -/
theorem IsSpoilt.visit {part : Part} (h : part.IsSpoilt) (source : Source σ) (state : σ) :
    (part.visit source state).1.IsSpoilt := by
  cases part with
  | whole loaded => exact h
  | exploration e slots =>
    obtain ⟨failure, hfailure⟩ := Option.ne_none_iff_exists'.mp h
    obtain ⟨slot, hslot, hfailed⟩ := List.exists_of_findSome?_eq_some hfailure
    obtain ⟨entry, hentry, rfl⟩ := List.mem_map.mp hslot
    have hanswered : entry.2 = .answered (.error failure) := by
      rcases hslot : entry.2 with n | ⟨failure' | translation⟩
      · rw [hslot] at hfailed
        cases hfailed
      · rw [hslot] at hfailed
        rw [Option.some.inj hfailed]
      · rw [hslot] at hfailed
        cases hfailed
    have hpairs : List.Forall₂ (fun old new => old.2 = .answered (.error failure) →
        new.2 = (.answered (.error failure) : Slot Translation)) slots
        (slots.mapM (visitEntry source e) state).1 := by
      refine forall₂_mapM ?_ state
      rintro ⟨l, slot⟩ - state rfl
      rfl
    obtain ⟨new, hnew, hstays⟩ := exists_right_of_forall₂ hpairs hentry
    exact isSpoilt_of_mem hnew (hstays hanswered)

/-- A visit of any part does not make faults. -/
theorem le_visit (hf : source.Falters s faults) (part : Part) (state : σ) :
    faults (part.visit source state).2 ≤ faults state := by
  cases part with
  | whole loaded => exact Nat.le_refl _
  | exploration e slots =>
    exact rel_mapM (T := fun first second => faults second ≤ faults first)
      (fun _ => Nat.le_refl _) (fun h h' => Nat.le_trans h' h)
      (fun entry _ state => hf.le_visit (request e entry.1) entry.2 state) state

end Part

namespace Load

variable {request : Request}

/-! ### Loads -/

/-- What is known of parts is what is stored. -/
theorem result?_eq {documents : List Document} {parts : List Part}
    (h : List.Forall₂ (Part.Of s) documents parts) {result : Except FetchFailure (List Loaded)}
    (hresult : result? parts = some result) : result = .ok (documents.map s.complete) := by
  have hfailure : parts.findSome? Part.failure? = none := by
    refine List.findSome?_eq_none_iff.mpr ?_
    intro part hpart
    obtain ⟨d, -, hd⟩ := exists_left_of_forall₂ h hpart
    exact hd.failure?_eq_none
  unfold result? at hresult
  rw [hfailure] at hresult
  obtain ⟨loaded, hloaded, rfl⟩ := Option.map_eq_some_iff.mp hresult
  congr 1
  clear hresult hfailure
  induction h generalizing loaded with
  | nil => exact (Option.some.inj hloaded).symm
  | cons hpart _ ih =>
    rw [List.mapM_cons] at hloaded
    obtain ⟨one, hone, hloaded⟩ := Option.bind_eq_some_iff.mp hloaded
    obtain ⟨others, hothers, hloaded⟩ := Option.bind_eq_some_iff.mp hloaded
    rw [← Option.some.inj hloaded, ih others hothers, hpart.loaded?_eq hone]
    rfl

/-- **The load is for a request**: what it waits for and what it knows is what the store serves. -/
def Serves (s : Store) (request : Request) : Load → Prop
  | asking r slot => r = request ∧ ∀ answer, slot = .answered answer → answer = s.answer r
  | opening _ parts | joining _ parts => ∃ reply, s.answer request = .ok reply ∧
      List.Forall₂ (Part.Of s) (request.documents reply) parts
  | closing _ result _ => result = s.served request
  | ended result _ => result = s.served request

theorem serves_ask (s : Store) (delays : Nat) (request : Request) :
    (ask delays request).Serves s request := ⟨rfl, fun _ h => by cases h⟩

theorem served_of_answer {reply : request.Reply} (h : s.answer request = .ok reply) :
    s.served request = .ok ((request.documents reply).map s.complete) := by
  unfold Store.served
  rw [h]
  rfl

theorem serves_ofParts {reply : request.Reply} (delays : Nat) (h : s.answer request = .ok reply) :
    (ofParts request ((request.documents reply).map (Part.ofDocument delays))).Serves s
      request := by
  have hparts : List.Forall₂ (Part.Of s) (request.documents reply)
      ((request.documents reply).map (Part.ofDocument delays)) :=
    List.forall₂_map_right_iff.mpr (List.forall₂_same.mpr fun d _ => Part.of_ofDocument s delays d)
  unfold ofParts
  split
  · split
    · exact ⟨reply, h, hparts⟩
    · exact ⟨reply, h, hparts⟩
  · rename_i hjoined
    obtain ⟨result, hresult⟩ := exists_result? (settles_of_not_joined hjoined)
    show (result? _).getD (.ok []) = s.served request
    rw [hresult, served_of_answer h, ← result?_eq hparts hresult]
    rfl

/-- The result of a load is a failure, or it has another number of versions than was asked for. -/
def IsFaulty (request : Request) : Except FetchFailure (List Loaded) → Prop
  | .error _ => True
  | .ok loaded => request.Miscounts loaded.length

/-- One of the parts has failed, or there is another number of them than was asked for. -/
def AreFaulty (request : Request) (parts : List Part) : Prop :=
  (∃ part ∈ parts, part.IsSpoilt) ∨ request.Miscounts parts.length

/-- **The load is doomed**: a fault has come. -/
def IsDoomed (request : Request) : Load → Prop
  | asking _ _ => False
  | opening _ parts | joining _ parts => AreFaulty request parts
  | closing _ result _ => IsFaulty request result
  | ended result _ => IsFaulty request result

theorem AreFaulty.isFaulty {parts : List Part} (h : AreFaulty request parts)
    {result : Except FetchFailure (List Loaded)} (hresult : result? parts = some result) :
    IsFaulty request result := by
  cases result with
  | error failure => exact trivial
  | ok loaded =>
    rcases h with ⟨part, hpart, hspoilt⟩ | hcount
    · unfold result? at hresult
      cases hfailure : parts.findSome? Part.failure? with
      | none => exact absurd (List.findSome?_eq_none_iff.mp hfailure part hpart) hspoilt
      | some failure =>
        rw [hfailure] at hresult
        cases hresult
    · show request.Miscounts loaded.length
      rw [length_eq_of_result? hresult]
      exact hcount

theorem isDoomed_ofParts {documents : List Document} {delays : Nat}
    (h : request.Miscounts documents.length) :
    (ofParts request (documents.map (Part.ofDocument delays))).IsDoomed request := by
  have hfaulty : AreFaulty request (documents.map (Part.ofDocument delays)) := by
    right
    rwa [List.length_map]
  unfold Load.ofParts
  split
  · split
    · exact hfaulty
    · exact hfaulty
  · rename_i hjoined
    obtain ⟨result, hresult⟩ := exists_result? (settles_of_not_joined hjoined)
    show IsFaulty request ((result? _).getD (.ok []))
    rw [hresult]
    exact hfaulty.isFaulty hresult

theorem AreFaulty.join {lag : Nat} {parts : List Part} (h : AreFaulty request parts) :
    (join lag parts).IsDoomed request := by
  unfold Load.join
  split
  · rename_i result hresult
    exact h.isFaulty hresult
  · exact h

/-- A visit of parts does not make faults. -/
theorem le_visitParts (hf : source.Falters s faults) (parts : List Part) (state : σ) :
    faults (parts.mapM (Part.visit source) state).2 ≤ faults state :=
  rel_mapM (T := fun first second => faults second ≤ faults first) (fun _ => Nat.le_refl _)
    (fun h h' => Nat.le_trans h' h) (fun part _ state => part.le_visit hf state) state

/-- **A visit of a load** goes on to what the store serves, or a fault comes. -/
theorem Serves.counts (hf : source.Falters s faults) {load : Load} (h : load.Serves s request)
    (state : σ) : Counts faults state (load.visit source state).2
      ((load.visit source state).1.Serves s request)
      ((load.visit source state).1.IsDoomed request) := by
  cases load with
  | asking r slot =>
    obtain ⟨rfl, hserves⟩ := h
    rw [snd_visit_asking]
    refine (hf.visit hserves state).imp ?_ ?_
    · intro hserves'
      rcases visit_asking source r slot state with
        ⟨left, -, hnext⟩ | ⟨failure, hslot, hnext⟩ | ⟨reply, hslot, hnext⟩ <;> rw [hnext]
      · exact ⟨rfl, fun _ h => by cases h⟩
      · show .error failure = s.served r
        unfold Store.served
        rw [← hserves' _ hslot]
        rfl
      · exact serves_ofParts source.delays (hserves' _ hslot).symm
    · rintro ⟨answer, hanswer, hfault⟩
      rcases visit_asking source r slot state with
        ⟨left, hslot, -⟩ | ⟨failure, hslot, hnext⟩ | ⟨reply, hslot, hnext⟩
      · rw [hslot] at hanswer
        cases hanswer
      · rw [hnext]
        exact trivial
      · rw [hslot] at hanswer
        obtain rfl := Slot.answered.inj hanswer
        rw [hnext]
        exact isDoomed_ofParts hfault
  | opening lag parts => exact Or.inl ⟨h, Nat.le_refl _⟩
  | joining lag parts =>
    obtain ⟨reply, hreply, h⟩ := h
    refine (counts_mapM (fun d part state hpart => hpart.counts hf state) h state).imp ?_ ?_
    · intro hnew
      show Serves s request (join lag (parts.mapM (Part.visit source) state).1)
      unfold join
      split
      · rename_i result hresult
        show result = s.served request
        rw [result?_eq hnew hresult, served_of_answer hreply]
      · exact ⟨reply, hreply, hnew⟩
    · exact fun hspoilt => AreFaulty.join (Or.inl hspoilt)
  | closing left result parts =>
    rcases left with _ | _ | left
    · exact Or.inl ⟨h, le_visitParts hf parts state⟩
    · exact Or.inl ⟨h, le_visitParts hf parts state⟩
    · exact Or.inl ⟨h, le_visitParts hf parts state⟩
  | ended result parts => exact Or.inl ⟨h, Nat.le_refl _⟩

/-- **A load that is doomed stays so.** -/
theorem IsDoomed.visit {load : Load} (h : load.IsDoomed request) (source : Source σ) (state : σ) :
    (load.visit source state).1.IsDoomed request := by
  cases load with
  | asking r slot => exact h.elim
  | opening lag parts => exact h
  | joining lag parts =>
    refine AreFaulty.join (h.imp ?_ fun hcount => ?_)
    · rintro ⟨part, hpart, hspoilt⟩
      have hpairs : List.Forall₂ (fun old new => Part.IsSpoilt old → new.IsSpoilt) parts
          (parts.mapM (Part.visit source) state).1 :=
        forall₂_mapM (fun part _ state hspoilt => hspoilt.visit source state) state
      obtain ⟨new, hnew, hstays⟩ := exists_right_of_forall₂ hpairs hpart
      exact ⟨new, hnew, hstays hspoilt⟩
    · show request.Miscounts (parts.mapM (Part.visit source) state).1.length
      rwa [length_visitParts]
  | closing left result parts =>
    rcases left with _ | _ | left
    · exact h
    · exact h
    · exact h
  | ended result parts => exact h

/-- A visit of any load does not make faults. -/
theorem le_visit (hf : source.Falters s faults) (load : Load) (state : σ) :
    faults (load.visit source state).2 ≤ faults state := by
  cases load with
  | asking r slot =>
    rw [snd_visit_asking]
    exact hf.le_visit r slot state
  | opening lag parts => exact Nat.le_refl _
  | joining lag parts => exact le_visitParts hf parts state
  | closing left result parts =>
    rcases left with _ | _ | left
    · exact le_visitParts hf parts state
    · exact le_visitParts hf parts state
    · exact le_visitParts hf parts state
  | ended result parts => exact Nat.le_refl _

theorem le_linger (hf : source.Falters s faults) (load : Load) (state : σ) :
    faults (load.linger source state).2 ≤ faults state := by
  cases load with
  | ended result parts => exact le_visitParts hf parts state
  | asking r slot => exact le_visit hf _ state
  | opening lag parts => exact le_visit hf _ state
  | joining lag parts => exact le_visit hf _ state
  | closing left result parts => exact le_visit hf _ state

/-! ### Without faults -/

/-- **Every visit keeps to what the store serves** if there are no faults. -/
theorem Serves.visit (ha : source.Answers s) {load : Load} (h : load.Serves s request)
    (state : σ) : (load.visit source state).1.Serves s request := by
  rcases h.counts ha.falters state with ⟨hserves, -⟩ | ⟨-, hlt⟩
  · exact hserves
  · exact absurd hlt (Nat.lt_irrefl 0)

theorem Reached.serves (ha : source.Answers s) {load : Load} (h : load.Reached source request) :
    load.Serves s request := by
  induction h with
  | ask => exact serves_ask s source.delays request
  | visit _ state ih => exact ih.visit ha state

end Load

/-- **A load from a source that answers as a store ends with what the store serves.** -/
theorem Source.Yields.eq_served {source : Source σ} {s : Store} (ha : source.Answers s)
    {request : Request} {result : Except FetchFailure (List Loaded)}
    (h : source.Yields request result) : result = s.served request := by
  obtain ⟨parts, h⟩ := h
  exact h.serves ha

end Falters

end ContentPack
