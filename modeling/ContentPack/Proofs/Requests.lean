import ContentPack.Proofs.Faults

/-!
# What a store is asked for

A store notes what it is asked. A request concerns one structure (`Request.concerns`), so the log of
a store falls into the requests for each structure (`asked`).

A load asks for versions, and once they are there, for the translations of the explorations among
them (`Store.follow`). What it has still to ask for is known from the start (`Load.owed`), and every
visit moves the first of it to the log (`Load.IsPrompt.visit`). So a load from a store comes to one
list of requests, whatever is asked for between its visits.
-/

namespace ContentPack

/-! ### Requests for one structure -/

/-- The request is one for a structure, or for what belongs to it. -/
def Request.concerns (id : StructureId) : Request → Bool
  | latest place | versions place _ => place = id.locator
  | translation name _ _ => id = .exploration name

/-- The requests for a structure. -/
def asked (id : StructureId) (log : List Request) : List Request := log.filter (·.concerns id)

/-- The requests for the translations of a version. -/
def StructureId.translations (id : StructureId) (v : Version) : List Request :=
  match id with
  | exploration name =>
    Language.supported.map fun language => .translation name v.toInt language.code
  | _ => []

/-- A request concerns one structure. -/
theorem Request.eq_of_concerns {r : Request} {id other : StructureId} (h : r.concerns id)
    (h' : r.concerns other) : id = other := by
  cases r with
  | translation name version code =>
    exact (of_decide_eq_true h).trans (of_decide_eq_true h').symm
  | _ =>
    exact StructureId.locator_injective
      ((of_decide_eq_true h).symm.trans (of_decide_eq_true h'))

theorem StructureId.concerns_of_mem_translations {id : StructureId} {v : Version} {r : Request}
    (hr : r ∈ id.translations v) : r.concerns id := by
  cases id with
  | exploration name =>
    obtain ⟨language, -, rfl⟩ := List.mem_map.mp hr
    exact decide_eq_true rfl
  | _ => cases hr

@[simp] theorem asked_append (id : StructureId) (log new : List Request) :
    asked id (log ++ new) = asked id log ++ asked id new := List.filter_append ..

theorem asked_of_concerns {id : StructureId} {new : List Request}
    (h : ∀ r ∈ new, r.concerns id) : asked id new = new := List.filter_eq_self.mpr h

/-- Requests for one structure are none for another one. -/
theorem asked_of_ne {id other : StructureId} {new : List Request} (hne : other ≠ id)
    (h : ∀ r ∈ new, r.concerns id) : asked other new = [] := by
  refine List.filter_eq_nil_iff.mpr ?_
  intro r hr hother
  exact hne (Request.eq_of_concerns hother (h r hr))

namespace Store

/-! ### What follows an answer -/

/-- What a load asks for once a request is answered: the translations of what has come. -/
def follow (s : Store) (request : Request) : List Request :=
  match s.answer request with
  | .ok reply => (request.documents reply).flatMap fun d => d.id.translations d.version
  | .error _ => []

theorem follow_of_answer {s : Store} {request : Request} {reply : request.Reply}
    (h : s.answer request = .ok reply) : s.follow request =
      (request.documents reply).flatMap fun d => d.id.translations d.version := by
  unfold follow
  rw [h]

theorem follow_of_error {s : Store} {request : Request} {failure : FetchFailure}
    (h : s.answer request = .error failure) : s.follow request = [] := by
  unfold follow
  rw [h]

/-- What is served is followed by its translations. -/
theorem follow_of_served {s : Store} {request : Request} {loaded : List Loaded}
    (h : s.served request = .ok loaded) :
    s.follow request = loaded.flatMap fun l => l.id.translations l.version := by
  cases hanswer : s.answer request with
  | error failure =>
    unfold served at h
    rw [hanswer] at h
    cases h
  | ok reply =>
    rw [Load.served_of_answer hanswer] at h
    rw [follow_of_answer hanswer, ← Except.ok.inj h, List.flatMap_map]
    simp only [id_complete, version_complete]

/-- Nothing follows a request that fails. -/
theorem follow_of_served_error {s : Store} {request : Request} {failure : FetchFailure}
    (h : s.served request = .error failure) : s.follow request = [] := by
  cases hanswer : s.answer request with
  | error failure => exact follow_of_error hanswer
  | ok reply =>
    rw [Load.served_of_answer hanswer] at h
    cases h

end Store

/-! ### What a load has still to ask for -/

/-- What is asked for at the next look at a place. -/
def Slot.owed {α : Type} (r : Request) : Slot α → List Request
  | waiting (_ + 1) => [r]
  | _ => []

theorem Slot.owed_of_left {α : Type} (r : Request) {slot : Slot α} (h : slot.left ≤ 1) :
    slot.owed r = [] := by
  rcases slot with (_ | n) | answer
  · rfl
  · exact absurd h (by simp [Slot.left])
  · rfl

variable {s : Store}

theorem Store.snd_visit (r : Request) (slot : Slot r.Reply) (log : List Request) :
    (s.source.visit r slot log).2 = log ++ slot.owed r := by
  rcases slot with (_ | n) | answer
  · exact (List.append_nil log).symm
  · rfl
  · exact (List.append_nil log).symm

namespace Part

/-- What is asked for at the next look at a part. -/
def owed : Part → List Request
  | whole _ => []
  | exploration e slots => slots.flatMap fun entry => entry.2.owed (request e entry.1)

theorem owed_ofDocument (d : Document) :
    (ofDocument s.source.delays d).owed = d.id.translations d.version := by
  cases d with
  | exploration e =>
    show (Language.supported.map fun language => (language, Slot.waiting 1)).flatMap _ = _
    rw [List.flatMap_map]
    exact List.map_eq_flatMap.symm
  | _ => rfl

theorem owed_of_settles {part : Part} (h : part.Settles 1) : part.owed = [] := by
  cases part with
  | whole loaded => rfl
  | exploration e slots =>
    refine List.flatMap_eq_nil_iff.mpr ?_
    intro entry hentry
    exact Slot.owed_of_left _ (h entry hentry)

theorem snd_visit (part : Part) (log : List Request) :
    (part.visit s.source log).2 = log ++ part.owed := by
  cases part with
  | whole loaded => exact (List.append_nil log).symm
  | exploration e slots =>
    exact snd_mapM_append
      (fun entry _ log => Store.snd_visit (request e entry.1) entry.2 log) log

end Part

namespace Load

variable {load : Load} {request : Request}

/-- What is asked for at the next look at parts. -/
def owedParts (parts : List Part) : List Request := parts.flatMap Part.owed

/-- **What a load has still to ask for** before it ends. -/
def owed (s : Store) : Load → List Request
  | asking request slot => slot.owed request ++ s.follow request
  | opening _ parts | joining _ parts => owedParts parts
  | closing _ _ _ | ended _ _ => []

/-- **The load is prompt**: the store is asked at the first look at a place, and it answers at the
second. -/
def IsPrompt : Load → Prop
  | asking _ slot => 1 ≤ slot.left ∧ slot.left ≤ 2
  | opening _ parts | joining _ parts => ∀ part ∈ parts, part.Settles 2
  | closing _ _ parts => ∀ part ∈ parts, part.Settles 1
  | ended _ _ => True

theorem isPrompt_ask (s : Store) (request : Request) :
    (ask s.source.delays request).IsPrompt := ⟨Nat.le_succ 1, Nat.le_refl 2⟩

theorem owedParts_of_settles {parts : List Part} (h : ∀ part ∈ parts, part.Settles 1) :
    owedParts parts = [] :=
  List.flatMap_eq_nil_iff.mpr fun part hpart => Part.owed_of_settles (h part hpart)

theorem snd_visitParts (parts : List Part) (log : List Request) :
    (parts.mapM (Part.visit s.source) log).2 = log ++ owedParts parts :=
  snd_mapM_append (fun part _ log => part.snd_visit log) log

/-- Parts are closer to being complete after they were visited. -/
theorem settles_visitParts {n : Nat} {parts : List Part} (h : ∀ part ∈ parts, part.Settles n)
    (log : List Request) :
    ∀ part ∈ (parts.mapM (Part.visit s.source) log).1, part.Settles (n - 1) := by
  intro part hpart
  have hpairs : List.Forall₂ (fun old new => old.Settles n → Part.Settles (n - 1) new) parts
      (parts.mapM (Part.visit s.source) log).1 :=
    forall₂_mapM (fun part _ state hpart => hpart.visit s.source state) log
  obtain ⟨old, hold, hsettles⟩ := exists_left_of_forall₂ hpairs hpart
  exact hsettles (h old hold)

/-- The translations of all documents are asked for together. -/
theorem isPrompt_ofParts (request : Request) (documents : List Document) :
    (ofParts request (documents.map (Part.ofDocument s.source.delays))).IsPrompt ∧
      (ofParts request (documents.map (Part.ofDocument s.source.delays))).owed s =
        documents.flatMap fun d => d.id.translations d.version := by
  have hparts : ∀ part ∈ documents.map (Part.ofDocument s.source.delays), part.Settles 2 := by
    intro part hpart
    obtain ⟨d, -, rfl⟩ := List.mem_map.mp hpart
    exact Part.settles_ofDocument 1 d
  have howed : owedParts (documents.map (Part.ofDocument s.source.delays)) =
      documents.flatMap fun d => d.id.translations d.version := by
    unfold owedParts
    rw [List.flatMap_map]
    simp only [Part.owed_ofDocument]
  unfold ofParts
  split
  · split
    · exact ⟨hparts, howed⟩
    · exact ⟨hparts, howed⟩
  · -- without an exploration there are no translations
    rename_i hjoined
    refine ⟨trivial, ?_⟩
    rw [← howed]
    refine (owedParts_of_settles ?_).symm
    intro part hpart
    exact (settles_of_not_joined hjoined part hpart).mono (Nat.zero_le 1)

theorem isPrompt_join {lag : Nat} {parts : List Part} (h : ∀ part ∈ parts, part.Settles 1) :
    (join lag parts).IsPrompt := by
  unfold join
  split
  · exact h
  · exact fun part hpart => (h part hpart).mono (Nat.le_succ 1)

/-- Once all translations were asked for, nothing else is. -/
theorem owed_join {lag : Nat} {parts : List Part} (h : ∀ part ∈ parts, part.Settles 1) :
    (join lag parts).owed s = [] := by
  unfold join
  split
  · rfl
  · exact owedParts_of_settles h

/-- **Every visit asks for the first of what a load has to ask for**, and nothing else. -/
theorem IsPrompt.visit (h : load.IsPrompt) (log : List Request) :
    (load.visit s.source log).1.IsPrompt ∧ ∃ new, (load.visit s.source log).2 = log ++ new ∧
      load.owed s = new ++ (load.visit s.source log).1.owed s := by
  cases load with
  | asking request slot =>
    rw [snd_visit_asking, Store.snd_visit]
    rcases slot with (_ | _ | n) | answer
    · -- the store answers
      have hslot : (s.source.visit request (.waiting 0) log).1 = .answered (s.answer request) := rfl
      refine ⟨?_, [], rfl, ?_⟩
      · rcases visit_asking s.source request (.waiting 0) log with
          ⟨left, hleft, -⟩ | ⟨failure, -, hnext⟩ | ⟨reply, -, hnext⟩
        · cases hleft
        · rw [hnext]
          exact trivial
        · rw [hnext]
          exact (isPrompt_ofParts request _).1
      · rcases visit_asking s.source request (.waiting 0) log with
          ⟨left, hleft, -⟩ | ⟨failure, hfailure, hnext⟩ | ⟨reply, hreply, hnext⟩
        · cases hleft
        · rw [hnext]
          exact Store.follow_of_error (Slot.answered.inj (hslot.symm.trans hfailure))
        · rw [hnext, (isPrompt_ofParts request _).2]
          exact Store.follow_of_answer (Slot.answered.inj (hslot.symm.trans hreply))
    · exact ⟨⟨Nat.le_refl 1, Nat.le_succ 1⟩, [request], rfl, rfl⟩
    · have hle : n + 3 ≤ 2 := h.2
      omega
    · exact absurd h.1 (Nat.not_succ_le_zero 0)
  | opening lag parts => exact ⟨h, [], (List.append_nil log).symm, rfl⟩
  | joining lag parts =>
    have hsettles := settles_visitParts (s := s) h log
    refine ⟨?_, owedParts parts, snd_visitParts parts log, ?_⟩
    · exact isPrompt_join hsettles
    · exact ((congrArg (owedParts parts ++ ·) (owed_join hsettles)).trans (List.append_nil _)).symm
  | closing left result parts =>
    have hlog : (parts.mapM (Part.visit s.source) log).2 = log ++ [] := by
      rw [snd_visitParts, owedParts_of_settles h]
    rcases left with _ | _ | left
    · exact ⟨trivial, [], hlog, rfl⟩
    · exact ⟨trivial, [], hlog, rfl⟩
    · refine ⟨?_, [], hlog, rfl⟩
      exact fun part hpart => (settles_visitParts h log part hpart).mono (Nat.le_succ 0)
  | ended result parts => exact ⟨trivial, [], (List.append_nil log).symm, rfl⟩

end Load

end ContentPack
