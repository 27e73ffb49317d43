import ContentPack.Proofs.Faults

/-!
# What a source replied

The replies of a source are read off the way that its state takes (`Source.Exchanges`), whatever
it replies and whenever it puts off an answer. A load goes on with the documents of the reply to
its request (`Load.Records`), so a structure that a search has found was served: as the newest
version, or in the place of the version that was asked for, among as many documents as versions
were asked for (`IsServed`). Whether it is that version is up to the source
(`IsServed.eq_of_isFaithful`).
-/

namespace ContentPack

variable {σ : Type}

/-! ### Documents -/

/-- The document that a structure was served as. -/
def Loaded.document : Loaded → Document
  | topic t => .topic t
  | page p => .page p
  | story s => .story s
  | exploration e => .exploration e.exploration
  | skill s => .skill s

@[simp] theorem Loaded.id_document (l : Loaded) : l.document.id = l.id := by
  cases l <;> rfl

@[simp] theorem Loaded.version_document (l : Loaded) : l.document.version = l.version := by
  cases l <;> rfl

namespace Part

/-- The document that a part comes from. -/
def document : Part → Document
  | whole loaded => loaded.document
  | exploration e _ => .exploration e

theorem document_ofDocument (delays : Nat) (d : Document) : (ofDocument delays d).document = d := by
  cases d <;> rfl

theorem document_visit (s : Source σ) (part : Part) (state : σ) :
    (part.visit s state).1.document = part.document := by
  cases part <;> rfl

theorem document_of_loaded? {part : Part} {l : Loaded} (h : part.loaded? = some l) :
    l.document = part.document := by
  cases part with
  | whole loaded =>
    obtain rfl := Option.some.inj h
    rfl
  | exploration e slots =>
    obtain ⟨translations, -, heq⟩ := Option.bind_eq_some_iff.mp h
    obtain rfl := Option.some.inj heq
    rfl

end Part

theorem map_document_ofDocument (delays : Nat) (documents : List Document) :
    (documents.map (Part.ofDocument delays)).map Part.document = documents := by
  rw [List.map_map]
  exact List.map_id'' (Part.document_ofDocument delays) documents

theorem map_document_visitParts (s : Source σ) (parts : List Part) (state : σ) :
    (parts.mapM (Part.visit s) state).1.map Part.document = parts.map Part.document := by
  have hsame : List.Forall₂ (fun old new : Part => old.document = new.document) parts
      (parts.mapM (Part.visit s) state).1 :=
    forall₂_mapM (fun part _ state => (part.document_visit s state).symm) state
  have hpairs := List.forall₂_map_left_iff.mpr (List.forall₂_map_right_iff.mpr hsame)
  exact (List.forall₂_eq_eq_eq ▸ hpairs).symm

theorem Part.map_document_of_mapM {parts : List Part} {loaded : List Loaded}
    (h : parts.mapM Part.loaded? = some loaded) :
    loaded.map Loaded.document = parts.map Part.document := by
  induction parts generalizing loaded with
  | nil =>
    obtain rfl := Option.some.inj h
    rfl
  | cons part rest ih =>
    rw [List.mapM_cons] at h
    obtain ⟨one, hone, h⟩ := Option.bind_eq_some_iff.mp h
    obtain ⟨others, hothers, h⟩ := Option.bind_eq_some_iff.mp h
    rw [← Option.some.inj h, List.map_cons, List.map_cons, ih hothers, document_of_loaded? hone]

theorem Load.map_document_of_result? {parts : List Part} {loaded : List Loaded}
    (h : result? parts = some (.ok loaded)) :
    loaded.map Loaded.document = parts.map Part.document := by
  unfold result? at h
  split at h
  · cases Option.some.inj h
  · obtain ⟨all, hall, heq⟩ := Option.map_eq_some_iff.mp h
    obtain rfl := Except.ok.inj heq
    exact Part.map_document_of_mapM hall

/-! ### Exchanges -/

/-- A request with the reply to it. -/
structure Exchange where
  /-- What was asked for. -/
  request : Request
  /-- What came. -/
  reply : request.Reply

namespace Exchange

/-- The documents that came. -/
def documents (x : Exchange) : List Document := x.request.documents x.reply

/-- As many versions came as were asked for. -/
def IsCounted (x : Exchange) : Prop := ¬x.request.Miscounts x.documents.length

/-- A translation was asked for. -/
def IsTranslation (x : Exchange) : Prop :=
  ∃ name version languageCode, x.request = .translation name version languageCode

/-- **What came is what was asked for**: documents of the structure, and those of the versions in
their order. -/
def IsFaithful : Exchange → Prop
  | ⟨.latest place, document⟩ => document.id.locator = place
  | ⟨.versions place versions, documents⟩ =>
    List.Forall₂ (fun (v : Int) (d : Document) => d.id.locator = place ∧ d.version.toInt = v)
      versions documents
  | _ => True

theorem IsTranslation.isCounted {x : Exchange} (h : x.IsTranslation) : x.IsCounted := by
  obtain ⟨_, _⟩ := x
  obtain ⟨_, _, _, rfl⟩ := h
  exact id

end Exchange

/-- The exchange of a request with its reply, if there is one. -/
def replied (request : Request) (reply : Option request.Reply) : List Exchange :=
  reply.toList.map (⟨request, ·⟩)

/-- **A structure was served as a version** of what was asked for. -/
inductive IsServed (log : List Exchange) (id : StructureId) (v : Version) (l : Loaded) : Prop
  /-- It came as the newest version, and it says which version that is. -/
  | latest : (⟨.latest id.locator, l.document⟩ : Exchange) ∈ log → l.version = v →
      IsServed log id v l
  /-- It came in the place of the version, among as many documents as were asked for. -/
  | version {versions : List Version} {documents : List Document} {place : Nat} :
      (⟨.versions id.locator (versions.map Version.toInt), documents⟩ : Exchange) ∈ log →
      documents.length = versions.length → versions[place]? = some v →
      documents[place]? = some l.document → IsServed log id v l

theorem IsServed.mono {log log' : List Exchange} (hlog : log ⊆ log') {id : StructureId}
    {v : Version} {l : Loaded} (h : IsServed log id v l) : IsServed log' id v l := by
  cases h with
  | latest hmem hversion => exact .latest (hlog hmem) hversion
  | version hmem hlength hv hl => exact .version (hlog hmem) hlength hv hl

/-- **If what came is what was asked for**, a structure is the version that it was served as. -/
theorem IsServed.eq_of_isFaithful {log : List Exchange} {id : StructureId} {v : Version}
    {l : Loaded} (h : IsServed log id v l) (hfaithful : ∀ x ∈ log, x.IsFaithful) :
    l.id = id ∧ l.version = v := by
  cases h with
  | latest hmem hversion =>
    have hid : l.document.id.locator = id.locator := hfaithful _ hmem
    rw [l.id_document] at hid
    exact ⟨StructureId.locator_injective hid, hversion⟩
  | @version versions documents place hmem _ hv hl =>
    have hpairs := List.forall₂_map_left_iff.mp (hfaithful _ hmem)
    have hpair : (v, l.document) ∈ versions.zip documents :=
      List.mem_of_getElem? (List.getElem?_zip_eq_some.mpr ⟨hv, hl⟩)
    have hasked : l.document.id.locator = id.locator ∧ l.document.version.toInt = v.toInt :=
      List.forall₂_zip hpairs hpair
    rw [l.id_document, l.version_document] at hasked
    obtain ⟨hid, hversion⟩ := hasked
    exact ⟨StructureId.locator_injective hid, Version.ext (Int.ofNat.inj hversion)⟩

/-! ### The way of a source -/

/-- **What a source replied** on its way from a state: it was looked at for answers to requests, and
each may have been put off, or there may have been a failure. -/
inductive Source.Exchanges (source : Source σ) (start : σ) : List Exchange → σ → Prop
  /-- Nothing was asked for. -/
  | start : Exchanges source start [] start
  /-- A request may have been answered. -/
  | poll {log : List Exchange} {state : σ} (request : Request) : Exchanges source start log state →
      Exchanges source start
        (log ++ replied request ((source.poll request state).1.bind Except.toOption))
        (source.poll request state).2
  /-- A request was answered. -/
  | settle {log : List Exchange} {state : σ} (request : Request) :
      Exchanges source start log state →
      Exchanges source start (log ++ replied request (source.settle request state).1.toOption)
        (source.settle request state).2

namespace Source.Exchanges

variable {source : Source σ} {start state state' : σ} {log log' : List Exchange}

theorem trans (h : source.Exchanges start log state) (h' : source.Exchanges state log' state') :
    source.Exchanges start (log ++ log') state' := by
  induction h' with
  | start => exact (List.append_nil log).symm ▸ h
  | poll request _ ih =>
    rw [← List.append_assoc]
    exact ih.poll request
  | settle request _ ih =>
    rw [← List.append_assoc]
    exact ih.settle request

theorem visit (source : Source σ) (request : Request) {slot : Slot request.Reply}
    (hwaiting : slot.isWaiting = true) (state : σ) :
    source.Exchanges state (replied request (source.visit request slot state).1.value?)
      (source.visit request slot state).2 := by
  have hstart : source.Exchanges state [] state := .start
  cases slot with
  | answered answer => cases hwaiting
  | waiting left =>
    cases left with
    | zero =>
      have hsettle := hstart.settle request
      simp only [Source.visit]
      cases hanswer : (source.settle request state).1 with
      | error failure => rwa [hanswer] at hsettle
      | ok reply => rwa [hanswer] at hsettle
    | succ left =>
      have hpoll := hstart.poll request
      simp only [Source.visit]
      rcases hanswer : source.poll request state with ⟨_ | failure | reply, _⟩
      all_goals
        rw [hanswer] at hpoll
        exact hpoll

end Source.Exchanges

/-! ### What a visit to a load asks for -/

/-- A way on which nothing but translations is asked for. -/
def Source.Translates (source : Source σ) (state state' : σ) : Prop :=
  ∃ log, source.Exchanges state log state' ∧ ∀ x ∈ log, x.IsTranslation

theorem Source.Translates.refl (source : Source σ) (state : σ) : source.Translates state state :=
  ⟨[], .start, fun _ hx => absurd hx List.not_mem_nil⟩

theorem Source.Translates.trans {source : Source σ} {state state' state'' : σ}
    (h : source.Translates state state') (h' : source.Translates state' state'') :
    source.Translates state state'' := by
  obtain ⟨log, hlog, hall⟩ := h
  obtain ⟨log', hlog', hall'⟩ := h'
  exact ⟨log ++ log', hlog.trans hlog', List.forall_mem_append.mpr ⟨hall, hall'⟩⟩

theorem Part.translates_visit (source : Source σ) (part : Part) (state : σ) :
    source.Translates state (part.visit source state).2 := by
  cases part with
  | whole loaded => exact .refl source state
  | exploration e slots =>
    refine rel_mapM (T := source.Translates) (.refl source) .trans ?_ state
    rintro ⟨language, slot⟩ - state
    by_cases hwaiting : slot.isWaiting = true
    · refine ⟨_, .visit source (Part.request e language) hwaiting state, ?_⟩
      intro x hx
      obtain ⟨_, -, rfl⟩ := List.mem_map.mp hx
      exact ⟨_, _, _, rfl⟩
    · cases slot with
      | waiting left => exact absurd rfl hwaiting
      | answered answer => exact .refl source state

theorem translates_visitParts (source : Source σ) (parts : List Part) (state : σ) :
    source.Translates state (parts.mapM (Part.visit source) state).2 :=
  rel_mapM (T := source.Translates) (.refl source) .trans
    (fun part _ state => part.translates_visit source state) state

namespace Load

/-- Once its documents are there, a load asks for translations only. -/
theorem translates_visit (source : Source σ) {load : Load}
    (hasked : ∀ request slot, load ≠ asking request slot) (state : σ) :
    source.Translates state (load.visit source state).2 := by
  cases load with
  | asking request slot => exact absurd rfl (hasked request slot)
  | opening lag parts => exact .refl source state
  | joining lag parts => exact translates_visitParts source parts state
  | closing left result parts =>
    rcases left with _ | _ | left <;> exact translates_visitParts source parts state
  | ended result parts => exact .refl source state

theorem exists_exchanges_visit (source : Source σ) (load : Load) (state : σ) :
    ∃ log, source.Exchanges state log (load.visit source state).2 := by
  by_cases hasked : ∃ request slot, load = asking request slot
  · obtain ⟨request, slot, rfl⟩ := hasked
    rw [snd_visit_asking]
    cases slot with
    | waiting left => exact ⟨_, .visit source request rfl state⟩
    | answered answer => exact ⟨[], .start⟩
  · have hnot : ∀ request slot, load ≠ asking request slot :=
      fun request slot heq => hasked ⟨request, slot, heq⟩
    obtain ⟨log, hlog, -⟩ := translates_visit source hnot state
    exact ⟨log, hlog⟩

theorem exists_exchanges_linger (source : Source σ) (load : Load) (state : σ) :
    ∃ log, source.Exchanges state log (load.linger source state).2 := by
  cases load with
  | ended result parts =>
    obtain ⟨log, hlog, -⟩ := translates_visitParts source parts state
    exact ⟨log, hlog⟩
  | _ => exact exists_exchanges_visit source _ state

/-! ### Documents of a load -/

/-- The load goes on with the documents of an exchange. -/
def Bears (x : Exchange) : Load → Prop
  | asking _ _ => False
  | opening _ parts | joining _ parts => parts.map Part.document = x.documents
  | closing _ result _ | ended result _ =>
    ∀ loaded, result = .ok loaded → loaded.map Loaded.document = x.documents

variable {s : Source σ} {load : Load} {x : Exchange}

theorem bears_join {lag : Nat} {parts : List Part} (h : parts.map Part.document = x.documents) :
    (join lag parts).Bears x := by
  unfold join
  split
  · rintro loaded rfl
    rename_i hresult
    rw [map_document_of_result? hresult, h]
  · exact h

theorem bears_ofParts {request : Request} {reply : request.Reply} (delays : Nat) :
    (ofParts request ((request.documents reply).map (Part.ofDocument delays))).Bears
      ⟨request, reply⟩ := by
  have hdocuments := map_document_ofDocument delays (request.documents reply)
  unfold ofParts
  split
  · split <;> exact hdocuments
  · rename_i hjoined
    obtain ⟨result, hresult⟩ := exists_result? (settles_of_not_joined hjoined)
    rintro loaded hloaded
    rw [hresult, Option.getD_some] at hloaded
    rw [map_document_of_result? (hloaded ▸ hresult), hdocuments]
    rfl

theorem Bears.visit (h : load.Bears x) (s : Source σ) (state : σ) :
    (load.visit s state).1.Bears x := by
  cases load with
  | asking request slot => exact h.elim
  | opening lag parts => exact h
  | joining lag parts => exact bears_join ((map_document_visitParts s parts state).trans h)
  | closing left result parts => rcases left with _ | _ | left <;> exact h
  | ended result parts => exact h

/-- **What a load makes of the replies** on its way: it waits for the reply to its request, it has
failed, or it goes on with the documents that came, which may be too few or too many. -/
inductive Records (request : Request) (log : List Exchange) : Load → Prop
  /-- The reply is waited for. -/
  | asks {slot : Slot request.Reply} : slot.isWaiting = true → (∀ x ∈ log, x.IsCounted) →
      Records request log (asking request slot)
  /-- There was a failure. -/
  | fails {failure : FetchFailure} {parts : List Part} :
      Records request log (ended (.error failure) parts)
  /-- The reply came. -/
  | bears {load : Load} {reply : request.Reply} : load.Bears ⟨request, reply⟩ →
      (⟨request, reply⟩ : Exchange) ∈ log →
      (∀ x ∈ log, x.IsCounted ∨ x = ⟨request, reply⟩) → Records request log load

theorem Records.visit {request : Request} {log : List Exchange} (h : load.Records request log)
    (s : Source σ) (state : σ) : ∃ more, s.Exchanges state more (load.visit s state).2 ∧
      (load.visit s state).1.Records request (log ++ more) := by
  cases h with
  | @asks slot hwaiting hcounted =>
    have hway := Source.Exchanges.visit s request hwaiting state
    rw [← snd_visit_asking] at hway
    -- the answer is put off again, the request fails, or the reply comes
    rcases visit_asking s request slot state with
      ⟨left, hslot, hnext⟩ | ⟨failure, hslot, hnext⟩ | ⟨reply, hslot, hnext⟩ <;>
      rw [hslot] at hway <;> rw [hnext]
    · refine ⟨_, hway, .asks rfl ?_⟩
      rw [show replied request _ = [] from rfl, List.append_nil]
      exact hcounted
    · exact ⟨_, hway, .fails⟩
    · refine ⟨_, hway, .bears (bears_ofParts s.delays) (List.mem_append_right _ ?_) ?_⟩
      · exact List.mem_singleton_self _
      · intro x hx
        rcases List.mem_append.mp hx with hx | hx
        · exact Or.inl (hcounted x hx)
        · exact Or.inr (List.mem_singleton.mp hx)
  | fails => exact ⟨[], .start, .fails⟩
  | @bears _ reply hbears hmem hcounted =>
    -- from now on translations are all that is asked for
    have hasked : ∀ request slot, load ≠ asking request slot := by
      rintro request slot rfl
      exact hbears
    obtain ⟨more, hway, hall⟩ := translates_visit s hasked state
    refine ⟨more, hway, .bears (hbears.visit s state) (List.mem_append_left _ hmem) ?_⟩
    intro x hx
    rcases List.mem_append.mp hx with hx | hx
    · exact hcounted x hx
    · exact Or.inl (hall x hx).isCounted

end Load

end ContentPack
