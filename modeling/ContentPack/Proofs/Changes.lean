import ContentPack.Proofs.Search.Path
import Mathlib.Logic.Relation

/-!
# How a cache changes

Whatever the source answers, and however many searches share a cache, a search changes it in three
ways only (`Cache.Change`): it tracks a structure that is not tracked yet, it writes the outcome of
a version, or it drops the newest version of a structure. Every visit of a walk makes a number of
such changes, also if it ends with an error (`Resolver.changes_step`).

So a cache keeps its shape (`Cache.Spans`) and only evolves (`Cache.Evolves`): structures stay
tracked with no more versions than before, and a version that was loaded stays loaded, until it is
the newest one and is dropped.
-/

namespace ContentPack

variable {α σ β γ : Type}

/-- The versions of a history stay, and what was loaded stays loaded. -/
structure History.Keeps (h h' : History α) : Prop where
  /-- The newest version is the same. -/
  newest : h'.newest = h.newest
  /-- What was loaded stays loaded. -/
  loaded : ∀ v o, h.get? v = some o → o ≠ .pending → ∃ o', h'.get? v = some o' ∧ o' ≠ .pending

theorem History.Keeps.refl (h : History α) : h.Keeps h :=
  ⟨rfl, fun _ o ho hdecided => ⟨o, ho, hdecided⟩⟩

/-- An outcome may be written over another one. -/
theorem History.Keeps.set {h : History α} (v : Version) {o : Outcome α} (hdecided : o ≠ .pending) :
    h.Keeps (h.set v o) where
  newest := h.newest_set v o
  loaded w o' ho' hdecided' := by
    rw [get?_set]
    split
    · exact ⟨o, by rw [ho']; rfl, hdecided⟩
    · exact ⟨o', ho', hdecided'⟩

namespace Cache

variable {cache cache' : Cache α} {id : StructureId} {h : History α}

/-! ### The shape of a cache -/

/-- **A structure is tracked up to a version**: there is exactly one entry for each version up to
it. -/
structure Spans (cache : Cache α) (id : StructureId) (n : Nat) : Prop where
  /-- There is a version. -/
  one_le : 1 ≤ n
  /-- It is the number of versions. -/
  count : cache.versionCount id = n
  /-- The versions are listed upwards, each once. -/
  references : cache.references id = .ok ((List.range n).map fun i => ⟨id, .after i⟩)
  /-- These and no other versions have an entry. -/
  get : ∀ v : Version, (∃ o, cache.get ⟨id, v⟩ = .ok o) ↔ v.number ≤ n

theorem get_eq_ok_iff (hh : cache.history? id = some h) {v : Version} {o : Outcome α} :
    cache.get ⟨id, v⟩ = .ok o ↔ h.get? v = some o := by
  constructor
  · intro hget
    by_cases hle : v.number ≤ h.newest.number
    · obtain ⟨o', ho'⟩ := h.exists_get? hle
      rw [get_of_history? hh ho'] at hget
      rw [ho', Except.ok.inj hget]
    · rw [get_of_lt hh (not_le.mp hle)] at hget
      cases hget
  · exact get_of_history? hh

theorem spans_of_history? (hh : cache.history? id = some h) : cache.Spans id h.newest.number where
  one_le := h.one_le_newest
  count := versionCount_of_history? hh
  references := by
    unfold Cache.references
    rw [history_of_history? hh]
    show Except.ok ((List.map Version.after (List.range h.outcomes.length)).map _) = _
    rw [List.map_map]
    rfl
  get v := by
    constructor
    · rintro ⟨o, ho⟩
      exact History.le_newest_of_get? ((get_eq_ok_iff hh).mp ho)
    · intro hle
      obtain ⟨o, ho⟩ := h.exists_get? hle
      exact ⟨o, get_of_history? hh ho⟩

theorem exists_history?_of_tracks (h : cache.tracks id = true) :
    ∃ h, cache.history? id = some h := Option.isSome_iff_exists.mp h

/-! ### Changes -/

/-- **A change of a cache.** -/
inductive Change (cache : Cache α) : Cache α → Prop
  /-- A structure that is not tracked is tracked. -/
  | track {newest : Reference} {subtopic : Option Subtopic} {o : Outcome α}
      (untracked : cache.tracks newest.id = false) (decided : o ≠ .pending) :
      Change cache (cache.track newest subtopic o)
  /-- The outcome of a version is written. -/
  | put {r : Reference} {o : Outcome α} {cache' : Cache α} (put : cache.put r o = .ok cache')
      (decided : o ≠ .pending) : Change cache cache'
  /-- The newest version of a structure is dropped. -/
  | invalidate {r : Reference} {cache' : Cache α} (dropped : cache.invalidate r = .ok cache') :
      Change cache cache'

/-- **Any number of changes.** -/
abbrev Changes : Cache α → Cache α → Prop := Relation.ReflTransGen Change

theorem exists_of_put {r : Reference} {o : Outcome α} (hput : cache.put r o = .ok cache') :
    ∃ h, cache.history? r.id = some h ∧ cache' = cache.withHistory r.id (h.set r.version o) := by
  cases hh : cache.history? r.id with
  | none =>
    simp only [put, history, hh, bind, Except.bind, reduceCtorEq] at hput
  | some h =>
    rw [put_of_history? hh] at hput
    exact ⟨h, rfl, (Except.ok.inj hput).symm⟩

theorem exists_of_invalidate {r : Reference} (hdrop : cache.invalidate r = .ok cache') :
    ∃ h h', cache.history? r.id = some h ∧ r.version = h.newest ∧
      cache' = cache.withHistory r.id h' ∧ h'.newest.number + 1 = h.newest.number ∧
      h'.outcomes <+: h.outcomes := by
  obtain ⟨id, v⟩ := r
  cases hh : cache.history? id with
  | none =>
    rw [invalidate_of_none hh] at hdrop
    cases hdrop
  | some h =>
    by_cases hnewest : h.newest = v
    · subst hnewest
      cases hrest : h.dropNewest? with
      | none =>
        rw [invalidate_of_last hh hrest] at hdrop
        cases hdrop
      | some rest =>
        rw [invalidate_of_history? hh hrest] at hdrop
        exact ⟨h, rest, rfl, rfl, (Except.ok.inj hdrop).symm, History.of_dropNewest? hrest⟩
    · rw [invalidate_of_ne hh hnewest] at hdrop
      cases hdrop

/-- **What a change does to a structure that is tracked**: it keeps its versions, or its newest
version is dropped. -/
theorem Change.exists_history? (hchange : cache.Change cache') (hh : cache.history? id = some h) :
    ∃ h', cache'.history? id = some h' ∧ (h.Keeps h' ∨
      cache.invalidate ⟨id, h.newest⟩ = .ok cache' ∧ h'.newest.number + 1 = h.newest.number ∧
        h'.outcomes <+: h.outcomes) := by
  cases hchange with
  | @track newest subtopic o huntracked _ =>
    have hne : id ≠ newest.id := by
      rintro rfl
      rw [tracks_of_history? hh] at huntracked
      cases huntracked
    exact ⟨h, (history?_withHistory_of_ne _ _ hne).trans hh, Or.inl (.refl h)⟩
  | @put r o _ hput hdecided =>
    obtain ⟨h₀, hh₀, rfl⟩ := exists_of_put hput
    by_cases hid : id = r.id
    · subst hid
      obtain rfl := Option.some.inj (hh.symm.trans hh₀)
      exact ⟨_, history?_withHistory_self .., Or.inl (.set r.version hdecided)⟩
    · exact ⟨h, (history?_withHistory_of_ne _ _ hid).trans hh, Or.inl (.refl h)⟩
  | @invalidate r _ hdrop =>
    obtain ⟨h₀, h', hh₀, hversion, rfl, hnum, hfirst⟩ := exists_of_invalidate hdrop
    by_cases hid : id = r.id
    · subst hid
      obtain rfl := Option.some.inj (hh.symm.trans hh₀)
      refine ⟨h', history?_withHistory_self .., Or.inr ⟨?_, hnum, hfirst⟩⟩
      rw [← hversion]
      exact hdrop
    · exact ⟨h, (history?_withHistory_of_ne _ _ hid).trans hh, Or.inl (.refl h)⟩

/-! ### What changes keep -/

theorem Spans.exists_history? {n : Nat} (h : cache.Spans id n) :
    ∃ h, cache.history? id = some h ∧ h.newest.number = n := by
  cases hh : cache.history? id with
  | none =>
    have hcount : cache.versionCount id = 0 := by
      unfold versionCount
      rw [hh]
    have hone := h.one_le
    rw [h.count] at hcount
    omega
  | some history =>
    exact ⟨history, rfl, (versionCount_of_history? hh).symm.trans h.count⟩

theorem Spans.exists_newest {n : Nat} (h : cache.Spans id n) :
    ∃ v : Version, cache.newest id = .ok ⟨id, v⟩ ∧ v.number = n := by
  obtain ⟨history, hh, hnum⟩ := h.exists_history?
  exact ⟨history.newest, newest_of_history? hh, hnum⟩

theorem exists_history?_of_get {r : Reference} {o : Outcome α} (h : cache.get r = .ok o) :
    ∃ h, cache.history? r.id = some h ∧ h.get? r.version = some o := by
  cases hh : cache.history? r.id with
  | none => simp only [Cache.get, history, hh, bind, Except.bind, reduceCtorEq] at h
  | some history => exact ⟨history, rfl, (get_eq_ok_iff hh).mp h⟩

/-- The number of versions never grows. -/
theorem Changes.exists_spans (h : cache.Changes cache') {n : Nat} (hn : cache.Spans id n) :
    ∃ n' ≤ n, cache'.Spans id n' := by
  induction h with
  | refl => exact ⟨n, Nat.le_refl n, hn⟩
  | tail _ hchange ih =>
    obtain ⟨n', hle, hn'⟩ := ih
    obtain ⟨h, hh, rfl⟩ := hn'.exists_history?
    obtain ⟨h', hh', hkeeps | ⟨-, hnum, -⟩⟩ := hchange.exists_history? hh
    · exact ⟨_, hkeeps.newest ▸ hle, spans_of_history? hh'⟩
    · exact ⟨_, by omega, spans_of_history? hh'⟩

/-- The version was loaded, and it was dropped when it was the newest one. -/
def DroppedBetween (cache cache' : Cache α) (r : Reference) : Prop :=
  ∃ top rest, cache.Changes top ∧ (∃ o, top.get r = .ok o ∧ o ≠ .pending) ∧
    top.invalidate r = .ok rest ∧ rest.Changes cache'

/-- What was loaded stays loaded until it is dropped. -/
theorem Changes.loaded (h : cache.Changes cache') {r : Reference} {o : Outcome α}
    (ho : cache.get r = .ok o) (hdecided : o ≠ .pending) :
    (∃ o', cache'.get r = .ok o' ∧ o' ≠ .pending) ∨ cache.DroppedBetween cache' r := by
  induction h with
  | refl => exact Or.inl ⟨o, ho, hdecided⟩
  | @tail middle last hchanges hchange ih =>
    rcases ih with ⟨o', ho', hdecided'⟩ | ⟨top, rest, htop, hloaded, hdrop, hrest⟩
    · obtain ⟨h, hh, hget⟩ := exists_history?_of_get ho'
      obtain ⟨h', hh', hkeeps | ⟨hdrop, hnum, hfirst⟩⟩ := hchange.exists_history? hh
      · obtain ⟨o'', ho'', hdecided''⟩ := hkeeps.loaded _ _ hget hdecided'
        exact Or.inl ⟨o'', get_of_history? hh' ho'', hdecided''⟩
      · by_cases hversion : r.version = h.newest
        · -- it is the newest version, which is dropped now
          rw [← hversion] at hdrop
          exact Or.inr ⟨middle, last, hchanges, ⟨o', ho', hdecided'⟩, hdrop, .refl⟩
        · have hle := History.le_newest_of_get? hget
          have hne : r.version.number ≠ h.newest.number := fun heq => hversion (Version.ext heq)
          have hsame := History.get?_eq_of_initial hfirst (v := r.version) (by omega)
          exact Or.inl ⟨o', get_of_history? hh' (hsame.trans hget), hdecided'⟩
    · exact Or.inr ⟨top, rest, htop, hloaded, hdrop, hrest.tail hchange⟩

/-- **Structures are tracked once.** -/
theorem Changes.nodup (h : cache.Changes cache') (hnodup : cache.histories.keys.Nodup) :
    cache'.histories.keys.Nodup := by
  induction h with
  | refl => exact hnodup
  | tail _ hchange ih =>
    cases hchange with
    | track _ _ => exact Table.nodup_keys_put ih _ _
    | put hput _ =>
      obtain ⟨h, -, rfl⟩ := exists_of_put hput
      exact Table.nodup_keys_put ih _ _
    | invalidate hdrop =>
      obtain ⟨h, h', -, -, rfl, -⟩ := exists_of_invalidate hdrop
      exact Table.nodup_keys_put ih _ _

/-- **The shape of a cache**: structures are tracked once, each up to a version. -/
structure IsShaped (cache : Cache α) : Prop where
  /-- No structure is tracked twice. -/
  nodup : cache.histories.keys.Nodup
  /-- What is tracked has an entry for each version up to one. -/
  spans : ∀ id, cache.tracks id = true → ∃ n, cache.Spans id n

theorem Changes.isShaped (h : (Cache.empty : Cache α).Changes cache) : cache.IsShaped where
  nodup := h.nodup List.nodup_nil
  spans id hid := by
    obtain ⟨history, hh⟩ := exists_history?_of_tracks hid
    exact ⟨_, spans_of_history? hh⟩

/-- **How a cache evolves.** -/
structure Evolves (cache cache' : Cache α) : Prop where
  /-- What is tracked stays tracked, and the number of its versions does not grow. -/
  spans : ∀ id n, cache.Spans id n → ∃ n' ≤ n, cache'.Spans id n'
  /-- A version of a tracked structure that is not there does not come back. -/
  gone : ∀ r, cache.tracks r.id = true → (∀ o, cache.get r ≠ .ok o) → ∀ o, cache'.get r ≠ .ok o
  /-- What was loaded stays loaded, or it was dropped when it was the newest version. -/
  loaded : ∀ r o, cache.get r = .ok o → o ≠ .pending →
    (∃ o', cache'.get r = .ok o' ∧ o' ≠ .pending) ∨ cache.DroppedBetween cache' r

/-- **Changes let a cache evolve.** -/
theorem Changes.evolves (h : cache.Changes cache') : cache.Evolves cache' where
  spans _ _ hn := h.exists_spans hn
  gone r htracked hgone o ho := by
    obtain ⟨history, hh⟩ := exists_history?_of_tracks htracked
    obtain ⟨n', hle, hn'⟩ := h.exists_spans (spans_of_history? hh)
    have hversion := (hn'.get r.version).mp ⟨o, ho⟩
    obtain ⟨o', ho'⟩ := history.exists_get? (Nat.le_trans hversion hle)
    exact hgone o' (get_of_history? hh ho')
  loaded _ _ ho hdecided := h.loaded ho hdecided

end Cache

/-! ### Work that makes no other changes -/

namespace Work

/-- **Whatever the work does, and however it ends**, the session that is left is related to the one
that it started on. -/
def Respects (R : Session α σ → Session α σ → Prop) (x : Work α σ β) : Prop :=
  ∀ s, Ensures x s (fun _ rest => R s rest) (fun _ rest => R s rest)

/-- **What searches may do**: they ask the source and change the cache, one thing after another. -/
structure Permits (R : Session α σ → Session α σ → Prop) : Prop where
  refl : ∀ s, R s s
  trans : ∀ {s s' s''}, R s s' → R s' s'' → R s s''
  /-- The source may be asked. -/
  ask : ∀ s remote, R s { s with remote }
  /-- The cache may be changed. -/
  change : ∀ {s cache}, s.cache.Change cache → R s { s with cache }

section Respects

variable {R : Session α σ → Session α σ → Prop} (hR : Permits R)

theorem Respects.run {x : Work α σ β} (hx : Respects R x) (s : Session α σ) :
    R s (ExceptT.run x s).2 := by
  rcases (hx s).run with ⟨_, _, hrun, hrest⟩ | ⟨_, _, hrun, hrest⟩ <;> rw [hrun] <;> exact hrest

include hR

theorem respects_pure (value : β) : Respects R (pure value : Work α σ β) := hR.refl

theorem respects_throw (error : Error) : Respects R (throw error : Work α σ β) := hR.refl

theorem respects_get : Respects R (get : Work α σ (Session α σ)) := hR.refl

theorem respects_ask (question : StateM σ β) : Respects R (ask question : Work α σ β) :=
  fun s => hR.ask s _

theorem Respects.bind {x : Work α σ β} {f : β → Work α σ γ} (hx : Respects R x)
    (hf : ∀ value, Respects R (f value)) : Respects R (x >>= f) := by
  intro s
  rw [ensures_bind]
  refine (hx s).mono ?_ (fun _ _ => id)
  intro value rest hrest
  exact (hf value rest).mono (fun _ _ => hR.trans hrest) (fun _ _ => hR.trans hrest)

theorem Respects.tryCatch {x : Work α σ β} {handle : Error → Work α σ β} (hx : Respects R x)
    (hhandle : ∀ error, Respects R (handle error)) : Respects R (tryCatch x handle) := by
  intro s
  rw [ensures_tryCatch]
  refine (hx s).mono (fun _ _ => id) ?_
  intro error rest hrest
  exact (hhandle error rest).mono (fun _ _ => hR.trans hrest) (fun _ _ => hR.trans hrest)

theorem Respects.forM {ι : Type} {f : ι → Work α σ PUnit} (hf : ∀ i, Respects R (f i))
    (items : List ι) : Respects R (forM items f) := by
  induction items with
  | nil => exact respects_pure hR _
  | cons i rest ih =>
    rw [List.forM_cons]
    exact (hf i).bind hR fun _ => ih

theorem respects_readCache (read : Cache α → Except Misuse β) :
    Respects R (readCache read : Work α σ β) := by
  intro s
  cases hread : read s.cache with
  | ok value => exact (ensures_readCache_ok hread).mpr (hR.refl s)
  | error what => exact (ensures_readCache_error hread).mpr (hR.refl s)

/-- A change of the cache is made, or nothing happens. -/
theorem respects_changeCache {change : Cache α → Except Misuse (Cache α)}
    (h : ∀ cache cache', change cache = .ok cache' → cache.Change cache') :
    Respects R (changeCache change : Work α σ Unit) := by
  intro s
  cases hchange : change s.cache with
  | ok cache => exact (ensures_changeCache_ok hchange).mpr (hR.change (h _ _ hchange))
  | error what => exact (ensures_changeCache_error hchange).mpr (hR.refl s)

theorem respects_put (r : Reference) {o : Outcome α} (hdecided : o ≠ .pending) :
    Respects R (changeCache (·.put r o) : Work α σ Unit) :=
  respects_changeCache hR fun _ _ hput => .put hput hdecided

theorem respects_invalidate (r : Reference) :
    Respects R (changeCache (·.invalidate r) : Work α σ Unit) :=
  respects_changeCache hR fun _ _ hdrop => .invalidate hdrop

end Respects

theorem permits_changes : Permits fun s rest : Session α σ => s.cache.Changes rest.cache where
  refl _ := .refl
  trans h h' := h.trans h'
  ask _ _ := .refl
  change h := .single h

end Work

/-! ### Searches -/

namespace Resolver

open Work

section Respects

variable {r : Resolver α σ} {e : Errand} {R : Session α σ → Session α σ → Prop} (hR : Permits R)

include hR

theorem respects_loadVersion (v : Version) (purpose : List Version → Purpose) :
    Respects R (r.loadVersion e v purpose) := by
  unfold loadVersion
  exact (respects_readCache hR _).bind hR fun _ => respects_pure hR _

theorem respects_resort : Respects R (r.resort e) := by
  unfold resort
  refine (respects_readCache hR _).bind hR fun oldest => ?_
  refine (respects_readCache hR _).bind hR fun o => ?_
  split
  · exact respects_loadVersion hR _ _
  · exact respects_pure hR _

theorem respects_conclude {lastInvalid : Option Version} {o : Outcome α}
    {below : Work α σ (Walk α)} (hbelow : Respects R below) :
    Respects R (conclude e lastInvalid o below) := by
  have hend : Respects R (if o.isSuccess then return .ended o else below) := by
    split
    · exact respects_pure hR _
    · exact hbelow
  unfold conclude
  cases lastInvalid with
  | none => exact hend
  | some above => exact (respects_invalidate hR _).bind hR fun _ => hend

theorem respects_arrive {v : Version} {lastInvalid : Option Version}
    {below : Work α σ (Walk α)} (hbelow : Respects R below) :
    Respects R (r.arrive e v lastInvalid below) := by
  unfold arrive
  refine (respects_readCache hR _).bind hR fun o => ?_
  split
  · exact respects_loadVersion hR _ _
  · exact respects_conclude hR hbelow

theorem respects_descend (n : Nat) :
    ∀ lastInvalid, Respects R (r.descend e n lastInvalid) := by
  induction n with
  | zero => exact fun lastInvalid => respects_arrive hR (respects_resort hR)
  | succ n ih => exact fun lastInvalid => respects_arrive hR (ih _)

theorem respects_below (v : Version) : Respects R (r.below e v) := by
  unfold below
  split
  · exact respects_descend hR _ _
  · exact respects_resort hR

theorem respects_enter : Respects R (r.enter e) := by
  unfold enter
  exact (respects_readCache hR _).bind hR fun newest => respects_descend hR _ _

theorem respects_begin : Respects R (r.begin e) := by
  unfold begin
  refine (respects_get hR).bind hR fun s => ?_
  split
  · exact respects_enter hR
  · exact respects_pure hR _

section Decided

variable (hdecided : ∀ l, r.judge e.subtopic l ≠ .pending)

include hdecided

/-- A structure is tracked only if nothing is known of it by then. -/
theorem respects_track (l : Loaded) : Respects R (r.track e l) := by
  intro s
  unfold track
  rw [ensures_bind, ensures_get]
  cases htracked : s.cache.tracks e.id with
  | true => exact hR.refl s
  | false => exact hR.change (.track htracked (hdecided l))

theorem respects_store (batch : List Version) (loaded : List Loaded) :
    Respects R (r.store e batch loaded) := by
  have hall : Respects R (forM (batch.zip loaded) fun entry =>
      (changeCache (·.put ⟨e.id, entry.1⟩ (r.judge e.subtopic entry.2)) : Work α σ Unit)) := by
    refine Respects.forM hR ?_ _
    intro entry
    exact respects_put hR _ (hdecided entry.2)
  unfold store
  split
  · exact respects_throw hR _
  · exact hall

theorem respects_resume (purpose : Purpose) (loaded : List Loaded) :
    Respects R (r.resume e purpose loaded) := by
  have hloaded : ∀ v, Respects R (loadedOutcome e v : Work α σ (Outcome α)) := by
    intro v
    unfold loadedOutcome
    refine (respects_readCache hR _).bind hR fun o => ?_
    split
    · exact respects_throw hR _
    · exact respects_pure hR _
  unfold resume
  cases purpose with
  | newest =>
    exact (Respects.forM hR (respects_track hR hdecided) loaded).bind hR fun _ => respects_enter hR
  | version v lastInvalid batch =>
    exact (respects_store hR hdecided batch loaded).bind hR fun _ => (hloaded v).bind hR fun _ =>
      respects_conclude hR (respects_below hR v)
  | oldest v batch =>
    exact (respects_store hR hdecided batch loaded).bind hR fun _ => (hloaded v).bind hR fun _ =>
      respects_pure hR _

theorem respects_look (purpose : Purpose) (load : Load) {goOn : Walk α → Work α σ (Walk α)}
    (hgo : ∀ walk, Respects R (goOn walk)) : Respects R (r.look e purpose load goOn) := by
  unfold look
  refine (respects_ask hR _).bind hR fun load => ?_
  split
  · exact (respects_resume hR hdecided purpose _).bind hR hgo
  · exact respects_pure hR _
  · exact respects_pure hR _

theorem respects_pursue (n : Nat) : ∀ walk, Respects R (r.pursue e n walk) := by
  induction n with
  | zero => exact fun walk => respects_pure hR _
  | succ n ih =>
    intro walk
    cases walk with
    | loading purpose load => exact respects_look hR hdecided purpose load ih
    | _ => exact respects_pure hR _

theorem respects_advance (walk : Walk α) : Respects R (r.advance e walk) := by
  cases walk with
  | loading purpose load =>
    exact respects_look hR hdecided purpose load fun walk => respects_pursue hR hdecided _ walk
  | failed error load => exact (respects_ask hR _).bind hR fun _ => respects_pure hR _
  | _ => exact respects_pure hR _

/-- **A visit does what searches may do**, also if it ends with an error. -/
theorem respects_visit (walk : Walk α) : Respects R (r.visit e walk) := by
  unfold visit
  refine Respects.tryCatch hR ?_ fun _ => respects_pure hR _
  cases walk with
  | fresh => exact (respects_begin hR).bind hR (respects_advance hR hdecided)
  | _ => exact respects_advance hR hdecided _

end Decided

end Respects

/-- **A visit only changes the cache.** -/
theorem changes_step {r : Resolver α σ} {e : Errand}
    (hdecided : ∀ l, r.judge e.subtopic l ≠ .pending) (walk : Walk α) (s : Session α σ) :
    s.cache.Changes (r.step e (walk, s)).2.cache := by
  have hchanges : s.cache.Changes (ExceptT.run (r.visit e walk) s).2.cache :=
    (respects_visit permits_changes hdecided walk).run s
  unfold step
  split <;> rename_i hrun <;> rw [hrun] at hchanges <;> exact hchanges

end Resolver

end ContentPack
