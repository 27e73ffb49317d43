import ContentPack.Proofs.Exchanges
import ContentPack.Proofs.Search.Greatest
import ContentPack.Proofs.Search.Regime

/-!
# What a search finds was served

A search goes some way of its source, and what it finds on it was served there, as the version that
it is recorded for (`Resolver.ensures_resolve_served`). So every structure that is found in a cache
was served at some time (`Resolver.exists_exchanges_of_reaches`).

A reply is matched to what was asked for by the places of its documents only: nothing compares the
identifiers and the versions that they state.
-/

namespace ContentPack

variable {σ : Type}

/-- Everything that was found is as a predicate says. -/
def Cache.AllFound (P : StructureId → Version → Loaded → Prop) (cache : Cache Loaded) : Prop :=
  ∀ id h, cache.history? id = some h → h.AllFound (P id)

namespace Resolver

open Work

variable {r : Resolver Loaded σ} {checker : Checker} {id : StructureId}
  {P : StructureId → Version → Loaded → Prop}

/-- A predicate, or what was served. -/
def OrServed (P : StructureId → Version → Loaded → Prop) (log : List Exchange) (id : StructureId)
    (v : Version) (l : Loaded) : Prop :=
  P id v l ∨ IsServed log id v l

theorem OrServed.append {log : List Exchange} {v : Version} {l : Loaded}
    (h : OrServed P log id v l) (more : List Exchange) : OrServed P (log ++ more) id v l :=
  h.imp_right (IsServed.mono (List.subset_append_left log more))

/-! ### What a search keeps -/

/-- The way of the source so far, where everything that was found was served. -/
structure Grounds (r : Resolver Loaded σ) (P : StructureId → Version → Loaded → Prop) (start : σ)
    (id : StructureId) (known : Option (History Loaded)) (log : List Exchange) (st : σ) : Prop where
  /-- This was replied. -/
  way : r.source.Exchanges start log st
  /-- What is known of the structure was served. -/
  found : ∀ h, known = some h → h.AllFound (OrServed P log id)

theorem Grounds.go {start st st' : σ} {known : Option (History Loaded)} {log more : List Exchange}
    (h : Grounds r P start id known log st) (hmore : r.source.Exchanges st more st') :
    Grounds r P start id known (log ++ more) st' :=
  ⟨h.way.trans hmore, fun _ hknown => (h.found _ hknown).imp fun _ _ hl => hl.append more⟩

theorem exists_records_of_visit {request : Request} {load load' : Load} {start st st' : σ}
    {known : Option (History Loaded)}
    (h : ∃ log, Grounds r P start id known log st ∧ load.Records request log)
    (hvisit : load.visit r.source st = (load', st')) :
    ∃ log, Grounds r P start id known log st' ∧ load'.Records request log := by
  obtain ⟨log, hgrounds, hrecords⟩ := h
  obtain ⟨more, hway, hrecords'⟩ := hrecords.visit r.source st
  rw [hvisit] at hway hrecords'
  exact ⟨log ++ more, hgrounds.go hway, hrecords'⟩

/-- A search keeps that everything it has found was served. -/
def repliedInvariant (hjudge : r.judge = checker.judge)
    (P : StructureId → Version → Loaded → Prop) (start : σ) (e : Errand) : WalkInvariant r e where
  Rests known st := ∃ log, Grounds r P start e.id known log st ∧ ∀ x ∈ log, x.IsCounted
  Awaits known request load st :=
    ∃ log, Grounds r P start e.id known log st ∧ load.Records request log
  Fails known st := ∃ log, Grounds r P start e.id known log st
  Moves _ _ := True
  Bears st st' := st = st'
  decided := judge_decides_errand hjudge e
  moves_refl _ := trivial
  moves_trans _ _ := trivial
  bears_rests heq h := heq ▸ h
  bears_awaits heq h := heq ▸ h
  trims := by
    rintro h h' st ⟨log, hgrounds, hcounted⟩ t
    refine ⟨log, ⟨hgrounds.way, fun _ heq => ?_⟩, hcounted⟩
    obtain rfl := Option.some.inj heq
    exact (hgrounds.found h rfl).trims t
  opens := by
    rintro st ⟨log, hgrounds, hcounted⟩
    exact ⟨log, hgrounds, .asks rfl hcounted⟩
  asks := by
    rintro h st v lastInvalid ⟨log, hgrounds, hcounted⟩ - -
    exact ⟨log, hgrounds, .asks rfl hcounted⟩
  looks _ := trivial
  waits h hvisit _ := exists_records_of_visit h hvisit
  start := by
    intro load l parts st st' h hvisit _
    obtain ⟨log, hgrounds, hrecords⟩ := exists_records_of_visit h hvisit
    cases hrecords with
    | @bears _ reply hbears hmem hcounted =>
      have hreply : l.document = reply := List.singleton_inj.mp (hbears [l] rfl)
      refine ⟨log, ⟨hgrounds.way, fun _ heq => ?_⟩, fun x hx => ?_⟩
      · obtain rfl := Option.some.inj heq
        exact allFound_tracked hjudge (Or.inr (.latest (hreply ▸ hmem) rfl))
      · rcases hcounted x hx with hcounted | rfl
        · exact hcounted
        · exact fun hfalse => hfalse
  unknown h hvisit _ := by
    obtain ⟨log, hgrounds, -⟩ := exists_records_of_visit h hvisit
    exact ⟨log, hgrounds⟩
  learn := by
    intro h v lastInvalid load loaded parts st st' hawaits _ _ hvisit _ hlength
    obtain ⟨log, hgrounds, hrecords⟩ := exists_records_of_visit hawaits hvisit
    cases hrecords with
    | @bears _ reply hbears hmem hcounted =>
      have hreply : loaded.map Loaded.document = reply := hbears loaded rfl
      have hdocuments : reply.length = (r.batch h v).length := by
        rw [← hreply, List.length_map, hlength]
      refine ⟨log, ⟨hgrounds.way, fun _ heq => ?_⟩, fun x hx => ?_⟩
      · obtain rfl := Option.some.inj heq
        refine allFound_write hjudge (hgrounds.found h rfl) fun entry hentry => Or.inr ?_
        -- a structure has the place of its version
        obtain ⟨place, hplace⟩ := List.mem_iff_getElem?.mp hentry
        obtain ⟨hv, hl⟩ := List.getElem?_zip_eq_some.mp hplace
        refine .version hmem hdocuments hv ?_
        rw [← hreply, List.getElem?_map, hl]
        rfl
      · rcases hcounted x hx with hcounted | rfl
        · exact hcounted
        · have hasked : reply.length = ((r.batch h v).map Version.toInt).length := by
            rw [List.length_map, hdocuments]
          exact fun hne => hne hasked
  refused h _ _ hvisit _ := by
    obtain ⟨log, hgrounds, -⟩ := exists_records_of_visit h hvisit
    exact ⟨log, hgrounds⟩
  miscounted h _ _ hvisit _ _ := by
    obtain ⟨log, hgrounds, -⟩ := exists_records_of_visit h hvisit
    exact ⟨log, hgrounds⟩

theorem lingers_repliedInvariant {hjudge : r.judge = checker.judge} {start : σ} {e : Errand} :
    (repliedInvariant hjudge P start e).Lingers := by
  rintro known load st ⟨log, hgrounds⟩
  obtain ⟨more, hmore⟩ := load.exists_exchanges_linger r.source st
  exact ⟨log ++ more, hgrounds.go hmore⟩

/-! ### What a search leaves -/

theorem allFound_append {cache : Cache Loaded} {log more : List Exchange}
    (h : cache.AllFound (OrServed (IsServed log) more)) :
    cache.AllFound (IsServed (log ++ more)) := by
  refine fun id h' hh => (h id h' hh).imp ?_
  rintro v l (hl | hl)
  · exact hl.mono (List.subset_append_left log more)
  · exact hl.mono (List.subset_append_right log more)

/-- What is left of a cache was served, if nothing but the history of one structure was touched. -/
theorem Touches.allFound {cache cache' : Cache Loaded} (h : Touches id cache cache')
    {log : List Exchange} (hfound : cache.AllFound P)
    (hown : ∀ h, cache'.history? id = some h → h.AllFound (OrServed P log id)) :
    cache'.AllFound (OrServed P log) := by
  intro other h' hh'
  by_cases hother : other = id
  · subst hother
    exact hown h' hh'
  · rw [h.history?_eq hother] at hh'
    exact (hfound other h' hh').imp fun _ _ => Or.inl

/-- **A search goes some way of its source**, and what it finds was served on it. Unless it is given
up, every reply has as many versions as were asked for. -/
theorem ensures_resolve_served (hjudge : r.judge = checker.judge) (id : StructureId)
    (subtopic : Option Subtopic) {s : Session Loaded σ} (hfound : s.cache.AllFound P) :
    Ensures (r.resolve id subtopic) s
      (fun o rest => rest.cache.IsSettled id o ∧ ∃ log,
        r.source.Exchanges s.remote log rest.remote ∧ rest.cache.AllFound (OrServed P log) ∧
        ∀ x ∈ log, x.IsCounted)
      (fun error rest => (∃ failure, error = .fetch failure) ∧ ∃ log,
        r.source.Exchanges s.remote log rest.remote ∧
        rest.cache.AllFound (OrServed P log)) := by
  have hrests : (repliedInvariant hjudge P s.remote { id, subtopic }).Rests
      (s.cache.history? id) s.remote :=
    ⟨[], ⟨.start, fun h hh => (hfound id h hh).imp fun _ _ => Or.inl⟩,
      fun _ hx => absurd hx List.not_mem_nil⟩
  refine (ensures_resolve_solo (judge_decides hjudge) lingers_repliedInvariant hrests).mono ?_ ?_
  · rintro o rest ⟨⟨h, hh, ⟨log, hgrounds, hcounted⟩, hstanding⟩, ⟨htouches, -⟩, -⟩
    cases hstanding with
    | ended hsettled =>
      refine ⟨⟨h, hh, hsettled⟩, log, hgrounds.way, htouches.allFound hfound ?_, hcounted⟩
      intro h' hh'
      obtain rfl := Option.some.inj (hh.symm.trans hh')
      exact hgrounds.found h rfl
  · rintro error rest ⟨hfetch, ⟨log, hgrounds⟩, htouches, -⟩
    exact ⟨hfetch, log, hgrounds.way, htouches.allFound hfound hgrounds.found⟩

/-- **Everything that was found by searches was served** on the way of their source. -/
theorem exists_exchanges_of_reaches (hjudge : r.judge = checker.judge) {remote : σ}
    {s : Session Loaded σ} (hreaches : Relation.ReflTransGen r.Leaves { remote } s) :
    ∃ log, r.source.Exchanges remote log s.remote ∧ s.cache.AllFound (IsServed log) := by
  induction hreaches with
  | refl =>
    refine ⟨[], .start, fun id h hh => ?_⟩
    cases hh
  | @tail s t _ hleaves ih =>
    obtain ⟨log, hway, hfound⟩ := ih
    obtain ⟨id, subtopic, rfl⟩ := hleaves
    obtain ⟨_, rest, hrun, -, more, hmore, hall, -⟩ | ⟨_, rest, hrun, -, more, hmore, hall⟩ :=
      (ensures_resolve_served hjudge id subtopic hfound).run
    · rw [hrun]
      exact ⟨log ++ more, hway.trans hmore, allFound_append hall⟩
    · rw [hrun]
      exact ⟨log ++ more, hway.trans hmore, allFound_append hall⟩

end Resolver

end ContentPack
