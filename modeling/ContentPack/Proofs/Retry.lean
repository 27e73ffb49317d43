import ContentPack.Assembly
import ContentPack.Proofs.Cache
import ContentPack.Proofs.Work

/-!
# How the versions of a topic are tried one after another

A failed attempt drops the newest version of its topic, which bounds the number of attempts. So a
run ends, and it ends as its last attempt does (`Assembler.ensures_run_of_attempts`). What a topic
is resolved to is read off the end of its run (`Source.resolvePack_of_run`).
-/

namespace ContentPack.Assembler

open Work

variable {σ : Type} {a : Assembler σ} {Ready : Cache Loaded → Prop}
  {Final : Outcome TopicPack → Prop} {E : Error → Session Loaded σ → Prop} {topicId : String}

/-- **What is known after an attempt**: it was the last one, or the cache is ready for the next one
once the newest version of the topic is dropped. There may be a bound on that version. -/
def Tried (Ready : Cache Loaded → Prop) (Final : Outcome TopicPack → Prop) (topicId : String)
    (bound : Option Nat) (o : Outcome TopicPack) (s : Session Loaded σ) : Prop :=
  ∃ h, s.cache.history? (.topic topicId) = some h ∧
    (∀ n, bound = some n → h.newest.number ≤ n) ∧
    ((∃ pack, o = .success pack ∧ Final o) ∨
      ∃ reasons, o = .failure reasons ∧ (h.newest.number ≤ 1 → Final o) ∧
        ∀ h', h'.newest.number + 1 = h.newest.number → h'.outcomes <+: h.outcomes →
          Ready (s.cache.withHistory (.topic topicId) h'))

/-- **Versions of the topic are tried one after another.** Every failed attempt drops a version,
which bounds their number. -/
theorem ensures_retry_of_attempts
    (hattempt : ∀ s : Session Loaded σ, Ready s.cache → Ensures (a.attempt topicId) s
      (Tried Ready Final topicId ((s.cache.history? (.topic topicId)).map (·.newest.number))) E)
    (left : Nat) : ∀ {o : Outcome TopicPack} {s : Session Loaded σ},
      Tried Ready Final topicId (some left) o s →
      Ensures (a.retry topicId left o) s (fun o' _ => Final o') E := by
  induction left with
  | zero =>
    -- there is always a version left
    rintro o s ⟨h, -, hbound, -⟩
    have hone := h.one_le_newest
    have hzero := hbound 0 rfl
    omega
  | succ left ih =>
    rintro o s ⟨h, hh, hbound, ⟨pack, rfl, hfinal⟩ | ⟨reasons, rfl, hlast, hready⟩⟩
    · exact hfinal
    · have hle := hbound (left + 1) rfl
      unfold retry
      rw [ensures_bind, ensures_report, ensures_bind, ensures_get]
      simp only [Cache.versionCount_of_history? hh]
      split
      · rename_i hone
        exact hlast hone
      · rename_i hmore
        obtain ⟨h', hdrop, hnum, hfirst, -⟩ := History.exists_dropNewest? (h := h) (by omega)
        have hnewest := Cache.newest_of_history? hh
        have hinvalidate := Cache.invalidate_of_history? hh hdrop
        rw [ensures_bind, ensures_readCache_ok hnewest, ensures_bind,
          ensures_changeCache_ok hinvalidate, ensures_bind]
        refine (hattempt _ (hready h' hnum hfirst)).mono ?_ (fun _ _ => id)
        rintro o' s' ⟨h'', hh'', hbound'', hcase⟩
        refine ih ⟨h'', hh'', ?_, hcase⟩
        intro n hn
        obtain rfl := Option.some.inj hn
        have hlower := hbound'' h'.newest.number (by
          rw [Cache.history?_withHistory_self]
          rfl)
        omega

/-- **A run ends as its last attempt does.** -/
theorem ensures_run_of_attempts (Ready : Cache Loaded → Prop)
    (hattempt : ∀ s : Session Loaded σ, Ready s.cache → Ensures (a.attempt topicId) s
      (Tried Ready Final topicId ((s.cache.history? (.topic topicId)).map (·.newest.number))) E)
    {s : Session Loaded σ} (hready : Ready s.cache) :
    Ensures (a.run topicId) s (fun o _ => Final o) E := by
  unfold run
  rw [ensures_bind]
  refine (hattempt s hready).mono ?_ (fun _ _ => id)
  rintro o s₁ ⟨h, hh, -, hcase⟩
  rw [ensures_bind, ensures_get, Cache.versionCount_of_history? hh]
  refine ensures_retry_of_attempts hattempt _ ⟨h, hh, ?_, hcase⟩
  intro n hn
  exact Nat.le_of_eq (Option.some.inj hn)

end ContentPack.Assembler

namespace ContentPack

variable {σ : Type}

/-- There is always a seat. -/
theorem FanOut.seatLimit_ne_zero (limit : Option Int) : seatLimit limit ≠ some 0 := by
  unfold seatLimit
  split
  · exact Option.some_ne_none 0 ∘ Eq.symm
  · exact Option.some_ne_none 0 ∘ Eq.symm
  · rename_i n _
    intro h
    have hzero : (max 1 n).toNat = 0 := Option.some.inj h
    omega

/-- The pack of a topic, as it is resolved from a source in some state, or why there is none. -/
def Source.resolvePack (source : Source σ) (remote : σ) (checker : Checker)
    (settings : ResolverSettings) (topicId : String) : Except Error TopicPack :=
  (ExceptT.run ((Assembler.ofSettings source checker settings).resolve topicId) { remote }).1

/-- The pack of a topic is that of its run. -/
theorem Source.resolvePack_of_run {source : Source σ} {remote : σ} {checker : Checker}
    {settings : ResolverSettings} {topicId : String} {Q : Outcome TopicPack → Prop}
    {E : Error → Prop}
    (hrun : Work.Ensures ((Assembler.ofSettings source checker settings).run topicId) { remote }
      (fun o _ => Q o) (fun error _ => E error)) :
    (∃ o, Q o ∧
        source.resolvePack remote checker settings topicId = Assembler.packOf topicId o) ∨
      ∃ error, source.resolvePack remote checker settings topicId = .error error ∧ E error := by
  have hresolve : Work.Ensures
      ((Assembler.ofSettings source checker settings).resolve topicId) { remote }
      (fun pack _ => ∃ o, Q o ∧ Assembler.packOf topicId o = .ok pack)
      (fun error _ => (∃ o, Q o ∧ Assembler.packOf topicId o = .error error) ∨ E error) := by
    unfold Assembler.resolve
    rw [Work.ensures_bind]
    refine hrun.mono ?_ (fun _ _ h => Or.inr h)
    intro o rest hends
    cases hpack : Assembler.packOf topicId o with
    | ok pack => exact ⟨o, hends, hpack⟩
    | error error => exact Or.inl ⟨o, hends, hpack⟩
  unfold Source.resolvePack
  rcases hresolve.run with ⟨pack, rest, hrun, o, hends, hpack⟩ | ⟨error, rest, hrun, hcase⟩
  · exact Or.inl ⟨o, hends, by rw [hrun, hpack]⟩
  · rcases hcase with ⟨o, hends, hpack⟩ | hexcused
    · exact Or.inl ⟨o, hends, by rw [hrun, hpack]⟩
    · exact Or.inr ⟨error, by rw [hrun], hexcused⟩

end ContentPack
