import ContentPack.Http.Playback
import ContentPack.Json.Writer
import ContentPack.Proofs.Search.Replies

/-!
# What a content service is believed

All replies of a content service are read off its responses (`Http.isRead_of_exchanges`), and what
searches find was served by it. A structure is recorded for the version in whose place it came; what
identifier and version it states itself is not compared with what was asked for
(`Http.Client.resolve_served`). So a service whose replies are what was asked for is served
faithfully, but one that answers with as many other documents is believed as well
(`Http.Shuffled.resolve_story`).
-/

namespace ContentPack.Http

variable {τ : Type} {c : Client τ} {request : Request} {state : τ}

/-! ### Replies and responses -/

/-- A reply was read off a response, or nothing was asked for. -/
def IsRead (x : Exchange) : Prop :=
  (∃ response, conclude x.request (.ok response) = .ok x.reply) ∨
    ∃ place, x.request = .versions place []

/-- The only reply that is known without a request is that no versions are no structures. -/
theorem eq_nil_of_prepare {reply : request.Reply} (h : c.prepare request = .inr (.ok reply)) :
    ∃ place, request = .versions place [] := by
  unfold Client.prepare at h
  split at h
  · exact ⟨_, rfl⟩
  · split at h <;> cases h

theorem conclude_error_ne (fault : AttemptFault) (reply : request.Reply) :
    conclude request (.error fault) ≠ .ok reply := by
  cases fault <;> nofun

theorem isRead_of_poll {reply : request.Reply}
    (h : (c.source.poll request state).1 = some (.ok reply)) : IsRead ⟨request, reply⟩ := by
  simp only [Client.source] at h
  cases hprepare : c.prepare request with
  | inr answer =>
    -- there is no request to send
    rw [hprepare] at h
    exact Or.inr (eq_nil_of_prepare (hprepare.trans (congrArg Sum.inr (Option.some.inj h))))
  | inl address =>
    simp only [hprepare] at h
    rcases hattempt : c.attempt address state with ⟨fault | response, next⟩
    · simp only [hattempt] at h
      split at h
      · cases h
      · exact absurd (Option.some.inj h) (conclude_error_ne fault reply)
    · simp only [hattempt] at h
      exact Or.inl ⟨response, Option.some.inj h⟩

theorem isRead_of_settle {reply : request.Reply}
    (h : (c.source.settle request state).1 = .ok reply) : IsRead ⟨request, reply⟩ := by
  simp only [Client.source] at h
  cases hprepare : c.prepare request with
  | inr answer =>
    rw [hprepare] at h
    exact Or.inr (eq_nil_of_prepare (hprepare.trans (congrArg Sum.inr h)))
  | inl address =>
    simp only [hprepare] at h
    rcases hattempt : c.attempt address state with ⟨fault | response, next⟩
    · simp only [hattempt] at h
      exact absurd h (conclude_error_ne fault reply)
    · simp only [hattempt] at h
      exact Or.inl ⟨response, h⟩

/-- **All replies of a content service were read off its responses.** -/
theorem isRead_of_exchanges {start : τ} {log : List Exchange}
    (h : c.source.Exchanges start log state) : ∀ x ∈ log, IsRead x := by
  induction h with
  | start => exact fun _ hx => absurd hx List.not_mem_nil
  | poll request _ ih =>
    refine List.forall_mem_append.mpr ⟨ih, fun x hx => ?_⟩
    obtain ⟨reply, hreply, rfl⟩ := List.mem_map.mp hx
    obtain ⟨answer, hanswer, hok⟩ := Option.bind_eq_some_iff.mp (Option.mem_toList.mp hreply)
    cases answer with
    | error failure => cases hok
    | ok given =>
      obtain rfl := Option.some.inj hok
      exact isRead_of_poll hanswer
  | @settle _ st request _ ih =>
    refine List.forall_mem_append.mpr ⟨ih, fun x hx => ?_⟩
    obtain ⟨reply, hreply, rfl⟩ := List.mem_map.mp hx
    have hok := Option.mem_toList.mp hreply
    cases hanswer : (c.source.settle request st).1 with
    | error failure =>
      rw [hanswer] at hok
      cases hok
    | ok given =>
      rw [hanswer] at hok
      obtain rfl := Option.some.inj hok
      exact isRead_of_settle hanswer

/-! ### Searches -/

/-- Find versions that are compatible over a connection. -/
def Client.resolver (c : Client τ) (checker : Checker) (window : Int) : Resolver Loaded τ :=
  { source := c.source, judge := checker.judge, window }

/-- **A search believes what was replied** before it and during it. -/
structure Believes (c : Client τ) (id : StructureId) (s : Session Loaded τ)
    (earlier log : List Exchange) (result : Except Error (Outcome Loaded))
    (rest : Session Loaded τ) : Prop where
  /-- Every reply was read off a response. -/
  read : ∀ x ∈ earlier ++ log, IsRead x
  /-- Everything that was found was served as the version that it is recorded for. -/
  found : rest.cache.AllFound (IsServed (earlier ++ log))
  /-- A search that succeeds gives what is recorded for the newest version that is left. If what was
  replied is what was asked for, it gives that version of the structure. -/
  success : ∀ l, result = .ok (.success l) → ∃ v,
    rest.cache.newest id = .ok ⟨id, v⟩ ∧ rest.cache.get ⟨id, v⟩ = .ok (.success l) ∧
    IsServed (earlier ++ log) id v l ∧
    ((∀ x ∈ earlier ++ log, x.IsFaithful) → l.id = id ∧ l.version = v)
  /-- Replies with another number of versions than was asked for are not accepted. -/
  counted : ∀ o, result = .ok o → ∀ x ∈ log, x.IsCounted
  /-- A search is only given up because of a failed request. -/
  failed : ∀ error, result = .error error → ∃ failure, error = .fetch failure

/-- **What is found was served in the place of its version.** After any searches over a connection,
whatever the responses are, a search for a structure believes what was replied. -/
theorem Client.resolve_served (c : Client τ) (checker : Checker) (window : Int) (remote : τ)
    (s : Session Loaded τ)
    (hreaches : Relation.ReflTransGen (c.resolver checker window).Leaves { remote } s)
    (id : StructureId) (subtopic : Option Subtopic) :
    ∃ result rest earlier log,
      ExceptT.run ((c.resolver checker window).resolve id subtopic) s = (result, rest) ∧
      c.source.Exchanges remote earlier s.remote ∧ c.source.Exchanges s.remote log rest.remote ∧
      Believes c id s earlier log result rest := by
  have hjudge : (c.resolver checker window).judge = checker.judge := rfl
  obtain ⟨earlier, hearlier, hfound⟩ := Resolver.exists_exchanges_of_reaches hjudge hreaches
  have hread : ∀ {log : List Exchange} {rest : Session Loaded τ},
      c.source.Exchanges s.remote log rest.remote → ∀ x ∈ earlier ++ log, IsRead x :=
    fun hway => isRead_of_exchanges (hearlier.trans hway)
  obtain ⟨o, rest, hrun, ⟨h, hh, hsettled⟩, log, hway, hall, hcounted⟩ |
    ⟨error, rest, hrun, hfetch, log, hway, hall⟩ :=
    (Resolver.ensures_resolve_served hjudge id subtopic hfound).run
  · have hserved := Resolver.allFound_append hall
    refine ⟨_, rest, earlier, log, hrun, hearlier, hway, hread hway, hserved, ?_,
      fun _ _ => hcounted, nofun⟩
    rintro l hl
    obtain rfl := Except.ok.inj hl
    have hnewest : IsServed (earlier ++ log) id h.newest l := hserved id h hh _ l hsettled.newest
    exact ⟨h.newest, Cache.newest_of_history? hh, Cache.get_of_history? hh hsettled.newest,
      hnewest, hnewest.eq_of_isFaithful⟩
  · refine ⟨_, rest, earlier, log, hrun, hearlier, hway, hread hway,
      Resolver.allFound_append hall, nofun, nofun, fun _ heq => ?_⟩
    obtain rfl := Except.error.inj heq
    exact hfetch

/-! ### Versions of another story -/

namespace Shuffled

/-- A version of a story, as it is served. -/
def story (id : String) (version : Int) : Json :=
  .obj [("id", .str id), ("version", .int version)]

/-- The response with a value. -/
def response (value : Json) : Response := { body := value.write.toUTF8.toList.map (·.toNat) }

/-- A service that has three versions of a story, and answers with others. -/
def service : Playback where
  routes := [("/api/stories/s", [.ok (response (story "s" 3))]),
    ("/api/stories/s/versions?v=1&v=2", [.ok (response (.arr [story "s" 2, story "r" 1]))])]

/-- The client that asks the service. -/
def client : Client Playback where
  base := { scheme := "http".toList, host := "content.test".toList, path := "/api/".toList }
  retries := 0
  transport := Playback.transport

/-- The checker that rejects the newest version. -/
def checker : Checker := BlockedVersions.checker
  [{ kind := "story", id := "s", versions := some [3], reasons := ["blocked"] }]

/-- A search for the story, where two versions are asked for together. -/
def done : Except Error (Outcome Loaded) × Session Loaded Playback :=
  ExceptT.run ((client.resolver checker 2).resolve (.story "s")) { remote := service }

/-- **The search gives another story**, in another version than it is recorded for. -/
theorem resolve_story : ∃ l v, done.1 = .ok (.success l) ∧
    done.2.cache.newest (.story "s") = .ok ⟨.story "s", v⟩ ∧
    done.2.cache.get ⟨.story "s", v⟩ = .ok (.success l) ∧ l.id ≠ .story "s" ∧ l.version ≠ v :=
  ⟨.story { id := "r", version := .first }, .after 1, by decide +kernel⟩

/-- **It came in the place of the second version**, so what was replied is not what was asked for.
The next search believes it still. -/
theorem resolve_story_served :
    Relation.ReflTransGen (client.resolver checker 2).Leaves { remote := service } done.2 ∧
      ∃ rest log l, ExceptT.run ((client.resolver checker 2).resolve (.story "s")) done.2 =
          (.ok (.success l), rest) ∧
        IsServed log (.story "s") (.after 1) l ∧ (∀ x ∈ log, IsRead x) ∧
        ¬∀ x ∈ log, x.IsFaithful := by
  have hreaches : Relation.ReflTransGen (client.resolver checker 2).Leaves { remote := service }
      done.2 := .single ⟨.story "s", none, rfl⟩
  obtain ⟨result, rest, earlier, log, hrun, -, -, hbelieves⟩ :=
    client.resolve_served checker 2 service done.2 hreaches (.story "s") none
  let l : Loaded := .story { id := "r", version := .first }
  have hagain : (ExceptT.run ((client.resolver checker 2).resolve (.story "s")) done.2).1 =
        .ok (.success l) ∧
      (ExceptT.run ((client.resolver checker 2).resolve (.story "s")) done.2).2.cache.newest
        (.story "s") = .ok ⟨.story "s", .after 1⟩ := by decide +kernel
  rw [hrun] at hagain
  obtain ⟨rfl, hnewest⟩ := hagain
  obtain ⟨v, hv, -, hserved, hfaithful⟩ := hbelieves.success l rfl
  obtain rfl : v = .after 1 := by
    have heq := Except.ok.inj (hv.symm.trans hnewest)
    exact congrArg Reference.version heq
  refine ⟨hreaches, rest, earlier ++ log, l, hrun, hserved, hbelieves.read, fun hall => ?_⟩
  exact absurd (hfaithful hall).1 (by decide)

end Shuffled

end ContentPack.Http
