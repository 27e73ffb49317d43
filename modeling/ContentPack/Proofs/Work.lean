import ContentPack.Proofs.Outcome
import ContentPack.Resolver

/-!
# How work on a session ends

`Work.Ensures x s Q E` says of the one run of `x` that starts on the session `s`: if it returns
a value, then `Q` holds of the value and of the session that is left, and if it is given up,
then `E` holds of the error and of the session that is left. There is one equation for each way
to put work together (`ensures_bind`, `ensures_readCache`, ...), so what a piece of work does is
proved once and then used by its name.
-/

namespace ContentPack

variable {α σ β γ : Type}

namespace Work

/-- **How work ends**: `done` holds of what it returns, and `failed` of the error that it is given
up with, each with the session that is left. -/
def Ensures (x : Work α σ β) (s : Session α σ) (done : β → Session α σ → Prop)
    (failed : Error → Session α σ → Prop) : Prop :=
  match ExceptT.run x s with
  | (.ok value, rest) => done value rest
  | (.error error, rest) => failed error rest

variable {s : Session α σ} {Q : β → Session α σ → Prop} {E : Error → Session α σ → Prop}

/-- What is ensured holds of the run itself. -/
theorem Ensures.run {x : Work α σ β} (h : Ensures x s Q E) :
    (∃ value rest, ExceptT.run x s = (.ok value, rest) ∧ Q value rest) ∨
      ∃ error rest, ExceptT.run x s = (.error error, rest) ∧ E error rest := by
  unfold Ensures at h
  rcases hx : ExceptT.run x s with ⟨error | value, rest⟩
  · rw [hx] at h
    exact Or.inr ⟨error, rest, rfl, h⟩
  · rw [hx] at h
    exact Or.inl ⟨value, rest, rfl, h⟩

/-- Less may be ensured. -/
theorem Ensures.mono {x : Work α σ β} {Q' : β → Session α σ → Prop}
    {E' : Error → Session α σ → Prop} (h : Ensures x s Q E)
    (done : ∀ value rest, Q value rest → Q' value rest)
    (failed : ∀ error rest, E error rest → E' error rest) : Ensures x s Q' E' := by
  unfold Ensures at h ⊢
  rcases hx : ExceptT.run x s with ⟨error | value, rest⟩
  · rw [hx] at h
    exact failed error rest h
  · rw [hx] at h
    exact done value rest h

/-- Whatever work does, it ends in one way or the other. -/
theorem ensures_true (x : Work α σ β) (s : Session α σ) :
    Ensures x s (fun _ _ => True) (fun _ _ => True) := by
  unfold Ensures
  rcases ExceptT.run x s with ⟨error | value, rest⟩ <;> exact trivial

/-- Each of two things that are ensured holds of the one run. -/
theorem Ensures.both {x : Work α σ β} {Q' : β → Session α σ → Prop}
    {E' : Error → Session α σ → Prop} (h : Ensures x s Q E) (h' : Ensures x s Q' E') :
    Ensures x s (fun value rest => Q value rest ∧ Q' value rest)
      (fun error rest => E error rest ∧ E' error rest) := by
  unfold Ensures at h h' ⊢
  rcases hx : ExceptT.run x s with ⟨error | value, rest⟩
  · rw [hx] at h h'
    exact ⟨h, h'⟩
  · rw [hx] at h h'
    exact ⟨h, h'⟩

theorem Ensures.and {x : Work α σ β} {Q' : β → Session α σ → Prop} (h : Ensures x s Q E)
    (h' : Ensures x s Q' E) :
    Ensures x s (fun value rest => Q value rest ∧ Q' value rest) E :=
  (h.both h').mono (fun _ _ => id) (fun _ _ => And.left)

/-! ### One equation for each way to put work together -/

@[simp] theorem ensures_pure (value : β) :
    Ensures (pure value : Work α σ β) s Q E ↔ Q value s := Iff.rfl

theorem run_bind (x : Work α σ β) (f : β → Work α σ γ) (s : Session α σ) :
    ExceptT.run (x >>= f) s =
      match ExceptT.run x s with
      | (.ok value, rest) => ExceptT.run (f value) rest
      | (.error error, rest) => (.error error, rest) := by
  rw [ExceptT.run_bind]
  change StateT.bind (ExceptT.run x) _ s = _
  unfold StateT.bind
  rcases hx : ExceptT.run x s with ⟨error | value, rest⟩ <;> rfl

theorem ensures_bind (x : Work α σ β) (f : β → Work α σ γ) {Q : γ → Session α σ → Prop} :
    Ensures (x >>= f) s Q E ↔
      Ensures x s (fun value rest => Ensures (f value) rest Q E) E := by
  unfold Ensures
  rw [run_bind]
  rcases ExceptT.run x s with ⟨error | value, rest⟩ <;> rfl

theorem run_get_bind (f : Session α σ → Work α σ β) (s : Session α σ) :
    ExceptT.run (get >>= f) s = ExceptT.run (f s) s := by
  rw [run_bind]
  rfl

theorem run_report_bind (event : Event) (x : Work α σ β) (s : Session α σ) :
    ExceptT.run (do report event; x) s =
      ExceptT.run x { s with events := s.events ++ [event] } := by
  rw [run_bind]
  rfl

theorem ensures_discard (x : Work α σ β) {Q : PUnit → Session α σ → Prop} :
    Ensures (discard x) s Q E ↔ Ensures x s (fun _ rest => Q ⟨⟩ rest) E := by
  show Ensures (Function.const β PUnit.unit <$> x) s Q E ↔ _
  rw [map_eq_pure_bind, ensures_bind]
  exact Iff.rfl

theorem run_tryCatch (x : Work α σ β) (handle : Error → Work α σ β) (s : Session α σ) :
    ExceptT.run (tryCatch x handle) s =
      match ExceptT.run x s with
      | (.ok value, rest) => (.ok value, rest)
      | (.error error, rest) => ExceptT.run (handle error) rest := by
  rw [ExceptT.run_tryCatch]
  change StateT.bind (ExceptT.run x) _ s = _
  unfold StateT.bind
  rcases hx : ExceptT.run x s with ⟨error | value, rest⟩ <;> rfl

theorem ensures_tryCatch (x : Work α σ β) (handle : Error → Work α σ β) :
    Ensures (tryCatch x handle) s Q E ↔
      Ensures x s Q (fun error rest => Ensures (handle error) rest Q E) := by
  unfold Ensures
  rw [run_tryCatch]
  rcases ExceptT.run x s with ⟨error | value, rest⟩ <;> rfl

@[simp] theorem ensures_get {Q : Session α σ → Session α σ → Prop} :
    Ensures (get : Work α σ (Session α σ)) s Q E ↔ Q s s := Iff.rfl

@[simp] theorem ensures_modify (f : Session α σ → Session α σ) {Q : Unit → Session α σ → Prop} :
    Ensures (modify f : Work α σ Unit) s Q E ↔ Q () (f s) := Iff.rfl

@[simp] theorem ensures_report (event : Event) {Q : Unit → Session α σ → Prop} :
    Ensures (report event : Work α σ Unit) s Q E ↔
      Q () { s with events := s.events ++ [event] } := Iff.rfl

@[simp] theorem ensures_ask (question : StateM σ β) :
    Ensures (ask question : Work α σ β) s Q E ↔
      Q (question s.remote).1 { s with remote := (question s.remote).2 } := Iff.rfl

theorem ensures_readCache_ok {read : Cache α → Except Misuse β} {value : β}
    (h : read s.cache = .ok value) : Ensures (readCache read) s Q E ↔ Q value s := by
  unfold readCache
  rw [ensures_bind, ensures_get, h]
  exact Iff.rfl

theorem ensures_readCache_error {read : Cache α → Except Misuse β} {what : Misuse}
    (h : read s.cache = .error what) :
    Ensures (readCache read) s Q E ↔ E (.misuse what) s := by
  unfold readCache
  rw [ensures_bind, ensures_get, h]
  exact Iff.rfl

theorem ensures_changeCache_ok {change : Cache α → Except Misuse (Cache α)} {cache : Cache α}
    {Q : Unit → Session α σ → Prop} (h : change s.cache = .ok cache) :
    Ensures (changeCache change) s Q E ↔ Q () { s with cache } := by
  unfold changeCache
  rw [ensures_bind, ensures_get, h]
  exact Iff.rfl

theorem ensures_changeCache_error {change : Cache α → Except Misuse (Cache α)} {what : Misuse}
    {Q : Unit → Session α σ → Prop} (h : change s.cache = .error what) :
    Ensures (changeCache change) s Q E ↔ E (.misuse what) s := by
  unfold changeCache
  rw [ensures_bind, ensures_get, h]
  exact Iff.rfl

/-- Work goes on with the value of a success. -/
theorem ensures_bindM {o : Outcome β} (ho : o ≠ .pending) {next : β → Work α σ (Outcome γ)}
    {step : β → Outcome γ → Prop} (kept : Session α σ → Prop) (hkept : kept s)
    (hnext : ∀ value, o = .success value →
      Ensures (next value) s (fun o' rest => step value o' ∧ kept rest) E) :
    Ensures (o.bindM next) s (fun o' rest => o.Continues step o' ∧ kept rest) E := by
  cases o with
  | pending => exact absurd rfl ho
  | success value =>
    refine (hnext value rfl).mono ?_ (fun _ _ => id)
    rintro o' rest ⟨hstep, hrest⟩
    exact ⟨.success hstep, hrest⟩
  | failure reasons => exact ⟨.failure, hkept⟩

/-- What comes of the value of a success, where something is kept in any case. -/
theorem ensures_bindM_success {o : Outcome β} {next : β → Work α σ (Outcome γ)}
    {K : Session α σ → Prop} {Q : β → γ → Session α σ → Prop} (hkept : K s)
    (hnext : ∀ value, o = .success value → Ensures (next value) s
      (fun o' rest => K rest ∧ ∀ c, o' = .success c → Q value c rest) E) :
    Ensures (o.bindM next) s (fun o' rest => K rest ∧
      ∀ c, o' = .success c → ∃ value, o = .success value ∧ Q value c rest) E := by
  cases o with
  | success value =>
    refine (hnext value rfl).mono ?_ (fun _ _ => id)
    rintro o' rest ⟨hrest, hsuccess⟩
    exact ⟨hrest, fun c hc => ⟨value, rfl, hsuccess c hc⟩⟩
  | pending => exact ⟨hkept, fun c hc => by cases hc⟩
  | failure reasons => exact ⟨hkept, fun c hc => by cases hc⟩

end Work

/-- The run was given up for a reason outside of the search: a request failed, or a closure of
skills grew past its bound. -/
def Error.IsExcused (error : Error) : Prop :=
  (∃ failure, error = .fetch failure) ∨ ∃ rounds size, error = .closureLimit rounds size

end ContentPack
