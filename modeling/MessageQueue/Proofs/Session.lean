import MessageQueue.Session

/-!
# Runs of sessions

What a session composed of others does in a world, from what its parts do there.  A session can
also be made to keep notes: each time it runs it puts down something about the world it
finds, in a list beside the store, and does otherwise what it did.  And a session can be carried
along a change of the store: around the changed store another one does the same, up to a
change of the value that it ends with.

Main results:

- Theorem `run_bind`: a session in two parts ends where its first part fails.
- Theorem `run_noted`: a session that keeps notes does what it does without.
- Theorem `Carries.bind`: a session in two parts is carried along when its parts are.
-/

namespace MessageQueue

/-! ## Errors taken to another type -/

section MapError

variable {ε ε' α : Type} {f : ε → ε'}

@[simp]
theorem mapError_ok (a : α) : (Except.ok a : Except ε α).mapError f = .ok a := rfl

@[simp]
theorem mapError_error (e : ε) : (Except.error e : Except ε α).mapError f = .error (f e) := rfl

/-- A value does not depend on what would become of errors. -/
theorem mapError_eq_ok_iff {x : Except ε α} {a : α} : x.mapError f = .ok a ↔ x = .ok a := by
  cases x <;> simp

end MapError

/-- A result with its value changed is a value when the result is. -/
theorem map_eq_ok_iff {ε α β : Type} {x : Except ε α} {f : α → β} {b : β} :
    x.map f = .ok b ↔ ∃ a, x = .ok a ∧ f a = b := by
  cases x <;> simp [Except.map]

/-- A result in two parts is a value when both parts are. -/
theorem exceptBind_eq_ok_iff {ε α β : Type} {x : Except ε α} {f : α → Except ε β} {b : β} :
    (x >>= f) = .ok b ↔ ∃ a, x = .ok a ∧ f a = .ok b := by
  constructor
  · cases x with
    | error e => exact fun h => nomatch h
    | ok a => exact fun h => ⟨a, rfl, h⟩
  · rintro ⟨a, rfl, h⟩
    exact h

/-- A result in two parts is an error when one of them is. -/
theorem exceptBind_eq_error_iff {ε α β : Type} {x : Except ε α} {f : α → Except ε β} {e : ε} :
    (x >>= f) = .error e ↔ x = .error e ∨ ∃ a, x = .ok a ∧ f a = .error e := by
  cases x with
  | error e' =>
    constructor
    · rintro ⟨⟩
      exact .inl rfl
    · rintro (⟨⟨⟩⟩ | ⟨a, ⟨⟩, -⟩)
      rfl
  | ok a =>
    constructor
    · exact fun h => .inr ⟨a, rfl, h⟩
    · rintro (⟨⟨⟩⟩ | ⟨a, ⟨⟩, h⟩)
      exact h

/-! ## Runs -/

namespace Session

variable {σ ε ε' α β τ : Type}

@[simp]
theorem run_pure (a : α) (w : World σ) : (pure a : Session σ ε α) w = (.ok a, w) := rfl

@[simp]
theorem run_throw (e : ε) (w : World σ) : (throw e : Session σ ε α) w = (.error e, w) := rfl

/-- A session in two parts ends where its first part fails. -/
@[simp]
theorem run_bind (s : Session σ ε α) (f : α → Session σ ε β) (w : World σ) :
    (s >>= f) w =
      match s w with
      | (.ok a, w') => f a w'
      | (.error e, w') => (.error e, w') := by
  change ExceptT.bindCont f (s w).1 (s w).2 = _
  rcases s w with ⟨r, w'⟩
  cases r <;> rfl

/-- A session in two parts goes on with its second part after the value of the first. -/
theorem run_bind_of_ok {s : Session σ ε α} {w w' : World σ} {a : α} (f : α → Session σ ε β)
    (h : s w = (.ok a, w')) : (s >>= f) w = f a w' := by
  rw [run_bind, h]

/-- A session in two parts ends with the error of the first. -/
theorem run_bind_of_error {s : Session σ ε α} {w w' : World σ} {e : ε} (f : α → Session σ ε β)
    (h : s w = (.error e, w')) : (s >>= f) w = (.error e, w') := by
  rw [run_bind, h]

@[simp]
theorem run_map (f : α → β) (s : Session σ ε α) (w : World σ) :
    (f <$> s) w =
      match s w with
      | (.ok a, w') => (.ok (f a), w')
      | (.error e, w') => (.error e, w') := by
  rw [map_eq_pure_bind, run_bind]
  rfl

@[simp]
theorem run_mapError (f : ε → ε') (s : Session σ ε α) (w : World σ) :
    mapError f s w = ((s w).1.mapError f, (s w).2) := rfl

@[simp]
theorem run_ofExcept (r : Except ε α) (w : World σ) : ofExcept r w = (r, w) := rfl

/-! ## Notes -/

/-- A session that keeps a list of notes beside the store: one more each time it runs, about the
world as it then is. -/
def noted (note : World σ → τ) (s : Session σ ε α) : Session (σ × List τ) ε α :=
  ExceptT.mk fun ⟨(store, notes), events, waits, elapsed⟩ =>
    match s ⟨store, events, waits, elapsed⟩ with
    | (r, ⟨store', events', waits', elapsed'⟩) =>
      (r, ⟨(store', notes ++ [note ⟨store, events, waits, elapsed⟩]), events', waits', elapsed'⟩)

end Session

/-- A world with notes beside its store. -/
def World.withNotes {σ τ : Type} (w : World σ) (notes : List τ) : World (σ × List τ) where
  store := (w.store, notes)
  events := w.events
  waits := w.waits
  elapsed := w.elapsed

namespace Session

variable {σ ε α τ : Type}

/-- A session that keeps notes does what it does without, and makes one note. -/
@[simp]
theorem run_noted (note : World σ → τ) (s : Session σ ε α) (w : World σ) (notes : List τ) :
    noted note s (w.withNotes notes) = ((s w).1, (s w).2.withNotes (notes ++ [note w])) := rfl

end Session

/-! ## Changed stores -/

/-- A world with its store changed. -/
def World.mapStore {σ τ : Type} (g : σ → τ) (w : World σ) : World τ where
  store := g w.store
  events := w.events
  waits := w.waits
  elapsed := w.elapsed

namespace Session

variable {σ τ ε α α' β β' : Type} {g : σ → τ} {h : α → α'} {k : β → β'}

/-- Around a changed store the second session does what the first one does around the store, and
ends with the same error or with the value changed. -/
def Carries (g : σ → τ) (h : α → α') (s : Session σ ε α) (t : Session τ ε α') : Prop :=
  ∀ w, t (w.mapStore g) = ((s w).1.map h, (s w).2.mapStore g)

namespace Carries

protected theorem pure (g : σ → τ) (h : α → α') (a : α) :
    Carries g h (pure a : Session σ ε α) (pure (h a)) := by
  intro w
  rfl

protected theorem emit (g : σ → τ) (e : Event) :
    Carries g id (emit e : Session σ ε Unit) (emit e) := by
  intro w
  rfl

protected theorem onStore {f : σ → Except ε α × σ} {f' : τ → Except ε α' × τ}
    (hf : ∀ s, f' (g s) = ((f s).1.map h, g (f s).2)) :
    Carries g h (onStore f) (onStore f') := by
  intro w
  simp [World.mapStore, hf]

/-- A session in two parts is carried along when its parts are. -/
protected theorem bind {s : Session σ ε α} {t : Session τ ε α'} {u : α → Session σ ε β}
    {v : α' → Session τ ε β'} (hs : Carries g h s t) (hu : ∀ a, Carries g k (u a) (v (h a))) :
    Carries g k (s >>= u) (t >>= v) := by
  intro w
  rw [run_bind, run_bind, hs w]
  rcases s w with ⟨e | a, w'⟩
  · rfl
  · exact hu a w'

end Carries
end Session
end MessageQueue
