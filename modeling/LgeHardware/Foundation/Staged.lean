import Mathlib.Tactic.Common

/-! # Computations in stages, with early exits

A computation on a state either proceeds with a value or stops early with an
exit, and keeps the changes it made to the state in both cases. `Ends` is the
weakest precondition of a pair of postconditions, one for each way to end. The
computation is deterministic, so that the rules are equivalences.
-/

namespace LgeHardware.Foundation

universe u

variable {Exit State α β : Type u}

/-- From the state `s`, the computation proceeds as `post` says or stops as `stop` says. -/
def Ends (x : EStateM Exit State α) (s : State) (post : α → State → Prop)
    (stop : Exit → State → Prop) : Prop :=
  match x s with
  | .ok a s' => post a s'
  | .error e s' => stop e s'

variable {s : State} {post : α → State → Prop} {stop : Exit → State → Prop}

@[simp] theorem ends_pure (a : α) : Ends (pure a) s post stop ↔ post a s := Iff.rfl

@[simp] theorem ends_throw (e : Exit) :
    Ends (throw e : EStateM Exit State α) s post stop ↔ stop e s := Iff.rfl

@[simp] theorem ends_get {post : State → State → Prop} :
    Ends (get : EStateM Exit State State) s post stop ↔ post s s := Iff.rfl

@[simp] theorem ends_modify (f : State → State) {post : PUnit → State → Prop} :
    Ends (modify f : EStateM Exit State PUnit) s post stop ↔ post ⟨⟩ (f s) := Iff.rfl

@[simp] theorem ends_bind (x : EStateM Exit State α) (f : α → EStateM Exit State β)
    {post : β → State → Prop} :
    Ends (x >>= f) s post stop ↔ Ends x s (fun a s' => Ends (f a) s' post stop) stop := by
  change (match EStateM.bind x f s with
    | .ok a s' => post a s'
    | .error e s' => stop e s') ↔ _
  rw [EStateM.bind, Ends]
  cases x s with
  | ok a s' => rfl
  | error e s' => rfl

@[simp] theorem ends_map (x : EStateM Exit State α) (f : α → β) {post : β → State → Prop} :
    Ends (f <$> x) s post stop ↔ Ends x s (fun a s' => post (f a) s') stop := by
  change (match EStateM.map f x s with
    | .ok a s' => post a s'
    | .error e s' => stop e s') ↔ _
  rw [EStateM.map, Ends]
  cases x s with
  | ok a s' => rfl
  | error e s' => rfl

theorem ends_ite (condition : Prop) [Decidable condition] (x y : EStateM Exit State α) :
    Ends (if condition then x else y) s post stop ↔
      (condition → Ends x s post stop) ∧ (¬condition → Ends y s post stop) := by
  by_cases h : condition
  · simp [h]
  · simp [h]

/-- Postconditions that hold of everything hold however the computation ends. -/
theorem ends_of_forall {x : EStateM Exit State α} (hpost : ∀ a s', post a s')
    (hstop : ∀ e s', stop e s') : Ends x s post stop := by
  rw [Ends]
  cases x s with
  | ok a s' => exact hpost a s'
  | error e s' => exact hstop e s'

instance decidableEnds (x : EStateM Exit State α) [∀ a s', Decidable (post a s')]
    [∀ e s', Decidable (stop e s')] : Decidable (Ends x s post stop) :=
  match h : x s with
  | .ok a s' => decidable_of_iff (post a s') (by rw [Ends, h])
  | .error e s' => decidable_of_iff (stop e s') (by rw [Ends, h])

/-- Weaker postconditions hold as well. -/
theorem Ends.mono {x : EStateM Exit State α} {post' : α → State → Prop}
    {stop' : Exit → State → Prop} (h : Ends x s post stop)
    (hpost : ∀ a s', post a s' → post' a s') (hstop : ∀ e s', stop e s' → stop' e s') :
    Ends x s post' stop' := by
  rw [Ends] at h ⊢
  cases hx : x s with
  | ok a s' =>
      rw [hx] at h
      exact hpost a s' h
  | error e s' =>
      rw [hx] at h
      exact hstop e s' h

/-- The second computation goes on from where the first one ends. -/
theorem Ends.bind {x : EStateM Exit State α} {f : α → EStateM Exit State β}
    {mid : α → State → Prop} {post : β → State → Prop} (hx : Ends x s mid stop)
    (hf : ∀ a s', mid a s' → Ends (f a) s' post stop) : Ends (x >>= f) s post stop :=
  (ends_bind x f).mpr (hx.mono hf fun _ _ h => h)

/-- What two specifications say holds together. -/
theorem Ends.and {x : EStateM Exit State α} {post' : α → State → Prop}
    {stop' : Exit → State → Prop} (h : Ends x s post stop) (h' : Ends x s post' stop') :
    Ends x s (fun a s' => post a s' ∧ post' a s') (fun e s' => stop e s' ∧ stop' e s') := by
  rw [Ends] at h h' ⊢
  cases hx : x s with
  | ok a s' =>
      rw [hx] at h h'
      exact ⟨h, h'⟩
  | error e s' =>
      rw [hx] at h h'
      exact ⟨h, h'⟩

/-- The state a computation ends in, either way. -/
def final (x : EStateM Exit State α) (s : State) : State :=
  match x s with
  | .ok _ s' => s'
  | .error _ s' => s'

/-- A computation whose end is not looked at. -/
def ignore (x : EStateM Exit State α) : EStateM Exit State PUnit := fun s => .ok ⟨⟩ (final x s)

@[simp] theorem ends_ignore (x : EStateM Exit State α) {post : PUnit → State → Prop} :
    Ends (ignore x) s post stop ↔ post ⟨⟩ (final x s) := Iff.rfl

/-- The value a computation proceeds with. -/
def returned (x : EStateM Exit State α) (s : State) : Option α :=
  match x s with
  | .ok a _ => some a
  | .error .. => none

/-- What holds however a computation ends holds of its final state. -/
theorem Ends.holds {x : EStateM Exit State α} {good : State → Prop}
    (h : Ends x s (fun _ s' => good s') fun _ s' => good s') : good (final x s) := by
  rw [Ends] at h
  rw [final]
  cases hx : x s with
  | ok a s' =>
      rw [hx] at h
      exact h
  | error e s' =>
      rw [hx] at h
      exact h

/-- The computation stops early. -/
def stops (x : EStateM Exit State α) (s : State) : Bool :=
  match x s with
  | .ok .. => false
  | .error .. => true

/-- The postcondition of an early exit holds of the final state of a run that stops. -/
theorem Ends.of_stops {x : EStateM Exit State α} (h : Ends x s post stop)
    (hstops : stops x s = true) : ∃ e, stop e (final x s) := by
  rw [Ends] at h
  rw [stops] at hstops
  rw [final]
  cases hx : x s with
  | ok a s' =>
      rw [hx] at hstops
      cases hstops
  | error e s' =>
      rw [hx] at h
      exact ⟨e, h⟩

/-- The postcondition of a computation that does not stop holds of its final state. -/
theorem Ends.of_returns {x : EStateM Exit State α} {good : State → Prop}
    (h : Ends x s (fun _ s' => good s') stop) (hreturns : stops x s = false) :
    good (final x s) := by
  rw [Ends] at h
  rw [stops] at hreturns
  rw [final]
  cases hx : x s with
  | ok a s' =>
      rw [hx] at h
      exact h
  | error e s' =>
      rw [hx] at hreturns
      cases hreturns

/-- A computation that proceeds with a value ends in its final state. -/
theorem ends_returned (x : EStateM Exit State α) (s : State) :
    Ends x s (fun a _ => returned x s = some a) fun _ _ => returned x s = none := by
  rw [Ends, returned]
  cases x s with
  | ok a s' => rfl
  | error e s' => rfl

/-- A computation ends somehow. -/
theorem Ends.false {x : EStateM Exit State α}
    (h : Ends x s (fun _ _ => False) fun _ _ => False) : False := by
  rw [Ends] at h
  cases hx : x s with
  | ok a s' =>
      rw [hx] at h
      exact h
  | error e s' =>
      rw [hx] at h
      exact h

/-! ## Invariants of a computation -/

/-- The computation keeps the invariant, however it ends. -/
def Preserves (invariant : State → Prop) (x : EStateM Exit State α) : Prop :=
  ∀ s, invariant s → Ends x s (fun _ => invariant) fun _ => invariant

section

variable {invariant : State → Prop}

theorem Preserves.bind {x : EStateM Exit State α} {f : α → EStateM Exit State β}
    (hx : Preserves invariant x) (hf : ∀ a, Preserves invariant (f a)) :
    Preserves invariant (x >>= f) :=
  fun s hs => Ends.bind (hx s hs) fun a s' hs' => hf a s' hs'

theorem Preserves.pure (a : α) :
    Preserves invariant (Pure.pure a : EStateM Exit State α) :=
  fun _ hs => (ends_pure a).mpr hs

theorem Preserves.ite {condition : Prop} [Decidable condition] {x y : EStateM Exit State α}
    (hx : Preserves invariant x) (hy : Preserves invariant y) :
    Preserves invariant (if condition then x else y) := by
  split
  · exact hx
  · exact hy

theorem Preserves.final {x : EStateM Exit State α} (hx : Preserves invariant x) {s : State}
    (hs : invariant s) : invariant (final x s) :=
  (hx s hs).holds

end

/-- From every state that has the invariant, the computation proceeds and keeps it. -/
def Proceeds (invariant : State → Prop) (x : EStateM Exit State α) : Prop :=
  ∀ s, invariant s → Ends x s (fun _ => invariant) fun _ _ => False

section

variable {invariant : State → Prop}

theorem Proceeds.bind {x : EStateM Exit State α} {f : α → EStateM Exit State β}
    (hx : Proceeds invariant x) (hf : ∀ a, Proceeds invariant (f a)) :
    Proceeds invariant (x >>= f) :=
  fun s hs => Ends.bind (hx s hs) fun a s' hs' => hf a s' hs'

theorem Proceeds.pure (a : α) : Proceeds invariant (Pure.pure a : EStateM Exit State α) :=
  fun _ hs => (ends_pure a).mpr hs

theorem Proceeds.get : Proceeds invariant (get : EStateM Exit State State) :=
  fun _ hs => ends_get.mpr hs

theorem Proceeds.modify {f : State → State} (hf : ∀ s, invariant s → invariant (f s)) :
    Proceeds invariant (modify f : EStateM Exit State PUnit) :=
  fun s hs => (ends_modify f).mpr (hf s hs)

theorem Proceeds.ite {condition : Prop} [Decidable condition] {x y : EStateM Exit State α}
    (hx : Proceeds invariant x) (hy : Proceeds invariant y) :
    Proceeds invariant (if condition then x else y) := by
  split
  · exact hx
  · exact hy

end

/-- A computation that cannot stop does not. -/
theorem stops_eq_false {x : EStateM Exit State α} (h : Ends x s post fun _ _ => False) :
    stops x s = false := by
  rw [Ends] at h
  rw [stops]
  cases hx : x s with
  | ok a s' => rfl
  | error e s' =>
      rw [hx] at h
      exact h.elim

/-! ## Relations between the state before and the state after -/

/-- However the computation ends, the relation takes the state before to the state after. It
stops early only if that may be. -/
def Moves (relation : State → State → Prop) (mayStop : Prop) (x : EStateM Exit State α) : Prop :=
  ∀ s, Ends x s (fun _ s' => relation s s') fun _ s' => mayStop ∧ relation s s'

section

variable {relation : State → State → Prop} {mayStop : Prop}

theorem Moves.bind (htrans : ∀ a b c, relation a b → relation b c → relation a c)
    {x : EStateM Exit State α} {f : α → EStateM Exit State β} (hx : Moves relation mayStop x)
    (hf : ∀ a, Moves relation mayStop (f a)) : Moves relation mayStop (x >>= f) := by
  intro s
  rw [ends_bind]
  apply (hx s).mono _ fun _ _ h => h
  intro a s' h
  exact (hf a s').mono (fun _ _ h' => htrans _ _ _ h h')
    fun _ _ h' => ⟨h'.1, htrans _ _ _ h h'.2⟩

theorem Moves.pure (hrefl : ∀ a, relation a a) (a : α) :
    Moves relation mayStop (Pure.pure a : EStateM Exit State α) :=
  fun s => (ends_pure a).mpr (hrefl s)

theorem Moves.throw (hrefl : ∀ a, relation a a) (hstop : mayStop) (e : Exit) :
    Moves relation mayStop (throw e : EStateM Exit State α) :=
  fun s => (ends_throw e).mpr ⟨hstop, hrefl s⟩

theorem Moves.ite {condition : Prop} [Decidable condition] {x y : EStateM Exit State α}
    (hx : Moves relation mayStop x) (hy : Moves relation mayStop y) :
    Moves relation mayStop (if condition then x else y) := by
  split
  · exact hx
  · exact hy

/-- The final state is related to the start, whether the computation stops or not. -/
theorem Moves.final {x : EStateM Exit State α} (hx : Moves relation mayStop x) (s : State) :
    relation s (final x s) := by
  apply Ends.holds
  exact (hx s).mono (fun _ _ h => h) fun _ _ h => h.2

/-- A computation that may not stop proceeds. -/
theorem Moves.proceeds {x : EStateM Exit State α} (hx : Moves relation False x) (s : State) :
    Ends x s (fun _ s' => relation s s') fun _ _ => False :=
  (hx s).mono (fun _ _ h => h) fun _ _ h => h.1

end

end LgeHardware.Foundation
