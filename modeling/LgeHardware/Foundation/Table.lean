import LgeHardware.Foundation.Staged
import Mathlib.Logic.Function.Basic

/-! # Loops over arrays

A counted loop has an invariant that says what is done before each turn. An access to an array
stops the computation if the index is out of bounds. An array is described as the table of a
function, a write is an update of that function, and an array of rows is the table of a
function on all positions.
-/

namespace LgeHardware.Foundation

universe u

variable {Exit State α : Type u}

/-! ## Counted loops -/

/-- `for (i = 0; i < n; i++)`, with what a turn leaves to the next one. -/
def loop : Nat → (Nat → α → EStateM Exit State α) → α → EStateM Exit State α
  | 0, _, a => pure a
  | n + 1, body, a => loop n body a >>= body n

/-- An invariant that every turn takes from one number to the next holds at the end. -/
theorem Ends.loop {n : Nat} {body : Nat → α → EStateM Exit State α} {a : α} {s : State}
    {stop : Exit → State → Prop} (invariant : Nat → α → State → Prop) (hinitial : invariant 0 a s)
    (hstep : ∀ i < n, ∀ a s, invariant i a s → Ends (body i a) s (invariant (i + 1)) stop) :
    Ends (loop n body a) s (invariant n) stop := by
  induction n with
  | zero => exact hinitial
  | succ n ih =>
      apply Ends.bind (ih fun i hi => hstep i (Nat.lt_succ_of_lt hi))
      exact hstep n (Nat.lt_succ_self n)

/-- A loop in which every turn only computes the next value. -/
theorem loop_eq_pure {n : Nat} {body : Nat → α → EStateM Exit State α} (value : Nat → α)
    (hstep : ∀ i < n, body i (value i) = pure (value (i + 1))) :
    loop n body (value 0) = pure (value n) := by
  induction n with
  | zero => rfl
  | succ n ih =>
      rw [loop, ih fun i hi => hstep i (Nat.lt_succ_of_lt hi)]
      exact hstep n (Nat.lt_succ_self n)

/-- A loop moves the state as its turns do. -/
theorem Moves.loop {relation : State → State → Prop} {mayStop : Prop} (hrefl : ∀ s, relation s s)
    (htrans : ∀ s s' s'', relation s s' → relation s' s'' → relation s s'')
    {body : Nat → α → EStateM Exit State α} (hbody : ∀ i a, Moves relation mayStop (body i a))
    (n : Nat) (a : α) : Moves relation mayStop (loop n body a) := by
  induction n with
  | zero => exact Moves.pure hrefl a
  | succ n ih => exact ih.bind htrans (hbody n)

/-! ## Accesses -/

variable (exit : Exit)

def readAt (xs : Array α) (i : Nat) : EStateM Exit State α :=
  match xs[i]? with
  | some a => pure a
  | none => throw exit

def writeAt (xs : Array α) (i : Nat) (a : α) : EStateM Exit State (Array α) :=
  if h : i < xs.size then pure (xs.set i a) else throw exit

/-- An access leaves the state alone. -/
theorem moves_readAt {relation : State → State → Prop} (hrefl : ∀ s, relation s s) (xs : Array α)
    (i : Nat) : Moves relation True (readAt exit xs i : EStateM Exit State α) := by
  rw [readAt]
  split
  · exact Moves.pure hrefl _
  · exact Moves.throw hrefl trivial exit

theorem moves_writeAt {relation : State → State → Prop} (hrefl : ∀ s, relation s s) (xs : Array α)
    (i : Nat) (a : α) :
    Moves relation True (writeAt exit xs i a : EStateM Exit State (Array α)) := by
  rw [writeAt]
  split
  · exact Moves.pure hrefl _
  · exact Moves.throw hrefl trivial exit

/-! ## Tables -/

/-- The array of the first values of a function. -/
def tab (n : Nat) (f : Nat → α) : Array α := Array.ofFn fun i : Fin n => f i

variable {n : Nat} {f g : Nat → α}

@[simp] theorem size_tab : (tab n f).size = n := Array.size_ofFn

@[simp] theorem getElem_tab {i : Nat} (h : i < (tab n f).size) : (tab n f)[i] = f i :=
  Array.getElem_ofFn h

theorem tab_congr (h : ∀ i < n, f i = g i) : tab n f = tab n g := by
  apply Array.ext
  · rw [size_tab, size_tab]
  · intro i hi _
    rw [getElem_tab, getElem_tab]
    exact h i (by simpa using hi)

theorem replicate_eq_tab (a : α) : Array.replicate n a = tab n fun _ => a := by
  apply Array.ext
  · simp
  · intro i hi _
    simp

theorem toList_tab : (tab n f).toList = (List.range n).map f := by
  apply List.ext_getElem
  · simp
  · intro i hi _
    simp

theorem readAt_tab {i : Nat} (h : i < n) :
    (readAt exit (tab n f) i : EStateM Exit State α) = pure (f i) := by
  rw [readAt, Array.getElem?_eq_getElem (by simpa using h), getElem_tab]

theorem writeAt_tab {i : Nat} (h : i < n) (a : α) :
    (writeAt exit (tab n f) i a : EStateM Exit State (Array α)) =
      pure (tab n (Function.update f i a)) := by
  rw [writeAt, dif_pos (by simpa using h)]
  congr 1
  apply Array.ext
  · simp
  · intro k hk _
    rw [Array.getElem_set, getElem_tab, getElem_tab, Function.update_apply]
    simp only [eq_comm]

/-- The values of one function below a bound and of another from there on. -/
def below (bound : Nat) (f g : Nat → α) (i : Nat) : α := if i < bound then f i else g i

@[simp] theorem below_zero : below 0 f g = g := rfl

theorem update_below (i : Nat) : Function.update (below i f g) i (f i) = below (i + 1) f g := by
  funext k
  rw [Function.update_apply, below, below]
  grind

/-! ## Rows -/

/-- The values of a function, in rows of equal length. -/
def grid (m w : Nat) (f : Nat → α) : Array (Array α) := tab m fun j => tab w fun k => f (w * j + k)

variable {m w : Nat}

theorem update_grid (hw : 0 < w) (i : Nat) (a : α) :
    tab m (Function.update (fun j => tab w fun k => f (w * j + k)) (i / w)
        (tab w (Function.update (fun k => f (w * (i / w) + k)) (i % w) a))) =
      grid m w (Function.update f i a) := by
  apply tab_congr
  intro j _
  have hi := Nat.div_add_mod i w
  rw [Function.update_apply]
  split
  next hrow =>
    rw [hrow]
    apply tab_congr
    intro k _
    rw [Function.update_apply, Function.update_apply]
    have hsame : k = i % w ↔ w * (i / w) + k = i := by omega
    simp only [hsame]
  next hrow =>
    apply tab_congr
    intro k hk
    rw [Function.update_of_ne]
    rintro rfl
    apply hrow
    rw [Nat.mul_add_div hw, Nat.div_eq_of_lt hk, Nat.add_zero]

/-- The rows put together. -/
theorem flatten_grid : (grid m w f).toList.flatMap Array.toList = (List.range (m * w)).map f := by
  rw [grid, toList_tab, List.flatMap_map]
  induction m with
  | zero => simp
  | succ m ih =>
      rw [List.range_succ, List.flatMap_append, ih, List.flatMap_singleton, toList_tab,
        Nat.succ_mul, List.range_add, List.map_append, List.map_map, Nat.mul_comm m w]
      rfl

/-- What is below the bound, and the same value in all other places. -/
theorem map_below (a : α) (h : n ≤ m) :
    (List.range m).map (below n f fun _ => a) =
      (List.range n).map f ++ List.replicate (m - n) a := by
  obtain ⟨rest, rfl⟩ := Nat.exists_eq_add_of_le h
  rw [List.range_add, List.map_append, Nat.add_sub_cancel_left, List.map_map]
  congr 1
  · exact List.map_congr_left fun i hi => if_pos (List.mem_range.mp hi)
  · apply List.ext_getElem
    · simp
    · intro i _ _
      have hnot : ¬ n + i < n := by omega
      simp [below, hnot]

end LgeHardware.Foundation
