import Mathlib.Data.List.Basic
import Mathlib.Tactic.Common

/-! # Runs of a guarded transition system

A system is a transition function `next` on states and operations. A guard says
which operation is permitted in which state, so that the assumptions on an
environment are part of the run and not of the transition function. An invariant
that every permitted operation preserves holds after every admitted run.
-/

namespace LgeHardware.Foundation

universe u v w

variable {State : Type u} {Op : Type v}

/-- The state after performing the operations of a list, first to last. -/
def run (next : State → Op → State) (start : State) (ops : List Op) : State :=
  ops.foldl next start

/-- Every operation of the list is permitted in the state it is performed in. -/
def Admits (next : State → Op → State) (allowed : State → Op → Prop) :
    State → List Op → Prop
  | _, [] => True
  | state, op :: rest => allowed state op ∧ Admits next allowed (next state op) rest

section

variable {next : State → Op → State} {allowed : State → Op → Prop}

@[simp] theorem run_nil (start : State) : run next start [] = start := rfl

@[simp] theorem run_cons (start : State) (op : Op) (rest : List Op) :
    run next start (op :: rest) = run next (next start op) rest := rfl

theorem Admits.mono {weaker : State → Op → Prop} (hweaker : ∀ s op, allowed s op → weaker s op)
    {start : State} {ops : List Op} (h : Admits next allowed start ops) :
    Admits next weaker start ops := by
  induction ops generalizing start with
  | nil => trivial
  | cons op rest ih => exact ⟨hweaker _ _ h.1, ih h.2⟩

/-- A run that two guards admit meets both at every operation. -/
theorem Admits.and {other : State → Op → Prop} {start : State} {ops : List Op}
    (h : Admits next allowed start ops) (hother : Admits next other start ops) :
    Admits next (fun s op => allowed s op ∧ other s op) start ops := by
  induction ops generalizing start with
  | nil => trivial
  | cons op rest ih => exact ⟨⟨h.1, hother.1⟩, ih h.2 hother.2⟩

/-- A guard that permits everything admits every run. -/
theorem Admits.always (start : State) (ops : List Op) :
    Admits next (fun _ _ => True) start ops := by
  induction ops generalizing start with
  | nil => trivial
  | cons op rest ih => exact ⟨trivial, ih (next start op)⟩

/-- An invariant of the start state that every permitted operation preserves
holds after every admitted run. -/
theorem Admits.invariant (invariant : State → Prop)
    (hstep : ∀ s op, invariant s → allowed s op → invariant (next s op))
    {start : State} (hstart : invariant start) {ops : List Op}
    (h : Admits next allowed start ops) : invariant (run next start ops) := by
  induction ops generalizing start with
  | nil => exact hstart
  | cons op rest ih => exact ih (hstep _ _ hstart h.1) h.2

/-- A guard that follows from an invariant and the permission admits the same run. -/
theorem Admits.strengthen (invariant : State → Prop) {stronger : State → Op → Prop}
    (hinvariant : ∀ s op, invariant s → allowed s op → invariant (next s op))
    (hstronger : ∀ s op, invariant s → allowed s op → stronger s op)
    {start : State} (hstart : invariant start) {ops : List Op}
    (h : Admits next allowed start ops) : Admits next stronger start ops := by
  induction ops generalizing start with
  | nil => trivial
  | cons op rest ih =>
      exact ⟨hstronger _ _ hstart h.1, ih (hinvariant _ _ hstart h.1) h.2⟩

/-- Guards that an invariant and the permission make equivalent admit the same runs. -/
theorem Admits.congr (invariant : State → Prop) {first second : State → Op → Prop}
    (hinvariant : ∀ s op, invariant s → allowed s op → invariant (next s op))
    (hiff : ∀ s op, invariant s → allowed s op → (first s op ↔ second s op))
    {start : State} (hstart : invariant start) {ops : List Op}
    (h : Admits next allowed start ops) :
    Admits next first start ops ↔ Admits next second start ops := by
  induction ops generalizing start with
  | nil => exact Iff.rfl
  | cons op rest ih =>
      exact and_congr (hiff _ _ hstart h.1) (ih (hinvariant _ _ hstart h.1) h.2)

/-- A property that is lost for good once it is lost, and that an operation keeps exactly
under a condition, holds after a run exactly if every operation met the condition. -/
theorem Admits.good_iff (invariant : State → Prop) {condition : State → Op → Prop}
    {good : State → Prop}
    (hinvariant : ∀ s op, invariant s → allowed s op → invariant (next s op))
    (hlost : ∀ s op, good (next s op) → good s)
    (hstep : ∀ s op, invariant s → allowed s op → good s →
      (good (next s op) ↔ condition s op))
    {start : State} (hstart : invariant start) (hgood : good start) {ops : List Op}
    (h : Admits next allowed start ops) :
    good (run next start ops) ↔ Admits next condition start ops := by
  have hback : ∀ (rest : List Op) (s : State), good (run next s rest) → good s := by
    intro rest
    induction rest with
    | nil => exact fun _ h => h
    | cons op rest ih => exact fun s h => hlost s op (ih (next s op) h)
  induction ops generalizing start with
  | nil => simp [Admits, hgood]
  | cons op rest ih =>
      have hexact := hstep start op hstart h.1 hgood
      rw [run_cons, Admits]
      constructor
      · intro hend
        have hnext := hback rest (next start op) hend
        exact ⟨hexact.mp hnext, (ih (hinvariant _ _ hstart h.1) hnext h.2).mp hend⟩
      · rintro ⟨hcondition, hrest⟩
        exact (ih (hinvariant _ _ hstart h.1) (hexact.mpr hcondition) h.2).mpr hrest

/-- The property holds of the start state and of every state that the run reaches. -/
def Throughout (next : State → Op → State) (good : State → Prop) : State → List Op → Prop
  | state, [] => good state
  | state, op :: rest => good state ∧ Throughout next good (next state op) rest

theorem Throughout.run {good : State → Prop} {start : State} {ops : List Op}
    (h : Throughout next good start ops) : good (run next start ops) := by
  induction ops generalizing start with
  | nil => exact h
  | cons op rest ih => exact ih h.2

/-- What follows from an invariant of the permitted operations holds throughout an admitted
run. -/
theorem Admits.throughout (invariant : State → Prop) {good : State → Prop}
    (hstep : ∀ s op, invariant s → allowed s op → invariant (next s op))
    (hgood : ∀ s, invariant s → good s) {start : State} (hstart : invariant start)
    {ops : List Op} (h : Admits next allowed start ops) : Throughout next good start ops := by
  induction ops generalizing start with
  | nil => exact hgood start hstart
  | cons op rest ih => exact ⟨hgood start hstart, ih (hstep start op hstart h.1) h.2⟩

/-- A property that every permitted operation keeps exactly under a condition holds
throughout a run exactly if every operation met the condition. -/
theorem Admits.throughout_iff (invariant : State → Prop) {condition : State → Op → Prop}
    {good : State → Prop}
    (hinvariant : ∀ s op, invariant s → allowed s op → good s → invariant (next s op))
    (hstep : ∀ s op, invariant s → allowed s op → good s →
      (good (next s op) ↔ condition s op))
    {start : State} (hstart : invariant start) (hgood : good start) {ops : List Op}
    (h : Admits next allowed start ops) :
    Throughout next good start ops ↔ Admits next condition start ops := by
  induction ops generalizing start with
  | nil => exact iff_of_true hgood trivial
  | cons op rest ih =>
      have hexact := hstep start op hstart h.1 hgood
      have hinvariantNext := hinvariant start op hstart h.1 hgood
      rw [Throughout, Admits]
      constructor
      · rintro ⟨-, hrest⟩
        have hnext : good (next start op) := by
          cases rest with
          | nil => exact hrest
          | cons => exact hrest.1
        exact ⟨hexact.mp hnext, (ih hinvariantNext hnext h.2).mp hrest⟩
      · rintro ⟨hcondition, hrest⟩
        exact ⟨hgood, (ih hinvariantNext (hexact.mpr hcondition) h.2).mpr hrest⟩

/-- The property holds after every operation of a run exactly if every operation met the
condition, although it need not hold at the start. -/
theorem Admits.after_iff (invariant : State → Prop) {condition : State → Op → Prop}
    {good : State → Prop}
    (hinvariant : ∀ s op, invariant s → allowed s op → good (next s op) → invariant (next s op))
    (hstep : ∀ s op, invariant s → allowed s op → (good (next s op) ↔ condition s op))
    {start : State} (hstart : invariant start) {ops : List Op}
    (h : Admits next allowed start ops) :
    Admits next (fun s op => good (next s op)) start ops ↔ Admits next condition start ops := by
  induction ops generalizing start with
  | nil => exact Iff.rfl
  | cons op rest ih =>
      have hexact := hstep start op hstart h.1
      constructor
      · rintro ⟨hgood, hrest⟩
        exact ⟨hexact.mp hgood, (ih (hinvariant start op hstart h.1 hgood) h.2).mp hrest⟩
      · rintro ⟨hcondition, hrest⟩
        have hgood := hexact.mpr hcondition
        exact ⟨hgood, (ih (hinvariant start op hstart h.1 hgood) h.2).mpr hrest⟩

theorem Throughout.iff_admits (invariant : State → Prop) {condition : State → Op → Prop}
    {good : State → Prop} (hinvariant : ∀ s op, invariant s → good s → invariant (next s op))
    (hstep : ∀ s op, invariant s → good s → (good (next s op) ↔ condition s op))
    {start : State} (hstart : invariant start) (hgood : good start) (ops : List Op) :
    Throughout next good start ops ↔ Admits next condition start ops :=
  (Admits.always start ops).throughout_iff invariant (fun s op hinv _ => hinvariant s op hinv)
    (fun s op hinv _ => hstep s op hinv) hstart hgood

/-- A guard on the operations alone admits a run of such operations. -/
theorem Admits.of_forall {permitted : Op → Prop} {start : State} {ops : List Op}
    (h : ∀ op ∈ ops, permitted op) : Admits next (fun _ => permitted) start ops := by
  induction ops generalizing start with
  | nil => trivial
  | cons op rest ih =>
      refine ⟨h op List.mem_cons_self, ih ?_⟩
      exact fun other hother => h other (List.mem_cons_of_mem _ hother)

instance decidableThroughout {good : State → Prop} [∀ s, Decidable (good s)] (start : State)
    (ops : List Op) : Decidable (Throughout next good start ops) :=
  match ops with
  | [] => inferInstanceAs (Decidable (good start))
  | op :: rest =>
      have : Decidable (Throughout next good (next start op) rest) :=
        decidableThroughout (next start op) rest
      inferInstanceAs (Decidable (good start ∧ Throughout next good (next start op) rest))

instance decidableAdmits [∀ s op, Decidable (allowed s op)] (start : State) (ops : List Op) :
    Decidable (Admits next allowed start ops) :=
  match ops with
  | [] => isTrue trivial
  | op :: rest =>
      have := decidableAdmits (next start op) rest
      inferInstanceAs (Decidable (allowed start op ∧ Admits next allowed (next start op) rest))

/-- The number of steps of a run that a predicate holds of. -/
def countSteps (next : State → Op → State) (counted : State → Op → Prop)
    [∀ s op, Decidable (counted s op)] : State → List Op → Nat
  | _, [] => 0
  | state, op :: rest =>
      (if counted state op then 1 else 0) + countSteps next counted (next state op) rest

/-- A potential that grows only at counted steps, by at most one, is bounded by their
number. -/
theorem potential_le_countSteps (potential : State → Nat) {counted : State → Op → Prop}
    [∀ s op, Decidable (counted s op)]
    (hstep : ∀ s op, potential (next s op) ≤ potential s + if counted s op then 1 else 0)
    (start : State) (ops : List Op) :
    potential (run next start ops) ≤ potential start + countSteps next counted start ops := by
  induction ops generalizing start with
  | nil => exact Nat.le_refl _
  | cons op rest ih =>
      have hfirst := hstep start op
      have hrest := ih (next start op)
      rw [run_cons, countSteps]
      omega

/-- What the operations of a run put out, in order. -/
def outputs {Out : Type w} (next : State → Op → State) (out : State → Op → List Out) :
    State → List Op → List Out
  | _, [] => []
  | state, op :: rest => out state op ++ outputs next out (next state op) rest

/-- An invariant of a state and of what has been put out on the way to it holds after every
admitted run. -/
theorem Admits.recorded {Out : Type w} {out : State → Op → List Out}
    (invariant : List Out → State → Prop)
    (hstep : ∀ seen s op, invariant seen s → allowed s op →
      invariant (seen ++ out s op) (next s op))
    {start : State} {seen : List Out} (hstart : invariant seen start) {ops : List Op}
    (h : Admits next allowed start ops) :
    invariant (seen ++ outputs next out start ops) (Foundation.run next start ops) := by
  induction ops generalizing start seen with
  | nil =>
      rw [outputs, List.append_nil]
      exact hstart
  | cons op rest ih =>
      rw [outputs, ← List.append_assoc, run_cons]
      exact ih (hstep seen start op hstart h.1) h.2

theorem run_append (start : State) (first second : List Op) :
    run next start (first ++ second) = run next (run next start first) second :=
  List.foldl_append

/-- What is left of an admitted run is admitted. -/
theorem Admits.of_append {start : State} {first second : List Op}
    (h : Admits next allowed start (first ++ second)) :
    Admits next allowed (Foundation.run next start first) second := by
  induction first generalizing start with
  | nil => exact h
  | cons op rest ih => exact ih h.2

/-- An admitted run is admitted as far as one looks. -/
theorem Admits.initial {start : State} {first ops : List Op} (hfirst : first <+: ops)
    (h : Admits next allowed start ops) : Admits next allowed start first := by
  induction first generalizing start ops with
  | nil => trivial
  | cons op rest ih =>
      obtain ⟨more, rfl⟩ := hfirst
      exact ⟨h.1, ih (List.prefix_append rest more) h.2⟩

end

end LgeHardware.Foundation
