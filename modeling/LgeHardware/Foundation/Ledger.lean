import LgeHardware.Foundation.Run
import Mathlib.Algebra.Group.Basic

/-! # Books that balance

What a system holds grows by what its steps take in and shrinks by what they give away. If the
books balance at every step, they balance over a run, whatever the run is.
-/

namespace LgeHardware.Foundation

universe u v w

variable {State : Type u} {Op : Type v} {Amount : Type w} [AddCommMonoid Amount]

/-- The sum of what the steps of a run amount to. -/
def total (next : State → Op → State) (amount : State → Op → Amount) : State → List Op → Amount
  | _, [] => 0
  | state, op :: rest => amount state op + total next amount (next state op) rest

variable {next : State → Op → State} {allowed : State → Op → Prop}

@[simp] theorem total_nil (amount : State → Op → Amount) (start : State) :
    total next amount start [] = 0 := rfl

@[simp] theorem total_cons (amount : State → Op → Amount) (start : State) (op : Op)
    (rest : List Op) : total next amount start (op :: rest) =
      amount start op + total next amount (next start op) rest := rfl

theorem total_add (first second : State → Op → Amount) (start : State) (ops : List Op) :
    total next (fun s op => first s op + second s op) start ops =
      total next first start ops + total next second start ops := by
  induction ops generalizing start with
  | nil => exact (add_zero 0).symm
  | cons op rest ih => rw [total_cons, total_cons, total_cons, ih, add_add_add_comm]

/-- What is held at the end and what was given away on the way make up what was held at the
start and what was taken in. -/
theorem Admits.balance {held : State → Amount} {taken given : State → Op → Amount}
    (hstep : ∀ s op, allowed s op → held (next s op) + given s op = held s + taken s op)
    {start : State} {ops : List Op} (h : Admits next allowed start ops) :
    held (run next start ops) + total next given start ops =
      held start + total next taken start ops := by
  induction ops generalizing start with
  | nil => rfl
  | cons op rest ih =>
      have hfirst := hstep start op h.1
      have hrest := ih h.2
      calc held (run next start (op :: rest)) + total next given start (op :: rest) =
          given start op + (held (run next (next start op) rest) +
            total next given (next start op) rest) := add_left_comm _ _ _
        _ = given start op + (held (next start op) + total next taken (next start op) rest) := by
            rw [hrest]
        _ = held (next start op) + given start op + total next taken (next start op) rest := by
            rw [← add_assoc, add_comm (given start op)]
        _ = held start + total next taken start (op :: rest) := by
            rw [hfirst, add_assoc, total_cons]

end LgeHardware.Foundation
