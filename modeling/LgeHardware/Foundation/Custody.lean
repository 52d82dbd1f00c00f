import Mathlib.Data.Multiset.AddSub
import Mathlib.Tactic.Common

/-! # Resources in custody

A log of resources that are acquired and released. The same resource may be acquired
several times and then is to be released as often. Releasing what is not held is an
error, so that a log without errors releases every acquisition at most once.
-/

namespace LgeHardware.Foundation

universe u

variable {Resource : Type u}

inductive CustodyEvent (Resource : Type u)
  | acquire (resource : Resource)
  | release (resource : Resource)
  deriving DecidableEq, Repr

variable [DecidableEq Resource]

/-- What is held after a log, unless something was released that was not held. -/
def hold : Multiset Resource → List (CustodyEvent Resource) → Option (Multiset Resource)
  | held, [] => some held
  | held, .acquire resource :: rest => hold (resource ::ₘ held) rest
  | held, .release resource :: rest =>
      if resource ∈ held then hold (held.erase resource) rest else none

@[simp] theorem hold_nil (held : Multiset Resource) : hold held [] = some held := rfl

theorem hold_append (held : Multiset Resource) (first second : List (CustodyEvent Resource)) :
    hold held (first ++ second) = (hold held first).bind fun after => hold after second := by
  induction first generalizing held with
  | nil => rfl
  | cons event rest ih =>
      cases event with
      | acquire resource => exact ih (resource ::ₘ held)
      | release resource =>
          rw [List.cons_append, hold, hold]
          split
          · exact ih _
          · rfl

/-- Everything of a list that is held can be released, once. -/
theorem hold_release (released : List Resource) (held : Multiset Resource) :
    hold ((released : Multiset Resource) + held) (released.map .release) = some held := by
  induction released with
  | nil => simp
  | cons resource rest ih =>
      have hmem : resource ∈ (↑(resource :: rest) + held : Multiset Resource) := by simp
      rw [List.map_cons, hold, if_pos hmem, ← Multiset.cons_coe, Multiset.cons_add,
        Multiset.erase_cons_head]
      exact ih

end LgeHardware.Foundation
