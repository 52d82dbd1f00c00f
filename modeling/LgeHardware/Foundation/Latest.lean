import LgeHardware.Foundation.Run
import Mathlib.Data.List.Induction

/-! # Registers that keep the last write

A register has the value that it was given last, or its first value if nothing wrote to it. A
part of the state of a system that every operation overwrites or leaves alone is such a
register, so that its value after a run does not depend on anything but the last write to it.
-/

namespace LgeHardware.Foundation

universe u v w

variable {State : Type u} {Op : Type v} {Value : Type w}

/-- The value of a register after operations, of which some write to it. -/
def latest (written : Op → Option Value) (initial : Value) (ops : List Op) : Value :=
  ops.foldl (fun value op => (written op).getD value) initial

section

variable {written : Op → Option Value} {initial : Value}

@[simp] theorem latest_nil : latest written initial [] = initial := rfl

@[simp] theorem latest_cons (op : Op) (rest : List Op) :
    latest written initial (op :: rest) = latest written ((written op).getD initial) rest := rfl

theorem latest_append (first second : List Op) :
    latest written initial (first ++ second) =
      latest written (latest written initial first) second :=
  List.foldl_append

/-- Only operations that are there can write. -/
theorem latest_filterMap {Other : Type*} (translate : Other → Option Op) (others : List Other) :
    latest written initial (others.filterMap translate) =
      latest (fun other => (translate other).bind written) initial others := by
  induction others generalizing initial with
  | nil => rfl
  | cons other rest ih =>
      cases hother : translate other with
      | none => rw [List.filterMap_cons_none hother, latest_cons, hother, ih]; rfl
      | some op => rw [List.filterMap_cons_some hother, latest_cons, latest_cons, hother, ih]; rfl

end

/-- A part of the state that every permitted operation overwrites or leaves alone is a
register. -/
theorem Admits.view_run {next : State → Op → State} {allowed : State → Op → Prop}
    (invariant : State → Prop) {written : Op → Option Value} {view : State → Value}
    (hinvariant : ∀ s op, invariant s → allowed s op → invariant (next s op))
    (hstep : ∀ s op, invariant s → allowed s op →
      view (next s op) = (written op).getD (view s))
    {start : State} (hstart : invariant start) {ops : List Op}
    (h : Admits next allowed start ops) :
    view (run next start ops) = latest written (view start) ops := by
  induction ops generalizing start with
  | nil => rfl
  | cons op rest ih =>
      rw [run_cons, latest_cons, ih (hinvariant start op hstart h.1) h.2, hstep start op hstart h.1]

/-- The same where every operation is permitted in every state. -/
theorem view_run {next : State → Op → State} {written : Op → Option Value} {view : State → Value}
    (hstep : ∀ s op, view (next s op) = (written op).getD (view s)) (start : State)
    (ops : List Op) : view (run next start ops) = latest written (view start) ops :=
  (Admits.always start ops).view_run (fun _ => True) (fun _ _ _ _ => trivial)
    (fun s op _ _ => hstep s op) trivial

/-! ## What is told last -/

section

variable {Out : Type*} {next : State → Op → State} {out : State → Op → List Out}

theorem outputs_append (start : State) (first second : List Op) :
    outputs next out start (first ++ second) =
      outputs next out start first ++ outputs next out (run next start first) second := by
  induction first generalizing start with
  | nil => rfl
  | cons op rest ih => rw [List.cons_append, outputs, outputs, ih, List.append_assoc, run_cons]

/-- The last output of a kind, as it is understood. -/
def lastTold (kind : Out → Bool) (understood : Out → Option Value) (log : List Out) :
    Option Value :=
  (log.filter kind).getLast?.bind understood

variable {kind : Out → Bool} {understood : Out → Option Value}

theorem lastTold_append_of_silent (log : List Out) {more : List Out}
    (h : more.filter kind = []) :
    lastTold kind understood (log ++ more) = lastTold kind understood log := by
  rw [lastTold, List.filter_append, h, List.append_nil, lastTold]

theorem lastTold_append_of_told (log : List Out) {more : List Out} {value : Value}
    (h : lastTold kind understood more = some value) :
    lastTold kind understood (log ++ more) = some value := by
  have hne : more.filter kind ≠ [] := by
    intro hnil
    rw [lastTold, hnil] at h
    cases h
  rw [lastTold, List.filter_append, List.getLast?_append_of_ne_nil _ hne]
  exact h

/-- Some operations tell what there is to see after them, and the others tell nothing and
change nothing that there is to see. Then what is told last is what there is to see. -/
theorem lastTold_outputs {speaks : Op → Bool} {display : List Op → Value} {start : State}
    (hspeaks : ∀ before op, speaks op = true →
      lastTold kind understood (out (run next start before) op) = some (display (before ++ [op])))
    (hsilent : ∀ before op, speaks op = false →
      (out (run next start before) op).filter kind = [] ∧ display (before ++ [op]) = display before)
    (ops : List Op) : lastTold kind understood (outputs next out start ops) =
      if ops.any speaks then some (display ops) else none := by
  induction ops using List.reverseRecOn with
  | nil => rfl
  | append_singleton before op ih =>
      have hlast : outputs next out (run next start before) [op] = out (run next start before) op :=
        List.append_nil _
      rw [outputs_append, hlast, List.any_append, List.any_cons, List.any_nil, Bool.or_false]
      cases hop : speaks op with
      | true =>
          rw [lastTold_append_of_told _ (hspeaks before op hop), Bool.or_true, if_pos rfl]
      | false =>
          obtain ⟨hnothing, hsame⟩ := hsilent before op hop
          rw [lastTold_append_of_silent _ hnothing, ih, Bool.or_false, hsame]

end

end LgeHardware.Foundation
