import Mathlib.Algebra.Group.Int.Defs
import Mathlib.Data.List.Basic
import Mathlib.Tactic.Common
import Mathlib.Tactic.Linarith

/-! # Times that keep a distance

A limiter lets an event pass only if enough time has gone by since the last one. How much is
enough may be set anew for each event. Where it is never less than a gap, the number of events in
a span of time is bounded, whatever the clock does in between.
-/

namespace LgeHardware.Foundation

/-- An event that was let pass: when it was, and how long after the last one it had to be. -/
structure Passed where
  time : Int
  distance : Int
  deriving DecidableEq, Repr

/-- Every event kept its distance from the last one, the first of them from a given time. -/
def Kept : Int → List Passed → Prop
  | _, [] => True
  | last, event :: rest => last + event.distance ≤ event.time ∧ Kept event.time rest

/-- The time of the last event, or the given one if there was none. -/
def lastTime (last : Int) (events : List Passed) : Int :=
  events.foldl (fun _ event => event.time) last

@[simp] theorem lastTime_nil (last : Int) : lastTime last [] = last := rfl

theorem lastTime_append (last : Int) (first second : List Passed) :
    lastTime last (first ++ second) = lastTime (lastTime last first) second :=
  List.foldl_append

theorem kept_append {last : Int} {first second : List Passed} :
    Kept last (first ++ second) ↔ Kept last first ∧ Kept (lastTime last first) second := by
  induction first generalizing last with
  | nil => exact (and_iff_right trivial).symm
  | cons event rest ih =>
      rw [List.cons_append, Kept, Kept, ih, and_assoc]
      exact Iff.rfl

variable {gap last : Int} {events : List Passed}

/-- Where no distance is less than the gap, an event is a gap after every earlier one. -/
theorem Kept.pairwise (h : Kept last events) (hgap : 0 ≤ gap)
    (hdistance : ∀ event ∈ events, gap ≤ event.distance) :
    (∀ event ∈ events, last + gap ≤ event.time) ∧
      events.Pairwise fun first second => first.time + gap ≤ second.time := by
  induction events generalizing last with
  | nil => simp
  | cons event rest ih =>
      obtain ⟨hfirst, hrest⟩ := h
      obtain ⟨hlater, hpairwise⟩ :=
        ih hrest fun other hother => hdistance other (List.mem_cons_of_mem _ hother)
      have hlong := hdistance event List.mem_cons_self
      refine ⟨?_, List.pairwise_cons.mpr ⟨hlater, hpairwise⟩⟩
      intro other hother
      rcases List.mem_cons.mp hother with rfl | hother
      · omega
      · have := hlater other hother
        omega

/-- Events that are a gap apart and all in one span are not more than fit into it. -/
theorem length_le_of_pairwise {low high : Int} (hgap : 0 ≤ gap)
    (h : events.Pairwise fun first second => first.time + gap ≤ second.time)
    (hspan : ∀ event ∈ events, low ≤ event.time ∧ event.time ≤ high) (hordered : low ≤ high) :
    (events.length : Int) * gap ≤ high - low + gap := by
  induction events generalizing low with
  | nil =>
      simp only [List.length_nil, Int.natCast_zero, Int.zero_mul]
      omega
  | cons event rest ih =>
      obtain ⟨hlater, hrest⟩ := List.pairwise_cons.mp h
      obtain ⟨hlow, hhigh⟩ := hspan event List.mem_cons_self
      cases rest with
      | nil =>
          simp only [List.length_singleton, Int.natCast_one, Int.one_mul]
          omega
      | cons second rest =>
          have hspan' : ∀ other ∈ second :: rest, low + gap ≤ other.time ∧ other.time ≤ high := by
            intro other hother
            have hlong := hlater other hother
            exact ⟨by omega, (hspan other (List.mem_cons_of_mem _ hother)).2⟩
          have hsecond := hspan' second List.mem_cons_self
          have hcount := ih hrest hspan' (by omega)
          rw [List.length_cons, Int.natCast_add, Int.natCast_one, Int.add_mul, Int.one_mul]
          omega

/-- In any span of time there are not more events than gaps fit into it, and one. -/
theorem Kept.count_le (h : Kept last events) (hgap : 0 ≤ gap)
    (hdistance : ∀ event ∈ events, gap ≤ event.distance) {low high : Int} (hordered : low ≤ high) :
    ((events.countP fun event => low ≤ event.time ∧ event.time ≤ high : Nat) : Int) * gap ≤
      high - low + gap := by
  rw [List.countP_eq_length_filter]
  refine length_le_of_pairwise hgap ?_ ?_ hordered
  · exact (h.pairwise hgap hdistance).2.filter _
  · intro event hevent
    exact of_decide_eq_true (List.mem_filter.mp hevent).2

end LgeHardware.Foundation
