import Mathlib.Data.List.Basic
import Mathlib.Tactic.Common

/-! # Bounded queues with all-or-nothing transfers

A queue of items of bounded length. A write appends a whole block or nothing, a
read removes a whole block or nothing. The queue itself carries no framing: the
reader recovers the blocks only by asking for their lengths in the order in
which they were written.
-/

namespace LgeHardware.Foundation

universe u

/-- A queue holding at most `capacity` items. -/
structure BoundedQueue (α : Type u) where
  capacity : Nat
  items : List α
  fits : items.length ≤ capacity

namespace BoundedQueue

variable {α : Type u}

@[ext] theorem ext {q q' : BoundedQueue α} (hcapacity : q.capacity = q'.capacity)
    (hitems : q.items = q'.items) : q = q' := by
  cases q
  cases q'
  cases hcapacity
  cases hitems
  rfl

instance [DecidableEq α] : DecidableEq (BoundedQueue α) := fun q q' =>
  decidable_of_iff (q.capacity = q'.capacity ∧ q.items = q'.items)
    ⟨fun ⟨hcapacity, hitems⟩ => ext hcapacity hitems, by rintro rfl; exact ⟨rfl, rfl⟩⟩

/-- The empty queue of a given capacity. -/
def empty (capacity : Nat) : BoundedQueue α := ⟨capacity, [], Nat.zero_le _⟩

/-- The number of items that can still be written. -/
def availableToWrite (q : BoundedQueue α) : Nat := q.capacity - q.items.length

/-- Append a block if it fits as a whole. -/
def write (q : BoundedQueue α) (block : List α) : Option (BoundedQueue α) :=
  if h : q.items.length + block.length ≤ q.capacity then
    some ⟨q.capacity, q.items ++ block, by rw [List.length_append]; exact h⟩
  else none

/-- Remove a block of `n` items if so many are there. -/
def read (q : BoundedQueue α) (n : Nat) : Option (List α × BoundedQueue α) :=
  if n ≤ q.items.length then
    some (q.items.take n, ⟨q.capacity, q.items.drop n, by
      rw [List.length_drop]; exact Nat.le_trans (Nat.sub_le _ _) q.fits⟩)
  else none

/-- The queue holds exactly the given blocks, one after the other. -/
def Holds (q : BoundedQueue α) (blocks : List (List α)) : Prop := q.items = blocks.flatten

theorem Holds.nil_iff {q : BoundedQueue α} : q.Holds [] ↔ q.items = [] := by
  simp [Holds]

/-- A successful write appends its block. -/
theorem Holds.write {q q' : BoundedQueue α} {blocks : List (List α)} {block : List α}
    (h : q.Holds blocks) (hwrite : q.write block = some q') : q'.Holds (blocks ++ [block]) := by
  unfold BoundedQueue.write at hwrite
  split at hwrite
  next =>
    cases hwrite
    simp only [Holds] at h ⊢
    simp [h]
  next => cases hwrite

/-- A reader that asks for the length of the first block gets that block. -/
theorem Holds.read {q : BoundedQueue α} {block : List α} {blocks : List (List α)}
    (h : q.Holds (block :: blocks)) :
    ∃ q', q.read block.length = some (block, q') ∧ q'.Holds blocks := by
  simp only [Holds, List.flatten_cons] at h
  have hlen : block.length ≤ q.items.length := by
    rw [h, List.length_append]
    exact Nat.le_add_right _ _
  refine ⟨⟨q.capacity, q.items.drop block.length, ?_⟩, ?_, ?_⟩
  · rw [List.length_drop]
    exact Nat.le_trans (Nat.sub_le _ _) q.fits
  · rw [BoundedQueue.read, if_pos hlen]
    simp [h]
  · simp [Holds, h]

/-- Append several blocks, each if it fits. -/
def writeAll (q : BoundedQueue α) : List (List α) → Option (BoundedQueue α)
  | [] => some q
  | block :: rest => (q.write block).bind fun q => q.writeAll rest

theorem Holds.writeAll {q q' : BoundedQueue α} {blocks more : List (List α)}
    (h : q.Holds blocks) (hwrite : q.writeAll more = some q') : q'.Holds (blocks ++ more) := by
  induction more generalizing q blocks with
  | nil =>
      cases hwrite
      rwa [List.append_nil]
  | cons block rest ih =>
      obtain ⟨q₁, hfirst, hrest⟩ := Option.bind_eq_some_iff.mp hwrite
      have hall := ih (h.write hfirst) hrest
      rwa [List.append_assoc] at hall

end BoundedQueue

end LgeHardware.Foundation
