import Mathlib.Tactic.Common

/-! # Groups of bits

Masks without a common bit divide a word into groups. A word of whole groups has no other
group, and to complete the groups of a word one after the other is to complete those that
it had a bit of at first.
-/

namespace LgeHardware.Foundation

/-! ## Words -/

theorem uInt32_or_and_distrib (a b c : UInt32) : (a ||| b) &&& c = (a &&& c) ||| (b &&& c) :=
  UInt32.toBitVec_inj.mp BitVec.and_or_distrib_right

/-- A word with all bits of a mask stays the same when the mask is added. -/
theorem uInt32_or_eq_self_of_and_eq {a mask : UInt32} (h : a &&& mask = mask) :
    a ||| mask = a := by
  rw [← h, ← UInt32.toBitVec_inj]
  ext i hi
  simpa using And.left

/-! ## Masks -/

universe u

variable {ι : Type u} (mask : ι → UInt32)

/-- The bits of all groups of a list. -/
def allOf (groups : List ι) : UInt32 := groups.foldr (fun group bits => mask group ||| bits) 0

/-- A word with every group of a list completed that it has a bit of. -/
def complete (groups : List ι) (bits : UInt32) : UInt32 :=
  bits ||| allOf mask (groups.filter fun group => bits &&& mask group ≠ 0)

/-- No group is empty, and no bit is in two groups. -/
structure Separate : Prop where
  ne_zero : ∀ group, mask group ≠ 0
  disjoint : ∀ first second, first ≠ second → mask first &&& mask second = 0

variable {mask}

@[simp] theorem allOf_nil : allOf mask [] = 0 := rfl

@[simp] theorem allOf_cons (group : ι) (groups : List ι) :
    allOf mask (group :: groups) = mask group ||| allOf mask groups := rfl

theorem allOf_and_eq_zero {groups : List ι} {bits : UInt32}
    (h : ∀ group ∈ groups, mask group &&& bits = 0) : allOf mask groups &&& bits = 0 := by
  induction groups with
  | nil => exact UInt32.zero_and
  | cons group groups ih =>
      obtain ⟨hgroup, hgroups⟩ := List.forall_mem_cons.mp h
      rw [allOf_cons, uInt32_or_and_distrib, hgroup, ih hgroups, UInt32.or_self]

theorem allOf_ne_zero {groups : List ι} {group : ι} (hgroup : group ∈ groups)
    (hne : mask group ≠ 0) : allOf mask groups ≠ 0 := by
  induction hgroup with
  | head => exact fun h => hne (UInt32.or_eq_zero_iff.mp h).1
  | tail _ _ ih => exact fun h => ih (UInt32.or_eq_zero_iff.mp h).2

theorem or_allOf_eq_self {groups : List ι} {bits : UInt32}
    (h : ∀ group ∈ groups, bits ||| mask group = bits) : bits ||| allOf mask groups = bits := by
  induction groups with
  | nil => exact UInt32.or_zero
  | cons group groups ih =>
      obtain ⟨hgroup, hgroups⟩ := List.forall_mem_cons.mp h
      rw [allOf_cons, ← UInt32.or_assoc, hgroup, ih hgroups]

namespace Separate

variable (h : Separate mask)

include h

/-- A word of whole groups has all of a group or nothing. -/
theorem allOf_and [DecidableEq ι] (groups : List ι) (group : ι) :
    allOf mask groups &&& mask group = if group ∈ groups then mask group else 0 := by
  induction groups with
  | nil => exact UInt32.zero_and
  | cons other groups ih =>
      rw [allOf_cons, uInt32_or_and_distrib, ih]
      by_cases heq : other = group
      · subst heq
        rw [UInt32.and_self, if_pos List.mem_cons_self]
        split
        · exact UInt32.or_self
        · exact UInt32.or_zero
      · rw [h.disjoint other group heq, UInt32.zero_or]
        simp [List.mem_cons, Ne.symm heq]

/-- A word of whole groups tells which these are. -/
theorem mem_iff_of_allOf_eq [DecidableEq ι] {first second : List ι}
    (heq : allOf mask first = allOf mask second) (group : ι) : group ∈ first ↔ group ∈ second := by
  have hand := congrArg (· &&& mask group) heq
  simp only [h.allOf_and] at hand
  have hne := h.ne_zero group
  grind

/-- There is nothing to complete in a word of whole groups. -/
theorem complete_allOf [DecidableEq ι] (groups whole : List ι) :
    complete mask groups (allOf mask whole) = allOf mask whole := by
  apply or_allOf_eq_self
  intro group hgroup
  have htouched := of_decide_eq_true (List.mem_filter.mp hgroup).2
  rw [h.allOf_and] at htouched
  apply uInt32_or_eq_self_of_and_eq
  rw [h.allOf_and]
  exact if_pos (of_not_not fun hnot => htouched (if_neg hnot))

/-- A group that is completed changes nothing for the groups behind it. -/
theorem foldl_eq_complete (groups : List ι) (hnodup : groups.Nodup) (bits : UInt32) :
    groups.foldl (fun bits group =>
      if bits &&& mask group ≠ 0 then bits ||| mask group else bits) bits =
        complete mask groups bits := by
  induction groups generalizing bits with
  | nil => exact UInt32.or_zero.symm
  | cons group groups ih =>
      obtain ⟨hnot, hnodup⟩ := List.nodup_cons.mp hnodup
      rw [List.foldl_cons, ih hnodup]
      split
      next htouched =>
        have hsame : ∀ other ∈ groups, decide ((bits ||| mask group) &&& mask other ≠ 0) =
            decide (bits &&& mask other ≠ 0) := by
          intro other hother
          have hdisjoint := h.disjoint group other fun heq => hnot (heq ▸ hother)
          rw [uInt32_or_and_distrib, hdisjoint, UInt32.or_zero]
        rw [complete, complete, List.filter_congr hsame, List.filter_cons,
          if_pos (decide_eq_true htouched), allOf_cons, UInt32.or_assoc]
      next hnone =>
        rw [complete, complete, List.filter_cons, if_neg (by simpa using hnone)]

end Separate

end LgeHardware.Foundation
