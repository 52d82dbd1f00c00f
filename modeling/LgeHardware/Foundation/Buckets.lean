import Mathlib.Data.List.Basic
import Mathlib.Data.List.Perm.Basic
import Mathlib.Data.List.Range
import Mathlib.Tactic.Common

/-! # Sorting into buckets

A loop takes the elements of a list one after the other and puts each into the bucket that its
index says, at the end. An index without a bucket is an access out of bounds. Without such an
index every bucket gets its own elements in their order, and no element is lost or doubled.
-/

namespace LgeHardware.Foundation

universe u

variable {α : Type u} (index : α → Int)

/-- `buckets[index].push_back(x)`, `none` where that is out of bounds. -/
def pushBucket (buckets : List (List α)) (x : α) : Option (List (List α)) :=
  if 0 ≤ index x ∧ index x < buckets.length then
    some (buckets.modify (index x).toNat (· ++ [x]))
  else none

/-- The loop over the elements. -/
def fillBuckets : List α → List (List α) → Option (List (List α))
  | [], buckets => some buckets
  | x :: rest, buckets => (pushBucket index buckets x).bind (fillBuckets rest)

/-- The elements of a bucket. -/
def bucket (xs : List α) (s : Nat) : List α := xs.filter fun x => index x = s

variable {index}

theorem bucket_cons (x : α) (xs : List α) (s : Nat) :
    bucket index (x :: xs) s =
      if index x = s then x :: bucket index xs s else bucket index xs s := by
  rw [bucket, List.filter_cons]
  by_cases h : index x = s
  · simp [h, bucket]
  · simp [h, bucket]

theorem pushBucket_of_lt {buckets : List (List α)} {x : α} {s : Nat} (hs : index x = s)
    (h : s < buckets.length) :
    pushBucket index buckets x = some (buckets.modify s (· ++ [x])) := by
  rw [pushBucket, hs, if_pos (by omega), Int.toNat_natCast]

/-- Items with an index in the range are appended to their buckets, in their order. -/
theorem fillBuckets_eq {xs : List α} {buckets : List (List α)}
    (h : ∀ x ∈ xs, 0 ≤ index x ∧ index x < buckets.length) :
    fillBuckets index xs buckets =
      some (buckets.mapIdx fun s contents => contents ++ bucket index xs s) := by
  induction xs generalizing buckets with
  | nil =>
      rw [fillBuckets]
      congr 1
      apply List.ext_getElem (by simp)
      intro s hs hs'
      rw [List.getElem_mapIdx]
      exact (List.append_nil _).symm
  | cons x rest ih =>
      obtain ⟨hlow, hhigh⟩ := h x List.mem_cons_self
      obtain ⟨s, hs⟩ := Int.eq_ofNat_of_zero_le hlow
      have hlt : s < buckets.length := by omega
      have hrest : ∀ other ∈ rest, 0 ≤ index other ∧
          index other < (buckets.modify s (· ++ [x])).length := by
        intro other hother
        rw [List.length_modify]
        exact h other (List.mem_cons_of_mem _ hother)
      rw [fillBuckets, pushBucket_of_lt hs hlt, Option.bind_some, ih hrest]
      congr 1
      apply List.ext_getElem (by simp)
      intro t ht ht'
      rw [List.getElem_mapIdx, List.getElem_mapIdx, List.getElem_modify, bucket_cons, hs]
      by_cases heq : s = t
      · subst heq
        simp
      · rw [if_neg heq, if_neg (by omega)]

/-- Empty buckets get their own elements, in their order. -/
theorem fillBuckets_replicate {xs : List α} {n : Nat} (h : ∀ x ∈ xs, 0 ≤ index x ∧ index x < n) :
    fillBuckets index xs (List.replicate n []) = some ((List.range n).map (bucket index xs)) := by
  rw [fillBuckets_eq (by simpa using h)]
  congr 1
  apply List.ext_getElem (by simp)
  intro s hs hs'
  simp

/-- The loop ends only if every element has a bucket. -/
theorem lt_of_fillBuckets {xs : List α} {buckets result : List (List α)}
    (h : fillBuckets index xs buckets = some result) :
    ∀ x ∈ xs, 0 ≤ index x ∧ index x < buckets.length := by
  induction xs generalizing buckets with
  | nil => exact fun x hx => absurd hx List.not_mem_nil
  | cons x rest ih =>
      obtain ⟨next, hnext, hrest⟩ := Option.bind_eq_some_iff.mp h
      rw [pushBucket] at hnext
      split at hnext
      next hbounds =>
        cases hnext
        intro other hother
        rcases List.mem_cons.mp hother with rfl | hother
        · exact hbounds
        · have hlater := ih hrest other hother
          rwa [List.length_modify] at hlater
      next => cases hnext

/-- One more element in one of the buckets is one more element in all of them. -/
theorem flatMap_bucket_cons {xs : List α} {x : α} {s : Nat} (hs : index x = s) {places : List Nat}
    (hnodup : places.Nodup) (hmem : s ∈ places) :
    (places.flatMap (bucket index (x :: xs))).Perm (x :: places.flatMap (bucket index xs)) := by
  obtain ⟨before, after, rfl⟩ := List.append_of_mem hmem
  have hothers : ∀ other, other ≠ s → bucket index (x :: xs) other = bucket index xs other := by
    intro other hother
    rw [bucket_cons, hs, if_neg (by omega)]
  have hnot : s ∉ before ∧ s ∉ after := by
    constructor
    · intro hbefore
      exact (List.nodup_append.mp hnodup).2.2 s hbefore s List.mem_cons_self rfl
    · exact (List.nodup_cons.mp (List.nodup_append.mp hnodup).2.1).1
  have hbefore : before.flatMap (bucket index (x :: xs)) = before.flatMap (bucket index xs) := by
    apply List.flatMap_congr
    intro other hother
    exact hothers other fun heq => hnot.1 (heq ▸ hother)
  have hafter : after.flatMap (bucket index (x :: xs)) = after.flatMap (bucket index xs) := by
    apply List.flatMap_congr
    intro other hother
    exact hothers other fun heq => hnot.2 (heq ▸ hother)
  rw [List.flatMap_append, List.flatMap_append, List.flatMap_cons, List.flatMap_cons, hbefore,
    hafter, bucket_cons, if_pos hs, List.cons_append]
  exact List.perm_middle

/-- The buckets together have every element as often as the list. -/
theorem flatMap_bucket_perm {xs : List α} {n : Nat} (h : ∀ x ∈ xs, 0 ≤ index x ∧ index x < n) :
    ((List.range n).flatMap (bucket index xs)).Perm xs := by
  induction xs with
  | nil => simp [bucket]
  | cons x rest ih =>
      obtain ⟨hlow, hhigh⟩ := h x List.mem_cons_self
      obtain ⟨s, hs⟩ := Int.eq_ofNat_of_zero_le hlow
      have hmem : s ∈ List.range n := List.mem_range.mpr (by omega)
      exact (flatMap_bucket_cons hs List.nodup_range hmem).trans
        ((ih fun other hother => h other (List.mem_cons_of_mem _ hother)).cons x)

end LgeHardware.Foundation
