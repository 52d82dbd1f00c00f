import Mathlib.Data.List.Pairwise
import Mathlib.Order.Lattice
import Mathlib.Tactic.Common

/-! # Queues of increasing disjoint intervals

Every item of a list covers an interval of a linear order, and the intervals
increase along the list without overlapping. Then the first item has the least
lower end, the last one the greatest upper end, and no two items share a point.
-/

namespace LgeHardware.Foundation

universe u v

variable {Item : Type u} {Point : Type v} [LinearOrder Point] {lo hi : Item → Point}

/-- The intervals of the items are not empty, and each ends before the next begins. -/
structure OrderedIntervals (lo hi : Item → Point) (items : List Item) : Prop where
  nonempty : ∀ item ∈ items, lo item ≤ hi item
  separated : items.Pairwise fun a b => hi a < lo b

namespace OrderedIntervals

theorem nil : OrderedIntervals lo hi [] := ⟨by simp, List.Pairwise.nil⟩

theorem of_sublist {items kept : List Item} (h : OrderedIntervals lo hi items)
    (hsub : kept.Sublist items) : OrderedIntervals lo hi kept :=
  ⟨fun item hitem => h.nonempty item (hsub.subset hitem), h.separated.sublist hsub⟩

/-- A new interval above all present ones may be queued. -/
theorem concat {items : List Item} (h : OrderedIntervals lo hi items) {item : Item}
    (hitem : lo item ≤ hi item) (habove : ∀ other ∈ items, hi other < lo item) :
    OrderedIntervals lo hi (items ++ [item]) := by
  constructor
  · intro other hother
    rcases List.mem_append.mp hother with hother | hother
    · exact h.nonempty other hother
    · rw [List.mem_singleton.mp hother]
      exact hitem
  · rw [List.pairwise_append]
    refine ⟨h.separated, List.pairwise_singleton _ _, ?_⟩
    intro a ha b hb
    rw [List.mem_singleton.mp hb]
    exact habove a ha

/-- Items that keep their ends may change otherwise. -/
theorem of_map_eq {items items' : List Item} (h : OrderedIntervals lo hi items)
    (hends : items'.map (fun item => (lo item, hi item)) =
      items.map fun item => (lo item, hi item)) : OrderedIntervals lo hi items' := by
  have hpairs : (items.map fun item => (lo item, hi item)).Pairwise fun a b => a.2 < b.1 :=
    List.pairwise_map.mpr h.separated
  constructor
  · intro item hitem
    have hmem : (lo item, hi item) ∈ items.map fun item => (lo item, hi item) := by
      rw [← hends]
      exact List.mem_map_of_mem hitem
    obtain ⟨other, hother, heq⟩ := List.mem_map.mp hmem
    obtain ⟨hlo, hhi⟩ := Prod.mk.inj heq
    rw [← hlo, ← hhi]
    exact h.nonempty other hother
  · rw [← hends] at hpairs
    exact List.pairwise_map.mp hpairs

theorem map_iff {Origin : Type*} {f : Origin → Item} {origins : List Origin} :
    OrderedIntervals lo hi (origins.map f) ↔
      OrderedIntervals (fun origin => lo (f origin)) (fun origin => hi (f origin)) origins := by
  constructor
  · intro h
    exact ⟨fun origin hmem => h.nonempty (f origin) (List.mem_map_of_mem hmem),
      List.pairwise_map.mp h.separated⟩
  · intro h
    refine ⟨?_, List.pairwise_map.mpr h.separated⟩
    intro item hmem
    obtain ⟨origin, horigin, rfl⟩ := List.mem_map.mp hmem
    exact h.nonempty origin horigin

theorem head_lo_le {first : Item} {rest : List Item}
    (h : OrderedIntervals lo hi (first :: rest)) {item : Item} (hitem : item ∈ first :: rest) :
    lo first ≤ lo item := by
  rcases List.mem_cons.mp hitem with rfl | hrest
  · exact le_rfl
  · have hlt := (List.pairwise_cons.mp h.separated).1 item hrest
    exact (h.nonempty first List.mem_cons_self).trans hlt.le

theorem le_getLast_hi {items : List Item} (h : OrderedIntervals lo hi items) {last : Item}
    (hlast : items.getLast? = some last) {item : Item} (hitem : item ∈ items) :
    hi item ≤ hi last := by
  obtain ⟨init, rfl⟩ := List.getLast?_eq_some_iff.mp hlast
  rcases List.mem_append.mp hitem with hinit | hsingle
  · have hlt := (List.pairwise_append.mp h.separated).2.2 item hinit last (by simp)
    exact hlt.le.trans (h.nonempty last (by simp))
  · rw [List.mem_singleton.mp hsingle]

/-- Items before a given one lie below its points, items after it above them. -/
theorem around {before after : List Item} {item : Item} {point : Point}
    (h : OrderedIntervals lo hi (before ++ item :: after)) (hlo : lo item ≤ point)
    (hhi : point ≤ hi item) :
    (∀ other ∈ before, hi other < point) ∧ ∀ other ∈ after, point < lo other := by
  have hsep := List.pairwise_append.mp h.separated
  constructor
  · intro other hother
    exact (hsep.2.2 other hother item List.mem_cons_self).trans_le hlo
  · intro other hother
    exact hhi.trans_lt ((List.pairwise_cons.mp hsep.2.1).1 other hother)

/-- A point of one item is outside all others. -/
theorem outside {before after : List Item} {item : Item} {point : Point}
    (h : OrderedIntervals lo hi (before ++ item :: after)) (hlo : lo item ≤ point)
    (hhi : point ≤ hi item) : ∀ other ∈ before ++ after, point < lo other ∨ hi other < point := by
  obtain ⟨hbefore, hafter⟩ := h.around hlo hhi
  intro other hother
  rcases List.mem_append.mp hother with hother | hother
  · exact .inr (hbefore other hother)
  · exact .inl (hafter other hother)

/-- Seen from a point of the item at one position, exactly the items up to that position
begin at or before the point. -/
theorem lo_le_iff {items : List Item} (h : OrderedIntervals lo hi items) {i j : Nat}
    {item other : Item} {point : Point} (hitem : items[i]? = some item) (hlo : lo item ≤ point)
    (hhi : point ≤ hi item) (hother : items[j]? = some other) : lo other ≤ point ↔ j ≤ i := by
  obtain ⟨hi', rfl⟩ := List.getElem?_eq_some_iff.mp hitem
  obtain ⟨hj', rfl⟩ := List.getElem?_eq_some_iff.mp hother
  rcases Nat.lt_trichotomy j i with hlt | rfl | hgt
  · have hsep := List.pairwise_iff_getElem.mp h.separated j i hj' hi' hlt
    have hne := h.nonempty items[j] (List.getElem_mem hj')
    exact iff_of_true ((hne.trans hsep.le).trans hlo) (Nat.le_of_lt hlt)
  · exact iff_of_true hlo (Nat.le_refl j)
  · have hsep := List.pairwise_iff_getElem.mp h.separated i j hi' hj' hgt
    exact iff_of_false (not_le.mpr (hhi.trans_lt hsep)) (Nat.not_le_of_lt hgt)

end OrderedIntervals

end LgeHardware.Foundation
