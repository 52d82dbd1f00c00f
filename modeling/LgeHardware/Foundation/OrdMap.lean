import Mathlib.Data.List.Perm.Basic
import Mathlib.Data.List.Nodup
import Mathlib.Data.List.Sort
import Mathlib.Tactic.Common

/-! # Ordered finite maps with bulk updates

`Std.ExtTreeMap` is the extensional ordered map. This module adds the bulk
operations that loops over a container perform (insert a list of entries, erase
a list of keys), their lookup laws, and how one key contributes to the list of
all entries.
-/

namespace LgeHardware.Foundation

/-- The order of pairs that compares the first components first. -/
def pairCompare {α β : Type} [Ord α] [Ord β] (a b : α × β) : Ordering :=
  (compare a.1 b.1).then (compare a.2 b.2)

instance {α β : Type} [Ord α] [Ord β] [Std.TransOrd α] [Std.TransOrd β] :
    Std.TransCmp (pairCompare : α × β → α × β → Ordering) :=
  inferInstanceAs (Std.TransCmp (compareLex (compareOn Prod.fst) (compareOn Prod.snd)))

instance {α β : Type} [Ord α] [Ord β] [Std.TransOrd α] [Std.TransOrd β]
    [Std.LawfulEqOrd α] [Std.LawfulEqOrd β] :
    Std.LawfulEqCmp (pairCompare : α × β → α × β → Ordering) where
  eq_of_compare {a b} h := by
    simp only [pairCompare, Ordering.then_eq_eq, Std.LawfulEqCmp.compare_eq_iff_eq] at h
    exact Prod.ext h.1 h.2

end LgeHardware.Foundation

namespace Std.ExtTreeMap

universe u v w

variable {K : Type u} {V : Type v} {cmp : K → K → Ordering} [Std.TransCmp cmp]

/-- Insert the entries of a list, first to last. -/
def insertAll (m : Std.ExtTreeMap K V cmp) (entries : List (K × V)) : Std.ExtTreeMap K V cmp :=
  entries.foldl (fun m entry => m.insert entry.1 entry.2) m

/-- Erase the keys of a list. -/
def eraseAll (m : Std.ExtTreeMap K V cmp) (keys : List K) : Std.ExtTreeMap K V cmp :=
  keys.foldl (fun m key => m.erase key) m

/-- Change the entries under the keys of a list, first to last, where there are any. -/
def updateAll {U : Type w} (update : U → V → V) (m : Std.ExtTreeMap K V cmp)
    (updates : List (K × U)) : Std.ExtTreeMap K V cmp :=
  updates.foldl (fun m entry => m.alter entry.1 (Option.map (update entry.2))) m

@[simp] theorem insertAll_nil (m : Std.ExtTreeMap K V cmp) : m.insertAll [] = m := rfl

@[simp] theorem insertAll_cons (m : Std.ExtTreeMap K V cmp) (entry : K × V)
    (entries : List (K × V)) :
    m.insertAll (entry :: entries) = (m.insert entry.1 entry.2).insertAll entries := rfl

@[simp] theorem eraseAll_nil (m : Std.ExtTreeMap K V cmp) : m.eraseAll [] = m := rfl

@[simp] theorem eraseAll_cons (m : Std.ExtTreeMap K V cmp) (key : K) (keys : List K) :
    m.eraseAll (key :: keys) = (m.erase key).eraseAll keys := rfl

theorem mem_of_getElem? {m : Std.ExtTreeMap K V cmp} {k : K} {v : V} (h : m[k]? = some v) :
    k ∈ m := by
  rw [mem_iff_isSome_getElem?, h]
  rfl

theorem notMem_of_getElem? {m : Std.ExtTreeMap K V cmp} {k : K} (h : m[k]? = none) : k ∉ m := by
  rw [mem_iff_isSome_getElem?, h]
  exact Bool.false_ne_true

theorem exists_getElem?_of_mem {m : Std.ExtTreeMap K V cmp} {k : K} (h : k ∈ m) :
    ∃ v, m[k]? = some v :=
  Option.isSome_iff_exists.mp (mem_iff_isSome_getElem?.mp h)

variable [Std.LawfulEqCmp cmp]

theorem mem_insert_iff {m : Std.ExtTreeMap K V cmp} {k a : K} {v : V} :
    a ∈ m.insert k v ↔ a ∈ m ∨ a = k := by
  rw [mem_insert, LawfulEqCmp.compare_eq_iff_eq, or_comm, eq_comm]

theorem mem_insertIfNew_iff {m : Std.ExtTreeMap K V cmp} {k a : K} {v : V} :
    a ∈ m.insertIfNew k v ↔ a ∈ m ∨ a = k := by
  rw [mem_insertIfNew, LawfulEqCmp.compare_eq_iff_eq, or_comm, eq_comm]

theorem mem_erase_iff {m : Std.ExtTreeMap K V cmp} {k a : K} :
    a ∈ m.erase k ↔ a ∈ m ∧ a ≠ k := by
  rw [mem_erase, ne_eq, LawfulEqCmp.compare_eq_iff_eq, and_comm, eq_comm]

/-- The lookup law of `insert`, with the key test as a propositional equality. -/
theorem getElem?_insert_of_eq [DecidableEq K] (m : Std.ExtTreeMap K V cmp) (k a : K) (v : V) :
    (m.insert k v)[a]? = if k = a then some v else m[a]? := by
  simp [getElem?_insert]

/-- The lookup law of `erase`, with the key test as a propositional equality. -/
theorem getElem?_erase_of_eq [DecidableEq K] (m : Std.ExtTreeMap K V cmp) (k a : K) :
    (m.erase k)[a]? = if k = a then none else m[a]? := by
  simp [getElem?_erase]

/-- The lookup law of `insertIfNew`, with the key test as a propositional equality. -/
theorem getElem?_insertIfNew_of_eq [DecidableEq K] (m : Std.ExtTreeMap K V cmp) (k a : K)
    (v : V) : (m.insertIfNew k v)[a]? = if k = a ∧ k ∉ m then some v else m[a]? := by
  simp [getElem?_insertIfNew]

theorem getElem?_insertAll_of_notMem (m : Std.ExtTreeMap K V cmp) (entries : List (K × V))
    {a : K} (ha : a ∉ entries.map Prod.fst) : (m.insertAll entries)[a]? = m[a]? := by
  classical
  induction entries generalizing m with
  | nil => rfl
  | cons entry rest ih =>
      simp only [List.map_cons, List.mem_cons, not_or] at ha
      rw [insertAll_cons, ih _ ha.2, getElem?_insert_of_eq, if_neg (Ne.symm ha.1)]

theorem mem_insertAll (m : Std.ExtTreeMap K V cmp) (entries : List (K × V)) (a : K) :
    a ∈ m.insertAll entries ↔ a ∈ m ∨ a ∈ entries.map Prod.fst := by
  induction entries generalizing m with
  | nil => simp
  | cons entry rest ih =>
      rw [insertAll_cons, ih, mem_insert_iff, List.map_cons, List.mem_cons, or_assoc]

theorem getElem?_eraseAll [DecidableEq K] (m : Std.ExtTreeMap K V cmp) (keys : List K) (a : K) :
    (m.eraseAll keys)[a]? = if a ∈ keys then none else m[a]? := by
  induction keys generalizing m with
  | nil => simp
  | cons key rest ih =>
      rw [eraseAll_cons, ih, getElem?_erase_of_eq]
      by_cases hrest : a ∈ rest
      · simp [hrest]
      · by_cases heq : key = a
        · simp [heq]
        · simp [hrest, heq, Ne.symm heq]

theorem mem_eraseAll (m : Std.ExtTreeMap K V cmp) (keys : List K) (a : K) :
    a ∈ m.eraseAll keys ↔ a ∈ m ∧ a ∉ keys := by
  classical
  simp only [mem_iff_isSome_getElem?, getElem?_eraseAll]
  by_cases h : a ∈ keys <;> simp [h]

theorem mem_foldl_insertIfNew (m : Std.ExtTreeMap K V cmp) (keys : List K) (v : V) (a : K) :
    a ∈ keys.foldl (fun m key => m.insertIfNew key v) m ↔ a ∈ m ∨ a ∈ keys := by
  induction keys generalizing m with
  | nil => simp
  | cons key rest ih => rw [List.foldl_cons, ih, mem_insertIfNew_iff, List.mem_cons, or_assoc]

theorem getElem?_foldl_insertIfNew [DecidableEq K] (m : Std.ExtTreeMap K V cmp) (keys : List K)
    (v : V) (a : K) :
    (keys.foldl (fun m k => m.insertIfNew k v) m)[a]? =
      m[a]?.or (if a ∈ keys then some v else none) := by
  induction keys generalizing m with
  | nil => simp
  | cons key rest ih =>
      rw [List.foldl_cons, ih, getElem?_insertIfNew]
      by_cases heq : key = a
      · subst heq
        cases hk : m[key]? with
        | none => simp [notMem_of_getElem? hk]
        | some old => simp [mem_of_getElem? hk]
      · simp [heq, Ne.symm heq]

/-- A missing entry reads as the default either way. -/
theorem getD_insertIfNew_default (m : Std.ExtTreeMap K V cmp) (k a : K) (v : V) :
    (m.insertIfNew k v).getD a v = m.getD a v := by
  rw [getD_insertIfNew]
  split
  next h =>
    rw [getD_eq_fallback]
    rw [← LawfulEqCmp.compare_eq_iff_eq.mp h.1]
    exact h.2
  next => rfl

/-- Changing an entry that is there is inserting its new value. -/
theorem alter_map_of_getElem? (m : Std.ExtTreeMap K V cmp) {k : K} {v : V} (hk : m[k]? = some v)
    (f : V → V) : m.alter k (Option.map f) = m.insert k (f v) := by
  classical
  apply ext_getElem?
  intro a
  rw [getElem?_alter, getElem?_insert]
  split
  · rw [hk, Option.map_some]
  · rfl

/-- An entry undergoes the updates of its own key, in order. -/
theorem getElem?_updateAll [DecidableEq K] {U : Type w} (update : U → V → V)
    (m : Std.ExtTreeMap K V cmp) (updates : List (K × U)) (a : K) :
    (m.updateAll update updates)[a]? =
      m[a]?.map fun v => (updates.filter (·.1 = a)).foldl (fun v entry => update entry.2 v) v := by
  induction updates generalizing m with
  | nil => simp [updateAll]
  | cons entry rest ih =>
      have hstep : m.updateAll update (entry :: rest) =
          (m.alter entry.1 (Option.map (update entry.2))).updateAll update rest := rfl
      rw [hstep, ih, getElem?_alter]
      by_cases heq : entry.1 = a
      · subst heq
        simp [Function.comp_def]
      · simp [heq]

/-- Where an update leaves nothing of the one before, only the last one counts. -/
theorem foldl_update_of_overwrites {U : Type w} {update : U → V → V}
    (h : ∀ u u' v, update u (update u' v) = update u v) (updates : List U) (v : V) :
    updates.foldl (fun v u => update u v) v = updates.getLast?.elim v fun u => update u v := by
  induction updates generalizing v with
  | nil => rfl
  | cons first rest ih =>
      rw [List.foldl_cons, ih, List.getLast?_cons]
      cases rest.getLast? with
      | none => rfl
      | some last => exact h last first v

theorem mem_updateAll {U : Type w} (update : U → V → V) (m : Std.ExtTreeMap K V cmp)
    (updates : List (K × U)) (a : K) : a ∈ m.updateAll update updates ↔ a ∈ m := by
  classical
  rw [mem_iff_isSome_getElem?, getElem?_updateAll, Option.isSome_map, ← mem_iff_isSome_getElem?]

/-- Erasing what was inserted under fresh keys restores the map. -/
theorem eraseAll_insertAll (m : Std.ExtTreeMap K V cmp) (entries : List (K × V)) {keys : List K}
    (hfresh : ∀ key ∈ keys, key ∉ m) (hkeys : ∀ entry ∈ entries, entry.1 ∈ keys) :
    (m.insertAll entries).eraseAll keys = m := by
  classical
  apply ext_getElem?
  intro a
  rw [getElem?_eraseAll]
  split
  next ha =>
    exact (getElem?_eq_none (hfresh a ha)).symm
  next ha =>
    apply getElem?_insertAll_of_notMem
    intro hmem
    obtain ⟨entry, hentry, rfl⟩ := List.mem_map.mp hmem
    exact ha (hkeys entry hentry)

theorem nodup_toList (m : Std.ExtTreeMap K V cmp) : m.toList.Nodup := by
  refine (distinct_keys_toList (t := m)).imp ?_
  rintro ⟨a, v⟩ ⟨b, w⟩ hne heq
  cases heq
  exact hne ReflCmp.compare_self

/-- The list of entries is the one list of them in the order of the keys. -/
theorem toList_eq_of_ordered {m : Std.ExtTreeMap K V cmp} {entries : List (K × V)}
    (hordered : entries.Pairwise fun a b => cmp a.1 b.1 = .lt)
    (hentries : ∀ k v, (k, v) ∈ entries ↔ m[k]? = some v) : m.toList = entries := by
  have hirrefl : Std.Irrefl fun a b : K × V => cmp a.1 b.1 = .lt := by
    refine ⟨fun a h => ?_⟩
    have hself : cmp a.1 a.1 = .eq := ReflCmp.compare_self
    exact absurd (hself.symm.trans h) (by decide)
  have hantisymm : Std.Antisymm fun a b : K × V => cmp a.1 b.1 = .lt := by
    refine ⟨fun a b h h' => ?_⟩
    have hswap : cmp a.1 b.1 = (cmp b.1 a.1).swap := OrientedCmp.eq_swap
    rw [h, h'] at hswap
    cases hswap
  refine ordered_keys_toList.eq_of_mem_iff hordered ?_
  rintro ⟨k, v⟩
  rw [mem_toList_iff_getElem?_eq_some, hentries]

/-- One present key contributes exactly its entry to the list of entries. -/
theorem toList_perm_cons_erase (m : Std.ExtTreeMap K V cmp) {k : K} {v : V}
    (hk : m[k]? = some v) : m.toList.Perm ((k, v) :: (m.erase k).toList) := by
  classical
  have hnot : (k, v) ∉ (m.erase k).toList := by
    rw [mem_toList_iff_getElem?_eq_some, getElem?_erase_of_eq]
    simp
  refine (List.perm_ext_iff_of_nodup (nodup_toList m)
    (List.nodup_cons.mpr ⟨hnot, nodup_toList _⟩)).mpr ?_
  rintro ⟨a, w⟩
  rw [List.mem_cons, mem_toList_iff_getElem?_eq_some, mem_toList_iff_getElem?_eq_some,
    getElem?_erase_of_eq]
  by_cases heq : k = a
  · subst heq
    simp [hk, eq_comm]
  · simp [heq, Ne.symm heq]

theorem erase_insert_self (m : Std.ExtTreeMap K V cmp) (k : K) (v : V) :
    (m.insert k v).erase k = m.erase k := by
  classical
  apply ext_getElem?
  intro a
  rw [getElem?_erase_of_eq, getElem?_erase_of_eq, getElem?_insert_of_eq]
  split <;> rfl

theorem erase_of_notMem (m : Std.ExtTreeMap K V cmp) {k : K} (hk : k ∉ m) : m.erase k = m := by
  classical
  apply ext_getElem?
  intro a
  rw [getElem?_erase_of_eq]
  split
  next heq =>
    subst heq
    exact (getElem?_eq_none hk).symm
  next => rfl

/-! An operation that changes nothing. -/

theorem erase_eq_self_iff (m : Std.ExtTreeMap K V cmp) (k : K) : m.erase k = m ↔ k ∉ m := by
  constructor
  · intro h hmem
    rw [← h] at hmem
    exact (mem_erase_iff.mp hmem).2 rfl
  · exact erase_of_notMem m

theorem insert_eq_self_iff (m : Std.ExtTreeMap K V cmp) (k : K) (v : V) :
    m.insert k v = m ↔ m[k]? = some v := by
  classical
  constructor
  · intro h
    rw [← h]
    exact getElem?_insert_self
  · intro h
    apply ext_getElem?
    intro a
    rw [getElem?_insert_of_eq]
    split
    next heq => rw [← heq, h]
    next => rfl

theorem insertIfNew_eq_self_iff (m : Std.ExtTreeMap K V cmp) (k : K) (v : V) :
    m.insertIfNew k v = m ↔ k ∈ m := by
  classical
  constructor
  · intro h
    rw [← h]
    exact mem_insertIfNew_self
  · intro h
    apply ext_getElem?
    intro a
    rw [getElem?_insertIfNew, if_neg]
    exact fun hnew => hnew.2 h

theorem foldl_insertIfNew_eq_self_iff (m : Std.ExtTreeMap K V cmp) (keys : List K) (v : V) :
    keys.foldl (fun m key => m.insertIfNew key v) m = m ↔ ∀ key ∈ keys, key ∈ m := by
  constructor
  · intro h key hkey
    rw [← h, mem_foldl_insertIfNew]
    exact .inr hkey
  · intro h
    induction keys with
    | nil => rfl
    | cons key rest ih =>
        rw [List.foldl_cons, (insertIfNew_eq_self_iff m key v).mpr (h key List.mem_cons_self)]
        exact ih fun other hother => h other (List.mem_cons_of_mem _ hother)

theorem erase_insertIfNew_self (m : Std.ExtTreeMap K V cmp) (k : K) (v : V) :
    (m.insertIfNew k v).erase k = m.erase k := by
  classical
  apply ext_getElem?
  intro a
  rw [getElem?_erase_of_eq, getElem?_erase_of_eq]
  split
  next => rfl
  next hne =>
    rw [getElem?_insertIfNew, if_neg]
    exact fun hnew => hne (LawfulEqCmp.compare_eq_iff_eq.mp hnew.1)

/-- Erasing keys that are there changes the map, unless there are none. -/
theorem eraseAll_eq_self_iff (m : Std.ExtTreeMap K V cmp) {keys : List K}
    (hkeys : ∀ key ∈ keys, key ∈ m) : m.eraseAll keys = m ↔ keys = [] := by
  constructor
  · intro h
    by_contra hne
    obtain ⟨key, hkey⟩ := List.exists_mem_of_ne_nil keys hne
    have hmem := hkeys key hkey
    rw [← h, mem_eraseAll] at hmem
    exact hmem.2 hkey
  · rintro rfl
    rfl

/-- Updating the entry of one key changes only that key's contribution. -/
theorem toList_insert_perm (m : Std.ExtTreeMap K V cmp) (k : K) (v : V) :
    (m.insert k v).toList.Perm ((k, v) :: (m.erase k).toList) := by
  have h := toList_perm_cons_erase (m.insert k v) (k := k) (v := v) (by simp)
  rwa [erase_insert_self] at h

end Std.ExtTreeMap

namespace Std.ExtTreeSet

universe u

variable {K : Type u} {cmp : K → K → Ordering} [Std.TransCmp cmp] [Std.LawfulEqCmp cmp]

theorem mem_insert_iff {m : Std.ExtTreeSet K cmp} {k a : K} : a ∈ m.insert k ↔ a ∈ m ∨ a = k := by
  rw [mem_insert, LawfulEqCmp.compare_eq_iff_eq, or_comm, eq_comm]

theorem mem_erase_iff {m : Std.ExtTreeSet K cmp} {k a : K} : a ∈ m.erase k ↔ a ∈ m ∧ a ≠ k := by
  rw [mem_erase, ne_eq, LawfulEqCmp.compare_eq_iff_eq, and_comm, eq_comm]

theorem nodup_toList (m : Std.ExtTreeSet K cmp) : m.toList.Nodup := by
  refine (distinct_toList (t := m)).imp ?_
  rintro a b hne rfl
  exact hne ReflCmp.compare_self

end Std.ExtTreeSet
