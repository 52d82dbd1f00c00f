import Mathlib.Data.List.Perm.Basic
import Mathlib.Data.List.Nodup
import Mathlib.Tactic.Common

/-! # Obligations of open jobs

A job is open from its admission until it is withdrawn, and each of its keys is to
be discharged once. A key is owed while an open job has it and nobody discharged
it. A book that follows admissions, discharges and withdrawals by these rules
holds the keys that are owed, and is empty once all open jobs are settled.
-/

namespace LgeHardware.Foundation

universe u v

variable {Job : Type u} {Key : Type v}

/-- An open job has the key, and it is not discharged. -/
def Owed (keys : Job → List Key) (jobs : List Job) (discharged : List Key) (key : Key) : Prop :=
  (∃ job ∈ jobs, key ∈ keys job) ∧ key ∉ discharged

instance [DecidableEq Key] (keys : Job → List Key) (jobs : List Job) (discharged : List Key)
    (key : Key) : Decidable (Owed keys jobs discharged key) :=
  inferInstanceAs (Decidable (_ ∧ _))

/-- Nothing is left to do for a job. -/
def Settled (keys : Job → List Key) (discharged : List Key) (job : Job) : Prop :=
  ∀ key ∈ keys job, key ∈ discharged

instance [DecidableEq Key] (keys : Job → List Key) (discharged : List Key) (job : Job) :
    Decidable (Settled keys discharged job) :=
  inferInstanceAs (Decidable (∀ key ∈ keys job, key ∈ discharged))

section

variable {keys : Job → List Key} {jobs : List Job} {discharged : List Key} {key : Key}

theorem owed_perm {jobs' : List Job} (hperm : jobs.Perm jobs') :
    Owed keys jobs discharged key ↔ Owed keys jobs' discharged key := by
  simp only [Owed, hperm.mem_iff]

/-- Admitting a job whose keys are new makes them owed. -/
theorem owed_cons {job : Job} (hfresh : ∀ key ∈ keys job, key ∉ discharged) :
    Owed keys (job :: jobs) discharged key ↔ Owed keys jobs discharged key ∨ key ∈ keys job := by
  constructor
  · rintro ⟨⟨other, hother, hkey⟩, hopen⟩
    rcases List.mem_cons.mp hother with rfl | hother
    · exact .inr hkey
    · exact .inl ⟨⟨other, hother, hkey⟩, hopen⟩
  · rintro (⟨⟨other, hother, hkey⟩, hopen⟩ | hkey)
    · exact ⟨⟨other, List.mem_cons_of_mem _ hother, hkey⟩, hopen⟩
    · exact ⟨⟨job, List.mem_cons_self, hkey⟩, hfresh key hkey⟩

/-- Discharging keys leaves the others owed. -/
theorem owed_discharge (done : List Key) :
    Owed keys jobs (done ++ discharged) key ↔ Owed keys jobs discharged key ∧ key ∉ done := by
  simp only [Owed, List.mem_append, not_or]
  exact ⟨fun ⟨hjob, hdone, hopen⟩ => ⟨⟨hjob, hopen⟩, hdone⟩,
    fun ⟨⟨hjob, hopen⟩, hdone⟩ => ⟨hjob, hdone, hopen⟩⟩

/-- Withdrawing a job that shares no key leaves the keys of the others owed. -/
theorem owed_withdraw {job : Job}
    (hdisjoint : ∀ other ∈ jobs, ∀ key ∈ keys other, key ∉ keys job) :
    Owed keys jobs discharged key ↔ Owed keys (job :: jobs) discharged key ∧ key ∉ keys job := by
  constructor
  · rintro ⟨⟨other, hother, hkey⟩, hopen⟩
    exact ⟨⟨⟨other, List.mem_cons_of_mem _ hother, hkey⟩, hopen⟩, hdisjoint other hother key hkey⟩
  · rintro ⟨⟨⟨other, hother, hkey⟩, hopen⟩, hnot⟩
    rcases List.mem_cons.mp hother with rfl | hother
    · exact absurd hkey hnot
    · exact ⟨⟨other, hother, hkey⟩, hopen⟩

theorem not_owed_of_settled (h : ∀ job ∈ jobs, Settled keys discharged job) :
    ¬Owed keys jobs discharged key := by
  rintro ⟨⟨job, hjob, hkey⟩, hopen⟩
  exact hopen (h job hjob key hkey)

end

end LgeHardware.Foundation
