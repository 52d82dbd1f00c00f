import LgeHardware.Camera.ErrorFlush

/-! # Batches that were removed while a call waited

`getBatch` hands out a pointer to a batch, and the batch may have left the deque when
its own lock is taken. `mRemoved` says so: it is set exactly for the batches that are
not in the deque any more, and a section that finds it set leaves the batch alone and
sends its item to the framework directly.
-/

namespace LgeHardware.Camera

open LgeHardware.Foundation

namespace InflightBatch

theorem notifyShutter_of_removed {batch : InflightBatch} (h : batch.mRemoved = true)
    (msg : NotifyMsg) : batch.notifyShutter msg = (notifySingleMsg msg, batch) := if_pos h

theorem processCaptureResult_of_removed {batch : InflightBatch} (h : batch.mRemoved = true)
    (result : CaptureResult) :
    batch.processCaptureResult result = (processOneCaptureResult result, batch) := if_pos h

theorem notifyShutter_mRemoved (batch : InflightBatch) (msg : NotifyMsg) :
    (batch.notifyShutter msg).2.mRemoved = batch.mRemoved := by
  rw [notifyShutter_frame]

theorem processCaptureResult_mRemoved (batch : InflightBatch) (result : CaptureResult) :
    (batch.processCaptureResult result).2.mRemoved = batch.mRemoved := by
  rw [processCaptureResult_frame]

end InflightBatch

namespace PendingCall

/-- The number of the batch a call works on. -/
def target : PendingCall → Option Nat
  | .error _ batchIdx removedBefore => some (removedBefore + batchIdx)
  | .shutter _ batch | .result _ batch => some batch
  | .checkAndRemoveFirstBatch => none

/-- What the item of a call sends to the framework outside of all batches. -/
def sentDirectly : PendingCall → List Effect
  | .error msg .. | .shutter msg _ => notifySingleMsg msg
  | .result captureResult _ => processOneCaptureResult captureResult
  | .checkAndRemoveFirstBatch => []

end PendingCall

namespace ThreadState

/-- What the next section of a call sends to the framework. The destructor of a batch
runs when the last call that holds it is done, and is not part of a section. -/
def sectionEffects (s : ThreadState) : PendingCall → List Effect
  | .error msg batchIdx _ =>
      match s.batcher.flushBatches (batchIdx + 1) with
      | none => []
      | some (effects, _, _) => effects ++ notifySingleMsg msg
  | .shutter msg i =>
      match s.batches[i]? with
      | none => []
      | some batch => (batch.notifyShutter msg).1
  | .result result i =>
      match s.batches[i]? with
      | none => []
      | some batch => (batch.processCaptureResult result).1
  | .checkAndRemoveFirstBatch => []

/-! ## Sections that find their batch removed -/

/-- Writing back a batch that was not changed. -/
theorem setBatch_self {s : ThreadState} {i : Nat} {batch : InflightBatch}
    (h : s.batches[i]? = some batch) : s.setBatch i batch = s := by
  unfold setBatch
  split
  next hlt =>
    rw [batches, List.getElem?_append_left hlt] at h
    obtain ⟨hlt', rfl⟩ := List.getElem?_eq_some_iff.mp h
    rw [List.set_getElem_self]
  next hge =>
    rw [batches, List.getElem?_append_right (Nat.le_of_not_lt hge)] at h
    obtain ⟨hlt', rfl⟩ := List.getElem?_eq_some_iff.mp h
    rw [ResultBatcher.setBatch, List.set_getElem_self]

/-- A section that finds its batch removed changes nothing and sends its item up alone. -/
theorem runSection_of_removed {s : ThreadState} {call : PendingCall}
    (hcall : ∀ msg batchIdx removedBefore, call ≠ .error msg batchIdx removedBefore)
    {i : Nat} (htarget : call.target = some i) {batch : InflightBatch}
    (hbatch : s.batches[i]? = some batch) (hremoved : batch.mRemoved = true) :
    s.runSection call = s ∧ s.sectionEffects call = call.sentDirectly := by
  have hfinish : ∀ frameNumber, s.finishFrame batch frameNumber = s := by
    intro frameNumber
    rw [finishFrame, if_neg]
    rintro ⟨hnot, -⟩
    rw [hremoved] at hnot
    cases hnot
  cases call with
  | error msg batchIdx removedBefore => exact absurd rfl (hcall msg batchIdx removedBefore)
  | shutter msg number =>
      obtain rfl : number = i := Option.some.inj htarget
      simp only [runSection, sectionEffects, hbatch,
        InflightBatch.notifyShutter_of_removed hremoved, setBatch_self hbatch, hfinish, true_and]
      rfl
  | result result number =>
      obtain rfl : number = i := Option.some.inj htarget
      simp only [runSection, sectionEffects, hbatch,
        InflightBatch.processCaptureResult_of_removed hremoved, setBatch_self hbatch, hfinish,
        true_and]
      rfl
  | checkAndRemoveFirstBatch => cases htarget

/-! ## The flag and the deque -/

/-- `mRemoved` is set for the batches that left the deque and for no others, and every
call that waits has found a registered batch. -/
structure RemovedInv (s : ThreadState) : Prop where
  running : s.faulted = false
  removed : ∀ batch ∈ s.removed, batch.mRemoved = true
  inflight : ∀ batch ∈ s.batcher.mInflightBatches, batch.mRemoved = false
  found : ∀ call ∈ s.pending, ∀ i ∈ call.target, i < s.batches.length

/-- A batch is removed exactly if its number is below the number of removed ones. -/
theorem RemovedInv.mRemoved_iff {s : ThreadState} (hinv : s.RemovedInv) {i : Nat}
    {batch : InflightBatch} (h : s.batches[i]? = some batch) :
    batch.mRemoved = true ↔ i < s.removed.length := by
  rcases Nat.lt_or_ge i s.removed.length with hlt | hge
  · rw [batches, List.getElem?_append_left hlt] at h
    exact iff_of_true (hinv.removed batch (List.mem_of_getElem? h)) hlt
  · rw [batches, List.getElem?_append_right hge] at h
    have hfalse := hinv.inflight batch (List.mem_of_getElem? h)
    rw [hfalse]
    exact iff_of_false Bool.false_ne_true (Nat.not_lt_of_le hge)

theorem length_batches (s : ThreadState) : s.batches.length = s.ranges.length := by
  simp [ranges]

/-- Writing back a batch of the deque. -/
theorem RemovedInv.setBatch {s : ThreadState} (hinv : s.RemovedInv) {i : Nat}
    (hi : s.removed.length ≤ i) {after : InflightBatch} (hafter : after.mRemoved = false) :
    (s.setBatch i after).RemovedInv ∧ (s.setBatch i after).removed = s.removed := by
  unfold ThreadState.setBatch
  rw [if_neg (Nat.not_lt_of_le hi)]
  refine ⟨⟨hinv.running, hinv.removed, ?_, ?_⟩, rfl⟩
  · intro batch hmem
    rcases List.mem_or_eq_of_mem_set hmem with hold | rfl
    · exact hinv.inflight batch hold
    · exact hafter
  · intro call hmem number hnumber
    have hlt := hinv.found call hmem number hnumber
    simpa [batches, ResultBatcher.setBatch] using hlt

/-- At the end of a frame a removal may be put off, and nothing is removed yet. -/
theorem RemovedInv.finishFrame {s : ThreadState} (hinv : s.RemovedInv) (batch : InflightBatch)
    (frameNumber : Nat) :
    (s.finishFrame batch frameNumber).RemovedInv ∧
      (s.finishFrame batch frameNumber).removed = s.removed := by
  unfold ThreadState.finishFrame
  split
  · refine ⟨⟨hinv.running, hinv.removed, hinv.inflight, ?_⟩, rfl⟩
    intro call hmem number hnumber
    rcases List.mem_append.mp hmem with hold | hnew
    · exact hinv.found call hold number hnumber
    · rw [List.mem_singleton] at hnew
      subst hnew
      cases hnumber
  · exact ⟨hinv, rfl⟩

/-- Batches leave the deque at its head, with the flag set. -/
theorem RemovedInv.remove {s s' : ThreadState} (hinv : s.RemovedInv)
    {gone : List InflightBatch} (hremoved : s'.removed = s.removed ++ gone)
    (hgone : ∀ batch ∈ gone, batch.mRemoved = true)
    (hdeque : s'.batcher.mInflightBatches = s.batcher.mInflightBatches.drop gone.length)
    (hlength : gone.length ≤ s.batcher.mInflightBatches.length)
    (hpending : s'.pending = s.pending) (hrunning : s'.faulted = s.faulted) :
    s'.RemovedInv ∧ s.removed <+: s'.removed := by
  refine ⟨⟨hrunning.trans hinv.running, ?_, ?_, ?_⟩, hremoved ▸ List.prefix_append _ _⟩
  · intro batch hmem
    rw [hremoved] at hmem
    rcases List.mem_append.mp hmem with hold | hnew
    · exact hinv.removed batch hold
    · exact hgone batch hnew
  · intro batch hmem
    rw [hdeque] at hmem
    exact hinv.inflight batch (List.mem_of_mem_drop hmem)
  · intro call hmem number hnumber
    rw [hpending] at hmem
    have hlt := hinv.found call hmem number hnumber
    simp only [batches, List.length_append, hremoved, hdeque, List.length_drop] at hlt ⊢
    omega

/-- A section that writes back its batch and leaves the flag of it alone. If the batch is
removed, the section has nothing to write back. -/
theorem RemovedInv.writesBack {s : ThreadState} (hinv : s.RemovedInv) {call : PendingCall}
    (hcall : ∀ msg batchIdx removedBefore, call ≠ .error msg batchIdx removedBefore)
    {i : Nat} (htarget : call.target = some i) (hi : i < s.batches.length)
    (hsection : ∀ batch, s.batches[i]? = some batch →
      ∃ (after : InflightBatch) (frameNumber : Nat), after.mRemoved = batch.mRemoved ∧
        s.runSection call = (s.setBatch i after).finishFrame batch frameNumber) :
    (s.runSection call).RemovedInv ∧ s.removed <+: (s.runSection call).removed := by
  obtain ⟨batch, hbatch⟩ : ∃ batch, s.batches[i]? = some batch :=
    ⟨_, List.getElem?_eq_getElem hi⟩
  cases hflag : batch.mRemoved with
  | true =>
      rw [(runSection_of_removed hcall htarget hbatch hflag).1]
      exact ⟨hinv, List.prefix_rfl⟩
  | false =>
      have hnot : ¬ i < s.removed.length := by
        rw [← hinv.mRemoved_iff hbatch, hflag]
        exact Bool.false_ne_true
      obtain ⟨after, frameNumber, hafter, hrun⟩ := hsection batch hbatch
      obtain ⟨hset, hsame⟩ := hinv.setBatch (Nat.le_of_not_lt hnot) (hafter.trans hflag)
      obtain ⟨hfinish, hsame'⟩ := hset.finishFrame batch frameNumber
      rw [hrun]
      exact ⟨hfinish, hsame'.trans hsame ▸ List.prefix_rfl⟩

/-- A section that is not an error with an outdated position keeps the invariant, and
what was removed stays as it is. -/
theorem RemovedInv.runSection {s : ThreadState} (hinv : s.RemovedInv) {call : PendingCall}
    (hfound : ∀ i ∈ call.target, i < s.batches.length)
    (hupToDate : ∀ msg batchIdx removedBefore, call = .error msg batchIdx removedBefore →
      s.removed.length = removedBefore) :
    (s.runSection call).RemovedInv ∧ s.removed <+: (s.runSection call).removed := by
  cases call with
  | error msg batchIdx removedBefore =>
      have hnow := hupToDate msg batchIdx removedBefore rfl
      have hlt := hfound _ rfl
      have hlong : batchIdx + 1 ≤ s.batcher.mInflightBatches.length := by
        simp only [batches, List.length_append] at hlt
        omega
      obtain ⟨effects, removed, batcher, heq, rfl, rfl, -⟩ :=
        ResultBatcher.flushBatches_eq_some hlong
      simp only [ThreadState.runSection, heq]
      refine hinv.remove rfl ?_ ?_ ?_ rfl rfl
      · intro batch hmem
        obtain ⟨original, -, rfl⟩ := List.mem_map.mp hmem
        rfl
      · simp [hlong]
      · simp [hlong]
  | shutter msg i =>
      apply hinv.writesBack (fun _ _ _ h => by cases h) rfl (hfound i rfl)
      intro batch hbatch
      refine ⟨_, msg.frameNumber, batch.notifyShutter_mRemoved msg, ?_⟩
      simp only [ThreadState.runSection, hbatch]
  | result result i =>
      apply hinv.writesBack (fun _ _ _ h => by cases h) rfl (hfound i rfl)
      intro batch hbatch
      refine ⟨_, result.frameNumber, batch.processCaptureResult_mRemoved result, ?_⟩
      simp only [ThreadState.runSection, hbatch]
  | checkAndRemoveFirstBatch =>
      rcases s.batcher.checkAndRemoveFirstBatch_cases with heq | ⟨first, rest, hlist, -, heq⟩
      · simp only [ThreadState.runSection, heq, Option.toList_none, List.append_nil]
        exact ⟨hinv, List.prefix_rfl⟩
      · simp only [ThreadState.runSection, heq, Option.toList_some]
        apply hinv.remove rfl <;> simp [hlist]

/-- Every locked section that looks at a batch that is still there keeps the invariant, and the
batches that were removed stay as they are. -/
theorem RemovedInv.next {s : ThreadState} (hinv : s.RemovedInv) {op : ThreadOp}
    (hop : s.UpToDate op) : (s.next op).RemovedInv ∧ s.removed <+: (s.next op).removed := by
  have henter : ∀ call, (∀ i ∈ call.target, i < s.batches.length) →
      ({ s with pending := s.pending ++ [call] } : ThreadState).RemovedInv := by
    intro call hcall
    refine ⟨hinv.running, hinv.removed, hinv.inflight, ?_⟩
    intro other hmem number hnumber
    rcases List.mem_append.mp hmem with hold | hnew
    · exact hinv.found other hold number hnumber
    · rw [List.mem_singleton] at hnew
      subst hnew
      exact hcall number hnumber
  -- A batch that is found in the list has its number for good, since the batches that are removed
  -- stay in front of it.
  have hposition : ∀ {frameNumber i batch}, s.batcher.getBatch frameNumber = some (i, batch) →
      s.removed.length + i < s.batches.length := by
    intro frameNumber i batch hget
    have hlt := (List.getElem?_eq_some_iff.mp (ranges_of_getBatch hget).1).1
    rwa [length_batches]
  unfold ThreadState.next
  rw [if_neg (by simp [hinv.running])]
  cases op with
  | setBatchedStreams streamsToBatch =>
      exact ⟨⟨hinv.running, hinv.removed, hinv.inflight, hinv.found⟩, List.prefix_rfl⟩
  | registerBatch frameNumber batchSize =>
      refine ⟨⟨hinv.running, hinv.removed, ?_, ?_⟩, List.prefix_rfl⟩
      · intro batch hmem
        rcases List.mem_append.mp hmem with hold | hnew
        · exact hinv.inflight batch hold
        · rw [List.mem_singleton.mp hnew]
          rfl
      · intro call hmem number hnumber
        have hlt := hinv.found call hmem number hnumber
        simp only [batches, ResultBatcher.registerBatch, List.length_append] at hlt ⊢
        omega
  | notify msg =>
      dsimp only
      split
      next => exact ⟨hinv, List.prefix_rfl⟩
      next batchIdx batch hget =>
        refine ⟨henter _ ?_, List.prefix_rfl⟩
        cases msg with
        | shutter =>
            rintro i ⟨⟩
            exact hposition hget
        | error =>
            rintro i ⟨⟩
            exact hposition hget
  | processCaptureResult result =>
      dsimp only
      split
      next => exact ⟨hinv, List.prefix_rfl⟩
      next batchIdx batch hget =>
        refine ⟨henter _ ?_, List.prefix_rfl⟩
        rintro i ⟨⟩
        exact hposition hget
  | resume i =>
      dsimp only [UpToDate] at hop ⊢
      cases hcall : s.pending[i]? with
      | none => exact ⟨hinv, List.prefix_rfl⟩
      | some call =>
          rw [hcall] at hop
          have herased : ({ s with pending := s.pending.eraseIdx i } : ThreadState).RemovedInv :=
            ⟨hinv.running, hinv.removed, hinv.inflight,
              fun other hmem => hinv.found other (List.mem_of_mem_eraseIdx hmem)⟩
          apply herased.runSection (hinv.found call (List.mem_of_getElem? hcall))
          rintro msg batchIdx removedBefore rfl
          exact hop

theorem removedInv_initial (numPartialResults : Nat) : (initial numPartialResults).RemovedInv := by
  constructor <;> simp [initial]

/-- `mRemoved` is set exactly for the batches that left the deque, no step changes a batch
with the flag set, and a call that finds it set changes nothing and sends its item to the
framework directly. -/
structure LeavesRemovedAlone (s : ThreadState) : Prop where
  removed : ∀ batch ∈ s.removed, batch.mRemoved = true
  inflight : ∀ batch ∈ s.batcher.mInflightBatches, batch.mRemoved = false
  untouched : ∀ op, s.UpToDate op → ∀ (i : Nat) (batch : InflightBatch),
    s.batches[i]? = some batch → batch.mRemoved = true → (s.next op).batches[i]? = some batch
  direct : ∀ (i : Nat) call, s.pending[i]? = some call → s.UpToDate (.resume i) →
    ∀ number ∈ call.target, ∃ batch : InflightBatch, s.batches[number]? = some batch ∧
      (batch.mRemoved = true →
        s.next (.resume i) = { s with pending := s.pending.eraseIdx i } ∧
          s.sectionEffects call = call.sentDirectly)

/-- Batches that were removed are not written to. -/
theorem RemovedInv.leavesRemovedAlone {s : ThreadState} (hinv : s.RemovedInv) :
    s.LeavesRemovedAlone := by
  refine ⟨hinv.removed, hinv.inflight, ?_, ?_⟩
  · intro op hop i batch hbatch hflag
    have hlt := (hinv.mRemoved_iff hbatch).mp hflag
    rw [batches, List.getElem?_append_left hlt] at hbatch
    obtain ⟨more, hmore⟩ := (hinv.next hop).2
    rw [batches, ← hmore, List.append_assoc, List.getElem?_append_left hlt]
    exact hbatch
  · intro i call hcall hop number hnumber
    have hlt := hinv.found call (List.mem_of_getElem? hcall) number hnumber
    have hbatch := List.getElem?_eq_getElem hlt
    refine ⟨s.batches[number], hbatch, ?_⟩
    intro hflag
    have hnotError : ∀ msg batchIdx removedBefore, call ≠ .error msg batchIdx removedBefore := by
      rintro msg batchIdx removedBefore rfl
      -- the batch of an error that is not outdated is still in the deque
      simp only [UpToDate, hcall] at hop
      have hbelow := (hinv.mRemoved_iff hbatch).mp hflag
      obtain rfl : removedBefore + batchIdx = number := Option.some.inj hnumber
      omega
    obtain ⟨hsame, -⟩ := runSection_of_removed (s := { s with pending := s.pending.eraseIdx i })
      hnotError hnumber hbatch hflag
    obtain ⟨-, hdirect⟩ := runSection_of_removed hnotError hnumber hbatch hflag
    refine ⟨?_, hdirect⟩
    rw [ThreadState.next, if_neg (by simp [hinv.running])]
    simp only [hcall]
    exact hsame

/-- In every run in which an error takes the lock only while its position is current, the
batches that were removed are left alone. -/
theorem leavesRemovedAlone_run (numPartialResults : Nat) {ops : List ThreadOp}
    (hops : Admits next UpToDate (initial numPartialResults) ops) :
    (run next (initial numPartialResults) ops).LeavesRemovedAlone :=
  RemovedInv.leavesRemovedAlone
    (hops.invariant RemovedInv (fun _ _ hinv hop => (hinv.next hop).1)
      (removedInv_initial numPartialResults))

instance (s : ThreadState) (op : ThreadOp) : Decidable (s.UpToDate op) :=
  match op with
  | .setBatchedStreams _ | .registerBatch .. | .notify _ | .processCaptureResult _ => isTrue trivial
  | .resume i =>
      match h : s.pending[i]? with
      | some (.error _ _ removedBefore) =>
          decidable_of_iff (s.removed.length = removedBefore) (by simp only [UpToDate, h])
      | some (.shutter ..) | some (.result ..) | some .checkAndRemoveFirstBatch | none =>
          isTrue (by simp only [UpToDate, h])

/-- A shutter and a result for frame 1 have found their batch when an error for frame 2
flushes and removes it. -/
def errorOvertakes : List ThreadOp :=
  [.registerBatch 1 2, .notify (.shutter 1 0), .processCaptureResult
    { frameNumber := 1, partialResult := 1, inputBuffer := { streamId := -1 } },
    .notify (.error 2 (-1) .errorRequest), .resume 2]

theorem leavesRemovedAlone_run_errorOvertakes :
    Admits next UpToDate (initial 1) errorOvertakes ∧
      (run next (initial 1) errorOvertakes).LeavesRemovedAlone := by
  have hops : Admits next UpToDate (initial 1) errorOvertakes := by decide
  exact ⟨hops, leavesRemovedAlone_run 1 hops⟩

end ThreadState

end LgeHardware.Camera
