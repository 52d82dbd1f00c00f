import LgeHardware.Foundation.BoundedQueue
import LgeHardware.Foundation.Run
import LgeHardware.Camera.Types

/-! # Result metadata through the result metadata queue

`invokeProcessCaptureResultCallback` moves metadata from the results into a queue of
bytes where it fits, and the client reads it back guided by the sizes in the results.
Writer and reader share no other framing: the blobs in the queue are those of the
unread items with a size, in order.
-/

namespace LgeHardware.Camera

open LgeHardware.Foundation

abbrev ResultMetadataQueue := BoundedQueue UInt8

/-- Write a packet to the queue: the size to announce and what stays inline. -/
def writeMetadata (queue : ResultMetadataQueue) (metadata : Blob) :
    (Nat × Blob) × ResultMetadataQueue :=
  match queue.write metadata with
  | some queue => ((metadata.length, []), queue)
  | none => ((0, metadata), queue)

/-- The inner loop over the metadata of physical cameras. -/
def writePhysicalMetadata (queue : ResultMetadataQueue) :
    List PhysicalCameraMetadata → List PhysicalCameraMetadata × ResultMetadataQueue
  | [] => ([], queue)
  | onePhysMetadata :: rest =>
      let ((size, metadata), queue) := writeMetadata queue onePhysMetadata.metadata
      let (rest, queue) := writePhysicalMetadata queue rest
      ({ onePhysMetadata with fmqMetadataSize := size, metadata } :: rest, queue)

/-- The outer loop over the results. -/
def writeResults (queue : ResultMetadataQueue) :
    List CaptureResult → List CaptureResult × ResultMetadataQueue
  | [] => ([], queue)
  | result :: rest =>
      let (result, queue) :=
        if 0 < result.result.length then
          let ((size, metadata), queue) := writeMetadata queue result.result
          ({ result with fmqResultSize := size, result := metadata }, queue)
        else (result, queue)
      let (physicalCameraMetadata, queue) :=
        writePhysicalMetadata queue result.physicalCameraMetadata
      let (rest, queue) := writeResults queue rest
      ({ result with physicalCameraMetadata } :: rest, queue)

/-- The results as the callback gets them. -/
def invokeProcessCaptureResultCallback (queue : ResultMetadataQueue)
    (results : List CaptureResult) (tryWriteFmq : Bool) :
    List CaptureResult × ResultMetadataQueue :=
  if tryWriteFmq ∧ 0 < queue.availableToWrite then writeResults queue results
  else (results, queue)

/-! ## The client -/

/-- The place of a packet: a frame, and the physical camera if it is not the logical one. -/
abbrev PacketPlace := Nat × Option String

/-- A packet announced to the client. -/
structure PacketItem where
  place : PacketPlace
  fmqSize : Nat
  inlined : Blob
  deriving DecidableEq

def CaptureResult.packetItems (result : CaptureResult) : List PacketItem :=
  ⟨(result.frameNumber, none), result.fmqResultSize, result.result⟩ ::
    result.physicalCameraMetadata.map fun onePhysMetadata =>
      ⟨(result.frameNumber, some onePhysMetadata.physicalCameraId),
        onePhysMetadata.fmqMetadataSize, onePhysMetadata.metadata⟩

/-- The packets of a result before any of them is moved to the queue. -/
def CaptureResult.packets (result : CaptureResult) : List (PacketPlace × Blob) :=
  ((result.frameNumber, none), result.result) ::
    result.physicalCameraMetadata.map fun onePhysMetadata =>
      ((result.frameNumber, some onePhysMetadata.physicalCameraId), onePhysMetadata.metadata)

structure QueueState where
  queue : ResultMetadataQueue
  /-- The packets announced by callbacks and not yet read. -/
  inbox : List PacketItem := []
  recovered : List (PacketPlace × Blob) := []
  /-- The original packets of all calls so far. -/
  sent : List (PacketPlace × Blob) := []
  /-- A read of the client has failed. -/
  failed : Bool := false

inductive QueueOp
  | invokeProcessCaptureResultCallback (results : List CaptureResult) (tryWriteFmq : Bool)
  /-- The client reads the next packet. -/
  | readNext

namespace QueueState

def initial (capacity : Nat) : QueueState := { queue := .empty capacity }

/-- A packet is read from the queue if its size says so, else taken from the result. -/
def readNext (s : QueueState) : QueueState :=
  match s.inbox with
  | [] => s
  | item :: rest =>
      if 0 < item.fmqSize then
        match s.queue.read item.fmqSize with
        | some (metadata, queue) =>
            { s with queue, inbox := rest, recovered := s.recovered ++ [(item.place, metadata)] }
        | none => { s with failed := true }
      else { s with inbox := rest, recovered := s.recovered ++ [(item.place, item.inlined)] }

def next (s : QueueState) : QueueOp → QueueState
  | .invokeProcessCaptureResultCallback results tryWriteFmq =>
      let (delivered, queue) :=
        Camera.invokeProcessCaptureResultCallback s.queue results tryWriteFmq
      { s with
        queue
        inbox := s.inbox ++ delivered.flatMap (·.packetItems)
        sent := s.sent ++ results.flatMap (·.packets) }
  | .readNext => s.readNext

/-- The client reads all that has been announced. -/
def drain (s : QueueState) : QueueState :=
  run next s (List.replicate s.inbox.length .readNext)

/-- Results are given with no packet in the queue yet. -/
def SizesZero : QueueOp → Prop
  | .invokeProcessCaptureResultCallback results _ =>
      ∀ result ∈ results, result.fmqResultSize = 0 ∧
        ∀ onePhysMetadata ∈ result.physicalCameraMetadata, onePhysMetadata.fmqMetadataSize = 0
  | .readNext => True

instance (op : QueueOp) : Decidable (SizesZero op) := by
  cases op <;> unfold SizesZero <;> infer_instance

end QueueState

/-! ## What a call moves to the queue -/

/-- An announced packet stands for an original one: the queue holds it if a size is
announced, else it is inline. -/
structure Announces (item : PacketItem) (packet : PacketPlace × Blob) : Prop where
  place : item.place = packet.1
  queued : 0 < item.fmqSize → item.fmqSize = packet.2.length
  inlined : item.fmqSize = 0 → item.inlined = packet.2

/-- The packets that travel in the queue. -/
def queuedPackets (pairs : List (PacketItem × (PacketPlace × Blob))) : List Blob :=
  (pairs.filter fun pair => 0 < pair.1.fmqSize).map fun pair => pair.2.2

@[simp] theorem queuedPackets_append (first second : List (PacketItem × (PacketPlace × Blob))) :
    queuedPackets (first ++ second) = queuedPackets first ++ queuedPackets second := by
  simp [queuedPackets]

/-- A call announces the given packets and appends to the queue those with a size. -/
structure Transfer (queue queue' : ResultMetadataQueue) (items : List PacketItem)
    (packets : List (PacketPlace × Blob)) : Prop where
  moves : ∃ pairs : List (PacketItem × (PacketPlace × Blob)),
    items = pairs.map Prod.fst ∧ packets = pairs.map Prod.snd ∧
      (∀ pair ∈ pairs, Announces pair.1 pair.2) ∧
      ∀ blobs, queue.Holds blobs → queue'.Holds (blobs ++ queuedPackets pairs)

theorem Transfer.nil (queue : ResultMetadataQueue) : Transfer queue queue [] [] :=
  ⟨[], rfl, rfl, by simp, fun _ h => by simpa [queuedPackets] using h⟩

theorem Transfer.append {queue queue' queue'' : ResultMetadataQueue}
    {items items' : List PacketItem} {packets packets' : List (PacketPlace × Blob)}
    (hfirst : Transfer queue queue' items packets)
    (hsecond : Transfer queue' queue'' items' packets') :
    Transfer queue queue'' (items ++ items') (packets ++ packets') := by
  obtain ⟨first, rfl, rfl, hannounces, hholds⟩ := hfirst.moves
  obtain ⟨second, rfl, rfl, hannounces', hholds'⟩ := hsecond.moves
  refine ⟨first ++ second, by simp, by simp, ?_, ?_⟩
  · intro pair hmem
    rcases List.mem_append.mp hmem with hmem | hmem
    · exact hannounces pair hmem
    · exact hannounces' pair hmem
  · intro blobs h
    rw [queuedPackets_append, ← List.append_assoc]
    exact hholds' _ (hholds blobs h)

/-- A packet that stays inline. -/
theorem Transfer.inline (queue : ResultMetadataQueue) (place : PacketPlace) (metadata : Blob) :
    Transfer queue queue [⟨place, 0, metadata⟩] [(place, metadata)] := by
  refine ⟨[(⟨place, 0, metadata⟩, (place, metadata))], rfl, rfl, ?_, ?_⟩
  · simp only [List.mem_singleton, forall_eq]
    exact ⟨rfl, fun h => absurd h (Nat.lt_irrefl 0), fun _ => rfl⟩
  · intro blobs h
    simpa [queuedPackets] using h

/-- A packet written to the queue, or kept inline where it does not fit. -/
theorem Transfer.writeMetadata (queue : ResultMetadataQueue) (place : PacketPlace)
    (metadata : Blob) :
    Transfer queue (writeMetadata queue metadata).2
      [⟨place, (writeMetadata queue metadata).1.1, (writeMetadata queue metadata).1.2⟩]
      [(place, metadata)] := by
  unfold Camera.writeMetadata
  cases hwrite : queue.write metadata with
  | none => exact Transfer.inline queue place metadata
  | some queue' =>
      refine ⟨[(⟨place, metadata.length, []⟩, (place, metadata))], rfl, rfl, ?_, ?_⟩
      · simp only [List.mem_singleton, forall_eq]
        exact ⟨rfl, fun _ => rfl, fun h => (List.length_eq_zero_iff.mp h).symm⟩
      · intro blobs h
        have hafter := h.write hwrite
        cases metadata with
        | nil =>
            -- an empty packet is announced as inline, and writing it changes nothing
            simpa [queuedPackets, BoundedQueue.Holds] using hafter
        | cons byte rest => simpa [queuedPackets] using hafter

theorem Transfer.writePhysicalMetadata (queue : ResultMetadataQueue) (frameNumber : Nat)
    (metadata : List PhysicalCameraMetadata) :
    Transfer queue (writePhysicalMetadata queue metadata).2
      ((writePhysicalMetadata queue metadata).1.map fun onePhysMetadata =>
        ⟨(frameNumber, some onePhysMetadata.physicalCameraId), onePhysMetadata.fmqMetadataSize,
          onePhysMetadata.metadata⟩)
      (metadata.map fun onePhysMetadata =>
        ((frameNumber, some onePhysMetadata.physicalCameraId), onePhysMetadata.metadata)) := by
  induction metadata generalizing queue with
  | nil => exact Transfer.nil queue
  | cons onePhysMetadata rest ih =>
      exact (Transfer.writeMetadata queue (frameNumber, some onePhysMetadata.physicalCameraId)
        onePhysMetadata.metadata).append (ih _)

theorem Transfer.writeResults (queue : ResultMetadataQueue) {results : List CaptureResult}
    (hzero : ∀ result ∈ results, result.fmqResultSize = 0) :
    Transfer queue (writeResults queue results).2
      ((writeResults queue results).1.flatMap (·.packetItems)) (results.flatMap (·.packets)) := by
  induction results generalizing queue with
  | nil => exact Transfer.nil queue
  | cons result rest ih =>
      have hrest := fun queue => ih queue fun r hmem => hzero r (List.mem_cons_of_mem _ hmem)
      rw [List.flatMap_cons]
      simp only [Camera.writeResults]
      by_cases hsize : 0 < result.result.length
      · simp only [hsize, if_true, List.flatMap_cons]
        exact ((Transfer.writeMetadata queue (result.frameNumber, none) result.result).append
          (Transfer.writePhysicalMetadata _ result.frameNumber
            result.physicalCameraMetadata)).append (hrest _)
      · simp only [hsize, if_false, List.flatMap_cons]
        have hinline := Transfer.inline queue (result.frameNumber, none) result.result
        rw [← hzero result List.mem_cons_self] at hinline
        exact (hinline.append (Transfer.writePhysicalMetadata _ result.frameNumber
          result.physicalCameraMetadata)).append (hrest _)

/-- Packets of results that are given with sizes zero stay inline when nothing is written. -/
theorem Transfer.keepResults (queue : ResultMetadataQueue) {results : List CaptureResult}
    (hzero : ∀ result ∈ results, result.fmqResultSize = 0 ∧
      ∀ onePhysMetadata ∈ result.physicalCameraMetadata, onePhysMetadata.fmqMetadataSize = 0) :
    Transfer queue queue (results.flatMap (·.packetItems)) (results.flatMap (·.packets)) := by
  induction results with
  | nil => exact Transfer.nil queue
  | cons result rest ih =>
      have hrest := ih fun r hmem => hzero r (List.mem_cons_of_mem _ hmem)
      obtain ⟨hresult, hphysical⟩ := hzero result List.mem_cons_self
      -- inline packets only: the queue is not touched
      have hphys : ∀ metadata : List PhysicalCameraMetadata,
          (∀ onePhysMetadata ∈ metadata, onePhysMetadata.fmqMetadataSize = 0) →
          Transfer queue queue
            (metadata.map fun onePhysMetadata =>
              ⟨(result.frameNumber, some onePhysMetadata.physicalCameraId),
                onePhysMetadata.fmqMetadataSize, onePhysMetadata.metadata⟩)
            (metadata.map fun onePhysMetadata =>
              ((result.frameNumber, some onePhysMetadata.physicalCameraId),
                onePhysMetadata.metadata)) := by
        intro metadata
        induction metadata with
        | nil => exact fun _ => Transfer.nil queue
        | cons onePhysMetadata others ih =>
            intro h
            have hone := Transfer.inline queue
              (result.frameNumber, some onePhysMetadata.physicalCameraId) onePhysMetadata.metadata
            rw [← h onePhysMetadata List.mem_cons_self] at hone
            exact hone.append (ih fun p hmem => h p (List.mem_cons_of_mem _ hmem))
      have hmain := Transfer.inline queue (result.frameNumber, none) result.result
      rw [← hresult] at hmain
      rw [List.flatMap_cons, List.flatMap_cons]
      exact (hmain.append (hphys _ hphysical)).append hrest

theorem Transfer.invokeProcessCaptureResultCallback (queue : ResultMetadataQueue)
    {results : List CaptureResult} {tryWriteFmq : Bool}
    (hzero : QueueState.SizesZero (.invokeProcessCaptureResultCallback results tryWriteFmq)) :
    Transfer queue (invokeProcessCaptureResultCallback queue results tryWriteFmq).2
      ((invokeProcessCaptureResultCallback queue results tryWriteFmq).1.flatMap (·.packetItems))
      (results.flatMap (·.packets)) := by
  unfold Camera.invokeProcessCaptureResultCallback
  split
  · exact Transfer.writeResults queue fun result hmem => (hzero result hmem).1
  · exact Transfer.keepResults queue hzero

/-! ## Runs -/

namespace QueueState

/-- What is still unread stands for the packets not yet recovered, and the queue holds
exactly those of them that travel in it. -/
structure QueueInv (s : QueueState) : Prop where
  running : s.failed = false
  unread : ∃ pairs : List (PacketItem × (PacketPlace × Blob)),
    s.inbox = pairs.map Prod.fst ∧ s.sent = s.recovered ++ pairs.map Prod.snd ∧
      (∀ pair ∈ pairs, Announces pair.1 pair.2) ∧ s.queue.Holds (queuedPackets pairs)

variable {s : QueueState}

/-- The client recovers the packet that is next, from the queue or from the message. -/
theorem QueueInv.readNext (hinv : s.QueueInv) :
    s.readNext.QueueInv ∧ s.readNext.inbox = s.inbox.tail ∧ s.readNext.sent = s.sent := by
  obtain ⟨pairs, hinbox, hsent, hannounces, hholds⟩ := hinv.unread
  cases pairs with
  | nil =>
      rw [List.map_nil] at hinbox
      simp only [QueueState.readNext, hinbox]
      exact ⟨hinv, rfl, trivial⟩
  | cons pair rest =>
      have hpair := hannounces pair List.mem_cons_self
      have hrest := fun p hmem => hannounces p (List.mem_cons_of_mem _ hmem)
      rw [List.map_cons] at hinbox
      simp only [QueueState.readNext, hinbox]
      -- the client reads the queue exactly when a size was announced
      by_cases hsize : 0 < pair.1.fmqSize
      · have hcons : queuedPackets (pair :: rest) = pair.2.2 :: queuedPackets rest := by
          simp [queuedPackets, hsize]
        rw [hcons] at hholds
        obtain ⟨queue, hread, hafter⟩ := hholds.read
        rw [← hpair.queued hsize] at hread
        simp only [hsize, if_true, hread]
        refine ⟨⟨hinv.running, rest, rfl, ?_, hrest, hafter⟩, rfl, trivial⟩
        simp [hsent, hpair.place]
      · have hzero : pair.1.fmqSize = 0 := Nat.eq_zero_of_not_pos hsize
        have hcons : queuedPackets (pair :: rest) = queuedPackets rest := by
          simp [queuedPackets, hzero]
        rw [hcons] at hholds
        simp only [hsize, if_false]
        refine ⟨⟨hinv.running, rest, rfl, ?_, hrest, hholds⟩, rfl, trivial⟩
        simp [hsent, hpair.place, hpair.inlined hzero]

/-- Every step keeps the invariant, where results are given with no packet in the queue yet. -/
theorem QueueInv.next (hinv : s.QueueInv) {op : QueueOp} (hop : SizesZero op) :
    (s.next op).QueueInv := by
  cases op with
  | readNext => exact hinv.readNext.1
  | invokeProcessCaptureResultCallback results tryWriteFmq =>
      obtain ⟨pairs, hinbox, hsent, hannounces, hholds⟩ := hinv.unread
      obtain ⟨added, hitems, hpackets, hadded, hmoved⟩ :=
        (Transfer.invokeProcessCaptureResultCallback s.queue hop).moves
      refine ⟨hinv.running, pairs ++ added, ?_, ?_, ?_, ?_⟩
      · simp only [QueueState.next, hinbox, hitems, List.map_append]
      · simp only [QueueState.next, hsent, hpackets, List.map_append, List.append_assoc]
      · intro pair hmem
        rcases List.mem_append.mp hmem with hmem | hmem
        · exact hannounces pair hmem
        · exact hadded pair hmem
      · rw [queuedPackets_append]
        exact hmoved _ hholds

/-- Reading as often as there are packets empties the inbox. -/
theorem QueueInv.readAll {n : Nat} (hinv : s.QueueInv) (hlength : s.inbox.length = n) :
    (run QueueState.next s (List.replicate n .readNext)).QueueInv ∧
      (run QueueState.next s (List.replicate n .readNext)).inbox = [] ∧
      (run QueueState.next s (List.replicate n .readNext)).sent = s.sent := by
  induction n generalizing s with
  | zero => exact ⟨hinv, List.eq_nil_of_length_eq_zero hlength, rfl⟩
  | succ n ih =>
      obtain ⟨hnext, hinbox, hsent⟩ := hinv.readNext
      have hshorter : s.readNext.inbox.length = n := by
        rw [hinbox, List.length_tail, hlength]
        rfl
      obtain ⟨hafter, hempty, hsame⟩ := ih hnext hshorter
      rw [List.replicate_succ, run_cons]
      exact ⟨hafter, hempty, hsame.trans hsent⟩

theorem queueInv_initial (capacity : Nat) : (initial capacity).QueueInv :=
  ⟨rfl, [], rfl, rfl, by simp, rfl⟩

/-- A client that reads along, at any pace, has recovered the first packets sent, and by
reading on recovers all of them and empties the queue. -/
theorem recovered_eq_sent (capacity : Nat) (ops : List QueueOp)
    (hops : Admits next (fun _ op => SizesZero op) (initial capacity) ops) :
    let s := run next (initial capacity) ops
    s.failed = false ∧ s.recovered <+: s.sent ∧
      s.drain.failed = false ∧ s.drain.recovered = s.sent ∧ s.drain.queue.items = [] := by
  have hinv := hops.invariant QueueInv (fun _ _ hinv hop => hinv.next hop)
    (queueInv_initial capacity)
  obtain ⟨pairs, -, hsent, -⟩ := hinv.unread
  obtain ⟨hdrained, hempty, hsame⟩ := hinv.readAll rfl
  obtain ⟨rest, hinbox, hrecovered, -, hholds⟩ := hdrained.unread
  have hnil : rest = [] := by
    rw [hempty] at hinbox
    exact List.map_eq_nil_iff.mp hinbox.symm
  subst hnil
  refine ⟨hinv.running, ⟨_, hsent.symm⟩, hdrained.running, ?_, BoundedQueue.Holds.nil_iff.mp hholds⟩
  rw [hsame, List.map_nil, List.append_nil] at hrecovered
  exact hrecovered.symm

/-- Two calls on a queue of three bytes: the second packet does not fit and goes inline,
and the client has read the first one before the second call. -/
def smallQueue : List QueueOp :=
  [.invokeProcessCaptureResultCallback
      [{ frameNumber := 1, result := [1, 2] }, { frameNumber := 2, result := [3, 4] }] true,
    .readNext,
    .invokeProcessCaptureResultCallback
      [{ frameNumber := 3, result := [5]
         physicalCameraMetadata := [{ physicalCameraId := "2", metadata := [6, 7] }] }] true]

theorem recovered_eq_sent_smallQueue :
    Admits next (fun _ op => SizesZero op) (initial 3) smallQueue ∧
      (run next (initial 3) smallQueue).drain.recovered =
        (run next (initial 3) smallQueue).sent := by
  have hops : Admits next (fun _ op => SizesZero op) (initial 3) smallQueue := by decide
  exact ⟨hops, (recovered_eq_sent 3 smallQueue hops).2.2.2.1⟩

end QueueState

end LgeHardware.Camera
