import LgeHardware.Foundation.Table

/-! # The waveform of the vibrator

`on` computes a waveform, splits it into buffers of 40 samples and sends every actuator all of
them, each in a packet with a header of three bytes. The amplifier is enabled after every fourth
packet.
-/

namespace LgeHardware.Haptics

open LgeHardware.Foundation

/-- `OUTPUT_BUFFER_SIZE`. -/
def outputBufferSize : Nat := 40

/-- What reaches the driver: the calls of `ioctl` with their results, and the packets. -/
inductive DriverEvent
  | disableAmp (index : Nat) (ret : Int32)
  | enableAmp (index : Nat) (ret : Int32)
  | write (output : List UInt8)
  deriving DecidableEq, Repr

/-- The driver: `SPI_HEADER_SIZE` of its header file, and the results of `TSPDRV_DISABLE_AMP` and
`TSPDRV_ENABLE_AMP` after what has reached it so far. -/
structure Driver where
  spiHeaderSize : Nat
  disableAmp : List DriverEvent → Nat → Int32
  enableAmp : List DriverEvent → Nat → Int32

/-- What `on` computes with floating point numbers: the number of samples for a timeout, and the
samples for an amplitude. `stack` is what an uninitialised buffer holds. -/
structure Waveform where
  bufferSize : Int32 → Nat
  sample : UInt8 → Nat → UInt8
  stack : Nat → UInt8

/-- The ways to end early: `EX_TRANSACTION_FAILED`, and an access that is out of bounds. -/
inductive Exit
  | transactionFailed
  | outOfBounds
  deriving DecidableEq, Repr

structure Vibrator where
  mNumActuators : Int32
  mCurrentAmplitude : UInt8
  deriving DecidableEq, Repr

abbrev DriverM := EStateM Exit (List DriverEvent)

def Driver.disable (driver : Driver) (index : Nat) : DriverM PUnit := do
  let log ← get
  let ret := driver.disableAmp log index
  modify (· ++ [.disableAmp index ret])
  if ret ≠ 0 then throw .transactionFailed

def Driver.enable (driver : Driver) (index : Nat) : DriverM PUnit := do
  let log ← get
  let ret := driver.enableAmp log index
  modify (· ++ [.enableAmp index ret])
  if ret ≠ 0 then throw .transactionFailed

/-- The first bytes of a packet: the index of the actuator as a byte, 8 and the size of the
buffer. -/
def writeHeader (output : Array UInt8) (index : Nat) : DriverM (Array UInt8) := do
  let output ← writeAt .outOfBounds output 0 (UInt8.ofNat index)
  let output ← writeAt .outOfBounds output 1 8
  writeAt .outOfBounds output 2 (UInt8.ofNat outputBufferSize)

namespace Vibrator

variable (v : Vibrator) (wave : Waveform) (driver : Driver)

/-- The turns of a loop over the actuators. -/
def actuators : Nat := v.mNumActuators.toNatClampNeg

def off : DriverM PUnit := loop v.actuators (fun i _ => driver.disable i) ⟨⟩

/-- The first loop of `on`, which computes the samples. -/
def fillFullBuffer (bufferSize : Nat) : DriverM (Array UInt8) :=
  loop bufferSize (fun i fullBuffer =>
    writeAt .outOfBounds fullBuffer i (wave.sample v.mCurrentAmplitude i))
    (tab bufferSize wave.stack)

end Vibrator

/-- The second loop of `on`, which splits the samples into buffers. -/
def splitIntoBuffers (bufferSize numBuffers : Nat) (fullBuffer : Array UInt8) :
    DriverM (Array (Array UInt8)) :=
  loop bufferSize (fun i outputBuffers => do
    let sample ← readAt .outOfBounds fullBuffer i
    let row ← readAt .outOfBounds outputBuffers (i / outputBufferSize)
    let row ← writeAt .outOfBounds row (i % outputBufferSize) sample
    writeAt .outOfBounds outputBuffers (i / outputBufferSize) row)
    (Array.replicate numBuffers (Array.replicate outputBufferSize 0))

/-- The packet for an actuator with the samples of a buffer. -/
def makeOutput (driver : Driver) (outputBuffers : Array (Array UInt8)) (i j : Nat) :
    DriverM (Array UInt8) := do
  let output ← writeHeader (Array.replicate (outputBufferSize + driver.spiHeaderSize) 0) i
  -- the turns are for `k` from 3 on
  loop outputBufferSize (fun turn output => do
    let k := turn + 3
    let row ← readAt .outOfBounds outputBuffers j
    let sample ← readAt .outOfBounds row (k - 3)
    writeAt .outOfBounds output k sample) output

namespace Vibrator

variable (v : Vibrator) (wave : Waveform) (driver : Driver)

/-- The last loops of `on`, which send the buffers. -/
def sendBuffers (numBuffers : Nat) (outputBuffers : Array (Array UInt8)) : DriverM PUnit :=
  loop v.actuators (fun i _ =>
    loop numBuffers (fun j _ => do
      let output ← makeOutput driver outputBuffers i j
      modify (· ++ [.write output.toList])
      if (j + 1) % 4 = 0 then driver.enable i) ⟨⟩) ⟨⟩

/-- `on`. The number of buffers is the quotient rounded up. -/
def on (timeoutMs : Int32) : DriverM PUnit := do
  let bufferSize := wave.bufferSize timeoutMs
  ignore (v.off driver)
  let fullBuffer ← v.fillFullBuffer wave bufferSize
  let numBuffers := (bufferSize + (outputBufferSize - 1)) / outputBufferSize
  let outputBuffers ← splitIntoBuffers bufferSize numBuffers fullBuffer
  v.sendBuffers driver numBuffers outputBuffers

end Vibrator

end LgeHardware.Haptics
