import LgeHardware.Foundation.Literal
import LgeHardware.Camera.CameraDevice
import LgeHardware.Camera.ConfigureAtomicity

/-! # What a device asks the camera module

Apart from opening sessions, a `CameraDevice` answers questions about its camera with what the
camera module says. A question about a combination of streams describes the streams as a
configuration with them does, and a question about a physical camera reads its id as the C library
does.
-/

namespace LgeHardware.Camera

open LgeHardware.Foundation

/-! ## The camera module -/

/-- `CAMERA_MODULE_API_VERSION_2_4`. -/
def cameraModuleApiVersion24 : Nat := 0x204
/-- `CAMERA_MODULE_API_VERSION_2_5`. -/
def cameraModuleApiVersion25 : Nat := 0x205

/-- What the module says of itself. -/
structure CameraModule where
  getModuleApiVersion : Nat := cameraModuleApiVersion25
  isSetTorchModeSupported : Bool := true
  deriving DecidableEq, Repr

/-- `camera_info`, as far as a device reads it. -/
structure CameraInfo where
  resourceCost : Int := 0
  conflictingDevices : List String := []
  deriving DecidableEq, Repr

/-- `camera_stream_t`. -/
structure CameraStream where
  streamType : Int
  width : Int
  height : Int
  format : Int
  usage : Int
  dataSpace : Int
  rotation : Int
  physicalCameraId : String
  deriving DecidableEq, Repr

inductive ModuleCall
  | getCameraInfo (id : Int32)
  | getPhysicalCameraInfo (id : Int32)
  | isStreamCombinationSupported (id : Int32) (operationMode : UInt32)
      (streams : List CameraStream)
  | setTorchMode (cameraId : String) (on : Bool)
  deriving DecidableEq, Repr

/-- What a call of a device returns, and what it asks the module. The value is there where the call
sets it. -/
structure DeviceReply (Value : Type) where
  status : Status
  value : Option Value := none
  calls : List ModuleCall := []
  deriving DecidableEq, Repr

/-- The stream of a combination. -/
def Stream.toCameraStream (it : Stream) : CameraStream where
  streamType := it.streamType
  width := it.width
  height := it.height
  format := it.format
  dataSpace := it.dataSpace
  usage := uint32 it.usage
  physicalCameraId := it.physicalCameraId
  rotation := it.rotation

/-- The part of a configured stream that a stream of a combination has. -/
def Camera3Stream.toCameraStream (stream : Camera3Stream) : CameraStream where
  streamType := stream.streamType
  width := stream.width
  height := stream.height
  format := stream.format
  dataSpace := stream.dataSpace
  usage := stream.usage
  physicalCameraId := stream.physicalCameraId.getD ""
  rotation := stream.rotation

/-- `c_str()`, up to the null character that ends it for the C library. -/
def cString (s : String) : List Char := s.toList.takeWhile (· ≠ '\x00')

namespace CameraDevice

variable (d : CameraDevice)

def mCameraIdInt : Int32 := atoi d.mCameraId

/-- The value that `strtol` clamps to the range of `long` is out of the range of `int` before and
after. -/
def getPhysicalCameraCharacteristics (module : CameraModule) (physicalCameraId : String)
    (ret : Int) (physicalInfo : Option Blob) : DeviceReply Blob :=
  if d.initStatus ≠ .ok then { status := d.initStatus }
  else if module.getModuleApiVersion < cameraModuleApiVersion25 then { status := .internalError }
  else
    let (id, rest) := strtol (cString physicalCameraId)
    if id > 2147483647 ∨ id < -2147483648 ∨ rest ≠ [] then { status := .illegalArgument }
    else
      let calls := [.getPhysicalCameraInfo (Int32.ofInt id)]
      if ret = statusOk then { status := .ok, value := physicalInfo, calls }
      else if ret = badValue then { status := .illegalArgument, calls }
      else { status := .internalError, calls }

/-- `getResourceCost`, with the table of device names that the provider keeps. -/
def getResourceCost (module : CameraModule) (mCameraDeviceNames : List (String × String))
    (ret : Int) (info : CameraInfo) : DeviceReply (Int × List String) :=
  if d.initStatus ≠ .ok then { status := d.initStatus }
  else if module.getModuleApiVersion < cameraModuleApiVersion24 then
    { status := .ok, value := some (100, []) }
  else
    let calls := [.getCameraInfo d.mCameraIdInt]
    if ret ≠ statusOk then { status := .internalError, calls }
    else
      let conflictingDevices := info.conflictingDevices.flatMap fun cameraId =>
        (mCameraDeviceNames.filter (·.1 = cameraId)).map Prod.snd
      { status := .ok, value := some (info.resourceCost, conflictingDevices), calls }

/-- The status of the device is not looked at. -/
def isStreamCombinationSupported (module : CameraModule) (streams : StreamConfiguration)
    (res : Int) : DeviceReply Bool :=
  if module.getModuleApiVersion < cameraModuleApiVersion25 then
    { status := .internalError, value := some false }
  else
    let calls := [.isStreamCombinationSupported d.mCameraIdInt
      (UInt32.ofInt streams.operationMode) (streams.streams.map Stream.toCameraStream)]
    if res = statusOk then { status := .ok, value := some true, calls }
    else if res = badValue then { status := .ok, value := some false, calls }
    else if res = -38 then { status := .operationNotSupported, value := some false, calls }
    else { status := .internalError, value := some false, calls }

def setTorchMode (module : CameraModule) (on : Bool) (ret : Int) : DeviceReply Unit :=
  if !module.isSetTorchModeSupported then { status := .operationNotSupported }
  else if d.initStatus ≠ .ok then { status := d.initStatus }
  else { status := getAidlStatus ret, calls := [.setTorchMode d.mCameraId on] }

end CameraDevice

/-! ## Ids of physical cameras -/

/-- The text is a literal of the id with white space before it, or empty for zero. -/
def NamesCamera (text : String) (id : Int32) : Prop :=
  SignedLiteral ((cString text).dropWhile isSpace) id.toInt ∨ cString text = [] ∧ id = 0

theorem namesCamera_iff {text : String} {id : Int32} :
    NamesCamera text id ↔ strtol (cString text) = (id.toInt, []) := by
  have hzero : id = 0 ↔ id.toInt = 0 := by
    rw [← Int32.toInt_inj]
    rfl
  rw [strtol_eq_iff, NamesCamera, hzero]

namespace CameraDevice

/-- The module is asked for the physical camera that the text is a literal of, and for no other.
Where it is a literal of none, the text is refused. -/
theorem asks_physical_camera_iff (d : CameraDevice) (module : CameraModule) (text : String)
    (ret : Int) (physicalInfo : Option Blob) :
    let reply := d.getPhysicalCameraCharacteristics module text ret physicalInfo
    (∀ id, .getPhysicalCameraInfo id ∈ reply.calls ↔
      d.initStatus = .ok ∧ cameraModuleApiVersion25 ≤ module.getModuleApiVersion ∧
        NamesCamera text id) ∧
    (d.initStatus = .ok → cameraModuleApiVersion25 ≤ module.getModuleApiVersion →
      (∀ id, ¬NamesCamera text id) → reply = { status := .illegalArgument }) := by
  simp only [getPhysicalCameraCharacteristics, namesCamera_iff]
  by_cases hstatus : d.initStatus = .ok
  · rw [if_neg (not_not_intro hstatus)]
    by_cases hversion : module.getModuleApiVersion < cameraModuleApiVersion25
    · rw [if_pos hversion]
      exact ⟨fun id => by simp [Nat.not_le.mpr hversion],
        fun _ h => absurd hversion (Nat.not_lt.mpr h)⟩
    · rw [if_neg hversion]
      rcases hreads : strtol (cString text) with ⟨v, rest⟩
      dsimp only
      -- The value is that of the whole text exactly if nothing is left of it, and then an id is
      -- named exactly if the value fits.
      by_cases hrefused : v > 2147483647 ∨ v < -2147483648 ∨ rest ≠ []
      · rw [if_pos hrefused]
        constructor
        · intro id
          refine iff_of_false List.not_mem_nil fun h => ?_
          obtain ⟨rfl, rfl⟩ := Prod.mk.inj h.2.2
          have hlow := Int32.le_toInt id
          have hhigh := Int32.toInt_lt id
          rcases hrefused with h | h | h
          · omega
          · omega
          · exact h rfl
        · intro _ _ _
          rfl
      · rw [if_neg hrefused]
        obtain ⟨hhigh, hlow, hrest⟩ : ¬v > 2147483647 ∧ ¬v < -2147483648 ∧ rest = [] := by
          simpa using hrefused
        subst hrest
        have hv : (Int32.ofInt v).toInt = v := by
          apply Int32.toInt_ofInt_of_le
          · omega
          · omega
        constructor
        · intro id
          have hid : Int32.ofInt v = id ↔ v = id.toInt := by rw [← Int32.toInt_inj, hv]
          have hasks : ∀ reply : DeviceReply Blob,
              reply.calls = [.getPhysicalCameraInfo (Int32.ofInt v)] →
                (.getPhysicalCameraInfo id ∈ reply.calls ↔ v = id.toInt) := by
            intro reply hcalls
            rw [hcalls, List.mem_singleton, ModuleCall.getPhysicalCameraInfo.injEq,
              eq_comm (a := id), hid]
          rw [hasks]
          · simp [hstatus, Nat.not_lt.mp hversion]
          · split
            · rfl
            · split <;> rfl
        · intro _ _ hnone
          exact absurd (by rw [hv]) (hnone (Int32.ofInt v))
  · rw [if_pos hstatus]
    exact ⟨fun id => by simp [hstatus], fun h => absurd h hstatus⟩

/-- A camera can be asked for in base 16. -/
theorem asks_physical_camera_iff_hexadecimal :
    .getPhysicalCameraInfo 31 ∈ (({ mCameraId := "0" } :
      CameraDevice).getPhysicalCameraCharacteristics {} " 0x1F" statusOk none).calls := by
  have hnames : NamesCamera " 0x1F" 31 :=
    .inl (.unsigned (.hexadecimal 'x' '1' ['F'] (.inl rfl) (by simp [isHex, hexDigit])))
  exact ((asks_physical_camera_iff { mCameraId := "0" } {} " 0x1F" statusOk none).1 31).mpr
    ⟨rfl, le_rfl, hnames⟩

end CameraDevice

/-! ## Combinations of streams -/

namespace Session

/-- What a session tells the HAL of a stream in a configuration. -/
def described (s : Session) (id : Int) : Option CameraStream :=
  s.mStreamMap[id]?.map Camera3Stream.toCameraStream

/-- A stream that passes is described as in a combination, and the others as before. -/
theorem described_preProcessStream {s : Session} {stream : Stream}
    (hpass : (s.preProcessStream stream).1 = true) (id : Int) :
    (s.preProcessStream stream).2.described id =
      if id = stream.id then some stream.toCameraStream else s.described id := by
  rcases (s.preProcessStream_fst stream).mp hpass with hnew | hmatches
  · rw [preProcessStream_new hnew]
    simp only [described, Std.ExtTreeMap.getElem?_insert_of_eq, eq_comm (a := stream.id)]
    split
    next => rfl
    next => rfl
  · rw [preProcessStream_matches hmatches]
    simp only [described, reconfigured, Std.ExtTreeMap.getElem?_alter,
      Std.LawfulEqCmp.compare_eq_iff_eq, eq_comm (a := stream.id)]
    split
    next heq =>
      obtain ⟨old, hold, hshape⟩ := Option.map_eq_some_iff.mp hmatches
      obtain ⟨htype, hwidth, hheight, -⟩ := StreamShape.mk.inj hshape
      rw [hold, Stream.toCameraStream, ← htype, ← hwidth, ← hheight]
      rfl
    next => rfl

theorem described_preProcessStreams {s : Session} {streams : List Stream}
    (hpass : (s.preProcessStreams streams).1 = true)
    (hnodup : (streams.map (·.id)).Nodup) :
    (∀ stream ∈ streams, (s.preProcessStreams streams).2.described stream.id =
      some stream.toCameraStream) ∧
    ∀ id, id ∉ streams.map (·.id) →
      (s.preProcessStreams streams).2.described id = s.described id := by
  induction streams generalizing s with
  | nil => simp [preProcessStreams]
  | cons stream rest ih =>
      obtain ⟨hhead, hrest⟩ := List.nodup_cons.mp hnodup
      have hfirst := @described_preProcessStream s stream
      rw [preProcessStreams] at hpass ⊢
      rcases hresult : s.preProcessStream stream with ⟨_ | _, s₁⟩
      · rw [hresult] at hpass
        cases hpass
      · rw [hresult] at hpass hfirst
        obtain ⟨hrests, hothers⟩ := ih hpass hrest
        refine ⟨?_, ?_⟩
        · intro other hother
          rcases List.mem_cons.mp hother with rfl | hother
          · exact (hothers other.id hhead).trans ((hfirst rfl other.id).trans (if_pos rfl))
          · exact hrests other hother
        · intro id hid
          rw [List.map_cons, List.mem_cons, not_or] at hid
          exact (hothers id hid.2).trans ((hfirst rfl id).trans (if_neg hid.1))

/-- Cleaning up streams only frees buffers. -/
theorem cleanupStreams_freeBuffer {ids : List Int} {s s' : Session} {freed : List SessionEvent}
    (h : s.cleanupStreams ids = some (freed, s')) :
    ∀ event ∈ freed, ∃ buffer, event = .freeBuffer buffer := by
  induction ids generalizing s freed with
  | nil =>
      cases h
      exact fun event hevent => absurd hevent List.not_mem_nil
  | cons id rest ih =>
      obtain ⟨⟨first, s₁⟩, hfirst, hrest⟩ := Option.bind_eq_some_iff.mp h
      obtain ⟨⟨more, s₂⟩, hmore, heq⟩ := Option.map_eq_some_iff.mp hrest
      obtain ⟨cbs, -, hone⟩ := Option.map_eq_some_iff.mp hfirst
      cases heq
      cases hone
      intro event hevent
      rcases List.mem_append.mp hevent with hevent | hevent
      · obtain ⟨entry, -, rfl⟩ := List.mem_map.mp hevent
        exact ⟨entry.2, rfl⟩
      · exact ih hmore event hevent

theorem configureStreams_not_mem {ids : List Int} {s s' : Session} {freed : List SessionEvent}
    (h : s.cleanupStreams ids = some (freed, s')) (halStreams : List Camera3Stream) :
    .configureStreams halStreams ∉ freed := by
  intro hmem
  obtain ⟨buffer, heq⟩ := cleanupStreams_freeBuffer h _ hmem
  cases heq

theorem preProcessConfigurationLocked_asks_nothing {s s' : Session} {config : StreamConfiguration}
    {ok : Bool} {events : List SessionEvent}
    (h : s.preProcessConfigurationLocked config = some (ok, events, s'))
    (halStreams : List Camera3Stream) : .configureStreams halStreams ∉ events := by
  rcases (preProcessConfigurationLocked_eq_some h).2 with ⟨rfl, -⟩ | ⟨-, -, hclean⟩
  · exact List.not_mem_nil
  · exact configureStreams_not_mem hclean halStreams

/-- The streams that pass the checks are described as in a combination. -/
theorem preProcessConfigurationLocked_describes {s s' : Session} {config : StreamConfiguration}
    {events : List SessionEvent} (hnodup : (config.streams.map (·.id)).Nodup)
    (h : s.preProcessConfigurationLocked config = some (true, events, s')) :
    (config.streams.map fun stream => s'.mStreamMap.getD stream.id {}).map
      Camera3Stream.toCameraStream = config.streams.map Stream.toCameraStream := by
  obtain ⟨hpass, hcleaned⟩ := preProcessConfigurationLocked_eq_some h
  have hstreams := (described_preProcessStreams hpass.symm hnodup).1
  have hsame : s'.mStreamMap = (s.preProcessStreams config.streams).2.mStreamMap := by
    rcases hcleaned with ⟨-, rfl, -⟩ | ⟨-, -, hclean⟩
    · rfl
    · rw [cleanupStreams_frame hclean]
  rw [List.map_map]
  apply List.map_congr_left
  intro stream hstream
  obtain ⟨entry, hentry, hdescribed⟩ := Option.map_eq_some_iff.mp (hstreams stream hstream)
  rw [Function.comp_apply, hsame, Std.ExtTreeMap.getD_eq_getD_getElem?, hentry, Option.getD_some,
    hdescribed]

theorem postProcessConfigurationLocked_asks_nothing {s s' : Session}
    {config : StreamConfiguration} {freed : List SessionEvent}
    (h : s.postProcessConfigurationLocked config = some (freed, s'))
    (halStreams : List Camera3Stream) : .configureStreams halStreams ∉ freed := by
  obtain ⟨⟨freed, s₁⟩, hclean, heq⟩ := Option.map_eq_some_iff.mp h
  cases heq
  split at hclean
  · cases hclean
    exact List.not_mem_nil
  · exact configureStreams_not_mem hclean halStreams

/-- The streams that a configuration asks the HAL for are described as in a combination. -/
theorem configureStreams_describes {s s' : Session} {config : StreamConfiguration}
    {answer : ConfigureAnswer} {status : Status} {events : List SessionEvent}
    (hnodup : (config.streams.map (·.id)).Nodup)
    (h : s.configureStreams config answer = some (status, events, s'))
    {halStreams : List Camera3Stream} (hasked : .configureStreams halStreams ∈ events) :
    halStreams.map Camera3Stream.toCameraStream = config.streams.map Stream.toCameraStream := by
  rw [configureStreams] at h
  split at h
  next =>
    cases h
    cases hasked
  next =>
    rw [configureIdle] at h
    split at h
    next =>
      cases h
      cases hasked
    next =>
      obtain ⟨⟨ok, before, s₁⟩, hpre, hpost⟩ := Option.bind_eq_some_iff.mp h
      have hbefore := preProcessConfigurationLocked_asks_nothing hpre halStreams
      cases ok with
      | false =>
          cases hpost
          exact absurd hasked hbefore
      | true =>
          have hdescribed := preProcessConfigurationLocked_describes hnodup hpre
          dsimp only at hpost
          rw [if_neg (by decide)] at hpost
          split at hpost
          next =>
            obtain ⟨⟨freed, s₂⟩, hfreed, heq⟩ := Option.map_eq_some_iff.mp hpost
            have hafter := postProcessConfigurationLocked_asks_nothing hfreed halStreams
            cases heq
            simp only [List.mem_append, hbefore, hafter, false_or, or_false, List.mem_singleton,
              SessionEvent.configureStreams.injEq] at hasked
            rw [hasked, hdescribed]
          next =>
            cases hpost
            simp only [List.mem_append, hbefore, false_or, List.mem_singleton,
              SessionEvent.configureStreams.injEq] at hasked
            rw [hasked, hdescribed]

end Session

namespace CameraDevice

/-- What a device asks of a combination of streams is what a session that is configured with them,
in whatever state it is, asks of the HAL. -/
theorem combination_describes_configuration (d : CameraDevice) {module : CameraModule}
    (hversion : cameraModuleApiVersion25 ≤ module.getModuleApiVersion) {s s' : Session}
    {config : StreamConfiguration} (hnodup : (config.streams.map (·.id)).Nodup)
    {answer : ConfigureAnswer} {status : Status} {events : List SessionEvent}
    (h : s.configureStreams config answer = some (status, events, s'))
    {halStreams : List Camera3Stream} (hasked : .configureStreams halStreams ∈ events) (res : Int) :
    (d.isStreamCombinationSupported module config res).calls =
      [.isStreamCombinationSupported d.mCameraIdInt (UInt32.ofInt config.operationMode)
        (halStreams.map Camera3Stream.toCameraStream)] := by
  rw [Session.configureStreams_describes hnodup h hasked, isStreamCombinationSupported,
    if_neg (Nat.not_lt.mpr hversion)]
  split
  · rfl
  · split
    · rfl
    · split <;> rfl

/-- A configuration where the stream of the session changes its format. -/
theorem combination_describes_configuration_newFormat :
    let config : StreamConfiguration := { streams := [{ id := 1, format := 35 }] }
    let halStream : Camera3Stream := { mId := 1, format := 35, physicalCameraId := some "" }
    (({ mCameraId := "0" } : CameraDevice).isStreamCombinationSupported {} config statusOk).calls =
      [.isStreamCombinationSupported 0 0 ([halStream].map Camera3Stream.toCameraStream)] := by
  intro config halStream
  have hasked : ((Session.withOneStream.configureStreams config { ret := statusOk }).map
      fun result => result.2.1) = some [.configureStreams [halStream]] := by rfl
  obtain ⟨⟨status, events, s'⟩, hresult, hevents⟩ := Option.map_eq_some_iff.mp hasked
  have hmem : .configureStreams [halStream] ∈ events := by
    rw [show events = [.configureStreams [halStream]] from hevents]
    exact .head _
  exact combination_describes_configuration { mCameraId := "0" } (by decide) (by decide) hresult
    hmem statusOk

end CameraDevice

end LgeHardware.Camera
