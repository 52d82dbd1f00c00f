import Mathlib.Logic.Function.Basic
import Mathlib.Tactic.Common

/-! # Camera metadata packets

A `camera_metadata_t` is a packed block of bytes, and the AIDL `CameraMetadata`
carries the same bytes. Looking entries up and changing them is the business of
the camera metadata library, which stands here as a record of operations. The
conversions between the two representations and the rule for shrinking a packet
are the session's own.
-/

namespace LgeHardware.Camera

/-- The bytes of a metadata packet. -/
abbrev Blob := List UInt8

/-- The metadata keys the session reads or writes by name, and all others. -/
inductive Tag
  | controlAePrecaptureTrigger
  | controlAeLock
  | controlPostRawSensitivityBoost
  | other (code : Nat)
  deriving DecidableEq, Repr

/-- `ANDROID_CONTROL_AE_LOCK_OFF`. -/
def aeLockOff : Int := 0
/-- `ANDROID_CONTROL_AE_LOCK_ON`. -/
def aeLockOn : Int := 1
/-- `ANDROID_CONTROL_AE_PRECAPTURE_TRIGGER_IDLE`. -/
def aePrecaptureTriggerIdle : Int := 0
/-- `ANDROID_CONTROL_AE_PRECAPTURE_TRIGGER_CANCEL`. -/
def aePrecaptureTriggerCancel : Int := 2
/-- The sensitivity boost that stands for an absent key. -/
def defaultBoost : Int := 100

/-- What the session uses of the camera metadata library. `find` is `none` for an
absent key. `append` is a cleared `CameraMetadata` helper filled from a packet,
`copy` the packet written by `copy_camera_metadata`. -/
structure MetadataLib where
  size : Blob → Nat
  compactSize : Blob → Nat
  entryCount : Blob → Nat
  find : Blob → Tag → Option (List Int)
  append : Blob → Blob
  update : Blob → Tag → List Int → Blob
  copy : Blob → Blob

namespace MetadataLib

variable (lib : MetadataLib)

/-- The first value of an entry, if the key is present and has a value. -/
def first (packet : Blob) (tag : Tag) : Option Int :=
  (lib.find packet tag).bind List.head?

/-- `convertFromAidl(CameraMetadata)`: `none` for a corrupt packet, the null
pointer for an empty one. -/
def convertFromAidl (src : Blob) : Option (Option Blob) :=
  if src = [] then some none
  else if lib.size src ≠ src.length then none
  else some (some src)

/-- `METADATA_SHRINK_ABS_THRESHOLD`. -/
def shrinkAbsThreshold : Nat := 4096
/-- `METADATA_SHRINK_REL_THRESHOLD`. -/
def shrinkRelThreshold : Nat := 2

/-- `sShouldShrink`. For a null packet both sizes are the same error code, which
never reaches the absolute threshold. -/
def sShouldShrink : Option Blob → Bool
  | none => false
  | some packet =>
      lib.compactSize packet + shrinkAbsThreshold ≤ lib.size packet ∧
        lib.compactSize packet * shrinkRelThreshold ≤ lib.size packet

/-- `sShouldShrink` followed, where it holds, by `sCreateCompactCopy`. -/
def shrink (packet : Option Blob) : Option Blob :=
  if lib.sShouldShrink packet then packet.map lib.copy else packet

/-- A library for packets that are a list of pairs of a key and a value. -/
def ofPairs : MetadataLib :=
  let code : Tag → UInt8
    | .controlAePrecaptureTrigger => 0
    | .controlAeLock => 1
    | .controlPostRawSensitivityBoost => 2
    | .other code => .ofNat (code + 3)
  let rec lookup (key : UInt8) : Blob → Option (List Int)
    | k :: v :: rest => if k = key then some [v.toNat] else lookup key rest
    | _ => none
  let rec remove (key : UInt8) : Blob → Blob
    | k :: v :: rest => if k = key then remove key rest else k :: v :: remove key rest
    | packet => packet
  { size := fun packet => packet.length / 2 * 2
    compactSize := fun packet => packet.length / 2 * 2
    entryCount := fun packet => packet.length / 2
    find := fun packet tag => lookup (code tag) packet
    append := id
    update := fun packet tag values =>
      remove (code tag) packet ++ values.flatMap fun value => [code tag, .ofNat value.toNat]
    copy := id }

end MetadataLib

/-! ## What the session relies on -/

/-- The values of a packet under each key. -/
abbrev Content := Tag → Option (List Int)

/-- The values that the session itself writes under a key. -/
def Tag.Written : Tag → Int → Prop
  | .controlAePrecaptureTrigger, value =>
      value = aePrecaptureTriggerIdle ∨ value = aePrecaptureTriggerCancel
  | .controlAeLock, value => value = aeLockOff ∨ value = aeLockOn
  | .controlPostRawSensitivityBoost, value => value = defaultBoost
  | .other _, _ => False

namespace MetadataLib

/-- Copies have the content of the original, and an update with one value changes the
entry of its key alone. -/
structure Lawful (lib : MetadataLib) : Prop where
  find_append : ∀ packet, lib.find (lib.append packet) = lib.find packet
  find_copy : ∀ packet, lib.find (lib.copy packet) = lib.find packet
  find_update : ∀ packet tag value, tag.Written value →
    lib.find (lib.update packet tag [value]) =
      Function.update (lib.find packet) tag (some [value])

theorem Lawful.first_append {lib : MetadataLib} (h : lib.Lawful) (packet : Blob) (tag : Tag) :
    lib.first (lib.append packet) tag = lib.first packet tag := by
  rw [first, first, h.find_append]

/-- Shrinking a packet does not show in its content. -/
theorem Lawful.exists_shrink {lib : MetadataLib} (h : lib.Lawful) (packet : Blob) :
    ∃ shrunk, lib.shrink (some packet) = some shrunk ∧ lib.find shrunk = lib.find packet := by
  rw [shrink]
  split
  next => exact ⟨lib.copy packet, rfl, h.find_copy packet⟩
  next => exact ⟨packet, rfl, rfl⟩

/-- A number for each key, the named ones first. -/
def number : Tag → Nat
  | .controlAePrecaptureTrigger => 0
  | .controlAeLock => 1
  | .controlPostRawSensitivityBoost => 2
  | .other code => code + 3

/-- The byte that stands for a key in a list of pairs, if there is one. -/
def code (tag : Tag) : Option UInt8 :=
  if number tag < 256 then some (.ofNat (number tag)) else none

/-- A library for lists of pairs of a key and a value, with updated entries in front. -/
def ofEntries : MetadataLib :=
  { ofPairs with
    find := fun packet tag => (code tag).bind fun key => ofPairs.lookup key packet
    update := fun packet tag values => (code tag).elim packet fun key =>
      values.flatMap (fun value => [key, .ofNat value.toNat]) ++ ofPairs.remove key packet }

theorem code_inj {tag other : Tag} {key : UInt8} (h : code tag = some key)
    (hother : code other = some key) : tag = other := by
  have hnumber : ∀ {tag}, code tag = some key → number tag = key.toNat := by
    intro tag hcode
    rw [code] at hcode
    split at hcode
    next hlt => rw [← Option.some.inj hcode, UInt8.toNat_ofNat', Nat.mod_eq_of_lt hlt]
    next => exact nomatch hcode
  have hsame := (hnumber h).trans (hnumber hother).symm
  cases tag <;> cases other <;> simp_all [number]

theorem lookup_remove {key other : UInt8} (hne : other ≠ key) (packet : Blob) :
    ofPairs.lookup other (ofPairs.remove key packet) = ofPairs.lookup other packet := by
  induction packet using ofPairs.remove.induct key with
  | case1 v rest ih =>
      rw [ofPairs.remove, if_pos rfl, ih, ofPairs.lookup, if_neg (Ne.symm hne)]
  | case2 k v rest hk ih =>
      rw [ofPairs.remove, if_neg hk, ofPairs.lookup, ofPairs.lookup, ih]
  | case3 packet hshort =>
      match packet with
      | [] | [_] => rfl
      | k :: v :: rest => exact (hshort k v rest rfl).elim

theorem ofEntries_lawful : ofEntries.Lawful where
  find_append _ := rfl
  find_copy _ := rfl
  find_update packet tag value hwritten := by
    obtain ⟨key, hkey⟩ : ∃ key, code tag = some key := by
      cases tag with
      | other => exact hwritten.elim
      | _ => exact ⟨_, rfl⟩
    have hvalue : ((UInt8.ofNat value.toNat).toNat : Int) = value := by
      cases tag with
      | controlAePrecaptureTrigger => rcases hwritten with rfl | rfl <;> rfl
      | controlAeLock => rcases hwritten with rfl | rfl <;> rfl
      | controlPostRawSensitivityBoost =>
          rw [show value = defaultBoost from hwritten]
          rfl
      | other => exact hwritten.elim
    have hfind : ∀ {other otherKey} (packet : Blob), code other = some otherKey →
        ofEntries.find packet other = ofPairs.lookup otherKey packet := by
      intro other otherKey packet hother
      simp [ofEntries, hother]
    have hupdate : ofEntries.update packet tag [value] =
        key :: .ofNat value.toNat :: ofPairs.remove key packet := by
      simp [ofEntries, hkey]
    funext other
    by_cases heq : other = tag
    · rw [heq, Function.update_self, hfind _ hkey, hupdate, ofPairs.lookup, if_pos rfl, hvalue]
    · rw [Function.update_of_ne heq]
      cases hother : code other with
      | none => simp [ofEntries, hother]
      | some otherKey =>
          have hne : otherKey ≠ key := fun hsame => heq (code_inj hother (hsame ▸ hkey))
          rw [hfind _ hother, hfind _ hother, hupdate, ofPairs.lookup, if_neg hne.symm,
            lookup_remove hne]

end MetadataLib

end LgeHardware.Camera
