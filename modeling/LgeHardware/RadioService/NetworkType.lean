import LgeHardware.Foundation.BitGroups
import LgeHardware.RadioService.RadioResponse
import Mathlib.Data.List.Pairwise

/-! # Network types

Up to 1.3 the preferred network is a type, and from 1.4 on it is a bitmap of radio access
families. `setPreferredNetworkTypeBitmap` and `getPreferredNetworkTypeResponse` translate
between them, each with a switch of its own.
-/

namespace LgeHardware.RadioService

open LgeHardware.Foundation

variable {P : Type}

/-! ## The response -/

/-- The switch of `getPreferredNetworkTypeResponse`. -/
def InterfaceValues.nwTypeBitmap (values : InterfaceValues) : PreferredNetworkType → UInt32 :=
  let gsm := values.gsmBits
  let wcdma := values.wcdmaBits
  let cdma := values.cdmaBits
  let evdo := values.evdoBits
  let lte := values.lteBits
  let tdscdma := values.tdscdmaBit
  fun
    | .gsmWcdma | .gsmWcdmaAuto => gsm ||| wcdma
    | .gsmOnly => gsm
    | .wcdma => wcdma
    | .cdmaEvdoAuto => cdma ||| evdo
    | .cdmaOnly => cdma
    | .evdoOnly => evdo
    | .gsmWcdmaCdmaEvdoAuto => gsm ||| wcdma ||| cdma ||| evdo
    | .lteCdmaEvdo => lte ||| cdma ||| evdo
    | .lteGsmWcdma => lte ||| gsm ||| wcdma
    | .lteCmdaEvdoGsmWcdma => lte ||| cdma ||| evdo ||| gsm ||| wcdma
    | .lteOnly => lte
    | .lteWcdma => lte ||| wcdma
    | .tdScdmaOnly => tdscdma
    | .tdScdmaWcdma => tdscdma ||| wcdma
    | .tdScdmaLte => tdscdma ||| lte
    | .tdScdmaGsm => tdscdma ||| gsm
    | .tdScdmaGsmLte => tdscdma ||| gsm ||| lte
    | .tdScdmaGsmWcdma => tdscdma ||| gsm ||| wcdma
    | .tdScdmaWcdmaLte => tdscdma ||| wcdma ||| lte
    | .tdScdmaGsmWcdmaLte => tdscdma ||| gsm ||| wcdma ||| lte
    | .tdScdmaGsmWcdmaCdmaEvdoAuto => tdscdma ||| gsm ||| wcdma ||| cdma ||| evdo
    | .tdScdmaLteCdmaEvdoGsmWcdma => tdscdma ||| lte ||| cdma ||| evdo ||| gsm ||| wcdma

/-- `getPreferredNetworkTypeResponse`, by what it passes to
`getPreferredNetworkTypeBitmapResponse`. -/
def RadioResponse.getPreferredNetworkTypeResponse (_ : RadioResponse) (values : InterfaceValues)
    (info : RadioResponseInfo) (nwType : PreferredNetworkType) : RadioResponseInfo × UInt32 :=
  (info, values.nwTypeBitmap nwType)

/-! ## Families -/

/-- The groups that `Helpers.h` makes of the families. -/
inductive NetworkGroup
  | gsm | cdma | evdo | wcdma | lte | tdscdma
  deriving DecidableEq, Repr

/-- All groups, in the order of `Helpers.h`. -/
def NetworkGroup.all : List NetworkGroup := [.gsm, .cdma, .evdo, .wcdma, .lte, .tdscdma]

theorem NetworkGroup.mem_all (group : NetworkGroup) : group ∈ all := by
  cases group <;> decide

/-- `V1_0::RadioAccessFamily`, a generated enumeration of bit flags: every family has a bit
that no other family has. -/
structure RadioAccessFamily where
  gsm : UInt32
  gprs : UInt32
  edge : UInt32
  is95a : UInt32
  is95b : UInt32
  oneXRtt : UInt32
  evdo0 : UInt32
  evdoA : UInt32
  evdoB : UInt32
  ehrpd : UInt32
  hsupa : UInt32
  hsdpa : UInt32
  hspa : UInt32
  hspap : UInt32
  umts : UInt32
  lte : UInt32
  lteCa : UInt32
  tdScdma : UInt32
  nonzero : 0 ∉ [gsm, gprs, edge, is95a, is95b, oneXRtt, evdo0, evdoA, evdoB, ehrpd,
    hsupa, hsdpa, hspa, hspap, umts, lte, lteCa, tdScdma]
  disjoint : [gsm, gprs, edge, is95a, is95b, oneXRtt, evdo0, evdoA, evdoB, ehrpd,
    hsupa, hsdpa, hspa, hspap, umts, lte, lteCa, tdScdma].Pairwise
      fun first second => first &&& second = 0

namespace RadioAccessFamily

variable (families : RadioAccessFamily)

/-- The families of a group. -/
def members : NetworkGroup → List UInt32
  | .gsm => [families.gsm, families.gprs, families.edge]
  | .cdma => [families.is95a, families.is95b, families.oneXRtt]
  | .evdo => [families.evdo0, families.evdoA, families.evdoB, families.ehrpd]
  | .wcdma => [families.hsupa, families.hsdpa, families.hspa, families.hspap, families.umts]
  | .lte => [families.lte, families.lteCa]
  | .tdscdma => [families.tdScdma]

/-- The groups of `Helpers.h`. -/
def interfaceValues (indicationFilterAll : UInt32) : InterfaceValues :=
  { indicationFilterAll
    gsmBits := families.gsm ||| families.gprs ||| families.edge
    cdmaBits := families.is95a ||| families.is95b ||| families.oneXRtt
    evdoBits := families.evdo0 ||| families.evdoA ||| families.evdoB ||| families.ehrpd
    wcdmaBits := families.hsupa ||| families.hsdpa ||| families.hspa ||| families.hspap |||
      families.umts
    lteBits := families.lte ||| families.lteCa
    tdscdmaBit := families.tdScdma }

end RadioAccessFamily

namespace InterfaceValues

variable (values : InterfaceValues)

/-- The bits of a group. -/
def groupBits : NetworkGroup → UInt32
  | .gsm => values.gsmBits
  | .cdma => values.cdmaBits
  | .evdo => values.evdoBits
  | .wcdma => values.wcdmaBits
  | .lte => values.lteBits
  | .tdscdma => values.tdscdmaBit

/-- A bitmap with each of the GSM, CDMA, EVDO, WCDMA and LTE groups completed that it has a
bit of. -/
def completed (networkTypeBitmap : UInt32) : UInt32 :=
  complete values.groupBits [.gsm, .cdma, .evdo, .wcdma, .lte] networkTypeBitmap

end InterfaceValues

/-- The bits of a group are those of its families. -/
theorem RadioAccessFamily.groupBits_eq (families : RadioAccessFamily) (filterAll : UInt32)
    (group : NetworkGroup) :
    (families.interfaceValues filterAll).groupBits group = allOf id (families.members group) := by
  cases group <;>
    simp [InterfaceValues.groupBits, interfaceValues, members, UInt32.or_assoc]

/-- The groups of `Helpers.h`, from families with bits of their own, are separate. -/
theorem RadioAccessFamily.separate (families : RadioAccessFamily) (filterAll : UInt32) :
    Separate (families.interfaceValues filterAll).groupBits := by
  obtain ⟨-, hlists⟩ :=
    (List.pairwise_flatten (L := NetworkGroup.all.map families.members)).mp families.disjoint
  let Apart (first second : NetworkGroup) : Prop :=
    ∀ a ∈ families.members first, ∀ b ∈ families.members second, a &&& b = 0
  have hgroups : List.Pairwise Apart _ := List.pairwise_map.mp hlists
  have : Std.Symm Apart :=
    ⟨fun _ _ h a ha b hb => (UInt32.and_comm a b).trans (h b hb a ha)⟩
  refine ⟨?_, ?_⟩
  · intro group
    rw [groupBits_eq]
    obtain ⟨family, hfamily⟩ : ∃ family, family ∈ families.members group := by
      cases group <;> exact ⟨_, List.mem_cons_self⟩
    have hflatten := List.mem_flatten_of_mem (List.mem_map_of_mem group.mem_all) hfamily
    refine allOf_ne_zero hfamily fun hzero => families.nonzero ?_
    rw [← hzero]
    exact hflatten
  · intro first second hne
    rw [groupBits_eq, groupBits_eq]
    have hapart := hgroups.forall first.mem_all second.mem_all hne
    refine allOf_and_eq_zero fun a ha => ?_
    rw [UInt32.and_comm]
    exact allOf_and_eq_zero fun b hb => (UInt32.and_comm b a).trans (hapart a ha b hb)

/-! ## The two switches -/

/-- The groups of a network type. -/
def typeGroups : PreferredNetworkType → List NetworkGroup
  | .gsmWcdma | .gsmWcdmaAuto => [.gsm, .wcdma]
  | .gsmOnly => [.gsm]
  | .wcdma => [.wcdma]
  | .cdmaEvdoAuto => [.cdma, .evdo]
  | .cdmaOnly => [.cdma]
  | .evdoOnly => [.evdo]
  | .gsmWcdmaCdmaEvdoAuto => [.gsm, .wcdma, .cdma, .evdo]
  | .lteCdmaEvdo => [.lte, .cdma, .evdo]
  | .lteGsmWcdma => [.lte, .gsm, .wcdma]
  | .lteCmdaEvdoGsmWcdma => [.lte, .cdma, .evdo, .gsm, .wcdma]
  | .lteOnly => [.lte]
  | .lteWcdma => [.lte, .wcdma]
  | .tdScdmaOnly => [.tdscdma]
  | .tdScdmaWcdma => [.tdscdma, .wcdma]
  | .tdScdmaLte => [.tdscdma, .lte]
  | .tdScdmaGsm => [.tdscdma, .gsm]
  | .tdScdmaGsmLte => [.tdscdma, .gsm, .lte]
  | .tdScdmaGsmWcdma => [.tdscdma, .gsm, .wcdma]
  | .tdScdmaWcdmaLte => [.tdscdma, .wcdma, .lte]
  | .tdScdmaGsmWcdmaLte => [.tdscdma, .gsm, .wcdma, .lte]
  | .tdScdmaGsmWcdmaCdmaEvdoAuto => [.tdscdma, .gsm, .wcdma, .cdma, .evdo]
  | .tdScdmaLteCdmaEvdoGsmWcdma => [.tdscdma, .lte, .cdma, .evdo, .gsm, .wcdma]

/-- The types that `setPreferredNetworkTypeBitmap` has a case for. -/
def setTypes : List PreferredNetworkType :=
  [.gsmWcdmaAuto, .gsmOnly, .wcdma, .cdmaEvdoAuto, .cdmaOnly, .evdoOnly, .gsmWcdmaCdmaEvdoAuto,
    .lteCdmaEvdo, .lteGsmWcdma, .lteCmdaEvdoGsmWcdma, .lteOnly, .lteWcdma, .tdScdmaOnly,
    .tdScdmaWcdma, .tdScdmaLte, .tdScdmaGsm, .tdScdmaGsmLte, .tdScdmaGsmWcdma,
    .tdScdmaWcdmaLte, .tdScdmaGsmWcdmaLte, .tdScdmaGsmWcdmaCdmaEvdoAuto,
    .tdScdmaLteCdmaEvdoGsmWcdma]

/-- The type that is set for the bitmap of a type. -/
def setBack : PreferredNetworkType → PreferredNetworkType
  | .gsmWcdma => .gsmWcdmaAuto
  | nwType => nwType

theorem setBack_mem_setTypes (nwType : PreferredNetworkType) : setBack nwType ∈ setTypes := by
  cases nwType <;> decide

theorem typeGroups_injective : ∀ first ∈ setTypes, ∀ second ∈ setTypes,
    (∀ group ∈ NetworkGroup.all, group ∈ typeGroups first ↔ group ∈ typeGroups second) →
      first = second := by
  decide +kernel

namespace InterfaceValues

variable (values : InterfaceValues)

/-- The bitmap of a type has all bits of its groups. -/
theorem nwTypeBitmap_eq (nwType : PreferredNetworkType) :
    values.nwTypeBitmap nwType = allOf values.groupBits (typeGroups nwType) := by
  cases nwType <;> simp [nwTypeBitmap, typeGroups, groupBits, UInt32.or_assoc]

theorem nwTypeBitmap_setBack (nwType : PreferredNetworkType) :
    values.nwTypeBitmap (setBack nwType) = values.nwTypeBitmap nwType := by
  cases nwType <;> rfl

/-- The cases of one switch are those of the other, the other way around. -/
theorem networkTypes_eq :
    values.networkTypes = setTypes.map fun nwType => (values.nwTypeBitmap nwType, nwType) := rfl

theorem lookup_networkTypes {bits : UInt32} {nwType : PreferredNetworkType}
    (h : values.networkTypes.lookup bits = some nwType) :
    nwType ∈ setTypes ∧ values.nwTypeBitmap nwType = bits := by
  obtain ⟨_, _, hsplit, -⟩ := List.lookup_eq_some_iff.mp h
  have hmem : (bits, nwType) ∈ values.networkTypes := by simp [hsplit]
  rw [networkTypes_eq] at hmem
  obtain ⟨found, hfound, heq⟩ := List.mem_map.mp hmem
  cases heq
  exact ⟨hfound, rfl⟩

theorem lookup_networkTypes_eq_none {bits : UInt32} (h : values.networkTypes.lookup bits = none)
    (nwType : PreferredNetworkType) : values.nwTypeBitmap nwType ≠ bits := by
  have hentry : (values.nwTypeBitmap (setBack nwType), setBack nwType) ∈ values.networkTypes := by
    rw [networkTypes_eq]
    exact List.mem_map_of_mem (setBack_mem_setTypes nwType)
  have hne := List.lookup_eq_none_iff.mp h _ hentry
  rw [nwTypeBitmap_setBack] at hne
  exact Ne.symm (bne_iff_ne.mp hne)

variable {values} (hseparate : Separate values.groupBits)

include hseparate

theorem fillGroups_eq_completed (bits : UInt32) : values.fillGroups bits = values.completed bits :=
  hseparate.foldl_eq_complete [.gsm, .cdma, .evdo, .wcdma, .lte] (by decide) bits

/-- The bitmap of a type has no group in part. -/
theorem completed_nwTypeBitmap (nwType : PreferredNetworkType) :
    values.completed (values.nwTypeBitmap nwType) = values.nwTypeBitmap nwType := by
  rw [nwTypeBitmap_eq, completed, hseparate.complete_allOf]

/-- The type of a bitmap that is the completed bitmap of a type. -/
theorem nwTypeBitmap_networkType {bits : UInt32} {nwType : PreferredNetworkType}
    (h : values.nwTypeBitmap nwType = values.completed bits) :
    values.nwTypeBitmap (values.networkType bits) = values.completed bits := by
  rw [networkType, fillGroups_eq_completed hseparate]
  cases hlookup : values.networkTypes.lookup (values.completed bits) with
  | none => exact absurd h (values.lookup_networkTypes_eq_none hlookup nwType)
  | some found => exact (values.lookup_networkTypes hlookup).2

theorem networkType_of_unmatched {bits : UInt32}
    (h : ∀ nwType, values.nwTypeBitmap nwType ≠ values.completed bits) :
    values.networkType bits = .lteCmdaEvdoGsmWcdma := by
  rw [networkType, fillGroups_eq_completed hseparate]
  cases hlookup : values.networkTypes.lookup (values.completed bits) with
  | none => rfl
  | some found => exact absurd (values.lookup_networkTypes hlookup).2 (h found)

/-- A type that is read back and set again is the same, but for the two that are read back as
one bitmap. -/
theorem networkType_nwTypeBitmap (nwType : PreferredNetworkType) :
    values.networkType (values.nwTypeBitmap nwType) = setBack nwType := by
  rw [networkType, fillGroups_eq_completed hseparate, completed_nwTypeBitmap hseparate]
  cases hlookup : values.networkTypes.lookup (values.nwTypeBitmap nwType) with
  | none => exact absurd rfl (values.lookup_networkTypes_eq_none hlookup nwType)
  | some found =>
      obtain ⟨hfound, hbitmap⟩ := values.lookup_networkTypes hlookup
      rw [← values.nwTypeBitmap_setBack nwType, nwTypeBitmap_eq, nwTypeBitmap_eq] at hbitmap
      exact typeGroups_injective found hfound _ (setBack_mem_setTypes nwType)
        fun group _ => hseparate.mem_iff_of_allOf_eq hbitmap group

end InterfaceValues

/-! ## Set and read back -/

/-- The bitmap that the framework reads for a network type of the real radio. -/
def Radio.readBack (r : Radio) (info : RadioResponseInfo) (nwType : PreferredNetworkType) :
    UInt32 :=
  (r.mRadioResponse.getPreferredNetworkTypeResponse r.values info nwType).2

theorem calls_setPreferredNetworkTypeBitmap {r : Radio} {real : Version}
    (hreal : r.mRealRadio = some real) (hlegacy : real.minor < Version.v1_4.minor)
    (serial : Int32) (bits : UInt32) :
    r.setPreferredNetworkTypeBitmap serial bits =
      ([.call (.setPreferredNetworkType serial (r.values.networkType bits))] :
        List (RadioEvent P)) := by
  rw [Radio.setPreferredNetworkTypeBitmap, Radio.maybeWrap, Radio.wrap, hreal]
  exact if_neg (Nat.not_le.mpr hlegacy)

/-- The type that is sent down for a bitmap is read back as the completed bitmap if a type is,
and otherwise it is the type with all of LTE, CDMA, EVDO, GSM and WCDMA. What is read back and
set again stays as it is. -/
theorem set_and_read_back_agree {r : Radio} {families : RadioAccessFamily} {filterAll : UInt32}
    (hvalues : r.values = families.interfaceValues filterAll) {real : Version}
    (hreal : r.mRealRadio = some real) (hlegacy : real.minor < Version.v1_4.minor)
    (serial : Int32) (info : RadioResponseInfo) :
    (∀ networkTypeBitmap, ∃ nwType,
      r.setPreferredNetworkTypeBitmap serial networkTypeBitmap =
          ([.call (.setPreferredNetworkType serial nwType)] : List (RadioEvent P)) ∧
        ((∃ read, r.readBack info read = r.values.completed networkTypeBitmap) →
          r.readBack info nwType = r.values.completed networkTypeBitmap) ∧
        ((∀ read, r.readBack info read ≠ r.values.completed networkTypeBitmap) →
          nwType = .lteCmdaEvdoGsmWcdma)) ∧
      ∀ read,
        r.setPreferredNetworkTypeBitmap serial (r.readBack info read) =
            ([.call (.setPreferredNetworkType serial (setBack read))] : List (RadioEvent P)) ∧
          r.readBack info (setBack read) = r.readBack info read := by
  have hseparate : Separate r.values.groupBits := hvalues ▸ families.separate filterAll
  refine ⟨?_, ?_⟩
  · intro bits
    refine ⟨_, calls_setPreferredNetworkTypeBitmap hreal hlegacy serial bits, ?_, ?_⟩
    · rintro ⟨read, hread⟩
      exact InterfaceValues.nwTypeBitmap_networkType hseparate hread
    · intro hunmatched
      exact InterfaceValues.networkType_of_unmatched hseparate hunmatched
  · intro read
    have hset := InterfaceValues.networkType_nwTypeBitmap hseparate read
    refine ⟨?_, r.values.nwTypeBitmap_setBack read⟩
    rw [calls_setPreferredNetworkTypeBitmap hreal hlegacy, Radio.readBack,
      RadioResponse.getPreferredNetworkTypeResponse, hset]

/-- The flag of a radio technology. -/
def flag (rat : UInt32) : UInt32 := 1 <<< rat

/-- The values of `V1_0::RadioAccessFamily`, from the numbers of `V1_0::RadioTechnology`. -/
def legacyFamilies : RadioAccessFamily where
  gsm := flag 16
  gprs := flag 1
  edge := flag 2
  is95a := flag 4
  is95b := flag 5
  oneXRtt := flag 6
  evdo0 := flag 7
  evdoA := flag 8
  evdoB := flag 12
  ehrpd := flag 13
  hsupa := flag 10
  hsdpa := flag 9
  hspa := flag 11
  hspap := flag 15
  umts := flag 3
  lte := flag 14
  lteCa := flag 19
  tdScdma := flag 17
  nonzero := by decide
  disjoint := by decide

def legacyRadio : Radio :=
  { values := legacyFamilies.interfaceValues 7, mRealRadio := some .v1_0 }

/-- UMTS alone is read back as all of WCDMA. -/
theorem set_and_read_back_agree_umts : ∃ nwType,
    legacyRadio.setPreferredNetworkTypeBitmap 1 legacyFamilies.umts =
        ([.call (.setPreferredNetworkType 1 nwType)] : List (RadioEvent Unit)) ∧
      legacyRadio.readBack (unsupportedResponse 1) nwType = legacyRadio.values.wcdmaBits := by
  have hvalues : legacyRadio.values = legacyFamilies.interfaceValues 7 := rfl
  have hreal : legacyRadio.mRealRadio = some .v1_0 := rfl
  obtain ⟨nwType, hset, hmatched, -⟩ := (set_and_read_back_agree hvalues hreal (by decide) 1
    (unsupportedResponse 1)).1 legacyFamilies.umts
  exact ⟨nwType, hset, (hmatched ⟨.wcdma, by decide⟩).trans (by decide)⟩

/-- GSM_WCDMA shares its bitmap with GSM_WCDMA_AUTO, which is what is set for it again. -/
theorem gsmWcdma_read_and_set_back : ¬ ∀ read : PreferredNetworkType,
    legacyRadio.setPreferredNetworkTypeBitmap 1
        (legacyRadio.readBack (unsupportedResponse 1) read) =
      ([.call (.setPreferredNetworkType 1 read)] : List (RadioEvent Unit)) := by
  intro hunchanged
  exact absurd (hunchanged .gsmWcdma) (by decide)

end LgeHardware.RadioService
