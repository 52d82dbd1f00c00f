import LgeHardware.Foundation.Buckets
import LgeHardware.Provider.CameraProvider

/-! # Vendor tags

The descriptor of the vendor tags has them in one array, each with the index of its section. The
provider sorts them by section once, and gives the sections to the framework. Every tag comes to
the framework once, in the section that the descriptor has for it.
-/

namespace LgeHardware.Provider

open LgeHardware.Foundation

/-- `VendorTagDescriptor`, with `getTagCount` as the length of the array of the tags. -/
structure VendorTagDescriptor where
  getAllSectionNames : List String
  getTagArray : List UInt32
  getTagName : UInt32 → String
  getTagType : UInt32 → Int32
  getSectionIndex : UInt32 → Int

/-- What the module has of vendor tags: whether any are defined, whether all operations are there,
and the descriptor made from them, if it can be made. -/
structure VendorTagModule where
  isVendorTagDefined : Bool := true
  vendorTagOpsComplete : Bool := true
  createDescriptorFromOps : Option VendorTagDescriptor := none

structure VendorTag where
  tagId : Int32
  tagName : String
  tagType : Int32
  deriving DecidableEq, Repr

structure VendorTagSection where
  sectionName : String
  tags : List VendorTag
  deriving DecidableEq, Repr

namespace VendorTagDescriptor

variable (desc : VendorTagDescriptor)

def vendorTag (tag : UInt32) : VendorTag where
  tagId := tag.toInt32
  tagName := desc.getTagName tag
  tagType := desc.getTagType tag

/-- The sections that `setUpVendorTags` fills, `none` where an index is out of bounds. -/
def sections : Option (List VendorTagSection) :=
  let tagsBySection := List.replicate desc.getAllSectionNames.length []
  (fillBuckets desc.getSectionIndex desc.getTagArray tagsBySection).map fun tagsBySection =>
    (desc.getAllSectionNames.zip tagsBySection).map fun (sectionName, tags) =>
      { sectionName, tags := tags.map desc.vendorTag }

/-- Every tag has a section. -/
def Sectioned : Prop :=
  ∀ tag ∈ desc.getTagArray, 0 ≤ desc.getSectionIndex tag ∧
    desc.getSectionIndex tag < desc.getAllSectionNames.length

instance : Decidable desc.Sectioned := inferInstanceAs (Decidable (∀ tag ∈ desc.getTagArray, _))

end VendorTagDescriptor

/-- `setUpVendorTags`, with `mVendorTagSections` before and after it. -/
def setUpVendorTags (module : VendorTagModule) (mVendorTagSections : List VendorTagSection) :
    Option (Bool × List VendorTagSection) :=
  if !module.isVendorTagDefined then some (true, mVendorTagSections)
  else if !module.vendorTagOpsComplete then some (false, mVendorTagSections)
  else
    match module.createDescriptorFromOps with
    | none => some (false, mVendorTagSections)
    | some desc => desc.sections.map (true, ·)

/-- `getVendorTags`, which appends to what it is given. -/
def getVendorTags (mVendorTagSections given : List VendorTagSection) : List VendorTagSection :=
  given ++ mVendorTagSections

namespace VendorTagDescriptor

variable {desc : VendorTagDescriptor}

/-- The sections of a descriptor with a section for every tag are the buckets of its tags. -/
theorem sections_eq (h : desc.Sectioned) :
    desc.sections = some (desc.getAllSectionNames.mapIdx fun s sectionName =>
      { sectionName
        tags := (bucket desc.getSectionIndex desc.getTagArray s).map desc.vendorTag }) := by
  rw [sections, fillBuckets_replicate h, Option.map_some]
  congr 1
  apply List.ext_getElem (by simp)
  intro s hs hs'
  simp

/-- All tags of the sections are all tags of the array, in another order. -/
theorem flatMap_tags_perm (h : desc.Sectioned) {sections : List VendorTagSection}
    (hsections : desc.sections = some sections) :
    (sections.flatMap (·.tags)).Perm (desc.getTagArray.map desc.vendorTag) := by
  rw [sections_eq h] at hsections
  cases hsections
  have htags : ((desc.getAllSectionNames.mapIdx fun s sectionName =>
      ({ sectionName
         tags := (bucket desc.getSectionIndex desc.getTagArray s).map desc.vendorTag } :
        VendorTagSection)).map (·.tags)) =
      (List.range desc.getAllSectionNames.length).map fun s =>
        (bucket desc.getSectionIndex desc.getTagArray s).map desc.vendorTag := by
    apply List.ext_getElem (by simp)
    intro s hs hs'
    simp
  rw [List.flatMap_def, htags, ← List.flatMap_def, ← List.map_flatMap]
  exact (flatMap_bucket_perm h).map _

/-- The sections are only filled if every tag has one. -/
theorem sectioned_of_sections {sections : List VendorTagSection}
    (hsections : desc.sections = some sections) : desc.Sectioned := by
  rw [VendorTagDescriptor.sections, Option.map_eq_some_iff] at hsections
  obtain ⟨tagsBySection, hfill, -⟩ := hsections
  intro tag htag
  have hindex := lt_of_fillBuckets hfill tag htag
  rwa [List.length_replicate] at hindex

end VendorTagDescriptor

/-- With all operations of the module there, the sections of its descriptor are what is set up. -/
theorem setUpVendorTags_eq {module : VendorTagModule} {desc : VendorTagDescriptor}
    (hmodule : module.isVendorTagDefined = true ∧ module.vendorTagOpsComplete = true ∧
      module.createDescriptorFromOps = some desc) (before : List VendorTagSection) :
    setUpVendorTags module before = desc.sections.map (true, ·) := by
  obtain ⟨hdefined, hops, hdesc⟩ := hmodule
  rw [setUpVendorTags, hdefined, hops, hdesc]
  rfl

/-- The tags can be set up from a descriptor exactly if each has a section. Then the framework gets
the sections in their order, each with its own tags in the order of the array, and altogether every
tag as often as the array has it. -/
theorem vendor_tags_sectioned {module : VendorTagModule} {desc : VendorTagDescriptor}
    (hmodule : module.isVendorTagDefined = true ∧ module.vendorTagOpsComplete = true ∧
      module.createDescriptorFromOps = some desc) (before : List VendorTagSection) :
    ((setUpVendorTags module before).isSome = true ↔ desc.Sectioned) ∧
      ∀ ok sections, setUpVendorTags module before = some (ok, sections) →
        ok = true ∧ getVendorTags sections [] = sections ∧
          sections.map (·.sectionName) = desc.getAllSectionNames ∧
          (∀ (s : Nat) entry, sections[s]? = some entry → entry.tags =
            (desc.getTagArray.filter fun tag => desc.getSectionIndex tag = s).map
              desc.vendorTag) ∧
          (sections.flatMap (·.tags)).Perm (desc.getTagArray.map desc.vendorTag) := by
  rw [setUpVendorTags_eq hmodule, Option.isSome_map]
  constructor
  · constructor
    · intro hsome
      obtain ⟨sections, hsections⟩ := Option.isSome_iff_exists.mp hsome
      exact VendorTagDescriptor.sectioned_of_sections hsections
    · intro hsectioned
      rw [VendorTagDescriptor.sections_eq hsectioned]
      rfl
  · intro ok sections hset
    obtain ⟨filled, hfilled, heq⟩ := Option.map_eq_some_iff.mp hset
    obtain ⟨rfl, rfl⟩ := Prod.mk.inj heq
    have hsectioned := VendorTagDescriptor.sectioned_of_sections hfilled
    refine ⟨rfl, rfl, ?_, ?_, VendorTagDescriptor.flatMap_tags_perm hsectioned hfilled⟩
    · rw [VendorTagDescriptor.sections_eq hsectioned] at hfilled
      cases hfilled
      apply List.ext_getElem (by simp)
      intro s hs hs'
      simp
    · rw [VendorTagDescriptor.sections_eq hsectioned] at hfilled
      cases hfilled
      intro s entry hentry
      rw [List.getElem?_mapIdx] at hentry
      obtain ⟨sectionName, -, rfl⟩ := Option.map_eq_some_iff.mp hentry
      rfl

/-- Three tags of two sections, which the array has in turn. -/
def turnedTags : VendorTagDescriptor where
  getAllSectionNames := ["lge.control", "lge.result"]
  getTagArray := [0x80000000, 0x80010000, 0x80000001]
  getTagName tag := if tag = 0x80000001 then "mode" else "state"
  getTagType _ := 1
  getSectionIndex tag := if tag = 0x80010000 then 1 else 0

theorem vendor_tags_sectioned_turned :
    ((setUpVendorTags { createDescriptorFromOps := some turnedTags } []).isSome = true ↔
        turnedTags.Sectioned) ∧
      ∀ ok sections,
        setUpVendorTags { createDescriptorFromOps := some turnedTags } [] = some (ok, sections) →
          ok = true ∧ getVendorTags sections [] = sections ∧
            sections.map (·.sectionName) = turnedTags.getAllSectionNames ∧
            (∀ (s : Nat) entry, sections[s]? = some entry → entry.tags =
              (turnedTags.getTagArray.filter fun tag => turnedTags.getSectionIndex tag = s).map
                turnedTags.vendorTag) ∧
            (sections.flatMap (·.tags)).Perm (turnedTags.getTagArray.map turnedTags.vendorTag) :=
  vendor_tags_sectioned ⟨rfl, rfl, rfl⟩ []

end LgeHardware.Provider
