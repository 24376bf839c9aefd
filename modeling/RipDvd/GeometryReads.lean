import RipDvd.GeometryDeclarations

namespace RipDvd
set_option autoImplicit true

open Metered

/-- The error of a read that is out of range, or one more than are allowed. -/
abbrev DvdGeometryValidationError.ReadBound (error : DvdGeometryValidationError) : Prop :=
  error.fault = .readExceededBound

/-- A part of the validator that makes so many reads at most, returns what has a property and
never fails for the bound on the reads. -/
abbrev GeometrySpends (cost : Nat) (p : GeometryRead α) (Q : α → Prop) : Prop :=
  Spends maximumSectorReads DvdGeometryValidationError.ReadBound cost p Q

section Checks

theorem readSector_spends {image : DvdImage} (h : lba < image.sectorCount) :
    GeometrySpends 1 (image.readSector lba) (· = image.sector lba) := by
  have hinside : ¬image.sectorCount ≤ lba := by omega
  exact (Spends.passed hinside).check fun _ _ => .read rfl

theorem requireExtentInsideImage_spends (extent : UdfExtent) (totalSectorCount : Nat)
    (description : String) :
    GeometrySpends 0 (requireExtentInsideImage extent totalSectorCount description) fun _ =>
      extent.endLba ≤ totalSectorCount := by
  refine (Spends.reject (by simp)).check fun _ _ => ?_
  exact (Spends.reject (by simp)).weaken (Nat.le_refl 0) fun _ h => Nat.le_of_not_lt h

theorem sectorCountForBytes_spends (byteCount : Nat) (description : String) :
    GeometrySpends 0 (sectorCountForBytes byteCount description) (· = sectorsOf byteCount) := by
  refine (Spends.reject (by simp)).check fun _ _ => ?_
  exact (Spends.reject (by simp)).check fun _ _ => .pure rfl

theorem readBothEndian16_spends (buffer : DvdSector) (offset : Nat) (description : String) :
    GeometrySpends 0 (readBothEndian16 buffer offset description)
      (· = readUInt16LE buffer offset) :=
  (Spends.reject (by simp)).check fun _ _ => .pure rfl

theorem readBothEndian32_spends (buffer : DvdSector) (offset : Nat) (description : String) :
    GeometrySpends 0 (readBothEndian32 buffer offset description)
      (· = readUInt32LE buffer offset) :=
  (Spends.reject (by simp)).check fun _ _ => .pure rfl

end Checks

section Iso

theorem readIsoView_spends (image : DvdImage) (descriptor : DvdSector) :
    GeometrySpends 0 (readIsoView image descriptor) fun view =>
      view.volumeSpaceSize = readUInt32LE descriptor 80 ∧
        view.volumeSpaceSize ≤ image.sectorCount := by
  refine (readBothEndian32_spends _ _ _).check fun volumeSpaceSize hsize => ?_
  refine (readBothEndian16_spends _ _ _).check fun volumeSetSize _ => ?_
  refine (readBothEndian16_spends _ _ _).check fun volumeSequenceNumber _ => ?_
  refine (readBothEndian16_spends _ _ _).check fun logicalBlockSize _ => ?_
  refine (Spends.reject (by simp)).check fun _ _ => ?_
  exact (Spends.reject (by simp)).check fun _ h => .pure ⟨hsize, Nat.le_of_not_lt h⟩

/-- The views of an ISO filesystem lie inside the image. -/
def IsoVolumes.Inside (totalSectorCount : Nat) (volumes : IsoVolumes) : Prop :=
  ∀ view ∈ volumes.views, view.volumeSpaceSize ≤ totalSectorCount

theorem readIsoDescriptor_spends {image : DvdImage} (h : 16 + index < image.sectorCount) :
    GeometrySpends 1 (readIsoDescriptor image (image.sector 16) index)
      (· = image.sector (16 + index)) := by
  rw [readIsoDescriptor]
  split
  · next hfirst => exact .pure (by rw [hfirst])
  · exact readSector_spends h

theorem readIsoDescriptors_spends {image : DvdImage} {volumes : IsoVolumes}
    (h : volumes.Inside image.sectorCount) :
    GeometrySpends remaining
      (readIsoDescriptors image (image.sector 16) remaining index volumes) fun result =>
        result.Inside image.sectorCount ∧ ∃ count < remaining,
          byteAt (image.sector (16 + index + count)) 0 = 255 ∧
            result.views.map (·.volumeSpaceSize) = volumes.views.map (·.volumeSpaceSize) ++
              isoVolumeSizes (image.sectors (16 + index) count) := by
  induction remaining generalizing index volumes with
  | zero => exact .fail (by simp)
  | succ remaining ih =>
    refine (Spends.reject (by simp)).check fun _ hinside => ?_
    refine (readIsoDescriptor_spends (Nat.lt_of_not_le hinside)).bind
      (Nat.le_add_left 1 remaining) fun descriptor hdescriptor => ?_
    refine (Spends.reject (by simp)).check fun _ _ => ?_
    dsimp only
    split
    · next hend =>
      rw [hdescriptor] at hend
      refine .pure ⟨h, 0, Nat.zero_lt_succ _, hend, ?_⟩
      rw [image.sectors_zero, isoVolumeSizes, List.filter_nil, List.map_nil, List.append_nil]
    · split
      · next htype =>
        refine (ih h).weaken (Nat.le_refl _) fun result hresult => ?_
        obtain ⟨hall, count, hcount, hend, hsizes⟩ := hresult
        have hplace : 16 + (index + 1) + count = 16 + index + (count + 1) := by omega
        refine ⟨hall, count + 1, Nat.succ_lt_succ hcount, hplace ▸ hend, ?_⟩
        rw [hsizes, image.sectors_succ, isoVolumeSizes_skip (hdescriptor ▸ htype)]
        rfl
      · next htype =>
        refine (Spends.reject (by simp)).check fun _ _ => ?_
        refine (Spends.reject (by simp)).check fun _ _ => ?_
        refine (readIsoView_spends image descriptor).check fun view hview => ?_
        refine (ih ?_).weaken (Nat.le_refl _) fun result hresult => ?_
        · intro other hother
          obtain hold | hnew := List.mem_append.1 hother
          · exact h other hold
          · rw [List.mem_singleton.1 hnew]
            exact hview.2
        · obtain ⟨hall, count, hcount, hend, hsizes⟩ := hresult
          have hplace : 16 + (index + 1) + count = 16 + index + (count + 1) := by omega
          refine ⟨hall, count + 1, Nat.succ_lt_succ hcount, hplace ▸ hend, ?_⟩
          rw [hsizes, image.sectors_succ, isoVolumeSizes_cons (hdescriptor ▸ htype),
            List.map_append, List.append_assoc, ← hdescriptor, ← hview.1]
          rfl

theorem readIsoVolumes_spends (image : DvdImage) :
    GeometrySpends 257 (readIsoVolumes image) fun result =>
      (result.isSome ↔ image.RecognizesIso) ∧
        ∀ volumes ∈ result, volumes.Inside image.sectorCount ∧ volumes.DeclaredBy image := by
  rw [readIsoVolumes]
  split
  · next h =>
    refine .pure ⟨⟨fun hsome => ?_, fun hiso => absurd h (Nat.not_le_of_lt hiso.1)⟩,
      fun volumes hnone => ?_⟩
    · cases hsome
    · cases hnone
  · next h =>
    refine (readSector_spends (Nat.lt_of_not_le h)).bind (by omega) fun firstDescriptor hfirst => ?_
    subst hfirst
    split
    · next hnot =>
      refine .pure ⟨⟨fun hsome => ?_, fun hiso => absurd hiso.2 hnot⟩, fun volumes hnone => ?_⟩
      · cases hsome
      · cases hnone
    · next hidentifier =>
      refine Spends.bind (readIsoDescriptors_spends ?_) (by decide) fun volumes hvolumes => ?_
      · intro view hview
        cases hview
      · refine .pure ⟨⟨fun _ => ⟨Nat.lt_of_not_le h, not_not.1 hidentifier⟩, fun _ => rfl⟩,
          fun other hother => ?_⟩
        cases hother
        exact hvolumes

end Iso

section Udf

theorem udfDescriptorCrcLength_spends (buffer : DvdSector) (identifier : Nat) :
    GeometrySpends 0 (udfDescriptorCrcLength buffer identifier) fun _ => True := by
  rw [udfDescriptorCrcLength]
  split
  · exact .pure trivial
  · split
    · exact (Spends.reject (by simp)).check fun _ _ => .pure trivial
    · split
      · exact (Spends.reject (by simp)).check fun _ _ => .pure trivial
      · exact .fail (by simp)

theorem validateUdfTag_spends (buffer : DvdSector) (identifiers : List Nat) (location : Nat) :
    GeometrySpends 0 (validateUdfTag buffer identifiers location)
      (· = readUInt16LE buffer 0) := by
  refine (Spends.reject (by simp)).check fun _ _ => ?_
  refine (Spends.reject (by simp)).check fun _ _ => ?_
  refine (Spends.reject (by simp)).check fun _ _ => ?_
  refine (Spends.reject (by simp)).check fun _ _ => ?_
  refine (udfDescriptorCrcLength_spends _ _).check fun _ _ => ?_
  refine (Spends.reject (by simp)).check fun _ _ => ?_
  exact (Spends.reject (by simp)).check fun _ _ => .pure rfl

theorem readUdfExtent_spends (buffer : DvdSector) (offset totalSectorCount : Nat)
    (description : String) (allowEmpty : Bool) :
    GeometrySpends 0 (readUdfExtent buffer offset totalSectorCount description allowEmpty)
      fun result => result = udfExtentAt buffer offset ∧
        ∀ extent ∈ result, extent.endLba ≤ totalSectorCount := by
  rw [readUdfExtent, udfExtentAt]
  split
  · refine (Spends.reject (by simp)).check fun _ _ => .pure ⟨rfl, fun extent hextent => ?_⟩
    cases hextent
  · refine (sectorCountForBytes_spends _ _).check fun sectorCount hcount => ?_
    subst hcount
    refine (requireExtentInsideImage_spends _ _ _).check fun _ hinside => ?_
    refine .pure ⟨rfl, fun extent hextent => ?_⟩
    cases hextent
    exact hinside

theorem readUdfExtentOf_spends (buffer : DvdSector) (offset totalSectorCount : Nat)
    (description : String) :
    GeometrySpends 0 (readUdfExtentOf buffer offset totalSectorCount description)
      fun extent => udfExtentAt buffer offset = some extent ∧ extent.endLba ≤ totalSectorCount := by
  refine (readUdfExtent_spends _ _ _ _ _).check fun result hresult => ?_
  cases result with
  | none => exact .fail (by simp)
  | some extent => exact .pure ⟨hresult.1.symm, hresult.2 extent rfl⟩

theorem readUdfExtents_spends (buffer : DvdSector) (totalSectorCount : Nat)
    (description : String) (allowEmpty : Bool) (offsets : List Nat) :
    GeometrySpends 0 (readUdfExtents buffer totalSectorCount description allowEmpty offsets)
      fun extents => extents = offsets.filterMap (udfExtentAt buffer) ∧
        ∀ extent ∈ extents, extent.endLba ≤ totalSectorCount := by
  induction offsets with
  | nil =>
    refine .pure ⟨rfl, fun extent hextent => ?_⟩
    cases hextent
  | cons offset offsets ih =>
    refine (readUdfExtent_spends _ _ _ _ _).check fun found hfound => ?_
    refine ih.check fun extents hextents => .pure ⟨?_, fun extent hextent => ?_⟩
    · rw [hextents.1, hfound.1, List.filterMap_cons]
      cases udfExtentAt buffer offset with
      | none => rfl
      | some extent => rfl
    · obtain hhere | hrest := List.mem_append.1 hextent
      · exact hfound.2 extent (Option.mem_toList.1 hhere)
      · exact hextents.2 extent hrest

theorem partitionsByReference_spends (partitions : List UdfPartition) (numbers : List Nat) :
    GeometrySpends 0 (partitionsByReference partitions numbers) fun found =>
      found.map some = numbers.map fun number => partitions.find? (·.number = number) := by
  induction numbers with
  | nil => exact .pure rfl
  | cons number numbers ih =>
    rw [partitionsByReference]
    cases hfind : partitions.find? (·.number = number) with
    | none => exact .fail (by simp)
    | some partition_ =>
      refine ih.check fun others hothers => .pure ?_
      rw [List.map_cons, List.map_cons, hothers, hfind]

/-- The file-set descriptor of a geometry lies in one of its partitions. -/
def UdfSequenceGeometry.FileSetInside (geometry : UdfSequenceGeometry) : Prop :=
  ∃ extent ∈ geometry.fileSetExtent, ∃ partition_ ∈ geometry.partitions,
    extent.endLba ≤ partition_.endLba

theorem validateUdfPartitionReferences_spends (geometry : UdfSequenceGeometry)
    (totalSectorCount : Nat) :
    GeometrySpends 0 (validateUdfPartitionReferences geometry totalSectorCount) fun _ =>
      geometry.FileSetInside := by
  refine (partitionsByReference_spends _ _).check fun partitions hpartitions => ?_
  refine (sectorCountForBytes_spends _ _).check fun sectorCount hcount => ?_
  subst hcount
  dsimp only
  split
  · exact .fail (by simp)
  · next partition_ hpartition =>
    refine (Spends.reject (by simp)).check fun _ hinside => ?_
    refine (requireExtentInsideImage_spends _ _ _).weaken (Nat.le_refl 0) fun _ _ => ?_
    have hfound := congrArg (·[geometry.logicalVolume.fileSetDescriptor.partitionReferenceNumber]?)
      hpartitions
    simp only [List.getElem?_map, hpartition, Option.map_some] at hfound
    obtain ⟨number, hnumber, hdeclared⟩ := Option.map_eq_some_iff.1 hfound.symm
    have hextent : geometry.fileSetExtent = some {
        sectorCount := sectorsOf geometry.logicalVolume.fileSetDescriptor.extentLength
        startLba := partition_.startLba +
          geometry.logicalVolume.fileSetDescriptor.logicalBlockNumber } :=
      Option.bind_eq_some_iff.2 ⟨number, hnumber,
        Option.bind_eq_some_iff.2 ⟨partition_, hdeclared, rfl⟩⟩
    refine ⟨_, hextent, partition_, List.mem_of_find?_eq_some hdeclared, ?_⟩
    simp only [UdfExtent.endLba]
    omega

/-- What a sequence has declared so far lies inside the image. -/
structure UdfSequenceState.Inside (totalSectorCount : Nat) (s : UdfSequenceState) : Prop where
  partitions : ∀ partition_ ∈ s.partitions, partition_.endLba ≤ totalSectorCount
  primaryVolume : ∀ extent ∈ s.primaryVolumeExtents, extent.endLba ≤ totalSectorCount
  unallocated : ∀ extent ∈ s.unallocatedExtents, extent.endLba ≤ totalSectorCount
  integrity : ∀ volume ∈ s.logicalVolume, volume.integritySequence.endLba ≤ totalSectorCount

theorem checkPartitionMetadata_spends (descriptor : DvdSector) (partition_ : UdfPartition)
    (offsets : List Nat) :
    GeometrySpends 0 (checkPartitionMetadata descriptor partition_ offsets) fun _ => True := by
  induction offsets with
  | nil => exact .pure trivial
  | cons offset offsets ih =>
    rw [checkPartitionMetadata]
    split
    · exact (Spends.reject (by simp)).check fun _ _ => ih
    · refine (sectorCountForBytes_spends _ _).check fun _ _ => ?_
      exact (Spends.reject (by simp)).check fun _ _ => ih

theorem readPartitionMaps_spends (descriptor : DvdSector) (mapEnd remaining mapOffset : Nat) :
    GeometrySpends 0 (readPartitionMaps descriptor mapEnd remaining mapOffset) fun numbers =>
      numbers = partitionNumbersAt descriptor mapOffset numbers.length := by
  induction remaining generalizing mapOffset with
  | zero => exact .pure rfl
  | succ remaining ih =>
    rw [readPartitionMaps]
    split
    · exact .pure rfl
    · refine (Spends.reject (by simp)).check fun _ hmap => ?_
      refine (ih _).check fun numbers hnumbers => .pure ?_
      have hlength : byteAt descriptor (mapOffset + 1) = 6 := by
        by_contra hother
        exact hmap (.inr (.inl hother))
      rw [hlength] at hnumbers
      rw [List.length_cons, partitionNumbersAt_succ, ← hnumbers]

theorem readLogicalVolume_spends (image : DvdImage) (descriptor : DvdSector) :
    GeometrySpends 0 (readLogicalVolume image descriptor) fun volume =>
      volume.DeclaredBy descriptor ∧ volume.integritySequence.endLba ≤ image.sectorCount := by
  refine (Spends.reject (by simp)).check fun _ _ => ?_
  refine (readPartitionMaps_spends _ _ _ _).check fun numbers hnumbers => ?_
  refine (Spends.reject (by simp)).check fun _ hcount => ?_
  refine (readUdfExtentOf_spends _ _ _ _).check fun integrity hintegrity => .pure ?_
  rw [not_not.1 hcount] at hnumbers
  exact ⟨⟨rfl, hintegrity.1, hnumbers⟩, hintegrity.2⟩

/-- What a sequence has declared so far. -/
def UdfSequenceState.DeclaredBy (descriptors : List DvdSector) (s : UdfSequenceState) : Prop :=
  UdfDeclarations descriptors s.logicalVolume.toList s.partitions s.primaryVolumeExtents
    s.unallocatedExtents

theorem parseUdfDescriptor_spends {image : DvdImage} {s : UdfSequenceState}
    (h : s.Inside image.sectorCount) (hdeclared : s.DeclaredBy descriptors)
    (hidentifier : identifier = readUInt16LE descriptor 0) (hend : identifier ≠ 8) :
    GeometrySpends 0 (parseUdfDescriptor image descriptor identifier s) fun next =>
      next.Inside image.sectorCount ∧ next.DeclaredBy (descriptors ++ [descriptor]) := by
  subst hidentifier
  have hother {identifier : Nat} (hne : readUInt16LE descriptor 0 ≠ identifier) :
      ofType identifier (descriptors ++ [descriptor]) = ofType identifier descriptors := by
    rw [ofType_snoc, if_neg hne, List.append_nil]
  have hsame {identifier : Nat} (heq : readUInt16LE descriptor 0 = identifier) :
      ofType identifier (descriptors ++ [descriptor]) =
        ofType identifier descriptors ++ [descriptor] := by
    rw [ofType_snoc, if_pos heq]
  obtain ⟨hvolumes, hpartitions, hprimary, hunallocated⟩ := hdeclared
  rw [parseUdfDescriptor]
  split
  · exact .fail (by simp)
  split
  · next htype =>
    refine (Spends.reject (by simp)).check fun _ _ => ?_
    refine (readUdfExtents_spends _ _ _ _ _).check fun extents hextents => .pure ⟨?_, ?_⟩
    · refine { h with primaryVolume := fun extent hextent => ?_ }
      obtain hold | hnew := List.mem_append.1 hextent
      · exact h.primaryVolume extent hold
      · exact hextents.2 extent hnew
    · constructor
      · rwa [hother (by omega)]
      · rwa [hother (by omega)]
      · rw [hsame htype, List.flatMap_append, ← hprimary, List.flatMap_singleton, hextents.1]
        rfl
      · rwa [hother (by omega)]
  split
  · next htype =>
    refine (requireExtentInsideImage_spends _ _ _).check fun _ hinside => ?_
    refine (Spends.reject (by simp)).check fun _ _ => ?_
    refine (checkPartitionMetadata_spends _ _ _).check fun _ _ => .pure ⟨?_, ?_⟩
    · refine { h with partitions := fun partition_ hpartition => ?_ }
      obtain hold | hnew := List.mem_append.1 hpartition
      · exact h.partitions partition_ hold
      · rw [List.mem_singleton.1 hnew]
        exact hinside
    · constructor
      · rwa [hother (by omega)]
      · rw [hsame htype, List.map_append, ← hpartitions]
        rfl
      · rwa [hother (by omega)]
      · rwa [hother (by omega)]
  split
  · next htype =>
    refine (Spends.reject (by simp)).check fun _ hfirst => ?_
    refine (readLogicalVolume_spends _ _).check fun volume hvolume => .pure ⟨?_, ?_⟩
    · refine { h with integrity := fun other hother => ?_ }
      cases hother
      exact hvolume.2
    · have hnone : s.logicalVolume = none := by
        cases hs : s.logicalVolume with
        | none => rfl
        | some other => exact absurd (by rw [hs]; rfl) hfirst
      rw [hnone] at hvolumes
      constructor
      · rw [hsame htype, List.forall₂_nil_right_iff.1 hvolumes]
        exact .cons hvolume.1 .nil
      · rwa [hother (by omega)]
      · rwa [hother (by omega)]
      · rwa [hother (by omega)]
  split
  · next htype =>
    refine (Spends.reject (by simp)).check fun _ _ => ?_
    refine (readUdfExtents_spends _ _ _ _ _).check fun extents hextents => .pure ⟨?_, ?_⟩
    · refine { h with unallocated := fun extent hextent => ?_ }
      obtain hold | hnew := List.mem_append.1 hextent
      · exact h.unallocated extent hold
      · exact hextents.2 extent hnew
    · constructor
      · rwa [hother (by omega)]
      · rwa [hother (by omega)]
      · rwa [hother (by omega)]
      · rw [hsame htype, List.flatMap_append, ← hunallocated, List.flatMap_singleton, hextents.1,
          List.filterMap_map]
        rfl
  · refine .pure ⟨h, ?_⟩
    constructor
    · rwa [hother (by omega)]
    · rwa [hother (by omega)]
    · rwa [hother (by omega)]
    · rwa [hother (by omega)]

theorem parseUdfDescriptors_spends {image : DvdImage} {s : UdfSequenceState}
    (h : s.Inside image.sectorCount) (hdeclared : s.DeclaredBy descriptors)
    (hend : lba + remaining ≤ image.sectorCount) :
    GeometrySpends remaining (parseUdfDescriptors image remaining lba s) fun result =>
      result.2.Inside image.sectorCount ∧ (result.1 = true → ∃ count < remaining,
        readUInt16LE (image.sector (lba + count)) 0 = 8 ∧
          result.2.DeclaredBy (descriptors ++ image.sectors lba count)) := by
  induction remaining generalizing lba s descriptors with
  | zero => exact .pure ⟨h, fun hfalse => by cases hfalse⟩
  | succ remaining ih =>
    have hread := readSector_spends (show lba < image.sectorCount by omega)
    refine hread.bind (Nat.le_add_left 1 remaining) fun descriptor hdescriptor => ?_
    refine (validateUdfTag_spends _ _ _).check fun identifier hidentifier => ?_
    split
    · next hterminator =>
      refine .pure ⟨h, fun _ => ⟨0, Nat.zero_lt_succ _, ?_, ?_⟩⟩
      · rw [Nat.add_zero, ← hdescriptor, ← hidentifier, hterminator]
      · rwa [image.sectors_zero, List.append_nil]
    · next hterminator =>
      refine (parseUdfDescriptor_spends h hdeclared hidentifier hterminator).check
        fun next hnext => ?_
      refine (ih hnext.1 hnext.2 (by omega)).weaken (Nat.le_refl _) fun result hresult => ?_
      refine ⟨hresult.1, fun hsaw => ?_⟩
      obtain ⟨count, hcount, htype, hall⟩ := hresult.2 hsaw
      have hplace : lba + 1 + count = lba + (count + 1) := by omega
      refine ⟨count + 1, Nat.succ_lt_succ hcount, hplace ▸ htype, ?_⟩
      rwa [image.sectors_succ, ← hdescriptor, List.append_cons]

/-- The extents of a descriptor sequence lie inside the image. -/
def UdfSequenceGeometry.Inside (totalSectorCount : Nat) (geometry : UdfSequenceGeometry) : Prop :=
  ∀ extent ∈ geometry.extents, extent.endLba ≤ totalSectorCount

theorem UdfSequenceState.Inside.geometry {s : UdfSequenceState} (h : s.Inside totalSectorCount)
    (hvolume : s.logicalVolume = some volume)
    (hfileSet : (UdfSequenceGeometry.mk volume s.partitions s.primaryVolumeExtents
      s.unallocatedExtents).FileSetInside) :
    (UdfSequenceGeometry.mk volume s.partitions s.primaryVolumeExtents
      s.unallocatedExtents).Inside totalSectorCount := by
  intro extent hextent
  simp only [UdfSequenceGeometry.extents, List.mem_append, List.mem_singleton,
    List.mem_map] at hextent
  obtain (((⟨partition_, hpartition, rfl⟩ | hprimary) | hunallocated) | rfl) | hset := hextent
  · exact h.partitions partition_ hpartition
  · exact h.primaryVolume extent hprimary
  · exact h.unallocated extent hunallocated
  · exact h.integrity volume hvolume
  · obtain ⟨declared, hdeclared, partition_, hpartition, hbelow⟩ := hfileSet
    cases hdeclared.symm.trans (Option.mem_toList.1 hset)
    exact hbelow.trans (h.partitions partition_ hpartition)

theorem parseUdfDescriptorSequence_spends {image : DvdImage} {sequence : UdfExtent}
    (h : sequence.endLba ≤ image.sectorCount) :
    GeometrySpends MAX_UDF_DESCRIPTOR_SECTORS (parseUdfDescriptorSequence image sequence)
      fun geometry => geometry.Inside image.sectorCount ∧ geometry.FileSetInside ∧
        geometry.DeclaredBy image sequence := by
  refine (Spends.reject (by simp)).check fun _ hbound => ?_
  have hempty : (UdfSequenceState.mk none [] [] [] false).Inside image.sectorCount := by
    constructor <;> intro found hfound <;> cases hfound
  have hnothing : (UdfSequenceState.mk none [] [] [] false).DeclaredBy [] :=
    ⟨.nil, rfl, rfl, rfl⟩
  refine (parseUdfDescriptors_spends hempty hnothing h).bind (Nat.le_of_not_lt hbound)
    fun result hresult => ?_
  obtain ⟨sawTerminator, s⟩ := result
  dsimp only
  split
  · exact .fail (by simp)
  · next volume hvolume =>
    refine (Spends.reject (by simp)).check fun _ hcomplete => ?_
    refine (validateUdfPartitionReferences_spends _ _).check fun _ hfileSet => .pure ?_
    refine ⟨hresult.1.geometry hvolume hfileSet, hfileSet, ?_⟩
    have hsaw : sawTerminator = true := by
      by_contra hnot
      exact hcomplete (.inl hnot)
    obtain ⟨count, hcount, htype, hdeclared⟩ := hresult.2 hsaw
    rw [List.nil_append, UdfSequenceState.DeclaredBy, hvolume] at hdeclared
    exact ⟨count, hcount, htype, hdeclared⟩

theorem hasValidUdfAnchor_spends (image : DvdImage) (lba : Int) :
    GeometrySpends 1 (hasValidUdfAnchor image lba) fun _ => True := by
  rw [hasValidUdfAnchor]
  split
  · exact .pure trivial
  · have hread := readSector_spends (show lba.toNat < image.sectorCount by omega)
    refine hread.bind (Nat.le_refl 1) fun descriptor _ => ?_
    split
    · exact .pure trivial
    · exact (validateUdfTag_spends _ _ _).check fun _ _ => .pure trivial

theorem hasAnchorEvidence_spends (image : DvdImage) (lbas : List Int) :
    GeometrySpends lbas.length (hasAnchorEvidence image lbas) fun _ => True := by
  induction lbas with
  | nil => exact .pure trivial
  | cons lba lbas ih =>
    refine (hasValidUdfAnchor_spends image lba).bind (Nat.le_add_left 1 _) fun found _ => ?_
    split
    · exact .pure trivial
    · exact ih

theorem readRecognition_spends {image : DvdImage} {lbas : List Nat}
    (h : ∀ lba ∈ lbas, lba < image.sectorCount) :
    GeometrySpends lbas.length (readRecognition image lbas) (· = lbas.map image.sector) := by
  induction lbas with
  | nil => exact .pure rfl
  | cons lba lbas ih =>
    refine (readSector_spends (h lba List.mem_cons_self)).bind (Nat.le_add_left 1 _)
      fun descriptor hdescriptor => ?_
    refine (ih fun other hother => h other (List.mem_cons_of_mem lba hother)).bind
      (Nat.le_refl _) fun descriptors hdescriptors => .pure ?_
    rw [hdescriptor, hdescriptors, List.map_cons]

theorem checkRecognition_spends (descriptors : List DvdSector) :
    GeometrySpends 0 (checkRecognition descriptors) fun _ => True := by
  refine (Spends.reject (by simp)).check fun _ _ => ?_
  refine (Spends.reject (by simp)).check fun _ _ => ?_
  exact (Spends.reject (by simp)).weaken (Nat.le_refl 0) fun _ _ => trivial

theorem readAlternateAnchors_spends {image : DvdImage} {lbas : List Int} (anchor : DvdSector)
    (h : ∀ lba ∈ lbas, lba < image.sectorCount) :
    GeometrySpends lbas.length (readAlternateAnchors image anchor lbas) fun _ => True := by
  induction lbas with
  | nil => exact .pure trivial
  | cons lba lbas ih =>
    have hrest := ih fun other hother => h other (List.mem_cons_of_mem lba hother)
    have hlba := h lba List.mem_cons_self
    rw [readAlternateAnchors]
    split
    · exact hrest.weaken (Nat.le_succ _) fun _ _ => trivial
    · next hplace =>
      have hread := readSector_spends (show lba.toNat < image.sectorCount by omega)
      refine hread.bind (Nat.le_add_left 1 _) fun alternate _ => ?_
      split
      · exact hrest
      split
      · exact hrest
      · refine (validateUdfTag_spends _ _ _).check fun _ _ => ?_
        refine (Spends.reject (by simp)).check fun _ _ => ?_
        exact hrest.bind (Nat.le_refl _) fun _ _ => .pure trivial

/-- What is known of the descriptor sequences that were read. -/
structure UdfSequences.Checked (image : DvdImage) (sequences : UdfSequences) : Prop where
  anchored : 256 < image.sectorCount
  declared : sequences.DeclaredBy image
  inside : ∀ extent ∈ sequences.extents, extent.endLba ≤ image.sectorCount
  mainFileSet : sequences.mainGeometry.FileSetInside
  reserveFileSet : sequences.reserveGeometry.FileSetInside
  agree : canonicalUdfGeometry sequences.mainGeometry =
    canonicalUdfGeometry sequences.reserveGeometry

theorem readAnchoredSequences_spends (image : DvdImage) :
    GeometrySpends 513 (readAnchoredSequences image) (·.Checked image) := by
  refine (Spends.reject (by simp)).check fun _ hanchored => ?_
  refine (readSector_spends (Nat.lt_of_not_le hanchored)).bind (by omega) fun anchor hanchor => ?_
  refine (validateUdfTag_spends _ _ _).check fun _ _ => ?_
  refine (readUdfExtentOf_spends _ _ _ _).check fun mainSequence hmain => ?_
  refine (readUdfExtentOf_spends _ _ _ _).check fun reserveSequence hreserve => ?_
  refine (Spends.reject (by simp)).check fun _ _ => ?_
  refine (parseUdfDescriptorSequence_spends hmain.2).bind (by decide)
    fun mainGeometry hmainRead => ?_
  refine (parseUdfDescriptorSequence_spends hreserve.2).bind (by decide)
    fun reserveGeometry hreserveRead => ?_
  refine (Spends.reject (by simp)).check fun _ hagree => .pure ?_
  subst hanchor
  refine ⟨Nat.lt_of_not_le hanchored, ⟨hmain.1, hreserve.1, hmainRead.2.2, hreserveRead.2.2⟩,
    fun extent hextent => ?_, hmainRead.2.1, hreserveRead.2.1, not_not.1 hagree⟩
  simp only [UdfSequences.extents, List.mem_append, List.mem_cons, List.not_mem_nil,
    or_false] at hextent
  obtain ((rfl | rfl) | hextent) | hextent := hextent
  · exact hmain.2
  · exact hreserve.2
  · exact hmainRead.1 extent hextent
  · exact hreserveRead.1 extent hextent

theorem indexesOf_eq_nil {test : α → Bool} {xs : List α} :
    indexesOf test xs = [] ↔ ¬∃ x ∈ xs, test x = true := by
  rw [indexesOf, List.map_eq_nil_iff, List.filter_eq_nil_iff]
  constructor
  · intro h hex
    obtain ⟨x, hx, htest⟩ := hex
    rw [← List.zipIdx_map_fst 0 xs] at hx
    obtain ⟨entry, hentry, rfl⟩ := List.mem_map.1 hx
    exact h entry hentry htest
  · intro h entry hentry htest
    exact h ⟨entry.1, List.fst_mem_of_mem_zipIdx hentry, htest⟩

theorem readUdfSequences_spends (image : DvdImage) :
    GeometrySpends 545 (readUdfSequences image) fun result =>
      (result.isSome ↔ image.RecognizesUdf) ∧ ∀ sequences ∈ result, sequences.Checked image := by
  have hlbas : ∀ lba ∈ List.range' 16 (min image.sectorCount (16 + UDF_RECOGNITION_SECTORS) - 16),
      lba < image.sectorCount := by
    intro lba hlba
    obtain ⟨hfirst, hlast⟩ := List.mem_range'_1.1 hlba
    omega
  have hcount : (List.range' 16 (min image.sectorCount (16 + UDF_RECOGNITION_SECTORS) - 16)).length
      ≤ 32 := by
    rw [List.length_range', UDF_RECOGNITION_SECTORS]
    omega
  refine ((readRecognition_spends hlbas).weaken hcount fun _ h => h).bind (by decide)
    fun descriptors hdescriptors => ?_
  have hrecognizes : image.RecognizesUdf ↔
      ∃ descriptor ∈ descriptors, decide (standardIdentifier descriptor ∈ nsrIdentifiers) := by
    subst hdescriptors
    simp only [DvdImage.RecognizesUdf, List.mem_map, List.mem_range'_1, decide_eq_true_eq]
    constructor
    · intro h
      obtain ⟨lba, hfirst, hlast, hidentifier⟩ := h
      exact ⟨_, ⟨lba, ⟨hfirst, by omega⟩, rfl⟩, hidentifier⟩
    · intro h
      obtain ⟨descriptor, ⟨lba, hlba, rfl⟩, hidentifier⟩ := h
      exact ⟨lba, hlba.1, by omega, hidentifier⟩
  split
  · next hnone =>
    refine (hasAnchorEvidence_spends _ _).bind (by simp) fun anchored _ => ?_
    refine (Spends.reject (by simp)).check fun _ _ => .pure ⟨?_, fun sequences hempty => ?_⟩
    · rw [hrecognizes]
      exact iff_of_false Bool.false_ne_true (indexesOf_eq_nil.1 hnone)
    · cases hempty
  · next hsome =>
    refine (checkRecognition_spends _).check fun _ _ => ?_
    refine (readAnchoredSequences_spends image).bind (by decide) fun sequences hchecked => .pure ?_
    refine ⟨⟨fun _ => ?_, fun _ => rfl⟩, fun other hother => ?_⟩
    · rw [hrecognizes]
      by_contra hnot
      exact hsome (indexesOf_eq_nil.2 hnot)
    · cases hother
      exact hchecked

end Udf

section Validation

theorem validateIsoGeometry_spends (image : DvdImage) :
    GeometrySpends 257 (validateIsoGeometry image) fun _ => True := by
  refine (readIsoVolumes_spends image).bind (Nat.le_refl 257) fun volumes _ => ?_
  split
  · exact .pure trivial
  · split
    · exact .fail (by simp)
    · refine (Spends.reject (by simp)).check fun _ _ => ?_
      exact (Spends.reject (by simp)).check fun _ _ => .pure trivial

theorem validateUdfGeometry_spends (image : DvdImage) :
    GeometrySpends 547 (validateUdfGeometry image) fun _ => True := by
  refine (readUdfSequences_spends image).bind (by decide) fun result hchecked => ?_
  split
  · exact .pure trivial
  · next sequences =>
    have hanchored := (hchecked.2 sequences rfl).anchored
    refine (readAlternateAnchors_spends sequences.anchor ?_).bind (Nat.le_refl 2)
      fun _ _ => .pure trivial
    intro lba hlba
    simp only [List.mem_cons, List.not_mem_nil, or_false] at hlba
    omega

/-- The bound on the reads is never what an image is rejected for. -/
theorem validateOpenedImage_spends (image : DvdImage) :
    GeometrySpends maximumSectorReads (validateOpenedImage image) fun _ => True := by
  refine (validateIsoGeometry_spends image).bind (by decide) fun isoGeometry _ => ?_
  refine Spends.bind ((validateUdfGeometry_spends image).rethrow fun _ h => h) ?_
    fun udfGeometry _ => ?_
  · decide
  · refine (Spends.reject (by simp)).check fun _ _ => ?_
    exact (Spends.reject (by simp)).check fun _ _ => .pure trivial

end Validation

end RipDvd
